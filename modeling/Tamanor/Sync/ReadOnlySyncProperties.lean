import Tamanor.Library.Runs
import Tamanor.Sync.InstagramContentProperties
import Tamanor.Sync.ReadOnlySync

/-! Sequences of syncs of one Instagram account, each of which starts from the cursor that
the ones before it have stored. -/

set_option autoImplicit false

namespace Tamanor.Sync

open Tamanor.Core Library Library.Paging

def SyncEnv.reader (env : SyncEnv) (igBusinessId : String) : IgReader :=
  ⟨env.transport, igBusinessId, (env.token.filter (· ≠ "")).getD "", none, none⟩

/-- A run with everything that is listed when it starts, from the newest media on. -/
structure ListedRun (igBusinessId : String) where
  env : SyncEnv
  listing : Listing (env.reader igBusinessId) none

variable {igBusinessId : String}

/-- New media are listed ahead of the old ones; a media may get new comments. -/
structure Grows (earlier later : ListedRun igBusinessId) : Prop where
  media : ∃ added, later.listing.media = added ++ earlier.listing.media
  comments : ∀ media ∈ earlier.listing.media, earlier.listing.Readable media →
    later.listing.Readable media ∧
      (earlier.listing.commentPages media).flatten.Sublist (later.listing.commentPages media).flatten

structure InstagramAccount (igBusinessId : String) (account : SyncAccount) : Prop where
  platform : account.platform = .instagramBusiness
  real : isRealConnection account.mode = true
  linkedId : account.linkedId = igBusinessId

def syncStep (account : SyncAccount) (run : ListedRun igBusinessId) : SyncAccount :=
  (runReadOnlySync run.env account).account

def history (account : SyncAccount) :
    List (ListedRun igBusinessId) → List (ListedRun igBusinessId × SyncRecord)
  | [] => []
  | run :: rest => (run, runReadOnlySync run.env account) :: history (syncStep account run) rest

def SyncVerdict.succeeded (verdict : SyncVerdict) : Prop :=
  verdict = .success ∨ verdict = .partialSuccess

/-- Every comment that is listed when a successful run starts is returned by that run or was
returned before; one that a partly successful run failed to ingest is returned again by the
time of the next successful run. -/
structure NoLostComments (runs : List (ListedRun igBusinessId × SyncRecord)) : Prop where
  returned : ∀ before run record after, runs = before ++ (run, record) :: after →
    record.verdict.succeeded → ∀ entry ∈ run.listing.content,
      entry ∈ record.items ∨ ∃ earlier ∈ before, entry ∈ earlier.2.items
  again : ∀ before failing record middle last lastRecord after,
    runs = before ++ (failing, record) :: (middle ++ (last, lastRecord) :: after) →
    record.verdict = .partialSuccess → lastRecord.verdict.succeeded →
    ∀ entry ∈ record.tally.failed,
      ∃ later ∈ middle ++ [(last, lastRecord)], entry ∈ later.2.items

/-- The run starts at the head of the list, and reads no media that is longer than it reads. -/
def StartsAtHead (account : SyncAccount) (run : ListedRun igBusinessId) : Prop :=
  account.lastCursor = none ∧ run.listing.Unabridged

variable {env : SyncEnv} {account : SyncAccount}

theorem not_succeeded_failed : ¬ SyncVerdict.failed.succeeded := by
  simp [SyncVerdict.succeeded]

/-- What a run can come to: it reads nothing, or it ingests what it has read and writes the
account, if it still holds the lease. -/
theorem runReadOnlySync_cases (env : SyncEnv) (account : SyncAccount) :
    (¬ (runReadOnlySync env account).verdict.succeeded ∧
      ((runReadOnlySync env account).account = account ∨
        ∃ err, (runReadOnlySync env account).account = account.afterError err env.now)) ∨
    ∃ fetched, fetchContent env account = .ok fetched ∧
      (runReadOnlySync env account).items = fetched.items ∧
      (runReadOnlySync env account).truncated = fetched.truncated ∧
      (runReadOnlySync env account).tally = ingestItems env 0 fetched.items emptyTally ∧
      ((runReadOnlySync env account).account = account ∨
        (runReadOnlySync env account).account = account.afterRead fetched
          (ingestItems env 0 fetched.items emptyTally).verdict env.now) := by
  unfold runReadOnlySync
  split
  · exact .inl ⟨not_succeeded_failed, .inl rfl⟩
  · split
    · exact .inl ⟨by simp [SyncRecord.without, SyncVerdict.succeeded], .inl rfl⟩
    · split
      · exact .inl ⟨not_succeeded_failed, .inl rfl⟩
      · cases answer : fetchContent env account with
        | error err =>
          dsimp only
          split
          · exact .inl ⟨by simp [SyncRecord.without, SyncVerdict.succeeded], .inl rfl⟩
          · refine .inl ⟨not_succeeded_failed, ?_⟩
            dsimp only [SyncRecord.without]
            split
            · exact .inr ⟨err, rfl⟩
            · exact .inl rfl
        | ok fetched =>
          refine .inr ⟨fetched, rfl, ?_⟩
          dsimp only
          split
          · exact ⟨rfl, rfl, rfl, .inl rfl⟩
          · exact ⟨rfl, rfl, rfl, .inr rfl⟩

theorem afterRead_identity (fetched : FetchResult) (verdict : SyncVerdict) (now : Int) :
    (account.afterRead fetched verdict now).platform = account.platform ∧
      (account.afterRead fetched verdict now).mode = account.mode ∧
      (account.afterRead fetched verdict now).linkedId = account.linkedId := by
  unfold SyncAccount.afterRead
  split <;> exact ⟨rfl, rfl, rfl⟩

theorem InstagramAccount.step (instagram : InstagramAccount igBusinessId account)
    (run : ListedRun igBusinessId) : InstagramAccount igBusinessId (syncStep account run) := by
  unfold syncStep
  rcases runReadOnlySync_cases run.env account with
    ⟨_, same | ⟨err, failed⟩⟩ | ⟨fetched, _, _, _, _, same | read⟩
  · rw [same]
    exact instagram
  · rw [failed]
    exact ⟨instagram.platform, instagram.real, instagram.linkedId⟩
  · rw [same]
    exact instagram
  · rw [read]
    obtain ⟨platform, mode, linkedId⟩ := @afterRead_identity account fetched
      (ingestItems run.env 0 fetched.items emptyTally).verdict run.env.now
    exact ⟨platform.trans instagram.platform, mode ▸ instagram.real,
      linkedId.trans instagram.linkedId⟩

theorem mem_failed_add {tally : Tally} {item entry : FetchedContent} {answer : ItemAnswer}
    (failed : entry ∈ (tally.add item answer).failed) : entry ∈ tally.failed ∨ entry = item := by
  cases answer with
  | done outcome => cases outcome <;> exact .inl failed
  | duplicateRace => exact .inl failed
  | failed => simpa [Tally.add] using failed

theorem mem_of_mem_failed {index : Nat} {items : List FetchedContent} {tally : Tally}
    {entry : FetchedContent} (failed : entry ∈ (ingestItems env index items tally).failed) :
    entry ∈ tally.failed ∨ entry ∈ items := by
  induction items generalizing index tally with
  | nil => exact .inl failed
  | cons item rest ih =>
    simp only [ingestItems] at failed
    split at failed
    · exact .inl failed
    · rcases ih failed with added | later
      · rcases mem_failed_add added with old | rfl
        · exact .inl old
        · exact .inr List.mem_cons_self
      · exact .inr (List.mem_cons_of_mem _ later)

theorem fetchContent_ok (instagram : InstagramAccount igBusinessId account) {fetched : FetchResult}
    (answer : fetchContent env account = .ok fetched) :
    ∃ result, fetchInstagramContent igBusinessId ((env.token.filter (· ≠ "")).getD "") env.transport
        ⟨account.lastCursor, none, none⟩ = .ok result ∧
      fetched.items = result.items ∧ fetched.truncated = result.truncated := by
  simp only [fetchContent, instagram.real, instagram.platform, Bool.not_true, Bool.false_eq_true,
    if_false, if_true] at answer
  split at answer
  · cases answer
  · split at answer
    · cases answer
    · rename_i token found
      simp only [fetchInstagramViaTransport, instagram.linkedId] at answer
      split at answer
      · cases answer
      · split at answer
        · rename_i result read
          rw [← Except.ok.inj answer, found]
          exact ⟨result, read, rfl, rfl⟩
        · cases answer

theorem items_eq_content_of_startsAtHead (instagram : InstagramAccount igBusinessId account)
    {run : ListedRun igBusinessId} (atHead : StartsAtHead account run)
    (succeeded : (runReadOnlySync run.env account).verdict.succeeded)
    (whole : (runReadOnlySync run.env account).truncated = false) :
    (runReadOnlySync run.env account).items = run.listing.content := by
  rcases runReadOnlySync_cases run.env account with ⟨failed, _⟩ | ⟨fetched, answer, items, truncated, _⟩
  · exact absurd succeeded failed
  · obtain ⟨result, read, sameItems, sameFlag⟩ := fetchContent_ok instagram answer
    rw [atHead.1] at read
    rw [truncated, sameFlag] at whole
    rw [items, sameItems, items_eq_collected run.listing read whole]
    exact List.flatMap_congr fun media member => atHead.2.collected_eq_entries member

theorem failed_subset_items (succeeded : (runReadOnlySync env account).verdict.succeeded)
    {entry : FetchedContent} (failed : entry ∈ (runReadOnlySync env account).tally.failed) :
    entry ∈ (runReadOnlySync env account).items := by
  rcases runReadOnlySync_cases env account with ⟨without, _⟩ | ⟨fetched, _, items, _, tally, _⟩
  · exact absurd succeeded without
  · rw [tally] at failed
    rw [items]
    exact (mem_of_mem_failed failed).resolve_left (List.not_mem_nil)

theorem Grows.content_subset {earlier later : ListedRun igBusinessId} (grows : Grows earlier later) :
    earlier.listing.content ⊆ later.listing.content := by
  intro entry member
  obtain ⟨media, listed, entered⟩ := List.mem_flatMap.mp member
  unfold Listing.entries at entered
  split at entered
  · rename_i readable
    obtain ⟨still, sublist⟩ := grows.comments media listed readable
    obtain ⟨page, onList, onPage⟩ := List.mem_flatMap.mp entered
    obtain ⟨comment, kept, rfl⟩ := List.mem_map.mp onPage
    obtain ⟨onPage, text⟩ := List.mem_filter.mp kept
    have present := sublist.subset (List.mem_flatten.mpr ⟨page, onList, onPage⟩)
    obtain ⟨laterPage, laterListed, onLater⟩ := List.mem_flatten.mp present
    obtain ⟨added, media_eq⟩ := grows.media
    refine List.mem_flatMap.mpr ⟨media, ?_, ?_⟩
    · rw [media_eq]
      exact List.mem_append_right _ listed
    · rw [Listing.entries, if_pos still]
      exact List.mem_flatMap.mpr ⟨laterPage, laterListed,
        List.mem_map_of_mem (List.mem_filter.mpr ⟨onLater, text⟩)⟩
  · cases entered

def ReturnsListed (entry : ListedRun igBusinessId × SyncRecord) : Prop :=
  entry.2.verdict.succeeded → entry.2.items = entry.1.listing.content ∧
    ∀ failed ∈ entry.2.tally.failed, failed ∈ entry.2.items

theorem history_returnsListed {runs : List (ListedRun igBusinessId)}
    (instagram : InstagramAccount igBusinessId account)
    (meets : Runs.Meets syncStep StartsAtHead account runs)
    (whole : ∀ entry ∈ history account runs, entry.2.truncated = false) :
    ∀ entry ∈ history account runs, ReturnsListed entry := by
  induction runs generalizing account with
  | nil => simp [history]
  | cons run rest ih =>
    intro entry member
    rcases List.mem_cons.mp member with rfl | later
    · intro succeeded
      exact ⟨items_eq_content_of_startsAtHead instagram meets.1 succeeded
        (whole _ List.mem_cons_self), fun failed => failed_subset_items succeeded⟩
    · exact ih (instagram.step run) meets.2
        (fun entry member => whole entry (List.mem_cons_of_mem _ member)) entry later

theorem map_fst_history (account : SyncAccount) (runs : List (ListedRun igBusinessId)) :
    (history account runs).map Prod.fst = runs := by
  induction runs generalizing account with
  | nil => rfl
  | cons run rest ih => rw [history, List.map_cons, ih]

/-- Nothing is lost in a sequence of runs that each start at the head of the list. -/
theorem noLostComments_of_startsAtHead {runs : List (ListedRun igBusinessId)}
    (instagram : InstagramAccount igBusinessId account) (grows : runs.Pairwise Grows)
    (whole : ∀ entry ∈ history account runs, entry.2.truncated = false)
    (meets : Runs.Meets syncStep StartsAtHead account runs) :
    NoLostComments (history account runs) := by
  have listed := history_returnsListed instagram meets whole
  constructor
  · intro before run record after shape succeeded entry member
    left
    have present : (run, record) ∈ history account runs := by simp [shape]
    rw [(listed _ present succeeded).1]
    exact member
  · intro before failing record middle last lastRecord after shape partly succeeded entry failed
    have present : (failing, record) ∈ history account runs := by simp [shape]
    have lastPresent : (last, lastRecord) ∈ history account runs := by simp [shape]
    have ordered : Grows failing last := by
      rw [← map_fst_history account runs, shape] at grows
      simp only [List.map_append, List.map_cons, List.pairwise_append, List.pairwise_cons] at grows
      exact grows.2.1.1 last (by simp)
    obtain ⟨items, among⟩ := listed _ present (.inr partly)
    refine ⟨(last, lastRecord), List.mem_append_right _ (List.mem_singleton_self _), ?_⟩
    rw [(listed _ lastPresent succeeded).1]
    refine ordered.content_subset ?_
    rw [← items]
    exact among entry failed

variable (paged : Bool) (newest : List MetaCommentRef)

def twoMedia : MetaContentTransport where
  listMedia _ _ opts :=
    match paged, opts.after with
    | false, _ => .ok ⟨[⟨"new", none⟩, ⟨"old", none⟩], none⟩
    | true, none => .ok ⟨[⟨"new", none⟩], some "older"⟩
    | true, some _ => .ok ⟨[⟨"old", none⟩], none⟩
  listComments mediaId _ _ := .ok ⟨if mediaId = "new" then newest else [], none⟩

def twoMediaEnv : SyncEnv where
  now := 0
  tenantActive := true
  gateReason := none
  leaseAcquired := true
  liveSync := true
  injected := false
  token := some "token"
  transport := twoMedia paged newest
  mockMetaFetch := []
  connectorRead := .error (.other "")
  ingest _ _ := .done .created
  leaseLostFrom := none
  leaseGoneOnError := false
  accountWritten := true

def twoMediaRun : ListedRun "ig" where
  env := twoMediaEnv paged newest
  listing := {
    mediaPages :=
      if paged then [[⟨"new", none⟩], [⟨"old", none⟩]] else [[⟨"new", none⟩, ⟨"old", none⟩]]
    failure := none
    lists := by
      cases paged with
      | false =>
        exact @Lists.last _ _ ((twoMediaEnv false newest).reader "ig").mediaPage none
          ⟨[⟨"new", none⟩, ⟨"old", none⟩], none⟩ rfl rfl
      | true =>
        refine @Lists.more _ _ ((twoMediaEnv true newest).reader "ig").mediaPage none
          ⟨[⟨"new", none⟩], some "older"⟩ "older" _ _ rfl rfl ?_
        exact @Lists.last _ _ ((twoMediaEnv true newest).reader "ig").mediaPage (some "older")
          ⟨[⟨"old", none⟩], none⟩ rfl rfl
    commentPages := fun media => [if media.id = "new" then newest else []]
    commentFailure := fun _ => none
    listsComments := fun media _ =>
      @Lists.last _ _ (((twoMediaEnv paged newest).reader "ig").commentPage media) none
        ⟨if media.id = "new" then newest else [], none⟩ rfl rfl }

theorem twoMediaRun_unabridged : (twoMediaRun paged newest).listing.Unabridged := by
  intro media _
  refine ⟨?_, fun unreadable => absurd rfl unreadable⟩
  intro _ page beyond
  cases beyond

theorem twoMediaRun_grows {newest later : List MetaCommentRef} (more : newest.Sublist later) :
    Grows (twoMediaRun paged newest) (twoMediaRun paged later) where
  media := ⟨[], rfl⟩
  comments := by
    intro media _ _
    refine ⟨rfl, ?_⟩
    simp only [twoMediaRun, List.flatten_cons, List.flatten_nil, List.append_nil]
    split
    · exact more
    · exact .slnil

def plainComment (id : String) : MetaCommentRef := ⟨id, ['x'], 0, none, none, none⟩

def freshInstagram : SyncAccount where
  platform := .instagramBusiness
  mode := .readOnly
  status := .active
  health := .healthy
  externalId := "ig"
  igBusinessId := some "ig"
  tokenExpiresAt := none
  contentPermissionState := none
  lastSyncedAt := none
  lastSuccessfulSyncAt := none
  lastCursor := none
  lastError := none
  lastErrorAt := none
  syncAttempts := 0
  nextRetryAt := none

theorem freshInstagram_instagram : InstagramAccount "ig" freshInstagram := ⟨rfl, rfl, rfl⟩

def commentedRuns : List (ListedRun "ig") :=
  [twoMediaRun paged [plainComment "a"], twoMediaRun paged [plainComment "a", plainComment "b"]]

theorem commentedRuns_grow : (commentedRuns paged).Pairwise Grows := by
  refine List.pairwise_cons.mpr ⟨?_, List.pairwise_singleton _ _⟩
  intro later member
  rw [List.mem_singleton.mp member]
  exact twoMediaRun_grows paged (List.Sublist.cons_cons _ (List.nil_sublist _))

theorem commentedRuns_whole :
    ∀ entry ∈ history freshInstagram (commentedRuns paged), entry.2.truncated = false := by
  intro entry member
  simp only [history, commentedRuns, List.mem_cons, List.not_mem_nil, or_false] at member
  cases paged
  · rcases member with rfl | rfl <;> rfl
  · rcases member with rfl | rfl <;> rfl

theorem noLostComments_one_page :
    ((history freshInstagram (commentedRuns false)).map fun entry => entry.2.items.length) = [1, 2] ∧
      NoLostComments (history freshInstagram (commentedRuns false)) := by
  refine ⟨by decide +kernel, noLostComments_of_startsAtHead freshInstagram_instagram
    (commentedRuns_grow false) (commentedRuns_whole false) ?_⟩
  exact ⟨⟨rfl, twoMediaRun_unabridged false _⟩, ⟨rfl, twoMediaRun_unabridged false _⟩, trivial⟩

/-- With two pages the second run starts at the older one, and misses the new comment. -/
theorem not_noLostComments : InstagramAccount "ig" freshInstagram ∧ freshInstagram.lastCursor = none ∧
    (commentedRuns true).Pairwise Grows ∧
    (∀ entry ∈ history freshInstagram (commentedRuns true), entry.2.truncated = false) ∧
    ¬ NoLostComments (history freshInstagram (commentedRuns true)) := by
  refine ⟨freshInstagram_instagram, rfl, commentedRuns_grow true, commentedRuns_whole true, ?_⟩
  intro noLost
  have lost := noLost.returned [_] _ _ [] rfl (.inl rfl)
    (normalizedComment ⟨"new", none⟩ (plainComment "b")) (by decide +kernel)
  rcases lost with here | ⟨earlier, member, before⟩
  · revert here
    decide +kernel
  · rw [List.mem_singleton.mp member] at before
    revert before
    decide +kernel

end Tamanor.Sync
