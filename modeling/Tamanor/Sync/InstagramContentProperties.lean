import Tamanor.Sync.InstagramContent

/-! What a read of an Instagram account returns, compared with what the transport lists. -/

set_option autoImplicit false

namespace Tamanor.Sync

open Tamanor.Core Library Library.Paging

/-- What a transport lists from a cursor on: its media pages, and the comment pages of each
media, as far as they can be read. -/
structure Listing (reader : IgReader) (after : Option String) where
  mediaPages : List (List MetaMediaRef)
  failure : Option ProviderError
  lists : Lists reader.mediaPage after mediaPages failure
  commentPages : MetaMediaRef → List (List MetaCommentRef)
  commentFailure : MetaMediaRef → Option ProviderError
  listsComments : ∀ media ∈ mediaPages.flatten,
    Lists (reader.commentPage media) none (commentPages media) (commentFailure media)

namespace Listing

variable {reader : IgReader} {after : Option String}

def media (listing : Listing reader after) : List MetaMediaRef := listing.mediaPages.flatten

def Readable (listing : Listing reader after) (media : MetaMediaRef) : Prop :=
  listing.commentFailure media = none

instance (listing : Listing reader after) : DecidablePred listing.Readable :=
  fun media => inferInstanceAs (Decidable (listing.commentFailure media = none))

def entries (listing : Listing reader after) (media : MetaMediaRef) : List FetchedContent :=
  if listing.Readable media then (listing.commentPages media).flatMap (normalizedPage media) else []

/-- One entry for every comment with text of every readable media, in the order of the listing. -/
def content (listing : Listing reader after) : List FetchedContent :=
  listing.media.flatMap listing.entries

def collected (listing : Listing reader after) (media : MetaMediaRef) : List FetchedContent :=
  ((listing.commentPages media).take igMaxCommentPagesPerMedia).flatMap (normalizedPage media)

/-- No readable media has a comment with text beyond the cap, and no other one has such a
comment before it. -/
def Unabridged (listing : Listing reader after) : Prop :=
  ∀ media ∈ listing.media,
    (listing.Readable media →
      ∀ page ∈ (listing.commentPages media).drop igMaxCommentPagesPerMedia,
        ∀ comment ∈ page, comment.text = []) ∧
    (¬ listing.Readable media →
      ∀ page ∈ (listing.commentPages media).take igMaxCommentPagesPerMedia,
        ∀ comment ∈ page, comment.text = [])

/-- A comment of a media that cannot be read is not also one of a readable media. -/
def Separate (listing : Listing reader after) : Prop :=
  ∀ gone ∈ listing.media, ¬ listing.Readable gone → ∀ kept ∈ listing.media, listing.Readable kept →
    ∀ page ∈ listing.commentPages gone, ∀ comment ∈ page,
      ∀ other ∈ listing.commentPages kept, ∀ reply ∈ other, comment.id ≠ reply.id

end Listing

variable {reader : IgReader} {after : Option String} {media : MetaMediaRef}
  {listing : Listing reader after}

theorem collectComments_items {pages : List (List MetaCommentRef)} {failure : Option ProviderError}
    (lists : Lists (reader.commentPage media) none pages failure) (out : List FetchedContent) :
    (collectComments reader media out).1 =
      out ++ (pages.take igMaxCommentPagesPerMedia).flatMap (normalizedPage media) := by
  have read := @walk_state _ _ _ _ (fun (out : List FetchedContent) comments =>
    (out ++ normalizedPage media comments, (none : Option ProviderError)))
    igMaxCommentPagesPerMedia none pages failure lists out fun _ _ => rfl
  rw [List.foldl_append_eq_append, ← List.flatMap_def] at read
  unfold collectComments
  rw [← read]
  dsimp only
  split <;> rfl

theorem scanMedia_items (listing : Listing reader after) (state : IgReadState)
    (member : media ∈ listing.media) :
    (scanMedia reader state media).1.items = state.items ++ listing.collected media := by
  have collected := collectComments_items (listing.listsComments media member) state.items
  unfold scanMedia
  split
  · rename_i items answer
    rw [answer] at collected
    exact collected
  · rename_i items err answer
    rw [answer] at collected
    split <;> exact collected

theorem forEach_scanMedia_items (listing : Listing reader after) (state : IgReadState)
    (passed : (forEach (scanMedia reader) state listing.media).2 = none) :
    (forEach (scanMedia reader) state listing.media).1.items =
      state.items ++ listing.media.flatMap listing.collected :=
  @forEach_flatMap _ _ _ _ (scanMedia reader) IgReadState.items listing.collected listing.media
    (fun state _ member => scanMedia_items listing state member) state passed

theorem items_eq_collected {igBusinessId accessToken : String} {transport : MetaContentTransport}
    {opts : IgReadOptions}
    (listing : Listing ⟨transport, igBusinessId, accessToken, opts.mediaLimit, opts.commentLimit⟩
      opts.after)
    {result : IgIngestResult}
    (returned : fetchInstagramContent igBusinessId accessToken transport opts = .ok result)
    (whole : result.truncated = false) :
    result.items = listing.media.flatMap listing.collected := by
  unfold fetchInstagramContent at returned
  dsimp only at returned
  split at returned
  · rename_i ended
    have visited := walk_ended listing.lists _ ended
    rw [forEach_flatten] at visited
    have appended := forEach_scanMedia_items listing ⟨[], 0, 0⟩ (congrArg Prod.snd visited)
    rw [Listing.media, visited] at appended
    rw [← Except.ok.inj returned]
    exact appended
  · rw [← Except.ok.inj returned] at whole
    cases whole
  · cases returned

theorem normalizedPage_eq_nil_iff (media : MetaMediaRef) (comments : List MetaCommentRef) :
    normalizedPage media comments = [] ↔ ∀ comment ∈ comments, comment.text = [] := by
  simp [normalizedPage, List.filter_eq_nil_iff]

theorem flatMap_normalizedPage_eq_nil_iff (media : MetaMediaRef)
    (pages : List (List MetaCommentRef)) :
    pages.flatMap (normalizedPage media) = [] ↔
      ∀ page ∈ pages, ∀ comment ∈ page, comment.text = [] := by
  simp [List.flatMap_eq_nil_iff, normalizedPage_eq_nil_iff]

theorem entries_of_readable (listing : Listing reader after) (readable : listing.Readable media) :
    listing.entries media = listing.collected media ++
      ((listing.commentPages media).drop igMaxCommentPagesPerMedia).flatMap
        (normalizedPage media) := by
  rw [Listing.entries, if_pos readable, Listing.collected, ← List.flatMap_append,
    List.take_append_drop]

theorem Listing.Unabridged.collected_eq_entries (unabridged : listing.Unabridged)
    (member : media ∈ listing.media) :
    listing.collected media = listing.entries media := by
  by_cases readable : listing.Readable media
  · have rest := (flatMap_normalizedPage_eq_nil_iff media _).mpr ((unabridged media member).1 readable)
    rw [entries_of_readable listing readable, rest, List.append_nil]
  · rw [Listing.entries, if_neg readable]
    exact (flatMap_normalizedPage_eq_nil_iff media _).mpr ((unabridged media member).2 readable)

theorem collected_eq_nil_of_separate (separate : listing.Separate)
    (same : listing.media.flatMap listing.collected = listing.content) {gone : MetaMediaRef}
    (member : gone ∈ listing.media) (unreadable : ¬ listing.Readable gone) :
    listing.collected gone = [] := by
  rw [List.eq_nil_iff_forall_not_mem]
  intro entry taken
  have listed : entry ∈ listing.content := by
    rw [← same]
    exact List.mem_flatMap.mpr ⟨gone, member, taken⟩
  obtain ⟨kept, present, entered⟩ := List.mem_flatMap.mp listed
  by_cases readable : listing.Readable kept
  · rw [Listing.entries, if_pos readable] at entered
    obtain ⟨page, pageMember, onPage⟩ := List.mem_flatMap.mp taken
    obtain ⟨other, otherMember, onOther⟩ := List.mem_flatMap.mp entered
    obtain ⟨comment, commentMember, named⟩ := List.mem_map.mp onPage
    obtain ⟨reply, replyMember, sameName⟩ := List.mem_map.mp onOther
    refine separate gone member unreadable kept present readable page (List.mem_of_mem_take pageMember)
      comment (List.mem_of_mem_filter commentMember) other otherMember reply
      (List.mem_of_mem_filter replyMember) ?_
    exact congrArg FetchedContent.externalId (named.trans sameName.symm)
  · rw [Listing.entries, if_neg readable] at entered
    cases entered

theorem forall_eq_of_flatMap_eq {α β : Type} {items : List α} {taken all : α → List β}
    (shorter : ∀ item ∈ items, (taken item).length ≤ (all item).length)
    (same : (items.flatMap taken).length = (items.flatMap all).length) :
    ∀ item ∈ items, (taken item).length = (all item).length := by
  induction items with
  | nil => simp
  | cons item rest ih =>
    have here := shorter item List.mem_cons_self
    have later : (rest.flatMap taken).length ≤ (rest.flatMap all).length := by
      rw [List.length_flatMap, List.length_flatMap]
      exact List.sum_le_sum fun other member => shorter other (List.mem_cons_of_mem _ member)
    simp only [List.flatMap_cons, List.length_append] at same
    intro other member
    rcases List.mem_cons.mp member with rfl | member
    · omega
    · exact ih (fun item member => shorter item (List.mem_cons_of_mem _ member)) (by omega) other
        member

theorem unabridged_of_flatMap_eq (separate : listing.Separate)
    (same : listing.media.flatMap listing.collected = listing.content) : listing.Unabridged := by
  have gone {media : MetaMediaRef} (member : media ∈ listing.media)
      (unreadable : ¬ listing.Readable media) : listing.collected media = [] :=
    collected_eq_nil_of_separate separate same member unreadable
  have shorter : ∀ media ∈ listing.media,
      (listing.collected media).length ≤ (listing.entries media).length := by
    intro media member
    by_cases readable : listing.Readable media
    · rw [entries_of_readable listing readable, List.length_append]
      omega
    · rw [gone member readable]
      exact Nat.zero_le _
  have equal := forall_eq_of_flatMap_eq shorter (congrArg List.length same)
  intro media member
  constructor
  · intro readable
    have lengths := equal media member
    rw [entries_of_readable listing readable, List.length_append] at lengths
    refine (flatMap_normalizedPage_eq_nil_iff media _).mp (List.length_eq_zero_iff.mp ?_)
    omega
  · intro unreadable
    exact (flatMap_normalizedPage_eq_nil_iff media _).mp (gone member unreadable)

/-- A read that is not marked as truncated returns what is listed exactly if no text lies
beyond the cap of a media, and none before the failure of one. -/
theorem items_eq_content_iff_unabridged {igBusinessId accessToken : String}
    {transport : MetaContentTransport} {opts : IgReadOptions}
    (listing : Listing ⟨transport, igBusinessId, accessToken, opts.mediaLimit, opts.commentLimit⟩
      opts.after)
    {result : IgIngestResult}
    (returned : fetchInstagramContent igBusinessId accessToken transport opts = .ok result)
    (whole : result.truncated = false) :
    (listing.Unabridged → result.items = listing.content) ∧
      (listing.Separate → result.items = listing.content → listing.Unabridged) := by
  rw [items_eq_collected listing returned whole]
  constructor
  · intro unabridged
    exact List.flatMap_congr fun media member => unabridged.collected_eq_entries member
  · exact unabridged_of_flatMap_eq

/-- Nothing is cut off without a mark. -/
def ReadsAll (igBusinessId accessToken : String) (transport : MetaContentTransport)
    (opts : IgReadOptions) : Prop :=
  ∀ (listing : Listing ⟨transport, igBusinessId, accessToken, opts.mediaLimit, opts.commentLimit⟩
      opts.after) (result : IgIngestResult),
    fetchInstagramContent igBusinessId accessToken transport opts = .ok result →
      result.truncated = false → result.items = listing.content

/-- One media whose comments are listed one a page; the length of a cursor is the number of
its page. -/
def singleMedia (pages : Nat) : MetaContentTransport where
  listMedia _ _ _ := .ok ⟨[⟨"m", none⟩], none⟩
  listComments _ _ opts :=
    let cursor := opts.after.getD ""
    .ok ⟨[⟨cursor, ['x'], 0, none, none, none⟩],
      if cursor.length + 1 < pages then some (cursor ++ "x") else none⟩

def singleMediaReader (pages : Nat) : IgReader := ⟨singleMedia pages, "ig", "token", none, none⟩

def singleMediaListing (pages : Nat)
    (ended : (readPages ((singleMediaReader pages).commentPage ⟨"m", none⟩) 30 none).stop = .ended) :
    Listing (singleMediaReader pages) none where
  mediaPages := [[⟨"m", none⟩]]
  failure := none
  lists := @Lists.last _ _ (singleMediaReader pages).mediaPage none ⟨[⟨"m", none⟩], none⟩ rfl rfl
  commentPages _ := (readPages ((singleMediaReader pages).commentPage ⟨"m", none⟩) 30 none).state
  commentFailure _ := none
  listsComments := by
    intro media member
    have only : media = ⟨"m", none⟩ := by simpa using member
    subst only
    exact lists_readPages ended

def twoComments : Listing (singleMediaReader 2) none := singleMediaListing 2 (by decide +kernel)

theorem items_eq_content_two :
    ∃ result, fetchInstagramContent "ig" "token" (singleMedia 2) ⟨none, none, none⟩ = .ok result ∧
      result.items.length = 2 ∧ result.items = twoComments.content := by
  have short : (twoComments.commentPages ⟨"m", none⟩).length ≤ igMaxCommentPagesPerMedia := by
    decide +kernel
  have unabridged : twoComments.Unabridged := by
    intro media _
    refine ⟨?_, fun unreadable => absurd rfl unreadable⟩
    intro _ page beyond
    have none : (twoComments.commentPages media).drop igMaxCommentPagesPerMedia = [] :=
      List.drop_eq_nil_of_le short
    rw [none] at beyond
    cases beyond
  have returned : ∃ result, fetchInstagramContent "ig" "token" (singleMedia 2) ⟨none, none, none⟩ =
      .ok result ∧ result.items.length = 2 ∧ result.truncated = false :=
    ⟨_, rfl, by decide +kernel, by decide +kernel⟩
  obtain ⟨result, returned, two, whole⟩ := returned
  exact ⟨result, returned, two, (items_eq_content_iff_unabridged twoComments returned whole).1
    unabridged⟩

/-- The comment on page 21 is missing, and nothing says so. -/
theorem not_readsAll : ¬ ReadsAll "ig" "token" (singleMedia 21) ⟨none, none, none⟩ := by
  intro all
  have same := all (singleMediaListing 21 (by decide +kernel)) _ rfl rfl
  have lengths := congrArg List.length same
  have different : 20 = 21 := by
    calc 20 = _ := by decide +kernel
      _ = _ := lengths
      _ = 21 := by decide +kernel
  cases different

end Tamanor.Sync
