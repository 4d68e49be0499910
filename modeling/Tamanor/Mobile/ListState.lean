import Tamanor.Ai.ControlCenter
import Tamanor.Library.Runs

/-! The lists of the mobile app: the reducers of the Inbox and of the Action Queue, and the
hooks around them, which load pages while the filters change and earlier answers are still
on their way. -/

set_option autoImplicit false

namespace Tamanor.Mobile

open Library.Runs

inductive ApiErrorCode where
  | invalidRequest | invalidCredentials | rateLimited | challengeRequired | unauthenticated
  | sessionExpired | sessionRevoked | notFound | permissionDenied | readOnly | conflict
  | accountLimitReached | workspaceUnsupported | verificationRequired | serverError
  | network | timeout | config
deriving DecidableEq

/-- `isSessionInvalid` of the client, and `isDefinitiveRejection` of the auth flows. -/
def isSessionInvalid (error : ApiErrorCode) : Bool :=
  error = .unauthenticated || error = .sessionExpired || error = .sessionRevoked

inductive LoadMode where
  | first | refresh | more
deriving DecidableEq

inductive ListPhase where
  | idle | loading | refreshing | loadingMore | ready | error
deriving DecidableEq

variable {ι υ φ κ : Type}

/-- `InboxState` and `QueueState`, over the rows and the counts of the list. -/
structure ListState (ι κ : Type) where
  phase : ListPhase
  items : List ι
  cursor : Option String
  hasMore : Bool
  counts : Option κ
  error : Option ApiErrorCode
  loadMoreFailed : Bool
  /-- `canAct` of the Inbox, `canDecide` of the Action Queue. -/
  canAct : Bool

def initialListState : ListState ι κ where
  phase := .idle
  items := []
  cursor := none
  hasMore := false
  counts := none
  error := none
  loadMoreFailed := false
  canAct := false

structure ListPage (ι κ : Type) where
  items : List ι
  nextCursor : Option String
  hasMore : Bool
  counts : κ
  canAct : Bool

inductive ListEvent (ι υ κ : Type) where
  | loadStart (mode : LoadMode)
  | loadSuccess (mode : LoadMode) (page : ListPage ι κ)
  | loadFailure (mode : LoadMode) (error : ApiErrorCode)
  /-- `ITEM_PATCHED`, which has no counts, and `ITEM_DECIDED`. -/
  | patched (item : ι) (view : υ) (counts : Option κ)
  | reset

def appendUnique (id : ι → String) (existing incoming : List ι) : List ι :=
  existing ++ incoming.filter fun item => !(existing.map id).contains (id item)

def listReducer (id : ι → String) (belongs : ι → υ → Bool) (state : ListState ι κ) :
    ListEvent ι υ κ → ListState ι κ
  | .loadStart mode =>
    { state with
      phase := match mode with
        | .more => .loadingMore
        | .refresh => if state.items.isEmpty then .loading else .refreshing
        | .first => .loading
      error := if mode = .more then state.error else none
      loadMoreFailed := false }
  | .loadSuccess mode page =>
    { phase := .ready
      items := if mode = .more then appendUnique id state.items page.items else page.items
      cursor := page.nextCursor
      hasMore := page.hasMore
      counts := some page.counts
      error := none
      loadMoreFailed := false
      canAct := page.canAct }
  | .loadFailure mode error =>
    if mode = .more then
      { state with phase := .ready, error := some error, loadMoreFailed := true }
    else
      { state with
        phase := if state.items.isEmpty then .error else .ready
        error := some error
        loadMoreFailed := false }
  | .patched item view counts =>
    let state := { state with counts := counts <|> state.counts }
    if state.items.any (id · == id item) then
      { state with
        items :=
          if belongs item view then
            state.items.map fun row => if id row = id item then item else row
          else
            state.items.filter fun row => id row ≠ id item }
    else
      state
  | .reset =>
    { (initialListState : ListState ι κ) with canAct := state.canAct, counts := state.counts }

section Rows

variable {id : ι → String} {belongs : ι → υ → Bool} {state : ListState ι κ}
  {event : ListEvent ι υ κ}

theorem mem_listReducer {row : ι}
    (member : row ∈ (listReducer id belongs state event).items) :
    row ∈ state.items ∨
      (∃ mode page, event = .loadSuccess mode page ∧ row ∈ page.items) ∨
      ∃ view counts, event = .patched row view counts ∧ belongs row view = true ∧
        ∃ old ∈ state.items, id old = id row := by
  cases event with
  | loadStart mode => exact .inl member
  | loadSuccess mode page =>
    simp only [listReducer] at member
    split at member
    · rcases List.mem_append.mp member with before | added
      · exact .inl before
      · exact .inr (.inl ⟨mode, page, rfl, List.mem_of_mem_filter added⟩)
    · exact .inr (.inl ⟨mode, page, rfl, member⟩)
  | loadFailure mode error =>
    refine .inl ?_
    simp only [listReducer] at member
    split at member <;> exact member
  | patched item view counts =>
    simp only [listReducer] at member
    split at member
    case isFalse absent => exact .inl member
    case isTrue present =>
      simp only at member
      split at member
      case isFalse leaves => exact .inl (List.mem_of_mem_filter member)
      case isTrue stays =>
        obtain ⟨old, listed, same⟩ := List.mem_map.mp member
        split at same
        case isFalse other => exact .inl (same ▸ listed)
        case isTrue patched =>
          subst same
          exact .inr (.inr ⟨view, counts, rfl, stays, old, listed, patched⟩)
  | reset => cases member

def ListState.Distinct (id : ι → String) (state : ListState ι κ) : Prop :=
  (state.items.map id).Nodup

theorem nodup_appendUnique {existing incoming : List ι}
    (distinct : (existing.map id).Nodup) (page : (incoming.map id).Nodup) :
    ((appendUnique id existing incoming).map id).Nodup := by
  rw [appendUnique, List.map_append, List.nodup_append]
  refine ⟨distinct, page.sublist (List.filter_sublist.map id), ?_⟩
  intro name before again added same
  obtain ⟨row, kept, named⟩ := List.mem_map.mp added
  have unseen := (List.mem_filter.mp kept).2
  rw [named, ← same, List.contains_iff_mem.mpr before] at unseen
  exact Bool.false_ne_true unseen

theorem distinct_listReducer (distinct : state.Distinct id)
    (page : ∀ mode page, event = .loadSuccess mode page → (page.items.map id).Nodup) :
    (listReducer id belongs state event).Distinct id := by
  cases event with
  | loadStart mode => exact distinct
  | loadSuccess mode answer =>
    have answered := page mode answer rfl
    simp only [listReducer, ListState.Distinct]
    split
    · exact nodup_appendUnique distinct answered
    · exact answered
  | loadFailure mode error =>
    simp only [listReducer]
    split <;> exact distinct
  | patched item view counts =>
    simp only [listReducer]
    split
    case isFalse absent => exact distinct
    case isTrue present =>
      simp only [ListState.Distinct]
      split
      case isFalse leaves => exact distinct.sublist (List.filter_sublist.map id)
      case isTrue stays =>
        -- A patched row keeps its id, so the ids are those of before.
        have ids : (state.items.map fun row => if id row = id item then item else row).map id =
            state.items.map id := by
          rw [List.map_map]
          refine List.map_congr_left fun row _ => ?_
          simp only [Function.comp]
          split
          case isTrue same => exact same.symm
          case isFalse other => rfl
        rw [ids]
        exact distinct
  | reset => exact List.nodup_nil

/-- No row is shown twice, if no page of the server has an id twice. -/
theorem rows_distinct {events : List (ListEvent ι υ κ)}
    (pages : Meets (listReducer id belongs) (fun _ event => ∀ mode page,
      event = .loadSuccess mode page → (page.items.map id).Nodup) initialListState events) :
    ∀ reached ∈ states (listReducer id belongs) initialListState events,
      (reached.items.map id).Nodup :=
  @invariant_states _ _ _ _ (ListState.Distinct id) _ distinct_listReducer _ List.nodup_nil pages

end Rows

/-- A row has moved to the second page. -/
theorem rows_distinct_moved :
    ((run (listReducer (fun id : String => id) fun _ (_ : Unit) => true) initialListState
      [.loadSuccess .first ⟨["a", "b"], some "b", true, (), true⟩,
        .loadSuccess .more ⟨["b", "c"], none, false, (), true⟩]).items.map fun id => id).Nodup := by
  refine rows_distinct ?_ _ (run_mem_states _)
  refine ⟨?_, ?_, trivial⟩
  all_goals
    intro mode page same
    cases same
    decide

structure ListRequest (φ : Type) where
  ticket : Nat
  mode : LoadMode
  cursor : Option String
  /-- The filters the fetch was made with; none before the token has been read. -/
  sentWith : Option φ

/-- What `useInboxController` and `useQueueController` do each in its own way. -/
structure ListHook (φ ι υ : Type) where
  id : ι → String
  view : φ → υ
  belongs : ι → υ → Bool
  /-- The phases in which `load` returns without a request. -/
  guarded : LoadMode → ListPhase → Bool

structure ListController (φ ι κ : Type) where
  list : ListState ι κ
  /-- The list of the last render, which is all that `load` sees of it. -/
  stateRef : ListState ι κ
  filtersRef : φ
  /-- The filters for which the effect has run last. -/
  effectKey : Option φ
  seq : Nat
  requests : List (ListRequest φ)
  mounted : Bool

inductive ListAction (φ ι κ : Type) where
  | render (filters : φ)
  | effect
  | load (mode : LoadMode)
  | token (ticket : Nat) (found : Bool)
  | answer (ticket : Nat) (result : Except ApiErrorCode (ListPage ι κ))
  /-- The server's answer to `act` or `decide`, with the row it returned. -/
  | mutated (item : ι) (counts : Option κ)
  | unmount

namespace ListHook

variable (hook : ListHook φ ι υ)

def mounted (filters : φ) : ListController φ ι κ where
  list := initialListState
  stateRef := initialListState
  filtersRef := filters
  effectKey := none
  seq := 0
  requests := []
  mounted := true

def dispatch (screen : ListController φ ι κ) (event : ListEvent ι υ κ) : ListController φ ι κ :=
  { screen with list := listReducer hook.id hook.belongs screen.list event }

/-- `load` up to its first await: the request supersedes the one before. -/
def start (mode : LoadMode) (screen : ListController φ ι κ) : ListController φ ι κ :=
  let ticket := screen.seq + 1
  let cursor := if mode = .more then screen.stateRef.cursor else none
  hook.dispatch
    { screen with seq := ticket, requests := ⟨ticket, mode, cursor, none⟩ :: screen.requests }
    (.loadStart mode)

def load (mode : LoadMode) (screen : ListController φ ι κ) : ListController φ ι κ :=
  let current := screen.stateRef
  if mode = .more ∧ (current.hasMore = false ∨ current.phase = .loadingMore) then screen
  else if hook.guarded mode current.phase then screen
  else hook.start mode screen

variable [DecidableEq φ]

def step (screen : ListController φ ι κ) : ListAction φ ι κ → ListController φ ι κ
  | .render filters =>
    -- An outstanding effect runs before the next render.
    if screen.effectKey = some screen.filtersRef then
      { screen with stateRef := screen.list, filtersRef := filters }
    else screen
  | .effect =>
    if screen.effectKey = some screen.filtersRef then screen
    else
      hook.load .first
        (hook.dispatch { screen with effectKey := some screen.filtersRef } .reset)
  | .load mode => hook.load mode screen
  | .token ticket true =>
    { screen with
      requests := screen.requests.map fun request =>
        if request.ticket = ticket ∧ request.sentWith = none then
          { request with sentWith := some screen.filtersRef }
        else request }
  | .token ticket false =>
    { screen with requests := screen.requests.filter (·.ticket ≠ ticket) }
  | .answer ticket result =>
    match screen.requests.find? fun r => r.ticket = ticket ∧ r.sentWith ≠ none with
    | none => screen
    | some request =>
      let screen :=
        { screen with requests := screen.requests.filter (·.ticket ≠ ticket) }
      if screen.mounted = false ∨ ticket ≠ screen.seq then screen
      else
        match result with
        | .ok page => hook.dispatch screen (.loadSuccess request.mode page)
        | .error error =>
          if isSessionInvalid error then screen
          else hook.dispatch screen (.loadFailure request.mode error)
  | .mutated item counts =>
    if screen.mounted then
      hook.dispatch screen (.patched item (hook.view screen.filtersRef) counts)
    else screen
  | .unmount => { screen with mounted := false }

/-- The request whose answer would be shown is sent with these filters, or not sent yet. -/
def NewestSentWith (screen : ListController φ ι κ) (filters : φ) : Prop :=
  ∀ request ∈ screen.requests, request.ticket = screen.seq →
    ∀ sent ∈ request.sentWith, sent = filters

/-- The rows and the newest request are those of the filters in force, once the effect has
run for them. -/
structure Current (belongs : φ → ι → Prop) (screen : ListController φ ι κ) : Prop where
  tickets : ∀ request ∈ screen.requests, request.ticket ≤ screen.seq
  rows : screen.effectKey = some screen.filtersRef →
    ∀ item ∈ screen.list.items, belongs screen.filtersRef item
  sent : screen.effectKey = some screen.filtersRef → NewestSentWith screen screen.filtersRef

/-- The server answers a request with rows that belong to the filters it was sent with. -/
def Answered (belongs : φ → ι → Prop) (screen : ListController φ ι κ) : ListAction φ ι κ → Prop
  | .answer ticket (.ok page) =>
    ∀ request ∈ screen.requests, request.ticket = ticket →
      ∀ sent ∈ request.sentWith, ∀ item ∈ page.items, belongs sent item
  | _ => True

/-- A change of the filters starts a request, or the newest one is for the new filters. -/
def Supersedes (screen : ListController φ ι κ) : ListAction φ ι κ → Prop
  | .effect =>
    hook.guarded .first screen.stateRef.phase = true → NewestSentWith screen screen.filtersRef
  | _ => True

instance (belongs : φ → ι → Prop) [∀ filters, DecidablePred (belongs filters)]
    (screen : ListController φ ι κ) :
    (action : ListAction φ ι κ) → Decidable (Answered belongs screen action)
  | .answer ticket (.ok page) =>
    inferInstanceAs (Decidable (∀ request ∈ screen.requests, request.ticket = ticket →
      ∀ sent ∈ request.sentWith, ∀ item ∈ page.items, belongs sent item))
  | .answer _ (.error _) | .render _ | .effect | .load _ | .token _ _ | .mutated _ _
  | .unmount => .isTrue trivial

instance (screen : ListController φ ι κ) :
    (action : ListAction φ ι κ) → Decidable (hook.Supersedes screen action)
  | .effect =>
    inferInstanceAs (Decidable (_ → ∀ request ∈ screen.requests,
      request.ticket = screen.seq → ∀ sent ∈ request.sentWith, sent = screen.filtersRef))
  | .answer _ _ | .render _ | .load _ | .token _ _ | .mutated _ _ | .unmount => .isTrue trivial

variable {hook} {belongs : φ → ι → Prop} {screen : ListController φ ι κ}

omit [DecidableEq φ] in
theorem current_start {mode : LoadMode}
    (tickets : ∀ request ∈ screen.requests, request.ticket ≤ screen.seq)
    (rows : screen.effectKey = some screen.filtersRef →
      ∀ item ∈ screen.list.items, belongs screen.filtersRef item) :
    Current belongs (hook.start mode screen) where
  tickets := by
    intro request member
    rcases List.mem_cons.mp member with rfl | earlier
    · exact Nat.le_refl _
    · exact Nat.le_succ_of_le (tickets request earlier)
  rows := rows
  sent := by
    intro _ request member newest sent sentWith
    rcases List.mem_cons.mp member with rfl | earlier
    · cases sentWith
    · have before := tickets request earlier
      have after : request.ticket = screen.seq + 1 := newest
      omega

omit [DecidableEq φ] in
theorem Current.load (current : Current belongs screen) (mode : LoadMode) :
    Current belongs (hook.load mode screen) := by
  simp only [ListHook.load]
  split
  · exact current
  · split
    · exact current
    · exact current_start current.tickets current.rows

omit [DecidableEq φ] in
theorem Current.narrow (current : Current belongs screen) {requests : List (ListRequest φ)}
    {list : ListState ι κ} {mounted : Bool} (kept : requests ⊆ screen.requests)
    (rows : screen.effectKey = some screen.filtersRef →
      ∀ item ∈ list.items, belongs screen.filtersRef item) :
    Current belongs { screen with requests, list, mounted } where
  tickets request member := current.tickets request (kept member)
  rows := rows
  sent done request member := current.sent done request (kept member)

theorem Current.answer (current : Current belongs screen) {ticket : Nat}
    {result : Except ApiErrorCode (ListPage ι κ)}
    (answered : Answered belongs screen (.answer ticket result)) :
    Current belongs (hook.step screen (.answer ticket result)) := by
  simp only [ListHook.step]
  split
  case h_1 none => exact current
  case h_2 request found =>
    have member := List.mem_of_find?_eq_some found
    have tested := List.find?_some found
    obtain ⟨same, sent⟩ := of_decide_eq_true tested
    obtain ⟨filters, sentWith⟩ := Option.ne_none_iff_exists'.mp sent
    have kept : screen.requests.filter (·.ticket ≠ ticket) ⊆ screen.requests :=
      List.filter_sublist.subset
    split
    · exact current.narrow kept current.rows
    case isFalse newest =>
      have newest : ticket = screen.seq := by
        by_contra other
        exact newest (.inr other)
      cases result with
      | ok page =>
        refine current.narrow kept fun done item shown => ?_
        rcases mem_listReducer shown with before | ⟨_, _, event, listed⟩ | ⟨_, _, event, _⟩
        · exact current.rows done item before
        · cases event
          have inForce := current.sent done request member (same.trans newest) filters sentWith
          exact inForce ▸ answered request member same filters sentWith item listed
        · cases event
      | error error =>
        simp only
        split
        · exact current.narrow kept current.rows
        · refine current.narrow kept fun done item shown => ?_
          rcases mem_listReducer shown with before | ⟨_, _, event, _⟩ | ⟨_, _, event, _⟩
          · exact current.rows done item before
          · cases event
          · cases event

/-- Rows that still belong after a patch that leaves them in the list. -/
def KeptByPatches (hook : ListHook φ ι υ) (belongs : φ → ι → Prop) : Prop :=
  ∀ filters old item, hook.id old = hook.id item → belongs filters old →
    hook.belongs item (hook.view filters) = true → belongs filters item

theorem Current.step (kept : KeptByPatches hook belongs) {action : ListAction φ ι κ}
    (current : Current belongs screen)
    (condition : Answered belongs screen action ∧ hook.Supersedes screen action) :
    Current belongs (hook.step screen action) := by
  obtain ⟨answered, supersedes⟩ := condition
  cases action with
  | render filters =>
    simp only [ListHook.step]
    split
    case isFalse outstanding => exact current
    case isTrue done =>
      refine ⟨current.tickets, ?_, ?_⟩
      all_goals
        intro again
        obtain rfl : screen.filtersRef = filters := Option.some.inj (done.symm.trans again)
      · exact current.rows done
      · exact current.sent done
  | effect =>
    simp only [ListHook.step]
    split
    · exact current
    · simp only [ListHook.load]
      split
      case isTrue more => cases more.1
      split
      case isTrue guarded =>
        exact ⟨current.tickets, fun _ _ shown => absurd shown List.not_mem_nil,
          fun _ => supersedes guarded⟩
      case isFalse free =>
        exact current_start current.tickets fun _ _ shown => absurd shown List.not_mem_nil
  | load mode => exact current.load mode
  | token ticket found =>
    cases found with
    | true =>
      refine ⟨?_, current.rows, ?_⟩
      · intro request member
        obtain ⟨before, listed, same⟩ := List.mem_map.mp member
        have := current.tickets before listed
        split at same <;> (subst same; exact this)
      · intro done request member newest sent sentWith
        obtain ⟨before, listed, same⟩ := List.mem_map.mp member
        split at same
        · subst same
          exact (Option.some.inj sentWith).symm
        · subst same
          exact current.sent done before listed newest sent sentWith
    | false =>
      exact current.narrow List.filter_sublist.subset current.rows
  | answer ticket result => exact current.answer answered
  | mutated item counts =>
    simp only [ListHook.step]
    split
    · refine current.narrow (fun _ listed => listed) fun done row shown => ?_
      rcases mem_listReducer shown with before | ⟨_, _, event, _⟩ |
        ⟨_, _, event, stays, old, listed, same⟩
      · exact current.rows done row before
      · cases event
      · cases event
        exact kept _ old _ same (current.rows done old listed) stays
    · exact current
  | unmount => exact current.narrow (fun _ listed => listed) current.rows

omit [DecidableEq φ] in
theorem current_mounted (filters : φ) :
    Current belongs (mounted filters : ListController φ ι κ) where
  tickets _ member := absurd member List.not_mem_nil
  rows := by intro done; cases done
  sent := by intro done; cases done

theorem rows_current (kept : KeptByPatches hook belongs) (filters : φ)
    {actions : List (ListAction φ ι κ)}
    (meets : Meets hook.step (fun screen action => Answered belongs screen action ∧
      hook.Supersedes screen action) (mounted filters) actions) :
    ∀ reached ∈ states hook.step (mounted filters) actions,
      reached.effectKey = some reached.filtersRef →
        ∀ item ∈ reached.list.items, belongs reached.filtersRef item := by
  intro reached member
  exact (invariant_states (fun current => current.step kept) (current_mounted filters) meets
    reached member).rows

end ListHook

/-! ### The Inbox and the Action Queue -/

inductive InboxView where
  | default | unread | archived | assignedMe | unassigned
deriving DecidableEq

structure InboxItem where
  id : String
  isRead : Bool
  archived : Bool
deriving DecidableEq

structure InboxFilters (ρ : Type) where
  view : InboxView
  others : ρ
deriving DecidableEq

def belongsInView (item : InboxItem) : InboxView → Bool
  | .archived => item.archived
  | .unread => !item.isRead && !item.archived
  | .assignedMe | .unassigned | .default => !item.archived

def inboxReducer :
    ListState InboxItem κ → ListEvent InboxItem InboxView κ → ListState InboxItem κ :=
  listReducer (·.id) belongsInView

def useInboxController (ρ : Type) : ListHook (InboxFilters ρ) InboxItem InboxView where
  id := (·.id)
  view := (·.view)
  belongs := belongsInView
  guarded mode phase := mode ≠ .more && (phase = .loading || phase = .refreshing)

@[simp] theorem useInboxController_list {ρ : Type}
    (screen : ListController (InboxFilters ρ) InboxItem κ)
    (event : ListEvent InboxItem InboxView κ) :
    ((useInboxController ρ).dispatch screen event).list = inboxReducer screen.list event := rfl

inductive QueueTab where
  | active | approval | blocked | resolved | all
deriving DecidableEq

structure QueueItem where
  id : String
  queueState : Ai.QueueState
deriving DecidableEq

def tabStates : QueueTab → List Ai.QueueState
  | .active => [.approvalRequired, .failed]
  | .approval => [.approvalRequired]
  | .blocked => [.blockedBySafety, .failed]
  | .resolved => [.executed, .noAction, .approved, .rejected, .rollbackNeeded]
  | .all => []

def belongsInTab (item : QueueItem) (tab : QueueTab) : Bool :=
  tab = .all || (tabStates tab).contains item.queueState

def queueReducer : ListState QueueItem κ → ListEvent QueueItem QueueTab κ → ListState QueueItem κ :=
  listReducer (·.id) belongsInTab

/-- A first load is not guarded: it comes from the mount or from a change of the tab. -/
def useQueueController : ListHook QueueTab QueueItem QueueTab where
  id := (·.id)
  view := fun tab => tab
  belongs := belongsInTab
  guarded mode phase := mode = .refresh && phase = .refreshing

@[simp] theorem useQueueController_list (screen : ListController QueueTab QueueItem κ)
    (event : ListEvent QueueItem QueueTab κ) :
    (useQueueController.dispatch screen event).list = queueReducer screen.list event := rfl

/-- Every row shown is one that the server gives for the filters in force, and belongs to
their view, unless a change of the filters has been swallowed by a load under way. -/
theorem inbox_rows_of_filters {ρ : Type} [DecidableEq ρ] (served : InboxFilters ρ → String → Prop)
    (filters : InboxFilters ρ) {actions : List (ListAction (InboxFilters ρ) InboxItem κ)}
    (meets : Meets (useInboxController ρ).step (fun screen action =>
      ListHook.Answered (fun filters item =>
        served filters item.id ∧ belongsInView item filters.view = true) screen action ∧
      (useInboxController ρ).Supersedes screen action) (ListHook.mounted filters) actions) :
    ∀ reached ∈ states (useInboxController ρ).step (ListHook.mounted filters) actions,
      reached.effectKey = some reached.filtersRef → ∀ item ∈ reached.list.items,
        served reached.filtersRef item.id ∧ belongsInView item reached.filtersRef.view = true := by
  refine ListHook.rows_current ?_ filters meets
  intro filters old item same before stays
  have same : old.id = item.id := same
  exact ⟨same ▸ before.1, stays⟩

def firstPageAsked : List (ListAction (InboxFilters Unit) InboxItem Unit) :=
  [.effect, .token 1 true, .render ⟨.default, ()⟩]

def inboxPage : ListPage InboxItem Unit := ⟨[⟨"a", false, false⟩], some "a", true, (), true⟩

def archivePage : ListPage InboxItem Unit := ⟨[⟨"z", true, true⟩], none, false, (), true⟩

/-- The archive is opened while a second page of the inbox is on the way, which comes late. -/
def archiveOpened : List (ListAction (InboxFilters Unit) InboxItem Unit) :=
  firstPageAsked ++ [.answer 1 (.ok inboxPage), .render ⟨.default, ()⟩, .load .more,
    .token 2 true, .render ⟨.archived, ()⟩, .effect, .token 3 true,
    .answer 2 (.ok ⟨[⟨"b", false, false⟩], none, false, (), true⟩), .answer 3 (.ok archivePage)]

def inboxServes (filters : InboxFilters Unit) (id : String) : Prop :=
  if filters.view = .archived then id = "z" else id ∈ ["a", "b"]

instance (filters : InboxFilters Unit) : DecidablePred (inboxServes filters) := fun id =>
  inferInstanceAs (Decidable (if filters.view = .archived then id = "z" else id ∈ ["a", "b"]))

theorem inbox_rows_of_filters_archive :
    let reached := run (useInboxController Unit).step (ListHook.mounted ⟨.default, ()⟩)
      archiveOpened
    reached.list.items = archivePage.items ∧ ∀ item ∈ reached.list.items,
      inboxServes reached.filtersRef item.id ∧ belongsInView item reached.filtersRef.view = true :=
  ⟨by decide, inbox_rows_of_filters inboxServes ⟨.default, ()⟩ (by decide) _
    (run_mem_states _) (by decide)⟩

-- Opened while the first page is on the way, the archive shows the rows of that page.
example :
    let reached := run (useInboxController Unit).step (ListHook.mounted ⟨.default, ()⟩)
      (firstPageAsked ++ [.render ⟨.archived, ()⟩, .effect, .answer 1 (.ok inboxPage)])
    reached.effectKey = some ⟨.archived, ()⟩ ∧ reached.list.items = inboxPage.items := by
  decide

/-- Nothing swallows a change of the tab. -/
theorem queue_rows_of_tab (served : QueueTab → String → Prop) (tab : QueueTab)
    {actions : List (ListAction QueueTab QueueItem κ)}
    (answered : Meets useQueueController.step (ListHook.Answered fun tab item =>
      served tab item.id ∧ belongsInTab item tab = true) (ListHook.mounted tab) actions) :
    ∀ reached ∈ states useQueueController.step (ListHook.mounted tab) actions,
      reached.effectKey = some reached.filtersRef → ∀ item ∈ reached.list.items,
        served reached.filtersRef item.id ∧ belongsInTab item reached.filtersRef = true := by
  refine ListHook.rows_current ?_ tab (@Meets.of_invariant _ _ _ _ (fun _ => True) _ _
    (fun _ _ => trivial) (fun _ kept => ⟨kept, ?_⟩) _ trivial answered)
  · intro tab old item same before stays
    have same : old.id = item.id := same
    exact ⟨same ▸ before.1, stays⟩
  · rename_i action _
    cases action
    case effect => exact fun guarded => absurd guarded Bool.false_ne_true
    all_goals exact trivial

/-- The tab is changed before its page has come, which then comes late. -/
def resolvedOpened : List (ListAction QueueTab QueueItem Unit) :=
  [.effect, .token 1 true, .render .resolved, .effect, .token 2 true,
    .answer 1 (.ok ⟨[⟨"a", .failed⟩], none, false, (), true⟩),
    .answer 2 (.ok ⟨[⟨"r", .executed⟩], none, false, (), true⟩)]

def queueServes (tab : QueueTab) (id : String) : Prop :=
  if tab = .resolved then id = "r" else id = "a"

instance (tab : QueueTab) : DecidablePred (queueServes tab) := fun id =>
  inferInstanceAs (Decidable (if tab = .resolved then id = "r" else id = "a"))

theorem queue_rows_of_tab_resolved :
    let reached := run useQueueController.step (ListHook.mounted .active) resolvedOpened
    reached.list.items = [⟨"r", .executed⟩] ∧ ∀ item ∈ reached.list.items,
      queueServes reached.filtersRef item.id ∧ belongsInTab item reached.filtersRef = true :=
  ⟨by decide, queue_rows_of_tab queueServes .active (by decide) _ (run_mem_states _) (by decide)⟩

end Tamanor.Mobile
