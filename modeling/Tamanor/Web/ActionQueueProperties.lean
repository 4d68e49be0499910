import Tamanor.Sync.LiveActionsProperties
import Tamanor.Web.ActionQueue

/-! How long a decision on a queue item lasts. The mobile handler decides only where a decision
is allowed; the web actions write whatever they find, and a live hide never looks at the state
of its item. -/

set_option autoImplicit false

namespace Tamanor.Web

open Ai Tamanor.Core Library Sync

def isTerminal (state : QueueState) : Bool := terminalStates.contains state

def isApproved (state : QueueState) : Bool := [QueueState.approved, .executed].contains state

/-- What a later state of the item keeps of a decision: a closed item is left as it is, and an
approval stays with its operator until the item is closed. -/
structure KeepsDecision (before after : QueueItem) : Prop where
  closed : isTerminal before.queueState = true → after = before
  approval : ∀ operator, isApproved before.queueState = true →
    before.approvedByUserId = some operator →
    isTerminal after.queueState = true ∨
      (isApproved after.queueState = true ∧ after.approvedByUserId = some operator)

theorem KeepsDecision.refl (item : QueueItem) : KeepsDecision item item where
  closed _ := rfl
  approval _ approved same := .inr ⟨approved, same⟩

theorem KeepsDecision.trans {before between after : QueueItem}
    (first : KeepsDecision before between) (second : KeepsDecision between after) :
    KeepsDecision before after where
  closed := by
    intro terminal
    have same := first.closed terminal
    rw [← same] at terminal
    exact (second.closed terminal).trans same
  approval := by
    intro operator approved by_
    rcases first.approval operator approved by_ with terminal | ⟨still, same⟩
    · rw [second.closed terminal]
      exact .inl terminal
    · exact second.approval operator still same

theorem not_terminal_of_canApply (decision : QueueDecision) (state : QueueState) :
    canApplyDecision decision state = true → isTerminal state = false := by
  cases decision <;> cases state <;> decide

theorem not_approved_of_canApprove (state : QueueState) :
    canApplyDecision .approve state = true → isApproved state = false := by
  cases state <;> decide

theorem terminal_iff (state : QueueState) :
    isTerminal state = true ↔ state = .rejected ∨ state = .noAction := by
  cases state <;> decide

variable {item : QueueItem}

theorem keepsDecision_of_canApply {decision : QueueDecision} (userId : String)
    (allowed : canApplyDecision decision item.queueState = true) :
    KeepsDecision item (item.decide decision userId) where
  closed := by
    intro terminal
    rw [not_terminal_of_canApply decision item.queueState allowed] at terminal
    cases terminal
  approval := by
    intro operator approved by_
    cases decision with
    | approve =>
      rw [not_approved_of_canApprove item.queueState allowed] at approved
      cases approved
    | reject => exact .inl rfl
    | resolve => exact .inl rfl

theorem keepsDecision_resolveQueueItem {state : QueueState}
    (reaches : state = .executed ∨ state = .noAction)
    (meets : item.queueState = .noAction → state = .noAction) :
    KeepsDecision item (item.resolveQueueItem state) := by
  unfold QueueItem.resolveQueueItem QueueItem.unlessRejected
  split
  · exact .refl item
  next rejected =>
    constructor
    · intro terminal
      have resolved : item.queueState = .noAction :=
        ((terminal_iff item.queueState).mp terminal).resolve_left rejected
      rw [meets resolved, ← resolved]
    · intro operator approved by_
      rcases reaches with rfl | rfl
      · exact .inr ⟨rfl, by_⟩
      · exact .inl rfl

/-- The write after a hide finds no resolved item that it would reopen, and no approval of
another operator that it would replace. -/
def QueueItem.afterHideMeets (item : QueueItem) (userId : String) (result : HideExecutionResult) :
    Bool :=
  result.status != .executed || item.queueState == .rejected ||
    (item.queueState != .noAction &&
      (!isApproved item.queueState || item.approvedByUserId.isNone ||
        item.approvedByUserId == some userId))

theorem keepsDecision_afterHide {userId : String} {result : HideExecutionResult}
    (meets : item.afterHideMeets userId result = true) :
    KeepsDecision item (item.afterHide userId result) := by
  unfold QueueItem.afterHideMeets at meets
  unfold QueueItem.afterHide
  split
  next executed =>
    unfold QueueItem.unlessRejected
    split
    · exact .refl item
    next rejected =>
      simp only [executed, bne_self_eq_false, Bool.false_or, Bool.or_eq_true, beq_iff_eq,
        rejected, false_or, Bool.and_eq_true, bne_iff_ne, ne_eq, Bool.not_eq_true',
        Option.isNone_iff_eq_none] at meets
      obtain ⟨unresolved, own⟩ := meets
      constructor
      · intro terminal
        rcases (terminal_iff item.queueState).mp terminal with same | same
        · exact absurd same rejected
        · exact absurd same unresolved
      · intro operator approved by_
        rcases own with (unapproved | none) | same
        · rw [approved] at unapproved
          cases unapproved
        · rw [by_] at none
          cases none
        · rw [by_] at same
          cases same
          exact .inr ⟨rfl, rfl⟩
  next =>
    split
    · exact keepsDecision_resolveQueueItem (.inr rfl) (fun _ => rfl)
    · exact .refl item

/-! What an attempt writes to the queue: it resolves the item, one way or the other. -/

def OnlyResolves (run : HideRun) : Prop :=
  ∀ state ∈ run.queueWrites, state = .executed ∨ state = .noAction

section Attempt

variable {env : HideEnvironment} {cfg : LiveActionsConfig} {opts : HideOptions} {run : HideRun}

section

variable (resolves : OnlyResolves run)
include resolves

theorem onlyResolves_resolveQueueItem {state : QueueState}
    (reaches : state = .executed ∨ state = .noAction) :
    OnlyResolves (run.resolveQueueItem state) := by
  unfold HideRun.resolveQueueItem
  split
  · intro written member
    rcases List.mem_append.mp member with earlier | last
    · exact resolves written earlier
    · rw [List.mem_singleton.mp last]
      exact reaches
  · exact resolves

theorem onlyResolves_afterInsert (row : ExecutionRow) : OnlyResolves (run.afterInsert row) := by
  have inserted : OnlyResolves { run with recorded := run.recorded ++ [row] } := resolves
  unfold HideRun.afterInsert
  dsimp only
  have patched : OnlyResolves
      (if row.status = .failed ∧ row.providerErrorCode = some "token_expired" then
        { run with recorded := run.recorded ++ [row] }.patchAccount tokenExpiredPatch
      else { run with recorded := run.recorded ++ [row] }) := by
    split
    · exact resolves
    · exact inserted
  split
  · exact onlyResolves_resolveQueueItem patched (.inl rfl)
  · exact patched

theorem onlyResolves_record (status : ExecutionStatus) (reason : String)
    (provider : Option HideCommentResult) :
    OnlyResolves (record env run status reason provider).1 := by
  unfold record
  split
  · exact onlyResolves_afterInsert resolves _
  · split
    · split <;> exact resolves
    · exact resolves
  · exact resolves

theorem onlyResolves_preflight {outcome : HideOutcome}
    (ended : commentPreflight env run = some outcome) : OnlyResolves outcome.1 := by
  unfold commentPreflight at ended
  split at ended
  · cases ended
  · cases ended
    exact resolves
  · split_ifs at ended with missing token permission <;> cases ended
    · exact onlyResolves_record (onlyResolves_resolveQueueItem resolves (.inr rfl)) _ _ _
    · refine onlyResolves_record ?_ _ _ _
      exact resolves
    · exact onlyResolves_record resolves _ _ _
    · exact onlyResolves_record resolves _ _ _
  · split_ifs at ended with hidden unhideable <;> cases ended
    · exact onlyResolves_record resolves _ _ _
    · exact onlyResolves_record (onlyResolves_resolveQueueItem resolves (.inr rfl)) _ _ _

theorem onlyResolves_liveHide : OnlyResolves (liveHide env run).1 := by
  unfold liveHide
  split
  next outcome ended => exact onlyResolves_preflight resolves ended
  next =>
    have posting : OnlyResolves
        { run with liveHides := run.liveHides ++
            [hideInput run.ctx (run.ctx.account.accessToken.getD "")] } := resolves
    dsimp only
    split
    · exact posting
    · split
      · unfold recordVerifiedHide
        split
        · exact posting
        · exact onlyResolves_record posting _ _ _
        · exact onlyResolves_record posting _ _ _
      · exact onlyResolves_record posting _ _ _

theorem onlyResolves_dryRunHide : OnlyResolves (dryRunHide env run).1 := by
  unfold dryRunHide
  split
  · exact resolves
  · exact onlyResolves_record resolves _ _ _

theorem onlyResolves_healed {call : Nat} {now : Int} {healed : HideRun}
    (done : healIfStale env cfg opts call now run = .ok healed) :
    OnlyResolves healed := by
  unfold healIfStale revalidateAndRepair at done
  split at done
  · split at done
    · split at done
      · cases done
        exact resolves
      · split at done
        · cases done
        · cases done
          exact resolves
        · dsimp only at done
          split at done <;> cases done <;> exact resolves
    · cases done
      exact resolves
  · cases done
    exact resolves

theorem onlyResolves_gatedAttempt : OnlyResolves (gatedAttempt env cfg opts run).1 := by
  unfold gatedAttempt
  split
  · exact resolves
  next healed done =>
    have kept := onlyResolves_healed resolves done
    split
    · exact onlyResolves_record kept _ _ _
    · unfold explicitLiveAttempt policyAttempt
      split_ifs
      all_goals
        first
        | exact onlyResolves_record kept _ _ _
        | exact onlyResolves_liveHide kept
        | exact onlyResolves_dryRunHide kept

theorem onlyResolves_safeAttempt : OnlyResolves (safeAttempt env cfg opts run).1 := by
  unfold safeAttempt
  split
  · exact onlyResolves_gatedAttempt resolves
  · dsimp only
    split
    · refine onlyResolves_record ?_ _ _ _
      exact resolves
    · refine onlyResolves_gatedAttempt ?_
      exact resolves

theorem onlyResolves_retryBlocked (latest : ExecutionRow) :
    OnlyResolves (retryBlocked env cfg opts run latest).1 := by
  unfold retryBlocked
  split
  · exact resolves
  next healed done =>
    have kept := onlyResolves_healed resolves done
    split
    · exact onlyResolves_safeAttempt kept
    · split
      · exact kept
      · exact onlyResolves_safeAttempt kept

end

theorem onlyResolves_attempt (ctx : HideContext) :
    OnlyResolves (attemptFacebookHide env cfg opts ctx).1 := by
  have started : OnlyResolves (HideRun.start ctx) := by
    intro state member
    cases member
  unfold attemptFacebookHide
  dsimp only
  split
  · exact started
  · split
    · exact started
    · split
      · exact onlyResolves_safeAttempt started
      · split
        · exact started
        · split
          · exact onlyResolves_retryBlocked started _
          · exact onlyResolves_safeAttempt started

theorem liveAttempt_of_posts {ctx : HideContext} (trigger : ctx.trigger = .approval)
    (posted : (attemptFacebookHide env cfg opts ctx).1.liveHides ≠ []) :
    opts.liveAttempt = true := by
  obtain ⟨-, permitted, ⟨account, frame⟩, -⟩ := attempt_reaches env cfg opts ctx posted
  rcases permitted.confirmed with ⟨live, -⟩ | ⟨autonomous, -⟩
  · exact live
  · rw [frame, trigger] at autonomous
    cases autonomous

end Attempt

/-! When the calls keep out of each other's way. -/

def QueueHideStage.beforePost : QueueHideStage → Bool
  | .recording .. => false
  | .resolving .. => false
  | _ => true

def QueueStage.postsLater : QueueStage → Bool
  | .deciding _ hides => hides.any (·.liveAttempt)
  | .answering _ => false
  | .preflight _ => true
  | .performing request stage later =>
    request.liveAttempt && stage.beforePost || later.any (·.liveAttempt)

namespace ActionQueue

variable (queue : ActionQueue)

def closingMeets (after : QueueItem) : Bool :=
  !isTerminal after.queueState || isTerminal queue.item.queueState ||
    queue.calls.rows.all fun entry => !entry.2.stage.postsLater

/-- A decision of the web is one that the mobile rules allow, or changes nothing. -/
def decisionMeets (decision : QueueDecision) (userId : String) : Bool :=
  (canApplyDecision decision queue.item.queueState ||
      queue.item.decide decision userId == queue.item) &&
    queue.closingMeets (queue.item.decide decision userId)

def resolutionMeets (state : QueueState) : Bool :=
  (queue.item.queueState != .noAction || state == .noAction) &&
    queue.closingMeets (queue.item.resolveQueueItem state)

def advanceMeets (running : QueueCall) : Bool :=
  match running.stage with
  | .deciding decision _ => queue.decisionMeets decision running.session.userId
  | .answering decision =>
    !canApplyDecision decision queue.item.queueState ||
      queue.closingMeets (queue.item.decide decision running.session.userId)
  | .preflight _ => true
  | .performing _ stage _ =>
    match stage with
    | .recording _ _ _ (state :: _) => queue.resolutionMeets state
    | .resolving _ (state :: _) => queue.resolutionMeets state
    | .resolving (.ok result) [] =>
      queue.item.afterHideMeets running.session.userId result &&
        queue.closingMeets (queue.item.afterHide running.session.userId result)
    | _ => true

def meetsRules : QueueAction → Bool
  | .start _ _ (.executeLive ..) => !isTerminal queue.item.queueState
  | .start .. => true
  | .advance call _ => (queue.calls.find? call).all queue.advanceMeets
  | .abort _ => true

end ActionQueue

def MeetsRules (queue : ActionQueue) (action : QueueAction) : Prop :=
  queue.meetsRules action = true

instance (queue : ActionQueue) : DecidablePred (MeetsRules queue) :=
  fun action => inferInstanceAs (Decidable (queue.meetsRules action = true))

/-! What holds between the statements of such calls. -/

/-- An attempt of a call is the one that was asked for, and resolves the item at most. -/
def QueueStage.Sound : QueueStage → Prop
  | .performing request (.reading hide) _ =>
    hide.options.liveAttempt = request.liveAttempt ∧ hide.ctx.trigger = .approval
  | .performing request (.acting hide _) _ =>
    hide.options.liveAttempt = request.liveAttempt ∧ hide.ctx.trigger = .approval
  | .performing _ (.recording _ _ _ writes) _ => ∀ state ∈ writes, state = .executed ∨ state = .noAction
  | .performing _ (.resolving _ writes) _ => ∀ state ∈ writes, state = .executed ∨ state = .noAction
  | _ => True

structure QueueInvariant (queue : ActionQueue) : Prop where
  pending : ∀ call running, queue.calls.find? call = some running →
    running.stage.postsLater = true → isTerminal queue.item.queueState = false
  sound : ∀ call running, queue.calls.find? call = some running → running.stage.Sound
  posted : ∀ state ∈ queue.posts, isTerminal state = false

theorem queueInvariant_queueItemOf (item : QueueItem) (executions : List ExecutionRow) :
    QueueInvariant (queueItemOf item executions) where
  pending := by
    intro call running found
    cases found
  sound := by
    intro call running found
    cases found
  posted := by
    intro state member
    cases member

namespace QueueInvariant

variable {queue : ActionQueue} {call : Nat} {running : QueueCall}

theorem endCall (inv : QueueInvariant queue) (call : Nat) : QueueInvariant (queue.endCall call) := by
  have still {other : Nat} {running : QueueCall}
      (found : (queue.endCall call).calls.find? other = some running) :
      queue.calls.find? other = some running := by
    have kept := (Table.find?_deleteWhere (fun other _ => other == call)).symm.trans found
    exact (Option.filter_eq_some_iff.mp kept).1
  constructor
  · intro other running found
    exact inv.pending other running (still found)
  · intro other running found
    exact inv.sound other running (still found)
  · exact inv.posted

theorem setStage (inv : QueueInvariant queue) {stage : QueueStage}
    (found : queue.calls.find? call = some running) (sound : stage.Sound)
    (pending : stage.postsLater = true → running.stage.postsLater = true) :
    QueueInvariant (queue.setStage call stage) := by
  have cases {other : Nat} {later : QueueCall}
      (foundLater : (queue.setStage call stage).calls.find? other = some later) :
      queue.calls.find? other = some later ∨ later = { running with stage } := by
    have changed := (Table.find?_modify call _).symm.trans foundLater
    split at changed
    next same =>
      rw [same, found] at changed
      exact .inr (Option.some.inj changed).symm
    next => exact .inl changed
  constructor
  · intro other later foundLater posts
    rcases cases foundLater with before | rfl
    · exact inv.pending other later before posts
    · exact inv.pending call running found (pending posts)
  · intro other later foundLater
    rcases cases foundLater with before | rfl
    · exact inv.sound other later before
    · exact sound
  · exact inv.posted

theorem hideNext (inv : QueueInvariant queue) {later : List HideRequest}
    (found : queue.calls.find? call = some running)
    (pending : later.any (·.liveAttempt) = true → running.stage.postsLater = true) :
    QueueInvariant (queue.hideNext call later) := by
  cases later with
  | nil => exact inv.endCall call
  | cons request later =>
    refine inv.setStage found trivial ?_
    intro posts
    refine pending ?_
    simpa [QueueStage.postsLater, QueueHideStage.beforePost] using posts

theorem setItem (inv : QueueInvariant queue) {item : QueueItem}
    (closing : queue.closingMeets item = true) : QueueInvariant { queue with item } where
  pending := by
    intro call running found posts
    have unclosed := inv.pending call running found posts
    by_contra terminal
    unfold ActionQueue.closingMeets at closing
    rw [Bool.not_eq_false] at terminal
    rw [terminal, unclosed] at closing
    have idle := List.all_eq_true.mp closing _ (Table.find?_eq_some_iff.mp found)
    rw [posts] at idle
    cases idle
  sound := inv.sound
  posted := inv.posted

theorem setExecutions (inv : QueueInvariant queue) (executions : List ExecutionRow) :
    QueueInvariant { queue with executions } :=
  ⟨inv.pending, inv.sound, inv.posted⟩

theorem setPosts (inv : QueueInvariant queue) {posts : List QueueState}
    (posted : ∀ state ∈ posts, isTerminal state = false) : QueueInvariant { queue with posts } :=
  ⟨inv.pending, inv.sound, posted⟩

end QueueInvariant

section Step

variable {queue : ActionQueue} {call : Nat} {running : QueueCall}

theorem hideNext_item (queue : ActionQueue) (call : Nat) (later : List HideRequest)
    (item : QueueItem) :
    ({ queue with item }.hideNext call later : ActionQueue) =
      { queue.hideNext call later with item } := by
  cases later <;> rfl

theorem item_hideNext (queue : ActionQueue) (call : Nat) (later : List HideRequest) :
    (queue.hideNext call later).item = queue.item := by
  cases later <;> rfl

structure QueueStep (queue after : ActionQueue) : Prop where
  invariant : QueueInvariant after
  decision : KeepsDecision queue.item after.item

theorem QueueStep.same {after : ActionQueue} (inv : QueueInvariant after)
    (item : after.item = queue.item) : QueueStep queue after :=
  ⟨inv, by rw [item]; exact .refl _⟩

variable {stage : QueueStage}

section

variable (inv : QueueInvariant queue) (found : queue.calls.find? call = some running)
include inv found

theorem queueStep_resolution {state : QueueState} (reaches : state = .executed ∨ state = .noAction)
    (meets : queue.resolutionMeets state = true) (sound : stage.Sound)
    (pending : stage.postsLater = true → running.stage.postsLater = true) :
    QueueStep queue
      { queue.setStage call stage with item := queue.item.resolveQueueItem state } := by
  obtain ⟨unresolved, closing⟩ := Bool.and_eq_true_iff.mp meets
  constructor
  · exact (inv.setItem closing).setStage found sound pending
  · refine keepsDecision_resolveQueueItem reaches ?_
    intro resolved
    simpa [resolved] using unresolved

theorem queueStep_advanceHide {request : HideRequest} {stage : QueueHideStage}
    {later : List HideRequest} (input : QueueInput)
    (is : running.stage = .performing request stage later)
    (meets : queue.advanceMeets running = true) :
    QueueStep queue (queue.advanceHide call running request later input stage) := by
  have sound := inv.sound call running found
  unfold ActionQueue.advanceMeets at meets
  rw [is] at sound meets
  have laterPosts : later.any (·.liveAttempt) = true → running.stage.postsLater = true := by
    intro posts
    rw [is]
    simp [QueueStage.postsLater, posts]
  have stillPosts {next : QueueHideStage} (before : stage.beforePost = true) :
      (QueueStage.performing request next later).postsLater = true →
        running.stage.postsLater = true := by
    intro posts
    rw [is]
    unfold QueueStage.postsLater at posts ⊢
    dsimp only at posts ⊢
    rw [before]
    rcases Bool.or_eq_true_iff.mp posts with own | others
    · simp [(Bool.and_eq_true_iff.mp own).1]
    · simp [others]
  have afterPost {next : QueueHideStage} (after : next.beforePost = false) :
      (QueueStage.performing request next later).postsLater = true →
        running.stage.postsLater = true := by
    intro posts
    refine laterPosts ?_
    simpa [QueueStage.postsLater, after] using posts
  cases stage with
  | loading =>
    unfold ActionQueue.advanceHide
    dsimp only
    split
    · exact .same (inv.hideNext found laterPosts) (item_hideNext ..)
    · split
      · exact .same (inv.hideNext found laterPosts) (item_hideNext ..)
      · exact .same (inv.setStage found ⟨rfl, rfl⟩ (stillPosts rfl)) rfl
  | reading hide =>
    exact .same (inv.setStage found sound (stillPosts rfl)) rfl
  | acting hide existing =>
    have resolves : OnlyResolves (hide.attempt existing input.now .failed).1 :=
      onlyResolves_attempt hide.ctx
    have staged : QueueInvariant (queue.setStage call (.performing request (.recording hide existing
        input.now (hide.attempt existing input.now .failed).1.queueWrites) later)) :=
      inv.setStage found resolves (stillPosts rfl)
    refine .same (staged.setPosts ?_) rfl
    intro state member
    split at member
    · exact inv.posted state member
    next posted =>
      rcases List.mem_cons.mp member with rfl | earlier
      · refine inv.pending call running found ?_
        have live : hide.options.liveAttempt = true := liveAttempt_of_posts sound.2 posted
        rw [sound.1] at live
        rw [is]
        simp [QueueStage.postsLater, QueueHideStage.beforePost, live]
      · exact inv.posted state earlier
  | recording hide existing now writes =>
    cases writes with
    | cons state writes =>
      exact queueStep_resolution inv found (sound state List.mem_cons_self) meets
        (fun other member => sound other (List.mem_cons_of_mem _ member)) (afterPost rfl)
    | nil =>
      have resolves : OnlyResolves
          (hide.attempt existing now (queue.insertAnswer hide existing now).1).1 :=
        onlyResolves_attempt hide.ctx
      have staged : QueueInvariant (queue.setStage call (.performing request (.resolving
          (hide.attempt existing now (queue.insertAnswer hide existing now).1).2
          ((hide.attempt existing now
            (queue.insertAnswer hide existing now).1).1.queueWrites.drop
              (hide.attempt existing now .failed).1.queueWrites.length)) later)) :=
        inv.setStage found (fun state member => resolves state (List.mem_of_mem_drop member))
          (afterPost rfl)
      exact .same (staged.setExecutions _) rfl
  | resolving result writes =>
    cases writes with
    | cons state writes =>
      exact queueStep_resolution inv found (sound state List.mem_cons_self) meets
        (fun other member => sound other (List.mem_cons_of_mem _ member)) (afterPost rfl)
    | nil =>
      cases result with
      | error failure => exact .same (inv.endCall call) rfl
      | ok result =>
        obtain ⟨keeps, closing⟩ := Bool.and_eq_true_iff.mp meets
        constructor
        · unfold ActionQueue.advanceHide
          dsimp only
          rw [← hideNext_item]
          exact (inv.setItem closing).hideNext found laterPosts
        · exact keepsDecision_afterHide keeps

theorem queueStep_advance (input : QueueInput) (meets : queue.advanceMeets running = true) :
    QueueStep queue (queue.advance call running input) := by
  unfold ActionQueue.advance
  cases is : running.stage with
  | deciding decision hides =>
    unfold ActionQueue.advanceMeets at meets
    rw [is] at meets
    obtain ⟨allowed, closing⟩ := Bool.and_eq_true_iff.mp meets
    constructor
    · dsimp only
      rw [← hideNext_item]
      refine (inv.setItem closing).hideNext found ?_
      intro posts
      rw [is]
      exact posts
    · rcases Bool.or_eq_true_iff.mp allowed with allowed | same
      · exact keepsDecision_of_canApply _ allowed
      · dsimp only
        rw [beq_iff_eq.mp same]
        exact .refl _
  | answering decision =>
    unfold ActionQueue.advanceMeets at meets
    rw [is] at meets
    dsimp only
    split
    next allowed =>
      have allowed : canApplyDecision decision queue.item.queueState = true := allowed
      dsimp only at meets
      rw [allowed] at meets
      exact ⟨(inv.setItem meets).endCall call, keepsDecision_of_canApply _ allowed⟩
    next => exact .same (inv.endCall call) rfl
  | preflight retry =>
    refine .same (inv.hideNext found ?_) (item_hideNext ..)
    intro posts
    rw [is]
    rfl
  | performing request stage later => exact queueStep_advanceHide inv found input is meets

end

theorem sound_opens {operation : QueueOperation} (opens : queue.opens operation = some stage) :
    stage.Sound ∧ (stage.postsLater = true →
      ∃ understood confirmPhrase isRetry,
        operation = .executeLive understood confirmPhrase isRetry) := by
  cases operation with
  | approve =>
    cases opens
    refine ⟨trivial, ?_⟩
    intro posts
    unfold QueueStage.postsLater at posts
    dsimp only at posts
    split at posts <;> cases posts
  | approveWithoutHide =>
    cases opens
    exact ⟨trivial, fun posts => nomatch posts⟩
  | retry =>
    unfold ActionQueue.opens at opens
    dsimp only at opens
    split at opens
    · cases opens
      exact ⟨trivial, fun posts => nomatch posts⟩
    · cases opens
  | executeLive understood confirmPhrase isRetry =>
    unfold ActionQueue.opens at opens
    dsimp only at opens
    split at opens
    · cases opens
      exact ⟨trivial, fun _ => ⟨understood, confirmPhrase, isRetry, rfl⟩⟩
    · cases opens
  | markHandled =>
    cases opens
    exact ⟨trivial, fun posts => nomatch posts⟩
  | reject =>
    cases opens
    exact ⟨trivial, fun posts => nomatch posts⟩
  | mobile decision =>
    unfold ActionQueue.opens at opens
    dsimp only at opens
    split at opens
    · cases opens
      exact ⟨trivial, fun posts => nomatch posts⟩
    · cases opens

theorem queueInvariant_start (inv : QueueInvariant queue) {session : AppSession}
    {operation : QueueOperation} (call : Nat)
    (meets : queue.meetsRules (.start call session operation) = true)
    (opens : queue.opens operation = some stage) :
    QueueInvariant
      { queue with calls := queue.calls.insert call ⟨session, queue.item, stage⟩ } := by
  obtain ⟨sound, posts⟩ := sound_opens opens
  cases free : queue.calls.find? call with
  | some taken =>
    rw [Table.insert_taken free]
    exact inv
  | none =>
    have cases {other : Nat} {later : QueueCall}
        (foundLater : (queue.calls.insert call ⟨session, queue.item, stage⟩).find? other =
          some later) :
        queue.calls.find? other = some later ∨ later = ⟨session, queue.item, stage⟩ := by
      rw [Table.find?_insert call free] at foundLater
      split at foundLater
      next => exact .inr (Option.some.inj foundLater).symm
      next => exact .inl foundLater
    constructor
    · intro other later foundLater later_
      rcases cases foundLater with before | rfl
      · exact inv.pending other later before later_
      · obtain ⟨understood, confirmPhrase, isRetry, rfl⟩ := posts later_
        simpa [ActionQueue.meetsRules] using meets
    · intro other later foundLater
      rcases cases foundLater with before | rfl
      · exact inv.sound other later before
      · exact sound
    · exact inv.posted

theorem queueStep_of_meetsRules (inv : QueueInvariant queue) {action : QueueAction}
    (meets : MeetsRules queue action) : QueueStep queue (queue.step action) := by
  cases action with
  | start call session operation =>
    unfold ActionQueue.step
    dsimp only
    split
    · split
      · exact .same inv rfl
      next stage opens => exact .same (queueInvariant_start inv call meets opens) rfl
    · exact .same inv rfl
  | advance call input =>
    have meets : (queue.calls.find? call).all queue.advanceMeets = true := meets
    unfold ActionQueue.step
    dsimp only
    split
    · exact .same inv rfl
    next running found =>
      rw [found, Option.all_some] at meets
      exact queueStep_advance inv found input meets
  | abort call => exact .same (inv.endCall call) rfl

end Step

/-! Whole runs of the queue: decisions and hides. -/

def runQueue (item : QueueItem) (executions : List ExecutionRow) (actions : List QueueAction) :
    ActionQueue :=
  Runs.run ActionQueue.step (queueItemOf item executions) actions

/-- No decision is taken back or replaced, and no comment is hidden for a closed item. -/
structure DecidedOnce (item : QueueItem) (executions : List ExecutionRow)
    (actions : List QueueAction) : Prop where
  kept : ∀ first between rest, actions = first ++ between ++ rest →
    KeepsDecision (runQueue item executions first).item
      (runQueue item executions (first ++ between)).item
  posted : ∀ state ∈ (runQueue item executions actions).posts, isTerminal state = false

theorem queueInvariant_run {executions : List ExecutionRow} {actions : List QueueAction}
    (meet : Runs.Meets ActionQueue.step MeetsRules (queueItemOf item executions) actions) :
    QueueInvariant (runQueue item executions actions) := by
  have kept : ∀ reached ∈ Runs.states ActionQueue.step (queueItemOf item executions) actions,
      QueueInvariant reached :=
    Runs.invariant_states (fun inv meets => (queueStep_of_meetsRules inv meets).invariant)
      (queueInvariant_queueItemOf item executions) meet
  exact kept _ (Runs.run_mem_states actions)

theorem keepsDecision_run {queue : ActionQueue} (inv : QueueInvariant queue)
    {actions : List QueueAction} (meet : Runs.Meets ActionQueue.step MeetsRules queue actions) :
    KeepsDecision queue.item (Runs.run ActionQueue.step queue actions).item := by
  induction actions generalizing queue with
  | nil => exact .refl queue.item
  | cons action rest ih =>
    have step := queueStep_of_meetsRules inv meet.1
    exact step.decision.trans (ih step.invariant meet.2)

theorem decidedOnce_of_meetsRules (item : QueueItem) (executions : List ExecutionRow)
    (actions : List QueueAction)
    (meet : Runs.Meets ActionQueue.step MeetsRules (queueItemOf item executions) actions) :
    DecidedOnce item executions actions where
  kept := by
    intro first between rest split
    rw [split, List.append_assoc] at meet
    obtain ⟨meetFirst, meetRest⟩ := (Runs.meets_append first _).mp meet
    obtain ⟨meetBetween, -⟩ := (Runs.meets_append between _).mp meetRest
    unfold runQueue
    rw [Runs.run_append]
    exact keepsDecision_run (queueInvariant_run meetFirst) meetBetween
  posted := (queueInvariant_run meet).posted

def spamItem : QueueItem where
  id := "queue"
  tenantId := "tenant"
  brandId := "brand"
  itemId := "item"
  category := "spam"
  confidence := 0.9
  proposedAction := "hide_comment"
  queueState := .approvalRequired
  approvedByUserId := none
  rejectedByUserId := none

def spamTarget : HideTarget where
  riskLevel := "high"
  externalCommentId := some "comment"
  externalPostId := none
  connectedAccountId := "account"
  platform := "facebook_page"
  account := healthyPage
  policy := some ("policy", "approval")

def spamInput (executionId : String) : QueueInput where
  operationsAllowed := true
  target := some spamTarget
  preflightPolicyId := some "policy"
  cfg := { liveConfig with liveConfirmed := true }
  transport := acceptingEnvironment.transport
  executionId := executionId
  now _ := 0

def operator (userId : String) : AppSession := ⟨"tenant", userId, .admin⟩

def asks (call : Nat) (userId : String) (operation : QueueOperation) (statements : Nat) :
    List QueueAction :=
  .start call (operator userId) operation ::
    List.replicate statements (.advance call (spamInput ("execution" ++ toString call)))

def hidesLive (call : Nat) (userId : String) : List QueueAction :=
  .start call (operator userId) (.executeLive true "LIVE HIDE".toList false) ::
    (List.replicate 6 (.advance call (spamInput "dry-run")) ++
      List.replicate 7 (.advance call (spamInput "execution")))

/-- An approved comment is hidden by its approver, and the item is resolved. -/
theorem decidedOnce_of_spam :
    DecidedOnce spamItem []
      (asks 0 "ann" (.mobile .approve) 1 ++ hidesLive 1 "ann" ++
        asks 2 "bob" (.mobile .resolve) 1) :=
  decidedOnce_of_meetsRules _ _ _ (by decide +kernel)

def approvesRejected : List QueueAction :=
  asks 0 "ann" (.mobile .reject) 1 ++ asks 1 "bob" .approveWithoutHide 1

def approvesTwice : List QueueAction :=
  asks 0 "ann" .approveWithoutHide 1 ++ asks 1 "bob" .approveWithoutHide 1

def hidesRejected : List QueueAction :=
  asks 0 "ann" (.mobile .reject) 1 ++ hidesLive 1 "bob"

theorem not_decidedOnce :
    ¬DecidedOnce spamItem [] approvesRejected ∧ ¬DecidedOnce spamItem [] approvesTwice ∧
      ¬DecidedOnce spamItem [] hidesRejected := by
  refine ⟨?_, ?_, ?_⟩
  · intro holds
    have kept := holds.kept (approvesRejected.take 2) (approvesRejected.drop 2) [] rfl
    exact absurd (kept.closed (by decide +kernel)) (by decide +kernel)
  · intro holds
    have kept := holds.kept (approvesTwice.take 2) (approvesTwice.drop 2) [] rfl
    rcases kept.approval "ann" (by decide +kernel) (by decide +kernel) with closed | ⟨-, own⟩
    · exact absurd closed (by decide +kernel)
    · exact absurd own (by decide +kernel)
  · intro holds
    have posted : QueueState.rejected ∈ (runQueue spamItem [] hidesRejected).posts := by
      decide +kernel
    exact absurd (holds.posted .rejected posted) (by decide)
end Tamanor.Web
