import Tamanor.Db.RecipientAuthorizationProperties
import Tamanor.Web.Proposals

/-! Which statuses of decisions and items last under concurrent calls on the proposals. A
call writes its decision by id whatever another call has made of it since, a failed decision
can be cancelled, and a withdrawal returns an item to triage whatever its status is. -/

set_option autoImplicit false

namespace Tamanor.Web

open Tamanor.Core Library
open Db (bind_eq_ok)

def isFinalDecision (status : DecisionStatus) : Bool :=
  [DecisionStatus.executed, .rejected, .cancelled, .failed].contains status

def isSettledItem (status : ReputationStatus) : Bool :=
  [ReputationStatus.resolved, .escalated, .ignored, .actioned].contains status

theorem isFinalDecision_eq (status : DecisionStatus) :
    isFinalDecision status = !isOpenDecision status := by
  cases status <;> rfl

def ProposalStage.decision : ProposalStage → ModerationDecision
  | .approving decision => decision
  | .withdrawing _ decision => decision
  | .counted _ decision _ => decision
  | .executing decision _ => decision
  | .answered decision _ _ => decision

/-- The status that the next statement of a call writes. -/
def ProposalStage.written : ProposalStage → Option DecisionStatus
  | .approving _ => some .approved
  | .withdrawing .. => none
  | .counted withdrawal _ _ => some withdrawal.status
  | .executing decision _ => if isPlatformAction decision.action then none else some .executed
  | .answered _ _ result => some (if result.ok then .executed else .failed)

def ProposalStage.asksConnector : ProposalStage → Bool
  | .executing decision _ => isPlatformAction decision.action
  | _ => false

def ProposalStage.returnsItem (itemId : String) : ProposalStage → Bool
  | .counted _ decision openDecisions => decision.reputationItemId == itemId && openDecisions == 0
  | _ => false

def ProposalStage.holdsLock : ProposalStage → Bool
  | .counted .. => true
  | _ => false

/-! When the calls keep out of each other's way. -/

namespace Proposals

variable (state : Proposals)

def isUnasked (proposalId : String) : Bool :=
  (state.calls.rows.all fun entry =>
      !(entry.2.proposalId == proposalId && entry.2.stage.asksConnector)) &&
    !(state.invocations.map (·.decisionId)).contains proposalId

def isUnreturned (itemId : String) : Bool :=
  state.calls.rows.all fun entry => !entry.2.stage.returnsItem itemId

def isUnsettled (itemId : String) : Bool :=
  (state.items.find? itemId).all fun item => !isSettledItem item.status

/-- The write of a decision finds the status that its call has read, one that is still open,
or the one that it writes. -/
def findsUnclosed (running : ProposalCall) : Bool :=
  match running.stage.written with
  | none => true
  | some written =>
    (state.decisions.find? running.proposalId).all fun row =>
      row.status == running.stage.decision.status || isOpenDecision row.status ||
        row.status == written

/-- A cancellation reads no failed decision, and an execution that will ask the connector is
the only one that does. -/
def startMeets (session : AppSession) (proposalId : String) (operation : ProposalOperation) :
    Bool :=
  (state.findDecision session.tenantId proposalId).all fun decision =>
    match operation with
    | .cancel => decision.status != .failed
    | .execute _ => decision.status != .approved || !isPlatformAction decision.action ||
        state.isUnasked proposalId
    | _ => true

/-- A decision is not withdrawn between the first statement of its execution and the call of
the connector, its withdrawal counts no open decision of a settled item, and no item is settled
between the count and the withdrawal's end. -/
def advanceMeets (call : Nat) (running : ProposalCall) : Bool :=
  (!running.stage.holdsLock && state.isLocked call running.proposalId) ||
    (state.findsUnclosed running &&
      match running.stage with
      | .approving _ => true
      | .withdrawing _ decision =>
        state.countOpen running.session.tenantId decision.reputationItemId
            running.proposalId != 0 ||
          state.isUnsettled decision.reputationItemId
      | .counted .. => state.calls.rows.all fun entry =>
        !(entry.2.proposalId == running.proposalId && entry.2.stage.asksConnector)
      | .executing decision _ =>
        isPlatformAction decision.action || state.isUnreturned decision.reputationItemId
      | .answered decision _ result => !result.ok || state.isUnreturned decision.reputationItemId)

def meetsAlone : ProposalAction → Bool
  | .createProposal .. => true
  | .applyImmediate _ itemId _ _ => state.isUnreturned itemId
  | .start _ session proposalId operation => state.startMeets session proposalId operation
  | .advance call _ => (state.calls.find? call).all (state.advanceMeets call)
  | .abort _ => true

end Proposals

def MeetsAlone (state : Proposals) (action : ProposalAction) : Prop :=
  state.meetsAlone action = true

instance (state : Proposals) : DecidablePred (MeetsAlone state) :=
  fun action => inferInstanceAs (Decidable (state.meetsAlone action = true))

/-! What holds between the statements of such calls. -/

structure ProposalsInvariant (state : Proposals) : Prop where
  readOpen : ∀ call running, state.calls.find? call = some running →
    isOpenDecision running.stage.decision.status = true
  sameAction : ∀ call running, state.calls.find? call = some running →
    ∃ row, state.decisions.find? running.proposalId = some row ∧
      row.action = running.stage.decision.action
  asks : ∀ call running, state.calls.find? call = some running →
    running.stage.asksConnector = true →
    running.proposalId ∉ state.invocations.map (·.decisionId) ∧
      ∀ row, state.decisions.find? running.proposalId = some row → row.status = .approved
  oneAsks : ∀ call running other runningOther, state.calls.find? call = some running →
    state.calls.find? other = some runningOther → running.stage.asksConnector = true →
    runningOther.stage.asksConnector = true → running.proposalId = runningOther.proposalId →
    call = other
  answered : ∀ call running decision item result, state.calls.find? call = some running →
    running.stage = .answered decision item result →
    running.proposalId ∈ state.invocations.map (·.decisionId)
  invokedOnce : (state.invocations.map (·.decisionId)).Nodup
  invokedApproved : ∀ invocation ∈ state.invocations, invocation.status = some .approved
  returns : ∀ call running itemId item, state.calls.find? call = some running →
    running.stage.returnsItem itemId = true → state.items.find? itemId = some item →
    isSettledItem item.status = false

theorem proposalsInvariant_openInbox (items : Table String ReputationItem) :
    ProposalsInvariant (openInbox items) where
  readOpen := by
    intro call running found
    cases found
  sameAction := by
    intro call running found
    cases found
  asks := by
    intro call running found
    cases found
  oneAsks := by
    intro call running other runningOther found
    cases found
  answered := by
    intro call running decision item result found
    cases found
  invokedOnce := List.nodup_nil
  invokedApproved := by
    intro invocation member
    cases member
  returns := by
    intro call running itemId item found
    cases found

namespace Proposals

variable {state : Proposals} {call other : Nat} {id itemId : String}

theorem find?_endCall (state : Proposals) (call other : Nat) :
    (state.endCall call).calls.find? other =
      if other = call then none else state.calls.find? other := by
  unfold endCall
  dsimp only
  rw [Table.find?_deleteWhere]
  split
  next same =>
    subst same
    cases state.calls.find? other <;> simp
  next different =>
    cases state.calls.find? other <;> simp [different]

theorem find?_setStage (state : Proposals) (call other : Nat) (stage : ProposalStage) :
    (state.setStage call stage).calls.find? other =
      if other = call then (state.calls.find? other).map fun running => { running with stage }
      else state.calls.find? other :=
  Table.find?_modify call _

theorem find?_setDecision (state : Proposals) (id other : String)
    (change : ModerationDecision → ModerationDecision) :
    (state.setDecision id change).decisions.find? other =
      if other = id then (state.decisions.find? other).map change
      else state.decisions.find? other :=
  Table.find?_modify id _

theorem find?_setItem (state : Proposals) (id other : String)
    (change : ReputationItem → ReputationItem) :
    (state.setItem id change).items.find? other =
      if other = id then (state.items.find? other).map change else state.items.find? other :=
  Table.find?_modify id _

theorem decisions_endCall (call : Nat) : (state.endCall call).decisions = state.decisions := rfl

theorem decisions_recordSuccess (call : Nat) {decision : ModerationDecision} :
    ((state.recordSuccess id decision).endCall call).decisions =
      (state.setDecision id fun row => { row with status := .executed }).decisions := rfl

theorem not_asks_of_isUnasked (unasked : state.isUnasked id = true) :
    id ∉ state.invocations.map (·.decisionId) ∧
      ∀ call running, state.calls.find? call = some running → running.proposalId = id →
        running.stage.asksConnector = false := by
  obtain ⟨none, uninvoked⟩ := Bool.and_eq_true_iff.mp unasked
  constructor
  · intro member
    rw [List.contains_iff_mem.mpr member] at uninvoked
    cases uninvoked
  · intro call running found ofId
    have checked := List.all_eq_true.mp none _ (Table.find?_eq_some_iff.mp found)
    simpa [ofId] using checked

theorem not_returns_of_isUnreturned (unreturned : state.isUnreturned itemId = true) :
    ∀ call running, state.calls.find? call = some running →
      running.stage.returnsItem itemId = false := by
  intro call running found
  have checked := List.all_eq_true.mp unreturned _ (Table.find?_eq_some_iff.mp found)
  simpa using checked

end Proposals

namespace ProposalsInvariant

variable {state : Proposals} {call : Nat} {running : ProposalCall} {id itemId : String}

theorem endCall (inv : ProposalsInvariant state) (call : Nat) :
    ProposalsInvariant (state.endCall call) := by
  have still {other : Nat} {running : ProposalCall}
      (found : (state.endCall call).calls.find? other = some running) :
      state.calls.find? other = some running := by
    rw [Proposals.find?_endCall] at found
    split at found
    · cases found
    · exact found
  exact
    { readOpen := fun other running found => inv.readOpen other running (still found)
      sameAction := fun other running found => inv.sameAction other running (still found)
      asks := fun other running found => inv.asks other running (still found)
      oneAsks := fun first running second runningSecond found foundSecond =>
        inv.oneAsks first running second runningSecond (still found) (still foundSecond)
      answered := fun other running decision item result found =>
        inv.answered other running decision item result (still found)
      invokedOnce := inv.invokedOnce
      invokedApproved := inv.invokedApproved
      returns := fun other running itemId item found =>
        inv.returns other running itemId item (still found) }

theorem setDecision (inv : ProposalsInvariant state)
    {change : ModerationDecision → ModerationDecision}
    (keepsAction : ∀ row, (change row).action = row.action)
    (keepsAsking : (∀ row, (change row).status = .approved) ∨
      ∀ call running, state.calls.find? call = some running → running.proposalId = id →
        running.stage.asksConnector = false) :
    ProposalsInvariant (state.setDecision id change) where
  readOpen := inv.readOpen
  sameAction := by
    intro call running found
    obtain ⟨row, foundRow, same⟩ := inv.sameAction call running found
    rw [Proposals.find?_setDecision, foundRow]
    split
    · exact ⟨change row, rfl, (keepsAction row).trans same⟩
    · exact ⟨row, rfl, same⟩
  asks := by
    intro call running found asks
    obtain ⟨uninvoked, approved⟩ := inv.asks call running found asks
    refine ⟨uninvoked, ?_⟩
    intro row foundRow
    rw [Proposals.find?_setDecision] at foundRow
    split at foundRow
    next same =>
      obtain ⟨before, -, rfl⟩ := Option.map_eq_some_iff.mp foundRow
      rcases keepsAsking with approves | idle
      · exact approves before
      · rw [idle call running found same] at asks
        cases asks
    next => exact approved row foundRow
  oneAsks := inv.oneAsks
  answered := inv.answered
  invokedOnce := inv.invokedOnce
  invokedApproved := inv.invokedApproved
  returns := inv.returns

theorem setItem (inv : ProposalsInvariant state) (itemId : String)
    {change : ReputationItem → ReputationItem}
    (keepsReturning : (∀ row, isSettledItem (change row).status = false) ∨
      ∀ call running, state.calls.find? call = some running →
        running.stage.returnsItem itemId = false) :
    ProposalsInvariant (state.setItem itemId change) where
  readOpen := inv.readOpen
  sameAction := inv.sameAction
  asks := inv.asks
  oneAsks := inv.oneAsks
  answered := inv.answered
  invokedOnce := inv.invokedOnce
  invokedApproved := inv.invokedApproved
  returns := by
    intro call running returned item found returns foundItem
    rw [Proposals.find?_setItem] at foundItem
    split at foundItem
    next same =>
      subst same
      obtain ⟨before, -, rfl⟩ := Option.map_eq_some_iff.mp foundItem
      rcases keepsReturning with unsettles | unreturned
      · exact unsettles before
      · rw [unreturned call running found] at returns
        cases returns
    next => exact inv.returns call running returned item found returns foundItem

theorem insertDecision (inv : ProposalsInvariant state)
    (fresh : state.decisions.find? id = none) (decision : ModerationDecision) :
    ProposalsInvariant { state with decisions := state.decisions.insert id decision } where
  readOpen := inv.readOpen
  sameAction := by
    intro call running found
    obtain ⟨row, foundRow, same⟩ := inv.sameAction call running found
    exact ⟨row, Table.find?_insert_of_found fresh foundRow, same⟩
  asks := by
    intro call running found asks
    obtain ⟨uninvoked, approved⟩ := inv.asks call running found asks
    obtain ⟨row, foundRow, -⟩ := inv.sameAction call running found
    refine ⟨uninvoked, ?_⟩
    intro later foundLater
    have kept : (state.decisions.insert id decision).find? _ = some row :=
      Table.find?_insert_of_found fresh foundRow
    cases kept.symm.trans foundLater
    exact approved row foundRow
  oneAsks := inv.oneAsks
  answered := inv.answered
  invokedOnce := inv.invokedOnce
  invokedApproved := inv.invokedApproved
  returns := inv.returns

theorem count (inv : ProposalsInvariant state) {withdrawal : Withdrawal}
    {decision : ModerationDecision} {openDecisions : Nat}
    (found : state.calls.find? call = some running)
    (stage : running.stage = .withdrawing withdrawal decision)
    (unsettled : openDecisions = 0 → state.isUnsettled decision.reputationItemId = true) :
    ProposalsInvariant (state.setStage call (.counted withdrawal decision openDecisions)) := by
  have cases {other : Nat} {later : ProposalCall}
      (foundLater : (state.setStage call (.counted withdrawal decision
        openDecisions)).calls.find? other = some later) :
      state.calls.find? other = some later ∨
        (other = call ∧ later = { running with stage := .counted withdrawal decision openDecisions }) := by
    rw [Proposals.find?_setStage] at foundLater
    split at foundLater
    next same =>
      rw [same, found] at foundLater
      exact .inr ⟨same, (Option.some.inj foundLater).symm⟩
    next => exact .inl foundLater
  constructor
  case readOpen =>
    intro other later foundLater
    rcases cases foundLater with before | ⟨-, rfl⟩
    · exact inv.readOpen other later before
    · have isOpen := inv.readOpen call running found
      rw [stage] at isOpen
      exact isOpen
  case sameAction =>
    intro other later foundLater
    rcases cases foundLater with before | ⟨-, rfl⟩
    · exact inv.sameAction other later before
    · have same := inv.sameAction call running found
      rw [stage] at same
      exact same
  case asks =>
    intro other later foundLater asks
    rcases cases foundLater with before | ⟨-, rfl⟩
    · exact inv.asks other later before asks
    · cases asks
  case oneAsks =>
    intro first later second laterSecond foundLater foundSecond asks asksSecond
    rcases cases foundLater with before | ⟨-, rfl⟩
    · rcases cases foundSecond with beforeSecond | ⟨-, rfl⟩
      · exact inv.oneAsks first later second laterSecond before beforeSecond asks asksSecond
      · cases asksSecond
    · cases asks
  case answered =>
    intro other later read item result foundLater is
    rcases cases foundLater with before | ⟨-, rfl⟩
    · exact inv.answered other later read item result before is
    · cases is
  case invokedOnce => exact inv.invokedOnce
  case invokedApproved => exact inv.invokedApproved
  case returns =>
    intro other later returned item foundLater returns foundItem
    rcases cases foundLater with before | ⟨-, rfl⟩
    · exact inv.returns other later returned item before returns foundItem
    · obtain ⟨ofItem, none⟩ := Bool.and_eq_true_iff.mp returns
      have checked := unsettled (beq_iff_eq.mp none)
      rw [beq_iff_eq.mp ofItem] at checked
      unfold Proposals.isUnsettled at checked
      rw [show state.items.find? returned = some item from foundItem, Option.all_some] at checked
      exact Bool.not_eq_true' _ ▸ checked

theorem ask (inv : ProposalsInvariant state) {decision : ModerationDecision}
    {item : ReputationItem} (result : ActionResult)
    (found : state.calls.find? call = some running)
    (stage : running.stage = .executing decision item)
    (platform : isPlatformAction decision.action = true) :
    ProposalsInvariant
      { state.setStage call (.answered decision item result) with
        invocations := ⟨running.proposalId,
          (state.decisions.find? running.proposalId).map (·.status)⟩ :: state.invocations } := by
  have asking : running.stage.asksConnector = true := by
    rw [stage]
    exact platform
  obtain ⟨uninvoked, approved⟩ := inv.asks call running found asking
  have cases {other : Nat} {later : ProposalCall}
      (foundLater : (state.setStage call (.answered decision item result)).calls.find? other =
        some later) :
      (other ≠ call ∧ state.calls.find? other = some later) ∨
        later = { running with stage := .answered decision item result } := by
    rw [Proposals.find?_setStage] at foundLater
    split at foundLater
    next same =>
      rw [same, found] at foundLater
      exact .inr (Option.some.inj foundLater).symm
    next different => exact .inl ⟨different, foundLater⟩
  constructor
  case readOpen =>
    intro other later foundLater
    rcases cases foundLater with ⟨-, before⟩ | rfl
    · exact inv.readOpen other later before
    · have isOpen := inv.readOpen call running found
      rw [stage] at isOpen
      exact isOpen
  case sameAction =>
    intro other later foundLater
    rcases cases foundLater with ⟨-, before⟩ | rfl
    · exact inv.sameAction other later before
    · have same := inv.sameAction call running found
      rw [stage] at same
      exact same
  case asks =>
    intro other later foundLater asks
    rcases cases foundLater with ⟨different, before⟩ | rfl
    · obtain ⟨uninvokedLater, approvedLater⟩ := inv.asks other later before asks
      refine ⟨?_, approvedLater⟩
      intro member
      rcases List.mem_cons.mp member with same | earlier
      · exact different (inv.oneAsks other later call running before found asks asking same)
      · exact uninvokedLater earlier
    · cases asks
  case oneAsks =>
    intro first later second laterSecond foundLater foundSecond asks asksSecond
    rcases cases foundLater with ⟨-, before⟩ | rfl
    · rcases cases foundSecond with ⟨-, beforeSecond⟩ | rfl
      · exact inv.oneAsks first later second laterSecond before beforeSecond asks asksSecond
      · cases asksSecond
    · cases asks
  case answered =>
    intro other later read itemRead resultRead foundLater is
    rcases cases foundLater with ⟨-, before⟩ | rfl
    · exact List.mem_cons_of_mem _
        (inv.answered other later read itemRead resultRead before is)
    · exact List.mem_cons_self
  case invokedOnce => exact List.nodup_cons.mpr ⟨uninvoked, inv.invokedOnce⟩
  case invokedApproved =>
    intro invocation member
    rcases List.mem_cons.mp member with rfl | earlier
    · obtain ⟨row, foundRow, -⟩ := inv.sameAction call running found
      rw [foundRow]
      exact congrArg some (approved row foundRow)
    · exact inv.invokedApproved invocation earlier
  case returns =>
    intro other later returned itemRead foundLater returns foundItem
    rcases cases foundLater with ⟨-, before⟩ | rfl
    · exact inv.returns other later returned itemRead before returns foundItem
    · cases returns

end ProposalsInvariant

/-! What the first statement of a call finds. -/

/-- The decision is stored and open, unless it is a failed one that is to be cancelled, and
only an execution asks the connector. -/
structure ReadsDecision (state : Proposals) (session : AppSession) (proposalId : String)
    (operation : ProposalOperation) (stage : ProposalStage) : Prop where
  found : state.findDecision session.tenantId proposalId = some stage.decision
  isOpen : isOpenDecision stage.decision.status = true ∨
    (operation = .cancel ∧ stage.decision.status = .failed)
  asks : stage.asksConnector = true →
    (∃ allowed, operation = .execute allowed) ∧ stage.decision.status = .approved ∧
      isPlatformAction stage.decision.action = true
  unanswered : ∀ decision item result, stage ≠ .answered decision item result
  uncounted : ∀ itemId, stage.returnsItem itemId = false

theorem status_of_check {refused expected : DecisionStatus} {text : String}
    (passed : (if refused ≠ expected then Except.error text else Except.ok ()) = .ok ()) :
    refused = expected := by
  split at passed
  · cases passed
  next same => exact not_not.mp same

variable {decision : ModerationDecision} {state before after : Proposals}

theorem status_of_checkApprove {session : AppSession}
    (passed : Proposals.checkApprove session decision = .ok ()) :
    decision.status = .proposed := by
  unfold Proposals.checkApprove at passed
  split at passed
  · cases passed
  next same => exact not_not.mp same

theorem status_of_checkCancel (passed : Proposals.checkCancel decision = .ok ()) :
    isOpenDecision decision.status = true ∨ decision.status = .failed := by
  unfold Proposals.checkCancel at passed
  split at passed
  next => cases passed
  next nonterminal =>
    cases status : decision.status <;> rw [status] at nonterminal <;>
      first | exact .inl rfl | exact .inr rfl | exact absurd rfl nonterminal

theorem readsDecision_of_read {session : AppSession} {proposalId : String}
    {operation : ProposalOperation} {stage : ProposalStage}
    (reads : state.read session proposalId operation = .ok stage) :
    ReadsDecision state session proposalId operation stage := by
  unfold Proposals.read at reads
  obtain ⟨⟨⟩, -, reads⟩ := bind_eq_ok.mp reads
  split at reads
  · cases reads
  · split at reads
    · cases reads
    next decision found =>
      cases operation with
      | approve =>
        obtain ⟨⟨⟩, passed, reads⟩ := bind_eq_ok.mp reads
        cases reads
        have status := status_of_checkApprove passed
        exact ⟨found, .inl (congrArg isOpenDecision status), (fun asks => by cases asks),
          (fun _ _ _ same => by cases same), fun _ => rfl⟩
      | reject =>
        obtain ⟨⟨⟩, passed, reads⟩ := bind_eq_ok.mp reads
        cases reads
        have status := status_of_check passed
        exact ⟨found, .inl (congrArg isOpenDecision status), (fun asks => by cases asks),
          (fun _ _ _ same => by cases same), fun _ => rfl⟩
      | cancel =>
        obtain ⟨⟨⟩, passed, reads⟩ := bind_eq_ok.mp reads
        cases reads
        have isOpen := status_of_checkCancel passed
        exact ⟨found, isOpen.imp_right fun failed => ⟨rfl, failed⟩, (fun asks => by cases asks),
          (fun _ _ _ same => by cases same), fun _ => rfl⟩
      | execute allowed =>
        obtain ⟨⟨⟩, passed, reads⟩ := bind_eq_ok.mp reads
        have status := status_of_check passed
        split at reads
        · cases reads
        · cases reads
          exact ⟨found, .inl (congrArg isOpenDecision status),
            fun platform => ⟨⟨allowed, rfl⟩, status, platform⟩,
            (fun _ _ _ same => by cases same), fun _ => rfl⟩

namespace ProposalsInvariant

variable {state : Proposals} {call : Nat} {running : ProposalCall} {session : AppSession}
  {proposalId : String} {operation : ProposalOperation} {stage : ProposalStage}

theorem start (inv : ProposalsInvariant state) (call : Nat)
    (meets : state.startMeets session proposalId operation = true)
    (reads : ReadsDecision state session proposalId operation stage) :
    ProposalsInvariant
      { state with calls := state.calls.insert call ⟨session, proposalId, stage⟩ } := by
  unfold Proposals.startMeets at meets
  rw [reads.found, Option.all_some] at meets
  obtain ⟨foundDecision, -⟩ := Option.filter_eq_some_iff.mp reads.found
  have unasked (asks : stage.asksConnector = true) : state.isUnasked proposalId = true := by
    obtain ⟨⟨allowed, rfl⟩, status, platform⟩ := reads.asks asks
    simpa [status, platform] using meets
  cases free : state.calls.find? call with
  | some taken =>
    rw [Table.insert_taken free]
    exact inv
  | none =>
    have cases {other : Nat} {later : ProposalCall}
        (foundLater : (state.calls.insert call ⟨session, proposalId, stage⟩).find? other =
          some later) :
        state.calls.find? other = some later ∨
          (other = call ∧ later = ⟨session, proposalId, stage⟩) := by
      rw [Table.find?_insert call free] at foundLater
      split at foundLater
      next same => exact .inr ⟨same, (Option.some.inj foundLater).symm⟩
      next => exact .inl foundLater
    constructor
    case readOpen =>
      intro other later foundLater
      rcases cases foundLater with before | ⟨-, rfl⟩
      · exact inv.readOpen other later before
      · rcases reads.isOpen with isOpen | ⟨rfl, failed⟩
        · exact isOpen
        · simp [failed] at meets
    case sameAction =>
      intro other later foundLater
      rcases cases foundLater with before | ⟨-, rfl⟩
      · exact inv.sameAction other later before
      · exact ⟨stage.decision, foundDecision, rfl⟩
    case asks =>
      intro other later foundLater asks
      rcases cases foundLater with before | ⟨-, rfl⟩
      · exact inv.asks other later before asks
      · refine ⟨(Proposals.not_asks_of_isUnasked (unasked asks)).1, ?_⟩
        intro row foundRow
        have same : row = stage.decision := Option.some.inj (foundRow.symm.trans foundDecision)
        rw [same]
        exact (reads.asks asks).2.1
    case oneAsks =>
      intro first later second laterSecond foundLater foundSecond asks asksSecond same
      rcases cases foundLater with before | ⟨isFirst, rfl⟩
      · rcases cases foundSecond with beforeSecond | ⟨-, rfl⟩
        · exact inv.oneAsks first later second laterSecond before beforeSecond asks
            asksSecond same
        · rw [(Proposals.not_asks_of_isUnasked (unasked asksSecond)).2 first later before
            same] at asks
          cases asks
      · rcases cases foundSecond with beforeSecond | ⟨isSecond, -⟩
        · rw [(Proposals.not_asks_of_isUnasked (unasked asks)).2 second laterSecond beforeSecond
            same.symm] at asksSecond
          cases asksSecond
        · exact isFirst.trans isSecond.symm
    case answered =>
      intro other later decision item result foundLater is
      rcases cases foundLater with before | ⟨-, rfl⟩
      · exact inv.answered other later decision item result before is
      · exact absurd is (reads.unanswered decision item result)
    case invokedOnce => exact inv.invokedOnce
    case invokedApproved => exact inv.invokedApproved
    case returns =>
      intro other later itemId item foundLater returns foundItem
      rcases cases foundLater with before | ⟨-, rfl⟩
      · exact inv.returns other later itemId item before returns foundItem
      · rw [reads.uncounted itemId] at returns
        cases returns

end ProposalsInvariant

def KeepsFinal (before after : Proposals) : Prop :=
  ∀ id row, before.decisions.find? id = some row → isFinalDecision row.status = true →
    ∃ later, after.decisions.find? id = some later ∧ later.status = row.status

theorem KeepsFinal.of_eq (same : after.decisions = before.decisions) : KeepsFinal before after := by
  intro id row found final
  rw [same]
  exact ⟨row, found, rfl⟩

theorem keepsFinal_insertDecision {id : String} (fresh : before.decisions.find? id = none)
    (inserted : after.decisions = before.decisions.insert id decision) :
    KeepsFinal before after := by
  intro other row found final
  rw [inserted]
  exact ⟨row, Table.find?_insert_of_found fresh found, rfl⟩

theorem keepsFinal_setDecision {id : String} {written : DecisionStatus}
    {change : ModerationDecision → ModerationDecision}
    (writes : ∀ row, (change row).status = written)
    (finds : ∀ row, before.decisions.find? id = some row →
      isOpenDecision row.status = true ∨ row.status = written)
    (changed : after.decisions = (before.setDecision id change).decisions) :
    KeepsFinal before after := by
  intro other row found final
  rw [changed, Proposals.find?_setDecision]
  split
  next same =>
    subst same
    rw [found]
    refine ⟨change row, rfl, ?_⟩
    rw [writes]
    rcases finds row found with isOpen | same
    · rw [isFinalDecision_eq, isOpen] at final
      cases final
    · exact same.symm
  next => exact ⟨row, found, rfl⟩

def KeepsSettled (before after : Proposals) : Prop :=
  ∀ itemId item, before.items.find? itemId = some item → isSettledItem item.status = true →
    ∃ later, after.items.find? itemId = some later ∧ later.status = item.status

theorem finds_of_meets {running : ProposalCall} {written : DecisionStatus}
    (inv : ProposalsInvariant state) {call : Nat} (found : state.calls.find? call = some running)
    (finds : state.findsUnclosed running = true) (writes : running.stage.written = some written) :
    ∀ row, state.decisions.find? running.proposalId = some row →
      isOpenDecision row.status = true ∨ row.status = written := by
  intro row foundRow
  unfold Proposals.findsUnclosed at finds
  rw [writes] at finds
  dsimp only at finds
  rw [foundRow, Option.all_some] at finds
  simp only [Bool.or_eq_true, beq_iff_eq] at finds
  rcases finds with (same | isOpen) | same
  · rw [same]
    exact .inl (inv.readOpen call running found)
  · exact .inl isOpen
  · exact .inr same

structure StepKeeps (state : Proposals) (action : ProposalAction) : Prop where
  invariant : ProposalsInvariant (state.step action)
  final : KeepsFinal state (state.step action)
  settled : ∀ call answer running, action = .advance call answer →
    state.calls.find? call = some running → running.stage.holdsLock = true →
    KeepsSettled state (state.step action)

theorem asks_platform {stage : ProposalStage} (asks : stage.asksConnector = true) :
    isPlatformAction stage.decision.action = true := by
  cases stage with
  | executing decision item => exact asks
  | approving decision => cases asks
  | withdrawing withdrawal decision => cases asks
  | counted withdrawal decision openDecisions => cases asks
  | answered decision item result => cases asks

section Advance

variable {state : Proposals} {call : Nat} {running : ProposalCall}

theorem idle_of_answered (inv : ProposalsInvariant state)
    (found : state.calls.find? call = some running) {decision : ModerationDecision}
    {item : ReputationItem} {result : ActionResult}
    (stage : running.stage = .answered decision item result) :
    ∀ other later, state.calls.find? other = some later →
      later.proposalId = running.proposalId → later.stage.asksConnector = false := by
  intro other later foundLater same
  by_contra asks
  have uninvoked := (inv.asks other later foundLater (Bool.not_eq_false _ ▸ asks)).1
  rw [same] at uninvoked
  exact uninvoked (inv.answered call running decision item result found stage)

theorem idle_of_state_only (inv : ProposalsInvariant state)
    (found : state.calls.find? call = some running)
    (stateOnly : isPlatformAction running.stage.decision.action = false) :
    ∀ other later, state.calls.find? other = some later →
      later.proposalId = running.proposalId → later.stage.asksConnector = false := by
  intro other later foundLater same
  by_contra asks
  obtain ⟨row, foundRow, action⟩ := inv.sameAction call running found
  obtain ⟨rowLater, foundRowLater, actionLater⟩ := inv.sameAction other later foundLater
  rw [same, foundRow] at foundRowLater
  have platform := asks_platform (Bool.not_eq_false _ ▸ asks)
  rw [← actionLater, ← Option.some.inj foundRowLater, action, stateOnly] at platform
  cases platform

theorem ProposalsInvariant.recordSuccess (inv : ProposalsInvariant state)
    {proposalId : String} {decision : ModerationDecision}
    (idle : ∀ other later, state.calls.find? other = some later →
      later.proposalId = proposalId → later.stage.asksConnector = false)
    (unreturned : state.isUnreturned decision.reputationItemId = true) :
    ProposalsInvariant (state.recordSuccess proposalId decision) := by
  have written : ProposalsInvariant
      (state.setDecision proposalId fun row => { row with status := .executed }) :=
    inv.setDecision (by intro row; rfl) (.inr idle)
  exact written.setItem _ (.inr (Proposals.not_returns_of_isUnreturned unreturned))

theorem ProposalsInvariant.withdraw (inv : ProposalsInvariant state) {proposalId : String}
    {change : ModerationDecision → ModerationDecision} {itemId : String}
    {openDecisions : Nat} (keepsAction : ∀ row, (change row).action = row.action)
    (idle : ∀ other later, state.calls.find? other = some later →
      later.proposalId = proposalId → later.stage.asksConnector = false) :
    ProposalsInvariant
      ((state.setDecision proposalId change).maybeReturnItemToTriage itemId openDecisions) := by
  have written := inv.setDecision keepsAction (.inr idle)
  unfold Proposals.maybeReturnItemToTriage
  split
  · exact written.setItem _ (.inl (by intro row; rfl))
  · exact written

theorem decisions_maybeReturn (state : Proposals) (itemId : String) (openDecisions : Nat) :
    (state.maybeReturnItemToTriage itemId openDecisions).decisions = state.decisions := by
  unfold Proposals.maybeReturnItemToTriage
  split <;> rfl

theorem advance_keeps (inv : ProposalsInvariant state) (answer : ActionResult)
    (found : state.calls.find? call = some running)
    (meets : state.advanceMeets call running = true) :
    ProposalsInvariant (state.advance call running answer) ∧
      KeepsFinal state (state.advance call running answer) := by
  unfold Proposals.advanceMeets at meets
  unfold Proposals.advance
  cases stage : running.stage with
  | approving decision =>
    dsimp only
    split
    · exact ⟨inv, .of_eq rfl⟩
    next unlocked =>
      simp only [stage, unlocked, Bool.and_false, Bool.false_or, Bool.and_true] at meets
      have written : running.stage.written = some .approved := by rw [stage]; rfl
      constructor
      · exact (inv.setDecision (by intro row; rfl) (.inl (by intro row; rfl))).endCall call
      · refine keepsFinal_setDecision ?_ (finds_of_meets inv found meets written)
          (Proposals.decisions_endCall call)
        intro row
        rfl
  | withdrawing withdrawal decision =>
    dsimp only
    split
    · exact ⟨inv, .of_eq rfl⟩
    next unlocked =>
      simp only [stage, unlocked, Bool.and_false, Bool.false_or] at meets
      obtain ⟨-, counts⟩ := Bool.and_eq_true_iff.mp meets
      refine ⟨inv.count found stage ?_, .of_eq rfl⟩
      intro none
      simpa [none] using counts
  | counted withdrawal decision openDecisions =>
    dsimp only
    have unlocked : (!running.stage.holdsLock) = false := by rw [stage]; rfl
    simp only [unlocked, Bool.false_and, Bool.false_or] at meets
    obtain ⟨finds, alone⟩ := Bool.and_eq_true_iff.mp meets
    have written : running.stage.written = some withdrawal.status := by rw [stage]; rfl
    have idle : ∀ other later, state.calls.find? other = some later →
        later.proposalId = running.proposalId → later.stage.asksConnector = false := by
      intro other later foundLater same
      rw [stage] at alone
      have checked := List.all_eq_true.mp alone _ (Table.find?_eq_some_iff.mp foundLater)
      simpa [same] using checked
    constructor
    · exact (inv.withdraw (by intro row; rfl) idle).endCall call
    · refine keepsFinal_setDecision ?_ (finds_of_meets inv found finds written)
        (decisions_maybeReturn _ _ _)
      intro row
      rfl
  | executing decision item =>
    dsimp only
    by_cases platform : isPlatformAction decision.action = true
    · rw [if_pos platform]
      exact ⟨inv.ask _ found stage platform, .of_eq rfl⟩
    · rw [if_neg platform]
      split
      · exact ⟨inv, .of_eq rfl⟩
      next unlocked =>
        simp only [stage, unlocked, platform, Bool.and_false, Bool.false_or] at meets
        obtain ⟨finds, unreturned⟩ := Bool.and_eq_true_iff.mp meets
        have written : running.stage.written = some .executed := by
          rw [stage]
          exact if_neg platform
        have stateOnly : isPlatformAction running.stage.decision.action = false := by
          rw [stage]
          exact Bool.eq_false_iff.mpr platform
        constructor
        · exact (inv.recordSuccess (idle_of_state_only inv found stateOnly) unreturned).endCall call
        · refine keepsFinal_setDecision ?_ (finds_of_meets inv found finds written)
            (Proposals.decisions_recordSuccess call)
          intro row
          rfl
  | answered decision item result =>
    dsimp only
    split
    · exact ⟨inv, .of_eq rfl⟩
    next unlocked =>
      simp only [stage, unlocked, Bool.and_false, Bool.false_or] at meets
      obtain ⟨finds, unreturned⟩ := Bool.and_eq_true_iff.mp meets
      have idle := idle_of_answered inv found stage
      cases ok : result.ok with
      | true =>
        rw [ok] at unreturned
        rw [if_pos rfl]
        have written : running.stage.written = some .executed := by
          rw [stage]
          simp [ProposalStage.written, ok]
        constructor
        · exact (inv.recordSuccess idle unreturned).endCall call
        · refine keepsFinal_setDecision ?_ (finds_of_meets inv found finds written)
            (Proposals.decisions_recordSuccess call)
          intro row
          rfl
      | false =>
        rw [if_neg Bool.false_ne_true]
        have written : running.stage.written = some .failed := by
          rw [stage]
          simp [ProposalStage.written, ok]
        constructor
        · exact (inv.setDecision (by intro row; rfl) (.inr idle)).endCall call
        · refine keepsFinal_setDecision ?_ (finds_of_meets inv found finds written)
            (Proposals.decisions_endCall call)
          intro row
          rfl

theorem advance_settled (inv : ProposalsInvariant state) (answer : ActionResult)
    (found : state.calls.find? call = some running) (holds : running.stage.holdsLock = true) :
    KeepsSettled state (state.advance call running answer) := by
  intro itemId item foundItem settled
  cases stage : running.stage with
  | counted withdrawal decision openDecisions =>
    unfold Proposals.advance Proposals.maybeReturnItemToTriage
    simp only [stage]
    split
    next none =>
      refine ⟨item, ?_, rfl⟩
      refine (Proposals.find?_setItem _ _ itemId _).trans ?_
      rw [if_neg]
      · exact foundItem
      · rintro rfl
        have unsettled := inv.returns call running decision.reputationItemId item found
          (by rw [stage]; simp [ProposalStage.returnsItem, none]) foundItem
        rw [settled] at unsettled
        cases unsettled
    next => exact ⟨item, foundItem, rfl⟩
  | approving decision => rw [stage] at holds; cases holds
  | withdrawing withdrawal decision => rw [stage] at holds; cases holds
  | executing decision item => rw [stage] at holds; cases holds
  | answered decision item result => rw [stage] at holds; cases holds

end Advance

theorem step_keeps (inv : ProposalsInvariant state) {action : ProposalAction}
    (meets : MeetsAlone state action) : StepKeeps state action := by
  unfold MeetsAlone Proposals.meetsAlone at meets
  cases action with
  | createProposal session itemId decisionId action replyText =>
    have kept : ProposalsInvariant
        (state.step (.createProposal session itemId decisionId action replyText)) ∧
        KeepsFinal state
          (state.step (.createProposal session itemId decisionId action replyText)) := by
      unfold Proposals.step
      dsimp only
      split
      · exact ⟨inv, .of_eq rfl⟩
      next free =>
        have fresh : state.decisions.find? decisionId = none := by simpa using free
        cases created : state.createProposal session itemId decisionId action replyText with
        | error refused => exact ⟨inv, .of_eq rfl⟩
        | ok after =>
          unfold Proposals.createProposal at created
          obtain ⟨⟨⟩, -, created⟩ := bind_eq_ok.mp created
          dsimp only at created
          split at created
          · cases created
          · split at created
            · cases created
            · cases created
              constructor
              · exact (inv.insertDecision fresh _).setItem itemId
                  (.inl (by intro row; rfl))
              · exact keepsFinal_insertDecision fresh rfl
    refine ⟨kept.1, kept.2, ?_⟩
    intro call answer running impossible
    cases impossible
  | applyImmediate session itemId decisionId target =>
    have kept : ProposalsInvariant
        (state.step (.applyImmediate session itemId decisionId target)) ∧
        KeepsFinal state (state.step (.applyImmediate session itemId decisionId target)) := by
      unfold Proposals.step
      dsimp only
      split
      · exact ⟨inv, .of_eq rfl⟩
      next free =>
        have fresh : state.decisions.find? decisionId = none := by
          simpa using (not_or.mp free).1
        cases applied : state.applyImmediate session itemId decisionId target with
        | error refused => exact ⟨inv, .of_eq rfl⟩
        | ok after =>
          unfold Proposals.applyImmediate at applied
          obtain ⟨⟨⟩, -, applied⟩ := bind_eq_ok.mp applied
          split at applied
          · cases applied
          · cases applied
            constructor
            · exact (inv.insertDecision fresh _).setItem itemId
                (.inr (Proposals.not_returns_of_isUnreturned meets))
            · exact keepsFinal_insertDecision fresh rfl
    refine ⟨kept.1, kept.2, ?_⟩
    intro call answer running impossible
    cases impossible
  | start call session proposalId operation =>
    have kept : ProposalsInvariant (state.step (.start call session proposalId operation)) ∧
        KeepsFinal state (state.step (.start call session proposalId operation)) := by
      unfold Proposals.step
      dsimp only
      split
      · exact ⟨inv, .of_eq rfl⟩
      next stage reads =>
        exact ⟨inv.start call meets (readsDecision_of_read reads), .of_eq rfl⟩
    refine ⟨kept.1, kept.2, ?_⟩
    intro other answer running impossible
    cases impossible
  | advance call answer =>
    dsimp only at meets
    cases found : state.calls.find? call with
    | none =>
      have same : state.step (.advance call answer) = state := by
        simp only [Proposals.step, found]
      refine ⟨?_, ?_, ?_⟩
      · rw [same]
        exact inv
      · rw [same]
        exact .of_eq rfl
      · intro other otherAnswer running is foundRunning
        cases is
        rw [found] at foundRunning
        cases foundRunning
    | some running =>
      rw [found, Option.all_some] at meets
      have is : state.step (.advance call answer) = state.advance call running answer := by
        simp only [Proposals.step, found]
      obtain ⟨kept, final⟩ := advance_keeps inv answer found meets
      refine ⟨?_, ?_, ?_⟩
      · rw [is]
        exact kept
      · rw [is]
        exact final
      · intro other otherAnswer same same' foundRunning holds
        cases same'
        rw [is]
        rw [found] at foundRunning
        cases foundRunning
        exact advance_settled inv answer found holds
  | abort call =>
    refine ⟨inv.endCall call, .of_eq rfl, ?_⟩
    intro other answer running impossible
    cases impossible

/-! Whole runs of the inbox: final decisions, connector calls and withdrawals. -/

def runProposals (items : Table String ReputationItem) (actions : List ProposalAction) :
    Proposals :=
  Runs.run Proposals.step (openInbox items) actions

/-- Final decisions keep their status, the connector is asked at most once for a decision and
only while it is approved, and a withdrawal keeps the items that are settled. -/
structure ProposalsHold (items : Table String ReputationItem) (actions : List ProposalAction) :
    Prop where
  final : ∀ first between rest, actions = first ++ between ++ rest →
    KeepsFinal (runProposals items first) (runProposals items (first ++ between))
  askedOnce : ((runProposals items actions).invocations.map (·.decisionId)).Nodup
  askedApproved : ∀ invocation ∈ (runProposals items actions).invocations,
    invocation.status = some .approved
  settled : ∀ first call answer rest running, actions = first ++ .advance call answer :: rest →
    (runProposals items first).calls.find? call = some running →
    running.stage.holdsLock = true →
    KeepsSettled (runProposals items first)
      ((runProposals items first).step (.advance call answer))

theorem proposalsInvariant_run {items : Table String ReputationItem}
    {actions : List ProposalAction}
    (meet : Runs.Meets Proposals.step MeetsAlone (openInbox items) actions) :
    ProposalsInvariant (runProposals items actions) := by
  have kept : ∀ reached ∈ Runs.states Proposals.step (openInbox items) actions,
      ProposalsInvariant reached :=
    Runs.invariant_states (fun inv meets => (step_keeps inv meets).invariant)
      (proposalsInvariant_openInbox items) meet
  exact kept _ (Runs.run_mem_states actions)

theorem KeepsFinal.trans {between : Proposals} (first : KeepsFinal before between)
    (second : KeepsFinal between after) : KeepsFinal before after := by
  intro id row found final
  obtain ⟨middle, foundMiddle, same⟩ := first id row found final
  obtain ⟨later, foundLater, sameLater⟩ := second id middle foundMiddle (by rw [same]; exact final)
  exact ⟨later, foundLater, sameLater.trans same⟩

theorem keepsFinal_run (inv : ProposalsInvariant state) {actions : List ProposalAction}
    (meet : Runs.Meets Proposals.step MeetsAlone state actions) :
    KeepsFinal state (Runs.run Proposals.step state actions) := by
  induction actions generalizing state with
  | nil => exact .of_eq rfl
  | cons action rest ih =>
    have step := step_keeps inv meet.1
    exact step.final.trans (ih step.invariant meet.2)

theorem proposalsHold_of_meetsAlone (items : Table String ReputationItem)
    (actions : List ProposalAction)
    (meet : Runs.Meets Proposals.step MeetsAlone (openInbox items) actions) :
    ProposalsHold items actions where
  final := by
    intro first between rest split
    rw [split, List.append_assoc] at meet
    obtain ⟨meetFirst, meetRest⟩ := (Runs.meets_append first _).mp meet
    obtain ⟨meetBetween, -⟩ := (Runs.meets_append between _).mp meetRest
    unfold runProposals
    rw [Runs.run_append]
    exact keepsFinal_run (proposalsInvariant_run meetFirst) meetBetween
  askedOnce := (proposalsInvariant_run meet).invokedOnce
  askedApproved := (proposalsInvariant_run meet).invokedApproved
  settled := by
    intro first call answer rest running split found holds
    rw [split] at meet
    have inv := proposalsInvariant_run ((Runs.meets_append first _).mp meet).1
    exact (step_keeps inv meet.at_step).settled call answer running rfl found holds

def inboxItem : ReputationItem :=
  ⟨"tenant", .facebookPage, some .readOnly, .medium, .classified, false⟩

def inboxItems : Table String ReputationItem := Table.empty.insert "item" inboxItem

def moderator : AppSession := ⟨"tenant", "moderator", .admin⟩

def unanswered : ActionResult := ⟨false, false, false, none⟩

def propose (decisionId : String) (action : ModerationAction) : ProposalAction :=
  .createProposal moderator "item" decisionId action none

def approves (decisionId : String) : List ProposalAction :=
  [.start 0 moderator decisionId .approve, .advance 0 unanswered]

def withdraws (decisionId : String) (operation : ProposalOperation) : List ProposalAction :=
  [.start 1 moderator decisionId operation, .advance 1 unanswered, .advance 1 unanswered]

def executes (call : Nat) (decisionId : String) : List ProposalAction :=
  [.start call moderator decisionId (.execute true), .advance call unanswered,
    .advance call unanswered]

/-- A hide fails, a note is withdrawn beside an open proposal, which is then executed. -/
theorem proposalsHold_of_inbox :
    ProposalsHold inboxItems
      ([propose "hide" .hide] ++ approves "hide" ++ executes 2 "hide" ++
        [propose "ignore" .ignore, propose "note" .none] ++ withdraws "note" .reject ++
        approves "ignore" ++ executes 3 "ignore") :=
  proposalsHold_of_meetsAlone _ _ (by decide +kernel)

def cancelsFailed : List ProposalAction :=
  [propose "hide" .hide] ++ approves "hide" ++ executes 2 "hide" ++ withdraws "hide" .cancel

/-- Two executions read the decision before either asks the connector. -/
def executesTwice : List ProposalAction :=
  [propose "hide" .hide] ++ approves "hide" ++
    [.start 2 moderator "hide" (.execute true), .start 3 moderator "hide" (.execute true),
      .advance 2 unanswered, .advance 3 unanswered]

def rejectsResolved : List ProposalAction :=
  [propose "hide" .hide, .applyImmediate moderator "item" "resolve" .resolved] ++
    withdraws "hide" .reject

theorem not_proposalsHold :
    ¬ProposalsHold inboxItems cancelsFailed ∧ ¬ProposalsHold inboxItems executesTwice ∧
      ¬ProposalsHold inboxItems rejectsResolved := by
  refine ⟨?_, ?_, ?_⟩
  · intro holds
    have kept := holds.final (cancelsFailed.take 6) (cancelsFailed.drop 6) [] rfl
    obtain ⟨row, found, failed⟩ := Option.map_eq_some_iff.mp
      (show ((runProposals inboxItems (cancelsFailed.take 6)).decisions.find? "hide").map
        (·.status) = some .failed by decide +kernel)
    obtain ⟨later, foundLater, same⟩ := kept "hide" row found (by rw [failed]; rfl)
    obtain ⟨stored, foundStored, cancelled⟩ := Option.map_eq_some_iff.mp
      (show ((runProposals inboxItems (cancelsFailed.take 6 ++
          cancelsFailed.drop 6)).decisions.find? "hide").map (·.status) = some .cancelled by
        decide +kernel)
    rw [foundLater] at foundStored
    cases foundStored
    rw [failed, cancelled] at same
    cases same
  · intro holds
    exact absurd holds.askedOnce (by decide +kernel)
  · intro holds
    obtain ⟨running, found, lock⟩ := Option.map_eq_some_iff.mp
      (show ((runProposals inboxItems (rejectsResolved.take 4)).calls.find? 1).map
        (·.stage.holdsLock) = some true by decide +kernel)
    have kept := holds.settled (rejectsResolved.take 4) 1 unanswered [] running rfl found lock
    obtain ⟨item, foundItem, resolved⟩ := Option.map_eq_some_iff.mp
      (show ((runProposals inboxItems (rejectsResolved.take 4)).items.find? "item").map
        (·.status) = some .resolved by decide +kernel)
    obtain ⟨later, foundLater, same⟩ := kept "item" item foundItem (by rw [resolved]; rfl)
    obtain ⟨stored, foundStored, classified⟩ := Option.map_eq_some_iff.mp
      (show (((runProposals inboxItems (rejectsResolved.take 4)).step
          (.advance 1 unanswered)).items.find? "item").map (·.status) = some .classified by
        decide +kernel)
    rw [foundLater] at foundStored
    cases foundStored
    rw [resolved, classified] at same
    cases same
end Tamanor.Web
