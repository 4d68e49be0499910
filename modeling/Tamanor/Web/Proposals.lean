import Tamanor.Core.Moderation
import Tamanor.Db.ConnectedAccounts
import Tamanor.Library.Runs

/-! The moderation proposals of the dashboard (`proposals.ts` of the web app). A transaction
reads its decision in one statement and writes it by id in a later one; the update of a
rejection or a cancellation keeps its row locked while the open decisions of the item are
counted. An execution spans two transactions, and the connector is called between them. -/

set_option autoImplicit false

namespace Tamanor.Web

open Tamanor.Core Library
open Db (ConnectorMode)

/-! The runtime around a connector (`connector-mode.ts`, `runtime.ts`). -/

def connectorModeValue : ConnectorMode → String
  | .placeholder => "placeholder"
  | .oauthReady => "oauth_ready"
  | .readOnly => "read_only"
  | .actionDisabled => "action_disabled"

structure ConnectorModeCapabilities where
  canSync : Bool
  canAct : Bool
  isReal : Bool

def connectorModeCapabilities : ConnectorMode → ConnectorModeCapabilities
  | .placeholder => ⟨true, false, false⟩
  | .oauthReady => ⟨false, false, false⟩
  | .readOnly => ⟨true, false, true⟩
  | .actionDisabled => ⟨true, false, true⟩

def modeAllowsActions (mode : ConnectorMode) : Bool := (connectorModeCapabilities mode).canAct

structure ActionResult where
  ok : Bool
  unsupported : Bool
  disabled : Bool
  error : Option String

def guardAction (mode : ConnectorMode) (answer : ActionResult) : ActionResult :=
  if modeAllowsActions mode then answer
  else
    { ok := false, unsupported := false, disabled := true,
      error := some ("Moderation actions are disabled in \"" ++ connectorModeValue mode ++
        "\" mode (V1.2 read-only).") }

structure AppSession where
  tenantId : String
  userId : String
  role : MembershipRole

structure ReputationItem where
  tenantId : String
  platform : Platform
  connectorMode : Option ConnectorMode
  riskLevel : RiskLevel
  status : ReputationStatus
  requiresApproval : Bool

structure ModerationDecision where
  tenantId : String
  reputationItemId : String
  action : ModerationAction
  status : DecisionStatus
  proposedByUserId : String
  replyText : Option Text
  riskLevel : Option RiskLevel
  reviewerUserId : Option String
  failureReason : Option String

inductive ProposalOperation where
  | approve | reject | cancel
  | execute (operationAllowed : Bool)
deriving DecidableEq

inductive Withdrawal where
  | rejected | cancelled

def Withdrawal.status : Withdrawal → DecisionStatus
  | .rejected => .rejected
  | .cancelled => .cancelled

inductive ProposalStage where
  | approving (decision : ModerationDecision)
  | withdrawing (withdrawal : Withdrawal) (decision : ModerationDecision)
  | counted (withdrawal : Withdrawal) (decision : ModerationDecision) (openDecisions : Nat)
  | executing (decision : ModerationDecision) (item : ReputationItem)
  | answered (decision : ModerationDecision) (item : ReputationItem) (result : ActionResult)

structure ProposalCall where
  session : AppSession
  proposalId : String
  stage : ProposalStage

/-- One call of the connector runtime, with the status of its decision at that moment. -/
structure RuntimeInvocation where
  decisionId : String
  status : Option DecisionStatus

structure Proposals where
  decisions : Table String ModerationDecision
  items : Table String ReputationItem
  calls : Table Nat ProposalCall
  invocations : List RuntimeInvocation

inductive ProposalAction where
  | createProposal (session : AppSession) (itemId decisionId : String)
      (action : ModerationAction) (replyText : Option Text)
  | applyImmediate (session : AppSession) (itemId decisionId : String)
      (target : ReputationStatus)
  | start (call : Nat) (session : AppSession) (proposalId : String)
      (operation : ProposalOperation)
  | advance (call : Nat) (answer : ActionResult)
  | abort (call : Nat)

def isOpenDecision (status : DecisionStatus) : Bool :=
  [DecisionStatus.proposed, .approved].contains status

def itemStatusAfter : ModerationAction → ReputationStatus
  | .markResolved => .resolved
  | .ignore => .ignored
  | .escalate => .escalated
  | _ => .actioned

def immediateAction : ReputationStatus → ModerationAction
  | .resolved => .markResolved
  | .escalated => .escalate
  | _ => .ignore

namespace Proposals

variable (state : Proposals)

def findDecision (tenantId proposalId : String) : Option ModerationDecision :=
  (state.decisions.find? proposalId).filter (·.tenantId == tenantId)

def findItem (tenantId itemId : String) : Option ReputationItem :=
  (state.items.find? itemId).filter (·.tenantId == tenantId)

variable (session : AppSession)

def createProposal (itemId decisionId : String) (action : ModerationAction)
    (replyText : Option Text) : Except String Proposals := do
  assertCan session.role .proposalPropose
  let reply := (replyText.map Text.trim).filter (!·.isEmpty)
  if action = .reply ∧ reply = none then .error "Reply text is required."
  else
    match state.findItem session.tenantId itemId with
    | none => .error "Item not found"
    | some item =>
      return { state with
        decisions := state.decisions.insert decisionId
          { tenantId := session.tenantId, reputationItemId := itemId, action
            status := .proposed, proposedByUserId := session.userId, replyText := reply
            riskLevel := some item.riskLevel, reviewerUserId := none, failureReason := none }
        items := state.items.modify itemId fun row =>
          { row with status := .needsApproval, requiresApproval := true } }

/-- The three targets are resolved, escalated and ignored. -/
def applyImmediate (itemId decisionId : String) (target : ReputationStatus) :
    Except String Proposals := do
  assertCan session.role .inboxAct
  match state.findItem session.tenantId itemId with
  | none => .error "Item not found"
  | some _ =>
    return { state with
      items := state.items.modify itemId fun row => { row with status := target }
      decisions := state.decisions.insert decisionId
        { tenantId := session.tenantId, reputationItemId := itemId
          action := immediateAction target, status := .executed
          proposedByUserId := session.userId, replyText := none, riskLevel := none
          reviewerUserId := some session.userId, failureReason := none } }

/-! What a call on a proposal checks in what it has read. -/

def checkApprove (decision : ModerationDecision) : Except String Unit :=
  if decision.status ≠ .proposed then
    .error ("Cannot approve a " ++ decision.status.value ++ " proposal.")
  else if !canApproveDecision session.role decision.action (decision.riskLevel.getD .none) then
    .error ("Your role (" ++ session.role.value ++ ") cannot approve this proposal.")
  else .ok ()

def checkReject (decision : ModerationDecision) : Except String Unit :=
  if decision.status ≠ .proposed then
    .error ("Cannot reject a " ++ decision.status.value ++ " proposal.")
  else .ok ()

def checkCancel (decision : ModerationDecision) : Except String Unit :=
  if terminalDecisionStatuses.contains decision.status then
    .error ("Cannot cancel a " ++ decision.status.value ++ " proposal.")
  else .ok ()

def checkExecute (decision : ModerationDecision) : Except String Unit :=
  if decision.status ≠ .approved then
    .error ("Only approved proposals can be executed (this is " ++ decision.status.value ++ ").")
  else .ok ()

def requiredPermission : ProposalOperation → Permission
  | .approve => .proposalApprove
  | .reject => .proposalApprove
  | .cancel => .proposalPropose
  | .execute _ => .proposalExecute

def read (proposalId : String) (operation : ProposalOperation) : Except String ProposalStage := do
  assertCan session.role (requiredPermission operation)
  if operation = .execute false then .error "billing_restricted"
  else
    match state.findDecision session.tenantId proposalId with
    | none => .error "Proposal not found"
    | some decision =>
      match operation with
      | .approve =>
        checkApprove session decision
        return .approving decision
      | .reject =>
        checkReject decision
        return .withdrawing .rejected decision
      | .cancel =>
        checkCancel decision
        return .withdrawing .cancelled decision
      | .execute _ =>
        checkExecute decision
        match state.items.find? decision.reputationItemId with
        | none => .error "Proposal not found"
        | some item => return .executing decision item

/-- The open decisions of an item that another decision's withdrawal finds. -/
def countOpen (tenantId reputationItemId withdrawn : String) : Nat :=
  state.decisions.rows.countP fun entry =>
    entry.1 != withdrawn && entry.2.tenantId == tenantId &&
      entry.2.reputationItemId == reputationItemId && isOpenDecision entry.2.status

def isLocked (call : Nat) (proposalId : String) : Bool :=
  state.calls.rows.any fun entry =>
    entry.1 != call && entry.2.proposalId == proposalId &&
      match entry.2.stage with
      | .counted .. => true
      | _ => false

def endCall (call : Nat) : Proposals :=
  { state with calls := state.calls.deleteWhere fun other _ => other == call }

def setStage (call : Nat) (stage : ProposalStage) : Proposals :=
  { state with calls := state.calls.modify call fun running => { running with stage } }

def setDecision (proposalId : String) (change : ModerationDecision → ModerationDecision) :
    Proposals :=
  { state with decisions := state.decisions.modify proposalId change }

def setItem (itemId : String) (change : ReputationItem → ReputationItem) : Proposals :=
  { state with items := state.items.modify itemId change }

/-- `maybeReturnItemToTriage`, with what its count has found. -/
def maybeReturnItemToTriage (reputationItemId : String) (openDecisions : Nat) : Proposals :=
  if openDecisions = 0 then
    state.setItem reputationItemId fun row =>
      { row with status := .classified, requiresApproval := false }
  else state

def failureReason (action : ModerationAction) (platform : Platform) (result : ActionResult) :
    String :=
  result.error.getD
    (if result.unsupported then
      action.value ++ " is not supported by the " ++ platform.value ++ " API."
    else action.value ++ " could not be executed.")

def recordFailure (proposalId reason : String) : Proposals :=
  state.setDecision proposalId fun row =>
    { row with status := .failed, failureReason := some reason }

def recordSuccess (proposalId : String) (decision : ModerationDecision) : Proposals :=
  (state.setDecision proposalId fun row => { row with status := .executed }).setItem
    decision.reputationItemId fun row => { row with status := itemStatusAfter decision.action }

/-- The next statements of a call; an update of a row that is locked waits. -/
def advance (call : Nat) (running : ProposalCall) (answer : ActionResult) : Proposals :=
  let id := running.proposalId
  match running.stage with
  | .approving _ =>
    if state.isLocked call id then state
    else
      (state.setDecision id fun row =>
        { row with status := .approved, reviewerUserId := some running.session.userId }).endCall call
  | .withdrawing withdrawal decision =>
    if state.isLocked call id then state
    else
      state.setStage call (.counted withdrawal decision
        (state.countOpen running.session.tenantId decision.reputationItemId id))
  | .counted withdrawal decision openDecisions =>
    ((state.setDecision id fun row =>
      { row with
        status := withdrawal.status
        reviewerUserId := some running.session.userId }).maybeReturnItemToTriage
      decision.reputationItemId openDecisions).endCall call
  | .executing decision item =>
    if isPlatformAction decision.action then
      { state.setStage call (.answered decision item
          (guardAction (item.connectorMode.getD .placeholder) answer)) with
        invocations := ⟨id, (state.decisions.find? id).map (·.status)⟩ :: state.invocations }
    else if state.isLocked call id then state
    else (state.recordSuccess id decision).endCall call
  | .answered decision item result =>
    if state.isLocked call id then state
    else if result.ok then (state.recordSuccess id decision).endCall call
    else
      (state.recordFailure id
        (failureReason decision.action item.platform result)).endCall call

def step : ProposalAction → Proposals
  | .createProposal session itemId decisionId action replyText =>
    if (state.decisions.find? decisionId).isSome then state
    else (state.createProposal session itemId decisionId action replyText).toOption.getD state
  | .applyImmediate session itemId decisionId target =>
    if (state.decisions.find? decisionId).isSome ∨
        ¬[ReputationStatus.resolved, .escalated, .ignored].contains target then state
    else (state.applyImmediate session itemId decisionId target).toOption.getD state
  | .start call session proposalId operation =>
    match state.read session proposalId operation with
    | .error _ => state
    | .ok stage => { state with calls := state.calls.insert call ⟨session, proposalId, stage⟩ }
  | .advance call answer =>
    match state.calls.find? call with
    | none => state
    | some running => state.advance call running answer
  | .abort call => state.endCall call

end Proposals

/-- An inbox as the ingestion leaves it: items, and no decision yet. -/
def openInbox (items : Table String ReputationItem) : Proposals :=
  ⟨Table.empty, items, Table.empty, []⟩

end Tamanor.Web
