import Tamanor.Sync.HideSystem
import Tamanor.Web.Proposals

/-! Decisions on one item of the action queue, from the web (`action-queue/[id]/actions.ts`)
and from the mobile app (`mobile-queue.ts`, `mobile-queue-deps.ts`). The web actions load the
item and update it by id in a later transaction; the mobile handler updates it only in a state
from which its decision is allowed. -/

set_option autoImplicit false

namespace Tamanor.Web

open Ai Tamanor.Core Library Sync

/-! The transition rules of the mobile handler. -/

inductive QueueDecision where
  | approve | reject | resolve

def terminalStates : List QueueState := [.rejected, .noAction]

def approveFrom : List QueueState :=
  [.suggested, .approvalRequired, .blockedBySafety, .failed, .dryRun, .monitor]

def rejectFrom : List QueueState :=
  [.suggested, .approvalRequired, .blockedBySafety, .failed, .dryRun, .monitor, .approved]

def resolveFrom : List QueueState :=
  [.suggested, .approvalRequired, .blockedBySafety, .failed, .dryRun, .monitor, .approved,
    .executed, .rollbackNeeded]

def allowedFromStates : QueueDecision → List QueueState
  | .approve => approveFrom
  | .reject => rejectFrom
  | .resolve => resolveFrom

def canApplyDecision (decision : QueueDecision) (current : QueueState) : Bool :=
  (allowedFromStates decision).contains current

structure QueueItem where
  id : String
  tenantId : String
  brandId : String
  itemId : String
  category : String
  confidence : ℚ
  proposedAction : String
  queueState : QueueState
  approvedByUserId : Option String
  rejectedByUserId : Option String
deriving DecidableEq

def QueueItem.decide (item : QueueItem) (decision : QueueDecision) (userId : String) : QueueItem :=
  match decision with
  | .approve => { item with queueState := .approved, approvedByUserId := some userId }
  | .reject => { item with queueState := .rejected, rejectedByUserId := some userId }
  | .resolve => { item with queueState := .noAction }

def QueueItem.unlessRejected (item : QueueItem) (change : QueueItem → QueueItem) : QueueItem :=
  if item.queueState = .rejected then item else change item

def QueueItem.resolveQueueItem (item : QueueItem) (state : QueueState) : QueueItem :=
  item.unlessRejected fun row => { row with queueState := state }

/-- The write after a hide (phase 3 of `runHideForQueueItem`). -/
def QueueItem.afterHide (item : QueueItem) (userId : String) (result : HideExecutionResult) :
    QueueItem :=
  if result.status = .executed then
    item.unlessRejected fun row =>
      { row with queueState := .executed, approvedByUserId := some userId }
  else if result.reason = "comment_deleted_or_unavailable" then
    item.unlessRejected fun row => { row with queueState := .noAction }
  else item

/-- The item's content, its account and its policy, as the hide reads them. -/
structure HideTarget where
  riskLevel : String
  externalCommentId : Option String
  externalPostId : Option String
  connectedAccountId : String
  platform : String
  account : HideAccount
  policy : Option (String × String)

def hideContext (item : QueueItem) (target : HideTarget) : HideContext where
  tenantId := item.tenantId
  brandId := item.brandId
  itemId := item.itemId
  queueItemId := some item.id
  policyId := target.policy.map (·.1)
  connectedAccountId := target.connectedAccountId
  platform := target.platform
  externalCommentId := target.externalCommentId
  externalPostId := target.externalPostId
  matchedCategory := item.category
  confidence := item.confidence
  riskLevel := target.riskLevel
  mode := (target.policy.map (·.2)).getD "approval"
  trigger := .approval
  account := target.account
  requestedBy := "user"

structure HideRequest where
  retry : Bool
  liveAttempt : Bool

def HideRequest.options (request : HideRequest) : HideOptions :=
  ⟨request.retry, request.liveAttempt, none⟩

inductive QueueHideStage where
  | loading
  | reading (call : HideCall)
  | acting (call : HideCall) (existing : List ExecutionRow)
  | recording (call : HideCall) (existing : List ExecutionRow) (now : Nat → Int)
      (writes : List QueueState)
  | resolving (result : Except HideFailure HideExecutionResult) (writes : List QueueState)

inductive QueueStage where
  | deciding (decision : QueueDecision) (hides : List HideRequest)
  | answering (decision : QueueDecision)
  | preflight (retry : Bool)
  | performing (request : HideRequest) (stage : QueueHideStage) (later : List HideRequest)

structure QueueCall where
  session : AppSession
  item : QueueItem
  stage : QueueStage

/-- What a decision or a hide is asked for; the live hide needs a checkbox and a phrase. -/
inductive QueueOperation where
  | approve | approveWithoutHide | retry
  | executeLive (understood : Bool) (confirmPhrase : Text) (isRetry : Bool)
  | markHandled | reject
  | mobile (decision : QueueDecision)

structure QueueInput where
  operationsAllowed : Bool
  target : Option HideTarget
  preflightPolicyId : Option String
  cfg : LiveActionsConfig
  transport : FacebookHideTransport
  executionId : String
  now : Nat → Int

inductive QueueAction where
  | start (call : Nat) (session : AppSession) (operation : QueueOperation)
  | advance (call : Nat) (input : QueueInput)
  | abort (call : Nat)

/-- The posts are the states in which the item was when its comment was hidden. -/
structure ActionQueue where
  item : QueueItem
  executions : List ExecutionRow
  calls : Table Nat QueueCall
  posts : List QueueState

def queueItemOf (item : QueueItem) (executions : List ExecutionRow) : ActionQueue :=
  ⟨item, executions, Table.empty, []⟩

namespace ActionQueue

variable (queue : ActionQueue)

def opens (operation : QueueOperation) : Option QueueStage :=
  match operation with
  | .approve =>
    some (.deciding .approve
      (if queue.item.proposedAction = "hide_comment" then [⟨false, false⟩] else []))
  | .approveWithoutHide => some (.deciding .approve [])
  | .retry =>
    if queue.item.proposedAction = "hide_comment" then some (.performing ⟨true, false⟩ .loading [])
    else none
  | .executeLive understood confirmPhrase isRetry =>
    if queue.item.proposedAction = "hide_comment" ∧ understood = true ∧
        Text.trim confirmPhrase = "LIVE HIDE".toList then some (.preflight isRetry)
    else none
  | .markHandled => some (.deciding .resolve [])
  | .reject => some (.deciding .reject [])
  | .mobile decision =>
    if canApplyDecision decision queue.item.queueState then some (.answering decision) else none

/-- `findPreflightDryRun`. -/
def findPreflightDryRun (policyId : Option String) : Option ExecutionRow :=
  queue.executions.find? fun row =>
    row.tenantId == queue.item.tenantId && row.queueItemId == some queue.item.id &&
      row.policyId == policyId && row.actionType == "hide_comment" && row.trigger == .approval &&
      row.status == .dryRun && row.executedAt.isNone

def endCall (call : Nat) : ActionQueue :=
  { queue with calls := queue.calls.deleteWhere fun other _ => other == call }

def setStage (call : Nat) (stage : QueueStage) : ActionQueue :=
  { queue with calls := queue.calls.modify call fun running => { running with stage } }

def hideNext (call : Nat) : List HideRequest → ActionQueue
  | [] => queue.endCall call
  | request :: later => queue.setStage call (.performing request .loading later)

def hideCall (running : QueueCall) (request : HideRequest) (input : QueueInput)
    (target : HideTarget) : HideCall where
  cfg := input.cfg
  options := request.options
  ctx := hideContext running.item target
  transport := input.transport
  executionId := input.executionId

def insertAnswer (hide : HideCall) (existing : List ExecutionRow) (now : Nat → Int) :
    InsertAnswer × List ExecutionRow :=
  match hide.insertion existing now with
  | none => (.created hide.executionId, queue.executions)
  | some row =>
    if refusesInsert queue.executions row then
      (.uniqueViolation (findWinner queue.executions hide.ctx), queue.executions)
    else (.created hide.executionId, row :: queue.executions)

/-- The next statement of a hide. The provider is called when the attempt acts; the queue
writes of the attempt come before and after its insert. -/
def advanceHide (call : Nat) (running : QueueCall) (request : HideRequest)
    (later : List HideRequest) (input : QueueInput) : QueueHideStage → ActionQueue
  | .loading =>
    if request.liveAttempt = true ∧ input.operationsAllowed = false then queue.hideNext call later
    else
      match input.target with
      | none => queue.hideNext call later
      | some target =>
        queue.setStage call
          (.performing request (.reading (hideCall running request input target)) later)
  | .reading hide => queue.setStage call (.performing request (.acting hide queue.executions) later)
  | .acting hide existing =>
    let attempt := (hide.attempt existing input.now .failed).1
    { queue.setStage call
        (.performing request (.recording hide existing input.now attempt.queueWrites) later) with
      posts := if attempt.liveHides = [] then queue.posts
        else queue.item.queueState :: queue.posts }
  | .recording hide existing now (state :: writes) =>
    { queue.setStage call (.performing request (.recording hide existing now writes) later) with
      item := queue.item.resolveQueueItem state }
  | .recording hide existing now [] =>
    let answer := queue.insertAnswer hide existing now
    let written := (hide.attempt existing now .failed).1.queueWrites
    let outcome := hide.attempt existing now answer.1
    { queue.setStage call
        (.performing request (.resolving outcome.2 (outcome.1.queueWrites.drop written.length))
          later) with
      executions := answer.2 }
  | .resolving result (state :: writes) =>
    { queue.setStage call (.performing request (.resolving result writes) later) with
      item := queue.item.resolveQueueItem state }
  | .resolving (.error _) [] => queue.endCall call
  | .resolving (.ok result) [] =>
    { queue.hideNext call later with
      item := queue.item.afterHide running.session.userId result }

def advance (call : Nat) (running : QueueCall) (input : QueueInput) : ActionQueue :=
  match running.stage with
  | .deciding decision hides =>
    { queue.hideNext call hides with
      item := queue.item.decide decision running.session.userId }
  | .answering decision =>
    { queue.endCall call with
      item := if (allowedFromStates decision).contains queue.item.queueState then
          queue.item.decide decision running.session.userId
        else queue.item }
  | .preflight retry =>
    queue.hideNext call
      (match queue.findPreflightDryRun input.preflightPolicyId with
      | some _ => [⟨retry, true⟩]
      | none => [⟨false, false⟩, ⟨retry, true⟩])
  | .performing request stage later => queue.advanceHide call running request later input stage

def step : QueueAction → ActionQueue
  | .start call session operation =>
    if can session.role .proposalApprove ∧ session.tenantId = queue.item.tenantId then
      match queue.opens operation with
      | none => queue
      | some stage =>
        { queue with calls := queue.calls.insert call ⟨session, queue.item, stage⟩ }
    else queue
  | .advance call input =>
    match queue.calls.find? call with
    | none => queue
    | some running => queue.advance call running input
  | .abort call => queue.endCall call

end ActionQueue

end Tamanor.Web
