import Tamanor.Core.BusinessContacts
import Tamanor.Core.CyberbullyingIncident
import Tamanor.Library.Interleaving

/-! The operations on a cyberbullying case (`cyberbullying-incident.ts` and
`cyberbullying-escalation.ts` of the db package): its status, its reviewer and its escalations,
as calls whose statements interleave. What a transaction has written is locked and unseen until
it commits, so that its writes stand in its last statement. -/

set_option autoImplicit false

namespace Tamanor.Db

open Tamanor.Core Library

structure CaseIncident where
  tenantId : String
  cyberbullying : Bool
  status : IncidentLifecycleStatus
  resolvedAt : Option Int

structure CaseDetail where
  tenantId : String
  assignedReviewerUserId : Option String

inductive IncidentAssignmentAction where
  | assigned | reassigned | unassigned
deriving DecidableEq

structure IncidentAssignmentEvent where
  tenantId : String
  incidentId : String
  action : IncidentAssignmentAction
  assigneeUserId : Option String
  previousAssigneeUserId : Option String
  assignedByUserId : String
  reason : Option String

structure CyberbullyingEscalation where
  tenantId : String
  incidentId : String
  status : EscalationStatus
  severity : String
  reasonCode : String
  note : Option String
  escalatedByUserId : String
  targetUserId : Option String
  targetRole : Option String
  resolvedAt : Option Int
  resolvedByUserId : Option String
  resolutionCode : Option String

/-- The users that take part in incidents, by the id of the incident, and the roles of the
members of tenants, are read only. -/
structure CaseDatabase where
  now : Int
  incidents : Table String CaseIncident
  details : Table String CaseDetail
  participants : List (String × String)
  memberships : List (String × String × MembershipRole)
  assignments : List IncidentAssignmentEvent
  escalations : Table String CyberbullyingEscalation

/-! The requests and the stages of their calls. -/

structure ManualEscalationInput where
  severity : String
  reasonCode : String
  note : Option String
  targetUserId : Option String
  targetRole : Option String

inductive CaseRequest where
  | transition (actor : IncidentActorContext) (incidentId : String)
      (target : IncidentLifecycleStatus) (reason : Option String)
  | reopen (actor : IncidentActorContext) (incidentId : String) (reason : String)
  | assign (actor : IncidentActorContext) (incidentId assigneeUserId : String)
      (reason : Option String)
  | unassign (actor : IncidentActorContext) (incidentId : String) (reason : Option String)
  | escalate (actor : IncidentActorContext) (incidentId : String) (input : ManualEscalationInput)
  | resolve (actor : IncidentActorContext) (escalationId : String) (resolutionCode : Option String)
  | cancel (actor : IncidentActorContext) (escalationId : String)
  | reassignTarget (actor : IncidentActorContext) (escalationId newTargetUserId : String)

inductive EscalationErrorCode where
  | forbidden | notFound | invalidTransition | invalidRecipient | invalidReason | missingNote
  | duplicate

inductive CaseError where
  | forbidden (permission : CyberbullyingPermission)
  | notFound
  | transitionRejected (result : IncidentTransitionResult)
  | invalidTarget
  | noChange
  | escalation (code : EscalationErrorCode)
  | database

inductive CaseAnswer where
  | transitioned (result : IncidentTransitionResult)
  | assigned (action : IncidentAssignmentAction)
  | escalated (escalationId : String)
  | done
  | threw (error : CaseError)

inductive RecipientCheck where
  | escalation (actor : IncidentActorContext) (incidentId : String)
      (input : ManualEscalationInput) (note targetUserId : String)
  | retarget (actor : IncidentActorContext) (escalationId incidentId newTargetUserId : String)

structure IncidentScope where
  assignee : Option String
  participants : List String

inductive CaseStage where
  | transitioning (actor : IncidentActorContext) (incidentId : String)
      (target : IncidentLifecycleStatus) (reopen : Bool) (reason : Option String)
  | writingStatus (incidentId : String) (result : IncidentTransitionResult)
  | assigning (actor : IncidentActorContext) (incidentId assigneeUserId : String)
      (reason : Option String)
  | unassigning (actor : IncidentActorContext) (incidentId : String) (reason : Option String)
  | writingAssignment (actor : IncidentActorContext) (event : IncidentAssignmentEvent)
  | authorizing (actor : IncidentActorContext) (incidentId : String)
      (input : ManualEscalationInput) (note : String)
  | findingActive (actor : IncidentActorContext) (incidentId : String)
      (input : ManualEscalationInput) (note : String)
  | scopingRecipient (check : RecipientCheck)
  | checkingRecipient (check : RecipientCheck) (scope : IncidentScope)
  | inserting (escalation : CyberbullyingEscalation)
  | closing (actor : IncidentActorContext) (escalationId : String) (target : EscalationStatus)
      (resolutionCode : Option String)
  | writingClosure (actor : IncidentActorContext) (escalationId : String)
      (target : EscalationStatus) (resolutionCode : Option String)
  | retargeting (actor : IncidentActorContext) (escalationId newTargetUserId : String)
  | writingTarget (escalationId newTargetUserId : String)
  | ended (answer : CaseAnswer)
  | dead

/-- A statement runs, with the id that it would draw, throws, or its process dies before it. -/
inductive CaseChoice where
  | runs (id : String)
  | throws
  | dies

/-- What happens beside the calls: participants and members come and go, and time passes. -/
inductive CaseEvent where
  | participants (rows : List (String × String))
  | memberships (rows : List (String × String × MembershipRole))
  | elapse (time : Nat)

/-! What is checked before a transaction begins. -/

variable (actor : IncidentActorContext)

def enterWith (permission : CyberbullyingPermission) (error : CaseError) (next : CaseStage) :
    CaseStage :=
  if canCyberbullying actor.role permission then next else .ended (.threw error)

def enterAssertPerm (permission : CyberbullyingPermission) (next : CaseStage) : CaseStage :=
  enterWith actor permission (.forbidden permission) next

def truthy (text : Option String) : Option String := text.filter (· ≠ "")

def enterEscalate (incidentId : String) (input : ManualEscalationInput) : CaseStage :=
  let threw (code : EscalationErrorCode) : CaseStage := .ended (.threw (.escalation code))
  let note := trimmed input.note
  enterWith actor .review (.escalation .forbidden)
    (if isEscalationSeverity input.severity = false then threw .invalidReason
    else if isEscalationReason input.reasonCode = false then threw .invalidReason
    else if escalationReasonRequiresNote input.reasonCode = true ∧ note = "" then
      threw .missingNote
    else if escalationNoteMax < (Text.codeUnits note.toList).length then threw .invalidReason
    else .authorizing actor incidentId input note)

def enterCase (_ : CaseDatabase) : CaseRequest → CaseStage
  | .transition actor incidentId target reason =>
    enterAssertPerm actor (permissionForIncidentTransition target)
      (.transitioning actor incidentId target false reason)
  | .reopen actor incidentId reason =>
    enterAssertPerm actor .manage
      (.transitioning actor incidentId .underReview true (some reason))
  | .assign actor incidentId assigneeUserId reason =>
    if isBlank (some assigneeUserId) then .ended (.threw .invalidTarget)
    else .assigning actor incidentId assigneeUserId reason
  | .unassign actor incidentId reason =>
    enterAssertPerm actor .manage (.unassigning actor incidentId reason)
  | .escalate actor incidentId input => enterEscalate actor incidentId input
  | .resolve actor escalationId resolutionCode =>
    .closing actor escalationId .resolved resolutionCode
  | .cancel actor escalationId =>
    enterWith actor .escalate (.escalation .forbidden)
      (.closing actor escalationId .cancelled none)
  | .reassignTarget actor escalationId newTargetUserId =>
    enterWith actor .escalate (.escalation .forbidden)
      (.retargeting actor escalationId newTargetUserId)

namespace RecipientCheck

def tenantId : RecipientCheck → String
  | .escalation actor _ _ _ _ => actor.tenantId
  | .retarget actor _ _ _ => actor.tenantId

def incidentId : RecipientCheck → String
  | .escalation _ incidentId _ _ _ => incidentId
  | .retarget _ _ incidentId _ => incidentId

def userId : RecipientCheck → String
  | .escalation _ _ _ _ targetUserId => targetUserId
  | .retarget _ _ _ newTargetUserId => newTargetUserId

end RecipientCheck

def manualEscalation (incidentId : String) (input : ManualEscalationInput) (note : String) :
    CyberbullyingEscalation where
  tenantId := actor.tenantId
  incidentId := incidentId
  status := .active
  severity := input.severity
  reasonCode := input.reasonCode
  note := truthy (some note)
  escalatedByUserId := actor.userId
  targetUserId := truthy input.targetUserId
  targetRole := truthy input.targetRole
  resolvedAt := none
  resolvedByUserId := none
  resolutionCode := none

def targetRoleStage (incidentId : String) (input : ManualEscalationInput) (note : String) :
    CaseStage :=
  if (truthy input.targetRole).all fun role => ["owner", "admin", "reviewer"].contains role then
    .inserting (manualEscalation actor incidentId input note)
  else .ended (.threw (.escalation .invalidRecipient))

def RecipientCheck.passed : RecipientCheck → CaseStage
  | .escalation actor incidentId input note _ => targetRoleStage actor incidentId input note
  | .retarget _ escalationId _ newTargetUserId => .writingTarget escalationId newTargetUserId

namespace CaseDatabase

variable (state : CaseDatabase) (actor : IncidentActorContext)

def transitioningStage (incidentId : String) (target : IncidentLifecycleStatus) (reopen : Bool)
    (reason : Option String) : CaseStage :=
  match (state.incidents.find? incidentId).filter fun row => row.tenantId == actor.tenantId with
  | none => .ended (.threw .notFound)
  | some row =>
    let result := applyIncidentTransition row.status target reopen reason
    if result.error.isSome then .ended (.threw (.transitionRejected result))
    else .writingStatus incidentId result

/-- A reopening clears the time of the resolution, and a resolution sets it. -/
def resolvedAtOf (result : IncidentTransitionResult) (row : CaseIncident) : Option Int :=
  if result.reopen then none
  else if result.target = .resolved then some state.now
  else row.resolvedAt

def writeStatus (incidentId : String) (result : IncidentTransitionResult) :
    CaseDatabase × CaseStage :=
  if (state.incidents.find? incidentId).isSome then
    ({ state with
        incidents := state.incidents.modify incidentId fun row =>
          { row with status := result.target, resolvedAt := state.resolvedAtOf result row } },
      .ended (.transitioned result))
  else (state, .ended (.threw .database))

def caseDetail (incidentId : String) : Option CaseDetail :=
  (state.details.find? incidentId).filter fun row => row.tenantId == actor.tenantId

def assigningStage (incidentId assigneeUserId : String) (reason : Option String) : CaseStage :=
  match state.caseDetail actor incidentId with
  | none => .ended (.threw .notFound)
  | some detail =>
    let previous := detail.assignedReviewerUserId
    if previous = some assigneeUserId then .ended (.threw .noChange)
    else
      enterAssertPerm actor (if previous.isSome then .manage else .review)
        (.writingAssignment actor
          { tenantId := actor.tenantId
            incidentId := incidentId
            action := if previous.isSome then .reassigned else .assigned
            assigneeUserId := some assigneeUserId
            previousAssigneeUserId := previous
            assignedByUserId := actor.userId
            reason := reason })

def unassigningStage (incidentId : String) (reason : Option String) : CaseStage :=
  match state.caseDetail actor incidentId with
  | none => .ended (.threw .notFound)
  | some detail =>
    let previous := detail.assignedReviewerUserId
    if previous.isNone then .ended (.threw .noChange)
    else
      .writingAssignment actor
        { tenantId := actor.tenantId
          incidentId := incidentId
          action := .unassigned
          assigneeUserId := none
          previousAssigneeUserId := previous
          assignedByUserId := actor.userId
          reason := reason }

def writeAssignment (event : IncidentAssignmentEvent) : CaseDatabase × CaseStage :=
  if (state.details.find? event.incidentId).isSome then
    ({ state with
        details := state.details.modify event.incidentId fun row =>
          { row with assignedReviewerUserId := event.assigneeUserId }
        assignments := state.assignments ++ [event] },
      .ended (if event.action = .unassigned then .done else .assigned event.action))
  else (state, .ended (.threw .database))

def domainIncident (tenantId incidentId : String) : Option CaseIncident :=
  (state.incidents.find? incidentId).filter fun row =>
    row.tenantId == tenantId && row.cyberbullying

def participantsOf (incidentId : String) : List String :=
  (state.participants.filter fun row => row.1 == incidentId).map Prod.snd

def assigneeOf (incidentId : String) : Option String :=
  (state.details.find? incidentId).bind (·.assignedReviewerUserId)

/-- `authorizeScope`. -/
def authorizingStage (incidentId : String) (input : ManualEscalationInput) (note : String) :
    CaseStage :=
  match state.domainIncident actor.tenantId incidentId with
  | none => .ended (.threw (.escalation .notFound))
  | some _ =>
    let tenantWide := actor.role == .owner || actor.role == .admin
    let inScope := (state.participantsOf incidentId).contains actor.userId ||
      state.assigneeOf incidentId == some actor.userId
    if tenantWide || inScope then .findingActive actor incidentId input note
    else .ended (.threw (.escalation .forbidden))

def activeEscalation (tenantId incidentId : String) : Bool :=
  state.escalations.rows.any fun row =>
    row.2.incidentId == incidentId && row.2.tenantId == tenantId && row.2.status == .active

def findingActiveStage (incidentId : String) (input : ManualEscalationInput) (note : String) :
    CaseStage :=
  if state.activeEscalation actor.tenantId incidentId then
    .ended (.threw (.escalation .duplicate))
  else
    match truthy input.targetUserId with
    | some targetUserId =>
      .scopingRecipient (.escalation actor incidentId input note targetUserId)
    | none => targetRoleStage actor incidentId input note

/-- `loadIncidentScope`. -/
def scopingStage (check : RecipientCheck) : CaseStage :=
  match state.domainIncident check.tenantId check.incidentId with
  | none => .ended (.threw (.escalation .invalidRecipient))
  | some _ =>
    .checkingRecipient check
      ⟨state.assigneeOf check.incidentId,
        (state.participantsOf check.incidentId).filter (· ≠ "")⟩

def roleOf (tenantId userId : String) : Option MembershipRole :=
  (state.memberships.find? fun row =>
    row.1 == tenantId && row.2.1 == userId && userId != "").map fun row => row.2.2

def validRecipient (check : RecipientCheck) (scope : IncidentScope) : Bool :=
  (state.roleOf check.tenantId check.userId).any fun role =>
    canCyberbullying role .review &&
      (role == .owner || role == .admin || scope.participants.contains check.userId ||
        truthy scope.assignee == some check.userId)

def checkingStage (check : RecipientCheck) (scope : IncidentScope) : CaseStage :=
  if state.validRecipient check scope then check.passed
  else .ended (.threw (.escalation .invalidRecipient))

/-- Only the primary key and the reference to the incident may refuse the row. -/
def insertEscalation (escalation : CyberbullyingEscalation) (id : String) :
    CaseDatabase × CaseStage :=
  if (state.escalations.find? id).isSome ∨
      (state.incidents.find? escalation.incidentId).all
        (fun row => row.tenantId != escalation.tenantId) = true then
    (state, .ended (.threw .database))
  else
    ({ state with escalations := state.escalations.insert id escalation }, .ended (.escalated id))

/-- `loadActive`, which finds an escalation of any status. -/
def loadActive (escalationId : String) : Option CyberbullyingEscalation :=
  (state.escalations.find? escalationId).filter fun row => row.tenantId == actor.tenantId

def mayClose (target : EscalationStatus) (escalation : CyberbullyingEscalation) : Bool :=
  target == .cancelled || canCyberbullying actor.role .escalate ||
    (escalation.targetUserId == some actor.userId && canCyberbullying actor.role .review)

def closingStage (escalationId : String) (target : EscalationStatus)
    (resolutionCode : Option String) : CaseStage :=
  match state.loadActive actor escalationId with
  | none => .ended (.threw (.escalation .notFound))
  | some escalation =>
    if mayClose actor target escalation = false then .ended (.threw (.escalation .forbidden))
    else if canEscalationTransition escalation.status target = false then
      .ended (.threw (.escalation .invalidTransition))
    else .writingClosure actor escalationId target resolutionCode

def writeClosure (escalationId : String) (target : EscalationStatus)
    (resolutionCode : Option String) : CaseDatabase × CaseStage :=
  if (state.escalations.find? escalationId).isSome then
    ({ state with
        escalations := state.escalations.modify escalationId fun row =>
          { row with
            status := target
            resolvedAt := some state.now
            resolvedByUserId := some actor.userId
            resolutionCode :=
              if target = .resolved then truthy resolutionCode else row.resolutionCode } },
      .ended .done)
  else (state, .ended (.threw .database))

def retargetingStage (escalationId newTargetUserId : String) : CaseStage :=
  match state.loadActive actor escalationId with
  | none => .ended (.threw (.escalation .notFound))
  | some escalation =>
    if escalation.status ≠ .active then .ended (.threw (.escalation .invalidTransition))
    else .scopingRecipient (.retarget actor escalationId escalation.incidentId newTargetUserId)

def writeTarget (escalationId newTargetUserId : String) : CaseDatabase × CaseStage :=
  if (state.escalations.find? escalationId).isSome then
    ({ state with
        escalations := state.escalations.modify escalationId fun row =>
          { row with targetUserId := some newTargetUserId } },
      .ended .done)
  else (state, .ended (.threw .database))

def statement (id : String) : CaseStage → CaseDatabase × CaseStage
  | .transitioning actor incidentId target reopen reason =>
    (state, state.transitioningStage actor incidentId target reopen reason)
  | .writingStatus incidentId result => state.writeStatus incidentId result
  | .assigning actor incidentId assigneeUserId reason =>
    (state, state.assigningStage actor incidentId assigneeUserId reason)
  | .unassigning actor incidentId reason => (state, state.unassigningStage actor incidentId reason)
  | .writingAssignment _ event => state.writeAssignment event
  | .authorizing actor incidentId input note =>
    (state, state.authorizingStage actor incidentId input note)
  | .findingActive actor incidentId input note =>
    (state, state.findingActiveStage actor incidentId input note)
  | .scopingRecipient check => (state, state.scopingStage check)
  | .checkingRecipient check scope => (state, state.checkingStage check scope)
  | .inserting escalation => state.insertEscalation escalation id
  | .closing actor escalationId target resolutionCode =>
    (state, state.closingStage actor escalationId target resolutionCode)
  | .writingClosure actor escalationId target resolutionCode =>
    state.writeClosure actor escalationId target resolutionCode
  | .retargeting actor escalationId newTargetUserId =>
    (state, state.retargetingStage actor escalationId newTargetUserId)
  | .writingTarget escalationId newTargetUserId =>
    state.writeTarget escalationId newTargetUserId
  | .ended answer => (state, .ended answer)
  | .dead => (state, .dead)

def occur : CaseEvent → CaseDatabase
  | .participants rows => { state with participants := rows }
  | .memberships rows => { state with memberships := rows }
  | .elapse time => { state with now := state.now + time }

end CaseDatabase

def CaseStage.afterThrow : CaseStage → CaseStage
  | .ended answer => .ended answer
  | .dead => .dead
  | _ => .ended (.threw .database)

def CaseStage.afterDeath : CaseStage → CaseStage
  | .ended answer => .ended answer
  | _ => .dead

def caseProgram : Interleaving.Program CaseDatabase CaseRequest CaseStage CaseChoice CaseEvent where
  enter := enterCase
  statement := fun state _ stage choice =>
    match choice with
    | .runs id => state.statement id stage
    | .throws => (state, stage.afterThrow)
    | .dies => (state, stage.afterDeath)
  occur := CaseDatabase.occur

end Tamanor.Db
