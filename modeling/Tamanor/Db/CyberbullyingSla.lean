import Tamanor.Core.CyberbullyingNotifications
import Tamanor.Db.CyberbullyingCase
import Tamanor.Library.Keyset
import Tamanor.Library.OrderedSet

/-! The deadlines of cyberbullying cases (`cyberbullying-sla.ts` of the db package), and whom a
notification reaches (`cyberbullying-notifications.ts`): the overview and the view of one incident,
which read, and the evaluation, which notifies. -/

set_option autoImplicit false

namespace Tamanor.Db

open Tamanor.Core Library

/-- The call that has made the risk critical is known to the model only. -/
structure CaseProtectionPlan where
  riskLevel : Option CaseRiskLevel
  criticalRiskSetAt : Option Int
  riskSetBy : Option Nat
  protectionStatus : CaseProtectionStatus
  objective : Option String
  notes : Option String
  nextReviewAt : Option Int
  lastReviewAt : Option Int
  followUpNotes : Option String
  milestones : List (CaseMilestoneKey × Int)
deriving DecidableEq

structure CaseRow where
  tenantId : String
  cyberbullying : Bool
  status : IncidentLifecycleStatus
  createdAt : Int
  resolvedAt : Option Int
  assignedReviewerUserId : Option String
  plan : Option CaseProtectionPlan
deriving DecidableEq

/-- The tenant of a task is that of its incident, by its foreign key. -/
structure CaseTaskRow where
  incidentId : String
  title : String
  description : Option String
  status : CaseTaskStatus
  assigneeUserId : Option String
  dueDate : Option Int
  createdByUserId : String
  completedAt : Option Int

structure SlaScope where
  entityType : NotificationEntityType
  entityId : String
  state : SlaState
  dueEpoch : Int
deriving DecidableEq

/-- The call that has written an event and the transition that it records are known to the model
only. -/
structure CaseTimelineEvent where
  call : Nat
  incidentId : String
  eventType : IncidentTimelineEventType
  actorUserId : Option String
  reason : Option String
  createdAt : Int
  slaScope : Option SlaScope
deriving DecidableEq

structure CyberbullyingNotification where
  tenantId : String
  recipientUserId : String
  type : CyberbullyingNotificationType
  severity : CyberbullyingNotificationSeverity
  entityType : NotificationEntityType
  entityId : String
  incidentId : Option String
  deduplicationKey : String
  slaState : Option SlaState

inductive CaseAudit where
  | notificationCreated (tenantId : String) (actorUserId : Option String)
      (recipientUserId : String) (type : CyberbullyingNotificationType)
      (severity : CyberbullyingNotificationSeverity) (entityType : NotificationEntityType)
  | slaStateTransition (tenantId incidentId : String) (sla : SlaType) (newState : SlaState)
      (slaScope : SlaScope)

/-- The participants of incidents that are users, the members of tenants by tenant and user, and
the incidents and the statuses of escalations. -/
structure SlaDatabase where
  clock : Int
  incidents : Table String CaseRow
  tasks : Table String CaseTaskRow
  participants : List (String × String)
  memberships : Table (String × String) MembershipRole
  escalations : List (String × EscalationStatus)
  timeline : List CaseTimelineEvent
  notifications : List CyberbullyingNotification
  audits : List CaseAudit

inductive SlaError where
  | accessDenied

def activeStatuses : List IncidentLifecycleStatus :=
  [.opened, .underReview, .acknowledged, .confirmed, .actionRequired]

def openTaskStatuses : List CaseTaskStatus := [.todo, .inProgress]

def reviewEvents : List IncidentTimelineEventType := [.reviewStarted, .acknowledged]

structure SlaOverview where
  firstReviewOverdue : Nat
  firstReviewDueSoon : Nat
  criticalOverdue : Nat
  criticalDueSoon : Nat
  taskOverdue : Nat
  taskDueSoon : Nat
  followUpOverdue : Nat
  followUpDueSoon : Nat
  activeEscalations : Nat
  nextDeadline : Option Int
  oldestOverdue : Option Int

structure IncidentSlaView where
  firstReview : SlaState
  criticalRisk : SlaState
  taskOverdue : Nat
  taskDueSoon : Nat
  nearestTaskDue : Option Int
  followUp : SlaState
  nextReviewAt : Option Int
  hasActiveEscalation : Bool

def CaseTaskRow.isOpen (task : CaseTaskRow) : Bool := openTaskStatuses.contains task.status

def CaseRow.criticalSince (row : CaseRow) : Option Int :=
  row.plan.bind fun plan => if plan.riskLevel = some .critical then plan.criticalRiskSetAt else none

def CaseRow.nextReviewAt (row : CaseRow) : Option Int :=
  row.plan.bind CaseProtectionPlan.nextReviewAt

namespace SlaDatabase

variable (state : SlaDatabase) (actor : IncidentActorContext)

/-- `incidentScopeWhere`. -/
def incidentScopeWhere (incidentId : String) (row : CaseRow) : Bool :=
  row.tenantId == actor.tenantId && row.cyberbullying &&
    (actor.role == .owner || actor.role == .admin ||
      state.participants.contains (incidentId, actor.userId) ||
      row.assignedReviewerUserId == some actor.userId)

def scopeRows : List (String × CaseRow) :=
  state.incidents.rows.filter fun entry => state.incidentScopeWhere actor entry.1 entry.2

def eventsOf (incidentId : String) : List CaseTimelineEvent :=
  state.timeline.filter fun event => event.incidentId == incidentId

def openTasksOf (incidentId : String) : List (String × CaseTaskRow) :=
  state.tasks.rows.filter fun entry =>
    entry.2.incidentId == incidentId && entry.2.isOpen && entry.2.dueDate.isSome

def scopeTasks (test : Int → Bool) : List (String × CaseTaskRow) :=
  state.tasks.rows.filter fun entry =>
    (state.incidents.find? entry.2.incidentId).any
        (state.incidentScopeWhere actor entry.2.incidentId) &&
      entry.2.isOpen && entry.2.dueDate.any test

def noReview (incidentId : String) : Bool :=
  (state.eventsOf incidentId).all fun event => !reviewEvents.contains event.eventType

def latestEventAt (incidentId : String) : Option Int :=
  ((state.eventsOf incidentId).map CaseTimelineEvent.createdAt).max?

def firstReviewAt (incidentId : String) : Option Int :=
  (((state.eventsOf incidentId).filter fun event => reviewEvents.contains event.eventType).map
    CaseTimelineEvent.createdAt).min?

def respondedAt (incidentId : String) (since : Int) : Option Int :=
  (((state.eventsOf incidentId).filter fun event => since < event.createdAt).map
    CaseTimelineEvent.createdAt).min?

def overviewCriticalState (now : Int) (entry : String × CaseRow) : SlaState :=
  criticalRiskSlaState entry.2.criticalSince (state.latestEventAt entry.1) now

/-- The critical risks that the overview reads: two hundred at most, in no order. -/
def criticalRows : List (String × CaseRow) :=
  ((state.scopeRows actor).filter fun entry => entry.2.criticalSince.isSome).take 200

def slaOverview (now : Int) : SlaOverview :=
  let frOverdue := now - SlaPolicy.firstReviewOverdueHours * slaHour
  let frDueSoon := now - SlaPolicy.firstReviewDueSoonHours * slaHour
  let taskSoon := now + SlaPolicy.taskDueSoonHours * slaHour
  let fuSoon := now + SlaPolicy.followUpDueSoonHours * slaHour
  let rows := state.scopeRows actor
  let critical := (state.criticalRows actor).map (state.overviewCriticalState now)
  let dueDates (test : Int → Bool) : List Int :=
    (state.scopeTasks actor test).filterMap fun entry => entry.2.dueDate
  let nearestTask := (dueDates fun due => now < due).min?
  let nearestFollowUp := ((rows.filterMap fun entry => entry.2.nextReviewAt).filter
    fun due => now < due).min?
  { firstReviewOverdue := rows.countP fun entry =>
      activeStatuses.contains entry.2.status && entry.2.createdAt ≤ frOverdue &&
        state.noReview entry.1
    firstReviewDueSoon := rows.countP fun entry =>
      activeStatuses.contains entry.2.status && entry.2.createdAt ≤ frDueSoon &&
        frOverdue < entry.2.createdAt && state.noReview entry.1
    criticalOverdue := critical.count .overdue
    criticalDueSoon := critical.count .dueSoon
    taskOverdue := (state.scopeTasks actor fun due => due ≤ now).length
    taskDueSoon := (state.scopeTasks actor fun due => now < due && due ≤ taskSoon).length
    followUpOverdue := rows.countP fun entry => entry.2.nextReviewAt.any fun due => due ≤ now
    followUpDueSoon := rows.countP fun entry =>
      entry.2.nextReviewAt.any fun due => now < due && due ≤ fuSoon
    activeEscalations := state.escalations.countP fun escalation =>
      escalation.2 == .active && (state.incidents.find? escalation.1).any
        (state.incidentScopeWhere actor escalation.1)
    nextDeadline := ([nearestTask, nearestFollowUp].filterMap id).min?
    oldestOverdue := (dueDates fun due => due ≤ now).min? }

def getCyberbullyingSlaOverview (now : Int) : Except SlaError SlaOverview :=
  if canCyberbullying actor.role .review then .ok (state.slaOverview actor now)
  else .error .accessDenied

def viewCriticalRisk (incidentId : String) (row : CaseRow) (now : Int) : SlaState :=
  match row.criticalSince with
  | none => .notApplicable
  | some since => criticalRiskSlaState (some since) (state.respondedAt incidentId since) now

def incidentSlaView (incidentId : String) (row : CaseRow) (now : Int) : IncidentSlaView :=
  let tasks := state.openTasksOf incidentId
  let states := tasks.map fun entry => taskSlaState entry.2.dueDate false now
  { firstReview := firstReviewSlaState row.createdAt (state.firstReviewAt incidentId) now
    criticalRisk := state.viewCriticalRisk incidentId row now
    taskOverdue := states.count .overdue
    taskDueSoon := states.count .dueSoon
    nearestTaskDue := ((tasks.filterMap fun entry => entry.2.dueDate).filter
      fun due => now < due).min?
    followUp := followUpSlaState row.nextReviewAt now
    nextReviewAt := row.nextReviewAt
    hasActiveEscalation := state.escalations.any fun escalation =>
      escalation.1 == incidentId && escalation.2 == .active }

def getIncidentSlaView (incidentId : String) (now : Int) :
    Except SlaError (Option IncidentSlaView) :=
  if canCyberbullying actor.role .review then
    .ok (((state.incidents.find? incidentId).filter
      (state.incidentScopeWhere actor incidentId)).map fun row =>
        state.incidentSlaView incidentId row now)
  else .error .accessDenied

/-- `loadIncidentScope`. -/
def loadIncidentScope (tenantId incidentId : String) : Option IncidentScope :=
  ((state.incidents.find? incidentId).filter fun row =>
      row.tenantId == tenantId && row.cyberbullying).map fun row =>
    ⟨row.assignedReviewerUserId,
      ((state.participants.filter fun entry => entry.1 == incidentId).map Prod.snd).filter
        fun userId => userId ≠ ""⟩

def membersWith (tenantId : String) (test : MembershipRole → Bool) : List String :=
  ((state.memberships.rows.filter fun entry => entry.1.1 == tenantId && test entry.2).take 200).map
    fun entry => entry.1.2

def manageMembers (tenantId : String) : List String :=
  state.membersWith tenantId fun role => role == .owner || role == .admin

end SlaDatabase

structure RecipientSources where
  target : Bool
  assignee : Bool
  participants : Bool
  managers : Bool

def sourcesFor (purpose : RecipientPurpose) (isOverdue : Bool) : RecipientSources :=
  match purpose with
  | .assignment => ⟨true, false, false, false⟩
  | .taskAssignment => ⟨true, false, false, false⟩
  | .taskDueSoon => ⟨true, true, false, false⟩
  | .taskOverdue => ⟨true, true, false, true⟩
  | .followUp => ⟨false, true, true, isOverdue⟩
  | .criticalRisk => ⟨false, true, true, true⟩
  | .escalation => ⟨true, true, false, true⟩
  | .reopen => ⟨false, true, true, false⟩

structure RecipientOptions where
  targetUserId : Option String
  targetRole : Option MembershipRole
  isOverdue : Bool
  excludeUserId : Option String

namespace SlaDatabase

variable (state : SlaDatabase)

def candidates (tenantId : String) (scope : IncidentScope) (purpose : RecipientPurpose)
    (options : RecipientOptions) : List String :=
  let sources := sourcesFor purpose options.isOverdue
  let added := (OrderedSet.ofList
    ((if sources.assignee then (truthy scope.assignee).toList else []) ++
      (if sources.participants then scope.participants else []) ++
      (if sources.managers then state.manageMembers tenantId else []) ++
      (if sources.target then (truthy options.targetUserId).toList ++
          (options.targetRole.toList.flatMap fun role =>
            state.membersWith tenantId fun other => other == role)
        else []))).toList
  added.filter fun userId => userId ≠ "" ∧ truthy options.excludeUserId ≠ some userId

def validRecipient (tenantId : String) (scope : IncidentScope) (userId : String) : Bool :=
  (state.memberships.find? (tenantId, userId)).any fun role =>
    canCyberbullying role .review &&
      (role == .owner || role == .admin || scope.participants.contains userId ||
        truthy scope.assignee == some userId)

def resolveIncidentRecipientsTx (tenantId incidentId : String) (purpose : RecipientPurpose)
    (options : RecipientOptions) : List String :=
  match state.loadIncidentScope tenantId incidentId with
  | none => []
  | some scope =>
    ((state.candidates tenantId scope purpose options).filter
      (state.validRecipient tenantId scope)).take 200

end SlaDatabase

structure NotifySpec where
  type : CyberbullyingNotificationType
  entityType : NotificationEntityType
  entityId : String
  incidentId : Option String
  discriminator : String
  slaState : Option SlaState

def NotifySpec.dedupKey (spec : NotifySpec) : String :=
  notificationDedupKey spec.type spec.entityType spec.entityId spec.discriminator

namespace SlaDatabase

variable (state : SlaDatabase)

def notified (tenantId recipientUserId dedupKey : String) : Bool :=
  state.notifications.any fun row =>
    row.tenantId == tenantId && row.recipientUserId == recipientUserId &&
      row.deduplicationKey == dedupKey

def createNotificationTx (tenantId : String) (actorUserId : Option String)
    (recipientUserId : String) (spec : NotifySpec) : SlaDatabase × Bool :=
  if state.notified tenantId recipientUserId spec.dedupKey then (state, false)
  else
    let severity := notificationSeverity spec.type
    ({ state with
        notifications := state.notifications ++
          [⟨tenantId, recipientUserId, spec.type, severity, spec.entityType, spec.entityId,
            spec.incidentId, spec.dedupKey, spec.slaState⟩]
        audits := state.audits ++
          [.notificationCreated tenantId actorUserId recipientUserId spec.type severity
            spec.entityType] },
      true)

def createNotifications (tenantId : String) (actorUserId : Option String) (spec : NotifySpec)
    (recipients : List String) : SlaDatabase × Nat :=
  recipients.foldl (fun reached recipientUserId =>
    let after := reached.1.createNotificationTx tenantId actorUserId recipientUserId spec
    (after.1, reached.2 + if after.2 then 1 else 0)) (state, 0)

end SlaDatabase

structure SlaRaise where
  incidentId : String
  sla : SlaType
  scope : SlaScope
  purpose : RecipientPurpose
  targetUserId : Option String

namespace SlaRaise

def isOverdue (raise : SlaRaise) : Bool := raise.scope.state == .overdue

def discriminator (raise : SlaRaise) : String :=
  raise.scope.state.value ++ ":" ++ toString raise.scope.dueEpoch

def spec (raise : SlaRaise) (type : CyberbullyingNotificationType) : NotifySpec where
  type := type
  entityType := raise.scope.entityType
  entityId := raise.scope.entityId
  incidentId := some raise.incidentId
  discriminator := raise.discriminator
  slaState := some raise.scope.state

def options (raise : SlaRaise) : RecipientOptions :=
  ⟨raise.targetUserId, none, raise.isOverdue, none⟩

def notificationType (raise : SlaRaise) : Option CyberbullyingNotificationType :=
  notificationTypeForSlaTransition raise.sla raise.scope.state

end SlaRaise

structure SlaEvalResult where
  evaluated : Nat
  notified : Nat
  transitions : Nat
  nextCursor : Option String

namespace SlaDatabase

variable (state : SlaDatabase)

def recipientsOf (tenantId : String) (raise : SlaRaise) : List String :=
  state.resolveIncidentRecipientsTx tenantId raise.incidentId raise.purpose raise.options

def recordTransition (call : Nat) (tenantId : String) (raise : SlaRaise) : SlaDatabase :=
  { state with
    timeline := state.timeline ++
      [{ call := call
         incidentId := raise.incidentId
         eventType := if raise.isOverdue then .slaOverdueDetected else .slaDueSoonDetected
         actorUserId := none
         reason := some (raise.sla.value ++ ":" ++ raise.scope.entityId)
         createdAt := state.clock
         slaScope := some raise.scope }]
    audits := state.audits ++
      [.slaStateTransition tenantId raise.incidentId raise.sla raise.scope.state raise.scope] }

def raise (call : Nat) (tenantId : String) (raise : SlaRaise) : SlaDatabase × Nat × Nat :=
  match raise.notificationType with
  | none => (state, 0, 0)
  | some type =>
    let after := state.createNotifications tenantId none (raise.spec type)
      (state.recipientsOf tenantId raise)
    if after.2 = 0 then (after.1, 0, 0)
    else (after.1.recordTransition call tenantId raise, after.2, 1)

def taskRaise (now : Int) (incidentId taskId : String) (task : CaseTaskRow) (due : Int) :
    SlaRaise :=
  let state := taskSlaState (some due) false now
  { incidentId := incidentId
    sla := .taskDue
    scope := ⟨.caseTask, taskId, state, due⟩
    purpose := if state = .overdue then .taskOverdue else .taskDueSoon
    targetUserId := task.assigneeUserId }

def followUpRaise (now : Int) (incidentId : String) (due : Int) : SlaRaise where
  incidentId := incidentId
  sla := .followUpDue
  scope := ⟨.followUp, incidentId, followUpSlaState (some due) now, due⟩
  purpose := .followUp
  targetUserId := none

def raisesOf (now : Int) (entry : String × CaseRow) : List SlaRaise :=
  ((state.openTasksOf entry.1).filterMap fun task =>
      task.2.dueDate.map (taskRaise now entry.1 task.1 task.2)) ++
    (entry.2.nextReviewAt.map (followUpRaise now entry.1)).toList

def activeIncidents (ids : KeyOrder String) (tenantId : String) : List (String × CaseRow) :=
  Keyset.sorted ids Prod.fst (state.incidents.rows.filter fun entry =>
    entry.2.tenantId == tenantId && entry.2.cyberbullying &&
      activeStatuses.contains entry.2.status)

def evaluationLimit (limit : Option Int) : Nat := (min 500 (max 1 (limit.getD 100))).toNat

def evaluatedIncidents (ids : KeyOrder String) (tenantId : String) (limit : Option Int)
    (cursor : Option String) : List (String × CaseRow) :=
  ((state.activeIncidents ids tenantId).filter fun entry =>
    (truthy cursor).all fun last => ids.precedes last entry.1).take (evaluationLimit limit)

def evaluateCyberbullyingSla (ids : KeyOrder String) (call : Nat) (tenantId : String) (now : Int)
    (limit : Option Int) (cursor : Option String) : SlaDatabase × SlaEvalResult :=
  let incidents := state.evaluatedIncidents ids tenantId limit cursor
  let after := (incidents.flatMap (state.raisesOf now)).foldl (fun reached raise =>
    let next := reached.1.raise call tenantId raise
    (next.1, reached.2.1 + next.2.1, reached.2.2 + next.2.2)) (state, 0, 0)
  (after.1,
    { evaluated := incidents.length
      notified := after.2.1
      transitions := after.2.2
      nextCursor :=
        if incidents.length = evaluationLimit limit then incidents.getLast?.map Prod.fst
        else none })

end SlaDatabase

end Tamanor.Db
