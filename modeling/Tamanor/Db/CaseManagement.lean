import Tamanor.Db.CyberbullyingSla

/-! The operations on a case that write its timeline (`cyberbullying-case-management.ts`, and the
lifecycle of `cyberbullying-incident.ts`), beside the evaluation of its deadlines, as calls whose
statements interleave. The writes of a transaction stand in its last statement. -/

set_option autoImplicit false

namespace Tamanor.Db

open Tamanor.Core Library

/-! Requests. A field of a patch may be absent, null or a text. -/

structure ProtectionPlanPatch where
  riskLevel : Option (Option String)
  protectionStatus : Option String
  objective : Option (Option String)
  notes : Option (Option String)

structure FollowUpPatch where
  nextReviewAt : Option (Option String)
  lastReviewAt : Option (Option String)
  followUpNotes : Option (Option String)

structure CaseTaskInput where
  title : String
  description : Option String
  assigneeUserId : Option String
  dueDate : Option String

structure CaseTaskPatch where
  title : Option String
  description : Option (Option String)
  status : Option String
  assigneeUserId : Option (Option String)
  dueDate : Option (Option String)

inductive CaseOperation where
  | updateProtectionPlan (actor : IncidentActorContext) (incidentId : String)
      (patch : ProtectionPlanPatch)
  | updateFollowUp (actor : IncidentActorContext) (incidentId : String) (patch : FollowUpPatch)
  | setCaseMilestone (actor : IncidentActorContext) (incidentId key : String) (achieved : Bool)
  | createCaseTask (actor : IncidentActorContext) (incidentId : String) (input : CaseTaskInput)
  | updateCaseTask (actor : IncidentActorContext) (incidentId taskId : String)
      (patch : CaseTaskPatch)
  | transitionIncident (actor : IncidentActorContext) (incidentId : String)
      (target : IncidentLifecycleStatus) (reason : Option String)
  | reopenIncident (actor : IncidentActorContext) (incidentId reason : String)
  | evaluateCyberbullyingSla (tenantId : String) (now : Int) (limit : Option Int)
      (cursor : Option String)

inductive CaseTaskField where
  | title | description | status | dueDate

inductive CaseFieldErrorCode where
  | required | tooLong | invalid

inductive CaseOperationError where
  | forbidden
  | notFound
  | invalidTransition
  | validation (errors : List (CaseTaskField × CaseFieldErrorCode))
  | transitionRejected (result : IncidentTransitionResult)
  | database

inductive CaseOperationAnswer where
  | done
  | created (taskId : String)
  | transitioned (result : IncidentTransitionResult)
  | evaluated (result : SlaEvalResult)
  | threw (error : CaseOperationError)

inductive PlanWrite where
  | protection (riskLevel : Option (Option CaseRiskLevel))
      (protectionStatus : Option CaseProtectionStatus) (objective notes : Option (Option String))
  | followUp (nextReviewAt lastReviewAt : Option (Option Int))
      (followUpNotes : Option (Option String))
  | milestone (key : CaseMilestoneKey) (achieved : Bool)

structure TaskWrite where
  title : Option String
  description : Option (Option String)
  status : Option CaseTaskStatus
  assigneeUserId : Option (Option String)
  dueDate : Option (Option Int)

inductive CaseWrite where
  | plan (write : PlanWrite)
  | createTask (title : String) (description assigneeUserId : Option String)
      (dueDate : Option Int)
  | updateTask (taskId : String) (write : TaskWrite)

inductive CaseOperationStage where
  | authorizing (actor : IncidentActorContext) (incidentId : String) (write : CaseWrite)
  | readingPlan (actor : IncidentActorContext) (incidentId : String) (write : PlanWrite)
  | writingPlan (actor : IncidentActorContext) (incidentId : String)
      (found : Option (Option CaseRiskLevel)) (write : PlanWrite)
  | creatingTask (actor : IncidentActorContext) (incidentId : String) (task : CaseTaskRow)
  | readingTask (actor : IncidentActorContext) (incidentId taskId : String) (write : TaskWrite)
  | writingTask (actor : IncidentActorContext) (incidentId taskId : String) (write : TaskWrite)
  | readingStatus (actor : IncidentActorContext) (incidentId : String)
      (target : IncidentLifecycleStatus) (reopen : Bool) (reason : Option String)
  | writingStatus (actor : IncidentActorContext) (incidentId : String)
      (result : IncidentTransitionResult) (reason : Option String)
  | evaluating (tenantId : String) (now : Int) (limit : Option Int) (cursor : Option String)
  | ended (answer : CaseOperationAnswer)

/-- A statement runs, with the id that it may draw, and inserts its event some time after it has
read the clock; or the call ends without it. -/
inductive CaseOperationChoice where
  | runs (id : String) (delay : Nat)
  | throws

inductive CaseOperationEvent where
  | elapse (time : Nat)
  | participants (rows : List (String × String))
  | memberships (rows : Table (String × String) MembershipRole)

def CaseOperationStage.threw (error : CaseOperationError) : CaseOperationStage :=
  .ended (.threw error)

def CaseOperationStage.afterThrow : CaseOperationStage → CaseOperationStage
  | .ended answer => .ended answer
  | _ => .threw .database

namespace CaseLimits

def taskTitleMax : Nat := 200

def taskDescriptionMax : Nat := 4000

def objectiveMax : Nat := 500

def notesMax : Nat := 4000

def followUpNotesMax : Nat := 4000

end CaseLimits

def longerThan (limit : Nat) (text : Option String) : Bool :=
  text.any fun text => limit < (Text.codeUnits text.toList).length

section Program

variable (parseDate : String → Option Int) (ids : KeyOrder String)

def parseCaseDueDate (value : Option String) : Option (Option Int) :=
  if isBlank value then some none else (parseDate (value.getD "")).map some

def validateCaseTaskInput (title : Option String) (requireTitle : Bool)
    (description status dueDate : Option String) : List (CaseTaskField × CaseFieldErrorCode) :=
  (if requireTitle || title.isSome then
      if trimmed title = "" then [(.title, .required)]
      else if longerThan CaseLimits.taskTitleMax (some (trimmed title)) then [(.title, .tooLong)]
      else []
    else []) ++
  (if longerThan CaseLimits.taskDescriptionMax description then [(.description, .tooLong)]
    else []) ++
  (if status.all fun status => (readCaseTaskStatus status).isSome then []
    else [(.status, .invalid)]) ++
  (if (parseCaseDueDate parseDate dueDate).isSome then [] else [(.dueDate, .invalid)])

/-- The field of a patch that a null or an empty text clears. -/
def cleared (value : Option (Option String)) : Option (Option String) := value.map truthy

def readRiskPatch (value : Option (Option String)) : Option (Option (Option CaseRiskLevel)) :=
  match cleared value with
  | none => some none
  | some none => some (some none)
  | some (some text) => (readCaseRiskLevel text).map fun level => some (some level)

variable (actor : IncidentActorContext)

def enterProtectionPlan (incidentId : String) (patch : ProtectionPlanPatch) : CaseOperationStage :=
  match readRiskPatch patch.riskLevel with
  | none => .threw (.validation [])
  | some riskLevel =>
    if patch.protectionStatus.any fun status => (readCaseProtectionStatus status).isNone then
      .threw (.validation [])
    else if longerThan CaseLimits.objectiveMax patch.objective.join then
      .threw (.validation [])
    else if longerThan CaseLimits.notesMax patch.notes.join then .threw (.validation [])
    else
      .authorizing actor incidentId (.plan (.protection riskLevel
        (patch.protectionStatus.bind readCaseProtectionStatus) (cleared patch.objective)
        (cleared patch.notes)))

def enterFollowUp (incidentId : String) (patch : FollowUpPatch) : CaseOperationStage :=
  match parseCaseDueDate parseDate patch.nextReviewAt.join,
      parseCaseDueDate parseDate patch.lastReviewAt.join with
  | some next, some last =>
    if longerThan CaseLimits.followUpNotesMax patch.followUpNotes.join then
      .threw (.validation [])
    else
      .authorizing actor incidentId (.plan (.followUp (patch.nextReviewAt.map fun _ => next)
        (patch.lastReviewAt.map fun _ => last) (cleared patch.followUpNotes)))
  | _, _ => .threw (.validation [])

def enterTask (incidentId : String) (input : CaseTaskInput) : CaseOperationStage :=
  match validateCaseTaskInput parseDate (some input.title) true input.description none
      input.dueDate with
  | [] =>
    .authorizing actor incidentId (.createTask (trimmed (some input.title))
      (truthy (input.description.map fun text => trimmed (some text)))
      (truthy input.assigneeUserId) (parseCaseDueDate parseDate input.dueDate).join)
  | errors => .threw (.validation errors)

def enterTaskPatch (incidentId taskId : String) (patch : CaseTaskPatch) : CaseOperationStage :=
  match validateCaseTaskInput parseDate patch.title false patch.description.join patch.status
      patch.dueDate.join with
  | [] =>
    .authorizing actor incidentId (.updateTask taskId
      { title := patch.title.map fun text => trimmed (some text)
        description := patch.description.map fun text =>
          truthy (text.map fun text => trimmed (some text))
        status := patch.status.bind readCaseTaskStatus
        assigneeUserId := cleared patch.assigneeUserId
        dueDate := patch.dueDate.map fun text => (parseCaseDueDate parseDate text).join })
  | errors => .threw (.validation errors)

def enterCaseOperation (_ : SlaDatabase) : CaseOperation → CaseOperationStage
  | .updateProtectionPlan actor incidentId patch =>
    if canCyberbullying actor.role .review then enterProtectionPlan actor incidentId patch
    else .threw .forbidden
  | .updateFollowUp actor incidentId patch =>
    if canCyberbullying actor.role .review then enterFollowUp parseDate actor incidentId patch
    else .threw .forbidden
  | .setCaseMilestone actor incidentId key achieved =>
    if canCyberbullying actor.role .review then
      match readCaseMilestoneKey key with
      | none => .threw (.validation [])
      | some key => .authorizing actor incidentId (.plan (.milestone key achieved))
    else .threw .forbidden
  | .createCaseTask actor incidentId input =>
    if canCyberbullying actor.role .review then enterTask parseDate actor incidentId input
    else .threw .forbidden
  | .updateCaseTask actor incidentId taskId patch =>
    if canCyberbullying actor.role .review then
      enterTaskPatch parseDate actor incidentId taskId patch
    else .threw .forbidden
  | .transitionIncident actor incidentId target reason =>
    if canCyberbullying actor.role (permissionForIncidentTransition target) then
      .readingStatus actor incidentId target false reason
    else .threw .forbidden
  | .reopenIncident actor incidentId reason =>
    if canCyberbullying actor.role .manage then
      .readingStatus actor incidentId .underReview true (some reason)
    else .threw .forbidden
  | .evaluateCyberbullyingSla tenantId now limit cursor =>
    .evaluating tenantId now limit cursor

def emptyPlan : CaseProtectionPlan where
  riskLevel := none
  criticalRiskSetAt := none
  riskSetBy := none
  protectionStatus := .notStarted
  objective := none
  notes := none
  nextReviewAt := none
  lastReviewAt := none
  followUpNotes := none
  milestones := []

/-- The start of a critical risk is set when the risk becomes critical, by the risk that has been
read, and cleared when it leaves it. -/
def writeProtection (call : Nat) (now : Int) (readRisk : Option CaseRiskLevel)
    (riskLevel : Option (Option CaseRiskLevel)) (plan : CaseProtectionPlan) :
    CaseProtectionPlan :=
  let newRisk := riskLevel.getD readRisk
  let plan := { plan with riskLevel := riskLevel.getD plan.riskLevel }
  if readRisk ≠ some .critical ∧ newRisk = some .critical then
    { plan with criticalRiskSetAt := some now, riskSetBy := some call }
  else if readRisk = some .critical ∧ newRisk ≠ some .critical then
    { plan with criticalRiskSetAt := none, riskSetBy := none }
  else plan

def PlanWrite.apply (call : Nat) (now : Int) (readRisk : Option CaseRiskLevel) :
    PlanWrite → CaseProtectionPlan → CaseProtectionPlan
  | .protection riskLevel protectionStatus objective notes, plan =>
    { writeProtection call now readRisk riskLevel plan with
      protectionStatus := protectionStatus.getD plan.protectionStatus
      objective := objective.getD plan.objective
      notes := notes.getD plan.notes }
  | .followUp nextReviewAt lastReviewAt followUpNotes, plan =>
    { plan with
      nextReviewAt := nextReviewAt.getD plan.nextReviewAt
      lastReviewAt := lastReviewAt.getD plan.lastReviewAt
      followUpNotes := followUpNotes.getD plan.followUpNotes }
  | .milestone key achieved, plan =>
    let others := plan.milestones.filter fun milestone => milestone.1 ≠ key
    { plan with milestones := if achieved then others ++ [(key, now)] else others }

def CaseRow.writePlan (call : Nat) (now : Int) (readRisk : Option CaseRiskLevel)
    (write : PlanWrite) (row : CaseRow) : CaseRow :=
  { row with plan := some (write.apply call now readRisk (row.plan.getD emptyPlan)) }

def PlanWrite.event : PlanWrite → IncidentTimelineEventType × Option String
  | .protection _ _ _ _ => (.protectionPlanUpdated, none)
  | .followUp _ _ _ => (.followUpUpdated, none)
  | .milestone key achieved =>
    (.milestoneChanged, some (key.value ++ ":" ++ if achieved then "achieved" else "cleared"))

def TaskWrite.apply (now : Int) (write : TaskWrite) (task : CaseTaskRow) : CaseTaskRow :=
  { task with
    title := write.title.getD task.title
    description := write.description.getD task.description
    status := write.status.getD task.status
    assigneeUserId := write.assigneeUserId.getD task.assigneeUserId
    dueDate := write.dueDate.getD task.dueDate
    completedAt := match write.status with
      | none => task.completedAt
      | some status => if status = .done then some now else none }

def TaskWrite.since (write : TaskWrite) (status : CaseTaskStatus) : TaskWrite :=
  { write with status := write.status.filter fun target => target ≠ status }

def TaskWrite.eventType (write : TaskWrite) : IncidentTimelineEventType :=
  if write.status = some .done then .taskCompleted else .taskUpdated

def timelineForStatus : IncidentLifecycleStatus → Option IncidentTimelineEventType
  | .opened => none
  | .underReview => some .reviewStarted
  | .acknowledged => some .acknowledged
  | .confirmed => some .confirmed
  | .actionRequired => some .actionRequired
  | .resolved => some .resolved
  | .dismissed => some .dismissed
  | .archived => some .archived

def IncidentTransitionResult.eventType (result : IncidentTransitionResult) :
    Option IncidentTimelineEventType :=
  if result.reopen then some .reopened else timelineForStatus result.target

def CaseRow.transition (now : Int) (result : IncidentTransitionResult) (row : CaseRow) : CaseRow :=
  { row with
    status := result.target
    resolvedAt :=
      if result.reopen then none
      else if result.target = .resolved then some now
      else row.resolvedAt }

namespace SlaDatabase

variable (state : SlaDatabase)

def appendEvent (call : Nat) (actor : IncidentActorContext) (incidentId : String)
    (eventType : IncidentTimelineEventType) (reason : Option String) (delay : Nat) :
    SlaDatabase :=
  { state with
    clock := state.clock + delay
    timeline := state.timeline ++
      [⟨call, incidentId, eventType, some actor.userId, reason, state.clock + delay, none⟩] }

def modifyIncident (incidentId : String) (change : CaseRow → CaseRow) : SlaDatabase :=
  { state with incidents := state.incidents.modify incidentId change }

/-- `authorizeIncident`. -/
def authorize (actor : IncidentActorContext) (incidentId : String) (next : CaseOperationStage) :
    CaseOperationStage :=
  match (state.incidents.find? incidentId).filter fun row =>
      row.tenantId == actor.tenantId && row.cyberbullying with
  | none => .threw .notFound
  | some row =>
    if state.incidentScopeWhere actor incidentId row then next else .threw .forbidden

def planOf (actor : IncidentActorContext) (incidentId : String) : Option CaseProtectionPlan :=
  ((state.incidents.find? incidentId).filter fun row => row.tenantId == actor.tenantId).bind
    CaseRow.plan

def writePlan (call : Nat) (delay : Nat) (actor : IncidentActorContext) (incidentId : String)
    (found : Option (Option CaseRiskLevel)) (write : PlanWrite) :
    SlaDatabase × CaseOperationStage :=
  if found.isNone ∧ (state.planOf actor incidentId).isSome then (state, .threw .database)
  else
    ((state.modifyIncident incidentId
        (CaseRow.writePlan call state.clock found.join write)).appendEvent call actor incidentId
        write.event.1 write.event.2 delay,
      .ended .done)

def createTask (call : Nat) (id : String) (delay : Nat) (actor : IncidentActorContext)
    (incidentId : String) (task : CaseTaskRow) : SlaDatabase × CaseOperationStage :=
  if (state.tasks.find? id).isSome then (state, .threw .database)
  else
    (({ state with tasks := state.tasks.insert id task } : SlaDatabase).appendEvent call actor
        incidentId .taskCreated (some ("task:" ++ id)) delay,
      .ended (.created id))

def readTask (actor : IncidentActorContext) (incidentId taskId : String) (write : TaskWrite) :
    CaseOperationStage :=
  match (state.tasks.find? taskId).filter fun task => task.incidentId == incidentId with
  | none => .threw .notFound
  | some task =>
    let write := write.since task.status
    if write.status.all fun target => canTaskTransition task.status target then
      .writingTask actor incidentId taskId write
    else .threw .invalidTransition

def writeTask (call : Nat) (delay : Nat) (actor : IncidentActorContext)
    (incidentId taskId : String) (write : TaskWrite) : SlaDatabase × CaseOperationStage :=
  (({ state with tasks := state.tasks.modify taskId (write.apply state.clock) } :
      SlaDatabase).appendEvent call actor incidentId write.eventType
        (some ("task:" ++ taskId)) delay,
    .ended .done)

def readStatus (actor : IncidentActorContext) (incidentId : String)
    (target : IncidentLifecycleStatus) (reopen : Bool) (reason : Option String) :
    CaseOperationStage :=
  match (state.incidents.find? incidentId).filter fun row => row.tenantId == actor.tenantId with
  | none => .threw .notFound
  | some row =>
    let result := applyIncidentTransition row.status target reopen reason
    if result.error.isSome then .threw (.transitionRejected result)
    else .writingStatus actor incidentId result reason

def writeStatus (call : Nat) (delay : Nat) (actor : IncidentActorContext) (incidentId : String)
    (result : IncidentTransitionResult) (reason : Option String) :
    SlaDatabase × CaseOperationStage :=
  match IncidentTransitionResult.eventType result with
  | none => (state, .threw .database)
  | some eventType =>
    ((state.modifyIncident incidentId (CaseRow.transition state.clock result)).appendEvent call
        actor incidentId eventType reason delay,
      .ended (.transitioned result))

def runCaseStatement (call : Nat) (id : String) (delay : Nat) :
    CaseOperationStage → SlaDatabase × CaseOperationStage
  | .authorizing actor incidentId (.plan write) =>
    (state, state.authorize actor incidentId (.readingPlan actor incidentId write))
  | .authorizing actor incidentId (.createTask title description assigneeUserId dueDate) =>
    (state, state.authorize actor incidentId (.creatingTask actor incidentId
      ⟨incidentId, title, description, .todo, assigneeUserId, dueDate, actor.userId, none⟩))
  | .authorizing actor incidentId (.updateTask taskId write) =>
    (state, state.authorize actor incidentId (.readingTask actor incidentId taskId write))
  | .readingPlan actor incidentId write =>
    (state, .writingPlan actor incidentId
      ((state.planOf actor incidentId).map CaseProtectionPlan.riskLevel) write)
  | .writingPlan actor incidentId found write =>
    state.writePlan call delay actor incidentId found write
  | .creatingTask actor incidentId task => state.createTask call id delay actor incidentId task
  | .readingTask actor incidentId taskId write =>
    (state, state.readTask actor incidentId taskId write)
  | .writingTask actor incidentId taskId write =>
    state.writeTask call delay actor incidentId taskId write
  | .readingStatus actor incidentId target reopen reason =>
    (state, state.readStatus actor incidentId target reopen reason)
  | .writingStatus actor incidentId result reason =>
    state.writeStatus call delay actor incidentId result reason
  | .evaluating tenantId now limit cursor =>
    let after := state.evaluateCyberbullyingSla ids call tenantId now limit cursor
    ({ after.1 with clock := after.1.clock + delay }, .ended (.evaluated after.2))
  | .ended answer => (state, .ended answer)

def occurCase : CaseOperationEvent → SlaDatabase
  | .elapse time => { state with clock := state.clock + time }
  | .participants rows => { state with participants := rows }
  | .memberships rows => { state with memberships := rows }

end SlaDatabase

/-- The number of a call is not zero, which stands for what has been written before. -/
def caseOperationProgram : Interleaving.Program SlaDatabase CaseOperation CaseOperationStage
    CaseOperationChoice CaseOperationEvent where
  enter := enterCaseOperation parseDate
  statement := fun state call stage choice =>
    match choice with
    | .runs id delay => state.runCaseStatement ids (call + 1) id delay stage
    | .throws => (state, stage.afterThrow)
  occur := SlaDatabase.occurCase

end Program

end Tamanor.Db
