import Tamanor.Core.CyberbullyingIncident

/-! Notifications and deadlines of a cyberbullying case (`cyberbullying-notifications.ts` of the
core package), and what a case keeps of its risk, its protection and its tasks (the case
management of `cyberbullying-incident.ts`). Times are milliseconds. -/

set_option autoImplicit false

namespace Tamanor.Core

open Library

inductive CaseRiskLevel where
  | low | medium | high | critical
deriving DecidableEq

def CaseRiskLevel.value : CaseRiskLevel → String
  | .low => "low"
  | .medium => "medium"
  | .high => "high"
  | .critical => "critical"

def caseRiskLevels : List CaseRiskLevel := [.low, .medium, .high, .critical]

def readCaseRiskLevel (value : String) : Option CaseRiskLevel :=
  caseRiskLevels.find? fun level => level.value = value

inductive CaseProtectionStatus where
  | notStarted | monitoring | active | resolved
deriving DecidableEq

def CaseProtectionStatus.value : CaseProtectionStatus → String
  | .notStarted => "not_started"
  | .monitoring => "monitoring"
  | .active => "active"
  | .resolved => "resolved"

def caseProtectionStatuses : List CaseProtectionStatus :=
  [.notStarted, .monitoring, .active, .resolved]

def readCaseProtectionStatus (value : String) : Option CaseProtectionStatus :=
  caseProtectionStatuses.find? fun status => status.value = value

inductive CaseTaskStatus where
  | todo | inProgress | done | cancelled
deriving DecidableEq

def CaseTaskStatus.value : CaseTaskStatus → String
  | .todo => "todo"
  | .inProgress => "in_progress"
  | .done => "done"
  | .cancelled => "cancelled"

def caseTaskStatuses : List CaseTaskStatus := [.todo, .inProgress, .done, .cancelled]

def readCaseTaskStatus (value : String) : Option CaseTaskStatus :=
  caseTaskStatuses.find? fun status => status.value = value

def caseTaskTransitions : CaseTaskStatus → List CaseTaskStatus
  | .todo => [.inProgress, .done, .cancelled]
  | .inProgress => [.todo, .done, .cancelled]
  | .done => [.inProgress, .cancelled]
  | .cancelled => [.todo]

def canTaskTransition (source target : CaseTaskStatus) : Bool :=
  source != target && (caseTaskTransitions source).contains target

inductive CaseMilestoneKey where
  | initialReview | evidenceCollected | victimContacted | protectionActive | resolved
deriving DecidableEq

def CaseMilestoneKey.value : CaseMilestoneKey → String
  | .initialReview => "initial_review"
  | .evidenceCollected => "evidence_collected"
  | .victimContacted => "victim_contacted"
  | .protectionActive => "protection_active"
  | .resolved => "resolved"

def caseMilestoneKeys : List CaseMilestoneKey :=
  [.initialReview, .evidenceCollected, .victimContacted, .protectionActive, .resolved]

def readCaseMilestoneKey (value : String) : Option CaseMilestoneKey :=
  caseMilestoneKeys.find? fun key => key.value = value

inductive IncidentTimelineEventType where
  | created | reviewStarted | acknowledged | confirmed | dismissed | actionRequired | resolved
  | archived | reopened | detectionLinked | evidenceLinked | participantAdded
  | participantRemoved | reviewerAssigned | reviewerReassigned | reviewerUnassigned | noteAdded
  | protectionPlanUpdated | taskCreated | taskUpdated | taskCompleted | followUpUpdated
  | milestoneChanged | slaDueSoonDetected | slaOverdueDetected | escalationCreated
  | escalationResolved | escalationCancelled | escalationTargetChanged
  | complianceReportCreated | complianceRedaction | complianceExport
deriving DecidableEq

inductive CyberbullyingNotificationType where
  | incidentAssigned | incidentReassigned | incidentUnassigned | caseTaskAssigned | taskDueSoon
  | taskOverdue | followUpDueSoon | followUpOverdue | criticalRiskSet | incidentEscalated
  | escalationResolved | incidentReopened | evidenceScanPendingLong

def CyberbullyingNotificationType.value : CyberbullyingNotificationType → String
  | .incidentAssigned => "incident_assigned"
  | .incidentReassigned => "incident_reassigned"
  | .incidentUnassigned => "incident_unassigned"
  | .caseTaskAssigned => "case_task_assigned"
  | .taskDueSoon => "task_due_soon"
  | .taskOverdue => "task_overdue"
  | .followUpDueSoon => "follow_up_due_soon"
  | .followUpOverdue => "follow_up_overdue"
  | .criticalRiskSet => "critical_risk_set"
  | .incidentEscalated => "incident_escalated"
  | .escalationResolved => "escalation_resolved"
  | .incidentReopened => "incident_reopened"
  | .evidenceScanPendingLong => "evidence_scan_pending_long"

inductive CyberbullyingNotificationSeverity where
  | info | attention | urgent

def notificationSeverity : CyberbullyingNotificationType → CyberbullyingNotificationSeverity
  | .incidentAssigned => .attention
  | .incidentReassigned => .attention
  | .incidentUnassigned => .info
  | .caseTaskAssigned => .attention
  | .taskDueSoon => .attention
  | .taskOverdue => .urgent
  | .followUpDueSoon => .attention
  | .followUpOverdue => .urgent
  | .criticalRiskSet => .urgent
  | .incidentEscalated => .urgent
  | .escalationResolved => .info
  | .incidentReopened => .attention
  | .evidenceScanPendingLong => .attention

inductive NotificationEntityType where
  | incident | caseTask | followUp | escalation | evidence
deriving DecidableEq

def NotificationEntityType.value : NotificationEntityType → String
  | .incident => "incident"
  | .caseTask => "case_task"
  | .followUp => "follow_up"
  | .escalation => "escalation"
  | .evidence => "evidence"

def notificationDedupKey (type : CyberbullyingNotificationType)
    (entityType : NotificationEntityType) (entityId discriminator : String) : String :=
  type.value ++ ":" ++ entityType.value ++ ":" ++ entityId ++ ":" ++ discriminator

inductive RecipientPurpose where
  | assignment | taskAssignment | taskOverdue | taskDueSoon | followUp | criticalRisk | escalation
  | reopen

def slaHour : Int := 3600000

namespace SlaPolicy

def firstReviewDueSoonHours : Int := 12

def firstReviewOverdueHours : Int := 24

def criticalRiskDueSoonHours : Int := 1

def criticalRiskOverdueHours : Int := 2

def taskDueSoonHours : Int := 24

def followUpDueSoonHours : Int := 24

end SlaPolicy

inductive SlaType where
  | incidentFirstReview | criticalRiskResponse | taskDue | followUpDue

def SlaType.value : SlaType → String
  | .incidentFirstReview => "incident_first_review"
  | .criticalRiskResponse => "critical_risk_response"
  | .taskDue => "task_due"
  | .followUpDue => "follow_up_due"

inductive SlaState where
  | notApplicable | onTrack | dueSoon | overdue | satisfied
deriving DecidableEq

def SlaState.value : SlaState → String
  | .notApplicable => "not_applicable"
  | .onTrack => "on_track"
  | .dueSoon => "due_soon"
  | .overdue => "overdue"
  | .satisfied => "satisfied"

def elapsedSla (startAt satisfiedAt : Option Int) (now dueSoonHours overdueHours : Int) :
    SlaState :=
  match startAt with
  | none => .notApplicable
  | some startAt =>
    if satisfiedAt.any fun time => startAt ≤ time then .satisfied
    else if overdueHours * slaHour ≤ now - startAt then .overdue
    else if dueSoonHours * slaHour ≤ now - startAt then .dueSoon
    else .onTrack

def firstReviewSlaState (createdAt : Int) (firstReviewAt : Option Int) (now : Int) : SlaState :=
  elapsedSla (some createdAt) firstReviewAt now SlaPolicy.firstReviewDueSoonHours
    SlaPolicy.firstReviewOverdueHours

def criticalRiskSlaState (criticalSetAt respondedAt : Option Int) (now : Int) : SlaState :=
  elapsedSla criticalSetAt respondedAt now SlaPolicy.criticalRiskDueSoonHours
    SlaPolicy.criticalRiskOverdueHours

def deadlineSlaState (dueAt : Option Int) (closed : Bool) (now dueSoonHours : Int) : SlaState :=
  if closed then .satisfied
  else
    match dueAt with
    | none => .notApplicable
    | some dueAt =>
      if dueAt - now ≤ 0 then .overdue
      else if dueAt - now ≤ dueSoonHours * slaHour then .dueSoon
      else .onTrack

def taskSlaState (dueAt : Option Int) (closed : Bool) (now : Int) : SlaState :=
  deadlineSlaState dueAt closed now SlaPolicy.taskDueSoonHours

def followUpSlaState (nextReviewAt : Option Int) (now : Int) : SlaState :=
  deadlineSlaState nextReviewAt false now SlaPolicy.followUpDueSoonHours

def notificationTypeForSlaTransition (sla : SlaType) (state : SlaState) :
    Option CyberbullyingNotificationType :=
  match state, sla with
  | .dueSoon, .taskDue => some .taskDueSoon
  | .dueSoon, .followUpDue => some .followUpDueSoon
  | .overdue, .taskDue => some .taskOverdue
  | .overdue, .followUpDue => some .followUpOverdue
  | _, _ => none

section States

variable {startAt now dueSoonHours overdueHours dueAt : Int} {satisfiedAt : Option Int}

theorem elapsedSla_eq_satisfied (startAt : Int) (satisfiedAt : Option Int)
    (now dueSoonHours overdueHours : Int) :
    elapsedSla (some startAt) satisfiedAt now dueSoonHours overdueHours = .satisfied ↔
      ∃ time, satisfiedAt = some time ∧ startAt ≤ time := by
  unfold elapsedSla
  dsimp only
  split
  next acted =>
    obtain ⟨time, here, later⟩ := Option.any_eq_true .. |>.mp acted
    exact iff_of_true rfl ⟨time, here, of_decide_eq_true later⟩
  next notActed =>
    have none : ¬ ∃ time, satisfiedAt = some time ∧ startAt ≤ time := by
      rintro ⟨time, rfl, later⟩
      exact notActed (decide_eq_true later)
    refine iff_of_false ?_ none
    split
    · exact nofun
    · split <;> exact nofun

theorem elapsedSla_eq_overdue :
    elapsedSla (some startAt) satisfiedAt now dueSoonHours overdueHours = .overdue ↔
      (¬ ∃ time, satisfiedAt = some time ∧ startAt ≤ time) ∧
        overdueHours * slaHour ≤ now - startAt := by
  rw [← elapsedSla_eq_satisfied startAt satisfiedAt now dueSoonHours overdueHours]
  unfold elapsedSla
  dsimp only
  split
  · exact iff_of_false nofun fun both => both.1 rfl
  · split
    next late => exact iff_of_true rfl ⟨nofun, late⟩
    next early =>
      refine iff_of_false ?_ fun both => early both.2
      split <;> exact nofun

theorem elapsedSla_eq_dueSoon :
    elapsedSla (some startAt) satisfiedAt now dueSoonHours overdueHours = .dueSoon ↔
      (¬ ∃ time, satisfiedAt = some time ∧ startAt ≤ time) ∧
        dueSoonHours * slaHour ≤ now - startAt ∧ now - startAt < overdueHours * slaHour := by
  rw [← elapsedSla_eq_satisfied startAt satisfiedAt now dueSoonHours overdueHours]
  unfold elapsedSla
  dsimp only
  split
  · exact iff_of_false nofun fun both => both.1 rfl
  · split
    next late => exact iff_of_false nofun fun both => absurd both.2.2 (Int.not_lt.mpr late)
    next early =>
      split
      next soon => exact iff_of_true rfl ⟨nofun, soon, Int.not_le.mp early⟩
      next notSoon => exact iff_of_false nofun fun both => notSoon both.2.1

theorem deadlineSlaState_eq_overdue :
    deadlineSlaState (some dueAt) false now dueSoonHours = .overdue ↔ dueAt ≤ now := by
  unfold deadlineSlaState
  dsimp only
  rw [if_neg Bool.false_ne_true]
  split
  next late => exact iff_of_true rfl (by omega)
  next early =>
    refine iff_of_false ?_ (by omega)
    split <;> exact nofun

theorem deadlineSlaState_eq_dueSoon :
    deadlineSlaState (some dueAt) false now dueSoonHours = .dueSoon ↔
      now < dueAt ∧ dueAt ≤ now + dueSoonHours * slaHour := by
  unfold deadlineSlaState
  dsimp only
  rw [if_neg Bool.false_ne_true]
  split
  next late => exact iff_of_false nofun (by omega)
  next early =>
    split
    next soon => exact iff_of_true rfl (by omega)
    next notSoon => exact iff_of_false nofun (by omega)

end States

end Tamanor.Core
