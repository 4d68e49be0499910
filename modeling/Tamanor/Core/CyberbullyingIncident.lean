import Tamanor.Core.FamilyAuthorization
import Tamanor.Library.Text

/-! Cyberbullying incidents (`security.ts`, `cyberbullying-incident.ts` and
`cyberbullying-notifications.ts` of the core package): the transitions of an incident and of an
escalation, and what a role may do about them. -/

set_option autoImplicit false

namespace Tamanor.Core

open Library

inductive CyberbullyingPermission where
  | viewOwn | report | review | manage | escalate | viewSensitiveEvidence | exportEvidence
  | manageRetention | manageGuardianAccess | audit | complianceRedact | complianceApprove
  | complianceExportAuthorize
deriving DecidableEq

def cyberbullyingPermissions : MembershipRole → List CyberbullyingPermission
  | .owner => [.viewOwn, .report, .review, .manage, .escalate, .viewSensitiveEvidence,
      .exportEvidence, .manageRetention, .manageGuardianAccess, .audit, .complianceRedact,
      .complianceApprove, .complianceExportAuthorize]
  | .admin => [.viewOwn, .report, .review, .manage, .escalate, .manageRetention,
      .manageGuardianAccess, .audit, .complianceRedact, .complianceApprove,
      .complianceExportAuthorize]
  | .reviewer => [.viewOwn, .report, .review, .complianceRedact]
  | .analyst => []
  | .viewer => []

def canCyberbullying (role : MembershipRole) (permission : CyberbullyingPermission) : Bool :=
  (cyberbullyingPermissions role).contains permission

structure IncidentActorContext where
  tenantId : String
  userId : String
  role : MembershipRole
deriving DecidableEq

inductive IncidentLifecycleStatus where
  | opened | underReview | acknowledged | confirmed | actionRequired | resolved | dismissed
  | archived
deriving DecidableEq

def terminalIncidentStatuses : List IncidentLifecycleStatus := [.dismissed, .archived]

def incidentStatusTransitions : IncidentLifecycleStatus → List IncidentLifecycleStatus
  | .opened => [.underReview, .dismissed]
  | .underReview => [.acknowledged, .confirmed, .dismissed]
  | .acknowledged => [.confirmed, .actionRequired, .resolved, .dismissed]
  | .confirmed => [.actionRequired, .resolved]
  | .actionRequired => [.resolved]
  | .resolved => [.archived]
  | .dismissed => []
  | .archived => []

def incidentReopenTransitions : IncidentLifecycleStatus → Option IncidentLifecycleStatus
  | .resolved => some .underReview
  | .dismissed => some .underReview
  | .archived => some .underReview
  | _ => none

def incidentTransitionRequiresReason (target : IncidentLifecycleStatus) : Bool :=
  [IncidentLifecycleStatus.confirmed, .actionRequired, .resolved, .dismissed,
    .archived].contains target

def canTransitionIncident (source target : IncidentLifecycleStatus) : Bool :=
  (incidentStatusTransitions source).contains target

inductive IncidentTransitionError where
  | noChange | terminal | illegalTransition | reasonRequired

structure IncidentTransitionResult where
  source : IncidentLifecycleStatus
  target : IncidentLifecycleStatus
  reopen : Bool
  error : Option IncidentTransitionError

def isBlank (text : Option String) : Bool :=
  text.all fun text => (Text.trim text.toList).isEmpty

def applyIncidentTransition (source target : IncidentLifecycleStatus) (reopen : Bool)
    (reason : Option String) : IncidentTransitionResult :=
  let result (error : Option IncidentTransitionError) : IncidentTransitionResult :=
    ⟨source, target, reopen, error⟩
  if source = target then result (some .noChange)
  else if reopen then
    if incidentReopenTransitions source ≠ some target then result (some .illegalTransition)
    else if isBlank reason then result (some .reasonRequired)
    else result none
  else if canTransitionIncident source target = false then
    result (some (if terminalIncidentStatuses.contains source then .terminal
      else .illegalTransition))
  else if incidentTransitionRequiresReason target && isBlank reason then
    result (some .reasonRequired)
  else result none

def permissionForIncidentTransition : IncidentLifecycleStatus → CyberbullyingPermission
  | .underReview => .review
  | .acknowledged => .review
  | .dismissed => .review
  | _ => .manage

inductive EscalationStatus where
  | active | resolved | cancelled
deriving DecidableEq

def isEscalationSeverity (severity : String) : Bool := ["attention", "urgent"].contains severity

def isEscalationReason (reason : String) : Bool :=
  ["sla_breach", "critical_risk", "no_reviewer_response", "repeated_incident", "safety_concern",
    "other"].contains reason

def escalationReasonRequiresNote (reason : String) : Bool := reason == "other"

def escalationNoteMax : Nat := 2000

def canEscalationTransition (source target : EscalationStatus) : Bool :=
  source == .active && (target == .resolved || target == .cancelled)

end Tamanor.Core
