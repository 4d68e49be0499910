/-! The outcomes of an accepted safety signal and the statuses of incidents
(`child-safety-orchestration.ts` of the core package). -/

set_option autoImplicit false

namespace Tamanor.Core

inductive ChildSafetyOutcome where
  | noAction | localSafetyGuidance | queueForReview | notifyAuthorizedGuardian
  | createOrUpdateIncident | urgentEscalation
deriving DecidableEq

inductive ChildSafetyIncidentStatus where
  | opened | underReview | actionRequired | monitoring | waiting | resolved | dismissed
  | reopened | closed
deriving DecidableEq

def isTerminalChildSafetyIncidentStatus (status : ChildSafetyIncidentStatus) : Bool :=
  [ChildSafetyIncidentStatus.resolved, .dismissed, .closed].contains status

end Tamanor.Core
