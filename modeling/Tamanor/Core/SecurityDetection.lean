import Mathlib.Data.List.Basic

/-! The life of a security detection (`security.ts` and `detection-engine.ts` of the core
package). -/

set_option autoImplicit false

namespace Tamanor.Core

inductive SecurityDetectionStatus where
  | opened | acknowledged | dismissed | confirmed | resolved
deriving DecidableEq

def terminalDetectionStatuses : List SecurityDetectionStatus := [.dismissed, .resolved]

def detectionStatusTransitions : SecurityDetectionStatus → List SecurityDetectionStatus
  | .opened => [.acknowledged, .confirmed, .dismissed, .resolved]
  | .acknowledged => [.confirmed, .dismissed, .resolved]
  | .confirmed => [.resolved, .dismissed]
  | .dismissed => []
  | .resolved => []

def canTransitionDetection (source target : SecurityDetectionStatus) : Bool :=
  (detectionStatusTransitions source).contains target

inductive DetectionTransitionError where
  | illegalTransition | terminal | noChange
deriving DecidableEq

def applyDetectionTransition (source target : SecurityDetectionStatus) :
    Except DetectionTransitionError Unit :=
  if source = target then .error .noChange
  else if canTransitionDetection source target then .ok ()
  else if terminalDetectionStatuses.contains source then .error .terminal
  else .error .illegalTransition

def detectionTransitionAuditEvent : SecurityDetectionStatus → String
  | .acknowledged => "security.detection.acknowledged"
  | .dismissed => "security.detection.dismissed"
  | .confirmed => "security.detection.confirmed"
  | .resolved => "security.detection.resolved"
  | .opened => "security.detection.opened"

def atoDetectionKinds : List String :=
  ["new_device", "session_anomaly", "password_changed", "privilege_escalation", "token_revoked",
    "token_expired", "multiple_failed_actions", "manual_flag"]

def isAtoDetectionKind (kind : String) : Bool := atoDetectionKinds.contains kind

end Tamanor.Core
