import Mathlib.Data.List.Dedup

/-! Disclosure scopes, recipient authorization decisions and internal deliveries
(`child-safety-recipient-authorization.ts`, `child-safety-delivery.ts` of the core package). -/

set_option autoImplicit false

namespace Tamanor.Core

inductive SafetyDisclosureScope where
  | recommendedActionClass | riskCategory | severity | signalExistence | timingBucket
deriving DecidableEq

def allSafetyDisclosureScopes : List SafetyDisclosureScope :=
  [.recommendedActionClass, .riskCategory, .severity, .signalExistence, .timingBucket]

def serializeDisclosureScopes (scopes : List SafetyDisclosureScope) : List SafetyDisclosureScope :=
  allSafetyDisclosureScopes.filter fun scope => scopes.contains scope

def scopesWithin (requested allowed : List SafetyDisclosureScope) : Bool :=
  requested.all fun scope => allowed.contains scope

theorem mem_serializeDisclosureScopes {scopes : List SafetyDisclosureScope}
    {scope : SafetyDisclosureScope} : scope ∈ serializeDisclosureScopes scopes ↔ scope ∈ scopes := by
  have listed : scope ∈ allSafetyDisclosureScopes := by cases scope <;> decide
  simp [serializeDisclosureScopes, listed]

theorem scopesWithin_iff {requested allowed : List SafetyDisclosureScope} :
    scopesWithin requested allowed = true ↔ requested ⊆ allowed := by
  simp only [scopesWithin, List.all_eq_true, List.contains_iff_mem]
  exact Iff.rfl

inductive SafetySeverity where
  | low | medium | high | critical
deriving DecidableEq

/-- A signal's type, as far as the disclosure policy tells types apart. -/
inductive SafetySignalType where
  | identityManipulation
  | other (name : String)

def disclosurePolicyBySeverity : SafetySeverity → List SafetyDisclosureScope
  | .low => [.signalExistence, .riskCategory]
  | .medium => [.signalExistence, .riskCategory, .severity]
  | .high => [.signalExistence, .riskCategory, .severity, .timingBucket]
  | .critical =>
    [.signalExistence, .riskCategory, .severity, .timingBucket, .recommendedActionClass]

def maxDisclosureScopesForSignal (severity : SafetySeverity) (signalType : SafetySignalType) :
    List SafetyDisclosureScope :=
  let base := disclosurePolicyBySeverity severity
  serializeDisclosureScopes <|
    match signalType with
    | .identityManipulation => base.filter fun scope =>
      scope == .signalExistence || scope == .riskCategory
    | .other _ => base

inductive RecipientAuthorizationDecisionStatus where
  | pending | authorized | denied | revoked | expired | superseded
deriving DecidableEq

structure RecipientAuthorizationDecisionState where
  decisionStatus : RecipientAuthorizationDecisionStatus
  validUntil : Option Int
  revokedAt : Option Int
  supersededAt : Option Int
  archivedAt : Option Int

def isRecipientAuthorizationDecisionRowEffective (decision : RecipientAuthorizationDecisionState)
    (now : Int) : Bool :=
  decision.decisionStatus == .authorized &&
    decision.revokedAt.isNone && decision.supersededAt.isNone && decision.archivedAt.isNone &&
    decision.validUntil.all (now < ·)

inductive SafetyDeliveryReasonCode where
  | validEffectiveAuthorization | authorizationNotFound | authorizationNotEffective
  | authorizationRevoked | authorizationSuperseded | authorizationArchived | signalArchived
  | scopeNotAuthorized
deriving DecidableEq

inductive SafetyDeliveryStatus where
  | prepared | available | acknowledged | declined | failed | revoked | expired | superseded
  | archived
deriving DecidableEq

def safetyDeliveryTransitions : SafetyDeliveryStatus → List SafetyDeliveryStatus
  | .prepared => [.available, .failed, .revoked, .expired, .superseded, .archived]
  | .available => [.acknowledged, .declined, .revoked, .expired, .superseded, .archived]
  | .acknowledged => [.archived]
  | .declined => [.archived]
  | .failed => [.archived, .superseded]
  | .revoked => [.archived]
  | .expired => [.archived]
  | .superseded => [.archived]
  | .archived => []

def isValidSafetyDeliveryTransition (source target : SafetyDeliveryStatus) : Bool :=
  (safetyDeliveryTransitions source).contains target

structure SafetyDeliveryRowState where
  deliveryStatus : SafetyDeliveryStatus
  expiredAt : Option Int
  revokedAt : Option Int
  supersededAt : Option Int
  archivedAt : Option Int
  declinedAt : Option Int
  failedAt : Option Int

def isSafetyDeliveryRowEffective (delivery : SafetyDeliveryRowState) (now : Int) : Bool :=
  [.prepared, .available, .acknowledged].contains delivery.deliveryStatus &&
    delivery.revokedAt.isNone && delivery.supersededAt.isNone && delivery.archivedAt.isNone &&
    delivery.declinedAt.isNone && delivery.failedAt.isNone && delivery.expiredAt.all (now < ·)

end Tamanor.Core
