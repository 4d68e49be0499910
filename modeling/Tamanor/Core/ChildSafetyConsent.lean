import Tamanor.Core.FamilyAuthorization

/-! Guardian authority, consent and safe-recipient assessments, and the chain of facts that a
recipient of safety information needs (`child-safety-consent.ts` of the core package). -/

set_option autoImplicit false

namespace Tamanor.Core

inductive GuardianRelationshipStatus where
  | pending | verified | suspended | revoked
deriving DecidableEq

inductive GuardianAuthorityStatus where
  | pending | verified | suspended | revoked | expired | rejected
deriving DecidableEq

inductive GuardianAuthorityLevel where
  | full | limited | readOnly
deriving DecidableEq

inductive ConsentStatus where
  | notRequested | pending | active | withdrawn | expired | disputed | suspended
deriving DecidableEq

inductive ConsentType where
  | guardian | childAssent | platform | pilotParticipation | evidenceSharing | expertReview
deriving DecidableEq

inductive SafeRecipientAssessmentStatus where
  | notStarted | pending | approved | suspended | rejected | revoked | expired
deriving DecidableEq

inductive SafetyRecipientEligibility where
  | eligible | requiresExpertReview | suppressed | notVerified | conflicted
deriving DecidableEq

inductive AssessmentPurpose where
  | safetyInformation | safetySignal | incidentSummary | emergencyContact
deriving DecidableEq

structure AuthorityRecordState where
  authorityStatus : GuardianAuthorityStatus
  validFrom : Option Int
  validUntil : Option Int
  revokedAt : Option Int
  archivedAt : Option Int

def isGuardianAuthorityActive (authority : AuthorityRecordState) (now : Int) : Bool :=
  authority.authorityStatus == .verified &&
    authority.revokedAt.isNone && authority.archivedAt.isNone &&
    authority.validFrom.all (· ≤ now) && authority.validUntil.all (now < ·)

structure ConsentRecordState where
  consentStatus : ConsentStatus
  grantedAt : Option Int
  grantedByMembershipId : Option String
  validFrom : Option Int
  validUntil : Option Int
  revokedAt : Option Int
  archivedAt : Option Int

def isConsentEffective (consent : ConsentRecordState) (now : Int) : Bool :=
  consent.consentStatus == .active &&
    consent.grantedAt.isSome && consent.grantedByMembershipId.isSome &&
    consent.revokedAt.isNone && consent.archivedAt.isNone &&
    consent.validFrom.all (· ≤ now) && consent.validUntil.all (now < ·)

structure AssessmentRecordState where
  assessmentStatus : SafeRecipientAssessmentStatus
  eligibilityStatus : SafetyRecipientEligibility
  assessedAt : Option Int
  assessedByMembershipId : Option String
  validUntil : Option Int
  revokedAt : Option Int
  archivedAt : Option Int

def isSafeRecipientAssessmentApproved (assessment : AssessmentRecordState) (now : Int) : Bool :=
  assessment.assessmentStatus == .approved && assessment.eligibilityStatus == .eligible &&
    assessment.assessedAt.isSome && assessment.assessedByMembershipId.isSome &&
    assessment.revokedAt.isNone && assessment.archivedAt.isNone &&
    assessment.validUntil.all (now < ·)

def relationshipTypeRequiresAuthority (_relationshipType : String) : Bool := true

structure SafetyRecipientChain where
  workspaceKind : WorkspaceKind
  relationshipActive : Bool
  relationshipType : String
  membershipActiveSameTenant : Bool
  authorityActive : Bool
  consentEffective : Bool
  assessmentApproved : Bool

inductive SafetyRecipientDenyReason where
  | notFamilyWorkspace | relationshipInactive | membershipInvalid | authorityMissing
  | consentMissing | assessmentNotApproved

def evaluateCanReceiveSafetyInformation (chain : SafetyRecipientChain) :
    List SafetyRecipientDenyReason :=
  (if chain.workspaceKind ≠ .family then [.notFamilyWorkspace] else []) ++
  (if !chain.relationshipActive then [.relationshipInactive] else []) ++
  (if !chain.membershipActiveSameTenant then [.membershipInvalid] else []) ++
  (if relationshipTypeRequiresAuthority chain.relationshipType && !chain.authorityActive then
    [.authorityMissing] else []) ++
  (if !chain.consentEffective then [.consentMissing] else []) ++
  (if !chain.assessmentApproved then [.assessmentNotApproved] else [])

theorem evaluateCanReceiveSafetyInformation_eq_nil {chain : SafetyRecipientChain} :
    evaluateCanReceiveSafetyInformation chain = [] ↔
      chain.workspaceKind = .family ∧ chain.relationshipActive = true ∧
        chain.membershipActiveSameTenant = true ∧ chain.authorityActive = true ∧
        chain.consentEffective = true ∧ chain.assessmentApproved = true := by
  simp [evaluateCanReceiveSafetyInformation, relationshipTypeRequiresAuthority]

end Tamanor.Core
