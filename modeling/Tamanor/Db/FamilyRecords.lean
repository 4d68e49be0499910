import Mathlib.Data.List.Sort
import Tamanor.Core.ChildSafetyConsent
import Tamanor.Core.RecipientAuthorization

/-! The family records of the database and their effective-state queries
(`child-safety-consent.ts` of the db package). Rows of one creation time keep the order in which
the table has them. -/

set_option autoImplicit false

namespace Tamanor.Db

open Tamanor.Core

structure GuardianRelationship where
  id : String
  tenantId : String
  protectedProfileId : String
  guardianMembershipId : String
  relationshipType : String
  status : GuardianRelationshipStatus
  revokedAt : Option Int
  archivedAt : Option Int

structure ProtectedProfile where
  id : String
  tenantId : String
  archivedAt : Option Int

structure FamilyMembership where
  id : String
  tenantId : String
  userId : String
  role : MembershipRole
deriving DecidableEq

structure SafetySignal where
  id : String
  tenantId : String
  protectedProfileId : String
  severity : SafetySeverity
  signalType : SafetySignalType
  archivedAt : Option Int

structure GuardianAuthorityRecord where
  id : String
  tenantId : String
  guardianRelationshipId : String
  authorityLevel : GuardianAuthorityLevel
  authorityStatus : GuardianAuthorityStatus
  validFrom : Int
  validUntil : Option Int
  createdAt : Int
  revokedAt : Option Int
  archivedAt : Option Int
deriving DecidableEq

def GuardianAuthorityRecord.recordState (record : GuardianAuthorityRecord) :
    AuthorityRecordState where
  authorityStatus := record.authorityStatus
  validFrom := some record.validFrom
  validUntil := record.validUntil
  revokedAt := record.revokedAt
  archivedAt := record.archivedAt

structure ConsentRecord where
  id : String
  tenantId : String
  protectedProfileId : String
  guardianRelationshipId : Option String
  consentType : ConsentType
  consentStatus : ConsentStatus
  grantedByMembershipId : Option String
  grantedAt : Option Int
  validFrom : Option Int
  validUntil : Option Int
  createdAt : Int
  revokedAt : Option Int
  archivedAt : Option Int
deriving DecidableEq

def ConsentRecord.recordState (record : ConsentRecord) : ConsentRecordState where
  consentStatus := record.consentStatus
  grantedAt := record.grantedAt
  grantedByMembershipId := record.grantedByMembershipId
  validFrom := record.validFrom
  validUntil := record.validUntil
  revokedAt := record.revokedAt
  archivedAt := record.archivedAt

structure SafeRecipientAssessment where
  id : String
  tenantId : String
  guardianRelationshipId : String
  purpose : AssessmentPurpose
  eligibilityStatus : SafetyRecipientEligibility
  assessmentStatus : SafeRecipientAssessmentStatus
  assessedByMembershipId : Option String
  assessedAt : Option Int
  validUntil : Option Int
  createdAt : Int
  revokedAt : Option Int
  archivedAt : Option Int
deriving DecidableEq

def SafeRecipientAssessment.recordState (record : SafeRecipientAssessment) :
    AssessmentRecordState where
  assessmentStatus := record.assessmentStatus
  eligibilityStatus := record.eligibilityStatus
  assessedAt := record.assessedAt
  assessedByMembershipId := record.assessedByMembershipId
  validUntil := record.validUntil
  revokedAt := record.revokedAt
  archivedAt := record.archivedAt

structure FamilyDatabase where
  relationships : List GuardianRelationship
  profiles : List ProtectedProfile
  memberships : List FamilyMembership
  signals : List SafetySignal
  authorities : List GuardianAuthorityRecord
  consents : List ConsentRecord
  assessments : List SafeRecipientAssessment

inductive FamilyError where
  | forbidden (reason : FamilyAuthzDenial)
  | notFound (kind : String)
  | validation (field : String)
  | deliveryNotEligible (reasonCode : SafetyDeliveryReasonCode)
deriving DecidableEq

def assertFamily (actor : FamilyActorContext) (action : FamilyAction) : Except FamilyError Unit :=
  match authorizeFamilyAction actor action with
  | .ok () => .ok ()
  | .error reason => .error (.forbidden reason)

def isActiveGuardianRelationship (relationship : GuardianRelationship) : Bool :=
  relationship.status != .revoked && relationship.status != .suspended &&
    relationship.revokedAt.isNone && relationship.archivedAt.isNone

namespace FamilyDatabase

variable (db : FamilyDatabase) (tenantId : String)

def findRelationship (id : String) : Option GuardianRelationship :=
  db.relationships.find? fun row => row.id == id && row.tenantId == tenantId

def findProfile (id : String) : Option ProtectedProfile :=
  db.profiles.find? fun row => row.id == id && row.tenantId == tenantId

def findMembership (id : String) : Option FamilyMembership :=
  db.memberships.find? fun row => row.id == id && row.tenantId == tenantId

def findSignal (id : String) : Option SafetySignal :=
  db.signals.find? fun row => row.id == id && row.tenantId == tenantId

end FamilyDatabase

/-- `orderBy: { createdAt: "desc" }`. -/
def newestFirst {α : Type} (createdAt : α → Int) (rows : List α) : List α :=
  rows.insertionSort fun left right => createdAt right ≤ createdAt left

theorem find?_newestFirst_isSome {α : Type} {createdAt : α → Int} {rows : List α}
    {test : α → Bool} :
    ((newestFirst createdAt rows).find? test).isSome = true ↔ ∃ row ∈ rows, test row = true := by
  rw [List.find?_isSome]
  simp only [newestFirst, List.mem_insertionSort]

variable (db : FamilyDatabase) (actor : FamilyActorContext) (guardianRelationshipId : String)

/-- The rows that `getEffectiveGuardianAuthority` and `evaluateEffectiveGuardianAuthority`
select. -/
def verifiedAuthorities : List GuardianAuthorityRecord :=
  newestFirst (·.createdAt) <| db.authorities.filter fun row =>
    row.tenantId == actor.tenantId && row.guardianRelationshipId == guardianRelationshipId &&
      row.authorityStatus == .verified && row.revokedAt.isNone && row.archivedAt.isNone

def getEffectiveGuardianAuthority (now : Int) :
    Except FamilyError (Option GuardianAuthorityRecord) := do
  assertFamily actor .guardianAuthorityView
  return (verifiedAuthorities db actor guardianRelationshipId).find? fun row =>
    isGuardianAuthorityActive row.recordState now

def getEffectiveConsent (protectedProfileId : String) (consentType : ConsentType) (now : Int) :
    Except FamilyError (Option ConsentRecord) := do
  assertFamily actor .consentView
  let rows := newestFirst (·.createdAt) <| db.consents.filter fun row =>
    row.tenantId == actor.tenantId && row.protectedProfileId == protectedProfileId &&
      row.consentType == consentType && row.consentStatus == .active && row.revokedAt.isNone &&
      row.archivedAt.isNone
  return rows.find? fun row => isConsentEffective row.recordState now

def getEffectiveSafeRecipientEligibility (now : Int) :
    Except FamilyError (Option SafeRecipientAssessment) := do
  assertFamily actor .safeRecipientView
  let rows := newestFirst (·.createdAt) <| db.assessments.filter fun row =>
    row.tenantId == actor.tenantId && row.guardianRelationshipId == guardianRelationshipId &&
      row.assessmentStatus == .approved && row.revokedAt.isNone && row.archivedAt.isNone
  return rows.find? fun row => isSafeRecipientAssessmentApproved row.recordState now

/-! The evaluations for a relationship. They begin with the same checks. -/

inductive StandingFailure where
  | inactiveRelationship | archivedProfile | inactiveMembership

def checkStanding : Except StandingFailure GuardianRelationship :=
  match db.findRelationship actor.tenantId guardianRelationshipId with
  | none => .error .inactiveRelationship
  | some relationship =>
    if !isActiveGuardianRelationship relationship then .error .inactiveRelationship
    else if (db.findProfile actor.tenantId relationship.protectedProfileId).all
        (·.archivedAt.isSome) then .error .archivedProfile
    else if (db.findMembership actor.tenantId relationship.guardianMembershipId).isNone then
      .error .inactiveMembership
    else .ok relationship

inductive EffectiveAuthorityReason where
  | effective | standing (failure : StandingFailure) | authorityNotActive

structure EffectiveAuthorityDecision where
  effective : Bool
  authorityLevel : Option GuardianAuthorityLevel
  reason : EffectiveAuthorityReason

def evaluateEffectiveGuardianAuthority (now : Int) :
    Except FamilyError EffectiveAuthorityDecision := do
  assertFamily actor .guardianAuthorityView
  match checkStanding db actor guardianRelationshipId with
  | .error failure => return ⟨false, none, .standing failure⟩
  | .ok _ =>
    match (verifiedAuthorities db actor guardianRelationshipId).find? fun row =>
        isGuardianAuthorityActive row.recordState now with
    | none => return ⟨false, none, .authorityNotActive⟩
    | some active => return ⟨true, some active.authorityLevel, .effective⟩

/-- The rows that `evaluateEffectiveGuardianConsent` and `evaluateSafeRecipientAssessment`
select. -/
def activeConsents (protectedProfileId guardianRelationshipId : String)
    (consentType : ConsentType) : List ConsentRecord :=
  newestFirst (·.createdAt) <| db.consents.filter fun row =>
    row.tenantId == actor.tenantId && row.protectedProfileId == protectedProfileId &&
      row.guardianRelationshipId == some guardianRelationshipId && row.consentType == consentType &&
      row.consentStatus == .active && row.revokedAt.isNone && row.archivedAt.isNone

inductive EffectiveConsentReason where
  | effective | standing (failure : StandingFailure) | consentNotActive

structure EffectiveConsentDecision where
  effective : Bool
  reason : EffectiveConsentReason

def evaluateEffectiveGuardianConsent (consentType : ConsentType) (now : Int) :
    Except FamilyError EffectiveConsentDecision := do
  assertFamily actor .consentView
  match checkStanding db actor guardianRelationshipId with
  | .error failure => return ⟨false, .standing failure⟩
  | .ok relationship =>
    if (activeConsents db actor relationship.protectedProfileId guardianRelationshipId
        consentType).any fun row => isConsentEffective row.recordState now then
      return ⟨true, .effective⟩
    else return ⟨false, .consentNotActive⟩

inductive SafeRecipientState where
  | notFound | blocked | status (assessmentStatus : SafeRecipientAssessmentStatus)

inductive SafeRecipientReason where
  | safe | standing (failure : StandingFailure) | noEffectiveConsent | assessmentNotFound
  | assessmentNotApproved | assessmentSuspended | assessmentExpired

structure SafeRecipientDecision where
  safe : Bool
  state : SafeRecipientState
  reason : SafeRecipientReason

def unapprovedDecision (rows : List SafeRecipientAssessment) : SafeRecipientDecision :=
  match rows.find? fun row => row.revokedAt.isNone && row.archivedAt.isNone with
  | none => ⟨false, .notFound, .assessmentNotApproved⟩
  | some live =>
    match live.assessmentStatus with
    | .suspended => ⟨false, .status .suspended, .assessmentSuspended⟩
    | .approved => ⟨false, .status .expired, .assessmentExpired⟩
    | .expired => ⟨false, .status .expired, .assessmentExpired⟩
    | status => ⟨false, .status status, .assessmentNotApproved⟩

def evaluateSafeRecipientAssessment (purpose : AssessmentPurpose) (now : Int) :
    Except FamilyError SafeRecipientDecision := do
  assertFamily actor .safeRecipientView
  match checkStanding db actor guardianRelationshipId with
  | .error failure => return ⟨false, .blocked, .standing failure⟩
  | .ok relationship =>
    if !((activeConsents db actor relationship.protectedProfileId guardianRelationshipId
        .guardian).any fun row => isConsentEffective row.recordState now) then
      return ⟨false, .blocked, .noEffectiveConsent⟩
    else
      let rows := newestFirst (·.createdAt) <| db.assessments.filter fun row =>
        row.tenantId == actor.tenantId && row.guardianRelationshipId == guardianRelationshipId &&
          row.purpose == purpose
      if rows.isEmpty then return ⟨false, .notFound, .assessmentNotFound⟩
      else if rows.any fun row => row.assessmentStatus == .approved &&
          isSafeRecipientAssessmentApproved row.recordState now then
        return ⟨true, .status .approved, .safe⟩
      else return unapprovedDecision rows

end Tamanor.Db
