import Tamanor.Db.FamilyRecords

/-! Whether a membership is an authorized recipient of a signal
(`child-safety-recipient-authorization.ts` of the db package). The required consent type is the
guardian's. -/

set_option autoImplicit false

namespace Tamanor.Db

open Tamanor.Core

inductive RecipientAuthorizationReasonCode where
  | completeAuthorizationChain | noActiveGuardianRelationship | noValidAuthority | noValidConsent
  | noApprovedSafeRecipient | inactiveMembership | tenantMismatch | profileMismatch
  | signalArchived | consentScopeInsufficient | recipientRoleNotAllowed | authorizationRevoked
  | supersededByNewDecision

def reasonCodeForDenyReason : SafetyRecipientDenyReason → RecipientAuthorizationReasonCode
  | .relationshipInactive => .noActiveGuardianRelationship
  | .membershipInvalid => .inactiveMembership
  | .authorityMissing => .noValidAuthority
  | .consentMissing => .noValidConsent
  | .assessmentNotApproved => .noApprovedSafeRecipient
  | .notFamilyWorkspace => .tenantMismatch

def recipientEligibleFamilyRoles : List FamilyRole :=
  [.primaryGuardian, .guardian, .safetyProfessional, .trustedAdult]

def isRecipientEligibleFamilyRole (role : FamilyRole) : Bool :=
  recipientEligibleFamilyRoles.contains role

structure RecipientAuthorizationInput where
  safetySignalId : String
  recipientMembershipId : String
  guardianRelationshipId : String
  requestedScopes : List SafetyDisclosureScope
  validUntil : Option Int

structure AuthorizationRecordIds where
  safetySignalId : String
  protectedProfileId : String
  recipientMembershipId : String
  guardianRelationshipId : Option String
  guardianAuthorityRecordId : Option String
  consentRecordId : Option String
  safeRecipientAssessmentId : Option String

structure RecipientAuthorizationEvaluation where
  authorized : Bool
  decisionStatus : RecipientAuthorizationDecisionStatus
  reasonCode : RecipientAuthorizationReasonCode
  allowedDisclosureScopes : List SafetyDisclosureScope
  recordIds : AuthorizationRecordIds
  evaluatedAt : Int
  validUntil : Option Int

def deny (reasonCode : RecipientAuthorizationReasonCode) (ids : AuthorizationRecordIds)
    (now : Int) : RecipientAuthorizationEvaluation :=
  ⟨false, .denied, reasonCode, [], ids, now, none⟩

def minDate (dates : List (Option Int)) : Option Int :=
  (dates.filterMap id).min?

def concludeAuthorization (actor : FamilyActorContext) (input : RecipientAuthorizationInput)
    (now : Int) (ids : AuthorizationRecordIds) (signal : SafetySignal)
    (relationship : GuardianRelationship) (authority : Option GuardianAuthorityRecord)
    (consent : Option ConsentRecord) (assessment : Option SafeRecipientAssessment) :
    RecipientAuthorizationEvaluation :=
  let snapshotIds := { ids with
    guardianAuthorityRecordId := authority.map (·.id)
    consentRecordId := consent.map (·.id)
    safeRecipientAssessmentId := assessment.map (·.id) }
  match evaluateCanReceiveSafetyInformation {
      workspaceKind := actor.workspaceKind
      relationshipActive := isActiveGuardianRelationship relationship
      relationshipType := relationship.relationshipType
      membershipActiveSameTenant := true
      authorityActive := authority.isSome
      consentEffective := consent.isSome
      assessmentApproved := assessment.isSome } with
  | reason :: _ => deny (reasonCodeForDenyReason reason) snapshotIds now
  | [] =>
    let maxScopes := maxDisclosureScopesForSignal signal.severity signal.signalType
    if input.requestedScopes ≠ [] ∧ ¬scopesWithin input.requestedScopes maxScopes then
      deny .consentScopeInsufficient snapshotIds now
    else
      { authorized := true
        decisionStatus := .authorized
        reasonCode := .completeAuthorizationChain
        allowedDisclosureScopes :=
          if input.requestedScopes ≠ [] then input.requestedScopes else maxScopes
        recordIds := snapshotIds
        evaluatedAt := now
        validUntil := minDate [authority.bind (·.validUntil), consent.bind (·.validUntil),
          assessment.bind (·.validUntil), input.validUntil] }

/-- The fields that an evaluation accepts do not include `validUntil`. -/
def evaluateRecipientAuthorization (db : FamilyDatabase) (actor : FamilyActorContext)
    (input : RecipientAuthorizationInput) (now : Int) :
    Except FamilyError RecipientAuthorizationEvaluation := do
  assertFamily actor .safetyRecipientAuthorizationEvaluate
  if input.validUntil.isSome then .error (.validation "validUntil")
  else
    let emptyIds : AuthorizationRecordIds :=
      ⟨input.safetySignalId, "", input.recipientMembershipId, none, none, none, none⟩
    match db.findSignal actor.tenantId input.safetySignalId with
    | none => .ok (deny .tenantMismatch emptyIds now)
    | some signal =>
      let found := db.findRelationship actor.tenantId input.guardianRelationshipId
      let ids := { emptyIds with
        protectedProfileId := signal.protectedProfileId
        guardianRelationshipId := found.map (·.id) }
      if signal.archivedAt.isSome then .ok (deny .signalArchived ids now)
      else
        match db.findMembership actor.tenantId input.recipientMembershipId with
        | none => .ok (deny .inactiveMembership ids now)
        | some membership =>
          if !isRecipientEligibleFamilyRole (familyRoleForMembershipRole membership.role) then
            .ok (deny .recipientRoleNotAllowed ids now)
          else
            match found with
            | none => .ok (deny .noActiveGuardianRelationship ids now)
            | some relationship =>
              if relationship.protectedProfileId ≠ signal.protectedProfileId then
                .ok (deny .profileMismatch ids now)
              else if relationship.guardianMembershipId ≠ input.recipientMembershipId then
                .ok (deny .noActiveGuardianRelationship ids now)
              else do
                let authority ←
                  getEffectiveGuardianAuthority db actor input.guardianRelationshipId now
                let consent ← getEffectiveConsent db actor signal.protectedProfileId .guardian now
                let assessment ←
                  getEffectiveSafeRecipientEligibility db actor input.guardianRelationshipId now
                return concludeAuthorization actor input now ids signal relationship authority
                  consent assessment

end Tamanor.Db
