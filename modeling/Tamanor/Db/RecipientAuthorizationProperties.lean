import Tamanor.Db.RecipientAuthorization

/-! What an authorization says about the relationship it names. The consents are looked up by
profile, and the assessments without their purpose. -/

set_option autoImplicit false

namespace Tamanor.Db

open Tamanor.Core

variable {db : FamilyDatabase} {actor : FamilyActorContext} {now : Int}

theorem bind_eq_ok {ε α β : Type} {first : Except ε α} {next : α → Except ε β} {result : β} :
    (first >>= next) = .ok result ↔ ∃ value, first = .ok value ∧ next value = .ok result := by
  cases first with
  | error failure =>
    constructor
    · intro impossible
      cases impossible
    · rintro ⟨value, impossible, -⟩
      cases impossible
  | ok value =>
    constructor
    · intro same
      exact ⟨value, rfl, same⟩
    · rintro ⟨other, same, is⟩
      cases same
      exact is

theorem assertFamily_ok {action : FamilyAction} :
    assertFamily actor action = .ok () ↔ authorizeFamilyAction actor action = .ok () := by
  unfold assertFamily
  cases authorizeFamilyAction actor action with
  | ok => simp
  | error reason => simp

def HoldsAuthority (db : FamilyDatabase) (actor : FamilyActorContext)
    (guardianRelationshipId : String) (now : Int) : Prop :=
  ∃ row ∈ db.authorities, (row.tenantId = actor.tenantId ∧
    row.guardianRelationshipId = guardianRelationshipId) ∧
    isGuardianAuthorityActive row.recordState now = true

/-- The guardian's consent for a profile, given for a relationship that passes the test. -/
def HoldsConsent (db : FamilyDatabase) (actor : FamilyActorContext) (protectedProfileId : String)
    (relationship : Option String → Prop) (now : Int) : Prop :=
  ∃ row ∈ db.consents, (row.tenantId = actor.tenantId ∧
    row.protectedProfileId = protectedProfileId ∧ relationship row.guardianRelationshipId ∧
    row.consentType = .guardian) ∧ isConsentEffective row.recordState now = true

def HoldsAssessment (db : FamilyDatabase) (actor : FamilyActorContext)
    (guardianRelationshipId : String) (purpose : AssessmentPurpose → Prop) (now : Int) : Prop :=
  ∃ row ∈ db.assessments, (row.tenantId = actor.tenantId ∧
    row.guardianRelationshipId = guardianRelationshipId ∧ purpose row.purpose) ∧
    isSafeRecipientAssessmentApproved row.recordState now = true

theorem exists_filter_iff {α : Type} {rows : List α} {select test : α → Bool} {keyed : α → Prop}
    (agrees : ∀ row, test row = true → (select row = true ↔ keyed row)) :
    (∃ row ∈ rows.filter select, test row = true) ↔ ∃ row ∈ rows, keyed row ∧ test row = true := by
  constructor
  · rintro ⟨row, member, passes⟩
    obtain ⟨member, selected⟩ := List.mem_filter.mp member
    exact ⟨row, member, (agrees row passes).mp selected, passes⟩
  · rintro ⟨row, member, key, passes⟩
    exact ⟨row, List.mem_filter.mpr ⟨member, (agrees row passes).mpr key⟩, passes⟩

variable {guardianRelationshipId : String} {relationship : GuardianRelationship}
  {input : RecipientAuthorizationInput}

theorem authority_isSome :
    ((verifiedAuthorities db actor guardianRelationshipId).find? fun row =>
      isGuardianAuthorityActive row.recordState now).isSome = true ↔
      HoldsAuthority db actor guardianRelationshipId now := by
  rw [verifiedAuthorities, find?_newestFirst_isSome]
  apply exists_filter_iff
  intro row active
  simp only [isGuardianAuthorityActive, GuardianAuthorityRecord.recordState,
    Bool.and_eq_true, beq_iff_eq] at active
  simp [active]

theorem consent_isSome {protectedProfileId : String} :
    ((newestFirst (·.createdAt) <| db.consents.filter fun row =>
      row.tenantId == actor.tenantId && row.protectedProfileId == protectedProfileId &&
        row.consentType == .guardian && row.consentStatus == .active && row.revokedAt.isNone &&
        row.archivedAt.isNone).find? fun row =>
      isConsentEffective row.recordState now).isSome = true ↔
      HoldsConsent db actor protectedProfileId (fun _ => True) now := by
  rw [find?_newestFirst_isSome]
  apply exists_filter_iff
  intro row effective
  simp only [isConsentEffective, ConsentRecord.recordState, Bool.and_eq_true,
    beq_iff_eq] at effective
  simp [effective, and_assoc]

theorem assessment_isSome :
    ((newestFirst (·.createdAt) <| db.assessments.filter fun row =>
      row.tenantId == actor.tenantId && row.guardianRelationshipId == guardianRelationshipId &&
        row.assessmentStatus == .approved && row.revokedAt.isNone &&
        row.archivedAt.isNone).find? fun row =>
      isSafeRecipientAssessmentApproved row.recordState now).isSome = true ↔
      HoldsAssessment db actor guardianRelationshipId (fun _ => True) now := by
  rw [find?_newestFirst_isSome]
  apply exists_filter_iff
  intro row approved
  simp only [isSafeRecipientAssessmentApproved, SafeRecipientAssessment.recordState,
    Bool.and_eq_true, beq_iff_eq] at approved
  simp [approved]

theorem activeConsents_any {protectedProfileId : String} :
    ((activeConsents db actor protectedProfileId guardianRelationshipId .guardian).any fun row =>
      isConsentEffective row.recordState now) = true ↔
      HoldsConsent db actor protectedProfileId (· = some guardianRelationshipId) now := by
  rw [← List.isSome_find?, activeConsents, find?_newestFirst_isSome]
  apply exists_filter_iff
  intro row effective
  simp only [isConsentEffective, ConsentRecord.recordState, Bool.and_eq_true,
    beq_iff_eq] at effective
  simp [effective, and_assoc]

/-! The evaluations for a relationship. -/

structure StandingRelationship (db : FamilyDatabase) (actor : FamilyActorContext)
    (guardianRelationshipId : String) (relationship : GuardianRelationship) : Prop where
  found : db.findRelationship actor.tenantId guardianRelationshipId = some relationship
  active : isActiveGuardianRelationship relationship = true
  profile : (db.findProfile actor.tenantId relationship.protectedProfileId).all
    (·.archivedAt.isSome) = false
  member : (db.findMembership actor.tenantId relationship.guardianMembershipId).isSome = true

theorem checkStanding_ok :
    checkStanding db actor guardianRelationshipId = .ok relationship ↔
      StandingRelationship db actor guardianRelationshipId relationship := by
  unfold checkStanding
  constructor
  · intro checked
    split at checked
    · cases checked
    next found =>
      split at checked
      · cases checked
      next active =>
        split at checked
        · cases checked
        next profile =>
          split at checked
          · cases checked
          next member =>
            cases checked
            refine ⟨found, by simpa using active, by simpa using profile, ?_⟩
            exact Option.isSome_iff_ne_none.mpr (by simpa using member)
  · intro standing
    have member := Option.isNone_eq_false_iff.mpr standing.member
    simp [standing.found, standing.active, standing.profile, member]

theorem authorityEffective_iff :
    (∃ decision, evaluateEffectiveGuardianAuthority db actor guardianRelationshipId now =
      .ok decision ∧ decision.effective = true) ↔
      assertFamily actor .guardianAuthorityView = .ok () ∧
      (∃ relationship, StandingRelationship db actor guardianRelationshipId relationship) ∧
        HoldsAuthority db actor guardianRelationshipId now := by
  rw [← authority_isSome]
  unfold evaluateEffectiveGuardianAuthority
  simp only [bind_eq_ok, ← checkStanding_ok]
  constructor
  · rintro ⟨decision, ⟨⟨⟩, allowed, is⟩, effective⟩
    refine ⟨allowed, ?_⟩
    split at is
    · cases is
      cases effective
    next relationship standing =>
      split at is
      · cases is
        cases effective
      next authority holds => exact ⟨⟨relationship, standing⟩, by rw [holds]; rfl⟩
  · rintro ⟨allowed, ⟨relationship, standing⟩, holds⟩
    obtain ⟨authority, is⟩ := Option.isSome_iff_exists.mp holds
    refine ⟨⟨true, some authority.authorityLevel, .effective⟩, ⟨(), allowed, ?_⟩, rfl⟩
    rw [standing]
    simp only [is]
    rfl

theorem consentEffective_iff :
    (∃ decision, evaluateEffectiveGuardianConsent db actor guardianRelationshipId .guardian now =
      .ok decision ∧ decision.effective = true) ↔
      assertFamily actor .consentView = .ok () ∧
      ∃ relationship, StandingRelationship db actor guardianRelationshipId relationship ∧
        HoldsConsent db actor relationship.protectedProfileId
          (· = some guardianRelationshipId) now := by
  unfold evaluateEffectiveGuardianConsent
  simp only [bind_eq_ok, ← checkStanding_ok, ← activeConsents_any]
  constructor
  · rintro ⟨decision, ⟨⟨⟩, allowed, is⟩, effective⟩
    refine ⟨allowed, ?_⟩
    split at is
    · cases is
      cases effective
    next relationship standing =>
      split at is
      next holds => exact ⟨relationship, standing, holds⟩
      · cases is
        cases effective
  · rintro ⟨allowed, relationship, standing, holds⟩
    refine ⟨⟨true, .effective⟩, ⟨(), allowed, ?_⟩, rfl⟩
    rw [standing]
    simp only [holds]
    rfl

theorem unapprovedDecision_safe (rows : List SafeRecipientAssessment) :
    (unapprovedDecision rows).safe = false := by
  unfold unapprovedDecision
  split
  · rfl
  · split <;> rfl

theorem assessmentSafe_iff {purpose : AssessmentPurpose} :
    (∃ decision, evaluateSafeRecipientAssessment db actor guardianRelationshipId purpose now =
      .ok decision ∧ decision.safe = true) ↔
      assertFamily actor .safeRecipientView = .ok () ∧
      ∃ relationship, StandingRelationship db actor guardianRelationshipId relationship ∧
        HoldsConsent db actor relationship.protectedProfileId
          (· = some guardianRelationshipId) now ∧
        HoldsAssessment db actor guardianRelationshipId (· = purpose) now := by
  have approved : ∀ rows : List SafeRecipientAssessment,
      (rows.any fun row => row.assessmentStatus == .approved &&
        isSafeRecipientAssessmentApproved row.recordState now) = true ↔
      ∃ row ∈ rows, isSafeRecipientAssessmentApproved row.recordState now = true := by
    intro rows
    simp only [List.any_eq_true]
    refine exists_congr fun row => and_congr_right fun _ => ?_
    simp only [Bool.and_eq_true, and_iff_right_iff_imp]
    intro passes
    simp only [isSafeRecipientAssessmentApproved, SafeRecipientAssessment.recordState,
      Bool.and_eq_true] at passes
    exact passes.1.1.1.1.1.1
  have selected : HoldsAssessment db actor guardianRelationshipId (· = purpose) now ↔
      ∃ row ∈ newestFirst (·.createdAt) (db.assessments.filter fun row =>
        row.tenantId == actor.tenantId && row.guardianRelationshipId == guardianRelationshipId &&
          row.purpose == purpose), isSafeRecipientAssessmentApproved row.recordState now = true := by
    simp only [newestFirst, List.mem_insertionSort]
    refine (exists_filter_iff fun row _ => ?_).symm
    simp [and_assoc]
  rw [selected, ← approved]
  unfold evaluateSafeRecipientAssessment
  simp only [bind_eq_ok, ← checkStanding_ok, ← activeConsents_any]
  constructor
  · rintro ⟨decision, ⟨⟨⟩, allowed, is⟩, safe⟩
    refine ⟨allowed, ?_⟩
    split at is
    · cases is
      cases safe
    next relationship standing =>
      split at is
      · cases is
        cases safe
      next consent =>
        split at is
        · cases is
          cases safe
        · split at is
          next holds => exact ⟨relationship, standing, by simpa using consent, holds⟩
          · cases is
            rw [unapprovedDecision_safe] at safe
            cases safe
  · rintro ⟨allowed, relationship, standing, consent, holds⟩
    refine ⟨⟨true, .status .approved, .safe⟩, ⟨(), allowed, ?_⟩, rfl⟩
    rw [standing]
    obtain ⟨row, member, -⟩ := List.any_eq_true.mp holds
    have nonempty : (newestFirst (·.createdAt) (db.assessments.filter fun row =>
        row.tenantId == actor.tenantId && row.guardianRelationshipId == guardianRelationshipId &&
          row.purpose == purpose)).isEmpty = false :=
      List.isEmpty_eq_false_iff.mpr (List.ne_nil_of_mem member)
    simp only [consent, nonempty, holds]
    rfl

structure CompleteChain (db : FamilyDatabase) (actor : FamilyActorContext)
    (input : RecipientAuthorizationInput) (now : Int) (signal : SafetySignal)
    (relationship : GuardianRelationship) : Prop where
  evaluates : assertFamily actor .safetyRecipientAuthorizationEvaluate = .ok ()
  viewsAuthority : assertFamily actor .guardianAuthorityView = .ok ()
  viewsConsent : assertFamily actor .consentView = .ok ()
  viewsAssessment : assertFamily actor .safeRecipientView = .ok ()
  validUntil : input.validUntil = none
  signalFound : db.findSignal actor.tenantId input.safetySignalId = some signal
  signalLive : signal.archivedAt = none
  recipient : ∃ membership,
    db.findMembership actor.tenantId input.recipientMembershipId = some membership ∧
      isRecipientEligibleFamilyRole (familyRoleForMembershipRole membership.role) = true
  relationshipFound :
    db.findRelationship actor.tenantId input.guardianRelationshipId = some relationship
  profile : relationship.protectedProfileId = signal.protectedProfileId
  guardian : relationship.guardianMembershipId = input.recipientMembershipId
  active : isActiveGuardianRelationship relationship = true
  authority : HoldsAuthority db actor input.guardianRelationshipId now
  consent : HoldsConsent db actor signal.protectedProfileId (fun _ => True) now
  assessment : HoldsAssessment db actor input.guardianRelationshipId (fun _ => True) now
  scopes : scopesWithin input.requestedScopes
    (maxDisclosureScopesForSignal signal.severity signal.signalType) = true

theorem concludeAuthorization_authorized {ids : AuthorizationRecordIds} {signal : SafetySignal}
    {authority : Option GuardianAuthorityRecord} {consent : Option ConsentRecord}
    {assessment : Option SafeRecipientAssessment} :
    (concludeAuthorization actor input now ids signal relationship authority consent
      assessment).authorized = true ↔
      actor.workspaceKind = .family ∧ isActiveGuardianRelationship relationship = true ∧
        authority.isSome = true ∧ consent.isSome = true ∧ assessment.isSome = true ∧
        scopesWithin input.requestedScopes
          (maxDisclosureScopesForSignal signal.severity signal.signalType) = true := by
  unfold concludeAuthorization
  dsimp only
  split
  next reason rest reasons =>
    constructor
    · intro impossible
      cases impossible
    · rintro ⟨family, active, holdsAuthority, holdsConsent, holdsAssessment, -⟩
      rw [evaluateCanReceiveSafetyInformation_eq_nil.mpr
        ⟨family, active, rfl, holdsAuthority, holdsConsent, holdsAssessment⟩] at reasons
      cases reasons
  next complete =>
    obtain ⟨family, active, -, holdsAuthority, holdsConsent, holdsAssessment⟩ :=
      evaluateCanReceiveSafetyInformation_eq_nil.mp complete
    dsimp only at family active holdsAuthority holdsConsent holdsAssessment
    simp only [family, active, holdsAuthority, holdsConsent, holdsAssessment, true_and]
    split
    next refused =>
      simp only [deny, Bool.false_eq_true, false_iff]
      exact refused.2
    next allowed =>
      simp only [true_iff]
      by_contra outside
      apply allowed
      refine ⟨?_, outside⟩
      rintro none
      rw [none] at outside
      exact outside rfl

theorem authorized_iff :
    (∃ evaluation, evaluateRecipientAuthorization db actor input now = .ok evaluation ∧
      evaluation.authorized = true) ↔
      ∃ signal relationship, CompleteChain db actor input now signal relationship := by
  unfold evaluateRecipientAuthorization
  simp only [bind_eq_ok]
  constructor
  · rintro ⟨evaluation, ⟨⟨⟩, evaluates, is⟩, authorized⟩
    split at is
    · cases is
    next validUntil =>
      split at is
      · cases is
        cases authorized
      next signal signalFound =>
        split at is
        · cases is
          cases authorized
        next signalLive =>
          split at is
          · cases is
            cases authorized
          next membership membershipFound =>
            split at is
            · cases is
              cases authorized
            next eligible =>
              split at is
              · cases is
                cases authorized
              next relationship relationshipFound =>
                split at is
                · cases is
                  cases authorized
                next profile =>
                  split at is
                  · cases is
                    cases authorized
                  next guardian =>
                    simp only [bind_eq_ok, getEffectiveGuardianAuthority, getEffectiveConsent,
                      getEffectiveSafeRecipientEligibility] at is
                    obtain ⟨authority, ⟨⟨⟩, viewsAuthority, authorityIs⟩, consent,
                      ⟨⟨⟩, viewsConsent, consentIs⟩, assessment,
                      ⟨⟨⟩, viewsAssessment, assessmentIs⟩, concluded⟩ := is
                    cases authorityIs
                    cases consentIs
                    cases assessmentIs
                    cases concluded
                    obtain ⟨-, active, holdsAuthority, holdsConsent, holdsAssessment, scopes⟩ :=
                      concludeAuthorization_authorized.mp authorized
                    exact ⟨signal, relationship, {
                      evaluates := evaluates
                      viewsAuthority := viewsAuthority
                      viewsConsent := viewsConsent
                      viewsAssessment := viewsAssessment
                      validUntil := by simpa using validUntil
                      signalFound := signalFound
                      signalLive := by simpa using signalLive
                      recipient := ⟨membership, membershipFound, by simpa using eligible⟩
                      relationshipFound := relationshipFound
                      profile := not_not.mp profile
                      guardian := not_not.mp guardian
                      active := active
                      authority := authority_isSome.mp holdsAuthority
                      consent := consent_isSome.mp holdsConsent
                      assessment := assessment_isSome.mp holdsAssessment
                      scopes := scopes }⟩
  · rintro ⟨signal, relationship, chain⟩
    obtain ⟨membership, membershipFound, eligible⟩ := chain.recipient
    have family := (authorizeFamilyAction_ok.mp (assertFamily_ok.mp chain.evaluates)).1
    refine ⟨concludeAuthorization actor input now
        ⟨input.safetySignalId, signal.protectedProfileId, input.recipientMembershipId,
          some relationship.id, none, none, none⟩ signal relationship _ _ _,
      ⟨(), chain.evaluates, ?_⟩,
      concludeAuthorization_authorized.mpr ⟨family, chain.active,
        authority_isSome.mpr chain.authority, consent_isSome.mpr chain.consent,
        assessment_isSome.mpr chain.assessment, chain.scopes⟩⟩
    simp only [chain.validUntil, chain.signalFound, chain.signalLive, membershipFound, eligible,
      chain.relationshipFound, chain.profile, chain.guardian, getEffectiveGuardianAuthority,
      getEffectiveConsent, getEffectiveSafeRecipientEligibility, chain.viewsAuthority,
      chain.viewsConsent, chain.viewsAssessment, Option.isSome_none, Bool.false_eq_true,
      if_false, Bool.not_true, ne_eq, not_true_eq_false, Option.map_some]
    rfl

/-- The profile is not archived, the consent was given for the relationship, and the assessment
was made for signals. -/
structure BoundToRelationship (db : FamilyDatabase) (actor : FamilyActorContext)
    (guardianRelationshipId protectedProfileId : String) (now : Int) : Prop where
  profile : (db.findProfile actor.tenantId protectedProfileId).all (·.archivedAt.isSome) = false
  consent : HoldsConsent db actor protectedProfileId (· = some guardianRelationshipId) now
  assessment : HoldsAssessment db actor guardianRelationshipId (· = .safetySignal) now

def AuthorizationConfirmed (db : FamilyDatabase) (actor : FamilyActorContext)
    (input : RecipientAuthorizationInput) (now : Int) : Prop :=
  (∃ evaluation, evaluateRecipientAuthorization db actor input now = .ok evaluation ∧
    evaluation.authorized = true) →
  (∃ decision, evaluateEffectiveGuardianConsent db actor input.guardianRelationshipId .guardian
      now = .ok decision ∧ decision.effective = true) ∧
    (∃ decision, evaluateEffectiveGuardianAuthority db actor input.guardianRelationshipId now =
      .ok decision ∧ decision.effective = true) ∧
    ∃ decision, evaluateSafeRecipientAssessment db actor input.guardianRelationshipId
      .safetySignal now = .ok decision ∧ decision.safe = true

theorem CompleteChain.standing {signal : SafetySignal}
    (chain : CompleteChain db actor input now signal relationship)
    (profile : (db.findProfile actor.tenantId signal.protectedProfileId).all
      (·.archivedAt.isSome) = false) :
    StandingRelationship db actor input.guardianRelationshipId relationship where
  found := chain.relationshipFound
  active := chain.active
  profile := by rwa [chain.profile]
  member := by
    obtain ⟨membership, found, -⟩ := chain.recipient
    rw [chain.guardian, found]
    rfl

/-- The evaluations confirm an authorization exactly if the consent was given for the
relationship, the assessment was made for signals, and the profile is not archived. -/
theorem authorizationConfirmed_iff (db : FamilyDatabase) (actor : FamilyActorContext)
    (input : RecipientAuthorizationInput) (now : Int) :
    AuthorizationConfirmed db actor input now ↔
      ∀ signal relationship, CompleteChain db actor input now signal relationship →
        BoundToRelationship db actor input.guardianRelationshipId signal.protectedProfileId now := by
  unfold AuthorizationConfirmed
  rw [authorized_iff, consentEffective_iff, authorityEffective_iff, assessmentSafe_iff]
  constructor
  · intro confirmed signal relationship chain
    obtain ⟨-, -, -, other, standing, consent, assessment⟩ := confirmed ⟨signal, relationship, chain⟩
    have same : other = relationship :=
      Option.some.inj (standing.found.symm.trans chain.relationshipFound)
    rw [same, chain.profile] at consent
    have profile := standing.profile
    rw [same, chain.profile] at profile
    exact ⟨profile, consent, assessment⟩
  · rintro bound ⟨signal, relationship, chain⟩
    obtain ⟨profile, consent, assessment⟩ := bound signal relationship chain
    have standing := chain.standing profile
    rw [← chain.profile] at consent
    exact ⟨⟨chain.viewsConsent, relationship, standing, consent⟩,
      ⟨chain.viewsAuthority, ⟨relationship, standing⟩, chain.authority⟩,
      chain.viewsAssessment, relationship, standing, consent, assessment⟩

/-! The mother has consented and has been assessed; the input names the uncle's relationship,
whose own assessment was made for emergencies. -/

def mothersConsent : ConsentRecord :=
  ⟨"consent", "family", "child", some "mother", .guardian, .active, some "m1", some 0, none, none,
    0, none, none⟩

def uncleHasNoConsent : FamilyDatabase where
  relationships := [⟨"mother", "family", "child", "m1", "parent", .verified, none, none⟩,
    ⟨"uncle", "family", "child", "m2", "trusted_adult", .verified, none, none⟩]
  profiles := [⟨"child", "family", none⟩]
  memberships := [⟨"m1", "family", "u1", .owner⟩, ⟨"m2", "family", "u2", .reviewer⟩]
  signals := [⟨"signal", "family", "child", .critical, .other "bullying", none⟩]
  authorities := [⟨"authority", "family", "uncle", .limited, .verified, 0, none, 0, none, none⟩]
  consents := [mothersConsent]
  assessments := [⟨"assessment", "family", "uncle", .emergencyContact, .eligible, .approved,
    some "m1", some 0, none, 0, none, none⟩]

def uncleAsRecipient : RecipientAuthorizationInput := ⟨"signal", "m2", "uncle", [], none⟩

def familyOwner : FamilyActorContext := ⟨"family", "u1", .owner, .family⟩

theorem not_authorizationConfirmed_of_otherGuardian :
    ¬AuthorizationConfirmed uncleHasNoConsent familyOwner uncleAsRecipient 1 := by
  intro confirmed
  have authorized : (evaluateRecipientAuthorization uncleHasNoConsent familyOwner uncleAsRecipient
      1).map (·.authorized) = .ok true := by decide +kernel
  have consent : (evaluateEffectiveGuardianConsent uncleHasNoConsent familyOwner "uncle" .guardian
      1).map (·.effective) = .ok false := by decide +kernel
  obtain ⟨evaluation, evaluated⟩ : ∃ evaluation,
      evaluateRecipientAuthorization uncleHasNoConsent familyOwner uncleAsRecipient 1 =
        .ok evaluation := by
    cases is : evaluateRecipientAuthorization uncleHasNoConsent familyOwner uncleAsRecipient 1 with
    | error failure =>
      rw [is] at authorized
      cases authorized
    | ok evaluation => exact ⟨evaluation, rfl⟩
  rw [evaluated] at authorized
  obtain ⟨⟨decision, decided, effective⟩, -⟩ :=
    confirmed ⟨evaluation, evaluated, Except.ok.inj authorized⟩
  rw [show uncleAsRecipient.guardianRelationshipId = "uncle" from rfl] at decided
  rw [decided] at consent
  have refused : decision.effective = false := Except.ok.inj consent
  rw [effective] at refused
  cases refused

end Tamanor.Db
