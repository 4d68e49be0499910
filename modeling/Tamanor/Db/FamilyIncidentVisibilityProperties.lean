import Tamanor.Db.FamilyIncidentVisibility
import Tamanor.Db.RecipientHistoryProperties

/-! Who is notified about an incident, and who may know of it. Both rest on the same engine, but
only the notified are looked for among the verified relationships. -/

set_option autoImplicit false

namespace Tamanor.Db

open Tamanor.Core Library

variable {db : FamilyIncidentDatabase} {tenantId incidentId : String} {actor : FamilyActorContext}

namespace FamilyIncidentDatabase

def Authorized (db : FamilyIncidentDatabase) (tenantId signalId membershipId : String) : Prop :=
  ∃ entry, db.history.getEffectiveRecipientAuthorization (sysActor tenantId) signalId
    membershipId = .ok (some entry)

def Notified (db : FamilyIncidentDatabase) (tenantId incidentId userId : String) : Prop :=
  ∃ userIds, db.resolveIncidentRecipientUserIds tenantId incidentId false = .ok userIds ∧
    userId ∈ userIds

def Visible (db : FamilyIncidentDatabase) (actor : FamilyActorContext) (incidentId : String) :
    Prop :=
  ∃ profileId signalIds,
    db.evaluateFamilyIncidentVisibilityTx actor incidentId = .allowed profileId signalIds

def SingleMembership (db : FamilyIncidentDatabase) (tenantId : String) : Prop :=
  ∀ first ∈ db.history.records.memberships, ∀ second ∈ db.history.records.memberships,
    first.tenantId = tenantId → second.tenantId = tenantId → first.userId = second.userId →
    first = second

def VerifiedBehind (db : FamilyIncidentDatabase) (tenantId incidentId userId : String) : Prop :=
  ∀ context, db.loadFamilyIncidentContext tenantId incidentId = .ok context →
    ∀ membership ∈ db.history.records.memberships, membership.tenantId = tenantId →
      membership.userId = userId →
      (∃ signalId ∈ context.linkedSignalIds, db.Authorized tenantId signalId membership.id) →
      ∃ relationship ∈ db.history.records.relationships,
        relationship.isCandidate tenantId context.profileId = true ∧
          relationship.guardianMembershipId = membership.id

structure NotifiedThrough (db : FamilyIncidentDatabase) (tenantId incidentId userId : String)
    (incident : FamilyIncident) (membership : FamilyMembership)
    (relationship : GuardianRelationship) (signal : SafetySignal) : Prop where
  incidentFound : incident ∈ db.incidents ∧ incident.id = incidentId ∧ incident.tenantId = tenantId
  member : membership ∈ db.history.records.memberships ∧ membership.tenantId = tenantId ∧
    membership.userId = userId
  relationshipFound : relationship ∈ db.history.records.relationships ∧
    relationship.tenantId = tenantId ∧ relationship.guardianMembershipId = membership.id ∧
    relationship.protectedProfileId = incident.protectedProfileId
  verified : relationship.status = .verified ∧ relationship.revokedAt = none ∧
    relationship.archivedAt = none
  signalLinked : signal ∈ db.history.records.signals ∧ signal.tenantId = tenantId ∧
    ∃ link ∈ db.links, link.incidentId = incidentId ∧ link.tenantId = tenantId ∧
      link.safetySignalId = signal.id
  signalLive : signal.protectedProfileId = incident.protectedProfileId ∧ signal.archivedAt = none
  authorized : db.Authorized tenantId signal.id membership.id

end FamilyIncidentDatabase

/-! The engine answers the system's actor. -/

theorem ne_nil_iff_exists_mem {α : Type} {items : List α} : items ≠ [] ↔ ∃ item, item ∈ items := by
  cases items with
  | nil => simp
  | cons first rest => exact ⟨fun _ => ⟨first, List.mem_cons_self⟩, fun _ => List.cons_ne_nil _ _⟩

theorem assertFamily_sysActor (action : FamilyAction) :
    assertFamily (sysActor tenantId) action = .ok () := by
  cases action <;> rfl

theorem evaluate_sysActor (records : FamilyDatabase) (input : RecipientAuthorizationInput)
    (now : Int) (unbounded : input.validUntil = none) :
    ∃ evaluation,
      evaluateRecipientAuthorization records (sysActor tenantId) input now = .ok evaluation := by
  unfold evaluateRecipientAuthorization getEffectiveGuardianAuthority getEffectiveConsent
    getEffectiveSafeRecipientEligibility
  simp only [assertFamily_sysActor, unbounded, Option.isSome_none, Bool.false_eq_true, if_false]
  dsimp only [bind, Except.bind, pure, Except.pure]
  split
  next => exact ⟨_, rfl⟩
  next =>
    split
    next => exact ⟨_, rfl⟩
    next =>
      split
      next => exact ⟨_, rfl⟩
      next =>
        split
        next => exact ⟨_, rfl⟩
        next =>
          split
          next => exact ⟨_, rfl⟩
          next =>
            split
            next => exact ⟨_, rfl⟩
            next => split <;> exact ⟨_, rfl⟩

theorem effective_sysActor (history : RecipientHistory) (signalId membershipId : String) :
    ∃ found, history.getEffectiveRecipientAuthorization (sysActor tenantId) signalId
      membershipId = .ok found := by
  unfold RecipientHistory.getEffectiveRecipientAuthorization
  rw [assertFamily_sysActor]
  dsimp only [bind, Except.bind, pure, Except.pure]
  split
  next => exact ⟨_, rfl⟩
  next entry _ =>
    split
    next => exact ⟨_, rfl⟩
    next relationshipId _ =>
      obtain ⟨evaluation, evaluates⟩ := evaluate_sysActor history.records
        ⟨signalId, membershipId, relationshipId, [], none⟩ history.now rfl
      rw [evaluates]
      exact ⟨_, rfl⟩

theorem authorizedLinkedSignals_spec (db : FamilyIncidentDatabase) (membershipId : String)
    (signalIds : List String) :
    ∃ authorized, db.authorizedLinkedSignals tenantId membershipId signalIds = .ok authorized ∧
      ∀ signalId, signalId ∈ authorized ↔
        signalId ∈ signalIds ∧ db.Authorized tenantId signalId membershipId := by
  induction signalIds with
  | nil => exact ⟨[], rfl, fun signalId => by simp⟩
  | cons first rest ih =>
    obtain ⟨others, isOthers, spec⟩ := ih
    obtain ⟨found, isFound⟩ := effective_sysActor db.history first membershipId
    unfold FamilyIncidentDatabase.authorizedLinkedSignals
    rw [isFound, isOthers]
    refine ⟨_, rfl, fun signalId => ?_⟩
    have firstAuthorized : db.Authorized tenantId first membershipId ↔ found.isSome = true := by
      unfold FamilyIncidentDatabase.Authorized
      rw [isFound]
      cases found <;> simp
    cases isSome : found.isSome with
    | true =>
      rw [isSome] at firstAuthorized
      rw [if_pos rfl, List.mem_cons, spec, List.mem_cons]
      constructor
      · rintro (rfl | ⟨member, authorized⟩)
        · exact ⟨.inl rfl, firstAuthorized.mpr rfl⟩
        · exact ⟨.inr member, authorized⟩
      · rintro ⟨rfl | member, authorized⟩
        · exact .inl rfl
        · exact .inr ⟨member, authorized⟩
    | false =>
      rw [isSome] at firstAuthorized
      rw [if_neg Bool.false_ne_true, spec, List.mem_cons]
      constructor
      · rintro ⟨member, authorized⟩
        exact ⟨.inr member, authorized⟩
      · rintro ⟨rfl | member, authorized⟩
        · exact absurd (firstAuthorized.mp authorized) Bool.false_ne_true
        · exact ⟨member, authorized⟩

theorem eligibleMemberships_spec (db : FamilyIncidentDatabase) (signalIds : List String)
    (relationships : List GuardianRelationship) :
    ∃ eligible, db.eligibleMemberships tenantId signalIds relationships = .ok eligible ∧
      ∀ membershipId, membershipId ∈ eligible ↔
        (∃ relationship ∈ relationships, relationship.guardianMembershipId = membershipId) ∧
          ∃ signalId ∈ signalIds, db.Authorized tenantId signalId membershipId := by
  induction relationships with
  | nil => exact ⟨[], rfl, fun membershipId => by simp⟩
  | cons first rest ih =>
    obtain ⟨others, isOthers, spec⟩ := ih
    obtain ⟨authorized, isAuthorized, authorizedSpec⟩ := authorizedLinkedSignals_spec
      db first.guardianMembershipId signalIds
    unfold FamilyIncidentDatabase.eligibleMemberships
    rw [isAuthorized, isOthers]
    refine ⟨_, rfl, fun membershipId => ?_⟩
    have someAuthorized : authorized ≠ [] ↔
        ∃ signalId ∈ signalIds, db.Authorized tenantId signalId first.guardianMembershipId := by
      exact ne_nil_iff_exists_mem.trans (exists_congr authorizedSpec)
    by_cases empty : authorized = []
    · rw [if_neg (not_not.mpr empty), spec]
      have noneAuthorized := someAuthorized.not.mp (not_not.mpr empty)
      constructor
      · rintro ⟨⟨relationship, member, same⟩, passes⟩
        exact ⟨⟨relationship, List.mem_cons_of_mem _ member, same⟩, passes⟩
      · rintro ⟨⟨relationship, member, same⟩, passes⟩
        rcases List.mem_cons.mp member with rfl | member
        · exact absurd (same ▸ passes) noneAuthorized
        · exact ⟨⟨relationship, member, same⟩, passes⟩
    · rw [if_pos empty, List.mem_cons, spec]
      constructor
      · rintro (rfl | ⟨⟨relationship, member, same⟩, passes⟩)
        · exact ⟨⟨first, List.mem_cons_self, rfl⟩, someAuthorized.mp empty⟩
        · exact ⟨⟨relationship, List.mem_cons_of_mem _ member, same⟩, passes⟩
      · rintro ⟨⟨relationship, member, same⟩, passes⟩
        rcases List.mem_cons.mp member with rfl | member
        · exact .inl same.symm
        · exact .inr ⟨⟨relationship, member, same⟩, passes⟩

theorem notified_iff {userId : String} :
    db.Notified tenantId incidentId userId ↔
      ∃ context, db.loadFamilyIncidentContext tenantId incidentId = .ok context ∧
        ∃ membership ∈ db.history.records.memberships, membership.tenantId = tenantId ∧
          membership.userId = userId ∧
          (∃ relationship ∈ db.history.records.relationships,
            relationship.isCandidate tenantId context.profileId = true ∧
              relationship.guardianMembershipId = membership.id) ∧
          ∃ signalId ∈ context.linkedSignalIds, db.Authorized tenantId signalId membership.id := by
  unfold FamilyIncidentDatabase.Notified FamilyIncidentDatabase.resolveIncidentRecipientUserIds
  cases loaded : db.loadFamilyIncidentContext tenantId incidentId with
  | error reason =>
    constructor
    · rintro ⟨userIds, resolved, member⟩
      dsimp only at resolved
      split at resolved
      · cases resolved
        cases member
      · cases resolved
    · rintro ⟨context, impossible, _⟩
      cases impossible
  | ok context =>
    obtain ⟨eligible, isEligible, spec⟩ := eligibleMemberships_spec db
      context.linkedSignalIds (db.history.records.relationships.filter fun row =>
        row.isCandidate tenantId context.profileId)
    dsimp only
    rw [isEligible]
    simp only [Bool.false_and, Bool.false_eq_true, if_false, Except.ok.injEq,
      exists_eq_left', List.mem_insertionSort, List.mem_dedup, List.mem_map, List.mem_filter,
      Bool.and_eq_true, List.contains_iff_mem, beq_iff_eq, spec]
    constructor
    · rintro ⟨membership, ⟨member, ⟨⟨relationship, ⟨found, candidate⟩, same⟩, passes⟩, tenant⟩,
        user⟩
      exact ⟨membership, member, tenant, user, ⟨relationship, found, candidate, same⟩, passes⟩
    · rintro ⟨membership, member, tenant, user, ⟨relationship, found, candidate, same⟩, passes⟩
      exact ⟨membership, ⟨member, ⟨⟨relationship, ⟨found, candidate⟩, same⟩, passes⟩, tenant⟩, user⟩

theorem visible_iff (family : actor.workspaceKind = .family) :
    db.Visible actor incidentId ↔
      ∃ context, db.loadFamilyIncidentContext actor.tenantId incidentId = .ok context ∧
        ∃ membershipId, db.history.actorMembershipId actor = some membershipId ∧
          ∃ signalId ∈ context.linkedSignalIds,
            db.Authorized actor.tenantId signalId membershipId := by
  unfold FamilyIncidentDatabase.Visible FamilyIncidentDatabase.evaluateFamilyIncidentVisibilityTx
  rw [if_neg (not_not.mpr family)]
  cases db.loadFamilyIncidentContext actor.tenantId incidentId with
  | error reason => simp
  | ok context =>
    cases db.history.actorMembershipId actor with
    | none => simp
    | some membershipId =>
      obtain ⟨authorized, isAuthorized, spec⟩ := authorizedLinkedSignals_spec
        db membershipId context.linkedSignalIds
      have passes : (∃ signalId ∈ context.linkedSignalIds,
          db.Authorized actor.tenantId signalId membershipId) ↔ authorized ≠ [] :=
        (exists_congr spec).symm.trans ne_nil_iff_exists_mem.symm
      simp only [isAuthorized, Except.ok.injEq, exists_eq_left', Option.some.injEq, passes]
      cases authorized with
      | nil => simp
      | cons first rest => simp

theorem actorMembershipId_eq_some (single : db.SingleMembership actor.tenantId)
    {membership : FamilyMembership} (member : membership ∈ db.history.records.memberships)
    (tenant : membership.tenantId = actor.tenantId) (user : membership.userId = actor.userId) :
    db.history.actorMembershipId actor = some membership.id := by
  unfold RecipientHistory.actorMembershipId
  cases found : db.history.records.memberships.find? fun row =>
      row.userId == actor.userId && row.tenantId == actor.tenantId with
  | none =>
    have absent := List.find?_eq_none.mp found membership member
    rw [tenant, user, beq_self_eq_true, beq_self_eq_true] at absent
    exact absurd rfl absent
  | some other =>
    have passes := List.find?_some found
    simp only [Bool.and_eq_true, beq_iff_eq] at passes
    rw [single other (List.mem_of_find?_eq_some found) membership member passes.2 tenant
      (passes.1.trans user.symm), Option.map_some]

theorem mem_of_actorMembershipId {membershipId : String}
    (found : db.history.actorMembershipId actor = some membershipId) :
    ∃ membership ∈ db.history.records.memberships, membership.tenantId = actor.tenantId ∧
      membership.userId = actor.userId ∧ membership.id = membershipId := by
  obtain ⟨membership, isMembership, rfl⟩ := Option.map_eq_some_iff.mp found
  have passes := List.find?_some isMembership
  simp only [Bool.and_eq_true, beq_iff_eq] at passes
  exact ⟨membership, List.mem_of_find?_eq_some isMembership, passes.2, passes.1, rfl⟩

theorem context_spec {context : IncidentContext}
    (loaded : db.loadFamilyIncidentContext tenantId incidentId = .ok context) :
    ∃ incident ∈ db.incidents, incident.id = incidentId ∧ incident.tenantId = tenantId ∧
      context.profileId = incident.protectedProfileId ∧
      ∀ signalId ∈ context.linkedSignalIds, ∃ signal ∈ db.history.records.signals,
        signal.id = signalId ∧ signal.tenantId = tenantId ∧
          signal.protectedProfileId = incident.protectedProfileId ∧ signal.archivedAt = none ∧
          ∃ link ∈ db.links, link.incidentId = incidentId ∧ link.tenantId = tenantId ∧
            link.safetySignalId = signal.id := by
  unfold FamilyIncidentDatabase.loadFamilyIncidentContext at loaded
  split at loaded
  · cases loaded
  next incident found =>
    have passes := List.find?_some found
    simp only [Bool.and_eq_true, beq_iff_eq] at passes
    refine ⟨incident, List.mem_of_find?_eq_some found, passes.1, passes.2, ?_⟩
    dsimp only at loaded
    split_ifs at loaded with terminal unavailable unlinked missing foreign archived
    cases loaded
    refine ⟨rfl, fun signalId member => ?_⟩
    obtain ⟨signal, isSignal, rfl⟩ := List.mem_map.mp member
    obtain ⟨linked, live⟩ := List.mem_filter.mp isSignal
    have sameProfile : signal.protectedProfileId = incident.protectedProfileId := by
      by_contra other
      exact foreign (List.any_eq_true.mpr ⟨signal, linked, bne_iff_ne.mpr other⟩)
    obtain ⟨stored, passes⟩ := List.mem_filter.mp linked
    simp only [Bool.and_eq_true, List.contains_iff_mem, beq_iff_eq] at passes
    obtain ⟨link, isLink, same⟩ := List.mem_map.mp passes.1
    obtain ⟨linkStored, ofIncident⟩ := List.mem_filter.mp isLink
    simp only [Bool.and_eq_true, beq_iff_eq] at ofIncident
    exact ⟨signal, stored, rfl, passes.2, sameProfile, Option.isNone_iff_eq_none.mp live, link,
      linkStored, ofIncident.1, ofIncident.2, same⟩

theorem notifiedThrough_of_notified {userId : String}
    (notified : db.Notified tenantId incidentId userId) :
    ∃ incident membership relationship signal,
      db.NotifiedThrough tenantId incidentId userId incident membership relationship signal := by
  obtain ⟨context, loaded, membership, member, tenant, user, ⟨relationship, found, candidate,
    guardian⟩, signalId, linked, authorized⟩ := notified_iff.mp notified
  obtain ⟨incident, isIncident, sameId, sameTenant, profile, signals⟩ := context_spec loaded
  obtain ⟨signal, stored, rfl, ofTenant, sameProfile, live, isLinked⟩ := signals signalId linked
  simp only [GuardianRelationship.isCandidate, Bool.and_eq_true, beq_iff_eq,
    Option.isNone_iff_eq_none] at candidate
  obtain ⟨⟨⟨⟨ofSameTenant, ofProfile⟩, verified⟩, unrevoked⟩, unarchived⟩ := candidate
  exact ⟨incident, membership, relationship, signal, {
    incidentFound := ⟨isIncident, sameId, sameTenant⟩
    member := ⟨member, tenant, user⟩
    relationshipFound := ⟨found, ofSameTenant, guardian, ofProfile.trans profile⟩
    verified := ⟨verified, unrevoked, unarchived⟩
    signalLinked := ⟨stored, ofTenant, isLinked⟩
    signalLive := ⟨sameProfile, live⟩
    authorized := authorized }⟩

/-- A user is notified about an incident exactly if it may know of it, provided exactly that an
authorized user has a verified relationship; whoever is notified is so through one and through a
live signal of the incident's profile. -/
theorem notified_iff_visible (db : FamilyIncidentDatabase) (actor : FamilyActorContext)
    (incidentId : String) (family : actor.workspaceKind = .family)
    (single : db.SingleMembership actor.tenantId) :
    ((db.Notified actor.tenantId incidentId actor.userId ↔ db.Visible actor incidentId) ↔
        db.VerifiedBehind actor.tenantId incidentId actor.userId) ∧
      (db.Notified actor.tenantId incidentId actor.userId →
        ∃ incident membership relationship signal, db.NotifiedThrough actor.tenantId incidentId
          actor.userId incident membership relationship signal) := by
  refine ⟨?_, notifiedThrough_of_notified⟩
  rw [notified_iff, visible_iff family]
  constructor
  · intro agree context loaded membership member tenant user authorized
    have membershipId := actorMembershipId_eq_some single member tenant user
    obtain ⟨other, loadedToo, same, isMember, ofTenant, ofUser, relationship, _⟩ :=
      agree.mpr ⟨context, loaded, membership.id, membershipId, authorized⟩
    rw [loaded] at loadedToo
    cases loadedToo
    rw [single membership member same isMember tenant ofTenant (user.trans ofUser.symm)]
    exact relationship
  · intro verified
    constructor
    · rintro ⟨context, loaded, membership, member, tenant, user, _, authorized⟩
      exact ⟨context, loaded, membership.id,
        actorMembershipId_eq_some single member tenant user, authorized⟩
    · rintro ⟨context, loaded, membershipId, found, authorized⟩
      obtain ⟨membership, member, tenant, user, rfl⟩ := mem_of_actorMembershipId found
      exact ⟨context, loaded, membership, member, tenant, user,
        verified context loaded membership member tenant user authorized, authorized⟩

/-! A mother who is an authorized recipient, with a relationship that is verified or still
pending. -/

def motherAsGuardian (status : GuardianRelationshipStatus) : FamilyDatabase :=
  { motherIsRecipient with
    relationships := [⟨"mother", "family", "child", "m1", "parent", status, none, none⟩] }

def mothersIncident (status : GuardianRelationshipStatus) : FamilyIncidentDatabase where
  history := runHistory 1 (motherAsGuardian status) [decideFor "d1" []]
  protectionStatus := fun _ => .active
  incidents := [⟨"incident", "family", "child", .opened, false⟩]
  links := [⟨"family", "incident", "signal"⟩]

theorem mothersIncident_single (status : GuardianRelationshipStatus) :
    (mothersIncident status).SingleMembership "family" := by
  have memberships : (mothersIncident status).history.records.memberships =
      [⟨"m1", "family", "u1", .owner⟩] := by
    cases status <;> decide +kernel
  intro first isFirst second isSecond _ _ _
  rw [memberships, List.mem_singleton] at isFirst isSecond
  rw [isFirst, isSecond]

theorem notified_iff_visible_verified :
    (((mothersIncident .verified).Notified "family" "incident" "u1" ↔
          (mothersIncident .verified).Visible familyOwner "incident") ↔
        (mothersIncident .verified).VerifiedBehind "family" "incident" "u1") ∧
      ((mothersIncident .verified).Notified "family" "incident" "u1" →
        ∃ incident membership relationship signal,
          (mothersIncident .verified).NotifiedThrough "family" "incident" "u1" incident membership
            relationship signal) :=
  notified_iff_visible (mothersIncident .verified) familyOwner "incident" rfl
    (mothersIncident_single .verified)

/-- The mother whose relationship is pending sees the incident, and is not notified about it. -/
theorem visible_not_notified :
    ¬∀ (db : FamilyIncidentDatabase) (actor : FamilyActorContext) (incidentId : String),
      actor.workspaceKind = .family → db.SingleMembership actor.tenantId →
      (db.Notified actor.tenantId incidentId actor.userId ↔ db.Visible actor incidentId) := by
  intro claim
  have agree := claim (mothersIncident .pending) familyOwner "incident" rfl
    (mothersIncident_single .pending)
  have visible : (mothersIncident .pending).evaluateFamilyIncidentVisibilityTx familyOwner
      "incident" = .allowed "child" ["signal"] := by decide +kernel
  have nobody : (mothersIncident .pending).resolveIncidentRecipientUserIds "family" "incident"
      false = .ok [] := by decide +kernel
  obtain ⟨userIds, resolved, member⟩ := agree.mpr ⟨_, _, visible⟩
  have same := nobody.symm.trans resolved
  cases same
  cases member

end Tamanor.Db
