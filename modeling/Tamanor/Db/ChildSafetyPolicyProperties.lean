import Tamanor.Db.PolicyDefinitionHash
import Tamanor.Db.RecipientAuthorizationProperties

/-! The life of a policy over any interleaving of its operations: one version is active, what has
left the draft does not change, and what is active has been validated. It has the hash that is
recorded where no part of what was handed over is undefined. Whoever has approved an active version
has neither created nor submitted it. -/

set_option autoImplicit false

namespace Tamanor.Db

open Tamanor.Core Library Library.Interleaving

abbrev PolicySystem := System PolicyDatabase PolicyStage

abbrev PolicyAction := Action PolicyRequest PolicyChoice Empty

variable (sha256 : String → String)

abbrev policyStep : PolicySystem → PolicyAction → PolicySystem :=
  (policyProgram sha256).step

inductive PolicyStatusMove : ChildSafetyPolicyStatus → ChildSafetyPolicyStatus → Prop
  | submit : PolicyStatusMove .draft .pendingApproval
  | activate : PolicyStatusMove .pendingApproval .active
  | retire : PolicyStatusMove .active .retired
  | reject : PolicyStatusMove .pendingApproval .rejected

def hasPurpose (definition : JsonValue) (purpose : String) : Bool :=
  asText (definition.field? "purpose") == some purpose

/-- The definition is one that the validator has accepted, has the purpose of the policy and
the recorded hash. -/
def GovernedVersion (state : PolicyDatabase) (version : ChildSafetyPolicyVersion) : Prop :=
  ∃ (policy : ChildSafetyPolicy) (definition : PolicyDefinition),
    state.policies.find? version.policyId = some policy ∧
      acceptsDefinition definition.value = true ∧
      version.definitionJson = definition.column ∧
      hasPurpose version.definitionJson policy.purpose = true ∧
      version.definitionHash = definitionHashOf sha256 version.definitionJson

def OneActiveVersion (state : PolicyDatabase) : Prop :=
  ∀ first second version other, state.versions.find? first = some version →
    state.versions.find? second = some other → version.status = .active →
    other.status = .active → version.policyId = other.policyId → first = second

structure ActiveVersionsSound (sha256 : String → String) (state : PolicyDatabase) : Prop where
  one : OneActiveVersion state
  governed : ∀ versionId version, state.versions.find? versionId = some version →
    version.status = .active → GovernedVersion sha256 state version

def PolicyStage.isActivation : PolicyStage → Bool
  | .readingActivated _ _ | .readingApproval _ _ _ _ | .findingCurrent _ _ _ |
    .retiring _ _ _ _ | .promoting _ _ _ _ | .committing _ => true
  | _ => false

/-- What holds of a statement, from the database and the stage before it to those after it. -/
structure PolicyStatementKeeps (before after : PolicyDatabase) (stage next : PolicyStage) :
    Prop where
  lifecycle : ∀ versionId version, before.versions.find? versionId = some version →
    ∃ later, after.versions.find? versionId = some later ∧
      (later.status = version.status ∨ PolicyStatusMove version.status later.status) ∧
      (version.status ≠ .draft → later.definitionJson = version.definitionJson ∧
        later.definitionHash = version.definitionHash)
  drafted : ∀ versionId later, after.versions.find? versionId = some later →
    before.versions.find? versionId = none → later.status = .draft
  replaced : ∀ versionId version, before.versions.find? versionId = some version →
    version.status = .active → after.versions.find? versionId = some version ∨
      next = .ended (.activated (some versionId)) ∧
        ∃ successor later, after.versions.find? successor = some later ∧
          later.policyId = version.policyId ∧ later.status = .active
  failed : stage.isActivation = true → (∀ retired, next ≠ .ended (.activated retired)) →
    after.versions = before.versions

def PolicyStepKeeps (system : PolicySystem) (action : PolicyAction) : Prop :=
  (∀ call choice stage, action = .statement call choice → system.calls.find? call = some stage →
    PolicyStatementKeeps system.shared
      ((policyProgram sha256).statement system.shared call stage choice).1 stage
      ((policyProgram sha256).statement system.shared call stage choice).2) ∧
  ((∀ call choice, action ≠ .statement call choice) →
    (policyStep sha256 system action).shared = system.shared)

structure PolicyLifecycle (sha256 : String → String) (actions : List PolicyAction) : Prop where
  active : ∀ reached ∈ Runs.states (policyStep sha256) (System.initial .empty) actions,
    ActiveVersionsSound sha256 reached.shared
  steps : Runs.Meets (policyStep sha256) (PolicyStepKeeps sha256) (System.initial .empty) actions

def PolicyRequest.definition? : PolicyRequest → Option PolicyDefinition
  | .create _ input => some input.definition
  | .createVersion _ _ definition | .updateDraft _ _ definition => some definition
  | _ => none

def HandsOver (allowed : PolicyDefinition → Prop) (_ : PolicySystem) : PolicyAction → Prop
  | .enter _ request => ∀ definition ∈ request.definition?, allowed definition
  | _ => True

/-- No part of it is undefined, if the validator accepts it. -/
def PolicyDefinition.Written (definition : PolicyDefinition) : Prop :=
  acceptsDefinition definition.value = true → definition.value.written = true

/-- A version that is or was active has been approved by a member who has neither created nor
submitted nor edited it. -/
def TwoPersonControl (state : PolicyDatabase) : Prop :=
  ∀ versionId version, state.versions.find? versionId = some version →
    (version.status = .active ∨ version.status = .retired) →
    ∃ approvalId approval, state.approvals.find? approvalId = some approval ∧
      approval.policyVersionId = versionId ∧ approval.decision = .approved ∧
      approval.decidedByMembershipId ≠ version.createdByMembershipId ∧
      version.submittedByMembershipId ≠ some approval.decidedByMembershipId ∧
      (versionId, approval.decidedByMembershipId) ∉ state.edits

def PolicyStage.approvesOther (state : PolicyDatabase) : PolicyStage → Bool
  | .approving actor versionId _ => !state.edits.contains (versionId, actor.membershipId)
  | _ => true

def ApprovedByOthers (system : PolicySystem) : PolicyAction → Prop
  | .statement call _ =>
    ∀ stage, system.calls.find? call = some stage → stage.approvesOther system.shared = true
  | _ => True

structure VersionKept (version later : ChildSafetyPolicyVersion) : Prop where
  policyId : later.policyId = version.policyId
  createdBy : later.createdByMembershipId = version.createdByMembershipId
  moved : later.status = version.status ∨ PolicyStatusMove version.status later.status
  frozen : version.status ≠ .draft → later.definitionJson = version.definitionJson ∧
    later.definitionHash = version.definitionHash ∧
    later.submittedByMembershipId = version.submittedByMembershipId

theorem PolicyStatusMove.ne_draft {status later : ChildSafetyPolicyStatus}
    (move : PolicyStatusMove status later) : later ≠ .draft := by
  cases move with
  | submit | activate | retire | reject => decide

theorem VersionKept.refl (version : ChildSafetyPolicyVersion) : VersionKept version version :=
  ⟨rfl, rfl, .inl rfl, fun _ => ⟨rfl, rfl, rfl⟩⟩

theorem VersionKept.left_draft {version later : ChildSafetyPolicyVersion}
    (kept : VersionKept version later) (left : version.status ≠ .draft) :
    later.status ≠ .draft := by
  rcases kept.moved with same | move
  · rw [same]
    exact left
  · exact move.ne_draft

structure PolicyKept (call : Nat) (before after : PolicyDatabase) : Prop where
  policies : ∀ policyId policy, before.policies.find? policyId = some policy →
    after.policies.find? policyId = some policy
  versions : ∀ versionId version, before.versions.find? versionId = some version →
    ∃ later, after.versions.find? versionId = some later ∧ VersionKept version later
  approvals : ∀ approvalId approval, before.approvals.find? approvalId = some approval →
    after.approvals.find? approvalId = some approval
  edits : ∀ versionId version, before.versions.find? versionId = some version →
    version.status ≠ .draft → ∀ member, (versionId, member) ∈ after.edits →
      (versionId, member) ∈ before.edits
  others : ∀ other, other ≠ call → after.activations.find? other = before.activations.find? other

def HasApprovalOf (state : PolicyDatabase) (versionId : String)
    (version : ChildSafetyPolicyVersion) : Prop :=
  ∃ approvalId approval, state.approvals.find? approvalId = some approval ∧
    approval.policyVersionId = versionId ∧ approval.decision = .approved ∧
    approval.decidedByMembershipId ≠ version.createdByMembershipId

def ApprovedVersion (state : PolicyDatabase) (versionId policyId : String) : Prop :=
  ∃ version, state.versions.find? versionId = some version ∧ version.policyId = policyId ∧
    HasApprovalOf state versionId version

section Allowed

variable (allowed : PolicyDefinition → Prop)

def Accepted (definition : PolicyDefinition) : Prop :=
  allowed definition ∧ acceptsDefinition definition.value = true

def AcceptedFor (definition : PolicyDefinition) (purpose : String) : Prop :=
  Accepted allowed definition ∧ isText (memberOf definition.value "purpose") purpose = true

def AcceptedForPolicy (state : PolicyDatabase) (policyId : String)
    (definition : PolicyDefinition) : Prop :=
  ∃ policy, state.policies.find? policyId = some policy ∧
    AcceptedFor allowed definition policy.purpose

def StoredVersion (sha256 : String → String) (state : PolicyDatabase)
    (version : ChildSafetyPolicyVersion) : Prop :=
  ∃ (policy : ChildSafetyPolicy) (definition : PolicyDefinition),
    state.policies.find? version.policyId = some policy ∧ Accepted allowed definition ∧
      version.definitionJson = definition.column ∧
      hasPurpose version.definitionJson policy.purpose = true ∧
      version.definitionHash = definition.hash sha256

def PolicyStage.Knows (state : PolicyDatabase) (call : Nat) : PolicyStage → Prop
  | .lookingUpKey _ input | .creatingPolicy _ input =>
    AcceptedFor allowed input.definition input.purpose
  | .readingPolicy _ _ definition | .readingDraft _ _ definition => allowed definition
  | .readingLatest _ policyId definition | .insertingVersion _ policyId definition _ =>
    AcceptedForPolicy allowed state policyId definition
  | .readingDraftPolicy _ versionId policyId definition =>
    Accepted allowed definition ∧
      ∃ version, state.versions.find? versionId = some version ∧ version.policyId = policyId
  | .updatingDraft _ versionId definition =>
    ∃ version, state.versions.find? versionId = some version ∧
      AcceptedForPolicy allowed state version.policyId definition
  | .approving actor versionId _ =>
    ∃ version, state.versions.find? versionId = some version ∧ version.status ≠ .draft ∧
      actor.membershipId ≠ version.createdByMembershipId ∧
      version.submittedByMembershipId ≠ some actor.membershipId
  | .readingApproval _ versionId policyId creator =>
    ∃ version, state.versions.find? versionId = some version ∧ version.policyId = policyId ∧
      version.createdByMembershipId = creator
  | .findingCurrent _ versionId policyId => ApprovedVersion state versionId policyId
  | .retiring _ versionId policyId current =>
    ApprovedVersion state versionId policyId ∧
      ∃ version, state.versions.find? current = some version ∧ version.policyId = policyId
  | .promoting _ versionId policyId retired =>
    ApprovedVersion state versionId policyId ∧ ∀ current, retired = some current →
      state.activations.find? call = some ⟨policyId, some current, none⟩
  | .committing retired =>
    ∃ policyId promotion,
      state.activations.find? call = some ⟨policyId, retired, some promotion⟩
  | _ => True

end Allowed

section Kept

variable {allowed : PolicyDefinition → Prop} {call other : Nat} {before after : PolicyDatabase}

theorem HasApprovalOf.kept {versionId : String} {version later : ChildSafetyPolicyVersion}
    (approved : HasApprovalOf before versionId version) (kept : PolicyKept call before after)
    (same : later.createdByMembershipId = version.createdByMembershipId) :
    HasApprovalOf after versionId later := by
  obtain ⟨approvalId, approval, found, ofVersion, isApproved, decider⟩ := approved
  exact ⟨approvalId, approval, kept.approvals approvalId approval found, ofVersion, isApproved,
    same ▸ decider⟩

theorem ApprovedVersion.kept {versionId policyId : String}
    (approved : ApprovedVersion before versionId policyId)
    (kept : PolicyKept call before after) : ApprovedVersion after versionId policyId := by
  obtain ⟨version, found, ofPolicy, approval⟩ := approved
  obtain ⟨later, foundLater, same⟩ := kept.versions versionId version found
  exact ⟨later, foundLater, same.policyId.trans ofPolicy, approval.kept kept same.createdBy⟩

theorem AcceptedForPolicy.kept {policyId : String} {definition : PolicyDefinition}
    (accepted : AcceptedForPolicy allowed before policyId definition)
    (kept : PolicyKept call before after) :
    AcceptedForPolicy allowed after policyId definition := by
  obtain ⟨policy, found, fits⟩ := accepted
  exact ⟨policy, kept.policies policyId policy found, fits⟩

theorem PolicyStage.Knows.kept {stage : PolicyStage} (knows : stage.Knows allowed before other)
    (kept : PolicyKept call before after) (different : other ≠ call) :
    stage.Knows allowed after other := by
  cases stage with
  | lookingUpKey actor input | creatingPolicy actor input => exact knows
  | readingPolicy actor policyId definition => exact knows
  | readingDraft actor versionId definition => exact knows
  | readingLatest actor policyId definition => exact AcceptedForPolicy.kept knows kept
  | insertingVersion actor policyId definition versionNumber =>
    exact AcceptedForPolicy.kept knows kept
  | readingDraftPolicy actor versionId policyId definition =>
    obtain ⟨accepted, version, found, ofPolicy⟩ := knows
    obtain ⟨later, foundLater, same⟩ := kept.versions versionId version found
    exact ⟨accepted, later, foundLater, same.policyId.trans ofPolicy⟩
  | updatingDraft actor versionId definition =>
    obtain ⟨version, found, accepted⟩ := knows
    obtain ⟨later, foundLater, same⟩ := kept.versions versionId version found
    refine ⟨later, foundLater, ?_⟩
    rw [same.policyId]
    exact accepted.kept kept
  | approving actor versionId reasonCode =>
    obtain ⟨version, found, left, notCreator, notSubmitter⟩ := knows
    obtain ⟨later, foundLater, same⟩ := kept.versions versionId version found
    refine ⟨later, foundLater, same.left_draft left, ?_, ?_⟩
    · rw [same.createdBy]
      exact notCreator
    · rw [(same.frozen left).2.2]
      exact notSubmitter
  | readingApproval actor versionId policyId creator =>
    obtain ⟨version, found, ofPolicy, created⟩ := knows
    obtain ⟨later, foundLater, same⟩ := kept.versions versionId version found
    exact ⟨later, foundLater, same.policyId.trans ofPolicy, same.createdBy.trans created⟩
  | findingCurrent actor versionId policyId => exact ApprovedVersion.kept knows kept
  | retiring actor versionId policyId current =>
    obtain ⟨approved, version, found, ofPolicy⟩ := knows
    obtain ⟨later, foundLater, same⟩ := kept.versions current version found
    exact ⟨approved.kept kept, later, foundLater, same.policyId.trans ofPolicy⟩
  | promoting actor versionId policyId retired =>
    obtain ⟨approved, written⟩ := knows
    refine ⟨approved.kept kept, ?_⟩
    intro current same
    rw [kept.others other different]
    exact written current same
  | committing retired =>
    obtain ⟨policyId, promotion, written⟩ := knows
    exact ⟨policyId, promotion, (kept.others other different).trans written⟩
  | _ => exact trivial

end Kept

/-- An approval names a version that has left the draft, by neither its creator nor its
submitter. -/
def ApprovalSound (state : PolicyDatabase) (approval : ActivationApproval) : Prop :=
  approval.decision = .approved →
    ∃ version, state.versions.find? approval.policyVersionId = some version ∧
      version.status ≠ .draft ∧
      approval.decidedByMembershipId ≠ version.createdByMembershipId ∧
      version.submittedByMembershipId ≠ some approval.decidedByMembershipId

/-- The versions that an activation has written are as it has found them; the one that it
retires is the only active one when it promotes. -/
structure ActivationSound (state : PolicyDatabase) (activation : OpenActivation) : Prop where
  retired : ∀ versionId, activation.retired = some versionId →
    ∃ version, state.versions.find? versionId = some version ∧
      version.policyId = activation.policyId ∧ version.status = .active
  promoted : ∀ promotion, activation.promoted = some promotion →
    (∃ version, state.versions.find? promotion.versionId = some version ∧
      version.policyId = activation.policyId ∧ version.status = .pendingApproval ∧
      HasApprovalOf state promotion.versionId version) ∧
    ∀ versionId version, state.versions.find? versionId = some version →
      version.policyId = activation.policyId → version.status = .active →
      activation.retired = some versionId
  writes : activation.retired = none → activation.promoted ≠ none

structure PolicyInvariant (allowed : PolicyDefinition → Prop) (sha256 : String → String)
    (state : PolicyDatabase) : Prop where
  stored : ∀ versionId version, state.versions.find? versionId = some version →
    StoredVersion allowed sha256 state version
  one : OneActiveVersion state
  activations : ∀ call activation, state.activations.find? call = some activation →
    ActivationSound state activation
  exclusive : ∀ call other activation another, state.activations.find? call = some activation →
    state.activations.find? other = some another → activation.policyId = another.policyId →
    call = other
  approvals : ∀ approvalId approval, state.approvals.find? approvalId = some approval →
    ApprovalSound state approval
  approved : ∀ versionId version, state.versions.find? versionId = some version →
    (version.status = .active ∨ version.status = .retired) →
    HasApprovalOf state versionId version

theorem PolicyInvariant.empty (allowed : PolicyDefinition → Prop) (sha256 : String → String) :
    PolicyInvariant allowed sha256 .empty where
  stored := by rintro versionId version ⟨⟩
  one := by rintro first second version other ⟨⟩
  activations := by rintro call activation ⟨⟩
  exclusive := by rintro call other activation another ⟨⟩
  approvals := by rintro approvalId approval ⟨⟩
  approved := by rintro versionId version ⟨⟩

section Writes

variable {allowed : PolicyDefinition → Prop} {sha256 : String → String} {call other : Nat}
  {before after : PolicyDatabase} {version later : ChildSafetyPolicyVersion}
  {activation : OpenActivation} {versionId : String} {promotion : PolicyPromotion}

theorem StoredVersion.of_policies (isStored : StoredVersion allowed sha256 before version)
    (policies : ∀ policyId policy, before.policies.find? policyId = some policy →
      after.policies.find? policyId = some policy) (ofPolicy : later.policyId = version.policyId)
    (definition : later.definitionJson = version.definitionJson)
    (hash : later.definitionHash = version.definitionHash) :
    StoredVersion allowed sha256 after later := by
  obtain ⟨policy, accepted, found, valid, stored, purpose, hashed⟩ := isStored
  refine ⟨policy, accepted, ?_, valid, ?_, ?_, ?_⟩
  · rw [ofPolicy]
    exact policies _ policy found
  · rw [definition]
    exact stored
  · rw [definition]
    exact purpose
  · rw [hash]
    exact hashed

theorem ApprovalSound.kept {approval : ActivationApproval}
    (sound : ApprovalSound before approval) (kept : PolicyKept call before after) :
    ApprovalSound after approval := by
  intro isApproved
  obtain ⟨version, found, left, notCreator, notSubmitter⟩ := sound isApproved
  obtain ⟨later, foundLater, same⟩ := kept.versions _ version found
  refine ⟨later, foundLater, same.left_draft left, ?_, ?_⟩
  · rw [same.createdBy]
    exact notCreator
  · rw [(same.frozen left).2.2]
    exact notSubmitter

theorem ActivationSound.kept (sound : ActivationSound before activation)
    (kept : PolicyKept call before after)
    (unwritten : ∀ versionId version, before.versions.find? versionId = some version →
      version.policyId = activation.policyId → activation.writes versionId = true →
      after.versions.find? versionId = some version)
    (stood : ∀ versionId version, after.versions.find? versionId = some version →
      version.policyId = activation.policyId → version.status = .active →
      before.versions.find? versionId = some version) :
    ActivationSound after activation := by
  refine ⟨?_, ?_, sound.writes⟩
  · intro versionId isRetired
    obtain ⟨version, found, ofPolicy, active⟩ := sound.retired versionId isRetired
    have written : activation.writes versionId = true := by
      simp [OpenActivation.writes, isRetired]
    exact ⟨version, unwritten versionId version found ofPolicy written, ofPolicy, active⟩
  · intro promotion promoted
    obtain ⟨⟨version, found, ofPolicy, pending, approval⟩, only⟩ :=
      sound.promoted promotion promoted
    have written : activation.writes promotion.versionId = true := by
      simp [OpenActivation.writes, promoted]
    refine ⟨⟨version, unwritten _ version found ofPolicy written, ofPolicy, pending,
      approval.kept kept rfl⟩, ?_⟩
    intro versionId later foundLater ofSame active
    exact only versionId later (stood versionId later foundLater ofSame active) ofSame active

theorem PolicyKept.lifecycle (kept : PolicyKept call before after) (versionId : String)
    (version : ChildSafetyPolicyVersion) (found : before.versions.find? versionId = some version) :
    ∃ later, after.versions.find? versionId = some later ∧
      (later.status = version.status ∨ PolicyStatusMove version.status later.status) ∧
      (version.status ≠ .draft → later.definitionJson = version.definitionJson ∧
        later.definitionHash = version.definitionHash) := by
  obtain ⟨later, foundLater, same⟩ := kept.versions versionId version found
  exact ⟨later, foundLater, same.moved, fun left => ⟨(same.frozen left).1, (same.frozen left).2.1⟩⟩

theorem PolicyDefinition.distinct_json (definition : PolicyDefinition) : definition.json.distinct :=
  definition.value.distinct_roundTrip definition.distinct

theorem hasPurpose_column {definition : PolicyDefinition} {purpose : String}
    (fits : isText (memberOf definition.value "purpose") purpose = true) :
    hasPurpose definition.column purpose = true := by
  have named : memberOf definition.value "purpose" = .str purpose := by
    unfold isText at fits
    split at fits
    next other isOther => rw [isOther, eq_of_beq fits]
    next => cases fits
  have read : definition.json.field? "purpose" = some (.str purpose) := by
    unfold PolicyDefinition.json
    unfold memberOf at named
    split at named
    next fields isObject =>
      rw [isObject]
      cases found : fields.lookup "purpose" with
      | none =>
        rw [found] at named
        cases named
      | some value =>
        rw [found] at named
        cases named
        exact JsValue.lookup_roundTripFields found rfl
    next => cases named
  unfold hasPurpose PolicyDefinition.column
  rw [Json.field?_column definition.distinct_json, read]
  exact beq_self_eq_true _

theorem definitionHashOf_column (definition : PolicyDefinition)
    (written : definition.value.written = true) :
    definitionHashOf sha256 definition.column = definition.hash sha256 := by
  unfold definitionHashOf PolicyDefinition.column PolicyDefinition.hash
  rw [Json.stableStringify_column definition.distinct_json,
    JsValue.stableStringify_of_written definition.value written]
  unfold PolicyDefinition.json
  cases read : definition.value.roundTrip with
  | none =>
    cases isValue : definition.value with
    | undefined =>
      rw [isValue] at written
      cases written
    | _ =>
      rw [isValue] at read
      cases read
  | some json => rfl

theorem stored_of_accepted {definition : PolicyDefinition}
    (accepted : AcceptedForPolicy allowed before version.policyId definition)
    (stored : version.definitionJson = definition.column)
    (hashed : version.definitionHash = definition.hash sha256) :
    StoredVersion allowed sha256 before version := by
  obtain ⟨policy, found, valid, purpose⟩ := accepted
  refine ⟨policy, definition, found, valid, stored, ?_, hashed⟩
  rw [stored]
  exact hasPurpose_column purpose

theorem StoredVersion.governed
    (isStored : StoredVersion PolicyDefinition.Written sha256 before version) :
    GovernedVersion sha256 before version := by
  obtain ⟨policy, definition, found, ⟨written, accepted⟩, stored, purpose, hashed⟩ := isStored
  refine ⟨policy, definition, found, accepted, stored, purpose, ?_⟩
  rw [hashed, stored, definitionHashOf_column definition (written accepted)]

/-! What a statement does, by what it writes. -/

def PolicyStage.Approves (approval : ActivationApproval) : PolicyStage → Prop
  | .approving actor versionId _ =>
    approval.policyVersionId = versionId ∧ approval.decidedByMembershipId = actor.membershipId
  | _ => False

structure PolicyStatementSound (allowed : PolicyDefinition → Prop) (sha256 : String → String)
    (call : Nat) (before after : PolicyDatabase) (stage next : PolicyStage) : Prop where
  invariant : PolicyInvariant allowed sha256 after
  knows : next.Knows allowed after call
  kept : PolicyKept call before after
  keeps : PolicyStatementKeeps before after stage next
  added : ∀ approvalId approval, after.approvals.find? approvalId = some approval →
    approval.decision = .approved →
    before.approvals.find? approvalId = some approval ∨ stage.Approves approval

variable {stage next : PolicyStage}

theorem keeps_of_versions (same : after.versions = before.versions) :
    PolicyStatementKeeps before after stage next where
  lifecycle := by
    intro versionId version found
    rw [same]
    exact ⟨version, found, .inl rfl, fun _ => ⟨rfl, rfl⟩⟩
  drafted := by
    intro versionId later found absent
    rw [same, absent] at found
    cases found
  replaced := by
    intro versionId version found _
    rw [same]
    exact .inl found
  failed := fun _ _ => same

theorem PolicyKept.refl (call : Nat) (state : PolicyDatabase) : PolicyKept call state state where
  policies := fun _ _ found => found
  versions := fun _ version found => ⟨version, found, .refl version⟩
  approvals := fun _ _ found => found
  edits := fun _ _ _ _ _ member => member
  others := fun _ _ => rfl

section

variable (invariant : PolicyInvariant allowed sha256 before)
include invariant

theorem sound_reading (knows : next.Knows allowed before call) :
    PolicyStatementSound allowed sha256 call before before stage next :=
  ⟨invariant, knows, .refl call before, keeps_of_versions rfl, fun _ _ found _ => .inl found⟩

theorem sound_threw (error : PolicyError) :
    PolicyStatementSound allowed sha256 call before before stage (.threw error) :=
  sound_reading invariant trivial

theorem invariant_activations {activations : Table Nat OpenActivation}
    (sound : ∀ call activation, activations.find? call = some activation →
      ActivationSound before activation)
    (exclusive : ∀ call other activation another, activations.find? call = some activation →
      activations.find? other = some another → activation.policyId = another.policyId →
      call = other) :
    PolicyInvariant allowed sha256 { before with activations := activations } where
  stored := invariant.stored
  one := invariant.one
  activations := fun call activation found =>
    ⟨(sound call activation found).retired, (sound call activation found).promoted,
      (sound call activation found).writes⟩
  exclusive := exclusive
  approvals := invariant.approvals
  approved := invariant.approved

theorem invariant_rollback : PolicyInvariant allowed sha256 (before.rollback call) := by
  refine invariant_activations invariant ?_ ?_
  · intro other activation found
    exact invariant.activations other activation (Table.of_find?_deleteWhere found).1
  · intro first second activation another found foundOther same
    exact invariant.exclusive first second activation another
      (Table.of_find?_deleteWhere found).1 (Table.of_find?_deleteWhere foundOther).1 same

end

theorem find?_rollback (different : other ≠ call) :
    (before.rollback call).activations.find? other = before.activations.find? other := by
  change (before.activations.deleteWhere fun other _ => other == call).find? other = _
  rw [Table.find?_deleteWhere]
  have kept : (other == call) = false := beq_false_of_ne different
  cases before.activations.find? other with
  | none => rfl
  | some activation => simp [Option.filter, kept]

section

variable (invariant : PolicyInvariant allowed sha256 before)
include invariant

theorem sound_rollback (knows : next.Knows allowed (before.rollback call) call) :
    PolicyStatementSound allowed sha256 call before (before.rollback call) stage next :=
  ⟨invariant_rollback invariant, knows,
    { PolicyKept.refl call before with others := fun _ different => find?_rollback different },
    keeps_of_versions rfl, fun _ _ found _ => .inl found⟩

theorem sound_write (sound : ActivationSound before activation)
    (alone : ∀ other another, before.activations.find? other = some another →
      another.policyId = activation.policyId → other = call)
    (knows : next.Knows allowed (before.write call activation) call) :
    PolicyStatementSound allowed sha256 call before (before.write call activation) stage next := by
  have found (other : Nat) (another : OpenActivation)
      (isFound : (before.write call activation).activations.find? other = some another) :
      other = call ∧ another = activation ∨
        other ≠ call ∧ before.activations.find? other = some another := by
    change (before.activations.upsert call activation).find? other = _ at isFound
    rw [Table.find?_upsert] at isFound
    split at isFound
    next same => exact .inl ⟨same, (Option.some.inj isFound).symm⟩
    next different => exact .inr ⟨different, isFound⟩
  refine ⟨invariant_activations invariant ?_ ?_, knows, ?_, keeps_of_versions rfl,
    fun _ _ found _ => .inl found⟩
  · intro other another isFound
    rcases found other another isFound with ⟨_, rfl⟩ | ⟨_, earlier⟩
    · exact sound
    · exact invariant.activations other another earlier
  · intro first second one another isFirst isSecond same
    rcases found first one isFirst with ⟨rfl, rfl⟩ | ⟨_, earlierFirst⟩
    · rcases found second another isSecond with ⟨rfl, _⟩ | ⟨_, earlierSecond⟩
      · rfl
      · exact (alone second another earlierSecond same.symm).symm
    · rcases found second another isSecond with ⟨rfl, rfl⟩ | ⟨_, earlierSecond⟩
      · exact alone first one earlierFirst same
      · exact invariant.exclusive first second one another earlierFirst earlierSecond same
  · refine { PolicyKept.refl call before with others := ?_ }
    intro other different
    change (before.activations.upsert call activation).find? other = _
    rw [Table.find?_upsert, if_neg different]

theorem sound_approval {approvalId : String} {approval : ActivationApproval}
    (fresh : before.approvals.find? approvalId = none) (sound : ApprovalSound before approval)
    (records : stage.Approves approval)
    (knows : next.Knows allowed
      { before with approvals := before.approvals.insert approvalId approval } call) :
    PolicyStatementSound allowed sha256 call before
      { before with approvals := before.approvals.insert approvalId approval } stage next := by
  have kept : PolicyKept call before
      { before with approvals := before.approvals.insert approvalId approval } :=
    { PolicyKept.refl call before with
      approvals := fun _ _ found => Table.find?_insert_of_found fresh found }
  refine ⟨?_, knows, kept, keeps_of_versions rfl, ?_⟩
  rotate_left
  · intro id another found _
    rcases Table.of_find?_insert fresh found with ⟨_, rfl⟩ | ⟨_, earlier⟩
    · exact .inr records
    · exact .inl earlier
  refine ⟨invariant.stored, invariant.one, ?_, invariant.exclusive, ?_, ?_⟩
  · intro other activation found
    exact (invariant.activations other activation found).kept kept
      (fun _ _ found _ _ => found) (fun _ _ found _ _ => found)
  · intro id another found
    rcases Table.of_find?_insert fresh found with ⟨_, rfl⟩ | ⟨_, earlier⟩
    · exact sound
    · exact invariant.approvals id another earlier
  · intro versionId version found status
    exact (invariant.approved versionId version found status).kept kept rfl

theorem sound_draft {policies : Table String ChildSafetyPolicy} {answer : PolicyAnswer}
    (grown : ∀ policyId policy, before.policies.find? policyId = some policy →
      policies.find? policyId = some policy) (fresh : before.versions.find? versionId = none)
    (isDraft : version.status = .draft)
    (stored : StoredVersion allowed sha256 { before with policies := policies } version)
    (running : stage.isActivation = false) :
    PolicyStatementSound allowed sha256 call before
      { before with policies := policies, versions := before.versions.insert versionId version }
      stage (.ended answer) := by
  have kept : PolicyKept call before
      { before with policies := policies, versions := before.versions.insert versionId version } :=
    { PolicyKept.refl call before with
      policies := grown
      versions := fun _ stored found =>
        ⟨stored, Table.find?_insert_of_found fresh found, .refl stored⟩ }
  have notDraft (later : ChildSafetyPolicyVersion)
      (status : later.status = .active ∨ later.status = .retired) : later ≠ version := by
    rintro rfl
    rw [isDraft] at status
    rcases status with status | status <;> cases status
  refine ⟨⟨?_, ?_, ?_, invariant.exclusive, ?_, ?_⟩, trivial, kept, ?_,
    fun _ _ found _ => .inl found⟩
  · intro id later found
    rcases Table.of_find?_insert fresh found with ⟨_, rfl⟩ | ⟨_, earlier⟩
    · exact stored
    · exact (invariant.stored id later earlier).of_policies grown rfl rfl rfl
  · intro first second one another isFirst isSecond oneActive otherActive same
    rcases Table.of_find?_insert fresh isFirst with ⟨_, new⟩ | ⟨_, earlier⟩
    · exact absurd new (notDraft one (.inl oneActive))
    · rcases Table.of_find?_insert fresh isSecond with ⟨_, new⟩ | ⟨_, earlierSecond⟩
      · exact absurd new (notDraft another (.inl otherActive))
      · exact invariant.one first second one another earlier earlierSecond oneActive otherActive
          same
  · intro other activation found
    refine (invariant.activations other activation found).kept kept
      (fun _ _ found _ _ => Table.find?_insert_of_found fresh found) ?_
    intro id later found _ active
    rcases Table.of_find?_insert fresh found with ⟨_, new⟩ | ⟨_, stood⟩
    · exact absurd new (notDraft later (.inl active))
    · exact stood
  · intro approvalId approval found
    exact (invariant.approvals approvalId approval found).kept kept
  · intro id later found status
    rcases Table.of_find?_insert fresh found with ⟨_, new⟩ | ⟨_, earlier⟩
    · exact absurd new (notDraft later status)
    · exact (invariant.approved id later earlier status).kept kept rfl
  · refine ⟨kept.lifecycle, ?_, ?_, ?_⟩
    · intro id later found absent
      rcases Table.of_find?_insert fresh found with ⟨_, rfl⟩ | ⟨_, earlier⟩
      · exact isDraft
      · rw [absent] at earlier
        cases earlier
    · intro id stored found _
      exact .inl (Table.find?_insert_of_found fresh found)
    · intro activating
      rw [running] at activating
      cases activating

end

theorem not_written_of_unlocked (unlocked : before.locked versionId = false)
    (found : before.activations.find? other = some activation) :
    activation.writes versionId = false := by
  have each := List.any_eq_false.mp unlocked _ (Table.find?_eq_some_iff.mp found)
  simpa using each

theorem sound_version (change : ChildSafetyPolicyVersion → ChildSafetyPolicyVersion)
    {approvals : Table String ActivationApproval} {edits : List (String × String)}
    {answer : PolicyAnswer} (invariant : PolicyInvariant allowed sha256 before)
    (found : before.versions.find? versionId = some version)
    (unlocked : before.locked versionId = false) (changed : VersionKept version (change version))
    (stored : StoredVersion allowed sha256 before (change version))
    (inactive : version.status ≠ .active)
    (stays : (change version).status ≠ .active ∧ (change version).status ≠ .retired)
    (grown : ∀ approvalId approval, before.approvals.find? approvalId = some approval →
      approvals.find? approvalId = some approval)
    (rejects : ∀ approvalId approval, approvals.find? approvalId = some approval →
      before.approvals.find? approvalId = some approval ∨ approval.decision = .rejected)
    (edited : ∀ id member, (id, member) ∈ edits →
      (id, member) ∈ before.edits ∨ id = versionId ∧ version.status = .draft)
    (running : stage.isActivation = false) :
    PolicyStatementSound allowed sha256 call before
      { before with
        versions := before.versions.modify versionId change, approvals := approvals
        edits := edits }
      stage (.ended answer) := by
  have later (id : String) (stored : ChildSafetyPolicyVersion)
      (isFound : before.versions.find? id = some stored) (different : id ≠ versionId) :
      (before.versions.modify versionId change).find? id = some stored := by
    rw [Table.find?_modify, if_neg different]
    exact isFound
  have changedRow : (before.versions.modify versionId change).find? versionId =
      some (change version) := by
    rw [Table.find?_modify, if_pos rfl, found]
    rfl
  have earlier (id : String) (stored : ChildSafetyPolicyVersion)
      (isFound : (before.versions.modify versionId change).find? id = some stored) :
      id = versionId ∧ stored = change version ∨
        id ≠ versionId ∧ before.versions.find? id = some stored := by
    rw [Table.find?_modify] at isFound
    split at isFound
    next same =>
      subst same
      rw [found] at isFound
      exact .inl ⟨rfl, (Option.some.inj isFound).symm⟩
    next different => exact .inr ⟨different, isFound⟩
  have versionsKept (id : String) (stored : ChildSafetyPolicyVersion)
      (isFound : before.versions.find? id = some stored) :
      ∃ after, (before.versions.modify versionId change).find? id = some after ∧
        VersionKept stored after := by
    by_cases same : id = versionId
    · subst same
      rw [found] at isFound
      cases isFound
      exact ⟨change version, changedRow, changed⟩
    · exact ⟨stored, later id stored isFound same, .refl stored⟩
  have kept : PolicyKept call before
      { before with
        versions := before.versions.modify versionId change, approvals := approvals
        edits := edits } :=
    { PolicyKept.refl call before with
      versions := versionsKept
      approvals := grown
      edits := by
        intro id stored isFound left member isEdit
        rcases edited id member isEdit with earlierEdit | ⟨rfl, isDraft⟩
        · exact earlierEdit
        · rw [found] at isFound
          cases isFound
          exact absurd isDraft left }
  refine ⟨⟨?_, ?_, ?_, invariant.exclusive, ?_, ?_⟩, trivial, kept, ?_, ?_⟩
  · intro id stored isFound
    rcases earlier id stored isFound with ⟨_, rfl⟩ | ⟨_, stood⟩
    · exact stored
    · exact invariant.stored id stored stood
  · intro first second one another isFirst isSecond oneActive otherActive same
    rcases earlier first one isFirst with ⟨_, rfl⟩ | ⟨_, stoodFirst⟩
    · exact absurd oneActive stays.1
    · rcases earlier second another isSecond with ⟨_, rfl⟩ | ⟨_, stoodSecond⟩
      · exact absurd otherActive stays.1
      · exact invariant.one first second one another stoodFirst stoodSecond oneActive otherActive
          same
  · intro other activation isOpen
    refine (invariant.activations other activation isOpen).kept kept ?_ ?_
    · intro id stored isFound _ written
      refine later id stored isFound ?_
      rintro rfl
      rw [not_written_of_unlocked unlocked isOpen] at written
      cases written
    · intro id stored isFound _ active
      rcases earlier id stored isFound with ⟨_, rfl⟩ | ⟨_, stood⟩
      · exact absurd active stays.1
      · exact stood
  · intro approvalId approval isFound
    rcases rejects approvalId approval isFound with stood | rejected
    · exact (invariant.approvals approvalId approval stood).kept kept
    · intro isApproved
      rw [rejected] at isApproved
      cases isApproved
  · intro id stored isFound status
    rcases earlier id stored isFound with ⟨_, rfl⟩ | ⟨_, stood⟩
    · rcases status with active | retired
      · exact absurd active stays.1
      · exact absurd retired stays.2
    · exact (invariant.approved id stored stood status).kept kept rfl
  · refine ⟨kept.lifecycle, ?_, ?_, ?_⟩
    · intro id stored isFound absent
      rcases earlier id stored isFound with ⟨rfl, _⟩ | ⟨_, stood⟩
      · rw [found] at absent
        cases absent
      · rw [absent] at stood
        cases stood
    · intro id stored isFound active
      refine .inl (later id stored isFound ?_)
      rintro rfl
      rw [found] at isFound
      cases isFound
      exact inactive active
    · intro activating
      rw [running] at activating
      cases activating
  · intro approvalId approval isFound isApproved
    rcases rejects approvalId approval isFound with stood | rejected
    · exact .inl stood
    · rw [rejected] at isApproved
      cases isApproved

theorem find?_commit (promotes : activation.promoted = some promotion)
    (apart : activation.retired ≠ some promotion.versionId) (versionId : String) :
    (before.commit call activation).versions.find? versionId =
      (before.versions.find? versionId).map fun version =>
        if versionId = promotion.versionId then version.promote promotion activation.retired
        else if activation.retired = some versionId then version.retire
        else version := by
  unfold PolicyDatabase.commit
  rw [promotes]
  change (Table.modify _ promotion.versionId _).find? versionId = _
  rw [Table.find?_modify]
  cases retires : activation.retired with
  | none =>
    split
    next same => rfl
    next different => simp
  | some current =>
    rw [retires] at apart
    dsimp only [PolicyDatabase.modifyVersion]
    rw [Table.find?_modify]
    split
    next same =>
      have different : versionId ≠ current := by
        rintro rfl
        exact apart (congrArg some same)
      rw [if_neg different]
    next different =>
      by_cases isCurrent : versionId = current
      · subst isCurrent
        simp only [if_true]
      · have notCurrent : current ≠ versionId := fun same => isCurrent same.symm
        simp [isCurrent, notCurrent]

theorem commit_rest (before : PolicyDatabase) (call : Nat) (activation : OpenActivation) :
    (before.commit call activation).policies = before.policies ∧
      (before.commit call activation).approvals = before.approvals ∧
      (before.commit call activation).edits = before.edits ∧
      (before.commit call activation).activations =
        before.activations.deleteWhere fun other _ => other == call := by
  unfold PolicyDatabase.commit
  cases activation.retired <;> cases activation.promoted <;> exact ⟨rfl, rfl, rfl, rfl⟩

inductive Committed (activation : OpenActivation) (promotion : PolicyPromotion)
    (versionId : String) (version : ChildSafetyPolicyVersion) : ChildSafetyPolicyVersion → Prop
  | promoted : versionId = promotion.versionId → version.status = .pendingApproval →
      Committed activation promotion versionId version
        (version.promote promotion activation.retired)
  | retired : activation.retired = some versionId → version.status = .active →
      Committed activation promotion versionId version version.retire
  | kept : versionId ≠ promotion.versionId → activation.retired ≠ some versionId →
      Committed activation promotion versionId version version

theorem Committed.versionKept (committed : Committed activation promotion versionId version later) :
    VersionKept version later := by
  cases committed with
  | promoted isPromoted pending =>
    refine ⟨rfl, rfl, .inr ?_, fun _ => ⟨rfl, rfl, rfl⟩⟩
    rw [pending]
    exact .activate
  | retired isRetired active =>
    refine ⟨rfl, rfl, .inr ?_, fun _ => ⟨rfl, rfl, rfl⟩⟩
    rw [active]
    exact .retire
  | kept => exact .refl version

theorem Committed.of_active (committed : Committed activation promotion versionId version later)
    (active : later.status = .active) :
    versionId = promotion.versionId ∨ activation.retired ≠ some versionId ∧ later = version := by
  cases committed with
  | promoted isPromoted => exact .inl isPromoted
  | retired isRetired => cases active
  | kept _ notRetired => exact .inr ⟨notRetired, rfl⟩

theorem committed_of_open (call : Nat) (sound : ActivationSound before activation)
    (promotes : activation.promoted = some promotion) (versionId : String) :
    (∀ version, before.versions.find? versionId = some version →
      ∃ later, (before.commit call activation).versions.find? versionId = some later ∧
        Committed activation promotion versionId version later) ∧
    ∀ later, (before.commit call activation).versions.find? versionId = some later →
      ∃ version, before.versions.find? versionId = some version ∧
        Committed activation promotion versionId version later := by
  obtain ⟨⟨promotedVersion, foundPromoted, _, pending, _⟩, _⟩ := sound.promoted promotion promotes
  have apart : activation.retired ≠ some promotion.versionId := by
    intro isRetired
    obtain ⟨version, found, _, active⟩ := sound.retired _ isRetired
    rw [foundPromoted] at found
    cases found
    rw [pending] at active
    cases active
  have committed (version : ChildSafetyPolicyVersion)
      (found : before.versions.find? versionId = some version) :
      Committed activation promotion versionId version
        (if versionId = promotion.versionId then version.promote promotion activation.retired
        else if activation.retired = some versionId then version.retire
        else version) := by
    split
    next isPromoted =>
      subst isPromoted
      rw [foundPromoted] at found
      cases found
      exact .promoted rfl pending
    next notPromoted =>
      split
      next isRetired =>
        obtain ⟨stored, isFound, _, active⟩ := sound.retired _ isRetired
        rw [found] at isFound
        cases isFound
        exact .retired isRetired active
      next notRetired => exact .kept notPromoted notRetired
  constructor
  · intro version found
    refine ⟨_, ?_, committed version found⟩
    rw [find?_commit promotes apart, found]
    rfl
  · intro later found
    rw [find?_commit promotes apart] at found
    obtain ⟨version, isFound, rfl⟩ := Option.map_eq_some_iff.mp found
    exact ⟨version, isFound, committed version isFound⟩

section Commit

variable {activation : OpenActivation} {promotion : PolicyPromotion} {versionId : String}
  {version : ChildSafetyPolicyVersion}

theorem commit_kept (sound : ActivationSound before activation)
    (promotes : activation.promoted = some promotion) :
    PolicyKept call before (before.commit call activation) := by
  obtain ⟨policies, approvals, edits, activations⟩ := commit_rest before call activation
  refine ⟨?_, ?_, ?_, ?_, ?_⟩
  · intro policyId policy found
    rw [policies]
    exact found
  · intro versionId version found
    obtain ⟨after, isFound, committed⟩ :=
      (committed_of_open call sound promotes versionId).1 version found
    exact ⟨after, isFound, committed.versionKept⟩
  · intro approvalId stored found
    rw [approvals]
    exact found
  · intro versionId version _ _ member isEdit
    rw [edits] at isEdit
    exact isEdit
  · intro other different
    rw [activations]
    exact find?_rollback different

theorem commit_one (one : OneActiveVersion before) (sound : ActivationSound before activation)
    (promotes : activation.promoted = some promotion) :
    OneActiveVersion (before.commit call activation) := by
  obtain ⟨⟨promoted, foundPromoted, ofPolicy, _, _⟩, only⟩ := sound.promoted promotion promotes
  have earlier := fun versionId => (committed_of_open call sound promotes versionId).2
  intro first second after another isFirst isSecond oneActive otherActive same
  obtain ⟨oneBefore, stoodFirst, firstCommitted⟩ := earlier first after isFirst
  obtain ⟨otherBefore, stoodSecond, secondCommitted⟩ := earlier second another isSecond
  have samePolicy : oneBefore.policyId = otherBefore.policyId := by
    rw [← firstCommitted.versionKept.policyId, same, secondCommitted.versionKept.policyId]
  rcases firstCommitted.of_active oneActive with isPromoted | ⟨notRetired, rfl⟩
  · rcases secondCommitted.of_active otherActive with alsoPromoted | ⟨notRetired, rfl⟩
    · rw [isPromoted, alsoPromoted]
    · subst isPromoted
      rw [foundPromoted] at stoodFirst
      cases stoodFirst
      exact absurd (only second another stoodSecond (samePolicy ▸ ofPolicy) otherActive) notRetired
  · rcases secondCommitted.of_active otherActive with isPromoted | ⟨_, rfl⟩
    · subst isPromoted
      rw [foundPromoted] at stoodSecond
      cases stoodSecond
      exact absurd (only first after stoodFirst (samePolicy.trans ofPolicy) oneActive) notRetired
    · exact one first second after another stoodFirst stoodSecond oneActive otherActive samePolicy

section

variable (sound : ActivationSound before activation)
  (promotes : activation.promoted = some promotion)
include sound promotes

theorem commit_elsewhere (found : before.versions.find? versionId = some version)
    (different : version.policyId ≠ activation.policyId) :
    (before.commit call activation).versions.find? versionId = some version := by
  obtain ⟨after, foundAfter, committed⟩ :=
    (committed_of_open call sound promotes versionId).1 version found
  cases committed with
  | promoted isPromoted =>
    obtain ⟨⟨promoted, foundPromoted, ofPolicy, _, _⟩, _⟩ := sound.promoted promotion promotes
    subst isPromoted
    rw [foundPromoted] at found
    cases found
    exact absurd ofPolicy different
  | retired isRetired =>
    obtain ⟨stored, foundStored, storedOf, _⟩ := sound.retired versionId isRetired
    rw [found] at foundStored
    cases foundStored
    exact absurd storedOf different
  | kept => exact foundAfter

theorem commit_others {another : OpenActivation} (anotherSound : ActivationSound before another)
    (different : another.policyId ≠ activation.policyId) :
    ActivationSound (before.commit call activation) another := by
  refine anotherSound.kept (commit_kept sound promotes) ?_ ?_
  · intro versionId version found ofAnother _
    exact commit_elsewhere sound promotes found (ofAnother ▸ different)
  · intro versionId after foundAfter ofAnother _
    obtain ⟨version, stood, committed⟩ :=
      (committed_of_open call sound promotes versionId).2 after foundAfter
    have ofSame : version.policyId = another.policyId :=
      committed.versionKept.policyId.symm.trans ofAnother
    have same : (before.commit call activation).versions.find? versionId = some version :=
      commit_elsewhere sound promotes stood (ofSame ▸ different)
    rw [foundAfter] at same
    cases same
    exact stood

theorem commit_replaced (found : before.versions.find? versionId = some version)
    (active : version.status = .active) :
    (before.commit call activation).versions.find? versionId = some version ∨
      activation.retired = some versionId ∧
        ∃ successor later, (before.commit call activation).versions.find? successor = some later ∧
          later.policyId = version.policyId ∧ later.status = .active := by
  obtain ⟨⟨promoted, foundPromoted, ofPolicy, pending, _⟩, _⟩ := sound.promoted promotion promotes
  obtain ⟨after, foundAfter, committed⟩ :=
    (committed_of_open call sound promotes versionId).1 version found
  cases committed with
  | promoted _ isPending =>
    rw [active] at isPending
    cases isPending
  | kept => exact .inl foundAfter
  | retired isRetired =>
    obtain ⟨stored, foundStored, storedOf, _⟩ := sound.retired versionId isRetired
    rw [found] at foundStored
    cases foundStored
    obtain ⟨successor, foundSuccessor, committed⟩ :=
      (committed_of_open call sound promotes _).1 promoted foundPromoted
    refine .inr ⟨isRetired, promotion.versionId, successor, foundSuccessor, ?_, ?_⟩
    · rw [committed.versionKept.policyId, ofPolicy, storedOf]
    · cases committed with
      | promoted => rfl
      | retired _ promotedActive =>
        rw [pending] at promotedActive
        cases promotedActive
      | kept notPromoted => exact absurd rfl notPromoted

end

theorem Committed.approved {later : ChildSafetyPolicyVersion}
    (committed : Committed activation promotion versionId version later)
    (invariant : PolicyInvariant allowed sha256 before) (sound : ActivationSound before activation)
    (promotes : activation.promoted = some promotion)
    (found : before.versions.find? versionId = some version)
    (status : later.status = .active ∨ later.status = .retired) :
    HasApprovalOf before versionId version := by
  cases committed with
  | promoted isPromoted =>
    obtain ⟨⟨promoted, foundPromoted, _, _, approval⟩, _⟩ := sound.promoted promotion promotes
    subst isPromoted
    rw [foundPromoted] at found
    cases found
    exact approval
  | retired _ active => exact invariant.approved versionId version found (.inl active)
  | kept => exact invariant.approved versionId version found status

theorem sound_commit (invariant : PolicyInvariant allowed sha256 before)
    (isOpen : before.activations.find? call = some activation)
    (promotes : activation.promoted = some promotion) :
    PolicyStatementSound allowed sha256 call before (before.commit call activation) stage
      (.ended (.activated activation.retired)) := by
  have sound := invariant.activations call activation isOpen
  obtain ⟨_, approvals, _, activations⟩ := commit_rest before call activation
  have earlier := fun versionId => (committed_of_open call sound promotes versionId).2
  have kept : PolicyKept call before (before.commit call activation) := commit_kept sound promotes
  have openBefore (other : Nat) (another : OpenActivation)
      (found : (before.commit call activation).activations.find? other = some another) :
      before.activations.find? other = some another ∧ another.policyId ≠ activation.policyId := by
    rw [activations] at found
    obtain ⟨stood, notCall⟩ := Table.of_find?_deleteWhere found
    refine ⟨stood, ?_⟩
    intro same
    rw [invariant.exclusive other call another activation stood isOpen same,
      beq_self_eq_true] at notCall
    cases notCall
  refine ⟨⟨?_, commit_one invariant.one sound promotes, ?_, ?_, ?_, ?_⟩, trivial, kept,
    ⟨kept.lifecycle, ?_, ?_, ?_⟩, fun _ _ found _ => .inl (approvals ▸ found)⟩
  · intro versionId after found
    obtain ⟨version, stood, committed⟩ := earlier versionId after found
    have unchanged : after.definitionJson = version.definitionJson ∧
        after.definitionHash = version.definitionHash := by
      cases committed with
      | promoted | retired | kept => exact ⟨rfl, rfl⟩
    exact (invariant.stored versionId version stood).of_policies kept.policies
      committed.versionKept.policyId unchanged.1 unchanged.2
  · intro other another found
    obtain ⟨stood, different⟩ := openBefore other another found
    exact commit_others sound promotes (invariant.activations other another stood) different
  · intro first second one another isFirst isSecond same
    exact invariant.exclusive first second one another (openBefore first one isFirst).1
      (openBefore second another isSecond).1 same
  · intro approvalId stored found
    rw [approvals] at found
    exact (invariant.approvals approvalId stored found).kept kept
  · intro versionId after found status
    obtain ⟨version, stood, committed⟩ := earlier versionId after found
    exact (committed.approved invariant sound promotes stood status).kept kept
      committed.versionKept.createdBy
  · intro versionId after found absent
    obtain ⟨version, stood, _⟩ := earlier versionId after found
    rw [absent] at stood
    cases stood
  · intro versionId version found active
    rcases commit_replaced sound promotes found active with stays | ⟨isRetired, replaced⟩
    · exact .inl stays
    · exact .inr ⟨by rw [isRetired], replaced⟩
  · intro _ unended
    exact absurd rfl (unended activation.retired)

end Commit

end Writes

/-! What the checks of a call establish. -/

section Checks

variable {allowed : PolicyDefinition → Prop} {state : PolicyDatabase} {call : Nat}

theorem require_ok {test : Bool} {error : PolicyError} (passed : require test error = .ok ()) :
    test = true := by
  unfold require at passed
  split at passed
  next holds => exact holds
  · cases passed

theorem accepts_of_checkDefinition {definition : PolicyDefinition}
    (passed : checkDefinition definition = .ok ()) :
    acceptsDefinition definition.value = true := by
  unfold checkDefinition at passed
  split at passed
  · cases passed
  · split at passed
    · cases passed
    · exact require_ok passed

theorem after_knows {checked : Except PolicyError Unit} {stage : PolicyStage}
    (known : checked = .ok () → stage.Knows allowed state call) :
    (PolicyStage.after checked stage).Knows allowed state call := by
  unfold PolicyStage.after
  split
  · exact known rfl
  · exact trivial

theorem accepted_of_checkCreate {actor : PolicyActor} {input : CreatePolicyInput}
    (handed : allowed input.definition) (passed : checkCreate actor input = .ok ()) :
    AcceptedFor allowed input.definition input.purpose := by
  obtain ⟨_, _, passed⟩ := bind_eq_ok.mp passed
  obtain ⟨_, _, passed⟩ := bind_eq_ok.mp passed
  obtain ⟨_, _, passed⟩ := bind_eq_ok.mp passed
  obtain ⟨_, _, passed⟩ := bind_eq_ok.mp passed
  obtain ⟨_, accepted, purpose⟩ := bind_eq_ok.mp passed
  exact ⟨⟨handed, accepts_of_checkDefinition accepted⟩, require_ok purpose⟩

theorem knows_enter (request : PolicyRequest)
    (handed : ∀ definition ∈ request.definition?, allowed definition) :
    (enterPolicy state request).Knows allowed state call := by
  cases request with
  | create actor input =>
    exact after_knows fun passed => accepted_of_checkCreate (handed _ rfl) passed
  | createVersion actor policyId definition | updateDraft actor versionId definition =>
    exact after_knows fun _ => handed definition rfl
  | submit | approve | reject | activate => exact after_knows fun _ => trivial

variable {tenantId versionId : String}

theorem of_findPolicy {policyId : String} {policy : ChildSafetyPolicy}
    (found : state.findPolicy tenantId policyId = some policy) :
    state.policies.find? policyId = some policy :=
  (Option.filter_eq_some_iff.mp found).1

theorem of_findVersion {version : ChildSafetyPolicyVersion}
    (found : state.findVersion tenantId versionId = some version) :
    state.versions.find? versionId = some version :=
  (Option.filter_eq_some_iff.mp found).1

theorem of_guardedUpdate {status : ChildSafetyPolicyStatus} {version : ChildSafetyPolicyVersion}
    (found : state.guardedUpdate tenantId versionId status = .found version) :
    state.versions.find? versionId = some version ∧ version.status = status ∧
      state.locked versionId = false := by
  unfold PolicyDatabase.guardedUpdate at found
  split at found
  · cases found
  next stored isStored =>
    split at found
    next same =>
      split at found
      · cases found
      next unlocked =>
        cases found
        exact ⟨of_findVersion isStored, same, by simpa using unlocked⟩
    · cases found

theorem approval_of_hasApproval {creator : String}
    (approved : state.hasApproval tenantId versionId creator = true) :
    ∃ approvalId approval, state.approvals.find? approvalId = some approval ∧
      approval.policyVersionId = versionId ∧ approval.decision = .approved ∧
      approval.decidedByMembershipId ≠ creator := by
  obtain ⟨⟨approvalId, approval⟩, member, tested⟩ := List.any_eq_true.mp approved
  simp only [Bool.and_eq_true, beq_iff_eq, bne_iff_ne] at tested
  exact ⟨approvalId, approval, Table.find?_eq_some_iff.mpr member, tested.1.1.2, tested.1.2,
    tested.2⟩

theorem of_findActive {policyId current : String}
    (found : state.findActive tenantId policyId = some current) :
    ∃ version, state.versions.find? current = some version ∧ version.policyId = policyId := by
  obtain ⟨⟨versionId, version⟩, first, rfl⟩ := Option.map_eq_some_iff.mp found
  have tested := List.find?_some first
  simp only [Bool.and_eq_true, beq_iff_eq] at tested
  exact ⟨version, Table.find?_of_find?_rows first, tested.1.2⟩

end Checks

section Statements

variable {allowed : PolicyDefinition → Prop} {sha256 : String → String} {call : Nat}
  {state : PolicyDatabase} {first second : String} {now : Int}

/-- What holds of the outcome of a statement. -/
abbrev PolicyOutcomeSound (allowed : PolicyDefinition → Prop) (sha256 : String → String)
    (call : Nat) (state : PolicyDatabase) (stage : PolicyStage)
    (outcome : PolicyDatabase × PolicyStage) : Prop :=
  PolicyStatementSound allowed sha256 call state outcome.1 stage outcome.2

variable {versionId policyId : String} {stage : PolicyStage} {actor : PolicyActor}

section

variable (invariant : PolicyInvariant allowed sha256 state)
include invariant

theorem sound_readingVersion {tenantId : String} {next : ChildSafetyPolicyVersion → PolicyStage}
    (knows : ∀ version, state.versions.find? versionId = some version →
      (next version).Knows allowed state call) :
    PolicyOutcomeSound allowed sha256 call state stage (state.reading tenantId versionId next) := by
  unfold PolicyDatabase.reading
  split
  · exact sound_threw invariant _
  next version found => exact sound_reading invariant (knows version (of_findVersion found))

theorem createPolicy_sound {input : CreatePolicyInput}
    (accepted : AcceptedFor allowed input.definition input.purpose) :
    PolicyOutcomeSound allowed sha256 call state (.creatingPolicy actor input)
      (state.writing (state.createPolicy sha256 actor input first second)
        (.created first second)) := by
  unfold PolicyDatabase.writing
  split
  · exact sound_threw invariant _
  next after created =>
    obtain ⟨between, inserted, drafted⟩ := Option.bind_eq_some_iff.mp created
    unfold PolicyDatabase.insertPolicy at inserted
    split at inserted
    next free =>
      cases inserted
      unfold PolicyDatabase.insertVersion at drafted
      split at drafted
      next allowed =>
        cases drafted
        rw [Bool.and_eq_true, Option.isNone_iff_eq_none] at free
        unfold PolicyDatabase.canInsertVersion at allowed
        rw [Bool.and_eq_true, Bool.and_eq_true, Option.isNone_iff_eq_none] at allowed
        refine sound_draft invariant ?_ allowed.1.1 rfl ?_ rfl
        · intro policyId policy found
          exact Table.find?_insert_of_found free.1 found
        · refine stored_of_accepted ⟨createdPolicy actor input, ?_, accepted⟩ rfl rfl
          exact Table.find?_insert_self free.1
      · cases drafted
    · cases inserted

theorem insertingVersion_sound {definition : PolicyDefinition} {versionNumber : Nat}
    (accepted : AcceptedForPolicy allowed state policyId definition) :
    PolicyOutcomeSound allowed sha256 call state
      (.insertingVersion actor policyId definition versionNumber)
      (state.writing
        (state.insertVersion first (draftVersion sha256 actor policyId versionNumber definition))
        (.versionCreated first versionNumber)) := by
  unfold PolicyDatabase.writing
  split
  · exact sound_threw invariant _
  next after inserted =>
    unfold PolicyDatabase.insertVersion at inserted
    split at inserted
    next allowed =>
      cases inserted
      unfold PolicyDatabase.canInsertVersion at allowed
      rw [Bool.and_eq_true, Bool.and_eq_true, Option.isNone_iff_eq_none] at allowed
      exact sound_draft invariant (fun _ _ found => found) allowed.1.1 rfl
        (stored_of_accepted accepted rfl rfl) rfl
    · cases inserted

theorem updatingDraft_sound {definition : PolicyDefinition}
    (knows : (PolicyStage.updatingDraft actor versionId definition).Knows allowed state call) :
    PolicyOutcomeSound allowed sha256 call state (.updatingDraft actor versionId definition)
      (runPolicyStatement sha256 state call first second now
        (.updatingDraft actor versionId definition)) := by
  unfold runPolicyStatement
  dsimp only
  split
  · exact sound_reading invariant knows
  · exact sound_threw invariant _
  next version guarded =>
    obtain ⟨found, isDraft, unlocked⟩ := of_guardedUpdate guarded
    obtain ⟨stored, isStored, accepted⟩ := knows
    rw [found] at isStored
    cases isStored
    have changed : VersionKept version (version.edit sha256 definition) :=
      ⟨rfl, rfl, .inl rfl, fun left => absurd isDraft left⟩
    have stored : StoredVersion allowed sha256 state (version.edit sha256 definition) :=
      stored_of_accepted accepted rfl rfl
    have inactive : version.status ≠ .active ∧ version.status ≠ .retired := by
      rw [isDraft]
      decide
    refine sound_version (ChildSafetyPolicyVersion.edit sha256 definition) invariant found unlocked
      changed stored inactive.1 inactive (fun _ _ stands => stands)
      (fun _ _ stands => .inl stands) ?_ rfl
    intro id member isEdit
    rcases List.mem_cons.mp isEdit with new | earlier
    · cases new
      exact .inr ⟨rfl, isDraft⟩
    · exact .inl earlier

theorem submitting_sound :
    PolicyOutcomeSound allowed sha256 call state (.submitting actor versionId)
      (runPolicyStatement sha256 state call first second now (.submitting actor versionId)) := by
  unfold runPolicyStatement
  dsimp only
  split
  · exact sound_reading invariant trivial
  · exact sound_threw invariant _
  next version guarded =>
    obtain ⟨found, isDraft, unlocked⟩ := of_guardedUpdate guarded
    have inactive : version.status ≠ .active := by
      rw [isDraft]
      decide
    have changed : VersionKept version (version.submit actor now) := by
      refine ⟨rfl, rfl, .inr ?_, fun left => absurd isDraft left⟩
      rw [isDraft]
      exact .submit
    exact sound_version (ChildSafetyPolicyVersion.submit actor now) invariant found unlocked changed
      ((invariant.stored versionId version found).of_policies (fun _ _ stands => stands)
        rfl rfl rfl)
      inactive ⟨nofun, nofun⟩ (fun _ _ stands => stands) (fun _ _ stands => .inl stands)
      (fun _ _ stands => .inl stands) rfl

theorem approving_sound {reasonCode : Option String}
    (knows : (PolicyStage.approving actor versionId reasonCode).Knows allowed state call) :
    PolicyOutcomeSound allowed sha256 call state (.approving actor versionId reasonCode)
      (runPolicyStatement sha256 state call first second now
        (.approving actor versionId reasonCode)) := by
  unfold runPolicyStatement PolicyDatabase.writing
  dsimp only
  split
  · exact sound_threw invariant _
  next after inserted =>
    unfold PolicyDatabase.insertApproval at inserted
    split at inserted
    next free =>
      cases inserted
      rw [Bool.and_eq_true, Option.isNone_iff_eq_none] at free
      exact sound_approval invariant free.1 (fun _ => knows) ⟨rfl, rfl⟩ trivial
    · cases inserted

theorem rejecting_sound {reasonCode : String} :
    PolicyOutcomeSound allowed sha256 call state (.rejecting actor versionId reasonCode)
      (runPolicyStatement sha256 state call first second now
        (.rejecting actor versionId reasonCode)) := by
  unfold runPolicyStatement
  dsimp only
  split
  · exact sound_reading invariant trivial
  · exact sound_threw invariant _
  next version guarded =>
    obtain ⟨found, pending, unlocked⟩ := of_guardedUpdate guarded
    unfold PolicyDatabase.writing
    split
    · exact sound_threw invariant _
    next after inserted =>
      unfold PolicyDatabase.insertApproval at inserted
      split at inserted
      next free =>
        cases inserted
        rw [Bool.and_eq_true, Option.isNone_iff_eq_none] at free
        have inactive : version.status ≠ .active := by
          rw [pending]
          decide
        have changed : VersionKept version (version.reject actor reasonCode now) := by
          refine ⟨rfl, rfl, .inr ?_, fun _ => ⟨rfl, rfl, rfl⟩⟩
          rw [pending]
          exact .reject
        refine sound_version (ChildSafetyPolicyVersion.reject actor reasonCode now) invariant found
          unlocked changed
          ((invariant.stored versionId version found).of_policies (fun _ _ stands => stands)
            rfl rfl rfl)
          inactive ⟨nofun, nofun⟩ ?_ ?_ (fun _ _ stands => .inl stands) rfl
        · intro approvalId approval stands
          exact Table.find?_insert_of_found free.1 stands
        · intro approvalId approval isFound
          rcases Table.of_find?_insert free.1 isFound with ⟨_, rfl⟩ | ⟨_, stands⟩
          · exact .inr rfl
          · exact .inl stands
      · cases inserted

theorem retiring_sound {current : String}
    (knows : (PolicyStage.retiring actor versionId policyId current).Knows allowed state call) :
    PolicyOutcomeSound allowed sha256 call state (.retiring actor versionId policyId current)
      (runPolicyStatement sha256 state call first second now
        (.retiring actor versionId policyId current)) := by
  unfold runPolicyStatement
  dsimp only
  split
  · exact sound_reading invariant knows
  · exact sound_rollback invariant trivial
  next version guarded =>
    obtain ⟨found, active, unlocked⟩ := of_guardedUpdate guarded
    obtain ⟨approved, stored, isStored, ofPolicy⟩ := knows
    rw [found] at isStored
    cases isStored
    refine sound_write invariant ⟨?_, nofun, nofun⟩ ?_ ⟨approved, ?_⟩
    · intro id isRetired
      cases isRetired
      exact ⟨version, found, ofPolicy, active⟩
    · intro other another isOpen same
      have unwritten := not_written_of_unlocked unlocked isOpen
      unfold OpenActivation.writes at unwritten
      rw [Bool.or_eq_false_iff] at unwritten
      have sound := invariant.activations other another isOpen
      cases retires : another.retired with
      | some id =>
        obtain ⟨earlier, isEarlier, earlierOf, earlierActive⟩ := sound.retired id retires
        have sameVersion := invariant.one id current earlier version isEarlier found earlierActive
          active (earlierOf.trans (same.trans ofPolicy.symm))
        rw [retires, sameVersion, beq_self_eq_true] at unwritten
        cases unwritten.1
      | none =>
        cases promotes : another.promoted with
        | some promotion =>
          have only := (sound.promoted promotion promotes).2 current version found
            (ofPolicy.trans same.symm) active
          rw [retires] at only
          cases only
        | none => exact absurd promotes (sound.writes retires)
    · intro id same
      cases same
      change (state.activations.upsert call _).find? call = _
      rw [Table.find?_upsert, if_pos rfl]

theorem promoting_sound {retired : Option String}
    (knows : (PolicyStage.promoting actor versionId policyId retired).Knows allowed state call) :
    PolicyOutcomeSound allowed sha256 call state (.promoting actor versionId policyId retired)
      (runPolicyStatement sha256 state call first second now
        (.promoting actor versionId policyId retired)) := by
  unfold runPolicyStatement PolicyDatabase.promoting
  dsimp only
  obtain ⟨⟨stored, isStored, ofPolicy, approval⟩, written⟩ := knows
  split
  · exact sound_rollback invariant trivial
  next version isFound =>
    have found := of_findVersion isFound
    rw [isStored] at found
    cases found
    split
    · exact sound_rollback invariant trivial
    next pending =>
      split
      · exact sound_reading invariant ⟨⟨stored, isStored, ofPolicy, approval⟩, written⟩
      next undoubted =>
        split
        · exact sound_rollback invariant trivial
        next none =>
          refine sound_write invariant ⟨?_, ?_, nofun⟩ ?_
            ⟨policyId, ⟨versionId, actor.membershipId, now⟩, ?_⟩
          · intro current isRetired
            exact (invariant.activations call _ (written current isRetired)).retired current rfl
          · intro promotion promotes
            cases promotes
            refine ⟨⟨stored, isStored, ofPolicy, not_not.mp pending, approval⟩, ?_⟩
            intro id version isVersion sameP active
            by_contra notRetired
            refine none (List.any_eq_true.mpr ⟨(id, version),
              Table.find?_eq_some_iff.mp isVersion, ?_⟩)
            have same : version.policyId = policyId := sameP
            have differs : retired ≠ some id := notRetired
            simp [same, active, differs]
          · intro other another isOpen same
            by_contra different
            refine undoubted (List.any_eq_true.mpr ⟨(other, another),
              Table.find?_eq_some_iff.mp isOpen, ?_⟩)
            have samePolicy : another.policyId = policyId := same
            simp [different, samePolicy]
          · change (state.activations.upsert call _).find? call = _
            rw [Table.find?_upsert, if_pos rfl]

theorem committing_sound {retired : Option String}
    (knows : (PolicyStage.committing retired).Knows allowed state call) :
    PolicyOutcomeSound allowed sha256 call state (.committing retired)
      (runPolicyStatement sha256 state call first second now (.committing retired)) := by
  obtain ⟨policyId, promotion, isOpen⟩ := knows
  unfold runPolicyStatement
  dsimp only
  rw [isOpen]
  exact sound_commit invariant isOpen rfl

theorem runPolicyStatement_sound (knows : stage.Knows allowed state call) :
    PolicyOutcomeSound allowed sha256 call state stage
      (runPolicyStatement sha256 state call first second now stage) := by
  cases stage with
  | lookingUpKey actor input =>
    unfold runPolicyStatement
    dsimp only
    split
    · exact sound_threw invariant _
    · exact sound_reading invariant knows
  | creatingPolicy actor input => exact createPolicy_sound invariant knows
  | readingPolicy actor policyId definition =>
    unfold runPolicyStatement
    dsimp only
    split
    · exact sound_threw invariant _
    next policy found =>
      refine sound_reading invariant (after_knows fun passed => ?_)
      obtain ⟨_, accepted, purpose⟩ := bind_eq_ok.mp passed
      exact ⟨policy, of_findPolicy found, ⟨knows, accepts_of_checkDefinition accepted⟩,
        require_ok purpose⟩
  | readingLatest actor policyId definition => exact sound_reading invariant knows
  | insertingVersion actor policyId definition versionNumber =>
    exact insertingVersion_sound invariant knows
  | readingDraft actor versionId definition =>
    refine sound_readingVersion invariant fun version found => after_knows fun passed => ?_
    obtain ⟨_, _, accepted⟩ := bind_eq_ok.mp passed
    exact ⟨⟨knows, accepts_of_checkDefinition accepted⟩, version, found, rfl⟩
  | readingDraftPolicy actor versionId policyId definition =>
    unfold runPolicyStatement
    dsimp only
    split
    · exact sound_threw invariant _
    next policy found =>
      obtain ⟨accepted, version, isVersion, ofPolicy⟩ := knows
      refine sound_reading invariant (after_knows fun passed => ⟨version, isVersion, policy, ?_,
        accepted, require_ok passed⟩)
      rw [ofPolicy]
      exact of_findPolicy found
  | updatingDraft actor versionId definition => exact updatingDraft_sound invariant knows
  | readingSubmitted actor versionId =>
    exact sound_readingVersion invariant fun _ _ => after_knows fun _ => trivial
  | submitting actor versionId => exact submitting_sound invariant
  | readingApproved actor versionId reasonCode =>
    refine sound_readingVersion invariant fun version found => after_knows fun passed => ?_
    obtain ⟨_, pending, persons⟩ := bind_eq_ok.mp passed
    have isPending : version.status = .pendingApproval := eq_of_beq (require_ok pending)
    have two := require_ok persons
    rw [Bool.and_eq_true, bne_iff_ne, bne_iff_ne] at two
    refine ⟨version, found, ?_, two⟩
    rw [isPending]
    decide
  | approving actor versionId reasonCode => exact approving_sound invariant knows
  | readingRejected actor versionId reasonCode =>
    exact sound_readingVersion invariant fun _ _ => after_knows fun _ => trivial
  | rejecting actor versionId reasonCode => exact rejecting_sound invariant
  | readingActivated actor versionId =>
    exact sound_readingVersion invariant fun version found => after_knows fun _ =>
      ⟨version, found, rfl, rfl⟩
  | readingApproval actor versionId policyId creator =>
    refine sound_reading invariant (after_knows fun passed => ?_)
    obtain ⟨version, found, ofPolicy, created⟩ := knows
    refine ⟨version, found, ofPolicy, ?_⟩
    obtain ⟨approvalId, approval, isFound, ofVersion, isApproved, decider⟩ :=
      approval_of_hasApproval (require_ok passed)
    exact ⟨approvalId, approval, isFound, ofVersion, isApproved, created ▸ decider⟩
  | findingCurrent actor versionId policyId =>
    unfold runPolicyStatement
    dsimp only
    split
    · exact sound_reading invariant ⟨knows, nofun⟩
    next current found => exact sound_reading invariant ⟨knows, of_findActive found⟩
  | retiring actor versionId policyId current => exact retiring_sound invariant knows
  | promoting actor versionId policyId retired => exact promoting_sound invariant knows
  | committing retired => exact committing_sound invariant knows
  | ended answer => exact sound_reading invariant trivial

end

theorem policyStatement_sound (choice : PolicyChoice)
    (invariant : PolicyInvariant allowed sha256 state) (knows : stage.Knows allowed state call) :
    PolicyOutcomeSound allowed sha256 call state stage
      ((policyProgram sha256).statement state call stage choice) := by
  cases choice with
  | runs first second now => exact runPolicyStatement_sound invariant knows
  | fails =>
    refine sound_rollback invariant ?_
    cases stage <;> exact trivial

end Statements

section Runs

variable (allowed : PolicyDefinition → Prop) (sha256 : String → String)

def policyAssertions : Assertions PolicyDatabase PolicyStage where
  invariant := PolicyInvariant allowed sha256
  assertion := fun state call entered =>
    ∀ stage, entered = some stage → stage.Knows allowed state call

theorem policyAssertions_sound :
    (policyAssertions allowed sha256).Sound (policyProgram sha256) (HandsOver allowed) where
  enter := by
    intro system call request _ handed _ stage entered
    cases entered
    exact knows_enter request handed
  statement := by
    intro system call stage choice holds _ found
    have sound := policyStatement_sound choice holds.invariant (holds.at_stage found stage rfl)
    refine ⟨sound.invariant, ?_⟩
    intro next same
    cases same
    exact sound.knows
  undisturbed := by
    intro system call stage choice other holds _ found different next standing
    have sound := policyStatement_sound choice holds.invariant (holds.at_stage found stage rfl)
    exact (holds.assertion other next standing).kept sound.kept different
  occur := by
    intro system event holds _
    exact ⟨holds.invariant, holds.assertion⟩

theorem policyAssertions_initial : (policyAssertions allowed sha256).Hold (System.initial .empty) :=
  Assertions.Hold.initial (.empty allowed sha256) fun _ _ absent => by cases absent

theorem handsOver_true (system : PolicySystem) (action : PolicyAction) :
    HandsOver (fun _ => True) system action := by
  cases action with
  | enter call request => exact fun _ _ => trivial
  | statement | occur => exact trivial

theorem policyInvariant_states {allowed : PolicyDefinition → Prop} {actions : List PolicyAction}
    (handed : Runs.Meets (policyStep sha256) (HandsOver allowed) (System.initial .empty) actions) :
    ∀ reached ∈ Runs.states (policyStep sha256) (System.initial .empty) actions,
      PolicyInvariant allowed sha256 reached.shared :=
  fun reached member => ((policyAssertions_sound allowed sha256).states
    (policyAssertions_initial allowed sha256) handed reached member).invariant

theorem policySteps_keep (actions : List PolicyAction) :
    Runs.Meets (policyStep sha256) (PolicyStepKeeps sha256) (System.initial .empty) actions := by
  have any : Runs.Meets (policyStep sha256) (HandsOver fun _ => True) (System.initial .empty)
      actions :=
    Runs.Meets.of_invariant (fun (_ : True) _ => trivial) (fun _ _ => handsOver_true _ _) trivial
      (Runs.meets_true actions)
  refine (policyAssertions_sound _ sha256).meets ?_ (policyAssertions_initial _ sha256) any
  intro system action holds _
  constructor
  · intro call choice stage isStatement found
    exact (policyStatement_sound choice holds.invariant (holds.at_stage found stage rfl)).keeps
  · intro notStatement
    cases action with
    | enter call request => rfl
    | statement call choice => exact absurd rfl (notStatement call choice)
    | occur event => rfl

end Runs

/-- Any interleaving of the operations keeps to the life of a policy, where no part of what is
handed over is undefined. -/
theorem childSafetyPolicy_lifecycle (sha256 : String → String) (actions : List PolicyAction)
    (written : Runs.Meets (policyStep sha256) (HandsOver PolicyDefinition.Written)
      (System.initial .empty) actions) :
    PolicyLifecycle sha256 actions := by
  refine ⟨?_, policySteps_keep sha256 actions⟩
  intro reached member
  have invariant := policyInvariant_states sha256 written reached member
  refine ⟨invariant.one, ?_⟩
  intro versionId version found _
  exact (invariant.stored versionId version found).governed

/-! Approvals by members who have not edited. -/

def ApprovedByNonEditors (state : PolicyDatabase) : Prop :=
  ∀ approvalId approval, state.approvals.find? approvalId = some approval →
    approval.decision = .approved →
    (approval.policyVersionId, approval.decidedByMembershipId) ∉ state.edits

theorem approvedByNonEditors_step {sha256 : String → String} {system : PolicySystem}
    {action : PolicyAction} (holds : (policyAssertions (fun _ => True) sha256).Hold system)
    (approved : ApprovedByNonEditors system.shared) (others : ApprovedByOthers system action) :
    ApprovedByNonEditors (policyStep sha256 system action).shared := by
  cases action with
  | enter call request => exact approved
  | occur event => exact approved
  | statement call choice =>
    cases found : system.calls.find? call with
    | none =>
      rw [policyStep, Program.step_absent found]
      exact approved
    | some stage =>
      have knows := holds.at_stage found stage rfl
      have sound := policyStatement_sound choice holds.invariant knows
      rw [policyStep, Program.step_statement found]
      intro approvalId approval isFound isApproved isEdit
      rcases sound.added approvalId approval isFound isApproved with stood | records
      · obtain ⟨version, isVersion, left, _⟩ :=
          holds.invariant.approvals approvalId approval stood isApproved
        exact approved approvalId approval stood isApproved
          (sound.kept.edits _ version isVersion left _ isEdit)
      · cases stage with
        | approving actor versionId reasonCode =>
          obtain ⟨rfl, decider⟩ := records
          obtain ⟨version, isVersion, left, _⟩ := knows
          have earlier := sound.kept.edits _ version isVersion left _ isEdit
          rw [decider] at earlier
          have unedited := others _ found
          simp [PolicyStage.approvesOther, earlier] at unedited
        | _ => exact records

/-- Where nobody approves a version whose draft they have edited, a version that has been
activated has been approved by a member who had no part in it. -/
theorem twoPersonControl_of_approvedByOthers (sha256 : String → String)
    (actions : List PolicyAction)
    (others : Runs.Meets (policyStep sha256) ApprovedByOthers (System.initial .empty) actions) :
    ∀ reached ∈ Runs.states (policyStep sha256) (System.initial .empty) actions,
      TwoPersonControl reached.shared := by
  have sound := policyAssertions_sound (fun _ => True) sha256
  have invariant : ∀ reached ∈ Runs.states (policyStep sha256) (System.initial .empty) actions,
      (policyAssertions (fun _ => True) sha256).Hold reached ∧
        ApprovedByNonEditors reached.shared :=
    Runs.invariant_states
      (fun holds condition =>
        ⟨sound.step holds.1 (handsOver_true _ _),
          approvedByNonEditors_step holds.1 holds.2 condition⟩)
      ⟨policyAssertions_initial _ sha256, by rintro approvalId approval ⟨⟩⟩ others
  intro reached member versionId version found activated
  obtain ⟨holds, byNonEditors⟩ := invariant reached member
  obtain ⟨approvalId, approval, isFound, rfl, isApproved, notCreator⟩ :=
    holds.invariant.approved versionId version found activated
  obtain ⟨stored, isStored, _, _, notSubmitter⟩ :=
    holds.invariant.approvals approvalId approval isFound isApproved
  rw [found] at isStored
  cases isStored
  exact ⟨approvalId, approval, isFound, rfl, isApproved, notCreator, notSubmitter,
    byNonEditors approvalId approval isFound isApproved⟩

instance (system : PolicySystem) : DecidablePred (ApprovedByOthers system)
  | .enter _ _ => inferInstanceAs (Decidable True)
  | .occur _ => inferInstanceAs (Decidable True)
  | .statement call _ =>
    inferInstanceAs (Decidable (∀ stage ∈ system.calls.find? call,
      stage.approvesOther system.shared = true))

instance : DecidablePred PolicyDefinition.Written := fun definition =>
  inferInstanceAs (Decidable (acceptsDefinition definition.value = true →
    definition.value.written = true))

instance (system : PolicySystem) : DecidablePred (HandsOver PolicyDefinition.Written system)
  | .enter _ request =>
    inferInstanceAs (Decidable (∀ definition ∈ request.definition?, definition.Written))
  | .statement _ _ => inferInstanceAs (Decidable True)
  | .occur _ => inferInstanceAs (Decidable True)

/-! Runs: the policy of one member is edited by a second, and approved by the second or by a third
one; and a policy whose condition has a value that is undefined. -/

def severityPolicy : PolicyDefinition where
  value := existsDefinition []
  distinct := by
    simp only [existsDefinition, List.append_nil, JsValue.distinct, JsValue.distinctItems,
      JsValue.distinctFields, and_true]
    decide

def policyMember (membershipId : String) : PolicyActor := ⟨"tenant", membershipId, .admin⟩

def policyCall (call : Nat) (request : PolicyRequest) (choice : PolicyChoice)
    (statements : Nat) : List PolicyAction :=
  .enter call request :: List.replicate statements (.statement call choice)

def approvedBy (approver : String) : List PolicyAction :=
  policyCall 0 (.create (policyMember "creator")
      ⟨"triage", "ESCALATION", "Triage", none, severityPolicy⟩)
      (.runs "policy" "version" 0) 2 ++
    (policyCall 1 (.updateDraft (policyMember "editor") "version" severityPolicy)
        (.runs "" "" 0) 3 ++
      (policyCall 2 (.submit (policyMember "creator") "version") (.runs "" "" 0) 2 ++
        (policyCall 3 (.approve (policyMember approver) "version" none)
            (.runs "approval" "" 0) 2 ++
          policyCall 4 (.activate (policyMember "creator") "version") (.runs "" "" 0) 5)))

theorem approvedBy_facts :
    ((Runs.run (policyStep id) (System.initial .empty) (approvedBy "editor")).shared.versions.find?
        "version").map ChildSafetyPolicyVersion.status = some .active ∧
      (Runs.run (policyStep id) (System.initial .empty) (approvedBy "editor")).shared.edits =
        [("version", "editor")] ∧
      (Runs.run (policyStep id) (System.initial .empty)
        (approvedBy "editor")).shared.approvals.rows =
          [("approval", ⟨"tenant", "version", .approved, none, "editor"⟩)] ∧
      Runs.Meets (policyStep id) ApprovedByOthers (System.initial .empty)
        (approvedBy "reviewer") := by
  decide +kernel

/-- The version that the third member approves is active. -/
theorem childSafetyPolicy_lifecycle_reviewer :
    ((Runs.run (policyStep id) (System.initial .empty)
        (approvedBy "reviewer")).shared.versions.find? "version").map
          ChildSafetyPolicyVersion.status = some .active ∧
      PolicyLifecycle id (approvedBy "reviewer") :=
  ⟨by decide +kernel, childSafetyPolicy_lifecycle id (approvedBy "reviewer") (by decide +kernel)⟩

def undefinedPolicy : PolicyDefinition where
  value := existsDefinition [("value", .undefined)]
  distinct := by
    simp only [existsDefinition, List.cons_append, List.nil_append, JsValue.distinct,
      JsValue.distinctItems, JsValue.distinctFields, and_true]
    decide

def activatedUndefined : List PolicyAction :=
  policyCall 0 (.create (policyMember "creator")
      ⟨"triage", "ESCALATION", "Triage", none, undefinedPolicy⟩)
      (.runs "policy" "version" 0) 2 ++
    (policyCall 1 (.submit (policyMember "creator") "version") (.runs "" "" 0) 2 ++
      (policyCall 2 (.approve (policyMember "reviewer") "version" none)
          (.runs "approval" "" 0) 2 ++
        policyCall 3 (.activate (policyMember "creator") "version") (.runs "" "" 0) 5))

/-- The version that is active does not have the hash that is recorded. -/
theorem not_childSafetyPolicy_lifecycle :
    ¬∀ (sha256 : String → String) (actions : List PolicyAction),
      PolicyLifecycle sha256 actions := by
  intro all
  have facts : ((Runs.run (policyStep id) (System.initial .empty)
      activatedUndefined).shared.versions.find? "version").any (fun version =>
        version.status == .active &&
          version.definitionHash != definitionHashOf id version.definitionJson) = true := by
    decide +kernel
  obtain ⟨version, found, tested⟩ := (Option.any_eq_true _ _).mp facts
  rw [Bool.and_eq_true, beq_iff_eq, bne_iff_ne] at tested
  have sound := (all id activatedUndefined).active _ (Runs.run_mem_states _)
  obtain ⟨_, _, _, _, _, _, hashed⟩ := sound.governed "version" version found tested.1
  exact tested.2 hashed

theorem twoPersonControl_reviewer :
    TwoPersonControl (Runs.run (policyStep id) (System.initial .empty) (approvedBy "reviewer")).shared :=
  twoPersonControl_of_approvedByOthers id (approvedBy "reviewer") approvedBy_facts.2.2.2 _
    (Runs.run_mem_states _)

/-- The editor of a draft approves what they have written. -/
theorem not_twoPersonControl :
    ¬∀ (sha256 : String → String) (actions : List PolicyAction),
      ∀ reached ∈ Runs.states (policyStep sha256) (System.initial .empty) actions,
        TwoPersonControl reached.shared := by
  intro all
  obtain ⟨active, edits, approvals, _⟩ := approvedBy_facts
  obtain ⟨version, found, isActive⟩ := Option.map_eq_some_iff.mp active
  obtain ⟨approvalId, approval, isFound, _, _, _, _, unedited⟩ :=
    all id (approvedBy "editor") _ (Runs.run_mem_states _) "version" version found (.inl isActive)
  have member := Table.find?_eq_some_iff.mp isFound
  rw [approvals, List.mem_singleton] at member
  cases member
  rw [edits] at unedited
  exact unedited List.mem_cons_self

end Tamanor.Db
