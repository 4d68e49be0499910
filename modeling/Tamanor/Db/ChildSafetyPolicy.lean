import Tamanor.Core.BusinessContacts
import Tamanor.Core.ChildSafetyPolicy
import Tamanor.Library.Interleaving
import Tamanor.Library.JsData

/-! The life of a child-safety policy (`child-safety-policy.ts` of the database package), as calls
whose statements interleave. What an activation has written is locked and unseen until its
transaction commits; the other transactions show their writes in one statement. -/

set_option autoImplicit false

namespace Tamanor.Db

open Tamanor.Core Library

structure PolicyActor where
  tenantId : String
  membershipId : String
  role : MembershipRole

/-- A value of JavaScript, whose objects have no two fields of one name. -/
structure PolicyDefinition where
  value : JsValue
  distinct : value.distinct

variable (definition : PolicyDefinition)

/-- What `JSON.stringify` writes of the value. -/
def PolicyDefinition.json : JsonValue :=
  definition.value.roundTrip.getD .null

def PolicyDefinition.column (definition : PolicyDefinition) : JsonValue := definition.json.column

structure CreatePolicyInput where
  policyKey : String
  purpose : String
  displayName : String
  description : Option String
  definition : PolicyDefinition

structure ChildSafetyPolicy where
  tenantId : String
  policyKey : String
  purpose : String
  displayName : String
  description : Option String
  createdByMembershipId : String

structure ChildSafetyPolicyVersion where
  tenantId : String
  policyId : String
  versionNumber : Nat
  status : ChildSafetyPolicyStatus
  schemaVersion : Nat
  engineVersion : String
  definitionJson : JsonValue
  definitionHash : String
  createdByMembershipId : String
  submittedByMembershipId : Option String
  submittedAt : Option Int
  activatedByMembershipId : Option String
  activatedAt : Option Int
  rejectedByMembershipId : Option String
  rejectedAt : Option Int
  rejectionReasonCode : Option String
  supersedesVersionId : Option String

inductive ApprovalDecision where
  | approved | rejected
deriving DecidableEq

structure ActivationApproval where
  tenantId : String
  policyVersionId : String
  decision : ApprovalDecision
  reasonCode : Option String
  decidedByMembershipId : String
deriving DecidableEq

structure PolicyPromotion where
  versionId : String
  activatedByMembershipId : String
  activatedAt : Int

structure OpenActivation where
  policyId : String
  retired : Option String
  promoted : Option PolicyPromotion

def OpenActivation.writes (activation : OpenActivation) (versionId : String) : Bool :=
  activation.retired == some versionId ||
    activation.promoted.any fun promotion => promotion.versionId == versionId

/-- The edits are those of drafts, by version and member; the code keeps no record of them. -/
structure PolicyDatabase where
  policies : Table String ChildSafetyPolicy
  versions : Table String ChildSafetyPolicyVersion
  approvals : Table String ActivationApproval
  activations : Table Nat OpenActivation
  edits : List (String × String)

def PolicyDatabase.empty : PolicyDatabase := ⟨.empty, .empty, .empty, .empty, []⟩

inductive PolicyError where
  | forbidden (reason : String)
  | notFound
  | state (code : String)
  | typeError
  | database

def require (test : Bool) (error : PolicyError) : Except PolicyError Unit :=
  if test then .ok () else .error error

variable (actor : PolicyActor)

def requirePermission (permission : ChildSafetyPolicyPermission) (reason : String) :
    Except PolicyError Unit :=
  require (canChildSafetyPolicy actor.role permission) (.forbidden reason)

def isPolicyPurpose (value : String) : Bool :=
  (childSafetyPolicyPurposes.map ChildSafetyPolicyPurpose.value).contains value

def isPolicyKeyChar (char : Char) : Bool :=
  ('a' ≤ char && char ≤ 'z') || ('0' ≤ char && char ≤ '9')

/-- `/^[a-z0-9][a-z0-9_-]{1,63}$/`. -/
def isPolicyKey (key : String) : Bool :=
  match key.toList with
  | [] => false
  | first :: rest =>
    isPolicyKeyChar first && decide (1 ≤ rest.length) && decide (rest.length ≤ 63) &&
      rest.all fun char => isPolicyKeyChar char || char == '_' || char == '-'

def isDisplayName (name : String) : Bool :=
  trimmed (some name) != "" && decide (textLength name ≤ 120)

/-! The validator on the data of JavaScript. -/

def memberOf (value : JsValue) (name : String) : JsValue :=
  match value with
  | .obj fields => (fields.lookup name).getD .undefined
  | _ => .undefined

def itemsOf : JsValue → List JsValue
  | .arr items => items
  | _ => []

def isUndefined : JsValue → Bool
  | .undefined => true
  | _ => false

def payloadWritten (effect : JsValue) : Bool :=
  match memberOf effect "payload" with
  | .obj fields => fields.all fun field => !isUndefined field.2
  | _ => true

/-- A member that is undefined is read as one that is absent; only the keys of a payload tell them
apart. -/
def acceptsDefinition (definition : JsValue) : Bool :=
  definition.roundTrip.any isValidPolicyDefinition &&
    (itemsOf (memberOf definition "rules")).all fun rule =>
      (itemsOf (memberOf rule "effects")).all payloadWritten

def checkDefinition : Except PolicyError Unit :=
  match definition.value.roundTrip with
  | none => .error (.state "invalid_definition")
  | some json =>
    match validateChildSafetyPolicyDefinition json with
    | none => .error .typeError
    | some _ => require (acceptsDefinition definition.value) (.state "invalid_definition")

def checkStored (definition : JsonValue) : Except PolicyError Unit :=
  match validateChildSafetyPolicyDefinition definition with
  | none => .error .typeError
  | some result => require result.valid (.state "invalid_definition")

def isText (value : JsValue) (text : String) : Bool :=
  match value with
  | .str other => other == text
  | _ => false

def checkPurpose (purpose : String) : Except PolicyError Unit :=
  require (isText (memberOf definition.value "purpose") purpose) (.state "purpose_mismatch")

def slicedText (limit : Nat) (text : String) : String :=
  String.ofList (sliceUnits limit text.toList)

section Hash

variable (sha256 : String → String)

def definitionHashOf (definition : JsonValue) : String :=
  sha256 (String.ofList definition.stableStringify)

def PolicyDefinition.hash (definition : PolicyDefinition) : String :=
  sha256 (String.ofList (definition.value.stableStringify.getD "undefined".toList))

def draftVersion (actor : PolicyActor) (policyId : String) (versionNumber : Nat)
    (definition : PolicyDefinition) : ChildSafetyPolicyVersion where
  tenantId := actor.tenantId
  policyId := policyId
  versionNumber := versionNumber
  status := .draft
  schemaVersion := childSafetyPolicySchemaVersion
  engineVersion := childSafetyPolicyEngineVersion
  definitionJson := definition.column
  definitionHash := definition.hash sha256
  createdByMembershipId := actor.membershipId
  submittedByMembershipId := none
  submittedAt := none
  activatedByMembershipId := none
  activatedAt := none
  rejectedByMembershipId := none
  rejectedAt := none
  rejectionReasonCode := none
  supersedesVersionId := none

def ChildSafetyPolicyVersion.edit (definition : PolicyDefinition)
    (version : ChildSafetyPolicyVersion) : ChildSafetyPolicyVersion :=
  { version with
    definitionJson := definition.column
    definitionHash := definition.hash sha256 }

end Hash

namespace PolicyDatabase

variable (state : PolicyDatabase)

def findPolicy (tenantId policyId : String) : Option ChildSafetyPolicy :=
  (state.policies.find? policyId).filter fun policy => policy.tenantId == tenantId

def findVersion (tenantId versionId : String) : Option ChildSafetyPolicyVersion :=
  (state.versions.find? versionId).filter fun version => version.tenantId == tenantId

def hasPolicyKey (tenantId policyKey : String) : Bool :=
  state.policies.rows.any fun entry =>
    entry.2.tenantId == tenantId && entry.2.policyKey == policyKey

def latestNumber (tenantId policyId : String) : Nat :=
  (((state.versions.rows.map Prod.snd).filter fun version =>
    version.tenantId == tenantId && version.policyId == policyId).map
      ChildSafetyPolicyVersion.versionNumber).foldr max 0

variable (versionId : String)

def canInsertVersion (version : ChildSafetyPolicyVersion) : Bool :=
  (state.versions.find? versionId).isNone &&
    (state.findPolicy version.tenantId version.policyId).isSome &&
    !state.versions.rows.any fun entry =>
      entry.2.policyId == version.policyId && entry.2.versionNumber == version.versionNumber

def insertVersion (version : ChildSafetyPolicyVersion) : Option PolicyDatabase :=
  if state.canInsertVersion versionId version then
    some { state with versions := state.versions.insert versionId version }
  else none

def insertPolicy (policyId : String) (policy : ChildSafetyPolicy) : Option PolicyDatabase :=
  if (state.policies.find? policyId).isNone &&
      !state.hasPolicyKey policy.tenantId policy.policyKey then
    some { state with policies := state.policies.insert policyId policy }
  else none

def insertApproval (approvalId : String) (approval : ActivationApproval) : Option PolicyDatabase :=
  if (state.approvals.find? approvalId).isNone &&
      (state.findVersion approval.tenantId approval.policyVersionId).isSome then
    some { state with approvals := state.approvals.insert approvalId approval }
  else none

def findActive (tenantId policyId : String) : Option String :=
  (state.versions.rows.find? fun entry =>
    entry.2.tenantId == tenantId && entry.2.policyId == policyId &&
      entry.2.status == .active).map Prod.fst

def hasApproval (tenantId versionId creator : String) : Bool :=
  state.approvals.rows.any fun entry =>
    entry.2.tenantId == tenantId && entry.2.policyVersionId == versionId &&
      entry.2.decision == .approved && entry.2.decidedByMembershipId != creator

def locked : Bool :=
  state.activations.rows.any fun entry => entry.2.writes versionId

/-- Another activation of the policy has an entry of the index on active versions in doubt. -/
def inDoubt (call : Nat) (policyId : String) : Bool :=
  state.activations.rows.any fun entry =>
    decide (entry.1 ≠ call) && entry.2.policyId == policyId

def hasOtherActive (policyId : String) (retired : Option String) : Bool :=
  state.versions.rows.any fun entry =>
    entry.2.policyId == policyId && entry.2.status == .active && retired != some entry.1

def rollback (call : Nat) : PolicyDatabase :=
  { state with activations := state.activations.deleteWhere fun other _ => other == call }

def write (call : Nat) (activation : OpenActivation) : PolicyDatabase :=
  { state with activations := state.activations.upsert call activation }

def modifyVersion (change : ChildSafetyPolicyVersion → ChildSafetyPolicyVersion) : PolicyDatabase :=
  { state with versions := state.versions.modify versionId change }

end PolicyDatabase

/-- What `updateMany` finds under an id, a tenant and a status. -/
inductive GuardedUpdate where
  | waits
  | missed
  | found (version : ChildSafetyPolicyVersion)

def PolicyDatabase.guardedUpdate (state : PolicyDatabase) (tenantId versionId : String)
    (status : ChildSafetyPolicyStatus) : GuardedUpdate :=
  match state.findVersion tenantId versionId with
  | none => .missed
  | some version =>
    if version.status = status then
      if state.locked versionId then .waits else .found version
    else .missed

def rejectionReason (reasonCode : String) : String :=
  slicedText 64 (if reasonCode = "" then "rejected" else reasonCode)

namespace ChildSafetyPolicyVersion

def submit (actor : PolicyActor) (now : Int) (version : ChildSafetyPolicyVersion) :
    ChildSafetyPolicyVersion :=
  { version with
    status := .pendingApproval
    submittedByMembershipId := some actor.membershipId
    submittedAt := some now }

def reject (actor : PolicyActor) (reasonCode : String) (now : Int)
    (version : ChildSafetyPolicyVersion) : ChildSafetyPolicyVersion :=
  { version with
    status := .rejected
    rejectedByMembershipId := some actor.membershipId
    rejectedAt := some now
    rejectionReasonCode := some (rejectionReason reasonCode) }

def retire (version : ChildSafetyPolicyVersion) : ChildSafetyPolicyVersion :=
  { version with status := .retired }

def promote (promotion : PolicyPromotion) (retired : Option String)
    (version : ChildSafetyPolicyVersion) : ChildSafetyPolicyVersion :=
  { version with
    status := .active
    activatedByMembershipId := some promotion.activatedByMembershipId
    activatedAt := some promotion.activatedAt
    supersedesVersionId := retired }

end ChildSafetyPolicyVersion

def PolicyDatabase.commit (state : PolicyDatabase) (call : Nat) (activation : OpenActivation) :
    PolicyDatabase :=
  let retired :=
    match activation.retired with
    | none => state
    | some versionId => state.modifyVersion versionId ChildSafetyPolicyVersion.retire
  let promoted :=
    match activation.promoted with
    | none => retired
    | some promotion =>
      retired.modifyVersion promotion.versionId
        (ChildSafetyPolicyVersion.promote promotion activation.retired)
  promoted.rollback call

inductive PolicyRequest where
  | create (actor : PolicyActor) (input : CreatePolicyInput)
  | createVersion (actor : PolicyActor) (policyId : String) (definition : PolicyDefinition)
  | updateDraft (actor : PolicyActor) (versionId : String) (definition : PolicyDefinition)
  | submit (actor : PolicyActor) (versionId : String)
  | approve (actor : PolicyActor) (versionId : String) (reasonCode : Option String)
  | reject (actor : PolicyActor) (versionId reasonCode : String)
  | activate (actor : PolicyActor) (versionId : String)

inductive PolicyAnswer where
  | created (policyId versionId : String)
  | versionCreated (versionId : String) (versionNumber : Nat)
  | updated (versionId : String)
  | submitted
  | approved (approvalId : String)
  | rejected
  | activated (retiredVersionId : Option String)
  | threw (error : PolicyError)

inductive PolicyStage where
  | lookingUpKey (actor : PolicyActor) (input : CreatePolicyInput)
  | creatingPolicy (actor : PolicyActor) (input : CreatePolicyInput)
  | readingPolicy (actor : PolicyActor) (policyId : String) (definition : PolicyDefinition)
  | readingLatest (actor : PolicyActor) (policyId : String) (definition : PolicyDefinition)
  | insertingVersion (actor : PolicyActor) (policyId : String) (definition : PolicyDefinition)
      (versionNumber : Nat)
  | readingDraft (actor : PolicyActor) (versionId : String) (definition : PolicyDefinition)
  | readingDraftPolicy (actor : PolicyActor) (versionId policyId : String)
      (definition : PolicyDefinition)
  | updatingDraft (actor : PolicyActor) (versionId : String) (definition : PolicyDefinition)
  | readingSubmitted (actor : PolicyActor) (versionId : String)
  | submitting (actor : PolicyActor) (versionId : String)
  | readingApproved (actor : PolicyActor) (versionId : String) (reasonCode : Option String)
  | approving (actor : PolicyActor) (versionId : String) (reasonCode : Option String)
  | readingRejected (actor : PolicyActor) (versionId reasonCode : String)
  | rejecting (actor : PolicyActor) (versionId reasonCode : String)
  | readingActivated (actor : PolicyActor) (versionId : String)
  | readingApproval (actor : PolicyActor) (versionId policyId creator : String)
  | findingCurrent (actor : PolicyActor) (versionId policyId : String)
  | retiring (actor : PolicyActor) (versionId policyId current : String)
  | promoting (actor : PolicyActor) (versionId policyId : String) (retired : Option String)
  | committing (retired : Option String)
  | ended (answer : PolicyAnswer)

/-- A statement runs, with the ids and the time that it may draw, or the database refuses it or
the call dies, which ends the transaction. -/
inductive PolicyChoice where
  | runs (first second : String) (now : Int)
  | fails

def PolicyStage.threw (error : PolicyError) : PolicyStage := .ended (.threw error)

def PolicyStage.failed : PolicyStage → PolicyStage
  | .ended answer => .ended answer
  | _ => .threw .database

def PolicyStage.after (checked : Except PolicyError Unit) (stage : PolicyStage) : PolicyStage :=
  match checked with
  | .ok () => stage
  | .error error => .threw error

def checkCreate (input : CreatePolicyInput) : Except PolicyError Unit := do
  requirePermission actor .manage "manage"
  require (isPolicyPurpose input.purpose) (.state "bad_purpose")
  require (isPolicyKey input.policyKey) (.state "bad_policy_key")
  require (isDisplayName input.displayName) (.state "bad_display_name")
  checkDefinition input.definition
  checkPurpose input.definition input.purpose

def enterPolicy (_ : PolicyDatabase) : PolicyRequest → PolicyStage
  | .create actor input => .after (checkCreate actor input) (.lookingUpKey actor input)
  | .createVersion actor policyId definition =>
    .after (requirePermission actor .manage "manage") (.readingPolicy actor policyId definition)
  | .updateDraft actor versionId definition =>
    .after (requirePermission actor .manage "manage") (.readingDraft actor versionId definition)
  | .submit actor versionId =>
    .after (requirePermission actor .submit "submit") (.readingSubmitted actor versionId)
  | .approve actor versionId reasonCode =>
    .after (requirePermission actor .approve "approve")
      (.readingApproved actor versionId reasonCode)
  | .reject actor versionId reasonCode =>
    .after (requirePermission actor .approve "approve")
      (.readingRejected actor versionId reasonCode)
  | .activate actor versionId =>
    .after (requirePermission actor .activate "activate") (.readingActivated actor versionId)

def createdPolicy (input : CreatePolicyInput) : ChildSafetyPolicy where
  tenantId := actor.tenantId
  policyKey := input.policyKey
  purpose := input.purpose
  displayName := trimmed (some input.displayName)
  description := input.description.map (slicedText 2000)
  createdByMembershipId := actor.membershipId

variable (version : ChildSafetyPolicyVersion)

def checkDraft : Except PolicyError Unit :=
  require (version.status == .draft) (.state "not_draft")

def checkPending : Except PolicyError Unit :=
  require (version.status == .pendingApproval) (.state "not_pending")

def checkTwoPersons : Except PolicyError Unit :=
  require (actor.membershipId != version.createdByMembershipId &&
    version.submittedByMembershipId != some actor.membershipId) (.state "two_person_required")

def checkNotCreator : Except PolicyError Unit :=
  require (actor.membershipId != version.createdByMembershipId) (.state "two_person_required")

section Program

variable (sha256 : String → String)

namespace PolicyDatabase

variable (state : PolicyDatabase)

def reading (tenantId versionId : String) (next : ChildSafetyPolicyVersion → PolicyStage) :
    PolicyDatabase × PolicyStage :=
  match state.findVersion tenantId versionId with
  | none => (state, .threw .notFound)
  | some version => (state, next version)

/-- A statement that writes, unless a constraint of the database is against it. -/
def writing (after : Option PolicyDatabase) (answer : PolicyAnswer) :
    PolicyDatabase × PolicyStage :=
  match after with
  | none => (state, .threw .database)
  | some after => (after, .ended answer)

def createPolicy (actor : PolicyActor) (input : CreatePolicyInput)
    (policyId versionId : String) : Option PolicyDatabase :=
  (state.insertPolicy policyId (createdPolicy actor input)).bind fun after =>
    after.insertVersion versionId (draftVersion sha256 actor policyId 1 input.definition)

def edited (actor : PolicyActor) (versionId : String) (definition : PolicyDefinition) :
    PolicyDatabase :=
  { state.modifyVersion versionId (ChildSafetyPolicyVersion.edit sha256 definition) with
    edits := (versionId, actor.membershipId) :: state.edits }

def submitted (actor : PolicyActor) (versionId : String) (now : Int) : PolicyDatabase :=
  state.modifyVersion versionId (ChildSafetyPolicyVersion.submit actor now)

def rejectedVersion (actor : PolicyActor) (versionId reasonCode : String) (now : Int) :
    PolicyDatabase :=
  state.modifyVersion versionId (ChildSafetyPolicyVersion.reject actor reasonCode now)

def promoting (call : Nat) (actor : PolicyActor) (versionId policyId : String)
    (retired : Option String) (now : Int) : PolicyDatabase × PolicyStage :=
  match state.findVersion actor.tenantId versionId with
  | none => (state.rollback call, .threw (.state "activation_conflict"))
  | some version =>
    if version.status ≠ .pendingApproval then
      (state.rollback call, .threw (.state "activation_conflict"))
    else if state.inDoubt call policyId then (state, .promoting actor versionId policyId retired)
    else if state.hasOtherActive policyId retired then
      (state.rollback call, .threw .database)
    else
      (state.write call ⟨policyId, retired, some ⟨versionId, actor.membershipId, now⟩⟩,
        .committing retired)

end PolicyDatabase

def runPolicyStatement (state : PolicyDatabase) (call : Nat) (first second : String) (now : Int) :
    PolicyStage → PolicyDatabase × PolicyStage
  | .lookingUpKey actor input =>
    if state.hasPolicyKey actor.tenantId input.policyKey then
      (state, .threw (.state "duplicate_policy_key"))
    else (state, .creatingPolicy actor input)
  | .creatingPolicy actor input =>
    state.writing (state.createPolicy sha256 actor input first second) (.created first second)
  | .readingPolicy actor policyId definition =>
    match state.findPolicy actor.tenantId policyId with
    | none => (state, .threw .notFound)
    | some policy =>
      (state, .after (do
        checkDefinition definition
        checkPurpose definition policy.purpose)
        (.readingLatest actor policyId definition))
  | .readingLatest actor policyId definition =>
    (state, .insertingVersion actor policyId definition
      (state.latestNumber actor.tenantId policyId + 1))
  | .insertingVersion actor policyId definition versionNumber =>
    state.writing
      (state.insertVersion first (draftVersion sha256 actor policyId versionNumber definition))
      (.versionCreated first versionNumber)
  | .readingDraft actor versionId definition =>
    state.reading actor.tenantId versionId fun version =>
      .after (do checkDraft version; checkDefinition definition)
        (.readingDraftPolicy actor versionId version.policyId definition)
  | .readingDraftPolicy actor versionId policyId definition =>
    match state.findPolicy actor.tenantId policyId with
    | none => (state, .threw .notFound)
    | some policy =>
      (state, .after (checkPurpose definition policy.purpose)
        (.updatingDraft actor versionId definition))
  | .updatingDraft actor versionId definition =>
    match state.guardedUpdate actor.tenantId versionId .draft with
    | .waits => (state, .updatingDraft actor versionId definition)
    | .missed => (state, .threw (.state "not_draft"))
    | .found _ => (state.edited sha256 actor versionId definition, .ended (.updated versionId))
  | .readingSubmitted actor versionId =>
    state.reading actor.tenantId versionId fun version =>
      .after (do checkDraft version; checkStored version.definitionJson)
        (.submitting actor versionId)
  | .submitting actor versionId =>
    match state.guardedUpdate actor.tenantId versionId .draft with
    | .waits => (state, .submitting actor versionId)
    | .missed => (state, .threw (.state "not_draft"))
    | .found _ => (state.submitted actor versionId now, .ended .submitted)
  | .readingApproved actor versionId reasonCode =>
    state.reading actor.tenantId versionId fun version =>
      .after (do checkPending version; checkTwoPersons actor version)
        (.approving actor versionId reasonCode)
  | .approving actor versionId reasonCode =>
    state.writing
      (state.insertApproval first
        ⟨actor.tenantId, versionId, .approved, reasonCode.map (slicedText 64),
          actor.membershipId⟩)
      (.approved first)
  | .readingRejected actor versionId reasonCode =>
    state.reading actor.tenantId versionId fun version =>
      .after (do checkPending version; checkNotCreator actor version)
        (.rejecting actor versionId reasonCode)
  | .rejecting actor versionId reasonCode =>
    match state.guardedUpdate actor.tenantId versionId .pendingApproval with
    | .waits => (state, .rejecting actor versionId reasonCode)
    | .missed => (state, .threw (.state "not_pending"))
    | .found _ =>
      state.writing
        ((state.rejectedVersion actor versionId reasonCode now).insertApproval first
          ⟨actor.tenantId, versionId, .rejected, some (rejectionReason reasonCode),
            actor.membershipId⟩)
        .rejected
  | .readingActivated actor versionId =>
    state.reading actor.tenantId versionId fun version =>
      .after (checkPending version)
        (.readingApproval actor versionId version.policyId version.createdByMembershipId)
  | .readingApproval actor versionId policyId creator =>
    (state, .after
      (require (state.hasApproval actor.tenantId versionId creator) (.state "approval_required"))
      (.findingCurrent actor versionId policyId))
  | .findingCurrent actor versionId policyId =>
    match state.findActive actor.tenantId policyId with
    | none => (state, .promoting actor versionId policyId none)
    | some current => (state, .retiring actor versionId policyId current)
  | .retiring actor versionId policyId current =>
    match state.guardedUpdate actor.tenantId current .active with
    | .waits => (state, .retiring actor versionId policyId current)
    | .missed => (state.rollback call, .threw (.state "activation_conflict"))
    | .found _ =>
      (state.write call ⟨policyId, some current, none⟩,
        .promoting actor versionId policyId (some current))
  | .promoting actor versionId policyId retired =>
    state.promoting call actor versionId policyId retired now
  | .committing retired =>
    match state.activations.find? call with
    | none => (state, .threw .database)
    | some activation => (state.commit call activation, .ended (.activated retired))
  | .ended answer => (state, .ended answer)

def policyProgram : Interleaving.Program PolicyDatabase PolicyRequest PolicyStage PolicyChoice
    Empty where
  enter := enterPolicy
  statement := fun state call stage choice =>
    match choice with
    | .runs first second now => runPolicyStatement sha256 state call first second now stage
    | .fails => (state.rollback call, stage.failed)
  occur := fun state _ => state

end Program

end Tamanor.Db
