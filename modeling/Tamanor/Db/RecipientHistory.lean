import Tamanor.Db.RecipientAuthorization
import Tamanor.Db.SafetyDelivery
import Tamanor.Library.Runs
import Tamanor.Library.Table

/-! The history of authorization decisions and deliveries
(`child-safety-recipient-authorization.ts` and `child-safety-delivery.ts` of the db package),
one call after the other. The records that the engine reads change between the calls. -/

set_option autoImplicit false

namespace Tamanor.Db

open Tamanor.Core Library

structure SafetyRecipientAuthorizationDecision where
  tenantId : String
  recordIds : AuthorizationRecordIds
  decisionStatus : RecipientAuthorizationDecisionStatus
  disclosureScope : List SafetyDisclosureScope
  reasonCode : RecipientAuthorizationReasonCode
  evaluatedAt : Int
  validUntil : Option Int
  revokedAt : Option Int
  supersededAt : Option Int
  createdAt : Int
  archivedAt : Option Int

def SafetyRecipientAuthorizationDecision.rowState
    (decision : SafetyRecipientAuthorizationDecision) : RecipientAuthorizationDecisionState where
  decisionStatus := decision.decisionStatus
  validUntil := decision.validUntil
  revokedAt := decision.revokedAt
  supersededAt := decision.supersededAt
  archivedAt := decision.archivedAt

structure RecipientPair where
  tenantId : String
  safetySignalId : String
  recipientMembershipId : String
deriving DecidableEq

def SafetyRecipientAuthorizationDecision.pair (decision : SafetyRecipientAuthorizationDecision) :
    RecipientPair :=
  ⟨decision.tenantId, decision.recordIds.safetySignalId, decision.recordIds.recipientMembershipId⟩

def DeliveryRecord.pair (delivery : DeliveryRecord) : RecipientPair :=
  ⟨delivery.row.tenantId, delivery.row.safetySignalId, delivery.row.recipientMembershipId⟩

structure RecipientHistory where
  now : Int
  records : FamilyDatabase
  decisions : Table String SafetyRecipientAuthorizationDecision
  deliveries : Table String DeliveryRecord

/-- `orderBy: [{ createdAt: "desc" }, { id: "desc" }]`. -/
def newestRows {ν : Type} (createdAt : ν → Int) (rows : List (String × ν)) : List (String × ν) :=
  rows.insertionSort fun left right => createdAt right.2 < createdAt left.2 ∨
    (createdAt right.2 = createdAt left.2 ∧ right.1 ≤ left.1)

/-- An input that has passed the checks of its own fields. -/
structure DeliveryInput where
  recipientAuthorizationDecisionId : String
  requestedScopes : List SafetyDisclosureScope
  idempotencyKey : String
  recommendedActionClass : Option String

structure DeliveryEligibility where
  reasonCode : SafetyDeliveryReasonCode
  effectiveAuthorizationDecisionId : Option String
  recipientMembershipId : String
  allowedDisclosureScopes : List SafetyDisclosureScope
  validUntil : Option Int

namespace RecipientHistory

variable (history : RecipientHistory)

def newestDecision (pair : RecipientPair) :
    Option (String × SafetyRecipientAuthorizationDecision) :=
  (newestRows (·.createdAt) <| history.decisions.rows.filter fun entry =>
      entry.2.pair == pair && entry.2.decisionStatus == .authorized &&
        entry.2.revokedAt.isNone && entry.2.supersededAt.isNone &&
        entry.2.archivedAt.isNone).find? fun entry =>
    isRecipientAuthorizationDecisionRowEffective entry.2.rowState history.now

def newestDelivery (pair : RecipientPair) : Option (String × DeliveryRecord) :=
  (newestRows (·.row.createdAt) <| history.deliveries.rows.filter fun entry =>
      entry.2.pair == pair && entry.2.row.revokedAt.isNone && entry.2.row.supersededAt.isNone &&
        entry.2.row.archivedAt.isNone && entry.2.row.declinedAt.isNone &&
        entry.2.row.failedAt.isNone).find? fun entry =>
    isSafetyDeliveryRowEffective entry.2.row.rowState history.now

variable (actor : FamilyActorContext)

def getEffectiveRecipientAuthorization (safetySignalId recipientMembershipId : String) :
    Except FamilyError (Option (String × SafetyRecipientAuthorizationDecision)) := do
  assertFamily actor .safetyRecipientAuthorizationView
  match history.newestDecision ⟨actor.tenantId, safetySignalId, recipientMembershipId⟩ with
  | none => return none
  | some entry =>
    match entry.2.recordIds.guardianRelationshipId with
    | none => return none
    | some guardianRelationshipId =>
      let live ← evaluateRecipientAuthorization history.records actor
        ⟨safetySignalId, recipientMembershipId, guardianRelationshipId, [], none⟩ history.now
      return if live.authorized then some entry else none

def getEffectiveSafetySignalDelivery (safetySignalId recipientMembershipId : String) :
    Except FamilyError (Option (String × DeliveryRecord)) := do
  assertFamily actor .safetyDeliveryView
  match history.newestDelivery ⟨actor.tenantId, safetySignalId, recipientMembershipId⟩ with
  | none => return none
  | some entry =>
    let authorization ←
      history.getEffectiveRecipientAuthorization actor safetySignalId recipientMembershipId
    return if authorization.isSome then some entry else none

def actorMembershipId : Option String :=
  (history.records.memberships.find? fun row =>
    row.userId == actor.userId && row.tenantId == actor.tenantId).map (·.id)

def assertNotSelf (recipientMembershipId : String) : Except FamilyError Unit :=
  match history.actorMembershipId actor with
  | none => .error (.forbidden .roleForbidden)
  | some own =>
    if own = recipientMembershipId ∧ familyRoleForMembershipRole actor.role ≠ .primaryGuardian then
      .error (.forbidden .roleForbidden)
    else .ok ()

def createRecipientAuthorizationDecision (id : String) (input : RecipientAuthorizationInput) :
    Except FamilyError RecipientHistory := do
  assertFamily actor .safetyRecipientAuthorizationCreate
  history.assertNotSelf actor input.recipientMembershipId
  let result ← evaluateRecipientAuthorization history.records actor input history.now
  if (history.records.findSignal actor.tenantId result.recordIds.safetySignalId).isNone then
    .error (.notFound "safety_signal")
  else
    return { history with
      decisions := history.decisions.insert id
        { tenantId := actor.tenantId
          recordIds := result.recordIds
          decisionStatus := result.decisionStatus
          disclosureScope := serializeDisclosureScopes result.allowedDisclosureScopes
          reasonCode := result.reasonCode
          evaluatedAt := result.evaluatedAt
          validUntil := result.validUntil
          revokedAt := none
          supersededAt := none
          createdAt := history.now
          archivedAt := none } }

def findDecision (id : String) : Option SafetyRecipientAuthorizationDecision :=
  (history.decisions.find? id).filter fun row => row.tenantId == actor.tenantId

def revokeRecipientAuthorizationDecision (id : String) : Except FamilyError RecipientHistory := do
  assertFamily actor .safetyRecipientAuthorizationRevoke
  match history.findDecision actor id with
  | none => .error (.notFound "safe_recipient_assessment")
  | some existing =>
    if existing.revokedAt.isSome then return history
    else
      return { history with
        decisions := history.decisions.modify id fun row =>
          { row with
            decisionStatus := .revoked
            revokedAt := some history.now
            reasonCode := .authorizationRevoked } }

def supersedeRecipientAuthorizationDecision (id : String) :
    Except FamilyError RecipientHistory := do
  assertFamily actor .safetyRecipientAuthorizationCreate
  match history.findDecision actor id with
  | none => .error (.notFound "safe_recipient_assessment")
  | some existing =>
    if existing.supersededAt.isSome then return history
    else
      return { history with
        decisions := history.decisions.modify id fun row =>
          { row with
            decisionStatus := .superseded
            supersededAt := some history.now
            reasonCode := .supersededByNewDecision } }

def evaluateSafetySignalDeliveryEligibility (decisionId : String)
    (requested : List SafetyDisclosureScope) : Except FamilyError DeliveryEligibility := do
  assertFamily actor .safetyDeliveryCreate
  match history.findDecision actor decisionId with
  | none => return ⟨.authorizationNotFound, none, "", [], none⟩
  | some decision =>
    let recipient := decision.recordIds.recipientMembershipId
    if decision.revokedAt.isSome then return ⟨.authorizationRevoked, none, recipient, [], none⟩
    else if decision.supersededAt.isSome then
      return ⟨.authorizationSuperseded, none, recipient, [], none⟩
    else if decision.archivedAt.isSome then
      return ⟨.authorizationArchived, none, recipient, [], none⟩
    else if decision.decisionStatus ≠ .authorized then
      return ⟨.authorizationNotEffective, none, recipient, [], none⟩
    else do
      match ← history.getEffectiveRecipientAuthorization actor decision.recordIds.safetySignalId
          recipient with
      | none => return ⟨.authorizationNotEffective, none, recipient, [], none⟩
      | some effective =>
        let allowed := serializeDisclosureScopes effective.2.disclosureScope
        if effective.1 ≠ decisionId then
          return ⟨.authorizationSuperseded, none, recipient, [], none⟩
        else if requested ≠ [] ∧ ¬scopesWithin requested allowed then
          return ⟨.scopeNotAuthorized, some decisionId, recipient, [], none⟩
        else
          return ⟨.validEffectiveAuthorization, some decisionId, recipient,
            if requested ≠ [] then requested else allowed, effective.2.validUntil⟩

def createSafetySignalDelivery (id : String) (input : DeliveryInput) :
    Except FamilyError RecipientHistory := do
  assertFamily actor .safetyDeliveryCreate
  match history.findDecision actor input.recipientAuthorizationDecisionId with
  | none => .error (.deliveryNotEligible .authorizationNotFound)
  | some decision => do
    history.assertNotSelf actor decision.recordIds.recipientMembershipId
    let eligibility ← history.evaluateSafetySignalDeliveryEligibility actor
      input.recipientAuthorizationDecisionId input.requestedScopes
    if eligibility.reasonCode ≠ .validEffectiveAuthorization then
      .error (.deliveryNotEligible eligibility.reasonCode)
    else if input.recommendedActionClass.isSome ∧
        .recommendedActionClass ∉ eligibility.allowedDisclosureScopes then
      .error (.deliveryNotEligible .scopeNotAuthorized)
    else if history.deliveries.rows.any fun entry =>
        entry.2.row.tenantId == actor.tenantId &&
          entry.2.row.recipientAuthorizationDecisionId == input.recipientAuthorizationDecisionId &&
          entry.2.row.recipientMembershipId == decision.recordIds.recipientMembershipId &&
          entry.2.row.idempotencyKey == input.idempotencyKey then
      return history
    else if (history.records.findSignal actor.tenantId
        decision.recordIds.safetySignalId).isNone then
      .error (.deliveryNotEligible .signalArchived)
    else
      let creation : DeliveryCreation :=
        { tenantId := actor.tenantId
          safetySignalId := decision.recordIds.safetySignalId
          protectedProfileId := decision.recordIds.protectedProfileId
          recipientAuthorizationDecisionId := input.recipientAuthorizationDecisionId
          recipientMembershipId := decision.recordIds.recipientMembershipId
          disclosureScope := serializeDisclosureScopes eligibility.allowedDisclosureScopes
          recommendedActionClass := input.recommendedActionClass
          idempotencyKey := input.idempotencyKey
          createdAt := history.now }
      return { history with deliveries := history.deliveries.insert id ⟨creation.row, []⟩ }

def transitionDelivery (tenantId : String) (actorMembershipId : Option String)
    (deliveryId : String) (operation : DeliveryOperation) : RecipientHistory :=
  match checkDelivery ⟨tenantId, actorMembershipId, deliveryId, operation, history.now⟩
      (history.deliveries.find? deliveryId) with
  | none => history
  | some update => { history with deliveries := history.deliveries.modify deliveryId update.apply }

def after (result : Except FamilyError RecipientHistory) : RecipientHistory :=
  match result with
  | .ok changed => changed
  | .error _ => history

end RecipientHistory

inductive HistoryAction where
  | elapse (time : Nat)
  | changeRecords (records : FamilyDatabase)
  | createDecision (actor : FamilyActorContext) (id : String) (input : RecipientAuthorizationInput)
  | revokeDecision (actor : FamilyActorContext) (id : String)
  | supersedeDecision (actor : FamilyActorContext) (id : String)
  | createDelivery (actor : FamilyActorContext) (id : String) (input : DeliveryInput)
  | transitionDelivery (tenantId : String) (actorMembershipId : Option String)
      (deliveryId : String) (operation : DeliveryOperation)

def RecipientHistory.step (history : RecipientHistory) : HistoryAction → RecipientHistory
  | .elapse time => { history with now := history.now + time }
  | .changeRecords records => { history with records := records }
  | .createDecision actor id input =>
    history.after (history.createRecipientAuthorizationDecision actor id input)
  | .revokeDecision actor id =>
    history.after (history.revokeRecipientAuthorizationDecision actor id)
  | .supersedeDecision actor id =>
    history.after (history.supersedeRecipientAuthorizationDecision actor id)
  | .createDelivery actor id input =>
    history.after (history.createSafetySignalDelivery actor id input)
  | .transitionDelivery tenantId actorMembershipId deliveryId operation =>
    history.transitionDelivery tenantId actorMembershipId deliveryId operation

def RecipientHistory.opened (now : Int) (records : FamilyDatabase) : RecipientHistory :=
  ⟨now, records, Table.empty, Table.empty⟩

end Tamanor.Db
