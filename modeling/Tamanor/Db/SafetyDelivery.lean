import Tamanor.Core.RecipientAuthorization
import Tamanor.Library.ReadCommitted

/-! The lifecycle of an internal delivery (`child-safety-delivery.ts` of the db package). A
transition reads the status, checks the edge, and updates by id in a later statement; the
outbox event of the transition is inserted in the same transaction. -/

set_option autoImplicit false

namespace Tamanor.Db

open Tamanor.Core Library Library.ReadCommitted

structure SafetySignalDelivery where
  tenantId : String
  safetySignalId : String
  protectedProfileId : String
  recipientAuthorizationDecisionId : String
  recipientMembershipId : String
  deliveryStatus : SafetyDeliveryStatus
  disclosureScope : List SafetyDisclosureScope
  recommendedActionClass : Option String
  idempotencyKey : String
  createdAt : Int
  availableAt : Option Int
  acknowledgedAt : Option Int
  acknowledgedByMembershipId : Option String
  declinedAt : Option Int
  declinedByMembershipId : Option String
  failedAt : Option Int
  revokedAt : Option Int
  expiredAt : Option Int
  supersededAt : Option Int
  archivedAt : Option Int

def SafetySignalDelivery.rowState (delivery : SafetySignalDelivery) : SafetyDeliveryRowState where
  deliveryStatus := delivery.deliveryStatus
  expiredAt := delivery.expiredAt
  revokedAt := delivery.revokedAt
  supersededAt := delivery.supersededAt
  archivedAt := delivery.archivedAt
  declinedAt := delivery.declinedAt
  failedAt := delivery.failedAt

/-- What a creation stores; everything else has its default. -/
structure DeliveryCreation where
  tenantId : String
  safetySignalId : String
  protectedProfileId : String
  recipientAuthorizationDecisionId : String
  recipientMembershipId : String
  disclosureScope : List SafetyDisclosureScope
  recommendedActionClass : Option String
  idempotencyKey : String
  createdAt : Int

def DeliveryCreation.row (creation : DeliveryCreation) : SafetySignalDelivery where
  tenantId := creation.tenantId
  safetySignalId := creation.safetySignalId
  protectedProfileId := creation.protectedProfileId
  recipientAuthorizationDecisionId := creation.recipientAuthorizationDecisionId
  recipientMembershipId := creation.recipientMembershipId
  deliveryStatus := .prepared
  disclosureScope := creation.disclosureScope
  recommendedActionClass := creation.recommendedActionClass
  idempotencyKey := creation.idempotencyKey
  createdAt := creation.createdAt
  availableAt := none
  acknowledgedAt := none
  acknowledgedByMembershipId := none
  declinedAt := none
  declinedByMembershipId := none
  failedAt := none
  revokedAt := none
  expiredAt := none
  supersededAt := none
  archivedAt := none

inductive DeliveryEventType where
  | deliveryAvailable | deliveryAcknowledged | deliveryDeclined
deriving DecidableEq

/-- An outbox event of a delivery; its type and version are what tells it from the others. -/
structure DeliveryEvent where
  type : DeliveryEventType
  eventVersion : Int
deriving DecidableEq

structure DeliveryTransition where
  target : SafetyDeliveryStatus
  recipientOnly : Bool
  mutate : String → SafetySignalDelivery → SafetySignalDelivery
  /-- The event of the row that was updated. -/
  event : Option (SafetySignalDelivery → DeliveryEvent)

variable (now : Int)

def makeSafetySignalDeliveryAvailable : DeliveryTransition where
  target := .available
  recipientOnly := false
  mutate _ row := { row with availableAt := some now }
  event := some fun row => ⟨.deliveryAvailable, row.availableAt.getD now⟩

def acknowledgeSafetySignalDelivery : DeliveryTransition where
  target := .acknowledged
  recipientOnly := true
  mutate actor row := { row with acknowledgedAt := some now, acknowledgedByMembershipId := some actor }
  event := some fun row => ⟨.deliveryAcknowledged, row.acknowledgedAt.getD now⟩

def declineSafetySignalDelivery : DeliveryTransition where
  target := .declined
  recipientOnly := true
  mutate actor row := { row with declinedAt := some now, declinedByMembershipId := some actor }
  event := some fun row => ⟨.deliveryDeclined, row.declinedAt.getD now⟩

def revokeSafetySignalDelivery : DeliveryTransition where
  target := .revoked
  recipientOnly := false
  mutate _ row := { row with revokedAt := some now }
  event := none

def supersedeSafetySignalDelivery : DeliveryTransition where
  target := .superseded
  recipientOnly := false
  mutate _ row := { row with supersededAt := some now }
  event := none

def archiveSafetySignalDelivery : DeliveryTransition where
  target := .archived
  recipientOnly := false
  mutate _ row := { row with archivedAt := some now }
  event := none

inductive DeliveryOperation where
  | makeAvailable | acknowledge | decline | revoke | supersede | archive
deriving DecidableEq

def DeliveryOperation.transition : DeliveryOperation → Int → DeliveryTransition
  | .makeAvailable => makeSafetySignalDeliveryAvailable
  | .acknowledge => acknowledgeSafetySignalDelivery
  | .decline => declineSafetySignalDelivery
  | .revoke => revokeSafetySignalDelivery
  | .supersede => supersedeSafetySignalDelivery
  | .archive => archiveSafetySignalDelivery

/-- A delivery with its outbox events, which only transactions that hold its row insert. -/
structure DeliveryRecord where
  row : SafetySignalDelivery
  events : List DeliveryEvent

/-- Insertion with `skipDuplicates`. -/
def enqueueDeliveryEvent (event : DeliveryEvent) (events : List DeliveryEvent) : List DeliveryEvent :=
  if event ∈ events then events else events ++ [event]

def DeliveryTransition.apply (transition : DeliveryTransition) (actor : String)
    (record : DeliveryRecord) : DeliveryRecord :=
  let row := { transition.mutate actor record.row with deliveryStatus := transition.target }
  { row := row
    events := match transition.event with
      | none => record.events
      | some event => enqueueDeliveryEvent (event row) record.events }

/-- A call that has passed the role check, with the membership of its actor. -/
structure DeliveryCall where
  tenantId : String
  actorMembershipId : Option String
  deliveryId : String
  operation : DeliveryOperation
  now : Int

structure DeliveryUpdate where
  deliveryId : String
  operation : DeliveryOperation
  now : Int
  actorMembershipId : String
  read : SafetyDeliveryStatus
deriving DecidableEq

def DeliveryUpdate.apply (update : DeliveryUpdate) (record : DeliveryRecord) : DeliveryRecord :=
  (update.operation.transition update.now).apply update.actorMembershipId record

inductive DeliveryStage where
  | called (call : DeliveryCall)
  | checked (update : DeliveryUpdate)
  | updated

/-- The read and the checks of `transition`. -/
def checkDelivery (call : DeliveryCall) (record : Option DeliveryRecord) : Option DeliveryUpdate :=
  match call.actorMembershipId, record with
  | some actor, some record =>
    let transition := call.operation.transition call.now
    if record.row.tenantId ≠ call.tenantId then none
    else if transition.recipientOnly ∧ record.row.recipientMembershipId ≠ actor then none
    else if isValidSafetyDeliveryTransition record.row.deliveryStatus transition.target then
      some ⟨call.deliveryId, call.operation, call.now, actor, record.row.deliveryStatus⟩
    else none
  | _, _ => none

def deliverySystem : System String (fun _ => DeliveryRecord) DeliveryUpdate DeliveryStage
    DeliveryCall where
  target := DeliveryUpdate.deliveryId
  effect update _ := update.apply
  enter := .called
  next stage view _ :=
    match stage with
    | .called call =>
      match checkDelivery call (view call.deliveryId) with
      | none => .rollback
      | some update => .proceed (.checked update)
    | .checked update => .update update 0 .updated
    | .updated => .commit

abbrev DeliveryDatabase :=
  Database String (fun _ => DeliveryRecord) DeliveryUpdate DeliveryStage Nat

abbrev DeliveryAction := Action DeliveryCall Nat

def createdDeliveries (creations : String → Option DeliveryCreation) (id : String) :
    Option DeliveryRecord :=
  (creations id).map fun creation => ⟨creation.row, []⟩

def runDeliveries (creations : String → Option DeliveryCreation) (actions : List DeliveryAction) :
    DeliveryDatabase :=
  (Database.opened (createdDeliveries creations) 0).run deliverySystem actions

end Tamanor.Db
