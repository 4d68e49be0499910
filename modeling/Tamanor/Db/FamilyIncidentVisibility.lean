import Tamanor.Core.ChildSafetyOrchestration
import Tamanor.Db.RecipientHistory
import Tamanor.Library.Json

/-! Who may know of a child-safety incident, and who is notified about it
(`family-incident-visibility.ts` of the db package). -/

set_option autoImplicit false

namespace Tamanor.Db

open Tamanor.Core Library

inductive ProtectionStatus where
  | inactive | monitoring | active | paused
deriving DecidableEq

def activeProfileStatuses : List ProtectionStatus := [.monitoring, .active, .paused]

structure FamilyIncident where
  id : String
  tenantId : String
  protectedProfileId : String
  status : ChildSafetyIncidentStatus
  escalated : Bool

structure IncidentSignalLink where
  tenantId : String
  incidentId : String
  safetySignalId : String

/-- The family records with their decisions, the protection status of their profiles, and the
incidents with their signals. -/
structure FamilyIncidentDatabase where
  history : RecipientHistory
  protectionStatus : ProtectedProfile → ProtectionStatus
  incidents : List FamilyIncident
  links : List IncidentSignalLink

inductive FamilyIncidentVisibilityReason where
  | incidentNotFound | workspaceMismatch | tenantMismatch | profileUnavailable
  | incidentNotFamilyDisclosable | noAuthorizedLinkedSignal | authorizationAmbiguous
  | evaluatorError
deriving DecidableEq

inductive FamilyIncidentVisibilityDecision where
  | allowed (protectedProfileId : String) (authorizedLinkedSignalIds : List String)
  | denied (reason : FamilyIncidentVisibilityReason)
deriving DecidableEq

structure IncidentContext where
  profileId : String
  linkedSignalIds : List String
  escalated : Bool

/-- The reasons for which nobody is notified, and no error is answered. -/
def softReasons : List FamilyIncidentVisibilityReason :=
  [.incidentNotFamilyDisclosable, .profileUnavailable, .noAuthorizedLinkedSignal]

def sysActor (tenantId : String) : FamilyActorContext :=
  ⟨tenantId, "system:family-incident-visibility", .owner, .family⟩

def GuardianRelationship.isCandidate (tenantId profileId : String)
    (relationship : GuardianRelationship) : Bool :=
  relationship.tenantId == tenantId && relationship.protectedProfileId == profileId &&
    relationship.status == .verified && relationship.revokedAt.isNone &&
    relationship.archivedAt.isNone

namespace FamilyIncidentDatabase

variable (db : FamilyIncidentDatabase) (tenantId : String)

def linkedSignalIds (incidentId : String) : List String :=
  (db.links.filter fun link =>
    link.incidentId == incidentId && link.tenantId == tenantId).map (·.safetySignalId)

def linkedSignals (incidentId : String) : List SafetySignal :=
  db.history.records.signals.filter fun row =>
    (db.linkedSignalIds tenantId incidentId).contains row.id && row.tenantId == tenantId

def loadFamilyIncidentContext (incidentId : String) :
    Except FamilyIncidentVisibilityReason IncidentContext :=
  match db.incidents.find? fun row => row.id == incidentId && row.tenantId == tenantId with
  | none => .error .incidentNotFound
  | some incident =>
    if isTerminalChildSafetyIncidentStatus incident.status then
      .error .incidentNotFamilyDisclosable
    else if (db.history.records.findProfile tenantId incident.protectedProfileId).all fun profile =>
        profile.archivedAt.isSome || !activeProfileStatuses.contains (db.protectionStatus profile)
      then .error .profileUnavailable
    else if db.linkedSignalIds tenantId incidentId = [] then .error .noAuthorizedLinkedSignal
    else
      let signals := db.linkedSignals tenantId incidentId
      if signals.length ≠ (db.linkedSignalIds tenantId incidentId).length then
        .error .authorizationAmbiguous
      else if signals.any fun row => row.protectedProfileId != incident.protectedProfileId then
        .error .authorizationAmbiguous
      else
        let active := (signals.filter (·.archivedAt.isNone)).map (·.id)
        if active = [] then .error .noAuthorizedLinkedSignal
        else .ok ⟨incident.protectedProfileId, active, incident.escalated⟩

def authorizedLinkedSignals (membershipId : String) : List String → Except FamilyError (List String)
  | [] => .ok []
  | signalId :: rest => do
      let effective ←
        db.history.getEffectiveRecipientAuthorization (sysActor tenantId) signalId membershipId
      let others ← authorizedLinkedSignals membershipId rest
      return if effective.isSome then signalId :: others else others

def eligibleMemberships (signalIds : List String) :
    List GuardianRelationship → Except FamilyError (List String)
  | [] => .ok []
  | relationship :: rest => do
      let authorized ←
        db.authorizedLinkedSignals tenantId relationship.guardianMembershipId signalIds
      let others ← eligibleMemberships signalIds rest
      return if authorized ≠ [] then relationship.guardianMembershipId :: others else others

/-- What is thrown is caught. -/
def evaluateFamilyIncidentVisibilityTx (actor : FamilyActorContext) (incidentId : String) :
    FamilyIncidentVisibilityDecision :=
  if actor.workspaceKind ≠ .family then .denied .workspaceMismatch
  else
    match db.loadFamilyIncidentContext actor.tenantId incidentId with
    | .error reason => .denied reason
    | .ok context =>
      match db.history.actorMembershipId actor with
      | none => .denied .noAuthorizedLinkedSignal
      | some membershipId =>
        match db.authorizedLinkedSignals actor.tenantId membershipId context.linkedSignalIds with
        | .error _ => .denied .evaluatorError
        | .ok [] => .denied .noAuthorizedLinkedSignal
        | .ok authorized => .allowed context.profileId authorized

def resolveIncidentRecipientUserIds (incidentId : String) (requireEscalated : Bool) :
    Except FamilyIncidentVisibilityReason (List String) :=
  match db.loadFamilyIncidentContext tenantId incidentId with
  | .error reason => if softReasons.contains reason then .ok [] else .error reason
  | .ok context =>
    if requireEscalated && !context.escalated then .ok []
    else
      match db.eligibleMemberships tenantId context.linkedSignalIds
          (db.history.records.relationships.filter fun row =>
            row.isCandidate tenantId context.profileId) with
      | .error _ => .error .evaluatorError
      | .ok eligible =>
        let users := db.history.records.memberships.filter fun row =>
          eligible.contains row.id && row.tenantId == tenantId
        .ok ((users.map (·.userId)).dedup.insertionSort fun first second =>
          Json.sortsBefore first second = true)

end FamilyIncidentDatabase

end Tamanor.Db
