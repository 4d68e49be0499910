/-! Who may act in a family workspace (`child-safety-family.ts` of the core package, with the
capabilities of `workspace.ts` that the family actions live under). -/

set_option autoImplicit false

namespace Tamanor.Core

inductive WorkspaceKind where
  | business | family | childSafetyOrganization | internal
deriving DecidableEq

inductive WorkspaceCapability where
  | familyDashboard | protectedProfiles | guardianRelationships | safetySignals
  | consentManagement | safeRecipientPolicies

def workspaceCapabilities : WorkspaceCapability → List WorkspaceKind
  | .familyDashboard => [.family]
  | .protectedProfiles => [.family]
  | .guardianRelationships => [.family]
  | .safetySignals => [.family]
  | .consentManagement => [.family]
  | .safeRecipientPolicies => [.family]

def capabilityAllowedInWorkspace (capability : WorkspaceCapability) (kind : WorkspaceKind) : Bool :=
  (workspaceCapabilities capability).contains kind

/-- The role of a membership; a text that is none of the first four is the least of them. -/
inductive MembershipRole where
  | owner | admin | analyst | reviewer | viewer
deriving DecidableEq

inductive FamilyRole where
  | primaryGuardian | guardian | trustedAdult | safetyProfessional | familyViewer
deriving DecidableEq

def familyRoleForMembershipRole : MembershipRole → FamilyRole
  | .owner => .primaryGuardian
  | .admin => .guardian
  | .analyst => .safetyProfessional
  | .reviewer => .trustedAdult
  | .viewer => .familyViewer

inductive FamilyAction where
  | familyView | protectedProfileView | protectedProfileManage | guardianRelationshipView
  | guardianRelationshipManage | guardianAuthorityView | guardianAuthorityManage | consentView
  | consentManage | safeRecipientView | safeRecipientAssess | safetySignalView
  | safetySignalCreate | safetySignalReview | safetySignalArchive
  | safetyRecipientAuthorizationView | safetyRecipientAuthorizationEvaluate
  | safetyRecipientAuthorizationCreate | safetyRecipientAuthorizationRevoke | safetyDeliveryView
  | safetyDeliveryCreate | safetyDeliveryMakeAvailable | safetyDeliveryAcknowledge
  | safetyDeliveryDecline | safetyDeliveryRevoke | safetyDeliveryArchive | familyInvitationView
  | familyInvitationCreate | familyInvitationRevoke | familyAuthorityGrant
  | familyAuthorityChange | familyAuthoritySuspend | familyAuthorityResume
  | familyAuthorityRevoke
deriving DecidableEq

def familyAuthorityManageActions : List FamilyAction :=
  [.familyAuthorityGrant, .familyAuthorityChange, .familyAuthoritySuspend,
    .familyAuthorityResume, .familyAuthorityRevoke]

def viewOnly : List FamilyAction :=
  [.familyView, .protectedProfileView, .guardianRelationshipView, .guardianAuthorityView,
    .consentView, .safeRecipientView, .safetySignalView]

def deliveryRecipientActions : List FamilyAction :=
  [.safetyDeliveryView, .safetyDeliveryAcknowledge, .safetyDeliveryDecline]

def safetyProfessional : List FamilyAction :=
  viewOnly ++ [.safetySignalReview, .safetyRecipientAuthorizationView,
    .safetyRecipientAuthorizationEvaluate] ++ deliveryRecipientActions

def trustedAdult : List FamilyAction := viewOnly ++ deliveryRecipientActions

def familyRoleCan (role : FamilyRole) (action : FamilyAction) : Bool :=
  match role with
  | .primaryGuardian => true
  | .guardian =>
    action != .safetyRecipientAuthorizationRevoke && action != .safetyDeliveryRevoke &&
      action != .safetyDeliveryArchive && !familyAuthorityManageActions.contains action
  | .trustedAdult => trustedAdult.contains action
  | .safetyProfessional => safetyProfessional.contains action
  | .familyViewer => viewOnly.contains action

def familyActionCapability : FamilyAction → WorkspaceCapability
  | .familyView => .familyDashboard
  | .protectedProfileView | .protectedProfileManage => .protectedProfiles
  | .guardianRelationshipView | .guardianRelationshipManage | .guardianAuthorityView
  | .guardianAuthorityManage | .familyInvitationView | .familyInvitationCreate
  | .familyInvitationRevoke | .familyAuthorityGrant | .familyAuthorityChange
  | .familyAuthoritySuspend | .familyAuthorityResume | .familyAuthorityRevoke =>
    .guardianRelationships
  | .consentView | .consentManage => .consentManagement
  | .safetySignalView | .safetySignalCreate | .safetySignalReview | .safetySignalArchive =>
    .safetySignals
  | .safeRecipientView | .safeRecipientAssess | .safetyRecipientAuthorizationView
  | .safetyRecipientAuthorizationEvaluate | .safetyRecipientAuthorizationCreate
  | .safetyRecipientAuthorizationRevoke | .safetyDeliveryView | .safetyDeliveryCreate
  | .safetyDeliveryMakeAvailable | .safetyDeliveryAcknowledge | .safetyDeliveryDecline
  | .safetyDeliveryRevoke | .safetyDeliveryArchive => .safeRecipientPolicies

structure FamilyActorContext where
  tenantId : String
  userId : String
  role : MembershipRole
  workspaceKind : WorkspaceKind

inductive FamilyAuthzDenial where
  | notFamilyWorkspace | capabilityNotInWorkspace | roleForbidden
deriving DecidableEq

def authorizeFamilyAction (actor : FamilyActorContext) (action : FamilyAction) :
    Except FamilyAuthzDenial Unit :=
  if actor.workspaceKind ≠ .family then .error .notFamilyWorkspace
  else if ¬capabilityAllowedInWorkspace (familyActionCapability action) .family then
    .error .capabilityNotInWorkspace
  else if familyRoleCan (familyRoleForMembershipRole actor.role) action then .ok ()
  else .error .roleForbidden

theorem capabilityAllowed_family (action : FamilyAction) :
    capabilityAllowedInWorkspace (familyActionCapability action) .family = true := by
  cases action <;> rfl

theorem authorizeFamilyAction_ok {actor : FamilyActorContext} {action : FamilyAction} :
    authorizeFamilyAction actor action = .ok () ↔ actor.workspaceKind = .family ∧
      familyRoleCan (familyRoleForMembershipRole actor.role) action = true := by
  unfold authorizeFamilyAction
  rw [capabilityAllowed_family]
  by_cases kind : actor.workspaceKind = .family
  · by_cases role : familyRoleCan (familyRoleForMembershipRole actor.role) action = true
    · simp [kind, role]
    · simp [kind, role]
  · simp [kind]

end Tamanor.Core
