import Tamanor.Core.FamilyAuthorization
import Tamanor.Core.Reputation

/-! Moderation proposals (`moderation.ts` of the core package), the workflow states of inbox
items and who may act on them (`permissions.ts`). -/

set_option autoImplicit false

namespace Tamanor.Core

/-- What may be done with content; only the first three touch a platform. -/
inductive ModerationAction where
  | reply | hide | delete | none | ignore | markResolved | escalate
deriving DecidableEq

def ModerationAction.value : ModerationAction → String
  | .reply => "reply"
  | .hide => "hide"
  | .delete => "delete"
  | .none => "none"
  | .ignore => "ignore"
  | .markResolved => "mark_resolved"
  | .escalate => "escalate"

def isPlatformAction (action : ModerationAction) : Bool :=
  [ModerationAction.reply, .hide, .delete].contains action

inductive DecisionStatus where
  | proposed | approved | rejected | executed | failed | cancelled
deriving DecidableEq

def DecisionStatus.value : DecisionStatus → String
  | .proposed => "proposed"
  | .approved => "approved"
  | .rejected => "rejected"
  | .executed => "executed"
  | .failed => "failed"
  | .cancelled => "cancelled"

def terminalDecisionStatuses : List DecisionStatus := [.rejected, .executed, .cancelled]

inductive ReputationStatus where
  | new | classified | needsApproval | actioned | escalated | ignored | resolved
deriving DecidableEq

def MembershipRole.value : MembershipRole → String
  | .owner => "owner"
  | .admin => "admin"
  | .analyst => "analyst"
  | .reviewer => "reviewer"
  | .viewer => "viewer"

inductive Permission where
  | inboxAct | proposalPropose | proposalApprove | proposalExecute
deriving DecidableEq

def Permission.value : Permission → String
  | .inboxAct => "inbox:act"
  | .proposalPropose => "proposal:propose"
  | .proposalApprove => "proposal:approve"
  | .proposalExecute => "proposal:execute"

def rolePermissions : MembershipRole → List Permission
  | .owner => [.inboxAct, .proposalPropose, .proposalApprove, .proposalExecute]
  | .admin => [.inboxAct, .proposalPropose, .proposalApprove, .proposalExecute]
  | .analyst => [.inboxAct, .proposalPropose]
  | .reviewer => [.inboxAct, .proposalPropose, .proposalApprove]
  | .viewer => []

def can (role : MembershipRole) (permission : Permission) : Bool :=
  (rolePermissions role).contains permission

def assertCan (role : MembershipRole) (permission : Permission) : Except String Unit :=
  if can role permission then .ok ()
  else .error ("Forbidden: role \"" ++ role.value ++ "\" lacks \"" ++ permission.value ++ "\"")

def canApproveDecision (role : MembershipRole) (action : ModerationAction)
    (riskLevel : RiskLevel) : Bool :=
  can role .proposalApprove &&
    match role with
    | .owner => true
    | .admin => true
    | .reviewer => action != .delete && riskLevel != .high && riskLevel != .critical
    | _ => false

end Tamanor.Core
