import Mathlib.Data.Option.Basic

/-! The durable OAuth authorization (`connector-oauth-flow.ts`): the statements that the
callback and the app run on the row of one flow. An instant is an integer. -/

set_option autoImplicit false

namespace Tamanor.Db

inductive OAuthFlowStatus where
  | pending | providerPending | selectionRequired | completed | failed | cancelled | expired
deriving DecidableEq

def isTerminalFlowStatus (status : OAuthFlowStatus) : Bool :=
  [OAuthFlowStatus.completed, .failed, .cancelled, .expired].contains status

inductive OAuthFlowProvider where
  | metaProvider | googleBusiness
deriving DecidableEq

inductive OAuthFlowSurface where
  | web | mobile
deriving DecidableEq

structure ConnectorOAuthFlow where
  sessionId : String
  surface : OAuthFlowSurface
  provider : OAuthFlowProvider
  status : OAuthFlowStatus
  resultCode : Option String
  resultAccountId : Option String
  resultRefId : Option String
  expiresAt : Int
  stateConsumedAt : Option Int
  completedAt : Option Int

def createConnectorOAuthFlow (sessionId : String) (surface : OAuthFlowSurface)
    (provider : OAuthFlowProvider) (expiresAt : Int) : ConnectorOAuthFlow :=
  ⟨sessionId, surface, provider, .pending, none, none, none, expiresAt, none, none⟩

namespace ConnectorOAuthFlow

variable (flow : ConnectorOAuthFlow)

def canConsume (now : Int) : Bool :=
  flow.stateConsumedAt.isNone && decide (now < flow.expiresAt) && !isTerminalFlowStatus flow.status

/-- The guarded update of `consumeConnectorOAuthState`. -/
def consume (now : Int) : ConnectorOAuthFlow :=
  if flow.canConsume now then
    { flow with stateConsumedAt := some now, status := .providerPending }
  else flow

/-- `updateConnectorOAuthFlow` with the data of `markSelectionRequired`; its update names the
flow only. -/
def markSelectionRequired (resultRefId : Option String) : ConnectorOAuthFlow :=
  { flow with status := .selectionRequired, resultCode := none, resultRefId }

/-- What a finalization writes; an absent account is not written. -/
structure FinalizeInput where
  status : OAuthFlowStatus
  resultCode : Option String
  resultAccountId : Option (Option String)

def finalize (input : FinalizeInput) (now : Int) : ConnectorOAuthFlow :=
  if isTerminalFlowStatus flow.status then flow
  else
    { flow with
      status := input.status
      resultCode := input.resultCode
      resultAccountId := input.resultAccountId.getD flow.resultAccountId
      completedAt := some now }

/-- The status that the app is told (`effectiveStatus` of `mobile-oauth.ts`). -/
def effectiveStatus (now : Int) : OAuthFlowStatus :=
  if flow.status = .completed ∨ flow.status = .failed ∨ flow.status = .cancelled then flow.status
  else if flow.expiresAt ≤ now then .expired
  else flow.status

end ConnectorOAuthFlow

end Tamanor.Db
