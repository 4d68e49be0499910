import Tamanor.Db.ConnectorOAuthFlow
import Tamanor.Library.Runs
import Tamanor.Library.Table

/-! The callbacks, selections and cancellations of one mobile flow (`mobile-callback.ts`, the
callback routes and `mobile-oauth.ts`), statement by statement. A select and a cancel have
passed their gate and belong to the owner of the flow. The answers of the provider and of
`applySelection` are part of an action, and so is whether a statement fails. -/

set_option autoImplicit false

namespace Tamanor.Web

open Db Library

structure SelectionResult where
  connected : Nat
  limited : Nat
  slotTaken : Nat
  accountIds : List String

inductive SelectionAnswer where
  | refused (code : Option String)
  | applied (result : SelectionResult)
  | threw

def selectionCode (result : SelectionResult) : Option String :=
  if result.connected = 0 ∧ 0 < result.slotTaken then some "brand_platform_limit_reached"
  else if result.connected = 0 ∧ 0 < result.limited then some "account_limit_reached"
  else if result.connected = 0 then some "no_accounts"
  else none

/-- How a select finalizes its flow; after an exception it does not report a status. -/
def SelectionAnswer.finalization : SelectionAnswer → ConnectorOAuthFlow.FinalizeInput
  | .threw => ⟨.failed, some "save_failed", none⟩
  | .refused code => ⟨.failed, some (code.getD "save_failed"), none⟩
  | .applied result =>
    ⟨if result.connected = 0 then .failed else .completed, selectionCode result,
      some result.accountIds.head?⟩

def SelectionAnswer.report : SelectionAnswer → Option OAuthFlowStatus
  | .threw => none
  | answer => some answer.finalization.status

def SelectionAnswer.links : SelectionAnswer → Bool
  | .refused _ => false
  | _ => true

inductive OAuthStage where
  /-- The guarded update of a callback, and what follows it. -/
  | arrived (provider : OAuthFlowProvider)
  | consumed (provider : OAuthFlowProvider)
  | checking
  | exchanging
  | marking (resultRefId : Option String)
  | failing (code : String)
  | selecting
  | applying
  | applied (answer : SelectionAnswer)
  | cancelling
  | dismissing (view : ConnectorOAuthFlow)
  | rereading (view : ConnectorOAuthFlow)
  | ended

structure OAuthCall where
  now : Int
  stage : OAuthStage

inductive OAuthRequest where
  | callback (provider : OAuthFlowProvider)
  | select
  | cancel

def OAuthRequest.stage : OAuthRequest → OAuthStage
  | .callback provider => .arrived provider
  | .select => .selecting
  | .cancel => .cancelling

inductive OAuthAction where
  | elapse (time : Nat)
  /-- `deleteExpiredConnectorOAuthFlows` -/
  | sweep
  | start (call : Nat) (request : OAuthRequest)
  | consume (call : Nat)
  | readBack (call : Nat)
  | checkSession (call : Nat) (valid : Bool)
  | exchange (call : Nat) (answer : Except String (Option String))
  | mark (call : Nat) (fails : Bool)
  | finalize (call : Nat) (fails : Bool)
  | read (call : Nat) (fails : Bool)
  | apply (call : Nat) (answer : SelectionAnswer)
  | reread (call : Nat) (fails : Bool)

/-- A status that was reported, and the status of the flow at the commit that it is about. -/
structure StatusReport where
  reported : OAuthFlowStatus
  persisted : Option OAuthFlowStatus

structure OAuthSystem where
  now : Int
  flow : Option ConnectorOAuthFlow
  calls : Table Nat OAuthCall
  consumed : Nat
  linked : Nat
  reports : List StatusReport

def startedFlow (flow : ConnectorOAuthFlow) (now : Int) : OAuthSystem :=
  ⟨now, some flow, Table.empty, 0, 0, []⟩

namespace OAuthSystem

variable (system : OAuthSystem)

def setStage (call : Nat) (stage : OAuthStage) : OAuthSystem :=
  { system with calls := system.calls.modify call ({ · with stage }) }

def sweep : OAuthSystem :=
  { system with flow := system.flow.filter fun flow => !decide (flow.expiresAt < system.now) }

def start (call : Nat) (request : OAuthRequest) : OAuthSystem :=
  if (system.calls.find? call).isSome then system
  else { system with calls := system.calls.insert call ⟨system.now, request.stage⟩ }

def consume (call : Nat) : OAuthSystem :=
  match system.calls.find? call with
  | some ⟨now, .arrived provider⟩ =>
    if system.flow.any (·.canConsume now) then
      { system with
        flow := system.flow.map fun (flow : ConnectorOAuthFlow) => flow.consume now
        consumed := system.consumed + 1 }.setStage call (.consumed provider)
    else system.setStage call .ended
  | _ => system

def readBack (call : Nat) : OAuthSystem :=
  match system.calls.find? call with
  | some ⟨_, .consumed provider⟩ =>
    match system.flow with
    | none => system.setStage call .ended
    | some flow =>
      if flow.provider ≠ provider then
        system.setStage call (.failing "invalid_state")
      else if flow.surface ≠ .mobile then system.setStage call .ended
      else system.setStage call .checking
  | _ => system

/-- `originatingSessionIsValid` -/
def checkSession (call : Nat) (valid : Bool) : OAuthSystem :=
  match system.calls.find? call with
  | some ⟨_, .checking⟩ =>
    system.setStage call
      (if valid then .exchanging else .failing "session_invalid")
  | _ => system

/-- The rest of a callback up to its last statement: a failure code, or a reference to the
options of the selection. -/
def exchange (call : Nat) (answer : Except String (Option String)) : OAuthSystem :=
  match system.calls.find? call with
  | some ⟨_, .exchanging⟩ =>
    match answer with
    | .error code => system.setStage call (.failing code)
    | .ok resultRefId => system.setStage call (.marking resultRefId)
  | _ => system

def mark (call : Nat) (fails : Bool) : OAuthSystem :=
  match system.calls.find? call with
  | some ⟨_, .marking resultRefId⟩ =>
    if fails then system.setStage call .ended
    else
      { system with flow := system.flow.map fun (flow : ConnectorOAuthFlow) => flow.markSelectionRequired resultRefId }.setStage
        call .ended
  | _ => system

def finalized (input : ConnectorOAuthFlow.FinalizeInput) (fails : Bool) :
    Option ConnectorOAuthFlow :=
  if fails then system.flow else system.flow.map fun (flow : ConnectorOAuthFlow) => flow.finalize input system.now

def finalize (call : Nat) (fails : Bool) : OAuthSystem :=
  match system.calls.find? call with
  | some ⟨_, .failing code⟩ =>
    { system with flow := system.finalized ⟨.failed, some code, none⟩ fails }.setStage call .ended
  | some ⟨now, .applied answer⟩ =>
    let flow := system.finalized answer.finalization fails
    { system with
      flow
      reports := match answer.report with
        | none => system.reports
        | some reported => ⟨reported, flow.map fun (row : ConnectorOAuthFlow) => row.effectiveStatus now⟩ :: system.reports }.setStage
      call .ended
  | some ⟨_, .dismissing view⟩ =>
    { system with
      flow := system.finalized ⟨.cancelled, some "user_cancelled", none⟩ fails }.setStage call
      (.rereading view)
  | _ => system

def read (call : Nat) (fails : Bool) : OAuthSystem :=
  match system.calls.find? call, system.flow with
  | some ⟨now, .selecting⟩, some flow =>
    if !fails && flow.effectiveStatus now == .selectionRequired then
      system.setStage call .applying
    else system.setStage call .ended
  | some ⟨_, .cancelling⟩, some flow =>
    system.setStage call (if fails then .ended else .dismissing flow)
  | some ⟨_, .selecting⟩, none => system.setStage call .ended
  | some ⟨_, .cancelling⟩, none => system.setStage call .ended
  | _, _ => system

def apply (call : Nat) (answer : SelectionAnswer) : OAuthSystem :=
  match system.calls.find? call with
  | some ⟨_, .applying⟩ =>
    { system with linked := system.linked + if answer.links then 1 else 0 }.setStage call
      (.applied answer)
  | _ => system

/-- The reply of a cancellation: the flow as it is, or as it was when that cannot be read. -/
def reread (call : Nat) (fails : Bool) : OAuthSystem :=
  match system.calls.find? call with
  | some ⟨now, .rereading view⟩ =>
    let fresh := if fails then none else system.flow
    { system with
      reports := ⟨(fresh.getD view).effectiveStatus now,
        system.flow.map fun (row : ConnectorOAuthFlow) => row.effectiveStatus now⟩ :: system.reports }.setStage call .ended
  | _ => system

def step : OAuthAction → OAuthSystem
  | .elapse time => { system with now := system.now + time }
  | .sweep => system.sweep
  | .start call request => system.start call request
  | .consume call => system.consume call
  | .readBack call => system.readBack call
  | .checkSession call valid => system.checkSession call valid
  | .exchange call answer => system.exchange call answer
  | .mark call fails => system.mark call fails
  | .finalize call fails => system.finalize call fails
  | .read call fails => system.read call fails
  | .apply call answer => system.apply call answer
  | .reread call fails => system.reread call fails

end OAuthSystem

end Tamanor.Web
