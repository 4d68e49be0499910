import Mathlib.Data.List.Basic

/-! The state of a connected account that a customer is shown (`connection-state.ts` and
`sync-state.ts` of the core package), resolved from the columns of its row. -/

set_option autoImplicit false

namespace Tamanor.Core

inductive ConnectionState where
  | connectedHealthy | waitingFirstSync | degraded | reauthRequired | syncFailed | disconnected
deriving DecidableEq

/-- The columns that the resolver reads; a time that is there is a valid one. -/
structure ConnectionStateInput where
  status : String
  mode : String
  health : String
  connectionStatus : String
  tokenHealth : String
  tokenExpiresAt : Option Int
  lastError : Option String
  lastSuccessfulSyncAt : Option Int
  lastSyncedAt : Option Int
  monitoringEnabled : Bool

def reauthConnectionStatuses : List String :=
  ["needs_reconnect", "invalid_token", "missing_permission"]

def reauthTokenHealths : List String := ["expired", "invalid", "revoked"]

def resolveConnectionState (input : ConnectionStateInput) (now : Int) : ConnectionState :=
  if input.status = "disconnected" ∨ input.connectionStatus = "disconnected" then .disconnected
  else if input.status = "expired" ∨ input.connectionStatus ∈ reauthConnectionStatuses ∨
      input.tokenHealth ∈ reauthTokenHealths ∨ (∃ time ∈ input.tokenExpiresAt, time ≤ now) ∨
      input.lastError = some "token_expired" then .reauthRequired
  else if input.health = "error" ∧
      (input.lastSyncedAt.isSome ∨ input.lastSuccessfulSyncAt.isSome) then .syncFailed
  else if input.health = "degraded" then .degraded
  else if input.lastSuccessfulSyncAt = none then .waitingFirstSync
  else .connectedHealthy

inductive FirstSyncState where
  | waitingFirstSync | syncing | synced | failed

def deriveFirstSyncState (lastSuccessfulSyncAt : Option Int) (syncAttempts : Nat)
    (hasActiveLease : Bool) : FirstSyncState :=
  if lastSuccessfulSyncAt.isSome then .synced
  else if hasActiveLease then .syncing
  else if 0 < syncAttempts then .failed
  else .waitingFirstSync

end Tamanor.Core
