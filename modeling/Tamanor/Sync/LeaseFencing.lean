import Tamanor.Library.ReadCommitted

/-! The sync lease of one account (`sync-lease.ts`), the account write that is bound to
it (`writeAccountIfLeaseHeld`) and the disconnect that deletes it (`disconnect.ts`).
Workers bring their own clocks; generations come from a database sequence. -/

set_option autoImplicit false

namespace Tamanor.Sync

open Library Library.ReadCommitted

inductive ConnectorStatus where
  | pending | active | mockConnected | expired | disconnected | error
deriving DecidableEq

structure Lease where
  id : String
  holderId : String
  generation : Nat
  acquiredAt : Int
  expiresAt : Int
  heartbeatAt : Int

structure LeaseHandle where
  id : String
  holderId : String
  generation : Nat

/-- The columns that a statement tests, and the other ones as text. -/
structure Account where
  status : ConnectorStatus
  longLivedToken : Option String
  accessToken : Option String
  columns : String → Option String

/-- The columns to set; a column that is not given keeps its value. -/
structure AccountData where
  status : Option ConnectorStatus
  longLivedToken : Option (Option String)
  accessToken : Option (Option String)
  columns : List (String × Option String)

def AccountData.apply (patch : AccountData) (account : Account) : Account where
  status := patch.status.getD account.status
  longLivedToken := patch.longLivedToken.getD account.longLivedToken
  accessToken := patch.accessToken.getD account.accessToken
  columns column := (patch.columns.lookup column).getD (account.columns column)

def Lease.heldBy (lease : Lease) (handle : LeaseHandle) : Bool :=
  lease.id == handle.id && lease.holderId == handle.holderId &&
    lease.generation == handle.generation

def clearData (revoked : Bool) : AccountData where
  status := some .disconnected
  longLivedToken := some none
  accessToken := some none
  columns :=
    [("refreshToken", none), ("tokenExpiresAt", none), ("connectionStatus", some "disconnected"),
      ("health", some "unknown"), ("tokenHealth", some (if revoked then "revoked" else "invalid")),
      ("requiresReconnectReason", some "disconnected"), ("lastError", none), ("lastErrorAt", none)]

/-- `lease` is the place of the row with the account's unique `connectedAccountId`;
there may be no row in it. -/
inductive LeaseKey where
  | lease | account
deriving DecidableEq

abbrev LeaseCell : LeaseKey → Type
  | .lease => Option Lease
  | .account => Account

inductive LeaseCommand where
  | grant (lease : Lease)
  | keep
  | heartbeat (handle : LeaseHandle) (now expiresAt : Int)
  | release (handle : LeaseHandle)
  | lock (handle : LeaseHandle)
  | write (handle : LeaseHandle) (data : AccountData)
  | forget
  | edit (data : AccountData)

def LeaseCommand.target : LeaseCommand → LeaseKey
  | .grant _ | .keep | .heartbeat _ _ _ | .release _ | .lock _ | .forget => .lease
  | .write _ _ | .edit _ => .account

def LeaseCommand.onLease : LeaseCommand → Option Lease → Option Lease
  | .grant lease, _ => some lease
  | .heartbeat _ now expiresAt, row =>
    row.map fun lease => { lease with heartbeatAt := now, expiresAt }
  | .release _, _ | .forget, _ => none
  | _, row => row

def LeaseCommand.onAccount : LeaseCommand → Account → Account
  | .write _ data, account | .edit data, account => data.apply account
  | _, account => account

def LeaseCommand.effect (command : LeaseCommand) : (key : LeaseKey) → LeaseCell key → LeaseCell key
  | .lease => command.onLease
  | .account => command.onAccount

inductive LeaseCall where
  | acquireSyncLease (id holderId : String) (ttlMs now : Int)
  | heartbeatSyncLease (lease : LeaseHandle) (ttlMs now : Int)
  | releaseSyncLease (lease : LeaseHandle)
  | writeAccountIfLeaseHeld (lease : LeaseHandle) (data : AccountData)
  /-- The last phase, with the credentials that the first one has read. -/
  | disconnectAccount (longLivedToken accessToken : Option String) (revoked : Bool)
  /-- Any other write of the account, such as a reconnect. -/
  | editAccount (data : AccountData)

inductive LeaseStage where
  | called (call : LeaseCall)
  | acquiring (id holderId : String) (ttlMs now : Int)
  | holding (lease : LeaseHandle) (data : AccountData)
  | clearing (longLivedToken accessToken : Option String) (revoked : Bool)
  | finished

abbrev LeaseView := (key : LeaseKey) → Option (LeaseCell key)

def LeaseView.lease (view : LeaseView) : Option Lease := (view .lease).join

/-- `INSERT … ON CONFLICT DO UPDATE … WHERE expiresAt < now`. The proposed row draws a
generation, and a takeover draws another one; a live lease keeps its row. -/
def acquire (id holderId : String) (ttlMs now : Int) (view : LeaseView) (sequence : Nat) :
    Statement LeaseCommand LeaseStage :=
  match view.lease with
  | none =>
    .update
      (.grant
        { id, holderId, generation := sequence + 1, acquiredAt := now, expiresAt := now + ttlMs
          heartbeatAt := now }) 1 .finished
  | some row =>
    if row.expiresAt < now then
      .update
        (.grant
          { row with
            holderId, generation := sequence + 2, acquiredAt := now, expiresAt := now + ttlMs
            heartbeatAt := now }) 2 .finished
    else .update .keep 1 .finished

def pinned (handle : LeaseHandle) (view : LeaseView) (command : LeaseCommand) (next : LeaseStage) :
    Statement LeaseCommand LeaseStage :=
  match view.lease with
  | none => .proceed .finished
  | some row => if row.heldBy handle then .update command 0 next else .proceed .finished

def LeaseStage.next (stage : LeaseStage) (view : LeaseView) (sequence : Nat) :
    Statement LeaseCommand LeaseStage :=
  match stage with
  | .called (.acquireSyncLease id holderId ttlMs now) =>
    -- The ownership guard reads the account.
    match view .account with
    | none => .proceed .finished
    | some _ => .proceed (.acquiring id holderId ttlMs now)
  | .acquiring id holderId ttlMs now => acquire id holderId ttlMs now view sequence
  | .called (.heartbeatSyncLease lease ttlMs now) =>
    pinned lease view (.heartbeat lease now (now + ttlMs)) .finished
  | .called (.releaseSyncLease lease) => pinned lease view (.release lease) .finished
  | .called (.writeAccountIfLeaseHeld lease data) =>
    pinned lease view (.lock lease) (.holding lease data)
  | .holding lease data =>
    match view .account with
    | none => .proceed .finished
    | some account =>
      if account.status ≠ .disconnected then .update (.write lease data) 0 .finished
      else .proceed .finished
  | .called (.disconnectAccount longLivedToken accessToken revoked) =>
    match view.lease with
    | none => .proceed (.clearing longLivedToken accessToken revoked)
    | some _ => .update .forget 0 (.clearing longLivedToken accessToken revoked)
  | .clearing longLivedToken accessToken revoked =>
    match view .account with
    | none => .proceed .finished
    | some account =>
      if account.longLivedToken = longLivedToken ∧ account.accessToken = accessToken then
        .update (.edit (clearData revoked)) 0 .finished
      else .proceed .finished
  | .called (.editAccount data) => .update (.edit data) 0 .finished
  | .finished => .commit

def leaseSystem : System LeaseKey LeaseCell LeaseCommand LeaseStage LeaseCall where
  target := LeaseCommand.target
  effect := LeaseCommand.effect
  enter := .called
  next := LeaseStage.next

/-- The tables at the start; the sequence is past every generation in use. -/
structure LeaseTables where
  lease : Option Lease
  account : Option Account
  sequence : Nat
  issued : ∀ row ∈ lease, row.generation ≤ sequence

def LeaseTables.rows (tables : LeaseTables) : LeaseView
  | .lease => some tables.lease
  | .account => tables.account

abbrev LeaseDatabase := Database LeaseKey LeaseCell LeaseCommand LeaseStage Nat

abbrev LeaseAction := Action LeaseCall Nat

def runLeases (tables : LeaseTables) (actions : List LeaseAction) : LeaseDatabase :=
  (Database.opened tables.rows tables.sequence).run leaseSystem actions

def LeaseCommand.handle? : LeaseCommand → Option LeaseHandle
  | .heartbeat handle _ _ | .release handle | .lock handle | .write handle _ => some handle
  | _ => none

def generations (log : List LeaseCommand) : List Nat :=
  log.filterMap fun command =>
    match command with
    | .grant lease => some lease.generation
    | _ => none

/-- The generations under which the account was written, in the order of the commits. -/
def writeGenerations (log : List LeaseCommand) : List Nat :=
  log.filterMap fun command =>
    match command with
    | .write handle _ => some handle.generation
    | _ => none

end Tamanor.Sync
