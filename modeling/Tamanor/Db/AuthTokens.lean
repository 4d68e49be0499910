import Tamanor.Library.Interleaving

/-! One-time tokens for e-mail verification and password reset (`auth-tokens.ts`): the
statements of the four operations on the rows, and calls that run them side by side. An
instant is an integer of milliseconds. -/

set_option autoImplicit false

namespace Tamanor.Db

open Library

inductive AuthTokenKind where
  | emailVerification | passwordReset
deriving DecidableEq

def verificationTtlMs : Int := 24 * 60 * 60 * 1000

def resetTtlMs : Int := 60 * 60 * 1000

def AuthTokenKind.ttlMs : AuthTokenKind → Int
  | .emailVerification => verificationTtlMs
  | .passwordReset => resetTtlMs

/-- A token row. The model remembers which call consumed it; an issue replaces tokens without
consuming one of its own. -/
structure AuthToken where
  userId : String
  expiresAt : Int
  consumedAt : Option Int
  consumedBy : Option Nat
deriving DecidableEq

def AuthToken.consumable (token : AuthToken) (now : Int) : Bool :=
  token.consumedAt.isNone && decide (now < token.expiresAt)

structure AuthUser where
  emailVerifiedAt : Option Int
  passwordHash : Option String
  passwordChangedAt : Option Int

structure UserSession where
  tokenHash : String
  userId : String
  activeTenantId : String
  createdAt : Int
  expiresAt : Int
  absoluteExpiresAt : Option Int
  rememberMe : Bool
  lastSeenAt : Int
  revokedAt : Option Int
  rotatedFromId : Option String
deriving DecidableEq

structure AuthState where
  now : Int
  tokens : Table (AuthTokenKind × String) AuthToken
  users : Table String AuthUser
  sessions : Table String UserSession

inductive ConsumeReason where
  | invalid | expired | consumed

namespace AuthState

variable (state : AuthState)

def replaceTokens (kind : AuthTokenKind) (userId : String) (now : Int) : AuthState :=
  { state with
    tokens := state.tokens.updateWhere
      (fun key token => key.1 == kind && token.userId == userId && token.consumedAt.isNone)
      fun token => { token with consumedAt := some now } }

/-- The second statement: it throws for a user who is not there and for a hash that is taken. -/
def createToken (kind : AuthTokenKind) (userId tokenHash : String) (now : Int) : Option AuthState :=
  if (state.users.find? userId).isSome ∧ (state.tokens.find? (kind, tokenHash)).isNone then
    some { state with
      tokens := state.tokens.insert (kind, tokenHash) ⟨userId, now + kind.ttlMs, none, none⟩ }
  else none

def consumeToken (call : Nat) (kind : AuthTokenKind) (tokenHash : String) (now : Int) :
    Option AuthState :=
  match state.tokens.find? (kind, tokenHash) with
  | none => none
  | some token =>
    if token.consumable now then
      some { state with
        tokens := state.tokens.modify (kind, tokenHash) fun row =>
          { row with consumedAt := some now, consumedBy := some call } }
    else none

def markVerified (userId : String) (now : Int) : AuthState :=
  { state with
    users := state.users.modify userId fun user =>
      { user with emailVerifiedAt := user.emailVerifiedAt.or (some now) } }

def changePassword (userId newPasswordHash : String) (now : Int) : AuthState :=
  { state with
    users := state.users.modify userId fun user =>
      { user with passwordHash := some newPasswordHash, passwordChangedAt := some now }
    sessions := state.sessions.updateWhere
      (fun _ session => session.userId == userId && session.revokedAt.isNone)
      fun session => { session with revokedAt := some now } }

def classify (kind : AuthTokenKind) (tokenHash : String) (now : Int) : ConsumeReason :=
  match state.tokens.find? (kind, tokenHash) with
  | none => .invalid
  | some token =>
    if token.consumedAt.isSome then .consumed
    else if token.expiresAt ≤ now then .expired
    else .invalid

end AuthState

/-- The transaction of a reset: the guard fails, a statement throws, or it commits. -/
inductive ResetOutcome where
  | guarded
  | threw
  | committed (state : AuthState) (userId : String)

/-- `resetPasswordWithToken` up to its commit. Nothing of what it wrote is left unless it
commits. -/
def AuthState.resetTransaction (state : AuthState) (call : Nat)
    (tokenHash newPasswordHash : String) (now : Int) : ResetOutcome :=
  match state.consumeToken call .passwordReset tokenHash now with
  | none => .guarded
  | some consumed =>
    match consumed.tokens.find? (.passwordReset, tokenHash) with
    | none => .guarded
    | some token =>
      if (consumed.users.find? token.userId).isSome then
        .committed (consumed.changePassword token.userId newPasswordHash now) token.userId
      else .threw

inductive AuthRequest where
  | create (kind : AuthTokenKind) (userId : String)
  | verify (rawToken : String)
  | reset (rawToken newPasswordHash : String)

/-- What a call does next, with the instant it read when it began, or how it ended. -/
inductive AuthStage where
  | replacing (kind : AuthTokenKind) (userId : String) (now : Int)
  | creating (kind : AuthTokenKind) (userId : String) (now : Int)
  | verifying (tokenHash : String) (now : Int)
  | confirming (tokenHash : String) (now : Int)
  | marking (tokenHash userId : String) (now : Int)
  | resetting (tokenHash newPasswordHash : String) (now : Int)
  | classifying (kind : AuthTokenKind) (tokenHash : String) (now : Int)
  | created (kind : AuthTokenKind) (tokenHash : String)
  | honoured (kind : AuthTokenKind) (tokenHash userId : String)
  | refused (reason : ConsumeReason)
  | interrupted

/-- A statement runs, or the call is interrupted before it. A creation draws a random token. -/
inductive AuthChoice where
  | runs (rawToken : String)
  | interrupts

section Program

variable (hashAuthToken : String → String)

def enterAuth (state : AuthState) : AuthRequest → AuthStage
  | .create kind userId => .replacing kind userId state.now
  | .verify rawToken => .verifying (hashAuthToken rawToken) state.now
  | .reset rawToken newPasswordHash =>
    .resetting (hashAuthToken rawToken) newPasswordHash state.now

def runAuthStatement (state : AuthState) (call : Nat) (rawToken : String) :
    AuthStage → AuthState × AuthStage
  | .replacing kind userId now =>
    (state.replaceTokens kind userId now, .creating kind userId now)
  | .creating kind userId now =>
    match state.createToken kind userId (hashAuthToken rawToken) now with
    | none => (state, .interrupted)
    | some after => (after, .created kind (hashAuthToken rawToken))
  | .verifying tokenHash now =>
    match state.consumeToken call .emailVerification tokenHash now with
    | none => (state, .classifying .emailVerification tokenHash now)
    | some after => (after, .confirming tokenHash now)
  | .confirming tokenHash now =>
    match state.tokens.find? (.emailVerification, tokenHash) with
    | none => (state, .refused .invalid)
    | some token => (state, .marking tokenHash token.userId now)
  | .marking tokenHash userId now =>
    (state.markVerified userId now, .honoured .emailVerification tokenHash userId)
  | .resetting tokenHash newPasswordHash now =>
    match state.resetTransaction call tokenHash newPasswordHash now with
    | .guarded => (state, .classifying .passwordReset tokenHash state.now)
    | .threw => (state, .interrupted)
    | .committed after userId => (after, .honoured .passwordReset tokenHash userId)
  | .classifying kind tokenHash now =>
    (state, .refused (state.classify kind tokenHash now))
  | ended => (state, ended)

def AuthStage.ended : AuthStage → Bool
  | .created _ _ | .honoured _ _ _ | .refused _ | .interrupted => true
  | _ => false

/-- A call that ended takes no more statements. Beside the calls time passes. -/
def authProgram : Interleaving.Program AuthState AuthRequest AuthStage AuthChoice Nat where
  enter := enterAuth hashAuthToken
  statement := fun state call stage choice =>
    match choice with
    | .runs rawToken => runAuthStatement hashAuthToken state call rawToken stage
    | .interrupts => (state, if stage.ended then stage else .interrupted)
  occur := fun state elapsed => { state with now := state.now + elapsed }

end Program

end Tamanor.Db
