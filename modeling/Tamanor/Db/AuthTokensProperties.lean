import Tamanor.Db.AuthTokens

/-! When one-time tokens keep their promises: each is honoured once, a user has one live token
of a kind, a reset is whole and a consumed verification token verifies its user. -/

set_option autoImplicit false

namespace Tamanor.Db

open Library Library.Interleaving

abbrev AuthSystem := System AuthState AuthStage

abbrev AuthAction := Action AuthRequest AuthChoice Nat

namespace AuthState

variable (state : AuthState)

def Live (kind : AuthTokenKind) (userId tokenHash : String) : Prop :=
  ∃ token, state.tokens.find? (kind, tokenHash) = some token ∧ token.userId = userId ∧
    token.consumedAt = none ∧ state.now < token.expiresAt

def OneLive : Prop :=
  ∀ kind userId first second, state.Live kind userId first → state.Live kind userId second →
    first = second

def Verified (userId : String) : Prop :=
  ∃ user, state.users.find? userId = some user ∧ user.emailVerifiedAt.isSome = true

def VerifiedBy (call : Nat) : Prop :=
  ∀ tokenHash token, state.tokens.find? (.emailVerification, tokenHash) = some token →
    token.consumedBy = some call → state.Verified token.userId

structure PasswordChanged (userId newPasswordHash : String) (now : Int) : Prop where
  user : ∃ user, state.users.find? userId = some user ∧ user.passwordHash = some newPasswordHash ∧
    user.passwordChangedAt = some now
  sessions : ∀ id session, state.sessions.find? id = some session → session.userId = userId →
    session.revokedAt.isSome = true

end AuthState

def AuthStage.creates (kind : AuthTokenKind) (userId : String) : AuthStage → Bool
  | .creating issued owner _ => issued == kind && owner == userId
  | _ => false

def AuthStage.confirms : AuthStage → Bool
  | .confirming _ _ | .marking _ _ _ => true
  | _ => false

/-- A token is created when no other issue for the user stands between its two statements, and
a verification that has consumed its token is not interrupted. -/
def AuthSystem.meetsGuards (system : AuthSystem) : AuthAction → Bool
  | .statement call (.runs _) =>
    match system.calls.find? call with
    | some (.creating kind userId _) => system.alone call (AuthStage.creates kind userId)
    | _ => true
  | .statement call .interrupts => (system.calls.find? call).all fun stage => !stage.confirms
  | _ => true

section Claim

variable (hashAuthToken : String → String)

abbrev authStep : AuthSystem → AuthAction → AuthSystem := (authProgram hashAuthToken).step

/-- A statement of a reset changes the password and revokes every session, or changes
nothing. -/
def ResetWhole (system : AuthSystem) (action : AuthAction) : Prop :=
  ∀ call choice tokenHash newPasswordHash now, action = .statement call choice →
    system.calls.find? call = some (.resetting tokenHash newPasswordHash now) →
    (authStep hashAuthToken system action).shared = system.shared ∨
      ∃ userId, (authStep hashAuthToken system action).shared.PasswordChanged userId
        newPasswordHash now

structure AuthTokensHold (state : AuthState) (actions : List AuthAction) : Prop where
  once : ∀ reached ∈ Runs.states (authStep hashAuthToken) (System.initial state) actions,
    ∀ kind tokenHash first second userId other,
      reached.calls.find? first = some (.honoured kind tokenHash userId) →
      reached.calls.find? second = some (.honoured kind tokenHash other) → first = second
  oneLive : ∀ reached ∈ Runs.states (authStep hashAuthToken) (System.initial state) actions,
    reached.shared.OneLive
  whole : Runs.Meets (authStep hashAuthToken) (ResetWhole hashAuthToken) (System.initial state)
    actions
  verified : ∀ reached ∈ Runs.states (authStep hashAuthToken) (System.initial state) actions,
    ∀ call stage, reached.calls.find? call = some stage → stage.ended = true →
      reached.shared.VerifiedBy call

end Claim

/-- The rows before a run: one live token of a kind for a user, every token of a user who is
there, and none consumed by a call. -/
structure AuthState.Initial (state : AuthState) : Prop where
  oneLive : state.OneLive
  owned : ∀ key token, state.tokens.find? key = some token →
    (state.users.find? token.userId).isSome = true
  unclaimed : ∀ key token, state.tokens.find? key = some token → token.consumedBy = none

/-! What a statement leaves of the rows for the other calls. -/

/-- Consumed tokens stay as they are, a token keeps its user, only the given call consumes one,
and a verified user stays verified. -/
structure Undisturbed (call : Nat) (before after : AuthState) : Prop where
  kept : ∀ key token, before.tokens.find? key = some token →
    ∃ row, after.tokens.find? key = some row ∧ row.userId = token.userId ∧
      (token.consumedAt.isSome = true → row = token)
  back : ∀ key row other, after.tokens.find? key = some row → row.consumedBy = some other →
    other ≠ call → before.tokens.find? key = some row
  verified : ∀ userId, before.Verified userId → after.Verified userId

def NoneRevived (before after : AuthState) : Prop :=
  ∀ kind userId tokenHash, after.Live kind userId tokenHash → before.Live kind userId tokenHash

structure AuthInvariant (state : AuthState) : Prop where
  oneLive : state.OneLive
  owned : ∀ key token, state.tokens.find? key = some token →
    (state.users.find? token.userId).isSome = true
  claimed : ∀ key token, state.tokens.find? key = some token → token.consumedBy.isSome = true →
    token.consumedAt.isSome = true

def Untouched (state : AuthState) (call : Nat) : Prop :=
  ∀ key token, state.tokens.find? key = some token → token.consumedBy ≠ some call

structure Claims (state : AuthState) (call : Nat) (kind : AuthTokenKind)
    (tokenHash userId : String) : Prop where
  row : ∃ token, state.tokens.find? (kind, tokenHash) = some token ∧ token.userId = userId ∧
    token.consumedBy = some call
  only : ∀ key token, state.tokens.find? key = some token → token.consumedBy = some call →
    key = (kind, tokenHash)

def authAssertion (state : AuthState) (call : Nat) : Option AuthStage → Prop
  | some (.creating kind userId _) =>
    Untouched state call ∧ ∀ tokenHash, ¬state.Live kind userId tokenHash
  | some (.confirming tokenHash _) => ∃ userId, Claims state call .emailVerification tokenHash userId
  | some (.marking tokenHash userId _) => Claims state call .emailVerification tokenHash userId
  | some (.honoured kind tokenHash userId) =>
    Claims state call kind tokenHash userId ∧ (kind = .emailVerification → state.Verified userId)
  | _ => Untouched state call

def authAssertions : Assertions AuthState AuthStage := ⟨AuthInvariant, authAssertion⟩

variable {state after : AuthState} {call other : Nat} {kind : AuthTokenKind}
  {userId tokenHash newPasswordHash : String} {now : Int}

theorem Untouched.undisturbed (untouched : Untouched state other)
    (stays : Undisturbed call state after) (different : other ≠ call) : Untouched after other := by
  intro key row found claimed
  exact untouched key row (stays.back key row other found claimed different) claimed

theorem Claims.undisturbed (claims : Claims state other kind tokenHash userId)
    (invariant : AuthInvariant state) (stays : Undisturbed call state after)
    (different : other ≠ call) : Claims after other kind tokenHash userId := by
  obtain ⟨⟨token, found, owner, claimed⟩, only⟩ := claims
  constructor
  · obtain ⟨row, foundRow, _, same⟩ := stays.kept _ _ found
    have consumed := invariant.claimed _ _ found (by rw [claimed]; rfl)
    rw [same consumed] at foundRow
    exact ⟨token, foundRow, owner, claimed⟩
  · intro key row foundRow claimed
    exact only key row (stays.back key row other foundRow claimed different) claimed

theorem authAssertion_undisturbed {stage : Option AuthStage}
    (asserted : authAssertion state other stage) (invariant : AuthInvariant state)
    (stays : Undisturbed call state after) (different : other ≠ call)
    (revived : NoneRevived state after ∨
      ∀ kind userId, stage.any (AuthStage.creates kind userId) = true →
        ∀ tokenHash, after.Live kind userId tokenHash → state.Live kind userId tokenHash) :
    authAssertion after other stage := by
  cases stage with
  | none => exact Untouched.undisturbed asserted stays different
  | some stage =>
    cases stage with
    | creating kind userId now =>
      obtain ⟨untouched, none⟩ := asserted
      refine ⟨untouched.undisturbed stays different, ?_⟩
      intro tokenHash live
      rcases revived with revived | revived
      · exact none tokenHash (revived kind userId tokenHash live)
      · refine none tokenHash (revived kind userId ?_ tokenHash live)
        simp [AuthStage.creates]
    | confirming tokenHash now =>
      obtain ⟨userId, claims⟩ := asserted
      exact ⟨userId, claims.undisturbed invariant stays different⟩
    | marking tokenHash userId now => exact Claims.undisturbed asserted invariant stays different
    | honoured kind tokenHash userId =>
      obtain ⟨claims, verified⟩ := asserted
      refine ⟨claims.undisturbed invariant stays different, ?_⟩
      intro same
      exact stays.verified userId (verified same)
    | replacing kind userId now => exact Untouched.undisturbed asserted stays different
    | verifying tokenHash now => exact Untouched.undisturbed asserted stays different
    | resetting tokenHash newPasswordHash now =>
      exact Untouched.undisturbed asserted stays different
    | classifying kind tokenHash now => exact Untouched.undisturbed asserted stays different
    | created kind tokenHash => exact Untouched.undisturbed asserted stays different
    | refused reason => exact Untouched.undisturbed asserted stays different
    | interrupted => exact Untouched.undisturbed asserted stays different

theorem Undisturbed.of_tokens (tokens : after.tokens = state.tokens)
    (verified : ∀ userId, state.Verified userId → after.Verified userId) :
    Undisturbed call state after where
  kept := by
    intro key token found
    rw [tokens]
    exact ⟨token, found, rfl, fun _ => rfl⟩
  back := by
    intro key row other found _ _
    rw [← tokens]
    exact found
  verified := verified

theorem Undisturbed.trans {third : AuthState} (first : Undisturbed call state after)
    (second : Undisturbed call after third) : Undisturbed call state third where
  kept := by
    intro key token found
    obtain ⟨row, foundRow, owner, same⟩ := first.kept key token found
    obtain ⟨last, foundLast, lastOwner, lastSame⟩ := second.kept key row foundRow
    refine ⟨last, foundLast, lastOwner.trans owner, ?_⟩
    intro consumed
    have kept := same consumed
    rw [lastSame (by rw [kept]; exact consumed), kept]
  back := by
    intro key row other found claimed different
    exact first.back key row other (second.back key row other found claimed different) claimed
      different
  verified := fun userId verified => second.verified userId (first.verified userId verified)

theorem NoneRevived.of_tokens (tokens : after.tokens = state.tokens) (now : state.now ≤ after.now) :
    NoneRevived state after := by
  intro kind userId tokenHash live
  obtain ⟨token, found, owner, unconsumed, unexpired⟩ := live
  rw [tokens] at found
  exact ⟨token, found, owner, unconsumed, by omega⟩

theorem AuthState.OneLive.of_noneRevived (oneLive : state.OneLive)
    (revived : NoneRevived state after) : after.OneLive := by
  intro kind userId first second firstLive secondLive
  exact oneLive kind userId first second (revived _ _ _ firstLive) (revived _ _ _ secondLive)

theorem AuthInvariant.of_tokens (invariant : AuthInvariant state)
    (tokens : after.tokens = state.tokens) (now : state.now ≤ after.now)
    (users : ∀ userId, (state.users.find? userId).isSome = true →
      (after.users.find? userId).isSome = true) : AuthInvariant after where
  oneLive := invariant.oneLive.of_noneRevived (.of_tokens tokens now)
  owned := by
    intro key token found
    rw [tokens] at found
    exact users token.userId (invariant.owned key token found)
  claimed := by
    intro key token found
    rw [tokens] at found
    exact invariant.claimed key token found

/-! The statements that replace tokens. -/

theorem find?_replaceTokens (key : AuthTokenKind × String) :
    (state.replaceTokens kind userId now).tokens.find? key =
      (state.tokens.find? key).map fun token =>
        if key.1 == kind && token.userId == userId && token.consumedAt.isNone then
          { token with consumedAt := some now }
        else token :=
  Table.find?_updateWhere _ _

theorem replaceTokens_back {key : AuthTokenKind × String} {row : AuthToken}
    (found : (state.replaceTokens kind userId now).tokens.find? key = some row) :
    ∃ token, state.tokens.find? key = some token ∧ row.userId = token.userId ∧
      row.expiresAt = token.expiresAt ∧ row.consumedBy = token.consumedBy ∧
      (row = token ∨ token.consumedAt = none ∧ row.consumedAt = some now) := by
  rw [find?_replaceTokens] at found
  obtain ⟨token, foundToken, rfl⟩ := Option.map_eq_some_iff.mp found
  refine ⟨token, foundToken, ?_⟩
  split
  next replaced =>
    have unconsumed : token.consumedAt = none := by
      simp only [Bool.and_eq_true, Option.isNone_iff_eq_none] at replaced
      exact replaced.2
    exact ⟨rfl, rfl, rfl, .inr ⟨unconsumed, rfl⟩⟩
  next => exact ⟨rfl, rfl, rfl, .inl rfl⟩

theorem undisturbed_replaceTokens (invariant : AuthInvariant state) :
    Undisturbed call state (state.replaceTokens kind userId now) where
  kept := by
    intro key token found
    rw [find?_replaceTokens, found]
    refine ⟨_, rfl, ?_, ?_⟩
    · dsimp only
      split <;> rfl
    · intro consumed
      dsimp only
      rw [if_neg]
      intro replaced
      simp only [Bool.and_eq_true, Option.isNone_iff_eq_none] at replaced
      rw [replaced.2] at consumed
      cases consumed
  back := by
    intro key row other found claimed _
    obtain ⟨token, foundToken, _, _, same, kept⟩ := replaceTokens_back found
    rcases kept with rfl | ⟨unconsumed, _⟩
    · exact foundToken
    · have consumed := invariant.claimed key token foundToken (by rw [← same, claimed]; rfl)
      rw [unconsumed] at consumed
      cases consumed
  verified := fun _ verified => verified

theorem noneRevived_replaceTokens : NoneRevived state (state.replaceTokens kind userId now) := by
  intro liveKind liveUser tokenHash live
  obtain ⟨row, found, owner, unconsumed, unexpired⟩ := live
  obtain ⟨token, foundToken, _, _, _, kept⟩ := replaceTokens_back found
  rcases kept with rfl | ⟨_, consumed⟩
  · exact ⟨row, foundToken, owner, unconsumed, unexpired⟩
  · rw [unconsumed] at consumed
    cases consumed

theorem authInvariant_replaceTokens (invariant : AuthInvariant state) :
    AuthInvariant (state.replaceTokens kind userId now) where
  oneLive := invariant.oneLive.of_noneRevived noneRevived_replaceTokens
  owned := by
    intro key row found
    obtain ⟨token, foundToken, owner, _⟩ := replaceTokens_back found
    rw [owner]
    exact invariant.owned key token foundToken
  claimed := by
    intro key row found claimed
    obtain ⟨token, foundToken, _, _, same, kept⟩ := replaceTokens_back found
    rw [same] at claimed
    rcases kept with rfl | ⟨_, consumed⟩
    · exact invariant.claimed key row foundToken claimed
    · rw [consumed]
      rfl

theorem replaceTokens_none_live (tokenHash : String) :
    ¬(state.replaceTokens kind userId now).Live kind userId tokenHash := by
  intro live
  obtain ⟨row, found, owner, unconsumed, _⟩ := live
  rw [find?_replaceTokens] at found
  obtain ⟨token, foundToken, same⟩ := Option.map_eq_some_iff.mp found
  split at same
  next =>
    rw [← same] at unconsumed
    cases unconsumed
  next untouched =>
    subst same
    simp [owner, unconsumed] at untouched

structure Creates (state after : AuthState) (kind : AuthTokenKind) (userId tokenHash : String)
    (now : Int) : Prop where
  user : (state.users.find? userId).isSome = true
  fresh : state.tokens.find? (kind, tokenHash) = none
  after : after = { state with
    tokens := state.tokens.insert (kind, tokenHash) ⟨userId, now + kind.ttlMs, none, none⟩ }

theorem createToken_some (created : state.createToken kind userId tokenHash now = some after) :
    Creates state after kind userId tokenHash now := by
  unfold AuthState.createToken at created
  split at created
  next can =>
    cases created
    exact ⟨can.1, by simpa using can.2, rfl⟩
  next => cases created

theorem Creates.find? (creates : Creates state after kind userId tokenHash now)
    (key : AuthTokenKind × String) :
    after.tokens.find? key = if key = (kind, tokenHash) then
      some ⟨userId, now + kind.ttlMs, none, none⟩ else state.tokens.find? key := by
  rw [creates.after]
  exact Table.find?_insert _ creates.fresh

theorem Creates.undisturbed (creates : Creates state after kind userId tokenHash now) :
    Undisturbed call state after where
  kept := by
    intro key token found
    refine ⟨token, ?_, rfl, fun _ => rfl⟩
    rw [creates.after]
    exact Table.find?_insert_of_found creates.fresh found
  back := by
    intro key row other found claimed _
    rw [creates.find?] at found
    split at found
    next =>
      cases found
      cases claimed
    next => exact found
  verified := by
    intro verifiedUser verified
    rw [creates.after]
    exact verified

theorem Creates.live (creates : Creates state after kind userId tokenHash now)
    {liveKind : AuthTokenKind} {liveUser liveHash : String}
    (live : after.Live liveKind liveUser liveHash) :
    (liveKind = kind ∧ liveUser = userId ∧ liveHash = tokenHash) ∨
      state.Live liveKind liveUser liveHash := by
  obtain ⟨row, found, owner, unconsumed, unexpired⟩ := live
  rw [creates.find?] at found
  split at found
  next same =>
    cases found
    cases same
    exact .inl ⟨rfl, owner.symm, rfl⟩
  next =>
    rw [creates.after] at unexpired
    exact .inr ⟨row, found, owner, unconsumed, unexpired⟩

theorem Creates.invariant (creates : Creates state after kind userId tokenHash now)
    (invariant : AuthInvariant state) (none : ∀ tokenHash, ¬state.Live kind userId tokenHash) :
    AuthInvariant after where
  oneLive := by
    intro liveKind liveUser first second firstLive secondLive
    rcases creates.live firstLive with ⟨rfl, rfl, rfl⟩ | firstOld
    · rcases creates.live secondLive with ⟨_, _, rfl⟩ | secondOld
      · rfl
      · exact (none second secondOld).elim
    · rcases creates.live secondLive with ⟨rfl, rfl, rfl⟩ | secondOld
      · exact (none first firstOld).elim
      · exact invariant.oneLive _ _ _ _ firstOld secondOld
  owned := by
    intro key row found
    have users : after.users = state.users := by rw [creates.after]
    rw [users]
    rw [creates.find?] at found
    split at found
    next =>
      cases found
      exact creates.user
    next => exact invariant.owned key row found
  claimed := by
    intro key row found claimed
    rw [creates.find?] at found
    split at found
    next =>
      cases found
      cases claimed
    next => exact invariant.claimed key row found claimed

structure Consumes (state after : AuthState) (call : Nat) (kind : AuthTokenKind)
    (tokenHash : String) (now : Int) (token : AuthToken) : Prop where
  found : state.tokens.find? (kind, tokenHash) = some token
  unconsumed : token.consumedAt = none
  after : after = { state with
    tokens := state.tokens.modify (kind, tokenHash) fun row =>
      { row with consumedAt := some now, consumedBy := some call } }

theorem consumeToken_some (consumed : state.consumeToken call kind tokenHash now = some after) :
    ∃ token, Consumes state after call kind tokenHash now token := by
  unfold AuthState.consumeToken at consumed
  split at consumed
  next => cases consumed
  next token found =>
    split at consumed
    next can =>
      cases consumed
      simp only [AuthToken.consumable, Bool.and_eq_true, Option.isNone_iff_eq_none] at can
      exact ⟨token, found, can.1, rfl⟩
    next => cases consumed

variable {token : AuthToken}

theorem Consumes.find? (consumes : Consumes state after call kind tokenHash now token)
    (key : AuthTokenKind × String) :
    after.tokens.find? key = if key = (kind, tokenHash) then
      some { token with consumedAt := some now, consumedBy := some call }
      else state.tokens.find? key := by
  rw [consumes.after]
  dsimp only
  rw [Table.find?_modify]
  split
  next same =>
    rw [same, consumes.found]
    rfl
  next => rfl

theorem Consumes.undisturbed (consumes : Consumes state after call kind tokenHash now token) :
    Undisturbed call state after where
  kept := by
    intro key row found
    by_cases same : key = (kind, tokenHash)
    · rw [consumes.find?, if_pos same]
      rw [same, consumes.found] at found
      cases found
      refine ⟨_, rfl, rfl, ?_⟩
      intro consumed
      rw [consumes.unconsumed] at consumed
      cases consumed
    · rw [consumes.find?, if_neg same]
      exact ⟨row, found, rfl, fun _ => rfl⟩
  back := by
    intro key row other found claimed different
    rw [consumes.find?] at found
    split at found
    next =>
      cases found
      cases claimed
      exact (different rfl).elim
    next => exact found
  verified := by
    intro verifiedUser verified
    rw [consumes.after]
    exact verified

theorem Consumes.noneRevived (consumes : Consumes state after call kind tokenHash now token) :
    NoneRevived state after := by
  intro liveKind liveUser liveHash live
  obtain ⟨row, found, owner, unconsumed, unexpired⟩ := live
  rw [consumes.find?] at found
  split at found
  next =>
    cases found
    cases unconsumed
  next =>
    rw [consumes.after] at unexpired
    exact ⟨row, found, owner, unconsumed, unexpired⟩

theorem Consumes.invariant (consumes : Consumes state after call kind tokenHash now token)
    (invariant : AuthInvariant state) : AuthInvariant after where
  oneLive := invariant.oneLive.of_noneRevived consumes.noneRevived
  owned := by
    intro key row found
    have users : after.users = state.users := by rw [consumes.after]
    rw [users]
    rw [consumes.find?] at found
    split at found
    next =>
      cases found
      exact invariant.owned _ token consumes.found
    next => exact invariant.owned key row found
  claimed := by
    intro key row found claimed
    rw [consumes.find?] at found
    split at found
    next =>
      cases found
      rfl
    next => exact invariant.claimed key row found claimed

theorem Consumes.claims (consumes : Consumes state after call kind tokenHash now token)
    (untouched : Untouched state call) : Claims after call kind tokenHash token.userId where
  row := by
    rw [consumes.find?, if_pos rfl]
    exact ⟨_, rfl, rfl, rfl⟩
  only := by
    intro key row found claimed
    rw [consumes.find?] at found
    split at found
    next same => exact same
    next => exact (untouched key row found claimed).elim

theorem Claims.of_tokens (claims : Claims state call kind tokenHash userId)
    (tokens : after.tokens = state.tokens) : Claims after call kind tokenHash userId := by
  obtain ⟨row, only⟩ := claims
  constructor
  · rw [tokens]
    exact row
  · rw [tokens]
    exact only

/-! The statements that change a user. -/

theorem AuthState.Verified.modify (change : AuthUser → AuthUser) {verifiedUser : String}
    (verified : state.Verified verifiedUser)
    (keeps : ∀ user, user.emailVerifiedAt.isSome = true →
      (change user).emailVerifiedAt.isSome = true)
    (users : after.users = state.users.modify userId change) : after.Verified verifiedUser := by
  obtain ⟨user, found, isVerified⟩ := verified
  unfold AuthState.Verified
  rw [users, Table.find?_modify]
  split
  · exact ⟨change user, by rw [found]; rfl, keeps user isVerified⟩
  · exact ⟨user, found, isVerified⟩

theorem undisturbed_markVerified : Undisturbed call state (state.markVerified userId now) := by
  refine .of_tokens rfl ?_
  intro verifiedUser verified
  refine AuthState.Verified.modify
    (fun user => { user with emailVerifiedAt := user.emailVerifiedAt.or (some now) })
    verified ?_ rfl
  intro user isVerified
  rw [Option.isSome_or, isVerified, Bool.true_or]

theorem authInvariant_markVerified (invariant : AuthInvariant state) :
    AuthInvariant (state.markVerified userId now) :=
  invariant.of_tokens rfl le_rfl fun _ present => (Table.isSome_find?_modify ..).trans present

theorem verified_markVerified (present : (state.users.find? userId).isSome = true) :
    (state.markVerified userId now).Verified userId := by
  obtain ⟨user, found⟩ := Option.isSome_iff_exists.mp present
  unfold AuthState.Verified AuthState.markVerified
  dsimp only
  rw [Table.find?_modify, if_pos rfl, found]
  refine ⟨_, rfl, ?_⟩
  rw [Option.isSome_or]
  exact Bool.or_true _

theorem undisturbed_changePassword :
    Undisturbed call state (state.changePassword userId newPasswordHash now) := by
  refine .of_tokens rfl ?_
  intro verifiedUser verified
  refine AuthState.Verified.modify
    (fun user =>
      { user with passwordHash := some newPasswordHash, passwordChangedAt := some now })
    verified ?_ rfl
  intro user isVerified
  exact isVerified

theorem authInvariant_changePassword (invariant : AuthInvariant state) :
    AuthInvariant (state.changePassword userId newPasswordHash now) :=
  invariant.of_tokens rfl le_rfl fun _ present => (Table.isSome_find?_modify ..).trans present

theorem passwordChanged_changePassword (present : (state.users.find? userId).isSome = true) :
    (state.changePassword userId newPasswordHash now).PasswordChanged userId newPasswordHash
      now where
  user := by
    obtain ⟨user, found⟩ := Option.isSome_iff_exists.mp present
    unfold AuthState.changePassword
    dsimp only
    rw [Table.find?_modify, if_pos rfl, found]
    exact ⟨_, rfl, rfl, rfl⟩
  sessions := by
    intro id session found owner
    unfold AuthState.changePassword at found
    dsimp only at found
    rw [Table.find?_updateWhere] at found
    obtain ⟨before, _, rfl⟩ := Option.map_eq_some_iff.mp found
    split
    next => rfl
    next untouched =>
      rw [if_neg untouched] at owner
      cases revoked : before.revokedAt with
      | some instant => rfl
      | none => simp [owner, revoked] at untouched

structure Resets (state after : AuthState) (call : Nat) (tokenHash newPasswordHash userId : String)
    (now : Int) : Prop where
  consumed : ∃ between token, Consumes state between call .passwordReset tokenHash now token ∧
    token.userId = userId ∧ (between.users.find? userId).isSome = true ∧
    after = between.changePassword userId newPasswordHash now

theorem resetTransaction_committed
    (committed : state.resetTransaction call tokenHash newPasswordHash now =
      .committed after userId) :
    Resets state after call tokenHash newPasswordHash userId now := by
  unfold AuthState.resetTransaction at committed
  split at committed
  next => cases committed
  next between consumed =>
    obtain ⟨token, consumes⟩ := consumeToken_some consumed
    split at committed
    next => cases committed
    next row found =>
      rw [consumes.find?, if_pos rfl] at found
      cases found
      split at committed
      next present =>
        cases committed
        exact ⟨between, token, consumes, rfl, present, rfl⟩
      next => cases committed

theorem Resets.undisturbed (resets : Resets state after call tokenHash newPasswordHash userId now) :
    Undisturbed call state after := by
  obtain ⟨between, token, consumes, _, _, rfl⟩ := resets.consumed
  exact consumes.undisturbed.trans undisturbed_changePassword

theorem Resets.noneRevived (resets : Resets state after call tokenHash newPasswordHash userId now) :
    NoneRevived state after := by
  obtain ⟨between, token, consumes, _, _, rfl⟩ := resets.consumed
  intro liveKind liveUser liveHash live
  exact consumes.noneRevived _ _ _ live

theorem Resets.invariant (resets : Resets state after call tokenHash newPasswordHash userId now)
    (invariant : AuthInvariant state) : AuthInvariant after := by
  obtain ⟨between, token, consumes, _, _, rfl⟩ := resets.consumed
  exact authInvariant_changePassword (consumes.invariant invariant)

theorem Resets.claims (resets : Resets state after call tokenHash newPasswordHash userId now)
    (untouched : Untouched state call) : Claims after call .passwordReset tokenHash userId := by
  obtain ⟨between, token, consumes, rfl, _, rfl⟩ := resets.consumed
  exact (consumes.claims untouched).of_tokens rfl

theorem Resets.passwordChanged
    (resets : Resets state after call tokenHash newPasswordHash userId now) :
    after.PasswordChanged userId newPasswordHash now := by
  obtain ⟨between, token, _, _, present, rfl⟩ := resets.consumed
  exact passwordChanged_changePassword present

/-! What each statement keeps, and what it leaves for its own call. -/

structure StatementKeeps (state : AuthState) (call : Nat) (stage : AuthStage) (after : AuthState)
    (next : AuthStage) : Prop where
  invariant : AuthInvariant after
  own : authAssertion after call (some next)
  undisturbed : Undisturbed call state after
  revived : NoneRevived state after ∨ ∃ kind userId, stage.creates kind userId = true ∧
    ∀ liveKind liveUser tokenHash, after.Live liveKind liveUser tokenHash →
      (liveKind = kind ∧ liveUser = userId) ∨ state.Live liveKind liveUser tokenHash

variable {stage next : AuthStage}

theorem StatementKeeps.same (invariant : AuthInvariant state)
    (own : authAssertion state call (some next)) : StatementKeeps state call stage state next where
  invariant := invariant
  own := own
  undisturbed := .of_tokens rfl fun _ verified => verified
  revived := .inl (.of_tokens rfl le_rfl)

theorem statementKeeps_run (hashAuthToken : String → String) (rawToken : String)
    (invariant : AuthInvariant state) (asserted : authAssertion state call (some stage)) :
    StatementKeeps state call stage
      (runAuthStatement hashAuthToken state call rawToken stage).1
      (runAuthStatement hashAuthToken state call rawToken stage).2 := by
  cases stage with
  | replacing kind userId now =>
    have stays : Undisturbed call state (state.replaceTokens kind userId now) :=
      undisturbed_replaceTokens invariant
    refine ⟨authInvariant_replaceTokens invariant, ⟨?_, replaceTokens_none_live⟩, stays,
      .inl noneRevived_replaceTokens⟩
    intro key row found claimed
    obtain ⟨token, foundToken, _, _, same, _⟩ := replaceTokens_back found
    exact asserted key token foundToken (same ▸ claimed)
  | creating kind userId now =>
    obtain ⟨untouched, none⟩ := asserted
    unfold runAuthStatement
    dsimp only
    split
    next => exact .same invariant untouched
    next after created =>
      have creates := createToken_some created
      refine ⟨creates.invariant invariant none, ?_, creates.undisturbed, .inr ?_⟩
      · intro key row found claimed
        rw [creates.find?] at found
        split at found
        next =>
          cases found
          cases claimed
        next => exact untouched key row found claimed
      · refine ⟨kind, userId, by simp [AuthStage.creates], ?_⟩
        intro liveKind liveUser liveHash live
        rcases creates.live live with ⟨sameKind, sameUser, _⟩ | live
        · exact .inl ⟨sameKind, sameUser⟩
        · exact .inr live
  | verifying tokenHash now =>
    unfold runAuthStatement
    dsimp only
    split
    next => exact .same invariant asserted
    next after consumed =>
      obtain ⟨token, consumes⟩ := consumeToken_some consumed
      exact ⟨consumes.invariant invariant, ⟨_, consumes.claims asserted⟩, consumes.undisturbed,
        .inl consumes.noneRevived⟩
  | confirming tokenHash now =>
    obtain ⟨userId, claims⟩ := asserted
    obtain ⟨token, found, owner, _⟩ := claims.row
    unfold runAuthStatement
    dsimp only
    rw [found]
    refine .same invariant ?_
    rw [← owner] at claims
    exact claims
  | marking tokenHash userId now =>
    have claims : Claims state call .emailVerification tokenHash userId := asserted
    obtain ⟨token, found, owner, _⟩ := claims.row
    have present := invariant.owned _ token found
    rw [owner] at present
    refine ⟨authInvariant_markVerified invariant, ⟨claims.of_tokens rfl, ?_⟩,
      undisturbed_markVerified, .inl (.of_tokens rfl le_rfl)⟩
    intro _
    exact verified_markVerified present
  | resetting tokenHash newPasswordHash now =>
    unfold runAuthStatement
    dsimp only
    split
    next => exact .same invariant asserted
    next => exact .same invariant asserted
    next after userId committed =>
      have resets := resetTransaction_committed committed
      refine ⟨resets.invariant invariant, ⟨resets.claims asserted, ?_⟩, resets.undisturbed,
        .inl resets.noneRevived⟩
      intro same
      cases same
  | classifying kind tokenHash now => exact .same invariant asserted
  | created kind tokenHash => exact .same invariant asserted
  | honoured kind tokenHash userId => exact .same invariant asserted
  | refused reason => exact .same invariant asserted
  | interrupted => exact .same invariant asserted

theorem statementKeeps_interrupt (invariant : AuthInvariant state)
    (asserted : authAssertion state call (some stage)) (confirms : stage.confirms = false) :
    StatementKeeps state call stage state (if stage.ended then stage else .interrupted) := by
  refine .same invariant ?_
  cases stage with
  | replacing kind userId now => exact asserted
  | creating kind userId now => exact asserted.1
  | verifying tokenHash now => exact asserted
  | confirming tokenHash now => cases confirms
  | marking tokenHash userId now => cases confirms
  | resetting tokenHash newPasswordHash now => exact asserted
  | classifying kind tokenHash now => exact asserted
  | created kind tokenHash => exact asserted
  | honoured kind tokenHash userId => exact asserted
  | refused reason => exact asserted
  | interrupted => exact asserted

section Sound

variable (hashAuthToken : String → String) {system : AuthSystem}

theorem statementKeeps {choice : AuthChoice} (holds : authAssertions.Hold system)
    (meets : AuthSystem.meetsGuards system (.statement call choice) = true)
    (found : system.calls.find? call = some stage) :
    StatementKeeps system.shared call stage
      ((authProgram hashAuthToken).statement system.shared call stage choice).1
      ((authProgram hashAuthToken).statement system.shared call stage choice).2 := by
  have asserted := holds.at_stage found
  cases choice with
  | runs rawToken => exact statementKeeps_run hashAuthToken rawToken holds.invariant asserted
  | interrupts =>
    refine statementKeeps_interrupt holds.invariant asserted ?_
    simp only [AuthSystem.meetsGuards, found, Option.all_some, Bool.not_eq_true'] at meets
    exact meets

theorem alone_of_creates {choice : AuthChoice}
    (meets : AuthSystem.meetsGuards system (.statement call choice) = true)
    (found : system.calls.find? call = some stage) (creates : stage.creates kind userId = true)
    (moved : ((authProgram hashAuthToken).statement system.shared call stage choice).1 ≠
      system.shared) : system.alone call (AuthStage.creates kind userId) = true := by
  cases choice with
  | interrupts => exact (moved rfl).elim
  | runs rawToken =>
    cases stage with
    | creating issued owner now =>
      simp only [AuthStage.creates, Bool.and_eq_true, beq_iff_eq] at creates
      obtain ⟨rfl, rfl⟩ := creates
      simpa only [AuthSystem.meetsGuards, found] using meets
    | _ => cases creates

theorem authAssertions_sound :
    authAssertions.Sound (authProgram hashAuthToken)
      fun system action => AuthSystem.meetsGuards system action = true where
  enter := by
    intro system call request _ _ absent
    cases request with
    | create kind userId => exact absent
    | verify rawToken => exact absent
    | reset rawToken newPasswordHash => exact absent
  statement := by
    intro system call stage choice holds meets found
    have keeps := statementKeeps hashAuthToken holds meets found
    exact ⟨keeps.invariant, keeps.own⟩
  undisturbed := by
    intro system call stage choice other holds meets found different
    have keeps := statementKeeps hashAuthToken holds meets found
    refine authAssertion_undisturbed (holds.assertion other) holds.invariant keeps.undisturbed
      different ?_
    rcases keeps.revived with none | ⟨kind, userId, creates, live⟩
    · exact .inl none
    by_cases moved :
        ((authProgram hashAuthToken).statement system.shared call stage choice).1 = system.shared
    · rw [moved]
      exact .inl (.of_tokens rfl le_rfl)
    · have alone := System.alone_iff.mp (alone_of_creates hashAuthToken meets found creates moved)
      refine .inr ?_
      intro liveKind liveUser stands tokenHash isLive
      rcases live _ _ _ isLive with ⟨rfl, rfl⟩ | before
      · cases standing : system.calls.find? other with
        | none =>
          rw [standing] at stands
          cases stands
        | some there =>
          rw [standing, Option.any_some, alone other there standing different] at stands
          cases stands
      · exact before
  occur := by
    intro system elapsed holds _
    have later : system.shared.now ≤ system.shared.now + (elapsed : Int) := by omega
    constructor
    · exact holds.invariant.of_tokens rfl later fun _ present => present
    · intro call
      have stays : Undisturbed (call + 1) system.shared
          ((authProgram hashAuthToken).occur system.shared elapsed) :=
        .of_tokens rfl fun _ verified => verified
      exact authAssertion_undisturbed (holds.assertion call) holds.invariant stays (by omega)
        (.inl (.of_tokens rfl later))

theorem AuthState.Initial.hold (initial : state.Initial) :
    authAssertions.Hold (System.initial state) := by
  refine .initial ⟨initial.oneLive, initial.owned, ?_⟩ ?_
  · intro key token found claimed
    rw [initial.unclaimed key token found] at claimed
    cases claimed
  · intro call key token found claimed
    rw [initial.unclaimed key token found] at claimed
    cases claimed

theorem claims_of_honoured (holds : authAssertions.Hold system)
    (found : system.calls.find? call = some (.honoured kind tokenHash userId)) :
    Claims system.shared call kind tokenHash userId := (holds.at_stage found).1

theorem verifiedBy_of_ended (holds : authAssertions.Hold system)
    (found : system.calls.find? call = some stage) (ended : stage.ended = true) :
    system.shared.VerifiedBy call := by
  have asserted := holds.at_stage found
  intro tokenHash token foundToken claimed
  cases stage with
  | honoured kind honouredHash userId =>
    obtain ⟨claims, verified⟩ := asserted
    obtain ⟨row, foundRow, owner, _⟩ := claims.row
    have same := claims.only _ token foundToken claimed
    cases same
    rw [foundRow] at foundToken
    cases foundToken
    rw [owner]
    exact verified rfl
  | created kind tokenHash => exact (asserted _ token foundToken claimed).elim
  | refused reason => exact (asserted _ token foundToken claimed).elim
  | interrupted => exact (asserted _ token foundToken claimed).elim
  | replacing kind userId now => cases ended
  | creating kind userId now => cases ended
  | verifying tokenHash now => cases ended
  | confirming tokenHash now => cases ended
  | marking tokenHash userId now => cases ended
  | resetting tokenHash newPasswordHash now => cases ended
  | classifying kind tokenHash now => cases ended

theorem resetWhole (system : AuthSystem) (action : AuthAction) :
    ResetWhole hashAuthToken system action := by
  intro call choice tokenHash newPasswordHash now same found
  subst same
  unfold authStep
  rw [Program.step_statement found]
  dsimp only
  cases choice with
  | interrupts => exact .inl rfl
  | runs rawToken =>
    unfold authProgram runAuthStatement
    dsimp only
    split
    next => exact .inl rfl
    next => exact .inl rfl
    next after userId committed =>
      exact .inr ⟨userId, (resetTransaction_committed committed).passwordChanged⟩

end Sound

/-- In every run in which no two issues for a user overlap and no verification is interrupted
once it has consumed its token, the tokens keep their promises. -/
theorem authTokensHold_of_guarded (hashAuthToken : String → String) (state : AuthState)
    (actions : List AuthAction) (initial : state.Initial)
    (guarded : Runs.Meets (authStep hashAuthToken)
      (fun system action => AuthSystem.meetsGuards system action = true)
      (System.initial state) actions) : AuthTokensHold hashAuthToken state actions := by
  have states := (authAssertions_sound hashAuthToken).states initial.hold guarded
  constructor
  · intro reached member kind tokenHash first second userId other firstFound secondFound
    have firstClaims := claims_of_honoured (states reached member) firstFound
    have secondClaims := claims_of_honoured (states reached member) secondFound
    obtain ⟨token, foundToken, _, byFirst⟩ := firstClaims.row
    obtain ⟨row, foundRow, _, bySecond⟩ := secondClaims.row
    rw [foundToken] at foundRow
    cases foundRow
    rw [byFirst] at bySecond
    cases bySecond
    rfl
  · intro reached member
    exact (states reached member).invariant.oneLive
  · exact (authAssertions_sound hashAuthToken).meets (fun _ _ => resetWhole hashAuthToken _ _)
      initial.hold guarded
  · intro reached member call stage found ended
    exact verifiedBy_of_ended (states reached member) found ended

def emptyAuthState : AuthState where
  now := 0
  tokens := .empty
  users := Table.empty.insert "u" ⟨none, some "old", none⟩
  sessions := Table.empty.insert "s" ⟨"h", "u", "t", 0, 1000, some 1000, false, 0, none, none⟩

theorem emptyAuthState_initial : emptyAuthState.Initial where
  oneLive := by
    intro kind userId first second live
    obtain ⟨token, found, _⟩ := live
    cases found
  owned := by
    intro key token found
    cases found
  unclaimed := by
    intro key token found
    cases found

theorem authTokensHold_of_issues :
    AuthTokensHold id emptyAuthState
      [.enter 0 (.create .emailVerification "u"), .statement 0 (.runs ""), .statement 0 (.runs "a"),
        .enter 1 (.create .emailVerification "u"), .statement 1 (.runs ""), .statement 1 (.runs "b"),
        .enter 2 (.verify "b"), .statement 2 (.runs ""), .statement 2 (.runs ""),
        .statement 2 (.runs ""), .occur 5, .enter 3 (.create .passwordReset "u"),
        .statement 3 (.runs ""), .statement 3 (.runs "c"), .enter 4 (.reset "c" "new"),
        .statement 4 (.runs "")] :=
  authTokensHold_of_guarded id emptyAuthState _ emptyAuthState_initial (by decide +kernel)

/-- Two overlapping issues leave two live tokens: both replace the earlier ones before either
creates its own. -/
theorem overlapping_issues_accumulate :
    ¬∀ (hashAuthToken : String → String) (state : AuthState) (actions : List AuthAction),
      state.Initial → AuthTokensHold hashAuthToken state actions := by
  intro claim
  have holds := claim id emptyAuthState
    [.enter 0 (.create .passwordReset "u"), .enter 1 (.create .passwordReset "u"),
      .statement 0 (.runs ""), .statement 1 (.runs ""), .statement 0 (.runs "a"),
      .statement 1 (.runs "b")] emptyAuthState_initial
  have single := holds.oneLive _ (Runs.run_mem_states _) .passwordReset "u" "a" "b"
  have same := single ⟨⟨"u", 3600000, none, none⟩, by decide +kernel⟩
    ⟨⟨"u", 3600000, none, none⟩, by decide +kernel⟩
  revert same
  decide

end Tamanor.Db
