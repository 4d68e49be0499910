import Tamanor.Db.ChildSafetyIntegrationProperties

/-! When the revocation of an integration key is final. -/

set_option autoImplicit false

namespace Tamanor.Db

open Tamanor.Core Library Library.Interleaving

section

variable {runtime : IntegrationRuntime} {state after : IntegrationState runtime}

def GatewayStage.verifiedKey : GatewayStage runtime → Option String
  | .matching signal => some signal.keyId
  | .replaying signal => some signal.keyId
  | .piloting signal => some signal.keyId
  | .linking signal => some signal.keyId
  | .persisting signal _ => some signal.keyId
  | .repeated signal => some signal.keyId
  | .correlating signal _ _ => some signal.keyId
  | .ended (some signal) _ => some signal.keyId
  | _ => none

def GatewayStage.acceptingKey : GatewayStage runtime → Option String
  | .correlating signal _ _ => some signal.keyId
  | .ended (some signal) answer =>
    if answer.code = .signalAccepted then some signal.keyId else none
  | _ => none

def KeysDistinct (state : IntegrationState runtime) : Prop :=
  ∀ first second row other, state.keys.find? first = some row →
    state.keys.find? second = some other → row.installationId = other.installationId →
    row.keyVersion = other.keyVersion → first = second

/-- No run of the gateway accepts a signal with a key that was retired when it started: one that
was revoked, or that of a sandbox call which has returned. Such a key is not usable, and the key
versions of an installation are distinct. -/
structure RevocationFinal (system : IntegrationSystem runtime) : Prop where
  rejected : ∀ call run stage keyId, system.calls.find? call = some (.gateway run stage) →
    stage.acceptingKey = some keyId → keyId ∉ run.retired
  sandbox : ∀ call run keyId answer key,
    system.calls.find? call = some (.returned run keyId answer) →
    system.shared.keys.find? keyId = some key → key.usable system.shared.now = false
  distinct : KeysDistinct system.shared

/-- A rotation is written for a key that has not been retired since it was read, and the
revocation that ends a sandbox call does not fail. -/
def IntegrationSystem.finalizes (system : IntegrationSystem runtime) : IntegrationAction → Bool
  | .statement call choice =>
    match system.calls.find? call, choice with
    | some (.rotating keyId _), .runs _ => !system.shared.retired.contains keyId
    | some (.gateway run (.ended _ _)), .throws => run.sandboxKey.isNone
    | _, _ => true
  | _ => true

structure IntegrationState.KeysReady (state : IntegrationState runtime) : Prop where
  retired : ∀ keyId ∈ state.retired,
    ∃ key, state.keys.find? keyId = some key ∧ key.status = .revoked
  distinct : KeysDistinct state

/-! What a statement does to the keys. -/

/-- What the other calls are left with: keys stay, and so do the retired ones. -/
structure KeysKept (state after : IntegrationState runtime) : Prop where
  present : ∀ keyId, (state.keys.find? keyId).isSome = true → (after.keys.find? keyId).isSome = true
  retired : ∀ keyId ∈ state.retired, keyId ∈ after.retired

theorem KeysKept.refl (state : IntegrationState runtime) : KeysKept state state :=
  ⟨fun _ present => present, fun _ member => member⟩

theorem KeysKept.of_eq (keys : after.keys = state.keys) (retired : after.retired = state.retired) :
    KeysKept state after := by
  refine ⟨?_, ?_⟩
  · rw [keys]
    exact fun _ present => present
  · rw [retired]
    exact fun _ member => member

theorem IntegrationState.KeysReady.of_eq (ready : state.KeysReady) (keys : after.keys = state.keys)
    (retired : after.retired = state.retired) : after.KeysReady := by
  refine ⟨?_, ?_⟩
  · rw [keys, retired]
    exact ready.retired
  · unfold KeysDistinct
    rw [keys]
    exact ready.distinct

variable {keyId : String} {stage : GatewayStage runtime}

theorem KeysDistinct.modify (distinct : KeysDistinct state)
    (change : IntegrationKey → IntegrationKey) (keys : after.keys = state.keys.modify keyId change)
    (installation : ∀ key, (change key).installationId = key.installationId)
    (version : ∀ key, (change key).keyVersion = key.keyVersion) : KeysDistinct after := by
  have back : ∀ id row, after.keys.find? id = some row → ∃ key, state.keys.find? id = some key ∧
      row.installationId = key.installationId ∧ row.keyVersion = key.keyVersion := by
    intro id row found
    rw [keys, Table.find?_modify] at found
    split at found
    · obtain ⟨key, before, rfl⟩ := Option.map_eq_some_iff.mp found
      exact ⟨key, before, installation key, version key⟩
    · exact ⟨row, found, rfl, rfl⟩
  intro first second row other found foundOther same versions
  obtain ⟨key, before, installed, versioned⟩ := back first row found
  obtain ⟨otherKey, beforeOther, installedOther, versionedOther⟩ := back second other foundOther
  exact distinct first second key otherKey before beforeOther
    (installed.symm.trans (same.trans installedOther))
    (versioned.symm.trans (versions.trans versionedOther))

theorem ready_revoke (ready : state.KeysReady) (now : Int)
    (present : (state.keys.find? keyId).isSome = true) :
    ((state.revoke keyId now).retire keyId).KeysReady where
  retired := by
    intro id member
    unfold IntegrationState.revoke IntegrationState.retire at member ⊢
    dsimp only at member ⊢
    rw [Table.find?_modify]
    split
    next same =>
      obtain ⟨key, found⟩ := Option.isSome_iff_exists.mp present
      rw [same, found]
      exact ⟨_, rfl, rfl⟩
    next different =>
      obtain same | member := List.mem_cons.mp member
      · exact absurd same different
      · exact ready.retired id member
  distinct := ready.distinct.modify
    (fun key => { key with status := .revoked, revokedAt := some now }) rfl (fun _ => rfl) fun _ => rfl

theorem kept_revoke (keyId : String) (now : Int) :
    KeysKept state ((state.revoke keyId now).retire keyId) where
  present := fun _ present => (Table.isSome_find?_modify ..).trans present
  retired := fun _ member => List.mem_cons_of_mem _ member

theorem ready_rotate (ready : state.KeysReady) (now : Int) (unretired : keyId ∉ state.retired) :
    (state.rotate keyId now).KeysReady where
  retired := by
    intro id member
    obtain ⟨key, found, revoked⟩ := ready.retired id member
    refine ⟨key, ?_, revoked⟩
    unfold IntegrationState.rotate
    dsimp only
    rw [Table.find?_modify, if_neg]
    · exact found
    · intro same
      rw [same] at member
      exact unretired member
  distinct := ready.distinct.modify
    (fun key => { key with status := .rotating, validUntil := some (now + rotationOverlapMs) }) rfl
    (fun _ => rfl) fun _ => rfl

theorem kept_rotate (keyId : String) (now : Int) : KeysKept state (state.rotate keyId now) where
  present := fun _ present => (Table.isSome_find?_modify ..).trans present
  retired := fun _ member => member

structure RunKnows (state : IntegrationState runtime) (run : GatewayRun)
    (stage : GatewayStage runtime) : Prop where
  sandbox : ∀ keyId, run.sandboxKey = some keyId → (state.keys.find? keyId).isSome = true
  retired : ∀ keyId ∈ run.retired, keyId ∈ state.retired
  verified : ∀ keyId, stage.verifiedKey = some keyId → keyId ∉ run.retired

def KeysKnown (state : IntegrationState runtime) : IntegrationStage runtime → Prop
  | .gateway run stage => RunKnows state run stage
  | .returned _ keyId _ => keyId ∈ state.retired
  | .revoking keyId _ => (state.keys.find? keyId).isSome = true
  | _ => True

theorem KeysKnown.kept {stage : IntegrationStage runtime} (known : KeysKnown state stage)
    (kept : KeysKept state after) : KeysKnown after stage := by
  cases stage with
  | gateway run stage =>
    obtain ⟨sandbox, retired, verified⟩ := known
    exact ⟨fun keyId same => kept.present keyId (sandbox keyId same),
      fun keyId member => kept.retired keyId (retired keyId member), verified⟩
  | returned run keyId answer => exact kept.retired keyId known
  | revoking keyId now => exact kept.present keyId known
  | _ => exact trivial

theorem resolve_unverified (input : GatewayInput) (now : Int) :
    (state.resolve input now).verifiedKey = none :=
  resolve_ends (fun stage => stage.verifiedKey = none) input now (fun _ _ => rfl) fun _ _ _ => rfl

theorem authenticate_unretired (ready : state.KeysReady) (signal : ReceivedSignal runtime)
    (verified : (state.authenticate signal).verifiedKey = some keyId) :
    keyId ∉ state.retired := by
  unfold IntegrationState.authenticate at verified
  split at verified
  next => cases verified
  next id key found =>
    split_ifs at verified with usable
    · cases verified
      intro member
      obtain ⟨row, stored, revoked⟩ := ready.retired id member
      have same : state.keys.find? id = some key := Table.find?_of_find?_rows found
      rw [stored] at same
      cases same
      unfold IntegrationKey.usable at usable
      rw [revoked] at usable
      cases usable
    · cases verified
    · cases verified

theorem gatewayStatement_key (ready : state.KeysReady) (call : Nat) (free : GatewayFreedom)
    (verified : (state.gatewayStatement call free stage).2.verifiedKey = some keyId) :
    stage.verifiedKey = some keyId ∨ keyId ∉ state.retired := by
  cases stage with
  | resolving input now =>
    change (state.resolve input now).verifiedKey = some keyId at verified
    rw [resolve_unverified] at verified
    cases verified
  | limiting signal =>
    change (state.limit signal).verifiedKey = some keyId at verified
    unfold IntegrationState.limit at verified
    dsimp only at verified
    split at verified
    · cases verified
    · cases verified
  | authenticating signal => exact .inr (authenticate_unretired ready signal verified)
  | matching signal =>
    change (state.matchKey signal).verifiedKey = some keyId at verified
    unfold IntegrationState.matchKey at verified
    split at verified
    · exact .inl verified
    · split at verified
      · exact .inl verified
      · exact .inl verified
  | replaying signal =>
    change (state.checkNonce signal).verifiedKey = some keyId at verified
    unfold IntegrationState.checkNonce at verified
    split_ifs at verified
    · exact .inl verified
    · exact .inl verified
    · exact .inl verified
    · exact .inl verified
  | piloting signal =>
    unfold IntegrationState.gatewayStatement at verified
    dsimp only at verified
    split at verified
    · exact .inl verified
    · exact .inl verified
    · exact .inl verified
  | linking signal => exact .inl verified
  | persisting signal profile =>
    obtain ⟨created, _, correlating⟩ | ⟨_, ⟨replayed, _⟩ | ⟨repeated, _⟩ | closed⟩ :=
      persist_cases state call signal profile free
    · change (state.persist call signal profile free).2.verifiedKey = some keyId at verified
      rw [correlating] at verified
      exact .inl verified
    · change (state.persist call signal profile free).2.verifiedKey = some keyId at verified
      rw [replayed] at verified
      exact .inl verified
    · change (state.persist call signal profile free).2.verifiedKey = some keyId at verified
      rw [repeated] at verified
      exact .inl verified
    · change (state.persist call signal profile free).2.verifiedKey = some keyId at verified
      rw [closed] at verified
      exact .inl verified
  | repeated signal => exact .inl verified
  | correlating signal receiptId created => exact .inl verified
  | ended signal answer => exact .inl verified

theorem persist_keys (call : Nat) (signal : ValidSignal runtime) (profile : Option String)
    (free : GatewayFreedom) :
    (state.persist call signal profile free).1.keys = state.keys ∧
      (state.persist call signal profile free).1.retired = state.retired := by
  obtain ⟨_, persists, _⟩ | ⟨unchanged, _⟩ := persist_cases state call signal profile free
  · exact ⟨persists.keys, persists.retired⟩
  · rw [unchanged]
    exact ⟨rfl, rfl⟩

variable (state) in
theorem gatewayStatement_keys (call : Nat) (free : GatewayFreedom) (stage : GatewayStage runtime) :
    (state.gatewayStatement call free stage).1.keys = state.keys ∧
      (state.gatewayStatement call free stage).1.retired = state.retired := by
  cases stage with
  | persisting signal profile => exact persist_keys call signal profile free
  | piloting signal =>
    unfold IntegrationState.gatewayStatement
    dsimp only
    split
    · exact ⟨rfl, rfl⟩
    · exact ⟨rfl, rfl⟩
    · exact ⟨rfl, rfl⟩
  | _ => exact ⟨rfl, rfl⟩

/-- What a statement has to establish: the keys are ready, the other calls keep what they know,
and the call knows what its next stage needs. -/
structure KeepsKeys (state after : IntegrationState runtime) (next : IntegrationStage runtime) :
    Prop where
  ready : after.KeysReady
  kept : KeysKept state after
  known : KeysKnown after next

theorem keepsKeys_unchanged (ready : state.KeysReady) {next : IntegrationStage runtime}
    (known : KeysKnown state next) : KeepsKeys state state next :=
  ⟨ready, KeysKept.refl state, known⟩

theorem keepsKeys_createKey (ready : state.KeysReady) (registration : Registration)
    (keyVersion : Nat) (keyId : String) :
    KeepsKeys state (state.createKey registration keyVersion keyId).1
      (state.createKey registration keyVersion keyId).2 := by
  unfold IntegrationState.createKey
  split
  next => exact keepsKeys_unchanged ready trivial
  next untaken =>
    rw [Bool.or_eq_true, not_or] at untaken
    obtain ⟨untakenId, untakenVersion⟩ := untaken
    have fresh : state.keys.find? keyId = none := by simpa using untakenId
    have kept : KeysKept state { state with
        keys := state.keys.insert keyId ⟨registration.tenantId, registration.installationId,
          keyVersion, registration.publicKey, .active, none, none⟩ } := by
      refine ⟨?_, fun _ member => member⟩
      intro id present
      obtain ⟨row, found⟩ := Option.isSome_iff_exists.mp present
      dsimp only
      rw [Table.find?_insert_of_found fresh found]
      rfl
    have version : ∀ id row, state.keys.find? id = some row →
        row.installationId = registration.installationId → row.keyVersion ≠ keyVersion := by
      intro id row found installation same
      refine untakenVersion (List.any_eq_true.mpr ⟨(id, row), Table.find?_eq_some_iff.mp found, ?_⟩)
      rw [installation, same, beq_self_eq_true, beq_self_eq_true]
      rfl
    refine ⟨⟨?_, ?_⟩, kept, ?_⟩
    · intro id member
      obtain ⟨key, found, revoked⟩ := ready.retired id member
      exact ⟨key, Table.find?_insert_of_found fresh found, revoked⟩
    · intro first second row other found foundOther installation versions
      dsimp only at found foundOther
      rw [Table.find?_insert keyId fresh] at found foundOther
      split at found
      next same =>
        cases found
        split at foundOther
        next sameOther => rw [same, sameOther]
        next => exact absurd versions.symm (version second other foundOther installation.symm)
      next =>
        split at foundOther
        next =>
          cases foundOther
          exact absurd versions (version first row found installation)
        next => exact ready.distinct first second row other found foundOther installation versions
    · dsimp only
      split
      · exact trivial
      · refine ⟨?_, fun _ member => member, nofun⟩
        intro id same
        cases same
        dsimp only
        rw [Table.find?_insert keyId fresh, if_pos rfl]
        rfl

theorem keepsKeys_gateway (ready : state.KeysReady) (call : Nat) (free : GatewayFreedom)
    {run : GatewayRun} (known : RunKnows state run stage) :
    KeepsKeys state (state.gatewayStatement call free stage).1
      (.gateway run (state.gatewayStatement call free stage).2) := by
  obtain ⟨keys, retired⟩ := gatewayStatement_keys state call free stage
  have kept : KeysKept state (state.gatewayStatement call free stage).1 := .of_eq keys retired
  refine ⟨ready.of_eq keys retired, kept, ?_, ?_, ?_⟩
  · exact fun keyId same => kept.present keyId (known.sandbox keyId same)
  · exact fun keyId member => kept.retired keyId (known.retired keyId member)
  · intro keyId verified
    obtain before | unretired := gatewayStatement_key ready call free verified
    · exact known.verified keyId before
    · exact fun member => unretired (known.retired keyId member)

theorem throws_verifiedKey (verified : stage.throws.verifiedKey = some keyId) :
    stage.verifiedKey = some keyId := by
  cases stage with
  | correlating => exact verified
  | ended => exact verified
  | _ => cases verified

theorem keepsKeys_statement (ready : state.KeysReady) (call : Nat)
    {stage : IntegrationStage runtime} (choice : IntegrationChoice) (known : KeysKnown state stage)
    (rotates : ∀ keyId now free, stage = .rotating keyId now → choice = .runs free →
      keyId ∉ state.retired)
    (revokes : ∀ run signal answer, stage = .gateway run (.ended signal answer) →
      choice = .throws → run.sandboxKey = none) :
    KeepsKeys state ((integrationProgram runtime).statement state call stage choice).1
      ((integrationProgram runtime).statement state call stage choice).2 := by
  cases choice with
  | dies =>
    refine keepsKeys_unchanged ready ?_
    change KeysKnown state stage.dies
    unfold IntegrationStage.dies
    split
    next =>
      split
      · exact known
      · exact trivial
    next => exact known
    next => exact trivial
  | throws =>
    change KeepsKeys state (state.throws stage).1 (state.throws stage).2
    unfold IntegrationState.throws
    split
    next run signal answer =>
      rw [revokes run signal answer rfl rfl]
      exact keepsKeys_unchanged ready known
    next run stage _ =>
      obtain ⟨sandbox, retired, verified⟩ := known
      exact keepsKeys_unchanged ready
        ⟨sandbox, retired, fun keyId same => verified keyId (throws_verifiedKey same)⟩
    next => exact keepsKeys_unchanged ready known
    next => exact keepsKeys_unchanged ready trivial
    next => exact keepsKeys_unchanged ready trivial
  | runs free =>
    change KeepsKeys state (state.statement call free stage).1
      (state.statement call free stage).2
    cases stage with
    | gateway run stage =>
      cases stage with
      | ended signal answer =>
        obtain ⟨sandboxKey, retired⟩ := run
        cases sandboxKey with
        | none => exact keepsKeys_unchanged ready known
        | some keyId =>
          exact ⟨ready_revoke ready state.now (known.sandbox keyId rfl),
            kept_revoke keyId state.now, List.mem_cons_self⟩
      | _ => exact keepsKeys_gateway ready call free known
    | returned run keyId answer => exact keepsKeys_unchanged ready known
    | finding registration =>
      refine keepsKeys_unchanged ready ?_
      change KeysKnown state (state.findInstallation registration)
      unfold IntegrationState.findInstallation
      split
      · split <;> exact trivial
      · exact trivial
    | versioning registration => exact keepsKeys_unchanged ready trivial
    | creating registration keyVersion =>
      exact keepsKeys_createKey ready registration keyVersion free.receiptId
    | readingRotation tenantId keyId =>
      unfold IntegrationState.statement
      dsimp only
      split
      · refine keepsKeys_unchanged ready ?_
        split <;> exact trivial
      · exact keepsKeys_unchanged ready trivial
    | rotating keyId now =>
      exact ⟨ready_rotate ready now (rotates keyId now free rfl rfl), kept_rotate keyId now,
        trivial⟩
    | readingRevocation tenantId keyId =>
      refine keepsKeys_unchanged ready ?_
      unfold IntegrationState.statement
      dsimp only
      split
      next present =>
        unfold IntegrationState.readKey at present
        cases found : state.keys.find? keyId with
        | none =>
          rw [found] at present
          cases present
        | some key =>
          change (state.keys.find? keyId).isSome = true
          rw [found]
          rfl
      next => exact trivial
    | revoking keyId now =>
      exact ⟨ready_revoke ready now known, kept_revoke keyId now, trivial⟩
    | readingStatus tenantId installationId status =>
      refine keepsKeys_unchanged ready ?_
      unfold IntegrationState.statement
      dsimp only
      split <;> exact trivial
    | settingStatus installationId status =>
      exact ⟨ready.of_eq rfl rfl, .of_eq rfl rfl, trivial⟩
    | administered => exact keepsKeys_unchanged ready trivial
    | dead => exact keepsKeys_unchanged ready trivial

def keyAssertions (runtime : IntegrationRuntime) :
    Assertions (IntegrationState runtime) (IntegrationStage runtime) where
  invariant := IntegrationState.KeysReady
  assertion := fun state _ stage => ∀ entered, stage = some entered → KeysKnown state entered

theorem keyAssertions_sound (runtime : IntegrationRuntime) :
    (keyAssertions runtime).Sound (integrationProgram runtime)
      fun system action => IntegrationSystem.finalizes system action = true := by
  have statement : ∀ {system : IntegrationSystem runtime} {call : Nat}
      {stage : IntegrationStage runtime} {choice : IntegrationChoice},
      (keyAssertions runtime).Hold system →
      IntegrationSystem.finalizes system (.statement call choice) = true →
      system.calls.find? call = some stage →
        KeepsKeys system.shared
          ((integrationProgram runtime).statement system.shared call stage choice).1
          ((integrationProgram runtime).statement system.shared call stage choice).2 := by
    intro system call stage choice holds meets found
    unfold IntegrationSystem.finalizes at meets
    dsimp only at meets
    rw [found] at meets
    refine keepsKeys_statement holds.invariant call choice (holds.at_stage found stage rfl) ?_ ?_
    · intro keyId now free same runs
      rw [same, runs] at meets
      simpa using meets
    · intro run signal answer same throws
      rw [same, throws] at meets
      exact Option.isNone_iff_eq_none.mp meets
  constructor
  case enter =>
    intro system call request holds _ _ entered same
    cases same
    cases request with
    | deliver input => exact ⟨nofun, fun _ member => member, nofun⟩
    | registerKey permitted registration => cases permitted <;> exact trivial
    | startRotation permitted tenantId keyId => cases permitted <;> exact trivial
    | revokeKey permitted tenantId keyId => cases permitted <;> exact trivial
    | setInstallationStatus permitted tenantId installationId status =>
      cases permitted <;> exact trivial
  case statement =>
    intro system call stage choice holds meets found
    obtain ⟨ready, _, known⟩ := statement holds meets found
    exact ⟨ready, fun entered same => by cases same; exact known⟩
  case undisturbed =>
    intro system call stage choice other holds meets found _ entered same
    exact (holds.assertion other entered same).kept (statement holds meets found).kept
  case occur =>
    intro system event holds _
    have ready : system.shared.KeysReady := holds.invariant
    refine ⟨ready.of_eq rfl rfl, ?_⟩
    intro call entered same
    exact (holds.assertion call entered same).kept (.of_eq rfl rfl)

theorem acceptingKey_verified (accepting : stage.acceptingKey = some keyId) :
    stage.verifiedKey = some keyId := by
  cases stage with
  | correlating => exact accepting
  | ended signal answer =>
    cases signal with
    | none => cases accepting
    | some signal =>
      unfold GatewayStage.acceptingKey at accepting
      dsimp only at accepting
      split at accepting
      · exact accepting
      · cases accepting
  | _ => cases accepting

theorem revocationFinal_of_hold {system : IntegrationSystem runtime}
    (holds : (keyAssertions runtime).Hold system) : RevocationFinal system := by
  have ready : system.shared.KeysReady := holds.invariant
  refine ⟨?_, ?_, ready.distinct⟩
  · intro call run stage keyId found accepting
    have known : RunKnows system.shared run stage := holds.at_stage found _ rfl
    exact known.verified keyId (acceptingKey_verified accepting)
  · intro call run keyId answer key found stored
    have retired : keyId ∈ system.shared.retired := holds.at_stage found _ rfl
    obtain ⟨row, same, revoked⟩ := ready.retired keyId retired
    rw [stored] at same
    cases same
    unfold IntegrationKey.usable
    rw [revoked]
    rfl

end

/-- In every run in which no rotation is written for a key that has been retired since it was
read, and in which no revocation that ends a sandbox call fails, revocations are final. -/
theorem revocationFinal_of_finalizes (runtime : IntegrationRuntime)
    (state : IntegrationState runtime) (actions : List IntegrationAction) (ready : state.KeysReady)
    (finalizes : Runs.Meets (integrationStep runtime)
      (fun system action => IntegrationSystem.finalizes system action = true)
      (System.initial state) actions) :
    ∀ reached ∈ Runs.states (integrationStep runtime) (System.initial state) actions,
      RevocationFinal reached := by
  have start : (keyAssertions runtime).Hold (System.initial state) :=
    Assertions.Hold.initial ready fun call entered absent => by cases absent
  intro reached member
  exact revocationFinal_of_hold ((keyAssertions_sound runtime).states start finalizes reached member)

theorem sampleIntegration_ready : sampleIntegration.KeysReady where
  retired := nofun
  distinct := by
    intro first second row other found foundOther _ _
    unfold sampleIntegration at found foundOther
    dsimp only at found foundOther
    rw [Table.find?_insert "key" rfl] at found foundOther
    split at found
    next same =>
      split at foundOther
      next sameOther => rw [same, sameOther]
      next => cases foundOther
    next => cases found

/-- A rotation, then a revocation, and a request that is refused. -/
theorem revocationFinal_of_rotation :
    RevocationFinal
      (Runs.run (integrationStep sampleRuntime) (System.initial sampleIntegration)
        [.enter 0 (.startRotation true "t" "key"), integrationRuns 0 "", integrationRuns 0 "",
          .enter 1 (.revokeKey true "t" "key"), integrationRuns 1 "", integrationRuns 1 "",
          .enter 2 (.deliver (sampleInput "first")), integrationRuns 2 "", integrationRuns 2 "",
          integrationRuns 2 ""]) :=
  revocationFinal_of_finalizes sampleRuntime sampleIntegration _ sampleIntegration_ready
    (by decide +kernel) _ (Runs.run_mem_states _)

/-- A rotation that has read its key before the revocation and writes it afterwards; then a
request under the revoked key. -/
def rotationAfterRevocation : List IntegrationAction :=
  [.enter 0 (.startRotation true "t" "key"), integrationRuns 0 "",
    .enter 1 (.revokeKey true "t" "key"), integrationRuns 1 "", integrationRuns 1 "",
    integrationRuns 0 "", .enter 2 (.deliver (sampleInput "first"))] ++
      List.replicate 8 (integrationRuns 2 "r")

def acceptsRetired (system : IntegrationSystem sampleRuntime) (call : Nat) : Bool :=
  (system.calls.find? call).any fun stage =>
    match stage with
    | .gateway run stage => stage.acceptingKey.any run.retired.contains
    | _ => false

theorem not_final_of_acceptsRetired {system : IntegrationSystem sampleRuntime} {call : Nat}
    (accepts : acceptsRetired system call = true) : ¬RevocationFinal system := by
  intro final
  unfold acceptsRetired at accepts
  cases found : system.calls.find? call with
  | none =>
    rw [found] at accepts
    cases accepts
  | some stage =>
    rw [found, Option.any_some] at accepts
    split at accepts
    next run stage =>
      cases accepting : stage.acceptingKey with
      | none =>
        rw [accepting] at accepts
        cases accepts
      | some keyId =>
        rw [accepting, Option.any_some, List.contains_iff_mem] at accepts
        exact final.rejected call run stage keyId found accepting accepts
    next => cases accepts

/-- A revoked key is rotating again, and its signal accepted. -/
theorem rotation_revives_key :
    ¬∀ (runtime : IntegrationRuntime) (state : IntegrationState runtime)
      (actions : List IntegrationAction), state.KeysReady →
      ∀ reached ∈ Runs.states (integrationStep runtime) (System.initial state) actions,
        RevocationFinal reached := by
  intro claim
  have final := claim sampleRuntime sampleIntegration rotationAfterRevocation
    sampleIntegration_ready _ (Runs.run_mem_states _)
  have accepts : acceptsRetired (Runs.run (integrationStep sampleRuntime)
      (System.initial sampleIntegration) rotationAfterRevocation) 2 = true := by decide +kernel
  exact not_final_of_acceptsRetired accepts final

end Tamanor.Db
