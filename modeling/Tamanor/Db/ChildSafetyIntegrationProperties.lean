import Tamanor.Db.ChildSafetyIntegration

/-! What the partner gateway creates in any interleaving: every receipt and every canonical
signal goes back to one verified and valid request, once. -/

set_option autoImplicit false

namespace Tamanor.Db

open Tamanor.Core Library Library.Interleaving

abbrev IntegrationSystem (runtime : IntegrationRuntime) :=
  System (IntegrationState runtime) (IntegrationStage runtime)

abbrev IntegrationAction := Action IntegrationRequest IntegrationChoice Nat

abbrev integrationStep (runtime : IntegrationRuntime) :
    IntegrationSystem runtime → IntegrationAction → IntegrationSystem runtime :=
  (integrationProgram runtime).step

section stages

variable {runtime : IntegrationRuntime}

def IntegrationStage.answer? : IntegrationStage runtime → Option GatewayAnswer
  | .gateway _ (.ended _ answer) => some answer
  | .returned _ _ answer => some answer
  | _ => none

def IntegrationStage.accepts : IntegrationStage runtime → Bool
  | .gateway _ (.correlating _ _ _) => true
  | .gateway _ (.ended _ answer) => answer.code == .signalAccepted
  | .returned _ _ answer => answer.code == .signalAccepted
  | .dead => true
  | _ => false

end stages

section effects

variable {runtime : IntegrationRuntime} {state after : IntegrationState runtime} {call : Nat}

/-! How a request leaves the checks before the limit. -/

def resolveRefusals : List IntegrationErrorCode :=
  [.payloadTooLarge, .integrationAuthRequired, .payloadInvalid, .integrationUnknown,
    .integrationSuspended, .protocolUnsupported, .timestampOutOfWindow]

/-- It is refused with one of their errors, or goes on to the limit with the row of its
installation. -/
theorem resolve_ends (property : GatewayStage runtime → Prop) (input : GatewayInput) (now : Int)
    (refused : ∀ code ∈ resolveRefusals, property (refuse code))
    (limiting : ∀ signal : ReceivedSignal runtime, signal.input = input →
      state.installations.find? signal.installationId = some signal.installation →
      property (.limiting signal)) :
    property (state.resolve input now) := by
  unfold IntegrationState.resolve
  split
  · exact refused .payloadTooLarge (by decide)
  · split
    · split
      · exact refused .integrationAuthRequired (by decide)
      · split
        · exact refused .payloadInvalid (by decide)
        · split
          · split
            · unfold IntegrationState.checkInstallation
              split
              · exact refused .integrationUnknown (by decide)
              next installation found =>
                split_ifs
                · exact refused .integrationUnknown (by decide)
                · exact refused .integrationSuspended (by decide)
                · exact refused .protocolUnsupported (by decide)
                · exact refused .timestampOutOfWindow (by decide)
                · exact refused .payloadInvalid (by decide)
                · exact limiting _ rfl found
            · exact refused .integrationAuthRequired (by decide)
          · exact refused .integrationAuthRequired (by decide)
    · exact refused .integrationAuthRequired (by decide)

structure Persists (state after : IntegrationState runtime) (call : Nat)
    (signal : ValidSignal runtime) (receiptId : String)
    (created : Option (String × CanonicalSignal runtime)) (decided : Bool) : Prop where
  keyFree : state.receiptByKey signal.toReceivedSignal = none
  nonceFree : state.receiptByNonce signal.toReceivedSignal = none
  receiptFresh : state.receipts.find? receiptId = none
  createdFresh : ∀ id row, created = some (id, row) →
    state.signals.find? id = none ∧ row.origin = signal ∧ row.call = call
  receipts : after.receipts =
    state.receipts.insert receiptId (signal.receipt call (created.map Prod.fst) decided)
  signals : after.signals = match created with
    | none => state.signals
    | some (id, row) => state.signals.insert id row
  keys : after.keys = state.keys
  installations : after.installations = state.installations
  retired : after.retired = state.retired

variable (state call) in
theorem persist_cases (signal : ValidSignal runtime) (profile : Option String)
    (free : GatewayFreedom) :
    (∃ created,
      Persists state (state.persist call signal profile free).1 call signal free.receiptId created
        free.decided ∧
      (state.persist call signal profile free).2 =
        .correlating signal free.receiptId (created.map Prod.fst)) ∨
    (state.persist call signal profile free).1 = state ∧
      (((state.persist call signal profile free).2 =
          .ended (some signal.toVerifiedSignal) (.ofCode .nonceReplayed) ∧
        (state.receiptByNonce signal.toReceivedSignal).isSome = true ∧
        (free.nonceReported = true ∨ state.receiptByKey signal.toReceivedSignal = none)) ∨
      ((state.persist call signal profile free).2 = .repeated signal ∧
        (state.receiptByKey signal.toReceivedSignal).isSome = true) ∨
      (state.persist call signal profile free).2 =
        .ended (some signal.toVerifiedSignal) (.ofCode .internalFailClosed)) := by
  unfold IntegrationState.persist
  dsimp only
  split
  next replayed =>
    rw [Bool.and_eq_true, Bool.or_eq_true, Bool.not_eq_true', Option.isSome_eq_false_iff,
      Option.isNone_iff_eq_none] at replayed
    exact .inr ⟨rfl, .inl ⟨rfl, replayed⟩⟩
  next unreplayed =>
    split
    next taken => exact .inr ⟨rfl, .inr (.inl ⟨rfl, taken⟩)⟩
    next keyFree =>
      have key : state.receiptByKey signal.toReceivedSignal = none := by simpa using keyFree
      have nonce : state.receiptByNonce signal.toReceivedSignal = none := by
        rw [key] at unreplayed
        simpa using unreplayed
      split
      next => exact .inr ⟨rfl, .inr (.inr rfl)⟩
      next ids =>
        rw [Bool.or_eq_true, not_or] at ids
        have receiptFresh : state.receipts.find? free.receiptId = none := by simpa using ids.1
        have signalFresh : state.signals.find? free.signalId = none := by simpa using ids.2
        left
        cases canonical : IntegrationState.canonicalOf signal call profile with
        | none =>
          dsimp only
          refine ⟨none, ⟨key, nonce, receiptFresh, ?_, rfl, rfl, rfl, rfl, rfl⟩, rfl⟩
          intro id row same
          cases same
        | some row =>
          dsimp only
          refine ⟨some (free.signalId, row),
            ⟨key, nonce, receiptFresh, ?_, rfl, rfl, rfl, rfl, rfl⟩, rfl⟩
          intro id other same
          cases same
          unfold IntegrationState.canonicalOf at canonical
          obtain ⟨owner, _, typed⟩ := Option.bind_eq_some_iff.mp canonical
          obtain ⟨type, _, rfl⟩ := Option.map_eq_some_iff.mp typed
          exact ⟨signalFresh, rfl, rfl⟩

structure Unpersisted (state after : IntegrationState runtime) : Prop where
  receipts : after.receipts = state.receipts
  signals : after.signals = state.signals

theorem accepts_dies (stage : IntegrationStage runtime) (accepts : stage.accepts = true) :
    stage.dies.accepts = true := by
  unfold IntegrationStage.dies
  split
  next run signal answer =>
    split
    · exact accepts
    · rfl
  next => exact accepts
  next => rfl

theorem throws_unpersisted (stage : IntegrationStage runtime) :
    Unpersisted state (state.throws stage).1 ∧
      (stage.accepts = true → (state.throws stage).2.accepts = true) := by
  cases stage with
  | gateway run stage =>
    cases stage with
    | ended signal answer =>
      obtain ⟨sandboxKey, retired⟩ := run
      cases sandboxKey with
      | none => exact ⟨⟨rfl, rfl⟩, id⟩
      | some keyId => exact ⟨⟨rfl, rfl⟩, id⟩
    | correlating => exact ⟨⟨rfl, rfl⟩, fun _ => rfl⟩
    | _ => exact ⟨⟨rfl, rfl⟩, fun accepts => by cases accepts⟩
  | returned run keyId answer => exact ⟨⟨rfl, rfl⟩, id⟩
  | dead => exact ⟨⟨rfl, rfl⟩, id⟩
  | _ => exact ⟨⟨rfl, rfl⟩, fun accepts => by cases accepts⟩

theorem createKey_unpersisted (registration : Registration) (keyVersion : Nat) (keyId : String) :
    Unpersisted state (state.createKey registration keyVersion keyId).1 := by
  unfold IntegrationState.createKey
  split <;> exact ⟨rfl, rfl⟩

variable (state call) in
/-- A statement accepts a signal by its transaction, or leaves receipts and signals alone and does
not come to accept one. -/
theorem statement_cases (stage : IntegrationStage runtime) (choice : IntegrationChoice) :
    (∃ run signal profile, ∃ free : GatewayFreedom, ∃ created,
      stage = .gateway run (.persisting signal profile) ∧
      Persists state ((integrationProgram runtime).statement state call stage choice).1 call signal
        free.receiptId created free.decided ∧
      ((integrationProgram runtime).statement state call stage choice).2 =
        .gateway run (.correlating signal free.receiptId (created.map Prod.fst))) ∨
    Unpersisted state ((integrationProgram runtime).statement state call stage choice).1 ∧
      (stage.accepts = true →
        ((integrationProgram runtime).statement state call stage choice).2.accepts = true) := by
  unfold integrationProgram
  dsimp only
  cases choice with
  | dies => exact .inr ⟨⟨rfl, rfl⟩, accepts_dies stage⟩
  | throws => exact .inr (throws_unpersisted stage)
  | runs free =>
    dsimp only
    cases stage with
    | gateway run stage =>
      cases stage with
      | persisting signal profile =>
        obtain ⟨created, persists, correlating⟩ | ⟨unchanged, _⟩ :=
          persist_cases state call signal profile free
        · exact .inl ⟨run, signal, profile, free, created, rfl, persists,
            congrArg (IntegrationStage.gateway run) correlating⟩
        · refine .inr ⟨⟨?_, ?_⟩, fun accepts => by cases accepts⟩
          · exact congrArg IntegrationState.receipts unchanged
          · exact congrArg IntegrationState.signals unchanged
      | ended signal answer =>
        obtain ⟨sandboxKey, retired⟩ := run
        cases sandboxKey with
        | none => exact .inr ⟨⟨rfl, rfl⟩, id⟩
        | some keyId => exact .inr ⟨⟨rfl, rfl⟩, id⟩
      | correlating signal receiptId created => exact .inr ⟨⟨rfl, rfl⟩, fun _ => rfl⟩
      | piloting signal =>
        refine .inr ⟨?_, fun accepts => by cases accepts⟩
        unfold IntegrationState.statement IntegrationState.gatewayStatement
        dsimp only
        split
        · exact ⟨rfl, rfl⟩
        · exact ⟨rfl, rfl⟩
        · exact ⟨rfl, rfl⟩
      | _ => exact .inr ⟨⟨rfl, rfl⟩, fun accepts => by cases accepts⟩
    | creating registration keyVersion =>
      exact .inr ⟨createKey_unpersisted registration keyVersion free.receiptId,
        fun accepts => by cases accepts⟩
    | readingRotation tenantId keyId =>
      refine .inr ⟨?_, fun accepts => by cases accepts⟩
      unfold IntegrationState.statement
      dsimp only
      split <;> exact ⟨rfl, rfl⟩
    | returned run keyId answer => exact .inr ⟨⟨rfl, rfl⟩, id⟩
    | dead => exact .inr ⟨⟨rfl, rfl⟩, id⟩
    | _ => exact .inr ⟨⟨rfl, rfl⟩, fun accepts => by cases accepts⟩

end effects

/-! The receipts and the signals of all calls. -/

section invariant

variable {runtime : IntegrationRuntime} {state after : IntegrationState runtime} {call : Nat}

structure ReceiptInvariant (state : IntegrationState runtime) : Prop where
  columns : ∀ id row, state.receipts.find? id = some row →
    ∃ created decided, row = row.origin.receipt row.call created decided
  keyOnce : ∀ first second row other, state.receipts.find? first = some row →
    state.receipts.find? second = some other → row.installationId = other.installationId →
    row.idempotencyKey = other.idempotencyKey → first = second
  nonceOnce : ∀ first second row other, state.receipts.find? first = some row →
    state.receipts.find? second = some other → row.installationId = other.installationId →
    row.nonceHash = other.nonceHash → first = second
  signals : ∀ id row, state.signals.find? id = some row →
    ∃ receiptId receipt, state.receipts.find? receiptId = some receipt ∧
      receipt.canonicalSignalId = some id ∧ row.origin = receipt.origin ∧ row.call = receipt.call

structure Unused (state : IntegrationState runtime) (call : Nat) : Prop where
  receipts : ∀ id row, state.receipts.find? id = some row → row.call ≠ call
  signals : ∀ id row, state.signals.find? id = some row → row.call ≠ call

structure IntegrationState.Initial (state : IntegrationState runtime) : Prop where
  receipts : state.receipts = .empty
  signals : state.signals = .empty

theorem receiptByKey_none (signal : ReceivedSignal runtime)
    (free : state.receiptByKey signal = none) {id : String} {row : SignalReceipt runtime}
    (found : state.receipts.find? id = some row) (same : row.installationId = signal.installationId) :
    row.idempotencyKey ≠ signal.text "idempotencyKey" := by
  intro key
  have none := List.find?_eq_none.mp free (id, row) (Table.find?_eq_some_iff.mp found)
  rw [same, key] at none
  simp at none

theorem receiptByNonce_none (signal : ReceivedSignal runtime)
    (free : state.receiptByNonce signal = none) {id : String} {row : SignalReceipt runtime}
    (found : state.receipts.find? id = some row) (same : row.installationId = signal.installationId) :
    row.nonceHash ≠ signal.nonceHash := by
  intro nonce
  have none := List.find?_eq_none.mp free (id, row) (Table.find?_eq_some_iff.mp found)
  rw [same, nonce] at none
  simp at none

theorem ReceiptInvariant.unpersisted (invariant : ReceiptInvariant state)
    (kept : Unpersisted state after) : ReceiptInvariant after where
  columns := by rw [kept.receipts]; exact invariant.columns
  keyOnce := by rw [kept.receipts]; exact invariant.keyOnce
  nonceOnce := by rw [kept.receipts]; exact invariant.nonceOnce
  signals := by rw [kept.receipts, kept.signals]; exact invariant.signals

theorem Unused.unpersisted (unused : Unused state call) (kept : Unpersisted state after) :
    Unused after call where
  receipts := by rw [kept.receipts]; exact unused.receipts
  signals := by rw [kept.signals]; exact unused.signals

section persists

variable {signal : ValidSignal runtime} {receiptId : String} {decided : Bool}
variable {created : Option (String × CanonicalSignal runtime)}

theorem Persists.find?_receipts (persists : Persists state after call signal receiptId created decided)
    (id : String) :
    after.receipts.find? id =
      if id = receiptId then some (signal.receipt call (created.map Prod.fst) decided)
      else state.receipts.find? id := by
  rw [persists.receipts, Table.find?_insert receiptId persists.receiptFresh]

variable {id : String}

section

variable (persists : Persists state after call signal receiptId created decided)
include persists

theorem Persists.receipt_cases {row : SignalReceipt runtime}
    (found : after.receipts.find? id = some row) :
    (id = receiptId ∧ row = signal.receipt call (created.map Prod.fst) decided) ∨
      state.receipts.find? id = some row := by
  rw [persists.find?_receipts] at found
  split at found
  next same =>
    cases found
    exact .inl ⟨same, rfl⟩
  next => exact .inr found

theorem Persists.receipt_kept {row : SignalReceipt runtime}
    (found : state.receipts.find? id = some row) :
    after.receipts.find? id = some row := by
  rw [persists.receipts]
  exact Table.find?_insert_of_found persists.receiptFresh found

theorem Persists.signal_cases {row : CanonicalSignal runtime}
    (found : after.signals.find? id = some row) :
    (created.map Prod.fst = some id ∧ row.origin = signal ∧ row.call = call) ∨
      state.signals.find? id = some row := by
  cases created with
  | none =>
    rw [persists.signals] at found
    exact .inr found
  | some entry =>
    obtain ⟨newId, newRow⟩ := entry
    obtain ⟨fresh, origin, caller⟩ := persists.createdFresh newId newRow rfl
    rw [persists.signals] at found
    dsimp only at found
    rw [Table.find?_insert newId fresh] at found
    split at found
    next same =>
      cases found
      exact .inl ⟨by rw [same]; rfl, origin, caller⟩
    next => exact .inr found

end

theorem Persists.once (persists : Persists state after call signal receiptId created decided)
    {column : SignalReceipt runtime → String}
    (once : ∀ first second row other, state.receipts.find? first = some row →
      state.receipts.find? second = some other → row.installationId = other.installationId →
      column row = column other → first = second)
    (free : ∀ {id : String} {row : SignalReceipt runtime}, state.receipts.find? id = some row →
      row.installationId = signal.installationId →
      column row ≠ column (signal.receipt call (created.map Prod.fst) decided)) :
    ∀ first second row other, after.receipts.find? first = some row →
      after.receipts.find? second = some other → row.installationId = other.installationId →
      column row = column other → first = second := by
  intro first second row other found foundOther same columns
  obtain ⟨rfl, rfl⟩ | old := persists.receipt_cases found
  · obtain ⟨rfl, rfl⟩ | oldOther := persists.receipt_cases foundOther
    · rfl
    · exact absurd columns.symm (free oldOther same.symm)
  · obtain ⟨rfl, rfl⟩ | oldOther := persists.receipt_cases foundOther
    · exact absurd columns (free old same)
    · exact once first second row other old oldOther same columns

theorem ReceiptInvariant.persists (invariant : ReceiptInvariant state)
    (persists : Persists state after call signal receiptId created decided) :
    ReceiptInvariant after where
  columns := by
    intro id row found
    obtain ⟨_, rfl⟩ | old := persists.receipt_cases found
    · exact ⟨created.map Prod.fst, decided, rfl⟩
    · exact invariant.columns id row old
  keyOnce := persists.once (fun first second row other => invariant.keyOnce first second row other)
    fun found same => receiptByKey_none signal.toReceivedSignal persists.keyFree found same
  nonceOnce := persists.once
    (fun first second row other => invariant.nonceOnce first second row other)
    fun found same => receiptByNonce_none signal.toReceivedSignal persists.nonceFree found same
  signals := by
    intro id row found
    obtain ⟨new, origin, caller⟩ | old := persists.signal_cases found
    · refine ⟨receiptId, signal.receipt call (created.map Prod.fst) decided, ?_, new, origin, caller⟩
      rw [persists.find?_receipts, if_pos rfl]
    · obtain ⟨oldId, receipt, foundReceipt, named, origin, caller⟩ := invariant.signals id row old
      exact ⟨oldId, receipt, persists.receipt_kept foundReceipt, named, origin, caller⟩

theorem Unused.persists {other : Nat} (unused : Unused state other)
    (persists : Persists state after call signal receiptId created decided)
    (different : other ≠ call) : Unused after other where
  receipts := by
    intro id row found
    obtain ⟨_, rfl⟩ | old := persists.receipt_cases found
    · exact different.symm
    · exact unused.receipts id row old
  signals := by
    intro id row found
    obtain ⟨_, _, caller⟩ | old := persists.signal_cases found
    · rw [caller]
      exact different.symm
    · exact unused.signals id row old

end persists

def receiptAssertions (runtime : IntegrationRuntime) :
    Assertions (IntegrationState runtime) (IntegrationStage runtime) where
  invariant := ReceiptInvariant
  assertion := fun state call stage =>
    stage.all (fun stage => !stage.accepts) = true → Unused state call

theorem receiptAssertions_sound (runtime : IntegrationRuntime) :
    (receiptAssertions runtime).Sound (integrationProgram runtime) fun _ _ => True where
  enter := by
    intro system call request _ _ unused _
    exact unused rfl
  statement := by
    intro system call stage choice holds _ found
    obtain ⟨run, signal, profile, free, created, rfl, persists, correlating⟩ | ⟨kept, accepts⟩ :=
      statement_cases system.shared call stage choice
    · refine ⟨holds.invariant.persists persists, ?_⟩
      intro refused
      rw [correlating] at refused
      cases refused
    · refine ⟨holds.invariant.unpersisted kept, ?_⟩
      intro refused
      have before : (some stage).all (fun stage => !stage.accepts) = true := by
        rw [Option.all_some, Bool.not_eq_true'] at refused ⊢
        by_contra accepted
        rw [accepts (by simpa using accepted)] at refused
        cases refused
      exact (holds.at_stage found before).unpersisted kept
  undisturbed := by
    intro system call stage choice other holds _ found different refused
    have unused := holds.assertion other refused
    obtain ⟨run, signal, profile, free, created, rfl, persists, _⟩ | ⟨kept, _⟩ :=
      statement_cases system.shared call stage choice
    · exact unused.persists persists different
    · exact unused.unpersisted kept
  occur := by
    intro system event holds _
    refine ⟨holds.invariant.unpersisted ⟨rfl, rfl⟩, ?_⟩
    intro call refused
    exact (holds.assertion call refused).unpersisted ⟨rfl, rfl⟩

theorem IntegrationState.Initial.hold (initial : state.Initial) :
    (receiptAssertions runtime).Hold (System.initial state) := by
  refine Assertions.Hold.initial ⟨?_, ?_, ?_, ?_⟩ ?_
  · intro id row found
    rw [initial.receipts] at found
    cases found
  · intro first second row other found
    rw [initial.receipts] at found
    cases found
  · intro first second row other found
    rw [initial.receipts] at found
    cases found
  · intro id row found
    rw [initial.signals] at found
    cases found
  · intro call _
    refine ⟨?_, ?_⟩
    · intro id row found
      rw [initial.receipts] at found
      cases found
    · intro id row found
      rw [initial.signals] at found
      cases found

end invariant

/-- The call hands the request to the gateway; a sandbox call does so under the version of the key
that it registers. -/
def IntegrationRequest.Submits (request : IntegrationRequest) (input : GatewayInput) : Prop :=
  match request with
  | .deliver submitted => input = submitted
  | .registerKey _ registration =>
    ∃ submitted keyVersion, registration.sandbox = some submitted ∧
      input = { submitted with keyVersion := some keyVersion }
  | _ => False

/-- The states that a run has been in, and the calls that have entered. -/
structure IntegrationRecord (runtime : IntegrationRuntime) where
  state : IntegrationState runtime → Prop
  request : Nat → IntegrationRequest → Prop

def IntegrationRecord.Covers {runtime : IntegrationRuntime} (record : IntegrationRecord runtime)
    (system : IntegrationSystem runtime) (action : IntegrationAction) : Prop :=
  record.state system.shared ∧ ∀ call request, action = .enter call request →
    record.request call request

structure IntegrationKey.SameKey (key other : IntegrationKey) : Prop where
  tenantId : key.tenantId = other.tenantId
  installationId : key.installationId = other.installationId
  keyVersion : key.keyVersion = other.keyVersion
  publicKey : key.publicKey = other.publicKey

section origin

variable {runtime : IntegrationRuntime} (record : IntegrationRecord runtime)
variable (state : IntegrationState runtime) (call : Nat)

def Submitted (input : GatewayInput) : Prop :=
  ∃ request, record.request call request ∧ request.Submits input

/-- The signal is of a request of the call, and its installation is a row that has been read. -/
structure SignalReceived (signal : ReceivedSignal runtime) : Prop where
  submitted : Submitted record call signal.input
  read : ∃ earlier, record.state earlier ∧
    earlier.installations.find? signal.installationId = some signal.installation

structure SignalVerified (signal : VerifiedSignal runtime) : Prop
    extends SignalReceived record call signal.toReceivedSignal where
  keyRead : ∃ earlier, record.state earlier ∧ earlier.keys.find? signal.keyId = some signal.key
  keyStands : ∃ key, state.keys.find? signal.keyId = some key ∧ key.SameKey signal.key

structure ReceiptOf (answer : GatewayAnswer) (row : SignalReceipt runtime) : Prop where
  stored : ∃ id, answer.receiptId = some id ∧ state.receipts.find? id = some row
  call : row.call = call
  canonical : row.canonicalSignalId = answer.canonicalSignalId

def Receipted (answer : GatewayAnswer) : Prop :=
  answer.code = .signalAccepted → ∃ row, ReceiptOf state call answer row

def GatewayStage.Rooted : GatewayStage runtime → Prop
  | .resolving input _ => Submitted record call input
  | .limiting signal | .authenticating signal => SignalReceived record call signal
  | .matching signal | .replaying signal => SignalVerified record state call signal
  | .piloting signal | .linking signal | .persisting signal _ | .repeated signal =>
    SignalVerified record state call signal.toVerifiedSignal
  | .correlating signal receiptId created =>
    ∃ row, ReceiptOf state call
      ⟨.signalAccepted, some (signal.text "eventId"), some receiptId, created⟩ row
  | .ended _ answer => Receipted state call answer

def IntegrationStage.Rooted : IntegrationStage runtime → Prop
  | .gateway _ stage => stage.Rooted record state call
  | .returned _ _ answer => Receipted state call answer
  | .finding registration | .versioning registration | .creating registration _ =>
    ∃ permitted, record.request call (.registerKey permitted registration)
  | _ => True

/-- Every receipt is of a request whose key and installation have been read. -/
def ReceiptsRooted : Prop :=
  ∀ id row, state.receipts.find? id = some row →
    SignalVerified record state row.call row.origin.toVerifiedSignal

end origin

section kept

variable {runtime : IntegrationRuntime} {record : IntegrationRecord runtime}
variable {state after : IntegrationState runtime} {call : Nat}

def ReceiptsKept (state after : IntegrationState runtime) : Prop :=
  ∀ id row, state.receipts.find? id = some row → after.receipts.find? id = some row

def KeysStand (state after : IntegrationState runtime) : Prop :=
  ∀ id key, state.keys.find? id = some key →
    ∃ later, after.keys.find? id = some later ∧ later.SameKey key

theorem IntegrationKey.SameKey.refl (key : IntegrationKey) : key.SameKey key :=
  ⟨rfl, rfl, rfl, rfl⟩

theorem KeysStand.of_eq (keys : after.keys = state.keys) : KeysStand state after := by
  intro id key found
  rw [keys]
  exact ⟨key, found, .refl key⟩

theorem KeysStand.of_modify {keyId : String} (change : IntegrationKey → IntegrationKey)
    (same : ∀ key, (change key).SameKey key) (keys : after.keys = state.keys.modify keyId change) :
    KeysStand state after := by
  intro id key found
  rw [keys, Table.find?_modify, found]
  split
  · exact ⟨change key, rfl, same key⟩
  · exact ⟨key, rfl, .refl key⟩

theorem SignalVerified.kept {signal : VerifiedSignal runtime}
    (verified : SignalVerified record state call signal) (stand : KeysStand state after) :
    SignalVerified record after call signal := by
  obtain ⟨key, found, same⟩ := verified.keyStands
  obtain ⟨later, stands, kept⟩ := stand signal.keyId key found
  exact ⟨verified.toSignalReceived, verified.keyRead, later, stands,
    kept.tenantId.trans same.tenantId, kept.installationId.trans same.installationId,
    kept.keyVersion.trans same.keyVersion, kept.publicKey.trans same.publicKey⟩

theorem ReceiptOf.kept {answer : GatewayAnswer} {row : SignalReceipt runtime}
    (receipt : ReceiptOf state call answer row) (kept : ReceiptsKept state after) :
    ReceiptOf after call answer row := by
  obtain ⟨id, named, found⟩ := receipt.stored
  exact ⟨⟨id, named, kept id row found⟩, receipt.call, receipt.canonical⟩

theorem Receipted.kept {answer : GatewayAnswer} (receipted : Receipted state call answer)
    (kept : ReceiptsKept state after) : Receipted after call answer := by
  intro accepted
  obtain ⟨row, receipt⟩ := receipted accepted
  exact ⟨row, receipt.kept kept⟩

theorem IntegrationStage.Rooted.kept {stage : IntegrationStage runtime}
    (rooted : stage.Rooted record state call) (receipts : ReceiptsKept state after)
    (keys : KeysStand state after) : stage.Rooted record after call := by
  cases stage with
  | gateway run stage =>
    cases stage with
    | resolving input now => exact rooted
    | limiting signal | authenticating signal => exact rooted
    | matching signal | replaying signal => exact SignalVerified.kept rooted keys
    | piloting signal | linking signal | persisting signal profile | repeated signal =>
      exact SignalVerified.kept rooted keys
    | correlating signal receiptId created =>
      obtain ⟨row, receipt⟩ := rooted
      exact ⟨row, receipt.kept receipts⟩
    | ended signal answer => exact Receipted.kept rooted receipts
  | returned run keyId answer => exact Receipted.kept rooted receipts
  | finding | versioning | creating => exact rooted
  | _ => exact trivial

theorem ReceiptsRooted.kept (rooted : ReceiptsRooted record state)
    (same : after.receipts = state.receipts) (keys : KeysStand state after) :
    ReceiptsRooted record after := by
  intro id row found
  rw [same] at found
  exact (rooted id row found).kept keys

variable (state) in
theorem statement_keepsReceipts (call : Nat) (stage : IntegrationStage runtime)
    (choice : IntegrationChoice) :
    ReceiptsKept state ((integrationProgram runtime).statement state call stage choice).1 := by
  intro id row found
  obtain ⟨_, _, _, _, _, _, persists, _⟩ | ⟨kept, _⟩ := statement_cases state call stage choice
  · exact persists.receipt_kept found
  · rw [kept.receipts]
    exact found

theorem stands_persist (call : Nat) (signal : ValidSignal runtime) (profile : Option String)
    (free : GatewayFreedom) : KeysStand state (state.persist call signal profile free).1 := by
  obtain ⟨_, persists, _⟩ | ⟨unchanged, _⟩ := persist_cases state call signal profile free
  · exact .of_eq persists.keys
  · exact .of_eq (by rw [unchanged])

theorem stands_gateway (call : Nat) (free : GatewayFreedom) (stage : GatewayStage runtime) :
    KeysStand state (state.gatewayStatement call free stage).1 := by
  cases stage with
  | persisting signal profile => exact stands_persist call signal profile free
  | piloting signal =>
    refine .of_eq ?_
    unfold IntegrationState.gatewayStatement
    dsimp only
    split
    · rfl
    · rfl
    · rfl
  | _ => exact .of_eq rfl

theorem stands_revoke (keyId : String) (now : Int) :
    KeysStand state ((state.revoke keyId now).retire keyId) :=
  .of_modify (fun key => { key with status := .revoked, revokedAt := some now })
    (fun _ => ⟨rfl, rfl, rfl, rfl⟩) rfl

theorem stands_rotate (keyId : String) (now : Int) : KeysStand state (state.rotate keyId now) :=
  .of_modify
    (fun key => { key with status := .rotating, validUntil := some (now + rotationOverlapMs) })
    (fun _ => ⟨rfl, rfl, rfl, rfl⟩) rfl

theorem stands_createKey (registration : Registration) (keyVersion : Nat) (keyId : String) :
    KeysStand state (state.createKey registration keyVersion keyId).1 := by
  unfold IntegrationState.createKey
  split
  · exact .of_eq rfl
  next free =>
    intro id key found
    rw [Bool.or_eq_true, not_or] at free
    have fresh : state.keys.find? keyId = none := by simpa using free.1
    exact ⟨key, Table.find?_insert_of_found fresh found, .refl key⟩

variable (state) in
theorem statement_keysStand (call : Nat) (stage : IntegrationStage runtime)
    (choice : IntegrationChoice) :
    KeysStand state ((integrationProgram runtime).statement state call stage choice).1 := by
  unfold integrationProgram
  dsimp only
  cases choice with
  | dies => exact .of_eq rfl
  | throws =>
    cases stage with
    | gateway run stage =>
      cases stage with
      | ended signal answer =>
        obtain ⟨sandboxKey, retired⟩ := run
        cases sandboxKey <;> exact .of_eq rfl
      | _ => exact .of_eq rfl
    | _ => exact .of_eq rfl
  | runs free =>
    dsimp only
    cases stage with
    | gateway run stage =>
      cases stage with
      | ended signal answer =>
        obtain ⟨sandboxKey, retired⟩ := run
        cases sandboxKey with
        | none => exact .of_eq rfl
        | some keyId => exact stands_revoke keyId state.now
      | _ => exact stands_gateway call free _
    | creating registration keyVersion => exact stands_createKey registration keyVersion _
    | readingRotation tenantId keyId =>
      refine .of_eq ?_
      unfold IntegrationState.statement
      dsimp only
      split <;> rfl
    | rotating keyId now => exact stands_rotate keyId now
    | revoking keyId now => exact stands_revoke keyId now
    | _ => exact .of_eq rfl

end kept

section roots

variable {runtime : IntegrationRuntime} {record : IntegrationRecord runtime}
variable {state : IntegrationState runtime} {call : Nat}

theorem receipted_other {answer : GatewayAnswer} (other : answer.code ≠ .signalAccepted) :
    Receipted state call answer :=
  fun accepted => absurd accepted other

theorem rooted_refuse {code : IntegrationErrorCode} (other : code ≠ .signalAccepted) :
    (refuse code : GatewayStage runtime).Rooted record state call :=
  receipted_other other

theorem rooted_resolve (seen : record.state state) {input : GatewayInput}
    (submitted : Submitted record call input) (now : Int) :
    (state.resolve input now).Rooted record state call := by
  have others : ∀ code ∈ resolveRefusals, code ≠ .signalAccepted := by decide
  refine resolve_ends (GatewayStage.Rooted record state call) input now
    (fun code member => rooted_refuse (others code member)) ?_
  intro signal same found
  exact ⟨same ▸ submitted, state, seen, found⟩

theorem rooted_limit {signal : ReceivedSignal runtime}
    (received : SignalReceived record call signal) :
    (state.limit signal).Rooted record state call := by
  unfold IntegrationState.limit
  dsimp only
  split
  · exact rooted_refuse (by decide)
  · exact received

theorem rooted_authenticate (seen : record.state state) {signal : ReceivedSignal runtime}
    (received : SignalReceived record call signal) :
    (state.authenticate signal).Rooted record state call := by
  unfold IntegrationState.authenticate
  split
  · exact rooted_refuse (by decide)
  next keyId key row =>
    have found := Table.find?_of_find?_rows row
    split
    · split
      · exact ⟨received, ⟨state, seen, found⟩, key, found, .refl key⟩
      · exact rooted_refuse (by decide)
    · exact rooted_refuse (by decide)

theorem rooted_matchKey {signal : VerifiedSignal runtime}
    (verified : SignalVerified record state call signal) :
    (state.matchKey signal).Rooted record state call := by
  unfold IntegrationState.matchKey
  split
  · exact verified
  · split
    · exact receipted_other (by exact nofun)
    · exact receipted_other (by decide)

theorem rooted_checkNonce {signal : VerifiedSignal runtime}
    (verified : SignalVerified record state call signal) :
    (state.checkNonce signal).Rooted record state call := by
  unfold IntegrationState.checkNonce
  split
  · exact receipted_other (by decide)
  · split
    · split
      · exact verified
      · exact receipted_other (by decide)
    · exact receipted_other (by decide)

theorem rooted_persist {signal : ValidSignal runtime}
    (verified : SignalVerified record state call signal.toVerifiedSignal) (profile : Option String)
    (free : GatewayFreedom) :
    (state.persist call signal profile free).2.Rooted record
      (state.persist call signal profile free).1 call := by
  obtain ⟨created, persists, correlating⟩ | ⟨unchanged, others⟩ :=
    persist_cases state call signal profile free
  · rw [correlating]
    refine ⟨signal.receipt call (created.map Prod.fst) free.decided, ⟨free.receiptId, rfl, ?_⟩, rfl,
      rfl⟩
    rw [persists.find?_receipts, if_pos rfl]
  · rw [unchanged]
    obtain ⟨replayed, _⟩ | ⟨repeated, _⟩ | failed := others
    · rw [replayed]
      exact receipted_other (by decide)
    · rw [repeated]
      exact verified
    · rw [failed]
      exact receipted_other (by decide)

theorem rooted_gateway (seen : record.state state) {stage : GatewayStage runtime}
    (rooted : stage.Rooted record state call) (free : GatewayFreedom) :
    (state.gatewayStatement call free stage).2.Rooted record
      (state.gatewayStatement call free stage).1 call := by
  cases stage with
  | resolving input now => exact rooted_resolve seen rooted now
  | limiting signal => exact rooted_limit rooted
  | authenticating signal => exact rooted_authenticate seen rooted
  | matching signal => exact rooted_matchKey rooted
  | replaying signal => exact rooted_checkNonce rooted
  | piloting signal =>
    unfold IntegrationState.gatewayStatement
    dsimp only
    split
    · exact receipted_other (by decide)
    · exact receipted_other (by decide)
    · exact rooted
  | linking signal => exact rooted
  | persisting signal profile => exact rooted_persist rooted profile free
  | repeated signal => exact receipted_other (by decide : IntegrationErrorCode.signalDuplicate ≠ _)
  | correlating signal receiptId created => exact fun _ => rooted
  | ended signal answer => exact rooted

theorem rooted_throws {stage : GatewayStage runtime} (rooted : stage.Rooted record state call) :
    stage.throws.Rooted record state call := by
  cases stage with
  | correlating signal receiptId created => exact fun _ => rooted
  | ended signal answer => exact rooted
  | _ => exact rooted_refuse (by decide)

theorem rooted_createKey {registration : Registration}
    (registered : ∃ permitted, record.request call (.registerKey permitted registration))
    (keyVersion : Nat) (keyId : String) :
    (state.createKey registration keyVersion keyId).2.Rooted record
      (state.createKey registration keyVersion keyId).1 call := by
  unfold IntegrationState.createKey
  split
  · exact trivial
  · cases sandbox : registration.sandbox with
    | none => exact trivial
    | some input =>
      obtain ⟨permitted, entered⟩ := registered
      exact ⟨.registerKey permitted registration, entered, input, keyVersion, sandbox, rfl⟩

theorem rooted_statement (seen : record.state state) {stage : IntegrationStage runtime}
    (rooted : stage.Rooted record state call) (choice : IntegrationChoice) :
    ((integrationProgram runtime).statement state call stage choice).2.Rooted record
      ((integrationProgram runtime).statement state call stage choice).1 call := by
  unfold integrationProgram
  dsimp only
  cases choice with
  | dies =>
    unfold IntegrationStage.dies
    dsimp only
    split
    · split
      · exact rooted
      · exact trivial
    · exact rooted
    · exact trivial
  | throws =>
    cases stage with
    | gateway run stage =>
      have inner : stage.Rooted record state call := rooted
      have thrown := rooted_throws inner
      cases stage with
      | ended signal answer =>
        obtain ⟨sandboxKey, retired⟩ := run
        cases sandboxKey with
        | none => exact rooted
        | some keyId => exact Receipted.kept rooted fun _ _ found => found
      | _ => exact thrown
    | returned run keyId answer => exact rooted
    | _ => exact trivial
  | runs free =>
    dsimp only
    cases stage with
    | gateway run stage =>
      have inner : stage.Rooted record state call := rooted
      have reached := rooted_gateway seen inner free
      cases stage with
      | ended signal answer =>
        obtain ⟨sandboxKey, retired⟩ := run
        cases sandboxKey with
        | none => exact rooted
        | some keyId => exact Receipted.kept rooted fun _ _ found => found
      | _ => exact reached
    | returned run keyId answer => exact rooted
    | finding registration =>
      unfold IntegrationState.statement IntegrationState.findInstallation
      dsimp only
      split
      · split
        · exact rooted
        · exact trivial
      · exact trivial
    | versioning registration => exact rooted
    | creating registration keyVersion => exact rooted_createKey rooted keyVersion _
    | readingRotation tenantId keyId =>
      unfold IntegrationState.statement
      dsimp only
      split
      · split <;> exact trivial
      · exact trivial
    | readingRevocation tenantId keyId =>
      unfold IntegrationState.statement
      dsimp only
      split <;> exact trivial
    | readingStatus tenantId installationId status =>
      unfold IntegrationState.statement
      dsimp only
      split <;> exact trivial
    | _ => exact trivial

variable (record) in
def originAssertions : Assertions (IntegrationState runtime) (IntegrationStage runtime) where
  invariant := ReceiptsRooted record
  assertion := fun state call entered =>
    ∀ stage, entered = some stage → stage.Rooted record state call

variable (record) in
theorem originAssertions_sound :
    (originAssertions record).Sound (integrationProgram runtime) record.Covers where
  enter := by
    intro system call request _ covered _ stage entered
    cases entered
    have recorded := covered.2 call request rfl
    cases request with
    | deliver input => exact ⟨.deliver input, recorded, rfl⟩
    | registerKey permitted registration =>
      cases permitted with
      | true => exact ⟨true, recorded⟩
      | false => exact trivial
    | startRotation permitted | revokeKey permitted | setInstallationStatus permitted =>
      cases permitted <;> exact trivial
  statement := by
    intro system call stage choice holds covered found
    have rooted := holds.at_stage found stage rfl
    have keys := statement_keysStand system.shared call stage choice
    refine ⟨?_, fun next same => ?_⟩
    · obtain ⟨run, signal, profile, free, created, rfl, persists, _⟩ | ⟨kept, _⟩ :=
        statement_cases system.shared call stage choice
      · intro id row stored
        obtain ⟨_, rfl⟩ | old := persists.receipt_cases stored
        · exact SignalVerified.kept rooted keys
        · exact (holds.invariant id row old).kept keys
      · exact ReceiptsRooted.kept holds.invariant kept.receipts keys
    · cases same
      exact rooted_statement covered.1 rooted choice
  undisturbed := by
    intro system call stage choice other holds _ found _ standing isStanding
    exact (holds.assertion other standing isStanding).kept
      (statement_keepsReceipts system.shared call stage choice)
      (statement_keysStand system.shared call stage choice)
  occur := by
    intro system event holds _
    refine ⟨ReceiptsRooted.kept holds.invariant rfl (.of_eq rfl), ?_⟩
    intro call standing isStanding
    exact (holds.assertion call standing isStanding).kept (fun _ _ found => found) (.of_eq rfl)

end roots

section promise

variable {runtime : IntegrationRuntime}

/-- A receipt is of a request that its call has submitted. It was verified with a key of its
installation, one of the rows, that was usable then, and the envelope in its body is valid. -/
structure Authentic (record : IntegrationRecord runtime) (state : IntegrationState runtime)
    (row : SignalReceipt runtime) : Prop where
  origin : SignalVerified record state row.call row.origin.toVerifiedSignal
  body : runtime.parse row.origin.input.rawBody = some row.origin.envelope
  signature : runtime.verifyEd25519 row.origin.signingString row.origin.key.publicKey
    (row.origin.input.signatureBase64.getD "") = true
  key : row.origin.key.tenantId = row.tenantId ∧ row.origin.key.installationId = row.installationId
  usable : row.origin.key.usable row.origin.now = true
  valid : validateSignalEnvelope runtime.toLowerCase runtime.parseDate row.origin.envelope = []
  columns : ∃ created decided, row = row.origin.receipt row.call created decided

structure ExactlyOnce (record : IntegrationRecord runtime) (system : IntegrationSystem runtime) :
    Prop where
  authentic : ∀ id row, system.shared.receipts.find? id = some row →
    Authentic record system.shared row
  signalsAuthentic : ∀ id row, system.shared.signals.find? id = some row →
    ∃ receiptId receipt, system.shared.receipts.find? receiptId = some receipt ∧
      receipt.canonicalSignalId = some id ∧ row.origin = receipt.origin ∧
      row.call = receipt.call ∧ Authentic record system.shared receipt
  oneReceipt : ∀ first second row other, system.shared.receipts.find? first = some row →
    system.shared.receipts.find? second = some other → row.installationId = other.installationId →
    row.idempotencyKey = other.idempotencyKey → first = second
  oneSignal : ∀ first second row other, system.shared.signals.find? first = some row →
    system.shared.signals.find? second = some other →
    row.origin.installationId = other.origin.installationId →
    row.origin.text "idempotencyKey" = other.origin.text "idempotencyKey" → first = second
  oneNonce : ∀ first second row other, system.shared.receipts.find? first = some row →
    system.shared.receipts.find? second = some other → row.installationId = other.installationId →
    row.origin.text "nonce" = other.origin.text "nonce" → first = second
  accepted : ∀ call stage answer, system.calls.find? call = some stage →
    stage.answer? = some answer → answer.code = .signalAccepted →
    ∃ row, ReceiptOf system.shared call answer row
  acceptedOnce : ∀ call other answer next row second, ReceiptOf system.shared call answer row →
    ReceiptOf system.shared other next second → row.installationId = second.installationId →
    (row.origin.text "nonce" = second.origin.text "nonce" ∨
      row.idempotencyKey = second.idempotencyKey) → call = other
  refused : ∀ call stage answer, system.calls.find? call = some stage →
    stage.answer? = some answer → answer.code ≠ .signalAccepted → Unused system.shared call

variable {record : IntegrationRecord runtime} {state : IntegrationState runtime}

theorem ReceiptInvariant.authentic (invariant : ReceiptInvariant state)
    (rooted : ReceiptsRooted record state) {id : String} {row : SignalReceipt runtime}
    (found : state.receipts.find? id = some row) : Authentic record state row := by
  obtain ⟨created, decided, columns⟩ := invariant.columns id row found
  have selected := row.origin.selected
  unfold ReceivedSignal.selects at selected
  rw [Bool.and_eq_true, Bool.and_eq_true, beq_iff_eq, beq_iff_eq] at selected
  refine ⟨rooted id row found, row.origin.parsed, row.origin.verified, ?_, row.origin.usable,
    row.origin.valid, created, decided, columns⟩
  constructor
  · rw [selected.1.1, columns]
    rfl
  · rw [selected.1.2, columns]
    rfl

theorem ReceiptInvariant.oneNonce (invariant : ReceiptInvariant state) {first second : String}
    {row other : SignalReceipt runtime} (found : state.receipts.find? first = some row)
    (foundOther : state.receipts.find? second = some other)
    (installation : row.installationId = other.installationId)
    (nonce : row.origin.text "nonce" = other.origin.text "nonce") : first = second := by
  refine invariant.nonceOnce first second row other found foundOther installation ?_
  obtain ⟨_, _, columns⟩ := invariant.columns first row found
  obtain ⟨_, _, columnsOther⟩ := invariant.columns second other foundOther
  have installations : row.origin.installationId = other.origin.installationId := by
    rw [columns, columnsOther] at installation
    exact installation
  rw [columns, columnsOther]
  change row.origin.nonceHash = other.origin.nonceHash
  unfold ReceivedSignal.nonceHash
  rw [installations, nonce]

theorem rooted_answer {call : Nat} {stage : IntegrationStage runtime} {answer : GatewayAnswer}
    (rooted : stage.Rooted record state call) (answered : stage.answer? = some answer) :
    Receipted state call answer := by
  cases stage with
  | gateway run stage =>
    cases stage with
    | ended signal said =>
      cases answered
      exact rooted
    | _ => cases answered
  | returned run keyId said =>
    cases answered
    exact rooted
  | _ => cases answered

theorem answer_accepts {stage : IntegrationStage runtime} {answer : GatewayAnswer}
    (answered : stage.answer? = some answer) :
    stage.accepts = (answer.code == .signalAccepted) := by
  cases stage with
  | gateway run stage =>
    cases stage with
    | ended signal said =>
      cases answered
      rfl
    | _ => cases answered
  | returned run keyId said =>
    cases answered
    rfl
  | _ => cases answered

theorem exactlyOnce_of_hold {system : IntegrationSystem runtime}
    (holds : (receiptAssertions runtime).Hold system)
    (origins : (originAssertions record).Hold system) : ExactlyOnce record system := by
  obtain ⟨invariant, assertion⟩ := holds
  have invariant : ReceiptInvariant system.shared := invariant
  have rooted : ReceiptsRooted record system.shared := origins.invariant
  refine ⟨fun id row found => invariant.authentic rooted found, ?_, invariant.keyOnce, ?_,
    fun _ _ _ _ => invariant.oneNonce, ?_, ?_, ?_⟩
  · intro id row found
    obtain ⟨receiptId, receipt, foundReceipt, named, origin, caller⟩ :=
      invariant.signals id row found
    exact ⟨receiptId, receipt, foundReceipt, named, origin, caller,
      invariant.authentic rooted foundReceipt⟩
  · intro first second row other found foundOther installation key
    obtain ⟨firstId, receipt, foundFirst, named, origin, _⟩ := invariant.signals first row found
    obtain ⟨secondId, second', foundSecond, namedOther, originOther, _⟩ :=
      invariant.signals second other foundOther
    obtain ⟨_, _, columns⟩ := invariant.columns firstId receipt foundFirst
    obtain ⟨_, _, columnsOther⟩ := invariant.columns secondId second' foundSecond
    have same : firstId = secondId := by
      refine invariant.keyOnce firstId secondId receipt second' foundFirst foundSecond ?_ ?_
      · rw [columns, columnsOther]
        rw [origin, originOther] at installation
        exact installation
      · rw [columns, columnsOther]
        rw [origin, originOther] at key
        exact key
    rw [same, foundSecond] at foundFirst
    cases foundFirst
    rw [named] at namedOther
    cases namedOther
    rfl
  · intro call stage answer found answered accepted
    exact rooted_answer (origins.at_stage found stage rfl) answered accepted
  · intro call other answer next row second receipt another installation shared
    obtain ⟨id, _, found⟩ := receipt.stored
    obtain ⟨otherId, _, foundOther⟩ := another.stored
    have same : id = otherId := by
      obtain nonce | key := shared
      · exact invariant.oneNonce found foundOther installation nonce
      · exact invariant.keyOnce id otherId row second found foundOther installation key
    rw [same, foundOther] at found
    cases found
    exact receipt.call.symm.trans another.call
  · intro call stage answer found answered refused
    have unused := assertion call
    rw [found] at unused
    refine unused ?_
    rw [Option.all_some, answer_accepts answered, Bool.not_eq_true', beq_eq_false_iff_ne]
    exact refused

def IntegrationRecord.ofRun (state : IntegrationState runtime) (actions : List IntegrationAction) :
    IntegrationRecord runtime where
  state := fun earlier => ∃ reached ∈ Runs.states (integrationStep runtime) (System.initial state)
    actions, reached.shared = earlier
  request := fun call request => .enter call request ∈ actions

theorem IntegrationRecord.covers_ofRun (state : IntegrationState runtime)
    (actions : List IntegrationAction) :
    Runs.Meets (integrationStep runtime) (IntegrationRecord.ofRun state actions).Covers
      (System.initial state) actions := by
  have members : Runs.Meets (integrationStep runtime)
      (fun system action =>
        system ∈ Runs.states (integrationStep runtime) (System.initial state) actions ∧
          action ∈ actions) (System.initial state) actions :=
    Runs.meets_members (fun _ member => member) fun _ member => member
  refine members.of_invariant (fun (_ : True) _ => trivial) ?_ trivial
  intro system action _ member
  refine ⟨⟨system, member.1, rfl⟩, ?_⟩
  intro call request same
  rw [same] at member
  exact member.2

/-- At the end of every run of the gateway, the administration and the sandbox, from a state
without receipts. What has been read, and who has submitted it, is of this run. -/
theorem exactlyOnce_states (runtime : IntegrationRuntime) (state : IntegrationState runtime)
    (actions : List IntegrationAction) (initial : state.Initial) :
    ExactlyOnce (IntegrationRecord.ofRun state actions)
      (Runs.run (integrationStep runtime) (System.initial state) actions) := by
  have atEnd : Runs.run (integrationStep runtime) (System.initial state) actions ∈
      Runs.states (integrationStep runtime) (System.initial state) actions :=
    Runs.run_mem_states actions
  have unrooted : (originAssertions (IntegrationRecord.ofRun state actions)).Hold
      (System.initial state) := by
    refine Assertions.Hold.initial ?_ fun call stage absent => by cases absent
    intro id row found
    rw [initial.receipts] at found
    cases found
  exact exactlyOnce_of_hold
    (Runs.forall_states (fun holds => (receiptAssertions_sound runtime).step holds trivial) actions
      initial.hold _ atEnd)
    ((originAssertions_sound _).states unrooted (IntegrationRecord.covers_ofRun state actions) _
      atEnd)

end promise

def sampleEnvelope (idempotencyKey nonce eventId : String) : Json ℚ :=
  .obj
    [("protocol", .str childSafetySignalProtocol), ("protocolVersion", .str "1.0"),
      ("eventId", .str eventId), ("idempotencyKey", .str idempotencyKey), ("partnerId", .str "p"),
      ("applicationId", .str "a"), ("installationId", .str "i"), ("occurredAt", .str "0"),
      ("sentAt", .str "0"), ("nonce", .str nonce),
      ("signal", .obj [("externalSignalId", .str "x"), ("signalType", .str "GROOMING"),
        ("confidenceBand", .str "high")]),
      ("classification", .obj [("classifierType", .str "rule_engine"),
        ("classifierVersion", .str "1"), ("classificationMethod", .str "automated"),
        ("evaluatedAt", .str "0")]),
      ("subject", .obj [("pseudonymousSubjectId", .str "s")])]

/-- Two bodies with one idempotency key, and a key that verifies everything. -/
def sampleRuntime : IntegrationRuntime where
  parse := fun body =>
    if body = "first" then some (sampleEnvelope "k" "n" "e")
    else if body = "second" then some (sampleEnvelope "k" "m" "f")
    else none
  parseDate := fun _ => some 0
  toText := fun _ => ""
  printNumber := fun _ => ""
  toLowerCase := id
  toUpperCase := id
  sha256 := id
  verifyEd25519 := fun _ key _ => key == "public"

def sampleInput (body : String) : GatewayInput := ⟨"POST", "/", body, some "signature", some 1, some "i"⟩

def sampleIntegration : IntegrationState sampleRuntime where
  now := 0
  installations := Table.empty.insert "i"
    ⟨"t", "p", "a", .active, .active, .active, "1.0", "1.0", ["signal.submit"], false⟩
  keys := Table.empty.insert "key" ⟨"t", "i", 1, "public", .active, none, none⟩
  subjects := .empty
  receipts := .empty
  signals := .empty
  retired := []

theorem sampleIntegration_initial : sampleIntegration.Initial := ⟨rfl, rfl⟩

def integrationRuns (call : Nat) (receiptId : String) : IntegrationAction :=
  .statement call (.runs ⟨receiptId, receiptId, none, false, false⟩)

def acceptedRun : List IntegrationAction :=
  .enter 0 (.deliver (sampleInput "first")) :: List.replicate 9 (integrationRuns 0 "r")

example : (Runs.run (integrationStep sampleRuntime) (System.initial sampleIntegration)
    acceptedRun).shared.receipts.rows.length = 1 := by decide +kernel

/-- A request that is accepted. -/
theorem exactlyOnce_of_accepted :
    ExactlyOnce (IntegrationRecord.ofRun sampleIntegration acceptedRun)
      (Runs.run (integrationStep sampleRuntime) (System.initial sampleIntegration) acceptedRun) :=
  exactlyOnce_states sampleRuntime sampleIntegration acceptedRun sampleIntegration_initial

end Tamanor.Db
