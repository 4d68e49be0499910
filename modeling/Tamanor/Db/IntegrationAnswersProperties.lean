import Tamanor.Db.ChildSafetyIntegrationProperties

/-! When the answers of the partner gateway are truthful although deliveries overlap. -/

set_option autoImplicit false

namespace Tamanor.Db

open Tamanor.Core Library Library.Interleaving

section

variable {runtime : IntegrationRuntime} {state after : IntegrationState runtime}

def PriorReceipt (state : IntegrationState runtime) (signal : VerifiedSignal runtime)
    (row : SignalReceipt runtime) : Prop :=
  (∃ id, state.receipts.find? id = some row) ∧ row.installationId = signal.installationId ∧
    row.idempotencyKey = signal.text "idempotencyKey"

def IntegrationErrorCode.comparesDeliveries : IntegrationErrorCode → Bool
  | .signalDuplicate | .idempotencyConflict | .nonceReplayed => true
  | _ => false

structure TruthfulAnswer (state : IntegrationState runtime) (signal : VerifiedSignal runtime)
    (code : IntegrationErrorCode) : Prop where
  duplicate : code = .signalDuplicate → ∃ row, PriorReceipt state signal row ∧
    row.requestFingerprint = signal.requestFingerprint
  conflict : code = .idempotencyConflict → ∃ row, PriorReceipt state signal row ∧
    row.requestFingerprint ≠ signal.requestFingerprint
  replayed : code = .nonceReplayed → ∀ id row, state.receipts.find? id = some row →
    row.origin.input ≠ signal.input

def AnswersTruthful (system : IntegrationSystem runtime) : Prop :=
  ∀ call run signal answer, system.calls.find? call = some (.gateway run (.ended signal answer)) →
    answer.code.comparesDeliveries = true →
      ∃ verified, signal = some verified ∧ TruthfulAnswer system.shared verified answer.code

/-- No other delivery with the idempotency key has been accepted since it was looked up; at the
transaction it may have been, if it has the same content and the index of the key is reported. -/
def IntegrationStage.undisputed (state : IntegrationState runtime) (free : GatewayFreedom) :
    IntegrationStage runtime → Bool
  | .gateway _ (.replaying signal) => (state.receiptByKey signal.toReceivedSignal).isNone
  | .gateway _ (.persisting signal _) =>
    (state.receiptByKey signal.toReceivedSignal).all fun prior =>
      prior.2.requestFingerprint == signal.requestFingerprint &&
        !(free.nonceReported && (state.receiptByNonce signal.toReceivedSignal).isSome)
  | _ => true

def IntegrationSystem.undisputed (system : IntegrationSystem runtime) : IntegrationAction → Bool
  | .statement call (.runs free) =>
    (system.calls.find? call).all (IntegrationStage.undisputed system.shared free)
  | _ => true

/-- The nonce of a signal was accepted from another request. -/
def NonceSpent (state : IntegrationState runtime) (signal : VerifiedSignal runtime) : Prop :=
  ∃ id row, state.receipts.find? id = some row ∧ row.installationId = signal.installationId ∧
    row.nonceHash = signal.nonceHash ∧ row.origin.input ≠ signal.input

structure Answered (state : IntegrationState runtime) (signal : VerifiedSignal runtime)
    (code : IntegrationErrorCode) : Prop where
  duplicate : code = .signalDuplicate → ∃ row, PriorReceipt state signal row ∧
    row.requestFingerprint = signal.requestFingerprint
  conflict : code = .idempotencyConflict → ∃ row, PriorReceipt state signal row ∧
    row.requestFingerprint ≠ signal.requestFingerprint
  replayed : code = .nonceReplayed → NonceSpent state signal

def AnswersKnow (state : IntegrationState runtime) : GatewayStage runtime → Prop
  | .repeated signal => ∃ row, PriorReceipt state signal.toVerifiedSignal row ∧
      row.requestFingerprint = signal.requestFingerprint
  | .ended none answer => answer.code.comparesDeliveries = false
  | .ended (some signal) answer => Answered state signal answer.code
  | _ => True

variable {signal : VerifiedSignal runtime} {stage : GatewayStage runtime}

theorem PriorReceipt.kept {row : SignalReceipt runtime} (prior : PriorReceipt state signal row)
    (kept : ReceiptsKept state after) :
    PriorReceipt after signal row := by
  obtain ⟨⟨id, found⟩, installation, key⟩ := prior
  exact ⟨⟨id, kept id row found⟩, installation, key⟩

theorem AnswersKnow.kept (knows : AnswersKnow state stage) (kept : ReceiptsKept state after) :
    AnswersKnow after stage := by
  cases stage with
  | repeated signal =>
    obtain ⟨row, prior, same⟩ := knows
    exact ⟨row, prior.kept kept, same⟩
  | ended signal answer =>
    cases signal with
    | none => exact knows
    | some signal =>
      obtain ⟨duplicate, conflict, replayed⟩ := knows
      refine ⟨?_, ?_, ?_⟩
      · intro code
        obtain ⟨row, prior, same⟩ := duplicate code
        exact ⟨row, prior.kept kept, same⟩
      · intro code
        obtain ⟨row, prior, different⟩ := conflict code
        exact ⟨row, prior.kept kept, different⟩
      · intro code
        obtain ⟨id, row, found, facts⟩ := replayed code
        exact ⟨id, row, kept id row found, facts⟩
  | _ => exact trivial

theorem answered_other (signal : VerifiedSignal runtime) {answer : GatewayAnswer}
    (other : answer.code.comparesDeliveries = false) : Answered state signal answer.code := by
  refine ⟨?_, ?_, ?_⟩
  · intro code
    rw [code] at other
    cases other
  · intro code
    rw [code] at other
    cases other
  · intro code
    rw [code] at other
    cases other

theorem receiptByKey_some {prior : String × SignalReceipt runtime}
    (found : state.receiptByKey signal.toReceivedSignal = some prior) :
    PriorReceipt state signal prior.2 := by
  have matched := List.find?_some found
  rw [Bool.and_eq_true, beq_iff_eq, beq_iff_eq] at matched
  exact ⟨⟨prior.1, Table.find?_of_find?_rows found⟩, matched.1, matched.2⟩

theorem same_envelope {first second : ReceivedSignal runtime} (same : first.input = second.input) :
    first.envelope = second.envelope ∧ first.installationId = second.installationId := by
  have envelopes : first.envelope = second.envelope := by
    have parsed := first.parsed
    rw [same, second.parsed] at parsed
    exact (Option.some.inj parsed).symm
  refine ⟨envelopes, ?_⟩
  have named := first.named
  rw [envelopes, second.named] at named
  exact (Json.str.inj (Option.some.inj named)).symm

theorem nonceSpent (invariant : ReceiptInvariant state)
    (keyFree : state.receiptByKey signal.toReceivedSignal = none)
    (taken : (state.receiptByNonce signal.toReceivedSignal).isSome = true) :
    NonceSpent state signal := by
  obtain ⟨⟨id, row⟩, found⟩ := Option.isSome_iff_exists.mp taken
  have matched := List.find?_some found
  rw [Bool.and_eq_true, beq_iff_eq, beq_iff_eq] at matched
  have stored : state.receipts.find? id = some row := Table.find?_of_find?_rows found
  refine ⟨id, row, stored, matched.1, matched.2, ?_⟩
  intro same
  obtain ⟨envelopes, _⟩ := same_envelope same
  obtain ⟨_, _, columns⟩ := invariant.columns id row stored
  refine receiptByKey_none signal.toReceivedSignal keyFree stored matched.1 ?_
  rw [columns]
  change row.origin.text "idempotencyKey" = signal.text "idempotencyKey"
  unfold ReceivedSignal.text
  rw [envelopes]

theorem knows_refuse {code : IntegrationErrorCode} (other : code.comparesDeliveries = false) :
    AnswersKnow state (refuse code) := other

theorem knows_resolve (input : GatewayInput) (now : Int) :
    AnswersKnow state (state.resolve input now) := by
  have others : ∀ code ∈ resolveRefusals, code.comparesDeliveries = false := by decide
  exact resolve_ends (AnswersKnow state) input now
    (fun code member => knows_refuse (others code member)) fun _ _ _ => trivial

theorem knows_authenticate (signal : ReceivedSignal runtime) :
    AnswersKnow state (state.authenticate signal) := by
  unfold IntegrationState.authenticate
  split
  · exact knows_refuse rfl
  · split_ifs
    · exact trivial
    · exact knows_refuse rfl
    · exact knows_refuse rfl

theorem knows_matchKey (signal : VerifiedSignal runtime) :
    AnswersKnow state (state.matchKey signal) := by
  unfold IntegrationState.matchKey
  split
  next => exact trivial
  next prior found =>
    have earlier := receiptByKey_some found
    split
    next same => exact ⟨fun _ => ⟨prior.2, earlier, same⟩, nofun, nofun⟩
    next different => exact ⟨nofun, fun _ => ⟨prior.2, earlier, different⟩, nofun⟩

section

variable (invariant : ReceiptInvariant state)
include invariant

theorem knows_checkNonce (keyFree : state.receiptByKey signal.toReceivedSignal = none) :
    AnswersKnow state (state.checkNonce signal) := by
  unfold IntegrationState.checkNonce
  split
  next taken =>
    exact ⟨(fun same => by cases same), (fun same => by cases same),
      fun _ => nonceSpent invariant keyFree taken⟩
  next =>
    split_ifs
    · exact trivial
    · exact answered_other signal rfl
    · exact answered_other signal rfl

theorem knows_persist {signal : ValidSignal runtime} (call : Nat) (profile : Option String)
    (free : GatewayFreedom)
    (undisputed : (state.receiptByKey signal.toReceivedSignal).all (fun prior =>
      prior.2.requestFingerprint == signal.requestFingerprint &&
        !(free.nonceReported && (state.receiptByNonce signal.toReceivedSignal).isSome)) = true) :
    AnswersKnow state (state.persist call signal profile free).2 := by
  obtain ⟨created, _, correlating⟩ | ⟨_, ⟨replayed, taken, reported⟩ | ⟨repeated, taken⟩ | closed⟩ :=
    persist_cases state call signal profile free
  · rw [correlating]
    exact trivial
  · rw [replayed]
    cases found : state.receiptByKey signal.toReceivedSignal with
    | none => exact ⟨nofun, nofun, fun _ => nonceSpent invariant found taken⟩
    | some prior =>
      rw [found, Option.all_some, taken, Bool.and_true, Bool.and_eq_true, Bool.not_eq_true']
        at undisputed
      rw [found] at reported
      obtain reported | free := reported
      · rw [reported] at undisputed
        cases undisputed.2
      · cases free
  · rw [repeated]
    obtain ⟨prior, found⟩ := Option.isSome_iff_exists.mp taken
    rw [found, Option.all_some, Bool.and_eq_true, beq_iff_eq] at undisputed
    exact ⟨prior.2, receiptByKey_some found, undisputed.1⟩
  · rw [closed]
    exact answered_other signal.toVerifiedSignal rfl

theorem knows_gatewayStatement (call : Nat) (run : GatewayRun) (free : GatewayFreedom)
    (knows : AnswersKnow state stage)
    (undisputed : IntegrationStage.undisputed state free (.gateway run stage) = true) :
    AnswersKnow state (state.gatewayStatement call free stage).2 := by
  cases stage with
  | resolving input now => exact knows_resolve input now
  | limiting signal =>
    unfold IntegrationState.gatewayStatement IntegrationState.limit
    dsimp only
    split
    · exact knows_refuse rfl
    · exact trivial
  | authenticating signal => exact knows_authenticate signal
  | matching signal => exact knows_matchKey signal
  | replaying signal =>
    exact knows_checkNonce invariant (Option.isNone_iff_eq_none.mp undisputed)
  | piloting signal =>
    unfold IntegrationState.gatewayStatement
    dsimp only
    split
    · exact answered_other signal.toVerifiedSignal rfl
    · exact answered_other signal.toVerifiedSignal rfl
    · exact trivial
  | linking signal => exact trivial
  | persisting signal profile => exact knows_persist invariant call profile free undisputed
  | repeated signal => exact ⟨fun _ => knows, nofun, nofun⟩
  | correlating signal receiptId created => exact answered_other signal.toVerifiedSignal rfl
  | ended signal answer => exact knows

end

theorem knows_throws (knows : AnswersKnow state stage) : AnswersKnow state stage.throws := by
  cases stage with
  | ended signal answer => exact knows
  | correlating signal receiptId created => exact answered_other signal.toVerifiedSignal rfl
  | _ => exact knows_refuse rfl

def CallKnows (state : IntegrationState runtime) : IntegrationStage runtime → Prop
  | .gateway _ stage => AnswersKnow state stage
  | _ => True

theorem CallKnows.kept {stage : IntegrationStage runtime} (knows : CallKnows state stage)
    (kept : ReceiptsKept state after) : CallKnows after stage := by
  cases stage with
  | gateway run stage => exact AnswersKnow.kept knows kept
  | _ => exact trivial

theorem knows_createKey (registration : Registration) (keyVersion : Nat) (keyId : String) :
    CallKnows state (state.createKey registration keyVersion keyId).2 := by
  unfold IntegrationState.createKey
  split
  · exact trivial
  · dsimp only
    split <;> exact trivial

theorem knows_statement (invariant : ReceiptInvariant state) (call : Nat)
    {stage : IntegrationStage runtime} (choice : IntegrationChoice) (knows : CallKnows state stage)
    (undisputed : ∀ free, choice = .runs free → stage.undisputed state free = true) :
    CallKnows state ((integrationProgram runtime).statement state call stage choice).2 := by
  cases choice with
  | dies =>
    change CallKnows state stage.dies
    unfold IntegrationStage.dies
    split
    next =>
      split
      · exact knows
      · exact trivial
    next => exact trivial
    next => exact trivial
  | throws =>
    change CallKnows state (state.throws stage).2
    unfold IntegrationState.throws
    split
    next =>
      split
      · exact trivial
      · exact knows
    next => exact knows_throws knows
    next => exact trivial
    next => exact trivial
    next => exact trivial
  | runs free =>
    change CallKnows state (state.statement call free stage).2
    unfold IntegrationState.statement
    split
    next =>
      split
      · exact trivial
      · exact knows
    next => exact knows_gatewayStatement invariant call _ free knows (undisputed free rfl)
    next => exact trivial
    next =>
      unfold IntegrationState.findInstallation
      dsimp only
      split
      · split <;> exact trivial
      · exact trivial
    next => exact trivial
    next => exact knows_createKey _ _ _
    next =>
      split
      · dsimp only
        split <;> exact trivial
      · exact trivial
    next => exact trivial
    next =>
      dsimp only
      split <;> exact trivial
    next => exact trivial
    next =>
      dsimp only
      split <;> exact trivial
    next => exact trivial
    next => exact trivial
    next => exact trivial

def answerAssertions (runtime : IntegrationRuntime) :
    Assertions (IntegrationState runtime) (IntegrationStage runtime) where
  invariant := ReceiptInvariant
  assertion := fun state _ stage => ∀ entered, stage = some entered → CallKnows state entered

theorem answerAssertions_sound (runtime : IntegrationRuntime) :
    (answerAssertions runtime).Sound (integrationProgram runtime)
      fun system action => IntegrationSystem.undisputed system action = true where
  enter := by
    intro system call request _ _ _ entered same
    cases same
    cases request with
    | deliver input => exact trivial
    | registerKey permitted registration => cases permitted <;> exact trivial
    | startRotation permitted tenantId keyId => cases permitted <;> exact trivial
    | revokeKey permitted tenantId keyId => cases permitted <;> exact trivial
    | setInstallationStatus permitted tenantId installationId status =>
      cases permitted <;> exact trivial
  statement := by
    intro system call stage choice holds meets found
    have invariant : ReceiptInvariant system.shared := holds.invariant
    have undisputed : ∀ free, choice = .runs free → stage.undisputed system.shared free = true := by
      intro free same
      rw [same] at meets
      unfold IntegrationSystem.undisputed at meets
      dsimp only at meets
      rw [found, Option.all_some] at meets
      exact meets
    have knows := knows_statement invariant call choice (holds.at_stage found stage rfl) undisputed
    refine ⟨?_, ?_⟩
    · obtain ⟨_, _, _, _, _, _, persists, _⟩ | ⟨kept, _⟩ :=
        statement_cases system.shared call stage choice
      · exact invariant.persists persists
      · exact invariant.unpersisted kept
    · intro entered same
      cases same
      exact knows.kept (statement_keepsReceipts system.shared call stage choice)
  undisturbed := by
    intro system call stage choice other holds _ found _ entered same
    exact (holds.assertion other entered same).kept
      (statement_keepsReceipts system.shared call stage choice)
  occur := by
    intro system event holds _
    have invariant : ReceiptInvariant system.shared := holds.invariant
    refine ⟨invariant.unpersisted ⟨rfl, rfl⟩, ?_⟩
    intro call entered same
    exact (holds.assertion call entered same).kept fun _ _ found => found

theorem answersTruthful_of_hold {system : IntegrationSystem runtime}
    (holds : (answerAssertions runtime).Hold system) : AnswersTruthful system := by
  have invariant : ReceiptInvariant system.shared := holds.invariant
  intro call run signal answer found compares
  have knows : AnswersKnow system.shared (.ended signal answer) := holds.at_stage found _ rfl
  cases signal with
  | none =>
    have plain : answer.code.comparesDeliveries = false := knows
    rw [plain] at compares
    cases compares
  | some signal =>
    obtain ⟨duplicate, conflict, replayed⟩ := knows
    refine ⟨signal, rfl, duplicate, conflict, ?_⟩
    intro code id row stored same
    obtain ⟨otherId, other, foundOther, installation, nonce, different⟩ := replayed code
    obtain ⟨envelopes, installations⟩ := same_envelope same
    obtain ⟨_, _, columns⟩ := invariant.columns id row stored
    have nonces : row.origin.nonceHash = signal.nonceHash := by
      unfold ReceivedSignal.nonceHash ReceivedSignal.text
      rw [envelopes, installations]
    have once : id = otherId := by
      refine invariant.nonceOnce id otherId row other stored foundOther ?_ ?_
      · rw [columns, installation]
        exact installations
      · rw [columns, nonce]
        exact nonces
    rw [once, foundOther] at stored
    cases stored
    exact different same

end

/-- In every run in which no delivery with the same idempotency key is accepted between the
lookup of the key and the transaction of another, the answers are truthful. -/
theorem answersTruthful_of_undisputed (runtime : IntegrationRuntime)
    (state : IntegrationState runtime) (actions : List IntegrationAction) (initial : state.Initial)
    (undisputed : Runs.Meets (integrationStep runtime)
      (fun system action => IntegrationSystem.undisputed system action = true)
      (System.initial state) actions) :
    ∀ reached ∈ Runs.states (integrationStep runtime) (System.initial state) actions,
      AnswersTruthful reached := by
  have start : (answerAssertions runtime).Hold (System.initial state) :=
    Assertions.Hold.initial initial.hold.invariant fun call entered absent => by cases absent
  intro reached member
  exact answersTruthful_of_hold
    ((answerAssertions_sound runtime).states start undisputed reached member)

/-- A request that is accepted, and sent again afterwards. -/
theorem answersTruthful_of_retransmission :
    AnswersTruthful
      (Runs.run (integrationStep sampleRuntime) (System.initial sampleIntegration)
        (acceptedRun ++ .enter 1 (.deliver (sampleInput "first")) ::
          List.replicate 4 (integrationRuns 1 "s"))) :=
  answersTruthful_of_undisputed sampleRuntime sampleIntegration _ sampleIntegration_initial
    (by decide +kernel) _ (Runs.run_mem_states _)

/-- A call that is told of a replay, although the very bytes that it has sent were accepted. -/
def replayAccused (system : IntegrationSystem sampleRuntime) (call : Nat) : Bool :=
  (system.calls.find? call).any fun stage =>
    match stage with
    | .gateway _ (.ended (some signal) answer) =>
      answer.code == .nonceReplayed && system.shared.receipts.rows.any fun row =>
        row.2.origin.input == signal.input
    | _ => false

theorem not_truthful_of_replayAccused {system : IntegrationSystem sampleRuntime} {call : Nat}
    (accused : replayAccused system call = true) : ¬AnswersTruthful system := by
  intro truthful
  unfold replayAccused at accused
  cases found : system.calls.find? call with
  | none =>
    rw [found] at accused
    cases accused
  | some stage =>
    rw [found, Option.any_some] at accused
    split at accused
    next run signal answer =>
      rw [Bool.and_eq_true, beq_iff_eq] at accused
      obtain ⟨code, any⟩ := accused
      obtain ⟨⟨id, row⟩, member, same⟩ := List.any_eq_true.mp any
      obtain ⟨verified, known, truth⟩ := truthful call run (some signal) answer found
        (by rw [code]; rfl)
      cases known
      exact truth.replayed code id row (Table.find?_eq_some_iff.mpr member) (beq_iff_eq.mp same)
    next => cases accused

/-- Two deliveries of one request, the later of which looks up the key too early. -/
def overlappingDeliveries : List IntegrationAction :=
  .enter 0 (.deliver (sampleInput "first")) :: .enter 1 (.deliver (sampleInput "first")) ::
    (List.replicate 4 (integrationRuns 0 "r") ++ List.replicate 4 (integrationRuns 1 "s") ++
      List.replicate 5 (integrationRuns 0 "r") ++ [integrationRuns 1 "s"])

/-- The later delivery is told of a replay. -/
theorem retransmission_told_replayed :
    ¬∀ (runtime : IntegrationRuntime) (state : IntegrationState runtime)
      (actions : List IntegrationAction), state.Initial →
      ∀ reached ∈ Runs.states (integrationStep runtime) (System.initial state) actions,
        AnswersTruthful reached := by
  intro claim
  have truthful := claim sampleRuntime sampleIntegration overlappingDeliveries
    sampleIntegration_initial _ (Runs.run_mem_states _)
  have accused : replayAccused (Runs.run (integrationStep sampleRuntime)
      (System.initial sampleIntegration) overlappingDeliveries) 1 = true := by decide +kernel
  exact not_truthful_of_replayAccused accused truthful

end Tamanor.Db
