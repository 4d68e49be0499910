import Tamanor.Db.FamilyNotificationOutbox
import Tamanor.Library.Runs

/-! The attempts of one event under batches that run one after the other. One counter serves
the retries, the readiness holds and the recovery from crashes. -/

set_option autoImplicit false

namespace Tamanor.Db

open Library

inductive AttemptKind where
  /-- The batch crashed before it settled the event. -/
  | crashed
  | transient
  /-- A critical event without an authorized recipient. -/
  | readiness
  | settled
deriving DecidableEq

def OutboxOutcome.attemptKind (ev : ClaimedRow) : OutboxOutcome → AttemptKind
  | .retry _ => .transient
  | .authorizationPending => .readiness
  | .completed .noRecipients .. => if ev.notificationType.isCritical then .readiness else .settled
  | _ => .settled

def OutboxBatch.attempt? (batch : OutboxBatch) (events : OutboxTable) (id : String) :
    Option AttemptKind :=
  let rows := (claimBatch batch.now batch.batchSize events).2
  (rows.find? (·.id == id)).map fun ev =>
    if (batch.settled rows).any (·.id == id) then (batch.outcome ev).attemptKind ev else .crashed

structure OutboxBudget where
  events : OutboxTable
  attempts : List AttemptKind

def OutboxBudget.step (id : String) (budget : OutboxBudget) (batch : OutboxBatch) : OutboxBudget :=
  ⟨(processFamilyNotificationOutboxBatch batch budget.events).1,
    budget.attempts ++ (batch.attempt? budget.events id).toList⟩

def OutboxEvent.IsNew (event : OutboxEvent) : Prop := event.status = .pending ∧ event.attemptCount = 0

structure BudgetTruthful (id : String) (budget : OutboxBudget) : Prop where
  retried : ∀ event, budget.events.find? id = some event → event.status = .deadLetter →
    event.lastErrorCode = some .maxAttemptsExceeded →
    outboxMaxAttempts ≤ budget.attempts.count .transient
  awaited : ∀ event, budget.events.find? id = some event →
    event.notificationType.isCritical = true → event.status = .completed →
    event.safeReasonCode = some .noRecipients →
    outboxReadinessMaxAttempts ≤ budget.attempts.count .readiness
  bounded : budget.attempts.length ≤ outboxReadinessMaxAttempts

/-- A transient error from the fifth attempt on comes after four others, an empty answer from
the eighth attempt on after seven others, and no attempt after the eighth one crashed. -/
def SpendsBudget (id : String) (budget : OutboxBudget) (batch : OutboxBatch) : Prop :=
  ∀ kind, batch.attempt? budget.events id = some kind →
    (kind = .transient → outboxMaxAttempts ≤ budget.attempts.length + 1 →
      ∀ index < outboxMaxAttempts - 1, budget.attempts[index]? = some .transient) ∧
    (kind = .readiness → outboxReadinessMaxAttempts ≤ budget.attempts.length + 1 →
      ∀ index < outboxReadinessMaxAttempts - 1, budget.attempts[index]? = some .readiness) ∧
    budget.attempts[outboxReadinessMaxAttempts - 1]? ≠ some .crashed

variable {id : String} {event : OutboxEvent} {events : OutboxTable} {batch : OutboxBatch}
  {budget : OutboxBudget}

theorem find?_settleAll_other {rows : List ClaimedRow} (absent : id ∉ rows.map ClaimedRow.id) :
    (batch.settleAll rows events).find? id = events.find? id := by
  induction rows generalizing events with
  | nil => rfl
  | cons ev rows ih =>
    rw [List.map_cons, List.mem_cons, not_or] at absent
    exact (ih absent.2).trans (find?_settle_other _ absent.1)

theorem find?_settleAll {rows : List ClaimedRow} {ev : ClaimedRow} (member : ev ∈ rows)
    (distinct : (rows.map ClaimedRow.id).Nodup) (found : events.find? ev.id = some event)
    (tenant : event.tenantId = ev.tenantId) :
    (batch.settleAll rows events).find? ev.id =
      some ((outboxSettlement ev batch.now (batch.outcome ev)).write batch.now event) := by
  induction rows generalizing events with
  | nil => cases member
  | cons first rows ih =>
    rw [List.map_cons, List.nodup_cons] at distinct
    rcases List.mem_cons.mp member with rfl | later
    · refine (find?_settleAll_other distinct.1).trans ?_
      rw [find?_settle, found, Option.map_some, if_pos ⟨rfl, tenant⟩]
    · have other : ev.id ≠ first.id := fun same =>
        distinct.1 (same ▸ List.mem_map_of_mem later)
      exact ih later distinct.2 ((find?_settle_other _ other).trans found)

theorem settled_sublist (batch : OutboxBatch) (rows : List ClaimedRow) :
    (batch.settled rows).Sublist rows := by
  unfold OutboxBatch.settled
  split
  · exact List.Sublist.refl _
  · exact List.take_sublist _ _

def OutboxBatch.claim (batch : OutboxBatch) (id : String) (event : OutboxEvent) : ClaimedRow :=
  claimedRow id (claimed batch.now event)

theorem attempt_cases (batch : OutboxBatch) (found : events.find? id = some event) :
    (batch.attempt? events id = none ∧
      (processFamilyNotificationOutboxBatch batch events).1.find? id = some event) ∨
    event.isClaimable batch.now = true ∧
      ((batch.attempt? events id = some .crashed ∧
        (processFamilyNotificationOutboxBatch batch events).1.find? id =
          some (claimed batch.now event)) ∨
      (batch.attempt? events id =
          some ((batch.outcome (batch.claim id event)).attemptKind (batch.claim id event)) ∧
        (processFamilyNotificationOutboxBatch batch events).1.find? id =
          some ((outboxSettlement (batch.claim id event) batch.now
            (batch.outcome (batch.claim id event))).write batch.now (claimed batch.now event)))) := by
  have distinct := nodup_claimBatch batch.now batch.batchSize events
  have settledSublist := settled_sublist batch (claimBatch batch.now batch.batchSize events).2
  show _ ∧ (batch.settleAll (batch.settled _) _).find? id = _ ∨
    _ ∧ (_ ∧ (batch.settleAll (batch.settled _) _).find? id = _ ∨
      _ ∧ (batch.settleAll (batch.settled _) _).find? id = _)
  rcases find?_claimBatch batch.now batch.batchSize found with
    ⟨unclaimed, kept⟩ | ⟨claimable, member, claims⟩
  · left
    have absent : id ∉ (batch.settled (claimBatch batch.now batch.batchSize events).2).map
        ClaimedRow.id := by
      intro present
      obtain ⟨ev, settled, same⟩ := List.mem_map.mp present
      exact unclaimed ev (settledSublist.subset settled) same
    refine ⟨?_, (find?_settleAll_other absent).trans kept⟩
    have none : (claimBatch batch.now batch.batchSize events).2.find? (·.id == id) = none := by
      rw [List.find?_eq_none]
      intro ev here
      simpa using unclaimed ev here
    rw [OutboxBatch.attempt?, none, Option.map_none]
  · refine .inr ⟨claimable, ?_⟩
    have first : (claimBatch batch.now batch.batchSize events).2.find? (·.id == id) =
        some (batch.claim id event) := by
      obtain ⟨ev, is⟩ := Option.isSome_iff_exists.mp
        (List.find?_isSome.mpr ⟨_, member, by simp [claimedRow]⟩ :
          ((claimBatch batch.now batch.batchSize events).2.find? (·.id == id)).isSome)
      have here : ev.id = id := by simpa using List.find?_some is
      rw [is, List.inj_on_of_nodup_map distinct (List.mem_of_find?_eq_some is) member here]
      rfl
    rw [OutboxBatch.attempt?, first, Option.map_some]
    by_cases settles : batch.claim id event ∈
        batch.settled (claimBatch batch.now batch.batchSize events).2
    · right
      have any : (batch.settled (claimBatch batch.now batch.batchSize events).2).any
          (·.id == id) = true := List.any_eq_true.mpr ⟨_, settles, by simp [OutboxBatch.claim, claimedRow]⟩
      rw [if_pos any]
      exact ⟨rfl, find?_settleAll settles (distinct.sublist (settledSublist.map _)) claims rfl⟩
    · left
      have absent : id ∉ (batch.settled (claimBatch batch.now batch.batchSize events).2).map
          ClaimedRow.id := by
        intro present
        obtain ⟨ev, settled, same⟩ := List.mem_map.mp present
        have mine := List.inj_on_of_nodup_map distinct (settledSublist.subset settled) member same
        rw [mine] at settled
        exact settles settled
      have any : ¬(batch.settled (claimBatch batch.now batch.batchSize events).2).any
          (·.id == id) = true := by
        intro found
        obtain ⟨ev, settled, same⟩ := List.any_eq_true.mp found
        exact absent (List.mem_map.mpr ⟨ev, settled, by simpa using same⟩)
      rw [if_neg any]
      exact ⟨rfl, (find?_settleAll_other absent).trans claims⟩

/-- The attempt ended in a transient error, held the event, found nobody to notify, or settled
the event for another reason. -/
inductive OutcomeCase (ev : ClaimedRow) : OutboxOutcome → Prop
  | transient : OutcomeCase ev (.retry .processingError)
  | rejected {errorCode : OutboxErrorCode} : errorCode ≠ .maxAttemptsExceeded →
      OutcomeCase ev (.deadLetter errorCode)
  | done {reason : OutboxSafeReason} {created duplicates : Nat} {empty : Bool} :
      reason ≠ .noRecipients → OutcomeCase ev (.completed reason created duplicates empty)
  | held : ev.attemptCount < outboxReadinessMaxAttempts → OutcomeCase ev .authorizationPending
  | nobody {duplicates : Nat} : (ev.notificationType.isCritical = true →
      outboxReadinessMaxAttempts ≤ ev.attemptCount) →
      OutcomeCase ev (.completed .noRecipients 0 duplicates true)

theorem resultOutcome_case (ev : ClaimedRow) (answer : Option CreationResult) :
    OutcomeCase ev (resultOutcome ev answer) := by
  cases answer with
  | none => exact .transient
  | some result =>
    cases result with
    | failed reason =>
      cases reason with
      | resolverError => exact .transient
      | unsupportedType => exact .rejected fun same => by cases same
      | authorizationAmbiguous => exact .rejected fun same => by cases same
      | sourceNotFound => exact .done fun same => by cases same
      | tenantMismatch => exact .done fun same => by cases same
      | workspaceMismatch => exact .done fun same => by cases same
      | profileMismatch => exact .done fun same => by cases same
      | sourceStateInvalid => exact .done fun same => by cases same
    | ok eligible created duplicates =>
      unfold resultOutcome
      dsimp only
      split
      · split
        · next held => exact .held held.2
        · next exhausted =>
          exact .nobody fun critical => Nat.le_of_not_lt fun few => exhausted ⟨critical, few⟩
      · split <;> exact .done fun same => by cases same

theorem processOne_case (ev : ClaimedRow) (now : Int) (create : CreateNotification) :
    OutcomeCase ev (processOne ev now create) := by
  unfold processOne
  split
  · exact .rejected fun same => by cases same
  · split
    · exact .rejected fun same => by cases same
    · split
      · exact .rejected fun same => by cases same
      · exact resultOutcome_case ev _

/-- What an attempt leaves of an event that has now been claimed `count` times. -/
inductive AttemptEffect (count : Nat) (event : OutboxEvent) : AttemptKind → Prop
  | crashed : event.status = .processing → AttemptEffect count event .crashed
  | retried : count < outboxMaxAttempts → event.status = .pending →
      AttemptEffect count event .transient
  | exhausted : outboxMaxAttempts ≤ count → event.status = .deadLetter →
      event.lastErrorCode = some .maxAttemptsExceeded → AttemptEffect count event .transient
  | held : count < outboxReadinessMaxAttempts → event.status = .pending →
      AttemptEffect count event .readiness
  | nobody : outboxReadinessMaxAttempts ≤ count → event.notificationType.isCritical = true →
      event.status = .completed → event.safeReasonCode = some .noRecipients →
      AttemptEffect count event .readiness
  | rejected : event.status = .deadLetter → event.lastErrorCode ≠ some .maxAttemptsExceeded →
      AttemptEffect count event .settled
  | done : event.status = .completed → (event.notificationType.isCritical = true →
      event.safeReasonCode ≠ some .noRecipients) → AttemptEffect count event .settled

theorem OutcomeCase.effect {ev : ClaimedRow} {outcome : OutboxOutcome} (now : Int)
    (event : OutboxEvent) (is : OutcomeCase ev outcome) (same : event.notificationType = ev.notificationType) :
    AttemptEffect ev.attemptCount ((outboxSettlement ev now outcome).write now event)
      (outcome.attemptKind ev) := by
  cases is with
  | transient =>
    rw [outboxSettlement]
    split
    · next few => exact .retried few rfl
    · next many => exact .exhausted (Nat.le_of_not_lt many) rfl rfl
  | rejected other => exact .rejected rfl fun same => other (Option.some.inj same)
  | @done reason created duplicates empty other =>
    have settled : (OutboxOutcome.completed reason created duplicates empty).attemptKind ev =
        .settled := by
      cases reason <;> first | rfl | exact absurd rfl other
    rw [settled]
    exact .done rfl fun _ same => other (Option.some.inj same)
  | held few => exact .held few rfl
  | @nobody duplicates exhausted =>
    cases critical : ev.notificationType.isCritical with
    | true =>
      have readiness : OutboxOutcome.attemptKind ev (.completed .noRecipients 0 duplicates true) =
          .readiness := if_pos critical
      rw [readiness]
      exact .nobody (exhausted critical) ((congrArg _ same).trans critical) rfl rfl
    | false =>
      have settled : OutboxOutcome.attemptKind ev (.completed .noRecipients 0 duplicates true) =
          .settled := if_neg (by simp [critical])
      rw [settled]
      refine .done rfl fun isCritical => ?_
      rw [notificationType_write, same, critical] at isCritical
      cases isCritical

theorem attempt_effect (batch : OutboxBatch) (found : events.find? id = some event) :
    (batch.attempt? events id = none ∧
      (processFamilyNotificationOutboxBatch batch events).1.find? id = some event) ∨
    ∃ kind event', ¬event.status.IsTerminal ∧ batch.attempt? events id = some kind ∧
      (processFamilyNotificationOutboxBatch batch events).1.find? id = some event' ∧
      event'.attemptCount = event.attemptCount + 1 ∧
      AttemptEffect (event.attemptCount + 1) event' kind := by
  rcases attempt_cases batch found with unclaimed | ⟨claimable, crashed | settled⟩
  · exact .inl unclaimed
  · exact .inr ⟨.crashed, claimed batch.now event, not_isTerminal_of_isClaimable claimable,
      crashed.1, crashed.2, rfl, .crashed rfl⟩
  · refine .inr ⟨_, _, not_isTerminal_of_isClaimable claimable, settled.1, settled.2, ?_, ?_⟩
    · exact attemptCount_write _ _ _
    · have is := processOne_case (batch.claim id event) batch.now batch.create
      exact is.effect batch.now (claimed batch.now event) rfl

/-- As long as the event is open, no attempt has settled it: the transient errors are among
the first attempts, and so are the holds. -/
structure CountsAttempts (id : String) (budget : OutboxBudget) (event : OutboxEvent) : Prop where
  found : budget.events.find? id = some event
  counted : event.attemptCount = budget.attempts.length
  unsettled : ¬event.status.IsTerminal → ∀ index : Nat,
    budget.attempts[index]? ≠ some .settled
  transient : ¬event.status.IsTerminal → ∀ index : Nat, budget.attempts[index]? = some .transient →
    index < outboxMaxAttempts - 1
  readiness : ¬event.status.IsTerminal → ∀ index : Nat, budget.attempts[index]? = some .readiness →
    index < outboxReadinessMaxAttempts - 1

variable {kind : AttemptKind} {attempts : List AttemptKind}

theorem le_count_iff {limit : Nat} (early : ∀ index, attempts[index]? = some kind → index < limit) :
    limit ≤ attempts.count kind ↔ ∀ index < limit, attempts[index]? = some kind := by
  have late : (attempts.drop limit).count kind = 0 := by
    rw [List.count_eq_zero]
    intro member
    obtain ⟨index, is⟩ := List.mem_iff_getElem?.mp member
    rw [List.getElem?_drop] at is
    have := early _ is
    omega
  have counted : attempts.count kind = (attempts.take limit).count kind := by
    conv_lhs => rw [← List.take_append_drop limit attempts]
    rw [List.count_append, late, Nat.add_zero]
  rw [counted]
  constructor
  · intro enough
    have short := List.count_le_length (a := kind) (l := attempts.take limit)
    have length : (attempts.take limit).length = limit := by
      have := List.length_take_le limit attempts
      omega
    have all := List.count_eq_length.mp (by omega :
      (attempts.take limit).count kind = (attempts.take limit).length)
    intro index below
    have inside : index < (attempts.take limit).length := by omega
    rw [← List.getElem?_take_of_lt below, List.getElem?_eq_getElem inside]
    exact congrArg some (all _ (List.getElem_mem inside)).symm
  · intro filled
    have length : limit ≤ attempts.length := by
      by_contra short
      have absent := filled attempts.length (by omega)
      rw [List.getElem?_eq_none le_rfl] at absent
      cases absent
    have all : ∀ other ∈ attempts.take limit, kind = other := by
      intro other member
      obtain ⟨index, is⟩ := List.mem_iff_getElem?.mp member
      rw [List.getElem?_take] at is
      split at is
      · next below => exact Option.some.inj ((filled index below).symm.trans is)
      · cases is
    rw [List.count_eq_length.mpr all, List.length_take]
    omega

theorem countsAttempts_new (found : events.find? id = some event) (new : event.IsNew) :
    CountsAttempts id ⟨events, []⟩ event where
  found := found
  counted := new.2
  unsettled := fun _ _ same => by cases same
  transient := fun _ _ same => by cases same
  readiness := fun _ _ same => by cases same

theorem getElem?_concat_cases {other : AttemptKind} {index : Nat}
    (is : (attempts ++ [kind])[index]? = some other) :
    attempts[index]? = some other ∨ (index = attempts.length ∧ kind = other) := by
  rcases Nat.lt_or_ge index attempts.length with inside | outside
  · left
    rwa [List.getElem?_append_left inside] at is
  · right
    rw [List.getElem?_append_right outside] at is
    have here : index = attempts.length := by
      by_contra other
      rw [List.getElem?_eq_none (by simp; omega)] at is
      cases is
    subst here
    simpa using is

theorem not_isTerminal_open {status : OutboxStatus} (isOpen : ¬status.IsTerminal) :
    status ≠ .completed ∧ status ≠ .deadLetter :=
  ⟨fun completed => isOpen (.inl completed), fun deadLetter => isOpen (.inr deadLetter)⟩

theorem CountsAttempts.step (batch : OutboxBatch) (counts : CountsAttempts id budget event) :
    ∃ event', CountsAttempts id (budget.step id batch) event' := by
  rcases attempt_effect batch counts.found with
    ⟨none, kept⟩ | ⟨kind, event', isOpen, attempted, found', counted, effect⟩
  · refine ⟨event, kept, ?_, ?_, ?_, ?_⟩
    all_goals simp only [OutboxBudget.step, none, Option.toList_none, List.append_nil]
    · exact counts.counted
    · exact counts.unsettled
    · exact counts.transient
    · exact counts.readiness
  · refine ⟨event', found', ?_, ?_, ?_, ?_⟩
    all_goals simp only [OutboxBudget.step, attempted, Option.toList_some]
    · rw [counted, counts.counted, List.length_append, List.length_singleton]
    · intro later index is
      obtain ⟨notCompleted, notDead⟩ := not_isTerminal_open later
      rcases getElem?_concat_cases is with before | ⟨-, rfl⟩
      · exact counts.unsettled isOpen index before
      · cases effect with
        | rejected deadLetter => exact notDead deadLetter
        | done completed => exact notCompleted completed
    · intro later index is
      obtain ⟨-, notDead⟩ := not_isTerminal_open later
      rcases getElem?_concat_cases is with before | ⟨here, rfl⟩
      · exact counts.transient isOpen index before
      · cases effect with
        | retried few =>
          have := counts.counted
          omega
        | exhausted _ deadLetter => exact absurd deadLetter notDead
    · intro later index is
      obtain ⟨notCompleted, -⟩ := not_isTerminal_open later
      rcases getElem?_concat_cases is with before | ⟨here, rfl⟩
      · exact counts.readiness isOpen index before
      · cases effect with
        | held few =>
          have := counts.counted
          omega
        | nobody _ _ completed => exact absurd completed notCompleted

/-! What an attempt does to the promise. -/

theorem le_count_concat_iff {limit : Nat}
    (early : ∀ index, attempts[index]? = some kind → index < limit - 1) (positive : 0 < limit) :
    limit ≤ (attempts ++ [kind]).count kind ↔ ∀ index < limit - 1, attempts[index]? = some kind := by
  rw [List.count_append, List.count_singleton_self, ← le_count_iff early]
  omega

theorem eighth_crashed_iff (counts : CountsAttempts id budget event)
    (isOpen : ¬event.status.IsTerminal) :
    budget.attempts.length + 1 ≤ outboxReadinessMaxAttempts ↔
      budget.attempts[outboxReadinessMaxAttempts - 1]? ≠ some .crashed := by
  have few : budget.attempts.length + 1 ≤ outboxReadinessMaxAttempts ↔
      budget.attempts[outboxReadinessMaxAttempts - 1]? = none := by
    rw [List.getElem?_eq_none_iff]
    simp only [outboxReadinessMaxAttempts]
    omega
  rw [few]
  constructor
  · intro none crashed
    rw [none] at crashed
    cases crashed
  · intro notCrashed
    cases eighth : budget.attempts[outboxReadinessMaxAttempts - 1]? with
    | none => rfl
    | some kind =>
      cases kind with
      | crashed => exact absurd eighth notCrashed
      | transient => exact absurd (counts.transient isOpen _ eighth) (by decide)
      | readiness => exact absurd (counts.readiness isOpen _ eighth) (by decide)
      | settled => exact absurd eighth (counts.unsettled isOpen _)

theorem truthful_step_iff (batch : OutboxBatch) (counts : CountsAttempts id budget event)
    (truthful : BudgetTruthful id budget) :
    BudgetTruthful id (budget.step id batch) ↔ SpendsBudget id budget batch := by
  rcases attempt_effect batch counts.found with
    ⟨none, kept⟩ | ⟨kind, event', isOpen, attempted, found', counted, effect⟩
  · have same : (budget.step id batch).attempts = budget.attempts := by
      simp [OutboxBudget.step, none]
    have foundSame : (budget.step id batch).events.find? id = budget.events.find? id :=
      kept.trans counts.found.symm
    constructor
    · intro _ kind attempted
      rw [none] at attempted
      cases attempted
    · intro _
      refine ⟨?_, ?_, ?_⟩
      · rw [same, foundSame]
        exact truthful.retried
      · rw [same, foundSame]
        exact truthful.awaited
      · rw [same]
        exact truthful.bounded
  · have attempts : (budget.step id batch).attempts = budget.attempts ++ [kind] := by
      simp [OutboxBudget.step, attempted]
    have stored : (budget.step id batch).events.find? id = some event' := found'
    have bounded := eighth_crashed_iff counts isOpen
    have transients := le_count_concat_iff (counts.transient isOpen) (by decide : 0 < outboxMaxAttempts)
    have readinesses := le_count_concat_iff (counts.readiness isOpen)
      (by decide : 0 < outboxReadinessMaxAttempts)
    rw [counts.counted] at effect
    constructor
    · intro kept
      have retried := kept.retried event' stored
      have awaited := kept.awaited event' stored
      rw [attempts] at retried awaited
      have few := kept.bounded
      rw [attempts, List.length_append, List.length_singleton] at few
      intro other same
      rw [attempted] at same
      cases same
      refine ⟨?_, ?_, bounded.mp few⟩
      · rintro rfl many
        cases effect with
        | retried below => exact absurd below (Nat.not_lt.mpr many)
        | exhausted _ deadLetter exceeded => exact transients.mp (retried deadLetter exceeded)
      · rintro rfl many
        cases effect with
        | held below => exact absurd below (Nat.not_lt.mpr many)
        | nobody _ critical completed empty =>
          exact readinesses.mp (awaited critical completed empty)
    · intro spends
      obtain ⟨transient, readiness, notCrashed⟩ := spends kind attempted
      refine ⟨?_, ?_, ?_⟩
      · intro stored' found deadLetter exceeded
        cases stored.symm.trans found
        rw [attempts]
        cases effect with
        | crashed processing => rw [processing] at deadLetter; cases deadLetter
        | retried _ pending => rw [pending] at deadLetter; cases deadLetter
        | exhausted many => exact transients.mpr (transient rfl many)
        | held _ pending => rw [pending] at deadLetter; cases deadLetter
        | nobody _ _ completed => rw [completed] at deadLetter; cases deadLetter
        | rejected _ other => exact absurd exceeded other
        | done completed => rw [completed] at deadLetter; cases deadLetter
      · intro stored' found critical completed empty
        cases stored.symm.trans found
        rw [attempts]
        cases effect with
        | crashed processing => rw [processing] at completed; cases completed
        | retried _ pending => rw [pending] at completed; cases completed
        | exhausted _ deadLetter => rw [deadLetter] at completed; cases completed
        | held _ pending => rw [pending] at completed; cases completed
        | nobody many => exact readinesses.mpr (readiness rfl many)
        | rejected deadLetter => rw [deadLetter] at completed; cases completed
        | done _ other => exact absurd empty (other critical)
      · rw [attempts, List.length_append, List.length_singleton]
        exact bounded.mpr notCrashed

/-- Of a new event the promise is kept exactly if its attempts spend the counter one way. -/
theorem outbox_budget_truthful_iff (found : events.find? id = some event) (new : event.IsNew)
    (batches : List OutboxBatch) :
    (∀ reached ∈ Runs.states (OutboxBudget.step id) ⟨events, []⟩ batches, BudgetTruthful id reached) ↔
      Runs.Meets (OutboxBudget.step id) (SpendsBudget id) ⟨events, []⟩ batches := by
  have framed {budget : OutboxBudget} {batch : OutboxBatch}
      (counts : ∃ event, CountsAttempts id budget event) :
      ∃ event, CountsAttempts id (budget.step id batch) event := by
    obtain ⟨event, counts⟩ := counts
    exact counts.step batch
  have initial : BudgetTruthful id ⟨events, []⟩ := by
    refine ⟨?_, ?_, Nat.zero_le _⟩
    · intro stored is deadLetter
      cases found.symm.trans is
      rw [new.1] at deadLetter
      cases deadLetter
    · intro stored is _ completed
      cases found.symm.trans is
      rw [new.1] at completed
      cases completed
  refine @Runs.forall_states_iff_meets _ _ _ (SpendsBudget id) (BudgetTruthful id) _
    (fun budget => ∃ event, CountsAttempts id budget event) framed ?_ _
    ⟨event, countsAttempts_new found new⟩ initial
  rintro budget batch ⟨event, counts⟩ truthful
  exact truthful_step_iff batch counts truthful

def batchAt (now : Int) (answer : Option CreationResult) : OutboxBatch :=
  ⟨now, none, fun _ _ _ => answer, none⟩

theorem outbox_budget_of_retries :
    (∀ reached ∈ Runs.states (OutboxBudget.step "event") ⟨queuedEvents, []⟩
        [batchAt 0 none, batchAt 60_000 (some (.ok 1 1 0))], BudgetTruthful "event" reached) ↔
      Runs.Meets (OutboxBudget.step "event") (SpendsBudget "event") ⟨queuedEvents, []⟩
        [batchAt 0 none, batchAt 60_000 (some (.ok 1 1 0))] :=
  outbox_budget_truthful_iff (by decide +kernel : queuedEvents.find? "event" = some queuedEvent)
    ⟨rfl, rfl⟩ _

def holdsThenError : List OutboxBatch :=
  (List.range 4).map (fun (index : Nat) => batchAt (1_000_000 * index) (some (.ok 0 0 0))) ++
    [batchAt 4_000_000 none]

def crashAt (now : Int) : OutboxBatch := ⟨now, none, fun _ _ _ => none, some 0⟩

theorem step_crashAt {now : Int} (rows : budget.events.rows = [("event", event)])
    (claimable : event.isClaimable now = true) :
    (budget.step "event" (crashAt now)).events.rows = [("event", claimed now event)] ∧
      (budget.step "event" (crashAt now)).attempts = budget.attempts ++ [.crashed] := by
  have due : dueEvents now none budget.events = [("event", event)] := by
    have kept : [("event", event)].filter (fun row => row.2.isClaimable now) =
        [("event", event)] := List.filter_cons_of_pos claimable
    have limit : boundBatch none = 49 + 1 := by decide
    rw [dueEvents, rows, kept, List.insertionSort_cons, List.insertionSort_nil,
      List.orderedInsert_nil, limit, List.take_succ_cons, List.take_nil]
  have claims : (claimBatch now none budget.events).2 = [claimedRow "event" (claimed now event)] := by
    simp [claimBatch, due]
  have after : (claimBatch now none budget.events).1.rows = [("event", claimed now event)] := by
    simp [claimBatch, due, Table.updateWhere, rows]
  have attempted : (crashAt now).attempt? budget.events "event" = some .crashed := by
    simp [OutboxBatch.attempt?, crashAt, claims, OutboxBatch.settled, claimedRow]
  refine ⟨after, ?_⟩
  rw [OutboxBudget.step, attempted, Option.toList_some]

theorem isClaimable_claimed {now later : Int} (expired : now + outboxLeaseDurationMs < later) :
    (claimed now event).isClaimable later = true := by
  simp [OutboxEvent.isClaimable, claimed, expired]

def crashes : Nat → List OutboxBatch
  | 0 => []
  | count + 1 => crashes count ++ [crashAt ((outboxLeaseDurationMs + 1) * count)]

theorem attempts_crashes (count : Nat) :
    let crashed := Runs.run (OutboxBudget.step "event") ⟨queuedEvents, []⟩ (crashes count)
    crashed.attempts.length = count ∧ ∃ event, crashed.events.rows = [("event", event)] ∧
      event.isClaimable ((outboxLeaseDurationMs + 1) * count) = true := by
  dsimp only
  induction count with
  | zero => exact ⟨rfl, queuedEvent, rfl, by decide⟩
  | succ count ih =>
    obtain ⟨length, event, rows, claimable⟩ := ih
    obtain ⟨rows, attempts⟩ := step_crashAt rows claimable
    rw [crashes, Runs.run_append, Runs.run_cons, Runs.run_nil]
    refine ⟨?_, _, rows, ?_⟩
    · rw [attempts, List.length_append, length, List.length_singleton]
    · apply isClaimable_claimed
      rw [Nat.cast_succ, mul_add, mul_one, ← add_assoc]
      exact Int.lt_succ _

theorem not_outbox_budget_truthful :
    ¬BudgetTruthful "event" (Runs.run (OutboxBudget.step "event") ⟨queuedEvents, []⟩ holdsThenError) ∧
      ∀ bound, ∃ batches, bound <
        (Runs.run (OutboxBudget.step "event") ⟨queuedEvents, []⟩ batches).attempts.length := by
  constructor
  · intro truthful
    have deadLetter : ((Runs.run (OutboxBudget.step "event") ⟨queuedEvents, []⟩
        holdsThenError).events.find? "event").map (fun event => (event.status, event.lastErrorCode)) =
          some (.deadLetter, some .maxAttemptsExceeded) := by decide +kernel
    have once : (Runs.run (OutboxBudget.step "event") ⟨queuedEvents, []⟩
        holdsThenError).attempts.count .transient = 1 := by decide +kernel
    obtain ⟨event, found, both⟩ := Option.map_eq_some_iff.mp deadLetter
    have enough := truthful.retried event found (congrArg Prod.fst both) (congrArg Prod.snd both)
    rw [once] at enough
    exact absurd enough (by decide)
  · intro bound
    refine ⟨crashes (bound + 1), ?_⟩
    rw [(attempts_crashes (bound + 1)).1]
    exact Nat.lt_succ_self bound

end Tamanor.Db
