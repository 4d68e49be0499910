import Tamanor.Db.CyberbullyingSla
import Tamanor.Library.Aggregates

/-! The overview of the deadlines beside the views of the incidents. Both read the same rows: the
overview counts with the tests of its queries, the views work out states. -/

set_option autoImplicit false

namespace Tamanor.Db

open Tamanor.Core Library

/-! The views of a scope, and an overview that agrees with them. -/

def scopeViews (state : SlaDatabase) (actor : IncidentActorContext) (now : Int) :
    List IncidentSlaView :=
  (state.scopeRows actor).filterMap fun entry =>
    match state.getIncidentSlaView actor entry.1 now with
    | .ok view => view
    | .error _ => none

def SlaDatabase.activeEscalationsOf (state : SlaDatabase) (incidentId : String) : Nat :=
  state.escalations.countP fun escalation =>
    escalation.1 == incidentId && escalation.2 == .active

def FutureDeadline (state : SlaDatabase) (actor : IncidentActorContext) (now due : Int) : Prop :=
  now < due ∧ ∃ entry ∈ state.scopeRows actor,
    (∃ task ∈ state.openTasksOf entry.1, task.2.dueDate = some due) ∨
      entry.2.nextReviewAt = some due

structure OverviewAgrees (state : SlaDatabase) (actor : IncidentActorContext) (now : Int)
    (overview : SlaOverview) : Prop where
  firstReviewOverdue : overview.firstReviewOverdue =
    (scopeViews state actor now).countP fun view => view.firstReview == .overdue
  firstReviewDueSoon : overview.firstReviewDueSoon =
    (scopeViews state actor now).countP fun view => view.firstReview == .dueSoon
  criticalOverdue : overview.criticalOverdue =
    (scopeViews state actor now).countP fun view => view.criticalRisk == .overdue
  criticalDueSoon : overview.criticalDueSoon =
    (scopeViews state actor now).countP fun view => view.criticalRisk == .dueSoon
  followUpOverdue : overview.followUpOverdue =
    (scopeViews state actor now).countP fun view => view.followUp == .overdue
  followUpDueSoon : overview.followUpDueSoon =
    (scopeViews state actor now).countP fun view => view.followUp == .dueSoon
  taskOverdue : overview.taskOverdue =
    ((scopeViews state actor now).map IncidentSlaView.taskOverdue).sum
  taskDueSoon : overview.taskDueSoon =
    ((scopeViews state actor now).map IncidentSlaView.taskDueSoon).sum
  activeEscalations : overview.activeEscalations =
    ((state.scopeRows actor).map fun entry => state.activeEscalationsOf entry.1).sum
  nextDeadline : ∀ due, overview.nextDeadline = some due ↔
    IsLeast { other | FutureDeadline state actor now other } due

def SlaReadsAgree (state : SlaDatabase) (actor : IncidentActorContext) (now : Int) : Prop :=
  ∀ overview, state.getCyberbullyingSlaOverview actor now = .ok overview →
    OverviewAgrees state actor now overview

/-- The first review event, if there is one, is older than the incident. -/
def ReviewOwed (state : SlaDatabase) (entry : String × CaseRow) : Prop :=
  ∀ first, state.firstReviewAt entry.1 = some first → first < entry.2.createdAt

/-- An incident of the scope that owes its first review, twelve hours after its creation, is
active, and has no review event. -/
def ReviewsSeen (state : SlaDatabase) (actor : IncidentActorContext) (now : Int) : Prop :=
  ∀ entry ∈ state.scopeRows actor,
    SlaPolicy.firstReviewDueSoonHours * slaHour ≤ now - entry.2.createdAt →
    ReviewOwed state entry →
    activeStatuses.contains entry.2.status = true ∧ state.noReview entry.1 = true

/-- A critical risk of the scope without an event after it, one hour later, is among the rows that
are read, and no event has its time. -/
def CriticalRisksSeen (state : SlaDatabase) (actor : IncidentActorContext) (now : Int) : Prop :=
  ∀ entry ∈ state.scopeRows actor, ∀ since, entry.2.criticalSince = some since →
    SlaPolicy.criticalRiskDueSoonHours * slaHour ≤ now - since →
    (∀ event ∈ state.eventsOf entry.1, event.createdAt ≤ since) →
    entry ∈ state.criticalRows actor ∧ ∀ event ∈ state.eventsOf entry.1, event.createdAt ≠ since

section Scope

variable {state : SlaDatabase} {actor : IncidentActorContext} {now : Int} {entry : String × CaseRow}
  {since : Int}

theorem mem_scopeRows : entry ∈ state.scopeRows actor ↔
    state.incidents.find? entry.1 = some entry.2 ∧
      state.incidentScopeWhere actor entry.1 entry.2 = true := by
  unfold SlaDatabase.scopeRows
  rw [List.mem_filter, Table.find?_eq_some_iff]

theorem nodup_scopeIds (state : SlaDatabase) (actor : IncidentActorContext) :
    ((state.scopeRows actor).map Prod.fst).Nodup :=
  state.incidents.unique.sublist (List.filter_sublist.map Prod.fst)

theorem nodup_scopeRows : (state.scopeRows actor).Nodup :=
  List.Nodup.of_map _ (nodup_scopeIds state actor)

theorem scope_contains (incidentId : String) :
    ((state.incidents.find? incidentId).any (state.incidentScopeWhere actor incidentId)) =
      ((state.scopeRows actor).map Prod.fst).contains incidentId := by
  rw [Bool.eq_iff_iff, List.contains_iff_mem]
  constructor
  · intro within
    obtain ⟨row, found, inScope⟩ := (Option.any_eq_true ..).mp within
    exact List.mem_map.mpr ⟨(incidentId, row), mem_scopeRows.mpr ⟨found, inScope⟩, rfl⟩
  · intro member
    obtain ⟨⟨id, row⟩, within, rfl⟩ := List.mem_map.mp member
    obtain ⟨found, inScope⟩ := mem_scopeRows.mp within
    exact (Option.any_eq_true ..).mpr ⟨row, found, inScope⟩

theorem scopeViews_eq (permitted : canCyberbullying actor.role .review = true) :
    scopeViews state actor now =
      (state.scopeRows actor).map fun entry => state.incidentSlaView entry.1 entry.2 now := by
  unfold scopeViews
  rw [← List.filterMap_eq_map]
  refine List.filterMap_congr ?_
  intro entry member
  obtain ⟨found, inScope⟩ := mem_scopeRows.mp member
  unfold SlaDatabase.getIncidentSlaView
  rw [if_pos permitted, found, Option.filter_some_pos inScope]
  rfl

theorem taskSlaState_overdue (due : Int) : taskSlaState (some due) false now = .overdue ↔
    (decide (due ≤ now)) = true :=
  deadlineSlaState_eq_overdue.trans decide_eq_true_iff.symm

theorem taskSlaState_dueSoon (due : Int) : taskSlaState (some due) false now = .dueSoon ↔
    (decide (now < due) && decide (due ≤ now + SlaPolicy.taskDueSoonHours * slaHour)) = true := by
  refine deadlineSlaState_eq_dueSoon.trans ?_
  rw [Bool.and_eq_true, decide_eq_true_iff, decide_eq_true_iff]

theorem sum_taskStates {test : Int → Bool} {wanted : SlaState}
    (agree : ∀ due, taskSlaState (some due) false now = wanted ↔ test due = true) :
    ((state.scopeRows actor).map fun entry =>
      ((state.openTasksOf entry.1).map fun task =>
        taskSlaState task.2.dueDate false now).count wanted).sum =
      (state.scopeTasks actor test).length := by
  have perIncident (incidentId : String) :
      ((state.openTasksOf incidentId).map fun task =>
        taskSlaState task.2.dueDate false now).count wanted =
        state.tasks.rows.countP fun task => task.2.incidentId == incidentId &&
          (task.2.isOpen && task.2.dueDate.any test) := by
    unfold SlaDatabase.openTasksOf
    rw [List.count, List.countP_map, List.countP_filter]
    refine List.countP_congr ?_
    intro task _
    dsimp only [Function.comp]
    cases due : task.2.dueDate with
    | none => simp
    | some due =>
      rw [Option.any_some, Option.isSome_some, Bool.and_true, Bool.and_eq_true, beq_iff_eq,
        agree, Bool.and_eq_true, Bool.and_eq_true, Bool.and_eq_true]
      tauto
  have summed := sum_countP_eq_countP state.tasks.rows (nodup_scopeIds state actor)
    (fun task => task.2.incidentId)
    fun task => task.2.isOpen && task.2.dueDate.any test
  rw [List.map_map] at summed
  simp only [perIncident]
  refine summed.trans ?_
  unfold SlaDatabase.scopeTasks
  rw [← List.countP_eq_length_filter]
  refine List.countP_congr ?_
  intro task _
  rw [scope_contains, Bool.and_assoc]

theorem sum_activeEscalations :
    ((state.scopeRows actor).map fun entry => state.activeEscalationsOf entry.1).sum =
      (state.slaOverview actor now).activeEscalations := by
  have summed := sum_countP_eq_countP state.escalations (nodup_scopeIds state actor) Prod.fst
    fun escalation => escalation.2 == .active
  rw [List.map_map] at summed
  refine summed.trans (List.countP_congr ?_)
  intro escalation _
  rw [scope_contains, Bool.and_comm]

theorem followUp_overdue (entry : String × CaseRow) :
    (entry.2.nextReviewAt.any fun due => decide (due ≤ now)) =
      ((state.incidentSlaView entry.1 entry.2 now).followUp == .overdue) := by
  rw [Bool.eq_iff_iff, beq_iff_eq]
  change _ ↔ followUpSlaState entry.2.nextReviewAt now = .overdue
  cases entry.2.nextReviewAt with
  | none => exact iff_of_false nofun nofun
  | some due => exact decide_eq_true_iff.trans deadlineSlaState_eq_overdue.symm

theorem followUp_dueSoon (entry : String × CaseRow) :
    (entry.2.nextReviewAt.any fun due =>
      now < due && due ≤ now + SlaPolicy.followUpDueSoonHours * slaHour) =
      ((state.incidentSlaView entry.1 entry.2 now).followUp == .dueSoon) := by
  rw [Bool.eq_iff_iff, beq_iff_eq]
  change _ ↔ followUpSlaState entry.2.nextReviewAt now = .dueSoon
  cases entry.2.nextReviewAt with
  | none => exact iff_of_false nofun nofun
  | some due =>
    refine Iff.trans ?_ deadlineSlaState_eq_dueSoon.symm
    rw [Option.any_some, Bool.and_eq_true, decide_eq_true_iff, decide_eq_true_iff]

theorem nextDeadline_iff (due : Int) :
    (state.slaOverview actor now).nextDeadline = some due ↔
      IsLeast { other | FutureDeadline state actor now other } due := by
  change ([_, _].filterMap id).min? = some due ↔ _
  rw [min?_of_min?, min?_iff_isLeast]
  refine iff_of_eq (congrArg (fun times => IsLeast times due) ?_)
  ext other
  change other ∈ (_ ++ _ : List Int) ↔ FutureDeadline state actor now other
  rw [List.mem_append, List.mem_filterMap, List.mem_filter, List.mem_filterMap]
  constructor
  · rintro (⟨task, within, dueDate⟩ | ⟨⟨entry, within, nextReview⟩, future⟩)
    · obtain ⟨stored, passes⟩ := List.mem_filter.mp within
      simp only [Bool.and_eq_true, scope_contains, List.contains_iff_mem, List.mem_map] at passes
      obtain ⟨⟨⟨entry, scopeEntry, ofIncident⟩, isOpen⟩, future⟩ := passes
      rw [dueDate, Option.any_some, decide_eq_true_iff] at future
      refine ⟨future, entry, scopeEntry, .inl ⟨task, List.mem_filter.mpr ⟨stored, ?_⟩, dueDate⟩⟩
      simp [ofIncident, isOpen, dueDate]
    · exact ⟨of_decide_eq_true future, entry, within, .inr nextReview⟩
  · rintro ⟨future, entry, within, ⟨task, openTask, dueDate⟩ | nextReview⟩
    · obtain ⟨stored, passes⟩ := List.mem_filter.mp openTask
      simp only [Bool.and_eq_true, beq_iff_eq] at passes
      obtain ⟨⟨ofIncident, isOpen⟩, _⟩ := passes
      refine .inl ⟨task, List.mem_filter.mpr ⟨stored, ?_⟩, dueDate⟩
      simp only [Bool.and_eq_true, scope_contains, List.contains_iff_mem, List.mem_map]
      refine ⟨⟨⟨entry, within, ofIncident.symm⟩, isOpen⟩, ?_⟩
      rw [dueDate, Option.any_some, decide_eq_true_iff]
      exact future
    · exact .inr ⟨⟨entry, within, nextReview⟩, decide_eq_true future⟩

theorem reviewOwed_iff (entry : String × CaseRow) : ReviewOwed state entry ↔
    ¬ ∃ time, state.firstReviewAt entry.1 = some time ∧ entry.2.createdAt ≤ time := by
  unfold ReviewOwed
  push Not
  exact Iff.rfl

theorem ReviewOwed.of_noReview (none : state.noReview entry.1 = true) : ReviewOwed state entry := by
  intro first isFirst
  obtain ⟨event, member, _⟩ := List.mem_map.mp (min?_iff_isLeast.mp isFirst).1
  obtain ⟨within, reviews⟩ := List.mem_filter.mp member
  have excluded := List.all_eq_true.mp none event within
  rw [reviews] at excluded
  cases excluded

theorem firstReview_overdue (entry : String × CaseRow) :
    ((state.incidentSlaView entry.1 entry.2 now).firstReview == .overdue) = true ↔
      ReviewOwed state entry ∧
        SlaPolicy.firstReviewOverdueHours * slaHour ≤ now - entry.2.createdAt := by
  rw [beq_iff_eq, reviewOwed_iff]
  exact elapsedSla_eq_overdue

theorem firstReview_dueSoon (entry : String × CaseRow) :
    ((state.incidentSlaView entry.1 entry.2 now).firstReview == .dueSoon) = true ↔
      ReviewOwed state entry ∧
        SlaPolicy.firstReviewDueSoonHours * slaHour ≤ now - entry.2.createdAt ∧
        now - entry.2.createdAt < SlaPolicy.firstReviewOverdueHours * slaHour := by
  rw [beq_iff_eq, reviewOwed_iff]
  exact elapsedSla_eq_dueSoon

/-- The two counts of first reviews agree exactly if every incident that owes its review long
enough is active, and has no review event. -/
theorem firstReview_agrees_iff :
    ((state.slaOverview actor now).firstReviewOverdue =
        (state.scopeRows actor).countP (fun entry =>
          (state.incidentSlaView entry.1 entry.2 now).firstReview == .overdue) ∧
      (state.slaOverview actor now).firstReviewDueSoon =
        (state.scopeRows actor).countP fun entry =>
          (state.incidentSlaView entry.1 entry.2 now).firstReview == .dueSoon) ↔
      ReviewsSeen state actor now := by
  have overdue : (state.slaOverview actor now).firstReviewOverdue =
      (state.scopeRows actor).countP _ := rfl
  have dueSoon : (state.slaOverview actor now).firstReviewDueSoon =
      (state.scopeRows actor).countP _ := rfl
  rw [overdue, dueSoon, countP_eq_countP_iff, countP_eq_countP_iff]
  · constructor
    · rintro ⟨seenOverdue, seenDueSoon⟩ entry within old owed
      by_cases late : SlaPolicy.firstReviewOverdueHours * slaHour ≤ now - entry.2.createdAt
      · have counted := seenOverdue entry within ((firstReview_overdue entry).mpr ⟨owed, late⟩)
        simp only [Bool.and_eq_true] at counted
        exact ⟨counted.1.1, counted.2⟩
      · have counted := seenDueSoon entry within
          ((firstReview_dueSoon entry).mpr ⟨owed, old, not_le.mp late⟩)
        simp only [Bool.and_eq_true] at counted
        exact ⟨counted.1.1.1, counted.2⟩
    · intro seen
      constructor
      · intro entry within isOverdue
        obtain ⟨owed, late⟩ := (firstReview_overdue entry).mp isOverdue
        obtain ⟨active, none⟩ := seen entry within
          (le_trans (by decide : SlaPolicy.firstReviewDueSoonHours * slaHour ≤
            SlaPolicy.firstReviewOverdueHours * slaHour) late) owed
        simp only [Bool.and_eq_true, decide_eq_true_iff]
        exact ⟨⟨active, by omega⟩, none⟩
      · intro entry within isDueSoon
        obtain ⟨owed, soon, early⟩ := (firstReview_dueSoon entry).mp isDueSoon
        obtain ⟨active, none⟩ := seen entry within soon owed
        simp only [Bool.and_eq_true, decide_eq_true_iff]
        exact ⟨⟨⟨active, by omega⟩, by omega⟩, none⟩
  · intro entry _ counted
    simp only [Bool.and_eq_true, decide_eq_true_iff] at counted
    exact (firstReview_dueSoon entry).mpr ⟨.of_noReview counted.2, by omega, by omega⟩
  · intro entry _ counted
    simp only [Bool.and_eq_true, decide_eq_true_iff] at counted
    exact (firstReview_overdue entry).mpr ⟨.of_noReview counted.2, by omega⟩

theorem overviewCritical_responded :
    (∃ time, state.latestEventAt entry.1 = some time ∧ since ≤ time) ↔
      ∃ event ∈ state.eventsOf entry.1, since ≤ event.createdAt := by
  refine max?_since.trans ?_
  simp only [List.mem_map, exists_exists_and_eq_and]

theorem viewCritical_responded {incidentId : String} :
    (∃ time, state.respondedAt incidentId since = some time ∧ since ≤ time) ↔
      ∃ event ∈ state.eventsOf incidentId, since < event.createdAt := by
  have filtered : ((state.eventsOf incidentId).filter fun event => since < event.createdAt).map
      CaseTimelineEvent.createdAt =
      ((state.eventsOf incidentId).map CaseTimelineEvent.createdAt).filter
        fun time => since < time := by
    rw [List.filter_map]
    rfl
  unfold SlaDatabase.respondedAt
  rw [filtered]
  refine min?_after.trans ?_
  simp only [List.mem_map, exists_exists_and_eq_and]

theorem viewCritical_eq (critical : entry.2.criticalSince = some since) :
    state.viewCriticalRisk entry.1 entry.2 now =
      criticalRiskSlaState (some since) (state.respondedAt entry.1 since) now := by
  unfold SlaDatabase.viewCriticalRisk
  rw [critical]

theorem viewCritical_critical
    (applies : state.viewCriticalRisk entry.1 entry.2 now ≠ .notApplicable) :
    ∃ since, entry.2.criticalSince = some since := by
  cases critical : entry.2.criticalSince with
  | none =>
    refine absurd ?_ applies
    unfold SlaDatabase.viewCriticalRisk
    rw [critical]
  | some since => exact ⟨since, rfl⟩

theorem overviewCritical_eq (critical : entry.2.criticalSince = some since) :
    state.overviewCriticalState now entry =
      criticalRiskSlaState (some since) (state.latestEventAt entry.1) now := by
  unfold SlaDatabase.overviewCriticalState
  rw [critical]

structure DueState (wanted : SlaState) (due : Int → Prop) : Prop where
  applies : wanted ≠ .notApplicable
  iff : ∀ since respondedAt now, criticalRiskSlaState (some since) respondedAt now = wanted ↔
    (¬ ∃ time, respondedAt = some time ∧ since ≤ time) ∧ due (now - since)

theorem dueState_overdue : DueState .overdue fun elapsed =>
    SlaPolicy.criticalRiskOverdueHours * slaHour ≤ elapsed :=
  ⟨nofun, fun _ _ _ => elapsedSla_eq_overdue⟩

theorem dueState_dueSoon : DueState .dueSoon fun elapsed =>
    SlaPolicy.criticalRiskDueSoonHours * slaHour ≤ elapsed ∧
      elapsed < SlaPolicy.criticalRiskOverdueHours * slaHour :=
  ⟨nofun, fun _ _ _ => elapsedSla_eq_dueSoon⟩

theorem criticalRows_sublist : (state.criticalRows actor).Sublist (state.scopeRows actor) :=
  (List.take_sublist _ _).trans List.filter_sublist

theorem criticalRows_critical (member : entry ∈ state.criticalRows actor) :
    ∃ since, entry.2.criticalSince = some since :=
  Option.isSome_iff_exists.mp (List.mem_filter.mp (List.mem_of_mem_take member)).2

/-- The two counts of a due state agree exactly if every risk that the views show in it is among
the rows that are read, and has no event at its time. -/
theorem critical_agrees_iff {wanted : SlaState} {due : Int → Prop} (states : DueState wanted due) :
    ((state.criticalRows actor).map (state.overviewCriticalState now)).count wanted =
        (state.scopeRows actor).countP (fun entry =>
          state.viewCriticalRisk entry.1 entry.2 now == wanted) ↔
      ∀ entry ∈ state.scopeRows actor, ∀ since, entry.2.criticalSince = some since →
        due (now - since) → (∀ event ∈ state.eventsOf entry.1, event.createdAt ≤ since) →
        entry ∈ state.criticalRows actor ∧
          ∀ event ∈ state.eventsOf entry.1, event.createdAt ≠ since := by
  have view {entry : String × CaseRow} {since : Int}
      (critical : entry.2.criticalSince = some since) :
      (state.viewCriticalRisk entry.1 entry.2 now == wanted) = true ↔
        (∀ event ∈ state.eventsOf entry.1, event.createdAt ≤ since) ∧ due (now - since) := by
    rw [beq_iff_eq, viewCritical_eq critical, states.iff, viewCritical_responded]
    push Not
    exact Iff.rfl
  have overview {entry : String × CaseRow} {since : Int}
      (critical : entry.2.criticalSince = some since) :
      (state.overviewCriticalState now entry == wanted) = true ↔
        (∀ event ∈ state.eventsOf entry.1, event.createdAt < since) ∧ due (now - since) := by
    rw [beq_iff_eq, overviewCritical_eq critical, states.iff, overviewCritical_responded]
    push Not
    exact Iff.rfl
  rw [List.count, List.countP_map,
    countP_sublist_eq_countP_iff nodup_scopeRows criticalRows_sublist]
  · refine forall₂_congr fun entry _ => ?_
    dsimp only [Function.comp]
    constructor
    · intro counted since critical isDue unanswered
      obtain ⟨within, early⟩ := counted ((view critical).mpr ⟨unanswered, isDue⟩)
      have earlier := ((overview critical).mp early).1
      exact ⟨within, fun event member => ne_of_lt (earlier event member)⟩
    · intro seen isWanted
      obtain ⟨since, critical⟩ := viewCritical_critical
        (ne_of_eq_of_ne (beq_iff_eq.mp isWanted) states.applies)
      obtain ⟨unanswered, isDue⟩ := (view critical).mp isWanted
      obtain ⟨within, apart⟩ := seen since critical isDue unanswered
      exact ⟨within, (overview critical).mpr ⟨fun event member =>
        lt_of_le_of_ne (unanswered event member) (apart event member), isDue⟩⟩
  · intro entry within counted
    obtain ⟨since, critical⟩ := criticalRows_critical within
    obtain ⟨unanswered, isDue⟩ := (overview critical).mp counted
    exact (view critical).mpr ⟨fun event member => le_of_lt (unanswered event member), isDue⟩

theorem criticalRisksSeen_iff : CriticalRisksSeen state actor now ↔
    ((state.slaOverview actor now).criticalOverdue =
        (state.scopeRows actor).countP (fun entry =>
          state.viewCriticalRisk entry.1 entry.2 now == .overdue) ∧
      (state.slaOverview actor now).criticalDueSoon =
        (state.scopeRows actor).countP fun entry =>
          state.viewCriticalRisk entry.1 entry.2 now == .dueSoon) := by
  have overdue : (state.slaOverview actor now).criticalOverdue =
      ((state.criticalRows actor).map (state.overviewCriticalState now)).count .overdue := rfl
  have dueSoon : (state.slaOverview actor now).criticalDueSoon =
      ((state.criticalRows actor).map (state.overviewCriticalState now)).count .dueSoon := rfl
  rw [overdue, dueSoon, critical_agrees_iff dueState_overdue, critical_agrees_iff dueState_dueSoon]
  constructor
  · intro seen
    constructor
    · intro entry within since critical late
      exact seen entry within since critical
        (le_trans (by decide : SlaPolicy.criticalRiskDueSoonHours * slaHour ≤
          SlaPolicy.criticalRiskOverdueHours * slaHour) late)
    · intro entry within since critical soon
      exact seen entry within since critical soon.1
  · rintro ⟨seenOverdue, seenDueSoon⟩ entry within since critical soon
    by_cases late : SlaPolicy.criticalRiskOverdueHours * slaHour ≤ now - since
    · exact seenOverdue entry within since critical late
    · exact seenDueSoon entry within since critical ⟨soon, not_le.mp late⟩

section

variable (permitted : canCyberbullying actor.role .review = true)
include permitted

theorem countP_scopeViews (test : IncidentSlaView → Bool) :
    (scopeViews state actor now).countP test = (state.scopeRows actor).countP fun entry =>
      test (state.incidentSlaView entry.1 entry.2 now) := by
  rw [scopeViews_eq permitted, List.countP_map]
  rfl

theorem sum_scopeViews (number : IncidentSlaView → Nat) :
    ((scopeViews state actor now).map number).sum = ((state.scopeRows actor).map fun entry =>
      number (state.incidentSlaView entry.1 entry.2 now)).sum := by
  rw [scopeViews_eq permitted, List.map_map]
  rfl

theorem overviewAgrees_iff :
    OverviewAgrees state actor now (state.slaOverview actor now) ↔
      ReviewsSeen state actor now ∧ CriticalRisksSeen state actor now := by
  rw [← firstReview_agrees_iff, criticalRisksSeen_iff]
  constructor
  · intro agrees
    have firstOverdue := agrees.firstReviewOverdue
    have firstDueSoon := agrees.firstReviewDueSoon
    have criticalOverdue := agrees.criticalOverdue
    have criticalDueSoon := agrees.criticalDueSoon
    rw [countP_scopeViews permitted] at firstOverdue firstDueSoon criticalOverdue criticalDueSoon
    exact ⟨⟨firstOverdue, firstDueSoon⟩, criticalOverdue, criticalDueSoon⟩
  · rintro ⟨⟨firstOverdue, firstDueSoon⟩, criticalOverdue, criticalDueSoon⟩
    constructor
    · rw [countP_scopeViews permitted]
      exact firstOverdue
    · rw [countP_scopeViews permitted]
      exact firstDueSoon
    · rw [countP_scopeViews permitted]
      exact criticalOverdue
    · rw [countP_scopeViews permitted]
      exact criticalDueSoon
    · rw [countP_scopeViews permitted]
      exact List.countP_congr fun entry _ => iff_of_eq (congrArg (· = true)
        (followUp_overdue entry))
    · rw [countP_scopeViews permitted]
      exact List.countP_congr fun entry _ => iff_of_eq (congrArg (· = true)
        (followUp_dueSoon entry))
    · rw [sum_scopeViews permitted]
      exact (sum_taskStates taskSlaState_overdue).symm
    · rw [sum_scopeViews permitted]
      exact (sum_taskStates taskSlaState_dueSoon).symm
    · exact sum_activeEscalations.symm
    · exact nextDeadline_iff

end

end Scope

/-- The two reads agree exactly if every incident that owes its review is counted as one, and every
critical risk is read and has no event at its time. -/
theorem slaReadsAgree_iff (state : SlaDatabase) (actor : IncidentActorContext) (now : Int)
    (permitted : canCyberbullying actor.role .review = true) :
    SlaReadsAgree state actor now ↔
      ReviewsSeen state actor now ∧ CriticalRisksSeen state actor now := by
  rw [← overviewAgrees_iff permitted]
  unfold SlaReadsAgree SlaDatabase.getCyberbullyingSlaOverview
  rw [if_pos permitted]
  constructor
  · intro agrees
    exact agrees _ rfl
  · rintro agrees overview ⟨⟩
    exact agrees

/-! A case that waits for its review, and one that has been dismissed without. -/

def slaOwner : IncidentActorContext := ⟨"tenant", "owner", .owner⟩

def caseWith (status : IncidentLifecycleStatus) : SlaDatabase where
  clock := 0
  incidents := Table.empty.insert "case" ⟨"tenant", true, status, 0, none, none, none⟩
  tasks := .empty
  participants := []
  memberships := Table.empty.insert ("tenant", "owner") .owner
  escalations := []
  timeline := [⟨0, "case", .created, some "reporter", none, 0, none⟩]
  notifications := []
  audits := []

theorem slaReadsAgree_waiting : SlaReadsAgree (caseWith .opened) slaOwner (24 * slaHour) := by
  refine (slaReadsAgree_iff (caseWith .opened) slaOwner (24 * slaHour) rfl).mpr ⟨?_, ?_⟩
  · intro entry within _ _
    obtain rfl := List.mem_singleton.mp within
    exact ⟨rfl, rfl⟩
  · intro entry within since critical
    obtain rfl := List.mem_singleton.mp within
    cases critical

theorem not_slaReadsAgree : ¬ ∀ (state : SlaDatabase) (actor : IncidentActorContext) (now : Int),
    canCyberbullying actor.role .review = true → SlaReadsAgree state actor now := by
  intro all
  have agrees := all (caseWith .dismissed) slaOwner (24 * slaHour) rfl _ rfl
  have counts := agrees.firstReviewOverdue
  revert counts
  decide +kernel

end Tamanor.Db
