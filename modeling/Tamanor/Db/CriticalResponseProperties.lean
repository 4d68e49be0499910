import Tamanor.Db.CaseManagement
import Tamanor.Db.SlaEvaluationProperties
import Tamanor.Db.SlaOverviewProperties

/-! The response to a critical risk over runs of the operations on cases. The event that records
the risk is inserted at the start of the risk or later, so that the overview takes it for the
response to it; the view of an incident takes any later event for one. -/

set_option autoImplicit false

namespace Tamanor.Db

open Tamanor.Core Library

abbrev CaseOperationSystem := Interleaving.System SlaDatabase CaseOperationStage

abbrev CaseOperationAction :=
  Interleaving.Action CaseOperation CaseOperationChoice CaseOperationEvent

def SlaDatabase.beforePlans (start : SlaDatabase) : SlaDatabase :=
  { start with
    incidents := start.incidents.mapValues fun row => { row with plan := none }
    timeline := start.timeline.map fun event => { event with call := 0 } }

/-- A person has acted at the start of the risk or later, besides recording it. -/
def PersonResponded (state : SlaDatabase) (incidentId : String) (row : CaseRow) (since : Int) :
    Prop :=
  ∃ event ∈ state.eventsOf incidentId, event.actorUserId.isSome = true ∧
    since ≤ event.createdAt ∧ row.plan.bind CaseProtectionPlan.riskSetBy ≠ some event.call

/-- The overview does not count the incident, whose critical risk it may have read. -/
def OverviewSatisfied (state : SlaDatabase) (actor : IncidentActorContext) (now : Int)
    (entry : String × CaseRow) : Prop :=
  entry ∈ state.criticalRows actor → state.overviewCriticalState now entry = .satisfied

/-- Both reads take the risk for answered exactly if a person has answered it. -/
structure AnsweredByPerson (state : SlaDatabase) (actor : IncidentActorContext) (now : Int)
    (incidentId : String) (row : CaseRow) (since : Int) : Prop where
  view : ∃ view, state.getIncidentSlaView actor incidentId now = .ok (some view) ∧
    (view.criticalRisk = .satisfied ↔ PersonResponded state incidentId row since)
  overview : OverviewSatisfied state actor now (incidentId, row) ↔
    PersonResponded state incidentId row since

/-! What the start of a risk leaves on the timeline. -/

def CaseRow.riskStart (row : CaseRow) : Option Int :=
  row.plan.bind CaseProtectionPlan.criticalRiskSetAt

def RisksRecorded (state : SlaDatabase) : Prop :=
  ∀ incidentId row since, state.incidents.find? incidentId = some row →
    row.riskStart = some since → ∃ event ∈ state.eventsOf incidentId, since ≤ event.createdAt

structure Extends (before after : SlaDatabase) : Prop where
  timeline : ∀ event ∈ before.timeline, event ∈ after.timeline
  risks : ∀ incidentId row since, after.incidents.find? incidentId = some row →
    row.riskStart = some since →
    (∃ earlier, before.incidents.find? incidentId = some earlier ∧
      earlier.riskStart = some since) ∨
      ∃ event ∈ after.eventsOf incidentId, since ≤ event.createdAt

theorem Extends.of_incidents {before after : SlaDatabase}
    (kept : after.incidents = before.incidents)
    (timeline : ∀ event ∈ before.timeline, event ∈ after.timeline) : Extends before after := by
  refine ⟨timeline, ?_⟩
  intro incidentId row since found starts
  rw [kept] at found
  exact .inl ⟨row, found, starts⟩

theorem Extends.refl (state : SlaDatabase) : Extends state state :=
  .of_incidents rfl fun _ member => member

theorem RisksRecorded.of_extends {before after : SlaDatabase} (recorded : RisksRecorded before)
    (grown : Extends before after) : RisksRecorded after := by
  intro incidentId row since found starts
  rcases grown.risks incidentId row since found starts with ⟨earlier, there, started⟩ | written
  · obtain ⟨event, member, later⟩ := recorded incidentId earlier since there started
    obtain ⟨onTimeline, ofIncident⟩ := List.mem_filter.mp member
    exact ⟨event, List.mem_filter.mpr ⟨grown.timeline event onTimeline, ofIncident⟩, later⟩
  · exact written

theorem risksRecorded_beforePlans (start : SlaDatabase) : RisksRecorded start.beforePlans := by
  intro incidentId row since found starts
  obtain ⟨⟨_, earlier⟩, _, same⟩ := List.mem_map.mp (Table.find?_eq_some_iff.mp found)
  cases same
  cases starts

namespace SlaDatabase

variable {state : SlaDatabase} {call delay : Nat} {actor : IncidentActorContext}
  {incidentId : String} {eventType : IncidentTimelineEventType} {reason : Option String}

theorem appendEvent_timeline : ∀ event ∈ state.timeline,
    event ∈ (state.appendEvent call actor incidentId eventType reason delay).timeline :=
  fun _ member => List.mem_append_left _ member

theorem extends_modify_appendEvent {change : CaseRow → CaseRow}
    (starts : ∀ row since, (change row).riskStart = some since →
      row.riskStart = some since ∨ since = state.clock) :
    Extends state ((state.modifyIncident incidentId change).appendEvent call actor incidentId
      eventType reason delay) := by
  refine ⟨fun _ member => List.mem_append_left _ member, ?_⟩
  intro other row since found started
  change (state.incidents.modify incidentId change).find? other = some row at found
  rw [Table.find?_modify] at found
  split at found
  next same =>
    subst same
    obtain ⟨earlier, there, rfl⟩ := Option.map_eq_some_iff.mp found
    rcases starts earlier since started with kept | rfl
    · exact .inl ⟨earlier, there, kept⟩
    · refine .inr ⟨_, List.mem_filter.mpr
        ⟨List.mem_append_right _ (List.mem_singleton_self _), beq_self_eq_true _⟩, ?_⟩
      exact Int.le_add_of_nonneg_right (Int.natCast_nonneg delay)
  next => exact .inl ⟨row, found, started⟩

end SlaDatabase

theorem writeProtection_risk {call : Nat} {now since : Int} {readRisk : Option CaseRiskLevel}
    {riskLevel : Option (Option CaseRiskLevel)} {plan : CaseProtectionPlan}
    (starts : (writeProtection call now readRisk riskLevel plan).criticalRiskSetAt = some since) :
    plan.criticalRiskSetAt = some since ∨ since = now := by
  unfold writeProtection at starts
  dsimp only at starts
  split at starts
  · exact .inr (Option.some.inj starts).symm
  · split at starts
    · cases starts
    · exact .inl starts

theorem writePlan_risk {call : Nat} {now : Int} {readRisk : Option CaseRiskLevel}
    {write : PlanWrite} (row : CaseRow) (since : Int)
    (starts : (row.writePlan call now readRisk write).riskStart = some since) :
    row.riskStart = some since ∨ since = now := by
  have applied : (write.apply call now readRisk (row.plan.getD emptyPlan)).criticalRiskSetAt =
      some since := starts
  have fromPlan : (row.plan.getD emptyPlan).criticalRiskSetAt = some since →
      row.riskStart = some since := by
    unfold CaseRow.riskStart
    cases row.plan with
    | none => nofun
    | some plan => exact id
  cases write with
  | protection riskLevel protectionStatus objective notes =>
    exact (writeProtection_risk applied).imp_left fromPlan
  | followUp nextReviewAt lastReviewAt followUpNotes => exact .inl (fromPlan applied)
  | milestone key achieved => exact .inl (fromPlan applied)

theorem transition_risk {now : Int} {result : IncidentTransitionResult} (row : CaseRow) :
    (row.transition now result).riskStart = row.riskStart := rfl

namespace SlaDatabase

variable {state : SlaDatabase}

theorem raise_timeline (call : Nat) (tenantId : String) (raise : SlaRaise) :
    ∀ event ∈ state.timeline, event ∈ (state.raise call tenantId raise).1.timeline := by
  unfold SlaDatabase.raise
  cases raise.notificationType with
  | none => exact fun _ member => member
  | some type =>
    obtain ⟨_, timeline, _⟩ := state.createNotifications_writes tenantId none
      (raise.spec type) (state.recipientsOf tenantId raise)
    dsimp only
    generalize state.createNotifications tenantId none (raise.spec type)
      (state.recipientsOf tenantId raise) = after at timeline ⊢
    split
    · rw [timeline]
      exact fun _ member => member
    · intro event member
      rw [← timeline] at member
      exact List.mem_append_left _ member

theorem extends_raises (call : Nat) (tenantId : String) (raises : List SlaRaise)
    (state : SlaDatabase) (numbers : Nat × Nat) :
    let after := raises.foldl (fun (reached : SlaDatabase × Nat × Nat) raise =>
      let next := reached.1.raise call tenantId raise
      (next.1, reached.2.1 + next.2.1, reached.2.2 + next.2.2)) (state, numbers)
    after.1.incidents = state.incidents ∧ ∀ event ∈ state.timeline, event ∈ after.1.timeline := by
  induction raises generalizing state numbers with
  | nil => exact ⟨rfl, fun _ member => member⟩
  | cons raise rest ih =>
    obtain ⟨kept, timeline⟩ := ih (state.raise call tenantId raise).1
      (numbers.1 + (state.raise call tenantId raise).2.1,
        numbers.2 + (state.raise call tenantId raise).2.2)
    refine ⟨kept.trans (state.raise_writes call tenantId raise).1.cases.incidents, ?_⟩
    intro event member
    exact timeline event (state.raise_timeline call tenantId raise event member)

theorem extends_runCaseStatement (ids : KeyOrder String) (call : Nat) (id : String) (delay : Nat)
    (stage : CaseOperationStage) :
    Extends state (state.runCaseStatement ids call id delay stage).1 := by
  cases stage with
  | authorizing actor incidentId write => cases write <;> exact .refl state
  | readingPlan actor incidentId write => exact .refl state
  | writingPlan actor incidentId found write =>
    unfold runCaseStatement SlaDatabase.writePlan
    dsimp only
    split
    · exact .refl state
    · exact extends_modify_appendEvent writePlan_risk
  | creatingTask actor incidentId task =>
    unfold runCaseStatement createTask
    dsimp only
    split
    · exact .refl state
    · exact .of_incidents rfl appendEvent_timeline
  | readingTask actor incidentId taskId write => exact .refl state
  | writingTask actor incidentId taskId write => exact .of_incidents rfl appendEvent_timeline
  | readingStatus actor incidentId target reopen reason => exact .refl state
  | writingStatus actor incidentId result reason =>
    unfold runCaseStatement writeStatus
    dsimp only
    split
    · exact .refl state
    · exact extends_modify_appendEvent fun row since starts =>
        .inl ((transition_risk row).symm.trans starts)
  | evaluating tenantId now limit cursor =>
    obtain ⟨kept, timeline⟩ := extends_raises call tenantId
      ((state.evaluatedIncidents ids tenantId limit cursor).flatMap (state.raisesOf now))
      state (0, 0)
    exact .of_incidents kept timeline
  | ended answer => exact .refl state

theorem extends_occurCase (event : CaseOperationEvent) : Extends state (state.occurCase event) := by
  cases event with
  | elapse time => exact .of_incidents rfl fun _ member => member
  | participants rows => exact .of_incidents rfl fun _ member => member
  | memberships rows => exact .of_incidents rfl fun _ member => member

end SlaDatabase

section Run

variable {parseDate : String → Option Int} {ids : KeyOrder String}

theorem extends_step (system : CaseOperationSystem) (action : CaseOperationAction) :
    Extends system.shared ((caseOperationProgram parseDate ids).step system action).shared := by
  cases action with
  | enter call request => exact .refl system.shared
  | occur event => exact SlaDatabase.extends_occurCase event
  | statement call choice =>
    cases standing : system.calls.find? call with
    | none =>
      rw [Interleaving.Program.step_absent standing]
      exact .refl system.shared
    | some stage =>
      rw [Interleaving.Program.step_statement standing]
      cases choice with
      | runs id delay =>
        exact SlaDatabase.extends_runCaseStatement ids (call + 1) id delay stage
      | throws => exact .refl system.shared

theorem risksRecorded_run (start : SlaDatabase) (actions : List CaseOperationAction) :
    ∀ reached ∈ Runs.states (caseOperationProgram parseDate ids).step
      (.initial start.beforePlans) actions, RisksRecorded reached.shared :=
  Runs.forall_states
    (fun {system action} recorded => recorded.of_extends (extends_step system action))
    actions (risksRecorded_beforePlans start)

end Run

/-! When the risk is answered by a person. -/

section Reads

variable {state : SlaDatabase} {actor : IncidentActorContext} {now : Int} {incidentId : String}
  {row : CaseRow} {since : Int}

theorem riskStart_of_critical (critical : row.criticalSince = some since) :
    row.riskStart = some since := by
  unfold CaseRow.criticalSince at critical
  obtain ⟨plan, planned, starts⟩ := Option.bind_eq_some_iff.mp critical
  split at starts
  · unfold CaseRow.riskStart
    rw [planned]
    exact starts
  · cases starts

theorem overviewSatisfied (recorded : RisksRecorded state)
    (found : state.incidents.find? incidentId = some row)
    (critical : row.criticalSince = some since) :
    OverviewSatisfied state actor now (incidentId, row) := by
  intro _
  rw [overviewCritical_eq critical]
  refine (elapsedSla_eq_satisfied ..).mpr (overviewCritical_responded.mpr ?_)
  exact recorded incidentId row since found (riskStart_of_critical critical)

theorem viewSatisfied_iff (critical : row.criticalSince = some since) :
    state.viewCriticalRisk incidentId row now = .satisfied ↔
      ∃ event ∈ state.eventsOf incidentId, since < event.createdAt := by
  refine Iff.trans ?_ viewCritical_responded
  have shown : state.viewCriticalRisk incidentId row now =
      criticalRiskSlaState (some since) (state.respondedAt incidentId since) now :=
    @viewCritical_eq state now (incidentId, row) since critical
  rw [shown]
  exact elapsedSla_eq_satisfied ..

theorem answeredByPerson_iff (recorded : RisksRecorded state)
    (permitted : canCyberbullying actor.role .review = true)
    (found : state.incidents.find? incidentId = some row)
    (inScope : state.incidentScopeWhere actor incidentId row = true)
    (critical : row.criticalSince = some since) :
    AnsweredByPerson state actor now incidentId row since ↔
      PersonResponded state incidentId row since ∧
        ∃ event ∈ state.eventsOf incidentId, since < event.createdAt := by
  have viewed : state.getIncidentSlaView actor incidentId now =
      .ok (some (state.incidentSlaView incidentId row now)) := by
    unfold SlaDatabase.getIncidentSlaView
    rw [if_pos permitted, found, Option.filter_some_pos inScope]
    rfl
  constructor
  · intro answered
    have responded := answered.overview.mp (overviewSatisfied recorded found critical)
    obtain ⟨view, isView, shows⟩ := answered.view
    rw [viewed] at isView
    cases isView
    exact ⟨responded, (viewSatisfied_iff critical).mp (shows.mpr responded)⟩
  · rintro ⟨responded, later⟩
    refine ⟨⟨_, viewed, iff_of_true ?_ responded⟩, iff_of_true ?_ responded⟩
    · exact (viewSatisfied_iff critical).mpr later
    · exact overviewSatisfied recorded found critical

end Reads

/-- In every state of a run, the reads take a critical risk for answered by a person exactly if a
person has answered it and some event is later than its start. -/
theorem criticalResponse_iff (parseDate : String → Option Int) (ids : KeyOrder String)
    (start : SlaDatabase) (actions : List CaseOperationAction) (reached : CaseOperationSystem)
    (reaches : reached ∈ Runs.states (caseOperationProgram parseDate ids).step
      (.initial start.beforePlans) actions)
    (actor : IncidentActorContext) (now : Int) (incidentId : String) (row : CaseRow)
    (since : Int) (permitted : canCyberbullying actor.role .review = true)
    (found : reached.shared.incidents.find? incidentId = some row)
    (inScope : reached.shared.incidentScopeWhere actor incidentId row = true)
    (critical : row.criticalSince = some since) :
    AnsweredByPerson reached.shared actor now incidentId row since ↔
      PersonResponded reached.shared incidentId row since ∧
        ∃ event ∈ reached.shared.eventsOf incidentId, since < event.createdAt :=
  answeredByPerson_iff (risksRecorded_run start actions reached reaches) permitted found inScope
    critical

/-! A risk that its own record answers, and one that is answered by a later milestone. -/

def wholeCaseCall (call : Nat) (request : CaseOperation) (statements delay : Nat) :
    List CaseOperationAction :=
  .enter call request :: List.replicate statements (.statement call (.runs "id" delay))

def criticalRiskSet : List CaseOperationAction :=
  .occur (.elapse 1) ::
    wholeCaseCall 0
      (.updateProtectionPlan slaOwner "case" ⟨some (some "critical"), none, none, none⟩) 3 0

def criticalRiskAnswered : List CaseOperationAction :=
  criticalRiskSet ++
    .occur (.elapse 1) ::
      wholeCaseCall 1 (.setCaseMilestone slaOwner "case" "victim_contacted" true) 3 0

def caseRun (actions : List CaseOperationAction) : CaseOperationSystem :=
  Runs.run (caseOperationProgram (fun _ => none) .natural).step
    (.initial (caseWith .opened).beforePlans) actions

def criticalCase (milestones : List (CaseMilestoneKey × Int)) : CaseRow :=
  ⟨"tenant", true, .opened, 0, none, none, some { emptyPlan with
    riskLevel := some .critical
    criticalRiskSetAt := some 1
    riskSetBy := some 1
    milestones := milestones }⟩

def reportedEvent : CaseTimelineEvent :=
  ⟨0, "case", .created, some "reporter", none, 0, none⟩

def riskEvent : CaseTimelineEvent :=
  ⟨1, "case", .protectionPlanUpdated, some "owner", none, 1, none⟩

def milestoneEvent : CaseTimelineEvent :=
  ⟨2, "case", .milestoneChanged, some "owner", some "victim_contacted:achieved", 2, none⟩

theorem criticalRisk_facts :
    ((caseRun criticalRiskSet).shared.incidents.find? "case" = some (criticalCase []) ∧
      (caseRun criticalRiskSet).shared.eventsOf "case" = [reportedEvent, riskEvent]) ∧
    (caseRun criticalRiskAnswered).shared.incidents.find? "case" =
        some (criticalCase [(.victimContacted, 2)]) ∧
      (caseRun criticalRiskAnswered).shared.eventsOf "case" =
        [reportedEvent, riskEvent, milestoneEvent] := by
  decide +kernel

theorem criticalResponse_answered :
    AnsweredByPerson (caseRun criticalRiskAnswered).shared slaOwner slaHour "case"
      (criticalCase [(.victimContacted, 2)]) 1 := by
  obtain ⟨_, found, events⟩ := criticalRisk_facts
  refine (criticalResponse_iff (fun _ => none) .natural (caseWith .opened) criticalRiskAnswered
    (caseRun criticalRiskAnswered) (Runs.run_mem_states _) slaOwner slaHour "case"
    (criticalCase [(.victimContacted, 2)]) 1 rfl found rfl rfl).mpr ?_
  unfold PersonResponded
  rw [events]
  exact ⟨⟨milestoneEvent, by simp, rfl, by decide, by decide⟩, milestoneEvent, by simp, by decide⟩

theorem not_criticalResponse : ¬ ∀ (parseDate : String → Option Int) (ids : KeyOrder String)
    (start : SlaDatabase) (actions : List CaseOperationAction),
    ∀ reached ∈ Runs.states (caseOperationProgram parseDate ids).step
      (.initial start.beforePlans) actions,
    ∀ (actor : IncidentActorContext) (now : Int) (incidentId : String) (row : CaseRow)
      (since : Int), canCyberbullying actor.role .review = true →
      reached.shared.incidents.find? incidentId = some row →
      reached.shared.incidentScopeWhere actor incidentId row = true →
      row.criticalSince = some since →
      AnsweredByPerson reached.shared actor now incidentId row since := by
  intro all
  obtain ⟨⟨found, events⟩, _⟩ := criticalRisk_facts
  have answered := all (fun _ => none) .natural (caseWith .opened) criticalRiskSet
    (caseRun criticalRiskSet) (Runs.run_mem_states _) slaOwner (24 * slaHour) "case"
    (criticalCase []) 1 rfl found rfl rfl
  have recorded := @risksRecorded_run (fun _ => none) .natural
    (caseWith .opened) criticalRiskSet (caseRun criticalRiskSet) (Runs.run_mem_states _)
  obtain ⟨event, member, _, later, apart⟩ :=
    answered.overview.mp (overviewSatisfied recorded found rfl)
  rw [events] at member
  rcases List.mem_cons.mp member with rfl | member
  · exact absurd later (by decide)
  · obtain rfl := List.mem_singleton.mp member
    exact apart rfl

end Tamanor.Db
