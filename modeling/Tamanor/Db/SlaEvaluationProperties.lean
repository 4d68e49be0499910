import Tamanor.Db.CyberbullyingSla
import Tamanor.Library.CursorPass
import Mathlib.Data.String.Basic

/-! The evaluation of deadlines over passes, between whose calls the cases change. A transition is
not stored: it is what a call finds that has newly notified somebody. -/

set_option autoImplicit false

namespace Tamanor.Db

open Tamanor.Core Library

/-- What people change between the calls; no id is empty. -/
structure SlaCases where
  clock : Int
  incidents : Table String CaseRow
  tasks : Table String CaseTaskRow
  participants : List (String × String)
  memberships : Table (String × String) MembershipRole
  named : incidents.find? "" = none

def SlaDatabase.withCases (state : SlaDatabase) (cases : SlaCases)
    (written : List CaseTimelineEvent) : SlaDatabase :=
  { state with
    clock := cases.clock
    incidents := cases.incidents
    tasks := cases.tasks
    participants := cases.participants
    memberships := cases.memberships
    timeline := state.timeline ++ written.map fun event => { event with slaScope := none } }

def SlaCases.initial (cases : SlaCases) : SlaDatabase where
  clock := cases.clock
  incidents := cases.incidents
  tasks := cases.tasks
  participants := cases.participants
  memberships := cases.memberships
  escalations := []
  timeline := []
  notifications := []
  audits := []

/-- The passes of a tenant. What has been evaluated, and the incidents that the pass has visited
and that have been active at all of its calls, are known to the model only. -/
structure SlaRun where
  state : SlaDatabase
  cursor : Option String
  evaluated : List SlaScope
  visited : List String
  standing : List String

inductive SlaAction where
  | change (cases : SlaCases) (written : List CaseTimelineEvent)
  | evaluate (call : Nat) (now : Int) (limit : Option Int)

def SlaRun.initial (cases : SlaCases) : SlaRun := ⟨cases.initial, none, [], [], []⟩

section Run

variable (ids : KeyOrder String) (tenantId : String)

def SlaRun.raises (run : SlaRun) (now : Int) (limit : Option Int) : List SlaRaise :=
  (run.state.evaluatedIncidents ids tenantId limit run.cursor).flatMap (run.state.raisesOf now)

def slaStep (run : SlaRun) : SlaAction → SlaRun
  | .change cases written => { run with state := run.state.withCases cases written }
  | .evaluate call now limit =>
    let incidents := run.state.evaluatedIncidents ids tenantId limit run.cursor
    let active := (run.state.activeIncidents ids tenantId).map Prod.fst
    let after := run.state.evaluateCyberbullyingSla ids call tenantId now limit run.cursor
    { state := after.1
      cursor := after.2.nextCursor
      evaluated := run.evaluated ++ (run.raises ids tenantId now limit).map SlaRaise.scope
      visited := (if run.cursor.isNone then [] else run.visited) ++ incidents.map Prod.fst
      standing := if run.cursor.isNone then active
        else run.standing.filter fun id => decide (id ∈ active) }

end Run

namespace SlaDatabase

variable (state : SlaDatabase)

def notificationsOf (tenantId recipientUserId dedupKey : String) : Nat :=
  state.notifications.countP fun row =>
    row.tenantId == tenantId && row.recipientUserId == recipientUserId &&
      row.deduplicationKey == dedupKey

def eventsFor (scope : SlaScope) : Nat :=
  state.timeline.countP fun event => event.slaScope == some scope

end SlaDatabase

def CaseAudit.isTransition (scope : SlaScope) : CaseAudit → Bool
  | .slaStateTransition _ _ _ _ recorded => recorded == scope
  | _ => false

def SlaDatabase.auditsFor (state : SlaDatabase) (scope : SlaScope) : Nat :=
  state.audits.countP (CaseAudit.isTransition scope)

structure SlaRaisedOnce (tenantId : String) (run : SlaRun) : Prop where
  notifications : ∀ (raise : SlaRaise) type recipientUserId,
    raise.notificationType = some type →
    run.state.notificationsOf tenantId recipientUserId (raise.spec type).dedupKey ≤ 1
  events : ∀ scope, run.state.eventsFor scope ≤ 1
  audits : ∀ scope, run.state.auditsFor scope ≤ 1
  visitedOnce : ∀ id, run.visited.count id ≤ 1
  covered : run.cursor = none → ∀ id ∈ run.standing, run.visited.count id = 1

/-- A call that finds nothing but what has been evaluated before adds nothing. -/
def SlaQuiet (ids : KeyOrder String) (tenantId : String) (run : SlaRun) : SlaAction → Prop
  | .evaluate call now limit =>
    (∀ raise ∈ run.raises ids tenantId now limit, raise.scope ∈ run.evaluated) →
    (slaStep ids tenantId run (.evaluate call now limit)).state.timeline = run.state.timeline ∧
      (slaStep ids tenantId run (.evaluate call now limit)).state.audits = run.state.audits
  | .change _ _ => True

structure SlaEvaluation (ids : KeyOrder String) (tenantId : String) (cases : SlaCases)
    (actions : List SlaAction) : Prop where
  once : ∀ reached ∈ Runs.states (slaStep ids tenantId) (.initial cases) actions,
    SlaRaisedOnce tenantId reached
  quiet : Runs.Meets (slaStep ids tenantId) (SlaQuiet ids tenantId) (.initial cases) actions

def SlaDatabase.allNotified (state : SlaDatabase) (tenantId : String) (raise : SlaRaise) : Bool :=
  raise.notificationType.all fun type =>
    (state.recipientsOf tenantId raise).all fun recipientUserId =>
      state.notified tenantId recipientUserId (raise.spec type).dedupKey

def NotifiedBefore (ids : KeyOrder String) (tenantId : String) (run : SlaRun) : SlaAction → Prop
  | .evaluate _ now limit => ∀ raise ∈ run.raises ids tenantId now limit,
      raise.scope ∈ run.evaluated → run.state.allNotified tenantId raise = true
  | .change _ _ => True

instance (ids : KeyOrder String) (tenantId : String) (run : SlaRun) :
    DecidablePred (NotifiedBefore ids tenantId run) := fun action =>
  match action with
  | .evaluate _ _ _ => inferInstanceAs (Decidable (∀ _ ∈ _, _ → _))
  | .change _ _ => .isTrue trivial

def SingleNotifications (state : SlaDatabase) : Prop :=
  ∀ tenantId recipientUserId dedupKey,
    state.notificationsOf tenantId recipientUserId dedupKey ≤ 1

structure KeepsCases (before after : SlaDatabase) : Prop where
  incidents : after.incidents = before.incidents
  tasks : after.tasks = before.tasks
  participants : after.participants = before.participants
  memberships : after.memberships = before.memberships

theorem KeepsCases.refl (state : SlaDatabase) : KeepsCases state state := ⟨rfl, rfl, rfl, rfl⟩

theorem KeepsCases.trans {first second third : SlaDatabase} (here : KeepsCases first second)
    (there : KeepsCases second third) : KeepsCases first third :=
  ⟨there.incidents.trans here.incidents, there.tasks.trans here.tasks,
    there.participants.trans here.participants, there.memberships.trans here.memberships⟩

theorem KeepsCases.recipientsOf {before after : SlaDatabase} (kept : KeepsCases before after)
    (tenantId : String) (raise : SlaRaise) :
    after.recipientsOf tenantId raise = before.recipientsOf tenantId raise := by
  unfold SlaDatabase.recipientsOf SlaDatabase.resolveIncidentRecipientsTx
    SlaDatabase.loadIncidentScope SlaDatabase.candidates SlaDatabase.manageMembers
    SlaDatabase.membersWith SlaDatabase.validRecipient
  rw [kept.incidents, kept.participants, kept.memberships]

/-- The writes of the evaluation: notifications stay, and are single. -/
structure Notifies (before after : SlaDatabase) : Prop where
  cases : KeepsCases before after
  notified : ∀ tenantId recipientUserId dedupKey,
    before.notified tenantId recipientUserId dedupKey = true →
    after.notified tenantId recipientUserId dedupKey = true
  single : SingleNotifications before → SingleNotifications after

theorem Notifies.refl (state : SlaDatabase) : Notifies state state :=
  ⟨.refl state, fun _ _ _ there => there, id⟩

theorem Notifies.trans {first second third : SlaDatabase} (here : Notifies first second)
    (there : Notifies second third) : Notifies first third :=
  ⟨here.cases.trans there.cases,
    fun tenantId recipientUserId dedupKey found =>
      there.notified _ _ _ (here.notified tenantId recipientUserId dedupKey found),
    fun single => there.single (here.single single)⟩

theorem Notifies.allNotified {before after : SlaDatabase} (notifies : Notifies before after)
    {tenantId : String} {raise : SlaRaise} (all : before.allNotified tenantId raise = true) :
    after.allNotified tenantId raise = true := by
  unfold SlaDatabase.allNotified at all ⊢
  rw [notifies.cases.recipientsOf]
  cases type : raise.notificationType with
  | none => rfl
  | some type =>
    rw [type] at all
    rw [Option.all_some, List.all_eq_true] at all ⊢
    exact fun recipientUserId member => notifies.notified _ _ _ (all recipientUserId member)

namespace SlaDatabase

variable {state : SlaDatabase}

theorem notified_eq_false_iff {tenantId recipientUserId dedupKey : String} :
    state.notified tenantId recipientUserId dedupKey = false ↔
      state.notificationsOf tenantId recipientUserId dedupKey = 0 := by
  unfold notified notificationsOf
  rw [List.any_eq_false, List.countP_eq_zero]

theorem notifies_createNotificationTx (state : SlaDatabase) (tenantId : String)
    (actorUserId : Option String) (recipientUserId : String) (spec : NotifySpec) :
    Notifies state (state.createNotificationTx tenantId actorUserId recipientUserId spec).1 := by
  unfold createNotificationTx
  split
  · exact .refl state
  next notYet =>
    have absent := notified_eq_false_iff.mp (Bool.eq_false_iff.mpr notYet)
    refine ⟨⟨rfl, rfl, rfl, rfl⟩, ?_, ?_⟩
    · intro otherTenant other dedupKey there
      unfold notified at there ⊢
      rw [List.any_append, there, Bool.true_or]
    · intro single otherTenant other dedupKey
      unfold notificationsOf
      rw [List.countP_append, List.countP_singleton]
      split
      next same =>
        simp only [Bool.and_eq_true, beq_iff_eq] at same
        obtain ⟨⟨rfl, rfl⟩, rfl⟩ := same
        change state.notificationsOf _ _ _ + 1 ≤ 1
        rw [absent]
      · exact single otherTenant other dedupKey

theorem createNotificationTx_audits (state : SlaDatabase) (tenantId : String)
    (actorUserId : Option String) (recipientUserId : String) (spec : NotifySpec) :
    (state.createNotificationTx tenantId actorUserId recipientUserId spec).1.timeline =
        state.timeline ∧
      ∀ scope, (state.createNotificationTx tenantId actorUserId recipientUserId spec).1.auditsFor
        scope = state.auditsFor scope := by
  unfold createNotificationTx
  split
  · exact ⟨rfl, fun _ => rfl⟩
  · refine ⟨rfl, fun scope => ?_⟩
    unfold auditsFor
    rw [List.countP_append]
    rfl

theorem createNotifications_from (tenantId : String) (actorUserId : Option String)
    (spec : NotifySpec) (recipients : List String) (state : SlaDatabase) (count : Nat) :
    let after := recipients.foldl (fun (reached : SlaDatabase × Nat) recipientUserId =>
      let after := reached.1.createNotificationTx tenantId actorUserId recipientUserId spec
      (after.1, reached.2 + if after.2 then 1 else 0)) (state, count)
    Notifies state after.1 ∧ after.1.timeline = state.timeline ∧
      ∀ scope, after.1.auditsFor scope = state.auditsFor scope := by
  induction recipients generalizing state count with
  | nil => exact ⟨.refl state, rfl, fun _ => rfl⟩
  | cons recipientUserId rest ih =>
    have here := notifies_createNotificationTx state tenantId actorUserId recipientUserId spec
    obtain ⟨timeline, audits⟩ :=
      createNotificationTx_audits state tenantId actorUserId recipientUserId spec
    obtain ⟨later, laterTimeline, laterAudits⟩ := ih
      (state.createNotificationTx tenantId actorUserId recipientUserId spec).1 _
    exact ⟨here.trans later, laterTimeline.trans timeline,
      fun scope => (laterAudits scope).trans (audits scope)⟩

theorem createNotifications_writes (state : SlaDatabase) (tenantId : String)
    (actorUserId : Option String) (spec : NotifySpec) (recipients : List String) :
    Notifies state (state.createNotifications tenantId actorUserId spec recipients).1 ∧
      (state.createNotifications tenantId actorUserId spec recipients).1.timeline = state.timeline ∧
      ∀ scope, (state.createNotifications tenantId actorUserId spec recipients).1.auditsFor scope =
        state.auditsFor scope :=
  createNotifications_from tenantId actorUserId spec recipients state 0

theorem createNotifications_again {tenantId : String} {actorUserId : Option String}
    {spec : NotifySpec} {recipients : List String}
    (again : ∀ recipientUserId ∈ recipients,
      state.notified tenantId recipientUserId spec.dedupKey = true) :
    state.createNotifications tenantId actorUserId spec recipients = (state, 0) := by
  unfold createNotifications
  induction recipients with
  | nil => rfl
  | cons recipientUserId rest ih =>
    have here : state.createNotificationTx tenantId actorUserId recipientUserId spec =
        (state, false) := if_pos (again recipientUserId List.mem_cons_self)
    rw [List.foldl_cons, here]
    exact ih fun other member => again other (List.mem_cons_of_mem _ member)

theorem raise_again {call : Nat} {tenantId : String} {raise : SlaRaise}
    (all : state.allNotified tenantId raise = true) :
    state.raise call tenantId raise = (state, 0, 0) := by
  unfold SlaDatabase.raise
  unfold allNotified at all
  cases type : raise.notificationType with
  | none => rfl
  | some type =>
    rw [type, Option.all_some, List.all_eq_true] at all
    dsimp only
    rw [createNotifications_again all]
    rfl

section

variable (state : SlaDatabase) (call : Nat) (tenantId : String) (raise : SlaRaise)

theorem notifies_recordTransition : Notifies state (state.recordTransition call tenantId raise) :=
  ⟨⟨rfl, rfl, rfl, rfl⟩, fun _ _ _ there => there, id⟩

theorem eventsFor_recordTransition (scope : SlaScope) :
    (state.recordTransition call tenantId raise).eventsFor scope =
      state.eventsFor scope + if raise.scope = scope then 1 else 0 := by
  unfold eventsFor recordTransition
  rw [List.countP_append, List.countP_singleton]
  simp only [beq_iff_eq, Option.some.injEq]

theorem auditsFor_recordTransition (scope : SlaScope) :
    (state.recordTransition call tenantId raise).auditsFor scope =
      state.auditsFor scope + if raise.scope = scope then 1 else 0 := by
  unfold auditsFor recordTransition
  rw [List.countP_append, List.countP_singleton]
  simp only [CaseAudit.isTransition, beq_iff_eq]

theorem raise_writes :
    Notifies state (state.raise call tenantId raise).1 ∧
      ∀ scope,
        (state.raise call tenantId raise).1.eventsFor scope ≤
            state.eventsFor scope + (if raise.scope = scope then 1 else 0) ∧
          (state.raise call tenantId raise).1.auditsFor scope ≤
            state.auditsFor scope + (if raise.scope = scope then 1 else 0) := by
  unfold SlaDatabase.raise
  cases raise.notificationType with
  | none => exact ⟨.refl state, fun scope => ⟨Nat.le_add_right _ _, Nat.le_add_right _ _⟩⟩
  | some type =>
    obtain ⟨notifies, timeline, audits⟩ := state.createNotifications_writes tenantId none
      (raise.spec type) (state.recipientsOf tenantId raise)
    dsimp only
    generalize state.createNotifications tenantId none (raise.spec type)
      (state.recipientsOf tenantId raise) = after at notifies timeline audits ⊢
    have events (scope : SlaScope) : after.1.eventsFor scope = state.eventsFor scope := by
      unfold eventsFor
      rw [timeline]
    split
    · refine ⟨notifies, fun scope => ⟨?_, ?_⟩⟩
      · rw [events]
        exact Nat.le_add_right _ _
      · rw [audits]
        exact Nat.le_add_right _ _
    · refine ⟨notifies.trans (notifies_recordTransition _ call tenantId raise),
        fun scope => ⟨?_, ?_⟩⟩
      · rw [eventsFor_recordTransition, events]
      · rw [auditsFor_recordTransition, audits]

end

theorem foldl_raises (call : Nat) (tenantId : String) (seen : List SlaScope)
    (raises : List SlaRaise) (distinct : (raises.map SlaRaise.scope).Nodup)
    (state : SlaDatabase) (numbers : Nat × Nat)
    (again : ∀ raise ∈ raises, raise.scope ∈ seen → state.allNotified tenantId raise = true) :
    let after := raises.foldl (fun (reached : SlaDatabase × Nat × Nat) raise =>
      let next := reached.1.raise call tenantId raise
      (next.1, reached.2.1 + next.2.1, reached.2.2 + next.2.2)) (state, numbers)
    Notifies state after.1 ∧
      (∀ scope,
        after.1.eventsFor scope ≤ state.eventsFor scope +
            (if scope ∈ raises.map SlaRaise.scope ∧ scope ∉ seen then 1 else 0) ∧
          after.1.auditsFor scope ≤ state.auditsFor scope +
            (if scope ∈ raises.map SlaRaise.scope ∧ scope ∉ seen then 1 else 0)) ∧
      ((∀ raise ∈ raises, raise.scope ∈ seen) → after.1 = state) := by
  induction raises generalizing state numbers with
  | nil =>
    exact ⟨.refl state, fun _ => ⟨Nat.le_add_right _ _, Nat.le_add_right _ _⟩, fun _ => rfl⟩
  | cons raise rest ih =>
    obtain ⟨apart, distinct⟩ := List.nodup_cons.mp distinct
    obtain ⟨here, counts⟩ := state.raise_writes call tenantId raise
    have laterAgain : ∀ other ∈ rest, other.scope ∈ seen →
        (state.raise call tenantId raise).1.allNotified tenantId other = true :=
      fun other member known =>
        here.allNotified (again other (List.mem_cons_of_mem _ member) known)
    obtain ⟨later, laterCounts, laterQuiet⟩ := ih distinct
      (state.raise call tenantId raise).1
      (numbers.1 + (state.raise call tenantId raise).2.1,
        numbers.2 + (state.raise call tenantId raise).2.2) laterAgain
    have unchanged (known : raise.scope ∈ seen) : (state.raise call tenantId raise).1 = state := by
      rw [raise_again (again raise List.mem_cons_self known)]
    refine ⟨here.trans later, fun scope => ?_, ?_⟩
    · -- The scope of the first raise is not raised again.
      by_cases own : raise.scope = scope
      · subst own
        have events := (laterCounts raise.scope).1
        have audits := (laterCounts raise.scope).2
        rw [if_neg fun both => apart both.1, Nat.add_zero] at events audits
        by_cases known : raise.scope ∈ seen
        · have sameEvents := congrArg (eventsFor · raise.scope) (unchanged known)
          have sameAudits := congrArg (auditsFor · raise.scope) (unchanged known)
          exact ⟨events.trans (sameEvents.le.trans (Nat.le_add_right _ _)),
            audits.trans (sameAudits.le.trans (Nat.le_add_right _ _))⟩
        · have ownEvents := (counts raise.scope).1
          have ownAudits := (counts raise.scope).2
          rw [if_pos rfl] at ownEvents ownAudits
          rw [if_pos ⟨List.mem_cons_self, known⟩]
          exact ⟨events.trans ownEvents, audits.trans ownAudits⟩
      · have events := (counts scope).1
        have audits := (counts scope).2
        rw [if_neg own, Nat.add_zero] at events audits
        have same : (scope ∈ (raise :: rest).map SlaRaise.scope ∧ scope ∉ seen) ↔
            (scope ∈ rest.map SlaRaise.scope ∧ scope ∉ seen) := by
          rw [List.map_cons, List.mem_cons, or_iff_right fun equal => own equal.symm]
        rw [if_congr same rfl rfl]
        exact ⟨(laterCounts scope).1.trans (Nat.add_le_add_right events _),
          (laterCounts scope).2.trans (Nat.add_le_add_right audits _)⟩
    · intro known
      rw [List.foldl_cons]
      refine (laterQuiet fun other member => known other (List.mem_cons_of_mem _ member)).trans ?_
      exact unchanged (known raise List.mem_cons_self)

theorem scope_of_mem_raisesOf {now : Int} {entry : String × CaseRow} {raise : SlaRaise}
    (member : raise ∈ state.raisesOf now entry) :
    (raise.scope.entityType = .caseTask ∧ ∃ task,
        state.tasks.find? raise.scope.entityId = some task ∧ task.incidentId = entry.1) ∨
      raise.scope.entityType = .followUp ∧ raise.scope.entityId = entry.1 := by
  rcases List.mem_append.mp member with ofTask | ofFollowUp
  · obtain ⟨⟨taskId, task⟩, opened, raised⟩ := List.mem_filterMap.mp ofTask
    obtain ⟨due, _, rfl⟩ := Option.map_eq_some_iff.mp raised
    obtain ⟨stored, passes⟩ := List.mem_filter.mp opened
    simp only [Bool.and_eq_true, beq_iff_eq] at passes
    exact .inl ⟨rfl, task, Table.find?_eq_some_iff.mpr stored, passes.1.1⟩
  · obtain ⟨due, _, rfl⟩ := Option.map_eq_some_iff.mp (Option.mem_toList.mp ofFollowUp)
    exact .inr ⟨rfl, rfl⟩

theorem nodup_raisesOf (now : Int) (entry : String × CaseRow) :
    ((state.raisesOf now entry).map SlaRaise.scope).Nodup := by
  unfold raisesOf
  rw [List.map_append, List.nodup_append]
  refine ⟨?_, ?_, ?_⟩
  · rw [List.map_filterMap]
    have apart : (state.openTasksOf entry.1).Pairwise fun first second =>
        first.1 ≠ second.1 :=
      List.Pairwise.sublist List.filter_sublist (List.pairwise_map.mp state.tasks.unique)
    refine List.pairwise_filterMap.mpr (apart.imp ?_)
    intro first second different scope raised other otherRaised same
    subst same
    simp only [Option.map_map, Option.map_eq_some_iff] at raised otherRaised
    obtain ⟨_, _, rfl⟩ := raised
    obtain ⟨_, _, equal⟩ := otherRaised
    exact different (congrArg SlaScope.entityId equal).symm
  · cases entry.2.nextReviewAt with
    | none => exact List.nodup_nil
    | some due => exact List.nodup_singleton _
  · intro scope ofTask other ofFollowUp same
    subst same
    obtain ⟨raise, member, rfl⟩ := List.mem_map.mp ofTask
    obtain ⟨followUp, there, equal⟩ := List.mem_map.mp ofFollowUp
    obtain ⟨task, _, raised⟩ := List.mem_filterMap.mp member
    obtain ⟨_, _, rfl⟩ := Option.map_eq_some_iff.mp raised
    obtain ⟨_, _, rfl⟩ := Option.map_eq_some_iff.mp (Option.mem_toList.mp there)
    have types := congrArg SlaScope.entityType equal
    cases types

theorem nodup_raises (now : Int) {incidents : List (String × CaseRow)}
    (distinct : (incidents.map Prod.fst).Nodup) :
    ((incidents.flatMap (state.raisesOf now)).map SlaRaise.scope).Nodup := by
  rw [List.map_flatMap, List.nodup_flatMap]
  refine ⟨fun entry _ => nodup_raisesOf now entry, ?_⟩
  refine (List.pairwise_map.mp distinct).imp ?_
  intro first second different scope inFirst inSecond
  obtain ⟨raise, member, rfl⟩ := List.mem_map.mp inFirst
  obtain ⟨other, otherMember, same⟩ := List.mem_map.mp inSecond
  have here := scope_of_mem_raisesOf member
  have there := scope_of_mem_raisesOf otherMember
  rw [same] at there
  rcases here with ⟨isTask, task, found, ofFirst⟩ | ⟨isFollowUp, ofFirst⟩
  · rcases there with ⟨_, task', found', ofSecond⟩ | ⟨isFollowUp, _⟩
    · rw [found] at found'
      cases found'
      exact different (ofFirst.symm.trans ofSecond)
    · rw [isTask] at isFollowUp
      cases isFollowUp
  · rcases there with ⟨isTask, _⟩ | ⟨_, ofSecond⟩
    · rw [isFollowUp] at isTask
      cases isTask
    · exact different (ofFirst.symm.trans ofSecond)

end SlaDatabase

section Pass

variable {ids : KeyOrder String} {tenantId : String} {state : SlaDatabase}

theorem evaluationLimit_pos (limit : Option Int) : 0 < SlaDatabase.evaluationLimit limit := by
  unfold SlaDatabase.evaluationLimit
  omega

theorem nodup_activeIds : ((state.activeIncidents ids tenantId).map Prod.fst).Nodup :=
  ((Keyset.perm_sorted _).map Prod.fst).nodup_iff.mpr
    (Keyset.nodup_filter_keys state.incidents.unique _)

theorem ascending_activeIds :
    CursorPass.Ascending ids ((state.activeIncidents ids tenantId).map Prod.fst) :=
  List.pairwise_map.mpr
    (Keyset.ascending_sorted (Keyset.nodup_filter_keys state.incidents.unique _))

theorem evaluatedIds {cursor : Option String} (named : cursor ≠ some "") (limit : Option Int) :
    (state.evaluatedIncidents ids tenantId limit cursor).map Prod.fst =
      CursorPass.page ids (SlaDatabase.evaluationLimit limit) cursor
        ((state.activeIncidents ids tenantId).map Prod.fst) := by
  have same : truthy cursor = cursor := by
    cases cursor with
    | none => rfl
    | some last => exact Option.filter_some_pos (by simpa using named)
  unfold SlaDatabase.evaluatedIncidents CursorPass.page
  rw [same, List.map_take, List.filter_map]
  rfl

theorem nodup_evaluatedIds (limit : Option Int) (cursor : Option String) :
    ((state.evaluatedIncidents ids tenantId limit cursor).map Prod.fst).Nodup :=
  nodup_activeIds.sublist
    (((List.take_sublist _ _).trans List.filter_sublist).map Prod.fst)

theorem evaluate_nextCursor (call : Nat) (now : Int) (limit : Option Int)
    (cursor : Option String) :
    (state.evaluateCyberbullyingSla ids call tenantId now limit cursor).2.nextCursor =
      CursorPass.next (SlaDatabase.evaluationLimit limit)
        ((state.evaluatedIncidents ids tenantId limit cursor).map Prod.fst) := by
  unfold SlaDatabase.evaluateCyberbullyingSla CursorPass.next
  rw [List.length_map, List.getLast?_map]

theorem evaluatedIds_named (named : state.incidents.find? "" = none) (limit : Option Int)
    (cursor : Option String) :
    "" ∉ (state.evaluatedIncidents ids tenantId limit cursor).map Prod.fst := by
  intro member
  obtain ⟨⟨id, row⟩, within, rfl⟩ := List.mem_map.mp member
  have active := (List.mem_filter.mp (List.mem_of_mem_take within)).1
  have stored := (List.mem_filter.mp ((Keyset.perm_sorted _).mem_iff.mp active)).1
  rw [Table.find?_eq_some_iff.mpr stored] at named
  cases named

end Pass

section Run

variable {ids : KeyOrder String} {tenantId : String} {run : SlaRun}

structure SlaHolds (ids : KeyOrder String) (run : SlaRun) : Prop where
  named : run.state.incidents.find? "" = none
  cursorNamed : run.cursor ≠ some ""
  single : SingleNotifications run.state
  counts : ∀ scope,
    run.state.eventsFor scope ≤ (if scope ∈ run.evaluated then 1 else 0) ∧
      run.state.auditsFor scope ≤ if scope ∈ run.evaluated then 1 else 0
  progress : CursorPass.Progress ids run.cursor run.visited run.standing

theorem SlaHolds.initial (ids : KeyOrder String) (cases : SlaCases) :
    SlaHolds ids (.initial cases) where
  named := cases.named
  cursorNamed := nofun
  single := fun _ _ _ => Nat.zero_le 1
  counts := fun _ => ⟨Nat.zero_le _, Nat.zero_le _⟩
  progress := .initial

theorem SlaHolds.change (holds : SlaHolds ids run) (cases : SlaCases)
    (written : List CaseTimelineEvent) :
    SlaHolds ids (slaStep ids tenantId run (.change cases written)) where
  named := cases.named
  cursorNamed := holds.cursorNamed
  single := holds.single
  counts := by
    intro scope
    refine ⟨?_, (holds.counts scope).2⟩
    have none : (written.map fun event => { event with slaScope := none }).countP
        (fun event => event.slaScope == some scope) = 0 := by
      rw [List.countP_map, List.countP_eq_zero]
      intro event _
      exact Bool.false_ne_true
    change (run.state.timeline ++ _).countP _ ≤ _
    rw [List.countP_append, none, Nat.add_zero]
    exact (holds.counts scope).1
  progress := holds.progress

theorem SlaHolds.raised (holds : SlaHolds ids run) {call : Nat} {now : Int} {limit : Option Int}
    (before : NotifiedBefore ids tenantId run (.evaluate call now limit)) :
    Notifies run.state (slaStep ids tenantId run (.evaluate call now limit)).state ∧
      (∀ scope,
        (slaStep ids tenantId run (.evaluate call now limit)).state.eventsFor scope ≤
            (if scope ∈ (slaStep ids tenantId run (.evaluate call now limit)).evaluated
              then 1 else 0) ∧
          (slaStep ids tenantId run (.evaluate call now limit)).state.auditsFor scope ≤
            (if scope ∈ (slaStep ids tenantId run (.evaluate call now limit)).evaluated
              then 1 else 0)) ∧
      ((∀ raise ∈ run.raises ids tenantId now limit, raise.scope ∈ run.evaluated) →
        (slaStep ids tenantId run (.evaluate call now limit)).state = run.state) := by
  obtain ⟨notifies, counts, quiet⟩ := SlaDatabase.foldl_raises call tenantId run.evaluated
    (run.raises ids tenantId now limit)
    (SlaDatabase.nodup_raises now (nodup_evaluatedIds limit run.cursor)) run.state (0, 0) before
  refine ⟨notifies, fun scope => ?_, quiet⟩
  have events := (counts scope).1
  have audits := (counts scope).2
  have earlier := holds.counts scope
  change _ ≤ (if scope ∈ run.evaluated ++ _ then 1 else 0) ∧
    _ ≤ if scope ∈ run.evaluated ++ _ then 1 else 0
  by_cases known : scope ∈ run.evaluated
  · rw [if_pos (List.mem_append_left _ known)]
    rw [if_pos known] at earlier
    rw [if_neg fun both => both.2 known, Nat.add_zero] at events audits
    exact ⟨events.trans earlier.1, audits.trans earlier.2⟩
  · rw [if_neg known] at earlier
    by_cases fresh : scope ∈ (run.raises ids tenantId now limit).map SlaRaise.scope
    · rw [if_pos (List.mem_append_right _ fresh)]
      rw [if_pos ⟨fresh, known⟩] at events audits
      exact ⟨events.trans (Nat.add_le_add_right earlier.1 1),
        audits.trans (Nat.add_le_add_right earlier.2 1)⟩
    · rw [if_neg fun member => (List.mem_append.mp member).elim known fresh]
      rw [if_neg fun both => fresh both.1, Nat.add_zero] at events audits
      exact ⟨events.trans earlier.1, audits.trans earlier.2⟩

theorem SlaHolds.step {action : SlaAction} (holds : SlaHolds ids run)
    (before : NotifiedBefore ids tenantId run action) :
    SlaHolds ids (slaStep ids tenantId run action) := by
  cases action with
  | change cases written => exact holds.change cases written
  | evaluate call now limit =>
    obtain ⟨notifies, counts, _⟩ := holds.raised before
    refine ⟨?_, ?_, notifies.single holds.single, counts, ?_⟩
    · rw [notifies.cases.incidents]
      exact holds.named
    · change (run.state.evaluateCyberbullyingSla ids call tenantId now limit
        run.cursor).2.nextCursor ≠ some ""
      rw [evaluate_nextCursor]
      intro isEmpty
      refine @evaluatedIds_named ids tenantId run.state holds.named limit run.cursor ?_
      unfold CursorPass.next at isEmpty
      split at isEmpty
      · exact List.mem_of_getLast? isEmpty
      · cases isEmpty
    · have progress := holds.progress.step (@ascending_activeIds ids tenantId run.state)
        (evaluationLimit_pos limit)
      rw [← evaluatedIds holds.cursorNamed, ← evaluate_nextCursor call now] at progress
      exact progress

theorem SlaHolds.once (holds : SlaHolds ids run) : SlaRaisedOnce tenantId run where
  notifications := fun raise type recipientUserId _ => holds.single _ _ _
  events := fun scope => (holds.counts scope).1.trans (by split <;> decide)
  audits := fun scope => (holds.counts scope).2.trans (by split <;> decide)
  visitedOnce := holds.progress.count_le_one
  covered := by
    intro ended id stood
    have progress := holds.progress
    rw [ended] at progress
    exact progress.count_eq_one stood

theorem SlaHolds.quiet {action : SlaAction} (holds : SlaHolds ids run)
    (before : NotifiedBefore ids tenantId run action) : SlaQuiet ids tenantId run action := by
  cases action with
  | change cases written => exact trivial
  | evaluate call now limit =>
    intro known
    have unchanged := (holds.raised before).2.2 known
    rw [unchanged]
    exact ⟨rfl, rfl⟩

end Run

/-- In every run that evaluates again only what all of its recipients have been notified of. -/
theorem slaEvaluation_of_notifiedBefore (ids : KeyOrder String) (tenantId : String)
    (cases : SlaCases) (actions : List SlaAction)
    (before : Runs.Meets (slaStep ids tenantId) (NotifiedBefore ids tenantId) (.initial cases)
      actions) : SlaEvaluation ids tenantId cases actions := by
  have initial := SlaHolds.initial ids cases
  constructor
  · intro reached member
    exact (Runs.invariant_states SlaHolds.step initial before reached member).once
  · exact Runs.Meets.of_invariant SlaHolds.step SlaHolds.quiet initial before

/-! A task that is overdue, evaluated twice, by the same members or by one more. -/

def overdueCases (memberships : Table (String × String) MembershipRole) : SlaCases where
  clock := 1
  incidents := Table.empty.insert "case" ⟨"tenant", true, .opened, 0, none, some "reviewer", none⟩
  tasks := Table.empty.insert "task"
    ⟨"case", "Call", none, .todo, some "reviewer", some 0, "reviewer", none⟩
  participants := []
  memberships := memberships
  named := rfl

def oneReviewer : Table (String × String) MembershipRole :=
  Table.empty.insert ("tenant", "reviewer") .reviewer

def reviewerAndOwner : Table (String × String) MembershipRole :=
  oneReviewer.insert ("tenant", "owner") .owner

def evaluatedTwice (memberships : Table (String × String) MembershipRole) : List SlaAction :=
  [.evaluate 0 1 none, .change (overdueCases memberships) [], .evaluate 1 2 none]

def overdueTask : SlaScope := ⟨.caseTask, "task", .overdue, 0⟩

theorem evaluatedTwice_facts :
    Runs.Meets (slaStep .natural "tenant") (NotifiedBefore .natural "tenant")
        (.initial (overdueCases oneReviewer)) (evaluatedTwice oneReviewer) ∧
      (Runs.run (slaStep .natural "tenant") (.initial (overdueCases oneReviewer))
        (evaluatedTwice reviewerAndOwner)).state.eventsFor overdueTask = 2 := by
  decide +kernel

theorem slaEvaluation_sameMembers :
    SlaEvaluation .natural "tenant" (overdueCases oneReviewer) (evaluatedTwice oneReviewer) :=
  slaEvaluation_of_notifiedBefore .natural "tenant" (overdueCases oneReviewer)
    (evaluatedTwice oneReviewer) evaluatedTwice_facts.1

theorem not_slaEvaluation : ¬ ∀ (ids : KeyOrder String) (tenantId : String) (cases : SlaCases)
    (actions : List SlaAction), SlaEvaluation ids tenantId cases actions := by
  intro all
  have evaluation := all .natural "tenant" (overdueCases oneReviewer)
    (evaluatedTwice reviewerAndOwner)
  have few := (evaluation.once _ (Runs.run_mem_states (evaluatedTwice reviewerAndOwner))).events
    overdueTask
  rw [evaluatedTwice_facts.2] at few
  exact absurd few (by decide)

end Tamanor.Db
