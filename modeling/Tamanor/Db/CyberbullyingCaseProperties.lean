import Tamanor.Db.CyberbullyingCase

/-! A cyberbullying case over any interleaving whose writes find what their calls have read: its
status moves along the transitions, its reviewers form a chain, and one escalation is active at
most, which stays as it is once it is closed. -/

set_option autoImplicit false

namespace Tamanor.Db

open Tamanor.Core Library Library.Interleaving

abbrev CaseSystem := System CaseDatabase CaseStage

abbrev CaseAction := Action CaseRequest CaseChoice CaseEvent

abbrev caseStep : CaseSystem → CaseAction → CaseSystem := caseProgram.step

def CaseDatabase.assignmentsOf (state : CaseDatabase) (incidentId : String) :
    List IncidentAssignmentEvent :=
  state.assignments.filter fun event => event.incidentId == incidentId

/-- The events of a case lead to its assignee, each from the one that the event before it has
left, and no incident has two active escalations. -/
structure CaseSound (state : CaseDatabase) : Prop where
  assignments : ∀ id detail, state.details.find? id = some detail →
    Linked (·.previousAssigneeUserId) (·.assigneeUserId) none (state.assignmentsOf id)
      detail.assignedReviewerUserId
  oneActive : ∀ first second row other, state.escalations.find? first = some row →
    state.escalations.find? second = some other → row.status = .active →
    other.status = .active → row.incidentId = other.incidentId → first = second

def CaseStage.reopens : CaseStage → Bool
  | .writingStatus _ result => result.reopen
  | _ => false

def CaseStage.assigner : CaseStage → Option IncidentActorContext
  | .writingAssignment actor _ => some actor
  | _ => none

structure CaseStageKept (before after : CaseDatabase) (stage : CaseStage) : Prop where
  status : ∀ id row, before.incidents.find? id = some row →
    ∃ later, after.incidents.find? id = some later ∧
      (later.status = row.status ∨ canTransitionIncident row.status later.status = true ∨
        stage.reopens = true ∧ incidentReopenTransitions row.status = some later.status)
  assignee : ∀ id row, before.details.find? id = some row →
    row.assignedReviewerUserId.isSome = true → ∃ later, after.details.find? id = some later ∧
      (later.assignedReviewerUserId = row.assignedReviewerUserId ∨
        ∃ actor, stage.assigner = some actor ∧ canCyberbullying actor.role .manage = true)
  closed : ∀ id row, before.escalations.find? id = some row → row.status ≠ .active →
    after.escalations.find? id = some row

def CaseKept (system : CaseSystem) (action : CaseAction) : Prop :=
  ∃ stage, CaseStageKept system.shared (caseStep system action).shared stage ∧
    (stage = .dead ∨ ∃ call choice, action = .statement call choice ∧
      system.calls.find? call = some stage)

/-- The write of a stage finds what the call has read: the same status, the same assignee, no
active escalation, or one that is active still. -/
def CaseStage.undisputed (state : CaseDatabase) : CaseStage → Bool
  | .writingStatus incidentId result =>
    (state.incidents.find? incidentId).all fun row => row.status == result.source
  | .writingAssignment _ event =>
    (state.details.find? event.incidentId).all fun row =>
      row.assignedReviewerUserId == event.previousAssigneeUserId
  | .inserting escalation =>
    state.escalations.rows.all fun row =>
      row.2.incidentId != escalation.incidentId || row.2.status != .active
  | .writingClosure _ escalationId _ _ =>
    (state.escalations.find? escalationId).all fun row => row.status == .active
  | .writingTarget escalationId _ =>
    (state.escalations.find? escalationId).all fun row => row.status == .active
  | _ => true

def CaseSystem.undisputed (system : CaseSystem) : CaseAction → Bool
  | .statement call (.runs _) =>
    (system.calls.find? call).all fun stage => stage.undisputed system.shared
  | _ => true

/-- The new status follows the one that was read, an assigned case is in the hands of an actor who
may manage, and a closure is one. -/
def CaseStage.Checked : CaseStage → Prop
  | .writingStatus _ result =>
    canTransitionIncident result.source result.target = true ∨
      result.reopen = true ∧ incidentReopenTransitions result.source = some result.target
  | .writingAssignment actor event =>
    event.previousAssigneeUserId.isSome = true → canCyberbullying actor.role .manage = true
  | .unassigning actor _ _ => canCyberbullying actor.role .manage = true
  | .writingClosure _ _ target _ => target ≠ .active
  | _ => True

section

variable {state : CaseDatabase} {actor : IncidentActorContext}

theorem checked_enterWith {permission : CyberbullyingPermission} {error : CaseError}
    {next : CaseStage} (checked : canCyberbullying actor.role permission = true → next.Checked) :
    (enterWith actor permission error next).Checked := by
  unfold enterWith
  split
  next allowed => exact checked allowed
  next => exact trivial

theorem checked_ite {condition : Prop} [Decidable condition] {first second : CaseStage}
    (checked : first.Checked) (other : second.Checked) :
    (if condition then first else second).Checked := by
  split
  · exact checked
  · exact other

theorem checked_escalate (incidentId : String) (input : ManualEscalationInput) :
    (enterEscalate actor incidentId input).Checked := by
  unfold enterEscalate
  -- the length is a variable here, so that the comparison is not evaluated
  dsimp only
  generalize (Text.codeUnits (trimmed input.note).toList).length = length
  refine checked_enterWith fun _ => ?_
  exact checked_ite trivial (checked_ite trivial (checked_ite trivial
    (checked_ite trivial trivial)))

theorem checked_enter (state : CaseDatabase) (request : CaseRequest) :
    (enterCase state request).Checked := by
  cases request with
  | transition actor incidentId target reason => exact checked_enterWith fun _ => trivial
  | reopen actor incidentId reason => exact checked_enterWith fun _ => trivial
  | assign actor incidentId assignee reason =>
    unfold enterCase
    dsimp only
    split <;> exact trivial
  | unassign actor incidentId reason => exact checked_enterWith fun allowed => allowed
  | escalate actor incidentId input => exact checked_escalate incidentId input
  | resolve actor escalationId code => exact trivial
  | cancel actor escalationId => exact checked_enterWith fun _ => trivial
  | reassignTarget actor escalationId target => exact checked_enterWith fun _ => trivial

theorem checked_targetRole (incidentId : String) (input : ManualEscalationInput) (note : String) :
    (targetRoleStage actor incidentId input note).Checked := by
  unfold targetRoleStage
  split <;> exact trivial

theorem checked_result {source target : IncidentLifecycleStatus} {reopen : Bool}
    {reason : Option String}
    (accepted : (applyIncidentTransition source target reopen reason).error.isSome = false)
    (incidentId : String) :
    (CaseStage.writingStatus incidentId
      (applyIncidentTransition source target reopen reason)).Checked := by
  unfold applyIncidentTransition at accepted ⊢
  dsimp only at accepted ⊢
  by_cases same : source = target
  · rw [if_pos same] at accepted
    cases accepted
  rw [if_neg same] at accepted ⊢
  cases reopen with
  | true =>
    rw [if_pos rfl] at accepted ⊢
    by_cases edge : incidentReopenTransitions source = some target
    · rw [if_neg (not_not.mpr edge)]
      split <;> exact .inr ⟨rfl, edge⟩
    · rw [if_pos edge] at accepted
      cases accepted
  | false =>
    rw [if_neg Bool.false_ne_true] at accepted ⊢
    cases edge : canTransitionIncident source target with
    | true =>
      rw [if_neg (by decide)]
      split <;> exact .inl edge
    | false =>
      rw [if_pos edge] at accepted
      cases accepted

theorem checked_transitioning (incidentId : String) (target : IncidentLifecycleStatus)
    (reopen : Bool) (reason : Option String) :
    (state.transitioningStage actor incidentId target reopen reason).Checked := by
  unfold CaseDatabase.transitioningStage
  split
  next => exact trivial
  next =>
    dsimp only
    split
    next => exact trivial
    next accepted => exact checked_result (Bool.not_eq_true _ |>.mp accepted) incidentId

theorem checked_assigning (incidentId assignee : String) (reason : Option String) :
    (state.assigningStage actor incidentId assignee reason).Checked := by
  unfold CaseDatabase.assigningStage
  split
  next => exact trivial
  next detail found =>
    dsimp only
    split
    · exact trivial
    · refine checked_enterWith fun allowed assigned => ?_
      rw [if_pos assigned] at allowed
      exact allowed

theorem checked_unassigning (incidentId : String) (reason : Option String)
    (allowed : canCyberbullying actor.role .manage = true) :
    (state.unassigningStage actor incidentId reason).Checked := by
  unfold CaseDatabase.unassigningStage
  split
  next => exact trivial
  next =>
    dsimp only
    split
    · exact trivial
    · exact fun _ => allowed

theorem checked_authorizing (incidentId : String) (input : ManualEscalationInput)
    (note : String) : (state.authorizingStage actor incidentId input note).Checked := by
  unfold CaseDatabase.authorizingStage
  split
  next => exact trivial
  next => dsimp only; split <;> exact trivial

theorem checked_findingActive (incidentId : String) (input : ManualEscalationInput)
    (note : String) : (state.findingActiveStage actor incidentId input note).Checked := by
  unfold CaseDatabase.findingActiveStage
  split
  · exact trivial
  · split
    · exact trivial
    · exact checked_targetRole incidentId input note

theorem checked_scoping (check : RecipientCheck) : (state.scopingStage check).Checked := by
  unfold CaseDatabase.scopingStage
  split <;> exact trivial

theorem checked_checking (check : RecipientCheck) (scope : IncidentScope) :
    (state.checkingStage check scope).Checked := by
  unfold CaseDatabase.checkingStage
  split
  · cases check with
    | escalation actor incidentId input note target =>
      exact checked_targetRole incidentId input note
    | retarget actor escalationId incidentId target => exact trivial
  · exact trivial

theorem checked_closing (escalationId : String) (target : EscalationStatus)
    (code : Option String) : (state.closingStage actor escalationId target code).Checked := by
  unfold CaseDatabase.closingStage
  split
  next => exact trivial
  next escalation _ =>
    split
    · exact trivial
    · split
      · exact trivial
      next allowed =>
        intro same
        rw [same] at allowed
        unfold canEscalationTransition at allowed
        simp at allowed

theorem checked_retargeting (escalationId target : String) :
    (state.retargetingStage actor escalationId target).Checked := by
  unfold CaseDatabase.retargetingStage
  split
  next => exact trivial
  next => split <;> exact trivial

end

structure CaseStatementKept (before after : CaseDatabase) (stage next : CaseStage) : Prop where
  sound : CaseSound after
  kept : CaseStageKept before after stage
  checked : next.Checked

section

variable {state : CaseDatabase} {stage next : CaseStage}

theorem CaseStageKept.refl (state : CaseDatabase) (stage : CaseStage) :
    CaseStageKept state state stage where
  status := fun _ row found => ⟨row, found, .inl rfl⟩
  assignee := fun _ row found _ => ⟨row, found, .inl rfl⟩
  closed := fun _ _ found _ => found

theorem caseKept_reading (sound : CaseSound state) (checked : next.Checked) :
    CaseStatementKept state state stage next :=
  ⟨sound, .refl state stage, checked⟩

theorem kept_writeStatus {incidentId : String} {result : IncidentTransitionResult}
    (sound : CaseSound state) (checked : (CaseStage.writingStatus incidentId result).Checked)
    (undisputed : (CaseStage.writingStatus incidentId result).undisputed state = true) :
    CaseStatementKept state (state.writeStatus incidentId result).1
      (.writingStatus incidentId result)
      (state.writeStatus incidentId result).2 := by
  unfold CaseDatabase.writeStatus
  split
  next present =>
    refine ⟨⟨sound.assignments, sound.oneActive⟩, ?_, trivial⟩
    refine { CaseStageKept.refl state _ with status := ?_ }
    intro id row found
    dsimp only
    rw [Table.find?_modify, found, Option.map_some]
    split
    next same =>
      unfold CaseStage.undisputed at undisputed
      dsimp only at undisputed ⊢
      rw [← same, found, Option.all_some, beq_iff_eq] at undisputed
      refine ⟨_, rfl, .inr ?_⟩
      rw [undisputed]
      exact checked
    next => exact ⟨row, rfl, .inl rfl⟩
  next => exact caseKept_reading sound trivial

theorem assignmentsOf_snoc (event : IncidentAssignmentEvent) (id : String) :
    { state with assignments := state.assignments ++ [event] }.assignmentsOf id =
      if event.incidentId = id then state.assignmentsOf id ++ [event]
      else state.assignmentsOf id := by
  unfold CaseDatabase.assignmentsOf
  by_cases same : event.incidentId = id
  · simp [same]
  · simp [same]

theorem kept_writeAssignment {actor : IncidentActorContext} {event : IncidentAssignmentEvent}
    (sound : CaseSound state) (checked : (CaseStage.writingAssignment actor event).Checked)
    (undisputed : (CaseStage.writingAssignment actor event).undisputed state = true) :
    CaseStatementKept state (state.writeAssignment event).1 (.writingAssignment actor event)
      (state.writeAssignment event).2 := by
  unfold CaseDatabase.writeAssignment
  split
  next present =>
    obtain ⟨detail, found⟩ := Option.isSome_iff_exists.mp present
    unfold CaseStage.undisputed at undisputed
    dsimp only at undisputed
    rw [found, Option.all_some, beq_iff_eq] at undisputed
    constructor
    case sound =>
      refine ⟨?_, sound.oneActive⟩
      intro id row isRow
      have leads := @assignmentsOf_snoc state event id
      unfold CaseDatabase.assignmentsOf at leads ⊢
      dsimp only at leads isRow ⊢
      rw [leads]
      rw [Table.find?_modify] at isRow
      by_cases same : id = event.incidentId
      · rw [if_pos same, same, found, Option.map_some] at isRow
        obtain rfl := Option.some.inj isRow
        rw [if_pos same.symm]
        have before := sound.assignments event.incidentId detail found
        rw [← same] at before
        exact before.snoc undisputed.symm
      · rw [if_neg same] at isRow
        rw [if_neg (Ne.symm same)]
        exact sound.assignments id row isRow
    case kept =>
      refine { CaseStageKept.refl state _ with assignee := ?_ }
      intro id row isRow assigned
      dsimp only
      rw [Table.find?_modify, isRow, Option.map_some]
      split
      next same =>
        rw [same, found] at isRow
        obtain rfl := Option.some.inj isRow
        rw [undisputed] at assigned
        exact ⟨_, rfl, .inr ⟨actor, rfl, checked assigned⟩⟩
      next => exact ⟨row, rfl, .inl rfl⟩
    case checked => split <;> exact trivial
  next => exact caseKept_reading sound trivial

theorem kept_insertEscalation {escalation : CyberbullyingEscalation} (id : String)
    (sound : CaseSound state)
    (undisputed : (CaseStage.inserting escalation).undisputed state = true) :
    CaseStatementKept state (state.insertEscalation escalation id).1 (.inserting escalation)
      (state.insertEscalation escalation id).2 := by
  unfold CaseDatabase.insertEscalation
  split
  next => exact caseKept_reading sound trivial
  next taken =>
    have fresh : state.escalations.find? id = none :=
      Option.not_isSome_iff_eq_none.mp fun present => taken (.inl present)
    have noneActive (other : String) (row : CyberbullyingEscalation)
        (found : state.escalations.find? other = some row)
        (same : row.incidentId = escalation.incidentId) : row.status ≠ .active := by
      have here := List.all_eq_true.mp undisputed _ (Table.find?_eq_some_iff.mp found)
      simpa [same] using here
    refine ⟨⟨sound.assignments, ?_⟩, ?_, trivial⟩
    · intro first second row other isRow isOther active otherActive same
      obtain ⟨atFirst, rowIs⟩ | ⟨_, isRow⟩ := Table.of_find?_insert fresh isRow
      · obtain ⟨atSecond, _⟩ | ⟨_, isOther⟩ := Table.of_find?_insert fresh isOther
        · rw [atFirst, atSecond]
        · rw [rowIs] at same
          exact absurd otherActive (noneActive second other isOther same.symm)
      · obtain ⟨_, otherIs⟩ | ⟨_, isOther⟩ := Table.of_find?_insert fresh isOther
        · rw [otherIs] at same
          exact absurd active (noneActive first row isRow same)
        · exact sound.oneActive first second row other isRow isOther active otherActive same
    · refine { CaseStageKept.refl state _ with closed := ?_ }
      intro other row found _
      exact Table.find?_insert_of_found fresh found

variable {escalationId : String}

theorem kept_escalation {change : CyberbullyingEscalation → CyberbullyingEscalation}
    (sound : CaseSound state)
    (undisputed : (state.escalations.find? escalationId).all (fun row => row.status == .active))
    (sameIncident : ∀ row, (change row).incidentId = row.incidentId) (checked : next.Checked) :
    CaseStatementKept state
      { state with escalations := state.escalations.modify escalationId change } stage next := by
  have earlier (id : String) (row : CyberbullyingEscalation)
      (found : (state.escalations.modify escalationId change).find? id = some row)
      (active : row.status = .active) :
      ∃ before, state.escalations.find? id = some before ∧ before.status = .active ∧
        before.incidentId = row.incidentId := by
    rw [Table.find?_modify] at found
    split at found
    next same =>
      obtain ⟨before, isBefore, rfl⟩ := Option.map_eq_some_iff.mp found
      rw [← same, isBefore, Option.all_some, beq_iff_eq] at undisputed
      exact ⟨before, isBefore, undisputed, (sameIncident before).symm⟩
    next => exact ⟨row, found, active, rfl⟩
  refine ⟨⟨sound.assignments, ?_⟩, ?_, checked⟩
  · intro first second row other isRow isOther active otherActive same
    obtain ⟨rowBefore, foundRow, rowActive, rowIncident⟩ := earlier first row isRow active
    obtain ⟨otherBefore, foundOther, otherWas, otherIncident⟩ :=
      earlier second other isOther otherActive
    exact sound.oneActive first second rowBefore otherBefore foundRow foundOther rowActive otherWas
      (rowIncident.trans (same.trans otherIncident.symm))
  · refine { CaseStageKept.refl state _ with closed := ?_ }
    intro id row found isClosed
    dsimp only
    rw [Table.find?_modify]
    split
    next same =>
      rw [← same, found, Option.all_some, beq_iff_eq] at undisputed
      exact absurd undisputed isClosed
    next => exact found

theorem kept_writeClosure {actor : IncidentActorContext} {target : EscalationStatus}
    {code : Option String} (sound : CaseSound state)
    (undisputed :
      (CaseStage.writingClosure actor escalationId target code).undisputed state = true) :
    CaseStatementKept state (state.writeClosure actor escalationId target code).1
      (.writingClosure actor escalationId target code)
      (state.writeClosure actor escalationId target code).2 := by
  unfold CaseDatabase.writeClosure
  split
  next => exact kept_escalation sound undisputed (fun _ => rfl) trivial
  next => exact caseKept_reading sound trivial

theorem kept_writeTarget {target : String} (sound : CaseSound state)
    (undisputed : (CaseStage.writingTarget escalationId target).undisputed state = true) :
    CaseStatementKept state (state.writeTarget escalationId target).1
      (.writingTarget escalationId target) (state.writeTarget escalationId target).2 := by
  unfold CaseDatabase.writeTarget
  split
  next => exact kept_escalation sound undisputed (fun _ => rfl) trivial
  next => exact caseKept_reading sound trivial

theorem caseKept_statement (id : String) (sound : CaseSound state) (checked : stage.Checked)
    (undisputed : stage.undisputed state = true) :
    CaseStatementKept state (state.statement id stage).1 stage (state.statement id stage).2 := by
  cases stage with
  | transitioning actor incidentId target reopen reason =>
    exact caseKept_reading sound (checked_transitioning incidentId target reopen reason)
  | writingStatus incidentId result => exact kept_writeStatus sound checked undisputed
  | assigning actor incidentId assignee reason =>
    exact caseKept_reading sound (checked_assigning incidentId assignee reason)
  | unassigning actor incidentId reason =>
    exact caseKept_reading sound (checked_unassigning incidentId reason checked)
  | writingAssignment actor event => exact kept_writeAssignment sound checked undisputed
  | authorizing actor incidentId input note =>
    exact caseKept_reading sound (checked_authorizing incidentId input note)
  | findingActive actor incidentId input note =>
    exact caseKept_reading sound (checked_findingActive incidentId input note)
  | scopingRecipient check => exact caseKept_reading sound (checked_scoping check)
  | checkingRecipient check scope => exact caseKept_reading sound (checked_checking check scope)
  | inserting escalation => exact kept_insertEscalation id sound undisputed
  | closing actor escalationId target code =>
    exact caseKept_reading sound (checked_closing escalationId target code)
  | writingClosure actor escalationId target code => exact kept_writeClosure sound undisputed
  | retargeting actor escalationId target =>
    exact caseKept_reading sound (checked_retargeting escalationId target)
  | writingTarget escalationId target => exact kept_writeTarget sound undisputed
  | ended answer => exact caseKept_reading sound trivial
  | dead => exact caseKept_reading sound trivial

theorem caseKept_choice (call : Nat) {choice : CaseChoice} (sound : CaseSound state)
    (checked : stage.Checked)
    (undisputed : ∀ id, choice = .runs id → stage.undisputed state = true) :
    CaseStatementKept state (caseProgram.statement state call stage choice).1 stage
      (caseProgram.statement state call stage choice).2 := by
  cases choice with
  | runs id => exact caseKept_statement id sound checked (undisputed id rfl)
  | throws => cases stage <;> exact caseKept_reading sound trivial
  | dies => cases stage <;> exact caseKept_reading sound trivial

end

variable {system : CaseSystem}

theorem caseUndisputed_choice {call : Nat} {stage : CaseStage} {choice : CaseChoice}
    (meets : CaseSystem.undisputed system (.statement call choice) = true)
    (found : system.calls.find? call = some stage) :
    ∀ id, choice = .runs id → stage.undisputed system.shared = true := by
  intro id same
  subst same
  unfold CaseSystem.undisputed at meets
  dsimp only at meets
  rw [found] at meets
  exact meets

def caseAssertions : Assertions CaseDatabase CaseStage where
  invariant := CaseSound
  assertion := fun _ _ entered => ∀ stage, entered = some stage → stage.Checked

theorem caseAssertions_sound :
    caseAssertions.Sound caseProgram fun system action =>
      CaseSystem.undisputed system action = true where
  enter := by
    intro system call request _ _ _ stage entered
    cases entered
    exact checked_enter system.shared request
  statement := by
    intro system call stage choice holds meets found
    have kept := caseKept_choice call holds.invariant (holds.at_stage found stage rfl)
      (caseUndisputed_choice meets found)
    refine ⟨kept.sound, ?_⟩
    intro next same
    cases same
    exact kept.checked
  undisturbed := by
    intro system call stage choice other holds _ _ _
    exact holds.assertion other
  occur := by
    intro system event holds _
    refine ⟨?_, holds.assertion⟩
    cases event <;> exact ⟨holds.invariant.assignments, holds.invariant.oneActive⟩

theorem caseKept_step {action : CaseAction} (holds : caseAssertions.Hold system)
    (meets : CaseSystem.undisputed system action = true) : CaseKept system action := by
  have same (shared : (caseStep system action).shared = system.shared) : CaseKept system action :=
    ⟨.dead, by rw [shared]; exact .refl _ _, .inl rfl⟩
  cases action with
  | enter call request => exact same rfl
  | occur event =>
    refine ⟨.dead, ?_, .inl rfl⟩
    cases event <;>
      exact { CaseStageKept.refl system.shared .dead with }
  | statement call choice =>
    cases found : system.calls.find? call with
    | none =>
      have absent : caseStep system (.statement call choice) = system := Program.step_absent found
      exact same (by rw [absent])
    | some stage =>
      have kept := caseKept_choice call holds.invariant (holds.at_stage found stage rfl)
        (caseUndisputed_choice meets found)
      have stepped : caseStep system (.statement call choice) = _ := Program.step_statement found
      unfold CaseKept
      rw [stepped]
      exact ⟨stage, kept.kept, .inr ⟨call, choice, rfl, found⟩⟩

/-- In every run whose writes are not disputed, the events of a case form a chain that ends at
its reviewer and one escalation is active at most; each status follows the one before it, an
assigned case changes hands by an actor who may manage, and a closed escalation stays. -/
theorem caseSound_of_undisputed (state : CaseDatabase) (actions : List CaseAction)
    (initial : CaseSound state)
    (undisputed : Runs.Meets caseStep
      (fun system action => CaseSystem.undisputed system action = true)
      (System.initial state) actions) :
    (∀ reached ∈ Runs.states caseStep (System.initial state) actions,
        CaseSound reached.shared) ∧
      Runs.Meets caseStep CaseKept (System.initial state) actions := by
  have holds : caseAssertions.Hold (System.initial state) :=
    Assertions.Hold.initial initial fun _ _ absent => by cases absent
  constructor
  · intro reached member
    exact (caseAssertions_sound.states holds undisputed reached member).invariant
  · exact caseAssertions_sound.meets caseKept_step holds undisputed

def sampleCase : CaseDatabase where
  now := 0
  incidents := .insert .empty "i" ⟨"t", true, .opened, none⟩
  details := .insert .empty "i" ⟨"t", none⟩
  participants := []
  memberships := []
  assignments := []
  escalations := .empty

theorem sampleCase_sound : CaseSound sampleCase where
  assignments := by
    intro id detail found
    obtain ⟨_, rfl⟩ | ⟨_, absent⟩ := Table.of_find?_insert rfl found
    · exact rfl
    · cases absent
  oneActive := by
    intro first second row other found
    cases found

def caseOwner : IncidentActorContext := ⟨"t", "o", .owner⟩

def caseReviewer : IncidentActorContext := ⟨"t", "r", .reviewer⟩

def caseRuns (call : Nat) : CaseAction := .statement call (.runs "e")

def claimsCase (call : Nat) (actor : IncidentActorContext) : CaseAction :=
  .enter call (.assign actor "i" actor.userId none)

/-- A reviewer claims the case and escalates it, and an owner takes it. -/
theorem caseSound_of_claim :
    (∀ reached ∈ Runs.states caseStep (System.initial sampleCase)
        ([claimsCase 0 caseReviewer, caseRuns 0, caseRuns 0,
          .enter 1 (.escalate caseReviewer "i" ⟨"urgent", "critical_risk", none, none, none⟩),
          caseRuns 1, caseRuns 1, caseRuns 1, claimsCase 2 caseOwner, caseRuns 2, caseRuns 2]),
        CaseSound reached.shared) ∧
      Runs.Meets caseStep CaseKept (System.initial sampleCase)
        ([claimsCase 0 caseReviewer, caseRuns 0, caseRuns 0,
          .enter 1 (.escalate caseReviewer "i" ⟨"urgent", "critical_risk", none, none, none⟩),
          caseRuns 1, caseRuns 1, caseRuns 1, claimsCase 2 caseOwner, caseRuns 2, caseRuns 2]) :=
  caseSound_of_undisputed sampleCase _ sampleCase_sound (by decide +kernel)

def claimedTwice : List CaseAction :=
  [claimsCase 0 caseReviewer, claimsCase 1 ⟨"t", "s", .reviewer⟩, caseRuns 0, caseRuns 1,
    caseRuns 0]

def losesAssignee (system : CaseSystem) (action : CaseAction) (id : String) : Bool :=
  (system.shared.details.find? id).any fun row =>
    row.assignedReviewerUserId.isSome &&
      ((caseStep system action).shared.details.find? id).all fun later =>
        later.assignedReviewerUserId != row.assignedReviewerUserId

def withoutManager (system : CaseSystem) (call : Nat) : Bool :=
  (system.calls.find? call).all fun stage =>
    stage.assigner.all fun actor => !canCyberbullying actor.role .manage

theorem not_kept_of_losesAssignee {call : Nat} {choice : CaseChoice} {id : String}
    (loses : losesAssignee system (.statement call choice) id = true)
    (unmanaged : withoutManager system call = true) :
    ¬CaseKept system (.statement call choice) := by
  rintro ⟨stage, kept, isStage⟩
  unfold losesAssignee at loses
  obtain ⟨row, found, lost⟩ := Option.any_eq_true _ _ |>.mp loses
  rw [Bool.and_eq_true] at lost
  obtain ⟨later, foundLater, same | ⟨actor, assigner, manages⟩⟩ := kept.assignee id row found lost.1
  · rw [foundLater, Option.all_some, same, bne_self_eq_false] at lost
    cases lost.2
  · obtain rfl | ⟨other, _, isAction, standing⟩ := isStage
    · cases assigner
    · cases isAction
      unfold withoutManager at unmanaged
      rw [standing, Option.all_some, assigner, Option.all_some, manages] at unmanaged
      cases unmanaged

/-- The second reviewer takes the case from the first, without the permission to manage. -/
theorem claim_overwritten :
    ¬∀ (state : CaseDatabase) (actions : List CaseAction), CaseSound state →
      (∀ reached ∈ Runs.states caseStep (System.initial state) actions,
          CaseSound reached.shared) ∧
        Runs.Meets caseStep CaseKept (System.initial state) actions := by
  intro claim
  have meets := (claim sampleCase (claimedTwice ++ caseRuns 1 :: []) sampleCase_sound).2
  have loses : losesAssignee (Runs.run caseStep (System.initial sampleCase) claimedTwice)
      (.statement 1 (.runs "e")) "i" = true := by decide +kernel
  exact not_kept_of_losesAssignee loses (by decide +kernel) meets.at_step

end Tamanor.Db
