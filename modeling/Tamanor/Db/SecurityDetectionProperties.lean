import Tamanor.Db.SecurityDetection
import Tamanor.Library.CheckedCalls

/-! The detections of a tenant over any interleaving whose writes find what their calls have
read: one of a key is active, an ingestion is counted once, and a review tells what it did. -/

set_option autoImplicit false

namespace Tamanor.Db

open Tamanor.Core Library Library.Interleaving

abbrev DetectionSystem := System DetectionDatabase DetectionStage

abbrev DetectionAction := Action DetectionRequest DetectionChoice Empty

abbrev detectionStep : DetectionSystem → DetectionAction → DetectionSystem :=
  detectionProgram.step

def DetectionSound (state : DetectionDatabase) : Prop :=
  ∀ first second row other dedupeKey, state.detections.find? first = some row →
    state.detections.find? second = some other → row.isActiveOf dedupeKey = true →
    other.isActiveOf dedupeKey = true → first = second

def DetectionStage.isEnded : DetectionStage → Bool
  | .ended _ => true
  | _ => false

def DetectionStage.dedupeKey : DetectionStage → Option String
  | .merging candidate _ _ _ => some candidate.dedupeKey
  | .creating candidate _ _ => some candidate.dedupeKey
  | _ => none

/-- One ingestion is counted, in an active detection of its key, which is new or counted one
less before; no other detection changes. -/
structure CountedOnce (before after : DetectionDatabase) (dedupeKey id : String) (count : Nat) :
    Prop where
  counted : ∃ later, after.detections.find? id = some later ∧
    later.isActiveOf dedupeKey = true ∧ later.occurrenceCount = count ∧
    (before.detections.find? id = none ∧ count = 1 ∨
      ∃ row, before.detections.find? id = some row ∧ row.isActiveOf dedupeKey = true ∧
        later.status = row.status ∧ count = row.occurrenceCount + 1)
  others : ∀ other, other ≠ id → after.detections.find? other = before.detections.find? other
  audits : after.audits = before.audits ∨
    after.audits = before.audits ++ [⟨"security.detection.opened", none, id⟩]

structure ReviewedOnce (before after : DetectionDatabase)
    (source target : SecurityDetectionStatus) : Prop where
  moved : ∃ id row later reviewer, before.detections.find? id = some row ∧ row.status = source ∧
    after.detections.find? id = some later ∧ later.status = target ∧ target ≠ source ∧
    later.occurrenceCount = row.occurrenceCount ∧
    after.audits = before.audits ++ [⟨detectionTransitionAuditEvent target, some reviewer, id⟩] ∧
    ∀ other, other ≠ id → after.detections.find? other = before.detections.find? other

structure DetectionPromise (before after : DetectionDatabase) (stage next : DetectionStage) :
    Prop where
  ingested : ∀ outcome id count, next = .ended (.ingested outcome id count) →
    stage.isEnded = false →
    ∃ dedupeKey, stage.dedupeKey = some dedupeKey ∧ CountedOnce before after dedupeKey id count
  moved : ∀ source target, next = .ended (.moved source target) → stage.isEnded = false →
    ReviewedOnce before after source target
  quiet : (∀ outcome id count, next ≠ .ended (.ingested outcome id count)) ∧
      (∀ source target, next ≠ .ended (.moved source target)) ∨ stage.isEnded = true →
    after = before
  raced : next ≠ .ended (.threw .transactionAborted)
  terminal : ∀ id row, before.detections.find? id = some row →
    terminalDetectionStatuses.contains row.status = true →
    ∃ later, after.detections.find? id = some later ∧ later.status = row.status

/-- A merge finds the detection that its call has found, active and counted as it was; a
creation finds no active detection of its key; and a review finds the status that its call has
read. -/
def DetectionStage.undisputed (state : DetectionDatabase) (stage : DetectionStage) :
    DetectionChoice → Bool
  | .runs _ =>
    match stage with
    | .merging candidate id count _ =>
      (state.detections.find? id).any fun row =>
        row.isActiveOf candidate.dedupeKey && row.occurrenceCount == count
    | .creating candidate _ _ => (state.findActive candidate.dedupeKey).isNone
    | .writing id source _ _ _ _ =>
      (state.detections.find? id).any fun row => row.status == source
    | _ => true
  | _ => true

/-- A review writes along a transition, and no creation has failed. -/
def DetectionStage.Checked : DetectionStage → Prop
  | .writing _ source target _ _ _ => canTransitionDetection source target = true
  | .mergingAgain => False
  | .ended (.threw error) => error ≠ .transactionAborted
  | _ => True

section

variable {state : DetectionDatabase} {stage next : DetectionStage}

theorem detectionChecked_enter (request : DetectionRequest) :
    (enterDetection state request).Checked := by
  cases request with
  | review id target reviewer note now => exact trivial
  | ingest candidate engine now =>
    unfold enterDetection
    dsimp only
    split
    · exact trivial
    · exact fun same => by cases same

theorem detectionChecked_finding (candidate : DetectionCandidate) (engine : Option String)
    (now : Int) : (state.findingStage candidate engine now).Checked := by
  unfold DetectionDatabase.findingStage
  split <;> exact trivial

variable {source target : SecurityDetectionStatus} {id : String} {now : Int}

theorem canTransition_of_apply (applied : applyDetectionTransition source target = .ok ()) :
    canTransitionDetection source target = true := by
  unfold applyDetectionTransition at applied
  split at applied
  next => cases applied
  next =>
    split at applied
    next allowed => exact allowed
    next => split at applied <;> cases applied

theorem detectionChecked_reviewing (id : String) (target : SecurityDetectionStatus)
    (reviewer : String) (note : Option String) (now : Int) :
    (state.reviewingStage id target reviewer note now).Checked := by
  unfold DetectionDatabase.reviewingStage
  split
  next => exact trivial
  next =>
    split
    next => exact trivial
    next applied => exact canTransition_of_apply applied

def DetectionKept (before after : DetectionDatabase) (stage next : DetectionStage) : Prop :=
  DetectionSound after ∧ next.Checked ∧ DetectionPromise before after stage next

theorem not_aborted_of_checked (checked : next.Checked) :
    next ≠ .ended (.threw .transactionAborted) := by
  rintro rfl
  exact checked rfl

section

variable (sound : DetectionSound state)
include sound

theorem detectionKept_reading (checked : next.Checked)
    (unanswered : stage.isEnded = false → next.isEnded = true →
      (∀ outcome id count, next ≠ .ended (.ingested outcome id count)) ∧
        ∀ source target, next ≠ .ended (.moved source target)) :
    DetectionKept state state stage next := by
  refine ⟨sound, checked, ?_⟩
  constructor
  · intro outcome id count same running
    exact absurd same ((unanswered running (by rw [same]; rfl)).1 outcome id count)
  · intro source target same running
    exact absurd same ((unanswered running (by rw [same]; rfl)).2 source target)
  · exact fun _ => rfl
  · exact not_aborted_of_checked checked
  · exact fun _ row found _ => ⟨row, found, rfl⟩

theorem detectionKept_running (checked : next.Checked) (running : next.isEnded = false) :
    DetectionKept state state stage next :=
  detectionKept_reading sound checked fun _ isEnded => by rw [running] at isEnded; cases isEnded

theorem detectionKept_ended {answer : DetectionAnswer}
    (checked : (DetectionStage.ended answer).Checked) :
    DetectionKept state state (.ended answer) (.ended answer) :=
  detectionKept_reading sound checked fun running => by cases running

theorem detectionKept_threw : DetectionKept state state stage (.ended (.threw .database)) :=
  detectionKept_reading sound (fun same => by cases same) fun _ _ =>
    ⟨fun _ _ _ same => (by cases same), fun _ _ same => (by cases same)⟩

theorem sound_modify {change : SecurityDetection → SecurityDetection}
    (earlier : ∀ row dedupeKey, state.detections.find? id = some row →
      (change row).isActiveOf dedupeKey = true → row.isActiveOf dedupeKey = true) :
    DetectionSound { state with detections := state.detections.modify id change } := by
  have back (other : String) (later : SecurityDetection) (dedupeKey : String)
      (found : (state.detections.modify id change).find? other = some later)
      (active : later.isActiveOf dedupeKey = true) :
      ∃ row, state.detections.find? other = some row ∧ row.isActiveOf dedupeKey = true := by
    obtain ⟨row, stored, rfl⟩ := Table.of_find?_modify found
    refine ⟨row, stored, ?_⟩
    split at active
    next same =>
      rw [same] at stored
      exact earlier row dedupeKey stored active
    next => exact active
  intro first second row other dedupeKey isRow isOther active otherActive
  obtain ⟨rowBefore, foundRow, rowActive⟩ := back first row dedupeKey isRow active
  obtain ⟨otherBefore, foundOther, otherWas⟩ := back second other dedupeKey isOther otherActive
  exact sound first second rowBefore otherBefore dedupeKey foundRow foundOther rowActive otherWas

end

theorem find?_modify_other {other : String} (change : SecurityDetection → SecurityDetection)
    (different : other ≠ id) :
    (state.detections.modify id change).find? other = state.detections.find? other := by
  rw [Table.find?_modify, if_neg different]

theorem detectionKept_merge {candidate : DetectionCandidate} {count : Nat}
    (sound : DetectionSound state)
    (found : (state.detections.find? id).any (fun row =>
      row.isActiveOf candidate.dedupeKey && row.occurrenceCount == count) = true) :
    DetectionKept state (state.merge id count now).1 (.merging candidate id count now)
      (state.merge id count now).2 := by
  obtain ⟨row, isRow, asRead⟩ := Option.any_eq_true _ _ |>.mp found
  rw [Bool.and_eq_true, beq_iff_eq] at asRead
  unfold DetectionDatabase.merge
  refine ⟨sound_modify sound fun _ _ _ active => active, trivial, ?_⟩
  constructor
  · intro outcome other counted same _
    cases same
    refine ⟨candidate.dedupeKey, rfl, ?_, fun other different => find?_modify_other _ different,
      .inl rfl⟩
    dsimp only
    rw [Table.find?_modify, if_pos rfl, isRow, Option.map_some]
    refine ⟨_, rfl, asRead.1, ?_, .inr ⟨row, rfl, asRead.1, rfl, ?_⟩⟩
    · rw [asRead.2]
    · rw [asRead.2]
  · intro source target same
    cases same
  · rintro (⟨notIngested, _⟩ | running)
    · exact absurd rfl (notIngested .merged id (count + 1))
    · cases running
  · exact fun same => by cases same
  · intro other earlier stored _
    dsimp only
    rw [Table.find?_modify, stored, Option.map_some]
    split <;> exact ⟨_, rfl, rfl⟩

theorem not_active_of_findActive {dedupeKey : String} {row : SecurityDetection}
    (absent : state.findActive dedupeKey = none) (found : state.detections.find? id = some row) :
    row.isActiveOf dedupeKey = false := by
  have inactive := List.find?_eq_none.mp absent _ (Table.find?_eq_some_iff.mp found)
  exact Bool.eq_false_iff.mpr inactive

theorem key_of_isActiveOf {row : SecurityDetection} {dedupeKey : String}
    (active : row.isActiveOf dedupeKey = true) : row.dedupeKey = some dedupeKey := by
  rw [SecurityDetection.isActiveOf, Bool.and_eq_true, beq_iff_eq] at active
  exact active.1

theorem detectionKept_create {candidate : DetectionCandidate} {engine : Option String} (id : String)
    (sound : DetectionSound state) (absent : (state.findActive candidate.dedupeKey).isNone = true) :
    DetectionKept state (state.create candidate engine now id).1
      (.creating candidate engine now) (state.create candidate engine now id).2 := by
  have noneActive := Option.isNone_iff_eq_none.mp absent
  unfold DetectionDatabase.create
  rw [noneActive]
  split
  next present => cases present
  next =>
    split
    next => exact detectionKept_threw sound
    next taken =>
      have fresh : state.detections.find? id = none := Option.not_isSome_iff_eq_none.mp taken
      have newActive : (candidate.detection engine now).isActiveOf candidate.dedupeKey = true := by
        unfold SecurityDetection.isActiveOf DetectionCandidate.detection
        simp [activeDetectionStatus]
      refine ⟨?_, trivial, ?_⟩
      · intro first second row other dedupeKey isRow isOther active otherActive
        obtain ⟨atFirst, rowIs⟩ | ⟨_, isRow⟩ := Table.of_find?_insert fresh isRow
        · obtain ⟨atSecond, _⟩ | ⟨_, isOther⟩ := Table.of_find?_insert fresh isOther
          · rw [atFirst, atSecond]
          · rw [rowIs] at active
            obtain rfl : candidate.dedupeKey = dedupeKey :=
              Option.some.inj (key_of_isActiveOf active)
            rw [not_active_of_findActive noneActive isOther] at otherActive
            cases otherActive
        · obtain ⟨atSecond, otherIs⟩ | ⟨_, isOther⟩ := Table.of_find?_insert fresh isOther
          · rw [otherIs] at otherActive
            obtain rfl : candidate.dedupeKey = dedupeKey :=
              Option.some.inj (key_of_isActiveOf otherActive)
            rw [not_active_of_findActive noneActive isRow] at active
            cases active
          · exact sound first second row other dedupeKey isRow isOther active otherActive
      · constructor
        · intro outcome other count same _
          cases same
          refine ⟨candidate.dedupeKey, rfl, ?_, ?_, .inr rfl⟩
          · exact ⟨_, Table.find?_insert_self fresh, newActive, rfl, .inl ⟨fresh, rfl⟩⟩
          · intro other different
            dsimp only
            rw [Table.find?_insert id fresh, if_neg different]
        · intro source target same
          cases same
        · rintro (⟨notIngested, _⟩ | running)
          · exact absurd rfl (notIngested .created id 1)
          · cases running
        · exact fun same => by cases same
        · intro other row found _
          exact ⟨row, Table.find?_insert_of_found fresh found, rfl⟩

theorem not_terminal_of_canTransition (allowed : canTransitionDetection source target = true) :
    terminalDetectionStatuses.contains source = false ∧ target ≠ source := by
  revert allowed
  cases source <;> cases target <;> decide

theorem active_of_canTransition (allowed : canTransitionDetection source target = true) :
    activeDetectionStatus source = true := by
  revert allowed
  cases source <;> cases target <;> decide

theorem detectionKept_writeReview {reviewer : String} {note : Option String}
    (sound : DetectionSound state)
    (checked : (DetectionStage.writing id source target reviewer note now).Checked)
    (found : (state.detections.find? id).any (fun row => row.status == source) = true) :
    DetectionKept state (state.writeReview id source target reviewer note now).1
      (.writing id source target reviewer note now)
      (state.writeReview id source target reviewer note now).2 := by
  obtain ⟨row, isRow, asRead⟩ := Option.any_eq_true _ _ |>.mp found
  rw [beq_iff_eq] at asRead
  obtain ⟨unfinished, moves⟩ := not_terminal_of_canTransition checked
  unfold DetectionDatabase.writeReview
  refine ⟨?_, trivial, ?_⟩
  · refine sound_modify sound fun earlier dedupeKey _ active => ?_
    split at active
    next isSource =>
      have key := key_of_isActiveOf active
      unfold SecurityDetection.isActiveOf
      rw [isSource, active_of_canTransition checked, Bool.and_true, beq_iff_eq]
      exact key
    next => exact active
  · constructor
    · intro outcome other count same
      cases same
    · intro earlier later same _
      cases same
      refine ⟨id, row, row.reviewed target reviewer note now, reviewer, isRow, asRead, ?_, rfl,
        moves, rfl, rfl, fun other different => find?_modify_other _ different⟩
      dsimp only
      rw [Table.find?_modify, if_pos rfl, isRow, Option.map_some, if_pos asRead]
    · rintro (⟨_, notMoved⟩ | running)
      · exact absurd rfl (notMoved source target)
      · cases running
    · exact fun same => by cases same
    · intro other earlier stored terminal
      dsimp only
      rw [Table.find?_modify, stored, Option.map_some]
      split
      next =>
        rw [if_neg]
        · exact ⟨earlier, rfl, rfl⟩
        · intro isSource
          rw [isSource, unfinished] at terminal
          cases terminal
      next => exact ⟨earlier, rfl, rfl⟩

theorem detectionKept_statement (id : String) (sound : DetectionSound state)
    (checked : stage.Checked) (undisputed : stage.undisputed state (.runs id) = true) :
    DetectionKept state (state.statement id stage).1 stage (state.statement id stage).2 := by
  cases stage with
  | finding candidate engine now =>
    refine detectionKept_running sound (detectionChecked_finding candidate engine now) ?_
    unfold DetectionDatabase.statement DetectionDatabase.findingStage
    dsimp only
    split <;> rfl
  | merging candidate other count now => exact detectionKept_merge sound undisputed
  | creating candidate engine now => exact detectionKept_create id sound undisputed
  | mergingAgain => exact False.elim checked
  | reviewing other target reviewer note now =>
    refine detectionKept_reading sound
      (detectionChecked_reviewing other target reviewer note now) fun _ _ => ?_
    unfold DetectionDatabase.statement DetectionDatabase.reviewingStage
    dsimp only
    split
    next => exact ⟨fun _ _ _ same => (by cases same), fun _ _ same => (by cases same)⟩
    next =>
      split <;> exact ⟨fun _ _ _ same => (by cases same), fun _ _ same => (by cases same)⟩
  | writing other source target reviewer note now =>
    exact detectionKept_writeReview sound checked undisputed
  | ended answer => exact detectionKept_ended sound checked
  | dead => exact detectionKept_running sound trivial rfl

theorem detectionKept_choice (call : Nat) {choice : DetectionChoice} (sound : DetectionSound state)
    (checked : stage.Checked) (undisputed : stage.undisputed state choice = true) :
    DetectionKept state (detectionProgram.statement state call stage choice).1 stage
      (detectionProgram.statement state call stage choice).2 := by
  cases choice with
  | runs id => exact detectionKept_statement id sound checked undisputed
  | throws =>
    cases stage with
    | ended answer => exact detectionKept_ended sound checked
    | dead => exact detectionKept_running sound trivial rfl
    | _ => exact detectionKept_threw sound
  | dies =>
    cases stage with
    | ended answer => exact detectionKept_ended sound checked
    | _ => exact detectionKept_running sound trivial rfl

end

theorem detection_checks :
    detectionProgram.Checks DetectionSound DetectionStage.Checked
      (fun state stage choice => stage.undisputed state choice) DetectionPromise where
  enter := fun state request => @detectionChecked_enter state request
  statement := fun _ call _ _ sound checked undisputed =>
    detectionKept_choice call sound checked undisputed
  occur := fun _ event => event.elim

/-- In every run whose writes are not disputed, one detection of a key is active at most, every
ingestion is counted once, none throws because of another one, a detection that is dismissed or
resolved stays so, and a review answers and is audited exactly if it has moved its detection. -/
theorem detectionSound_of_undisputed (state : DetectionDatabase) (actions : List DetectionAction)
    (initial : DetectionSound state)
    (undisputed : Runs.Meets detectionStep
      (fun system action => Program.allows
        (fun state stage choice => stage.undisputed state choice) system action = true)
      (System.initial state) actions) :
    (∀ reached ∈ Runs.states detectionStep (System.initial state) actions,
        DetectionSound reached.shared) ∧
      Runs.Meets detectionStep (detectionProgram.Keeps DetectionPromise) (System.initial state)
        actions :=
  detection_checks.runs initial undisputed

def noDetections : DetectionDatabase := ⟨.empty, []⟩

theorem noDetections_sound : DetectionSound noDetections := by
  intro first second row other dedupeKey found
  cases found

def newDevice : DetectionCandidate :=
  ⟨"user", "u", none, "new_device", "medium", 60, "auth", "new_device:user:u"⟩

def ingestsDevice (call : Nat) : DetectionAction := .enter call (.ingest newDevice none 0)

def detectionRuns (call : Nat) : DetectionAction := .statement call (.runs "d")

/-- A detection is created, counted again and resolved, and a new one is not merged with it. -/
theorem detectionSound_of_recurrence :
    (∀ reached ∈ Runs.states detectionStep (System.initial noDetections)
        [ingestsDevice 0, detectionRuns 0, detectionRuns 0, ingestsDevice 1, detectionRuns 1,
          detectionRuns 1, .enter 2 (.review "d" .resolved "r" none 1), detectionRuns 2,
          detectionRuns 2, ingestsDevice 3, detectionRuns 3, .statement 3 (.runs "e")],
        DetectionSound reached.shared) ∧
      Runs.Meets detectionStep (detectionProgram.Keeps DetectionPromise)
        (System.initial noDetections)
        [ingestsDevice 0, detectionRuns 0, detectionRuns 0, ingestsDevice 1, detectionRuns 1,
          detectionRuns 1, .enter 2 (.review "d" .resolved "r" none 1), detectionRuns 2,
          detectionRuns 2, ingestsDevice 3, detectionRuns 3, .statement 3 (.runs "e")] :=
  detectionSound_of_undisputed noDetections _ noDetections_sound (by decide +kernel)

/-- Two ingestions have found no detection; the second throws when it merges after all. -/
theorem ingestion_aborted :
    ¬∀ (state : DetectionDatabase) (actions : List DetectionAction), DetectionSound state →
      (∀ reached ∈ Runs.states detectionStep (System.initial state) actions,
          DetectionSound reached.shared) ∧
        Runs.Meets detectionStep (detectionProgram.Keeps DetectionPromise) (System.initial state)
          actions := by
  intro claim
  have meets := (claim noDetections
    ([ingestsDevice 0, ingestsDevice 1, detectionRuns 0, detectionRuns 1, detectionRuns 0,
      .statement 1 (.runs "e")] ++ .statement 1 (.runs "e") :: []) noDetections_sound).2
  have promise := meets.at_step 1 (.runs "e") .mergingAgain rfl (by decide +kernel)
  exact promise.raced rfl

end Tamanor.Db
