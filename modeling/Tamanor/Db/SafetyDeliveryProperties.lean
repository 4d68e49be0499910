import Tamanor.Db.SafetyDelivery

/-! When the deliveries follow their lifecycle. The edge is checked against the status that
the call has read; the update then takes the row as it is. -/

set_option autoImplicit false

namespace Tamanor.Db

open Tamanor.Core Library Library.ReadCommitted

def DeliveryUpdate.target (update : DeliveryUpdate) : SafetyDeliveryStatus :=
  (update.operation.transition update.now).target

/-- The update is an edge from the status it finds, and writes a timestamp for the first time. -/
structure FollowsLifecycle (update : DeliveryUpdate) (record : DeliveryRecord) : Prop where
  edge : isValidSafetyDeliveryTransition record.row.deliveryStatus update.target = true
  available : update.operation = .makeAvailable → record.row.availableAt = none
  acknowledged : update.operation = .acknowledge → record.row.acknowledgedAt = none
  declined : update.operation = .decline → record.row.declinedAt = none

def DeliveryRecord.availableEvents (record : DeliveryRecord) : Nat :=
  record.events.countP (·.type == .deliveryAvailable)

/-- Every committed update, in the order of the commits, follows the lifecycle, and no delivery
has two events of its availability. -/
structure KeepsLifecycle (creations : String → Option DeliveryCreation) (db : DeliveryDatabase) :
    Prop where
  follows : ∀ before update after, db.log = before ++ update :: after → ∀ record,
    replay deliverySystem before update.deliveryId
      (createdDeliveries creations update.deliveryId) = some record → FollowsLifecycle update record
  announced : ∀ id record, db.rows id = some record → record.availableEvents ≤ 1

def UnchangedSinceRead : Guard String (fun _ => DeliveryRecord) DeliveryUpdate :=
  fun update _ row => ∀ record ∈ row, record.row.deliveryStatus = update.read

instance (update : DeliveryUpdate) (id : String) (row : Option DeliveryRecord) :
    Decidable (UnchangedSinceRead update id row) :=
  inferInstanceAs (Decidable (∀ record ∈ row, record.row.deliveryStatus = update.read))

structure DeliveryInvariant (record : DeliveryRecord) : Prop where
  prepared : record.row.deliveryStatus = .prepared →
    record.row.availableAt = none ∧ record.availableEvents = 0
  unanswered : record.row.deliveryStatus = .prepared ∨ record.row.deliveryStatus = .available →
    record.row.acknowledgedAt = none ∧ record.row.declinedAt = none
  announced : record.availableEvents ≤ 1

variable {update : DeliveryUpdate} {record : DeliveryRecord}

theorem deliveryInvariant_created (creation : DeliveryCreation) :
    DeliveryInvariant ⟨creation.row, []⟩ where
  prepared := fun _ => ⟨rfl, rfl⟩
  unanswered := fun _ => ⟨rfl, rfl⟩
  announced := Nat.zero_le _

theorem source_of_available {source : SafetyDeliveryStatus}
    (edge : isValidSafetyDeliveryTransition source .available = true) : source = .prepared := by
  cases source <;> first | rfl | exact absurd edge (by decide)

theorem source_of_answer {source target : SafetyDeliveryStatus}
    (edge : isValidSafetyDeliveryTransition source target = true)
    (answer : target = .acknowledged ∨ target = .declined) : source = .available := by
  rcases answer with rfl | rfl <;> cases source <;> first | rfl | exact absurd edge (by decide)

theorem followsLifecycle_of_edge (inv : DeliveryInvariant record)
    (edge : isValidSafetyDeliveryTransition record.row.deliveryStatus update.target = true) :
    FollowsLifecycle update record where
  edge := edge
  available := by
    intro operation
    rw [DeliveryUpdate.target, operation] at edge
    exact (inv.prepared (source_of_available edge)).1
  acknowledged := by
    intro operation
    rw [DeliveryUpdate.target, operation] at edge
    exact (inv.unanswered (.inr (source_of_answer edge (.inl rfl)))).1
  declined := by
    intro operation
    rw [DeliveryUpdate.target, operation] at edge
    exact (inv.unanswered (.inr (source_of_answer edge (.inr rfl)))).2

theorem status_apply : (update.apply record).row.deliveryStatus = update.target := rfl

theorem countP_enqueue_le (event : DeliveryEvent) (events : List DeliveryEvent)
    (test : DeliveryEvent → Bool) :
    (enqueueDeliveryEvent event events).countP test ≤ events.countP test + 1 := by
  unfold enqueueDeliveryEvent
  split
  · exact Nat.le_succ _
  · rw [List.countP_append, List.countP_singleton]
    split <;> omega

theorem countP_enqueue_of_not (event : DeliveryEvent) (test : DeliveryEvent → Bool)
    (other : test event = false) (events : List DeliveryEvent) :
    (enqueueDeliveryEvent event events).countP test = events.countP test := by
  unfold enqueueDeliveryEvent
  split
  · rfl
  · simp [List.countP_append, other]

theorem availableEvents_apply (inv : DeliveryInvariant record)
    (follows : FollowsLifecycle update record) : (update.apply record).availableEvents ≤ 1 := by
  have announced := inv.announced
  obtain ⟨id, operation, now, actor, read⟩ := update
  cases operation with
  | makeAvailable =>
    have none := (inv.prepared (source_of_available follows.edge)).2
    have fewer := countP_enqueue_le ⟨.deliveryAvailable, now⟩ record.events
      (·.type == .deliveryAvailable)
    rw [DeliveryRecord.availableEvents] at none
    rw [none] at fewer
    exact fewer
  | acknowledge =>
    have same := countP_enqueue_of_not ⟨.deliveryAcknowledged, now⟩
      (·.type == .deliveryAvailable) rfl record.events
    exact Nat.le_trans (Nat.le_of_eq same) announced
  | decline =>
    have same := countP_enqueue_of_not ⟨.deliveryDeclined, now⟩
      (·.type == .deliveryAvailable) rfl record.events
    exact Nat.le_trans (Nat.le_of_eq same) announced
  | revoke => exact announced
  | supersede => exact announced
  | archive => exact announced

theorem DeliveryInvariant.apply (inv : DeliveryInvariant record)
    (follows : FollowsLifecycle update record) : DeliveryInvariant (update.apply record) where
  prepared := by
    rw [status_apply]
    intro prepared
    obtain ⟨id, operation, now, actor, read⟩ := update
    cases operation <;> cases prepared
  unanswered := by
    rw [status_apply]
    intro target
    obtain ⟨id, operation, now, actor, read⟩ := update
    cases operation with
    | makeAvailable => exact inv.unanswered (.inl (source_of_available follows.edge))
    | acknowledge => rcases target with target | target <;> cases target
    | decline => rcases target with target | target <;> cases target
    | revoke => rcases target with target | target <;> cases target
    | supersede => rcases target with target | target <;> cases target
    | archive => rcases target with target | target <;> cases target
  announced := availableEvents_apply inv follows

abbrev DeliveryRows := (id : String) → Option DeliveryRecord

abbrev DeliverySession := Session String (fun _ => DeliveryRecord) DeliveryUpdate DeliveryStage

def TracksDelivery (rows : DeliveryRows) (session : DeliverySession) : Prop :=
  match session.state with
  | .called _ => session.log = [] ∧ ∀ id, session.writes id = none
  | .checked update =>
    (session.log = [] ∧ ∀ id, session.writes id = none) ∧
      (rows update.deliveryId).isSome = true ∧
      isValidSafetyDeliveryTransition update.read update.target = true
  | .updated => ∃ update record, session.log = [update] ∧ rows update.deliveryId = some record ∧
      DeliveryInvariant record ∧ FollowsLifecycle update record ∧
      session.writes update.deliveryId = some (update.apply record) ∧
      ∀ id, id ≠ update.deliveryId → session.writes id = none

structure DeliveryRun (creations : String → Option DeliveryCreation) (db : DeliveryDatabase) :
    Prop where
  sound : db.Sound deliverySystem (createdDeliveries creations)
  kept : ∀ id record, db.rows id = some record → DeliveryInvariant record
  follows : ∀ before update after, db.log = before ++ update :: after → ∀ record,
    replay deliverySystem before update.deliveryId
      (createdDeliveries creations update.deliveryId) = some record → FollowsLifecycle update record
  sessions : ∀ tx session, db.sessions tx = some session → TracksDelivery db.rows session

variable {creations : String → Option DeliveryCreation} {db after : DeliveryDatabase}

theorem deliveryRun_opened (creations : String → Option DeliveryCreation) :
    DeliveryRun creations (Database.opened (createdDeliveries creations) 0) where
  sound := Database.Sound.opened 0
  kept := by
    intro id record found
    obtain ⟨creation, -, rfl⟩ := Option.map_eq_some_iff.mp found
    exact deliveryInvariant_created creation
  follows := by
    intro before update after split
    have nonempty : before ++ update :: after ≠ [] := by simp
    exact absurd split.symm nonempty
  sessions := by
    intro tx session found
    cases found

theorem checkDelivery_some {call : DeliveryCall} {stored : Option DeliveryRecord}
    (checked : checkDelivery call stored = some update) :
    update.deliveryId = call.deliveryId ∧ stored.isSome = true ∧
      isValidSafetyDeliveryTransition update.read update.target = true := by
  unfold checkDelivery at checked
  split at checked
  · dsimp only at checked
    split at checked
    · cases checked
    · split at checked
      · cases checked
      · split at checked
        · next valid =>
          cases checked
          exact ⟨rfl, rfl, valid⟩
        · cases checked
  · cases checked

variable {rows : DeliveryRows} {session : DeliverySession}

theorem TracksDelivery.transfer {changed : DeliveryRows} (tracks : TracksDelivery rows session)
    (same : ∀ id, session.writes id ≠ none → changed id = rows id)
    (present : ∀ id, (rows id).isSome = true → (changed id).isSome = true) :
    TracksDelivery changed session := by
  unfold TracksDelivery at tracks ⊢
  split
  next called => rwa [called] at tracks
  next update checked =>
    rw [checked] at tracks
    exact ⟨tracks.1, present _ tracks.2.1, tracks.2.2⟩
  next updated =>
    rw [updated] at tracks
    obtain ⟨update, record, log, found, inv, follows, written, others⟩ := tracks
    refine ⟨update, record, log, ?_, inv, follows, written, others⟩
    rw [same update.deliveryId (by simp [written])]
    exact found

theorem append_singleton_split {α : Type} {log before after : List α} {last element : α}
    (split : log ++ [last] = before ++ element :: after) :
    (after = [] ∧ element = last ∧ before = log) ∨ ∃ rest, log = before ++ element :: rest := by
  rcases List.eq_nil_or_concat after with rfl | ⟨rest, final, rfl⟩
  · left
    obtain ⟨same, lasts⟩ := List.append_inj' split rfl
    cases lasts
    exact ⟨rfl, rfl, same.symm⟩
  · right
    refine ⟨rest, ?_⟩
    rw [List.concat_eq_append, ← List.cons_append, ← List.append_assoc] at split
    exact (List.append_inj' split rfl).1

theorem view_of_unwritten {id : String} (unwritten : session.writes id = none) :
    session.view rows id = rows id := by
  rw [Session.view, unwritten]
  rfl

theorem view_of_written {id : String} {record : DeliveryRecord}
    (written : session.writes id = some record) :
    session.view rows id = some record := by
  rw [Session.view, written]
  rfl

theorem DeliveryRun.commit {tx : Nat} (run : DeliveryRun creations db)
    (found : db.sessions tx = some session) (code : session.statement deliverySystem db = .commit) :
    DeliveryRun creations (db.commit tx session) := by
  have tracks := run.sessions tx session found
  have updated : session.state = .updated := by
    cases stage : session.state with
    | called call =>
      simp only [Session.statement, deliverySystem, stage] at code
      split at code <;> cases code
    | checked update =>
      simp only [Session.statement, deliverySystem, stage] at code
      cases code
    | updated => rfl
  rw [TracksDelivery, updated] at tracks
  obtain ⟨update, record, log, stored, inv, follows, written, others⟩ := tracks
  have rows : (db.commit tx session).rows = session.view db.rows := rfl
  have after : session.view db.rows update.deliveryId = some (update.apply record) :=
    view_of_written written
  refine ⟨run.sound.commit found, ?_, ?_, ?_⟩
  · intro id other is
    rw [rows] at is
    by_cases here : id = update.deliveryId
    · subst here
      rw [after] at is
      cases is
      exact inv.apply follows
    · rw [view_of_unwritten (others id here)] at is
      exact run.kept id other is
  · intro before other rest split
    have logs : (db.commit tx session).log = db.log ++ [update] := by
      show db.log ++ session.log = _
      rw [log]
    rw [logs] at split
    rcases append_singleton_split split with ⟨-, rfl, rfl⟩ | ⟨rest, earlier⟩
    · intro replayed is
      rw [← run.sound.committed, stored] at is
      cases is
      exact follows
    · exact run.follows before other rest earlier
  · intro other stored' foundOther
    obtain ⟨different, foundOther⟩ := Database.close_sessions foundOther
    refine (run.sessions other stored' foundOther).transfer ?_ ?_
    · intro id writes
      rw [rows, view_of_unwritten (run.sound.exclusive found foundOther different writes)]
    · intro id present
      rw [rows]
      by_cases here : id = update.deliveryId
      · rw [here, after]
        rfl
      · rw [view_of_unwritten (others id here)]
        exact present

theorem DeliveryRun.updateRow {tx drawn : Nat} {next : DeliveryStage}
    (run : DeliveryRun creations db) (found : db.sessions tx = some session)
    (code : session.statement deliverySystem db = .update update drawn next)
    (available : db.Available tx (deliverySystem.target update))
    (permitted : UnchangedSinceRead update (deliverySystem.target update)
      (session.view db.rows (deliverySystem.target update))) :
    DeliveryRun creations (db.update deliverySystem tx session update drawn next) := by
  have tracks := run.sessions tx session found
  have checked : session.state = .checked update ∧ next = .updated := by
    cases stage : session.state with
    | called call =>
      simp only [Session.statement, deliverySystem, stage] at code
      split at code <;> cases code
    | checked stored =>
      simp only [Session.statement, deliverySystem, stage] at code
      cases code
      exact ⟨rfl, rfl⟩
    | updated =>
      simp only [Session.statement, deliverySystem, stage] at code
      cases code
  obtain ⟨state, rfl⟩ := checked
  rw [TracksDelivery, state] at tracks
  obtain ⟨⟨log, unwritten⟩, present, valid⟩ := tracks
  obtain ⟨record, stored⟩ := Option.isSome_iff_exists.mp present
  have seen : session.view db.rows update.deliveryId = some record :=
    (view_of_unwritten (unwritten _)).trans stored
  have status : record.row.deliveryStatus = update.read := permitted record seen
  have inv := run.kept _ _ stored
  have follows : FollowsLifecycle update record := followsLifecycle_of_edge inv (by rwa [status])
  have sessions : ∀ other session', (db.update deliverySystem tx session update drawn
      .updated).sessions other = some session' → TracksDelivery db.rows session' := by
    intro other session' foundOther
    rcases Database.update_sessions foundOther with ⟨-, rfl⟩ | ⟨-, foundOther⟩
    · rw [show session.view db.rows (deliverySystem.target update) = some record from seen]
      refine ⟨update, record, ?_, stored, inv, follows, ?_, ?_⟩
      · show session.log ++ [update] = _
        rw [log]
        rfl
      · exact Function.update_self ..
      · intro id different
        exact (Function.update_of_ne different ..).trans (unwritten id)
    · exact run.sessions other session' foundOther
  refine ⟨run.sound.update drawn .updated found available, ?_, ?_, ?_⟩
  · rw [Database.update_rows]
    exact run.kept
  · rw [Database.update_log]
    exact run.follows
  · rw [Database.update_rows]
    exact sessions

theorem DeliveryRun.step (run : DeliveryRun creations db)
    (steps : db.Steps deliverySystem UnchangedSinceRead after) : DeliveryRun creations after := by
  have sound := run.sound.step steps
  cases steps with
  | idle => exact run
  | draw => exact ⟨sound, run.kept, run.follows, run.sessions⟩
  | start free =>
    refine ⟨sound, run.kept, run.follows, ?_⟩
    intro tx session found
    rcases Database.setSession_sessions found with ⟨-, rfl⟩ | ⟨-, found⟩
    · exact ⟨rfl, fun _ => rfl⟩
    · exact run.sessions tx session found
  | close =>
    refine ⟨sound, run.kept, run.follows, ?_⟩
    intro tx session found
    exact run.sessions tx session (Database.close_sessions found).2
  | @proceed tx session next found code =>
    refine ⟨sound, run.kept, run.follows, ?_⟩
    intro other stored foundOther
    rcases Database.setSession_sessions foundOther with ⟨-, rfl⟩ | ⟨-, foundOther⟩
    · have tracks := run.sessions tx session found
      cases stage : session.state with
      | called call =>
        rw [TracksDelivery, stage] at tracks
        simp only [Session.statement, deliverySystem, stage] at code
        split at code
        · cases code
        · next update checked =>
          cases code
          obtain ⟨same, present, valid⟩ := checkDelivery_some checked
          refine ⟨tracks, ?_, valid⟩
          rw [view_of_unwritten (tracks.2 _)] at present
          rw [same]
          exact present
      | checked update =>
        simp only [Session.statement, deliverySystem, stage] at code
        cases code
      | updated =>
        simp only [Session.statement, deliverySystem, stage] at code
        cases code
    · exact run.sessions other stored foundOther
  | update found code available permitted => exact run.updateRow found code available permitted
  | commit found code => exact run.commit found code

/-- If each update finds the status that its transaction has read, the committed updates
follow the lifecycle. -/
theorem deliveries_keepLifecycle_of_unchanged (creations : String → Option DeliveryCreation)
    (actions : List DeliveryAction)
    (unchanged : Database.Guarded deliverySystem UnchangedSinceRead
      (Database.opened (createdDeliveries creations) 0) actions) :
    KeepsLifecycle creations (runDeliveries creations actions) := by
  have run : DeliveryRun creations (runDeliveries creations actions) :=
    Database.run_invariant (fun run steps => run.step steps) (deliveryRun_opened creations) unchanged
  exact ⟨run.follows, fun id record found => (run.kept id record found).announced⟩

def preparedDelivery (id : String) : Option DeliveryCreation :=
  if id = "delivery" then
    some ⟨"tenant", "signal", "profile", "decision", "guardian", [.signalExistence], none, "key", 0⟩
  else none

def deliveryCall (operation : DeliveryOperation) (now : Int) : DeliveryCall :=
  ⟨"tenant", some "guardian", "delivery", operation, now⟩

def wholeCall (tx : Nat) (operation : DeliveryOperation) (now : Int) : List DeliveryAction :=
  [.start tx (deliveryCall operation now), .exec tx, .exec tx, .exec tx]

/-- A decline that has read nothing yet when the acknowledgement commits is rolled back. -/
theorem deliveries_keepLifecycle_of_answers :
    KeepsLifecycle preparedDelivery (runDeliveries preparedDelivery
      (wholeCall 0 .makeAvailable 1 ++ [.start 1 (deliveryCall .decline 2)] ++
        wholeCall 2 .acknowledge 3 ++ [.exec 1, .exec 1])) :=
  deliveries_keepLifecycle_of_unchanged preparedDelivery _ (by decide +kernel)

/-- The acknowledgement has read `available` when the revocation commits. -/
def acknowledgesRevoked : List DeliveryAction :=
  wholeCall 0 .makeAvailable 1 ++ [.start 1 (deliveryCall .acknowledge 2), .exec 1] ++
    wholeCall 2 .revoke 3 ++ [.exec 1, .exec 1]

/-- Two calls have read `prepared` before one of them updates. -/
def availableTwice : List DeliveryAction :=
  [.start 0 (deliveryCall .makeAvailable 1), .exec 0, .start 1 (deliveryCall .makeAvailable 2),
    .exec 1, .exec 0, .exec 0, .exec 1, .exec 1]

theorem not_deliveries_keepLifecycle :
    ¬KeepsLifecycle preparedDelivery (runDeliveries preparedDelivery acknowledgesRevoked) ∧
      ¬KeepsLifecycle preparedDelivery (runDeliveries preparedDelivery availableTwice) := by
  constructor
  · intro keeps
    have log : (runDeliveries preparedDelivery acknowledgesRevoked).log =
        [⟨"delivery", .makeAvailable, 1, "guardian", .prepared⟩,
          ⟨"delivery", .revoke, 3, "guardian", .available⟩] ++
          [⟨"delivery", .acknowledge, 2, "guardian", .available⟩] := by decide +kernel
    have revoked : (replay deliverySystem [⟨"delivery", .makeAvailable, 1, "guardian", .prepared⟩,
        ⟨"delivery", .revoke, 3, "guardian", .available⟩] "delivery"
          (createdDeliveries preparedDelivery "delivery")).map (·.row.deliveryStatus) =
        some .revoked := by decide +kernel
    obtain ⟨record, is, status⟩ := Option.map_eq_some_iff.mp revoked
    have edge := (keeps.follows _ _ _ log record is).edge
    rw [status] at edge
    exact absurd edge (by decide)
  · intro keeps
    have twice : ((runDeliveries preparedDelivery availableTwice).rows "delivery").map
        DeliveryRecord.availableEvents = some 2 := by decide +kernel
    obtain ⟨record, is, events⟩ := Option.map_eq_some_iff.mp twice
    have once := keeps.announced _ record is
    rw [events] at once
    exact absurd once (by decide)

end Tamanor.Db
