import Tamanor.Library.Fencing
import Tamanor.Sync.LeaseFencing

/-! A worker that lost its lease changes nothing any more, whatever the clocks and the
interleaving. The committed commands are a legal use of fencing tokens. -/

set_option autoImplicit false

namespace Tamanor.Sync

open Library Library.ReadCommitted

/-- What the committed commands say about the account and its lease. -/
structure Fenced (tables : LeaseTables) (db : LeaseDatabase) : Prop where
  /-- The rows are what the committed commands made of them. -/
  committed : ∀ key, db.rows key = replay leaseSystem db.log key (tables.rows key)
  granted : ((tables.lease.map Lease.generation).toList ++ generations db.log).Pairwise (· < ·)
  written : (writeGenerations db.log).Pairwise (· ≤ ·)
  superseded : ∀ {before lease after}, db.log = before ++ .grant lease :: after →
    ∀ command ∈ after, ∀ handle ∈ command.handle?, lease.generation ≤ handle.generation
  disconnected : ∀ {before after}, db.log = before ++ .forget :: after →
    ∀ command ∈ after, ∀ handle ∈ command.handle?,
      ∀ generation ∈ (tables.lease.map Lease.generation).toList ++ generations before,
        generation < handle.generation

section Events

def LeaseCommand.events : LeaseCommand → List FencingEvent
  | .grant lease => [.grant lease.generation]
  | .keep => []
  | .heartbeat handle _ _ => [.use handle.generation]
  | .release handle => [.use handle.generation, .drop]
  | .lock handle => [.use handle.generation]
  | .write handle _ => [.use handle.generation]
  | .forget => [.drop]
  | .edit _ => []

variable (log : List LeaseCommand)

def fencingEvents : List FencingEvent := log.flatMap LeaseCommand.events

@[simp] theorem fencingEvents_append (first second : List LeaseCommand) :
    fencingEvents (first ++ second) = fencingEvents first ++ fencingEvents second :=
  List.flatMap_append ..

@[simp] theorem fencingEvents_cons (command : LeaseCommand) (log : List LeaseCommand) :
    fencingEvents (command :: log) = command.events ++ fencingEvents log :=
  List.flatMap_cons ..

theorem use_mem_fencingEvents {log : List LeaseCommand} {command : LeaseCommand}
    (member : command ∈ log) {handle : LeaseHandle} (pinned : handle ∈ command.handle?) :
    .use handle.generation ∈ fencingEvents log := by
  refine List.mem_flatMap.mpr ⟨command, member, ?_⟩
  cases command with
  | grant | keep | forget | edit => cases pinned
  | heartbeat other now expiresAt | release other | lock other | write other data =>
    cases pinned
    exact List.mem_cons_self

theorem tokensGranted_fencingEvents :
    Fence.tokensGranted (fencingEvents log) = generations log := by
  induction log with
  | nil => rfl
  | cons command log ih =>
    cases command <;>
      simpa [LeaseCommand.events, Fence.tokensGranted, generations] using ih

theorem writeGenerations_sublist :
    (writeGenerations log).Sublist (Fence.tokensUsed (fencingEvents log)) := by
  induction log with
  | nil => exact .slnil
  | cons command log ih =>
    cases command with
    | write handle data => exact ih.cons_cons handle.generation
    | heartbeat handle now expiresAt | release handle | lock handle =>
      exact ih.cons handle.generation
    | grant | keep | forget | edit => exact ih

def LeaseTables.fence (tables : LeaseTables) : Fence where
  current := tables.lease.map Lease.generation
  last := (tables.lease.map Lease.generation).getD tables.sequence
  current_last := by
    intro token current
    rw [Option.mem_def.mp current]
    rfl

theorem LeaseTables.fence_le (tables : LeaseTables) : tables.fence.last ≤ tables.sequence := by
  cases held : tables.lease with
  | none => simp [LeaseTables.fence, held]
  | some row => simpa [LeaseTables.fence, held] using tables.issued row held

theorem replay_lease (tables : LeaseTables) (log : List LeaseCommand) :
    ∃ row, replay leaseSystem log .lease (some tables.lease) = some row ∧
      row.map Lease.generation = (tables.fence.after (fencingEvents log)).current := by
  induction log using List.reverseRecOn with
  | nil => exact ⟨tables.lease, rfl, rfl⟩
  | append_singleton log command ih =>
    obtain ⟨row, replayed, current⟩ := ih
    rw [replay_append_singleton, replayed, fencingEvents_append, Fence.after_append]
    cases command with
    | grant lease => exact ⟨some lease, rfl, rfl⟩
    | release handle | forget => exact ⟨none, rfl, rfl⟩
    | keep | lock handle | write handle data | edit data => exact ⟨row, rfl, current⟩
    | heartbeat handle now expiresAt =>
      refine ⟨row.map _, rfl, ?_⟩
      rw [Option.map_map]
      exact current

end Events

theorem fenced_of_legal {tables : LeaseTables} {db : LeaseDatabase}
    (sound : db.Sound leaseSystem tables.rows)
    (legal : tables.fence.Legal (fencingEvents db.log)) : Fenced tables db where
  committed := sound.committed
  granted := by
    have increasing := legal.granted_increasing
    rw [tokensGranted_fencingEvents] at increasing
    cases held : tables.lease with
    | none => exact (List.pairwise_cons.mp increasing).2
    | some row => simpa [LeaseTables.fence, held] using increasing
  written := legal.used_monotone.sublist (writeGenerations_sublist db.log)
  superseded := by
    intro before lease after split command member handle pinned
    rw [split, fencingEvents_append, fencingEvents_cons] at legal
    exact legal.use_of_grant (use_mem_fencingEvents member pinned)
  disconnected := by
    intro before after split command member handle pinned generation earlier
    rw [split, fencingEvents_append, fencingEvents_cons] at legal
    obtain ⟨start, grants⟩ := legal.use_of_drop (use_mem_fencingEvents member pinned)
    rcases List.mem_append.mp earlier with first | later
    · cases held : tables.lease with
      | none => simp [held] at first
      | some row =>
        have same : generation = row.generation := by simpa [held] using first
        rw [same]
        simpa [LeaseTables.fence, held] using start
    · rw [← tokensGranted_fencingEvents] at later
      exact grants generation (Fence.mem_tokensGranted.mp later)

section Worker

abbrev LeaseSession := Session LeaseKey LeaseCell LeaseCommand LeaseStage

def LeaseTables.fenceAfter (tables : LeaseTables) (log : List LeaseCommand) : Fence :=
  tables.fence.after (fencingEvents log)

theorem LeaseTables.fenceAfter_append (tables : LeaseTables) (first second : List LeaseCommand) :
    tables.fenceAfter (first ++ second) =
      (tables.fenceAfter first).after (fencingEvents second) := by
  simp only [fenceAfter, fencingEvents_append, Fence.after_append]

structure Leasing (tables : LeaseTables) (log : List LeaseCommand) (sequence : Nat)
    (session : LeaseSession) : Prop where
  legal : (tables.fenceAfter log).Legal (fencingEvents session.log)
  bound : (tables.fenceAfter (log ++ session.log)).last ≤ sequence
  /-- Without the lease lock nothing was done that a token protects. -/
  detached : session.writes .lease = none → fencingEvents session.log = []
  /-- Between its two statements an account write holds the lease row. -/
  holding : ∀ {lease data}, session.state = .holding lease data →
    ∃ row, session.writes .lease = some (some row) ∧ row.heldBy lease = true

variable {tables : LeaseTables} {db : LeaseDatabase} {session : LeaseSession} {tx : Nat}

theorem heldBy_generation {row : Lease} {handle : LeaseHandle} (held : row.heldBy handle = true) :
    row.generation = handle.generation := by
  simp only [Lease.heldBy, Bool.and_eq_true, beq_iff_eq] at held
  exact held.2

theorem current_of_view (sound : db.Sound leaseSystem tables.rows)
    (found : db.sessions tx = some session) {row : Lease}
    (seen : LeaseView.lease (session.view db.rows) = some row) :
    (tables.fenceAfter (db.log ++ session.log)).current = some row.generation := by
  obtain ⟨last, replayed, current⟩ := replay_lease tables (db.log ++ session.log)
  have view : session.view db.rows .lease = some last := (sound.view found .lease).trans replayed
  have same : last = some row := by simpa [LeaseView.lease, view] using seen
  rw [same] at current
  exact current.symm

inductive LeaseStage.Issues (stage : LeaseStage) (view : LeaseView) (sequence : Nat) :
    LeaseCommand → Nat → LeaseStage → Prop where
  | grant {lease drawn} (fresh : sequence < lease.generation)
      (last : lease.generation = sequence + drawn) :
      Issues stage view sequence (.grant lease) drawn .finished
  | keep : Issues stage view sequence .keep 1 .finished
  | pinned {command handle row next} (names : command.handle? = some handle)
      (target : command.target = .lease) (seen : view.lease = some row)
      (held : row.heldBy handle = true)
      (follows : next = .finished ∨ command = .lock handle ∧ ∃ data, next = .holding handle data) :
      Issues stage view sequence command 0 next
  | write {handle data} (locked : stage = .holding handle data) :
      Issues stage view sequence (.write handle data) 0 .finished
  | forget {longLivedToken accessToken revoked} :
      Issues stage view sequence .forget 0 (.clearing longLivedToken accessToken revoked)
  | edit {data} : Issues stage view sequence (.edit data) 0 .finished

variable {next : LeaseStage} {drawn : Nat} {command : LeaseCommand}

theorem LeaseStage.issues {stage : LeaseStage} {view : LeaseView} {sequence : Nat}
    (code : stage.next view sequence = .update command drawn next) :
    stage.Issues view sequence command drawn next := by
  have ofPinned {handle : LeaseHandle} {issued : LeaseCommand} {after : LeaseStage}
      (code : Sync.pinned handle view issued after = .update command drawn next)
      (names : issued.handle? = some handle) (target : issued.target = .lease)
      (follows : after = .finished ∨ issued = .lock handle ∧ ∃ data, after = .holding handle data) :
      stage.Issues view sequence command drawn next := by
    unfold Sync.pinned at code
    split at code
    · cases code
    next row seen =>
      split at code
      next held =>
        cases code
        exact .pinned names target seen held follows
      next => cases code
  cases stage with
  | finished => cases code
  | acquiring id holderId ttlMs now =>
    simp only [LeaseStage.next, acquire] at code
    split at code
    · cases code
      exact .grant (Nat.lt_succ_self _) rfl
    · split at code
      · cases code
        exact .grant (by simp) rfl
      · cases code
        exact .keep
  | holding lease data =>
    simp only [LeaseStage.next] at code
    split at code
    · cases code
    · split at code
      · cases code
        exact .write rfl
      · cases code
  | clearing longLivedToken accessToken revoked =>
    simp only [LeaseStage.next] at code
    split at code
    · cases code
    · split at code
      · cases code
        exact .edit
      · cases code
  | called call =>
    cases call with
    | acquireSyncLease id holderId ttlMs now =>
      simp only [LeaseStage.next] at code
      split at code <;> cases code
    | heartbeatSyncLease lease ttlMs now => exact ofPinned code rfl rfl (.inl rfl)
    | releaseSyncLease lease => exact ofPinned code rfl rfl (.inl rfl)
    | writeAccountIfLeaseHeld lease data =>
      exact ofPinned code rfl rfl (.inr ⟨rfl, data, rfl⟩)
    | disconnectAccount longLivedToken accessToken revoked =>
      simp only [LeaseStage.next] at code
      split at code
      · cases code
      · cases code
        exact .forget
    | editAccount data =>
      cases code
      exact .edit

theorem pinned_legal {fence : Fence} {handle : LeaseHandle} (names : command.handle? = some handle)
    (current : fence.current = some handle.generation) :
    fence.Legal command.events ∧ (fence.after command.events).last = fence.last := by
  cases command with
  | grant | keep | forget | edit => cases names
  | heartbeat other now expiresAt | lock other | write other data =>
    cases names
    exact ⟨⟨current, trivial⟩, rfl⟩
  | release other =>
    cases names
    exact ⟨⟨current, trivial, trivial⟩, rfl⟩

theorem Leasing.issue_legal (leasing : Leasing tables db.log db.sequence session)
    (sound : db.Sound leaseSystem tables.rows) (found : db.sessions tx = some session)
    (issues : session.state.Issues (session.view db.rows) db.sequence command drawn next) :
    (tables.fenceAfter (db.log ++ session.log)).Legal command.events ∧
      ((tables.fenceAfter (db.log ++ session.log)).after command.events).last ≤
        db.sequence + drawn := by
  have bound := leasing.bound
  have used {handle : LeaseHandle} {row : Lease} (names : command.handle? = some handle)
      (seen : LeaseView.lease (session.view db.rows) = some row)
      (held : row.heldBy handle = true) :
      (tables.fenceAfter (db.log ++ session.log)).Legal command.events ∧
        ((tables.fenceAfter (db.log ++ session.log)).after command.events).last ≤ db.sequence := by
    have current := current_of_view sound found seen
    rw [heldBy_generation held] at current
    obtain ⟨legal, last⟩ := pinned_legal names current
    exact ⟨legal, last ▸ bound⟩
  cases issues with
  | grant fresh last => exact ⟨⟨Nat.lt_of_le_of_lt bound fresh, trivial⟩, Nat.le_of_eq last⟩
  | keep => exact ⟨trivial, Nat.le_succ_of_le bound⟩
  | pinned names target seen held follows => exact used names seen held
  | write locked =>
    obtain ⟨row, written, held⟩ := leasing.holding locked
    exact used rfl (by simp [LeaseView.lease, Session.view, written]) held
  | forget => exact ⟨⟨trivial, trivial⟩, bound⟩
  | edit => exact ⟨trivial, bound⟩

theorem view_lease_ne_none (sound : db.Sound leaseSystem tables.rows)
    (found : db.sessions tx = some session) : session.view db.rows .lease ≠ none := by
  obtain ⟨last, replayed, -⟩ := replay_lease tables (db.log ++ session.log)
  rw [(sound.view found .lease).trans replayed]
  simp

abbrev leaseIssued (session : LeaseSession) (rows : LeaseView) (command : LeaseCommand)
    (next : LeaseStage) : LeaseSession :=
  session.issue leaseSystem command next (session.view rows (leaseSystem.target command))

theorem leaseIssued_writes_lease {rows : LeaseView} (next : LeaseStage)
    (target : command.target = .lease) :
    (leaseIssued session rows command next).writes .lease =
      (session.view rows .lease).map command.onLease := by
  cases command with
  | grant | keep | heartbeat | release | lock | forget =>
    exact Session.issue_writes_target leaseSystem _ next
  | write | edit => cases target

theorem leaseIssued_writes_account {rows : LeaseView} (next : LeaseStage)
    (target : command.target = .account) :
    (leaseIssued session rows command next).writes .lease = session.writes .lease := by
  apply Session.issue_writes_of_ne
  intro same
  exact absurd (same.trans target) (by decide)

theorem Leasing.issue (leasing : Leasing tables db.log db.sequence session)
    (sound : db.Sound leaseSystem tables.rows) (found : db.sessions tx = some session)
    (issues : session.state.Issues (session.view db.rows) db.sequence command drawn next) :
    Leasing tables db.log (db.sequence + drawn) (leaseIssued session db.rows command next) := by
  obtain ⟨legal, bound⟩ := leasing.issue_legal sound found issues
  have locks (target : command.target = .lease)
      (unwritten : (leaseIssued session db.rows command next).writes .lease = none) : False := by
    rw [leaseIssued_writes_lease next target, Option.map_eq_none_iff] at unwritten
    exact view_lease_ne_none sound found unwritten
  refine ⟨?_, ?_, ?_, ?_⟩
  · rw [Session.issue_log, fencingEvents_append, Fence.legal_append]
    refine ⟨leasing.legal, ?_⟩
    rw [LeaseTables.fenceAfter_append] at legal
    simpa [fencingEvents] using legal
  · rw [Session.issue_log, ← List.append_assoc, LeaseTables.fenceAfter_append]
    simpa [fencingEvents] using bound
  · intro unwritten
    rw [Session.issue_log, fencingEvents_append]
    cases issues with
    | grant fresh last => exact (locks rfl unwritten).elim
    | keep => exact (locks rfl unwritten).elim
    | forget => exact (locks rfl unwritten).elim
    | pinned names target seen held follows => exact (locks target unwritten).elim
    | write locked =>
      rw [leaseIssued_writes_account _ rfl] at unwritten
      obtain ⟨row, written, -⟩ := leasing.holding locked
      rw [written] at unwritten
      cases unwritten
    | edit =>
      rw [leaseIssued_writes_account _ rfl] at unwritten
      rw [leasing.detached unwritten]
      rfl
  · intro lease data state
    rw [Session.issue_state] at state
    cases issues with
    | grant fresh last => cases state
    | keep => cases state
    | forget => cases state
    | write locked => cases state
    | edit => cases state
    | pinned names target seen held follows =>
      rcases follows with finished | ⟨rfl, other, locked⟩
      · rw [finished] at state
        cases state
      · rw [locked] at state
        cases state
        rename_i row
        refine ⟨row, ?_, held⟩
        rw [leaseIssued_writes_lease _ rfl]
        simpa [LeaseCommand.onLease, LeaseView.lease, Option.join_eq_some_iff] using seen

end Worker

section Run

structure LeaseRun (tables : LeaseTables) (db : LeaseDatabase) : Prop where
  sound : db.Sound leaseSystem tables.rows
  legal : tables.fence.Legal (fencingEvents db.log)
  bound : (tables.fenceAfter db.log).last ≤ db.sequence
  sessions : ∀ {tx session}, db.sessions tx = some session →
    Leasing tables db.log db.sequence session

variable {tables : LeaseTables} {db after : LeaseDatabase} {tx : Nat} {session : LeaseSession}

theorem Leasing.mono {log : List LeaseCommand} {sequence later : Nat} (le : sequence ≤ later)
    (leasing : Leasing tables log sequence session) : Leasing tables log later session :=
  ⟨leasing.legal, Nat.le_trans leasing.bound le, leasing.detached, leasing.holding⟩

theorem LeaseRun.opened (tables : LeaseTables) :
    LeaseRun tables (Database.opened tables.rows tables.sequence) where
  sound := .opened _
  legal := trivial
  bound := tables.fence_le
  sessions found := by cases found

theorem LeaseRun.setSession (run : LeaseRun tables db)
    (sound : (db.setSession tx session).Sound leaseSystem tables.rows)
    (leasing : Leasing tables db.log db.sequence session) :
    LeaseRun tables (db.setSession tx session) where
  sound := sound
  legal := run.legal
  bound := run.bound
  sessions := by
    intro other stored found
    rcases Database.setSession_sessions found with ⟨rfl, rfl⟩ | ⟨-, found⟩
    · exact leasing
    · exact run.sessions found

/-- A transaction that commits leaves the tokens of the others as they are: either it
has not touched the lease, or nobody else has. -/
theorem LeaseRun.commit (run : LeaseRun tables db) (found : db.sessions tx = some session) :
    LeaseRun tables (db.commit tx session) := by
  have leasing := run.sessions found
  refine ⟨run.sound.commit found, ?_, ?_, ?_⟩
  · simp only [Database.commit, fencingEvents_append, Fence.legal_append]
    exact ⟨run.legal, leasing.legal⟩
  · exact leasing.bound
  · intro other stored foundOther
    obtain ⟨different, foundOther⟩ := Database.close_sessions foundOther
    have others := run.sessions foundOther
    simp only [Database.commit]
    cases written : stored.writes .lease with
    | none =>
      have idle := others.detached written
      refine ⟨?_, ?_, others.detached, others.holding⟩
      · rw [idle]
        trivial
      · rw [LeaseTables.fenceAfter_append, idle]
        exact leasing.bound
    | some row =>
      have free : session.writes .lease = none :=
        run.sound.exclusive found foundOther different (by simp [written])
      have same : tables.fenceAfter (db.log ++ session.log) = tables.fenceAfter db.log := by
        rw [LeaseTables.fenceAfter_append, leasing.detached free]
        rfl
      refine ⟨?_, ?_, others.detached, others.holding⟩
      · rw [same]
        exact others.legal
      · have bound := others.bound
        rw [LeaseTables.fenceAfter_append] at bound ⊢
        rwa [same]

theorem LeaseRun.update (run : LeaseRun tables db) (found : db.sessions tx = some session)
    {command : LeaseCommand} {drawn : Nat} {next : LeaseStage}
    (code : session.statement leaseSystem db = .update command drawn next)
    (sound : (db.update leaseSystem tx session command drawn next).Sound leaseSystem tables.rows) :
    LeaseRun tables (db.update leaseSystem tx session command drawn next) := by
  have log : (db.update leaseSystem tx session command drawn next).log = db.log :=
    Database.update_log command drawn next
  have sequence : (db.update leaseSystem tx session command drawn next).sequence =
      db.sequence + drawn := Database.update_sequence command drawn next
  have issues := LeaseStage.issues code
  refine ⟨sound, ?_, ?_, ?_⟩
  · rw [log]
    exact run.legal
  · rw [log, sequence]
    exact Nat.le_add_right_of_le run.bound
  · intro other stored foundOther
    rw [log, sequence]
    rcases Database.update_sessions foundOther with ⟨rfl, rfl⟩ | ⟨-, foundOther⟩
    · exact (run.sessions found).issue run.sound found issues
    · exact (run.sessions foundOther).mono (Nat.le_add_right _ _)

theorem LeaseStage.proceed_not_holding {stage next : LeaseStage} {view : LeaseView}
    {sequence : Nat} (code : stage.next view sequence = .proceed next) (lease : LeaseHandle)
    (data : AccountData) : next ≠ .holding lease data := by
  rintro rfl
  cases stage with
  | finished => cases code
  | acquiring id holderId ttlMs now =>
    simp only [LeaseStage.next, acquire] at code
    split at code
    · cases code
    · split at code <;> cases code
  | holding other patch =>
    simp only [LeaseStage.next] at code
    split at code
    · cases code
    · split at code <;> cases code
  | clearing longLivedToken accessToken revoked =>
    simp only [LeaseStage.next] at code
    split at code
    · cases code
    · split at code <;> cases code
  | called call =>
    cases call with
    | acquireSyncLease id holderId ttlMs now =>
      simp only [LeaseStage.next] at code
      split at code <;> cases code
    | disconnectAccount longLivedToken accessToken revoked =>
      simp only [LeaseStage.next] at code
      split at code <;> cases code
    | editAccount patch => cases code
    | heartbeatSyncLease other ttlMs now | releaseSyncLease other
    | writeAccountIfLeaseHeld other patch =>
      simp only [LeaseStage.next, pinned] at code
      split at code
      · cases code
      · split at code <;> cases code

theorem LeaseRun.step {guard : Guard LeaseKey LeaseCell LeaseCommand} (run : LeaseRun tables db)
    (steps : db.Steps leaseSystem guard after) : LeaseRun tables after := by
  have sound := run.sound.step steps
  cases steps with
  | idle => exact run
  | start free =>
    refine run.setSession sound ⟨trivial, ?_, fun _ => rfl, fun state => by cases state⟩
    simpa [Session.opened] using run.bound
  | close =>
    refine ⟨sound, run.legal, run.bound, ?_⟩
    intro other stored found
    exact run.sessions (Database.close_sessions found).2
  | draw =>
    refine ⟨sound, run.legal, Nat.le_succ_of_le run.bound, ?_⟩
    intro other stored found
    exact (run.sessions found).mono (Nat.le_succ _)
  | proceed found code =>
    have leasing := run.sessions found
    refine run.setSession sound ⟨leasing.legal, leasing.bound, leasing.detached, ?_⟩
    intro lease data state
    exact absurd state (LeaseStage.proceed_not_holding code lease data)
  | update found code available permitted => exact run.update found code sound
  | commit found code => exact run.commit found

end Run

/-- Fencing of one account's sync lease, for every interleaving of the statements. -/
theorem runLeases_fenced (tables : LeaseTables) (actions : List LeaseAction) :
    Fenced tables (runLeases tables actions) := by
  have run : LeaseRun tables (runLeases tables actions) :=
    Database.run_invariant (fun run steps => run.step steps) (LeaseRun.opened tables)
      (Database.guarded_true _)
  exact fenced_of_legal run.sound run.legal

/-- A worker whose clock is fast takes the lease over; the write of the first one, whose
clock says that its lease is live, then finds no row. -/
example :
    generations (runLeases ⟨none, some ⟨.active, none, none, fun _ => none⟩, 0, by simp⟩
      [.start 1 (.acquireSyncLease "a" "first" 300 0), .exec 1, .exec 1, .exec 1,
        .start 2 (.acquireSyncLease "b" "second" 300 1000), .exec 2, .exec 2, .exec 2,
        .start 1 (.writeAccountIfLeaseHeld ⟨"a", "first", 1⟩ ⟨some .expired, none, none, []⟩),
        .exec 1, .exec 1, .exec 1]).log = [1, 3] := by
  decide +kernel

end Tamanor.Sync
