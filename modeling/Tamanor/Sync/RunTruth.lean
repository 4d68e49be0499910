import Tamanor.Sync.ConnectionTruth

/-! One sync beside the lease of its account, from the moment the row of the run exists
(`runReadOnlySync`, `lease-heartbeat.ts`). The steps of the run, the heartbeats, other workers'
leases and the signal to stop come in any order. -/

set_option autoImplicit false

namespace Tamanor.Sync

open Tamanor.Core Library

def maxTransientFailures : Nat := 3

/-- `lost` is also the state of the abort signal. A heartbeat in flight has reached the database
once its answer is known there. -/
structure Heartbeat where
  lost : Bool
  stopped : Bool
  inFlight : Option (Option Bool)
  consecutiveFailures : Nat
  currentExpiry : Int

namespace Heartbeat

/-- Heartbeats never overlap, and none is made after a loss or a stop. -/
def tick (heartbeat : Heartbeat) : Heartbeat :=
  if heartbeat.lost || heartbeat.stopped || heartbeat.inFlight.isSome then heartbeat
  else { heartbeat with inFlight := some none }

/-- The rest of a tick, when its call is back. A call that threw may have renewed the lease. -/
def answered (heartbeat : Heartbeat) (ttlMs now : Int) (thrown : Bool) : Heartbeat :=
  let idle := { heartbeat with inFlight := none }
  match heartbeat.inFlight with
  | none => heartbeat
  | some answer =>
    if thrown then
      let failures := heartbeat.consecutiveFailures + 1
      { idle with
        consecutiveFailures := failures
        lost := heartbeat.lost || decide (maxTransientFailures ≤ failures) ||
          decide (heartbeat.currentExpiry ≤ now) }
    else
      match answer with
      | none => heartbeat
      | some true => { idle with consecutiveFailures := 0, currentExpiry := now + ttlMs }
      | some false => { idle with lost := true }

end Heartbeat

/-- What the run is started with: its lease, and the account as it was read. -/
structure SyncTask where
  lease : Lease
  account : SyncAccount
  ttlMs : Int
  useMock : Bool
  disableHeartbeat : Bool
  simulateLeaseLost : Bool

def SyncTask.handle (task : SyncTask) : LeaseHandle :=
  ⟨task.lease.id, task.lease.holderId, task.lease.generation⟩

structure SyncRunRow where
  status : SyncRunStatus
  fetched : Nat
  created : Nat
  updated : Nat
  deduped : Nat
  errors : Nat
  error : Option String
  cursor : Option String
deriving DecidableEq

structure SyncReport where
  ok : Bool
  mock : Bool
  verdict : SyncVerdict
  fetched : Nat
  created : Nat
  updated : Nat
  deduped : Nat
  errors : Nat
  message : String
  needsReconnect : Bool
  retryLater : Bool

def Tally.total (tally : Tally) : Nat :=
  tally.created + tally.updated + tally.deduped + tally.failed.length

/-- Where the run is. `locked` is the terminal transaction with the row of the lease locked,
`fenced` the one that has not found it; `failing` and `recording` are the transaction of the
error handler before and after it has asked for the lock. -/
inductive RunPhase where
  | fetching
  | checking (fetched : FetchResult) (rest : List FetchedContent) (tally : Tally)
  | ingesting (fetched : FetchResult) (item : FetchedContent) (rest : List FetchedContent)
      (tally : Tally)
  | finishing (fetched : FetchResult) (tally : Tally)
  | saving (fetched : FetchResult) (tally : Tally) (fencedOut : Bool)
  | locked (fetched : FetchResult) (tally : Tally)
  | fenced (fetched : FetchResult) (tally : Tally)
  | caught (err : SyncError)
  | interrupting
  | failing (err : SyncError)
  | recording (err : SyncError) (locked : Bool)
  /-- Without a report where an exception has left the run. -/
  | ended (report : Option SyncReport)
  | released (report : Option SyncReport)

namespace RunPhase

def locking : RunPhase → Bool
  | .locked _ _ | .recording _ true => true
  | _ => false

def isOver : RunPhase → Bool
  | .ended _ | .released _ => true
  | _ => false

def report : RunPhase → Option SyncReport
  | .ended report | .released report => report
  | _ => none

end RunPhase

/-- A write of the account by the run: for an item, whose hide attempt may write it, or at the
end, with what the run held then. -/
inductive AccountWrite where
  | item
  | terminal (underLease : Bool)
deriving DecidableEq

/-- The database, the controller of the heartbeats and the run. What the run wrote to the account
and whether the lease was lost before the run was over are only recorded. -/
structure RunState where
  lease : Option Lease
  account : SyncAccount
  row : SyncRunRow
  heartbeat : Heartbeat
  aborted : Bool
  phase : RunPhase
  accountWrites : List AccountWrite
  lostBefore : Bool

def RunState.start (task : SyncTask) : RunState where
  lease := some task.lease
  account := task.account
  row := ⟨.running, 0, 0, 0, 0, 0, none, none⟩
  heartbeat := ⟨false, false, none, 0, task.lease.expiresAt⟩
  aborted := false
  phase := .fetching
  accountWrites := []
  lostBefore := false

inductive RunAction where
  /-- Another worker's takeover, or a disconnect. -/
  | leaseTaken (row : Option Lease)
  | accountEdited (account : SyncAccount)
  | abort
  | tick
  | beatReaches (now : Int)
  | beatAnswers (now : Int) (thrown : Bool)
  | fetchAnswers (answer : Except SyncError FetchResult)
  | itemWrites (account : SyncAccount)
  | itemAnswers (answer : ItemAnswer)
  | proceed (now : Int)
  /-- The database refuses the transaction that is open. -/
  | throws (message : String)

variable (task : SyncTask)

def RunState.held (state : RunState) : Bool :=
  state.lease.any fun lease => lease.heldBy task.handle

def RunState.leaseGone (state : RunState) : Bool :=
  state.heartbeat.lost || state.aborted || task.simulateLeaseLost

def interruptedReport (useMock : Bool) (fetched : Nat) (tally : Tally) (consequence : String) :
    SyncReport where
  ok := false
  mock := useMock
  verdict := .interrupted
  fetched := fetched
  created := tally.created
  updated := tally.updated
  deduped := tally.deduped
  errors := tally.failed.length
  message := "Sync interrupted — the account lease was taken over; " ++ consequence
  needsReconnect := false
  retryLater := false

def readReport (useMock : Bool) (fetched : Nat) (tally : Tally) : SyncReport where
  ok := tally.verdict != .failed
  mock := useMock
  verdict := tally.verdict
  fetched := fetched
  created := tally.created
  updated := tally.updated
  deduped := tally.deduped
  errors := tally.failed.length
  message := readMessage useMock tally tally.verdict
  needsReconnect := false
  retryLater := false

def failedReport (useMock : Bool) (err : SyncError) : SyncReport where
  ok := false
  mock := useMock
  verdict := .failed
  fetched := 0
  created := 0
  updated := 0
  deduped := 0
  errors := 1
  message := err.message
  needsReconnect := err.needsReconnect
  retryLater := err.retryLater

def failedAccount (row : SyncAccount) (err : SyncError) (now : Int) : SyncAccount :=
  { row.afterError err now with
    syncAttempts := task.account.syncAttempts + 1
    nextRetryAt :=
      if err.needsReconnect then none
      else some (nextRetryFor (task.account.syncAttempts + 1) now) }

def SyncRunRow.counts (row : SyncRunRow) (status : SyncRunStatus) (fetched : Nat) (tally : Tally) :
    SyncRunRow :=
  { row with
    status
    fetched
    created := tally.created
    updated := tally.updated
    deduped := tally.deduped
    errors := tally.failed.length }

namespace RunState

def commitInterrupted (state : RunState) (fetched : FetchResult) (tally : Tally) : RunState :=
  { state with
    row := state.row.counts .interrupted fetched.items.length tally
    phase := .ended (some (interruptedReport task.useMock fetched.items.length tally
      "no success was recorded.")) }

/-- The terminal transaction under the lock; a disconnected account is not written, and the run
is fenced out then as well. -/
def commitRead (state : RunState) (fetched : FetchResult) (tally : Tally) (now : Int) : RunState :=
  if state.account.status = .disconnected then state.commitInterrupted task fetched tally
  else
    { state with
      account := state.account.afterRead fetched tally.verdict now
      accountWrites := state.accountWrites ++ [.terminal (state.held task)]
      row :=
        { state.row.counts tally.verdict.runStatus fetched.items.length tally with
          cursor := fetched.cursor }
      phase := .ended (some (readReport task.useMock fetched.items.length tally)) }

/-- The transaction of the error handler, which does not look at the rows it has written. -/
def commitError (state : RunState) (err : SyncError) (locked : Bool) (now : Int) : RunState :=
  let recorded := { state with
    row := { state.row with status := err.runStatus, errors := 1, error := some err.message }
    phase := .ended (some (failedReport task.useMock err)) }
  if locked && state.account.status != .disconnected then
    { recorded with
      account := failedAccount task state.account err now
      accountWrites := state.accountWrites ++ [.terminal (state.held task)] }
  else recorded

def interruptedByError : SyncReport :=
  interruptedReport task.useMock 0 emptyTally "no failure state was recorded."

def release (state : RunState) (report : Option SyncReport) : RunState :=
  { state with
    lease := if state.held task then none else state.lease
    heartbeat := { state.heartbeat with stopped := true }
    phase := .released report }

def proceed (state : RunState) (now : Int) : RunState :=
  match state.phase with
  | .checking fetched (item :: rest) tally =>
    if state.leaseGone task then { state with phase := .finishing fetched tally }
    else { state with phase := .ingesting fetched item rest tally }
  | .checking fetched [] tally => { state with phase := .finishing fetched tally }
  | .finishing fetched tally =>
    { state with phase := .saving fetched tally (state.leaseGone task) }
  | .saving fetched tally fencedOut =>
    if !fencedOut && state.held task then { state with phase := .locked fetched tally }
    else { state with phase := .fenced fetched tally }
  | .locked fetched tally => state.commitRead task fetched tally now
  | .fenced fetched tally => state.commitInterrupted task fetched tally
  | .caught err =>
    if state.leaseGone task then { state with phase := .interrupting }
    else { state with phase := .failing err }
  | .interrupting =>
    { state with
      row := { state.row with status := .interrupted, errors := 0 }
      phase := .ended (some (interruptedByError task)) }
  | .failing err => { state with phase := .recording err (state.held task) }
  | .recording err locked => state.commitError task err locked now
  | .ended report => state.release task report
  | .fetching | .ingesting _ _ _ _ | .released _ => state

/-- A refused transaction leaves nothing. The handler ignores it where it has no failure to
record, and is left by it otherwise. -/
def throws (state : RunState) (message : String) : RunState :=
  match state.phase with
  | .saving _ _ _ | .locked _ _ | .fenced _ _ => { state with phase := .caught (.other message) }
  | .interrupting => { state with phase := .ended (some (interruptedByError task)) }
  | .failing _ | .recording _ _ => { state with phase := .ended none }
  | _ => state

/-- Every lease after the one of the run has a larger generation, and none is taken while its row
is locked. -/
def Takes (state : RunState) (row : Option Lease) : Prop :=
  state.phase.locking = false ∧ ∀ lease ∈ row, task.lease.generation < lease.generation

instance (state : RunState) (row : Option Lease) : Decidable (state.Takes task row) :=
  inferInstanceAs (Decidable (_ ∧ ∀ lease ∈ row, _))

def beatReaches (state : RunState) (now : Int) : RunState :=
  if state.heartbeat.inFlight = some none ∧ state.phase.locking = false then
    { state with
      heartbeat := { state.heartbeat with inFlight := some (some (state.held task)) }
      lease :=
        if state.held task then
          state.lease.map fun lease =>
            { lease with heartbeatAt := now, expiresAt := now + task.ttlMs }
        else state.lease }
  else state

def step (state : RunState) : RunAction → RunState
  | .leaseTaken row =>
    if state.Takes task row then
      { state with lease := row, lostBefore := state.lostBefore || !state.phase.isOver }
    else state
  | .accountEdited account => { state with account }
  | .abort => { state with aborted := true }
  | .tick =>
    if task.disableHeartbeat then state
    else { state with heartbeat := state.heartbeat.tick }
  | .beatReaches now => state.beatReaches task now
  | .beatAnswers now thrown =>
    { state with heartbeat := state.heartbeat.answered task.ttlMs now thrown }
  | .fetchAnswers answer =>
    match state.phase, answer with
    | .fetching, .ok fetched =>
      { state with phase := .checking fetched fetched.items emptyTally }
    | .fetching, .error err => { state with phase := .caught err }
    | _, _ => state
  | .itemWrites account =>
    match state.phase with
    | .ingesting _ _ _ _ =>
      { state with account, accountWrites := state.accountWrites ++ [.item] }
    | _ => state
  | .itemAnswers answer =>
    match state.phase with
    | .ingesting fetched item rest tally =>
      { state with phase := .checking fetched rest (tally.add item answer) }
    | _ => state
  | .proceed now => state.proceed task now
  | .throws message => state.throws task message

end RunState

/-- A run tells the truth about itself: one that is recorded as completed, or partly so, has
processed every item and written the account under its lease; a success has no errors; and one
that has lost its lease before its end has written nothing to the account, and is recorded as
interrupted. -/
structure RunState.Truthful (state : RunState) : Prop where
  complete : state.row.status = .completed ∨ state.row.status = .partialSuccess →
    state.row.created + state.row.updated + state.row.deduped + state.row.errors =
        state.row.fetched ∧
      .terminal true ∈ state.accountWrites
  completed : state.row.status = .completed → state.row.errors = 0
  success : ∀ report ∈ state.phase.report, report.verdict = .success →
    report.errors = 0 ∧ state.row.status = .completed
  unwritten : state.lostBefore = true → state.accountWrites = []
  interrupted : state.lostBefore = true → state.phase.isOver = true →
    state.row.status = .interrupted

def RunPhase.handling : RunPhase → Bool
  | .interrupting | .failing _ | .recording _ _ => true
  | _ => false

/-- What no step may do: lose the lease of a run that has written the account for an item, or
write the account for an item, record an error or fail to record anything after the loss. -/
def StepSound (state : RunState) : RunAction → Prop
  | .leaseTaken row =>
    state.Takes task row → state.phase.isOver = false → state.accountWrites = []
  | .itemWrites _ => (∃ fetched item rest tally,
      state.phase = .ingesting fetched item rest tally) → state.lostBefore = false
  | .proceed _ => (∃ err locked, state.phase = .recording err locked) → state.lostBefore = false
  | .throws _ => state.phase.handling = true → state.lostBefore = false
  | _ => True

namespace RunPhase

/-- What has been counted, as far as the run can still save it. -/
def Counted (gone : Bool) : RunPhase → Prop
  | .checking fetched rest tally => tally.total + rest.length = fetched.items.length
  | .ingesting fetched _ rest tally => tally.total + 1 + rest.length = fetched.items.length
  | .finishing fetched tally => gone = true ∨ tally.total = fetched.items.length
  | .saving fetched tally fencedOut => fencedOut = true ∨ tally.total = fetched.items.length
  | .locked fetched tally => tally.total = fetched.items.length
  | _ => True

variable {phase : RunPhase}

theorem Counted.mono {gone later : Bool} (counted : phase.Counted gone)
    (monotone : gone = true → later = true) : phase.Counted later := by
  cases phase with
  | finishing fetched tally => exact Or.imp_left monotone counted
  | _ => exact counted

theorem report_of_not_over (running : phase.isOver = false) : phase.report = none := by
  cases phase with
  | ended report => cases running
  | released report => cases running
  | _ => rfl

theorem not_over_of_locking (locking : phase.locking = true) : phase.isOver = false := by
  cases phase with
  | ended report => cases locking
  | released report => cases locking
  | _ => rfl

end RunPhase

theorem Tally.total_add (tally : Tally) (item : FetchedContent) (answer : ItemAnswer) :
    (tally.add item answer).total = tally.total + 1 := by
  cases answer with
  | done outcome => cases outcome <;> simp only [Tally.add, Tally.total] <;> omega
  | duplicateRace =>
    simp only [Tally.add, Tally.total]
    omega
  | failed =>
    simp only [Tally.add, Tally.total, List.length_append, List.length_singleton]
    omega

/-- The run knows of every loss but not when, and it never counts an item that it has not
processed. -/
structure RunState.Coherent (state : RunState) : Prop where
  lost : state.phase.isOver = false → state.lostBefore = !state.held task
  locked : state.phase.locking = true → state.held task = true
  running : state.phase.isOver = false → state.row.status = .running
  counted : state.phase.Counted (state.leaseGone task)

theorem coherent_start : (RunState.start task).Coherent task where
  lost _ := by simp [RunState.start, RunState.held, Lease.heldBy, SyncTask.handle]
  locked locking := by cases locking
  running _ := rfl
  counted := trivial

def RunAction.outside : RunAction → Bool
  | .accountEdited _ | .abort | .tick | .beatReaches _ | .beatAnswers _ _ => true
  | _ => false

section Steps

variable {task} {state next : RunState} {action : RunAction}

/-- Two states that differ in the account and the controller of the heartbeats only. -/
structure RunState.Alike (task : SyncTask) (state next : RunState) : Prop where
  phase : next.phase = state.phase
  row : next.row = state.row
  accountWrites : next.accountWrites = state.accountWrites
  lostBefore : next.lostBefore = state.lostBefore
  held : next.held task = state.held task
  gone : state.leaseGone task = true → next.leaseGone task = true

theorem Heartbeat.lost_tick (heartbeat : Heartbeat) : heartbeat.tick.lost = heartbeat.lost := by
  unfold Heartbeat.tick
  split <;> rfl

theorem Heartbeat.lost_answered {heartbeat : Heartbeat} (lost : heartbeat.lost = true)
    (ttlMs now : Int) (thrown : Bool) : (heartbeat.answered ttlMs now thrown).lost = true := by
  unfold Heartbeat.answered
  cases heartbeat.inFlight with
  | none => exact lost
  | some answer =>
    cases thrown with
    | true => simp [lost]
    | false =>
      match answer with
      | none => exact lost
      | some true => exact lost
      | some false => rfl

theorem alike_beatReaches (now : Int) : state.Alike task (state.beatReaches task now) := by
  unfold RunState.beatReaches
  split
  · refine ⟨rfl, rfl, rfl, rfl, ?_, id⟩
    cases holds : state.held task with
    | false => simpa [RunState.held] using holds
    | true =>
      cases row : state.lease with
      | none => simp [RunState.held, row] at holds
      | some lease => simpa [RunState.held, row, Lease.heldBy] using holds
  · exact ⟨rfl, rfl, rfl, rfl, rfl, id⟩

theorem alike_outside (outside : action.outside = true) :
    state.Alike task (state.step task action) := by
  cases action with
  | accountEdited account => exact ⟨rfl, rfl, rfl, rfl, rfl, id⟩
  | abort => exact ⟨rfl, rfl, rfl, rfl, rfl, fun _ => by simp [RunState.leaseGone, RunState.step]⟩
  | tick =>
    simp only [RunState.step]
    split
    · exact ⟨rfl, rfl, rfl, rfl, rfl, id⟩
    · refine ⟨rfl, rfl, rfl, rfl, rfl, fun gone => ?_⟩
      simpa [RunState.leaseGone, Heartbeat.lost_tick] using gone
  | beatReaches now => exact alike_beatReaches now
  | beatAnswers now thrown =>
    refine ⟨rfl, rfl, rfl, rfl, rfl, fun gone => ?_⟩
    simp only [RunState.leaseGone, RunState.step, Bool.or_eq_true] at gone ⊢
    exact gone.imp_left (Or.imp_left fun lost => Heartbeat.lost_answered lost ..)
  | _ => cases outside

theorem RunState.Coherent.of_alike (coherent : state.Coherent task)
    (alike : state.Alike task next) : next.Coherent task where
  lost := by
    rw [alike.phase, alike.lostBefore, alike.held]
    exact coherent.lost
  locked := by
    rw [alike.phase, alike.held]
    exact coherent.locked
  running := by
    rw [alike.phase, alike.row]
    exact coherent.running
  counted := by
    rw [alike.phase]
    exact coherent.counted.mono alike.gone

theorem RunState.Truthful.of_alike (truthful : state.Truthful) (alike : state.Alike task next) :
    next.Truthful := by
  obtain ⟨phase, row, accountWrites, lostBefore, -, -⟩ := alike
  exact
    { complete := by rw [row, accountWrites]; exact truthful.complete
      completed := by rw [row]; exact truthful.completed
      success := by rw [phase, row]; exact truthful.success
      unwritten := by rw [lostBefore, accountWrites]; exact truthful.unwritten
      interrupted := by rw [lostBefore, phase, row]; exact truthful.interrupted }

end Steps

section Steps

variable {task} {state : RunState} {action : RunAction}

theorem not_held_of_later {row : Option Lease}
    (later : ∀ lease ∈ row, task.lease.generation < lease.generation) :
    row.any (fun lease => lease.heldBy task.handle) = false := by
  cases row with
  | none => rfl
  | some lease =>
    have newer := later lease rfl
    have other : lease.generation ≠ task.lease.generation := by omega
    simp [Lease.heldBy, SyncTask.handle, other]

theorem coherent_of_over (isOver : state.phase.isOver = true) : state.Coherent task := by
  refine ⟨fun running => ?_, fun locking => ?_, fun running => ?_, ?_⟩
  · exact absurd (running.symm.trans isOver) (by decide)
  · exact absurd ((RunPhase.not_over_of_locking locking).symm.trans isOver) (by decide)
  · exact absurd (running.symm.trans isOver) (by decide)
  · cases phase : state.phase with
    | ended report => trivial
    | released report => trivial
    | _ => simp [phase, RunPhase.isOver] at isOver

theorem RunState.Coherent.moveTo (coherent : state.Coherent task)
    (running : state.phase.isOver = false) {phase : RunPhase}
    (locked : phase.locking = true → state.held task = true)
    (counted : phase.Counted (state.leaseGone task)) :
    { state with phase := phase }.Coherent task where
  lost _ := coherent.lost running
  locked := locked
  running _ := coherent.running running
  counted := counted

theorem coherent_leaseTaken (coherent : state.Coherent task) (row : Option Lease) :
    (state.step task (.leaseTaken row)).Coherent task := by
  simp only [RunState.step]
  split
  next takes =>
    refine ⟨fun running => ?_, fun locking => ?_, coherent.running, coherent.counted⟩
    · have gone := not_held_of_later takes.2
      simp_all [RunState.held]
    · exact absurd (locking.symm.trans takes.1) (by decide)
  next => exact coherent

theorem commitInterrupted_over (fetched : FetchResult) (tally : Tally) :
    (state.commitInterrupted task fetched tally).phase.isOver = true :=
  rfl

theorem commitRead_over (fetched : FetchResult) (tally : Tally) (now : Int) :
    (state.commitRead task fetched tally now).phase.isOver = true := by
  unfold RunState.commitRead
  split <;> rfl

theorem commitError_over (err : SyncError) (locked : Bool) (now : Int) :
    (state.commitError task err locked now).phase.isOver = true := by
  unfold RunState.commitError
  dsimp only
  split <;> rfl

theorem coherent_proceed (coherent : state.Coherent task) (now : Int) :
    (state.proceed task now).Coherent task := by
  have counted := coherent.counted
  have moved := coherent.moveTo
  unfold RunState.proceed
  split
  next fetched item rest tally phase =>
    simp only [phase] at counted moved
    split
    next gone => exact moved rfl nofun (.inl gone)
    next =>
      refine moved rfl nofun ?_
      simpa [RunPhase.Counted, Nat.add_assoc, Nat.add_comm 1] using counted
  next fetched tally phase =>
    simp only [phase] at counted moved
    exact moved rfl nofun (.inr counted)
  next fetched tally phase =>
    simp only [phase] at counted moved
    exact moved rfl nofun counted
  next fetched tally fencedOut phase =>
    simp only [phase] at counted moved
    split
    next granted =>
      simp only [Bool.and_eq_true, Bool.not_eq_true'] at granted
      refine moved rfl (fun _ => granted.2) ?_
      exact counted.resolve_left (by simp [granted.1])
    next => exact moved rfl nofun trivial
  next fetched tally phase => exact coherent_of_over (commitRead_over ..)
  next fetched tally phase => exact coherent_of_over (commitInterrupted_over ..)
  next err phase =>
    simp only [phase] at moved
    split <;> exact moved rfl nofun trivial
  next phase => exact coherent_of_over rfl
  next err phase =>
    simp only [phase] at moved
    refine moved rfl (fun locking => ?_) trivial
    cases holds : state.held task with
    | true => rfl
    | false => simp [holds, RunPhase.locking] at locking
  next err locked phase => exact coherent_of_over (commitError_over ..)
  next report phase => exact coherent_of_over rfl
  · exact coherent
  · exact coherent
  · exact coherent

theorem coherent_throws (coherent : state.Coherent task) (message : String) :
    (state.throws task message).Coherent task := by
  have moved := coherent.moveTo
  unfold RunState.throws
  split
  next phase =>
    simp only [phase] at moved
    exact moved rfl nofun trivial
  next phase =>
    simp only [phase] at moved
    exact moved rfl nofun trivial
  next phase =>
    simp only [phase] at moved
    exact moved rfl nofun trivial
  next => exact coherent_of_over rfl
  next => exact coherent_of_over rfl
  next => exact coherent_of_over rfl
  next => exact coherent

theorem coherent_step (coherent : state.Coherent task) :
    (state.step task action).Coherent task := by
  have counted := coherent.counted
  have moved := coherent.moveTo
  cases action with
  | leaseTaken row => exact coherent_leaseTaken coherent row
  | fetchAnswers answer =>
    simp only [RunState.step]
    split
    next fetched phase =>
      simp only [phase] at moved
      refine moved rfl nofun ?_
      simp [RunPhase.Counted, Tally.total, emptyTally]
    next err phase =>
      simp only [phase] at moved
      exact moved rfl nofun trivial
    next => exact coherent
  | itemWrites account =>
    simp only [RunState.step]
    split
    next phase =>
      obtain ⟨lost, locked, running, counted⟩ := coherent
      exact ⟨lost, locked, running, counted⟩
    next => exact coherent
  | itemAnswers answer =>
    simp only [RunState.step]
    split
    next fetched item rest tally phase =>
      simp only [phase] at counted moved
      refine moved rfl nofun ?_
      simpa [RunPhase.Counted, Tally.total_add] using counted
    next => exact coherent
  | proceed now => exact coherent_proceed coherent now
  | throws message => exact coherent_throws coherent message
  | _ => exact coherent.of_alike (alike_outside rfl)

end Steps

section Truth

variable {task} {state : RunState} {action : RunAction}

theorem truthful_iff_of_running (running : state.phase.isOver = false)
    (status : state.row.status = .running) :
    state.Truthful ↔ (state.lostBefore = true → state.accountWrites = []) := by
  constructor
  · exact fun truthful => truthful.unwritten
  · intro unwritten
    exact
      { complete := by simp [status]
        completed := by simp [status]
        success := by simp [RunPhase.report_of_not_over running]
        unwritten := unwritten
        interrupted := by simp [running] }

theorem RunState.Truthful.moveTo (truthful : state.Truthful) (coherent : state.Coherent task)
    (running : state.phase.isOver = false) {phase : RunPhase} (later : phase.isOver = false) :
    { state with phase := phase }.Truthful :=
  (@truthful_iff_of_running { state with phase := phase } later (coherent.running running)).2
    truthful.unwritten

theorem truthful_iff_of_unsuccessful (isOver : state.phase.isOver = true)
    (status : state.row.status.succeeded = false)
    (verdict : ∀ report ∈ state.phase.report, report.verdict ≠ .success)
    (unwritten : state.lostBefore = true → state.accountWrites = []) :
    state.Truthful ↔ (state.lostBefore = true → state.row.status = .interrupted) := by
  constructor
  · exact fun truthful lost => truthful.interrupted lost isOver
  · intro interrupted
    refine ⟨?_, ?_, ?_, unwritten, fun lost _ => interrupted lost⟩
    · rintro (completed | partly)
      · simp [completed, SyncRunStatus.succeeded] at status
      · simp [partly, SyncRunStatus.succeeded] at status
    · intro completed
      simp [completed, SyncRunStatus.succeeded] at status
    · exact fun report given success => absurd success (verdict report given)

theorem truthful_commitInterrupted (truthful : state.Truthful) (fetched : FetchResult)
    (tally : Tally) : (state.commitInterrupted task fetched tally).Truthful := by
  refine (@truthful_iff_of_unsuccessful (state.commitInterrupted task fetched tally) rfl rfl ?_
    truthful.unwritten).2 fun _ => rfl
  rintro report ⟨⟩
  exact nofun

theorem verdict_success_iff (tally : Tally) :
    tally.verdict = .success ↔ tally.failed.length = 0 := by
  unfold Tally.verdict
  split_ifs with none some <;> simp [none]

theorem runStatus_completed_iff (verdict : SyncVerdict) :
    verdict.runStatus = .completed ↔ verdict = .success := by
  cases verdict <;> simp [SyncVerdict.runStatus]

theorem truthful_commitRead (truthful : state.Truthful) {fetched : FetchResult} {tally : Tally}
    (held : state.held task = true) (kept : state.lostBefore = false)
    (counted : tally.total = fetched.items.length) (now : Int) :
    (state.commitRead task fetched tally now).Truthful := by
  unfold RunState.commitRead
  split
  · exact truthful_commitInterrupted truthful fetched tally
  · have errors : tally.verdict.runStatus = .completed → tally.failed.length = 0 := fun completed =>
      (verdict_success_iff tally).1 ((runStatus_completed_iff _).1 completed)
    refine ⟨fun _ => ⟨counted, ?_⟩, errors, ?_, ?_, ?_⟩
    · exact List.mem_append_right _ (List.mem_singleton.2 (by rw [held]))
    · rintro report ⟨⟩ success
      exact ⟨(verdict_success_iff tally).1 success, (runStatus_completed_iff _).2 success⟩
    · exact fun lost => absurd (lost.symm.trans kept) (by decide)
    · exact fun lost => absurd (lost.symm.trans kept) (by decide)

theorem runStatus_ne_interrupted (err : SyncError) : err.runStatus ≠ .interrupted := by
  cases err <;> exact nofun

theorem runStatus_not_succeeded (err : SyncError) : err.runStatus.succeeded = false := by
  cases err <;> rfl

section

variable (truthful : state.Truthful) (coherent : state.Coherent task)
include truthful coherent

theorem truthful_commitError_iff {err : SyncError} {locked : Bool}
    (phase : state.phase = .recording err locked) (now : Int) :
    (state.commitError task err locked now).Truthful ↔ state.lostBefore = false := by
  have lost := coherent.lost
  have granted := coherent.locked
  rw [phase] at lost granted
  have status : (state.commitError task err locked now).row.status = err.runStatus := by
    unfold RunState.commitError
    dsimp only
    split <;> rfl
  have loss : (state.commitError task err locked now).lostBefore = state.lostBefore := by
    unfold RunState.commitError
    dsimp only
    split <;> rfl
  have report : (state.commitError task err locked now).phase.report =
      some (failedReport task.useMock err) := by
    unfold RunState.commitError
    dsimp only
    split <;> rfl
  have unwritten : (state.commitError task err locked now).lostBefore = true →
      (state.commitError task err locked now).accountWrites = [] := by
    rw [loss]
    intro gone
    have released : locked = false := by
      cases locked with
      | false => rfl
      | true => simp [gone, granted rfl, RunPhase.isOver] at lost
    simpa [RunState.commitError, released] using truthful.unwritten gone
  rw [truthful_iff_of_unsuccessful (commitError_over err locked now)
    (status ▸ runStatus_not_succeeded err) ?_ unwritten, loss, status]
  · cases state.lostBefore <;> simp [runStatus_ne_interrupted]
  · rw [report]
    rintro _ ⟨⟩
    exact nofun

theorem truthful_leaseTaken_iff (row : Option Lease) :
    (state.step task (.leaseTaken row)).Truthful ↔ StepSound task state (.leaseTaken row) := by
  simp only [RunState.step, StepSound]
  split
  next takes =>
    cases running : state.phase.isOver with
    | true =>
      refine iff_of_true ?_ (by simp)
      simpa using ({ truthful with } : ({ state with lease := row } : RunState).Truthful)
    | false =>
      rw [@truthful_iff_of_running { state with lease := row, lostBefore := _ } running
        (coherent.running running)]
      simp [takes]
  next kept => exact iff_of_true truthful fun takes => absurd takes kept

theorem truthful_itemWrites_iff (account : SyncAccount) :
    (state.step task (.itemWrites account)).Truthful ↔
      StepSound task state (.itemWrites account) := by
  simp only [RunState.step, StepSound]
  split
  next fetched item rest tally phase =>
    have running : state.phase.isOver = false := by rw [phase]; rfl
    rw [@truthful_iff_of_running
      { state with account := account, accountWrites := state.accountWrites ++ [.item] } running
      (coherent.running running)]
    simp [phase]
  next other =>
    refine iff_of_true truthful ?_
    rintro ⟨fetched, item, rest, tally, phase⟩
    exact absurd phase (other fetched item rest tally)

theorem truthful_proceed_iff (now : Int) :
    (state.proceed task now).Truthful ↔ StepSound task state (.proceed now) := by
  have moved := truthful.moveTo coherent
  have kept : (∀ err locked, state.phase ≠ .recording err locked) →
      StepSound task state (.proceed now) := by
    rintro other ⟨err, locked, phase⟩
    exact absurd phase (other err locked)
  unfold RunState.proceed
  split
  next phase =>
    simp only [phase] at moved kept
    split <;> exact iff_of_true (moved rfl rfl) (kept nofun)
  next phase =>
    simp only [phase] at moved kept
    exact iff_of_true (moved rfl rfl) (kept nofun)
  next phase =>
    simp only [phase] at moved kept
    exact iff_of_true (moved rfl rfl) (kept nofun)
  next phase =>
    simp only [phase] at moved kept
    split <;> exact iff_of_true (moved rfl rfl) (kept nofun)
  next fetched tally phase =>
    have counted := coherent.counted
    have held := coherent.locked
    have lost := coherent.lost
    simp only [phase] at counted held lost kept
    refine iff_of_true (truthful_commitRead truthful (held rfl) ?_ counted now) (kept nofun)
    simp [lost rfl, held rfl]
  next phase =>
    simp only [phase] at kept
    exact iff_of_true (truthful_commitInterrupted truthful ..) (kept nofun)
  next phase =>
    simp only [phase] at moved kept
    split <;> exact iff_of_true (moved rfl rfl) (kept nofun)
  next phase =>
    simp only [phase] at kept
    refine iff_of_true ?_ (kept nofun)
    refine (@truthful_iff_of_unsuccessful
      { state with
        row := { state.row with status := .interrupted, errors := 0 }
        phase := .ended (some (RunState.interruptedByError task)) }
      rfl rfl ?_ truthful.unwritten).2 fun _ => rfl
    rintro report ⟨⟩
    exact nofun
  next phase =>
    simp only [phase] at moved kept
    refine iff_of_true (moved rfl ?_) (kept nofun)
    rfl
  next err locked phase =>
    rw [truthful_commitError_iff truthful coherent phase now]
    simp [StepSound, phase]
  next report phase =>
    simp only [phase] at kept
    refine iff_of_true ?_ (kept nofun)
    obtain ⟨complete, completed, success, unwritten, interrupted⟩ := truthful
    rw [phase] at success interrupted
    exact ⟨complete, completed, success, unwritten, interrupted⟩
  next phase =>
    simp only [phase] at kept
    exact iff_of_true truthful (kept nofun)
  next phase =>
    simp only [phase] at kept
    exact iff_of_true truthful (kept nofun)
  next phase =>
    simp only [phase] at kept
    exact iff_of_true truthful (kept nofun)

end

theorem truthful_unrecorded_iff (truthful : state.Truthful) (running : state.row.status = .running)
    {report : Option SyncReport} (verdict : ∀ given ∈ report, given.verdict ≠ .success) :
    { state with phase := .ended report }.Truthful ↔ state.lostBefore = false := by
  have status : state.row.status.succeeded = false := by
    rw [running]
    rfl
  refine (@truthful_iff_of_unsuccessful { state with phase := .ended report } rfl status verdict
    truthful.unwritten).trans ?_
  cases state.lostBefore <;> simp [running]

theorem truthful_throws_iff (truthful : state.Truthful) (coherent : state.Coherent task)
    (message : String) :
    (state.throws task message).Truthful ↔ StepSound task state (.throws message) := by
  have moved := truthful.moveTo coherent
  have running := coherent.running
  unfold RunState.throws
  split
  next phase =>
    simp only [phase] at moved
    exact iff_of_true (moved rfl rfl) (by simp [StepSound, phase, RunPhase.handling])
  next phase =>
    simp only [phase] at moved
    exact iff_of_true (moved rfl rfl) (by simp [StepSound, phase, RunPhase.handling])
  next phase =>
    simp only [phase] at moved
    exact iff_of_true (moved rfl rfl) (by simp [StepSound, phase, RunPhase.handling])
  next phase =>
    simp only [phase] at running
    rw [truthful_unrecorded_iff truthful (running rfl) (by rintro _ ⟨⟩; exact nofun)]
    simp [StepSound, phase, RunPhase.handling]
  next phase =>
    simp only [phase] at running
    rw [truthful_unrecorded_iff truthful (running rfl) (by rintro _ ⟨⟩)]
    simp [StepSound, phase, RunPhase.handling]
  next phase =>
    simp only [phase] at running
    rw [truthful_unrecorded_iff truthful (running rfl) (by rintro _ ⟨⟩)]
    simp [StepSound, phase, RunPhase.handling]
  next unsaved unlocked unfenced calm unfailing unrecorded =>
    refine iff_of_true truthful fun handling => ?_
    cases phase : state.phase with
    | interrupting => exact absurd phase calm
    | failing err => exact absurd phase (unfailing err)
    | recording err locked => exact absurd phase (unrecorded err locked)
    | _ => simp [phase, RunPhase.handling] at handling

theorem truthful_step_iff (coherent : state.Coherent task) (truthful : state.Truthful) :
    (state.step task action).Truthful ↔ StepSound task state action := by
  have moved := truthful.moveTo coherent
  cases action with
  | leaseTaken row => exact truthful_leaseTaken_iff truthful coherent row
  | itemWrites account => exact truthful_itemWrites_iff truthful coherent account
  | proceed now => exact truthful_proceed_iff truthful coherent now
  | throws message => exact truthful_throws_iff truthful coherent message
  | fetchAnswers answer =>
    refine iff_of_true ?_ trivial
    simp only [RunState.step]
    split
    next phase =>
      simp only [phase] at moved
      exact moved rfl rfl
    next phase =>
      simp only [phase] at moved
      exact moved rfl rfl
    next => exact truthful
  | itemAnswers answer =>
    refine iff_of_true ?_ trivial
    simp only [RunState.step]
    split
    next phase =>
      simp only [phase] at moved
      exact moved rfl rfl
    next => exact truthful
  | _ => exact iff_of_true (truthful.of_alike (alike_outside rfl)) trivial

end Truth

theorem truthful_start : (RunState.start task).Truthful :=
  (@truthful_iff_of_running (RunState.start task) rfl rfl).2 nofun

/-- A run that no item has written the account for, and that records no error after its loss, is
reported truthfully in every order of the steps, and no other run is. -/
theorem runs_truthful_iff (actions : List RunAction) :
    (∀ reached ∈ Runs.states (RunState.step task) (RunState.start task) actions,
        reached.Truthful) ↔
      Runs.Meets (RunState.step task) (StepSound task) (RunState.start task) actions :=
  @Runs.forall_states_iff_meets _ _ _ (StepSound task) RunState.Truthful _ (RunState.Coherent task)
    coherent_step truthful_step_iff actions (coherent_start task) (truthful_start task)

/-! A takeover that the heartbeats have not noticed, and a read that then fails. -/

def overtakenTask : SyncTask where
  lease := ⟨"lease", "worker-1", 1, 0, 300000, 0⟩
  account := freshInstagram
  ttlMs := 300000
  useMock := false
  disableHeartbeat := true
  simulateLeaseLost := false

def overtakenActions : List RunAction :=
  [.leaseTaken (some ⟨"lease", "worker-2", 2, 300001, 600001, 300001⟩),
    .fetchAnswers (.error (.rateLimited "Instagram API rate limit reached." none)),
    .proceed 300002, .proceed 300003, .proceed 300004]

/-- The run is recorded as limited, and not as interrupted. -/
theorem not_runs_truthful :
    ¬ ∀ reached ∈ Runs.states (RunState.step overtakenTask) (RunState.start overtakenTask)
      overtakenActions, reached.Truthful := by
  intro truthful
  have last := truthful _ (Runs.run_mem_states overtakenActions)
  exact nomatch last.interrupted rfl rfl

end Tamanor.Sync
