import Mathlib.Data.List.Induction

/-! Concurrent transactions under READ COMMITTED. A statement sees the latest
committed rows and its own writes; an update takes the lock of its row and keeps
it until the transaction ends, so that another update of the row waits. Updates
are commands, and the commands of a committed transaction enter a log. There is one
sequence; the numbers drawn from it are not given back by a rollback. -/

set_option autoImplicit false

namespace Tamanor.Library.ReadCommitted

variable {κ γ σ ι τ : Type} {ν : κ → Type}

/-- What a transaction does next. An update that finds no row touches nothing; it may
draw numbers from the sequence. -/
inductive Statement (γ σ : Type) where
  | proceed (next : σ)
  | update (command : γ) (drawn : Nat) (next : σ)
  | commit
  | rollback

/-- The commands, and the code of the transactions: a call enters at a local state,
and the next statement follows from that state, from what the transaction sees and
from the last number drawn. -/
structure System (κ : Type) (ν : κ → Type) (γ σ ι : Type) where
  target : γ → κ
  effect : γ → (key : κ) → ν key → ν key
  enter : ι → σ
  next : σ → ((key : κ) → Option (ν key)) → Nat → Statement γ σ

structure Session (κ : Type) (ν : κ → Type) (γ σ : Type) where
  state : σ
  writes : (key : κ) → Option (ν key)
  log : List γ

structure Database (κ : Type) (ν : κ → Type) (γ σ τ : Type) where
  rows : (key : κ) → Option (ν key)
  locks : κ → Option τ
  sessions : τ → Option (Session κ ν γ σ)
  log : List γ
  sequence : Nat

/-- Any order of actions is a run; `abort` is a crash or a timeout, `draw` is someone
else's use of the sequence. -/
inductive Action (ι τ : Type) where
  | start (tx : τ) (call : ι)
  | exec (tx : τ)
  | abort (tx : τ)
  | draw

def Session.opened (state : σ) : Session κ ν γ σ := ⟨state, fun _ => none, []⟩

def Session.view (session : Session κ ν γ σ) (rows : (key : κ) → Option (ν key)) (key : κ) :
    Option (ν key) :=
  session.writes key <|> rows key

def Database.opened (rows : (key : κ) → Option (ν key)) (sequence : Nat) : Database κ ν γ σ τ :=
  ⟨rows, fun _ => none, fun _ => none, [], sequence⟩

variable [DecidableEq κ] [DecidableEq τ]

def Database.setSession (db : Database κ ν γ σ τ) (tx : τ) (session : Session κ ν γ σ) :
    Database κ ν γ σ τ :=
  { db with sessions := Function.update db.sessions tx (some session) }

def Database.close (db : Database κ ν γ σ τ) (tx : τ) : Database κ ν γ σ τ :=
  { db with
    locks := fun key => if db.locks key = some tx then none else db.locks key
    sessions := Function.update db.sessions tx none }

def Database.commit (db : Database κ ν γ σ τ) (tx : τ) (session : Session κ ν γ σ) :
    Database κ ν γ σ τ :=
  { db.close tx with
    rows := session.view db.rows
    log := db.log ++ session.log }

variable (system : System κ ν γ σ ι)

def Session.statement (session : Session κ ν γ σ) (db : Database κ ν γ σ τ) : Statement γ σ :=
  system.next session.state (session.view db.rows) db.sequence

/-- The row is free, or locked by the transaction itself. -/
def Database.Available (db : Database κ ν γ σ τ) (tx : τ) (key : κ) : Prop :=
  db.locks key = none ∨ db.locks key = some tx

instance (db : Database κ ν γ σ τ) (tx : τ) (key : κ) : Decidable (db.Available tx key) :=
  inferInstanceAs (Decidable (_ ∨ _))

def Session.issue (session : Session κ ν γ σ) (command : γ) (next : σ) :
    Option (ν (system.target command)) → Session κ ν γ σ
  | none => { session with state := next, log := session.log ++ [command] }
  | some row =>
    { state := next
      writes := Function.update session.writes (system.target command)
        (some (system.effect command _ row))
      log := session.log ++ [command] }

def Database.update (db : Database κ ν γ σ τ) (tx : τ) (session : Session κ ν γ σ) (command : γ)
    (drawn : Nat) (next : σ) : Database κ ν γ σ τ :=
  let found := session.view db.rows (system.target command)
  let issued :=
    { db.setSession tx (session.issue system command next found) with
      sequence := db.sequence + drawn }
  if found.isSome then
    { issued with locks := Function.update db.locks (system.target command) (some tx) }
  else issued

/-- An action that is not possible, such as an update that has to wait, changes nothing. -/
def Database.step (db : Database κ ν γ σ τ) : Action ι τ → Database κ ν γ σ τ
  | .start tx call =>
    match db.sessions tx with
    | none => db.setSession tx (.opened (system.enter call))
    | some _ => db
  | .abort tx => db.close tx
  | .draw => { db with sequence := db.sequence + 1 }
  | .exec tx =>
    match db.sessions tx with
    | none => db
    | some session =>
      match session.statement system db with
      | .proceed next => db.setSession tx { session with state := next }
      | .update command drawn next =>
        if db.Available tx (system.target command) then
          db.update system tx session command drawn next
        else db
      | .commit => db.commit tx session
      | .rollback => db.close tx

def Database.run (db : Database κ ν γ σ τ) (actions : List (Action ι τ)) : Database κ ν γ σ τ :=
  actions.foldl (Database.step system) db

def Statement.command? : Statement γ σ → Option γ
  | .update command _ _ => some command
  | _ => none

abbrev Guard (κ : Type) (ν : κ → Type) (γ : Type) := γ → (key : κ) → Option (ν key) → Prop

/-- The update that the action performs, if it performs one, finds what the guard asks for. -/
def Database.Permits (guard : Guard κ ν γ) (db : Database κ ν γ σ τ) : Action ι τ → Prop
  | .exec tx =>
    ∀ session ∈ db.sessions tx,
      ∀ command ∈ (session.statement system db).command?,
        db.Available tx (system.target command) →
          guard command (system.target command) (session.view db.rows (system.target command))
  | _ => True

def Database.Guarded (guard : Guard κ ν γ) : Database κ ν γ σ τ → List (Action ι τ) → Prop
  | _, [] => True
  | db, action :: actions =>
    db.Permits system guard action ∧ (db.step system action).Guarded guard actions

instance (guard : Guard κ ν γ) [∀ command key row, Decidable (guard command key row)]
    (db : Database κ ν γ σ τ) : (action : Action ι τ) → Decidable (db.Permits system guard action)
  | .start _ _ => inferInstanceAs (Decidable True)
  | .abort _ => inferInstanceAs (Decidable True)
  | .draw => inferInstanceAs (Decidable True)
  | .exec tx => inferInstanceAs (Decidable (∀ session ∈ db.sessions tx, _))

instance decidableGuarded (guard : Guard κ ν γ)
    [∀ command key row, Decidable (guard command key row)] :
    (actions : List (Action ι τ)) → (db : Database κ ν γ σ τ) →
      Decidable (db.Guarded system guard actions)
  | [], _ => inferInstanceAs (Decidable True)
  | action :: actions, db =>
    haveI := decidableGuarded guard actions (db.step system action)
    inferInstanceAs (Decidable (_ ∧ _))

def replay (commands : List γ) (key : κ) (row : Option (ν key)) : Option (ν key) :=
  commands.foldl (fun row command =>
    if system.target command = key then row.map (system.effect command key) else row) row

section Replay

variable {system} {key : κ} {row : Option (ν key)}

@[simp] theorem replay_nil : replay system [] key row = row := rfl

theorem replay_append (first second : List γ) :
    replay system (first ++ second) key row =
      replay system second key (replay system first key row) := by
  simp [replay, List.foldl_append]

theorem replay_append_singleton (commands : List γ) (command : γ) :
    replay system (commands ++ [command]) key row =
      if system.target command = key then
        (replay system commands key row).map (system.effect command key)
      else replay system commands key row := by
  simp [replay]

@[simp] theorem replay_none (commands : List γ) :
    replay system commands key (none : Option (ν key)) = none := by
  induction commands with
  | nil => rfl
  | cons command commands ih =>
    rw [← List.singleton_append, replay_append]
    simpa [replay] using ih

theorem replay_induction (system : System κ ν γ σ ι) (key : κ) (Kept : ν key → Prop)
    {start : ν key} (kept : Kept start) (commands : List γ)
    (step : ∀ command ∈ commands, ∀ row, Kept row → Kept (system.effect command key row)) :
    ∃ row, replay system commands key (some start) = some row ∧ Kept row := by
  induction commands using List.reverseRecOn with
  | nil => exact ⟨start, rfl, kept⟩
  | append_singleton commands command ih =>
    obtain ⟨row, replayed, keptRow⟩ := ih fun other member =>
      step other (List.mem_append_left _ member)
    rw [replay_append_singleton, replayed]
    split
    · exact ⟨_, rfl, step command (by simp) row keptRow⟩
    · exact ⟨row, rfl, keptRow⟩

theorem replay_untouched {commands : List γ}
    (untouched : ∀ command ∈ commands, system.target command ≠ key) :
    replay system commands key row = row := by
  induction commands using List.reverseRecOn with
  | nil => rfl
  | append_singleton commands command ih =>
    rw [replay_append_singleton, if_neg (untouched command (by simp))]
    exact ih fun other member => untouched other (List.mem_append_left _ member)

end Replay

section Steps

variable {system} {guard : Guard κ ν γ} {db : Database κ ν γ σ τ}

inductive Database.Steps (system : System κ ν γ σ ι) (guard : Guard κ ν γ)
    (db : Database κ ν γ σ τ) : Database κ ν γ σ τ → Prop where
  | idle : Steps system guard db db
  | start {tx call} (free : db.sessions tx = none) :
      Steps system guard db (db.setSession tx (.opened (system.enter call)))
  | close {tx} : Steps system guard db (db.close tx)
  | draw : Steps system guard db { db with sequence := db.sequence + 1 }
  | proceed {tx session next} (found : db.sessions tx = some session)
      (code : session.statement system db = .proceed next) :
      Steps system guard db (db.setSession tx { session with state := next })
  | update {tx session command drawn next} (found : db.sessions tx = some session)
      (code : session.statement system db = .update command drawn next)
      (available : db.Available tx (system.target command))
      (permitted : guard command (system.target command)
        (session.view db.rows (system.target command))) :
      Steps system guard db (db.update system tx session command drawn next)
  | commit {tx session} (found : db.sessions tx = some session)
      (code : session.statement system db = .commit) :
      Steps system guard db (db.commit tx session)

theorem Database.steps {action : Action ι τ} (permits : db.Permits system guard action) :
    db.Steps system guard (db.step system action) := by
  cases action with
  | start tx call =>
    cases found : db.sessions tx with
    | none =>
      simp only [step, found]
      exact .start found
    | some session =>
      simp only [step, found]
      exact .idle
  | abort tx => exact .close
  | draw => exact .draw
  | exec tx =>
    cases found : db.sessions tx with
    | none =>
      simp only [step, found]
      exact .idle
    | some session =>
      cases code : session.statement system db with
      | proceed next =>
        simp only [step, found, code]
        exact .proceed found code
      | commit =>
        simp only [step, found, code]
        exact .commit found code
      | rollback =>
        simp only [step, found, code]
        exact .close
      | update command drawn next =>
        simp only [step, found, code]
        split
        next available =>
          have issues : command ∈ (session.statement system db).command? := by
            rw [code]
            rfl
          exact .update found code available (permits session found command issues available)
        next => exact .idle

theorem Database.guarded_true (actions : List (Action ι τ)) :
    db.Guarded system (fun _ _ _ => True) actions := by
  induction actions generalizing db with
  | nil => trivial
  | cons action actions ih =>
    refine ⟨?_, ih⟩
    cases action with
    | start tx call | abort tx | draw => trivial
    | exec tx =>
      intro session found command issues available
      trivial

theorem Database.run_invariant {Invariant : Database κ ν γ σ τ → Prop}
    (kept : ∀ {before after}, Invariant before → before.Steps system guard after → Invariant after)
    {actions : List (Action ι τ)} (start : Invariant db)
    (guarded : db.Guarded system guard actions) : Invariant (db.run system actions) := by
  induction actions generalizing db with
  | nil => exact start
  | cons action actions ih =>
    obtain ⟨permits, rest⟩ := guarded
    exact ih (kept start (Database.steps permits)) rest

end Steps

/-! Row locks make the committed rows the replay of the committed commands. -/

section Locking

variable {system} {guard : Guard κ ν γ} {initial rows : (key : κ) → Option (ν key)}
  {session stored : Session κ ν γ σ} {db after : Database κ ν γ σ τ} {tx other : τ}

structure Session.Consistent (system : System κ ν γ σ ι) (rows : (key : κ) → Option (ν key))
    (session : Session κ ν γ σ) : Prop where
  written : ∀ {key row}, session.writes key = some row →
    replay system session.log key (rows key) = some row
  unwritten : ∀ {key}, session.writes key = none →
    rows key = none ∨ ∀ command ∈ session.log, system.target command ≠ key

structure Database.Sound (system : System κ ν γ σ ι) (initial : (key : κ) → Option (ν key))
    (db : Database κ ν γ σ τ) : Prop where
  committed : ∀ key, db.rows key = replay system db.log key (initial key)
  locked : ∀ {tx session key}, db.sessions tx = some session → session.writes key ≠ none →
    db.locks key = some tx
  consistent : ∀ {tx session}, db.sessions tx = some session → session.Consistent system db.rows

theorem Session.Consistent.view (consistent : session.Consistent system rows) (key : κ) :
    session.view rows key = replay system session.log key (rows key) := by
  unfold Session.view
  cases written : session.writes key with
  | some row =>
    rw [consistent.written written]
    rfl
  | none =>
    rcases consistent.unwritten written with absent | untouched
    · rw [absent, replay_none]
      rfl
    · rw [replay_untouched untouched]
      rfl

theorem Session.Consistent.transfer {changed : (key : κ) → Option (ν key)}
    (consistent : session.Consistent system rows)
    (agree : ∀ {key}, session.writes key ≠ none → changed key = rows key)
    (absent : ∀ {key}, rows key = none → changed key = none) :
    session.Consistent system changed where
  written := by
    intro key row written
    rw [agree (by simp [written])]
    exact consistent.written written
  unwritten := by
    intro key unwritten
    rcases consistent.unwritten unwritten with missing | untouched
    · exact .inl (absent missing)
    · exact .inr untouched

theorem Session.issue_log (command : γ) (next : σ) (row : Option (ν (system.target command))) :
    (session.issue system command next row).log = session.log ++ [command] := by
  cases row <;> rfl

theorem Session.issue_state (command : γ) (next : σ) (row : Option (ν (system.target command))) :
    (session.issue system command next row).state = next := by
  cases row <;> rfl

variable {command : γ} {next : σ} {key : κ}

theorem Session.issue_writes_of_ne {row : Option (ν (system.target command))}
    (different : key ≠ system.target command) :
    (session.issue system command next row).writes key = session.writes key := by
  cases row with
  | none => rfl
  | some row => exact Function.update_of_ne different _ _

theorem Session.issue_writes_target (system : System κ ν γ σ ι) (command : γ) (next : σ) :
    (session.issue system command next (session.view rows (system.target command))).writes
        (system.target command) =
      (session.view rows (system.target command)).map (system.effect command _) := by
  cases seen : session.view rows (system.target command) with
  | none =>
    cases written : session.writes (system.target command) with
    | none => exact written
    | some row => simp [Session.view, written] at seen
  | some row => exact Function.update_self ..

theorem Session.Consistent.issue (consistent : session.Consistent system rows) (command : γ)
    (next : σ) :
    (session.issue system command next (session.view rows (system.target command))).Consistent
      system rows where
  written := by
    intro key row written
    rw [Session.issue_log, replay_append_singleton]
    by_cases hit : key = system.target command
    · subst hit
      rw [if_pos rfl, ← consistent.view, ← written, Session.issue_writes_target]
    · rw [Session.issue_writes_of_ne hit] at written
      rw [if_neg (Ne.symm hit)]
      exact consistent.written written
  unwritten := by
    intro key unwritten
    rw [Session.issue_log]
    by_cases hit : key = system.target command
    · subst hit
      rw [Session.issue_writes_target, Option.map_eq_none_iff] at unwritten
      refine .inl ?_
      cases written : session.writes (system.target command) with
      | none => simpa [Session.view, written] using unwritten
      | some row => simp [Session.view, written] at unwritten
    · rw [Session.issue_writes_of_ne hit] at unwritten
      rcases consistent.unwritten unwritten with absent | untouched
      · exact .inl absent
      · refine .inr fun issued member => ?_
        rcases List.mem_append.mp member with old | new
        · exact untouched issued old
        · rw [List.mem_singleton.mp new]
          exact Ne.symm hit

omit [DecidableEq τ] in
theorem Database.Sound.opened (sequence : Nat) :
    (Database.opened initial sequence : Database κ ν γ σ τ).Sound system initial where
  committed _ := rfl
  locked found := by cases found
  consistent found := by cases found

omit [DecidableEq κ] in
theorem Database.setSession_sessions (found : (db.setSession tx session).sessions other = some stored) :
    (other = tx ∧ stored = session) ∨ (other ≠ tx ∧ db.sessions other = some stored) := by
  by_cases same : other = tx
  · subst same
    simp only [Database.setSession, Function.update_self] at found
    cases found
    exact .inl ⟨rfl, rfl⟩
  · simp only [Database.setSession, Function.update_of_ne same] at found
    exact .inr ⟨same, found⟩

theorem Database.Sound.setSession (sound : db.Sound system initial)
    (consistent : session.Consistent system db.rows)
    (locked : ∀ {key}, session.writes key ≠ none → db.locks key = some tx) :
    (db.setSession tx session).Sound system initial where
  committed := sound.committed
  locked := by
    intro other stored key found writes
    rcases Database.setSession_sessions found with ⟨rfl, rfl⟩ | ⟨-, found⟩
    · exact locked writes
    · exact sound.locked found writes
  consistent := by
    intro other stored found
    rcases Database.setSession_sessions found with ⟨rfl, rfl⟩ | ⟨-, found⟩
    · exact consistent
    · exact sound.consistent found

omit [DecidableEq κ] in
theorem Database.close_locks (different : other ≠ tx) (held : db.locks key = some other) :
    (db.close tx).locks key = some other := by
  have kept : db.locks key ≠ some tx := by
    rw [held]
    intro same
    exact different (Option.some.inj same)
  simp only [Database.close]
  rw [if_neg kept, held]

omit [DecidableEq κ] in
theorem Database.close_sessions (found : (db.close tx).sessions other = some stored) :
    other ≠ tx ∧ db.sessions other = some stored := by
  by_cases same : other = tx
  · subst same
    simp [Database.close] at found
  · simp only [Database.close, Function.update_of_ne same] at found
    exact ⟨same, found⟩

theorem Database.Sound.close (sound : db.Sound system initial) (tx : τ) :
    (db.close tx).Sound system initial where
  committed := sound.committed
  locked := by
    intro other stored key found writes
    obtain ⟨different, found⟩ := Database.close_sessions found
    exact Database.close_locks different (sound.locked found writes)
  consistent := by
    intro other stored found
    obtain ⟨-, found⟩ := Database.close_sessions found
    exact sound.consistent found

omit [DecidableEq τ] in
theorem Database.Sound.exclusive (sound : db.Sound system initial)
    (found : db.sessions tx = some session) (foundOther : db.sessions other = some stored)
    (different : other ≠ tx) (writes : stored.writes key ≠ none) :
    session.writes key = none := by
  by_contra written
  have mine := sound.locked found written
  rw [sound.locked foundOther writes] at mine
  exact different (Option.some.inj mine)

theorem Database.Sound.commit (sound : db.Sound system initial)
    (found : db.sessions tx = some session) : (db.commit tx session).Sound system initial where
  committed := by
    intro key
    simp only [Database.commit]
    rw [(sound.consistent found).view, replay_append, sound.committed]
  locked := by
    intro other stored key foundOther writes
    obtain ⟨different, foundOther⟩ := Database.close_sessions foundOther
    exact Database.close_locks different (sound.locked foundOther writes)
  consistent := by
    intro other stored foundOther
    obtain ⟨different, foundOther⟩ := Database.close_sessions foundOther
    apply (sound.consistent foundOther).transfer
    · intro key writes
      have free := sound.exclusive found foundOther different writes
      simp [Database.commit, Session.view, free]
    · intro key absent
      simp only [Database.commit]
      rw [(sound.consistent found).view, absent, replay_none]

theorem Database.update_locks {drawn : Nat} (available : db.Available tx (system.target command))
    (different : other ≠ tx) (held : db.locks key = some other) :
    (db.update system tx session command drawn next).locks key = some other := by
  have elsewhere : key ≠ system.target command := by
    rintro rfl
    rcases available with free | mine
    · rw [free] at held
      cases held
    · rw [mine] at held
      exact different (Option.some.inj held).symm
  unfold Database.update
  dsimp only
  split
  · simp only [Function.update_of_ne elsewhere, held]
  · exact held

theorem Database.update_rows (command : γ) (drawn : Nat) (next : σ) :
    (db.update system tx session command drawn next).rows = db.rows := by
  unfold Database.update
  dsimp only
  split <;> rfl

theorem Database.update_log (command : γ) (drawn : Nat) (next : σ) :
    (db.update system tx session command drawn next).log = db.log := by
  unfold Database.update
  dsimp only
  split <;> rfl

theorem Database.update_sequence (command : γ) (drawn : Nat) (next : σ) :
    (db.update system tx session command drawn next).sequence = db.sequence + drawn := by
  unfold Database.update
  dsimp only
  split <;> rfl

theorem Database.update_sessions {drawn : Nat}
    (found : (db.update system tx session command drawn next).sessions other = some stored) :
    (other = tx ∧ stored =
      session.issue system command next (session.view db.rows (system.target command))) ∨
      (other ≠ tx ∧ db.sessions other = some stored) := by
  unfold Database.update at found
  dsimp only at found
  split at found
  all_goals exact Database.setSession_sessions found

theorem Database.Sound.update (sound : db.Sound system initial) (drawn : Nat) (next : σ)
    (found : db.sessions tx = some session) (available : db.Available tx (system.target command)) :
    (db.update system tx session command drawn next).Sound system initial where
  committed := by
    intro key
    rw [Database.update_rows, Database.update_log]
    exact sound.committed key
  locked := by
    intro other stored key foundOther writes
    rcases Database.update_sessions foundOther with ⟨rfl, rfl⟩ | ⟨different, foundOther⟩
    · by_cases hit : key = system.target command
      · subst hit
        rw [Session.issue_writes_target, ne_eq, Option.map_eq_none_iff] at writes
        simp [Database.update, Option.isSome_iff_ne_none, writes]
      · rw [Session.issue_writes_of_ne hit] at writes
        have held := sound.locked found writes
        unfold Database.update
        dsimp only
        split
        · simp only [Function.update_of_ne hit, held]
        · exact held
    · exact Database.update_locks available different (sound.locked foundOther writes)
  consistent := by
    intro other stored foundOther
    rw [Database.update_rows]
    rcases Database.update_sessions foundOther with ⟨rfl, rfl⟩ | ⟨-, foundOther⟩
    · exact (sound.consistent found).issue command next
    · exact sound.consistent foundOther

theorem Database.Sound.step (sound : db.Sound system initial)
    (steps : db.Steps system guard after) : after.Sound system initial := by
  cases steps with
  | idle => exact sound
  | start free =>
    refine sound.setSession ⟨?_, ?_⟩ ?_
    · intro key row written
      cases written
    · intro key _
      exact .inr fun command member => by cases member
    · intro key written
      exact absurd rfl written
  | close => exact sound.close _
  | draw => exact ⟨sound.committed, sound.locked, sound.consistent⟩
  | proceed found code =>
    have consistent := sound.consistent found
    refine sound.setSession ⟨consistent.written, consistent.unwritten⟩ ?_
    intro key written
    exact sound.locked found written
  | update found code available permitted => exact sound.update _ _ found available
  | commit found code => exact sound.commit found

omit [DecidableEq τ] in
theorem Database.Sound.view (sound : db.Sound system initial)
    (found : db.sessions tx = some session) (key : κ) :
    session.view db.rows key = replay system (db.log ++ session.log) key (initial key) := by
  rw [(sound.consistent found).view, sound.committed, replay_append]

end Locking

end Tamanor.Library.ReadCommitted
