import Tamanor.Library.Runs

/-! Transactions that hold one exclusive lock from their first statement to their end. A
statement sees what is committed with the writes of its own transaction on top, and other
parties that take the lock wait. So the transactions of a run take effect one after the
other, each as if it ran alone on what is committed when it ends. -/

set_option autoImplicit false

namespace Tamanor.Library.LockedSection

variable {σ μ ι : Type}

inductive Statement (σ μ : Type) where
  | proceed (change : σ → σ) (next : μ)
  | commit
  | abort

def Statement.map {ν : Type} (embed : μ → ν) : Statement σ μ → Statement σ ν
  | .proceed change next => .proceed change (embed next)
  | .commit => .commit
  | .abort => .abort

structure Session (σ μ : Type) where
  start : μ
  stage : μ
  writes : σ → σ

structure Shared (σ μ ι : Type) where
  committed : σ
  holder : Option (ι × Session σ μ)

/-- A transaction may fail between any two of its statements. -/
inductive Action (ι μ : Type) where
  | enter (party : ι) (start : μ)
  | advance (party : ι)
  | fail

variable [DecidableEq ι] (program : μ → σ → Statement σ μ)

def Session.view (session : Session σ μ) (committed : σ) : σ := session.writes committed

def step (shared : Shared σ μ ι) : Action ι μ → Shared σ μ ι
  | .enter party start =>
    match shared.holder with
    | none => { shared with holder := some (party, ⟨start, start, id⟩) }
    | some _ => shared
  | .advance party =>
    match shared.holder with
    | none => shared
    | some (holder, session) =>
      if holder = party then
        match program session.stage (session.view shared.committed) with
        | .proceed change next =>
          { shared with holder := some (holder, ⟨session.start, next, change ∘ session.writes⟩) }
        | .commit => ⟨session.view shared.committed, none⟩
        | .abort => { shared with holder := none }
      else shared
  | .fail => { shared with holder := none }

/-- The stages of a transaction that runs alone, with its writes so far. -/
inductive Executes (start : μ) (base : σ) : μ → (σ → σ) → Prop
  | entered : Executes start base start id
  | proceeded {stage next : μ} {writes change : σ → σ} : Executes start base stage writes →
      program stage (writes base) = .proceed change next → Executes start base next (change ∘ writes)

/-- The holder of the lock is where it would be if it ran alone. -/
def Sound (shared : Shared σ μ ι) : Prop :=
  ∀ party session, shared.holder = some (party, session) →
    Executes program session.start shared.committed session.stage session.writes

/-- A step that is the commit of a transaction. -/
structure Commits (shared : Shared σ μ ι) (action : Action ι μ) (session : Session σ μ) : Prop where
  advances : ∃ party, action = .advance party ∧ shared.holder = some (party, session)
  ends : program session.stage (session.view shared.committed) = .commit

variable {program} {shared : Shared σ μ ι} {action : Action ι μ}

omit [DecidableEq ι] in
theorem sound_free (committed : σ) :
    Sound program ({ committed := committed, holder := none } : Shared σ μ ι) := by
  intro party session held
  cases held

theorem step_cases (action : Action ι μ) (sound : Sound program shared) :
    (∃ session, Commits program shared action session ∧
      Executes program session.start shared.committed session.stage session.writes ∧
      step program shared action = ⟨session.view shared.committed, none⟩) ∨
    ((∀ session, ¬Commits program shared action session) ∧
      (step program shared action).committed = shared.committed ∧
      Sound program (step program shared action)) := by
  cases action with
  | enter party start =>
    refine .inr ⟨?_, ?_⟩
    · rintro session ⟨⟨other, same, -⟩, -⟩
      cases same
    · cases held : shared.holder with
      | some holding =>
        have waits : step program shared (.enter party start) = shared := by
          simp only [step, held]
        rw [waits]
        exact ⟨rfl, sound⟩
      | none =>
        have enters : step program shared (.enter party start) =
            { shared with holder := some (party, ⟨start, start, id⟩) } := by
          simp only [step, held]
        rw [enters]
        refine ⟨rfl, ?_⟩
        rintro other session ⟨⟩
        exact .entered
  | advance party =>
    cases held : shared.holder with
    | none =>
      refine .inr ⟨?_, ?_⟩
      · rintro session ⟨⟨other, -, holding⟩, -⟩
        rw [held] at holding
        cases holding
      · have idles : step program shared (.advance party) = shared := by
          simp only [step, held]
        rw [idles]
        exact ⟨rfl, sound⟩
    | some holding =>
      obtain ⟨holder, session⟩ := holding
      have executes := sound holder session held
      by_cases mine : holder = party
      · subst mine
        have goesOn (issued : program session.stage (session.view shared.committed) ≠ .commit) :
            ∀ other, ¬Commits program shared (.advance holder) other := by
          rintro other ⟨⟨party, -, holding⟩, ends⟩
          rw [held] at holding
          cases holding
          exact issued ends
        cases issued : program session.stage (session.view shared.committed) with
        | proceed change next =>
          have proceeds : step program shared (.advance holder) = { shared with
              holder := some (holder, ⟨session.start, next, change ∘ session.writes⟩) } := by
            simp only [step, held, if_true, issued]
          have later : Executes program session.start shared.committed next
              (change ∘ session.writes) := .proceeded executes issued
          refine .inr ⟨goesOn (by rw [issued]; exact fun same => by cases same), ?_⟩
          rw [proceeds]
          refine ⟨rfl, ?_⟩
          rintro other proceeded ⟨⟩
          exact later
        | commit =>
          refine .inl ⟨session, ⟨⟨holder, rfl, held⟩, issued⟩, executes, ?_⟩
          simp only [step, held, if_true, issued]
        | abort =>
          have aborts : step program shared (.advance holder) = { shared with holder := none } := by
            simp only [step, held, if_true, issued]
          refine .inr ⟨goesOn (by rw [issued]; exact fun same => by cases same), ?_⟩
          rw [aborts]
          exact ⟨rfl, sound_free _⟩
      · have waits : step program shared (.advance party) = shared := by
          simp only [step, held, if_neg mine]
        refine .inr ⟨?_, ?_⟩
        · rintro other ⟨⟨advancing, same, holding⟩, -⟩
          cases same
          rw [held] at holding
          cases holding
          exact mine rfl
        · rw [waits]
          exact ⟨rfl, sound⟩
  | fail =>
    refine .inr ⟨?_, rfl, sound_free _⟩
    rintro session ⟨⟨other, same, -⟩, -⟩
    cases same

theorem Sound.step (sound : Sound program shared) :
    Sound program (LockedSection.step program shared action) := by
  rcases step_cases action sound with ⟨session, -, -, after⟩ | ⟨-, -, sound⟩
  · rw [after]
    exact sound_free _
  · exact sound

theorem start_advance {party : ι} {start : μ} {holding : ι × Session σ μ}
    (started : ∀ holding, shared.holder = some holding → holding.2.start = start)
    (held : (step program shared (.advance party)).holder = some holding) :
    holding.2.start = start := by
  rw [step] at held
  split at held
  next => exact started holding held
  next holder session before =>
    have began := started (holder, session) before
    split at held
    · split at held
      next => cases held; exact began
      next => cases held
      next => cases held
    · exact started holding held

theorem start_of_advances {party : ι} {start : μ} (count : ℕ) {holding : ι × Session σ μ}
    (started : ∀ holding, shared.holder = some holding → holding.2.start = start)
    (held : (Runs.run (step program) shared (List.replicate count (.advance party))).holder =
      some holding) :
    holding.2.start = start := by
  induction count generalizing shared with
  | zero => exact started holding held
  | succ count ih => exact ih (fun _ => start_advance started) held

end Tamanor.Library.LockedSection
