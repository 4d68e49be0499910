import Mathlib.Data.List.Basic

/-! Bounded walks over a list that is served in pages. A page names the cursor of the
next one; a walk reads at most `limit` pages and hands each one to a visitor, which may
fail. -/

set_option autoImplicit false

namespace Tamanor.Library.Paging

structure Page (α : Type) where
  items : List α
  nextCursor : Option String

def Page.next? {α : Type} (page : Page α) : Option String :=
  page.nextCursor.filter (· ≠ "")

variable {α β γ ε σ : Type}

/-- A loop whose body may throw: the state it leaves behind, and what it threw. -/
def forEach (body : σ → β → σ × Option ε) : σ → List β → σ × Option ε
  | state, [] => (state, none)
  | state, item :: rest =>
    match body state item with
    | (next, some err) => (next, some err)
    | (next, none) => forEach body next rest

inductive Stop (ε : Type) where
  | ended | capped
  | failed (err : ε)
deriving DecidableEq

structure Walk (σ ε : Type) where
  state : σ
  cursor : Option String
  stop : Stop ε

variable (fetch : Option String → Except ε (Page α)) (visit : σ → List α → σ × Option ε)

def walk : Nat → Option String → σ → Walk σ ε
  | 0, after, state => ⟨state, after, .capped⟩
  | limit + 1, after, state =>
    match fetch after with
    | .error err => ⟨state, after, .failed err⟩
    | .ok page =>
      match visit state page.items with
      | (next, some err) => ⟨next, after, .failed err⟩
      | (next, none) =>
        match page.next? with
        | none => ⟨next, after, .ended⟩
        | some cursor => walk limit (some cursor) next

/-- The pages that are listed from a cursor on, up to the last one or to a failure. -/
inductive Lists : Option String → List (List α) → Option ε → Prop
  | failed {after : Option String} {err : ε} : fetch after = .error err → Lists after [] (some err)
  | last {after : Option String} {page : Page α} : fetch after = .ok page → page.next? = none →
      Lists after [page.items] none
  | more {after : Option String} {page : Page α} {cursor : String} {rest : List (List α)}
      {failure : Option ε} : fetch after = .ok page → page.next? = some cursor →
      Lists (some cursor) rest failure → Lists after (page.items :: rest) failure

def readPages (limit : Nat) (after : Option String) : Walk (List (List α)) ε :=
  walk fetch (fun pages items => (pages ++ [items], none)) limit after []

variable {fetch visit} {body : σ → β → σ × Option ε}

theorem forEach_flatMap {measure : σ → List γ} {out : β → List γ} {items : List β}
    (each : ∀ state, ∀ item ∈ items, measure (body state item).1 = measure state ++ out item)
    (state : σ) (passed : (forEach body state items).2 = none) :
    measure (forEach body state items).1 = measure state ++ items.flatMap out := by
  induction items generalizing state with
  | nil => simp [forEach]
  | cons item rest ih =>
    have here := each state item List.mem_cons_self
    have later := ih fun state other member => each state other (List.mem_cons_of_mem _ member)
    simp only [forEach] at passed ⊢
    split at passed
    · cases passed
    · rename_i next answered
      rw [answered] at here
      rw [later next passed, here, List.append_assoc, List.flatMap_cons]

theorem forEach_append (state : σ) (first second : List β) :
    forEach body state (first ++ second) =
      match forEach body state first with
      | (next, some err) => (next, some err)
      | (next, none) => forEach body next second := by
  induction first generalizing state with
  | nil => rfl
  | cons item rest ih =>
    simp only [List.cons_append, forEach]
    split
    · rfl
    · exact ih _

theorem forEach_flatten (state : σ) (pages : List (List β)) :
    forEach (forEach body) state pages = forEach body state pages.flatten := by
  induction pages generalizing state with
  | nil => rfl
  | cons page rest ih =>
    rw [List.flatten_cons, forEach_append, forEach]
    split
    · rfl
    · exact ih _

variable {limit : Nat} {after : Option String}

theorem walk_ended {pages : List (List α)} {failure : Option ε}
    (lists : Lists fetch after pages failure) (state : σ)
    (ended : (walk fetch visit limit after state).stop = .ended) :
    forEach visit state pages = ((walk fetch visit limit after state).state, none) := by
  induction lists generalizing limit state with
  | failed answer =>
    cases limit with
    | zero => cases ended
    | succ limit =>
      simp only [walk, answer] at ended
      cases ended
  | last answer final =>
    cases limit with
    | zero => cases ended
    | succ limit =>
      simp only [walk, answer, forEach] at ended ⊢
      split at ended
      · cases ended
      · simp only [final]
  | more answer next _ ih =>
    cases limit with
    | zero => cases ended
    | succ limit =>
      simp only [walk, answer, forEach] at ended ⊢
      split at ended
      · cases ended
      · simp only [next] at ended ⊢
        exact ih _ ended

theorem walk_state {pages : List (List α)} {failure : Option ε}
    (lists : Lists fetch after pages failure) (state : σ)
    (total : ∀ state items, (visit state items).2 = none) :
    (walk fetch visit limit after state).state =
      (pages.take limit).foldl (fun state items => (visit state items).1) state := by
  have passes (state : σ) (items : List α) : visit state items = ((visit state items).1, none) :=
    Prod.ext rfl (total state items)
  induction lists generalizing limit state with
  | failed answer =>
    cases limit with
    | zero => rfl
    | succ limit => simp [walk, answer]
  | last answer final =>
    cases limit with
    | zero => rfl
    | succ limit =>
      simp only [walk, answer]
      rw [passes]
      simp [final]
  | more answer next _ ih =>
    cases limit with
    | zero => rfl
    | succ limit =>
      simp only [walk, answer]
      rw [passes]
      simp only [next, List.take_succ_cons, List.foldl_cons]
      exact ih _

theorem lists_of_walk_ended {before : List (List α)}
    (ended : (walk fetch (fun pages items => (pages ++ [items], none)) limit after before).stop =
      .ended) :
    ∃ pages, Lists fetch after pages none ∧
      (walk fetch (fun pages items => (pages ++ [items], none)) limit after before).state =
        before ++ pages := by
  induction limit generalizing after before with
  | zero => cases ended
  | succ limit ih =>
    simp only [walk] at ended ⊢
    split at ended
    · cases ended
    · rename_i page answer
      split at ended
      · rename_i final
        exact ⟨[page.items], .last answer final, by simp⟩
      · rename_i cursor next
        obtain ⟨rest, lists, state⟩ := ih ended
        exact ⟨page.items :: rest, .more answer next lists, by simp [state]⟩

theorem lists_readPages (ended : (readPages fetch limit after).stop = .ended) :
    Lists fetch after (readPages fetch limit after).state none := by
  obtain ⟨pages, lists, state⟩ := lists_of_walk_ended ended
  rw [List.nil_append] at state
  exact state ▸ lists

end Tamanor.Library.Paging
