import Tamanor.Ai.BrandMemory

/-! Brand memory and the order of its rules. What a rule does to the level is a move on ranks; moves
that only raise commute, and so do moves that only lower, but not both together. -/

set_option autoImplicit false

namespace Tamanor.Ai

open Tamanor.Core Library Library.Text

inductive RankMove where
  | raiseTo (floor : Nat) | lowerBy (steps : Nat) | reset | stay

namespace RankMove

def apply (rank : Nat) : RankMove → Nat
  | raiseTo floor => max rank floor
  | lowerBy steps => rank - steps
  | reset => 0
  | stay => rank

def floor : RankMove → Nat
  | raiseTo floor => floor
  | _ => 0

def steps : RankMove → Nat
  | lowerBy steps => steps
  | _ => 0

def Raising (move : RankMove) : Prop := move ≠ reset ∧ move.steps = 0

variable {moves : List RankMove} {rank bound : Nat}

theorem foldl_le_iff (raising : ∀ move ∈ moves, move.Raising) :
    moves.foldl apply rank ≤ bound ↔ rank ≤ bound ∧ ∀ move ∈ moves, move.floor ≤ bound := by
  induction moves generalizing rank with
  | nil => simp
  | cons move moves ih =>
    obtain ⟨here, later⟩ := List.forall_mem_cons.mp raising
    rw [List.foldl_cons, ih later, List.forall_mem_cons, ← and_assoc]
    refine and_congr_left' ?_
    cases move with
    | raiseTo floor => exact max_le_iff
    | lowerBy steps =>
      have none : steps = 0 := here.2
      simp [apply, floor, none]
    | reset => exact absurd rfl here.1
    | stay => simp [apply, floor]

variable (rank) in
theorem foldl_lower (lowering : ∀ move ∈ moves, move.floor = 0) :
    (moves.foldl apply rank = 0 ∧ reset ∈ moves) ∨
      reset ∉ moves ∧ moves.foldl apply rank = rank - (moves.map steps).sum := by
  induction moves generalizing rank with
  | nil => simp
  | cons move moves ih =>
    obtain ⟨here, later⟩ := List.forall_mem_cons.mp lowering
    have rest := ih (move.apply rank) later
    cases move with
    | raiseTo floor =>
      have zero : floor = 0 := here
      simpa [apply, steps, zero] using rest
    | lowerBy count => simpa [apply, steps, Nat.sub_sub] using rest
    | stay => simpa [apply, steps] using rest
    | reset =>
      left
      refine ⟨?_, List.mem_cons_self⟩
      rcases rest with ⟨zero, _⟩ | ⟨_, zero⟩
      · exact zero
      · simpa [apply] using zero

theorem foldl_high (kept : reset ∉ moves)
    (below : ∀ move ∈ moves, move.floor + (moves.map steps).sum ≤ rank) :
    moves.foldl apply rank = rank - (moves.map steps).sum := by
  induction moves generalizing rank with
  | nil => rfl
  | cons move moves ih =>
    obtain ⟨here, later⟩ := List.forall_mem_cons.mp below
    have others : reset ∉ moves := fun member => kept (List.mem_cons_of_mem _ member)
    rw [List.foldl_cons, List.map_cons, List.sum_cons] at *
    cases move with
    | raiseTo floor =>
      simp only [apply, steps, RankMove.floor, Nat.zero_add] at *
      rw [max_eq_left (by omega), ih others later]
    | lowerBy count =>
      simp only [apply, steps] at *
      rw [ih others, Nat.sub_sub]
      intro move member
      have bound := later move member
      omega
    | stay =>
      simp only [apply, steps, Nat.zero_add] at *
      exact ih others later
    | reset => exact absurd List.mem_cons_self kept

/-- Only raising, only lowering, or raising below what lowering leaves. -/
def Settled (rank : Nat) (moves : List RankMove) : Prop :=
  (∀ move ∈ moves, move.floor = 0) ∨ reset ∉ moves ∧
    ((moves.map steps).sum = 0 ∨ ∀ move ∈ moves, move.floor + (moves.map steps).sum ≤ rank)

theorem raising_of_sum (kept : reset ∉ moves) (idle : (moves.map steps).sum = 0) :
    ∀ move ∈ moves, move.Raising := by
  intro move member
  refine ⟨fun resets => kept (resets ▸ member), ?_⟩
  exact List.sum_eq_zero_iff_forall_eq_nat.mp idle _ (List.mem_map_of_mem member)

theorem Settled.floor_le (settled : Settled rank moves) {move : RankMove} (member : move ∈ moves) :
    move.floor ≤ moves.foldl apply rank := by
  rcases settled with silent | ⟨kept, idle | below⟩
  · rw [silent move member]
    exact Nat.zero_le _
  · exact ((foldl_le_iff (raising_of_sum kept idle)).mp le_rfl).2 move member
  · rw [foldl_high kept below]
    have bound := below move member
    omega

theorem Settled.foldl_perm (settled : Settled rank moves) {other : List RankMove}
    (perm : other.Perm moves) : other.foldl apply rank = moves.foldl apply rank := by
  have sums : (other.map steps).sum = (moves.map steps).sum := (perm.map steps).sum_eq
  rcases settled with silent | ⟨kept, idle | below⟩
  · have silentOther : ∀ move ∈ other, move.floor = 0 :=
      fun move member => silent move (perm.mem_iff.mp member)
    rcases foldl_lower rank silent with ⟨zero, resets⟩ | ⟨kept, lowered⟩
    · rcases foldl_lower rank silentOther with ⟨otherZero, _⟩ | ⟨kept, _⟩
      · rw [zero, otherZero]
      · exact absurd (perm.mem_iff.mpr resets) kept
    · rcases foldl_lower rank silentOther with ⟨_, resets⟩ | ⟨_, otherLowered⟩
      · exact absurd (perm.mem_iff.mp resets) kept
      · rw [lowered, otherLowered, sums]
  · have raising := raising_of_sum kept idle
    refine eq_of_forall_ge_iff fun bound => ?_
    rw [foldl_le_iff raising, foldl_le_iff fun move member => raising move (perm.mem_iff.mp member)]
    simp only [perm.mem_iff]
  · have keptOther : reset ∉ other := fun member => kept (perm.mem_iff.mp member)
    rw [foldl_high kept below, foldl_high keptOther ?_, sums]
    intro move member
    rw [sums]
    exact below move (perm.mem_iff.mp member)

theorem Settled.perm (settled : Settled rank moves) {other : List RankMove}
    (perm : other.Perm moves) : Settled rank other := by
  unfold Settled
  rw [(perm.map steps).sum_eq]
  simp only [perm.mem_iff]
  exact settled

/-- If raising first and lowering first end at one rank, either kind does nothing or raising stays
below what lowering leaves. -/
theorem settled_of_orders {raises lowers : List RankMove}
    (raising : ∀ move ∈ raises, move.Raising) (lowering : ∀ move ∈ lowers, move.floor = 0)
    (same : (lowers ++ raises).foldl apply rank = (raises ++ lowers).foldl apply rank) :
    Settled rank (raises ++ lowers) := by
  rw [List.foldl_append, List.foldl_append] at same
  have above := (foldl_le_iff raising).mp (le_refl (raises.foldl apply (lowers.foldl apply rank)))
  have least : raises.foldl apply rank ≤
      max rank (raises.foldl apply (lowers.foldl apply rank)) := (foldl_le_iff raising).mpr
    ⟨le_max_left _ _, fun move member => (above.2 move member).trans (le_max_right _ _)⟩
  by_cases silent : ∀ move ∈ raises, move.floor = 0
  · left
    intro move member
    exact (List.mem_append.mp member).elim (silent move) (lowering move)
  · push Not at silent
    obtain ⟨loud, isLoud, positive⟩ := silent
    have some := above.2 loud isLoud
    rcases foldl_lower (raises.foldl apply rank) lowering with ⟨zero, _⟩ | ⟨kept, lowered⟩
    · rw [same, zero] at some
      exact absurd (Nat.le_zero.mp some) positive
    · have idle : (raises.map steps).sum = 0 := by
        rw [List.sum_eq_zero_iff_forall_eq_nat]
        intro count member
        obtain ⟨move, inside, rfl⟩ := List.mem_map.mp member
        exact (raising move inside).2
      have sums : ((raises ++ lowers).map steps).sum = (lowers.map steps).sum := by
        rw [List.map_append, List.sum_append, idle, Nat.zero_add]
      rw [same, lowered] at least some
      refine .inr ⟨?_, ?_⟩
      · intro member
        exact (List.mem_append.mp member).elim (fun inside => (raising _ inside).1 rfl) kept
      · rw [sums]
        by_cases none : (lowers.map steps).sum = 0
        · exact .inl none
        · right
          intro move member
          rcases List.mem_append.mp member with inside | inside
          · have high := above.2 move inside
            rw [same, lowered] at high
            omega
          · rw [lowering move inside]
            omega

end RankMove

def BrandMemoryRule.move (floored : Bool) (rule : BrandMemoryRule) : RankMove :=
  match rule.type with
  | "block_phrase" => .raiseTo (max (rank "high") (rank (severityLevel rule.severity)))
  | "watch_phrase" => .raiseTo (max (rank "medium") (rank (severityLevel rule.severity)))
  | "increase_risk_pattern" => .raiseTo (rank (severityLevel rule.severity))
  | "crisis_phrase" => .raiseTo (rank "high")
  | "allow_phrase" => if floored then .stay else .reset
  | "reduce_risk_pattern" => if floored then .stay else .lowerBy 2
  | _ => .stay

def memoryMoves (floored : Bool) (norm : Text) (rules : List BrandMemoryRule) : List RankMove :=
  (rules.filter fun rule => rule.fires norm).map (BrandMemoryRule.move floored)

def IsLevel (level : String) : Prop := levelFromRank (rank level) = level

theorem rank_le (level : String) : rank level ≤ 4 := by
  rcases rank_cases level with ⟨_, same⟩ | ⟨_, same⟩ | ⟨_, same⟩ | ⟨_, same⟩ | ⟨_, same⟩ <;> omega

theorem rank_levelFromRank {place : Nat} (known : place ≤ 4) :
    rank (levelFromRank place) = place := by
  revert place
  decide

section Rules

variable {floored : Bool} {norm : Text} {rules : List BrandMemoryRule}

theorem BrandMemoryRule.move_apply_le (rule : BrandMemoryRule) (level : String) :
    (rule.move floored).apply (rank level) ≤ 4 := by
  have here := rank_le level
  have severe := rank_le (severityLevel rule.severity)
  have high : rank "high" = 3 := by decide
  have medium : rank "medium" = 2 := by decide
  unfold move
  split <;> try split
  all_goals
    simp only [RankMove.apply]
    omega

variable (floored) in
theorem BrandMemoryResult.applyRule_level (result : BrandMemoryResult) (rule : BrandMemoryRule) :
    (rule.move floored = .stay ∧ (result.applyRule floored rule).level = result.level) ∨
      rule.move floored ≠ .stay ∧ (result.applyRule floored rule).level =
        levelFromRank ((rule.move floored).apply (rank result.level)) := by
  unfold applyRule BrandMemoryRule.move
  split
  case h_7 =>
    split <;> first | contradiction | exact .inl ⟨rfl, rfl⟩
  all_goals
    cases floored <;> simp [*, raiseTo, record, RankMove.apply, max_assoc, levelFromRank, riskOrder]

theorem BrandMemoryResult.rank_foldl (result : BrandMemoryResult) (fired : List BrandMemoryRule) :
    rank (fired.foldl (applyRule floored) result).level =
      (fired.map (BrandMemoryRule.move floored)).foldl RankMove.apply (rank result.level) := by
  induction fired generalizing result with
  | nil => rfl
  | cons rule fired ih =>
    have here : rank (result.applyRule floored rule).level =
        (rule.move floored).apply (rank result.level) := by
      rcases result.applyRule_level floored rule with ⟨stays, kept⟩ | ⟨_, printed⟩
      · rw [kept, stays]
        rfl
      · rw [printed, rank_levelFromRank (rule.move_apply_le _)]
    rw [List.foldl_cons, ih, here]
    rfl

variable (floored) in
theorem BrandMemoryResult.level_foldl (result : BrandMemoryResult) (fired : List BrandMemoryRule) :
    ((∀ rule ∈ fired, rule.move floored = .stay) ∧
      (fired.foldl (applyRule floored) result).level = result.level) ∨
    (∃ rule ∈ fired, rule.move floored ≠ .stay) ∧
      IsLevel (fired.foldl (applyRule floored) result).level := by
  induction fired using List.reverseRecOn with
  | nil => exact .inl ⟨nofun, rfl⟩
  | append_singleton fired rule ih =>
    rw [List.foldl_append, List.foldl_cons, List.foldl_nil]
    rcases (fired.foldl (applyRule floored) result).applyRule_level floored rule with
      ⟨stays, kept⟩ | ⟨moves, printed⟩
    · rw [kept]
      rcases ih with ⟨all, same⟩ | ⟨⟨other, member, moves⟩, known⟩
      · refine .inl ⟨?_, same⟩
        intro other member
        rcases List.mem_append.mp member with before | here
        · exact all other before
        · rw [List.mem_singleton.mp here, stays]
      · exact .inr ⟨⟨other, List.mem_append_left _ member, moves⟩, known⟩
    · refine .inr ⟨⟨rule, by simp, moves⟩, ?_⟩
      rw [printed, IsLevel, rank_levelFromRank (rule.move_apply_le _)]

/-! What a rule adds does not depend on what is there. -/

def BrandMemoryResult.blank : BrandMemoryResult where
  level := "none"
  categories := .empty
  riskSignals := .empty
  matches_ := []

variable (floored) in
theorem BrandMemoryResult.mem_applyRule_iff (result : BrandMemoryResult) (rule : BrandMemoryRule)
    (name : String) :
    (name ∈ (result.applyRule floored rule).categories ↔
      name ∈ result.categories ∨ name ∈ (blank.applyRule floored rule).categories) ∧
    (name ∈ (result.applyRule floored rule).riskSignals ↔
      name ∈ result.riskSignals ∨ name ∈ (blank.applyRule floored rule).riskSignals) := by
  unfold applyRule
  split
  all_goals cases floored <;> simp [raiseTo, record, blank]

theorem BrandMemoryResult.mem_foldl_iff (result : BrandMemoryResult)
    (fired : List BrandMemoryRule) (name : String) :
    (name ∈ (fired.foldl (applyRule floored) result).categories ↔ name ∈ result.categories ∨
      ∃ rule ∈ fired, name ∈ (blank.applyRule floored rule).categories) ∧
    (name ∈ (fired.foldl (applyRule floored) result).riskSignals ↔ name ∈ result.riskSignals ∨
      ∃ rule ∈ fired, name ∈ (blank.applyRule floored rule).riskSignals) := by
  induction fired generalizing result with
  | nil => simp
  | cons rule fired ih =>
    obtain ⟨category, signal⟩ := mem_applyRule_iff floored result rule name
    obtain ⟨categories, signals⟩ := ih (result.applyRule floored rule)
    rw [List.foldl_cons, categories, signals, category, signal]
    simp only [List.exists_mem_cons_iff, or_assoc, and_self]

end Rules

structure BaseVerdict where
  level : String
  categories : List String
  riskSignals : List String

def BaseVerdict.floored (base : BaseVerdict) : Bool := protectedFloor base.level base.riskSignals

def BaseVerdict.remember (database : CharacterDatabase) (text : Text) (base : BaseVerdict)
    (rules : List BrandMemoryRule) : BrandMemoryResult :=
  applyBrandMemory database text base.level base.categories base.riskSignals rules

/-- The result of brand memory does not depend on the order of its rules, a matching block rule
counts, and the floor holds. -/
structure OrderFree (database : CharacterDatabase) (text : Text) (base : BaseVerdict)
    (rules : List BrandMemoryRule) : Prop where
  level : ∀ other, other.Perm rules →
    (base.remember database text other).level = (base.remember database text rules).level
  categories : ∀ other, other.Perm rules → ∀ category,
    category ∈ (base.remember database text other).categories ↔
      category ∈ (base.remember database text rules).categories
  signals : ∀ other, other.Perm rules → ∀ signal,
    signal ∈ (base.remember database text other).riskSignals ↔
      signal ∈ (base.remember database text rules).riskSignals
  blocked : ∀ rule ∈ rules, rule.type = "block_phrase" →
    rule.fires (normalize database text) = true →
      rank "high" ≤ rank (base.remember database text rules).level
  floor : base.floored = true → ∀ other,
    rank base.level ≤ rank (base.remember database text other).level

def BaseVerdict.moves (database : CharacterDatabase) (text : Text) (base : BaseVerdict)
    (rules : List BrandMemoryRule) : List RankMove :=
  memoryMoves base.floored (normalize database text) rules

section Order

variable {database : CharacterDatabase} {text : Text} {base : BaseVerdict}
  {rules other : List BrandMemoryRule}

theorem rank_remember :
    rank (base.remember database text rules).level =
      (base.moves database text rules).foldl RankMove.apply (rank base.level) :=
  BrandMemoryResult.rank_foldl _ _

theorem moves_perm (perm : other.Perm rules) :
    (base.moves database text other).Perm (base.moves database text rules) :=
  (perm.filter _).map _

theorem level_of_rank (perm : other.Perm rules)
    (same : rank (base.remember database text other).level =
      rank (base.remember database text rules).level) :
    (base.remember database text other).level = (base.remember database text rules).level := by
  have members (rule : BrandMemoryRule) :=
    (perm.filter fun rule => rule.fires (normalize database text)).mem_iff (a := rule)
  have kinds (rules : List BrandMemoryRule) := BrandMemoryResult.level_foldl base.floored
    ⟨base.level, .ofList base.categories, .ofList base.riskSignals, []⟩
    (rules.filter fun rule => rule.fires (normalize database text))
  unfold BaseVerdict.remember applyBrandMemory at same ⊢
  rcases kinds other with ⟨stay, kept⟩ | ⟨⟨rule, member, moves⟩, known⟩
  · rcases kinds rules with ⟨_, keptToo⟩ | ⟨⟨rule, member, moves⟩, _⟩
    · exact kept.trans keptToo.symm
    · exact absurd (stay rule ((members rule).mpr member)) moves
  · rcases kinds rules with ⟨stay, _⟩ | ⟨_, knownToo⟩
    · exact absurd (stay rule ((members rule).mp member)) moves
    · exact known.symm.trans ((congrArg levelFromRank same).trans knownToo)

theorem rank_le_remember (floored : base.floored = true) :
    rank base.level ≤ rank (base.remember database text rules).level := by
  have raising : ∀ move ∈ base.moves database text rules, move.Raising := by
    intro move member
    obtain ⟨rule, _, rfl⟩ := List.mem_map.mp member
    rw [floored]
    unfold BrandMemoryRule.move
    split
    all_goals exact ⟨nofun, rfl⟩
  rw [rank_remember]
  exact ((RankMove.foldl_le_iff raising).mp le_rfl).1

theorem settled_of_level
    (same : ∀ other, other.Perm rules →
      (base.remember database text other).level = (base.remember database text rules).level) :
    RankMove.Settled (rank base.level) (base.moves database text rules) := by
  let raises (rule : BrandMemoryRule) : Bool := (rule.move base.floored).floor != 0
  have early : (rules.filter raises ++ rules.filter (!raises ·)).Perm rules :=
    List.filter_append_perm raises rules
  have late : (rules.filter (!raises ·) ++ rules.filter raises).Perm rules :=
    List.perm_append_comm.trans early
  have split (left right : List BrandMemoryRule) : base.moves database text (left ++ right) =
      base.moves database text left ++ base.moves database text right := by
    simp [BaseVerdict.moves, memoryMoves]
  have raising : ∀ move ∈ base.moves database text (rules.filter raises), move.Raising := by
    intro move member
    obtain ⟨rule, isFired, rfl⟩ := List.mem_map.mp member
    have loud := (List.mem_filter.mp (List.mem_filter.mp isFired).1).2
    simp only [raises, bne_iff_ne] at loud
    generalize rule.move base.floored = move at loud
    cases move with
    | raiseTo floor => exact ⟨nofun, rfl⟩
    | lowerBy steps => exact absurd rfl loud
    | reset => exact absurd rfl loud
    | stay => exact absurd rfl loud
  have lowering : ∀ move ∈ base.moves database text (rules.filter (!raises ·)), move.floor = 0 := by
    intro move member
    obtain ⟨rule, isFired, rfl⟩ := List.mem_map.mp member
    have silent := (List.mem_filter.mp (List.mem_filter.mp isFired).1).2
    simpa [raises] using silent
  have ranks := congrArg rank ((same _ late).trans (same _ early).symm)
  rw [rank_remember, rank_remember, split, split] at ranks
  refine (RankMove.settled_of_orders raising lowering ranks).perm ?_
  rw [← split]
  exact (moves_perm early).symm

end Order

/-- Brand memory is free of the order of its rules exactly where the moves of the rules that fire
are settled. -/
theorem orderFree_iff (database : CharacterDatabase) (text : Text) (base : BaseVerdict)
    (rules : List BrandMemoryRule) :
    OrderFree database text base rules ↔
      RankMove.Settled (rank base.level) (base.moves database text rules) := by
  constructor
  · intro free
    exact settled_of_level free.level
  · intro settled
    have members {other : List BrandMemoryRule} (perm : other.Perm rules)
        (rule : BrandMemoryRule) :=
      (perm.filter fun rule => rule.fires (normalize database text)).mem_iff (a := rule)
    refine ⟨?_, ?_, ?_, ?_, ?_⟩
    · intro other perm
      refine level_of_rank perm ?_
      rw [rank_remember, rank_remember]
      exact settled.foldl_perm (moves_perm perm)
    · intro other perm category
      unfold BaseVerdict.remember applyBrandMemory
      rw [(BrandMemoryResult.mem_foldl_iff _ _ category).1,
        (BrandMemoryResult.mem_foldl_iff _ _ category).1]
      simp only [members perm]
    · intro other perm signal
      unfold BaseVerdict.remember applyBrandMemory
      rw [(BrandMemoryResult.mem_foldl_iff _ _ signal).2,
        (BrandMemoryResult.mem_foldl_iff _ _ signal).2]
      simp only [members perm]
    · intro rule member blocks fires
      have moved : rule.move base.floored ∈ base.moves database text rules :=
        List.mem_map_of_mem (List.mem_filter.mpr ⟨member, fires⟩)
      rw [rank_remember]
      refine le_trans ?_ (settled.floor_le moved)
      unfold BrandMemoryRule.move
      rw [blocks]
      exact le_max_left _ _
    · intro floored other
      exact rank_le_remember floored

/-- A phrase that is blocked and allowed. -/
theorem not_orderFree : ¬ ∀ database text base rules, OrderFree database text base rules := by
  intro all
  let rule (type : String) : BrandMemoryRule := ⟨type, "sale".toList, none, "high", true⟩
  have same := (all .ascii "sale".toList ⟨"low", [], []⟩
    [rule "allow_phrase", rule "block_phrase"]).level
    [rule "block_phrase", rule "allow_phrase"] (List.Perm.swap _ _ _)
  revert same
  decide

end Tamanor.Ai
