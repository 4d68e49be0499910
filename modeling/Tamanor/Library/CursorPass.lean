import Tamanor.Library.Keyset

/-! A pass over keys that come and go, page by page: each page starts after the last key of the
page before, and a page that is not full ends the pass. What stands at every page of a pass is
visited, and nothing is visited twice. -/

set_option autoImplicit false

namespace Tamanor.Library.CursorPass

variable {κ : Type} (order : KeyOrder κ)

def page (limit : Nat) (cursor : Option κ) (active : List κ) : List κ :=
  (active.filter fun key => cursor.all fun last => order.precedes last key).take limit

def next (limit : Nat) (page : List κ) : Option κ :=
  if page.length = limit then page.getLast? else none

def Ascending (keys : List κ) : Prop :=
  keys.Pairwise fun first second => order.precedes first second = true

/-- What a pass has visited, of the keys that have stood at all of its pages. -/
structure Progress (cursor : Option κ) (visited standing : List κ) : Prop where
  ascending : Ascending order visited
  reached : ∀ last, cursor = some last → ∀ key ∈ visited,
    key = last ∨ order.precedes key last = true
  covered : ∀ key ∈ standing, (∀ last, cursor = some last → order.precedes last key = false) →
    key ∈ visited

variable {order} {limit : Nat} {left : List κ}

theorem next_last (ascending : Ascending order left) {last : κ}
    (isNext : next limit (left.take limit) = some last) :
    (∀ key ∈ left.take limit, key = last ∨ order.precedes key last = true) ∧
      ∀ key ∈ left.drop limit, order.precedes last key = true := by
  unfold next at isNext
  split at isNext
  · obtain ⟨front, page⟩ := List.getLast?_eq_some_iff.mp isNext
    unfold Ascending at ascending
    rw [← List.take_append_drop limit left, List.pairwise_append] at ascending
    obtain ⟨within, _, across⟩ := ascending
    constructor
    · intro key member
      rw [page, List.mem_append, List.mem_singleton] at member
      rw [page, List.pairwise_append] at within
      exact member.symm.imp_right fun earlier =>
        within.2.2 key earlier last (List.mem_singleton_self last)
    · intro key member
      refine across last ?_ key member
      rw [page]
      exact List.mem_append_right _ (List.mem_singleton_self last)
  · cases isNext

theorem page_all (positive : 0 < limit) (isNext : next limit (left.take limit) = none) :
    left.take limit = left := by
  refine List.take_of_length_le ?_
  unfold next at isNext
  split at isNext
  next full =>
    rw [List.getLast?_eq_none_iff.mp isNext] at full
    rw [← full] at positive
    cases positive
  next notFull =>
    rw [List.length_take] at notFull
    omega

variable {cursor : Option κ} {visited standing : List κ}

theorem Progress.ascending_append {active : List κ}
    (progress : Progress order cursor visited standing) (ascending : Ascending order active)
    {last : κ} (there : cursor = some last) (limit : Nat) :
    Ascending order (visited ++ page order limit cursor active) := by
  refine List.pairwise_append.mpr ⟨progress.ascending,
    ascending.sublist ((List.take_sublist _ _).trans List.filter_sublist), ?_⟩
  intro first early second late
  have after : order.precedes last second = true := by
    have passes := (List.mem_filter.mp (List.mem_of_mem_take late)).2
    rw [there, Option.all_some] at passes
    exact passes
  rcases progress.reached last there first early with rfl | before
  · exact after
  · exact order.trans before after

theorem Progress.initial : Progress order none [] [] :=
  ⟨.nil, nofun, nofun⟩

variable [DecidableEq κ]

theorem Progress.step {active : List κ} (progress : Progress order cursor visited standing)
    (ascending : Ascending order active) (positive : 0 < limit) :
    Progress order (next limit (page order limit cursor active))
      ((if cursor.isNone then [] else visited) ++ page order limit cursor active)
      (if cursor.isNone then active else standing.filter fun key => decide (key ∈ active)) := by
  have leftAscending : Ascending order
      (active.filter fun key => cursor.all fun last => order.precedes last key) :=
    ascending.sublist List.filter_sublist
  have inPage {key : κ} (stands : key ∈ active)
      (after : cursor.all fun last => order.precedes last key)
      (notLater : ∀ last, next limit (page order limit cursor active) = some last →
        order.precedes last key = false) : key ∈ page order limit cursor active := by
    have isLeft : key ∈ active.filter fun key =>
        cursor.all fun last => order.precedes last key :=
      List.mem_filter.mpr ⟨stands, after⟩
    cases isNext : next limit (page order limit cursor active) with
    | none =>
      unfold page at isNext ⊢
      rw [page_all positive isNext]
      exact isLeft
    | some last =>
      have early := notLater last isNext
      rw [← List.take_append_drop limit (active.filter _), List.mem_append] at isLeft
      rcases isLeft with within | later
      · exact within
      · rw [(next_last leftAscending isNext).2 key later] at early
        cases early
  cases there : cursor with
  | none =>
    subst there
    refine ⟨leftAscending.sublist (List.take_sublist _ _), ?_, ?_⟩
    · intro last isNext
      exact (next_last leftAscending isNext).1
    · intro key stands notLater
      exact inPage stands rfl notLater
  | some point =>
    rw [← there]
    have notNone : ¬ cursor.isNone = true := by
      rw [there]
      exact Bool.false_ne_true
    rw [if_neg notNone, if_neg notNone]
    refine ⟨progress.ascending_append ascending there limit, ?_, ?_⟩
    · intro last isNext key member
      obtain ⟨withinPage, _⟩ := next_last leftAscending isNext
      rcases List.mem_append.mp member with early | late
      · right
        have member : last ∈ page order limit cursor active := by
          unfold next at isNext
          split at isNext
          · exact List.mem_of_getLast? isNext
          · cases isNext
        have pairwise := progress.ascending_append ascending there limit
        exact (List.pairwise_append.mp pairwise).2.2 key early last member
      · exact withinPage key late
    · intro key stood notLater
      obtain ⟨stood, stands⟩ := List.mem_filter.mp stood
      cases after : order.precedes point key with
      | false =>
        refine List.mem_append_left _ (progress.covered key stood ?_)
        intro last isCursor
        rw [there] at isCursor
        cases isCursor
        exact after
      | true =>
        refine List.mem_append_right _ (inPage (of_decide_eq_true stands) ?_ notLater)
        rw [there, Option.all_some]
        exact after

theorem Progress.count_le_one (progress : Progress order cursor visited standing) (key : κ) :
    visited.count key ≤ 1 := by
  refine List.nodup_iff_count_le_one.mp ?_ key
  refine progress.ascending.imp ?_
  rintro first second before rfl
  rw [order.irrefl] at before
  cases before

theorem Progress.count_eq_one (progress : Progress order none visited standing) {key : κ}
    (stood : key ∈ standing) :
    visited.count key = 1 := by
  have member : key ∈ visited := progress.covered key stood nofun
  have positive : 0 < visited.count key := List.count_pos_iff.mpr member
  have few := progress.count_le_one key
  omega

end Tamanor.Library.CursorPass
