import Mathlib.Data.List.Pairwise
import Mathlib.Data.Option.Basic

/-! Fencing tokens. A token is granted, used while it is the current one, and dropped.
Where every grant issues a larger token than the last one, a token that has been
superseded or dropped is never used again. -/

set_option autoImplicit false

namespace Tamanor.Library

inductive FencingEvent where
  | grant (token : Nat)
  | use (token : Nat)
  | drop

structure Fence where
  current : Option Nat
  last : Nat
  current_last : ∀ token ∈ current, token = last

namespace Fence

variable {fence : Fence} {events before : List FencingEvent} {token granted : Nat}

def next (fence : Fence) : FencingEvent → Fence
  | .grant token => ⟨some token, token, fun _ same => (Option.some.inj same).symm⟩
  | .use _ => fence
  | .drop => ⟨none, fence.last, fun _ absent => by cases absent⟩

def Allows (fence : Fence) : FencingEvent → Prop
  | .grant token => fence.last < token
  | .use token => fence.current = some token
  | .drop => True

def after (fence : Fence) (events : List FencingEvent) : Fence := events.foldl next fence

def Legal : Fence → List FencingEvent → Prop
  | _, [] => True
  | fence, event :: events => fence.Allows event ∧ (fence.next event).Legal events

@[simp] theorem after_nil : fence.after [] = fence := rfl

theorem after_append : fence.after (before ++ events) = (fence.after before).after events :=
  List.foldl_append

theorem legal_append :
    fence.Legal (before ++ events) ↔ fence.Legal before ∧ (fence.after before).Legal events := by
  induction before generalizing fence with
  | nil => simp [Legal]
  | cons event before ih =>
    simp only [List.cons_append, Legal, ih, and_assoc]
    rfl

theorem Legal.last_le_use (legal : fence.Legal events) (member : .use token ∈ events) :
    fence.last ≤ token ∧ (fence.current = none → fence.last < token) := by
  induction events generalizing fence with
  | nil => cases member
  | cons event events ih =>
    obtain ⟨allowed, rest⟩ := legal
    rcases List.mem_cons.mp member with same | later
    · subst same
      have current : fence.current = some token := allowed
      refine ⟨Nat.le_of_eq (fence.current_last token current).symm, ?_⟩
      intro dropped
      rw [dropped] at current
      cases current
    · obtain ⟨weak, strict⟩ := ih rest later
      cases event with
      | grant first =>
        have fresh : fence.last < token := Nat.lt_of_lt_of_le allowed weak
        exact ⟨Nat.le_of_lt fresh, fun _ => fresh⟩
      | use used => exact ⟨weak, strict⟩
      | drop => exact ⟨weak, fun _ => strict rfl⟩

theorem Legal.last_le_after (legal : fence.Legal events) : fence.last ≤ (fence.after events).last := by
  induction events generalizing fence with
  | nil => exact Nat.le_refl _
  | cons event events ih =>
    obtain ⟨allowed, rest⟩ := legal
    have later := ih rest
    cases event with
    | grant token => exact Nat.le_trans (Nat.le_of_lt allowed) later
    | use token => exact later
    | drop => exact later

theorem Legal.grant_le_after (legal : fence.Legal events) (member : .grant token ∈ events) :
    token ≤ (fence.after events).last := by
  obtain ⟨before, later, rfl⟩ := List.append_of_mem member
  obtain ⟨-, -, rest⟩ := legal_append.mp legal
  rw [after_append]
  exact rest.last_le_after

def tokensGranted (events : List FencingEvent) : List Nat :=
  events.filterMap fun event =>
    match event with
    | .grant token => some token
    | _ => none

def tokensUsed (events : List FencingEvent) : List Nat :=
  events.filterMap fun event =>
    match event with
    | .use token => some token
    | _ => none

theorem mem_tokensGranted : token ∈ tokensGranted events ↔ .grant token ∈ events := by
  constructor
  · intro member
    obtain ⟨event, present, read⟩ := List.mem_filterMap.mp member
    cases event with
    | grant other =>
      cases read
      exact present
    | use other => cases read
    | drop => cases read
  · intro present
    exact List.mem_filterMap.mpr ⟨_, present, rfl⟩

theorem mem_tokensUsed : token ∈ tokensUsed events ↔ .use token ∈ events := by
  constructor
  · intro member
    obtain ⟨event, present, read⟩ := List.mem_filterMap.mp member
    cases event with
    | grant other => cases read
    | use other =>
      cases read
      exact present
    | drop => cases read
  · intro present
    exact List.mem_filterMap.mpr ⟨_, present, rfl⟩

theorem Legal.granted_increasing (legal : fence.Legal events) :
    (fence.last :: tokensGranted events).Pairwise (· < ·) := by
  induction events generalizing fence with
  | nil => exact List.pairwise_singleton ..
  | cons event events ih =>
    obtain ⟨allowed, rest⟩ := legal
    have tail := ih rest
    cases event with
    | grant token =>
      refine List.pairwise_cons.mpr ⟨?_, tail⟩
      intro later member
      rcases List.mem_cons.mp member with same | member
      · rw [same]
        exact allowed
      · exact Nat.lt_trans allowed ((List.pairwise_cons.mp tail).1 later member)
    | use token => exact tail
    | drop => exact tail

theorem Legal.used_monotone (legal : fence.Legal events) :
    (tokensUsed events).Pairwise (· ≤ ·) := by
  induction events generalizing fence with
  | nil => exact List.Pairwise.nil
  | cons event events ih =>
    obtain ⟨allowed, rest⟩ := legal
    have tail := ih rest
    cases event with
    | grant token => exact tail
    | use token =>
      refine List.pairwise_cons.mpr ⟨?_, tail⟩
      intro later member
      rw [fence.current_last token allowed]
      exact (rest.last_le_use (mem_tokensUsed.mp member)).1
    | drop => exact tail

theorem Legal.use_of_grant (legal : fence.Legal (before ++ .grant granted :: events))
    (member : .use token ∈ events) : granted ≤ token := by
  obtain ⟨-, -, rest⟩ := legal_append.mp legal
  exact (rest.last_le_use member).1

theorem Legal.use_of_drop (legal : fence.Legal (before ++ .drop :: events))
    (member : .use token ∈ events) :
    fence.last < token ∧ ∀ granted, .grant granted ∈ before → granted < token := by
  obtain ⟨earlier, -, rest⟩ := legal_append.mp legal
  have fresh := (rest.last_le_use member).2 rfl
  refine ⟨Nat.lt_of_le_of_lt earlier.last_le_after fresh, ?_⟩
  intro granted grant
  exact Nat.lt_of_le_of_lt (earlier.grant_le_after grant) fresh

end Fence

end Tamanor.Library
