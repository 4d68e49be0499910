import Tamanor.Core.Billing

/-! Facts about the two readings of a billing state, its access and its label. -/

set_option autoImplicit false

namespace Tamanor.Core

theorem readStatus_value (status : BillingStatus) : readStatus (some status.value) = some status := by
  cases status <;> decide

theorem readStatus_eq_some_iff {status : Option String} {known : BillingStatus} :
    readStatus status = some known ↔ status = some known.value := by
  constructor
  · intro found
    have matched := List.find?_some found
    exact eq_of_beq matched
  · rintro rfl
    exact readStatus_value known

@[simp] theorem isAhead_none (now : Int) : isAhead none now = false := rfl

@[simp] theorem withinGrace_none (graceMs now : Int) : withinGrace none graceMs now = false := rfl

theorem isAhead_eq_true_iff {date : Option Int} {now : Int} :
    isAhead date now = true ↔ ∃ time, date = some time ∧ now < time := by
  cases date with
  | none => simp [isAhead]
  | some time => simp [isAhead]

theorem isAhead_mono {date : Option Int} {now later : Int} (order : now ≤ later)
    (ahead : isAhead date later = true) : isAhead date now = true := by
  obtain ⟨time, given, before⟩ := isAhead_eq_true_iff.mp ahead
  exact isAhead_eq_true_iff.mpr ⟨time, given, by omega⟩

theorem evaluateCheckoutGuard_mono {sub : Option CheckoutGuardSubscription} {now later : Int}
    (order : now ≤ later) (allowed : evaluateCheckoutGuard sub now = .allowed) :
    evaluateCheckoutGuard sub later = .allowed := by
  cases sub with
  | none => rfl
  | some sub =>
    simp only [evaluateCheckoutGuard] at allowed ⊢
    split
    next => rfl
    next given =>
      rw [if_neg given] at allowed
      generalize readStatus sub.status = status at allowed ⊢
      rcases status with _ | status
      · exact allowed
      · cases status with
        | canceled =>
          dsimp only at allowed ⊢
          split
          next ahead =>
            rw [if_pos (isAhead_mono order ahead)] at allowed
            cases allowed
          next => rfl
        | _ => exact allowed

/-! The label of a trial and the access of a status. -/

def TenantLifecycleState.IsActive (state : TenantLifecycleState) : Prop :=
  state = .activeTrial ∨ state = .activePaid

instance (state : TenantLifecycleState) : Decidable state.IsActive :=
  inferInstanceAs (Decidable (_ ∨ _))

/-- A status that grants nothing, while the label still goes by the trial. -/
def TrialOutlivesStatus (input : EffectiveAccessInput) : Prop :=
  input.internalAccess = false ∧ input.persistedAccessState ≠ some "suspended" ∧
    isAhead input.trialEndsAt input.now = true ∧
    (readStatus input.status = none ∨ readStatus input.status = some .incompleteExpired)

instance (input : EffectiveAccessInput) : Decidable (TrialOutlivesStatus input) :=
  inferInstanceAs (Decidable (_ ∧ _))

theorem resolveEffectiveAccessState_of_plain {input : EffectiveAccessInput}
    (external : input.internalAccess = false)
    (unsuspended : input.persistedAccessState ≠ some "suspended") :
    resolveEffectiveAccessState input =
      if readStatus input.status = some .unpaid ∨ readStatus input.status = some .paused then
        .suspended
      else resolveAccessState input.toAccessInput := by
  unfold resolveEffectiveAccessState
  simp only [external, Bool.false_eq_true, if_false, unsuspended, readStatus_eq_some_iff]
  rfl

theorem lifecycle_isActive_iff_fullAccess_iff (input : EffectiveAccessInput) :
    ((resolveTenantLifecycle input).IsActive ↔ resolveEffectiveAccessState input = .fullAccess) ↔
      ¬ TrialOutlivesStatus input := by
  by_cases internal : input.internalAccess = true
  · simp [resolveTenantLifecycle, resolveEffectiveAccessState, TenantLifecycleState.IsActive,
      TrialOutlivesStatus, internal]
  · rw [Bool.not_eq_true] at internal
    by_cases suspended : input.persistedAccessState = some "suspended"
    · simp [resolveTenantLifecycle, resolveEffectiveAccessState, TenantLifecycleState.IsActive,
        TrialOutlivesStatus, internal, suspended]
    · rw [resolveEffectiveAccessState_of_plain internal suspended]
      simp only [resolveTenantLifecycle, internal, suspended, TrialOutlivesStatus,
        resolveAccessState, TenantLifecycleState.IsActive]
      generalize readStatus input.status = status
      generalize isAhead input.trialEndsAt input.now = trialActive
      generalize isAhead input.currentPeriodEnd input.now = periodActive
      generalize withinGrace input.currentPeriodEnd _ input.now = inGrace
      rcases status with _ | status
      · cases trialActive <;> simp [suspended]
      · cases status with
        | pastDue => cases inGrace <;> simp
        | canceled => cases periodActive <;> simp
        | trialing | noSubscription | incompleteExpired => cases trialActive <;> simp [suspended]
        | active | unpaid | incomplete | paused => simp

end Tamanor.Core
