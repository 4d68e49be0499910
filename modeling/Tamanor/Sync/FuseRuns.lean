import Mathlib.Algebra.Order.Ring.Int
import Tamanor.Library.Runs
import Tamanor.Sync.PaidAiGuard

/-! Runs of calls on one guard (`paid-ai-guard.ts`): slots, rate and circuit hold whatever the
calls are. The single probe after a cooldown does not: the half-open flag is set and cleared,
but no acquisition looks at it. -/

set_option autoImplicit false

namespace Tamanor.Sync

open Library

namespace PaidAiGuard

def isOpen (guard : PaidAiGuard) (now : Int) : Bool :=
  decide (0 < guard.circuitOpenUntil ∧ now < guard.circuitOpenUntil)

def cooldownOver (guard : PaidAiGuard) (now : Int) : Bool :=
  decide (0 < guard.circuitOpenUntil ∧ guard.circuitOpenUntil ≤ now)

def minuteOf (now : Int) : Int := now.fdiv 60000

def admits (cfg : PaidAiFuseConfig) (now : Int) (guard : PaidAiGuard) : Bool :=
  cfg.effectiveEnabled && !guard.isOpen now &&
    decide (guard.countIn (minuteOf now) < cfg.rpmLimit) &&
    decide (guard.inFlight < cfg.maxConcurrency)

variable {cfg : PaidAiFuseConfig} {now : Int} {guard : PaidAiGuard}

@[simp] theorem probe_windowMinute : guard.probe.windowMinute = guard.windowMinute := by
  unfold probe
  split <;> rfl

@[simp] theorem probe_windowCount : guard.probe.windowCount = guard.windowCount := by
  unfold probe
  split <;> rfl

@[simp] theorem recordFailure_windowMinute :
    (guard.recordFailure cfg now).windowMinute = guard.windowMinute := by
  unfold recordFailure openCircuit
  split
  · rfl
  · split <;> rfl

@[simp] theorem recordFailure_windowCount :
    (guard.recordFailure cfg now).windowCount = guard.windowCount := by
  unfold recordFailure openCircuit
  split
  · rfl
  · split <;> rfl

/-- An acquisition that is let through takes a slot and counts in its minute; one that is not
leaves at most the circuit half open. -/
theorem tryAcquire_eq :
    (guard.admits cfg now = true ∧ guard.isOpen now = false ∧
      guard.countIn (minuteOf now) < cfg.rpmLimit ∧ guard.inFlight < cfg.maxConcurrency ∧
      guard.tryAcquire cfg now =
        ({ guard.probe with
            windowMinute := minuteOf now
            windowCount := guard.countIn (minuteOf now) + 1
            inFlight := guard.inFlight + 1 }, none)) ∨
    (guard.admits cfg now = false ∧ ∃ reason left, (left = guard ∨ left = guard.probe) ∧
      guard.tryAcquire cfg now = (left, some reason)) := by
  have count : guard.probe.countIn (minuteOf now) = guard.countIn (minuteOf now) := by
    simp [countIn]
  cases enabled : cfg.effectiveEnabled with
  | false =>
    exact .inr ⟨by simp [admits, enabled], "paid_ai_disabled", _, .inl rfl,
      by simp [tryAcquire, enabled]⟩
  | true =>
    by_cases circuit : 0 < guard.circuitOpenUntil ∧ now < guard.circuitOpenUntil
    · exact .inr ⟨by simp [admits, isOpen, circuit], "provider_circuit_open", _, .inl rfl,
        by simp [tryAcquire, enabled, circuit]⟩
    have closed : guard.isOpen now = false := decide_eq_false circuit
    have opened : guard.tryAcquire cfg now =
        if cfg.rpmLimit < guard.countIn (minuteOf now) + 1 then (guard.probe, some "rpm_limit")
        else if cfg.maxConcurrency ≤ guard.inFlight then (guard.probe, some "max_concurrency")
        else
          ({ guard.probe with
              windowMinute := minuteOf now
              windowCount := guard.countIn (minuteOf now) + 1
              inFlight := guard.inFlight + 1 }, none) := by
      rw [tryAcquire, enabled, if_neg (by decide), if_neg circuit]
      simp only [minuteOf] at count
      simp only [count, probe_inFlight, minuteOf]
      rfl
    by_cases rate : cfg.rpmLimit < guard.countIn (minuteOf now) + 1
    · rw [if_pos rate] at opened
      refine .inr ⟨?_, _, _, .inr rfl, opened⟩
      simp [admits, show ¬ guard.countIn (minuteOf now) < cfg.rpmLimit by omega]
    rw [if_neg rate] at opened
    by_cases slots : cfg.maxConcurrency ≤ guard.inFlight
    · rw [if_pos slots] at opened
      refine .inr ⟨?_, _, _, .inr rfl, opened⟩
      simp [admits, show ¬ guard.inFlight < cfg.maxConcurrency by omega]
    · rw [if_neg slots] at opened
      refine .inl ⟨?_, closed, by omega, by omega, opened⟩
      simp [admits, enabled, closed, show guard.countIn (minuteOf now) < cfg.rpmLimit by omega,
        show guard.inFlight < cfg.maxConcurrency by omega]

end PaidAiGuard

/-! The calls and what they are about. -/

/-- A successful acquisition; its release is a closure with a flag of its own. -/
structure FuseAcquisition where
  time : Int
  circuitOpen : Bool
  pastProbe : Bool
  released : Bool

def FuseAcquisition.minute (acquisition : FuseAcquisition) : Int :=
  PaidAiGuard.minuteOf acquisition.time

/-- Where the last cooldown has led: it is over and nothing was acquired since, or the first
acquisition since, the probe, has no outcome yet. -/
inductive ProbePhase where
  | settled
  | awaited
  | probing (id : Nat)
deriving DecidableEq

def ProbePhase.isProbing : ProbePhase → Bool
  | .probing _ => true
  | _ => false

/-- The acquisitions in order, known by their position; clock and phase are ghosts. -/
structure FuseSystem where
  guard : PaidAiGuard
  acquisitions : List FuseAcquisition
  clock : Int
  phase : ProbePhase

def FuseSystem.initial (since : Int) : FuseSystem := ⟨.initial, [], since, .settled⟩

/-- An outcome is that of an acquisition, of which the guard is not told. -/
inductive FuseCall where
  | tryAcquire (now : Int)
  | release (id : Nat)
  | recordSuccess (id : Nat)
  | recordFailure (id : Nat) (now : Int)

namespace FuseSystem

def unreleased (system : FuseSystem) : Nat := system.acquisitions.countP (!·.released)

def phaseAt (cfg : PaidAiFuseConfig) (now : Int) (system : FuseSystem) : ProbePhase :=
  if cfg.effectiveEnabled && system.guard.cooldownOver now then .awaited else system.phase

def outcome (system : FuseSystem) (id : Nat) : ProbePhase :=
  if system.phase = .probing id then .settled else system.phase

def step (cfg : PaidAiFuseConfig) (system : FuseSystem) : FuseCall → FuseSystem
  | .tryAcquire now =>
    let phase := system.phaseAt cfg now
    match system.guard.tryAcquire cfg now with
    | (guard, some _) => { system with guard, clock := now, phase }
    | (guard, none) =>
      { guard
        acquisitions := system.acquisitions ++
          [⟨now, system.guard.isOpen now, phase.isProbing, false⟩]
        clock := now
        phase := if phase = .awaited then .probing system.acquisitions.length else phase }
  | .release id =>
    match system.acquisitions[id]? with
    | some acquisition =>
      if acquisition.released then system
      else
        { system with
          guard := system.guard.release
          acquisitions := system.acquisitions.set id { acquisition with released := true } }
    | none => system
  | .recordSuccess id =>
    { system with guard := system.guard.recordSuccess, phase := system.outcome id }
  | .recordFailure id now =>
    { system with
      guard := system.guard.recordFailure cfg now
      clock := now
      phase := system.outcome id }

end FuseSystem

def Paced (system : FuseSystem) : FuseCall → Prop
  | .tryAcquire now => system.clock ≤ now
  | .recordFailure _ now => system.clock ≤ now
  | _ => True

instance (system : FuseSystem) : DecidablePred (Paced system)
  | .tryAcquire now => inferInstanceAs (Decidable (system.clock ≤ now))
  | .recordFailure _ now => inferInstanceAs (Decidable (system.clock ≤ now))
  | .release _ | .recordSuccess _ => .isTrue trivial

structure FusesHold (cfg : PaidAiFuseConfig) (system : FuseSystem) : Prop where
  inFlight : system.guard.inFlight = system.unreleased
  slots : system.unreleased ≤ cfg.maxConcurrency
  rate : ∀ minute, system.acquisitions.countP (·.minute = minute) ≤ cfg.rpmLimit
  closed : ∀ acquisition ∈ system.acquisitions, acquisition.circuitOpen = false

def SingleProbe (system : FuseSystem) : Prop :=
  ∀ acquisition ∈ system.acquisitions, acquisition.pastProbe = false

/-- While a probe has no outcome and no further cooldown is over, another fuse refuses. -/
def ProbeAlone (cfg : PaidAiFuseConfig) (system : FuseSystem) : FuseCall → Prop
  | .tryAcquire now => (system.phaseAt cfg now).isProbing = true →
      system.guard.admits cfg now = false
  | _ => True

instance (cfg : PaidAiFuseConfig) (system : FuseSystem) : DecidablePred (ProbeAlone cfg system)
  | .tryAcquire now => inferInstanceAs (Decidable ((system.phaseAt cfg now).isProbing = true →
      system.guard.admits cfg now = false))
  | .recordFailure _ _ | .release _ | .recordSuccess _ => .isTrue trivial

structure FuseInvariant (cfg : PaidAiFuseConfig) (system : FuseSystem) : Prop
    extends FusesHold cfg system where
  latest : ∀ acquisition ∈ system.acquisitions, acquisition.minute ≤ system.guard.windowMinute
  paced : system.acquisitions ≠ [] → system.guard.windowMinute ≤ PaidAiGuard.minuteOf system.clock
  counted : system.acquisitions.countP (·.minute = system.guard.windowMinute) =
    system.guard.windowCount

variable {cfg : PaidAiFuseConfig} {system : FuseSystem} {since : Int}

theorem FuseInvariant.initial : FuseInvariant cfg (.initial since) where
  inFlight := rfl
  slots := Nat.zero_le _
  rate _ := Nat.zero_le _
  closed _ member := by cases member
  latest _ member := by cases member
  paced nonempty := absurd rfl nonempty
  counted := rfl

theorem minuteOf_mono {first second : Int} (before : first ≤ second) :
    PaidAiGuard.minuteOf first ≤ PaidAiGuard.minuteOf second := by
  simp only [PaidAiGuard.minuteOf, Int.fdiv_eq_ediv_of_nonneg _ (by decide : (0 : Int) ≤ 60000)]
  omega

theorem FuseInvariant.countIn (invariant : FuseInvariant cfg system) {now : Int}
    (later : system.clock ≤ now) :
    system.guard.countIn (PaidAiGuard.minuteOf now) =
      system.acquisitions.countP (·.minute = PaidAiGuard.minuteOf now) := by
  unfold PaidAiGuard.countIn
  split
  next same => rw [same, invariant.counted]
  next other =>
    refine (List.countP_eq_zero.mpr fun acquisition member counted => other ?_).symm
    have below := invariant.latest acquisition member
    have window := invariant.paced (List.ne_nil_of_mem member)
    have now' := minuteOf_mono later
    rw [of_decide_eq_true counted] at below
    omega

theorem countP_minute_concat (acquisitions : List FuseAcquisition) (added : FuseAcquisition)
    (minute : Int) :
    (acquisitions ++ [added]).countP (fun acquisition => decide (acquisition.minute = minute)) =
      acquisitions.countP (fun acquisition => decide (acquisition.minute = minute)) +
        if added.minute = minute then 1 else 0 := by
  rw [List.countP_append, List.countP_singleton]
  simp only [decide_eq_true_eq]

theorem FuseInvariant.acquire (invariant : FuseInvariant cfg system) {now : Int}
    (later : system.clock ≤ now) : FuseInvariant cfg (system.step cfg (.tryAcquire now)) := by
  have count := invariant.countIn later
  obtain ⟨-, closed, rate, slots, taken⟩ | ⟨-, reason, left, same, refused⟩ :=
    @PaidAiGuard.tryAcquire_eq cfg now system.guard
  · simp only [FuseSystem.step, taken]
    refine ⟨⟨?_, ?_, ?_, ?_⟩, ?_, ?_, ?_⟩
    · simp [FuseSystem.unreleased, invariant.inFlight]
    · have held := invariant.inFlight
      simp only [FuseSystem.unreleased] at held
      simp only [FuseSystem.unreleased, List.countP_append, List.countP_singleton, Bool.not_false,
        if_true]
      omega
    · intro minute
      rw [countP_minute_concat]
      split
      next same =>
        have same' : PaidAiGuard.minuteOf now = minute := same
        rw [← same', ← count]
        exact rate
      next => exact invariant.rate minute
    · intro acquisition member
      rcases List.mem_append.mp member with before | new
      · exact invariant.closed acquisition before
      · rw [List.mem_singleton.mp new]
        exact closed
    · intro acquisition member
      rcases List.mem_append.mp member with before | new
      · have window := invariant.paced (List.ne_nil_of_mem before)
        exact le_trans (invariant.latest acquisition before) (le_trans window (minuteOf_mono later))
      · rw [List.mem_singleton.mp new]
        exact le_refl _
    · exact fun _ => le_refl _
    · have counted := countP_minute_concat system.acquisitions ⟨now, system.guard.isOpen now,
        (system.phaseAt cfg now).isProbing, false⟩ (PaidAiGuard.minuteOf now)
      exact counted.trans (congrArg₂ (· + ·) count.symm (if_pos rfl))
  · have kept : left.inFlight = system.guard.inFlight ∧
        left.windowMinute = system.guard.windowMinute ∧
        left.windowCount = system.guard.windowCount := by
      rcases same with rfl | rfl <;> simp
    simp only [FuseSystem.step, refused]
    refine ⟨⟨kept.1.trans invariant.inFlight, invariant.slots, invariant.rate, invariant.closed⟩,
      ?_, ?_, ?_⟩
    · intro acquisition member
      rw [kept.2.1]
      exact invariant.latest acquisition member
    · intro nonempty
      rw [kept.2.1]
      exact le_trans (invariant.paced nonempty) (minuteOf_mono later)
    · rw [kept.2.1, kept.2.2]
      exact invariant.counted

theorem countP_set_released {id : Nat} {acquisition : FuseAcquisition}
    (there : system.acquisitions[id]? = some acquisition) (minute : Int) :
    (system.acquisitions.set id { acquisition with released := true }).countP
        (fun acquisition => decide (acquisition.minute = minute)) =
      system.acquisitions.countP fun acquisition => decide (acquisition.minute = minute) := by
  obtain ⟨bound, same⟩ := List.getElem?_eq_some_iff.mp there
  have present : system.acquisitions[id] ∈ system.acquisitions := List.getElem_mem bound
  have kept : ({ acquisition with released := true } : FuseAcquisition).minute =
    acquisition.minute := rfl
  rw [List.countP_set bound, same, kept]
  by_cases counted : acquisition.minute = minute
  · have positive : 0 < system.acquisitions.countP fun acquisition =>
        decide (acquisition.minute = minute) :=
      List.countP_pos_iff.mpr ⟨_, present, decide_eq_true (same ▸ counted)⟩
    rw [if_pos (decide_eq_true counted)]
    exact Nat.sub_add_cancel positive
  · simp [counted]

theorem FuseInvariant.release (invariant : FuseInvariant cfg system) (id : Nat) :
    FuseInvariant cfg (system.step cfg (.release id)) := by
  simp only [FuseSystem.step]
  split
  next acquisition there =>
    split
    · exact invariant
    next open_ =>
      obtain ⟨bound, same⟩ := List.getElem?_eq_some_iff.mp there
      have present : acquisition ∈ system.acquisitions := same ▸ List.getElem_mem bound
      have unreleased : acquisition.released = false := eq_false_of_ne_true open_
      have held : 0 < system.unreleased :=
        List.countP_pos_iff.mpr ⟨acquisition, present, by rw [unreleased]; rfl⟩
      have left : (system.acquisitions.set id { acquisition with released := true }).countP
          (!·.released) = system.unreleased - 1 := by
        rw [List.countP_set bound, same]
        simp [unreleased, FuseSystem.unreleased]
      have inFlight := invariant.inFlight
      have slots := invariant.slots
      have members : ∀ other ∈ system.acquisitions.set id { acquisition with released := true },
          other ∈ system.acquisitions ∨ other = { acquisition with released := true } :=
        fun other member => List.mem_or_eq_of_mem_set member
      refine ⟨⟨?_, ?_, ?_, ?_⟩, ?_, ?_, ?_⟩
      · simp only [PaidAiGuard.release, FuseSystem.unreleased]
        rw [left, inFlight]
      · simp only [FuseSystem.unreleased]
        omega
      · intro minute
        rw [countP_set_released there]
        exact invariant.rate minute
      · intro other member
        rcases members other member with before | rfl
        · exact invariant.closed other before
        · exact invariant.closed acquisition present
      · intro other member
        rcases members other member with before | rfl
        · exact invariant.latest other before
        · exact invariant.latest acquisition present
      · exact fun _ => invariant.paced (List.ne_nil_of_mem present)
      · rw [show system.guard.release.windowMinute = system.guard.windowMinute from rfl,
          countP_set_released there]
        exact invariant.counted
  next => exact invariant

theorem FuseInvariant.step (invariant : FuseInvariant cfg system) {call : FuseCall}
    (paced : Paced system call) : FuseInvariant cfg (system.step cfg call) := by
  cases call with
  | tryAcquire now => exact invariant.acquire paced
  | release id => exact invariant.release id
  | recordSuccess id =>
    exact ⟨⟨invariant.inFlight, invariant.slots, invariant.rate, invariant.closed⟩,
      invariant.latest, invariant.paced, invariant.counted⟩
  | recordFailure id now =>
    refine ⟨⟨?_, invariant.slots, invariant.rate, invariant.closed⟩, ?_, ?_, ?_⟩
    · exact PaidAiGuard.recordFailure_inFlight.trans invariant.inFlight
    · intro acquisition member
      rw [show (system.step cfg (.recordFailure id now)).guard.windowMinute =
        system.guard.windowMinute from PaidAiGuard.recordFailure_windowMinute]
      exact invariant.latest acquisition member
    · intro nonempty
      rw [show (system.step cfg (.recordFailure id now)).guard.windowMinute =
        system.guard.windowMinute from PaidAiGuard.recordFailure_windowMinute]
      exact le_trans (invariant.paced nonempty) (minuteOf_mono paced)
    · rw [show (system.step cfg (.recordFailure id now)).guard.windowMinute =
        system.guard.windowMinute from PaidAiGuard.recordFailure_windowMinute,
        show (system.step cfg (.recordFailure id now)).guard.windowCount =
        system.guard.windowCount from PaidAiGuard.recordFailure_windowCount]
      exact invariant.counted

theorem singleProbe_step_iff (single : SingleProbe system) (call : FuseCall) :
    SingleProbe (system.step cfg call) ↔ ProbeAlone cfg system call := by
  cases call with
  | tryAcquire now =>
    obtain ⟨admitted, -, -, -, taken⟩ | ⟨refusal, reason, left, -, refused⟩ :=
      @PaidAiGuard.tryAcquire_eq cfg now system.guard
    · simp only [FuseSystem.step, taken, ProbeAlone, admitted, Bool.true_eq_false, imp_false]
      constructor
      · intro after probing
        have clean := after _ (List.mem_append_right _ List.mem_cons_self)
        rw [probing] at clean
        cases clean
      · intro alone acquisition member
        rcases List.mem_append.mp member with before | new
        · exact single acquisition before
        · rw [List.mem_singleton.mp new]
          exact eq_false_of_ne_true alone
    · simp only [FuseSystem.step, refused, ProbeAlone, refusal, implies_true, iff_true]
      exact single
  | release id =>
    refine iff_of_true ?_ trivial
    simp only [FuseSystem.step]
    split
    next acquisition there =>
      split
      · exact single
      · intro other member
        rcases List.mem_or_eq_of_mem_set member with before | rfl
        · exact single other before
        · exact single acquisition (List.mem_of_getElem? there)
    next => exact single
  | recordSuccess id => exact iff_of_true single trivial
  | recordFailure id now => exact iff_of_true single trivial

/-- In every state of a run whose times do not decrease, the slots that are taken are the
acquisitions that are not released, and not too many; no minute has too many acquisitions, and
none was made while the circuit was open. A second acquisition is made before the outcome of a
probe unless another fuse refuses all of them. -/
theorem fuses_hold_iff (cfg : PaidAiFuseConfig) (since : Int) (calls : List FuseCall)
    (paced : Runs.Meets (FuseSystem.step cfg) Paced (.initial since) calls) :
    (∀ reached ∈ Runs.states (FuseSystem.step cfg) (.initial since) calls,
      FusesHold cfg reached) ∧
      ((∀ reached ∈ Runs.states (FuseSystem.step cfg) (.initial since) calls,
          SingleProbe reached) ↔
        Runs.Meets (FuseSystem.step cfg) (ProbeAlone cfg) (.initial since) calls) := by
  constructor
  · have preserved : ∀ {system call}, FuseInvariant cfg system → Paced system call →
        FuseInvariant cfg (FuseSystem.step cfg system call) :=
      fun invariant paced => invariant.step paced
    intro reached member
    exact (Runs.invariant_states preserved FuseInvariant.initial paced reached member).toFusesHold
  · refine @Runs.forall_states_iff_meets _ _ (FuseSystem.step cfg) (ProbeAlone cfg) SingleProbe _
      (fun _ => True) (fun _ => trivial) (fun _ single => singleProbe_step_iff single _) _ trivial ?_
    intro acquisition member
    cases member

def twoSlots : PaidAiFuseConfig where
  enabled := true
  emergencyDisable := false
  globalDailyCallLimit := 100
  globalDailyCostLimitMicros := 1000000
  rpmLimit := 60
  maxConcurrency := 2
  maxRetries := 0
  circuitFailureThreshold := 1
  circuitCooldownMs := 60000
  tenantAllowlist := []

/-- A failure opens the circuit, which refuses a call; the probe of the next minute succeeds, and
two calls follow it. -/
def oneProbe : List FuseCall :=
  [.tryAcquire 1000, .recordFailure 0 1000, .release 0, .tryAcquire 30000, .tryAcquire 61000,
    .recordSuccess 1, .release 1, .tryAcquire 61500, .tryAcquire 62000]

theorem fuses_hold_probe :
    Runs.Meets (FuseSystem.step twoSlots) Paced (.initial 0) oneProbe ∧
      ∀ reached ∈ Runs.states (FuseSystem.step twoSlots) (.initial 0) oneProbe,
        FusesHold twoSlots reached ∧ SingleProbe reached := by
  have paced : Runs.Meets (FuseSystem.step twoSlots) Paced (.initial 0) oneProbe := by decide
  have alone : Runs.Meets (FuseSystem.step twoSlots) (ProbeAlone twoSlots) (.initial 0)
      oneProbe := by decide
  obtain ⟨holds, single⟩ := fuses_hold_iff twoSlots 0 oneProbe paced
  exact ⟨paced, fun reached member => ⟨holds reached member, single.mpr alone reached member⟩⟩

/-- A failure opens the circuit for a minute; then two calls come at once. -/
def twoProbes : List FuseCall :=
  [.tryAcquire 1000, .recordFailure 0 1000, .release 0, .tryAcquire 61000, .tryAcquire 61000]

/-- Two acquisitions succeed after one cooldown, and none of them has an outcome. -/
theorem not_singleProbe :
    ¬ ∀ cfg since calls, Runs.Meets (FuseSystem.step cfg) Paced (.initial since) calls →
      ∀ reached ∈ Runs.states (FuseSystem.step cfg) (.initial since) calls,
        FusesHold cfg reached ∧ SingleProbe reached := by
  intro holds
  have paced : Runs.Meets (FuseSystem.step twoSlots) Paced (.initial 0) twoProbes := by
    decide
  obtain ⟨-, single⟩ := holds twoSlots 0 twoProbes paced _ (Runs.run_mem_states twoProbes)
  have second : (⟨61000, false, true, false⟩ : FuseAcquisition) ∈
      (Runs.run (FuseSystem.step twoSlots) (.initial 0) twoProbes).acquisitions := by
    have acquired : (Runs.run (FuseSystem.step twoSlots) (.initial 0) twoProbes).acquisitions =
        [⟨1000, false, false, true⟩, ⟨61000, false, false, false⟩, ⟨61000, false, true, false⟩] := by
      rfl
    rw [acquired]
    simp
  have clean := single _ second
  cases clean

end Tamanor.Sync
