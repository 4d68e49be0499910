import Mathlib.Data.List.Nodup
import Tamanor.Core.BillingProperties
import Tamanor.Db.CheckoutAttempts

/-! The state machine of Checkout attempts, for any number of clients at once. -/

set_option autoImplicit false

namespace Tamanor.Db

open Tamanor.Core Library

/-- The identity of an attempt and what it was created for stay; an attempt that is no
longer live keeps its status. -/
structure Evolves (before after : CheckoutAttempt) : Prop where
  id : after.id = before.id
  tenantId : after.tenantId = before.tenantId
  requestedPlan : after.requestedPlan = before.requestedPlan
  requestedInterval : after.requestedInterval = before.requestedInterval
  stripePriceId : after.stripePriceId = before.stripePriceId
  idempotencyKey : after.idempotencyKey = before.idempotencyKey
  live : after.isLive = true → before.isLive = true
  terminal : before.isLive = false → after.status = before.status

theorem Evolves.refl (attempt : CheckoutAttempt) : Evolves attempt attempt :=
  ⟨rfl, rfl, rfl, rfl, rfl, rfl, fun live => live, fun _ => rfl⟩

variable {first second attempt : CheckoutAttempt} {tenantId : String} {expired : List String}
  {call : ReserveCall}

theorem Evolves.trans {third : CheckoutAttempt} (one : Evolves first second)
    (two : Evolves second third) : Evolves first third where
  id := two.id.trans one.id
  tenantId := two.tenantId.trans one.tenantId
  requestedPlan := two.requestedPlan.trans one.requestedPlan
  requestedInterval := two.requestedInterval.trans one.requestedInterval
  stripePriceId := two.stripePriceId.trans one.stripePriceId
  idempotencyKey := two.idempotencyKey.trans one.idempotencyKey
  live := fun live => one.live (two.live live)
  terminal := by
    intro terminal
    have still : second.isLive = false := by
      rw [← Bool.not_eq_true]
      intro live
      rw [one.live live] at terminal
      cases terminal
    rw [two.terminal still, one.terminal terminal]

theorem evolves_expire (live : attempt.isLive = true) : Evolves attempt attempt.expire where
  id := rfl
  tenantId := rfl
  requestedPlan := rfl
  requestedInterval := rfl
  stripePriceId := rfl
  idempotencyKey := rfl
  live := fun _ => live
  terminal := by
    intro terminal
    rw [live] at terminal
    cases terminal

theorem isLive_of_creating (creating : attempt.status = .creating) : attempt.isLive = true := by
  simp [CheckoutAttempt.isLive, creating]

theorem AttemptCall.evolves (call : AttemptCall) (clock : Int)
    (hit : call.update.hits attempt = true) :
    Evolves attempt (call.update.write clock attempt) := by
  have live : attempt.isLive = true := by
    cases call with
    | markCheckoutAttemptOpen | markCheckoutAttemptFailed =>
      simp only [AttemptCall.update, Db.markCheckoutAttemptOpen, Db.markCheckoutAttemptFailed,
        Bool.and_eq_true, beq_iff_eq] at hit
      exact isLive_of_creating hit.2
    | completeCheckoutAttemptBySession | expireCheckoutAttemptBySession
    | completeLiveCheckoutAttemptsForTenant =>
      simp only [AttemptCall.update, Db.completeCheckoutAttemptBySession,
        Db.expireCheckoutAttemptBySession, Db.completeLiveCheckoutAttemptsForTenant,
        retireAttempts, Bool.and_eq_true] at hit
      exact hit.2
  have running : ¬ attempt.isLive = false := by simp [live]
  cases call <;>
    exact ⟨rfl, rfl, rfl, rfl, rfl, rfl, fun _ => live, fun terminal => absurd terminal running⟩

/-- The primary key, the unique key and the partial unique index. -/
structure Constrained (attempts : List CheckoutAttempt) : Prop where
  ids : (attempts.map CheckoutAttempt.id).Nodup
  keys : (attempts.map CheckoutAttempt.idempotencyKey).Nodup
  oneLive : ∀ first ∈ attempts, ∀ second ∈ attempts, first.tenantId = second.tenantId →
    first.isLive = true → second.isLive = true → first = second

variable {attempts : List CheckoutAttempt} {revise : CheckoutAttempt → CheckoutAttempt}

theorem Constrained.map (constrained : Constrained attempts)
    (evolves : ∀ attempt ∈ attempts, Evolves attempt (revise attempt)) :
    Constrained (attempts.map revise) where
  ids := by
    have same : (attempts.map revise).map CheckoutAttempt.id = attempts.map CheckoutAttempt.id := by
      rw [List.map_map]
      exact List.map_congr_left fun attempt member => (evolves attempt member).id
    rw [same]
    exact constrained.ids
  keys := by
    have same : (attempts.map revise).map CheckoutAttempt.idempotencyKey =
        attempts.map CheckoutAttempt.idempotencyKey := by
      rw [List.map_map]
      exact List.map_congr_left fun attempt member => (evolves attempt member).idempotencyKey
    rw [same]
    exact constrained.keys
  oneLive := by
    intro first firstMember second secondMember same firstLive secondLive
    obtain ⟨earlier, earlierMember, rfl⟩ := List.mem_map.mp firstMember
    obtain ⟨other, otherMember, rfl⟩ := List.mem_map.mp secondMember
    have one := evolves earlier earlierMember
    have two := evolves other otherMember
    rw [one.tenantId, two.tenantId] at same
    rw [constrained.oneLive earlier earlierMember other otherMember same (one.live firstLive)
      (two.live secondLive)]

theorem Constrained.append (constrained : Constrained attempts) {added : CheckoutAttempt}
    (fresh : ∀ attempt ∈ attempts, sharesKey attempt added = false)
    (vacant : ∀ attempt ∈ attempts, attempt.tenantId = added.tenantId → attempt.isLive = false) :
    Constrained (attempts ++ [added]) where
  ids := by
    rw [List.map_append, List.map_singleton, List.nodup_append]
    refine ⟨constrained.ids, List.nodup_singleton _, ?_⟩
    intro id member other last same
    obtain ⟨attempt, present, rfl⟩ := List.mem_map.mp member
    rw [List.mem_singleton.mp last] at same
    have different := fresh attempt present
    simp [sharesKey, same] at different
  keys := by
    rw [List.map_append, List.map_singleton, List.nodup_append]
    refine ⟨constrained.keys, List.nodup_singleton _, ?_⟩
    intro key member other last same
    obtain ⟨attempt, present, rfl⟩ := List.mem_map.mp member
    rw [List.mem_singleton.mp last] at same
    have different := fresh attempt present
    simp [sharesKey, same] at different
  oneLive := by
    intro first firstMember second secondMember same firstLive secondLive
    rcases List.mem_append.mp firstMember with firstOld | firstNew
    · rcases List.mem_append.mp secondMember with secondOld | secondNew
      · exact constrained.oneLive first firstOld second secondOld same firstLive secondLive
      · rw [List.mem_singleton.mp secondNew] at same
        rw [vacant first firstOld same] at firstLive
        cases firstLive
    · rw [List.mem_singleton.mp firstNew] at same ⊢
      rcases List.mem_append.mp secondMember with secondOld | secondNew
      · rw [vacant second secondOld same.symm] at secondLive
        cases secondLive
      · exact (List.mem_singleton.mp secondNew).symm

namespace ReserveStage

def holdsLock : ReserveStage → Bool
  | .called _ => false
  | _ => true

def passedGuard : ReserveStage → Bool
  | .called _ | .locked _ => false
  | _ => true

def foundVacant : ReserveStage → Bool
  | .vacant _ _ | .inserted _ _ _ => true
  | _ => false

def created? : ReserveStage → Option CheckoutAttempt
  | .inserted _ _ attempt => some attempt
  | _ => none

end ReserveStage

/-- What a transaction may rely on: its locks, the rows it has expired, the guard it has
passed, the vacancy it has found and the freshness of the row it has inserted. -/
structure SessionSound (system : CheckoutSystem) (client : Nat) (stage : ReserveStage) : Prop where
  lock : stage.holdsLock = true → system.advisoryLocks stage.tenantId = some client
  rows : ∀ id ∈ stage.expired, system.rowLocks id = some client ∧
    ∃ attempt ∈ system.attempts, attempt.id = id ∧ attempt.tenantId = stage.tenantId ∧
      attempt.isLive = true
  allowed : stage.passedGuard = true →
    evaluateCheckoutGuard (system.subscriptions stage.tenantId) system.clock = .allowed
  vacant : stage.foundVacant = true → ∀ attempt ∈ system.attempts,
    isOccupying stage.tenantId stage.expired attempt = false
  created : ∀ attempt, stage.created? = some attempt → attempt.tenantId = stage.tenantId ∧
    (client, attempt) ∈ system.inserting ∧
    ∀ other ∈ system.attempts, sharesKey other attempt = false

structure CheckoutSound (system : CheckoutSystem) : Prop where
  constrained : Constrained system.attempts
  sessions : ∀ {client stage}, system.sessions client = some stage →
    SessionSound system client stage
  inserting : ∀ entry ∈ system.inserting, ∃ stage, system.sessions entry.1 = some stage ∧
    stage.created? = some entry.2
  distinct : ∀ first ∈ system.inserting, ∀ second ∈ system.inserting, first.1 ≠ second.1 →
    sharesKey first.2 second.2 = false
  replies : ∀ reply ∈ system.replies, ∀ attemptId idempotencyKey priceId,
    reply.result = .reserved attemptId idempotencyKey priceId →
    evaluateCheckoutGuard (system.subscriptions reply.tenantId) reply.clock = .allowed

/-- What a step of `mover` leaves to the other transactions. -/
structure CheckoutFrame (before after : CheckoutSystem) (mover : Option Nat)
    (revise : CheckoutAttempt → CheckoutAttempt) (added : List CheckoutAttempt) : Prop where
  attempts : after.attempts = before.attempts.map revise ++ added
  evolves : ∀ attempt ∈ before.attempts, Evolves attempt (revise attempt)
  untouched : ∀ attempt ∈ before.attempts, ∀ other, some other ≠ mover →
    before.rowLocks attempt.id = some other → revise attempt = attempt
  added : ∀ attempt ∈ added, before.advisoryLocks attempt.tenantId = mover ∧
    ∀ entry ∈ before.inserting, some entry.1 ≠ mover → sharesKey attempt entry.2 = false
  subscriptions : after.subscriptions = before.subscriptions
  clock : before.clock ≤ after.clock
  sessions : ∀ other, some other ≠ mover → after.sessions other = before.sessions other
  advisoryLocks : ∀ tenantId other, some other ≠ mover →
    before.advisoryLocks tenantId = some other → after.advisoryLocks tenantId = some other
  rowLocks : ∀ id other, some other ≠ mover →
    before.rowLocks id = some other → after.rowLocks id = some other
  inserting : ∀ entry ∈ before.inserting, some entry.1 ≠ mover → entry ∈ after.inserting

variable {before after : CheckoutSystem} {mover : Option Nat} {added : List CheckoutAttempt}

theorem sharesKey_of_evolves {other : CheckoutAttempt} (evolves : Evolves first second) :
    sharesKey second other = sharesKey first other := by
  simp [sharesKey, evolves.id, evolves.idempotencyKey]

theorem isOccupying_of_evolves (evolves : Evolves first second)
    (vacant : isOccupying tenantId expired first = false) :
    isOccupying tenantId expired second = false := by
  rw [← Bool.not_eq_true] at vacant ⊢
  intro occupying
  simp only [isOccupying, Bool.and_eq_true, evolves.tenantId, evolves.id] at occupying vacant
  exact vacant ⟨⟨occupying.1.1, evolves.live occupying.1.2⟩, occupying.2⟩

theorem SessionSound.frame (frame : CheckoutFrame before after mover revise added) {other : Nat}
    {stage : ReserveStage} (elsewhere : some other ≠ mover)
    (sound : SessionSound before other stage)
    (addedLocked : stage.foundVacant = true → stage.holdsLock = true) :
    SessionSound after other stage where
  lock holds := frame.advisoryLocks _ other elsewhere (sound.lock holds)
  rows := by
    intro id member
    obtain ⟨locked, attempt, present, same, tenant, live⟩ := sound.rows id member
    refine ⟨frame.rowLocks id other elsewhere locked, attempt, ?_, same, tenant, live⟩
    rw [frame.attempts]
    have kept := frame.untouched attempt present other elsewhere (same ▸ locked)
    exact List.mem_append_left _ (List.mem_map.mpr ⟨attempt, present, kept⟩)
  allowed passed := by
    rw [frame.subscriptions]
    exact evaluateCheckoutGuard_mono frame.clock (sound.allowed passed)
  vacant found := by
    intro attempt member
    rw [frame.attempts] at member
    rcases List.mem_append.mp member with revised | new
    · obtain ⟨earlier, present, rfl⟩ := List.mem_map.mp revised
      exact isOccupying_of_evolves (frame.evolves earlier present)
        (sound.vacant found earlier present)
    · rw [← Bool.not_eq_true]
      intro occupying
      simp only [isOccupying, Bool.and_eq_true, beq_iff_eq] at occupying
      have holder := (frame.added attempt new).1
      rw [occupying.1.1, sound.lock (addedLocked found)] at holder
      exact elsewhere holder
  created attempt inserted := by
    obtain ⟨tenant, listed, fresh⟩ := sound.created attempt inserted
    refine ⟨tenant, frame.inserting _ listed elsewhere, ?_⟩
    intro row member
    rw [frame.attempts] at member
    rcases List.mem_append.mp member with revised | new
    · obtain ⟨earlier, present, rfl⟩ := List.mem_map.mp revised
      rw [sharesKey_of_evolves (frame.evolves earlier present)]
      exact fresh earlier present
    · exact (frame.added row new).2 _ listed elsewhere

theorem sharesKey_comm (first second : CheckoutAttempt) :
    sharesKey first second = sharesKey second first := by
  simp only [sharesKey, Bool.beq_comm]

theorem holdsLock_of_foundVacant {stage : ReserveStage} (found : stage.foundVacant = true) :
    stage.holdsLock = true := by
  cases stage <;> simp_all [ReserveStage.foundVacant, ReserveStage.holdsLock]

/-- The rows that a step leaves in flight are other transactions' or a new one of its own. -/
def InsertsApart (before after : CheckoutSystem) (mover : Option Nat) : Prop :=
  ∀ entry ∈ after.inserting, (entry ∈ before.inserting ∧ some entry.1 ≠ mover) ∨
    (some entry.1 = mover ∧
      (∃ stage, after.sessions entry.1 = some stage ∧ stage.created? = some entry.2) ∧
      ∀ other ∈ before.inserting, sharesKey other.2 entry.2 = false)

theorem CheckoutSound.of_frame (sound : CheckoutSound before)
    (frame : CheckoutFrame before after mover revise added)
    (constrained : Constrained after.attempts)
    (own : ∀ client stage, mover = some client → after.sessions client = some stage →
      SessionSound after client stage)
    (apart : InsertsApart before after mover)
    (replies : ∀ reply ∈ after.replies, reply ∈ before.replies ∨
      ∀ attemptId idempotencyKey priceId,
        reply.result = .reserved attemptId idempotencyKey priceId →
        evaluateCheckoutGuard (after.subscriptions reply.tenantId) reply.clock = .allowed) :
    CheckoutSound after where
  constrained := constrained
  sessions := by
    intro client stage running
    by_cases moved : some client = mover
    · exact own client stage moved.symm running
    · rw [frame.sessions client moved] at running
      exact (sound.sessions running).frame frame moved holdsLock_of_foundVacant
  inserting := by
    intro entry member
    rcases apart entry member with ⟨old, elsewhere⟩ | ⟨_, stage, _⟩
    · rw [frame.sessions entry.1 elsewhere]
      exact sound.inserting entry old
    · exact stage
  distinct := by
    intro first firstMember second secondMember different
    rcases apart first firstMember with ⟨firstOld, _⟩ | ⟨firstMoved, _, firstNew⟩
    · rcases apart second secondMember with ⟨secondOld, _⟩ | ⟨_, _, secondNew⟩
      · exact sound.distinct first firstOld second secondOld different
      · exact secondNew first firstOld
    · rcases apart second secondMember with ⟨secondOld, _⟩ | ⟨secondMoved, _, _⟩
      · rw [sharesKey_comm]
        exact firstNew second secondOld
      · exact absurd (Option.some.inj (firstMoved.trans secondMoved.symm)) different
  replies := by
    intro reply member attemptId idempotencyKey priceId reserved
    rcases replies reply member with old | new
    · rw [frame.subscriptions]
      exact sound.replies reply old attemptId idempotencyKey priceId reserved
    · exact new attemptId idempotencyKey priceId reserved

variable {system : CheckoutSystem} {client : Nat} {stage : ReserveStage}

theorem CheckoutSound.not_inserting (sound : CheckoutSound system)
    (running : system.sessions client = some stage) (early : stage.created? = none) :
    ∀ entry ∈ system.inserting, some entry.1 ≠ some client := by
  intro entry member own
  obtain ⟨found, session, created⟩ := sound.inserting entry member
  rw [Option.some.inj own, running] at session
  rw [← Option.some.inj session, early] at created
  cases created

theorem CheckoutSound.move (sound : CheckoutSound before) {client : Nat} (next : ReserveStage)
    (idle : ∀ entry ∈ before.inserting, some entry.1 ≠ some client)
    (attempts : after.attempts = before.attempts)
    (subscriptions : after.subscriptions = before.subscriptions)
    (clock : after.clock = before.clock) (replies : after.replies = before.replies)
    (sessions : after.sessions = Function.update before.sessions client (some next))
    (advisoryLocks : ∀ tenantId other, other ≠ client →
      before.advisoryLocks tenantId = some other → after.advisoryLocks tenantId = some other)
    (rowLocks : ∀ id other, other ≠ client →
      before.rowLocks id = some other → after.rowLocks id = some other)
    (inserting : ∀ entry, entry ∈ after.inserting ↔ entry ∈ before.inserting ∨
      (entry.1 = client ∧ next.created? = some entry.2))
    (fresh : ∀ attempt, next.created? = some attempt → ∀ other ∈ before.inserting,
      sharesKey other.2 attempt = false)
    (own : SessionSound after client next) : CheckoutSound after := by
  have different {other : Nat} (elsewhere : some other ≠ some client) : other ≠ client :=
    fun same => elsewhere (congrArg some same)
  have frame : CheckoutFrame before after (some client) (fun attempt => attempt) [] := {
    attempts := by simp [attempts]
    evolves := fun attempt _ => Evolves.refl attempt
    untouched := fun _ _ _ _ _ => rfl
    added := by simp
    subscriptions := subscriptions
    clock := Int.le_of_eq clock.symm
    sessions := by
      intro other elsewhere
      rw [sessions, Function.update_of_ne (different elsewhere)]
    advisoryLocks := fun tenantId other elsewhere => advisoryLocks tenantId other (different elsewhere)
    rowLocks := fun id other elsewhere => rowLocks id other (different elsewhere)
    inserting := fun entry member _ => (inserting entry).mpr (.inl member) }
  refine sound.of_frame frame (attempts ▸ sound.constrained) ?_ ?_ ?_
  · intro other found moved session
    rw [← Option.some.inj moved, sessions, Function.update_self] at session
    rw [← Option.some.inj moved, ← Option.some.inj session]
    exact own
  · intro entry member
    rcases (inserting entry).mp member with old | ⟨own, created⟩
    · exact .inl ⟨old, idle entry old⟩
    · refine .inr ⟨congrArg some own, ⟨next, ?_, created⟩, fresh entry.2 created⟩
      rw [own, sessions, Function.update_self]
  · intro reply member
    exact .inl (replies ▸ member)

theorem CheckoutSound.close (sound : CheckoutSound system) (client : Nat) :
    CheckoutSound (system.close client) := by
  have frame : CheckoutFrame system (system.close client) (some client) (fun attempt => attempt) [] := {
    attempts := by simp [CheckoutSystem.close]
    evolves := fun attempt _ => Evolves.refl attempt
    untouched := fun _ _ _ _ _ => rfl
    added := by simp
    subscriptions := rfl
    clock := Int.le_refl _
    sessions := by
      intro other elsewhere
      exact Function.update_of_ne (fun same => elsewhere (congrArg some same)) _ _
    advisoryLocks := by
      intro tenantId other elsewhere held
      simpa [CheckoutSystem.close, held] using elsewhere
    rowLocks := by
      intro id other elsewhere held
      simpa [CheckoutSystem.close, held] using elsewhere
    inserting := by
      intro entry member elsewhere
      have different : entry.1 ≠ client := fun same => elsewhere (congrArg some same)
      simp [CheckoutSystem.close, member, different] }
  refine sound.of_frame frame sound.constrained ?_ ?_ fun reply member => .inl member
  · intro other found moved session
    rw [← Option.some.inj moved] at session
    simp [CheckoutSystem.close] at session
  · intro entry member
    simp only [CheckoutSystem.close, List.mem_filter, bne_iff_ne] at member
    exact .inl ⟨member.1, fun own => member.2 (Option.some.inj own)⟩

theorem SessionSound.expired_live (sound : SessionSound system client stage)
    (constrained : Constrained system.attempts) (member : attempt ∈ system.attempts)
    (expired : attempt.id ∈ stage.expired) :
    attempt.isLive = true ∧ system.rowLocks attempt.id = some client := by
  obtain ⟨locked, row, present, same, _, live⟩ := sound.rows attempt.id expired
  rw [← List.inj_on_of_nodup_map constrained.ids present member same]
  exact ⟨live, same ▸ locked⟩

def CheckoutAttempt.expireIn (expired : List String) (attempt : CheckoutAttempt) : CheckoutAttempt :=
  if expired.contains attempt.id then attempt.expire else attempt

theorem CheckoutSound.evolves_expireIn (sound : CheckoutSound system)
    (running : system.sessions client = some stage) :
    ∀ attempt ∈ system.attempts, Evolves attempt (attempt.expireIn stage.expired) := by
  intro attempt member
  unfold CheckoutAttempt.expireIn
  split
  · rename_i listed
    exact evolves_expire ((sound.sessions running).expired_live sound.constrained member
      (List.contains_iff_mem.mp listed)).1
  · exact Evolves.refl attempt

theorem CheckoutSound.commit (sound : CheckoutSound system)
    (running : system.sessions client = some stage) {created : List CheckoutAttempt}
    {result : ReserveCheckoutResult}
    (constrained : Constrained
      (system.attempts.map (CheckoutAttempt.expireIn stage.expired) ++ created))
    (locked : ∀ attempt ∈ created, system.advisoryLocks attempt.tenantId = some client ∧
      ∀ entry ∈ system.inserting, some entry.1 ≠ some client → sharesKey attempt entry.2 = false)
    (allowed : ∀ attemptId idempotencyKey priceId,
      result = .reserved attemptId idempotencyKey priceId →
      evaluateCheckoutGuard (system.subscriptions stage.tenantId) system.clock = .allowed) :
    CheckoutSound (system.commit client stage created result) := by
  have own := sound.sessions running
  have frame : CheckoutFrame system (system.commit client stage created result) (some client)
      (CheckoutAttempt.expireIn stage.expired) created := {
    attempts := rfl
    evolves := sound.evolves_expireIn running
    untouched := by
      intro attempt member other elsewhere held
      refine if_neg fun listed => ?_
      have mine := (own.expired_live sound.constrained member (List.contains_iff_mem.mp listed)).2
      exact elsewhere (held.symm.trans mine)
    added := locked
    subscriptions := rfl
    clock := Int.le_refl _
    sessions := by
      intro other elsewhere
      exact Function.update_of_ne (fun same => elsewhere (congrArg some same)) _ _
    advisoryLocks := by
      intro tenantId other elsewhere held
      simpa [CheckoutSystem.commit, CheckoutSystem.close, held] using elsewhere
    rowLocks := by
      intro id other elsewhere held
      simpa [CheckoutSystem.commit, CheckoutSystem.close, held] using elsewhere
    inserting := by
      intro entry member elsewhere
      have different : entry.1 ≠ client := fun same => elsewhere (congrArg some same)
      simp [CheckoutSystem.commit, CheckoutSystem.close, member, different] }
  refine sound.of_frame frame constrained ?_ ?_ ?_
  · intro other found moved session
    rw [← Option.some.inj moved] at session
    simp [CheckoutSystem.commit, CheckoutSystem.close] at session
  · intro entry member
    simp only [CheckoutSystem.commit, CheckoutSystem.close, List.mem_filter, bne_iff_ne] at member
    exact .inl ⟨member.1, fun mine => member.2 (Option.some.inj mine)⟩
  · intro reply member
    simp only [CheckoutSystem.commit, List.mem_append, List.mem_singleton] at member
    rcases member with old | rfl
    · exact .inl old
    · exact .inr allowed

theorem CheckoutSound.answer (sound : CheckoutSound system)
    (running : system.sessions client = some stage) {result : ReserveCheckoutResult}
    (other : ∀ attemptId idempotencyKey priceId,
      result ≠ .reserved attemptId idempotencyKey priceId) :
    CheckoutSound (system.commit client stage [] result) := by
  refine sound.commit running ?_ (by simp) fun attemptId idempotencyKey priceId same =>
    absurd same (other attemptId idempotencyKey priceId)
  rw [List.append_nil]
  exact sound.constrained.map (sound.evolves_expireIn running)

theorem CheckoutSound.setSession (sound : CheckoutSound system) {next : ReserveStage}
    (idle : ∀ entry ∈ system.inserting, some entry.1 ≠ some client)
    (early : next.created? = none)
    (own : SessionSound (system.setSession client (some next)) client next) :
    CheckoutSound (system.setSession client (some next)) := by
  refine sound.move next idle rfl rfl rfl rfl rfl (fun _ _ _ held => held)
    (fun _ _ _ held => held) ?_ ?_ own
  · intro entry
    simp [CheckoutSystem.setSession, early]
  · intro attempt created
    rw [early] at created
    cases created

theorem CheckoutSound.called (sound : CheckoutSound system)
    (running : system.sessions client = some (.called call)) :
    CheckoutSound (system.advance client (.called call)) := by
  simp only [CheckoutSystem.advance]
  split
  · exact sound
  · rename_i free
    refine sound.move (.locked call) (sound.not_inserting running rfl) rfl rfl rfl rfl rfl ?_
      (fun _ _ _ held => held) ?_ ?_ ?_
    · intro tenantId other _ held
      have different : tenantId ≠ call.input.tenantId := by
        rintro rfl
        rw [free] at held
        cases held
      exact (Function.update_of_ne different _ _).trans held
    · intro entry
      simp [CheckoutSystem.setSession, ReserveStage.created?]
    · intro attempt created
      cases created
    · constructor
      · intro _
        exact Function.update_self _ _ _
      all_goals simp [ReserveStage.expired, ReserveStage.passedGuard, ReserveStage.foundVacant,
        ReserveStage.created?]

theorem CheckoutSound.locked (sound : CheckoutSound system)
    (running : system.sessions client = some (.locked call)) :
    CheckoutSound (system.advance client (.locked call)) := by
  simp only [CheckoutSystem.advance]
  split
  · exact sound.answer running (by simp)
  · rename_i allowed
    refine sound.setSession (sound.not_inserting running rfl) rfl ?_
    constructor
    · intro _
      exact (sound.sessions running).lock rfl
    · simp [ReserveStage.expired]
    · intro _
      exact allowed
    · simp [ReserveStage.foundVacant]
    · simp [ReserveStage.created?]

theorem CheckoutSound.guarded (sound : CheckoutSound system)
    (running : system.sessions client = some (.guarded call)) :
    CheckoutSound (system.advance client (.guarded call)) := by
  have own := sound.sessions running
  simp only [CheckoutSystem.advance]
  split
  · exact sound
  · rename_i unlocked
    refine sound.move (.swept call ((system.attempts.filter call.isStale).map CheckoutAttempt.id))
      (sound.not_inserting running rfl) rfl rfl rfl rfl rfl (fun _ _ _ held => held) ?_ ?_ ?_ ?_
    · intro id other _ held
      refine (if_neg fun listed => unlocked ?_).trans held
      obtain ⟨attempt, stale, rfl⟩ := List.mem_map.mp (List.contains_iff_mem.mp listed)
      exact List.any_eq_true.mpr ⟨attempt, stale, by rw [held]; rfl⟩
    · intro entry
      simp [CheckoutSystem.setSession, ReserveStage.created?]
    · intro attempt created
      cases created
    · constructor
      · intro _
        exact own.lock rfl
      · intro id expired
        obtain ⟨attempt, stale, same⟩ := List.mem_map.mp expired
        obtain ⟨present, late⟩ := List.mem_filter.mp stale
        simp only [ReserveCall.isStale, Bool.and_eq_true, beq_iff_eq] at late
        exact ⟨if_pos (List.contains_iff_mem.mpr expired), attempt, present, same, late.1.1,
          late.1.2⟩
      · intro _
        exact own.allowed rfl
      · simp [ReserveStage.foundVacant]
      · simp [ReserveStage.created?]

theorem isOccupying_of_findLiveAttempt
    (missing : findLiveAttempt attempts tenantId expired = none) :
    ∀ attempt ∈ attempts, isOccupying tenantId expired attempt = false := by
  intro attempt member
  rw [← Bool.not_eq_true]
  intro occupying
  have empty := List.head?_eq_none_iff.mp missing
  have listed : attempt ∈ (attempts.filter (isOccupying tenantId expired)).mergeSort
      (fun first second => decide (second.createdAt ≤ first.createdAt)) :=
    List.mem_mergeSort.mpr (List.mem_filter.mpr ⟨member, occupying⟩)
  rw [empty] at listed
  cases listed

theorem CheckoutSound.swept (sound : CheckoutSound system)
    (running : system.sessions client = some (.swept call expired)) :
    CheckoutSound (system.advance client (.swept call expired)) := by
  have own := sound.sessions running
  simp only [CheckoutSystem.advance]
  split
  · exact sound.answer running (by simp [ReserveCall.existing])
  · rename_i missing
    refine sound.setSession (sound.not_inserting running rfl) rfl ?_
    constructor
    · intro _
      exact own.lock rfl
    · exact own.rows
    · intro _
      exact own.allowed rfl
    · intro _
      exact isOccupying_of_findLiveAttempt missing
    · simp [ReserveStage.created?]

theorem CheckoutSound.vacant (sound : CheckoutSound system)
    (running : system.sessions client = some (.vacant call expired)) :
    CheckoutSound (system.advance client (.vacant call expired)) := by
  have own := sound.sessions running
  simp only [CheckoutSystem.advance]
  split
  · exact sound
  · rename_i apart
    simp only [List.any_eq_true, Bool.or_eq_true, not_exists, not_and, not_or,
      Bool.not_eq_true] at apart
    split
    · exact sound.close client
    · rename_i fresh
      simp only [List.any_eq_true, Bool.or_eq_true, not_exists, not_and, not_or,
        Bool.not_eq_true] at fresh
      refine sound.move (.inserted call expired (call.attempt system.clock))
        (sound.not_inserting running rfl) rfl rfl rfl rfl rfl (fun _ _ _ held => held)
        (fun _ _ _ held => held) ?_ ?_ ?_
      · rintro ⟨mover, attempt⟩
        simp [ReserveStage.created?, eq_comm]
      · intro attempt created other member
        rw [← Option.some.inj created]
        exact (apart other member).1
      · constructor
        · intro _
          exact own.lock rfl
        · exact own.rows
        · intro _
          exact own.allowed rfl
        · intro _
          exact own.vacant rfl
        · intro attempt created
          rw [← Option.some.inj created]
          refine ⟨rfl, List.mem_append_right _ (List.mem_singleton_self _), ?_⟩
          intro other member
          exact (fresh other member).1

theorem isLive_expireIn (vacant : isOccupying tenantId expired attempt = false)
    (tenant : attempt.tenantId = tenantId) :
    (attempt.expireIn expired).isLive = false := by
  unfold CheckoutAttempt.expireIn
  split
  · rfl
  · rename_i unlisted
    rw [← Bool.not_eq_true] at vacant ⊢
    intro live
    exact vacant (by simp only [isOccupying, tenant, live, unlisted, beq_self_eq_true,
      Bool.not_false, Bool.and_self])

theorem CheckoutSound.inserted (sound : CheckoutSound system)
    (running : system.sessions client = some (.inserted call expired attempt)) :
    CheckoutSound (system.advance client (.inserted call expired attempt)) := by
  have own := sound.sessions running
  have evolves := sound.evolves_expireIn running
  obtain ⟨tenant, listed, fresh⟩ := own.created attempt rfl
  simp only [CheckoutSystem.advance]
  refine sound.commit running ?_ ?_ fun _ _ _ _ => own.allowed rfl
  · refine (sound.constrained.map evolves).append ?_ ?_
    · intro row member
      obtain ⟨earlier, present, rfl⟩ := List.mem_map.mp member
      rw [sharesKey_of_evolves (evolves earlier present)]
      exact fresh earlier present
    · intro row member same
      obtain ⟨earlier, present, rfl⟩ := List.mem_map.mp member
      rw [(evolves earlier present).tenantId, tenant] at same
      exact isLive_expireIn (own.vacant rfl earlier present) same
  · intro row member
    rw [List.mem_singleton.mp member, tenant]
    refine ⟨own.lock rfl, ?_⟩
    intro entry inFlight elsewhere
    exact sound.distinct _ listed entry inFlight fun same => elsewhere (congrArg some same.symm)

theorem CheckoutSound.advance (sound : CheckoutSound system)
    (running : system.sessions client = some stage) :
    CheckoutSound (system.advance client stage) := by
  cases stage with
  | called call => exact sound.called running
  | locked call => exact sound.locked running
  | guarded call => exact sound.guarded running
  | swept call expired => exact sound.swept running
  | vacant call expired => exact sound.vacant running
  | inserted call expired attempt => exact sound.inserted running

theorem CheckoutSound.reserve (sound : CheckoutSound system)
    (idle : system.sessions client = none) :
    CheckoutSound (system.setSession client (some (.called call))) := by
  refine sound.setSession ?_ rfl ?_
  · intro entry member own
    obtain ⟨stage, running, _⟩ := sound.inserting entry member
    rw [Option.some.inj own, idle] at running
    cases running
  · constructor <;> simp [ReserveStage.holdsLock, ReserveStage.expired, ReserveStage.passedGuard,
      ReserveStage.foundVacant, ReserveStage.created?]

theorem CheckoutSound.outside (sound : CheckoutSound system) {clock : Int}
    (later : system.clock ≤ clock)
    (evolves : ∀ attempt ∈ system.attempts, Evolves attempt (revise attempt))
    (untouched : ∀ attempt ∈ system.attempts, ∀ holder,
      system.rowLocks attempt.id = some holder → revise attempt = attempt) :
    CheckoutSound { system with attempts := system.attempts.map revise, clock } := by
  have frame : CheckoutFrame system { system with attempts := system.attempts.map revise, clock }
      none revise [] := {
    attempts := (List.append_nil _).symm
    evolves := evolves
    untouched := fun attempt member holder _ held => untouched attempt member holder held
    added := by simp
    subscriptions := rfl
    clock := later
    sessions := fun _ _ => rfl
    advisoryLocks := fun _ _ _ held => held
    rowLocks := fun _ _ _ held => held
    inserting := fun _ member _ => member }
  refine sound.of_frame frame (sound.constrained.map evolves) ?_ ?_ fun _ member => .inl member
  · intro client stage moved
    cases moved
  · intro entry member
    exact .inl ⟨member, by simp⟩

theorem CheckoutSound.exec (sound : CheckoutSound system) (call : AttemptCall) :
    CheckoutSound (system.exec call.update) := by
  simp only [CheckoutSystem.exec]
  split
  · exact sound
  · rename_i proceeds
    refine sound.outside (Int.le_refl _) ?_ ?_
    · intro attempt member
      split
      · rename_i hit
        exact call.evolves system.clock hit
      · exact Evolves.refl attempt
    · intro attempt member holder held
      refine if_neg fun hit => proceeds ?_
      rw [Bool.or_eq_true]
      exact .inl (List.any_eq_true.mpr ⟨attempt, member, by rw [hit, held]; rfl⟩)

theorem CheckoutSound.tick (sound : CheckoutSound system) (ms : Nat) :
    CheckoutSound { system with clock := system.clock + ms } := by
  have later : system.clock ≤ system.clock + ms := by omega
  have same : CheckoutSound { system with
      attempts := system.attempts.map fun attempt => attempt
      clock := system.clock + ms } :=
    sound.outside later (fun attempt _ => Evolves.refl attempt) fun _ _ _ _ => rfl
  simpa only [List.map_id'] using same

theorem CheckoutSound.step (sound : CheckoutSound system) (action : CheckoutStep) :
    CheckoutSound (system.step action) := by
  cases action with
  | reserve client input attemptId uuid =>
    simp only [CheckoutSystem.step]
    split
    · exact sound
    · rename_i idle
      exact sound.reserve idle
  | advance client =>
    simp only [CheckoutSystem.step]
    split
    · exact sound
    · rename_i stage running
      exact sound.advance running
  | crash client => exact sound.close client
  | update call => exact sound.exec call
  | tick ms => exact sound.tick ms

theorem CheckoutSound.run (sound : CheckoutSound system) (steps : List CheckoutStep) :
    CheckoutSound (system.run steps) := by
  have preserved : ∀ {state : CheckoutSystem} {action : CheckoutStep}, CheckoutSound state →
      CheckoutSound (state.step action) := fun sound => sound.step _
  exact Runs.invariant_run preserved steps sound

theorem CheckoutSound.opened (constrained : Constrained attempts)
    (subscriptions : String → Option CheckoutGuardSubscription) (clock : Int) :
    CheckoutSound (CheckoutSystem.opened attempts subscriptions clock) where
  constrained := constrained
  sessions := by
    intro client stage running
    cases running
  inserting := by simp [CheckoutSystem.opened]
  distinct := by simp [CheckoutSystem.opened]
  replies := by simp [CheckoutSystem.opened]

def Descends (before after : List CheckoutAttempt) : Prop :=
  ∀ attempt ∈ before, ∃ successor ∈ after, Evolves attempt successor

theorem Descends.refl (attempts : List CheckoutAttempt) : Descends attempts attempts :=
  fun attempt member => ⟨attempt, member, Evolves.refl attempt⟩

theorem Descends.trans {first second third : List CheckoutAttempt} (one : Descends first second)
    (two : Descends second third) : Descends first third := by
  intro attempt member
  obtain ⟨successor, present, evolves⟩ := one attempt member
  obtain ⟨last, still, further⟩ := two successor present
  exact ⟨last, still, evolves.trans further⟩

theorem descends_map (evolves : ∀ attempt ∈ attempts, Evolves attempt (revise attempt))
    (added : List CheckoutAttempt) : Descends attempts (attempts.map revise ++ added) := by
  intro attempt member
  exact ⟨revise attempt, List.mem_append_left _ (List.mem_map_of_mem member),
    evolves attempt member⟩

theorem CheckoutSound.descends_advance (sound : CheckoutSound system)
    (running : system.sessions client = some stage) :
    Descends system.attempts (system.advance client stage).attempts := by
  have committed (created : List CheckoutAttempt) (result : ReserveCheckoutResult) :
      Descends system.attempts (system.commit client stage created result).attempts :=
    descends_map (sound.evolves_expireIn running) created
  have same := Descends.refl system.attempts
  cases stage with
  | called | guarded =>
    simp only [CheckoutSystem.advance]
    split <;> exact same
  | locked =>
    simp only [CheckoutSystem.advance]
    split
    · exact committed _ _
    · exact same
  | swept =>
    simp only [CheckoutSystem.advance]
    split
    · exact committed _ _
    · exact same
  | vacant =>
    simp only [CheckoutSystem.advance]
    split
    · exact same
    · split <;> exact same
  | inserted => exact committed _ _

theorem CheckoutSound.descends_step (sound : CheckoutSound system) (action : CheckoutStep) :
    Descends system.attempts (system.step action).attempts := by
  cases action with
  | reserve client input attemptId uuid =>
    simp only [CheckoutSystem.step]
    split <;> exact Descends.refl _
  | advance client =>
    simp only [CheckoutSystem.step]
    split
    · exact Descends.refl _
    · rename_i stage running
      exact sound.descends_advance running
  | crash client => exact Descends.refl _
  | update call =>
    simp only [CheckoutSystem.step, CheckoutSystem.exec]
    split
    · exact Descends.refl _
    · refine List.append_nil (List.map _ system.attempts) ▸ descends_map ?_ []
      intro attempt member
      split
      · rename_i hit
        exact call.evolves system.clock hit
      · exact Evolves.refl attempt
  | tick ms => exact Descends.refl _

theorem CheckoutSound.descends_run (sound : CheckoutSound system) (steps : List CheckoutStep) :
    Descends system.attempts (system.run steps).attempts := by
  induction steps generalizing system with
  | nil => exact Descends.refl _
  | cons action rest ih => exact (sound.descends_step action).trans (ih (sound.step action))

theorem Constrained.live_length_le_one (constrained : Constrained attempts) (tenantId : String) :
    (attempts.filter fun attempt => attempt.tenantId == tenantId && attempt.isLive).length ≤ 1 := by
  have distinct : attempts.Nodup := List.Nodup.of_map CheckoutAttempt.id constrained.ids
  match shape : attempts.filter fun attempt => attempt.tenantId == tenantId && attempt.isLive with
  | [] | [_] => simp [shape]
  | first :: second :: rest =>
    have listed {attempt : CheckoutAttempt} (member : attempt ∈ first :: second :: rest) :
        attempt ∈ attempts ∧ attempt.tenantId = tenantId ∧ attempt.isLive = true := by
      rw [← shape] at member
      simpa only [List.mem_filter, Bool.and_eq_true, beq_iff_eq] using member
    obtain ⟨firstMember, firstTenant, firstLive⟩ := listed List.mem_cons_self
    obtain ⟨secondMember, secondTenant, secondLive⟩ :=
      listed (List.mem_cons_of_mem first List.mem_cons_self)
    have same := constrained.oneLive first firstMember second secondMember
      (firstTenant.trans secondTenant.symm) firstLive secondLive
    have unequal := distinct.filter fun attempt => attempt.tenantId == tenantId && attempt.isLive
    rw [shape, same] at unequal
    simp at unequal

/-- For every interleaving, at every moment: a tenant has at most one live attempt; no
attempt leaves a terminal state or changes what it was created for; no key is used twice;
and a reservation is only returned while the guard allows a purchase. -/
theorem checkoutAttempts_state_machine (attempts : List CheckoutAttempt)
    (subscriptions : String → Option CheckoutGuardSubscription) (clock : Int)
    (constrained : Constrained attempts) (earlier later : List CheckoutStep) :
    let before := (CheckoutSystem.opened attempts subscriptions clock).run earlier
    let after := before.run later
    (∀ tenantId, (before.attempts.filter fun attempt =>
        attempt.tenantId == tenantId && attempt.isLive).length ≤ 1) ∧
      (∀ attempt ∈ before.attempts, ∃ successor ∈ after.attempts, successor.id = attempt.id ∧
        (attempt.status ∈ [.completed, .failed, .expired] → successor.status = attempt.status) ∧
        successor.requestedPlan = attempt.requestedPlan ∧
        successor.requestedInterval = attempt.requestedInterval ∧
        successor.stripePriceId = attempt.stripePriceId ∧
        successor.idempotencyKey = attempt.idempotencyKey) ∧
      (before.attempts.map CheckoutAttempt.id).Nodup ∧
      (before.attempts.map CheckoutAttempt.idempotencyKey).Nodup ∧
      ∀ reply ∈ before.replies, ∀ attemptId idempotencyKey priceId,
        reply.result = .reserved attemptId idempotencyKey priceId →
        evaluateCheckoutGuard (before.subscriptions reply.tenantId) reply.clock = .allowed := by
  intro before after
  have sound : CheckoutSound before := (CheckoutSound.opened constrained subscriptions clock).run earlier
  refine ⟨sound.constrained.live_length_le_one, ?_, sound.constrained.ids, sound.constrained.keys,
    sound.replies⟩
  intro attempt member
  obtain ⟨successor, present, evolves⟩ := sound.descends_run later attempt member
  refine ⟨successor, present, evolves.id, ?_, evolves.requestedPlan, evolves.requestedInterval,
    evolves.stripePriceId, evolves.idempotencyKey⟩
  intro terminal
  refine evolves.terminal ?_
  simp only [List.mem_cons, List.not_mem_nil, or_false] at terminal
  rcases terminal with ended | ended | ended <;> simp [CheckoutAttempt.isLive, ended]

/-- One client reserves, a second one waits for the lock and gets the first one's attempt. -/
def twoTabs : List CheckoutStep :=
  let input : ReserveCheckoutInput := ⟨"t", none, "pro", "monthly", "price", none, none⟩
  [.reserve 0 input "a" "0", .reserve 1 input "b" "1", .advance 0, .advance 1, .advance 0,
    .advance 0, .advance 0, .advance 0, .advance 0, .advance 1, .advance 1, .advance 1, .advance 1]

theorem checkoutAttempts_state_machine_twoTabs :
    ((CheckoutSystem.opened [] (fun _ => none) 0).run twoTabs).replies =
      [⟨"t", .reserved "a" "checkout_attempt:0" "price", 0⟩,
        ⟨"t", .existing "a" true none "checkout_attempt:0", 0⟩] ∧
    (((CheckoutSystem.opened [] (fun _ => none) 0).run twoTabs).attempts.filter fun attempt =>
      attempt.tenantId == "t" && attempt.isLive).length ≤ 1 :=
  ⟨by decide +kernel, (checkoutAttempts_state_machine [] (fun _ => none) 0
    ⟨List.nodup_nil, List.nodup_nil, by simp⟩ twoTabs []).1 "t"⟩

end Tamanor.Db
