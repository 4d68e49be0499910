import Mathlib.Data.Finset.Card
import Tamanor.Library.Runs
import Tamanor.Library.Table

/-! The fixed-window rate limiter of one process (`rate-limit.ts`). Eviction comes before the
lookup, so that a call may evict although it needs no new place. -/

set_option autoImplicit false

namespace Tamanor.Core

open Library

structure RateLimitResult where
  allowed : Bool
  remaining : Int
  resetMs : Int
deriving DecidableEq

structure RateLimiterOptions where
  limit : Rat
  windowMs : Rat
  maxKeys : Rat

structure RateLimits where
  limit : Int
  windowMs : Int
  maxKeys : Int
  limit_pos : 1 ≤ limit
  windowMs_pos : 1 ≤ windowMs
  maxKeys_pos : 1 ≤ maxKeys

def RateLimits.ofOptions (opts : RateLimiterOptions) : RateLimits where
  limit := max 1 opts.limit.floor
  windowMs := max 1 opts.windowMs.floor
  maxKeys := max 1 opts.maxKeys.floor
  limit_pos := le_max_left _ _
  windowMs_pos := le_max_left _ _
  maxKeys_pos := le_max_left _ _

structure RateWindow where
  count : Int
  windowStart : Int
deriving DecidableEq

/-- A `Map` keeps its keys in the order in which they were inserted. -/
abbrev RateHits := Table String RateWindow

structure RateCall where
  key : String
  now : Int
deriving DecidableEq

def RateHits.size (hits : RateHits) : Int := hits.rows.length

def RateHits.dropOldest (hits : RateHits) (toDrop : Nat) : RateHits where
  rows := hits.rows.drop toDrop
  unique := hits.unique.sublist ((List.drop_sublist toDrop hits.rows).map Prod.fst)

namespace RateLimits

def expired (limits : RateLimits) (now : Int) (window : RateWindow) : Bool :=
  decide (limits.windowMs ≤ now - window.windowStart)

def dropExpired (limits : RateLimits) (hits : RateHits) (now : Int) : RateHits :=
  hits.deleteWhere fun _ window => limits.expired now window

def evict (limits : RateLimits) (hits : RateHits) (now : Int) : RateHits :=
  let left := limits.dropExpired hits now
  if limits.maxKeys ≤ left.size then left.dropOldest (left.size - limits.maxKeys + 1).toNat
  else left

def makeRoom (limits : RateLimits) (hits : RateHits) (now : Int) : RateHits :=
  if limits.maxKeys ≤ hits.size then limits.evict hits now else hits

def check (limits : RateLimits) (hits : RateHits) (call : RateCall) : RateLimitResult × RateHits :=
  let room := limits.makeRoom hits call.now
  match (room.find? call.key).filter fun window => !limits.expired call.now window with
  | none => (⟨true, limits.limit - 1, limits.windowMs⟩, room.upsert call.key ⟨1, call.now⟩)
  | some window =>
    let resetMs := limits.windowMs - (call.now - window.windowStart)
    if limits.limit ≤ window.count then (⟨false, 0, resetMs⟩, room)
    else (⟨true, limits.limit - (window.count + 1), resetMs⟩,
      room.modify call.key fun window => { window with count := window.count + 1 })

def step (limits : RateLimits) (hits : RateHits) (call : RateCall) : RateHits :=
  (limits.check hits call).2

/-! What is asked of a call, and of a sequence of calls. -/

def running (limits : RateLimits) (hits : RateHits) (now : Int) : List String :=
  (hits.rows.filter fun row => !limits.expired now row.2).map Prod.fst

def Evicts (limits : RateLimits) (hits : RateHits) (call : RateCall) (key : String) : Prop :=
  (hits.find? key).isSome = true ∧ (limits.makeRoom hits call.now).find? key = none

def DenialKeeps (limits : RateLimits) (hits : RateHits) (call : RateCall) : Prop :=
  (limits.check hits call).1.allowed = false → ∀ key window,
    (limits.step hits call).find? key = some window → hits.find? key = some window

def EvictsFull (limits : RateLimits) (hits : RateHits) (call : RateCall) : Prop :=
  ∀ key ∈ limits.running hits call.now, limits.Evicts hits call key →
    limits.maxKeys ≤ (limits.running hits call.now).toFinset.card

def RepeatSpares (limits : RateLimits) (hits : RateHits) (call : RateCall) : Prop :=
  (hits.find? call.key).isSome = true → ∀ key ∈ limits.running hits call.now, key ≠ call.key →
    ¬ limits.Evicts hits call key

def Opens (limits : RateLimits) (hits : RateHits) (call : RateCall) : Prop :=
  ((limits.makeRoom hits call.now).find? call.key).all (limits.expired call.now) = true

/-- The calls come while the window is running that `opening` has opened, and none evicts its
key. -/
def Within (limits : RateLimits) (opening : RateCall) (hits : RateHits) (call : RateCall) : Prop :=
  call.now - opening.now < limits.windowMs ∧ ¬ limits.Evicts hits call opening.key

/-- Exactly the first `limit` checks of the key are allowed. -/
def CountsTo (limits : RateLimits) (key : String) (hits : RateHits) (calls : List RateCall) :
    Prop :=
  ∀ earlier call later, calls = earlier ++ call :: later → call.key = key →
    ((limits.check (Runs.run limits.step hits earlier) call).1.allowed = true ↔
      ((earlier.countP fun other => other.key == key : Nat) : Int) < limits.limit)

structure Exact (limits : RateLimits) (calls : List RateCall) : Prop where
  bounded : ∀ hits ∈ Runs.states limits.step Table.empty calls, hits.size ≤ limits.maxKeys
  denials : Runs.Meets limits.step limits.DenialKeeps Table.empty calls
  quota : ∀ before opening during after, calls = before ++ opening :: during ++ after →
    let hits := Runs.run limits.step Table.empty before
    limits.Opens hits opening →
    Runs.Meets limits.step (limits.Within opening) (limits.step hits opening) during →
    limits.CountsTo opening.key hits (opening :: during)
  evictions : Runs.Meets limits.step limits.EvictsFull Table.empty calls
  repeats : Runs.Meets limits.step limits.RepeatSpares Table.empty calls

/-- The key is tracked, the limiter is full of running windows, and another key is the oldest. -/
def Crowded (limits : RateLimits) (hits : RateHits) (call : RateCall) : Prop :=
  (hits.find? call.key).isSome = true ∧ limits.maxKeys ≤ hits.size ∧
    (∀ row ∈ hits.rows, limits.expired call.now row.2 = false) ∧
    ∀ row ∈ hits.rows.head?, row.1 ≠ call.key

variable {limits : RateLimits} {hits : RateHits} {call opening : RateCall} {now : Int}
  {key : String} {window : RateWindow}

theorem size_deleteWhere_le (test : String → RateWindow → Bool) :
    RateHits.size (hits.deleteWhere test) ≤ hits.size :=
  Int.ofNat_le.mpr (List.length_filter_le _ _)

theorem dropExpired_of_size (full : hits.size ≤ (limits.dropExpired hits now).size) :
    limits.dropExpired hits now = hits ∧ ∀ row ∈ hits.rows, limits.expired now row.2 = false := by
  obtain ⟨rows, unique⟩ := hits
  have whole : rows.filter (fun row => !limits.expired now row.2) = rows :=
    List.filter_sublist.eq_of_length_le (Int.ofNat_le.mp full)
  constructor
  · simp only [dropExpired, Table.deleteWhere, whole]
  · intro row member
    simpa using List.filter_eq_self.mp whole row member

/-- Nothing happens below the cap, the expired windows go at the cap, and if there is none, the
oldest key. -/
theorem makeRoom_cases (fits : hits.size ≤ limits.maxKeys) (now : Int) :
    limits.makeRoom hits now = hits ∧ hits.size < limits.maxKeys ∨
      limits.makeRoom hits now = limits.dropExpired hits now ∧
        (limits.dropExpired hits now).size < limits.maxKeys ∨
      limits.makeRoom hits now = hits.dropOldest 1 ∧ hits.size = limits.maxKeys ∧
        ∀ row ∈ hits.rows, limits.expired now row.2 = false := by
  unfold makeRoom evict
  dsimp only
  split
  next full =>
    split
    next still =>
      have smaller := @size_deleteWhere_le hits fun _ window => limits.expired now window
      obtain ⟨same, running⟩ := @dropExpired_of_size limits hits now (fits.trans still)
      have one : (hits.size - limits.maxKeys + 1).toNat = 1 := by omega
      exact .inr (.inr ⟨by rw [same, one], by omega, running⟩)
    next below => exact .inr (.inl ⟨rfl, by omega⟩)
  next below => exact .inl ⟨rfl, by omega⟩

theorem makeRoom_size (fits : hits.size ≤ limits.maxKeys) :
    (limits.makeRoom hits now).size < limits.maxKeys := by
  rcases makeRoom_cases fits now with ⟨same, below⟩ | ⟨same, below⟩ | ⟨same, full, -⟩
  · rwa [same]
  · rwa [same]
  · rw [same]
    have positive := limits.maxKeys_pos
    simp only [RateHits.size, RateHits.dropOldest, List.length_drop] at full ⊢
    omega

theorem find?_dropOldest (hits : RateHits) (key : String) :
    (hits.dropOldest 1).find? key =
      if hits.rows.head?.any (·.1 == key) then none else hits.find? key := by
  obtain ⟨rows, unique⟩ := hits
  cases rows with
  | nil => rfl
  | cons oldest rest =>
    by_cases same : oldest.1 = key
    · subst same
      refine Eq.trans ?_ (if_pos (beq_self_eq_true oldest.1)).symm
      have fresh : oldest.1 ∉ rest.map Prod.fst := (List.nodup_cons.mp unique).1
      refine List.lookup_eq_none_iff.mpr fun row member => bne_iff_ne.mpr fun other => fresh ?_
      rw [other]
      exact List.mem_map_of_mem member
    · have different : (key == oldest.1) = false := beq_false_of_ne (Ne.symm same)
      refine Eq.trans ?_ (if_neg fun first => same (eq_of_beq first)).symm
      change rest.lookup key = (oldest :: rest).lookup key
      rw [List.lookup_cons, different]

theorem of_find?_makeRoom (fits : hits.size ≤ limits.maxKeys)
    (found : (limits.makeRoom hits now).find? key = some window) :
    hits.find? key = some window := by
  rcases makeRoom_cases fits now with ⟨same, -⟩ | ⟨same, -⟩ | ⟨same, -⟩
  · rwa [same] at found
  · rw [same] at found
    exact (Table.of_find?_deleteWhere found).1
  · rw [same, find?_dropOldest] at found
    split at found
    · cases found
    · exact found

theorem makeRoom_loses (fits : hits.size ≤ limits.maxKeys) (found : hits.find? key = some window)
    (runs : limits.expired now window = false)
    (lost : (limits.makeRoom hits now).find? key = none) :
    hits.size = limits.maxKeys ∧ (∀ row ∈ hits.rows, limits.expired now row.2 = false) ∧
      hits.rows.head?.any (·.1 == key) = true := by
  rcases makeRoom_cases fits now with ⟨same, -⟩ | ⟨same, -⟩ | ⟨same, full, running⟩
  · rw [same, found] at lost
    cases lost
  · rw [same, dropExpired, Table.find?_deleteWhere, found] at lost
    simp [runs] at lost
  · refine ⟨full, running, ?_⟩
    rw [same, find?_dropOldest] at lost
    by_contra other
    rw [if_neg other, found] at lost
    cases lost

theorem mem_running :
    key ∈ limits.running hits now ↔
      ∃ window, hits.find? key = some window ∧ limits.expired now window = false := by
  simp only [running, List.mem_map, List.mem_filter, Bool.not_eq_true', Table.find?_eq_some_iff]
  constructor
  · intro running
    obtain ⟨⟨key, window⟩, ⟨member, runs⟩, rfl⟩ := running
    exact ⟨window, member, runs⟩
  · intro running
    obtain ⟨window, member, runs⟩ := running
    exact ⟨(key, window), ⟨member, runs⟩, rfl⟩

theorem evictsFull (fits : hits.size ≤ limits.maxKeys) : limits.EvictsFull hits call := by
  intro key member ⟨_, lost⟩
  obtain ⟨window, found, runs⟩ := mem_running.mp member
  obtain ⟨full, all, -⟩ := makeRoom_loses fits found runs lost
  have whole : hits.rows.filter (fun row => !limits.expired call.now row.2) = hits.rows :=
    List.filter_eq_self.mpr fun row member => by rw [all row member]; rfl
  rw [running, whole, List.toFinset_card_of_nodup hits.unique, List.length_map]
  exact full.ge

theorem repeatSpares_iff (fits : hits.size ≤ limits.maxKeys) :
    limits.RepeatSpares hits call ↔ ¬ limits.Crowded hits call := by
  constructor
  · intro spares crowded
    obtain ⟨tracked, full, all, oldest⟩ := crowded
    have positive := limits.maxKeys_pos
    obtain ⟨first, rest, rows⟩ : ∃ first rest, hits.rows = first :: rest :=
      List.exists_cons_of_ne_nil fun empty => by simp [RateHits.size, empty] at full; omega
    have found : hits.find? first.1 = some first.2 :=
      Table.find?_eq_some_iff.mpr (rows ▸ List.mem_cons_self)
    have runs : limits.expired call.now first.2 = false := all first (rows ▸ List.mem_cons_self)
    refine spares tracked first.1 (mem_running.mpr ⟨first.2, found, runs⟩)
      (oldest first (by rw [rows]; rfl)) ⟨by rw [found]; rfl, ?_⟩
    rcases makeRoom_cases fits call.now with ⟨-, below⟩ | ⟨-, below⟩ | ⟨same, -⟩
    · omega
    · have whole : hits.rows.filter (fun row => !limits.expired call.now row.2) = hits.rows :=
        List.filter_eq_self.mpr fun row member => by rw [all row member]; rfl
      simp only [dropExpired, Table.deleteWhere, RateHits.size, whole] at below full
      omega
    · rw [same, find?_dropOldest, rows, if_pos (by simp)]
  · intro roomy tracked key member other evicts
    obtain ⟨-, lost⟩ := evicts
    obtain ⟨window, found, runs⟩ := mem_running.mp member
    obtain ⟨full, all, oldest⟩ := makeRoom_loses fits found runs lost
    refine roomy ⟨tracked, full.ge, all, ?_⟩
    intro row first same
    rw [first] at oldest
    exact other ((eq_of_beq oldest).symm.trans same)

@[simp] theorem size_modify (change : RateWindow → RateWindow) :
    RateHits.size (hits.modify key change) = hits.size := by
  simp [RateHits.size, Table.modify]

theorem size_upsert_le : RateHits.size (hits.upsert key window) ≤ hits.size + 1 := by
  unfold Table.upsert
  split
  · rw [size_modify]
    omega
  next fresh =>
    rw [RateHits.size, Table.rows_insert key (by simpa using fresh), List.length_append]
    simp [RateHits.size]

section

variable (fits : hits.size ≤ limits.maxKeys)
include fits

theorem step_size : (limits.step hits call).size ≤ limits.maxKeys := by
  have room := @makeRoom_size limits hits call.now fits
  unfold step check
  dsimp only
  split
  · have added := @size_upsert_le (limits.makeRoom hits call.now) call.key ⟨1, call.now⟩
    dsimp only
    omega
  · split
    · exact room.le
    · dsimp only
      rw [size_modify]
      exact room.le

theorem denialKeeps : limits.DenialKeeps hits call := by
  unfold DenialKeeps step check
  dsimp only
  split
  · intro denied
    cases denied
  · split
    · exact fun _ key window found => of_find?_makeRoom fits found
    · intro denied
      cases denied

theorem step_tracked {count windowStart : Int}
    (found : hits.find? key = some ⟨min count limits.limit, windowStart⟩)
    (runs : call.now - windowStart < limits.windowMs) (stays : ¬ limits.Evicts hits call key) :
    (limits.step hits call).find? key =
        some ⟨min (count + if call.key = key then 1 else 0) limits.limit, windowStart⟩ ∧
      (call.key = key → ((limits.check hits call).1.allowed = true ↔ count < limits.limit)) := by
  have room : (limits.makeRoom hits call.now).find? key =
      some ⟨min count limits.limit, windowStart⟩ := by
    cases left : (limits.makeRoom hits call.now).find? key with
    | none => exact absurd ⟨by rw [found]; rfl, left⟩ stays
    | some window => rw [← found, of_find?_makeRoom fits left]
  have notExpired : limits.expired call.now ⟨min count limits.limit, windowStart⟩ = false :=
    decide_eq_false (by dsimp only; omega)
  by_cases own : call.key = key
  · subst own
    simp only [step, check, room, Option.filter_some, notExpired, Bool.not_false, if_true,
      forall_const]
    split
    next full =>
      refine ⟨?_, iff_of_false Bool.false_ne_true (by omega)⟩
      rw [room]
      have same : min count limits.limit = min (count + 1) limits.limit := by omega
      rw [same]
    next few =>
      refine ⟨?_, iff_of_true rfl (by omega)⟩
      rw [Table.find?_modify, if_pos rfl, room]
      have same : min count limits.limit + 1 = min (count + 1) limits.limit := by omega
      exact congrArg (fun count => some (RateWindow.mk count windowStart)) same
  · refine ⟨?_, fun same => absurd same own⟩
    rw [if_neg own, add_zero, ← room]
    unfold step check
    dsimp only
    split
    · rw [Table.find?_upsert, if_neg (Ne.symm own)]
    · split
      · rfl
      · rw [Table.find?_modify, if_neg (Ne.symm own)]

end

theorem size_states (calls : List RateCall) (fits : hits.size ≤ limits.maxKeys) :
    ∀ reached ∈ Runs.states limits.step hits calls, reached.size ≤ limits.maxKeys :=
  @Runs.forall_states _ _ limits.step (fun hits => hits.size ≤ limits.maxKeys) hits
    (fun holds => step_size holds) calls fits

theorem size_run (calls : List RateCall) (fits : hits.size ≤ limits.maxKeys) :
    (Runs.run limits.step hits calls).size ≤ limits.maxKeys :=
  size_states calls fits _ (Runs.run_mem_states calls)

theorem size_empty : RateHits.size Table.empty ≤ limits.maxKeys := by
  have positive := limits.maxKeys_pos
  change (0 : Int) ≤ _
  omega

/-- By induction on the calls, with the number that has been counted before them. -/
theorem countsTo_from {calls : List RateCall} {count : Int} (fits : hits.size ≤ limits.maxKeys)
    (found : hits.find? opening.key = some ⟨min count limits.limit, opening.now⟩)
    (within : Runs.Meets limits.step (limits.Within opening) hits calls)
    {earlier later : List RateCall} (split : calls = earlier ++ call :: later)
    (own : call.key = opening.key) :
    (limits.check (Runs.run limits.step hits earlier) call).1.allowed = true ↔
      count + (earlier.countP fun other => other.key == opening.key : Nat) < limits.limit := by
  subst split
  induction earlier generalizing hits count with
  | nil =>
    obtain ⟨⟨runs, stays⟩, -⟩ := within
    simpa using (step_tracked fits found runs stays).2 own
  | cons first rest ih =>
    obtain ⟨⟨runs, stays⟩, within⟩ := within
    have further := ih (step_size fits) (step_tracked fits found runs stays).1 within
    rw [Runs.run_cons, further, List.countP_cons]
    by_cases same : first.key = opening.key
    · simp only [same, if_true, beq_self_eq_true]
      omega
    · have other : (first.key == opening.key) = false := beq_false_of_ne same
      simp only [same, if_false, other, Bool.false_eq_true]
      omega

theorem check_opens (opens : limits.Opens hits opening) :
    (limits.check hits opening).1.allowed = true ∧
      (limits.step hits opening).find? opening.key = some ⟨min 1 limits.limit, opening.now⟩ := by
  have fresh : ((limits.makeRoom hits opening.now).find? opening.key).filter
      (fun window => !limits.expired opening.now window) = none := by
    unfold Opens at opens
    cases left : (limits.makeRoom hits opening.now).find? opening.key with
    | none => rfl
    | some window =>
      rw [left] at opens
      simpa using opens
  unfold step check
  dsimp only
  rw [fresh]
  refine ⟨rfl, ?_⟩
  rw [Table.find?_upsert, if_pos rfl, min_eq_left limits.limit_pos]

theorem countsTo_opening {during : List RateCall} (fits : hits.size ≤ limits.maxKeys)
    (opens : limits.Opens hits opening)
    (within : Runs.Meets limits.step (limits.Within opening) (limits.step hits opening) during) :
    limits.CountsTo opening.key hits (opening :: during) := by
  obtain ⟨allowed, found⟩ := check_opens opens
  have positive := limits.limit_pos
  intro earlier call later split own
  cases earlier with
  | nil =>
    obtain ⟨rfl, -⟩ := List.cons.inj split
    exact iff_of_true allowed (by simp; omega)
  | cons first rest =>
    obtain ⟨rfl, tail⟩ := List.cons.inj split
    have counts := countsTo_from (step_size fits) found within tail own
    rw [Runs.run_cons, counts, List.countP_cons, if_pos (beq_self_eq_true _)]
    omega

theorem meets_of_size {promise : RateHits → RateCall → Prop} (calls : List RateCall)
    (promised : ∀ {hits call}, hits.size ≤ limits.maxKeys → promise hits call) :
    Runs.Meets limits.step promise Table.empty calls :=
  @Runs.Meets.of_invariant _ _ limits.step (fun _ _ => True)
    (fun hits => hits.size ≤ limits.maxKeys) Table.empty promise (fun fits _ => step_size fits)
    (fun fits _ => promised fits) calls size_empty (Runs.meets_true calls)

/-- The limiter is exact and bounded in every sequence of calls, but for the repeats that find it
crowded: those evict a running window of another key, and no others do. -/
theorem exact_iff (limits : RateLimits) (calls : List RateCall) :
    limits.Exact calls ↔
      Runs.Meets limits.step (fun hits call => ¬ limits.Crowded hits call) Table.empty calls := by
  have repeats : Runs.Meets limits.step limits.RepeatSpares Table.empty calls ↔
      Runs.Meets limits.step (fun hits call => ¬ limits.Crowded hits call) Table.empty calls :=
    @Runs.meets_congr _ _ limits.step _ _ _ (fun hits => hits.size ≤ limits.maxKeys)
      (fun fits => step_size fits) (fun fits => repeatSpares_iff fits) calls size_empty
  constructor
  · intro exact
    exact repeats.mp exact.repeats
  · intro roomy
    refine ⟨size_states calls size_empty, meets_of_size calls denialKeeps, ?_,
      meets_of_size calls evictsFull, repeats.mpr roomy⟩
    intro before opening during after _ hits opens within
    exact countsTo_opening (size_run before size_empty) opens within

/-- With room for two keys, a repeat of the second one evicts the first, whose quota of one is used
up, and the first is allowed again. -/
theorem not_exact_repeat : ¬ (RateLimits.ofOptions ⟨1, 60000, 2⟩).Exact
    [⟨"a", 0⟩, ⟨"b", 0⟩, ⟨"b", 1⟩, ⟨"a", 2⟩] := by
  intro exact
  have spares := exact.repeats.2.2.1 (by decide) "a" (by decide) (by decide)
  exact spares ⟨by decide, by decide⟩

end RateLimits

end Tamanor.Core
