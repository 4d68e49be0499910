import Tamanor.Library.Runs
import Tamanor.Sdk.SafetyClient

/-! What becomes of an envelope that a client has enqueued: while one flush runs at a time and
nothing is evicted under it, the envelope waits, is acknowledged, reported or evicted, and only
one of these. -/

set_option autoImplicit false

namespace Tamanor.Sdk

open Library

variable (config : SdkConfig)

/-- What the queue holds. While a flush is under way this is what has survived it, the envelope
that it transmits and what it has not visited. -/
def SafetyClient.waiting (client : SafetyClient) : List String :=
  match client.flushes with
  | [] => client.queued
  | (_, loop, item) :: _ =>
    loop.survivors ++ item :: (client.arrays.getD loop.array []).drop loop.next

def SafetyClient.settled (client : SafetyClient) (id : String) : Nat :=
  client.acknowledged.count id + client.reported.count id + client.evicted.count id

structure ClientSound (client : SafetyClient) : Prop where
  /-- An enqueued envelope is in exactly one situation. -/
  situated : ∀ id, (client.items.find? id).isSome = true →
    client.settled id + client.waiting.count id = 1
  bounded : client.queued.length ≤ config.maxQueueSize
  transmitted : ∀ id, client.transmitted.count id ≤ config.maxRetries + 1

/-- No flush begins while another one is under way, none is under way when an envelope is
evicted, and a successful response has a body. -/
def SafetyClient.undisturbed (client : SafetyClient) : ClientAction → Bool
  | .enqueue ids =>
    client.transportState != .sending ||
      decide (client.queued.length + ids.length ≤ config.maxQueueSize)
  | .classifierFailed => true
  | .flush _ _ _ => client.transportState != .sending
  | .resume _ outcome _ => outcome.isSuccess == outcome.receipt

section

variable {config} {client : SafetyClient}

/-! The invariant: between the suspensions of a flush, at one of them, and outside. -/

/-- An envelope that waits has been transmitted once for each of its attempts. -/
def SafetyClient.Pending (config : SdkConfig) (client : SafetyClient) (id : String)
    (underWay : Nat) : Prop :=
  ∃ item, client.items.find? id = some item ∧
    client.transmitted.count id ≤ item.attempts + underWay ∧ item.attempts ≤ config.maxRetries

def SafetyClient.Conserved (client : SafetyClient) (waiting : List String) : Prop :=
  ∀ id, client.settled id + waiting.count id = if (client.items.find? id).isSome then 1 else 0

structure ClientBase (config : SdkConfig) (client : SafetyClient) : Prop where
  array : client.queue < client.arrays.length
  bounded : client.queued.length ≤ config.maxQueueSize
  transmitted : ∀ id, client.transmitted.count id ≤ config.maxRetries + 1
  fresh : ∀ id, client.items.find? id = none → client.transmitted.count id = 0

structure Resting (config : SdkConfig) (client : SafetyClient) : Prop where
  base : ClientBase config client
  flushes : client.flushes = []
  conserved : client.Conserved client.queued
  pending : ∀ id ∈ client.queued, client.Pending config id 0

/-- A flush runs through the queue; the envelopes before the place that it has reached have been
visited. -/
structure Running (config : SdkConfig) (client : SafetyClient) (call : Nat) (loop : FlushLoop) :
    Prop where
  base : ClientBase config client
  flushes : ∀ flush ∈ client.flushes, flush.1 = call
  sending : client.transportState = .sending
  array : loop.array = client.queue
  visited : loop.survivors.length ≤ loop.next
  inside : loop.next ≤ client.queued.length
  conserved : client.Conserved (loop.survivors ++ client.queued.drop loop.next)
  pending : ∀ id ∈ loop.survivors ++ client.queued.drop loop.next, client.Pending config id 0

structure Suspended (config : SdkConfig) (client : SafetyClient) (call : Nat) (loop : FlushLoop)
    (item : String) : Prop where
  base : ClientBase config client
  flushes : client.flushes = [(call, loop, item)]
  sending : client.transportState = .sending
  array : loop.array = client.queue
  visited : loop.survivors.length < loop.next
  inside : loop.next ≤ client.queued.length
  conserved : client.Conserved (loop.survivors ++ item :: client.queued.drop loop.next)
  pending : ∀ id ∈ loop.survivors ++ client.queued.drop loop.next, client.Pending config id 0
  underWay : client.Pending config item 1

def ClientInvariant (config : SdkConfig) (client : SafetyClient) : Prop :=
  Resting config client ∨ ∃ call loop item, Suspended config client call loop item

theorem Resting.sound (resting : Resting config client) : ClientSound config client where
  situated := by
    intro id enqueued
    have conserved := resting.conserved id
    rw [if_pos enqueued] at conserved
    unfold SafetyClient.waiting
    rw [resting.flushes]
    exact conserved
  bounded := resting.base.bounded
  transmitted := resting.base.transmitted

variable {call : Nat} {loop : FlushLoop} {item id : String} {after : SafetyClient}

theorem Suspended.sound (suspended : Suspended config client call loop item) :
    ClientSound config client where
  situated := by
    intro id enqueued
    have conserved := suspended.conserved id
    rw [if_pos enqueued] at conserved
    unfold SafetyClient.waiting
    rw [suspended.flushes]
    dsimp only
    rw [suspended.array]
    exact conserved
  bounded := suspended.base.bounded
  transmitted := suspended.base.transmitted

theorem ClientInvariant.sound (invariant : ClientInvariant config client) :
    ClientSound config client := by
  obtain resting | ⟨call, loop, item, suspended⟩ := invariant
  · exact resting.sound
  · exact suspended.sound

/-- What the loop has left of what it had not visited: it goes on behind the envelope at which
it stops. -/
structure Scanned (loop : FlushLoop) (rest : List String) (after : FlushLoop)
    (item : Option String) : Prop where
  array : after.array = loop.array
  steps : ∃ count ≤ rest.length, after.next = loop.next + count ∧
    after.survivors ++ item.toList ++ rest.drop count = loop.survivors ++ rest ∧
    after.survivors.length + item.toList.length = loop.survivors.length + count ∧
    (item = none → count = rest.length)

theorem scanned (aborted : Bool) (loop : FlushLoop) (rest : List String) :
    Scanned loop rest (client.scan aborted loop rest).1 (client.scan aborted loop rest).2 := by
  induction rest generalizing loop with
  | nil =>
    exact ⟨rfl, 0, le_refl _, rfl, by simp [SafetyClient.scan], by simp [SafetyClient.scan],
      fun _ => rfl⟩
  | cons id rest ih =>
    unfold SafetyClient.scan
    split
    next =>
      have further := ih { loop with next := loop.next + 1, survivors := loop.survivors ++ [id] }
      obtain ⟨array, count, inside, next, kept, lengths, ends⟩ := further
      dsimp only at array next kept lengths
      refine ⟨array, count + 1, Nat.succ_le_succ inside, ?_, ?_, ?_, ?_⟩
      · rw [next]
        omega
      · rw [List.drop_succ_cons, kept, List.append_assoc]
        rfl
      · rw [lengths, List.length_append, List.length_singleton]
        omega
      · intro none
        rw [ends none, List.length_cons]
    next =>
      refine ⟨rfl, 1, by simp, rfl, by simp, by simp, ?_⟩
      intro none
      cases none

theorem queued_append (survivors : List String) :
    { client with arrays := client.arrays ++ [survivors], queue := client.arrays.length }.queued =
      survivors := by
  unfold SafetyClient.queued
  simp

theorem filter_flushes (own : ∀ flush ∈ client.flushes, flush.1 = call) :
    client.flushes.filter (fun flush => flush.1 != call) = [] := by
  rw [List.filter_eq_nil_iff]
  intro flush member
  simp [own flush member]

theorem pending_transmitted (other : String) (pending : client.Pending config id 0) :
    { client with transmitted := client.transmitted ++ [other] }.Pending config id
      (if other = id then 1 else 0) := by
  obtain ⟨item, found, count, attempts⟩ := pending
  refine ⟨item, found, ?_, attempts⟩
  dsimp only
  rw [List.count_append, List.count_singleton]
  by_cases same : other = id
  · rw [if_pos same, if_pos (by rw [same]; exact beq_self_eq_true id)]
    omega
  · rw [if_neg same, if_neg (by rw [beq_iff_eq]; exact same)]
    omega

theorem running_finished (running : Running config client call loop)
    (ends : loop.next = client.queued.length) :
    Resting config (client.finished call loop) := by
  have survives : (client.finished call loop).queued = loop.survivors := queued_append _
  have nothing : client.queued.drop loop.next = [] := by
    rw [ends, List.drop_length]
  have conserved := running.conserved
  have pending := running.pending
  rw [nothing, List.append_nil] at conserved pending
  constructor
  case base =>
    refine ⟨?_, ?_, running.base.transmitted, running.base.fresh⟩
    · unfold SafetyClient.finished
      simp
    · rw [survives]
      exact (running.visited.trans running.inside).trans running.base.bounded
  case flushes => exact filter_flushes running.flushes
  case conserved =>
    rw [survives]
    exact conserved
  case pending =>
    rw [survives]
    exact pending

theorem notMem_of_conserved {survivors rest : List String}
    (conserved : client.Conserved (survivors ++ item :: rest)) : item ∉ survivors ++ rest := by
  intro member
  have once := conserved item
  have twice : 2 ≤ (survivors ++ item :: rest).count item := by
    have present := List.count_pos_iff.mpr member
    rw [List.count_append] at present ⊢
    rw [List.count_cons_self]
    omega
  split at once <;> omega

theorem running_suspended (base : ClientBase config client)
    (flushes : ∀ flush ∈ client.flushes, flush.1 = call)
    (sending : client.transportState = .sending) (array : loop.array = client.queue)
    (visited : loop.survivors.length < loop.next) (inside : loop.next ≤ client.queued.length)
    (conserved : client.Conserved (loop.survivors ++ item :: client.queued.drop loop.next))
    (pending : ∀ id ∈ loop.survivors ++ item :: client.queued.drop loop.next,
      client.Pending config id 0) :
    Suspended config (client.suspended call loop item) call loop item := by
  have itemPending : client.Pending config item 0 :=
    pending item (List.mem_append_right _ List.mem_cons_self)
  have others (id : String) : (client.transmitted ++ [item]).count id =
      client.transmitted.count id + if item = id then 1 else 0 := by
    rw [List.count_append, List.count_singleton]
    simp
  refine ⟨⟨base.array, base.bounded, ?_, ?_⟩, ?_, sending, array, visited, inside, conserved,
    ?_, ?_⟩
  · intro id
    unfold SafetyClient.suspended
    dsimp only
    rw [others]
    split
    next same =>
      obtain ⟨envelope, _, count, attempts⟩ := itemPending
      rw [same] at count
      omega
    next => exact base.transmitted id
  · intro id absent
    unfold SafetyClient.suspended
    dsimp only
    rw [others, base.fresh id absent, if_neg]
    intro same
    obtain ⟨envelope, found, _⟩ := itemPending
    rw [same] at found
    exact absurd (absent.symm.trans found) nofun
  · unfold SafetyClient.suspended
    rw [filter_flushes flushes]
    rfl
  · intro id member
    have different : item ≠ id := fun same => notMem_of_conserved conserved (same ▸ member)
    have here : id ∈ loop.survivors ++ item :: client.queued.drop loop.next := by
      rw [List.mem_append] at member ⊢
      exact member.imp_right (List.mem_cons_of_mem _)
    have kept := pending_transmitted item (pending id here)
    rw [if_neg different] at kept
    exact kept
  · have kept := pending_transmitted item itemPending
    rw [if_pos rfl] at kept
    exact kept

theorem Running.proceed (running : Running config client call loop) (aborted : Bool) :
    ClientInvariant config (client.proceed call loop aborted) := by
  have rest : client.arrays.getD loop.array [] = client.queued := by
    rw [running.array]
    rfl
  have scanned := @scanned client aborted loop (client.queued.drop loop.next)
  unfold SafetyClient.proceed
  rw [rest]
  obtain ⟨array, count, inside, next, kept, lengths, ends⟩ := scanned
  rw [List.drop_drop, ← next] at kept
  rw [List.length_drop] at inside ends
  have visited := running.visited
  have within := running.inside
  cases result : client.scan aborted loop (client.queued.drop loop.next) with
  | mk after item =>
    rw [result] at array next kept lengths ends
    dsimp only at array next kept lengths ends ⊢
    cases item with
    | none =>
      have last := ends rfl
      rw [Option.toList_none, List.append_nil] at kept
      rw [Option.toList_none, List.length_nil] at lengths
      refine .inl (running_finished ⟨running.base, running.flushes, running.sending,
        array.trans running.array, by omega, by omega, ?_, ?_⟩ (by omega))
      · rw [kept]
        exact running.conserved
      · rw [kept]
        exact running.pending
    | some item =>
      rw [Option.toList_some, List.append_assoc, List.singleton_append] at kept
      rw [Option.toList_some, List.length_singleton] at lengths
      refine .inr ⟨call, after, item, running_suspended running.base running.flushes
        running.sending (array.trans running.array) (by omega) (by omega) ?_ ?_⟩
      · rw [kept]
        exact running.conserved
      · rw [kept]
        exact running.pending

theorem Resting.flush (resting : Resting config client) (call : Nat) (now : Int)
    (aborted : Bool) : ClientInvariant config (client.flush call now aborted) := by
  unfold SafetyClient.flush
  rw [resting.flushes]
  refine Running.proceed ⟨?_, ?_, rfl, rfl, le_refl 0, Nat.zero_le _, ?_, ?_⟩ aborted
  · exact ⟨resting.base.array, resting.base.bounded, resting.base.transmitted, resting.base.fresh⟩
  · intro flush member
    cases member
  · exact resting.conserved
  · exact resting.pending

/-- What a response leaves: it settles the envelope under way, or changes its attempts. -/
structure Responded (client after : SafetyClient) (item : String) : Prop where
  arrays : after.arrays = client.arrays
  queue : after.queue = client.queue
  flushes : after.flushes = client.flushes
  sending : after.transportState = client.transportState
  transmitted : after.transmitted = client.transmitted
  items : ∀ id, (after.items.find? id).isSome = (client.items.find? id).isSome
  others : ∀ id, id ≠ item → after.items.find? id = client.items.find? id

theorem Responded.queued (responded : Responded client after item) :
    after.queued = client.queued := by
  unfold SafetyClient.queued
  rw [responded.arrays, responded.queue]

theorem Suspended.base_responded (suspended : Suspended config client call loop item)
    (responded : Responded client after item) : ClientBase config after where
  array := by
    rw [responded.arrays, responded.queue]
    exact suspended.base.array
  bounded := by
    rw [responded.queued]
    exact suspended.base.bounded
  transmitted := by
    rw [responded.transmitted]
    exact suspended.base.transmitted
  fresh := by
    intro id absent
    rw [responded.transmitted]
    apply suspended.base.fresh id
    have same := responded.items id
    rw [absent] at same
    exact Option.isNone_iff_eq_none.mp (Option.isSome_eq_false_iff.mp same.symm)

theorem Suspended.pending_responded (suspended : Suspended config client call loop item)
    (responded : Responded client after item) :
    ∀ id ∈ loop.survivors ++ client.queued.drop loop.next, after.Pending config id 0 := by
  intro id member
  obtain ⟨envelope, found, count, attempts⟩ := suspended.pending id member
  have different : id ≠ item := fun same => notMem_of_conserved suspended.conserved (same ▸ member)
  refine ⟨envelope, (responded.others id different).trans found, ?_, attempts⟩
  rw [responded.transmitted]
  exact count

theorem Suspended.settles {later : FlushLoop} (suspended : Suspended config client call loop item)
    (responded : Responded client after item)
    (same : later.array = loop.array ∧ later.next = loop.next ∧ later.survivors = loop.survivors)
    (settled : ∀ id, after.settled id = client.settled id + if item = id then 1 else 0) :
    Running config after call later := by
  obtain ⟨array, next, survivors⟩ := same
  refine ⟨suspended.base_responded responded, ?_, responded.sending.trans suspended.sending, ?_,
    ?_, ?_, ?_, ?_⟩
  · rw [responded.flushes, suspended.flushes]
    exact fun flush member => by rw [List.mem_singleton.mp member]
  · rw [array, responded.queue]
    exact suspended.array
  · rw [survivors, next]
    exact suspended.visited.le
  · rw [next, responded.queued]
    exact suspended.inside
  · intro id
    have conserved := suspended.conserved id
    rw [settled, survivors, next, responded.queued, responded.items, ← conserved,
      List.count_append, List.count_append, List.count_cons]
    simp only [beq_iff_eq]
    omega
  · rw [survivors, next, responded.queued]
    exact suspended.pending_responded responded

theorem Suspended.survives {later : FlushLoop} (suspended : Suspended config client call loop item)
    (responded : Responded client after item)
    (same : later.array = loop.array ∧ later.next = loop.next ∧
      later.survivors = loop.survivors ++ [item])
    (settled : ∀ id, after.settled id = client.settled id) (pending : after.Pending config item 0) :
    Running config after call later := by
  obtain ⟨array, next, survivors⟩ := same
  have waiting : later.survivors ++ after.queued.drop later.next =
      loop.survivors ++ item :: client.queued.drop loop.next := by
    rw [survivors, next, responded.queued, List.append_assoc]
    rfl
  refine ⟨suspended.base_responded responded, ?_, responded.sending.trans suspended.sending, ?_,
    ?_, ?_, ?_, ?_⟩
  · rw [responded.flushes, suspended.flushes]
    exact fun flush member => by rw [List.mem_singleton.mp member]
  · rw [array, responded.queue]
    exact suspended.array
  · rw [survivors, next, List.length_append]
    exact suspended.visited
  · rw [next, responded.queued]
    exact suspended.inside
  · intro id
    rw [waiting, settled, responded.items]
    exact suspended.conserved id
  · rw [waiting]
    intro id member
    obtain survived | there := List.mem_append.mp member
    · exact suspended.pending_responded responded id (List.mem_append_left _ survived)
    · obtain rfl | unvisited := List.mem_cons.mp there
      · exact pending
      · exact suspended.pending_responded responded id (List.mem_append_right _ unvisited)

theorem count_snoc (ids : List String) (item id : String) :
    (ids ++ [item]).count id = ids.count id + if item = id then 1 else 0 := by
  rw [List.count_append, List.count_singleton]
  simp

theorem find?_modify_apart (change : QueuedEnvelope → QueuedEnvelope) (different : id ≠ item) :
    (client.items.modify item change).find? id = client.items.find? id := by
  rw [Table.find?_modify, if_neg different]

theorem Suspended.resume (suspended : Suspended config client call loop item) (other : Nat)
    {outcome : TransportOutcome} (bodied : (outcome.isSuccess == outcome.receipt) = true)
    (aborted : Bool) : ClientInvariant config (client.resume config other outcome aborted) := by
  unfold SafetyClient.resume
  by_cases own : other = call
  · have standing : client.flushes.lookup other = some (loop, item) := by
      rw [suspended.flushes, own, List.lookup_cons_self]
    rw [standing, own]
    dsimp only
    rw [beq_iff_eq.mp bodied]
    split
    next =>
      refine Running.proceed ?_ aborted
      refine suspended.settles ⟨rfl, rfl, rfl, rfl, rfl, fun _ => rfl, fun _ _ => rfl⟩
        ⟨rfl, rfl, rfl⟩ ?_
      intro id
      unfold SafetyClient.settled
      dsimp only
      rw [count_snoc]
      omega
    next =>
      have responded (change : QueuedEnvelope → QueuedEnvelope) (reported : List String) :
          Responded client { client with
            lastFailureClass := outcome.failure
            items := client.items.modify item change
            reported := reported } item :=
        ⟨rfl, rfl, rfl, rfl, rfl, fun _ => Table.isSome_find?_modify _ _,
          fun _ different => find?_modify_apart change different⟩
      obtain ⟨envelope, found, count, attempts⟩ := suspended.underWay
      rw [found, Option.map_some, Option.getD_some]
      split
      next =>
        refine Running.proceed ?_ aborted
        refine suspended.settles (responded _ (client.reported ++ [item])) ⟨rfl, rfl, rfl⟩ ?_
        intro id
        unfold SafetyClient.settled
        dsimp only
        rw [count_snoc]
        omega
      next retries =>
        rw [not_or, Nat.not_lt] at retries
        refine Running.proceed ?_ aborted
        refine suspended.survives (responded _ client.reported) ⟨rfl, rfl, rfl⟩ (fun _ => rfl) ?_
        refine ⟨⟨envelope.attempts + 1,
          loop.now + (SafetyClient.backoff config (envelope.attempts + 1) item : Int)⟩, ?_, count,
          retries.2⟩
        dsimp only
        rw [Table.find?_modify, if_pos rfl, found, Option.map_some]
  · have absent : client.flushes.lookup other = none := by
      rw [suspended.flushes, List.lookup_cons, beq_eq_false_iff_ne.mpr own]
      rfl
    rw [absent]
    exact .inr ⟨call, loop, item, suspended⟩

theorem queued_set {pushed : List String} (array : client.queue < client.arrays.length) :
    { client with arrays := client.arrays.set client.queue pushed }.queued = pushed := by
  unfold SafetyClient.queued
  simp [List.getD_eq_getElem?_getD, array]

structure Enqueued (config : SdkConfig) (client after : SafetyClient) (id : String) : Prop where
  array : after.queue < after.arrays.length
  queued : after.queued =
    (client.queued ++ [id]).drop ((client.queued ++ [id]).length - config.maxQueueSize)
  queue : after.queue = client.queue
  flushes : after.flushes = client.flushes
  sending : after.transportState = client.transportState
  transmitted : after.transmitted = client.transmitted
  fresh : client.items.find? id = none
  items : after.items = client.items.insert id ⟨0, 0⟩
  settled : ∀ other, after.settled other = client.settled other +
    ((client.queued ++ [id]).take ((client.queued ++ [id]).length - config.maxQueueSize)).count
      other

theorem enqueued_or_same (base : ClientBase config client) (id : String) :
    client.enqueue config id = client ∨ Enqueued config client (client.enqueue config id) id := by
  unfold SafetyClient.enqueue
  split
  next => exact .inl rfl
  next taken =>
    refine .inr ⟨?_, queued_set base.array, rfl, rfl, rfl, rfl,
      Option.not_isSome_iff_eq_none.mp taken, rfl, ?_⟩
    · dsimp only
      rw [List.length_set]
      exact base.array
    · intro other
      unfold SafetyClient.settled
      dsimp only
      rw [List.count_append]
      omega

namespace Enqueued

variable {after : SafetyClient} {id : String} (enqueued : Enqueued config client after id)

include enqueued

theorem pending {other : String} {underWay : Nat}
    (pending : client.Pending config other underWay) : after.Pending config other underWay := by
  obtain ⟨item, found, count, attempts⟩ := pending
  refine ⟨item, ?_, ?_, attempts⟩
  · rw [enqueued.items]
    exact Table.find?_insert_of_found enqueued.fresh found
  · rw [enqueued.transmitted]
    exact count

theorem pending_new (base : ClientBase config client) : after.Pending config id 0 := by
  refine ⟨⟨0, 0⟩, ?_, ?_, Nat.zero_le _⟩
  · rw [enqueued.items]
    exact Table.find?_insert_self enqueued.fresh
  · rw [enqueued.transmitted, base.fresh id enqueued.fresh]

theorem base (base : ClientBase config client) : ClientBase config after where
  array := enqueued.array
  bounded := by
    rw [enqueued.queued, List.length_drop]
    omega
  transmitted := by
    rw [enqueued.transmitted]
    exact base.transmitted
  fresh := by
    intro other absent
    rw [enqueued.transmitted]
    apply base.fresh other
    rw [enqueued.items, Table.find?_insert id enqueued.fresh] at absent
    split at absent
    · cases absent
    · exact absent

theorem conserved {waiting later : List String} (conserved : client.Conserved waiting)
    (counts : ∀ other, ((client.queued ++ [id]).take
        ((client.queued ++ [id]).length - config.maxQueueSize)).count other + later.count other =
      waiting.count other + if id = other then 1 else 0) : after.Conserved later := by
  intro other
  have before := conserved other
  have count := counts other
  rw [enqueued.settled, enqueued.items, Table.find?_insert id enqueued.fresh]
  by_cases same : other = id
  · rw [if_pos same.symm] at count
    rw [same, enqueued.fresh] at before
    rw [if_pos same]
    simp only [Option.isSome_none, Bool.false_eq_true, if_false, Option.isSome_some,
      if_true] at before ⊢
    rw [same] at count ⊢
    omega
  · rw [if_neg (Ne.symm same)] at count
    rw [if_neg same, ← before]
    omega

end Enqueued

theorem Resting.enqueue (resting : Resting config client) (id : String) :
    Resting config (client.enqueue config id) := by
  obtain same | enqueued := enqueued_or_same resting.base id
  · rw [same]
    exact resting
  · refine ⟨enqueued.base resting.base, enqueued.flushes.trans resting.flushes, ?_, ?_⟩
    · refine enqueued.conserved resting.conserved fun other => ?_
      rw [enqueued.queued, ← List.count_append, List.take_append_drop, count_snoc]
    · intro other member
      rw [enqueued.queued] at member
      obtain there | new := List.mem_append.mp (List.mem_of_mem_drop member)
      · exact enqueued.pending (resting.pending other there)
      · rw [List.mem_singleton.mp new]
        exact enqueued.pending_new resting.base

theorem Suspended.enqueue (suspended : Suspended config client call loop item)
    (fits : client.queued.length + 1 ≤ config.maxQueueSize) :
    Suspended config (client.enqueue config id) call loop item := by
  obtain same | enqueued := enqueued_or_same suspended.base id
  · rw [same]
    exact suspended
  · have nothing : (client.queued ++ [id]).length - config.maxQueueSize = 0 := by
      rw [List.length_append, List.length_singleton]
      omega
    have queued : (client.enqueue config id).queued = client.queued ++ [id] := by
      rw [enqueued.queued, nothing, List.drop_zero]
    have unvisited : (client.enqueue config id).queued.drop loop.next =
        client.queued.drop loop.next ++ [id] := by
      rw [queued, List.drop_append_of_le_length suspended.inside]
    refine ⟨enqueued.base suspended.base, enqueued.flushes.trans suspended.flushes,
      enqueued.sending.trans suspended.sending, suspended.array.trans enqueued.queue.symm,
      suspended.visited, ?_, ?_, ?_, enqueued.pending suspended.underWay⟩
    · rw [queued, List.length_append]
      exact Nat.le_add_right_of_le suspended.inside
    · refine enqueued.conserved suspended.conserved fun other => ?_
      rw [nothing, List.take_zero, List.count_nil, Nat.zero_add, unvisited]
      have snoc : loop.survivors ++ item :: (client.queued.drop loop.next ++ [id]) =
          (loop.survivors ++ item :: client.queued.drop loop.next) ++ [id] := by
        rw [List.append_assoc]
        rfl
      rw [snoc, count_snoc]
    · intro other member
      rw [unvisited, ← List.append_assoc] at member
      obtain there | new := List.mem_append.mp member
      · exact enqueued.pending (suspended.pending other there)
      · rw [List.mem_singleton.mp new]
        exact enqueued.pending_new suspended.base

theorem length_queued_enqueue (base : ClientBase config client) (id : String) :
    (client.enqueue config id).queued.length ≤ client.queued.length + 1 := by
  obtain same | enqueued := enqueued_or_same base id
  · rw [same]
    exact Nat.le_succ _
  · rw [enqueued.queued, List.length_drop, List.length_append, List.length_singleton]
    exact Nat.sub_le _ _

theorem Resting.enqueueAll (resting : Resting config client) (ids : List String) :
    Resting config (ids.foldl (fun client id => client.enqueue config id) client) := by
  induction ids generalizing client with
  | nil => exact resting
  | cons id rest ih => exact ih (resting.enqueue id)

theorem Suspended.enqueueAll (suspended : Suspended config client call loop item)
    {ids : List String} (fits : client.queued.length + ids.length ≤ config.maxQueueSize) :
    Suspended config (ids.foldl (fun client id => client.enqueue config id) client) call loop
      item := by
  induction ids generalizing client with
  | nil => exact suspended
  | cons id rest ih =>
    rw [List.length_cons] at fits
    have longer := length_queued_enqueue suspended.base id
    refine ih (suspended.enqueue (by omega)) ?_
    dsimp only
    omega

theorem clientInvariant_step {action : ClientAction} (invariant : ClientInvariant config client)
    (undisturbed : client.undisturbed config action = true) :
    ClientInvariant config (client.step config action) := by
  obtain resting | ⟨call, loop, item, suspended⟩ := invariant
  · cases action with
    | enqueue ids => exact .inl (resting.enqueueAll ids)
    | classifierFailed =>
      obtain ⟨base, flushes, conserved, pending⟩ := resting
      exact .inl ⟨⟨base.array, base.bounded, base.transmitted, base.fresh⟩, flushes, conserved,
        pending⟩
    | flush call now aborted => exact resting.flush call now aborted
    | resume call outcome aborted =>
      unfold SafetyClient.step SafetyClient.resume
      dsimp only
      rw [resting.flushes]
      exact .inl resting
  · unfold SafetyClient.undisturbed at undisturbed
    cases action with
    | enqueue ids =>
      dsimp only at undisturbed
      rw [suspended.sending, bne_self_eq_false, Bool.false_or, decide_eq_true_eq] at undisturbed
      exact .inr ⟨call, loop, item, suspended.enqueueAll undisturbed⟩
    | classifierFailed =>
      obtain ⟨base, flushes, sending, array, visited, inside, conserved, pending, underWay⟩ :=
        suspended
      exact .inr ⟨call, loop, item, ⟨base.array, base.bounded, base.transmitted, base.fresh⟩,
        flushes, sending, array, visited, inside, conserved, pending, underWay⟩
    | flush other now aborted =>
      dsimp only at undisturbed
      rw [suspended.sending, bne_self_eq_false] at undisturbed
      cases undisturbed
    | resume other outcome aborted => exact suspended.resume other undisturbed aborted

theorem resting_new (config : SdkConfig) : Resting config .new where
  base :=
    { array := Nat.one_pos
      bounded := Nat.zero_le _
      transmitted := fun _ => Nat.zero_le _
      fresh := fun _ _ => rfl }
  flushes := rfl
  conserved := fun _ => rfl
  pending := fun _ member => by cases member

/-- In every run of a new client in which one flush is under way at a time, nothing is evicted
under it and every successful response has a body, an enqueued envelope is in one situation, the
queue keeps its bound and no envelope is transmitted too often. -/
theorem clientSound_of_undisturbed (config : SdkConfig) (actions : List ClientAction)
    (undisturbed : Runs.Meets (SafetyClient.step config)
      (fun client action => client.undisturbed config action = true) .new actions) :
    ∀ reached ∈ Runs.states (SafetyClient.step config) .new actions,
      ClientSound config reached := by
  intro reached member
  have initial : ClientInvariant config .new := .inl (resting_new config)
  exact (Runs.invariant_states clientInvariant_step initial undisturbed reached member).sound

end

/-! A client with room for one envelope. -/

def sampleConfig : SdkConfig := ⟨0, 1, 250, fun _ => 0, Nat.one_pos⟩

/-- An envelope is transmitted and acknowledged, and a second one is reported. -/
theorem clientSound_of_flushes :
    ClientSound sampleConfig (Runs.run (SafetyClient.step sampleConfig) .new
      [.enqueue ["a"], .flush 0 0 false, .resume 0 (.response 200 true) false, .enqueue ["b"],
        .flush 1 0 false, .resume 1 (.failed none) false]) :=
  clientSound_of_undisturbed sampleConfig _ (by decide +kernel) _ (Runs.run_mem_states _)

/-- Two flushes go through the queue; an envelope that is enqueued when the first has ended is
in no array that the second one keeps. -/
def overlappingFlushes : List ClientAction :=
  [.enqueue ["a"], .flush 0 0 false, .flush 1 0 false, .resume 0 (.response 200 true) false,
    .enqueue ["b"], .resume 1 (.response 200 true) false]

/-- The envelope has disappeared: it does not wait, and nothing has become of it. -/
theorem envelope_lost :
    ¬∀ (config : SdkConfig) (actions : List ClientAction),
      ∀ reached ∈ Runs.states (SafetyClient.step config) .new actions,
        ClientSound config reached := by
  intro claim
  have sound := claim sampleConfig overlappingFlushes _ (Runs.run_mem_states _)
  have nowhere := sound.situated "b" (by decide +kernel)
  have lost : (Runs.run (SafetyClient.step sampleConfig) .new overlappingFlushes).settled "b" +
      (Runs.run (SafetyClient.step sampleConfig) .new overlappingFlushes).waiting.count "b" = 0 := by
    decide +kernel
  rw [lost] at nowhere
  cases nowhere

end Tamanor.Sdk
