import Overplus.Library.Fifo
import Overplus.Server.SessionBuffer

/-!
# The session buffer is a bounded queue

A user of `SessionBuffer` asks for a region with `prepare`, writes into it, commits what was
written, and consumes what `peek` shows. However such calls follow one another, a bounded queue
follows the buffer step by step: regions offered are apart from the queued bytes, a commit
appends the bytes written, `peek` shows the front of the queue, and `consume` drops it. The loop
of `enqueue_write` ends and appends what there is room for.
-/
namespace Overplus.Verif.BufferQueue

open Server

/-- A buffer in use. -/
structure Use where
  /-- The buffer. -/
  ring : SessionBuffer
  /-- The longest region offered by `prepare` and not committed yet: position and length. -/
  grant : Nat × Nat := (0, 0)
  /-- The bytes written into regions offered, by position. -/
  written : Nat → Option UInt8 := fun _ => none

/-- What the user of a buffer does. -/
inductive Call where
  /-- `prepare`. -/
  | prepare (len : Nat)
  /-- Write a block at a position. -/
  | write (position : Nat) (block : Bytes)
  /-- `commit`. -/
  | commit (count : Nat)
  /-- `consume`. -/
  | consume (count : Nat)
  /-- `reset`. -/
  | reset
  /-- The copy loop of `enqueue_write`. -/
  | enqueue (data : Bytes)

namespace Use

/-- The bytes written to the start of the region offered. -/
def block (use : Use) (count : Nat) : Bytes :=
  (List.range count).map fun index => (use.written (use.grant.1 + index)).getD 0

/-- One call; nothing where the user may not make it. Writes stay inside the region offered, a
commit is for bytes of it that were written, and a consume for bytes that `peek` shows. -/
def step (use : Use) : Call → Option Use
  | .prepare len =>
    let offered := use.ring.prepare len
    some { use with grant := if use.grant.2 < offered.2 then offered else use.grant }
  | .write position block =>
    if use.grant.1 ≤ position ∧ position + block.length ≤ use.grant.1 + use.grant.2 then
      some { use with
        ring := use.ring.copyIn position block
        written := Ring.store use.written position (block.map some) }
    else none
  | .commit count =>
    if count ≤ use.grant.2 ∧ ∀ index < count, (use.written (use.grant.1 + index)).isSome then
      some { use with
        ring := use.ring.commit count
        grant := (use.grant.1 + count, use.grant.2 - count) }
    else none
  | .consume count =>
    if count ≤ use.ring.peek.2 then some { use with ring := use.ring.consume count } else none
  | .reset => some { ring := use.ring.reset }
  | .enqueue data => some { ring := use.ring.enqueue data }

/-- What a call does to the queue. -/
def label (use : Use) : Call → Fifo.Op UInt8
  | .prepare _ | .write _ _ => .keep
  | .commit count => .push (use.block count)
  | .consume count => .pop count
  | .reset => .clear
  | .enqueue data => .push (data.take (min data.length (use.ring.capacity - use.ring.used)))

end Use

variable {capacity : Nat} {use next : Use} {queue : Fifo UInt8 capacity}

/-- A buffer in use stands for a queue. -/
structure Represents (capacity : Nat) (use : Use) (queue : Fifo UInt8 capacity) : Prop where
  /-- The capacity is the queue's. -/
  capacity : use.ring.capacity = capacity
  /-- The counters describe a queue. -/
  well : use.ring.WellFormed
  /-- The queued bytes are the queue's. -/
  items : use.ring.contents = queue.items
  /-- The region offered is free. -/
  free : use.ring.Free use.grant
  /-- The bytes written are in the storage. -/
  stored : ∀ position byte, use.written position = some byte → use.ring.cells position = byte

namespace Represents

variable (represents : Represents capacity use queue)

include represents

/-- As many bytes are used as are queued. -/
theorem used : use.ring.used = queue.items.length := by
  rw [← represents.items, SessionBuffer.contents_length]

/-- The bytes written to the start of a region are what is there. -/
theorem block_eq {count : Nat}
    (written : ∀ index < count, (use.written (use.grant.1 + index)).isSome) :
    use.ring.region use.grant.1 count = use.block count := by
  refine List.map_congr_left fun index member => ?_
  obtain ⟨byte, found⟩ := Option.isSome_iff_exists.mp (written index (List.mem_range.mp member))
  rw [represents.stored _ _ found, found, Option.getD_some]

/-- `prepare` keeps the queue. -/
theorem prepare (len : Nat) :
    ∃ next, use.step (.prepare len) = some next ∧ Represents capacity next queue := by
  refine ⟨_, rfl, represents.capacity, represents.well, represents.items, ?_, represents.stored⟩
  dsimp only
  split
  · exact SessionBuffer.prepare_free represents.well len
  · exact represents.free

/-- A write inside the region offered keeps the queue. -/
theorem write {position : Nat} {block : Bytes}
    (within : use.grant.1 ≤ position ∧ position + block.length ≤ use.grant.1 + use.grant.2) :
    Represents capacity { use with
      ring := use.ring.copyIn position block
      written := Ring.store use.written position (block.map some) } queue where
  capacity := represents.capacity
  well := ⟨represents.well.allocated, represents.well.position, represents.well.fits⟩
  items := (represents.free.contents_copyIn within.1 within.2).trans represents.items
  free := ⟨represents.free.room, represents.free.inside, represents.free.place⟩
  stored := fun _ _ found => Ring.store_known represents.stored found

/-- Behind a commit the bytes written are queued. -/
theorem contents_commit {count : Nat} (fits : count ≤ use.grant.2)
    (written : ∀ index < count, (use.written (use.grant.1 + index)).isSome) :
    (use.ring.commit count).contents = queue.items ++ use.block count := by
  obtain ⟨-, -, contents⟩ := represents.free.commit represents.well fits
  rw [contents, represents.block_eq written, represents.items]

/-- A commit appends the bytes written. -/
theorem commit {count : Nat} (fits : count ≤ use.grant.2)
    (written : ∀ index < count, (use.written (use.grant.1 + index)).isSome) :
    ∃ after, queue.step (.push (use.block count)) = some after ∧
      Represents capacity { use with
        ring := use.ring.commit count
        grant := (use.grant.1 + count, use.grant.2 - count) } after := by
  obtain ⟨well, -, -⟩ := represents.free.commit represents.well fits
  have contents := represents.contents_commit fits written
  have room : queue.items.length + (use.block count).length ≤ capacity := by
    have free := represents.free.room
    rw [represents.capacity, represents.used] at free
    have size : (use.block count).length = count := by simp [Use.block]
    omega
  obtain ⟨after, pushed, items⟩ := queue.step_push room
  exact ⟨after, pushed, represents.capacity, well, contents.trans items.symm,
    represents.free.rest represents.well fits, represents.stored⟩

/-- Bytes that `peek` shows are queued. -/
theorem queued {count : Nat} (shown : count ≤ use.ring.peek.2) : count ≤ use.ring.used :=
  shown.trans (SessionBuffer.peek_spec represents.well).1

/-- A consume drops the front of the queue. -/
theorem consume {count : Nat} (shown : count ≤ use.ring.peek.2) :
    ∃ after, queue.step (.pop count) = some after ∧
      Represents capacity { use with ring := use.ring.consume count } after := by
  have queued := represents.queued shown
  obtain ⟨well, contents⟩ := SessionBuffer.consume_spec represents.well queued
  rw [represents.items] at contents
  obtain ⟨after, popped, items⟩ := queue.step_pop (represents.used ▸ queued)
  exact ⟨after, popped, represents.capacity, well, contents.trans items.symm,
    represents.free.consume represents.well queued, represents.stored⟩

/-- A reset empties the queue. -/
theorem reset : Represents capacity { ring := use.ring.reset } Fifo.empty := by
  have well : use.ring.reset.WellFormed :=
    ⟨represents.well.allocated, Nat.zero_lt_of_lt represents.well.position, Nat.zero_le _⟩
  refine ⟨represents.capacity, well, SessionBuffer.contents_empty rfl,
    SessionBuffer.free_zero well 0, ?_⟩
  intro _ _ found
  cases found

/-- The loop of `enqueue_write` ends and appends as much as there is room for. -/
theorem enqueueLoop (data : Bytes) :
    (use.ring.enqueue data).WellFormed ∧ (use.ring.enqueue data).capacity = capacity ∧
      (use.ring.enqueue data).contents =
        queue.items ++ data.take (min data.length (capacity - use.ring.used)) ∧
      Ends SessionBuffer.enqueueRound (use.ring, data)
        (use.ring.enqueue data, data.drop (capacity - use.ring.used)) := by
  have spec := SessionBuffer.enqueueLoop_spec data.length represents.well (le_refl data.length)
  rw [represents.capacity, represents.items] at spec
  rw [Nat.min_comm, ← List.take_eq_take_min]
  exact spec

/-- The loop of `enqueue_write` appends to the queue. -/
theorem enqueue (data : Bytes) :
    ∃ after, queue.step (use.label (.enqueue data)) = some after ∧
      Represents capacity { ring := use.ring.enqueue data } after := by
  obtain ⟨well, kept, contents, -⟩ := represents.enqueueLoop data
  have room : queue.items.length +
      (data.take (min data.length (use.ring.capacity - use.ring.used))).length ≤ capacity := by
    have bounded := queue.bounded
    rw [List.length_take, represents.capacity, represents.used]
    omega
  obtain ⟨after, pushed, items⟩ := queue.step_push room
  rw [represents.capacity] at items
  refine ⟨after, pushed, kept, well, contents.trans items.symm, SessionBuffer.free_zero well 0, ?_⟩
  intro _ _ found
  cases found

/-- **One call** does to the queue what it stands for. -/
theorem step {call : Call} (stepped : use.step call = some next) :
    ∃ after, queue.step (use.label call) = some after ∧ Represents capacity next after := by
  cases call with
  | prepare len =>
    obtain ⟨_, prepared, kept⟩ := represents.prepare len
    obtain rfl := Option.some.inj (stepped.symm.trans prepared)
    exact ⟨queue, rfl, kept⟩
  | write position block =>
    obtain ⟨within, written⟩ := Option.ite_none_right_eq_some.mp stepped
    obtain rfl := Option.some.inj written
    exact ⟨queue, rfl, represents.write within⟩
  | commit count =>
    obtain ⟨⟨fits, written⟩, committed⟩ := Option.ite_none_right_eq_some.mp stepped
    obtain rfl := Option.some.inj committed
    exact represents.commit fits written
  | consume count =>
    obtain ⟨shown, consumed⟩ := Option.ite_none_right_eq_some.mp stepped
    obtain rfl := Option.some.inj consumed
    exact represents.consume shown
  | reset =>
    obtain rfl := Option.some.inj stepped
    exact ⟨Fifo.empty, rfl, represents.reset⟩
  | enqueue data =>
    obtain rfl := Option.some.inj stepped
    exact represents.enqueue data

end Represents

/-- What the calls of a user do to a buffer that stands for a queue. -/
structure Behaves (capacity : Nat) (use : Use) (queue : Fifo UInt8 capacity) : Prop where
  /-- The queued bytes are the queue's. -/
  items : use.ring.contents = queue.items
  /-- `prepare` offers at most what was asked for, inside the storage. -/
  inside : ∀ len, (use.ring.prepare len).2 ≤ len ∧
    (use.ring.prepare len).1 + (use.ring.prepare len).2 ≤ capacity
  /-- No byte of the region offered is in the place of a queued byte. -/
  disjoint : ∀ len, ∀ offset < (use.ring.prepare len).2, ∀ index < queue.items.length,
    (use.ring.prepare len).1 + offset ≠ (use.ring.readPos + index) % capacity
  /-- The region offered is not empty while there is free space. -/
  offers : ∀ len, 0 < len → queue.items.length < capacity → 0 < (use.ring.prepare len).2
  /-- A commit appends the bytes written. -/
  commits : ∀ count next, use.step (.commit count) = some next →
    next.ring.contents = queue.items ++ use.block count
  /-- `peek` shows a prefix of the queue. -/
  shows : use.ring.region use.ring.peek.1 use.ring.peek.2 <+: queue.items
  /-- `peek` shows something unless the queue is empty. -/
  front : queue.items ≠ [] → use.ring.region use.ring.peek.1 use.ring.peek.2 ≠ []
  /-- A consume drops bytes from the front. -/
  consumes : ∀ count next, use.step (.consume count) = some next →
    next.ring.contents = queue.items.drop count
  /-- The loop of `enqueue_write` ends and appends the bytes there is room for. -/
  enqueues : ∀ data, ∃ left, Ends SessionBuffer.enqueueRound (use.ring, data)
      (use.ring.enqueue data, left) ∧
    (use.ring.enqueue data).contents =
      queue.items ++ data.take (min data.length (capacity - use.ring.used))

/-- A region offered ends inside the storage, also an empty one. -/
theorem prepare_inside {ring : SessionBuffer} (well : ring.WellFormed) (len : Nat) :
    (ring.prepare len).1 + (ring.prepare len).2 ≤ ring.capacity := by
  have place : (ring.readPos + ring.used) % ring.capacity < ring.capacity :=
    Nat.mod_lt _ (Nat.zero_lt_of_lt well.position)
  rw [SessionBuffer.prepare_eq well]
  split
  · exact Nat.zero_le _
  · dsimp only
    omega

/-- A buffer that stands for a queue behaves as one. -/
theorem Represents.behaves (represents : Represents capacity use queue) :
    Behaves capacity use queue := by
  obtain ⟨few, some, front⟩ := SessionBuffer.peek_spec represents.well
  have used := represents.used
  rw [represents.items] at front
  refine ⟨represents.items, ?_, ?_, ?_, ?_, ?_, ?_, ?_, ?_⟩
  · intro len
    rw [← represents.capacity]
    exact ⟨(SessionBuffer.prepare_spec represents.well len).1, prepare_inside represents.well len⟩
  · intro len offset within index queued
    rw [← used] at queued
    rw [← represents.capacity]
    exact (SessionBuffer.prepare_free represents.well len).ne_queued within queued
  · intro len asked room
    rw [← used, ← represents.capacity] at room
    exact (SessionBuffer.prepare_spec represents.well len).2.2.2.2 asked room
  · intro count next stepped
    obtain ⟨⟨fits, written⟩, committed⟩ := Option.ite_none_right_eq_some.mp stepped
    obtain rfl := Option.some.inj committed
    exact represents.contents_commit fits written
  · rw [front]
    exact List.take_prefix _ _
  · intro nonempty
    have positive : 0 < use.ring.used := by
      rw [used]
      exact List.length_pos_iff.mpr nonempty
    rw [front]
    refine List.ne_nil_of_length_pos ?_
    rw [List.length_take, ← used]
    exact Nat.lt_min.mpr ⟨some positive, positive⟩
  · intro count next stepped
    obtain ⟨shown, consumed⟩ := Option.ite_none_right_eq_some.mp stepped
    obtain rfl := Option.some.inj consumed
    rw [← represents.items]
    exact (SessionBuffer.consume_spec represents.well (represents.queued shown)).2
  · intro data
    obtain ⟨-, -, contents, ends⟩ := represents.enqueueLoop data
    exact ⟨_, ends, contents⟩

/-- A buffer that was just created stands for the empty queue. -/
theorem represents_create {ring : SessionBuffer} (positive : 1 ≤ capacity)
    (created : SessionBuffer.create capacity = some ring) :
    Represents capacity { ring := ring } Fifo.empty := by
  obtain ⟨well, same, drained⟩ := SessionBuffer.create_spec positive created
  refine ⟨same, well, SessionBuffer.contents_empty drained, SessionBuffer.free_zero well 0, ?_⟩
  intro _ _ found
  cases found

/-- **The session buffer is a bounded queue.** Whatever calls the user of a buffer of any capacity
makes, writing into regions offered, committing bytes written and consuming bytes shown, a queue
of that capacity follows the calls step by step, and in the state reached the buffer holds the
queue's bytes and its calls do what they do to the queue. -/
theorem buffer_bounded_fifo (capacity : Nat) (positive : 1 ≤ capacity) (ring : SessionBuffer)
    (created : SessionBuffer.create capacity = some ring) (calls : List Call) (use : Use)
    (ran : run Use.step { ring := ring } calls = some use) :
    ∃ queue : Fifo UInt8 capacity,
      run Fifo.step Fifo.empty (labels Use.step Use.label { ring := ring } calls) = some queue ∧
        queue.items.length ≤ capacity ∧ Behaves capacity use queue := by
  have follows : ∀ state call next (queue : Fifo UInt8 capacity),
      Represents capacity state queue → Use.step state call = some next →
      ∃ after, queue.step (state.label call) = some after ∧ Represents capacity next after :=
    fun _ _ _ _ represents stepped => represents.step stepped
  obtain ⟨queue, followed, represents⟩ :=
    run_simulates follows (represents_create positive created) ran
  exact ⟨queue, followed, queue.bounded, represents.behaves⟩

/-- Three bytes are queued, one of them behind the end of the storage. -/
def wrapping : List Call :=
  [.prepare 2, .write 0 [1, 2], .commit 2, .consume 1, .prepare 5, .write 2 [3], .commit 1,
    .prepare 1, .write 0 [4], .commit 1]

/-- A buffer of three bytes wraps round and stays a queue. -/
theorem buffer_bounded_fifo_wrapping : ∃ use, ∃ queue : Fifo UInt8 3,
    run Use.step { ring := { capacity := 3 } } wrapping = some use ∧
      run Fifo.step Fifo.empty
        (labels Use.step Use.label { ring := { capacity := 3 } } wrapping) = some queue ∧
      queue.items = [2, 3, 4] ∧ use.ring.peek = (1, 2) ∧ Behaves 3 use queue := by
  have created : SessionBuffer.create 3 = some { capacity := 3 } := rfl
  have checked : (run Use.step { ring := { capacity := 3 } } wrapping).any (fun use =>
      decide (use.ring.contents = [2, 3, 4] ∧ use.ring.peek = (1, 2))) = true := by
    decide +kernel
  obtain ⟨use, ran, good⟩ := exists_of_run checked
  obtain ⟨contents, peek⟩ := of_decide_eq_true good
  obtain ⟨queue, followed, -, behaves⟩ :=
    buffer_bounded_fifo 3 (by decide) _ created wrapping use ran
  exact ⟨use, queue, ran, followed, behaves.items.symm.trans contents, peek, behaves⟩

end Overplus.Verif.BufferQueue
