import Overplus.Library.Bytes
import Overplus.Library.Ring
import Overplus.Library.Run
import Overplus.Library.Word

/-!
# The session buffer

`SessionBuffer` of `Server/Session.h`: a ring of bytes with a read position and a count of
used bytes, both unsigned sizes. The loop of `enqueue_write` that copies a chunk into the
ring is here too. On a well-formed ring the buffer is a bounded queue: its contents are the
window of used bytes, a write into the free space behind them leaves them alone, a commit
extends them by what is there, a consume drops their front, and the loop appends as much of a
chunk as there is room for.
-/
namespace Overplus.Server

/-- `SessionBuffer`; positions are sizes and wrap at the word. -/
structure SessionBuffer where
  /-- `buf_`. -/
  cells : Nat → UInt8 := fun _ => 0
  /-- `capacity_`. -/
  capacity : Nat := 64 * 1024
  /-- `read_pos_`. -/
  readPos : Nat := 0
  /-- `used_`. -/
  used : Nat := 0

namespace SessionBuffer

/-- `max_size()` of a vector of bytes. -/
def vectorMaxSize : Nat := 2 ^ 63 - 1

/-- `SessionBuffer(cap)`: zeroed storage, or nothing where `std::vector` throws `length_error`. -/
def create (capacity : Nat) : Option SessionBuffer :=
  if capacity ≤ vectorMaxSize then some { capacity := capacity } else none

/-- `prepare`: position and length of the region offered for writing. -/
def prepare (ring : SessionBuffer) (len : Nat) : Nat × Nat :=
  let avail := sizeSub ring.capacity ring.used
  if avail = 0 then (0, 0)
  else
    let wpos := sizeAdd ring.readPos ring.used % ring.capacity
    (wpos, min (min len avail) (sizeSub ring.capacity wpos))

/-- `commit`. -/
def commit (ring : SessionBuffer) (count : Nat) : SessionBuffer :=
  { ring with used := sizeAdd ring.used count }

/-- `peek`: position and length of the region offered for sending. -/
def peek (ring : SessionBuffer) : Nat × Nat :=
  (ring.readPos, min ring.used (sizeSub ring.capacity ring.readPos))

/-- `consume`. -/
def consume (ring : SessionBuffer) (count : Nat) : SessionBuffer :=
  { ring with
    readPos := sizeAdd ring.readPos count % ring.capacity
    used := sizeSub ring.used count }

/-- `empty`. -/
def empty (ring : SessionBuffer) : Bool := ring.used == 0

/-- `has_space`. -/
def hasSpace (ring : SessionBuffer) (count : Nat) : Bool :=
  decide (sizeAdd ring.used count ≤ ring.capacity)

/-- `reset`. -/
def reset (ring : SessionBuffer) : SessionBuffer := { ring with readPos := 0, used := 0 }

/-- `memcpy` into the ring's bytes. -/
def copyIn (ring : SessionBuffer) (position : Nat) (block : Bytes) : SessionBuffer :=
  { ring with cells := Ring.store ring.cells position block }

/-- The bytes of a region of the ring's storage. -/
def region (ring : SessionBuffer) (position count : Nat) : Bytes :=
  (List.range count).map fun index => ring.cells (position + index)

/-- The copy loop of `enqueue_write`, over the bytes still to be copied. Each round copies at
least one byte, so as many rounds as bytes are enough. -/
def enqueueLoop : Nat → SessionBuffer → Bytes → SessionBuffer
  | 0, ring, _ => ring
  | fuel + 1, ring, data =>
    if data.length = 0 then ring
    else
      let offered := ring.prepare data.length
      if offered.2 = 0 then ring
      else enqueueLoop fuel ((ring.copyIn offered.1 (data.take offered.2)).commit offered.2)
        (data.drop offered.2)

/-- The copy loop of `enqueue_write` on a chunk. -/
def enqueue (ring : SessionBuffer) (data : Bytes) : SessionBuffer :=
  enqueueLoop data.length ring data

/-- One round of the copy loop of `enqueue_write`, on the ring and the bytes still to be copied;
nothing where the loop is left. -/
def enqueueRound (state : SessionBuffer × Bytes) : Option (SessionBuffer × Bytes) :=
  if state.2.length = 0 then none
  else
    let offered := state.1.prepare state.2.length
    if offered.2 = 0 then none
    else some ((state.1.copyIn offered.1 (state.2.take offered.2)).commit offered.2,
      state.2.drop offered.2)

/-- The queued bytes, oldest first. -/
def contents (ring : SessionBuffer) : Bytes :=
  Ring.window ring.cells ring.capacity ring.readPos ring.used

/-- The ring's counters describe a queue inside its storage. -/
structure WellFormed (ring : SessionBuffer) : Prop where
  /-- Storage can be allocated. -/
  allocated : 2 * ring.capacity < sizeModulus
  /-- The read position is inside the storage. -/
  position : ring.readPos < ring.capacity
  /-- The queue fits the storage. -/
  fits : ring.used ≤ ring.capacity

/-- A region is free space behind the queue that does not wrap. -/
structure Free (ring : SessionBuffer) (region : Nat × Nat) : Prop where
  /-- It fits behind the queue. -/
  room : ring.used + region.2 ≤ ring.capacity
  /-- It ends inside the storage. -/
  inside : (ring.readPos + ring.used) % ring.capacity + region.2 ≤ ring.capacity
  /-- It starts where the queue ends. -/
  place : 0 < region.2 → region.1 = (ring.readPos + ring.used) % ring.capacity

variable {ring : SessionBuffer} {data block : Bytes} {count : Nat} {region : Nat × Nat}

/-- A created buffer is well-formed and empty. -/
theorem create_spec {capacity : Nat} (positive : 1 ≤ capacity)
    (created : create capacity = some ring) :
    ring.WellFormed ∧ ring.capacity = capacity ∧ ring.used = 0 := by
  unfold create at created
  split at created
  · rename_i small
    obtain rfl := Option.some.inj created
    have allocated : 2 * capacity < sizeModulus := by
      unfold vectorMaxSize at small
      unfold sizeModulus
      omega
    exact ⟨⟨allocated, positive, Nat.zero_le _⟩, rfl, rfl⟩
  · cases created

/-- As many bytes are queued as are used. -/
@[simp]
theorem contents_length : ring.contents.length = ring.used := Ring.window_length

/-- An empty ring queues nothing. -/
theorem contents_empty (drained : ring.used = 0) : ring.contents = [] := by
  rw [contents, drained, Ring.window_zero]

/-- What `prepare` offers on a well-formed ring. -/
theorem prepare_eq (well : ring.WellFormed) (len : Nat) :
    ring.prepare len = if ring.capacity - ring.used = 0 then (0, 0)
      else ((ring.readPos + ring.used) % ring.capacity,
        min (min len (ring.capacity - ring.used))
          (ring.capacity - (ring.readPos + ring.used) % ring.capacity)) := by
  obtain ⟨allocated, position, fits⟩ := well
  have place : (ring.readPos + ring.used) % ring.capacity < ring.capacity :=
    Nat.mod_lt _ (by omega)
  have avail : sizeSub ring.capacity ring.used = ring.capacity - ring.used :=
    sizeSub_exact fits (by omega)
  have wpos : sizeAdd ring.readPos ring.used = ring.readPos + ring.used :=
    sizeAdd_exact (by omega)
  have left : sizeSub ring.capacity ((ring.readPos + ring.used) % ring.capacity) =
      ring.capacity - (ring.readPos + ring.used) % ring.capacity :=
    sizeSub_exact (by omega) (by omega)
  simp only [prepare, avail, wpos, left]

/-- On a well-formed ring, `prepare` offers free space behind the queue that does not wrap:
none only when the ring is full or nothing was asked for. -/
theorem prepare_spec (well : ring.WellFormed) (len : Nat) :
    (ring.prepare len).2 ≤ len ∧ ring.used + (ring.prepare len).2 ≤ ring.capacity ∧
      (ring.readPos + ring.used) % ring.capacity + (ring.prepare len).2 ≤ ring.capacity ∧
      (0 < (ring.prepare len).2 →
        (ring.prepare len).1 = (ring.readPos + ring.used) % ring.capacity) ∧
      (0 < len → ring.used < ring.capacity → 0 < (ring.prepare len).2) := by
  rw [prepare_eq well]
  obtain ⟨_, position, fits⟩ := well
  have place : (ring.readPos + ring.used) % ring.capacity < ring.capacity :=
    Nat.mod_lt _ (by omega)
  generalize (ring.readPos + ring.used) % ring.capacity = wpos at place ⊢
  by_cases full : ring.capacity - ring.used = 0
  · rw [if_pos full]
    simp only
    omega
  · rw [if_neg full]
    simp only
    refine ⟨?_, ?_, ?_, fun _ => trivial, ?_⟩ <;> omega

/-- What `prepare` offers is free. -/
theorem prepare_free (well : ring.WellFormed) (len : Nat) : ring.Free (ring.prepare len) := by
  obtain ⟨_, room, inside, place, _⟩ := prepare_spec well len
  exact ⟨room, inside, place⟩

/-- An empty region is free. -/
theorem free_zero (well : ring.WellFormed) (position : Nat) : ring.Free (position, 0) := by
  have place : (ring.readPos + ring.used) % ring.capacity < ring.capacity :=
    Nat.mod_lt _ (Nat.zero_lt_of_lt well.position)
  exact ⟨well.fits, place.le, fun positive => absurd positive (Nat.lt_irrefl 0)⟩

/-- A free region shares no place with the queued bytes. -/
theorem Free.ne_queued (free : ring.Free region) {offset index : Nat} (within : offset < region.2)
    (queued : index < ring.used) :
    region.1 + offset ≠ (ring.readPos + index) % ring.capacity := by
  rw [free.place (Nat.zero_lt_of_lt within)]
  exact Ring.behind_ne queued within free.room free.inside

/-- **A write into a free region** leaves the queue. -/
theorem Free.contents_copyIn (free : ring.Free region) {position : Nat}
    (front : region.1 ≤ position) (within : position + block.length ≤ region.1 + region.2) :
    (ring.copyIn position block).contents = ring.contents := by
  refine Ring.window_congr fun index queued => Ring.store_outside ?_
  change (ring.readPos + index) % ring.capacity < position ∨
    position + block.length ≤ (ring.readPos + index) % ring.capacity
  by_contra overlap
  rw [not_or, Nat.not_lt, Nat.not_le] at overlap
  have apart := free.ne_queued (show (ring.readPos + index) % ring.capacity - region.1 < region.2
    by omega) queued
  omega

/-- **A commit inside a free region** appends what is there. -/
theorem Free.commit (well : ring.WellFormed) (free : ring.Free region) (fits : count ≤ region.2) :
    (ring.commit count).WellFormed ∧ (ring.commit count).used = ring.used + count ∧
      (ring.commit count).contents = ring.contents ++ ring.region region.1 count := by
  obtain ⟨allocated, position, _⟩ := well
  obtain ⟨room, inside, place⟩ := free
  have exact : sizeAdd ring.used count = ring.used + count := sizeAdd_exact (by omega)
  refine ⟨⟨allocated, position, ?_⟩, exact, ?_⟩
  · change sizeAdd ring.used count ≤ ring.capacity
    omega
  · change Ring.window ring.cells ring.capacity ring.readPos (sizeAdd ring.used count) = _
    rw [exact, Ring.window_add, contents, List.append_cancel_left_eq, ← Ring.window_mod,
      Ring.window_flat (by omega)]
    by_cases nothing : count = 0
    · rw [nothing]
      rfl
    · rw [← place (by omega)]
      rfl

/-- Behind a commit the rest of the free region is free. -/
theorem Free.rest (well : ring.WellFormed) (free : ring.Free region) (fits : count ≤ region.2) :
    (ring.commit count).Free (region.1 + count, region.2 - count) := by
  obtain ⟨wellNext, used, -⟩ := free.commit well fits
  by_cases whole : region.2 - count = 0
  · rw [whole]
    exact free_zero wellNext _
  obtain ⟨room, inside, place⟩ := free
  have moved : (ring.readPos + (ring.used + count)) % ring.capacity = region.1 + count := by
    rw [place (by omega), ← Nat.add_assoc, ← Nat.mod_add_mod, Nat.mod_eq_of_lt (by omega)]
  have behind := place (by omega)
  refine ⟨?_, ?_, ?_⟩
  · rw [used]
    change ring.used + count + (region.2 - count) ≤ ring.capacity
    omega
  · rw [used]
    change (ring.readPos + (ring.used + count)) % ring.capacity + (region.2 - count) ≤ ring.capacity
    omega
  · intro _
    rw [used]
    exact moved.symm

/-- Copying a block to the start of a free region and committing it appends it to the queue. -/
theorem Free.commit_copyIn (well : ring.WellFormed) (free : ring.Free region)
    (fits : block.length ≤ region.2) :
    let next := (ring.copyIn region.1 block).commit block.length
    next.WellFormed ∧ next.used = ring.used + block.length ∧
      next.contents = ring.contents ++ block := by
  have wellCopy : (ring.copyIn region.1 block).WellFormed :=
    ⟨well.allocated, well.position, well.fits⟩
  have freeCopy : (ring.copyIn region.1 block).Free region := ⟨free.room, free.inside, free.place⟩
  obtain ⟨wellNext, usedNext, contentsNext⟩ := freeCopy.commit wellCopy fits
  refine ⟨wellNext, usedNext, ?_⟩
  rw [contentsNext, free.contents_copyIn le_rfl (Nat.add_le_add_left fits _)]
  exact congrArg _ Ring.map_store

/-- The copy loop ends, and appends as much of the chunk as there is room for. -/
theorem enqueueLoop_spec (fuel : Nat) (well : ring.WellFormed) (enough : data.length ≤ fuel) :
    (enqueueLoop fuel ring data).WellFormed ∧
      (enqueueLoop fuel ring data).capacity = ring.capacity ∧
      (enqueueLoop fuel ring data).contents =
        ring.contents ++ data.take (ring.capacity - ring.used) ∧
      Ends enqueueRound (ring, data)
        (enqueueLoop fuel ring data, data.drop (ring.capacity - ring.used)) := by
  induction fuel generalizing ring data with
  | zero =>
    have none : data = [] := List.length_eq_zero_iff.mp (by omega)
    subst none
    refine ⟨well, rfl, by simp [enqueueLoop], ?_⟩
    rw [List.drop_nil]
    exact .left rfl
  | succ fuel ih =>
    by_cases finished : data.length = 0
    · have none : data = [] := List.length_eq_zero_iff.mp finished
      subst none
      refine ⟨well, rfl, by simp [enqueueLoop], ?_⟩
      rw [List.drop_nil]
      exact .left rfl
    have free := prepare_free well data.length
    obtain ⟨atMost, -, -, -, progress⟩ := prepare_spec well data.length
    have round : enqueueRound (ring, data) = if (ring.prepare data.length).2 = 0 then none
        else some ((ring.copyIn (ring.prepare data.length).1
          (data.take (ring.prepare data.length).2)).commit (ring.prepare data.length).2,
            data.drop (ring.prepare data.length).2) := if_neg finished
    have loop : enqueueLoop (fuel + 1) ring data = if (ring.prepare data.length).2 = 0 then ring
        else enqueueLoop fuel ((ring.copyIn (ring.prepare data.length).1
          (data.take (ring.prepare data.length).2)).commit (ring.prepare data.length).2)
            (data.drop (ring.prepare data.length).2) := if_neg finished
    rw [loop]
    generalize ring.prepare data.length = offered at free atMost progress round ⊢
    obtain ⟨position, count⟩ := offered
    dsimp only at free atMost progress round ⊢
    by_cases full : count = 0
    · have noRoom : ring.capacity - ring.used = 0 := by
        have used := well.fits
        by_contra room
        exact absurd (progress (by omega) (by omega)) (by omega)
      rw [if_pos full] at round ⊢
      rw [noRoom, List.take_zero, List.append_nil, List.drop_zero]
      exact ⟨well, rfl, rfl, .left round⟩
    · have size : (data.take count).length = count := by simp [atMost]
      obtain ⟨wellNext, usedNext, contentsNext⟩ := free.commit_copyIn well size.le
      rw [size] at wellNext usedNext contentsNext
      rw [if_neg full] at round ⊢
      obtain ⟨wellLast, capacityLast, contentsLast, endsLast⟩ :=
        ih wellNext (show (data.drop count).length ≤ fuel by rw [List.length_drop]; omega)
      have room := free.room
      dsimp only at room
      have left : count + (ring.capacity - (ring.used + count)) = ring.capacity - ring.used := by
        omega
      refine ⟨wellLast, capacityLast, ?_, ?_⟩
      · rw [contentsLast, contentsNext, usedNext, List.append_assoc, List.append_cancel_left_eq]
        change data.take count ++ (data.drop count).take (ring.capacity - (ring.used + count)) = _
        rw [← List.take_add, left]
      · refine .again round ?_
        rw [usedNext, List.drop_drop] at endsLast
        change Ends _ _ (_, data.drop (count + (ring.capacity - (ring.used + count)))) at endsLast
        rwa [left] at endsLast

/-- A chunk there is room for is queued whole. -/
theorem enqueue_spec (well : ring.WellFormed) (room : ring.used + data.length ≤ ring.capacity) :
    (ring.enqueue data).WellFormed ∧ (ring.enqueue data).capacity = ring.capacity ∧
      (ring.enqueue data).contents = ring.contents ++ data := by
  obtain ⟨wellNext, capacityNext, contentsNext, -⟩ := enqueueLoop_spec data.length well le_rfl
  refine ⟨wellNext, capacityNext, ?_⟩
  rw [enqueue, contentsNext, List.take_of_length_le (by omega)]

/-- What `consume` does to the counters of a well-formed ring. -/
theorem consume_eq (well : ring.WellFormed) (queued : count ≤ ring.used) :
    ring.consume count = { ring with
      readPos := (ring.readPos + count) % ring.capacity
      used := ring.used - count } := by
  obtain ⟨allocated, position, fits⟩ := well
  have exact : sizeSub ring.used count = ring.used - count := sizeSub_exact queued (by omega)
  have moved : sizeAdd ring.readPos count = ring.readPos + count := sizeAdd_exact (by omega)
  rw [consume, exact, moved]

/-- Consuming drops the front of the queue. -/
theorem consume_spec (well : ring.WellFormed) (queued : count ≤ ring.used) :
    (ring.consume count).WellFormed ∧ (ring.consume count).contents = ring.contents.drop count := by
  rw [consume_eq well queued]
  obtain ⟨allocated, position, fits⟩ := well
  refine ⟨⟨allocated, Nat.mod_lt _ (by omega), ?_⟩, Ring.window_drop queued⟩
  exact (Nat.sub_le _ _).trans fits

/-- Consuming leaves free what is free. -/
theorem Free.consume (well : ring.WellFormed) (free : ring.Free region)
    (queued : count ≤ ring.used) : (ring.consume count).Free region := by
  have behind : ((ring.readPos + count) % ring.capacity + (ring.used - count)) % ring.capacity =
      (ring.readPos + ring.used) % ring.capacity := by
    rw [Nat.mod_add_mod, Nat.add_assoc, Nat.add_sub_cancel' queued]
  rw [consume_eq well queued]
  refine ⟨(Nat.add_le_add_right (Nat.sub_le _ _) _).trans free.room, ?_, ?_⟩
  · change ((ring.readPos + count) % ring.capacity + (ring.used - count)) % ring.capacity + _ ≤ _
    rw [behind]
    exact free.inside
  · intro positive
    exact (free.place positive).trans behind.symm

/-- `peek` offers a prefix of the queue, and some of it unless the queue is empty. -/
theorem peek_spec (well : ring.WellFormed) :
    (ring.peek).2 ≤ ring.used ∧ (0 < ring.used → 0 < (ring.peek).2) ∧
      ring.region ring.peek.1 ring.peek.2 = ring.contents.take ring.peek.2 := by
  obtain ⟨allocated, position, fits⟩ := well
  have exact : sizeSub ring.capacity ring.readPos = ring.capacity - ring.readPos :=
    sizeSub_exact (by omega) (by omega)
  unfold peek
  rw [exact]
  refine ⟨Nat.min_le_left _ _, by omega, ?_⟩
  rw [contents, ← Ring.window_take (Nat.min_le_left _ _), Ring.window_flat (by omega)]
  rfl

end SessionBuffer

end Overplus.Server
