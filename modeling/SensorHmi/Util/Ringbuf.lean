import SensorHmi.Lib.BoundedQueue
import SensorHmi.Lib.Machine
import SensorHmi.Lib.Octets

/-!
# The ring buffer

`common/util/ringbuf.c`. The octets between `tail` and `head` are the queue, oldest first; `full`
tells the full ring from the empty one. `ringbuf_refines` says that in every run the ring behaves
as the queue that drops its oldest octets (`queueStep`).
-/

namespace SensorHmi

open BoundedQueue

/-- `ringbuf_t`. The buffer is the memory behind the pointer `ringbuf_init` is given. -/
structure Ringbuf where
  buffer : Nat → UInt8
  capacity : Nat
  head : Nat
  tail : Nat
  full : Bool

/-- `ringbuf_init` -/
def ringbufInit (buffer : Nat → UInt8) (capacity : Nat) : Ringbuf where
  buffer := buffer
  capacity := capacity
  head := 0
  tail := 0
  full := false

/-- `ringbuf_size` -/
def ringbufSize (rb : Ringbuf) : Nat :=
  if rb.full then rb.capacity
  else if rb.tail ≤ rb.head then rb.head - rb.tail
  else rb.capacity - rb.tail + rb.head

/-- `ringbuf_is_empty` -/
def ringbufIsEmpty (rb : Ringbuf) : Bool :=
  !rb.full && rb.head == rb.tail

/-- `ringbuf_is_full` -/
def ringbufIsFull (rb : Ringbuf) : Bool :=
  rb.full

/-- `advance_pointer` -/
def advancePointer (rb : Ringbuf) : Ringbuf :=
  let tail := if rb.full then (rb.tail + 1) % rb.capacity else rb.tail
  let head := (rb.head + 1) % rb.capacity
  { rb with head := head, tail := tail, full := head == tail }

/-- `retreat_pointer` -/
def retreatPointer (rb : Ringbuf) : Ringbuf :=
  { rb with full := false, tail := (rb.tail + 1) % rb.capacity }

/-- `ringbuf_write` -/
def ringbufWrite (rb : Ringbuf) : Bytes → Nat × Ringbuf
  | [] => (0, rb)
  | octet :: rest =>
      if 0 < rb.capacity then
        let rb := { rb with buffer := Function.update rb.buffer rb.head octet }
        let (written, rb) := ringbufWrite (advancePointer rb) rest
        (written + 1, rb)
      else (0, rb)

/-- `ringbuf_read`: what it stores in `data`, as many octets as it returns. -/
def ringbufRead (rb : Ringbuf) : (len : Nat) → Bytes × Ringbuf
  | 0 => ([], rb)
  | len + 1 =>
      if ringbufIsEmpty rb then ([], rb)
      else
        let octet := rb.buffer rb.tail
        let (rest, rb) := ringbufRead (retreatPointer rb) len
        (octet :: rest, rb)

/-- `ringbuf_reset` -/
def ringbufReset (rb : Ringbuf) : Ringbuf :=
  { rb with head := 0, tail := 0, full := false }

/-- A call on the ring buffer. -/
inductive RingbufCall
  | write (data : Bytes)
  | read (len : Nat)
  | reset

/-- What a call returns. -/
inductive RingbufReturn
  | written (count : Nat)
  | octets (data : Bytes)
  deriving DecidableEq

/-- The ring buffer after a call, and what the call returns. -/
def ringbufStep (rb : Ringbuf) : RingbufCall → Ringbuf × List RingbufReturn
  | .write data =>
      let (written, rb) := ringbufWrite rb data
      (rb, [.written written])
  | .read len =>
      let (data, rb) := ringbufRead rb len
      (rb, [.octets data])
  | .reset => (ringbufReset rb, [])

/-- The queue that drops its oldest octets when it has no room. -/
def queueStep (capacity : Nat) (queue : Bytes) : RingbufCall → Bytes × List RingbufReturn
  | .write data =>
      (keep capacity (queue ++ data), [.written (if capacity = 0 then 0 else data.length)])
  | .read len => (queue.drop len, [.octets (queue.take len)])
  | .reset => ([], [])

/-- The ring buffer stands for this queue. -/
structure Represents (rb : Ringbuf) (queue : Bytes) : Prop where
  length_le : queue.length ≤ rb.capacity
  tail_lt : 0 < rb.capacity → rb.tail < rb.capacity
  head : rb.head = (rb.tail + queue.length) % rb.capacity
  full : rb.full = true ↔ 0 < rb.capacity ∧ queue.length = rb.capacity
  holds : Holds rb.buffer rb.capacity rb.tail queue

namespace Represents

variable {rb : Ringbuf} {queue rest : Bytes} {octet : UInt8}

/-- Where the head is: at most once around. -/
theorem head_cases (h : Represents rb queue) :
    (rb.head = rb.tail + queue.length ∧ (0 < rb.capacity → rb.head < rb.capacity)) ∨
      rb.head + rb.capacity = rb.tail + queue.length := by
  have hlength := h.length_le
  have htail := h.tail_lt
  rcases Nat.eq_zero_or_pos rb.capacity with hzero | hpos
  · left
    have hempty : queue.length = 0 := by omega
    refine ⟨?_, by omega⟩
    rw [h.head, hzero, Nat.mod_zero]
  by_cases hwrap : rb.tail + queue.length < rb.capacity
  · left
    have hhead := h.head
    rw [Nat.mod_eq_of_lt hwrap] at hhead
    exact ⟨hhead, by omega⟩
  · right
    have hhead := h.head
    rw [Nat.mod_eq_sub_mod (by omega), Nat.mod_eq_of_lt (by omega)] at hhead
    omega

/-- `ringbuf_size` is the length of the queue. -/
theorem size (h : Represents rb queue) : ringbufSize rb = queue.length := by
  have hlength := h.length_le
  have htail := h.tail_lt
  have hfull := h.full
  have hhead := h.head_cases
  unfold ringbufSize
  cases hflag : rb.full with
  | true => exact ((hfull.mp hflag).2).symm
  | false =>
      have hnot : ¬ (0 < rb.capacity ∧ queue.length = rb.capacity) := by
        rw [← hfull, hflag]
        decide
      rw [if_neg (by decide)]
      split_ifs <;> omega

theorem isEmpty (h : Represents rb queue) : ringbufIsEmpty rb = true ↔ queue = [] := by
  have hlength := h.length_le
  have htail := h.tail_lt
  have hfull := h.full
  have hhead := h.head_cases
  rw [← List.length_eq_zero_iff]
  unfold ringbufIsEmpty
  cases hflag : rb.full with
  | true =>
      have := hfull.mp hflag
      simp only [Bool.not_true, Bool.false_and, Bool.false_eq_true, false_iff]
      omega
  | false =>
      have hnot : ¬ (0 < rb.capacity ∧ queue.length = rb.capacity) := by
        rw [← hfull, hflag]
        decide
      simp only [Bool.not_false, Bool.true_and, beq_iff_eq]
      omega

/-- In a ring with room, an octet goes behind the last one. -/
theorem push (h : Represents rb queue) (hroom : queue.length < rb.capacity) :
    Represents (advancePointer { rb with buffer := Function.update rb.buffer rb.head octet })
      (queue ++ [octet]) := by
  have hpos : 0 < rb.capacity := by omega
  have htail := h.tail_lt hpos
  have hnot : rb.full = false := by
    rw [← Bool.not_eq_true, h.full]
    omega
  have hhead : (rb.head + 1) % rb.capacity = (rb.tail + (queue.length + 1)) % rb.capacity := by
    rw [h.head, Nat.mod_add_mod, Nat.add_assoc]
  have hfull : (rb.head + 1) % rb.capacity = rb.tail ↔ queue.length + 1 = rb.capacity := by
    rw [hhead]
    constructor
    · intro hsame
      by_contra hne
      have hapart := @cell_ne rb.capacity rb.tail 0 (queue.length + 1) (by omega) (by omega)
      rw [Nat.add_zero, Nat.mod_eq_of_lt htail] at hapart
      exact hapart hsame.symm
    · intro hlast
      rw [hlast, Nat.add_mod_right, Nat.mod_eq_of_lt htail]
  simp only [advancePointer, hnot, Bool.false_eq_true, if_false]
  refine ⟨?_, fun _ => htail, ?_, ?_, ?_⟩
  · show (queue ++ [octet]).length ≤ rb.capacity
    rw [List.length_append, List.length_singleton]
    exact hroom
  · show (rb.head + 1) % rb.capacity = (rb.tail + (queue ++ [octet]).length) % rb.capacity
    rw [hhead, List.length_append, List.length_singleton]
  · show ((rb.head + 1) % rb.capacity == rb.tail) = true ↔ _
    rw [beq_iff_eq, hfull, List.length_append, List.length_singleton]
    exact (and_iff_right hpos).symm
  · show Holds (Function.update rb.buffer rb.head octet) rb.capacity rb.tail (queue ++ [octet])
    rw [h.head]
    exact h.holds.append hroom

/-- In a full ring, an octet takes the place of the oldest one. -/
theorem overwrite {first : UInt8} (h : Represents rb (first :: rest))
    (hlast : rest.length + 1 = rb.capacity) :
    Represents (advancePointer { rb with buffer := Function.update rb.buffer rb.head octet })
      (rest ++ [octet]) := by
  have hpos : 0 < rb.capacity := by omega
  have htail := h.tail_lt hpos
  have hyes : rb.full = true := h.full.mpr ⟨hpos, hlast⟩
  have hhead : rb.head = rb.tail := by
    rw [h.head, List.length_cons, hlast, Nat.add_mod_right, Nat.mod_eq_of_lt htail]
  have hcell : rb.head = ((rb.tail + 1) % rb.capacity + rest.length) % rb.capacity := by
    rw [hhead, Nat.mod_add_mod, Nat.add_assoc, Nat.add_comm 1, hlast, Nat.add_mod_right,
      Nat.mod_eq_of_lt htail]
  have hround : ∀ place, place < rb.capacity →
      place = (place + (rest ++ [octet]).length) % rb.capacity := by
    intro place hplace
    rw [List.length_append, List.length_singleton, hlast, Nat.add_mod_right,
      Nat.mod_eq_of_lt hplace]
  simp only [advancePointer, hyes, if_true]
  refine ⟨?_, fun _ => Nat.mod_lt _ hpos, ?_, ?_, ?_⟩
  · show (rest ++ [octet]).length ≤ rb.capacity
    rw [List.length_append, List.length_singleton]
    exact hlast.le
  · show (rb.head + 1) % rb.capacity =
      ((rb.tail + 1) % rb.capacity + (rest ++ [octet]).length) % rb.capacity
    rw [hhead]
    exact hround _ (Nat.mod_lt _ hpos)
  · show ((rb.head + 1) % rb.capacity == (rb.tail + 1) % rb.capacity) = true ↔ _
    rw [hhead, List.length_append, List.length_singleton]
    exact iff_of_true (beq_self_eq_true _) ⟨hpos, hlast⟩
  · show Holds (Function.update rb.buffer rb.head octet) rb.capacity _ (rest ++ [octet])
    rw [hcell]
    exact h.holds.tail.append (by omega)

/-- One round of the loop of `ringbuf_write`. -/
theorem writeOctet (h : Represents rb queue) (hpos : 0 < rb.capacity) :
    Represents (advancePointer { rb with buffer := Function.update rb.buffer rb.head octet })
      (keep rb.capacity (queue ++ [octet])) := by
  have hlength := h.length_le
  by_cases hroom : queue.length < rb.capacity
  · have hfits : (queue ++ [octet]).length ≤ rb.capacity := by
      rw [List.length_append, List.length_singleton]
      exact hroom
    rw [keep_of_le hfits]
    exact h.push hroom
  · cases queue with
    | nil => exact absurd hpos hroom
    | cons first rest =>
        rw [List.length_cons] at hlength hroom
        have hdropped : keep rb.capacity (first :: rest ++ [octet]) = rest ++ [octet] := by
          have hone : (first :: rest ++ [octet]).length - rb.capacity = 1 := by
            rw [List.length_append, List.length_cons, List.length_singleton]
            omega
          rw [keep, hone]
          rfl
        rw [hdropped]
        exact h.overwrite (by omega)

theorem capacity_advancePointer (rb : Ringbuf) : (advancePointer rb).capacity = rb.capacity := rfl

/-- `ringbuf_write` appends what it is given and drops from the front. -/
theorem write (h : Represents rb queue) (data : Bytes) :
    (ringbufWrite rb data).1 = (if rb.capacity = 0 then 0 else data.length) ∧
      (ringbufWrite rb data).2.capacity = rb.capacity ∧
      Represents (ringbufWrite rb data).2 (keep rb.capacity (queue ++ data)) := by
  induction data generalizing rb queue with
  | nil =>
      rw [List.append_nil, keep_of_le h.length_le]
      exact ⟨by simp [ringbufWrite], rfl, h⟩
  | cons octet rest ih =>
      rw [ringbufWrite]
      by_cases hpos : 0 < rb.capacity
      · have hnext := ih (@writeOctet rb queue octet h hpos)
        rw [capacity_advancePointer, keep_keep_append, List.append_assoc] at hnext
        obtain ⟨hcount, hcapacity, hrepresents⟩ := hnext
        rw [if_pos hpos, if_neg (by omega)]
        rw [if_neg (by dsimp only; omega)] at hcount
        exact ⟨congrArg (· + 1) hcount, hcapacity, hrepresents⟩
      · have hzero : rb.capacity = 0 := by omega
        have hlength := h.length_le
        have hqueue : queue = [] := List.length_eq_zero_iff.mp (by omega)
        rw [if_neg hpos, if_pos hzero]
        refine ⟨rfl, rfl, ?_⟩
        have hnone : keep rb.capacity (queue ++ octet :: rest) = queue := by
          rw [hqueue, hzero]
          exact List.length_eq_zero_iff.mp (Nat.le_zero.mp length_keep_le)
        rw [hnone]
        exact h

/-- One round of the loop of `ringbuf_read`. -/
theorem readOctet {first : UInt8} (h : Represents rb (first :: rest)) :
    rb.buffer rb.tail = first ∧ Represents (retreatPointer rb) rest := by
  have hlength := h.length_le
  rw [List.length_cons] at hlength
  have hpos : 0 < rb.capacity := by omega
  have htail := h.tail_lt hpos
  refine ⟨?_, Nat.le_of_succ_le hlength, fun _ => Nat.mod_lt _ hpos, ?_, ?_, h.holds.tail⟩
  · have hfirst := h.holds 0 (Nat.zero_lt_succ _)
    rwa [Nat.add_zero, Nat.mod_eq_of_lt htail] at hfirst
  · show rb.head = ((rb.tail + 1) % rb.capacity + rest.length) % rb.capacity
    rw [h.head, List.length_cons, Nat.mod_add_mod, Nat.add_assoc, Nat.add_comm 1]
  · show false = true ↔ 0 < rb.capacity ∧ rest.length = rb.capacity
    refine iff_of_false Bool.false_ne_true ?_
    omega

/-- `ringbuf_read` takes from the front. -/
theorem read (h : Represents rb queue) (len : Nat) :
    (ringbufRead rb len).1 = queue.take len ∧
      (ringbufRead rb len).2.capacity = rb.capacity ∧
      Represents (ringbufRead rb len).2 (queue.drop len) := by
  induction len generalizing rb queue with
  | zero => exact ⟨rfl, rfl, h⟩
  | succ len ih =>
      rw [ringbufRead]
      cases queue with
      | nil =>
          rw [if_pos (h.isEmpty.mpr rfl)]
          exact ⟨rfl, rfl, h⟩
      | cons first rest =>
          rw [if_neg (by rw [h.isEmpty]; exact List.cons_ne_nil _ _)]
          obtain ⟨hfirst, hrest⟩ := h.readOctet
          obtain ⟨hread, hcapacity, hafter⟩ := ih hrest
          refine ⟨?_, hcapacity, hafter⟩
          show rb.buffer rb.tail :: (ringbufRead (retreatPointer rb) len).1 = _
          rw [hfirst, hread]
          rfl

theorem reset (rb : Ringbuf) : Represents (ringbufReset rb) [] where
  length_le := Nat.zero_le _
  tail_lt hpos := hpos
  head := (Nat.zero_mod _).symm
  full := by
    refine iff_of_false Bool.false_ne_true ?_
    show ¬ (0 < rb.capacity ∧ 0 = rb.capacity)
    omega
  holds _ h := absurd h (Nat.not_lt_zero _)

end Represents

/-- Every call on the ring follows the call on the queue. -/
theorem ringbufStep_follows {rb : Ringbuf} {queue : Bytes} {capacity : Nat}
    (h : rb.capacity = capacity ∧ Represents rb queue) (call : RingbufCall) :
    ((ringbufStep rb call).1.capacity = capacity ∧
      Represents (ringbufStep rb call).1 (queueStep capacity queue call).1) ∧
    (ringbufStep rb call).2 = (queueStep capacity queue call).2 := by
  obtain ⟨rfl, hrb⟩ := h
  cases call with
  | write data =>
      obtain ⟨hcount, hcapacity, hafter⟩ := hrb.write data
      refine ⟨⟨hcapacity, hafter⟩, ?_⟩
      show [RingbufReturn.written (ringbufWrite rb data).1] = _
      rw [hcount]
      rfl
  | read len =>
      obtain ⟨hread, hcapacity, hafter⟩ := hrb.read len
      refine ⟨⟨hcapacity, hafter⟩, ?_⟩
      show [RingbufReturn.octets (ringbufRead rb len).1] = _
      rw [hread]
      rfl
  | reset => exact ⟨⟨rfl, Represents.reset rb⟩, rfl⟩

/-- In every run the ring returns what the queue returns, holds its octets, and tells its length,
whether it is empty and whether it is full. -/
theorem ringbuf_refines (buffer : Nat → UInt8) (capacity : Nat) (calls : List RingbufCall) :
    let ring := Machine.run ringbufStep (ringbufInit buffer capacity) calls
    let queue := Machine.run (queueStep capacity) [] calls
    ring.2 = queue.2 ∧ Represents ring.1 queue.1 ∧
      ringbufSize ring.1 = queue.1.length ∧ queue.1.length ≤ capacity ∧
      (ringbufIsEmpty ring.1 = true ↔ queue.1.length = 0) ∧
      (ringbufIsFull ring.1 = true ↔ 0 < capacity ∧ queue.1.length = capacity) := by
  intro ring queue
  obtain ⟨⟨hcapacity, hrepresents⟩, hreturns⟩ := @Machine.run_simulates _ _ _ ringbufStep
    (ringbufInit buffer capacity) calls _ (queueStep capacity)
    (fun rb queue => rb.capacity = capacity ∧ Represents rb queue)
    (fun _ _ call h => ringbufStep_follows h call) []
    ⟨rfl, Represents.reset (ringbufInit buffer capacity)⟩
  have hlength := hrepresents.length_le
  have hfull := hrepresents.full
  rw [hcapacity] at hlength hfull
  exact ⟨hreturns, hrepresents, hrepresents.size, hlength,
    hrepresents.isEmpty.trans List.length_eq_zero_iff.symm, hfull⟩

end SensorHmi
