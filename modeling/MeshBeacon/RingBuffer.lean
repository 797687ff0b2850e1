import Mathlib.Algebra.GroupWithZero.Nat
import Mathlib.Algebra.Order.Group.Nat
import Mathlib.Data.Fin.Basic
import Mathlib.Data.List.Basic
import Mathlib.Logic.Function.Basic
import Mathlib.Algebra.Group.Fin.Basic

/-!
# Ring buffers

An array used as a queue: elements are written at its head and taken at its
tail, and both places walk around the array. The number of elements is kept
beside them, so a full ring and an empty one, whose head and tail agree, are
told apart.

The operations below are the single assignments such code is made of – write a
slot, move the head, move the tail – because between two of them the code may
return early. What they do is said of the queue they stand for,
`RingBuffer.live`: the slots from the tail on, as many as are counted.
-/

/-- An array of `n` slots used as a queue. -/
structure RingBuffer (n : ℕ) (α : Type*) where
  slots : Fin n → α
  /-- The next slot to write. -/
  head : Fin n
  /-- The slot of the oldest element. -/
  tail : Fin n
  count : ℕ

namespace RingBuffer

variable {n : ℕ} [NeZero n] {α : Type*}

/-- The ring invariant: no more elements than slots, and the head is as many
slots past the tail as there are elements. -/
structure Wf (r : RingBuffer n α) : Prop where
  count_le : r.count ≤ n
  head_eq : r.head = r.tail + Fin.ofNat n r.count

/-- The slot `i` places past the tail. -/
def slotAt (r : RingBuffer n α) (i : ℕ) : Fin n := r.tail + Fin.ofNat n i

/-- The elements, oldest first. -/
def live (r : RingBuffer n α) : List α :=
  (List.range r.count).map fun i => r.slots (r.slotAt i)

@[simp] theorem length_live (r : RingBuffer n α) : r.live.length = r.count := by
  rw [live, List.length_map, List.length_range]

/-- The empty ring, its slots holding `x`. -/
def empty (n : ℕ) [NeZero n] (x : α) : RingBuffer n α := ⟨fun _ => x, 0, 0, 0⟩

theorem wf_empty (x : α) : (empty n x).Wf where
  count_le := Nat.zero_le n
  head_eq := by
    show (0 : Fin n) = 0 + Fin.ofNat n 0
    rw [zero_add]
    rfl

/-! ## Single assignments -/

/-- Write the slot at the head. -/
def setHead (r : RingBuffer n α) (x : α) : RingBuffer n α :=
  { r with slots := Function.update r.slots r.head x }

/-- Write the slot at the tail. -/
def setTail (r : RingBuffer n α) (x : α) : RingBuffer n α :=
  { r with slots := Function.update r.slots r.tail x }

/-- Move the head: the slot it leaves counts. -/
def advanceHead (r : RingBuffer n α) : RingBuffer n α :=
  { r with head := r.head + 1, count := r.count + 1 }

/-- Move the tail: the slot it leaves counts no longer. -/
def advanceTail (r : RingBuffer n α) : RingBuffer n α :=
  { r with tail := r.tail + 1, count := r.count - 1 }

@[simp] theorem count_advanceTail (r : RingBuffer n α) : r.advanceTail.count = r.count - 1 := rfl

/-- The place after the tail is the next place. -/
theorem ofNat_succ (i : ℕ) : Fin.ofNat n (i + 1) = 1 + Fin.ofNat n i := by
  ext
  rw [Fin.val_add, Fin.val_one', Fin.val_ofNat, Fin.val_ofNat, ← Nat.add_mod, add_comm]

/-- Two places less than a round apart are different slots. -/
theorem slotAt_injOn (r : RingBuffer n α) {i j : ℕ} (hi : i < n) (hj : j < n)
    (h : r.slotAt i = r.slotAt j) : i = j := by
  have hval := congrArg Fin.val (add_left_cancel h)
  rwa [Fin.val_ofNat, Fin.val_ofNat, Nat.mod_eq_of_lt hi, Nat.mod_eq_of_lt hj] at hval

theorem Wf.head_eq_slotAt {r : RingBuffer n α} (h : r.Wf) : r.head = r.slotAt r.count := h.head_eq

/-- The oldest element is the one at the tail. -/
theorem live_eq_cons {r : RingBuffer n α} (h : 0 < r.count) :
    r.live = r.slots r.tail :: r.advanceTail.live := by
  obtain ⟨k, hk⟩ := Nat.exists_eq_succ_of_ne_zero (Nat.ne_of_gt h)
  have hzero : r.slotAt 0 = r.tail := by
    show r.tail + Fin.ofNat n 0 = r.tail
    exact add_zero r.tail
  have hnext : ∀ i, r.advanceTail.slotAt i = r.slotAt (i + 1) := by
    intro i
    show r.tail + 1 + Fin.ofNat n i = r.tail + Fin.ofNat n (i + 1)
    rw [ofNat_succ, add_assoc]
  unfold live
  rw [count_advanceTail, hk, Nat.succ_sub_one, List.range_succ_eq_map, List.map_cons, hzero,
    List.map_map]
  refine congrArg _ (List.map_congr_left fun i _ => ?_)
  rw [hnext]
  rfl

theorem Wf.advanceTail {r : RingBuffer n α} (h : r.Wf) (hpos : 0 < r.count) :
    r.advanceTail.Wf where
  count_le := (Nat.sub_le _ _).trans h.count_le
  head_eq := by
    obtain ⟨k, hk⟩ := Nat.exists_eq_succ_of_ne_zero (Nat.ne_of_gt hpos)
    show r.head = r.tail + 1 + Fin.ofNat n (r.count - 1)
    rw [h.head_eq, hk, Nat.succ_sub_one, Nat.succ_eq_add_one, ofNat_succ, add_assoc]

theorem Wf.setTail {r : RingBuffer n α} (h : r.Wf) (x : α) : (r.setTail x).Wf :=
  ⟨h.count_le, h.head_eq⟩

/-- Writing the slot of the oldest element leaves the others. -/
theorem live_advanceTail_setTail {r : RingBuffer n α} (h : r.Wf) (hpos : 0 < r.count) (x : α) :
    (r.setTail x).advanceTail.live = r.advanceTail.live := by
  refine List.map_congr_left fun i hi => ?_
  have hlt : i < r.count - 1 := List.mem_range.mp hi
  show Function.update r.slots r.tail x (r.tail + 1 + Fin.ofNat n i)
    = r.slots (r.tail + 1 + Fin.ofNat n i)
  refine Function.update_of_ne (fun heq => ?_) _ _
  rw [add_assoc, ← ofNat_succ] at heq
  have hslot : r.slotAt (i + 1) = r.slotAt 0 := heq.trans (add_zero r.tail).symm
  have hle := h.count_le
  exact absurd (r.slotAt_injOn (by omega) (by omega) hslot) (Nat.succ_ne_zero i)

/-- The slot at the head of a ring that is not full is none of the elements. -/
theorem live_setHead {r : RingBuffer n α} (h : r.Wf) (hlt : r.count < n) (x : α) :
    (r.setHead x).live = r.live := by
  refine List.map_congr_left fun i hi => ?_
  have hi : i < r.count := List.mem_range.mp hi
  refine Function.update_of_ne (fun heq => ?_) _ _
  rw [h.head_eq_slotAt] at heq
  exact absurd (r.slotAt_injOn (hi.trans hlt) hlt heq) (Nat.ne_of_lt hi)

theorem Wf.setHead {r : RingBuffer n α} (h : r.Wf) (x : α) : (r.setHead x).Wf :=
  ⟨h.count_le, h.head_eq⟩

/-- The slot the head leaves becomes the newest element. -/
theorem live_advanceHead {r : RingBuffer n α} (h : r.Wf) :
    r.advanceHead.live = r.live ++ [r.slots r.head] := by
  show (List.range (r.count + 1)).map (fun i => r.slots (r.slotAt i)) = _
  rw [List.range_succ, List.map_append, h.head_eq_slotAt]
  rfl

theorem Wf.advanceHead {r : RingBuffer n α} (h : r.Wf) (hlt : r.count < n) :
    r.advanceHead.Wf where
  count_le := hlt
  head_eq := by
    show r.head + 1 = r.tail + Fin.ofNat n (r.count + 1)
    rw [h.head_eq, ofNat_succ, add_assoc, add_comm 1]

/-! ## Putting an element in, and taking one out -/

/-- **Writing the slot at the head and moving on appends** to a ring that is not
full. -/
theorem live_push {r : RingBuffer n α} (h : r.Wf) (hlt : r.count < n) (x : α) :
    (r.setHead x).advanceHead.live = r.live ++ [x] := by
  rw [live_advanceHead (h.setHead x), live_setHead h hlt]
  show r.live ++ [Function.update r.slots r.head x r.head] = _
  rw [Function.update_self]

/-- **Writing the slot at the tail and moving on removes the oldest element.** -/
theorem live_drop {r : RingBuffer n α} (h : r.Wf) (hpos : 0 < r.count) (x : α) :
    r.live = r.slots r.tail :: (r.setTail x).advanceTail.live := by
  rw [live_advanceTail_setTail h hpos, ← live_eq_cons hpos]

end RingBuffer
