import MeshBeacon.PreciseTimestamp
import MeshBeacon.Run
import Mathlib.Data.List.Destutter

/-!
# What the history of pulses holds

A pulse is read many times before the next, and saved each time. The history takes a value only
if it is not the one it took last, so of all the values saved it keeps those that are left
when consecutive repeats are removed. They go around the ring one slot after the other; the last
sixteen of them are there, and next to each is the one that followed.

The first value is taken whatever it is, since the slot it is compared with has none yet.
-/

namespace PreciseTimestamp

/-! ## Lists without consecutive repeats -/

section Destutter

variable {α : Type*} [DecidableEq α]

theorem getLast?_destutter'_cons (a b : α) (l : List α) :
    (a :: l.destutter' (· ≠ ·) b).getLast? = (l.destutter' (· ≠ ·) b).getLast? := by
  rw [List.getLast?_cons]
  cases h : (l.destutter' (· ≠ ·) b).getLast? with
  | none => exact absurd (List.getLast?_eq_none_iff.mp h) (l.destutter'_ne_nil (· ≠ ·))
  | some c => rfl

theorem destutter'_append_singleton (a v : α) (l : List α) :
    (l ++ [v]).destutter' (· ≠ ·) a =
      if (l.destutter' (· ≠ ·) a).getLast? = some v then l.destutter' (· ≠ ·) a
      else l.destutter' (· ≠ ·) a ++ [v] := by
  induction l generalizing a with
  | nil =>
    rw [List.nil_append, List.destutter'_singleton, List.destutter'_nil, List.getLast?_singleton]
    by_cases hav : a = v
    · rw [if_neg (not_not.mpr hav), if_pos (congrArg some hav)]
    · rw [if_pos hav, if_neg fun h => hav (Option.some_inj.mp h)]
      rfl
  | cons b l ih =>
    by_cases hab : a ≠ b
    · rw [List.cons_append, List.destutter'_cons_pos _ hab, List.destutter'_cons_pos _ hab, ih b,
        getLast?_destutter'_cons]
      split_ifs <;> rfl
    · rw [List.cons_append, List.destutter'_cons_neg _ hab, List.destutter'_cons_neg _ hab, ih a]

/-- **One more value** is left out when it is that of the end. -/
theorem destutter_append_singleton (v : α) (l : List α) :
    (l ++ [v]).destutter (· ≠ ·) =
      if (l.destutter (· ≠ ·)).getLast? = some v then l.destutter (· ≠ ·)
      else l.destutter (· ≠ ·) ++ [v] := by
  cases l with
  | nil => rfl
  | cons a l => exact destutter'_append_singleton a v l

end Destutter

/-! ## The ring -/

namespace PpsHistory

/-- `timestamp_pps_history` as it is initialized. -/
def start : PpsHistory := ⟨fun _ => 0, 0, 0, by decide⟩

/-- The values, from the oldest to the newest. -/
def values (h : PpsHistory) : List UInt32 :=
  (List.range h.size).map fun k =>
    h.history ((h.idx + 1 + (maxTimestampPpsHistory - h.size) + k) % maxTimestampPpsHistory)

/-- **The history holds the last of some values**: each in the slot of its number, around the
ring, and the index is that of the last. -/
structure Holds (h : PpsHistory) (vs : List UInt32) : Prop where
  size : h.size = min maxTimestampPpsHistory vs.length
  idx : h.idx = (vs.length - 1) % maxTimestampPpsHistory
  value : ∀ m v, vs[m]? = some v → vs.length ≤ m + maxTimestampPpsHistory →
    h.history (m % maxTimestampPpsHistory) = v

theorem holds_start : start.Holds [] where
  size := rfl
  idx := rfl
  value _ v hv _ := absurd hv.symm (Option.some_ne_none v)

variable {h : PpsHistory} {vs : List UInt32}

/-- The slot of the index has the last value. -/
theorem Holds.getLast? (hh : h.Holds vs) (hne : vs ≠ []) :
    vs.getLast? = some (h.history h.idx) := by
  have hpos := List.length_pos_iff.mpr hne
  have hlast := List.getLast?_eq_some_getLast hne
  rw [hlast, hh.idx]
  refine congrArg some (hh.value (vs.length - 1) _ ?_ ?_).symm
  · rw [← hlast, List.getLast?_eq_getElem?]
  · unfold maxTimestampPpsHistory
    omega

/-- The slot that is written next has the number of values. -/
theorem Holds.saveSlot (hh : h.Holds vs) : h.saveSlot = vs.length % maxTimestampPpsHistory := by
  have hsize := hh.size
  have hidx := hh.idx
  unfold PpsHistory.saveSlot nextSlot
  unfold maxTimestampPpsHistory at *
  split_ifs <;> omega

/-- A value is stored when it is not the last. -/
theorem Holds.stores_iff (hh : h.Holds vs) (v : UInt32) :
    v ≠ h.history h.idx ∨ h.size = 0 ↔ vs.getLast? ≠ some v := by
  by_cases hne : vs = []
  · refine iff_of_true (.inr ?_) ?_
    · rw [hh.size, hne]
      rfl
    · rw [hne]
      exact (Option.some_ne_none v).symm
  · have hpos := List.length_pos_iff.mpr hne
    have hsize : h.size ≠ 0 := by
      rw [hh.size]
      unfold maxTimestampPpsHistory
      omega
    rw [or_iff_left hsize, hh.getLast? hne, ne_eq, ne_eq, Option.some_inj]
    exact not_congr eq_comm

/-- **A value that is stored** goes into the next slot. -/
theorem Holds.push (hh : h.Holds vs) {v : UInt32} (hv : v ≠ h.history h.idx ∨ h.size = 0) :
    (h.save v).Holds (vs ++ [v]) := by
  have hsize := hh.size
  rw [PpsHistory.save, if_pos hv]
  constructor
  · show (if h.size < maxTimestampPpsHistory then h.size + 1 else h.size) = _
    rw [List.length_append, List.length_singleton]
    unfold maxTimestampPpsHistory at *
    split_ifs <;> omega
  · show h.saveSlot = _
    rw [hh.saveSlot, List.length_append, List.length_singleton, Nat.add_sub_cancel]
  · intro m w hw hm
    show Function.update h.history h.saveSlot v (m % maxTimestampPpsHistory) = w
    rw [List.length_append, List.length_singleton] at hm
    rw [hh.saveSlot]
    rcases Nat.lt_or_ge m vs.length with hlt | hge
    · -- another slot, since it is less than a turn behind
      have hother : m % maxTimestampPpsHistory ≠ vs.length % maxTimestampPpsHistory := by
        unfold maxTimestampPpsHistory at *
        omega
      rw [List.getElem?_append_left hlt] at hw
      rw [Function.update_of_ne hother]
      exact hh.value m w hw (by omega)
    · rw [List.getElem?_append_right hge] at hw
      rw [List.getElem?_singleton] at hw
      split_ifs at hw with hsub
      have heq : m = vs.length := by omega
      rw [heq, Function.update_self]
      exact Option.some_inj.mp hw

/-- **One save**: a value that is not the last is stored. -/
theorem Holds.save (hh : h.Holds vs) (v : UInt32) :
    (h.save v).Holds (if vs.getLast? = some v then vs else vs ++ [v]) := by
  have hiff := hh.stores_iff v
  split_ifs with hlast
  · rw [PpsHistory.save, if_neg fun hstore => hiff.mp hstore hlast]
    exact hh
  · exact hh.push (hiff.mpr hlast)

/-- **All saves**: what is held are the values without consecutive repeats. -/
theorem holds_final (saves : List UInt32) :
    (Run.final PpsHistory.save start saves).Holds (saves.destutter (· ≠ ·)) := by
  induction saves using List.reverseRecOn with
  | nil => exact holds_start
  | append_singleton saves v ih =>
    rw [destutter_append_singleton, Run.final_append]
    exact ih.save v

/-- Read around the ring from the oldest on, the slots are the last values. -/
theorem Holds.values (hh : h.Holds vs) :
    h.values = vs.drop (vs.length - maxTimestampPpsHistory) := by
  have hsize := hh.size
  have hidx := hh.idx
  refine List.ext_getElem ?_ fun k hk hk' => ?_
  · rw [PpsHistory.values, List.length_map, List.length_range, List.length_drop]
    omega
  · rw [PpsHistory.values, List.length_map, List.length_range] at hk
    have hplace : vs.length - maxTimestampPpsHistory + k < vs.length := by omega
    have hslot : (h.idx + 1 + (maxTimestampPpsHistory - h.size) + k) % maxTimestampPpsHistory
        = (vs.length - maxTimestampPpsHistory + k) % maxTimestampPpsHistory := by
      unfold maxTimestampPpsHistory at *
      omega
    simp only [PpsHistory.values, List.getElem_map, List.getElem_range, List.getElem_drop, hslot]
    exact hh.value _ _ (List.getElem?_eq_getElem hplace) (by omega)

/-- **Next to each slot but the last is the value that followed.** -/
theorem Holds.next (hh : h.Holds vs) {i : ℕ} (hi : i < h.size) (hne : i ≠ h.idx) :
    ∃ m, vs.length ≤ m + maxTimestampPpsHistory ∧ vs[m]? = some (h.history i)
      ∧ vs[m + 1]? = some (h.history (nextSlot i)) := by
  have hsize := hh.size
  have hidx := hh.idx
  -- the number of the value: the last one that has this slot
  obtain ⟨m, hm, hlast, hslot⟩ : ∃ m, m + 1 < vs.length ∧ vs.length ≤ m + maxTimestampPpsHistory
      ∧ m % maxTimestampPpsHistory = i := by
    refine ⟨vs.length - 1 - (vs.length - 1 - i) % maxTimestampPpsHistory, ?_, ?_, ?_⟩ <;>
      unfold maxTimestampPpsHistory at * <;> omega
  have hnext : nextSlot i = (m + 1) % maxTimestampPpsHistory := by
    unfold nextSlot
    unfold maxTimestampPpsHistory at *
    split_ifs <;> omega
  have hfirst := List.getElem?_eq_getElem (show m < vs.length by omega)
  have hsecond := List.getElem?_eq_getElem hm
  refine ⟨m, hlast, ?_, ?_⟩
  · rw [← hslot, hh.value m _ hfirst hlast, hfirst]
  · rw [hnext, hh.value (m + 1) _ hsecond (by omega), hsecond]

/-- Before the last is the one that it followed. -/
theorem Holds.prev (hh : h.Holds vs) (hsize : 2 ≤ h.size) :
    vs[vs.length - 2]? = some (h.history (prevSlot h.idx)) := by
  have hlength := hh.size
  have hidx := hh.idx
  have hslot : prevSlot h.idx = (vs.length - 2) % maxTimestampPpsHistory := by
    unfold prevSlot
    unfold maxTimestampPpsHistory at *
    split_ifs <;> omega
  have hvalue := List.getElem?_eq_getElem (show vs.length - 2 < vs.length by omega)
  rw [hslot, hh.value _ _ hvalue (by unfold maxTimestampPpsHistory; omega), hvalue]

/-- **What the history holds after any saves**: of the values without consecutive repeats the
last sixteen, or all; the index is that of the newest, before it is the one it followed, and next
to each other is the one that followed. -/
theorem history_final (saves : List UInt32) :
    (Run.final PpsHistory.save start saves).size
        = min maxTimestampPpsHistory (saves.destutter (· ≠ ·)).length
      ∧ (Run.final PpsHistory.save start saves).values = (saves.destutter (· ≠ ·)).drop
          ((saves.destutter (· ≠ ·)).length - maxTimestampPpsHistory)
      ∧ (saves ≠ [] → (saves.destutter (· ≠ ·)).getLast? = some
          ((Run.final PpsHistory.save start saves).history
            (Run.final PpsHistory.save start saves).idx))
      ∧ (2 ≤ (Run.final PpsHistory.save start saves).size →
        (saves.destutter (· ≠ ·))[(saves.destutter (· ≠ ·)).length - 2]? = some
          ((Run.final PpsHistory.save start saves).history
            (prevSlot (Run.final PpsHistory.save start saves).idx)))
      ∧ ∀ i < (Run.final PpsHistory.save start saves).size,
        i ≠ (Run.final PpsHistory.save start saves).idx →
        ∃ m, (saves.destutter (· ≠ ·)).length ≤ m + maxTimestampPpsHistory
          ∧ (saves.destutter (· ≠ ·))[m]?
            = some ((Run.final PpsHistory.save start saves).history i)
          ∧ (saves.destutter (· ≠ ·))[m + 1]?
            = some ((Run.final PpsHistory.save start saves).history (nextSlot i)) := by
  have hh := holds_final saves
  refine ⟨hh.size, hh.values, fun hne => hh.getLast? ?_, hh.prev, fun i hi hidx => hh.next hi hidx⟩
  exact fun hnil => hne ((List.destutter_eq_nil _).mp hnil)

end PpsHistory

end PreciseTimestamp
