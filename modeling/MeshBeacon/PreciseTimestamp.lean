import Mathlib.Data.List.Range
import Mathlib.Data.Nat.Find
import Mathlib.Logic.Function.Basic
import Mathlib.Tactic.Common
import Mathlib.Tactic.Linarith

/-!
# The reference of a fine timestamp

The counter of the concentrator is trapped by the pulse of every second, and the last
sixteen values are kept in a ring. The fine timestamp of a packet counts from the last
pulse before it, and is corrected by the interval between that pulse and one next to
it.

Which pulse that is, the code finds out from the distances, which it compares with
32000000 ticks exactly, while the interval varies with the crystal. A distance that
is longer than that, within an interval that is, is not recognised; and when the interval is
shorter, the pulse before is also near enough, and it is found first unless
the ring wraps between the two.

The arithmetic of floating point is a parameter: what the frequency error adds to the
offset, whether the correction is sane, and the fine timestamp itself.
-/

namespace PreciseTimestamp

/-! ## The history -/

/-- `MAX_TIMESTAMP_PPS_HISTORY`. -/
def maxTimestampPpsHistory : ℕ := 16

/-- `struct timestamp_pps_history_s`: the slots, the one written last, and how many have been
written. -/
structure PpsHistory where
  history : ℕ → UInt32
  idx : ℕ
  size : ℕ
  idx_lt : idx < maxTimestampPpsHistory

namespace PpsHistory

/-- The slot after another. -/
def nextSlot (i : ℕ) : ℕ := if i = maxTimestampPpsHistory - 1 then 0 else i + 1

/-- The slot before another. -/
def prevSlot (i : ℕ) : ℕ := if i = 0 then maxTimestampPpsHistory - 1 else i - 1

theorem nextSlot_lt {i : ℕ} (h : i < maxTimestampPpsHistory) :
    nextSlot i < maxTimestampPpsHistory := by
  unfold nextSlot maxTimestampPpsHistory at *
  split_ifs <;> omega

/-- The slot a value is written into: the first where the index is, any other into the
next one. -/
def saveSlot (h : PpsHistory) : ℕ := if 0 < h.size then nextSlot h.idx else h.idx

theorem saveSlot_lt (h : PpsHistory) : h.saveSlot < maxTimestampPpsHistory := by
  unfold saveSlot
  split_ifs
  · exact nextSlot_lt h.idx_lt
  · exact h.idx_lt

/-- `timestamp_pps_history_save`. -/
def save (h : PpsHistory) (timestampPpsReg : UInt32) : PpsHistory :=
  if timestampPpsReg ≠ h.history h.idx ∨ h.size = 0 then
    { history := Function.update h.history h.saveSlot timestampPpsReg
      idx := h.saveSlot
      size := if h.size < maxTimestampPpsHistory then h.size + 1 else h.size
      idx_lt := h.saveSlot_lt }
  else h

end PpsHistory

/-! ## The calculation -/

/-- **What is calculated in floating point**: the offset with the frequency error of the
packet, whether the correction by an interval is out of range, and the fine timestamp, by
the distance from the reference, the sum and the number of the metrics, the
intermediate frequency and the interval. -/
structure FineArith where
  withFreqError : UInt32 → UInt32
  xtalInvalid : UInt32 → Bool
  pktFtime : UInt32 → ℤ → ℕ → ℤ → UInt32 → UInt32

/-- What a call comes to: what it returns, the pulse it has taken as reference, the interval
it corrects by, and what it has stored. -/
structure FineTime where
  code : ℤ
  reference : Option UInt32
  interval : Option UInt32
  stored : Option UInt32

/-- `offset_preamble_hdr`, before the frequency error. -/
def offsetPreambleHdr (sf : ℕ) : UInt32 :=
  UInt32.ofInt (256 * 2 ^ sf * (8 + 4 + if sf = 5 ∨ sf = 6 then 2 else 0) + 256 * (2 ^ sf / 4 - 1))

/-- The packet's timestamp, shifted to the end of the preamble. -/
def timestampCntEndOfPreamble (arith : FineArith) (timestampCnt : UInt32) (sf : ℕ) : UInt32 :=
  timestampCnt - arith.withFreqError (offsetPreambleHdr sf) + 2138

/-- `ts_metrics_nb_clipped`. -/
def tsMetricsNbClipped (sf tsMetricsNb : ℕ) : ℕ :=
  if sf = 12 then min 4 tsMetricsNb
  else if sf = 11 then min 8 tsMetricsNb
  else if sf = 10 then min 16 tsMetricsNb
  else min 32 tsMetricsNb

/-- `ftime_sum`: the sum of the sums of the metrics so far. -/
def ftimeSum (tsMetrics : List Int8) : ℤ := (tsMetrics.map Int8.toInt).scanl (· + ·) 0 |>.sum

/-- The packet of a call. -/
structure FinePacket where
  tsMetricsNb : ℕ
  tsMetrics : List Int8
  timestampCnt : UInt32
  sf : ℕ
  ifFreqHz : ℤ

/-- The search of the history for a pulse that is near enough, slot by slot. -/
def searchHistory (h : PpsHistory) (timestampCnt : UInt32) : Option ℕ :=
  (List.range h.size).find? fun i => (timestampCnt - h.history i).toNat < 32000000

/-- From the reference and the interval to the fine timestamp. -/
def finish (arith : FineArith) (packet : FinePacket) (timestampCnt timestampPps diffPps : UInt32) :
    FineTime :=
  if arith.xtalInvalid diffPps then ⟨-1, some timestampPps, some diffPps, none⟩
  else
    let clipped := tsMetricsNbClipped packet.sf packet.tsMetricsNb
    -- the first metric is summed even if none is to be
    let sum := ftimeSum (packet.tsMetrics.take (max 1 (2 * clipped)))
    let resultFtime := arith.pktFtime (timestampCnt - timestampPps) sum (2 * clipped)
      packet.ifFreqHz diffPps
    ⟨if 1000000000 < resultFtime.toNat then -1 else 0, some timestampPps, some diffPps,
      some resultFtime⟩

/-- `precise_timestamp_calculate`, with what the read of the register gives: the pulse's
counter, or none when it fails. -/
def preciseTimestampCalculate (arith : FineArith) (h : PpsHistory) (timestampPpsReg : Option UInt32)
    (packet : FinePacket) : FineTime × PpsHistory :=
  if h.size < maxTimestampPpsHistory then (⟨-1, none, none, none⟩, h)
  else
    let timestampCnt := timestampCntEndOfPreamble arith packet.timestampCnt packet.sf
    match timestampPpsReg with
    -- success is returned for a failed read
    | none => (⟨0, none, none, none⟩, h)
    | some reg =>
      let h := h.save reg
      if 32000000 < (timestampCnt - reg).toNat then
        match searchHistory h timestampCnt with
        | none => (⟨-1, none, none, none⟩, h)
        | some i =>
          let diffPps := h.history (PpsHistory.nextSlot i) - h.history i
          (finish arith packet timestampCnt (h.history i) diffPps, h)
      else
        let diffPps := h.history h.idx - h.history (PpsHistory.prevSlot h.idx)
        (finish arith packet timestampCnt reg diffPps, h)

/-! ## Regular histories -/

/-- The slot of the value that is so many places after the oldest one. -/
def slotOf (idx k : ℕ) : ℕ := (idx + 1 + k) % maxTimestampPpsHistory

/-- **A regular history**: the values are counters at times that are 32000000 ticks apart,
up to twenty parts in a million, from the oldest to the last one. -/
structure Regular (h : PpsHistory) (u : ℕ → ℕ) : Prop where
  full : h.size = maxTimestampPpsHistory
  value : ∀ k < maxTimestampPpsHistory, h.history (slotOf h.idx k) = UInt32.ofNat (u k)
  spacing : ∀ k < 15, u k + 31999360 ≤ u (k + 1) ∧ u (k + 1) ≤ u k + 32000640

/-- **The time of a packet**: not before the oldest pulse, and less than one interval, however
long, after the last. -/
structure PacketTime (u : ℕ → ℕ) (t : ℕ) : Prop where
  oldest : u 0 ≤ t
  last : t < u 15 + 32000640

/-- The pulse is the latest not after a time. -/
def Latest (u : ℕ → ℕ) (t j : ℕ) : Prop := j ≤ 15 ∧ u j ≤ t ∧ ∀ k ≤ 15, u k ≤ t → k ≤ j

/-- **The call is right**: the reference is the latest pulse not after the time, the interval
is one between that pulse and one next to it, and success is returned for a fine timestamp
only. -/
structure FineRight (u : ℕ → ℕ) (t : ℕ) (out : FineTime) : Prop where
  reference : ∃ j, Latest u t j ∧ out.reference = some (UInt32.ofNat (u j))
    ∧ ∃ k < 15, (k = j ∨ k + 1 = j) ∧ out.interval = some (UInt32.ofNat (u (k + 1) - u k))
  success : out.code = 0 → out.stored.isSome

/-- **The pulse is found**: the packet is near enough to it, and not near enough to the one
before, unless that one comes later in the ring or is not in it. -/
def Found (idx : ℕ) (u : ℕ → ℕ) (t : ℕ) : Prop :=
  ∀ j, Latest u t j →
    if j = 15 then t - u j ≤ 32000000
    else t - u j < 32000000
      ∧ (slotOf idx j = 0 ∨ j = 0 ∨ 32000000 ≤ t - u (j - 1))

/-! ## Slots and places -/

theorem slotOf_lt (idx k : ℕ) : slotOf idx k < maxTimestampPpsHistory :=
  Nat.mod_lt _ (by decide)

/-- The last value is in the slot of the index. -/
theorem slotOf_last {idx : ℕ} (h : idx < maxTimestampPpsHistory) : slotOf idx 15 = idx := by
  unfold slotOf maxTimestampPpsHistory at *
  omega

theorem nextSlot_slotOf (idx k : ℕ) : PpsHistory.nextSlot (slotOf idx k) = slotOf idx (k + 1) := by
  unfold PpsHistory.nextSlot slotOf maxTimestampPpsHistory
  split_ifs <;> omega

theorem prevSlot_idx {idx : ℕ} (h : idx < maxTimestampPpsHistory) :
    PpsHistory.prevSlot idx = slotOf idx 14 := by
  unfold PpsHistory.prevSlot slotOf maxTimestampPpsHistory at *
  split_ifs <;> omega

theorem exists_slotOf (idx : ℕ) {i : ℕ} (h : i < maxTimestampPpsHistory) :
    ∃ k < maxTimestampPpsHistory, slotOf idx k = i := by
  refine ⟨(i + 15 * (idx + 1)) % maxTimestampPpsHistory, Nat.mod_lt _ (by decide), ?_⟩
  unfold slotOf maxTimestampPpsHistory at *
  omega

/-- The slot of a value is after that of the one before, unless it is the first slot. -/
theorem slotOf_lt_slotOf_succ {idx k : ℕ} :
    slotOf idx k < slotOf idx (k + 1) ↔ slotOf idx (k + 1) ≠ 0 := by
  unfold slotOf maxTimestampPpsHistory
  omega

theorem slotOf_injective {idx j k : ℕ} (hj : j < maxTimestampPpsHistory)
    (hk : k < maxTimestampPpsHistory) (h : slotOf idx j = slotOf idx k) : j = k := by
  unfold slotOf maxTimestampPpsHistory at *
  omega

/-! ## Distances -/

section Times

variable {h : PpsHistory} {u : ℕ → ℕ} {t : ℕ}

theorem toNat_sub_of_le {a b : ℕ} (hle : a ≤ b) (hlt : b - a < 2 ^ 32) :
    (UInt32.ofNat b - UInt32.ofNat a).toNat = b - a := by
  rw [UInt32.toNat_sub, UInt32.toNat_ofNat', UInt32.toNat_ofNat']
  omega

theorem lt_toNat_sub_of_lt {a b : ℕ} (hlt : b < a) (hnear : a - b < 2 ^ 31) :
    2 ^ 31 < (UInt32.ofNat b - UInt32.ofNat a).toNat := by
  rw [UInt32.toNat_sub, UInt32.toNat_ofNat', UInt32.toNat_ofNat']
  omega

/-- The pulses are as far apart as so many intervals. -/
theorem Regular.apart (hreg : Regular h u) {i n : ℕ} (hn : i + n ≤ 15) :
    u i + n * 31999360 ≤ u (i + n) ∧ u (i + n) ≤ u i + n * 32000640 := by
  induction n with
  | zero => simp
  | succ n ih =>
    obtain ⟨hlow, hhigh⟩ := ih (by omega)
    obtain ⟨hlow', hhigh'⟩ := hreg.spacing (i + n) (by omega)
    rw [← Nat.add_assoc]
    omega

theorem Regular.apart_of_le (hreg : Regular h u) {i k : ℕ} (hik : i ≤ k) (hk : k ≤ 15) :
    u i + (k - i) * 31999360 ≤ u k ∧ u k ≤ u i + (k - i) * 32000640 := by
  have h := hreg.apart (i := i) (n := k - i) (by omega)
  rwa [Nat.add_sub_cancel' hik] at h

theorem exists_latest (ht : u 0 ≤ t) : ∃ j, Latest u t j := by
  refine ⟨Nat.findGreatest (u · ≤ t) 15, Nat.findGreatest_le 15,
    Nat.findGreatest_spec (P := (u · ≤ t)) (Nat.zero_le 15) ht, ?_⟩
  intro k hk hkt
  exact Nat.le_findGreatest hk hkt

theorem Latest.unique {j k : ℕ} (hj : Latest u t j) (hk : Latest u t k) : j = k :=
  Nat.le_antisymm (hk.2.2 j hj.1 hj.2.1) (hj.2.2 k hk.1 hk.2.1)

/-- The packet is less than an interval after the latest pulse. -/
theorem Latest.lt (hreg : Regular h u) (ht : PacketTime u t) {j : ℕ} (hj : Latest u t j) :
    t < u j + 32000640 := by
  obtain ⟨hj15, -, hlast⟩ := hj
  rcases Nat.eq_or_lt_of_le hj15 with rfl | hlt
  · exact ht.last
  · have hnext : ¬ u (j + 1) ≤ t := fun hle => by
      have := hlast (j + 1) hlt hle
      omega
    have := hreg.spacing j hlt
    omega

/-- **What is near enough**: the latest pulse or the one before it. -/
theorem near_iff (hreg : Regular h u) (ht : PacketTime u t) {j k : ℕ} (hj : Latest u t j)
    (hk : k ≤ 15) :
    (UInt32.ofNat t - UInt32.ofNat (u k)).toNat < 32000000
      ↔ (k = j ∨ k + 1 = j) ∧ t < u k + 32000000 := by
  have hnear := hj.lt hreg ht
  obtain ⟨hj15, hjt, hlast⟩ := hj
  rcases Nat.lt_or_ge j k with hjk | hkj
  · -- a later pulse is after the time
    have hlate : t < u k := by
      by_contra hle
      have := hlast k hk (by omega)
      omega
    have hapart := hreg.apart_of_le hjk.le hk
    have hfar := lt_toNat_sub_of_lt hlate (by omega)
    omega
  · have hapart := hreg.apart_of_le hkj hj15
    rw [toNat_sub_of_le (by omega) (by omega)]
    omega

/-! ## The search -/

/-- What the search gives: the first slot that is near enough. -/
theorem searchHistory_eq_some {timestampCnt : UInt32} {i : ℕ} :
    searchHistory h timestampCnt = some i
      ↔ i < h.size ∧ (timestampCnt - h.history i).toNat < 32000000
        ∧ ∀ j < i, ¬ (timestampCnt - h.history j).toNat < 32000000 := by
  simp only [searchHistory, List.find?_range_eq_some, decide_eq_true_eq, Bool.not_eq_true',
    decide_eq_false_iff_not, List.mem_range]
  tauto

/-- Of a slot by its place, whether it is near enough. -/
theorem near_slotOf_iff (hreg : Regular h u) (ht : PacketTime u t) {j k : ℕ} (hj : Latest u t j)
    (hk : k ≤ 15) :
    (UInt32.ofNat t - h.history (slotOf h.idx k)).toNat < 32000000
      ↔ (k = j ∨ k + 1 = j) ∧ t < u k + 32000000 := by
  rw [hreg.value k (Nat.lt_succ_of_le hk)]
  exact near_iff hreg ht hj hk

/-- **When the search finds the latest pulse**: it is near enough, and the one before is not, or
comes later in the ring. -/
theorem searchHistory_latest_iff (hreg : Regular h u) (ht : PacketTime u t) {j : ℕ}
    (hj : Latest u t j) :
    searchHistory h (UInt32.ofNat t) = some (slotOf h.idx j)
      ↔ t - u j < 32000000 ∧ (slotOf h.idx j = 0 ∨ j = 0 ∨ 32000000 ≤ t - u (j - 1)) := by
  obtain ⟨hj15, hjt, -⟩ := id hj
  rw [searchHistory_eq_some, near_slotOf_iff hreg ht hj hj15, hreg.full]
  constructor
  · rintro ⟨-, ⟨-, hnear⟩, hfirst⟩
    refine ⟨by omega, ?_⟩
    rcases j with _ | j
    · exact .inr (.inl rfl)
    · -- the slot of the one before is earlier, so it is not near enough
      by_cases hslot : slotOf h.idx (j + 1) = 0
      · exact .inl hslot
      · have hbefore := hfirst _ (slotOf_lt_slotOf_succ.mpr hslot)
        rw [near_slotOf_iff hreg ht hj (by omega)] at hbefore
        have := hreg.spacing j (by omega)
        refine .inr (.inr ?_)
        rw [Nat.add_sub_cancel]
        omega
  · rintro ⟨hnear, hbefore⟩
    refine ⟨slotOf_lt _ _, ⟨.inl rfl, by omega⟩, fun i hi hi' => ?_⟩
    obtain ⟨k, hk, rfl⟩ := exists_slotOf h.idx (hi.trans (slotOf_lt _ _))
    rw [near_slotOf_iff hreg ht hj (Nat.le_of_lt_succ hk)] at hi'
    obtain ⟨rfl | rfl, hlt⟩ := hi'
    · exact absurd hi (lt_irrefl _)
    · have := slotOf_lt_slotOf_succ.mp hi
      have hle := hreg.spacing k (by omega)
      rw [Nat.add_sub_cancel] at hbefore
      omega

/-! ## The call -/

@[simp]
theorem finish_reference (arith : FineArith) (packet : FinePacket) (cnt pps diff : UInt32) :
    (finish arith packet cnt pps diff).reference = some pps := by
  unfold finish
  split_ifs <;> rfl

@[simp]
theorem finish_interval (arith : FineArith) (packet : FinePacket) (cnt pps diff : UInt32) :
    (finish arith packet cnt pps diff).interval = some diff := by
  unfold finish
  split_ifs <;> rfl

/-- Success is returned with a fine timestamp only, once there is a reference. -/
theorem finish_success (arith : FineArith) (packet : FinePacket) (cnt pps diff : UInt32)
    (hcode : (finish arith packet cnt pps diff).code = 0) :
    (finish arith packet cnt pps diff).stored.isSome := by
  unfold finish at *
  split_ifs at * with hinvalid
  · cases hcode
  · rfl

/-- Different pulses have different counters. -/
theorem Regular.ofNat_ne (hreg : Regular h u) {j k : ℕ} (hjk : j < k) (hk : k ≤ 15) :
    UInt32.ofNat (u j) ≠ UInt32.ofNat (u k) := by
  intro heq
  have hapart := hreg.apart_of_le hjk.le hk
  have hdistance := toNat_sub_of_le (a := u j) (b := u k) (by omega) (by omega)
  rw [heq, UInt32.sub_self, UInt32.toNat_zero] at hdistance
  omega

theorem Regular.ofNat_inj (hreg : Regular h u) {j k : ℕ} (hj : j ≤ 15) (hk : k ≤ 15)
    (heq : UInt32.ofNat (u j) = UInt32.ofNat (u k)) : j = k := by
  rcases Nat.lt_trichotomy j k with hjk | rfl | hkj
  · exact absurd heq (hreg.ofNat_ne hjk hk)
  · rfl
  · exact absurd heq.symm (hreg.ofNat_ne hkj hj)

/-- The slot that is written next is that of the oldest value. -/
theorem nextSlot_idx {idx : ℕ} (h : idx < maxTimestampPpsHistory) :
    PpsHistory.nextSlot idx = slotOf idx 0 := by
  unfold PpsHistory.nextSlot slotOf maxTimestampPpsHistory at *
  split_ifs <;> omega

/-- When a value was written, all others are one place older. -/
theorem slotOf_slotOf_zero (idx k : ℕ) : slotOf (slotOf idx 0) k = slotOf idx (k + 1) := by
  unfold slotOf maxTimestampPpsHistory
  omega

/-- **A history stays regular** when the pulse after the last is saved. -/
theorem Regular.save {v : ℕ → ℕ} {n : ℕ} (hreg : Regular h fun k => v (n + k))
    (hspacing : v (n + 15) + 31999360 ≤ v (n + 16) ∧ v (n + 16) ≤ v (n + 15) + 32000640) :
    Regular (h.save (UInt32.ofNat (v (n + 16)))) fun k => v (n + 1 + k) := by
  have hlast : h.history h.idx = UInt32.ofNat (v (n + 15)) := by
    rw [← slotOf_last h.idx_lt]
    exact hreg.value 15 (by decide)
  have hnew : UInt32.ofNat (v (n + 16)) ≠ h.history h.idx := by
    intro heq
    have hdistance := toNat_sub_of_le (a := v (n + 15)) (b := v (n + 16)) (by omega) (by omega)
    rw [heq, hlast, UInt32.sub_self, UInt32.toNat_zero] at hdistance
    omega
  have hslot : h.saveSlot = slotOf h.idx 0 := by
    unfold PpsHistory.saveSlot
    rw [hreg.full, if_pos (by decide), nextSlot_idx h.idx_lt]
  unfold PpsHistory.save
  rw [if_pos (Or.inl hnew)]
  refine ⟨?_, fun k hk => ?_, fun k hk => ?_⟩
  · dsimp only
    rw [hreg.full, if_neg (lt_irrefl _)]
  · change Function.update h.history h.saveSlot _ (slotOf h.saveSlot k) = _
    rw [hslot, slotOf_slotOf_zero]
    obtain rfl | hk15 : k = 15 ∨ k < 15 := by
      unfold maxTimestampPpsHistory at hk
      omega
    · -- the slot of the new value is that of the oldest one before
      rw [show slotOf h.idx (15 + 1) = slotOf h.idx 0 by
        unfold slotOf maxTimestampPpsHistory; omega, Function.update_self]
    · have hne : slotOf h.idx (k + 1) ≠ slotOf h.idx 0 := fun heq =>
        Nat.succ_ne_zero k (slotOf_injective (Nat.succ_lt_succ hk15) (by decide) heq)
      rw [Function.update_of_ne hne, hreg.value (k + 1) (Nat.succ_lt_succ hk15), Nat.add_assoc n,
        Nat.add_comm 1 k]
  · obtain hk14 | rfl : k < 14 ∨ k = 14 := by omega
    · have := hreg.spacing (k + 1) (by omega)
      rwa [show n + (k + 1) = n + 1 + k by omega, show n + (k + 1 + 1) = n + 1 + (k + 1) by omega]
        at this
    · exact hspacing

/-- **Runs of pulses keep a history regular**: it holds the last sixteen of them. -/
theorem Regular.run {v : ℕ → ℕ} (hreg : Regular h v)
    (hspacing : ∀ n, v n + 31999360 ≤ v (n + 1) ∧ v (n + 1) ≤ v n + 32000640) (n : ℕ) :
    Regular (((List.range n).map fun k => UInt32.ofNat (v (k + 16))).foldl PpsHistory.save h)
      fun k => v (n + k) := by
  induction n with
  | zero => simpa using hreg
  | succ n ih =>
    rw [List.range_succ, List.map_append, List.foldl_append]
    exact ih.save (hspacing (n + 15))

theorem Regular.interval (hreg : Regular h u) {k : ℕ} (hk : k < 15) :
    h.history (slotOf h.idx (k + 1)) - h.history (slotOf h.idx k)
      = UInt32.ofNat (u (k + 1) - u k) := by
  have hspacing := hreg.spacing k hk
  rw [hreg.value k (hk.trans (by decide)), hreg.value (k + 1) (Nat.succ_lt_succ hk)]
  apply UInt32.toNat_inj.mp
  rw [toNat_sub_of_le (by omega) (by omega), UInt32.toNat_ofNat', Nat.mod_eq_of_lt (by omega)]

theorem Regular.lastInterval (hreg : Regular h u) :
    h.history h.idx - h.history (PpsHistory.prevSlot h.idx) = UInt32.ofNat (u 15 - u 14) := by
  have hinterval := hreg.interval (k := 14) (by omega)
  rwa [slotOf_last h.idx_lt, ← prevSlot_idx h.idx_lt] at hinterval

/-- A call that has found the latest pulse, and corrects by an interval next to it, is right. -/
theorem fineRight_finish (arith : FineArith) (packet : FinePacket) (cnt : UInt32) {j k : ℕ}
    (hj : Latest u t j) (hk : k < 15) (hnext : k = j ∨ k + 1 = j) :
    FineRight u t (finish arith packet cnt (UInt32.ofNat (u j))
      (UInt32.ofNat (u (k + 1) - u k))) where
  reference := ⟨j, hj, finish_reference .., k, hk, hnext, finish_interval ..⟩
  success := finish_success arith packet cnt _ _

/-- What the history is when the pulse is looked for. -/
def PpsHistory.upToDate (h : PpsHistory) (timestampPpsReg : Option UInt32) : PpsHistory :=
  timestampPpsReg.elim h h.save

theorem PpsHistory.save_history_idx (h : PpsHistory) (reg : UInt32) :
    (h.save reg).history (h.save reg).idx = reg := by
  unfold PpsHistory.save
  by_cases hnew : reg ≠ h.history h.idx ∨ h.size = 0
  · rw [if_pos hnew]
    exact Function.update_self ..
  · rw [if_neg hnew]
    exact (not_ne_iff.mp (not_or.mp hnew).1).symm

/-- The call for a full history, once the register is read. -/
theorem preciseTimestampCalculate_some (arith : FineArith) (h : PpsHistory) (reg : UInt32)
    (packet : FinePacket) (hfull : h.size = maxTimestampPpsHistory)
    (hcnt : timestampCntEndOfPreamble arith packet.timestampCnt packet.sf = UInt32.ofNat t) :
    (preciseTimestampCalculate arith h (some reg) packet).1 =
      if 32000000 < (UInt32.ofNat t - reg).toNat then
        match searchHistory (h.save reg) (UInt32.ofNat t) with
        | none => ⟨-1, none, none, none⟩
        | some i => finish arith packet (UInt32.ofNat t) ((h.save reg).history i)
            ((h.save reg).history (PpsHistory.nextSlot i) - (h.save reg).history i)
      else finish arith packet (UInt32.ofNat t) reg
        ((h.save reg).history (h.save reg).idx
          - (h.save reg).history (PpsHistory.prevSlot (h.save reg).idx)) := by
  unfold preciseTimestampCalculate
  rw [if_neg (by omega), hcnt]
  dsimp only
  split_ifs
  · split <;> simp_all only
  · rfl

/-- The value that was read is the counter of the last pulse. -/
theorem Regular.reg_eq {reg : UInt32} (hreg : Regular (h.save reg) u) :
    reg = UInt32.ofNat (u 15) := by
  rw [← hreg.value 15 (by decide), slotOf_last (h.save reg).idx_lt, PpsHistory.save_history_idx]

/-- In the last interval the reference is what was read, and it is found up to 32000000 ticks
after it. -/
theorem right_iff_of_last (arith : FineArith) (packet : FinePacket) (reg : UInt32)
    (hfull : h.size = maxTimestampPpsHistory) (hreg : Regular (h.save reg) u)
    (ht : PacketTime u t) (hj : Latest u t 15)
    (hcnt : timestampCntEndOfPreamble arith packet.timestampCnt packet.sf = UInt32.ofNat t) :
    FineRight u t (preciseTimestampCalculate arith h (some reg) packet).1
      ↔ t - u 15 ≤ 32000000 := by
  have hnear := hj.lt hreg ht
  have hdistance : (UInt32.ofNat t - reg).toNat = t - u 15 := by
    rw [hreg.reg_eq]
    exact toNat_sub_of_le hj.2.1 (by omega)
  rw [preciseTimestampCalculate_some arith h reg packet hfull hcnt, hdistance]
  by_cases hfar : 32000000 < t - u 15
  · -- no pulse is near enough, and the call fails
    have hnone : searchHistory (h.save reg) (UInt32.ofNat t) = none := by
      rw [Option.eq_none_iff_forall_ne_some]
      intro i hi
      obtain ⟨hlt, hi, -⟩ := searchHistory_eq_some.mp hi
      rw [hreg.full] at hlt
      obtain ⟨k, hk, rfl⟩ := exists_slotOf (h.save reg).idx hlt
      obtain ⟨-, hlt⟩ := (near_slotOf_iff hreg ht hj (Nat.le_of_lt_succ hk)).mp hi
      have := hreg.apart_of_le (Nat.le_of_lt_succ hk) le_rfl
      omega
    rw [if_pos hfar, hnone]
    refine iff_of_false (fun hright => ?_) (by omega)
    obtain ⟨_, _, hreference, _⟩ := hright.reference
    cases hreference
  · have hright := fineRight_finish arith packet (UInt32.ofNat t) hj (k := 14) (by omega) (.inr rfl)
    rw [if_neg hfar, hreg.lastInterval, hreg.reg_eq]
    exact iff_of_true hright (by omega)

/-- Before the last interval the reference is what the search finds. -/
theorem right_iff_of_past (arith : FineArith) (packet : FinePacket) (reg : UInt32)
    (hfull : h.size = maxTimestampPpsHistory) (hreg : Regular (h.save reg) u) {j : ℕ}
    (hj : Latest u t j) (hj15 : j < 15)
    (hcnt : timestampCntEndOfPreamble arith packet.timestampCnt packet.sf = UInt32.ofNat t) :
    FineRight u t (preciseTimestampCalculate arith h (some reg) packet).1
      ↔ searchHistory (h.save reg) (UInt32.ofNat t) = some (slotOf (h.save reg).idx j) := by
  have hlate : t < u 15 := by
    by_contra hle
    have := hj.2.2 15 le_rfl (by omega)
    omega
  have hfar : 32000000 < (UInt32.ofNat t - reg).toNat := by
    have hapart := hreg.apart_of_le hj.1 le_rfl
    have hjt := hj.2.1
    have := lt_toNat_sub_of_lt hlate (by omega)
    rw [hreg.reg_eq]
    omega
  rw [preciseTimestampCalculate_some arith h reg packet hfull hcnt, if_pos hfar]
  cases hsearch : searchHistory (h.save reg) (UInt32.ofNat t) with
  | none =>
    refine iff_of_false (fun hright => ?_) (by simp)
    obtain ⟨_, _, hreference, _⟩ := hright.reference
    cases hreference
  | some i =>
    obtain ⟨hlt, hnear, -⟩ := searchHistory_eq_some.mp hsearch
    rw [hreg.full] at hlt
    obtain ⟨k, hk, rfl⟩ := exists_slotOf (h.save reg).idx hlt
    have hk15 : k ≤ 15 := Nat.le_of_lt_succ hk
    rw [Option.some_inj]
    constructor
    · intro hright
      -- the reference is the latest pulse, so the slot is its slot
      obtain ⟨j', hj', hreference, -⟩ := hright.reference
      obtain rfl := hj.unique hj'
      rw [finish_reference, Option.some_inj, hreg.value k hk] at hreference
      rw [hreg.ofNat_inj hk15 hj.1 hreference]
    · intro hslot
      obtain rfl := slotOf_injective hk (Nat.lt_succ_of_le hj.1) hslot
      dsimp only
      rw [nextSlot_slotOf, hreg.interval hj15, hreg.value k hk]
      exact fineRight_finish arith packet _ hj hj15 (.inl rfl)

/-- **When the call is right**: the register is read, and the pulse is found. -/
theorem preciseTimestampCalculate_right_iff (arith : FineArith) (h : PpsHistory)
    (timestampPpsReg : Option UInt32) (packet : FinePacket) (u : ℕ → ℕ) (t : ℕ)
    (hfull : h.size = maxTimestampPpsHistory) (hreg : Regular (h.upToDate timestampPpsReg) u)
    (ht : PacketTime u t)
    (hcnt : timestampCntEndOfPreamble arith packet.timestampCnt packet.sf = UInt32.ofNat t) :
    FineRight u t (preciseTimestampCalculate arith h timestampPpsReg packet).1
      ↔ timestampPpsReg.isSome ∧ Found (h.upToDate timestampPpsReg).idx u t := by
  obtain ⟨j, hj⟩ := exists_latest ht.oldest
  cases timestampPpsReg with
  | none =>
    -- a register that cannot be read leaves no reference
    refine iff_of_false (fun hright => ?_) (fun hsome => by cases hsome.1)
    obtain ⟨_, _, hreference, -⟩ := hright.reference
    rw [preciseTimestampCalculate, if_neg (by omega)] at hreference
    cases hreference
  | some reg =>
    change Regular (h.save reg) u at hreg
    change _ ↔ _ ∧ Found (h.save reg).idx u t
    -- only the latest pulse before the packet matters
    have hfound : Found (h.save reg).idx u t ↔ if j = 15 then t - u j ≤ 32000000
        else t - u j < 32000000 ∧ (slotOf (h.save reg).idx j = 0 ∨ j = 0
          ∨ 32000000 ≤ t - u (j - 1)) :=
      ⟨fun hall => hall j hj, fun hone j' hj' => hj'.unique hj ▸ hone⟩
    rw [hfound, Option.isSome_some, eq_self_iff_true, true_and]
    by_cases hlast : j = 15
    · subst hlast
      rw [if_pos rfl]
      exact right_iff_of_last arith packet reg hfull hreg ht hj hcnt
    · rw [if_neg hlast, ← searchHistory_latest_iff hreg ht hj]
      exact right_iff_of_past arith packet reg hfull hreg hj (Nat.lt_of_le_of_ne hj.1 hlast) hcnt

end Times

/-! ### Pulses of one interval -/

/-- Pulses that are as far apart as an interval. -/
def pulse (interval k : ℕ) : ℕ := 1000 + k * interval

/-- Their history, with the last one in the last slot. -/
def pulseHistory (interval : ℕ) : PpsHistory where
  history i := UInt32.ofNat (pulse interval i)
  idx := 15
  size := maxTimestampPpsHistory
  idx_lt := by decide

theorem regular_pulseHistory (interval : ℕ) (hlow : 31999360 ≤ interval)
    (hhigh : interval ≤ 32000640) : Regular (pulseHistory interval) (pulse interval) where
  full := rfl
  value k hk := by
    have hslot : slotOf 15 k = k := by
      unfold slotOf maxTimestampPpsHistory at *
      omega
    change UInt32.ofNat (pulse interval (slotOf 15 k)) = _
    rw [hslot]
  spacing k _ := by
    unfold pulse
    constructor <;> linarith

/-- The last pulse is in the history already. -/
theorem save_pulseHistory (interval : ℕ) :
    (pulseHistory interval).save (UInt32.ofNat (pulse interval 15)) = pulseHistory interval := by
  unfold PpsHistory.save
  exact if_neg (by simp [pulseHistory, maxTimestampPpsHistory])

/-- The arithmetic without rounding, of a packet without a frequency error whose frequency
is away from the notch. -/
def exactArith : FineArith where
  withFreqError offset := offset
  xtalInvalid diffPps := diffPps.toNat < 26666667 ∨ 40000000 < diffPps.toNat
  pktFtime distance sum n _ diffPps :=
    UInt32.ofInt ((distance.toNat * n + sum) * 1000000000 / (n * diffPps.toNat))

/-- A packet of SF7 whose preamble ends at a time. -/
def packetAt (t : ℕ) : FinePacket where
  tsMetricsNb := 8
  tsMetrics := List.replicate 16 0
  timestampCnt := UInt32.ofNat (t + 399014)
  sf := 7
  ifFreqHz := 200000

theorem preciseTimestampCalculate_right_iff_pulse :
    FineRight (pulse 32000000) 224006000
      (preciseTimestampCalculate exactArith (pulseHistory 32000000)
        (some (UInt32.ofNat (pulse 32000000 15))) (packetAt 224006000)).1 := by
  have hreg := regular_pulseHistory 32000000 (by decide) (by decide)
  have hlatest : Latest (pulse 32000000) 224006000 7 := by
    refine ⟨by decide, by decide, fun k _ hk => ?_⟩
    unfold pulse at hk
    omega
  rw [← save_pulseHistory] at hreg
  refine (preciseTimestampCalculate_right_iff exactArith (pulseHistory 32000000)
    (some (UInt32.ofNat (pulse 32000000 15))) (packetAt 224006000) _ _ rfl hreg
    ⟨by decide, by decide⟩ (by decide +kernel)).mpr ⟨rfl, fun j hj => ?_⟩
  obtain rfl := hj.unique hlatest
  exact ⟨by decide, .inr (.inr (by decide))⟩

/-- A failed read is a success without a fine timestamp; and when the interval is 31999360
ticks, a packet 100 ticks after a pulse is given the pulse before that. -/
theorem failedRead_succeeds :
    (∃ t, Regular (pulseHistory 32000000) (pulse 32000000) ∧ PacketTime (pulse 32000000) t
      ∧ timestampCntEndOfPreamble exactArith (packetAt t).timestampCnt (packetAt t).sf
        = UInt32.ofNat t
      ∧ let out := (preciseTimestampCalculate exactArith (pulseHistory 32000000) none
          (packetAt t)).1
        out.code = 0 ∧ out.stored = none ∧ ¬ FineRight (pulse 32000000) t out)
    ∧ ∃ t, Regular (pulseHistory 31999360) (pulse 31999360) ∧ PacketTime (pulse 31999360) t
      ∧ timestampCntEndOfPreamble exactArith (packetAt t).timestampCnt (packetAt t).sf
        = UInt32.ofNat t
      ∧ Latest (pulse 31999360) t 7
      ∧ let out := (preciseTimestampCalculate exactArith (pulseHistory 31999360)
          (some (UInt32.ofNat (pulse 31999360 15))) (packetAt t)).1
        out.reference = some (UInt32.ofNat (pulse 31999360 6)) := by
  refine ⟨⟨224006000, regular_pulseHistory 32000000 (by decide) (by decide), ⟨by decide, by decide⟩,
    by decide +kernel, by decide +kernel, by decide +kernel, fun hright => ?_⟩,
    ⟨223996620, regular_pulseHistory 31999360 (by decide) (by decide), ⟨by decide, by decide⟩,
      by decide +kernel, ⟨by decide, by decide, fun k _ hk => ?_⟩, by decide +kernel⟩⟩
  · exact absurd (hright.success (by decide +kernel)) (by decide +kernel)
  · unfold pulse at hk
    omega

end PreciseTimestamp
