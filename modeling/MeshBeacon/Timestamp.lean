import MeshBeacon.Run
import Mathlib.Data.List.Chain
import Mathlib.Data.Nat.Bitwise
import Mathlib.Tactic.Common

/-!
# Unwrapping the concentrator's counter

The concentrator counts microseconds on 27 bits, the host on 32. The host
keeps the last value read and, modulo 32, how often the counter was seen to
wrap, and puts that count above a value to expand it. A packet's timestamp may
be older than the last value read, and is expanded with the count before the
last wrap when it is the larger of the two.

What the two fields mean is one sentence about the true time `T` of the last
reading (`TimestampInfo.Tracks`): the reference is the lower 27 bits of `T` and
the wrap count the next five. Both expansions are read off it.
-/

/-- `struct timestamp_info_s`. -/
structure TimestampInfo where
  /-- Reference value, the last one read. -/
  counterUs27bitsRef : UInt32
  /-- Rollover status, modulo 32. -/
  counterUs27bitsWrap : UInt8
deriving DecidableEq

/-- `struct timestamp_counter_s`. -/
structure TimestampCounter where
  /-- Reference of the instantaneous counter. -/
  inst : TimestampInfo
  /-- Reference of the counter trapped by the pulse per second. -/
  pps : TimestampInfo
deriving DecidableEq

/-- `timestamp_counter_new`. -/
def timestampCounterNew : TimestampCounter := ⟨⟨0, 0⟩, ⟨0, 0⟩⟩

/-- What `timestamp_counter_update` does to one of the two counters. -/
def TimestampInfo.update (self : TimestampInfo) (cnt : UInt32) : TimestampInfo where
  counterUs27bitsRef := cnt
  counterUs27bitsWrap :=
    if cnt < self.counterUs27bitsRef then (self.counterUs27bitsWrap + 1) % 32
    else self.counterUs27bitsWrap

/-- `timestamp_counter_update`. -/
def timestampCounterUpdate (self : TimestampCounter) (pps inst : UInt32) : TimestampCounter where
  inst := self.inst.update inst
  pps := self.pps.update pps

/-- `timestamp_counter_expand`. -/
def timestampCounterExpand (self : TimestampCounter) (pps : Bool) (cntUs : UInt32) : UInt32 :=
  let tinfo := if pps then self.pps else self.inst
  (tinfo.counterUs27bitsWrap.toUInt32 <<< 27) ||| cntUs

/-- `timestamp_pkt_expand`. -/
def timestampPktExpand (self : TimestampCounter) (pktCntUs : UInt32) : UInt32 :=
  let tinfo := self.inst
  let wrapStatus := tinfo.counterUs27bitsWrap
    - (if pktCntUs ≤ tinfo.counterUs27bitsRef then 0 else 1)
  ((wrapStatus &&& 0x1F).toUInt32 <<< 27) ||| pktCntUs

/-! ## Expanding a value -/

/-- The reading of a 27-bit microsecond counter at a time. -/
def reading27 (t : ℕ) : UInt32 := UInt32.ofNat (t % 2 ^ 27)

@[simp] theorem toNat_reading27 (t : ℕ) : (reading27 t).toNat = t % 2 ^ 27 := by
  unfold reading27
  rw [UInt32.toNat_ofNat']
  omega

/-- **The count above the counter.** A count below 32 put above the reading of
a time gives the time, when the count is that of the turns before it. -/
theorem shiftLeft_or_reading27 {w : UInt8} {t : ℕ} (h : w.toNat = t / 2 ^ 27 % 32) :
    (w.toUInt32 <<< 27) ||| reading27 t = UInt32.ofNat t := by
  have hlow : t % 2 ^ 27 < 2 ^ 27 := Nat.mod_lt _ (by decide)
  have hshift : w.toNat <<< 27 % 2 ^ 32 = w.toNat <<< 27 := by
    rw [Nat.shiftLeft_eq]
    omega
  rw [← UInt32.toNat_inj, UInt32.toNat_or, UInt32.toNat_shiftLeft, toNat_reading27,
    UInt32.toNat_ofNat', UInt8.toNat_toUInt32]
  show w.toNat <<< 27 % 2 ^ 32 ||| t % 2 ^ 27 = t % 2 ^ 32
  rw [hshift, ← Nat.shiftLeft_add_eq_or_of_lt hlow, Nat.shiftLeft_eq, h]
  omega

/-- **What a counter's two fields mean**, at the true time of the last
reading. -/
structure TimestampInfo.Tracks (info : TimestampInfo) (t : ℕ) : Prop where
  /-- The reference is the reading. -/
  ref_eq : info.counterUs27bitsRef = reading27 t
  /-- The wrap count is the number of turns, modulo 32. -/
  wrap_eq : info.counterUs27bitsWrap.toNat = t / 2 ^ 27 % 32

namespace TimestampInfo.Tracks

variable {self : TimestampInfo} {t : ℕ}

/-- **A reading less than a turn later is tracked.** The counter reads less
than before exactly when it has wrapped in between. -/
theorem update (h : self.Tracks t) {t' : ℕ} (hle : t ≤ t') (hlt : t' < t + 2 ^ 27) :
    (self.update (reading27 t')).Tracks t' where
  ref_eq := rfl
  wrap_eq := by
    have hwrap := h.wrap_eq
    show (if reading27 t' < self.counterUs27bitsRef then (self.counterUs27bitsWrap + 1) % 32
      else self.counterUs27bitsWrap).toNat = _
    have hiff : reading27 t' < self.counterUs27bitsRef ↔ t' % 2 ^ 27 < t % 2 ^ 27 := by
      rw [UInt32.lt_iff_toNat_lt, h.ref_eq, toNat_reading27, toNat_reading27]
    by_cases hwrapped : t' % 2 ^ 27 < t % 2 ^ 27
    · rw [if_pos (hiff.mpr hwrapped), UInt8.toNat_mod, UInt8.toNat_add]
      show (self.counterUs27bitsWrap.toNat + 1) % 2 ^ 8 % 32 = _
      omega
    · rw [if_neg (fun hc => hwrapped (hiff.mp hc))]
      omega

/-- The count a packet of the last turn is expanded with is that of its own
time. -/
theorem toNat_wrapStatus (h : self.Tracks t) {tp : ℕ} (hle : tp ≤ t) (hlt : t < tp + 2 ^ 27) :
    ((self.counterUs27bitsWrap - (if reading27 tp ≤ self.counterUs27bitsRef then 0 else 1))
      &&& 0x1F).toNat = tp / 2 ^ 27 % 32 := by
  have hwrap := h.wrap_eq
  have hbyte := self.counterUs27bitsWrap.toNat_lt
  rw [UInt8.toNat_and]
  show _ &&& (2 ^ 5 - 1) = _
  rw [Nat.and_two_pow_sub_one_eq_mod]
  have hiff : reading27 tp ≤ self.counterUs27bitsRef ↔ tp % 2 ^ 27 ≤ t % 2 ^ 27 := by
    rw [UInt32.le_iff_toNat_le, h.ref_eq, toNat_reading27, toNat_reading27]
  by_cases hsame : tp % 2 ^ 27 ≤ t % 2 ^ 27
  · rw [if_pos (hiff.mpr hsame), UInt8.sub_zero]
    omega
  · rw [if_neg (fun hc => hsame (hiff.mp hc)), UInt8.toNat_sub]
    show (2 ^ 8 - 1 + self.counterUs27bitsWrap.toNat) % 2 ^ 8 % 2 ^ 5 = _
    omega

end TimestampInfo.Tracks

/-! ## Sequences of readings -/

/-- A reading of the two counters: the time, and what the counter of the pulse
per second holds. -/
structure TimestampReading where
  /-- The true time in microseconds. -/
  time : ℕ
  /-- The value of the other counter, whatever it is. -/
  pps : UInt32

/-- A reading is fed to the counter. -/
def TimestampCounter.feed (self : TimestampCounter) (r : TimestampReading) : TimestampCounter :=
  timestampCounterUpdate self r.pps (reading27 r.time)

/-- **Readings that follow each other closely**: the first one before the first
wrap, and each later one less than a turn after the one before. -/
def Paced (rs : List TimestampReading) : Prop :=
  (0 :: rs.map TimestampReading.time).IsChain (fun t t' => t ≤ t' ∧ t' < t + 2 ^ 27)

/-- Readings fed to a counter that tracks the time before them leave one that
tracks the last of them. -/
theorem tracks_of_paced (self : TimestampCounter) (t : ℕ) (h : self.inst.Tracks t)
    (rs : List TimestampReading) (r : TimestampReading)
    (hrs : (t :: (rs ++ [r]).map TimestampReading.time).IsChain
      (fun t t' => t ≤ t' ∧ t' < t + 2 ^ 27)) :
    (Run.final TimestampCounter.feed self (rs ++ [r])).inst.Tracks r.time := by
  induction rs generalizing self t with
  | nil =>
    have hr := List.isChain_cons_cons.mp hrs
    exact h.update hr.1.1 hr.1.2
  | cons s rs ih =>
    have hs := List.isChain_cons_cons.mp hrs
    exact ih (self.feed s) s.time (h.update hs.1.1 hs.1.2) hs.2

/-- **Expansion is exact.** After every reading of a paced sequence the
expansion of the value read is the time modulo `2 ^ 32`, and so is that of the
timestamp of any packet less than one turn of the counter older. -/
theorem timestamp_expand_of_paced (readings : List TimestampReading) (hp : Paced readings)
    (before after : List TimestampReading) (r : TimestampReading)
    (heq : readings = before ++ r :: after) :
    let self := Run.final TimestampCounter.feed timestampCounterNew (before ++ [r])
    timestampCounterExpand self false (reading27 r.time) = UInt32.ofNat r.time
      ∧ ∀ tp, tp ≤ r.time → r.time < tp + 2 ^ 27 →
        timestampPktExpand self (reading27 tp) = UInt32.ofNat tp := by
  have hprefix : (0 :: (before ++ [r]).map TimestampReading.time).IsChain
      (fun t t' => t ≤ t' ∧ t' < t + 2 ^ 27) := by
    have hsplit : (0 :: readings.map TimestampReading.time)
        = (0 :: (before ++ [r]).map TimestampReading.time)
          ++ after.map TimestampReading.time := by
      rw [heq, List.append_cons, List.map_append, List.cons_append]
    rw [Paced, hsplit] at hp
    exact hp.left_of_append
  have htracks := tracks_of_paced timestampCounterNew 0 ⟨rfl, rfl⟩ before r hprefix
  intro self
  refine ⟨shiftLeft_or_reading27 htracks.wrap_eq, fun tp hle hlt => ?_⟩
  exact shiftLeft_or_reading27 (htracks.toNat_wrapStatus hle hlt)

/-- Three readings across two wraps, and a packet from before the second. -/
theorem timestamp_expand_of_paced_wraps :
    let self := Run.final TimestampCounter.feed timestampCounterNew
      ([⟨100000000, 7⟩, ⟨200000000, 3⟩] ++ [⟨300000000, 9⟩])
    timestampCounterExpand self false (reading27 300000000) = UInt32.ofNat 300000000
      ∧ ∀ tp, tp ≤ 300000000 → 300000000 < tp + 2 ^ 27 →
        timestampPktExpand self (reading27 tp) = UInt32.ofNat tp :=
  timestamp_expand_of_paced [⟨100000000, 7⟩, ⟨200000000, 3⟩, ⟨300000000, 9⟩]
    (by unfold Paced; decide) [⟨100000000, 7⟩, ⟨200000000, 3⟩] [] ⟨300000000, 9⟩ rfl
