import MeshBeacon.JitCollision
import Mathlib.Data.Rat.Floor
import Mathlib.Tactic.FieldSimp
import Mathlib.Tactic.NormNum

/-!
# What goes on air, and the slot reserved for it

The queue reserves the time after a packet that the library estimates for it.
The packet that goes on air is the one `sx1302_send` programs the modem with,
and it is another one. A preamble of zero is replaced by the standard one and a
short one is lengthened; the estimate counts the field as it stands. The other
way round, the estimate turns the low data rate optimization on by the spreading
factor alone, and the modem only where a symbol lasts long enough.

The duration of an emission is the formula of the modem in rational numbers.
It is a whole number of microseconds, so that estimate and emission differ by
symbols added, symbols saved and the rounding to milliseconds.
-/

open Hal Jit

/-! ## The modem -/

/-- `MIN_LORA_PREAMBLE`. -/
def minLoraPreamble : UInt16 := 6
/-- `STD_LORA_PREAMBLE`. -/
def stdLoraPreamble : UInt16 := 8

/-- `SET_PPM_ON`. -/
def setPpmOn (bw : UInt8) (dr : UInt32) : Bool :=
  (bw = bw125khz && (dr = 11 || dr = 12)) || (bw = bw250khz && dr = 12)

/-- `lgw_bw_getval`, for the bandwidths the library sends at. -/
def lgwBwGetval (bw : UInt8) : ℕ :=
  if bw = bw500khz then 500000 else if bw = bw250khz then 250000 else 125000

/-- What the modem is programmed with for a LoRa packet. -/
structure LoraModem where
  bw : UInt8
  sf : ℕ
  cr : UInt8
  preambleSymbNb : UInt16
  implicitHeader : Bool
  crcEn : Bool
  payloadLength : UInt8
  /-- Low data rate optimization. -/
  ppmOffset : Bool

/-- The preamble `sx1302_send` puts into a LoRa packet. -/
def loraPreamble (preamble : UInt16) : UInt16 :=
  if preamble = 0 then stdLoraPreamble
  else if preamble < minLoraPreamble then minLoraPreamble
  else preamble

/-- `sx1302_send`, what it programs for a LoRa packet. The length is written to a
register of 8 bits. -/
def sx1302SendLora (packet : LgwPktTx) : LoraModem where
  bw := packet.bandwidth
  sf := packet.datarate.toNat
  cr := packet.coderate
  preambleSymbNb := loraPreamble packet.preamble
  implicitHeader := packet.noHeader
  crcEn := !packet.noCrc
  payloadLength := packet.size.toUInt8
  ppmOffset := setPpmOn packet.bandwidth packet.datarate

namespace LoraModem

variable (m : LoraModem)

/-- The duration of a symbol, in microseconds. -/
def symbolUs : ℚ := 2 ^ m.sf * 1000000 / lgwBwGetval m.bw

/-- The bits of the payload beyond the first block; there may be none. -/
def payloadBits : ℚ :=
  max (8 * m.payloadLength.toNat + (if m.crcEn then 16 else 0) + (if 7 ≤ m.sf then 8 else 0)
    + (if m.implicitHeader then 0 else 20) - 4 * m.sf) 0

/-- The number of symbols in the payload. -/
def payloadSymbols : ℕ :=
  ⌈m.payloadBits / (4 * (m.sf - 2 * (if m.ppmOffset then 1 else 0)))⌉₊ * (m.cr.toNat + 4)

/-- **The time on air**, in microseconds: the preamble, the synchronization, the
first block and the payload. -/
def timeOnAir : ℚ :=
  (m.preambleSymbNb.toNat + (if 7 ≤ m.sf then 17 / 4 else 25 / 4) + 8 + m.payloadSymbols)
    * m.symbolUs

end LoraModem

/-! ## The formula on natural numbers -/

/-- The number of symbols in a payload, with and without low data rate
optimization. -/
def symbolsOf (sf : ℕ) (de : Bool) (cr : UInt8) (noHeader noCrc : Bool) (size : UInt8) : ℕ :=
  let h := if noHeader then 0 else 1
  let nBitCrc := if noCrc then 0 else 16
  let bits := 8 * size.toNat + nBitCrc + (if 7 ≤ sf then 8 else 0) + 20 * h - 4 * sf
  let block := 4 * (sf - 2 * (if de then 1 else 0))
  (bits + block - 1) / block * (cr.toNat + 4)

/-- The estimate turns the optimization on from spreading factor 11. -/
theorem nSymbolPayload_eq (sf : ℕ) (cr : UInt8) (noHeader noCrc : Bool) (size : UInt8) :
    nSymbolPayload sf cr noHeader noCrc size
      = symbolsOf sf (decide (11 ≤ sf)) cr noHeader noCrc size := by
  unfold nSymbolPayload symbolsOf
  simp only [decide_eq_true_eq]

/-- A quotient rounded up, with a natural numerator and a natural divisor. -/
theorem ceil_natCast_div (bits : ℕ) {block : ℕ} (h : 0 < block) :
    ⌈(bits : ℚ) / block⌉₊ = (bits + block - 1) / block := by
  refine eq_of_forall_ge_iff fun n => ?_
  have hpos : (0 : ℚ) < block := Nat.cast_pos.mpr h
  rw [Nat.ceil_le, div_le_iff₀ hpos, ← Nat.cast_mul, Nat.cast_le]
  rw [Nat.div_le_iff_le_mul_add_pred h, Nat.mul_comm]
  omega

/-- A difference of natural numbers cut off at zero. -/
theorem max_natCast_sub (a b : ℕ) : max ((a : ℚ) - b) 0 = ((a - b : ℕ) : ℚ) := by
  rcases le_total b a with h | h
  · rw [Nat.cast_sub h]
    exact max_eq_left (sub_nonneg.mpr (Nat.cast_le.mpr h))
  · rw [Nat.sub_eq_zero_of_le h, Nat.cast_zero]
    exact max_eq_right (sub_nonpos.mpr (Nat.cast_le.mpr h))

/-- Without the optimization a block holds more, and no more symbols are needed. -/
theorem symbolsOf_false_le {sf : ℕ} (hsf : 5 ≤ sf) (de : Bool) (cr : UInt8)
    (noHeader noCrc : Bool) (size : UInt8) :
    symbolsOf sf false cr noHeader noCrc size ≤ symbolsOf sf de cr noHeader noCrc size := by
  cases de with
  | false => exact le_rfl
  | true =>
    unfold symbolsOf
    refine Nat.mul_le_mul_right _ ?_
    generalize 8 * size.toNat + (if noCrc then 0 else 16) + (if 7 ≤ sf then 8 else 0)
      + 20 * (if noHeader then 0 else 1) - 4 * sf = bits
    rw [if_neg Bool.false_ne_true, if_pos rfl]
    rw [← ceil_natCast_div bits (show 0 < 4 * (sf - 2 * 0) by omega),
      ← ceil_natCast_div bits (show 0 < 4 * (sf - 2 * 1) by omega)]
    refine Nat.ceil_le_ceil (div_le_div_of_nonneg_left (Nat.cast_nonneg bits) ?_ ?_)
    · exact Nat.cast_pos.mpr (by omega)
    · exact Nat.cast_le.mpr (by omega)

section Admitted

/-- **The packet is one the library sends as LoRa**: its bandwidth, spreading factor
and coding rate are among those admitted. -/
structure LgwPktTx.Admitted (packet : LgwPktTx) : Prop where
  modulation : packet.modulation = modLora
  bandwidth : isLoraBw packet.bandwidth
  datarate : isLoraDr packet.datarate.toNat
  coderate : isLoraCr packet.coderate

/-- A quarter of a symbol, in microseconds. -/
def quarterUs (packet : LgwPktTx) : ℕ := 2 ^ packet.datarate.toNat * 2 / bwPow packet.bandwidth

/-- The duration of the estimate, in quarters of a symbol. -/
def estimatedQuarters (packet : LgwPktTx) : ℕ :=
  4 * packet.preamble.toNat + (if 7 ≤ packet.datarate.toNat then 17 else 25) + 32
    + 4 * nSymbolPayload packet.datarate.toNat packet.coderate packet.noHeader packet.noCrc
        packet.size.toUInt8

/-- The duration of the emission, in quarters of a symbol. -/
def emittedQuarters (packet : LgwPktTx) : ℕ :=
  4 * (loraPreamble packet.preamble).toNat
    + (if 7 ≤ packet.datarate.toNat then 17 else 25) + 32
    + 4 * symbolsOf packet.datarate.toNat (setPpmOn packet.bandwidth packet.datarate)
        packet.coderate packet.noHeader packet.noCrc packet.size.toUInt8

/-- The symbols the emission has more, in its preamble. -/
def addedSymbols (packet : LgwPktTx) : ℕ :=
  if packet.preamble = 0 then 8 else 6 - packet.preamble.toNat

/-- The symbols the emission has less, in its payload: the optimization is counted,
and not turned on. -/
def savedSymbols (packet : LgwPktTx) : ℕ :=
  let symbols (de : Bool) := symbolsOf packet.datarate.toNat de packet.coderate packet.noHeader
    packet.noCrc packet.size.toUInt8
  symbols (decide (11 ≤ packet.datarate.toNat))
    - symbols (setPpmOn packet.bandwidth packet.datarate)

variable {packet : LgwPktTx}

theorem LgwPktTx.Admitted.le_datarate (h : packet.Admitted) :
    5 ≤ packet.datarate.toNat ∧ packet.datarate.toNat ≤ 12 := by
  have hdr := h.datarate
  unfold isLoraDr at hdr
  rwa [Bool.and_eq_true, decide_eq_true_iff, decide_eq_true_iff] at hdr

theorem LgwPktTx.Admitted.bandwidth_cases (h : packet.Admitted) :
    packet.bandwidth = bw125khz ∨ packet.bandwidth = bw250khz ∨ packet.bandwidth = bw500khz := by
  have hbw := h.bandwidth
  unfold isLoraBw at hbw
  rwa [Bool.or_eq_true, Bool.or_eq_true, decide_eq_true_iff, decide_eq_true_iff,
    decide_eq_true_iff, or_assoc] at hbw

/-- A symbol has four quarters of whole microseconds. -/
theorem LgwPktTx.Admitted.symbolUs_eq (h : packet.Admitted) :
    2 ^ packet.datarate.toNat * 8 / bwPow packet.bandwidth = 4 * quarterUs packet
      ∧ (sx1302SendLora packet).symbolUs = 4 * quarterUs packet := by
  obtain ⟨k, hk⟩ := Nat.exists_eq_add_of_le h.le_datarate.1
  have hpow : 2 ^ packet.datarate.toNat = 2 ^ k * 32 := by rw [hk, pow_add]; ring
  have hpowQ : (2 : ℚ) ^ packet.datarate.toNat = 2 ^ k * 32 := by rw [hk, pow_add]; ring
  unfold quarterUs LoraModem.symbolUs sx1302SendLora
  dsimp only
  rw [hpow, hpowQ]
  rcases h.bandwidth_cases with hbw | hbw | hbw
  · rw [hbw, show bwPow bw125khz = 1 from rfl, show lgwBwGetval bw125khz = 125000 from rfl]
    constructor
    · omega
    · rw [Nat.div_one]
      push_cast
      ring
  · rw [hbw, show bwPow bw250khz = 2 from rfl, show lgwBwGetval bw250khz = 250000 from rfl,
      show 2 ^ k * 32 * 2 / 2 = 2 ^ k * 32 by omega]
    constructor
    · omega
    · push_cast
      ring
  · rw [hbw, show bwPow bw500khz = 4 from rfl, show lgwBwGetval bw500khz = 500000 from rfl,
      show 2 ^ k * 32 * 2 / 4 = 2 ^ k * 16 by omega]
    constructor
    · omega
    · push_cast
      ring

/-- The modem turns the optimization on at spreading factors from 11 only. -/
theorem le_of_setPpmOn {bw : UInt8} {dr : UInt32} (h : setPpmOn bw dr) : 11 ≤ dr.toNat := by
  unfold setPpmOn at h
  rw [Bool.or_eq_true, Bool.and_eq_true, Bool.and_eq_true, Bool.or_eq_true, decide_eq_true_iff,
    decide_eq_true_iff, decide_eq_true_iff, decide_eq_true_iff] at h
  rcases h with ⟨-, h | h⟩ | ⟨-, h⟩ <;> rw [h] <;> decide

/-- The preamble is lengthened by the symbols added. -/
theorem toNat_loraPreamble (packet : LgwPktTx) :
    (loraPreamble packet.preamble).toNat = packet.preamble.toNat + addedSymbols packet := by
  unfold loraPreamble addedSymbols
  by_cases h0 : packet.preamble = 0
  · rw [if_pos h0, if_pos h0, h0]
    rfl
  rw [if_neg h0, if_neg h0]
  by_cases hmin : packet.preamble < minLoraPreamble
  · have hlt : packet.preamble.toNat < 6 := UInt16.lt_iff_toNat_lt.mp hmin
    rw [if_pos hmin]
    show 6 = _
    omega
  · have hge : 6 ≤ packet.preamble.toNat :=
      not_lt.mp fun hlt => hmin (UInt16.lt_iff_toNat_lt.mpr hlt)
    rw [if_neg hmin]
    omega

/-- **Estimate and emission differ** by the symbols added and the symbols saved. -/
theorem LgwPktTx.Admitted.emittedQuarters_add (h : packet.Admitted) :
    emittedQuarters packet + 4 * savedSymbols packet
      = estimatedQuarters packet + 4 * addedSymbols packet := by
  have hle : symbolsOf packet.datarate.toNat (setPpmOn packet.bandwidth packet.datarate)
      packet.coderate packet.noHeader packet.noCrc packet.size.toUInt8
      ≤ symbolsOf packet.datarate.toNat (decide (11 ≤ packet.datarate.toNat)) packet.coderate
        packet.noHeader packet.noCrc packet.size.toUInt8 := by
    cases hppm : setPpmOn packet.bandwidth packet.datarate with
    | false => exact symbolsOf_false_le h.le_datarate.1 _ _ _ _ _
    | true => rw [decide_eq_true (le_of_setPpmOn hppm)]
  unfold emittedQuarters estimatedQuarters savedSymbols
  rw [nSymbolPayload_eq, toNat_loraPreamble]
  dsimp only
  omega

theorem LgwPktTx.Admitted.loraPacketTimeOnAir_eq (h : packet.Admitted) :
    loraPacketTimeOnAir packet.bandwidth packet.datarate.toUInt8 packet.coderate packet.preamble
        packet.noHeader packet.noCrc packet.size.toUInt8
      = estimatedQuarters packet * quarterUs packet := by
  have hdr : packet.datarate.toUInt8.toNat = packet.datarate.toNat := by
    have hle := h.le_datarate.2
    rw [UInt32.toNat_toUInt8]
    omega
  have hok : ¬ (!isLoraDr packet.datarate.toNat || !isLoraBw packet.bandwidth
      || !isLoraCr packet.coderate) := by
    rw [h.datarate, h.bandwidth, h.coderate]
    decide
  unfold loraPacketTimeOnAir
  rw [hdr, if_neg hok]
  dsimp only
  rw [h.symbolUs_eq.1, show ∀ a b : ℕ, a * (4 * b) = a * b * 4 from fun a b => by ring,
    Nat.mul_div_cancel _ (by decide)]
  rfl

theorem LgwPktTx.Admitted.payloadSymbols_eq (h : packet.Admitted) :
    (sx1302SendLora packet).payloadSymbols
      = symbolsOf packet.datarate.toNat (setPpmOn packet.bandwidth packet.datarate)
        packet.coderate packet.noHeader packet.noCrc packet.size.toUInt8 := by
  have hsf := h.le_datarate.1
  have hbits : (sx1302SendLora packet).payloadBits
      = ((8 * packet.size.toUInt8.toNat + (if packet.noCrc then 0 else 16)
          + (if 7 ≤ packet.datarate.toNat then 8 else 0) + 20 * (if packet.noHeader then 0 else 1)
          - 4 * packet.datarate.toNat : ℕ) : ℚ) := by
    rw [← max_natCast_sub]
    unfold LoraModem.payloadBits sx1302SendLora
    cases packet.noCrc <;> cases packet.noHeader <;> simp
  have hblock : (4 * ((sx1302SendLora packet).sf
      - 2 * (if (sx1302SendLora packet).ppmOffset then 1 else 0)) : ℚ)
      = ((4 * (packet.datarate.toNat
          - 2 * (if setPpmOn packet.bandwidth packet.datarate then 1 else 0)) : ℕ) : ℚ) := by
    unfold sx1302SendLora
    cases setPpmOn packet.bandwidth packet.datarate with
    | false => simp
    | true =>
      rw [if_pos rfl, if_pos rfl, Nat.cast_mul, Nat.cast_sub (by omega)]
      simp
  unfold LoraModem.payloadSymbols symbolsOf
  rw [hbits, hblock, ceil_natCast_div _ (by split_ifs <;> omega)]
  rfl

/-- **The exact time on air** of what is sent. -/
theorem LgwPktTx.Admitted.timeOnAir_eq (h : packet.Admitted) :
    (sx1302SendLora packet).timeOnAir = ((emittedQuarters packet * quarterUs packet : ℕ) : ℚ) := by
  unfold LoraModem.timeOnAir emittedQuarters
  rw [h.payloadSymbols_eq, h.symbolUs_eq.2]
  unfold sx1302SendLora
  dsimp only
  by_cases h7 : 7 ≤ packet.datarate.toNat
  · rw [if_pos h7, if_pos h7]
    push_cast
    ring
  · rw [if_neg h7, if_neg h7]
    push_cast
    ring

end Admitted

/-! ## The slot -/

/-- **The slot is long enough.** A beacon, for which a fixed time is reserved, lasts
no longer than that and the margin. Any other packet comes with a preamble the modem
takes as it is; or the symbols added to it take no more than the symbols saved, the
margin and what the rounding to milliseconds gained. -/
def SlotLongEnough (packet : LgwPktTx) : JitPktType → Prop
  | .beacon => emittedQuarters packet * quarterUs packet ≤ 2121000
  | _ => 6 ≤ packet.preamble.toNat
      ∨ 4 * addedSymbols packet * quarterUs packet
          + (estimatedQuarters packet * quarterUs packet + 500) % 1000
        ≤ 1500 + 4 * savedSymbols packet * quarterUs packet

section Slot

variable {packet : LgwPktTx}

/-- The time reserved after a downlink is the estimate, to the millisecond. -/
theorem LgwPktTx.Admitted.toNat_timeOnAir_mul (h : packet.Admitted) (syncWordSize : UInt8) :
    (lgwTimeOnAir syncWordSize packet * 1000).toNat
      = (estimatedQuarters packet * quarterUs packet + 500) / 1000 * 1000 := by
  have hle := loraPacketTimeOnAir_le packet.bandwidth packet.datarate.toUInt8 packet.coderate
    packet.preamble packet.noHeader packet.noCrc packet.size.toUInt8
  unfold lgwTimeOnAir
  rw [if_pos h.modulation]
  dsimp only
  rw [h.loraPacketTimeOnAir_eq] at hle ⊢
  rw [UInt32.toNat_mul, UInt32.toNat_ofNat']
  show (_ % 2 ^ 32 * 1000) % 2 ^ 32 = _
  omega

theorem LgwPktTx.Admitted.downlink_iff (h : packet.Admitted) (syncWordSize : UInt8) :
    (sx1302SendLora packet).timeOnAir
        ≤ ((lgwTimeOnAir syncWordSize packet * 1000).toNat : ℚ) + txMarginDelay.toNat
      ↔ 6 ≤ packet.preamble.toNat
        ∨ 4 * addedSymbols packet * quarterUs packet
            + (estimatedQuarters packet * quarterUs packet + 500) % 1000
          ≤ 1500 + 4 * savedSymbols packet * quarterUs packet := by
  have hdiff :
      emittedQuarters packet * quarterUs packet + 4 * savedSymbols packet * quarterUs packet
        = estimatedQuarters packet * quarterUs packet
        + 4 * addedSymbols packet * quarterUs packet := by
    rw [← Nat.add_mul, h.emittedQuarters_add, Nat.add_mul]
  have hnone : 6 ≤ packet.preamble.toNat → 4 * addedSymbols packet * quarterUs packet = 0 := by
    intro h6
    have hadd : addedSymbols packet = 0 := by
      unfold addedSymbols
      rw [if_neg (fun h0 => absurd h6 (by rw [h0]; decide))]
      omega
    rw [hadd, Nat.mul_zero, Nat.zero_mul]
  rw [h.timeOnAir_eq, h.toNat_timeOnAir_mul, ← Nat.cast_add, Nat.cast_le,
    show txMarginDelay.toNat = 1000 from rfl]
  omega

/-- **When a slot covers the emission.** -/
theorem LgwPktTx.Admitted.slot_iff (h : packet.Admitted) (syncWordSize : UInt8)
    (pktType : JitPktType) :
    (sx1302SendLora packet).timeOnAir
        ≤ ((postDelayOf (lgwTimeOnAir syncWordSize) packet pktType).toNat : ℚ)
          + txMarginDelay.toNat
      ↔ SlotLongEnough packet pktType := by
  cases pktType with
  | beacon =>
    rw [h.timeOnAir_eq, ← Nat.cast_add, Nat.cast_le]
    rfl
  | downlinkClassA => exact h.downlink_iff syncWordSize
  | downlinkClassB => exact h.downlink_iff syncWordSize
  | downlinkClassC => exact h.downlink_iff syncWordSize

end Slot

/-- The departure time and the mode do not matter to the modem. -/
theorem sx1302SendLora_timedPacket (packet : LgwPktTx) (c : UInt32) (pktType : JitPktType) :
    sx1302SendLora (timedPacket packet c pktType) = sx1302SendLora packet := by
  cases pktType <;> rfl

/-- **When the reserved slot covers the emission.** A LoRa packet the library sends,
accepted by the queue after any run, is stored in one node. What goes on air of it
lasts no longer than the time reserved after it and the margin exactly when the slot
is long enough. -/
theorem jitQueue_slot_covers_iff (qs : Qsort JitNode) (syncWordSize : UInt8)
    (es₀ : List JitEvent) (timeUs : UInt32) (packet : LgwPktTx) (pktType : JitPktType)
    (hlora : packet.Admitted)
    (hok : (jitEnqueue qs (lgwTimeOnAir syncWordSize)
      (Run.final (JitLedger.step qs (lgwTimeOnAir syncWordSize) timedPacket) JitLedger.start
        es₀).queue timeUs packet pktType).1 = .ok) :
    let s := Run.final (JitLedger.step qs (lgwTimeOnAir syncWordSize) timedPacket)
      JitLedger.start es₀
    let r := jitEnqueue qs (lgwTimeOnAir syncWordSize) s.queue timeUs packet pktType
    ∃ n ∈ r.2.1.live, n.pkt = r.2.2 ∧ n.pktType = pktType
      ∧ ((sx1302SendLora n.pkt).timeOnAir ≤ (n.postDelay.toNat : ℚ) + txMarginDelay.toNat
        ↔ SlotLongEnough packet pktType) := by
  intro s r
  have hacc : Accepts (lgwTimeOnAir syncWordSize) s.queue timeUs packet pktType :=
    (jitEnqueue_fst_eq_ok_iff qs).mp hok
  have hs : s.queue.LivePairwise JitNode.DepartApart := JitLedger.run_departApart es₀
  have hr := jitEnqueue_of_accepts qs hacc
  refine ⟨enqueuedNode (lgwTimeOnAir syncWordSize) s.queue timeUs packet pktType, ?_, ?_, rfl, ?_⟩
  · show _ ∈ (jitEnqueue _ _ _ _ _ _).2.1.live
    rw [hr]
    exact (JitQueue.perm_push qs (lt_of_le_of_ne hs.numPkt_le hacc.room) _).mem_iff.mpr
      List.mem_cons_self
  · show _ = (jitEnqueue _ _ _ _ _ _).2.2
    rw [hr]
  · unfold enqueuedNode
    rw [sx1302SendLora_timedPacket]
    exact hlora.slot_iff syncWordSize pktType

/-- A packet with a preamble of 8 symbols. -/
theorem jitQueue_slot_covers_iff_explicit :
    let q := JitLedger.start.queue
    let r := jitEnqueue (Qsort.insertion JitNode) (lgwTimeOnAir 3) q 0 (loraAt 1000000)
      .downlinkClassA
    ∃ n ∈ r.2.1.live, n.pkt = r.2.2 ∧ n.pktType = .downlinkClassA
      ∧ ((sx1302SendLora n.pkt).timeOnAir ≤ (n.postDelay.toNat : ℚ) + txMarginDelay.toNat
        ↔ SlotLongEnough (loraAt 1000000) .downlinkClassA) :=
  jitQueue_slot_covers_iff (Qsort.insertion JitNode) 3 [] 0 (loraAt 1000000) .downlinkClassA
    ⟨rfl, rfl, rfl, rfl⟩ (by decide +kernel)

/-- The same packet with the preamble left at the default, as the outer loop of the
downstream thread leaves it. -/
def defaultPreamble : LgwPktTx := { loraAt 1000000 with preamble := 0 }

/-- **The default preamble is not reserved for.** The emission has 8 symbols of 1024
microseconds that the slot has not. -/
theorem jitQueue_slot_not_covers :
    ¬ ∀ (qs : Qsort JitNode) (syncWordSize : UInt8) (es₀ : List JitEvent) (timeUs : UInt32)
      (packet : LgwPktTx) (pktType : JitPktType), packet.Admitted →
      let s := Run.final (JitLedger.step qs (lgwTimeOnAir syncWordSize) timedPacket)
        JitLedger.start es₀
      let r := jitEnqueue qs (lgwTimeOnAir syncWordSize) s.queue timeUs packet pktType
      r.1 = .ok → ∀ n ∈ r.2.1.live, n.pkt = r.2.2 →
        (sx1302SendLora n.pkt).timeOnAir ≤ (n.postDelay.toNat : ℚ) + txMarginDelay.toNat := by
  intro h
  have hadm : defaultPreamble.Admitted := ⟨rfl, rfl, rfl, rfl⟩
  have hcovers := h (Qsort.insertion JitNode) 3 [] 0 defaultPreamble .downlinkClassA hadm
    (by decide +kernel)
    (enqueuedNode (lgwTimeOnAir 3) jitQueueInit 0 defaultPreamble .downlinkClassA)
    (by decide +kernel) (by decide +kernel)
  have hlong := (hadm.slot_iff 3 .downlinkClassA).mp hcovers
  revert hlong
  unfold SlotLongEnough
  decide +kernel
