import MeshBeacon.Binary64
import MeshBeacon.Hal

/-!
# Time on air

How long a transmission lasts, from the configuration of the packet. For LoRa
the formula of the modem is evaluated in microseconds and rounded to
milliseconds; for FSK it is the number of bits over the bit rate.

The source calculates in floating point. All the LoRa numbers are multiples of
a quarter that a double holds exactly, and its divisions are by numbers too
small for the rounding to reach the next whole number, so they are evaluated
on natural numbers. The FSK quotient is not so tame – a quotient that should be
whole may come out just below – and is evaluated in double precision.
-/

open Hal

/-- `IS_LORA_DR`. -/
def isLoraDr (dr : ℕ) : Bool := 5 ≤ dr && dr ≤ 12

/-- `IS_LORA_BW`. -/
def isLoraBw (bw : UInt8) : Bool := bw = bw125khz || bw = bw250khz || bw = bw500khz

/-- `IS_LORA_CR`. -/
def isLoraCr (cr : UInt8) : Bool := crLora45 ≤ cr && cr ≤ crLora48

/-- `IS_FSK_DR`. -/
def isFskDr (dr : UInt32) : Bool := 500 ≤ dr && dr ≤ 250000

/-- The 125 kHz divider of a bandwidth. -/
def bwPow (bw : UInt8) : ℕ :=
  if bw = bw125khz then 1 else if bw = bw250khz then 2 else 4

/-- Number of symbols in the payload. The bits beyond the first block are the
difference in the `MAX`, which is zero when there are none. -/
def nSymbolPayload (sf : ℕ) (cr : UInt8) (noHeader noCrc : Bool) (size : UInt8) : ℕ :=
  let h := if noHeader then 0 else 1
  let de := if 11 ≤ sf then 1 else 0
  let nBitCrc := if noCrc then 0 else 16
  let bits := 8 * size.toNat + nBitCrc + (if 7 ≤ sf then 8 else 0) + 20 * h - 4 * sf
  let block := 4 * (sf - 2 * de)
  (bits + block - 1) / block * (cr.toNat + 4)

/-- `lora_packet_time_on_air`, in microseconds; 0 for a packet it rejects. -/
def loraPacketTimeOnAir (bw sf cr : UInt8) (nSymbolPreamble : UInt16) (noHeader noCrc : Bool)
    (size : UInt8) : ℕ :=
  if !isLoraDr sf.toNat || !isLoraBw bw || !isLoraCr cr then 0
  else
    let tSymbolUs := 2 ^ sf.toNat * 8 / bwPow bw
    -- in quarters of a symbol: a preamble is followed by 4.25 or 6.25 symbols
    let quarters := 4 * nSymbolPreamble.toNat + (if 7 ≤ sf.toNat then 17 else 25) + 32
      + 4 * nSymbolPayload sf.toNat cr noHeader noCrc size
    quarters * tSymbolUs / 4

/-- The bytes an FSK packet puts on air. -/
def fskBytes (syncWordSize : UInt8) (packet : LgwPktTx) : ℕ :=
  packet.preamble.toNat + syncWordSize.toNat + 1 + packet.size.toNat
    + (if packet.noCrc then 0 else 2)

/-- `lgw_time_on_air`, in milliseconds, with the size of the FSK sync word the
concentrator is configured for. A bit rate of zero is an infinite duration,
for which the conversion to an integer is not defined; it counts as none
here. -/
def lgwTimeOnAir (syncWordSize : UInt8) (packet : LgwPktTx) : UInt32 :=
  if packet.modulation = modLora then
    let toaUs := loraPacketTimeOnAir packet.bandwidth packet.datarate.toUInt8 packet.coderate
      packet.preamble packet.noHeader packet.noCrc packet.size.toUInt8
    UInt32.ofNat ((toaUs + 500) / 1000)
  else if packet.modulation = modFsk then
    let tFsk := (Binary64.div (8 * fskBytes syncWordSize packet) packet.datarate.toNat).mul 1000
    UInt32.ofNat (tFsk.trunc + 1)
  else 0

/-! ## How long a packet can last -/

/-- A payload of at most 255 bytes has a moderate number of symbols. -/
theorem nSymbolPayload_le {sf : ℕ} (hsf : sf ≤ 12) {cr : UInt8} (hcr : cr.toNat ≤ 4)
    (noHeader noCrc : Bool) (size : UInt8) :
    nSymbolPayload sf cr noHeader noCrc size ≤ 17048 := by
  have hsize := size.toNat_lt
  unfold nSymbolPayload
  dsimp only
  generalize hbits : 8 * size.toNat + (if noCrc then 0 else 16) + (if 7 ≤ sf then 8 else 0)
    + 20 * (if noHeader then 0 else 1) - 4 * sf = bits
  generalize hblock : 4 * (sf - 2 * (if 11 ≤ sf then 1 else 0)) = block
  have hle : bits + block - 1 ≤ 2131 := by
    split_ifs at hbits hblock <;> omega
  calc (bits + block - 1) / block * (cr.toNat + 4)
      ≤ 2131 * 8 := Nat.mul_le_mul ((Nat.div_le_self _ _).trans hle) (by omega)
    _ = 17048 := rfl

/-- No LoRa packet lasts longer than 2710 seconds, whatever its parameters. -/
theorem loraPacketTimeOnAir_le (bw sf cr : UInt8) (nSymbolPreamble : UInt16)
    (noHeader noCrc : Bool) (size : UInt8) :
    loraPacketTimeOnAir bw sf cr nSymbolPreamble noHeader noCrc size ≤ 2710000000 := by
  unfold loraPacketTimeOnAir
  by_cases hbad : !isLoraDr sf.toNat || !isLoraBw bw || !isLoraCr cr
  · rw [if_pos hbad]
    exact Nat.zero_le _
  rw [if_neg hbad]
  rw [Bool.or_eq_true, Bool.or_eq_true, not_or, not_or] at hbad
  obtain ⟨⟨hdr, -⟩, hcr⟩ := hbad
  have hsf : sf.toNat ≤ 12 := by
    simp only [isLoraDr, Bool.not_eq_true', Bool.not_eq_false, Bool.and_eq_true,
      decide_eq_true_eq] at hdr
    exact hdr.2
  have hcr4 : cr.toNat ≤ 4 := by
    simp only [isLoraCr, Bool.not_eq_true', Bool.not_eq_false, Bool.and_eq_true,
      decide_eq_true_eq] at hcr
    exact UInt8.le_iff_toNat_le.mp hcr.2
  have hpre := nSymbolPreamble.toNat_lt
  have hpay := nSymbolPayload_le hsf hcr4 noHeader noCrc size
  -- the largest spreading factor gives the longest symbol
  have htsym : 2 ^ sf.toNat * 8 / bwPow bw ≤ 2 ^ 12 * 8 :=
    (Nat.div_le_self _ _).trans (Nat.mul_le_mul_right _ (Nat.pow_le_pow_right (by decide) hsf))
  dsimp only
  generalize hquarters : 4 * nSymbolPreamble.toNat + (if 7 ≤ sf.toNat then 17 else 25) + 32
    + 4 * nSymbolPayload sf.toNat cr noHeader noCrc size = quarters
  have hq : quarters ≤ 330400 := by
    rw [← hquarters]
    split_ifs <;> omega
  refine Nat.div_le_of_le_mul ((Nat.mul_le_mul hq htsym).trans ?_)
  decide

/-- An FSK packet at a bit rate the library sends lasts no longer than 2110
seconds. -/
theorem fsk_trunc_le (syncWordSize : UInt8) (packet : LgwPktTx) (hdr : isFskDr packet.datarate) :
    ((Binary64.div (8 * fskBytes syncWordSize packet) packet.datarate.toNat).mul 1000).trunc
      ≤ 2110000 := by
  have hmin : 500 ≤ packet.datarate.toNat := by
    simp only [isFskDr, Bool.and_eq_true, decide_eq_true_eq] at hdr
    exact UInt32.le_iff_toNat_le.mp hdr.1
  have hbytes : fskBytes syncWordSize packet ≤ 131328 := by
    have hpre := packet.preamble.toNat_lt
    have hsync := syncWordSize.toNat_lt
    have hsize := packet.size.toNat_lt
    unfold fskBytes
    split_ifs <;> omega
  have hround := Binary64.trunc_mul_div_le (8 * fskBytes syncWordSize packet) 1000
    (show 0 < packet.datarate.toNat by omega)
  generalize ((Binary64.div (8 * fskBytes syncWordSize packet) packet.datarate.toNat).mul
    1000).trunc = t at hround ⊢
  have hrate : t * 500 ≤ t * packet.datarate.toNat := Nat.mul_le_mul_left t hmin
  omega

/-- **Every packet the library would send lasts less than 2710 seconds.** -/
theorem lgwTimeOnAir_le (syncWordSize : UInt8) (packet : LgwPktTx)
    (h : packet.modulation = modFsk → isFskDr packet.datarate) :
    (lgwTimeOnAir syncWordSize packet).toNat ≤ 2710001 := by
  unfold lgwTimeOnAir
  split_ifs with hlora hfsk
  · have hle := loraPacketTimeOnAir_le packet.bandwidth packet.datarate.toUInt8 packet.coderate
      packet.preamble packet.noHeader packet.noCrc packet.size.toUInt8
    dsimp only
    rw [UInt32.toNat_ofNat']
    omega
  · have hle := fsk_trunc_le syncWordSize packet (h hfsk)
    dsimp only
    rw [UInt32.toNat_ofNat']
    omega
  · exact Nat.zero_le _
