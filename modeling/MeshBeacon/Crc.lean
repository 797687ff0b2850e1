import MeshBeacon.BitPoly
import MeshBeacon.Sx1302

/-!
# The two checksums

The concentrator library computes the checksum of a payload with sixteen equations for each
byte, and the daemon computes its own one bit at a time. They belong to the same generator,
and the one is the other of the message with two bytes of zero behind it.

The equations are those of the source, on an `int` and with a `char` for the byte. Whether a
`char` has a sign does not matter, since no more than its eight bits are looked at.
-/

open Polynomial

namespace Crc

/-! ## The functions -/

/-- `(x >> i) & 1` of an `int`. -/
def intBit (x : BitVec 32) (i : ℕ) : BitVec 32 := x.sshiftRight i &&& 1

/-- `lora_crc16`, on an `int`. -/
def loraCrc16Int (data : Int8) (crc : BitVec 32) : BitVec 32 :=
  let d := intBit (data.toBitVec.signExtend 32)
  let c := intBit crc
  (d 0 ^^^ c 12 ^^^ c 8)
    + (d 1 ^^^ c 13 ^^^ c 9) <<< 1
    + (d 2 ^^^ c 14 ^^^ c 10) <<< 2
    + (d 3 ^^^ c 15 ^^^ c 11) <<< 3
    + (d 4 ^^^ c 12) <<< 4
    + (d 5 ^^^ c 13 ^^^ c 12 ^^^ c 8) <<< 5
    + (d 6 ^^^ c 14 ^^^ c 13 ^^^ c 9) <<< 6
    + (d 7 ^^^ c 15 ^^^ c 14 ^^^ c 10) <<< 7
    + (c 0 ^^^ c 15 ^^^ c 11) <<< 8
    + (c 1 ^^^ c 12) <<< 9
    + (c 2 ^^^ c 13) <<< 10
    + (c 3 ^^^ c 14) <<< 11
    + (c 4 ^^^ c 15 ^^^ c 12 ^^^ c 8) <<< 12
    + (c 5 ^^^ c 13 ^^^ c 9) <<< 13
    + (c 6 ^^^ c 14 ^^^ c 10) <<< 14
    + (c 7 ^^^ c 15 ^^^ c 11) <<< 15

/-- `sx1302_lora_payload_crc`, with the `int` it keeps. -/
def sx1302LoraPayloadCrcInt (data : List UInt8) : UInt16 :=
  UInt16.ofBitVec ((data.foldl (fun crc b => loraCrc16Int b.toInt8 crc) 0).setWidth 16)

/-- `crc_poly`. -/
def crcPoly : UInt16 := 0x1021

/-- One turn of the inner loop of `crc16`. -/
def crcShift (x : UInt16) : UInt16 :=
  if x &&& 0x8000 ≠ 0 then (x <<< 1) ^^^ crcPoly else x <<< 1

/-- `crc16`, of data that is there. -/
def crc16 (data : List UInt8) : UInt16 :=
  data.foldl (fun (x : UInt16) b => crcShift^[8] (x ^^^ b.toUInt16 <<< (8 : UInt16))) 0

/-! ## The equations on an int -/

theorem intBit_eq (x : BitVec 32) {i : ℕ} (hi : i < 32) :
    intBit x i = BitVec.ofNat 32 (x.getLsbD i).toNat := by
  refine BitVec.eq_of_getLsbD_eq fun j hj => ?_
  rw [intBit, BitVec.getLsbD_and, BitVec.getLsbD_sshiftRight]
  cases j with
  | zero => cases x.getLsbD i <;> simp [hi]
  | succ j => cases x.getLsbD i <;> simp

theorem ofNat_toNat_xor (a b : Bool) :
    BitVec.ofNat 32 a.toNat ^^^ BitVec.ofNat 32 b.toNat = BitVec.ofNat 32 (a ^^ b).toNat := by
  cases a <;> cases b <;> decide

theorem ofNat_shiftLeft (n k : ℕ) :
    BitVec.ofNat 32 n <<< k = BitVec.ofNat 32 (n * 2 ^ k) := by
  refine BitVec.eq_of_toNat_eq ?_
  rw [BitVec.toNat_shiftLeft, BitVec.toNat_ofNat, BitVec.toNat_ofNat, Nat.shiftLeft_eq,
    Nat.mod_mul_mod]

theorem getLsbD_signExtend_byte (data : Int8) {i : ℕ} (hi : i < 8) :
    (data.toBitVec.signExtend 32).getLsbD i = data.toBitVec.getLsbD i := by
  rw [BitVec.getLsbD_signExtend, if_pos hi, decide_eq_true (hi.trans (by decide)), Bool.true_and]

theorem ofBits_lt (bs : List Bool) : ofBits bs < 2 ^ bs.length := by
  induction bs with
  | nil => exact Nat.one_pos
  | cons b bs ih =>
    have hb := Bool.toNat_le b
    rw [ofBits, List.length_cons, pow_succ]
    omega

/-- **The `int` holds sixteen bits**, those of the equations. -/
theorem loraCrc16Int_eq (data : UInt8) (crc : UInt16) :
    loraCrc16Int data.toInt8 (BitVec.ofNat 32 crc.toNat)
      = BitVec.ofNat 32 (loraCrc16 data crc).toNat := by
  have hd : ∀ i < 8, intBit (data.toInt8.toBitVec.signExtend 32) i
      = BitVec.ofNat 32 (data.toNat.testBit i).toNat := by
    intro i hi
    rw [intBit_eq _ (hi.trans (by decide)), getLsbD_signExtend_byte _ hi]
    rfl
  have hc : ∀ i < 16, intBit (BitVec.ofNat 32 crc.toNat) i
      = BitVec.ofNat 32 (crc.toNat.testBit i).toNat := by
    intro i hi
    rw [intBit_eq _ (hi.trans (by decide)), BitVec.getLsbD_ofNat,
      decide_eq_true (hi.trans (by decide)), Bool.true_and]
  unfold loraCrc16Int loraCrc16
  simp (disch := decide) only [hd, hc, ofNat_toNat_xor, ofNat_shiftLeft, ← BitVec.ofNat_add]
  rw [UInt16.toNat_ofNat']
  refine congrArg (BitVec.ofNat 32) (Eq.trans ?_ (Nat.mod_eq_of_lt (ofBits_lt _)).symm)
  simp only [ofBits]
  ring

/-- The `int` that is kept, and the number it is returned as. -/
theorem sx1302LoraPayloadCrcInt_eq (data : List UInt8) :
    sx1302LoraPayloadCrcInt data = sx1302LoraPayloadCrc data := by
  have hfold : data.foldl (fun crc b => loraCrc16Int b.toInt8 crc) 0
      = BitVec.ofNat 32 (sx1302LoraPayloadCrc data).toNat := by
    show data.foldl _ (BitVec.ofNat 32 (0 : UInt16).toNat) = _
    exact List.foldl_hom (fun crc : UInt16 => BitVec.ofNat 32 crc.toNat)
      fun crc b => loraCrc16Int_eq b crc
  refine UInt16.toNat_inj.mp ?_
  have hlt := (sx1302LoraPayloadCrc data).toNat_lt
  rw [sx1302LoraPayloadCrcInt, hfold, UInt16.toNat_ofBitVec, BitVec.toNat_setWidth,
    BitVec.toNat_ofNat, Nat.mod_mod_of_dvd _ (by decide), Nat.mod_eq_of_lt hlt]

/-! ## The steps -/

theorem generator_eq : BitPoly.generator 16 0x1021 = X ^ 16 + X ^ 12 + X ^ 5 + 1 := by
  have hbits : (0x1021 : ℕ) = ofBits [true, false, false, false, false, true, false, false, false,
      false, false, false, true, false, false, false] := by decide
  rw [BitPoly.generator, hbits]
  simp only [ofBits, BitPoly.ofWord_cons, BitPoly.ofWord_zero_width, BitPoly.bit, if_true,
    Bool.false_eq_true, if_false, C_1, C_0]
  ring

/-- **The equations are right**: the byte is put in behind the eight bits that are moved out. -/
theorem dvd_loraCrc16 (crc : UInt16) (data : UInt8) : BitPoly.generator 16 0x1021 ∣
    X ^ 8 * BitPoly.ofWord 16 crc.toNat + BitPoly.ofWord 8 data.toNat
      - BitPoly.ofWord 16 (loraCrc16 data crc).toNat := by
  rw [generator_eq, loraCrc16, UInt16.toNat_ofNat', BitPoly.ofWord_mod]
  simp only [ofBits, BitPoly.ofWord_cons, BitPoly.ofWord_zero_width, BitPoly.bit_xor, C_add]
  simp only [BitPoly.ofWord, Finset.sum_range_succ, Finset.sum_range_zero]
  obtain ⟨c, hc⟩ : ∃ c : ℕ → (ZMod 2)[X], ∀ i, C (BitPoly.bit (crc.toNat.testBit i)) = c i :=
    ⟨_, fun _ => rfl⟩
  obtain ⟨d, hd⟩ : ∃ d : ℕ → (ZMod 2)[X], ∀ i, C (BitPoly.bit (data.toNat.testBit i)) = d i :=
    ⟨_, fun _ => rfl⟩
  simp only [hc, hd]
  -- the quotient is what is moved out, and what that moves out in its turn
  obtain ⟨q, hq⟩ : ∃ q, q = c 15 * X ^ 7 + c 14 * X ^ 6 + c 13 * X ^ 5 + c 12 * X ^ 4
      + (c 11 + c 15) * X ^ 3 + (c 10 + c 14) * X ^ 2 + (c 9 + c 13) * X + (c 8 + c 12) := ⟨_, rfl⟩
  refine ⟨-q, ?_⟩
  linear_combination (-X ^ 16 + X ^ 12 + X ^ 5 + 1) * hq + q * X ^ 16 * BitPoly.two_eq_zero

/-- One turn of the inner loop is a step of the register. -/
theorem toNat_crcShift (x : UInt16) : (crcShift x).toNat = BitPoly.shift 16 0x1021 x.toNat := by
  have hbit : x &&& 0x8000 ≠ 0 ↔ x.toNat.testBit 15 = true := by
    rw [ne_eq, ← UInt16.toNat_inj, UInt16.toNat_and]
    show ¬ x.toNat &&& 2 ^ 15 = 0 ↔ _
    rw [Nat.and_two_pow]
    cases x.toNat.testBit 15 <;> decide
  have hshift : (x <<< 1).toNat = 2 * x.toNat % 2 ^ 16 := by
    rw [UInt16.toNat_shiftLeft]
    show x.toNat <<< 1 % 2 ^ 16 = _
    rw [Nat.shiftLeft_eq, pow_one, Nat.mul_comm]
  unfold crcShift BitPoly.shift
  by_cases h : x.toNat.testBit 15 = true
  · rw [if_pos (hbit.mpr h), if_pos h, UInt16.toNat_xor, hshift]
    rfl
  · rw [if_neg fun hx => h (hbit.mp hx), if_neg h, hshift]

/-- **So is the inner loop**: the byte is put in above, and moved out in eight steps. -/
theorem dvd_crc16_step (x : UInt16) (b : UInt8) : BitPoly.generator 16 0x1021 ∣
    X ^ 8 * BitPoly.ofWord 16 x.toNat + X ^ 16 * BitPoly.ofWord 8 b.toNat
      - BitPoly.ofWord 16 (crcShift^[8] (x ^^^ b.toUInt16 <<< (8 : UInt16))).toNat := by
  have hsemi : Function.Semiconj UInt16.toNat crcShift (BitPoly.shift 16 0x1021) := toNat_crcShift
  have hbyte : BitPoly.ofWord 16 (b.toUInt16 <<< (8 : UInt16)).toNat
      = X ^ 8 * BitPoly.ofWord 8 b.toNat := by
    rw [UInt16.toNat_shiftLeft, BitPoly.ofWord_mod, ← BitPoly.ofWord_mul_two_pow,
      ← Nat.shiftLeft_eq]
    rfl
  have hword : X ^ 8 * BitPoly.ofWord 16 x.toNat + X ^ 16 * BitPoly.ofWord 8 b.toNat
      = X ^ 8 * BitPoly.ofWord 16 (x ^^^ b.toUInt16 <<< (8 : UInt16)).toNat := by
    rw [UInt16.toNat_xor, BitPoly.ofWord_xor, hbyte]
    ring
  rw [hword, (hsemi.iterate_right 8).eq]
  exact BitPoly.dvd_iterate_shift 15 0x1021 8 _

/-! ## The messages -/

/-- The polynomial of a list of bytes. -/
noncomputable def messagePoly (data : List UInt8) : (ZMod 2)[X] :=
  BitPoly.ofBytes (data.map UInt8.toNat)

/-- The payload checksum is congruent to the message. -/
theorem dvd_sx1302LoraPayloadCrc (data : List UInt8) : BitPoly.generator 16 0x1021 ∣
    messagePoly data - BitPoly.ofWord 16 (sx1302LoraPayloadCrc data).toNat := by
  rw [messagePoly, BitPoly.ofBytes, List.foldl_map]
  exact BitPoly.dvd_foldl (fun crc b => dvd_loraCrc16 crc b) data
    (BitPoly.dvd_zero_sub_ofWord _ 16)

/-- The daemon's is congruent to the message moved up by two bytes. -/
theorem dvd_crc16 (data : List UInt8) : BitPoly.generator 16 0x1021 ∣
    X ^ 16 * messagePoly data - BitPoly.ofWord 16 (crc16 data).toNat := by
  rw [messagePoly, BitPoly.ofBytes, ← BitPoly.foldl_mul_ofWord, mul_zero, List.foldl_map]
  exact BitPoly.dvd_foldl (fun x b => dvd_crc16_step x b) data
    (BitPoly.dvd_zero_sub_ofWord _ 16)

theorem messagePoly_append_zeros (data : List UInt8) :
    messagePoly (data ++ [0, 0]) = X ^ 16 * messagePoly data := by
  have hzero : BitPoly.ofWord 8 (0 : UInt8).toNat = 0 := by
    simp [BitPoly.ofWord, BitPoly.bit]
  rw [messagePoly, List.append_cons data 0 [0], List.map_append, List.map_append,
    List.map_singleton, BitPoly.ofBytes_append_singleton, BitPoly.ofBytes_append_singleton, hzero,
    messagePoly]
  ring

/-- **The two checksums are the remainders they stand for**, and agree: what the library computes
is the remainder of the message, and what the daemon computes is the same of the message with
two bytes of zero behind it. -/
theorem payloadCrc_eq_modByMonic_and_crc16_eq (data : List UInt8) :
    BitPoly.ofWord 16 (sx1302LoraPayloadCrcInt data).toNat
        = messagePoly data %ₘ (X ^ 16 + X ^ 12 + X ^ 5 + 1)
      ∧ crc16 data = sx1302LoraPayloadCrcInt (data ++ [0, 0]) := by
  rw [sx1302LoraPayloadCrcInt_eq, sx1302LoraPayloadCrcInt_eq, ← generator_eq]
  refine ⟨BitPoly.ofWord_eq_modByMonic (dvd_sx1302LoraPayloadCrc data), ?_⟩
  have hcrc := BitPoly.ofWord_eq_modByMonic (dvd_crc16 data)
  have hpayload := BitPoly.ofWord_eq_modByMonic (dvd_sx1302LoraPayloadCrc (data ++ [0, 0]))
  rw [messagePoly_append_zeros, ← hcrc] at hpayload
  exact UInt16.toNat_inj.mp
    (BitPoly.ofWord_inj (UInt16.toNat_lt _) (UInt16.toNat_lt _) hpayload).symm

end Crc
