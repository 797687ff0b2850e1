import MeshBeacon.BitField
import MeshBeacon.Run
import MeshBeacon.UsbBulk
import Mathlib.Logic.Function.Basic
import Mathlib.Tactic.Common

/-!
# Register fields over SPI

A register of the concentrator is a field of a byte, and most bytes hold several. Over SPI
the host itself reads the byte, replaces the field and writes the byte back. These are two
transactions, and either may fail.

When the read fails the host goes on with the zeros its buffer was initialized with. The
field asked for is written right, and its neighbours in the byte are cleared; that
the call then returns an error does not bring them back. Only when the write fails as well, or
when the neighbours may be zero anyway, is nothing lost.

The chip is its bytes, and nothing but a write changes them. The table of registers is a
parameter; it carries that no two registers share a bit. Its page, the sign, the default
and the flag for checks of a register are not looked at by a write.
-/

namespace SpiReg

/-! ## The link -/

/-- The bytes of the chip. -/
abbrev ChipMem := UInt16 → UInt8

/-- What becomes of the transactions of one call. -/
structure SpiPort where
  /-- The `ioctl` of a read transfers all its bytes. -/
  readOk : Bool
  /-- The `ioctl` of a write transfers all its bytes. -/
  writeOk : Bool
deriving DecidableEq

/-- `LGW_SPI_SUCCESS`. -/
def lgwSpiSuccess : ℤ := 0

/-- `LGW_SPI_ERROR`. -/
def lgwSpiError : ℤ := -1

/-- The address as it is sent: its highest bit tells a write from a read. -/
def frameAddr (address : UInt16) : UInt16 := address &&& 0x7FFF

/-- `lgw_spi_r`: the status, and what `*data` holds then. -/
def lgwSpiR (port : SpiPort) (chip : ChipMem) (address : UInt16) (data : UInt8) : ℤ × UInt8 :=
  if port.readOk then (lgwSpiSuccess, chip (frameAddr address)) else (lgwSpiError, data)

/-- `lgw_spi_w`. -/
def lgwSpiW (port : SpiPort) (chip : ChipMem) (address : UInt16) (data : UInt8) : ℤ × ChipMem :=
  if port.writeOk then (lgwSpiSuccess, Function.update chip (frameAddr address) data)
  else (lgwSpiError, chip)

/-- `lgw_spi_rmw`, with the four bytes of its buffer. The shifts are of an `int`. -/
def lgwSpiRmw (port : SpiPort) (chip : ChipMem) (address : UInt16) (offs leng data : UInt8) :
    ℤ × ChipMem :=
  let read := lgwSpiR port chip address 0
  let buf1 := UInt8.ofNat (((1 <<< leng.toNat) - 1) <<< offs.toNat)
  let buf2 := UInt8.ofNat (data.toNat <<< offs.toNat)
  let buf3 := (~~~buf1 &&& read.2) ||| (buf1 &&& buf2)
  -- the byte is written whether it was read or not
  let write := lgwSpiW port chip address buf3
  (lgwSpiSuccess + read.1 + write.1, write.2)

/-! ## The register module -/

/-- `LGW_REG_SUCCESS`. -/
def lgwRegSuccess : ℤ := 0

/-- `LGW_REG_ERROR`. -/
def lgwRegError : ℤ := -1

/-- `reg_w`. -/
def regW (port : SpiPort) (chip : ChipMem) (r : LgwReg) (regValue : Int32) : ℤ × ChipMem :=
  if r.IsByte then lgwSpiW port chip r.addr regValue.toUInt32.toUInt8
  else if r.offs.toNat + r.leng.toNat ≤ 8 then
    lgwSpiRmw port chip r.addr r.offs r.leng regValue.toUInt32.toUInt8
  else (lgwRegError, chip)

/-- `lgw_reg_w`. -/
def lgwRegW (loregs : List LgwReg) (port : SpiPort) (chip : ChipMem) (registerId : UInt16)
    (regValue : Int32) : ℤ × ChipMem :=
  match loregs[registerId.toNat]? with
  | none => (lgwRegError, chip)
  | some r =>
    if r.rdon then (lgwRegError, chip)
    else
      let com := regW port chip r regValue
      (if com.1 ≠ 0 then lgwRegError else lgwRegSuccess, com.2)

/-- Two registers are in one byte. -/
def SameByte (r r' : LgwReg) : Prop := frameAddr r.addr = frameAddr r'.addr

instance (r r' : LgwReg) : Decidable (SameByte r r') := inferInstanceAs (Decidable (_ = _))

/-- Two registers share no bit. -/
def Apart (r r' : LgwReg) : Prop :=
  SameByte r r' → BitField.Apart r.offs.toNat r.leng.toNat r'.offs.toNat r'.leng.toNat

instance (r r' : LgwReg) : Decidable (Apart r r') := inferInstanceAs (Decidable (_ → _))

theorem Apart.symm {r r' : LgwReg} (h : Apart r r') : Apart r' r :=
  fun hbyte => (h (Eq.symm hbyte)).symm

/-- A table of registers. -/
structure RegTable where
  loregs : List LgwReg
  apart : loregs.Pairwise Apart

/-- Registers with different numbers share no bit. -/
theorem RegTable.apart_of_ne (t : RegTable) {i j : ℕ} {r r' : LgwReg} (hij : i ≠ j)
    (hi : t.loregs[i]? = some r) (hj : t.loregs[j]? = some r') : Apart r r' := by
  obtain ⟨hi', rfl⟩ := List.getElem?_eq_some_iff.mp hi
  obtain ⟨hj', rfl⟩ := List.getElem?_eq_some_iff.mp hj
  have hpair := List.pairwise_iff_getElem.mp t.apart
  rcases Nat.lt_or_gt_of_ne hij with hlt | hgt
  · exact hpair i j hi' hj' hlt
  · exact (hpair j i hj' hi' hgt).symm

/-! ## Runs -/

/-- A call of `lgw_reg_w`. -/
structure RegCall where
  registerId : UInt16
  regValue : Int32
  port : SpiPort

/-- The low bits of the value of a call, as many as the register has. -/
def RegCall.lowBits (c : RegCall) (r : LgwReg) : ℕ := c.regValue.toUInt32.toNat % 2 ^ r.leng.toNat

/-- The chip, and the calls there were. -/
structure RegState where
  chip : ChipMem
  calls : List RegCall

/-- One call. -/
def RegTable.step (t : RegTable) (s : RegState) (c : RegCall) : RegState where
  chip := (lgwRegW t.loregs c.port s.chip c.registerId c.regValue).2
  calls := s.calls ++ [c]

/-- What a register holds. -/
def field (chip : ChipMem) (r : LgwReg) : ℕ :=
  BitField.get r.offs.toNat r.leng.toNat (chip (frameAddr r.addr)).toBitVec

/-- **The register of that number may hold that number**: it did at the start, or it is the low
bits of a value in a call that writes to it. -/
def MayHold (chip₀ : ChipMem) (calls : List RegCall) (i : ℕ) (r : LgwReg) (v : ℕ) : Prop :=
  v = field chip₀ r ∨ ∃ c ∈ calls, c.registerId.toNat = i ∧ v = c.lowBits r

/-- **Every register holds what it may.** -/
def FieldsHeld (t : RegTable) (chip₀ : ChipMem) (s : RegState) : Prop :=
  ∀ i r, t.loregs[i]? = some r → MayHold chip₀ s.calls i r (field s.chip r)

/-- The call is of a register that can be written. -/
structure Writes (t : RegTable) (c : RegCall) (r : LgwReg) : Prop where
  reg : t.loregs[c.registerId.toNat]? = some r
  rdon : r.rdon = false
  fits : r.offs.toNat + r.leng.toNat ≤ 8

/-- **The call does no harm**: it is of a whole byte, or the byte is read, or not written
either, or else each other register in the byte may be zero. -/
def Harmless (t : RegTable) (chip₀ : ChipMem) (s : RegState) (c : RegCall) : Prop :=
  ∀ r, Writes t c r → r.IsByte ∨ c.port.readOk = true ∨ c.port.writeOk = false ∨
    ∀ i r', i ≠ c.registerId.toNat → t.loregs[i]? = some r' → SameByte r r' →
      MayHold chip₀ s.calls i r' 0

/-! ## What one call does -/

section Call

variable {t : RegTable} {chip₀ : ChipMem} {s : RegState} {c : RegCall} {r : LgwReg}

/-- What is written instead of the byte that was read. -/
theorem snd_lgwSpiRmw (port : SpiPort) (chip : ChipMem) (address : UInt16)
    (offs leng data : UInt8) :
    (lgwSpiRmw port chip address offs leng data).2
      = (lgwSpiW port chip address (UInt8.ofBitVec (BitField.insert offs.toNat leng.toNat
          (lgwSpiR port chip address 0).2.toBitVec data.toBitVec))).2 := rfl

/-- The byte a call starts from. -/
def oldByte (s : RegState) (c : RegCall) (r : LgwReg) : UInt8 :=
  if r.IsByte ∨ c.port.readOk = true then s.chip (frameAddr r.addr) else 0

/-- **A write that goes through inserts the value**, into the byte that was read or into
zeros. -/
theorem chip_step (h : Writes t c r) (hw : c.port.writeOk = true) :
    (t.step s c).chip = Function.update s.chip (frameAddr r.addr)
      (UInt8.ofBitVec (BitField.insert r.offs.toNat r.leng.toNat (oldByte s c r).toBitVec
        c.regValue.toUInt32.toUInt8.toBitVec)) := by
  have hreg : (t.step s c).chip = (regW c.port s.chip r c.regValue).2 := by
    show (lgwRegW t.loregs c.port s.chip c.registerId c.regValue).2 = _
    rw [lgwRegW, h.reg]
    simp only [h.rdon, Bool.false_eq_true, if_false]
  rw [hreg, regW]
  by_cases hbyte : r.IsByte
  · rw [if_pos hbyte, lgwSpiW, if_pos hw, hbyte.1, hbyte.2]
    exact congrArg (fun b => Function.update s.chip _ (UInt8.ofBitVec b))
      (BitField.insert_whole _ _).symm
  · rw [if_neg hbyte, if_pos h.fits, snd_lgwSpiRmw, lgwSpiW, if_pos hw, lgwSpiR, oldByte]
    cases c.port.readOk
    · simp only [hbyte, Bool.false_eq_true, or_self, if_false]
    · simp only [or_true, if_true]

theorem chip_step_of_not (h : c.port.writeOk = true → ∀ r, ¬ Writes t c r) :
    (t.step s c).chip = s.chip := by
  show (lgwRegW t.loregs c.port s.chip c.registerId c.regValue).2 = _
  rw [lgwRegW]
  split
  · rfl
  · rename_i r hreg
    cases hrdon : r.rdon
    · show (regW c.port s.chip r c.regValue).2 = _
      by_cases hw : c.port.writeOk = true
      · have hfits : ¬ r.offs.toNat + r.leng.toNat ≤ 8 := fun hfits => h hw r ⟨hreg, hrdon, hfits⟩
        have hbyte : ¬ r.IsByte := by
          rintro ⟨hleng, hoffs⟩
          rw [hleng, hoffs] at hfits
          exact hfits (by decide)
        rw [regW, if_neg hbyte, if_neg hfits]
      · rw [regW]
        split_ifs
        · rw [lgwSpiW, if_neg hw]
        · rw [snd_lgwSpiRmw, lgwSpiW, if_neg hw]
        · rfl
    · rfl

/-- A byte is replaced under the registers that are in it. -/
theorem field_update (chip : ChipMem) (r r' : LgwReg) (b : BitVec 8) :
    field (Function.update chip (frameAddr r.addr) (UInt8.ofBitVec b)) r'
      = if SameByte r r' then BitField.get r'.offs.toNat r'.leng.toNat b else field chip r' := by
  unfold field
  by_cases h : SameByte r r'
  · rw [if_pos h, show frameAddr r'.addr = frameAddr r.addr from Eq.symm h, Function.update_self]
  · rw [if_neg h, Function.update_of_ne fun heq => h (Eq.symm heq)]

/-- The register that is written holds the low bits of the value. -/
theorem field_step_self (h : Writes t c r) (hw : c.port.writeOk = true) :
    field (t.step s c).chip r = c.lowBits r := by
  rw [chip_step h hw, field_update, if_pos (show SameByte r r from rfl),
    BitField.get_insert_self h.fits]
  have hdvd : 2 ^ r.leng.toNat ∣ 2 ^ 8 := Nat.pow_dvd_pow 2 (by have := h.fits; omega)
  exact Nat.mod_mod_of_dvd _ hdvd

/-- **Another register keeps what it holds, or is cleared.** -/
theorem field_step_of_ne (h : Writes t c r) (hw : c.port.writeOk = true) {i : ℕ} {r' : LgwReg}
    (hi : t.loregs[i]? = some r') (hne : i ≠ c.registerId.toNat) :
    field (t.step s c).chip r'
      = if SameByte r r' ∧ ¬ r.IsByte ∧ c.port.readOk = false then 0 else field s.chip r' := by
  have hapart : Apart r r' := t.apart_of_ne (Ne.symm hne) h.reg hi
  rw [chip_step h hw, field_update]
  by_cases hbyte : SameByte r r'
  · rw [if_pos hbyte, BitField.get_insert_of_apart (hapart hbyte), oldByte]
    by_cases hold : r.IsByte ∨ c.port.readOk = true
    · have hkeep : ¬ (SameByte r r' ∧ ¬ r.IsByte ∧ c.port.readOk = false) := by
        rintro ⟨-, hnot, hread⟩
        rcases hold with hold | hold
        · exact hnot hold
        · exact Bool.false_ne_true (hread.symm.trans hold)
      rw [if_pos hold, if_neg hkeep, field, show frameAddr r'.addr = frameAddr r.addr from
        Eq.symm hbyte]
    · obtain ⟨hnot, hread⟩ := not_or.mp hold
      rw [if_neg hold, if_pos ⟨hbyte, hnot, Bool.eq_false_iff.mpr hread⟩]
      exact BitField.get_zero _ _
  · rw [if_neg hbyte, if_neg fun hall => hbyte hall.1]

/-- A call adds to what the register it is of may hold, and to nothing else. -/
theorem mayHold_append {i : ℕ} {v : ℕ} : MayHold chip₀ (s.calls ++ [c]) i r v ↔
    MayHold chip₀ s.calls i r v ∨ c.registerId.toNat = i ∧ v = c.lowBits r := by
  unfold MayHold
  constructor
  · rintro (hv | ⟨c', hc', hid, hv⟩)
    · exact .inl (.inl hv)
    · rcases List.mem_append.mp hc' with hc' | hc'
      · exact .inl (.inr ⟨c', hc', hid, hv⟩)
      · obtain rfl := List.mem_singleton.mp hc'
        exact .inr ⟨hid, hv⟩
  · rintro ((hv | ⟨c', hc', hid, hv⟩) | ⟨hid, hv⟩)
    · exact .inl hv
    · exact .inr ⟨c', List.mem_append_left _ hc', hid, hv⟩
    · exact .inr ⟨c, List.mem_append_right _ (List.mem_singleton.mpr rfl), hid, hv⟩

/-- **One call**: the registers still hold what they may exactly when the call does no
harm. -/
theorem fieldsHeld_step_iff (hs : FieldsHeld t chip₀ s) :
    FieldsHeld t chip₀ (t.step s c) ↔ Harmless t chip₀ s c := by
  by_cases hwrite : c.port.writeOk = true ∧ ∃ r, Writes t c r
  · obtain ⟨hw, r, hr⟩ := hwrite
    constructor
    · intro hheld r' hr'
      obtain rfl : r = r' := Option.some_inj.mp (hr.reg.symm.trans hr'.reg)
      by_cases hkeep : r.IsByte ∨ c.port.readOk = true
      · rcases hkeep with hkeep | hkeep
        · exact .inl hkeep
        · exact .inr (.inl hkeep)
      · obtain ⟨hbyte, hread⟩ := not_or.mp hkeep
        -- the neighbours are cleared, so they hold what they may only if zero is that
        refine .inr (.inr (.inr fun i r' hne hi hsame => ?_))
        have hmay := hheld i r' hi
        rw [field_step_of_ne hr hw hi hne,
          if_pos ⟨hsame, hbyte, Bool.eq_false_iff.mpr hread⟩] at hmay
        rcases mayHold_append.mp hmay with hmay | ⟨hid, -⟩
        · exact hmay
        · exact absurd hid.symm hne
    · intro hok i r' hi
      refine mayHold_append.mpr ?_
      by_cases hid : i = c.registerId.toNat
      · subst hid
        obtain rfl : r = r' := Option.some_inj.mp (hr.reg.symm.trans hi)
        exact .inr ⟨rfl, field_step_self hr hw⟩
      · left
        rw [field_step_of_ne hr hw hi hid]
        split_ifs with hclear
        · obtain ⟨hsame, hbyte, hread⟩ := hclear
          rcases hok r hr with h | h | h | h
          · exact absurd h hbyte
          · exact absurd (hread.symm.trans h) Bool.false_ne_true
          · exact absurd (h.symm.trans hw) Bool.false_ne_true
          · exact h i r' hid hi hsame
        · exact hs i r' hi
  · have hchip : (t.step s c).chip = s.chip :=
      chip_step_of_not fun hw r hr => hwrite ⟨hw, r, hr⟩
    refine iff_of_true (fun i r hi => ?_) fun r hr => ?_
    · rw [hchip]
      exact mayHold_append.mpr (.inl (hs i r hi))
    · have hw : c.port.writeOk = false := Bool.eq_false_iff.mpr fun hw => hwrite ⟨hw, r, hr⟩
      exact .inr (.inr (.inl hw))

end Call

/-! ## Whole runs -/

/-- **The registers hold what they may all along exactly when every call does no harm.** -/
theorem always_fieldsHeld_iff (t : RegTable) (chip₀ : ChipMem) (calls : List RegCall) :
    Run.Always t.step (FieldsHeld t chip₀) ⟨chip₀, []⟩ calls
      ↔ Run.Guarded t.step (Harmless t chip₀) ⟨chip₀, []⟩ calls :=
  Run.always_iff_guarded (P := FieldsHeld t chip₀) (fun _ h => h)
    (fun _ _ hs => fieldsHeld_step_iff hs) (fun _ _ hs hok => (fieldsHeld_step_iff hs).mpr hok)
    fun _ _ _ => .inl rfl

/-- The first registers of the table: a page of two bits, and five switches that are in one
byte. -/
def commonRegs : RegTable where
  loregs := [⟨0x5600, 0, 2, false⟩, ⟨0x5601, 4, 1, false⟩, ⟨0x5601, 3, 1, false⟩,
    ⟨0x5601, 2, 1, false⟩, ⟨0x5601, 1, 1, false⟩, ⟨0x5601, 0, 1, false⟩]
  apart := by decide

/-- The switches as they are after a reset. -/
def commonChip : ChipMem := fun _ => 0x0B

/-- **A failed read clears the neighbours**: `CLK32_RIF_CTRL` is written, and the host has lost
the control of the radios, which nothing wrote to. -/
theorem not_fieldsHeld_of_read_failed :
    ¬ Run.Always commonRegs.step (FieldsHeld commonRegs commonChip) ⟨commonChip, []⟩
      [⟨1, 1, ⟨false, true⟩⟩] := by
  rintro ⟨-, hheld⟩
  rcases hheld 2 ⟨0x5601, 3, 1, false⟩ rfl with hv | ⟨c, hc, hid, -⟩
  · exact absurd hv (by decide)
  · obtain rfl := List.mem_singleton.mp hc
    exact absurd hid (by decide)

end SpiReg
