import Mathlib.Data.List.Basic
import Mathlib.Tactic.Common

/-!
# Device identifiers and strings

A duck is identified by eight bytes. Tables are keyed by a string made of them,
which `duckutils::toString` only makes of printable characters: of any other
identifier it makes the text of an error. A `std::string` is a list of bytes
here.
-/

/-- `Duid`. -/
abbrev Duid := Vector UInt8 8

namespace DuckUtils

/-- `std::isprint`, in the C locale. -/
def isprint (c : UInt8) : Bool := 0x20 ≤ c && c ≤ 0x7E

/-- The bytes of an ASCII text. -/
def ascii (text : String) : List UInt8 := text.toList.map fun c => UInt8.ofNat c.toNat

/-- `duckutils::toString` of a container: the text of an error when there is a
character that is not printable. -/
def toString (arr : List UInt8) : List UInt8 :=
  if arr.all isprint then arr else ascii "ERROR: Non-printable character"

/-- The digits of `arrayToHexString`. -/
def hexDigits : List UInt8 := ascii "0123456789ABCDEF"

/-- `duckutils::arrayToHexString`. -/
def arrayToHexString (arr : Duid) : List UInt8 :=
  arr.toList.flatMap fun val =>
    [hexDigits.getD (val.toNat / 16) 0, hexDigits.getD (val.toNat % 16) 0]

/-- The value of a hexadecimal digit. -/
def hexDigit (c : UInt8) : Option ℕ :=
  if 0x30 ≤ c && c ≤ 0x39 then some (c.toNat - 0x30)
  else if 0x41 ≤ c && c ≤ 0x46 then some (c.toNat - 0x41 + 10)
  else if 0x61 ≤ c && c ≤ 0x66 then some (c.toNat - 0x61 + 10)
  else none

/-- The bytes of a hexadecimal text, at most so many, up to the first pair that
is not two digits. -/
def hexBytes : ℕ → List UInt8 → List UInt8
  | n + 1, hi :: lo :: hex =>
    match hexDigit hi, hexDigit lo with
    | some hi, some lo => UInt8.ofNat (hi * 16 + lo) :: hexBytes n hex
    | _, _ => []
  | _, _ => []

/-- `duckutils::hexStringToArray`: what the text does not give is zero. -/
def hexStringToArray (hex : List UInt8) : Duid :=
  Vector.ofFn fun i => (hexBytes 8 hex).getD i.val 0

/-- `duckutils::getRandomBytes`, of the values of `random` from one on: digits and
capital letters. -/
def getRandomBytes (length : ℕ) (random : ℕ → ℕ) (k : ℕ) : Vector UInt8 length :=
  Vector.ofFn fun i =>
    (ascii "0123456789ABCDEFGHIJKLMNOPQRSTUVWXYZ").getD (random (k + i.val) % 36) 0

/-! ## Identifiers in hexadecimal -/

/-- A digit is read as what it was written for. -/
theorem hexDigit_getD {k : ℕ} (hk : k < 16) : hexDigit (hexDigits.getD k 0) = some k := by
  revert k
  decide

/-- The digits of bytes are read as the bytes. -/
theorem hexBytes_flatMap {n : ℕ} {bytes : List UInt8} (hle : bytes.length ≤ n) :
    hexBytes n (bytes.flatMap fun val =>
      [hexDigits.getD (val.toNat / 16) 0, hexDigits.getD (val.toNat % 16) 0]) = bytes := by
  induction bytes generalizing n with
  | nil => cases n <;> rfl
  | cons val bytes ih =>
    have hval := val.toNat_lt
    cases n with
    | zero => exact absurd hle (Nat.not_succ_le_zero _)
    | succ n =>
      show hexBytes (n + 1) (_ :: _ :: List.flatMap _ bytes) = _
      rw [hexBytes, hexDigit_getD (by omega), hexDigit_getD (by omega)]
      dsimp only
      rw [ih (Nat.le_of_succ_le_succ hle), Nat.div_add_mod' val.toNat 16, UInt8.ofNat_toNat]

/-- **An identifier is read back from its hexadecimal digits.** -/
theorem hexStringToArray_arrayToHexString (arr : Duid) :
    hexStringToArray (arrayToHexString arr) = arr := by
  unfold hexStringToArray arrayToHexString
  rw [hexBytes_flatMap (Nat.le_of_eq Vector.length_toList)]
  refine Vector.ext fun i hi => ?_
  rw [Vector.getElem_ofFn]
  simp [hi]

end DuckUtils

namespace Duid

/-- The key of a device in a table. -/
def key (d : Duid) : List UInt8 := DuckUtils.toString d.toList

/-- All characters are printable. -/
def Printable (d : Duid) : Prop := d.toList.all DuckUtils.isprint

instance (d : Duid) : Decidable d.Printable := inferInstanceAs (Decidable (_ = true))

/-- The key of a printable identifier is its bytes. -/
theorem key_of_printable {d : Duid} (h : d.Printable) : d.key = d.toList := if_pos h

/-- **A printable identifier shares its key with no other identifier**, printable
or not: the text of the error is longer than an identifier. -/
theorem key_inj {d e : Duid} (hd : d.Printable) : e.key = d.key ↔ e = d := by
  refine ⟨fun h => ?_, fun h => h ▸ rfl⟩
  rw [key_of_printable hd] at h
  by_cases he : e.Printable
  · rw [key_of_printable he] at h
    exact Vector.toList_inj.mp h
  · have herror : e.key = DuckUtils.ascii "ERROR: Non-printable character" := if_neg he
    have hlen := congrArg List.length (herror.symm.trans h)
    rw [Vector.length_toList] at hlen
    exact absurd hlen (by decide)

end Duid
