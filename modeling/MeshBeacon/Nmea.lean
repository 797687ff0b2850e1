import MeshBeacon.DuckUtils
import MeshBeacon.Ubx
import Mathlib.Data.List.GetD

/-!
# Parsing an NMEA sentence

A sentence is a line that begins with a dollar sign and has a checksum before its end, in
two hexadecimal digits behind an asterisk. `lgw_parse_nmea` checks it, and takes the
time from one kind of sentence and the position from another. The position is left
out here: nothing that is modelled reads it.

A line of fewer than eight bytes is not looked at: it is too short to be a sentence,
even if its checksum is right.
-/

namespace Gps

open DuckUtils

/-! ## The parser -/

/-- The loop of `nmea_checksum`: the index behind the asterisk, and the checksum of what is
before it. -/
def checksumLoop : List UInt8 → UInt8 → ℕ → Option (ℕ × UInt8)
  | [], _, _ => none
  | c :: rest, checkNum, i =>
    if c = 0x2A then some (i + 1, checkNum) else checksumLoop rest (checkNum ^^^ c) (i + 1)

/-- `nibble_to_hexchar`. -/
def nibbleToHexchar (a : UInt8) : UInt8 :=
  if a < 10 then 0x30 + a else if a < 16 then 0x41 + (a - 10) else 0x3F

/-- `nmea_checksum`: the index behind the asterisk, and the two digits. -/
def nmeaChecksum (nmeaString : List UInt8) : Option (ℕ × UInt8 × UInt8) :=
  if nmeaString.length ≤ 1 then none
  else
    let found :=
      if nmeaString.head? = some 0x24 then checksumLoop nmeaString.tail 0 1
      else checksumLoop nmeaString 0 0
    found.map fun (i, checkNum) =>
      (i, nibbleToHexchar (checkNum / 16), nibbleToHexchar (checkNum % 16))

/-- `validate_nmea_checksum`. -/
def validateNmeaChecksum (serialBuff : List UInt8) : Bool :=
  match nmeaChecksum serialBuff with
  | none => false
  | some (checksumIndex, upper, lower) =>
    if serialBuff.length ≤ checksumIndex + 2 then false
    else serialBuff.getD checksumIndex 0 = upper && serialBuff.getD (checksumIndex + 1) 0 = lower

/-- `match_label`. -/
def matchLabel (s label : List UInt8) (wildcard : UInt8) : Bool :=
  (label.zipIdx.all fun (c, i) => c = wildcard || c = s.getD i 0)

/-- `str_chop`: the strings between the separators, as many as there is room for. The last
byte is replaced by a zero. -/
def strChop (s : List UInt8) (separator : UInt8) (maxIdx : ℕ) : List (List UInt8) :=
  if s = [] then []
  else ((s.dropLast.takeWhile (· ≠ 0)).splitOn separator).take maxIdx

/-- What the standard library makes of the fields: whether all conversions of the time and
of the date succeed. -/
structure Scanner where
  time : List UInt8 → Bool
  date : List UInt8 → Bool

/-- `lgw_parse_nmea`, and the GPS time after it. -/
def lgwParseNmea (scanner : Scanner) (serialBuff : List UInt8) (time : GpsTime) :
    GpsMsg × GpsTime :=
  if 255 < serialBuff.length then (.invalid, time)
  else if serialBuff.length < 8 then (.unknown, time)
  else if !validateNmeaChecksum serialBuff then (.invalid, time)
  else if matchLabel serialBuff (ascii "$G?RMC") 0x3F then
    let fields := strChop serialBuff 0x2C 30
    if fields.length ≠ 13 then (.ignored, time)
    else
      let gpsMod := (fields.getD 12 []).headD 0
      let converted := scanner.time (fields.getD 1 []) && scanner.date (fields.getD 9 [])
      -- a mode that is not known counts as no fix
      (.nmeaRmc, { time with gpsTimeOk := converted && (gpsMod = 0x41 || gpsMod = 0x44) })
  else if matchLabel serialBuff (ascii "$G?GGA") 0x3F then
    if (strChop serialBuff 0x2C 30).length ≠ 15 then (.ignored, time) else (.nmeaGga, time)
  else (.ignored, time)

/-! ## Sentences -/

/-- **An NMEA sentence**: a text, its checksum, and the rest of the line. -/
structure NmeaSentence where
  text : List UInt8
  ending : List UInt8
  text_ne : ∀ c ∈ text, c ≠ 0x2A ∧ c ≠ 0x0A
  ending_ne : ∀ c ∈ ending, c ≠ 0x0A

namespace NmeaSentence

/-- The checksum of the text. -/
def checkNum (s : NmeaSentence) : UInt8 := s.text.foldl (· ^^^ ·) 0

/-- What is between the dollar sign and the end of the line. -/
def inner (s : NmeaSentence) : List UInt8 :=
  s.text ++ 0x2A :: nibbleToHexchar (s.checkNum / 16) :: nibbleToHexchar (s.checkNum % 16)
    :: s.ending

/-- The bytes of a sentence. -/
def bytes (s : NmeaSentence) : List UInt8 := 0x24 :: (s.inner ++ [0x0A])

end NmeaSentence

theorem nibbleToHexchar_ne (a : UInt8) : nibbleToHexchar a ≠ 0x0A := by
  have hall : ∀ n < 256, nibbleToHexchar (UInt8.ofNat n) ≠ 0x0A := by decide +kernel
  have ha := hall a.toNat a.toNat_lt
  rwa [UInt8.ofNat_toNat] at ha

theorem NmeaSentence.inner_ne (s : NmeaSentence) : ∀ c ∈ s.inner, c ≠ 0x0A := by
  intro c hc
  obtain htext | hrest := List.mem_append.mp hc
  · exact (s.text_ne c htext).2
  · obtain rfl | hrest := List.mem_cons.mp hrest
    · decide
    · obtain rfl | hrest := List.mem_cons.mp hrest
      · exact nibbleToHexchar_ne _
      · obtain rfl | hrest := List.mem_cons.mp hrest
        · exact nibbleToHexchar_ne _
        · exact s.ending_ne c hrest

theorem checksumLoop_append {text : List UInt8} (h : ∀ c ∈ text, c ≠ 0x2A) (rest : List UInt8)
    (checkNum : UInt8) (i : ℕ) :
    checksumLoop (text ++ 0x2A :: rest) checkNum i
      = some (i + text.length + 1, text.foldl (· ^^^ ·) checkNum) := by
  induction text generalizing checkNum i with
  | nil => exact if_pos rfl
  | cons c text ih =>
    rw [List.cons_append, checksumLoop, if_neg (h c List.mem_cons_self),
      ih fun b hb => h b (List.mem_cons_of_mem c hb), List.length_cons, List.foldl_cons,
      Nat.add_right_comm i 1, Nat.add_assoc i]

/-- **The checksum of a sentence is right.** -/
theorem validateNmeaChecksum_bytes (s : NmeaSentence) : validateNmeaChecksum s.bytes := by
  have hloop : nmeaChecksum s.bytes = some (1 + s.text.length + 1,
      nibbleToHexchar (s.checkNum / 16), nibbleToHexchar (s.checkNum % 16)) := by
    unfold nmeaChecksum NmeaSentence.bytes NmeaSentence.inner
    rw [if_neg (by simp), List.head?_cons, List.tail_cons, List.append_assoc, List.cons_append,
      if_pos rfl, checksumLoop_append fun c hc => (s.text_ne c hc).1]
    rfl
  have hsplit : s.bytes = (0x24 :: (s.text ++ [0x2A]))
      ++ nibbleToHexchar (s.checkNum / 16) :: nibbleToHexchar (s.checkNum % 16)
        :: (s.ending ++ [0x0A]) := by
    unfold NmeaSentence.bytes NmeaSentence.inner
    simp only [List.cons_append, List.append_assoc, List.nil_append]
  have hindex : (0x24 :: (s.text ++ [0x2A])).length = 1 + s.text.length + 1 := by
    rw [List.length_cons, List.length_append, List.length_singleton]
    omega
  have hlen : 1 + s.text.length + 1 + 2 < s.bytes.length := by
    rw [hsplit, List.length_append, hindex]
    simp only [List.length_cons, List.length_append, List.length_nil]
    omega
  unfold validateNmeaChecksum
  rw [hloop]
  dsimp only
  rw [if_neg (Nat.not_le.mpr hlen), hsplit, ← hindex,
    List.getD_append_right _ _ _ _ (Nat.le_refl _),
    List.getD_append_right _ _ _ _ (Nat.le_add_right _ _), Nat.sub_self, Nat.add_sub_cancel_left]
  simp only [List.getD_cons_zero, List.getD_cons_succ, decide_true, Bool.and_self]

/-- **A sentence is taken**, unless it is too short. -/
theorem lgwParseNmea_bytes (scanner : Scanner) (s : NmeaSentence) (hmin : 8 ≤ s.bytes.length)
    (hmax : s.bytes.length ≤ 255) (time : GpsTime) :
    (lgwParseNmea scanner s.bytes time).1 ≠ .unknown
      ∧ (lgwParseNmea scanner s.bytes time).1 ≠ .invalid := by
  unfold lgwParseNmea
  rw [if_neg (by omega), if_neg (by omega), if_neg (by rw [validateNmeaChecksum_bytes]; decide)]
  dsimp only
  split_ifs <;> exact ⟨nofun, nofun⟩

end Gps
