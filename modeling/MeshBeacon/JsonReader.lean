import Mathlib.Data.List.Induction
import Mathlib.Order.Nat
import Mathlib.Tactic.Common
import Mathlib.Tactic.IntervalCases

/-!
# Reading a JSON object

A text is read byte by byte, by a reader that keeps what is open around it and the
characters of the string it is in. It accepts a text that is a JSON object, and tells
the value of one of its members, if that is a string: the last one of that name.

That the bytes are UTF-8 is a condition of its own, since the reader takes whatever
is not a control character, a quote or a backslash to be part of a string.
-/

namespace Json

/-! ## UTF-8 -/

/-- **The bytes are UTF-8**: the encoding of a list of characters. -/
def IsUtf8 (bytes : List UInt8) : Prop := ∃ cs : List Char, cs.flatMap String.utf8EncodeChar = bytes

/-- The bytes of a longer encoding are neither ASCII nor the greatest ones. -/
theorem ofNat_range {v k m : ℕ} (hk : 0 < k) (hlow : 0x80 ≤ m) (hhigh : k + m ≤ 0xF8) :
    0x80 ≤ UInt8.ofNat (v % k + m) ∧ UInt8.ofNat (v % k + m) < 0xF8 := by
  have hlt := Nat.mod_lt v hk
  rw [UInt8.le_iff_toNat_le, UInt8.lt_iff_toNat_lt, UInt8.toNat_ofNat',
    Nat.mod_eq_of_lt (by omega)]
  exact ⟨Nat.le_add_left_of_le hlow, show v % k + m < 0xF8 by omega⟩

/-- **A character is a byte of ASCII, or bytes that are not.** -/
theorem utf8EncodeChar_cases (c : Char) : (∃ b < 0x80, String.utf8EncodeChar c = [b])
    ∨ ∀ b ∈ String.utf8EncodeChar c, 0x80 ≤ b ∧ b < 0xF8 := by
  unfold String.utf8EncodeChar
  dsimp only
  split_ifs with hone
  · refine Or.inl ⟨_, ?_, rfl⟩
    rw [UInt8.lt_iff_toNat_lt, UInt8.toNat_ofNat', Nat.mod_eq_of_lt (by omega)]
    exact Nat.lt_succ_of_le hone
  all_goals
    refine Or.inr fun b hb => ?_
    simp only [List.mem_cons, List.not_mem_nil, or_false] at hb
    rcases hb with rfl | rfl | rfl | rfl <;> exact ofNat_range (by decide) (by decide) (by decide)

theorem IsUtf8.append {a b : List UInt8} (ha : IsUtf8 a) (hb : IsUtf8 b) : IsUtf8 (a ++ b) := by
  obtain ⟨cs, rfl⟩ := ha
  obtain ⟨ds, rfl⟩ := hb
  exact ⟨cs ++ ds, List.flatMap_append⟩

/-- **The bytes are ASCII.** -/
def IsAscii (bytes : List UInt8) : Prop := ∀ x ∈ bytes, x < 0x80

instance (bytes : List UInt8) : Decidable (IsAscii bytes) :=
  inferInstanceAs (Decidable (∀ x ∈ bytes, x < 0x80))

theorem IsAscii.append {a b : List UInt8} (ha : IsAscii a) (hb : IsAscii b) : IsAscii (a ++ b) :=
  List.forall_mem_append.mpr ⟨ha, hb⟩

/-- A byte that no character has is not in UTF-8. -/
theorem IsUtf8.lt {bytes : List UInt8} (h : IsUtf8 bytes) {b : UInt8} (hb : b ∈ bytes) :
    b < 0xF8 := by
  obtain ⟨cs, rfl⟩ := h
  obtain ⟨c, -, hmem⟩ := List.mem_flatMap.mp hb
  obtain ⟨x, hx, henc⟩ | hlong := utf8EncodeChar_cases c
  · rw [henc] at hmem
    cases List.mem_singleton.mp hmem
    exact UInt8.lt_trans hx (by decide)
  · exact (hlong b hmem).2

/-- The character `"`. -/
def quote : UInt8 := 0x22

/-- The character `\`. -/
def backslash : UInt8 := 0x5C

/-- The character `,`. -/
def comma : UInt8 := 0x2C

/-- The character `:`. -/
def colon : UInt8 := 0x3A

/-- White space: blank, tab, line feed and carriage return. -/
def isSpace (c : UInt8) : Bool := c = 0x20 || c = 0x09 || c = 0x0A || c = 0x0D

/-- A decimal digit. -/
def isDigit (c : UInt8) : Bool := 0x30 ≤ c && c ≤ 0x39

/-- The value of a hexadecimal digit. -/
def hexValue (c : UInt8) : Option ℕ :=
  if isDigit c then some (c.toNat - 0x30)
  else if 0x41 ≤ c ∧ c ≤ 0x46 then some (c.toNat - 0x41 + 10)
  else if 0x61 ≤ c ∧ c ≤ 0x66 then some (c.toNat - 0x61 + 10)
  else none

/-- What a character stands for after a backslash, but for `u`. -/
def escaped (c : UInt8) : Option UInt8 :=
  if c = quote ∨ c = backslash ∨ c = 0x2F then some c
  else if c = 0x62 then some 0x08
  else if c = 0x66 then some 0x0C
  else if c = 0x6E then some 0x0A
  else if c = 0x72 then some 0x0D
  else if c = 0x74 then some 0x09
  else none

/-- **A character that stands for itself in a string**: no control character, quote or
backslash. -/
def isPlain (c : UInt8) : Bool := 0x20 ≤ c && c ≠ quote && c ≠ backslash

/-- A part of a string: a byte, or a unit of UTF-16 that was given by its number. -/
inductive Part
  | byte (b : UInt8)
  | unit (value : ℕ)
deriving DecidableEq

/-- The encoding of a unit: what is half of a pair alone is replaced. -/
def encodeUnit (value : ℕ) : List UInt8 :=
  String.utf8EncodeChar (if value.isValidChar then Char.ofNat value else Char.ofNat 0xFFFD)

/-- The encoding of a pair of units. -/
def encodePair (high low : ℕ) : List UInt8 :=
  String.utf8EncodeChar (Char.ofNat (0x10000 + (high - 0xD800) * 0x400 + (low - 0xDC00)))

/-- **The value of a string**, in UTF-8. -/
def decode : List Part → List UInt8
  | .byte b :: parts => b :: decode parts
  | .unit high :: .unit low :: parts =>
    if (0xD800 ≤ high ∧ high < 0xDC00) ∧ (0xDC00 ≤ low ∧ low < 0xE000) then
      encodePair high low ++ decode parts
    else encodeUnit high ++ decode (.unit low :: parts)
  | .unit value :: parts => encodeUnit value ++ decode parts
  | [] => []

/-- A part is given by so many characters at least, less one if there is a backslash. -/
def Part.weight : Part → ℕ
  | byte _ => 1
  | unit _ => 5

/-- The weight of a string. -/
def weight (text : List Part) : ℕ := (text.map Part.weight).sum

/-- A character has no more bytes than a unit weighs. -/
theorem length_utf8EncodeChar_le (c : Char) : (String.utf8EncodeChar c).length ≤ 5 := by
  rw [String.length_utf8EncodeChar]
  exact Nat.le_succ_of_le c.utf8Size_le_four

/-- The weight of a string with a part before it. -/
theorem weight_cons (part : Part) (text : List Part) :
    weight (part :: text) = part.weight + weight text := by
  unfold weight
  rw [List.map_cons, List.sum_cons]

/-- The weight of a string with a part after it. -/
theorem weight_concat (text : List Part) (part : Part) :
    weight (text ++ [part]) = weight text + part.weight := by
  unfold weight
  rw [List.map_append, List.sum_append, List.map_singleton, List.sum_singleton]

/-- **The value of a string is not longer than its weight.** -/
theorem length_decode_le (text : List Part) : (decode text).length ≤ weight text := by
  fun_induction decode text with
  | case1 b parts ih =>
    rw [weight_cons, List.length_cons, Nat.add_comm]
    exact Nat.add_le_add_left ih 1
  | case2 high low parts hpair ih =>
    rw [weight_cons, weight_cons, List.length_append]
    exact Nat.add_le_add (length_utf8EncodeChar_le _) (Nat.le_add_left_of_le ih)
  | case3 high low parts hpair ih =>
    rw [weight_cons, List.length_append]
    exact Nat.add_le_add (length_utf8EncodeChar_le _) ih
  | case4 value parts hnext ih =>
    rw [weight_cons, List.length_append]
    exact Nat.add_le_add (length_utf8EncodeChar_le _) ih
  | case5 => exact Nat.zero_le _

/-! ## The reader -/

/-- What a text can be inside of. -/
inductive Container
  | object
  | array
deriving DecidableEq

/-- How far a number has been read. -/
inductive NumberPart
  | minus
  | zero
  | int
  | point
  | fraction
  | exponent
  | sign
  | power
deriving DecidableEq

/-- A number may end here. -/
def NumberPart.complete : NumberPart → Bool
  | zero | int | fraction | power => true
  | _ => false

/-- The first character of a number. -/
def NumberPart.first (c : UInt8) : Option NumberPart :=
  if c = 0x2D then some minus
  else if c = 0x30 then some zero
  else if isDigit c then some int
  else none

/-- The next character of a number, if it goes on. -/
def NumberPart.next (part : NumberPart) (c : UInt8) : Option NumberPart :=
  match part with
  | minus => if c = 0x30 then some zero else if isDigit c then some int else none
  | zero => if c = 0x2E then some point else if c = 0x65 ∨ c = 0x45 then some exponent else none
  | int =>
    if isDigit c then some int
    else if c = 0x2E then some point
    else if c = 0x65 ∨ c = 0x45 then some exponent
    else none
  | point => if isDigit c then some fraction else none
  | fraction =>
    if isDigit c then some fraction
    else if c = 0x65 ∨ c = 0x45 then some exponent
    else none
  | exponent =>
    if isDigit c then some power else if c = 0x2B ∨ c = 0x2D then some sign else none
  | sign | power => if isDigit c then some power else none

/-- The words of JSON. -/
inductive Word
  | true
  | false
  | null
deriving DecidableEq

/-- The characters of a word. -/
def Word.letters : Word → List UInt8
  | true => [0x74, 0x72, 0x75, 0x65]
  | false => [0x66, 0x61, 0x6C, 0x73, 0x65]
  | null => [0x6E, 0x75, 0x6C, 0x6C]

/-- The first character of a word. -/
def Word.first (c : UInt8) : Option Word :=
  if c = 0x74 then some true
  else if c = 0x66 then some false
  else if c = 0x6E then some null
  else none

/-- What is expected next. A container that has just been opened may be closed, and a
string is the name of a member or not. -/
inductive Mode
  | start
  | value (closable : Bool)
  | name (closable : Bool)
  | colon
  | afterValue
  | string (isName : Bool)
  | escape (isName : Bool)
  | unit (isName : Bool) (left value : ℕ)
  | number (part : NumberPart)
  | word (w : Word) (position : ℕ)
deriving DecidableEq

/-- **The reader.** -/
structure Reader where
  mode : Mode
  /-- What is open, the innermost first. -/
  stack : List Container
  /-- The string that is being read, from its beginning on. -/
  text : List Part
  /-- The last name of a member of the outermost object. -/
  name : List UInt8
  /-- The value of the member that is wanted, if it has been given a string last. -/
  member : Option (List UInt8)
deriving DecidableEq

namespace Reader

/-- The reader before a text. -/
def start : Reader := ⟨.start, [], [], [], none⟩

/-- After a value. -/
def stepAfterValue (c : UInt8) (r : Reader) : Option Reader :=
  if isSpace c then some { r with mode := .afterValue }
  else
    match r.stack with
    | .object :: stack =>
      if c = comma then some { r with mode := .name false }
      else if c = 0x7D then some { r with mode := .afterValue, stack := stack }
      else none
    | .array :: stack =>
      if c = comma then some { r with mode := .value false }
      else if c = 0x5D then some { r with mode := .afterValue, stack := stack }
      else none
    | [] => none

/-- A string begins. -/
def openString (isName : Bool) (r : Reader) : Reader :=
  { r with mode := .string isName, text := [] }

/-- Where a value is expected. -/
def stepValue (closable : Bool) (c : UInt8) (r : Reader) : Option Reader :=
  if isSpace c then some r
  else if c = quote then some (r.openString false)
  else if c = 0x7B then some { r with mode := .name true, stack := .object :: r.stack }
  else if c = 0x5B then some { r with mode := .value true, stack := .array :: r.stack }
  -- an array that has just been opened is empty
  else if c = 0x5D ∧ closable then some { r with mode := .afterValue, stack := r.stack.tail }
  else
    match NumberPart.first c, Word.first c with
    | some part, _ => some { r with mode := .number part }
    | none, some w => some { r with mode := .word w 1 }
    | none, none => none

/-- Where the name of a member is expected. -/
def stepName (closable : Bool) (c : UInt8) (r : Reader) : Option Reader :=
  if isSpace c then some r
  else if c = quote then some (r.openString true)
  else if c = 0x7D ∧ closable then some { r with mode := .afterValue, stack := r.stack.tail }
  else none

/-- A part of a string has been read. -/
def add (isName : Bool) (part : Part) (r : Reader) : Reader :=
  { r with mode := .string isName, text := r.text ++ [part] }

variable (wanted : List UInt8)

/-- The name of a member ends. What the member has been before is forgotten. -/
def closeName (r : Reader) : Reader :=
  { r with
    mode := .colon
    text := []
    name := if r.stack.length = 1 then decode r.text else r.name
    member := if r.stack.length = 1 ∧ decode r.text = wanted then none else r.member }

/-- A string that is a value ends. -/
def closeValue (r : Reader) : Reader :=
  { r with
    mode := .afterValue
    text := []
    member := if r.stack.length = 1 ∧ r.name = wanted then some (decode r.text) else r.member }

/-- In a string. -/
def stepString (isName : Bool) (c : UInt8) (r : Reader) : Option Reader :=
  if c = quote then some (if isName then r.closeName wanted else r.closeValue wanted)
  else if c = backslash then some { r with mode := .escape isName }
  else if isPlain c then some (r.add isName (.byte c))
  else none

/-- After a backslash in a string. -/
def stepEscape (isName : Bool) (c : UInt8) (r : Reader) : Option Reader :=
  if c = 0x75 then some { r with mode := .unit isName 4 0 }
  else (escaped c).map fun b => r.add isName (.byte b)

/-- In the number of a unit, of which so many digits are left. -/
def stepUnit (isName : Bool) (left value : ℕ) (c : UInt8) (r : Reader) : Option Reader :=
  (hexValue c).map fun digit =>
    if left ≤ 1 then r.add isName (.unit (value * 16 + digit))
    else { r with mode := .unit isName (left - 1) (value * 16 + digit) }

/-- In a number. -/
def stepNumber (part : NumberPart) (c : UInt8) (r : Reader) : Option Reader :=
  match part.next c with
  | some part => some { r with mode := .number part }
  -- a number ends where it does not go on, and the character is read once more
  | none => if part.complete then r.stepAfterValue c else none

/-- In a word. -/
def stepWord (w : Word) (position : ℕ) (c : UInt8) (r : Reader) : Option Reader :=
  if w.letters[position]? = some c then
    if position + 1 = w.letters.length then some { r with mode := .afterValue }
    else some { r with mode := .word w (position + 1) }
  else none

/-- **One byte**: the reader after it, or none where no object goes on with it. -/
def step (r : Reader) (c : UInt8) : Option Reader :=
  match r.mode with
  | .start =>
    if isSpace c then some r
    else if c = 0x7B then some { r with mode := .name true, stack := [.object] }
    else none
  | .value closable => r.stepValue closable c
  | .name closable => r.stepName closable c
  | .colon =>
    if isSpace c then some r
    else if c = colon then some { r with mode := .value false }
    else none
  | .afterValue => r.stepAfterValue c
  | .string isName => r.stepString wanted isName c
  | .escape isName => r.stepEscape isName c
  | .unit isName left value => r.stepUnit isName left value c
  | .number part => r.stepNumber part c
  | .word w position => r.stepWord w position c

/-- The reader after a text. -/
def run : Reader → List UInt8 → Option Reader
  | r, [] => some r
  | r, c :: bytes => (r.step wanted c).bind fun r => run r bytes

end Reader

namespace Mode

/-- What a unit weighs that is being read. -/
def slack : Mode → ℕ
  | unit _ left _ => 5 - left
  | _ => 0

/-- How many bytes it takes at least to get here from within a string that is a value. -/
def distance : Mode → ℕ
  | start | value _ | afterValue | number _ | word _ _ => 1
  | name _ => 2
  | colon => 0
  | string isName | escape isName | unit isName _ _ => if isName then 3 else 0

end Mode

namespace Reader

variable {wanted : List UInt8}

/-- The weight of the string that is being read. -/
def size (r : Reader) : ℕ := weight r.text + r.mode.slack

/-- The weight of the string and the way to it. -/
def reach (r : Reader) : ℕ := r.size + r.mode.distance

/-- **The reader moves on**: it keeps what it knows of the members, and grows by a byte at
most. -/
structure Moves (r r' : Reader) : Prop where
  name : r'.name = r.name
  member : r'.member = r.member
  size : r'.size ≤ r.size + 1
  reach : r'.reach ≤ r.reach + 1

/-- It does when it keeps the string and is not far. -/
theorem moves_of_text {r r' : Reader} (hname : r'.name = r.name) (hmember : r'.member = r.member)
    (htext : r'.text = r.text) (hslack : r'.mode.slack ≤ r.mode.slack + 1)
    (hdistance : r'.mode.slack + r'.mode.distance ≤ r.mode.slack + r.mode.distance + 1) :
    Moves r r' := by
  refine ⟨hname, hmember, ?_, ?_⟩
  · unfold size
    rw [htext]
    omega
  · unfold reach size
    rw [htext]
    omega

/-- It does when it gets near the next name, from where it has left a value. -/
theorem moves_near {r : Reader} {mode : Mode} {stack : List Container} (hslack : mode.slack = 0)
    (hnear : mode.distance ≤ 2) (hfar : 1 ≤ r.mode.distance) :
    Moves r { r with mode := mode, stack := stack } := by
  refine moves_of_text rfl rfl rfl ?_ ?_
  · show mode.slack ≤ _
    omega
  · show mode.slack + mode.distance ≤ _
    omega

theorem moves_refl (r : Reader) : Moves r r :=
  ⟨rfl, rfl, Nat.le_succ _, Nat.le_succ _⟩

theorem moves_openString {isName : Bool} {r : Reader}
    (h : (if isName then 3 else 0) ≤ r.mode.distance + 1) : Moves r (r.openString isName) := by
  have hreach : (r.openString isName).reach = if isName then 3 else 0 := Nat.zero_add _
  refine ⟨rfl, rfl, Nat.zero_le _, ?_⟩
  rw [hreach]
  unfold reach
  omega

theorem moves_add {isName : Bool} {part : Part} {r : Reader}
    (hweight : part.weight ≤ r.mode.slack + 1)
    (hdistance : (if isName then 3 else 0) = r.mode.distance) : Moves r (r.add isName part) := by
  have hsize : (r.add isName part).size = weight r.text + part.weight := weight_concat r.text part
  refine ⟨rfl, rfl, ?_, ?_⟩
  · rw [hsize]
    unfold size
    omega
  · show (r.add isName part).size + (if isName then 3 else 0) ≤ r.reach + 1
    rw [hsize]
    unfold reach size
    omega

theorem moves_stepAfterValue {c : UInt8} {r r' : Reader} (h : r.stepAfterValue c = some r')
    (hfar : 1 ≤ r.mode.distance) : Moves r r' := by
  unfold stepAfterValue at h
  by_cases hspace : isSpace c
  · rw [if_pos hspace] at h
    cases h
    exact moves_near rfl (by decide) hfar
  · rw [if_neg hspace] at h
    split at h
    · split_ifs at h <;> cases h <;> exact moves_near rfl (by decide) hfar
    · split_ifs at h <;> cases h <;> exact moves_near rfl (by decide) hfar
    · cases h

theorem moves_stepValue {closable : Bool} {c : UInt8} {r r' : Reader}
    (h : r.stepValue closable c = some r') (hmode : r.mode = .value closable) : Moves r r' := by
  have hfar : 1 ≤ r.mode.distance := by rw [hmode]; exact Nat.le_refl 1
  unfold stepValue at h
  split_ifs at h
  · cases h
    exact moves_refl r
  · cases h
    exact moves_openString (Nat.zero_le _)
  · cases h
    exact moves_near rfl (by decide) hfar
  · cases h
    exact moves_near rfl (by decide) hfar
  · cases h
    exact moves_near rfl (by decide) hfar
  · split at h <;> cases h
    · exact moves_near rfl (show 1 ≤ 2 by decide) hfar
    · exact moves_near rfl (show 1 ≤ 2 by decide) hfar

theorem moves_stepName {closable : Bool} {c : UInt8} {r r' : Reader}
    (h : r.stepName closable c = some r') (hmode : r.mode = .name closable) : Moves r r' := by
  have hdistance : r.mode.distance = 2 := by rw [hmode]; rfl
  unfold stepName at h
  split_ifs at h <;> cases h
  · exact moves_refl r
  · exact moves_openString (by rw [hdistance]; decide)
  · exact moves_near rfl (by decide) (by rw [hdistance]; decide)

theorem moves_stepEscape {isName : Bool} {c : UInt8} {r r' : Reader}
    (h : r.stepEscape isName c = some r') (hmode : r.mode = .escape isName) : Moves r r' := by
  have hslack : r.mode.slack = 0 := by rw [hmode]; rfl
  have hdistance : r.mode.distance = if isName then 3 else 0 := by rw [hmode]; rfl
  unfold stepEscape at h
  split_ifs at h
  · cases h
    refine moves_of_text rfl rfl rfl ?_ ?_
    · exact Nat.le_add_left 1 _
    · rw [hdistance]
      show 1 + (if isName then 3 else 0) ≤ _
      omega
  · obtain ⟨b, -, rfl⟩ := Option.map_eq_some_iff.mp h
    exact moves_add (Nat.le_add_left 1 _) hdistance.symm

theorem moves_stepUnit {isName : Bool} {left value : ℕ} {c : UInt8} {r r' : Reader}
    (h : r.stepUnit isName left value c = some r') (hmode : r.mode = .unit isName left value) :
    Moves r r' := by
  have hslack : r.mode.slack = 5 - left := by rw [hmode]; rfl
  have hdistance : r.mode.distance = if isName then 3 else 0 := by rw [hmode]; rfl
  obtain ⟨digit, -, rfl⟩ := Option.map_eq_some_iff.mp h
  by_cases hleft : left ≤ 1
  · rw [if_pos hleft]
    exact moves_add (by show 5 ≤ _; omega) hdistance.symm
  · rw [if_neg hleft]
    refine moves_of_text rfl rfl rfl ?_ ?_
    · show 5 - (left - 1) ≤ _
      omega
    · rw [hdistance]
      show 5 - (left - 1) + (if isName then 3 else 0) ≤ _
      omega

theorem moves_stepNumber {part : NumberPart} {c : UInt8} {r r' : Reader}
    (h : r.stepNumber part c = some r') (hmode : r.mode = .number part) : Moves r r' := by
  have hdistance : r.mode.distance = 1 := by rw [hmode]; rfl
  unfold stepNumber at h
  split at h
  · cases h
    exact moves_near rfl (show 1 ≤ 2 by decide) (Nat.le_of_eq hdistance.symm)
  · split_ifs at h
    exact moves_stepAfterValue h (Nat.le_of_eq hdistance.symm)

theorem moves_stepWord {w : Word} {position : ℕ} {c : UInt8} {r r' : Reader}
    (h : r.stepWord w position c = some r') (hmode : r.mode = .word w position) : Moves r r' := by
  have hfar : 1 ≤ r.mode.distance := by rw [hmode]; exact Nat.le_refl 1
  unfold stepWord at h
  split_ifs at h <;> cases h
  · exact moves_near rfl (by decide) hfar
  · exact moves_near rfl (show 1 ≤ 2 by decide) hfar

/-- **What a step can do**: the reader moves on, or a quote ends a name or a string that is
a value. -/
theorem step_cases {c : UInt8} {r r' : Reader} (h : r.step wanted c = some r') :
    Moves r r' ∨ (c = quote ∧ r.mode = .string true ∧ r' = r.closeName wanted)
      ∨ (c = quote ∧ r.mode = .string false ∧ r' = r.closeValue wanted) := by
  unfold step at h
  cases hmode : r.mode with
  | start =>
    have hfar : 1 ≤ r.mode.distance := by rw [hmode]; decide
    simp only [hmode] at h
    split_ifs at h <;> cases h
    · exact Or.inl (moves_refl r)
    · exact Or.inl (moves_near rfl (by decide) hfar)
  | value closable =>
    simp only [hmode] at h
    exact Or.inl (moves_stepValue h hmode)
  | name closable =>
    simp only [hmode] at h
    exact Or.inl (moves_stepName h hmode)
  | colon =>
    simp only [hmode] at h
    split_ifs at h <;> cases h
    · exact Or.inl (moves_refl r)
    · exact Or.inl (moves_of_text rfl rfl rfl (Nat.zero_le _) (Nat.le_add_left 1 _))
  | afterValue =>
    simp only [hmode] at h
    exact Or.inl (moves_stepAfterValue h (by rw [hmode]; decide))
  | string isName =>
    -- only here can a quote end something
    simp only [hmode, stepString] at h
    split_ifs at h with hquote hname <;> cases h
    · exact Or.inr (Or.inl ⟨hquote, by rw [hname], rfl⟩)
    · exact Or.inr (Or.inr ⟨hquote, by rw [Bool.eq_false_iff.mpr hname], rfl⟩)
    · refine Or.inl (moves_of_text rfl rfl rfl (Nat.zero_le _) ?_)
      rw [hmode]
      exact Nat.le_succ _
    · exact Or.inl (moves_add (Nat.le_add_left 1 _) (by rw [hmode]; rfl))
  | escape isName =>
    simp only [hmode] at h
    exact Or.inl (moves_stepEscape h hmode)
  | unit isName left value =>
    simp only [hmode] at h
    exact Or.inl (moves_stepUnit h hmode)
  | number part =>
    simp only [hmode] at h
    exact Or.inl (moves_stepNumber h hmode)
  | word w position =>
    simp only [hmode] at h
    exact Or.inl (moves_stepWord h hmode)

/-! ## What a text can do -/

theorem run_cons_eq_some_iff {c : UInt8} {bytes : List UInt8} {r r' : Reader} :
    r.run wanted (c :: bytes) = some r'
      ↔ ∃ next, r.step wanted c = some next ∧ next.run wanted bytes = some r' :=
  Option.bind_eq_some_iff

/-- **The member is not there yet** after so many bytes from within a value: if there has
been another name since the first, it is too short. -/
structure NotYet (first : List UInt8) (k : ℕ) (r : Reader) : Prop where
  reach : r.reach ≤ k
  member : r.member = none
  name : r.name = first ∨ r.name.length + 4 ≤ k

theorem NotYet.step {first : List UInt8} {k : ℕ} {r r' : Reader} {c : UInt8}
    (h : NotYet first k r) (hne : first ≠ wanted) (hk : k < wanted.length + 4)
    (hstep : r.step wanted c = some r') : NotYet first (k + 1) r' := by
  obtain hmoves | ⟨-, hmode, rfl⟩ | ⟨-, hmode, rfl⟩ := step_cases hstep
  · refine ⟨hmoves.reach.trans (Nat.succ_le_succ h.reach), hmoves.member.trans h.member, ?_⟩
    rw [hmoves.name]
    exact h.name.imp_right fun hle => Nat.le_succ_of_le hle
  · -- a name that ends now has begun at least three bytes after a value
    have hweight : weight r.text + 3 ≤ k := by
      refine le_trans (le_of_eq ?_) h.reach
      unfold Reader.reach Reader.size
      rw [hmode]
      rfl
    have hlen := length_decode_le r.text
    refine ⟨Nat.zero_le _, ?_, ?_⟩
    · show (if _ then none else r.member) = none
      rw [h.member, ite_self]
    · show (if _ then decode r.text else r.name) = first
        ∨ (if _ then decode r.text else r.name).length + 4 ≤ k + 1
      split_ifs
      · exact Or.inr (by omega)
      · exact h.name.imp_right fun hle => Nat.le_succ_of_le hle
  · refine ⟨Nat.le_add_left 1 k, ?_, h.name.imp_right fun hle => Nat.le_succ_of_le hle⟩
    -- the string that ends is not the member: its name is the first one, or too short
    refine (if_neg fun hwanted => ?_).trans h.member
    obtain hfirst | hshort := h.name
    · exact hne (hfirst.symm.trans hwanted.2)
    · rw [hwanted.2] at hshort
      omega

theorem NotYet.run {first : List UInt8} {k : ℕ} {r r' : Reader} {bytes : List UInt8}
    (h : NotYet first k r) (hne : first ≠ wanted) (hk : k + bytes.length ≤ wanted.length + 4)
    (hrun : r.run wanted bytes = some r') : NotYet first (k + bytes.length) r' := by
  induction bytes generalizing k r with
  | nil =>
    cases hrun
    exact h
  | cons c bytes ih =>
    rw [List.length_cons] at hk ⊢
    obtain ⟨next, hstep, hrest⟩ := run_cons_eq_some_iff.mp hrun
    have hih := ih (h.step hne (by omega) hstep) (by omega) hrest
    rwa [Nat.add_right_comm, Nat.add_assoc] at hih

/-- **The reader is behind** after so many bytes of a string: what it is reading and what
it has read is shorter. -/
structure Behind (k : ℕ) (r : Reader) : Prop where
  size : r.size < k
  member : ∀ value, r.member = some value → value.length < k

/-- What a quote can give is shorter than what has been read. -/
theorem Behind.member_step {k : ℕ} {r r' : Reader} {c : UInt8} (h : Behind k r)
    (hstep : r.step wanted c = some r') {value : List UInt8} (hvalue : r'.member = some value) :
    value.length < k := by
  obtain hmoves | ⟨-, hmode, rfl⟩ | ⟨-, hmode, rfl⟩ := step_cases hstep
  · exact h.member value (hmoves.member.symm.trans hvalue)
  · change (if _ then none else r.member) = some value at hvalue
    split_ifs at hvalue
    exact h.member value hvalue
  · change (if _ then some (decode r.text) else r.member) = some value at hvalue
    split_ifs at hvalue
    · cases hvalue
      exact (length_decode_le r.text).trans_lt ((Nat.le_add_right _ _).trans_lt h.size)
    · exact h.member value hvalue

theorem Behind.step {k : ℕ} {r r' : Reader} {c : UInt8} (h : Behind k r)
    (hstep : r.step wanted c = some r') : Behind (k + 1) r' := by
  refine ⟨?_, fun value hvalue => (h.member_step hstep hvalue).trans (Nat.lt_succ_self k)⟩
  obtain hmoves | ⟨-, hmode, rfl⟩ | ⟨-, hmode, rfl⟩ := step_cases hstep
  · exact hmoves.size.trans_lt (Nat.succ_lt_succ h.size)
  · exact Nat.succ_pos k
  · exact Nat.succ_pos k

/-- The object `{"a":"b"}`. -/
example : Reader.start.run [0x61] [0x7B, quote, 0x61, quote, colon, quote, 0x62, quote, 0x7D]
    = some ⟨.afterValue, [], [], [0x61], some [0x62]⟩ := by decide

end Reader

end Json
