import MeshBeacon.Hal
import MeshBeacon.DuckUtils
import Mathlib.Algebra.Order.Ring.Int
import Mathlib.Data.List.DropRight
import Mathlib.Data.UInt

/-!
# Base64

Bytes that are not text are put into JSON in Base64: three bytes are four
characters of six bits each, and the last one or two bytes are filled up with
the character `=`.

The encoder and the decoder write one byte after the other into a buffer of the
caller. What they return here is the code they return and the bytes they have
written, from the beginning of the buffer on. The decoder writes the bytes of
one quantum of four characters before it looks at the next, so it has written
some of them when it finds the next to be invalid.
-/

namespace SafeBase64

open DuckUtils

/-! ## The encoder -/

/-- `B64_CHARS`. -/
def b64Chars : List UInt8 :=
  ascii "ABCDEFGHIJKLMNOPQRSTUVWXYZabcdefghijklmnopqrstuvwxyz0123456789+/"

/-- The character `=`. -/
def padChar : UInt8 := 0x3D

/-- The character for six bits of a word, from a bit on. -/
def b64Char (v shift : ℕ) : UInt8 := b64Chars.getD ((v >>> shift) &&& 0x3F) 0

/-- `safe_b64_encoded_len`. -/
def safeB64EncodedLen (inLen : ℕ) : ℕ := (inLen + 2) / 3 * 4

/-- The characters `safe_b64_encode` writes: four for each three bytes, and four for the
bytes that remain. -/
def encodeQuanta : List UInt8 → List UInt8
  | a :: b :: c :: rest =>
    let v := a.toNat <<< 16 ||| b.toNat <<< 8 ||| c.toNat
    b64Char v 18 :: b64Char v 12 :: b64Char v 6 :: b64Char v 0 :: encodeQuanta rest
  | [a, b] =>
    let v := a.toNat <<< 16 ||| b.toNat <<< 8
    [b64Char v 18, b64Char v 12, b64Char v 6, padChar]
  | [a] =>
    let v := a.toNat <<< 16
    [b64Char v 18, b64Char v 12, padChar, padChar]
  | [] => []

/-- The conversion of a `size_t` to `int`. -/
def toInt (n : ℕ) : ℤ := (n : ℤ).bmod (2 ^ 32)

/-- `safe_b64_encode`, with whether the pointers are null. -/
def safeB64Encode (inNull outNull : Bool) (input : List UInt8) (outCap : ℕ) : ℤ × List UInt8 :=
  if outNull ∨ (inNull ∧ 0 < input.length) then (-1, [])
  else if outCap < safeB64EncodedLen input.length + 1 then (-1, [])
  else (toInt (encodeQuanta input).length, encodeQuanta input ++ [0])

/-! ## The decoder -/

/-- `b64_char_value`. -/
def b64CharValue (c : UInt8) : ℤ :=
  if 0x41 ≤ c && c ≤ 0x5A then c.toNat - 0x41
  else if 0x61 ≤ c && c ≤ 0x7A then c.toNat - 0x61 + 26
  else if 0x30 ≤ c && c ≤ 0x39 then c.toNat - 0x30 + 52
  else if c = 0x2B then 62
  else if c = 0x2F then 63
  else -1

/-- The value of a character of a quantum. -/
def quantumValue (c : UInt8) : ℤ := if c = padChar then -2 else b64CharValue c

/-- The checks of a quantum. -/
def quantumOk (pad : ℕ) (isLastBlock : Bool) (c0 c1 c2 c3 : ℤ) : Bool :=
  if c0 < 0 ∨ c1 < 0 then false
  else if !isLastBlock ∧ (c2 < 0 ∨ c3 < 0) then false
  else if isLastBlock ∧ pad = 0 ∧ (c2 < 0 ∨ c3 < 0) then false
  else if isLastBlock ∧ pad = 1 ∧ (c2 < 0 ∨ c3 ≠ -2) then false
  else if isLastBlock ∧ pad = 2 ∧ (c2 ≠ -2 ∨ c3 ≠ -2) then false
  else true

/-- The bytes of a quantum: one for each character after the first that is not padding. -/
def quantumBytes (c0 c1 c2 c3 : ℤ) : List UInt8 :=
  let v := c0.toNat <<< 18 ||| c1.toNat <<< 12 ||| (if c2 < 0 then 0 else c2).toNat <<< 6
    ||| (if c3 < 0 then 0 else c3).toNat
  [UInt8.ofNat ((v >>> 16) &&& 0xFF)]
    ++ (if 0 ≤ c2 then [UInt8.ofNat ((v >>> 8) &&& 0xFF)] else [])
    ++ (if 0 ≤ c3 then [UInt8.ofNat (v &&& 0xFF)] else [])

/-- The loop of `safe_b64_decode`: whether it gets to the end, and the bytes it writes. -/
def decodeQuanta (pad : ℕ) : List UInt8 → Bool × List UInt8
  | k0 :: k1 :: k2 :: k3 :: rest =>
    let c0 := quantumValue k0
    let c1 := quantumValue k1
    let c2 := quantumValue k2
    let c3 := quantumValue k3
    if quantumOk pad rest.isEmpty c0 c1 c2 c3 then
      ((decodeQuanta pad rest).1, quantumBytes c0 c1 c2 c3 ++ (decodeQuanta pad rest).2)
    else (false, [])
  | _ => (true, [])

/-- A line feed or a carriage return. -/
def isLineEnd (c : UInt8) : Bool := c = 0x0A || c = 0x0D

/-- The text without the line ends at its end. -/
def stripped (input : List UInt8) : List UInt8 := input.rdropWhile isLineEnd

/-- `pad`. -/
def padding (text : List UInt8) : ℕ :=
  if text.getLast? = some padChar then
    if text.dropLast.getLast? = some padChar then 2 else 1
  else 0

/-- `out_len`. -/
def decodedLen (text : List UInt8) : ℕ := text.length / 4 * 3 - padding text

/-- `safe_b64_decode`, with whether the pointers are null. -/
def safeB64Decode (inNull outNull : Bool) (input : List UInt8) (outCap : ℕ) : ℤ × List UInt8 :=
  if inNull ∨ outNull then (-1, [])
  else
    let text := stripped input
    if text = [] then (0, [])
    else if text.length % 4 ≠ 0 then (-1, [])
    else if outCap < decodedLen text then (-1, [])
    else if (decodeQuanta (padding text) text).1 then
      (toInt (decodeQuanta (padding text) text).2.length, (decodeQuanta (padding text) text).2)
    else (-1, (decodeQuanta (padding text) text).2)

/-! ## Characters -/

/-- What holds of the first 256 numbers holds of every byte. -/
theorem forall_byte {P : UInt8 → Prop} (h : ∀ n < 256, P (UInt8.ofNat n)) (c : UInt8) : P c := by
  have hc := h c.toNat c.toNat_lt
  rwa [UInt8.ofNat_toNat] at hc

/-- The characters of the alphabet have a value, and no others. -/
theorem quantumValue_nonneg_iff (c : UInt8) : 0 ≤ quantumValue c ↔ c ∈ b64Chars := by
  have halphabet : ∀ c ∈ b64Chars, 0 ≤ quantumValue c := by decide +kernel
  have hplace : ∀ c, 0 ≤ quantumValue c →
      (quantumValue c).toNat < b64Chars.length ∧ b64Chars.getD (quantumValue c).toNat 0 = c :=
    forall_byte (by decide +kernel)
  refine ⟨fun h => ?_, halphabet c⟩
  obtain ⟨hlt, hget⟩ := hplace c h
  rw [← hget, List.getD_eq_getElem?_getD, List.getElem?_eq_getElem hlt]
  exact List.getElem_mem hlt

theorem quantumValue_eq_iff (c : UInt8) : quantumValue c = -2 ↔ c = padChar :=
  forall_byte (P := fun c => quantumValue c = -2 ↔ c = padChar) (by decide +kernel) c

/-- The value of a character of the alphabet is its place there. -/
theorem quantumValue_getD {k : ℕ} (hk : k < 64) : quantumValue (b64Chars.getD k 0) = k := by
  revert k
  decide +kernel

theorem padChar_not_mem : padChar ∉ b64Chars := by decide +kernel

/-- Line ends are neither padding nor of the alphabet. -/
theorem not_isLineEnd {c : UInt8} (h : c ∈ b64Chars ∨ c = padChar) : ¬ isLineEnd c := by
  intro hend
  obtain hfeed | hreturn := Bool.or_eq_true _ _ ▸ hend
  · cases of_decide_eq_true hfeed
    exact absurd h (by decide)
  · cases of_decide_eq_true hreturn
    exact absurd h (by decide)

/-! ## Six bits and eight bits

Both directions go through a word of 24 bits. -/

theorem shiftLeft_or_shiftLeft {hi lo k : ℕ} (hlo : lo < 2 ^ k) (j : ℕ) :
    hi <<< (k + j) ||| lo <<< j = (hi * 2 ^ k + lo) <<< j := by
  rw [Nat.shiftLeft_add, ← Nat.shiftLeft_or_distrib, ← Nat.shiftLeft_add_eq_or_of_lt hlo,
    Nat.shiftLeft_eq hi]

theorem shiftRight_and_sextet (v shift : ℕ) : (v >>> shift) &&& 0x3F = v / 2 ^ shift % 64 := by
  rw [Nat.shiftRight_eq_div_pow]
  exact Nat.and_two_pow_sub_one_eq_mod _ 6

theorem shiftRight_and_byte (v shift : ℕ) : (v >>> shift) &&& 0xFF = v / 2 ^ shift % 256 := by
  rw [Nat.shiftRight_eq_div_pow]
  exact Nat.and_two_pow_sub_one_eq_mod _ 8

theorem or_bytes (a b c : UInt8) : a.toNat <<< 16 ||| b.toNat <<< 8 ||| c.toNat
    = (a.toNat * 256 + b.toNat) * 256 + c.toNat := by
  have hlow : (a.toNat * 256 + b.toNat) <<< 8 ||| c.toNat <<< 0
      = ((a.toNat * 256 + b.toNat) * 256 + c.toNat) <<< 0 := shiftLeft_or_shiftLeft c.toNat_lt 0
  rw [show a.toNat <<< 16 ||| b.toNat <<< 8 = (a.toNat * 256 + b.toNat) <<< 8 from
    shiftLeft_or_shiftLeft b.toNat_lt 8]
  exact hlow

theorem or_sextets (s0 : ℕ) {s1 s2 s3 : ℕ} (h1 : s1 < 64) (h2 : s2 < 64) (h3 : s3 < 64) :
    s0 <<< 18 ||| s1 <<< 12 ||| s2 <<< 6 ||| s3 = ((s0 * 64 + s1) * 64 + s2) * 64 + s3 := by
  have hlow : ((s0 * 64 + s1) * 64 + s2) <<< 6 ||| s3 <<< 0
      = (((s0 * 64 + s1) * 64 + s2) * 64 + s3) <<< 0 := shiftLeft_or_shiftLeft h3 0
  rw [show s0 <<< 18 ||| s1 <<< 12 = (s0 * 64 + s1) <<< 12 from shiftLeft_or_shiftLeft h1 12,
    show (s0 * 64 + s1) <<< 12 ||| s2 <<< 6 = ((s0 * 64 + s1) * 64 + s2) <<< 6 from
      shiftLeft_or_shiftLeft h2 6]
  exact hlow

/-- The value of a character written is the six bits it was written for. -/
theorem quantumValue_b64Char (v shift : ℕ) :
    quantumValue (b64Char v shift) = (v / 2 ^ shift % 64 : ℕ) := by
  unfold b64Char
  rw [shiftRight_and_sextet]
  exact quantumValue_getD (Nat.mod_lt _ (by decide))

theorem b64Char_mem (v shift : ℕ) : b64Char v shift ∈ b64Chars := by
  rw [← quantumValue_nonneg_iff, quantumValue_b64Char]
  exact Int.natCast_nonneg _

theorem toNat_bits (n : ℕ) : (if (n : ℤ) < 0 then 0 else (n : ℤ)).toNat = n := by
  rw [if_neg (Int.not_lt.mpr (Int.natCast_nonneg n)), Int.toNat_natCast]

/-- **The bytes of four values** are those of the word they make up, of which the last two
may be missing. -/
theorem quantumBytes_eq {s0 s1 b2 b3 v : ℕ} {c2 c3 : ℤ} (h1 : s1 < 64) (h2 : b2 < 64)
    (h3 : b3 < 64) (hc2 : (if c2 < 0 then 0 else c2).toNat = b2)
    (hc3 : (if c3 < 0 then 0 else c3).toNat = b3)
    (hv : v = ((s0 * 64 + s1) * 64 + b2) * 64 + b3) :
    quantumBytes s0 s1 c2 c3 = [UInt8.ofNat (v / 2 ^ 16 % 256)]
      ++ (if 0 ≤ c2 then [UInt8.ofNat (v / 2 ^ 8 % 256)] else [])
      ++ (if 0 ≤ c3 then [UInt8.ofNat (v % 256)] else []) := by
  unfold quantumBytes
  rw [Int.toNat_natCast, Int.toNat_natCast, hc2, hc3, or_sextets s0 h1 h2 h3, ← hv]
  dsimp only
  rw [shiftRight_and_byte, shiftRight_and_byte,
    show v &&& 0xFF = v % 256 from Nat.and_two_pow_sub_one_eq_mod v 8]

theorem ofNat_eq {n : ℕ} {a : UInt8} (h : n = a.toNat) : UInt8.ofNat n = a := by
  rw [h, UInt8.ofNat_toNat]

/-- **Three bytes are read back** from their four characters. -/
theorem quantumBytes_three (a b c : UInt8) :
    let v := a.toNat <<< 16 ||| b.toNat <<< 8 ||| c.toNat
    quantumBytes (quantumValue (b64Char v 18)) (quantumValue (b64Char v 12))
      (quantumValue (b64Char v 6)) (quantumValue (b64Char v 0)) = [a, b, c] := by
  have ha := a.toNat_lt
  have hb := b.toNat_lt
  have hc := c.toNat_lt
  intro v
  have hv : v = (a.toNat * 256 + b.toNat) * 256 + c.toNat := or_bytes a b c
  clear_value v
  simp only [quantumValue_b64Char]
  rw [quantumBytes_eq (Nat.mod_lt _ (by decide)) (Nat.mod_lt _ (by decide))
      (Nat.mod_lt _ (by decide)) (toNat_bits _) (toNat_bits _)
      (show v = ((v / 2 ^ 18 % 64 * 64 + v / 2 ^ 12 % 64) * 64 + v / 2 ^ 6 % 64) * 64
        + v / 2 ^ 0 % 64 by omega),
    if_pos (Int.natCast_nonneg _), if_pos (Int.natCast_nonneg _),
    @ofNat_eq (v / 2 ^ 16 % 256) a (by omega), @ofNat_eq (v / 2 ^ 8 % 256) b (by omega),
    @ofNat_eq (v % 256) c (by omega)]
  rfl

/-- **Two bytes are read back** from their three characters. -/
theorem quantumBytes_two (a b : UInt8) :
    let v := a.toNat <<< 16 ||| b.toNat <<< 8
    quantumBytes (quantumValue (b64Char v 18)) (quantumValue (b64Char v 12))
      (quantumValue (b64Char v 6)) (-2) = [a, b] := by
  have ha := a.toNat_lt
  have hb := b.toNat_lt
  intro v
  have hv : v = (a.toNat * 256 + b.toNat) * 256 := by
    have hword := or_bytes a b 0
    rwa [UInt8.toNat_zero, Nat.or_zero, Nat.add_zero] at hword
  clear_value v
  simp only [quantumValue_b64Char]
  rw [quantumBytes_eq (Nat.mod_lt _ (by decide)) (Nat.mod_lt _ (by decide)) (by decide : 0 < 64)
      (toNat_bits _) rfl
      (show v = ((v / 2 ^ 18 % 64 * 64 + v / 2 ^ 12 % 64) * 64 + v / 2 ^ 6 % 64) * 64 + 0
        by omega),
    if_pos (Int.natCast_nonneg _), if_neg (by decide),
    @ofNat_eq (v / 2 ^ 16 % 256) a (by omega), @ofNat_eq (v / 2 ^ 8 % 256) b (by omega)]
  rfl

/-- **One byte is read back** from its two characters. -/
theorem quantumBytes_one (a : UInt8) :
    let v := a.toNat <<< 16
    quantumBytes (quantumValue (b64Char v 18)) (quantumValue (b64Char v 12)) (-2) (-2) = [a] := by
  have ha := a.toNat_lt
  intro v
  have hv : v = a.toNat * 65536 := Nat.shiftLeft_eq _ _
  clear_value v
  simp only [quantumValue_b64Char]
  rw [quantumBytes_eq (Nat.mod_lt _ (by decide)) (by decide : 0 < 64) (by decide : 0 < 64) rfl rfl
      (show v = ((v / 2 ^ 18 % 64 * 64 + v / 2 ^ 12 % 64) * 64 + 0) * 64 + 0 by omega),
    if_neg (by decide), if_neg (by decide), @ofNat_eq (v / 2 ^ 16 % 256) a (by omega)]
  rfl

/-! ## Texts that are Base64 -/

/-- **So much padding at the end**, and characters of the alphabet before it. -/
def Padded (pad : ℕ) (text : List UInt8) : Prop :=
  ∃ body, text = body ++ List.replicate pad padChar ∧ ∀ c ∈ body, c ∈ b64Chars

/-- **The text is Base64**: its length is a multiple of four, and only its last one or two
characters may be padding. -/
def IsBase64 (text : List UInt8) : Prop := text.length % 4 = 0 ∧ ∃ pad ≤ 2, Padded pad text

theorem padded_cons {pad : ℕ} {k : UInt8} {rest : List UInt8} (h : pad ≤ rest.length) :
    Padded pad (k :: rest) ↔ k ∈ b64Chars ∧ Padded pad rest := by
  constructor
  · rintro ⟨body, heq, hbody⟩
    cases body with
    | nil =>
      have hlen := congrArg List.length heq
      rw [List.nil_append, List.length_replicate, List.length_cons] at hlen
      exact absurd h (by omega)
    | cons c body =>
      obtain ⟨rfl, hrest⟩ := List.cons_eq_cons.mp heq
      exact ⟨hbody k List.mem_cons_self, body, hrest,
        fun c hc => hbody c (List.mem_cons_of_mem k hc)⟩
  · rintro ⟨hk, body, rfl, hbody⟩
    exact ⟨k :: body, rfl, List.forall_mem_cons.mpr ⟨hk, hbody⟩⟩

theorem padded_length (text : List UInt8) :
    Padded text.length text ↔ ∀ c ∈ text, c = padChar := by
  constructor
  · rintro ⟨body, heq, -⟩
    have hlen := congrArg List.length heq
    rw [List.length_append, List.length_replicate] at hlen
    rw [List.eq_nil_of_length_eq_zero (by omega : body.length = 0), List.nil_append] at heq
    intro c hc
    rw [heq] at hc
    exact List.eq_of_mem_replicate hc
  · intro h
    exact ⟨[], List.eq_replicate_of_mem h, nofun⟩

/-- What is padded consists of the alphabet and padding. -/
theorem Padded.mem {pad : ℕ} {text : List UInt8} (h : Padded pad text) {c : UInt8}
    (hc : c ∈ text) : c ∈ b64Chars ∨ c = padChar := by
  obtain ⟨body, rfl, hbody⟩ := h
  exact (List.mem_append.mp hc).imp (hbody c) List.eq_of_mem_replicate

/-- There is at most as much padding as two characters. -/
theorem padding_le (text : List UInt8) : padding text ≤ 2 := by
  unfold padding
  split_ifs <;> decide

/-- **`pad` counts the padding.** -/
theorem padding_eq {pad : ℕ} {text : List UInt8} (hpad : pad ≤ 2) (hlen : text.length % 4 = 0)
    (hne : text ≠ []) (h : Padded pad text) : padding text = pad := by
  obtain ⟨body, rfl, hbody⟩ := h
  have hpos : 0 < (body ++ List.replicate pad padChar).length := List.length_pos_iff.mpr hne
  rw [List.length_append, List.length_replicate] at hlen hpos
  -- the last character before the padding is of the alphabet
  obtain ⟨start, c, rfl⟩ := (List.eq_nil_or_concat body).resolve_left fun hnil => by
    rw [hnil, List.length_nil] at hlen hpos
    omega
  have hc : c ≠ padChar := fun heq =>
    padChar_not_mem (heq ▸ hbody c (by rw [List.concat_eq_append]; exact List.mem_concat_self))
  unfold padding
  match pad, hpad with
  | 0, _ => simp [hc]
  | 1, _ => simp [hc]
  | 2, _ => simp [List.replicate_succ, List.getLast?_append]

/-! ## The checks of the decoder -/

/-- A value is negative when the character is not of the alphabet. -/
theorem quantumValue_neg_iff (c : UInt8) : quantumValue c < 0 ↔ c ∉ b64Chars := by
  rw [← quantumValue_nonneg_iff, Int.not_le]

/-- **A quantum before the last** is of the alphabet. -/
theorem quantumOk_middle (pad : ℕ) (k0 k1 k2 k3 : UInt8) :
    quantumOk pad false (quantumValue k0) (quantumValue k1) (quantumValue k2) (quantumValue k3)
      ↔ k0 ∈ b64Chars ∧ k1 ∈ b64Chars ∧ k2 ∈ b64Chars ∧ k3 ∈ b64Chars := by
  by_cases h0 : k0 ∈ b64Chars <;> by_cases h1 : k1 ∈ b64Chars <;> by_cases h2 : k2 ∈ b64Chars <;>
    simp [quantumOk, quantumValue_neg_iff, h0, h1, h2]

/-- **The last quantum** is padded. -/
theorem quantumOk_last {pad : ℕ} (hpad : pad ≤ 2) (k0 k1 k2 k3 : UInt8) :
    quantumOk pad true (quantumValue k0) (quantumValue k1) (quantumValue k2) (quantumValue k3)
      ↔ Padded pad [k0, k1, k2, k3] := by
  match pad, hpad with
  | 0, _ =>
    rw [padded_cons (by simp), padded_cons (by simp), padded_cons (by simp), padded_cons (by simp),
      show Padded 0 [] ↔ _ from padded_length []]
    by_cases h0 : k0 ∈ b64Chars <;> by_cases h1 : k1 ∈ b64Chars <;>
      by_cases h2 : k2 ∈ b64Chars <;> simp [quantumOk, quantumValue_neg_iff, h0, h1, h2]
  | 1, _ =>
    rw [padded_cons (by simp), padded_cons (by simp), padded_cons (by simp),
      show Padded 1 [k3] ↔ _ from padded_length [k3]]
    by_cases h0 : k0 ∈ b64Chars <;> by_cases h1 : k1 ∈ b64Chars <;>
      by_cases h2 : k2 ∈ b64Chars <;>
      simp [quantumOk, quantumValue_neg_iff, quantumValue_eq_iff, h0, h1, h2]
  | 2, _ =>
    rw [padded_cons (by simp), padded_cons (by simp),
      show Padded 2 [k2, k3] ↔ _ from padded_length [k2, k3]]
    by_cases h0 : k0 ∈ b64Chars <;> by_cases h1 : k1 ∈ b64Chars <;>
      simp [quantumOk, quantumValue_neg_iff, quantumValue_eq_iff, h0, h1]

/-! ## What the decoder writes -/

/-- **Induction by quanta**, over the texts whose length is a multiple of four. -/
@[elab_as_elim]
theorem quanta_induction {motive : (text : List UInt8) → text.length % 4 = 0 → Prop}
    (nil : motive [] rfl)
    (cons : ∀ k0 k1 k2 k3 rest (hrest : rest.length % 4 = 0)
      (hlen : (k0 :: k1 :: k2 :: k3 :: rest).length % 4 = 0), motive rest hrest →
        motive (k0 :: k1 :: k2 :: k3 :: rest) hlen) :
    (text : List UInt8) → (hlen : text.length % 4 = 0) → motive text hlen
  | [], _ => nil
  | [_], h => absurd h (by simp)
  | [_, _], h => absurd h (by simp)
  | [_, _, _], h => absurd h (by simp)
  | k0 :: k1 :: k2 :: k3 :: rest, h => by
    have hrest : rest.length % 4 = 0 := by
      simp only [List.length_cons] at h
      omega
    exact cons k0 k1 k2 k3 rest hrest h (quanta_induction nil cons rest hrest)

/-- A text of quanta that is not empty has four characters. -/
theorem four_le_length {text : List UInt8} (hlen : text.length % 4 = 0) (hne : text ≠ []) :
    4 ≤ text.length := by
  have hpos := List.length_pos_iff.mpr hne
  omega

/-- The characters of a quantum before the last are before the padding. -/
theorem padded_quantum {pad : ℕ} {k0 k1 k2 k3 : UInt8} {rest : List UInt8}
    (h : pad ≤ rest.length) : Padded pad (k0 :: k1 :: k2 :: k3 :: rest) ↔
      (k0 ∈ b64Chars ∧ k1 ∈ b64Chars ∧ k2 ∈ b64Chars ∧ k3 ∈ b64Chars) ∧ Padded pad rest := by
  rw [padded_cons (by simp only [List.length_cons]; omega),
    padded_cons (by simp only [List.length_cons]; omega),
    padded_cons (by simp only [List.length_cons]; omega), padded_cons h]
  simp only [and_assoc]

/-- **The decoder gets to the end** of the texts that are padded. -/
theorem decodeQuanta_fst_iff {pad : ℕ} (hpad : pad ≤ 2) {text : List UInt8}
    (hlen : text.length % 4 = 0) (hne : text ≠ []) :
    (decodeQuanta pad text).1 ↔ Padded pad text := by
  induction text, hlen using quanta_induction with
  | nil => exact absurd rfl hne
  | cons k0 k1 k2 k3 rest hrest _ ih =>
    rw [decodeQuanta]
    by_cases hlast : rest = []
    -- only the last quantum may be padded
    · rw [hlast, ← quantumOk_last hpad]
      split_ifs with hok
      · exact iff_of_true rfl hok
      · exact iff_of_false not_false hok
    · have hmiddle : rest.isEmpty = false := List.isEmpty_eq_false_iff.mpr hlast
      have hfour := four_le_length hrest hlast
      rw [padded_quantum (Nat.le_trans hpad (Nat.le_trans (by decide) hfour)), ← ih hlast,
        ← quantumOk_middle pad, hmiddle]
      split_ifs with hok
      · exact ⟨fun h => ⟨hok, h⟩, fun h => h.2⟩
      · exact iff_of_false not_false fun h => hok h.1

/-- The bytes of a quantum are one, and one for each of its last two characters that is
not padding. -/
theorem length_quantumBytes (c0 c1 c2 c3 : ℤ) : (quantumBytes c0 c1 c2 c3).length
    = 1 + (if 0 ≤ c2 then 1 else 0) + (if 0 ≤ c3 then 1 else 0) := by
  unfold quantumBytes
  split_ifs <;> rfl

/-- A quantum before the last is three bytes. -/
theorem length_quantumBytes_middle {k2 k3 : UInt8} (h2 : k2 ∈ b64Chars) (h3 : k3 ∈ b64Chars)
    (c0 c1 : ℤ) : (quantumBytes c0 c1 (quantumValue k2) (quantumValue k3)).length = 3 := by
  rw [length_quantumBytes, if_pos ((quantumValue_nonneg_iff k2).mpr h2),
    if_pos ((quantumValue_nonneg_iff k3).mpr h3)]

/-- The last quantum is three bytes less its padding. -/
theorem length_quantumBytes_last {pad : ℕ} (hpad : pad ≤ 2) {k0 k1 k2 k3 : UInt8}
    (h : Padded pad [k0, k1, k2, k3]) (c0 c1 : ℤ) :
    (quantumBytes c0 c1 (quantumValue k2) (quantumValue k3)).length + pad = 3 := by
  rw [length_quantumBytes]
  simp only [quantumValue_nonneg_iff]
  -- by how many of the last two characters are padding, and so write no byte
  match pad, hpad with
  | 0, _ =>
    rw [padded_cons (by simp), padded_cons (by simp), padded_cons (by simp),
      padded_cons (by simp)] at h
    rw [if_pos h.2.2.1, if_pos h.2.2.2.1]
  | 1, _ =>
    rw [padded_cons (by simp), padded_cons (by simp), padded_cons (by simp),
      show Padded 1 [k3] ↔ _ from padded_length [k3], List.forall_mem_singleton] at h
    rw [if_pos h.2.2.1, if_neg (h.2.2.2 ▸ padChar_not_mem)]
  | 2, _ =>
    rw [padded_cons (by simp), padded_cons (by simp),
      show Padded 2 [k2, k3] ↔ _ from padded_length [k2, k3], List.forall_mem_cons,
      List.forall_mem_singleton] at h
    rw [if_neg (h.2.2.1 ▸ padChar_not_mem), if_neg (h.2.2.2 ▸ padChar_not_mem)]

/-- **How much is written**: three bytes for each quantum, less the padding, if the decoder
gets to the end, and otherwise those of fewer quanta. -/
theorem length_decodeQuanta {pad : ℕ} (hpad : pad ≤ 2) {text : List UInt8}
    (hlen : text.length % 4 = 0) (hne : text ≠ []) :
    if (decodeQuanta pad text).1 then
      (decodeQuanta pad text).2.length + pad = text.length / 4 * 3
    else (decodeQuanta pad text).2.length + 3 ≤ text.length / 4 * 3 := by
  induction text, hlen using quanta_induction with
  | nil => exact absurd rfl hne
  | cons k0 k1 k2 k3 rest hrest _ ih =>
    have hquanta : (k0 :: k1 :: k2 :: k3 :: rest).length / 4 * 3 = rest.length / 4 * 3 + 3 := by
      simp only [List.length_cons]
      omega
    rw [decodeQuanta, hquanta]
    by_cases hlast : rest = []
    -- a last quantum that is not valid writes nothing, and so three bytes fewer
    · rw [hlast]
      by_cases hok : quantumOk pad true (quantumValue k0) (quantumValue k1) (quantumValue k2)
          (quantumValue k3)
      · have hbytes :=
          length_quantumBytes_last hpad ((quantumOk_last hpad k0 k1 k2 k3).mp hok)
            (quantumValue k0) (quantumValue k1)
        simpa [decodeQuanta, hok] using hbytes
      · simp [hok]
    · rw [List.isEmpty_eq_false_iff.mpr hlast]
      by_cases hok : quantumOk pad false (quantumValue k0) (quantumValue k1) (quantumValue k2)
          (quantumValue k3)
      · obtain ⟨-, -, h2, h3⟩ := (quantumOk_middle pad k0 k1 k2 k3).mp hok
        -- the loop goes on, and the rest of the text decides between the two
        have hih := ih hlast
        rw [if_pos hok]
        dsimp only
        rw [List.length_append, length_quantumBytes_middle h2 h3]
        split_ifs at hih ⊢ <;> omega
      · simp [hok]

/-! ## What the encoder writes -/

/-- The padding of so many bytes. -/
def tailPad (inLen : ℕ) : ℕ := (3 - inLen % 3) % 3

theorem tailPad_le (inLen : ℕ) : tailPad inLen ≤ 2 := by
  unfold tailPad
  omega

theorem tailPad_add_three (inLen : ℕ) : tailPad (inLen + 3) = tailPad inLen := by
  unfold tailPad
  rw [Nat.add_mod_right]

/-- **The length of an encoding** is the one computed. -/
theorem length_encodeQuanta (input : List UInt8) :
    (encodeQuanta input).length = safeB64EncodedLen input.length := by
  unfold safeB64EncodedLen
  induction input using encodeQuanta.induct with
  | case1 a b c rest ih =>
    simp only [encodeQuanta, List.length_cons, ih]
    omega
  | case2 a b => simp [encodeQuanta]
  | case3 a => simp [encodeQuanta]
  | case4 => rfl

theorem length_encodeQuanta_mod (input : List UInt8) : (encodeQuanta input).length % 4 = 0 := by
  rw [length_encodeQuanta]
  exact Nat.mul_mod_left _ 4

/-- **An encoding is padded.** -/
theorem padded_encodeQuanta (input : List UInt8) :
    Padded (tailPad input.length) (encodeQuanta input) := by
  induction input using encodeQuanta.induct with
  | case1 a b c rest ih =>
    have hlen : tailPad (a :: b :: c :: rest).length = tailPad rest.length :=
      tailPad_add_three rest.length
    have hpad : tailPad rest.length ≤ (encodeQuanta rest).length := by
      rw [length_encodeQuanta]
      unfold tailPad safeB64EncodedLen
      omega
    rw [hlen, encodeQuanta, padded_quantum hpad]
    exact ⟨⟨b64Char_mem _ _, b64Char_mem _ _, b64Char_mem _ _, b64Char_mem _ _⟩, ih⟩
  -- the two tails, of one character of padding and of two
  | case2 a b =>
    rw [encodeQuanta, show tailPad [a, b].length = 1 from rfl, padded_cons (by simp),
      padded_cons (by simp), padded_cons (by simp)]
    refine ⟨b64Char_mem _ _, b64Char_mem _ _, b64Char_mem _ _, ?_⟩
    exact (padded_length [padChar]).mpr (by simp)
  | case3 a =>
    rw [encodeQuanta, show tailPad [a].length = 2 from rfl, padded_cons (by simp),
      padded_cons (by simp)]
    refine ⟨b64Char_mem _ _, b64Char_mem _ _, ?_⟩
    exact (padded_length [padChar, padChar]).mpr (by simp)
  | case4 => exact (padded_length []).mpr (by simp)

theorem encodeQuanta_ne_nil {input : List UInt8} (h : input ≠ []) : encodeQuanta input ≠ [] := by
  have hpos := List.length_pos_iff.mpr h
  refine List.ne_nil_of_length_pos ?_
  rw [length_encodeQuanta]
  unfold safeB64EncodedLen
  omega

theorem decodeQuanta_of_fst {pad : ℕ} {k0 k1 k2 k3 : UInt8} {rest : List UInt8}
    (h : (decodeQuanta pad (k0 :: k1 :: k2 :: k3 :: rest)).1) :
    (decodeQuanta pad rest).1 ∧ (decodeQuanta pad (k0 :: k1 :: k2 :: k3 :: rest)).2
      = quantumBytes (quantumValue k0) (quantumValue k1) (quantumValue k2) (quantumValue k3)
        ++ (decodeQuanta pad rest).2 := by
  rw [decodeQuanta] at h ⊢
  split_ifs at h ⊢
  exact ⟨h, rfl⟩

/-- The bytes of an encoding that is decoded to its end. -/
theorem snd_decodeQuanta_encodeQuanta {pad : ℕ} {input : List UInt8}
    (h : (decodeQuanta pad (encodeQuanta input)).1) :
    (decodeQuanta pad (encodeQuanta input)).2 = input := by
  have hpadValue : quantumValue padChar = -2 := (quantumValue_eq_iff padChar).mpr rfl
  induction input using encodeQuanta.induct with
  | case1 a b c rest ih =>
    rw [encodeQuanta] at h ⊢
    obtain ⟨hrest, hsnd⟩ := decodeQuanta_of_fst h
    rw [hsnd, ih hrest, quantumBytes_three]
    rfl
  | case2 a b =>
    rw [encodeQuanta] at h ⊢
    rw [(decodeQuanta_of_fst h).2, hpadValue, quantumBytes_two]
    rfl
  | case3 a =>
    rw [encodeQuanta] at h ⊢
    rw [(decodeQuanta_of_fst h).2, hpadValue, quantumBytes_one]
    rfl
  | case4 => rfl

/-- **An encoding is decoded.** -/
theorem decodeQuanta_encodeQuanta {input : List UInt8} (hne : input ≠ []) :
    decodeQuanta (padding (encodeQuanta input)) (encodeQuanta input) = (true, input) := by
  have hpad := tailPad_le input.length
  have hlen := length_encodeQuanta_mod input
  have htext := encodeQuanta_ne_nil hne
  have hpadded := padded_encodeQuanta input
  rw [padding_eq hpad hlen htext hpadded]
  have hfst := (decodeQuanta_fst_iff hpad hlen htext).mpr hpadded
  exact Prod.ext hfst (snd_decodeQuanta_encodeQuanta hfst)

theorem stripped_encodeQuanta (input : List UInt8) :
    stripped (encodeQuanta input) = encodeQuanta input :=
  List.rdropWhile_eq_self_iff.mpr fun _ =>
    not_isLineEnd ((padded_encodeQuanta input).mem (List.getLast_mem _))

/-! ## The codec

The number of characters or bytes is returned as an `int`, so it is the right one
below 2^31. -/

/-- A number is returned as it is when it is less than 2^31. -/
theorem toInt_eq_iff (n : ℕ) : toInt n = n ↔ n < 2 ^ 31 := by
  unfold toInt
  rw [Int.bmod_def]
  split_ifs <;> omega

/-- Of the texts that are Base64, `out_len` is what is written. -/
theorem IsBase64.decode {text : List UInt8} (h : IsBase64 text) (hne : text ≠ []) :
    (decodeQuanta (padding text) text).1
      ∧ (decodeQuanta (padding text) text).2.length = decodedLen text := by
  obtain ⟨hlen, pad, hpad, hpadded⟩ := h
  have hpadding := padding_eq hpad hlen hne hpadded
  have hfst := (decodeQuanta_fst_iff hpad hlen hne).mpr hpadded
  have hwritten := length_decodeQuanta hpad hlen hne
  rw [if_pos hfst] at hwritten
  unfold decodedLen
  rw [hpadding]
  exact ⟨hfst, by omega⟩

/-- The decoder gets to the end of the texts that are Base64 only. -/
theorem isBase64_of_decode {text : List UInt8} (hlen : text.length % 4 = 0) (hne : text ≠ [])
    (h : (decodeQuanta (padding text) text).1) : IsBase64 text :=
  ⟨hlen, padding text, padding_le text, (decodeQuanta_fst_iff (padding_le text) hlen hne).mp h⟩

section Decode

variable {s : List UInt8} {outCap : ℕ}

/-- **A text that is Base64 and fits** is decoded to its end. -/
theorem safeB64Decode_of_isBase64 (h : IsBase64 (stripped s))
    (hcap : decodedLen (stripped s) ≤ outCap) : ∃ bytes : List UInt8,
    safeB64Decode false false s outCap = (toInt bytes.length, bytes)
      ∧ bytes.length = decodedLen (stripped s) := by
  unfold safeB64Decode
  dsimp only
  rw [if_neg (by decide)]
  by_cases hne : stripped s = []
  · rw [if_pos hne, hne]
    exact ⟨[], rfl, rfl⟩
  · obtain ⟨hfst, hwritten⟩ := h.decode hne
    rw [if_neg hne, if_neg (not_not.mpr h.1), if_neg (Nat.not_lt.mpr hcap), if_pos hfst]
    exact ⟨_, rfl, hwritten⟩

/-- **Any other text** is rejected, and no more is written than fits. -/
theorem safeB64Decode_of_not (h : ¬ (IsBase64 (stripped s) ∧ decodedLen (stripped s) ≤ outCap)) :
    (safeB64Decode false false s outCap).1 = -1
      ∧ (safeB64Decode false false s outCap).2.length ≤ outCap := by
  have hne : stripped s ≠ [] := fun hnil => h (by
    rw [hnil]
    exact ⟨⟨rfl, 0, Nat.zero_le 2, [], rfl, nofun⟩, Nat.zero_le outCap⟩)
  unfold safeB64Decode
  dsimp only
  rw [if_neg (by decide), if_neg hne]
  by_cases hlen : (stripped s).length % 4 = 0
  · rw [if_neg (not_not.mpr hlen)]
    by_cases hcap : outCap < decodedLen (stripped s)
    · rw [if_pos hcap]
      exact ⟨rfl, Nat.zero_le outCap⟩
    · have hfst : ¬ (decodeQuanta (padding (stripped s)) (stripped s)).1 := fun hfst =>
        h ⟨isBase64_of_decode hlen hne hfst, Nat.not_lt.mp hcap⟩
      have hwritten := length_decodeQuanta (padding_le (stripped s)) hlen hne
      rw [if_neg hfst] at hwritten
      rw [if_neg hcap, if_neg hfst]
      have hpad := padding_le (stripped s)
      unfold decodedLen at hcap
      refine ⟨rfl, ?_⟩
      show (decodeQuanta (padding (stripped s)) (stripped s)).2.length ≤ outCap
      omega
  · rw [if_pos hlen]
    exact ⟨rfl, Nat.zero_le outCap⟩

end Decode

/-- **The bytes make the round trip**: with room for them, their encoding and a zero are
written, and decoding the encoding writes them; both return how much they have
written, without the zero. -/
structure RoundTrips (x : List UInt8) : Prop where
  roundTrip : ∀ outCap, safeB64EncodedLen x.length + 1 ≤ outCap →
    ∃ text : List UInt8, safeB64Encode false false x outCap = ((text.length : ℤ), text ++ [0])
      ∧ text.length = safeB64EncodedLen x.length
      ∧ ∀ cap, x.length ≤ cap → safeB64Decode false false text cap = ((x.length : ℤ), x)

/-- **The text is decoded as it should be**: it is accepted when it is Base64 and there is
room, as many bytes are written then as are returned, and never more than there is
room for. -/
structure Decodes (s : List UInt8) (outCap : ℕ) : Prop where
  succeeds_iff : 0 ≤ (safeB64Decode false false s outCap).1
    ↔ IsBase64 (stripped s) ∧ decodedLen (stripped s) ≤ outCap
  returned : 0 ≤ (safeB64Decode false false s outCap).1 →
    ((safeB64Decode false false s outCap).2.length : ℤ) = (safeB64Decode false false s outCap).1
  fits : (safeB64Decode false false s outCap).2.length ≤ outCap

theorem safeB64Encode_of_le {x : List UInt8} {outCap : ℕ}
    (hcap : safeB64EncodedLen x.length + 1 ≤ outCap) : safeB64Encode false false x outCap
      = (toInt (encodeQuanta x).length, encodeQuanta x ++ [0]) := by
  unfold safeB64Encode
  rw [if_neg (by simp), if_neg (Nat.not_lt.mpr hcap)]

theorem safeB64Decode_encodeQuanta {x : List UInt8} {cap : ℕ} (hcap : x.length ≤ cap) :
    safeB64Decode false false (encodeQuanta x) cap = (toInt x.length, x) := by
  unfold safeB64Decode
  dsimp only
  rw [if_neg (by decide), stripped_encodeQuanta]
  by_cases hx : x = []
  · rw [hx]
    rfl
  have hne := encodeQuanta_ne_nil hx
  have hdecode := decodeQuanta_encodeQuanta hx
  have hlen := (isBase64_of_decode (length_encodeQuanta_mod x) hne
    (congrArg Prod.fst hdecode)).decode hne |>.2
  rw [hdecode] at hlen ⊢
  rw [if_neg hne, if_neg (not_not.mpr (length_encodeQuanta_mod x)), ← hlen,
    if_neg (Nat.not_lt.mpr hcap), if_pos rfl]

/-- Bytes with too long an encoding do not make the round trip. -/
theorem not_roundTrips {x : List UInt8} (h : 2 ^ 31 ≤ safeB64EncodedLen x.length) :
    ¬ RoundTrips x := by
  intro htrip
  obtain ⟨text, hencode, hlen, -⟩ := htrip.roundTrip _ (Nat.le_refl _)
  rw [safeB64Encode_of_le (Nat.le_refl _)] at hencode
  obtain ⟨hcode, htext⟩ := Prod.mk.inj hencode
  rw [List.append_cancel_right htext] at hcode
  have hlt := (toInt_eq_iff text.length).mp hcode
  rw [hlen] at hlt
  exact absurd hlt (Nat.not_lt.mpr h)

theorem roundTrips_iff (x : List UInt8) :
    RoundTrips x ↔ safeB64EncodedLen x.length < 2 ^ 31 := by
  refine ⟨fun h => Nat.not_le.mp fun hle => not_roundTrips hle h, fun h => ⟨fun outCap hcap => ?_⟩⟩
  have hlen := length_encodeQuanta x
  have hx : x.length < 2 ^ 31 := by
    unfold safeB64EncodedLen at h
    omega
  refine ⟨encodeQuanta x, ?_, hlen, fun cap hle => ?_⟩
  · rw [← hlen] at h
    rw [safeB64Encode_of_le hcap, (toInt_eq_iff _).mpr h]
  · rw [safeB64Decode_encodeQuanta hle, (toInt_eq_iff _).mpr hx]

theorem decodes_iff (s : List UInt8) (outCap : ℕ) : Decodes s outCap ↔
    (IsBase64 (stripped s) → decodedLen (stripped s) ≤ outCap →
      decodedLen (stripped s) < 2 ^ 31) := by
  by_cases hok : IsBase64 (stripped s) ∧ decodedLen (stripped s) ≤ outCap
  · obtain ⟨bytes, hdecode, hlen⟩ := safeB64Decode_of_isBase64 hok.1 hok.2
    constructor
    · intro h _ _
      have hret := h.returned (h.succeeds_iff.mpr hok)
      rw [hdecode] at hret
      dsimp only at hret
      rw [← hlen]
      exact (toInt_eq_iff bytes.length).mp hret.symm
    · intro h
      have hlt := h hok.1 hok.2
      rw [← hlen] at hlt
      rw [(toInt_eq_iff bytes.length).mpr hlt] at hdecode
      constructor <;> rw [hdecode]
      · exact iff_of_true (Int.natCast_nonneg _) hok
      · exact fun _ => rfl
      · exact hlen ▸ hok.2
  · obtain ⟨hret, hfits⟩ := safeB64Decode_of_not hok
    refine iff_of_true ⟨?_, ?_, hfits⟩ fun h hcap => absurd ⟨h, hcap⟩ hok
    · rw [hret]
      exact iff_of_false (by decide) hok
    · rw [hret]
      exact fun h => absurd h (by decide)

/-- **When the codec is right**: bytes make the round trip when their encoding has fewer than
2^31 characters, and a text is decoded as it should be when it is rejected or has
fewer than 2^31 bytes. -/
theorem codec_iff (x s : List UInt8) (outCap : ℕ) :
    (RoundTrips x ↔ safeB64EncodedLen x.length < 2 ^ 31)
      ∧ (Decodes s outCap ↔ (IsBase64 (stripped s) →
        decodedLen (stripped s) ≤ outCap → decodedLen (stripped s) < 2 ^ 31)) :=
  ⟨roundTrips_iff x, decodes_iff s outCap⟩

/-- **An encoding of 2 GiB** is returned as of a negative length. -/
theorem long_not_roundTrips : ¬ ∀ x, RoundTrips x := by
  intro h
  obtain ⟨x, hx⟩ : ∃ x : List UInt8, x.length = 3 * 2 ^ 29 :=
    ⟨List.replicate (3 * 2 ^ 29) 0, List.length_replicate⟩
  refine not_roundTrips ?_ (h x)
  rw [hx]
  decide

/-! ## The buffer of a text that is rejected

The bytes of the quanta before the first that is not valid have been written. -/

/-- **The quantum is valid**: four characters of the alphabet, or at the end of a text two or
three before padding. -/
def ValidQuantum (isLastBlock : Bool) (k0 k1 k2 k3 : UInt8) : Prop :=
  k0 ∈ b64Chars ∧ k1 ∈ b64Chars ∧ (k2 ∈ b64Chars ∧ k3 ∈ b64Chars
    ∨ isLastBlock ∧ (k2 ∈ b64Chars ∨ k2 = padChar) ∧ k3 = padChar)

instance (isLastBlock : Bool) (k0 k1 k2 k3 : UInt8) :
    Decidable (ValidQuantum isLastBlock k0 k1 k2 k3) := inferInstanceAs (Decidable (_ ∧ _))

/-- The bytes of the valid quanta a text begins with. -/
def leadBytes : List UInt8 → List UInt8
  | k0 :: k1 :: k2 :: k3 :: rest =>
    if ValidQuantum rest.isEmpty k0 k1 k2 k3 then
      quantumBytes (quantumValue k0) (quantumValue k1) (quantumValue k2) (quantumValue k3)
        ++ leadBytes rest
    else []
  | _ => []

theorem quantumOk_iff_middle (pad : ℕ) (k0 k1 k2 k3 : UInt8) :
    quantumOk pad false (quantumValue k0) (quantumValue k1) (quantumValue k2) (quantumValue k3)
      ↔ ValidQuantum false k0 k1 k2 k3 := by
  rw [quantumOk_middle]
  simp [ValidQuantum]

/-- The checks of the last quantum, with its own padding. -/
theorem quantumOk_iff_last (k0 k1 k2 k3 : UInt8) :
    quantumOk (padding [k0, k1, k2, k3]) true (quantumValue k0) (quantumValue k1)
      (quantumValue k2) (quantumValue k3) ↔ ValidQuantum true k0 k1 k2 k3 := by
  have hpad := padChar_not_mem
  unfold quantumOk ValidQuantum padding
  by_cases h0 : k0 ∈ b64Chars <;> by_cases h1 : k1 ∈ b64Chars <;> by_cases h2 : k2 = padChar <;>
    by_cases h3 : k3 = padChar <;>
    simp [quantumValue_neg_iff, quantumValue_eq_iff, h0, h1, h2, h3, hpad]

/-- The padding of a text is that of its end. -/
theorem padding_cons {k : UInt8} {rest : List UInt8} (h : 2 ≤ rest.length) :
    padding (k :: rest) = padding rest := by
  obtain ⟨start, a, rfl⟩ := (List.eq_nil_or_concat rest).resolve_left fun hnil => by
    rw [hnil] at h
    exact absurd h (by decide)
  obtain ⟨start, b, rfl⟩ := (List.eq_nil_or_concat start).resolve_left fun hnil => by
    rw [hnil] at h
    exact absurd h (by simp)
  unfold padding
  simp [List.getLast?_cons, List.getLast?_append, List.dropLast_cons_of_ne_nil]

/-- **What is written** are the bytes of the valid quanta the text begins with. -/
theorem snd_decodeQuanta {text : List UInt8} (hlen : text.length % 4 = 0) :
    (decodeQuanta (padding text) text).2 = leadBytes text := by
  induction text, hlen using quanta_induction with
  | nil => rfl
  | cons k0 k1 k2 k3 rest hrest _ ih =>
    rw [decodeQuanta, leadBytes]
    by_cases hlast : rest = []
    · rw [hlast, List.isEmpty_nil]
      by_cases hok : ValidQuantum true k0 k1 k2 k3
      · rw [if_pos ((quantumOk_iff_last k0 k1 k2 k3).mpr hok), if_pos hok]
        rfl
      · rw [if_neg (mt (quantumOk_iff_last k0 k1 k2 k3).mp hok), if_neg hok]
    · have hfour := four_le_length hrest hlast
      rw [padding_cons (by simp only [List.length_cons]; omega),
        padding_cons (by simp only [List.length_cons]; omega),
        padding_cons (by simp only [List.length_cons]; omega), padding_cons (by omega),
        List.isEmpty_eq_false_iff.mpr hlast]
      by_cases hok : ValidQuantum false k0 k1 k2 k3
      · rw [if_pos ((quantumOk_iff_middle _ k0 k1 k2 k3).mpr hok), if_pos hok, ih]
      · rw [if_neg (mt (quantumOk_iff_middle _ k0 k1 k2 k3).mp hok), if_neg hok]

/-- **A text that is rejected leaves the buffer as it was.** -/
def KeepsBuffer (inNull outNull : Bool) (s out : List UInt8) : Prop :=
  (safeB64Decode inNull outNull s out.length).1 = -1 →
    overwrite (safeB64Decode inNull outNull s out.length).2 out = out

/-- Nothing changes when the buffer begins with what is written. -/
theorem overwrite_eq_iff (src dst : List UInt8) : overwrite src dst = dst ↔ src <+: dst :=
  List.prefix_iff_eq_append.symm

/-- A length is returned as -1 when it is one less than a multiple of 2^32. -/
theorem toInt_eq_neg_one_iff (n : ℕ) : toInt n = -1 ↔ (n + 1) % 2 ^ 32 = 0 := by
  unfold toInt
  rw [Int.bmod_def]
  split_ifs <;> omega

/-- What `safe_b64_decode` writes, once it gets to the loop. -/
theorem snd_safeB64Decode (s : List UInt8) (outCap : ℕ) :
    (safeB64Decode false false s outCap).2 =
      if (stripped s).length % 4 = 0 ∧ decodedLen (stripped s) ≤ outCap then
        leadBytes (stripped s) else [] := by
  unfold safeB64Decode
  dsimp only
  rw [if_neg (by decide)]
  by_cases hne : stripped s = []
  · rw [if_pos hne, hne]
    exact (ite_self _).symm
  rw [if_neg hne]
  by_cases hlen : (stripped s).length % 4 = 0
  · rw [if_neg (not_not.mpr hlen), ← snd_decodeQuanta hlen]
    by_cases hcap : outCap < decodedLen (stripped s)
    · rw [if_pos hcap, if_neg fun h => Nat.not_le.mpr hcap h.2]
    · have hloop : (stripped s).length % 4 = 0 ∧ decodedLen (stripped s) ≤ outCap :=
        ⟨hlen, Nat.not_lt.mp hcap⟩
      rw [if_neg hcap, if_pos hloop]
      split_ifs <;> rfl
  · rw [if_pos hlen, if_neg fun h => hlen h.1]

theorem fst_safeB64Decode_eq_neg_one_iff (s : List UInt8) (outCap : ℕ) :
    (safeB64Decode false false s outCap).1 = -1 ↔
      (IsBase64 (stripped s) → decodedLen (stripped s) ≤ outCap →
        (decodedLen (stripped s) + 1) % 2 ^ 32 = 0) := by
  by_cases hok : IsBase64 (stripped s) ∧ decodedLen (stripped s) ≤ outCap
  · obtain ⟨bytes, hdecode, hlen⟩ := safeB64Decode_of_isBase64 hok.1 hok.2
    rw [hdecode]
    dsimp only
    rw [toInt_eq_neg_one_iff, hlen]
    exact ⟨fun h _ _ => h, fun h => h hok.1 hok.2⟩
  · exact iff_of_true (safeB64Decode_of_not hok).1 fun h hcap => absurd ⟨h, hcap⟩ hok

/-- **When a text that is rejected leaves the buffer as it was**: it is rejected before the
loop, or it is accepted, or the buffer begins with the bytes of the valid quanta the
text begins with. -/
theorem keepsBuffer_iff (inNull outNull : Bool) (s out : List UInt8) :
    KeepsBuffer inNull outNull s out ↔ inNull ∨ outNull ∨ (stripped s).length % 4 ≠ 0
      ∨ out.length < decodedLen (stripped s)
      ∨ (IsBase64 (stripped s) ∧ (decodedLen (stripped s) + 1) % 2 ^ 32 ≠ 0)
      ∨ leadBytes (stripped s) <+: out := by
  by_cases hnull : inNull ∨ outNull
  · have hdecode : safeB64Decode inNull outNull s out.length = (-1, []) := if_pos hnull
    unfold KeepsBuffer
    rw [hdecode]
    exact iff_of_true (fun _ => rfl) (hnull.imp_right Or.inl)
  -- with both pointers, the loop is reached or one of the two checks before it returned
  · obtain ⟨rfl, rfl⟩ : inNull = false ∧ outNull = false := by simpa using hnull
    unfold KeepsBuffer
    rw [overwrite_eq_iff, fst_safeB64Decode_eq_neg_one_iff, snd_safeB64Decode]
    by_cases hloop : (stripped s).length % 4 = 0 ∧ decodedLen (stripped s) ≤ out.length
    · rw [if_pos hloop]
      have hcap := Nat.not_lt.mpr hloop.2
      simp only [Bool.false_eq_true, false_or, hloop.1, hloop.2, hcap, ne_eq, not_true_eq_false,
        true_implies]
      tauto
    · rw [if_neg hloop]
      refine iff_of_true (fun _ => List.nil_prefix) ?_
      simp only [Bool.false_eq_true, false_or]
      by_cases hlen : (stripped s).length % 4 = 0
      · exact Or.inr (Or.inl (Nat.not_le.mp fun h => hloop ⟨hlen, h⟩))
      · exact Or.inl hlen

/-- **A rejected text has been written**: of "AAAA!AAA" the first quantum. -/
theorem rejected_written :
    ¬ ∀ inNull outNull s out, KeepsBuffer inNull outNull s out := by
  intro h
  have hkeeps := h false false (ascii "AAAA!AAA") (List.replicate 6 0x55)
  unfold KeepsBuffer at hkeeps
  exact absurd (hkeeps (by decide +kernel)) (by decide +kernel)

end SafeBase64
