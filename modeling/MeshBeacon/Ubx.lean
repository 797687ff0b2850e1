import MeshBeacon.Reads
import Mathlib.Algebra.GroupWithZero.Nat

/-!
# Parsing a UBX message

A UBX message announces the length of its payload and ends with a checksum.
`lgw_parse_ubx` reads nothing of a message before all of it is in the buffer, and takes
the GPS time of one whose checksum is right and whose class and identifier are those of
`NAV-TIMEGPS`.

The fields of such a message are at fixed offsets, up to the byte of validity
bits, and whether the payload is long enough for them is not asked. Nor are the two bits
looked at one by one: either will do. So the time is right when the message has neither
bit, or the full payload and both of them.

Nothing here says what a payload longer than that of the message is; it may count as full
or not.
-/

namespace Gps

/-! ## Messages -/

/-- `enum gps_msg`, the values the two parsers return. -/
inductive GpsMsg where
  | unknown
  | ignored
  | invalid
  | incomplete
  | nmeaRmc
  | nmeaGga
  | ubxNavTimegps
deriving DecidableEq

/-- The GPS time of the last message, and whether it is valid. -/
structure GpsTime where
  gpsTimeOk : Bool
  gpsWeek : Int16
  gpsITow : UInt32
  gpsFTow : Int32

/-- The Fletcher checksum of some bytes. -/
def fletcher (bytes : List UInt8) : UInt8 × UInt8 :=
  bytes.foldl (fun ck b => (ck.1 + b, ck.2 + (ck.1 + b))) (0, 0)

/-- The number little-endian bytes stand for. -/
def littleEndian : List UInt8 → ℕ
  | [] => 0
  | b :: bytes => b.toNat + 256 * littleEndian bytes

/-- What a call of `lgw_parse_ubx` comes to: what it returns, the size of the message, the time
after it, and the indices that are read of the buffer, with those of field values apart. -/
structure UbxParse where
  msg : GpsMsg
  msgSize : ℕ
  time : GpsTime
  reads : List ℕ
  fieldReads : List ℕ

/-- The fields of a message with a valid time. -/
def timeFields (serialBuff : ℕ → UInt8) : GpsTime where
  gpsTimeOk := true
  gpsWeek := (UInt16.ofNat (littleEndian ((List.range' 14 2).map serialBuff))).toInt16
  gpsITow := UInt32.ofNat (littleEndian ((List.range' 6 4).map serialBuff))
  gpsFTow := (UInt32.ofNat (littleEndian ((List.range' 10 4).map serialBuff))).toInt32

/-- `lgw_parse_ubx`. -/
def lgwParseUbx (serialBuff : ℕ → UInt8) (buffSize : ℕ) (time : GpsTime) : UbxParse :=
  if buffSize < 8 then ⟨.ignored, 0, time, [], []⟩
  else if serialBuff 0 ≠ 0xB5 then ⟨.ignored, 0, time, [0], []⟩
  else if serialBuff 1 ≠ 0x62 then ⟨.ignored, 0, time, [0, 1], []⟩
  else
    let payloadLength := (serialBuff 4).toNat + (serialBuff 5).toNat * 256
    let msgSize := 6 + payloadLength + 2
    if msgSize ≤ buffSize then
      let reads := [0, 1, 4, 5, msgSize - 2, msgSize - 1] ++ List.range' 2 (4 + payloadLength)
      if fletcher ((List.range' 2 (4 + payloadLength)).map serialBuff)
          = (serialBuff (msgSize - 2), serialBuff (msgSize - 1)) then
        if serialBuff 2 = 0x01 ∧ serialBuff 3 = 0x20 then
          -- `towValid` and `weekValid`, as one truth value
          if serialBuff 17 &&& 0x3 ≠ 0 then
            let fieldReads := 17 :: List.range' 6 10
            ⟨.ubxNavTimegps, msgSize, timeFields serialBuff, reads ++ fieldReads, fieldReads⟩
          else
            ⟨.ubxNavTimegps, msgSize, { time with gpsTimeOk := false }, reads ++ [17], [17]⟩
        else ⟨.ignored, msgSize, time, reads, []⟩
      else ⟨.invalid, msgSize, time, reads, []⟩
    else ⟨.incomplete, msgSize, time, [0, 1, 4, 5], []⟩

/-! ## Well-formed messages -/

/-- **A UBX message**: a class, an identifier and a payload whose length can be announced. -/
structure UbxFrame where
  cls : UInt8
  id : UInt8
  payload : List UInt8
  fits : payload.length < 2 ^ 16

namespace UbxFrame

variable (f : UbxFrame)

/-- What the checksum covers. -/
def covered : List UInt8 :=
  f.cls :: f.id :: UInt8.ofNat (f.payload.length % 256) :: UInt8.ofNat (f.payload.length / 256)
    :: f.payload

/-- The bytes of a message. -/
def bytes : List UInt8 :=
  0xB5 :: 0x62 :: (f.covered ++ [(fletcher f.covered).1, (fletcher f.covered).2])

theorem length_covered : f.covered.length = 4 + f.payload.length := by
  unfold covered
  simp only [List.length_cons]
  omega

theorem length_bytes : f.bytes.length = 6 + f.payload.length + 2 := by
  unfold bytes
  rw [List.length_cons, List.length_cons, List.length_append, length_covered]
  simp only [List.length_cons, List.length_nil]
  omega

end UbxFrame

/-- The length announced by the two bytes is read back. -/
theorem toNat_lengthBytes {n : ℕ} (h : n < 2 ^ 16) :
    (UInt8.ofNat (n % 256)).toNat + (UInt8.ofNat (n / 256)).toNat * 256 = n := by
  rw [UInt8.toNat_ofNat', UInt8.toNat_ofNat']
  omega

section Parse

variable {rd : ℕ → UInt8} {f : UbxFrame} {rest : List UInt8}

/-- Bytes from an offset on, one after the other. -/
theorem map_range'_of_reads {k : ℕ} {l : List UInt8} (h : Reads (fun i => rd (k + i)) l) :
    (List.range' k l.length).map rd = l := by
  rw [List.range'_eq_map_range, List.map_map]
  exact h.map_range

/-- **The bytes of a message**, by their offsets. -/
theorem reads_frame (h : Reads rd (f.bytes ++ rest)) :
    rd 0 = 0xB5 ∧ rd 1 = 0x62 ∧ rd 2 = f.cls ∧ rd 3 = f.id
      ∧ (rd 4).toNat + (rd 5).toNat * 256 = f.payload.length
      ∧ (List.range' 2 (4 + f.payload.length)).map rd = f.covered
      ∧ (rd (6 + f.payload.length), rd (6 + f.payload.length + 1)) = fletcher f.covered := by
  have hcovered : Reads (fun i => rd (2 + i))
      (f.covered ++ ([(fletcher f.covered).1, (fletcher f.covered).2] ++ rest)) := by
    have hbytes : f.bytes ++ rest
        = [0xB5, 0x62]
          ++ (f.covered ++ ([(fletcher f.covered).1, (fletcher f.covered).2] ++ rest)) := by
      unfold UbxFrame.bytes
      simp only [List.cons_append, List.nil_append, List.append_assoc]
    rw [hbytes] at h
    exact h.right
  have hchecksum := hcovered.right
  have hoffset : ∀ i, 2 + (f.covered.length + i) = 6 + f.payload.length + i := by
    intro i
    rw [f.length_covered]
    omega
  simp only [hoffset] at hchecksum
  have hlo := h 4 _ rfl
  have hhi := h 5 _ rfl
  refine ⟨h 0 _ rfl, h 1 _ rfl, h 2 _ rfl, h 3 _ rfl, ?_, ?_, ?_⟩
  · rw [hlo, hhi]
    exact toNat_lengthBytes f.fits
  · rw [← f.length_covered]
    exact map_range'_of_reads hcovered.left
  · exact Prod.ext (hchecksum 0 _ rfl) (hchecksum 1 _ rfl)

/-- **A message that is there is taken**: the parser gets to its class and identifier. -/
theorem lgwParseUbx_frame (h : Reads rd (f.bytes ++ rest)) {buffSize : ℕ}
    (hsize : f.bytes.length ≤ buffSize) (time : GpsTime) :
    let parse := lgwParseUbx rd buffSize time
    parse.msgSize = f.bytes.length
      ∧ parse.msg = (if f.cls = 0x01 ∧ f.id = 0x20 then .ubxNavTimegps else .ignored)
      ∧ parse.fieldReads = (if f.cls = 0x01 ∧ f.id = 0x20 then
          if rd 17 &&& 0x3 ≠ 0 then 17 :: List.range' 6 10 else [17] else [])
      ∧ parse.time = (if f.cls = 0x01 ∧ f.id = 0x20 then
          if rd 17 &&& 0x3 ≠ 0 then timeFields rd else { time with gpsTimeOk := false } else time)
      ∧ ∀ i ∈ parse.reads, i < f.bytes.length ∨ i ∈ parse.fieldReads := by
  obtain ⟨h0, h1, h2, h3, hlength, hcovered, hchecksum⟩ := reads_frame h
  have hbytes := f.length_bytes
  unfold lgwParseUbx
  rw [if_neg (by omega), if_neg (not_not.mpr h0), if_neg (not_not.mpr h1)]
  dsimp only
  rw [hlength, if_pos (by omega), hcovered,
    show 6 + f.payload.length + 2 - 2 = 6 + f.payload.length by omega,
    show 6 + f.payload.length + 2 - 1 = 6 + f.payload.length + 1 by omega, hchecksum, if_pos rfl,
    h2, h3]
  have hreads : ∀ i ∈ [0, 1, 4, 5, 6 + f.payload.length, 6 + f.payload.length + 1]
      ++ List.range' 2 (4 + f.payload.length), i < f.bytes.length := by
    intro i hi
    simp only [List.mem_append, List.mem_cons, List.not_mem_nil, or_false, List.mem_range'_1] at hi
    omega
  split_ifs with hclass hvalid
  · refine ⟨hbytes.symm, rfl, rfl, rfl, fun i hi => ?_⟩
    exact (List.mem_append.mp hi).imp_left (hreads i)
  · refine ⟨hbytes.symm, rfl, rfl, rfl, fun i hi => ?_⟩
    exact (List.mem_append.mp hi).imp_left (hreads i)
  · exact ⟨hbytes.symm, rfl, rfl, rfl, fun i hi => Or.inl (hreads i hi)⟩

/-- Six bytes, a payload of that length and two bytes more. -/
theorem exists_parts {buf : List UInt8} {n : ℕ} (h : 6 + n + 2 ≤ buf.length) :
    ∃ b0 b1 b2 b3 b4 b5 payload x y rest,
      buf = b0 :: b1 :: b2 :: b3 :: b4 :: b5 :: (payload ++ x :: y :: rest)
        ∧ payload.length = n := by
  obtain ⟨head, tail, rfl, hhead⟩ : ∃ head tail, buf = head ++ tail ∧ head.length = 6 :=
    ⟨buf.take 6, buf.drop 6, (List.take_append_drop _ _).symm, List.length_take_of_le (by omega)⟩
  rw [List.length_append] at h
  obtain ⟨payload, tail, rfl, hpayload⟩ :
      ∃ payload tail', tail = payload ++ tail' ∧ payload.length = n :=
    ⟨tail.take n, tail.drop n, (List.take_append_drop _ _).symm,
      List.length_take_of_le (by omega)⟩
  rw [List.length_append] at h
  obtain ⟨checksum, rest, rfl, hchecksum⟩ :
      ∃ checksum rest, tail = checksum ++ rest ∧ checksum.length = 2 :=
    ⟨tail.take 2, tail.drop 2, (List.take_append_drop _ _).symm,
      List.length_take_of_le (by omega)⟩
  match head, hhead, checksum, hchecksum with
  | [b0, b1, b2, b3, b4, b5], _, [x, y], _ =>
    exact ⟨b0, b1, b2, b3, b4, b5, payload, x, y, rest, rfl, hpayload⟩

/-- **What the parser accepts is a message**: sync characters, an announced length that is there
and a right checksum make one. -/
theorem exists_frame {buf : List UInt8} (h : Reads rd buf) (h0 : rd 0 = 0xB5) (h1 : rd 1 = 0x62)
    (hsize : 6 + ((rd 4).toNat + (rd 5).toNat * 256) + 2 ≤ buf.length)
    (hchecksum : fletcher ((List.range' 2 (4 + ((rd 4).toNat + (rd 5).toNat * 256))).map rd)
      = (rd (6 + ((rd 4).toNat + (rd 5).toNat * 256)),
        rd (6 + ((rd 4).toNat + (rd 5).toNat * 256) + 1))) :
    ∃ f rest, buf = UbxFrame.bytes f ++ rest := by
  obtain ⟨b0, b1, b2, b3, b4, b5, payload, x, y, rest, rfl, hpayload⟩ := exists_parts hsize
  have hlo : rd 4 = b4 := h 4 _ rfl
  have hhi : rd 5 = b5 := h 5 _ rfl
  have hb4 := b4.toNat_lt
  have hb5 := b5.toNat_lt
  rw [← hpayload] at hchecksum
  rw [hlo, hhi] at hpayload
  -- the bytes between the header and the two of the checksum are the payload
  let f : UbxFrame := ⟨b2, b3, payload, by omega⟩
  have hcovered : f.covered = b2 :: b3 :: b4 :: b5 :: payload := by
    show b2 :: b3 :: UInt8.ofNat (payload.length % 256) :: UInt8.ofNat (payload.length / 256)
      :: payload = _
    rw [hpayload, show (b4.toNat + b5.toNat * 256) % 256 = b4.toNat by omega,
      show (b4.toNat + b5.toNat * 256) / 256 = b5.toNat by omega, UInt8.ofNat_toNat,
      UInt8.ofNat_toNat]
  have htail : Reads (fun i => rd (2 + i)) (f.covered ++ (x :: y :: rest)) := by
    rw [hcovered]
    exact Reads.right (l := [b0, b1]) h
  have hread := htail.right
  have hoffset : ∀ i, 2 + (f.covered.length + i) = 6 + payload.length + i := by
    intro i
    rw [f.length_covered]
    show 2 + (4 + payload.length + i) = _
    omega
  simp only [hoffset] at hread
  -- the checksum is computed over what it covers in a message
  have hmap : (List.range' 2 (4 + payload.length)).map rd = f.covered := by
    have hlength : f.covered.length = 4 + payload.length := f.length_covered
    rw [← hlength]
    exact map_range'_of_reads htail.left
  have hx : rd (6 + payload.length) = x := hread 0 _ rfl
  have hy : rd (6 + payload.length + 1) = y := hread 1 _ rfl
  rw [hmap, hx, hy] at hchecksum
  refine ⟨f, rest, ?_⟩
  unfold UbxFrame.bytes
  rw [hchecksum, hcovered]
  have hsync0 : b0 = 0xB5 := (h 0 _ rfl).symm.trans h0
  have hsync1 : b1 = 0x62 := (h 1 _ rfl).symm.trans h1
  rw [hsync0, hsync1]
  simp only [List.cons_append, List.append_assoc, List.nil_append]

/-- **Where there is no message** the parser stays in the buffer and leaves the time, and takes
nothing. -/
theorem lgwParseUbx_not_frame {buf : List UInt8} (h : Reads rd buf)
    (hnot : ∀ f rest, buf ≠ UbxFrame.bytes f ++ rest) (time : GpsTime) :
    let parse := lgwParseUbx rd buf.length time
    parse.time = time ∧ parse.fieldReads = [] ∧ (∀ i ∈ parse.reads, i < buf.length)
      ∧ (parse.msgSize = 0 ∨ parse.msg = .incomplete ∨ parse.msg = .invalid) := by
  unfold lgwParseUbx
  dsimp only
  by_cases hshort : buf.length < 8
  · rw [if_pos hshort]
    exact ⟨rfl, rfl, fun i hi => absurd hi List.not_mem_nil, Or.inl rfl⟩
  rw [if_neg hshort]
  by_cases h0 : rd 0 = 0xB5
  · rw [if_neg (not_not.mpr h0)]
    by_cases h1 : rd 1 = 0x62
    · rw [if_neg (not_not.mpr h1)]
      generalize hn : (rd 4).toNat + (rd 5).toNat * 256 = n
      by_cases hsize : 6 + n + 2 ≤ buf.length
      · rw [if_pos hsize]
        -- a right checksum would make it a message
        have hchecksum : ¬ fletcher ((List.range' 2 (4 + n)).map rd)
            = (rd (6 + n + 2 - 2), rd (6 + n + 2 - 1)) := by
          rw [show 6 + n + 2 - 2 = 6 + n by omega, show 6 + n + 2 - 1 = 6 + n + 1 by omega]
          intro hck
          subst hn
          obtain ⟨f, rest, hf⟩ := exists_frame h h0 h1 hsize hck
          exact hnot f rest hf
        rw [if_neg hchecksum]
        refine ⟨rfl, rfl, fun i hi => ?_, Or.inr (Or.inr rfl)⟩
        simp only [List.mem_append, List.mem_cons, List.not_mem_nil, or_false,
          List.mem_range'_1] at hi
        omega
      · rw [if_neg hsize]
        refine ⟨rfl, rfl, fun i hi => ?_, Or.inr (Or.inl rfl)⟩
        simp only [List.mem_cons, List.not_mem_nil, or_false] at hi
        omega
    · rw [if_pos h1]
      refine ⟨rfl, rfl, fun i hi => ?_, Or.inl rfl⟩
      simp only [List.mem_cons, List.not_mem_nil, or_false] at hi
      omega
  · rw [if_pos h0]
    refine ⟨rfl, rfl, fun i hi => ?_, Or.inl rfl⟩
    rw [List.mem_singleton] at hi
    omega

/-- A stretch of the bytes from an offset on. -/
theorem map_range'_slice {k : ℕ} {l : List UInt8} (h : Reads (fun i => rd (k + i)) l) {a n : ℕ}
    (han : a + n ≤ l.length) : (List.range' (k + a) n).map rd = (l.drop a).take n := by
  have hsplit : l = l.take a ++ ((l.drop a).take n ++ (l.drop a).drop n) := by
    rw [List.take_append_drop, List.take_append_drop]
  have hfront : (l.take a).length = a := List.length_take_of_le (by omega)
  have hslice : ((l.drop a).take n).length = n :=
    List.length_take_of_le (by rw [List.length_drop]; omega)
  rw [hsplit] at h
  have hread := h.right.left
  rw [hfront] at hread
  have hmap := map_range'_of_reads (k := k + a) (hread.congr fun i => by rw [Nat.add_assoc])
  rwa [hslice] at hmap

/-- The payload of a message, from its offset on. -/
theorem reads_payload (h : Reads rd (f.bytes ++ rest)) :
    Reads (fun i => rd (6 + i)) f.payload := by
  have hbytes : f.bytes ++ rest
      = [0xB5, 0x62, f.cls, f.id, UInt8.ofNat (f.payload.length % 256),
          UInt8.ofNat (f.payload.length / 256)]
        ++ (f.payload ++ ([(fletcher f.covered).1, (fletcher f.covered).2] ++ rest)) := by
    unfold UbxFrame.bytes UbxFrame.covered
    simp only [List.cons_append, List.nil_append, List.append_assoc]
  rw [hbytes] at h
  exact h.right.left

/-- **A buffer begins with one message** at most. -/
theorem frame_unique {g : UbxFrame} {rest' : List UInt8} (hf : Reads rd (f.bytes ++ rest))
    (hg : Reads rd (g.bytes ++ rest')) : f = g := by
  obtain ⟨-, -, -, -, hflength, hfcovered, -⟩ := reads_frame hf
  obtain ⟨-, -, -, -, hglength, hgcovered, -⟩ := reads_frame hg
  have hcovered : f.covered = g.covered := by
    rw [← hfcovered, ← hgcovered, ← hflength, ← hglength]
  unfold UbxFrame.covered at hcovered
  simp only [List.cons.injEq] at hcovered
  cases f
  cases g
  obtain ⟨rfl, rfl, -, -, rfl⟩ := hcovered
  rfl

end Parse

/-! ## The GPS time -/

/-- **The buffer starts with the GPS time**: a message `NAV-TIMEGPS` with the full payload and
both bits of validity. Which lengths are full is open. -/
structure IsTimeGps (full : ℕ → Prop) (buf payload : List UInt8) : Prop where
  frame : ∃ fits rest, buf = (UbxFrame.mk 0x01 0x20 payload fits).bytes ++ rest
  full : full payload.length
  towValid : payload.getD 11 0 &&& 1 ≠ 0
  weekValid : payload.getD 11 0 &&& 2 ≠ 0

/-- The time that a payload holds. -/
def payloadTime (payload : List UInt8) : GpsTime where
  gpsTimeOk := true
  gpsWeek := (UInt16.ofNat (littleEndian ((payload.drop 8).take 2))).toInt16
  gpsITow := UInt32.ofNat (littleEndian (payload.take 4))
  gpsFTow := (UInt32.ofNat (littleEndian ((payload.drop 4).take 4))).toInt32

/-- **The parser is right**: it reads the buffer only, and field values in the message only; it
sets `gps_time_ok`, whatever it was, exactly when the buffer starts with the GPS time, and the
time is then that of the payload. -/
structure Right (full : ℕ → Prop) (buf : List UInt8) (parse : GpsTime → UbxParse) : Prop where
  reads : ∀ time, ∀ i ∈ (parse time).reads, i < buf.length
  fieldReads : ∀ time, ∀ i ∈ (parse time).fieldReads, i < (parse time).msgSize
  timeOk : (∀ time, (parse time).time.gpsTimeOk = true) ↔ ∃ payload, IsTimeGps full buf payload
  fields : ∀ payload, IsTimeGps full buf payload → ∀ time, (parse time).time = payloadTime payload

/-- **A message `NAV-TIMEGPS` is sound**: its byte of validity bits is there, and it has
neither bit, or the full payload and both. -/
def TimeSound (full : ℕ → Prop) (buf : List UInt8) : Prop :=
  ∀ f rest, buf = UbxFrame.bytes f ++ rest → f.cls = 0x01 → f.id = 0x20 →
    10 ≤ f.payload.length ∧ (f.bytes.getD 17 0 &&& 3 = 0
      ∨ full f.payload.length ∧ f.bytes.getD 17 0 &&& 3 = 3)

theorem and_three_cases (b : UInt8) : (b &&& 3 = 3 ↔ b &&& 1 ≠ 0 ∧ b &&& 2 ≠ 0) :=
  (by decide +kernel : ∀ x : Fin 256, (UInt8.ofFin x &&& 3 = 3
    ↔ UInt8.ofFin x &&& 1 ≠ 0 ∧ UInt8.ofFin x &&& 2 ≠ 0)) b.toFin

section Time

variable {full : ℕ → Prop} {buf : List UInt8}

/-- Where there is no message the parser is right. -/
theorem right_of_not_frame (past : ℕ → UInt8) (hnot : ∀ f rest, buf ≠ UbxFrame.bytes f ++ rest) :
    Right full buf (lgwParseUbx (memoryOf buf past) buf.length) := by
  have hparse := lgwParseUbx_not_frame (reads_memoryOf buf past) hnot
  have hnone : ∀ payload, ¬ IsTimeGps full buf payload := by
    rintro payload ⟨⟨fits, rest, hf⟩, -, -, -⟩
    exact hnot _ rest hf
  refine ⟨fun time => (hparse time).2.2.1, fun time i hi => ?_, ?_,
    fun payload h => absurd h (hnone payload)⟩
  · rw [(hparse time).2.1] at hi
    exact absurd hi List.not_mem_nil
  · refine iff_of_false (fun hall => ?_) fun ⟨payload, h⟩ => hnone payload h
    have htime := hall ⟨false, 0, 0, 0⟩
    rw [(hparse _).1] at htime
    exact absurd htime (by decide)

/-- The byte of validity bits is in the payload, if that is long enough. -/
theorem bytes_getD_validity (f : UbxFrame) (h : 12 ≤ f.payload.length) :
    f.bytes.getD 17 0 = f.payload.getD 11 0 := by
  have hbytes : f.bytes = 0xB5 :: 0x62 :: f.cls :: f.id :: UInt8.ofNat (f.payload.length % 256)
      :: UInt8.ofNat (f.payload.length / 256)
      :: (f.payload ++ [(fletcher f.covered).1, (fletcher f.covered).2]) := rfl
  rw [hbytes]
  simp only [List.getD_cons_succ]
  rw [List.getD_eq_getElem?_getD, List.getElem?_append_left (by omega),
    List.getD_eq_getElem?_getD]

/-- The fields at their offsets are those of the payload. -/
theorem timeFields_eq {rd : ℕ → UInt8} {f : UbxFrame} {rest : List UInt8}
    (h : Reads rd (f.bytes ++ rest)) (hlength : 12 ≤ f.payload.length) :
    timeFields rd = payloadTime f.payload := by
  have hpayload := reads_payload h
  have hweek := map_range'_slice hpayload (a := 8) (n := 2) (by omega)
  have hitow := map_range'_slice hpayload (a := 0) (n := 4) (by omega)
  have hftow := map_range'_slice hpayload (a := 4) (n := 4) (by omega)
  unfold timeFields payloadTime
  rw [hweek, hitow, hftow, List.drop_zero]

/-- When the buffer starts with the GPS time, if it starts with a message of its class. -/
theorem isTimeGps_iff (hfull : ∀ n, full n → 16 ≤ n) {f : UbxFrame} {rest : List UInt8}
    (hbuf : buf = f.bytes ++ rest) (hcls : f.cls = 0x01) (hid : f.id = 0x20)
    (payload : List UInt8) : IsTimeGps full buf payload
      ↔ payload = f.payload ∧ full f.payload.length ∧ f.bytes.getD 17 0 &&& 3 = 3 := by
  constructor
  · rintro ⟨⟨fits, rest', hg⟩, hlength, htow, hweek⟩
    have hunique : f = ⟨0x01, 0x20, payload, fits⟩ :=
      frame_unique (reads_memoryOf_of_eq hbuf fun _ => 0) (reads_memoryOf_of_eq hg _)
    have hpayload : f.payload = payload := by rw [hunique]
    subst hpayload
    have hsixteen := hfull _ hlength
    rw [bytes_getD_validity f (by omega)]
    exact ⟨rfl, hlength, (and_three_cases _).mpr ⟨htow, hweek⟩⟩
  · rintro ⟨rfl, hlength, hbits⟩
    have hsixteen := hfull _ hlength
    rw [bytes_getD_validity f (by omega), and_three_cases] at hbits
    refine ⟨⟨f.fits, rest, ?_⟩, hlength, hbits.1, hbits.2⟩
    rw [hbuf, ← hcls, ← hid]

/-- Of a message of another class or identifier the parser takes no time. -/
theorem right_of_other {f : UbxFrame} {rest : List UInt8} (past : ℕ → UInt8)
    (hbuf : buf = f.bytes ++ rest) (hother : ¬ (f.cls = 0x01 ∧ f.id = 0x20)) :
    Right full buf (lgwParseUbx (memoryOf buf past) buf.length) := by
  have hreads : Reads (memoryOf buf past) (f.bytes ++ rest) := reads_memoryOf_of_eq hbuf past
  have hle : f.bytes.length ≤ buf.length := by
    rw [hbuf, List.length_append]
    exact Nat.le_add_right _ _
  have hparse := lgwParseUbx_frame hreads hle
  have hnone : ∀ payload, ¬ IsTimeGps full buf payload := by
    rintro payload ⟨⟨fits, rest', hg⟩, -, -, -⟩
    -- two messages at the front of a buffer are one
    have hunique : f = ⟨0x01, 0x20, payload, fits⟩ :=
      frame_unique hreads (reads_memoryOf_of_eq hg past)
    rw [hunique] at hother
    exact hother ⟨rfl, rfl⟩
  have hfields : ∀ time, (lgwParseUbx (memoryOf buf past) buf.length time).fieldReads = [] := by
    intro time
    rw [(hparse time).2.2.1, if_neg hother]
  refine ⟨fun time i hi => ?_, fun time i hi => ?_, ?_, fun payload h => absurd h (hnone payload)⟩
  · obtain hlt | hfield := (hparse time).2.2.2.2 i hi
    · omega
    · rw [hfields] at hfield
      exact absurd hfield List.not_mem_nil
  · rw [hfields] at hi
    exact absurd hi List.not_mem_nil
  · refine iff_of_false (fun hall => ?_) fun ⟨payload, h⟩ => hnone payload h
    have htime := hall ⟨false, 0, 0, 0⟩
    rw [(hparse _).2.2.2.1, if_neg hother] at htime
    exact absurd htime (by decide)

/-- The byte with the bits is one of the frame, when there is one. -/
theorem memoryOf_validity (past : ℕ → UInt8) {f : UbxFrame} {rest : List UInt8}
    (hbuf : buf = f.bytes ++ rest) (hten : 10 ≤ f.payload.length) :
    memoryOf buf past 17 = f.bytes.getD 17 0 := by
  have hreads : Reads (memoryOf buf past) (f.bytes ++ rest) := reads_memoryOf_of_eq hbuf past
  have hbytes := f.length_bytes
  have hlt : 17 < f.bytes.length := by omega
  rw [List.getD_eq_getElem?_getD, List.getElem?_eq_getElem hlt, Option.getD_some]
  exact hreads.left 17 _ (List.getElem?_eq_getElem hlt)

/-- What has to be of a message for the parser to be right. -/
theorem bits_of_right (hfull : ∀ n, full n → 16 ≤ n) {past : ℕ → UInt8} {f : UbxFrame}
    {rest : List UInt8} (hbuf : buf = f.bytes ++ rest) (hcls : f.cls = 0x01) (hid : f.id = 0x20)
    (h : Right full buf (lgwParseUbx (memoryOf buf past) buf.length)) :
    10 ≤ f.payload.length ∧ (f.bytes.getD 17 0 &&& 3 = 0
      ∨ full f.payload.length ∧ f.bytes.getD 17 0 &&& 3 = 3) := by
  have hle : f.bytes.length ≤ buf.length := by
    rw [hbuf, List.length_append]
    exact Nat.le_add_right _ _
  have hbytes := f.length_bytes
  have hclass : f.cls = 0x01 ∧ f.id = 0x20 := ⟨hcls, hid⟩
  have hparse := lgwParseUbx_frame (reads_memoryOf_of_eq hbuf past) hle
  simp only [if_pos hclass] at hparse
  have hten : 10 ≤ f.payload.length := by
    obtain ⟨hsize, -, hfields, -⟩ := hparse ⟨false, 0, 0, 0⟩
    -- it always reads byte 17
    have hmem :
        17 ∈ (lgwParseUbx (memoryOf buf past) buf.length ⟨false, 0, 0, 0⟩).fieldReads := by
      rw [hfields]
      split_ifs <;> simp
    have hlt := h.fieldReads _ 17 hmem
    omega
  refine ⟨hten, ?_⟩
  rw [← memoryOf_validity past hbuf hten]
  by_cases hneither : memoryOf buf past 17 &&& 3 = 0
  · exact Or.inl hneither
  · -- the time is set, so it has to be the GPS time
    have hset : ∀ time,
        (lgwParseUbx (memoryOf buf past) buf.length time).time.gpsTimeOk = true := by
      intro time
      rw [(hparse time).2.2.2.1, if_pos hneither]
      rfl
    obtain ⟨payload, hgps⟩ := h.timeOk.mp hset
    rw [memoryOf_validity past hbuf hten]
    exact Or.inr ((isTimeGps_iff hfull hbuf hcls hid payload).mp hgps).2

theorem right_of_bits (hfull : ∀ n, full n → 16 ≤ n) (past : ℕ → UInt8) {f : UbxFrame}
    {rest : List UInt8} (hbuf : buf = f.bytes ++ rest) (hcls : f.cls = 0x01) (hid : f.id = 0x20)
    (hten : 10 ≤ f.payload.length) (hbits : f.bytes.getD 17 0 &&& 3 = 0
      ∨ full f.payload.length ∧ f.bytes.getD 17 0 &&& 3 = 3) :
    Right full buf (lgwParseUbx (memoryOf buf past) buf.length) := by
  have hreads : Reads (memoryOf buf past) (f.bytes ++ rest) := reads_memoryOf_of_eq hbuf past
  have hle : f.bytes.length ≤ buf.length := by
    rw [hbuf, List.length_append]
    exact Nat.le_add_right _ _
  have hbytes := f.length_bytes
  have hiff := isTimeGps_iff hfull hbuf hcls hid
  have hclass : f.cls = 0x01 ∧ f.id = 0x20 := ⟨hcls, hid⟩
  have hparse := lgwParseUbx_frame hreads hle
  simp only [if_pos hclass] at hparse
  rw [← memoryOf_validity past hbuf hten] at hbits hiff
  have hfieldReads : ∀ time, ∀ i ∈ (lgwParseUbx (memoryOf buf past) buf.length time).fieldReads,
      i < f.bytes.length := by
    intro time i hi
    rw [(hparse time).2.2.1] at hi
    split_ifs at hi <;> simp only [List.mem_cons, List.not_mem_nil, or_false,
      List.mem_range'_1] at hi <;> omega
  refine ⟨fun time i hi => ?_, fun time i hi => ?_, ?_, fun payload hgps time => ?_⟩
  · obtain hlt | hfield := (hparse time).2.2.2.2 i hi
    · omega
    · exact (hfieldReads time i hfield).trans_le hle
  · rw [(hparse time).1]
    exact hfieldReads time i hi
  · obtain hneither | ⟨hlength, hboth⟩ := hbits
    · -- with no bit set the parser does not set the time, and it is no message with the GPS time
      refine iff_of_false (fun hall => ?_) fun ⟨payload, hgps⟩ => ?_
      · have htime := hall ⟨false, 0, 0, 0⟩
        rw [(hparse _).2.2.2.1, if_neg (not_not.mpr hneither)] at htime
        exact absurd htime (by decide)
      · rw [((hiff payload).mp hgps).2.2] at hneither
        exact absurd hneither (by decide)
    · refine iff_of_true (fun time => ?_) ⟨f.payload, (hiff _).mpr ⟨rfl, hlength, hboth⟩⟩
      rw [(hparse time).2.2.2.1, if_pos (by rw [hboth]; decide)]
      rfl
  · obtain ⟨rfl, hlength, hboth⟩ := (hiff payload).mp hgps
    have hsixteen := hfull _ hlength
    rw [(hparse time).2.2.2.1, if_pos (by rw [hboth]; decide)]
    exact timeFields_eq hreads (by omega)

/-- **Of a message `NAV-TIMEGPS`** the parser is right when it is sound. -/
theorem right_iff_of_timeGps (hfull : ∀ n, full n → 16 ≤ n) (past : ℕ → UInt8) {f : UbxFrame}
    {rest : List UInt8} (hbuf : buf = f.bytes ++ rest) (hcls : f.cls = 0x01) (hid : f.id = 0x20) :
    Right full buf (lgwParseUbx (memoryOf buf past) buf.length)
      ↔ 10 ≤ f.payload.length ∧ (f.bytes.getD 17 0 &&& 3 = 0
        ∨ full f.payload.length ∧ f.bytes.getD 17 0 &&& 3 = 3) :=
  ⟨bits_of_right hfull hbuf hcls hid,
    fun ⟨hten, hbits⟩ => right_of_bits hfull past hbuf hcls hid hten hbits⟩

/-- **When the parser is right**: when a message `NAV-TIMEGPS` at the start of the buffer is
sound. -/
theorem right_iff_timeSound (hfull : ∀ n, full n → 16 ≤ n) (buf : List UInt8) (past : ℕ → UInt8) :
    Right full buf (lgwParseUbx (memoryOf buf past) buf.length) ↔ TimeSound full buf := by
  by_cases hframe : ∃ f rest, buf = UbxFrame.bytes f ++ rest
  · obtain ⟨f, rest, hbuf⟩ := hframe
    by_cases hclass : f.cls = 0x01 ∧ f.id = 0x20
    · rw [right_iff_of_timeGps hfull past hbuf hclass.1 hclass.2]
      refine ⟨fun h g rest' hg _ _ => ?_, fun h => h f rest hbuf hclass.1 hclass.2⟩
      have hunique : f = g :=
        frame_unique (reads_memoryOf_of_eq hbuf past) (reads_memoryOf_of_eq hg past)
      rwa [hunique] at h
    · refine iff_of_true (right_of_other past hbuf hclass) fun g rest' hg hcls hid => ?_
      have hunique : f = g :=
        frame_unique (reads_memoryOf_of_eq hbuf past) (reads_memoryOf_of_eq hg past)
      rw [hunique] at hclass
      exact absurd ⟨hcls, hid⟩ hclass
  · have hnot : ∀ f rest, buf ≠ UbxFrame.bytes f ++ rest := fun f rest h => hframe ⟨f, rest, h⟩
    exact iff_of_true (right_of_not_frame past hnot) fun f rest hf => absurd hf (hnot f rest)

end Time

/-- **When the parser is right**, whether a payload that is longer than that of the message
counts as full or not: when a message `NAV-TIMEGPS` at the start of the buffer is sound. -/
theorem lgwParseUbx_right_iff (buf : List UInt8) (past : ℕ → UInt8) :
    (Right (16 ≤ ·) buf (lgwParseUbx (memoryOf buf past) buf.length) ↔ TimeSound (16 ≤ ·) buf)
      ∧ (Right (· = 16) buf (lgwParseUbx (memoryOf buf past) buf.length)
        ↔ TimeSound (· = 16) buf) :=
  ⟨right_iff_timeSound (fun _ h => h) buf past, right_iff_timeSound (fun _ h => h.ge) buf past⟩

/-- A message `NAV-TIMEGPS` of which only the time of week is valid. -/
def towOnly : UbxFrame := ⟨0x01, 0x20, List.replicate 11 0 ++ [1, 0, 0, 0, 0], by decide⟩

/-- **One bit will do**: a time whose week is not valid is taken. -/
theorem towOnly_taken : ¬ ∀ buf past,
    Right (16 ≤ ·) buf (lgwParseUbx (memoryOf buf past) buf.length) := by
  intro h
  have hsound := (right_iff_timeSound (fun _ h => h) _ _).mp (h towOnly.bytes fun _ => 0)
  have hbits := hsound towOnly [] (List.append_nil _).symm rfl rfl
  revert hbits
  decide

end Gps
