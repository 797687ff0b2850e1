import MeshBeacon.Reads
import Mathlib.Data.Vector.Basic
import Mathlib.Tactic.Common

/-!
# Decoding the acknowledgement of SPI requests

The payload of an acknowledgement is one frame for each request, and each frame says
where the next one begins. `decode_ack_spi_bulk` walks from frame to frame and looks at the
type and the status of each.

It asks whether there is anything left before it reads a frame, but not whether the
frame is all there. So of a frame that is cut off it reads what lies behind the payload, or
takes it for complete. What it does right is decided by the first frame that is
not both complete and right: it has to be one that is refused for a type or a status that is
there.
-/

namespace SpiAck

/-! ## What the decoder reads -/

/-- `ORDER_ID__ACK_MULTIPLE_SPI`. -/
def orderIdAckMultipleSpi : UInt8 := 0x45

/-- `MCU_SPI_REQ_TYPE_READ_WRITE`. -/
def reqTypeReadWrite : UInt8 := 0x01

/-- `MCU_SPI_REQ_TYPE_READ_MODIFY_WRITE`. -/
def reqTypeReadModifyWrite : UInt8 := 0x02

/-- `cmd_get_size`. -/
def cmdGetSize (hdr : Vector UInt8 4) : ℕ := (hdr.get 1).toNat * 256 + (hdr.get 2).toNat

/-- `cmd_get_type`. -/
def cmdGetType (hdr : Vector UInt8 4) : UInt8 := hdr.get 3

/-- The loop of `decode_ack_spi_bulk`, from an index on: what is returned, and the indices that
are read. -/
def spiBulkLoop (payload : ℕ → UInt8) (size i : ℕ) : ℤ × List ℕ :=
  if i < size then
    let reqType := payload (i + 1)
    if reqType ≠ reqTypeReadWrite ∧ reqType ≠ reqTypeReadModifyWrite then (-1, [i, i + 1])
    else if payload (i + 2) ≠ 0 then (-1, [i, i + 1, i + 2])
    else if reqType = reqTypeReadWrite then
      let frameSize := (payload (i + 3)).toNat * 256 + (payload (i + 4)).toNat
      let rest := spiBulkLoop payload size (i + (5 + frameSize))
      (rest.1, [i, i + 1, i + 2, i + 3, i + 4] ++ rest.2)
    else
      let rest := spiBulkLoop payload size (i + 5)
      (rest.1, [i, i + 1, i + 2] ++ rest.2)
  else (0, [])
termination_by size - i

/-- `decode_ack_spi_bulk`. -/
def decodeAckSpiBulk (hdr : Vector UInt8 4) (payload : ℕ → UInt8) : ℤ × List ℕ :=
  if cmdGetType hdr ≠ orderIdAckMultipleSpi then (-1, [])
  else spiBulkLoop payload (cmdGetSize hdr) 0

/-! ## Acknowledgement frames -/

/-- **An acknowledgement frame** of a request that went well. The identifier is that of the
request. -/
inductive Frame where
  /-- Of a read or a write, with the bytes of the SPI frame. -/
  | readWrite (id : UInt8) (data : List UInt8) (fits : data.length < 2 ^ 16)
  /-- Of a modification, with the value before and after it. -/
  | readModifyWrite (id value modified : UInt8)

/-- The bytes of a frame. -/
def Frame.bytes : Frame → List UInt8
  | .readWrite id data _ =>
    id :: reqTypeReadWrite :: 0 :: UInt8.ofNat (data.length / 256)
      :: UInt8.ofNat (data.length % 256) :: data
  | .readModifyWrite id value modified => [id, reqTypeReadModifyWrite, 0, value, modified]

/-- **The payload is a concatenation of frames.** -/
def IsAck (payload : List UInt8) : Prop :=
  ∃ frames : List Frame, payload = frames.flatMap Frame.bytes

/-- **A frame is refused** for what is there of it: a type that is not known, or a status that
is not right. -/
def Refused : List UInt8 → Prop
  | _ :: reqType :: rest =>
    (reqType ≠ reqTypeReadWrite ∧ reqType ≠ reqTypeReadModifyWrite)
      ∨ ∃ status ∈ rest.head?, status ≠ 0
  | _ => False

/-- **The payload is settled**: after some frames it ends, or a frame is refused. -/
def Settled (payload : List UInt8) : Prop :=
  ∃ (frames : List Frame) (rest : List UInt8),
    payload = frames.flatMap Frame.bytes ++ rest ∧ (rest = [] ∨ Refused rest)

/-- **The decoder is right**: it reads the payload only, and returns 0 exactly when it is a
concatenation of frames. -/
structure Right (payload : List UInt8) (decoded : ℤ × List ℕ) : Prop where
  reads : ∀ i ∈ decoded.2, i < payload.length
  ret : decoded.1 = 0 ↔ IsAck payload

/-! ## The first frame -/

theorem Frame.five_le_length_bytes (f : Frame) : 5 ≤ f.bytes.length := by
  cases f with
  | readWrite id data fits => exact Nat.le_add_left 5 data.length
  | readModifyWrite id value modified => exact le_rfl

theorem Frame.bytes_ne_nil (f : Frame) : f.bytes ≠ [] :=
  List.ne_nil_of_length_pos (Nat.lt_of_lt_of_le (by decide) f.five_le_length_bytes)

/-- The length of a frame with so many bytes of data is read back. -/
theorem toNat_lengthBytes {n : ℕ} (h : n < 2 ^ 16) :
    (UInt8.ofNat (n / 256)).toNat * 256 + (UInt8.ofNat (n % 256)).toNat = n := by
  rw [UInt8.toNat_ofNat', UInt8.toNat_ofNat']
  omega

/-- **Frames are told apart by what they begin with.** -/
theorem Frame.bytes_append_inj {f g : Frame} {s t : List UInt8}
    (h : f.bytes ++ s = g.bytes ++ t) : f = g ∧ s = t := by
  cases f with
  | readWrite id data fits =>
    cases g with
    | readWrite id' data' fits' =>
      unfold Frame.bytes at h
      simp only [List.cons_append, List.cons.injEq, true_and] at h
      obtain ⟨rfl, hhi, hlo, hdata⟩ := h
      have hlen : data.length = data'.length := by
        rw [← toNat_lengthBytes fits, ← toNat_lengthBytes fits', hhi, hlo]
      obtain ⟨rfl, rfl⟩ := List.append_inj hdata hlen
      exact ⟨rfl, rfl⟩
    | readModifyWrite id' value' modified' =>
      unfold Frame.bytes at h
      simp only [List.cons_append, List.cons.injEq] at h
      exact absurd h.2.1 (by decide)
  | readModifyWrite id value modified =>
    cases g with
    | readWrite id' data' fits' =>
      unfold Frame.bytes at h
      simp only [List.cons_append, List.cons.injEq] at h
      exact absurd h.2.1 (by decide)
    | readModifyWrite id' value' modified' =>
      unfold Frame.bytes at h
      simp only [List.cons_append, List.nil_append, List.cons.injEq, true_and] at h
      obtain ⟨rfl, rfl, rfl, rfl⟩ := h
      exact ⟨rfl, rfl⟩

theorem not_refused_bytes_append (f : Frame) (s : List UInt8) : ¬ Refused (f.bytes ++ s) := by
  cases f <;> (unfold Frame.bytes Refused; simp [reqTypeReadWrite, reqTypeReadModifyWrite])

theorem isAck_nil : IsAck [] := ⟨[], rfl⟩

/-- A frame before it makes no difference to a concatenation of frames. -/
theorem isAck_bytes_append (f : Frame) (s : List UInt8) : IsAck (f.bytes ++ s) ↔ IsAck s := by
  constructor
  · rintro ⟨frames, h⟩
    cases frames with
    | nil => exact absurd (List.append_eq_nil_iff.mp h).1 f.bytes_ne_nil
    | cons g frames => exact ⟨frames, (Frame.bytes_append_inj h).2⟩
  · rintro ⟨frames, rfl⟩
    exact ⟨f :: frames, rfl⟩

theorem settled_bytes_append (f : Frame) (s : List UInt8) : Settled (f.bytes ++ s) ↔ Settled s := by
  constructor
  · rintro ⟨frames, rest, h, hrest⟩
    cases frames with
    | nil =>
      rw [List.flatMap_nil, List.nil_append] at h
      obtain rfl | hrefused := hrest
      · exact absurd (List.append_eq_nil_iff.mp h).1 f.bytes_ne_nil
      · rw [← h] at hrefused
        exact absurd hrefused (not_refused_bytes_append f s)
    | cons g frames =>
      rw [List.flatMap_cons, List.append_assoc] at h
      exact ⟨frames, rest, (Frame.bytes_append_inj h).2, hrest⟩
  · rintro ⟨frames, rest, rfl, hrest⟩
    exact ⟨f :: frames, rest, (List.append_assoc _ _ _).symm, hrest⟩

/-- What is refused is no concatenation of frames. -/
theorem not_isAck_of_refused {s : List UInt8} (h : Refused s) : ¬ IsAck s := by
  rintro ⟨frames, rfl⟩
  cases frames with
  | nil => exact h
  | cons f frames => exact not_refused_bytes_append f _ h

/-- **The payload begins with a frame that is cut off.** -/
def CutOff (s : List UInt8) : Prop := s ≠ [] ∧ ¬ Refused s ∧ ∀ f t, s ≠ Frame.bytes f ++ t

theorem CutOff.not_isAck {s : List UInt8} (h : CutOff s) : ¬ IsAck s := by
  rintro ⟨frames, rfl⟩
  cases frames with
  | nil => exact h.1 rfl
  | cons f frames => exact h.2.2 f _ rfl

theorem CutOff.not_settled {s : List UInt8} (h : CutOff s) : ¬ Settled s := by
  rintro ⟨frames, rest, rfl, hrest⟩
  cases frames with
  | nil =>
    obtain rfl | hrefused := hrest
    · exact h.1 rfl
    · exact h.2.1 hrefused
  | cons f frames => exact h.2.2 f _ (List.append_assoc _ _ _)

/-! ## One pass of the loop -/

/-- **What is left of the payload**: from the index to the end there are these bytes. -/
structure At (payload : ℕ → UInt8) (size i : ℕ) (s : List UInt8) : Prop where
  length : size = i + s.length
  reads : Reads (fun k => payload (i + k)) s

theorem At.byte {payload : ℕ → UInt8} {size i : ℕ} {s : List UInt8} (h : At payload size i s)
    (k : ℕ) (hk : k < s.length) : payload (i + k) = s[k] :=
  h.reads k _ (List.getElem?_eq_getElem hk)

/-- **The rest of the walk is right.** -/
structure RightAt (size : ℕ) (s : List UInt8) (walked : ℤ × List ℕ) : Prop where
  reads : ∀ a ∈ walked.2, a < size
  ret : walked.1 = 0 ↔ IsAck s

section Pass

variable {payload : ℕ → UInt8} {size i : ℕ} {s : List UInt8}

/-- Past the first bytes there are the others. -/
theorem At.append {t u : List UInt8} (h : At payload size i (t ++ u)) :
    At payload size (i + t.length) u where
  length := by
    rw [h.length, List.length_append, Nat.add_assoc]
  reads := h.reads.right.congr fun k => by rw [Nat.add_assoc]

theorem spiBulkLoop_nil (h : At payload size i []) : spiBulkLoop payload size i = (0, []) := by
  have hlength := h.length
  rw [spiBulkLoop, if_neg (by simpa using hlength.le)]

/-- **A frame that is refused** ends the walk with an error, and is read only as far as it is
there. -/
theorem spiBulkLoop_refused (h : At payload size i s) (hrefused : Refused s) :
    (spiBulkLoop payload size i).1 = -1
      ∧ ∀ a ∈ (spiBulkLoop payload size i).2, a < size := by
  match s, hrefused with
  | id :: reqType :: rest, hrefused =>
    have hlength : size = i + (rest.length + 2) := h.length
    have htype : payload (i + 1) = reqType := h.byte 1 (by simp)
    rw [spiBulkLoop, if_pos (by omega)]
    dsimp only
    rw [htype]
    by_cases hunknown : reqType ≠ reqTypeReadWrite ∧ reqType ≠ reqTypeReadModifyWrite
    · rw [if_pos hunknown]
      simp
      omega
    · obtain ⟨status, hhead, hstatus⟩ := hrefused.resolve_left hunknown
      cases rest with
      | nil => exact absurd hhead (by simp)
      | cons status' rest =>
        obtain rfl : status' = status := by simpa using hhead
        have hbyte : payload (i + 2) = status' := h.byte 2 (by simp)
        rw [List.length_cons] at hlength
        rw [if_neg hunknown, hbyte, if_pos hstatus]
        simp
        omega

/-- **A frame that is there** is passed over. -/
theorem spiBulkLoop_bytes {f : Frame} (h : At payload size i (f.bytes ++ s)) :
    (spiBulkLoop payload size i).1 = (spiBulkLoop payload size (i + f.bytes.length)).1
      ∧ ((∀ a ∈ (spiBulkLoop payload size i).2, a < size)
        ↔ ∀ a ∈ (spiBulkLoop payload size (i + f.bytes.length)).2, a < size) := by
  have hlength := h.length
  rw [List.length_append] at hlength
  cases f with
  | readWrite id data fits =>
    have htype : payload (i + 1) = reqTypeReadWrite := h.byte 1 (by simp [Frame.bytes])
    have hstatus : payload (i + 2) = 0 := h.byte 2 (by simp [Frame.bytes])
    have hhi : payload (i + 3) = UInt8.ofNat (data.length / 256) :=
      h.byte 3 (by simp [Frame.bytes])
    have hlo : payload (i + 4) = UInt8.ofNat (data.length % 256) :=
      h.byte 4 (by simp [Frame.bytes])
    have hbytes : (Frame.readWrite id data fits).bytes.length = 5 + data.length := by
      unfold Frame.bytes
      simp only [List.length_cons]
      omega
    rw [hbytes] at hlength ⊢
    rw [spiBulkLoop, if_pos (by omega)]
    dsimp only
    -- the length in the frame is that of its data, so the walk goes on right behind it
    rw [htype, hstatus, hhi, hlo, toNat_lengthBytes fits, if_neg (by decide), if_neg (by decide),
      if_pos rfl]
    refine ⟨rfl, ?_⟩
    simp only [List.cons_append, List.nil_append, List.forall_mem_cons]
    exact ⟨fun h => h.2.2.2.2.2,
      fun h => ⟨by omega, by omega, by omega, by omega, by omega, h⟩⟩
  | readModifyWrite id value modified =>
    have htype : payload (i + 1) = reqTypeReadModifyWrite := h.byte 1 (by simp [Frame.bytes])
    have hstatus : payload (i + 2) = 0 := h.byte 2 (by simp [Frame.bytes])
    have hbytes : (Frame.readModifyWrite id value modified).bytes.length = 5 := rfl
    rw [hbytes] at hlength ⊢
    rw [spiBulkLoop, if_pos (by omega)]
    dsimp only
    -- every other frame is five bytes long
    rw [htype, hstatus, if_neg (by decide), if_neg (by decide), if_neg (by decide)]
    refine ⟨rfl, ?_⟩
    simp only [List.cons_append, List.nil_append, List.forall_mem_cons]
    exact ⟨fun h => h.2.2.2, fun h => ⟨by omega, by omega, by omega, h⟩⟩

theorem spiBulkLoop_of_le {j : ℕ} (h : size ≤ j) : spiBulkLoop payload size j = (0, []) := by
  rw [spiBulkLoop, if_neg (Nat.not_lt.mpr h)]

/-- The bytes of a length are those of the number. -/
theorem ofNat_lengthBytes (hi lo : UInt8) :
    UInt8.ofNat ((hi.toNat * 256 + lo.toNat) / 256) = hi
      ∧ UInt8.ofNat ((hi.toNat * 256 + lo.toNat) % 256) = lo := by
  have hhi := hi.toNat_lt
  have hlo := lo.toNat_lt
  rw [show (hi.toNat * 256 + lo.toNat) / 256 = hi.toNat by omega,
    show (hi.toNat * 256 + lo.toNat) % 256 = lo.toNat by omega]
  exact ⟨UInt8.ofNat_toNat, UInt8.ofNat_toNat⟩

/-- Bytes that begin a read or a write are cut off only if there is too little data. -/
theorem lt_of_cutOff_readWrite {id hi lo : UInt8} {data : List UInt8}
    (h : CutOff (id :: reqTypeReadWrite :: 0 :: hi :: lo :: data)) :
    data.length < hi.toNat * 256 + lo.toNat := by
  by_contra hle
  have hhi := hi.toNat_lt
  have hlo := lo.toNat_lt
  obtain ⟨front, rest, rfl, hfront⟩ :
      ∃ front rest, data = front ++ rest ∧ front.length = hi.toNat * 256 + lo.toNat :=
    ⟨data.take (hi.toNat * 256 + lo.toNat), data.drop (hi.toNat * 256 + lo.toNat),
      (List.take_append_drop _ _).symm, List.length_take_of_le (Nat.not_lt.mp hle)⟩
  refine h.2.2 (.readWrite id front (by omega)) rest ?_
  show _ = id :: reqTypeReadWrite :: 0 :: UInt8.ofNat (front.length / 256)
    :: UInt8.ofNat (front.length % 256) :: (front ++ rest)
  rw [hfront, (ofNat_lengthBytes hi lo).1, (ofNat_lengthBytes hi lo).2]

theorem exists_five_bytes : ∀ {s : List UInt8}, ¬ s.length < 5 →
    ∃ id reqType status hi lo data, s = id :: reqType :: status :: hi :: lo :: data
  | id :: reqType :: status :: hi :: lo :: data, _ => ⟨id, reqType, status, hi, lo, data, rfl⟩
  | [], h | [_], h | [_, _], h | [_, _, _], h | [_, _, _, _], h => absurd (by simp) h

/-- **A frame that is cut off** is read behind the payload, or taken for complete. -/
theorem spiBulkLoop_cutOff (h : At payload size i s) (hcut : CutOff s) :
    (∃ a ∈ (spiBulkLoop payload size i).2, size ≤ a) ∨ (spiBulkLoop payload size i).1 = 0 := by
  have hlength := h.length
  have hpos := List.length_pos_iff.mpr hcut.1
  rw [spiBulkLoop, if_pos (by omega)]
  dsimp only
  by_cases hunknown : payload (i + 1) ≠ reqTypeReadWrite ∧ payload (i + 1) ≠ reqTypeReadModifyWrite
  · -- the type is not known, and so not that of the payload: there is none
    rw [if_pos hunknown]
    refine Or.inl ⟨i + 1, by simp, ?_⟩
    match s, h, hcut with
    | [id], h, hcut => exact h.length.le
    | id :: reqType :: rest, h, hcut =>
      rw [h.byte 1 (by simp)] at hunknown
      exact absurd (Or.inl hunknown) hcut.2.1
  · rw [if_neg hunknown]
    by_cases hstatus : payload (i + 2) ≠ 0
    · -- nor is the status
      rw [if_pos hstatus]
      refine Or.inl ⟨i + 2, by simp, ?_⟩
      match s, h, hcut with
      | [id], h, hcut => rw [h.length]; simp
      | [id, reqType], h, hcut => exact h.length.le
      | id :: reqType :: status :: rest, h, hcut =>
        rw [h.byte 2 (by simp)] at hstatus
        exact absurd (Or.inr ⟨status, by simp, hstatus⟩) hcut.2.1
    · rw [if_neg hstatus]
      by_cases hshort : s.length < 5
      · -- the walk goes on behind the payload
        split_ifs with hread
        · exact Or.inl ⟨i + 4, by simp, by omega⟩
        · rw [spiBulkLoop_of_le (by omega)]
          exact Or.inr rfl
      · obtain ⟨id, reqType, status, hi, lo, data, rfl⟩ := exists_five_bytes hshort
        have htype : payload (i + 1) = reqType := h.byte 1 (by simp)
        have hzero : status = 0 := (h.byte 2 (by simp)).symm.trans (not_not.mp hstatus)
        rw [htype] at hunknown ⊢
        subst hzero
        split_ifs with hread
        · have hdata := lt_of_cutOff_readWrite (hread ▸ hcut)
          have hhi : payload (i + 3) = hi := h.byte 3 (by simp)
          have hlo : payload (i + 4) = lo := h.byte 4 (by simp)
          rw [hhi, hlo, spiBulkLoop_of_le (by simp only [List.length_cons] at hlength; omega)]
          exact Or.inr rfl
        · have hmodify : reqType = reqTypeReadModifyWrite := by
            by_contra hne
            exact hunknown ⟨hread, hne⟩
          exact absurd (hmodify ▸ rfl) (hcut.2.2 (.readModifyWrite id hi lo) data)

end Pass

/-! ## The walk -/

/-- **When the rest of the walk is right**: when what is left is settled. -/
theorem rightAt_iff {payload : ℕ → UInt8} {size i : ℕ} (s : List UInt8)
    (h : At payload size i s) : RightAt size s (spiBulkLoop payload size i) ↔ Settled s := by
  induction hn : s.length using Nat.strong_induction_on generalizing i s with
  | _ n ih =>
    by_cases hnil : s = []
    · subst hnil
      rw [spiBulkLoop_nil h]
      exact iff_of_true ⟨fun a ha => absurd ha List.not_mem_nil, iff_of_true rfl isAck_nil⟩
        ⟨[], [], rfl, Or.inl rfl⟩
    · by_cases hrefused : Refused s
      · obtain ⟨hret, hreads⟩ := spiBulkLoop_refused h hrefused
        refine iff_of_true ⟨hreads, ?_⟩ ⟨[], s, rfl, Or.inr hrefused⟩
        rw [hret]
        exact iff_of_false (by decide) (not_isAck_of_refused hrefused)
      · by_cases hframe : ∃ f t, s = Frame.bytes f ++ t
        · obtain ⟨f, t, rfl⟩ := hframe
          obtain ⟨hret, hreads⟩ := spiBulkLoop_bytes h
          have hpos := List.length_pos_iff.mpr f.bytes_ne_nil
          rw [List.length_append] at hn
          rw [settled_bytes_append, ← ih t.length (by omega) t h.append rfl]
          refine ⟨fun hright => ⟨hreads.mp hright.reads, ?_⟩,
            fun hright => ⟨hreads.mpr hright.reads, ?_⟩⟩
          · rw [← hret, ← isAck_bytes_append f]
            exact hright.ret
          · rw [hret, isAck_bytes_append]
            exact hright.ret
        · have hcut : CutOff s := ⟨hnil, hrefused, fun f t heq => hframe ⟨f, t, heq⟩⟩
          refine iff_of_false (fun hright => ?_) hcut.not_settled
          obtain ⟨a, ha, hle⟩ | hret := spiBulkLoop_cutOff h hcut
          · exact absurd (hright.reads a ha) (Nat.not_lt.mpr hle)
          · exact hcut.not_isAck (hright.ret.mp hret)

/-- **When the decoder is right**: when the payload is a concatenation of frames, or has a
frame that is refused after some that are there. It does not depend on what lies behind the
payload. -/
theorem decodeAckSpiBulk_right_iff (hdr : Vector UInt8 4) (payload : List UInt8) (past : ℕ → UInt8)
    (htype : cmdGetType hdr = orderIdAckMultipleSpi) (hsize : cmdGetSize hdr = payload.length) :
    Right payload (decodeAckSpiBulk hdr (memoryOf payload past)) ↔ Settled payload := by
  have hat : At (memoryOf payload past) payload.length 0 payload := by
    refine ⟨(Nat.zero_add _).symm, (reads_memoryOf payload past).congr fun k => ?_⟩
    rw [Nat.zero_add]
  unfold decodeAckSpiBulk
  rw [if_neg (not_not.mpr htype), hsize, ← rightAt_iff payload hat]
  exact ⟨fun h => ⟨h.reads, h.ret⟩, fun h => ⟨h.reads, h.ret⟩⟩

/-- A modification and a read of two bytes. -/
theorem decodeAckSpiBulk_right_iff_two :
    Right [0, 2, 0, 0x0F, 0x1F, 1, 1, 0, 0, 2, 0xAA, 0xBB]
        (decodeAckSpiBulk #v[7, 0, 12, 0x45]
          (memoryOf [0, 2, 0, 0x0F, 0x1F, 1, 1, 0, 0, 2, 0xAA, 0xBB] fun _ => 0))
      ↔ Settled [0, 2, 0, 0x0F, 0x1F, 1, 1, 0, 0, 2, 0xAA, 0xBB] :=
  decodeAckSpiBulk_right_iff _ _ _ (by decide) (by decide)

/-- **A frame of three bytes is taken for complete**: that of a modification, without the
values. -/
theorem cutOff_taken : ¬ ∀ hdr payload past, cmdGetType hdr = orderIdAckMultipleSpi →
    cmdGetSize hdr = payload.length →
      Right payload (decodeAckSpiBulk hdr (memoryOf payload past)) := by
  intro h
  have hat : At (memoryOf [0, 2, 0] fun _ => 0) 3 0 [0, 2, 0] :=
    ⟨rfl, (reads_memoryOf _ _).congr fun k => by rw [Nat.zero_add]⟩
  have hright := h #v[7, 0, 3, 0x45] [0, 2, 0] (fun _ => 0) (by decide) (by decide)
  have hcut : CutOff [0, 2, 0] := by
    refine ⟨by simp, by simp [Refused, reqTypeReadModifyWrite], fun f t heq => ?_⟩
    have hlength := congrArg List.length heq
    have hfive := f.five_le_length_bytes
    rw [List.length_append] at hlength
    exact absurd hlength (by simp; omega)
  exact hcut.not_settled ((rightAt_iff _ hat).mp ⟨hright.reads, hright.ret⟩)

end SpiAck
