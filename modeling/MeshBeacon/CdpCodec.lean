import MeshBeacon.Duck
import Mathlib.Data.List.GetD
import Mathlib.Data.UInt

/-!
# Writing and reading a frame

The writer appends the fields of a packet one after the other, the reader takes
them from fixed positions, and the radio checks the length and the CRC before
anything is read. The three agree on every packet whose data fills the data
section: the frame written is accepted and read back, and a frame that is
accepted is the one written for the packet read from it.

A field read at the end of what precedes it is the field written there
(`bytesAt_of_eq`); the fields read one after the other make up the buffer
again (`bytesAt_append_drop`).
-/

/-! ## Fields of a buffer -/

theorem byteAt_of_eq {i : ℕ} {buffer before after : List UInt8} {b : UInt8}
    (h : buffer = before ++ b :: after) (hbefore : before.length = i) : byteAt buffer i = b := by
  subst hbefore h
  unfold byteAt
  rw [List.getD_append_right _ _ _ _ (Nat.le_refl _), Nat.sub_self]
  rfl

theorem byteAt_cons_drop {buffer : List UInt8} {i : ℕ} (h : i < buffer.length) :
    byteAt buffer i :: buffer.drop (i + 1) = buffer.drop i := by
  unfold byteAt
  rw [List.getD_eq_getElem _ _ h]
  exact List.getElem_cons_drop h

/-- The bytes of a field are those of the buffer from its position on. -/
theorem toList_bytesAt {n : ℕ} {buffer : List UInt8} {i : ℕ} (h : i + n ≤ buffer.length) :
    (bytesAt n buffer i).toList = (buffer.drop i).take n := by
  refine List.ext_getElem ?_ fun k hk _ => ?_
  · rw [Vector.length_toList, List.length_take, List.length_drop]
    exact (Nat.min_eq_left (Nat.le_sub_of_add_le' h)).symm
  · rw [Vector.length_toList] at hk
    rw [Vector.getElem_toList, List.getElem_take, List.getElem_drop]
    unfold bytesAt byteAt
    rw [Vector.getElem_ofFn]
    exact List.getD_eq_getElem _ _ (Nat.lt_of_lt_of_le (Nat.add_lt_add_left hk i) h)

/-- **A field is read where it was written.** -/
theorem bytesAt_of_eq {n i : ℕ} {buffer before field after : List UInt8}
    (h : buffer = before ++ (field ++ after)) (hbefore : before.length = i)
    (hfield : field.length = n) : (bytesAt n buffer i).toList = field := by
  subst hbefore hfield h
  rw [toList_bytesAt, List.drop_left, List.take_left]
  rw [List.length_append, List.length_append, ← Nat.add_assoc]
  exact Nat.le_add_right _ _

/-- **A field and the bytes behind it.** -/
theorem bytesAt_append_drop {n : ℕ} {buffer : List UInt8} {i : ℕ} (h : i + n ≤ buffer.length) :
    (bytesAt n buffer i).toList ++ buffer.drop (i + n) = buffer.drop i := by
  rw [toList_bytesAt h, ← List.drop_drop]
  exact List.take_append_drop n _

/-! ## The frame of a packet -/

namespace CdpPacket

variable (packet : CdpPacket)

theorem length_frame : packet.frame.length = headerLength + packet.data.length := by
  unfold frame crcBytes
  simp only [List.length_append, Vector.length_toList, List.length_cons, List.length_nil]
  rfl

/-- **Reading a frame that was written** gives the packet, with its CRC. -/
theorem ofBuffer_frame : ofBuffer packet.frame =
    { packet with dcrc := crc32Calculate packet.data, buffer := packet.frame } := by
  have hframe : packet.frame = packet.sduid.toList ++ (packet.dduid.toList ++ (packet.muid.toList
      ++ ([packet.topic] ++ ([packet.duckType] ++ ([packet.hopCount] ++
        (crcBytes (crc32Calculate packet.data) ++ packet.data)))))) := by
    unfold frame
    simp only [List.append_assoc, List.cons_append, List.nil_append]
  have hmuid := hframe.trans (List.append_assoc _ _ _).symm
  have htopic := hmuid.trans (List.append_assoc _ _ _).symm
  have hduckType := htopic.trans (List.append_assoc _ _ _).symm
  have hhopCount := hduckType.trans (List.append_assoc _ _ _).symm
  have hdcrc := hhopCount.trans (List.append_assoc _ _ _).symm
  have hdata := hdcrc.trans (List.append_assoc _ _ _).symm
  unfold ofBuffer
  rw [CdpPacket.mk.injEq]
  refine ⟨Vector.toList_inj.mp ?_, Vector.toList_inj.mp ?_, Vector.toList_inj.mp ?_, ?_, ?_, ?_,
    toList_eq_crcBytes.mp ?_, ?_, rfl⟩
  · exact @bytesAt_of_eq _ _ _ [] _ _ hframe rfl Vector.length_toList
  · exact bytesAt_of_eq hframe Vector.length_toList Vector.length_toList
  · exact bytesAt_of_eq hmuid (by simp [muidPos]) Vector.length_toList
  · exact byteAt_of_eq htopic (by simp [topicPos])
  · exact byteAt_of_eq hduckType (by simp [duckTypePos])
  · exact byteAt_of_eq hhopCount (by simp [hopCountPos])
  · exact bytesAt_of_eq hdcrc (by simp [dataCrcPos]) rfl
  · rw [hdata]
    exact List.drop_left' (by simp [dataPos, headerLength, crcBytes])

/-- A frame is accepted when it has a header and the CRC read is that of the
data read. -/
theorem acceptable_iff {packetBytes : List UInt8} : DuckLoRa.acceptable packetBytes ↔
    headerLength ≤ packetBytes.length
      ∧ crc32Calculate (ofBuffer packetBytes).data = (ofBuffer packetBytes).dcrc := by
  unfold DuckLoRa.acceptable
  rw [Bool.and_eq_true, Bool.and_eq_true, decide_eq_true_iff, decide_eq_true_iff,
    decide_eq_true_iff]
  exact and_congr_left fun _ => ⟨fun h => h.2,
    fun h => ⟨Nat.lt_of_lt_of_le (by decide : dataCrcPos < headerLength) h, h⟩⟩

/-- **A frame that was written is accepted.** -/
theorem acceptable_frame : DuckLoRa.acceptable packet.frame := by
  rw [acceptable_iff, ofBuffer_frame, length_frame]
  exact ⟨Nat.le_add_right _ _, rfl⟩

/-- **Writing a packet read from a frame that is accepted** gives the frame. -/
theorem frame_ofBuffer {packetBytes : List UInt8} (h : DuckLoRa.acceptable packetBytes) :
    (ofBuffer packetBytes).frame = packetBytes := by
  obtain ⟨hlen, hcrc⟩ := acceptable_iff.mp h
  have hdcrc : crcBytes (crc32Calculate (ofBuffer packetBytes).data)
      = (bytesAt 4 packetBytes dataCrcPos).toList := by
    rw [hcrc]
    exact (toList_eq_crcBytes.mpr rfl).symm
  unfold frame
  rw [hdcrc]
  simp only [List.append_assoc, List.cons_append, List.nil_append]
  calc _ = (bytesAt 8 packetBytes 0).toList ++ ((bytesAt 8 packetBytes 8).toList
          ++ ((bytesAt 4 packetBytes 16).toList ++ (byteAt packetBytes 20 :: byteAt packetBytes 21
            :: byteAt packetBytes 22 :: ((bytesAt 4 packetBytes 23).toList
              ++ packetBytes.drop 27)))) := rfl
    _ = packetBytes := by
      rw [bytesAt_append_drop hlen, byteAt_cons_drop (Nat.lt_of_lt_of_le (by decide) hlen),
        byteAt_cons_drop (Nat.lt_of_lt_of_le (by decide) hlen),
        byteAt_cons_drop (Nat.lt_of_lt_of_le (by decide) hlen),
        bytesAt_append_drop (Nat.le_trans (by decide) hlen),
        bytesAt_append_drop (Nat.le_trans (by decide) hlen),
        bytesAt_append_drop (Nat.le_trans (by decide) hlen), List.drop_zero]

/-- **A packet whose data fills its section is sent as its frame.** The length is
that of the data, for it fits the byte it is kept in. -/
theorem prepareForSending_of_length (hpos : 1 ≤ packet.data.length)
    (hle : packet.data.length ≤ maxDataLength) :
    packet.prepareForSending = (duckErrNone, { packet with buffer := packet.frame }) := by
  have hbyte : (UInt8.ofNat packet.data.length).toNat = packet.data.length :=
    Nat.mod_eq_of_lt (Nat.lt_of_le_of_lt hle (by decide))
  unfold prepareForSending
  refine if_neg ?_
  rw [hbyte]
  exact not_or.mpr ⟨List.ne_nil_of_length_pos hpos, Nat.not_lt.mpr hle⟩

end CdpPacket

/-- A radio hands over the frames it has taken from the bridge and accepts. -/
theorem DuckLoRa.readReceivedData_eq_some {S : Type*} {radio : DuckLoRa S}
    {packetBytes : List UInt8} : radio.readReceivedData.1 = some packetBytes ↔
      radio.isSetup ∧ radio.popUplinkPacket.1 = packetBytes ∧ acceptable packetBytes := by
  unfold readReceivedData
  dsimp only
  split_ifs with hsetup hacc
  · rw [Option.some_inj]
    exact ⟨fun h => ⟨hsetup, h, h ▸ hacc⟩, fun h => h.2.1⟩
  · exact ⟨nofun, fun h => absurd (h.2.1 ▸ h.2.2) hacc⟩
  · exact ⟨nofun, fun h => absurd h.1 hsetup⟩

/-! ## The round trip -/

/-- **The frames of the mesh round trip.** A packet with data that fills its
section is sent as a frame every radio that takes it from the bridge hands over,
and the packet read from it differs from the one sent only in its CRC, which is
that of the data. A frame that a radio hands over, with such data, is the frame
the packet read from it is sent as. -/
theorem cdpPacket_roundTrip (S : Type*) :
    (∀ packet : CdpPacket, 1 ≤ packet.data.length → packet.data.length ≤ maxDataLength →
      ∃ packetBytes, packet.prepareForSending = (duckErrNone, { packet with buffer := packetBytes })
        ∧ (∀ radio : DuckLoRa S, radio.isSetup → radio.popUplinkPacket.1 = packetBytes →
          radio.readReceivedData.1 = some packetBytes)
        ∧ CdpPacket.ofBuffer packetBytes =
          { packet with dcrc := crc32Calculate packet.data, buffer := packetBytes })
      ∧ ∀ (radio : DuckLoRa S) (packetBytes : List UInt8),
        radio.readReceivedData.1 = some packetBytes →
        1 ≤ (CdpPacket.ofBuffer packetBytes).data.length →
        (CdpPacket.ofBuffer packetBytes).data.length ≤ maxDataLength →
        (CdpPacket.ofBuffer packetBytes).prepareForSending
          = (duckErrNone, CdpPacket.ofBuffer packetBytes) := by
  refine ⟨fun packet hpos hle => ⟨packet.frame, packet.prepareForSending_of_length hpos hle,
    fun radio hsetup hpop => ?_, packet.ofBuffer_frame⟩, fun radio packetBytes hread hpos hle => ?_⟩
  · exact DuckLoRa.readReceivedData_eq_some.mpr ⟨hsetup, hpop, packet.acceptable_frame⟩
  · obtain ⟨-, -, hacc⟩ := DuckLoRa.readReceivedData_eq_some.mp hread
    rw [CdpPacket.prepareForSending_of_length _ hpos hle, CdpPacket.frame_ofBuffer hacc]
    rfl

/-- A packet with one byte of data. -/
def shortPacket : CdpPacket :=
  CdpPacket.forSending broadcastDuid 0x10 [0x2A] papaduckDuid 0x02

/-- Both directions at a packet with one byte of data. -/
theorem cdpPacket_roundTrip_shortPacket :
    (∃ packetBytes, CdpPacket.ofBuffer packetBytes =
      { shortPacket with dcrc := crc32Calculate [0x2A], buffer := packetBytes })
      ∧ (CdpPacket.ofBuffer shortPacket.frame).prepareForSending
        = (duckErrNone, CdpPacket.ofBuffer shortPacket.frame) :=
  ⟨((cdpPacket_roundTrip ℕ).1 shortPacket (by decide) (by decide)).imp fun _ h => h.2.2,
    (cdpPacket_roundTrip ℕ).2
      ⟨true, true, 0, 7, 0, [⟨shortPacket.frame, 0, 7, 0⟩], []⟩ shortPacket.frame
      (by decide) (by decide) (by decide)⟩

/-! ## The sizes that are accepted

The length is compared when it is in a byte already, so a length of 256 or more is
compared as its remainder, and one whose remainder is small is taken for a small
one. A length of 256 leaves zero, which only the other check would refuse, and that
one looks at the data. -/

namespace CdpPacket

/-- The data fills its section. -/
def ValidSize (packet : CdpPacket) : Prop :=
  1 ≤ packet.data.length ∧ packet.data.length ≤ maxDataLength

/-- **The packet is prepared as its size asks**: data that fills its section is put
behind the header, and data of any other size is refused. -/
structure PreparedBySize (packet : CdpPacket) : Prop where
  accepted_iff : packet.prepareForSending.1 = duckErrNone ↔ packet.ValidSize
  frame : packet.ValidSize →
    packet.prepareForSending.2.buffer.length = headerLength + packet.data.length
  refused : ¬ packet.ValidSize → packet.prepareForSending.1 = duckpacketErrSizeInvalid
    ∧ packet.prepareForSending.2.buffer = []

/-- The data is refused: there is none, or what its length leaves in a byte is too
much. -/
theorem prepareForSending_of_refused {packet : CdpPacket}
    (h : packet.data = [] ∨ maxDataLength < packet.data.length % 256) :
    packet.prepareForSending = (duckpacketErrSizeInvalid, { packet with buffer := [] }) := by
  unfold prepareForSending
  dsimp only
  rw [UInt8.toNat_ofNat']
  exact if_pos h

/-- The data is taken: what its length leaves in a byte is not too much. -/
theorem prepareForSending_of_taken {packet : CdpPacket} (hne : packet.data ≠ [])
    (hle : packet.data.length % 256 ≤ maxDataLength) :
    packet.prepareForSending = (duckErrNone, { packet with buffer := packet.frame }) := by
  unfold prepareForSending
  dsimp only
  rw [UInt8.toNat_ofNat']
  exact if_neg (not_or.mpr ⟨hne, Nat.not_lt.mpr hle⟩)

/-- Data that is too long and is taken is not prepared as its size asks. -/
theorem not_preparedBySize {packet : CdpPacket} (hlong : maxDataLength < packet.data.length)
    (hle : packet.data.length % 256 ≤ maxDataLength) : ¬ packet.PreparedBySize := by
  have htaken :=
    prepareForSending_of_taken (List.ne_nil_of_length_pos (Nat.zero_lt_of_lt hlong)) hle
  exact fun h => absurd (h.accepted_iff.mp (congrArg Prod.fst htaken)).2 (Nat.not_le.mpr hlong)

/-- **When the size is checked**: the length fits a byte, or what it leaves in one is
too much. -/
theorem preparedBySize_iff (packet : CdpPacket) : packet.PreparedBySize ↔
    packet.data.length < 256 ∨ maxDataLength < packet.data.length % 256 := by
  by_cases hvalid : packet.ValidSize
  · have hsent := packet.prepareForSending_of_length hvalid.1 hvalid.2
    have hlt : packet.data.length < 256 := Nat.lt_of_le_of_lt hvalid.2 (by decide)
    refine iff_of_true ⟨iff_of_true (congrArg Prod.fst hsent) hvalid, fun _ => ?_,
      fun h => absurd hvalid h⟩ (Or.inl hlt)
    rw [hsent]
    exact packet.length_frame
  by_cases hrefused : packet.data = [] ∨ maxDataLength < packet.data.length % 256
  · have hnone := prepareForSending_of_refused hrefused
    refine iff_of_true ⟨iff_of_false ?_ hvalid, fun h => absurd h hvalid, fun _ => ?_⟩
      (hrefused.imp (fun hnil => ?_) id)
    · rw [hnone]
      exact show duckpacketErrSizeInvalid ≠ duckErrNone by decide
    · rw [hnone]
      exact ⟨rfl, rfl⟩
    · rw [hnil]
      exact Nat.zero_lt_succ 255
  · obtain ⟨hne, hle⟩ := not_or.mp hrefused
    -- there is data, and it is not of a valid size: it is too long
    have hlong : maxDataLength < packet.data.length :=
      Nat.not_le.mp fun h => hvalid ⟨List.length_pos_iff.mpr hne, h⟩
    refine iff_of_false (not_preparedBySize hlong (Nat.not_lt.mp hle))
      (not_or.mpr ⟨fun hlt => ?_, hle⟩)
    rw [Nat.mod_eq_of_lt hlt] at hle
    exact hle hlong

/-- A packet with 256 bytes of data. -/
def longPacket : CdpPacket :=
  forSending broadcastDuid 0x14 (List.replicate 256 0x41) papaduckDuid 0x01

theorem length_data_longPacket : longPacket.data.length = 256 := List.length_replicate

/-- **A long packet is sent**, as a frame of 283 bytes. -/
theorem longPacket_sent : ¬ ∀ packet : CdpPacket, packet.PreparedBySize := by
  intro h
  refine not_preparedBySize ?_ ?_ (h longPacket) <;> rw [length_data_longPacket] <;> decide

end CdpPacket
