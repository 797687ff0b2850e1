import MeshBeacon.Reads
import MeshBeacon.RxBuffer
import Mathlib.Tactic.Common

/-!
# Records of the receive FIFO

The other direction: a record is a packet together with the bits the parser
does not look at, and `RxRecord.encode` lays it out in the FIFO – head,
payload, tail, metrics and the checksum over all of them. Parsing undoes the
layout.

A reader of records never sees a list, only bytes at offsets, and `Reads` says
that these are the bytes of a list. A record's layout is taken apart piece by
piece, and a sequence of records is taken apart record by record: the walk that
counts and the calls that parse both follow `List.flatMap`.
-/

theorem Reads.byteSum_eq {rd : ℕ → UInt8} {l : List UInt8} (h : Reads rd l) :
    byteSum rd l.length = l.sum := by
  rw [byteSum, h.map_range]

/-! ## The layout -/

/-- **A record**: a packet that fits the format, and the bits nobody reads. -/
structure RxRecord where
  packet : RxPacket
  /-- The upper half of the last byte of the frequency offset. -/
  spareOffset : UInt8
  /-- The bit between the CRC error and the synchronization error. -/
  spareStatus : Bool
  /-- The bits above the timing flag. -/
  spareFlags : UInt8
  rssiChanDelta : UInt8
  rssiSigDelta : UInt8
  length_payload : packet.payload.length = packet.rxbytenbModem.toNat
  /-- The metrics come in pairs, as many as stored. -/
  length_metrics : packet.timestampAvg.length = 2 * packet.numTsMetricsStored.toNat
  /-- The metrics fit the driver's arrays. -/
  metrics_fit : packet.numTsMetricsStored.toNat ≤ 127
  /-- No deviations are stored. -/
  stddev_eq : packet.timestampStddev = List.replicate (2 * packet.numTsMetricsStored.toNat) 0
  codingRate_lt : packet.codingRate.toNat < 8
  rxRateSf_lt : packet.rxRateSf.toNat < 16
  /-- The frequency offset has twenty bits. -/
  offset_range : -2 ^ 19 ≤ packet.frequencyOffsetError ∧ packet.frequencyOffsetError < 2 ^ 19
  spareOffset_lt : spareOffset.toNat < 16
  spareFlags_lt : spareFlags.toNat < 8

namespace RxRecord

variable (r : RxRecord)

/-- The frequency offset as an unsigned number of 20 bits. -/
def offset20 : ℕ := (r.packet.frequencyOffsetError % 2 ^ 20).toNat

/-- The byte of the CRC flag, the coding rate and the spreading factor. -/
def rateByte : ℕ :=
  r.packet.crcEn.toNat + 2 * r.packet.codingRate.toNat + 16 * r.packet.rxRateSf.toNat

/-- The byte of the errors and the timing flag. -/
def statusByte : ℕ :=
  r.packet.payloadCrcError.toNat + 2 * r.spareStatus.toNat + 4 * r.packet.syncError.toNat
    + 8 * r.packet.headerError.toNat + 16 * r.packet.timingSet.toNat + 32 * r.spareFlags.toNat

/-- The metadata before the payload. -/
def head : List UInt8 :=
  [syncwordByte0, syncwordByte1, r.packet.rxbytenbModem, r.packet.rxChannelIn,
    UInt8.ofNat r.rateByte, r.packet.modemId,
    UInt8.ofNat (r.offset20 % 256), UInt8.ofNat (r.offset20 / 256 % 256),
    UInt8.ofNat (r.offset20 / 65536 + 16 * r.spareOffset.toNat)]

/-- The metadata behind the payload, up to the number of metrics. -/
def tail : List UInt8 :=
  let ts := r.packet.timestampCnt.toNat
  let crc := r.packet.rxCrc16Value.toNat
  [UInt8.ofNat r.statusByte, r.packet.snrAverage.toUInt8, r.packet.rssiChanAvg,
    r.packet.rssiSignalAvg, r.rssiChanDelta, r.rssiSigDelta,
    UInt8.ofNat (ts % 256), UInt8.ofNat (ts / 256 % 256), UInt8.ofNat (ts / 65536 % 256),
    UInt8.ofNat (ts / 16777216), UInt8.ofNat (crc % 256), UInt8.ofNat (crc / 256),
    r.packet.numTsMetricsStored]

/-- The metrics, a byte each. -/
def metrics : List UInt8 := r.packet.timestampAvg.map Int8.toUInt8

/-- The record without its checksum. -/
def body : List UInt8 := r.head ++ (r.packet.payload ++ (r.tail ++ r.metrics))

/-- **The bytes of a record.** -/
def encode : List UInt8 := r.body ++ [r.body.sum]

@[simp] theorem length_body :
    r.body.length = 22 + r.packet.rxbytenbModem.toNat + 2 * r.packet.numTsMetricsStored.toNat := by
  rw [body, metrics, List.length_append, List.length_append, List.length_append, List.length_map,
    r.length_payload, r.length_metrics]
  show 9 + (_ + (13 + _)) = _
  omega

@[simp] theorem length_encode :
    r.encode.length
      = 23 + r.packet.rxbytenbModem.toNat + 2 * r.packet.numTsMetricsStored.toNat := by
  rw [encode, List.length_append, length_body]
  show _ + 1 = _
  omega

end RxRecord

/-! ## Bits -/

/-- Bits taken from a byte given by its value. -/
theorem takeNBitsFrom_ofNat {v : ℕ} (hv : v < 256) (p n : ℕ) :
    takeNBitsFrom (UInt8.ofNat v) p n = UInt8.ofNat (v / 2 ^ p % 2 ^ n) := by
  rw [takeNBitsFrom, UInt8.toNat_ofNat', Nat.mod_eq_of_lt hv]

/-- A flag taken from a byte given by its value. -/
theorem takeBit_ofNat {v : ℕ} (hv : v < 256) {p : ℕ} {b : Bool} (hb : v / 2 ^ p % 2 = b.toNat) :
    takeBit (UInt8.ofNat v) p = b := by
  rw [takeBit, takeNBitsFrom_ofNat hv]
  show decide (UInt8.ofNat (v / 2 ^ p % 2) ≠ 0) = b
  rw [hb]
  cases b <;> rfl

/-- A value of 20 bits is read with its sign. -/
theorem signed20_emod {x : ℤ} (h : -2 ^ 19 ≤ x ∧ x < 2 ^ 19) :
    signed20 (x % 2 ^ 20).toNat = x := by
  unfold signed20
  split_ifs <;> omega

/-! ## Parsing one record -/

namespace RxRecord

variable {rd : ℕ → UInt8} {r : RxRecord}

theorem reads_head (h : Reads rd r.encode) : Reads rd r.head := by
  rw [encode, body, List.append_assoc] at h
  exact h.left

/-- The payload of a record, read behind the head. -/
theorem reads_payload (h : Reads rd r.encode) :
    Reads (fun i => rd (headMetadata + i)) r.packet.payload := by
  rw [encode, body, List.append_assoc] at h
  have hright : Reads (fun i => rd (9 + i)) _ := h.right
  rw [List.append_assoc] at hright
  exact hright.left

theorem payloadLength_eq (h : Reads rd r.encode) :
    payloadLength rd = r.packet.rxbytenbModem.toNat := by
  rw [payloadLength, reads_head h 2 _ rfl]

/-- What follows the payload of a record, read. -/
theorem reads_behind (h : Reads rd r.encode) :
    Reads (fun i => rd (payloadLength rd + (9 + i))) (r.tail ++ (r.metrics ++ [r.body.sum])) := by
  have hlen : r.packet.payload.length = payloadLength rd := by
    rw [payloadLength_eq h, r.length_payload]
  rw [encode, body, List.append_assoc] at h
  have hright : Reads (fun i => rd (9 + i)) _ := h.right
  rw [List.append_assoc] at hright
  have hbehind := hright.right
  rw [List.append_assoc, hlen] at hbehind
  exact hbehind.congr fun i => congrArg rd (Nat.add_left_comm 9 _ i)

theorem reads_tail (h : Reads rd r.encode) :
    Reads (fun i => rd (payloadLength rd + (9 + i))) r.tail :=
  (reads_behind h).left

/-- The metrics of a record, read behind the tail. -/
theorem reads_metrics (h : Reads rd r.encode) :
    Reads (fun i => rd (payloadLength rd + (22 + i))) r.metrics := by
  have hright : Reads (fun i => rd (payloadLength rd + (9 + (13 + i)))) _ := (reads_behind h).right
  exact hright.left.congr fun i => congrArg (fun k => rd (payloadLength rd + k))
    (show 9 + (13 + i) = 22 + i by omega)

theorem numTsMetrics_eq (h : Reads rd r.encode) :
    numTsMetrics rd = r.packet.numTsMetricsStored :=
  reads_tail h 12 _ rfl

/-- **Both passes see the record's own length.** -/
theorem recordLength_eq (h : Reads rd r.encode) : recordLength rd = r.encode.length := by
  rw [recordLength, payloadLength_eq h, numTsMetrics_eq h, length_encode]
  show 9 + _ + 14 + _ = _
  omega

theorem syncAt_zero (h : Reads rd r.encode) : syncAt rd 0 = true := by
  rw [syncAt, reads_head h 0 _ rfl, reads_head h (0 + 1) _ rfl]
  rfl

theorem checksumOk_eq (h : Reads rd r.encode) : checksumOk rd = true := by
  have hlen : recordLength rd - 1 = r.body.length := by
    rw [recordLength_eq h, encode, List.length_append]
    rfl
  have hsum : rd r.body.length = r.body.sum := by
    refine h _ _ ?_
    rw [encode, List.getElem?_append_right (Nat.le_refl _), Nat.sub_self]
    rfl
  have hbody : Reads rd r.body := by
    rw [encode] at h
    exact h.left
  rw [checksumOk, hlen, hsum, hbody.byteSum_eq]
  exact decide_eq_true rfl

/-- The frequency offset is parsed with its sign. -/
theorem frequencyOffset_eq (h : Reads rd r.encode) :
    signed20 ((takeNBitsFrom (rd 8) 0 4).toNat * 2 ^ 16 + (rd 7).toNat * 2 ^ 8 + (rd 6).toNat)
      = r.packet.frequencyOffsetError := by
  have hspare := r.spareOffset_lt
  have hlt : r.offset20 < 2 ^ 20 := by unfold offset20; omega
  have hvalue : (takeNBitsFrom (rd 8) 0 4).toNat * 2 ^ 16 + (rd 7).toNat * 2 ^ 8 + (rd 6).toNat
      = r.offset20 := by
    rw [reads_head h 8 _ rfl, reads_head h 7 _ rfl, reads_head h 6 _ rfl,
      takeNBitsFrom_ofNat (by omega), UInt8.toNat_ofNat', UInt8.toNat_ofNat', UInt8.toNat_ofNat']
    omega
  rw [hvalue]
  exact signed20_emod r.offset_range

/-- The timestamp is put together from its bytes. -/
theorem timestampCnt_eq (h : Reads rd r.encode) :
    UInt32.ofNat ((rd (payloadLength rd + 15)).toNat + (rd (payloadLength rd + 16)).toNat * 2 ^ 8
        + (rd (payloadLength rd + 17)).toNat * 2 ^ 16
        + (rd (payloadLength rd + 18)).toNat * 2 ^ 24)
      = r.packet.timestampCnt := by
  have hlt := r.packet.timestampCnt.toNat_lt
  have h0 : rd (payloadLength rd + 15) = _ := reads_tail h 6 _ rfl
  have h1 : rd (payloadLength rd + 16) = _ := reads_tail h 7 _ rfl
  have h2 : rd (payloadLength rd + 17) = _ := reads_tail h 8 _ rfl
  have h3 : rd (payloadLength rd + 18) = _ := reads_tail h 9 _ rfl
  rw [h0, h1, h2, h3, UInt8.toNat_ofNat', UInt8.toNat_ofNat', UInt8.toNat_ofNat',
    UInt8.toNat_ofNat', ← UInt32.toNat_inj, UInt32.toNat_ofNat']
  omega

theorem rxCrc16Value_eq (h : Reads rd r.encode) :
    UInt16.ofNat ((rd (payloadLength rd + 19)).toNat + (rd (payloadLength rd + 20)).toNat * 2 ^ 8)
      = r.packet.rxCrc16Value := by
  have hlt := r.packet.rxCrc16Value.toNat_lt
  have h0 : rd (payloadLength rd + 19) = _ := reads_tail h 10 _ rfl
  have h1 : rd (payloadLength rd + 20) = _ := reads_tail h 11 _ rfl
  rw [h0, h1, UInt8.toNat_ofNat', UInt8.toNat_ofNat', ← UInt16.toNat_inj, UInt16.toNat_ofNat']
  omega

theorem timestampAvg_eq (h : Reads rd r.encode) :
    (List.range (2 * (numTsMetrics rd).toNat)).map
        (fun i => (rd (payloadLength rd + (22 + i))).toInt8)
      = r.packet.timestampAvg := by
  have hlen : 2 * (numTsMetrics rd).toNat = r.metrics.length := by
    rw [numTsMetrics_eq h, metrics, List.length_map, r.length_metrics]
  rw [hlen, (reads_metrics h).map_range_comp UInt8.toInt8, metrics, List.map_map]
  exact (List.map_congr_left fun x _ => Int8.toInt8_toUInt8 x).trans (List.map_id' _)

theorem rateByte_spec (r : RxRecord) : r.rateByte < 256
    ∧ r.rateByte / 2 ^ 0 % 2 = r.packet.crcEn.toNat
    ∧ r.rateByte / 2 ^ 1 % 2 ^ 3 = r.packet.codingRate.toNat
    ∧ r.rateByte / 2 ^ 4 % 2 ^ 4 = r.packet.rxRateSf.toNat := by
  have hcrc := r.packet.crcEn.toNat_le
  have hcr := r.codingRate_lt
  have hsf := r.rxRateSf_lt
  unfold rateByte
  omega

theorem statusByte_spec (r : RxRecord) : r.statusByte < 256
    ∧ r.statusByte / 2 ^ 0 % 2 = r.packet.payloadCrcError.toNat
    ∧ r.statusByte / 2 ^ 2 % 2 = r.packet.syncError.toNat
    ∧ r.statusByte / 2 ^ 3 % 2 = r.packet.headerError.toNat
    ∧ r.statusByte / 2 ^ 4 % 2 = r.packet.timingSet.toNat := by
  have hcrc := r.packet.payloadCrcError.toNat_le
  have hspare := r.spareStatus.toNat_le
  have hsync := r.packet.syncError.toNat_le
  have hheader := r.packet.headerError.toNat_le
  have htiming := r.packet.timingSet.toNat_le
  have hflags := r.spareFlags_lt
  unfold statusByte
  omega

/-- A flag of the byte of the errors, parsed. -/
theorem takeBit_status (h : Reads rd r.encode) {p : ℕ} {b : Bool}
    (hb : r.statusByte / 2 ^ p % 2 = b.toNat) : takeBit (rd (payloadLength rd + 9)) p = b := by
  have hstatus : rd (payloadLength rd + 9) = _ := reads_tail h 0 _ rfl
  rw [hstatus]
  exact takeBit_ofNat r.statusByte_spec.1 hb

/-- **Parsing undoes the layout.** -/
theorem rxPacketAt_eq (h : Reads rd r.encode) : rxPacketAt rd = r.packet := by
  obtain ⟨hrate, hcrcEn, hcr, hsf⟩ := r.rateByte_spec
  obtain ⟨-, hcrcError, hsync, hheader, htiming⟩ := r.statusByte_spec
  have hlen : payloadLength rd = r.packet.payload.length := by
    rw [payloadLength_eq h, r.length_payload]
  ext1
  case rxbytenbModem => exact reads_head h 2 _ rfl
  case rxChannelIn => exact reads_head h 3 _ rfl
  case modemId => exact reads_head h 5 _ rfl
  case crcEn =>
    show takeBit (rd 4) 0 = _
    rw [reads_head h 4 _ rfl]
    exact takeBit_ofNat hrate hcrcEn
  case codingRate =>
    show takeNBitsFrom (rd 4) 1 3 = _
    rw [reads_head h 4 _ rfl, takeNBitsFrom_ofNat hrate, hcr, UInt8.ofNat_toNat]
  case rxRateSf =>
    show takeNBitsFrom (rd 4) 4 4 = _
    rw [reads_head h 4 _ rfl, takeNBitsFrom_ofNat hrate, hsf, UInt8.ofNat_toNat]
  case payloadCrcError => exact takeBit_status h hcrcError
  case syncError => exact takeBit_status h hsync
  case headerError => exact takeBit_status h hheader
  case timingSet => exact takeBit_status h htiming
  case frequencyOffsetError => exact frequencyOffset_eq h
  case payload =>
    show (List.range (payloadLength rd)).map (fun i => rd (headMetadata + i)) = _
    rw [hlen]
    exact (reads_payload h).map_range
  case snrAverage =>
    show (rd (payloadLength rd + 10)).toInt8 = _
    rw [show rd (payloadLength rd + 10) = _ from reads_tail h 1 _ rfl]
    exact Int8.toInt8_toUInt8 _
  case rssiChanAvg => exact reads_tail h 2 _ rfl
  case rssiSignalAvg => exact reads_tail h 3 _ rfl
  case timestampCnt => exact timestampCnt_eq h
  case rxCrc16Value => exact rxCrc16Value_eq h
  case numTsMetricsStored => exact numTsMetrics_eq h
  case timestampAvg => exact timestampAvg_eq h
  case timestampStddev =>
    show List.replicate (2 * (numTsMetrics rd).toNat) 0 = _
    rw [numTsMetrics_eq h, r.stddev_eq]

end RxRecord

/-! ## Sequences of records -/

/-- **The counting walk finds every record.** -/
theorem countPackets_flatMap (rd : ℕ → UInt8) (rs : List RxRecord) (idx size : ℕ) (nb : UInt8)
    (h : Reads (fun i => rd (idx + i)) (rs.flatMap RxRecord.encode))
    (hsize : size = idx + (rs.flatMap RxRecord.encode).length) :
    countPackets rd size idx nb = some (nb + UInt8.ofNat rs.length) := by
  induction rs generalizing idx nb with
  | nil =>
    rw [countPackets, if_neg (by rw [hsize]; exact Nat.lt_irrefl idx)]
    exact congrArg some (UInt8.add_zero nb).symm
  | cons r rs ih =>
    rw [List.flatMap_cons] at h hsize
    rw [List.length_append] at hsize
    have hlen := r.length_encode
    have hsync : syncAt rd idx = true := RxRecord.syncAt_zero h.left
    have hnext : Reads (fun i => rd (idx + r.encode.length + i)) (rs.flatMap RxRecord.encode) :=
      h.right.congr fun i => congrArg rd (Nat.add_assoc idx _ i).symm
    rw [countPackets, if_pos (by omega), if_pos hsync, RxRecord.recordLength_eq h.left,
      ih _ (nb + 1) hnext (by omega), List.length_cons, UInt8.add_assoc, UInt8.add_comm 1,
      UInt8.ofNat_add]
    rfl

/-- The buffer holds, from the current index to its end, these bytes. -/
structure RxBuffer.Holds (rx : RxBuffer) (past : ℕ → UInt8) (l : List UInt8) : Prop where
  /-- They are the bytes read. -/
  reads : Reads (rx.rd past) l
  /-- They end where the buffer ends. -/
  size_eq : rx.bufferSize.toNat = rx.bufferIndex + l.length

/-- `n` calls of `rx_buffer_pop`: what they return, and the buffer they
leave. -/
def rxBufferPops (past : ℕ → UInt8) : ℕ → RxBuffer → List (RegStatus × Option RxPacket) × RxBuffer
  | 0, self => ([], self)
  | n + 1, self =>
    let (status, self, pkt) := rxBufferPop past self
    let (results, self) := rxBufferPops past n self
    ((status, pkt) :: results, self)

/-- **One call parses the first record** and leaves the others. -/
theorem rxBufferPop_encode {past : ℕ → UInt8} {self : RxBuffer} {r : RxRecord} {l : List UInt8}
    (h : self.Holds past (r.encode ++ l)) (hr : metadataInRange r.packet) :
    rxBufferPop past self
        = (.success,
          { self with
            bufferIndex := self.bufferIndex + r.encode.length
            bufferPktNb := self.bufferPktNb - 1 },
          some r.packet)
      ∧ RxBuffer.Holds
          { self with
            bufferIndex := self.bufferIndex + r.encode.length
            bufferPktNb := self.bufferPktNb - 1 } past l := by
  have hrec := h.reads.left
  have hsize := h.size_eq
  have hlen := r.length_encode
  rw [List.length_append] at hsize
  have hpacket := RxRecord.rxPacketAt_eq hrec
  have hlength := RxRecord.recordLength_eq hrec
  refine ⟨?_, h.reads.right.congr fun i => ?_,
    show self.bufferSize.toNat = self.bufferIndex + r.encode.length + l.length by omega⟩
  · unfold rxBufferPop
    dsimp only
    rw [hpacket, hlength, if_neg (by omega), if_neg (by rw [RxRecord.syncAt_zero hrec]; decide),
      if_neg (by omega), if_neg (by rw [RxRecord.checksumOk_eq hrec]; decide),
      if_neg (by rw [hr]; decide)]
  · exact congrArg (self.byte past) (Nat.add_assoc _ _ i).symm

/-- **As many calls as records parse every one of them**, in order. -/
theorem rxBufferPops_flatMap {past : ℕ → UInt8} (rs : List RxRecord) {self : RxBuffer}
    (h : self.Holds past (rs.flatMap RxRecord.encode)) (hrs : ∀ r ∈ rs, metadataInRange r.packet) :
    (rxBufferPops past rs.length self).1 = rs.map (fun r => (.success, some r.packet))
      ∧ (rxBufferPops past rs.length self).2.bufferPktNb
        = self.bufferPktNb - UInt8.ofNat rs.length := by
  induction rs generalizing self with
  | nil => exact ⟨rfl, (UInt8.sub_zero _).symm⟩
  | cons r rs ih =>
    rw [List.flatMap_cons] at h
    obtain ⟨hpop, hrest⟩ := rxBufferPop_encode h (hrs r List.mem_cons_self)
    obtain ⟨hresults, hnb⟩ := ih hrest fun s hs => hrs s (List.mem_cons_of_mem r hs)
    rw [List.length_cons, rxBufferPops, hpop]
    refine ⟨congrArg _ hresults, hnb.trans ?_⟩
    show self.bufferPktNb - 1 - UInt8.ofNat rs.length = _
    rw [UInt8.ofNat_add]
    show _ = self.bufferPktNb - (UInt8.ofNat rs.length + 1)
    grind

/-! ## Fetching -/

/-- What was copied to the front of the array is read from there. -/
theorem reads_overwrite {past : ℕ → UInt8} {self : RxBuffer} {l dst : List UInt8}
    (h : self.buffer = overwrite l dst) : Reads (self.byte past) l := by
  intro i b hb
  obtain ⟨hi, -⟩ := List.getElem?_eq_some_iff.mp hb
  rw [RxBuffer.byte, h, overwrite, List.getElem?_append_left hi, hb]
  rfl

/-- There is no syncword inside bytes that hold none. -/
theorem syncAt_eq_false_of_gap {rd : ℕ → UInt8} {gap : List UInt8} (h : Reads rd gap)
    (hgap : ¬ [syncwordByte0, syncwordByte1] <:+: gap) {j : ℕ} (hj : j + 1 < gap.length) :
    syncAt rd j = false := by
  have hlt : j < gap.length := Nat.lt_of_succ_lt hj
  rw [syncAt, Bool.and_eq_false_iff, decide_eq_false_iff_not, decide_eq_false_iff_not,
    ← not_and_or]
  rintro ⟨h0, h1⟩
  rw [h j _ (List.getElem?_eq_getElem hlt)] at h0
  rw [h (j + 1) _ (List.getElem?_eq_getElem hj)] at h1
  refine hgap ⟨gap.take j, gap.drop (j + 2), ?_⟩
  rw [← h0, ← h1, List.append_assoc, List.cons_append, List.cons_append, List.nil_append,
    ← List.drop_eq_getElem_cons hj, ← List.drop_eq_getElem_cons hlt, List.take_append_drop]

/-- **The first syncword is where the records begin**, when the bytes before
them hold none. -/
theorem find?_syncAt {rd : ℕ → UInt8} {gap l : List UInt8} {n : ℕ}
    (h : Reads rd (gap ++ syncwordByte0 :: syncwordByte1 :: l))
    (hgap : ¬ [syncwordByte0, syncwordByte1] <:+: gap) (hn : gap.length < n) :
    (List.range n).find? (syncAt rd) = some gap.length := by
  have hfirst : rd gap.length = syncwordByte0 := h.right 0 _ rfl
  rw [List.find?_range_eq_some]
  refine ⟨?_, List.mem_range.mpr hn, fun j hj => ?_⟩
  · have hsecond : rd (gap.length + 1) = syncwordByte1 := h.right 1 _ rfl
    rw [syncAt, hfirst, hsecond]
    rfl
  · rw [Bool.not_eq_true']
    rcases Nat.eq_or_lt_of_le hj with heq | hlt
    · -- the byte after the gap is the first of a syncword, not the second
      rw [syncAt, show j + 1 = gap.length from heq, hfirst]
      exact Bool.and_false _
    · exact syncAt_eq_false_of_gap h.left hgap hlt

/-- After the move, the records are at the front. -/
theorem resync_spec (past : ℕ → UInt8) (self : RxBuffer) {gap l dst : List UInt8}
    (hbuffer : self.buffer = overwrite (gap ++ l) dst)
    (hsize : self.bufferSize.toNat = (gap ++ l).length) :
    Reads ((self.resync gap.length).byte past) l
      ∧ (self.resync gap.length).bufferSize.toNat = l.length := by
  rw [List.length_append] at hsize
  unfold RxBuffer.resync
  by_cases h0 : gap.length = 0
  · rw [if_pos h0]
    rw [List.length_eq_zero_iff.mp h0, List.nil_append] at hbuffer
    exact ⟨reads_overwrite hbuffer, by omega⟩
  · rw [if_neg h0]
    have hlt := self.bufferSize.toNat_lt
    have hmoved : (self.buffer.drop gap.length).take (self.bufferSize.toNat - gap.length) = l := by
      rw [hbuffer, overwrite, List.append_assoc, List.drop_left,
        show self.bufferSize.toNat - gap.length = l.length by omega, List.take_left]
    have hgap : (UInt16.ofNat gap.length).toNat = gap.length := by
      rw [UInt16.toNat_ofNat']
      exact Nat.mod_eq_of_lt (by omega)
    rw [hmoved]
    refine ⟨reads_overwrite rfl, ?_⟩
    show (self.bufferSize - UInt16.ofNat gap.length).toNat = _
    rw [UInt16.toNat_sub_of_le _ _ (by rw [UInt16.le_iff_toNat_le]; omega), hgap]
    omega

theorem resync_bufferPktNb (self : RxBuffer) (idx : ℕ) :
    (self.resync idx).bufferPktNb = self.bufferPktNb := by
  unfold RxBuffer.resync
  split_ifs <;> rfl

/-- The buffer with the bytes of the FIFO copied into it. -/
def RxBuffer.filled (self : RxBuffer) (fifo : Fifo) (bytes : List UInt8) : RxBuffer :=
  { self with
    bufferSize := fifo.nbBytes, buffer := overwrite bytes (List.replicate rxBufferSize 0) }

theorem rxBufferFetch_eq (past : ℕ → UInt8) {fifo : Fifo} (self : RxBuffer) {bytes : List UInt8}
    (hnb : fifo.nbBytes.toNat = bytes.length) (hmem : fifo.memRb = .ok bytes) :
    rxBufferFetch past fifo self
      = if bytes.length = 0 then
          (.success, { self with bufferSize := fifo.nbBytes, bufferIndex := 0 })
        else if bytes.length < headMetadata + tailMetadata then
          (.success, rxBufferDel (self.filled fifo bytes))
        else
          match (List.range (bytes.length - 1)).find? (syncAt ((self.filled fifo bytes).byte past))
          with
          | none => (.success, rxBufferDel (self.filled fifo bytes))
          | some idx =>
            let self := (self.filled fifo bytes).resync idx
            match countPackets (self.byte past) self.bufferSize.toNat 0 self.bufferPktNb with
            | none => (.success, rxBufferDel self)
            | some nb => (.success, { self with bufferPktNb := nb, bufferIndex := 0 }) := by
  unfold rxBufferFetch
  dsimp only
  rw [hmem, hnb]
  dsimp only
  rw [List.take_length]
  rfl

theorem RxBuffer.holds_nil {rx : RxBuffer} (past : ℕ → UInt8)
    (h : rx.bufferSize.toNat = rx.bufferIndex) : rx.Holds past [] :=
  ⟨fun _ _ hb => (nomatch hb), h⟩

/-- Fetching bytes without a syncword counts nothing. -/
theorem rxBufferFetch_gap (past : ℕ → UInt8) {fifo : Fifo} {self : RxBuffer} {gap : List UInt8}
    (hself : self.bufferPktNb = 0) (hgap : ¬ [syncwordByte0, syncwordByte1] <:+: gap)
    (hnb : fifo.nbBytes.toNat = gap.length) (hmem : fifo.memRb = .ok gap) :
    (rxBufferFetch past fifo self).1 = .success
      ∧ (rxBufferFetch past fifo self).2.bufferPktNb = 0
      ∧ (rxBufferFetch past fifo self).2.Holds past [] := by
  have hnone : (List.range (gap.length - 1)).find? (syncAt ((self.filled fifo gap).byte past))
      = none := by
    rw [List.find?_range_eq_none]
    intro i hi
    rw [syncAt_eq_false_of_gap (reads_overwrite rfl) hgap (by omega)]
    rfl
  rw [rxBufferFetch_eq past self hnb hmem, hnone]
  split_ifs with hzero
  · exact ⟨rfl, hself, RxBuffer.holds_nil past (hnb.trans hzero)⟩
  · exact ⟨rfl, rfl, RxBuffer.holds_nil past rfl⟩
  · exact ⟨rfl, rfl, RxBuffer.holds_nil past rfl⟩

/-- Fetching bytes with a syncword moves the records to the front and counts
them. -/
theorem rxBufferFetch_records (past : ℕ → UInt8) {fifo : Fifo} {self : RxBuffer}
    {gap : List UInt8} (r : RxRecord) (rs : List RxRecord) (hself : self.bufferPktNb = 0)
    (hgap : ¬ [syncwordByte0, syncwordByte1] <:+: gap)
    (hnb : fifo.nbBytes.toNat = (gap ++ (r :: rs).flatMap RxRecord.encode).length)
    (hmem : fifo.memRb = .ok (gap ++ (r :: rs).flatMap RxRecord.encode)) :
    (rxBufferFetch past fifo self).1 = .success
      ∧ (rxBufferFetch past fifo self).2.bufferPktNb = UInt8.ofNat (r :: rs).length
      ∧ (rxBufferFetch past fifo self).2.Holds past ((r :: rs).flatMap RxRecord.encode) := by
  have hlen : 23 ≤ ((r :: rs).flatMap RxRecord.encode).length := by
    have hr := r.length_encode
    rw [List.flatMap_cons, List.length_append]
    omega
  have hbytes := @List.length_append _ gap ((r :: rs).flatMap RxRecord.encode)
  obtain ⟨l, hl⟩ : ∃ l, (r :: rs).flatMap RxRecord.encode = syncwordByte0 :: syncwordByte1 :: l :=
    ⟨_, rfl⟩
  rw [rxBufferFetch_eq past self hnb hmem]
  set filled := self.filled fifo (gap ++ (r :: rs).flatMap RxRecord.encode) with hfilled
  have hfind : (List.range ((gap ++ (r :: rs).flatMap RxRecord.encode).length - 1)).find?
      (syncAt (filled.byte past)) = some gap.length := by
    have hreads : Reads (filled.byte past) (gap ++ syncwordByte0 :: syncwordByte1 :: l) :=
      hl ▸ reads_overwrite rfl
    exact find?_syncAt hreads hgap (by omega)
  obtain ⟨hfront, hsize⟩ := resync_spec past filled rfl hnb
  have hcount := countPackets_flatMap ((filled.resync gap.length).byte past) (r :: rs) 0
    (filled.resync gap.length).bufferSize.toNat (filled.resync gap.length).bufferPktNb
    (hfront.congr fun i => by rw [Nat.zero_add]) (by rw [hsize, Nat.zero_add])
  have hpkt : (filled.resync gap.length).bufferPktNb = 0 :=
    (resync_bufferPktNb filled gap.length).trans hself
  rw [hfind, if_neg (by omega), if_neg (by show ¬ _ < 9 + 14; omega)]
  dsimp only
  rw [hcount, hpkt, UInt8.zero_add]
  refine ⟨rfl, rfl, hfront.congr fun i => ?_, ?_⟩
  · show _ = (filled.resync gap.length).byte past (0 + i)
    rw [Nat.zero_add]
  · show (filled.resync gap.length).bufferSize.toNat = 0 + _
    rw [hsize, Nat.zero_add]

/-- **Fetching counts the records** and leaves the index at the first of them,
whatever was in the buffer and whatever precedes the records in the FIFO, as
long as it holds no syncword. -/
theorem rxBufferFetch_flatMap (past : ℕ → UInt8) {fifo : Fifo} {self : RxBuffer}
    {gap : List UInt8} {rs : List RxRecord} (hself : self.bufferPktNb = 0)
    (hgap : ¬ [syncwordByte0, syncwordByte1] <:+: gap)
    (hnb : fifo.nbBytes.toNat = (gap ++ rs.flatMap RxRecord.encode).length)
    (hmem : fifo.memRb = .ok (gap ++ rs.flatMap RxRecord.encode)) :
    (rxBufferFetch past fifo self).1 = .success
      ∧ (rxBufferFetch past fifo self).2.bufferPktNb = UInt8.ofNat rs.length
      ∧ (rxBufferFetch past fifo self).2.Holds past (rs.flatMap RxRecord.encode) := by
  cases rs with
  | nil =>
    rw [List.flatMap_nil, List.append_nil] at hnb hmem
    exact rxBufferFetch_gap past hself hgap hnb hmem
  | cons r rs => exact rxBufferFetch_records past r rs hself hgap hnb hmem

theorem mul_length_le_flatMap (rs : List RxRecord) :
    23 * rs.length ≤ (rs.flatMap RxRecord.encode).length := by
  induction rs with
  | nil => exact Nat.zero_le _
  | cons r rs ih =>
    have hr := r.length_encode
    rw [List.flatMap_cons, List.length_append, List.length_cons]
    omega

/-- **Parsing undoes the FIFO encoding.** Of a FIFO with any records the
parser admits, possibly preceded by bytes without a syncword, a fetch counts
the records, and as many calls of `rx_buffer_pop` return the packets of the
records, in order and unchanged, and leave none. -/
theorem rxBuffer_roundTrip (past : ℕ → UInt8) (fifo : Fifo) (self : RxBuffer) (gap : List UInt8)
    (rs : List RxRecord) (hself : self.bufferPktNb = 0)
    (hgap : ¬ [syncwordByte0, syncwordByte1] <:+: gap)
    (hrs : ∀ r ∈ rs, metadataInRange r.packet)
    (hfit : (gap ++ rs.flatMap RxRecord.encode).length ≤ rxBufferSize)
    (hnb : fifo.nbBytes.toNat = (gap ++ rs.flatMap RxRecord.encode).length)
    (hmem : fifo.memRb = .ok (gap ++ rs.flatMap RxRecord.encode)) :
    let fetched := rxBufferFetch past fifo self
    let popped := rxBufferPops past rs.length fetched.2
    fetched.1 = .success ∧ fetched.2.bufferPktNb.toNat = rs.length
      ∧ popped.1 = rs.map (fun r => (.success, some r.packet)) ∧ popped.2.bufferPktNb = 0 := by
  obtain ⟨hstatus, hcount, hholds⟩ := rxBufferFetch_flatMap past hself hgap hnb hmem
  obtain ⟨hresults, hlast⟩ := rxBufferPops_flatMap rs hholds hrs
  have hfew : rs.length < 256 := by
    have hbytes := mul_length_le_flatMap rs
    rw [List.length_append] at hfit
    change _ ≤ 4096 at hfit
    omega
  refine ⟨hstatus, ?_, hresults, ?_⟩
  · rw [hcount, UInt8.toNat_ofNat']
    exact Nat.mod_eq_of_lt hfew
  · rw [hlast, hcount, UInt8.sub_self]

/-- A LoRa record without a payload, received on a channel. -/
def emptyRecord (channel : UInt8) : RxRecord where
  packet :=
    { rxbytenbModem := 0, rxChannelIn := channel, crcEn := true, codingRate := 1, rxRateSf := 7
      modemId := 3, frequencyOffsetError := -7, payload := [], payloadCrcError := false
      syncError := false, headerError := false, timingSet := true, snrAverage := -5
      rssiChanAvg := 80, rssiSignalAvg := 70, timestampCnt := 123456789, rxCrc16Value := 0
      numTsMetricsStored := 1, timestampAvg := [-1, 2], timestampStddev := [0, 0] }
  spareOffset := 0
  spareStatus := false
  spareFlags := 0
  rssiChanDelta := 0
  rssiSigDelta := 0
  length_payload := rfl
  length_metrics := rfl
  metrics_fit := show (1 : UInt8).toNat ≤ 127 by decide
  stddev_eq := rfl
  codingRate_lt := show (1 : UInt8).toNat < 8 by decide
  rxRateSf_lt := show (7 : UInt8).toNat < 16 by decide
  offset_range := show -2 ^ 19 ≤ (-7 : ℤ) ∧ (-7 : ℤ) < 2 ^ 19 by decide
  spareOffset_lt := by decide
  spareFlags_lt := by decide

/-- Two records behind half a syncword. -/
theorem rxBuffer_roundTrip_two :
    let bytes := [syncwordByte0] ++ [emptyRecord 0, emptyRecord 9].flatMap RxRecord.encode
    let fetched := rxBufferFetch (fun _ => 0) ⟨51, 50, .ok bytes⟩ rxBufferNew
    let popped := rxBufferPops (fun _ => 0) 2 fetched.2
    fetched.1 = .success ∧ fetched.2.bufferPktNb.toNat = 2
      ∧ popped.1 = [(.success, some (emptyRecord 0).packet), (.success, some (emptyRecord 9).packet)]
      ∧ popped.2.bufferPktNb = 0 :=
  rxBuffer_roundTrip (fun _ => 0) ⟨51, 50, .ok _⟩ rxBufferNew [syncwordByte0]
    [emptyRecord 0, emptyRecord 9] rfl (by decide) (by decide) (by decide) (by decide) rfl

/-- The modem is known, and the LoRa modems have a spreading factor there
is. -/
def modemRateInRange (pkt : RxPacket) : Bool :=
  pkt.modemId ≤ fskModemId
    && (loraStdModemId < pkt.modemId || (5 ≤ pkt.rxRateSf && pkt.rxRateSf ≤ 12))

/-- **The channel counts too.** A record of a LoRa modem with a channel above 9
is counted, and is an error to the parser. -/
theorem emptyRecord_not_popped :
    ¬ ∀ (past : ℕ → UInt8) (fifo : Fifo) (self : RxBuffer) (gap : List UInt8)
      (rs : List RxRecord), self.bufferPktNb = 0 →
      ¬ [syncwordByte0, syncwordByte1] <:+: gap →
      (∀ r ∈ rs, modemRateInRange r.packet) →
      (gap ++ rs.flatMap RxRecord.encode).length ≤ rxBufferSize →
      fifo.nbBytes.toNat = (gap ++ rs.flatMap RxRecord.encode).length →
      fifo.memRb = .ok (gap ++ rs.flatMap RxRecord.encode) →
      let fetched := rxBufferFetch past fifo self
      let popped := rxBufferPops past rs.length fetched.2
      fetched.1 = .success ∧ fetched.2.bufferPktNb.toNat = rs.length
        ∧ popped.1 = rs.map (fun r => (.success, some r.packet)) ∧ popped.2.bufferPktNb = 0 := by
  intro h
  have hpopped := (h (fun _ => 0) ⟨25, 25, .ok (emptyRecord 10).encode⟩ rxBufferNew []
    [emptyRecord 10] rfl (by decide) (by decide) (by decide) (by decide) rfl).2.2.1
  revert hpopped
  decide +kernel
