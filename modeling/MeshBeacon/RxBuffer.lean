import MeshBeacon.Hal
import Mathlib.Data.UInt
import Mathlib.Tactic.Ring

/-!
# The receive buffer

What the concentrator received is read out of its FIFO in one piece, as a
sequence of records of varying length. A first pass walks over the record
boundaries and counts the packets, and afterwards each `rx_buffer_pop` parses
one record.

Both passes look at a record through the bytes at offsets from its start, so
everything about one record is a function of `rd : ℕ → UInt8`, the byte at an
offset: its length, its checksum, the packet in it. Offsets are not checked
against the size of the array. What lies behind the array is a parameter
(`past`), so that what is proved holds whatever is read there.
-/

/-- What the register functions return. -/
inductive RegStatus where
  | success
  | error
  | warning
deriving DecidableEq

/-- `struct rx_packet_s`, the fields `rx_buffer_pop` fills. -/
@[ext] structure RxPacket where
  /-- Payload length. -/
  rxbytenbModem : UInt8
  rxChannelIn : UInt8
  /-- Is there a CRC in the packet? -/
  crcEn : Bool
  codingRate : UInt8
  rxRateSf : UInt8
  modemId : UInt8
  /-- Frequency offset, a signed number of 20 bits. -/
  frequencyOffsetError : ℤ
  payload : List UInt8
  payloadCrcError : Bool
  syncError : Bool
  headerError : Bool
  /-- The modem is the one set for timestamping. -/
  timingSet : Bool
  snrAverage : Int8
  rssiChanAvg : UInt8
  rssiSignalAvg : UInt8
  /-- Timestamp, at 32 MHz. -/
  timestampCnt : UInt32
  rxCrc16Value : UInt16
  /-- Number of pairs of fine timestamp metrics. -/
  numTsMetricsStored : UInt8
  /-- The metrics. -/
  timestampAvg : List Int8
  /-- Their deviations, which this parser sets to zero. -/
  timestampStddev : List Int8
deriving DecidableEq

/-! ## One record -/

def syncwordByte0 : UInt8 := 0xA5
def syncwordByte1 : UInt8 := 0xC0
/-- `SX1302_PKT_HEAD_METADATA`. -/
abbrev headMetadata : ℕ := 9
/-- `SX1302_PKT_TAIL_METADATA`. -/
abbrev tailMetadata : ℕ := 14
def loraStdModemId : UInt8 := 16
def fskModemId : UInt8 := 17

/-- `TAKE_N_BITS_FROM`. -/
def takeNBitsFrom (b : UInt8) (p n : ℕ) : UInt8 := UInt8.ofNat (b.toNat / 2 ^ p % 2 ^ n)

/-- One bit, as a flag. -/
def takeBit (b : UInt8) (p : ℕ) : Bool := takeNBitsFrom b p 1 ≠ 0

/-- Is there a syncword at this offset? -/
def syncAt (rd : ℕ → UInt8) (i : ℕ) : Bool := rd i = syncwordByte0 && rd (i + 1) = syncwordByte1

/-- `SX1302_PKT_PAYLOAD_LENGTH`. -/
def payloadLength (rd : ℕ → UInt8) : ℕ := (rd 2).toNat

/-- `SX1302_PKT_NUM_TS_METRICS`, at the end of the payload. -/
def numTsMetrics (rd : ℕ → UInt8) : UInt8 := rd (payloadLength rd + 21)

/-- The number of bytes of the record, as both passes compute it. -/
def recordLength (rd : ℕ → UInt8) : ℕ :=
  headMetadata + payloadLength rd + tailMetadata + 2 * (numTsMetrics rd).toNat

/-- The sum of the first bytes of a record. -/
def byteSum (rd : ℕ → UInt8) (n : ℕ) : UInt8 := ((List.range n).map rd).sum

/-- The last byte is the sum of the others. -/
def checksumOk (rd : ℕ → UInt8) : Bool :=
  rd (recordLength rd - 1) = byteSum rd (recordLength rd - 1)

/-- A value of 20 bits read as a signed number. -/
def signed20 (v : ℕ) : ℤ := if 2 ^ 19 ≤ v then (v : ℤ) - 2 ^ 20 else v

/-- The packet in a record: metadata at offsets from the start of the record
before the payload and, after it, at offsets from the end of the payload. -/
def rxPacketAt (rd : ℕ → UInt8) : RxPacket :=
  let tail i := rd (payloadLength rd + i)
  let num := numTsMetrics rd
  { rxbytenbModem := rd 2
    numTsMetricsStored := num
    modemId := rd 5
    rxChannelIn := rd 3
    crcEn := takeBit (rd 4) 0
    payloadCrcError := takeBit (tail 9) 0
    syncError := takeBit (tail 9) 2
    headerError := takeBit (tail 9) 3
    timingSet := takeBit (tail 9) 4
    codingRate := takeNBitsFrom (rd 4) 1 3
    rxRateSf := takeNBitsFrom (rd 4) 4 4
    rssiChanAvg := tail 11
    rssiSignalAvg := tail 12
    rxCrc16Value := UInt16.ofNat ((tail 19).toNat + (tail 20).toNat * 2 ^ 8)
    snrAverage := (tail 10).toInt8
    frequencyOffsetError := signed20 ((takeNBitsFrom (rd 8) 0 4).toNat * 2 ^ 16
      + (rd 7).toNat * 2 ^ 8 + (rd 6).toNat)
    timestampCnt := UInt32.ofNat ((tail 15).toNat + (tail 16).toNat * 2 ^ 8
      + (tail 17).toNat * 2 ^ 16 + (tail 18).toNat * 2 ^ 24)
    timestampAvg := (List.range (2 * num.toNat)).map (fun i => (tail (22 + i)).toInt8)
    timestampStddev := List.replicate (2 * num.toNat) 0
    payload := (List.range (payloadLength rd)).map (fun i => rd (headMetadata + i)) }

/-- The metadata is in range: a known modem, and for the LoRa modems a channel
and a spreading factor there are. -/
def metadataInRange (pkt : RxPacket) : Bool :=
  if fskModemId < pkt.modemId then false
  else if pkt.modemId ≤ loraStdModemId then
    if 9 < pkt.rxChannelIn then false
    else if pkt.rxRateSf < 5 || 12 < pkt.rxRateSf then false
    else true
  else true

/-! ## The buffer -/

/-- Size of the array. -/
abbrev rxBufferSize : ℕ := 4096

/-- `struct rx_buffer_s`. -/
structure RxBuffer where
  buffer : List UInt8
  bufferSize : UInt16
  /-- Current parsing index. -/
  bufferIndex : ℕ
  /-- Number of packets not yet parsed. -/
  bufferPktNb : UInt8
deriving DecidableEq

/-- The byte at an index of the array, or behind it. -/
def RxBuffer.byte (self : RxBuffer) (past : ℕ → UInt8) (i : ℕ) : UInt8 :=
  (self.buffer[i]?).getD (past i)

/-- `rx_buffer_new`. -/
def rxBufferNew : RxBuffer := ⟨List.replicate rxBufferSize 0, 0, 0, 0⟩

/-- `rx_buffer_del`: the array keeps its bytes. -/
def rxBufferDel (self : RxBuffer) : RxBuffer :=
  { self with bufferSize := 0, bufferIndex := 0, bufferPktNb := 0 }

/-- What the concentrator answers during a fetch: twice the number of bytes in
its FIFO, and the bytes. The transfer is made in chunks, and fails with the last of
them; what the chunks before have given is kept. -/
structure Fifo where
  /-- The first reading of the number of bytes. -/
  nbBytes1 : UInt16
  /-- The second reading. -/
  nbBytes2 : UInt16
  /-- The bytes, as many as asked for, or those that a transfer has given that fails. -/
  memRb : Except (List UInt8) (List UInt8)

/-- The transfer fails. -/
def Fifo.Fails (fifo : Fifo) : Prop := fifo.memRb.isOk = false

instance (fifo : Fifo) : Decidable fifo.Fails := inferInstanceAs (Decidable (_ = _))

theorem Fifo.fails_iff {fifo : Fifo} : fifo.Fails ↔ ∃ bytes, fifo.memRb = .error bytes := by
  unfold Fifo.Fails
  cases fifo.memRb with
  | error bytes => exact iff_of_true rfl ⟨bytes, rfl⟩
  | ok bytes => exact iff_of_false Bool.noConfusion (by rintro ⟨_, h⟩; cases h)

/-- The number of bytes to fetch: the larger reading. -/
def Fifo.nbBytes (fifo : Fifo) : UInt16 :=
  if fifo.nbBytes1 < fifo.nbBytes2 then fifo.nbBytes2 else fifo.nbBytes1

/-- The counting loop of `rx_buffer_fetch`, or `none` where the syncword of a
record is missing. -/
def countPackets (rd : ℕ → UInt8) (size idx : ℕ) (nb : UInt8) : Option UInt8 :=
  if idx < size then
    if syncAt rd idx then
      countPackets rd size (idx + recordLength (fun i => rd (idx + i))) (nb + 1)
    else none
  else some nb
termination_by size - idx
decreasing_by
  have h : 0 < recordLength (fun i => rd (idx + i)) := by unfold recordLength headMetadata; omega
  omega

/-- The bytes from the first syncword on, moved to the front of the array. -/
def RxBuffer.resync (self : RxBuffer) (idx : ℕ) : RxBuffer :=
  if idx = 0 then self
  else { self with
    buffer := overwrite ((self.buffer.drop idx).take (self.bufferSize.toNat - idx)) self.buffer
    bufferSize := self.bufferSize - UInt16.ofNat idx }

/-- `rx_buffer_fetch`. -/
def rxBufferFetch (past : ℕ → UInt8) (fifo : Fifo) (self : RxBuffer) : RegStatus × RxBuffer :=
  let self := { self with bufferSize := fifo.nbBytes }
  let size := self.bufferSize.toNat
  if size = 0 then (.success, { self with bufferIndex := 0 })
  else
    match fifo.memRb with
    | .error bytes => (.error, { self with
        buffer := overwrite (bytes.take size) (List.replicate rxBufferSize 0) })
    | .ok bytes =>
      let self := { self with
        buffer := overwrite (bytes.take size) (List.replicate rxBufferSize 0) }
      if size < headMetadata + tailMetadata then (.success, rxBufferDel self)
      else
        match (List.range (size - 1)).find? (syncAt (self.byte past)) with
        | none => (.success, rxBufferDel self)
        | some idx =>
          let self := self.resync idx
          match countPackets (self.byte past) self.bufferSize.toNat 0 self.bufferPktNb with
          | none => (.success, rxBufferDel self)
          | some nb => (.success, { self with bufferPktNb := nb, bufferIndex := 0 })

/-- The bytes of the buffer from the current index on. -/
def RxBuffer.rd (self : RxBuffer) (past : ℕ → UInt8) (i : ℕ) : UInt8 :=
  self.byte past (self.bufferIndex + i)

/-- `rx_buffer_pop`: the status, the buffer, and on success the packet. -/
def rxBufferPop (past : ℕ → UInt8) (self : RxBuffer) : RegStatus × RxBuffer × Option RxPacket :=
  let rd := self.rd past
  if self.bufferSize.toNat ≤ self.bufferIndex then (.error, self, none)
  else if !syncAt rd 0 then (.error, self, none)
  else if self.bufferSize.toNat < self.bufferIndex + recordLength rd then (.warning, self, none)
  else if !checksumOk rd then (.warning, self, none)
  else if !metadataInRange (rxPacketAt rd) then (.error, self, none)
  else
    (.success,
      { self with
        bufferIndex := self.bufferIndex + recordLength rd
        bufferPktNb := self.bufferPktNb - 1 },
      some (rxPacketAt rd))
