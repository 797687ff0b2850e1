import MeshBeacon.RxBuffer
import MeshBeacon.Timestamp

/-!
# From records to received packets

`sx1302_parse` takes the next record out of the receive buffer and makes a
packet for the layers above of it: it checks the channel, decides the CRC
status – and checks the payload's CRC itself when the modem claims it is
right – and translates the modem's numbers into the codes of the library.

What is computed in floating point does not influence any of this and is a
parameter (`RxCalc`): the frequency offset, the correction of the timestamp
and the fine timestamp. Signal strengths, which the layers above only print,
are left out.
-/

open Hal

/-! ## The CRC of LoRa payloads -/

/-- The number with these bits, the least significant first. -/
def ofBits : List Bool → ℕ
  | [] => 0
  | b :: bs => b.toNat + 2 * ofBits bs

/-- `lora_crc16`: one byte is shifted into the CRC. -/
def loraCrc16 (data : UInt8) (crc : UInt16) : UInt16 :=
  let d i := data.toNat.testBit i
  let c i := crc.toNat.testBit i
  UInt16.ofNat (ofBits
    [ d 0 ^^ c 12 ^^ c 8,
      d 1 ^^ c 13 ^^ c 9,
      d 2 ^^ c 14 ^^ c 10,
      d 3 ^^ c 15 ^^ c 11,
      d 4 ^^ c 12,
      d 5 ^^ c 13 ^^ c 12 ^^ c 8,
      d 6 ^^ c 14 ^^ c 13 ^^ c 9,
      d 7 ^^ c 15 ^^ c 14 ^^ c 10,
      c 0 ^^ c 15 ^^ c 11,
      c 1 ^^ c 12,
      c 2 ^^ c 13,
      c 3 ^^ c 14,
      c 4 ^^ c 15 ^^ c 12 ^^ c 8,
      c 5 ^^ c 13 ^^ c 9,
      c 6 ^^ c 14 ^^ c 10,
      c 7 ^^ c 15 ^^ c 11 ])

/-- `sx1302_lora_payload_crc`. -/
def sx1302LoraPayloadCrc (data : List UInt8) : UInt16 :=
  data.foldl (fun crc b => loraCrc16 b crc) 0

/-! ## Received packets -/

/-- `struct lgw_pkt_rx_s`, without the signal strengths. Of the payload array
only the bytes received are kept. -/
structure LgwPktRx where
  /-- Centre frequency of the IF chain. -/
  freqHz : UInt32
  freqOffset : Int32
  /-- IF chain the packet was received by. -/
  ifChain : UInt8
  status : UInt8
  /-- Timestamp in microseconds. -/
  countUs : UInt32
  rfChain : UInt8
  modemId : UInt8
  modulation : UInt8
  bandwidth : UInt8
  /-- Spreading factor or bit rate. -/
  datarate : UInt32
  coderate : UInt8
  crc : UInt16
  size : UInt16
  payload : List UInt8
  ftimeReceived : Bool
  ftime : UInt32
deriving DecidableEq

/-- The packet `memset` to zero leaves. -/
def LgwPktRx.zero : LgwPktRx := ⟨0, 0, 0, 0, 0, 0, 0, 0, 0, 0, 0, 0, 0, [], false, 0⟩

/-- Type of the modem behind an IF chain. -/
inductive IfMod where
  | loraMulti
  | loraStd
  | fskStd
deriving DecidableEq

/-- `ifmod_config`, for the chains there are. -/
def ifmodConfig (ifChain : UInt8) : IfMod :=
  if ifChain < 8 then .loraMulti else if ifChain = 8 then .loraStd else .fskStd

/-- `lgw_context_t`, the configuration parsing reads. -/
structure LgwContext where
  ifRfChain : UInt8 → UInt8
  ifFreqHz : UInt8 → Int32
  rfFreqHz : UInt8 → UInt32
  /-- Is there a CRC in packets with implicit header? -/
  implicitCrcEn : Bool
  implicitHdr : Bool
  implicitCoderate : UInt8
  loraServiceBandwidth : UInt8
  fskBandwidth : UInt8
  fskDatarate : UInt32

/-- What is calculated in floating point, and the correction of the
timestamp, which only depends on the parameters of the transmission. -/
structure RxCalc where
  /-- The frequency offset, from that of the record, the bandwidth and the
  frequency of the IF chain. -/
  freqOffset : ℤ → UInt8 → Int32 → Int32
  /-- `timestamp_counter_correction`. -/
  timestampCounterCorrection : UInt8 → UInt32 → UInt8 → Bool → UInt8 → Int32
  /-- `precise_timestamp_calculate`, `none` when it fails. -/
  preciseTimestampCalculate : RxPacket → UInt32 → Int32 → Option UInt32

/-- `sx1302_parse`, the CRC status of a packet of a LoRa modem, or `none` when
the CRC of the payload is not the one received. -/
def loraStatus (context : LgwContext) (ifmod : IfMod) (pkt : RxPacket) : Option UInt8 :=
  if pkt.crcEn || (ifmod = .loraStd && context.implicitCrcEn) then
    if pkt.payloadCrcError then some statCrcBad
    else if 0 < pkt.rxbytenbModem && sx1302LoraPayloadCrc pkt.payload ≠ pkt.rxCrc16Value then none
    else some statCrcOk
  else some statNoCrc

/-- The CRC status of a packet of the FSK modem. -/
def fskStatus (pkt : RxPacket) : UInt8 :=
  if pkt.crcEn then if pkt.payloadCrcError then statCrcBad else statCrcOk else statNoCrc

/-- The coding rate as the library codes it. -/
def coderateOf (cr : UInt8) : UInt8 :=
  if cr = 1 then 0x01 else if cr = 2 then 0x02 else if cr = 3 then 0x03
  else if cr = 4 then 0x04 else crUndefined

/-- The spreading factor as the library codes it. -/
def datarateOf (sf : UInt8) : UInt32 := if 5 ≤ sf && sf ≤ 12 then sf.toUInt32 else drUndefined

/-- `sx1302_parse` after the record has been taken out of the buffer: the entry
of the caller's array, filled in, or `none` on an error. An FSK packet leaves
the fine timestamp and the frequency offset of the entry as they were. -/
def processPacket (context : LgwContext) (calcs : RxCalc) (counter : TimestampCounter)
    (entry : LgwPktRx) (pkt : RxPacket) : Option LgwPktRx :=
  if ifChainNb ≤ pkt.rxChannelIn.toNat then none
  else
    let ifmod := ifmodConfig pkt.rxChannelIn
    let rfChain := context.ifRfChain pkt.rxChannelIn
    let p := { entry with
      payload := pkt.payload
      size := pkt.rxbytenbModem.toUInt16
      modemId := pkt.modemId
      ifChain := pkt.rxChannelIn
      rfChain := rfChain
      freqHz := context.rfFreqHz rfChain + (context.ifFreqHz pkt.rxChannelIn).toUInt32
      countUs := timestampPktExpand counter (pkt.timestampCnt / 32)
      crc := pkt.rxCrc16Value }
    match ifmod with
    | .fskStd =>
      some { p with
        modulation := modFsk
        status := fskStatus pkt
        bandwidth := context.fskBandwidth
        datarate := context.fskDatarate
        coderate := crUndefined
        countUs := p.countUs + (680000 / context.fskDatarate - 20) }
    | _ =>
      match loraStatus context ifmod pkt with
      | none => none
      | some status =>
        let bandwidth := if ifmod = .loraMulti then bw125khz else context.loraServiceBandwidth
        let datarate := datarateOf pkt.rxRateSf
        let coderate := coderateOf (if ifmod = .loraMulti || !context.implicitHdr then pkt.codingRate
          else context.implicitCoderate)
        let ftime :=
          if 0 < pkt.numTsMetricsStored && pkt.timingSet && status = statCrcOk then
            calcs.preciseTimestampCalculate pkt p.freqHz (context.ifFreqHz pkt.rxChannelIn)
          else none
        some { p with
          modulation := modLora
          status := status
          bandwidth := bandwidth
          datarate := datarate
          coderate := coderate
          freqOffset := calcs.freqOffset pkt.frequencyOffsetError bandwidth
            (context.ifFreqHz pkt.rxChannelIn)
          countUs := p.countUs + (calcs.timestampCounterCorrection bandwidth datarate coderate
            pkt.crcEn pkt.rxbytenbModem).toUInt32
          ftimeReceived := ftime.isSome
          ftime := ftime.getD 0 }

/-- The statuses there are. -/
def IsCrcStatus (status : UInt8) : Prop :=
  status = statCrcOk ∨ status = statCrcBad ∨ status = statNoCrc

/-- The FSK modem gives one of the statuses there are. -/
theorem isCrcStatus_fskStatus (pkt : RxPacket) : IsCrcStatus (fskStatus pkt) := by
  unfold fskStatus
  split_ifs
  · exact Or.inr (Or.inl rfl)
  · exact Or.inl rfl
  · exact Or.inr (Or.inr rfl)

/-- A LoRa modem gives one of the statuses there are. -/
theorem isCrcStatus_loraStatus {context : LgwContext} {ifmod : IfMod} {pkt : RxPacket}
    {status : UInt8} (h : loraStatus context ifmod pkt = some status) : IsCrcStatus status := by
  unfold loraStatus at h
  split_ifs at h <;> obtain rfl := Option.some.inj h
  · exact Or.inr (Or.inl rfl)
  · exact Or.inl rfl
  · exact Or.inr (Or.inr rfl)

/-- **Every packet has one of the statuses there are.** -/
theorem isCrcStatus_processPacket {context : LgwContext} {calcs : RxCalc}
    {counter : TimestampCounter} {entry p : LgwPktRx} {pkt : RxPacket}
    (h : processPacket context calcs counter entry pkt = some p) : IsCrcStatus p.status := by
  unfold processPacket at h
  split_ifs at h
  dsimp only at h
  split at h
  · obtain rfl := Option.some.inj h
    exact isCrcStatus_fskStatus pkt
  · split at h
    · exact absurd h nofun
    · rename_i hstatus
      obtain rfl := Option.some.inj h
      exact isCrcStatus_loraStatus hstatus

/-- `sx1302_parse`: the status, the buffer, and on success the packet. A
truncated or corrupted record clears the buffer; an error of `rx_buffer_pop`
does not. -/
def sx1302Parse (past : ℕ → UInt8) (context : LgwContext) (calcs : RxCalc)
    (counter : TimestampCounter) (entry : LgwPktRx) (rx : RxBuffer) :
    RegStatus × RxBuffer × Option LgwPktRx :=
  match rxBufferPop past rx with
  | (.warning, rx, _) => (.warning, rxBufferDel rx, none)
  | (.error, rx, _) => (.error, rx, none)
  | (.success, rx, pkt) =>
    match pkt.bind (processPacket context calcs counter entry) with
    | none => (.error, rx, none)
    | some p => (.success, rx, some p)
