import MeshBeacon.LoraEmission
import MeshBeacon.Run
import MeshBeacon.UsbBulk

/-!
# Programming a packet over USB

`sx1302_send` makes several dozens of writes, one after another and almost
without a computation between them, and returns an error as soon as one fails or
something about the packet is not supported. So what it does with a packet is a
list of writes, in the order of the source, and the function is the transaction
of that list.

The mode, the buffer and the count are left as they should be when the packet is
one the function knows how to program, all of its requests fit, and the device
acknowledges the flush. Any earlier return skips the flush and the single mode,
and a flush that fails resets the count of requests that are still there.

What the source computes in floating point is a parameter (`TxCalc`). The packet
and the gain table are passed by reference, and are there.
-/

open Hal Usb

/-! ## What the function reads -/

/-- `lgw_radio_type_t`. -/
inductive LgwRadioType where
  | none
  | sx1255
  | sx1257
  | sx1272
  | sx1276
  | sx1250
deriving DecidableEq

/-- `struct lgw_tx_gain_s`. -/
structure LgwTxGain where
  rfPower : Int8
  digGain : UInt8
  paGain : UInt8
  dacGain : UInt8
  mixGain : UInt8
  offsetI : Int8
  offsetQ : Int8
  pwrIdx : UInt8

/-- `struct lgw_tx_gain_lut_s`. -/
structure LgwTxGainLut where
  lut : List LgwTxGain
  size : UInt8

/-- The entry at an index; behind the table there is nothing. -/
def LgwTxGainLut.entry (l : LgwTxGainLut) (i : ℕ) : LgwTxGain :=
  l.lut[i]?.getD ⟨0, 0, 0, 0, 0, 0, 0, 0⟩

/-- `struct lgw_conf_rxif_s`, the FSK sync word. -/
structure FskContext where
  syncWordSize : UInt8
  syncWord : UInt64

/-- What is computed in floating point. -/
structure TxCalc where
  /-- Frequency deviation in CW mode. -/
  cwFreqDev : UInt32
  /-- Modulation frequency in CW mode. -/
  cwTestModFreq : UInt8
  /-- The delay from the trigger to the start of the transmission. -/
  txStartDelay : UInt16

/-! ## The registers -/

/-- A register of the transmit block of an RF chain: its place in the block, its
lowest bit and its number of bits. None of them is read-only. -/
def txTopReg (rfChain : UInt8) (place : UInt16) (offs leng : UInt8) : LgwReg :=
  ⟨(if rfChain = 0 then 0x5200 else 0x5400) + place, offs, leng, false⟩

/-- A byte of the mailbox of the AGC. -/
def agcMailBoxWrData (place : UInt16) : LgwReg := ⟨0x5780 + place, 0, 8, false⟩

namespace TxTop

variable (rfChain : UInt8)

def txTrigImmediate : LgwReg := txTopReg rfChain 0 0 1
def txTrigDelayed : LgwReg := txTopReg rfChain 0 1 1
def txTrigGps : LgwReg := txTopReg rfChain 0 2 1
def timerTrigByte3 : LgwReg := txTopReg rfChain 1 0 8
def timerTrigByte2 : LgwReg := txTopReg rfChain 2 0 8
def timerTrigByte1 : LgwReg := txTopReg rfChain 3 0 8
def timerTrigByte0 : LgwReg := txTopReg rfChain 4 0 8
def txStartDelayMsb : LgwReg := txTopReg rfChain 5 0 8
def writeBuffer : LgwReg := txTopReg rfChain 7 0 1
def modulationType : LgwReg := txTopReg rfChain 9 0 1
def agcTxBw : LgwReg := txTopReg rfChain 12 0 8
def agcTxPwr : LgwReg := txTopReg rfChain 13 0 8
def txIfSrc : LgwReg := txTopReg rfChain 32 0 2
def iqGain : LgwReg := txTopReg rfChain 34 0 2
def iOffset : LgwReg := txTopReg rfChain 35 0 8
def qOffset : LgwReg := txTopReg rfChain 36 0 8
def freqRfH : LgwReg := txTopReg rfChain 37 0 8
def freqRfM : LgwReg := txTopReg rfChain 38 0 8
def freqRfL : LgwReg := txTopReg rfChain 39 0 8
def freqDevH : LgwReg := txTopReg rfChain 40 0 4
def freqDevL : LgwReg := txTopReg rfChain 41 0 8
def testModFreq : LgwReg := txTopReg rfChain 42 0 8
def fskPktLength : LgwReg := txTopReg rfChain 64 0 8
def fskPktMode : LgwReg := txTopReg rfChain 65 0 1
def fskCrcEn : LgwReg := txTopReg rfChain 65 1 1
def fskDcfreeEnc : LgwReg := txTopReg rfChain 65 2 2
def fskCrcIbm : LgwReg := txTopReg rfChain 65 4 1
def fskPreambleSizeMsb : LgwReg := txTopReg rfChain 66 0 8
def fskBitRateMsb : LgwReg := txTopReg rfChain 68 0 8
def fskGaussianEn : LgwReg := txTopReg rfChain 70 0 1
def fskGaussianSelectBt : LgwReg := txTopReg rfChain 70 1 2
def fskRefPatternEn : LgwReg := txTopReg rfChain 70 3 1
def fskPreambleSeq : LgwReg := txTopReg rfChain 70 4 1
def fskRefPatternSize : LgwReg := txTopReg rfChain 70 5 3
/-- `FSK_REF_PATTERN_BYTE7` is the first of the eight. -/
def fskRefPatternByte (i : ℕ) : LgwReg := txTopReg rfChain (UInt16.ofNat (78 - i)) 0 8
def modemSf : LgwReg := txTopReg rfChain 96 0 4
def modemBw : LgwReg := txTopReg rfChain 96 4 4
def codingRate : LgwReg := txTopReg rfChain 97 0 3
def ppmOffset : LgwReg := txTopReg rfChain 97 4 2
def ppmOffsetHdrCtrl : LgwReg := txTopReg rfChain 97 6 2
def crcEn : LgwReg := txTopReg rfChain 98 0 1
def implicitHeader : LgwReg := txTopReg rfChain 98 1 1
def cadrxtx : LgwReg := txTopReg rfChain 98 4 2
def modemEn : LgwReg := txTopReg rfChain 98 6 1
def fineSynchEn : LgwReg := txTopReg rfChain 98 7 1
def payloadLength : LgwReg := txTopReg rfChain 99 0 8
def modemStart : LgwReg := txTopReg rfChain 101 7 1
def preambleSymbNbLsb : LgwReg := txTopReg rfChain 102 0 8
def preambleSymbNbMsb : LgwReg := txTopReg rfChain 103 0 8
def continuous : LgwReg := txTopReg rfChain 105 0 1
def chirpInvert : LgwReg := txTopReg rfChain 105 1 1
def chirpLowpass : LgwReg := txTopReg rfChain 105 4 3
def peak1Pos : LgwReg := txTopReg rfChain 109 0 5
def peak2Pos : LgwReg := txTopReg rfChain 110 0 5

end TxTop

open TxTop

/-! ## The numbers -/

/-- `SX1302_FREQ_TO_REG`. -/
def sx1302FreqToReg (f : UInt32) : UInt32 := UInt32.ofNat (f.toNat * 2 ^ 18 / 32000000)

/-- `SX1250_FREQ_TO_REG`. -/
def sx1250FreqToReg (f : UInt32) : UInt32 := UInt32.ofNat (f.toNat * 2 ^ 25 / 32000000)

/-- A byte of a 32-bit number. -/
def byteOf (x : UInt32) (shift : UInt32) : UInt8 := (x >>> shift).toUInt8

/-- The two bytes of a 16-bit number, the high one first. -/
def bytesOf16 (x : UInt16) : List UInt8 := [(x >>> 8).toUInt8, x.toUInt8]

/-- The bandwidths the library sends LoRa packets at. -/
def IsLoraBw (bw : UInt8) : Prop := bw = bw125khz ∨ bw = bw250khz ∨ bw = bw500khz

instance (bw : UInt8) : Decidable (IsLoraBw bw) := inferInstanceAs (Decidable (_ ∨ _))

/-- Half of `lgw_bw_getval`, which is -1 for other bandwidths. -/
def loraFreqDev (bw : UInt8) : UInt32 :=
  if IsLoraBw bw then UInt32.ofNat (lgwBwGetval bw / 2) else 0

/-- The preamble `sx1302_send` puts into an FSK packet, `STD_FSK_PREAMBLE` being 5
and `MIN_FSK_PREAMBLE` being 3. -/
def fskPreamble (preamble : UInt16) : UInt16 :=
  if preamble = 0 then 5 else if preamble < 3 then 3 else preamble

/-- The search for the gain of a power, from an index downwards. -/
def powIndex (l : LgwTxGainLut) (rfPower : Int8) : ℕ → ℕ
  | 0 => 0
  | i + 1 => if (l.entry (i + 1)).rfPower ≤ rfPower then i + 1 else powIndex l rfPower i

/-- The payload bytes that are written. What would lie behind the payload array is
taken to be zero. -/
def payloadData (p : LgwPktTx) : List UInt8 :=
  (List.range p.size.toNat).map fun i => p.payload[i]?.getD 0

@[simp] theorem length_payloadData (p : LgwPktTx) : (payloadData p).length = p.size.toNat := by
  rw [payloadData, List.length_map, List.length_range]

/-! ## The writes -/

section Writes

variable (tc : TxCalc) (radioType : LgwRadioType) (txLut : LgwTxGainLut) (lwanPublic : Bool)
  (contextFsk : Option FskContext) (p : LgwPktTx)

/-- The modem. -/
def modemWrites : List LgwWrite :=
  if p.modulation = modCw then
    [.reg (modulationType p.rfChain) 0x00, .reg (txIfSrc p.rfChain) 0x00]
  else if p.modulation = modLora then
    [.reg (modulationType p.rfChain) 0x00, .reg (txIfSrc p.rfChain) 0x01]
  else if p.modulation = modFsk then
    [.reg (modulationType p.rfChain) 0x01, .reg (txIfSrc p.rfChain) 0x02]
  else [.unsupported]

/-- The entry of the gain table for the power asked for. -/
def txGainOf : LgwTxGain := txLut.entry (powIndex txLut p.rfPower (txLut.size - 1).toNat)

/-- The power, which the radio decides how to write. -/
def powerWrites : List LgwWrite :=
  let g := txGainOf txLut p
  match radioType with
  | .sx1250 => [.reg (agcTxPwr p.rfChain) (((decide (0 < g.paGain)).toUInt8 <<< 6) ||| g.pwrIdx)]
  | .sx1255 | .sx1257 =>
    [.reg (agcTxPwr p.rfChain) ((g.paGain <<< 6) ||| (g.dacGain <<< 4) ||| g.mixGain)]
  | _ => [.unsupported]

/-- The offsets, the power and the digital gain. -/
def gainWrites : List LgwWrite :=
  [.reg (iOffset p.rfChain) (txGainOf txLut p).offsetI.toUInt8,
    .reg (qOffset p.rfChain) (txGainOf txLut p).offsetQ.toUInt8]
  ++ powerWrites radioType txLut p
  ++ [.reg (iqGain p.rfChain) (txGainOf txLut p).digGain]

/-- The frequency. -/
def freqWrites : List LgwWrite :=
  let freqReg := sx1302FreqToReg (if radioType = .sx1255 then p.freqHz * 2 else p.freqHz)
  [.reg (freqRfH p.rfChain) (byteOf freqReg 16), .reg (freqRfM p.rfChain) (byteOf freqReg 8),
    .reg (freqRfL p.rfChain) (byteOf freqReg 0)]

/-- The bandwidth and the modulation, for the AGC. -/
def agcBwWrites : List LgwWrite :=
  if p.modulation = modLora then [.reg (agcTxBw p.rfChain) p.bandwidth]
  else if p.modulation = modCw ∨ p.modulation = modFsk then
    [.reg (agcTxBw p.rfChain) (0x80 ||| p.bandwidth)]
  else [.unsupported]

/-- A frequency deviation, for the modem. -/
def freqDevWrites (freqDev : UInt32) : List LgwWrite :=
  [.reg (freqDevH p.rfChain) (byteOf (sx1302FreqToReg freqDev) 8),
    .reg (freqDevL p.rfChain) (byteOf (sx1302FreqToReg freqDev) 0)]

/-- A frequency deviation, for the AGC. -/
def agcFreqDevWrites (freqDev : UInt32) : List LgwWrite :=
  [.reg (agcMailBoxWrData 10) (byteOf (sx1250FreqToReg freqDev) 16),
    .reg (agcMailBoxWrData 11) (byteOf (sx1250FreqToReg freqDev) 8),
    .reg (agcMailBoxWrData 12) (byteOf (sx1250FreqToReg freqDev) 0)]

/-- The CW modem. -/
def cwWrites : List LgwWrite :=
  freqDevWrites p tc.cwFreqDev ++ agcFreqDevWrites tc.cwFreqDev
  ++ [.reg (testModFreq p.rfChain) tc.cwTestModFreq]

/-- The LoRa modem. -/
def loraWrites : List LgwWrite :=
  let preamble := loraPreamble p.preamble
  let lowSf : Bool := p.datarate = 5 || p.datarate = 6
  let privateSync : Bool := !lwanPublic || lowSf
  freqDevWrites p (loraFreqDev p.bandwidth)
  ++ [.reg (modemBw p.rfChain) p.bandwidth,
    .reg (preambleSymbNbMsb p.rfChain) (preamble >>> 8).toUInt8,
    .reg (preambleSymbNbLsb p.rfChain) preamble.toUInt8,
    .reg (modemSf p.rfChain) p.datarate.toUInt8,
    .reg (chirpLowpass p.rfChain) (if p.datarate < 10 then 6 else 7),
    .reg (codingRate p.rfChain) p.coderate,
    .reg (modemEn p.rfChain) 1,
    .reg (cadrxtx p.rfChain) 2,
    .reg (modemStart p.rfChain) 1,
    .reg (continuous p.rfChain) 0,
    .reg (chirpInvert p.rfChain) p.invertPol.toUInt8,
    .reg (implicitHeader p.rfChain) p.noHeader.toUInt8,
    .reg (crcEn p.rfChain) (!p.noCrc).toUInt8,
    .reg (peak1Pos p.rfChain) (if privateSync then 2 else 6),
    .reg (peak2Pos p.rfChain) (if privateSync then 4 else 8),
    .reg (fineSynchEn p.rfChain) lowSf.toUInt8,
    .reg (payloadLength p.rfChain) p.size.toUInt8,
    .reg (ppmOffsetHdrCtrl p.rfChain) 0,
    .reg (ppmOffset p.rfChain) (setPpmOn p.bandwidth p.datarate).toUInt8]

/-- The bit rate of the FSK modem, by which the source divides in the middle of the
bulk mode. -/
def bitRateWrites : List LgwWrite :=
  if p.datarate = 0 then [.dividesByZero]
  else [.regBurst (fskBitRateMsb p.rfChain) (bytesOf16 (32000000 / p.datarate).toUInt16)]

/-- The FSK modem. A sync word is written left-aligned. -/
def fskWrites (context : FskContext) : List LgwWrite :=
  let syncWord := context.syncWord <<< (8 * (8 - context.syncWordSize.toUInt64))
  freqDevWrites p (p.fDev.toUInt32 * 1000) ++ agcFreqDevWrites (p.fDev.toUInt32 * 1000)
  ++ [.reg (fskPktMode p.rfChain) 1,
    .reg (fskCrcEn p.rfChain) (!p.noCrc).toUInt8,
    .reg (fskCrcIbm p.rfChain) 0,
    .reg (fskDcfreeEnc p.rfChain) 2,
    .reg (fskGaussianEn p.rfChain) 1,
    .reg (fskGaussianSelectBt p.rfChain) 2,
    .reg (fskRefPatternEn p.rfChain) 1,
    .reg (fskRefPatternSize p.rfChain) (context.syncWordSize - 1)]
  ++ (List.range 8).map (fun i =>
    .reg (fskRefPatternByte p.rfChain i) (syncWord >>> UInt64.ofNat (8 * i)).toUInt8)
  ++ [.reg (fskPreambleSeq p.rfChain) 0]
  ++ bitRateWrites p
  ++ [.regBurst (fskPreambleSizeMsb p.rfChain) (bytesOf16 (fskPreamble p.preamble)),
    .reg (fskPktLength p.rfChain) p.size.toUInt8]

/-- The modem of the packet; for FSK the context has to be there. -/
def configWrites : List LgwWrite :=
  if p.modulation = modCw then cwWrites tc p
  else if p.modulation = modLora then loraWrites lwanPublic p
  else if p.modulation = modFsk then contextFsk.elim [.unsupported] (fskWrites p)
  else [.unsupported]

/-- `sx1302_tx_set_start_delay`, which only LoRa packets need. -/
def startDelayWrites : List LgwWrite :=
  if p.modulation ≠ modLora then []
  else match radioType with
  | .sx1250 | .sx1255 | .sx1257 =>
    if IsLoraBw p.bandwidth then [.regBurst (txStartDelayMsb p.rfChain) (bytesOf16 tc.txStartDelay)]
    else [.unsupported]
  | _ => [.unsupported]

/-- The payload, which FSK puts its length before. -/
def payloadWrites : List LgwWrite :=
  let memAddr : UInt16 := if p.rfChain = 0 then 0x5300 else 0x5500
  [.reg (writeBuffer p.rfChain) 0x01]
  ++ (if p.modulation = modFsk then
      [.mem memAddr [p.size.toUInt8], .mem (memAddr + 1) (payloadData p)]
    else [.mem memAddr (payloadData p)])
  ++ [.reg (writeBuffer p.rfChain) 0x00]

/-- The trigger. The counter runs at 32 MHz. -/
def triggerWrites : List LgwWrite :=
  let delay := if p.modulation = modLora then tc.txStartDelay.toUInt32 else 0
  let countUs := p.countUs * 32 - delay
  if p.txMode = immediate then
    [.reg (txTrigImmediate p.rfChain) 0x00, .reg (txTrigImmediate p.rfChain) 0x01]
  else if p.txMode = timestamped then
    [.reg (timerTrigByte0 p.rfChain) (byteOf countUs 0),
      .reg (timerTrigByte1 p.rfChain) (byteOf countUs 8),
      .reg (timerTrigByte2 p.rfChain) (byteOf countUs 16),
      .reg (timerTrigByte3 p.rfChain) (byteOf countUs 24),
      .reg (txTrigDelayed p.rfChain) 0x00, .reg (txTrigDelayed p.rfChain) 0x01]
  else if p.txMode = onGps then
    [.reg (txTrigGps p.rfChain) 0x00, .reg (txTrigGps p.rfChain) 0x01]
  else [.unsupported]

/-- **The writes of `sx1302_send`**, in their order. -/
def sx1302Writes : List LgwWrite :=
  modemWrites p ++ gainWrites radioType txLut p ++ freqWrites radioType p ++ agcBwWrites p
  ++ configWrites tc lwanPublic contextFsk p ++ startDelayWrites tc radioType p
  ++ payloadWrites p ++ triggerWrites tc p

/-- `sx1302_send`. -/
def sx1302Send (port : UsbPort) (u : UsbLink) : ℤ × UsbLink :=
  bulkTransaction port (sx1302Writes tc radioType txLut lwanPublic contextFsk p) u

end Writes

/-! ## Which packets it can program -/

/-- **A packet the function knows how to program**, with a radio and for FSK a
context and a bit rate. -/
structure Programmable (radioType : LgwRadioType) (contextFsk : Option FskContext)
    (p : LgwPktTx) : Prop where
  modulation : p.modulation = modCw ∨ p.modulation = modLora ∨ p.modulation = modFsk
  radio : radioType = .sx1250 ∨ radioType = .sx1255 ∨ radioType = .sx1257
  fsk : p.modulation = modFsk → contextFsk.isSome ∧ p.datarate ≠ 0
  lora : p.modulation = modLora → IsLoraBw p.bandwidth
  /-- There is a payload. -/
  payload : p.size ≠ 0
  txMode : p.txMode = immediate ∨ p.txMode = timestamped ∨ p.txMode = onGps

/-- All writes of a list are proper. -/
def AllProper (ws : List LgwWrite) : Prop := ∀ w ∈ ws, w.Proper

@[simp] theorem allProper_append (ws vs : List LgwWrite) :
    AllProper (ws ++ vs) ↔ AllProper ws ∧ AllProper vs :=
  List.forall_mem_append

@[simp] theorem allProper_cons (w : LgwWrite) (ws : List LgwWrite) :
    AllProper (w :: ws) ↔ w.Proper ∧ AllProper ws :=
  List.forall_mem_cons

@[simp] theorem allProper_nil : AllProper [] := fun _ hw => absurd hw List.not_mem_nil

@[simp] theorem not_proper_unsupported : ¬ LgwWrite.unsupported.Proper := id

@[simp] theorem not_proper_dividesByZero : ¬ LgwWrite.dividesByZero.Proper := id

section Proper

variable (tc : TxCalc) (radioType : LgwRadioType) (txLut : LgwTxGainLut) (lwanPublic : Bool)
  (contextFsk : Option FskContext) (p : LgwPktTx)

/-- The modem is selected for three modulations. -/
theorem allProper_modemWrites : AllProper (modemWrites p)
    ↔ p.modulation = modCw ∨ p.modulation = modLora ∨ p.modulation = modFsk := by
  unfold modemWrites
  split_ifs with hcw hlora hfsk
  · refine iff_of_true ?_ (Or.inl hcw)
    simp only [allProper_cons, allProper_nil]
    repeat' constructor
  · refine iff_of_true ?_ (Or.inr (Or.inl hlora))
    simp only [allProper_cons, allProper_nil]
    repeat' constructor
  · refine iff_of_true ?_ (Or.inr (Or.inr hfsk))
    simp only [allProper_cons, allProper_nil]
    repeat' constructor
  · exact iff_of_false (by simp) (by simp [hcw, hlora, hfsk])

/-- The power is written for three types of radio. -/
theorem allProper_gainWrites : AllProper (gainWrites radioType txLut p)
    ↔ radioType = .sx1250 ∨ radioType = .sx1255 ∨ radioType = .sx1257 := by
  have hoffsets (v v' : UInt8) :
      AllProper [.reg (iOffset p.rfChain) v, .reg (qOffset p.rfChain) v'] := by
    simp only [allProper_cons, allProper_nil]
    repeat' constructor
  have hgain (v : UInt8) : AllProper [.reg (iqGain p.rfChain) v] := by
    simp only [allProper_cons, allProper_nil]
    repeat' constructor
  have hpwr (v : UInt8) : AllProper [.reg (agcTxPwr p.rfChain) v] := by
    simp only [allProper_cons, allProper_nil]
    repeat' constructor
  unfold gainWrites powerWrites
  rw [allProper_append, allProper_append, and_iff_left (hgain _), and_iff_right (hoffsets _ _)]
  cases radioType with
  | sx1250 => exact iff_of_true (hpwr _) (Or.inl rfl)
  | sx1255 => exact iff_of_true (hpwr _) (Or.inr (Or.inl rfl))
  | sx1257 => exact iff_of_true (hpwr _) (Or.inr (Or.inr rfl))
  | none => exact iff_of_false (by simp) (by decide)
  | sx1272 => exact iff_of_false (by simp) (by decide)
  | sx1276 => exact iff_of_false (by simp) (by decide)

/-- The frequency is written for every packet. -/
theorem allProper_freqWrites : AllProper (freqWrites radioType p) := by
  unfold freqWrites
  simp only [allProper_cons, allProper_nil]
  repeat' constructor

theorem allProper_agcBwWrites
    (h : p.modulation = modCw ∨ p.modulation = modLora ∨ p.modulation = modFsk) :
    AllProper (agcBwWrites p) := by
  unfold agcBwWrites
  split_ifs with hlora hother
  · simp only [allProper_cons, allProper_nil]
    repeat' constructor
  · simp only [allProper_cons, allProper_nil]
    repeat' constructor
  · exact absurd (h.imp_right fun h => h.resolve_left hlora) hother

/-- The CW modem is programmed for every packet. -/
theorem allProper_cwWrites : AllProper (cwWrites tc p) := by
  unfold cwWrites freqDevWrites agcFreqDevWrites
  simp only [allProper_append, allProper_cons, allProper_nil]
  repeat' constructor

/-- The LoRa modem is programmed for every packet. -/
theorem allProper_loraWrites : AllProper (loraWrites lwanPublic p) := by
  unfold loraWrites freqDevWrites
  simp only [allProper_append, allProper_cons, allProper_nil]
  repeat' constructor

/-- The FSK modem is programmed for every packet with a bit rate. -/
theorem allProper_fskWrites (context : FskContext) :
    AllProper (fskWrites p context) ↔ p.datarate ≠ 0 := by
  have hpattern (f : ℕ → UInt8) :
      AllProper ((List.range 8).map fun i => .reg (fskRefPatternByte p.rfChain i) (f i)) := by
    intro w hw
    obtain ⟨i, -, rfl⟩ := List.mem_map.mp hw
    exact ⟨rfl, le_refl 8⟩
  have hburst (place : UInt8 → LgwReg) (x : UInt16) (h : (place p.rfChain).rdon = false) :
      AllProper [.regBurst (place p.rfChain) (bytesOf16 x)] := by
    rw [allProper_cons]
    exact ⟨⟨h, List.cons_ne_nil _ _⟩, allProper_nil⟩
  have hrate : AllProper (bitRateWrites p) ↔ p.datarate ≠ 0 := by
    unfold bitRateWrites
    split_ifs with hzero
    · exact iff_of_false (by simp) (not_not_intro hzero)
    · exact iff_of_true (hburst fskBitRateMsb _ rfl) hzero
  -- every other write is one to a register that can be written
  unfold fskWrites freqDevWrites agcFreqDevWrites
  simp only [allProper_append, hrate]
  refine ⟨fun h => h.1.2, fun h => ⟨⟨⟨⟨⟨⟨?_, ?_⟩, ?_⟩, hpattern _⟩, ?_⟩, h⟩, ?_⟩⟩
  · simp only [allProper_cons, allProper_nil]
    repeat' constructor
  · simp only [allProper_cons, allProper_nil]
    repeat' constructor
  · simp only [allProper_cons, allProper_nil]
    repeat' constructor
  · simp only [allProper_cons, allProper_nil]
    repeat' constructor
  · rw [allProper_cons, allProper_cons]
    exact ⟨⟨rfl, List.cons_ne_nil _ _⟩, ⟨rfl, le_refl 8⟩, allProper_nil⟩

/-- The modem is programmed if the modulation is known and the context and the bit
rate that FSK needs are there. -/
theorem allProper_configWrites
    (h : p.modulation = modCw ∨ p.modulation = modLora ∨ p.modulation = modFsk) :
    AllProper (configWrites tc lwanPublic contextFsk p)
      ↔ (p.modulation = modFsk → contextFsk.isSome ∧ p.datarate ≠ 0) := by
  unfold configWrites
  split_ifs with hcw hlora hfsk
  · refine iff_of_true (allProper_cwWrites tc p) fun hfsk => ?_
    rw [hcw] at hfsk
    exact absurd hfsk (by decide)
  · refine iff_of_true (allProper_loraWrites lwanPublic p) fun hfsk => ?_
    rw [hlora] at hfsk
    exact absurd hfsk (by decide)
  · cases contextFsk with
    | none => exact iff_of_false (by simp) fun h => Bool.false_ne_true (h hfsk).1
    | some context =>
      exact (allProper_fskWrites p context).trans
        ⟨fun hrate _ => ⟨rfl, hrate⟩, fun h => (h hfsk).2⟩
  · simp [hcw, hlora, hfsk] at h

/-- The start delay is written if the bandwidth of a LoRa packet is known. -/
theorem allProper_startDelayWrites
    (h : radioType = .sx1250 ∨ radioType = .sx1255 ∨ radioType = .sx1257) :
    AllProper (startDelayWrites tc radioType p)
      ↔ (p.modulation = modLora → IsLoraBw p.bandwidth) := by
  unfold startDelayWrites
  by_cases hlora : p.modulation = modLora
  · rw [if_neg (not_not_intro hlora)]
    have hwrite :
        AllProper [.regBurst (txStartDelayMsb p.rfChain) (bytesOf16 tc.txStartDelay)] := by
      rw [allProper_cons]
      exact ⟨⟨rfl, List.cons_ne_nil _ _⟩, allProper_nil⟩
    have hbw : AllProper (if IsLoraBw p.bandwidth
          then [.regBurst (txStartDelayMsb p.rfChain) (bytesOf16 tc.txStartDelay)]
          else [.unsupported])
        ↔ (p.modulation = modLora → IsLoraBw p.bandwidth) := by
      split_ifs with hbw
      · exact iff_of_true hwrite fun _ => hbw
      · exact iff_of_false (by simp) fun h => hbw (h hlora)
    rcases h with rfl | rfl | rfl <;> exact hbw
  · rw [if_pos hlora]
    exact iff_of_true allProper_nil fun h => absurd h hlora

theorem allProper_payloadWrites : AllProper (payloadWrites p) ↔ p.size ≠ 0 := by
  have hbuffer (v : UInt8) : AllProper [.reg (writeBuffer p.rfChain) v] := by
    simp only [allProper_cons, allProper_nil]
    repeat' constructor
  have hmem (addr : UInt16) : (LgwWrite.mem addr (payloadData p)).Proper ↔ p.size ≠ 0 := by
    show payloadData p ≠ [] ↔ _
    rw [← List.length_pos_iff, length_payloadData, Nat.pos_iff_ne_zero, ne_eq, ne_eq,
      ← UInt16.toNat_inj]
    rfl
  unfold payloadWrites
  dsimp only
  generalize (if p.rfChain = 0 then 0x5300 else 0x5500 : UInt16) = memAddr
  rw [allProper_append, allProper_append, and_iff_left (hbuffer _), and_iff_right (hbuffer _)]
  split_ifs with hfsk
  · rw [allProper_cons, allProper_cons, hmem, and_iff_left allProper_nil]
    exact and_iff_right (List.cons_ne_nil _ _)
  · rw [allProper_cons, hmem, and_iff_left allProper_nil]

theorem allProper_triggerWrites : AllProper (triggerWrites tc p)
    ↔ p.txMode = immediate ∨ p.txMode = timestamped ∨ p.txMode = onGps := by
  unfold triggerWrites
  dsimp only
  by_cases himmediate : p.txMode = immediate
  · rw [if_pos himmediate]
    refine iff_of_true ?_ (Or.inl himmediate)
    simp only [allProper_cons, allProper_nil]
    repeat' constructor
  rw [if_neg himmediate]
  by_cases htimestamped : p.txMode = timestamped
  · rw [if_pos htimestamped]
    refine iff_of_true ?_ (Or.inr (Or.inl htimestamped))
    simp only [allProper_cons, allProper_nil]
    repeat' constructor
  rw [if_neg htimestamped]
  by_cases honGps : p.txMode = onGps
  · rw [if_pos honGps]
    refine iff_of_true ?_ (Or.inr (Or.inr honGps))
    simp only [allProper_cons, allProper_nil]
    repeat' constructor
  · rw [if_neg honGps]
    exact iff_of_false (by simp) (by simp [himmediate, htimestamped, honGps])

/-- **All writes are proper exactly when the packet can be programmed.** -/
theorem allProper_sx1302Writes :
    AllProper (sx1302Writes tc radioType txLut lwanPublic contextFsk p)
      ↔ Programmable radioType contextFsk p := by
  unfold sx1302Writes
  simp only [allProper_append, allProper_modemWrites, allProper_gainWrites,
    allProper_payloadWrites, allProper_triggerWrites]
  constructor
  · rintro ⟨⟨⟨⟨⟨⟨⟨hmod, hradio⟩, -⟩, -⟩, hconfig⟩, hdelay⟩, hsize⟩, hmode⟩
    exact ⟨hmod, hradio, (allProper_configWrites tc lwanPublic contextFsk p hmod).mp hconfig,
      (allProper_startDelayWrites tc radioType p hradio).mp hdelay, hsize, hmode⟩
  · intro h
    exact ⟨⟨⟨⟨⟨⟨⟨h.modulation, h.radio⟩, allProper_freqWrites radioType p⟩,
      allProper_agcBwWrites p h.modulation⟩,
      (allProper_configWrites tc lwanPublic contextFsk p h.modulation).mpr h.fsk⟩,
      (allProper_startDelayWrites tc radioType p h.radio).mpr h.lora⟩, h.payload⟩, h.txMode⟩

end Proper

/-! ## How much it stores -/

/-- **The writes come to at most so many requests**, stored or counted, and bytes. -/
structure Within (ws : List LgwWrite) (n bytes : ℕ) : Prop where
  length_le : ws.length ≤ n
  counts_le : reqCounts ws ≤ n
  bytes_le : reqBytes ws ≤ bytes

theorem Within.append {ws vs : List LgwWrite} {n m bytes more : ℕ} (h : Within ws n bytes)
    (h' : Within vs m more) : Within (ws ++ vs) (n + m) (bytes + more) where
  length_le := by
    rw [List.length_append]
    exact Nat.add_le_add h.length_le h'.length_le
  counts_le := by
    rw [reqCounts, List.map_append, List.sum_append]
    exact Nat.add_le_add h.counts_le h'.counts_le
  bytes_le := by
    rw [reqBytes, List.map_append, List.sum_append]
    exact Nat.add_le_add h.bytes_le h'.bytes_le

theorem Within.mono {ws : List LgwWrite} {n m bytes more : ℕ} (h : Within ws n bytes)
    (hn : n ≤ m) (hbytes : bytes ≤ more) : Within ws m more :=
  ⟨h.length_le.trans hn, h.counts_le.trans hn, h.bytes_le.trans hbytes⟩

/-- A write to a register is one request of at most ten bytes. -/
structure LgwWrite.Short (w : LgwWrite) : Prop where
  counts_eq : w.counts = 1
  reqSize_le : w.reqSize ≤ 10

theorem short_reg (r : LgwReg) (v : UInt8) : (LgwWrite.reg r v).Short where
  counts_eq := rfl
  reqSize_le := by
    show (if r.IsByte then 9 else 6) ≤ 10
    split_ifs <;> decide

theorem short_regBurst (r : LgwReg) (x : UInt16) : (LgwWrite.regBurst r (bytesOf16 x)).Short :=
  ⟨rfl, le_refl 10⟩

theorem short_unsupported : LgwWrite.unsupported.Short := ⟨rfl, Nat.zero_le 10⟩

theorem short_dividesByZero : LgwWrite.dividesByZero.Short := ⟨rfl, Nat.zero_le 10⟩

theorem within_of_short {ws : List LgwWrite} {n : ℕ} (hlength : ws.length ≤ n)
    (hshort : ∀ w ∈ ws, w.Short) : Within ws n (10 * n) := by
  induction ws generalizing n with
  | nil => exact ⟨hlength, Nat.zero_le n, Nat.zero_le _⟩
  | cons w ws ih =>
    have hw := hshort w List.mem_cons_self
    rw [List.length_cons] at hlength
    have hws : Within ws (n - 1) (10 * (n - 1)) :=
      ih (by omega) fun v hv => hshort v (List.mem_cons_of_mem w hv)
    obtain ⟨-, hcounts, hbytes⟩ := hws
    refine ⟨hlength, ?_, ?_⟩
    · rw [reqCounts, List.map_cons, List.sum_cons, ← reqCounts, hw.counts_eq]
      omega
    · rw [reqBytes, List.map_cons, List.sum_cons, ← reqBytes]
      have hsize := hw.reqSize_le
      omega

section Within

variable (tc : TxCalc) (radioType : LgwRadioType) (txLut : LgwTxGainLut) (lwanPublic : Bool)
  (contextFsk : Option FskContext) (p : LgwPktTx)

theorem within_modemWrites : Within (modemWrites p) 2 20 := by
  unfold modemWrites
  split_ifs <;> exact within_of_short (by simp) (by simp [short_reg, short_unsupported])

theorem within_gainWrites : Within (gainWrites radioType txLut p) 4 40 := by
  unfold gainWrites powerWrites
  cases radioType <;> exact within_of_short (by simp) (by simp [short_reg, short_unsupported])

/-- The bit rate is one write, or the division that is none. -/
theorem length_bitRateWrites : (bitRateWrites p).length = 1 := by
  unfold bitRateWrites
  split_ifs <;> rfl

theorem short_bitRateWrites : ∀ w ∈ bitRateWrites p, w.Short := by
  unfold bitRateWrites
  split_ifs <;> simp [short_regBurst, short_dividesByZero]

theorem within_configWrites : Within (configWrites tc lwanPublic contextFsk p) 25 250 := by
  unfold configWrites
  split_ifs
  · exact within_of_short (by simp [cwWrites, freqDevWrites, agcFreqDevWrites])
      (by simp [cwWrites, freqDevWrites, agcFreqDevWrites, short_reg])
  · exact within_of_short (by simp [loraWrites, freqDevWrites])
      (by simp [loraWrites, freqDevWrites, short_reg])
  · cases contextFsk with
    | none => exact within_of_short (by simp) (by simp [short_unsupported])
    | some context =>
      have hrate := short_bitRateWrites p
      refine within_of_short
        (by simp [fskWrites, freqDevWrites, agcFreqDevWrites, length_bitRateWrites]) ?_
      simp [fskWrites, freqDevWrites, agcFreqDevWrites, or_imp, forall_and, short_reg,
        short_regBurst]
      exact hrate
  · exact within_of_short (by simp) (by simp [short_unsupported])

theorem within_startDelayWrites : Within (startDelayWrites tc radioType p) 1 10 := by
  have hbw : Within (if IsLoraBw p.bandwidth
      then [.regBurst (txStartDelayMsb p.rfChain) (bytesOf16 tc.txStartDelay)]
      else [.unsupported]) 1 10 := by
    split_ifs <;> exact within_of_short (by simp) (by simp [short_regBurst, short_unsupported])
  unfold startDelayWrites
  by_cases hlora : p.modulation = modLora
  · rw [if_neg (not_not_intro hlora)]
    cases radioType with
    | sx1250 => exact hbw
    | sx1255 => exact hbw
    | sx1257 => exact hbw
    | _ => exact within_of_short (le_refl 1) (by simp [short_unsupported])
  · rw [if_pos hlora]
    exact within_of_short (Nat.zero_le 1) (by simp)

theorem within_triggerWrites : Within (triggerWrites tc p) 6 60 := by
  unfold triggerWrites
  dsimp only
  split_ifs <;> exact within_of_short (by simp) (by simp [short_reg, short_unsupported])

/-- A payload that the array of a packet holds is written as one request. -/
theorem within_mem (addr : UInt16) {data : List UInt8} (hdata : data.length ≤ 256) :
    Within [.mem addr data] 1 265 where
  length_le := le_refl 1
  counts_le := by
    show (data.length + (burstChunk - 1)) / burstChunk + 0 ≤ 1
    unfold burstChunk
    omega
  bytes_le := by
    show (data.length - 1) % burstChunk + 9 + 0 ≤ 265
    unfold burstChunk
    omega

theorem within_payloadWrites (hsize : p.size.toNat ≤ 256) : Within (payloadWrites p) 4 550 := by
  have hbuffer (v : UInt8) : Within [.reg (writeBuffer p.rfChain) v] 1 10 :=
    within_of_short (by simp) (by simp [short_reg])
  have hdata (addr : UInt16) : Within [.mem addr (payloadData p)] 1 265 :=
    within_mem addr ((length_payloadData p).trans_le hsize)
  have hlength (addr : UInt16) : Within [.mem addr [p.size.toUInt8]] 1 265 :=
    within_mem addr (Nat.le_of_ble_eq_true rfl)
  unfold payloadWrites
  dsimp only
  generalize (if p.rfChain = 0 then 0x5300 else 0x5500 : UInt16) = memAddr
  split_ifs
  · exact ((hbuffer 1).append ((hlength memAddr).append (hdata (memAddr + 1)))).append (hbuffer 0)
  · exact (((hbuffer 1).append (hdata memAddr)).append (hbuffer 0)).mono (by decide) (by decide)

/-- **The writes of a packet** fit into an empty buffer, and their count into a byte. -/
theorem within_sx1302Writes (hsize : p.size.toNat ≤ 256) :
    Within (sx1302Writes tc radioType txLut lwanPublic contextFsk p) 46 970 := by
  have hfreq : Within (freqWrites radioType p) 3 30 :=
    within_of_short (le_refl 3) (by simp [freqWrites, short_reg])
  have hbw : Within (agcBwWrites p) 1 10 := by
    unfold agcBwWrites
    split_ifs <;> exact within_of_short (by simp) (by simp [short_reg, short_unsupported])
  exact ((((((within_modemWrites p).append (within_gainWrites radioType txLut p)).append
    hfreq).append hbw).append (within_configWrites tc lwanPublic contextFsk p)).append
    (within_startDelayWrites tc radioType p)).append (within_payloadWrites p hsize) |>.append
    (within_triggerWrites tc p)

theorem reqCounts_sx1302Writes_pos :
    0 < reqCounts (sx1302Writes tc radioType txLut lwanPublic contextFsk p) := by
  unfold sx1302Writes gainWrites reqCounts
  simp only [List.map_append, List.sum_append, List.map_cons, List.sum_cons, LgwWrite.counts]
  omega

end Within

/-! ## When nothing is left over -/

section Send

variable (tc : TxCalc) (radioType : LgwRadioType) (txLut : LgwTxGainLut) (lwanPublic : Bool)
  (contextFsk : Option FskContext) (p : LgwPktTx)

/-- Every packet begins with a write, or with a refusal. -/
theorem sx1302Writes_ne_nil : sx1302Writes tc radioType txLut lwanPublic contextFsk p ≠ [] := by
  intro h
  have hgain : gainWrites radioType txLut p = [] := by
    unfold sx1302Writes at h
    simp only [List.append_eq_nil_iff] at h
    exact h.1.1.1.1.1.1.2
  unfold gainWrites at hgain
  simp at hgain

/-- The writes of a packet go through when there is a connection, the packet can
be programmed and the requests fit. -/
theorem fits_sx1302Writes_iff (port : UsbPort) (b : SpiReqBulk) :
    Fits port (sx1302Writes tc radioType txLut lwanPublic contextFsk p) b
      ↔ port.connected ∧ Programmable radioType contextFsk p
        ∧ b.Room (sx1302Writes tc radioType txLut lwanPublic contextFsk p).length
          (reqBytes (sx1302Writes tc radioType txLut lwanPublic contextFsk p)) := by
  rw [← allProper_sx1302Writes tc radioType txLut lwanPublic contextFsk p]
  constructor
  · intro h
    obtain ⟨w, hw⟩ := List.exists_mem_of_ne_nil _
      (sx1302Writes_ne_nil tc radioType txLut lwanPublic contextFsk p)
    exact ⟨(h.proper w hw).1, fun v hv => (h.proper v hv).2, h.room⟩
  · rintro ⟨hport, hproper, hroom⟩
    exact ⟨fun w hw => ⟨hport, hproper w hw⟩, hroom⟩

end Send

/-- **When a bulk transaction is all or nothing.** After `sx1302_send`, from
whatever state and with whatever outcome, the mode is the single one, the buffer
is empty and the count agrees, exactly when there is a connection, the packet can
be programmed, its requests fit into the buffer as it is, the count does not come
round to zero, and the device acknowledges the flush. After `lgw_usb_flush` that
is so exactly when it was so before, or the bulk mode was on and there was nothing
stored, or something counted that the device acknowledges. -/
theorem sx1302Send_clean_iff (port : UsbPort) (u : UsbLink) :
    (∀ (tc : TxCalc) (radioType : LgwRadioType) (txLut : LgwTxGainLut) (lwanPublic : Bool)
        (contextFsk : Option FskContext) (p : LgwPktTx),
      (sx1302Send tc radioType txLut lwanPublic contextFsk p port u).2.Clean
        ↔ port.connected ∧ Programmable radioType contextFsk p
          ∧ u.bulk.Room (sx1302Writes tc radioType txLut lwanPublic contextFsk p).length
            (reqBytes (sx1302Writes tc radioType txLut lwanPublic contextFsk p))
          ∧ (u.spiReqNb.toNat
              + reqCounts (sx1302Writes tc radioType txLut lwanPublic contextFsk p)) % 256 ≠ 0
          ∧ port.acks)
      ∧ ((lgwUsbFlush port u).2.Clean
        ↔ u.Clean ∨ (port.connected ∧ u.writeMode = .bulk
          ∧ (u.spiReqNb ≠ 0 ∧ port.acks ∨ u.bulk.nbReq = 0))) := by
  refine ⟨fun tc radioType txLut lwanPublic contextFsk p => ?_, clean_lgwUsbFlush_iff port u⟩
  unfold sx1302Send
  rw [clean_bulkTransaction_iff port
    (sx1302Writes_ne_nil tc radioType txLut lwanPublic contextFsk p), fits_sx1302Writes_iff]
  constructor
  · rintro ⟨⟨hport, hpacket, hroom⟩, hcount, hacks⟩
    exact ⟨hport, hpacket, hroom, hcount, hacks⟩
  · rintro ⟨hport, hpacket, hroom, hcount, hacks⟩
    exact ⟨⟨hport, hpacket, hroom⟩, hcount, hacks⟩

/-! ## Runs of sends -/

/-- A call of `sx1302_send` for a packet whose payload its array holds, and the other
side during it. -/
structure SendCall where
  tc : TxCalc
  radioType : LgwRadioType
  txLut : LgwTxGainLut
  lwanPublic : Bool
  contextFsk : Option FskContext
  p : LgwPktTx
  port : UsbPort
  size_le : p.size.toNat ≤ 256

namespace SendCall

/-- The link after the call. -/
def step (u : UsbLink) (c : SendCall) : UsbLink :=
  (sx1302Send c.tc c.radioType c.txLut c.lwanPublic c.contextFsk c.p c.port u).2

/-- **Nothing is in the way** of the call. -/
structure GoesThrough (c : SendCall) : Prop where
  connected : c.port.connected
  programmable : Programmable c.radioType c.contextFsk c.p
  acks : c.port.acks

/-- **A call that finds nothing left over leaves nothing over** exactly when it goes
through: an empty buffer has room for every packet. -/
theorem clean_step_iff {u : UsbLink} (hu : u.Clean) (c : SendCall) :
    (step u c).Clean ↔ c.GoesThrough := by
  have hwithin := within_sx1302Writes c.tc c.radioType c.txLut c.lwanPublic c.contextFsk c.p
    c.size_le
  have hpos := reqCounts_sx1302Writes_pos c.tc c.radioType c.txLut c.lwanPublic c.contextFsk c.p
  have hcounts := hwithin.counts_le
  have hcount : u.spiReqNb.toNat = 0 := hu.counted.trans hu.empty
  have hroom : u.bulk.Room
      (sx1302Writes c.tc c.radioType c.txLut c.lwanPublic c.contextFsk c.p).length
      (reqBytes (sx1302Writes c.tc c.radioType c.txLut c.lwanPublic c.contextFsk c.p)) := by
    have hreqs : u.bulk.reqs = [] := List.length_eq_zero_iff.mp hu.empty
    have hsize : u.bulk.size = 0 := by
      rw [SpiReqBulk.size, hreqs]
      rfl
    rw [SpiReqBulk.Room, hu.empty, hsize, Nat.zero_add, Nat.zero_add]
    exact ⟨hwithin.length_le.trans (by decide), hwithin.bytes_le.trans (by decide)⟩
  unfold step sx1302Send
  rw [clean_bulkTransaction_iff c.port
    (sx1302Writes_ne_nil c.tc c.radioType c.txLut c.lwanPublic c.contextFsk c.p),
    fits_sx1302Writes_iff]
  constructor
  · rintro ⟨⟨hport, hpacket, -⟩, -, hacks⟩
    exact ⟨hport, hpacket, hacks⟩
  · rintro ⟨hport, hpacket, hacks⟩
    exact ⟨⟨hport, hpacket, hroom⟩, by omega, hacks⟩

/-- **A run of sends leaves nothing over between them** exactly when every one goes
through. -/
theorem always_clean_iff (calls : List SendCall) :
    Run.Always step UsbLink.Clean UsbLink.start calls ↔ ∀ c ∈ calls, c.GoesThrough := by
  have hstart : UsbLink.start.Clean := ⟨rfl, rfl, rfl⟩
  have hguarded : Run.Always step UsbLink.Clean UsbLink.start calls
      ↔ Run.Guarded step (fun _ c => GoesThrough c) UsbLink.start calls :=
    Run.always_iff_guarded (P := UsbLink.Clean) (Q := UsbLink.Clean) (fun _ hu => hu)
      (fun _ c hu => clean_step_iff hu c) (fun _ c hu hc => (clean_step_iff hu c).mpr hc) hstart
  rw [hguarded, Run.guarded_iff_forall]

end SendCall

/-- A class A downlink without a payload. -/
def emptyDownlink : LgwPktTx :=
  { LgwPktTx.zero with
    txMode := timestamped, countUs := 1000000, modulation := modLora
    bandwidth := bw125khz, datarate := drLoraSf7, coderate := crLora45, preamble := 8 }

/-- **An empty payload leaves the bulk mode on.** From the state at startup and with
nothing wrong on the other side, the write of no bytes is refused, and the
function returns between the bulk mode and the flush. -/
theorem sx1302Send_not_clean :
    ¬ ∀ (tc : TxCalc) (radioType : LgwRadioType) (txLut : LgwTxGainLut) (lwanPublic : Bool)
      (contextFsk : Option FskContext) (p : LgwPktTx) (port : UsbPort),
      (sx1302Send tc radioType txLut lwanPublic contextFsk p port UsbLink.start).2.Clean := by
  intro h
  have hclean := h ⟨0, 0, 0⟩ .sx1250 ⟨[], 1⟩ true none emptyDownlink ⟨true, true⟩
  have hfits := (clean_bulkTransaction_iff ⟨true, true⟩
    (sx1302Writes_ne_nil ⟨0, 0, 0⟩ .sx1250 ⟨[], 1⟩ true none emptyDownlink) UsbLink.start).mp hclean
  have hpacket := ((fits_sx1302Writes_iff ⟨0, 0, 0⟩ .sx1250 ⟨[], 1⟩ true none emptyDownlink
    ⟨true, true⟩ SpiReqBulk.empty).mp hfits.1).2.1
  exact hpacket.payload rfl
