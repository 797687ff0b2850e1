import MeshBeacon.Crc
import MeshBeacon.GpsConvert
import MeshBeacon.JitInvariant

/-!
# The beacons

The downstream thread keeps three beacons ahead in the queue of the first RF chain. The
packet is built once, with everything in it that does not change; the time of the beacon and
the checksum over it are written into it for each slot, and the channel follows from the slot.

A slot is a multiple of the beacon period in GPS time. The first is the next one from now, and
then each is the one after the last that was queued; where the queue refuses a beacon the
thread goes on to the slot behind, counting the retries. That count is multiplied in 32 bits.

The packet lives on the stack and is not cleared, so it starts with whatever was there.
-/

open Hal Jit Gps

/-! ## Writing into the payload -/

/-- The result of copying `src` into an array, from an index on. -/
def writeAt (i : ℕ) (src dst : List UInt8) : List UInt8 := dst.take i ++ overwrite src (dst.drop i)

/-- The two bytes of a checksum, the low one first. -/
def le16 (x : UInt16) : List UInt8 := [x.toUInt8, (x >>> 8).toUInt8]

/-- The three bytes of a coordinate. -/
def le24 (x : UInt32) : List UInt8 := [x.toUInt8, (x >>> 8).toUInt8, (x >>> 16).toUInt8]

/-- The four bytes of a time. -/
def le32 (x : UInt32) : List UInt8 :=
  [x.toUInt8, (x >>> 8).toUInt8, (x >>> 16).toUInt8, (x >>> 24).toUInt8]

section Write

variable {i : ℕ} {s d : List UInt8}

/-- Writing inside an array leaves its length. -/
theorem length_writeAt (h : i + s.length ≤ d.length) :
    (writeAt i s d).length = d.length := by
  simp only [writeAt, overwrite, List.length_append, List.length_take, List.length_drop]
  omega

theorem take_writeAt {n : ℕ} (hn : n ≤ i) (h : i ≤ d.length) :
    (writeAt i s d).take n = d.take n := by
  have hlen : (d.take i).length = i := by rw [List.length_take, min_eq_left h]
  rw [writeAt, List.take_append_of_le_length (by omega), List.take_take, min_eq_left hn]

/-- Up to its end, the array is what was there before and what was written. -/
theorem take_add_writeAt (h : i ≤ d.length) {n : ℕ} (hn : n = s.length) :
    (writeAt i s d).take (i + n) = d.take i ++ s := by
  subst hn
  have hlen : (d.take i).length = i := by rw [List.length_take, min_eq_left h]
  rw [writeAt, overwrite, ← List.append_assoc]
  exact List.take_left' (by rw [List.length_append, hlen])

theorem drop_writeAt (h : i ≤ d.length) {n : ℕ} (hn : i + s.length ≤ n) :
    (writeAt i s d).drop n = d.drop n := by
  have hlen : (d.take i).length = i := by rw [List.length_take, min_eq_left h]
  rw [writeAt, overwrite, ← List.append_assoc, List.drop_append, List.drop_eq_nil_of_le,
    List.nil_append, List.length_append, hlen, List.drop_drop, List.drop_drop]
  · congr 1
    omega
  · rw [List.length_append, hlen]
    exact hn

end Write

namespace Beacon

/-! ## The packet -/

/-- `JIT_NUM_BEACON_IN_QUEUE`. -/
def jitNumBeaconInQueue : UInt8 := 3

/-- What is configured of the beacons, and the coordinates of the gateway as they are
reported. -/
structure BeaconConf where
  beaconPeriod : UInt32
  beaconFreqHz : UInt32
  beaconFreqNb : UInt8
  beaconFreqStep : UInt32
  beaconDatarate : UInt8
  beaconBwHz : UInt32
  beaconPower : Int8
  beaconInfodesc : UInt8
  /-- In units of 90 degrees by 2^23. -/
  fieldLatitude : Int32
  /-- In units of 180 degrees by 2^23. -/
  fieldLongitude : Int32

/-- The switch over the bandwidth. The others end the program. -/
def beaconBandwidth (bwHz : UInt32) : Option UInt8 :=
  if bwHz = 125000 then some bw125khz
  else if bwHz = 500000 then some bw500khz
  else none

/-- The switch over the spreading factor: its code, and the sizes of the two parts of the
frame that are reserved. The others end the program. -/
def beaconDatarateRfu (datarate : UInt8) : Option (UInt32 × ℕ × ℕ) :=
  if datarate = 8 then some (drLoraSf8, 1, 3)
  else if datarate = 9 then some (drLoraSf9, 2, 0)
  else if datarate = 10 then some (drLoraSf10, 3, 1)
  else if datarate = 12 then some (drLoraSf12, 5, 3)
  else none

/-- The part of the frame that says what the gateway is and where. -/
def BeaconConf.gatewayPart (conf : BeaconConf) : List UInt8 :=
  conf.beaconInfodesc :: le24 conf.fieldLatitude.toUInt32 ++ le24 conf.fieldLongitude.toUInt32

/-- `beacon_pkt`, with the sizes of the reserved parts. -/
structure BeaconPkt where
  pkt : LgwPktTx
  rfu1Size : ℕ
  rfu2Size : ℕ
deriving DecidableEq

/-- The writes into the payload. The time and the first checksum are left out. -/
def beaconPayload (conf : BeaconConf) (rfu1Size rfu2Size : ℕ) (payload : List UInt8) :
    List UInt8 :=
  let common := writeAt 0 (List.replicate rfu1Size 0) payload
  let gateway := writeAt (rfu1Size + 6) (conf.gatewayPart ++ List.replicate rfu2Size 0) common
  let fieldCrc2 := Crc.crc16 ((gateway.drop (6 + rfu1Size)).take (7 + rfu2Size))
  writeAt (rfu1Size + 6 + (7 + rfu2Size)) (le16 fieldCrc2) gateway

/-- `thread_down`, building the beacon over what is on the stack. -/
def beaconInit (conf : BeaconConf) (stack : LgwPktTx) : Option BeaconPkt :=
  match beaconBandwidth conf.beaconBwHz, beaconDatarateRfu conf.beaconDatarate with
  | some bandwidth, some (datarate, rfu1Size, rfu2Size) =>
    some
      { pkt := { stack with
          txMode := onGps
          rfChain := 0
          rfPower := conf.beaconPower
          modulation := modLora
          bandwidth := bandwidth
          datarate := datarate
          size := UInt16.ofNat (rfu1Size + 4 + 2 + 7 + rfu2Size + 2)
          coderate := crLora45
          invertPol := false
          preamble := 10
          noCrc := true
          noHeader := true
          payload := beaconPayload conf rfu1Size rfu2Size stack.payload }
        rfu1Size := rfu1Size
        rfu2Size := rfu2Size }
  | _, _ => none

/-! ## The slots -/

/-- The GPS second of the beacon to queue next. `last` is 0 before the first. -/
def nextBeaconSec (period : UInt32) (last gpsNow : ℤ) (retry : ℕ) : ℤ :=
  (if last = 0 then gpsNow + ((period.toNat : ℤ) - gpsNow.tmod period.toNat)
    else last + period.toNat)
    + (UInt32.ofNat retry * period).toNat

/-- `beacon_chan`. -/
def beaconChan (conf : BeaconConf) (sec : ℤ) : UInt8 :=
  if 1 < conf.beaconFreqNb then
    UInt8.ofInt ((sec.tdiv conf.beaconPeriod.toNat).tmod conf.beaconFreqNb.toNat)
  else 0

/-- The frequency of the beacon of a slot. -/
def beaconFreq (conf : BeaconConf) (sec : ℤ) : UInt32 :=
  conf.beaconFreqHz + (beaconChan conf sec).toUInt32 * conf.beaconFreqStep

/-- `lgw_gps2cnt` on the counter of the packet, which keeps its value on an error. -/
def beaconCountUs (ref : Tref) (sec : ℤ) (countUs : UInt32) : UInt32 :=
  (lgwGps2cnt ref ⟨sec, 0⟩).getD countUs

/-- The packet made the beacon of a slot. -/
def BeaconPkt.load (conf : BeaconConf) (b : BeaconPkt) (ref : Tref) (sec : ℤ) : BeaconPkt :=
  let timed := writeAt b.rfu1Size (le32 (UInt32.ofInt sec)) b.pkt.payload
  let fieldCrc1 := Crc.crc16 (timed.take (4 + b.rfu1Size))
  { b with
    pkt := { b.pkt with
      countUs := beaconCountUs ref sec b.pkt.countUs
      freqHz := beaconFreq conf sec
      payload := writeAt (b.rfu1Size + 4) (le16 fieldCrc1) timed } }

/-! ## What a beacon says -/

/-- The part of the frame that all gateways send alike, before its checksum. -/
def networkPart (rfu1Size : ℕ) (sec : ℤ) : List UInt8 :=
  List.replicate rfu1Size 0 ++ le32 (UInt32.ofInt sec)

/-- **The frame of a slot.** -/
def BeaconConf.frame (conf : BeaconConf) (rfu1Size rfu2Size : ℕ) (sec : ℤ) : List UInt8 :=
  networkPart rfu1Size sec ++ le16 (Crc.crc16 (networkPart rfu1Size sec))
    ++ (conf.gatewayPart ++ List.replicate rfu2Size 0)
    ++ le16 (Crc.crc16 (conf.gatewayPart ++ List.replicate rfu2Size 0))

/-- **The packet is the beacon of a slot**, as configured: its settings, and what it sends. -/
structure BeaconConf.IsBeacon (conf : BeaconConf) (sec : ℤ) (p : LgwPktTx) : Prop where
  txMode : p.txMode = onGps
  rfChain : p.rfChain = 0
  rfPower : p.rfPower = conf.beaconPower
  modulation : p.modulation = modLora
  bandwidth : beaconBandwidth conf.beaconBwHz = some p.bandwidth
  coderate : p.coderate = crLora45
  freqHz : p.freqHz = beaconFreq conf sec
  /-- All of it is there. -/
  length : p.size.toNat ≤ p.payload.length
  /-- The frame goes with the spreading factor. -/
  frame : ∃ rfu1Size rfu2Size,
    beaconDatarateRfu conf.beaconDatarate = some (p.datarate, rfu1Size, rfu2Size)
      ∧ p.payload.take p.size.toNat = conf.frame rfu1Size rfu2Size sec

/-- **What stays the same of the packet** from one slot to the next. -/
structure BeaconConf.Built (conf : BeaconConf) (b : BeaconPkt) : Prop where
  txMode : b.pkt.txMode = onGps
  rfChain : b.pkt.rfChain = 0
  rfPower : b.pkt.rfPower = conf.beaconPower
  modulation : b.pkt.modulation = modLora
  bandwidth : beaconBandwidth conf.beaconBwHz = some b.pkt.bandwidth
  coderate : b.pkt.coderate = crLora45
  sizes : beaconDatarateRfu conf.beaconDatarate = some (b.pkt.datarate, b.rfu1Size, b.rfu2Size)
  size : b.pkt.size.toNat = b.rfu1Size + 6 + (7 + b.rfu2Size + 2)
  length : b.pkt.payload.length = 256
  /-- The first reserved part. -/
  zeros : b.pkt.payload.take b.rfu1Size = List.replicate b.rfu1Size 0
  /-- The part of the gateway, the other reserved part and the second checksum. -/
  gateway : (b.pkt.payload.drop (b.rfu1Size + 6)).take (7 + b.rfu2Size + 2)
    = (conf.gatewayPart ++ List.replicate b.rfu2Size 0)
      ++ le16 (Crc.crc16 (conf.gatewayPart ++ List.replicate b.rfu2Size 0))

theorem rfu_le {datarate : UInt8} {dr : UInt32} {rfu1Size rfu2Size : ℕ}
    (h : beaconDatarateRfu datarate = some (dr, rfu1Size, rfu2Size)) :
    rfu1Size ≤ 5 ∧ rfu2Size ≤ 3 := by
  unfold beaconDatarateRfu at h
  split_ifs at h <;>
  · obtain ⟨-, rfl, rfl⟩ := h
    decide

theorem take_drop_of_take {l a b : List UInt8} {i n : ℕ} (h : l.take (i + n) = a ++ b)
    (ha : a.length = i) : (l.drop i).take n = b := by
  rw [List.take_drop, h, ← ha, List.drop_left]

variable {conf : BeaconConf} {b : BeaconPkt}

/-- **What the writes into the payload leave**, where the array has room for them. -/
theorem beaconPayload_spec (conf : BeaconConf) (rfu1Size rfu2Size : ℕ) {payload : List UInt8}
    (hroom : rfu1Size + 6 + (7 + rfu2Size) + 2 ≤ payload.length) :
    (beaconPayload conf rfu1Size rfu2Size payload).length = payload.length
      ∧ (beaconPayload conf rfu1Size rfu2Size payload).take rfu1Size = List.replicate rfu1Size 0
      ∧ ((beaconPayload conf rfu1Size rfu2Size payload).drop (rfu1Size + 6)).take
          (7 + rfu2Size + 2)
        = (conf.gatewayPart ++ List.replicate rfu2Size 0)
          ++ le16 (Crc.crc16 (conf.gatewayPart ++ List.replicate rfu2Size 0)) := by
  have hgw : (conf.gatewayPart ++ List.replicate rfu2Size 0).length = 7 + rfu2Size := by
    rw [List.length_append, List.length_replicate]
    rfl
  have hz : (List.replicate rfu1Size (0 : UInt8)).length = rfu1Size := List.length_replicate
  unfold beaconPayload
  dsimp only
  -- the zeros of the common part come first
  have hlen1 := length_writeAt (i := 0) (s := List.replicate rfu1Size (0 : UInt8))
    (d := payload) (by omega)
  have hzeros := take_add_writeAt (i := 0) (s := List.replicate rfu1Size (0 : UInt8))
    (d := payload) (Nat.zero_le _) hz.symm
  rw [Nat.zero_add, List.take_zero, List.nil_append] at hzeros
  generalize writeAt 0 (List.replicate rfu1Size 0) payload = common at hlen1 hzeros ⊢
  -- then the part of the gateway, behind them and the time
  have hlen2 := length_writeAt (i := rfu1Size + 6)
    (s := conf.gatewayPart ++ List.replicate rfu2Size 0) (d := common) (by omega)
  have hwritten := take_add_writeAt (i := rfu1Size + 6)
    (s := conf.gatewayPart ++ List.replicate rfu2Size 0) (d := common) (by omega) hgw.symm
  have hkept := take_writeAt (i := rfu1Size + 6) (n := rfu1Size)
    (s := conf.gatewayPart ++ List.replicate rfu2Size 0) (d := common) (by omega) (by omega)
  generalize writeAt (rfu1Size + 6) (conf.gatewayPart ++ List.replicate rfu2Size 0) common
    = gateway at hlen2 hwritten hkept ⊢
  have hbefore : (common.take (rfu1Size + 6)).length = rfu1Size + 6 := by
    rw [List.length_take]
    omega
  -- the CRC is computed over what was written just before
  have hread : (gateway.drop (6 + rfu1Size)).take (7 + rfu2Size)
      = conf.gatewayPart ++ List.replicate rfu2Size 0 := by
    rw [Nat.add_comm 6]
    exact take_drop_of_take hwritten hbefore
  rw [hread]
  refine ⟨?_, ?_, ?_⟩
  · rw [length_writeAt, hlen2, hlen1]
    show _ + 2 ≤ _
    omega
  · rw [take_writeAt (by omega) (by omega), hkept, hzeros]
  · have hend := take_add_writeAt (i := rfu1Size + 6 + (7 + rfu2Size)) (n := 2)
      (s := le16 (Crc.crc16 (conf.gatewayPart ++ List.replicate rfu2Size 0)))
      (d := gateway) (by omega) rfl
    rw [hwritten, List.append_assoc, Nat.add_assoc] at hend
    exact take_drop_of_take hend hbefore

/-- **The packet is built** once the switches let the thread go on. -/
theorem built_beaconInit {stack : LgwPktTx} (hstack : stack.payload.length = 256)
    (h : beaconInit conf stack = some b) : conf.Built b := by
  unfold beaconInit at h
  split at h
  · rename_i bandwidth datarate rfu1Size rfu2Size hbw hrfu
    obtain ⟨h1, h2⟩ := rfu_le hrfu
    obtain ⟨hlength, hzeros, hgateway⟩ := beaconPayload_spec conf rfu1Size rfu2Size
      (show _ ≤ stack.payload.length by omega)
    obtain rfl := Option.some_inj.mp h
    refine ⟨rfl, rfl, rfl, rfl, hbw, rfl, hrfu, ?_, hlength.trans hstack, hzeros, hgateway⟩
    show (UInt16.ofNat (rfu1Size + 4 + 2 + 7 + rfu2Size + 2)).toNat = _
    rw [UInt16.toNat_ofNat_of_lt' (show _ < 65536 by omega)]
    show _ = rfu1Size + 6 + (7 + rfu2Size + 2)
    omega
  · exact absurd h.symm (Option.some_ne_none b)

/-- **Loading a slot** keeps what does not change, and makes the packet the beacon of the
slot. -/
theorem BeaconConf.Built.load (h : conf.Built b) (ref : Tref) (sec : ℤ) :
    conf.Built (b.load conf ref sec) ∧ conf.IsBeacon sec (b.load conf ref sec).pkt := by
  obtain ⟨h1, h2⟩ := rfu_le h.sizes
  have hlength := h.length
  have hlen1 := length_writeAt (i := b.rfu1Size) (s := le32 (UInt32.ofInt sec))
    (d := b.pkt.payload) (show _ + 4 ≤ _ by omega)
  have htime := take_add_writeAt (i := b.rfu1Size) (n := 4) (s := le32 (UInt32.ofInt sec))
    (d := b.pkt.payload) (by omega) rfl
  have hkept := take_writeAt (i := b.rfu1Size) (n := b.rfu1Size) (s := le32 (UInt32.ofInt sec))
    (d := b.pkt.payload) le_rfl (by omega)
  have hbehind := drop_writeAt (i := b.rfu1Size) (n := b.rfu1Size + 6)
    (s := le32 (UInt32.ofInt sec)) (d := b.pkt.payload) (by omega)
    (show b.rfu1Size + 4 ≤ _ by omega)
  rw [h.zeros] at htime hkept
  change _ = networkPart b.rfu1Size sec at htime
  -- the payload with the time, and then with the checksum over it
  set timed := writeAt b.rfu1Size (le32 (UInt32.ofInt sec)) b.pkt.payload with htimed
  have hpayload : (b.load conf ref sec).pkt.payload
      = writeAt (b.rfu1Size + 4) (le16 (Crc.crc16 (networkPart b.rfu1Size sec))) timed := by
    rw [← htime]
    show writeAt _ (le16 (Crc.crc16 (timed.take (4 + b.rfu1Size)))) timed = _
    rw [Nat.add_comm 4]
  have hlen2 := length_writeAt (i := b.rfu1Size + 4)
    (s := le16 (Crc.crc16 (networkPart b.rfu1Size sec))) (d := timed)
    (show _ + 2 ≤ _ by omega)
  have hfront := take_add_writeAt (i := b.rfu1Size + 4) (n := 2)
    (s := le16 (Crc.crc16 (networkPart b.rfu1Size sec))) (d := timed) (by omega) rfl
  have hzeros := take_writeAt (i := b.rfu1Size + 4) (n := b.rfu1Size)
    (s := le16 (Crc.crc16 (networkPart b.rfu1Size sec))) (d := timed) (by omega) (by omega)
  have hback := drop_writeAt (i := b.rfu1Size + 4) (n := b.rfu1Size + 6)
    (s := le16 (Crc.crc16 (networkPart b.rfu1Size sec))) (d := timed) (by omega)
    (show b.rfu1Size + 4 + 2 ≤ _ by omega)
  rw [← hpayload] at hlen2 hfront hzeros hback
  rw [htime] at hfront
  rw [hkept] at hzeros
  rw [hbehind] at hback
  have hsent : (b.load conf ref sec).pkt.payload.take (b.load conf ref sec).pkt.size.toNat
      = conf.frame b.rfu1Size b.rfu2Size sec := by
    show (b.load conf ref sec).pkt.payload.take b.pkt.size.toNat = _
    rw [h.size, List.take_add, hback, h.gateway, hfront, BeaconConf.frame]
    exact (List.append_assoc _ _ _).symm
  have hlen : (b.load conf ref sec).pkt.payload.length = 256 := by rw [hlen2, hlen1, hlength]
  refine ⟨⟨h.txMode, h.rfChain, h.rfPower, h.modulation, h.bandwidth, h.coderate, h.sizes, h.size,
    hlen, hzeros, ?_⟩, ⟨h.txMode, h.rfChain, h.rfPower, h.modulation, h.bandwidth, h.coderate, rfl,
    ?_, _, _, h.sizes, hsent⟩⟩
  · show ((b.load conf ref sec).pkt.payload.drop (b.rfu1Size + 6)).take _ = _
    rw [hback]
    exact h.gateway
  · show b.pkt.size.toNat ≤ _
    rw [hlen, h.size]
    omega

end Beacon
