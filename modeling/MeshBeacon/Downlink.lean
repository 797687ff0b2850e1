import MeshBeacon.Hal
import Mathlib.Algebra.Order.Group.Int

/-!
# The downlink bridge and its consumer

The mesh layer puts the frames it sends into a queue, and the downstream
thread takes them out again, in two places of its code: once per turn of its
outer loop and once per turn of its inner loop. Both share a buffer and a
variable `buf_capacity`, which tells `cdp_bridge_pop_downlink` how much the
buffer holds and comes back with how much was written.

The two places differ in the packet they build (`outerTxpkt`, `innerTxpkt`)
and are otherwise one function, `pollDownlink`.
-/

open Hal

/-! ## The queue -/

/-- The parameters of a transmission a frame may come with. -/
structure DownlinkInfo where
  freqHz : UInt32
  tmst : UInt32
  txPowerDbm : Int16
  bwHz : UInt32
  sf : UInt8
  cr : UInt8
  rfChain : UInt8
deriving DecidableEq

/-- The parameters of a frame that comes with none. -/
def DownlinkInfo.none : DownlinkInfo := ⟨0, 0, 0, 0, 0, 0, 0⟩

/-- `DownlinkPacket`. -/
structure DownlinkPacket where
  payload : List UInt8
  info : DownlinkInfo
deriving DecidableEq

/-- A block of memory passed with the number of bytes to read from it. -/
structure Block where
  bytes : List UInt8
  size : UInt16
  /-- They are there. -/
  size_le : size.toNat ≤ bytes.length

/-- The bytes read from a block. -/
def Block.read (b : Block) : List UInt8 := b.bytes.take b.size.toNat

@[simp] theorem Block.length_read (b : Block) : b.read.length = b.size.toNat := by
  rw [Block.read, List.length_take, min_eq_left b.size_le]

/-- `cdp_bridge_enqueue_downlink_ext`: the code returned and the queue. There may
be no block. -/
def cdpBridgeEnqueueDownlinkExt (payload : Option Block) (info : DownlinkInfo)
    (queue : List DownlinkPacket) : ℤ × List DownlinkPacket :=
  match payload with
  | .none => (-1, queue)
  | .some b => if b.size = 0 then (-1, queue) else (0, queue ++ [⟨b.read, info⟩])

/-- `cdp_bridge_enqueue_downlink`: the frame comes without parameters. -/
def cdpBridgeEnqueueDownlink (payload : Option Block) (queue : List DownlinkPacket) :
    ℤ × List DownlinkPacket :=
  cdpBridgeEnqueueDownlinkExt payload DownlinkInfo.none queue

/-- What a call of `cdp_bridge_pop_downlink` leaves: the code it returns, and the
variables and the queue it has written to. -/
structure PopResult where
  /-- The code: 0 for a frame, 1 for an empty queue, negative on an error. -/
  rc : ℤ
  outBuf : List UInt8
  capacity : UInt16
  info : DownlinkInfo
  queue : List DownlinkPacket

/-- `cdp_bridge_pop_downlink`. The frame at the front is taken out of the queue
before the capacity is looked at. -/
def cdpBridgePopDownlink (outBuf : List UInt8) (capacity : UInt16) (info : DownlinkInfo) :
    List DownlinkPacket → PopResult
  | [] => ⟨1, outBuf, capacity, info, []⟩
  | pkt :: queue =>
    if capacity.toNat < pkt.payload.length then ⟨-2, outBuf, 0, info, queue⟩
    else ⟨0, overwrite pkt.payload outBuf, UInt16.ofNat pkt.payload.length, pkt.info, queue⟩

/-! ## The consumer -/

/-- `sizeof(duck_payload_buf)`. -/
def duckPayloadBufSize : UInt16 := 256

/-- `CDPCFG_RF_LORA_FREQ_HZ`. -/
def cdpcfgRfLoraFreqHz : UInt32 := 922800000

/-- `CDPCFG_RF_LORA_TXPOW`, as the daemon defines it. -/
def cdpcfgRfLoraTxpow : Int8 := 27

/-- The variables of `thread_down` that take frames from the bridge. -/
structure ThreadDown where
  duckPayloadBuf : List UInt8
  bufCapacity : UInt16
  /-- `dl_freq_hz`, `dl_tmst` and the others. -/
  dl : DownlinkInfo

/-- The variables when the thread starts: the buffer holds whatever it did. -/
def ThreadDown.init (buf : List UInt8) : ThreadDown := ⟨buf, duckPayloadBufSize, DownlinkInfo.none⟩

/-- What both loops build of a frame: the packet cleared, the frame copied into
it, and the settings they agree on. -/
def baseTxpkt (payload : List UInt8) (size : UInt16) : LgwPktTx :=
  { LgwPktTx.zero with
    payload := overwrite (payload.take size.toNat) LgwPktTx.zero.payload
    size := size
    countUs := 0
    txMode := immediate
    rfPower := cdpcfgRfLoraTxpow
    modulation := modLora
    bandwidth := bw125khz
    datarate := drLoraSf7
    coderate := crLora45 }

/-- The packet the outer loop builds: always on the default frequency, and on the
RF chain asked for, if there is one of that number. -/
def outerTxpkt (dl : DownlinkInfo) (payload : List UInt8) (size : UInt16) : LgwPktTx :=
  { baseTxpkt payload size with
    freqHz := cdpcfgRfLoraFreqHz
    rfChain := if dl.rfChain.toNat < rfChainNb then dl.rfChain else 0 }

/-- The packet the inner loop builds: on the frequency asked for, on RF chain 0,
with a preamble of 8 symbols. -/
def innerTxpkt (dl : DownlinkInfo) (payload : List UInt8) (size : UInt16) : LgwPktTx :=
  { baseTxpkt payload size with
    freqHz := if 0 < dl.freqHz then dl.freqHz else cdpcfgRfLoraFreqHz
    rfChain := 0
    invertPol := false
    preamble := 8
    noCrc := false
    noHeader := false }

/-- The places in `thread_down` that take a frame from the bridge. -/
inductive DownlinkLoop where
  | outer
  | inner
deriving DecidableEq

/-- The packet built in one of the places. -/
def DownlinkLoop.txpkt : DownlinkLoop → DownlinkInfo → List UInt8 → UInt16 → LgwPktTx
  | .outer => outerTxpkt
  | .inner => innerTxpkt

/-- `thread_down`, taking a frame from the bridge in one of the places: the
variables, the queue, and the packet built, if any. The capacity is reset only
where a packet is built. -/
def pollDownlink (loop : DownlinkLoop) (td : ThreadDown) (queue : List DownlinkPacket) :
    ThreadDown × List DownlinkPacket × Option LgwPktTx :=
  let popped := cdpBridgePopDownlink td.duckPayloadBuf td.bufCapacity td.dl queue
  if popped.rc = 0 ∧ 0 < popped.capacity then
    (⟨popped.outBuf, duckPayloadBufSize, popped.info⟩, popped.queue,
      some (loop.txpkt popped.info popped.outBuf popped.capacity))
  else (⟨popped.outBuf, popped.capacity, popped.info⟩, popped.queue, none)

/-- The bytes of a packet that are sent. -/
def LgwPktTx.sent (p : LgwPktTx) : List UInt8 := p.payload.take p.size.toNat

/-- Both places build a packet that sends the bytes they copy. -/
theorem DownlinkLoop.sent_txpkt (loop : DownlinkLoop) (dl : DownlinkInfo) (payload : List UInt8)
    (size : UInt16) (h : size.toNat ≤ payload.length) :
    (loop.txpkt dl payload size).sent = payload.take size.toNat := by
  have hbase : (baseTxpkt payload size).sent = payload.take size.toNat := by
    have hlen : (payload.take size.toNat).length = size.toNat := by
      rw [List.length_take, min_eq_left h]
    exact List.take_left' hlen
  cases loop with
  | outer => exact hbase
  | inner => exact hbase

/-! ## What taking a frame does -/

theorem pollDownlink_nil (loop : DownlinkLoop) (td : ThreadDown) :
    pollDownlink loop td [] = (td, [], none) := rfl

section Pop

variable {loop : DownlinkLoop} {td : ThreadDown} {pkt : DownlinkPacket}
  {queue : List DownlinkPacket}

/-- A frame above the capacity is gone, and so is the capacity. -/
theorem pollDownlink_of_lt (h : td.bufCapacity.toNat < pkt.payload.length) :
    pollDownlink loop td (pkt :: queue) = ({ td with bufCapacity := 0 }, queue, none) := by
  have hpop : cdpBridgePopDownlink td.duckPayloadBuf td.bufCapacity td.dl (pkt :: queue)
      = ⟨-2, td.duckPayloadBuf, 0, td.dl, queue⟩ := if_pos h
  unfold pollDownlink
  rw [hpop]
  exact if_neg (fun hrc => absurd hrc.1 (show (-2 : ℤ) ≠ 0 by decide))

/-- A frame within the capacity is built into a packet that sends it, and the
capacity is reset. -/
theorem pollDownlink_of_le (loop : DownlinkLoop) (queue : List DownlinkPacket)
    (hpos : pkt.payload ≠ []) (h : pkt.payload.length ≤ td.bufCapacity.toNat) :
    ∃ td' p, pollDownlink loop td (pkt :: queue) = (td', queue, some p)
      ∧ td'.bufCapacity = duckPayloadBufSize ∧ p.sent = pkt.payload := by
  have hsize : (UInt16.ofNat pkt.payload.length).toNat = pkt.payload.length :=
    UInt16.toNat_ofNat_of_lt' (lt_of_le_of_lt h td.bufCapacity.toNat_lt)
  have hcap : 0 < UInt16.ofNat pkt.payload.length := by
    rw [UInt16.lt_iff_toNat_lt, hsize]
    exact List.length_pos_of_ne_nil hpos
  have hpop : cdpBridgePopDownlink td.duckPayloadBuf td.bufCapacity td.dl (pkt :: queue)
      = ⟨0, overwrite pkt.payload td.duckPayloadBuf, UInt16.ofNat pkt.payload.length, pkt.info,
          queue⟩ := if_neg (Nat.not_lt.mpr h)
  refine ⟨⟨overwrite pkt.payload td.duckPayloadBuf, duckPayloadBufSize, pkt.info⟩,
    loop.txpkt pkt.info (overwrite pkt.payload td.duckPayloadBuf)
      (UInt16.ofNat pkt.payload.length), ?_, rfl, ?_⟩
  · unfold pollDownlink
    rw [hpop]
    exact if_pos ⟨rfl, hcap⟩
  · rw [DownlinkLoop.sent_txpkt, hsize, take_overwrite]
    rw [hsize, overwrite, List.length_append]
    exact Nat.le_add_right _ _

end Pop
