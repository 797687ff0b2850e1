import MeshBeacon.RxBounds
import MeshBeacon.ThreadUp
import MeshBeacon.UplinkQueue

/-!
# What becomes of a record

A record of the FIFO is parsed, or it is not, and what the mesh is told of its packet depends on
the configuration alone: not on the counter, on the entry of the array the packet is put into, or
on what is computed in floating point. So a batch can be spoken of as a list of records, and the
calls of `sx1302_parse` take them from the front of the list.
-/

open Hal CdpBridge

/-! ## What is heard -/

/-- What the mesh is told of a packet that was heard, but for the signal. -/
structure Heard where
  payload : List UInt8
  freqHz : UInt32
  datarateSf : UInt8
  rfChain : UInt8
deriving DecidableEq

/-- What is told of a packet handed to the bridge. -/
def Uplink.heard (u : Uplink) : Heard := ⟨u.payload, u.freqHz, u.datarateSf, u.rfChain⟩

/-- What is told of a packet in the queue of the bridge. -/
def CdpBridge.UplinkPacket.heard {F : Type*} (pkt : UplinkPacket F) : Heard :=
  ⟨pkt.payload, pkt.freqHz, pkt.datarateSf, pkt.rfChain⟩

/-- The payload as a block of memory, with as many bytes to read as the packet has. -/
def Uplink.block (u : Uplink) : Block where
  bytes := (List.range u.size.toNat).map fun i => u.payload.getD i 0
  size := u.size
  size_le := by rw [List.length_map, List.length_range]

/-- The arguments of `cdp_bridge_handle_uplink`: what is handed over, and the signal. -/
def Uplink.args {F : Type*} (u : Uplink) (signal : Int16 × F) : UplinkArgs F where
  payload := some u.block
  rssi := signal.1
  snr := signal.2
  freqHz := u.freqHz
  tmst := u.tmst
  rfChain := u.rfChain
  bandwidthHz := u.bandwidthHz
  datarateSf := u.datarateSf
  coderate := u.coderate

theorem Uplink.read_block (u : Uplink) (hlen : u.payload.length = u.size.toNat) :
    u.block.read = u.payload := by
  have hreads : Reads (fun i => u.payload.getD i 0) u.payload := by
    intro i b hb
    show u.payload.getD i 0 = b
    rw [List.getD_eq_getElem?_getD, hb, Option.getD_some]
  have hbytes : u.block.bytes = u.payload := by
    show (List.range u.size.toNat).map _ = _
    rw [← hlen, hreads.map_range]
  rw [Block.read, hbytes]
  exact List.take_of_length_le hlen.le

/-- A packet that is not empty arrives as it is. -/
theorem Uplink.received_args {F : Type*} (u : Uplink) (signal : Int16 × F)
    (hlen : u.payload.length = u.size.toNat) (hne : u.size ≠ 0) :
    ∃ pkt, (u.args signal).received = some pkt ∧ pkt.heard = u.heard := by
  refine ⟨_, if_neg hne, ?_⟩
  show Heard.mk u.block.read _ _ _ = _
  rw [u.read_block hlen]
  rfl

/-! ## What becomes of a record -/

namespace RxRecord

variable (context : LgwContext) (r : RxRecord)

/-- The modem behind the channel the record is of. -/
def ifmod : IfMod := ifmodConfig r.packet.rxChannelIn

/-- **The record parses**: the metadata is in range, the channel is one there is, and the CRC of
a packet that has one is the one received, unless the modem has said that it is not. -/
def Parses : Prop :=
  metadataInRange r.packet ∧ r.packet.rxChannelIn.toNat < ifChainNb
    ∧ (r.ifmod ≠ .fskStd → loraStatus context r.ifmod r.packet ≠ none)

instance : Decidable (r.Parses context) :=
  inferInstanceAs (Decidable (_ ∧ _ ∧ (_ → _)))

/-- The coding rate of the packet, as the library codes it. The FSK modem has none. -/
def coderate : UInt8 :=
  if r.ifmod = .fskStd then crUndefined
  else coderateOf (if r.ifmod = .loraMulti || !context.implicitHdr then r.packet.codingRate
    else context.implicitCoderate)

/-- The packet passes the checks of `thread_up`: it has a payload and a coding rate. -/
def Forwarded : Prop := r.packet.rxbytenbModem ≠ 0 ∧ r.coderate context ≠ crUndefined

instance : Decidable (r.Forwarded context) := inferInstanceAs (Decidable (_ ∧ _))

/-- What the mesh is told of the packet. -/
def heard : Heard where
  payload := r.packet.payload
  freqHz := context.rfFreqHz (context.ifRfChain r.packet.rxChannelIn)
    + (context.ifFreqHz r.packet.rxChannelIn).toUInt32
  datarateSf :=
    if r.ifmod = .fskStd then context.fskDatarate.toUInt8
    else (datarateOf r.packet.rxRateSf).toUInt8
  rfChain := r.packet.rxChannelIn

/-- A packet that is parsed is the one of the record. -/
structure IsOf (p : LgwPktRx) : Prop where
  heard : (Uplink.ofPkt p).heard = r.heard context
  size : p.size = r.packet.rxbytenbModem.toUInt16
  coderate : p.coderate = r.coderate context

variable {context} {r}

theorem coderate_le : r.coderate context ≤ crLora48 := by
  unfold coderate coderateOf
  split_ifs <;> decide

theorem IsOf.wellFormed_iff {p : LgwPktRx} (h : r.IsOf context p) :
    p.wellFormed ↔ r.Forwarded context := by
  have hle := UInt8.le_iff_toNat_le.mp (@coderate_le context r)
  have hsize : p.size.toNat = r.packet.rxbytenbModem.toNat := by
    rw [h.size, UInt8.toNat_toUInt16]
  have hbyte := r.packet.rxbytenbModem.toNat_lt
  have hone : (1 : UInt16).toNat = 1 := rfl
  have hone' : (1 : UInt8).toNat = 1 := rfl
  have hmax : (255 : UInt16).toNat = 255 := rfl
  rw [LgwPktRx.wellFormed, Bool.and_eq_true, Bool.and_eq_true, Bool.and_eq_true,
    decide_eq_true_iff, decide_eq_true_iff, decide_eq_true_iff, decide_eq_true_iff,
    UInt16.le_iff_toNat_le, UInt16.le_iff_toNat_le, UInt8.le_iff_toNat_le, UInt8.le_iff_toNat_le,
    h.coderate, hsize, hone, hone', hmax, Forwarded, ne_eq, ne_eq, ← UInt8.toNat_inj,
    ← UInt8.toNat_inj]
  show _ ↔ ¬ _ = 0 ∧ ¬ _ = 0
  omega

theorem heard_of_fsk (h : r.ifmod = .fskStd) : r.heard context
    = ⟨r.packet.payload, context.rfFreqHz (context.ifRfChain r.packet.rxChannelIn)
      + (context.ifFreqHz r.packet.rxChannelIn).toUInt32, context.fskDatarate.toUInt8,
      r.packet.rxChannelIn⟩ := by
  rw [heard, if_pos h]

theorem heard_of_lora (h : r.ifmod ≠ .fskStd) : r.heard context
    = ⟨r.packet.payload, context.rfFreqHz (context.ifRfChain r.packet.rxChannelIn)
      + (context.ifFreqHz r.packet.rxChannelIn).toUInt32,
      (datarateOf r.packet.rxRateSf).toUInt8, r.packet.rxChannelIn⟩ := by
  rw [heard, if_neg h]

theorem coderate_of_lora (h : r.ifmod ≠ .fskStd) : r.coderate context
    = coderateOf (if r.ifmod = .loraMulti || !context.implicitHdr then r.packet.codingRate
      else context.implicitCoderate) := by
  rw [coderate, if_neg h]

theorem Parses.exists_isOf (h : r.Parses context) (calcs : RxCalc) (counter : TimestampCounter)
    (entry : LgwPktRx) :
    ∃ p, processPacket context calcs counter entry r.packet = some p ∧ r.IsOf context p := by
  obtain ⟨-, hchannel, hstatus⟩ := h
  unfold processPacket
  rw [if_neg (Nat.not_le.mpr hchannel)]
  unfold ifmod at hstatus
  dsimp only
  cases hmod : ifmodConfig r.packet.rxChannelIn with
  | fskStd =>
    exact ⟨_, rfl, (heard_of_fsk hmod).symm, rfl, (if_pos hmod).symm⟩
  | loraMulti =>
    rw [hmod] at hstatus
    -- a LoRa record has a CRC status if it parses
    obtain ⟨status, heq⟩ := Option.ne_none_iff_exists'.mp (hstatus (by decide))
    have hlora : r.ifmod ≠ .fskStd := by
      rw [ifmod, hmod]
      decide
    have hcoderate := @coderate_of_lora context r hlora
    rw [ifmod, hmod] at hcoderate
    dsimp only
    rw [heq]
    exact ⟨_, rfl, (heard_of_lora hlora).symm, rfl, hcoderate.symm⟩
  | loraStd =>
    rw [hmod] at hstatus
    obtain ⟨status, heq⟩ := Option.ne_none_iff_exists'.mp (hstatus (by decide))
    have hlora : r.ifmod ≠ .fskStd := by
      rw [ifmod, hmod]
      decide
    have hcoderate := @coderate_of_lora context r hlora
    rw [ifmod, hmod] at hcoderate
    dsimp only
    rw [heq]
    exact ⟨_, rfl, (heard_of_lora hlora).symm, rfl, hcoderate.symm⟩

theorem processPacket_eq_none (hrange : metadataInRange r.packet) (h : ¬ r.Parses context)
    (calcs : RxCalc) (counter : TimestampCounter) (entry : LgwPktRx) :
    processPacket context calcs counter entry r.packet = none := by
  unfold processPacket
  by_cases hchannel : r.packet.rxChannelIn.toNat < ifChainNb
  · have hstatus : ¬ (r.ifmod ≠ .fskStd → loraStatus context r.ifmod r.packet ≠ none) :=
      fun hstatus => h ⟨hrange, hchannel, hstatus⟩
    unfold ifmod at hstatus
    rw [if_neg (Nat.not_le.mpr hchannel)]
    dsimp only
    cases hmod : ifmodConfig r.packet.rxChannelIn with
    | fskStd => exact absurd (fun hne => absurd hmod hne) hstatus
    | loraMulti =>
      rw [hmod] at hstatus
      dsimp only
      rw [not_not.mp fun hne => hstatus fun _ => hne]
    | loraStd =>
      rw [hmod] at hstatus
      dsimp only
      rw [not_not.mp fun hne => hstatus fun _ => hne]
  · rw [if_pos (Nat.le_of_not_lt hchannel)]

end RxRecord

/-! ## The records in the buffer -/

/-- A buffer that ends in its array holds the same bytes whatever lies behind the array. -/
theorem RxBuffer.Holds.of_fits {rx : RxBuffer} {past : ℕ → UInt8} {l : List UInt8}
    (h : rx.Holds past l) (hfits : rx.bufferSize.toNat ≤ rx.buffer.length) (past' : ℕ → UInt8) :
    rx.Holds past' l := by
  refine ⟨fun i b hb => ?_, h.size_eq⟩
  have hi := (List.getElem?_eq_some_iff.mp hb).1
  have hend := h.size_eq
  have hin : rx.bufferIndex + i < rx.buffer.length := by omega
  rw [← h.reads i b hb, RxBuffer.rd, RxBuffer.rd, RxBuffer.byte, RxBuffer.byte,
    List.getElem?_eq_getElem hin, Option.getD_some, Option.getD_some]

theorem rxBufferFetch_fits (past : ℕ → UInt8) {fifo : Fifo} (self : RxBuffer)
    (hsize : fifo.nbBytes.toNat ≤ rxBufferSize) :
    (rxBufferFetch past fifo self).2.bufferSize.toNat
      ≤ (rxBufferFetch past fifo self).2.buffer.length := by
  cases hwalked : fifo.walked past with
  | none =>
    rcases rxBufferFetch_of_not_walked self hwalked with hempty | ⟨bytes, -, hat⟩
    · rw [hempty]
      exact Nat.zero_le _
    · rw [hat.buffer, hat.bufferSize, length_received fifo bytes hsize]
      exact hsize
  | some rx =>
    rcases rxBufferFetch_of_walked self hwalked with ⟨-, hat⟩ | ⟨-, hempty⟩
    · have hle := Fifo.bufferSize_le_of_walked hwalked
      obtain ⟨-, bytes, -, -, idx, -, rfl⟩ := Fifo.walked_eq_some.mp hwalked
      rw [hat.buffer, hat.bufferSize,
        RxBuffer.length_resync (length_received fifo bytes hsize) hsize]
      exact hle.trans hsize
    · rw [hempty]
      exact Nat.zero_le _

namespace RxBuffer

/-- The buffer behind its first record. -/
def behind (rx : RxBuffer) (r : RxRecord) : RxBuffer :=
  { rx with
    bufferIndex := rx.bufferIndex + r.encode.length
    bufferPktNb := rx.bufferPktNb - 1 }

/-- **The records wait in the buffer**, whatever lies behind it. -/
structure Waits (rx : RxBuffer) (rs : List RxRecord) : Prop where
  count : rx.bufferPktNb.toNat = rs.length
  holds : rs ≠ [] → ∀ past, rx.Holds past (rs.flatMap RxRecord.encode)

variable {rx : RxBuffer} {r : RxRecord} {rs l : List RxRecord}

theorem Waits.ne_zero (h : rx.Waits rs) (hne : rs ≠ []) : rx.bufferPktNb ≠ 0 := by
  intro hzero
  have hcount := h.count
  rw [hzero] at hcount
  exact hne (List.length_eq_zero_iff.mp hcount.symm)

theorem Waits.eq_zero (h : rx.Waits []) : rx.bufferPktNb = 0 := UInt8.toNat_inj.mp h.count

theorem Waits.behind (h : rx.Waits (r :: rs)) : (rx.behind r).Waits rs where
  count := by
    show (rx.bufferPktNb - 1).toNat = _
    rw [toNat_pending_sub_one (h.ne_zero (List.cons_ne_nil r rs)), h.count, List.length_cons,
      Nat.add_sub_cancel]
  holds := fun _ past => by
    have hholds := h.holds (List.cons_ne_nil r rs) past
    rw [List.flatMap_cons] at hholds
    have hsize := hholds.size_eq
    rw [List.length_append] at hsize
    exact ⟨hholds.reads.right.congr fun i => congrArg (rx.byte past) (Nat.add_assoc _ _ i).symm,
      show rx.bufferSize.toNat = rx.bufferIndex + r.encode.length + _ by omega⟩

/-- **A record out of range stops the parser** where it is. -/
theorem Waits.parse_of_not_inRange (h : rx.Waits (r :: rs)) (call : RxCall) (i : ℕ)
    (hrange : ¬ metadataInRange r.packet) : call.parse i rx = (.error, rx, none) := by
  have hholds := h.holds (List.cons_ne_nil r rs) call.past
  rw [List.flatMap_cons] at hholds
  have hrec := hholds.reads.left
  have hsize := hholds.size_eq
  rw [List.length_append] at hsize
  have hstops : ¬ rx.HeadPoppable call.past := by
    intro hhead
    have hrange' := hhead.2.2
      (by rw [RxRecord.recordLength_eq hrec]; omega) (RxRecord.checksumOk_eq hrec)
    rw [RxRecord.rxPacketAt_eq hrec] at hrange'
    exact hrange hrange'
  unfold RxCall.parse sx1302Parse
  rcases rxBufferPop_cases call.past rx with ⟨-, heq⟩ | ⟨hhead, -⟩ | ⟨hhead, -⟩
  · rw [heq]
  · exact absurd hhead hstops
  · exact absurd hhead hstops

/-- A record in range is taken out, whatever is made of it. -/
theorem Waits.parse_of_inRange (h : rx.Waits (r :: rs)) (call : RxCall) (i : ℕ)
    (hrange : metadataInRange r.packet) :
    call.parse i rx
      = match processPacket call.context call.calcs call.counter (call.pktData i) r.packet with
        | none => (.error, rx.behind r, none)
        | some p => (.success, rx.behind r, some p) := by
  have hholds := h.holds (List.cons_ne_nil r rs) call.past
  rw [List.flatMap_cons] at hholds
  unfold RxCall.parse sx1302Parse
  rw [(rxBufferPop_encode hholds hrange).1]
  dsimp only
  rw [Option.bind_some]
  rfl

/-- **Records that parse, parse one after the other.** -/
theorem Waits.parsesInto (call : RxCall) (found : ℕ) (h : rx.Waits (rs ++ l))
    (hrs : ∀ r ∈ rs, r.Parses call.context) :
    ∃ ps rx', ParsesInto call found rx ps rx' ∧ List.Forall₂ (RxRecord.IsOf call.context) rs ps
      ∧ rx'.Waits l := by
  induction rs generalizing rx found with
  | nil => exact ⟨[], rx, .nil found rx, .nil, h⟩
  | cons r rs ih =>
    have hr := hrs r List.mem_cons_self
    obtain ⟨p, hp, hof⟩ := hr.exists_isOf call.calcs call.counter (call.pktData found)
    have hparse := Waits.parse_of_inRange h call found hr.1
    rw [hp] at hparse
    obtain ⟨ps, rx', hps, hofs, hrest⟩ := ih (found + 1) (Waits.behind h) fun s hs =>
      hrs s (List.mem_cons_of_mem r hs)
    exact ⟨p :: ps, rx', .cons hparse hps, .cons hof hofs, hrest⟩

/-- **A batch of records that parse** gives their packets and leaves the others. -/
theorem Waits.batch_of_parses (call : RxCall) (h : rx.Waits (rs ++ l))
    (hquota : call.quota rx = rs.length) (hrs : ∀ r ∈ rs, r.Parses call.context) :
    ∃ ps rx', call.batch rx = ⟨.success, rx', ps⟩
      ∧ List.Forall₂ (RxRecord.IsOf call.context) rs ps ∧ rx'.Waits l := by
  obtain ⟨ps, rx', hps, hof, hrest⟩ := h.parsesInto call 0 hrs
  refine ⟨ps, rx', ?_, hof, hrest⟩
  rw [RxCall.batch, ← RxCall.quota, hquota, hof.length_eq]
  exact receiveLoop_of_parsesInto hps

/-- **A record of the batch that does not parse** is the end of the batch. It is taken out itself
if it is in range. -/
theorem Waits.batch_of_not_parses (call : RxCall) (h : rx.Waits (rs ++ r :: l))
    (hquota : rs.length < call.quota rx) (hrs : ∀ r ∈ rs, r.Parses call.context)
    (hr : ¬ r.Parses call.context) :
    (call.batch rx).status = .error
      ∧ (call.batch rx).rx.Waits (if metadataInRange r.packet then l else r :: l) := by
  obtain ⟨ps, rx', hps, hof, hrest⟩ := h.parsesInto call 0 hrs
  obtain ⟨n, hn⟩ : ∃ n, call.quota rx = ps.length + (n + 1) :=
    ⟨call.quota rx - ps.length - 1, by rw [← hof.length_eq]; omega⟩
  have hfail : call.parse ps.length rx'
      = (.error, if metadataInRange r.packet then rx'.behind r else rx', none) := by
    split_ifs with hrange
    · rw [hrest.parse_of_inRange call ps.length hrange, RxRecord.processPacket_eq_none hrange hr]
    · exact hrest.parse_of_not_inRange call ps.length hrange
  have hbatch : call.batch rx
      = ⟨.error, if metadataInRange r.packet then rx'.behind r else rx', ps⟩ := by
    have hstops : (call.parse (0 + ps.length) rx').1 ≠ .success := by
      rw [Nat.zero_add, hfail]
      exact RegStatus.noConfusion
    have hloop := receiveLoop_of_parsesInto_failure hps hstops n
    rw [RxCall.batch, ← RxCall.quota, hn, hloop, Nat.zero_add, hfail]
  rw [hbatch]
  refine ⟨rfl, ?_⟩
  dsimp only
  split_ifs with hrange
  · exact hrest.behind
  · exact hrest

end RxBuffer
