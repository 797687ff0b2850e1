import MeshBeacon.UplinkRecords
import Mathlib.Data.List.TakeWhile

/-!
# From the concentrator to the mesh

What the modems of the concentrator receive goes through the receive buffer and the upstream
thread into the queue of the bridge, out of which the ducks read. A record takes this way as a
whole: it is fetched with the others in the FIFO, it waits in the buffer until its batch is parsed,
and then it has met its fate. The thread hands the packets of a batch over one by one, and a duck
may read between two of them.

`RecordLine` is this way without bytes, indices and counts: the records that wait, those that are
gone, and of these the ones the thread has in hand. It says what becomes of a batch at once
(`RecordLine.receive`), where the code parses record by record. The code refines it, as long as the
FIFO holds records (`UplinkPath.refines_final`).
-/

open Hal CdpBridge

/-! ## The way of the records -/

/-- How a record has left the buffer. -/
inductive RecordFate
  /-- Its packet has been handed to the bridge, or `thread_up` has it in hand. -/
  | handed
  /-- Its packet has been skipped by `thread_up`. -/
  | skipped
  /-- It has been lost with its batch. -/
  | lost (batch : List RxRecord)

/-- The records that have been fetched, those of them that wait, those that are gone and how, the
ones of these that `thread_up` has in hand, and the number of iterations since the last that did not
fail. -/
structure RecordLine where
  fetched : List RxRecord
  pending : List RxRecord
  gone : List (RxRecord × RecordFate)
  inHand : List RxRecord
  consecutiveRxErrors : ℕ

/-- `MAX_CONSECUTIVE_RX_ERRORS`. -/
def maxConsecutiveRxErrors : ℕ := 10

/-- One iteration of the loop of `thread_up`, and what it finds. -/
structure UpIteration where
  call : RxCall
  /-- What the FIFO holds before the first record. -/
  gap : List UInt8
  /-- The records in the FIFO. -/
  records : List RxRecord

namespace RecordLine

variable (context : LgwContext) (line : RecordLine)

/-- The records in the FIFO are fetched if none waits. -/
def fetch (records : List RxRecord) : RecordLine :=
  if line.pending = [] then
    { line with fetched := line.fetched ++ records, pending := records }
  else line

theorem gone_fetch (records : List RxRecord) : (line.fetch records).gone = line.gone := by
  unfold fetch
  split_ifs <;> rfl

theorem consecutiveRxErrors_fetch (records : List RxRecord) :
    (line.fetch records).consecutiveRxErrors = line.consecutiveRxErrors := by
  unfold fetch
  split_ifs <;> rfl

theorem inHand_fetch (records : List RxRecord) : (line.fetch records).inHand = line.inHand := by
  unfold fetch
  split_ifs <;> rfl

/-- **What becomes of a batch**: if all its records parse, each packet is handed over or skipped;
otherwise those before the first that does not are lost, and this one too if it is in range. If it
is not, it stays. -/
def receive (maxPkt : ℕ) : RecordLine :=
  let batch := line.pending.take maxPkt
  match batch.dropWhile (RxRecord.Parses context ·) with
  | [] =>
    { line with
      pending := line.pending.drop maxPkt
      gone := line.gone ++ batch.map fun r =>
        (r, if r.Forwarded context then .handed else .skipped)
      inHand := batch.filter (RxRecord.Forwarded context ·)
      consecutiveRxErrors := 0 }
  | bad :: _ =>
    let before := batch.takeWhile (RxRecord.Parses context ·)
    let lost := if metadataInRange bad.packet then before ++ [bad] else before
    { line with
      pending := line.pending.drop lost.length
      gone := line.gone ++ lost.map fun r => (r, .lost batch)
      consecutiveRxErrors := line.consecutiveRxErrors + 1 }

/-- One iteration, once the packets of the last are handed over. -/
def up (it : UpIteration) : RecordLine :=
  if line.inHand ≠ [] then line
  else if line.pending = [] ∧ it.call.fifo.Fails ∧ it.call.fifo.nbBytes ≠ 0 then
    { line with consecutiveRxErrors := line.consecutiveRxErrors + 1 }
  else (line.fetch it.records).receive context it.call.maxPkt.toNat

/-- The record of an entry, if its packet has been handed over. -/
def handedOf : RxRecord × RecordFate → Option RxRecord
  | (r, .handed) => some r
  | (_, .skipped) => none
  | (_, .lost _) => none

/-- The records whose packets have been handed over. -/
def handed : List RxRecord := line.gone.filterMap handedOf

/-- **What a batch comes to**: either all its records parse, or there is a first that does not. -/
theorem receive_cases (maxPkt : ℕ) :
    ((∀ r ∈ line.pending.take maxPkt, r.Parses context)
      ∧ line.receive context maxPkt
        = { line with
            pending := line.pending.drop maxPkt
            gone := line.gone ++ (line.pending.take maxPkt).map fun r =>
              (r, if r.Forwarded context then .handed else .skipped)
            inHand := (line.pending.take maxPkt).filter (RxRecord.Forwarded context ·)
            consecutiveRxErrors := 0 })
    ∨ ∃ before bad rest, line.pending = before ++ bad :: rest ∧ before.length < maxPkt
      ∧ (∀ r ∈ before, r.Parses context) ∧ ¬ bad.Parses context
      ∧ line.receive context maxPkt
        = { line with
            pending := if metadataInRange bad.packet then rest else bad :: rest
            gone := line.gone ++ (if metadataInRange bad.packet then before ++ [bad]
              else before).map fun r => (r, .lost (line.pending.take maxPkt))
            consecutiveRxErrors := line.consecutiveRxErrors + 1 } := by
  unfold receive
  set batch := line.pending.take maxPkt with hbatch
  dsimp only
  cases hdrop : batch.dropWhile (RxRecord.Parses context ·) with
  | nil =>
    -- nothing is left of the batch after the records that parse
    refine Or.inl ⟨fun r hr => ?_, rfl⟩
    exact of_decide_eq_true (List.dropWhile_eq_nil_iff.mp hdrop r hr)
  | cons bad behind =>
    set before := batch.takeWhile (RxRecord.Parses context ·) with hbefore
    have hsplit : before ++ bad :: behind = batch := by
      rw [hbefore, ← hdrop]
      exact List.takeWhile_append_dropWhile
    -- the first record that does not parse splits what waits
    obtain ⟨rest, hpending⟩ : ∃ rest, line.pending = before ++ bad :: rest := by
      refine ⟨behind ++ line.pending.drop maxPkt, ?_⟩
      rw [← List.cons_append, ← List.append_assoc, hsplit, hbatch, List.take_append_drop]
    have hroom : before.length < maxPkt := by
      have hlength := congrArg List.length hsplit
      rw [List.length_append, List.length_cons, hbatch, List.length_take] at hlength
      omega
    have hbad : ¬ bad.Parses context := by
      have hhead := List.head?_dropWhile_not (RxRecord.Parses context ·) batch
      rw [hdrop] at hhead
      exact of_decide_eq_false hhead
    refine Or.inr ⟨before, bad, rest, hpending, hroom,
      fun r hr => of_decide_eq_true
        (List.mem_takeWhile_imp (p := fun r : RxRecord => decide (r.Parses context)) hr), hbad, ?_⟩
    dsimp only
    split_ifs with hrange
    · rw [List.length_append, List.length_singleton, hpending, List.append_cons,
        List.drop_left' (by rw [List.length_append, List.length_singleton])]
    · rw [hpending, List.drop_left]

theorem handed_append {line' : RecordLine} {entries : List (RxRecord × RecordFate)}
    (h : line'.gone = line.gone ++ entries) :
    line'.handed = line.handed ++ entries.filterMap handedOf := by
  rw [handed, h, List.filterMap_append]
  rfl

/-- Of a batch that is delivered, the packets that pass the checks are handed over. -/
theorem filterMap_handedOf_delivered (batch : List RxRecord) :
    (batch.map fun r => (r, if r.Forwarded context then RecordFate.handed else .skipped)).filterMap
      handedOf = batch.filter (RxRecord.Forwarded context ·) := by
  rw [List.filterMap_map, ← List.filterMap_eq_filter]
  refine List.filterMap_congr fun r _ => ?_
  show handedOf (r, _) = Option.guard _ r
  by_cases hr : r.Forwarded context
  · rw [if_pos hr, Option.guard, if_pos (decide_eq_true hr)]
    rfl
  · rw [if_neg hr, Option.guard, if_neg (by simpa using hr)]
    rfl

theorem filterMap_handedOf_lost (rs batch : List RxRecord) :
    (rs.map fun r => (r, RecordFate.lost batch)).filterMap handedOf = [] := by
  rw [List.filterMap_map]
  exact List.filterMap_eq_nil_iff.mpr fun _ _ => rfl

end RecordLine

/-! ## The way of the bytes -/

/-- The receive buffer, the packets of the batch that the thread has still to hand over, the bridge,
and the errors the thread has counted. -/
structure UplinkPath (F : Type*) where
  rx : RxBuffer
  inHand : List Uplink
  bridge : UplinkHistory F
  consecutiveRxErrors : ℕ

/-- A step of one of the threads. -/
inductive UplinkPathEvent (F : Type*)
  /-- An iteration of the loop of `thread_up` begins. -/
  | up (it : UpIteration)
  /-- It hands over a packet, with its signal. -/
  | handOver (signal : Int16 × F)
  /-- `cdp_bridge_register_rx_callback`. -/
  | registerRxCallback (cb : Bool)
  /-- A duck takes a packet. -/
  | popUplinkPacket

namespace UplinkPath

variable {F : Type*}

/-- Nothing has been received. -/
def init : UplinkPath F := ⟨rxBufferNew, [], UplinkHistory.init, 0⟩

/-- An iteration of the loop of `thread_up`, once the packets of the last are handed over. -/
def up (path : UplinkPath F) (it : UpIteration) : UplinkPath F :=
  if path.inHand ≠ [] then path
  else
    let result := lgwReceive it.call path.rx
    { path with
      rx := result.rx
      inHand := threadUp it.call path.rx
      consecutiveRxErrors := if result.ret = -1 then path.consecutiveRxErrors + 1 else 0 }

/-- The thread hands over the next packet, if there is one. -/
def handOver (path : UplinkPath F) (signal : Int16 × F) : UplinkPath F :=
  match path.inHand with
  | [] => path
  | u :: us =>
    { path with inHand := us, bridge := path.bridge.step (.handleUplink (u.args signal)) }

/-- One step. After too many errors the daemon exits. -/
def step (path : UplinkPath F) (e : UplinkPathEvent F) : UplinkPath F :=
  if maxConsecutiveRxErrors ≤ path.consecutiveRxErrors then path
  else
    match e with
    | .up it => path.up it
    | .handOver signal => path.handOver signal
    | .registerRxCallback cb =>
      { path with bridge := path.bridge.step (.registerRxCallback cb) }
    | .popUplinkPacket => { path with bridge := path.bridge.step .popUplinkPacket }

end UplinkPath

namespace RecordLine

/-- Nothing has been received. -/
def init : RecordLine := ⟨[], [], [], [], 0⟩

/-- One step. -/
def step {F : Type*} (context : LgwContext) (line : RecordLine) (e : UplinkPathEvent F) :
    RecordLine :=
  if maxConsecutiveRxErrors ≤ line.consecutiveRxErrors then line
  else
    match e with
    | .up it => line.up context it
    | .handOver _ => { line with inHand := line.inHand.tail }
    | .registerRxCallback _ => line
    | .popUplinkPacket => line

end RecordLine

/-! ## Refinement -/

/-- **The iteration finds records**: the configuration is the one given, without fine timestamps,
and the transfer, unless it fails, gives records that fit the buffer, perhaps with something before
them in which there is no syncword. -/
structure UpIteration.Sound (context : LgwContext) (it : UpIteration) : Prop where
  context_eq : it.call.context = context
  fineTimestamp : it.call.fineTimestamp = false
  gap : ¬ [syncwordByte0, syncwordByte1] <:+: it.gap
  fits : it.call.fifo.nbBytes.toNat ≤ rxBufferSize
  fifo : (it.call.fifo.Fails ∧ it.records = [])
    ∨ (it.call.fifo.memRb = .ok (it.gap ++ it.records.flatMap RxRecord.encode)
      ∧ it.call.fifo.nbBytes.toNat = (it.gap ++ it.records.flatMap RxRecord.encode).length)

/-- The packet of a record is handed over: it is told of as it was heard, and it is not empty. -/
structure HandedAs (context : LgwContext) (r : RxRecord) (u : Uplink) : Prop where
  heard : u.heard = r.heard context
  length_payload : u.payload.length = u.size.toNat
  size_ne : u.size ≠ 0

/-- **The buffer and the bridge refine the records**: as many are counted as wait, and the buffer
holds them; what has arrived at the bridge and what the thread has in hand is what is handed
over. -/
structure UplinkPath.Refines {F : Type*} (context : LgwContext) (path : UplinkPath F)
    (line : RecordLine) : Prop where
  errors : path.consecutiveRxErrors = line.consecutiveRxErrors
  waits : path.rx.Waits line.pending
  inHand : List.Forall₂ (HandedAs context) line.inHand path.inHand
  arrived : (path.bridge.arrived.filterMap UplinkArgs.received).map UplinkPacket.heard
      ++ line.inHand.map (RxRecord.heard context)
    = line.handed.map (RxRecord.heard context)
  faithful : path.bridge.Faithful

section Refinement

variable {F : Type*} {context : LgwContext} {it : UpIteration} {rx rx₀ : RxBuffer}
  {line : RecordLine}

/-- With no record waiting, a transfer that fails is all there is. -/
theorem sx1302Fetch_of_fails (hwaits : rx.Waits []) (hfails : it.call.fifo.Fails)
    (hnb : it.call.fifo.nbBytes ≠ 0) :
    (sx1302Fetch it.call.past it.call.fifo rx).1 = .error
      ∧ (sx1302Fetch it.call.past it.call.fifo rx).2.Waits [] := by
  have hnb' : it.call.fifo.nbBytes.toNat ≠ 0 := fun h => hnb (UInt16.toNat_inj.mp h)
  obtain ⟨bytes, hmem⟩ := Fifo.fails_iff.mp hfails
  rw [sx1302Fetch, if_pos hwaits.eq_zero]
  unfold rxBufferFetch
  dsimp only
  rw [if_neg hnb', hmem]
  exact ⟨rfl, rfl, fun h => absurd rfl h⟩

/-- **Otherwise the fetch gives the records.** -/
theorem sx1302Fetch_of_sound (hsound : it.Sound context) (hwaits : rx.Waits line.pending)
    (hworks : ¬ (line.pending = [] ∧ it.call.fifo.Fails ∧ it.call.fifo.nbBytes ≠ 0)) :
    (sx1302Fetch it.call.past it.call.fifo rx).1 = .success
      ∧ (sx1302Fetch it.call.past it.call.fifo rx).2.Waits (line.fetch it.records).pending := by
  unfold RecordLine.fetch
  by_cases hpending : line.pending = []
  · rw [if_pos hpending, sx1302Fetch, if_pos (hpending ▸ hwaits : rx.Waits []).eq_zero]
    rcases hsound.fifo with ⟨hfails, hrecords⟩ | ⟨hmem, hnb⟩
    · have hzero : it.call.fifo.nbBytes.toNat = 0 := by
        by_contra hne
        exact hworks ⟨hpending, hfails, fun h => hne (congrArg UInt16.toNat h)⟩
      unfold rxBufferFetch
      dsimp only
      rw [if_pos hzero, hrecords]
      exact ⟨rfl, rfl, fun h => absurd rfl h⟩
    · obtain ⟨hstatus, hcount, hholds⟩ := rxBufferFetch_flatMap it.call.past
        (show rxBufferNew.bufferPktNb = 0 from rfl) hsound.gap hnb hmem
      have hbytes := mul_length_le_flatMap it.records
      have hfits := hsound.fits
      rw [hnb, List.length_append] at hfits
      change _ ≤ 4096 at hfits
      refine ⟨hstatus, ?_, fun _ => hholds.of_fits (rxBufferFetch_fits _ _ hsound.fits)⟩
      rw [hcount, UInt8.toNat_ofNat']
      exact Nat.mod_eq_of_lt (by omega)
  · rw [if_neg hpending, sx1302Fetch, if_neg (hwaits.ne_zero hpending)]
    exact ⟨rfl, hwaits⟩

/-- The packets that are handed over are those of the records that are. -/
theorem forall₂_processPackets {rs : List RxRecord} {ps : List LgwPktRx}
    (h : List.Forall₂ (RxRecord.IsOf context) rs ps) :
    List.Forall₂ (HandedAs context) (rs.filter (RxRecord.Forwarded context ·))
      (processPackets ps) := by
  rw [processPackets_eq]
  induction h with
  | nil => exact .nil
  | @cons r p rs ps hof _ ih =>
    by_cases hr : r.Forwarded context
    · rw [List.filter_cons_of_pos (by exact decide_eq_true hr),
        List.filter_cons_of_pos (hof.wellFormed_iff.mpr hr), List.map_cons]
      have hpayload : p.payload = r.packet.payload := congrArg Heard.payload hof.heard
      refine .cons ⟨hof.heard, ?_, fun hzero => hr.1 ?_⟩ ih
      · show p.payload.length = p.size.toNat
        rw [hpayload, r.length_payload, hof.size, UInt8.toNat_toUInt16]
      · have hsize : r.packet.rxbytenbModem.toUInt16 = 0 := hof.size.symm.trans hzero
        exact UInt8.toNat_inj.mp (UInt8.toNat_toUInt16 _ ▸ congrArg UInt16.toNat hsize)
    · rw [List.filter_cons_of_neg (by simpa using hr),
        List.filter_cons_of_neg (fun h => hr (hof.wellFormed_iff.mp h))]
      exact ih

/-- **What becomes of a batch in the code** is what becomes of it. -/
theorem lgwReceive_of_waits (call : RxCall) (hfine : call.fineTimestamp = false)
    (hfetch : sx1302Fetch call.past call.fifo rx = (.success, rx₀))
    (hwaits : rx₀.Waits line.pending) (hhand : line.inHand = []) :
    (lgwReceive call rx).rx.Waits (line.receive call.context call.maxPkt.toNat).pending
      ∧ (if (lgwReceive call rx).ret = -1 then line.consecutiveRxErrors + 1 else 0)
        = (line.receive call.context call.maxPkt.toNat).consecutiveRxErrors
      ∧ (line.receive call.context call.maxPkt.toNat).handed
        = line.handed ++ (line.receive call.context call.maxPkt.toNat).inHand
      ∧ List.Forall₂ (HandedAs call.context)
        (line.receive call.context call.maxPkt.toNat).inHand (threadUp call rx) := by
  rw [threadUp_eq_processPackets]
  have hquota : call.quota rx₀ = (line.pending.take call.maxPkt.toNat).length := by
    rw [RxCall.quota, hwaits.count, List.length_take, Nat.min_comm]
  rcases line.receive_cases call.context call.maxPkt.toNat with ⟨hparses, hline⟩
    | ⟨before, bad, rest, hpending, hroom, hbefore, hbad, hline⟩
  · rw [hline]
    have hhanded := RecordLine.filterMap_handedOf_delivered call.context
      (line.pending.take call.maxPkt.toNat)
    by_cases hpending : line.pending = []
    · have hzero : lgwReceive call rx = ⟨0, rx₀, []⟩ := by
        rw [lgwReceive, hfetch]
        exact if_pos (hpending ▸ hwaits : rx₀.Waits []).eq_zero
      rw [hzero, hpending, List.drop_nil]
      rw [List.take_nil]
      refine ⟨hpending ▸ hwaits, rfl, ?_, .nil⟩
      rw [line.handed_append rfl]
      rfl
    · have hsplit : rx₀.Waits (line.pending.take call.maxPkt.toNat
          ++ line.pending.drop call.maxPkt.toNat) := by
        rwa [List.take_append_drop]
      obtain ⟨ps, rx', hbatch, hof, hrest⟩ := hsplit.batch_of_parses call hquota hparses
      have hdeliver : call.deliver ps = ps :=
        if_neg fun h => Bool.false_ne_true (hfine.symm.trans h.2)
      rw [lgwReceive_of_fetch hfetch (hwaits.ne_zero hpending), hbatch]
      dsimp only
      rw [hdeliver]
      refine ⟨hrest, if_neg (by omega), ?_, forall₂_processPackets hof⟩
      rw [line.handed_append rfl, hhanded]
  · have hne : line.pending ≠ [] := by
      rw [hpending]
      exact List.append_ne_nil_of_right_ne_nil _ (List.cons_ne_nil _ _)
    have hwithin : before.length < call.quota rx₀ := by
      rw [hquota, List.length_take, hpending, List.length_append, List.length_cons]
      omega
    obtain ⟨hstatus, hrest⟩ := (hpending ▸ hwaits).batch_of_not_parses call hwithin hbefore hbad
    -- a batch that is lost leaves the thread with nothing in hand
    rw [lgwReceive_of_fetch hfetch (hwaits.ne_zero hne), hstatus, hline, hhand]
    refine ⟨hrest, if_pos rfl, ?_, .nil⟩
    rw [line.handed_append rfl, RecordLine.filterMap_handedOf_lost]

/-- **An iteration.** -/
theorem UplinkPath.Refines.up {path : UplinkPath F} (h : path.Refines context line)
    (hsound : it.Sound context) : (path.up it).Refines context (line.up context it) := by
  unfold RecordLine.up UplinkPath.up
  by_cases hhand : line.inHand = []
  swap
  · -- the thread still has packets in hand, and neither side moves
    have hpath : path.inHand ≠ [] := fun hnil =>
      hhand (List.forall₂_nil_right_iff.mp (hnil ▸ h.inHand))
    rw [if_pos hhand, if_pos hpath]
    exact h
  have hpath : path.inHand = [] := List.forall₂_nil_left_iff.mp (hhand ▸ h.inHand)
  have harrived := h.arrived
  rw [hhand, List.map_nil, List.append_nil] at harrived
  rw [if_neg (not_not_intro hhand), if_neg (not_not_intro hpath)]
  by_cases hfails : line.pending = [] ∧ it.call.fifo.Fails ∧ it.call.fifo.nbBytes ≠ 0
  · obtain ⟨hstatus, hnone⟩ := sx1302Fetch_of_fails (hfails.1 ▸ h.waits : path.rx.Waits [])
      hfails.2.1 hfails.2.2
    rw [if_pos hfails]
    have hwaits : (sx1302Fetch it.call.past it.call.fifo path.rx).2.Waits line.pending :=
      hfails.1 ▸ hnone
    -- the transfer fails: the call returns -1 before anything is parsed
    have hreceive : lgwReceive it.call path.rx
        = ⟨-1, (sx1302Fetch it.call.past it.call.fifo path.rx).2, []⟩ := by
      have hfetch : sx1302Fetch it.call.past it.call.fifo path.rx = (.error, _) :=
        Prod.ext hstatus rfl
      rw [lgwReceive, hfetch]
    have hup : threadUp it.call path.rx = [] := by
      rw [threadUp_eq_processPackets, hreceive]
      rfl
    dsimp only
    rw [hreceive, hup]
    refine ⟨?_, hwaits, ?_, h.arrived, h.faithful⟩
    · show (if (-1 : ℤ) = -1 then path.consecutiveRxErrors + 1 else 0)
        = line.consecutiveRxErrors + 1
      rw [if_pos rfl, h.errors]
    · rw [hhand]
      exact .nil
  · obtain ⟨hstatus, hwaits⟩ := sx1302Fetch_of_sound hsound h.waits hfails
    -- the records are fetched first, and then a batch is taken of what waits
    have hhanded : (line.fetch it.records).handed = line.handed :=
      congrArg (List.filterMap RecordLine.handedOf) (line.gone_fetch it.records)
    have herrors := h.errors.trans (line.consecutiveRxErrors_fetch it.records).symm
    obtain ⟨hrx, herr, hrs, hup⟩ := lgwReceive_of_waits it.call hsound.fineTimestamp
      (Prod.ext hstatus rfl) hwaits ((line.inHand_fetch it.records).trans hhand)
    rw [hsound.context_eq] at hrx herr hrs hup
    rw [if_neg hfails]
    refine ⟨?_, hrx, hup, ?_, h.faithful⟩
    · rw [← herr, ← herrors]
    · show _ ++ _ = _
      rw [hrs, hhanded, List.map_append, ← harrived]

/-- **A packet that is handed over arrives.** -/
theorem UplinkPath.Refines.handOver {path : UplinkPath F} (h : path.Refines context line)
    (signal : Int16 × F) :
    (path.handOver signal).Refines context { line with inHand := line.inHand.tail } := by
  obtain ⟨herrors, hwaits, hhand, harrived, hfaithful⟩ := h
  unfold UplinkPath.handOver
  cases hpath : path.inHand with
  | nil =>
    rw [hpath, List.forall₂_nil_right_iff] at hhand
    rw [hhand] at harrived ⊢
    refine ⟨herrors, hwaits, ?_, harrived, hfaithful⟩
    rw [hpath]
    exact .nil
  | cons u us =>
    rw [hpath] at hhand
    obtain ⟨r, rs, hand, hrest, hline⟩ := List.forall₂_cons_right_iff.mp hhand
    obtain ⟨pkt, hpkt, hheard⟩ := u.received_args signal hand.length_payload hand.size_ne
    rw [hline] at harrived ⊢
    refine ⟨herrors, hwaits, hrest, ?_, hfaithful.step (.handleUplink (u.args signal))⟩
    show ((path.bridge.arrived ++ [_]).filterMap _).map _ ++ rs.map _
      = line.handed.map (RxRecord.heard context)
    rw [← harrived, List.filterMap_append, List.filterMap_cons_some hpkt, List.filterMap_nil,
      List.map_append, List.map_cons, List.map_nil, hheard, hand.heard, List.map_cons,
      List.append_assoc, List.singleton_append]

/-- The step lemma. -/
theorem UplinkPath.Refines.step {path : UplinkPath F} (h : path.Refines context line)
    {e : UplinkPathEvent F} (hsound : ∀ it, e = .up it → it.Sound context) :
    (path.step e).Refines context (line.step context e) := by
  unfold UplinkPath.step RecordLine.step
  by_cases hexit : maxConsecutiveRxErrors ≤ line.consecutiveRxErrors
  · rw [if_pos (hexit.trans_eq h.errors.symm), if_pos hexit]
    exact h
  · rw [if_neg fun h' => hexit (h'.trans_eq h.errors), if_neg hexit]
    cases e with
    | up it => exact h.up (hsound it rfl)
    | handOver signal => exact h.handOver signal
    | registerRxCallback cb =>
      exact ⟨h.errors, h.waits, h.inHand, h.arrived, h.faithful.step (.registerRxCallback cb)⟩
    | popUplinkPacket =>
      exact ⟨h.errors, h.waits, h.inHand, h.arrived, h.faithful.step .popUplinkPacket⟩

theorem UplinkPath.refines_init : (UplinkPath.init : UplinkPath F).Refines context .init :=
  ⟨rfl, ⟨rfl, fun h => absurd rfl h⟩, .nil, rfl, UplinkHistory.faithful_init⟩

/-- **The code refines the way of the records**, in every run whose iterations find records. -/
theorem UplinkPath.refines_final (events : List (UplinkPathEvent F))
    (hsound : ∀ e ∈ events, ∀ it, e = .up it → it.Sound context) :
    (Run.final UplinkPath.step UplinkPath.init events).Refines context
      (Run.final (RecordLine.step context) RecordLine.init events) :=
  Run.simulation_of_forall (fun _ _ _ he h => h.step he) hsound UplinkPath.refines_init

end Refinement

/-! ## The books -/

/-- A fate is the right one: a packet that is handed over passes the checks of `thread_up`, one
that is skipped does not, and a record is lost only if it is fetched with one that does not parse,
which may be itself. -/
def RecordFate.Justified (context : LgwContext) (fetched : List RxRecord) (r : RxRecord) :
    RecordFate → Prop
  | .handed => r.Parses context ∧ r.Forwarded context
  | .skipped => r.Parses context ∧ ¬ r.Forwarded context
  | .lost batch => r ∈ batch ∧ batch <:+: fetched ∧ ∃ bad ∈ batch, ¬ bad.Parses context

/-- **The books of the records**: in the order in which they have been fetched, they are gone or
they wait, and each one that is gone has met its fate. -/
structure RecordLine.Books (context : LgwContext) (line : RecordLine) : Prop where
  fetched : line.fetched = line.gone.map Prod.fst ++ line.pending
  justified : ∀ entry ∈ line.gone, entry.2.Justified context line.fetched entry.1

theorem RecordFate.Justified.mono {context : LgwContext} {fetched : List RxRecord} {r : RxRecord}
    {fate : RecordFate} (h : fate.Justified context fetched r) (records : List RxRecord) :
    fate.Justified context (fetched ++ records) r := by
  cases fate with
  | handed => exact h
  | skipped => exact h
  | lost batch => exact ⟨h.1, h.2.1.trans (List.infix_append' [] fetched records), h.2.2⟩

namespace RecordLine

variable {context : LgwContext} {line : RecordLine}

theorem Books.fetch (h : line.Books context) (records : List RxRecord) :
    (line.fetch records).Books context := by
  unfold RecordLine.fetch
  split_ifs with hpending
  · refine ⟨?_, fun entry hentry => (h.justified entry hentry).mono records⟩
    have hfetched := h.fetched
    rw [hpending, List.append_nil] at hfetched
    exact congrArg (· ++ records) hfetched
  · exact h

/-- A batch is part of what has been fetched. -/
theorem Books.batch_infix (h : line.Books context) (n : ℕ) :
    line.pending.take n <:+: line.fetched := by
  rw [h.fetched]
  exact (List.take_prefix n _).isInfix.trans (List.suffix_append _ _).isInfix

theorem Books.receive (h : line.Books context) (maxPkt : ℕ) :
    (line.receive context maxPkt).Books context := by
  rcases line.receive_cases context maxPkt with ⟨hparses, hline⟩
    | ⟨before, bad, rest, hpending, hroom, hbefore, hbad, hline⟩
  · rw [hline]
    refine ⟨?_, fun entry hentry => ?_⟩
    · show line.fetched = (line.gone ++ _).map Prod.fst ++ line.pending.drop maxPkt
      rw [List.map_append, List.map_map, List.append_assoc]
      have hbatch : (line.pending.take maxPkt).map (Prod.fst ∘ fun r =>
          (r, if r.Forwarded context then RecordFate.handed else .skipped))
          = line.pending.take maxPkt := List.map_id _
      rw [hbatch, List.take_append_drop]
      exact h.fetched
    · rcases List.mem_append.mp hentry with hentry | hentry
      · exact h.justified entry hentry
      · obtain ⟨r, hr, rfl⟩ := List.mem_map.mp hentry
        dsimp only
        split_ifs with hforwarded
        · exact ⟨hparses r hr, hforwarded⟩
        · exact ⟨hparses r hr, hforwarded⟩
  · -- the record that does not parse is in the batch, and so are those before it
    have hbatch : before ++ [bad] <+: line.pending.take maxPkt := by
      refine List.prefix_take_iff.mpr ⟨⟨rest, ?_⟩, ?_⟩
      · rw [hpending, List.append_assoc, List.singleton_append]
      · rw [List.length_append, List.length_singleton]
        exact hroom
    -- what is lost and what still waits is what waited
    have hlost : (if metadataInRange bad.packet then before ++ [bad] else before)
        ++ (if metadataInRange bad.packet then rest else bad :: rest) = line.pending := by
      rw [hpending]
      split_ifs
      · rw [List.append_assoc, List.singleton_append]
      · rfl
    rw [hline]
    refine ⟨?_, fun entry hentry => ?_⟩
    · show line.fetched = (line.gone ++ _).map Prod.fst ++ _
      rw [List.map_append, List.map_map, List.append_assoc]
      refine h.fetched.trans (congrArg (line.gone.map Prod.fst ++ ·) ?_)
      rw [← hlost]
      exact congrArg (· ++ _) (List.map_id _).symm
    · rcases List.mem_append.mp hentry with hentry | hentry
      · exact h.justified entry hentry
      · obtain ⟨r, hr, rfl⟩ := List.mem_map.mp hentry
        have hr' : r ∈ before ++ [bad] := by
          split_ifs at hr
          · exact hr
          · exact List.mem_append_left [bad] hr
        exact ⟨hbatch.subset hr', h.batch_infix maxPkt, bad,
          hbatch.subset (List.mem_append_right before (List.mem_singleton_self bad)), hbad⟩

/-- The step lemma. -/
theorem Books.step {F : Type*} (h : line.Books context) (e : UplinkPathEvent F) :
    (line.step context e).Books context := by
  unfold RecordLine.step
  split_ifs
  · exact h
  · cases e with
    | up it =>
      show (line.up context it).Books context
      unfold RecordLine.up
      split_ifs
      · exact h
      · exact ⟨h.fetched, h.justified⟩
      · exact (h.fetch it.records).receive it.call.maxPkt.toNat
    | handOver signal => exact ⟨h.fetched, h.justified⟩
    | registerRxCallback cb => exact h
    | popUplinkPacket => exact h

theorem books_final {F : Type*} (context : LgwContext) (events : List (UplinkPathEvent F)) :
    (Run.final (step context) init events).Books context :=
  Run.invariant (fun _ e h => h.step e) events ⟨rfl, fun _ h => absurd h List.not_mem_nil⟩

/-- The records gone are those whose packets have been handed over, if none is lost. -/
theorem Books.handed_eq (h : line.Books context)
    (hparses : ∀ r ∈ line.fetched, r.Parses context) :
    line.handed = (line.gone.map Prod.fst).filter (RxRecord.Forwarded context ·) := by
  rw [handed, ← List.filterMap_eq_filter, List.filterMap_map]
  refine List.filterMap_congr fun entry hentry => ?_
  have hjustified := h.justified entry hentry
  obtain ⟨r, fate⟩ := entry
  show handedOf (r, fate) = Option.guard _ r
  cases fate with
  | handed =>
    rw [Option.guard, if_pos (decide_eq_true hjustified.2)]
    rfl
  | skipped =>
    rw [Option.guard, if_neg (by simpa using hjustified.2)]
    rfl
  | lost batch =>
    obtain ⟨-, hbatch, bad, hbad, hnot⟩ := hjustified
    exact absurd (hparses bad (hbatch.subset hbad)) hnot

end RecordLine

/-- **What is heard reaches the ducks**: the packets handed over are, in order, those that have
left the queue of the bridge, those in it and those the thread has in hand; they only leave the
queue by being popped, or as the oldest of 50. If every record parses, the packets handed over are
all those with a payload and a coding rate of the records that no longer wait. -/
structure UplinkPath.Delivers {F : Type*} (context : LgwContext) (path : UplinkPath F)
    (line : RecordLine) : Prop where
  waits : path.rx.Waits line.pending
  delivered : line.handed.map (RxRecord.heard context)
    = path.bridge.departed.map (fun departure => departure.packet.heard)
      ++ path.bridge.bridge.uplinkQueue.map UplinkPacket.heard ++ path.inHand.map Uplink.heard
  bounded : path.bridge.bridge.uplinkQueue.length ≤ maxQueueSize
  dropped : ∀ pkt queue, Departure.dropped pkt queue ∈ path.bridge.departed →
    queue.length = maxQueueSize ∧ queue.head? = some pkt
  complete : (∀ r ∈ line.fetched, r.Parses context) →
    line.handed ++ line.pending.filter (RxRecord.Forwarded context ·)
      = line.fetched.filter (RxRecord.Forwarded context ·)

/-- **From the concentrator to the mesh**: in every run of the upstream thread and the ducks whose
iterations find records, each record waits or has met its fate, and what is handed over reaches the
ducks. -/
theorem uplinkPath_delivers {F : Type*} (context : LgwContext) (events : List (UplinkPathEvent F))
    (hsound : ∀ e ∈ events, ∀ it, e = .up it → it.Sound context) :
    (Run.final (RecordLine.step context) RecordLine.init events).Books context
      ∧ (Run.final UplinkPath.step UplinkPath.init events).Delivers context
        (Run.final (RecordLine.step context) RecordLine.init events) := by
  have hbooks := RecordLine.books_final context events
  have hrefines := UplinkPath.refines_final events hsound
  refine ⟨hbooks, hrefines.waits, ?_, hrefines.faithful.bounded, hrefines.faithful.dropped,
    fun hparses => ?_⟩
  · have hinHand : ∀ {rs : List RxRecord} {us : List Uplink},
        List.Forall₂ (HandedAs context) rs us →
          rs.map (RxRecord.heard context) = us.map Uplink.heard := by
      intro rs us h
      induction h with
      | nil => rfl
      | cons hand _ ih => rw [List.map_cons, List.map_cons, ih, hand.heard]
    rw [← hrefines.arrived, hrefines.faithful.fifo, List.map_append, List.map_map,
      hinHand hrefines.inHand]
    rfl
  · rw [hbooks.handed_eq hparses, ← List.filter_append, ← hbooks.fetched]

/-- Four records: one with a byte, which the modem says is wrong, an empty one, another
with a byte, and one whose CRC is not the one received. -/
def fourRecords : List RxRecord :=
  [byteRecord 0 true, emptyRecord 1, byteRecord 2 true, byteRecord 3 false]

/-- An iteration with room for two packets. -/
def iterationOf (records : List RxRecord) : UpIteration where
  call := plainCall 2 (records.flatMap RxRecord.encode)
  gap := []
  records := records

theorem sound_iterationOf {records : List RxRecord}
    (hfits : (records.flatMap RxRecord.encode).length ≤ rxBufferSize) :
    (iterationOf records).Sound (plainCall 2 []).context := by
  have hnb : (iterationOf records).call.fifo.nbBytes.toNat
      = (records.flatMap RxRecord.encode).length := by
    have hreads : (iterationOf records).call.fifo.nbBytes
        = UInt16.ofNat (records.flatMap RxRecord.encode).length := ite_self _
    rw [hreads, UInt16.toNat_ofNat']
    exact Nat.mod_eq_of_lt (by change _ ≤ 4096 at hfits; omega)
  exact ⟨rfl, rfl, show ¬ _ <:+: ([] : List UInt8) by decide, hnb.trans_le hfits, Or.inr ⟨rfl, hnb⟩⟩

/-- The first is read by a duck, the second is skipped, the third is lost with the fourth. -/
theorem uplinkPath_delivers_four :
    let events := [.up (iterationOf fourRecords), .handOver (0, ()), .up (iterationOf []),
      .popUplinkPacket]
    let line := Run.final (RecordLine.step (plainCall 2 []).context) RecordLine.init events
    let path := Run.final UplinkPath.step UplinkPath.init events
    path.bridge.departed.map (fun departure => departure.packet.payload) = [[0x2A]]
      ∧ line.handed.length = 1 ∧ line.gone.length = 4
      ∧ line.Books (plainCall 2 []).context ∧ path.Delivers (plainCall 2 []).context line := by
  have hsound : ∀ e ∈ [UplinkPathEvent.up (iterationOf fourRecords), .handOver (0, ()),
      .up (iterationOf []), .popUplinkPacket], ∀ it, e = .up it →
        it.Sound (plainCall 2 []).context := by
    rintro e he it rfl
    simp only [List.mem_cons, UplinkPathEvent.up.injEq, reduceCtorEq, List.not_mem_nil,
      or_false] at he
    rcases he with rfl | hnone | rfl
    · exact sound_iterationOf (by decide +kernel)
    · exact absurd hnone id
    · exact sound_iterationOf (by decide +kernel)
  exact ⟨by decide +kernel, by decide +kernel, by decide +kernel,
    uplinkPath_delivers (plainCall 2 []).context _ hsound⟩
