import MeshBeacon.Qsort
import MeshBeacon.Sx1302

/-!
# Receiving packets

`lgw_receive` refills the receive buffer when no packet is pending in it,
parses as many of the pending packets as the caller's array takes, and returns
their number. With fine timestamps enabled a packet may be demodulated twice,
and the batch is cleared of duplicates before it is returned.

One call is a function of the buffer and of its surroundings (`RxCall`): what
the concentrator would answer, the configuration, the array passed in.
-/

open Hal

/-! ## Duplicates -/

/-- `abs`, on the machine's integers. C leaves it undefined of the least one; it is `absMin`
here. -/
def absInt (absMin : Int32) (d : Int32) : Int32 :=
  if d = Int32.minValue then absMin else if d < 0 then -d else d

/-- `is_same_pkt`. -/
def isSamePkt (absMin : Int32) (p1 p2 : LgwPktRx) : Bool :=
  absInt absMin (p1.countUs - p2.countUs).toInt32 ≤ 24
    && p1.ifChain = p2.ifChain && p1.datarate = p2.datarate && p1.size = p2.size
    && p1.payload.take p1.size.toNat = p2.payload.take p1.size.toNat

/-- The entry at an index of an array of packets. -/
def pktAt (p : List LgwPktRx) (i : ℕ) : LgwPktRx := (p[i]?).getD LgwPktRx.zero

/-- Of two duplicates, the one to delete: the one whose CRC is bad when the
other's is right, otherwise the second when the first has a fine
timestamp. -/
def pktDupIdx (p : List LgwPktRx) (j k : ℕ) : ℕ :=
  if (pktAt p j).status = statCrcOk ∧ (pktAt p k).status = statCrcBad then k
  else if (pktAt p j).status = statCrcBad ∧ (pktAt p k).status = statCrcOk then j
  else if (pktAt p j).ftimeReceived then k else j

/-- `remove_pkt`: the last packet is moved over the removed one. -/
def removePkt (p : List LgwPktRx) (i : ℕ) : List LgwPktRx :=
  if i = p.length - 1 then p.dropLast else (p.set i (pktAt p (p.length - 1))).dropLast

@[simp] theorem length_removePkt (p : List LgwPktRx) (i : ℕ) :
    (removePkt p i).length = p.length - 1 := by
  unfold removePkt
  split_ifs
  · rw [List.length_dropLast]
  · rw [List.length_dropLast, List.length_set]

/-- The search for duplicates of `merge_packets`: the first later packet that is
the same as the `j`-th decides which one goes, and the search starts over. -/
def mergeLoop (absMin : Int32) (p : List LgwPktRx) (j : ℕ) : List LgwPktRx :=
  if j < p.length then
    match (List.range' (j + 1) (p.length - (j + 1))).find?
        (fun k => isSamePkt absMin (pktAt p j) (pktAt p k)) with
    | some k => mergeLoop absMin (removePkt p (pktDupIdx p j k)) 0
    | none => mergeLoop absMin p (j + 1)
  else p
termination_by (p.length, p.length - j)
decreasing_by
  · rw [length_removePkt]
    exact Prod.Lex.left _ _ (by omega)
  · exact Prod.Lex.right _ (by omega)

/-- `compare_pkt_tmst`. -/
def comparePktTmst (p q : LgwPktRx) : ℤ := (p.countUs.toInt32 - q.countUs.toInt32).toInt

/-- `merge_packets`. -/
def mergePackets (absMin : Int32) (qs : Qsort LgwPktRx) (p : List LgwPktRx) :
    List LgwPktRx :=
  qs.sort comparePktTmst (mergeLoop absMin p 0)

/-! ## One call -/

/-- What one call of `lgw_receive` is made with. -/
structure RxCall where
  /-- Number of packets the caller's array takes. -/
  maxPkt : UInt8
  /-- The caller's array. -/
  pktData : ℕ → LgwPktRx
  /-- What the concentrator answers if it is asked. -/
  fifo : Fifo
  /-- What lies in memory behind the receive buffer. -/
  past : ℕ → UInt8
  context : LgwContext
  calcs : RxCalc
  /-- The counter, as updated before parsing. -/
  counter : TimestampCounter
  fineTimestamp : Bool
  /-- What `abs` makes of the least integer. -/
  absMin : Int32
  qsort : Qsort LgwPktRx

/-- `sx1302_parse` into an entry of the caller's array. -/
def RxCall.parse (call : RxCall) (i : ℕ) (rx : RxBuffer) : RegStatus × RxBuffer × Option LgwPktRx :=
  sx1302Parse call.past call.context call.calcs call.counter (call.pktData i) rx

/-- `sx1302_fetch`: the buffer is refilled only when no packet is pending. -/
def sx1302Fetch (past : ℕ → UInt8) (fifo : Fifo) (rx : RxBuffer) : RegStatus × RxBuffer :=
  if rx.bufferPktNb = 0 then rxBufferFetch past fifo rxBufferNew else (.success, rx)

/-- What the loop of `lgw_receive` comes to. -/
structure RxBatch where
  /-- The status of the last packet parsed. -/
  status : RegStatus
  rx : RxBuffer
  parsed : List LgwPktRx

/-- The loop of `lgw_receive`: at most `n` packets are parsed, into the entries
from `found` on, up to the first that fails. -/
def receiveLoop (call : RxCall) : ℕ → ℕ → RxBuffer → RxBatch
  | 0, _, rx => ⟨.success, rx, []⟩
  | n + 1, found, rx =>
    match call.parse found rx with
    | (.success, rx, p) =>
      let batch := receiveLoop call n (found + 1) rx
      { batch with parsed := p.toList ++ batch.parsed }
    | (status, rx, _) => ⟨status, rx, []⟩

/-- A packet that parses is followed by the others. -/
theorem receiveLoop_success {call : RxCall} {found : ℕ} {rx : RxBuffer}
    (h : (call.parse found rx).1 = .success) (n : ℕ) :
    receiveLoop call (n + 1) found rx
      = { receiveLoop call n (found + 1) (call.parse found rx).2.1 with
          parsed := (call.parse found rx).2.2.toList
            ++ (receiveLoop call n (found + 1) (call.parse found rx).2.1).parsed } := by
  rw [receiveLoop]
  split
  · rename_i heq
    rw [heq]
  · rename_i hne heq
    rw [heq] at h
    exact absurd h hne

theorem receiveLoop_failure {call : RxCall} {found : ℕ} {rx : RxBuffer}
    (h : (call.parse found rx).1 ≠ .success) (n : ℕ) :
    receiveLoop call (n + 1) found rx
      = ⟨(call.parse found rx).1, (call.parse found rx).2.1, []⟩ := by
  rw [receiveLoop]
  split
  · rename_i heq
    rw [heq] at h
    exact absurd rfl h
  · rename_i heq
    rw [heq]

/-- The packets a call parses: as many as are pending and fit the caller's
array, up to the first that fails. -/
def RxCall.batch (call : RxCall) (rx : RxBuffer) : RxBatch :=
  receiveLoop call (min rx.bufferPktNb.toNat call.maxPkt.toNat) 0 rx

/-- What `lgw_receive` hands to its caller. -/
structure RxResult where
  /-- The value returned: the number of packets, or -1. -/
  ret : ℤ
  rx : RxBuffer
  /-- The packets counted in the value. -/
  pkts : List LgwPktRx

/-- The end of `lgw_receive`: what is returned of the packets parsed. -/
def RxCall.deliver (call : RxCall) (parsed : List LgwPktRx) : List LgwPktRx :=
  if parsed ≠ [] ∧ call.fineTimestamp then mergePackets call.absMin call.qsort parsed
  else parsed

/-- `lgw_receive`. A warning clears what was parsed and returns 0, an error
returns -1. -/
def lgwReceive (call : RxCall) (rx : RxBuffer) : RxResult :=
  match sx1302Fetch call.past call.fifo rx with
  | (.success, rx) =>
    if rx.bufferPktNb = 0 then ⟨0, rx, []⟩
    else
      let batch := call.batch rx
      match batch.status with
      | .warning => ⟨0, batch.rx, []⟩
      | .error => ⟨-1, batch.rx, []⟩
      | .success =>
        let pkts := call.deliver batch.parsed
        ⟨pkts.length, batch.rx, pkts⟩
  | (_, rx) => ⟨-1, rx, []⟩
