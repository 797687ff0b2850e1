import MeshBeacon.Downlink
import MeshBeacon.JitAccept

/-!
# A downlink in the outer and in the inner loop

The downstream thread takes a frame from the bridge in its outer loop or in its
inner loop, as it happens. What follows was written twice. The outer loop
checks the frequency and the power of the packet and enqueues it with the
concentrator time it has; that is the time read for whatever was enqueued
before. The inner loop reads the time and enqueues the packet.

The packets built differ too (`outerTxpkt`, `innerTxpkt`). The frequency and
the RF chain can come out alike, and `sameRadio_iff` says when; the preamble
never does. The outer loop leaves it at the zero `memset` wrote, and the inner
loop asks for 8 symbols.
-/

open Hal

/-! ## The transmit gain table -/

/-- What is configured of an RF chain for transmissions: its frequency range, and
the powers in its gain table. -/
structure TxChain where
  txFreqMin : UInt32
  txFreqMax : UInt32
  /-- `rf_power` of the entries of the table. -/
  lut : List Int8
  /-- The number of entries configured. -/
  size : UInt8

/-- The power of an entry of the gain table. -/
def TxChain.rfPower (c : TxChain) (i : ℕ) : Int8 := c.lut[i]?.getD 0

/-- One turn of the search: `best` is the index of the closest power so far that
is not above the requested one, with the difference. -/
def closestPower (c : TxChain) (rfPower : Int8) (best : Option (ℕ × ℤ)) (powIndex : ℕ) :
    Option (ℕ × ℤ) :=
  let diff := rfPower.toInt - (c.rfPower powIndex).toInt
  if diff < 0 then best
  else match best with
    | none => some (powIndex, diff)
    | some (index, bestMatch) => if diff < bestMatch then some (powIndex, diff)
      else some (index, bestMatch)

/-- `get_tx_gain_lut_index`: the code returned and the index. -/
def getTxGainLutIndex (c : TxChain) (rfPower : Int8) : ℤ × UInt8 :=
  match (List.range c.size.toNat).foldl (closestPower c rfPower) none with
  | some (index, _) => (0, UInt8.ofNat index)
  | none => (-1, 0)

/-! ## Handling a downlink -/

/-- The variables the handling of a downlink reads and writes. -/
structure DownState where
  td : ThreadDown
  /-- The concentrator time last read. -/
  currentConcentratorTime : UInt32
  /-- The queue of each RF chain. -/
  jitQueue : ℕ → JitQueue
  measNbTxRequested : UInt32

/-- The checks a packet may be put to before it is enqueued. -/
inductive TxCheck where
  | frequency
  | power
deriving DecidableEq

/-- What `jit_result` holds in the end: what the queue returned, or one of the
errors of the checks. -/
inductive DownResult where
  | jit (e : JitError)
  | txFreq
  | txPower
deriving DecidableEq

/-- A call of `jit_enqueue`. -/
structure JitCall where
  rfChain : UInt8
  timeUs : UInt32
  /-- The time was read after the downlink was popped. -/
  readSincePop : Bool
  packet : LgwPktTx
  /-- The packet was accepted. -/
  accepted : Bool

/-- What was done about a downlink. -/
structure Handling where
  /-- The packet as it was built. -/
  txpkt : LgwPktTx
  /-- The checks made, in order. -/
  checks : List TxCheck
  /-- The call of `jit_enqueue`, if the packet got there. -/
  call : Option JitCall
  result : DownResult

/-- The downlink is accepted: it was passed to the queue, which took it. -/
def Handling.accepted (h : Handling) : Bool := h.call.any JitCall.accepted

section Handle

variable (chain : ℕ → TxChain) (qs : Qsort JitNode) (toa : LgwPktTx → UInt32)

/-- The packet enqueued on an RF chain, at a time: the code returned, and the
variables with the queue after it. -/
def DownState.enqueue (st : DownState) (timeUs : UInt32) (txpkt : LgwPktTx) :
    JitError × DownState :=
  let i := txpkt.rfChain.toNat
  let (err, q, _) := jitEnqueue qs toa (st.jitQueue i) timeUs txpkt .downlinkClassC
  (err, { st with jitQueue := Function.update st.jitQueue i q })

/-- The block of the outer loop, from the check of the frequency on. -/
def outerHandle (st : DownState) (txpkt : LgwPktTx) : DownState × Handling :=
  let c := chain txpkt.rfChain.toNat
  if txpkt.freqHz < c.txFreqMin ∨ c.txFreqMax < txpkt.freqHz then
    (st, ⟨txpkt, [.frequency], none, .txFreq⟩)
  else
    let (i, txLutIdx) := getTxGainLutIndex c txpkt.rfPower
    let supported := c.rfPower txLutIdx.toNat
    let warning := i < 0 ∨ supported ≠ txpkt.rfPower
    let sent := if warning then { txpkt with rfPower := supported } else txpkt
    let (err, st') := st.enqueue qs toa st.currentConcentratorTime sent
    ({ st' with measNbTxRequested := st'.measNbTxRequested + 1 },
      { txpkt := txpkt
        checks := [.frequency, .power]
        call := some ⟨sent.rfChain, st.currentConcentratorTime, false, sent, err = .ok⟩
        result := if err = .ok ∧ warning then .txPower else .jit err })

/-- The block of the inner loop, from the reading of the time on. -/
def innerHandle (instcnt : UInt32) (st : DownState) (txpkt : LgwPktTx) : DownState × Handling :=
  let (err, st') := { st with currentConcentratorTime := instcnt }.enqueue qs toa instcnt txpkt
  ({ st' with
      measNbTxRequested := if err = .ok then st'.measNbTxRequested + 1 else st'.measNbTxRequested },
    { txpkt := txpkt
      checks := []
      call := some ⟨txpkt.rfChain, instcnt, true, txpkt, err = .ok⟩
      result := .jit err })

/-- `thread_down`, handling what it may find in the bridge in one of its loops.
The counter of the concentrator reads `instcnt` after a pop. -/
def DownlinkLoop.handle (instcnt : UInt32) (loop : DownlinkLoop) (st : DownState)
    (queue : List DownlinkPacket) : DownState × List DownlinkPacket × Option Handling :=
  let (td, queue, txpkt) := pollDownlink loop st.td queue
  let st := { st with td := td }
  match txpkt, loop with
  | none, _ => (st, queue, none)
  | some txpkt, .outer =>
    let (st, handling) := outerHandle chain qs toa st txpkt
    (st, queue, some handling)
  | some txpkt, .inner =>
    let (st, handling) := innerHandle qs toa instcnt st txpkt
    (st, queue, some handling)

end Handle

/-- **Two handlings agree**: the same packet is built, the time passed on was read
after the pop, the same checks are made, and the packet is accepted in both or in
neither. -/
structure Handling.Agree (outer inner : Handling) : Prop where
  txpkt : outer.txpkt = inner.txpkt
  fresh : (∀ c ∈ outer.call, c.readSincePop) ∧ ∀ c ∈ inner.call, c.readSincePop
  checks : outer.checks = inner.checks
  accepted : outer.accepted = inner.accepted

/-! ## Where the two differ -/

/-- **The packets built, but for the preamble,** are the same exactly when no
other frequency was asked for and RF chain 0, or none there is, was. -/
theorem sameRadio_iff (dl : DownlinkInfo) (payload : List UInt8) (size : UInt16) :
    { outerTxpkt dl payload size with preamble := 8 } = innerTxpkt dl payload size
      ↔ (dl.freqHz = 0 ∨ dl.freqHz = cdpcfgRfLoraFreqHz)
        ∧ (dl.rfChain = 0 ∨ rfChainNb ≤ dl.rfChain.toNat) := by
  have hfreq : cdpcfgRfLoraFreqHz = (if 0 < dl.freqHz then dl.freqHz else cdpcfgRfLoraFreqHz)
      ↔ dl.freqHz = 0 ∨ dl.freqHz = cdpcfgRfLoraFreqHz := by
    by_cases h0 : dl.freqHz = 0
    · rw [h0]
      exact iff_of_true rfl (Or.inl rfl)
    · rw [if_pos (UInt32.pos_iff_ne_zero.mpr h0)]
      exact ⟨fun h => Or.inr h.symm, fun h => (h.resolve_left h0).symm⟩
  have hchain : (if dl.rfChain.toNat < rfChainNb then dl.rfChain else 0) = 0
      ↔ dl.rfChain = 0 ∨ rfChainNb ≤ dl.rfChain.toNat := by
    by_cases hlt : dl.rfChain.toNat < rfChainNb
    · rw [if_pos hlt]
      exact ⟨Or.inl, fun h => h.resolve_right (not_le_of_gt hlt)⟩
    · rw [if_neg hlt]
      exact iff_of_true rfl (Or.inr (not_lt.mp hlt))
  constructor
  · intro h
    exact ⟨hfreq.mp (congrArg LgwPktTx.freqHz h), hchain.mp (congrArg LgwPktTx.rfChain h)⟩
  · rintro ⟨hf, hc⟩
    unfold outerTxpkt innerTxpkt
    rw [hchain.mpr hc, ← hfreq.mpr hf]
    rfl

/-- What the two loops build of what they find. -/
theorem pollDownlink_txpkt (td : ThreadDown) (queue : List DownlinkPacket) :
    (∀ loop, (pollDownlink loop td queue).2.2 = none)
      ∨ ∃ dl payload size, ∀ loop : DownlinkLoop,
        (pollDownlink loop td queue).2.2 = some (loop.txpkt dl payload size) := by
  unfold pollDownlink
  dsimp only
  split_ifs with h
  · exact Or.inr ⟨_, _, _, fun _ => rfl⟩
  · exact Or.inl fun _ => rfl

section Differ

variable {chain : ℕ → TxChain} {qs : Qsort JitNode} {toa : LgwPktTx → UInt32} {instcnt : UInt32}
  {st : DownState} {queue : List DownlinkPacket} {h : Handling}

/-- The outer loop checks the frequency, and the time it passes on is the one
read before. -/
theorem outerHandle_spec (chain : ℕ → TxChain) (qs : Qsort JitNode) (toa : LgwPktTx → UInt32)
    (st : DownState) (txpkt : LgwPktTx) :
    (outerHandle chain qs toa st txpkt).2.txpkt = txpkt
      ∧ .frequency ∈ (outerHandle chain qs toa st txpkt).2.checks
      ∧ ∀ c ∈ (outerHandle chain qs toa st txpkt).2.call,
        c.timeUs = st.currentConcentratorTime ∧ c.readSincePop = false := by
  unfold outerHandle
  by_cases hfreq : txpkt.freqHz < (chain txpkt.rfChain.toNat).txFreqMin
      ∨ (chain txpkt.rfChain.toNat).txFreqMax < txpkt.freqHz
  · rw [if_pos hfreq]
    exact ⟨rfl, List.mem_singleton.mpr rfl, fun c hc => absurd hc (Option.not_mem_none c)⟩
  · rw [if_neg hfreq]
    refine ⟨rfl, List.mem_cons_self, fun c hc => ?_⟩
    obtain rfl := Option.some_inj.mp hc
    exact ⟨rfl, rfl⟩

/-- The outer loop handles the packet it builds, and an empty bridge not at all. -/
theorem handle_outer_eq_some
    (hh : h ∈ (DownlinkLoop.outer.handle chain qs toa instcnt st queue).2.2) :
    ∃ td, ∃ p ∈ (pollDownlink .outer st.td queue).2.2,
      h = (outerHandle chain qs toa { st with td := td } p).2 := by
  unfold DownlinkLoop.handle at hh
  generalize pollDownlink .outer st.td queue = polled at hh ⊢
  obtain ⟨td, rest, txpkt⟩ := polled
  cases txpkt with
  | none => exact absurd hh (Option.not_mem_none h)
  | some p => exact ⟨td, p, rfl, (Option.some_inj.mp hh).symm⟩

/-- So does the inner loop; it makes no check and passes on the time it reads. -/
theorem handle_inner_eq_some
    (hh : h ∈ (DownlinkLoop.inner.handle chain qs toa instcnt st queue).2.2) :
    ∃ p ∈ (pollDownlink .inner st.td queue).2.2,
      h.txpkt = p ∧ h.checks = [] ∧ ∀ c ∈ h.call, c.timeUs = instcnt ∧ c.readSincePop = true := by
  unfold DownlinkLoop.handle at hh
  generalize pollDownlink .inner st.td queue = polled at hh ⊢
  obtain ⟨td, rest, txpkt⟩ := polled
  cases txpkt with
  | none => exact absurd hh (Option.not_mem_none h)
  | some p =>
    obtain rfl := Option.some_inj.mp hh
    refine ⟨p, rfl, rfl, rfl, fun c hc => ?_⟩
    obtain rfl := Option.some_inj.mp hc
    exact ⟨rfl, rfl⟩

end Differ

/-- **The two loops agree on no downlink.** Whatever was popped and whatever the
variables hold, the packets built differ in their preamble, only the outer loop
checks the frequency, and a time the outer loop passes on was read before the
pop. -/
theorem downlinkLoops_differ {chain : ℕ → TxChain} {qs : Qsort JitNode} {toa : LgwPktTx → UInt32}
    {instcnt : UInt32} {st : DownState} {queue : List DownlinkPacket} {o i : Handling}
    (ho : o ∈ (DownlinkLoop.outer.handle chain qs toa instcnt st queue).2.2)
    (hi : i ∈ (DownlinkLoop.inner.handle chain qs toa instcnt st queue).2.2) :
    o.txpkt.preamble ≠ i.txpkt.preamble ∧ o.checks ≠ i.checks
      ∧ ∀ c ∈ o.call, c.timeUs = st.currentConcentratorTime ∧ c.readSincePop = false := by
  obtain ⟨td, p, hp, rfl⟩ := handle_outer_eq_some ho
  obtain ⟨p', hp', hpkt, hchecks, -⟩ := handle_inner_eq_some hi
  obtain ⟨htxpkt, hfreq, hcall⟩ := outerHandle_spec chain qs toa { st with td := td } p
  refine ⟨?_, ?_, hcall⟩
  · rcases pollDownlink_txpkt st.td queue with hnone | ⟨dl, payload, size, hsome⟩
    · rw [hnone] at hp
      exact absurd hp (Option.not_mem_none p)
    · have hO : outerTxpkt dl payload size = p := by
        rw [hsome] at hp
        exact Option.some_inj.mp hp
      have hI : innerTxpkt dl payload size = p' := by
        rw [hsome] at hp'
        exact Option.some_inj.mp hp'
      rw [htxpkt, hpkt, ← hO, ← hI]
      show (0 : UInt16) ≠ 8
      decide
  · rw [hchecks]
    exact List.ne_nil_of_mem hfreq

/-- **No downlink is handled alike in the two loops.** -/
theorem downlinkLoops_not_agree (chain : ℕ → TxChain) (qs : Qsort JitNode)
    (toa : LgwPktTx → UInt32) (instcnt : UInt32) (st : DownState) (queue : List DownlinkPacket)
    (o i : Handling) (ho : o ∈ (DownlinkLoop.outer.handle chain qs toa instcnt st queue).2.2)
    (hi : i ∈ (DownlinkLoop.inner.handle chain qs toa instcnt st queue).2.2) : ¬ o.Agree i := by
  intro hagree
  exact (downlinkLoops_differ ho hi).1 (congrArg LgwPktTx.preamble hagree.txpkt)

/-- One entry of 14 dBm in the gain table, from 915 to 928 MHz. -/
def bandChain : TxChain := ⟨915000000, 928000000, [14], 1⟩

/-- The thread has just started, on a buffer of zeros, and the concentrator time
reads zero. -/
def startedDown : DownState :=
  ⟨ThreadDown.init (List.replicate 256 0), 0, fun _ => jitQueueInit, 0⟩

/-- A frame of one byte, to be answered on another frequency. -/
def replyOnFreq : DownlinkPacket := ⟨[0x2A], { DownlinkInfo.none with freqHz := 916800000 }⟩

/-- What the two loops do with such a frame. -/
theorem downlinkLoops_not_agree_reply :
    ∃ o ∈ (DownlinkLoop.outer.handle (fun _ => bandChain) (Qsort.insertion JitNode)
        (fun _ => 50) 700000 startedDown [replyOnFreq]).2.2,
      ∃ i ∈ (DownlinkLoop.inner.handle (fun _ => bandChain) (Qsort.insertion JitNode)
        (fun _ => 50) 700000 startedDown [replyOnFreq]).2.2, ¬ o.Agree i :=
  ⟨_, rfl, _, rfl, downlinkLoops_not_agree (fun _ => bandChain) (Qsort.insertion JitNode)
    (fun _ => 50) 700000 startedDown [replyOnFreq] _ _ rfl rfl⟩

/-- **The claimed agreement fails** for that frame: the outer loop answers on the
default frequency, without a preamble. -/
theorem downlinkLoops_not_alike :
    ¬ ∀ (chain : ℕ → TxChain) (qs : Qsort JitNode) (toa : LgwPktTx → UInt32) (instcnt : UInt32)
      (st : DownState) (queue : List DownlinkPacket) (o i : Handling),
      o ∈ (DownlinkLoop.outer.handle chain qs toa instcnt st queue).2.2 →
        i ∈ (DownlinkLoop.inner.handle chain qs toa instcnt st queue).2.2 → o.Agree i := by
  intro h
  have hagree := h (fun _ => bandChain) (Qsort.insertion JitNode) (fun _ => 50) 700000
    startedDown [replyOnFreq] _ _ rfl rfl
  have hfreq : (922800000 : UInt32) = 916800000 := congrArg LgwPktTx.freqHz hagree.txpkt
  exact absurd hfreq (by decide)
