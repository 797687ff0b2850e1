import MeshBeacon.ReceiveLoss

/-!
# The upstream thread

The packets of a batch that have a payload and a coding rate go to the bridge,
one call of `cdp_bridge_handle_uplink` each. The configuration says of each
CRC status whether packets of that status are to be forwarded; the loop does
not look at the status.
-/

open Hal

/-- The packet filtering parameters of the configuration. -/
structure FwdConf where
  fwdValidPkt : Bool
  fwdErrorPkt : Bool
  fwdNocrcPkt : Bool

/-- What holds when the configuration says nothing. -/
def FwdConf.default : FwdConf := ⟨true, false, false⟩

/-- `parse_gateway_configuration`, the packet filtering parameters. A key whose
value is not a Boolean leaves what holds by default. -/
def parseGatewayConfiguration (getBoolean : String → Option Bool) : FwdConf where
  fwdValidPkt := (getBoolean "forward_crc_valid").getD FwdConf.default.fwdValidPkt
  fwdErrorPkt := (getBoolean "forward_crc_error").getD FwdConf.default.fwdErrorPkt
  fwdNocrcPkt := (getBoolean "forward_crc_disabled").getD FwdConf.default.fwdNocrcPkt

/-- **Is the status enabled** by the corresponding flag? -/
def FwdConf.enabled (conf : FwdConf) (status : UInt8) : Bool :=
  if status = statCrcOk then conf.fwdValidPkt
  else if status = statCrcBad then conf.fwdErrorPkt
  else if status = statNoCrc then conf.fwdNocrcPkt
  else false

/-- The arguments of `cdp_bridge_handle_uplink`, but for the signal
strengths. -/
structure Uplink where
  payload : List UInt8
  size : UInt16
  freqHz : UInt32
  tmst : UInt32
  /-- The chain the packet was received by. -/
  rfChain : UInt8
  bandwidthHz : UInt32
  datarateSf : UInt8
  coderate : UInt8
deriving DecidableEq

/-- The arguments a packet is handed over with. -/
def Uplink.ofPkt (p : LgwPktRx) : Uplink where
  payload := p.payload
  size := p.size
  freqHz := p.freqHz
  tmst := p.countUs
  rfChain := p.ifChain
  bandwidthHz := p.bandwidth.toUInt32
  datarateSf := p.datarate.toUInt8
  coderate := p.coderate

/-- The packet loop of `thread_up`. -/
def processPackets : List LgwPktRx → List Uplink
  | [] => []
  | p :: ps =>
    if p.size = 0 ∨ 255 < p.size then processPackets ps
    else if p.coderate = 0 ∨ crLora48 < p.coderate then processPackets ps
    else Uplink.ofPkt p :: processPackets ps

/-- One iteration of `thread_up`: what goes to the bridge. -/
def threadUp (call : RxCall) (rx : RxBuffer) : List Uplink :=
  let result := lgwReceive call rx
  if result.ret = -1 then [] else processPackets result.pkts

/-- A packet has between 1 and 255 bytes and a coding rate there is. -/
def LgwPktRx.wellFormed (p : LgwPktRx) : Bool :=
  1 ≤ p.size && p.size ≤ 255 && 1 ≤ p.coderate && p.coderate ≤ crLora48

/-- What the configuration asks for: of the well-formed packets, those with an
enabled status. -/
def FwdConf.forwarded (conf : FwdConf) (ps : List LgwPktRx) : List Uplink :=
  (ps.filter (fun p => p.wellFormed && conf.enabled p.status)).map Uplink.ofPkt

/-- The loop hands over every well-formed packet. -/
theorem processPackets_eq (ps : List LgwPktRx) :
    processPackets ps = (ps.filter LgwPktRx.wellFormed).map Uplink.ofPkt := by
  induction ps with
  | nil => rfl
  | cons p ps ih =>
    rw [processPackets, ih]
    have hsize : (p.size = 0 ∨ 255 < p.size) ↔ ¬ (1 ≤ p.size ∧ p.size ≤ 255) := by
      rw [← UInt16.toNat_inj, UInt16.lt_iff_toNat_lt, UInt16.le_iff_toNat_le,
        UInt16.le_iff_toNat_le]
      show p.size.toNat = 0 ∨ 255 < p.size.toNat ↔ ¬ (1 ≤ p.size.toNat ∧ p.size.toNat ≤ 255)
      omega
    have hcr : (p.coderate = 0 ∨ crLora48 < p.coderate)
        ↔ ¬ (1 ≤ p.coderate ∧ p.coderate ≤ crLora48) := by
      rw [← UInt8.toNat_inj, UInt8.lt_iff_toNat_lt, UInt8.le_iff_toNat_le, UInt8.le_iff_toNat_le]
      show p.coderate.toNat = 0 ∨ 4 < p.coderate.toNat
        ↔ ¬ (1 ≤ p.coderate.toNat ∧ p.coderate.toNat ≤ 4)
      omega
    have hwell : p.wellFormed = true
        ↔ (1 ≤ p.size ∧ p.size ≤ 255) ∧ 1 ≤ p.coderate ∧ p.coderate ≤ crLora48 := by
      rw [LgwPktRx.wellFormed, Bool.and_eq_true, Bool.and_eq_true, Bool.and_eq_true,
        decide_eq_true_iff, decide_eq_true_iff, decide_eq_true_iff, decide_eq_true_iff, and_assoc]
    by_cases hs : p.size = 0 ∨ 255 < p.size
    · rw [if_pos hs, List.filter_cons_of_neg (fun h => hsize.mp hs (hwell.mp h).1)]
    · by_cases hc : p.coderate = 0 ∨ crLora48 < p.coderate
      · rw [if_neg hs, if_pos hc, List.filter_cons_of_neg (fun h => hcr.mp hc (hwell.mp h).2)]
      · have hp : p.wellFormed = true :=
          hwell.mpr ⟨not_not.mp fun h => hs (hsize.mpr h), not_not.mp fun h => hc (hcr.mpr h)⟩
        rw [if_neg hs, if_neg hc, List.filter_cons_of_pos hp, List.map_cons]

/-- Filtering further by the status changes nothing exactly when every
well-formed packet has an enabled status. -/
theorem processPackets_eq_forwarded_iff (conf : FwdConf) (ps : List LgwPktRx) :
    processPackets ps = conf.forwarded ps
      ↔ ∀ p ∈ ps, p.wellFormed → conf.enabled p.status := by
  have hsplit : ps.filter (fun p => p.wellFormed && conf.enabled p.status)
      = (ps.filter LgwPktRx.wellFormed).filter (fun p => conf.enabled p.status) := by
    rw [List.filter_filter]
    exact congrArg (fun f => List.filter f ps) (funext fun p => Bool.and_comm _ _)
  rw [processPackets_eq, FwdConf.forwarded, hsplit]
  constructor
  · intro heq p hp hwell
    have hlen := congrArg List.length heq
    rw [List.length_map, List.length_map] at hlen
    exact List.length_filter_eq_length_iff.mp hlen.symm p (List.mem_filter.mpr ⟨hp, hwell⟩)
  · intro h
    rw [List.filter_eq_self.mpr fun p hp => h p (List.mem_filter.mp hp).1 (List.mem_filter.mp hp).2]

/-! ## The statuses in a batch -/

/-- What the search for duplicates leaves was there before. -/
theorem removePkt_subset {p : List LgwPktRx} (hp : p ≠ []) (i : ℕ) : removePkt p i ⊆ p := by
  unfold removePkt
  split_ifs with hi
  · exact List.dropLast_subset p
  · intro q hq
    rcases List.mem_or_eq_of_mem_set (List.dropLast_subset _ hq) with hq | rfl
    · exact hq
    · have hlt : p.length - 1 < p.length :=
        Nat.sub_lt (List.length_pos_of_ne_nil hp) Nat.one_pos
      rw [pktAt, List.getElem?_eq_getElem hlt]
      exact List.getElem_mem hlt

theorem mergeLoop_subset (absMin : Int32) (p : List LgwPktRx) (j : ℕ) :
    mergeLoop absMin p j ⊆ p := by
  induction p, j using mergeLoop.induct absMin with
  | case1 p j hj k hk ih =>
    rw [mergeLoop, if_pos hj, hk]
    have hp := List.ne_nil_of_length_pos (Nat.zero_lt_of_lt hj)
    exact List.Subset.trans ih (removePkt_subset hp _)
  | case2 p j hj hk ih =>
    rw [mergeLoop, if_pos hj, hk]
    exact ih
  | case3 p j hj =>
    rw [mergeLoop, if_neg hj]
    exact List.Subset.refl p

theorem deliver_subset (call : RxCall) (parsed : List LgwPktRx) :
    call.deliver parsed ⊆ parsed := by
  unfold RxCall.deliver mergePackets
  split_ifs
  · intro p hp
    rw [Qsort.mem_sort] at hp
    exact mergeLoop_subset call.absMin parsed 0 hp
  · exact List.Subset.refl parsed

theorem isCrcStatus_of_parse {call : RxCall} {i : ℕ} {rx rx' : RxBuffer} {p : LgwPktRx}
    (h : call.parse i rx = (.success, rx', some p)) : IsCrcStatus p.status := by
  unfold RxCall.parse sx1302Parse at h
  split at h
  · exact absurd h nofun
  · exact absurd h nofun
  · rename_i pkt _
    split at h
    · exact absurd h nofun
    · rename_i q hq
      obtain ⟨pkt, -, hpkt⟩ := Option.bind_eq_some_iff.mp hq
      have heq : q = p := by simpa using congrArg (fun r => r.2.2) h
      rw [← heq]
      exact isCrcStatus_processPacket hpkt

theorem isCrcStatus_of_parsesInto {call : RxCall} {found : ℕ} {rx rx' : RxBuffer}
    {ps : List LgwPktRx} (h : ParsesInto call found rx ps rx') :
    ∀ p ∈ ps, IsCrcStatus p.status := by
  induction h with
  | nil => exact fun p hp => absurd hp List.not_mem_nil
  | @cons found rx rx' rx'' p ps first rest ih =>
    intro q hq
    rcases List.mem_cons.mp hq with rfl | hq
    · exact isCrcStatus_of_parse first
    · exact ih q hq

/-- **Every packet of a batch has one of the statuses there are.** -/
theorem isCrcStatus_lgwReceive (call : RxCall) (rx : RxBuffer) :
    ∀ p ∈ (lgwReceive call rx).pkts, IsCrcStatus p.status := by
  intro p hp
  unfold lgwReceive at hp
  split at hp
  · rename_i rx₀ hfetch
    split_ifs at hp with hempty
    · exact absurd hp List.not_mem_nil
    · dsimp only at hp
      split at hp
      · exact absurd hp List.not_mem_nil
      · exact absurd hp List.not_mem_nil
      · rename_i hstatus
        exact isCrcStatus_of_parsesInto (parsesInto_receiveLoop hstatus) p
          (deliver_subset call _ hp)
  · exact absurd hp List.not_mem_nil

/-! ## The filter -/

theorem pkts_eq_nil_of_ret_neg {call : RxCall} {rx : RxBuffer}
    (h : (lgwReceive call rx).ret = -1) : (lgwReceive call rx).pkts = [] := by
  unfold lgwReceive at h ⊢
  split
  · split_ifs
    · rfl
    · rename_i rx₀ hfetch hne
      rw [hfetch] at h
      dsimp only at h ⊢
      rw [if_neg hne] at h
      cases hstatus : (call.batch rx₀).status with
      | warning => rfl
      | error => rfl
      | success =>
        rw [hstatus] at h
        exact absurd h (by show ((List.length _ : ℕ) : ℤ) ≠ -1; omega)
  · rfl

/-- A batch that is an error holds no packet. -/
theorem threadUp_eq_processPackets (call : RxCall) (rx : RxBuffer) :
    threadUp call rx = processPackets (lgwReceive call rx).pkts := by
  unfold threadUp
  dsimp only
  split_ifs with hret
  · rw [pkts_eq_nil_of_ret_neg hret]
    rfl
  · rfl

/-- **When the hand-over respects the configuration.** What goes to the bridge
is what the configuration asks for, in order and once each, exactly when no
packet of the batch is both well-formed and of a disabled status. -/
theorem threadUp_eq_forwarded_iff (conf : FwdConf) (call : RxCall) (rx : RxBuffer) :
    threadUp call rx = conf.forwarded (lgwReceive call rx).pkts
      ↔ ∀ p ∈ (lgwReceive call rx).pkts, p.wellFormed → conf.enabled p.status := by
  rw [threadUp_eq_processPackets]
  exact processPackets_eq_forwarded_iff conf _

/-- A record of one byte, received on a channel and flagged by the modem. -/
def byteRecord (channel : UInt8) (payloadCrcError : Bool) : RxRecord where
  packet :=
    { (emptyRecord channel).packet with
      rxbytenbModem := 1, payload := [0x2A], payloadCrcError := payloadCrcError }
  spareOffset := 0
  spareStatus := false
  spareFlags := 0
  rssiChanDelta := 0
  rssiSigDelta := 0
  length_payload := rfl
  length_metrics := rfl
  metrics_fit := (emptyRecord channel).metrics_fit
  stddev_eq := rfl
  codingRate_lt := (emptyRecord channel).codingRate_lt
  rxRateSf_lt := (emptyRecord channel).rxRateSf_lt
  offset_range := (emptyRecord channel).offset_range
  spareOffset_lt := (emptyRecord channel).spareOffset_lt
  spareFlags_lt := (emptyRecord channel).spareFlags_lt

/-- **A packet whose CRC failed reaches the bridge**, although the configuration,
read from a file that does not mention the filter, says that such packets are
not forwarded. -/
theorem crcError_forwarded :
    ¬ ∀ (getBoolean : String → Option Bool) (call : RxCall) (rx : RxBuffer),
      threadUp call rx
        = (parseGatewayConfiguration getBoolean).forwarded (lgwReceive call rx).pkts := by
  intro h
  have hup := h (fun _ => none) (plainCall 8 (byteRecord 0 true).encode) rxBufferNew
  revert hup
  decide +kernel

/-- With all three flags set every batch is handed over as configured. -/
theorem threadUp_eq_forwarded_of_all (call : RxCall) (rx : RxBuffer) :
    threadUp call rx = (⟨true, true, true⟩ : FwdConf).forwarded (lgwReceive call rx).pkts := by
  rw [threadUp_eq_processPackets, processPackets_eq_forwarded_iff]
  intro p hp _
  rcases isCrcStatus_lgwReceive call rx p hp with h | h | h <;> rw [h] <;> decide
