import MeshBeacon.RxBuffer
import MeshBeacon.SetConf
import MeshBeacon.Sx1261
import MeshBeacon.TimeOnAir
import MeshBeacon.Run

/-!
# Listen before talk

Three users share the additional radio. A transmission needs it to listen on its channel first,
if that is configured; a thread scans a band with it in the background; and the transmitting
thread stops a scan before it sends. The lock of the concentrator makes each of their calls one
step, and between two steps nobody knows what the radio is at: a scan goes on for as long as it
takes, and a stop may have failed.

What saves them is that each begins by setting the radio up, which ends whatever it was doing,
and gives up when a single command of that fails. So a transmission is only ever requested when
the radio has been told everything it needs, whatever happened before.
-/

open Hal SetConf TxGain

/-! ## Listening -/

/-- `is_equal_freq`. -/
def isEqualFreq (a b : UInt32) : Bool := |(a.toNat : ℤ) - b.toNat| ≤ 10000

/-- `is_lbt_channel`. -/
def isLbtChannel (lbtContext : LgwConfLbt) (freqHz : UInt32) (bandwidth : UInt8) : Option ℕ :=
  (List.range lbtContext.nbChannel.toNat).find? fun i =>
    isEqualFreq freqHz (lbtContext.channels i).freqHz
      && bandwidth == (lbtContext.channels i).bandwidth

/-- The threshold of a carrier. -/
def lbtThresholdDbm (conf : LgwConfSx1261) : Int8 :=
  conf.lbtConf.rssiTarget + conf.rssiOffset

/-- `lgw_lbt_start`. -/
def lgwLbtStart (writeOk : ℕ → Bool) (syncWordSize : UInt8) (sx1261Context : LgwConfSx1261)
    (pkt : LgwPktTx) (link : Sx1261Link) : Bool × Sx1261Link :=
  match isLbtChannel sx1261Context.lbtConf pkt.freqHz pkt.bandwidth with
  | none => (false, link)
  | some i =>
    let chan := sx1261Context.lbtConf.channels i
    if chan.transmitTimeMs.toNat * 1000 ≤ 1500 then (false, link)
    else if UInt32.ofNat (chan.transmitTimeMs.toNat * 1000 - 1500)
        < lgwTimeOnAir syncWordSize pkt * 1000 then (false, link)
    else
      let (ok, link) := sx1261SetRxParams writeOk pkt.freqHz pkt.bandwidth link
      if !ok then (false, link)
      else sx1261LbtStart writeOk chan.scanTimeUs (lbtThresholdDbm sx1261Context) link

/-- How a loop over the status of the gain control ends. -/
inductive AgcWait where
  | timeout
  /-- The status could not be read. -/
  | failed
  | status (status : UInt8)

/-- A loop that reads the status until it is as wanted, on what it reads before the timeout. -/
def agcWait (wanted : UInt8 → Bool) : List (Option UInt8) → AgcWait
  | [] => .timeout
  | none :: _ => .failed
  | some status :: rest => if wanted status then .status status else agcWait wanted rest

/-- What `lgw_lbt_tx_status` reads, in its two loops. -/
structure AgcReading where
  started : List (Option UInt8)
  cleared : List (Option UInt8)

/-- `lgw_lbt_tx_status`: whether the packet is transmitted, none for an error. -/
def lgwLbtTxStatus (rfChain : UInt8) (r : AgcReading) : Option Bool :=
  match agcWait (fun status => status &&& (1 <<< rfChain) ≠ 0) r.started with
  | .failed => none
  | begun =>
    match agcWait (fun status => status = 0) r.cleared, begun with
    | .status _, .status status =>
      some (!takeBit status (if rfChain = 0 then 6 else 7))
    | _, _ => none

/-! ## Sending -/

/-- What `lgw_send` learns of the rest. -/
structure SendReading where
  /-- `ad5338r_write` succeeds. -/
  dac : Bool
  /-- `sx1302_send` succeeds. -/
  sent : Bool
  agc : AgcReading

/-- What a call of `lgw_send` did. -/
structure LgwSendCall where
  pktData : LgwPktTx
  result : ℤ
  /-- The additional radio at the call of `sx1302_send`, if there was one. -/
  request : Option Sx1261
  link : Sx1261Link

/-- `LGW_LBT_NOT_ALLOWED`. -/
def lgwLbtNotAllowed : ℤ := 1

section Send

variable {F : Type} (context : LgwContext F) (fullDuplex : Bool) (writeOk : ℕ → Bool)

/-- The checks of `lgw_send`. -/
def lgwSendChecks (pktData : LgwPktTx) : Bool :=
  context.isStarted && pktData.rfChain.toNat < rfChainNb
    && (context.rfChainCfg pktData.rfChain).txEnable
    && (context.rfChainCfg pktData.rfChain).enable
    && (pktData.txMode = immediate || pktData.txMode = timestamped || pktData.txMode = onGps)
    && if pktData.modulation = modLora then
        isLoraBw pktData.bandwidth && isLoraDr pktData.datarate.toNat
          && isLoraCr pktData.coderate && pktData.size ≤ 255
      else if pktData.modulation = modFsk then
        !(pktData.fDev < 1 || pktData.fDev > 200) && isFskDr pktData.datarate
          && pktData.size ≤ 255
      else pktData.modulation = modCw

/-- `lgw_send` from `sx1302_send` on. -/
def lgwSendRequest (r : SendReading) (pktData : LgwPktTx) (link : Sx1261Link) : LgwSendCall :=
  let call (result : ℤ) (after : Sx1261Link) : LgwSendCall :=
    ⟨pktData, result, some link.radio, after⟩
  if !context.sx1261Cfg.lbtConf.enable then
    call (if r.sent then lgwHalSuccess else lgwHalError) link
  else
    let (stopped, after) := sx1261LbtStop writeOk link
    if !r.sent then call lgwHalError after
    else match lgwLbtTxStatus pktData.rfChain r.agc with
      | none => call lgwHalError after
      | some allowed =>
        if !stopped then call lgwHalError after
        else call (if allowed then lgwHalSuccess else lgwLbtNotAllowed) after

/-- `lgw_send`. -/
def lgwSend (r : SendReading) (pktData : LgwPktTx) (link : Sx1261Link) : LgwSendCall :=
  if !lgwSendChecks context pktData then ⟨pktData, lgwHalError, none, link⟩
  else if fullDuplex && !r.dac then ⟨pktData, lgwHalError, none, link⟩
  else if context.sx1261Cfg.lbtConf.enable then
    let (ok, link) := lgwLbtStart writeOk context.fskCfg.syncWordSize context.sx1261Cfg pktData link
    if !ok then ⟨pktData, lgwHalError, none, link⟩
    else lgwSendRequest context writeOk r pktData link
  else lgwSendRequest context writeOk r pktData link

/-- `lgw_spectral_scan_start`. -/
def lgwSpectralScanStart (freqHz : UInt32) (nbScan : UInt16) (past : List UInt8)
    (link : Sx1261Link) : Bool × Sx1261Link :=
  if !context.sx1261Cfg.enable then (false, link)
  else
    let (ok, link) := sx1261SetRxParams writeOk freqHz bw125khz link
    if !ok then (false, link)
    else sx1261SpectralScanStart writeOk nbScan past link

end Send

/-! ## The two threads -/

/-- `spectral_scan_params`. -/
structure SpectralScanParams where
  enable : Bool
  freqHzStart : UInt32
  nbChan : UInt8
  nbScan : UInt16

/-- `freq_hz_stop`. -/
def SpectralScanParams.freqHzStop (params : SpectralScanParams) : UInt32 :=
  UInt32.ofNat (params.freqHzStart.toNat + params.nbChan.toNat * 200000)

/-- `lgw_spectral_scan_status_t`. -/
inductive SpectralScanStatus where
  | none
  | onGoing
  | aborted
  | completed
  | unknown
deriving DecidableEq

/-- Where the scanning thread is, when it takes the lock. -/
inductive ScanPc where
  | start
  | waiting
  | results
deriving DecidableEq

/-- What the scanning thread reads in a step. -/
structure ScanReading where
  /-- `lgw_status` of a chain. -/
  txStatus : UInt8 → UInt8
  /-- What is behind the bytes of the command that starts the scan. -/
  past : List UInt8
  /-- The two seconds are over. -/
  timeout : Bool
  /-- `lgw_spectral_scan_get_status`, if it does not fail. -/
  status : Option SpectralScanStatus
  /-- `lgw_spectral_scan_get_results` succeeds. -/
  results : Bool

/-- A call of `lgw_send` by the transmitting thread. -/
structure JitSend where
  /-- A scan was stopped before, successfully. -/
  aborted : Bool
  reading : SendReading
  call : LgwSendCall

/-- A scan that was started. -/
structure ScanStart where
  freqHz : UInt32
  txStatus : UInt8 → UInt8
  radio : Sx1261

/-- The additional radio and its users. -/
structure RadioShare where
  link : Sx1261Link
  /-- `freq_hz` of the scanning thread. -/
  freqHz : UInt32
  /-- `tx_status` of the scanning thread. -/
  txStatus : UInt8
  scanPc : ScanPc
  /-- The calls made so far. -/
  sends : List JitSend
  /-- The scans started so far. -/
  scans : List ScanStart

/-- What happens: a packet is sent, or the scanning thread goes on. -/
inductive RadioEvent where
  | jit (pkt : LgwPktTx) (r : SendReading)
  | scan (r : ScanReading)

/-- The loop over the chains: the status it ends with. -/
def scanTxStatus (txEnable : UInt8 → Bool) (read : UInt8 → UInt8) : List UInt8 → UInt8 → UInt8
  | [], txStatus => txStatus
  | i :: is, txStatus =>
    if txEnable i then
      if read i = txScheduled || read i = txEmitting then read i
      else scanTxStatus txEnable read is (read i)
    else scanTxStatus txEnable read is txStatus

namespace RadioShare

variable {F : Type} (context : LgwContext F) (fullDuplex : Bool) (params : SpectralScanParams)
  (txEnable : UInt8 → Bool) (writeOk : ℕ → Bool)

/-- The start. -/
def start (radio : Sx1261) : RadioShare :=
  ⟨⟨0, radio⟩, params.freqHzStart, txFree, .start, [], []⟩

/-- `thread_jit`, what is sent to the concentrator. -/
def threadJit (s : RadioShare) (pkt : LgwPktTx) (r : SendReading) : RadioShare :=
  let (aborted, link) :=
    if params.enable then sx1261SpectralScanAbort writeOk s.link else (false, s.link)
  let call := lgwSend context fullDuplex writeOk r pkt link
  { s with link := call.link, sends := s.sends ++ [⟨aborted, r, call⟩] }

/-- The next frequency. -/
def nextFreq (freqHz : UInt32) : UInt32 :=
  if freqHz + 200000 ≥ params.freqHzStop then params.freqHzStart else freqHz + 200000

/-- `thread_spectral_scan`, from one taking of the lock to the next. -/
def threadSpectralScan (s : RadioShare) (r : ScanReading) : RadioShare :=
  match s.scanPc with
  | .start =>
    let s := { s with txStatus := scanTxStatus txEnable r.txStatus [0, 1] s.txStatus }
    if s.txStatus ≠ txScheduled ∧ s.txStatus ≠ txEmitting then
      let (ok, link) :=
        lgwSpectralScanStart context writeOk s.freqHz params.nbScan r.past s.link
      if ok then
        { s with
          link, scanPc := .waiting, scans := s.scans ++ [⟨s.freqHz, r.txStatus, link.radio⟩] }
      else { s with link }
    else s
  | .waiting =>
    if r.timeout then { s with scanPc := .start }
    else match r.status with
      | none | some .aborted => { s with scanPc := .start }
      | some .completed => { s with scanPc := .results }
      | some _ => s
  | .results =>
    if r.results then { s with freqHz := nextFreq params s.freqHz, scanPc := .start }
    else { s with scanPc := .start }

/-- One step. The scanning thread is there when it is enabled. -/
def step (s : RadioShare) : RadioEvent → RadioShare
  | .jit pkt r => s.threadJit context fullDuplex params writeOk pkt r
  | .scan r => if params.enable then s.threadSpectralScan context params txEnable writeOk r else s

end RadioShare

/-! ## What holds of a call -/

/-- **The additional radio listens for the packet**: on its frequency, with the filter of its
bandwidth, as a channel says that is near it and allows as long a transmission, and it does nothing
else. -/
structure ListensFor (syncWordSize : UInt8) (conf : LgwConfSx1261) (pkt : LgwPktTx)
    (radio : Sx1261) (chan : LgwConfChanLbt) : Prop where
  near : |(pkt.freqHz.toNat : ℤ) - chan.freqHz.toNat| ≤ 10000
  bandwidth : pkt.bandwidth = chan.bandwidth
  /-- The packet and the 1.5 ms before it are over in time. -/
  timeOnAir : (lgwTimeOnAir syncWordSize pkt).toNat * 1000 + 1500 ≤ chan.transmitTimeMs.toNat * 1000
  radio : ∃ fskBw nbScan, fskBwReg pkt.bandwidth = some fskBw
    ∧ lbtNbScan chan.scanTimeUs = some nbScan
    ∧ radio = { Sx1261.receiving pkt.freqHz fskBw with
        lbt := some (lbtParams nbScan (lbtThresholdDbm conf)) }

/-- The search returns a channel that is configured and that is near. -/
theorem isLbtChannel_spec {lbtContext : LgwConfLbt} {freqHz : UInt32} {bandwidth : UInt8} {i : ℕ}
    (h : isLbtChannel lbtContext freqHz bandwidth = some i) :
    i < lbtContext.nbChannel.toNat
      ∧ |(freqHz.toNat : ℤ) - (lbtContext.channels i).freqHz.toNat| ≤ 10000
      ∧ bandwidth = (lbtContext.channels i).bandwidth := by
  have hmatch := List.find?_some h
  rw [Bool.and_eq_true, isEqualFreq, decide_eq_true_eq, beq_iff_eq] at hmatch
  exact ⟨List.mem_range.mp (List.mem_of_find?_eq_some h), hmatch.1, hmatch.2⟩

/-- The comparison of the times does not wrap. -/
theorem timeOnAir_le_of_not_lt {toaMs : UInt32} {transmitTimeMs : UInt16}
    (htoa : toaMs.toNat ≤ 2710001) (hmin : ¬ transmitTimeMs.toNat * 1000 ≤ 1500)
    (h : ¬ UInt32.ofNat (transmitTimeMs.toNat * 1000 - 1500) < toaMs * 1000) :
    toaMs.toNat * 1000 + 1500 ≤ transmitTimeMs.toNat * 1000 := by
  have hlt := transmitTimeMs.toNat_lt
  have hthousand : (1000 : UInt32).toNat = 1000 := rfl
  rw [UInt32.lt_iff_toNat_lt, UInt32.toNat_ofNat', UInt32.toNat_mul, hthousand,
    Nat.mod_eq_of_lt (by omega), Nat.mod_eq_of_lt (by omega)] at h
  omega

section Start

variable {writeOk : ℕ → Bool} {syncWordSize : UInt8} {conf : LgwConfSx1261} {pkt : LgwPktTx}
  {link : Sx1261Link}

/-- **When LBT was started, the radio listens.** -/
theorem lgwLbtStart_ok (hfsk : pkt.modulation = modFsk → isFskDr pkt.datarate)
    (h : (lgwLbtStart writeOk syncWordSize conf pkt link).1 = true) :
    ∃ i < conf.lbtConf.nbChannel.toNat,
      ListensFor syncWordSize conf pkt (lgwLbtStart writeOk syncWordSize conf pkt link).2.radio
        (conf.lbtConf.channels i) := by
  unfold lgwLbtStart at h ⊢
  cases hchan : isLbtChannel conf.lbtConf pkt.freqHz pkt.bandwidth with
  | none =>
    rw [hchan] at h
    exact absurd h Bool.false_ne_true
  | some i =>
    obtain ⟨hi, hnear, hbw⟩ := isLbtChannel_spec hchan
    rw [hchan] at h
    dsimp only at h ⊢
    split_ifs at h ⊢ with hmin htoa hset
    have hok := @sx1261SetRxParams_ok writeOk link pkt.freqHz pkt.bandwidth
    generalize sx1261SetRxParams writeOk pkt.freqHz pkt.bandwidth link = r at h hset hok ⊢
    obtain ⟨ok, mid⟩ := r
    obtain ⟨fskBw, hfskBw, hmid⟩ := hok (by simpa using hset)
    refine ⟨i, hi, hnear, hbw, timeOnAir_le_of_not_lt (lgwTimeOnAir_le _ _ hfsk) hmin htoa, ?_⟩
    dsimp only at h hmid ⊢
    unfold sx1261LbtStart at h ⊢
    cases hscan : lbtNbScan (conf.lbtConf.channels i).scanTimeUs with
    | none =>
      rw [hscan] at h
      exact absurd h Bool.false_ne_true
    | some nbScan =>
      rw [hscan] at h
      refine ⟨fskBw, nbScan, hfskBw, rfl, ?_⟩
      rw [@sx1261RegW_ok writeOk mid _ h, hmid]
      rfl

/-- **What starting LBT keeps**, whether it succeeds or not: what commands that start nothing keep
and what holds of every radio that was just set up, whether it listens or not. -/
theorem lgwLbtStart_keeps {P : Sx1261 → Prop} (hP : Sx1261.QuietInvariant P)
    (hlbt : ∀ freqHz fskBw lbt, P { Sx1261.receiving freqHz fskBw with lbt := lbt })
    (h : P link.radio) : P (lgwLbtStart writeOk syncWordSize conf pkt link).2.radio := by
  unfold lgwLbtStart
  cases isLbtChannel conf.lbtConf pkt.freqHz pkt.bandwidth with
  | none => exact h
  | some i =>
    have hok := @sx1261SetRxParams_ok writeOk link pkt.freqHz pkt.bandwidth
    have hkept : P (sx1261SetRxParams writeOk pkt.freqHz pkt.bandwidth link).2.radio :=
      hP.setRxParams h
    dsimp only
    generalize sx1261SetRxParams writeOk pkt.freqHz pkt.bandwidth link = r at hok hkept ⊢
    obtain ⟨ok, mid⟩ := r
    dsimp only at hok hkept ⊢
    split_ifs with hmin htoa hset
    · exact h
    · exact h
    · exact hkept
    · obtain ⟨fskBw, -, hmid⟩ := hok (by simpa using hset)
      unfold sx1261LbtStart
      cases lbtNbScan (conf.lbtConf.channels i).scanTimeUs with
      | none => exact hkept
      | some nbScan =>
        show P (sx1261RegW writeOk [_] mid).2.radio
        rw [sx1261RegW]
        split_ifs
        · rw [sx1261RegW, hmid]
          exact hlbt _ _ _
        · exact hkept

end Start

section Call

variable {F : Type} {context : LgwContext F} {fullDuplex : Bool} {writeOk : ℕ → Bool}
  {r : SendReading} {pktData : LgwPktTx} {link : Sx1261Link}

/-- LBT is configured. -/
abbrev LbtOn (context : LgwContext F) : Prop := context.sx1261Cfg.lbtConf.enable = true

/-- **A call of `lgw_send`** either requests nothing and fails; or it requests the packet at once,
without LBT; or it requests it when LBT was started, and stops LBT after. -/
inductive LgwSendCase (context : LgwContext F) (writeOk : ℕ → Bool) (r : SendReading)
    (pktData : LgwPktTx) (link : Sx1261Link) : LgwSendCall → Prop
  /-- A check failed. -/
  | refused : LgwSendCase context writeOk r pktData link ⟨pktData, lgwHalError, none, link⟩
  /-- LBT could not be started. -/
  | noLbt (hon : LbtOn context)
      (hstart : (lgwLbtStart writeOk context.fskCfg.syncWordSize context.sx1261Cfg pktData
        link).1 = false) :
      LgwSendCase context writeOk r pktData link ⟨pktData, lgwHalError, none,
        (lgwLbtStart writeOk context.fskCfg.syncWordSize context.sx1261Cfg pktData link).2⟩
  /-- Without LBT. -/
  | plain (result : ℤ) (hchecks : lgwSendChecks context pktData = true) (hoff : ¬ LbtOn context)
      (hresult : result = lgwHalError ∨ result = lgwHalSuccess) :
      LgwSendCase context writeOk r pktData link ⟨pktData, result, some link.radio, link⟩
  /-- With LBT. -/
  | listened (result : ℤ) (mid : Sx1261Link) (hchecks : lgwSendChecks context pktData = true)
      (hon : LbtOn context)
      (hstart : lgwLbtStart writeOk context.fskCfg.syncWordSize context.sx1261Cfg pktData link
        = (true, mid))
      (hresult : result = lgwHalError ∨ (sx1261LbtStop writeOk mid).1 = true
        ∧ ∃ allowed, lgwLbtTxStatus pktData.rfChain r.agc = some allowed
          ∧ result = if allowed then lgwHalSuccess else lgwLbtNotAllowed) :
      LgwSendCase context writeOk r pktData link
        ⟨pktData, result, some mid.radio, (sx1261LbtStop writeOk mid).2⟩

theorem lgwSendRequest_off (hoff : ¬ LbtOn context) :
    lgwSendRequest context writeOk r pktData link
      = ⟨pktData, if r.sent then lgwHalSuccess else lgwHalError, some link.radio, link⟩ := by
  unfold lgwSendRequest
  rw [if_pos (by simpa [LbtOn] using hoff)]

/-- The end of a call with LBT: it is stopped, and else the call has failed. -/
theorem lgwSendRequest_on (hon : LbtOn context) :
    ∃ result, (result = lgwHalError ∨ (sx1261LbtStop writeOk link).1 = true
        ∧ ∃ allowed, lgwLbtTxStatus pktData.rfChain r.agc = some allowed
          ∧ result = if allowed then lgwHalSuccess else lgwLbtNotAllowed)
      ∧ lgwSendRequest context writeOk r pktData link
        = ⟨pktData, result, some link.radio, (sx1261LbtStop writeOk link).2⟩ := by
  unfold lgwSendRequest
  rw [if_neg (by simpa [LbtOn] using hon)]
  generalize sx1261LbtStop writeOk link = stop
  obtain ⟨stopped, after⟩ := stop
  dsimp only
  by_cases hsent : (!r.sent) = true
  · rw [if_pos hsent]
    exact ⟨_, Or.inl rfl, rfl⟩
  · rw [if_neg hsent]
    cases lgwLbtTxStatus pktData.rfChain r.agc with
    | none => exact ⟨_, Or.inl rfl, rfl⟩
    | some allowed =>
      cases stopped with
      | false => exact ⟨_, Or.inl rfl, rfl⟩
      | true => exact ⟨_, Or.inr ⟨rfl, allowed, rfl, rfl⟩, rfl⟩

theorem lgwSend_case :
    LgwSendCase context writeOk r pktData link
      (lgwSend context fullDuplex writeOk r pktData link) := by
  unfold lgwSend
  by_cases hchecks : lgwSendChecks context pktData = true
  · rw [if_neg (by simpa using hchecks)]
    by_cases hdac : (fullDuplex && !r.dac) = true
    · rw [if_pos hdac]
      exact .refused
    · rw [if_neg hdac]
      by_cases hon : LbtOn context
      · rw [if_pos hon]
        -- with LBT on nothing is sent unless the radio listens
        cases hstart : lgwLbtStart writeOk context.fskCfg.syncWordSize context.sx1261Cfg pktData
          link with
        | mk ok mid =>
          cases ok with
          | false =>
            have hcase := @LgwSendCase.noLbt _ context writeOk r pktData link hon (by rw [hstart])
            rw [hstart] at hcase
            exact hcase
          | true =>
            obtain ⟨result, hresult, hcall⟩ :=
              @lgwSendRequest_on _ context writeOk r pktData mid hon
            show LgwSendCase context writeOk r pktData link (lgwSendRequest _ _ _ _ _)
            rw [hcall]
            exact .listened result mid hchecks hon hstart hresult
      · rw [if_neg hon, lgwSendRequest_off hon]
        refine .plain _ hchecks hon ?_
        split_ifs
        · exact Or.inr rfl
        · exact Or.inl rfl
  · rw [if_pos (by simpa using hchecks)]
    exact .refused

/-- What `lgw_send` keeps: what starting LBT keeps. -/
theorem lgwSend_keeps {P : Sx1261 → Prop} (hP : Sx1261.QuietInvariant P)
    (hlbt : ∀ freqHz fskBw lbt, P { Sx1261.receiving freqHz fskBw with lbt := lbt })
    (h : P link.radio) : P (lgwSend context fullDuplex writeOk r pktData link).link.radio := by
  have hcase := @lgwSend_case _ context fullDuplex writeOk r pktData link
  generalize lgwSend context fullDuplex writeOk r pktData link = call at hcase ⊢
  cases hcase with
  | refused => exact h
  | noLbt => exact lgwLbtStart_keeps hP hlbt h
  | plain => exact h
  | listened result mid hchecks hon hstart =>
    have hmid := @lgwLbtStart_keeps writeOk context.fskCfg.syncWordSize context.sx1261Cfg pktData
      link P hP hlbt h
    rw [hstart] at hmid
    exact hP.lbtStop hmid

theorem isFskDr_of_lgwSendChecks (h : lgwSendChecks context pktData = true)
    (hmod : pktData.modulation = modFsk) : isFskDr pktData.datarate := by
  unfold lgwSendChecks at h
  have hlora : modFsk ≠ modLora := by decide
  rw [hmod, if_neg hlora, if_pos rfl] at h
  simp only [Bool.and_eq_true] at h
  exact h.2.1.2

end Call

/-! ## What holds of every run -/

section Sound

variable {F : Type} (context : LgwContext F) (params : SpectralScanParams)

/-- **The call was right.** -/
structure JitSend.Sound (e : JitSend) : Prop where
  checked : e.call.request.isSome → lgwSendChecks context e.call.pktData = true
  /-- With LBT, the radio listened for the packet when it was requested. -/
  listened : ∀ radio ∈ e.call.request, LbtOn context →
    ∃ i < context.sx1261Cfg.lbtConf.nbChannel.toNat,
      ListensFor context.fskCfg.syncWordSize context.sx1261Cfg e.call.pktData radio
        (context.sx1261Cfg.lbtConf.channels i)
  /-- No scan went on. -/
  noScan : ∀ radio ∈ e.call.request,
    LbtOn context ∨ params.enable = false ∨ e.aborted = true → radio.scan = none
  /-- What is returned, if not an error: the packet was requested; and with LBT, whether it is
  transmitted, and LBT is over. -/
  returned : e.call.result ≠ lgwHalError → e.call.request.isSome
    ∧ (LbtOn context → e.call.link.radio.lbt = none ∧ e.call.link.radio.rx = false
      ∧ ∃ allowed, lgwLbtTxStatus e.call.pktData.rfChain e.reading.agc = some allowed
        ∧ e.call.result = if allowed then lgwHalSuccess else lgwLbtNotAllowed)

/-- **The scan was right**: it was started on a channel of the band, with nothing else going on
and no transmission under way on a chain that sends. -/
structure ScanStart.Sound (txEnable : UInt8 → Bool) (e : ScanStart) : Prop where
  band : ∃ k < max params.nbChan.toNat 1,
    e.freqHz.toNat = params.freqHzStart.toNat + 200000 * k
  free : ∀ i ∈ [0, 1], txEnable i → e.txStatus i ≠ txScheduled ∧ e.txStatus i ≠ txEmitting
  radio : ∃ params, e.radio = { Sx1261.receiving e.freqHz 0x0A with scan := some params }

end Sound

namespace RadioShare

variable {F : Type} {context : LgwContext F} {fullDuplex : Bool} {params : SpectralScanParams}
  {txEnable : UInt8 → Bool} {writeOk : ℕ → Bool} {s : RadioShare}

/-- What holds between two steps. -/
structure Inv (context : LgwContext F) (params : SpectralScanParams) (txEnable : UInt8 → Bool)
    (s : RadioShare) : Prop where
  oneThing : s.link.radio.OneThing
  /-- Without the scanning thread there are no scans. -/
  noScan : params.enable = false → s.link.radio.scan = none
  band : ∃ k < max params.nbChan.toNat 1,
    s.freqHz.toNat = params.freqHzStart.toNat + 200000 * k
  sends : ∀ e ∈ s.sends, e.Sound context params
  scans : ∀ e ∈ s.scans, e.Sound params txEnable

/-- Every radio that was just set up scans nothing. -/
theorem oneThing_receiving (freqHz : UInt32) (fskBw : UInt8) (lbt : Option (List UInt8)) :
    Sx1261.OneThing { Sx1261.receiving freqHz fskBw with lbt := lbt } := Or.inr rfl

/-- **The call is right**, whatever the radio was doing, if nothing scans where it must not. -/
theorem sound_lgwSend {aborted : Bool} {r : SendReading} {pkt : LgwPktTx} {link : Sx1261Link}
    (hscan : params.enable = false ∨ aborted = true → link.radio.scan = none) :
    JitSend.Sound context params
      ⟨aborted, r, lgwSend context fullDuplex writeOk r pkt link⟩ := by
  have hcase := @lgwSend_case _ context fullDuplex writeOk r pkt link
  generalize lgwSend context fullDuplex writeOk r pkt link = call at hcase ⊢
  cases hcase with
  | refused | noLbt =>
    exact ⟨fun h => absurd h Bool.false_ne_true, fun _ h => absurd h nofun,
      fun _ h => absurd h nofun, fun h => absurd rfl h⟩
  | plain result hchecks hoff =>
    refine ⟨fun _ => hchecks, fun _ _ hon => absurd hon hoff, ?_,
      fun _ => ⟨rfl, fun hon => absurd hon hoff⟩⟩
    rintro radio ⟨⟩ (hon | hscanOff)
    · exact absurd hon hoff
    · exact hscan hscanOff
  | listened result mid hchecks hon hstart hresult =>
    -- the radio listens on the channel of the packet, and then does one thing only
    have hok := @lgwLbtStart_ok writeOk context.fskCfg.syncWordSize context.sx1261Cfg pkt link
      (isFskDr_of_lgwSendChecks hchecks) (by rw [hstart])
    rw [hstart] at hok
    refine ⟨fun _ => hchecks, ?_, ?_, ?_⟩
    · rintro radio ⟨⟩ -
      exact hok
    · rintro radio ⟨⟩ -
      obtain ⟨i, -, hlistens⟩ := hok
      obtain ⟨fskBw, nbScan, -, -, hradio⟩ := hlistens.radio
      rw [hradio]
      rfl
    · -- the packet is sent only if listening was stopped and found the channel free
      intro hne
      rcases hresult with herr | ⟨hstop, hallowed⟩
      · exact absurd herr hne
      · obtain ⟨hlbt, hrx⟩ := sx1261LbtStop_ok hstop
        exact ⟨rfl, fun _ => ⟨hlbt, hrx, hallowed⟩⟩

/-- The transmitting thread keeps the invariant. -/
theorem Inv.threadJit (h : s.Inv context params txEnable) (pkt : LgwPktTx) (r : SendReading) :
    (s.threadJit context fullDuplex params writeOk pkt r).Inv context params txEnable := by
  unfold RadioShare.threadJit
  have hone : (sx1261SpectralScanAbort writeOk s.link).2.radio.OneThing :=
    Sx1261.quietInvariant_oneThing.abort h.oneThing
  have hnone := @sx1261SpectralScanAbort_ok writeOk s.link
  by_cases hen : params.enable = true
  · rw [if_pos hen]
    generalize sx1261SpectralScanAbort writeOk s.link = stop at hone hnone ⊢
    obtain ⟨aborted, link⟩ := stop
    -- a scan that was aborted is over before the radio listens
    have hscan : params.enable = false ∨ aborted = true → link.radio.scan = none := by
      rintro (hoff | hab)
      · rw [hen] at hoff
        exact absurd hoff Bool.noConfusion
      · exact hnone hab
    refine ⟨?_, ?_, h.band, ?_, h.scans⟩
    · exact lgwSend_keeps Sx1261.quietInvariant_oneThing oneThing_receiving hone
    · intro hoff
      rw [hen] at hoff
      exact absurd hoff Bool.noConfusion
    · intro e he
      rcases List.mem_append.mp he with hold | hnew
      · exact h.sends e hold
      · rw [List.mem_singleton.mp hnew]
        exact sound_lgwSend hscan
  · rw [if_neg hen]
    have hoff : params.enable = false := by simpa using hen
    refine ⟨?_, ?_, h.band, ?_, h.scans⟩
    · exact lgwSend_keeps Sx1261.quietInvariant_oneThing oneThing_receiving h.oneThing
    · intro _
      exact lgwSend_keeps Sx1261.quietInvariant_scan (fun _ _ _ => rfl) (h.noScan hoff)
    · intro e he
      rcases List.mem_append.mp he with hold | hnew
      · exact h.sends e hold
      · rw [List.mem_singleton.mp hnew]
        exact sound_lgwSend fun _ => h.noScan hoff

/-- **When the thread finds no transmission, there is none** on a chain that sends. -/
theorem free_of_scanTxStatus {read : UInt8 → UInt8} {chains : List UInt8} {txStatus : UInt8}
    (hscheduled : scanTxStatus txEnable read chains txStatus ≠ txScheduled)
    (hemitting : scanTxStatus txEnable read chains txStatus ≠ txEmitting) :
    ∀ i ∈ chains, txEnable i → read i ≠ txScheduled ∧ read i ≠ txEmitting := by
  induction chains generalizing txStatus with
  | nil => exact fun _ hi => absurd hi List.not_mem_nil
  | cons j chains ih =>
    intro i hi hen
    rw [scanTxStatus] at hscheduled hemitting
    split_ifs at hscheduled hemitting with hj hbusy
    · rw [Bool.or_eq_true, decide_eq_true_eq, decide_eq_true_eq] at hbusy
      exact absurd hbusy (not_or.mpr ⟨hscheduled, hemitting⟩)
    · rcases List.mem_cons.mp hi with rfl | hmem
      · rw [Bool.or_eq_true, decide_eq_true_eq, decide_eq_true_eq] at hbusy
        exact not_or.mp hbusy
      · exact ih hscheduled hemitting i hmem hen
    · rcases List.mem_cons.mp hi with rfl | hmem
      · exact absurd hen hj
      · exact ih hscheduled hemitting i hmem hen

theorem band_nextFreq {freqHz : UInt32}
    (hband : params.freqHzStart.toNat + 200000 * max params.nbChan.toNat 1 < 2 ^ 32)
    (h : ∃ k < max params.nbChan.toNat 1,
      freqHz.toNat = params.freqHzStart.toNat + 200000 * k) :
    ∃ k < max params.nbChan.toNat 1,
      (nextFreq params freqHz).toNat = params.freqHzStart.toNat + 200000 * k := by
  obtain ⟨k, hk, hfreq⟩ := h
  unfold nextFreq
  split_ifs with hstop
  · exact ⟨0, by omega, rfl⟩
  · have hadd : (freqHz + 200000).toNat = params.freqHzStart.toNat + 200000 * (k + 1) := by
      rw [UInt32.toNat_add, hfreq]
      have htwo : (200000 : UInt32).toNat = 200000 := rfl
      rw [htwo, Nat.mod_eq_of_lt (by omega)]
      ring
    have hend : params.freqHzStop.toNat
        = params.freqHzStart.toNat + params.nbChan.toNat * 200000 := by
      rw [SpectralScanParams.freqHzStop, UInt32.toNat_ofNat', Nat.mod_eq_of_lt (by omega)]
    rw [ge_iff_le, UInt32.le_iff_toNat_le, hadd, hend] at hstop
    exact ⟨k + 1, by omega, hadd⟩

theorem lgwSpectralScanStart_ok {freqHz : UInt32} {nbScan : UInt16} {past : List UInt8}
    {link : Sx1261Link}
    (h : (lgwSpectralScanStart context writeOk freqHz nbScan past link).1 = true) :
    ∃ scan, (lgwSpectralScanStart context writeOk freqHz nbScan past link).2.radio
      = { Sx1261.receiving freqHz 0x0A with scan := some scan } := by
  unfold lgwSpectralScanStart at h ⊢
  have hok := @sx1261SetRxParams_ok writeOk link freqHz bw125khz
  generalize sx1261SetRxParams writeOk freqHz bw125khz link = r at h hok ⊢
  obtain ⟨ok, mid⟩ := r
  split_ifs at h ⊢ with hen
  dsimp only at h hok ⊢
  split_ifs at h ⊢ with hset
  obtain ⟨fskBw, hfskBw, hmid⟩ := hok (by simpa using hset)
  rw [sx1261SpectralScanStart, @sx1261RegW_ok writeOk mid _ h, hmid, ← Option.some.inj hfskBw]
  exact ⟨_, rfl⟩

/-- Starting a scan, or failing to, leaves the radio at one thing at most. -/
theorem oneThing_lgwSpectralScanStart {freqHz : UInt32} {nbScan : UInt16} {past : List UInt8}
    {link : Sx1261Link} (h : link.radio.OneThing) :
    (lgwSpectralScanStart context writeOk freqHz nbScan past link).2.radio.OneThing := by
  unfold lgwSpectralScanStart
  have hok := @sx1261SetRxParams_ok writeOk link freqHz bw125khz
  have hkept : (sx1261SetRxParams writeOk freqHz bw125khz link).2.radio.OneThing :=
    Sx1261.quietInvariant_oneThing.setRxParams h
  generalize sx1261SetRxParams writeOk freqHz bw125khz link = r at hok hkept ⊢
  obtain ⟨ok, mid⟩ := r
  dsimp only at hok hkept ⊢
  split_ifs with hen hset
  · exact h
  · exact hkept
  · obtain ⟨fskBw, -, hmid⟩ := hok (by simpa using hset)
    rw [sx1261SpectralScanStart, sx1261RegW]
    split_ifs
    · rw [sx1261RegW, hmid]
      exact Or.inl rfl
    · exact hkept

theorem Inv.scanStart (h : s.Inv context params txEnable) (hen : params.enable = true)
    (hpc : s.scanPc = .start) (r : ScanReading) :
    (s.threadSpectralScan context params txEnable writeOk r).Inv context params txEnable := by
  unfold RadioShare.threadSpectralScan
  rw [hpc]
  dsimp only
  have hone := @oneThing_lgwSpectralScanStart _ context writeOk s.freqHz params.nbScan r.past s.link
    h.oneThing
  have hok := @lgwSpectralScanStart_ok _ context writeOk s.freqHz params.nbScan r.past s.link
  generalize lgwSpectralScanStart context writeOk s.freqHz params.nbScan r.past s.link = scan
    at hone hok ⊢
  obtain ⟨ok, link⟩ := scan
  have hno : params.enable = false → link.radio.scan = none := fun hoff =>
    absurd (hen.symm.trans hoff) Bool.noConfusion
  dsimp only at hone hok ⊢
  split_ifs with hfree hstarted
  · refine ⟨hone, hno, h.band, h.sends, ?_⟩
    intro e he
    rcases List.mem_append.mp he with hold | hnew
    · exact h.scans e hold
    · rw [List.mem_singleton.mp hnew]
      exact ⟨h.band, free_of_scanTxStatus hfree.1 hfree.2, hok hstarted⟩
  · exact ⟨hone, hno, h.band, h.sends, h.scans⟩
  · exact ⟨h.oneThing, h.noScan, h.band, h.sends, h.scans⟩

theorem Inv.threadSpectralScan
    (hband : params.freqHzStart.toNat + 200000 * max params.nbChan.toNat 1 < 2 ^ 32)
    (h : s.Inv context params txEnable) (hen : params.enable = true) (r : ScanReading) :
    (s.threadSpectralScan context params txEnable writeOk r).Inv context params txEnable := by
  cases hpc : s.scanPc with
  | start => exact h.scanStart hen hpc r
  | waiting =>
    have hmove (pc : ScanPc) : Inv context params txEnable { s with scanPc := pc } :=
      ⟨h.oneThing, h.noScan, h.band, h.sends, h.scans⟩
    unfold RadioShare.threadSpectralScan
    rw [hpc]
    dsimp only
    split_ifs
    · exact hmove .start
    · split
      · exact hmove .start
      · exact hmove .start
      · exact hmove .results
      · exact h
  | results =>
    unfold RadioShare.threadSpectralScan
    rw [hpc]
    dsimp only
    split_ifs
    · exact ⟨h.oneThing, h.noScan, band_nextFreq hband h.band, h.sends, h.scans⟩
    · exact ⟨h.oneThing, h.noScan, h.band, h.sends, h.scans⟩

/-- **A step keeps the invariant.** -/
theorem Inv.step
    (hband : params.freqHzStart.toNat + 200000 * max params.nbChan.toNat 1 < 2 ^ 32)
    (h : s.Inv context params txEnable) (e : RadioEvent) :
    (s.step context fullDuplex params txEnable writeOk e).Inv context params txEnable := by
  cases e with
  | jit pkt r => exact h.threadJit pkt r
  | scan r =>
    show Inv context params txEnable (if params.enable then _ else s)
    split_ifs with hen
    · exact h.threadSpectralScan hband hen r
    · exact h

theorem inv_start {radio : Sx1261} (hradio : radio.scan = none) :
    (start params radio).Inv context params txEnable :=
  ⟨Or.inr hradio, fun _ => hradio, ⟨0, by omega, rfl⟩, fun _ h => absurd h List.not_mem_nil,
    fun _ h => absurd h List.not_mem_nil⟩

end RadioShare

/-- **The additional radio is shared safely**, over SPI, when it does not scan at the start and the
band that is scanned ends below 2^32 Hz. However the transmissions and the scans follow each
other, whatever packets are sent, whatever is read and whichever commands fail, the radio never
listens and scans at the same time; a packet is requested with LBT only while the radio listens for
it, on a channel that allows it, and never over a scan that must have ended; what is returned then
tells what became of it, with LBT over; and a scan is only started on a channel of the band, when
no chain that sends has a transmission, and with LBT over. -/
theorem radioShare_sound {F : Type} (context : LgwContext F) (fullDuplex : Bool)
    (params : SpectralScanParams) (txEnable : UInt8 → Bool) (writeOk : ℕ → Bool) (radio : Sx1261)
    (es : List RadioEvent) (hradio : radio.scan = none)
    (hband : params.freqHzStart.toNat + 200000 * max params.nbChan.toNat 1 < 2 ^ 32) :
    let s := Run.final (RadioShare.step context fullDuplex params txEnable writeOk)
      (RadioShare.start params radio) es
    s.link.radio.OneThing ∧ (∀ e ∈ s.sends, e.Sound context params)
      ∧ ∀ e ∈ s.scans, e.Sound params txEnable := by
  intro s
  have hinv : s.Inv context params txEnable :=
    Run.invariant (P := RadioShare.Inv context params txEnable)
      (fun _ e h => h.step hband e) es (RadioShare.inv_start hradio)
  exact ⟨hinv.oneThing, hinv.sends, hinv.scans⟩

/-- A concentrator with LBT on one channel. -/
def lbtContext : LgwContext ℤ :=
  let context := LgwContext.start (0 : ℤ)
  { context with
    isStarted := true
    rfChainCfg := fun i => { context.rfChainCfg i with enable := true, txEnable := true }
    sx1261Cfg := { context.sx1261Cfg with
      enable := true
      lbtConf := ⟨true, -80, 1, fun _ => ⟨869525000, bw125khz, 5000, 4000⟩⟩ } }

/-- A scan of two channels. -/
def twoChannels : SpectralScanParams := ⟨true, 867100000, 2, 2000⟩

/-- A radio that was reset. -/
def idleSx1261 : Sx1261 := ⟨false, [], [], [], [], none, none⟩

/-- A scan is started, and a packet of 16 bytes is sent over it. -/
def scanThenSend : List RadioEvent :=
  [.scan ⟨fun _ => txFree, [], false, none, false⟩,
    .jit { LgwPktTx.zero with
        freqHz := 869525000, modulation := modLora, bandwidth := bw125khz, datarate := drLoraSf7
        coderate := crLora45, size := 16 }
      ⟨true, true, ⟨[some 0, some 1], [some 0]⟩⟩]

/-- Both happen, and the packet is transmitted. -/
example :
    let s := Run.final (RadioShare.step lbtContext false twoChannels (fun _ => true) fun _ => true)
      (RadioShare.start twoChannels idleSx1261) scanThenSend
    s.scans.length = 1 ∧ s.sends.map (fun e => e.call.result) = [lgwHalSuccess] := by
  decide +kernel

theorem radioShare_sound_scanThenSend :
    let s := Run.final (RadioShare.step lbtContext false twoChannels (fun _ => true) fun _ => true)
      (RadioShare.start twoChannels idleSx1261) scanThenSend
    s.link.radio.OneThing ∧ (∀ e ∈ s.sends, e.Sound lbtContext twoChannels)
      ∧ ∀ e ∈ s.scans, e.Sound twoChannels fun _ => true :=
  radioShare_sound lbtContext false twoChannels (fun _ => true) (fun _ => true) idleSx1261
    scanThenSend rfl (by decide)
