import MeshBeacon.Sx1302
import MeshBeacon.StoreLoop
import MeshBeacon.TxGain
import Mathlib.Logic.Function.Basic
import Mathlib.Tactic.Common

/-!
# Storing the configuration

Before the concentrator is started its configuration is handed over piece by piece, and each
piece is checked where it is stored. Two of the functions, for the radios and for the
chains, check all of a piece first: when they return an error the context is what it
was. The other two, for the gain table and for the additional radio, store as they check. Of a
table with an entry that is refused they leave the size and the entries before that one,
which is harmless only if the same was stored before.

The context has what these functions write. A `float` is of any type. The number of an RF
chain is not checked for the gain table, nor is the number of channels for the additional
radio; what lies behind the array is taken for more of its entries.
-/

open Hal

namespace SetConf

open TxGain (lgwHalSuccess lgwHalError lgwHalError_ne TxGainTable)

/-! ## The configuration -/

/-- `struct lgw_rssi_tcomp_s`. -/
structure LgwRssiTcomp (F : Type) where
  coeffA : F
  coeffB : F
  coeffC : F
  coeffD : F
  coeffE : F

/-- `struct lgw_conf_rxrf_s`. -/
structure LgwConfRxrf (F : Type) where
  enable : Bool
  freqHz : UInt32
  rssiOffset : F
  rssiTcomp : LgwRssiTcomp F
  type : LgwRadioType
  txEnable : Bool
  singleInputMode : Bool

/-- `struct lgw_conf_rxif_s`. -/
structure LgwConfRxif where
  enable : Bool
  rfChain : UInt8
  /-- Relative to the frequency of the RF chain. -/
  freqHz : Int32
  bandwidth : UInt8
  datarate : UInt32
  syncWordSize : UInt8
  syncWord : UInt64
  implicitHdr : Bool
  implicitPayloadLength : UInt8
  implicitCrcEn : Bool
  implicitCoderate : UInt8
deriving DecidableEq

/-- `struct lgw_conf_chan_lbt_s`. -/
structure LgwConfChanLbt where
  freqHz : UInt32
  bandwidth : UInt8
  scanTimeUs : UInt32
  transmitTimeMs : UInt16
deriving DecidableEq

/-- `struct lgw_conf_lbt_s`. -/
structure LgwConfLbt where
  enable : Bool
  rssiTarget : Int8
  nbChannel : UInt8
  channels : ℕ → LgwConfChanLbt

/-- `struct lgw_conf_sx1261_s`. -/
structure LgwConfSx1261 where
  enable : Bool
  spiPath : Fin 64 → UInt8
  rssiOffset : Int8
  lbtConf : LgwConfLbt

/-- `lgw_context_t`, what is written to here. -/
structure LgwContext (F : Type) where
  isStarted : Bool
  rfChainCfg : UInt8 → LgwConfRxrf F
  ifChainCfg : UInt8 → LgwConfRxif
  loraServiceCfg : LgwConfRxif
  fskCfg : LgwConfRxif
  txGainLut : UInt8 → TxGainTable
  sx1261Cfg : LgwConfSx1261

variable {F : Type}

/-- The context as it is initialized; the other members of a structure are zero. -/
def LgwContext.start (zero : F) : LgwContext F where
  isStarted := false
  rfChainCfg _ := ⟨false, 0, zero, ⟨zero, zero, zero, zero, zero⟩, .none, false, false⟩
  ifChainCfg _ := ⟨false, 0, 0, 0, 0, 0, 0, false, 0, false, 0⟩
  loraServiceCfg := ⟨false, 0, 0, bw250khz, drLoraSf7, 0, 0, false, 0, false, 0⟩
  fskCfg := ⟨false, 0, 0, bw125khz, 50000, 3, 0xC194C1, false, 0, false, 0⟩
  txGainLut _ :=
    { lut := ⟨14, 0, 2, 3, 10, 0, 0, 0⟩ :: List.replicate 15 ⟨0, 0, 0, 0, 0, 0, 0, 0⟩
      size := 1
      length_lut := by decide }
  sx1261Cfg :=
    { enable := false
      spiPath := fun i => ("/dev/spidev0.1".toList.map fun c => UInt8.ofNat c.toNat).getD i 0
      rssiOffset := 0
      lbtConf := ⟨false, 0, 0, fun _ => ⟨0, 0, 0, 0⟩⟩ }

/-! ## The radios -/

/-- `LGW_RF_RX_FREQ_MIN`. -/
def lgwRfRxFreqMin : UInt32 := 100000000

/-- `LGW_RF_RX_FREQ_MAX`. -/
def lgwRfRxFreqMax : UInt32 := 1000000000

/-- `lgw_rxrf_setconf`. -/
def lgwRxrfSetconf (context : LgwContext F) (rfChain : UInt8) :
    Option (LgwConfRxrf F) → ℤ × LgwContext F
  | none => (lgwHalError, context)
  | some conf =>
    if context.isStarted then (lgwHalError, context)
    else if conf.enable = false then (lgwHalSuccess, context)
    else if rfChainNb ≤ rfChain.toNat then (lgwHalError, context)
    else if conf.type ≠ .sx1255 ∧ conf.type ≠ .sx1257 ∧ conf.type ≠ .sx1250 then
      (lgwHalError, context)
    else if conf.freqHz < lgwRfRxFreqMin ∨ lgwRfRxFreqMax < conf.freqHz then
      (lgwHalError, context)
    else
      (lgwHalSuccess, { context with
        rfChainCfg := Function.update context.rfChainCfg rfChain
          { enable := conf.enable
            freqHz := conf.freqHz
            rssiOffset := conf.rssiOffset
            rssiTcomp :=
              { coeffA := conf.rssiTcomp.coeffA
                coeffB := conf.rssiTcomp.coeffB
                coeffC := conf.rssiTcomp.coeffC
                coeffD := conf.rssiTcomp.coeffD
                coeffE := conf.rssiTcomp.coeffE }
            type := conf.type
            txEnable := conf.txEnable
            singleInputMode := conf.singleInputMode } })

/-! ## The chains -/

/-- `BW_UNDEFINED`. -/
def bwUndefined : UInt8 := 0

/-- `LGW_REF_BW`. -/
def lgwRefBw : Int32 := 125000

/-- `LGW_RF_RX_BANDWIDTH_125KHZ`. -/
def lgwRfRxBandwidth125khz : Int32 := 1600000

/-- `LGW_RF_RX_BANDWIDTH_250KHZ`. -/
def lgwRfRxBandwidth250khz : Int32 := 1600000

/-- `LGW_RF_RX_BANDWIDTH_500KHZ`. -/
def lgwRfRxBandwidth500khz : Int32 := 1600000

/-- `lgw_bw_getval`. -/
def lgwBwGetval (x : UInt8) : Int32 :=
  if x = bw500khz then 500000
  else if x = bw250khz then 250000
  else if x = bw125khz then 125000
  else -1

/-- `rf_rx_bandwidth`, of the radio. -/
def rfRxBandwidth (bandwidth : UInt8) : Int32 :=
  if bandwidth = bw250khz then lgwRfRxBandwidth250khz
  else if bandwidth = bw500khz then lgwRfRxBandwidth500khz
  else lgwRfRxBandwidth125khz

/-- Half the bandwidth of a channel. -/
def halfBandwidth (bandwidth : UInt8) : Int32 :=
  (if lgwBwGetval bandwidth = -1 then lgwRefBw else lgwBwGetval bandwidth) / 2

/-- `IS_LORA_BW`. -/
def IsLoraBw (bw : UInt8) : Prop := bw = bw125khz ∨ bw = bw250khz ∨ bw = bw500khz

/-- `IS_LORA_DR`. -/
def IsLoraDr (dr : UInt32) : Prop :=
  dr = 5 ∨ dr = 6 ∨ dr = 7 ∨ dr = 8 ∨ dr = 9 ∨ dr = 10 ∨ dr = 11 ∨ dr = 12

/-- `IS_FSK_BW`. -/
def IsFskBw (bw : UInt8) : Prop := 1 ≤ bw ∧ bw ≤ 7

/-- `IS_FSK_DR`. -/
def IsFskDr (dr : UInt32) : Prop := 500 ≤ dr ∧ dr ≤ 250000

instance (bw : UInt8) : Decidable (IsLoraBw bw) := inferInstanceAs (Decidable (_ ∨ _))

instance (dr : UInt32) : Decidable (IsLoraDr dr) := inferInstanceAs (Decidable (_ ∨ _))

instance (bw : UInt8) : Decidable (IsFskBw bw) := inferInstanceAs (Decidable (_ ∧ _))

instance (dr : UInt32) : Decidable (IsFskDr dr) := inferInstanceAs (Decidable (_ ∧ _))

/-- The defaults of a modem are filled in. -/
def LgwConfRxif.fill (conf : LgwConfRxif) (bandwidth : UInt8) (datarate : UInt32) :
    LgwConfRxif :=
  { conf with
    bandwidth := if conf.bandwidth = bwUndefined then bandwidth else conf.bandwidth
    datarate := if conf.datarate = drUndefined then datarate else conf.datarate }

/-- What every modem stores of the chain. -/
def LgwContext.setIfChain (context : LgwContext F) (ifChain : UInt8) (conf : LgwConfRxif) :
    LgwContext F :=
  { context with
    ifChainCfg := Function.update context.ifChainCfg ifChain
      { context.ifChainCfg ifChain with
        enable := conf.enable
        rfChain := conf.rfChain
        freqHz := conf.freqHz } }

/-- `lgw_rxif_setconf`, the case `IF_LORA_STD`. -/
def setLoraStd (context : LgwContext F) (ifChain : UInt8) (conf : LgwConfRxif) :
    ℤ × LgwContext F :=
  if ¬ IsLoraBw conf.bandwidth then (lgwHalError, context)
  else if ¬ IsLoraDr conf.datarate then (lgwHalError, context)
  else
    (lgwHalSuccess, { context.setIfChain ifChain conf with
      loraServiceCfg :=
        { context.loraServiceCfg with
          bandwidth := conf.bandwidth
          datarate := conf.datarate
          implicitHdr := conf.implicitHdr
          implicitPayloadLength := conf.implicitPayloadLength
          implicitCrcEn := conf.implicitCrcEn
          implicitCoderate := conf.implicitCoderate } })

/-- `lgw_rxif_setconf`, the case `IF_LORA_MULTI`. -/
def setLoraMulti (context : LgwContext F) (ifChain : UInt8) (conf : LgwConfRxif) :
    ℤ × LgwContext F :=
  if conf.bandwidth ≠ bw125khz then (lgwHalError, context)
  else if ¬ IsLoraDr conf.datarate then (lgwHalError, context)
  else (lgwHalSuccess, context.setIfChain ifChain conf)

/-- `lgw_rxif_setconf`, the case `IF_FSK_STD`. -/
def setFskStd (context : LgwContext F) (ifChain : UInt8) (conf : LgwConfRxif) :
    ℤ × LgwContext F :=
  if ¬ IsFskBw conf.bandwidth then (lgwHalError, context)
  else if ¬ IsFskDr conf.datarate then (lgwHalError, context)
  else
    (lgwHalSuccess, { context.setIfChain ifChain conf with
      fskCfg :=
        { context.fskCfg with
          bandwidth := conf.bandwidth
          datarate := conf.datarate
          syncWordSize :=
            if 0 < conf.syncWord then conf.syncWordSize else context.fskCfg.syncWordSize
          syncWord := if 0 < conf.syncWord then conf.syncWord else context.fskCfg.syncWord } })

/-- `lgw_rxif_setconf`: the status, the context, and the argument, in which the defaults are
filled. No chain has an undefined modem. -/
def lgwRxifSetconf (context : LgwContext F) (ifChain : UInt8) :
    Option LgwConfRxif → (ℤ × LgwContext F) × Option LgwConfRxif
  | none => ((lgwHalError, context), none)
  | some conf =>
    if context.isStarted then ((lgwHalError, context), some conf)
    else if ifChainNb ≤ ifChain.toNat then ((lgwHalError, context), some conf)
    else if conf.enable = false then
      ((lgwHalSuccess, { context with
        ifChainCfg := Function.update context.ifChainCfg ifChain
          { context.ifChainCfg ifChain with enable := false, freqHz := 0 } }), some conf)
    else if rfChainNb ≤ conf.rfChain.toNat then ((lgwHalError, context), some conf)
    else if rfRxBandwidth conf.bandwidth / 2 < conf.freqHz + halfBandwidth conf.bandwidth then
      ((lgwHalError, context), some conf)
    else if conf.freqHz - halfBandwidth conf.bandwidth < -(rfRxBandwidth conf.bandwidth / 2) then
      ((lgwHalError, context), some conf)
    else
      match ifmodConfig ifChain with
      | .loraStd =>
        let conf := conf.fill bw250khz drLoraSf7
        (setLoraStd context ifChain conf, some conf)
      | .loraMulti =>
        let conf := conf.fill bw125khz drLoraSf7
        (setLoraMulti context ifChain conf, some conf)
      | .fskStd =>
        let conf := conf.fill bw250khz 64000
        (setFskStd context ifChain conf, some conf)

/-! ## The gain table -/

/-- `lgw_txgain_setconf`. -/
def lgwTxgainSetconf (context : LgwContext F) (rfChain : UInt8) :
    Option TxGainTable → ℤ × LgwContext F
  | none => (lgwHalError, context)
  | some conf =>
    let r := TxGain.lgwTxgainSetconf (context.txGainLut rfChain) conf
    (r.1, { context with txGainLut := Function.update context.txGainLut rfChain r.2 })

/-! ## The additional radio -/

/-- `strncpy` of the path, and the last byte. -/
def copyPath (path : Fin 64 → UInt8) (i : Fin 64) : UInt8 :=
  if i = 63 then 0 else if ∀ j ≤ i, path j ≠ 0 then path i else 0

/-- The channel is one the radio can listen to. -/
def ChannelSupported (channel : LgwConfChanLbt) : Prop :=
  (channel.bandwidth = bw125khz ∨ channel.bandwidth = bw250khz)
    ∧ (channel.scanTimeUs = 128 ∨ channel.scanTimeUs = 5000)

instance (channel : LgwConfChanLbt) : Decidable (ChannelSupported channel) :=
  inferInstanceAs (Decidable (_ ∧ _))

/-- A channel is stored. -/
def LgwConfSx1261.setChannel (cfg : LgwConfSx1261) (i : ℕ) (channel : LgwConfChanLbt) :
    LgwConfSx1261 :=
  { cfg with lbtConf := { cfg.lbtConf with
    channels := Function.update cfg.lbtConf.channels i channel } }

/-- What is stored before the channels. -/
def LgwConfSx1261.setHead (cfg conf : LgwConfSx1261) : LgwConfSx1261 where
  enable := conf.enable
  spiPath := copyPath conf.spiPath
  rssiOffset := conf.rssiOffset
  lbtConf :=
    { enable := conf.lbtConf.enable
      rssiTarget := conf.lbtConf.rssiTarget
      nbChannel := conf.lbtConf.nbChannel
      channels := cfg.lbtConf.channels }

/-- The loop of `lgw_sx1261_setconf`. -/
def setChannels (conf : LgwConfSx1261) : List ℕ → LgwConfSx1261 → Bool × LgwConfSx1261 :=
  StoreLoop.storeValid (fun i => ChannelSupported (conf.lbtConf.channels i))
    fun cfg i => cfg.setChannel i (conf.lbtConf.channels i)

/-- `lgw_sx1261_setconf`. -/
def lgwSx1261Setconf (context : LgwContext F) : Option LgwConfSx1261 → ℤ × LgwContext F
  | none => (lgwHalError, context)
  | some conf =>
    let r := setChannels conf (List.range conf.lbtConf.nbChannel.toNat)
      (context.sx1261Cfg.setHead conf)
    (if r.1 then lgwHalSuccess else lgwHalError, { context with sx1261Cfg := r.2 })

/-! ## All or nothing -/

/-- A call of one of the functions. -/
inductive SetConfCall (F : Type) where
  | rxrf (rfChain : UInt8) (conf : Option (LgwConfRxrf F))
  | rxif (ifChain : UInt8) (conf : Option LgwConfRxif)
  | txgain (rfChain : UInt8) (conf : Option TxGainTable)
  | sx1261 (conf : Option LgwConfSx1261)

/-- The status and the context after it. -/
def SetConfCall.run (context : LgwContext F) : SetConfCall F → ℤ × LgwContext F
  | .rxrf rfChain conf => lgwRxrfSetconf context rfChain conf
  | .rxif ifChain conf => (lgwRxifSetconf context ifChain conf).1
  | .txgain rfChain conf => lgwTxgainSetconf context rfChain conf
  | .sx1261 conf => lgwSx1261Setconf context conf

/-- **An error leaves the context what it was.** -/
def KeptOnError (context : LgwContext F) (r : ℤ × LgwContext F) : Prop :=
  r.1 = lgwHalError → r.2 = context

/-- **The call is all or nothing.** -/
def AllOrNothing (context : LgwContext F) (call : SetConfCall F) : Prop :=
  KeptOnError context (call.run context)

/-- **The table does no harm**: its size is refused, or no entry is, or the size and the entries
before the first that is refused are stored already. -/
def GainsHarmless (stored conf : TxGainTable) : Prop :=
  (conf.size < 1 ∨ TxGain.txGainLutSizeMax < conf.size.toNat)
    ∨ (∀ i < conf.size.toNat, TxGain.InRange (conf.entry i))
    ∨ stored.size = conf.size
      ∧ ∀ i < conf.size.toNat, (∀ j ≤ i, TxGain.InRange (conf.entry j)) →
        stored.entry i = TxGain.uncalibrated (conf.entry i)

/-- What is stored before the channels is stored already. -/
structure HeadStored (stored conf : LgwConfSx1261) : Prop where
  enable : stored.enable = conf.enable
  spiPath : stored.spiPath = copyPath conf.spiPath
  rssiOffset : stored.rssiOffset = conf.rssiOffset
  lbtEnable : stored.lbtConf.enable = conf.lbtConf.enable
  rssiTarget : stored.lbtConf.rssiTarget = conf.lbtConf.rssiTarget
  nbChannel : stored.lbtConf.nbChannel = conf.lbtConf.nbChannel

/-- **The radio does no harm**: no channel is refused, or what comes before the channels and
those before the first that is refused are stored already. -/
def RadioHarmless (stored conf : LgwConfSx1261) : Prop :=
  (∀ i < conf.lbtConf.nbChannel.toNat, ChannelSupported (conf.lbtConf.channels i))
    ∨ HeadStored stored conf
      ∧ ∀ i < conf.lbtConf.nbChannel.toNat,
        (∀ j ≤ i, ChannelSupported (conf.lbtConf.channels j)) →
        stored.lbtConf.channels i = conf.lbtConf.channels i

/-- **The call does no harm.** Those for the radios and the chains never do. -/
def SetConfCall.Harmless (context : LgwContext F) : SetConfCall F → Prop
  | .rxrf _ _ => True
  | .rxif _ _ => True
  | .txgain rfChain conf => ∀ t ∈ conf, GainsHarmless (context.txGainLut rfChain) t
  | .sx1261 conf => ∀ r ∈ conf, RadioHarmless context.sx1261Cfg r

/-! ### Those that check first -/

section CheckFirst

variable (context : LgwContext F) {p : Prop} [Decidable p]

theorem keptOnError_refuse : KeptOnError context (lgwHalError, context) := fun _ => rfl

theorem keptOnError_success (after : LgwContext F) :
    KeptOnError context (lgwHalSuccess, after) :=
  fun h => absurd h.symm lgwHalError_ne

variable {context}

theorem KeptOnError.ite {r r' : ℤ × LgwContext F} (h : KeptOnError context r)
    (h' : KeptOnError context r') : KeptOnError context (if p then r else r') := by
  split_ifs
  · exact h
  · exact h'

theorem KeptOnError.check {r : ℤ × LgwContext F} (h : KeptOnError context r) :
    KeptOnError context (if p then (lgwHalError, context) else r) :=
  (keptOnError_refuse context).ite h

variable (context)

theorem keptOnError_setLoraStd (ifChain : UInt8) (conf : LgwConfRxif) :
    KeptOnError context (setLoraStd context ifChain conf) :=
  (keptOnError_success context _).check.check

theorem keptOnError_setLoraMulti (ifChain : UInt8) (conf : LgwConfRxif) :
    KeptOnError context (setLoraMulti context ifChain conf) :=
  (keptOnError_success context _).check.check

theorem keptOnError_setFskStd (ifChain : UInt8) (conf : LgwConfRxif) :
    KeptOnError context (setFskStd context ifChain conf) :=
  (keptOnError_success context _).check.check

/-- The function for the chains stores nothing when it returns an error. -/
theorem keptOnError_lgwRxifSetconf (ifChain : UInt8) (conf : Option LgwConfRxif) :
    KeptOnError context (lgwRxifSetconf context ifChain conf).1 := by
  cases conf with
  | none => exact keptOnError_refuse context
  | some conf =>
    unfold lgwRxifSetconf
    simp only [apply_ite Prod.fst]
    refine .check (.check (.ite (keptOnError_success context _) (.check (.check (.check ?_)))))
    cases ifmodConfig ifChain with
    | loraStd => exact keptOnError_setLoraStd context ifChain _
    | loraMulti => exact keptOnError_setLoraMulti context ifChain _
    | fskStd => exact keptOnError_setFskStd context ifChain _

theorem keptOnError_lgwRxrfSetconf (rfChain : UInt8) (conf : Option (LgwConfRxrf F)) :
    KeptOnError context (lgwRxrfSetconf context rfChain conf) := by
  cases conf with
  | none => exact keptOnError_refuse context
  | some conf =>
    unfold lgwRxrfSetconf
    exact .check (.ite (keptOnError_success context _)
      (.check (.check (.check (keptOnError_success context _)))))

end CheckFirst

/-! ### Those that store as they check -/

/-- The loop over the gains stores the entries as they are found valid. -/
theorem setGains_eq (conf : TxGainTable) (is : List ℕ) (stored : TxGainTable) :
    TxGain.setGains conf is stored =
      let r := StoreLoop.storeValid (fun i => TxGain.InRange (conf.entry i))
        (fun t i => TxGainTable.setEntry t i (TxGain.uncalibrated (conf.entry i))) is stored
      (if r.1 then lgwHalSuccess else lgwHalError, r.2) := by
  induction is generalizing stored with
  | nil => rfl
  | cons i is ih =>
    rw [TxGain.setGains, StoreLoop.storeValid]
    split_ifs
    · exact ih _
    · rfl

/-- A gain is stored in its place of the sixteen. -/
theorem stores_setEntry (conf : TxGainTable) :
    StoreLoop.Stores (fun i => i < TxGain.txGainLutSizeMax) (fun t : TxGainTable => t.entry)
      (fun i => TxGain.uncalibrated (conf.entry i))
      fun t i => t.setEntry i (TxGain.uncalibrated (conf.entry i)) where
  get_store t i j hi := TxGain.entry_setEntry t hi _ j
  store_eq t i h := by
    obtain ⟨⟨lut, size⟩, hlength⟩ := t
    have hlut : lut.set i (TxGain.uncalibrated (conf.entry i)) = lut := by
      rw [← h]
      rcases Nat.lt_or_ge i lut.length with hi | hi
      · show lut.set i (lut[i]?.getD _) = lut
        rw [List.getElem?_eq_getElem hi, Option.getD_some, List.set_getElem_self]
      · exact List.set_eq_of_length_le hi
    simp only [TxGainTable.setEntry, hlut]

theorem stores_setChannel (conf : LgwConfSx1261) :
    StoreLoop.Stores (fun _ => True) (fun cfg : LgwConfSx1261 => cfg.lbtConf.channels)
      conf.lbtConf.channels fun cfg i => cfg.setChannel i (conf.lbtConf.channels i) where
  get_store cfg i j _ := by
    show Function.update cfg.lbtConf.channels i (conf.lbtConf.channels i) j = _
    by_cases hij : i = j
    · rw [if_pos hij, ← hij, Function.update_self]
    · rw [if_neg hij, Function.update_of_ne (Ne.symm hij)]
  store_eq cfg i h := by
    unfold LgwConfSx1261.setChannel
    rw [← h, Function.update_eq_self]

/-- The status is an error when the loop came to an entry that is not valid. -/
theorem status_eq_error (b : Bool) :
    (if b then lgwHalSuccess else lgwHalError) = lgwHalError ↔ b = false := by
  cases b
  · exact iff_of_true rfl rfl
  · exact iff_of_false lgwHalError_ne.symm Bool.false_ne_true.symm

/-- A table that is refused was stored before, or else the context has changed. -/
theorem gains_kept_iff (stored conf : TxGainTable) :
    ((TxGain.lgwTxgainSetconf stored conf).1 = lgwHalError →
      (TxGain.lgwTxgainSetconf stored conf).2 = stored) ↔ GainsHarmless stored conf := by
  rw [TxGain.lgwTxgainSetconf, GainsHarmless]
  by_cases hsize : conf.size < 1 ∨ TxGain.txGainLutSizeMax < conf.size.toNat
  · rw [if_pos hsize]
    exact iff_of_true (fun _ => rfl) (.inl hsize)
  · have hplace : ∀ i < conf.size.toNat, i < TxGain.txGainLutSizeMax := fun i hi =>
      hi.trans_le (not_lt.mp (not_or.mp hsize).2)
    have hsame : stored.size = conf.size →
        ({ stored with size := conf.size } : TxGainTable) = stored := fun heq => by rw [← heq]
    rw [if_neg hsize, setGains_eq, or_iff_right hsize]
    dsimp only
    rw [status_eq_error]
    exact (stores_setEntry conf).kept_iff (fun t => t.size) (fun _ _ => rfl) _ hplace hsame

/-- The function for the gain table changes that of the chain only. -/
theorem keptOnError_lgwTxgainSetconf_iff (context : LgwContext F) (rfChain : UInt8)
    (conf : TxGainTable) : KeptOnError context (lgwTxgainSetconf context rfChain (some conf))
      ↔ GainsHarmless (context.txGainLut rfChain) conf := by
  rw [← gains_kept_iff]
  refine imp_congr_right fun _ => ?_
  constructor
  · intro hsame
    have hlut := congrFun (congrArg LgwContext.txGainLut hsame) rfChain
    exact (Function.update_self rfChain _ context.txGainLut).symm.trans hlut
  · intro hsame
    simp only [lgwTxgainSetconf, hsame, Function.update_eq_self]

/-- What is stored before the channels. -/
def LgwConfSx1261.head (cfg : LgwConfSx1261) :
    Bool × (Fin 64 → UInt8) × Int8 × Bool × Int8 × UInt8 :=
  (cfg.enable, cfg.spiPath, cfg.rssiOffset, cfg.lbtConf.enable, cfg.lbtConf.rssiTarget,
    cfg.lbtConf.nbChannel)

theorem headStored_iff (stored conf : LgwConfSx1261) :
    stored.head = (stored.setHead conf).head ↔ HeadStored stored conf := by
  unfold LgwConfSx1261.head LgwConfSx1261.setHead
  simp only [Prod.mk.injEq]
  exact ⟨fun ⟨h₁, h₂, h₃, h₄, h₅, h₆⟩ => ⟨h₁, h₂, h₃, h₄, h₅, h₆⟩,
    fun h => ⟨h.enable, h.spiPath, h.rssiOffset, h.lbtEnable, h.rssiTarget, h.nbChannel⟩⟩

theorem setHead_eq {stored conf : LgwConfSx1261} (h : HeadStored stored conf) :
    stored.setHead conf = stored := by
  obtain ⟨enable, spiPath, rssiOffset, lbtEnable, rssiTarget, nbChannel⟩ := h
  unfold LgwConfSx1261.setHead
  rw [← enable, ← spiPath, ← rssiOffset, ← lbtEnable, ← rssiTarget, ← nbChannel]

/-- A radio that is refused was stored before, or else the context has changed. -/
theorem keptOnError_lgwSx1261Setconf_iff (context : LgwContext F) (conf : LgwConfSx1261) :
    KeptOnError context (lgwSx1261Setconf context (some conf))
      ↔ RadioHarmless context.sx1261Cfg conf := by
  set stored := context.sx1261Cfg with hstored
  set r := setChannels conf (List.range conf.lbtConf.nbChannel.toNat) (stored.setHead conf) with hr
  have hkept : KeptOnError context (lgwSx1261Setconf context (some conf))
      ↔ (r.1 = false → r.2 = stored) := by
    rw [← status_eq_error]
    refine imp_congr_right fun _ =>
      ⟨fun hsame => congrArg LgwContext.sx1261Cfg hsame, fun hsame => ?_⟩
    show { context with sx1261Cfg := r.2 } = context
    rw [hsame]
  rw [hkept, RadioHarmless, ← headStored_iff]
  exact (stores_setChannel conf).kept_iff LgwConfSx1261.head (fun _ _ => rfl) _
    (fun _ _ => trivial) fun hhead => setHead_eq ((headStored_iff stored conf).mp hhead)

/-- **A call is all or nothing exactly when it does no harm.** -/
theorem allOrNothing_iff (context : LgwContext F) (call : SetConfCall F) :
    AllOrNothing context call ↔ call.Harmless context := by
  cases call with
  | rxrf rfChain conf =>
    exact iff_of_true (keptOnError_lgwRxrfSetconf context rfChain conf) trivial
  | rxif ifChain conf =>
    exact iff_of_true (keptOnError_lgwRxifSetconf context ifChain conf) trivial
  | txgain rfChain conf =>
    cases conf with
    | none =>
      exact iff_of_true (keptOnError_refuse context)
        fun t ht => absurd ht (Option.not_mem_none t)
    | some conf =>
      refine (keptOnError_lgwTxgainSetconf_iff context rfChain conf).trans ?_
      exact ⟨fun h t ht => Option.some_inj.mp ht ▸ h, fun h => h conf rfl⟩
  | sx1261 conf =>
    cases conf with
    | none =>
      exact iff_of_true (keptOnError_refuse context)
        fun r hr => absurd hr (Option.not_mem_none r)
    | some conf =>
      refine (keptOnError_lgwSx1261Setconf_iff context conf).trans ?_
      exact ⟨fun h r hr => Option.some_inj.mp hr ▸ h, fun h => h conf rfl⟩

/-- A gain table of two entries, the second with a digital gain of four. -/
def refusedGains : TxGainTable where
  lut := [⟨12, 0, 0, 3, 12, 0, 0, 0⟩, ⟨14, 4, 0, 3, 12, 0, 0, 0⟩]
    ++ List.replicate 14 ⟨0, 0, 0, 0, 0, 0, 0, 0⟩
  size := 2
  length_lut := by decide

/-- **A table that is refused replaces the size** and an entry of the one there was. -/
theorem not_allOrNothing_refusedGains :
    ¬ AllOrNothing (LgwContext.start (0 : ℤ)) (.txgain 0 (some refusedGains)) := by
  intro h
  have hsame := h (by decide +kernel)
  have hsize : (2 : UInt8) = 1 := congrArg (fun c => (c.txGainLut 0).size) hsame
  exact absurd hsize (by decide)

end SetConf
