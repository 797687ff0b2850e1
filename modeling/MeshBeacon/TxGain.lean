import MeshBeacon.DownlinkLoops
import MeshBeacon.Sx1302Send
import MeshBeacon.TableSearch
import Mathlib.Order.Bounds.Basic

/-!
# The gain of a power

The gain table of an RF chain is read from the configuration and kept twice, as the
forwarder's own (`txlut`) and as the library's, which `lgw_txgain_setconf` fills. For
a downlink both are searched. The forwarder replaces the power that was requested by the
closest lower one its table has, and the library looks for the gain of that power.

The two searches differ. The forwarder goes through the whole table. The library walks
down from the last entry and takes the first that is not above the power: it relies on an
ascending table, which nothing checks. An entry of less power, behind those of the
power asked for, is taken in place of them.
-/

open Hal

namespace TxGain

/-! ## The configuration -/

/-- `TX_GAIN_LUT_SIZE_MAX`. -/
def txGainLutSizeMax : ℕ := 16

/-- `LGW_HAL_SUCCESS`. -/
def lgwHalSuccess : ℤ := 0

/-- `LGW_HAL_ERROR`. -/
def lgwHalError : ℤ := -1

/-- A table in memory, which has all of its entries, configured or not. -/
structure TxGainTable extends LgwTxGainLut where
  length_lut : lut.length = txGainLutSizeMax

/-- A member of an object of the configuration: it may be missing, and is to be a number. Of
a number the integer part is kept. -/
inductive GainValue where
  | missing
  | number (n : ℤ)
  | other
deriving DecidableEq

/-- The cast to `int8_t`, or what stands in for a value that is not a number. -/
def GainValue.int8 : GainValue → Int8 → Int8
  | .number n, _ => Int8.ofInt n
  | _, default => default

/-- The cast to `uint8_t`, or what stands in for a value that is not a number. -/
def GainValue.uint8 : GainValue → UInt8 → UInt8
  | .number n, _ => UInt8.ofInt n
  | _, default => default

/-- An element of `tx_gain_lut`. One that is not an object has no members. -/
structure TxGainObject where
  rfPower : GainValue
  paGain : GainValue
  digGain : GainValue
  dacGain : GainValue
  mixGain : GainValue
  pwrIdx : GainValue

/-- An entry as it is parsed. -/
def parseTxGain (sx1250TxLut : Bool) (conf : TxGainObject) : LgwTxGain where
  rfPower := conf.rfPower.int8 0
  paGain := conf.paGain.uint8 0
  digGain := if sx1250TxLut then 0 else conf.digGain.uint8 0
  dacGain := if sx1250TxLut then 0 else conf.dacGain.uint8 3
  mixGain := if sx1250TxLut then 5 else conf.mixGain.uint8 0
  offsetI := 0
  offsetQ := 0
  pwrIdx := if sx1250TxLut then conf.pwrIdx.uint8 0 else 0

/-- `parse_SX130x_configuration`, the table of an RF chain. The first object decides which
radio it is for, and the size has eight bits. -/
def parseTxGainLut (array : List TxGainObject) : TxGainTable where
  lut := (List.range txGainLutSizeMax).map fun j =>
    if j < (UInt8.ofNat array.length).toNat then
      array[j]?.elim ⟨0, 0, 0, 0, 0, 0, 0, 0⟩
        (parseTxGain (array.head?.any fun conf => conf.pwrIdx ≠ .missing))
    else ⟨0, 0, 0, 0, 0, 0, 0, 0⟩
  size := UInt8.ofNat array.length
  length_lut := by rw [List.length_map, List.length_range]

/-- An entry is stored. -/
def TxGainTable.setEntry (t : TxGainTable) (i : ℕ) (g : LgwTxGain) : TxGainTable where
  lut := t.lut.set i g
  size := t.size
  length_lut := by rw [List.length_set, t.length_lut]

/-- The gains of an entry are in range. -/
def InRange (g : LgwTxGain) : Prop :=
  g.digGain ≤ 3 ∧ g.dacGain ≤ 3 ∧ 5 ≤ g.mixGain ∧ g.mixGain ≤ 15 ∧ g.paGain ≤ 3 ∧ g.pwrIdx ≤ 22

instance (g : LgwTxGain) : Decidable (InRange g) := inferInstanceAs (Decidable (_ ∧ _))

/-- An entry whose offsets are to be calibrated. -/
def uncalibrated (g : LgwTxGain) : LgwTxGain := { g with offsetI := 0, offsetQ := 0 }

/-- The loop of `lgw_txgain_setconf`, over the entries that are left. -/
def setGains (conf : TxGainTable) : List ℕ → TxGainTable → ℤ × TxGainTable
  | [], context => (lgwHalSuccess, context)
  | i :: is, context =>
    if InRange (conf.entry i) then
      setGains conf is (context.setEntry i (uncalibrated (conf.entry i)))
    else (lgwHalError, context)

/-- `lgw_txgain_setconf`. -/
def lgwTxgainSetconf (context conf : TxGainTable) : ℤ × TxGainTable :=
  if conf.size < 1 ∨ txGainLutSizeMax < conf.size.toNat then (lgwHalError, context)
  else setGains conf (List.range conf.size.toNat) { context with size := conf.size }

/-- The end of `sx1302_cal_start`, which fills in the offsets. -/
def TxGainTable.calibrate (t : TxGainTable) (offset : ℕ → Int8 × Int8) : TxGainTable where
  lut := t.lut.mapIdx fun i g =>
    if i < t.size.toNat then { g with offsetI := (offset i).1, offsetQ := (offset i).2 } else g
  size := t.size
  length_lut := by rw [List.length_mapIdx, t.length_lut]

/-- What the forwarder reads of its own table. -/
def TxGainTable.txChain (t : TxGainTable) (txFreqMin txFreqMax : UInt32) : TxChain where
  txFreqMin := txFreqMin
  txFreqMax := txFreqMax
  lut := t.lut.map LgwTxGain.rfPower
  size := t.size

/-! ## Powers -/

/-- The power of an entry. -/
def TxGainTable.power (t : TxGainTable) (i : ℕ) : ℤ := (t.entry i).rfPower.toInt

/-- The powers of a table that are not above the requested one. -/
def powersBelow (t : TxGainTable) (request : Int8) : Set ℤ :=
  {x | (∃ i < t.size.toNat, t.power i = x) ∧ x ≤ request.toInt}

/-- **The gain is right**: it is that of the power that is sent, which is the greatest of the
table not above the request, if there is one. -/
structure PowerRight (t : TxGainTable) (request : Int8) (sent : LgwPktTx)
    (programmed : LgwTxGain) : Prop where
  same : programmed.rfPower = sent.rfPower
  greatest : (powersBelow t request).Nonempty →
    IsGreatest (powersBelow t request) programmed.rfPower.toInt

/-- **The power for a request**: the greatest one not above it, or the first of the table. -/
def IsPowerFor (t : TxGainTable) (request : Int8) (x : ℤ) : Prop :=
  IsGreatest (powersBelow t request) x ∨ powersBelow t request = ∅ ∧ x = t.power 0

/-- **The power for a request is in place**: behind some entry of that power all are of more. -/
def InPlace (t : TxGainTable) (request : Int8) : Prop :=
  ∃ k < t.size.toNat, IsPowerFor t request (t.power k)
    ∧ ∀ j < t.size.toNat, k < j → t.power k < t.power j

/-! ## What is accepted -/

theorem lgwHalError_ne : lgwHalError ≠ lgwHalSuccess := by decide

theorem entry_setEntry (t : TxGainTable) {i : ℕ} (hi : i < txGainLutSizeMax) (g : LgwTxGain)
    (j : ℕ) : (t.setEntry i g).entry j = if i = j then g else t.entry j := by
  unfold LgwTxGainLut.entry TxGainTable.setEntry
  rw [List.getElem?_set]
  by_cases hij : i = j
  · rw [if_pos hij, if_pos hij, if_pos (t.length_lut ▸ hi), Option.getD_some]
  · rw [if_neg hij, if_neg hij]

/-- The entries that the loop went through are those of the configuration, but for the offsets. -/
theorem entry_setGains {conf : TxGainTable} {is : List ℕ} (his : ∀ i ∈ is, i < txGainLutSizeMax)
    {context : TxGainTable} (h : (setGains conf is context).1 = lgwHalSuccess) (j : ℕ) :
    (setGains conf is context).2.entry j
      = if j ∈ is then uncalibrated (conf.entry j) else context.entry j := by
  induction is generalizing context with
  | nil => rw [if_neg List.not_mem_nil]; rfl
  | cons i is ih =>
    unfold setGains at h ⊢
    by_cases hrange : InRange (conf.entry i)
    · rw [if_pos hrange] at h ⊢
      rw [ih (fun i hi => his i (List.mem_cons_of_mem _ hi)) h,
        entry_setEntry context (his i List.mem_cons_self)]
      by_cases hj : j ∈ is
      · rw [if_pos hj, if_pos (List.mem_cons_of_mem _ hj)]
      · by_cases hij : i = j
        · rw [if_neg hj, if_pos hij, if_pos (List.mem_cons.mpr (.inl hij.symm)), hij]
        · have hnot : j ∉ i :: is := fun hmem =>
            (List.mem_cons.mp hmem).elim (fun heq => hij heq.symm) hj
          rw [if_neg hj, if_neg hij, if_neg hnot]
    · rw [if_neg hrange] at h
      exact absurd h lgwHalError_ne

theorem size_setGains (conf : TxGainTable) (is : List ℕ) (context : TxGainTable) :
    (setGains conf is context).2.size = context.size := by
  induction is generalizing context with
  | nil => rfl
  | cons i is ih =>
    unfold setGains
    split_ifs
    · exact ih _
    · rfl

/-- **What is accepted** has an entry, and the library's table is then the forwarder's, but for
the offsets. -/
theorem lgwTxgainSetconf_spec {context conf : TxGainTable}
    (h : (lgwTxgainSetconf context conf).1 = lgwHalSuccess) :
    0 < conf.size.toNat ∧ (lgwTxgainSetconf context conf).2.size = conf.size
      ∧ ∀ i < conf.size.toNat,
        (lgwTxgainSetconf context conf).2.entry i = uncalibrated (conf.entry i) := by
  unfold lgwTxgainSetconf at h ⊢
  by_cases hsize : conf.size < 1 ∨ txGainLutSizeMax < conf.size.toNat
  · rw [if_pos hsize] at h
    exact absurd h lgwHalError_ne
  · rw [if_neg hsize] at h ⊢
    obtain ⟨hlow, hhigh⟩ := not_or.mp hsize
    have hrange : ∀ i ∈ List.range conf.size.toNat, i < txGainLutSizeMax := fun i hi =>
      (List.mem_range.mp hi).trans_le (not_lt.mp hhigh)
    refine ⟨?_, size_setGains .., fun i hi => ?_⟩
    · exact Nat.pos_of_ne_zero fun h0 => hlow (UInt8.lt_iff_toNat_lt.mpr (by rw [h0]; decide))
    · rw [entry_setGains hrange h, if_pos (List.mem_range.mpr hi)]

@[simp]
theorem power_calibrate (t : TxGainTable) (offset : ℕ → Int8 × Int8) (i : ℕ) :
    (t.calibrate offset).power i = t.power i := by
  unfold TxGainTable.power LgwTxGainLut.entry TxGainTable.calibrate
  rw [List.getElem?_mapIdx]
  cases t.lut[i]? with
  | none => rfl
  | some g =>
    rw [Option.map_some, Option.getD_some, Option.getD_some]
    split_ifs <;> rfl

@[simp]
theorem rfPower_txChain (t : TxGainTable) (txFreqMin txFreqMax : UInt32) (i : ℕ) :
    (t.txChain txFreqMin txFreqMax).rfPower i = (t.entry i).rfPower := by
  unfold TxChain.rfPower TxGainTable.txChain LgwTxGainLut.entry
  rw [List.getElem?_map]
  cases t.lut[i]? <;> rfl

/-! ## The two searches -/

open TableSearch

/-- The walk of the library is the search for the last entry. -/
theorem powIndex_eq (l : LgwTxGainLut) (rfPower : Int8) (i : ℕ) :
    powIndex l rfPower i = lastBelow (fun i => (l.entry i).rfPower.toInt) rfPower.toInt i := by
  induction i with
  | zero => rfl
  | succ i ih =>
    unfold powIndex lastBelow
    simp only [ih, Int8.le_iff_toInt_le]

/-- One turn of the forwarder's search: the difference it keeps is that of the entry. -/
theorem closestPower_map (c : TxChain) (rfPower : Int8) (best : Option ℕ) (i : ℕ) :
    closestPower c rfPower (best.map fun k => (k, rfPower.toInt - (c.rfPower k).toInt)) i
      = (closerBelow (fun i => (c.rfPower i).toInt) rfPower.toInt best i).map
        fun k => (k, rfPower.toInt - (c.rfPower k).toInt) := by
  unfold closestPower closerBelow
  dsimp only
  by_cases habove : rfPower.toInt < (c.rfPower i).toInt
  · rw [if_pos habove, if_pos (sub_neg.mpr habove)]
  · rw [if_neg habove, if_neg (fun hneg => habove (sub_neg.mp hneg))]
    cases best with
    | none => rfl
    | some k =>
      simp only [Option.map_some, sub_lt_sub_iff_left]
      split_ifs <;> rfl

/-- The forwarder's search is the one for the closest entry. -/
theorem getTxGainLutIndex_eq (c : TxChain) (rfPower : Int8) :
    getTxGainLutIndex c rfPower =
      match closestBelow (fun i => (c.rfPower i).toInt) rfPower.toInt c.size.toNat with
      | some index => (0, UInt8.ofNat index)
      | none => (-1, 0) := by
  have hfold : (List.range c.size.toNat).foldl (closestPower c rfPower) (Option.map _ none)
      = (closestBelow (fun i => (c.rfPower i).toInt) rfPower.toInt c.size.toNat).map _ :=
    List.foldl_hom _ (closestPower_map c rfPower)
  rw [Option.map_none] at hfold
  rw [getTxGainLutIndex, hfold]
  cases closestBelow (fun i => (c.rfPower i).toInt) rfPower.toInt c.size.toNat <;> rfl

theorem getTxGainLutIndex_txChain (t : TxGainTable) (txFreqMin txFreqMax : UInt32)
    (request : Int8) :
    getTxGainLutIndex (t.txChain txFreqMin txFreqMax) request =
      match closestBelow t.power request.toInt t.size.toNat with
      | some index => (0, UInt8.ofNat index)
      | none => (-1, 0) := by
  have hpower : (fun i => ((t.txChain txFreqMin txFreqMax).rfPower i).toInt) = t.power :=
    funext fun i => congrArg Int8.toInt (rfPower_txChain t txFreqMin txFreqMax i)
  rw [getTxGainLutIndex_eq, hpower]
  rfl

/-- A closest entry has the greatest power not above the request. -/
theorem isGreatest_of_isClosest {t : TxGainTable} {request : Int8} {k : ℕ}
    (h : IsClosest t.power request.toInt t.size.toNat k) :
    IsGreatest (powersBelow t request) (t.power k) := by
  refine ⟨⟨⟨k, h.lt, rfl⟩, h.le⟩, ?_⟩
  rintro _ ⟨⟨i, hi, rfl⟩, hle⟩
  exact h.greatest i hi hle

/-- **What the forwarder finds** is an entry with the power for the request. -/
theorem isPowerFor_getTxGainLutIndex {t : TxGainTable} (hpos : 0 < t.size.toNat)
    (txFreqMin txFreqMax : UInt32) (request : Int8) :
    (getTxGainLutIndex (t.txChain txFreqMin txFreqMax) request).2.toNat < t.size.toNat
      ∧ IsPowerFor t request
        (t.power (getTxGainLutIndex (t.txChain txFreqMin txFreqMax) request).2.toNat) := by
  have hspec := closestBelow_spec t.power request.toInt t.size.toNat
  rw [getTxGainLutIndex_txChain]
  generalize closestBelow t.power request.toInt t.size.toNat = found at hspec ⊢
  cases found with
  | none =>
    refine ⟨hpos, .inr ⟨Set.eq_empty_of_forall_notMem ?_, rfl⟩⟩
    rintro _ ⟨⟨i, hi, rfl⟩, hle⟩
    exact not_le_of_gt (hspec i hi) hle
  | some k =>
    have hk : (UInt8.ofNat k).toNat = k := by
      rw [UInt8.toNat_ofNat', Nat.mod_eq_of_lt (hspec.lt.trans t.size.toNat_lt)]
    change (UInt8.ofNat k).toNat < _ ∧ IsPowerFor t request (t.power (UInt8.ofNat k).toNat)
    rw [hk]
    exact ⟨hspec.lt, .inl (isGreatest_of_isClosest hspec)⟩

theorem IsPowerFor.unique {t : TxGainTable} {request : Int8} {x y : ℤ}
    (hx : IsPowerFor t request x) (hy : IsPowerFor t request y) : x = y := by
  rcases hx with hx | ⟨hempty, rfl⟩ <;> rcases hy with hy | ⟨hempty', rfl⟩
  · exact hx.unique hy
  · exact absurd hx.1 (hempty' ▸ Set.notMem_empty x)
  · exact absurd hy.1 (hempty ▸ Set.notMem_empty y)
  · rfl

/-- **What is sent** has the power that the forwarder found, whether it was replaced or was
that already. -/
theorem rfPower_of_outerHandle {chain : ℕ → TxChain} {qs : Qsort JitNode}
    {toa : LgwPktTx → UInt32} {st : DownState} {txpkt : LgwPktTx} {call : JitCall}
    (hcall : call ∈ (outerHandle chain qs toa st txpkt).2.call) :
    call.packet.rfPower = (chain txpkt.rfChain.toNat).rfPower
      (getTxGainLutIndex (chain txpkt.rfChain.toNat) txpkt.rfPower).2.toNat := by
  unfold outerHandle at hcall
  by_cases hfreq : txpkt.freqHz < (chain txpkt.rfChain.toNat).txFreqMin
      ∨ (chain txpkt.rfChain.toNat).txFreqMax < txpkt.freqHz
  · rw [if_pos hfreq] at hcall
    exact absurd hcall (Option.not_mem_none call)
  · rw [if_neg hfreq] at hcall
    obtain rfl := Option.some_inj.mp hcall
    dsimp only
    split_ifs with hwarning
    · rfl
    · exact (not_ne_iff.mp (not_or.mp hwarning).2).symm

/-! ## The gain that is programmed -/

/-- The entry the library takes, by the forwarder's table. -/
theorem same_iff {t lib : TxGainTable} {sent : LgwPktTx} (hpos : 0 < t.size.toNat)
    (hsize : lib.size = t.size) (hpower : ∀ i < t.size.toNat, lib.power i = t.power i) :
    (txGainOf lib.toLgwTxGainLut sent).rfPower = sent.rfPower
      ↔ ∃ k < t.size.toNat, t.power k = sent.rfPower.toInt
        ∧ ∀ j < t.size.toNat, k < j → sent.rfPower.toInt < t.power j := by
  have hlast : (lib.size - 1).toNat = t.size.toNat - 1 := by
    have hone : (1 : UInt8) ≤ t.size := UInt8.le_iff_toNat_le.mpr hpos
    rw [hsize, UInt8.toNat_sub_of_le _ _ hone]
    rfl
  have hlt : ∀ {i}, i ≤ t.size.toNat - 1 ↔ i < t.size.toNat := by
    intro i
    omega
  rw [txGainOf, hlast, powIndex_eq, ← Int8.toInt_inj]
  change lib.power (lastBelow lib.power sent.rfPower.toInt (t.size.toNat - 1)) = _ ↔ _
  rw [value_lastBelow_iff]
  simp only [hlt]
  refine exists_congr fun k => and_congr_right fun hk => ?_
  rw [hpower k hk]
  refine and_congr_right fun _ => forall_congr' fun j => forall_congr' fun hj => ?_
  rw [hpower j hj]

/-- What is sent is right when the gain is that of its power. -/
theorem powerRight_iff {t : TxGainTable} {request : Int8} {sent : LgwPktTx}
    {programmed : LgwTxGain} (hsent : IsPowerFor t request sent.rfPower.toInt) :
    PowerRight t request sent programmed ↔ programmed.rfPower = sent.rfPower := by
  refine ⟨PowerRight.same, fun hsame => ⟨hsame, fun hsome => ?_⟩⟩
  rw [hsame]
  exact hsent.resolve_right fun hnone => hsome.ne_empty hnone.1

theorem inPlace_iff {t : TxGainTable} {request : Int8} {x : ℤ} (hx : IsPowerFor t request x) :
    InPlace t request
      ↔ ∃ k < t.size.toNat, t.power k = x ∧ ∀ j < t.size.toNat, k < j → x < t.power j := by
  refine exists_congr fun k => and_congr_right fun _ => ?_
  constructor
  · rintro ⟨hk, habove⟩
    obtain rfl := hk.unique hx
    exact ⟨rfl, habove⟩
  · rintro ⟨rfl, habove⟩
    exact ⟨hx, habove⟩

/-- **When the gain is right**: when the power for the request is in place. -/
theorem txGainOf_right_iff (context : TxGainTable) (array : ℕ → List TxGainObject)
    (txFreqMin txFreqMax : ℕ → UInt32) (offset : ℕ → Int8 × Int8) (qs : Qsort JitNode)
    (toa : LgwPktTx → UInt32) (st : DownState) (txpkt : LgwPktTx) (call : JitCall)
    (haccepted : (lgwTxgainSetconf context (parseTxGainLut (array txpkt.rfChain.toNat))).1
      = lgwHalSuccess)
    (hcall : call ∈ (outerHandle (fun i => (parseTxGainLut (array i)).txChain (txFreqMin i)
      (txFreqMax i)) qs toa st txpkt).2.call) :
    PowerRight (parseTxGainLut (array txpkt.rfChain.toNat)) txpkt.rfPower call.packet
        (txGainOf ((lgwTxgainSetconf context
          (parseTxGainLut (array txpkt.rfChain.toNat))).2.calibrate offset).toLgwTxGainLut
          call.packet)
      ↔ InPlace (parseTxGainLut (array txpkt.rfChain.toNat)) txpkt.rfPower := by
  obtain ⟨hpos, hsize, hentry⟩ := lgwTxgainSetconf_spec haccepted
  have hsent := rfPower_of_outerHandle hcall
  rw [rfPower_txChain] at hsent
  obtain ⟨-, hfor⟩ := isPowerFor_getTxGainLutIndex hpos (txFreqMin txpkt.rfChain.toNat)
    (txFreqMax txpkt.rfChain.toNat) txpkt.rfPower
  rw [TxGainTable.power, ← hsent] at hfor
  rw [powerRight_iff hfor, inPlace_iff hfor]
  refine same_iff hpos hsize fun i hi => ?_
  rw [power_calibrate, TxGainTable.power, hentry i hi]
  rfl

/-- **In an ascending table** the power for any request is in place, also where powers are
equal. -/
theorem inPlace_of_ascending {t : TxGainTable} (request : Int8) (hpos : 0 < t.size.toNat)
    (hascending : ∀ i j, i ≤ j → j < t.size.toNat → t.power i ≤ t.power j) :
    InPlace t request := by
  obtain ⟨hlt, hfor⟩ := isPowerFor_getTxGainLutIndex hpos 0 0 request
  have hmonotone : ∀ i j, i ≤ j → j ≤ t.size.toNat - 1 → t.power i ≤ t.power j :=
    fun i j hij hj => hascending i j hij (by omega)
  have hwalk := value_lastBelow_of_monotone hmonotone (Nat.le_sub_one_of_lt hlt)
  obtain ⟨k, hk, heq, habove⟩ := value_lastBelow_iff.mp hwalk
  exact (inPlace_iff hfor).mpr ⟨k, by omega, heq, fun j hj => habove j (Nat.le_sub_one_of_lt hj)⟩

/-! ### Two tables -/

/-- The table of the library when the program starts: one entry, of 14 dBm. -/
def startTable : TxGainTable where
  lut := ⟨14, 0, 2, 3, 10, 0, 0, 0⟩ :: List.replicate 15 ⟨0, 0, 0, 0, 0, 0, 0, 0⟩
  size := 1
  length_lut := rfl

/-- An element of a table for an SX1250. -/
def sx1250Object (rfPower : ℤ) (pwrIdx : ℤ) : TxGainObject where
  rfPower := .number rfPower
  paGain := .number 0
  digGain := .missing
  dacGain := .missing
  mixGain := .missing
  pwrIdx := .number pwrIdx

/-- A packet for a request. -/
def packetOf (rfPower : Int8) : LgwPktTx :=
  { LgwPktTx.zero with freqHz := 922800000, rfPower := rfPower }

/-- Entries of 12, 14, 14 and 16 dBm. -/
def ascendingArray : List TxGainObject :=
  [sx1250Object 12 15, sx1250Object 14 17, sx1250Object 14 18, sx1250Object 16 20]

/-- Entries of 14 and 12 dBm. -/
def descendingArray : List TxGainObject := [sx1250Object 14 17, sx1250Object 12 15]

theorem txGainOf_right_iff_ascending :
    ∃ call ∈ (outerHandle (fun _ => (parseTxGainLut ascendingArray).txChain 915000000 928000000)
        (Qsort.insertion JitNode) (fun _ => 50) startedDown (packetOf 15)).2.call,
      PowerRight (parseTxGainLut ascendingArray) 15 call.packet
        (txGainOf ((lgwTxgainSetconf startTable (parseTxGainLut ascendingArray)).2.calibrate
          fun _ => (0, 0)).toLgwTxGainLut call.packet) := by
  have hascending : ∀ j < 4, ∀ i ≤ j, (parseTxGainLut ascendingArray).power i
      ≤ (parseTxGainLut ascendingArray).power j := by decide +kernel
  refine ⟨_, rfl, (txGainOf_right_iff startTable (fun _ => ascendingArray) (fun _ => 915000000)
    (fun _ => 928000000) (fun _ => (0, 0)) (Qsort.insertion JitNode) (fun _ => 50) startedDown
    (packetOf 15) _ (by decide +kernel) rfl).mpr ?_⟩
  exact inPlace_of_ascending 15 (by decide +kernel) fun i j hij hj => hascending j hj i hij

/-- The entry of 12 dBm is behind that of 14, and is taken for a request for 14. -/
theorem descending_programs_less :
    ∃ call ∈ (outerHandle (fun _ => (parseTxGainLut descendingArray).txChain 915000000 928000000)
        (Qsort.insertion JitNode) (fun _ => 50) startedDown (packetOf 14)).2.call,
      (lgwTxgainSetconf startTable (parseTxGainLut descendingArray)).1 = lgwHalSuccess
      ∧ call.packet.rfPower = 14
      ∧ ¬ PowerRight (parseTxGainLut descendingArray) 14 call.packet
        (txGainOf ((lgwTxgainSetconf startTable (parseTxGainLut descendingArray)).2.calibrate
          fun _ => (0, 0)).toLgwTxGainLut call.packet) := by
  refine ⟨_, rfl, by decide +kernel, by decide +kernel, fun hright => ?_⟩
  exact absurd hright.same (by decide +kernel)

end TxGain
