import MeshBeacon.Hal
import Mathlib.Algebra.GroupWithZero.Nat
import Mathlib.Data.Int.Basic

/-!
# The additional radio

An SX1261 beside the concentrator listens: before a transmission, whether the channel is free
(**LBT**), or over a band, how loud it is (**spectral scan**). It can do one of them at a time. The
driver does not remember which it does; it knows only commands, each of which may fail, and then
it returns at once and the radio stays as the commands before left it.

The commands do what the comments of the driver say: one makes the radio synthesize, one makes it
receive, one starts listening and one a scan, and writing zero to a certain register ends both.

The link is SPI. There `sx1261_com_set_write_mode` and `sx1261_com_flush` do nothing, and every
write is made at once; over USB the parameters of reception are collected and flushed together,
and what is said here is not said of that.
-/

open Hal

/-- The radio: what it was last told. -/
structure Sx1261 where
  /-- It receives, and does not only synthesize. -/
  rx : Bool
  /-- The four bytes of the frequency. -/
  rfFrequency : List UInt8
  packetType : List UInt8
  modulationParams : List UInt8
  packetParams : List UInt8
  /-- What LBT was started with. -/
  lbt : Option (List UInt8)
  /-- What the spectral scan was started with. -/
  scan : Option (List UInt8)
deriving DecidableEq

/-- `sx1261_op_code_t`, what is used here; the last two are written as numbers in the source. -/
inductive Sx1261OpCode where
  | setFs
  | setRfFrequency
  | writeRegister
  | setPacketType
  | setModulationParams
  | setPacketParams
  | setRx
  /-- `0x9a`: listen. -/
  | startLbt
  /-- `0x9b`: scan. -/
  | startScan
deriving DecidableEq

/-- A command. -/
structure Sx1261Cmd where
  opCode : Sx1261OpCode
  buff : List UInt8

namespace Sx1261

/-! ## The commands -/

/-- The address of a register, and zero: what runs is ended. -/
def endsScan : List UInt8 := [0x08, 0x9B, 0x00]

/-- What a command does to the radio. -/
def exec (radio : Sx1261) : Sx1261Cmd → Sx1261
  | ⟨.setFs, _⟩ => { radio with rx := false }
  | ⟨.setRfFrequency, buff⟩ => { radio with rfFrequency := buff }
  -- other values of that register only set how many readings are averaged
  | ⟨.writeRegister, buff⟩ =>
    if buff = endsScan then { radio with lbt := none, scan := none } else radio
  | ⟨.setPacketType, buff⟩ => { radio with packetType := buff }
  | ⟨.setModulationParams, buff⟩ => { radio with modulationParams := buff }
  | ⟨.setPacketParams, buff⟩ => { radio with packetParams := buff }
  | ⟨.setRx, _⟩ => { radio with rx := true }
  | ⟨.startLbt, buff⟩ => { radio with lbt := some buff }
  | ⟨.startScan, buff⟩ => { radio with scan := some buff }

/-- The commands of a list, one after the other. -/
def execAll (radio : Sx1261) (cmds : List Sx1261Cmd) : Sx1261 :=
  cmds.foldl exec radio

/-- **It does one thing at a time.** -/
def OneThing (radio : Sx1261) : Prop := radio.lbt = none ∨ radio.scan = none

end Sx1261

/-- The link to the radio. -/
structure Sx1261Link where
  /-- The writes made so far. -/
  writes : ℕ
  radio : Sx1261

/-! ## The driver

Which writes succeed is given for all of them in advance. -/

section Driver

open Sx1261

variable (writeOk : ℕ → Bool)

/-- Writes, up to the first that fails. -/
def sx1261RegW : List Sx1261Cmd → Sx1261Link → Bool × Sx1261Link
  | [], link => (true, link)
  | cmd :: cmds, link =>
    if writeOk link.writes then
      sx1261RegW cmds ⟨link.writes + 1, link.radio.exec cmd⟩
    else (false, ⟨link.writes + 1, link.radio⟩)

/-- `sx1261_spectral_scan_abort`. -/
def sx1261SpectralScanAbort (link : Sx1261Link) : Bool × Sx1261Link :=
  sx1261RegW writeOk [⟨.writeRegister, endsScan⟩] link

/-- `SX1261_FREQ_TO_REG`, and its bytes. -/
def sx1261FreqToReg (freqHz : UInt32) : List UInt8 :=
  let freqReg := UInt32.ofNat (freqHz.toNat * 2 ^ 25 / 32000000)
  [(freqReg >>> 24).toUInt8, (freqReg >>> 16).toUInt8, (freqReg >>> 8).toUInt8, freqReg.toUInt8]

/-- The filter of `sx1261_set_rx_params`, for the bandwidths it knows. -/
def fskBwReg (bandwidth : UInt8) : Option UInt8 :=
  if bandwidth = bw125khz then some 0x0A else if bandwidth = bw250khz then some 0x09 else none

/-- The modulation `sx1261_set_rx_params` sets. -/
def rxModulation (fskBw : UInt8) : List UInt8 := [0, 0x14, 0x00, 0x00, fskBw, 0x02, 0xE9, 0x0F]

/-- The writes of `sx1261_set_rx_params` before the bandwidth is looked at. -/
def rxParamsHead (freqHz : UInt32) : List Sx1261Cmd :=
  [⟨.writeRegister, endsScan⟩, ⟨.setFs, []⟩, ⟨.setRfFrequency, sx1261FreqToReg freqHz⟩,
    ⟨.writeRegister, [0x08, 0x9B, 0x14]⟩, ⟨.setPacketType, [0x00]⟩]

/-- The writes behind. -/
def rxParamsTail (fskBw : UInt8) : List Sx1261Cmd :=
  [⟨.setModulationParams, rxModulation fskBw⟩,
    ⟨.setPacketParams, [0x00, 0x20, 0x05, 0x20, 0x00, 0x01, 0xff, 0x00, 0x00]⟩,
    ⟨.setRx, [0xFF, 0xFF, 0xFF]⟩]

/-- `sx1261_set_rx_params`, over SPI: its two calls that set the write mode, and the one that
flushes, do nothing. -/
def sx1261SetRxParams (freqHz : UInt32) (bandwidth : UInt8) (link : Sx1261Link) :
    Bool × Sx1261Link :=
  let (ok, link) := sx1261RegW writeOk (rxParamsHead freqHz) link
  if !ok then (false, link)
  else match fskBwReg bandwidth with
    | none => (false, link)
    | some fskBw => sx1261RegW writeOk (rxParamsTail fskBw) link

/-- The number of readings of `sx1261_lbt_start`, for the times it knows. -/
def lbtNbScan (scanTimeUs : UInt32) : Option UInt16 :=
  if scanTimeUs = 128 then some 24 else if scanTimeUs = 5000 then some 715 else none

/-- What `sx1261_lbt_start` writes. -/
def lbtParams (nbScan : UInt16) (thresholdDbm : Int8) : List UInt8 :=
  [11, (nbScan >>> 8).toUInt8, nbScan.toUInt8, (-2 * thresholdDbm).toUInt8, 1]

/-- `sx1261_lbt_start`. -/
def sx1261LbtStart (scanTimeUs : UInt32) (thresholdDbm : Int8) (link : Sx1261Link) :
    Bool × Sx1261Link :=
  match lbtNbScan scanTimeUs with
  | none => (false, link)
  | some nbScan => sx1261RegW writeOk [⟨.startLbt, lbtParams nbScan thresholdDbm⟩] link

/-- `sx1261_lbt_stop`. -/
def sx1261LbtStop (link : Sx1261Link) : Bool × Sx1261Link :=
  sx1261RegW writeOk [⟨.writeRegister, endsScan⟩, ⟨.setFs, []⟩] link

/-- `sx1261_spectral_scan_start`. It writes nine bytes of an array of four; `past` is what is
behind the three it has set. -/
def sx1261SpectralScanStart (nbScan : UInt16) (past : List UInt8) (link : Sx1261Link) :
    Bool × Sx1261Link :=
  sx1261RegW writeOk [⟨.startScan, [(nbScan >>> 8).toUInt8, nbScan.toUInt8, 11] ++ past⟩] link

/-! ## What they do -/

/-- The radio when the parameters of reception were set. -/
def Sx1261.receiving (freqHz : UInt32) (fskBw : UInt8) : Sx1261 where
  rx := true
  rfFrequency := sx1261FreqToReg freqHz
  packetType := [0x00]
  modulationParams := rxModulation fskBw
  packetParams := [0x00, 0x20, 0x05, 0x20, 0x00, 0x01, 0xff, 0x00, 0x00]
  lbt := none
  scan := none

variable {writeOk : ℕ → Bool} {link : Sx1261Link}

/-- When all writes succeed, the radio has done them all. -/
theorem sx1261RegW_ok {cmds : List Sx1261Cmd}
    (h : (sx1261RegW writeOk cmds link).1 = true) :
    (sx1261RegW writeOk cmds link).2.radio = link.radio.execAll cmds := by
  induction cmds generalizing link with
  | nil => rfl
  | cons cmd cmds ih =>
    rw [sx1261RegW] at h ⊢
    by_cases hok : writeOk link.writes
    · rw [if_pos hok] at h ⊢
      exact ih h
    · rw [if_neg hok] at h
      exact absurd h Bool.false_ne_true

/-- **The step lemma of the driver.** What every command of a list keeps is kept by writing it,
whichever of the writes fails. -/
theorem sx1261RegW_keeps {P : Sx1261 → Prop} {cmds : List Sx1261Cmd}
    (hcmds : ∀ cmd ∈ cmds, ∀ radio, P radio → P (radio.exec cmd)) (h : P link.radio) :
    P (sx1261RegW writeOk cmds link).2.radio := by
  induction cmds generalizing link with
  | nil => exact h
  | cons cmd cmds ih =>
    rw [sx1261RegW]
    split_ifs
    · exact ih (fun c hc => hcmds c (List.mem_cons_of_mem _ hc)) (hcmds cmd List.mem_cons_self _ h)
    · exact h

/-- The command starts nothing. -/
def Sx1261Cmd.Quiet (cmd : Sx1261Cmd) : Prop := cmd.opCode ≠ .startLbt ∧ cmd.opCode ≠ .startScan

/-- **The commands that start nothing keep it.** -/
def Sx1261.QuietInvariant (P : Sx1261 → Prop) : Prop :=
  ∀ radio cmd, cmd.Quiet → P radio → P (radio.exec cmd)

theorem Sx1261.quietInvariant_oneThing : QuietInvariant OneThing := by
  rintro radio ⟨opCode, buff⟩ hcmd h
  cases opCode with
  | startLbt => exact absurd rfl hcmd.1
  | startScan => exact absurd rfl hcmd.2
  | writeRegister =>
    show OneThing (if buff = endsScan then _ else _)
    split_ifs
    · exact Or.inl rfl
    · exact h
  | _ => exact h

theorem Sx1261.quietInvariant_scan : QuietInvariant fun radio => radio.scan = none := by
  rintro radio ⟨opCode, buff⟩ hcmd h
  cases opCode with
  | startLbt => exact absurd rfl hcmd.1
  | startScan => exact absurd rfl hcmd.2
  | writeRegister =>
    show (if buff = endsScan then _ else radio).scan = none
    split_ifs
    · rfl
    · exact h
  | _ => exact h

namespace Sx1261.QuietInvariant

variable {P : Sx1261 → Prop} (hP : QuietInvariant P)
include hP

/-- Writing such commands keeps it, wherever it breaks off. -/
theorem regW {cmds : List Sx1261Cmd} (hcmds : ∀ cmd ∈ cmds, cmd.Quiet) (h : P link.radio) :
    P (sx1261RegW writeOk cmds link).2.radio :=
  sx1261RegW_keeps (fun cmd hcmd _ hr => hP _ _ (hcmds cmd hcmd) hr) h

theorem abort (h : P link.radio) : P (sx1261SpectralScanAbort writeOk link).2.radio :=
  hP.regW (by simp [Sx1261Cmd.Quiet]) h

theorem lbtStop (h : P link.radio) : P (sx1261LbtStop writeOk link).2.radio :=
  hP.regW (by simp [Sx1261Cmd.Quiet]) h

theorem setRxParams {freqHz : UInt32} {bandwidth : UInt8} (h : P link.radio) :
    P (sx1261SetRxParams writeOk freqHz bandwidth link).2.radio := by
  have hhead : P (sx1261RegW writeOk (rxParamsHead freqHz) link).2.radio :=
    hP.regW (by simp [rxParamsHead, Sx1261Cmd.Quiet]) h
  unfold sx1261SetRxParams
  generalize sx1261RegW writeOk (rxParamsHead freqHz) link = r at hhead ⊢
  obtain ⟨ok, mid⟩ := r
  dsimp only at hhead ⊢
  split_ifs
  · exact hhead
  · cases fskBwReg bandwidth with
    | none => exact hhead
    | some fskBw => exact hP.regW (by simp [rxParamsTail, Sx1261Cmd.Quiet]) hhead

end Sx1261.QuietInvariant

theorem sx1261SpectralScanAbort_ok (h : (sx1261SpectralScanAbort writeOk link).1 = true) :
    (sx1261SpectralScanAbort writeOk link).2.radio.scan = none := by
  rw [sx1261SpectralScanAbort, sx1261RegW_ok h]
  rfl

theorem sx1261LbtStop_ok (h : (sx1261LbtStop writeOk link).1 = true) :
    (sx1261LbtStop writeOk link).2.radio.lbt = none
      ∧ (sx1261LbtStop writeOk link).2.radio.rx = false := by
  rw [sx1261LbtStop, sx1261RegW_ok h]
  exact ⟨rfl, rfl⟩

/-- **The parameters of reception, set.** The radio receives on the frequency with the filter of
the bandwidth, and neither listens nor scans. -/
theorem sx1261SetRxParams_ok {freqHz : UInt32} {bandwidth : UInt8}
    (h : (sx1261SetRxParams writeOk freqHz bandwidth link).1 = true) :
    ∃ fskBw, fskBwReg bandwidth = some fskBw
      ∧ (sx1261SetRxParams writeOk freqHz bandwidth link).2.radio = receiving freqHz fskBw := by
  unfold sx1261SetRxParams at h ⊢
  have hhead := @sx1261RegW_ok writeOk link (rxParamsHead freqHz)
  generalize sx1261RegW writeOk (rxParamsHead freqHz) link = r at h hhead ⊢
  obtain ⟨ok, mid⟩ := r
  dsimp only at h hhead ⊢
  cases ok with
  | false => exact absurd h Bool.false_ne_true
  | true =>
    cases hbw : fskBwReg bandwidth with
    | none =>
      rw [hbw] at h
      exact absurd h Bool.false_ne_true
    | some fskBw =>
      rw [hbw] at h
      refine ⟨fskBw, rfl, ?_⟩
      have htail := @sx1261RegW_ok writeOk mid (rxParamsTail fskBw) h
      exact htail.trans (by rw [hhead rfl]; rfl)

end Driver
