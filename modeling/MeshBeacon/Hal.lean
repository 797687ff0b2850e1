import Mathlib.Data.List.Basic
import Mathlib.Tactic.Common

/-!
# The vocabulary of the concentrator library

The packet records and the codes the layers above the radio exchange. The
values are those of the library header; records hold what some modelled
function reads or writes, under the field names of the source.

An array of the C program is a list here. `overwrite` is the copy of a block
over the front of an array: the tail that is not covered keeps what it held.
-/

/-- The result of copying `src` over the first elements of `dst`. -/
def overwrite {α : Type*} (src dst : List α) : List α := src ++ dst.drop src.length

@[simp] theorem take_overwrite {α : Type*} (src dst : List α) :
    (overwrite src dst).take src.length = src :=
  List.take_left

namespace Hal

/-! ## Modulations, bandwidths, coding rates -/

def modCw : UInt8 := 0x08
def modLora : UInt8 := 0x10
def modFsk : UInt8 := 0x20

def bw500khz : UInt8 := 0x06
def bw250khz : UInt8 := 0x05
def bw125khz : UInt8 := 0x04

def drUndefined : UInt32 := 0
def drLoraSf7 : UInt32 := 7
def drLoraSf8 : UInt32 := 8
def drLoraSf9 : UInt32 := 9
def drLoraSf10 : UInt32 := 10
def drLoraSf12 : UInt32 := 12

def crUndefined : UInt8 := 0
def crLora45 : UInt8 := 0x01
def crLora48 : UInt8 := 0x04

/-! ## Reception status and transmission mode -/

def statNoCrc : UInt8 := 0x01
def statCrcBad : UInt8 := 0x11
def statCrcOk : UInt8 := 0x10

def immediate : UInt8 := 0
def timestamped : UInt8 := 1
def onGps : UInt8 := 2

/-! ## Status of the transmitter -/

def txFree : UInt8 := 2
def txScheduled : UInt8 := 3
def txEmitting : UInt8 := 4

def rfChainNb : ℕ := 2
def ifChainNb : ℕ := 10

end Hal

/-- `struct lgw_pkt_tx_s`: the configuration and the payload of a packet to
send. -/
structure LgwPktTx where
  freqHz : UInt32
  txMode : UInt8
  countUs : UInt32
  rfChain : UInt8
  rfPower : Int8
  modulation : UInt8
  /-- Frequency offset, in CW mode. -/
  freqOffset : Int8
  bandwidth : UInt8
  /-- Bit rate for FSK, spreading factor for LoRa. -/
  datarate : UInt32
  coderate : UInt8
  invertPol : Bool
  /-- Frequency deviation in kHz, for FSK. -/
  fDev : UInt8
  /-- Preamble length, 0 for the default. -/
  preamble : UInt16
  noCrc : Bool
  /-- Implicit header for LoRa, fixed length for FSK. -/
  noHeader : Bool
  size : UInt16
  payload : List UInt8
deriving DecidableEq

/-- The packet `memset` to zero leaves. -/
def LgwPktTx.zero : LgwPktTx where
  freqHz := 0
  txMode := 0
  countUs := 0
  rfChain := 0
  rfPower := 0
  modulation := 0
  freqOffset := 0
  bandwidth := 0
  datarate := 0
  coderate := 0
  invertPol := false
  fDev := 0
  preamble := 0
  noCrc := false
  noHeader := false
  size := 0
  payload := List.replicate 256 0
