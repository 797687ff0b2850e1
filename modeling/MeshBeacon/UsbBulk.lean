import MeshBeacon.Hal
import Mathlib.Algebra.GroupWithZero.Nat
import Mathlib.Data.Int.Basic

/-!
# Bulk writes over USB

A concentrator on USB is written to through its MCU. In the single mode a write
is a request to the MCU, which is acknowledged. In the bulk mode a write is only
stored, and a flush sends what is stored as one request. The mode, the count of
the requests and the buffer are variables of two modules; nothing but the order
of the calls keeps them together.

Modelled are the two writes of the USB module, the flush, the three functions of
the register module that come to them, and a **transaction**: to enter the bulk
mode, make a list of writes, flush, and leave the mode, returning at the first
error, as the function that programs a packet does.

In the bulk mode a write fails for want of a connection, because its arguments
are refused, or because the buffer is full; the count goes up even then. The
device has a say in the flush only.
-/

namespace Usb

/-- `LGW_USB_BURST_CHUNK`. -/
def burstChunk : ℕ := 4096
/-- The most requests the buffer takes. -/
def maxReq : ℕ := 255
/-- `MCU_SPI_REQ_TYPE_READ_WRITE`. -/
def reqReadWrite : UInt8 := 0x01
/-- `MCU_SPI_REQ_TYPE_READ_MODIFY_WRITE`. -/
def reqReadModifyWrite : UInt8 := 0x02
/-- `MCU_SPI_TARGET_SX1302`. -/
def mcuTargetSx1302 : UInt8 := 0
/-- `LGW_SPI_MUX_TARGET_SX1302`. -/
def muxTargetSx1302 : UInt8 := 0

end Usb

open Usb

/-! ## The bulk buffer -/

/-- `spi_req_bulk_t`. The fields `nb_req` and `size` are the number of the
requests and their length. -/
structure SpiReqBulk where
  reqs : List (List UInt8)
  length_le : reqs.length ≤ maxReq
  size_le : reqs.flatten.length ≤ burstChunk

namespace SpiReqBulk

/-- The number of requests stored. -/
def nbReq (b : SpiReqBulk) : ℕ := b.reqs.length

/-- The bytes they take. -/
def size (b : SpiReqBulk) : ℕ := b.reqs.flatten.length

/-- The buffer after a reset. -/
def empty : SpiReqBulk := ⟨[], Nat.zero_le _, Nat.zero_le _⟩

/-- **There is room** for that many requests of that length in all. -/
def Room (b : SpiReqBulk) (n bytes : ℕ) : Prop :=
  b.nbReq + n ≤ maxReq ∧ b.size + bytes ≤ burstChunk

/-- The buffer with a request for which there is room. -/
def push (b : SpiReqBulk) (req : List UInt8) (h : b.Room 1 req.length) : SpiReqBulk where
  reqs := b.reqs ++ [req]
  length_le := by
    rw [List.length_append]
    exact h.1
  size_le := by
    rw [List.flatten_append, List.length_append, List.flatten_singleton]
    exact h.2

@[simp] theorem nbReq_push (b : SpiReqBulk) (req : List UInt8) (h : b.Room 1 req.length) :
    (b.push req h).nbReq = b.nbReq + 1 :=
  List.length_append

@[simp] theorem size_push (b : SpiReqBulk) (req : List UInt8) (h : b.Room 1 req.length) :
    (b.push req h).size = b.size + req.length := by
  show (b.reqs ++ [req]).flatten.length = _
  rw [List.flatten_append, List.length_append, List.flatten_singleton]
  rfl

end SpiReqBulk

/-- `spi_req_bulk_insert`: none when there are too many requests or the buffer
is full. -/
def spiReqBulkInsert (b : SpiReqBulk) (req : List UInt8) : Option SpiReqBulk :=
  if hnb : b.nbReq = maxReq then none
  else if hsize : burstChunk < b.size + req.length then none
  else some (b.push req ⟨lt_of_le_of_ne b.length_le hnb, not_lt.mp hsize⟩)

/-- A request is stored when there is room for it. -/
theorem spiReqBulkInsert_of_room {b : SpiReqBulk} {req : List UInt8} (h : b.Room 1 req.length) :
    spiReqBulkInsert b req = some (b.push req h) := by
  unfold spiReqBulkInsert
  rw [dif_neg (Nat.ne_of_lt h.1), dif_neg (not_lt.mpr h.2)]

/-- A request is refused when there is no room for it. -/
theorem spiReqBulkInsert_of_not_room {b : SpiReqBulk} {req : List UInt8}
    (h : ¬ b.Room 1 req.length) : spiReqBulkInsert b req = none := by
  unfold spiReqBulkInsert
  split_ifs with hnb hsize
  · rfl
  · rfl
  · exact absurd ⟨lt_of_le_of_ne b.length_le hnb, not_lt.mp hsize⟩ h

/-! ## The USB module -/

/-- `lgw_com_write_mode_t`, less the unknown one. -/
inductive ComWriteMode where
  | single
  | bulk
deriving DecidableEq

/-- The variables of the modules. -/
structure UsbLink where
  /-- `_lgw_write_mode`. -/
  writeMode : ComWriteMode
  /-- `_lgw_spi_req_nb`. -/
  spiReqNb : UInt8
  /-- `spi_bulk_buffer`. -/
  bulk : SpiReqBulk

/-- The variables as they are initialized. -/
def UsbLink.start : UsbLink := ⟨.single, 0, SpiReqBulk.empty⟩

/-- The other side. -/
structure UsbPort where
  /-- `_lgw_com_target` is set. -/
  connected : Bool
  /-- The MCU acknowledges the request it is sent. -/
  acks : Bool

/-- `mcu_spi_flush`: the requests are sent, and the buffer is reset when they are
acknowledged. -/
def mcuSpiFlush (port : UsbPort) (b : SpiReqBulk) : ℤ × SpiReqBulk :=
  if port.acks then (0, SpiReqBulk.empty) else (-1, b)

/-- What `lgw_usb_rmw` and `lgw_usb_wb` do with a request: in the bulk mode it is
stored and counted, in the single mode it is sent. -/
def lgwUsbSubmit (port : UsbPort) (u : UsbLink) (req : List UInt8) : ℤ × UsbLink :=
  if u.writeMode = .bulk then
    (if (spiReqBulkInsert u.bulk req).isSome then 0 else -1,
      { u with
        bulk := (spiReqBulkInsert u.bulk req).getD u.bulk
        spiReqNb := u.spiReqNb + 1 })
  else (if port.acks then 0 else -1, u)

/-- The request of `lgw_usb_rmw`: the address, the mask and the bits. -/
def rmwReq (reqNb : UInt8) (address : UInt16) (offs leng data : UInt8) : List UInt8 :=
  [reqNb, reqReadModifyWrite, (address >>> 8).toUInt8, address.toUInt8,
    (((1 <<< leng.toUInt32) - 1) <<< offs.toUInt32).toUInt8, data <<< offs]

/-- `lgw_usb_rmw`. -/
def lgwUsbRmw (port : UsbPort) (u : UsbLink) (address : UInt16) (offs leng data : UInt8) :
    ℤ × UsbLink :=
  if port.connected then lgwUsbSubmit port u (rmwReq u.spiReqNb address offs leng data)
  else (-1, u)

/-- The request of `lgw_usb_wb`: five bytes for the MCU, and three for the
concentrator before the data. -/
def wbReq (reqNb spiMuxTarget : UInt8) (address : UInt16) (data : List UInt8) : List UInt8 :=
  [reqNb, reqReadWrite, mcuTargetSx1302, (UInt16.ofNat (data.length + 3) >>> 8).toUInt8,
    (UInt16.ofNat (data.length + 3)).toUInt8, spiMuxTarget,
    (0x80 : UInt8) ||| ((address >>> 8).toUInt8 &&& 0x7F), address.toUInt8] ++ data

/-- `lgw_usb_wb`. -/
def lgwUsbWb (port : UsbPort) (u : UsbLink) (spiMuxTarget : UInt8) (address : UInt16)
    (data : List UInt8) : ℤ × UsbLink :=
  if port.connected then lgwUsbSubmit port u (wbReq u.spiReqNb spiMuxTarget address data)
  else (-1, u)

@[simp] theorem length_rmwReq (reqNb : UInt8) (address : UInt16) (offs leng data : UInt8) :
    (rmwReq reqNb address offs leng data).length = 6 := rfl

@[simp] theorem length_wbReq (reqNb spiMuxTarget : UInt8) (address : UInt16) (data : List UInt8) :
    (wbReq reqNb spiMuxTarget address data).length = data.length + 8 := by
  rw [wbReq, List.length_append, Nat.add_comm]
  rfl

/-- `lgw_usb_set_write_mode`. -/
def lgwUsbSetWriteMode (mode : ComWriteMode) (u : UsbLink) : UsbLink := { u with writeMode := mode }

/-- `lgw_usb_flush`: the single mode is restored before the requests are sent, and
the count is reset however that ends; with a count of zero nothing is sent. -/
def lgwUsbFlush (port : UsbPort) (u : UsbLink) : ℤ × UsbLink :=
  if ¬ port.connected then (-1, u)
  else if u.writeMode ≠ .bulk then (-1, u)
  else if u.spiReqNb = 0 then (0, { u with writeMode := .single })
  else
    ((mcuSpiFlush port u.bulk).1,
      { writeMode := .single, spiReqNb := 0, bulk := (mcuSpiFlush port u.bulk).2 })

/-! ## The register module -/

/-- `struct lgw_reg_s`, what a write looks at. -/
structure LgwReg where
  addr : UInt16
  /-- Position of the lowest bit. -/
  offs : UInt8
  /-- Number of bits. -/
  leng : UInt8
  /-- The register is read-only. -/
  rdon : Bool

/-- The register is a whole byte. -/
def LgwReg.IsByte (r : LgwReg) : Prop := r.leng = 8 ∧ r.offs = 0

instance (r : LgwReg) : Decidable r.IsByte := inferInstanceAs (Decidable (_ ∧ _))

/-- `lgw_reg_w`, with `reg_w`: a whole byte is written, a part of one is modified. -/
def lgwRegW (port : UsbPort) (u : UsbLink) (r : LgwReg) (value : UInt8) : ℤ × UsbLink :=
  if r.rdon then (-1, u)
  else if r.IsByte then lgwUsbWb port u muxTargetSx1302 r.addr [value]
  else if r.offs.toNat + r.leng.toNat ≤ 8 then lgwUsbRmw port u r.addr r.offs r.leng value
  else (-1, u)

/-- `lgw_reg_wb`. -/
def lgwRegWb (port : UsbPort) (u : UsbLink) (r : LgwReg) (data : List UInt8) : ℤ × UsbLink :=
  if data = [] then (-1, u)
  else if r.rdon then (-1, u)
  else lgwUsbWb port u muxTargetSx1302 r.addr data

/-- The loop of `lgw_mem_wb`: chunk by chunk, the status being that of the last. -/
def lgwMemWbLoop (port : UsbPort) (u : UsbLink) (addr : UInt16) (data : List UInt8) (comStat : ℤ) :
    ℤ × UsbLink :=
  if data = [] then (comStat, u)
  else
    let r := lgwUsbWb port u muxTargetSx1302 addr (data.take burstChunk)
    lgwMemWbLoop port r.2 (addr + UInt16.ofNat (data.take burstChunk).length)
      (data.drop burstChunk) r.1
termination_by data.length
decreasing_by
  have hpos := List.length_pos_iff.mpr (show data ≠ [] by assumption)
  rw [List.length_drop]
  unfold burstChunk
  omega

/-- `lgw_mem_wb`. -/
def lgwMemWb (port : UsbPort) (u : UsbLink) (memAddr : UInt16) (data : List UInt8) : ℤ × UsbLink :=
  if data = [] then (-1, u) else lgwMemWbLoop port u memAddr data 0

/-! ## Transactions -/

/-- A write of a transaction, or a point where it goes no further: something is not
supported, for which it returns an error, or the value to be written is divided by
zero. -/
inductive LgwWrite where
  | reg (r : LgwReg) (value : UInt8)
  | regBurst (r : LgwReg) (data : List UInt8)
  | mem (addr : UInt16) (data : List UInt8)
  | unsupported
  | dividesByZero

/-- The call a write is. From a division by zero, which traps, the program does not
come back; the variables are left as the division finds them. -/
def LgwWrite.call (port : UsbPort) (u : UsbLink) : LgwWrite → ℤ × UsbLink
  | .reg r value => lgwRegW port u r value
  | .regBurst r data => lgwRegWb port u r data
  | .mem addr data => lgwMemWb port u addr data
  | .unsupported => (-1, u)
  | .dividesByZero => (-1, u)

/-- The writes in order, up to the first that fails. -/
def runWrites (port : UsbPort) : List LgwWrite → UsbLink → ℤ × UsbLink
  | [], u => (0, u)
  | w :: ws, u =>
    if (w.call port u).1 = -1 then (-1, (w.call port u).2) else runWrites port ws (w.call port u).2

/-- **A transaction**: the bulk mode, the writes, the flush and the single mode. -/
def bulkTransaction (port : UsbPort) (ws : List LgwWrite) (u : UsbLink) : ℤ × UsbLink :=
  let r := runWrites port ws (lgwUsbSetWriteMode .bulk u)
  if r.1 = -1 then (-1, r.2)
  else
    let f := lgwUsbFlush port r.2
    if f.1 = -1 then (-1, f.2) else (0, lgwUsbSetWriteMode .single f.2)

/-- **Nothing is left over**: the single mode, no request stored, and none
counted. -/
structure UsbLink.Clean (u : UsbLink) : Prop where
  single : u.writeMode = .single
  empty : u.bulk.nbReq = 0
  counted : u.spiReqNb.toNat = u.bulk.nbReq

namespace LgwWrite

/-- The write is one the register module makes: of something, to a register that
can be written. -/
def Proper : LgwWrite → Prop
  | .reg r _ => r.rdon = false ∧ r.offs.toNat + r.leng.toNat ≤ 8
  | .regBurst r data => r.rdon = false ∧ data ≠ []
  | .mem _ data => data ≠ []
  | .unsupported => False
  | .dividesByZero => False

/-- The length of the request it stores. Of a write to memory in several chunks
that is the last chunk's: a whole chunk is too long for the buffer. -/
def reqSize : LgwWrite → ℕ
  | .reg r _ => if r.IsByte then 9 else 6
  | .regBurst _ data => data.length + 8
  | .mem _ data => (data.length - 1) % burstChunk + 9
  | .unsupported => 0
  | .dividesByZero => 0

/-- By how much it moves the count on: the number of chunks. -/
def counts : LgwWrite → ℕ
  | .mem _ data => (data.length + (burstChunk - 1)) / burstChunk
  | _ => 1

end LgwWrite

/-! ## What one write does in the bulk mode -/

section Submit

variable {port : UsbPort} {u : UsbLink} {req : List UInt8}

/-- A request for which there is room is stored and counted. -/
theorem lgwUsbSubmit_of_room (hu : u.writeMode = .bulk) (h : u.bulk.Room 1 req.length) :
    lgwUsbSubmit port u req
      = (0, { u with bulk := u.bulk.push req h, spiReqNb := u.spiReqNb + 1 }) := by
  rw [lgwUsbSubmit, if_pos hu, spiReqBulkInsert_of_room h]
  rfl

/-- A request for which there is no room is counted all the same. -/
theorem lgwUsbSubmit_of_not_room (hu : u.writeMode = .bulk) (h : ¬ u.bulk.Room 1 req.length) :
    lgwUsbSubmit port u req = (-1, { u with spiReqNb := u.spiReqNb + 1 }) := by
  rw [lgwUsbSubmit, if_pos hu, spiReqBulkInsert_of_not_room h]
  rfl

end Submit

theorem toNat_add_counts (a b : UInt8) (k l : ℕ) (h : b.toNat = (a.toNat + k) % 256) :
    (b.toNat + l) % 256 = (a.toNat + (k + l)) % 256 := by
  rw [h, Nat.mod_add_mod, Nat.add_assoc]

/-- **The call stores a request** of a length, and moves the count on, in the bulk
mode: when there is no room it fails, and the count moves on too. -/
structure Stores (call : UsbLink → ℤ × UsbLink) (counts bytes : ℕ) : Prop where
  writeMode : ∀ u, u.writeMode = .bulk → (call u).2.writeMode = .bulk
  counted : ∀ u, u.writeMode = .bulk →
    (call u).2.spiReqNb.toNat = (u.spiReqNb.toNat + counts) % 256
  stored : ∀ u, u.writeMode = .bulk → u.bulk.Room 1 bytes →
    (call u).1 = 0 ∧ (call u).2.bulk.nbReq = u.bulk.nbReq + 1
      ∧ (call u).2.bulk.size = u.bulk.size + bytes
  refused : ∀ u, u.writeMode = .bulk → ¬ u.bulk.Room 1 bytes → (call u).1 = -1

theorem stores_lgwUsbSubmit (port : UsbPort) {bytes : ℕ} (req : UsbLink → List UInt8)
    (hlen : ∀ u, (req u).length = bytes) :
    Stores (fun u => lgwUsbSubmit port u (req u)) 1 bytes where
  writeMode u hu := by
    by_cases h : u.bulk.Room 1 (req u).length
    · rw [lgwUsbSubmit_of_room hu h]
      exact hu
    · rw [lgwUsbSubmit_of_not_room hu h]
      exact hu
  counted u hu := by
    by_cases h : u.bulk.Room 1 (req u).length
    · rw [lgwUsbSubmit_of_room hu h]
      exact UInt8.toNat_add u.spiReqNb 1
    · rw [lgwUsbSubmit_of_not_room hu h]
      exact UInt8.toNat_add u.spiReqNb 1
  stored u hu h := by
    rw [← hlen u] at h ⊢
    rw [lgwUsbSubmit_of_room hu h]
    exact ⟨rfl, SpiReqBulk.nbReq_push _ _ h, SpiReqBulk.size_push _ _ h⟩
  refused u hu h := by
    rw [← hlen u] at h
    rw [lgwUsbSubmit_of_not_room hu h]

section Call

variable {port : UsbPort}

/-- With a connection a burst write stores its data and eight bytes. -/
theorem stores_lgwUsbWb (hport : port.connected) (mux : UInt8) (addr : UInt16)
    (data : List UInt8) : Stores (fun u => lgwUsbWb port u mux addr data) 1 (data.length + 8) := by
  have h := stores_lgwUsbSubmit port (fun u => wbReq u.spiReqNb mux addr data)
    (fun u => length_wbReq u.spiReqNb mux addr data)
  have heq : (fun u => lgwUsbWb port u mux addr data)
      = fun u => lgwUsbSubmit port u (wbReq u.spiReqNb mux addr data) :=
    funext fun u => if_pos hport
  rwa [heq]

/-- With a connection a modification stores six bytes. -/
theorem stores_lgwUsbRmw (hport : port.connected) (addr : UInt16) (offs leng data : UInt8) :
    Stores (fun u => lgwUsbRmw port u addr offs leng data) 1 6 := by
  have h := stores_lgwUsbSubmit port (fun u => rmwReq u.spiReqNb addr offs leng data)
    (fun u => length_rmwReq u.spiReqNb addr offs leng data)
  have heq : (fun u => lgwUsbRmw port u addr offs leng data)
      = fun u => lgwUsbSubmit port u (rmwReq u.spiReqNb addr offs leng data) :=
    funext fun u => if_pos hport
  rwa [heq]

/-- A whole chunk is too long for the buffer: it is only counted. -/
theorem lgwUsbWb_chunk (hport : port.connected) (mux : UInt8) (addr : UInt16)
    {data : List UInt8} (hdata : burstChunk < data.length) {u : UsbLink}
    (hu : u.writeMode = .bulk) :
    lgwUsbWb port u mux addr (data.take burstChunk)
      = (-1, { u with spiReqNb := u.spiReqNb + 1 }) := by
  rw [lgwUsbWb, if_pos hport]
  refine lgwUsbSubmit_of_not_room hu fun h => ?_
  have hsize := h.2
  rw [length_wbReq, List.length_take, Nat.min_eq_left (Nat.le_of_lt hdata)] at hsize
  omega

/-- A write that first counts once more counts one more. -/
theorem Stores.afterCount {call call' : UsbLink → ℤ × UsbLink} {n bytes : ℕ}
    (h : Stores call n bytes)
    (heq : ∀ u, u.writeMode = .bulk → call' u = call { u with spiReqNb := u.spiReqNb + 1 }) :
    Stores call' (1 + n) bytes := by
  obtain ⟨hmode, hcounted, hstored, hrefused⟩ := h
  refine ⟨fun u hu => ?_, fun u hu => ?_, fun u hu => ?_, fun u hu => ?_⟩
  · rw [heq u hu]
    exact hmode { u with spiReqNb := u.spiReqNb + 1 } hu
  · rw [heq u hu, hcounted { u with spiReqNb := u.spiReqNb + 1 } hu]
    exact toNat_add_counts u.spiReqNb _ 1 _ (UInt8.toNat_add u.spiReqNb 1)
  · rw [heq u hu]
    exact hstored { u with spiReqNb := u.spiReqNb + 1 } hu
  · rw [heq u hu]
    exact hrefused { u with spiReqNb := u.spiReqNb + 1 } hu

/-- **A write to memory stores its last chunk**, and counts all of them. -/
theorem stores_lgwMemWbLoop (hport : port.connected) (addr : UInt16) (data : List UInt8)
    (hdata : data ≠ []) (comStat : ℤ) :
    Stores (fun u => lgwMemWbLoop port u addr data comStat)
      ((data.length + (burstChunk - 1)) / burstChunk) ((data.length - 1) % burstChunk + 9) := by
  have hchunk : burstChunk = 4096 := rfl
  induction hn : data.length using Nat.strongRecOn generalizing addr data comStat with
  | ind n ih =>
    have hpos := List.length_pos_iff.mpr hdata
    have hturn (u : UsbLink) : lgwMemWbLoop port u addr data comStat
        = lgwMemWbLoop port (lgwUsbWb port u muxTargetSx1302 addr (data.take burstChunk)).2
            (addr + UInt16.ofNat (data.take burstChunk).length) (data.drop burstChunk)
            (lgwUsbWb port u muxTargetSx1302 addr (data.take burstChunk)).1 := by
      conv_lhs => rw [lgwMemWbLoop, if_neg hdata]
    rcases Nat.lt_or_ge burstChunk data.length with hlong | hshort
    · -- the first chunk is counted, and the rest is a shorter write
      have hrest : data.drop burstChunk ≠ [] := by
        rw [← List.length_pos_iff, List.length_drop]
        omega
      have hlen : (data.drop burstChunk).length = n - burstChunk := by
        rw [List.length_drop, hn]
      have hbytes : (n - burstChunk - 1) % burstChunk = (n - 1) % burstChunk := by
        rw [hchunk]
        omega
      have hcounts : (n + (burstChunk - 1)) / burstChunk
          = 1 + (n - burstChunk + (burstChunk - 1)) / burstChunk := by
        rw [hchunk]
        omega
      rw [hcounts, ← hbytes]
      refine (ih (n - burstChunk) (by omega)
        (addr + UInt16.ofNat (data.take burstChunk).length) _ hrest (-1) hlen).afterCount
        fun u hu => ?_
      rw [hturn u, lgwUsbWb_chunk hport _ _ hlong hu]
    · -- one chunk is written as it is
      have heq : (fun u => lgwMemWbLoop port u addr data comStat)
          = fun u => lgwUsbWb port u muxTargetSx1302 addr data := by
        funext u
        rw [hturn u, List.take_of_length_le hshort, List.drop_eq_nil_of_le hshort, lgwMemWbLoop,
          if_pos rfl]
      have hbytes : (n - 1) % burstChunk + 9 = data.length + 8 := by
        rw [hchunk]
        omega
      have hcounts : (n + (burstChunk - 1)) / burstChunk = 1 := by
        rw [hchunk]
        omega
      rw [heq, hbytes, hcounts]
      exact stores_lgwUsbWb hport _ _ _

/-- Without a connection a write to memory fails. -/
theorem lgwMemWbLoop_of_not_connected (hport : ¬ port.connected) (u : UsbLink) (addr : UInt16)
    (data : List UInt8) (comStat : ℤ) (h : data ≠ [] ∨ comStat = -1) :
    lgwMemWbLoop port u addr data comStat = (-1, u) := by
  induction hn : data.length using Nat.strongRecOn generalizing addr data comStat with
  | ind n ih =>
    rw [lgwMemWbLoop]
    by_cases hdata : data = []
    · rw [if_pos hdata, h.resolve_left (not_not_intro hdata)]
    · have hpos := List.length_pos_iff.mpr hdata
      have hchunk : burstChunk = 4096 := rfl
      have hwb : lgwUsbWb port u muxTargetSx1302 addr (data.take burstChunk) = (-1, u) :=
        if_neg hport
      rw [if_neg hdata]
      dsimp only
      rw [hwb]
      refine ih _ ?_ _ _ _ (Or.inr rfl) rfl
      rw [List.length_drop]
      omega

/-- **A proper write stores a request**, with a connection. -/
theorem LgwWrite.stores (hport : port.connected) {w : LgwWrite} (hw : w.Proper) :
    Stores (fun u => w.call port u) w.counts w.reqSize := by
  cases w with
  | reg r value =>
    obtain ⟨hrdon, hbits⟩ := hw
    show Stores (fun u => lgwRegW port u r value) 1 (if r.IsByte then 9 else 6)
    unfold lgwRegW
    rw [hrdon]
    by_cases hbyte : r.IsByte
    · simp only [if_pos hbyte, if_neg Bool.false_ne_true]
      exact stores_lgwUsbWb hport _ _ [value]
    · simp only [if_neg hbyte, if_neg Bool.false_ne_true, if_pos hbits]
      exact stores_lgwUsbRmw hport _ _ _ _
  | regBurst r data =>
    obtain ⟨hrdon, hdata⟩ := hw
    show Stores (fun u => lgwRegWb port u r data) 1 (data.length + 8)
    unfold lgwRegWb
    rw [hrdon]
    simp only [if_neg hdata, if_neg Bool.false_ne_true]
    exact stores_lgwUsbWb hport _ _ data
  | mem addr data =>
    show Stores (fun u => lgwMemWb port u addr data) _ _
    unfold lgwMemWb
    simp only [if_neg (show data ≠ [] from hw)]
    exact stores_lgwMemWbLoop hport addr data hw 0
  | unsupported => exact absurd hw id
  | dividesByZero => exact absurd hw id

/-- A write that is not proper, or without a connection, fails and changes
nothing. -/
theorem LgwWrite.call_of_not_proper {w : LgwWrite} (h : ¬ (port.connected ∧ w.Proper))
    (u : UsbLink) : w.call port u = (-1, u) := by
  cases w with
  | reg r value =>
    show lgwRegW port u r value = _
    unfold lgwRegW lgwUsbWb lgwUsbRmw
    split_ifs with hrdon hbyte hport hbits hport
    · rfl
    · refine absurd ⟨hport, Bool.eq_false_iff.mpr hrdon, ?_⟩ h
      rw [hbyte.1, hbyte.2]
      decide
    · rfl
    · exact absurd ⟨hport, Bool.eq_false_iff.mpr hrdon, hbits⟩ h
    · rfl
    · rfl
  | regBurst r data =>
    show lgwRegWb port u r data = _
    unfold lgwRegWb lgwUsbWb
    split_ifs with hdata hrdon hport
    · rfl
    · rfl
    · exact absurd ⟨hport, Bool.eq_false_iff.mpr hrdon, hdata⟩ h
    · rfl
  | mem addr data =>
    show lgwMemWb port u addr data = _
    unfold lgwMemWb
    by_cases hdata : data = []
    · rw [if_pos hdata]
    · rw [if_neg hdata]
      exact lgwMemWbLoop_of_not_connected (fun hport => h ⟨hport, hdata⟩) u addr data 0
        (Or.inl hdata)
  | unsupported => rfl
  | dividesByZero => rfl

end Call

/-! ## What a transaction does -/

/-- The length of the requests of some writes. -/
def reqBytes (ws : List LgwWrite) : ℕ := (ws.map LgwWrite.reqSize).sum

/-- By how much some writes move the count on. -/
def reqCounts (ws : List LgwWrite) : ℕ := (ws.map LgwWrite.counts).sum

/-- **The writes go through**: there is a connection, each is proper, and their
requests fit into the buffer. -/
structure Fits (port : UsbPort) (ws : List LgwWrite) (b : SpiReqBulk) : Prop where
  proper : ∀ w ∈ ws, port.connected ∧ w.Proper
  room : b.Room ws.length (reqBytes ws)

section Transaction

variable {port : UsbPort}

theorem writeMode_call {u : UsbLink} (hu : u.writeMode = .bulk) (w : LgwWrite) :
    (w.call port u).2.writeMode = .bulk := by
  by_cases h : port.connected ∧ w.Proper
  · exact (w.stores h.1 h.2).writeMode u hu
  · rw [w.call_of_not_proper h]
    exact hu

/-- The writes leave the bulk mode on, whether they go through or not. -/
theorem writeMode_runWrites (ws : List LgwWrite) {u : UsbLink} (hu : u.writeMode = .bulk) :
    (runWrites port ws u).2.writeMode = .bulk := by
  induction ws generalizing u with
  | nil => exact hu
  | cons w ws ih =>
    rw [runWrites]
    split_ifs with hfail
    · exact writeMode_call hu w
    · exact ih (writeMode_call hu w)

/-- **Writes that go through** store their requests and count them. -/
theorem runWrites_of_fits (ws : List LgwWrite) {u : UsbLink} (hu : u.writeMode = .bulk)
    (h : Fits port ws u.bulk) :
    (runWrites port ws u).1 = 0
      ∧ (runWrites port ws u).2.bulk.nbReq = u.bulk.nbReq + ws.length
      ∧ (runWrites port ws u).2.spiReqNb.toNat = (u.spiReqNb.toNat + reqCounts ws) % 256 := by
  induction ws generalizing u with
  | nil => exact ⟨rfl, rfl, (Nat.mod_eq_of_lt u.spiReqNb.toNat_lt).symm⟩
  | cons w ws ih =>
    obtain ⟨hport, hw⟩ := h.proper w List.mem_cons_self
    have hstores := w.stores hport hw
    obtain ⟨hnb, hsize⟩ := h.room
    rw [reqBytes, List.map_cons, List.sum_cons, ← reqBytes] at hsize
    rw [List.length_cons] at hnb
    obtain ⟨hok, hnb', hsize'⟩ := hstores.stored u hu ⟨by omega, by omega⟩
    obtain ⟨hok', hnb'', hcount⟩ := ih (hstores.writeMode u hu)
      ⟨fun v hv => h.proper v (List.mem_cons_of_mem w hv), by omega, by omega⟩
    rw [runWrites, if_neg (by rw [hok]; decide)]
    refine ⟨hok', ?_, ?_⟩
    · rw [hnb'', hnb', List.length_cons]
      omega
    · rw [hcount, reqCounts, reqCounts, List.map_cons, List.sum_cons]
      exact toNat_add_counts _ _ _ _ (hstores.counted u hu)

theorem runWrites_of_not_fits (ws : List LgwWrite) {u : UsbLink} (hu : u.writeMode = .bulk)
    (h : ¬ Fits port ws u.bulk) : (runWrites port ws u).1 = -1 := by
  induction ws generalizing u with
  | nil => exact absurd ⟨fun w hw => absurd hw List.not_mem_nil, u.bulk.length_le, u.bulk.size_le⟩ h
  | cons w ws ih =>
    rw [runWrites]
    by_cases hproper : port.connected ∧ w.Proper
    · have hstores := w.stores hproper.1 hproper.2
      by_cases hroom : u.bulk.Room 1 w.reqSize
      · obtain ⟨hok, hnb, hsize⟩ := hstores.stored u hu hroom
        rw [if_neg (by rw [hok]; decide)]
        refine ih (hstores.writeMode u hu) fun hrest => h ⟨fun v hv => ?_, ?_⟩
        · rcases List.mem_cons.mp hv with rfl | hv
          · exact hproper
          · exact hrest.proper v hv
        · obtain ⟨hrestNb, hrestSize⟩ := hrest.room
          rw [SpiReqBulk.Room, reqBytes, List.map_cons, List.sum_cons, ← reqBytes,
            List.length_cons]
          omega
      · rw [if_pos (hstores.refused u hu hroom)]
    · rw [w.call_of_not_proper hproper, if_pos rfl]

/-- **A flush leaves nothing over** exactly when there was nothing, or it sends
what is stored: the bulk mode is on, and the buffer is empty, or the count is not
zero and the device acknowledges. -/
theorem clean_lgwUsbFlush_iff (port : UsbPort) (u : UsbLink) :
    (lgwUsbFlush port u).2.Clean
      ↔ u.Clean
        ∨ (port.connected ∧ u.writeMode = .bulk
          ∧ (u.spiReqNb ≠ 0 ∧ port.acks ∨ u.bulk.nbReq = 0)) := by
  have hclean {u : UsbLink} (hmode : u.writeMode = .bulk) : ¬ u.Clean := by
    intro h
    rw [h.single] at hmode
    exact absurd hmode (by decide)
  unfold lgwUsbFlush
  by_cases hport : port.connected
  · rw [if_neg (not_not_intro hport)]
    by_cases hmode : u.writeMode = .bulk
    · rw [if_neg (not_not_intro hmode), or_iff_right (hclean hmode)]
      by_cases hcount : u.spiReqNb = 0
      · rw [if_pos hcount]
        refine ⟨fun h => ⟨hport, hmode, Or.inr h.empty⟩, fun h => ?_⟩
        -- without a count nothing is sent, and the requests that are there stay
        have hempty : u.bulk.nbReq = 0 := h.2.2.resolve_left fun hne => hne.1 hcount
        refine ⟨rfl, hempty, ?_⟩
        show u.spiReqNb.toNat = u.bulk.nbReq
        rw [hcount, hempty]
        rfl
      · rw [if_neg hcount]
        unfold mcuSpiFlush
        by_cases hacks : port.acks
        · rw [if_pos hacks]
          exact iff_of_true ⟨rfl, rfl, rfl⟩ ⟨hport, hmode, Or.inl ⟨hcount, hacks⟩⟩
        · rw [if_neg hacks]
          refine ⟨fun h => ⟨hport, hmode, Or.inr h.empty⟩, fun h => ?_⟩
          have hempty : u.bulk.nbReq = 0 := h.2.2.resolve_left fun hne => hacks hne.2
          exact ⟨rfl, hempty, hempty.symm⟩
    · rw [if_pos hmode]
      exact (or_iff_left fun h => hmode h.2.1).symm
  · rw [if_pos hport]
    exact (or_iff_left fun h => hport h.1).symm

/-- The single mode on top of a flush changes nothing. -/
theorem lgwUsbSetWriteMode_flush {u : UsbLink} (hport : port.connected)
    (hu : u.writeMode = .bulk) :
    lgwUsbSetWriteMode .single (lgwUsbFlush port u).2 = (lgwUsbFlush port u).2 := by
  unfold lgwUsbFlush
  rw [if_neg (not_not_intro hport), if_neg (not_not_intro hu)]
  split_ifs <;> rfl

/-- After writes that fail a transaction is over. -/
theorem bulkTransaction_of_not_fits {ws : List LgwWrite} {u : UsbLink}
    (h : ¬ Fits port ws u.bulk) :
    (bulkTransaction port ws u).2 = (runWrites port ws (lgwUsbSetWriteMode .bulk u)).2 := by
  have hbulk : (lgwUsbSetWriteMode .bulk u).writeMode = .bulk := rfl
  unfold bulkTransaction
  dsimp only
  rw [if_pos (runWrites_of_not_fits ws hbulk h)]

/-- After writes that go through it ends as its flush does. -/
theorem bulkTransaction_of_fits {ws : List LgwWrite} {u : UsbLink} (hport : port.connected)
    (h : Fits port ws u.bulk) :
    (bulkTransaction port ws u).2
      = (lgwUsbFlush port (runWrites port ws (lgwUsbSetWriteMode .bulk u)).2).2 := by
  have hbulk : (lgwUsbSetWriteMode .bulk u).writeMode = .bulk := rfl
  obtain ⟨hok, -, -⟩ := runWrites_of_fits ws hbulk h
  unfold bulkTransaction
  dsimp only
  rw [if_neg (by rw [hok]; decide),
    lgwUsbSetWriteMode_flush hport (writeMode_runWrites ws hbulk)]
  split_ifs <;> rfl

/-- **A transaction leaves nothing over exactly when all of it goes through**: the
writes fit, the count does not come round to zero, and the device acknowledges
the flush. -/
theorem clean_bulkTransaction_iff (port : UsbPort) {ws : List LgwWrite} (hws : ws ≠ [])
    (u : UsbLink) :
    (bulkTransaction port ws u).2.Clean
      ↔ Fits port ws u.bulk ∧ (u.spiReqNb.toNat + reqCounts ws) % 256 ≠ 0 ∧ port.acks := by
  have hbulk : (lgwUsbSetWriteMode .bulk u).writeMode = .bulk := rfl
  have hmode : (runWrites port ws (lgwUsbSetWriteMode .bulk u)).2.writeMode = .bulk :=
    writeMode_runWrites ws hbulk
  by_cases hfits : Fits port ws u.bulk
  · obtain ⟨w, hw⟩ := List.exists_mem_of_ne_nil ws hws
    have hport := (hfits.proper w hw).1
    obtain ⟨-, hnb, hcount⟩ := runWrites_of_fits ws hbulk hfits
    have hpos := List.length_pos_iff.mpr hws
    have hstored : (runWrites port ws (lgwUsbSetWriteMode .bulk u)).2.bulk.nbReq ≠ 0 := by omega
    have hzero : (runWrites port ws (lgwUsbSetWriteMode .bulk u)).2.spiReqNb ≠ 0
        ↔ (u.spiReqNb.toNat + reqCounts ws) % 256 ≠ 0 := by
      rw [← show _ = (u.spiReqNb.toNat + reqCounts ws) % 256 from hcount, ne_eq,
        ← UInt8.toNat_inj]
      rfl
    rw [bulkTransaction_of_fits hport hfits, clean_lgwUsbFlush_iff]
    constructor
    · rintro (hclean | ⟨-, -, ⟨hne, hacks⟩ | hempty⟩)
      · exact absurd hclean.empty hstored
      · exact ⟨hfits, hzero.mp hne, hacks⟩
      · exact absurd hempty hstored
    · rintro ⟨-, hne, hacks⟩
      exact Or.inr ⟨hport, hmode, Or.inl ⟨hzero.mpr hne, hacks⟩⟩
  · rw [bulkTransaction_of_not_fits hfits]
    refine iff_of_false (fun hclean => ?_) fun h => hfits h.1
    rw [hclean.single] at hmode
    exact absurd hmode (by decide)

end Transaction
