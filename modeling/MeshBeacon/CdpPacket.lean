import MeshBeacon.DuckUtils
import Mathlib.Algebra.Order.Group.Int
import Mathlib.Data.UInt

/-!
# Frames of the mesh

A frame is a header of 27 bytes and a data section: two device identifiers, the
identifier of the message, the topic, the type of the sending duck, the number
of hops so far, and a CRC-32 of the data. The CRC covers nothing else.

`CdpPacket.ofBuffer` reads the fields of a frame and `CdpPacket.prepareForSending`
writes one.
-/

/-! ## CRC-32 -/

/-- `crc32_table`, one entry for each half of a byte. -/
def crc32Table : Vector UInt32 16 :=
  #v[0x00000000, 0x1db71064, 0x3b6e20c8, 0x26d930ac,
    0x76dc4190, 0x6b6b51f4, 0x4db26158, 0x5005713c,
    0xedb88320, 0xf00f9344, 0xd6d6a3e8, 0xcb61b38c,
    0x9b64c2b0, 0x86d3d2d4, 0xa00ae278, 0xbdbdf21c]

/-- The entry for the lower half of a byte. -/
def crc32Entry (tblIdx : UInt8) : UInt32 := crc32Table.get (Fin.ofNat 16 tblIdx.toNat)

/-- `CRC32::update`, for one byte. -/
def crc32Update (state : UInt32) (data : UInt8) : UInt32 :=
  let state := crc32Entry (state.toUInt8 ^^^ data) ^^^ (state >>> 4)
  crc32Entry (state.toUInt8 ^^^ (data >>> 4)) ^^^ (state >>> 4)

/-- `CRC32::calculate`. -/
def crc32Calculate (data : List UInt8) : UInt32 := ~~~ (data.foldl crc32Update 0xFFFFFFFF)

/-! ## Lengths and positions -/

def packetLength : ℕ := 256
def headerLength : ℕ := 27
def sduidPos : ℕ := 0
def dduidPos : ℕ := 8
def muidPos : ℕ := 16
def topicPos : ℕ := 20
def duckTypePos : ℕ := 21
def hopCountPos : ℕ := 22
def dataCrcPos : ℕ := 23
def dataPos : ℕ := headerLength
def maxDataLength : ℕ := packetLength - headerLength

/-! ## Topics and addresses

The topics of the protocol itself are those of `enum reservedTopic`. -/

namespace ReservedTopic

def ping : UInt8 := 0x01
def pong : UInt8 := 0x02
def rreq : UInt8 := 0x06
def rrep : UInt8 := 0x07

end ReservedTopic

/-- `PAPADUCK_DUID`, for frames to all PapaDucks. -/
def papaduckDuid : Duid := Vector.replicate 8 0x00

/-- `BROADCAST_DUID`, for frames to every duck. -/
def broadcastDuid : Duid := Vector.replicate 8 0xFF

def duckErrNone : ℤ := 0

def duckpacketErrSizeInvalid : ℤ := -4000

/-! ## Packets -/

/-- `Muid`. -/
abbrev Muid := Vector UInt8 4

/-- The byte of a buffer at a position. -/
def byteAt (buffer : List UInt8) (i : ℕ) : UInt8 := buffer.getD i 0

/-- So many bytes of a buffer from a position on. -/
def bytesAt (n : ℕ) (buffer : List UInt8) (i : ℕ) : Vector UInt8 n :=
  Vector.ofFn fun k => byteAt buffer (i + k.val)

/-- `duckutils::toUint32`: the most significant byte comes first. -/
def DuckUtils.toUint32 (data : Vector UInt8 4) : UInt32 :=
  (data[0].toUInt32 <<< 24) ||| (data[1].toUInt32 <<< 16) ||| (data[2].toUInt32 <<< 8)
    ||| data[3].toUInt32

/-- `CdpPacket`. -/
structure CdpPacket where
  /-- Source device. -/
  sduid : Duid
  /-- Destination device. -/
  dduid : Duid
  /-- Message. -/
  muid : Muid
  topic : UInt8
  duckType : UInt8
  hopCount : UInt8
  dcrc : UInt32
  data : List UInt8
  /-- The packet as a frame. -/
  buffer : List UInt8
deriving DecidableEq

namespace CdpPacket

/-- The packet read from a frame. The frame has a header. -/
def ofBuffer (rxBuffer : List UInt8) : CdpPacket where
  sduid := bytesAt 8 rxBuffer sduidPos
  dduid := bytesAt 8 rxBuffer dduidPos
  muid := bytesAt 4 rxBuffer muidPos
  topic := byteAt rxBuffer topicPos
  duckType := byteAt rxBuffer duckTypePos
  hopCount := byteAt rxBuffer hopCountPos
  dcrc := DuckUtils.toUint32 (bytesAt 4 rxBuffer dataCrcPos)
  data := rxBuffer.drop dataPos
  buffer := rxBuffer

/-- The packet for new data. Its message identifier is assigned later. -/
def forSending (dduid : Duid) (topic : UInt8) (data : List UInt8) (sduid : Duid)
    (duckType : UInt8) : CdpPacket where
  sduid := sduid
  dduid := dduid
  muid := Vector.replicate 4 0
  topic := topic
  duckType := duckType
  hopCount := 0
  dcrc := 0
  data := data
  buffer := []

/-- The bytes of the CRC. -/
def crcBytes (value : UInt32) : List UInt8 :=
  [(value >>> 24).toUInt8, (value >>> 16).toUInt8, (value >>> 8).toUInt8, value.toUInt8]

/-- The frame `prepareForSending` builds. -/
def frame (packet : CdpPacket) : List UInt8 :=
  packet.sduid.toList ++ packet.dduid.toList ++ packet.muid.toList
    ++ [packet.topic, packet.duckType, packet.hopCount]
    ++ crcBytes (crc32Calculate packet.data) ++ packet.data

/-- `prepareForSending`. The length of the data is kept in a byte before it is
compared with the largest. -/
def prepareForSending (packet : CdpPacket) : ℤ × CdpPacket :=
  let dataLength := UInt8.ofNat packet.data.length
  if packet.data = [] ∨ maxDataLength < dataLength.toNat then
    (duckpacketErrSizeInvalid, { packet with buffer := [] })
  else (duckErrNone, { packet with buffer := packet.frame })

end CdpPacket

/-! ## The CRC in four bytes -/

namespace DuckUtils

theorem shiftLeft_or {hi lo : ℕ} (hlo : lo < 256) (k : ℕ) :
    hi <<< (8 + k) ||| lo <<< k = (hi * 256 + lo) <<< k := by
  rw [Nat.shiftLeft_add, ← Nat.shiftLeft_or_distrib, ← Nat.shiftLeft_add_eq_or_of_lt hlo,
    Nat.shiftLeft_eq hi]

theorem toNat_toUInt32_shiftLeft (b : UInt8) {k : UInt32} (hk : k.toNat ≤ 24) :
    (b.toUInt32 <<< k).toNat = b.toNat <<< k.toNat := by
  rw [UInt32.toNat_shiftLeft, UInt8.toNat_toUInt32,
    Nat.mod_eq_of_lt (Nat.lt_of_le_of_lt hk (by decide)), Nat.shiftLeft_eq]
  refine Nat.mod_eq_of_lt ?_
  calc b.toNat * 2 ^ k.toNat
      < 2 ^ 8 * 2 ^ k.toNat := Nat.mul_lt_mul_of_pos_right b.toNat_lt (Nat.two_pow_pos _)
    _ = 2 ^ (8 + k.toNat) := (Nat.pow_add 2 8 _).symm
    _ ≤ 2 ^ 32 := Nat.pow_le_pow_right Nat.two_pos (Nat.add_le_add_left hk 8)

theorem toNat_toUint32 (data : Vector UInt8 4) :
    (toUint32 data).toNat = ((data[0].toNat * 256 + data[1].toNat) * 256 + data[2].toNat) * 256
      + data[3].toNat := by
  unfold toUint32
  rw [UInt32.toNat_or, UInt32.toNat_or, UInt32.toNat_or,
    toNat_toUInt32_shiftLeft _ (by decide), toNat_toUInt32_shiftLeft _ (by decide),
    toNat_toUInt32_shiftLeft _ (by decide), UInt8.toNat_toUInt32,
    show UInt32.toNat 24 = 8 + 16 from rfl, show UInt32.toNat 16 = 16 from rfl,
    shiftLeft_or data[1].toNat_lt 16, show 16 = 8 + 8 from rfl,
    show UInt32.toNat 8 = 8 from rfl, shiftLeft_or data[2].toNat_lt 8,
    ← Nat.shiftLeft_add_eq_or_of_lt data[3].toNat_lt, Nat.shiftLeft_eq]

end DuckUtils

namespace CdpPacket

/-- The bytes of a CRC are its digits in base 256. -/
theorem map_toNat_crcBytes (value : UInt32) :
    (crcBytes value).map UInt8.toNat = [value.toNat / 2 ^ 24 % 256, value.toNat / 2 ^ 16 % 256,
      value.toNat / 2 ^ 8 % 256, value.toNat % 256] := by
  simp only [crcBytes, List.map_cons, List.map_nil, UInt32.toNat_toUInt8, UInt32.toNat_shiftRight,
    Nat.shiftRight_eq_div_pow]
  rfl

/-- Four bytes are those of a CRC when they are its digits. -/
theorem toList_eq_crcBytes_iff {data : Vector UInt8 4} {value : UInt32} :
    data.toList = crcBytes value ↔
      data[0].toNat = value.toNat / 2 ^ 24 % 256 ∧ data[1].toNat = value.toNat / 2 ^ 16 % 256
        ∧ data[2].toNat = value.toNat / 2 ^ 8 % 256 ∧ data[3].toNat = value.toNat % 256 := by
  have hlist : data.toList = [data[0], data[1], data[2], data[3]] :=
    List.ext_getElem Vector.length_toList fun i hi _ => by
      rw [Vector.length_toList] at hi
      rw [Vector.getElem_toList]
      match i, hi with
      | 0, _ | 1, _ | 2, _ | 3, _ => rfl
  rw [← (List.map_injective_iff.mpr fun _ _ => UInt8.toNat_inj.mp).eq_iff, map_toNat_crcBytes,
    hlist]
  simp only [List.map_cons, List.map_nil, List.cons.injEq, and_true]

/-- **The four bytes of a CRC are those it is read from.** -/
theorem toList_eq_crcBytes {data : Vector UInt8 4} {value : UInt32} :
    data.toList = crcBytes value ↔ DuckUtils.toUint32 data = value := by
  have h0 := data[0].toNat_lt
  have h1 := data[1].toNat_lt
  have h2 := data[2].toNat_lt
  have h3 := data[3].toNat_lt
  have hlt := value.toNat_lt
  rw [toList_eq_crcBytes_iff, ← UInt32.toNat_inj, DuckUtils.toNat_toUint32]
  omega

end CdpPacket
