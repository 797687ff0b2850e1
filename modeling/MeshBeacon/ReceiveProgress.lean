import MeshBeacon.Receive
import MeshBeacon.Run
import MeshBeacon.RxCodec

/-!
# When receiving makes progress

The buffer is refilled only when no packet is pending, so a call that leaves
the pending packets where they were leaves them there for good. Whether a call
does that is decided by the record at the index alone: a record that is
truncated or fails its checksum clears the buffer, a record that parses is
left behind whatever is made of its packet, but a record whose metadata is out
of range is an error that moves nothing.

`RxBuffer.HeadPoppable` says that the record at the index is not of the last
kind. With room for one packet, it is exactly when a call makes progress, and
calls that all find it so come to the end of the buffer.
-/

/-! ## The record at the index -/

/-- **The record at the index does not stop the parser**: there is one, with
its syncword, and if it is complete and passes its checksum its metadata is in
range. -/
def RxBuffer.HeadPoppable (rx : RxBuffer) (past : ℕ → UInt8) : Prop :=
  rx.bufferIndex < rx.bufferSize.toNat ∧ syncAt (rx.rd past) 0
    ∧ (rx.bufferIndex + recordLength (rx.rd past) ≤ rx.bufferSize.toNat →
      checksumOk (rx.rd past) → metadataInRange (rxPacketAt (rx.rd past)))

/-- **What `rx_buffer_pop` does**: it fails and leaves the buffer, with an error
exactly when the record at the index stops it, or it goes on to the next
record. -/
theorem rxBufferPop_cases (past : ℕ → UInt8) (rx : RxBuffer) :
    (¬ rx.HeadPoppable past ∧ rxBufferPop past rx = (.error, rx, none))
      ∨ (rx.HeadPoppable past ∧ rxBufferPop past rx = (.warning, rx, none))
      ∨ (rx.HeadPoppable past ∧ rxBufferPop past rx
        = (.success,
          { rx with
            bufferIndex := rx.bufferIndex + recordLength (rx.rd past)
            bufferPktNb := rx.bufferPktNb - 1 },
          some (rxPacketAt (rx.rd past)))) := by
  unfold rxBufferPop
  dsimp only
  split_ifs with hend hsync htruncated hsum hmeta
  · exact Or.inl ⟨fun h => absurd h.1 (by omega), rfl⟩
  · exact Or.inl ⟨fun h => by rw [h.2.1] at hsync; exact absurd hsync (by decide), rfl⟩
  · refine Or.inr (Or.inl ⟨⟨by omega, by simpa using hsync, fun hle => ?_⟩, rfl⟩)
    omega
  · refine Or.inr (Or.inl ⟨⟨by omega, by simpa using hsync, fun _ hok => ?_⟩, rfl⟩)
    rw [hok] at hsum
    exact absurd hsum (by decide)
  · refine Or.inl ⟨fun h => ?_, rfl⟩
    rw [h.2.2 (by omega) (by simpa using hsum)] at hmeta
    exact absurd hmeta (by decide)
  · exact Or.inr (Or.inr ⟨⟨by omega, by simpa using hsync, fun _ _ => by simpa using hmeta⟩, rfl⟩)

/-! ## Pending packets -/

theorem toNat_pending_sub_one {nb : UInt8} (h : nb ≠ 0) : (nb - 1).toNat = nb.toNat - 1 := by
  have h1 : (1 : UInt8) ≤ nb := by
    rw [UInt8.le_iff_toNat_le]
    exact Nat.pos_of_ne_zero fun h0 => h (UInt8.toNat_inj.mp h0)
  exact UInt8.toNat_sub_of_le _ _ h1

/-- A call of a receiver in its default configuration, with room for packets and
a FIFO holding these bytes. -/
def plainCall (maxPkt : UInt8) (bytes : List UInt8) : RxCall where
  maxPkt := maxPkt
  pktData _ := LgwPktRx.zero
  fifo := ⟨UInt16.ofNat bytes.length, UInt16.ofNat bytes.length, .ok bytes⟩
  past _ := 0
  context :=
    { ifRfChain := fun _ => 0, ifFreqHz := fun _ => 0, rfFreqHz := fun _ => 868500000
      implicitCrcEn := false, implicitHdr := false, implicitCoderate := 0
      loraServiceBandwidth := Hal.bw250khz, fskBandwidth := Hal.bw125khz, fskDatarate := 50000 }
  calcs := ⟨fun _ _ _ => 0, fun _ _ _ _ _ => 0, fun _ _ _ => none⟩
  counter := timestampCounterNew
  fineTimestamp := false
  absMin := Int32.minValue
  qsort := Qsort.insertion LgwPktRx
