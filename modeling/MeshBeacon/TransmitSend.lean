import MeshBeacon.LgwSend
import MeshBeacon.TransmitPackets

/-!
# What the concentrator refuses

The function that sends checks a packet before it does anything: its chain, its mode, its
settings, its length. The downstream thread has checked other things before, and the queues others
again. What is left for these checks to refuse is the configuration of a chain and one length: the
bridge takes frames of 256 bytes, and a frame of LoRa has 255 at most.
-/

open Hal Jit Gps Beacon SetConf

/-- **The settings of a packet** are such as a LoRa modem has. -/
structure LoraSettings (p : LgwPktTx) : Prop where
  rfChain : p.rfChain.toNat < rfChainNb
  txMode : p.txMode = timestamped ∨ p.txMode = onGps
  modulation : p.modulation = modLora
  bandwidth : isLoraBw p.bandwidth = true
  datarate : isLoraDr p.datarate.toNat = true
  coderate : isLoraCr p.coderate = true

theorem IsMeshPacket.loraSettings {i : ℕ} {p : LgwPktTx} (h : IsMeshPacket i p)
    (hi : i < rfChainNb) : LoraSettings p where
  rfChain := h.rfChain ▸ hi
  txMode := Or.inl h.txMode
  modulation := h.modulation
  bandwidth := by rw [h.bandwidth]; rfl
  datarate := by rw [h.datarate]; rfl
  coderate := by rw [h.coderate]; rfl

namespace Beacon

/-- The bandwidths of beacons are bandwidths of LoRa. -/
theorem isLoraBw_of_beaconBandwidth {bwHz : UInt32} {bandwidth : UInt8}
    (h : beaconBandwidth bwHz = some bandwidth) : isLoraBw bandwidth = true := by
  unfold beaconBandwidth at h
  split_ifs at h <;>
  · obtain rfl := Option.some.inj h
    rfl

/-- So are their spreading factors; and the frames are short. -/
theorem isLoraDr_of_beaconDatarateRfu {datarate : UInt8} {dr : UInt32} {rfu1Size rfu2Size : ℕ}
    (h : beaconDatarateRfu datarate = some (dr, rfu1Size, rfu2Size)) :
    isLoraDr dr.toNat = true := by
  unfold beaconDatarateRfu at h
  split_ifs at h <;>
  · obtain ⟨rfl, -, -⟩ := h
    rfl

theorem BeaconConf.length_frame (conf : BeaconConf) (rfu1Size rfu2Size : ℕ) (sec : ℤ) :
    (conf.frame rfu1Size rfu2Size sec).length = rfu1Size + rfu2Size + 15 := by
  unfold BeaconConf.frame networkPart
  rw [List.length_append, List.length_append, List.length_append, List.length_append,
    List.length_append, List.length_replicate, List.length_replicate]
  show rfu1Size + 4 + 2 + (7 + rfu2Size) + 2 = _
  omega

theorem BeaconConf.IsBeacon.loraSettings {conf : BeaconConf} {sec : ℤ} {p : LgwPktTx}
    (h : conf.IsBeacon sec p) : LoraSettings p where
  rfChain := by rw [h.rfChain]; decide
  txMode := Or.inr h.txMode
  modulation := h.modulation
  bandwidth := isLoraBw_of_beaconBandwidth h.bandwidth
  datarate := by
    obtain ⟨rfu1Size, rfu2Size, hdr, -⟩ := h.frame
    exact isLoraDr_of_beaconDatarateRfu hdr
  coderate := by rw [h.coderate]; rfl

theorem BeaconConf.IsBeacon.size_le {conf : BeaconConf} {sec : ℤ} {p : LgwPktTx}
    (h : conf.IsBeacon sec p) : p.size.toNat ≤ 23 := by
  obtain ⟨rfu1Size, rfu2Size, hdr, hframe⟩ := h.frame
  have hlen := congrArg List.length hframe
  rw [List.length_take, min_eq_left h.length, conf.length_frame] at hlen
  obtain ⟨h1, h2⟩ := rfu_le hdr
  omega

end Beacon

/-- **What is left to check** of such a packet. -/
theorem lgwSendChecks_of_loraSettings {F : Type} (context : LgwContext F) {p : LgwPktTx}
    (h : LoraSettings p) :
    lgwSendChecks context p = (context.isStarted && (context.rfChainCfg p.rfChain).txEnable
      && (context.rfChainCfg p.rfChain).enable && decide (p.size.toNat ≤ 255)) := by
  have hmode : (p.txMode = immediate || p.txMode = timestamped || p.txMode = onGps) = true := by
    rcases h.txMode with hmode | hmode <;> rw [hmode] <;> rfl
  have hsize : (p.size ≤ 255) = (p.size.toNat ≤ 255) := rfl
  unfold lgwSendChecks
  rw [decide_eq_true h.rfChain, hmode, if_pos h.modulation, h.bandwidth, h.datarate, h.coderate]
  simp only [Bool.and_true, Bool.true_and, hsize]

/-- **What the concentrator refuses of what it is handed.** In every run of the three threads from
a beacon that was built, as long as the comparator orders the queues that are peeked at, the time
is GPS time and the retries do not wrap: a packet that is handed over, for the chain in whose queue
it was, passes the checks of the function that sends exactly when the concentrator runs, the chain
sends and is enabled, and the packet is not a frame of the mesh with 256 bytes. -/
theorem transmitPath_checks {F : Type} (context : LgwContext F) (conf : BeaconConf)
    (chain : ℕ → TxChain) (qs : Qsort JitNode) (toa : LgwPktTx → UInt32) (stack : LgwPktTx)
    (beacon : BeaconPkt) (buf : List UInt8) (time : UInt32) (es : List TransmitEvent)
    (hstack : stack.payload.length = 256) (hbeacon : beaconInit conf stack = some beacon)
    (hes : Run.Guarded (TransmitPath.step conf chain qs toa)
      (fun s e => s.Ordered e ∧ s.Timely conf e) (TransmitPath.start beacon buf time) es) :
    let s := Run.final (TransmitPath.step conf chain qs toa) (TransmitPath.start beacon buf time) es
    ∀ h ∈ s.books.handed, h.pkt.rfChain.toNat = h.chain
      ∧ (lgwSendChecks context h.pkt = true ↔
        context.isStarted = true ∧ (context.rfChainCfg h.pkt.rfChain).txEnable = true
          ∧ (context.rfChainCfg h.pkt.rfChain).enable = true
          ∧ ¬ (h.pktType = .downlinkClassC ∧ h.pkt.size = 256)) := by
  intro s h hmem
  have hslotted : s.Slotted conf := TransmitPath.slotted_final hstack hbeacon hes
  have hpackets := TransmitPath.packets_final (hes.mono fun _ _ he => he.1)
  obtain ⟨hchain, hproper⟩ := hpackets.handed h hmem
  rcases hproper with ⟨htype, hmesh⟩ | ⟨htype, hzero, b, hb, hpkt⟩
  · refine ⟨hmesh.rfChain, ?_⟩
    -- the bridge lets 256 bytes through, and the size is all that can be wrong then
    have hsize : h.pkt.size.toNat ≤ 255 ↔ ¬ h.pkt.size = 256 := by
      have hle := hmesh.size_le
      rw [← UInt16.toNat_inj]
      show _ ↔ ¬ h.pkt.size.toNat = 256
      omega
    rw [lgwSendChecks_of_loraSettings context (hmesh.loraSettings hchain)]
    simp only [Bool.and_eq_true, decide_eq_true_eq, and_assoc, hsize, htype, true_and]
  · obtain ⟨-, -, hbeacon⟩ := hslotted.slot b hb
    -- a beacon is built from settings that pass the checks
    have hset : LoraSettings h.pkt := by
      rw [hpkt]
      exact ⟨hbeacon.loraSettings.rfChain, hbeacon.loraSettings.txMode,
        hbeacon.loraSettings.modulation, hbeacon.loraSettings.bandwidth,
        hbeacon.loraSettings.datarate, hbeacon.loraSettings.coderate⟩
    have hsize : h.pkt.size.toNat ≤ 255 := by
      rw [hpkt]
      exact hbeacon.size_le.trans (by decide)
    have hrf : h.pkt.rfChain = 0 := by
      rw [hpkt]
      exact hbeacon.rfChain
    refine ⟨by rw [hrf, hzero]; rfl, ?_⟩
    have hne : ¬ JitPktType.beacon = .downlinkClassC := by decide
    rw [lgwSendChecks_of_loraSettings context hset]
    simp only [Bool.and_eq_true, decide_eq_true_eq, and_assoc, hsize, htype, hne, false_and,
      not_false_eq_true]

/-- On the way of one frame, nothing is late or wraps. -/
theorem timely_oneFrame :
    Run.Guarded plainStep (fun s e => s.Timely beaconsSf9 e) plainStart oneFrame :=
  ⟨trivial, ⟨le_rfl, fun _ _ hpc => absurd hpc nofun⟩, trivial, trivial, trivial, trivial⟩

/-- That frame is handed over. -/
theorem transmitPath_checks_one :
    (Run.final plainStep plainStart oneFrame).books.handed.length = 1
      ∧ ∀ h ∈ (Run.final plainStep plainStart oneFrame).books.handed,
      h.pkt.rfChain.toNat = h.chain
        ∧ (lgwSendChecks lbtContext h.pkt = true ↔
          lbtContext.isStarted = true ∧ (lbtContext.rfChainCfg h.pkt.rfChain).txEnable = true
            ∧ (lbtContext.rfChainCfg h.pkt.rfChain).enable = true
            ∧ ¬ (h.pktType = .downlinkClassC ∧ h.pkt.size = 256)) :=
  ⟨by decide +kernel,
    transmitPath_checks lbtContext beaconsSf9 (fun _ => bandChain) (Qsort.insertion JitNode)
      (fun _ => 50) LgwPktTx.zero beaconSf9 [] 1000000 oneFrame List.length_replicate rfl
      (guarded_oneFrame.and timely_oneFrame)⟩
