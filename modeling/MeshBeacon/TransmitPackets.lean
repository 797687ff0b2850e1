import MeshBeacon.TransmitLedger

/-!
# What is handed to the radio

The queues hold packets of two kinds: packets of the mesh, with the settings the downstream
thread gives them, and beacons, each made for a slot of its own. Nothing in a packet changes
from there to the radio but the frequency of a beacon.

The slots come out in order. Each is the one behind the last that was queued, or further on, so
they ascend; and they are multiples of the period as long as the product of the retries and the
period does not wrap. Three beacons at most are stored, since a pass through the loop makes as
many as there were missing when it began, and only this thread adds any.
-/

open Hal Jit Gps Beacon

/-! ## The packets in the queues -/

/-- **The node is as the downstream thread makes them**: a packet of the mesh for its chain, or,
on the first chain, the beacon of a slot. -/
def JitNode.Proper (slots : List (ℤ × LgwPktTx)) (i : ℕ) (n : JitNode) : Prop :=
  (n.pktType = .downlinkClassC ∧ IsMeshPacket i n.pkt)
    ∨ (n.pktType = .beacon ∧ i = 0 ∧ ∃ sec, (sec, n.pkt) ∈ slots)

/-- **So is a packet that was taken out**, but for the frequency of a beacon. -/
def ProperOut (slots : List (ℤ × LgwPktTx)) (i : ℕ) (pkt : LgwPktTx) (pktType : JitPktType) :
    Prop :=
  (pktType = .downlinkClassC ∧ IsMeshPacket i pkt)
    ∨ (pktType = .beacon ∧ i = 0 ∧ ∃ b ∈ slots, pkt = { b.2 with freqHz := pkt.freqHz })

section Out

variable {slots slots' : List (ℤ × LgwPktTx)} {i : ℕ}

theorem JitNode.Proper.mono {n : JitNode} (h : n.Proper slots i) (hsub : slots ⊆ slots') :
    n.Proper slots' i := by
  rcases h with hmesh | ⟨htype, hi, sec, hmem⟩
  · exact Or.inl hmesh
  · exact Or.inr ⟨htype, hi, sec, hsub hmem⟩

theorem ProperOut.mono {pkt : LgwPktTx} {pktType : JitPktType} (h : ProperOut slots i pkt pktType)
    (hsub : slots ⊆ slots') : ProperOut slots' i pkt pktType := by
  rcases h with hmesh | ⟨htype, hi, b, hmem, hpkt⟩
  · exact Or.inl hmesh
  · exact Or.inr ⟨htype, hi, b, hsub hmem, hpkt⟩

/-- Taking a packet out corrects it, and nothing else. -/
theorem JitNode.Proper.corrected {n : JitNode} (h : n.Proper slots i) (r : JitReading) :
    ProperOut slots i (TransmitPath.corrected r n.pkt n.pktType) n.pktType := by
  rcases h with ⟨htype, hmesh⟩ | ⟨htype, hi, sec, hmem⟩
  · rw [htype]
    exact Or.inl ⟨rfl, hmesh⟩
  · rw [htype]
    exact Or.inr ⟨rfl, hi, _, hmem, rfl⟩

end Out

/-- After a frame was popped, a node is one there was or a packet of the mesh. -/
theorem Became.mem_live {qs : Qsort JitNode} {bytes : List UInt8} {queues queues' : ℕ → JitQueue}
    {handling : Option Handling} (h : Became qs bytes queues queues' handling)
    (hvalid : ∀ i, (queues i).Valid) {i : ℕ} {n : JitNode} (hn : n ∈ (queues' i).live) :
    n ∈ (queues i).live ∨ (n.pktType = .downlinkClassC ∧ IsMeshPacket i n.pkt) := by
  cases h with
  | lost hqueues => exact Or.inl (hqueues ▸ hn)
  | refused _ _ _ hqueues => exact Or.inl (hqueues ▸ hn)
  | stored _ j m _ _ htype hpkt _ hroom hqueues =>
    rw [hqueues] at hn
    by_cases hij : i = j
    · subst hij
      rw [Function.update_self] at hn
      have hperm := JitQueue.perm_push qs (lt_of_le_of_ne (hvalid i).numPkt_le hroom) m
      rcases List.mem_cons.mp (hperm.subset hn) with rfl | hold
      · exact Or.inr ⟨htype, hpkt⟩
      · exact Or.inl hold
    · rw [Function.update_of_ne hij] at hn
      exact Or.inl hn

/-- The number of beacons in a queue. -/
def JitQueue.beacons (q : JitQueue) : ℕ := q.live.countP (fun n => n.pktType = .beacon)

theorem Became.beacons {qs : Qsort JitNode} {bytes : List UInt8} {queues queues' : ℕ → JitQueue}
    {handling : Option Handling} (h : Became qs bytes queues queues' handling)
    (hvalid : ∀ i, (queues i).Valid) (i : ℕ) : (queues' i).beacons = (queues i).beacons := by
  cases h with
  | lost hqueues => rw [hqueues]
  | refused _ _ _ hqueues => rw [hqueues]
  | stored _ j m _ _ htype _ _ hroom hqueues =>
    rw [hqueues]
    by_cases hij : i = j
    · subst hij
      have hperm := JitQueue.perm_push qs (lt_of_le_of_ne (hvalid i).numPkt_le hroom) m
      rw [Function.update_self, JitQueue.beacons, hperm.countP_eq, List.countP_cons,
        if_neg (by rw [htype]; decide)]
      rfl
    · rw [Function.update_of_ne hij]

/-! ## The slots -/

section Slots

variable {period : UInt32} {last gpsNow : ℤ} {retry : ℕ}

/-- **The next slot is behind the last**, and behind now when there is none yet. -/
theorem lt_nextBeaconSec (hperiod : period ≠ 0) (hnow : 0 ≤ gpsNow) :
    last < nextBeaconSec period last gpsNow retry := by
  have hpos : 0 < (period.toNat : ℤ) :=
    Int.natCast_pos.mpr (Nat.pos_of_ne_zero fun h => hperiod (UInt32.toNat_inj.mp h))
  have hmore : (0 : ℤ) ≤ (UInt32.ofNat retry * period).toNat := Int.natCast_nonneg _
  unfold nextBeaconSec
  split_ifs with h0
  · have hmod := Int.tmod_lt_of_pos gpsNow hpos
    omega
  · omega

/-- **The next slot is a multiple of the period**, if the last was and the retries do not
wrap. -/
theorem dvd_nextBeaconSec (hdvd : (period.toNat : ℤ) ∣ last)
    (hwrap : retry * period.toNat < 2 ^ 32) :
    (period.toNat : ℤ) ∣ nextBeaconSec period last gpsNow retry := by
  have hmul : (UInt32.ofNat retry * period).toNat = retry * period.toNat := by
    rw [UInt32.toNat_mul, UInt32.toNat_ofNat', Nat.mod_mul_mod, Nat.mod_eq_of_lt hwrap]
  unfold nextBeaconSec
  rw [hmul, Nat.cast_mul]
  refine dvd_add ?_ (Dvd.intro_left _ rfl)
  split_ifs
  · have hdecomp : gpsNow + ((period.toNat : ℤ) - gpsNow.tmod period.toNat)
        = period.toNat * (gpsNow.tdiv period.toNat + 1) := by
      have h := Int.mul_tdiv_add_tmod gpsNow period.toNat
      rw [mul_add, mul_one]
      omega
    rw [hdecomp]
    exact dvd_mul_right _ _
  · exact dvd_add hdvd (dvd_refl _)

end Slots

/-! ## The invariants -/

namespace TransmitPath

/-- How many beacons the loop over them may still queue. -/
def toQueue : DownPc → ℕ
  | .beacons beaconLoop _ => beaconLoop.toNat
  | _ => 0

/-- **What the packets on the path are.** -/
structure Packets (s : TransmitPath) : Prop where
  stored : ∀ i, ∀ n ∈ (s.down.jitQueue i).live, n.Proper s.books.slots i
  held : ∀ i pkt pktType, s.jitPc = .send i pkt pktType → ProperOut s.books.slots i pkt pktType
  handed : ∀ h ∈ s.books.handed, h.chain < rfChainNb
    ∧ ProperOut s.books.slots h.chain h.pkt h.pktType

/-- **The slots**, and the beacons queued for them. -/
structure Slotted (conf : BeaconConf) (s : TransmitPath) : Prop where
  built : conf.Built s.beacons.beacon
  last_nonneg : 0 ≤ s.beacons.lastBeaconSec
  dvd_last : (conf.beaconPeriod.toNat : ℤ) ∣ s.beacons.lastBeaconSec
  le_last : ∀ b ∈ s.books.slots, b.1 ≤ s.beacons.lastBeaconSec
  ascending : s.books.slots.Pairwise fun b b' => b.1 < b'.1
  slot : ∀ b ∈ s.books.slots,
    (conf.beaconPeriod.toNat : ℤ) ∣ b.1 ∧ 0 < b.1 ∧ conf.IsBeacon b.1 b.2
  /-- What is stored, with what the loop may still queue. -/
  few : (s.down.jitQueue 0).beacons + toQueue s.downPc ≤ 3

/-- **The time is GPS time**, which has no negative seconds, and the retries for a slot are not
so many that their product with the period wraps. -/
def Timely (conf : BeaconConf) (s : TransmitPath) : TransmitEvent → Prop
  | .down r => 0 ≤ r.timeReferenceGps.gps.tvSec
      ∧ ∀ beaconLoop retry, s.downPc = .beacons beaconLoop retry →
        retry * conf.beaconPeriod.toNat < 2 ^ 32
  | _ => True

section Steps

variable {conf : BeaconConf} {chain : ℕ → TxChain} {qs : Qsort JitNode} {toa : LgwPktTx → UInt32}
  {s : TransmitPath}

theorem packets_start (beacon : BeaconPkt) (buf : List UInt8) (time : UInt32) :
    (start beacon buf time).Packets where
  stored _ _ hn := absurd hn List.not_mem_nil
  held _ _ _ hpc := absurd hpc nofun
  handed _ hh := absurd hh List.not_mem_nil

theorem slotted_start {beacon : BeaconPkt} (hbeacon : conf.Built beacon) (buf : List UInt8)
    (time : UInt32) : (start beacon buf time).Slotted conf where
  built := hbeacon
  last_nonneg := le_refl 0
  dvd_last := dvd_zero _
  le_last _ hb := absurd hb List.not_mem_nil
  ascending := List.Pairwise.nil
  slot _ hb := absurd hb List.not_mem_nil
  few := Nat.zero_le 3

/-- **A step that leaves the books of the slots** and adds only packets of the mesh to the
queues, while the other thread stays, keeps what the packets are. -/
theorem Packets.of_mem {s' : TransmitPath} (h : s.Packets) (hpc : s'.jitPc = s.jitPc)
    (hslots : s.books.slots ⊆ s'.books.slots) (hhanded : s'.books.handed = s.books.handed)
    (hlive : ∀ i, ∀ n ∈ (s'.down.jitQueue i).live,
      n ∈ (s.down.jitQueue i).live ∨ n.Proper s'.books.slots i) : s'.Packets where
  stored i n hn := by
    rcases hlive i n hn with hold | hnew
    · exact (h.stored i n hold).mono hslots
    · exact hnew
  held i pkt pktType hsend := by
    rw [hpc] at hsend
    exact (h.held i pkt pktType hsend).mono hslots
  handed m hm := by
    rw [hhanded] at hm
    exact ⟨(h.handed m hm).1, (h.handed m hm).2.mono hslots⟩

/-- What a pop enters in the books concerns neither the slots nor what was handed over. -/
theorem popped_slots (books : TransmitBooks) (bridge : List DownlinkPacket)
    (handling : Option Handling) : (popped books bridge handling).slots = books.slots
      ∧ (popped books bridge handling).handed = books.handed := by
  cases bridge with
  | nil =>
    cases handling with
    | none => exact ⟨rfl, rfl⟩
    | some h =>
      unfold popped
      dsimp only
      split_ifs <;> exact ⟨rfl, rfl⟩
  | cons pkt rest =>
    cases handling with
    | none => exact ⟨rfl, rfl⟩
    | some h =>
      unfold popped
      dsimp only
      split_ifs <;> exact ⟨rfl, rfl⟩

/-- **Taking a frame from the bridge** changes the queues by a packet of the mesh at most. -/
theorem pollBridge_spec (h : s.Inv) (loop : DownlinkLoop) (r : DownReading) (pc : DownPc) :
    let s' := s.pollBridge chain qs toa loop r pc
    s'.jitPc = s.jitPc ∧ s'.downPc = pc ∧ s'.beacons = s.beacons
      ∧ s'.books.slots = s.books.slots ∧ s'.books.handed = s.books.handed
      ∧ (∀ i, ∀ n ∈ (s'.down.jitQueue i).live, n ∈ (s.down.jitQueue i).live
        ∨ (n.pktType = .downlinkClassC ∧ IsMeshPacket i n.pkt))
      ∧ ∀ i, (s'.down.jitQueue i).beacons = (s.down.jitQueue i).beacons := by
  intro s'
  obtain ⟨hslots, hhanded⟩ := popped_slots s.books s.bridge
    (loop.handle chain qs toa r.instcnt s.down s.bridge).2.2
  refine ⟨rfl, rfl, rfl, hslots, hhanded, ?_⟩
  show (∀ i, ∀ n ∈ ((loop.handle chain qs toa r.instcnt s.down s.bridge).1.jitQueue i).live, _)
    ∧ ∀ i, ((loop.handle chain qs toa r.instcnt s.down s.bridge).1.jitQueue i).beacons = _
  cases hbridge : s.bridge with
  | nil =>
    rw [handle_nil]
    exact ⟨fun i n hn => Or.inl hn, fun _ => rfl⟩
  | cons pkt rest =>
    have hne := h.ne_nil
    rw [hbridge] at hne
    obtain ⟨-, -, hbecame⟩ := became_handle chain qs toa loop r.instcnt rest
      (hne pkt List.mem_cons_self) h.capacity_le
    exact ⟨fun i n hn => hbecame.mem_live h.valid hn, hbecame.beacons h.valid⟩

/-- **Trying a beacon** changes the first queue by that beacon at most. -/
theorem mem_live_tryBeacon (h : s.Inv) (r : DownReading) (beaconLoop : UInt8) (retry : ℕ) (i : ℕ)
    {n : JitNode}
    (hn : n ∈ ((s.tryBeacon conf qs toa r beaconLoop retry).down.jitQueue i).live) :
    n ∈ (s.down.jitQueue i).live
      ∨ n.Proper (s.tryBeacon conf qs toa r beaconLoop retry).books.slots i := by
  obtain ⟨-, -, -, -, ⟨hqueues, -⟩ | ⟨hroom, hqueues, hbook, -⟩⟩ :=
    tryBeacon_cases conf qs toa s r beaconLoop retry
  · rw [hqueues] at hn
    exact Or.inl hn
  · rw [hqueues] at hn
    by_cases hi : i = 0
    · subst hi
      rw [Function.update_self] at hn
      have hperm := JitQueue.perm_push qs (lt_of_le_of_ne (h.valid 0).numPkt_le hroom)
        (beaconNode (s.nextBeacon conf r retry).pkt)
      rcases List.mem_cons.mp (hperm.subset hn) with rfl | hold
      · refine Or.inr (Or.inr ⟨rfl, rfl, s.nextSec conf r retry, ?_⟩)
        rw [hbook]
        exact List.mem_append_right _ List.mem_cons_self
      · exact Or.inl hold
    · rw [Function.update_of_ne hi] at hn
      exact Or.inl hn

/-- The downstream thread keeps what the packets are. -/
theorem Packets.threadDown (h : s.Packets) (hinv : s.Inv) (r : DownReading) :
    (s.threadDown conf chain qs toa r).Packets := by
  have hmove : ∀ pc, ({ s with downPc := pc } : TransmitPath).Packets := fun _ =>
    ⟨h.stored, h.held, h.handed⟩
  have hpoll : ∀ loop pc, (s.pollBridge chain qs toa loop r pc).Packets := by
    intro loop pc
    obtain ⟨hpc, -, -, hslots, hhanded, hlive, -⟩ :=
      @pollBridge_spec chain qs toa s hinv loop r pc
    exact h.of_mem hpc (fun _ hb => hslots ▸ hb) hhanded
      fun i n hn => (hlive i n hn).imp_right Or.inl
  unfold TransmitPath.threadDown
  split
  · exact hpoll _ _
  · split_ifs <;> exact hmove _
  · split_ifs
    · rename_i beaconLoop retry _ _ _
      obtain ⟨-, -, hpc, -, hcases⟩ := tryBeacon_cases conf qs toa s r beaconLoop retry
      refine h.of_mem hpc ?_ ?_ (fun i n hn => mem_live_tryBeacon hinv r beaconLoop retry i hn)
      · rcases hcases with ⟨-, hbook, -⟩ | ⟨-, -, hbook, -⟩
        · exact fun b hb => by rwa [hbook]
        · exact fun b hb => by
            rw [hbook]
            exact List.mem_append_left _ hb
      · rcases hcases with ⟨-, hbook, -⟩ | ⟨-, -, hbook, -⟩ <;> rw [hbook]
    · exact hmove _
    · exact hmove _
  · exact hpoll _ _

/-- The transmitting thread keeps what the packets are. -/
theorem Packets.threadJit (h : s.Packets) (hinv : s.Inv) (r : JitReading) :
    (s.threadJit qs r).Packets := by
  have hrange := hinv.inRange
  unfold PcInRange at hrange
  -- a queue that lost nodes, and a thread that holds nothing
  have hless : ∀ (i : ℕ) (q : JitQueue), (∀ n ∈ q.live, n ∈ (s.down.jitQueue i).live) →
      ∀ j, ∀ n ∈ (Function.update s.down.jitQueue i q j).live, n.Proper s.books.slots j := by
    intro i q hsub j n hn
    by_cases hj : j = i
    · subst hj
      rw [Function.update_self] at hn
      exact h.stored j n (hsub n hn)
    · rw [Function.update_of_ne hj] at hn
      exact h.stored j n hn
  unfold TransmitPath.threadJit
  cases hpc : s.jitPc with
  | peek i =>
    have hperm := (jitPeek_perm qs (hinv.valid i).numPkt_le r.instcnt).2
    dsimp only
    generalize jitPeek qs (s.down.jitQueue i) r.instcnt = res at hperm ⊢
    obtain ⟨err, q, pktIndex, dropped⟩ := res
    refine ⟨hless i q fun n hn => hperm.subset (List.mem_append_right dropped hn), ?_, h.handed⟩
    intro j pkt pktType hsend
    cases err <;> cases pktIndex <;> exact absurd hsend nofun
  | dequeue i pktIndex =>
    rw [hpc] at hrange
    obtain ⟨hi, hlt⟩ := hrange
    have hle := (hinv.valid i).numPkt_le
    have hdequeue := @JitLedger.jitDequeue_inRange qs ⟨s.down.jitQueue i, 0, 0⟩ hle _
      (Int.natCast_nonneg pktIndex) (Int.ofNat_lt.mpr hlt)
    rw [Int.toNat_natCast] at hdequeue
    dsimp only at hdequeue ⊢
    rw [hdequeue]
    refine ⟨hless i _ fun n hn => JitQueue.mem_of_mem_remove qs hle (by omega) hn, ?_, h.handed⟩
    intro j pkt pktType hsend
    obtain ⟨rfl, rfl, rfl⟩ := JitPc.send.inj hsend
    exact (h.stored i _ (JitQueue.node_mem_live hle hlt)).corrected r
  | send i pkt pktType =>
    rw [hpc] at hrange
    dsimp only
    split_ifs
    · exact ⟨h.stored, fun _ _ _ hsend => absurd hsend nofun, h.handed⟩
    · refine ⟨h.stored, fun _ _ _ hsend => absurd hsend nofun, fun m hm => ?_⟩
      rcases List.mem_append.mp hm with hm | hm
      · exact h.handed m hm
      · rw [List.mem_singleton.mp hm]
        exact ⟨hrange, h.held i pkt pktType hpc⟩

/-- **A step of any thread keeps what the packets are.** -/
theorem Packets.step (h : s.Packets) (hinv : s.Inv) (e : TransmitEvent) :
    (s.step conf chain qs toa e).Packets := by
  cases e with
  | mesh payload info =>
    refine h.of_mem rfl ?_ ?_ fun i n hn => Or.inl hn
    · show s.books.slots ⊆ (s.mesh payload info).books.slots
      unfold TransmitPath.mesh
      dsimp only
      split_ifs <;> exact fun _ hb => hb
    · show (s.mesh payload info).books.handed = _
      unfold TransmitPath.mesh
      dsimp only
      split_ifs <;> rfl
  | down r => exact h.threadDown hinv r
  | jit r => exact h.threadJit hinv r

theorem beacons_push (hinv : s.Inv) (hroom : (s.down.jitQueue 0).numPkt.toNat ≠ queueMax)
    (pkt : LgwPktTx) : (jitSortQueue qs ((s.down.jitQueue 0).push (beaconNode pkt))).beacons
      = (s.down.jitQueue 0).beacons + 1 := by
  have hperm := JitQueue.perm_push qs (lt_of_le_of_ne (hinv.valid 0).numPkt_le hroom)
    (beaconNode pkt)
  have htype : decide ((beaconNode pkt).pktType = .beacon) = true := decide_eq_true rfl
  rw [JitQueue.beacons, hperm.countP_eq, List.countP_cons, if_pos htype]
  rfl

/-- **A step that leaves the beacons**, or takes some out of the queue, keeps the slots. -/
theorem Slotted.of_le {s' : TransmitPath} (h : s.Slotted conf)
    (hbeacon : s'.beacons.beacon = s.beacons.beacon)
    (hlast : s'.beacons.lastBeaconSec = s.beacons.lastBeaconSec)
    (hslots : s'.books.slots = s.books.slots)
    (hfew : (s'.down.jitQueue 0).beacons + toQueue s'.downPc ≤ 3) : s'.Slotted conf where
  built := by rw [hbeacon]; exact h.built
  last_nonneg := by rw [hlast]; exact h.last_nonneg
  dvd_last := by rw [hlast]; exact h.dvd_last
  le_last := by rw [hslots, hlast]; exact h.le_last
  ascending := by rw [hslots]; exact h.ascending
  slot := by rw [hslots]; exact h.slot
  few := hfew

/-- **Trying a beacon** goes on to the next slot, or stays. -/
theorem Slotted.tryBeacon (h : s.Slotted conf) (hinv : s.Inv) {r : DownReading}
    {beaconLoop : UInt8} {retry : ℕ} (hpc : s.downPc = .beacons beaconLoop retry)
    (hloop : beaconLoop ≠ 0) (hperiod : conf.beaconPeriod ≠ 0) (htimely : s.Timely conf (.down r)) :
    (s.tryBeacon conf qs toa r beaconLoop retry).Slotted conf := by
  obtain ⟨hnow, hwrap⟩ := htimely
  have hlt := @lt_nextBeaconSec conf.beaconPeriod s.beacons.lastBeaconSec _ retry hperiod hnow
  have hdvd := @dvd_nextBeaconSec _ _ r.timeReferenceGps.gps.tvSec _ h.dvd_last
    (hwrap beaconLoop retry hpc)
  change _ < s.nextSec conf r retry at hlt
  change _ ∣ s.nextSec conf r retry at hdvd
  obtain ⟨hbuilt, hbeacon⟩ := h.built.load r.timeReferenceGps (s.nextSec conf r retry)
  have hfew := h.few
  rw [hpc] at hfew
  have hpos : 0 < beaconLoop.toNat := Nat.pos_of_ne_zero fun h0 => hloop (UInt8.toNat_inj.mp h0)
  obtain ⟨-, -, -, hpkt, ⟨hqueues, hbook, hdown, hlast⟩ | ⟨hroom, hqueues, hbook, hdown, hlast⟩⟩ :=
    tryBeacon_cases conf qs toa s r beaconLoop retry
  · -- the queue refused it: only the beacon that was built is new
    refine ⟨?_, ?_, ?_, ?_, ?_, ?_, ?_⟩
    · rw [hpkt]
      exact hbuilt
    · rw [hlast]
      exact h.last_nonneg
    · rw [hlast]
      exact h.dvd_last
    · rw [hbook, hlast]
      exact h.le_last
    · rw [hbook]
      exact h.ascending
    · rw [hbook]
      exact h.slot
    · rw [hqueues, hdown]
      exact hfew
  · -- it is queued for a slot after all those before, and one fewer is to be queued
    refine ⟨?_, ?_, ?_, ?_, ?_, ?_, ?_⟩
    · rw [hpkt]
      exact hbuilt
    · rw [hlast]
      exact (h.last_nonneg.trans_lt hlt).le
    · rw [hlast]
      exact hdvd
    · rw [hbook, hlast]
      intro b hb
      rcases List.mem_append.mp hb with hb | hb
      · exact (h.le_last b hb).trans hlt.le
      · rw [List.mem_singleton.mp hb]
    · rw [hbook]
      refine List.pairwise_append.mpr ⟨h.ascending, List.pairwise_singleton _ _, ?_⟩
      intro b hb b' hb'
      rw [List.mem_singleton.mp hb']
      exact (h.le_last b hb).trans_lt hlt
    · rw [hbook]
      intro b hb
      rcases List.mem_append.mp hb with hb | hb
      · exact h.slot b hb
      · rw [List.mem_singleton.mp hb]
        exact ⟨hdvd, h.last_nonneg.trans_lt hlt, hbeacon⟩
    · have hminus : (beaconLoop - 1).toNat = beaconLoop.toNat - 1 :=
        UInt8.toNat_sub_of_le _ _ (UInt8.le_iff_toNat_le.mpr hpos)
      rw [hqueues, hdown, Function.update_self, beacons_push hinv hroom]
      show _ + (beaconLoop - 1).toNat ≤ 3
      change _ + beaconLoop.toNat ≤ 3 at hfew
      omega

theorem Slotted.threadDown (h : s.Slotted conf) (hinv : s.Inv) {r : DownReading}
    (htimely : s.Timely conf (.down r)) :
    (s.threadDown conf chain qs toa r).Slotted conf := by
  have hfew := h.few
  -- whatever the place, as long as no beacon is due there
  have hless : ∀ n, (s.down.jitQueue 0).beacons + n ≤ 3 → (s.down.jitQueue 0).beacons + 0 ≤ 3 :=
    fun _ hn => (Nat.add_le_add_left (Nat.zero_le _) _).trans hn
  have hpoll : ∀ loop pc, toQueue pc = 0 → (s.pollBridge chain qs toa loop r pc).Slotted conf := by
    intro loop pc hzero
    obtain ⟨-, hdown, hbeacons, hslots, -, -, hcount⟩ :=
      @pollBridge_spec chain qs toa s hinv loop r pc
    refine h.of_le (by rw [hbeacons]) (by rw [hbeacons]) hslots ?_
    rw [hcount, hdown, hzero]
    exact hless _ hfew
  unfold TransmitPath.threadDown
  split
  · exact hpoll _ _ rfl
  · split_ifs
    · refine h.of_le rfl rfl rfl ?_
      have hnum := (hinv.valid 0).numBeacon_eq
      have hle : (s.down.jitQueue 0).numBeacon.toNat ≤ 3 := by
        rw [hnum]
        exact (Nat.le_add_right _ _).trans hfew
      have hminus : (jitNumBeaconInQueue - (s.down.jitQueue 0).numBeacon).toNat
          = 3 - (s.down.jitQueue 0).numBeacon.toNat :=
        UInt8.toNat_sub_of_le _ _ (UInt8.le_iff_toNat_le.mpr hle)
      show (s.down.jitQueue 0).beacons + (jitNumBeaconInQueue - _).toNat ≤ 3
      rw [hminus, hnum, JitQueue.beacons]
      rw [hnum] at hle
      omega
    · exact h.of_le rfl rfl rfl (hless _ hfew)
  · rename_i beaconLoop retry hpc
    split_ifs with hgo hvalid
    · exact h.tryBeacon hinv hpc hgo.1 hgo.2 htimely
    · exact h.of_le rfl rfl rfl (hless _ hfew)
    · exact h.of_le rfl rfl rfl (hless _ hfew)
  · exact hpoll _ _ rfl

theorem beacons_jitPeek_le {q : JitQueue} (hq : q.Valid) (timeUs : UInt32) :
    (jitPeek qs q timeUs).2.1.beacons ≤ q.beacons := by
  have hcount := (jitPeek_perm qs hq.numPkt_le timeUs).2.countP_eq
    (fun n => decide (n.pktType = .beacon))
  rw [List.countP_append] at hcount
  exact (Nat.le_add_left _ _).trans_eq hcount

theorem beacons_remove_le {q : JitQueue} (hq : q.Valid) {i : ℕ} (hi : i < q.numPkt.toNat) :
    (q.remove qs i).beacons ≤ q.beacons := by
  have hcount := (JitQueue.perm_remove qs hq.numPkt_le hi).countP_eq
    (fun n => decide (n.pktType = .beacon))
  rw [List.countP_cons] at hcount
  exact (Nat.le_add_right _ _).trans_eq hcount

theorem Slotted.threadJit (h : s.Slotted conf) (hinv : s.Inv) (r : JitReading) :
    (s.threadJit qs r).Slotted conf := by
  have hrange := hinv.inRange
  unfold PcInRange at hrange
  -- a queue that is written has no more beacons than before
  have hless : ∀ (i : ℕ) (q : JitQueue), q.beacons ≤ (s.down.jitQueue i).beacons →
      (Function.update s.down.jitQueue i q 0).beacons + toQueue s.downPc ≤ 3 := by
    intro i q hle
    refine (Nat.add_le_add_right ?_ _).trans h.few
    by_cases hi : 0 = i
    · subst hi
      rw [Function.update_self]
      exact hle
    · rw [Function.update_of_ne hi]
  unfold TransmitPath.threadJit
  cases hpc : s.jitPc with
  | peek i => exact h.of_le rfl rfl rfl (hless i _ (beacons_jitPeek_le (hinv.valid i) r.instcnt))
  | dequeue i pktIndex =>
    rw [hpc] at hrange
    obtain ⟨hi, hlt⟩ := hrange
    have hdequeue := @JitLedger.jitDequeue_inRange qs ⟨s.down.jitQueue i, 0, 0⟩
      (hinv.valid i).numPkt_le _ (Int.natCast_nonneg pktIndex) (Int.ofNat_lt.mpr hlt)
    rw [Int.toNat_natCast] at hdequeue
    dsimp only at hdequeue ⊢
    rw [hdequeue]
    exact h.of_le rfl rfl rfl (hless i _ (beacons_remove_le (hinv.valid i) hlt))
  | send i pkt pktType =>
    refine h.of_le rfl rfl ?_ h.few
    dsimp only
    split_ifs <;> rfl

/-- **A step of any thread keeps the slots.** -/
theorem Slotted.step (h : s.Slotted conf) (hinv : s.Inv) {e : TransmitEvent}
    (htimely : s.Timely conf e) : (s.step conf chain qs toa e).Slotted conf := by
  cases e with
  | mesh payload info =>
    refine h.of_le rfl rfl ?_ h.few
    show (s.mesh payload info).books.slots = _
    unfold TransmitPath.mesh
    dsimp only
    split_ifs <;> rfl
  | down r => exact h.threadDown hinv htimely
  | jit r => exact h.threadJit hinv r

end Steps

/-- What the packets are holds after every run. -/
theorem packets_final {conf : BeaconConf} {chain : ℕ → TxChain} {qs : Qsort JitNode}
    {toa : LgwPktTx → UInt32} {beacon : BeaconPkt} {buf : List UInt8} {time : UInt32}
    {es : List TransmitEvent}
    (hes : Run.Guarded (step conf chain qs toa) Ordered (start beacon buf time) es) :
    (Run.final (step conf chain qs toa) (start beacon buf time) es).Packets :=
  (hes.invariant (P := fun s => s.Inv ∧ s.Packets)
    (fun _ e he h => ⟨h.1.step he, h.2.step h.1 e⟩)
    ⟨inv_start beacon buf time, packets_start beacon buf time⟩).2

/-- What the slots are holds after every run from a beacon that was built. -/
theorem slotted_final {conf : BeaconConf} {chain : ℕ → TxChain} {qs : Qsort JitNode}
    {toa : LgwPktTx → UInt32} {stack : LgwPktTx} {beacon : BeaconPkt} {buf : List UInt8}
    {time : UInt32} {es : List TransmitEvent} (hstack : stack.payload.length = 256)
    (hbeacon : beaconInit conf stack = some beacon)
    (hes : Run.Guarded (step conf chain qs toa) (fun s e => s.Ordered e ∧ s.Timely conf e)
      (start beacon buf time) es) :
    (Run.final (step conf chain qs toa) (start beacon buf time) es).Slotted conf :=
  (hes.invariant (P := fun s => s.Inv ∧ s.Slotted conf)
    (fun _ _ he h => ⟨h.1.step he.1, h.2.step h.1 he.2⟩)
    ⟨inv_start beacon buf time, slotted_start (built_beaconInit hstack hbeacon) buf time⟩).2

end TransmitPath

/-- **The beacons go out one for each slot, in order, and right.** In every run of the three
threads from a beacon that was built, whatever the stack held before, as long as the comparator
orders the queues that are peeked at, the time is GPS time and the retries do not wrap: the slots
of the beacons queued ascend, and each is a multiple of the period; the packet queued for a slot
has the configured settings and the frequency of the slot's channel, and sends the frame of the
slot, with both checksums; three beacons at most are stored, all in the queue of the first chain,
each of them the one queued for a slot. -/
theorem transmitPath_beacons (conf : BeaconConf) (chain : ℕ → TxChain) (qs : Qsort JitNode)
    (toa : LgwPktTx → UInt32) (stack : LgwPktTx) (beacon : BeaconPkt) (buf : List UInt8)
    (time : UInt32) (es : List TransmitEvent) (hstack : stack.payload.length = 256)
    (hbeacon : beaconInit conf stack = some beacon)
    (hes : Run.Guarded (TransmitPath.step conf chain qs toa)
      (fun s e => s.Ordered e ∧ s.Timely conf e) (TransmitPath.start beacon buf time) es) :
    let s := Run.final (TransmitPath.step conf chain qs toa) (TransmitPath.start beacon buf time) es
    (s.books.slots.Pairwise fun b b' => b.1 < b'.1)
      ∧ (∀ b ∈ s.books.slots,
        (conf.beaconPeriod.toNat : ℤ) ∣ b.1 ∧ 0 < b.1 ∧ conf.IsBeacon b.1 b.2)
      ∧ (s.down.jitQueue 0).beacons ≤ 3
      ∧ ∀ i, ∀ n ∈ (s.down.jitQueue i).live, n.pktType = .beacon →
        i = 0 ∧ ∃ sec, (sec, n.pkt) ∈ s.books.slots := by
  intro s
  have hslotted : s.Slotted conf := TransmitPath.slotted_final hstack hbeacon hes
  have hpackets := TransmitPath.packets_final (hes.mono fun _ _ he => he.1)
  refine ⟨hslotted.ascending, hslotted.slot, (Nat.le_add_right _ _).trans hslotted.few, ?_⟩
  intro i n hn htype
  rcases hpackets.stored i n hn with ⟨hmesh, -⟩ | ⟨-, hi, hslot⟩
  · rw [htype] at hmesh
    exact absurd hmesh (by decide)
  · exact ⟨hi, hslot⟩

/-- The reference was read at GPS second 1000, and is valid. -/
def validDown : DownReading :=
  ⟨5000000, true, true, true, ⟨1, 4000000, ⟨1, 0⟩, ⟨1000, 0⟩, 1⟩⟩

/-- A pass of the downstream thread up to the first beacon. -/
theorem transmitPath_beacons_first :
    let s := Run.final (TransmitPath.step beaconsSf9 (fun _ => bandChain)
      (Qsort.insertion JitNode) (fun _ => 50)) (TransmitPath.start beaconSf9 [] 0)
      [.down validDown, .down validDown, .down validDown]
    (s.books.slots.Pairwise fun b b' => b.1 < b'.1)
      ∧ (∀ b ∈ s.books.slots,
        (beaconsSf9.beaconPeriod.toNat : ℤ) ∣ b.1 ∧ 0 < b.1 ∧ beaconsSf9.IsBeacon b.1 b.2)
      ∧ (s.down.jitQueue 0).beacons ≤ 3
      ∧ ∀ i, ∀ n ∈ (s.down.jitQueue i).live, n.pktType = .beacon →
        i = 0 ∧ ∃ sec, (sec, n.pkt) ∈ s.books.slots := by
  refine transmitPath_beacons beaconsSf9 (fun _ => bandChain) (Qsort.insertion JitNode)
    (fun _ => 50) LgwPktTx.zero beaconSf9 [] 0 _ List.length_replicate rfl ?_
  refine ⟨⟨trivial, by decide, ?_⟩, ⟨trivial, by decide, ?_⟩, ⟨trivial, by decide, ?_⟩, trivial⟩
  · exact fun _ _ hpc => absurd hpc nofun
  · exact fun _ _ hpc => absurd hpc nofun
  · intro beaconLoop retry hpc
    obtain ⟨-, rfl⟩ := DownPc.beacons.inj hpc
    decide
