import MeshBeacon.Downlink
import MeshBeacon.Run

/-!
# What the downstream thread gets

The mesh layer enqueues frames and the thread takes them, in any order. A run is
a list of such events; the system keeps, beside its state, the frames accepted
and the packets built so far, in order.

A frame above the size of the thread's buffer cannot be delivered. It is taken
out of the queue, and it takes the capacity with it: from then on no frame
fits. So what is built of the frames taken out is their longest *initial*
segment of frames that fit (`DownlinkSystem.Inv`), where what ought to be built
is *every* frame that fits.
-/

open Hal

/-! ## Initial segments and filters -/

/-- **Stopping at the first failure is skipping the failures** when nothing that
passes lies behind a failure. -/
theorem List.takeWhile_eq_filter_iff {α : Type*} {p : α → Bool} {l : List α} :
    l.takeWhile p = l.filter p ↔ l.Pairwise (fun a b => p b → p a) := by
  induction l with
  | nil => simp
  | cons a l ih =>
    cases ha : p a with
    | true =>
      rw [List.takeWhile_cons_of_pos ha, List.filter_cons_of_pos ha, List.cons_inj_right, ih,
        List.pairwise_cons]
      exact ⟨fun h => ⟨fun _ _ _ => ha, h⟩, fun h => h.2⟩
    | false =>
      have hneg : ¬ p a := by simp [ha]
      rw [List.takeWhile_cons_of_neg hneg, List.filter_cons_of_neg hneg, List.pairwise_cons,
        eq_comm, List.filter_eq_nil_iff]
      refine ⟨fun h => ⟨fun b hb hp => absurd hp (h b hb), ?_⟩, fun h b hb hp => ?_⟩
      · exact List.pairwise_iff_forall_sublist.mpr fun hbc hp =>
          absurd hp (h _ (hbc.subset (List.mem_cons_of_mem _ List.mem_cons_self)))
      · rw [ha] at h
        exact absurd (h.1 b hb hp) nofun

/-- One more element extends the initial segment only if everything before it,
and itself, passes. -/
theorem List.takeWhile_append_singleton {α : Type*} (p : α → Bool) (l : List α) (a : α) :
    (l ++ [a]).takeWhile p = l.takeWhile p ++ if (l ++ [a]).all p then [a] else [] := by
  induction l with
  | nil => cases ha : p a <;> simp [ha]
  | cons b l ih =>
    cases hb : p b with
    | true =>
      rw [List.cons_append, List.takeWhile_cons_of_pos hb, List.takeWhile_cons_of_pos hb, ih,
        List.all_cons, hb, Bool.true_and, List.cons_append]
    | false => simp [hb]

/-! ## The system -/

/-- The bridge and the thread, with the frames accepted and the packets built so
far. -/
structure DownlinkSystem where
  queue : List DownlinkPacket
  thread : ThreadDown
  accepted : List (List UInt8)
  built : List LgwPktTx

/-- What happens at the bridge. -/
inductive DownlinkEvent where
  | enqueue (payload : Option Block)
  | enqueueExt (payload : Option Block) (info : DownlinkInfo)
  | poll (loop : DownlinkLoop)

namespace DownlinkSystem

/-- The system at the start, with anything in the thread's buffer. -/
def init (buf : List UInt8) : DownlinkSystem := ⟨[], ThreadDown.init buf, [], []⟩

/-- The system with what enqueueing a frame returned: the frame is accepted when the
code is 0. -/
def enqueued (payload : Option Block) (result : ℤ × List DownlinkPacket) (s : DownlinkSystem) :
    DownlinkSystem :=
  { s with
    queue := result.2
    accepted := if result.1 = 0 then s.accepted ++ (payload.map Block.read).toList
      else s.accepted }

/-- One event. -/
def step (s : DownlinkSystem) : DownlinkEvent → DownlinkSystem
  | .enqueue payload => s.enqueued payload (cdpBridgeEnqueueDownlink payload s.queue)
  | .enqueueExt payload info =>
    s.enqueued payload (cdpBridgeEnqueueDownlinkExt payload info s.queue)
  | .poll loop =>
    let result := pollDownlink loop s.thread s.queue
    { s with
      queue := result.2.1, thread := result.1, built := s.built ++ result.2.2.toList }

/-- A frame fits the thread's buffer. -/
def fits (payload : List UInt8) : Bool := payload.length ≤ duckPayloadBufSize.toNat

/-- **The invariant.** The frames accepted are those taken out, followed by those
waiting; what was built is the initial segment of the former that fits, and the
capacity is there as long as all of them fit. -/
structure Inv (s : DownlinkSystem) (taken : List (List UInt8)) : Prop where
  /-- No frame is lost in the queue, or changed. -/
  accepted_eq : s.accepted = taken ++ s.queue.map DownlinkPacket.payload
  /-- No frame is empty. -/
  ne_nil : ∀ pkt ∈ s.queue, pkt.payload ≠ []
  /-- What was built. -/
  built_eq : s.built.map LgwPktTx.sent = taken.takeWhile fits
  /-- The capacity. -/
  capacity_eq : s.thread.bufCapacity = if taken.all fits then duckPayloadBufSize else 0

theorem inv_init (buf : List UInt8) : (init buf).Inv [] := ⟨rfl, nofun, rfl, rfl⟩

variable {s : DownlinkSystem} {taken : List (List UInt8)}

theorem Inv.enqueued (h : s.Inv taken) (payload : Option Block) (info : DownlinkInfo) :
    (s.enqueued payload (cdpBridgeEnqueueDownlinkExt payload info s.queue)).Inv taken := by
  cases payload with
  | none => exact h
  | some b =>
    by_cases hb : b.size = 0
    · have hrejected : cdpBridgeEnqueueDownlinkExt (some b) info s.queue = (-1, s.queue) :=
        if_pos hb
      rw [hrejected]
      exact h
    · have hread : b.read ≠ [] := by
        intro hnil
        have hlen := b.length_read
        rw [hnil] at hlen
        exact hb (UInt16.toNat_inj.mp hlen.symm)
      have haccepted : cdpBridgeEnqueueDownlinkExt (some b) info s.queue
          = (0, s.queue ++ [⟨b.read, info⟩]) := if_neg hb
      rw [haccepted]
      refine ⟨?_, ?_, h.built_eq, h.capacity_eq⟩
      · show s.accepted ++ [b.read] = taken ++ List.map _ (s.queue ++ [_])
        rw [h.accepted_eq, List.map_append, List.append_assoc]
        rfl
      · intro pkt hpkt
        rcases List.mem_append.mp hpkt with hpkt | hpkt
        · exact h.ne_nil pkt hpkt
        · rw [List.mem_singleton.mp hpkt]
          exact hread

/-- A turn of a loop is a call of `pollDownlink`. -/
theorem step_poll (s : DownlinkSystem) (loop : DownlinkLoop) :
    s.step (.poll loop)
      = { s with
          queue := (pollDownlink loop s.thread s.queue).2.1
          thread := (pollDownlink loop s.thread s.queue).1
          built := s.built ++ (pollDownlink loop s.thread s.queue).2.2.toList } := rfl

/-- What was accepted, when a frame moves from the queue to those taken. -/
theorem Inv.accepted_cons (h : s.Inv taken) {pkt : DownlinkPacket} {queue : List DownlinkPacket}
    (hqueue : s.queue = pkt :: queue) :
    s.accepted = taken ++ [pkt.payload] ++ queue.map DownlinkPacket.payload := by
  rw [h.accepted_eq, hqueue, List.append_assoc]
  rfl

/-- The frames behind the first one are not empty. -/
theorem Inv.ne_nil_tail (h : s.Inv taken) {pkt : DownlinkPacket} {queue : List DownlinkPacket}
    (hqueue : s.queue = pkt :: queue) : ∀ q ∈ queue, q.payload ≠ [] := fun q hq =>
  h.ne_nil q (hqueue ▸ List.mem_cons_of_mem pkt hq)

/-- **A frame goes into the buffer exactly when it fits, and so did all before
it.** -/
theorem Inv.all_fits_append (h : s.Inv taken) {payload : List UInt8} (hpayload : payload ≠ []) :
    (taken ++ [payload]).all fits ↔ payload.length ≤ s.thread.bufCapacity.toNat := by
  rw [List.all_append, Bool.and_eq_true, h.capacity_eq]
  by_cases hfull : taken.all fits
  · simp [hfull, fits]
  · rw [if_neg hfull]
    exact iff_of_false (fun hall => hfull hall.1) fun hle =>
      hpayload (List.eq_nil_of_length_eq_zero (Nat.le_zero.mp hle))

/-- Taking a frame that goes into the buffer. -/
theorem Inv.poll_of_le (h : s.Inv taken) (loop : DownlinkLoop) {pkt : DownlinkPacket}
    {queue : List DownlinkPacket} (hqueue : s.queue = pkt :: queue)
    (hle : pkt.payload.length ≤ s.thread.bufCapacity.toNat) :
    (s.step (.poll loop)).Inv (taken ++ [pkt.payload])
      ∧ (s.step (.poll loop)).queue = queue := by
  have hpayload : pkt.payload ≠ [] := h.ne_nil pkt (hqueue ▸ List.mem_cons_self)
  have hall := (h.all_fits_append hpayload).mpr hle
  obtain ⟨td', p, hpoll, hreset, hsent⟩ := pollDownlink_of_le loop queue hpayload hle
  have hstep : s.step (.poll loop)
      = { s with queue := queue, thread := td', built := s.built ++ [p] } := by
    rw [step_poll, hqueue, hpoll]
    rfl
  rw [hstep]
  refine ⟨⟨h.accepted_cons hqueue, h.ne_nil_tail hqueue, ?_, ?_⟩, rfl⟩
  · rw [List.map_append, h.built_eq, List.takeWhile_append_singleton, if_pos hall,
      List.map_singleton, hsent]
  · rw [if_pos hall]
    exact hreset

/-- Taking a frame that does not. The capacity is lost. -/
theorem Inv.poll_of_lt (h : s.Inv taken) (loop : DownlinkLoop) {pkt : DownlinkPacket}
    {queue : List DownlinkPacket} (hqueue : s.queue = pkt :: queue)
    (hlt : s.thread.bufCapacity.toNat < pkt.payload.length) :
    (s.step (.poll loop)).Inv (taken ++ [pkt.payload])
      ∧ (s.step (.poll loop)).queue = queue := by
  have hpayload : pkt.payload ≠ [] := h.ne_nil pkt (hqueue ▸ List.mem_cons_self)
  have hnot : ¬ (taken ++ [pkt.payload]).all fits := fun hall =>
    Nat.not_le_of_lt hlt ((h.all_fits_append hpayload).mp hall)
  have hstep : s.step (.poll loop)
      = { s with queue := queue, thread := { s.thread with bufCapacity := 0 } } := by
    rw [step_poll, hqueue, pollDownlink_of_lt hlt]
    dsimp only
    rw [Option.toList_none, List.append_nil]
  rw [hstep]
  refine ⟨⟨h.accepted_cons hqueue, h.ne_nil_tail hqueue, ?_, ?_⟩, rfl⟩
  · rw [h.built_eq, List.takeWhile_append_singleton, if_neg hnot, List.append_nil]
  · rw [if_neg hnot]

/-- Taking a frame keeps the invariant, with that frame taken. -/
theorem Inv.poll_cons (h : s.Inv taken) (loop : DownlinkLoop) {pkt : DownlinkPacket}
    {queue : List DownlinkPacket} (hqueue : s.queue = pkt :: queue) :
    (s.step (.poll loop)).Inv (taken ++ [pkt.payload])
      ∧ (s.step (.poll loop)).queue = queue := by
  by_cases hle : pkt.payload.length ≤ s.thread.bufCapacity.toNat
  · exact h.poll_of_le loop hqueue hle
  · exact h.poll_of_lt loop hqueue (Nat.lt_of_not_le hle)

/-- Taking from an empty queue changes nothing. -/
theorem step_poll_nil (loop : DownlinkLoop) (hqueue : s.queue = []) : s.step (.poll loop) = s := by
  rw [step_poll, hqueue, pollDownlink_nil]
  dsimp only
  rw [Option.toList_none, List.append_nil, ← hqueue]

/-- **Every event keeps the invariant**, with at most one more frame taken. -/
theorem Inv.step (h : s.Inv taken) (e : DownlinkEvent) : ∃ taken', (s.step e).Inv taken' := by
  cases e with
  | enqueue payload => exact ⟨taken, h.enqueued payload DownlinkInfo.none⟩
  | enqueueExt payload info => exact ⟨taken, h.enqueued payload info⟩
  | poll loop =>
    cases hqueue : s.queue with
    | nil =>
      rw [step_poll_nil loop hqueue]
      exact ⟨taken, h⟩
    | cons pkt queue => exact ⟨_, (h.poll_cons loop hqueue).1⟩

theorem inv_of_run (buf : List UInt8) (es : List DownlinkEvent) :
    ∃ taken, (Run.final step (init buf) es).Inv taken :=
  have hstep : ∀ (s : DownlinkSystem) (e : DownlinkEvent),
      (∃ taken, s.Inv taken) → ∃ taken, (s.step e).Inv taken := fun _ e h => h.choose_spec.step e
  Run.invariant hstep es ⟨[], inv_init buf⟩

/-- **Taking drains the queue**: after at least as many turns of the loops as
frames are waiting all of them have been taken, and nothing else is
accepted. -/
theorem Inv.drain (h : s.Inv taken) (loops : List DownlinkLoop)
    (hlen : s.queue.length ≤ loops.length) :
    (Run.final DownlinkSystem.step s (loops.map .poll)).Inv s.accepted
      ∧ (Run.final DownlinkSystem.step s (loops.map .poll)).accepted = s.accepted := by
  induction loops generalizing s taken with
  | nil =>
    have hqueue : s.queue = [] := List.eq_nil_of_length_eq_zero (Nat.le_zero.mp hlen)
    have htaken : s.accepted = taken := by
      rw [h.accepted_eq, hqueue]
      exact List.append_nil taken
    exact ⟨htaken ▸ h, rfl⟩
  | cons loop loops ih =>
    rw [List.map_cons, Run.final_cons]
    cases hqueue : s.queue with
    | nil =>
      have hempty : s.queue.length ≤ loops.length := by
        rw [hqueue]
        exact Nat.zero_le _
      rw [step_poll_nil loop hqueue]
      exact ih h hempty
    | cons pkt queue =>
      obtain ⟨hinv, hrest⟩ := h.poll_cons loop hqueue
      rw [hqueue, List.length_cons, List.length_cons] at hlen
      exact ih hinv (hrest ▸ Nat.le_of_succ_le_succ hlen)

/-- **What is delivered.** After every run, once the thread has turned often
enough, the packets built send exactly the frames accepted that fit, each once
and in order, if and only if no frame that does not fit was accepted before one
that does. -/
theorem delivered_iff (buf : List UInt8) (es : List DownlinkEvent) :
    (∀ loops : List DownlinkLoop,
        (Run.final step (init buf) es).queue.length ≤ loops.length →
        (Run.final step (init buf) (es ++ loops.map .poll)).built.map LgwPktTx.sent
          = (Run.final step (init buf) es).accepted.filter fits)
      ↔ (Run.final step (init buf) es).accepted.Pairwise (fun p q => fits q → fits p) := by
  obtain ⟨taken, hinv⟩ := inv_of_run buf es
  have hbuilt : ∀ loops : List DownlinkLoop,
      (Run.final step (init buf) es).queue.length ≤ loops.length →
      (Run.final step (init buf) (es ++ loops.map .poll)).built.map LgwPktTx.sent
        = (Run.final step (init buf) es).accepted.takeWhile fits := by
    intro loops hlen
    rw [Run.final_append]
    exact (hinv.drain loops hlen).1.built_eq
  rw [← List.takeWhile_eq_filter_iff]
  constructor
  · intro h
    have hlen : (Run.final step (init buf) es).queue.length
        ≤ (List.replicate (Run.final step (init buf) es).queue.length DownlinkLoop.inner).length :=
      by rw [List.length_replicate]
    rw [← hbuilt _ hlen, h _ hlen]
  · intro h loops hlen
    rw [hbuilt loops hlen, h]

/-- A block of so many bytes. -/
def block (size : UInt16) : Block := ⟨List.replicate size.toNat 0x2A, size, by simp⟩

/-- **One frame too large silences the thread.** A frame of 257 bytes is accepted
and then one of a single byte, which is never delivered. -/
theorem oversized_silences :
    ¬ ∀ (buf : List UInt8) (es : List DownlinkEvent) (loops : List DownlinkLoop),
      (Run.final step (init buf) es).queue.length ≤ loops.length →
      (Run.final step (init buf) (es ++ loops.map .poll)).built.map LgwPktTx.sent
        = (Run.final step (init buf) es).accepted.filter fits := by
  intro h
  have hlost := h (List.replicate 256 0) [.enqueue (some (block 257)), .enqueue (some (block 1))]
    [.inner, .inner] (by decide +kernel)
  revert hlost
  decide +kernel

end DownlinkSystem
