import MeshBeacon.ReceiveProgress

/-!
# What receiving returns

A call parses records one after the other, and each record that parses is gone
from the buffer. What the caller is told is decided at the end: the packets
are returned when every record the call went on to parsed, and when one did
not, the call says so and returns none.

`ParsesInto` is the part of this that is about records: a sequence of
successful calls of `sx1302_parse`. Against it, `lgwReceive_returns` says what
becomes of the packets: those of a sequence that fills the call are returned,
and those of a sequence that ends in a failure within the same call are
discarded. The records behind those a call handles do not matter to it.
-/

/-- **Successful parsing**: from this buffer, records parse one after the other
into the entries of the caller's array from an index on, giving these packets
and leaving that buffer. -/
inductive ParsesInto (call : RxCall) : ℕ → RxBuffer → List LgwPktRx → RxBuffer → Prop where
  /-- No record has been parsed. -/
  | nil (found : ℕ) (rx : RxBuffer) : ParsesInto call found rx [] rx
  /-- A record parses, and others after it. -/
  | cons {found : ℕ} {rx rx' rx'' : RxBuffer} {p : LgwPktRx} {ps : List LgwPktRx}
      (first : call.parse found rx = (.success, rx', some p))
      (rest : ParsesInto call (found + 1) rx' ps rx'') : ParsesInto call found rx (p :: ps) rx''

theorem parse_eq_of_success {call : RxCall} {i : ℕ} {rx : RxBuffer}
    (h : (call.parse i rx).1 = .success) :
    ∃ p, call.parse i rx = (.success, (call.parse i rx).2.1, some p) := by
  unfold RxCall.parse sx1302Parse at h ⊢
  rcases rxBufferPop_cases call.past rx with ⟨-, heq⟩ | ⟨-, heq⟩ | ⟨-, heq⟩
  · rw [heq] at h
    exact absurd h nofun
  · rw [heq] at h
    exact absurd h nofun
  · rw [heq] at h ⊢
    dsimp only at h ⊢
    cases hpkt : (some (rxPacketAt (rx.rd call.past))).bind
        (processPacket call.context call.calcs call.counter (call.pktData i)) with
    | none =>
      rw [hpkt] at h
      exact absurd h nofun
    | some p => exact ⟨p, rfl⟩

/-- The packets of a loop that does not fail are parsed one after the other. -/
theorem parsesInto_receiveLoop {call : RxCall} {n found : ℕ} {rx : RxBuffer}
    (h : (receiveLoop call n found rx).status = .success) :
    ParsesInto call found rx (receiveLoop call n found rx).parsed
      (receiveLoop call n found rx).rx := by
  induction n generalizing found rx with
  | zero => exact ParsesInto.nil found rx
  | succ n ih =>
    by_cases hok : (call.parse found rx).1 = .success
    · obtain ⟨p, hp⟩ := parse_eq_of_success hok
      have hloop := receiveLoop_success hok n
      rw [hp] at hloop
      rw [hloop] at h ⊢
      exact ParsesInto.cons hp (ih h)
    · rw [receiveLoop_failure hok] at h
      exact absurd h hok

/-- The loop of a call that has room for exactly the packets parsed. -/
theorem receiveLoop_of_parsesInto {call : RxCall} {found : ℕ} {rx rx' : RxBuffer}
    {ps : List LgwPktRx} (h : ParsesInto call found rx ps rx') :
    receiveLoop call ps.length found rx = ⟨.success, rx', ps⟩ := by
  induction h with
  | nil found rx => rfl
  | cons first rest ih =>
    rw [List.length_cons, receiveLoop_success (by rw [first]), first]
    dsimp only
    rw [ih]
    rfl

/-- The loop of a call that has room for more, where the next record fails. -/
theorem receiveLoop_of_parsesInto_failure {call : RxCall} {found : ℕ} {rx rx' : RxBuffer}
    {ps : List LgwPktRx} (h : ParsesInto call found rx ps rx')
    (hfail : (call.parse (found + ps.length) rx').1 ≠ .success) (n : ℕ) :
    receiveLoop call (ps.length + (n + 1)) found rx
      = ⟨(call.parse (found + ps.length) rx').1, (call.parse (found + ps.length) rx').2.1, ps⟩ := by
  induction h with
  | nil found rx =>
    rw [List.length_nil, Nat.zero_add]
    exact receiveLoop_failure hfail n
  | @cons found rx rx' rx'' p ps first rest ih =>
    have hindex : found + (p :: ps).length = found + 1 + ps.length := by
      rw [List.length_cons]
      omega
    have hroom : (p :: ps).length + (n + 1) = ps.length + (n + 1) + 1 := by
      rw [List.length_cons]
      omega
    rw [hindex] at hfail ⊢
    rw [hroom, receiveLoop_success (by rw [first]), first]
    dsimp only
    rw [ih hfail]
    rfl

/-- The number of records a call handles: as many as are pending and fit the
caller's array. -/
def RxCall.quota (call : RxCall) (rx : RxBuffer) : ℕ := min rx.bufferPktNb.toNat call.maxPkt.toNat

/-- A call that finds packets pending, or fetches some, is its batch. -/
theorem lgwReceive_of_fetch {call : RxCall} {rx rx₀ : RxBuffer}
    (hfetch : sx1302Fetch call.past call.fifo rx = (.success, rx₀)) (hne : rx₀.bufferPktNb ≠ 0) :
    lgwReceive call rx
      = match (call.batch rx₀).status with
        | .warning => ⟨0, (call.batch rx₀).rx, []⟩
        | .error => ⟨-1, (call.batch rx₀).rx, []⟩
        | .success =>
          ⟨(call.deliver (call.batch rx₀).parsed).length, (call.batch rx₀).rx,
            call.deliver (call.batch rx₀).parsed⟩ := by
  rw [lgwReceive, hfetch]
  dsimp only
  refine (if_neg hne).trans ?_
  cases (call.batch rx₀).status <;> rfl
