/-
# Reading against a deadline

`read_exact_deadline` reads the clock before every read and behind it, and gives the socket no more
time than is left.  A client decides how many bytes each read returns and how long it takes; here
this is a list of passes of the loop, each with the two readings of the clock.

A call that returns has seen no reading at or behind its deadline, and has read the bytes of the
stream in their order (`readExactDeadline_ok`); a call that is still reading has seen none either
(`readExactDeadline_reading`), so no schedule of bytes keeps it there.  `read_record_header` makes
two calls, each with a deadline of its own.
-/
import ZtPlanet.Relay.Frame

namespace ZtPlanet.Relay.Deadline

/-! ## 1. The calls -/

/-- The kinds of an `io::Error` that the loop tells apart. -/
inductive ErrorKind where
  | wouldBlock
  | timedOut
  | unexpectedEof
  | other
deriving DecidableEq

/-- What a read meets: that many bytes have arrived, or an error. -/
inductive Arrival where
  | bytes (n : Nat)
  | error (kind : ErrorKind)
deriving DecidableEq

/-- A pass of the loop; times are in nanoseconds. -/
structure Pass where
  /-- `Instant::now()` at its head -/
  now : Nat
  /-- the error of `set_read_timeout` for a timeout, if it fails -/
  setReadTimeout : Nat → Option ErrorKind
  arrival : Arrival
  /-- `Instant::now()` behind the read -/
  after : Nat

/-- What becomes of a call: the buffer, with the bytes and the passes that are left; an error; or
the schedule ends while it is reading. -/
inductive Outcome where
  | ok (buffer rest : List UInt8) (left : List Pass)
  | error (kind : ErrorKind)
  | reading

/-- The timeout that the socket is given. -/
def readTimeout (deadline now : Nat) : Nat := min (deadline - now) 1000000000

/-- One pass: what is read of the bytes that the client sends, with room for `room`. -/
def Pass.read (p : Pass) (deadline room : Nat) (sent : List UInt8) :
    Except ErrorKind (List UInt8) :=
  if deadline - p.now = 0 then .error .timedOut
  else match p.setReadTimeout (readTimeout deadline p.now) with
    | some kind => .error kind
    | none =>
      match p.arrival with
      | .bytes n =>
        let read := sent.take (min n room)
        -- nothing is read at the end of the stream only
        if read = [] then .error .unexpectedEof
        else if deadline ≤ p.after then .error .timedOut
        else .ok read
      | .error kind =>
        if kind = .wouldBlock ∨ kind = .timedOut then
          if deadline ≤ p.after then .error .timedOut else .ok []
        else .error kind

/-- The loop, with the bytes that are in the buffer already. -/
def readFrom (deadline len : Nat) (buffer sent : List UInt8) : List Pass → Outcome
  | [] => if len ≤ buffer.length then .ok buffer sent [] else .reading
  | p :: passes =>
    if len ≤ buffer.length then .ok buffer sent (p :: passes)
    else match p.read deadline (len - buffer.length) sent with
      | .error kind => .error kind
      | .ok read => readFrom deadline len (buffer ++ read) (sent.drop read.length) passes

/-- `read_exact_deadline`. -/
def readExactDeadline (deadline len : Nat) (sent : List UInt8) (passes : List Pass) : Outcome :=
  readFrom deadline len [] sent passes

/-- `read_exact_until`, which begins at `start`. -/
def readExactUntil (start timeout len : Nat) (sent : List UInt8) (passes : List Pass) : Outcome :=
  readExactDeadline (start + timeout) len sent passes

/-- `read_record_header`; its calls begin at `start` and `start'`. -/
def readRecordHeader (start start' idleTimeout assemblyTimeout : Nat) (sent : List UInt8)
    (passes : List Pass) : Outcome :=
  match readExactUntil start idleTimeout 1 sent passes with
  | .ok first sent passes =>
    match readExactUntil start' assemblyTimeout (headerLen - 1) sent passes with
    | .ok others sent passes => .ok (first ++ others) sent passes
    | outcome => outcome
  | outcome => outcome

/-! ## 2. One call -/

/-- The pass is over before the deadline. -/
def Pass.InTime (p : Pass) (deadline : Nat) : Prop := p.now < deadline ∧ p.after < deadline

/-- **What a call that returns has done**: it has read the next bytes that the client sends, as many
as are asked for, and each of its passes was in time. -/
structure Complete (deadline len : Nat) (sent : List UInt8) (passes : List Pass)
    (buffer rest : List UInt8) (used left : List Pass) : Prop where
  buffer_eq : buffer = sent.take len
  length_eq : buffer.length = len
  rest_eq : rest = sent.drop len
  passes_eq : passes = used ++ left
  inTime : ∀ p ∈ used, p.InTime deadline

variable {deadline len room : Nat} {buffer rest sent read : List UInt8} {p : Pass}
  {passes left : List Pass}

/-- A pass that goes on was in time. -/
theorem Pass.read_ok (h : p.read deadline room sent = .ok read) :
    p.InTime deadline ∧ read.length ≤ room ∧ read = sent.take read.length := by
  unfold Pass.read at h
  split at h
  · cases h
  · next hleft =>
    have hnow : p.now < deadline := by omega
    split at h
    · cases h
    · split at h
      · next n _ =>
        dsimp only at h
        split at h
        · cases h
        · split at h
          · cases h
          · next hafter =>
            obtain rfl := Except.ok.inj h
            refine ⟨⟨hnow, Nat.not_le.mp hafter⟩, ?_, ?_⟩
            · rw [List.length_take]
              omega
            · rw [List.length_take, List.take_eq_take_iff]
              omega
      · split at h
        · split at h
          · cases h
          · next hafter =>
            obtain rfl := Except.ok.inj h
            exact ⟨⟨hnow, Nat.not_le.mp hafter⟩, Nat.zero_le _, rfl⟩
        · cases h

/-- The socket is given no time behind the deadline. -/
theorem add_readTimeout_le {now : Nat} (h : now < deadline) :
    now + readTimeout deadline now ≤ deadline := by
  unfold readTimeout
  omega

/-- A buffer that is full needs no pass. -/
theorem complete_of_full (h : len ≤ sent.length) :
    Complete deadline len sent passes (sent.take len) (sent.drop len) [] passes where
  buffer_eq := rfl
  length_eq := List.length_take_of_le h
  rest_eq := rfl
  passes_eq := rfl
  inTime _ hp := absurd hp List.not_mem_nil

/-- **The loop**, where the buffer holds the first `k` bytes. -/
theorem readFrom_ok : ∀ {passes : List Pass} {k : Nat}, k ≤ len → k ≤ sent.length →
    readFrom deadline len (sent.take k) (sent.drop k) passes = .ok buffer rest left →
      ∃ used, Complete deadline len sent passes buffer rest used left ∧ (k < len → used ≠ [])
  | [], k, hk, hsent, h => by
    have hlength : (sent.take k).length = k := List.length_take_of_le hsent
    unfold readFrom at h
    rw [hlength] at h
    split at h
    · next hle =>
      obtain rfl : k = len := Nat.le_antisymm hk hle
      cases h
      exact ⟨[], complete_of_full hsent, fun hlt => absurd hlt (Nat.lt_irrefl k)⟩
    · cases h
  | p :: passes, k, hk, hsent, h => by
    have hlength : (sent.take k).length = k := List.length_take_of_le hsent
    unfold readFrom at h
    rw [hlength] at h
    split at h
    · next hle =>
      obtain rfl : k = len := Nat.le_antisymm hk hle
      cases h
      exact ⟨[], complete_of_full hsent, fun hlt => absurd hlt (Nat.lt_irrefl k)⟩
    · split at h
      · cases h
      · next read hread =>
        obtain ⟨hinTime, hroom, heq⟩ := Pass.read_ok hread
        -- the pass appends the next bytes, so that the buffer holds a longer beginning
        have hleft : read.length ≤ sent.length - k := by
          have hlen := congrArg List.length heq
          rw [List.length_take, List.length_drop] at hlen
          omega
        rw [heq, ← List.take_add, List.drop_drop, ← heq] at h
        obtain ⟨used, hcomplete, -⟩ := readFrom_ok (by omega) (by omega) h
        refine ⟨p :: used, ⟨hcomplete.buffer_eq, hcomplete.length_eq, hcomplete.rest_eq, ?_, ?_⟩,
          fun _ => List.cons_ne_nil _ _⟩
        · rw [hcomplete.passes_eq, List.cons_append]
        · exact List.forall_mem_cons.mpr ⟨hinTime, hcomplete.inTime⟩

/-- **A call that returns** has read the next bytes in their order, before its deadline. -/
theorem readExactDeadline_ok
    (h : readExactDeadline deadline len sent passes = .ok buffer rest left) :
    ∃ used, Complete deadline len sent passes buffer rest used left ∧ (0 < len → used ≠ []) :=
  readFrom_ok (k := 0) (Nat.zero_le _) (Nat.zero_le _) h

/-- The loop goes on while the passes are in time only. -/
theorem readFrom_reading : ∀ {passes : List Pass} {buffer sent : List UInt8},
    readFrom deadline len buffer sent passes = .reading → ∀ p ∈ passes, p.InTime deadline
  | [], _, _, _ => fun _ hp => absurd hp List.not_mem_nil
  | p :: passes, buffer, sent, h => by
    unfold readFrom at h
    split at h
    · cases h
    · split at h
      · cases h
      · next read hread =>
        exact List.forall_mem_cons.mpr ⟨(Pass.read_ok hread).1, readFrom_reading h⟩

/-- **A call that is still reading** has not seen its deadline: bytes that trickle in do not move
it. -/
theorem readExactDeadline_reading (h : readExactDeadline deadline len sent passes = .reading) :
    ∀ p ∈ passes, p.InTime deadline := readFrom_reading h

/-! ## 3. Headers and frames -/

/-- The last reading of the clock in a call that began at `start`. -/
def lastReading (start : Nat) (used : List Pass) : Nat :=
  ((used.getLast?).map Pass.after).getD start

theorem lastReading_lt {used : List Pass} (hne : used ≠ []) (h : ∀ p ∈ used, p.InTime deadline)
    (start : Nat) : lastReading start used < deadline := by
  unfold lastReading
  rw [List.getLast?_eq_some_getLast hne]
  exact (h _ (List.getLast_mem hne)).2

/-- **A header that is complete**: it is the next bytes, the passes of each call were in time, and
the last reading of the clock is behind the beginning by less than both timeouts and what passes
between the calls. -/
structure HeaderComplete (start start' idleTimeout assemblyTimeout : Nat) (sent : List UInt8)
    (header rest : List UInt8) (first others : List Pass) : Prop where
  header_eq : header = sent.take headerLen
  length_eq : header.length = headerLen
  rest_eq : rest = sent.drop headerLen
  first_inTime : ∀ p ∈ first, p.InTime (start + idleTimeout)
  others_inTime : ∀ p ∈ others, p.InTime (start' + assemblyTimeout)
  within : ∀ gap, start' ≤ lastReading start first + gap →
    lastReading start' others < start + idleTimeout + assemblyTimeout + gap

theorem readRecordHeader_ok {start start' idleTimeout assemblyTimeout : Nat} {header : List UInt8}
    (h : readRecordHeader start start' idleTimeout assemblyTimeout sent passes =
      .ok header rest left) :
    ∃ first others, passes = first ++ (others ++ left) ∧
      HeaderComplete start start' idleTimeout assemblyTimeout sent header rest first others := by
  unfold readRecordHeader at h
  split at h
  · next buffer sent' passes' hfirst =>
    split at h
    · next buffer' sent'' passes'' hothers =>
      cases h
      obtain ⟨first, hfirst, hne⟩ := readExactDeadline_ok hfirst
      obtain ⟨others, hothers, hne'⟩ := readExactDeadline_ok hothers
      have hlast := lastReading_lt (hne (by decide)) hfirst.inTime start
      have hlast' := lastReading_lt (hne' (by decide)) hothers.inTime start'
      refine ⟨first, others, ?_, ?_, ?_, ?_, hfirst.inTime, hothers.inTime, ?_⟩
      · rw [← hothers.passes_eq, ← hfirst.passes_eq]
      · rw [hfirst.buffer_eq, hothers.buffer_eq, hfirst.rest_eq, ← List.take_add]
        rfl
      · rw [List.length_append, hfirst.length_eq, hothers.length_eq]
        rfl
      · rw [hothers.rest_eq, hfirst.rest_eq, List.drop_drop]
        rfl
      · intro gap hgap
        omega
    · next hnot => exact absurd h (hnot _ _ _)
  · next hnot => exact absurd h (hnot _ _ _)

/-- **Deadlines are absolute**, for every schedule of the reads: of a call, of a header, and of a
frame. -/
theorem deadlines_absolute (deadline len start start' idleTimeout handshakeTimeout : Nat)
    (sent : List UInt8) (passes : List Pass) :
    (∀ buffer rest left, readExactDeadline deadline len sent passes = .ok buffer rest left →
      ∃ used, Complete deadline len sent passes buffer rest used left) ∧
    (readExactDeadline deadline len sent passes = .reading → ∀ p ∈ passes, p.InTime deadline) ∧
    (∀ header rest left,
      readRecordHeader start start' idleTimeout handshakeTimeout sent passes =
        .ok header rest left →
        ∃ first others, passes = first ++ (others ++ left) ∧
          HeaderComplete start start' idleTimeout handshakeTimeout sent header rest first others) ∧
    (∀ frame rest left, readExactUntil start handshakeTimeout len sent passes =
      .ok frame rest left →
      ∃ used, Complete (start + handshakeTimeout) len sent passes frame rest used left ∧
        (0 < len → lastReading start used < start + handshakeTimeout)) := by
  refine ⟨fun buffer rest left h => ?_, readExactDeadline_reading, fun _ _ _ => readRecordHeader_ok,
    fun frame rest left h => ?_⟩
  · obtain ⟨used, hcomplete, -⟩ := readExactDeadline_ok h
    exact ⟨used, hcomplete⟩
  · obtain ⟨used, hcomplete, hne⟩ := readExactDeadline_ok h
    exact ⟨used, hcomplete, fun hpos => lastReading_lt (hne hpos) hcomplete.inTime start⟩

/-- A header that trickles in, with a read that times out in between. -/
example : readRecordHeader 0 90 100 50 [0x17, 3, 3, 0, 40, 7]
    [⟨1, fun _ => none, .bytes 1, 90⟩, ⟨91, fun _ => none, .bytes 2, 95⟩,
      ⟨96, fun _ => none, .error .wouldBlock, 120⟩, ⟨121, fun _ => none, .bytes 9, 139⟩] =
      .ok [0x17, 3, 3, 0, 40] [7] [] := rfl

end ZtPlanet.Relay.Deadline
