/-
# What a rate window lets through

`RateWindow::allow` opens a new window at its first call behind the end of the old one.  A run of
a window is a list of calls with the readings of a clock that does not go back, and a log of what
was let through, each entry with the window that counted it.

`rate_window` bounds the log: in one window by the limits, in any second by twice the limits.  It
also says why the two plain `+=` of the source do not overflow: the saturating sums in front of
them stay at or below limits that are below `u64::MAX`.
-/
import ZtPlanet.Lib.FixedWindow
import ZtPlanet.Lib.Machine
import ZtPlanet.Relay.Basic

namespace ZtPlanet.Relay.Limiter

open ZtPlanet.Lib

/-! ## 1. Runs of a window -/

/-- One call of `allow`.  The datagram is let through or refused at some `instant` of the call.  A
call that does not open a window reads the clock once; `resetAt` is then an instant no earlier. -/
structure Call where
  bytes : Nat
  readings : Readings
  instant : Nat
deriving DecidableEq

/-- A datagram that was let through, with the beginning of the window that counted it. -/
structure Entry where
  window : Nat
  instant : Nat
  bytes : Nat
deriving DecidableEq

/-- A window, the latest reading of the clock and the log. -/
structure State where
  window : RateWindow
  clock : Nat
  accepted : List Entry
deriving DecidableEq

/-- `RateWindow::default()` at the instant `now`. -/
def State.start (now : Nat) : State := ⟨.default now, now, []⟩

/-- The clock does not go back, between the calls and within one. -/
def Call.Timed (c : Call) (clock : Nat) : Prop :=
  clock ≤ c.readings.elapsedAt ∧ c.readings.elapsedAt ≤ c.instant ∧
    c.readings.elapsedAt ≤ c.readings.resetAt

instance (c : Call) (clock : Nat) : Decidable (c.Timed clock) :=
  inferInstanceAs (Decidable (_ ∧ _ ∧ _))

variable (packetLimit byteLimit : Nat)

/-- What the window answers. -/
def answer (w : RateWindow) (c : Call) : Bool × RateWindow :=
  w.allow c.readings c.bytes packetLimit byteLimit

def step (s : State) (c : Call) : Option State :=
  let answer := answer packetLimit byteLimit s.window c
  if c.Timed s.clock then
    some ⟨answer.2, max c.instant c.readings.resetAt,
      if answer.1 then s.accepted ++ [⟨answer.2.started, c.instant, c.bytes⟩] else s.accepted⟩
  else none

def machine : Machine State Call := ⟨step packetLimit byteLimit⟩

/-! ## 2. What the log holds -/

/-- What the window that began at `w` has let through. -/
def State.inWindow (s : State) (w : Nat) : List Entry := s.accepted.filter fun e => e.window = w

/-- What was let through in the second from `t` on. -/
def State.inSecond (s : State) (t : Nat) : List Entry :=
  s.accepted.filter fun e => t ≤ e.instant ∧ e.instant < t + second

/-- The number of datagrams, as a weight of each. -/
def packets (log : List Entry) : Nat := weigh (fun _ => 1) log

def bytes (log : List Entry) : Nat := weigh Entry.bytes log

theorem packets_eq_length (log : List Entry) : packets log = log.length := by
  simp [packets, weigh]

/-! ## 3. One call -/

/-- The window has room for the datagram. -/
def HasRoom (w : RateWindow) (c : Call) : Prop :=
  satAdd (w.refresh c.readings).packets 1 ≤ packetLimit ∧
    satAdd (w.refresh c.readings).bytes c.bytes ≤ byteLimit

variable {packetLimit byteLimit}

/-- A sum that stays below `u64::MAX` is not cut off. -/
theorem add_le_of_satAdd_le {a b limit : Nat} (hlimit : limit < u64Max)
    (h : satAdd a b ≤ limit) : a + b ≤ limit := by
  unfold satAdd at h
  omega

theorem wrapAdd_of_le {a b : Nat} (h : a + b ≤ u64Max) : wrapAdd a b = a + b :=
  Nat.mod_eq_of_lt (Nat.lt_of_le_of_lt h (by decide))

/-- **A refused call** adds nothing to what the reset test leaves. -/
theorem refused {w : RateWindow} {c : Call} (h : (answer packetLimit byteLimit w c).1 = false) :
    (answer packetLimit byteLimit w c).2 = w.refresh c.readings := by
  unfold answer RateWindow.allow at h ⊢
  dsimp only at h ⊢
  split
  · rfl
  · next hroom =>
    rw [if_neg hroom] at h
    cases h

/-- **An accepted call** found room. -/
theorem accepted {w : RateWindow} {c : Call} (h : (answer packetLimit byteLimit w c).1 = true) :
    HasRoom packetLimit byteLimit w c ∧
      (answer packetLimit byteLimit w c).2 =
        ⟨(w.refresh c.readings).started, wrapAdd (w.refresh c.readings).packets 1,
          wrapAdd (w.refresh c.readings).bytes c.bytes⟩ := by
  unfold answer RateWindow.allow at h ⊢
  dsimp only at h ⊢
  split
  · next hroom =>
    rw [if_pos hroom] at h
    cases h
  · next hroom =>
    rw [not_or, Nat.not_lt, Nat.not_lt] at hroom
    exact ⟨hroom, rfl⟩

/-! ## 4. The invariant

What the counters say of the log, and where the windows lie in time. -/

/-- The counters are those of the log, and no window is over its limits. -/
structure Counted (packetLimit byteLimit : Nat) (w : RateWindow) (log : List Entry) : Prop where
  packets : w.packets = packets (log.filter fun e => e.window = w.started)
  bytes : w.bytes = bytes (log.filter fun e => e.window = w.started)
  packets_le : ∀ v, Limiter.packets (log.filter fun e => e.window = v) ≤ packetLimit
  bytes_le : ∀ v, Limiter.bytes (log.filter fun e => e.window = v) ≤ byteLimit

/-- The log ends with the current window, at `clock`. -/
structure Placed (w : RateWindow) (clock : Nat) (log : List Entry) : Prop where
  separated : Separated Entry.window Entry.instant second log
  window_le : ∀ e ∈ log, e.window ≤ w.started
  instant_le : ∀ e ∈ log, e.instant ≤ clock
  before : ∀ e ∈ log, e.window < w.started → e.instant ≤ w.started
  behind : ∀ e ∈ log, e.window < w.started → e.window + second ≤ clock

variable {w : RateWindow} {clock : Nat} {log : List Entry} {c : Call}

theorem Placed.later (h : Placed w clock log) {clock' : Nat} (hle : clock ≤ clock') :
    Placed w clock' log where
  separated := h.separated
  window_le := h.window_le
  instant_le := fun e he => Nat.le_trans (h.instant_le e he) hle
  before := h.before
  behind := fun e he hlt => Nat.le_trans (h.behind e he hlt) hle

/-- The reset test leaves the window, or opens one at least a second behind its beginning. -/
theorem refresh_cases (w : RateWindow) (t : Readings) :
    w.refresh t = w ∨
      w.started + second ≤ t.elapsedAt ∧ w.refresh t = ⟨t.resetAt, 0, 0⟩ := by
  unfold RateWindow.refresh
  split
  · next h =>
    have hsecond : 0 < second := by decide
    exact .inr ⟨by omega, rfl⟩
  · exact .inl rfl

theorem Placed.refresh (h : Placed w clock log) (hc : c.Timed clock) :
    Placed (w.refresh c.readings) c.readings.elapsedAt log := by
  obtain ⟨hclock, -, hreset⟩ := hc
  rcases refresh_cases w c.readings with hw | ⟨hover, hw⟩
  · rw [hw]
    exact h.later hclock
  · rw [hw]
    refine ⟨h.separated, fun e he => ?_, fun e he => ?_, fun e he _ => ?_, fun e he _ => ?_⟩
    · have := h.window_le e he
      dsimp only
      omega
    · exact Nat.le_trans (h.instant_le e he) hclock
    · have := h.instant_le e he
      dsimp only
      omega
    · have := h.window_le e he
      omega

theorem Counted.refresh (h : Counted packetLimit byteLimit w log) (hp : Placed w clock log)
    (hc : c.Timed clock) : Counted packetLimit byteLimit (w.refresh c.readings) log := by
  obtain ⟨-, -, hreset⟩ := hc
  rcases refresh_cases w c.readings with hw | ⟨hover, hw⟩
  · rw [hw]
    exact h
  · -- the new window begins behind every window of the log
    have hnone : log.filter (fun e => decide (e.window = c.readings.resetAt)) = [] := by
      refine List.filter_eq_nil_iff.mpr fun e he heq => ?_
      have hsecond : 0 < second := by decide
      have := hp.window_le e he
      have := of_decide_eq_true heq
      omega
    rw [hw]
    exact ⟨by rw [hnone]; rfl, by rw [hnone]; rfl, h.packets_le, h.bytes_le⟩

/-- The log behind an accepted call. -/
def logged (w : RateWindow) (c : Call) (log : List Entry) : List Entry :=
  log ++ [⟨w.started, c.instant, c.bytes⟩]

theorem Placed.accept (h : Placed w clock log) {p b clock' : Nat} (hinstant : clock ≤ c.instant)
    (hclock : c.instant ≤ clock') : Placed ⟨w.started, p, b⟩ clock' (logged w c log) := by
  have hbehind : ∀ e ∈ log, e.window < w.started → e.window + second ≤ c.instant :=
    fun e he hlt => Nat.le_trans (h.behind e he hlt) hinstant
  constructor
  · exact h.separated.append_one h.window_le h.before hbehind
  · exact forall_mem_append_one h.window_le (Nat.le_refl _)
  · refine forall_mem_append_one (fun e he => ?_) hclock
    have := h.instant_le e he
    omega
  · exact forall_mem_append_one h.before fun hlt => absurd hlt (Nat.lt_irrefl _)
  · refine forall_mem_append_one (fun e he hlt => ?_) fun hlt => absurd hlt (Nat.lt_irrefl _)
    have := hbehind e he hlt
    omega

/-- What the log of a window weighs behind an accepted call. -/
theorem weigh_logged (f : Entry → Nat) (v : Nat) :
    weigh f ((logged w c log).filter fun e => e.window = v) =
      weigh f (log.filter fun e => e.window = v) +
        if w.started = v then f ⟨w.started, c.instant, c.bytes⟩ else 0 := by
  unfold logged
  rw [List.filter_append, List.filter_singleton]
  by_cases hv : w.started = v
  · simp [hv]
  · simp [hv]

/-- An accepted call is counted, and the counters stay within the limits. -/
theorem Counted.accept (h : Counted packetLimit byteLimit w log)
    (hpackets : w.packets + 1 ≤ packetLimit)
    (hbytes : w.bytes + c.bytes ≤ byteLimit) :
    Counted packetLimit byteLimit ⟨w.started, w.packets + 1, w.bytes + c.bytes⟩
      (logged w c log) := by
  have hp := h.packets
  have hb := h.bytes
  unfold Limiter.packets at hp
  unfold Limiter.bytes at hb
  refine ⟨?_, ?_, fun v => ?_, fun v => ?_⟩
  · unfold Limiter.packets
    rw [weigh_logged, if_pos rfl, ← hp]
  · unfold Limiter.bytes
    rw [weigh_logged, if_pos rfl, ← hb]
  · have hv := h.packets_le v
    unfold Limiter.packets at hv ⊢
    rw [weigh_logged]
    split
    · next heq =>
      rw [← heq, ← hp]
      exact hpackets
    · exact hv
  · have hv := h.bytes_le v
    unfold Limiter.bytes at hv ⊢
    rw [weigh_logged]
    split
    · next heq =>
      rw [← heq, ← hb]
      exact hbytes
    · exact hv

structure Inv (packetLimit byteLimit : Nat) (s : State) : Prop where
  counted : Counted packetLimit byteLimit s.window s.accepted
  placed : Placed s.window s.clock s.accepted

theorem inv_start (packetLimit byteLimit now : Nat) :
    Inv packetLimit byteLimit (State.start now) :=
  ⟨⟨rfl, rfl, fun _ => Nat.zero_le _, fun _ => Nat.zero_le _⟩,
    ⟨separated_nil, nofun, nofun, nofun, nofun⟩⟩

/-- The sums of an accepted call, none of which is cut off or wraps. -/
theorem HasRoom.sums (h : HasRoom packetLimit byteLimit w c) (hpacket : packetLimit < u64Max)
    (hbyte : byteLimit < u64Max) :
    (w.refresh c.readings).packets + 1 ≤ packetLimit ∧
      (w.refresh c.readings).bytes + c.bytes ≤ byteLimit :=
  ⟨add_le_of_satAdd_le hpacket h.1, add_le_of_satAdd_le hbyte h.2⟩

/-- **One step.** -/
theorem Inv.step {s t : State} (h : Inv packetLimit byteLimit s) (hpacket : packetLimit < u64Max)
    (hbyte : byteLimit < u64Max) (hstep : step packetLimit byteLimit s c = some t) :
    Inv packetLimit byteLimit t := by
  unfold Limiter.step at hstep
  obtain ⟨htimed, hsome⟩ := Option.ite_none_right_eq_some.mp hstep
  rw [← Option.some.inj hsome]
  have hcounted := h.counted.refresh h.placed htimed
  have hplaced := h.placed.refresh htimed
  obtain ⟨-, hinstant, hreset⟩ := htimed
  cases hanswer : (answer packetLimit byteLimit s.window c).1 with
  | false =>
    rw [refused hanswer]
    exact ⟨hcounted, hplaced.later (Nat.le_trans hreset (Nat.le_max_right _ _))⟩
  | true =>
    obtain ⟨hroom, hwindow⟩ := accepted hanswer
    obtain ⟨hpackets, hbytes⟩ := hroom.sums hpacket hbyte
    rw [hwindow, wrapAdd_of_le (by omega), wrapAdd_of_le (by omega)]
    exact ⟨hcounted.accept hpackets hbytes, hplaced.accept hinstant (Nat.le_max_left _ _)⟩

theorem Inv.run {s t : State} {calls : List Call} (h : Inv packetLimit byteLimit s)
    (hpacket : packetLimit < u64Max) (hbyte : byteLimit < u64Max)
    (hrun : (machine packetLimit byteLimit).run s calls = some t) :
    Inv packetLimit byteLimit t :=
  Machine.run_invariant (fun _ _ _ hs hstep => hs.step hpacket hbyte hstep) calls h hrun

/-! ## 5. The bounds -/

/-- **What a rate window lets through.**  For limits below `u64::MAX` and every run of calls whose
clock does not go back: each window lets through no more than the limits, and so does any
second with twice the limits; a refused call leaves what the reset test leaves; and where a call is
accepted the sums of its counters fit `u64`. -/
theorem rate_window (packetLimit byteLimit now : Nat) (calls : List Call) (s : State)
    (hpacket : packetLimit < u64Max) (hbyte : byteLimit < u64Max)
    (hrun : (machine packetLimit byteLimit).run (State.start now) calls = some s) :
    (∀ w, (s.inWindow w).length ≤ packetLimit ∧ bytes (s.inWindow w) ≤ byteLimit) ∧
    (∀ t, (s.inSecond t).length ≤ 2 * packetLimit ∧ bytes (s.inSecond t) ≤ 2 * byteLimit) ∧
    ∀ c : Call,
      ((answer packetLimit byteLimit s.window c).1 = false →
        (answer packetLimit byteLimit s.window c).2 = s.window.refresh c.readings) ∧
      ((answer packetLimit byteLimit s.window c).1 = true →
        (s.window.refresh c.readings).packets + 1 ≤ u64Max ∧
        (s.window.refresh c.readings).bytes + c.bytes ≤ u64Max) := by
  have hinv := (inv_start packetLimit byteLimit now).run hpacket hbyte hrun
  refine ⟨fun w => ⟨?_, hinv.counted.bytes_le w⟩, fun t => ⟨?_, ?_⟩, fun c =>
    ⟨refused, fun h => ?_⟩⟩
  · rw [← packets_eq_length]
    exact hinv.counted.packets_le w
  · rw [← packets_eq_length]
    exact hinv.placed.separated.weigh_interval_le _ hinv.counted.packets_le t
  · exact hinv.placed.separated.weigh_interval_le _ hinv.counted.bytes_le t
  · obtain ⟨hpackets, hbytes⟩ := (accepted h).1.sums hpacket hbyte
    omega

/-- Two datagrams a second: the third of one second is refused, and two more pass just behind the
end of the window. -/
def twoWindows : List Call :=
  [⟨100, ⟨0, 0⟩, 0⟩, ⟨100, ⟨999999999, 999999999⟩, 999999999⟩,
    ⟨100, ⟨999999999, 999999999⟩, 999999999⟩, ⟨100, ⟨1000000000, 1000000001⟩, 1000000001⟩,
    ⟨100, ⟨1000000002, 1000000002⟩, 1000000002⟩]

theorem rate_window_twoWindows : ∃ s,
    (machine 2 200).run (State.start 0) twoWindows = some s ∧
      (s.inSecond 999999999).length ≤ 4 ∧ bytes (s.inSecond 999999999) ≤ 400 := by
  obtain ⟨s, hs⟩ : ∃ s, (machine 2 200).run (State.start 0) twoWindows = some s :=
    Option.isSome_iff_exists.mp (by decide +kernel)
  exact ⟨s, hs, (rate_window 2 200 0 twoWindows s (by decide) (by decide) hs).2.1 999999999⟩

end ZtPlanet.Relay.Limiter
