/-
# The global budget of the relay

All connections of the relay share one rate window.  Each datagram is put to two windows, first to
its connection's own (each direction has one) and then to the global one, and each window charges
its counters as it answers.  `let global_allowed = …` is evaluated whatever the connection's own
window has said, so a datagram that is dropped because its connection is over its limit still takes
its share of the global budget.  (`State::reserve`, which also asks two counters, gives the global
one back where the other refuses.)

The machine of this module puts any number of connections, each with its two threads, on one global
window, and remembers the datagrams that passed both limits since the window began.
`budget_iff` says exactly which runs keep the counters equal to them: those in which no datagram
that its own connection has refused still finds room in the global window.
-/
import ZtPlanet.Relay.Connection

namespace ZtPlanet.Relay.GlobalBudget

open ZtPlanet.Lib ZtPlanet.Relay.Connection

/-! ## 1. The relay -/

/-- The connections and the window that they share.  `passed` is history: the lengths of the
datagrams that passed both limits in the current window. -/
structure State where
  globalRate : RateWindow
  conns : List Conn
  passed : List Nat

inductive Event where
  /-- a connection has been greeted and its threads start -/
  | connect (now : Nat)
  /-- the request loop of a connection takes a step -/
  | request (i : Nat) (e : RequestEvent)
  /-- the response thread of a connection takes a step -/
  | response (i : Nat) (e : ResponseEvent)
deriving DecidableEq

/-- A datagram that is put to the global window. -/
structure Charge where
  length : Nat
  localAllowed : Bool
  readings : Readings

/-- The datagram that the request loop puts to the global window at its next step. -/
def requestCharge (c : Conn) : RequestEvent → Option Charge
  | .clock t =>
    match c.request with
    | .sharing _ payload localAllowed => some ⟨payload.length, localAllowed, t⟩
    | _ => none
  | _ => none

/-- The datagram that the response thread puts to the global window at its next step. -/
def responseCharge (c : Conn) : ResponseEvent → Option Charge
  | .clock t =>
    match c.response with
    | .sharing _ payload localAllowed => some ⟨payload.length, localAllowed, t⟩
    | _ => none
  | _ => none

/-- What the global window answers. -/
def Charge.answer (cfg : Config) (w : RateWindow) (ch : Charge) : Bool × RateWindow :=
  w.allow ch.readings ch.length cfg.globalPacketsPerSecond cfg.globalBytesPerSecond

/-- The reset test of the window comes out true. -/
def Charge.resets (w : RateWindow) (ch : Charge) : Prop :=
  ch.readings.elapsedAt - w.started ≥ second

instance (w : RateWindow) (ch : Charge) : Decidable (ch.resets w) :=
  inferInstanceAs (Decidable (_ ≥ _))

/-- The history behind the reset test. -/
def kept (w : RateWindow) (passed : List Nat) (ch : Charge) : List Nat :=
  if ch.resets w then [] else passed

/-- The datagrams of the current window that passed both limits, behind a step. -/
def record (cfg : Config) (w : RateWindow) (passed : List Nat) : Option Charge → List Nat
  | none => passed
  | some ch =>
    kept w passed ch ++ (if ch.localAllowed && (ch.answer cfg w).1 then [ch.length] else [])

/-- A step of one connection, on the shared window. -/
def stepConn (cfg : Config) (s : State) (i : Nat) (charge : Conn → Option Charge)
    (move : Conn → Option Conn) : Option State := do
  let c ← s.conns[i]?
  let c' ← move { c with globalRate := s.globalRate }
  some ⟨c'.globalRate, s.conns.set i c', record cfg s.globalRate s.passed (charge c)⟩

def step (cfg : Config) (s : State) : Event → Option State
  | .connect now => some { s with conns := s.conns ++ [Conn.start now s.globalRate] }
  | .request i e => stepConn cfg s i (requestCharge · e) (stepRequest cfg · e)
  | .response i e => stepConn cfg s i (responseCharge · e) (stepResponse cfg · e)

/-- The relay as a machine. -/
def machine (cfg : Config) : Machine State Event := ⟨step cfg⟩

/-- The relay before its first connection, at the instant `now`. -/
def State.start (now : Nat) : State := ⟨.default now, [], []⟩

/-! ## 2. The property and its condition -/

/-- The counters of the global window are the number and the total length of the datagrams that
passed both limits in it. -/
structure State.Accounted (s : State) : Prop where
  packets : s.globalRate.packets = s.passed.length
  bytes : s.globalRate.bytes = s.passed.sum

/-- The window has room for the datagram. -/
def Charge.HasRoom (cfg : Config) (w : RateWindow) (ch : Charge) : Prop :=
  satAdd (w.refresh ch.readings).packets 1 ≤ cfg.globalPacketsPerSecond ∧
    satAdd (w.refresh ch.readings).bytes ch.length ≤ cfg.globalBytesPerSecond

instance (cfg : Config) (w : RateWindow) (ch : Charge) : Decidable (ch.HasRoom cfg w) :=
  inferInstanceAs (Decidable (_ ∧ _))

/-- A datagram for which the window has room is one that its connection has not refused, and it
fits the counters. -/
def Charge.Fair (cfg : Config) (w : RateWindow) (ch : Charge) : Prop :=
  ch.HasRoom cfg w → ch.localAllowed = true ∧
    (w.refresh ch.readings).packets + 1 < 2 ^ 64 ∧
    (w.refresh ch.readings).bytes + ch.length < 2 ^ 64

instance (cfg : Config) (w : RateWindow) (ch : Charge) : Decidable (ch.Fair cfg w) :=
  inferInstanceAs (Decidable (_ → _))

/-- The datagram that an event puts to the global window. -/
def Event.charge (s : State) : Event → Option Charge
  | .connect _ => none
  | .request i e => s.conns[i]?.bind fun c => requestCharge c e
  | .response i e => s.conns[i]?.bind fun c => responseCharge c e

/-- The event charges the global window fairly, if it charges it. -/
def Event.Fair (cfg : Config) (s : State) (e : Event) : Prop :=
  ∀ ch ∈ e.charge s, ch.Fair cfg s.globalRate

instance (cfg : Config) (s : State) (e : Event) : Decidable (e.Fair cfg s) :=
  inferInstanceAs (Decidable (∀ ch ∈ e.charge s, ch.Fair cfg s.globalRate))

/-! ## 3. The window -/

variable {cfg : Config}

/-- What the global window does with a datagram. -/
theorem Charge.answer_eq (w : RateWindow) (ch : Charge) :
    ch.answer cfg w =
      if ch.HasRoom cfg w then
        (true, ⟨(w.refresh ch.readings).started, wrapAdd (w.refresh ch.readings).packets 1,
          wrapAdd (w.refresh ch.readings).bytes ch.length⟩)
      else (false, w.refresh ch.readings) := by
  unfold Charge.answer RateWindow.allow
  by_cases h : ch.HasRoom cfg w
  · rw [if_pos h]
    obtain ⟨hpackets, hbytes⟩ := h
    exact if_neg fun hor => hor.elim (Nat.not_lt.mpr hpackets) (Nat.not_lt.mpr hbytes)
  · rw [if_neg h]
    refine if_pos (Classical.byContradiction fun hor => h ?_)
    exact ⟨Nat.not_lt.mp fun hp => hor (.inl hp), Nat.not_lt.mp fun hb => hor (.inr hb)⟩

/-- A counter that wraps has not moved by what was added. -/
theorem wrapAdd_eq_add_iff {a b : Nat} : wrapAdd a b = a + b ↔ a + b < 2 ^ 64 := by
  unfold wrapAdd
  constructor
  · intro h
    rw [← h]
    exact Nat.mod_lt _ (by decide)
  · exact Nat.mod_eq_of_lt

theorem wrapAdd_one_ne (a : Nat) : wrapAdd a 1 ≠ a := by
  unfold wrapAdd
  omega

theorem Charge.refresh_eq (w : RateWindow) (ch : Charge) :
    w.refresh ch.readings = if ch.resets w then ⟨ch.readings.resetAt, 0, 0⟩ else w := rfl

/-- Behind the reset test the counters are still those of the history. -/
theorem State.Accounted.refresh {s : State} (hs : s.Accounted) (ch : Charge) :
    (s.globalRate.refresh ch.readings).packets = (kept s.globalRate s.passed ch).length ∧
      (s.globalRate.refresh ch.readings).bytes = (kept s.globalRate s.passed ch).sum := by
  unfold kept
  rw [Charge.refresh_eq]
  by_cases hreset : ch.resets s.globalRate
  · rw [if_pos hreset, if_pos hreset]
    exact ⟨rfl, rfl⟩
  · rw [if_neg hreset, if_neg hreset]
    exact ⟨hs.packets, hs.bytes⟩

/-- **One charge.**  The counters stay those of the datagrams that passed both limits if and only
if the charge is fair. -/
theorem accounted_charge {s t : State} {ch : Charge} (hs : s.Accounted)
    (hwindow : t.globalRate = (ch.answer cfg s.globalRate).2)
    (hpassed : t.passed = record cfg s.globalRate s.passed (some ch)) :
    t.Accounted ↔ ch.Fair cfg s.globalRate := by
  have hrefresh := hs.refresh ch
  simp only [record] at hpassed
  rw [Charge.answer_eq] at hwindow hpassed
  generalize kept s.globalRate s.passed ch = base at hrefresh hpassed
  unfold Charge.Fair
  by_cases hroom : ch.HasRoom cfg s.globalRate
  · rw [if_pos hroom] at hwindow hpassed
    constructor
    · intro ht _
      have hpackets := ht.packets
      have hbytes := ht.bytes
      rw [hwindow, hpassed] at hpackets hbytes
      cases hlocal : ch.localAllowed with
      | true =>
        simp only [hlocal, Bool.and_self, if_true, List.length_append, List.length_singleton,
          List.sum_append, List.sum_singleton, ← hrefresh.1, ← hrefresh.2] at hpackets hbytes
        exact ⟨rfl, wrapAdd_eq_add_iff.mp hpackets, wrapAdd_eq_add_iff.mp hbytes⟩
      | false =>
        simp only [hlocal, Bool.false_and, Bool.false_eq_true, if_false, List.append_nil,
          ← hrefresh.1] at hpackets
        exact absurd hpackets (wrapAdd_one_ne _)
    · intro h
      obtain ⟨hlocal, hpackets, hbytes⟩ := h hroom
      refine ⟨?_, ?_⟩
      · rw [hwindow, hpassed]
        simp only [hlocal, Bool.and_self, if_true, List.length_append, List.length_singleton,
          ← hrefresh.1]
        exact wrapAdd_eq_add_iff.mpr hpackets
      · rw [hwindow, hpassed]
        simp only [hlocal, Bool.and_self, if_true, List.sum_append, List.sum_singleton,
          ← hrefresh.2]
        exact wrapAdd_eq_add_iff.mpr hbytes
  · rw [if_neg hroom] at hwindow hpassed
    simp only [Bool.and_false, Bool.false_eq_true, if_false, List.append_nil] at hpassed
    refine iff_of_true ⟨?_, ?_⟩ fun h => absurd h hroom
    · rw [hwindow, hpassed]
      exact hrefresh.1
    · rw [hwindow, hpassed]
      exact hrefresh.2

/-! ## 4. The steps of a connection -/

/-- The window behind a step that puts a datagram to it, or does not. -/
def settled (cfg : Config) (w : RateWindow) : Option Charge → RateWindow
  | none => w
  | some ch => (ch.answer cfg w).2

theorem onRecord_globalRate {c c' : Conn} {header frame : List UInt8}
    (h : onRecord cfg c header frame = some c') : c'.globalRate = c.globalRate := by
  unfold onRecord at h
  split at h
  · dsimp only at h
    split at h
    · cases h
      rfl
    · split at h
      · cases h
        rfl
      · split at h
        · cases h
        · split at h <;> cases h <;> rfl
  · cases h

/-- The request loop touches the shared window where it puts a datagram to it. -/
theorem stepRequest_globalRate {c c' : Conn} {e : RequestEvent}
    (h : stepRequest cfg c e = some c') :
    c'.globalRate = settled cfg c.globalRate (requestCharge c e) := by
  unfold stepRequest at h
  unfold requestCharge
  split at h
  · cases h
    rfl
  · exact onRecord_globalRate h
  · cases h
    rfl
  · split at h <;> cases h <;> rfl
  · split at h <;> cases h <;> rfl
  · -- the connection's own window
    rename_i hreq
    rw [hreq]
    cases h
    rfl
  · -- the shared window
    rename_i hreq
    rw [hreq]
    dsimp only at h
    split at h <;> cases h <;> rfl
  · split at h <;> cases h <;> rfl
  · cases h
    rfl
  · cases h

/-- So does the response thread. -/
theorem stepResponse_globalRate {c c' : Conn} {e : ResponseEvent}
    (h : stepResponse cfg c e = some c') :
    c'.globalRate = settled cfg c.globalRate (responseCharge c e) := by
  unfold stepResponse at h
  unfold responseCharge
  split at h
  · cases h
    rfl
  · cases h
    rfl
  · cases h
    rfl
  · cases h
    rfl
  · split at h
    · cases h
      rfl
    · split at h <;> cases h <;> rfl
  · -- the thread's own window
    rename_i hres
    rw [hres]
    cases h
    rfl
  · -- the shared window
    rename_i hres
    rw [hres]
    dsimp only at h
    split at h <;> cases h <;> rfl
  · dsimp only at h
    split at h <;> cases h <;> rfl
  · cases h
    rfl
  · cases h

/-- A datagram that is put to the shared window is answered. -/
theorem stepRequest_ne_none {c : Conn} {e : RequestEvent} {ch : Charge}
    (h : requestCharge c e = some ch) : stepRequest cfg c e ≠ none := by
  unfold requestCharge at h
  split at h
  · split at h
    · rename_i hreq
      unfold stepRequest
      rw [hreq]
      dsimp only
      split <;> exact nofun
    · cases h
  · cases h

theorem stepResponse_ne_none {c : Conn} {e : ResponseEvent} {ch : Charge}
    (h : responseCharge c e = some ch) : stepResponse cfg c e ≠ none := by
  unfold responseCharge at h
  split at h
  · split at h
    · rename_i hres
      unfold stepResponse
      rw [hres]
      dsimp only
      split <;> exact nofun
    · cases h
  · cases h

/-! ## 5. Runs -/

/-- A step of one connection, where its charge is what the event says. -/
theorem stepConn_cases {s t : State} {i : Nat} {charge : Conn → Option Charge}
    {move : Conn → Option Conn} (h : stepConn cfg s i charge move = some t)
    (hmove : ∀ c c', move c = some c' → c'.globalRate = settled cfg c.globalRate (charge c))
    (hcharge : ∀ c w, charge { c with globalRate := w } = charge c) :
    t.globalRate = settled cfg s.globalRate (s.conns[i]?.bind charge) ∧
      t.passed = record cfg s.globalRate s.passed (s.conns[i]?.bind charge) := by
  unfold stepConn at h
  cases hc : s.conns[i]? with
  | none =>
    rw [hc] at h
    cases h
  | some c =>
    rw [hc] at h
    cases hm : move { c with globalRate := s.globalRate } with
    | none =>
      simp [hm] at h
    | some c' =>
      simp only [Option.bind_eq_bind, Option.bind_some, hm, Option.some.injEq] at h
      subst h
      refine ⟨?_, rfl⟩
      rw [hmove _ _ hm, hcharge]
      rfl

/-- What an event does to the shared window and to the history. -/
theorem step_cases {s t : State} {e : Event} (h : step cfg s e = some t) :
    t.globalRate = settled cfg s.globalRate (e.charge s) ∧
      t.passed = record cfg s.globalRate s.passed (e.charge s) := by
  cases e with
  | connect now =>
    cases h
    exact ⟨rfl, rfl⟩
  | request i e =>
    have hconn : stepConn cfg s i (requestCharge · e) (stepRequest cfg · e) = some t := h
    exact stepConn_cases hconn (fun _ _ hmove => stepRequest_globalRate hmove) fun _ _ => rfl
  | response i e =>
    have hconn : stepConn cfg s i (responseCharge · e) (stepResponse cfg · e) = some t := h
    exact stepConn_cases hconn (fun _ _ hmove => stepResponse_globalRate hmove) fun _ _ => rfl

theorem stepConn_eq_none {s : State} {i : Nat} {charge : Conn → Option Charge}
    {move : Conn → Option Conn} (h : stepConn cfg s i charge move = none)
    (hmove : ∀ c w ch, charge c = some ch → move { c with globalRate := w } ≠ none) :
    s.conns[i]?.bind charge = none := by
  cases hc : s.conns[i]? with
  | none => rfl
  | some c =>
    rw [Option.bind_some]
    cases hcharge : charge c with
    | none => rfl
    | some ch =>
      obtain ⟨c', hm⟩ := Option.ne_none_iff_exists'.mp (hmove c s.globalRate ch hcharge)
      simp [stepConn, hc, hm] at h

/-- An event that cannot happen charges nothing. -/
theorem charge_of_stuck {s : State} {e : Event} (h : step cfg s e = none) : e.charge s = none := by
  cases e with
  | connect now => rfl
  | request i e =>
    have hconn : stepConn cfg s i (requestCharge · e) (stepRequest cfg · e) = none := h
    exact stepConn_eq_none hconn fun _ _ _ hcharge => stepRequest_ne_none hcharge
  | response i e =>
    have hconn : stepConn cfg s i (responseCharge · e) (stepResponse cfg · e) = none := h
    exact stepConn_eq_none hconn fun _ _ _ hcharge => stepResponse_ne_none hcharge

/-- **The global budget counts what was relayed**, all along a run of any number of connections,
if and only if every datagram for which the global window has room is one that its connection's
own window has let pass, and fits the counters. -/
theorem budget_iff (cfg : Config) (now : Nat) (events : List Event) :
    (∀ es, es <+: events → ∀ t, (machine cfg).run (State.start now) es = some t → t.Accounted) ↔
      (machine cfg).Conforms (fun s e => e.Fair cfg s) (State.start now) events := by
  refine Machine.invariant_iff_conforms ?_ ?_ events ⟨rfl, rfl⟩
  · intro s e t hs hstep
    obtain ⟨hwindow, hpassed⟩ := step_cases hstep
    unfold Event.Fair
    cases hcharge : e.charge s with
    | none =>
      rw [hcharge] at hwindow hpassed
      refine iff_of_true ⟨?_, ?_⟩ nofun
      · rw [hwindow, hpassed]
        exact hs.packets
      · rw [hwindow, hpassed]
        exact hs.bytes
    | some ch =>
      rw [hcharge] at hwindow hpassed
      refine (accounted_charge hs hwindow hpassed).trans ⟨?_, fun h => h ch rfl⟩
      rintro h _ ⟨⟩
      exact h
  · intro s e hstuck ch hch
    rw [charge_of_stuck hstuck] at hch
    cases hch

/-- One datagram a second for each connection. -/
def narrowConfig : Config := { Config.default with packetsPerSecond := 1 }

/-- A connection sends two datagrams at once. -/
def twoDatagrams : List Event :=
  let record : RequestEvent :=
    .record [0x17, 3, 3, 0, 23] ([4, 1, 1, 1, 1, 0x27, 0x09] ++ List.replicate 16 0)
  .connect 0 :: ([.next, record, .next, .next, .clock ⟨0, 0⟩, .clock ⟨0, 0⟩, .sent true,
    .next, record, .next, .clock ⟨0, 0⟩, .clock ⟨0, 0⟩] : List RequestEvent).map (.request 0)

/-- The second datagram is dropped by the connection's own window, and charged to all. -/
theorem dropped_datagram_charged : ∃ t,
    (machine narrowConfig).run (State.start 0) twoDatagrams = some t ∧ ¬ t.Accounted := by
  have hrun : ((machine narrowConfig).run (State.start 0) twoDatagrams).map
      (fun t => (t.globalRate.packets, t.passed)) = some (2, [16]) := by
    decide +kernel
  obtain ⟨t, ht, hcounts⟩ := Option.map_eq_some_iff.mp hrun
  refine ⟨t, ht, fun haccounted => ?_⟩
  have hpackets := haccounted.packets
  rw [(Prod.mk.inj hcounts).1, (Prod.mk.inj hcounts).2] at hpackets
  cases hpackets

end ZtPlanet.Relay.GlobalBudget
