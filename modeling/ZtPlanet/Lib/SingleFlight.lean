/-
# Calls that share what is in flight

A function keeps a table of the programs that it has started, by key: a call whose key is in the
table gets the outcome of the program that is there, with whatever options that one was started, and
only a call whose key is not starts a program with its own.  A program is taken out of the table
once it has ended.

`Traced` says of a program what it has done, and been answered, by the time it returns.  The rule
for the whole, `flights_invariant`, is that a call can rely on what the program promises for the
call's own options, where it joins only programs whose options serve them, and every answer is one
that the promise counts on.  Nothing is asked of the state, which anybody may change at any time.
-/
import ZtPlanet.Lib.Dict
import ZtPlanet.Lib.Interleave

namespace ZtPlanet.Lib

variable {Act : Type} {Ans : Act → Type} {ε α β σ κ Opt : Type}

/-! ## 1. What a program has done -/

/-- An action and its answer. -/
abbrev Done (Act : Type) (Ans : Act → Type) (ε : Type) : Type := (act : Act) × Except ε (Ans act)

namespace Prog

/-- Whatever answers that are `good` it gets, the program returns only where `post` holds of what
has been done. -/
def Traced (good : (act : Act) → Except ε (Ans act) → Prop)
    (post : List (Done Act Ans ε) → α → Prop) : Prog Act Ans ε α → List (Done Act Ans ε) → Prop
  | .pure a, t => post t a
  | .raise _, _ => True
  | .perform act k, t => ∀ r, good act r → Traced good post (k r) (t ++ [⟨act, r⟩])

section

variable {good : (act : Act) → Except ε (Ans act) → Prop} {t : List (Done Act Ans ε)}
  {post post' : List (Done Act Ans ε) → α → Prop} {p : Prog Act Ans ε α}

theorem traced_ofExcept {x : Except ε α} (h : ∀ a, x = .ok a → post t a) :
    Traced good post (ofExcept x : Prog Act Ans ε α) t := by
  cases x with
  | ok a => exact h a rfl
  | error e => trivial

theorem traced_call {act : Act} {post : List (Done Act Ans ε) → Ans act → Prop}
    (h : ∀ a, good act (.ok a) → post (t ++ [⟨act, .ok a⟩]) a) :
    Traced good post (call act) t := by
  intro r hr
  refine traced_ofExcept fun a ha => ?_
  subst ha
  exact h a hr

theorem Traced.mono (hp : Traced good post p t) (h : ∀ t a, post t a → post' t a) :
    Traced good post' p t := by
  induction p generalizing t with
  | pure a => exact h _ _ hp
  | raise e => trivial
  | perform act k ih => exact fun r hr => ih r (hp r hr)

theorem Traced.of_good {good' : (act : Act) → Except ε (Ans act) → Prop}
    (hp : Traced good post p t) (h : ∀ act r, good' act r → good act r) :
    Traced good' post p t := by
  induction p generalizing t with
  | pure a => exact hp
  | raise e => trivial
  | perform act k ih => exact fun r hr => ih r (hp r (h act r hr))

theorem Traced.bind {post : List (Done Act Ans ε) → β → Prop} {f : α → Prog Act Ans ε β}
    (hp : Traced good (fun t a => Traced good post (f a) t) p t) :
    Traced good post (p >>= f) t := by
  change Traced good post (p.bind f) t
  induction p generalizing t with
  | pure a => exact hp
  | raise e => trivial
  | perform act k ih => exact fun r hr => ih r (hp r hr)

/-- What has been done stays done. -/
theorem traced_extends (p : Prog Act Ans ε α) (t : List (Done Act Ans ε)) :
    Traced good (fun t' _ => ∀ d ∈ t, d ∈ t') p t := by
  have hfrom : ∀ (p : Prog Act Ans ε α) (t' : List (Done Act Ans ε)), (∀ d ∈ t, d ∈ t') →
      Traced good (fun t' _ => ∀ d ∈ t, d ∈ t') p t' := by
    intro p
    induction p with
    | pure a => exact fun _ h => h
    | raise e => exact fun _ _ => trivial
    | perform act k ih =>
      exact fun t' h r _ => ih r _ fun d hd => List.mem_append_left _ (h d hd)
  exact hfrom p t fun _ hd => hd

end

end Prog

/-! ## 2. Calls and flights -/

/-- A program that has been started, with what it has done. -/
structure Flight (κ Opt Act : Type) (Ans : Act → Type) (ε α : Type) where
  key : κ
  opt : Opt
  rest : Prog Act Ans ε α
  trace : List (Done Act Ans ε)

/-- A call, with the number of the flight whose outcome it gets. -/
structure FlightCall (κ Opt : Type) where
  key : κ
  opt : Opt
  flight : Nat

structure Flights (κ Opt Act : Type) (Ans : Act → Type) (ε α σ : Type) where
  state : σ
  flights : List (Flight κ Opt Act Ans ε α)
  /-- the table -/
  inFlight : Dict κ Nat
  calls : List (FlightCall κ Opt)

inductive FlightEvent (κ Opt σ : Type) where
  | call (key : κ) (opt : Opt)
  /-- a flight performs its next action -/
  | step (j : Nat)
  /-- a flight that has ended is taken out of the table -/
  | settle (j : Nat)
  /-- somebody else changes the state -/
  | change (state : σ)

variable [DecidableEq κ]

/-- A call is made. -/
def Flights.call (w : Flights κ Opt Act Ans ε α σ) (program : κ → Opt → Prog Act Ans ε α) (key : κ)
    (opt : Opt) : Flights κ Opt Act Ans ε α σ :=
  match w.inFlight.get? key with
  | some j => { w with calls := w.calls ++ [⟨key, opt, j⟩] }
  | none =>
    { w with
      flights := w.flights ++ [⟨key, opt, program key opt, []⟩]
      inFlight := w.inFlight.set key w.flights.length
      calls := w.calls ++ [⟨key, opt, w.flights.length⟩] }

/-- A flight performs its next action. -/
def Flights.step (w : Flights κ Opt Act Ans ε α σ) (h : κ → Prog.Handler Act Ans ε σ) (j : Nat)
    (flight : Flight κ Opt Act Ans ε α) : Option (Flights κ Opt Act Ans ε α σ) :=
  match flight.rest with
  | .perform act k =>
    let answer := h flight.key act w.state
    some { w with
      state := answer.2
      flights := w.flights.set j
        { flight with rest := k answer.1, trace := flight.trace ++ [⟨act, answer.1⟩] } }
  | _ => none

/-- A flight that has ended is taken out of the table. -/
def Flights.settle (w : Flights κ Opt Act Ans ε α σ) (j : Nat) (flight : Flight κ Opt Act Ans ε α) :
    Option (Flights κ Opt Act Ans ε α σ) :=
  if flight.rest.outcome.isSome ∧ w.inFlight.get? flight.key = some j then
    some { w with inFlight := w.inFlight.erase flight.key }
  else none

/-- The calls and the flights together. -/
def flightMachine (h : κ → Prog.Handler Act Ans ε σ) (program : κ → Opt → Prog Act Ans ε α) :
    Machine (Flights κ Opt Act Ans ε α σ) (FlightEvent κ Opt σ) where
  step w
    | .call key opt => some (w.call program key opt)
    | .step j => (w.flights[j]?).bind (w.step h j)
    | .settle j => (w.flights[j]?).bind (w.settle j)
    | .change state => some { w with state := state }

/-! ## 3. What a call can rely on -/

/-- What programs promise: `post` for their key and options, where every answer is `good`; a promise
for the second options serves the first where `serves` holds. -/
structure Promise (κ Opt Act : Type) (Ans : Act → Type) (ε α : Type) where
  good : κ → Opt → (act : Act) → Except ε (Ans act) → Prop
  post : κ → Opt → List (Done Act Ans ε) → α → Prop
  serves : Opt → Opt → Prop

variable {h : κ → Prog.Handler Act Ans ε σ} {program : κ → Opt → Prog Act Ans ε α}
  {promise : Promise κ Opt Act Ans ε α} {w w' : Flights κ Opt Act Ans ε α σ}
  {event : FlightEvent κ Opt σ}

/-- A call joins only a flight whose options serve its own, and an answer is one that the promise
counts on. -/
def Flights.Meets (h : κ → Prog.Handler Act Ans ε σ) (promise : Promise κ Opt Act Ans ε α)
    (w : Flights κ Opt Act Ans ε α σ) : FlightEvent κ Opt σ → Prop
  | .call key opt => ∀ j ∈ w.inFlight.get? key, ∀ flight ∈ w.flights[j]?,
    promise.serves opt flight.opt
  | .step j => ∀ flight ∈ w.flights[j]?, ∀ act ∈ flight.rest.next,
    promise.good flight.key flight.opt act (h flight.key act w.state).1
  | _ => True

/-- Every flight keeps its promise, the table leads to flights with the key, and every call has one
whose options serve its own. -/
structure FlightInvariant (promise : Promise κ Opt Act Ans ε α) (w : Flights κ Opt Act Ans ε α σ) :
    Prop where
  traced : ∀ flight ∈ w.flights, Prog.Traced (promise.good flight.key flight.opt)
    (promise.post flight.key flight.opt) flight.rest flight.trace
  table : ∀ key j, w.inFlight.get? key = some j → ∃ flight, w.flights[j]? = some flight ∧
    flight.key = key
  served : ∀ call ∈ w.calls, ∃ flight, w.flights[call.flight]? = some flight ∧
    flight.key = call.key ∧ promise.serves call.opt flight.opt

omit [DecidableEq κ] in
/-- A flight that has moved is where it was, with its key and its options. -/
theorem getElem?_set_flight {flights : List (Flight κ Opt Act Ans ε α)} {i j : Nat}
    {flight flight' found : Flight κ Opt Act Ans ε α} (hi : flights[i]? = some flight)
    (hkey : flight'.key = flight.key) (hopt : flight'.opt = flight.opt)
    (hj : flights[j]? = some found) :
    ∃ found', (flights.set i flight')[j]? = some found' ∧ found'.key = found.key ∧
      found'.opt = found.opt := by
  rcases eq_or_ne i j with rfl | hne
  · rw [hi] at hj
    cases hj
    exact ⟨flight', List.getElem?_set_self (List.getElem?_eq_some_iff.mp hi).1, hkey, hopt⟩
  · exact ⟨found, (List.getElem?_set_ne hne).trans hj, rfl, rfl⟩

/-- A call that joins a flight. -/
theorem FlightInvariant.join (hw : FlightInvariant promise w) {key : κ} {opt : Opt} {j : Nat}
    (hj : w.inFlight.get? key = some j)
    (hserves : ∀ flight ∈ w.flights[j]?, promise.serves opt flight.opt) :
    FlightInvariant promise { w with calls := w.calls ++ [⟨key, opt, j⟩] } where
  traced := hw.traced
  table := hw.table
  served call hcall := by
    rcases List.mem_append.mp hcall with hcall | hcall
    · exact hw.served call hcall
    · rw [List.mem_singleton.mp hcall]
      obtain ⟨flight, hflight, hkey⟩ := hw.table key j hj
      exact ⟨flight, hflight, hkey, hserves flight hflight⟩

/-- A call that starts a flight. -/
theorem FlightInvariant.launch (hw : FlightInvariant promise w) (key : κ) {opt : Opt}
    {p : Prog Act Ans ε α} (hp : Prog.Traced (promise.good key opt) (promise.post key opt) p [])
    (hserves : promise.serves opt opt) :
    FlightInvariant promise
      { w with
        flights := w.flights ++ [⟨key, opt, p, []⟩]
        inFlight := w.inFlight.set key w.flights.length
        calls := w.calls ++ [⟨key, opt, w.flights.length⟩] } where
  traced := forall_mem_append_one hw.traced hp
  table key' j hj := by
    rw [Dict.get?_set] at hj
    split at hj
    · next hkey =>
      cases hj
      exact ⟨⟨key, opt, p, []⟩, List.getElem?_concat_length, hkey⟩
    · obtain ⟨flight, hflight, hkey⟩ := hw.table key' j hj
      exact ⟨flight, List.getElem?_append_left (List.getElem?_eq_some_iff.mp hflight).1 ▸ hflight,
        hkey⟩
  served call hcall := by
    rcases List.mem_append.mp hcall with hcall | hcall
    · obtain ⟨flight, hflight, hkey⟩ := hw.served call hcall
      exact ⟨flight, List.getElem?_append_left (List.getElem?_eq_some_iff.mp hflight).1 ▸ hflight,
        hkey⟩
    · rw [List.mem_singleton.mp hcall]
      exact ⟨⟨key, opt, p, []⟩, List.getElem?_concat_length, rfl, hserves⟩

/-- **The step rule.** -/
theorem flight_invariant_step
    (hprogram : ∀ key opt, Prog.Traced (promise.good key opt) (promise.post key opt)
      (program key opt) [])
    (hserves : ∀ opt, promise.serves opt opt) (hw : FlightInvariant promise w)
    (hmeets : w.Meets h promise event) (hstep : (flightMachine h program).step w event = some w') :
    FlightInvariant promise w' := by
  cases event with
  | call key opt =>
    cases hstep
    cases hj : w.inFlight.get? key with
    | some j =>
      have hcall : w.call program key opt = { w with calls := w.calls ++ [⟨key, opt, j⟩] } := by
        rw [Flights.call, hj]
      rw [hcall]
      exact hw.join hj (hmeets j hj)
    | none =>
      have hcall : w.call program key opt =
          { w with
            flights := w.flights ++ [⟨key, opt, program key opt, []⟩]
            inFlight := w.inFlight.set key w.flights.length
            calls := w.calls ++ [⟨key, opt, w.flights.length⟩] } := by
        rw [Flights.call, hj]
      rw [hcall]
      exact hw.launch key (hprogram key opt) (hserves opt)
  | step j =>
    obtain ⟨flight, hflight, hstep⟩ := Option.bind_eq_some_iff.mp hstep
    unfold Flights.step at hstep
    split at hstep
    · next act k hrest =>
      cases hstep
      have hgood := hmeets flight hflight act (by rw [hrest]; rfl)
      have htraced := hw.traced flight (List.mem_of_getElem? hflight)
      rw [hrest] at htraced
      have hfind : ∀ (i : Nat) (found : Flight κ Opt Act Ans ε α), w.flights[i]? = some found →
          ∃ found', (w.flights.set j
            { flight with
              rest := k (h flight.key act w.state).1
              trace := flight.trace ++ [⟨act, (h flight.key act w.state).1⟩] })[i]? = some found' ∧
            found'.key = found.key ∧ found'.opt = found.opt :=
        fun i found => getElem?_set_flight hflight rfl rfl
      refine ⟨forall_mem_set hw.traced (htraced _ hgood), fun key i hi => ?_, fun call hcall => ?_⟩
      · obtain ⟨found, hfound, hkey⟩ := hw.table key i hi
        obtain ⟨found', hfound', hkey', -⟩ := hfind i found hfound
        exact ⟨found', hfound', hkey'.trans hkey⟩
      · obtain ⟨found, hfound, hkey, hserved⟩ := hw.served call hcall
        obtain ⟨found', hfound', hkey', hopt'⟩ := hfind call.flight found hfound
        exact ⟨found', hfound', hkey'.trans hkey, hopt' ▸ hserved⟩
    · cases hstep
  | settle j =>
    obtain ⟨flight, hflight, hstep⟩ := Option.bind_eq_some_iff.mp hstep
    obtain ⟨-, hstep⟩ := Option.ite_none_right_eq_some.mp hstep
    cases hstep
    refine ⟨hw.traced, fun key i hi => ?_, hw.served⟩
    rw [Dict.get?_erase] at hi
    exact hw.table key i (Option.ite_none_left_eq_some.mp hi).2
  | change state =>
    cases hstep
    exact ⟨hw.traced, hw.table, hw.served⟩

/-- **The rule for shared flights.**  After every run in which calls join only flights whose options
serve theirs, and every answer is one that the promise counts on, each call has a flight that serves
it, and which, where it has returned, has kept its promise. -/
theorem flights_invariant
    (hprogram : ∀ key opt, Prog.Traced (promise.good key opt) (promise.post key opt)
      (program key opt) [])
    (hserves : ∀ opt, promise.serves opt opt) {s : σ} {events : List (FlightEvent κ Opt σ)}
    (hmeets : (flightMachine h program).Conforms (Flights.Meets h promise) ⟨s, [], Dict.empty, []⟩
      events)
    (hrun : (flightMachine h program).run ⟨s, [], Dict.empty, []⟩ events = some w) :
    ∀ call ∈ w.calls, ∃ flight, w.flights[call.flight]? = some flight ∧ flight.key = call.key ∧
      promise.serves call.opt flight.opt ∧
      ∀ a, flight.rest = .pure a → promise.post flight.key flight.opt flight.trace a := by
  have hstart : FlightInvariant promise (⟨s, [], Dict.empty, []⟩ : Flights κ Opt Act Ans ε α σ) :=
    ⟨by simp, by simp, by simp⟩
  have hw := Machine.run_invariant_of_conforms
    (fun _ _ _ hw hmeets hstep => flight_invariant_step hprogram hserves hw hmeets hstep) events
    hstart hmeets hrun
  intro call hcall
  obtain ⟨flight, hflight, hkey, hserved⟩ := hw.served call hcall
  refine ⟨flight, hflight, hkey, hserved, fun a ha => ?_⟩
  have htraced := hw.traced flight (List.mem_of_getElem? hflight)
  rw [ha] at htraced
  exact htraced

end ZtPlanet.Lib
