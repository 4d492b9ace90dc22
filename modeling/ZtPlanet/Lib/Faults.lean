/-
# Calls that may fail

A call to a database or to a server can be lost on the way there, or its answer on the way back; in
the second case it has taken effect, although the caller sees a failure.  Which of it happens is not
the caller's to say, so it is part of the call: its `Outcome`.  `faulty` turns a handler of calls
that go through into one of calls with an outcome, and `faulty_iff` carries over what the calls do
to an invariant.
-/
import ZtPlanet.Lib.Prog

namespace ZtPlanet.Lib

/-- What happens to a call. -/
inductive Outcome where
  | done
  | failsBefore
  /-- the call takes effect, and its answer is lost -/
  | failsAfter
deriving DecidableEq

/-- A call, with what happens to it. -/
structure Call (Query : Type) where
  query : Query
  outcome : Outcome
deriving DecidableEq

@[reducible] def Call.Ans {Query : Type} (Ans : Query → Type) (call : Call Query) : Type :=
  Ans call.query

/-- The call reaches the other side. -/
def Call.takesEffect {Query : Type} (call : Call Query) : Bool := call.outcome != .failsBefore

variable {Query : Type} {Ans : Query → Type} {ε σ : Type}

/-- Calls with an outcome, where `unavailable` is what a failure looks like. -/
def faulty (unavailable : ε) (h : Prog.Handler Query Ans ε σ) :
    Prog.Handler (Call Query) (Call.Ans Ans) ε σ
  | ⟨query, outcome⟩, s =>
    match outcome with
    | .done => h query s
    | .failsBefore => (.error unavailable, s)
    | .failsAfter => (.error unavailable, (h query s).2)

variable {unavailable : ε} {h : Prog.Handler Query Ans ε σ} {call : Call Query} {s s' : σ}

/-- What a call leaves behind. -/
theorem faulty_state :
    (faulty unavailable h call s).2 = if call.takesEffect then (h call.query s).2 else s := by
  obtain ⟨query, outcome⟩ := call
  cases outcome with
  | done | failsBefore | failsAfter => rfl

/-- A call that is answered has gone through. -/
theorem faulty_ok {a : Ans call.query} (hok : faulty unavailable h call s = (.ok a, s')) :
    call.takesEffect = true ∧ h call.query s = (.ok a, s') := by
  obtain ⟨query, outcome⟩ := call
  cases outcome with
  | done => exact ⟨rfl, hok⟩
  | failsBefore | failsAfter => cases hok

/-- **An invariant is kept exactly where the calls that take effect keep it.** -/
theorem faulty_iff {I : σ → Prop} {ok : Query → σ → Prop}
    (hcall : ∀ query s, I s → (I (h query s).2 ↔ ok query s)) (call : Call Query)
    (s : σ) (hs : I s) :
    I (faulty unavailable h call s).2 ↔ (call.takesEffect = true → ok call.query s) := by
  rw [faulty_state]
  by_cases htakes : call.takesEffect = true
  · rw [if_pos htakes, hcall _ s hs]
    exact ⟨fun hok _ => hok, fun hok => hok htakes⟩
  · rw [if_neg htakes]
    exact iff_of_true hs fun h => absurd h htakes

/-- A relation that every call respects. -/
theorem faulty_respects {R : σ → σ → Prop} (hrefl : ∀ s, R s s)
    (hcall : ∀ query s, R s (h query s).2)
    (call : Call Query) (s : σ) : R s (faulty unavailable h call s).2 := by
  rw [faulty_state]
  split
  · exact hcall _ s
  · exact hrefl s

end ZtPlanet.Lib
