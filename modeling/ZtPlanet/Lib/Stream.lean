/-
# Streams that arrive in pieces

What the calls of `read` on a stream will return is a list of events: a piece of data, nothing yet,
a deadline that passes, a failure; the end of the list is the end of the stream.  A read takes no
more than it asks for and leaves the rest of a piece to the next one.

`readExact` reads until it has a number of items.  While nothing goes wrong, what it returns depends
only on the data and not on the pieces (`readExact_append`).
-/
import Mathlib.Data.List.Basic

namespace ZtPlanet.Lib

/-- What one call of `read` meets. -/
inductive Read (α : Type) where
  | data (items : List α)
  /-- it would block, and the deadline has not passed -/
  | pending
  /-- the deadline passes -/
  | expired
  | failed
deriving DecidableEq

inductive ReadError where
  | unexpectedEof
  | timedOut
  | failed
deriving DecidableEq

variable {α : Type}

/-- The data of a stream. -/
def delivered : List (Read α) → List α
  | [] => []
  | .data items :: rest => items ++ delivered rest
  | _ :: rest => delivered rest

/-- Nothing goes wrong on the stream, and no piece is empty, which would be its end. -/
def Quiet (reads : List (Read α)) : Prop :=
  ∀ r ∈ reads, r = .pending ∨ ∃ items, items ≠ [] ∧ r = .data items

/-- The calls of `read` that a stream can still answer, at most. -/
def weight : List (Read α) → Nat
  | [] => 0
  | .data items :: rest => items.length + 1 + weight rest
  | _ :: rest => 1 + weight rest

/-- Read `n` items. -/
def readExact : List (Read α) → Nat → Except ReadError (List α × List (Read α))
  | reads, 0 => .ok ([], reads)
  | [], _ + 1 => .error .unexpectedEof
  | .pending :: rest, n + 1 => readExact rest (n + 1)
  | .expired :: _, _ + 1 => .error .timedOut
  | .failed :: _, _ + 1 => .error .failed
  | .data items :: rest, n + 1 =>
    if items = [] then .error .unexpectedEof
    else if items.length ≤ n + 1 then
      match readExact rest (n + 1 - items.length) with
      | .ok (more, rest) => .ok (items ++ more, rest)
      | .error e => .error e
    else .ok (items.take (n + 1), .data (items.drop (n + 1)) :: rest)

theorem Quiet.tail {r : Read α} {rest : List (Read α)} (h : Quiet (r :: rest)) : Quiet rest :=
  fun r' hr' => h r' (List.mem_cons_of_mem r hr')

/-- Reading uses up what it returns. -/
theorem weight_readExact : ∀ {reads : List (Read α)} {n : Nat} {items : List α}
    {rest : List (Read α)}, readExact reads n = .ok (items, rest) → weight rest + n ≤ weight reads
  | reads, 0, items, rest, h => by
    rw [readExact] at h
    cases h
    exact Nat.le_refl _
  | [], n + 1, items, rest, h => by cases h
  | .pending :: reads, n + 1, items, rest, h => by
    have ih := weight_readExact (n := n + 1) (show readExact reads (n + 1) = _ from h)
    simp only [weight]
    omega
  | .expired :: reads, n + 1, items, rest, h => by cases h
  | .failed :: reads, n + 1, items, rest, h => by cases h
  | .data piece :: reads, n + 1, items, rest, h => by
    rw [readExact] at h
    split at h
    · cases h
    · split at h
      · split at h
        · rename_i more rest' hmore
          have ih := weight_readExact hmore
          cases h
          simp only [weight]
          omega
        · cases h
      · cases h
        simp only [weight, List.length_drop]
        omega

/-- **The data alone decides what is read.** -/
theorem readExact_append : ∀ {reads : List (Read α)}, Quiet reads → ∀ {a b : List α},
    delivered reads = a ++ b →
      ∃ rest, readExact reads a.length = .ok (a, rest) ∧ Quiet rest ∧ delivered rest = b
  | reads, hquiet, [], b, h => ⟨reads, by rw [List.length_nil, readExact], hquiet, h⟩
  | [], hquiet, x :: a, b, h => by cases h
  | .pending :: reads, hquiet, x :: a, b, h => by
    obtain ⟨rest, hread, hrest⟩ := readExact_append hquiet.tail (a := x :: a) h
    exact ⟨rest, hread, hrest⟩
  | .expired :: reads, hquiet, x :: a, b, h => by
    rcases hquiet _ List.mem_cons_self with hr | ⟨items, -, hr⟩ <;> cases hr
  | .failed :: reads, hquiet, x :: a, b, h => by
    rcases hquiet _ List.mem_cons_self with hr | ⟨items, -, hr⟩ <;> cases hr
  | .data items :: reads, hquiet, x :: a, b, h => by
    have hne : items ≠ [] := by
      rcases hquiet _ List.mem_cons_self with hr | ⟨items', hne, hr⟩
      · cases hr
      · cases hr
        exact hne
    rw [List.length_cons, readExact, if_neg hne]
    by_cases hlen : items.length ≤ a.length + 1
    · -- the whole piece is needed
      obtain ⟨a', ha'⟩ : items <+: x :: a :=
        List.prefix_of_prefix_length_le ⟨delivered reads, h⟩ ⟨b, rfl⟩ hlen
      rw [← ha', delivered, List.append_assoc] at h
      obtain ⟨rest, hread, hquietRest, hrest⟩ :=
        readExact_append hquiet.tail (List.append_cancel_left h)
      have hlength := congrArg List.length ha'
      rw [List.length_append, List.length_cons] at hlength
      refine ⟨rest, ?_, hquietRest, hrest⟩
      rw [if_pos hlen, show a.length + 1 - items.length = a'.length by omega, hread]
      dsimp only
      rw [ha']
    · -- the piece holds more than is needed
      obtain ⟨b', hb'⟩ : x :: a <+: items :=
        List.prefix_of_prefix_length_le ⟨b, rfl⟩ ⟨delivered reads, h⟩ (by
          rw [List.length_cons]
          omega)
      rw [if_neg hlen, ← hb', ← List.length_cons, List.take_left, List.drop_left]
      refine ⟨_, rfl, ?_, ?_⟩
      · intro r hr
        rcases List.mem_cons.mp hr with rfl | hr
        · refine .inr ⟨b', ?_, rfl⟩
          rintro rfl
          rw [List.append_nil] at hb'
          rw [← hb', List.length_cons] at hlen
          exact hlen (Nat.le_refl _)
        · exact hquiet.tail r hr
      · rw [delivered, ← hb', List.append_assoc] at h
        exact List.append_cancel_left h

/-- Where no data is left, reading meets the end of the stream. -/
theorem readExact_eof : ∀ {reads : List (Read α)}, Quiet reads → delivered reads = [] →
    ∀ n, readExact reads (n + 1) = .error .unexpectedEof
  | [], _, _, n => rfl
  | .pending :: reads, hquiet, h, n => by
    rw [readExact]
    exact readExact_eof hquiet.tail h n
  | .expired :: reads, hquiet, h, n => by
    rcases hquiet _ List.mem_cons_self with hr | ⟨items, -, hr⟩ <;> cases hr
  | .failed :: reads, hquiet, h, n => by
    rcases hquiet _ List.mem_cons_self with hr | ⟨items, -, hr⟩ <;> cases hr
  | .data items :: reads, hquiet, h, n => by
    have hnil : items = [] := (List.append_eq_nil_iff.mp h).1
    rw [readExact, if_pos hnil]

end ZtPlanet.Lib
