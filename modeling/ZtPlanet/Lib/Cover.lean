/-
# Intervals that cover an initial segment

A finite list of intervals of natural numbers covers every number below a bound exactly when it
covers the first one and has no gap: the number behind the end of each interval is covered again or
lies beyond the bound.  The second form is a finite check.
-/
import Mathlib.Data.List.Basic

namespace ZtPlanet.Lib

/-- A closed interval of natural numbers. -/
structure Interval where
  first : Nat
  last : Nat
  ordered : first ≤ last

def Interval.Mem (i : Interval) (x : Nat) : Prop := i.first ≤ x ∧ x ≤ i.last

instance (i : Interval) (x : Nat) : Decidable (i.Mem x) :=
  inferInstanceAs (Decidable (i.first ≤ x ∧ x ≤ i.last))

/-- Some interval of the list has the number. -/
def Covers (is : List Interval) (x : Nat) : Prop := ∃ i ∈ is, i.Mem x

instance (is : List Interval) (x : Nat) : Decidable (Covers is x) :=
  inferInstanceAs (Decidable (∃ i ∈ is, i.Mem x))

/-- The list covers the first number and closes up behind each of its intervals. -/
def Closed (is : List Interval) (bound : Nat) : Prop :=
  Covers is 0 ∧ ∀ i ∈ is, i.last + 1 < bound → Covers is (i.last + 1)

instance (is : List Interval) (bound : Nat) : Decidable (Closed is bound) :=
  inferInstanceAs (Decidable (_ ∧ ∀ i ∈ is, i.last + 1 < bound → Covers is (i.last + 1)))

/-- A list that closes up has no gap: the next number is in the same interval or behind its end. -/
theorem Closed.covers {is : List Interval} {bound : Nat} (h : Closed is bound) :
    ∀ x < bound, Covers is x := by
  intro x
  induction x with
  | zero => exact fun _ => h.1
  | succ x ih =>
    intro hx
    obtain ⟨i, hi, hfirst, hlast⟩ := ih (by omega)
    by_cases hend : x + 1 ≤ i.last
    · exact ⟨i, hi, by omega, hend⟩
    · have heq : i.last = x := by omega
      have := h.2 i hi
      rw [heq] at this
      exact this hx

theorem closed_iff {is : List Interval} {bound : Nat} (hbound : 0 < bound) :
    Closed is bound ↔ ∀ x < bound, Covers is x :=
  ⟨Closed.covers, fun h => ⟨h 0 hbound, fun _ _ hlt => h _ hlt⟩⟩

end ZtPlanet.Lib
