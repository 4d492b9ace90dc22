/-
# Addresses with a common prefix

The addresses of a block are those that agree with the address of the block in their first bits.  A
program sees this as a mask, or as the quotient by the size of the block; both are read off the
bits here.  The quotient shows that a block is an interval (`SamePrefix.of_between`).
-/
import Mathlib.Algebra.Group.Nat.Defs
import Mathlib.Data.List.Basic

namespace ZtPlanet.Lib

variable {w : Nat}

/-- The first `p` bits of two addresses agree. -/
def SamePrefix (p : Nat) (a b : BitVec w) : Prop := ∀ i < p, a.getMsbD i = b.getMsbD i

instance (p : Nat) (a b : BitVec w) : Decidable (SamePrefix p a b) :=
  inferInstanceAs (Decidable (∀ i < p, _))

theorem SamePrefix.symm {p : Nat} {a b : BitVec w} (h : SamePrefix p a b) : SamePrefix p b a :=
  fun i hi => (h i hi).symm

/-- Bits counted from the other end. -/
theorem samePrefix_iff_getLsbD {p : Nat} (hp : p ≤ w) {a b : BitVec w} :
    SamePrefix p a b ↔ ∀ i, w - p ≤ i → i < w → a.getLsbD i = b.getLsbD i := by
  constructor
  · intro h i hle hlt
    have hi := h (w - 1 - i) (by omega)
    rw [BitVec.getMsbD, BitVec.getMsbD, decide_eq_true (by omega : w - 1 - i < w), Bool.true_and,
      Bool.true_and] at hi
    rwa [show w - 1 - (w - 1 - i) = i by omega] at hi
  · intro h i hi
    rw [BitVec.getMsbD, BitVec.getMsbD, h (w - 1 - i) (by omega) (by omega)]

/-- The mask of a prefix. -/
def prefixMask (w p : Nat) : BitVec w := BitVec.allOnes w <<< (w - p)

theorem getLsbD_prefixMask {p i : Nat} (hi : i < w) :
    (prefixMask w p).getLsbD i = decide (w - p ≤ i) := by
  unfold prefixMask
  rw [BitVec.getLsbD_shiftLeft, BitVec.getLsbD_allOnes]
  by_cases h : w - p ≤ i
  · simp [h, hi, Nat.not_lt.mpr h, show i - (w - p) < w by omega]
  · simp [h, Nat.not_le.mp h]

/-- **Masked addresses** are equal if and only if their prefixes are. -/
theorem and_prefixMask_eq_iff {p : Nat} (hp : p ≤ w) {a b : BitVec w} :
    a &&& prefixMask w p = b &&& prefixMask w p ↔ SamePrefix p a b := by
  rw [samePrefix_iff_getLsbD hp]
  constructor
  · intro h i hle hlt
    have hi := congrArg (fun v => v.getLsbD i) h
    simpa [BitVec.getLsbD_and, getLsbD_prefixMask hlt, hle] using hi
  · intro h
    refine BitVec.eq_of_getLsbD_eq fun i hlt => ?_
    rw [BitVec.getLsbD_and, BitVec.getLsbD_and, getLsbD_prefixMask hlt]
    by_cases hle : w - p ≤ i
    · rw [h i hle hlt]
    · rw [decide_eq_false hle, Bool.and_false, Bool.and_false]

/-- **Blocks** are counted by the quotient by their size. -/
theorem samePrefix_iff_div {p : Nat} (hp : p ≤ w) {a b : BitVec w} :
    SamePrefix p a b ↔ a.toNat / 2 ^ (w - p) = b.toNat / 2 ^ (w - p) := by
  rw [samePrefix_iff_getLsbD hp]
  constructor
  · intro h
    refine Nat.eq_of_testBit_eq fun i => ?_
    rw [Nat.testBit_div_two_pow, Nat.testBit_div_two_pow]
    by_cases hlt : i + (w - p) < w
    · exact h _ (Nat.le_add_left _ _) hlt
    · rw [BitVec.testBit_toNat, BitVec.testBit_toNat, BitVec.getLsbD_of_ge _ _ (Nat.not_lt.mp hlt),
        BitVec.getLsbD_of_ge _ _ (Nat.not_lt.mp hlt)]
  · intro h i hle _
    have hi := congrArg (fun n => n.testBit (i - (w - p))) h
    rwa [Nat.testBit_div_two_pow, Nat.testBit_div_two_pow, Nat.sub_add_cancel hle] at hi

/-- A block is an interval. -/
theorem SamePrefix.of_between {p : Nat} (hp : p ≤ w) {a b c n : BitVec w}
    (ha : SamePrefix p a n) (hc : SamePrefix p c n) (hab : a ≤ b) (hbc : b ≤ c) :
    SamePrefix p b n := by
  rw [samePrefix_iff_div hp] at ha hc ⊢
  have hlow : a.toNat / 2 ^ (w - p) ≤ b.toNat / 2 ^ (w - p) := Nat.div_le_div_right hab
  have hhigh : b.toNat / 2 ^ (w - p) ≤ c.toNat / 2 ^ (w - p) := Nat.div_le_div_right hbc
  omega

end ZtPlanet.Lib
