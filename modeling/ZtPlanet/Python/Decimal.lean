/-
# Decimal numbers as texts

`str(n)` read back, and the order of texts against the order of numbers: digits of the same length
compare as the numbers they denote, which is why file names with padded numbers sort by number.
-/
import Mathlib.Data.List.Induction
import Mathlib.Order.Fin.Basic
import Mathlib.Tactic.Ring
import ZtPlanet.Python.Text

namespace ZtPlanet.Python

/-! ## 1. Reading back -/

theorem ofDigits_decimal (n : Nat) : ofDigits 10 (decimal n) = n :=
  ofDigits_toDigits (by decide) (by decide) n

theorem decimal_ne_nil (n : Nat) : decimal n ≠ [] := by
  simp [decimal, Nat.toDigits_ne_nil]

theorem all_isAsciiDigit_decimal (n : Nat) : (decimal n).all isAsciiDigit = true :=
  List.all_eq_true.mpr fun _ hc => isAsciiDigit_of_mem_decimal hc

theorem length_decimal_le {n k : Nat} (hk : 0 < k) (h : n < 10 ^ k) : (decimal n).length ≤ k := by
  rw [decimal, List.length_map, Nat.length_toDigits_le_iff (by decide) hk]
  exact h

/-- A digit denotes a number below ten, and the order of digits is the order of the numbers. -/
theorem digitValue_of_isAsciiDigit {c : CodePoint} (h : isAsciiDigit c = true) :
    digitValue c = c.val - 48 ∧ 48 ≤ c.val ∧ c.val ≤ 57 := by
  simp only [isAsciiDigit, Bool.and_eq_true, decide_eq_true_eq] at h
  refine ⟨?_, h⟩
  unfold digitValue
  rw [if_pos h.2]

/-! ## 2. The order of digits -/

/-- What stands in front counts with the place of its last digit. -/
theorem ofDigits_append (base : Nat) (s t : PyStr) :
    ofDigits base (s ++ t) = ofDigits base s * base ^ t.length + ofDigits base t := by
  induction t using List.reverseRecOn with
  | nil => simp [ofDigits]
  | append_singleton t c ih =>
    rw [← List.append_assoc, ofDigits_append_one, ofDigits_append_one, ih, List.length_append,
      List.length_singleton, pow_succ]
    ring

theorem ofDigits_cons (base : Nat) (c : CodePoint) (s : PyStr) :
    ofDigits base (c :: s) = digitValue c * base ^ s.length + ofDigits base s := by
  have hc : ofDigits base [c] = digitValue c := by simp [ofDigits]
  rw [← List.singleton_append, ofDigits_append, hc]

/-- Zeros in front change nothing. -/
theorem ofDigits_replicate_zero (base k : Nat) (s : PyStr) :
    ofDigits base (List.replicate k (ch '0') ++ s) = ofDigits base s := by
  induction k with
  | zero => rfl
  | succ k ih =>
    have h0 : digitValue (ch '0') = 0 := by decide
    rw [List.replicate_succ, List.cons_append, ofDigits_cons, ih, h0, Nat.zero_mul, Nat.zero_add]

theorem ofDigits_lt_pow {base : Nat} {s : PyStr} (h : ∀ c ∈ s, digitValue c < base) :
    ofDigits base s < base ^ s.length := by
  induction s with
  | nil => simp [ofDigits]
  | cons c s ih =>
    have hrest := ih fun d hd => h d (List.mem_cons_of_mem c hd)
    have hc : (digitValue c + 1) * base ^ s.length ≤ base * base ^ s.length :=
      Nat.mul_le_mul_right _ (h c List.mem_cons_self)
    rw [Nat.add_mul, Nat.one_mul] at hc
    rw [ofDigits_cons, List.length_cons, pow_succ, Nat.mul_comm (base ^ s.length)]
    omega

theorem ofDigits_lt {s : PyStr} (h : ∀ c ∈ s, isAsciiDigit c = true) :
    ofDigits 10 s < 10 ^ s.length := by
  refine ofDigits_lt_pow fun c hc => ?_
  obtain ⟨hvalue, -, hhigh⟩ := digitValue_of_isAsciiDigit (h c hc)
  omega

/-- **Digits of the same length compare as the numbers they denote.** -/
theorem lt_iff_ofDigits_lt : ∀ {s t : PyStr}, (∀ c ∈ s, isAsciiDigit c = true) →
    (∀ c ∈ t, isAsciiDigit c = true) → s.length = t.length →
    (s < t ↔ ofDigits 10 s < ofDigits 10 t)
  | [], [], _, _, _ => by simp
  | c :: s, d :: t, hs, ht, hlen => by
    have hlen' : s.length = t.length := Nat.succ.inj hlen
    have ih := lt_iff_ofDigits_lt (fun c hc => hs c (List.mem_cons_of_mem _ hc))
      (fun c hc => ht c (List.mem_cons_of_mem _ hc)) hlen'
    obtain ⟨hc, hc₁, hc₂⟩ := digitValue_of_isAsciiDigit (hs c (by simp))
    obtain ⟨hd, hd₁, hd₂⟩ := digitValue_of_isAsciiDigit (ht d (by simp))
    have hslt := ofDigits_lt fun c hc => hs c (List.mem_cons_of_mem _ hc)
    have htlt := ofDigits_lt fun c hc => ht c (List.mem_cons_of_mem _ hc)
    rw [List.cons_lt_cons_iff, ofDigits_cons, ofDigits_cons, ← hlen', ih]
    rw [← hlen'] at htlt
    rcases lt_trichotomy c d with hcd | rfl | hcd
    · have hcd' : c.val < d.val := hcd
      have hstep : (digitValue c + 1) * 10 ^ s.length ≤ digitValue d * 10 ^ s.length :=
        Nat.mul_le_mul_right _ (by omega)
      rw [Nat.add_mul, Nat.one_mul] at hstep
      exact iff_of_true (.inl hcd) (by omega)
    · constructor
      · rintro (h | ⟨-, h⟩)
        · exact absurd h (lt_irrefl c)
        · omega
      · intro h
        exact .inr ⟨rfl, by omega⟩
    · have hcd' : d.val < c.val := hcd
      have hstep : (digitValue d + 1) * 10 ^ s.length ≤ digitValue c * 10 ^ s.length :=
        Nat.mul_le_mul_right _ (by omega)
      rw [Nat.add_mul, Nat.one_mul] at hstep
      refine iff_of_false ?_ (by omega)
      rintro (h | ⟨rfl, -⟩)
      · exact absurd hcd (lt_asymm h)
      · exact lt_irrefl _ hcd

/-- A common text behind texts of the same length does not matter. -/
theorem append_lt_append_iff : ∀ {s t : PyStr}, s.length = t.length → ∀ rest : PyStr,
    (s ++ rest < t ++ rest ↔ s < t)
  | [], [], _, rest => by simp
  | c :: s, d :: t, hlen, rest => by
    rw [List.cons_append, List.cons_append, List.cons_lt_cons_iff, List.cons_lt_cons_iff,
      append_lt_append_iff (Nat.succ.inj hlen) rest]

/-- Nor does one in front. -/
theorem append_left_lt_iff (before : PyStr) {s t : PyStr} :
    before ++ s < before ++ t ↔ s < t := by
  induction before with
  | nil => rfl
  | cons c before ih => simp [ih]

end ZtPlanet.Python
