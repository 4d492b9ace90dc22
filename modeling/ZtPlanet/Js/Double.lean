/-
# Doubles, and `Number` of a text

`Number(text)` reads a text as an exact rational and rounds it to a double: to the nearest one, to
the even one of two, to an infinity from 2^1024 on.  The two zeros are one here.

No number of a text of digits is rounded across a power of two (`two_pow_le_nearestMagnitude`), so
what is read as a small number is one (`ofUnits_le_of_number`).
-/
import Mathlib.Algebra.Order.Floor.Semiring
import Mathlib.Data.Int.Log
import Mathlib.Data.Rat.Floor
import Mathlib.Tactic.Linarith
import Mathlib.Tactic.Positivity
import ZtPlanet.Js.Text
import ZtPlanet.Lib.Fields

namespace ZtPlanet.Js

open ZtPlanet.Lib

/-! ## 1. Doubles -/

inductive Double where
  | nan
  | infinity (negative : Bool)
  | value (q : ℚ)
deriving DecidableEq

/-- The nearest integer, the even one of two. -/
def roundEven (q : ℚ) : ℤ :=
  if q - ⌊q⌋ < 1 / 2 then ⌊q⌋
  else if 1 / 2 < q - ⌊q⌋ then ⌊q⌋ + 1
  else if ⌊q⌋ % 2 = 0 then ⌊q⌋
  else ⌊q⌋ + 1

/-- The distance of the doubles around `q`. -/
def unitInLastPlace (q : ℚ) : ℚ := 2 ^ (max (Int.log 2 |q|) (-1022) - 52)

/-- The absolute value of the double nearest to `q`. -/
def nearestMagnitude (q : ℚ) : ℚ := roundEven (|q| / unitInLastPlace q) * unitInLastPlace q

namespace Double

/-- The double nearest to `q`. -/
def ofRat (q : ℚ) : Double :=
  if q = 0 then .value 0
  else if 2 ^ 1024 ≤ nearestMagnitude q then .infinity (q < 0)
  else .value (if q < 0 then -nearestMagnitude q else nearestMagnitude q)

/-- The integer that a double is. -/
def integer? : Double → Option ℤ
  | .value q => if q.den = 1 then some q.num else none
  | _ => none

/-- `Number.isSafeInteger`, with the integer. -/
def safeInteger? (x : Double) : Option ℤ :=
  x.integer?.filter fun n => n.natAbs ≤ 2 ^ 53 - 1

end Double

/-! ## 2. Texts -/

/-- `s.trim()`. -/
def trim (s : JsString) : JsString := strip isSpaceUnit s

def ofUnits (radix : Nat) (s : JsString) : Nat := s.foldl (fun n u => n * radix + unitValue u) 0

/-- The radix of a text that begins with `0x`, `0o` or `0b`. -/
def radixOf (s : JsString) : Option Nat :=
  if s.take 2 = js "0x" ∨ s.take 2 = js "0X" then some 16
  else if s.take 2 = js "0o" ∨ s.take 2 = js "0O" then some 8
  else if s.take 2 = js "0b" ∨ s.take 2 = js "0B" then some 2
  else none

/-- What stands behind the digits of a number: nothing, or `e` and an integer. -/
def exponentPart : JsString → Option ℤ
  | [] => some 0
  | u :: s =>
    let digits := if s.head? = some 45 ∨ s.head? = some 43 then s.tail else s
    if (u = 101 ∨ u = 69) ∧ digits ≠ [] ∧ digits.all isDigitUnit then
      some (if s.head? = some 45 then -(ofUnits 10 digits : ℤ) else ofUnits 10 digits)
    else none

/-- A decimal number without its sign. -/
def unsignedDecimal (s : JsString) : Option ℚ :=
  let whole := s.takeWhile isDigitUnit
  let behind := s.dropWhile isDigitUnit
  let point := behind.head? = some 46
  let fraction := if point then behind.tail.takeWhile isDigitUnit else []
  let behind := if point then behind.tail.dropWhile isDigitUnit else behind
  if whole = [] ∧ fraction = [] then none
  else (exponentPart behind).map fun exponent : ℤ =>
    (ofUnits 10 (whole ++ fraction) * 10 ^ (exponent - fraction.length) : ℚ)

/-- `Number(s)`. -/
def number (s : JsString) : Double :=
  let text := trim s
  if text = [] then .value 0
  else match radixOf text with
    | some radix =>
      if text.drop 2 ≠ [] ∧ (text.drop 2).all (isDigitUnitOf radix) then
        .ofRat (ofUnits radix (text.drop 2))
      else .nan
    | none =>
      let negative := text.head? = some 45
      let text := if negative ∨ text.head? = some 43 then text.tail else text
      if text = js "Infinity" then .infinity negative
      else match unsignedDecimal text with
        | some q => .ofRat (if negative then -q else q)
        | none => .nan

example : (["9993", " 0x2709 ", "9.993e3", "+9992.9999999999999999"].map fun s =>
    number (js s)) = List.replicate 4 (.value 9993) := by decide +kernel

/-! ## 3. Rounding -/

theorem le_roundEven {q : ℚ} {n : ℤ} (h : (n : ℚ) ≤ q) : n ≤ roundEven q := by
  have hfloor := Int.le_floor.mpr h
  unfold roundEven
  split
  · exact hfloor
  · split
    · omega
    · split <;> omega

/-- **No power of two is rounded across.** -/
theorem two_pow_le_nearestMagnitude {q : ℚ} {k : Nat} (h : 2 ^ k ≤ q) :
    2 ^ k ≤ nearestMagnitude q := by
  have hpos : 0 < q := lt_of_lt_of_le (by positivity) h
  have hlog : (k : ℤ) ≤ Int.log 2 q :=
    (Int.zpow_le_iff_le_log (by decide) hpos).mp (by simpa using h)
  have hunit : unitInLastPlace q = 2 ^ (Int.log 2 q - 52) := by
    unfold unitInLastPlace
    rw [abs_of_pos hpos, max_eq_left (by omega)]
  have hscale : (2 : ℚ) ^ (52 : Nat) * 2 ^ (Int.log 2 q - 52) = 2 ^ Int.log 2 q := by
    rw [← zpow_natCast, ← zpow_add₀ (by norm_num)]
    congr 1
    omega
  have hulp : (0 : ℚ) < 2 ^ (Int.log 2 q - 52) := zpow_pos (by norm_num) _
  have hround : ((2 ^ 52 : ℤ) : ℚ) ≤ q / 2 ^ (Int.log 2 q - 52) := by
    rw [le_div_iff₀ hulp, Int.cast_pow, Int.cast_ofNat, hscale]
    exact Int.zpow_log_le_self (by decide) hpos
  have hmagnitude : (2 : ℚ) ^ (52 : Nat) ≤ (roundEven (q / 2 ^ (Int.log 2 q - 52)) : ℚ) := by
    exact_mod_cast le_roundEven hround
  unfold nearestMagnitude
  rw [abs_of_pos hpos, hunit]
  calc (2 : ℚ) ^ k = 2 ^ (k : ℤ) := (zpow_natCast 2 k).symm
    _ ≤ 2 ^ Int.log 2 q := zpow_le_zpow_right₀ (by norm_num) hlog
    _ = 2 ^ (52 : Nat) * 2 ^ (Int.log 2 q - 52) := hscale.symm
    _ ≤ _ := mul_le_mul_of_nonneg_right hmagnitude hulp.le

theorem two_pow_le_of_integer? {q : ℚ} {k : Nat} {n : ℤ} (hq : 2 ^ k ≤ q)
    (hn : (Double.ofRat q).integer? = some n) : 2 ^ k ≤ n := by
  have hpos : 0 < q := lt_of_lt_of_le (by positivity) hq
  unfold Double.ofRat at hn
  rw [if_neg hpos.ne'] at hn
  split at hn
  · cases hn
  · rw [if_neg hpos.not_gt] at hn
    change (if (nearestMagnitude q).den = 1 then some _ else none) = some n at hn
    split at hn
    · next hden =>
      obtain rfl := Option.some.inj hn
      have hvalue : (((nearestMagnitude q).num : ℤ) : ℚ) = nearestMagnitude q :=
        Rat.coe_int_num_of_den_eq_one hden
      have hle := two_pow_le_nearestMagnitude hq
      rw [← hvalue] at hle
      exact_mod_cast hle
    · cases hn

theorem roundEven_intCast (n : ℤ) : roundEven n = n := by
  unfold roundEven
  rw [Int.floor_intCast, if_pos (by norm_num)]

/-- **Integers below 2^53** are not rounded. -/
theorem ofRat_natCast {n : Nat} (h : n < 2 ^ 53) : Double.ofRat n = .value n := by
  by_cases hn : n = 0
  · subst hn
    rfl
  · have hlog : Nat.log 2 n < 53 := Nat.log_lt_of_lt_pow hn h
    have hunit : unitInLastPlace n = 2 ^ ((Nat.log 2 n : ℤ) - 52) := by
      unfold unitInLastPlace
      rw [Nat.abs_cast, Int.log_natCast, max_eq_left (by omega)]
    have hscale : (2 : ℚ) ^ (52 - Nat.log 2 n) * 2 ^ ((Nat.log 2 n : ℤ) - 52) = 1 := by
      rw [← zpow_natCast, ← zpow_add₀ (by norm_num)]
      have hzero : ((52 - Nat.log 2 n : ℕ) : ℤ) + ((Nat.log 2 n : ℤ) - 52) = 0 := by omega
      rw [hzero, zpow_zero]
    have hulp : (2 : ℚ) ^ ((Nat.log 2 n : ℤ) - 52) ≠ 0 := zpow_ne_zero _ (by norm_num)
    have hquotient : (n : ℚ) / 2 ^ ((Nat.log 2 n : ℤ) - 52) =
        ((n * 2 ^ (52 - Nat.log 2 n) : ℤ) : ℚ) := by
      rw [div_eq_iff hulp]
      push_cast
      rw [mul_assoc, hscale, mul_one]
    have hnearest : nearestMagnitude n = n := by
      unfold nearestMagnitude
      rw [Nat.abs_cast, hunit, hquotient, roundEven_intCast]
      push_cast
      rw [mul_assoc, hscale, mul_one]
    have hlarge : ¬(2 : ℚ) ^ 1024 ≤ n := by
      rw [not_le]
      exact_mod_cast h.trans (Nat.pow_lt_pow_right (by decide) (by decide))
    unfold Double.ofRat
    rw [if_neg (by exact_mod_cast hn), hnearest, if_neg hlarge, if_neg (by simp)]

theorem roundEven_le {q : ℚ} {n : ℤ} (h : q ≤ n) : roundEven q ≤ n := by
  have hfloor : ⌊q⌋ ≤ n := by exact_mod_cast (Int.floor_le q).trans h
  have hlt : ¬q - ⌊q⌋ < 1 / 2 → ⌊q⌋ < n := by
    intro hhalf
    have hq : (⌊q⌋ : ℚ) < n := by linarith
    exact_mod_cast hq
  unfold roundEven
  split
  · exact hfloor
  · next hhalf =>
    have := hlt hhalf
    split
    · omega
    · split <;> omega

theorem nearestMagnitude_nonneg (q : ℚ) : 0 ≤ nearestMagnitude q := by
  have hunit : 0 < unitInLastPlace q := zpow_pos (by norm_num) _
  have hround : (0 : ℤ) ≤ roundEven (|q| / unitInLastPlace q) :=
    le_roundEven (by simpa using div_nonneg (abs_nonneg q) hunit.le)
  exact mul_nonneg (by exact_mod_cast hround) hunit.le

/-- **No number is rounded across an integer below 2^53.** -/
theorem nearestMagnitude_le {q : ℚ} {n : Nat} (hpos : 0 < q) (hq : q ≤ n) (hn : n < 2 ^ 53) :
    nearestMagnitude q ≤ n := by
  have hlog : Int.log 2 q ≤ 52 := by
    have hlt : q < ((2 : ℕ) : ℚ) ^ (53 : ℤ) := by
      refine lt_of_le_of_lt hq ?_
      exact_mod_cast hn
    exact Int.lt_add_one_iff.mp ((Int.lt_zpow_iff_log_lt (by decide) hpos).mp hlt)
  obtain ⟨k, hk⟩ : ∃ k : Nat, max (Int.log 2 q) (-1022) - 52 = -(k : ℤ) :=
    ⟨(52 - max (Int.log 2 q) (-1022)).toNat, by omega⟩
  have hunit : unitInLastPlace q = (2 ^ k)⁻¹ := by
    unfold unitInLastPlace
    rw [abs_of_pos hpos, hk, zpow_neg, zpow_natCast]
  have hround : roundEven (q / (2 ^ k)⁻¹) ≤ (n * 2 ^ k : ℤ) := by
    refine roundEven_le ?_
    rw [div_inv_eq_mul]
    push_cast
    exact mul_le_mul_of_nonneg_right hq (by positivity)
  have hround' : (roundEven (q / (2 ^ k)⁻¹) : ℚ) ≤ n * 2 ^ k := by exact_mod_cast hround
  unfold nearestMagnitude
  rw [abs_of_pos hpos, hunit]
  calc (roundEven (q / (2 ^ k)⁻¹) : ℚ) * (2 ^ k)⁻¹ ≤ n * 2 ^ k * (2 ^ k)⁻¹ :=
        mul_le_mul_of_nonneg_right hround' (by positivity)
    _ = n := mul_inv_cancel_right₀ (by positivity) _

theorem ofRat_between {q : ℚ} {n : Nat} (hpos : 0 ≤ q) (hq : q ≤ n) (hn : n < 2 ^ 53) :
    ∃ p, Double.ofRat q = .value p ∧ 0 ≤ p ∧ p ≤ n := by
  rcases hpos.eq_or_lt with rfl | hpos
  · exact ⟨0, rfl, le_refl _, hq⟩
  · have hle := nearestMagnitude_le hpos hq hn
    have hlarge : ¬(2 : ℚ) ^ 1024 ≤ nearestMagnitude q := by
      rw [not_le]
      refine lt_of_le_of_lt hle ?_
      exact_mod_cast hn.trans (Nat.pow_lt_pow_right (by decide) (by decide))
    refine ⟨nearestMagnitude q, ?_, nearestMagnitude_nonneg q, hle⟩
    unfold Double.ofRat
    rw [if_neg hpos.ne', if_neg hlarge, if_neg hpos.not_gt]

/-! ## 4. Decimal digits -/

/-- A digit is no space, sign or letter. -/
theorem not_special_of_isDigitUnit {u : UInt16} (hu : isDigitUnit u = true) :
    isSpaceUnit u = false ∧ u ≠ 45 ∧ u ≠ 43 ∧ u < 58 := by
  unfold isDigitUnit at hu
  simp only [Bool.and_eq_true, decide_eq_true_eq, UInt16.le_iff_toNat_le] at hu
  have hlow : 48 ≤ u.toNat := hu.1
  have hhigh : u.toNat ≤ 57 := hu.2
  have hne : ∀ v : UInt16, v.toNat < 48 ∨ 57 < v.toNat → u ≠ v := by
    rintro v hv rfl
    omega
  refine ⟨?_, hne _ (by decide), hne _ (by decide), UInt16.lt_iff_toNat_lt.mpr ?_⟩
  · unfold isSpaceUnit isWhiteSpace
    simp only [Bool.or_eq_false_iff, Bool.and_eq_false_iff, decide_eq_false_iff_not,
      beq_eq_false_iff_ne]
    omega
  · exact Nat.lt_succ_of_le hhigh

theorem radixOf_eq_none {s : JsString} (h : ∀ u ∈ s, u < 58) : radixOf s = none := by
  have hne : ∀ u : UInt16, ¬u < 58 → s.take 2 ≠ [48, u] := by
    intro u hu heq
    have hmem : u ∈ s.take 2 := by simp [heq]
    exact hu (h u (List.mem_of_mem_take hmem))
  unfold radixOf
  rw [if_neg, if_neg, if_neg]
  · exact not_or.mpr ⟨hne 98 (by decide), hne 66 (by decide)⟩
  · exact not_or.mpr ⟨hne 111 (by decide), hne 79 (by decide)⟩
  · exact not_or.mpr ⟨hne 120 (by decide), hne 88 (by decide)⟩

theorem unsignedDecimal_digits {s : JsString} (hne : s ≠ []) (hs : ∀ u ∈ s, isDigitUnit u = true) :
    unsignedDecimal s = some (ofUnits 10 s : ℚ) := by
  have htake : s.takeWhile isDigitUnit = s := List.takeWhile_eq_self_iff.mpr hs
  have hdrop : s.dropWhile isDigitUnit = [] := List.dropWhile_eq_nil_iff.mpr hs
  unfold unsignedDecimal
  simp [htake, hdrop, hne, exponentPart]

/-- **Decimal digits** are read as the number that they write, and rounded. -/
theorem number_digits {s : JsString} (hne : s ≠ []) (hs : ∀ u ∈ s, isDigitUnit u = true) :
    number s = .ofRat (ofUnits 10 s) := by
  have hplain := fun u hu => not_special_of_isDigitUnit (hs u hu)
  have htrim : trim s = s := strip_eq_self fun u hu => (hplain u hu).1
  have hradix := radixOf_eq_none fun u hu => (hplain u hu).2.2.2
  have hhead : ∀ v : UInt16, isDigitUnit v = false → s.head? ≠ some v := by
    intro v hv hhead
    rw [hs v (List.mem_of_mem_head? hhead)] at hv
    cases hv
  have hword : s ≠ js "Infinity" := by
    rintro rfl
    exact absurd (hs 73 (by decide)) (by decide)
  unfold number
  rw [htrim, if_neg hne, hradix]
  simp only [hhead 45 (by decide), hhead 43 (by decide), hword, decide_false, or_self, if_false,
    unsignedDecimal_digits hne hs]

/-- **What is read as a small number is one.** -/
theorem ofUnits_lt_of_number {s : JsString} (hne : s ≠ []) (hs : ∀ u ∈ s, isDigitUnit u = true)
    {k : Nat} {n : ℤ} (hn : (number s).integer? = some n) (hlt : n < 2 ^ k) :
    ofUnits 10 s < 2 ^ k := by
  rw [number_digits hne hs] at hn
  by_contra hge
  have hpow : (2 : ℚ) ^ k ≤ (ofUnits 10 s : ℚ) := by exact_mod_cast Nat.not_lt.mp hge
  exact absurd hlt (not_lt.mpr (two_pow_le_of_integer? hpow hn))

/-! ## 5. What is no number -/

theorem mem_dropWhile_of_mem {α : Type} {p : α → Bool} {a : α} {s : List α} (ha : p a = false)
    (h : a ∈ s) : a ∈ s.dropWhile p := by
  rw [← List.takeWhile_append_dropWhile (p := p) (l := s), List.mem_append] at h
  rcases h with h | h
  · rw [List.mem_takeWhile_imp h] at ha
    cases ha
  · exact h

theorem mem_tail_of_ne_head {α : Type} {a b : α} {s : List α} (hne : a ≠ b) (hb : s.head? = some b)
    (h : a ∈ s) : a ∈ s.tail := by
  cases s with
  | nil => cases h
  | cons c s =>
    obtain rfl : c = b := Option.some.inj hb
    exact (List.mem_cons.mp h).resolve_left hne

theorem exponentPart_of_colon {s : JsString} (h : 58 ∈ s) : exponentPart s = none := by
  cases s with
  | nil => cases h
  | cons u s =>
    unfold exponentPart
    refine if_neg ?_
    rintro ⟨hu, -, hdigits⟩
    have hrest : 58 ∈ s := by
      refine (List.mem_cons.mp h).resolve_left ?_
      rintro rfl
      exact absurd hu (by decide)
    have hmem : 58 ∈ (if s.head? = some 45 ∨ s.head? = some 43 then s.tail else s) := by
      split
      · next hsign =>
        rcases hsign with hsign | hsign
        · exact mem_tail_of_ne_head (by decide) hsign hrest
        · exact mem_tail_of_ne_head (by decide) hsign hrest
      · exact hrest
    exact absurd (List.all_eq_true.mp hdigits _ hmem) (by decide)

theorem unsignedDecimal_of_colon {s : JsString} (h : 58 ∈ s) : unsignedDecimal s = none := by
  have hdigit : isDigitUnit 58 = false := by decide
  have hbehind := mem_dropWhile_of_mem hdigit h
  have hrest : 58 ∈ (if (s.dropWhile isDigitUnit).head? = some 46
      then (s.dropWhile isDigitUnit).tail.dropWhile isDigitUnit else s.dropWhile isDigitUnit) := by
    split
    · next hpoint =>
      exact mem_dropWhile_of_mem hdigit (mem_tail_of_ne_head (by decide) hpoint hbehind)
    · exact hbehind
  simp only [unsignedDecimal, exponentPart_of_colon hrest, Option.map_none, ite_self]

theorem drop_of_radixOf {s : JsString} {radix : Nat} (hradix : radixOf s = some radix)
    (h : 58 ∈ s) :
    58 ∈ s.drop 2 := by
  have htake : 58 ∉ s.take 2 := by
    intro hmem
    unfold radixOf at hradix
    split at hradix
    · next hs => rcases hs with hs | hs <;> exact absurd (hs ▸ hmem) (by decide)
    · split at hradix
      · next hs => rcases hs with hs | hs <;> exact absurd (hs ▸ hmem) (by decide)
      · split at hradix
        · next hs => rcases hs with hs | hs <;> exact absurd (hs ▸ hmem) (by decide)
        · cases hradix
  rw [← List.take_append_drop 2 s, List.mem_append] at h
  exact h.resolve_left htake

/-- **No number is written with a colon.** -/
theorem number_of_colon {s : JsString} (h : 58 ∈ s) : number s = .nan := by
  have htext : 58 ∈ trim s := by
    obtain ⟨before, after, rfl⟩ := List.append_of_mem h
    have hcolon : isSpaceUnit 58 = false := by decide
    unfold trim
    rw [strip_append_cons hcolon]
    exact List.mem_append_right _ List.mem_cons_self
  have hne : trim s ≠ [] := List.ne_nil_of_mem htext
  unfold number
  rw [if_neg hne]
  split
  · next radix hradix =>
    refine if_neg ?_
    rintro ⟨-, hdigits⟩
    have hdigit := List.all_eq_true.mp hdigits _ (drop_of_radixOf hradix htext)
    rw [isDigitUnitOf, show isAlnumUnit 58 = false by decide] at hdigit
    cases hdigit
  · have hsign : 58 ∈ (if (trim s).head? = some 45 ∨ (trim s).head? = some 43 then (trim s).tail
        else trim s) := by
      split
      · next hsign =>
        rcases hsign with hsign | hsign
        · exact mem_tail_of_ne_head (by decide) hsign htext
        · exact mem_tail_of_ne_head (by decide) hsign htext
      · exact htext
    dsimp only
    rw [if_neg, unsignedDecimal_of_colon hsign]
    intro hword
    rw [hword] at hsign
    exact absurd hsign (by decide)

end ZtPlanet.Js
