/-
# Numbers of texts, and their bits

`Number` of a text that is a list of code points, and what is computed with the number.  The bitwise
operators cut off its fraction and see the rest modulo 2^32; NaN and the infinities are 0 to them.

Decimal digits are read as what they write (`numberOf_digits`), and a text with a colon is no number
(`numberOf_of_colon`).  The units of a text are split where the text is (`splitOn_units`).
-/
import ZtPlanet.Js.Double
import ZtPlanet.Js.Number
import ZtPlanet.Python.Decimal

namespace ZtPlanet.Js

open ZtPlanet.Lib ZtPlanet.Python

/-! ## 1. `Number` -/

/-- The UTF-16 units of a code point. -/
def unitsOf (c : CodePoint) : JsString :=
  if c.val < 0x10000 then [UInt16.ofNat c.val]
  else [UInt16.ofNat (0xD800 + (c.val - 0x10000) / 0x400),
    UInt16.ofNat (0xDC00 + (c.val - 0x10000) % 0x400)]

/-- The UTF-16 units of a text. -/
def units (s : PyStr) : JsString := s.flatMap unitsOf

/-- `Number(s)`. -/
def numberOf (s : PyStr) : Double := number (units s)

namespace Double

/-- What the bitwise operators see of a number. -/
def bits : Double → BitVec 32
  | .value q => BitVec.ofInt 32 (if q < 0 then ⌈q⌉ else ⌊q⌋)
  | _ => 0

/-- `x | 0`. -/
def int32 (x : Double) : Js.Num := Js.Num.ofBits x.bits

/-- `x + y`. -/
def add : Double → Double → Double
  | .nan, _ | _, .nan => .nan
  | .infinity a, .infinity b => if a = b then .infinity a else .nan
  | .infinity a, .value _ | .value _, .infinity a => .infinity a
  | .value p, .value q => .ofRat (p + q)

/-- `x * y`. -/
def mul : Double → Double → Double
  | .nan, _ | _, .nan => .nan
  | .infinity a, .infinity b => .infinity (a != b)
  | .infinity a, .value q | .value q, .infinity a =>
    if q = 0 then .nan else .infinity (a != decide (q < 0))
  | .value p, .value q => .ofRat (p * q)

theorem int32_natCast (n : Nat) : int32 (.value n) = Js.Num.ofBits (BitVec.ofNat 32 n) := by
  have hbits : bits (.value n) = BitVec.ofInt 32 (if (n : ℚ) < 0 then ⌈(n : ℚ)⌉ else ⌊(n : ℚ)⌋) :=
    rfl
  unfold int32
  rw [hbits, if_neg (by simp), Int.floor_natCast, BitVec.ofInt_natCast]

/-- A step of the reading of digits in base 256. -/
theorem mul_add_natCast {m n : Nat} (h : m * 256 + n < 2 ^ 53) :
    add (mul (.value m) (.value 256)) (.value n) = .value ((m * 256 + n : Nat) : ℚ) := by
  have hmul : mul (.value m) (.value 256) = .value ((m * 256 : Nat) : ℚ) := by
    rw [← ofRat_natCast (Nat.lt_of_le_of_lt (Nat.le_add_right _ _) h)]
    simp [mul]
  rw [hmul, ← ofRat_natCast h]
  simp [add]

end Double

/-! ## 2. Digits and colons -/

theorem unitsOf_of_lt {c : CodePoint} (h : c.val < 0x10000) : unitsOf c = [UInt16.ofNat c.val] :=
  if_pos h

theorem units_ne_nil {s : PyStr} (h : s ≠ []) : units s ≠ [] := by
  cases s with
  | nil => exact absurd rfl h
  | cons c s =>
    unfold units unitsOf
    rw [List.flatMap_cons]
    split <;> exact List.cons_ne_nil _ _

/-- A digit is one unit, with the same value. -/
theorem unitsOf_digit {c : CodePoint} (hc : isAsciiDigit c = true) :
    ∃ u, unitsOf c = [u] ∧ isDigitUnit u = true ∧ unitValue u = digitValue c := by
  unfold isAsciiDigit at hc
  rw [Bool.and_eq_true, decide_eq_true_eq, decide_eq_true_eq] at hc
  have hval : (UInt16.ofNat c.val).toNat = c.val := by
    rw [UInt16.toNat_ofNat']
    omega
  have hhigh : UInt16.ofNat c.val ≤ 57 := by
    rw [UInt16.le_iff_toNat_le, hval]
    exact hc.2
  have hlow : 48 ≤ UInt16.ofNat c.val := by
    rw [UInt16.le_iff_toNat_le, hval]
    exact hc.1
  refine ⟨_, unitsOf_of_lt (by omega), ?_, ?_⟩
  · unfold isDigitUnit
    rw [Bool.and_eq_true, decide_eq_true_eq, decide_eq_true_eq]
    exact ⟨hlow, hhigh⟩
  · unfold unitValue digitValue
    rw [if_pos hhigh, if_pos hc.2, hval]

theorem ofUnits_units {s : PyStr} (hs : ∀ c ∈ s, isAsciiDigit c = true) :
    (∀ u ∈ units s, isDigitUnit u = true) ∧ ofUnits 10 (units s) = ofDigits 10 s := by
  have hfold : ∀ (s : PyStr) (n : Nat), (∀ c ∈ s, isAsciiDigit c = true) →
      (units s).foldl (fun n u => n * 10 + unitValue u) n =
        s.foldl (fun n c => 10 * n + digitValue c) n := by
    intro s
    induction s with
    | nil => exact fun n _ => rfl
    | cons c s ih =>
      intro n hs
      obtain ⟨u, hu, -, hvalue⟩ := unitsOf_digit (hs c List.mem_cons_self)
      have ih := ih (10 * n + digitValue c) fun c hc => hs c (List.mem_cons_of_mem _ hc)
      unfold units at ih ⊢
      rw [List.flatMap_cons, hu, List.singleton_append, List.foldl_cons, List.foldl_cons, hvalue,
        Nat.mul_comm n, ih]
  refine ⟨fun u hu => ?_, hfold s 0 hs⟩
  obtain ⟨c, hc, hu⟩ := List.mem_flatMap.mp hu
  obtain ⟨v, hv, hdigit, -⟩ := unitsOf_digit (hs c hc)
  rw [hv, List.mem_singleton] at hu
  rw [hu]
  exact hdigit

/-- **Decimal digits** of an integer that a double holds. -/
theorem numberOf_digits {s : PyStr} (hne : s ≠ []) (hs : ∀ c ∈ s, isAsciiDigit c = true)
    (hlt : ofDigits 10 s < 2 ^ 53) : numberOf s = .value (ofDigits 10 s : ℚ) := by
  obtain ⟨hdigits, hvalue⟩ := ofUnits_units hs
  unfold numberOf
  rw [number_digits (units_ne_nil hne) hdigits, hvalue, ofRat_natCast hlt]

theorem numberOf_decimal {n : Nat} (h : n < 2 ^ 53) :
    numberOf (Python.decimal n) = .value (n : ℚ) := by
  have hvalue : ofDigits 10 (Python.decimal n) = n := ofDigits_decimal n
  rw [numberOf_digits (decimal_ne_nil n) (fun _ hc => isAsciiDigit_of_mem_decimal hc)
    (hvalue.symm ▸ h), hvalue]

/-- **A text with a colon** is no number. -/
theorem numberOf_of_colon {s : PyStr} (h : ch ':' ∈ s) : numberOf s = .nan := by
  have hcolon : (58 : UInt16) ∈ unitsOf (ch ':') := by decide
  exact number_of_colon (List.mem_flatMap.mpr ⟨_, h, hcolon⟩)

/-! ## 3. Units and separators -/

theorem mem_unitsOf_iff {sep c : CodePoint} (hsep : sep.val < 0xD800) :
    UInt16.ofNat sep.val ∈ unitsOf c ↔ c = sep := by
  have htoNat {n : Nat} (hn : n < 0x10000) : (UInt16.ofNat n).toNat = n := by
    rw [UInt16.toNat_ofNat', Nat.mod_eq_of_lt hn]
  have hc := c.isLt
  unfold unitsOf
  split
  · next hlt =>
    rw [List.mem_singleton, ← UInt16.toNat_inj, htoNat (by omega), htoNat hlt, Fin.ext_iff]
    exact eq_comm
  · -- the halves of a pair are no separator
    rw [List.mem_cons, List.mem_singleton, ← UInt16.toNat_inj, ← UInt16.toNat_inj,
      htoNat (by omega),
      htoNat (by omega), htoNat (by omega), Fin.ext_iff]
    omega

theorem mem_units_iff {sep : CodePoint} (hsep : sep.val < 0xD800) {s : PyStr} :
    UInt16.ofNat sep.val ∈ units s ↔ sep ∈ s := by
  unfold units
  rw [List.mem_flatMap]
  constructor
  · rintro ⟨c, hc, hmem⟩
    rwa [← (mem_unitsOf_iff hsep).mp hmem]
  · exact fun hmem => ⟨sep, hmem, (mem_unitsOf_iff hsep).mpr rfl⟩

theorem splitOn_units {sep : CodePoint} (hsep : sep.val < 0xD800) (s : PyStr) :
    (units s).splitOn (UInt16.ofNat sep.val) = (split s sep).map units := by
  unfold split
  induction s with
  | nil => rfl
  | cons c s ih =>
    have hunits : units (c :: s) = unitsOf c ++ units s := List.flatMap_cons
    rw [hunits, List.splitOn_cons_eq_if_modifyHead]
    by_cases hc : c = sep
    · rw [if_pos (by simpa using hc), hc, unitsOf_of_lt (by omega), List.singleton_append,
        List.splitOn_cons_eq_if_modifyHead, if_pos (by simp), ih]
      rfl
    · have hnot : UInt16.ofNat sep.val ∉ unitsOf c :=
        fun hmem => hc ((mem_unitsOf_iff hsep).mp hmem)
      rw [if_neg (by simpa using hc), splitOn_append_of_notMem hnot, ih]
      cases s.splitOn sep with
      | nil => rfl
      | cons field fields =>
        rw [List.map_cons, List.modifyHead_cons, List.modifyHead_cons, List.map_cons]
        rfl

end ZtPlanet.Js
