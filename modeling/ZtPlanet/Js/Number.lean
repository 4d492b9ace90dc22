/-
# JavaScript numbers

Integers and NaN, as far as address arithmetic needs them: none of what is computed with them here
leaves the integers that a double holds exactly.  The bitwise operators see a number modulo 2^32,
NaN as 0, and answer with a signed number; `>>>` answers with an unsigned one.

`parseInt` and `toString` convert from and to texts.  A text is a list of code points.
-/
import Mathlib.Algebra.Group.Nat.Defs
import ZtPlanet.Js.Text

namespace ZtPlanet.Js

open ZtPlanet.Python

/-! ## 1. Arithmetic -/

/-- A number that is an integer, or NaN. -/
abbrev Num := Option Int

namespace Num

/-- `x + y`. -/
def add (x y : Num) : Num := do return (← x) + (← y)

/-- `x - y`. -/
def sub (x y : Num) : Num := do return (← x) - (← y)

/-- `x >= y`, false where one of them is NaN. -/
def ge (x y : Num) : Bool :=
  match x, y with
  | some x, some y => x ≥ y
  | _, _ => false

/-- `x <= y`, false where one of them is NaN. -/
def le (x y : Num) : Bool :=
  match x, y with
  | some x, some y => x ≤ y
  | _, _ => false

/-- What the bitwise operators see of a number. -/
def bits (x : Num) : BitVec 32 := BitVec.ofInt 32 (x.getD 0)

/-- A signed result. -/
def ofBits (b : BitVec 32) : Num := some b.toInt

/-- `x << n`. -/
def shiftLeft (x n : Num) : Num := ofBits (x.bits <<< (n.bits.toNat % 32))

/-- `x >>> n`. -/
def shiftRight (x n : Num) : Num := some (x.bits >>> (n.bits.toNat % 32)).toNat

/-- `x >> n`. -/
def signedShiftRight (x n : Num) : Num := ofBits (x.bits.sshiftRight (n.bits.toNat % 32))

/-- `x | y`. -/
def or (x y : Num) : Num := ofBits (x.bits ||| y.bits)

/-- `x & y`. -/
def and (x y : Num) : Num := ofBits (x.bits &&& y.bits)

/-- `~x`. -/
def not (x : Num) : Num := ofBits (~~~x.bits)

@[simp] theorem bits_ofBits (b : BitVec 32) : (ofBits b).bits = b := BitVec.ofInt_toInt

@[simp] theorem bits_toNat (b : BitVec 32) : bits (some (b.toNat : Int)) = b := by
  unfold bits
  rw [Option.getD_some, BitVec.ofInt_natCast, BitVec.ofNat_toNat, BitVec.setWidth_eq]

/-- A sum is a sum modulo 2^32. -/
theorem bits_add_some (x y : Int) : bits (add (some x) (some y)) = bits (some x) + bits (some y) :=
  BitVec.ofInt_add x y

end Num

/-! ## 2. Texts of numbers -/

/-- White space, as `parseInt` skips it and `trim` removes it. -/
def isSpace (c : CodePoint) : Bool := isWhiteSpace c.val

/-- A digit of a radix up to 16. -/
def isDigitOf (radix : Nat) (c : CodePoint) : Bool := isHexDigit c && decide (digitValue c < radix)

/-- The number that a text of digits begins with. -/
def leadingDigits (radix : Nat) (s : PyStr) : Option Nat :=
  match s.takeWhile (isDigitOf radix) with
  | [] => none
  | digits => some (ofDigits radix digits)

/-- `0x` or `0X`. -/
def beginsHex (s : PyStr) : Bool := s.take 2 == py "0x" || s.take 2 == py "0X"

/-- `parseInt(s, radix)`; no radix is 10, or 16 behind `0x`. -/
def parseInt (s : PyStr) (radix : Option Nat) : Num :=
  let text := s.dropWhile isSpace
  let negative := text.head? == some (ch '-')
  let text := if negative || text.head? == some (ch '+') then text.tail else text
  let hex := beginsHex text && (radix == none || radix == some 16)
  let value : Option Nat :=
    if hex then leadingDigits 16 (text.drop 2) else leadingDigits (radix.getD 10) text
  value.map fun (n : Nat) => if negative then -(n : Int) else n

/-- `x.toString(radix)`. -/
def toString (x : Num) (radix : Nat) : PyStr :=
  match x with
  | none => py "NaN"
  | some x =>
    let digits := (Nat.toDigits radix x.natAbs).map ofChar
    if x < 0 then ch '-' :: digits else digits

/-- `s.padEnd(length, c)`. -/
def padEnd (s : PyStr) (length : Nat) (c : CodePoint) : PyStr :=
  s ++ List.replicate (length - s.length) c

theorem isDigitOf_of_isAsciiDigit :
    ∀ c : CodePoint, isAsciiDigit c = true → isDigitOf 10 c = true := by
  intro c hc
  unfold isAsciiDigit at hc
  rw [Bool.and_eq_true, decide_eq_true_iff, decide_eq_true_iff] at hc
  unfold isDigitOf isHexDigit isAsciiDigit digitValue
  rw [if_pos hc.2]
  simp only [hc.1, hc.2, decide_true, Bool.true_and, Bool.true_or, decide_eq_true_eq]
  omega

/-- What stands behind the digits is not read. -/
theorem leadingDigits_append {s rest : PyStr} (hne : s ≠ []) (hs : ∀ c ∈ s, isAsciiDigit c = true)
    (hrest : ∀ c, rest.head? = some c → isDigitOf 10 c = false) :
    leadingDigits 10 (s ++ rest) = some (ofDigits 10 s) := by
  have hdigits : (s ++ rest).takeWhile (isDigitOf 10) = s := by
    rw [List.takeWhile_append_of_pos fun c hc => isDigitOf_of_isAsciiDigit c (hs c hc)]
    cases rest with
    | nil => simp
    | cons c rest =>
      rw [List.takeWhile_cons_of_neg (by rw [hrest c rfl]; exact Bool.false_ne_true)]
      exact List.append_nil s
  unfold leadingDigits
  rw [hdigits]
  cases s with
  | nil => exact absurd rfl hne
  | cons c s => rfl

/-- A digit is no space, sign or letter. -/
theorem not_special_of_isAsciiDigit {c : CodePoint} (hc : isAsciiDigit c = true) :
    isSpace c = false ∧ c ≠ ch '-' ∧ c ≠ ch '+' ∧ c ≠ ch 'x' ∧ c ≠ ch 'X' := by
  unfold isAsciiDigit at hc
  rw [Bool.and_eq_true, decide_eq_true_iff, decide_eq_true_iff] at hc
  have hne : ∀ d : CodePoint, d.val < 48 ∨ 57 < d.val → c ≠ d := by
    rintro d hd rfl
    omega
  refine ⟨?_, hne _ (by decide), hne _ (by decide), hne _ (by decide), hne _ (by decide)⟩
  unfold isSpace isWhiteSpace
  simp only [Bool.or_eq_false_iff, Bool.and_eq_false_iff, decide_eq_false_iff_not,
    beq_eq_false_iff_ne]
  omega

/-- No hexadecimal number begins with a text whose second character is no `x`. -/
theorem beginsHex_eq_false {c : CodePoint} {s : PyStr}
    (h : ∀ d, s.head? = some d → d ≠ ch 'x' ∧ d ≠ ch 'X') : beginsHex (c :: s) = false := by
  unfold beginsHex
  cases s with
  | nil =>
    simp [py_eq_map]
  | cons d s =>
    obtain ⟨hx, hX⟩ := h d rfl
    simp [py_eq_map, hx, hX]

/-- **Decimal numbers** are read as such, with or without a radix. -/
theorem parseInt_append {s rest : PyStr} (hne : s ≠ []) (hs : ∀ c ∈ s, isAsciiDigit c = true)
    (hrest : ∀ c, rest.head? = some c → isDigitOf 10 c = false ∧ c ≠ ch 'x' ∧ c ≠ ch 'X')
    {radix : Option Nat} (hradix : radix = none ∨ radix = some 10) :
    parseInt (s ++ rest) radix = some (ofDigits 10 s : Int) := by
  have hdigits := leadingDigits_append hne hs fun c hc => (hrest c hc).1
  cases s with
  | nil => exact absurd rfl hne
  | cons c s =>
    obtain ⟨hspace, hminus, hplus, -, -⟩ := not_special_of_isAsciiDigit (hs c List.mem_cons_self)
    have hhex : beginsHex (c :: (s ++ rest)) = false := by
      refine beginsHex_eq_false fun d hd => ?_
      cases s with
      | nil => exact (hrest d hd).2
      | cons e s =>
        cases hd
        exact (not_special_of_isAsciiDigit (hs d (by simp))).2.2.2
    have hbase : radix.getD 10 = 10 := by rcases hradix with rfl | rfl <;> rfl
    rw [List.cons_append] at hdigits ⊢
    unfold parseInt
    rw [List.dropWhile_cons_of_neg (by rw [hspace]; exact Bool.false_ne_true)]
    simp only [List.head?_cons, Option.some_beq_some, beq_eq_false_iff_ne.mpr hminus,
      beq_eq_false_iff_ne.mpr hplus, Bool.or_self, Bool.false_eq_true, if_false, hhex,
      Bool.false_and, hbase, hdigits, Option.map_some]

theorem parseInt_digits {s : PyStr} (hne : s ≠ []) (hs : ∀ c ∈ s, isAsciiDigit c = true)
    {radix : Option Nat} (hradix : radix = none ∨ radix = some 10) :
    parseInt s radix = some (ofDigits 10 s : Int) := by
  have h := parseInt_append hne hs (fun c hc => nomatch (hc : ([] : PyStr).head? = some c)) hradix
  rwa [List.append_nil] at h

end ZtPlanet.Js
