/-
# Regular expressions

A regular expression without look-around is the function that takes a text to what its matches may
leave of it, all of them, so alternatives and repetitions need no order.  `test` looks for a match
anywhere, as a pattern without anchors does.

The other half is what JavaScript does with a text by a pattern of one class of characters: to split
it at their runs, and to read the number that it begins with.
-/
import ZtPlanet.Js.NumberText

namespace ZtPlanet.Js

open ZtPlanet.Python

/-! ## 1. Patterns -/

/-- What the matches at the front of a text leave of it. -/
abbrev Regex := JsString → List JsString

namespace Regex

/-- One character of a class. -/
def oneOf (p : UInt16 → Bool) : Regex
  | [] => []
  | u :: s => if p u then [s] else []

/-- The characters of a text. -/
def text (t : JsString) : Regex := fun s => if t.isPrefixOf s then [s.drop t.length] else []

/-- One pattern behind another. -/
def andThen (r r' : Regex) : Regex := fun s => (r s).flatMap r'

/-- `(…|…)`. -/
def oneOfThese (rs : List Regex) : Regex := fun s => rs.flatMap fun r => r s

/-- Patterns one behind the other. -/
def inOrder : List Regex → Regex
  | [] => fun s => [s]
  | r :: rs => r.andThen (inOrder rs)

/-- `r{0,most}`. -/
def upTo (r : Regex) : Nat → Regex
  | 0 => fun s => [s]
  | most + 1 => fun s => s :: (r s).flatMap (upTo r most)

/-- `r{least,least+more}`. -/
def times (r : Regex) : Nat → Nat → Regex
  | 0, more => r.upTo more
  | least + 1, more => r.andThen (times r least more)

/-- `r.test(s)`. -/
def test (r : Regex) (s : JsString) : Bool := s.tails.any fun t => !(r t).isEmpty

end Regex

/-! ## 2. Splitting -/

/-- `s.split(/[…]+/)`: the pieces between the runs of separators. -/
def splitRuns (p : UInt16 → Bool) : JsString → List JsString
  | [] => [[]]
  | u :: s =>
    if p u then
      if (s.head?.map p).getD false then splitRuns p s else [] :: splitRuns p s
    else
      match splitRuns p s with
      | [] => [[u]]
      | piece :: pieces => (u :: piece) :: pieces

/-! ## 3. Numbers at the front of a text -/

/-- A text whose elements are its UTF-16 units. -/
def points (s : JsString) : PyStr := s.map fun u => Fin.ofNat 0x110000 u.toNat

/-- `parseInt(s, radix)`, before it is rounded to a double. -/
def parseIntUnits (s : JsString) (radix : Option Nat) : Js.Num := parseInt (points s) radix

/-- The exponent behind a number: the one that stands there, or none. -/
def leadingExponent : JsString → ℤ
  | [] => 0
  | u :: s =>
    let digits := (if s.head? = some 45 ∨ s.head? = some 43 then s.tail
      else s).takeWhile isDigitUnit
    if (u = 101 ∨ u = 69) ∧ digits ≠ [] then
      if s.head? = some 45 then -(ofUnits 10 digits : ℤ) else ofUnits 10 digits
    else 0

/-- `parseFloat(s)`: the decimal number that the text begins with. -/
def parseFloat (s : JsString) : Double :=
  let text := s.dropWhile isSpaceUnit
  let negative := text.head? = some 45
  let text := if negative ∨ text.head? = some 43 then text.tail else text
  if (js "Infinity").isPrefixOf text then .infinity negative
  else
    let whole := text.takeWhile isDigitUnit
    let behind := text.dropWhile isDigitUnit
    let point := behind.head? = some 46
    let fraction := if point then behind.tail.takeWhile isDigitUnit else []
    let behind := if point then behind.tail.dropWhile isDigitUnit else behind
    if whole = [] ∧ fraction = [] then .nan
    else
      let q : ℚ := ofUnits 10 (whole ++ fraction) * 10 ^ (leadingExponent behind - fraction.length)
      .ofRat (if negative then -q else q)

end ZtPlanet.Js
