/-
# JSON values as `json.loads` returns them

A JSON document becomes a Python value: objects are `dict`s, integers are unbounded, and every
number with a fraction or an exponent is a `float`.  A float is kept as the rational number it
denotes, and `none` stands for the infinities and NaN, which `json.loads` also accepts.

`true` and `false` are integers to Python's `==`, and a float equals the integer it denotes;
`eqInt` is that comparison.
-/
import Mathlib.Data.Rat.Defs
import ZtPlanet.Python.Text

namespace ZtPlanet.Python

/-- A value that `json.loads` can return. -/
inductive Json where
  | null
  | bool (b : Bool)
  | int (n : Int)
  | float (q : Option ℚ)
  | str (s : PyStr)
  | arr (items : List Json)
  | obj (members : List (PyStr × Json))

namespace Json

/-- The value of a key among the members of an object. -/
def member (members : List (PyStr × Json)) (key : PyStr) : Option Json :=
  (members.find? fun m => m.1 = key).map Prod.snd

/-- `value == n`. -/
def eqInt (value : Json) (n : Int) : Bool :=
  match value with
  | .bool b => n == if b then 1 else 0
  | .int m => m == n
  | .float (some q) => q == (n : ℚ)
  | _ => false

/-- A value equals at most one integer. -/
theorem eqInt_inj {value : Json} {m n : Int} (hm : value.eqInt m = true)
    (hn : value.eqInt n = true) : m = n := by
  cases value with
  | bool b =>
    simp only [eqInt, beq_iff_eq] at hm hn
    rw [hm, hn]
  | int k =>
    simp only [eqInt, beq_iff_eq] at hm hn
    rw [← hm, hn]
  | float q =>
    cases q with
    | none => cases hm
    | some q =>
      simp only [eqInt, beq_iff_eq] at hm hn
      exact Rat.intCast_injective (hm.symm.trans hn)
  | _ => cases hm

/-- Whether the value can be an element of a set: `hash(value)` raises for lists and dicts. -/
def hashable : Json → Bool
  | .arr _ | .obj _ => false
  | _ => true

end Json

end ZtPlanet.Python
