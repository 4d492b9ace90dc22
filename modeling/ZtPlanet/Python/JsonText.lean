/-
# JSON texts

`json.dumps(value, separators=(",", ":"), ensure_ascii=False)` and `json.loads`.

The writer escapes what JSON requires and nothing else: quotation marks, backslashes and the
characters below U+0020.  The reader is the recursive descent of `json.scanner`, one function for
each of its own; it spends one unit of fuel on each call.

Floats are the one kind of value whose text is not modelled: how they are written and what they are
read as are parameters.  `plain` are the values that are written without them.
-/
import ZtPlanet.Lib.Dict
import ZtPlanet.Python.Decimal
import ZtPlanet.Python.Json

namespace ZtPlanet.Python

open ZtPlanet.Lib

/-! ## 1. Writing -/

/-- A lower-case hexadecimal digit. -/
def hexDigit (d : Nat) : CodePoint := ofChar (Nat.digitChar d)

/-- `ESCAPE_DCT`: the letters behind a backslash. -/
def escapeLetters : List (CodePoint × CodePoint) :=
  [(ch '\\', ch '\\'), (ch '"', ch '"'), (8, ch 'b'), (12, ch 'f'), (ch '\n', ch 'n'),
    (ch '\r', ch 'r'), (ch '\t', ch 't')]

/-- A table is checked entry by entry (its entries are of a finite type, which `decide` would go
through instead). -/
theorem forall_mem_of_all {α : Type} {p : α → Prop} [DecidablePred p] {table : List α}
    (h : (table.all fun e => decide (p e)) = true) : ∀ e ∈ table, p e := by
  simpa only [List.all_eq_true, decide_eq_true_eq] using h

/-- What is written for a character of a string. -/
def escapeChar (c : CodePoint) : PyStr :=
  match escapeLetters.find? fun e => e.1 = c with
  | some e => [ch '\\', e.2]
  | none =>
    if c.val < 32 then py "\\u00" ++ [hexDigit (c.val / 16), hexDigit (c.val % 16)] else [c]

/-- A string. -/
def quote (s : PyStr) : PyStr := ch '"' :: s.flatMap escapeChar ++ [ch '"']

/-- `sys.int_info.default_max_str_digits`: longer integers are neither written nor read. -/
def maxStrDigits : Nat := 4300

/-- `int.__repr__`, of an integer that can be written. -/
def intText (n : Int) : PyStr :=
  if n < 0 then ch '-' :: decimal n.natAbs else decimal n.natAbs

section Writing

variable (floatText : Option ℚ → PyStr)

mutual

/-- `json.dumps`. -/
def dumps : Json → PyStr
  | .null => py "null"
  | .bool b => if b then py "true" else py "false"
  | .int n => intText n
  | .float q => floatText q
  | .str s => quote s
  | .arr items => ch '[' :: join (py ",") (dumpsEach items) ++ [ch ']']
  | .obj members => ch '\x7b' :: join (py ",") (dumpsMembers members) ++ [ch '\x7d']

def dumpsEach : List Json → List PyStr
  | [] => []
  | value :: items => dumps value :: dumpsEach items

def dumpsMembers : List (PyStr × Json) → List PyStr
  | [] => []
  | (key, value) :: members => (quote key ++ ch ':' :: dumps value) :: dumpsMembers members

end

end Writing

mutual

/-- A value that can be written and has no float in it; like a `dict`, no object has a key twice. -/
def Json.plain : Json → Bool
  | .null => true
  | .bool _ => true
  | .int n => (decimal n.natAbs).length ≤ maxStrDigits
  | .float _ => false
  | .str _ => true
  | .arr items => plainEach items
  | .obj members => decide (members.map Prod.fst).Nodup && plainMembers members

def Json.plainEach : List Json → Bool
  | [] => true
  | value :: items => value.plain && plainEach items

def Json.plainMembers : List (PyStr × Json) → Bool
  | [] => true
  | (_, value) :: members => value.plain && plainMembers members

end

mutual

/-- The strings and the keys of a value. -/
def Json.texts : Json → List PyStr
  | .null => []
  | .bool _ => []
  | .int _ => []
  | .float _ => []
  | .str s => [s]
  | .arr items => textsEach items
  | .obj members => textsMembers members

def Json.textsEach : List Json → List PyStr
  | [] => []
  | value :: items => value.texts ++ textsEach items

def Json.textsMembers : List (PyStr × Json) → List PyStr
  | [] => []
  | (key, value) :: members => key :: value.texts ++ textsMembers members

end

/-! ## 2. Reading -/

def isJsonSpace (c : CodePoint) : Bool :=
  c = ch ' ' || c = ch '\t' || c = ch '\n' || c = ch '\r'

/-- `WHITESPACE.match(s, end).end()`. -/
def skipSpace (s : PyStr) : PyStr := s.dropWhile isJsonSpace

/-- What is behind the character `c`, if the text begins with it. -/
def expect (c : CodePoint) : PyStr → Option PyStr
  | [] => none
  | d :: rest => if d = c then some rest else none

/-- Where `scanstring` is: at a character, behind a backslash, or in `\uXXXX` with so many digits
to come. -/
inductive StringMode where
  | plain
  | escape
  | hex (left value : Nat)

/-- `BACKSLASH`: what a letter behind a backslash stands for. -/
def backslash : List (CodePoint × CodePoint) :=
  [(ch '"', ch '"'), (ch '\\', ch '\\'), (ch '/', ch '/'), (ch 'b', 8), (ch 'f', 12),
    (ch 'n', ch '\n'), (ch 'r', ch '\r'), (ch 't', ch '\t')]

def unescape (c : CodePoint) : Option CodePoint :=
  (backslash.find? fun e => e.1 = c).map Prod.snd

/-- A character of a string in front of what is read behind it. -/
def pushChar (c : CodePoint × Bool) (read : Option (List (CodePoint × Bool) × PyStr)) :
    Option (List (CodePoint × Bool) × PyStr) :=
  read.map fun r => (c :: r.1, r.2)

/-- `scanstring`, from behind the opening quotation mark; the characters that came as `\uXXXX` are
marked. -/
def scanString : StringMode → PyStr → Option (List (CodePoint × Bool) × PyStr)
  | _, [] => none
  | .plain, c :: rest =>
    if c = ch '"' then some ([], rest)
    else if c = ch '\\' then scanString .escape rest
    else if c.val < 32 then none
    else pushChar (c, false) (scanString .plain rest)
  | .escape, c :: rest =>
    if c = ch 'u' then scanString (.hex 3 0) rest
    else
      match unescape c with
      | some d => pushChar (d, false) (scanString .plain rest)
      | none => none
  | .hex left value, c :: rest =>
    if isHexDigit c = false then none
    else
      let value := 16 * value + digitValue c
      match left with
      | 0 => pushChar (Fin.ofNat 0x110000 value, true) (scanString .plain rest)
      | left + 1 => scanString (.hex left value) rest

/-- Two escapes that are a surrogate pair are one character. -/
def joinSurrogates : List (CodePoint × Bool) → PyStr
  | [] => []
  | [c] => [c.1]
  | c :: d :: rest =>
    if c.2 ∧ d.2 ∧ 0xd800 ≤ c.1.val ∧ c.1.val ≤ 0xdbff ∧ 0xdc00 ≤ d.1.val ∧ d.1.val ≤ 0xdfff then
      Fin.ofNat 0x110000 (0x10000 + 0x400 * (c.1.val - 0xd800) + (d.1.val - 0xdc00)) ::
        joinSurrogates rest
    else c.1 :: joinSurrogates (d :: rest)

/-- The literals, in the order in which they are tried. -/
def literals : List (PyStr × Json) :=
  [(py "null", .null), (py "true", .bool true), (py "false", .bool false),
    (py "NaN", .float none), (py "Infinity", .float none), (py "-Infinity", .float none)]

def scanLiteral (s : PyStr) : Option (Json × PyStr) :=
  (literals.find? fun l => l.1.isPrefixOf s).map fun l => (l.2, s.drop l.1.length)

/-- The digits at the beginning of a text. -/
def spanDigits (s : PyStr) : PyStr × PyStr := (s.takeWhile isAsciiDigit, s.dropWhile isAsciiDigit)

/-- The integer part of a number, a zero or digits that do not begin with one. -/
def scanInteger (s : PyStr) : Option (PyStr × PyStr) :=
  match spanDigits s with
  | ([], _) => none
  | (d :: digits, rest) =>
    if d = ch '0' then some ([d], digits ++ rest) else some (d :: digits, rest)

/-- A point with digits, if there is one. -/
def scanFraction (s : PyStr) : PyStr × PyStr :=
  match expect (ch '.') s with
  | none => ([], s)
  | some t =>
    if (spanDigits t).1 = [] then ([], s) else (ch '.' :: (spanDigits t).1, (spanDigits t).2)

/-- `e` or `E`, a sign and digits, if they are there. -/
def scanExponent (s : PyStr) : PyStr × PyStr :=
  match s with
  | [] => ([], s)
  | e :: t =>
    if e ≠ ch 'e' ∧ e ≠ ch 'E' then ([], s)
    else
      let sign := t.takeWhile fun c => c = ch '+' || c = ch '-'
      let rest := t.dropWhile fun c => c = ch '+' || c = ch '-'
      if sign.length ≤ 1 ∧ (spanDigits rest).1 ≠ [] then
        (e :: sign ++ (spanDigits rest).1, (spanDigits rest).2)
      else ([], s)

section Reading

variable (floatOf : PyStr → Option ℚ)

/-- `NUMBER_RE`: an integer, or a float where there is a fraction or an exponent. -/
def scanNumber (s : PyStr) : Option (Json × PyStr) :=
  let minus := (expect (ch '-') s).isSome
  match scanInteger ((expect (ch '-') s).getD s) with
  | none => none
  | some (digits, rest) =>
    let fraction := scanFraction rest
    let exponent := scanExponent fraction.2
    if fraction.1 = [] ∧ exponent.1 = [] then
      if maxStrDigits < digits.length then none
      else
        some (.int (if minus then -(ofDigits 10 digits : Int) else ofDigits 10 digits), exponent.2)
    else
      let sign := if minus then [ch '-'] else []
      some (.float (floatOf (sign ++ digits ++ fraction.1 ++ exponent.1)), exponent.2)

/-- The `dict` of the members: a key that comes again keeps its place and takes the new value. -/
def toDict (members : List (PyStr × Json)) : List (PyStr × Json) :=
  members.foldl (fun dict m => Assoc.put dict m.1 m.2) []

mutual

/-- `scan_once`. -/
def scanValue : Nat → PyStr → Option (Json × PyStr)
  | 0, _ => none
  | _ + 1, [] => none
  | n + 1, c :: rest =>
    if c = ch '"' then
      (scanString .plain rest).map fun r => (.str (joinSurrogates r.1), r.2)
    else if c = ch '[' then
      match expect (ch ']') (skipSpace rest) with
      | some rest => some (.arr [], rest)
      | none => (scanItems n (skipSpace rest)).map fun r => (.arr r.1, r.2)
    else if c = ch '\x7b' then
      match expect (ch '\x7d') (skipSpace rest) with
      | some rest => some (.obj [], rest)
      | none => (scanMembers n (skipSpace rest)).map fun r => (.obj (toDict r.1), r.2)
    else (scanLiteral (c :: rest)).or (scanNumber floatOf (c :: rest))

/-- The values of an array that is not empty. -/
def scanItems : Nat → PyStr → Option (List Json × PyStr)
  | 0, _ => none
  | n + 1, s => do
    let (value, rest) ← scanValue n s
    match skipSpace rest with
    | [] => none
    | c :: rest =>
      if c = ch ']' then some ([value], rest)
      else if c = ch ',' then (scanItems n (skipSpace rest)).map fun r => (value :: r.1, r.2)
      else none

/-- The members of an object that is not empty. -/
def scanMembers : Nat → PyStr → Option (List (PyStr × Json) × PyStr)
  | 0, _ => none
  | n + 1, s => do
    let opened ← expect (ch '"') s
    let (key, rest) ← scanString .plain opened
    let behind ← expect (ch ':') (skipSpace rest)
    let (value, rest) ← scanValue n (skipSpace behind)
    match skipSpace rest with
    | [] => none
    | c :: rest =>
      if c = ch '\x7d' then some ([(joinSurrogates key, value)], rest)
      else if c = ch ',' then
        (scanMembers n (skipSpace rest)).map fun r => ((joinSurrogates key, value) :: r.1, r.2)
      else none

end

/-- `json.loads` for a text, `none` for a `JSONDecodeError`. -/
def loads (s : PyStr) : Option Json :=
  if s.head? = some 0xfeff then none
  else
    match scanValue floatOf (2 * s.length) (skipSpace s) with
    | some (value, rest) => if skipSpace rest = [] then some value else none
    | none => none

end Reading

end ZtPlanet.Python
