/-
# The tree of a rule script

The first pass of `utils/rule-compiler.js` reads a script into a tree.  Words end at white space,
and what stands behind a `#` that begins a word is a comment.  A word that opens a block is followed
by its block, which a word with a semicolon at its end closes.

An action that stands outside all blocks opens one even where it ends with a semicolon, and at the
end of the script only what is not empty is closed, so an action without a block can stand last.
-/
import ZtPlanet.Ztnet.RuleWords

namespace ZtPlanet.Ztnet.RuleCompiler

open ZtPlanet.Js

/-! ## 1. Trees -/

/-- A word and where it stands. -/
structure Token (π : Type) where
  text : JsString
  position : π
deriving DecidableEq

inductive Elem (π : Type) where
  | token (t : Token π)
  | block (elems : List (Elem π))

/-- A line and an index in it. -/
abbrev Position := Nat × Nat

/-! ## 2. The scanner -/

/-- The state of the loop.  `below` are the blocks under the innermost one, the next one first. -/
structure Scan where
  top : List (Elem Position)
  below : List (List (Elem Position))
  /-- `curr` -/
  text : JsString
  start : Position
  skipRestOfLine : Bool
  lineNo : Nat
  lineIdx : Nat

def Scan.initial : Scan := ⟨[], [], [], (0, 0), false, 1, 0⟩

/-- The blank characters that end a word. -/
def isBlank (ch : UInt16) : Bool := ch == 10 || ch == 13 || ch == 9 || ch == 32

/-- The word without the semicolon at its end, and whether there is one. -/
def dropSemicolon (text : JsString) : JsString × Bool :=
  if text.getLast? = some 59 then (text.dropLast, true) else (text, false)

/-- A blank behind a word. -/
def Scan.endWord (s : Scan) : Scan :=
  if s.text = [] then s
  else
    let (text, endOfBlock) := dropSemicolon s.text
    let top := if text = [] then s.top else s.top ++ [.token ⟨text, s.start⟩]
    let s := { s with top := top, text := [] }
    match s.below with
    | parent :: below =>
      if endOfBlock && !top.isEmpty then { s with top := parent ++ [.block top], below := below }
      else if opensBlock text then { s with top := [], below := top :: s.below }
      else s
    | [] => if opensBlock text then { s with top := [], below := [top] } else s

/-- The loop over the characters. -/
def Scan.next (s : Scan) (ch : UInt16) : Scan :=
  if s.skipRestOfLine then
    if ch = 13 ∨ ch = 10 then
      { s with skipRestOfLine := false, lineNo := s.lineNo + 1, lineIdx := 1 }
    else { s with lineIdx := s.lineIdx + 1 }
  else if isBlank ch then
    let s := if ch = 10 then { s with lineNo := s.lineNo + 1, lineIdx := 0 } else s
    { s.endWord with lineIdx := s.lineIdx + 1 }
  else if s.text = [] ∧ ch = 35 then { s with skipRestOfLine := true, lineIdx := s.lineIdx + 1 }
  else
    { s with
      text := s.text ++ [ch]
      start := if s.text = [] then (s.lineNo, s.lineIdx) else s.start
      lineIdx := s.lineIdx + 1 }

/-- The last word. -/
def Scan.lastWord (s : Scan) : List (Elem Position) :=
  let text := (dropSemicolon s.text).1
  if text = [] then s.top else s.top ++ [.token ⟨text, s.start⟩]

/-- The blocks that are open at the end are closed, up to one that is empty. -/
def closeBlocks {π : Type} (top : List (Elem π)) : List (List (Elem π)) → List (Elem π)
  | [] => top
  | parent :: below =>
    if top.isEmpty then ((parent :: below).getLast?).getD [] else
      closeBlocks (parent ++ [.block top]) below

/-- The first pass. -/
def parse (src : JsString) : List (Elem Position) :=
  let s := src.foldl Scan.next Scan.initial
  closeBlocks s.lastWord s.below

end ZtPlanet.Ztnet.RuleCompiler
