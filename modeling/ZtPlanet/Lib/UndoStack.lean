/-
# Undo stacks

A value that can be replaced, and whose last replacement can be undone: `replace` saves what it
replaces and `undo` goes back to what was saved last.  Undoing is not a replacement, so what it
leaves is not saved.

As a machine it has two kinds of moves, and `run_replaces_undos` is the law it is used for: as many
undos as replacements lead back to where the replacements began.
-/
import ZtPlanet.Lib.Machine

namespace ZtPlanet.Lib

variable {α : Type}

/-- A value and what it replaced, the last replaced value first. -/
@[ext] structure Undoable (α : Type) where
  current : α
  saved : List α
deriving DecidableEq

/-- A move of an undo stack. -/
inductive UndoMove (α : Type) where
  | replace (a : α)
  | undo
deriving DecidableEq

namespace Undoable

/-- What a move does; there may be nothing to undo. -/
def move : Undoable α → UndoMove α → Option (Undoable α)
  | u, .replace a => some ⟨a, u.current :: u.saved⟩
  | ⟨_, []⟩, .undo => none
  | ⟨_, a :: saved⟩, .undo => some ⟨a, saved⟩

def machine : Machine (Undoable α) (UndoMove α) := ⟨move⟩

@[simp] theorem machine_step (u : Undoable α) (m : UndoMove α) : machine.step u m = u.move m := rfl

/-- **As many undos as replacements lead back to where the replacements began.** -/
theorem run_replaces_undos (u : Undoable α) (as : List α) :
    machine.run u (as.map .replace ++ List.replicate as.length .undo) = some u := by
  induction as generalizing u with
  | nil => rfl
  | cons a as ih =>
    rw [List.length_cons, List.replicate_succ', List.map_cons, List.cons_append,
      ← List.append_assoc]
    refine Machine.run_cons_eq_some.mpr ⟨⟨a, u.current :: u.saved⟩, rfl, ?_⟩
    rw [Machine.run_append, ih]
    rfl

end Undoable

end ZtPlanet.Lib
