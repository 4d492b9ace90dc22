/-
# Filter chains

A chain is a flat list of tests and actions that is run with one bit.  A test combines its outcome
with the bit, an action is carried out where the bit is set, and sets it again for what follows.  An
action that decides ends the run.

An engine that runs chains so meets `IsEngine`, and `carriedOut` is what it carries out.

What a programmer means are blocks: some tests and the action that they guard.  `carriedOut_blocks`
says that a chain that is made of blocks carries out the actions of the blocks that hold, in order,
up to the first one that decides.
-/
import Mathlib.Data.List.Basic

namespace ZtPlanet.Lib.FilterChain

variable {μ α : Type}

/-! ## 1. Chains -/

inductive Instr (μ α : Type) where
  /-- a test, which may be negated, and joined to the bit by `or` -/
  | test (not or : Bool) (m : μ)
  | act (a : α)
deriving DecidableEq

/-- The bit behind a test. -/
def combine (sat : μ → Bool) (bit not or : Bool) (m : μ) : Bool :=
  if or then bit || (sat m != not) else bit && (sat m != not)

/-- The actions that are carried out, and whether the last one decides. -/
structure Outcome (α : Type) where
  actions : List α
  decided : Bool

namespace Outcome

/-- Nothing is carried out. -/
def skip : Outcome α := ⟨[], false⟩

/-- What comes behind an outcome is reached where nothing has decided. -/
def andThen (x y : Outcome α) : Outcome α :=
  if x.decided then x else ⟨x.actions ++ y.actions, y.decided⟩

@[simp] theorem skip_andThen (x : Outcome α) : skip.andThen x = x := rfl

@[simp] theorem andThen_skip (x : Outcome α) : x.andThen skip = x := by
  obtain ⟨actions, decided⟩ := x
  cases decided
  · simp [andThen, skip]
  · rfl

theorem andThen_assoc (x y z : Outcome α) : (x.andThen y).andThen z = x.andThen (y.andThen z) := by
  obtain ⟨actions, decided⟩ := x
  obtain ⟨actions', decided'⟩ := y
  cases decided
  · cases decided'
    · simp [andThen]
    · simp [andThen]
  · simp [andThen]

end Outcome

/-- An action behind a bit. -/
def perform (decides : α → Bool) (bit : Bool) (a : α) : Outcome α :=
  if bit then ⟨[a], decides a⟩ else .skip

/-- The run of a chain. -/
def carriedOut (sat : μ → Bool) (decides : α → Bool) (bit : Bool) : List (Instr μ α) → Outcome α
  | [] => .skip
  | .test not or m :: chain => carriedOut sat decides (combine sat bit not or m) chain
  | .act a :: chain => (perform decides bit a).andThen (carriedOut sat decides true chain)

/-- What is known of an engine that runs chains: it goes through them with one bit. -/
structure IsEngine (sat : μ → Bool) (decides : α → Bool)
    (run : Bool → List (Instr μ α) → Outcome α) : Prop where
  nil : ∀ bit, run bit [] = .skip
  test : ∀ bit not or m chain,
    run bit (.test not or m :: chain) = run (combine sat bit not or m) chain
  act : ∀ bit a chain, run bit (.act a :: chain) = (perform decides bit a).andThen (run true chain)

theorem isEngine_carriedOut (sat : μ → Bool) (decides : α → Bool) :
    IsEngine sat decides (carriedOut sat decides) :=
  ⟨fun _ => rfl, fun _ _ _ _ _ => rfl, fun _ _ _ => rfl⟩

/-- **Engines agree.** -/
theorem IsEngine.eq_carriedOut {sat : μ → Bool} {decides : α → Bool}
    {run : Bool → List (Instr μ α) → Outcome α} (h : IsEngine sat decides run) (bit : Bool)
    (chain : List (Instr μ α)) : run bit chain = carriedOut sat decides bit chain := by
  induction chain generalizing bit with
  | nil => exact h.nil bit
  | cons instr chain ih =>
    cases instr with
    | test not or m => exact (h.test bit not or m chain).trans (ih _)
    | act a => rw [h.act, ih true, carriedOut]

/-! ## 2. Blocks -/

/-- A test of a block. -/
structure Test (μ : Type) where
  not : Bool
  or : Bool
  test : μ

structure Block (μ α : Type) where
  tests : List (Test μ)
  action : α

/-- The bit behind the tests of a block. -/
def holdsFrom (sat : μ → Bool) (bit : Bool) (tests : List (Test μ)) : Bool :=
  tests.foldl (fun bit t => combine sat bit t.not t.or t.test) bit

def Test.instr (t : Test μ) : Instr μ α := .test t.not t.or t.test

def Block.chain (b : Block μ α) : List (Instr μ α) := b.tests.map Test.instr ++ [.act b.action]

/-- A block does its action where its tests hold. -/
def Block.outcome (sat : μ → Bool) (decides : α → Bool) (b : Block μ α) : Outcome α :=
  perform decides (holdsFrom sat true b.tests) b.action

/-- Blocks one behind the other. -/
def outcomes (sat : μ → Bool) (decides : α → Bool) (blocks : List (Block μ α)) : Outcome α :=
  blocks.foldr (fun b rest => (b.outcome sat decides).andThen rest) .skip

variable {sat : μ → Bool} {decides : α → Bool}

/-- Tests in front of a chain. -/
theorem carriedOut_tests (tests : List (Test μ)) (bit : Bool) (chain : List (Instr μ α)) :
    carriedOut sat decides bit (tests.map Test.instr ++ chain) =
      carriedOut sat decides (holdsFrom sat bit tests) chain := by
  induction tests generalizing bit with
  | nil => rfl
  | cons t tests ih => exact ih _

/-- **A chain of blocks** carries out what its blocks say. -/
theorem carriedOut_blocks (blocks : List (Block μ α)) :
    carriedOut sat decides true (blocks.flatMap Block.chain) = outcomes sat decides blocks := by
  induction blocks with
  | nil => rfl
  | cons b blocks ih =>
    rw [List.flatMap_cons, Block.chain, List.append_assoc, carriedOut_tests, List.singleton_append]
    change (b.outcome sat decides).andThen (carriedOut sat decides true _) = _
    rw [ih]
    rfl

theorem outcomes_append (blocks blocks' : List (Block μ α)) :
    outcomes sat decides (blocks ++ blocks') =
      (outcomes sat decides blocks).andThen (outcomes sat decides blocks') := by
  induction blocks with
  | nil => rfl
  | cons b blocks ih =>
    change (b.outcome sat decides).andThen (outcomes sat decides (blocks ++ blocks')) = _
    rw [ih, ← Outcome.andThen_assoc]
    rfl

/-- The chain is made of blocks. -/
def IsBlocks (chain : List (Instr μ α)) : Prop :=
  ∃ blocks : List (Block μ α), chain = blocks.flatMap Block.chain

theorem isBlocks_nil : IsBlocks ([] : List (Instr μ α)) := ⟨[], rfl⟩

theorem IsBlocks.append {chain chain' : List (Instr μ α)} (h : IsBlocks chain)
    (h' : IsBlocks chain') : IsBlocks (chain ++ chain') := by
  obtain ⟨blocks, rfl⟩ := h
  obtain ⟨blocks', rfl⟩ := h'
  exact ⟨blocks ++ blocks', List.flatMap_append.symm⟩

theorem isBlocks_of_tests (tests : List (Test μ)) (a : α) :
    IsBlocks (tests.map Test.instr ++ [.act a]) :=
  ⟨[⟨tests, a⟩], by simp [Block.chain]⟩

/-- **Two chains one behind the other**, where the first one is made of blocks. -/
theorem IsBlocks.carriedOut_append {chain chain' : List (Instr μ α)} (h : IsBlocks chain)
    (h' : IsBlocks chain') :
    carriedOut sat decides true (chain ++ chain') =
      (carriedOut sat decides true chain).andThen (carriedOut sat decides true chain') := by
  obtain ⟨blocks, rfl⟩ := h
  obtain ⟨blocks', rfl⟩ := h'
  rw [← List.flatMap_append, carriedOut_blocks, carriedOut_blocks, carriedOut_blocks,
    outcomes_append]

end ZtPlanet.Lib.FilterChain
