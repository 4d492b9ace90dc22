/-
# Programs that are killed, and what they have done

A process can be killed between any two actions of its program.  `leave` is the state that the
outside is left in: behind the whole program, or behind its first `n` actions.  What every action
preserves holds wherever the program is left (`Along.leave_preserves`).

Where a program is killed in the middle is counted in actions.  A part of a program that stands
in an evaluation context, such as the block of a `try` with what follows it, is what is killed as
long as the count is not above the part's own (`killed_within`); behind it, the rest is
(`killed_behind`).

A *history variable* is a part of the state that no action looks at; it says what has been done so
far, so that a statement about a state can speak of it.  `withHistory` adds one to a handler, and
`along_withHistory` says that the program does what it did before.
-/
import ZtPlanet.Lib.Prog

namespace ZtPlanet.Lib

namespace Prog

variable {Act : Type} {Ans : Act → Type} {ε α σ τ : Type}

/-! ## 1. Killed programs -/

/-- The state behind the first `n` actions, or behind the last where there are fewer. -/
def killed (h : Handler Act Ans ε σ) : Nat → Prog Act Ans ε α → σ → σ
  | n + 1, .perform act k, s => killed h n (k (h act s).1) (h act s).2
  | _, _, s => s

/-- The state that a program leaves, which is killed after `stop` actions or runs to its end. -/
def leave (h : Handler Act Ans ε σ) (stop : Option Nat) (p : Prog Act Ans ε α) (s : σ) : σ :=
  match stop with
  | none => (exec h p s).2
  | some n => killed h n p s

variable {h : Handler Act Ans ε σ} {Q : Act → σ → Prop} {p : Prog Act Ans ε α} {s : σ}

theorem killed_zero (p : Prog Act Ans ε α) : killed h 0 p s = s := by
  cases p <;> rfl

/-- **Wherever a program is left.**  What every action that satisfies `Q` preserves holds there, if
every action of the program satisfies `Q` when it is performed. -/
theorem Along.leave_preserves {I : σ → Prop} (hp : Along h Q p s)
    (hQ : ∀ act t, Q act t → I t → I (h act t).2) (hs : I s) (stop : Option Nat) :
    I (leave h stop p s) := by
  cases stop with
  | none => exact hp.exec_preserves hQ hs
  | some n =>
    change I (killed h n p s)
    induction n generalizing p s with
    | zero => exact hs
    | succ n ih =>
      cases p with
      | pure a => exact hs
      | raise e => exact hs
      | perform act k => exact ih hp.2 (hQ act s hp.1 hs)

/-- The first action of a sequence, where it is answered. -/
theorem killed_call_bind {β : Type} {act : Act} {a : Ans act} {t : σ}
    {f : Ans act → Prog Act Ans ε β} (hact : h act s = (.ok a, t)) (n : Nat) :
    killed h (n + 1) (call act >>= f) s = killed h n (f a) t := by
  change killed h n ((ofExcept (h act s).1).bind f) (h act s).2 = _
  rw [hact]
  rfl

theorem killed_ofExcept_bind {β : Type} {x : Except ε α} {a : α} {f : α → Prog Act Ans ε β}
    (hx : x = .ok a) (n : Nat) : killed h n (ofExcept x >>= f) s = killed h n (f a) s := by
  rw [hx]
  rfl

/-- A sequence that begins with an action: it is killed in front of it, or at the answer, or it goes
on. -/
theorem leave_call_bind {β : Type} {P : σ → Prop} {act : Act} {f : Ans act → Prog Act Ans ε β}
    {stop : Option Nat} (hstart : P s) (hact : P (h act s).2)
    (hgo : ∀ a t, stop ≠ some 0 → h act s = (.ok a, t) →
      P (leave h (stop.map (· - 1)) (f a) t)) :
    P (leave h stop (call act >>= f) s) := by
  change P (leave h stop (.perform act fun r => (ofExcept r).bind f) s)
  have hrest : stop ≠ some 0 →
      P (leave h (stop.map (· - 1)) ((ofExcept (h act s).1).bind f) (h act s).2) := by
    intro hstop
    cases hanswer : h act s with
    | mk r t =>
      rw [hanswer] at hact
      cases r with
      | ok a => exact hgo a t hstop hanswer
      | error e =>
        cases stop with
        | none => exact hact
        | some n =>
          cases n with
          | zero => exact hact
          | succ n => cases n <;> exact hact
  cases stop with
  | none => exact hrest nofun
  | some n =>
    cases n with
    | zero => exact hstart
    | succ n => exact hrest (by simp)

theorem leave_ofExcept_bind {β : Type} {P : σ → Prop} {x : Except ε α}
    {f : α → Prog Act Ans ε β} {stop : Option Nat} (hstart : P s)
    (hgo : ∀ a, x = .ok a → P (leave h stop (f a) s)) :
    P (leave h stop (ofExcept x >>= f) s) := by
  cases x with
  | ok a => exact hgo a rfl
  | error e =>
    cases stop with
    | none => exact hstart
    | some n => cases n <;> exact hstart

/-! ## 2. How far a program gets -/

/-- The number of actions that a program performs. -/
def actions (h : Handler Act Ans ε σ) : Prog Act Ans ε α → σ → Nat
  | .perform act k, s => actions h (k (h act s).1) (h act s).2 + 1
  | _, _ => 0

theorem actions_call (act : Act) : actions h (call act) s = 1 := by
  change actions h (ofExcept (h act s).1) (h act s).2 + 1 = 1
  cases (h act s).1 <;> rfl

theorem actions_call_bind {β : Type} {act : Act} {a : Ans act} {t : σ}
    {f : Ans act → Prog Act Ans ε β} (hact : h act s = (.ok a, t)) :
    actions h (call act >>= f) s = actions h (f a) t + 1 := by
  change actions h ((ofExcept (h act s).1).bind f) (h act s).2 + 1 = _
  rw [hact]
  rfl

theorem actions_bind {β : Type} {a : α} {t : σ} {f : α → Prog Act Ans ε β}
    (hp : exec h p s = (.ok a, t)) :
    actions h (p >>= f) s = actions h p s + actions h (f a) t := by
  change actions h (p.bind f) s = _
  induction p generalizing s with
  | pure b =>
    obtain ⟨hb, rfl⟩ := Prod.mk.inj hp
    obtain rfl := Except.ok.inj hb
    exact (Nat.zero_add _).symm
  | raise e => cases hp
  | perform act k ih =>
    refine (congrArg (· + 1) (ih _ hp)).trans ?_
    exact Nat.add_right_comm _ _ 1

/-- A program that is killed behind its last action has run to its end. -/
theorem killed_of_le {n : Nat} (hn : actions h p s ≤ n) : killed h n p s = (exec h p s).2 := by
  induction p generalizing s n with
  | pure a => cases n <;> rfl
  | raise e => cases n <;> rfl
  | perform act k ih =>
    cases n with
    | zero => exact absurd hn (Nat.not_succ_le_zero _)
    | succ n => exact ih _ (Nat.le_of_succ_le_succ hn)

section Context

variable {β : Type} {C : Prog Act Ans ε α → Prog Act Ans ε β}

/-- Inside a part of a program. -/
theorem killed_within (hC : ∀ act k, C (.perform act k) = .perform act fun r => C (k r)) {n : Nat}
    (hn : n ≤ actions h p s) : killed h n (C p) s = killed h n p s := by
  induction p generalizing s n with
  | pure a =>
    obtain rfl := Nat.le_zero.mp hn
    exact killed_zero _
  | raise e =>
    obtain rfl := Nat.le_zero.mp hn
    exact killed_zero _
  | perform act k ih =>
    cases n with
    | zero => exact killed_zero _
    | succ n =>
      rw [hC]
      exact ih _ (Nat.le_of_succ_le_succ hn)

/-- Behind a part of a program that has returned. -/
theorem killed_behind (hC : ∀ act k, C (.perform act k) = .perform act fun r => C (k r)) {a : α}
    {t : σ} (hp : exec h p s = (.ok a, t)) (n : Nat) :
    killed h (actions h p s + n) (C p) s = killed h n (C (.pure a)) t := by
  induction p generalizing s with
  | pure b =>
    obtain ⟨hb, rfl⟩ := Prod.mk.inj hp
    obtain rfl := Except.ok.inj hb
    exact congrArg (fun m => killed h m (C (.pure b)) s) (Nat.zero_add n)
  | raise e => cases hp
  | perform act k ih =>
    rw [hC, show actions h (.perform act k) s + n =
      actions h (k (h act s).1) (h act s).2 + n + 1 from Nat.add_right_comm _ 1 n]
    exact ih _ hp

end Context

/-! ## 3. History variables -/

/-- Update a history variable with every action. -/
def withHistory (h : Handler Act Ans ε σ) (note : Act → σ → τ → τ) : Handler Act Ans ε (σ × τ)
  | act, (s, x) => ((h act s).1, ((h act s).2, note act s x))

variable {note : Act → σ → τ → τ}

theorem along_withHistory {x : τ} (hp : Along h Q p s) :
    Along (withHistory h note) (fun act t => Q act t.1) p (s, x) := by
  induction p generalizing s x with
  | pure a => trivial
  | raise e => trivial
  | perform act k ih => exact ⟨hp.1, ih _ hp.2⟩

theorem actions_withHistory (h : Handler Act Ans ε σ) (note : Act → σ → τ → τ)
    (p : Prog Act Ans ε α) (s : σ) (x : τ) :
    actions (withHistory h note) p (s, x) = actions h p s := by
  induction p generalizing s x with
  | pure a => rfl
  | raise e => rfl
  | perform act k ih => exact congrArg (· + 1) (ih _ _ _)

/-- A history variable changes nothing else. -/
theorem exec_withHistory (h : Handler Act Ans ε σ) (note : Act → σ → τ → τ)
    (p : Prog Act Ans ε α) (s : σ) (x : τ) :
    (exec (withHistory h note) p (s, x)).1 = (exec h p s).1 ∧
      (exec (withHistory h note) p (s, x)).2.1 = (exec h p s).2 := by
  induction p generalizing s x with
  | pure a => exact ⟨rfl, rfl⟩
  | raise e => exact ⟨rfl, rfl⟩
  | perform act k ih => exact ih _ _ _

end Prog

end ZtPlanet.Lib
