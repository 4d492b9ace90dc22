/-
# Programs over atomic actions

A function that talks to the outside (a disk, a database, another process) is a `Prog`: it returns
a value, raises an exception, or performs one action and goes on with the answer, which may itself
be an exception.  `bind` and `tryCatch` give it `do` notation and `try … catch`, so a translation
reads like its source.

What the outside does is a `Handler`, one atomic step for each action, and there are two ways to
run a program against it.  `exec` runs it to its end.  `tick` takes one step, which is what an
interleaving of several programs is made of; `exec_of_tick` says that the two agree.

Three kinds of facts about a program are closed under `bind` and `tryCatch` and so are proved along
its text: which actions it performs at all (`Only`), what holds of each action in the state in
which it is performed (`Along`), and where it ends (`exec`).
-/
import Mathlib.Tactic.Common

namespace ZtPlanet.Lib

/-! ## 1. Programs -/

/-- A program that performs actions `Act`, answered by `Ans`, and raises `ε`. -/
inductive Prog (Act : Type) (Ans : Act → Type) (ε α : Type) : Type where
  | pure (a : α)
  | raise (e : ε)
  | perform (act : Act) (k : Except ε (Ans act) → Prog Act Ans ε α)

namespace Prog

variable {Act : Type} {Ans : Act → Type} {ε α β σ : Type}

/-- Go on with `f` where the program returns. -/
protected def bind : Prog Act Ans ε α → (α → Prog Act Ans ε β) → Prog Act Ans ε β
  | .pure a, f => f a
  | .raise e, _ => .raise e
  | .perform act k, f => .perform act fun r => (k r).bind f

/-- Go on with `f` where the program raises. -/
protected def tryCatch : Prog Act Ans ε α → (ε → Prog Act Ans ε α) → Prog Act Ans ε α
  | .pure a, _ => .pure a
  | .raise e, f => f e
  | .perform act k, f => .perform act fun r => (k r).tryCatch f

instance : Monad (Prog Act Ans ε) where
  pure := .pure
  bind := .bind

instance : MonadExceptOf ε (Prog Act Ans ε) where
  throw := .raise
  tryCatch := .tryCatch

/-- A computation without actions. -/
def ofExcept : Except ε α → Prog Act Ans ε α
  | .ok a => .pure a
  | .error e => .raise e

/-- Perform one action; if it is answered by an exception, raise it. -/
def call (act : Act) : Prog Act Ans ε (Ans act) := .perform act ofExcept

/-! ## 2. Running a program to its end -/

/-- What each action does to the state, and its answer. -/
abbrev Handler (Act : Type) (Ans : Act → Type) (ε σ : Type) : Type :=
  (act : Act) → σ → Except ε (Ans act) × σ

/-- The outcome of a program and the state behind it. -/
def exec (h : Handler Act Ans ε σ) : Prog Act Ans ε α → σ → Except ε α × σ
  | .pure a, s => (.ok a, s)
  | .raise e, s => (.error e, s)
  | .perform act k, s => exec h (k (h act s).1) (h act s).2

variable {h : Handler Act Ans ε σ} {s t : σ}

@[simp] theorem exec_pure (a : α) : exec h (Pure.pure a : Prog Act Ans ε α) s = (.ok a, s) := rfl

@[simp] theorem exec_throw (e : ε) : exec h (throw e : Prog Act Ans ε α) s = (.error e, s) := rfl

@[simp] theorem exec_call (act : Act) : exec h (call act) s = h act s := by
  change exec h (ofExcept (h act s).1) (h act s).2 = h act s
  cases he : h act s with
  | mk r t => cases r <;> rfl

@[simp] theorem exec_ofExcept (x : Except ε α) :
    exec h (ofExcept x : Prog Act Ans ε α) s = (x, s) := by
  cases x <;> rfl

theorem exec_bind (p : Prog Act Ans ε α) (f : α → Prog Act Ans ε β) :
    exec h (p >>= f) s =
      match exec h p s with
      | (.ok a, t) => exec h (f a) t
      | (.error e, t) => (.error e, t) := by
  change exec h (p.bind f) s = _
  induction p generalizing s with
  | pure a => rfl
  | raise e => rfl
  | perform act k ih => exact ih _

theorem exec_tryCatch (p : Prog Act Ans ε α) (f : ε → Prog Act Ans ε α) :
    exec h (tryCatch p f) s =
      match exec h p s with
      | (.ok a, t) => (.ok a, t)
      | (.error e, t) => exec h (f e) t := by
  change exec h (p.tryCatch f) s = _
  induction p generalizing s with
  | pure a => rfl
  | raise e => rfl
  | perform act k ih => exact ih _

/-- A sequence ends where its second part does, or where its first part raises. -/
theorem exec_bind_eq {p : Prog Act Ans ε α} {f : α → Prog Act Ans ε β} {r : Except ε β} :
    exec h (p >>= f) s = (r, t) ↔
      (∃ a u, exec h p s = (.ok a, u) ∧ exec h (f a) u = (r, t)) ∨
      ∃ e, exec h p s = (.error e, t) ∧ r = .error e := by
  rw [exec_bind]
  cases hp : exec h p s with
  | mk x u =>
    cases x with
    | ok a => simp
    | error e =>
      simp only [Prod.mk.injEq, reduceCtorEq, false_and, exists_false, false_or,
        Except.error.injEq]
      constructor
      · rintro ⟨rfl, rfl⟩
        exact ⟨e, ⟨rfl, rfl⟩, rfl⟩
      · rintro ⟨e', ⟨rfl, rfl⟩, rfl⟩
        exact ⟨rfl, rfl⟩

/-- A sequence returns where both parts do. -/
theorem exec_bind_eq_ok {p : Prog Act Ans ε α} {f : α → Prog Act Ans ε β} {b : β} :
    exec h (p >>= f) s = (.ok b, t) ↔
      ∃ a u, exec h p s = (.ok a, u) ∧ exec h (f a) u = (.ok b, t) := by
  rw [exec_bind_eq]
  simp

/-- A property of the state behind a sequence. -/
theorem exec_bind_snd {P : σ → Prop} {p : Prog Act Ans ε α} {f : α → Prog Act Ans ε β}
    (herror : ∀ e u, exec h p s = (.error e, u) → P u)
    (hok : ∀ a u, exec h p s = (.ok a, u) → P (exec h (f a) u).2) :
    P (exec h (p >>= f) s).2 := by
  rw [exec_bind]
  cases hp : exec h p s with
  | mk r u =>
    cases r with
    | ok a => exact hok a u hp
    | error e => exact herror e u hp

theorem exec_bind_ok {p : Prog Act Ans ε α} {f : α → Prog Act Ans ε β} {a : α}
    (hp : exec h p s = (.ok a, t)) : exec h (p >>= f) s = exec h (f a) t := by
  rw [exec_bind, hp]

theorem exec_bind_error {p : Prog Act Ans ε α} {f : α → Prog Act Ans ε β} {e : ε}
    (hp : exec h p s = (.error e, t)) : exec h (p >>= f) s = (.error e, t) := by
  rw [exec_bind, hp]

/-! ## 3. Which actions a program performs -/

/-- Whatever the answers, the program performs only actions in `A`. -/
def Only (A : Act → Prop) : Prog Act Ans ε α → Prop
  | .pure _ => True
  | .raise _ => True
  | .perform act k => A act ∧ ∀ r, Only A (k r)

variable {A B : Act → Prop} {p : Prog Act Ans ε α}

theorem only_pure (a : α) : Only A (Pure.pure a : Prog Act Ans ε α) := trivial

theorem only_throw (e : ε) : Only A (throw e : Prog Act Ans ε α) := trivial

theorem only_ofExcept (x : Except ε α) : Only A (ofExcept x : Prog Act Ans ε α) := by
  cases x <;> trivial

theorem only_call {act : Act} (ha : A act) : Only A (call act : Prog Act Ans ε (Ans act)) :=
  ⟨ha, only_ofExcept⟩

theorem Only.bind {f : α → Prog Act Ans ε β} (hp : Only A p) (hf : ∀ a, Only A (f a)) :
    Only A (p >>= f) := by
  change Only A (p.bind f)
  induction p with
  | pure a => exact hf a
  | raise e => trivial
  | perform act k ih => exact ⟨hp.1, fun r => ih r (hp.2 r)⟩

theorem Only.tryCatch {f : ε → Prog Act Ans ε α} (hp : Only A p) (hf : ∀ e, Only A (f e)) :
    Only A (tryCatch p f) := by
  change Only A (p.tryCatch f)
  induction p with
  | pure a => trivial
  | raise e => exact hf e
  | perform act k ih => exact ⟨hp.1, fun r => ih r (hp.2 r)⟩

theorem Only.mono (hp : Only A p) (hAB : ∀ act, A act → B act) : Only B p := by
  induction p with
  | pure a => trivial
  | raise e => trivial
  | perform act k ih => exact ⟨hAB act hp.1, fun r => ih r (hp.2 r)⟩

/-- **The frame rule.**  What every action of a program preserves, the program preserves. -/
theorem Only.exec_preserves {I : σ → Prop} (hp : Only A p)
    (hA : ∀ act s, A act → I s → I (h act s).2) (hs : I s) : I (exec h p s).2 := by
  induction p generalizing s with
  | pure a => exact hs
  | raise e => exact hs
  | perform act k ih => exact ih _ (hp.2 _) (hA act s hp.1 hs)

/-- **The relational rule.**  Where every action answers two related states alike and keeps them
related, the program does so too. -/
theorem Only.exec_rel {R : σ → σ → Prop} (hp : Only A p)
    (hA : ∀ act s t, A act → R s t → (h act s).1 = (h act t).1 ∧ R (h act s).2 (h act t).2)
    (hst : R s t) : (exec h p s).1 = (exec h p t).1 ∧ R (exec h p s).2 (exec h p t).2 := by
  induction p generalizing s t with
  | pure a => exact ⟨rfl, hst⟩
  | raise e => exact ⟨rfl, hst⟩
  | perform act k ih =>
    obtain ⟨hanswer, hrel⟩ := hA act s t hp.1 hst
    change (exec h (k (h act s).1) _).1 = (exec h (k (h act t).1) _).1 ∧
      R (exec h (k (h act s).1) _).2 (exec h (k (h act t).1) _).2
    rw [hanswer]
    exact ih _ (hp.2 _) hrel

/-- Two runs of a sequence are related where those of its first part are, and from related states
those of what follows. -/
theorem exec_rel_bind {R : σ → σ → Prop} {f : α → Prog Act Ans ε β}
    (hp : (exec h p s).1 = (exec h p t).1 ∧ R (exec h p s).2 (exec h p t).2)
    (hf : ∀ a s' t', exec h p s = (.ok a, s') → exec h p t = (.ok a, t') → R s' t' →
      (exec h (f a) s').1 = (exec h (f a) t').1 ∧ R (exec h (f a) s').2 (exec h (f a) t').2) :
    (exec h (p >>= f) s).1 = (exec h (p >>= f) t).1 ∧
      R (exec h (p >>= f) s).2 (exec h (p >>= f) t).2 := by
  obtain ⟨r, s', hs⟩ : ∃ r s', exec h p s = (r, s') := ⟨_, _, rfl⟩
  obtain ⟨r', t', ht⟩ : ∃ r t', exec h p t = (r, t') := ⟨_, _, rfl⟩
  rw [hs, ht] at hp
  obtain ⟨rfl, hR⟩ : r = r' ∧ R s' t' := hp
  cases r with
  | ok a =>
    rw [exec_bind_ok hs, exec_bind_ok ht]
    exact hf a s' t' hs ht hR
  | error e =>
    rw [exec_bind_error hs, exec_bind_error ht]
    exact ⟨rfl, hR⟩

/-! ## 4. What holds of each action when it is performed -/

/-- On the run from `s`, every action satisfies `Q` in the state in which it is performed. -/
def Along (h : Handler Act Ans ε σ) (Q : Act → σ → Prop) : Prog Act Ans ε α → σ → Prop
  | .pure _, _ => True
  | .raise _, _ => True
  | .perform act k, s => Q act s ∧ Along h Q (k (h act s).1) (h act s).2

variable {Q : Act → σ → Prop}

/-- Whether it does can be computed. -/
instance instDecidableAlong [∀ act s, Decidable (Q act s)] :
    ∀ (p : Prog Act Ans ε α) (s : σ), Decidable (Along h Q p s)
  | .pure _, _ => isTrue trivial
  | .raise _, _ => isTrue trivial
  | .perform act k, s =>
    have : Decidable (Along h Q (k (h act s).1) (h act s).2) := instDecidableAlong _ _
    inferInstanceAs (Decidable (Q act s ∧ _))

theorem along_pure (a : α) : Along h Q (Pure.pure a : Prog Act Ans ε α) s := trivial

theorem along_throw (e : ε) : Along h Q (throw e : Prog Act Ans ε α) s := trivial

theorem along_ofExcept (x : Except ε α) : Along h Q (ofExcept x : Prog Act Ans ε α) s := by
  cases x <;> trivial

theorem along_call {act : Act} (hQ : Q act s) : Along h Q (call act : Prog Act Ans ε (Ans act)) s :=
  ⟨hQ, along_ofExcept _⟩

theorem Along.bind {f : α → Prog Act Ans ε β} (hp : Along h Q p s)
    (hf : ∀ a t, exec h p s = (.ok a, t) → Along h Q (f a) t) : Along h Q (p >>= f) s := by
  change Along h Q (p.bind f) s
  induction p generalizing s with
  | pure a => exact hf a s rfl
  | raise e => trivial
  | perform act k ih => exact ⟨hp.1, ih _ hp.2 hf⟩

theorem Along.tryCatch {f : ε → Prog Act Ans ε α} (hp : Along h Q p s)
    (hf : ∀ e t, exec h p s = (.error e, t) → Along h Q (f e) t) :
    Along h Q (tryCatch p f) s := by
  change Along h Q (p.tryCatch f) s
  induction p generalizing s with
  | pure a => trivial
  | raise e => exact hf e s rfl
  | perform act k ih => exact ⟨hp.1, ih _ hp.2 hf⟩

theorem along_call_iff {act : Act} :
    Along h Q (call act : Prog Act Ans ε (Ans act)) s ↔ Q act s :=
  ⟨fun hp => hp.1, along_call⟩

/-- A sequence is fine along the way where both its parts are. -/
theorem along_bind_iff {f : α → Prog Act Ans ε β} :
    Along h Q (p >>= f) s ↔
      Along h Q p s ∧ ∀ a t, exec h p s = (.ok a, t) → Along h Q (f a) t := by
  refine ⟨?_, fun hp => hp.1.bind hp.2⟩
  change Along h Q (p.bind f) s → _
  induction p generalizing s with
  | pure a =>
    intro hp
    refine ⟨trivial, fun b t heq => ?_⟩
    cases heq
    exact hp
  | raise e =>
    intro _
    refine ⟨trivial, fun b t heq => ?_⟩
    cases heq
  | perform act k ih =>
    intro hp
    have hk := ih _ hp.2
    exact ⟨⟨hp.1, hk.1⟩, hk.2⟩

/-- A guarded program is fine along the way where it is itself and, where it raises, its recovery
is. -/
theorem along_tryCatch_iff {f : ε → Prog Act Ans ε α} :
    Along h Q (tryCatch p f) s ↔
      Along h Q p s ∧ ∀ e t, exec h p s = (.error e, t) → Along h Q (f e) t := by
  refine ⟨?_, fun hp => hp.1.tryCatch hp.2⟩
  change Along h Q (p.tryCatch f) s → _
  induction p generalizing s with
  | pure a =>
    intro _
    refine ⟨trivial, fun b t heq => ?_⟩
    cases heq
  | raise e =>
    intro hp
    refine ⟨trivial, fun b t heq => ?_⟩
    cases heq
    exact hp
  | perform act k ih =>
    intro hp
    have hk := ih _ hp.2
    exact ⟨⟨hp.1, hk.1⟩, hk.2⟩

/-- What may happen along the way may be weakened. -/
theorem Along.mono {Q' : Act → σ → Prop} (hp : Along h Q p s)
    (hQ : ∀ act t, Q act t → Q' act t) : Along h Q' p s := by
  induction p generalizing s with
  | pure a => trivial
  | raise e => trivial
  | perform act k ih => exact ⟨hQ act s hp.1, ih _ hp.2⟩

/-- **The frame rule along a run.**  What every action that satisfies `Q` preserves, a run along
which every action satisfies `Q` preserves. -/
theorem Along.exec_preserves {I : σ → Prop} (hp : Along h Q p s)
    (hQ : ∀ act t, Q act t → I t → I (h act t).2) (hs : I s) : I (exec h p s).2 := by
  induction p generalizing s with
  | pure a => exact hs
  | raise e => exact hs
  | perform act k ih => exact ih _ hp.2 (hQ act s hp.1 hs)

/-- Actions that are fine in every state are fine along the way. -/
theorem Only.along (hp : Only A p) (hA : ∀ act s, A act → Q act s) (s : σ) : Along h Q p s := by
  induction p generalizing s with
  | pure a => trivial
  | raise e => trivial
  | perform act k ih => exact ⟨hA act s hp.1, ih _ (hp.2 _) _⟩

/-! ## 5. What a program returns -/

/-- Whatever the answers, what the program returns satisfies `P`. -/
def Yields (P : α → Prop) : Prog Act Ans ε α → Prop
  | .pure a => P a
  | .raise _ => True
  | .perform _ k => ∀ r, Yields P (k r)

variable {P : α → Prop}

theorem yields_pure {a : α} (ha : P a) : Yields P (Pure.pure a : Prog Act Ans ε α) := ha

theorem yields_of_forall (hP : ∀ a, P a) : Yields P p := by
  induction p with
  | pure a => exact hP a
  | raise e => trivial
  | perform act k ih => exact ih

theorem Yields.bind {P' : β → Prop} {f : α → Prog Act Ans ε β} (hp : Yields P p)
    (hf : ∀ a, P a → Yields P' (f a)) : Yields P' (p >>= f) := by
  change Yields P' (p.bind f)
  induction p with
  | pure a => exact hf a hp
  | raise e => trivial
  | perform act k ih => exact fun r => ih r (hp r)

/-! ## 6. One step at a time -/

/-- Perform the next action; `none` where the program has ended. -/
def tick (h : Handler Act Ans ε σ) : Prog Act Ans ε α → σ → Option (Prog Act Ans ε α × σ)
  | .pure _, _ => none
  | .raise _, _ => none
  | .perform act k, s => some (k (h act s).1, (h act s).2)

/-- The next action. -/
def next : Prog Act Ans ε α → Option Act
  | .pure _ | .raise _ => none
  | .perform act _ => some act

/-- The outcome of a program that has ended. -/
def outcome : Prog Act Ans ε α → Option (Except ε α)
  | .pure a => some (.ok a)
  | .raise e => some (.error e)
  | .perform _ _ => none

/-! ## 7. Programs over two stores -/

section Sum

variable {Act' : Type} {Ans' : Act' → Type} {τ : Type}

/-- A program over the first of two kinds of actions. -/
def inl : Prog Act Ans ε α → Prog (Act ⊕ Act') (Sum.elim Ans Ans') ε α
  | .pure a => .pure a
  | .raise e => .raise e
  | .perform act k => .perform (.inl act) fun r => (k r).inl

/-- Perform one action of the second kind. -/
def callInr (act : Act') : Prog (Act ⊕ Act') (Sum.elim Ans Ans') ε (Ans' act) :=
  .perform (.inr act) ofExcept

/-- Two stores next to each other; an action on the second may look at the first. -/
def handleSum (h : Handler Act Ans ε σ)
    (h' : (act : Act') → σ → τ → Except ε (Ans' act) × τ) :
    Handler (Act ⊕ Act') (Sum.elim Ans Ans') ε (σ × τ)
  | .inl act, (s, t) => ((h act s).1, ((h act s).2, t))
  | .inr act, (s, t) => ((h' act s t).1, (s, (h' act s t).2))

variable {h' : (act : Act') → σ → τ → Except ε (Ans' act) × τ}

@[simp] theorem exec_inl (p : Prog Act Ans ε α) (s : σ) (t : τ) :
    exec (handleSum h h') (inl p) (s, t) = ((exec h p s).1, ((exec h p s).2, t)) := by
  induction p generalizing s with
  | pure a => rfl
  | raise e => rfl
  | perform act k ih => exact ih _ _

@[simp] theorem exec_callInr (act : Act') (s : σ) (t : τ) :
    exec (handleSum h h') (callInr act) (s, t) = ((h' act s t).1, (s, (h' act s t).2)) :=
  exec_call (h := handleSum h h') (.inr act)

end Sum

end Prog

end ZtPlanet.Lib
