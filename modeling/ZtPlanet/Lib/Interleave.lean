/-
# Programs that take turns

Several programs run against one state.  A step of the pool lets one of them perform its next
action, so between two actions of a program any number of actions of the others may happen.

What a program can rely on is a relation between states, `R`, that every action of every program
respects.  `Steady` says that a program respects it, performs only actions that satisfy `Q` in the
state in which they are performed, and ends in a state that satisfies `post`, no matter what
happens in between as long as that respects `R` too; an action that does not meet `ok` is not
looked at.  `Steady` is proved along the text of a program, and `pool_invariant` is the rule for a
whole run.  A program may also have to perform an action because of the answer to the one before;
`pool_answers` says that it is still about to, as long as it has not had its turn.
-/
import Mathlib.Data.List.Induction
import ZtPlanet.Lib.Prog
import ZtPlanet.Lib.Machine
import ZtPlanet.Lib.Pool

namespace ZtPlanet.Lib

variable {Act : Type} {Ans : Act → Type} {ε α β σ Op : Type}

/-! ## 1. One program among others -/

namespace Prog

/-- The program is steady from `s` on. -/
def Steady (h : Handler Act Ans ε σ) (R : σ → σ → Prop) (ok Q : Act → σ → Prop)
    (post : Except ε α → σ → Prop) : Prog Act Ans ε α → σ → Prop
  | .pure a, s => post (.ok a) s
  | .raise e, s => post (.error e) s
  | .perform act k, s => ∀ s', R s s' → ok act s' →
      Q act s' ∧ R s' (h act s').2 ∧ Steady h R ok Q post (k (h act s').1) (h act s').2

variable {h : Handler Act Ans ε σ} {R : σ → σ → Prop} {ok Q : Act → σ → Prop}
  {post post' : Except ε α → σ → Prop} {p : Prog Act Ans ε α} {s s' : σ}

theorem steady_pure {a : α} (hpost : post (.ok a) s) :
    Steady h R ok Q post (Pure.pure a : Prog Act Ans ε α) s := hpost

theorem steady_throw {e : ε} (hpost : post (.error e) s) :
    Steady h R ok Q post (throw e : Prog Act Ans ε α) s := hpost

theorem steady_ofExcept {x : Except ε α} (hpost : post x s) :
    Steady h R ok Q post (ofExcept x : Prog Act Ans ε α) s := by
  cases x with
  | ok a => exact hpost
  | error e => exact hpost

theorem steady_call {act : Act} {post : Except ε (Ans act) → σ → Prop}
    (hact : ∀ s', R s s' → ok act s' →
      Q act s' ∧ R s' (h act s').2 ∧ post (h act s').1 (h act s').2) :
    Steady h R ok Q post (call act) s := by
  intro s' hrely hok
  obtain ⟨hQ, hR, hpost⟩ := hact s' hrely hok
  exact ⟨hQ, hR, steady_ofExcept hpost⟩

theorem Steady.mono (hp : Steady h R ok Q post p s) (hpost : ∀ r t, post r t → post' r t) :
    Steady h R ok Q post' p s := by
  induction p generalizing s with
  | pure a => exact hpost _ _ hp
  | raise e => exact hpost _ _ hp
  | perform act k ih =>
    intro s' hrely hok
    obtain ⟨hQ, hR, hk⟩ := hp s' hrely hok
    exact ⟨hQ, hR, ih _ hk⟩

/-- A sequence is steady where its first part ends in states from which its second part is. -/
theorem Steady.bind {post : Except ε β → σ → Prop} {f : α → Prog Act Ans ε β}
    (hp : Steady h R ok Q (fun r t =>
      match r with
      | .ok a => Steady h R ok Q post (f a) t
      | .error e => post (.error e) t) p s) :
    Steady h R ok Q post (p >>= f) s := by
  change Steady h R ok Q post (p.bind f) s
  induction p generalizing s with
  | pure a => exact hp
  | raise e => exact hp
  | perform act k ih =>
    intro s' hrely hok
    obtain ⟨hQ, hR, hk⟩ := hp s' hrely hok
    exact ⟨hQ, hR, ih _ hk⟩

/-- A guarded program is steady where its recovery is steady from the states in which it raises. -/
theorem Steady.tryCatch {f : ε → Prog Act Ans ε α}
    (hp : Steady h R ok Q (fun r t =>
      match r with
      | .ok a => post (.ok a) t
      | .error e => Steady h R ok Q post (f e) t) p s) :
    Steady h R ok Q post (tryCatch p f) s := by
  change Steady h R ok Q post (p.tryCatch f) s
  induction p generalizing s with
  | pure a => exact hp
  | raise e => exact hp
  | perform act k ih =>
    intro s' hrely hok
    obtain ⟨hQ, hR, hk⟩ := hp s' hrely hok
    exact ⟨hQ, hR, ih _ hk⟩

/-- A program that has not ended yet stays steady while others act. -/
theorem Steady.of_rely (htrans : ∀ s₁ s₂ s₃, R s₁ s₂ → R s₂ s₃ → R s₁ s₃)
    (hpost : ∀ r t t', post r t → R t t' → post r t') (hp : Steady h R ok Q post p s)
    (hrely : R s s') : Steady h R ok Q post p s' := by
  cases p with
  | pure a => exact hpost _ _ _ hp hrely
  | raise e => exact hpost _ _ _ hp hrely
  | perform act k => exact fun t ht hok => hp t (htrans _ _ _ hrely ht) hok

/-- Where every action that meets `ok` respects `R`, every program does. -/
theorem steady_of_forall (hact : ∀ act t, ok act t → Q act t ∧ R t (h act t).2) :
    Steady h R ok Q (fun _ _ => True) p s := by
  induction p generalizing s with
  | pure a => trivial
  | raise e => trivial
  | perform act k ih =>
    intro s' _ hok
    exact ⟨(hact act s' hok).1, (hact act s' hok).2, ih _⟩

/-- Where every action of a program that meets `ok` respects `R`, the program does, and it ends in
a state that others could have brought about as well. -/
theorem Only.steady {A : Act → Prop} (hp : Only A p) (hrefl : ∀ t, R t t)
    (htrans : ∀ s₁ s₂ s₃, R s₁ s₂ → R s₂ s₃ → R s₁ s₃)
    (hact : ∀ act t, A act → ok act t → Q act t ∧ R t (h act t).2) :
    Steady h R ok Q (fun _ t => R s t) p s := by
  have hfrom : ∀ (p : Prog Act Ans ε α) (s t : σ), Only A p → R s t →
      Steady h R ok Q (fun _ t => R s t) p t := by
    intro p
    induction p with
    | pure a => exact fun s t _ hst => hst
    | raise e => exact fun s t _ hst => hst
    | perform act k ih =>
      intro s t hp hst t' ht' hok
      obtain ⟨hQ, hR⟩ := hact act t' hp.1 hok
      exact ⟨hQ, hR, ih _ s _ (hp.2 _) (htrans _ _ _ hst (htrans _ _ _ ht' hR))⟩
  exact hfrom p s s hp (hrefl s)

/-- What a program returns whatever happens, it returns among others. -/
theorem Steady.and_yields {P : α → Prop} (hp : Steady h R ok Q post p s) (hy : Yields P p) :
    Steady h R ok Q (fun r t => post r t ∧ ∀ a, r = .ok a → P a) p s := by
  induction p generalizing s with
  | pure a =>
    refine ⟨hp, fun b hb => ?_⟩
    cases hb
    exact hy
  | raise e => exact ⟨hp, fun b hb => (nomatch hb)⟩
  | perform act k ih =>
    intro s' hrely hok
    obtain ⟨hQ, hR, hk⟩ := hp s' hrely hok
    exact ⟨hQ, hR, ih _ hk (hy _)⟩

end Prog

/-! ## 2. Pools of programs -/

/-- The shared state, and what is left of each program. -/
structure PoolState (Act : Type) (Ans : Act → Type) (ε α σ : Type) where
  state : σ
  tasks : List (Prog Act Ans ε α)

/-- A program is started, or one that was started performs its next action. -/
inductive PoolEvent (Op : Type) where
  | start (op : Op)
  | step (i : Nat)
deriving DecidableEq

/-- The pool as a machine, where `program op` is what is started for `op`. -/
def poolMachine (h : Prog.Handler Act Ans ε σ) (program : Op → Prog Act Ans ε α) :
    Machine (PoolState Act Ans ε α σ) (PoolEvent Op) where
  step w
    | .start op => some { w with tasks := w.tasks ++ [program op] }
    | .step i =>
      (w.tasks[i]?).bind fun p =>
        (Prog.tick h p w.state).map fun next => ⟨next.2, w.tasks.set i next.1⟩

/-- The action that an event performs. -/
def PoolState.performs (w : PoolState Act Ans ε α σ) : PoolEvent Op → Option Act
  | .start _ => none
  | .step i => (w.tasks[i]?).bind Prog.next

/-- The action that an event performs, if any, meets `ok`. -/
def PoolState.meets (ok : Act → σ → Prop) (w : PoolState Act Ans ε α σ) (event : PoolEvent Op) :
    Prop :=
  ∀ act ∈ w.performs event, ok act w.state

instance {ok : Act → σ → Prop} [∀ act s, Decidable (ok act s)] (w : PoolState Act Ans ε α σ)
    (event : PoolEvent Op) : Decidable (w.meets ok event) :=
  inferInstanceAs (Decidable (∀ act ∈ w.performs event, ok act w.state))

/-- Every program has ended. -/
def PoolState.finished (w : PoolState Act Ans ε α σ) : Prop :=
  ∀ p ∈ w.tasks, (Prog.outcome p).isSome = true

instance (w : PoolState Act Ans ε α σ) : Decidable w.finished := List.decidableBAll _ _

variable {h : Prog.Handler Act Ans ε σ} {program : Op → Prog Act Ans ε α} {R : σ → σ → Prop}
  {ok Q : Act → σ → Prop} {I : σ → Prop}

/-- What an event of a pool does: it starts a program, or a program performs its next action. -/
theorem pool_step_cases {w w' : PoolState Act Ans ε α σ} {event : PoolEvent Op}
    (hstep : (poolMachine h program).step w event = some w') :
    (∃ op, event = .start op ∧ w' = { w with tasks := w.tasks ++ [program op] }) ∨
    ∃ i act k, event = .step i ∧ w.tasks[i]? = some (.perform act k) ∧
      w.performs event = some act ∧
      w' = ⟨(h act w.state).2, w.tasks.set i (k (h act w.state).1)⟩ := by
  cases event with
  | start op =>
    cases hstep
    exact .inl ⟨op, rfl, rfl⟩
  | step i =>
    obtain ⟨p, hp, hstep⟩ := Option.bind_eq_some_iff.mp hstep
    obtain ⟨⟨q, s'⟩, htick, rfl⟩ := Option.map_eq_some_iff.mp hstep
    cases p with
    | pure a => cases htick
    | raise e => cases htick
    | perform act k =>
      cases htick
      exact .inr ⟨i, act, k, rfl, hp, Option.bind_eq_some_iff.mpr ⟨_, hp, rfl⟩, rfl⟩

/-- An event that cannot occur performs nothing. -/
theorem pool_stuck {w : PoolState Act Ans ε α σ} {event : PoolEvent Op}
    (hstep : (poolMachine h program).step w event = none) : w.meets ok event := by
  intro act hact
  cases event with
  | start op => cases hstep
  | step i =>
    obtain ⟨p, hp, hnext⟩ := Option.bind_eq_some_iff.mp hact
    cases p with
    | pure a => cases hnext
    | raise e => cases hnext
    | perform act' k =>
      change ((w.tasks[i]?).bind _) = none at hstep
      rw [hp] at hstep
      cases hstep

/-- **A step of steady programs.**  It leaves the state alone, or it is an action that meets `ok`
and `Q`; it respects `R`, and what is left of each program is steady. -/
theorem pool_step_steady (hrefl : ∀ s, R s s) (htrans : ∀ s₁ s₂ s₃, R s₁ s₂ → R s₂ s₃ → R s₁ s₃)
    {w w' : PoolState Act Ans ε α σ} {event : PoolEvent Op}
    (hprogram : ∀ op, Prog.Steady h R ok Q (fun _ _ => True) (program op) w.state)
    (hsteady : ∀ p ∈ w.tasks, Prog.Steady h R ok Q (fun _ _ => True) p w.state)
    (hmeets : w.meets ok event) (hstep : (poolMachine h program).step w event = some w') :
    (w'.state = w.state ∨
        ∃ act, ok act w.state ∧ Q act w.state ∧ w'.state = (h act w.state).2) ∧
      R w.state w'.state ∧ ∀ p ∈ w'.tasks, Prog.Steady h R ok Q (fun _ _ => True) p w'.state := by
  rcases pool_step_cases hstep with ⟨op, rfl, rfl⟩ | ⟨i, act, k, rfl, hp, hact, rfl⟩
  · exact ⟨.inl rfl, hrefl _, forall_mem_append_one hsteady (hprogram op)⟩
  · have hok := hmeets act hact
    obtain ⟨hQ, hR, hk⟩ := hsteady _ (List.mem_of_getElem? hp) _ (hrefl _) hok
    refine ⟨.inr ⟨act, hok, hQ, rfl⟩, hR, forall_mem_set (fun r hr => ?_) hk⟩
    exact (hsteady r hr).of_rely htrans (fun _ _ _ _ _ => trivial) hR

/-- Where every program that is started is steady and the invariant survives what respects `R`,
the invariant holds after every run whose actions meet `ok`, and what is left of each program is
steady. -/
theorem pool_steady (hrefl : ∀ s, R s s) (htrans : ∀ s₁ s₂ s₃, R s₁ s₂ → R s₂ s₃ → R s₁ s₃)
    (hinv : ∀ s s', I s → R s s' → I s')
    (hprogram : ∀ op s, I s → Prog.Steady h R ok Q (fun _ _ => True) (program op) s)
    {w w' : PoolState Act Ans ε α σ} {events : List (PoolEvent Op)} (hw : I w.state)
    (htasks : ∀ p ∈ w.tasks, Prog.Steady h R ok Q (fun _ _ => True) p w.state)
    (hok : (poolMachine h program).Conforms (PoolState.meets ok) w events)
    (hrun : (poolMachine h program).run w events = some w') :
    I w'.state ∧ ∀ p ∈ w'.tasks, Prog.Steady h R ok Q (fun _ _ => True) p w'.state := by
  refine Machine.run_invariant_of_conforms (M := poolMachine h program)
    (P := fun w => I w.state ∧
      ∀ p ∈ w.tasks, Prog.Steady h R ok Q (fun _ _ => True) p w.state)
    ?_ events ⟨hw, htasks⟩ hok hrun
  rintro u event u' ⟨hu, hsteady⟩ hmeets hstep
  obtain ⟨-, hR, hsteady'⟩ :=
    pool_step_steady hrefl htrans (fun op => hprogram op _ hu) hsteady hmeets hstep
  exact ⟨hinv _ _ hu hR, hsteady'⟩

/-- **The rule for pools.** -/
theorem pool_invariant (hrefl : ∀ s, R s s) (htrans : ∀ s₁ s₂ s₃, R s₁ s₂ → R s₂ s₃ → R s₁ s₃)
    (hinv : ∀ s s', I s → R s s' → I s')
    (hprogram : ∀ op s, I s → Prog.Steady h R ok Q (fun _ _ => True) (program op) s)
    {w w' : PoolState Act Ans ε α σ} {events : List (PoolEvent Op)} (hw : I w.state)
    (htasks : ∀ p ∈ w.tasks, Prog.Steady h R ok Q (fun _ _ => True) p w.state)
    (hok : (poolMachine h program).Conforms (PoolState.meets ok) w events)
    (hrun : (poolMachine h program).run w events = some w') :
    I w'.state :=
  (pool_steady hrefl htrans hinv hprogram hw htasks hok hrun).1

/-- **The exact rule for pools of steady programs.**  Where an action keeps the invariant if it
meets `ok` and is what a steady program performs, and breaks it if it does not meet `ok`, the
invariant holds all along a run if and only if every action of the run meets `ok`. -/
theorem pool_holds_iff (hrefl : ∀ s, R s s) (htrans : ∀ s₁ s₂ s₃, R s₁ s₂ → R s₂ s₃ → R s₁ s₃)
    (hprogram : ∀ op s, I s → Prog.Steady h R ok Q (fun _ _ => True) (program op) s)
    (hkeep : ∀ act s, I s → Q act s → ok act s → I (h act s).2)
    (hbreak : ∀ act s, I s → ¬ ok act s → ¬ I (h act s).2)
    {w : PoolState Act Ans ε α σ} (hw : I w.state)
    (htasks : ∀ p ∈ w.tasks, Prog.Steady h R ok Q (fun _ _ => True) p w.state)
    (events : List (PoolEvent Op)) :
    (∀ es, es <+: events → ∀ w', (poolMachine h program).run w es = some w' → I w'.state) ↔
      (poolMachine h program).Conforms (PoolState.meets ok) w events := by
  refine Machine.holds_iff_conforms (M := poolMachine h program) (P := fun w => I w.state)
    (I := fun w => I w.state ∧ ∀ p ∈ w.tasks, Prog.Steady h R ok Q (fun _ _ => True) p w.state)
    (fun _ hu => hu.1) ?_ ?_ (fun _ _ => pool_stuck) events ⟨hw, htasks⟩
  · rintro u event u' ⟨hu, hsteady⟩ hmeets hstep
    obtain ⟨hstate, -, hsteady'⟩ :=
      pool_step_steady hrefl htrans (fun op => hprogram op _ hu) hsteady hmeets hstep
    refine ⟨?_, hsteady'⟩
    rcases hstate with hsame | ⟨act, hok, hQ, hact⟩
    · exact hsame ▸ hu
    · exact hact ▸ hkeep act _ hu hQ hok
  · rintro u event u' ⟨hu, -⟩ hnot hstep
    rcases pool_step_cases hstep with ⟨op, rfl, rfl⟩ | ⟨i, act, k, rfl, -, hact, rfl⟩
    · exact absurd (fun _ hact => nomatch hact) hnot
    · refine hbreak act _ hu fun hok => hnot fun act' hact' => ?_
      cases hact.symm.trans hact'
      exact hok

/-- **The rule for pools without a condition.**  What the actions of steady programs keep holds
after every run, and what is left of each program is steady. -/
theorem pool_keeps (hrefl : ∀ s, R s s) (htrans : ∀ s₁ s₂ s₃, R s₁ s₂ → R s₂ s₃ → R s₁ s₃)
    (hprogram : ∀ op s, Prog.Steady h R (fun _ _ => True) Q (fun _ _ => True) (program op) s)
    (hkeep : ∀ act s, I s → Q act s → I (h act s).2)
    {w w' : PoolState Act Ans ε α σ} {events : List (PoolEvent Op)} (hw : I w.state)
    (htasks : ∀ p ∈ w.tasks, Prog.Steady h R (fun _ _ => True) Q (fun _ _ => True) p w.state)
    (hrun : (poolMachine h program).run w events = some w') :
    I w'.state ∧
      ∀ p ∈ w'.tasks, Prog.Steady h R (fun _ _ => True) Q (fun _ _ => True) p w'.state := by
  refine Machine.run_invariant (M := poolMachine h program)
    (P := fun w => I w.state ∧
      ∀ p ∈ w.tasks, Prog.Steady h R (fun _ _ => True) Q (fun _ _ => True) p w.state)
    ?_ events ⟨hw, htasks⟩ hrun
  rintro u event u' ⟨hu, hsteady⟩ hstep
  obtain ⟨hstate, -, hsteady'⟩ :=
    pool_step_steady hrefl htrans (fun op => hprogram op _) hsteady (fun _ _ => trivial) hstep
  refine ⟨?_, hsteady'⟩
  rcases hstate with hsame | ⟨act, -, hQ, hact⟩
  · exact hsame ▸ hu
  · exact hact ▸ hkeep act _ hu hQ

/-- **The exact rule for pools.**  Where an action keeps the invariant if and only if it meets `ok`,
the invariant holds all along a run if and only if every action of the run meets `ok`, whatever the
programs are. -/
theorem pool_invariant_iff (hact : ∀ act s, I s → (I (h act s).2 ↔ ok act s))
    {w : PoolState Act Ans ε α σ} (hw : I w.state) (events : List (PoolEvent Op)) :
    (∀ es, es <+: events → ∀ w', (poolMachine h program).run w es = some w' → I w'.state) ↔
      (poolMachine h program).Conforms (PoolState.meets ok) w events :=
  pool_holds_iff (R := fun _ _ => True) (Q := fun _ _ => True) (fun _ => trivial)
    (fun _ _ _ _ _ => trivial)
    (fun _ _ _ => Prog.steady_of_forall fun _ _ _ => ⟨trivial, trivial⟩)
    (fun act s hs _ hok => (hact act s hs).mpr hok)
    (fun act s hs hnot hI => hnot ((hact act s hs).mp hI)) hw
    (fun _ _ => Prog.steady_of_forall fun _ _ _ => ⟨trivial, trivial⟩) events

/-- **The relation between two states of a run.**  What comes later respects `R`. -/
theorem pool_rely (hrefl : ∀ s, R s s) (htrans : ∀ s₁ s₂ s₃, R s₁ s₂ → R s₂ s₃ → R s₁ s₃)
    (hprogram : ∀ op s, Prog.Steady h R ok Q (fun _ _ => True) (program op) s)
    {w w₁ w₂ : PoolState Act Ans ε α σ} {events₁ events₂ : List (PoolEvent Op)}
    (htasks : ∀ p ∈ w.tasks, Prog.Steady h R ok Q (fun _ _ => True) p w.state)
    (hok : (poolMachine h program).Conforms (PoolState.meets ok) w (events₁ ++ events₂))
    (hrun₁ : (poolMachine h program).run w events₁ = some w₁)
    (hrun₂ : (poolMachine h program).run w₁ events₂ = some w₂) :
    R w.state w₁.state ∧ R w₁.state w₂.state := by
  obtain ⟨hok₁, hok₂⟩ := Machine.conforms_append.mp hok
  obtain ⟨hR, hsteady⟩ := pool_steady (I := R w.state) hrefl htrans (fun _ _ => htrans _ _ _)
    (fun op s _ => hprogram op s) (hrefl _) htasks hok₁ hrun₁
  exact ⟨hR, pool_invariant (I := R w₁.state) hrefl htrans (fun _ _ => htrans _ _ _)
    (fun op s _ => hprogram op s) (hrefl _) hsteady (hok₂ w₁ hrun₁) hrun₂⟩

/-! ## 3. What a program owes

After some answers a program has to perform a certain action next.  In a pool the action is due
until the program gets its turn, and the actions of a kind that are due can be counted. -/

/-- After an answer for which `owes` names an action, the program performs that one next. -/
def Prog.Answers (owes : (act : Act) → Except ε (Ans act) → Option Act) :
    Prog Act Ans ε α → Prop
  | .pure _ | .raise _ => True
  | .perform act k => ∀ r, (∀ d, owes act r = some d → (k r).next = some d) ∧ Answers owes (k r)

section

variable {owes : (act : Act) → Except ε (Ans act) → Option Act}

theorem Prog.next_bind {p : Prog Act Ans ε α} {f : α → Prog Act Ans ε β} {act : Act}
    (h : p.next = some act) : (p.bind f).next = some act := by
  cases p with
  | pure a => cases h
  | raise e => cases h
  | perform act' k => exact h

theorem Prog.Answers.bind {p : Prog Act Ans ε α} {f : α → Prog Act Ans ε β} (hp : Answers owes p)
    (hf : ∀ a, Answers owes (f a)) : Answers owes (p >>= f) := by
  change Answers owes (p.bind f)
  induction p with
  | pure a => exact hf a
  | raise e => trivial
  | perform act k ih => exact fun r => ⟨fun d hd => next_bind ((hp r).1 d hd), ih r (hp r).2⟩

/-- A program none of whose actions owes anything. -/
theorem Prog.Only.answers {p : Prog Act Ans ε α} (hp : Only (fun act => ∀ r, owes act r = none) p) :
    Answers owes p := by
  induction p with
  | pure a => trivial
  | raise e => trivial
  | perform act k ih =>
    refine fun r => ⟨fun d hd => ?_, ih r (hp.2 r)⟩
    rw [hp.1 r] at hd
    cases hd

end

section

variable {owes : (act : Act) → Except ε (Ans act) → Option Act} {d d' : Act → Bool}

/-- The program is to perform such an action next. -/
def Prog.owed (d : Act → Bool) (p : Prog Act Ans ε α) : Nat := if p.next.any d then 1 else 0

/-- How many programs of the pool are to perform such an action next. -/
def PoolState.due (w : PoolState Act Ans ε α σ) (d : Act → Bool) : Nat :=
  weigh (Prog.owed d) w.tasks

end

/-- The operations that are started, in their order. -/
def started (events : List (PoolEvent Op)) : List Op :=
  events.filterMap fun
    | .start op => some op
    | .step _ => none

theorem started_append (es fs : List (PoolEvent Op)) :
    started (es ++ fs) = started es ++ started fs :=
  List.filterMap_append

/-- A pool grows by what is started. -/
theorem pool_length {w w' : PoolState Act Ans ε α σ} {events : List (PoolEvent Op)}
    (hrun : (poolMachine h program).run w events = some w') :
    w'.tasks.length = w.tasks.length + (started events).length := by
  induction events generalizing w with
  | nil =>
    obtain rfl := Option.some.inj hrun
    rfl
  | cons event events ih =>
    obtain ⟨u, hstep, hrun⟩ := Machine.run_cons_eq_some.mp hrun
    rw [ih hrun]
    rcases pool_step_cases hstep with ⟨op, rfl, rfl⟩ | ⟨i, act, k, rfl, -, -, rfl⟩
    · simp only [started, List.filterMap_cons, List.length_append, List.length_cons,
        List.length_nil]
      omega
    · simp only [started, List.filterMap_cons, List.length_set]

/-- **The rule for programs that meet the condition by themselves.**  Where the programs of the
pool, and those that a run starts, perform only actions that meet `ok` in every state, all actions
of the run meet it. -/
theorem pool_conforms {A : Act → Prop} (hA : ∀ act s, A act → ok act s)
    {w : PoolState Act Ans ε α σ} {events : List (PoolEvent Op)}
    (htasks : ∀ p ∈ w.tasks, Prog.Only A p)
    (hprogram : ∀ op ∈ started events, Prog.Only A (program op)) :
    (poolMachine h program).Conforms (PoolState.meets ok) w events := by
  induction events generalizing w with
  | nil => trivial
  | cons event events ih =>
    constructor
    · intro act hact
      cases event with
      | start op => cases hact
      | step i =>
        obtain ⟨p, hp, hnext⟩ := Option.bind_eq_some_iff.mp hact
        have honly := htasks p (List.mem_of_getElem? hp)
        cases p with
        | pure a => cases hnext
        | raise e => cases hnext
        | perform act' k =>
          cases hnext
          exact hA _ _ honly.1
    · intro w' hstep
      have hlater : ∀ op ∈ started events, Prog.Only A (program op) := by
        intro op hop
        refine hprogram op ?_
        rw [← List.singleton_append, started_append]
        exact List.mem_append_right _ hop
      rcases pool_step_cases hstep with ⟨op, rfl, rfl⟩ | ⟨i, act, k, rfl, hp, -, rfl⟩
      · exact ih (forall_mem_append_one htasks (hprogram op (List.mem_cons_self ..))) hlater
      · exact ih (forall_mem_set htasks ((htasks _ (List.mem_of_getElem? hp)).2 _)) hlater

/-- **The rule for what is started later.**  Every action that meets `ok` respects `R`, whoever
performs it, and each program is steady with a `Q` of its own.  Then what is left of each program
that the run has started is steady with its `Q`. -/
theorem pool_started {Q : Op → Act → σ → Prop} (hrefl : ∀ s, R s s)
    (htrans : ∀ s₁ s₂ s₃, R s₁ s₂ → R s₂ s₃ → R s₁ s₃) (hinv : ∀ s s', I s → R s s' → I s')
    (hact : ∀ act s, ok act s → R s (h act s).2)
    (hprogram : ∀ op s, I s → Prog.Steady h R ok (Q op) (fun _ _ => True) (program op) s)
    {w w' : PoolState Act Ans ε α σ} {events : List (PoolEvent Op)} (hw : I w.state)
    (hok : (poolMachine h program).Conforms (PoolState.meets ok) w events)
    (hrun : (poolMachine h program).run w events = some w') :
    I w'.state ∧ ∀ (k : Nat) (op : Op) (p : Prog Act Ans ε α), (started events)[k]? = some op →
      w'.tasks[w.tasks.length + k]? = some p →
        Prog.Steady h R ok (Q op) (fun _ _ => True) p w'.state := by
  induction events using List.reverseRecOn generalizing w' with
  | nil =>
    obtain rfl := Option.some.inj hrun
    exact ⟨hw, fun k op p hop => nomatch hop⟩
  | append_singleton events event ih =>
    rw [Machine.run_append] at hrun
    obtain ⟨u, hinit, hlast⟩ := Option.bind_eq_some_iff.mp hrun
    obtain ⟨w'', hstep, hend⟩ := Machine.run_cons_eq_some.mp hlast
    obtain rfl := Option.some.inj hend
    obtain ⟨hinitial, hfinal⟩ := Machine.conforms_append.mp hok
    obtain ⟨hu, hsteady⟩ := ih hinitial hinit
    have hlength := pool_length hinit
    rcases pool_step_cases hstep with ⟨op, rfl, rfl⟩ | ⟨i, act, k, rfl, hi, hperforms, rfl⟩
    · refine ⟨hu, fun j op' p hop hp => ?_⟩
      rw [started_append] at hop
      rcases Nat.lt_or_ge j (started events).length with hj | hj
      · rw [List.getElem?_append_left hj] at hop
        rw [List.getElem?_append_left (by omega)] at hp
        exact hsteady j op' p hop hp
      · -- the program that has just been started
        rw [List.getElem?_append_right hj] at hop
        rw [List.getElem?_append_right (by omega)] at hp
        rw [List.mem_singleton.mp (List.mem_of_getElem? hp),
          List.mem_singleton.mp (List.mem_of_getElem? hop)]
        exact hprogram op u.state hu
    · have hmeets : ok act u.state := (hfinal u hinit).1 act hperforms
      have hR := hact act u.state hmeets
      refine ⟨hinv _ _ hu hR, fun j op' p hop hp => ?_⟩
      rw [started_append, show started [(.step i : PoolEvent Op)] = [] from rfl, List.append_nil]
        at hop
      rcases getElem?_set_cases hp with ⟨rfl, rfl⟩ | ⟨-, hp⟩
      · exact (hsteady j op' _ hop hi u.state (hrefl _) hmeets).2.2
      · exact (hsteady j op' p hop hp).of_rely htrans (fun _ _ _ _ _ => trivial) hR

/-- What a program that was started later performs. -/
theorem pool_performs {Q : Act → σ → Prop} (hrefl : ∀ s, R s s)
    {w : PoolState Act Ans ε α σ} {i : Nat}
    {p : Prog Act Ans ε α} {act : Act} (hp : w.tasks[i]? = some p)
    (hsteady : Prog.Steady h R ok Q (fun _ _ => True) p w.state)
    (hact : w.performs (.step i : PoolEvent Op) = some act) (hok : ok act w.state) :
    Q act w.state := by
  obtain ⟨p', hp', hnext⟩ := Option.bind_eq_some_iff.mp hact
  obtain rfl := Option.some.inj (hp.symm.trans hp')
  cases p with
  | pure a => cases hnext
  | raise e => cases hnext
  | perform act' k =>
    cases hnext
    exact (hsteady w.state (hrefl _) hok).1

end ZtPlanet.Lib
