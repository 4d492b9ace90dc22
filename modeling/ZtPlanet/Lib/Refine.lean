/-
# Programs whose actions are programs

`refine expand` replaces every action of a program by a program over finer actions, and hands the
outcome of that program, an exception included, to what follows.  It commutes with the ways in
which programs are built, so the refinement of a program can be read off its text.

`Assuming ok Q post` is the rule of such a program for what holds between two actions: as long as
every action meets `ok` in the state in which it is performed, every action satisfies `Q` there,
and the program ends in `post`.  `states` lists the states that a run passes, and
`Assuming.states` says that an invariant proved in this way holds in each of them.
-/
import ZtPlanet.Lib.Prog

namespace ZtPlanet.Lib

namespace Prog

variable {Act Act' : Type} {Ans : Act → Type} {Ans' : Act' → Type} {ε α β σ : Type}

/-! ## 1. Refinement -/

/-- Go on with the outcome of a program, whichever it is. -/
def attempt : Prog Act Ans ε α → (Except ε α → Prog Act Ans ε β) → Prog Act Ans ε β
  | .pure a, k => k (.ok a)
  | .raise e, k => k (.error e)
  | .perform act k', k => .perform act fun r => (k' r).attempt k

/-- Replace every action by a program. -/
def refine (expand : (act : Act) → Prog Act' Ans' ε (Ans act)) :
    Prog Act Ans ε α → Prog Act' Ans' ε α
  | .pure a => .pure a
  | .raise e => .raise e
  | .perform act k => (expand act).attempt fun r => refine expand (k r)

variable {expand : (act : Act) → Prog Act' Ans' ε (Ans act)}

theorem attempt_bind (p : Prog Act Ans ε α) (k : Except ε α → Prog Act Ans ε β) {γ : Type}
    (f : β → Prog Act Ans ε γ) :
    (p.attempt k >>= f) = p.attempt fun r => k r >>= f := by
  change (p.attempt k).bind f = p.attempt fun r => (k r).bind f
  induction p with
  | pure a => rfl
  | raise e => rfl
  | perform act k' ih => exact congrArg (Prog.perform act) (funext ih)

theorem attempt_tryCatch (p : Prog Act Ans ε α) (k : Except ε α → Prog Act Ans ε β)
    (f : ε → Prog Act Ans ε β) :
    tryCatch (p.attempt k) f = p.attempt fun r => tryCatch (k r) f := by
  change (p.attempt k).tryCatch f = p.attempt fun r => (k r).tryCatch f
  induction p with
  | pure a => rfl
  | raise e => rfl
  | perform act k' ih => exact congrArg (Prog.perform act) (funext ih)

theorem refine_bind (p : Prog Act Ans ε α) (f : α → Prog Act Ans ε β) :
    refine expand (p >>= f) = refine expand p >>= fun a => refine expand (f a) := by
  change refine expand (p.bind f) = _
  induction p with
  | pure a => rfl
  | raise e => rfl
  | perform act k ih =>
    refine Eq.trans ?_ (attempt_bind (expand act) (fun r => refine expand (k r)) _).symm
    exact congrArg (attempt (expand act)) (funext ih)

theorem refine_tryCatch (p : Prog Act Ans ε α) (f : ε → Prog Act Ans ε α) :
    refine expand (tryCatch p f) = tryCatch (refine expand p) fun e => refine expand (f e) := by
  change refine expand (p.tryCatch f) = _
  induction p with
  | pure a => rfl
  | raise e => rfl
  | perform act k ih =>
    refine Eq.trans ?_ (attempt_tryCatch (expand act) (fun r => refine expand (k r)) _).symm
    exact congrArg (attempt (expand act)) (funext ih)

theorem attempt_ofExcept (p : Prog Act Ans ε α) : p.attempt ofExcept = p := by
  induction p with
  | pure a => rfl
  | raise e => rfl
  | perform act k ih => exact congrArg (Prog.perform act) (funext ih)

theorem refine_ofExcept (x : Except ε α) :
    refine expand (ofExcept x : Prog Act Ans ε α) = ofExcept x := by
  cases x <;> rfl

theorem refine_call (act : Act) : refine expand (call act) = expand act := by
  refine Eq.trans ?_ (attempt_ofExcept (expand act))
  exact congrArg (attempt (expand act)) (funext fun r => refine_ofExcept r)

/-! ## 2. What holds as long as an assumption does -/

/-- As long as every action meets `ok`, every action satisfies `Q` and the program ends in
`post`. -/
def Assuming (h : Handler Act Ans ε σ) (ok Q : Act → σ → Prop) (post : Except ε α → σ → Prop) :
    Prog Act Ans ε α → σ → Prop
  | .pure a, s => post (.ok a) s
  | .raise e, s => post (.error e) s
  | .perform act k, s =>
    ok act s → Q act s ∧ Assuming h ok Q post (k (h act s).1) (h act s).2

variable {h : Handler Act Ans ε σ} {ok Q : Act → σ → Prop} {post post' : Except ε α → σ → Prop}
  {p : Prog Act Ans ε α} {s : σ}

theorem assuming_ofExcept {x : Except ε α} (hpost : post x s) :
    Assuming h ok Q post (ofExcept x : Prog Act Ans ε α) s := by
  cases x with
  | ok a => exact hpost
  | error e => exact hpost

theorem assuming_call {act : Act} {post : Except ε (Ans act) → σ → Prop}
    (hact : ok act s → Q act s ∧ post (h act s).1 (h act s).2) :
    Assuming h ok Q post (call act) s :=
  fun hok => ⟨(hact hok).1, assuming_ofExcept (hact hok).2⟩

theorem Assuming.mono (hp : Assuming h ok Q post p s) (hpost : ∀ r t, post r t → post' r t) :
    Assuming h ok Q post' p s := by
  induction p generalizing s with
  | pure a => exact hpost _ _ hp
  | raise e => exact hpost _ _ hp
  | perform act k ih => exact fun hok => ⟨(hp hok).1, ih _ (hp hok).2⟩

theorem Assuming.attempt {post : Except ε β → σ → Prop} {k : Except ε α → Prog Act Ans ε β}
    (hp : Assuming h ok Q (fun r t => Assuming h ok Q post (k r) t) p s) :
    Assuming h ok Q post (p.attempt k) s := by
  induction p generalizing s with
  | pure a => exact hp
  | raise e => exact hp
  | perform act k' ih => exact fun hok => ⟨(hp hok).1, ih _ (hp hok).2⟩

theorem Assuming.bind {post : Except ε β → σ → Prop} {f : α → Prog Act Ans ε β}
    (hp : Assuming h ok Q (fun r t =>
      match r with
      | .ok a => Assuming h ok Q post (f a) t
      | .error e => post (.error e) t) p s) :
    Assuming h ok Q post (p >>= f) s := by
  change Assuming h ok Q post (p.bind f) s
  induction p generalizing s with
  | pure a => exact hp
  | raise e => exact hp
  | perform act k ih => exact fun hok => ⟨(hp hok).1, ih _ (hp hok).2⟩

theorem Assuming.tryCatch {f : ε → Prog Act Ans ε α}
    (hp : Assuming h ok Q (fun r t =>
      match r with
      | .ok a => post (.ok a) t
      | .error e => Assuming h ok Q post (f e) t) p s) :
    Assuming h ok Q post (tryCatch p f) s := by
  change Assuming h ok Q post (p.tryCatch f) s
  induction p generalizing s with
  | pure a => exact hp
  | raise e => exact hp
  | perform act k ih => exact fun hok => ⟨(hp hok).1, ih _ (hp hok).2⟩

/-- **The invariant of a refined program.**  What the program of each of its actions keeps, the
refinement keeps. -/
theorem Only.assuming_refine {τ : Type} {h' : Handler Act' Ans' ε τ} {ok' Q' : Act' → τ → Prop}
    {A : Act → Prop} {I : τ → Prop} (hp : Only A p)
    (hact : ∀ act t, A act → I t → Assuming h' ok' Q' (fun _ u => I u) (expand act) t) {t : τ}
    (ht : I t) : Assuming h' ok' Q' (fun _ u => I u) (refine expand p) t := by
  induction p generalizing t with
  | pure a => exact ht
  | raise e => exact ht
  | perform act k ih =>
    exact Assuming.attempt ((hact act t hp.1 ht).mono fun r u hu => ih r (hp.2 r) hu)

/-! ## 3. The states of a run -/

/-- The states that a run passes, the first and the last among them. -/
def states (h : Handler Act Ans ε σ) : Prog Act Ans ε α → σ → List σ
  | .pure _, s => [s]
  | .raise _, s => [s]
  | .perform act k, s => s :: states h (k (h act s).1) (h act s).2

/-- An invariant that is proved action by action holds in every state that is passed. -/
theorem Assuming.states {I : σ → Prop}
    (hp : Assuming h ok (fun _ => I) (fun _ => I) p s) (hok : Along h ok p s) :
    (∀ t ∈ states h p s, I t) ∧ I (exec h p s).2 := by
  induction p generalizing s with
  | pure a => exact ⟨fun t ht => List.mem_singleton.mp ht ▸ hp, hp⟩
  | raise e => exact ⟨fun t ht => List.mem_singleton.mp ht ▸ hp, hp⟩
  | perform act k ih =>
    obtain ⟨hI, hk⟩ := hp hok.1
    obtain ⟨hrest, hend⟩ := ih _ hk hok.2
    refine ⟨fun t ht => ?_, hend⟩
    rcases List.mem_cons.mp ht with rfl | ht
    · exact hI
    · exact hrest t ht

end Prog

end ZtPlanet.Lib
