/-
# All or nothing

A program that changes several stores one after the other, without undoing anything, is all or
nothing on a run if it either returns and has made the change, or raises and has left the stores as
they were.  What the stores are is a `view` of the state.

`Ends` says beforehand whether a run returns; where a program begins with a part that is decided
beforehand and leaves the view alone, `Ends.allOrNothing_iff` leaves the rest of it.
-/
import ZtPlanet.Lib.Prog

namespace ZtPlanet.Lib.Prog

variable {Act : Type} {Ans : Act → Type} {ε α β σ τ : Type} {h : Handler Act Ans ε σ} {s : σ}

/-! ## 1. Outcomes that are known beforehand -/

/-- The run from `s` returns exactly if `C`: with a value and in a state that satisfy `F` where it
returns, in a state that satisfies `E` where it raises. -/
def Ends (h : Handler Act Ans ε σ) (p : Prog Act Ans ε α) (s : σ) (C : Prop) (F : α → σ → Prop)
    (E : σ → Prop) : Prop :=
  match exec h p s with
  | (.ok a, t) => C ∧ F a t
  | (.error _, t) => ¬C ∧ E t

variable {C D : Prop} {F F' : α → σ → Prop} {G : β → σ → Prop} {E E' : σ → Prop}
  {p : Prog Act Ans ε α} {f : α → Prog Act Ans ε β}

theorem Ends.of_ok {a : α} {t : σ} (hp : exec h p s = (.ok a, t)) (hC : C) (hF : F a t) :
    Ends h p s C F E := by
  unfold Ends
  rw [hp]
  exact ⟨hC, hF⟩

theorem Ends.of_error {e : ε} {t : σ} (hp : exec h p s = (.error e, t)) (hC : ¬C) (hE : E t) :
    Ends h p s C F E := by
  unfold Ends
  rw [hp]
  exact ⟨hC, hE⟩

/-- An action that either fails or is done. -/
theorem Ends.of_if {fails : Bool} {a : α} {e : ε} {t u : σ}
    (hp : exec h p s = if fails then (.error e, u) else (.ok a, t)) :
    Ends h p s (fails = false) (fun b v => b = a ∧ v = t) fun v => v = u := by
  cases fails with
  | true => exact .of_error hp (by simp) rfl
  | false => exact .of_ok hp rfl ⟨rfl, rfl⟩

theorem ends_pure {a : α} (hF : F a s) : Ends h (Pure.pure a : Prog Act Ans ε α) s True F E :=
  .of_ok rfl trivial hF

theorem ends_throw {e : ε} (hE : E s) : Ends h (throw e : Prog Act Ans ε α) s False F E :=
  .of_error rfl not_false hE

/-- Of a run that returns. -/
theorem Ends.ok (hp : Ends h p s C F E) {a : α} {t : σ} (heq : exec h p s = (.ok a, t)) :
    C ∧ F a t := by
  unfold Ends at hp
  rwa [heq] at hp

/-- Of a run that raises. -/
theorem Ends.error (hp : Ends h p s C F E) {e : ε} {t : σ} (heq : exec h p s = (.error e, t)) :
    ¬C ∧ E t := by
  unfold Ends at hp
  rwa [heq] at hp

theorem Ends.mono (hp : Ends h p s C F E) (hC : C ↔ D) (hF : ∀ a t, C → F a t → F' a t)
    (hE : ∀ t, E t → E' t) : Ends h p s D F' E' := by
  obtain ⟨r, t, heq⟩ : ∃ r t, exec h p s = (r, t) := ⟨_, _, rfl⟩
  cases r with
  | ok a => exact .of_ok heq (hC.mp (hp.ok heq).1) (hF a t (hp.ok heq).1 (hp.ok heq).2)
  | error e => exact .of_error heq (fun hD => (hp.error heq).1 (hC.mpr hD)) (hE t (hp.error heq).2)

theorem Ends.mono_error (hp : Ends h p s C F E) (hE : ∀ t, E t → E' t) : Ends h p s C F E' :=
  hp.mono Iff.rfl (fun _ _ _ hF => hF) hE

theorem Ends.mono_ok (hp : Ends h p s C F E) (hF : ∀ a t, F a t → F' a t) : Ends h p s C F' E :=
  hp.mono Iff.rfl (fun a t _ => hF a t) fun _ hE => hE

theorem Ends.congr (hp : Ends h p s C F E) (hC : C ↔ D) : Ends h p s D F E :=
  hp.mono hC (fun _ _ _ hF => hF) fun _ hE => hE

/-- **A sequence** returns if its first part does and, from where this ends, its second. -/
theorem Ends.bind (hp : Ends h p s C F E) (hf : ∀ a t, C → F a t → Ends h (f a) t D G E) :
    Ends h (p >>= f) s (C ∧ D) G E := by
  obtain ⟨r, t, heq⟩ : ∃ r t, exec h p s = (r, t) := ⟨_, _, rfl⟩
  cases r with
  | ok a =>
    obtain ⟨hC, hF⟩ := hp.ok heq
    have hrest := hf a t hC hF
    obtain ⟨r', u, heq'⟩ : ∃ r' u, exec h (f a) t = (r', u) := ⟨_, _, rfl⟩
    have hboth := (exec_bind_ok heq).trans heq'
    cases r' with
    | ok b => exact .of_ok hboth ⟨hC, (hrest.ok heq').1⟩ (hrest.ok heq').2
    | error e =>
      exact .of_error hboth (fun hand => (hrest.error heq').1 hand.2) (hrest.error heq').2
  | error e =>
    obtain ⟨hC, hE⟩ := hp.error heq
    exact .of_error (exec_bind_error heq) (fun hand => hC hand.1) hE

/-- Where the first part cannot fail. -/
theorem Ends.bind_true (hp : Ends h p s True F E) (hf : ∀ a t, F a t → Ends h (f a) t D G E) :
    Ends h (p >>= f) s D G E :=
  (hp.bind fun a t _ => hf a t).mono (iff_of_eq (true_and D)) (fun _ _ _ hG => hG) fun _ hE => hE

/-- A test in front of a program. -/
theorem Ends.guard {e : ε} {c : Prop} [Decidable c] (hp : ¬c → Ends h p s C F E) (hE : c → E s) :
    Ends h (if c then throw e else p) s (¬c ∧ C) F E := by
  by_cases hc : c
  · rw [if_pos hc]
    exact .of_error rfl (fun hand => hand.1 hc) (hE hc)
  · rw [if_neg hc]
    exact (hp hc).mono ⟨fun hC => ⟨hc, hC⟩, And.right⟩ (fun _ _ _ hF => hF) fun _ hE => hE

/-- A value that has been computed without actions. -/
theorem Ends.ofExcept_ok {a : α} (hp : Ends h (f a) s C G E) :
    Ends h (Prog.ofExcept (.ok a) >>= f) s C G E := hp

/-- A computation without actions that fails. -/
theorem Ends.ofExcept_error {e : ε} (hC : ¬C) (hE : E s) :
    Ends h ((Prog.ofExcept (.error e) : Prog Act Ans ε α) >>= f) s C G E := .of_error rfl hC hE

/-- Another exception in the place of what is raised. -/
theorem Ends.rethrow (hp : Ends h p s C F E) (g : ε → ε) :
    Ends h (tryCatch p fun e => throw (g e)) s C F E := by
  obtain ⟨r, t, heq⟩ : ∃ r t, exec h p s = (r, t) := ⟨_, _, rfl⟩
  have hcatch := exec_tryCatch (h := h) (s := s) p fun e => throw (g e)
  rw [heq] at hcatch
  cases r with
  | ok a => exact .of_ok hcatch (hp.ok heq).1 (hp.ok heq).2
  | error e => exact .of_error hcatch (hp.error heq).1 (hp.error heq).2

/-! ## 2. Loops and cleaning up -/

/-- `for (const a of l) body(a)`. -/
def each {γ : Type} (l : List γ) (body : γ → Prog Act Ans ε Unit) : Prog Act Ans ε Unit :=
  match l with
  | [] => pure ()
  | a :: l => do
    body a
    each l body

/-- A loop keeps what its steps keep, and returns if all of them do. -/
theorem Ends.each {γ : Type} {I : σ → Prop} {C : γ → Prop} {body : γ → Prog Act Ans ε Unit} :
    ∀ {l : List γ} {s : σ}, (∀ a ∈ l, ∀ t, I t → Ends h (body a) t (C a) (fun _ u => I u) E) → I s →
      Ends h (Prog.each l body) s (∀ a ∈ l, C a) (fun _ t => I t) E
  | [], s, _, hs => (ends_pure hs).mono (by simp) (fun _ _ _ hF => hF) fun _ hE => hE
  | a :: l, s, hbody, hs => by
    have hrest : ∀ t, I t → Ends h (Prog.each l body) t (∀ b ∈ l, C b) (fun _ u => I u) E :=
      fun t ht => Ends.each (fun b hb => hbody b (List.mem_cons_of_mem _ hb)) ht
    exact ((hbody a List.mem_cons_self s hs).bind fun _ t _ ht => hrest t ht).mono
      List.forall_mem_cons.symm (fun _ _ _ hF => hF) fun _ hE => hE

/-- `try { p } finally { cleanup }`, where what the cleanup raises is ignored. -/
def withCleanup (p : Prog Act Ans ε α) (cleanup : Prog Act Ans ε Unit) : Prog Act Ans ε α := do
  let a ← tryCatch p fun e => do
    tryCatch cleanup fun _ => pure ()
    throw e
  tryCatch cleanup fun _ => pure ()
  pure a

/-- What the cleanup does to the state. -/
def after (h : Handler Act Ans ε σ) (cleanup : Prog Act Ans ε Unit) (s : σ) : σ :=
  (exec h cleanup s).2

theorem exec_withCleanup (p : Prog Act Ans ε α) (cleanup : Prog Act Ans ε Unit) :
    exec h (withCleanup p cleanup) s = ((exec h p s).1, after h cleanup (exec h p s).2) := by
  have hcleanup : ∀ t, exec h (tryCatch cleanup fun _ => pure ()) t =
    (.ok (), after h cleanup t) := by
    intro t
    rw [exec_tryCatch, after]
    obtain ⟨r, u, heq⟩ : ∃ r u, exec h cleanup t = (r, u) := ⟨_, _, rfl⟩
    rw [heq]
    cases r with
    | ok a => rfl
    | error e => rfl
  unfold withCleanup
  obtain ⟨r, t, heq⟩ : ∃ r t, exec h p s = (r, t) := ⟨_, _, rfl⟩
  rw [exec_bind, exec_tryCatch, heq]
  cases r with
  | ok a => exact exec_bind_ok (hcleanup t)
  | error e =>
    dsimp only
    rw [exec_bind_ok (hcleanup t), exec_throw]

theorem Ends.withCleanup {cleanup : Prog Act Ans ε Unit} (hp : Ends h p s C F E)
    (hF : ∀ a t, F a t → F' a (after h cleanup t)) (hE : ∀ t, E t → E' (after h cleanup t)) :
    Ends h (withCleanup p cleanup) s C F' E' := by
  obtain ⟨r, t, heq⟩ : ∃ r t, exec h p s = (r, t) := ⟨_, _, rfl⟩
  have hclean := exec_withCleanup (h := h) (s := s) p cleanup
  rw [heq] at hclean
  cases r with
  | ok a => exact .of_ok hclean (hp.ok heq).1 (hF a t (hp.ok heq).2)
  | error e => exact .of_error hclean (hp.error heq).1 (hE t (hp.error heq).2)

/-! ## 3. All or nothing -/

/-- The run has made the change, or it has raised and changed nothing. -/
def AllOrNothing (view : σ → τ) (before : τ) (Good : τ → Prop) (run : Except ε α × σ) : Prop :=
  match run with
  | (.ok _, t) => Good (view t)
  | (.error _, t) => view t = before

variable {view : σ → τ} {before : τ} {Good : τ → Prop} {L : Prop}

/-- **The first part of a program is decided beforehand.**  Where it returns, the rest decides;
where it raises, what it has left must be what was there before. -/
theorem Ends.allOrNothing_iff {v : τ} (hp : Ends h p s C F fun t => view t = v)
    (hf : ∀ a t, C → F a t → (AllOrNothing view before Good (exec h (f a) t) ↔ L)) :
    AllOrNothing view before Good (exec h (p >>= f) s) ↔ (C → L) ∧ (¬C → v = before) := by
  obtain ⟨r, t, heq⟩ : ∃ r t, exec h p s = (r, t) := ⟨_, _, rfl⟩
  cases r with
  | ok a =>
    obtain ⟨hC, hF⟩ := hp.ok heq
    rw [exec_bind_ok heq, hf a t hC hF]
    exact ⟨fun hL => ⟨fun _ => hL, fun hnot => absurd hC hnot⟩, fun hand => hand.1 hC⟩
  | error e =>
    obtain ⟨hC, hE⟩ := hp.error heq
    rw [exec_bind_error heq]
    change view t = before ↔ _
    rw [hE]
    exact ⟨fun heq => ⟨fun hyes => absurd hyes hC, fun _ => heq⟩, fun hand => hand.2 hC⟩

theorem allOrNothing_congr {Good' : τ → Prop} (hGood : ∀ v, Good v ↔ Good' v)
    {run : Except ε α × σ} :
    AllOrNothing view before Good run ↔ AllOrNothing view before Good' run := by
  unfold AllOrNothing
  split
  · exact hGood _
  · exact Iff.rfl

/-- Cleaning up somewhere else does not matter. -/
theorem allOrNothing_withCleanup {cleanup : Prog Act Ans ε Unit}
    (hview : ∀ t, view (after h cleanup t) = view t) :
    AllOrNothing view before Good (exec h (withCleanup p cleanup) s) ↔
      AllOrNothing view before Good (exec h p s) := by
  rw [exec_withCleanup]
  obtain ⟨r, t, heq⟩ : ∃ r t, exec h p s = (r, t) := ⟨_, _, rfl⟩
  rw [heq]
  cases r with
  | ok a => exact iff_of_eq (congrArg Good (hview t))
  | error e => exact iff_of_eq (congrArg (· = before) (hview t))

/-- Which exception is raised does not matter. -/
theorem allOrNothing_rethrow (g : ε → ε) :
    AllOrNothing view before Good (exec h (tryCatch p fun e => throw (g e)) s) ↔
      AllOrNothing view before Good (exec h p s) := by
  rw [exec_tryCatch]
  obtain ⟨r, t, heq⟩ : ∃ r t, exec h p s = (r, t) := ⟨_, _, rfl⟩
  rw [heq]
  cases r with
  | ok a => exact Iff.rfl
  | error e => exact Iff.rfl

end ZtPlanet.Lib.Prog
