/-
# Step machines and their runs

A machine says what an event does to a state, if the event can occur there at all.  Everything
that a run needs beyond that is nondeterminism, and it is carried by the events: which thread
moves, what a clock reads, whether a call to the outside fails.

Two induction rules are packaged here.  `run_invariant` is the usual one: what every enabled
event preserves holds after every run.  `run_invariant_of_conforms` is its relative version: what
every event preserves *when it meets a condition* holds after every run all of whose events meet
the condition in the state in which they occur.
-/

namespace ZtPlanet.Lib

/-! ## 1. Runs and their invariants -/

/-- What an event does to a state; `none` where the event cannot occur. -/
structure Machine (σ ε : Type) where
  step : σ → ε → Option σ

namespace Machine

variable {σ ε : Type} (M : Machine σ ε)

/-- The state after a list of events, each enabled in its turn. -/
def run : σ → List ε → Option σ
  | s, [] => some s
  | s, e :: es => (M.step s e).bind fun s' => run s' es

/-- Every event of the run meets `ok` in the state in which it occurs. -/
def Conforms (ok : σ → ε → Prop) : σ → List ε → Prop
  | _, [] => True
  | s, e :: es => ok s e ∧ ∀ s', M.step s e = some s' → Conforms ok s' es

/-- Whether a run conforms can be computed. -/
instance instDecidableConforms {ok : σ → ε → Prop} [∀ s e, Decidable (ok s e)] :
    ∀ s es, Decidable (M.Conforms ok s es)
  | _, [] => isTrue trivial
  | s, e :: es =>
    match h : M.step s e with
    | none => decidable_of_iff (ok s e) (by simp [Conforms, h])
    | some s' =>
      have : Decidable (M.Conforms ok s' es) := instDecidableConforms s' es
      decidable_of_iff (ok s e ∧ M.Conforms ok s' es) (by simp [Conforms, h])

variable {M}

@[simp] theorem run_nil (s : σ) : M.run s [] = some s := rfl

theorem run_cons_eq_some {s t : σ} {e : ε} {es : List ε} :
    M.run s (e :: es) = some t ↔ ∃ s', M.step s e = some s' ∧ M.run s' es = some t := by
  simp [run, Option.bind_eq_some_iff]

/-- A run of two parts. -/
theorem run_append (s : σ) (es fs : List ε) :
    M.run s (es ++ fs) = (M.run s es).bind fun t => M.run t fs := by
  induction es generalizing s with
  | nil => rfl
  | cons e es ih =>
    simp only [List.cons_append, run, Option.bind_assoc]
    exact congrArg _ (funext ih)

/-- A run that is evaluated: what holds of the state behind it. -/
theorem exists_run {P G : σ → Prop} [DecidablePred P] {s : σ} {es : List ε}
    (h : ((M.run s es).any fun t => decide (P t)) = true)
    (hG : ∀ t, M.run s es = some t → P t → G t) : ∃ t, M.run s es = some t ∧ G t := by
  obtain ⟨t, ht, hP⟩ := (Option.any_eq_true _ _).mp h
  exact ⟨t, ht, hG t ht (of_decide_eq_true hP)⟩

theorem conforms_append {ok : σ → ε → Prop} {s : σ} {es fs : List ε} :
    M.Conforms ok s (es ++ fs) ↔
      M.Conforms ok s es ∧ ∀ t, M.run s es = some t → M.Conforms ok t fs := by
  induction es generalizing s with
  | nil =>
    constructor
    · intro h
      refine ⟨trivial, fun t ht => ?_⟩
      exact Option.some.inj ht ▸ h
    · exact fun h => h.2 s rfl
  | cons e es ih =>
    constructor
    · rintro ⟨hok, h⟩
      refine ⟨⟨hok, fun s' he => (ih.mp (h s' he)).1⟩, fun t ht => ?_⟩
      obtain ⟨s', he, hrun⟩ := run_cons_eq_some.mp ht
      exact (ih.mp (h s' he)).2 t hrun
    · rintro ⟨⟨hok, h⟩, hrest⟩
      refine ⟨hok, fun s' he => ih.mpr ⟨h s' he, fun t ht => ?_⟩⟩
      exact hrest t (run_cons_eq_some.mpr ⟨s', he, ht⟩)

/-- Where a run conforms to `ok`, two conditions that `ok` makes one are met by it together. -/
theorem Conforms.congr {ok ok₁ ok₂ : σ → ε → Prop} (hiff : ∀ s e, ok s e → (ok₁ s e ↔ ok₂ s e))
    {s : σ} {es : List ε} (h : M.Conforms ok s es) :
    M.Conforms ok₁ s es ↔ M.Conforms ok₂ s es := by
  induction es generalizing s with
  | nil => exact Iff.rfl
  | cons e es ih =>
    exact and_congr (hiff s e h.1) (forall_congr' fun s' => forall_congr' fun he => ih (h.2 s' he))

/-- Every event of a run that conforms meets the condition where it occurs. -/
theorem Conforms.meets {ok : σ → ε → Prop} {s t : σ} {e : ε} {es fs : List ε}
    (h : M.Conforms ok s es)
    (hbegins : fs ++ [e] <+: es) (hrun : M.run s fs = some t) : ok t e := by
  obtain ⟨rest, rfl⟩ := hbegins
  exact ((conforms_append.mp (conforms_append.mp h).1).2 t hrun).1

/-- **The invariant rule.**  What every enabled event preserves holds after every run. -/
theorem run_invariant {P : σ → Prop}
    (hstep : ∀ s e s', P s → M.step s e = some s' → P s') :
    ∀ (es : List ε) {s t : σ}, P s → M.run s es = some t → P t
  | [], s, t, hs, h => by
    rw [run_nil, Option.some.injEq] at h
    exact h ▸ hs
  | e :: es, s, t, hs, h => by
    obtain ⟨s', h₁, h₂⟩ := run_cons_eq_some.mp h
    exact run_invariant hstep es (hstep s e s' hs h₁) h₂

/-- **The relative invariant rule.**  What an event preserves when it meets `ok` holds after
every run whose events all meet `ok`. -/
theorem run_invariant_of_conforms {P : σ → Prop} {ok : σ → ε → Prop}
    (hstep : ∀ s e s', P s → ok s e → M.step s e = some s' → P s') :
    ∀ (es : List ε) {s t : σ}, P s → M.Conforms ok s es → M.run s es = some t → P t
  | [], s, t, hs, _, h => by
    rw [run_nil, Option.some.injEq] at h
    exact h ▸ hs
  | e :: es, s, t, hs, hc, h => by
    obtain ⟨s', h₁, h₂⟩ := run_cons_eq_some.mp h
    exact run_invariant_of_conforms hstep es (hstep s e s' hs hc.1 h₁) (hc.2 s' h₁) h₂

/-! ## 2. What has happened

The events of a run with the states in which they occurred, for statements about earlier events. -/

variable (M) in
/-- The events of a run, each with the state in which it occurs. -/
def calls : σ → List ε → List (σ × ε)
  | _, [] => []
  | s, e :: es => (s, e) :: ((M.step s e).map fun s' => calls s' es).getD []

theorem calls_cons {s s' : σ} {e : ε} (h : M.step s e = some s') (es : List ε) :
    M.calls s (e :: es) = (s, e) :: M.calls s' es := by
  rw [calls, h]
  rfl

theorem calls_append {s t : σ} {es : List ε} (h : M.run s es = some t) (fs : List ε) :
    M.calls s (es ++ fs) = M.calls s es ++ M.calls t fs := by
  induction es generalizing s with
  | nil =>
    obtain rfl := Option.some.inj h
    rfl
  | cons e es ih =>
    obtain ⟨s', hstep, hrun⟩ := run_cons_eq_some.mp h
    rw [List.cons_append, calls_cons hstep, calls_cons hstep, ih hrun]
    rfl

/-- **The invariant rule with a past.**  What every enabled event preserves, where it may speak of
the events so far, holds after every run. -/
theorem run_calls_invariant {P : List (σ × ε) → σ → Prop}
    (hstep : ∀ past s e s', P past s → M.step s e = some s' → P (past ++ [(s, e)]) s') :
    ∀ (es : List ε) {past : List (σ × ε)} {s t : σ}, P past s → M.run s es = some t →
      P (past ++ M.calls s es) t
  | [], past, s, t, hs, h => by
    obtain rfl := Option.some.inj h
    exact (List.append_nil past).symm ▸ hs
  | e :: es, past, s, t, hs, h => by
    obtain ⟨s', h₁, h₂⟩ := run_cons_eq_some.mp h
    have hrest := run_calls_invariant hstep es (hstep past s e s' hs h₁) h₂
    rw [List.append_assoc] at hrest
    rw [calls_cons h₁]
    exact hrest

/-! ## 3. Exact conditions -/

/-- **The exact rule.**  `I` is what the steps that meet `ok` preserve, and `P` is what is asked
for: `I` implies it, and a step that does not meet `ok` leaves it at once.  Then `P` holds all along
a run if and only if every event of the run meets `ok`. -/
theorem holds_iff_conforms {P I : σ → Prop} {ok : σ → ε → Prop} (hholds : ∀ s, I s → P s)
    (hstep : ∀ s e s', I s → ok s e → M.step s e = some s' → I s')
    (hbreak : ∀ s e s', I s → ¬ ok s e → M.step s e = some s' → ¬ P s')
    (hstuck : ∀ s e, M.step s e = none → ok s e) (es : List ε) {s : σ} (hs : I s) :
    (∀ fs, fs <+: es → ∀ t, M.run s fs = some t → P t) ↔ M.Conforms ok s es := by
  constructor
  · intro h
    induction es generalizing s with
    | nil => trivial
    | cons e es ih =>
      have hok : ok s e := Classical.byContradiction fun hnot => by
        cases he : M.step s e with
        | none => exact hnot (hstuck s e he)
        | some s' =>
          refine hbreak s e s' hs hnot he (h [e] (List.prefix_append [e] es) s' ?_)
          exact run_cons_eq_some.mpr ⟨s', he, rfl⟩
      refine ⟨hok, fun s' he => ih (hstep s e s' hs hok he) fun fs hfs t ht => ?_⟩
      exact h (e :: fs) (List.cons_prefix_cons.mpr ⟨rfl, hfs⟩) t
        (run_cons_eq_some.mpr ⟨s', he, ht⟩)
  · rintro h fs ⟨rest, rfl⟩ t ht
    exact hholds t (run_invariant_of_conforms hstep fs hs (conforms_append.mp h).1 ht)

/-- **The exact invariant rule.**  Where an event keeps `P` if and only if it meets `ok`, `P` holds
all along a run if and only if every event of the run meets `ok`. -/
theorem invariant_iff_conforms {P : σ → Prop} {ok : σ → ε → Prop}
    (hstep : ∀ s e s', P s → M.step s e = some s' → (P s' ↔ ok s e))
    (hstuck : ∀ s e, M.step s e = none → ok s e) (es : List ε) {s : σ} (hs : P s) :
    (∀ fs, fs <+: es → ∀ t, M.run s fs = some t → P t) ↔ M.Conforms ok s es :=
  holds_iff_conforms (I := P) (fun _ h => h) (fun s e s' h hok he => (hstep s e s' h he).mpr hok)
    (fun s e s' h hnot he hs' => hnot ((hstep s e s' h he).mp hs')) hstuck es hs

end Machine

end ZtPlanet.Lib
