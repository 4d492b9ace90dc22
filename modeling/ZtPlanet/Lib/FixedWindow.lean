/-
# Limits that are counted in windows

A limiter that counts in windows opens a new one at the first call behind the end of the old one,
so its windows lie on no grid, and an interval as long as a window may meet two of them.  It never
meets three: between the end of one and the beginning of the next but one lies a whole window.

The log holds what the limiter has let through, each entry with the instant at which it was and
the window that counted it, named by the instant at which the window began.
-/
import ZtPlanet.Lib.Pool

namespace ZtPlanet.Lib

section

variable {α : Type} {window instant : α → Nat} {length : Nat} {log : List α}

/-- Windows of a length lie apart: what an earlier window has counted was before the later one
began, and what a later window has counted was when the earlier one was over. -/
structure Separated (window instant : α → Nat) (length : Nat) (log : List α) : Prop where
  before : ∀ e ∈ log, ∀ f ∈ log, window e < window f → instant e ≤ window f
  behind : ∀ e ∈ log, ∀ f ∈ log, window e < window f → window e + length ≤ instant f

theorem separated_nil : Separated window instant length [] := ⟨nofun, nofun⟩

/-- The log goes on with an entry of a window that is as late as any. -/
theorem Separated.append_one (h : Separated window instant length log) {a : α}
    (hlast : ∀ e ∈ log, window e ≤ window a)
    (hbefore : ∀ e ∈ log, window e < window a → instant e ≤ window a)
    (hbehind : ∀ e ∈ log, window e < window a → window e + length ≤ instant a) :
    Separated window instant length (log ++ [a]) := by
  constructor
  all_goals
    intro e he f hf hlt
    rcases List.mem_append.mp he with he | he <;> rcases List.mem_append.mp hf with hf | hf
  · exact h.before e he f hf hlt
  · cases List.mem_singleton.mp hf
    exact hbefore e he hlt
  · cases List.mem_singleton.mp he
    exact absurd hlt (Nat.not_lt.mpr (hlast f hf))
  · cases List.mem_singleton.mp he
    cases List.mem_singleton.mp hf
    exact absurd hlt (Nat.lt_irrefl _)
  · exact h.behind e he f hf hlt
  · cases List.mem_singleton.mp hf
    exact hbehind e he hlt
  · cases List.mem_singleton.mp he
    exact absurd hlt (Nat.not_lt.mpr (hlast f hf))
  · cases List.mem_singleton.mp he
    cases List.mem_singleton.mp hf
    exact absurd hlt (Nat.lt_irrefl _)

/-- Entries of three windows are further apart than a window is long. -/
theorem Separated.add_le (h : Separated window instant length log) {e f g : α} (he : e ∈ log)
    (hf : f ∈ log) (hg : g ∈ log) (hef : window e < window f) (hfg : window f < window g) :
    instant e + length ≤ instant g := by
  have hbefore := h.before e he f hf hef
  have hbehind := h.behind f hf g hg hfg
  omega

/-- What is in one of two parts weighs no more than the two parts. -/
theorem weigh_filter_le_add (f : α → Nat) {p q r : α → Bool} (log : List α)
    (h : ∀ e ∈ log, p e = true → q e = true ∨ r e = true) :
    weigh f (log.filter p) ≤ weigh f (log.filter q) + weigh f (log.filter r) := by
  induction log with
  | nil => exact Nat.zero_le _
  | cons e log ih =>
    have hrest := ih fun a ha => h a (List.mem_cons_of_mem e ha)
    have hfirst := h e List.mem_cons_self
    simp only [weigh, List.filter_cons] at hrest ⊢
    cases hp : p e <;> cases hq : q e <;> cases hr : r e
    all_goals
      simp only [hp, hq, hr, Bool.false_eq_true, if_false, if_true, List.map_cons,
        List.sum_cons, or_self, imp_false, not_true_eq_false] at hfirst ⊢
    all_goals omega

/-- **Two windows.**  What each window lets through is at most a limit, so what is let through in
an interval of the length of a window is at most twice the limit. -/
theorem Separated.weigh_interval_le (h : Separated window instant length log) (f : α → Nat)
    {limit : Nat} (hlimit : ∀ w, weigh f (log.filter fun e => window e = w) ≤ limit) (t : Nat) :
    weigh f (log.filter fun e => t ≤ instant e ∧ instant e < t + length) ≤ 2 * limit := by
  -- it is enough to name two windows that count all of the interval
  suffices hwindows : ∃ v w, ∀ e ∈ log, t ≤ instant e ∧ instant e < t + length →
      window e = v ∨ window e = w by
    obtain ⟨v, w, hvw⟩ := hwindows
    have hadd := weigh_filter_le_add f (p := fun e => t ≤ instant e ∧ instant e < t + length)
      (q := fun e => window e = v) (r := fun e => window e = w) log
      fun e he hp => by simpa using hvw e he (of_decide_eq_true hp)
    have hv := hlimit v
    have hw := hlimit w
    omega
  by_cases hpair : ∃ e ∈ log, ∃ f ∈ log, (t ≤ instant e ∧ instant e < t + length) ∧
      (t ≤ instant f ∧ instant f < t + length) ∧ window e < window f
  · -- a third window would be too far from one of the two
    obtain ⟨e, he, f, hf, hie, hif, hlt⟩ := hpair
    refine ⟨window e, window f, fun g hg hig => ?_⟩
    rcases Nat.lt_trichotomy (window g) (window e) with hge | hge | hge
    · have := h.add_le hg he hf hge hlt
      omega
    · exact .inl hge
    · rcases Nat.lt_trichotomy (window g) (window f) with hgf | hgf | hgf
      · have := h.add_le he hg hf hge hgf
        omega
      · exact .inr hgf
      · have := h.add_le he hf hg hlt hgf
        omega
  · by_cases hsome : ∃ e ∈ log, t ≤ instant e ∧ instant e < t + length
    · obtain ⟨e, he, hie⟩ := hsome
      refine ⟨window e, window e, fun g hg hig => ?_⟩
      have hge : ¬ window g < window e := fun hlt => hpair ⟨g, hg, e, he, hig, hie, hlt⟩
      have heg : ¬ window e < window g := fun hlt => hpair ⟨e, he, g, hg, hie, hig, hlt⟩
      exact .inl (by omega)
    · exact ⟨0, 0, fun g hg hig => absurd ⟨g, hg, hig⟩ hsome⟩

end

end ZtPlanet.Lib
