/-
# Thread pools and what they weigh together

Several threads that take turns are a list of program counters, and a global counter is
accounted for by adding up, over the threads, what each of them contributes at the point it has
reached.  `weigh f p` is that sum; the lemmas say how it moves when one thread moves or a thread
is started.
-/
import Mathlib.Data.List.Basic
import Mathlib.Algebra.Order.BigOperators.Group.List
import Mathlib.Algebra.Order.Ring.Nat

namespace ZtPlanet.Lib

/-- What the threads of the pool contribute together. -/
def weigh {α : Type} (f : α → Nat) (pool : List α) : Nat := (pool.map f).sum

section

variable {α : Type} {f : α → Nat} {pool : List α} {i : Nat} {a b : α}

@[simp] theorem weigh_nil : weigh f [] = 0 := rfl

@[simp] theorem weigh_append_one : weigh f (pool ++ [a]) = weigh f pool + f a := by
  simp [weigh]

/-- One thread moves from `a` to `b`: its old contribution is exchanged for the new one. -/
theorem weigh_set (h : pool[i]? = some a) :
    weigh f (pool.set i b) + f a = weigh f pool + f b := by
  induction pool generalizing i with
  | nil => simp at h
  | cons c pool ih =>
    cases i with
    | zero =>
      simp only [List.getElem?_cons_zero, Option.some.injEq] at h
      subst h
      simp only [weigh, List.set_cons_zero, List.map_cons, List.sum_cons]
      omega
    | succ i =>
      simp only [List.getElem?_cons_succ] at h
      have := ih h
      simp only [weigh, List.set_cons_succ, List.map_cons, List.sum_cons] at this ⊢
      omega

/-- A thread that does not change its contribution leaves the sum alone. -/
theorem weigh_set_of_eq (h : pool[i]? = some a) (hf : f b = f a) :
    weigh f (pool.set i b) = weigh f pool := by
  have := weigh_set (f := f) (b := b) h
  omega

theorem le_weigh (h : a ∈ pool) : f a ≤ weigh f pool :=
  List.le_sum_of_mem (List.mem_map.mpr ⟨a, h, rfl⟩)

theorem weigh_eq_zero (h : ∀ a ∈ pool, f a = 0) : weigh f pool = 0 := by
  induction pool with
  | nil => rfl
  | cons a pool ih =>
    simp only [List.mem_cons, forall_eq_or_imp] at h
    have := ih h.2
    simp only [weigh, List.map_cons, List.sum_cons] at this ⊢
    omega

/-- Each thread that is counted contributes. -/
theorem countP_le_weigh {p : α → Bool} (h : ∀ a ∈ pool, p a = true → 1 ≤ f a) :
    pool.countP p ≤ weigh f pool := by
  induction pool with
  | nil => exact Nat.le_refl _
  | cons a pool ih =>
    have hrest := ih fun b hb => h b (List.mem_cons_of_mem a hb)
    have hfirst := h a List.mem_cons_self
    simp only [weigh, List.map_cons, List.sum_cons, List.countP_cons] at hrest ⊢
    split
    · next ha =>
      have := hfirst ha
      omega
    · omega

/-- Threads that are counted weigh one. -/
theorem countP_eq_weigh (p : α → Bool) : pool.countP p = weigh (fun a => (p a).toNat) pool := by
  induction pool with
  | nil => rfl
  | cons a pool ih =>
    rw [List.countP_cons, ih]
    cases h : p a <;> simp [weigh, h, Nat.add_comm]

/-- One thread moves, and is counted or not. -/
theorem countP_set_add (p : α → Bool) (h : pool[i]? = some a) :
    (pool.set i b).countP p + (p a).toNat = pool.countP p + (p b).toNat := by
  rw [countP_eq_weigh, countP_eq_weigh]
  exact weigh_set h

/-- A property of every thread survives the start of one that has it. -/
theorem forall_mem_append_one {P : α → Prop} (h : ∀ a ∈ pool, P a) (hb : P b) :
    ∀ a ∈ pool ++ [b], P a := by
  intro a ha
  rcases List.mem_append.mp ha with ha | ha
  · exact h a ha
  · exact List.mem_singleton.mp ha ▸ hb

/-- A property of every thread survives the move of one thread to a point that has it. -/
theorem forall_mem_set {P : α → Prop} (h : ∀ a ∈ pool, P a) (hb : P b) :
    ∀ a ∈ pool.set i b, P a := by
  intro a ha
  rcases List.mem_or_eq_of_mem_set ha with ha | rfl
  · exact h a ha
  · exact hb

end

/-- A member of the pool at a place, where one of them has been replaced. -/
theorem getElem?_set_cases {α : Type} {l : List α} {i j : Nat} {a b : α}
    (h : (l.set i a)[j]? = some b) : (j = i ∧ b = a) ∨ (j ≠ i ∧ l[j]? = some b) := by
  rw [List.getElem?_set] at h
  by_cases hij : i = j
  · rw [if_pos hij] at h
    obtain ⟨-, hb⟩ := Option.ite_none_right_eq_some.mp h
    exact .inl ⟨hij.symm, (Option.some.inj hb).symm⟩
  · rw [if_neg hij] at h
    exact .inr ⟨Ne.symm hij, h⟩

end ZtPlanet.Lib
