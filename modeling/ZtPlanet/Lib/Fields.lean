/-
# The fields of a line

A line is split at a separator, and blanks around a field do not count.  `strip` takes away what
satisfies a predicate at both ends; a separator is no blank, so stripping a line strips the outer
ends of its first and last field (`strip_append_cons`), and no other field notices.
-/
import Mathlib.Data.List.DropRight

namespace ZtPlanet.Lib

variable {α : Type} {p : α → Bool} {l : List α} {a : α}

/-! ## 1. Blanks at both ends -/

/-- The list without what satisfies `p` at both ends. -/
def strip (p : α → Bool) (l : List α) : List α := (l.dropWhile p).rdropWhile p

theorem rdropWhile_cons : (a :: l).rdropWhile p =
    if l.rdropWhile p = [] ∧ p a = true then [] else a :: l.rdropWhile p := by
  induction l using List.reverseRecOn with
  | nil => simp [List.rdropWhile_singleton]
  | append_singleton l b ih =>
    rw [← List.cons_append, List.rdropWhile_concat, List.rdropWhile_concat]
    by_cases hb : p b = true
    · rw [if_pos hb, if_pos hb]
      exact ih
    · rw [if_neg hb, if_neg hb, if_neg (by simp)]
      rfl

/-- What is dropped from the right of a part behind something that stays. -/
theorem rdropWhile_append_cons (h : p a = false) (s : List α) :
    (s ++ a :: l).rdropWhile p = s ++ a :: l.rdropWhile p := by
  induction s with
  | nil => rw [List.nil_append, List.nil_append, rdropWhile_cons, if_neg (by simp [h])]
  | cons b s ih =>
    rw [List.cons_append, rdropWhile_cons, ih, if_neg (by simp)]
    rfl

theorem dropWhile_append_cons (h : p a = false) (s : List α) :
    (s ++ a :: l).dropWhile p = s.dropWhile p ++ a :: l := by
  induction s with
  | nil => simp [h]
  | cons b s ih =>
    rw [List.cons_append, List.dropWhile_cons, List.dropWhile_cons]
    split
    · exact ih
    · rfl

theorem takeWhile_append_cons (h : p a = false) (s : List α) :
    (s ++ a :: l).takeWhile p = s.takeWhile p := by
  induction s with
  | nil => simp [h]
  | cons b s ih =>
    rw [List.cons_append, List.takeWhile_cons, List.takeWhile_cons, ih]

/-- **A separator is no blank**, so the ends of the line are those of the parts around it. -/
theorem strip_append_cons (h : p a = false) (s : List α) :
    strip p (s ++ a :: l) = s.dropWhile p ++ a :: l.rdropWhile p := by
  rw [strip, dropWhile_append_cons h, rdropWhile_append_cons h]

/-- The two ends are independent. -/
theorem strip_eq (l : List α) : strip p l = (l.rdropWhile p).dropWhile p := by
  rw [strip]
  induction l with
  | nil => rfl
  | cons a l ih =>
    by_cases ha : p a = true
    · rw [List.dropWhile_cons_of_pos ha, ih, rdropWhile_cons]
      split
      · next hall => rw [hall.1]
      · rw [List.dropWhile_cons_of_pos ha]
    · rw [List.dropWhile_cons_of_neg ha, rdropWhile_cons, if_neg fun h => ha h.2,
        List.dropWhile_cons_of_neg ha]

/-- What is left is part of the list. -/
theorem mem_of_mem_strip (h : a ∈ strip p l) : a ∈ l :=
  (List.dropWhile_sublist p).subset ((List.rdropWhile_prefix p _).subset h)

/-- Nothing is left of blanks only. -/
theorem mem_blank_of_strip (h : strip p l = []) (ha : a ∈ l) : p a = true := by
  rw [strip, List.rdropWhile_eq_nil_iff] at h
  rw [← List.takeWhile_append_dropWhile (p := p) (l := l)] at ha
  rcases List.mem_append.mp ha with ha | ha
  · exact List.mem_takeWhile_imp ha
  · exact h a ha

/-- Where nothing is blank, nothing is stripped. -/
theorem strip_eq_self (h : ∀ a ∈ l, p a = false) : strip p l = l := by
  have hdrop : l.dropWhile p = l := by
    cases l with
    | nil => rfl
    | cons a l => exact List.dropWhile_cons_of_neg (by simp [h a List.mem_cons_self])
  unfold strip
  rw [hdrop, List.rdropWhile_eq_self_iff]
  intro hne
  simp [h _ (List.getLast_mem hne)]

theorem strip_dropWhile (l : List α) : strip p (l.dropWhile p) = strip p l := by
  rw [strip, List.dropWhile_idempotent, strip]

theorem strip_rdropWhile (l : List α) : strip p (l.rdropWhile p) = strip p l := by
  rw [strip_eq, List.rdropWhile_idempotent, strip_eq]

theorem strip_strip (l : List α) : strip p (strip p l) = strip p l := by
  conv_lhs => rw [strip_eq l, strip_dropWhile, strip_rdropWhile]

theorem strip_cons_of_pos (h : p a = true) : strip p (a :: l) = strip p l := by
  rw [strip, List.dropWhile_cons_of_pos h, strip]

/-! ## 2. The first and the last field -/

section

variable [DecidableEq α] {sep : α}

/-- The first field. -/
theorem head?_splitOn (l : List α) : (l.splitOn sep).head? = some (l.takeWhile (· ≠ sep)) := by
  induction l with
  | nil => rfl
  | cons a l ih =>
    rw [List.splitOn_cons_eq_if_modifyHead]
    by_cases ha : a = sep
    · simp [ha]
    · simp [ha, ih, List.head?_modifyHead]

/-- A field has no separator. -/
theorem sep_notMem_field {l s : List α} (h : s ∈ l.splitOn sep) : sep ∉ s := by
  induction l generalizing s with
  | nil =>
    rw [List.splitOn_nil, List.mem_singleton] at h
    rw [h]
    exact List.not_mem_nil
  | cons a l ih =>
    rw [List.splitOn_cons_eq_if_modifyHead] at h
    by_cases ha : a = sep
    · rw [if_pos (by simpa using ha)] at h
      rcases List.mem_cons.mp h with rfl | h
      · exact List.not_mem_nil
      · exact ih h
    · rw [if_neg (by simpa using ha)] at h
      cases hl : l.splitOn sep with
      | nil => exact absurd hl (List.splitOn_ne_nil _ _)
      | cons t fields =>
        rw [hl, List.modifyHead_cons] at h
        rcases List.mem_cons.mp h with rfl | h
        · intro hmem
          rcases List.mem_cons.mp hmem with heq | hmem
          · exact ha heq.symm
          · exact ih (hl ▸ List.mem_cons_self) hmem
        · exact ih (hl ▸ List.mem_cons_of_mem _ h)

/-- What has no separator goes to the first field. -/
theorem splitOn_append_of_notMem {s : List α} (h : sep ∉ s) (l : List α) :
    (s ++ l).splitOn sep = (l.splitOn sep).modifyHead (s ++ ·) := by
  induction s with
  | nil =>
    rw [List.nil_append]
    cases l.splitOn sep <;> rfl
  | cons a s ih =>
    have ha : a ≠ sep := fun heq => h (heq ▸ List.mem_cons_self)
    rw [List.cons_append, List.splitOn_cons_eq_if_modifyHead, if_neg (by simpa using ha),
      ih fun hs => h (List.mem_cons_of_mem _ hs)]
    cases l.splitOn sep <;> rfl

/-- The last field, where no separator comes behind it. -/
theorem splitOn_concat (s : List α) (h : sep ∉ l) :
    (s ++ sep :: l).splitOn sep = s.splitOn sep ++ [l] := by
  rw [List.splitOn_append_cons_self, List.splitOn_eq_singleton h]

end

end ZtPlanet.Lib
