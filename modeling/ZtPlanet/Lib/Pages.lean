/-
# Pages of a list that is sorted again for each of them

A page is cut out of an answer by its number and its size.  Where every page is asked for on its
own, each is cut out of an arrangement of its own: the same entries, sorted by the same key, but
with the entries of one key in any order.

`pages_iff` says when that loses and repeats nothing: exactly where no page ends between two entries
of the same key.
-/
import Mathlib.Data.List.Sort
import Mathlib.Data.List.Nodup

namespace ZtPlanet.Lib

variable {α : Type} {le : α → α → Prop} {l a s : List α} {p k m i : Nat}

/-- The entries of `l`, sorted. -/
structure Arrangement (le : α → α → Prop) (l a : List α) : Prop where
  perm : a.Perm l
  sorted : a.Pairwise le

/-- Page number `k`, of size `p`. -/
def page (p k : Nat) (a : List α) : List α := (a.drop (k * p)).take p

/-- The first `m` pages, each of its own arrangement. -/
def pages (p m : Nat) (a : Nat → List α) : List α := (List.range m).flatMap fun k => page p k (a k)

theorem pages_succ (p m : Nat) (a : Nat → List α) :
    pages p (m + 1) a = pages p m a ++ page p m (a m) := by
  simp [pages, List.range_succ]

theorem take_append_page (p k : Nat) (a : List α) :
    a.take (k * p) ++ page p k a = a.take ((k + 1) * p) := by
  rw [page, Nat.succ_mul, List.take_add]

/-! ## 1. The entries up to a boundary -/

/-- Two entries side by side, the second of which could be the first as well. -/
def TieAt (le : α → α → Prop) (s : List α) (i : Nat) : Prop :=
  ∃ r ∈ s[i - 1]?, ∃ t ∈ s[i]?, 0 < i ∧ le t r

theorem split_of_getElem? {r t : α} (hr : s[i - 1]? = some r) (ht : s[i]? = some t) (hi : 0 < i) :
    s = s.take (i - 1) ++ r :: t :: s.drop (i + 1) := by
  obtain ⟨hlt, rfl⟩ := List.getElem?_eq_some_iff.mp ht
  obtain ⟨hlt', rfl⟩ := List.getElem?_eq_some_iff.mp hr
  have hdrop : s.drop (i - 1) = s[i - 1] :: s.drop i := by
    rw [List.drop_eq_getElem_cons hlt', Nat.sub_add_cancel hi]
  rw [← List.drop_eq_getElem_cons hlt, ← hdrop, List.take_append_drop]

/-- A tie at a boundary can be broken the other way, and then what stands before it and what stands
behind it have an entry in common. -/
theorem exists_of_tieAt (hs : Arrangement le l s) (h : TieAt le s i) :
    ∃ b, Arrangement le l b ∧ ¬ (s.take i ++ b.drop i).Nodup ∧ i < l.length := by
  obtain ⟨r, hr, t, ht, hi, hle⟩ := h
  have hsplit := split_of_getElem? hr ht hi
  have hlt : i < s.length := (List.getElem?_eq_some_iff.mp ht).1
  have hlen : (s.take (i - 1)).length = i - 1 := by
    rw [List.length_take]
    omega
  have hsorted := hs.sorted
  rw [hsplit, List.pairwise_append, List.pairwise_cons, List.pairwise_cons] at hsorted
  obtain ⟨hpre, ⟨hr', ht', hpost⟩, hcross⟩ := hsorted
  -- the two entries of the tie the other way around
  refine ⟨s.take (i - 1) ++ t :: r :: s.drop (i + 1), ⟨?_, ?_⟩, ?_, hs.perm.length_eq ▸ hlt⟩
  · refine List.Perm.trans ?_ hs.perm
    conv_rhs => rw [hsplit]
    exact (List.Perm.swap _ _ _).append_left _
  · refine List.pairwise_append.mpr ⟨hpre, ?_, ?_⟩
    · refine List.pairwise_cons.mpr ⟨?_, List.pairwise_cons.mpr ⟨?_, hpost⟩⟩
      · intro y hy
        rcases List.mem_cons.mp hy with rfl | hy
        · exact hle
        · exact ht' y hy
      · exact fun y hy => hr' y (List.mem_cons_of_mem _ hy)
    · intro x hx y hy
      refine hcross x hx y ?_
      simp only [List.mem_cons] at hy ⊢
      tauto
  · have htake : s.take i = s.take (i - 1) ++ [r] := by
      have h := List.take_add_one (l := s) (i := i - 1)
      rwa [Nat.sub_add_cancel hi, hr, Option.toList_some] at h
    have hdrop : (s.take (i - 1) ++ t :: r :: s.drop (i + 1)).drop i = r :: s.drop (i + 1) := by
      have hi' : (s.take (i - 1) ++ [t]).length = i := by
        rw [List.length_append, hlen, List.length_singleton, Nat.sub_add_cancel hi]
      rw [List.append_cons]
      exact List.drop_left' hi'
    rw [htake, hdrop]
    simp [List.nodup_append]

/-- What a downward closed property selects of a sorted list stands at its beginning. -/
theorem filter_isPrefix {q : α → Bool} (hs : s.Pairwise le)
    (hq : ∀ x y, le x y → q y = true → q x = true) : s.filter q <+: s := by
  induction s with
  | nil => simp
  | cons x t ih =>
    rw [List.pairwise_cons] at hs
    cases hx : q x with
    | true =>
      rw [List.filter_cons_of_pos hx, List.cons_prefix_cons]
      exact ⟨rfl, ih hs.2⟩
    | false =>
      have hnone : t.filter q = [] := by
        rw [List.filter_eq_nil_iff]
        intro y hy hqy
        rw [hq x y (hs.1 y hy) hqy] at hx
        cases hx
      rw [List.filter_cons_of_neg (by simp [hx]), hnone]
      exact List.nil_prefix

variable [DecidableRel le] [IsTrans α le] [Std.Total le]

/-- Without a tie at a boundary, the entries before it are those up to the last of them. -/
theorem exists_filter_eq_take (hs : s.Pairwise le) (hno : ¬ TieAt le s i) (hi : 0 < i)
    (hlt : i < s.length) :
    ∃ q : α → Bool, (∀ x y, le x y → q y = true → q x = true) ∧ s.filter q = s.take i := by
  have hr : s[i - 1]? = some (s[i - 1]) := List.getElem?_eq_getElem (by omega)
  have ht : s[i]? = some s[i] := List.getElem?_eq_getElem hlt
  have hnot : ¬ le s[i] s[i - 1] := fun hle => hno ⟨_, hr, _, ht, hi, hle⟩
  have hsplit := split_of_getElem? hr ht hi
  have htake : s.take i = s.take (i - 1) ++ [s[i - 1]] := by
    have h := List.take_add_one (l := s) (i := i - 1)
    rwa [Nat.sub_add_cancel hi, hr, Option.toList_some] at h
  generalize s[i - 1] = r at hsplit hnot htake
  generalize s[i] = t at hsplit hnot
  have hsorted := hs
  rw [hsplit, List.pairwise_append, List.pairwise_cons, List.pairwise_cons] at hsorted
  obtain ⟨-, ⟨-, hpost, -⟩, hpre⟩ := hsorted
  refine ⟨fun x => le x r, fun x y hxy hy => ?_, ?_⟩
  · exact decide_eq_true (IsTrans.trans _ _ _ hxy (of_decide_eq_true hy))
  · have hfirst : (s.take (i - 1)).filter (fun x => le x r) = s.take (i - 1) := by
      rw [List.filter_eq_self]
      exact fun x hx => decide_eq_true (hpre x hx r List.mem_cons_self)
    have hlast : (s.drop (i + 1)).filter (fun x => le x r) = [] := by
      rw [List.filter_eq_nil_iff]
      exact fun y hy hle => hnot (IsTrans.trans _ _ _ (hpost y hy) (of_decide_eq_true hle))
    have hrefl : le r r := (Std.Total.total r r).elim id id
    conv_lhs => rw [hsplit]
    rw [List.filter_append, hfirst, List.filter_cons_of_pos (by simpa using hrefl),
      List.filter_cons_of_neg (by simpa using hnot), hlast, htake]

/-- Where there is no tie at a boundary, all arrangements have the same entries before it. -/
theorem take_perm (hs : Arrangement le l s) (ha : Arrangement le l a) (hno : ¬ TieAt le s i) :
    (a.take i).Perm (s.take i) := by
  have hperm : a.Perm s := ha.perm.trans hs.perm.symm
  by_cases hlt : i < s.length
  · rcases Nat.eq_zero_or_pos i with rfl | hi
    · simp
    · obtain ⟨q, hclosed, hq⟩ := exists_filter_eq_take hs.sorted hno hi hlt
      have hfilter : (a.filter q).Perm (s.take i) := hq ▸ hperm.filter q
      have htake := List.prefix_iff_eq_take.mp (filter_isPrefix ha.sorted hclosed)
      rw [hfilter.length_eq, List.length_take, Nat.min_eq_left hlt.le] at htake
      exact htake ▸ hfilter
  · have hle := not_lt.mp hlt
    rw [List.take_of_length_le hle, List.take_of_length_le (hperm.length_eq ▸ hle)]
    exact hperm

/-! ## 2. The pages together -/

/-- The pages of arrangements without a tie at a page boundary are the pages of one of them. -/
theorem pages_of_not_tieAt (hs : Arrangement le l s) (hno : ∀ k, ¬ TieAt le s (k * p))
    {a : Nat → List α} (ha : ∀ k, Arrangement le l (a k)) (m : Nat) :
    (pages p m a).Perm (s.take (m * p)) ∧ (pages p m a).Pairwise le := by
  induction m with
  | zero => simp [pages]
  | succ m ih =>
    obtain ⟨hperm, hsorted⟩ := ih
    have hpage : (page p m (a m)).Perm (page p m s) := by
      have hnext := take_perm hs (ha m) (hno (m + 1))
      rw [← take_append_page, ← take_append_page] at hnext
      have hbefore := (take_perm hs (ha m) (hno m)).append_right (page p m (a m))
      exact (List.perm_append_left_iff _).mp (hbefore.symm.trans hnext)
    rw [pages_succ]
    constructor
    · rw [← take_append_page]
      exact hperm.append hpage
    · refine List.pairwise_append.mpr ⟨hsorted, ?_, fun x hx y hy => ?_⟩
      · exact (ha m).sorted.sublist ((List.take_sublist _ _).trans (List.drop_sublist _ _))
      · have hcut := hs.sorted
        rw [← List.take_append_drop (m * p) s, List.pairwise_append] at hcut
        refine hcut.2.2 x (hperm.mem_iff.mp hx) y ?_
        exact (List.take_sublist _ _).subset (hpage.mem_iff.mp hy)

/-- The pages of one arrangement, up to a page from which they are those of another. -/
theorem pages_switch (p k d : Nat) (s b : List α) :
    pages p (k + d) (fun j => if j < k then s else b) =
      s.take (k * p) ++ (b.drop (k * p)).take (d * p) := by
  have hfirst : ∀ k' ≤ k, pages p k' (fun j => if j < k then s else b) = s.take (k' * p) := by
    intro k'
    induction k' with
    | zero => simp [pages]
    | succ k' ih =>
      intro hle
      rw [pages_succ, ih (Nat.le_of_succ_le hle), if_pos (Nat.lt_of_succ_le hle), take_append_page]
  induction d with
  | zero => simpa using hfirst k le_rfl
  | succ d ih =>
    rw [← Nat.add_assoc, pages_succ, ih, if_neg (by omega), List.append_assoc, page, Nat.succ_mul,
      List.take_add, List.drop_drop, Nat.add_mul]

/-- **Pages lose and repeat nothing, exactly where no page ends between two entries of one key.** -/
theorem pages_iff (hp : 0 < p) (hl : l.Nodup) (hs : Arrangement le l s) :
    (∀ a : Nat → List α, (∀ k, Arrangement le l (a k)) → ∀ m, l.length ≤ m * p →
      Arrangement le l (pages p m a)) ↔ ∀ k, ¬ TieAt le s (k * p) := by
  constructor
  · intro h k htie
    obtain ⟨b, hb, hnodup, hlt⟩ := exists_of_tieAt hs htie
    have henough : l.length ≤ (k + l.length) * p :=
      (Nat.le_add_left _ _).trans (Nat.le_mul_of_pos_right _ hp)
    have hall := (h (fun j => if j < k then s else b) (fun j => by split <;> assumption)
      (k + l.length) henough).perm
    rw [pages_switch] at hall
    have hrest : ((b.drop (k * p)).take (l.length * p)) = b.drop (k * p) := by
      refine List.take_of_length_le ?_
      rw [List.length_drop, hb.perm.length_eq]
      exact (Nat.sub_le _ _).trans (Nat.le_mul_of_pos_right _ hp)
    rw [hrest] at hall
    exact hnodup (hall.nodup_iff.mpr hl)
  · intro hno a ha m hm
    obtain ⟨hperm, hsorted⟩ := pages_of_not_tieAt hs hno ha m
    refine ⟨?_, hsorted⟩
    rw [List.take_of_length_le (hs.perm.length_eq ▸ hm)] at hperm
    exact hperm.trans hs.perm

end ZtPlanet.Lib
