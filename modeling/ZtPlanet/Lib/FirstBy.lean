/-
# The first entry of each key, and the last

Code that removes duplicates keeps the first entry of each key and forgets the others.  `firstBy`
is the list that it keeps, and `indexBy` the dictionary that it builds of it: looking up a key there
is looking for the first entry with that key (`get?_indexBy`).

A dictionary that is filled from front to back keeps the last entry of each key instead (`lastBy`).
-/
import ZtPlanet.Lib.Dict

namespace ZtPlanet.Lib

variable {α κ : Type} [DecidableEq κ] {key : α → κ} {l : List α} {a b : α} {k : κ}

/-- The entries that have no entry of the same key before them. -/
def firstBy (key : α → κ) : List α → List α
  | [] => []
  | a :: t => a :: (firstBy key t).filter fun b => key b ≠ key a

theorem mem_firstBy : a ∈ firstBy key l ↔ l.find? (fun b => key b = key a) = some a := by
  induction l with
  | nil => simp [firstBy]
  | cons b t ih =>
    by_cases h : key b = key a
    · simp [firstBy, h, eq_comm]
    · have hne : a ≠ b := fun hab => h (hab ▸ rfl)
      simp [firstBy, h, hne, ih, Ne.symm h]

theorem nodup_firstBy (key : α → κ) (l : List α) : ((firstBy key l).map key).Nodup := by
  induction l with
  | nil => simp [firstBy]
  | cons b t ih =>
    rw [firstBy, List.map_cons, List.nodup_cons]
    constructor
    · intro hmem
      obtain ⟨a, ha, hab⟩ := List.mem_map.mp hmem
      simpa [hab] using (List.mem_filter.mp ha).2
    · exact ih.sublist (List.filter_sublist.map key)

/-- The first entry of each key, by its key. -/
def indexBy (key : α → κ) (l : List α) : Dict κ α where
  entries := (firstBy key l).map fun a => (key a, a)
  nodup := by
    rw [List.map_map]
    exact nodup_firstBy key l

theorem get?_indexBy : (indexBy key l).get? k = l.find? fun a => key a = k := by
  have hiff : ∀ a, (indexBy key l).get? k = some a ↔ l.find? (fun b => key b = k) = some a := by
    intro a
    rw [Dict.get?_eq_some_iff]
    simp only [indexBy, List.mem_map, Prod.mk.injEq]
    constructor
    · rintro ⟨b, hb, rfl, rfl⟩
      exact mem_firstBy.mp hb
    · intro hfind
      have hkey : key a = k := by simpa using List.find?_some hfind
      subst hkey
      exact ⟨a, mem_firstBy.mpr hfind, rfl, rfl⟩
  cases hfind : l.find? fun b => key b = k with
  | some a => exact (hiff a).mpr hfind
  | none =>
    cases hget : (indexBy key l).get? k with
    | none => rfl
    | some a => exact absurd ((hiff a).mp hget) (by simp [hfind])

/-- What is found has the key. -/
theorem key_of_indexBy (h : (indexBy key l).get? k = some a) : key a = k ∧ a ∈ l := by
  rw [get?_indexBy] at h
  exact ⟨by simpa using List.find?_some h, List.mem_of_find?_eq_some h⟩

/-- A key is found where an entry has it. -/
theorem exists_indexBy (ha : a ∈ l) : ∃ b, (indexBy key l).get? (key a) = some b := by
  rw [get?_indexBy, ← Option.isSome_iff_exists, List.find?_isSome]
  exact ⟨a, ha, decide_eq_true rfl⟩

/-- The last entry of each key, by its key: later entries replace earlier ones. -/
def lastBy (key : α → κ) (l : List α) : Dict κ α := l.foldl (fun d a => d.set (key a) a) Dict.empty

theorem get?_lastBy : (lastBy key l).get? k = l.reverse.find? fun a => key a = k := by
  have hfold : ∀ d : Dict κ α, (l.foldl (fun d a => d.set (key a) a) d).get? k =
      (l.reverse.find? fun a => key a = k).or (d.get? k) := by
    induction l with
    | nil => exact fun d => rfl
    | cons a t ih =>
      intro d
      rw [List.foldl_cons, ih, List.reverse_cons, List.find?_append, Dict.get?_set, Option.or_assoc]
      congr 1
      by_cases h : key a = k <;> simp [h]
  exact (hfold Dict.empty).trans (Option.or_none)

/-- What is kept is the last entry of its key. -/
theorem mem_lastBy : a ∈ (lastBy key l).entries.map Prod.snd ↔
    l.reverse.find? (fun b => key b = key a) = some a := by
  rw [← get?_lastBy, Dict.get?_eq_some_iff]
  constructor
  · intro h
    obtain ⟨⟨k, b⟩, hmem, rfl⟩ := List.mem_map.mp h
    have hget := Dict.get?_eq_some_iff.mpr hmem
    rw [get?_lastBy] at hget
    have hkey : key b = k := by simpa using List.find?_some hget
    exact hkey ▸ hmem
  · exact fun h => List.mem_map.mpr ⟨_, h, rfl⟩

end ZtPlanet.Lib
