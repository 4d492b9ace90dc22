/-
# Finite dictionaries in insertion order

A Python `dict`, a JavaScript `Map` and a Rust `HashMap` are all finite maps; the first two
also remember the order in which keys were inserted.  This module gives one such type,
`Dict κ ν`, whose entries carry the proof that no key occurs twice, so that no later proof has
to re-establish it.

`set` replaces the value of a key that is present where it stands and appends a new key at the
end, which is what all three do (the `HashMap` simply does not show the order).  The second
half is about `total f`, the sum of a weight over the values: the accounting proofs need to
know how it moves under `set` and `erase`, and nothing else.
-/
import Mathlib.Data.List.Nodup
import Mathlib.Algebra.BigOperators.Group.List.Basic
import Mathlib.Algebra.GroupWithZero.Nat

namespace ZtPlanet.Lib

/-! ## 1. The association list underneath -/

namespace Assoc

variable {κ ν : Type} [DecidableEq κ]

/-- The value of the first entry with key `k`. -/
def lookup : List (κ × ν) → κ → Option ν
  | [], _ => none
  | (k', v) :: t, k => if k' = k then some v else lookup t k

/-- Replace the value of `k` in place, or append the entry. -/
def put : List (κ × ν) → κ → ν → List (κ × ν)
  | [], k, v => [(k, v)]
  | (k', v') :: t, k, v => if k' = k then (k', v) :: t else (k', v') :: put t k v

/-- Remove the entry of `k`. -/
def drop : List (κ × ν) → κ → List (κ × ν)
  | [], _ => []
  | (k', v') :: t, k => if k' = k then t else (k', v') :: drop t k

theorem lookup_eq_none_iff {l : List (κ × ν)} {k : κ} :
    lookup l k = none ↔ k ∉ l.map Prod.fst := by
  induction l with
  | nil => simp [lookup]
  | cons e t ih =>
    obtain ⟨k', v⟩ := e
    by_cases h : k' = k
    · simp [lookup, h]
    · simp [lookup, h, ih, Ne.symm h]

theorem mem_of_lookup {l : List (κ × ν)} {k : κ} {v : ν} (h : lookup l k = some v) :
    (k, v) ∈ l := by
  induction l with
  | nil => simp [lookup] at h
  | cons e t ih =>
    obtain ⟨k', v'⟩ := e
    by_cases hk : k' = k
    · simp only [lookup, hk, if_true, Option.some.injEq] at h
      simp [hk, h]
    · simp only [lookup, hk, if_false] at h
      exact List.mem_cons_of_mem _ (ih h)

theorem lookup_of_mem {l : List (κ × ν)} (hn : (l.map Prod.fst).Nodup) {k : κ} {v : ν}
    (h : (k, v) ∈ l) : lookup l k = some v := by
  induction l with
  | nil => simp at h
  | cons e t ih =>
    obtain ⟨k', v'⟩ := e
    rw [List.map_cons, List.nodup_cons] at hn
    rcases List.mem_cons.mp h with h | h
    · cases h
      simp [lookup]
    · have hne : k' ≠ k := by
        rintro rfl
        exact hn.1 (List.mem_map.mpr ⟨(k', v), h, rfl⟩)
      simp [lookup, hne, ih hn.2 h]

theorem mem_keys_put {l : List (κ × ν)} {k j : κ} {v : ν} :
    j ∈ (put l k v).map Prod.fst ↔ j = k ∨ j ∈ l.map Prod.fst := by
  induction l with
  | nil => simp [put]
  | cons e t ih =>
    obtain ⟨k', v'⟩ := e
    by_cases h : k' = k
    · subst h
      simp [put]
    · simp only [put, h, if_false, List.map_cons, List.mem_cons, ih]
      tauto

theorem nodup_put {l : List (κ × ν)} (hn : (l.map Prod.fst).Nodup) (k : κ) (v : ν) :
    ((put l k v).map Prod.fst).Nodup := by
  induction l with
  | nil => simp [put]
  | cons e t ih =>
    obtain ⟨k', v'⟩ := e
    rw [List.map_cons, List.nodup_cons] at hn
    by_cases h : k' = k
    · simpa [put, h] using hn
    · simp only [put, h, if_false, List.map_cons, List.nodup_cons]
      refine ⟨fun hc => ?_, ih hn.2⟩
      rcases mem_keys_put.mp hc with hc | hc
      · exact h hc
      · exact hn.1 hc

theorem drop_sublist (l : List (κ × ν)) (k : κ) : (drop l k).Sublist l := by
  induction l with
  | nil => exact List.Sublist.refl _
  | cons e t ih =>
    obtain ⟨k', v'⟩ := e
    by_cases h : k' = k
    · simp [drop, h]
    · simpa [drop, h] using ih

theorem nodup_drop {l : List (κ × ν)} (hn : (l.map Prod.fst).Nodup) (k : κ) :
    ((drop l k).map Prod.fst).Nodup :=
  hn.sublist ((drop_sublist l k).map _)

theorem lookup_put (l : List (κ × ν)) (k j : κ) (v : ν) :
    lookup (put l k v) j = if k = j then some v else lookup l j := by
  induction l with
  | nil => simp [put, lookup]
  | cons e t ih =>
    obtain ⟨k', v'⟩ := e
    by_cases h : k' = k
    · subst h
      by_cases hj : k' = j <;> simp [put, lookup, hj]
    · by_cases hj : k' = j
      · subst hj
        simp [put, lookup, h, Ne.symm h]
      · simp [put, lookup, h, hj, ih]

theorem lookup_drop {l : List (κ × ν)} (hn : (l.map Prod.fst).Nodup) (k j : κ) :
    lookup (drop l k) j = if k = j then none else lookup l j := by
  induction l with
  | nil => simp [drop, lookup]
  | cons e t ih =>
    obtain ⟨k', v'⟩ := e
    rw [List.map_cons, List.nodup_cons] at hn
    by_cases h : k' = k
    · subst h
      by_cases hj : k' = j
      · subst hj
        simpa [drop, lookup] using lookup_eq_none_iff.mpr hn.1
      · simp [drop, lookup, hj]
    · by_cases hj : k' = j
      · subst hj
        simp [drop, lookup, h, Ne.symm h]
      · simp [drop, lookup, h, hj, ih hn.2]

theorem put_map {μ : Type} (f : ν → μ) (l : List (κ × ν)) (k : κ) (v : ν) :
    (put l k v).map (fun e => (e.1, f e.2)) = put (l.map fun e => (e.1, f e.2)) k (f v) := by
  induction l with
  | nil => rfl
  | cons e t ih =>
    obtain ⟨k', v'⟩ := e
    by_cases h : k' = k
    · simp [put, h]
    · simp [put, h, ih]

theorem length_put (l : List (κ × ν)) (k : κ) (v : ν) :
    (put l k v).length = if (lookup l k).isSome then l.length else l.length + 1 := by
  induction l with
  | nil => simp [put, lookup]
  | cons e t ih =>
    obtain ⟨k', v'⟩ := e
    by_cases h : k' = k
    · simp [put, lookup, h]
    · simp only [put, lookup, h, if_false, List.length_cons, ih]
      split <;> rfl

/-- A filter that treats the old and the new value alike commutes with replacing the one by the
other. -/
theorem filter_put {l : List (κ × ν)} {k : κ} {v : ν} {q : κ × ν → Bool}
    (h : ∀ v₀, lookup l k = some v₀ → q (k, v₀) = q (k, v)) :
    (put l k v).filter q = if q (k, v) then put (l.filter q) k v else l.filter q := by
  induction l with
  | nil => cases hq : q (k, v) <;> simp [put, hq]
  | cons e t ih =>
    obtain ⟨k', v'⟩ := e
    by_cases hk : k' = k
    · subst hk
      have hsame : q (k', v') = q (k', v) := h v' (by simp [lookup])
      cases hq : q (k', v) <;> simp [put, hsame, hq]
    · have ih' := ih fun v₀ hv₀ => h v₀ (by simpa [lookup, hk] using hv₀)
      cases hq : q (k, v) <;> cases hq' : q (k', v') <;> simp_all [put]

end Assoc

/-! ## 2. Dictionaries -/

/-- A finite map that remembers the order of insertion; no key occurs twice. -/
structure Dict (κ ν : Type) where
  entries : List (κ × ν)
  nodup : (entries.map Prod.fst).Nodup
deriving DecidableEq

namespace Dict

variable {κ ν : Type}

/-- The dictionary with no entry. -/
def empty : Dict κ ν := ⟨[], List.nodup_nil⟩

/-- The number of entries. -/
def size (d : Dict κ ν) : Nat := d.entries.length

/-- The keys, oldest first. -/
def keys (d : Dict κ ν) : List κ := d.entries.map Prod.fst

/-- Change every value. -/
def map (d : Dict κ ν) (f : κ → ν → ν) : Dict κ ν :=
  ⟨d.entries.map fun e => (e.1, f e.1 e.2), by
    rw [List.map_map]
    exact d.nodup⟩

/-- Change every value, to values of another type. -/
def mapValues {μ : Type} (d : Dict κ ν) (f : ν → μ) : Dict κ μ :=
  ⟨d.entries.map fun e => (e.1, f e.2), by
    rw [List.map_map]
    exact d.nodup⟩

/-- Keep the entries that satisfy `p`, in their order. -/
def filter (d : Dict κ ν) (p : κ → ν → Bool) : Dict κ ν :=
  ⟨d.entries.filter (fun e => p e.1 e.2), d.nodup.sublist (List.filter_sublist.map _)⟩

/-- Drop the oldest entry: `d.pop(next(iter(d)))`. -/
def popOldest (d : Dict κ ν) : Dict κ ν :=
  ⟨d.entries.tail, d.nodup.sublist ((List.tail_sublist _).map _)⟩

/-- The sum of `f` over the values. -/
def total (d : Dict κ ν) (f : ν → Nat) : Nat := (d.entries.map (fun e => f e.2)).sum

@[ext] theorem ext {d d' : Dict κ ν} (h : d.entries = d'.entries) : d = d' := by
  cases d
  cases d'
  cases h
  rfl

@[simp] theorem keys_map (d : Dict κ ν) (f : κ → ν → ν) : (d.map f).keys = d.keys := by
  simp [map, keys]

@[simp] theorem keys_mapValues {μ : Type} (d : Dict κ ν) (f : ν → μ) :
    (d.mapValues f).keys = d.keys := by
  simp [mapValues, keys]

@[simp] theorem size_empty : (empty : Dict κ ν).size = 0 := rfl

@[simp] theorem total_empty (f : ν → Nat) : (empty : Dict κ ν).total f = 0 := rfl

variable [DecidableEq κ]

/-- The value stored under `k`. -/
def get? (d : Dict κ ν) (k : κ) : Option ν := Assoc.lookup d.entries k

/-- Whether `k` is a key. -/
def contains (d : Dict κ ν) (k : κ) : Bool := (d.get? k).isSome

/-- Store `v` under `k`. -/
def set (d : Dict κ ν) (k : κ) (v : ν) : Dict κ ν :=
  ⟨Assoc.put d.entries k v, Assoc.nodup_put d.nodup k v⟩

/-- Remove `k`. -/
def erase (d : Dict κ ν) (k : κ) : Dict κ ν :=
  ⟨Assoc.drop d.entries k, Assoc.nodup_drop d.nodup k⟩

/-! ## 3. Looking up -/

@[simp] theorem get?_empty (k : κ) : (empty : Dict κ ν).get? k = none := rfl

theorem get?_set (d : Dict κ ν) (k j : κ) (v : ν) :
    (d.set k v).get? j = if k = j then some v else d.get? j :=
  Assoc.lookup_put d.entries k j v

@[simp] theorem get?_set_self (d : Dict κ ν) (k : κ) (v : ν) : (d.set k v).get? k = some v := by
  simp [get?_set]

theorem get?_set_ne (d : Dict κ ν) {k j : κ} (h : k ≠ j) (v : ν) :
    (d.set k v).get? j = d.get? j := by
  simp [get?_set, h]

theorem get?_erase (d : Dict κ ν) (k j : κ) :
    (d.erase k).get? j = if k = j then none else d.get? j :=
  Assoc.lookup_drop d.nodup k j

theorem get?_eq_some_iff {d : Dict κ ν} {k : κ} {v : ν} :
    d.get? k = some v ↔ (k, v) ∈ d.entries :=
  ⟨Assoc.mem_of_lookup, Assoc.lookup_of_mem d.nodup⟩

theorem get?_eq_none_iff {d : Dict κ ν} {k : κ} : d.get? k = none ↔ k ∉ d.keys :=
  Assoc.lookup_eq_none_iff

theorem mem_keys_iff {d : Dict κ ν} {k : κ} : k ∈ d.keys ↔ ∃ v, d.get? k = some v := by
  rw [← Option.isSome_iff_exists, ← Option.ne_none_iff_isSome, ne_eq, get?_eq_none_iff, not_not]

/-- `map` changes every value where it stands. -/
theorem get?_map (d : Dict κ ν) (f : κ → ν → ν) (k : κ) :
    (d.map f).get? k = (d.get? k).map (f k) := by
  cases h : d.get? k with
  | none =>
    rw [get?_eq_none_iff] at h
    exact get?_eq_none_iff.mpr ((keys_map d f).symm ▸ h)
  | some v =>
    refine get?_eq_some_iff.mpr (List.mem_map.mpr ⟨(k, v), get?_eq_some_iff.mp h, rfl⟩)

theorem get?_mapValues {μ : Type} (d : Dict κ ν) (f : ν → μ) (k : κ) :
    (d.mapValues f).get? k = (d.get? k).map f := by
  cases h : d.get? k with
  | none =>
    rw [get?_eq_none_iff] at h
    exact get?_eq_none_iff.mpr ((keys_mapValues d f).symm ▸ h)
  | some v =>
    refine get?_eq_some_iff.mpr (List.mem_map.mpr ⟨(k, v), get?_eq_some_iff.mp h, rfl⟩)

theorem mapValues_set {μ : Type} (d : Dict κ ν) (f : ν → μ) (k : κ) (v : ν) :
    (d.set k v).mapValues f = (d.mapValues f).set k (f v) := ext (Assoc.put_map f d.entries k v)

/-- A filter keeps exactly the values that pass. -/
theorem get?_filter (d : Dict κ ν) (p : κ → ν → Bool) (k : κ) :
    (d.filter p).get? k = (d.get? k).filter (p k) := by
  cases h : d.get? k with
  | none =>
    rw [get?_eq_none_iff] at h
    refine get?_eq_none_iff.mpr fun hk => h ?_
    obtain ⟨e, he, rfl⟩ := List.mem_map.mp hk
    exact List.mem_map.mpr ⟨e, (List.mem_filter.mp he).1, rfl⟩
  | some v =>
    have hmem := get?_eq_some_iff.mp h
    by_cases hp : p k v = true
    · rw [Option.filter_some_pos hp]
      exact get?_eq_some_iff.mpr (List.mem_filter.mpr ⟨hmem, hp⟩)
    · rw [Option.filter_some_neg (by simpa using hp)]
      refine get?_eq_none_iff.mpr fun hk => hp ?_
      obtain ⟨⟨k', v'⟩, he, rfl⟩ := List.mem_map.mp hk
      obtain ⟨hm, hpv⟩ := List.mem_filter.mp he
      rw [get?_eq_some_iff.mpr hm, Option.some.injEq] at h
      exact h ▸ hpv

/-- A filter that treats the old and the new value of a key alike commutes with storing. -/
theorem filter_set {d : Dict κ ν} {p : κ → ν → Bool} {k : κ} {v : ν}
    (h : ∀ v₀, d.get? k = some v₀ → p k v₀ = p k v) :
    (d.set k v).filter p = if p k v then (d.filter p).set k v else d.filter p := by
  refine ext ?_
  refine (Assoc.filter_put (q := fun e => p e.1 e.2) h).trans ?_
  split <;> rfl

theorem contains_iff {d : Dict κ ν} {k : κ} : d.contains k = true ↔ ∃ v, d.get? k = some v := by
  simp [contains, Option.isSome_iff_exists]

theorem contains_set (d : Dict κ ν) (k j : κ) (v : ν) :
    (d.set k v).contains j = (decide (k = j) || d.contains j) := by
  rw [contains, get?_set]
  by_cases h : k = j
  · simp [h]
  · simp [h, contains]

theorem contains_erase (d : Dict κ ν) (k j : κ) :
    (d.erase k).contains j = (!decide (k = j) && d.contains j) := by
  rw [contains, get?_erase]
  by_cases h : k = j
  · simp [h]
  · simp [h, contains]

/-- A dictionary in which no key has a value is empty. -/
theorem eq_empty_of_get? {d : Dict κ ν} (h : ∀ k, d.get? k = none) : d = empty := by
  refine ext ?_
  cases hd : d.entries with
  | nil => rfl
  | cons e t =>
    have := get?_eq_some_iff.mpr (show (e.1, e.2) ∈ d.entries by simp [hd])
    rw [h e.1] at this
    cases this

/-- Storing the value a key already has changes nothing, not even the order. -/
theorem set_get?_self {d : Dict κ ν} {k : κ} {v : ν} (h : d.get? k = some v) :
    d.set k v = d := by
  obtain ⟨l, hn⟩ := d
  refine ext ?_
  change Assoc.lookup l k = some v at h
  change Assoc.put l k v = l
  clear hn
  induction l with
  | nil => simp [Assoc.lookup] at h
  | cons e t ih =>
    obtain ⟨k', v'⟩ := e
    by_cases hk : k' = k
    · simp only [Assoc.lookup, hk, if_true, Option.some.injEq] at h
      simp [Assoc.put, hk, h]
    · simp only [Assoc.lookup, hk, if_false] at h
      simp [Assoc.put, hk, ih h]

/-! ## 4. Sizes and totals -/

/-- A key that is present is overwritten, a new one is appended. -/
theorem size_set (d : Dict κ ν) (k : κ) (v : ν) :
    (d.set k v).size = if d.contains k then d.size else d.size + 1 :=
  Assoc.length_put d.entries k v

/-- Storing `v` replaces the old contribution of the key by `f v`. -/
theorem total_set (d : Dict κ ν) (f : ν → Nat) (k : κ) (v : ν) :
    (d.set k v).total f + ((d.get? k).map f).getD 0 = d.total f + f v := by
  obtain ⟨l, hn⟩ := d
  simp only [total, set, get?]
  clear hn
  induction l with
  | nil => simp [Assoc.put, Assoc.lookup]
  | cons e t ih =>
    obtain ⟨k', v'⟩ := e
    by_cases h : k' = k
    · simp only [Assoc.put, Assoc.lookup, h, if_true, List.map_cons, List.sum_cons,
        Option.map_some, Option.getD_some]
      omega
    · simp only [Assoc.put, Assoc.lookup, h, if_false, List.map_cons, List.sum_cons]
      omega

/-- Removing a key removes its contribution. -/
theorem total_erase (d : Dict κ ν) (f : ν → Nat) (k : κ) :
    (d.erase k).total f + ((d.get? k).map f).getD 0 = d.total f := by
  obtain ⟨l, hn⟩ := d
  simp only [total, erase, get?]
  clear hn
  induction l with
  | nil => simp [Assoc.drop, Assoc.lookup]
  | cons e t ih =>
    obtain ⟨k', v'⟩ := e
    by_cases h : k' = k
    · simp only [Assoc.drop, Assoc.lookup, h, if_true, List.map_cons, List.sum_cons,
        Option.map_some, Option.getD_some]
      omega
    · simp only [Assoc.drop, Assoc.lookup, h, if_false, List.map_cons, List.sum_cons]
      omega

end Dict

end ZtPlanet.Lib
