/-
# Caches that evict the least recently used entry

The entries of a cache are kept in the order of their last use, the last one first, and there are at
most `max`.  An entry that is set goes to the front and pushes the last one out where there are too
many; an entry that is read goes to the front as well, unless it is older than `ttl`, in which case
it is taken out.  Its age counts from when it was set.

`Behind` says what an entry sees of the others: those in front of it are the keys that have been
used since.  Another key that is used comes to the front, and the entry stays exactly as long as
fewer than `max` keys are in front of it (`Behind.toFront`).
-/
import Mathlib.Data.Finset.Card
import Mathlib.Data.List.Nodup

namespace ZtPlanet.Lib

/-! ## 1. Caches -/

/-- An entry, with the time at which it was set. -/
structure LruEntry (κ ν : Type) where
  key : κ
  value : ν
  start : Nat
deriving DecidableEq

structure LruCache (κ ν : Type) (max : Nat) where
  entries : List (LruEntry κ ν)
  nodup : (entries.map LruEntry.key).Nodup
  size_le : entries.length ≤ max

/-- The entry, with another value where it is the one of the key. -/
def LruEntry.updated {κ ν : Type} [DecidableEq κ] (k : κ) (f : ν → ν) (e : LruEntry κ ν) :
    LruEntry κ ν :=
  if e.key = k then { e with value := f e.value } else e

@[simp] theorem LruEntry.updated_key {κ ν : Type} [DecidableEq κ] (k : κ) (f : ν → ν)
    (e : LruEntry κ ν) :
    (e.updated k f).key = e.key := by
  rw [LruEntry.updated]
  split <;> rfl

namespace LruCache

variable {κ ν : Type} [DecidableEq κ] {max : Nat}

theorem map_key_updated (k : κ) (f : ν → ν) (l : List (LruEntry κ ν)) :
    (l.map (LruEntry.updated k f)).map LruEntry.key = l.map LruEntry.key := by
  rw [List.map_map]
  exact List.map_congr_left fun e _ => e.updated_key k f

def empty : LruCache κ ν max := ⟨[], List.nodup_nil, Nat.zero_le _⟩

def find? (c : LruCache κ ν max) (k : κ) : Option (LruEntry κ ν) :=
  c.entries.find? fun e => e.key = k

/-- The entries of other keys. -/
def others (c : LruCache κ ν max) (k : κ) : List (LruEntry κ ν) :=
  c.entries.filter fun e => e.key ≠ k

theorem others_sublist (c : LruCache κ ν max) (k : κ) : (c.others k).Sublist c.entries :=
  List.filter_sublist

theorem nodup_front (c : LruCache κ ν max) (e : LruEntry κ ν) (n : Nat) :
    ((e :: (c.others e.key).take n).map LruEntry.key).Nodup := by
  rw [List.map_cons, List.nodup_cons]
  constructor
  · rintro hmem
    obtain ⟨e', he', hkey⟩ := List.mem_map.mp hmem
    have hother := List.of_mem_filter (List.mem_of_mem_take he')
    simp [hkey] at hother
  · exact ((((List.take_sublist _ _).trans (c.others_sublist _)).map LruEntry.key).nodup c.nodup)

/-- The entry goes to the front, and the last one is pushed out where there are too many. -/
def toFront (c : LruCache κ ν max) (e : LruEntry κ ν) (hmax : 0 < max) : LruCache κ ν max where
  entries := e :: (c.others e.key).take (max - 1)
  nodup := c.nodup_front e _
  size_le := by
    rw [List.length_cons, List.length_take]
    omega

/-- The cache without the key. -/
def delete (c : LruCache κ ν max) (k : κ) : LruCache κ ν max where
  entries := c.others k
  nodup := ((c.others_sublist k).map LruEntry.key).nodup c.nodup
  size_le := (c.others_sublist k).length_le.trans c.size_le

/-- `set`. -/
def set (c : LruCache κ ν max) (hmax : 0 < max) (now : Nat) (k : κ) (v : ν) : LruCache κ ν max :=
  c.toFront ⟨k, v, now⟩ hmax

/-- `get`, where an entry expires when it is older than `ttl`. -/
def get (c : LruCache κ ν max) (hmax : 0 < max) (ttl now : Nat) (k : κ) :
    Option ν × LruCache κ ν max :=
  match c.find? k with
  | none => (none, c)
  | some e => if e.start + ttl < now then (none, c.delete k) else (some e.value, c.toFront e hmax)

/-- The value of a key is changed in place. -/
def modify (c : LruCache κ ν max) (k : κ) (f : ν → ν) : LruCache κ ν max where
  entries := c.entries.map (LruEntry.updated k f)
  nodup := by
    rw [map_key_updated]
    exact c.nodup
  size_le := by
    rw [List.length_map]
    exact c.size_le

/-! ## 2. What an entry sees of the others -/

/-- The entry is in the cache, and the keys in front of it are those of `used`. -/
def Behind (used : Finset κ) (e : LruEntry κ ν) (c : LruCache κ ν max) : Prop :=
  ∃ front back, c.entries = front ++ e :: back ∧ ∀ k, k ∈ used ↔ k ∈ front.map LruEntry.key

/-- The key is not in the cache. -/
def Absent (k : κ) (c : LruCache κ ν max) : Prop := ∀ e ∈ c.entries, e.key ≠ k

variable {c : LruCache κ ν max} {used : Finset κ} {e : LruEntry κ ν} {k : κ} {hmax : 0 < max}

theorem mem_of_find? (h : c.find? k = some e) : e ∈ c.entries ∧ e.key = k :=
  ⟨List.mem_of_find?_eq_some h, by simpa using List.find?_some h⟩

theorem find?_eq_none_iff : c.find? k = none ↔ c.Absent k := by
  simp [find?, Absent]

/-- An entry that is behind others is found. -/
theorem Behind.find? (h : c.Behind used e) : c.find? e.key = some e := by
  obtain ⟨front, back, hentries, -⟩ := h
  have hnodup := c.nodup
  rw [hentries, List.map_append, List.map_cons, List.nodup_append] at hnodup
  rw [LruCache.find?, hentries, List.find?_append, List.find?_eq_none.mpr, Option.none_or,
    List.find?_cons_of_pos (by simp)]
  intro e' he' hkey
  exact hnodup.2.2 _ (List.mem_map_of_mem he') _ (List.mem_cons_self ..) (of_decide_eq_true hkey)

/-- The keys in front are counted by the entries in front. -/
theorem card_used {front : List (LruEntry κ ν)} (hnodup : (front.map LruEntry.key).Nodup)
    (hused : ∀ k, k ∈ used ↔ k ∈ front.map LruEntry.key) : used.card = front.length := by
  rw [← List.length_map (f := LruEntry.key), ← List.toFinset_card_of_nodup hnodup]
  refine congrArg Finset.card (Finset.ext fun k => ?_)
  rw [hused, List.mem_toFinset]

/-- As many keys have been used as there are in front. -/
theorem Behind.card_lt (h : c.Behind used e) : used.card < max := by
  obtain ⟨front, back, hentries, hused⟩ := h
  have hnodup := c.nodup
  rw [hentries, List.map_append, List.nodup_append] at hnodup
  have hcard := card_used hnodup.1 hused
  have hsize := c.size_le
  rw [hentries, List.length_append, List.length_cons] at hsize
  omega

/-- An entry that has just come to the front. -/
theorem behind_toFront (hmax : 0 < max) (c : LruCache κ ν max) (e : LruEntry κ ν) :
    (c.toFront e hmax).Behind ∅ e := ⟨[], _, rfl, by simp⟩

/-! ## 3. Other keys -/

variable {e' : LruEntry κ ν} {f : ν → ν}

/-- **Another entry comes to the front.**  The entry stays where fewer than `max` keys are in front
of it then, and is pushed out otherwise. -/
theorem Behind.toFront (h : c.Behind used e) (hne : e'.key ≠ e.key) :
    if (insert e'.key used).card < max then (c.toFront e' hmax).Behind (insert e'.key used) e
    else (c.toFront e' hmax).Absent e.key := by
  obtain ⟨front, back, hentries, hused⟩ := h
  have hothers : c.others e'.key = front.filter (fun x => x.key ≠ e'.key) ++
      e :: back.filter (fun x => x.key ≠ e'.key) := by
    rw [others, hentries, List.filter_append, List.filter_cons_of_pos (by simpa using hne.symm)]
  generalize hfront : front.filter (fun x => decide (x.key ≠ e'.key)) = front' at hothers
  generalize back.filter (fun x => decide (x.key ≠ e'.key)) = back' at hothers
  -- what is in front of the entry then
  have hused' : ∀ k, k ∈ insert e'.key used ↔ k ∈ (e' :: front').map LruEntry.key := by
    intro k
    rw [Finset.mem_insert, hused, List.map_cons, List.mem_cons, ← hfront]
    by_cases hk : k = e'.key
    · simp [hk]
    · simp only [hk, false_or, List.mem_map, List.mem_filter, decide_eq_true_eq]
      constructor
      · rintro ⟨x, hx, rfl⟩
        exact ⟨x, ⟨hx, hk⟩, rfl⟩
      · rintro ⟨x, ⟨hx, -⟩, rfl⟩
        exact ⟨x, hx, rfl⟩
  have hall := c.nodup_front e' (c.others e'.key).length
  rw [List.take_length, hothers, ← List.cons_append, List.map_append, List.nodup_append] at hall
  have hcard : (insert e'.key used).card = front'.length + 1 := card_used hall.1 hused'
  have hentries' : (c.toFront e' hmax).entries = e' :: (front' ++ e :: back').take (max - 1) := by
    rw [← hothers]
    rfl
  split
  · next hlt =>
    refine ⟨e' :: front', back'.take (max - 1 - front'.length - 1), ?_, hused'⟩
    rw [hentries', List.take_append, List.take_of_length_le (by omega), List.take_cons (by omega)]
    rfl
  · next hge =>
    intro x hx hkey
    rw [hentries', List.take_append_of_le_length (by omega)] at hx
    have hfront : x.key ∈ (e' :: front').map LruEntry.key := by
      refine List.mem_map_of_mem ?_
      rcases List.mem_cons.mp hx with rfl | hx
      · exact List.mem_cons_self ..
      · exact List.mem_cons_of_mem _ (List.mem_of_mem_take hx)
    exact hall.2.2 _ hfront _ (List.mem_cons_self ..) hkey

/-- Another key is taken out. -/
theorem Behind.delete (h : c.Behind used e) (hne : k ≠ e.key) :
    (c.delete k).Behind (used.erase k) e := by
  obtain ⟨front, back, hentries, hused⟩ := h
  refine ⟨front.filter (fun x => x.key ≠ k), back.filter (fun x => x.key ≠ k), ?_, fun j => ?_⟩
  · change c.others k = _
    rw [others, hentries, List.filter_append, List.filter_cons_of_pos (by simpa using hne.symm)]
  · rw [Finset.mem_erase, hused]
    simp only [List.mem_map, List.mem_filter, decide_eq_true_eq]
    constructor
    · rintro ⟨hj, x, hx, rfl⟩
      exact ⟨x, ⟨hx, hj⟩, rfl⟩
    · rintro ⟨x, ⟨hx, hj⟩, rfl⟩
      exact ⟨hj, x, hx, rfl⟩

/-- A value is changed in place. -/
theorem Behind.modify (h : c.Behind used e) (k : κ) :
    (c.modify k f).Behind used (e.updated k f) := by
  obtain ⟨front, back, hentries, hused⟩ := h
  refine ⟨front.map (LruEntry.updated k f), back.map (LruEntry.updated k f), ?_, fun j => ?_⟩
  · change c.entries.map _ = _
    rw [hentries, List.map_append, List.map_cons]
  · rw [map_key_updated, hused]

theorem Absent.toFront (h : c.Absent k) (hne : e'.key ≠ k) : (c.toFront e' hmax).Absent k := by
  intro x hx
  rcases List.mem_cons.mp hx with rfl | hx
  · exact hne
  · exact h x ((c.others_sublist _).subset (List.mem_of_mem_take hx))

theorem Absent.delete (h : c.Absent k) (j : κ) : (c.delete j).Absent k :=
  fun x hx => h x ((c.others_sublist _).subset hx)

theorem Absent.modify (h : c.Absent k) (j : κ) : (c.modify j f).Absent k := by
  intro x hx
  obtain ⟨y, hy, rfl⟩ := List.mem_map.mp hx
  rw [LruEntry.updated_key]
  exact h y hy

/-! ## 4. An entry after other keys have been used -/

/-- The entry after the keys of `used` have been used: it is behind them, or has been pushed out. -/
def Seen (used : Finset κ) (e : LruEntry κ ν) (c : LruCache κ ν max) : Prop :=
  if used.card < max then c.Behind used e else c.Absent e.key

theorem Behind.seen (h : c.Behind used e) : c.Seen used e := by
  rw [Seen, if_pos h.card_lt]
  exact h

/-- **Another key is used.** -/
theorem Seen.toFront (h : c.Seen used e) (e' : LruEntry κ ν) (hne : e'.key ≠ e.key) :
    (c.toFront e' hmax).Seen (insert e'.key used) e := by
  rw [Seen] at h
  split at h
  · exact h.toFront hne
  · next hge =>
    have hcard := Finset.card_le_card (Finset.subset_insert e'.key used)
    rw [Seen, if_neg (by omega)]
    exact h.toFront hne

/-- Another key is set. -/
theorem Seen.set (h : c.Seen used e) (hne : k ≠ e.key) (now : Nat) (v : ν) :
    (c.set hmax now k v).Seen (insert k used) e := h.toFront ⟨k, v, now⟩ hne

/-- Another key is taken out, and set again. -/
theorem Seen.renew (h : c.Seen used e) (hne : k ≠ e.key) (now : Nat) (v : ν) :
    ((c.delete k).set hmax now k v).Seen (insert k used) e := by
  rw [Seen] at h
  split at h
  · have hback : ((c.delete k).set hmax now k v).Seen (insert k (used.erase k)) e :=
      (h.delete hne).seen.set hne now v
    rwa [show insert k (used.erase k) = insert k used by ext; simp; tauto] at hback
  · next hge =>
    have hcard := Finset.card_le_card (Finset.subset_insert k used)
    rw [Seen, if_neg (by omega)]
    exact (h.delete _).toFront hne

/-- **Another key is read**, and set where it is not there, or set anyway. -/
theorem Seen.get (hmax : 0 < max) (h : c.Seen used e) (hne : k ≠ e.key) (ttl now : Nat) :
    (∀ v, ((c.get hmax ttl now k).2.set hmax now k v).Seen (insert k used) e) ∧
      ((c.get hmax ttl now k).1.isSome = true →
        (c.get hmax ttl now k).2.Seen (insert k used) e) := by
  unfold LruCache.get
  cases hfind : c.find? k with
  | none => exact ⟨fun v => h.set hne now v, nofun⟩
  | some x =>
    obtain ⟨-, rfl⟩ := mem_of_find? hfind
    dsimp only
    split
    · exact ⟨fun v => h.renew hne now v, nofun⟩
    · have hfront : (c.toFront x hmax).Seen (insert x.key used) e := h.toFront x hne
      refine ⟨fun v => ?_, fun _ => hfront⟩
      have hset : ((c.toFront x hmax).set hmax now x.key v).Seen
        (insert x.key (insert x.key used)) e :=
        hfront.set hne now v
      rwa [Finset.insert_idem] at hset

/-- The entry itself is read before it expires. -/
theorem Behind.get (h : c.Behind used e) {ttl now : Nat} (htime : now ≤ e.start + ttl) :
    c.get hmax ttl now e.key = (some e.value, c.toFront e hmax) := by
  rw [LruCache.get, h.find?]
  exact if_neg (by omega)

theorem Seen.modify (h : c.Seen used e) (k : κ) : (c.modify k f).Seen used (e.updated k f) := by
  rw [Seen] at h ⊢
  split at h
  · next hlt =>
    rw [if_pos hlt]
    exact h.modify k
  · next hge =>
    rw [if_neg hge, LruEntry.updated_key]
    exact h.modify k

end LruCache

end ZtPlanet.Lib
