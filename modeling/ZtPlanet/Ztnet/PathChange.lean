/-
# Connection changes are debounced

While a member stays online, a new connection status is first only pending, with the time at which
it was first seen; it is stored, and announced as `node.connection.changed`, at a sample half a
minute later, if every known sample in between has shown it, no two of them are more than 45 seconds
apart, and no sample was without a status.

The row holds three columns for this, and what they say about the samples so far is the invariant of
this module: a pending status is one that a streak of samples has shown since the time that is
stored with it (`Debounced.sound`), and every streak of a status that is not the stored one is
pending (`Debounced.complete`).
-/
import ZtPlanet.Ztnet.Presence

namespace ZtPlanet.Ztnet.Observation

open ZtPlanet.Lib ZtPlanet.Python

/-! ## 1. Streaks -/

section Streaks

-- the clock and the online value of the known samples, and the status of every sample
variable {known : Nat → Option (Int × Bool)} {status : Nat → ConnectionStatus}

/-- The known samples from `k` up to `n`, without `n`, are online with the status `s`, no sample
among them has an unknown status, and consecutive known ones are at most 45 seconds apart. -/
structure Streak (known : Nat → Option (Int × Bool)) (status : Nat → ConnectionStatus) (k n : Nat)
    (s : ConnectionStatus) : Prop where
  online : ∀ j, k ≤ j → j < n → ∀ x ∈ known j, x.2 = true ∧ status j = s
  uninterrupted : ∀ j, k ≤ j → j < n → status j ≠ .unknown
  dense : ∀ i j, k ≤ i → i < j → j < n → ∀ x ∈ known i, ∀ y ∈ known j,
    (∀ m, i < m → m < j → known m = none) → y.1 - x.1 ≤ 45000

/-- `i` is the last known sample before `n`. -/
structure LastKnown (known : Nat → Option (Int × Bool)) (i n : Nat) (x : Int × Bool) : Prop where
  before : i < n
  isKnown : known i = some x
  last : ∀ m, i < m → m < n → known m = none

theorem LastKnown.le {i k n : Nat} {x y : Int × Bool} (h : LastKnown known i n x)
    (hk : known k = some y) (hkn : k < n) : k ≤ i := by
  by_contra hlt
  rw [h.last k (by omega) hkn] at hk
  cases hk

theorem LastKnown.unique {i i' n : Nat} {x x' : Int × Bool} (h : LastKnown known i n x)
    (h' : LastKnown known i' n x') : i = i' ∧ x = x' := by
  have heq : i = i' := le_antisymm (h'.le h.isKnown h.before) (h.le h'.isKnown h'.before)
  subst heq
  exact ⟨rfl, Option.some.inj (h.isKnown.symm.trans h'.isKnown)⟩

/-- A streak up to `n + 1` is one up to `n`. -/
theorem Streak.of_succ {k n : Nat} {s : ConnectionStatus} (h : Streak known status k (n + 1) s) :
    Streak known status k n s :=
  ⟨fun j hkj hjn => h.online j hkj (by omega), fun j hkj hjn => h.uninterrupted j hkj (by omega),
    fun i j hki hij hjn => h.dense i j hki hij (by omega)⟩

/-- A streak goes on over a sample that is not known. -/
theorem Streak.succ_of_none {k n : Nat} {s : ConnectionStatus} (h : Streak known status k n s)
    (hn : known n = none) (hstatus : status n ≠ .unknown) : Streak known status k (n + 1) s := by
  refine ⟨fun j hkj hjn x hx => ?_, fun j hkj hjn => ?_,
    fun i j hki hij hjn x hx y hy hbetween => ?_⟩
  · rcases Nat.lt_succ_iff_lt_or_eq.mp hjn with hlt | rfl
    · exact h.online j hkj hlt x hx
    · rw [hn] at hx
      cases hx
  · rcases Nat.lt_succ_iff_lt_or_eq.mp hjn with hlt | rfl
    · exact h.uninterrupted j hkj hlt
    · exact hstatus
  · rcases Nat.lt_succ_iff_lt_or_eq.mp hjn with hlt | rfl
    · exact h.dense i j hki hij hlt x hx y hy hbetween
    · rw [hn] at hy
      cases hy

/-- A streak goes on over a known sample that shows its status soon enough. -/
theorem Streak.succ_of_some {i k n : Nat} {s : ConnectionStatus} {x y : Int × Bool}
    (h : Streak known status k n s) (hlast : LastKnown known i n x) (hn : known n = some y)
    (honline : y.2 = true) (hstatus : status n = s) (hs : s ≠ .unknown)
    (hgap : y.1 - x.1 ≤ 45000) : Streak known status k (n + 1) s := by
  refine ⟨fun j hkj hjn z hz => ?_, fun j hkj hjn => ?_,
    fun i' j hki hij hjn x' hx' y' hy' hbetween => ?_⟩
  · rcases Nat.lt_succ_iff_lt_or_eq.mp hjn with hlt | rfl
    · exact h.online j hkj hlt z hz
    · obtain rfl := Option.some.inj (hn.symm.trans hz)
      exact ⟨honline, hstatus⟩
  · rcases Nat.lt_succ_iff_lt_or_eq.mp hjn with hlt | rfl
    · exact h.uninterrupted j hkj hlt
    · exact hstatus ▸ hs
  · rcases Nat.lt_succ_iff_lt_or_eq.mp hjn with hlt | rfl
    · exact h.dense i' j hki hij hlt x' hx' y' hy' hbetween
    · obtain ⟨-, rfl⟩ := hlast.unique ⟨hij, hx', hbetween⟩
      obtain rfl := Option.some.inj (hn.symm.trans hy')
      exact hgap

/-- A known sample begins a streak. -/
theorem Streak.start {n : Nat} {s : ConnectionStatus} {y : Int × Bool} (hn : known n = some y)
    (honline : y.2 = true) (hstatus : status n = s) (hs : s ≠ .unknown) :
    Streak known status n (n + 1) s := by
  refine ⟨fun j hnj hjn x hx => ?_, fun j hnj hjn => ?_, fun i j hni hij hjn => by omega⟩
  · obtain rfl : j = n := by omega
    obtain rfl := Option.some.inj (hn.symm.trans hx)
    exact ⟨honline, hstatus⟩
  · obtain rfl : j = n := by omega
    exact hstatus ▸ hs

/-- A streak from a known sample on has the last known sample in it. -/
theorem Streak.last {i k n : Nat} {s : ConnectionStatus} {x y z : Int × Bool}
    (h : Streak known status k (n + 1) s) (hk : known k = some z) (hkn : k < n)
    (hlast : LastKnown known i n x) (hn : known n = some y) :
    x.2 = true ∧ y.1 - x.1 ≤ 45000 := by
  have hki := hlast.le hk hkn
  exact ⟨(h.online i hki (by have := hlast.before; omega) x hlast.isKnown).1,
    h.dense i n hki hlast.before (by omega) x hlast.isKnown y hn hlast.last⟩

end Streaks

/-! ## 2. The columns of the connection -/

variable {package : AddressPackage} {row db : MemberRow} {live : Live} {snapshot : Snapshot}
  {source : MemberObservation}

/-- A new status of a member that stays online. -/
def Differs (db : MemberRow) (online : Bool) (conStatus : ConnectionStatus) : Prop :=
  db.online = some true ∧ online = true ∧ ∃ p, db.connectionStatus = some p ∧ p ≠ conStatus

/-- The row was observed at most 45 seconds before. -/
def Continuous (db : MemberRow) (clock : Int) : Prop :=
  ∃ t, db.statusObservedAt = some t ∧ clock - t ≤ 45000

/-- The status has been pending for half a minute. -/
def Ripe (db : MemberRow) (clock : Int) (conStatus : ConnectionStatus) : Prop :=
  db.connectionPendingStatus = some conStatus ∧
    ∃ since, db.connectionPendingSince = some since ∧ clock - since ≥ 30000

/-- The columns `connectionStatus`, `connectionPendingStatus` and `connectionPendingSince`. -/
def MemberRow.connection (db : MemberRow) :
    Option ConnectionStatus × Option ConnectionStatus × Option Int :=
  (db.connectionStatus, db.connectionPendingStatus, db.connectionPendingSince)

theorem connection_eq {a b : Option ConnectionStatus} {c : Option Int}
    (h : db.connection = (a, b, c)) :
    db.connectionStatus = a ∧ db.connectionPendingStatus = b ∧ db.connectionPendingSince = c :=
  ⟨congrArg Prod.fst h, congrArg (fun x => x.2.1) h, congrArg (fun x => x.2.2) h⟩

/-- **The branches of a known sample with a status.** -/
theorem connection_update (db : MemberRow) (clock : Int) (online : Bool)
    (conStatus : ConnectionStatus) :
    (Differs db online conStatus ∧ Continuous db clock ∧ Ripe db clock conStatus ∧
      (db.update (connectionData db clock online conStatus)).connection
        = (some conStatus, none, none)) ∨
    (Differs db online conStatus ∧
      ¬ (Continuous db clock ∧ db.connectionPendingStatus = some conStatus) ∧
      (db.update (connectionData db clock online conStatus)).connection
        = (db.connectionStatus, some conStatus, some clock)) ∨
    (Differs db online conStatus ∧ Continuous db clock ∧
      db.connectionPendingStatus = some conStatus ∧ ¬ Ripe db clock conStatus ∧
      (db.update (connectionData db clock online conStatus)).connection = db.connection) ∨
    (¬ Differs db online conStatus ∧
      (db.update (connectionData db clock online conStatus)).connection
        = (some conStatus, none, none)) := by
  have hcontinuous : (db.statusObservedAt.any fun observedAt => clock - observedAt ≤ 45000) = true
      ↔ Continuous db clock := by
    unfold Continuous
    cases db.statusObservedAt <;> simp
  have hripe : (db.connectionPendingSince.any fun since => clock - since ≥ 30000) = true
      ↔ ∃ since, db.connectionPendingSince = some since ∧ clock - since ≥ 30000 := by
    cases db.connectionPendingSince <;> simp
  have hdiffers : (db.online = some true ∧ online = true ∧ db.connectionStatus ≠ none ∧
      db.connectionStatus ≠ some conStatus) ↔ Differs db online conStatus := by
    unfold Differs
    cases db.connectionStatus <;> simp
  unfold connectionData
  by_cases hd : Differs db online conStatus
  · rw [if_pos (hdiffers.mpr hd)]
    by_cases hc : Continuous db clock
    · by_cases hp : db.connectionPendingStatus = some conStatus
      · by_cases hr : ∃ since, db.connectionPendingSince = some since ∧ clock - since ≥ 30000
        · refine .inl ⟨hd, hc, ⟨hp, hr⟩, ?_⟩
          simp only [hcontinuous.mpr hc, hp, hripe.mpr hr, decide_true, Bool.and_self, if_true]
          rfl
        · refine .inr (.inr (.inl ⟨hd, hc, hp, fun h => hr h.2, ?_⟩))
          have hripe' := Bool.eq_false_iff.mpr fun h => hr (hripe.mp h)
          simp only [hcontinuous.mpr hc, hp, hripe', decide_true, Bool.and_false,
            Bool.false_eq_true, if_false, Bool.not_true, Bool.or_self]
          rfl
      · refine .inr (.inl ⟨hd, fun h => hp h.2, ?_⟩)
        simp only [hp, decide_false, Bool.and_false, Bool.false_and, Bool.false_eq_true, if_false,
          Bool.not_false, Bool.or_true, if_true]
        rfl
    · refine .inr (.inl ⟨hd, fun h => hc h.1, ?_⟩)
      have hcontinuous' := Bool.eq_false_iff.mpr fun h => hc (hcontinuous.mp h)
      simp only [hcontinuous', Bool.false_and, Bool.false_eq_true, if_false, Bool.not_false,
        Bool.true_or, if_true]
      rfl
  · rw [if_neg fun h => hd (hdiffers.mp h)]
    exact .inr (.inr (.inr ⟨hd, rfl⟩))

/-- The columns behind a known sample. -/
theorem connection_observedData (db : MemberRow) (snapshot : Snapshot) (source : MemberObservation)
    (conStatus : ConnectionStatus) :
    (db.update (observedData db snapshot source conStatus)).connection =
      if conStatus = .unknown then (db.update (interruption db)).connection
      else (db.update (connectionData db snapshot.clock source.online conStatus)).connection := by
  unfold observedData
  split
  · rfl
  · rfl

/-- A sample without a status ends what is pending. -/
theorem connection_interruption (db : MemberRow) :
    (db.update (interruption db)).connectionStatus = db.connectionStatus ∧
      (db.update (interruption db)).connectionPendingStatus = none := by
  unfold interruption
  by_cases h : db.connectionPendingStatus = none
  · rw [if_neg (not_not.mpr h)]
    exact ⟨rfl, h⟩
  · rw [if_pos h]
    exact ⟨rfl, rfl⟩

theorem filter_ne_eq_some {α : Type} [DecidableEq α] {o : Option α} {a b : α} :
    o.filter (· ≠ a) = some b ↔ b ≠ a ∧ o.getD a = b := by
  cases o with
  | none =>
    refine iff_of_false nofun ?_
    rintro ⟨hne, rfl⟩
    exact hne rfl
  | some c =>
    rw [Option.filter_eq_some_iff, Option.some.injEq, Option.getD_some, decide_eq_true_eq]
    constructor
    · rintro ⟨rfl, hne⟩
      exact ⟨hne, rfl⟩
    · rintro ⟨hne, rfl⟩
      exact ⟨rfl, hne⟩

/-- The stored status that a known sample changes. -/
theorem observeMember_connectionStatus {s : ConnectionStatus}
    (h : known db.id db.creationTime live = some (snapshot, source)) :
    (observeMember package db live).2.connectionStatus = some (some s) ↔
      db.connectionStatus ≠ some s ∧
      (db.update (observedData db snapshot source
        (serve package db live).conStatus)).connectionStatus = some s := by
  rw [observeMember_known h]
  refine filter_ne_eq_some.trans (and_congr_left fun _ => ?_)
  exact ne_comm

/-- The branch of `statusEventTypes` that announces a change. -/
theorem connectionChanged_mem_types {member : Served} {data : MemberData} :
    .connectionChanged ∈ statusEventTypes db member data ↔
      member.online = some true ∧ db.statusObservedAt ≠ none ∧ db.online = some true ∧
      ∃ status stored, data.connectionStatus = some (some status) ∧
        db.connectionStatus = some stored ∧ status ≠ stored ∧ status ≠ .unknown := by
  unfold statusEventTypes
  constructor
  · intro hmem
    split at hmem
    · cases hmem
    next online honline =>
      split at hmem
      · split at hmem <;> simp at hmem
      next hobserved =>
        split at hmem
        · cases online <;> simp at hmem
        next hsame =>
          split at hmem
          next status stored hdata hdb =>
            split at hmem
            next hcond =>
              simp only [Bool.and_eq_true, decide_eq_true_eq] at hcond
              obtain ⟨⟨rfl, hne⟩, hknown⟩ := hcond
              exact ⟨honline, hobserved, not_not.mp hsame, status, stored, hdata, hdb, hne, hknown⟩
            next => cases hmem
          next => cases hmem
  · rintro ⟨honline, hobserved, hdbOnline, status, stored, hdata, hdb, hne, hknown⟩
    simp [honline, hobserved, hdbOnline, hdata, hdb, hne, hknown]

/-- A known sample of a member that stays online stores a new status where it was pending. -/
theorem connectionStatus_update {conStatus status stored : ConnectionStatus}
    (hdbOnline : db.online = some true) (honline : source.online = true)
    (hdb : db.connectionStatus = some stored) (hne : status ≠ stored) :
    (db.update (observedData db snapshot source conStatus)).connectionStatus = some status ↔
      status = conStatus ∧ conStatus ≠ .unknown ∧ Continuous db snapshot.clock ∧
        Ripe db snapshot.clock conStatus := by
  have hcolumns := congrArg Prod.fst (connection_observedData db snapshot source conStatus)
  change (db.update (observedData db snapshot source conStatus)).connectionStatus = _ at hcolumns
  have hkept : db.connectionStatus ≠ some status := by
    rw [hdb]
    exact fun h => hne (Option.some.inj h).symm
  rw [hcolumns]
  by_cases hunknown : conStatus = .unknown
  · rw [if_pos hunknown]
    refine iff_of_false (fun h => hkept ?_) fun h => h.2.1 hunknown
    exact (connection_interruption db).1.symm.trans h
  rw [if_neg hunknown]
  rcases connection_update db snapshot.clock source.online conStatus with
    ⟨-, hc, hr, heq⟩ | ⟨-, hnot, heq⟩ | ⟨-, -, -, hnot, heq⟩ | ⟨hnot, heq⟩
  · rw [heq]
    constructor
    · intro h
      exact ⟨(Option.some.inj h).symm, hunknown, hc, hr⟩
    · rintro ⟨rfl, -⟩
      rfl
  · rw [heq]
    exact iff_of_false hkept fun h => hnot ⟨h.2.2.1, h.2.2.2.1⟩
  · rw [heq]
    exact iff_of_false hkept fun h => hnot h.2.2.2
  · -- the status is the stored one
    have hsame : stored = conStatus := by
      by_contra h
      exact hnot ⟨hdbOnline, honline, stored, hdb, h⟩
    rw [heq]
    refine iff_of_false (fun h => hne ?_) fun h => hne (h.1.trans hsame.symm)
    exact (Option.some.inj h).symm.trans hsame.symm

/-- **When a change is announced.** -/
theorem connectionChanged_mem (package : AddressPackage)
    (h : known db.id db.creationTime live = some (snapshot, source)) :
    .connectionChanged ∈ statusEventTypes db (serve package db live)
        (observeMember package db live).2 ↔
      (serve package db live).conStatus ≠ .unknown ∧
      Differs db source.online (serve package db live).conStatus ∧
      Continuous db snapshot.clock ∧ Ripe db snapshot.clock (serve package db live).conStatus := by
  have honline : (serve package db live).online = some source.online := by
    rw [serve_online, h]
    rfl
  rw [connectionChanged_mem_types, honline, Option.some.injEq]
  constructor
  · rintro ⟨hon, -, hdbOnline, status, stored, hdata, hdb, hne, -⟩
    obtain ⟨-, hupdate⟩ := (observeMember_connectionStatus h).mp hdata
    obtain ⟨rfl, hunknown, hc, hr⟩ :=
      (connectionStatus_update hdbOnline hon hdb hne).mp hupdate
    exact ⟨hunknown, ⟨hdbOnline, hon, stored, hdb, hne.symm⟩, hc, hr⟩
  · rintro ⟨hunknown, ⟨hdbOnline, hon, stored, hdb, hne⟩, hc, hr⟩
    obtain ⟨t, ht, -⟩ := id hc
    refine ⟨hon, ht ▸ nofun, hdbOnline, _, stored, ?_, hdb, hne.symm, hunknown⟩
    refine (observeMember_connectionStatus h).mpr ⟨fun h => hne ?_, ?_⟩
    · exact Option.some.inj (hdb.symm.trans h)
    · exact (connectionStatus_update hdbOnline hon hdb hne.symm).mpr ⟨rfl, hunknown, hc, hr⟩

/-! ## 3. What the columns say about the samples -/

/-- **The invariant.**  What the row holds behind the first `n` samples. -/
structure Debounced (known : Nat → Option (Int × Bool)) (status : Nat → ConnectionStatus) (n : Nat)
    (r : MemberRow) : Prop where
  unobserved : r.statusObservedAt = none → ∀ j, j < n → known j = none
  observed : ∀ t, r.statusObservedAt = some t →
    ∃ i x, LastKnown known i n x ∧ x.1 = t ∧ r.online = some x.2
  stored : r.connectionStatus ≠ some .unknown
  sound : ∀ s, r.connectionPendingStatus = some s →
    ∃ k x, known k = some x ∧ k < n ∧ r.connectionPendingSince = some x.1 ∧
      Streak known status k n s
  complete : ∀ k x s, known k = some x → k < n → Streak known status k n s →
    ∀ p, r.connectionStatus = some p → p ≠ s →
      r.connectionPendingStatus = some s ∧
        ∃ since, r.connectionPendingSince = some since ∧ since ≤ x.1

section Steps

variable {known : Nat → Option (Int × Bool)} {status : Nat → ConnectionStatus} {n : Nat}
  {r r' : MemberRow}

/-- A sample that is not known. -/
theorem Debounced.succ_of_none (h : Debounced known status n r) (hn : known n = none)
    (honline : r'.online = r.online) (hobserved : r'.statusObservedAt = r.statusObservedAt)
    (hstored : r'.connectionStatus = r.connectionStatus)
    (hpending : if status n = .unknown then r'.connectionPendingStatus = none
      else r'.connection = r.connection) : Debounced known status (n + 1) r' := by
  refine ⟨fun hnone j hj => ?_, fun t ht => ?_, hstored ▸ h.stored, fun s hs => ?_,
    fun k x s hk hkn hstreak p hp hne => ?_⟩
  · rcases Nat.lt_succ_iff_lt_or_eq.mp hj with hlt | rfl
    · exact h.unobserved (hobserved ▸ hnone) j hlt
    · exact hn
  · obtain ⟨i, x, hlast, hx, hon⟩ := h.observed t (hobserved ▸ ht)
    refine ⟨i, x, ⟨Nat.lt_succ_of_lt hlast.before, hlast.isKnown, fun m him hmn => ?_⟩, hx,
      honline.trans hon⟩
    rcases Nat.lt_succ_iff_lt_or_eq.mp hmn with hlt | rfl
    · exact hlast.last m him hlt
    · exact hn
  · split at hpending
    · rw [hpending] at hs
      cases hs
    next hstatus =>
      obtain ⟨-, hstatus', hsince'⟩ := connection_eq hpending
      obtain ⟨k, x, hk, hkn, hsince, hstreak⟩ := h.sound s (hstatus'.symm.trans hs)
      exact ⟨k, x, hk, Nat.lt_succ_of_lt hkn, hsince'.trans hsince,
        hstreak.succ_of_none hn hstatus⟩
  · have hlt : k < n := by
      rcases Nat.lt_succ_iff_lt_or_eq.mp hkn with hlt | rfl
      · exact hlt
      · rw [hn] at hk
        cases hk
    rw [if_neg (hstreak.uninterrupted n (Nat.le_of_lt hlt) (Nat.lt_succ_self n))] at hpending
    obtain ⟨hstatus, since, hsince, hle⟩ :=
      h.complete k x s hk hlt hstreak.of_succ p (hstored ▸ hp) hne
    obtain ⟨-, hstatus', hsince'⟩ := connection_eq hpending
    exact ⟨hstatus'.trans hstatus, since, hsince'.trans hsince, hle⟩

/-- A streak up to a known sample shows the status of that sample. -/
theorem Streak.status_eq {k : Nat} {s : ConnectionStatus} {y : Int × Bool}
    (h : Streak known status k (n + 1) s) (hkn : k < n + 1) (hn : known n = some y) :
    y.2 = true ∧ status n = s :=
  h.online n (Nat.le_of_lt_succ hkn) (Nat.lt_succ_self n) y hn

/-- A known sample, where the columns of the connection say what they should. -/
theorem Debounced.succ_of_some {y : Int × Bool} (hn : known n = some y)
    (honline : r'.online = some y.2) (hobserved : r'.statusObservedAt = some y.1)
    (hstored : r'.connectionStatus ≠ some .unknown)
    (hsound : ∀ s, r'.connectionPendingStatus = some s →
      ∃ k x, known k = some x ∧ k < n + 1 ∧ r'.connectionPendingSince = some x.1 ∧
        Streak known status k (n + 1) s)
    (hcomplete : ∀ k x, known k = some x → k < n + 1 →
      Streak known status k (n + 1) (status n) → y.2 = true →
      ∀ p, r'.connectionStatus = some p → p ≠ status n →
        r'.connectionPendingStatus = some (status n) ∧
          ∃ since, r'.connectionPendingSince = some since ∧ since ≤ x.1) :
    Debounced known status (n + 1) r' := by
  refine ⟨fun hnone => ?_, fun t ht => ?_, hstored, hsound, fun k x s hk hkn hstreak => ?_⟩
  · rw [hobserved] at hnone
    cases hnone
  · obtain rfl := Option.some.inj (hobserved.symm.trans ht)
    exact ⟨n, y, ⟨Nat.lt_succ_self n, hn, fun m hnm hmn => by omega⟩, rfl, honline⟩
  · obtain ⟨hon, rfl⟩ := hstreak.status_eq hkn hn
    exact hcomplete k x hk hkn hstreak hon

/-- The row was observed last at the last known sample. -/
theorem Debounced.lastKnown (h : Debounced known status n r) {k : Nat} {x : Int × Bool}
    (hk : known k = some x) (hkn : k < n) :
    ∃ i z, LastKnown known i n z ∧ r.statusObservedAt = some z.1 ∧ r.online = some z.2 := by
  cases ht : r.statusObservedAt with
  | none =>
    rw [h.unobserved ht k hkn] at hk
    cases hk
  | some t =>
    obtain ⟨i, z, hlast, rfl, hon⟩ := h.observed t ht
    exact ⟨i, z, hlast, rfl, hon⟩

/-- **A known sample of a debounced row.** -/
theorem Debounced.update (h : Debounced known status n r)
    (hn : known n = some (snapshot.clock, source.online))
    (hclocks : ∀ k x, k < n → known k = some x → x.1 ≤ snapshot.clock) :
    Debounced known status (n + 1) (r.update (observedData r snapshot source (status n))) := by
  have hcolumns := connection_observedData r snapshot source (status n)
  obtain ⟨honline, hobserved, -⟩ := update_observedData r snapshot source (status n)
  generalize r.update (observedData r snapshot source (status n)) = r' at *
  by_cases hunknown : status n = .unknown
  · -- nothing is pending, and no streak has this sample in it
    rw [if_pos hunknown] at hcolumns
    obtain ⟨hstored, hpending, -⟩ := connection_eq hcolumns
    rw [(connection_interruption r).1] at hstored
    rw [(connection_interruption r).2] at hpending
    refine .succ_of_some hn honline hobserved (hstored ▸ h.stored) (fun s hs => ?_)
      fun k x hk hkn hstreak => ?_
    · rw [hpending] at hs
      cases hs
    · exact absurd hunknown
        (hstreak.uninterrupted n (Nat.le_of_lt_succ hkn) (Nat.lt_succ_self n))
  rw [if_neg hunknown] at hcolumns
  -- the status of the sample is the stored one
  have hsettled : r'.connection = (some (status n), none, none) →
      Debounced known status (n + 1) r' := by
    intro hsettled
    obtain ⟨hstored, hpending, -⟩ := connection_eq hsettled
    refine .succ_of_some hn honline hobserved ?_ (fun s hs => ?_)
      fun k x hk hkn hstreak hon p hp hne => ?_
    · rw [hstored]
      exact fun heq => hunknown (Option.some.inj heq)
    · rw [hpending] at hs
      cases hs
    · exact absurd (Option.some.inj (hstored.symm.trans hp)).symm hne
  rcases connection_update r snapshot.clock source.online (status n) with
    ⟨-, -, -, heq⟩ | ⟨⟨hdbOnline, hon, p, hp, hne⟩, hnot, heq⟩ |
    ⟨⟨hdbOnline, hon, p, hp, hne⟩, ⟨t, ht, hgap⟩, hpending, -, heq⟩ | ⟨-, heq⟩
  · exact hsettled (hcolumns.trans heq)
  · -- the status is pending from this sample on
    obtain ⟨hstored', hpending', hsince'⟩ := connection_eq (hcolumns.trans heq)
    refine .succ_of_some hn honline hobserved (hstored' ▸ h.stored) (fun s hs => ?_)
      fun k x hk hkn hstreak _ p' hp' hne' => ⟨hpending', snapshot.clock, hsince', ?_⟩
    · obtain rfl := Option.some.inj (hpending'.symm.trans hs)
      exact ⟨n, _, hn, Nat.lt_succ_self n, hsince', .start hn hon rfl hunknown⟩
    · rcases Nat.lt_succ_iff_lt_or_eq.mp hkn with hlt | rfl
      · obtain ⟨hpending, -⟩ := h.complete k x _ hk hlt hstreak.of_succ p hp hne
        obtain ⟨i, z, hlast, hobs, -⟩ := h.lastKnown hk hlt
        have hgap := (hstreak.last hk hlt hlast hn).2
        exact absurd ⟨⟨z.1, hobs, hgap⟩, hpending⟩ hnot
      · obtain rfl := Option.some.inj (hn.symm.trans hk)
        exact le_refl _
  · -- the status stays pending
    obtain ⟨hstored', hpending', hsince'⟩ := connection_eq (hcolumns.trans heq)
    obtain ⟨k₀, x₀, hk₀, hkn₀, hsince, hstreak₀⟩ := h.sound (status n) hpending
    obtain ⟨i, z, hlast, rfl, -⟩ := h.observed t ht
    have hpending'' := hpending'.trans hpending
    have hsince'' := hsince'.trans hsince
    refine .succ_of_some hn honline hobserved (hstored' ▸ h.stored) (fun s hs => ?_)
      fun k x hk hkn hstreak _ p' hp' hne' => ⟨hpending'', x₀.1, hsince'', ?_⟩
    · obtain rfl := Option.some.inj (hpending''.symm.trans hs)
      exact ⟨k₀, x₀, hk₀, Nat.lt_succ_of_lt hkn₀, hsince'',
        hstreak₀.succ_of_some hlast hn hon rfl hunknown hgap⟩
    · rcases Nat.lt_succ_iff_lt_or_eq.mp hkn with hlt | rfl
      · obtain ⟨-, since, hs, hle⟩ := h.complete k x _ hk hlt hstreak.of_succ p hp hne
        obtain rfl := Option.some.inj (hsince.symm.trans hs)
        exact hle
      · obtain rfl := Option.some.inj (hn.symm.trans hk)
        exact hclocks k₀ x₀ hkn₀ hk₀
  · exact hsettled (hcolumns.trans heq)

end Steps

/-! ## 4. Runs -/

/-- The store behind the first `n` samples. -/
def storeAt (package : AddressPackage) (row : MemberRow) (lives : List Live) (n : Nat) : Store :=
  polls package ⟨row, []⟩ (lives.take n)

/-- The events of sample `n`. -/
def emittedAt (package : AddressPackage) (row : MemberRow) (lives : List Live) (n : Nat) :
    List StatusEvent :=
  (storeAt package row lives (n + 1)).events.drop (storeAt package row lives n).events.length

/-- The clock and the online value of sample `n`, where it is known. -/
def knownAt (row : MemberRow) (lives : List Live) (n : Nat) : Option (Int × Bool) :=
  (lives[n]?.bind (known row.id row.creationTime)).map fun k => (k.1.clock, k.2.online)

/-- The connection status of sample `n`. -/
def statusAt (package : AddressPackage) (row : MemberRow) (lives : List Live) (n : Nat) :
    ConnectionStatus :=
  (lives[n]?.map fun live => (serve package row live).conStatus).getD .unknown

/-- A change to the status `s` is announced at sample `n`. -/
def AnnouncesChange (package : AddressPackage) (row : MemberRow) (lives : List Live) (n : Nat)
    (s : ConnectionStatus) : Prop :=
  ∃ event ∈ emittedAt package row lives n, event.type = .connectionChanged ∧ event.after = s

/-- The known sample before sample `n` is online. -/
def PreviouslyOnline (row : MemberRow) (lives : List Live) (n : Nat) : Prop :=
  ∃ i x, LastKnown (knownAt row lives) i n x ∧ x.2 = true

/-- From the known sample `k` up to sample `n`, for half a minute, every known sample is online with
the status `s`, none has an unknown status, and consecutive known ones are at most 45 seconds
apart. -/
def Sustained (package : AddressPackage) (row : MemberRow) (lives : List Live) (k n : Nat)
    (s : ConnectionStatus) : Prop :=
  k < n ∧ Streak (knownAt row lives) (statusAt package row lives) k (n + 1) s ∧
    ∃ x y, knownAt row lives k = some x ∧ knownAt row lives n = some y ∧ y.1 - x.1 ≥ 30000

/-- A row that no poll has stored anything in. -/
structure MemberRow.Fresh (row : MemberRow) : Prop where
  statusObservedAt : row.statusObservedAt = none
  connectionStatus : row.connectionStatus = none
  connectionPendingStatus : row.connectionPendingStatus = none

variable {lives : List Live} {n : Nat}

theorem storeAt_succ (hlive : lives[n]? = some live) :
    storeAt package row lives (n + 1) = pollOnce package (storeAt package row lives n) live := by
  unfold storeAt polls
  rw [List.take_add_one, hlive, Option.toList_some, List.foldl_append]
  rfl

/-- Polls leave the identity of the member alone. -/
theorem storeAt_same (package : AddressPackage) (row : MemberRow) (lives : List Live) (n : Nat) :
    (storeAt package row lives n).row.id = row.id ∧
      (storeAt package row lives n).row.nwid = row.nwid ∧
      (storeAt package row lives n).row.creationTime = row.creationTime := by
  unfold storeAt polls
  generalize lives.take n = samples
  have hall : ∀ s : Store, (samples.foldl (pollOnce package) s).row.id = s.row.id ∧
      (samples.foldl (pollOnce package) s).row.nwid = s.row.nwid ∧
      (samples.foldl (pollOnce package) s).row.creationTime = s.row.creationTime := by
    induction samples with
    | nil => exact fun s => ⟨rfl, rfl, rfl⟩
    | cons live samples ih =>
      intro s
      obtain ⟨hid, hnwid, hcreation⟩ := ih (pollOnce package s live)
      rw [pollOnce_eq] at hid hnwid hcreation
      rw [List.foldl_cons, pollOnce_eq]
      exact ⟨hid, hnwid, hcreation⟩
  exact hall _

theorem serve_congr {r : MemberRow} (hid : r.id = row.id) (hnwid : r.nwid = row.nwid)
    (hcreation : r.creationTime = row.creationTime) (live : Live) :
    serve package r live = serve package row live := by
  unfold serve
  rw [hid, hnwid, hcreation]

/-- What a sample says of the member does not depend on the stored row. -/
theorem sampleAt (package : AddressPackage) (row : MemberRow) (hlive : lives[n]? = some live) :
    (known (storeAt package row lives n).row.id (storeAt package row lives n).row.creationTime
        live).map (fun k => (k.1.clock, k.2.online)) = knownAt row lives n ∧
      (serve package (storeAt package row lives n).row live).conStatus
        = statusAt package row lives n := by
  obtain ⟨hid, hnwid, hcreation⟩ := storeAt_same package row lives n
  unfold knownAt statusAt
  rw [hid, hcreation, serve_congr hid hnwid hcreation, hlive]
  exact ⟨rfl, rfl⟩

theorem emittedAt_eq (hlive : lives[n]? = some live) :
    emittedAt package row lives n =
      statusEvents (storeAt package row lives n).row
        (serve package (storeAt package row lives n).row live)
        (observeMember package (storeAt package row lives n).row live).2 := by
  unfold emittedAt
  rw [storeAt_succ hlive, pollOnce_eq]
  exact List.drop_left

/-- Later known samples have later clocks. -/
theorem knownAt_mono (hclocks : (clocks lives).Pairwise (· ≤ ·)) {i j : Nat} (hij : i < j)
    {x y : Int × Bool} (hx : knownAt row lives i = some x) (hy : knownAt row lives j = some y) :
    x.1 ≤ y.1 := by
  have hclock : ∀ {m : Nat} {z : Int × Bool}, knownAt row lives m = some z →
      ∃ live, lives[m]? = some live ∧ live.clock = some z.1 := by
    intro m z hz
    obtain ⟨⟨snapshot, source⟩, hk, rfl⟩ := Option.map_eq_some_iff.mp hz
    obtain ⟨live, hlive, hknown⟩ := Option.bind_eq_some_iff.mp hk
    refine ⟨live, hlive, ?_⟩
    unfold Live.clock
    rw [known_snapshot hknown]
    rfl
  obtain ⟨live, hlive, hcx⟩ := hclock hx
  obtain ⟨live', hlive', hcy⟩ := hclock hy
  obtain ⟨hi, rfl⟩ := List.getElem?_eq_some_iff.mp hlive
  obtain ⟨hj, rfl⟩ := List.getElem?_eq_some_iff.mp hlive'
  rw [clocks, List.pairwise_filterMap] at hclocks
  exact List.pairwise_iff_getElem.mp hclocks i j hi hj hij _ hcx _ hcy

/-- **The invariant of a run.** -/
theorem debounced_storeAt (package : AddressPackage) (hfresh : row.Fresh)
    (hclocks : (clocks lives).Pairwise (· ≤ ·)) (n : Nat) (hn : n ≤ lives.length) :
    Debounced (knownAt row lives) (statusAt package row lives) n
      (storeAt package row lives n).row := by
  induction n with
  | zero =>
    have hrow : (storeAt package row lives 0).row = row := rfl
    rw [hrow]
    refine ⟨fun _ j hj => absurd hj (Nat.not_lt_zero j), fun t ht => ?_, ?_, fun s hs => ?_,
      fun k _ _ _ hk => absurd hk (Nat.not_lt_zero k)⟩
    · rw [hfresh.statusObservedAt] at ht
      cases ht
    · rw [hfresh.connectionStatus]
      exact nofun
    · rw [hfresh.connectionPendingStatus] at hs
      cases hs
  | succ n ih =>
    have hlive : lives[n]? = some lives[n] := List.getElem?_eq_getElem hn
    have hs := ih (Nat.le_of_succ_le hn)
    obtain ⟨hknownAt, hstatusAt⟩ := sampleAt package row hlive
    rw [storeAt_succ hlive, pollOnce_eq]
    generalize (storeAt package row lives n).row = r at hs hknownAt hstatusAt ⊢
    cases hknown : known r.id r.creationTime lives[n] with
    | none =>
      rw [hknown] at hknownAt
      obtain ⟨honline, hobserved, -⟩ := observeMember_unknown_frame package r hknown
      refine hs.succ_of_none hknownAt.symm honline hobserved ?_ ?_
      · rw [observeMember_unknown hknown]
        dsimp only
        split
        · exact (connection_interruption r).1
        · rfl
      · rw [← hstatusAt, observeMember_unknown hknown]
        dsimp only
        split
        · exact (connection_interruption r).2
        · rfl
    | some k =>
      obtain ⟨snapshot, source⟩ := k
      rw [hknown] at hknownAt
      rw [observeMember_known hknown]
      dsimp only
      rw [MemberRow.update_dropUnchanged, hstatusAt]
      exact hs.update hknownAt.symm fun k x hkn hx => knownAt_mono hclocks hkn hx hknownAt.symm

/-- The row before a known sample, with what the sample says. -/
theorem known_storeAt (package : AddressPackage) {y : Int × Bool}
    (hn : knownAt row lives n = some y) :
    ∃ live snapshot source, lives[n]? = some live ∧
      known (storeAt package row lives n).row.id (storeAt package row lives n).row.creationTime live
        = some (snapshot, source) ∧
      y = (snapshot.clock, source.online) ∧
      (serve package (storeAt package row lives n).row live).conStatus
        = statusAt package row lives n := by
  cases hlive : lives[n]? with
  | none =>
    unfold knownAt at hn
    rw [hlive] at hn
    cases hn
  | some live =>
    obtain ⟨hknownAt, hstatusAt⟩ := sampleAt package row hlive
    obtain ⟨⟨snapshot, source⟩, hknown, rfl⟩ := Option.map_eq_some_iff.mp (hknownAt.trans hn)
    exact ⟨live, snapshot, source, rfl, hknown, rfl, hstatusAt⟩

/-- A change is announced to the status of its sample, where the stored row is ripe for it. -/
theorem announcesChange_iff {s : ConnectionStatus} (hlive : lives[n]? = some live)
    (hknown : known (storeAt package row lives n).row.id
      (storeAt package row lives n).row.creationTime live = some (snapshot, source))
    (hstatus : (serve package (storeAt package row lives n).row live).conStatus
      = statusAt package row lives n) :
    AnnouncesChange package row lives n s ↔
      statusAt package row lives n = s ∧ s ≠ .unknown ∧
      Differs (storeAt package row lives n).row source.online s ∧
      Continuous (storeAt package row lives n).row snapshot.clock ∧
      Ripe (storeAt package row lives n).row snapshot.clock s := by
  have hmem := connectionChanged_mem package hknown
  rw [hstatus] at hmem
  unfold AnnouncesChange
  rw [emittedAt_eq hlive]
  unfold statusEvents
  rw [hstatus]
  constructor
  · rintro ⟨event, hevent, htype, rfl⟩
    obtain ⟨type, htypes, rfl⟩ := List.mem_map.mp hevent
    exact ⟨rfl, hmem.mp (htype ▸ htypes)⟩
  · rintro ⟨rfl, hripe⟩
    exact ⟨_, List.mem_map.mpr ⟨_, hmem.mpr hripe, rfl⟩, rfl, rfl⟩

/-- **Debounced path changes.**  In a run of polls in sequence, from a fresh row on and with clocks
that do not decrease, a change to the status `s` is announced at a known sample if and only if the
known sample before it is online, the stored status is known and is not `s`, and `s` has been
sustained for half a minute up to this sample; and then `s` is stored. -/
theorem path_changed_iff (package : AddressPackage) (row : MemberRow) (hfresh : row.Fresh)
    (lives : List Live) (hclocks : (clocks lives).Pairwise (· ≤ ·)) (n : Nat)
    (hn : (knownAt row lives n).isSome = true) (s : ConnectionStatus) :
    (AnnouncesChange package row lives n s ↔
      PreviouslyOnline row lives n ∧
      (∃ p, (storeAt package row lives n).row.connectionStatus = some p ∧ p ≠ .unknown ∧ p ≠ s) ∧
      ∃ k, Sustained package row lives k n s) ∧
    (AnnouncesChange package row lives n s →
      (storeAt package row lives (n + 1)).row.connectionStatus = some s) := by
  obtain ⟨y, hy⟩ := Option.isSome_iff_exists.mp hn
  obtain ⟨live, snapshot, source, hlive, hknown, rfl, hstatus⟩ := known_storeAt package hy
  have hlength := (List.getElem?_eq_some_iff.mp hlive).1
  have hs := debounced_storeAt package hfresh hclocks n (Nat.le_of_lt hlength)
  rw [announcesChange_iff hlive hknown hstatus]
  refine ⟨⟨?_, ?_⟩, ?_⟩
  · rintro ⟨hsame, hunknown, ⟨hdbOnline, hon, p, hp, hne⟩, ⟨t, ht, hgap⟩, hpending, since, hsince,
      hlong⟩
    obtain ⟨k, x, hk, hkn, hx, hstreak⟩ := hs.sound s hpending
    obtain ⟨i, z, hlast, rfl, hz⟩ := hs.observed t ht
    obtain rfl := Option.some.inj (hsince.symm.trans hx)
    refine ⟨⟨i, z, hlast, Option.some.inj (hz.symm.trans hdbOnline)⟩, ⟨p, hp, ?_, hne⟩, k, hkn,
      hstreak.succ_of_some hlast hy hon hsame hunknown hgap, x, _, hk, hy, hlong⟩
    rintro rfl
    exact hs.stored hp
  · rintro ⟨-, ⟨p, hp, -, hne⟩, k, hkn, hstreak, x, y, hk, hy', hlong⟩
    obtain rfl := Option.some.inj (hy.symm.trans hy')
    obtain ⟨hon, hsame⟩ := hstreak.status_eq (Nat.lt_succ_of_lt hkn) hy
    have hunknown : s ≠ .unknown :=
      hsame ▸ hstreak.uninterrupted n (Nat.le_of_lt hkn) (Nat.lt_succ_self n)
    obtain ⟨hpending, since, hsince, hle⟩ := hs.complete k x s hk hkn hstreak.of_succ p hp hne
    obtain ⟨i, z, hlast, hobs, hz⟩ := hs.lastKnown hk hkn
    obtain ⟨hzon, hgap⟩ := hstreak.last hk hkn hlast hy
    refine ⟨hsame, hunknown, ⟨hzon ▸ hz, hon, p, hp, hne⟩, ⟨z.1, hobs, hgap⟩, hpending, since,
      hsince, ?_⟩
    exact le_trans hlong (Int.sub_le_sub_left hle _)
  · rintro ⟨hsame, hunknown, ⟨hdbOnline, hon, p, hp, hne⟩, hc, hr⟩
    rw [storeAt_succ hlive, pollOnce_eq, observeMember_known hknown]
    dsimp only
    rw [MemberRow.update_dropUnchanged, hstatus, hsame]
    exact (connectionStatus_update hdbOnline hon hp hne.symm).mpr ⟨rfl, hunknown, hc, hr⟩

/-- A relayed member that gets a direct path. -/
def directLives : List Live :=
  let path : Path := ⟨py "203.0.113.5/9993", true, true, false⟩
  [observedLive 1000 true [], observedLive 11000 true [path], observedLive 31000 true [path],
    observedLive 41000 true [path]]

/-- The change is announced with the fourth sample. -/
theorem path_changed_iff_example :
    (∃ k, Sustained examplePackage freshRow directLives k 3 .directWAN) ∧
      (storeAt examplePackage freshRow directLives 4).row.connectionStatus = some .directWAN := by
  have hannounced : AnnouncesChange examplePackage freshRow directLives 3 .directWAN := by
    unfold AnnouncesChange
    decide +kernel
  have h := path_changed_iff examplePackage freshRow ⟨rfl, rfl, rfl⟩ directLives (by decide) 3
    (by decide +kernel) .directWAN
  exact ⟨(h.1.mp hannounced).2.2, h.2 hannounced⟩

end ZtPlanet.Ztnet.Observation
