/-
# Presence: online and offline events

The online state that a poll stores for a member follows the known samples, and the events
`node.online` and `node.offline` are read off the difference between a row and a sample.

Where polls follow each other, these events are exactly the changes in the sequence of known online
values (`presence_edges`): a sample that is not known changes nothing here, and the first one that
is known is a baseline.

Polls that overlap are the subject of the second half.  A poll with an event compares
`statusObservedAt` with the row that it has read; a poll without one stores its columns in any case.
So an old snapshot can move `statusObservedAt` back, and a poll that took the row for unobserved can
turn its online state around without an event.  `presence_ordered` says that nothing else goes
wrong: in a run without such writes the events alternate and `statusObservedAt` never moves back.
-/
import Mathlib.Data.List.Destutter
import ZtPlanet.Lib.Interleave
import ZtPlanet.Ztnet.Observation

namespace ZtPlanet.Ztnet.Observation

open ZtPlanet.Lib ZtPlanet.Python

variable {package : AddressPackage} {row db : MemberRow} {live : Live} {snapshot : Snapshot}
  {source : MemberObservation}

/-! ## 1. Polls in sequence -/

/-- Polls that follow each other. -/
def polls (package : AddressPackage) : Store → List Live → Store :=
  List.foldl (pollOnce package)

/-- The known online value of a sample. -/
def knownOnline (id : PyStr) (creationTime : Int) (live : Live) : Option Bool :=
  (known id creationTime live).map fun k => k.2.online

/-- The changes of a sequence of known values, behind a baseline. -/
def edges (notifyOnFirstOnline : Bool) : List Bool → List Bool
  | [] => []
  | first :: values =>
    (if notifyOnFirstOnline && first then [true] else []) ++
      (values.destutter' (· ≠ ·) first).tail

/-- The clock of a sample. -/
def Live.clock (live : Live) : Option Int := live.snapshot.map Snapshot.clock

/-- The clocks of the snapshots. -/
def clocks (lives : List Live) : List Int := lives.filterMap Live.clock

/-- What is fixed in an event's key: no two events of a member with one key are enqueued. -/
def StatusEvent.key (event : StatusEvent) : EventType × Option Int := (event.type, event.observedAt)

theorem knownOnline_none {id : PyStr} {creationTime : Int} (h : known id creationTime live = none) :
    knownOnline id creationTime live = none := by
  unfold knownOnline
  rw [h]
  rfl

theorem knownOnline_some {id : PyStr} {creationTime : Int}
    (h : known id creationTime live = some (snapshot, source)) :
    knownOnline id creationTime live = some source.online := by
  unfold knownOnline
  rw [h]
  rfl

theorem pollOnce_eq (package : AddressPackage) (s : Store) (live : Live) :
    pollOnce package s live =
      ⟨s.row.update (observeMember package s.row live).2,
        s.events ++ statusEvents s.row (serve package s.row live)
          (observeMember package s.row live).2⟩ := by
  unfold pollOnce persistObservedMember
  simp only [observeMember_fst]
  split
  next h => rw [h, List.append_nil]
  next => rfl

/-- The columns that a sample leaves alone in any case. -/
@[simp] theorem update_id (row : MemberRow) (data : MemberData) : (row.update data).id = row.id :=
  rfl

@[simp] theorem update_creationTime (row : MemberRow) (data : MemberData) :
    (row.update data).creationTime = row.creationTime := rfl

/-- An unknown sample stores neither a presence nor a time. -/
theorem observeMember_unknown_frame (package : AddressPackage) (row : MemberRow)
    (h : known db.id db.creationTime live = none) :
    (row.update (observeMember package db live).2).online = row.online ∧
      (row.update (observeMember package db live).2).statusObservedAt = row.statusObservedAt ∧
      (row.update (observeMember package db live).2).notifyOnFirstOnline
        = row.notifyOnFirstOnline := by
  rw [observeMember_unknown h]
  dsimp only
  split
  · unfold interruption
    split
    · exact ⟨rfl, rfl, rfl⟩
    · exact ⟨rfl, rfl, rfl⟩
  · exact ⟨rfl, rfl, rfl⟩

/-- A known sample stores both. -/
theorem update_observedData (row : MemberRow) (snapshot : Snapshot) (source : MemberObservation)
    (conStatus : ConnectionStatus) :
    (row.update (observedData row snapshot source conStatus)).online = some source.online ∧
      (row.update (observedData row snapshot source conStatus)).statusObservedAt
        = some snapshot.clock ∧
      (row.update (observedData row snapshot source conStatus)).notifyOnFirstOnline = false := by
  refine ⟨rfl, rfl, ?_⟩
  cases h : row.notifyOnFirstOnline <;> simp [MemberRow.update, observedData, h]

/-- **A poll.**  What it stores of the presence, and what it announces. -/
theorem pollOnce_presence (package : AddressPackage) (s : Store) (live : Live) :
    presence (pollOnce package s live).events
        = presence s.events ++ announced s.row (knownOnline s.row.id s.row.creationTime live) ∧
      (pollOnce package s live).row.id = s.row.id ∧
      (pollOnce package s live).row.creationTime = s.row.creationTime ∧
      match known s.row.id s.row.creationTime live with
      | none =>
        (pollOnce package s live).row.online = s.row.online ∧
          (pollOnce package s live).row.statusObservedAt = s.row.statusObservedAt ∧
          (pollOnce package s live).row.notifyOnFirstOnline = s.row.notifyOnFirstOnline
      | some (snapshot, source) =>
        (pollOnce package s live).row.online = some source.online ∧
          (pollOnce package s live).row.statusObservedAt = some snapshot.clock ∧
          (pollOnce package s live).row.notifyOnFirstOnline = false := by
  rw [pollOnce_eq]
  refine ⟨?_, rfl, rfl, ?_⟩
  · rw [presence_append, presence_statusEvents, serve_online]
    rfl
  · cases h : known s.row.id s.row.creationTime live with
    | none => exact observeMember_unknown_frame package s.row h
    | some k =>
      obtain ⟨snapshot, source⟩ := k
      rw [observeMember_known h]
      dsimp only
      rw [MemberRow.update_dropUnchanged]
      exact update_observedData s.row snapshot source _

/-- The value before the changes stays in front. -/
theorem cons_tail_destutter' (a : Bool) (l : List Bool) :
    a :: (l.destutter' (· ≠ ·) a).tail = l.destutter' (· ≠ ·) a := by
  induction l with
  | nil => rfl
  | cons b l ih =>
    by_cases h : a ≠ b
    · rw [List.destutter'_cons_pos _ h, List.tail_cons]
    · rw [List.destutter'_cons_neg _ h, ih]

/-- From an observed row on, what is announced are the changes of the known values. -/
theorem presence_polls_observed (package : AddressPackage) (lives : List Live) {s : Store}
    {t : Int} {online : Bool} (hobserved : s.row.statusObservedAt = some t)
    (honline : s.row.online = some online) :
    presence (polls package s lives).events
      = presence s.events ++ ((lives.filterMap
          (knownOnline s.row.id s.row.creationTime)).destutter' (· ≠ ·) online).tail := by
  induction lives generalizing s t online with
  | nil => simp [polls]
  | cons live lives ih =>
    obtain ⟨hpresence, hid, hcreation, hrow⟩ := pollOnce_presence package s live
    change presence (polls package (pollOnce package s live) lives).events = _
    cases h : known s.row.id s.row.creationTime live with
    | none =>
      rw [h] at hrow
      have hnone := knownOnline_none h
      rw [List.filterMap_cons_none hnone,
        ih (hrow.2.1.trans hobserved) (hrow.1.trans honline), hpresence, hnone, hid, hcreation]
      exact congrArg (· ++ _) (List.append_nil _)
    | some k =>
      obtain ⟨snapshot, source⟩ := k
      rw [h] at hrow
      have hsome := knownOnline_some h
      rw [List.filterMap_cons_some hsome, ih hrow.2.1 hrow.1, hpresence, hsome, hid, hcreation]
      have hannounced : announced s.row (some source.online)
          = if online ≠ source.online then [source.online] else [] := by
        unfold announced
        rw [hobserved, honline]
        simp
      rw [hannounced]
      by_cases heq : online = source.online
      · rw [if_neg (not_not.mpr heq), List.append_nil, List.destutter'_cons_neg _ (not_not.mpr heq),
          heq]
      · rw [if_pos heq, List.destutter'_cons_pos _ heq, List.tail_cons, List.append_assoc,
          List.singleton_append, cons_tail_destutter']

/-- From a fresh row on, the first known sample is a baseline. -/
theorem presence_polls_fresh (package : AddressPackage) (lives : List Live) {s : Store}
    (hfresh : s.row.statusObservedAt = none) :
    presence (polls package s lives).events
      = presence s.events ++ edges s.row.notifyOnFirstOnline
          (lives.filterMap (knownOnline s.row.id s.row.creationTime)) := by
  induction lives generalizing s with
  | nil => simp [polls, edges]
  | cons live lives ih =>
    obtain ⟨hpresence, hid, hcreation, hrow⟩ := pollOnce_presence package s live
    change presence (polls package (pollOnce package s live) lives).events = _
    cases h : known s.row.id s.row.creationTime live with
    | none =>
      rw [h] at hrow
      have hnone := knownOnline_none h
      rw [List.filterMap_cons_none hnone, ih (hrow.2.1.trans hfresh), hpresence, hnone, hid,
        hcreation, hrow.2.2]
      exact congrArg (· ++ _) (List.append_nil _)
    | some k =>
      obtain ⟨snapshot, source⟩ := k
      rw [h] at hrow
      have hsome := knownOnline_some h
      rw [List.filterMap_cons_some hsome, presence_polls_observed package lives hrow.2.1 hrow.1,
        hpresence, hsome, hid, hcreation]
      simp only [announced, edges, if_pos hfresh, List.append_assoc]

/-- Changes alternate, with the baseline in front of them or without. -/
theorem edges_alternate (notifyOnFirstOnline : Bool) (values : List Bool) :
    (edges notifyOnFirstOnline values).IsChain (· ≠ ·) := by
  cases values with
  | nil => exact .nil
  | cons first values =>
    have hchain := List.isChain_destutter' (· ≠ ·) values first
    simp only [edges]
    split
    next h =>
      rw [Bool.and_eq_true] at h
      obtain rfl : first = true := h.2
      rw [List.singleton_append, cons_tail_destutter']
      exact hchain
    next => exact hchain.tail

/-! ## 2. No event is taken for an earlier one -/

/-- A poll announces one change at most. -/
theorem statusEvents_cases (db : MemberRow) (member : Served) (data : MemberData) :
    statusEvents db member data = [] ∨
      ∃ event, statusEvents db member data = [event] ∧
        event.observedAt = data.statusObservedAt.getD none := by
  unfold statusEvents
  have htypes : statusEventTypes db member data = [] ∨
      ∃ type, statusEventTypes db member data = [type] := by
    unfold statusEventTypes
    repeat' split
    all_goals simp
  rcases htypes with h | ⟨type, h⟩
  · exact .inl (by rw [h]; rfl)
  · exact .inr ⟨_, by rw [h]; rfl, rfl⟩

theorem statusEvents_unknown (h : known db.id db.creationTime live = none) (data : MemberData) :
    statusEvents db (serve package db live) data = [] := by
  unfold statusEvents statusEventTypes
  rw [serve_online, h]
  rfl

/-- Every event has a time and a key of its own, and none is later than the row's. -/
structure Store.Dated (s : Store) : Prop where
  nodup : (s.events.map StatusEvent.key).Nodup
  dated : ∀ event ∈ s.events, ∃ t t', event.observedAt = some t ∧
    s.row.statusObservedAt = some t' ∧ t ≤ t'

/-- The time of a later snapshot is stored. -/
theorem observeMember_statusObservedAt
    (h : known db.id db.creationTime live = some (snapshot, source))
    (hlater : ∀ t ∈ db.statusObservedAt, t < snapshot.clock) :
    (observeMember package db live).2.statusObservedAt = some (some snapshot.clock) := by
  rw [observeMember_known h]
  change Option.filter (· ≠ db.statusObservedAt) (some (some snapshot.clock)) = _
  refine Option.filter_eq_some_iff.mpr ⟨rfl, ?_⟩
  rw [decide_eq_true_eq]
  intro heq
  exact absurd (hlater snapshot.clock heq.symm) (lt_irrefl _)

theorem known_snapshot {id : PyStr} {creationTime : Int}
    (h : known id creationTime live = some (snapshot, source)) : live.snapshot = some snapshot := by
  unfold known at h
  split at h
  · cases h
  next snapshot' hsnapshot =>
    split at h
    · cases h
    · dsimp only at h
      split at h
      · cases h
        exact hsnapshot
      · cases h

/-- A poll of a later snapshot. -/
theorem Store.Dated.pollOnce {s : Store} (hs : s.Dated)
    (hlater : ∀ t ∈ s.row.statusObservedAt, ∀ snapshot ∈ live.snapshot, t < snapshot.clock) :
    (pollOnce package s live).Dated := by
  obtain ⟨-, -, -, hrow⟩ := pollOnce_presence package s live
  cases h : known s.row.id s.row.creationTime live with
  | none =>
    rw [h] at hrow
    have hevents : (Observation.pollOnce package s live).events = s.events := by
      rw [pollOnce_eq, statusEvents_unknown h]
      exact List.append_nil _
    refine ⟨hevents ▸ hs.nodup, fun event hmem => ?_⟩
    rw [hrow.2.1]
    exact hs.dated event (hevents ▸ hmem)
  | some k =>
    obtain ⟨snapshot, source⟩ := k
    rw [h] at hrow
    have hclock := fun t ht => hlater t ht snapshot (known_snapshot h)
    -- the events so far are of an earlier time
    have hearlier : ∀ event ∈ s.events, ∃ t, event.observedAt = some t ∧ t < snapshot.clock := by
      intro event hmem
      obtain ⟨t, t', ht, ht', hle⟩ := hs.dated event hmem
      exact ⟨t, ht, lt_of_le_of_lt hle (hclock t' ht')⟩
    have hdated : ∀ event ∈ s.events, ∃ t t', event.observedAt = some t ∧
        (Observation.pollOnce package s live).row.statusObservedAt = some t' ∧ t ≤ t' := by
      intro event hmem
      obtain ⟨t, ht, hlt⟩ := hearlier event hmem
      exact ⟨t, snapshot.clock, ht, hrow.2.1, le_of_lt hlt⟩
    have hevents := congrArg Store.events (pollOnce_eq package s live)
    rcases statusEvents_cases s.row (serve package s.row live)
      (observeMember package s.row live).2 with hnone | ⟨event, hone, hat⟩
    · rw [hnone, List.append_nil] at hevents
      exact ⟨hevents ▸ hs.nodup, hevents ▸ hdated⟩
    · rw [hone] at hevents
      rw [observeMember_statusObservedAt h hclock, Option.getD_some] at hat
      refine ⟨?_, ?_⟩
      · rw [hevents, List.map_append, List.map_singleton]
        refine List.Nodup.append hs.nodup (List.nodup_singleton _) ?_
        intro key hkey hkey'
        obtain ⟨earlier, hmem, rfl⟩ := List.mem_map.mp hkey
        obtain ⟨t, ht, hlt⟩ := hearlier earlier hmem
        have heq := congrArg Prod.snd (List.mem_singleton.mp hkey')
        simp only [StatusEvent.key, ht, hat, Option.some.injEq] at heq
        exact absurd heq (ne_of_lt hlt)
      · intro event' hmem
        rw [hevents] at hmem
        rcases List.mem_append.mp hmem with hmem | hmem
        · exact hdated event' hmem
        · obtain rfl := List.mem_singleton.mp hmem
          exact ⟨snapshot.clock, snapshot.clock, hat, hrow.2.1, le_refl _⟩

/-- Polls with increasing clocks. -/
theorem Store.Dated.polls (lives : List Live) {s : Store} (hs : s.Dated)
    (hclocks : (clocks lives).Pairwise (· < ·))
    (hlater : ∀ t ∈ s.row.statusObservedAt, ∀ clock ∈ clocks lives, t < clock) :
    (polls package s lives).Dated := by
  induction lives generalizing s with
  | nil => exact hs
  | cons live lives ih =>
    have hfirst : ∀ t ∈ s.row.statusObservedAt, ∀ snapshot ∈ live.snapshot, t < snapshot.clock := by
      intro t ht snapshot hsnapshot
      refine hlater t ht _ (List.mem_filterMap.mpr ⟨live, List.mem_cons_self, ?_⟩)
      unfold Live.clock
      rw [Option.mem_def.mp hsnapshot]
      rfl
    have hrest : ∀ clock ∈ clocks lives, clock ∈ clocks (live :: lives) := by
      intro clock hmem
      obtain ⟨live', hmem, h⟩ := List.mem_filterMap.mp hmem
      exact List.mem_filterMap.mpr ⟨live', List.mem_cons_of_mem _ hmem, h⟩
    refine ih (hs.pollOnce hfirst) ?_ ?_
    · exact hclocks.sublist (List.Sublist.filterMap _ (List.sublist_cons_self live lives))
    · intro t ht clock hclock
      obtain ⟨-, -, -, hrow⟩ := pollOnce_presence package s live
      cases h : known s.row.id s.row.creationTime live with
      | none =>
        rw [h] at hrow
        exact hlater t (hrow.2.1 ▸ ht) clock (hrest clock hclock)
      | some k =>
        obtain ⟨snapshot, source⟩ := k
        rw [h] at hrow
        obtain rfl := Option.some.inj (hrow.2.1.symm.trans ht)
        have hsome : live.clock = some snapshot.clock := by
          unfold Live.clock
          rw [known_snapshot h]
          rfl
        unfold clocks at hclocks
        rw [List.filterMap_cons_some hsome] at hclocks
        exact (List.pairwise_cons.mp hclocks).1 clock hclock

/-- **Presence events are the edges of the known online sequence.**  In a run of polls in sequence,
from a fresh row on and with increasing clocks, the events `node.online` and `node.offline` are the
changes of the known online values behind their baseline; so they alternate, and each of them has a
key of its own. -/
theorem presence_edges (package : AddressPackage) (row : MemberRow)
    (hfresh : row.statusObservedAt = none) (lives : List Live)
    (hclocks : (clocks lives).Pairwise (· < ·)) :
    presence (polls package ⟨row, []⟩ lives).events
        = edges row.notifyOnFirstOnline
            (lives.filterMap (knownOnline row.id row.creationTime)) ∧
      (presence (polls package ⟨row, []⟩ lives).events).IsChain (· ≠ ·) ∧
      ((polls package ⟨row, []⟩ lives).events.map StatusEvent.key).Nodup := by
  have hedges := presence_polls_fresh package lives (s := ⟨row, []⟩) hfresh
  refine ⟨hedges, ?_, ?_⟩
  · rw [hedges]
    exact edges_alternate _ _
  · have hstart : (⟨row, []⟩ : Store).Dated :=
      ⟨List.nodup_nil, fun _ h => absurd h List.not_mem_nil⟩
    refine (hstart.polls lives hclocks fun t ht => ?_).nodup
    rw [show (⟨row, []⟩ : Store).row.statusObservedAt = none from hfresh] at ht
    cases ht

/-- A member comes online, goes offline, and comes back behind a sample without a status. -/
theorem presence_edges_example :
    presence (polls examplePackage ⟨freshRow, []⟩
      [observedLive 10 true [], observedLive 20 false [], unavailableLive,
        observedLive 30 true []]).events = [true, false, true] :=
  (presence_edges examplePackage freshRow rfl _ (by decide)).1.trans (by decide)

/-! ## 3. Polls that overlap -/

/-- A statement or a transaction of a poll. -/
inductive PollAct where
  /-- the row of the member, as `findMany` returns it -/
  | findMember
  /-- `persistObservedMember`, with what `observeMember` makes of the row that was read -/
  | persist (db : MemberRow) (live : Live)

@[reducible] def PollAct.Ans : PollAct → Type
  | .findMember => MemberRow
  | .persist _ _ => Unit

/-- What the database does. -/
def pollHandle (package : AddressPackage) : Prog.Handler PollAct PollAct.Ans Empty Store
  | .findMember, s => (.ok s.row, s)
  | .persist db live, s =>
    let (member, data) := observeMember package db live
    (.ok (), persistObservedMember db member data s)

/-- The part of `reconcileNetworkMembers` that is about one member, behind the snapshot. -/
def poll (live : Live) : Prog PollAct PollAct.Ans Empty Unit := do
  let db ← Prog.call PollAct.findMember
  Prog.call (PollAct.persist db live)

/-- Polls that take turns. -/
def pollMachine (package : AddressPackage) :=
  poolMachine (pollHandle package) poll

/-- Before the first poll. -/
def pollStart (row : MemberRow) : PoolState PollAct PollAct.Ans Empty Unit Store := ⟨⟨row, []⟩, []⟩

/-- The columns of the poll are stored: it has no event, or the row was last observed when it was
read. -/
def Stores (package : AddressPackage) (db : MemberRow) (live : Live) (s : Store) : Prop :=
  statusEvents db (observeMember package db live).1 (observeMember package db live).2 = [] ∨
    s.row.statusObservedAt = db.statusObservedAt

instance (package : AddressPackage) (db : MemberRow) (live : Live) (s : Store) :
    Decidable (Stores package db live s) :=
  inferInstanceAs (Decidable (_ ∨ _))

/-- A known sample that is stored is later than what the row was last observed at, and where it took
the row for unobserved, the row still is, or has the same online value. -/
def PollAct.InOrder (package : AddressPackage) : PollAct → Store → Prop
  | .findMember, _ => True
  | .persist db live, s =>
    ∀ k ∈ known db.id db.creationTime live, Stores package db live s →
      (∀ t ∈ s.row.statusObservedAt, t < k.1.clock) ∧
        (db.statusObservedAt = none →
          s.row.statusObservedAt = none ∨ s.row.online = some k.2.online)

instance (package : AddressPackage) :
    ∀ (act : PollAct) (s : Store), Decidable (act.InOrder package s)
  | .findMember, _ => isTrue trivial
  | .persist db live, _ =>
    inferInstanceAs (Decidable (∀ k ∈ known db.id db.creationTime live, _ → _ ∧ _))

/-- The events alternate, and the row is what the last of them has announced. -/
structure Store.Consistent (s : Store) : Prop where
  alternate : (presence s.events).IsChain (· ≠ ·)
  last : ∀ online ∈ (presence s.events).getLast?,
    s.row.online = some online ∧ s.row.statusObservedAt ≠ none

/-- `t` is not later than `t'`, where both are times. -/
def NotLater (t t' : Option Int) : Prop := ∀ a ∈ t, ∃ b ∈ t', a ≤ b

/-- What polls do to a row between two of its states. -/
structure Rely (s s' : Store) : Prop where
  later : NotLater s.row.statusObservedAt s'.row.statusObservedAt
  same : s.row.statusObservedAt = s'.row.statusObservedAt → s'.row.online = s.row.online
  consistent : s.Consistent → s'.Consistent

theorem NotLater.refl (t : Option Int) : NotLater t t := fun a ha => ⟨a, ha, le_refl a⟩

theorem NotLater.trans {t₁ t₂ t₃ : Option Int} (h₁ : NotLater t₁ t₂) (h₂ : NotLater t₂ t₃) :
    NotLater t₁ t₃ := by
  intro a ha
  obtain ⟨b, hb, hab⟩ := h₁ a ha
  obtain ⟨c, hc, hbc⟩ := h₂ b hb
  exact ⟨c, hc, le_trans hab hbc⟩

theorem NotLater.antisymm {t t' : Option Int} (h : NotLater t t') (h' : NotLater t' t) :
    t = t' := by
  cases t with
  | none =>
    cases t' with
    | none => rfl
    | some b =>
      obtain ⟨a, ha, -⟩ := h' b rfl
      cases ha
  | some a =>
    obtain ⟨b, rfl, hab⟩ := h a rfl
    obtain ⟨a', ha', hba⟩ := h' b rfl
    cases ha'
    rw [le_antisymm hab hba]

theorem Rely.refl (s : Store) : Rely s s := ⟨.refl _, fun _ => rfl, fun h => h⟩

theorem Rely.trans {s₁ s₂ s₃ : Store} (h₁ : Rely s₁ s₂) (h₂ : Rely s₂ s₃) : Rely s₁ s₃ := by
  refine ⟨h₁.later.trans h₂.later, fun heq => ?_, fun h => h₂.consistent (h₁.consistent h)⟩
  have hmiddle : s₁.row.statusObservedAt = s₂.row.statusObservedAt :=
    h₁.later.antisymm (heq ▸ h₂.later)
  rw [h₂.same (hmiddle ▸ heq), h₁.same hmiddle]

/-- The online column that a poll stores. -/
theorem observeMember_online (h : known db.id db.creationTime live = some (snapshot, source)) :
    (observeMember package db live).2.online
      = (some (some source.online)).filter (· ≠ db.online) := by
  rw [observeMember_known h]
  rfl

/-- The online state behind a poll that is stored over whatever the row is by now. -/
theorem update_online (s : Store)
    (h : known db.id db.creationTime live = some (snapshot, source)) :
    (s.row.update (observeMember package db live).2).online
      = if some source.online = db.online then s.row.online else some source.online := by
  change ((observeMember package db live).2.online).getD s.row.online = _
  rw [observeMember_online h]
  by_cases heq : some source.online = db.online
  · simp [Option.filter, heq]
  · simp [Option.filter, heq]

/-- Where the row has the online state that was read, the poll stores that of the sample. -/
theorem update_online_of_eq {s : Store}
    (h : known db.id db.creationTime live = some (snapshot, source))
    (honline : s.row.online = db.online) :
    (s.row.update (observeMember package db live).2).online = some source.online := by
  rw [update_online s h]
  split
  next heq => exact honline.trans heq.symm
  next => rfl

/-- Two states of a row with the same online state and no later event. -/
theorem Store.Consistent.of_quiet {s t : Store} (hs : s.Consistent)
    (hpresence : presence t.events = presence s.events) (honline : t.row.online = s.row.online)
    (hobserved : s.row.statusObservedAt ≠ none → t.row.statusObservedAt ≠ none) :
    t.Consistent := by
  refine ⟨hpresence ▸ hs.alternate, fun online hlast => ?_⟩
  obtain ⟨heq, hne⟩ := hs.last online (hpresence ▸ hlast)
  exact ⟨honline.trans heq, hobserved hne⟩

/-- A row that has not been observed has no events. -/
theorem Store.Consistent.presence_eq_nil {s : Store} (hs : s.Consistent)
    (hfresh : s.row.statusObservedAt = none) : presence s.events = [] := by
  cases h : (presence s.events).getLast? with
  | none => exact List.getLast?_eq_none_iff.mp h
  | some online => exact absurd hfresh (hs.last online h).2

/-- A state whose last announcement is new. -/
theorem Store.Consistent.of_announced {s t : Store} {online : Bool} (hs : s.Consistent)
    (hpresence : presence t.events = presence s.events ++ [online])
    (hnew : ∀ b ∈ (presence s.events).getLast?, b ≠ online)
    (honline : t.row.online = some online) (hobserved : t.row.statusObservedAt ≠ none) :
    t.Consistent := by
  refine ⟨?_, fun b hb => ?_⟩
  · rw [hpresence]
    refine List.isChain_append.mpr ⟨hs.alternate, .singleton _, fun b hb c hc => ?_⟩
    obtain rfl := Option.some.inj hc
    exact hnew b hb
  · rw [hpresence, List.getLast?_append, List.getLast?_singleton, Option.some_or] at hb
    obtain rfl := Option.some.inj hb
    exact ⟨honline, hobserved⟩

/-- The row is stored as it was read, with the online state of the sample. -/
theorem Store.Consistent.of_announces {s t : Store} {online : Bool} (hs : s.Consistent)
    (hsame : s.row.statusObservedAt = db.statusObservedAt) (honline : s.row.online = db.online)
    (hpresence : presence t.events = presence s.events ++ announced db (some online))
    (hstored : t.row.online = some online) (hobserved : t.row.statusObservedAt ≠ none) :
    t.Consistent := by
  by_cases hfresh : db.statusObservedAt = none
  · have hnil := hs.presence_eq_nil (hsame.trans hfresh)
    simp only [announced, if_pos hfresh] at hpresence
    split at hpresence
    next hnotify =>
      rw [Bool.and_eq_true] at hnotify
      refine hs.of_announced hpresence ?_ (hnotify.2 ▸ hstored) hobserved
      rw [hnil]
      exact nofun
    next =>
      rw [hnil, List.append_nil] at hpresence
      refine ⟨by rw [hpresence]; exact .nil, fun b hb => ?_⟩
      rw [hpresence] at hb
      cases hb
  · simp only [announced, if_neg hfresh] at hpresence
    split at hpresence
    next hne =>
      refine hs.of_announced hpresence (fun b hb heq => hne ?_) hstored hobserved
      rw [← heq, ← honline]
      exact (hs.last b hb).1
    next heq =>
      rw [List.append_nil] at hpresence
      refine hs.of_quiet hpresence ?_ fun _ => hobserved
      rw [hstored, honline]
      exact (not_not.mp heq).symm

/-- **One write.**  A poll that stores a known sample in order. -/
theorem rely_of_stored {s₀ s t : Store} (hdb : s₀.row = db) (hrely : Rely s₀ s)
    (h : known db.id db.creationTime live = some (snapshot, source))
    (hlater : ∀ a ∈ s.row.statusObservedAt, a < snapshot.clock)
    (hbaseline : db.statusObservedAt = none →
      s.row.statusObservedAt = none ∨ s.row.online = some source.online)
    (hrow : t.row = s.row.update (observeMember package db live).2)
    (hevents : t.events = s.events ++ statusEvents db (serve package db live)
      (observeMember package db live).2)
    (hstores : Stores package db live s) : Rely s t := by
  have hannounced : presence (statusEvents db (serve package db live)
      (observeMember package db live).2) = announced db (some source.online) := by
    rw [presence_statusEvents, serve_online, h]
    rfl
  have hpresence : presence t.events = presence s.events ++ announced db (some source.online) := by
    rw [hevents, presence_append, hannounced]
  -- the time that is stored is the snapshot's
  have hdbLater : ∀ a ∈ db.statusObservedAt, a < snapshot.clock := by
    intro a ha
    obtain ⟨b, hb, hab⟩ := hrely.later a (hdb ▸ ha)
    exact lt_of_le_of_lt hab (hlater b hb)
  have htime : t.row.statusObservedAt = some snapshot.clock := by
    rw [hrow]
    change ((observeMember package db live).2.statusObservedAt).getD s.row.statusObservedAt = _
    rw [observeMember_statusObservedAt h hdbLater]
    rfl
  have hobserved : t.row.statusObservedAt ≠ none := htime ▸ nofun
  refine ⟨fun a ha => ⟨snapshot.clock, htime, le_of_lt (hlater a ha)⟩, fun heq => ?_, fun hs => ?_⟩
  · exact absurd (hlater snapshot.clock (heq.trans htime)) (lt_irrefl _)
  by_cases hsame : s.row.statusObservedAt = db.statusObservedAt
  · have honline : s.row.online = db.online := by
      rw [← hdb]
      exact hrely.same (hdb ▸ hsame.symm)
    refine hs.of_announces hsame honline hpresence ?_ hobserved
    rw [hrow]
    exact update_online_of_eq h honline
  · -- the row is not as it was read, and the poll has no event
    have hnone := hstores.resolve_right hsame
    rw [observeMember_fst] at hnone
    rw [hnone] at hannounced
    rw [← hannounced] at hpresence
    refine hs.of_quiet (hpresence.trans (List.append_nil _)) ?_ fun _ => hobserved
    rw [hrow, update_online s h]
    split
    next => rfl
    next hne =>
      by_cases hfresh : db.statusObservedAt = none
      · exact ((hbaseline hfresh).resolve_left fun hnone => hsame (hnone.trans hfresh.symm)).symm
      · simp only [announced, if_neg hfresh] at hannounced
        rw [if_pos fun heq => hne heq.symm] at hannounced
        cases hannounced

/-- A poll that stores nothing of the presence. -/
theorem rely_of_unknown {s t : Store} (h : known db.id db.creationTime live = none)
    (hrow : t.row = s.row.update (observeMember package db live).2)
    (hevents : t.events = s.events ++ statusEvents db (serve package db live)
      (observeMember package db live).2) : Rely s t := by
  obtain ⟨honline, htime, -⟩ := observeMember_unknown_frame package s.row h
  rw [statusEvents_unknown h, List.append_nil] at hevents
  rw [← hrow] at honline htime
  refine ⟨fun a ha => ⟨a, htime ▸ ha, le_refl a⟩, fun _ => honline, fun hs => ?_⟩
  exact hs.of_quiet (by rw [hevents]) honline fun hne => htime ▸ hne

/-- The states that `persistObservedMember` leads to. -/
theorem persistObservedMember_cases (db : MemberRow) (member : Served) (data : MemberData)
    (s : Store) :
    persistObservedMember db member data s = s ∨
      (statusEvents db member data = [] ∨ s.row.statusObservedAt = db.statusObservedAt) ∧
        persistObservedMember db member data s
          = ⟨s.row.update data, s.events ++ statusEvents db member data⟩ := by
  unfold persistObservedMember
  dsimp only
  split
  next hnil => exact .inr ⟨.inl hnil, by rw [hnil, List.append_nil]⟩
  next =>
    split
    next hsame => exact .inr ⟨.inr hsame, rfl⟩
    next => exact .inl rfl

/-- **A poll among others.**  Whatever happens between its read and its write. -/
theorem poll_steady (package : AddressPackage) (live : Live) (s : Store) :
    Prog.Steady (pollHandle package) Rely (PollAct.InOrder package) (fun _ _ => True)
      (fun _ _ => True) (poll live) s := by
  refine Prog.Steady.bind (Prog.steady_call fun s₀ _ _ => ⟨trivial, .refl s₀, ?_⟩)
  change Prog.Steady (pollHandle package) Rely (PollAct.InOrder package) (fun _ _ => True)
    (fun _ _ => True) (Prog.call (PollAct.persist s₀.row live)) s₀
  refine Prog.steady_call fun s₁ hrely horder => ⟨trivial, ?_, trivial⟩
  change Rely s₁ (persistObservedMember s₀.row (observeMember package s₀.row live).1
    (observeMember package s₀.row live).2 s₁)
  rcases persistObservedMember_cases s₀.row (observeMember package s₀.row live).1
    (observeMember package s₀.row live).2 s₁ with heq | ⟨hstores, heq⟩
  · rw [heq]
    exact .refl s₁
  · rw [heq, observeMember_fst]
    cases h : known s₀.row.id s₀.row.creationTime live with
    | none => exact rely_of_unknown h rfl rfl
    | some k =>
      obtain ⟨snapshot, source⟩ := k
      obtain ⟨hlater, hbaseline⟩ := horder (snapshot, source) h hstores
      exact rely_of_stored rfl hrely h hlater hbaseline rfl rfl hstores

/-- **Presence under concurrent pollers.**  In a run of polls that overlap in any way, of one member
from any row on, in which every known sample is stored in order, the events alternate, and
`statusObservedAt` never moves backwards. -/
theorem presence_ordered (package : AddressPackage) (row : MemberRow)
    (events₁ events₂ : List (PoolEvent Live))
    {w₁ w₂ : PoolState PollAct PollAct.Ans Empty Unit Store}
    (horder : (pollMachine package).Conforms (PoolState.meets (PollAct.InOrder package))
      (pollStart row) (events₁ ++ events₂))
    (hrun₁ : (pollMachine package).run (pollStart row) events₁ = some w₁)
    (hrun₂ : (pollMachine package).run w₁ events₂ = some w₂) :
    (presence w₁.state.events).IsChain (· ≠ ·) ∧
      NotLater w₁.state.row.statusObservedAt w₂.state.row.statusObservedAt := by
  obtain ⟨hrely₁, hrely₂⟩ := pool_rely (R := Rely) (Q := fun _ _ => True) Rely.refl
    (fun _ _ _ => Rely.trans) (poll_steady package) (by exact nofun) horder hrun₁ hrun₂
  have hstart : (pollStart row).state.Consistent := ⟨.nil, nofun⟩
  exact ⟨(hrely₁.consistent hstart).alternate, hrely₂.later⟩

/-- Two polls read the row before either of them stores its columns; the second finds it changed. -/
theorem presence_ordered_example : ∃ w,
    (pollMachine examplePackage).run (pollStart freshRow) [.start (observedLive 2 true []),
      .start (observedLive 1 true []), .step 0, .step 1, .step 0, .step 1] = some w ∧
    (presence w.state.events).IsChain (· ≠ ·) ∧
    NotLater w.state.row.statusObservedAt w.state.row.statusObservedAt := by
  have hrun : ((pollMachine examplePackage).run (pollStart freshRow)
      [.start (observedLive 2 true []), .start (observedLive 1 true []), .step 0, .step 1,
        .step 0, .step 1]).map (fun w => presence w.state.events) = some [true] := by
    decide +kernel
  obtain ⟨w, hw, -⟩ := Option.map_eq_some_iff.mp hrun
  exact ⟨w, hw, presence_ordered examplePackage freshRow _ [] (by decide +kernel) hw rfl⟩

/-- Three polls of a member that is not announced when it first comes online: the first has read the
row and waits, the second stores a baseline, and the third finds the member offline. -/
def stalePolls : List (PoolEvent Live) := [
  .start (observedLive 1 true []), .step 0,
  .start (observedLive 2 true []), .step 1, .step 1,
  .start (observedLive 3 false []), .step 2, .step 2]

/-- A fourth poll. -/
def laterPoll : List (PoolEvent Live) := [.start (observedLive 4 false []), .step 3, .step 3]

/-- The first poll stores its columns last: the row is online again, at an earlier time, and the
fourth poll announces a second time that the member has gone offline. -/
theorem stale_poll_repeats_offline : ∃ w₁ w₂ w₃,
    (pollMachine examplePackage).run (pollStart { freshRow with notifyOnFirstOnline := false })
      stalePolls = some w₁ ∧
    (pollMachine examplePackage).run w₁ [.step 0] = some w₂ ∧
    (pollMachine examplePackage).run w₂ laterPoll = some w₃ ∧
    ¬ NotLater w₁.state.row.statusObservedAt w₂.state.row.statusObservedAt ∧
    ¬ (presence w₃.state.events).IsChain (· ≠ ·) := by
  have hrun : ((pollMachine examplePackage).run
      (pollStart { freshRow with notifyOnFirstOnline := false }) stalePolls).bind (fun w₁ =>
        ((pollMachine examplePackage).run w₁ [.step 0]).bind fun w₂ =>
          ((pollMachine examplePackage).run w₂ laterPoll).map fun w₃ =>
            (w₁.state.row.statusObservedAt, w₂.state.row.statusObservedAt,
              presence w₃.state.events)) = some (some 3, some 1, [false, false]) := by
    decide +kernel
  obtain ⟨w₁, hw₁, hrun⟩ := Option.bind_eq_some_iff.mp hrun
  obtain ⟨w₂, hw₂, hrun⟩ := Option.bind_eq_some_iff.mp hrun
  obtain ⟨w₃, hw₃, heq⟩ := Option.map_eq_some_iff.mp hrun
  obtain ⟨h₁, h₂, h₃⟩ : _ ∧ _ ∧ _ := by simpa only [Prod.mk.injEq] using heq
  refine ⟨w₁, w₂, w₃, hw₁, hw₂, hw₃, fun hle => ?_, fun hchain => ?_⟩
  · obtain ⟨b, hb, hle⟩ := hle 3 h₁
    rw [h₂] at hb
    obtain rfl := Option.some.inj hb
    exact absurd hle (by decide)
  · rw [h₃] at hchain
    exact absurd hchain (by decide)

end ZtPlanet.Ztnet.Observation
