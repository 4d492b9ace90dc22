/-
# The sync loop of a network

While somebody looks at a network, `SyncManager` reconciles it again and again: a tick runs, and
when it ends it arms the timer of the next one.  The map has an entry for each network with a
viewer; the last `release` clears the entry's timer and removes it.

A tick that is running then is not stopped.  It looks at the map again when it ends, and it cannot
tell the entry that it finds there from the one that it was started for.

Entries are references to objects, because a tick keeps the object that it has looked up.  Section 3
says what each operation does to an entry, to the ticks that are running and to the timers that are
armed; the proofs about runs use these lemmas and never look into an operation again.
-/
import Mathlib.Logic.Function.Basic
import ZtPlanet.Lib.Machine
import ZtPlanet.Ztnet.Backend

namespace ZtPlanet.Ztnet.Sync

open ZtPlanet.Lib

/-! ## 1. The manager -/

abbrev StateId : Type := Nat
abbrev TickId : Type := Nat
abbrev TimerId : Type := Nat
abbrev SocketServer : Type := Nat

/-- `NetworkSyncState`. -/
structure NetworkSyncState where
  refCount : Int
  /-- the user of `ctx` -/
  ctx : UserId
  timer : Option TimerId
  lastHash : String

/-- A call of `tick` that waits for its reconcile, with the object that it has looked up. -/
structure Tick where
  nwid : NetworkId
  state : StateId

/-- `SyncManager`, with the calls of `tick` that are running and the timers that are armed. -/
structure SyncManager where
  io : Option SocketServer
  /-- `this.networks`; an entry is a reference to an object -/
  networks : Dict NetworkId StateId
  /-- the objects -/
  states : StateId → NetworkSyncState
  ticks : Dict TickId Tick
  timers : Dict TimerId NetworkId
  /-- the next object, call or timer -/
  nextId : Nat
  /-- what was emitted, and by which server -/
  emitted : List (Option SocketServer × NetworkId)

/-- The manager as it is constructed. -/
def SyncManager.new : SyncManager where
  io := none
  networks := Dict.empty
  states := fun _ => ⟨0, 0, none, ""⟩
  ticks := Dict.empty
  timers := Dict.empty
  nextId := 0
  emitted := []

/-- Change an object. -/
def SyncManager.modify (m : SyncManager) (id : StateId)
    (f : NetworkSyncState → NetworkSyncState) : SyncManager :=
  { m with states := Function.update m.states id (f (m.states id)) }

/-- `tick`, up to its call of `reconcileNetworkMembersOnce`. -/
def SyncManager.tick (m : SyncManager) (nwid : NetworkId) : SyncManager :=
  match m.networks.get? nwid with
  | none => m
  | some id =>
    { m.modify id fun state => { state with timer := none } with
      ticks := m.ticks.set m.nextId ⟨nwid, id⟩
      nextId := m.nextId + 1 }

/-- The map entry of `acquire` for a network that has none. -/
def SyncManager.register (m : SyncManager) (ctx : UserId) (nwid : NetworkId) : SyncManager :=
  { m with
    networks := m.networks.set nwid m.nextId
    states := Function.update m.states m.nextId ⟨1, ctx, none, ""⟩
    nextId := m.nextId + 1 }

/-- `acquire`. -/
def SyncManager.acquire (m : SyncManager) (io : SocketServer) (ctx : UserId) (nwid : NetworkId) :
    SyncManager :=
  let m := { m with io := some io }
  match m.networks.get? nwid with
  | some id => m.modify id fun state => { state with refCount := state.refCount + 1, ctx := ctx }
  | none => (m.register ctx nwid).tick nwid

/-- `state.refCount -= 1`. -/
def SyncManager.lower (m : SyncManager) (id : StateId) : SyncManager :=
  m.modify id fun state => { state with refCount := state.refCount - 1 }

/-- `clearTimeout` and `delete`, for the last viewer. -/
def SyncManager.drop (m : SyncManager) (nwid : NetworkId) (id : StateId) : SyncManager :=
  { m with
    timers :=
      match (m.states id).timer with
      | some timer => m.timers.erase timer
      | none => m.timers
    networks := m.networks.erase nwid }

/-- `release`. -/
def SyncManager.release (m : SyncManager) (nwid : NetworkId) : SyncManager :=
  match m.networks.get? nwid with
  | none => m
  | some id =>
    let m := m.lower id
    if (m.states id).refCount ≤ 0 then m.drop nwid id else m

/-- What `tick` does with the members: `hash` is `hashMembers` of them, and `none` where the
reconcile failed. -/
def SyncManager.publish (m : SyncManager) (t : Tick) (hash : Option String) : SyncManager :=
  match hash with
  | none => m
  | some hash =>
    if hash ≠ (m.states t.state).lastHash then
      { m.modify t.state fun state => { state with lastHash := hash } with
        emitted := m.emitted ++ [(m.io, t.nwid)] }
    else m

/-- The `finally` block of `tick`. -/
def SyncManager.reschedule (m : SyncManager) (nwid : NetworkId) : SyncManager :=
  match m.networks.get? nwid with
  | none => m
  | some id =>
    if 0 < (m.states id).refCount then
      { m.modify id fun state => { state with timer := some m.nextId } with
        timers := m.timers.set m.nextId nwid
        nextId := m.nextId + 1 }
    else m

/-- `refCount`. -/
def SyncManager.refCount (m : SyncManager) (nwid : NetworkId) : Int :=
  match m.networks.get? nwid with
  | none => 0
  | some id => (m.states id).refCount

/-- `isSyncing`. -/
def SyncManager.isSyncing (m : SyncManager) (nwid : NetworkId) : Bool := m.networks.contains nwid

/-! ## 2. Its runs -/

/-- What can happen next. -/
inductive Event where
  | acquire (io : SocketServer) (ctx : UserId) (nwid : NetworkId)
  | release (nwid : NetworkId)
  /-- the reconcile of a tick is settled -/
  | finish (id : TickId) (hash : Option String)
  /-- a timer elapses -/
  | fire (timer : TimerId)
deriving DecidableEq

/-- A tick has ended and is not listed any more. -/
def SyncManager.endTick (m : SyncManager) (id : TickId) : SyncManager :=
  { m with ticks := m.ticks.erase id }

/-- A timer has elapsed and is not armed any more. -/
def SyncManager.disarm (m : SyncManager) (timer : TimerId) : SyncManager :=
  { m with timers := m.timers.erase timer }

/-- The manager as a machine. -/
def machine : Machine SyncManager Event where
  step m
    | .acquire io ctx nwid => some (m.acquire io ctx nwid)
    | .release nwid => some (m.release nwid)
    | .finish id hash =>
      (m.ticks.get? id).map fun t =>
        ((m.endTick id).publish t hash).reschedule t.nwid
    | .fire timer =>
      (m.timers.get? timer).map fun nwid =>
        (m.disarm timer).tick nwid

/-- The ticks of a network that are running. -/
def SyncManager.running (m : SyncManager) (nwid : NetworkId) : Nat :=
  m.ticks.total fun t => if t.nwid = nwid then 1 else 0

/-- The ticks of a network that are scheduled. -/
def SyncManager.armed (m : SyncManager) (nwid : NetworkId) : Nat :=
  m.timers.total fun n => if n = nwid then 1 else 0

/-! ## 3. What an operation does -/

/-- The entry of a network: the number of its viewers, and its timer. -/
def SyncManager.entry (m : SyncManager) (nwid : NetworkId) : Option (Int × Option TimerId) :=
  (m.networks.get? nwid).map fun id => ((m.states id).refCount, (m.states id).timer)

/-- Ids are not used twice, entries do not share objects, every entry has a viewer, and its timer is
armed for its network. -/
structure Sound (m : SyncManager) : Prop where
  tick_lt : ∀ id t, m.ticks.get? id = some t → id < m.nextId
  timer_lt : ∀ timer nwid, m.timers.get? timer = some nwid → timer < m.nextId
  state_lt : ∀ nwid id, m.networks.get? nwid = some id → id < m.nextId
  state_inj : ∀ a b id, m.networks.get? a = some id → m.networks.get? b = some id → a = b
  counted : ∀ nwid n timer, m.entry nwid = some (n, timer) → 0 < n
  timer_own : ∀ nwid n timer, m.entry nwid = some (n, some timer) → m.timers.get? timer = some nwid

variable {m : SyncManager} {nwid b : NetworkId} {id : StateId}

theorem sound_new : Sound SyncManager.new where
  tick_lt _ _ h := nomatch h
  timer_lt _ _ h := nomatch h
  state_lt _ _ h := nomatch h
  state_inj _ _ _ h := nomatch h
  counted _ _ _ h := nomatch h
  timer_own _ _ _ h := nomatch h

theorem entry_of_get? (hid : m.networks.get? nwid = some id) :
    m.entry nwid = some ((m.states id).refCount, (m.states id).timer) := by
  simp [SyncManager.entry, hid]

theorem entry_eq_none_iff : m.entry nwid = none ↔ m.networks.get? nwid = none := by
  simp [SyncManager.entry]

theorem refCount_eq : m.refCount nwid = ((m.entry nwid).map Prod.fst).getD 0 := by
  unfold SyncManager.refCount SyncManager.entry
  cases m.networks.get? nwid <;> rfl

/-- Changing the object of an entry changes this entry only. -/
theorem entry_modify (h : Sound m) (hid : m.networks.get? nwid = some id)
    (f : NetworkSyncState → NetworkSyncState) (b : NetworkId) :
    (m.modify id f).entry b =
      if nwid = b then some ((f (m.states id)).refCount, (f (m.states id)).timer)
      else m.entry b := by
  unfold SyncManager.entry SyncManager.modify
  by_cases hb : nwid = b
  · subst hb
    simp [hid]
  · simp only [if_neg hb]
    cases hget : m.networks.get? b with
    | none => rfl
    | some id' =>
      have hne : id' ≠ id := by
        rintro rfl
        exact hb (h.state_inj _ _ _ hid hget)
      simp [Function.update_of_ne hne]

/-- Changing what the proofs do not look at. -/
theorem entry_modify_of_eq {f : NetworkSyncState → NetworkSyncState}
    (hcount : (f (m.states id)).refCount = (m.states id).refCount)
    (htimer : (f (m.states id)).timer = (m.states id).timer) (b : NetworkId) :
    (m.modify id f).entry b = m.entry b := by
  unfold SyncManager.entry SyncManager.modify
  congr 1
  funext id'
  by_cases heq : id' = id
  · subst heq
    simp [hcount, htimer]
  · simp [Function.update_of_ne heq]

theorem Sound.tick_fresh (h : Sound m) : m.ticks.get? m.nextId = none := by
  cases hget : m.ticks.get? m.nextId with
  | none => rfl
  | some t => exact absurd (h.tick_lt _ _ hget) (Nat.lt_irrefl _)

theorem Sound.timer_fresh (h : Sound m) : m.timers.get? m.nextId = none := by
  cases hget : m.timers.get? m.nextId with
  | none => rfl
  | some n => exact absurd (h.timer_lt _ _ hget) (Nat.lt_irrefl _)

/-! ### `tick` -/

theorem entry_tick (h : Sound m) (nwid b : NetworkId) :
    (m.tick nwid).entry b =
      if nwid = b then (m.entry b).map fun e => (e.1, none) else m.entry b := by
  unfold SyncManager.tick
  cases hid : m.networks.get? nwid with
  | none =>
    have hnone := entry_eq_none_iff.mpr hid
    by_cases hb : nwid = b
    · subst hb
      simp [hnone]
    · simp [hb]
  | some id =>
    refine (entry_modify h hid (fun state => { state with timer := none }) b).trans ?_
    by_cases hb : nwid = b
    · subst hb
      simp [entry_of_get? hid]
    · simp [hb]

theorem running_tick (h : Sound m) (nwid b : NetworkId) :
    (m.tick nwid).running b =
      m.running b + if nwid = b ∧ (m.entry nwid).isSome then 1 else 0 := by
  unfold SyncManager.tick
  cases hid : m.networks.get? nwid with
  | none => simp [entry_eq_none_iff.mpr hid]
  | some id =>
    have htotal := Dict.total_set m.ticks (fun t => if t.nwid = b then 1 else 0) m.nextId ⟨nwid, id⟩
    simp only [h.tick_fresh, Option.map_none, Option.getD_none] at htotal
    simpa [SyncManager.running, entry_of_get? hid] using htotal

theorem timers_tick (m : SyncManager) (nwid : NetworkId) : (m.tick nwid).timers = m.timers := by
  unfold SyncManager.tick
  split <;> rfl

theorem armed_tick (m : SyncManager) (nwid b : NetworkId) : (m.tick nwid).armed b = m.armed b := by
  unfold SyncManager.armed
  rw [timers_tick]

/-- `tick` keeps what `Sound` asks for, where the timer of the entry may be gone already. -/
theorem Sound.tick (h : Sound m) (nwid : NetworkId) : Sound (m.tick nwid) := by
  have hentry := entry_tick h nwid
  have hnetworks : (m.tick nwid).networks = m.networks := by
    unfold SyncManager.tick
    split <;> rfl
  have hnext : m.nextId ≤ (m.tick nwid).nextId := by
    unfold SyncManager.tick
    split <;> simp
  refine ⟨fun id t hget => ?_, fun timer n hget => ?_, fun n id hget => ?_, ?_, ?_, ?_⟩
  · unfold SyncManager.tick at hget ⊢
    split at hget
    · exact h.tick_lt id t hget
    · rw [Dict.get?_set] at hget
      split at hget
      · next hid => exact hid ▸ Nat.lt_succ_self _
      · exact Nat.lt_succ_of_lt (h.tick_lt id t hget)
  · rw [timers_tick] at hget
    exact Nat.lt_of_lt_of_le (h.timer_lt timer n hget) hnext
  · rw [hnetworks] at hget
    exact Nat.lt_of_lt_of_le (h.state_lt n id hget) hnext
  · rw [hnetworks]
    exact h.state_inj
  · intro n count timer hget
    rw [hentry] at hget
    split at hget
    · obtain ⟨e, he, heq⟩ := Option.map_eq_some_iff.mp hget
      cases heq
      exact h.counted n e.1 e.2 he
    · exact h.counted n count timer hget
  · intro n count timer hget
    rw [timers_tick]
    rw [hentry] at hget
    split at hget
    · obtain ⟨e, -, heq⟩ := Option.map_eq_some_iff.mp hget
      cases heq
    · exact h.timer_own n count timer hget

/-! ### `acquire` -/

theorem Sound.modify (h : Sound m) (hid : m.networks.get? nwid = some id)
    {f : NetworkSyncState → NetworkSyncState} (hcount : 0 < (f (m.states id)).refCount)
    (htimer : ∀ timer, (f (m.states id)).timer = some timer → m.timers.get? timer = some nwid) :
    Sound (m.modify id f) := by
  have hentry := entry_modify h hid f
  refine ⟨h.tick_lt, h.timer_lt, h.state_lt, h.state_inj, ?_, ?_⟩
  · intro n count timer hget
    rw [hentry] at hget
    split at hget
    · cases hget
      exact hcount
    · exact h.counted n count timer hget
  · intro n count timer hget
    rw [hentry] at hget
    split at hget
    · next hn =>
      obtain ⟨-, htm⟩ := Prod.mk.inj (Option.some.inj hget)
      exact hn ▸ htimer timer htm
    · exact h.timer_own n count timer hget

theorem entry_register (h : Sound m) (ctx : UserId) (nwid b : NetworkId) :
    (m.register ctx nwid).entry b = if nwid = b then some (1, none) else m.entry b := by
  unfold SyncManager.entry SyncManager.register
  by_cases hb : nwid = b
  · subst hb
    simp
  · simp only [Dict.get?_set, if_neg hb]
    cases hget : m.networks.get? b with
    | none => rfl
    | some id =>
      have hne : id ≠ m.nextId := Nat.ne_of_lt (h.state_lt b id hget)
      simp [Function.update_of_ne hne]

theorem Sound.register (h : Sound m) (ctx : UserId) (nwid : NetworkId) :
    Sound (m.register ctx nwid) := by
  have hentry := entry_register h ctx nwid
  refine ⟨fun id t hget => Nat.lt_succ_of_lt (h.tick_lt id t hget),
    fun timer n hget => Nat.lt_succ_of_lt (h.timer_lt timer n hget), ?_, ?_, ?_, ?_⟩
  · intro n id hget
    change (m.networks.set nwid m.nextId).get? n = some id at hget
    rw [Dict.get?_set] at hget
    split at hget
    · cases hget
      exact Nat.lt_succ_self _
    · exact Nat.lt_succ_of_lt (h.state_lt n id hget)
  · intro a b id ha hb
    change (m.networks.set nwid m.nextId).get? a = some id at ha
    change (m.networks.set nwid m.nextId).get? b = some id at hb
    rw [Dict.get?_set] at ha hb
    split at ha <;> split at hb
    · next hna hnb => exact hna.symm.trans hnb
    · cases ha
      exact absurd (h.state_lt b _ hb) (Nat.lt_irrefl _)
    · cases hb
      exact absurd (h.state_lt a _ ha) (Nat.lt_irrefl _)
    · exact h.state_inj a b id ha hb
  · intro n count timer hget
    rw [hentry] at hget
    split at hget
    · cases hget
      exact Int.one_pos
    · exact h.counted n count timer hget
  · intro n count timer hget
    rw [hentry] at hget
    split at hget
    · cases hget
    · exact h.timer_own n count timer hget

theorem Sound.acquire (h : Sound m) (io : SocketServer) (ctx : UserId) (nwid : NetworkId) :
    Sound (m.acquire io ctx nwid) := by
  have hio : Sound { m with io := some io } :=
    ⟨h.tick_lt, h.timer_lt, h.state_lt, h.state_inj, h.counted, h.timer_own⟩
  unfold SyncManager.acquire
  cases hid : m.networks.get? nwid with
  | none => simpa [hid] using (hio.register ctx nwid).tick nwid
  | some id =>
    have hcount := h.counted nwid _ _ (entry_of_get? hid)
    simp only [hid]
    refine hio.modify hid (by dsimp only; omega) fun timer htimer => ?_
    exact h.timer_own nwid (m.states id).refCount timer ((entry_of_get? hid).trans (by
      rw [show (m.states id).timer = some timer from htimer]))

/-- An entry is counted up, or made. -/
theorem entry_acquire (h : Sound m) (io : SocketServer) (ctx : UserId) (nwid b : NetworkId) :
    (m.acquire io ctx nwid).entry b =
      if nwid = b then some (((m.entry b).map fun e => (e.1 + 1, e.2)).getD (1, none))
      else m.entry b := by
  have hio : Sound { m with io := some io } :=
    ⟨h.tick_lt, h.timer_lt, h.state_lt, h.state_inj, h.counted, h.timer_own⟩
  unfold SyncManager.acquire
  cases hid : m.networks.get? nwid with
  | none =>
    have hnone := entry_eq_none_iff.mpr hid
    simp only [hid]
    rw [entry_tick (hio.register ctx nwid), entry_register hio]
    by_cases hb : nwid = b
    · subst hb
      simp [hnone]
    · simp only [if_neg hb]
      rfl
  | some id =>
    simp only [hid]
    rw [entry_modify hio hid]
    by_cases hb : nwid = b
    · subst hb
      simp [entry_of_get? hid]
    · simp only [if_neg hb]
      rfl

theorem running_acquire (h : Sound m) (io : SocketServer) (ctx : UserId) (nwid b : NetworkId) :
    (m.acquire io ctx nwid).running b =
      m.running b + if nwid = b ∧ m.entry nwid = none then 1 else 0 := by
  have hio : Sound { m with io := some io } :=
    ⟨h.tick_lt, h.timer_lt, h.state_lt, h.state_inj, h.counted, h.timer_own⟩
  unfold SyncManager.acquire
  cases hid : m.networks.get? nwid with
  | none =>
    simp only [hid]
    rw [running_tick (hio.register ctx nwid), entry_register hio]
    simp [entry_eq_none_iff.mpr hid]
    rfl
  | some id =>
    simp only [hid, entry_of_get? hid]
    simp
    rfl

theorem armed_acquire (m : SyncManager) (io : SocketServer) (ctx : UserId) (nwid b : NetworkId) :
    (m.acquire io ctx nwid).armed b = m.armed b := by
  unfold SyncManager.acquire
  cases hid : m.networks.get? nwid with
  | none =>
    simp only [hid]
    exact armed_tick _ nwid b
  | some id =>
    simp only [hid]
    rfl

/-! ### `release` -/

theorem release_of_none (hid : m.networks.get? nwid = none) : m.release nwid = m := by
  simp [SyncManager.release, hid]

/-- `release` lowers the count, and drops the entry with its last viewer. -/
theorem release_of_some (hid : m.networks.get? nwid = some id) :
    m.release nwid =
      if (m.states id).refCount ≤ 1 then (m.lower id).drop nwid id else m.lower id := by
  have hcount : ((m.lower id).states id).refCount ≤ 0 ↔ (m.states id).refCount ≤ 1 := by
    simp only [SyncManager.lower, SyncManager.modify, Function.update_self]
    omega
  unfold SyncManager.release
  simp only [hid]
  by_cases hlast : (m.states id).refCount ≤ 1
  · rw [if_pos hlast, if_pos (hcount.mpr hlast)]
  · rw [if_neg hlast, if_neg (mt hcount.mp hlast)]

theorem entry_drop (m : SyncManager) (nwid : NetworkId) (id : StateId) (b : NetworkId) :
    (m.drop nwid id).entry b = if nwid = b then none else m.entry b := by
  unfold SyncManager.entry SyncManager.drop
  by_cases hb : nwid = b
  · simp [Dict.get?_erase, hb]
  · simp [Dict.get?_erase, hb]

theorem entry_release (h : Sound m) (nwid b : NetworkId) :
    (m.release nwid).entry b =
      if nwid = b then (m.entry b).bind fun e => if e.1 ≤ 1 then none else some (e.1 - 1, e.2)
      else m.entry b := by
  cases hid : m.networks.get? nwid with
  | none =>
    rw [release_of_none hid]
    by_cases hb : nwid = b
    · subst hb
      simp [entry_eq_none_iff.mpr hid]
    · simp [hb]
  | some id =>
    have hlower : ∀ b, (m.lower id).entry b =
        if nwid = b then some ((m.states id).refCount - 1, (m.states id).timer) else m.entry b :=
      entry_modify h hid _
    rw [release_of_some hid]
    by_cases hb : nwid = b
    · subst hb
      by_cases hlast : (m.states id).refCount ≤ 1
      · simp [hlast, entry_drop, entry_of_get? hid]
      · simp [hlast, hlower, entry_of_get? hid]
    · split
      · simp [entry_drop, hlower, hb]
      · simp [hlower, hb]

theorem running_release (m : SyncManager) (nwid b : NetworkId) :
    (m.release nwid).running b = m.running b := by
  cases hid : m.networks.get? nwid with
  | none => rw [release_of_none hid]
  | some id =>
    rw [release_of_some hid]
    split <;> rfl

/-- What `drop` does to the timers. -/
theorem timers_drop (m : SyncManager) (nwid : NetworkId) (id : StateId) (timer : TimerId) :
    (m.drop nwid id).timers.get? timer =
      if (m.states id).timer = some timer then none else m.timers.get? timer := by
  unfold SyncManager.drop
  cases htimer : (m.states id).timer with
  | none => simp
  | some timer' => simp [Dict.get?_erase]

/-- The timer of an entry is armed for its network, so clearing it disarms no other. -/
theorem armed_release (h : Sound m) (nwid b : NetworkId) :
    (m.release nwid).armed b +
        (if nwid = b ∧ ((m.entry nwid).any fun e => e.1 ≤ 1 && e.2.isSome) = true then 1 else 0) =
      m.armed b := by
  cases hid : m.networks.get? nwid with
  | none => simp [release_of_none hid, entry_eq_none_iff.mpr hid]
  | some id =>
    have hentry := entry_of_get? hid
    rw [release_of_some hid, hentry]
    by_cases hlast : (m.states id).refCount ≤ 1
    · have htimer : ((m.lower id).states id).timer = (m.states id).timer := by
        simp [SyncManager.lower, SyncManager.modify]
      cases hown : (m.states id).timer with
      | none =>
        simp [hlast, SyncManager.armed, SyncManager.drop, hown, SyncManager.lower,
          SyncManager.modify]
      | some timer =>
        have harmed := h.timer_own nwid _ timer (hown ▸ hentry)
        have htotal := Dict.total_erase m.timers (fun n => if n = b then 1 else 0) timer
        rw [harmed] at htotal
        simpa [hlast, SyncManager.armed, SyncManager.drop, htimer, hown, SyncManager.lower,
          SyncManager.modify] using htotal
    · simp [hlast]
      rfl

theorem Sound.release (h : Sound m) (nwid : NetworkId) : Sound (m.release nwid) := by
  have hentry := entry_release h nwid
  cases hid : m.networks.get? nwid with
  | none => exact (release_of_none hid).symm ▸ h
  | some id =>
    have hcounted : ∀ n count timer, (m.release nwid).entry n = some (count, timer) →
      0 < count := by
      intro n count timer hget
      rw [hentry] at hget
      split at hget
      · obtain ⟨e, he, heq⟩ := Option.bind_eq_some_iff.mp hget
        split at heq
        · cases heq
        · cases heq
          omega
      · exact h.counted n count timer hget
    have hkept : ∀ n count timer, (m.release nwid).entry n = some (count, some timer) →
        m.timers.get? timer = some n := by
      intro n count timer hget
      rw [hentry] at hget
      split at hget
      · obtain ⟨e, he, heq⟩ := Option.bind_eq_some_iff.mp hget
        split at heq
        · cases heq
        · obtain ⟨-, htm⟩ := Prod.mk.inj (Option.some.inj heq)
          exact h.timer_own n e.1 timer (he.trans (by rw [← htm]))
      · exact h.timer_own n count timer hget
    rw [release_of_some hid] at hcounted hkept ⊢
    by_cases hlast : (m.states id).refCount ≤ 1
    · rw [if_pos hlast] at hcounted hkept ⊢
      have htimer : ((m.lower id).states id).timer = (m.states id).timer := by
        simp [SyncManager.lower, SyncManager.modify]
      refine ⟨h.tick_lt, ?_, ?_, ?_, hcounted, ?_⟩
      · intro timer n hget
        rw [timers_drop] at hget
        split at hget
        · cases hget
        · exact h.timer_lt timer n hget
      · intro n id' hget
        change (m.networks.erase nwid).get? n = some id' at hget
        rw [Dict.get?_erase] at hget
        split at hget
        · cases hget
        · exact h.state_lt n id' hget
      · intro a c id' ha hc
        change (m.networks.erase nwid).get? a = some id' at ha
        change (m.networks.erase nwid).get? c = some id' at hc
        rw [Dict.get?_erase] at ha hc
        split at ha
        · cases ha
        · split at hc
          · cases hc
          · exact h.state_inj a c id' ha hc
      · intro n count timer hget
        have harmed := hkept n count timer hget
        rw [timers_drop, htimer]
        -- The cleared timer is armed for `nwid`, which has no entry any more.
        split
        · next hown =>
          have hsame := h.timer_own nwid _ timer (hown ▸ entry_of_get? hid)
          rw [harmed, Option.some.injEq] at hsame
          rw [entry_drop, if_pos hsame.symm] at hget
          cases hget
        · exact harmed
    · rw [if_neg hlast] at hcounted hkept ⊢
      exact ⟨h.tick_lt, h.timer_lt, h.state_lt, h.state_inj, hcounted, hkept⟩

/-! ### The end of a tick -/

theorem Sound.endTick (h : Sound m) (id : TickId) : Sound (m.endTick id) := by
  refine ⟨fun id' t hget => ?_, h.timer_lt, h.state_lt, h.state_inj, h.counted, h.timer_own⟩
  change (m.ticks.erase id).get? id' = some t at hget
  rw [Dict.get?_erase] at hget
  split at hget
  · cases hget
  · exact h.tick_lt id' t hget

theorem running_endTick {t : Tick} {id : TickId} (ht : m.ticks.get? id = some t)
    (b : NetworkId) :
    (m.endTick id).running b + (if t.nwid = b then 1 else 0) = m.running b := by
  have htotal := Dict.total_erase m.ticks (fun t => if t.nwid = b then 1 else 0) id
  rw [ht] at htotal
  exact htotal

theorem publish_eq (m : SyncManager) (t : Tick) (hash : Option String) :
    (m.publish t hash).entry = m.entry ∧ (m.publish t hash).ticks = m.ticks ∧
      (m.publish t hash).timers = m.timers ∧ (m.publish t hash).networks = m.networks ∧
      (m.publish t hash).nextId = m.nextId := by
  unfold SyncManager.publish
  split
  · exact ⟨rfl, rfl, rfl, rfl, rfl⟩
  · next hash =>
    split
    · refine ⟨funext fun b => ?_, rfl, rfl, rfl, rfl⟩
      exact entry_modify_of_eq (f := fun state => { state with lastHash := hash }) rfl rfl b
    · exact ⟨rfl, rfl, rfl, rfl, rfl⟩

theorem Sound.publish (h : Sound m) (t : Tick) (hash : Option String) :
    Sound (m.publish t hash) := by
  obtain ⟨hentry, hticks, htimers, hnetworks, hnext⟩ := publish_eq m t hash
  refine ⟨?_, ?_, ?_, ?_, ?_, ?_⟩
  · rw [hticks, hnext]
    exact h.tick_lt
  · rw [htimers, hnext]
    exact h.timer_lt
  · rw [hnetworks, hnext]
    exact h.state_lt
  · rw [hnetworks]
    exact h.state_inj
  · rw [hentry]
    exact h.counted
  · rw [hentry, htimers]
    exact h.timer_own

theorem reschedule_of_none (hid : m.networks.get? nwid = none) : m.reschedule nwid = m := by
  simp [SyncManager.reschedule, hid]

/-- An entry has a viewer, so `finally` always arms its timer. -/
theorem reschedule_of_some (h : Sound m) (hid : m.networks.get? nwid = some id) :
    m.reschedule nwid =
      { m.modify id fun state => { state with timer := some m.nextId } with
        timers := m.timers.set m.nextId nwid
        nextId := m.nextId + 1 } := by
  unfold SyncManager.reschedule
  simp [hid, h.counted nwid _ _ (entry_of_get? hid)]

theorem entry_reschedule (h : Sound m) (nwid b : NetworkId) :
    (m.reschedule nwid).entry b =
      if nwid = b then (m.entry b).map fun e => (e.1, some m.nextId) else m.entry b := by
  cases hid : m.networks.get? nwid with
  | none =>
    rw [reschedule_of_none hid]
    by_cases hb : nwid = b
    · subst hb
      simp [entry_eq_none_iff.mpr hid]
    · simp [hb]
  | some id =>
    rw [reschedule_of_some h hid]
    refine (entry_modify h hid (fun state => { state with timer := some m.nextId }) b).trans ?_
    by_cases hb : nwid = b
    · subst hb
      simp [entry_of_get? hid]
    · simp [hb]

theorem running_reschedule (h : Sound m) (nwid b : NetworkId) :
    (m.reschedule nwid).running b = m.running b := by
  cases hid : m.networks.get? nwid with
  | none => rw [reschedule_of_none hid]
  | some id =>
    rw [reschedule_of_some h hid]
    rfl

theorem armed_reschedule (h : Sound m) (nwid b : NetworkId) :
    (m.reschedule nwid).armed b =
      m.armed b + if nwid = b ∧ (m.entry nwid).isSome then 1 else 0 := by
  cases hid : m.networks.get? nwid with
  | none => simp [reschedule_of_none hid, entry_eq_none_iff.mpr hid]
  | some id =>
    have htotal := Dict.total_set m.timers (fun n => if n = b then 1 else 0) m.nextId nwid
    simp only [h.timer_fresh, Option.map_none, Option.getD_none] at htotal
    simpa [reschedule_of_some h hid, SyncManager.armed, entry_of_get? hid] using htotal

theorem Sound.reschedule (h : Sound m) (nwid : NetworkId) : Sound (m.reschedule nwid) := by
  have hentry := entry_reschedule h nwid
  cases hid : m.networks.get? nwid with
  | none => exact (reschedule_of_none hid).symm ▸ h
  | some id =>
    have hcounted : ∀ n count timer, (m.reschedule nwid).entry n = some (count, timer) →
        0 < count := by
      intro n count timer hget
      rw [hentry] at hget
      split at hget
      · obtain ⟨e, he, heq⟩ := Option.map_eq_some_iff.mp hget
        cases heq
        exact h.counted n e.1 e.2 he
      · exact h.counted n count timer hget
    have howned : ∀ n count timer, (m.reschedule nwid).entry n = some (count, some timer) →
        (m.timers.set m.nextId nwid).get? timer = some n := by
      intro n count timer hget
      rw [hentry] at hget
      rw [Dict.get?_set]
      split at hget
      · next hn =>
        obtain ⟨e, -, heq⟩ := Option.map_eq_some_iff.mp hget
        cases heq
        rw [if_pos rfl, hn]
      · have harmed := h.timer_own n count timer hget
        have hne : m.nextId ≠ timer := (Nat.ne_of_lt (h.timer_lt timer n harmed)).symm
        rw [if_neg hne, harmed]
    rw [reschedule_of_some h hid] at hcounted howned ⊢
    refine ⟨fun id t hget => Nat.lt_succ_of_lt (h.tick_lt id t hget), ?_,
      fun n id hget => Nat.lt_succ_of_lt (h.state_lt n id hget), h.state_inj, hcounted, howned⟩
    intro timer n hget
    change (m.timers.set m.nextId nwid).get? timer = some n at hget
    rw [Dict.get?_set] at hget
    split at hget
    · next heq => exact heq ▸ Nat.lt_succ_self _
    · exact Nat.lt_succ_of_lt (h.timer_lt timer n hget)

/-! ### A timer that elapses -/

/-- `tick` does not look at the timers that are armed. -/
theorem tick_disarm (m : SyncManager) (timer : TimerId) (nwid : NetworkId) :
    (m.disarm timer).tick nwid = (m.tick nwid).disarm timer := by
  unfold SyncManager.tick SyncManager.disarm
  cases m.networks.get? nwid <;> rfl

theorem armed_disarm {timer : TimerId} (ht : m.timers.get? timer = some nwid) (b : NetworkId) :
    (m.disarm timer).armed b + (if nwid = b then 1 else 0) = m.armed b := by
  have htotal := Dict.total_erase m.timers (fun n => if n = b then 1 else 0) timer
  rw [ht] at htotal
  exact htotal

theorem Sound.fire (h : Sound m) {timer : TimerId} (ht : m.timers.get? timer = some nwid) :
    Sound ((m.disarm timer).tick nwid) := by
  have hticked := h.tick nwid
  rw [tick_disarm]
  refine ⟨hticked.tick_lt, fun timer' n hget => ?_, hticked.state_lt, hticked.state_inj,
    hticked.counted, fun n count timer' hget => ?_⟩
  · change ((m.tick nwid).timers.erase timer).get? timer' = some n at hget
    rw [Dict.get?_erase] at hget
    split at hget
    · cases hget
    · exact hticked.timer_lt timer' n hget
  · change ((m.tick nwid).timers.erase timer).get? timer' = some n
    change (m.tick nwid).entry n = some (count, some timer') at hget
    have harmed := hticked.timer_own n count timer' hget
    rw [Dict.get?_erase]
    -- The entry of the network has no timer any more, and the timers of the others are others.
    split
    · next heq =>
      subst heq
      rw [timers_tick, ht, Option.some.injEq] at harmed
      rw [entry_tick h, if_pos harmed] at hget
      obtain ⟨e, -, heq⟩ := Option.map_eq_some_iff.mp hget
      cases heq
    · exact harmed

/-! ## 4. Steps -/

theorem sound_step {m' : SyncManager} {event : Event} (h : Sound m)
    (hstep : machine.step m event = some m') : Sound m' := by
  cases event with
  | acquire io ctx nwid =>
    cases hstep
    exact h.acquire io ctx nwid
  | release nwid =>
    cases hstep
    exact h.release nwid
  | finish id hash =>
    obtain ⟨t, -, rfl⟩ := Option.map_eq_some_iff.mp hstep
    exact ((h.endTick id).publish t hash).reschedule t.nwid
  | fire timer =>
    obtain ⟨nwid, ht, rfl⟩ := Option.map_eq_some_iff.mp hstep
    exact h.fire ht

/-! ### The number of viewers -/

/-- Every entry has a viewer. -/
theorem Sound.entry_of_refCount (h : Sound m) (nwid : NetworkId) :
    m.entry nwid = none ∧ m.refCount nwid = 0 ∨
      ∃ e, m.entry nwid = some e ∧ m.refCount nwid = e.1 ∧ 0 < e.1 := by
  rw [refCount_eq]
  cases hentry : m.entry nwid with
  | none => exact .inl ⟨rfl, rfl⟩
  | some e => exact .inr ⟨e, rfl, rfl, h.counted nwid e.1 e.2 hentry⟩

theorem refCount_acquire (h : Sound m) (io : SocketServer) (ctx : UserId) (nwid b : NetworkId) :
    (m.acquire io ctx nwid).refCount b = m.refCount b + if nwid = b then 1 else 0 := by
  rw [refCount_eq, refCount_eq, entry_acquire h]
  by_cases hb : nwid = b
  · cases m.entry b <;> simp [hb]
  · simp [hb]

theorem refCount_release (h : Sound m) (hpos : 0 < m.refCount nwid) (b : NetworkId) :
    (m.release nwid).refCount b = m.refCount b - if nwid = b then 1 else 0 := by
  rw [refCount_eq, entry_release h]
  by_cases hb : nwid = b
  · subst hb
    rcases h.entry_of_refCount nwid with ⟨-, hzero⟩ | ⟨e, he, hcount, -⟩
    · omega
    · by_cases hlast : e.1 ≤ 1 <;> simp [he, hlast, hcount]
      omega
  · simp [hb, refCount_eq]

theorem refCount_finish {m' : SyncManager} {id : TickId} {hash : Option String} (h : Sound m)
    (hstep : machine.step m (.finish id hash) = some m') (b : NetworkId) :
    m'.refCount b = m.refCount b := by
  obtain ⟨t, -, rfl⟩ := Option.map_eq_some_iff.mp hstep
  have hpublished := (h.endTick id).publish t hash
  rw [refCount_eq, refCount_eq, entry_reschedule hpublished, (publish_eq (m.endTick id) t hash).1]
  change Option.getD (Option.map Prod.fst (if t.nwid = b then (m.entry b).map _ else m.entry b)) 0 =
    _
  by_cases hb : t.nwid = b
  · cases m.entry b <;> simp [hb]
  · simp [hb]

theorem refCount_fire {m' : SyncManager} {timer : TimerId} (h : Sound m)
    (hstep : machine.step m (.fire timer) = some m') (b : NetworkId) :
    m'.refCount b = m.refCount b := by
  obtain ⟨nwid, -, rfl⟩ := Option.map_eq_some_iff.mp hstep
  rw [tick_disarm, refCount_eq, refCount_eq]
  change Option.getD (Option.map Prod.fst ((m.tick nwid).entry b)) 0 = _
  rw [entry_tick h]
  by_cases hb : nwid = b
  · cases m.entry b <;> simp [hb]
  · simp [hb]

end ZtPlanet.Ztnet.Sync
