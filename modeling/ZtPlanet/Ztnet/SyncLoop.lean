/-
# At most one loop for each network

A tick that is running when its network is released goes on, and arms a timer at its end where it
finds an entry then.  So a network that is released and acquired during a tick has two loops from
then on, and as an entry has room for one timer only, the other one stays armed behind the last
viewer.  `one_loop_iff` says that this is the only way in which the loops go wrong.
-/
import ZtPlanet.Ztnet.SyncManager

namespace ZtPlanet.Ztnet.Sync

open ZtPlanet.Lib

/-! ## 1. The loops -/

/-- **At most one loop for each network**, and none that is left armed behind the last viewer. -/
def SyncManager.OneLoop (m : SyncManager) : Prop :=
  ∀ nwid, m.running nwid + m.armed nwid ≤ 1 ∧
    (m.refCount nwid = 0 → m.running nwid = 0 → m.armed nwid = 0)

/-- A network that has no entry is not acquired while one of its ticks is running. -/
def SyncManager.awaits (m : SyncManager) : Event → Prop
  | .acquire _ _ nwid => m.isSyncing nwid = false → m.running nwid = 0
  | _ => True

instance (m : SyncManager) (event : Event) : Decidable (m.awaits event) :=
  match event with
  | .acquire _ _ nwid => inferInstanceAs (Decidable (m.isSyncing nwid = false → m.running nwid = 0))
  | .release _ => isTrue trivial
  | .finish _ _ => isTrue trivial
  | .fire _ => isTrue trivial

variable {m : SyncManager} {nwid : NetworkId}

/-- The loop of a network: an entry waits for its tick or for its timer, and where there is no entry
at most one tick is left, and no timer. -/
def Looping : Option (Int × Option TimerId) → Nat → Nat → Prop
  | none, running, armed => running ≤ 1 ∧ armed = 0
  | some (_, none), running, armed => running = 1 ∧ armed = 0
  | some (_, some _), running, armed => running = 0 ∧ armed = 1

/-- What the steps keep that meet the condition. -/
structure Inv (m : SyncManager) : Prop where
  sound : Sound m
  loop : ∀ nwid, Looping (m.entry nwid) (m.running nwid) (m.armed nwid)

theorem inv_new : Inv SyncManager.new := ⟨sound_new, fun _ => ⟨Nat.zero_le _, rfl⟩⟩

theorem Inv.oneLoop (h : Inv m) : m.OneLoop := by
  intro nwid
  have hloop := h.loop nwid
  refine ⟨?_, fun hzero _ => ?_⟩
  · rcases hentry : m.entry nwid with _ | ⟨n, _ | timer⟩
    all_goals
      rw [hentry] at hloop
      obtain ⟨hrunning, harmed⟩ := hloop
      omega
  · rcases h.sound.entry_of_refCount nwid with ⟨hnone, -⟩ | ⟨e, -, hcount, hpos⟩
    · rw [hnone] at hloop
      exact hloop.2
    · omega

/-! ## 2. Steps and runs -/

theorem inv_step {m' : SyncManager} {event : Event} (h : Inv m) (hawaits : m.awaits event)
    (hstep : machine.step m event = some m') : Inv m' := by
  refine ⟨sound_step h.sound hstep, fun b => ?_⟩
  have hloop := h.loop b
  cases event with
  | acquire io ctx nwid =>
    cases hstep
    rw [entry_acquire h.sound, running_acquire h.sound, armed_acquire]
    by_cases hb : nwid = b
    · subst hb
      rcases hentry : m.entry nwid with _ | ⟨n, _ | timer⟩
      · have hidle : m.running nwid = 0 := hawaits (by
          simpa [SyncManager.isSyncing, Dict.contains] using entry_eq_none_iff.mp hentry)
        rw [hentry] at hloop
        simpa [Looping, hidle] using hloop.2
      · simpa [hentry, Looping] using hloop
      · simpa [hentry, Looping] using hloop
    · simpa [hb] using hloop
  | release nwid =>
    cases hstep
    rw [entry_release h.sound, running_release]
    have harmed := armed_release h.sound nwid b
    by_cases hb : nwid = b
    · subst hb
      rcases hentry : m.entry nwid with _ | ⟨n, _ | timer⟩
      · simp only [hentry, Option.any_none] at harmed hloop
        simpa [Looping, ← harmed] using hloop
      · by_cases hlast : n ≤ 1 <;> simp [hentry, hlast, Looping] at harmed hloop ⊢ <;> omega
      · by_cases hlast : n ≤ 1 <;> simp [hentry, hlast, Looping] at harmed hloop ⊢ <;> omega
    · simp only [hb, false_and, if_false, Nat.add_zero] at harmed
      simpa [hb, harmed] using hloop
  | finish id hash =>
    obtain ⟨t, ht, rfl⟩ := Option.map_eq_some_iff.mp hstep
    have hended := h.sound.endTick id
    have hpublished := hended.publish t hash
    obtain ⟨hentry, hticks, htimers, -, -⟩ := publish_eq (m.endTick id) t hash
    have hrunning := running_endTick ht b
    rw [entry_reschedule hpublished, running_reschedule hpublished, armed_reschedule hpublished,
      hentry, SyncManager.running, SyncManager.armed, hticks, htimers]
    change Looping (if t.nwid = b then (m.entry b).map _ else m.entry b)
      ((m.endTick id).running b) (m.armed b + if t.nwid = b ∧ (m.entry t.nwid).isSome then 1 else 0)
    by_cases hb : t.nwid = b
    · rw [hb] at hrunning ⊢
      rcases he : m.entry b with _ | ⟨n, _ | timer⟩ <;>
        simp [he, Looping] at hrunning hloop ⊢ <;> omega
    · simp only [hb, if_false, Nat.add_zero] at hrunning
      simpa [hb, hrunning] using hloop
  | fire timer =>
    obtain ⟨nwid, ht, rfl⟩ := Option.map_eq_some_iff.mp hstep
    have harmed := armed_disarm ht b
    rw [tick_disarm]
    change Looping ((m.tick nwid).entry b) ((m.tick nwid).running b)
      (((m.tick nwid).disarm timer).armed b)
    rw [entry_tick h.sound, running_tick h.sound]
    have hsame : ((m.tick nwid).disarm timer).armed b = (m.disarm timer).armed b := by
      rw [← tick_disarm, armed_tick]
    rw [hsame]
    by_cases hb : nwid = b
    · subst hb
      rcases he : m.entry nwid with _ | ⟨n, _ | timer'⟩ <;>
        simp [he, Looping] at harmed hloop ⊢ <;> omega
    · simp only [hb, if_false, Nat.add_zero] at harmed
      simpa [hb, harmed] using hloop

/-- An entry that is made while a tick of the network runs starts a second one. -/
theorem not_oneLoop_of_not_awaits {m' : SyncManager} {event : Event} (h : Sound m)
    (hnot : ¬ m.awaits event) (hstep : machine.step m event = some m') : ¬ m'.OneLoop := by
  cases event with
  | acquire io ctx nwid =>
    cases hstep
    have hfree : m.isSyncing nwid = false := by
      by_contra hbusy
      exact hnot fun hidle => absurd hidle hbusy
    have hentry : m.entry nwid = none := entry_eq_none_iff.mpr (by
      simpa [SyncManager.isSyncing, Dict.contains] using hfree)
    have hrunning : m.running nwid ≠ 0 := fun hzero => hnot fun _ => hzero
    intro honce
    have hle := (honce nwid).1
    rw [running_acquire h, armed_acquire] at hle
    simp [hentry] at hle
    omega
  | release nwid => exact absurd trivial hnot
  | finish id hash => exact absurd trivial hnot
  | fire timer => exact absurd trivial hnot

/-- **One loop for each network, exactly if no entry is made too early.**  In every run of calls of
`acquire` and `release`, ends of ticks and timers, all states of the run have at most one tick of
each network running or scheduled, and none armed behind the last viewer, if and only if a network
without an entry is never acquired while one of its ticks is running. -/
theorem one_loop_iff (events : List Event) :
    (∀ es, es <+: events → ∀ m, machine.run SyncManager.new es = some m → m.OneLoop) ↔
      machine.Conforms SyncManager.awaits SyncManager.new events := by
  refine Machine.holds_iff_conforms (I := Inv) (fun m => Inv.oneLoop)
    (fun m e m' h hok => inv_step h hok) (fun m e m' h => not_oneLoop_of_not_awaits h.sound) ?_
    events inv_new
  intro m event hstuck
  cases event with
  | acquire io ctx nwid => cases hstuck
  | release nwid => trivial
  | finish id hash => trivial
  | fire timer => trivial

/-- A viewer leaves and comes back while the first tick runs, both ticks end, and the viewer leaves
for good. -/
def hastyReturn : List Event :=
  [.acquire 0 1 "7", .release "7", .acquire 0 1 "7", .finish 1 none, .finish 3 none, .release "7"]

/-- **A timer that stays armed** behind the last viewer. -/
theorem hasty_return_leaves_timer :
    ∃ m, machine.run SyncManager.new hastyReturn = some m ∧ m.refCount "7" = 0 ∧ m.running "7" = 0 ∧
      m.armed "7" = 1 ∧ ¬ m.OneLoop := by
  refine Machine.exists_run (P := fun m => m.refCount "7" = 0 ∧ m.running "7" = 0 ∧ m.armed "7" = 1)
    (by decide +kernel) ?_
  rintro m - ⟨hcount, hrunning, harmed⟩
  refine ⟨hcount, hrunning, harmed, fun honce => ?_⟩
  have hzero := (honce "7").2 hcount hrunning
  omega

end ZtPlanet.Ztnet.Sync
