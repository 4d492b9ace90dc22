/-
# Connection slots: `State::reserve` and `State::release`

`State::reserve` takes a global slot with a compare-and-swap loop on `metrics.active`, then looks
at the address's own count under the `per_ip` lock and gives the slot back when that count is at
its limit; `State::release` lowers the count and then gives the slot back.  The two counters are
never changed in one atomic step, so between any two steps some tasks are in flight.

A `Task` is one accepted connection: it calls `reserve` and, if that returned `true`, `release`
once, for the same address.  Its program counter names the next atomic step, and an event says
which task moves.  The section on the invariant accounts for every in-flight task: what it has
taken from `active` and what it has left in the map.
-/
import ZtPlanet.Lib.Dict
import ZtPlanet.Lib.Machine
import ZtPlanet.Lib.Pool
import ZtPlanet.Relay.Basic

namespace ZtPlanet.Relay.Reservation

open ZtPlanet.Lib

/-! ## 1. The shared state and the tasks -/

/-- Where a task is: the atomic step named by the constructor is the next one it takes. -/
inductive Task where
  /-- before `reserve`, or after `reserve` returned `false`, or after `release` -/
  | idle
  /-- `reserve`: load `active` -/
  | loading (ip : IpAddr)
  /-- the loaded value is below the ceiling: compare-and-swap it -/
  | swapping (ip : IpAddr) (active : Nat)
  /-- the loaded value is at the ceiling: count the rejection and return `false` -/
  | full
  /-- the global slot is taken: lock `per_ip` -/
  | locking (ip : IpAddr)
  /-- lock held: look at the address's count -/
  | counting (ip : IpAddr)
  /-- lock held, count at its limit: `active.fetch_sub` -/
  | refusing (ip : IpAddr)
  /-- lock held: count the rejection, unlock and return `false` -/
  | refused
  /-- lock held, count raised: count the acceptance, unlock and return `true` -/
  | accepting (ip : IpAddr)
  /-- `reserve` returned `true` -/
  | admitted (ip : IpAddr)
  /-- `release`: lock `per_ip` -/
  | leaving (ip : IpAddr)
  /-- lock held: lower the address's count -/
  | lowering (ip : IpAddr)
  /-- lock held: `active.fetch_sub`, unlock and return -/
  | decrementing
deriving DecidableEq

/-- The part of `State` that the two calls touch, the holder of the `per_ip` lock, and the
tasks. -/
structure State where
  active : Nat
  accepted : Nat
  rejectedCapacity : Nat
  perIp : Dict IpAddr Nat
  holder : Option Nat
  tasks : List Task
deriving DecidableEq

/-- `State::new()`, before any connection. -/
def State.new : State := ⟨0, 0, 0, Dict.empty, none, []⟩

/-- `usize::MAX`. -/
def usizeMax : Nat := 2 ^ 64 - 1

/-- `fetch_sub(1)` on a `usize`, which wraps. -/
def fetchSub (n : Nat) : Nat := if n = 0 then usizeMax else n - 1

/-- `entry(ip).or_default()`: the count of `ip`, stored as 0 if it had none. -/
def orDefault (counts : Dict IpAddr Nat) (ip : IpAddr) : Dict IpAddr Nat :=
  match counts.get? ip with
  | some _ => counts
  | none => counts.set ip 0

/-- The `if let Some(count) = counts.get_mut(&ip)` block of `release`. -/
def lowerCount (counts : Dict IpAddr Nat) (ip : IpAddr) : Dict IpAddr Nat :=
  match counts.get? ip with
  | some n => if n - 1 = 0 then counts.erase ip else counts.set ip (n - 1)
  | none => counts

/-! ## 2. One atomic step -/

/-- What can happen next. -/
inductive Event where
  /-- the listener accepts a connection -/
  | accept
  /-- an idle task calls `reserve` -/
  | reserve (i : Nat) (ip : IpAddr)
  /-- an admitted task's connection ends and it calls `release` -/
  | release (i : Nat)
  /-- task `i` takes its next atomic step -/
  | advance (i : Nat)
deriving DecidableEq

/-- Task `i` moves on to `t`. -/
def State.goto (s : State) (i : Nat) (t : Task) : State := { s with tasks := s.tasks.set i t }

/-- The next atomic step of task `i`, which is at `t`; `none` where it has to wait. -/
def advance (cfg : Config) (s : State) (i : Nat) (t : Task) : Option State :=
  match t with
  | .idle => none
  | .loading ip =>
    if s.active ≥ cfg.maxConnections then some (s.goto i .full)
    else some (s.goto i (.swapping ip s.active))
  | .swapping ip active =>
    if s.active = active then some ({ s with active := active + 1 }.goto i (.locking ip))
    else some (s.goto i (.loading ip))
  | .full => some ({ s with rejectedCapacity := wrapAdd s.rejectedCapacity 1 }.goto i .idle)
  | .locking ip =>
    if s.holder = none then some ({ s with holder := some i }.goto i (.counting ip)) else none
  | .counting ip =>
    let counts := orDefault s.perIp ip
    let count := (counts.get? ip).getD 0
    if count ≥ cfg.maxConnectionsPerIp then
      some ({ s with perIp := counts }.goto i (.refusing ip))
    else some ({ s with perIp := counts.set ip (count + 1) }.goto i (.accepting ip))
  | .refusing _ => some ({ s with active := fetchSub s.active }.goto i .refused)
  | .refused =>
    some ({ s with rejectedCapacity := wrapAdd s.rejectedCapacity 1, holder := none }.goto i .idle)
  | .accepting ip =>
    some ({ s with accepted := wrapAdd s.accepted 1, holder := none }.goto i (.admitted ip))
  | .admitted _ => none
  | .leaving ip =>
    if s.holder = none then some ({ s with holder := some i }.goto i (.lowering ip)) else none
  | .lowering ip => some ({ s with perIp := lowerCount s.perIp ip }.goto i .decrementing)
  | .decrementing =>
    some ({ s with active := fetchSub s.active, holder := none }.goto i .idle)

/-- One event. -/
def step (cfg : Config) (s : State) (e : Event) : Option State :=
  match e with
  | .accept => some { s with tasks := s.tasks ++ [.idle] }
  | .reserve i ip => if s.tasks[i]? = some .idle then some (s.goto i (.loading ip)) else none
  | .release i =>
    match s.tasks[i]? with
    | some (.admitted ip) => some (s.goto i (.leaving ip))
    | _ => none
  | .advance i =>
    match s.tasks[i]? with
    | some t => advance cfg s i t
    | none => none

/-- The relay's slots as a machine. -/
def machine (cfg : Config) : Machine State Event := ⟨step cfg⟩

/-! ## 3. What each task has taken

`pending` and `dropped` are slots of `active` that no count of the map accounts for: those taken
by the compare-and-swap and not yet counted or refused, and those whose count was lowered and
that are not yet given back.  `counted ip` is a connection that the map counts under `ip`. -/

/-- The task passed the compare-and-swap and has neither been counted nor refused. -/
def Task.pending : Task → Nat
  | .locking _ | .counting _ | .refusing _ => 1
  | _ => 0

/-- The task lowered its count and has not yet decremented `active`. -/
def Task.dropped : Task → Nat
  | .decrementing => 1
  | _ => 0

/-- The map counts the task under `ip`. -/
def Task.counted (ip : IpAddr) : Task → Nat
  | .accepting ip' | .admitted ip' | .leaving ip' | .lowering ip' => if ip' = ip then 1 else 0
  | _ => 0

/-- The task is outside both calls, or in `reserve` before its compare-and-swap. -/
def Task.atRest : Task → Prop
  | .idle | .loading _ | .swapping _ _ | .full | .refused => True
  | _ => False

def State.pending (s : State) : Nat := weigh Task.pending s.tasks

def State.dropped (s : State) : Nat := weigh Task.dropped s.tasks

/-- The sum of the per-address counts. -/
def State.counted (s : State) : Nat := s.perIp.total id

theorem Task.atRest_weightless {t : Task} (h : t.atRest) :
    t.pending = 0 ∧ t.dropped = 0 ∧ ∀ ip, t.counted ip = 0 := by
  cases t <;> simp [Task.atRest, Task.pending, Task.dropped, Task.counted] at h ⊢

/-! ## 4. The map operations

Each of the two updates of the map, as the lookup it leaves behind and the sum of the counts. -/

/-- With a positive limit the default entry is always raised, so the map never keeps a zero. -/
theorem get?_orDefault_set (counts : Dict IpAddr Nat) (ip : IpAddr) (n : Nat) :
    (orDefault counts ip).set ip n = counts.set ip n := by
  unfold orDefault
  cases h : counts.get? ip with
  | some v => rfl
  | none =>
    refine Dict.ext ?_
    have hl : Assoc.lookup counts.entries ip = none := h
    change Assoc.put (Assoc.put counts.entries ip 0) ip n = Assoc.put counts.entries ip n
    generalize counts.entries = l at hl
    induction l with
    | nil => simp [Assoc.put]
    | cons e t ih =>
      obtain ⟨k, v⟩ := e
      by_cases hk : k = ip
      · simp [Assoc.lookup, hk] at hl
      · simp only [Assoc.lookup, hk, if_false] at hl
        simp [Assoc.put, hk, ih hl]

theorem getD_orDefault (counts : Dict IpAddr Nat) (ip : IpAddr) :
    ((orDefault counts ip).get? ip).getD 0 = (counts.get? ip).getD 0 := by
  unfold orDefault
  cases h : counts.get? ip with
  | some v => simp [h]
  | none => simp

/-- Where a count exists already, `or_default` does nothing. -/
theorem orDefault_of_pos {counts : Dict IpAddr Nat} {ip : IpAddr}
    (h : 0 < (counts.get? ip).getD 0) : orDefault counts ip = counts := by
  unfold orDefault
  cases hc : counts.get? ip with
  | some v => rfl
  | none => simp [hc] at h

theorem getD_lowerCount (counts : Dict IpAddr Nat) (ip j : IpAddr) :
    ((lowerCount counts ip).get? j).getD 0
      = (counts.get? j).getD 0 - (if ip = j then 1 else 0) := by
  unfold lowerCount
  cases h : counts.get? ip with
  | none =>
    by_cases hj : ip = j
    · subst hj
      simp [h]
    · simp [hj]
  | some n =>
    dsimp only
    by_cases hj : ip = j
    · subst hj
      split
      · rename_i hn
        simp [Dict.get?_erase, h, hn]
      · simp [h]
    · split
      · simp [Dict.get?_erase, hj]
      · simp [Dict.get?_set, hj]

theorem total_lowerCount {counts : Dict IpAddr Nat} {ip : IpAddr}
    (h : 0 < (counts.get? ip).getD 0) :
    (lowerCount counts ip).total id + 1 = counts.total id := by
  unfold lowerCount
  cases hc : counts.get? ip with
  | none => simp [hc] at h
  | some n =>
    simp only [hc, Option.getD_some] at h
    dsimp only
    split
    · have := Dict.total_erase counts id ip
      simp only [hc, Option.map_some, Option.getD_some, id] at this
      omega
    · have := Dict.total_set counts id ip (n - 1)
      simp only [hc, Option.map_some, Option.getD_some, id] at this
      omega

/-- What the map holds after the count was lowered was there before, or is one less and
positive. -/
theorem get?_lowerCount {counts : Dict IpAddr Nat} {ip j : IpAddr} {n : Nat}
    (h : (lowerCount counts ip).get? j = some n) :
    counts.get? j = some n ∨ (0 < n ∧ counts.get? j = some (n + 1)) := by
  unfold lowerCount at h
  cases hc : counts.get? ip with
  | none => simp only [hc] at h; exact .inl h
  | some m =>
    simp only [hc] at h
    split at h
    · rw [Dict.get?_erase] at h
      split at h
      · cases h
      · exact .inl h
    · rw [Dict.get?_set] at h
      split at h
      · rename_i hm heq
        subst heq
        rw [Option.some.injEq] at h
        exact .inr ⟨by omega, by rw [hc]; congr 1; omega⟩
      · exact .inl h

/-! ## 5. The invariant -/

/-- Every slot of `active` is accounted for, and every count is the number of connections it
stands for. -/
structure Inv (cfg : Config) (s : State) : Prop where
  active_eq : s.active = s.counted + s.pending + s.dropped
  active_le : s.active ≤ cfg.maxConnections
  count_eq : ∀ ip, (s.perIp.get? ip).getD 0 = weigh (Task.counted ip) s.tasks
  count_mem : ∀ ip n, s.perIp.get? ip = some n → 0 < n ∧ n ≤ cfg.maxConnectionsPerIp
  swapping_lt : ∀ t ∈ s.tasks, ∀ ip n, t = .swapping ip n → n < cfg.maxConnections

theorem inv_new (cfg : Config) : Inv cfg State.new where
  active_eq := rfl
  active_le := Nat.zero_le _
  count_eq := fun _ => rfl
  count_mem := fun _ _ h => by cases h
  swapping_lt := fun _ h => by cases h

section

variable {cfg : Config} {s s' : State} {i : Nat} {t t' : Task}

/-- The address of a counted task has a positive count. -/
theorem Inv.count_pos (hi : Inv cfg s) (ht : s.tasks[i]? = some t) {ip : IpAddr}
    (hc : t.counted ip = 1) : 0 < (s.perIp.get? ip).getD 0 := by
  have := le_weigh (f := Task.counted ip) (List.mem_of_getElem? ht)
  rw [hi.count_eq ip]
  omega

/-- A task whose slot the map does not account for keeps `active` positive. -/
theorem Inv.active_pos (hi : Inv cfg s) (ht : s.tasks[i]? = some t)
    (hw : 0 < t.pending + t.dropped) : 0 < s.active := by
  have h₁ := le_weigh (f := Task.pending) (List.mem_of_getElem? ht)
  have h₂ := le_weigh (f := Task.dropped) (List.mem_of_getElem? ht)
  have := hi.active_eq
  simp only [State.pending, State.dropped] at this
  omega

/-- **The accounting of one move.**  A task goes from `t` to `t'` while `active` and the map
change by what the two points take; the limits have to be checked only where something grows. -/
theorem Inv.of_move (hi : Inv cfg s) (ht : s.tasks[i]? = some t)
    (htasks : s'.tasks = s.tasks.set i t')
    (hactive : s'.active + (t.pending + t.dropped + s.counted)
      = s.active + (t'.pending + t'.dropped + s'.counted))
    (hactive_le : s'.active ≤ cfg.maxConnections)
    (hcount : ∀ ip, (s'.perIp.get? ip).getD 0 + t.counted ip
      = (s.perIp.get? ip).getD 0 + t'.counted ip)
    (hmem : ∀ ip n, s'.perIp.get? ip = some n → 0 < n ∧ n ≤ cfg.maxConnectionsPerIp)
    (hswap : ∀ ip n, t' = .swapping ip n → n < cfg.maxConnections) : Inv cfg s' where
  active_eq := by
    have h₁ := weigh_set (f := Task.pending) (b := t') ht
    have h₂ := weigh_set (f := Task.dropped) (b := t') ht
    have := hi.active_eq
    simp only [State.pending, State.dropped, htasks] at this ⊢
    omega
  active_le := hactive_le
  count_eq := by
    intro ip
    have h₁ := weigh_set (f := Task.counted ip) (b := t') ht
    have h₂ := hi.count_eq ip
    have h₃ := hcount ip
    rw [htasks]
    omega
  count_mem := hmem
  swapping_lt := by
    rw [htasks]
    exact forall_mem_set hi.swapping_lt hswap

/-- A move that touches neither counter and keeps what the task has taken. -/
theorem Inv.of_idle_move (hi : Inv cfg s) (ht : s.tasks[i]? = some t)
    (htasks : s'.tasks = s.tasks.set i t') (hactive : s'.active = s.active)
    (hperIp : s'.perIp = s.perIp) (hpending : t'.pending = t.pending)
    (hdropped : t'.dropped = t.dropped) (hcounted : ∀ ip, t'.counted ip = t.counted ip)
    (hswap : ∀ ip n, t' = .swapping ip n → n < cfg.maxConnections) : Inv cfg s' := by
  refine hi.of_move ht htasks ?_ (hactive ▸ hi.active_le) ?_ (hperIp ▸ hi.count_mem) hswap
  · simp only [State.counted, hperIp]
    omega
  · intro ip
    rw [hperIp, hcounted ip]

/-- Every atomic step keeps the invariant. -/
theorem Inv.advance (hpos : 0 < cfg.maxConnectionsPerIp) (hi : Inv cfg s)
    (ht : s.tasks[i]? = some t) (h : advance cfg s i t = some s') : Inv cfg s' := by
  cases t with
  | idle => simp [Reservation.advance] at h
  | loading ip =>
    simp only [Reservation.advance] at h
    split at h <;> cases h
    · exact hi.of_idle_move ht rfl rfl rfl rfl rfl (fun _ => rfl) (by simp)
    · refine hi.of_idle_move ht rfl rfl rfl rfl rfl (fun _ => rfl) ?_
      intro ip' n heq
      cases heq
      omega
  | swapping ip n =>
    have hn := hi.swapping_lt _ (List.mem_of_getElem? ht) ip n rfl
    simp only [Reservation.advance] at h
    split at h <;> cases h
    · -- the swap succeeds: the new slot is pending
      rename_i hact
      refine hi.of_move ht rfl ?_ hn (fun _ => rfl) hi.count_mem (by simp)
      simp only [State.goto, State.counted, Task.pending, Task.dropped]
      omega
    · exact hi.of_idle_move ht rfl rfl rfl rfl rfl (fun _ => rfl) (by simp)
  | full =>
    cases h
    exact hi.of_idle_move ht rfl rfl rfl rfl rfl (fun _ => rfl) (by simp)
  | locking ip =>
    simp only [Reservation.advance] at h
    split at h <;> cases h
    exact hi.of_idle_move ht rfl rfl rfl rfl rfl (fun _ => rfl) (by simp)
  | counting ip =>
    simp only [Reservation.advance, getD_orDefault, get?_orDefault_set] at h
    split at h <;> cases h
    · -- refused: the count is at its positive limit, so the entry was there
      rename_i hge
      have hsame : orDefault s.perIp ip = s.perIp := orDefault_of_pos (by omega)
      exact hi.of_idle_move ht rfl rfl hsame rfl rfl (fun _ => rfl) (by simp)
    · rename_i hlt
      refine hi.of_move ht rfl ?_ hi.active_le ?_ ?_ (by simp)
      · have := Dict.total_set s.perIp id ip ((s.perIp.get? ip).getD 0 + 1)
        simp only [State.goto, State.counted, Task.pending, Task.dropped]
        simp only [Option.map_id, id] at this
        omega
      · intro j
        simp only [State.goto, Dict.get?_set, Task.counted]
        split
        · rename_i heq
          simp [heq]
        · rfl
      · intro j n hj
        simp only [State.goto, Dict.get?_set] at hj
        split at hj
        · cases hj
          omega
        · exact hi.count_mem j n hj
  | refusing ip =>
    cases h
    have hact := hi.active_pos ht (by simp [Task.pending])
    have hle := hi.active_le
    refine hi.of_move ht rfl ?_ ?_ (fun _ => rfl) hi.count_mem (by simp)
    · simp only [State.goto, State.counted, Task.pending, Task.dropped, fetchSub]
      split <;> omega
    · simp only [State.goto, fetchSub]
      split <;> omega
  | refused =>
    cases h
    exact hi.of_idle_move ht rfl rfl rfl rfl rfl (fun _ => rfl) (by simp)
  | accepting ip =>
    cases h
    exact hi.of_idle_move ht rfl rfl rfl rfl rfl (fun _ => rfl) (by simp)
  | admitted ip => simp [Reservation.advance] at h
  | leaving ip =>
    simp only [Reservation.advance] at h
    split at h <;> cases h
    exact hi.of_idle_move ht rfl rfl rfl rfl rfl (fun _ => rfl) (by simp)
  | lowering ip =>
    cases h
    have hcount : 0 < (s.perIp.get? ip).getD 0 := hi.count_pos ht (by simp [Task.counted])
    refine hi.of_move ht rfl ?_ hi.active_le ?_ ?_ (by simp)
    · have := total_lowerCount hcount
      simp only [State.goto, State.counted, Task.pending, Task.dropped]
      omega
    · intro j
      simp only [State.goto, getD_lowerCount, Task.counted]
      by_cases hj : ip = j
      · subst hj
        simp only [if_true]
        omega
      · simp [hj]
    · intro j n hj
      rcases get?_lowerCount hj with hj | ⟨hn, hj⟩
      · exact hi.count_mem j n hj
      · have := hi.count_mem j _ hj
        omega
  | decrementing =>
    cases h
    have hact := hi.active_pos ht (by simp [Task.dropped])
    have hle := hi.active_le
    refine hi.of_move ht rfl ?_ ?_ (fun _ => rfl) hi.count_mem (by simp)
    · simp only [State.goto, State.counted, Task.pending, Task.dropped, fetchSub]
      split <;> omega
    · simp only [State.goto, fetchSub]
      split <;> omega

/-- Every event keeps the invariant. -/
theorem Inv.step (hpos : 0 < cfg.maxConnectionsPerIp) {e : Event} (hi : Inv cfg s)
    (h : step cfg s e = some s') : Inv cfg s' := by
  cases e with
  | accept =>
    cases h
    refine ⟨?_, hi.active_le, ?_, hi.count_mem, ?_⟩
    · simpa [State.pending, State.dropped, State.counted, Task.pending, Task.dropped]
        using hi.active_eq
    · intro ip
      simpa [Task.counted] using hi.count_eq ip
    · intro t ht ip n heq
      rcases List.mem_append.mp ht with ht | ht
      · exact hi.swapping_lt t ht ip n heq
      · simp [heq] at ht
  | reserve i ip =>
    simp only [Reservation.step] at h
    split at h <;> cases h
    rename_i ht
    exact hi.of_idle_move ht rfl rfl rfl rfl rfl (fun _ => rfl) (by simp)
  | release i =>
    simp only [Reservation.step] at h
    split at h <;> cases h
    rename_i ht
    exact hi.of_idle_move ht rfl rfl rfl rfl rfl (fun _ => rfl) (by simp)
  | advance i =>
    simp only [Reservation.step] at h
    split at h
    · rename_i ht
      exact hi.advance hpos ht h
    · cases h

/-- Every run keeps the invariant. -/
theorem Inv.run (hpos : 0 < cfg.maxConnectionsPerIp) {es : List Event} (hi : Inv cfg s)
    (h : (machine cfg).run s es = some s') : Inv cfg s' :=
  Machine.run_invariant (fun _ _ _ hs hstep => hs.step hpos hstep) es hi h

/-- When every task is at rest, no slot is taken and no address is counted. -/
theorem Inv.drained (hi : Inv cfg s) (hrest : ∀ t ∈ s.tasks, t.atRest) :
    s.active = 0 ∧ s.perIp = Dict.empty := by
  have hempty : s.perIp = Dict.empty := by
    refine Dict.eq_empty_of_get? fun ip => ?_
    cases hc : s.perIp.get? ip with
    | none => rfl
    | some n =>
      have hpos := (hi.count_mem ip n hc).1
      have hzero := hi.count_eq ip
      rw [weigh_eq_zero fun t ht => (Task.atRest_weightless (hrest t ht)).2.2 ip, hc] at hzero
      simp only [Option.getD_some] at hzero
      omega
  refine ⟨?_, hempty⟩
  have h₁ : s.pending = 0 := weigh_eq_zero fun t ht => (Task.atRest_weightless (hrest t ht)).1
  have h₂ : s.dropped = 0 := weigh_eq_zero fun t ht => (Task.atRest_weightless (hrest t ht)).2.1
  rw [hi.active_eq, h₁, h₂]
  simp [State.counted, hempty]

end

/-! ## 6. Every interleaving -/

/-- No step about to be taken lowers a counter that is zero. -/
def NoUnderflow (s : State) : Prop :=
  ∀ (i : Nat) (ip : IpAddr), (s.tasks[i]? = some (.refusing ip) → 0 < s.active) ∧
    (s.tasks[i]? = some .decrementing → 0 < s.active) ∧
    (s.tasks[i]? = some (.lowering ip) → 0 < (s.perIp.get? ip).getD 0)

/-- **The connection slots are accounted for.**  After any interleaving of the atomic steps of
any number of `reserve` and `release` calls: both ceilings hold, no zero count is kept, every
slot of `active` is a counted connection or belongs to a call in flight, no decrement underflows,
and once all connections are released nothing is left behind. -/
theorem slots_accounted_for (cfg : Config) (hpos : 0 < cfg.maxConnectionsPerIp)
    (es : List Event) (s : State) (h : (machine cfg).run State.new es = some s) :
    s.active ≤ cfg.maxConnections ∧
    (∀ ip n, s.perIp.get? ip = some n → 0 < n ∧ n ≤ cfg.maxConnectionsPerIp) ∧
    s.active = s.counted + s.pending + s.dropped ∧
    NoUnderflow s ∧
    ((∀ t ∈ s.tasks, t.atRest) → s.active = 0 ∧ s.perIp = Dict.empty) := by
  have hi := (inv_new cfg).run hpos h
  refine ⟨hi.active_le, hi.count_mem, hi.active_eq, fun i ip => ⟨?_, ?_, ?_⟩, hi.drained⟩
  · intro ht
    exact hi.active_pos ht (by simp [Task.pending])
  · intro ht
    exact hi.active_pos ht (by simp [Task.dropped])
  · intro ht
    exact hi.count_pos ht (by simp [Task.counted])

/-- One connection admitted under the default limits, half-way through its release. -/
theorem slots_accounted_for_default :
    let es : List Event := [.accept, .reserve 0 (.v4 0x08080808), .advance 0, .advance 0,
      .advance 0, .advance 0, .advance 0, .release 0, .advance 0, .advance 0]
    ∃ s, (machine Config.default).run State.new es = some s ∧ s.dropped = 1 ∧
      s.active = s.counted + s.pending + s.dropped := by
  intro es
  refine ⟨((machine Config.default).run State.new es).getD State.new, by decide, by decide, ?_⟩
  exact (slots_accounted_for Config.default (by decide) es _ (by decide)).2.2.1

end ZtPlanet.Relay.Reservation
