/-
# What the outbox guarantees

In every run, a request goes to the destination that its delivery was enqueued for, and there are no
more requests than attempts, and no more attempts than one and the retries that an administrator has
made: `outbox_safe`.

What the requests are counted against is what the workers hold: a claim is one attempt, and one
request that is still to be made.
-/
import ZtPlanet.Ztnet.Outbox

namespace ZtPlanet.Ztnet.Outbox

open ZtPlanet.Lib

/-! ## 1. What the tasks hold -/

/-- The jobs that a worker has read and not finished. -/
def Task.jobs : Task → List Job
  | .claiming _ job jobs | .cancelling _ job _ jobs | .sending _ job _ jobs
  | .confirming _ job _ jobs | .failing _ job _ jobs => job :: jobs
  | _ => []

/-- A request for the delivery is still to be made. -/
def Task.unsent (id : DeliveryId) : Task → Nat
  | .sending _ job _ _ => if job.id = id then 1 else 0
  | _ => 0

/-- A claim can be made without a retry. -/
def Delivery.waiting (d : Delivery) : Nat := if d.status = .pending then 1 else 0

/-- The number of requests for the delivery. -/
def State.sendsOf (s : State) (id : DeliveryId) : Nat := s.sends.countP fun send => send.1 == id

/-- The number of accepted retries of the delivery. -/
def State.retriesOf (s : State) (id : DeliveryId) : Nat := s.retried.count id

variable {host : Host} {s s' : State} {i : Nat} {t t' : Task}

@[simp] theorem jobs_nextJob (options : GlobalOptions) (jobs : List Job) :
    (nextJob options jobs).jobs = jobs := by
  cases jobs <;> rfl

@[simp] theorem unsent_nextJob (id : DeliveryId) (options : GlobalOptions) (jobs : List Job) :
    (nextJob options jobs).unsent id = 0 := by
  cases jobs <;> rfl

theorem get?_updateMany (s : State) (selected : DeliveryId → Delivery → Bool)
    (data : Delivery → Delivery) (id : DeliveryId) :
    (s.updateMany selected data).deliveries.get? id = (s.deliveries.get? id).map fun d =>
      if selected id d then { data d with updatedAt := s.now } else d :=
  Dict.get?_map _ _ _

/-- A job that is listed is pending, with the fingerprint of its delivery. -/
theorem mem_pendingJobs {deliveries : Dict DeliveryId Delivery} {job : Job}
    (h : job ∈ pendingJobs deliveries) :
    ∃ d, deliveries.get? job.id = some d ∧
      d.destinationFingerprint = job.destinationFingerprint := by
  obtain ⟨e, he, rfl⟩ := List.mem_map.mp h
  have hmem := (List.mem_insertionSort _).mp (List.mem_of_mem_take he)
  exact ⟨e.2, Dict.get?_eq_some_iff.mpr (List.mem_filter.mp hmem).1, rfl⟩

/-! ## 2. Requests and attempts -/

/-- **The invariant.**  Requests are made for attempts, attempts for retries, and what is sent goes
where it should. -/
structure Inv (host : Host) (s : State) : Prop where
  rows : ∀ id d, s.deliveries.get? id = some d →
    s.enqueued.get? id = some d.destinationFingerprint
  jobs : ∀ t ∈ s.tasks, ∀ job ∈ t.jobs, s.enqueued.get? job.id = some job.destinationFingerprint
  compared : ∀ t ∈ s.tasks, ∀ options job n jobs, t = .sending options job n jobs →
    job.destinationFingerprint = host.destinationFingerprint options.destination
  sends : ∀ send ∈ s.sends,
    s.enqueued.get? send.1 = some (host.destinationFingerprint send.2)
  counted : ∀ id d, s.deliveries.get? id = some d →
    s.sendsOf id + weigh (Task.unsent id) s.tasks ≤ d.attempts ∧
      d.attempts + d.waiting ≤ 1 + s.retriesOf id
  bounded : ∀ id, s.sendsOf id + weigh (Task.unsent id) s.tasks ≤ 1 + s.retriesOf id

theorem inv_start (host : Host) (options : Option GlobalOptions) :
    Inv host (State.start options) where
  rows _ _ h := by cases h
  jobs _ ht := absurd ht List.not_mem_nil
  compared _ ht := absurd ht List.not_mem_nil
  sends _ hsend := absurd hsend List.not_mem_nil
  counted _ _ h := by cases h
  bounded _ := Nat.zero_le _

/-- **The accounting of one move.**  On every row, requests made or to be made grow with the
attempts only, and attempts made or waiting with the retries only. -/
theorem Inv.of_move (hi : Inv host s) (ht : s.tasks[i]? = some t)
    (htasks : s'.tasks = s.tasks.set i t') (henqueued : s'.enqueued = s.enqueued)
    (hrows : ∀ id d', s'.deliveries.get? id = some d' →
      ∃ d, s.deliveries.get? id = some d ∧
        d'.destinationFingerprint = d.destinationFingerprint ∧
        s'.sendsOf id + t'.unsent id + d.attempts ≤ s.sendsOf id + t.unsent id + d'.attempts ∧
        d'.attempts + d'.waiting + s.retriesOf id ≤ d.attempts + d.waiting + s'.retriesOf id)
    (hgone : ∀ id, s'.deliveries.get? id = none →
      s'.sendsOf id + t'.unsent id ≤ s.sendsOf id + t.unsent id ∧
        s.retriesOf id ≤ s'.retriesOf id)
    (hjobs : ∀ job ∈ t'.jobs, s.enqueued.get? job.id = some job.destinationFingerprint)
    (hcompared : ∀ options job n jobs, t' = .sending options job n jobs →
      job.destinationFingerprint = host.destinationFingerprint options.destination)
    (hsends : ∀ send ∈ s'.sends, send ∈ s.sends ∨
      s.enqueued.get? send.1 = some (host.destinationFingerprint send.2)) : Inv host s' := by
  have hweigh (id : DeliveryId) := weigh_set (f := Task.unsent id) (b := t') ht
  have hcounted : ∀ id d', s'.deliveries.get? id = some d' →
      s'.sendsOf id + weigh (Task.unsent id) s'.tasks ≤ d'.attempts ∧
        d'.attempts + d'.waiting ≤ 1 + s'.retriesOf id := by
    intro id d' hd'
    obtain ⟨d, hd, -, hsent, hretried⟩ := hrows id d' hd'
    have hc := hi.counted id d hd
    have hw := hweigh id
    rw [htasks]
    omega
  refine ⟨fun id d' hd' => ?_, ?_, ?_, fun send hsend => ?_, hcounted, fun id => ?_⟩
  · obtain ⟨d, hd, hfp, -⟩ := hrows id d' hd'
    rw [henqueued, hfp]
    exact hi.rows id d hd
  · rw [htasks, henqueued]
    exact forall_mem_set hi.jobs hjobs
  · rw [htasks]
    exact forall_mem_set hi.compared hcompared
  · rw [henqueued]
    exact (hsends send hsend).elim (hi.sends send) fun h => h
  · cases hd' : s'.deliveries.get? id with
    | some d' =>
      have hc := hcounted id d' hd'
      omega
    | none =>
      have hg := hgone id hd'
      have hb := hi.bounded id
      have hw := hweigh id
      rw [htasks]
      omega

/-- A task with no request to make, and with jobs that are enqueued. -/
structure Task.Calm (s : State) (t : Task) : Prop where
  unsent : ∀ id, t.unsent id = 0
  jobs : ∀ job ∈ t.jobs, s.enqueued.get? job.id = some job.destinationFingerprint

theorem Task.Calm.ne_sending (h : t.Calm s) (options : GlobalOptions) (job : Job) (n : Nat)
    (jobs : List Job) : t ≠ .sending options job n jobs := by
  intro ht
  subst ht
  have := h.unsent job.id
  simp [Task.unsent] at this

theorem Task.calm_of_idle (hunsent : ∀ id, t.unsent id = 0) (hjobs : t.jobs = []) : t.Calm s :=
  ⟨hunsent, fun _ hjob => absurd (hjobs ▸ hjob) List.not_mem_nil⟩

theorem calm_done : Task.done.Calm s := Task.calm_of_idle (fun _ => rfl) rfl

theorem calm_nextJob {options : GlobalOptions} {jobs : List Job}
    (h : ∀ job ∈ jobs, s.enqueued.get? job.id = some job.destinationFingerprint) :
    (nextJob options jobs).Calm s :=
  ⟨fun id => unsent_nextJob id options jobs,
    fun job hjob => h job (jobs_nextJob options jobs ▸ hjob)⟩

/-- A move that makes no request, no attempt and no retry. -/
theorem Inv.of_quiet (hi : Inv host s) (ht : s.tasks[i]? = some t)
    (htasks : s'.tasks = s.tasks.set i t') (henqueued : s'.enqueued = s.enqueued)
    (hsends : s'.sends = s.sends) (hretried : s'.retried = s.retried)
    (hrows : ∀ id d', s'.deliveries.get? id = some d' →
      ∃ d, s.deliveries.get? id = some d ∧
        d'.destinationFingerprint = d.destinationFingerprint ∧ d'.attempts = d.attempts ∧
        d'.waiting ≤ d.waiting)
    (hcalm : t'.Calm s) : Inv host s' := by
  have hsendsOf (id : DeliveryId) : s'.sendsOf id = s.sendsOf id := by
    unfold State.sendsOf
    rw [hsends]
  have hretriesOf (id : DeliveryId) : s'.retriesOf id = s.retriesOf id := by
    unfold State.retriesOf
    rw [hretried]
  refine hi.of_move ht htasks henqueued (fun id d' hd' => ?_) (fun id _ => ?_) hcalm.jobs
    (fun options job n jobs h => absurd h (hcalm.ne_sending options job n jobs))
    (fun send hsend => .inl (hsends ▸ hsend))
  · obtain ⟨d, hd, hfp, hattempts, hwaiting⟩ := hrows id d' hd'
    have hu := hcalm.unsent id
    refine ⟨d, hd, hfp, ?_, ?_⟩
    · rw [hsendsOf]
      omega
    · rw [hretriesOf]
      omega
  · have hu := hcalm.unsent id
    rw [hsendsOf, hretriesOf]
    omega

/-- A task moves on, and the tables stay. -/
theorem Inv.goto (hi : Inv host s) (ht : s.tasks[i]? = some t) (hcalm : t'.Calm s) :
    Inv host (s.goto i t') :=
  hi.of_quiet ht rfl rfl rfl rfl (fun _ d' hd' => ⟨d', hd', rfl, rfl, le_refl _⟩) hcalm

/-- The rows behind an update that makes nothing pending. -/
theorem rows_updateMany {selected : DeliveryId → Delivery → Bool} {data : Delivery → Delivery}
    {id : DeliveryId} {d' : Delivery}
    (hd' : (s.updateMany selected data).deliveries.get? id = some d')
    (hdata : ∀ d, (data d).destinationFingerprint = d.destinationFingerprint ∧
      (data d).attempts = d.attempts ∧ (data d).status ≠ .pending) :
    ∃ d, s.deliveries.get? id = some d ∧
      d'.destinationFingerprint = d.destinationFingerprint ∧ d'.attempts = d.attempts ∧
      d'.waiting ≤ d.waiting := by
  rw [get?_updateMany] at hd'
  obtain ⟨d, hd, rfl⟩ := Option.map_eq_some_iff.mp hd'
  obtain ⟨hfp, hattempts, hstatus⟩ := hdata d
  refine ⟨d, hd, ?_⟩
  split
  · refine ⟨hfp, hattempts, ?_⟩
    unfold Delivery.waiting
    rw [if_neg hstatus]
    exact Nat.zero_le _
  · exact ⟨rfl, rfl, le_refl _⟩

/-- A task moves on with an update that makes nothing pending. -/
theorem Inv.update (hi : Inv host s) (ht : s.tasks[i]? = some t)
    {selected : DeliveryId → Delivery → Bool} {status : Status} (hstatus : status ≠ .pending)
    (hcalm : t'.Calm s) :
    Inv host ((s.updateMany selected fun d => { d with status := status }).goto i t') :=
  hi.of_quiet ht rfl rfl rfl rfl
    (fun _ _ hd' => rows_updateMany hd' fun _ => ⟨rfl, rfl, hstatus⟩) hcalm

/-! ## 3. The moves that count -/

/-- The rows after a claim: the one that is claimed, and the others as they were. -/
theorem rows_claim {job : Job} {d : Delivery} (hd : s.deliveries.get? job.id = some d)
    (hpending : d.status = .pending) {id : DeliveryId} {d' : Delivery}
    (hd' : (s.updateMany (fun id d => id == job.id && d.status = .pending)
      fun d => { d with status := .sending, attempts := d.attempts + 1 }).deliveries.get? id =
        some d') :
    (id = job.id ∧
      d' = { d with status := .sending, attempts := d.attempts + 1, updatedAt := s.now }) ∨
      id ≠ job.id ∧ s.deliveries.get? id = some d' := by
  rw [get?_updateMany] at hd'
  obtain ⟨d₀, hd₀, rfl⟩ := Option.map_eq_some_iff.mp hd'
  by_cases hid : id = job.id
  · subst hid
    obtain rfl := Option.some.inj (hd.symm.trans hd₀)
    rw [if_pos (by simp [hpending])]
    exact .inl ⟨rfl, rfl⟩
  · rw [if_neg (by simp [hid])]
    exact .inr ⟨hid, hd₀⟩

/-- A delivery that is claimed waits no more and has one more attempt, which may make one
request. -/
theorem Inv.claim (hi : Inv host s) {options : GlobalOptions} {job : Job} {jobs : List Job}
    (ht : s.tasks[i]? = some (.claiming options job jobs)) {d : Delivery}
    (hd : s.deliveries.get? job.id = some d) (hpending : d.status = .pending)
    (hunsent : ∀ id, t'.unsent id ≤ if job.id = id then 1 else 0) (hjobs : t'.jobs = job :: jobs)
    (hcompared : ∀ options job n jobs, t' = .sending options job n jobs →
      job.destinationFingerprint = host.destinationFingerprint options.destination) :
    Inv host ((s.updateMany (fun id d => id == job.id && d.status = .pending)
      fun d => { d with status := .sending, attempts := d.attempts + 1 }).goto i t') := by
  refine hi.of_move ht rfl rfl (fun id d' hd' => ?_) (fun id hgone => ?_) (hjobs ▸ ?_) hcompared
    (fun _ h => .inl h)
  · have hu := hunsent id
    rcases rows_claim hd hpending hd' with ⟨rfl, rfl⟩ | ⟨hid, hd'⟩
    · rw [if_pos rfl] at hu
      refine ⟨d, hd, rfl, ?_, ?_⟩
      · change s.sendsOf job.id + t'.unsent job.id + d.attempts ≤
          s.sendsOf job.id + 0 + (d.attempts + 1)
        omega
      · change d.attempts + 1 + 0 + s.retriesOf job.id ≤
          d.attempts + d.waiting + s.retriesOf job.id
        rw [Delivery.waiting, if_pos hpending]
    · rw [if_neg (Ne.symm hid)] at hu
      refine ⟨d', hd', rfl, ?_, le_refl _⟩
      change s.sendsOf id + t'.unsent id + d'.attempts ≤ s.sendsOf id + 0 + d'.attempts
      omega
  · have hu := hunsent id
    have hne : job.id ≠ id := by
      rintro rfl
      change (s.updateMany _ _).deliveries.get? job.id = none at hgone
      rw [get?_updateMany, hd] at hgone
      exact absurd hgone (Option.some_ne_none _)
    rw [if_neg hne] at hu
    refine ⟨?_, le_refl _⟩
    change s.sendsOf id + t'.unsent id ≤ s.sendsOf id + 0
    omega
  · exact hi.jobs _ (List.mem_of_getElem? ht)

/-- A request is made by who had it to make. -/
theorem Inv.send (hi : Inv host s) {options : GlobalOptions} {job : Job} {n : Nat}
    {jobs : List Job} (ht : s.tasks[i]? = some (.sending options job n jobs)) (hcalm : t'.Calm s) :
    Inv host ({ s with sends := s.sends ++ [(job.id, options.destination)] }.goto i t') := by
  have hmem := List.mem_of_getElem? ht
  have hsent (id : DeliveryId) :
      ({ s with sends := s.sends ++ [(job.id, options.destination)] }.goto i t').sendsOf id =
        s.sendsOf id + if job.id = id then 1 else 0 := by
    simp [State.sendsOf, State.goto, List.countP_append, List.countP_cons]
  refine hi.of_move ht rfl rfl (fun id d' hd' => ⟨d', hd', rfl, ?_, le_refl _⟩)
    (fun id _ => ⟨?_, le_refl _⟩) hcalm.jobs
    (fun options job n jobs h => absurd h (hcalm.ne_sending options job n jobs))
    (fun send hsend => ?_)
  · have hu := hcalm.unsent id
    rw [hsent]
    change _ ≤ s.sendsOf id + (if job.id = id then 1 else 0) + d'.attempts
    omega
  · have hu := hcalm.unsent id
    rw [hsent]
    change _ ≤ s.sendsOf id + if job.id = id then 1 else 0
    omega
  · rcases List.mem_append.mp hsend with h | h
    · exact .inl h
    · rw [List.mem_singleton] at h
      subst h
      right
      rw [hi.jobs _ hmem job List.mem_cons_self, hi.compared _ hmem _ _ _ _ rfl]

/-- An accepted retry makes a delivery wait that did not. -/
theorem Inv.retry (hi : Inv host s) {id : DeliveryId} {options : GlobalOptions}
    (ht : s.tasks[i]? = some (.retryWriting id options)) :
    Inv host ({ s.setStatus id .pending with retried := s.retried ++ [id] }.goto i .done) := by
  have hretried (id' : DeliveryId) :
      ({ s.setStatus id .pending with retried := s.retried ++ [id] }.goto i .done).retriesOf id' =
        s.retriesOf id' + if id = id' then 1 else 0 := by
    simp [State.retriesOf, State.goto, List.count_append, List.count_singleton]
  refine hi.of_move ht rfl rfl (fun id' d₁ hd₁ => ?_) (fun id' _ => ⟨le_refl _, ?_⟩)
    (fun _ h => nomatch h) (fun _ _ _ _ h => nomatch h) (fun _ h => .inl h)
  · change (s.updateMany _ _).deliveries.get? id' = some d₁ at hd₁
    rw [get?_updateMany] at hd₁
    obtain ⟨d, hd, rfl⟩ := Option.map_eq_some_iff.mp hd₁
    rw [hretried]
    refine ⟨d, hd, ?_⟩
    by_cases hid : id = id'
    · rw [if_pos (by simp [hid]), if_pos hid]
      refine ⟨rfl, le_refl _, ?_⟩
      change d.attempts + 1 + s.retriesOf id' ≤ d.attempts + d.waiting + (s.retriesOf id' + 1)
      omega
    · rw [if_neg (by simp [Ne.symm hid]), if_neg hid]
      exact ⟨rfl, le_refl _, le_refl _⟩
  · rw [hretried]
    exact Nat.le_add_right _ _

/-- Nothing has been sent for a delivery that is not enqueued, and nothing is to be sent. -/
theorem Inv.fresh (hi : Inv host s) {id : DeliveryId} (h : s.enqueued.get? id = none) :
    s.sendsOf id = 0 ∧ weigh (Task.unsent id) s.tasks = 0 := by
  refine ⟨List.countP_eq_zero.mpr fun send hsend heq => ?_, weigh_eq_zero fun t ht => ?_⟩
  · have := hi.sends send hsend
    rw [eq_of_beq heq, h] at this
    exact nomatch this
  · cases t with
    | sending options job n jobs =>
      refine if_neg fun hid => ?_
      have := hi.jobs _ ht job List.mem_cons_self
      rw [hid, h] at this
      exact nomatch this
    | _ => rfl

/-- A delivery that is enqueued waits for its first attempt. -/
theorem Inv.enqueue (hi : Inv host s) {id : DeliveryId} {eventKey : EventKey}
    {options : GlobalOptions} (ht : s.tasks[i]? = some (.enqueueWriting id eventKey options))
    (hfresh : s.enqueued.get? id = none) (fingerprint : Fingerprint) :
    Inv host ({ s with
      deliveries := s.deliveries.set id ⟨eventKey, fingerprint, .pending, 0, s.now, s.now⟩
      enqueued := s.enqueued.set id fingerprint }.goto i .done) := by
  have hkeep {id' : DeliveryId} {fp : Fingerprint} (h : s.enqueued.get? id' = some fp) :
      (s.enqueued.set id fingerprint).get? id' = some fp := by
    rw [Dict.get?_set, if_neg, h]
    rintro rfl
    rw [hfresh] at h
    exact nomatch h
  have hweigh (id' : DeliveryId) := weigh_set (f := Task.unsent id') (b := .done) ht
  obtain ⟨hnone, hidle⟩ := hi.fresh hfresh
  refine ⟨fun id' d hd => ?_, ?_, ?_, fun send hsend => hkeep (hi.sends send hsend),
    fun id' d hd => ?_, fun id' => ?_⟩
  · change (s.deliveries.set _ _).get? id' = some d at hd
    change (s.enqueued.set _ _).get? id' = _
    rw [Dict.get?_set] at hd
    by_cases hid : id = id'
    · rw [if_pos hid] at hd
      rw [Dict.get?_set, if_pos hid, ← Option.some.inj hd]
    · rw [if_neg hid] at hd
      exact hkeep (hi.rows id' d hd)
  · exact forall_mem_set (fun t h job hjob => hkeep (hi.jobs t h job hjob)) fun _ h => nomatch h
  · exact forall_mem_set hi.compared fun _ _ _ _ h => nomatch h
  · have hw := hweigh id'
    change (s.deliveries.set _ _).get? id' = some d at hd
    rw [Dict.get?_set] at hd
    change s.sendsOf id' + weigh (Task.unsent id') (s.tasks.set i .done) ≤ d.attempts ∧
      d.attempts + d.waiting ≤ 1 + s.retriesOf id'
    change weigh (Task.unsent id') (s.tasks.set i .done) + 0 =
      weigh (Task.unsent id') s.tasks + 0 at hw
    by_cases hid : id = id'
    · rw [if_pos hid] at hd
      subst hid
      obtain rfl := Option.some.inj hd
      refine ⟨by omega, ?_⟩
      change 0 + 1 ≤ 1 + s.retriesOf id
      omega
    · rw [if_neg hid] at hd
      have := hi.counted id' d hd
      omega
  · have hw := hweigh id'
    have hb := hi.bounded id'
    change weigh (Task.unsent id') (s.tasks.set i .done) + 0 =
      weigh (Task.unsent id') s.tasks + 0 at hw
    change s.sendsOf id' + weigh (Task.unsent id') (s.tasks.set i .done) ≤ 1 + s.retriesOf id'
    omega

/-! ## 4. Every run -/

theorem Inv.listed (hi : Inv host s) (options : GlobalOptions) :
    (nextJob options (pendingJobs s.deliveries)).Calm s := by
  refine calm_nextJob fun job hjob => ?_
  obtain ⟨d, hd, hfp⟩ := mem_pendingJobs hjob
  rw [hi.rows job.id d hd, hfp]

/-- The rest of the jobs, once a worker is through with the first. -/
theorem Inv.rest (hi : Inv host s) (ht : s.tasks[i]? = some t) {job : Job} {jobs : List Job}
    (hjobs : t.jobs = job :: jobs) (options : GlobalOptions) :
    (nextJob options jobs).Calm s :=
  calm_nextJob fun job' hjob' =>
    hi.jobs t (List.mem_of_getElem? ht) job' (hjobs ▸ List.mem_cons_of_mem job hjob')

/-- The next statement for the same jobs. -/
theorem Inv.calm_of_jobs (hi : Inv host s) (ht : s.tasks[i]? = some t)
    (hjobs : t'.jobs = t.jobs) (hunsent : ∀ id, t'.unsent id = 0) : t'.Calm s :=
  ⟨hunsent, fun job hjob => hi.jobs t (List.mem_of_getElem? ht) job (hjobs ▸ hjob)⟩

theorem Inv.advance (hi : Inv host s) (ht : s.tasks[i]? = some t)
    (h : advance host s i t = some s') : Inv host s' := by
  cases t with
  | expiring =>
    obtain rfl := Option.some.inj h
    exact hi.update ht (by decide) (Task.calm_of_idle (fun _ => rfl) rfl)
  | readingOptions =>
    obtain rfl := Option.some.inj h
    exact hi.goto ht (Task.calm_of_idle (fun _ => rfl) rfl)
  | sweeping options =>
    obtain rfl := Option.some.inj h
    refine hi.update ht (by decide) ?_
    split
    · exact Task.calm_of_idle (fun _ => rfl) rfl
    · exact calm_done
  | listing options =>
    obtain rfl := Option.some.inj h
    exact hi.goto ht (hi.listed options)
  | claiming options job jobs =>
    simp only [Outbox.advance] at h
    split at h
    · next d hd =>
      split at h
      · next hpending =>
        obtain rfl := Option.some.inj h
        refine hi.claim ht hd hpending (fun id => ?_) ?_ ?_
        · split
          · exact Nat.zero_le _
          · exact le_refl _
        · split <;> rfl
        · intro options' job' n jobs' heq
          split at heq
          · cases heq
          · next hsame =>
            injection heq with hoptions hjob
            subst hoptions hjob
            exact not_not.mp hsame
      · obtain rfl := Option.some.inj h
        exact hi.goto ht (hi.rest ht rfl options)
    · obtain rfl := Option.some.inj h
      exact hi.goto ht (hi.rest ht rfl options)
  | cancelling options job n jobs =>
    simp only [Outbox.advance] at h
    split at h
    · obtain rfl := Option.some.inj h
      exact hi.update ht (by decide) (hi.rest ht rfl options)
    · obtain rfl := Option.some.inj h
      exact hi.goto ht calm_done
  | sending options job n jobs =>
    obtain rfl := Option.some.inj h
    exact hi.send ht (hi.calm_of_jobs ht rfl fun _ => rfl)
  | confirming options job n jobs =>
    simp only [Outbox.advance] at h
    split at h
    · obtain rfl := Option.some.inj h
      exact hi.update ht (by decide) (hi.rest ht rfl options)
    · obtain rfl := Option.some.inj h
      exact hi.goto ht (hi.calm_of_jobs ht rfl fun _ => rfl)
  | failing options job n jobs =>
    simp only [Outbox.advance] at h
    split at h
    · obtain rfl := Option.some.inj h
      exact hi.update ht (by decide) (hi.rest ht rfl options)
    · obtain rfl := Option.some.inj h
      exact hi.goto ht calm_done
  | purging =>
    obtain rfl := Option.some.inj h
    refine hi.of_quiet ht rfl rfl rfl rfl (fun id d' hd' => ?_) calm_done
    change (s.deliveries.filter _).get? id = some d' at hd'
    rw [Dict.get?_filter] at hd'
    obtain ⟨hd, -⟩ := Option.filter_eq_some_iff.mp hd'
    exact ⟨d', hd, rfl, rfl, le_refl _⟩
  | retryReading id =>
    obtain rfl := Option.some.inj h
    refine hi.goto ht ?_
    split
    · exact Task.calm_of_idle (fun _ => rfl) rfl
    · exact calm_done
  | retryWriting id options =>
    simp only [Outbox.advance] at h
    split at h
    · split at h
      · obtain rfl := Option.some.inj h
        exact hi.retry ht
      · obtain rfl := Option.some.inj h
        exact hi.goto ht calm_done
    · obtain rfl := Option.some.inj h
      exact hi.goto ht calm_done
  | enqueueReading id eventKey =>
    obtain rfl := Option.some.inj h
    refine hi.goto ht ?_
    split
    · exact Task.calm_of_idle (fun _ => rfl) rfl
    · exact calm_done
  | enqueueWriting id eventKey options =>
    simp only [Outbox.advance] at h
    split at h
    · cases h
    · next hfresh =>
      split at h
      · obtain rfl := Option.some.inj h
        exact hi.goto ht calm_done
      · obtain rfl := Option.some.inj h
        exact hi.enqueue ht (by simpa [Dict.contains] using hfresh) _
  | done => cases h

theorem Inv.abort (hi : Inv host s) (ht : s.tasks[i]? = some t) {refused : Bool}
    (h : abort s i refused t = some s') : Inv host s' := by
  cases t with
  | sending options job n jobs =>
    obtain rfl := Option.some.inj h
    have hcalm : (Task.failing options job n jobs).Calm s := hi.calm_of_jobs ht rfl fun _ => rfl
    cases refused with
    | true => exact hi.goto ht hcalm
    | false => exact hi.send ht hcalm
  | confirming options job n jobs =>
    obtain rfl := Option.some.inj h
    exact hi.goto ht (hi.calm_of_jobs ht rfl fun _ => rfl)
  | done => exact nomatch h
  | _ =>
    obtain rfl := Option.some.inj h
    exact hi.goto ht calm_done

/-- A task starts that holds nothing yet. -/
theorem Inv.spawn (hi : Inv host s) (hjobs : t.jobs = []) (hunsent : ∀ id, t.unsent id = 0) :
    Inv host { s with tasks := s.tasks ++ [t] } := by
  have hcalm : t.Calm s := Task.calm_of_idle hunsent hjobs
  have hweigh (id : DeliveryId) :
      weigh (Task.unsent id) (s.tasks ++ [t]) = weigh (Task.unsent id) s.tasks := by
    rw [weigh_append_one, hunsent, Nat.add_zero]
  refine ⟨hi.rows, fun t' ht' => ?_, fun t' ht' => ?_, hi.sends, fun id d hd => ?_, fun id => ?_⟩
  · rcases List.mem_append.mp ht' with ht' | ht'
    · exact hi.jobs t' ht'
    · exact List.mem_singleton.mp ht' ▸ hcalm.jobs
  · rcases List.mem_append.mp ht' with ht' | ht'
    · exact hi.compared t' ht'
    · intro options job n jobs heq
      exact absurd heq (List.mem_singleton.mp ht' ▸ hcalm.ne_sending options job n jobs)
  · exact (hweigh id).symm ▸ hi.counted id d hd
  · exact (hweigh id).symm ▸ hi.bounded id

/-- **Every event keeps the invariant.** -/
theorem Inv.step (hi : Inv host s) {e : Event} (h : step host s e = some s') : Inv host s' := by
  cases e with
  | tick ms =>
    obtain rfl := Option.some.inj h
    exact { hi with }
  | setOptions options =>
    obtain rfl := Option.some.inj h
    exact { hi with }
  | drain =>
    obtain rfl := Option.some.inj h
    exact hi.spawn rfl fun _ => rfl
  | retry id =>
    obtain rfl := Option.some.inj h
    exact hi.spawn rfl fun _ => rfl
  | enqueue id eventKey =>
    obtain rfl := Option.some.inj h
    exact hi.spawn rfl fun _ => rfl
  | step i outcome =>
    simp only [Outbox.step] at h
    split at h
    · exact nomatch h
    · next t ht =>
      cases outcome with
      | works => exact hi.advance ht h
      | raises => exact hi.abort ht h
      | refuses => exact hi.abort ht h

theorem inv_run {options : Option GlobalOptions} {events : List Event}
    (hrun : (machine host).run (State.start options) events = some s) : Inv host s :=
  Machine.run_invariant (fun _ _ _ hi h => hi.step h) events (inv_start host options) hrun

/-- **Outbox safety.**  In every run, a request goes to a destination with the fingerprint that its
delivery was enqueued with; a delivery has no more requests than attempts, and no more attempts than
one and its accepted retries.  The bound on the requests outlives the delivery. -/
theorem outbox_safe (host : Host) (options : Option GlobalOptions) (events : List Event) (s : State)
    (hrun : (machine host).run (State.start options) events = some s) :
    (∀ send ∈ s.sends, s.enqueued.get? send.1 = some (host.destinationFingerprint send.2)) ∧
    (∀ id d, s.deliveries.get? id = some d →
      s.enqueued.get? id = some d.destinationFingerprint ∧
        s.sendsOf id ≤ d.attempts ∧ d.attempts ≤ 1 + s.retriesOf id) ∧
    ∀ id, s.sendsOf id ≤ 1 + s.retriesOf id := by
  have hi := inv_run hrun
  refine ⟨hi.sends, fun id d hd => ⟨hi.rows id d hd, ?_⟩, fun id => ?_⟩
  · have := hi.counted id d hd
    omega
  · have := hi.bounded id
    omega

/-- A digest that tells whether there is a channel. -/
def exampleHost : Host :=
  ⟨fun destination => if destination.messagePusherChannel.isSome then 1 else 0⟩

def exampleOptions : GlobalOptions :=
  ⟨true, some "https://push.example", some "planet", none⟩

/-- Task `i` makes `n` moves. -/
def moves (i n : Nat) : List Event := List.replicate n (.step i .works)

/-- A request goes out and is not confirmed, an administrator retries it, and a second worker sends
it again, after the channel has been changed and changed back. -/
def retriedRun : List Event :=
  [Event.enqueue 7 "change:1"] ++ moves 0 2 ++
  [Event.drain] ++ moves 1 5 ++ [Event.step 1 .raises] ++ moves 1 1 ++
  [Event.retry 7] ++ moves 2 2 ++
  [Event.setOptions none, Event.setOptions (some exampleOptions), Event.drain] ++ moves 3 7

theorem outbox_safe_example : ∃ s,
    (machine exampleHost).run (State.start (some exampleOptions)) retriedRun = some s ∧
    s.sendsOf 7 = 2 ∧
    (∀ send ∈ s.sends,
      s.enqueued.get? send.1 = some (exampleHost.destinationFingerprint send.2)) ∧
    (∀ id d, s.deliveries.get? id = some d →
      s.enqueued.get? id = some d.destinationFingerprint ∧
        s.sendsOf id ≤ d.attempts ∧ d.attempts ≤ 1 + s.retriesOf id) ∧
    ∀ id, s.sendsOf id ≤ 1 + s.retriesOf id := by
  have hrun : ((machine exampleHost).run (State.start (some exampleOptions)) retriedRun).map
      (fun s => s.sendsOf 7) = some 2 := by
    decide +kernel
  obtain ⟨s, hs, hsends⟩ := Option.map_eq_some_iff.mp hrun
  exact ⟨s, hs, hsends, outbox_safe exampleHost (some exampleOptions) retriedRun s hs⟩

end ZtPlanet.Ztnet.Outbox
