/-
# Deliveries that are sent

A delivery that is sent stays sent until the retention deletes it, unless an earlier attempt stores
its outcome late.  A claim, a sweep and a retry ask for the status that they expect; the write of an
outcome does not, and a worker that has been swept for dead stores over whatever a later attempt has
stored.  `late_outcome_overwrites_sent` is such a run, and `sent_terminal` says that there is no
other way.

An attempt at a delivery is open from its claim until its outcome is written.  No two workers hold
the same attempt, and once an attempt has stored that the delivery is sent, nobody holds it.
-/
import ZtPlanet.Ztnet.OutboxSafety

namespace ZtPlanet.Ztnet.Outbox

open ZtPlanet.Lib

/-! ## 1. Open attempts -/

/-- The outcome of attempt `n` at the delivery is still to be written. -/
def Task.opened (id : DeliveryId) (n : Nat) : Task → Nat
  | .cancelling _ job attempt _ | .sending _ job attempt _ | .confirming _ job attempt _
  | .failing _ job attempt _ => if job.id = id ∧ attempt = n then 1 else 0
  | _ => 0

/-- When an attempt stores its outcome, it is the last one that has claimed the delivery. -/
def Task.storesCurrent (deliveries : Dict DeliveryId Delivery) : Task → Bool
  | .cancelling _ job attempt _ | .confirming _ job attempt _ | .failing _ job attempt _ =>
    (deliveries.get? job.id).all fun d => d.attempts = attempt
  | _ => true

/-- No outcome is stored late. -/
def StoresCurrent (s : State) : Event → Prop
  | .step i .works => s.tasks[i]?.all (Task.storesCurrent s.deliveries) = true
  | _ => True

instance (s : State) : (e : Event) → Decidable (StoresCurrent s e)
  | .step _ .works => inferInstanceAs (Decidable (_ = true))
  | .step _ .raises | .step _ .refuses | .tick _ | .setOptions _ | .drain | .retry _
  | .enqueue _ _ => isTrue trivial

/-- **The invariant.**  An attempt is open in one worker at most, none is open that has not been
made, and that of a delivery that is sent is not. -/
structure Once (s : State) : Prop where
  later : ∀ id d, s.deliveries.get? id = some d → ∀ n, d.attempts < n →
    weigh (Task.opened id n) s.tasks = 0
  once : ∀ id n, weigh (Task.opened id n) s.tasks ≤ 1
  closed : ∀ id d, s.deliveries.get? id = some d → d.status = .sent →
    weigh (Task.opened id d.attempts) s.tasks = 0

/-- The delivery is sent or deleted, after `n` attempts and `r` retries. -/
structure State.Settled (s : State) (id : DeliveryId) (n r : Nat) : Prop where
  enqueued : s.enqueued.get? id ≠ none
  row : ∀ d, s.deliveries.get? id = some d → d.status = .sent ∧ d.attempts = n
  retries : s.retriesOf id = r

/-- A step that keeps the invariant and every delivery that is sent. -/
structure Keeps (s s' : State) : Prop where
  once : Once s'
  settled : ∀ id n r, s.Settled id n r → s'.Settled id n r

variable {host : Host} {s s' : State} {i : Nat} {t t' : Task}

@[simp] theorem opened_nextJob (id : DeliveryId) (n : Nat) (options : GlobalOptions)
    (jobs : List Job) : (nextJob options jobs).opened id n = 0 := by
  cases jobs <;> rfl

theorem once_start (options : Option GlobalOptions) : Once (State.start options) :=
  ⟨nofun, fun _ _ => Nat.zero_le _, nofun⟩

/-- No attempt is open at a delivery that is not enqueued. -/
theorem Inv.unopened (hi : Inv host s) {id : DeliveryId} (h : s.enqueued.get? id = none) (n : Nat) :
    weigh (Task.opened id n) s.tasks = 0 := by
  refine weigh_eq_zero fun t ht => ?_
  have hne : ∀ job ∈ t.jobs, job.id ≠ id := by
    rintro job hjob rfl
    rw [hi.jobs t ht job hjob] at h
    exact nomatch h
  cases t with
  | cancelling _ job _ _ | sending _ job _ _ | confirming _ job _ _ | failing _ job _ _ =>
    exact if_neg fun hid => hne job List.mem_cons_self hid.1
  | _ => rfl

/-- Moving on opens no attempt that is not open already. -/
theorem Once.keeps_of_move (ho : Once s) (ht : s.tasks[i]? = some t)
    (htasks : s'.tasks = s.tasks.set i t') (henqueued : s'.enqueued = s.enqueued)
    (hopened : ∀ id n, t'.opened id n ≤ t.opened id n)
    (hrows : ∀ id d', s'.deliveries.get? id = some d' →
      ∃ d, s.deliveries.get? id = some d ∧ d'.attempts = d.attempts ∧
        (d.status = .sent → d'.status = .sent) ∧
        (d'.status = .sent → d.status = .sent ∨
          t'.opened id d.attempts < t.opened id d.attempts))
    (hretried : ∀ id n, s.Settled id n (s.retriesOf id) → s'.retriesOf id = s.retriesOf id) :
    Keeps s s' := by
  have hweigh (id : DeliveryId) (n : Nat) :
      weigh (Task.opened id n) s'.tasks + t.opened id n =
        weigh (Task.opened id n) s.tasks + t'.opened id n := by
    rw [htasks]
    exact weigh_set ht
  refine ⟨⟨fun id d' hd' n hn => ?_, fun id n => ?_, fun id d' hd' hsent => ?_⟩,
    fun id n r hs => ⟨henqueued ▸ hs.enqueued, fun d' hd' => ?_, ?_⟩⟩
  · obtain ⟨d, hd, hattempts, -⟩ := hrows id d' hd'
    have := ho.later id d hd n (hattempts ▸ hn)
    have := hweigh id n
    have := hopened id n
    omega
  · have := ho.once id n
    have := hweigh id n
    have := hopened id n
    omega
  · obtain ⟨d, hd, hattempts, -, hcloses⟩ := hrows id d' hd'
    have hw := hweigh id d.attempts
    have hle := hopened id d.attempts
    rw [hattempts]
    rcases hcloses hsent with hsent | hlt
    · have := ho.closed id d hd hsent
      omega
    · -- the attempt that closes is the only open one
      have := ho.once id d.attempts
      omega
  · obtain ⟨d, hd, hattempts, hkeeps, -⟩ := hrows id d' hd'
    obtain ⟨hsent, hn⟩ := hs.row d hd
    exact ⟨hkeeps hsent, hattempts.trans hn⟩
  · rw [hretried id n (hs.retries ▸ hs), hs.retries]

/-- A task moves on, and the tables stay. -/
theorem Once.keeps_goto (ho : Once s) (ht : s.tasks[i]? = some t)
    (hopened : ∀ id n, t'.opened id n ≤ t.opened id n) : Keeps s (s.goto i t') :=
  ho.keeps_of_move ht rfl rfl hopened (fun _ d' hd' => ⟨d', hd', rfl, fun h => h, .inl⟩)
    fun _ _ _ => rfl

/-- The row behind an update of a status. -/
theorem row_updateMany {selected : DeliveryId → Delivery → Bool} {status : Status}
    {id : DeliveryId} {d' : Delivery}
    (hd' : (s.updateMany selected fun d => { d with status := status }).deliveries.get? id =
      some d') :
    ∃ d, s.deliveries.get? id = some d ∧ d'.attempts = d.attempts ∧
      d'.status = if selected id d then status else d.status := by
  rw [get?_updateMany] at hd'
  obtain ⟨d, hd, rfl⟩ := Option.map_eq_some_iff.mp hd'
  refine ⟨d, hd, ?_⟩
  split <;> exact ⟨rfl, rfl⟩

/-- A task moves on with an update that asks for the status that it expects. -/
theorem Once.keeps_update (ho : Once s) (ht : s.tasks[i]? = some t)
    {selected : DeliveryId → Delivery → Bool} {status : Status}
    (hselected : ∀ id d, selected id d = true → d.status ≠ .sent) (hstatus : status ≠ .sent)
    (hopened : ∀ id n, t'.opened id n ≤ t.opened id n) :
    Keeps s ((s.updateMany selected fun d => { d with status := status }).goto i t') := by
  refine ho.keeps_of_move ht rfl rfl hopened (fun id d' hd' => ?_) fun _ _ _ => rfl
  obtain ⟨d, hd, hattempts, heq⟩ := row_updateMany hd'
  refine ⟨d, hd, hattempts, ?_⟩
  rw [heq]
  split
  · next hsel =>
    exact ⟨fun h => absurd h (hselected id d hsel), fun h => absurd h hstatus⟩
  · exact ⟨fun h => h, .inl⟩

/-- An attempt stores its outcome, which no later attempt has claimed. -/
theorem Once.keeps_store (ho : Once s) (ht : s.tasks[i]? = some t) {id : DeliveryId} {n : Nat}
    {status : Status} (hn : ∀ d, s.deliveries.get? id = some d → d.attempts = n)
    (hopen : t.opened id n = 1) (hclosed : ∀ id n, t'.opened id n = 0) :
    Keeps s ((s.setStatus id status).goto i t') := by
  refine ho.keeps_of_move ht rfl rfl (fun id n => hclosed id n ▸ Nat.zero_le _)
    (fun id' d' hd' => ?_) fun _ _ _ => rfl
  obtain ⟨d, hd, hattempts, heq⟩ := row_updateMany hd'
  refine ⟨d, hd, hattempts, ?_⟩
  rw [heq]
  split
  · next hid =>
    obtain rfl := eq_of_beq hid
    obtain rfl := hn d hd
    refine ⟨fun hsent => ?_, fun _ => .inr ?_⟩
    · -- the attempt would not be open
      have hzero := ho.closed id' d hd hsent
      have hle := le_weigh (f := Task.opened id' d.attempts) (List.mem_of_getElem? ht)
      omega
    · rw [hclosed, hopen]
      exact Nat.one_pos
  · exact ⟨fun h => h, .inl⟩

/-- A retry asks for an outcome that is not known. -/
theorem Once.keeps_retry (ho : Once s) {id : DeliveryId} {options : GlobalOptions}
    (ht : s.tasks[i]? = some (.retryWriting id options)) {d : Delivery}
    (hd : s.deliveries.get? id = some d) (hsent : d.status ≠ .sent) :
    Keeps s ({ s.setStatus id .pending with retried := s.retried ++ [id] }.goto i .done) := by
  refine ho.keeps_of_move ht rfl rfl (fun _ _ => le_refl _) (fun id' d' hd' => ?_)
    fun id' n hs => ?_
  · obtain ⟨d₀, hd₀, hattempts, heq⟩ := row_updateMany hd'
    refine ⟨d₀, hd₀, hattempts, ?_⟩
    rw [heq]
    split
    · next hid =>
      obtain rfl := eq_of_beq hid
      obtain rfl := Option.some.inj (hd.symm.trans hd₀)
      exact ⟨fun h => absurd h hsent, nofun⟩
    · exact ⟨fun h => h, .inl⟩
  · have hne : id ≠ id' := by
      rintro rfl
      exact hsent (hs.row d hd).1
    simp [State.retriesOf, State.goto, List.count_append, hne]

/-- A claim opens an attempt that has not been made yet. -/
theorem Once.keeps_claim (ho : Once s) {options : GlobalOptions} {job : Job} {jobs : List Job}
    (ht : s.tasks[i]? = some (.claiming options job jobs)) {d : Delivery}
    (hd : s.deliveries.get? job.id = some d) (hpending : d.status = .pending)
    (hopened : ∀ id n, t'.opened id n = if job.id = id ∧ d.attempts + 1 = n then 1 else 0) :
    Keeps s ((s.updateMany (fun id d => id == job.id && d.status = .pending)
      fun d => { d with status := .sending, attempts := d.attempts + 1 }).goto i t') := by
  have hweigh (id : DeliveryId) (n : Nat) :
      weigh (Task.opened id n) (s.tasks.set i t') =
        weigh (Task.opened id n) s.tasks + if job.id = id ∧ d.attempts + 1 = n then 1 else 0 := by
    rw [← hopened]
    exact weigh_set (f := Task.opened id n) (b := t') ht
  refine ⟨⟨fun id d' hd' n hn => ?_, fun id n => ?_, fun id d' hd' hsent => ?_⟩,
    fun id n r hs => ⟨hs.enqueued, fun d' hd' => ?_, hs.retries⟩⟩
  · change weigh (Task.opened id n) (s.tasks.set i t') = 0
    rw [hweigh]
    rcases rows_claim hd hpending hd' with ⟨rfl, rfl⟩ | ⟨hid, hd'⟩
    · change d.attempts + 1 < n at hn
      rw [ho.later job.id d hd n (by omega), if_neg (by omega)]
    · rw [ho.later id d' hd' n hn, if_neg fun h => hid h.1.symm]
  · change weigh (Task.opened id n) (s.tasks.set i t') ≤ 1
    rw [hweigh]
    split
    · next h =>
      obtain ⟨rfl, rfl⟩ := h
      rw [ho.later job.id d hd (d.attempts + 1) (Nat.lt_succ_self _)]
    · exact ho.once id n
  · change weigh (Task.opened id d'.attempts) (s.tasks.set i t') = 0
    rw [hweigh]
    rcases rows_claim hd hpending hd' with ⟨-, rfl⟩ | ⟨hid, hd'⟩
    · exact nomatch hsent
    · rw [ho.closed id d' hd' hsent, if_neg fun h => hid h.1.symm]
  · rcases rows_claim hd hpending hd' with ⟨rfl, -⟩ | ⟨-, hd'⟩
    · exact absurd (hpending.symm.trans (hs.row d hd).1) nofun
    · exact hs.row d' hd'

/-- A delivery that is enqueued has no attempt, and is none of those that were sent. -/
theorem Once.keeps_enqueue (hi : Inv host s) (ho : Once s) {id : DeliveryId} {eventKey : EventKey}
    {options : GlobalOptions} (ht : s.tasks[i]? = some (.enqueueWriting id eventKey options))
    (hfresh : s.enqueued.get? id = none) (fingerprint : Fingerprint) :
    Keeps s ({ s with
      deliveries := s.deliveries.set id ⟨eventKey, fingerprint, .pending, 0, s.now, s.now⟩
      enqueued := s.enqueued.set id fingerprint }.goto i .done) := by
  have hweigh (id' : DeliveryId) (n : Nat) :
      weigh (Task.opened id' n) (s.tasks.set i .done) = weigh (Task.opened id' n) s.tasks :=
    weigh_set_of_eq ht rfl
  have hrow {id' : DeliveryId} {d : Delivery} (hid : id ≠ id')
      (hd : (s.deliveries.set id
        ⟨eventKey, fingerprint, .pending, 0, s.now, s.now⟩).get? id' = some d) :
      s.deliveries.get? id' = some d := by
    rwa [Dict.get?_set_ne _ hid] at hd
  refine ⟨⟨fun id' d hd n hn => ?_, fun id' n => ?_, fun id' d hd hsent => ?_⟩,
    fun id' n r hs => ?_⟩
  · refine (hweigh id' n).trans ?_
    by_cases hid : id = id'
    · exact hi.unopened (hid ▸ hfresh) n
    · exact ho.later id' d (hrow hid hd) n hn
  · exact (hweigh id' n).trans_le (ho.once id' n)
  · refine (hweigh id' _).trans ?_
    by_cases hid : id = id'
    · exact hi.unopened (hid ▸ hfresh) _
    · exact ho.closed id' d (hrow hid hd) hsent
  · have hid : id ≠ id' := by
      rintro rfl
      exact hs.enqueued hfresh
    refine ⟨?_, fun d hd => hs.row d (hrow hid hd), hs.retries⟩
    change (s.enqueued.set id fingerprint).get? id' ≠ none
    rw [Dict.get?_set_ne _ hid]
    exact hs.enqueued

/-! ## 2. Every run -/

/-- The row that a current attempt stores its outcome in. -/
theorem attempts_of_current {deliveries : Dict DeliveryId Delivery} {id : DeliveryId} {n : Nat}
    (h : ((deliveries.get? id).all fun d => d.attempts = n) = true) :
    ∀ d, deliveries.get? id = some d → d.attempts = n := by
  intro d hd
  rw [hd] at h
  exact of_decide_eq_true h

theorem Once.keeps_advance (hi : Inv host s) (ho : Once s) (ht : s.tasks[i]? = some t)
    (hcurrent : t.storesCurrent s.deliveries = true) (h : advance host s i t = some s') :
    Keeps s s' := by
  cases t with
  | expiring =>
    obtain rfl := Option.some.inj h
    refine ho.keeps_update ht (fun _ d hexpired hsent => ?_) (by decide) fun _ _ => le_refl _
    simp [expired, hsent] at hexpired
  | readingOptions =>
    obtain rfl := Option.some.inj h
    exact ho.keeps_goto ht fun _ _ => le_refl _
  | retryReading _ | enqueueReading _ _ =>
    obtain rfl := Option.some.inj h
    refine ho.keeps_goto ht fun _ _ => ?_
    split <;> exact le_refl _
  | sweeping options =>
    obtain rfl := Option.some.inj h
    refine ho.keeps_update ht (fun _ d hstale hsent => ?_) (by decide) fun _ _ => ?_
    · simp [stale, hsent] at hstale
    · split <;> exact le_refl _
  | listing options =>
    obtain rfl := Option.some.inj h
    exact ho.keeps_goto ht fun id n => (opened_nextJob id n options _).le
  | claiming options job jobs =>
    simp only [advance] at h
    split at h
    · next d hd =>
      split at h
      · next hpending =>
        obtain rfl := Option.some.inj h
        exact ho.keeps_claim ht hd hpending fun id n => by split <;> rfl
      · obtain rfl := Option.some.inj h
        exact ho.keeps_goto ht fun id n => (opened_nextJob id n options jobs).le
    · obtain rfl := Option.some.inj h
      exact ho.keeps_goto ht fun id n => (opened_nextJob id n options jobs).le
  | cancelling options job n jobs | failing options job n jobs =>
    simp only [advance] at h
    split at h
    · obtain rfl := Option.some.inj h
      exact ho.keeps_store ht (attempts_of_current hcurrent) (if_pos ⟨rfl, rfl⟩)
        fun id n => opened_nextJob id n options jobs
    · obtain rfl := Option.some.inj h
      exact ho.keeps_goto ht fun _ _ => Nat.zero_le _
  | sending options job n jobs =>
    obtain rfl := Option.some.inj h
    exact ho.keeps_of_move ht rfl rfl (fun _ _ => le_refl _)
      (fun _ d' hd' => ⟨d', hd', rfl, fun h => h, .inl⟩) fun _ _ _ => rfl
  | confirming options job n jobs =>
    simp only [advance] at h
    split at h
    · obtain rfl := Option.some.inj h
      exact ho.keeps_store ht (attempts_of_current hcurrent) (if_pos ⟨rfl, rfl⟩)
        fun id n => opened_nextJob id n options jobs
    · obtain rfl := Option.some.inj h
      exact ho.keeps_goto ht fun _ _ => le_refl _
  | purging =>
    obtain rfl := Option.some.inj h
    refine ho.keeps_of_move ht rfl rfl (fun _ _ => le_refl _) (fun id d' hd' => ?_)
      fun _ _ _ => rfl
    change (s.deliveries.filter _).get? id = some d' at hd'
    rw [Dict.get?_filter] at hd'
    obtain ⟨hd, -⟩ := Option.filter_eq_some_iff.mp hd'
    exact ⟨d', hd, rfl, fun h => h, .inl⟩
  | retryWriting id options =>
    simp only [advance] at h
    split at h
    · next d hd =>
      split at h
      · next hunsettled =>
        obtain rfl := Option.some.inj h
        refine ho.keeps_retry ht hd fun hsent => ?_
        rcases hunsettled.1 with h | h <;> cases h.symm.trans hsent
      · obtain rfl := Option.some.inj h
        exact ho.keeps_goto ht fun _ _ => le_refl _
    · obtain rfl := Option.some.inj h
      exact ho.keeps_goto ht fun _ _ => le_refl _
  | enqueueWriting id eventKey options =>
    simp only [advance] at h
    split at h
    · cases h
    · next hfresh =>
      split at h
      · obtain rfl := Option.some.inj h
        exact ho.keeps_goto ht fun _ _ => le_refl _
      · obtain rfl := Option.some.inj h
        exact ho.keeps_enqueue hi ht (by simpa [Dict.contains] using hfresh) _
  | done => cases h

theorem Once.keeps_abort (ho : Once s) (ht : s.tasks[i]? = some t) {refused : Bool}
    (h : abort s i refused t = some s') : Keeps s s' := by
  cases t with
  | sending options job n jobs =>
    obtain rfl := Option.some.inj h
    cases refused with
    | true => exact ho.keeps_goto ht fun _ _ => le_refl _
    | false =>
      exact ho.keeps_of_move ht rfl rfl (fun _ _ => le_refl _)
        (fun _ d' hd' => ⟨d', hd', rfl, fun h => h, .inl⟩) fun _ _ _ => rfl
  | confirming options job n jobs =>
    obtain rfl := Option.some.inj h
    exact ho.keeps_goto ht fun _ _ => le_refl _
  | done => exact nomatch h
  | _ =>
    obtain rfl := Option.some.inj h
    exact ho.keeps_goto ht fun _ _ => Nat.zero_le _

theorem Once.keeps_spawn (ho : Once s) (hopened : ∀ id n, t.opened id n = 0) :
    Keeps s { s with tasks := s.tasks ++ [t] } := by
  have hweigh (id : DeliveryId) (n : Nat) :
      weigh (Task.opened id n) (s.tasks ++ [t]) = weigh (Task.opened id n) s.tasks := by
    rw [weigh_append_one, hopened, Nat.add_zero]
  refine ⟨⟨fun id d hd n hn => ?_, fun id n => ?_, fun id d hd hsent => ?_⟩,
    fun id n r hs => { hs with }⟩
  · exact (hweigh id n).trans (ho.later id d hd n hn)
  · exact (hweigh id n).trans_le (ho.once id n)
  · exact (hweigh id _).trans (ho.closed id d hd hsent)

/-- **Every event that stores no outcome late keeps what is sent.** -/
theorem Once.keeps_step (hi : Inv host s) (ho : Once s) {e : Event} (hcurrent : StoresCurrent s e)
    (h : step host s e = some s') : Keeps s s' := by
  cases e with
  | tick _ | setOptions _ =>
    obtain rfl := Option.some.inj h
    exact ⟨{ ho with }, fun _ _ _ hs => { hs with }⟩
  | drain | retry _ | enqueue _ _ =>
    obtain rfl := Option.some.inj h
    exact ho.keeps_spawn fun _ _ => rfl
  | step i outcome =>
    simp only [step] at h
    split at h
    · cases h
    · next t ht =>
      cases outcome with
      | works =>
        change s.tasks[i]?.all _ = true at hcurrent
        rw [ht] at hcurrent
        exact ho.keeps_advance hi ht hcurrent h
      | raises => exact ho.keeps_abort ht h
      | refuses => exact ho.keeps_abort ht h

/-- **A delivery that is sent stays sent.**  In a run in which no outcome is stored after a later
attempt has claimed the delivery, a delivery that is sent at some point is, from then on, sent or
deleted; it is neither claimed nor retried again. -/
theorem sent_terminal (host : Host) (options : Option GlobalOptions) (events₁ events₂ : List Event)
    {s₁ s₂ : State} {id : DeliveryId} {d₁ : Delivery}
    (hcurrent : (machine host).Conforms StoresCurrent (State.start options) (events₁ ++ events₂))
    (hrun₁ : (machine host).run (State.start options) events₁ = some s₁)
    (hrun₂ : (machine host).run s₁ events₂ = some s₂)
    (hd₁ : s₁.deliveries.get? id = some d₁) (hsent : d₁.status = .sent) :
    (∀ d₂, s₂.deliveries.get? id = some d₂ → d₂.status = .sent ∧ d₂.attempts = d₁.attempts) ∧
      s₂.retriesOf id = s₁.retriesOf id := by
  obtain ⟨hcurrent₁, hcurrent₂⟩ := Machine.conforms_append.mp hcurrent
  have hstep : ∀ s e s', Inv host s ∧ Once s → StoresCurrent s e → step host s e = some s' →
      Inv host s' ∧ Once s' := fun _ _ _ hs hok h =>
    ⟨hs.1.step h, (hs.2.keeps_step hs.1 hok h).once⟩
  obtain ⟨hi₁, ho₁⟩ := Machine.run_invariant_of_conforms hstep events₁
    ⟨inv_start host options, once_start options⟩ hcurrent₁ hrun₁
  have hsettled₁ : s₁.Settled id d₁.attempts (s₁.retriesOf id) := by
    refine ⟨?_, fun d hd => ?_, rfl⟩
    · rw [hi₁.rows id d₁ hd₁]
      exact Option.some_ne_none _
    · obtain rfl := Option.some.inj (hd₁.symm.trans hd)
      exact ⟨hsent, rfl⟩
  obtain ⟨-, -, hsettled₂⟩ := Machine.run_invariant_of_conforms
    (P := fun s => Inv host s ∧ Once s ∧ s.Settled id d₁.attempts (s₁.retriesOf id))
    (fun s e s' hs hok h => by
      obtain ⟨hi, ho, hsettled⟩ := hs
      have hkeeps := ho.keeps_step hi hok h
      exact ⟨hi.step h, hkeeps.once, hkeeps.settled id _ _ hsettled⟩)
    events₂ ⟨hi₁, ho₁, hsettled₁⟩ (hcurrent₂ s₁ hrun₁) hrun₂
  exact ⟨hsettled₂.row, hsettled₂.retries⟩

/-- A delivery is retried and sent; a retry after that is refused, and a worker finds nothing. -/
theorem sent_terminal_example : ∃ s₁ s₂ d₁,
    (machine exampleHost).run (State.start (some exampleOptions)) retriedRun = some s₁ ∧
    (machine exampleHost).run s₁ ([.retry 7] ++ moves 4 2 ++ [.drain] ++ moves 5 5) = some s₂ ∧
    s₁.deliveries.get? 7 = some d₁ ∧ d₁.status = .sent ∧
    (∀ d₂, s₂.deliveries.get? 7 = some d₂ → d₂.status = .sent ∧ d₂.attempts = d₁.attempts) ∧
      s₂.retriesOf 7 = s₁.retriesOf 7 := by
  have hrun : ((machine exampleHost).run (State.start (some exampleOptions)) retriedRun).bind
      (fun s₁ => ((machine exampleHost).run s₁
        ([.retry 7] ++ moves 4 2 ++ [.drain] ++ moves 5 5)).bind fun _ =>
          (s₁.deliveries.get? 7).map Delivery.status) = some .sent := by
    decide +kernel
  obtain ⟨s₁, hs₁, hrun⟩ := Option.bind_eq_some_iff.mp hrun
  obtain ⟨s₂, hs₂, hrun⟩ := Option.bind_eq_some_iff.mp hrun
  obtain ⟨d₁, hd₁, hsent⟩ := Option.map_eq_some_iff.mp hrun
  exact ⟨s₁, s₂, d₁, hs₁, hs₂, hd₁, hsent,
    sent_terminal exampleHost (some exampleOptions) _ _ (by decide +kernel) hs₁ hs₂ hd₁ hsent⟩

/-- A worker claims a delivery and is held up; two minutes later a second one sweeps the claim, an
administrator retries the delivery, and the second worker sends it. -/
def heldUp : List Event :=
  [Event.enqueue 7 "change:1"] ++ moves 0 2 ++ [Event.drain] ++ moves 1 5 ++
    [Event.tick 120001] ++ [Event.drain] ++ moves 2 3 ++ [Event.retry 7] ++ moves 3 2 ++ moves 2 4

/-- The request of the first worker fails. -/
def lateFailure : List Event := [.step 1 .raises, .step 1 .works]

/-- The administrator retries again, and a third worker sends. -/
def retriedAgain : List Event := [.retry 7] ++ moves 4 2 ++ [.drain] ++ moves 5 6

/-- The first worker stores that its outcome is unknown over what the second one has sent, and the
delivery is retried and sent again. -/
theorem late_outcome_overwrites_sent : ∃ s₁ s₂ s₃,
    (machine exampleHost).run (State.start (some exampleOptions)) heldUp = some s₁ ∧
    (machine exampleHost).run s₁ lateFailure = some s₂ ∧
    (machine exampleHost).run s₂ retriedAgain = some s₃ ∧
    (s₁.deliveries.get? 7).map Delivery.status = some .sent ∧
    (s₂.deliveries.get? 7).map Delivery.status = some .unknown ∧
    s₃.retriesOf 7 = s₁.retriesOf 7 + 1 ∧ s₃.sendsOf 7 = s₂.sendsOf 7 + 1 := by
  have hrun : ((machine exampleHost).run (State.start (some exampleOptions)) heldUp).bind
      (fun s₁ => ((machine exampleHost).run s₁ lateFailure).bind fun s₂ =>
        ((machine exampleHost).run s₂ retriedAgain).map fun s₃ =>
          ((s₁.deliveries.get? 7).map Delivery.status, (s₂.deliveries.get? 7).map Delivery.status,
            decide (s₃.retriesOf 7 = s₁.retriesOf 7 + 1),
            decide (s₃.sendsOf 7 = s₂.sendsOf 7 + 1))) =
        some (some .sent, some .unknown, true, true) := by
    decide +kernel
  obtain ⟨s₁, hs₁, hrun⟩ := Option.bind_eq_some_iff.mp hrun
  obtain ⟨s₂, hs₂, hrun⟩ := Option.bind_eq_some_iff.mp hrun
  obtain ⟨s₃, hs₃, heq⟩ := Option.map_eq_some_iff.mp hrun
  obtain ⟨hsent, hunknown, hretried, hsends⟩ : _ ∧ _ ∧ _ ∧ _ := by
    simpa only [Prod.mk.injEq, decide_eq_true_eq] using heq
  exact ⟨s₁, s₂, s₃, hs₁, hs₂, hs₃, hsent, hunknown, hretried, hsends⟩

end ZtPlanet.Ztnet.Outbox
