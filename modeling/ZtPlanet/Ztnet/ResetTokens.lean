/-
# Password reset links

`passwordResetLink` signs a token for a user and stores a record with its digest.
`changePasswordFromJwt` accepts a token in one transaction: it finds the user, deletes the record of
the token, which has to be there, writes the hash to `User` and to `Account`, deletes the sessions
of the user and stores a notification.

Here the requests are the clients of a table store, each with a transaction of its own, so that
every overlap of their statements is a run, and every statement and every commit may fail.
-/
import ZtPlanet.Ztnet.Credential
import ZtPlanet.Lib.Transactions

namespace ZtPlanet.Ztnet

open ZtPlanet.Lib

/-! ## 1. The tables -/

abbrev Digest : Type := Nat

/-- What a row is found by. -/
inductive RowKey where
  | user (id : UserId)
  /-- the account of the user with the provider `credential` -/
  | account (id : UserId)
  | session (id : Nat)
  /-- the fields of `Verification` that are unique together: the identifier
  `ztplanet-password-reset:${id}` and the value -/
  | verification (id : UserId) (value : Digest)
  | notificationDelivery (id : Nat)
deriving DecidableEq

inductive Row where
  | user (user : UserRow)
  | account (password : PasswordHash)
  | session (userId : UserId)
  | verification (expiresAt : Nat)
  | notificationDelivery
deriving DecidableEq

abbrev Tables : Type := Dict RowKey Row

def Row.asUser : Row → Option UserRow
  | .user row => some row
  | _ => none

def Row.asVerification : Row → Option Nat
  | .verification expiresAt => some expiresAt
  | _ => none

/-- `user.findFirst({ where: { id } })`. -/
def findUser (tables : Tables) (id : UserId) : Option UserRow :=
  (tables.get? (.user id)).bind Row.asUser

/-- `user.findFirst({ where: { email } })`. -/
def findUserByEmail (tables : Tables) (email : Email) : Option UserId :=
  tables.entries.findSome? fun entry =>
    match entry with
    | (.user id, .user user) => if user.email = email then some id else none
    | _ => none

/-- `Account.password` of the user. -/
def findPassword (tables : Tables) (id : UserId) : Option PasswordHash :=
  (tables.get? (.account id)).bind fun row =>
    match row with
    | .account password => some password
    | _ => none

/-- The session of the entry, where it is one of the user. -/
def sessionOf (userId : UserId) : RowKey × Row → Option Nat
  | (.session id, .session owner) => if owner = userId then some id else none
  | _ => none

/-- The sessions of the user. -/
def sessionsOf (tables : Tables) (userId : UserId) : List Nat :=
  tables.entries.filterMap (sessionOf userId)

theorem sessionOf_eq_some {userId : UserId} {entry : RowKey × Row} {id : Nat} :
    sessionOf userId entry = some id ↔ entry = (.session id, .session userId) := by
  constructor
  · intro h
    unfold sessionOf at h
    split at h
    · obtain ⟨rfl, hid⟩ := Option.ite_none_right_eq_some.mp h
      rw [Option.some.inj hid]
    · cases h
  · rintro rfl
    exact if_pos rfl

theorem mem_sessionsOf {tables : Tables} {userId : UserId} {id : Nat} :
    id ∈ sessionsOf tables userId ↔ tables.get? (.session id) = some (.session userId) := by
  rw [Dict.get?_eq_some_iff, sessionsOf, List.mem_filterMap]
  simp only [sessionOf_eq_some, exists_eq_right]

/-! ## 2. The two procedures -/

/-- The functions that are not modelled. -/
structure ResetHost where
  auth : AuthHost
  /-- what `jwt.verify` finds in a token whose signature is right, `none` where it is not or the
  payload has another shape -/
  payload : ResetToken → Option (UserId × Email)
  /-- the claim `exp` of a token -/
  expires : ResetToken → Nat
  /-- `createHash("sha256")` -/
  sha256 : ResetToken → Digest

/-- `jwt.verify(token, secret)`, where it does not throw. -/
def jwtVerify (host : ResetHost) (now : Nat) (token : ResetToken) : Option (UserId × Email) :=
  if now < host.expires token then host.payload token else none

/-- `resetTokenRecord`, without the time. -/
def resetTokenRecord (host : ResetHost) (token : ResetToken) (userId : UserId) : RowKey :=
  .verification userId (host.sha256 token)

/-- What a request for a new password works with behind its checks. -/
structure ResetJob where
  id : UserId
  token : ResetToken
  newHash : PasswordHash
deriving DecidableEq

def ResetJob.record (host : ResetHost) (job : ResetJob) : RowKey :=
  resetTokenRecord host job.token job.id

/-- The statement that the transaction of `changePasswordFromJwt` has come to. -/
inductive ResetPhase where
  | consume
  | updateUser
  | upsertAccount
  | deleteSessions
  | notify
  | commit
deriving DecidableEq

/-- How many statements have been made. -/
def ResetPhase.made : ResetPhase → Nat
  | .consume => 0
  | .updateUser => 1
  | .upsertAccount => 2
  | .deleteSessions => 3
  | .notify => 4
  | .commit => 5

inductive ResetPc where
  /-- `changePasswordFromJwt`, before its checks -/
  | waiting (input : ResetInput)
  | running (phase : ResetPhase) (job : ResetJob)
  /-- `{ success: true }` -/
  | succeeded (job : ResetJob)
  | failed (failure : Failure)
  /-- `passwordResetLink`, before it has stored the record -/
  | linkWaiting (email : Email)
  | linkCreated (id : UserId) (value : Digest)
  | linked (id : UserId) (value : Digest)
  /-- "Mail sent if email exist!", or it has failed -/
  | notLinked

/-- What a step depends on besides the tables. -/
structure ResetInputs where
  /-- `new Date()` -/
  now : Nat
  /-- what `jwt.sign` returns, with a `jwtid` of its own -/
  signed : ResetToken
  /-- the id of the delivery, `none` where this notification is switched off -/
  delivery : Option Nat

/-- What every failure behind the first checks becomes. -/
def tokenNotValid : Failure := .trpc .badRequest "token is not valid, please try again!"

/-- The checks of `changePasswordFromJwt`, down to the first statement of the transaction. -/
def checkReset (host : ResetHost) (input : ResetInput) (now : Nat) (seen : Tables) :
    Except Failure ResetJob :=
  if !passwordMeetsPolicy host.auth input.password ||
    !passwordMeetsPolicy host.auth input.newPassword
    then .error (.trpc .badRequest (passwordPolicyMessage host.auth))
  else
    match input.token with
    | none => .error (.trpc .badRequest "token is required!")
    | some token =>
      if input.password ≠ input.newPassword then
        .error (.trpc .badRequest "Passwords does not match!")
      else
        match jwtVerify host now token with
        | none => .error tokenNotValid
        | some (id, email) =>
          match findUser seen id with
          | none => .error tokenNotValid
          | some user =>
            if user.email ≠ email then .error tokenNotValid else .ok ⟨id, token, input.passwordHash⟩

/-- `data` of the update of the user. -/
def resetUser (user : UserRow) (newHash : PasswordHash) : UserRow :=
  { user with
    hash := some newHash
    requestChangePassword := false
    failedLoginAttempts := 0
    lastFailedLoginAttempt := none }

/-- `enqueueNotification` with a key of its own. -/
def enqueueDelivery (seen : Tables) (delivery : Option Nat) : Changes RowKey Row :=
  match delivery with
  | some id =>
    if seen.contains (.notificationDelivery id) then []
    else [(.notificationDelivery id, some .notificationDelivery)]
  | none => []

/-- The statements of the transaction. -/
def ResetJob.next (host : ResetHost) (job : ResetJob) (inputs : ResetInputs) (seen : Tables) :
    ResetPhase → Move ResetPc RowKey Row
  | .consume =>
    match (seen.get? (job.record host)).bind Row.asVerification with
    | some expiresAt =>
      if inputs.now < expiresAt then
        .statement [(job.record host, none)] (.running .updateUser job)
      else .rollback (.failed tokenNotValid)
    | none => .rollback (.failed tokenNotValid)
  | .updateUser =>
    match findUser seen job.id with
    | some user =>
      .statement [(.user job.id, some (.user (resetUser user job.newHash)))]
        (.running .upsertAccount job)
    | none => .rollback (.failed tokenNotValid)
  | .upsertAccount =>
    .statement [(.account job.id, some (.account job.newHash))] (.running .deleteSessions job)
  | .deleteSessions =>
    .statement ((sessionsOf seen job.id).map fun id => (.session id, none)) (.running .notify job)
  | .notify => .statement (enqueueDelivery seen inputs.delivery) (.running .commit job)
  | .commit => .commit (.succeeded job)

/-- `passwordResetLink`: one statement, which commits by itself. -/
def createLink (host : ResetHost) (email : Email) (inputs : ResetInputs) (seen : Tables) :
    Move ResetPc RowKey Row :=
  match findUserByEmail seen email with
  | none => .rollback .notLinked
  | some id =>
    let record := resetTokenRecord host inputs.signed id
    if seen.contains record then .rollback .notLinked
    else
      .statement [(record, some (.verification (inputs.now + 15 * 60 * 1000)))]
        (.linkCreated id (host.sha256 inputs.signed))

inductive ResetOp where
  | changePasswordFromJwt (input : ResetInput)
  | passwordResetLink (email : Email)

/-- The requests. -/
def resetProgram (host : ResetHost) : TxProgram ResetPc ResetInputs ResetOp RowKey Row where
  init
    | .changePasswordFromJwt input => .waiting input
    | .passwordResetLink email => .linkWaiting email
  next pc inputs seen :=
    match pc with
    | .waiting input =>
      match checkReset host input inputs.now seen with
      | .ok job => some (.statement [] (.running .consume job))
      | .error failure => some (.rollback (.failed failure))
    | .running phase job => some (job.next host inputs seen phase)
    | .linkWaiting email => some (createLink host email inputs seen)
    | .linkCreated id value => some (.commit (.linked id value))
    | .succeeded _ | .failed _ | .linked _ _ | .notLinked => none
  fail
    | .waiting _ | .running _ _ => some (.failed tokenNotValid)
    | .linkWaiting _ | .linkCreated _ _ => some .notLinked
    | .succeeded _ | .failed _ | .linked _ _ | .notLinked => none

/-! ## 3. What a request has changed

Every row that the transaction of a request changes is one of a few, and gets a value that depends
on the request alone; so a row that it has changed at all has that value. -/

/-- What the transaction of the request may do to a row. -/
def ResetJob.MayChange (host : ResetHost) (job : ResetJob) : RowKey × Option Row → Prop
  | (.user id, row) => id = job.id ∧ ∃ user, row = some (.user (resetUser user job.newHash))
  | (.account id, row) => id = job.id ∧ row = some (.account job.newHash)
  | (.session _, row) => row = none
  | (.verification id value, row) => .verification id value = job.record host ∧ row = none
  | (.notificationDelivery _, row) => row = some .notificationDelivery

/-- The rows that the statement of the phase has to change. -/
def ResetJob.Changes (host : ResetHost) (job : ResetJob) (committed : Tables) (k : RowKey) :
    ResetPhase → Prop
  | .consume => k = job.record host
  | .updateUser => k = .user job.id
  | .upsertAccount => k = .account job.id
  | .deleteSessions => ∃ id, k = .session id ∧ committed.get? k = some (.session job.id)
  | .notify | .commit => False

/-- The transaction of a request that has come to a phase. -/
structure Progress (host : ResetHost) (phase : ResetPhase) (job : ResetJob)
    (changes : Changes RowKey Row) (committed : Tables) : Prop where
  payload : ∃ email, host.payload job.token = some (job.id, email)
  only : ∀ change ∈ changes, job.MayChange host change
  made : ∀ earlier : ResetPhase, earlier.made < phase.made → ∀ k,
    job.Changes host committed k earlier → k ∈ changes.map Prod.fst
  present : phase ≠ .consume →
    ∃ expiresAt, committed.get? (job.record host) = some (.verification expiresAt)

/-- What is known of a request. -/
def Kept (host : ResetHost) : ResetPc → Changes RowKey Row → Tables → Prop
  | .running phase job, changes, committed => Progress host phase job changes committed
  | .linkCreated id value, changes, _ =>
    ∃ expiresAt, changes = [(.verification id value, some (.verification expiresAt))]
  | _, changes, _ => changes = []

section

variable {host : ResetHost} {phase phase' : ResetPhase} {job : ResetJob} {inputs : ResetInputs}
  {changes changes' : Changes RowKey Row} {committed seen : Tables} {pc pc' : ResetPc}

theorem ResetPhase.made_inj : phase.made = phase'.made → phase = phase' := by
  cases phase <;> cases phase' <;> simp [ResetPhase.made]

theorem asVerification_eq_some {k : RowKey} {expiresAt : Nat} :
    (seen.get? k).bind Row.asVerification = some expiresAt ↔
      seen.get? k = some (.verification expiresAt) := by
  rcases seen.get? k with _ | row
  · simp
  · cases row <;> simp [Row.asVerification]

theorem record_mayChange : job.MayChange host (job.record host, none) := ⟨rfl, rfl⟩

/-- A row that the request has changed has the value that it gives it. -/
theorem Progress.mayChange_of_at (h : Progress host phase job changes committed) {k : RowKey}
    {row : Option Row} (hat : Changes.at changes k = some row) : job.MayChange host (k, row) :=
  h.only _ (Changes.mem_of_at hat)

/-- What a statement of the transaction still has to show. -/
theorem Progress.advance (h : Progress host phase job changes committed)
    (hphase : phase'.made = phase.made + 1) (honly : ∀ change ∈ changes', job.MayChange host change)
    (hmade : ∀ k, job.Changes host committed k phase → k ∈ (changes' ++ changes).map Prod.fst)
    (hpresent : ∃ expiresAt, committed.get? (job.record host) = some (.verification expiresAt)) :
    Progress host phase' job (changes' ++ changes) committed where
  payload := h.payload
  only change hchange := by
    rcases List.mem_append.mp hchange with hchange | hchange
    · exact honly change hchange
    · exact h.only change hchange
  made earlier hearlier k hk := by
    rcases Nat.lt_or_ge earlier.made phase.made with hlt | hge
    · rw [List.map_append]
      exact List.mem_append_right _ (h.made earlier hlt k hk)
    · have heq : earlier = phase := ResetPhase.made_inj (by omega)
      exact hmade k (heq ▸ hk)
  present _ := hpresent

/-- A row that the transaction sees, and that it could only have deleted, is committed. -/
theorem Progress.committed_of_seen (h : Progress host phase job changes committed) {k : RowKey}
    {row : Row} (hdeletes : ∀ change, job.MayChange host (k, change) → change = none)
    (hseen : (committed.apply changes).get? k = some row) : committed.get? k = some row := by
  rw [Dict.get?_apply] at hseen
  cases hat : Changes.at changes k with
  | none => rwa [hat] at hseen
  | some change =>
    rw [hat, hdeletes change (h.mayChange_of_at hat)] at hseen
    cases hseen

theorem mayChange_of_mem_enqueueDelivery {delivery : Option Nat} {change : RowKey × Option Row}
    (h : change ∈ enqueueDelivery seen delivery) : job.MayChange host change := by
  unfold enqueueDelivery at h
  split at h
  · split at h
    · cases h
    · rw [List.mem_singleton.mp h]
      exact rfl
  · cases h

/-- **A statement of the transaction.** -/
theorem Progress.statement (h : Progress host phase job changes committed)
    (hnext : job.next host inputs (committed.apply changes) phase = .statement changes' pc') :
    ∃ phase', pc' = .running phase' job ∧
      Progress host phase' job (changes' ++ changes) committed := by
  cases phase with
  | consume =>
    rw [ResetJob.next] at hnext
    split at hnext
    · next expiresAt hrecord =>
      split at hnext
      · cases hnext
        refine ⟨_, rfl, h.advance rfl ?_ ?_ ⟨expiresAt, ?_⟩⟩
        · simpa using record_mayChange
        · rintro k rfl
          simp
        · exact h.committed_of_seen (fun _ hchange => hchange.2) (asVerification_eq_some.mp hrecord)
      · cases hnext
    · cases hnext
  | updateUser =>
    rw [ResetJob.next] at hnext
    split at hnext
    · next user _ =>
      cases hnext
      refine ⟨_, rfl, h.advance rfl ?_ ?_ (h.present (by simp))⟩
      · simpa using ⟨rfl, user, rfl⟩
      · rintro k rfl
        simp
    · cases hnext
  | upsertAccount =>
    cases hnext
    refine ⟨_, rfl, h.advance rfl ?_ ?_ (h.present (by simp))⟩
    · simpa using ⟨rfl, rfl⟩
    · rintro k rfl
      simp
  | deleteSessions =>
    cases hnext
    refine ⟨_, rfl, h.advance rfl ?_ ?_ (h.present (by simp))⟩
    · intro change hchange
      obtain ⟨id, -, rfl⟩ := List.mem_map.mp hchange
      exact rfl
    · rintro k ⟨id, rfl, hsession⟩
      rw [List.map_append]
      by_cases hk : RowKey.session id ∈ changes.map Prod.fst
      · exact List.mem_append_right _ hk
      · rw [← Dict.get?_apply_of_notMem hk] at hsession
        refine List.mem_append_left _ ?_
        simpa using mem_sessionsOf.mpr hsession
  | notify =>
    cases hnext
    exact ⟨_, rfl, h.advance rfl (fun _ => mayChange_of_mem_enqueueDelivery) (fun _ hk => hk.elim)
      (h.present (by simp))⟩
  | commit => cases hnext

/-- Nothing but the end of a session happens to a session. -/
theorem Kept.ends_sessions (h : Kept host pc changes committed) {id : Nat} {row : Option Row}
    (hat : Changes.at changes (.session id) = some row) : row = none := by
  have hmem := Changes.mem_of_at hat
  cases pc with
  | running phase job => exact (show Progress host phase job changes committed from h).only _ hmem
  | linkCreated _ _ =>
    obtain ⟨expiresAt, rfl⟩ := h
    simp at hmem
  | _ =>
    rw [show changes = [] from h] at hmem
    cases hmem

/-- Another transaction has committed. -/
theorem Progress.other (h : Progress host phase job changes committed)
    (hother : Kept host pc changes' committed) (hapart : Apart changes changes') :
    Progress host phase job changes (committed.apply changes') where
  payload := h.payload
  only := h.only
  made earlier hearlier k hk := by
    refine h.made earlier hearlier k ?_
    cases earlier with
    | deleteSessions =>
      obtain ⟨id, rfl, hsession⟩ := hk
      refine ⟨id, rfl, ?_⟩
      rw [Dict.get?_apply] at hsession
      cases hat : Changes.at changes' (.session id) with
      | none => rwa [hat] at hsession
      | some row =>
        rw [hat, hother.ends_sessions hat] at hsession
        cases hsession
    | _ => exact hk
  present hphase := by
    have hmem := h.made .consume (by cases phase <;> simp [ResetPhase.made] at hphase ⊢) _ rfl
    rw [Dict.get?_apply_of_notMem (hapart _ hmem)]
    exact h.present hphase

theorem checkReset_ok {input : ResetInput} {now : Nat}
    (h : checkReset host input now seen = .ok job) :
    ∃ email, host.payload job.token = some (job.id, email) := by
  unfold checkReset at h
  split at h
  · cases h
  split at h
  · cases h
  split at h
  · cases h
  split at h
  · cases h
  next id email hverify =>
    split at h
    · cases h
    split at h
    · cases h
    cases h
    exact ⟨email, (Option.ite_none_right_eq_some.mp hverify).2⟩

/-- **What commits.** -/
theorem next_commit (h : (resetProgram host).next pc inputs seen = some (.commit pc')) :
    (∃ job, pc = .running .commit job ∧ pc' = .succeeded job) ∨
      ∃ id value, pc = .linkCreated id value ∧ pc' = .linked id value := by
  cases pc with
  | waiting input =>
    simp only [resetProgram] at h
    split at h <;> cases h
  | running phase job =>
    cases phase with
    | commit =>
      cases h
      exact .inl ⟨job, rfl, rfl⟩
    | consume =>
      simp only [resetProgram, ResetJob.next] at h
      split at h
      · split at h <;> cases h
      · cases h
    | updateUser =>
      simp only [resetProgram, ResetJob.next] at h
      split at h <;> cases h
    | upsertAccount | deleteSessions | notify => cases h
  | linkWaiting email =>
    simp only [resetProgram, createLink] at h
    split at h
    · cases h
    · split at h <;> cases h
  | linkCreated id value =>
    cases h
    exact .inr ⟨id, value, rfl, rfl⟩
  | succeeded _ | failed _ | linked _ _ | notLinked => cases h

/-- **What a statement is.** -/
theorem next_statement (h : (resetProgram host).next pc inputs seen = some
    (.statement changes' pc')) :
    (∃ input job, pc = .waiting input ∧ changes' = [] ∧ pc' = .running .consume job ∧
      ∃ email, host.payload job.token = some (job.id, email)) ∨
    (∃ phase job, pc = .running phase job ∧
      job.next host inputs seen phase = .statement changes' pc') ∨
    ∃ email id value expiresAt, pc = .linkWaiting email ∧ pc' = .linkCreated id value ∧
      changes' = [(.verification id value, some (.verification expiresAt))] := by
  cases pc with
  | waiting input =>
    simp only [resetProgram] at h
    split at h
    · next job hjob =>
      cases h
      exact .inl ⟨input, job, rfl, rfl, rfl, checkReset_ok hjob⟩
    · cases h
  | running phase job => exact .inr (.inl ⟨phase, job, rfl, Option.some.inj h⟩)
  | linkWaiting email =>
    simp only [resetProgram, createLink] at h
    split at h
    · cases h
    · split at h
      · cases h
      · cases h
        exact .inr (.inr ⟨email, _, _, _, rfl, rfl, rfl⟩)
  | linkCreated _ _ | succeeded _ | failed _ | linked _ _ | notLinked => cases h

/-- **Where a request ends without a commit.** -/
theorem next_rollback (h : (resetProgram host).next pc inputs seen = some (.rollback pc')) :
    (∃ failure, pc' = .failed failure) ∨ pc' = .notLinked := by
  cases pc with
  | waiting input =>
    simp only [resetProgram] at h
    split at h
    · cases h
    · cases h
      exact .inl ⟨_, rfl⟩
  | running phase job =>
    simp only [resetProgram, Option.some.injEq] at h
    cases phase with
    | consume =>
      simp only [ResetJob.next] at h
      split at h
      · split at h
        · cases h
        · cases h
          exact .inl ⟨_, rfl⟩
      · cases h
        exact .inl ⟨_, rfl⟩
    | updateUser =>
      simp only [ResetJob.next] at h
      split at h
      · cases h
      · cases h
        exact .inl ⟨_, rfl⟩
    | upsertAccount | deleteSessions | notify | commit => cases h
  | linkWaiting email =>
    simp only [resetProgram, createLink] at h
    split at h
    · cases h
      exact .inr rfl
    · split at h
      · cases h
        exact .inr rfl
      · cases h
  | linkCreated _ _ | succeeded _ | failed _ | linked _ _ | notLinked => cases h

theorem fail_cases (h : (resetProgram host).fail pc = some pc') :
    (∃ failure, pc' = .failed failure) ∨ pc' = .notLinked := by
  cases pc with
  | waiting _ | running _ _ =>
    cases h
    exact .inl ⟨_, rfl⟩
  | linkWaiting _ | linkCreated _ _ =>
    cases h
    exact .inr rfl
  | succeeded _ | failed _ | linked _ _ | notLinked => cases h

/-- A request that has ended without a commit has nothing to show. -/
theorem kept_of_ended (h : (∃ failure, pc' = .failed failure) ∨ pc' = .notLinked) :
    Kept host pc' [] committed := by
  rcases h with ⟨failure, rfl⟩ | rfl
  · exact rfl
  · exact rfl

/-- **What is known of a request stays true.** -/
theorem kept_keeps (host : ResetHost) : TxKeeps (resetProgram host) (Kept host) where
  init op _ := by cases op <;> exact rfl
  statement pc cs d inputs cs' pc' h hnext := by
    rcases next_statement hnext with ⟨input, job, rfl, rfl, rfl, hpayload⟩ |
      ⟨phase, job, rfl, hstatement⟩ | ⟨email, id, value, expiresAt, rfl, rfl, rfl⟩
    · obtain rfl : cs = [] := h
      exact
        { payload := hpayload
          only := by simp
          made := fun earlier hearlier => absurd hearlier (Nat.not_lt_zero _)
          present := fun hphase => absurd rfl hphase }
    · obtain ⟨phase', rfl, hprogress⟩ :=
        Progress.statement (show Progress host phase job cs d from h) hstatement
      exact hprogress
    · obtain rfl : cs = [] := h
      exact ⟨expiresAt, rfl⟩
  commit pc cs d inputs pc' _ hnext := by
    rcases next_commit hnext with ⟨job, -, rfl⟩ | ⟨id, value, -, rfl⟩
    · exact rfl
    · exact rfl
  rollback pc cs d inputs pc' _ hnext := kept_of_ended (next_rollback hnext)
  fail pc cs d pc' _ hfail := kept_of_ended (fail_cases hfail)
  other pc cs d pc₂ cs₂ inputs pc' h hother hapart _ := by
    cases pc with
    | running phase job => exact Progress.other h hother hapart
    | _ => exact h

end

/-! ## 4. A reset takes effect at once, and once -/

/-- All that a reset does to the tables, where the token could be used before. -/
structure Completed (host : ResetHost) (job : ResetJob) (before after : Tables) : Prop where
  unused : ∃ expiresAt, before.get? (job.record host) = some (.verification expiresAt)
  consumed : after.get? (job.record host) = none
  hash : ∃ user, findUser after job.id = some user ∧ user.hash = some job.newHash
  account : findPassword after job.id = some job.newHash
  sessions : sessionsOf after job.id = []

section

variable {host : ResetHost} {job : ResetJob} {changes : Changes RowKey Row} {committed : Tables}
  {w w' : TxState ResetPc RowKey Row} {event : TxEvent ResetOp ResetInputs}

/-- A row that the transaction has changed, as it is behind the commit. -/
theorem Progress.get?_apply {phase : ResetPhase} (h : Progress host phase job changes committed)
    {k : RowKey} (hk : k ∈ changes.map Prod.fst) :
    job.MayChange host (k, (committed.apply changes).get? k) := by
  cases hat : Changes.at changes k with
  | none => exact absurd hk (Changes.at_eq_none.mp hat)
  | some row =>
    rw [Dict.get?_apply_of_at hat]
    exact h.mayChange_of_at hat

/-- **The commit of a reset.** -/
theorem Progress.completed (h : Progress host .commit job changes committed) :
    Completed host job committed (committed.apply changes) where
  unused := h.present (by simp)
  consumed := (h.get?_apply (h.made .consume (by decide) _ rfl)).2
  hash := by
    obtain ⟨-, user, huser⟩ := h.get?_apply (h.made .updateUser (by decide) _ rfl)
    exact ⟨resetUser user job.newHash, by rw [findUser, huser]; rfl, rfl⟩
  account := by
    obtain ⟨-, haccount⟩ := h.get?_apply (h.made .upsertAccount (by decide) _ rfl)
    rw [findPassword, haccount]
    rfl
  sessions := by
    refine List.eq_nil_iff_forall_not_mem.mpr fun id hid => ?_
    have hsession := mem_sessionsOf.mp hid
    have hcommitted : committed.get? (.session id) = some (.session job.id) :=
      h.committed_of_seen (fun _ hdelete => hdelete) hsession
    have hmem := h.made .deleteSessions (by decide) (.session id) ⟨id, rfl, hcommitted⟩
    have hdeleted : (committed.apply changes).get? (.session id) = none := h.get?_apply hmem
    rw [hdeleted] at hsession
    cases hsession

end

/-! ### How often a token is good -/

/-- The record of a token. -/
def recordOf (host : ResetHost) (token : ResetToken) : Option RowKey :=
  (host.payload token).map fun payload => resetTokenRecord host token payload.1

def ResetPc.succeededWith (token : ResetToken) : ResetPc → Nat
  | .succeeded job => if job.token = token then 1 else 0
  | _ => 0

/-- A link has been stored under the record. -/
def ResetPc.linkedTo (record : Option RowKey) : ResetPc → Nat
  | .linked id value => if record = some (.verification id value) then 1 else 0
  | _ => 0

/-- The record is there. -/
def stored (tables : Tables) (record : Option RowKey) : Nat :=
  if record.any fun k => tables.contains k then 1 else 0

/-- The requests that have succeeded with the token. -/
def successes (w : TxState ResetPc RowKey Row) (token : ResetToken) : Nat :=
  weigh (fun client => client.pc.succeededWith token) w.clients

/-- The links that have been stored under the record. -/
def links (w : TxState ResetPc RowKey Row) (record : Option RowKey) : Nat :=
  weigh (fun client => client.pc.linkedTo record) w.clients

/-- The request has neither used the token nor stored the record. -/
def Uncounted (token : ResetToken) (record : Option RowKey) (pc : ResetPc) : Prop :=
  pc.succeededWith token = 0 ∧ pc.linkedTo record = 0

/-- The issues of a token that have been used, and the one that can be. -/
def Ledger (host : ResetHost) (db : Tables) (token : ResetToken)
    (w : TxState ResetPc RowKey Row) : Prop :=
  successes w token + stored w.committed (recordOf host token) ≤
    stored db (recordOf host token) + links w (recordOf host token)

section

variable {host : ResetHost} {job : ResetJob} {changes : Changes RowKey Row} {committed db : Tables}
  {w w' : TxState ResetPc RowKey Row} {event : TxEvent ResetOp ResetInputs} {token : ResetToken}
  {record : Option RowKey} {client client' : Client ResetPc RowKey Row} {i : Nat}

theorem stored_le_one : stored committed record ≤ 1 := by
  unfold stored
  split <;> omega

theorem stored_some {k : RowKey} :
    stored committed (some k) = if committed.contains k then 1 else 0 := rfl

/-- A transaction that stores no record leaves none behind that was not there. -/
theorem stored_apply_le (h : ∀ k, record = some k → ∀ row, Changes.at changes k = some row →
    row = none) : stored (committed.apply changes) record ≤ stored committed record := by
  cases record with
  | none => exact Nat.le_refl _
  | some k =>
    rw [stored_some, stored_some, Dict.contains, Dict.contains, Dict.get?_apply]
    cases hat : Changes.at changes k with
    | none => exact Nat.le_refl _
    | some row =>
      rw [h k rfl row hat]
      simp

/-- A client has moved that had not been counted before. -/
theorem ledger_set (h : Ledger host db token w) (hclient : w.clients[i]? = some client)
    (hold : Uncounted token (recordOf host token) client.pc) {d : Tables}
    (hmove : client'.pc.succeededWith token + stored d (recordOf host token) ≤
      stored w.committed (recordOf host token) + client'.pc.linkedTo (recordOf host token)) :
    Ledger host db token ⟨d, w.clients.set i client'⟩ := by
  have hsuccesses : successes ⟨d, w.clients.set i client'⟩ token + client.pc.succeededWith token =
      successes w token + client'.pc.succeededWith token := weigh_set hclient
  have hlinks : links ⟨d, w.clients.set i client'⟩ (recordOf host token) +
      client.pc.linkedTo (recordOf host token) =
      links w (recordOf host token) + client'.pc.linkedTo (recordOf host token) := weigh_set hclient
  obtain ⟨hold₁, hold₂⟩ := hold
  unfold Ledger at h ⊢
  dsimp only
  omega

/-- A client has moved that is not counted yet. -/
theorem ledger_set_uncounted (h : Ledger host db token w) (hclient : w.clients[i]? = some client)
    (hold : Uncounted token (recordOf host token) client.pc)
    (hnew : Uncounted token (recordOf host token) client'.pc) :
    Ledger host db token { w with clients := w.clients.set i client' } := by
  refine ledger_set h hclient hold ?_
  rw [hnew.1, hnew.2]
  omega

/-- A client that has not ended has not been counted. -/
theorem uncounted_of_next {pc : ResetPc} {inputs : ResetInputs} {seen : Tables}
    {move : Move ResetPc RowKey Row} (h : (resetProgram host).next pc inputs seen = some move) :
    Uncounted token record pc := by
  cases pc with
  | succeeded _ | linked _ _ => cases h
  | _ => exact ⟨rfl, rfl⟩

theorem uncounted_of_fail {pc pc' : ResetPc} (h : (resetProgram host).fail pc = some pc') :
    Uncounted token record pc := by
  cases pc with
  | succeeded _ | linked _ _ => cases h
  | _ => exact ⟨rfl, rfl⟩

theorem uncounted_of_ended {pc' : ResetPc}
    (h : (∃ failure, pc' = .failed failure) ∨ pc' = .notLinked) :
    Uncounted token record pc' := by
  rcases h with ⟨failure, rfl⟩ | rfl
  · exact ⟨rfl, rfl⟩
  · exact ⟨rfl, rfl⟩

theorem uncounted_of_statement {pc pc' : ResetPc} {cs cs' : Changes RowKey Row}
    {inputs : ResetInputs} (h : Kept host pc cs committed)
    (hnext : (resetProgram host).next pc inputs (committed.apply cs) = some (.statement cs' pc')) :
    Uncounted token record pc' := by
  rcases next_statement hnext with ⟨input, job, rfl, rfl, rfl, -⟩ | ⟨phase, job, rfl, hstatement⟩ |
    ⟨email, id, value, expiresAt, rfl, rfl, rfl⟩
  · exact ⟨rfl, rfl⟩
  · obtain ⟨phase', rfl, -⟩ :=
      Progress.statement (show Progress host phase job cs committed from h) hstatement
    exact ⟨rfl, rfl⟩
  · exact ⟨rfl, rfl⟩

theorem recordOf_of_payload {email : Email} (h : host.payload job.token = some (job.id, email)) :
    recordOf host job.token = some (job.record host) := by
  rw [recordOf, h]
  rfl

/-- A reset leaves the records alone, but for its own. -/
theorem Progress.stored_le {phase : ResetPhase} (h : Progress host phase job changes committed) :
    stored (committed.apply changes) (recordOf host token) ≤
      stored committed (recordOf host token) := by
  refine stored_apply_le fun k hk row hat => ?_
  obtain ⟨payload, -, rfl⟩ := Option.map_eq_some_iff.mp hk
  exact (h.mayChange_of_at hat).2

/-- A reset uses its record up. -/
theorem Progress.stored_lt (h : Progress host .commit job changes committed) :
    stored (committed.apply changes) (recordOf host job.token) + 1 ≤
      stored committed (recordOf host job.token) := by
  obtain ⟨email, hpayload⟩ := h.payload
  obtain ⟨expiresAt, hunused⟩ := h.completed.unused
  rw [recordOf_of_payload hpayload, stored_some, stored_some, Dict.contains, Dict.contains,
    h.completed.consumed, hunused]
  simp

/-- A commit changes the records of a token as it is counted. -/
theorem stored_commit {pc pc' : ResetPc} {cs : Changes RowKey Row} {inputs : ResetInputs}
    {seen : Tables} (h : Kept host pc cs committed)
    (hnext : (resetProgram host).next pc inputs seen = some (.commit pc')) :
    pc'.succeededWith token + stored (committed.apply cs) (recordOf host token) ≤
      stored committed (recordOf host token) + pc'.linkedTo (recordOf host token) := by
  rcases next_commit hnext with ⟨job, rfl, rfl⟩ | ⟨id, value, rfl, rfl⟩
  · have hprogress : Progress host .commit job cs committed := h
    by_cases htoken : job.token = token
    · subst htoken
      have := hprogress.stored_lt
      simp only [ResetPc.succeededWith, ResetPc.linkedTo, if_true]
      omega
    · have := @Progress.stored_le host job cs committed token _ hprogress
      simp only [ResetPc.succeededWith, ResetPc.linkedTo, if_neg htoken]
      omega
  · obtain ⟨expiresAt, rfl⟩ := h
    by_cases hrecord : recordOf host token = some (.verification id value)
    · have := @stored_le_one (committed.apply
        [(.verification id value, some (.verification expiresAt))]) (recordOf host token)
      simp only [ResetPc.succeededWith, ResetPc.linkedTo, if_pos hrecord]
      omega
    · have := @stored_apply_le [(.verification id value, some (.verification expiresAt))] committed
        (recordOf host token) fun k hk row hat => by
          have hmem := List.mem_singleton.mp (Changes.mem_of_at hat)
          rw [(Prod.mk.inj hmem).1] at hk
          exact absurd hk hrecord
      simp only [ResetPc.succeededWith, ResetPc.linkedTo, if_neg hrecord]
      omega

/-- **The ledger is kept.** -/
theorem ledger_step (hkept : TxInvariant (Kept host) w) (h : Ledger host db token w)
    (hstep : (txMachine (resetProgram host)).step w event = some w') : Ledger host db token w' := by
  rcases tx_step_cases hstep with ⟨op, rfl, rfl⟩ |
    ⟨i, inputs, client, changes, pc, rfl, hclient, hnext, -, rfl⟩ |
    ⟨i, inputs, client, pc, rfl, hclient, hnext, rfl⟩ | ⟨i, client, pc, hclient, hends, rfl⟩
  · have hpc : Uncounted token (recordOf host token) ((resetProgram host).init op) := by
      cases op <;> exact ⟨rfl, rfl⟩
    simpa [Ledger, successes, links, hpc.1, hpc.2] using h
  · have hown := hkept.client client (List.mem_of_getElem? hclient)
    exact ledger_set_uncounted h hclient (uncounted_of_next hnext)
      (uncounted_of_statement hown hnext)
  · have hown := hkept.client client (List.mem_of_getElem? hclient)
    exact ledger_set h hclient (uncounted_of_next hnext) (stored_commit hown hnext)
  · rcases hends with ⟨inputs, -, hnext⟩ | ⟨-, hfail⟩
    · exact ledger_set_uncounted h hclient (uncounted_of_next hnext)
        (uncounted_of_ended (next_rollback hnext))
    · exact ledger_set_uncounted h hclient (uncounted_of_fail hfail)
        (uncounted_of_ended (fail_cases hfail))

end

/-! ## 5. Runs -/

/-- `changePasswordFromJwt`, which has not ended. -/
def ResetPc.Resetting : ResetPc → Prop
  | .waiting _ | .running _ _ => True
  | _ => False

/-- A step that makes a request succeed does all of it; a step of a request that does not make it
succeed does nothing to the tables. -/
structure AtOnce (host : ResetHost) (event : TxEvent ResetOp ResetInputs)
    (w w' : TxState ResetPc RowKey Row) : Prop where
  succeeds : ∀ i job, w'.pcAt i = some (.succeeded job) →
    w.pcAt i = some (.succeeded job) ∨ Completed host job w.committed w'.committed
  otherwise : ∀ i pc, event.client? = some i → w.pcAt i = some pc → pc.Resetting →
    (∀ job, w'.pcAt i ≠ some (.succeeded job)) → w'.committed = w.committed

section

variable {host : ResetHost} {w w' : TxState ResetPc RowKey Row}
  {event : TxEvent ResetOp ResetInputs}

theorem Uncounted.ne_succeeded {job : ResetJob} {record : Option RowKey} {pc : ResetPc}
    (h : Uncounted job.token record pc) : ResetPc.succeeded job ≠ pc := by
  rintro rfl
  have hcounted := h.1
  simp [ResetPc.succeededWith] at hcounted

/-- **A step.** -/
theorem atOnce_step (hkept : TxInvariant (Kept host) w)
    (hstep : (txMachine (resetProgram host)).step w event = some w') : AtOnce host event w w' := by
  rcases tx_step_cases hstep with ⟨op, rfl, rfl⟩ |
    ⟨i, inputs, client, changes, pc, rfl, hclient, hnext, -, rfl⟩ |
    ⟨i, inputs, client, pc, rfl, hclient, hnext, rfl⟩ | ⟨i, client, pc, hclient, hends, rfl⟩
  · refine ⟨fun i job hi => .inl ?_, fun _ _ _ _ _ _ => rfl⟩
    rcases pcAt_append hi w.committed with hinit | hi
    · cases op <;> cases hinit
    · exact hi
  · have hown := hkept.client client (List.mem_of_getElem? hclient)
    refine ⟨fun i job hi => .inl ?_, fun _ _ _ _ _ _ => rfl⟩
    rcases pcAt_set hi w.committed with hnew | hi
    · exact absurd hnew (@uncounted_of_statement host _ job.token none _ _ _ _ _ hown
        hnext).ne_succeeded
    · exact hi
  · have hown := hkept.client client (List.mem_of_getElem? hclient)
    constructor
    · intro j job hj
      rcases pcAt_set hj w.committed with rfl | hj
      · rcases next_commit hnext with ⟨_, hpc, hjob⟩ | ⟨_, _, -, hjob⟩
        · cases hjob
          rw [hpc] at hown
          exact .inr (Progress.completed hown)
        · cases hjob
      · exact .inl hj
    · intro j pc' hj hpc' hresetting hnot
      obtain rfl : i = j := Option.some.inj hj
      rcases next_commit hnext with ⟨job, -, rfl⟩ | ⟨id, value, hpc, -⟩
      · exact absurd (pcAt_set_self hclient) (hnot job)
      · rw [TxState.pcAt, hclient, Option.map_some, hpc] at hpc'
        obtain rfl := Option.some.inj hpc'
        exact hresetting.elim
  · refine ⟨fun i job hi => .inl ?_, fun _ _ _ _ _ _ => rfl⟩
    rcases pcAt_set hi w.committed with hnew | hi
    · have hended : (∃ failure, pc = .failed failure) ∨ pc = .notLinked := by
        rcases hends with ⟨inputs, -, hnext⟩ | ⟨-, hfail⟩
        · exact next_rollback hnext
        · exact fail_cases hfail
      exact absurd hnew (@uncounted_of_ended job.token none _ hended).ne_succeeded
    · exact hi

/-- **Reset tokens are single use, and a reset takes effect at once.**  After every run, the
requests that have succeeded with a token are no more than its issues: the record that was there,
and the links that were stored with its record since.  And the next step, whatever it is, either
does all of a reset, the token consumed, both hashes written and the sessions gone, or it is no
success and leaves the tables as they were. -/
theorem reset_tokens_single_use (host : ResetHost) (db : Tables)
    (events : List (TxEvent ResetOp ResetInputs)) {w : TxState ResetPc RowKey Row}
    (hrun : (txMachine (resetProgram host)).run ⟨db, []⟩ events = some w) :
    (∀ token, successes w token ≤
      stored db (recordOf host token) + links w (recordOf host token)) ∧
    ∀ event w', (txMachine (resetProgram host)).step w event = some w' →
      AtOnce host event w w' := by
  obtain ⟨hkept, hledger⟩ := tx_invariant_run (kept_keeps host)
    (P := fun w => ∀ token, Ledger host db token w)
    (fun w event w' hkept h hstep token => ledger_step hkept (h token) hstep)
    (fun token => by simp [Ledger, successes, links]) hrun
  exact ⟨fun token => le_trans (Nat.le_add_right _ _) (hledger token),
    fun event w' hstep => atOnce_step hkept hstep⟩

end

/-- Tokens are signed for the user 1 with the address 10, and are their own digests. -/
def exampleResetHost : ResetHost where
  auth :=
    { compare := fun _ _ => false
      decrypt := fun _ => none
      checkTotp := fun _ _ _ => false
      decodeResetToken := fun _ => some (1, 10)
      oauthExclusiveLogin := false
      hasEncryptionKey := true
      maxFailedAttempts := 5
      cooldownPeriod := 900000
      minLength := 6
      minClasses := 1 }
  payload _ := some (1, 10)
  expires _ := 900000
  sha256 token := token

/-- The user, with a session and the record of the token 7. -/
def exampleTables : Tables :=
  [(RowKey.user 1, Row.user ⟨10, "name", some 3, false, false, none, 0, none⟩),
    (.account 1, .account 3), (.session 2, .session 1),
    (.verification 1 7, .verification 900000)].foldl
    (fun tables entry => tables.set entry.1 entry.2) Dict.empty

/-- A request with the token 7. -/
def resetWithSeven (hash : PasswordHash) : ResetOp :=
  .changePasswordFromJwt ⟨some 7, "secret", "secret", hash⟩

/-- Two requests with one token, which have both made their checks before one deletes the record. -/
def resetRace : List (TxEvent ResetOp ResetInputs) :=
  [.start (resetWithSeven 4), .start (resetWithSeven 5)] ++
    [0, 1, 0, 0, 0, 0, 0, 0, 1].map fun i => .step i ⟨1, 0, none⟩

theorem reset_tokens_single_use_race :
    ∃ w, (txMachine (resetProgram exampleResetHost)).run ⟨exampleTables, []⟩ resetRace = some w ∧
      successes w 7 = 1 ∧ successes w 7 ≤ stored exampleTables (recordOf exampleResetHost 7) +
        links w (recordOf exampleResetHost 7) := by
  refine Machine.exists_run (P := fun w => successes w 7 = 1) (by decide +kernel)
    fun w hw hone => ⟨hone, ?_⟩
  exact (reset_tokens_single_use exampleResetHost _ _ hw).1 7

end ZtPlanet.Ztnet
