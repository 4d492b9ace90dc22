/-
# The first administrator

Two ways lead to a new account, and each has a rule that makes the first one an administrator.
`register` counts the users in its transaction, behind an advisory lock, makes the account an
administrator where there is none, and then closes open registration.  An account that OAuth has
created is committed as a user; `onUserCreateAfter` looks for an administrator in a transaction of
its own, behind another lock, and promotes the account where it finds none.  It does not close
registration, and the two locks do not exclude each other.

An advisory lock is a row here that nobody reads and that a transaction holds once it has changed
it.  What a request is refused for without the tables, its address, its password or the rate limit,
is a failure, and those can happen at any time.
-/
import ZtPlanet.Ztnet.Backend
import ZtPlanet.Lib.Transactions

namespace ZtPlanet.Ztnet.Bootstrap

open ZtPlanet.Lib

/-! ## 1. The tables -/

inductive Role where
  | readOnly
  | user
  | moderator
  | admin
deriving DecidableEq

/-- `Invitation`. -/
structure InvitationRow where
  role : Role
  used : Bool
  timesUsed : Nat
  timesCanUse : Nat
  expiresAt : Nat
deriving DecidableEq

/-- What a row is found by. -/
inductive RowKey where
  | user (id : UserId)
  | globalOptions
  /-- the invitation with the token -/
  | invitation (token : Nat)
  /-- `pg_advisory_xact_lock` -/
  | lock (key : Nat)
deriving DecidableEq

inductive Row where
  | user (role : Role)
  | globalOptions (enableRegistration : Bool)
  | invitation (invitation : InvitationRow)
deriving DecidableEq

abbrev Tables : Type := Dict RowKey Row

def RowKey.isUser : RowKey → Bool
  | .user _ => true
  | _ => false

def Row.asInvitation : Row → Option InvitationRow
  | .invitation row => some row
  | _ => none

/-- `user.count()`. -/
def userCount (tables : Tables) : Nat := tables.keys.countP RowKey.isUser

/-- `user.findFirst({ where: { role: "ADMIN" } })` finds one. -/
def existingAdmin (tables : Tables) : Bool :=
  tables.entries.any fun entry => entry.1.isUser && entry.2 = .user .admin

/-- `settings?.enableRegistration`. -/
def enableRegistration (tables : Tables) : Bool :=
  tables.get? .globalOptions = some (.globalOptions true)

def findInvitation (tables : Tables) (token : Nat) : Option InvitationRow :=
  (tables.get? (.invitation token)).bind Row.asInvitation

/-! ## 2. The two ways to a new account -/

structure BootstrapHost where
  /-- `isOAuthAllowNewUsers()` -/
  oauthAllowNewUsers : Bool
  /-- `isOAuthExclusiveLogin()` -/
  oauthExclusiveLogin : Bool

/-- The input of `register`, with the id that the new row gets. -/
structure RegisterInput where
  id : UserId
  invitationToken : Option Nat
  organizationToken : Option Nat

/-- What the transaction of `register` works with. -/
structure RegisterJob where
  id : UserId
  /-- the invitation, as it was read before the transaction -/
  invitation : Option (Nat × InvitationRow)
  organization : Option Nat

/-- The statement that the transaction of `register` has come to; `first` where it has counted no
user. -/
inductive RegisterPhase where
  | lock
  | settings
  | consumeInvitation
  | consumeOrganization
  | count
  | create (first : Bool)
  | close (first : Bool)
  | commit (first : Bool)
deriving DecidableEq

inductive BootstrapPc where
  /-- `register`, before its transaction -/
  | waiting (input : RegisterInput)
  | registering (phase : RegisterPhase) (job : RegisterJob)
  | registered (first : Bool) (job : RegisterJob)
  /-- the callback of OAuth, before `onUserCreateBefore` -/
  | oauthWaiting (id : UserId)
  | oauthCreating (id : UserId)
  | oauthCreated (id : UserId)
  /-- `onUserCreateAfter`, before its lock -/
  | oauthCommitted (id : UserId)
  | oauthLocked (id : UserId)
  /-- no administrator has been found -/
  | promoting (id : UserId)
  | promoted (first : Bool) (id : UserId)
  | oauthRegistered (first : Bool) (id : UserId)
  | failed

/-- The invitation can be used. -/
def InvitationRow.usable (row : InvitationRow) (now : Nat) : Bool :=
  now < row.expiresAt && !row.used && row.timesUsed < row.timesCanUse

/-- The checks of `register` before its transaction. -/
def checkRegister (input : RegisterInput) (now : Nat) (seen : Tables) : Option RegisterJob :=
  if input.organizationToken.any fun token => (findInvitation seen token).isNone then none
  else
    match input.invitationToken with
    | none =>
      if enableRegistration seen || input.organizationToken.isSome then
        some ⟨input.id, none, input.organizationToken⟩
      else none
    | some token =>
      match findInvitation seen token with
      | none => none
      | some row =>
        if row.usable now then some ⟨input.id, some (token, row), input.organizationToken⟩ else none

/-- The invitation is used once more. -/
def consumeInvitation (job : RegisterJob) (now : Nat) (seen : Tables) :
    Option (Changes RowKey Row) :=
  match job.invitation with
  | none => some []
  | some (token, read) =>
    match findInvitation seen token with
    | none => none
    | some row =>
      if !row.used && row.timesUsed == read.timesUsed && now < row.expiresAt then
        some [(.invitation token, some (.invitation { row with
          used := read.timesCanUse ≤ read.timesUsed + 1
          timesUsed := row.timesUsed + 1 }))]
      else none

/-- The invitation to the organization is deleted. -/
def consumeOrganization (job : RegisterJob) (seen : Tables) : Option (Changes RowKey Row) :=
  match job.organization with
  | none => some []
  | some token =>
    if (findInvitation seen token).isSome then some [(.invitation token, none)] else none

/-- `role` of the new row. -/
def RegisterJob.role (job : RegisterJob) (first : Bool) : Role :=
  if first then .admin else (job.invitation.map fun invitation => invitation.2.role).getD .user

/-- The changes of a statement, which fails where there are none. -/
def statement (changes : Option (Changes RowKey Row)) (pc : BootstrapPc) :
    Move BootstrapPc RowKey Row :=
  match changes with
  | some changes => .statement changes pc
  | none => .rollback .failed

/-- `user.create`. -/
def createUser (seen : Tables) (id : UserId) (role : Role) : Option (Changes RowKey Row) :=
  if seen.contains (.user id) then none else some [(.user id, some (.user role))]

/-- `globalOptions.update` behind the first registration. -/
def closeRegistration (seen : Tables) (first : Bool) : Option (Changes RowKey Row) :=
  if first then
    if seen.contains .globalOptions
      then some [(.globalOptions, some (.globalOptions false))] else none
  else some []

/-- The statements of the transaction of `register`. -/
def RegisterJob.next (job : RegisterJob) (now : Nat) (seen : Tables) :
    RegisterPhase → Move BootstrapPc RowKey Row
  | .lock => .statement [(.lock 748937621, none)] (.registering .settings job)
  | .settings =>
    if enableRegistration seen || job.invitation.isSome || job.organization.isSome then
      .statement [] (.registering .consumeInvitation job)
    else .rollback .failed
  | .consumeInvitation =>
    statement (consumeInvitation job now seen) (.registering .consumeOrganization job)
  | .consumeOrganization => statement (consumeOrganization job seen) (.registering .count job)
  | .count => .statement [] (.registering (.create (userCount seen = 0)) job)
  | .create first =>
    statement (createUser seen job.id (job.role first)) (.registering (.close first) job)
  | .close first => statement (closeRegistration seen first) (.registering (.commit first) job)
  | .commit first => .commit (.registered first job)

/-- `onUserCreateBefore`, in the callback. -/
def onUserCreateBefore (host : BootstrapHost) (seen : Tables) : Bool :=
  host.oauthAllowNewUsers && (host.oauthExclusiveLogin || enableRegistration seen)

/-- `onUserCreateAfter`, behind its lock. -/
def onUserCreateAfter (id : UserId) (seen : Tables) : Move BootstrapPc RowKey Row :=
  if existingAdmin seen then .statement [] (.promoted false id) else .statement [] (.promoting id)

/-- `user.update`, which makes the account an administrator. -/
def promote (seen : Tables) (id : UserId) : Option (Changes RowKey Row) :=
  if seen.contains (.user id) then some [(.user id, some (.user .admin))] else none

inductive BootstrapOp where
  | register (input : RegisterInput)
  | oauthCallback (id : UserId)

/-- The requests. -/
def bootstrapProgram (host : BootstrapHost) : TxProgram BootstrapPc Nat BootstrapOp RowKey Row where
  init
    | .register input => .waiting input
    | .oauthCallback id => .oauthWaiting id
  next pc now seen :=
    match pc with
    | .waiting input =>
      match checkRegister input now seen with
      | some job => some (.statement [] (.registering .lock job))
      | none => some (.rollback .failed)
    | .registering phase job => some (job.next now seen phase)
    | .oauthWaiting id =>
      if onUserCreateBefore host seen then some (.statement [] (.oauthCreating id))
      else some (.rollback .failed)
    | .oauthCreating id => some (statement (createUser seen id .user) (.oauthCreated id))
    | .oauthCreated id => some (.commit (.oauthCommitted id))
    | .oauthCommitted id => some (.statement [(.lock 748937622, none)] (.oauthLocked id))
    | .oauthLocked id => some (onUserCreateAfter id seen)
    | .promoting id => some (statement (promote seen id) (.promoted true id))
    | .promoted first id => some (.commit (.oauthRegistered first id))
    | .registered _ _ | .oauthRegistered _ _ | .failed => none
  fail
    | .registered _ _ | .oauthRegistered _ _ | .failed => none
    | _ => some .failed

/-! ## 3. What a request holds and has written -/

/-- The advisory lock that the transaction of the request holds. -/
def BootstrapPc.holds : BootstrapPc → Option Nat
  | .registering .lock _ => none
  | .registering _ _ => some 748937621
  | .oauthLocked _ | .promoting _ | .promoted _ _ => some 748937622
  | _ => none

/-- The account of the request, where it is committed already. -/
def BootstrapPc.account : BootstrapPc → Option UserId
  | .oauthCommitted id | .oauthLocked id | .promoting id | .promoted _ id => some id
  | _ => none

/-- The rows that the transaction of the request has written, as far as the rule is concerned. -/
def BootstrapPc.written : BootstrapPc → List (RowKey × Row)
  | .registering (.close true) job => [(.user job.id, .user .admin)]
  | .registering (.commit true) job =>
    [(.user job.id, .user .admin), (.globalOptions, .globalOptions false)]
  | .oauthCreated id => [(.user id, .user .user)]
  | .promoted true id => [(.user id, .user .admin)]
  | _ => []

/-- The request has made its account an administrator by the rule, and that is committed. -/
def BootstrapPc.bootstrapped : BootstrapPc → Bool
  | .registered first _ | .oauthRegistered first _ => first
  | _ => false

/-- A change that takes no account and no administrator away, and opens nothing. -/
def Harmless (committed : Tables) : RowKey → Option Row → Prop
  | .user id, row => row = some (.user .admin) ∨
    committed.get? (.user id) = none ∧ ∃ role, row = some (.user role)
  | .globalOptions, row => row = some (.globalOptions false)
  | _, _ => True

/-- What is known of a request. -/
structure Kept (pc : BootstrapPc) (changes : Changes RowKey Row) (committed : Tables) : Prop where
  harmless : ∀ k row, Changes.at changes k = some row → Harmless committed k row
  held : ∀ key ∈ pc.holds, .lock key ∈ changes.map Prod.fst
  stored : ∀ id ∈ pc.account, committed.contains (.user id) = true
  written : ∀ entry ∈ pc.written, Changes.at changes entry.1 = some (some entry.2)
  admin : pc.bootstrapped = true → ∃ id, committed.get? (.user id) = some (.user .admin)

section

variable {host : BootstrapHost} {pc pc' : BootstrapPc} {changes changes' : Changes RowKey Row}
  {committed seen : Tables} {job : RegisterJob} {phase : RegisterPhase} {now : Nat} {id : UserId}

theorem existingAdmin_iff :
    existingAdmin seen = true ↔ ∃ id, seen.get? (.user id) = some (.user .admin) := by
  simp only [existingAdmin, List.any_eq_true, Bool.and_eq_true, decide_eq_true_eq]
  constructor
  · rintro ⟨⟨k, row⟩, hmem, hkey, hrow⟩
    cases k with
    | user id =>
      cases hrow
      exact ⟨id, Dict.get?_eq_some_iff.mpr hmem⟩
    | globalOptions | invitation _ | lock _ => cases hkey
  · rintro ⟨id, hget⟩
    exact ⟨_, Dict.get?_eq_some_iff.mp hget, rfl, rfl⟩

theorem userCount_eq_zero : userCount seen = 0 ↔ ∀ id, seen.contains (.user id) = false := by
  simp only [userCount, List.countP_eq_zero]
  constructor
  · intro h id
    refine Bool.eq_false_iff.mpr fun hcontains => ?_
    obtain ⟨row, hget⟩ := Dict.contains_iff.mp hcontains
    exact h _ (Dict.mem_keys_iff.mpr ⟨row, hget⟩) rfl
  · intro h k hk
    cases k with
    | user id =>
      have hcontains := Dict.contains_iff.mpr (Dict.mem_keys_iff.mp hk)
      rw [h id] at hcontains
      cases hcontains
    | globalOptions | invitation _ | lock _ => simp [RowKey.isUser]

/-- An account that is committed stays, whatever another request commits. -/
theorem contains_apply (h : ∀ k row, Changes.at changes k = some row → Harmless committed k row)
    (hid : committed.contains (.user id) = true) :
    (committed.apply changes).contains (.user id) = true := by
  rw [Dict.contains, Dict.get?_apply]
  cases hat : Changes.at changes (.user id) with
  | none => exact hid
  | some row =>
    rcases h _ row hat with rfl | ⟨-, role, rfl⟩
    · rfl
    · rfl

/-- An administrator stays one. -/
theorem admin_apply (h : ∀ k row, Changes.at changes k = some row → Harmless committed k row)
    (hadmin : committed.get? (.user id) = some (.user .admin)) :
    (committed.apply changes).get? (.user id) = some (.user .admin) := by
  rw [Dict.get?_apply]
  cases hat : Changes.at changes (.user id) with
  | none => exact hadmin
  | some row =>
    rcases h _ row hat with rfl | ⟨hnone, -⟩
    · rfl
    · rw [hnone] at hadmin
      cases hadmin

/-- Registration that is closed stays closed. -/
theorem closed_apply (h : ∀ k row, Changes.at changes k = some row → Harmless committed k row)
    (hclosed : enableRegistration committed = false) :
    enableRegistration (committed.apply changes) = false := by
  rw [enableRegistration, Dict.get?_apply]
  cases hat : Changes.at changes .globalOptions with
  | none => exact hclosed
  | some row =>
    obtain rfl : row = some (.globalOptions false) := h _ row hat
    rfl

/-- What a request knows, it knows still when another has committed. -/
theorem Kept.other (h : Kept pc changes committed) (hother : Kept pc' changes' committed)
    (hapart : Apart changes changes') : Kept pc changes (committed.apply changes') where
  harmless k row hat := by
    have hsame : (committed.apply changes').get? k = committed.get? k := by
      refine Dict.get?_apply_of_notMem (hapart k ?_)
      exact List.mem_map.mpr ⟨_, Changes.mem_of_at hat, rfl⟩
    have hharmless := h.harmless k row hat
    cases k with
    | user id => simpa only [Harmless, hsame] using hharmless
    | globalOptions | invitation _ | lock _ => exact hharmless
  held := h.held
  stored id hid := contains_apply hother.harmless (h.stored id hid)
  written := h.written
  admin hdone := by
    obtain ⟨id, hadmin⟩ := h.admin hdone
    exact ⟨id, admin_apply hother.harmless hadmin⟩

/-- What a statement still has to show. -/
theorem Kept.advance (h : Kept pc changes committed)
    (hharmless : ∀ k row, (k, row) ∈ changes' → Harmless committed k row)
    (hheld : ∀ key ∈ pc'.holds, .lock key ∈ changes'.map Prod.fst ∨ key ∈ pc.holds)
    (hstored : ∀ id ∈ pc'.account, id ∈ pc.account)
    (hwritten : ∀ entry ∈ pc'.written, Changes.at changes' entry.1 = some (some entry.2) ∨
      Changes.at changes' entry.1 = none ∧ entry ∈ pc.written)
    (hadmin : pc'.bootstrapped = false) : Kept pc' (changes' ++ changes) committed where
  harmless k row hat := by
    rw [Changes.at_append] at hat
    cases hnew : Changes.at changes' k with
    | none =>
      rw [hnew] at hat
      exact h.harmless k row hat
    | some row' =>
      rw [hnew] at hat
      cases hat
      exact hharmless k row (Changes.mem_of_at hnew)
  held key hkey := by
    rw [List.map_append]
    rcases hheld key hkey with hnew | hold
    · exact List.mem_append_left _ hnew
    · exact List.mem_append_right _ (h.held key hold)
  stored id hid := h.stored id (hstored id hid)
  written entry hentry := by
    rw [Changes.at_append]
    rcases hwritten entry hentry with hnew | ⟨hnone, hold⟩
    · rw [hnew]
      rfl
    · rw [hnone]
      exact h.written entry hold
  admin hdone := by
    rw [hadmin] at hdone
    cases hdone

/-- A statement that writes nothing. -/
theorem Kept.read (h : Kept pc changes committed) (hheld : pc'.holds = none ∨ pc'.holds = pc.holds)
    (hstored : pc'.account = none ∨ pc'.account = pc.account) (hwritten : pc'.written = [])
    (hadmin : pc'.bootstrapped = false) : Kept pc' ([] ++ changes) committed := by
  refine h.advance (by simp) (fun key hkey => ?_) (fun id hid => ?_) ?_ hadmin
  · rcases hheld with hnone | hsame
    · rw [hnone] at hkey
      cases hkey
    · exact .inr (hsame ▸ hkey)
  · rcases hstored with hnone | hsame
    · rw [hnone] at hid
      cases hid
    · exact hsame ▸ hid
  · rw [hwritten]
    simp

theorem statement_eq {made : Option (Changes RowKey Row)} {pc : BootstrapPc}
    (h : statement made pc = .statement changes' pc') : made = some changes' ∧ pc' = pc := by
  cases made with
  | none => cases h
  | some _ =>
    cases h
    exact ⟨rfl, rfl⟩

/-- An account that is created has not been there. -/
theorem Kept.harmless_createUser (h : Kept pc changes committed) {role : Role}
    (hmade : createUser (committed.apply changes) id role = some changes') :
    changes' = [(.user id, some (.user role))] ∧
      Harmless committed (.user id) (some (.user role)) := by
  unfold createUser at hmade
  obtain ⟨hnot, hmade⟩ := Option.ite_none_left_eq_some.mp hmade
  refine ⟨(Option.some.inj hmade).symm, .inr ⟨?_, role, rfl⟩⟩
  rw [Dict.contains, Option.isSome_iff_ne_none, ne_eq, not_not, Dict.get?_apply] at hnot
  cases hat : Changes.at changes (.user id) with
  | none => rwa [hat] at hnot
  | some row =>
    rw [hat] at hnot
    rcases h.harmless _ row hat with rfl | ⟨-, role, rfl⟩
    · cases hnot
    · cases hnot

theorem consumeInvitation_changes (h : consumeInvitation job now seen = some changes') :
    ∀ k row, (k, row) ∈ changes' → ∃ token, k = .invitation token := by
  unfold consumeInvitation at h
  split at h
  · cases h
    simp
  split at h
  · cases h
  split at h
  · cases h
    simp
  · cases h

theorem consumeOrganization_changes (h : consumeOrganization job seen = some changes') :
    ∀ k row, (k, row) ∈ changes' → ∃ token, k = .invitation token := by
  unfold consumeOrganization at h
  split at h
  · cases h
    simp
  split at h
  · cases h
    simp
  · cases h

/-- **A statement of `register`.** -/
theorem Kept.register (h : Kept (.registering phase job) changes committed)
    (hnext : job.next now (committed.apply changes) phase = .statement changes' pc') :
    Kept pc' (changes' ++ changes) committed := by
  cases phase with
  | lock =>
    cases hnext
    exact h.advance (by simp [Harmless]) (by simp [BootstrapPc.holds])
      (by simp [BootstrapPc.account])
      (by simp [BootstrapPc.written]) rfl
  | settings =>
    rw [RegisterJob.next] at hnext
    split at hnext
    · cases hnext
      exact h.read (.inr rfl) (.inl rfl) rfl rfl
    · cases hnext
  | consumeInvitation =>
    obtain ⟨hmade, rfl⟩ := statement_eq hnext
    refine h.advance (fun k row hmem => ?_) (fun _ hkey => .inr hkey)
      (by simp [BootstrapPc.account])
      (by simp [BootstrapPc.written]) rfl
    obtain ⟨token, rfl⟩ := consumeInvitation_changes hmade k row hmem
    trivial
  | consumeOrganization =>
    obtain ⟨hmade, rfl⟩ := statement_eq hnext
    refine h.advance (fun k row hmem => ?_) (fun _ hkey => .inr hkey)
      (by simp [BootstrapPc.account])
      (by simp [BootstrapPc.written]) rfl
    obtain ⟨token, rfl⟩ := consumeOrganization_changes hmade k row hmem
    trivial
  | count =>
    cases hnext
    exact h.read (.inr rfl) (.inl rfl) rfl rfl
  | create first =>
    obtain ⟨hmade, rfl⟩ := statement_eq hnext
    obtain ⟨rfl, hharmless⟩ := h.harmless_createUser hmade
    refine h.advance (by simpa using hharmless) (fun _ hkey => .inr hkey)
      (by simp [BootstrapPc.account]) ?_ rfl
    cases first with
    | true => simp [BootstrapPc.written, RegisterJob.role, Changes.at_cons]
    | false => simp [BootstrapPc.written]
  | close first =>
    obtain ⟨hmade, rfl⟩ := statement_eq hnext
    cases first with
    | true =>
      obtain ⟨-, hmade⟩ := Option.ite_none_right_eq_some.mp hmade
      cases hmade
      refine h.advance (by simp [Harmless]) (fun _ hkey => .inr hkey)
        (by simp [BootstrapPc.account])
        ?_ rfl
      simp [BootstrapPc.written, Changes.at_cons]
    | false =>
      cases hmade
      exact h.read (.inr rfl) (.inl rfl) rfl rfl
  | commit first => cases hnext

/-- **A statement.** -/
theorem Kept.statement (h : Kept pc changes committed)
    (hnext : (bootstrapProgram host).next pc now (committed.apply changes) =
      some (.statement changes' pc')) : Kept pc' (changes' ++ changes) committed := by
  cases pc with
  | waiting input =>
    simp only [bootstrapProgram] at hnext
    split at hnext
    · cases hnext
      exact h.read (.inl rfl) (.inl rfl) rfl rfl
    · cases hnext
  | registering phase job => exact h.register (Option.some.inj hnext)
  | oauthWaiting id =>
    simp only [bootstrapProgram] at hnext
    split at hnext
    · cases hnext
      exact h.read (.inl rfl) (.inl rfl) rfl rfl
    · cases hnext
  | oauthCreating id =>
    obtain ⟨hmade, rfl⟩ := statement_eq (Option.some.inj hnext)
    obtain ⟨rfl, hharmless⟩ := h.harmless_createUser hmade
    exact h.advance (by simpa using hharmless) (by simp [BootstrapPc.holds])
      (by simp [BootstrapPc.account]) (by simp [BootstrapPc.written, Changes.at_cons]) rfl
  | oauthCommitted id =>
    cases hnext
    exact h.advance (by simp [Harmless]) (by simp [BootstrapPc.holds]) (fun _ hid => hid)
      (by simp [BootstrapPc.written]) rfl
  | oauthLocked id =>
    simp only [bootstrapProgram, onUserCreateAfter] at hnext
    split at hnext
    · cases hnext
      exact h.read (.inr rfl) (.inr rfl) rfl rfl
    · cases hnext
      exact h.read (.inr rfl) (.inr rfl) rfl rfl
  | promoting id =>
    obtain ⟨hmade, rfl⟩ := statement_eq (Option.some.inj hnext)
    obtain ⟨-, hmade⟩ := Option.ite_none_right_eq_some.mp hmade
    cases hmade
    exact h.advance (by simp [Harmless]) (fun _ hkey => .inr hkey) (fun _ hid => hid)
      (by simp [BootstrapPc.written, Changes.at_cons]) rfl
  | oauthCreated _ | promoted _ _ | registered _ _ | oauthRegistered _ _ | failed => cases hnext

/-- A request that does not commit makes a statement, or fails. -/
theorem statement_cases (made : Option (Changes RowKey Row)) (pc : BootstrapPc) :
    (∃ changes, statement made pc = .statement changes pc) ∨
    statement made pc = .rollback .failed := by
  cases made with
  | none => exact .inr rfl
  | some changes => exact .inl ⟨changes, rfl⟩

/-- **How a request ends its transaction.** -/
theorem next_ends {move : Move BootstrapPc RowKey Row}
    (h : (bootstrapProgram host).next pc now seen = some move) :
    (∃ changes pc', move = .statement changes pc') ∨ move = .rollback .failed ∨
    (∃ first job, pc = .registering (.commit first) job ∧ move = .commit (.registered first job)) ∨
    (∃ id, pc = .oauthCreated id ∧ move = .commit (.oauthCommitted id)) ∨
    ∃ first id, pc = .promoted first id ∧ move = .commit (.oauthRegistered first id) := by
  have hstatement : ∀ made pc', some (statement made pc') = some move →
      (∃ changes pc', move = .statement changes pc') ∨ move = .rollback .failed := by
    rintro made pc' hmove
    cases hmove
    rcases statement_cases made pc' with ⟨changes, hmade⟩ | hfailed
    · exact .inl ⟨changes, pc', hmade⟩
    · exact .inr hfailed
  cases pc with
  | waiting input =>
    simp only [bootstrapProgram] at h
    split at h
    · cases h
      exact .inl ⟨_, _, rfl⟩
    · cases h
      exact .inr (.inl rfl)
  | registering phase job =>
    cases phase with
    | lock | count =>
      cases h
      exact .inl ⟨_, _, rfl⟩
    | settings =>
      simp only [bootstrapProgram, RegisterJob.next] at h
      split at h
      · cases h
        exact .inl ⟨_, _, rfl⟩
      · cases h
        exact .inr (.inl rfl)
    | consumeInvitation | consumeOrganization | create _ | close _ =>
      rcases hstatement _ _ h with hmade | hfailed
      · exact .inl hmade
      · exact .inr (.inl hfailed)
    | commit first =>
      cases h
      exact .inr (.inr (.inl ⟨first, job, rfl, rfl⟩))
  | oauthWaiting id =>
    simp only [bootstrapProgram] at h
    split at h
    · cases h
      exact .inl ⟨_, _, rfl⟩
    · cases h
      exact .inr (.inl rfl)
  | oauthCreating id | promoting id =>
    rcases hstatement _ _ h with hmade | hfailed
    · exact .inl hmade
    · exact .inr (.inl hfailed)
  | oauthCreated id =>
    cases h
    exact .inr (.inr (.inr (.inl ⟨id, rfl, rfl⟩)))
  | oauthCommitted id =>
    cases h
    exact .inl ⟨_, _, rfl⟩
  | oauthLocked id =>
    simp only [bootstrapProgram, onUserCreateAfter] at h
    split at h
    · cases h
      exact .inl ⟨_, _, rfl⟩
    · cases h
      exact .inl ⟨_, _, rfl⟩
  | promoted first id =>
    cases h
    exact .inr (.inr (.inr (.inr ⟨first, id, rfl, rfl⟩)))
  | registered _ _ | oauthRegistered _ _ | failed => cases h

theorem next_rollback (h : (bootstrapProgram host).next pc now seen = some (.rollback pc')) :
    pc' = .failed := by
  rcases next_ends h with ⟨_, _, hmove⟩ | hmove | ⟨_, _, -, hmove⟩ | ⟨_, -, hmove⟩ |
    ⟨_, _, -, hmove⟩
  · cases hmove
  · cases hmove
    rfl
  · cases hmove
  · cases hmove
  · cases hmove

theorem fail_eq (h : (bootstrapProgram host).fail pc = some pc') : pc' = .failed := by
  cases pc with
  | registered _ _ | oauthRegistered _ _ | failed => cases h
  | _ =>
    cases h
    rfl

theorem kept_failed : Kept .failed [] committed :=
  ⟨fun _ _ hat => (nomatch hat), fun _ hkey => (nomatch hkey), fun _ hid => (nomatch hid), by
    simp [BootstrapPc.written], fun hdone => nomatch hdone⟩

/-- **A commit.** -/
theorem Kept.commit (h : Kept pc changes committed)
    (hnext : (bootstrapProgram host).next pc now (committed.apply changes) = some (.commit pc')) :
    Kept pc' [] (committed.apply changes) := by
  have hwritten : ∀ entry ∈ pc.written, (committed.apply changes).get? entry.1 = some entry.2 :=
    fun entry hentry => Dict.get?_apply_of_at (h.written entry hentry)
  rcases next_ends hnext with ⟨_, _, hmove⟩ | hmove | ⟨first, job, rfl, hmove⟩ | ⟨id, rfl, hmove⟩ |
    ⟨first, id, rfl, hmove⟩
  · cases hmove
  · cases hmove
  · cases hmove
    refine ⟨fun _ _ hat => (by cases hat), fun _ hkey => (by cases hkey),
      fun _ hid => (by cases hid), by simp [BootstrapPc.written], ?_⟩
    rintro rfl
    exact ⟨job.id, hwritten (.user job.id, .user .admin) (by simp [BootstrapPc.written])⟩
  · cases hmove
    refine ⟨fun _ _ hat => (by cases hat), fun _ hkey => (by cases hkey), fun _ hid => ?_, by
      simp [BootstrapPc.written], fun hdone => by cases hdone⟩
    obtain rfl := Option.some.inj hid
    exact Dict.contains_iff.mpr
      ⟨_, hwritten (.user id, .user .user) (by simp [BootstrapPc.written])⟩
  · cases hmove
    refine ⟨fun _ _ hat => (by cases hat), fun _ hkey => (by cases hkey),
      fun _ hid => (by cases hid), by simp [BootstrapPc.written], ?_⟩
    rintro rfl
    exact ⟨id, hwritten (.user id, .user .admin) (by simp [BootstrapPc.written])⟩

/-- **What is known of a request stays true.** -/
theorem kept_keeps (host : BootstrapHost) : TxKeeps (bootstrapProgram host) Kept where
  init op d := by
    cases op <;> exact ⟨fun _ _ hat => (by cases hat), fun _ hkey => (by cases hkey),
      fun _ hid => (by cases hid), by simp [BootstrapPc.written, bootstrapProgram],
      fun hdone => by cases hdone⟩
  statement _ _ _ _ _ _ h hnext := h.statement hnext
  commit _ _ _ _ _ h hnext := h.commit hnext
  rollback _ _ _ _ _ _ hnext := next_rollback hnext ▸ kept_failed
  fail _ _ _ _ _ hfail := fail_eq hfail ▸ kept_failed
  other _ _ _ _ _ _ _ h hother hapart _ := h.other hother hapart

end

/-! ## 4. One administrator, and closed registration -/

/-- The request has counted no user, and its transaction is under way. -/
def BootstrapPc.counted : BootstrapPc → Bool
  | .registering (.create first) _ | .registering (.close first) _
  | .registering (.commit first) _ => first
  | _ => false

/-- The request has found no administrator, and its transaction is under way. -/
def BootstrapPc.promotes : BootstrapPc → Bool
  | .promoting _ => true
  | .promoted first _ => first
  | _ => false

/-- The request makes its account an administrator, or has done so. -/
def BootstrapPc.claims (pc : BootstrapPc) : Bool := pc.counted || pc.promotes || pc.bootstrapped

/-- The accounts that have become administrators by the rule. -/
def bootstraps (w : TxState BootstrapPc RowKey Row) : Nat :=
  w.clients.countP fun client => client.pc.bootstrapped

/-- The requests that make an administrator, or have made one. -/
def claimants (w : TxState BootstrapPc RowKey Row) : Nat :=
  weigh (fun client => client.pc.claims.toNat) w.clients

/-- **The rule's purpose**: it makes one administrator at most, and with him registration is closed.
-/
structure SingleAdministrator (w : TxState BootstrapPc RowKey Row) : Prop where
  single : bootstraps w ≤ 1
  closed : 0 < bootstraps w → enableRegistration w.committed = false

/-- An account of OAuth finds no administrator only while registration is closed and no registration
that has counted no user is under way. -/
def InTurn (w : TxState BootstrapPc RowKey Row) : TxEvent BootstrapOp Nat → Prop
  | .step i _ =>
    match w.pcAt i with
    | some (.oauthLocked _) => existingAdmin w.committed = true ∨
      enableRegistration w.committed = false ∧ ∀ client ∈ w.clients, client.pc.counted = false
    | _ => True
  | _ => True

instance (w : TxState BootstrapPc RowKey Row) (event : TxEvent BootstrapOp Nat) :
    Decidable (InTurn w event) := by
  unfold InTurn
  split
  · split <;> infer_instance
  · infer_instance

/-- What a run keeps: one request at most makes an administrator, and where one is past the point of
return, registration is closed. -/
structure Exclusive (w : TxState BootstrapPc RowKey Row) : Prop where
  single : claimants w ≤ 1
  closed : ∀ client ∈ w.clients, client.pc.promotes = true ∨ client.pc.bootstrapped = true →
    enableRegistration w.committed = false

section

variable {host : BootstrapHost} {pc pc' : BootstrapPc} {changes : Changes RowKey Row}
  {seen : Tables}
  {w w' : TxState BootstrapPc RowKey Row} {event : TxEvent BootstrapOp Nat} {now i : Nat}
  {client : Client BootstrapPc RowKey Row}

/-- **Where a request begins to make an administrator.** -/
theorem claims_of_statement
    (h : (bootstrapProgram host).next pc now seen = some (.statement changes pc')) :
    (pc'.counted = true → pc.counted = true ∨
      ∃ job, pc = .registering .count job ∧ userCount seen = 0) ∧
    (pc'.promotes = true → pc.promotes = true ∨
      ∃ id, pc = .oauthLocked id ∧ existingAdmin seen = false) ∧
    pc'.bootstrapped = false := by
  cases pc with
  | waiting input =>
    simp only [bootstrapProgram] at h
    split at h
    · cases h
      exact ⟨fun hnot => (nomatch hnot), fun hnot => (nomatch hnot), rfl⟩
    · cases h
  | registering phase job =>
    have h := Option.some.inj h
    cases phase with
    | lock =>
      cases h
      exact ⟨fun hnot => (nomatch hnot), fun hnot => (nomatch hnot), rfl⟩
    | settings =>
      rw [RegisterJob.next] at h
      split at h
      · cases h
        exact ⟨fun hnot => (nomatch hnot), fun hnot => (nomatch hnot), rfl⟩
      · cases h
    | consumeInvitation | consumeOrganization =>
      obtain ⟨-, rfl⟩ := statement_eq h
      exact ⟨fun hnot => (nomatch hnot), fun hnot => (nomatch hnot), rfl⟩
    | count =>
      cases h
      exact ⟨fun hcounted => .inr ⟨job, rfl, of_decide_eq_true hcounted⟩,
        fun hnot => (nomatch hnot), rfl⟩
    | create first | close first =>
      obtain ⟨-, rfl⟩ := statement_eq h
      exact ⟨fun hcounted => .inl hcounted, fun hnot => (nomatch hnot), rfl⟩
    | commit first => cases h
  | oauthWaiting id =>
    simp only [bootstrapProgram] at h
    split at h
    · cases h
      exact ⟨fun hnot => (nomatch hnot), fun hnot => (nomatch hnot), rfl⟩
    · cases h
  | oauthCreating id =>
    obtain ⟨-, rfl⟩ := statement_eq (Option.some.inj h)
    exact ⟨fun hnot => (nomatch hnot), fun hnot => (nomatch hnot), rfl⟩
  | oauthCommitted id =>
    cases h
    exact ⟨fun hnot => (nomatch hnot), fun hnot => (nomatch hnot), rfl⟩
  | oauthLocked id =>
    simp only [bootstrapProgram, onUserCreateAfter] at h
    split at h
    · cases h
      exact ⟨fun hnot => (nomatch hnot), fun hnot => (nomatch hnot), rfl⟩
    · next hnone =>
      cases h
      exact ⟨fun hnot => (nomatch hnot),
        fun _ => .inr ⟨id, rfl, Bool.eq_false_iff.mpr hnone⟩, rfl⟩
  | promoting id =>
    obtain ⟨-, rfl⟩ := statement_eq (Option.some.inj h)
    exact ⟨fun hnot => (nomatch hnot), fun _ => .inl rfl, rfl⟩
  | oauthCreated _ | promoted _ _ | registered _ _ | oauthRegistered _ _ | failed => cases h

theorem holds_of_counted (h : pc.counted = true) : pc.holds = some 748937621 := by
  cases pc with
  | registering phase job =>
    cases phase with
    | create _ | close _ | commit _ => rfl
    | _ => cases h
  | _ => cases h

theorem holds_of_promotes (h : pc.promotes = true) :
    pc.holds = some 748937622 ∧ ∃ id, pc.account = some id := by
  cases pc with
  | promoting id | promoted _ id => exact ⟨rfl, id, rfl⟩
  | _ => cases h

/-- Two requests do not hold one lock. -/
theorem not_both_hold (hkept : TxInvariant Kept w) {j key : Nat}
    {other : Client BootstrapPc RowKey Row} (hne : i ≠ j) (hclient : w.clients[i]? = some client)
    (hother : w.clients[j]? = some other) (hholds : client.pc.holds = some key) :
    other.pc.holds ≠ some key := by
  intro hholds'
  exact hkept.locked i j client other hne hclient hother _
    ((hkept.client client (List.mem_of_getElem? hclient)).held key hholds)
    ((hkept.client other (List.mem_of_getElem? hother)).held key hholds')

/-- A request that makes an administrator other than by counting has an account that is committed.
-/
theorem account_of_claims (hkept : TxInvariant Kept w) (hmem : client ∈ w.clients)
    (hclaims : client.pc.promotes = true ∨ client.pc.bootstrapped = true) :
    ∃ id, w.committed.contains (.user id) = true := by
  have hown := hkept.client client hmem
  rcases hclaims with hpromotes | hdone
  · obtain ⟨-, id, haccount⟩ := holds_of_promotes hpromotes
    exact ⟨id, hown.stored id haccount⟩
  · obtain ⟨id, hadmin⟩ := hown.admin hdone
    exact ⟨id, Dict.contains_iff.mpr ⟨_, hadmin⟩⟩

theorem claimants_eq_zero (h : ∀ (j : Nat) (other : Client BootstrapPc RowKey Row),
    w.clients[j]? = some other → other.pc.claims = false) : claimants w = 0 := by
  refine weigh_eq_zero fun other hmem => ?_
  obtain ⟨j, hj⟩ := List.getElem?_of_mem hmem
  rw [h j other hj]
  rfl

/-- **Who counts no user is the first**: nobody else makes an administrator or has made one. -/
theorem claimants_of_count (hkept : TxInvariant Kept w) (hclient : w.clients[i]? = some client)
    {job : RegisterJob} (hpc : client.pc = .registering .count job)
    (hnone : userCount (w.committed.apply client.changes) = 0) : claimants w = 0 := by
  refine claimants_eq_zero fun j other hj => Bool.eq_false_iff.mpr fun hclaims => ?_
  have hnobody : ¬ (other.pc.promotes = true ∨ other.pc.bootstrapped = true) := by
    intro hother
    obtain ⟨id, hid⟩ := account_of_claims hkept (List.mem_of_getElem? hj) hother
    have hseen := contains_apply (hkept.client client (List.mem_of_getElem? hclient)).harmless hid
    rw [userCount_eq_zero.mp hnone id] at hseen
    cases hseen
  have hcounted : other.pc.counted = true := by
    simpa [BootstrapPc.claims, not_or.mp hnobody] using hclaims
  rcases eq_or_ne i j with rfl | hne
  · rw [hclient] at hj
    cases hj
    rw [hpc] at hcounted
    cases hcounted
  · refine not_both_hold hkept hne hclient hj ?_ (holds_of_counted hcounted)
    rw [hpc]
    rfl

/-- **Who finds no administrator in turn is the first.** -/
theorem claimants_of_check (hkept : TxInvariant Kept w) (hclient : w.clients[i]? = some client)
    {id : UserId} (hpc : client.pc = .oauthLocked id)
    (hnone : existingAdmin (w.committed.apply client.changes) = false)
    (hturn : InTurn w (.step i now)) :
    claimants w = 0 ∧ enableRegistration w.committed = false := by
  have hnoadmin : existingAdmin w.committed = false := by
    refine Bool.eq_false_iff.mpr fun hadmin => ?_
    obtain ⟨id', hid'⟩ := existingAdmin_iff.mp hadmin
    have hseen := existingAdmin_iff.mpr
      ⟨id', admin_apply (hkept.client client (List.mem_of_getElem? hclient)).harmless hid'⟩
    rw [hnone] at hseen
    cases hseen
  have hat : w.pcAt i = some (.oauthLocked id) := by
    rw [TxState.pcAt, hclient, Option.map_some, hpc]
  obtain ⟨hclosed, hcounted⟩ : enableRegistration w.committed = false ∧
      ∀ client ∈ w.clients, client.pc.counted = false := by
    simpa [InTurn, hat, hnoadmin] using hturn
  refine ⟨claimants_eq_zero fun j other hj => Bool.eq_false_iff.mpr fun hclaims => ?_, hclosed⟩
  have hmem := List.mem_of_getElem? hj
  have hdone : other.pc.bootstrapped = false := by
    refine Bool.eq_false_iff.mpr fun hdone => ?_
    have hadmin := existingAdmin_iff.mpr ((hkept.client other hmem).admin hdone)
    rw [hnoadmin] at hadmin
    cases hadmin
  have hpromotes : other.pc.promotes = true := by
    simpa [BootstrapPc.claims, hcounted other hmem, hdone] using hclaims
  rcases eq_or_ne i j with rfl | hne
  · rw [hclient] at hj
    cases hj
    rw [hpc] at hpromotes
    cases hpromotes
  · refine not_both_hold hkept hne hclient hj ?_ (holds_of_promotes hpromotes).1
    rw [hpc]
    rfl

/-- A request has moved. -/
theorem Exclusive.set (h : Exclusive w) (hclient : w.clients[i]? = some client)
    {client' : Client BootstrapPc RowKey Row} {d : Tables}
    (hopen : enableRegistration w.committed = false → enableRegistration d = false)
    (hsingle : claimants w + client'.pc.claims.toNat ≤ 1 + client.pc.claims.toNat)
    (hclosed : client'.pc.promotes = true ∨ client'.pc.bootstrapped = true →
      enableRegistration d = false) : Exclusive ⟨d, w.clients.set i client'⟩ where
  single := by
    have hset : claimants ⟨d, w.clients.set i client'⟩ + client.pc.claims.toNat =
        claimants w + client'.pc.claims.toNat := weigh_set hclient
    omega
  closed := forall_mem_set (fun other hmem hother => hopen (h.closed other hmem hother)) hclosed

/-- A statement that makes no request begin to make an administrator but the first. -/
theorem Exclusive.statement (hkept : TxInvariant Kept w) (h : Exclusive w)
    (hclient : w.clients[i]? = some client) (hturn : InTurn w (.step i now))
    (hnext : (bootstrapProgram host).next client.pc now (w.committed.apply client.changes) =
      some (.statement changes pc')) (changes' : Changes RowKey Row) :
    Exclusive { w with clients := w.clients.set i ⟨pc', changes'⟩ } := by
  have hmem := List.mem_of_getElem? hclient
  have hle : pc'.claims.toNat ≤ 1 := Bool.toNat_le _
  obtain ⟨hcounted, hpromotes, hdone⟩ := claims_of_statement hnext
  refine h.set hclient id ?_ fun hclaims => ?_
  · cases hclaims : pc'.claims with
    | false => exact Nat.le_trans h.single (Nat.le_add_right _ _)
    | true =>
      have hbegins : client.pc.claims = true ∨ claimants w = 0 := by
        simp only [BootstrapPc.claims, hdone, Bool.or_false, Bool.or_eq_true] at hclaims ⊢
        rcases hclaims with hnew | hnew
        · rcases hcounted hnew with hold | ⟨job, hpc, hnone⟩
          · exact .inl (.inl (.inl hold))
          · exact .inr (claimants_of_count hkept hclient hpc hnone)
        · rcases hpromotes hnew with hold | ⟨id, hpc, hnone⟩
          · exact .inl (.inl (.inr hold))
          · exact .inr (claimants_of_check hkept hclient hpc hnone hturn).1
      have hone := h.single
      rcases hbegins with hold | hzero
      · rw [hold]
        exact Nat.add_le_add_right hone _
      · rw [hzero]
        exact Nat.le_trans (by decide) (Nat.le_add_right _ _)
  · rcases hclaims with hnew | hnew
    · rcases hpromotes hnew with hold | ⟨id, hpc, hnone⟩
      · exact h.closed client hmem (.inl hold)
      · exact (claimants_of_check hkept hclient hpc hnone hturn).2
    · rw [hdone] at hnew
      cases hnew

/-- A commit: who makes an administrator has made one, and registration is closed. -/
theorem Exclusive.commit (hkept : TxInvariant Kept w) (h : Exclusive w)
    (hclient : w.clients[i]? = some client)
    (hnext : (bootstrapProgram host).next client.pc now (w.committed.apply client.changes) =
      some (.commit pc')) :
    Exclusive ⟨w.committed.apply client.changes, w.clients.set i ⟨pc', []⟩⟩ := by
  have hmem := List.mem_of_getElem? hclient
  have hown := hkept.client client hmem
  have hopen := closed_apply hown.harmless
  rcases next_ends hnext with ⟨_, _, hmove⟩ | hmove | ⟨first, job, hpc, hmove⟩ | ⟨id, hpc, hmove⟩ |
    ⟨first, id, hpc, hmove⟩
  · cases hmove
  · cases hmove
  · cases hmove
    refine h.set hclient hopen ?_ fun hclaims => ?_
    · have hsame : client.pc.claims = (BootstrapPc.registered first job).claims := by
        rw [hpc]
        simp [BootstrapPc.claims, BootstrapPc.counted, BootstrapPc.promotes,
          BootstrapPc.bootstrapped]
      rw [hsame]
      exact Nat.add_le_add_right h.single _
    · obtain rfl : first = true := by
        simpa [BootstrapPc.promotes, BootstrapPc.bootstrapped] using hclaims
      have hwritten := hown.written (.globalOptions, .globalOptions false) (by
        rw [hpc]
        simp [BootstrapPc.written])
      rw [enableRegistration, Dict.get?_apply_of_at hwritten]
      rfl
  · cases hmove
    refine h.set hclient hopen ?_ fun hclaims => ?_
    · exact Nat.le_trans h.single (Nat.le_add_right _ _)
    · simp [BootstrapPc.promotes, BootstrapPc.bootstrapped] at hclaims
  · cases hmove
    refine h.set hclient hopen ?_ fun hclaims => ?_
    · have hsame : client.pc.claims = (BootstrapPc.oauthRegistered first id).claims := by
        rw [hpc]
        simp [BootstrapPc.claims, BootstrapPc.counted, BootstrapPc.promotes,
          BootstrapPc.bootstrapped]
      rw [hsame]
      exact Nat.add_le_add_right h.single _
    · obtain rfl : first = true := by
        simpa [BootstrapPc.promotes, BootstrapPc.bootstrapped] using hclaims
      refine hopen (h.closed client hmem (.inl ?_))
      rw [hpc]
      rfl

/-- **A step.** -/
theorem exclusive_step (hkept : TxInvariant Kept w) (h : Exclusive w) (hturn : InTurn w event)
    (hstep : (txMachine (bootstrapProgram host)).step w event = some w') : Exclusive w' := by
  rcases tx_step_cases hstep with ⟨op, rfl, rfl⟩ |
    ⟨i, now, client, changes, pc, rfl, hclient, hnext, -, rfl⟩ |
    ⟨i, now, client, pc, rfl, hclient, hnext, rfl⟩ | ⟨i, client, pc, hclient, hends, rfl⟩
  · have hidle : ((bootstrapProgram host).init op).claims = false := by
      cases op <;> exact rfl
    constructor
    · have hsame : claimants { w with
          clients := w.clients ++ [⟨(bootstrapProgram host).init op, []⟩] } = claimants w := by
        simp [claimants, hidle]
      exact hsame.trans_le h.single
    · intro client hmem hclaims
      rcases List.mem_append.mp hmem with hmem | hmem
      · exact h.closed client hmem hclaims
      · rw [List.mem_singleton.mp hmem] at hclaims
        cases op <;> simp [bootstrapProgram, BootstrapPc.promotes, BootstrapPc.bootstrapped]
          at hclaims
  · exact Exclusive.statement hkept h hclient hturn hnext _
  · exact Exclusive.commit hkept h hclient hnext
  · have hfailed : pc = .failed := by
      rcases hends with ⟨now, -, hnext⟩ | ⟨-, hfail⟩
      · exact next_rollback hnext
      · exact fail_eq hfail
    subst hfailed
    exact h.set hclient id (Nat.le_trans h.single (Nat.le_add_right _ _))
      (by simp [BootstrapPc.promotes, BootstrapPc.bootstrapped])

/-- One request at most makes an administrator, so one at most has made one. -/
theorem Exclusive.singleAdministrator (h : Exclusive w) : SingleAdministrator w where
  single := by
    refine le_trans (countP_le_weigh fun client _ hdone => ?_) h.single
    simp [BootstrapPc.claims, hdone]
  closed hpos := by
    obtain ⟨client, hmem, hdone⟩ := List.countP_pos_iff.mp hpos
    exact h.closed client hmem (.inr hdone)

/-! ## 5. Runs -/

/-- **One administrator by the rule.**  From any tables, after every run in which each account of
OAuth finds no administrator only in turn, one account at most has become an administrator by the
rule, and where one has, open registration is closed. -/
theorem single_bootstrap_administrator (host : BootstrapHost) (db : Tables)
    (events : List (TxEvent BootstrapOp Nat)) {w : TxState BootstrapPc RowKey Row}
    (hturn : (txMachine (bootstrapProgram host)).Conforms InTurn ⟨db, []⟩ events)
    (hrun : (txMachine (bootstrapProgram host)).run ⟨db, []⟩ events = some w) :
    SingleAdministrator w := by
  have hkept := Machine.run_invariant_of_conforms (P := fun w => TxInvariant Kept w ∧ Exclusive w)
    (fun _ _ _ h hturn hstep =>
      ⟨tx_invariant_step (kept_keeps host) h.1 hstep, exclusive_step h.1 h.2 hturn hstep⟩)
    events ⟨txInvariant_nil Kept db, ⟨by simp [claimants], by simp⟩⟩ hturn hrun
  exact hkept.2.singleAdministrator

end

/-- OAuth may create accounts. -/
def exampleHost : BootstrapHost := ⟨true, false⟩

/-- An instance without users, open for registration. -/
def freshTables : Tables := Dict.empty.set .globalOptions (.globalOptions true)

def register (id : UserId) : BootstrapOp := .register ⟨id, none, none⟩

/-- Two registrations and an account of OAuth at once: the second registration waits for the lock
and finds registration closed, and OAuth finds the administrator. -/
def registrationRace : List (TxEvent BootstrapOp Nat) :=
  [.start (register 1), .start (register 2), .start (.oauthCallback 3)] ++
    [0, 1, 2, 0, 0, 0, 0, 0, 2, 2, 0, 0, 0, 2, 2, 2, 1, 1].map fun i => .step i 0

theorem single_bootstrap_administrator_race :
    ∃ w, (txMachine (bootstrapProgram exampleHost)).run
      ⟨freshTables, []⟩ registrationRace = some w ∧
      bootstraps w = 1 ∧ SingleAdministrator w := by
  refine Machine.exists_run (P := fun w => bootstraps w = 1) (by decide +kernel)
    fun w hw hone => ⟨hone, ?_⟩
  exact single_bootstrap_administrator exampleHost freshTables registrationRace
    (by decide +kernel) hw

/-- An account of OAuth between the count of a registration and its commit. -/
def promotionRace : List (TxEvent BootstrapOp Nat) :=
  [.start (register 1), .start (.oauthCallback 2)] ++
    [0, 0, 0, 0, 0, 0, 1, 1, 1, 1, 1, 1, 1, 0, 0, 0].map fun i => .step i 0

/-- **Two administrators, and registration left open.**  An account of OAuth that is promoted
between the count of a registration and its commit is a second administrator; one that is alone
leaves registration open. -/
theorem two_administrators :
    (∃ w, (txMachine (bootstrapProgram exampleHost)).run ⟨freshTables, []⟩ promotionRace = some w ∧
      w.committed.get? (.user 1) = some (.user .admin) ∧
      w.committed.get? (.user 2) = some (.user .admin) ∧ ¬ SingleAdministrator w) ∧
    ∃ w, (txMachine (bootstrapProgram exampleHost)).run ⟨freshTables, []⟩
        (.start (.oauthCallback 2) :: List.replicate 7 (.step 0 0)) = some w ∧
      enableRegistration w.committed = true ∧ ¬ SingleAdministrator w := by
  constructor
  · refine Machine.exists_run (P := fun w => bootstraps w = 2 ∧
      w.committed.get? (.user 1) = some (.user .admin) ∧
      w.committed.get? (.user 2) = some (.user .admin)) (by decide +kernel) ?_
    rintro w - ⟨htwo, hfirst, hsecond⟩
    refine ⟨hfirst, hsecond, fun h => ?_⟩
    have hsingle := h.single
    rw [htwo] at hsingle
    exact absurd hsingle (by decide)
  · refine Machine.exists_run (P := fun w => bootstraps w = 1 ∧
      enableRegistration w.committed = true) (by decide +kernel) ?_
    rintro w - ⟨hone, hopen⟩
    refine ⟨hopen, fun h => ?_⟩
    have hclosed := h.closed (by rw [hone]; decide)
    rw [hopen] at hclosed
    cases hclosed

end ZtPlanet.Ztnet.Bootstrap
