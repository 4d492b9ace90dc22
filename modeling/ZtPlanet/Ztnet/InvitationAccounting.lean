/-
# What registrations make of invitations

`register` looks at its invitations before its transaction, and uses them in it: an invitation to
the instance is counted up where it still stands as it was read, and an invitation to an
organization is deleted.  Behind the commit it reads the settings once more and writes the activity
log of the organization.

The statements of the transactions of any number of registrations take turns here, and each can
fail.  An advisory lock is a row that nobody reads.  What a registration is refused for without the
tables, the rate limit, its expiry date or its password, is a failure as well.

After every run the tables count the accounts that have been created (`Accounted`).  That a
registration which fails has used nothing holds exactly as long as none fails behind its commit
(`accounting_iff`): the comment there says that a notification must not break the registration, and
its errors are caught, but those of the two calls around it are not.
-/
import ZtPlanet.Lib.Transactions
import ZtPlanet.Ztnet.Invitation

namespace ZtPlanet.Ztnet.InvitationAccounting

open ZtPlanet.Lib ZtPlanet.Ztnet.Invitations

/-! ## 1. The tables -/

/-- `User`. -/
structure UserRow where
  email : EmailAddress
  name : String
  role : Role
  userGroupId : Option UserGroupId
deriving DecidableEq

/-- What a row is found by. -/
inductive RowKey where
  | user (id : UserId)
  /-- the credential `Account` of the user -/
  | account (userId : UserId)
  | globalOptions
  | userGroup (id : UserGroupId)
  | invitation (id : InvitationId)
  | organizationInvitation (id : OrganizationInvitationId)
  | organizationRole (userId : UserId) (organizationId : OrganizationId)
  /-- the user is one of the organization's -/
  | member (userId : UserId) (organizationId : OrganizationId)
  /-- `pg_advisory_xact_lock` -/
  | lock (key : Nat)
deriving DecidableEq

inductive Row where
  | user (row : UserRow)
  | account
  | globalOptions (enableRegistration : Bool)
  | userGroup (isDefault : Bool)
  | invitation (row : InvitationRow)
  | organizationInvitation (row : OrganizationInvitationRow)
  | organizationRole (role : Role)
  | member
deriving DecidableEq

abbrev Tables : Type := Dict RowKey Row

/-- `settings?.enableRegistration`. -/
def enableRegistration (tables : Tables) : Bool :=
  tables.get? .globalOptions = some (.globalOptions true)

def Row.asInvitation : Row → Option InvitationRow
  | .invitation row => some row
  | _ => none

def findInvitation (tables : Tables) (id : InvitationId) : Option InvitationRow :=
  (tables.get? (.invitation id)).bind Row.asInvitation

/-- `invitation.findUnique({ where: { token, secret } })`. -/
def findInvitationBySecret (tables : Tables) (token : Token) (secret : String) :
    Option (InvitationId × InvitationRow) :=
  tables.entries.findSome? fun
    | (.invitation id, .invitation row) =>
      if row.token = token ∧ row.secret = some secret then some (id, row) else none
    | _ => none

/-- `organizationInvitation.findFirst` of `validateOrganizationToken`. -/
def findOrganizationInvitation (tables : Tables) (token : Token) (payload : TokenPayload) :
    Option (OrganizationId × InvitationId × InvitationRow) :=
  tables.entries.findSome? fun
    | (.organizationInvitation _, .organizationInvitation row) =>
      (findInvitation tables row.invitationId).bind fun invitation =>
        if payload.matches token invitation
          then some (row.organizationId, row.invitationId, invitation)
        else none
    | _ => none

/-- `user.findFirst({ where: { email } })` finds one. -/
def emailTaken (tables : Tables) (email : EmailAddress) : Bool :=
  tables.entries.any fun
    | (.user _, .user row) => row.email = email
    | _ => false

/-- `user.count()`. -/
def userCount (tables : Tables) : Nat :=
  tables.entries.countP fun
    | (.user _, _) => true
    | _ => false

/-- `userGroup.findFirst({ where: { isDefault: true } })`. -/
def defaultUserGroup (tables : Tables) : Option UserGroupId :=
  tables.entries.findSome? fun
    | (.userGroup id, .userGroup true) => some id
    | _ => none

/-! ## 2. `register` -/

/-- `validateOrganizationToken`; `none` is an error. -/
def validateOrganizationToken (site : InvitationSite) (organizationToken : Option String)
    (inputEmail : EmailAddress) (now : Nat) (seen : Tables) :
    Option (Option (OrganizationId × InvitationId × InvitationRow)) :=
  match site.given organizationToken with
  | none => some none
  | some token =>
    match site.decode token with
    | none => none
    | some payload =>
      match payload.email with
      | none => none
      | some email =>
        if payload.expired now then none
        else
          match findOrganizationInvitation seen token payload with
          | none => none
          | some found =>
            if site.normalizeEmail inputEmail ≠ site.normalizeEmail email then none
              else some (some found)

/-- The invitation to the instance that `register` is given; `none` is an error. -/
def findValidCode (site : InvitationSite) (input : Invitations.RegisterInput) (now : Nat)
    (seen : Tables) :
    Option (Option (InvitationId × InvitationRow)) :=
  match site.given input.ztnetInvitationCode, site.given input.token with
  | none, none => some none
  | some ztnetInvitationCode, some token =>
    match findInvitationBySecret seen token ztnetInvitationCode with
    | none => none
    | some (id, row) =>
      if row.refused site input.email now || !site.verify token then none else some (some (id, row))
  | _, _ => none

/-- The statement that the transaction has come to; `first` where it has counted no user. -/
inductive Phase where
  | lock
  | settings
  | consumeInvitation
  | consumeOrganization
  | count
  | userGroup (first : Bool)
  | create (first : Bool) (defaultGroup : Option UserGroupId)
  | account (first : Bool)
  | close (first : Bool)
  | commit
deriving DecidableEq

inductive Pc where
  /-- before `globalOptions.findFirst` -/
  | begun (input : Invitations.RegisterInput)
  /-- before `validateOrganizationToken` -/
  | organization (input : Invitations.RegisterInput) (openRegistration : Bool)
  /-- before `findValidCode` -/
  | code (input : Invitations.RegisterInput) (openRegistration : Bool)
      (organization : Option (OrganizationId × InvitationId × InvitationRow))
  /-- before `user.findFirst` -/
  | email (job : RegisterJob)
  | registering (phase : Phase) (job : RegisterJob)
  /-- behind the commit, before `globalOptions.findFirst` -/
  | committed (job : RegisterJob)
  /-- before `activityLog.create` -/
  | logging (job : RegisterJob)
  | done (job : RegisterJob)
  | failed
  /-- failed behind the commit -/
  | failedCommitted (job : RegisterJob)
deriving DecidableEq

/-- The changes of a statement, which fails where there are none. -/
def statement (changes : Option (Changes RowKey Row)) (pc : Pc) : Move Pc RowKey Row :=
  match changes with
  | some changes => .statement changes pc
  | none => .rollback .failed

/-- `invitation.updateMany`, where it has to count one. -/
def consumeInvitation (job : RegisterJob) (now : Nat) (seen : Tables) :
    Option (Changes RowKey Row) :=
  match job.invitation with
  | none => some []
  | some (id, read) =>
    match findInvitation seen id with
    | none => none
    | some row =>
      if read.consumable now row then some [(.invitation id, some (.invitation (read.consume row)))]
        else none

/-- The rows of an invitation that is deleted. -/
def cascade (tables : Tables) (id : InvitationId) : Changes RowKey Row :=
  tables.entries.filterMap fun
    | (.organizationInvitation key, .organizationInvitation row) =>
      if row.invitationId = id then some (.organizationInvitation key, none) else none
    | _ => none

/-- `invitation.deleteMany`, where it has to count one. -/
def consumeOrganization (site : InvitationSite) (job : RegisterJob) (seen : Tables) :
    Option (Changes RowKey Row) :=
  match job.organization with
  | none => some []
  | some (_, id, _) =>
    match findInvitation seen id with
    | none => none
    | some row =>
      if site.given job.input.ztnetOrganizationToken = some row.token then
        some ((.invitation id, none) :: cascade seen id)
      else none

/-- `user.create`. -/
def createUser (job : RegisterJob) (first : Bool) (defaultGroup : Option UserGroupId)
    (seen : Tables) :
    Option (Changes RowKey Row) :=
  if seen.contains (.user job.input.id) || emailTaken seen job.input.email then none
  else
    some ((.user job.input.id, some (.user
        { email := job.input.email
          name := job.input.name
          role := job.role first
          userGroupId := (job.invitation.bind fun invitation =>
            invitation.2.userGroupId) <|> defaultGroup })) ::
      match job.organization with
      | none => []
      | some (organizationId, _, invitation) =>
        [(.organizationRole job.input.id organizationId, some (.organizationRole invitation.role)),
          (.member job.input.id organizationId, some .member)])

/-- `globalOptions.update` behind the first registration. -/
def closeRegistration (first : Bool) (seen : Tables) : Option (Changes RowKey Row) :=
  if first then
    if seen.contains .globalOptions
      then some [(.globalOptions, some (.globalOptions false))] else none
  else some []

/-- The statements of the transaction. -/
def transaction (site : InvitationSite) (job : RegisterJob) (now : Nat) (seen : Tables) :
    Phase → Move Pc RowKey Row
  | .lock => .statement [(.lock 748937621, none)] (.registering .settings job)
  | .settings =>
    if enableRegistration seen || job.invited
      then .statement [] (.registering .consumeInvitation job)
    else .rollback .failed
  | .consumeInvitation =>
    statement (consumeInvitation job now seen) (.registering .consumeOrganization job)
  | .consumeOrganization => statement (consumeOrganization site job seen) (.registering .count job)
  | .count => .statement [] (.registering (.userGroup (userCount seen = 0)) job)
  | .userGroup first => .statement [] (.registering (.create first (defaultUserGroup seen)) job)
  | .create first defaultGroup =>
    statement (createUser job first defaultGroup seen) (.registering (.account first) job)
  | .account first =>
    .statement [(.account job.input.id, some .account)] (.registering (.close first) job)
  | .close first => statement (closeRegistration first seen) (.registering .commit job)
  | .commit => .commit (.committed job)

/-- `register`, for any number of registrations. -/
def registerProgram (site : InvitationSite) :
    TxProgram Pc Nat Invitations.RegisterInput RowKey Row where
  init input := .begun input
  next pc now seen :=
    match pc with
    | .begun input => some (.statement [] (.organization input (enableRegistration seen)))
    | .organization input openRegistration =>
      match validateOrganizationToken site input.ztnetOrganizationToken input.email now seen with
      | none => some (.rollback .failed)
      | some organization => some (.statement [] (.code input openRegistration organization))
    | .code input openRegistration organization =>
      match findValidCode site input now seen with
      | none => some (.rollback .failed)
      | some invitation =>
        let job : RegisterJob := ⟨input, invitation, organization⟩
        if openRegistration || job.invited then some (.statement [] (.email job))
          else some (.rollback .failed)
    | .email job =>
      if emailTaken seen job.input.email then some (.rollback .failed)
      else some (.statement [] (.registering .lock job))
    | .registering phase job => some (transaction site job now seen phase)
    | .committed job =>
      if job.organization.isSome then some (.statement [] (.logging job))
        else some (.statement [] (.done job))
    | .logging job => some (.statement [] (.done job))
    | .done _ | .failed | .failedCommitted _ => none
  fail
    | .committed job | .logging job => some (.failedCommitted job)
    | .done _ | .failed | .failedCommitted _ => none
    | _ => some .failed

/-! ## 3. Accounting -/

/-- The registration whose account has been created. -/
def Pc.created : Pc → Option RegisterJob
  | .committed job | .logging job | .done job | .failedCommitted job => some job
  | _ => none

/-- The registration has been answered with an error. -/
def Pc.fails : Pc → Bool
  | .failed | .failedCommitted _ => true
  | _ => false

/-- The account is created with the invitation to the instance. -/
def Pc.countsFor (id : InvitationId) (pc : Pc) : Bool :=
  pc.created.any fun job => job.invitation.any fun invitation => invitation.1 = id

/-- The account is created with the invitation to an organization. -/
def Pc.joinsWith (id : InvitationId) (pc : Pc) : Bool :=
  pc.created.any fun job => job.organization.any fun organization => organization.2.1 = id

/-- The account is created with the token of an invitation to an organization. -/
def Pc.joinsBy (site : InvitationSite) (token : Token) (pc : Pc) : Bool :=
  pc.created.any fun job =>
    job.organization.isSome && site.given job.input.ztnetOrganizationToken = some token

/-- The number of accounts that have been created with an invitation. -/
def createdWith (w : TxState Pc RowKey Row) (id : InvitationId) : Nat :=
  w.clients.countP fun client => client.pc.countsFor id || client.pc.joinsWith id

/-- What the tables say of the accounts that have been created, where `db` is where they have
started. -/
structure Accounted (site : InvitationSite) (db : Tables) (w : TxState Pc RowKey Row) : Prop where
  account : ∀ client ∈ w.clients, ∀ job, client.pc.created = some job →
    ∃ row, w.committed.get? (.user job.input.id) = some (.user row)
  limit : ∀ id initial, findInvitation db id = some initial → createdWith w id ≤ initial.timesCanUse
  timesUsed : ∀ id initial row, findInvitation db id = some initial →
    findInvitation w.committed id = some row → row.timesUsed = initial.timesUsed + createdWith w id
  used : ∀ id row, findInvitation w.committed id = some row →
    (row.used = true ↔ row.timesCanUse ≤ row.timesUsed)
  token : ∀ token, (w.clients.countP fun client => client.pc.joinsBy site token) ≤ 1

/-- A registration that fails has used no invitation. -/
def FailuresUseNothing (w : TxState Pc RowKey Row) : Prop :=
  ∀ client ∈ w.clients, client.pc.fails = true → ∀ job, client.pc.created = some job →
    job.invited = false

/-- Invitations as they are made: a token belongs to one of them, and those to an organization have
no secret. -/
structure Issued (db : Tables) : Prop where
  token : ∀ id id' row row', findInvitation db id = some row → findInvitation db id' = some row' →
    row.token = row'.token → id = id'
  timesCanUse : ∀ id row, findInvitation db id = some row → 1 ≤ row.timesCanUse
  used : ∀ id row, findInvitation db id = some row →
    (row.used = true ↔ row.timesCanUse ≤ row.timesUsed)
  secret : ∀ key row invitation,
    db.get? (.organizationInvitation key) = some (.organizationInvitation row) →
    findInvitation db row.invitationId = some invitation → invitation.secret = none

/-- The registration is behind its commit, and has not been answered. -/
def Pc.answering : Pc → Option RegisterJob
  | .committed job | .logging job => some job
  | _ => none

/-- No registration that has used an invitation fails behind its commit. -/
def Undisturbed (w : TxState Pc RowKey Row) : TxEvent Invitations.RegisterInput Nat → Bool
  | .fail i => (w.pcAt i).all fun pc => pc.answering.all fun job => !job.invited
  | _ => true

/-! ## 4. What a registration knows -/

/-- The row, as it was but for its use. -/
def SameInvitation (row initial : InvitationRow) : Prop :=
  { row with used := initial.used, timesUsed := initial.timesUsed } = initial

theorem SameInvitation.refl (row : InvitationRow) : SameInvitation row row := rfl

section

variable {row initial read : InvitationRow}

theorem SameInvitation.fields (h : SameInvitation row initial) : row.token = initial.token ∧
    row.secret = initial.secret ∧ row.timesCanUse = initial.timesCanUse := by
  unfold SameInvitation at h
  rw [InvitationRow.mk.injEq] at h
  exact ⟨h.1, h.2.1, h.2.2.2.2.2.2.1⟩

theorem SameInvitation.consume (h : SameInvitation row initial) (read : InvitationRow) :
    SameInvitation (read.consume row) initial := h

end

/-- Only the use of an invitation changes, and nothing is linked to an organization that was not. -/
structure Lasting (db committed : Tables) : Prop where
  invitation : ∀ id row, findInvitation committed id = some row →
    ∃ initial, findInvitation db id = some initial ∧ SameInvitation row initial
  link : ∀ key row, committed.get? (.organizationInvitation key) = some row →
    db.get? (.organizationInvitation key) = some row

/-- What `findValidCode` has checked. -/
def ReadCode (db : Tables) (invitation : Option (InvitationId × InvitationRow)) : Prop :=
  ∀ id read, invitation = some (id, read) → ∃ initial, findInvitation db id = some initial ∧
    SameInvitation read initial ∧ read.timesUsed < read.timesCanUse ∧ read.secret ≠ none

/-- What `validateOrganizationToken` has checked. -/
def ReadToken (site : InvitationSite) (db : Tables) (input : Invitations.RegisterInput)
    (organization : Option (OrganizationId × InvitationId × InvitationRow)) : Prop :=
  ∀ organizationId id read, organization = some (organizationId, id, read) →
    ∃ initial, findInvitation db id = some initial ∧ SameInvitation read initial ∧
      initial.secret = none ∧
      site.given input.ztnetOrganizationToken = some initial.token

/-- What a registration has read. -/
def Pc.Read (site : InvitationSite) (db : Tables) : Pc → Prop
  | .begun _ | .organization _ _ | .failed => True
  | .code input _ found => ReadToken site db input found
  | .email job | .registering _ job | .committed job | .logging job | .done
      job | .failedCommitted job =>
    ReadCode db job.invitation ∧ ReadToken site db job.input job.organization

/-- The transaction has used its invitation to the instance. -/
def Phase.counted : Phase → Bool
  | .lock | .settings | .consumeInvitation => false
  | _ => true

/-- The transaction has deleted its invitation to an organization. -/
def Phase.deleted : Phase → Bool
  | .lock | .settings | .consumeInvitation | .consumeOrganization => false
  | _ => true

/-- The transaction has created its account. -/
def Phase.made : Phase → Bool
  | .account _ | .close _ | .commit => true
  | _ => false

/-- The invitation that the transaction has used, with the row as it was read. -/
def Pc.counting : Pc → Option (InvitationId × InvitationRow)
  | .registering phase job => if phase.counted then job.invitation else none
  | _ => none

/-- The invitation that the transaction has deleted. -/
def Pc.deleting : Pc → Option InvitationId
  | .registering phase job =>
    if phase.deleted then job.organization.map fun organization => organization.2.1 else none
  | _ => none

/-- The account that the transaction has created. -/
def Pc.making : Pc → Option UserId
  | .registering phase job => if phase.made then some job.input.id else none
  | _ => none

/-- What the transaction has changed, next to what is committed. -/
structure Pending (pc : Pc) (changes : Changes RowKey Row) (committed : Tables) : Prop where
  counting : ∀ id read, pc.counting = some (id, read) → ∃ row,
    findInvitation committed id = some row ∧
    row.timesUsed = read.timesUsed ∧
    Changes.at changes (.invitation id) = some (some (.invitation (read.consume row)))
  deleting : ∀ id, pc.deleting = some id → (findInvitation committed id).isSome = true ∧
    Changes.at changes (.invitation id) = some none
  other : ∀ id, (∀ read, pc.counting ≠ some (id, read)) → pc.deleting ≠ some id →
    Changes.at changes (.invitation id) = none
  link : ∀ key v, Changes.at changes (.organizationInvitation key) = some v → v = none
  user : ∀ id v, Changes.at changes (.user id) = some v → ∃ row, v = some (.user row)
  making : ∀ id, pc.making = some id → ∃ row,
    Changes.at changes (.user id) = some (some (.user row))

/-- What is known of a registration. -/
structure Known (site : InvitationSite) (db : Tables) (pc : Pc) (changes : Changes RowKey Row)
    (committed : Tables) : Prop where
  read : pc.Read site db
  pending : Pending pc changes committed
  account : ∀ job, pc.created = some job → ∃ row,
    committed.get? (.user job.input.id) = some (.user row)

/-! ## 5. What a registration sees -/

section

variable {site : InvitationSite} {db committed seen : Tables}
  {changes changes' : Changes RowKey Row}
  {pc pc' : Pc} {id : InvitationId} {row : InvitationRow} {job : RegisterJob}
    {phase : Phase} {now : Nat}

theorem findInvitation_eq_some : findInvitation seen id = some row ↔
    seen.get? (.invitation id) = some (.invitation row) := by
  rw [findInvitation, Option.bind_eq_some_iff]
  constructor
  · rintro ⟨r, hget, hrow⟩
    cases r with
    | invitation _ =>
      cases hrow
      exact hget
    | _ => cases hrow
  · exact fun hget => ⟨_, hget, rfl⟩

/-- An invitation that the transaction has not changed. -/
theorem findInvitation_apply_of_none (h : Changes.at changes (.invitation id) = none) :
    findInvitation (committed.apply changes) id = findInvitation committed id := by
  rw [findInvitation, Dict.get?_apply, h]
  rfl

theorem findInvitation_apply_of_some {v : Option Row}
    (h : Changes.at changes (.invitation id) = some v) :
    findInvitation (committed.apply changes) id = v.bind Row.asInvitation := by
  rw [findInvitation, Dict.get?_apply_of_at h]

theorem findInvitationBySecret_eq_some {token : Token} {secret : String}
    (h : findInvitationBySecret seen token secret = some (id, row)) :
    findInvitation seen id = some row ∧ row.secret = some secret := by
  obtain ⟨⟨key, r⟩, hmem, hfound⟩ := List.exists_of_findSome?_eq_some h
  split at hfound
  · next _ id' row' hentry =>
    cases hentry
    obtain ⟨⟨-, hsecret⟩, hpair⟩ := Option.ite_none_right_eq_some.mp hfound
    cases hpair
    exact ⟨findInvitation_eq_some.mpr (Dict.get?_eq_some_iff.mpr hmem), hsecret⟩
  · cases hfound

theorem findOrganizationInvitation_eq_some {token : Token} {payload : TokenPayload}
    {organizationId : OrganizationId}
    (h : findOrganizationInvitation seen token payload = some (organizationId, id, row)) :
    findInvitation seen id = some row ∧ row.token = token ∧ ∃ key link,
      seen.get? (.organizationInvitation key) = some (.organizationInvitation link) ∧
        link.invitationId = id := by
  obtain ⟨⟨key, r⟩, hmem, hfound⟩ := List.exists_of_findSome?_eq_some h
  split at hfound
  · next _ key' link hentry =>
    cases hentry
    obtain ⟨invitation, hfind, hfound⟩ := Option.bind_eq_some_iff.mp hfound
    obtain ⟨hmatches, hpair⟩ := Option.ite_none_right_eq_some.mp hfound
    cases hpair
    refine ⟨hfind, ?_, key', link, Dict.get?_eq_some_iff.mpr hmem, rfl⟩
    simp only [TokenPayload.matches, Bool.and_eq_true, decide_eq_true_eq] at hmatches
    exact hmatches.1.1
  · cases hfound

/-- **What a transaction sees** has lasted, and so has what it commits. -/
theorem Lasting.apply (hlasting : Lasting db committed) (h : Pending pc changes committed) :
    Lasting db (committed.apply changes) where
  invitation id row hrow := by
    by_cases hdeleting : pc.deleting = some id
    · rw [findInvitation_apply_of_some (h.deleting id hdeleting).2] at hrow
      cases hrow
    by_cases hcounting : ∃ read, pc.counting = some (id, read)
    · obtain ⟨read, hread⟩ := hcounting
      obtain ⟨current, hcurrent, -, hat⟩ := h.counting id read hread
      rw [findInvitation_apply_of_some hat] at hrow
      obtain rfl := Option.some.inj hrow
      obtain ⟨initial, hinitial, hsame⟩ := hlasting.invitation id current hcurrent
      exact ⟨initial, hinitial, hsame.consume read⟩
    · have hat := h.other id (fun read hread => hcounting ⟨read, hread⟩) hdeleting
      rw [findInvitation_apply_of_none hat] at hrow
      exact hlasting.invitation id row hrow
  link key row hrow := by
    rw [Dict.get?_apply] at hrow
    cases hat : Changes.at changes (.organizationInvitation key) with
    | none =>
      rw [hat] at hrow
      exact hlasting.link key row hrow
    | some v =>
      rw [hat, h.link key v hat] at hrow
      cases hrow

/-- What a registration knows, it knows still when another has committed. -/
theorem Known.other (h : Known site db pc changes committed)
    (hother : Known site db pc' changes' committed)
    (hapart : Apart changes changes') : Known site db pc changes (committed.apply changes') where
  read := h.read
  pending := by
    -- the rows that it has changed are as they were
    have hsame : ∀ id v, Changes.at changes (.invitation id) = some v →
        findInvitation (committed.apply changes') id = findInvitation committed id :=
          fun id v hat =>
      findInvitation_apply_of_none (Changes.at_eq_none.mpr (hapart _
        (List.mem_map.mpr ⟨_, Changes.mem_of_at hat, rfl⟩)))
    refine ⟨fun id read hread => ?_, fun id hid => ?_, h.pending.other, h.pending.link,
      h.pending.user,
      h.pending.making⟩
    · obtain ⟨row, hrow, hcount, hat⟩ := h.pending.counting id read hread
      exact ⟨row, (hsame id _ hat).trans hrow, hcount, hat⟩
    · obtain ⟨hrow, hat⟩ := h.pending.deleting id hid
      exact ⟨(hsame id _ hat) ▸ hrow, hat⟩
  account job hjob := by
    obtain ⟨row, hrow⟩ := h.account job hjob
    rw [Dict.get?_apply]
    cases hat : Changes.at changes' (.user job.input.id) with
    | none => exact ⟨row, hrow⟩
    | some v =>
      obtain ⟨row', rfl⟩ := hother.pending.user _ v hat
      exact ⟨row', rfl⟩

/-! ## 6. The statements -/

/-- No invitation, no link to an organization and no account is changed. -/
def Quiet (changes : Changes RowKey Row) : Prop :=
  ∀ change ∈ changes, (∀ id, change.1 ≠ .invitation id) ∧
    (∀ key, change.1 ≠ .organizationInvitation key) ∧
    ∀ id, change.1 ≠ .user id

theorem quiet_nil : Quiet [] := by simp [Quiet]

theorem at_append_of_notMem {k : RowKey} (h : ∀ change ∈ changes', change.1 ≠ k) :
    Changes.at (changes' ++ changes) k = Changes.at changes k := by
  have hnone : Changes.at changes' k = none := by
    refine Changes.at_eq_none.mpr fun hk => ?_
    obtain ⟨change, hchange, hkey⟩ := List.mem_map.mp hk
    exact h change hchange hkey
  rw [Changes.at_append, hnone]
  rfl

/-- A statement that leaves these tables alone, and neither uses an invitation nor makes an account.
-/
theorem Pending.quiet (h : Pending pc changes committed) (hquiet : Quiet changes')
    (hcounting : pc'.counting = pc.counting) (hdeleting : pc'.deleting = pc.deleting)
    (hmaking : pc'.making = pc.making) : Pending pc' (changes' ++ changes) committed := by
  have hinvitation : ∀ id, Changes.at (changes' ++ changes) (.invitation id) = Changes.at changes
    (.invitation id) :=
    fun id => at_append_of_notMem fun change hchange => (hquiet change hchange).1 id
  have hlink : ∀ key, Changes.at (changes' ++ changes) (.organizationInvitation key) =
      Changes.at changes (.organizationInvitation key) :=
    fun key => at_append_of_notMem fun change hchange => (hquiet change hchange).2.1 key
  have huser : ∀ id, Changes.at (changes' ++ changes) (.user id) = Changes.at changes (.user id) :=
    fun id => at_append_of_notMem fun change hchange => (hquiet change hchange).2.2 id
  constructor
  · rw [hcounting]
    simpa only [hinvitation] using h.counting
  · rw [hdeleting]
    simpa only [hinvitation] using h.deleting
  · rw [hcounting, hdeleting]
    simpa only [hinvitation] using h.other
  · simpa only [hlink] using h.link
  · simpa only [huser] using h.user
  · rw [hmaking]
    simpa only [huser] using h.making

theorem statement_eq {made : Option (Changes RowKey Row)}
    (h : statement made pc = .statement changes' pc') :
    made = some changes' ∧ pc' = pc := by
  cases made with
  | none => cases h
  | some changes =>
    cases h
    exact ⟨rfl, rfl⟩

/-- What `findValidCode` finds. -/
theorem readCode_of_find {input : Invitations.RegisterInput}
    {invitation : Option (InvitationId × InvitationRow)}
    (hseen : Lasting db seen) (h : findValidCode site input now seen = some invitation) :
    ReadCode db invitation := by
  rintro id read rfl
  unfold findValidCode at h
  split at h
  · cases h
  · next code token _ _ =>
    split at h
    · cases h
    · next id' row hfound =>
      split at h
      · cases h
      · next hvalid =>
        cases h
        obtain ⟨hrow, hsecret⟩ := findInvitationBySecret_eq_some hfound
        obtain ⟨initial, hinitial, hsame⟩ := hseen.invitation id read hrow
        refine ⟨initial, hinitial, hsame, ?_, ?_⟩
        · simp [InvitationRow.refused] at hvalid
          exact hvalid.1.2
        · rw [hsecret]
          exact nofun
  · cases h

/-- What `validateOrganizationToken` finds. -/
theorem readToken_of_validate {input : Invitations.RegisterInput} (hdb : Issued db)
    {found : Option (OrganizationId × InvitationId × InvitationRow)} (hseen : Lasting db seen)
    (h : validateOrganizationToken site input.ztnetOrganizationToken input.email now seen =
      some found) :
    ReadToken site db input found := by
  rintro organizationId id read rfl
  unfold validateOrganizationToken at h
  split at h
  · cases h
  · next token hgiven =>
    split at h
    · cases h
    · split at h
      · cases h
      · split at h
        · cases h
        · split at h
          · cases h
          · next found hfound =>
            split at h
            · cases h
            · cases h
              obtain ⟨hrow, htoken, key, link, hlink, hid⟩ :=
                findOrganizationInvitation_eq_some hfound
              obtain ⟨initial, hinitial, hsame⟩ := hseen.invitation id read hrow
              refine ⟨initial, hinitial, hsame, ?_, ?_⟩
              · exact hdb.secret key link initial (hseen.link key _ hlink) (hid ▸ hinitial)
              · rw [hgiven, ← htoken, hsame.fields.1]

/-- **The invitation is used once more.** -/
theorem Pending.consumeInvitation
    (h : Pending (.registering .consumeInvitation job) changes committed)
    (hmade : consumeInvitation job now (committed.apply changes) = some changes') :
    Pending (.registering .consumeOrganization job) (changes' ++ changes) committed := by
  unfold InvitationAccounting.consumeInvitation at hmade
  split at hmade
  · next hnone =>
    cases hmade
    exact h.quiet quiet_nil (by simp [Pc.counting, Phase.counted, hnone]) rfl rfl
  · next id read hjob =>
    split at hmade
    · cases hmade
    · next row hrow =>
      obtain ⟨hconsumable, hchanges⟩ := Option.ite_none_right_eq_some.mp hmade
      cases hchanges
      simp only [InvitationRow.consumable, Bool.and_eq_true, decide_eq_true_eq] at hconsumable
      -- what it has seen is what is committed
      rw [findInvitation_apply_of_none (h.other id nofun nofun)] at hrow
      have hcounting : (Pc.registering .consumeOrganization job).counting = some (id, read) := hjob
      refine ⟨fun id' read' hread' => ?_, nofun, fun id' hnot _ => ?_, fun key v hat =>
        ?_, fun id' v hat => ?_,
        nofun⟩
      · rw [hcounting] at hread'
        cases hread'
        exact ⟨row, hrow, hconsumable.1.2, by simp [Changes.at_cons]⟩
      · have hne : id ≠ id' := fun heq => hnot read (heq ▸ hcounting)
        rw [List.singleton_append, Changes.at_cons, if_neg (by simpa using hne)]
        exact h.other id' nofun nofun
      · exact h.link key v (by simpa [Changes.at_cons] using hat)
      · exact h.user id' v (by simpa [Changes.at_cons] using hat)

/-- The rows that go with an invitation are links to organizations. -/
theorem mem_cascade {change : RowKey × Option Row} (h : change ∈ cascade seen id) :
    ∃ key, change = (.organizationInvitation key, none) := by
  obtain ⟨⟨key, r⟩, -, hchange⟩ := List.mem_filterMap.mp h
  split at hchange
  · obtain ⟨-, hchange⟩ := Option.ite_none_right_eq_some.mp hchange
    cases hchange
    exact ⟨_, rfl⟩
  · cases hchange

/-- An invitation with a secret is none to an organization. -/
theorem ne_of_read {input : Invitations.RegisterInput}
    {invitation : Option (InvitationId × InvitationRow)}
    {organization : Option (OrganizationId × InvitationId × InvitationRow)}
    (hcode : ReadCode db invitation)
    (htoken : ReadToken site db input organization) {id' : InvitationId}
    {organizationId : OrganizationId}
    {read read' : InvitationRow} (hid : invitation = some (id, read))
    (hid' : organization = some (organizationId, id', read')) : id ≠ id' := by
  rintro rfl
  obtain ⟨initial, hinitial, hsame, -, hsecret⟩ := hcode id read hid
  obtain ⟨initial', hinitial', -, hnone, -⟩ := htoken organizationId id read' hid'
  rw [hinitial] at hinitial'
  cases hinitial'
  exact hsecret (hsame.fields.2.1.trans hnone)

/-- **The invitation to the organization is deleted.** -/
theorem Pending.consumeOrganization
    (h : Pending (.registering .consumeOrganization job) changes committed)
    (hread : (Pc.registering .consumeOrganization job).Read site db)
    (hmade : consumeOrganization site job (committed.apply changes) = some changes') :
    Pending (.registering .count job) (changes' ++ changes) committed := by
  unfold InvitationAccounting.consumeOrganization at hmade
  split at hmade
  · next hnone =>
    cases hmade
    exact h.quiet quiet_nil rfl (by simp [Pc.deleting, Phase.deleted, hnone]) rfl
  · next organizationId id read hjob =>
    split at hmade
    · cases hmade
    · next row hrow =>
      obtain ⟨-, hchanges⟩ := Option.ite_none_right_eq_some.mp hmade
      cases hchanges
      have hdeleting : (Pc.registering .count job).deleting = some id := by
        simp [Pc.deleting, Phase.deleted, hjob]
      have hother : ∀ id' read', (Pc.registering .consumeOrganization job).counting = some
        (id', read') →
          id' ≠ id := fun id' read' hcounting => ne_of_read hread.1 hread.2 hcounting hjob
      rw [findInvitation_apply_of_none
        (h.other id (fun read' hread' => hother id read' hread' rfl) nofun)] at hrow
      have hat : ∀ k, k ≠ .invitation id → (∀ key, k ≠ .organizationInvitation key) →
          Changes.at ((.invitation id, none) :: cascade (committed.apply changes) id ++ changes) k =
            Changes.at changes k := by
        intro k hk hlink
        refine at_append_of_notMem fun change hchange => ?_
        rcases List.mem_cons.mp hchange with rfl | hchange
        · exact hk.symm
        · obtain ⟨key, rfl⟩ := mem_cascade hchange
          exact (hlink key).symm
      refine ⟨fun id' read' hread' => ?_, fun id' hid' => ?_, fun id' hnot hnot' =>
        ?_, fun key v hat' => ?_,
        fun id' v hat' => ?_, nofun⟩
      · obtain ⟨row', hrow', hcount, hat'⟩ := h.counting id' read' hread'
        refine ⟨row', hrow', hcount, ?_⟩
        rw [hat (.invitation id') (by simpa using hother id' read' hread') (by simp)]
        exact hat'
      · rw [hdeleting] at hid'
        cases hid'
        rw [hrow]
        exact ⟨rfl, by rw [List.cons_append, Changes.at_cons, if_pos rfl]⟩
      · have hne : id' ≠ id := fun heq => hnot' (heq ▸ hdeleting)
        rw [hat (.invitation id') (by simpa using hne) (by simp)]
        exact h.other id' hnot nofun
      · rw [List.cons_append, Changes.at_cons, if_neg nofun, Changes.at_append] at hat'
        cases hcascade : Changes.at (cascade (committed.apply changes) id)
          (.organizationInvitation key) with
        | none =>
          rw [hcascade] at hat'
          exact h.link key v hat'
        | some v' =>
          rw [hcascade] at hat'
          cases hat'
          obtain ⟨key', hchange⟩ := mem_cascade (Changes.mem_of_at hcascade)
          exact congrArg Prod.snd hchange
      · rw [hat (.user id') (by simp) (by simp)] at hat'
        exact h.user id' v hat'

/-- **The account is made.** -/
theorem Pending.createUser {first : Bool} {defaultGroup : Option UserGroupId}
    (h : Pending (.registering (.create first defaultGroup) job) changes committed)
    (hmade : createUser job first defaultGroup (committed.apply changes) = some changes') :
    Pending (.registering (.account first) job) (changes' ++ changes) committed := by
  unfold InvitationAccounting.createUser at hmade
  obtain ⟨-, hchanges⟩ := Option.ite_none_left_eq_some.mp hmade
  obtain ⟨user, organization, rfl, hquiet⟩ : ∃ user organization,
      changes' = (.user job.input.id, some (.user user)) :: organization ∧ Quiet organization := by
    refine ⟨_, _, (Option.some.inj hchanges).symm, ?_⟩
    split
    · exact quiet_nil
    · simp [Quiet]
  have hquiet' : Pending (.registering (.create first defaultGroup) job)
    (organization ++ changes) committed :=
    h.quiet hquiet rfl rfl rfl
  have hat : ∀ k, k ≠ .user job.input.id →
      Changes.at ((.user job.input.id, some (.user user)) :: organization ++ changes) k =
        Changes.at (organization ++ changes) k := by
    intro k hk
    rw [List.cons_append, Changes.at_cons, if_neg hk.symm]
  refine ⟨fun id read hread => ?_, fun id hid => ?_, fun id hnot hnot' => ?_, fun key v hat' => ?_,
    fun id v hat' => ?_, fun id hid => ?_⟩
  · rw [hat (.invitation id) (by simp)]
    exact hquiet'.counting id read hread
  · rw [hat (.invitation id) (by simp)]
    exact hquiet'.deleting id hid
  · rw [hat (.invitation id) (by simp)]
    exact hquiet'.other id hnot hnot'
  · rw [hat (.organizationInvitation key) (by simp)] at hat'
    exact hquiet'.link key v hat'
  · by_cases hid : id = job.input.id
    · rw [List.cons_append, Changes.at_cons, if_pos (by rw [hid])] at hat'
      cases hat'
      exact ⟨user, rfl⟩
    · rw [hat (.user id) (by simpa using hid)] at hat'
      exact hquiet'.user id v hat'
  · cases hid
    exact ⟨user, by rw [List.cons_append, Changes.at_cons, if_pos rfl]⟩

/-- A registration that has not committed. -/
theorem Known.uncommitted (hread : pc.Read site db) (hpending : Pending pc changes committed)
    (hcreated : pc.created = none) : Known site db pc changes committed where
  read := hread
  pending := hpending
  account job hjob := by
    rw [hcreated] at hjob
    cases hjob

/-- **A statement of the transaction.** -/
theorem Known.transaction (h : Known site db (.registering phase job) changes committed)
    (hnext : transaction site job now (committed.apply changes) phase = .statement changes' pc') :
    Known site db pc' (changes' ++ changes) committed := by
  obtain ⟨hread, hpending, -⟩ := h
  cases phase with
  | lock =>
    cases hnext
    exact .uncommitted hread (hpending.quiet (by simp [Quiet]) rfl rfl rfl) rfl
  | settings =>
    obtain ⟨-, hnext⟩ | ⟨-, hnext⟩ := ite_eq_iff.mp hnext
    · cases hnext
      exact .uncommitted hread (hpending.quiet quiet_nil rfl rfl rfl) rfl
    · cases hnext
  | consumeInvitation =>
    obtain ⟨hmade, rfl⟩ := statement_eq hnext
    exact .uncommitted hread (hpending.consumeInvitation hmade) rfl
  | consumeOrganization =>
    obtain ⟨hmade, rfl⟩ := statement_eq hnext
    exact .uncommitted hread (hpending.consumeOrganization hread hmade) rfl
  | count =>
    cases hnext
    exact .uncommitted hread (hpending.quiet quiet_nil rfl rfl rfl) rfl
  | userGroup first =>
    cases hnext
    exact .uncommitted hread (hpending.quiet quiet_nil rfl rfl rfl) rfl
  | create first defaultGroup =>
    obtain ⟨hmade, rfl⟩ := statement_eq hnext
    exact .uncommitted hread (hpending.createUser hmade) rfl
  | account first =>
    cases hnext
    exact .uncommitted hread (hpending.quiet (by simp [Quiet]) rfl rfl rfl) rfl
  | close first =>
    obtain ⟨hmade, rfl⟩ := statement_eq hnext
    refine .uncommitted hread (hpending.quiet ?_ rfl rfl rfl) rfl
    unfold closeRegistration at hmade
    split at hmade
    · obtain ⟨-, hmade⟩ := Option.ite_none_right_eq_some.mp hmade
      cases hmade
      simp [Quiet]
    · cases hmade
      exact quiet_nil
  | commit => cases hnext

/-- **A statement.** -/
theorem Known.statement (hdb : Issued db) (hlasting : Lasting db committed)
    (h : Known site db pc changes committed)
    (hnext : (registerProgram site).next pc now (committed.apply changes) = some
      (.statement changes' pc')) :
    Known site db pc' (changes' ++ changes) committed := by
  have hseen := hlasting.apply h.pending
  cases pc with
  | begun input =>
    cases hnext
    exact .uncommitted trivial (h.pending.quiet quiet_nil rfl rfl rfl) rfl
  | organization input openRegistration =>
    simp only [registerProgram] at hnext
    split at hnext
    · cases hnext
    · next hfound =>
      cases hnext
      exact .uncommitted (readToken_of_validate hdb hseen hfound)
        (h.pending.quiet quiet_nil rfl rfl rfl) rfl
  | code input openRegistration found =>
    simp only [registerProgram] at hnext
    split at hnext
    · cases hnext
    · next hfound =>
      split at hnext
      · cases hnext
        exact .uncommitted ⟨readCode_of_find hseen hfound, h.read⟩
          (h.pending.quiet quiet_nil rfl rfl rfl) rfl
      · cases hnext
  | email job =>
    simp only [registerProgram] at hnext
    split at hnext
    · cases hnext
    · cases hnext
      exact .uncommitted h.read (h.pending.quiet quiet_nil rfl rfl rfl) rfl
  | registering phase job => exact h.transaction (Option.some.inj hnext)
  | committed job =>
    simp only [registerProgram] at hnext
    split at hnext
    · cases hnext
      exact ⟨h.read, h.pending.quiet quiet_nil rfl rfl rfl, h.account⟩
    · cases hnext
      exact ⟨h.read, h.pending.quiet quiet_nil rfl rfl rfl, h.account⟩
  | logging job =>
    cases hnext
    exact ⟨h.read, h.pending.quiet quiet_nil rfl rfl rfl, h.account⟩
  | done job | failed | failedCommitted job => cases hnext

/-- Nothing is pending where nothing is changed. -/
theorem pending_nil (hcounting : pc.counting = none) (hdeleting : pc.deleting = none)
    (hmaking : pc.making = none) : Pending pc [] committed := by
  refine ⟨?_, ?_, fun _ _ _ => rfl, fun _ _ hat => ?_, fun _ _ hat => ?_, ?_⟩
  · intro id read hread
    rw [hcounting] at hread
    cases hread
  · intro id hid
    rw [hdeleting] at hid
    cases hid
  · cases hat
  · cases hat
  · intro id hid
    rw [hmaking] at hid
    cases hid

/-- A statement that depends on its changes is made, or fails. -/
theorem statement_cases (made : Option (Changes RowKey Row)) (pc : Pc) :
    (∃ changes, statement made pc = .statement changes pc) ∨
    statement made pc = .rollback .failed := by
  cases made with
  | none => exact .inr rfl
  | some changes => exact .inl ⟨changes, rfl⟩

/-- **What a registration does next**: only its commit creates an account, and what fails by itself
has not committed. -/
theorem next_cases {move : Move Pc RowKey Row}
    (h : (registerProgram site).next pc now seen = some move) :
    (∃ changes pc', move = .statement changes pc' ∧ pc'.created = pc.created ∧ pc'.fails = false) ∨
      (move = .rollback .failed ∧ pc.created = none) ∨
      ∃ job, pc = .registering .commit job ∧ move = .commit (.committed job) := by
  cases pc with
  | begun input =>
    cases h
    exact .inl ⟨_, _, rfl, rfl, rfl⟩
  | organization input openRegistration =>
    simp only [registerProgram] at h
    split at h
    · cases h
      exact .inr (.inl ⟨rfl, rfl⟩)
    · cases h
      exact .inl ⟨_, _, rfl, rfl, rfl⟩
  | code input openRegistration found =>
    simp only [registerProgram] at h
    split at h
    · cases h
      exact .inr (.inl ⟨rfl, rfl⟩)
    · split at h
      · cases h
        exact .inl ⟨_, _, rfl, rfl, rfl⟩
      · cases h
        exact .inr (.inl ⟨rfl, rfl⟩)
  | email job =>
    simp only [registerProgram] at h
    split at h
    · cases h
      exact .inr (.inl ⟨rfl, rfl⟩)
    · cases h
      exact .inl ⟨_, _, rfl, rfl, rfl⟩
  | registering phase job =>
    have hmove := Option.some.inj h
    cases phase with
    | lock | count | userGroup _ | account _ =>
      cases hmove
      exact .inl ⟨_, _, rfl, rfl, rfl⟩
    | settings =>
      obtain ⟨-, hmove⟩ | ⟨-, hmove⟩ := ite_eq_iff.mp hmove
      · cases hmove
        exact .inl ⟨_, _, rfl, rfl, rfl⟩
      · cases hmove
        exact .inr (.inl ⟨rfl, rfl⟩)
    | consumeInvitation | consumeOrganization | create _ _ | close _ =>
      cases hmove
      obtain ⟨changes, hmade⟩ | hfailed := statement_cases _ _
      · exact .inl ⟨changes, _, hmade, rfl, rfl⟩
      · exact .inr (.inl ⟨hfailed, rfl⟩)
    | commit =>
      cases hmove
      exact .inr (.inr ⟨job, rfl, rfl⟩)
  | committed job =>
    simp only [registerProgram] at h
    split at h
    · cases h
      exact .inl ⟨_, _, rfl, rfl, rfl⟩
    · cases h
      exact .inl ⟨_, _, rfl, rfl, rfl⟩
  | logging job =>
    cases h
    exact .inl ⟨_, _, rfl, rfl, rfl⟩
  | done job | failed | failedCommitted job => cases h

/-- Where a registration goes that fails. -/
theorem fail_cases (h : (registerProgram site).fail pc = some pc') :
    (pc.answering = none ∧ pc.created = none ∧ pc' = .failed) ∨
      ∃ job, pc.answering = some job ∧ pc.created = some job ∧ pc' = .failedCommitted job := by
  cases pc with
  | committed job | logging job =>
    cases h
    exact .inr ⟨job, rfl, rfl, rfl⟩
  | done job | failed | failedCommitted job => cases h
  | begun _ | organization _ _ | code _ _ _ | email _ | registering _ _ =>
    cases h
    exact .inl ⟨rfl, rfl, rfl⟩

/-- The registrations keep what they know. -/
theorem known_keeps (hdb : Issued db) :
    TxKeepsOn (registerProgram site) (Lasting db) (Known site db) where
  init _ _ _ := .uncommitted trivial (pending_nil rfl rfl rfl) rfl
  statement _ _ _ _ _ _ hlasting h hnext := h.statement hdb hlasting hnext
  commit pc changes committed now pc' hlasting h hnext := by
    rcases next_cases hnext with ⟨_, _, hmove, -⟩ | ⟨hmove, -⟩ | ⟨job, rfl, hmove⟩
    · cases hmove
    · cases hmove
    · cases hmove
      refine ⟨hlasting.apply h.pending, h.read, pending_nil rfl rfl rfl, ?_⟩
      rintro _ hjob
      cases hjob
      obtain ⟨row, hat⟩ := h.pending.making job.input.id rfl
      exact ⟨row, Dict.get?_apply_of_at hat⟩
  rollback pc changes committed now pc' _ h hnext := by
    rcases next_cases hnext with ⟨_, _, hmove, -⟩ | ⟨hmove, -⟩ | ⟨_, -, hmove⟩
    · cases hmove
    · cases hmove
      exact .uncommitted trivial (pending_nil rfl rfl rfl) rfl
    · cases hmove
  fail pc changes committed pc' _ h hfail := by
    rcases fail_cases hfail with ⟨-, -, rfl⟩ | ⟨job, -, hcreated, rfl⟩
    · exact .uncommitted trivial (pending_nil rfl rfl rfl) rfl
    · refine ⟨?_, pending_nil rfl rfl rfl, ?_⟩
      · cases pc with
        | committed job' | logging job' =>
          cases hcreated
          exact h.read
        | _ => cases hfail
      · rintro _ hjob
        cases hjob
        exact h.account job hcreated
  other _ _ _ _ _ _ _ _ h hother hapart _ := h.other hother hapart

end

/-! ## 7. Counting -/

/-- The number of accounts that have been created with an invitation to the instance. -/
def counted (w : TxState Pc RowKey Row) (id : InvitationId) : Nat :=
  w.clients.countP fun client => client.pc.countsFor id

/-- The number of accounts that have been created with an invitation to an organization. -/
def joined (w : TxState Pc RowKey Row) (id : InvitationId) : Nat :=
  w.clients.countP fun client => client.pc.joinsWith id

/-- The invitation, used `n` times more. -/
def usedTimes (initial : InvitationRow) (n : Nat) : InvitationRow :=
  { initial with
    timesUsed := initial.timesUsed + n, used := initial.timesCanUse ≤ initial.timesUsed + n }

/-- What is committed of the invitations. -/
structure Counts (db : Tables) (w : TxState Pc RowKey Row) : Prop where
  row : ∀ id, findInvitation w.committed id =
    if joined w id = 0 then (findInvitation db id).map fun initial =>
      usedTimes initial (counted w id) else none
  joined_le : ∀ id, joined w id ≤ 1
  bound : ∀ id initial, findInvitation db id = some initial → 0 < counted w id →
    initial.timesUsed + counted w id ≤ initial.timesCanUse

section

variable {site : InvitationSite} {db : Tables} {w w' : TxState Pc RowKey Row}
  {event : TxEvent Invitations.RegisterInput Nat} {i : Nat}
    {client : Client Pc RowKey Row} {pc pc' : Pc}

theorem counts_start (hdb : Issued db) : Counts db ⟨db, []⟩ where
  row id := by
    cases hrow : findInvitation db id with
    | none => simp
    | some initial =>
      have hused : decide (initial.timesCanUse ≤ initial.timesUsed) = initial.used := by
        rw [Bool.eq_iff_iff, decide_eq_true_eq]
        exact (hdb.used id initial hrow).symm
      simp [joined, counted, usedTimes, hused]
  joined_le id := by simp [joined]
  bound id initial _ hpos := by simp [counted] at hpos

/-- A client moves that creates no account. -/
theorem Counts.of_created (h : Counts db w) (hclient : w.clients[i]? = some client)
    (hcreated : pc'.created = client.pc.created) (changes : Changes RowKey Row) :
    Counts db { w with clients := w.clients.set i ⟨pc', changes⟩ } := by
  have hcounted : ∀ id, counted { w with clients := w.clients.set i ⟨pc', changes⟩ } id =
    counted w id := by
    intro id
    have hset := countP_set_add (fun c : Client Pc RowKey Row => c.pc.countsFor id) hclient
      (b := ⟨pc', changes⟩)
    simp only [Pc.countsFor, hcreated, Nat.add_right_cancel_iff] at hset
    exact hset
  have hjoined : ∀ id, joined { w with clients := w.clients.set i ⟨pc', changes⟩ } id =
    joined w id := by
    intro id
    have hset := countP_set_add (fun c : Client Pc RowKey Row => c.pc.joinsWith id) hclient
      (b := ⟨pc', changes⟩)
    simp only [Pc.joinsWith, hcreated, Nat.add_right_cancel_iff] at hset
    exact hset
  constructor
  · simpa only [hcounted, hjoined] using h.row
  · simpa only [hjoined] using h.joined_le
  · simpa only [hcounted] using h.bound

theorem countsFor_iff {id : InvitationId} : pc.countsFor id = true ↔
    ∃ job read, pc.created = some job ∧ job.invitation = some (id, read) := by
  simp only [Pc.countsFor, Option.any_eq_true, decide_eq_true_eq]
  constructor
  · rintro ⟨job, hjob, ⟨_, read⟩, hread, rfl⟩
    exact ⟨job, read, hjob, hread⟩
  · rintro ⟨job, read, hjob, hread⟩
    exact ⟨job, hjob, _, hread, rfl⟩

theorem joinsWith_iff {id : InvitationId} : pc.joinsWith id = true ↔
    ∃ job organizationId read, pc.created = some job ∧
      job.organization = some (organizationId, id, read) := by
  simp only [Pc.joinsWith, Option.any_eq_true, decide_eq_true_eq]
  constructor
  · rintro ⟨job, hjob, ⟨organizationId, _, read⟩, hread, rfl⟩
    exact ⟨job, organizationId, read, hjob, hread⟩
  · rintro ⟨job, organizationId, read, hjob, hread⟩
    exact ⟨job, hjob, _, hread, rfl⟩

/-- An invitation that is used once more. -/
theorem consume_usedTimes {initial read : InvitationRow} {n : Nat}
    (hsame : SameInvitation read initial)
    (hread : (usedTimes initial n).timesUsed = read.timesUsed) :
    read.consume (usedTimes initial n) = usedTimes initial (n + 1) := by
  have hcan := hsame.fields.2.2
  simp only [usedTimes] at hread
  simp [InvitationRow.consume, usedTimes, hcan, ← hread, Nat.add_assoc]

/-- **A commit** counts the account where the invitations say so. -/
theorem Counts.commit (h : Counts db w) {job : RegisterJob} (hclient : w.clients[i]? = some client)
    (hpc : client.pc = .registering .commit job)
    (hknown : Known site db client.pc client.changes w.committed) :
    Counts db ⟨w.committed.apply client.changes, w.clients.set i ⟨.committed job, []⟩⟩ := by
  obtain ⟨pc, changes⟩ := client
  obtain rfl : pc = .registering .commit job := hpc
  obtain ⟨⟨hcode, htoken⟩, hpending, -⟩ := hknown
  generalize hw' : (⟨w.committed.apply changes, w.clients.set i ⟨.committed job, []⟩⟩ :
    TxState Pc RowKey Row) = w'
  have hcounted : ∀ id, counted w' id = counted w id + ((Pc.committed job).countsFor id).toNat :=
    fun id => by
    have hset := countP_set_add (fun c : Client Pc RowKey Row => c.pc.countsFor id) hclient
      (b := ⟨.committed job, []⟩)
    rw [← hw']
    exact hset
  have hjoined : ∀ id, joined w' id = joined w id + ((Pc.committed job).joinsWith id).toNat :=
    fun id => by
    have hset := countP_set_add (fun c : Client Pc RowKey Row => c.pc.joinsWith id) hclient
      (b := ⟨.committed job, []⟩)
    rw [← hw']
    exact hset
  have hcommitted : w'.committed = w.committed.apply changes := by rw [← hw']
  -- an invitation to an organization is deleted; one to the instance is counted; any other is left
  -- alone
  have hcases : ∀ id, (findInvitation w'.committed id = if joined w' id = 0 then
        (findInvitation db id).map fun initial => usedTimes initial (counted w' id) else none) ∧
      joined w' id ≤ 1 ∧ ∀ initial, findInvitation db id = some initial → 0 < counted w' id →
        initial.timesUsed + counted w' id ≤ initial.timesCanUse := by
    intro id
    have hrow := h.row id
    have hbound := h.bound id
    rw [hcounted, hjoined, hcommitted]
    cases horganization : (Pc.committed job).joinsWith id with
    | true =>
      obtain ⟨_, organizationId, read, hjob, hread⟩ := joinsWith_iff.mp horganization
      cases hjob
      obtain ⟨hsome, hat⟩ := hpending.deleting id (by simp [Pc.deleting, Phase.deleted, hread])
      -- the row was there, so nobody has joined with it
      have hnone : joined w id = 0 := by
        refine Classical.byContradiction fun hjoined => ?_
        rw [hrow, if_neg hjoined] at hsome
        cases hsome
      have hinvitation : (Pc.committed job).countsFor id = false := by
        refine Bool.eq_false_iff.mpr fun hinvitation => ?_
        obtain ⟨_, read', hjob', hread'⟩ := countsFor_iff.mp hinvitation
        cases hjob'
        exact ne_of_read hcode htoken hread' hread rfl
      rw [findInvitation_apply_of_some hat, hnone, hinvitation]
      exact ⟨rfl, le_rfl, hbound⟩
    | false =>
      have hnotdeleting : (Pc.registering .commit job).deleting ≠ some id := by
        intro hdeleting
        obtain ⟨⟨organizationId, _, read⟩, hread, rfl⟩ := Option.map_eq_some_iff.mp hdeleting
        exact Bool.eq_false_iff.mp horganization
          (joinsWith_iff.mpr ⟨job, organizationId, read, rfl, hread⟩)
      cases hinvitation : (Pc.committed job).countsFor id with
      | true =>
        obtain ⟨_, read, hjob, hread⟩ := countsFor_iff.mp hinvitation
        cases hjob
        obtain ⟨row, hcurrent, hcount, hat⟩ := hpending.counting id read hread
        obtain ⟨initial, hinitial, hsame, husable, -⟩ := hcode id read hread
        -- the row is still there, as it was read
        have hnone : joined w id = 0 := by
          refine Classical.byContradiction fun hjoined => ?_
          rw [hrow, if_neg hjoined] at hcurrent
          cases hcurrent
        rw [hrow, if_pos hnone, hinitial] at hcurrent
        obtain rfl := Option.some.inj hcurrent
        have hcan := hsame.fields.2.2
        rw [findInvitation_apply_of_some hat, hinitial, hnone]
        refine ⟨?_, Nat.zero_le _, fun initial' hinitial' _ => ?_⟩
        · rw [consume_usedTimes hsame hcount]
          rfl
        · cases hinitial'
          simp only [usedTimes] at hcount
          simp only [Bool.toNat_true]
          omega
      | false =>
        have hat := hpending.other id (fun read hread => Bool.eq_false_iff.mp hinvitation
          (countsFor_iff.mpr ⟨job, read, rfl, hread⟩)) hnotdeleting
        rw [findInvitation_apply_of_none hat]
        exact ⟨hrow, h.joined_le id, hbound⟩
  exact ⟨fun id => (hcases id).1, fun id => (hcases id).2.1, fun id => (hcases id).2.2⟩

/-! ## 8. Runs -/

/-- The invariant. -/
structure Kept (site : InvitationSite) (db : Tables) (w : TxState Pc RowKey Row) : Prop where
  lasting : Lasting db w.committed
  known : TxInvariant (Known site db) w
  counts : Counts db w

theorem kept_start (site : InvitationSite) (hdb : Issued db) : Kept site db ⟨db, []⟩ :=
  ⟨⟨fun _ row hrow => ⟨row, hrow, .refl row⟩, fun _ _ hrow => hrow⟩, txInvariant_nil _ db,
    counts_start hdb⟩

/-- The step lemma. -/
theorem Kept.step (hdb : Issued db) (h : Kept site db w)
    (hstep : (txMachine (registerProgram site)).step w event = some w') : Kept site db w' := by
  obtain ⟨hlasting, hknown⟩ := tx_invariant_step_on (known_keeps hdb) h.lasting h.known hstep
  refine ⟨hlasting, hknown, ?_⟩
  rcases tx_step_cases hstep with ⟨input, rfl, rfl⟩ |
    ⟨i, now, client, changes, pc, rfl, hclient, hnext, -, rfl⟩ |
    ⟨i, now, client, pc, rfl, hclient, hnext, rfl⟩ | ⟨i, client, pc, hclient, hends, rfl⟩
  · obtain ⟨hrow, hjoined, hbound⟩ := h.counts
    constructor
    · simpa [counted, joined, registerProgram, Pc.countsFor, Pc.joinsWith, Pc.created] using hrow
    · simpa [joined, registerProgram, Pc.joinsWith, Pc.created] using hjoined
    · simpa [counted, registerProgram, Pc.countsFor, Pc.created] using hbound
  · rcases next_cases hnext with ⟨_, _, hmove, hcreated, -⟩ | ⟨hmove, -⟩ | ⟨_, -, hmove⟩
    · cases hmove
      exact h.counts.of_created hclient hcreated _
    · cases hmove
    · cases hmove
  · rcases next_cases hnext with ⟨_, _, hmove, -⟩ | ⟨hmove, -⟩ | ⟨job, hpc, hmove⟩
    · cases hmove
    · cases hmove
    · cases hmove
      exact h.counts.commit hclient hpc (h.known.client client (List.mem_of_getElem? hclient))
  · refine h.counts.of_created hclient ?_ _
    rcases hends with ⟨now, -, hnext⟩ | ⟨-, hfail⟩
    · rcases next_cases hnext with ⟨_, _, hmove, -⟩ | ⟨hmove, hcreated⟩ | ⟨_, -, hmove⟩
      · cases hmove
      · cases hmove
        exact hcreated.symm
      · cases hmove
    · rcases fail_cases hfail with ⟨-, hcreated, rfl⟩ | ⟨job, -, hcreated, rfl⟩
      · exact hcreated.symm
      · exact hcreated.symm

/-- What a registration has read whose account is created. -/
theorem Kept.read (h : Kept site db w) (hmem : client ∈ w.clients) {job : RegisterJob}
    (hcreated : client.pc.created = some job) :
    ReadCode db job.invitation ∧ ReadToken site db job.input job.organization := by
  have hread := (h.known.client client hmem).read
  cases hpc : client.pc with
  | committed job' | logging job' | done job' | failedCommitted job' =>
    rw [hpc] at hcreated hread
    cases hcreated
    exact hread
  | _ =>
    rw [hpc] at hcreated
    cases hcreated

/-- An invitation that an account has been created with is of one of the two kinds. -/
theorem Kept.createdWith_cases (h : Kept site db w) (id : InvitationId) :
    joined w id = 0 ∧ createdWith w id = counted w id ∨ joined w id ≠ 0 ∧
      createdWith w id = joined w id := by
  by_cases hjoined : joined w id = 0
  · refine .inl ⟨hjoined, List.countP_congr fun client hmem => ?_⟩
    rw [Bool.eq_false_iff.mpr (List.countP_eq_zero.mp hjoined client hmem), Bool.or_false]
  · refine .inr ⟨hjoined, List.countP_congr fun client hmem => ?_⟩
    obtain ⟨client', hmem', hjoins⟩ := List.countP_pos_iff.mp (Nat.pos_of_ne_zero hjoined)
    have hcounts : client.pc.countsFor id = false := by
      refine Bool.eq_false_iff.mpr fun hcounts => ?_
      obtain ⟨job, read, hjob, hread⟩ := countsFor_iff.mp hcounts
      obtain ⟨job', organizationId, read', hjob', hread'⟩ := joinsWith_iff.mp hjoins
      exact ne_of_read (h.read hmem hjob).1 (h.read hmem' hjob').2 hread hread' rfl
    rw [hcounts, Bool.false_or]

/-- An invitation that is there has been counted on. -/
theorem Kept.row (h : Kept site db w) {id : InvitationId} {row : InvitationRow}
    (hrow : findInvitation w.committed id = some row) :
    ∃ initial, findInvitation db id = some initial ∧
      row = usedTimes initial (createdWith w id) := by
  rw [h.counts.row] at hrow
  obtain ⟨hnone, hrow⟩ := Option.ite_none_right_eq_some.mp hrow
  obtain ⟨initial, hinitial, rfl⟩ := Option.map_eq_some_iff.mp hrow
  rcases h.createdWith_cases id with ⟨-, hcounted⟩ | ⟨hjoined, -⟩
  · exact ⟨initial, hinitial, by rw [hcounted]⟩
  · exact absurd hnone hjoined

/-- **The tables say how many accounts have been created.** -/
theorem Kept.accounted (hdb : Issued db) (h : Kept site db w) : Accounted site db w where
  account client hmem := (h.known.client client hmem).account
  limit id initial hinitial := by
    rcases h.createdWith_cases id with ⟨-, hcounted⟩ | ⟨-, hjoined⟩
    · rw [hcounted]
      rcases Nat.eq_zero_or_pos (counted w id) with hzero | hpos
      · omega
      · have hbound := h.counts.bound id initial hinitial hpos
        omega
    · rw [hjoined]
      exact (h.counts.joined_le id).trans (hdb.timesCanUse id initial hinitial)
  timesUsed id initial row hinitial hrow := by
    obtain ⟨initial', hinitial', rfl⟩ := h.row hrow
    rw [hinitial] at hinitial'
    cases hinitial'
    rfl
  used id row hrow := by
    obtain ⟨initial, -, rfl⟩ := h.row hrow
    simp [usedTimes]
  token token := by
    rcases Nat.eq_zero_or_pos (w.clients.countP fun client => client.pc.joinsBy site token)
      with hzero | hpos
    · exact hzero.trans_le (Nat.zero_le 1)
    -- what the token stands for
    have hby : ∀ client ∈ w.clients, client.pc.joinsBy site token = true → ∃ id initial,
        findInvitation db id = some initial ∧ initial.token = token ∧
          client.pc.joinsWith id = true := by
      intro client hmem hjoins
      simp only [Pc.joinsBy, Option.any_eq_true, Bool.and_eq_true, decide_eq_true_eq] at hjoins
      obtain ⟨job, hjob, horganization, hgiven⟩ := hjoins
      obtain ⟨⟨organizationId, id, read⟩, hread⟩ := Option.isSome_iff_exists.mp horganization
      obtain ⟨initial, hinitial, -, -, htoken⟩ := (h.read hmem hjob).2 organizationId id read hread
      rw [hgiven, Option.some.injEq] at htoken
      exact ⟨id, initial, hinitial, htoken.symm,
        joinsWith_iff.mpr ⟨job, organizationId, read, hjob, hread⟩⟩
    obtain ⟨client, hmem, hjoins⟩ := List.countP_pos_iff.mp hpos
    obtain ⟨id, initial, hinitial, htoken, -⟩ := hby client hmem hjoins
    refine (List.countP_mono_left fun client' hmem' hjoins' => ?_).trans (h.counts.joined_le id)
    obtain ⟨id', initial', hinitial', htoken', hid'⟩ := hby client' hmem' hjoins'
    rwa [hdb.token id id' initial initial' hinitial hinitial' (htoken.trans htoken'.symm)]

/-- A client moves: failures still use nothing exactly if its own does not. -/
theorem failuresUseNothing_set (h : FailuresUseNothing w) (hclient : w.clients[i]? = some client)
    {client' : Client Pc RowKey Row} (d : Tables) :
    FailuresUseNothing ⟨d, w.clients.set i client'⟩ ↔
      (client'.pc.fails = true → ∀ job, client'.pc.created = some job → job.invited = false) := by
  constructor
  · exact fun hset => hset client' (List.mem_of_getElem? (List.getElem?_set_self
      (List.getElem?_eq_some_iff.mp hclient).1))
  · intro hown other hmem
    rcases List.mem_or_eq_of_mem_set hmem with hmem | rfl
    · exact h other hmem
    · exact hown

/-- **A step** lets a failure use nothing exactly if no registration fails that has used an
invitation. -/
theorem failuresUseNothing_step (h : FailuresUseNothing w)
    (hstep : (txMachine (registerProgram site)).step w event = some w') :
    FailuresUseNothing w' ↔ Undisturbed w event = true := by
  rcases tx_step_cases hstep with ⟨input, rfl, rfl⟩ |
    ⟨i, now, client, changes, pc, rfl, hclient, hnext, -, rfl⟩ |
    ⟨i, now, client, pc, rfl, hclient, hnext, rfl⟩ | ⟨i, client, pc, hclient, hends, rfl⟩
  · exact iff_of_true (forall_mem_append_one h nofun) rfl
  · rw [failuresUseNothing_set h hclient]
    rcases next_cases hnext with ⟨_, _, hmove, -, hfails⟩ | ⟨hmove, -⟩ | ⟨_, -, hmove⟩
    · cases hmove
      exact iff_of_true (fun hfailed => absurd hfailed (by simp [hfails])) rfl
    · cases hmove
    · cases hmove
  · rw [failuresUseNothing_set h hclient]
    rcases next_cases hnext with ⟨_, _, hmove, -⟩ | ⟨hmove, -⟩ | ⟨job, -, hmove⟩
    · cases hmove
    · cases hmove
    · cases hmove
      exact iff_of_true (fun hfailed => absurd hfailed Bool.false_ne_true) rfl
  · rw [failuresUseNothing_set h hclient]
    rcases hends with ⟨now, rfl, hnext⟩ | ⟨rfl, hfail⟩
    · rcases next_cases hnext with ⟨_, _, hmove, -⟩ | ⟨hmove, -⟩ | ⟨_, -, hmove⟩
      · cases hmove
      · cases hmove
        exact iff_of_true (fun _ _ hcreated => absurd hcreated (Option.some_ne_none _).symm) rfl
      · cases hmove
    · have hpc : w.pcAt i = some client.pc := by rw [TxState.pcAt, hclient, Option.map_some]
      rw [Undisturbed, hpc]
      rcases fail_cases hfail with ⟨hanswering, -, rfl⟩ | ⟨job, hanswering, -, rfl⟩
      · exact iff_of_true (fun _ _ hcreated => absurd hcreated (Option.some_ne_none _).symm)
          (by simp [hanswering])
      · simp [hanswering, Pc.fails, Pc.created]

/-- What cannot fail now does not disturb. -/
theorem undisturbed_of_stuck (hstuck : (txMachine (registerProgram site)).step w event = none) :
    Undisturbed w event = true := by
  cases event with
  | start _ | step _ _ => rfl
  | fail i =>
    rw [Undisturbed, TxState.pcAt]
    cases hclient : w.clients[i]? with
    | none => rfl
    | some client =>
      have hfail : (registerProgram site).fail client.pc = none := by
        simpa [txMachine, hclient] using hstuck
      cases hpc : client.pc with
      | committed job | logging job =>
        rw [hpc] at hfail
        cases hfail
      | _ => simp [hpc, Pc.answering]

/-- **Invitation accounting.**  All along a run, the tables say how many accounts have been created
with each invitation, and a registration that fails has used none, if and only if no registration
that has used an invitation fails behind its commit. -/
theorem accounting_iff (site : InvitationSite) (db : Tables) (hdb : Issued db)
    (events : List (TxEvent Invitations.RegisterInput Nat)) :
    (∀ es, es <+: events → ∀ w, (txMachine (registerProgram site)).run ⟨db, []⟩ es = some w →
      Accounted site db w ∧ FailuresUseNothing w) ↔
    (txMachine (registerProgram site)).Conforms (fun w event => Undisturbed w event = true)
    ⟨db, []⟩ events := by
  refine Machine.holds_iff_conforms (I := fun w => Kept site db w ∧ FailuresUseNothing w)
    (fun w h => ⟨h.1.accounted hdb, h.2⟩)
    (fun w event w' h hok hstep =>
      ⟨h.1.step hdb hstep, (failuresUseNothing_step h.2 hstep).mpr hok⟩)
    (fun w event w' h hnot hstep h' => hnot ((failuresUseNothing_step h.2 hstep).mp h'.2))
    (fun w event hstuck => undisturbed_of_stuck hstuck) events
    ⟨kept_start site hdb, by simp [FailuresUseNothing]⟩

end

/-- A site where a text needs no trimming and one token is known. -/
def exampleSite : InvitationSite where
  decode token := if token = "org"
    then some ⟨some "cleo@example.org", some 10, none, some 1, none⟩ else none
  verify _ := true
  trim text := text
  normalizeEmail email := email

/-- An invitation to the instance that can be used once. -/
def exampleCode : InvitationRow := ⟨"invite", some "code", none, .user, false, 0, 1, 100, 1, none⟩

/-- An invitation to organization 10. -/
def exampleInvite : InvitationRow :=
  ⟨"org", none, some "cleo@example.org", .user, false, 0, 1, 100, 1, none⟩

/-- An instance with an administrator and the two invitations. -/
def exampleTables : Tables where
  entries := [(.globalOptions, .globalOptions false),
    (.user 1, .user ⟨"ada@example.org", "Ada", .admin, none⟩),
    (.invitation 20, .invitation exampleCode), (.invitation 30, .invitation exampleInvite),
    (.organizationInvitation 31, .organizationInvitation ⟨30, 10⟩)]
  nodup := by decide

theorem issued_exampleTables : Issued exampleTables := by
  have hrows : ∀ id row, findInvitation exampleTables id = some row →
      id = 20 ∧ row = exampleCode ∨ id = 30 ∧ row = exampleInvite := by
    intro id row hrow
    have hmem := Dict.get?_eq_some_iff.mp (findInvitation_eq_some.mp hrow)
    simpa [exampleTables] using hmem
  refine ⟨fun id id' row row' hrow hrow' htoken => ?_, fun id row hrow => ?_, fun id row hrow => ?_,
    fun key row invitation hlink hrow => ?_⟩
  · rcases hrows id row hrow with ⟨rfl, rfl⟩ | ⟨rfl, rfl⟩ <;>
      rcases hrows id' row' hrow' with ⟨rfl, rfl⟩ | ⟨rfl, rfl⟩
    · rfl
    · exact absurd htoken (by decide)
    · exact absurd htoken (by decide)
    · rfl
  · rcases hrows id row hrow with ⟨-, rfl⟩ | ⟨-, rfl⟩ <;> decide
  · rcases hrows id row hrow with ⟨-, rfl⟩ | ⟨-, rfl⟩ <;> decide
  · have hmem := Dict.get?_eq_some_iff.mp hlink
    obtain ⟨-, rfl⟩ : key = 31 ∧ row = ⟨30, 10⟩ := by simpa [exampleTables] using hmem
    rcases hrows _ invitation hrow with ⟨hid, -⟩ | ⟨-, rfl⟩
    · exact absurd hid (by decide)
    · rfl

/-- A registration with the code. -/
def withCode (id : UserId) (email : EmailAddress) : Invitations.RegisterInput :=
  ⟨id, email, "Bea", some "code", none, some "invite"⟩

/-- A registration with the token of the organization. -/
def withToken (id : UserId) : Invitations.RegisterInput :=
  ⟨id, "cleo@example.org", "Cleo", none, some "org", none⟩

/-- Two registrations with the code at once, and one with the token. -/
def exampleRace : List (TxEvent Invitations.RegisterInput Nat) :=
  [.start (withCode 2 "bea@example.org"), .start (withCode 3 "dan@example.org"),
    .start (withToken 4)] ++
    ([0, 0, 0, 0, 1, 1, 1, 1, 2, 2, 2, 2] ++ List.replicate 10 0 ++ [0, 1, 1, 1] ++
      List.replicate 12 2).map
      fun i => .step i 5

theorem accounting_iff_race : ∃ w,
    (txMachine (registerProgram exampleSite)).run ⟨exampleTables, []⟩ exampleRace = some w ∧
      createdWith w 20 = 1 ∧ createdWith w 30 = 1 ∧ Accounted exampleSite exampleTables w ∧
      FailuresUseNothing w := by
  refine Machine.exists_run (P := fun w => createdWith w 20 = 1 ∧ createdWith w 30 = 1)
    (by decide +kernel)
    fun w hw hcreated => ⟨hcreated.1, hcreated.2, ?_⟩
  exact (accounting_iff exampleSite exampleTables issued_exampleTables exampleRace).mpr
    (by decide +kernel)
    exampleRace (List.prefix_refl _) w hw

/-- A registration with the token whose entry in the activity log fails. -/
def exampleFailure : List (TxEvent Invitations.RegisterInput Nat) :=
  .start (withToken 4) :: List.replicate 15 (.step 0 5) ++ [.fail 0]

/-- **A registration that fails has used its invitation**: the account is there, and its invitation
is gone. -/
theorem failure_uses_invitation : ∃ w,
    (txMachine (registerProgram exampleSite)).run ⟨exampleTables, []⟩ exampleFailure = some w ∧
      (w.pcAt 0).map Pc.fails = some true ∧
      w.committed.get? (.user 4) = some (.user ⟨"cleo@example.org", "Cleo", .user, none⟩) ∧
      findInvitation w.committed 30 = none ∧ ¬ FailuresUseNothing w := by
  refine Machine.exists_run (P := fun w => w.clients.map Client.pc =
      [.failedCommitted ⟨withToken 4, none, some (10, 30, exampleInvite)⟩] ∧
      w.committed.get? (.user 4) = some (.user ⟨"cleo@example.org", "Cleo", .user, none⟩) ∧
      findInvitation w.committed 30 = none) (by decide +kernel) ?_
  rintro w - ⟨hpcs, huser, hgone⟩
  obtain ⟨client, hclients, hpc⟩ := List.map_eq_singleton_iff.mp hpcs
  refine ⟨?_, huser, hgone, fun h => ?_⟩
  · rw [TxState.pcAt, hclients]
    simp [hpc, Pc.fails]
  · have hnothing := h client (by simp [hclients]) (by simp [hpc, Pc.fails]) _ (by rw [hpc]; rfl)
    exact absurd hnothing (by decide)

end ZtPlanet.Ztnet.InvitationAccounting
