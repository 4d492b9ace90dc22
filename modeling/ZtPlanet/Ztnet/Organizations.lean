/-
# Who belongs to an organization

That a user belongs to an organization is kept twice: the relation `MemberRelation` connects the
two, and `UserOrganizationRole` has a row with the user's role there.  The procedures that bring a
user in or take one out are here, with those that change a role and those that make and revoke
invitations.

A call of the Prisma client is atomic, a nested write and a transaction included; between two calls
of a procedure other procedures may act.  `Query.run` says what each call does.  What a write does
to the two tables is one of four things, and `Change` names them, so that no proof about runs looks
at a call again.
-/
import ZtPlanet.Ztnet.Invitation
import ZtPlanet.Lib.Faults
import ZtPlanet.Lib.Interleave

namespace ZtPlanet.Ztnet.Organizations

open ZtPlanet.Lib ZtPlanet.Ztnet.Invitations

/-! ## 1. The tables -/

/-- `User`. -/
structure User where
  email : EmailAddress
  name : String
  role : Role
deriving DecidableEq

/-- `Organization`. -/
structure Organization where
  ownerId : UserId
  orgName : String
deriving DecidableEq

structure Store where
  /-- `Date.now()` -/
  now : Nat
  /-- `enableRegistration`, where the row of `GlobalOptions` is there -/
  globalOptions : Option Bool
  users : Dict UserId User
  organizations : Dict OrganizationId Organization
  memberRelation : Dict (UserId × OrganizationId) Unit
  userRoles : Dict (UserId × OrganizationId) Role
  invitations : Dict InvitationId InvitationRow
  organizationInvitations : Dict OrganizationInvitationId OrganizationInvitationRow
  activityLog : List ActivityLogRow

/-- `user.findFirst({ where: { email } })`. -/
def Store.findUserByEmail (s : Store) (email : EmailAddress) : Option (UserId × User) :=
  s.users.entries.find? fun entry => entry.2.email = email

/-- `invitation.findFirst` with the token. -/
def Store.findInvitation (s : Store) (token : Token) : Option (InvitationId × InvitationRow) :=
  s.invitations.entries.find? fun entry => entry.2.token = token

/-- `organizationInvitation.findFirst` with a condition on the invitation, which comes along. -/
def Store.findOrganizationInvitation (s : Store) (p : InvitationRow → Bool) :
    Option (OrganizationId × InvitationId × InvitationRow) :=
  s.organizationInvitations.entries.findSome? fun entry =>
    ((s.invitations.get? entry.2.invitationId).filter p).map fun row =>
      (entry.2.organizationId, entry.2.invitationId, row)

/-- The invitation is for the organization. -/
def Store.invites (s : Store) (invitationId : InvitationId)
    (organizationId : OrganizationId) : Bool :=
  s.organizationInvitations.entries.any fun entry =>
    entry.2.invitationId = invitationId && entry.2.organizationId = organizationId

/-! ## 2. What the procedures ask for -/

/-- The text of a role. -/
def roleOfName : String → Option Role
  | "READ_ONLY" => some .readOnly
  | "USER" => some .user
  | "MODERATOR" => some .moderator
  | "ADMIN" => some .admin
  | _ => none

/-- What `createUser` works with, with the id that the new row gets. -/
structure CreateUserInput where
  id : UserId
  name : String
  email : EmailAddress
  role : Role
  /-- the organization that the account is to join -/
  organizationId : Option OrganizationId
  organizationRole : Role
deriving DecidableEq

/-- A call of the Prisma client. -/
inductive Query where
  | readClock
  /-- time that passes -/
  | advance (ms : Nat)
  /-- `userOrganizationRole.findFirst` -/
  | findUserOrganizationRole (organizationId : OrganizationId) (userId : UserId)
  | findUser (id : UserId)
  | findUserByEmail (email : EmailAddress)
  /-- `organization.findUnique`, with the ids of its users -/
  | findOrganization (id : OrganizationId)
  | createActivityLog (performedById : UserId) (organizationId : OrganizationId)
  /-- the transaction of `createOrg` -/
  | createOrganization (id : OrganizationId) (orgName : String) (ownerId : UserId)
  /-- `organization.update`, which creates the role and connects the user -/
  | joinOrganization (organizationId : OrganizationId) (userId : UserId) (role : Role)
  /-- the same, for the invitation with the token -/
  | acceptInvite (token : Token) (organizationId : OrganizationId) (userId : UserId) (role : Role)
  /-- `organization.update`, which disconnects the user and deletes the role -/
  | leaveOrganization (organizationId : OrganizationId) (userId : UserId)
  /-- `userOrganizationRole.update` -/
  | updateRole (organizationId : OrganizationId) (userId : UserId) (role : Role)
  /-- `invitation.findFirst({ where: { token } })` -/
  | findInvitation (token : Token)
  /-- `invitation.findUnique({ where: { token, secret } })` -/
  | findInvitationBySecret (token : Token) (secret : String)
  /-- `invitation.deleteMany` with the address, for the organization -/
  | deleteInvitations (email : EmailAddress) (organizationId : OrganizationId)
  /-- `organizationInvitation.findFirst` of `validateOrganizationToken` -/
  | findOrganizationInvitation (token : Token) (payload : TokenPayload)
  /-- `organizationInvitation.findFirst` with the address -/
  | findPendingInvitation (organizationId : OrganizationId) (email : EmailAddress)
  /-- `invitation.create`, with its row of `OrganizationInvitation` -/
  | createInvitation (id : InvitationId) (inviteId : OrganizationInvitationId)
      (organizationId : OrganizationId) (row : InvitationRow)
  /-- `organizationInvitation.deleteMany` -/
  | deleteInvite (organizationId : OrganizationId) (inviteId : OrganizationInvitationId)
  /-- `globalOptions.findFirst`, whether registration is open -/
  | findSettings
  /-- the transaction of `register` -/
  | commitRegistration (job : RegisterJob)
  /-- the transaction of `createUser` -/
  | commitUser (callerId : UserId) (input : CreateUserInput)
deriving DecidableEq

@[reducible] def Query.Ans : Query → Type
  | .readClock => Nat
  | .findUserOrganizationRole _ _ => Option Role
  | .findUser _ => Option User
  | .findUserByEmail _ => Option (UserId × User)
  | .findOrganization _ => Option (Organization × List UserId)
  | .findInvitation _ | .findInvitationBySecret _ _ => Option (InvitationId × InvitationRow)
  | .findOrganizationInvitation _ _ => Option (OrganizationId × InvitationId × InvitationRow)
  | .findPendingInvitation _ _ | .findSettings => Bool
  | .deleteInvite _ _ => Nat
  | _ => Unit

/-! ## 3. What the writes do -/

/-- What PostgreSQL answers where a row with the key is there already. -/
def uniqueFailure : Failure := .error "Unique constraint failed"

/-- `organization.create`, with the owner connected and an administrator. -/
def Store.createOrganization (s : Store) (id : OrganizationId) (orgName : String)
    (ownerId : UserId) :
    Except Failure Unit × Store :=
  if s.organizations.contains id || s.userRoles.contains (ownerId, id)
    then (.error uniqueFailure, s)
  else if !s.users.contains ownerId then (.error foreignKeyFailure, s)
  else
    (.ok (), { s with
      organizations := s.organizations.set id ⟨ownerId, orgName⟩
      memberRelation := s.memberRelation.set (ownerId, id) ()
      userRoles := s.userRoles.set (ownerId, id) .admin })

/-- The user can join: both are there, and there is no row with a role. -/
def Store.canJoin (s : Store) (organizationId : OrganizationId) (userId : UserId) : Bool :=
  s.organizations.contains organizationId && s.users.contains userId &&
    !s.userRoles.contains (userId, organizationId)

/-- The tables with the user connected and with a role. -/
def Store.withMember (s : Store) (organizationId : OrganizationId) (userId : UserId) (role : Role) :
    Store :=
  { s with
    memberRelation := s.memberRelation.set (userId, organizationId) ()
    userRoles := s.userRoles.set (userId, organizationId) role }

/-- `organization.update({ data: { userRoles: { create }, users: { connect } } })`. -/
def Store.joinOrganization (s : Store) (organizationId : OrganizationId) (userId : UserId)
    (role : Role) : Except Failure Unit × Store :=
  if s.canJoin organizationId userId then (.ok (), s.withMember organizationId userId role)
  else (.error missingRecord, s)

/-- `organization.update({ data: { users: { disconnect }, userRoles: { deleteMany } } })`. -/
def Store.leaveOrganization (s : Store) (organizationId : OrganizationId) (userId : UserId) :
    Except Failure Unit × Store :=
  if s.organizations.contains organizationId then
    (.ok (), { s with
      memberRelation := s.memberRelation.erase (userId, organizationId)
      userRoles := s.userRoles.erase (userId, organizationId) })
  else (.error missingRecord, s)

/-- `userOrganizationRole.update`. -/
def Store.updateRole (s : Store) (organizationId : OrganizationId) (userId : UserId) (role : Role) :
    Except Failure Unit × Store :=
  if s.userRoles.contains (userId, organizationId) then
    (.ok (), { s with userRoles := s.userRoles.set (userId, organizationId) role })
  else (.error missingRecord, s)

/-- Invitations that are deleted take their rows of `OrganizationInvitation` along. -/
def Store.dropInvitations (s : Store) (p : InvitationId → InvitationRow → Bool) : Store :=
  { s with
    invitations := s.invitations.filter fun id row => !p id row
    organizationInvitations := s.organizationInvitations.filter fun _ invite =>
      !(s.invitations.get? invite.invitationId).any (p invite.invitationId) }

/-- `invitation.create`. -/
def Store.createInvitation (s : Store) (id : InvitationId) (inviteId : OrganizationInvitationId)
    (organizationId : OrganizationId) (row : InvitationRow) : Except Failure Unit × Store :=
  if s.invitations.contains id || s.organizationInvitations.contains inviteId ||
      (s.findInvitation row.token).isSome then (.error uniqueFailure, s)
  else if !s.organizations.contains organizationId || !s.users.contains row.invitedById then
    (.error foreignKeyFailure, s)
  else
    (.ok (), { s with
      invitations := s.invitations.set id row
      organizationInvitations := s.organizationInvitations.set inviteId ⟨id, organizationId⟩ })

/-- `organizationInvitation.deleteMany({ where: { organizationId, id } })`. -/
def Store.deleteInvite (s : Store) (organizationId : OrganizationId)
    (inviteId : OrganizationInvitationId) : Except Failure Nat × Store :=
  if (s.organizationInvitations.get? inviteId).any fun invite =>
      invite.organizationId = organizationId then
    (.ok 1, { s with organizationInvitations := s.organizationInvitations.erase inviteId })
  else (.ok 0, s)

/-- `user.create`. -/
def Store.createUser (s : Store) (id : UserId) (user : User) : Option Store :=
  if s.users.contains id || (s.findUserByEmail user.email).isSome then none
  else some { s with users := s.users.set id user }

/-- The transaction of `register` uses the invitation to the instance. -/
def Store.consumeInvitation (s : Store) (job : RegisterJob) : Option Store :=
  match job.invitation with
  | none => some s
  | some (id, read) =>
    match s.invitations.get? id with
    | some row =>
      if read.consumable s.now row then
        some { s with invitations := s.invitations.set id (read.consume row) }
      else none
    | none => none

/-- The transaction of `register` deletes the invitation to the organization. -/
def Store.consumeOrganization (site : InvitationSite) (s : Store) (job : RegisterJob) :
    Option Store :=
  match job.organization with
  | none => some s
  | some (_, invitationId, _) =>
    if (s.invitations.get? invitationId).any fun row =>
        site.given job.input.ztnetOrganizationToken = some row.token then
      some (s.dropInvitations fun id _ => id = invitationId)
    else none

/-- The new account joins the organization of its invitation. -/
def Store.joinInvited (s : Store) (job : RegisterJob) : Option Store :=
  match job.organization with
  | none => some s
  | some (organizationId, _, invitation) =>
    if s.canJoin organizationId job.input.id then
      some (s.withMember organizationId job.input.id invitation.role)
    else none

/-- The first registration closes registration. -/
def Store.closeRegistration (s : Store) (first : Bool) : Option Store :=
  if first then s.globalOptions.map fun _ => { s with globalOptions := some false } else some s

/-- The statements of the transaction of `register`. -/
def Store.register (site : InvitationSite) (s : Store) (job : RegisterJob) : Option Store := do
  if s.globalOptions ≠ some true && !job.invited then none
  else
    let consumed ← (← s.consumeInvitation job).consumeOrganization site job
    let first := consumed.users.size = 0
    let created ← consumed.createUser job.input.id ⟨job.input.email, job.input.name, job.role first⟩
    (← created.joinInvited job).closeRegistration first

/-- The statements of the transaction of `createUser`. -/
def Store.commitUser (s : Store) (callerId : UserId) (input : CreateUserInput) : Option Store := do
  if input.organizationId.any fun id =>
      !(s.organizations.get? id).any fun organization => organization.ownerId = callerId then none
  else
    let created ← s.createUser input.id ⟨input.email, input.name, input.role⟩
    match input.organizationId with
    | none => some created
    | some id =>
      if created.canJoin id input.id
        then some (created.withMember id input.id input.organizationRole)
      else none

/-- A transaction commits, or leaves everything as it was. -/
def Store.commit (s : Store) : Option Store → Except Failure Unit × Store
  | some t => (.ok (), t)
  | none => (.error (.trpc .badRequest "The transaction is rolled back."), s)

/-- `activityLog.create`. -/
def Store.createActivityLog (s : Store) (performedById : UserId) (organizationId : OrganizationId) :
    Except Failure Unit × Store :=
  if s.users.contains performedById && s.organizations.contains organizationId then
    (.ok (), { s with activityLog := s.activityLog ++ [⟨performedById, some organizationId⟩] })
  else (.error foreignKeyFailure, s)

/-- What each call returns and does. -/
def Query.run (site : InvitationSite) : (q : Query) → Store → Except Failure q.Ans × Store
  | .readClock, s => (.ok s.now, s)
  | .advance ms, s => (.ok (), { s with now := s.now + ms })
  | .findUserOrganizationRole organizationId userId, s =>
    (.ok (s.userRoles.get? (userId, organizationId)), s)
  | .findUser id, s => (.ok (s.users.get? id), s)
  | .findUserByEmail email, s => (.ok (s.findUserByEmail email), s)
  | .findOrganization id, s =>
    (.ok ((s.organizations.get? id).map fun organization =>
      (organization, (s.memberRelation.keys.filter fun key => key.2 = id).map Prod.fst)), s)
  | .createActivityLog performedById organizationId, s =>
    s.createActivityLog performedById organizationId
  | .createOrganization id orgName ownerId, s => s.createOrganization id orgName ownerId
  | .joinOrganization organizationId userId role, s => s.joinOrganization organizationId userId role
  | .acceptInvite _ organizationId userId role, s => s.joinOrganization organizationId userId role
  | .leaveOrganization organizationId userId, s => s.leaveOrganization organizationId userId
  | .updateRole organizationId userId role, s => s.updateRole organizationId userId role
  | .findInvitation token, s => (.ok (s.findInvitation token), s)
  | .findInvitationBySecret token secret, s =>
    (.ok ((s.findInvitation token).filter fun entry => entry.2.secret = some secret), s)
  | .deleteInvitations email organizationId, s =>
    (.ok (), s.dropInvitations fun id row => row.email = some email && s.invites id organizationId)
  | .findOrganizationInvitation token payload, s =>
    (.ok (s.findOrganizationInvitation (payload.matches token)), s)
  | .findPendingInvitation organizationId email, s =>
    (.ok (s.invitations.entries.any fun entry =>
      entry.2.email = some email && s.invites entry.1 organizationId), s)
  | .createInvitation id inviteId organizationId row, s =>
    s.createInvitation id inviteId organizationId row
  | .deleteInvite organizationId inviteId, s => s.deleteInvite organizationId inviteId
  | .findSettings, s => (.ok (s.globalOptions = some true), s)
  | .commitRegistration job, s => s.commit (s.register site job)
  | .commitUser callerId input, s => s.commit (s.commitUser callerId input)

abbrev Act : Type := Call Query

def handle (site : InvitationSite) : Prog.Handler Act (Call.Ans Query.Ans) Failure Store :=
  faulty (.error "The database cannot be reached.") (Query.run site)

/-! ## 4. Procedures -/

abbrev Proc (α : Type) : Type := Prog Act (Call.Ans Query.Ans) Failure α

/-- What a procedure asks of other parties. -/
inductive Consultation where
  /-- the check of the rate limit -/
  | checkLimit
  | sendWebhook
  | sendMail
  /-- what the password and the date of expiry are refused for -/
  | validateInput

/-- What happens to one call of a procedure from outside. -/
structure Plan where
  outcome : Query → Outcome
  answer : Consultation → Except Failure Unit

def perform (plan : Plan) (query : Query) : Proc query.Ans :=
  Prog.call (⟨query, plan.outcome query⟩ : Act)

def consult (plan : Plan) (consultation : Consultation) : Proc Unit :=
  Prog.ofExcept (plan.answer consultation)

/-- `Date.now()`. -/
def readClock : Proc Nat := Prog.call (⟨.readClock, .done⟩ : Act)

def throwMessage {α : Type} (message : String) : Proc α := throw (.error message)

def throwTRPC {α : Type} (message : String) : Proc α := throw (.trpc .badRequest message)

/-- `adminRoleProtectedRoute`. -/
def requireAdmin (plan : Plan) (callerId : UserId) : Proc Unit := do
  let user ← perform plan (.findUser callerId)
  if user.any fun user => user.role = .admin then pure () else throw (.trpc .forbidden "")

/-- `checkUserOrganizationRole`. -/
def checkUserOrganizationRole (plan : Plan) (callerId : UserId) (organizationId : OrganizationId)
    (minimumRequiredRole : Role) : Proc Unit := do
  let orgUserRole ← perform plan (.findUserOrganizationRole organizationId callerId)
  match orgUserRole with
  | none =>
    throwMessage ("You are not a member of this organization. " ++
      "Contact your organization administrator to request access.")
  | some role =>
    if role = .admin then pure ()
    else if minimumRequiredRole.value ≤ role.value then pure ()
    else
      throwMessage ("You don't have required permission to perform this action. " ++
        "Contact your organization administrator to request access.")

/-- `createOrg`, with the id of the new row. -/
def createOrg (plan : Plan) (callerId : UserId) (id : OrganizationId) (orgName : String) :
    Proc Unit := do
  requireAdmin plan callerId
  perform plan (.createOrganization id orgName callerId)

/-- The part of `changeUserRole` behind its checks.  The notification of the administrators changes
nothing and never fails. -/
def writeRole (plan : Plan) (callerId : UserId) (organizationId : OrganizationId) (userId : UserId)
    (role : String) : Proc Unit := do
  let _currentRole ← perform plan (.findUserOrganizationRole organizationId userId)
  perform plan (.createActivityLog callerId organizationId)
  match roleOfName role with
  | none => throwMessage "Invalid value for argument role. Expected Role."
  | some role => perform plan (.updateRole organizationId userId role)

/-- The name of the user goes into the entry of the activity log. -/
def requireUser (plan : Plan) (userId : UserId) : Proc Unit := do
  let user ← perform plan (.findUser userId)
  if user.isSome then pure () else throwMessage "Cannot read properties of null (reading 'name')"

/-- `changeUserRole`; an id of an organization that is empty is `none`. -/
def changeUserRole (plan : Plan) (callerId : UserId) (organizationId : Option OrganizationId)
    (userId : UserId) (role : String) : Proc Unit := do
  if userId = callerId then throwMessage "You cannot change your own role."
  else
    match organizationId with
    | some organizationId => do
      checkUserOrganizationRole plan callerId organizationId .admin
      requireUser plan userId
      writeRole plan callerId organizationId userId role
    | none => do
      requireUser plan userId
      -- no row of `UserOrganizationRole` has an empty id
      throw missingRecord

/-- `addUser`. -/
def addUser (plan : Plan) (callerId : UserId) (organizationId : OrganizationId) (userId : UserId)
    (organizationRole : Role) : Proc Unit := do
  if organizationRole = .moderator then throwTRPC "Invalid input"
  else
    checkUserOrganizationRole plan callerId organizationId .admin
    let userRole ← perform plan (.findUserOrganizationRole organizationId userId)
    if userRole.isSome then throwMessage "User is already a member of the organization."
    else
      perform plan (.createActivityLog callerId organizationId)
      perform plan (.joinOrganization organizationId userId organizationRole)

/-- `leave`. -/
def leave (plan : Plan) (callerId : UserId) (organizationId : OrganizationId) (userId : UserId) :
    Proc Unit := do
  let isSelfLeave := callerId = userId
  checkUserOrganizationRole plan callerId organizationId (if isSelfLeave then .readOnly else .admin)
  let org ← perform plan (.findOrganization organizationId)
  match org with
  | none => throwMessage "Cannot read properties of null (reading 'users')"
  | some (org, users) =>
    if org.ownerId = userId then throwMessage "You cannot kick the organization owner."
    else if userId ∉ users then throwMessage "User not found in organization."
    else
      let _fullUser ← perform plan (.findUser userId)
      tryCatch (consult plan .sendWebhook) fun error => throwTRPC error.message
      perform plan (.leaveOrganization organizationId userId)
      perform plan (.createActivityLog callerId organizationId)

/-- The generic answer to an invitation that is not valid. -/
def invalidLink : String := "An error occurred while processing the invitation link."

/-- An existing user accepts the invitation of a token. -/
def acceptInvitation (plan : Plan) (token : Token) (payload : TokenPayload) (email : EmailAddress)
    (userId : UserId) : Proc Unit := do
  match payload.organizationId, payload.role with
  | some organizationId, some role => do
    let isMember ← perform plan (.findUserOrganizationRole organizationId userId)
    if isMember.isSome then throwMessage "You are already a member of the organization."
    else
      perform plan (.acceptInvite token organizationId userId role)
      perform plan (.deleteInvitations email organizationId)
      match payload.invitedById with
      | none => throwMessage "Argument performedById is missing."
      | some invitedById => perform plan (.createActivityLog invitedById organizationId)
  -- the call of Prisma misses an argument
  | _, _ => throwMessage "Argument is missing."

/-- The body of `preValidateUserInvite`, whose errors are thrown anew. -/
def validateInvite (site : InvitationSite) (plan : Plan) (token : Token) : Proc Unit := do
  match site.decode token with
  | none => throwMessage "Unexpected token"
  | some payload =>
    match payload.email with
    | none => throwMessage invalidLink
    | some email => do
      let invitation ← perform plan (.findInvitation token)
      match invitation with
      | none => throwMessage invalidLink
      | some (_, invitation) => do
        let now ← readClock
        if invitation.expiresAt < now then throwMessage invalidLink
        else
          let doesUserExist ← perform plan (.findUserByEmail (site.normalizeEmail email))
          match doesUserExist with
          | some (userId, _) => acceptInvitation plan token payload email userId
          | none => pure ()

/-- `preValidateUserInvite`. -/
def preValidateUserInvite (site : InvitationSite) (plan : Plan) (token : Token) : Proc Unit := do
  if token = "" then throwMessage invalidLink
  else
    consult plan .checkLimit
    tryCatch (validateInvite site plan token) fun error => throwMessage error.message

/-- `inviteUserByMail`, with the ids of the new rows and the token that `encrypt` makes. -/
def inviteUserByMail (plan : Plan) (callerId : UserId)
    (organizationId : OrganizationId) (role : Role)
    (email : EmailAddress) (id : InvitationId) (inviteId : OrganizationInvitationId)
    (token : Token) :
    Proc Unit := do
  if email = "" then throwMessage "Email cannot be empty."
  else
    checkUserOrganizationRole plan callerId organizationId .admin
    let doesUserExist ← perform plan (.findUserByEmail email)
    match doesUserExist with
    | some (userId, _) => do
      let isMember ← perform plan (.findUserOrganizationRole organizationId userId)
      if isMember.isSome then throwMessage "User is already a member of the organization."
      else send
    | none => send
where
  send : Proc Unit := do
    let existingInvitation ← perform plan (.findPendingInvitation organizationId email)
    if existingInvitation then throwMessage "User already has a pending invitation."
    else
      tryCatch (do
        let now ← readClock
        let organization ← perform plan (.findOrganization organizationId)
        if organization.isNone then throwMessage "Organization not found."
        else
          perform plan (.createActivityLog callerId organizationId)
          consult plan .sendMail
          perform plan (.createInvitation id inviteId organizationId
            { token := token, secret := none, email := some email, role := role, used := false
              timesUsed := 0, timesCanUse := 1, expiresAt := now + 86400000, invitedById := callerId
              userGroupId := none }))
        fun error => throwTRPC error.message

/-- `deleteInvite`. -/
def deleteInvite (plan : Plan) (callerId : UserId) (organizationId : OrganizationId)
    (inviteId : OrganizationInvitationId) : Proc Unit := do
  checkUserOrganizationRole plan callerId organizationId .admin
  let _count ← perform plan (.deleteInvite organizationId inviteId)

/-- The body of `validateOrganizationToken`, for a token that is given. -/
def checkOrganizationToken (site : InvitationSite) (plan : Plan) (token : Token)
    (inputEmail : EmailAddress) :
    Proc (Option (OrganizationId × InvitationId × InvitationRow)) :=
  match site.decode token with
  | none => throwTRPC "Unexpected token"
  | some payload =>
    match payload.email with
    | none => throwTRPC "Invalid token data!"
    | some email => do
      let now ← readClock
      if payload.expired now then throwTRPC "Token expired!"
      else
        let orgInvitationData ← perform plan (.findOrganizationInvitation token payload)
        if orgInvitationData.isNone then throwTRPC "Invalid token data!"
        else if site.normalizeEmail inputEmail ≠ site.normalizeEmail email then
          throwTRPC "Invalid token data!"
        else return orgInvitationData

/-- `validateOrganizationToken`; every error becomes the same. -/
def validateOrganizationToken (site : InvitationSite) (plan : Plan)
    (organizationToken : Option String)
    (inputEmail : EmailAddress) : Proc (Option (OrganizationId × InvitationId × InvitationRow)) :=
  match site.given organizationToken with
  | none => pure none
  | some token =>
    tryCatch (checkOrganizationToken site plan token inputEmail) fun _ =>
      throwTRPC "Invalid token data!"

/-- The invitation to the instance that `register` is given. -/
def findValidCode (site : InvitationSite) (plan : Plan) (input : Invitations.RegisterInput) :
    Proc (Option (InvitationId × InvitationRow)) :=
  match site.given input.ztnetInvitationCode, site.given input.token with
  | none, none => pure none
  | some ztnetInvitationCode, some token => do
    let invitation ← perform plan (.findInvitationBySecret token ztnetInvitationCode)
    let now ← readClock
    match invitation with
    | none => throwTRPC "Invitation has expired or is invalid"
    | some (id, row) =>
      if row.refused site input.email now then throwTRPC "Code has already been used"
      else if !site.verify token then throwTRPC "Invitation has expired or is invalid"
      else return some (id, row)
  | _, _ => throwTRPC "No invitation code provided"

/-- `register`. -/
def register (site : InvitationSite) (plan : Plan) (input : Invitations.RegisterInput) :
    Proc Unit := do
  consult plan .checkLimit
  consult plan .validateInput
  let enableRegistration ← perform plan .findSettings
  let decryptedOrgToken ← validateOrganizationToken site plan
    input.ztnetOrganizationToken input.email
  let invitation ← findValidCode site plan input
  let job : RegisterJob := ⟨input, invitation, decryptedOrgToken⟩
  if !enableRegistration && !job.invited then
    throwTRPC "Registration is disabled! Please contact the administrator."
  else
    let registerUser ← perform plan (.findUserByEmail input.email)
    if registerUser.isSome then throw (.trpc .notFound "already taken")
    else
      perform plan (.commitRegistration job)
      let _globalOptions ← perform plan .findSettings
      match decryptedOrgToken with
      | some (organizationId, _, invitation) =>
        perform plan (.createActivityLog invitation.invitedById organizationId)
      | none => pure ()

/-- `createUser` of the administrators. -/
def createUser (plan : Plan) (callerId : UserId) (input : CreateUserInput) : Proc Unit := do
  requireAdmin plan callerId
  let existingUser ← perform plan (.findUserByEmail input.email)
  if existingUser.isSome then throwTRPC "User with this email already exists"
  else perform plan (.commitUser callerId input)

/-- A request. -/
inductive Request where
  | createOrg (callerId : UserId) (id : OrganizationId) (orgName : String)
  | changeUserRole (callerId : UserId) (organizationId : Option OrganizationId) (userId : UserId)
      (role : String)
  | addUser (callerId : UserId) (organizationId : OrganizationId) (userId : UserId)
      (organizationRole : Role)
  | leave (callerId : UserId) (organizationId : OrganizationId) (userId : UserId)
  | preValidateUserInvite (token : Token)
  | inviteUserByMail (callerId : UserId) (organizationId : OrganizationId) (role : Role)
      (email : EmailAddress) (id : InvitationId) (inviteId : OrganizationInvitationId)
      (token : Token)
  | deleteInvite (callerId : UserId) (organizationId : OrganizationId)
      (inviteId : OrganizationInvitationId)
  | register (input : Invitations.RegisterInput)
  | createUser (callerId : UserId) (input : CreateUserInput)
  /-- time passes -/
  | wait (ms : Nat)

/-- A request, with what happens to it from outside. -/
structure Op where
  plan : Plan
  request : Request

def Op.program (site : InvitationSite) (op : Op) : Proc Unit :=
  match op.request with
  | .createOrg callerId id orgName => createOrg op.plan callerId id orgName
  | .changeUserRole callerId organizationId userId role =>
    changeUserRole op.plan callerId organizationId userId role
  | .addUser callerId organizationId userId role =>
    addUser op.plan callerId organizationId userId role
  | .leave callerId organizationId userId => leave op.plan callerId organizationId userId
  | .preValidateUserInvite token => preValidateUserInvite site op.plan token
  | .inviteUserByMail callerId organizationId role email id inviteId token =>
    inviteUserByMail op.plan callerId organizationId role email id inviteId token
  | .deleteInvite callerId organizationId inviteId =>
    deleteInvite op.plan callerId organizationId inviteId
  | .register input => register site op.plan input
  | .createUser callerId input => createUser op.plan callerId input
  | .wait ms => Prog.call (⟨.advance ms, .done⟩ : Act)

/-- The requests, which take turns. -/
def organizationMachine (site : InvitationSite) :
    Machine (PoolState Act (Call.Ans Query.Ans) Failure Unit Store) (PoolEvent Op) :=
  poolMachine (handle site) (Op.program site)

end ZtPlanet.Ztnet.Organizations
