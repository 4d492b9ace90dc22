/-
# What ZTNET's procedures talk to

A procedure of ZTNET asks two parties: the database, through the Prisma client, and everything
else (the ZeroTier controller, webhooks, background jobs).  `Query` lists the database calls of
the modelled procedures and `Query.run` says what each does to the tables; `Remote` lists the
rest.  What a remote operation answers is not ZTNET's to say, so it is part of a call: its `Plan`.
A call performs an operation with the same arguments at most once, so a plan is a function of the
operation.

The ids of users, organizations and tokens are only ever compared; they are numbers here.  The ids
of networks and members are texts, since they also become parts of the controller's paths.  Wherever
the source takes an optional id it asks whether it is truthy, so an empty id and a missing one are
both `none`.  There is one controller, the one of the installation.
-/
import ZtPlanet.Lib.Dict
import ZtPlanet.Lib.Prog

namespace ZtPlanet.Ztnet

open ZtPlanet.Lib

/-! ## 1. Names and values -/

abbrev UserId : Type := Nat
abbrev OrganizationId : Type := Nat
abbrev NetworkId : Type := String
abbrev MemberId : Type := String
abbrev TokenId : Type := Nat
abbrev ApiKey : Type := Nat

/-- A JSON value; a number is kept as it is written. -/
inductive Json where
  | null
  | bool (b : Bool)
  | num (literal : String)
  | str (s : String)
  | arr (items : List Json)
  | obj (members : List (String × Json))

/-- `Role`, in its order. -/
inductive Role where
  | readOnly
  | user
  | moderator
  | admin
deriving DecidableEq

/-- `Role[role]`. -/
def Role.value : Role → Nat
  | .readOnly => 0
  | .user => 1
  | .moderator => 2
  | .admin => 3

/-- The error codes that the modelled procedures use. -/
inductive Code where
  | badRequest
  | unauthorized
  | forbidden
  | notFound
  | tooManyRequests
  | internalServerError
deriving DecidableEq

/-- `getHTTPStatusCodeFromError`. -/
def Code.httpStatus : Code → Nat
  | .badRequest => 400
  | .unauthorized => 401
  | .forbidden => 403
  | .notFound => 404
  | .tooManyRequests => 429
  | .internalServerError => 500

/-- What a procedure throws. -/
inductive Failure where
  /-- `TRPCError`, or the `APIError` of better-auth -/
  | trpc (code : Code) (message : String)
  /-- any other `Error`, `TRPCClientError` and `APIError` among them -/
  | error (message : String)
deriving DecidableEq

def Failure.message : Failure → String
  | .trpc _ message | .error message => message

/-! ## 2. The tables -/

/-- A managed route, of the database or of the controller. -/
structure Route where
  target : String
  via : Option String
deriving DecidableEq

/-- `network`. -/
structure NetworkRow where
  name : Option String
  description : Option String
  flowRule : Option String
  authorId : Option UserId
  organizationId : Option OrganizationId
  routes : List Route
deriving DecidableEq

/-- `network_members`. -/
structure MemberRow where
  name : Option String
  description : Option String
  authorized : Option Bool
  deleted : Option Bool
  ipAssignments : List String
  noAutoAssignIps : Bool
  activeBridge : Bool
deriving DecidableEq

/-- `Organization`, with its settings and the members of its `users` relation. -/
structure OrganizationRow where
  users : List UserId
  /-- `settings.renameNodeGlobally`, where there is a row of settings -/
  settings : Option (Option Bool)
deriving DecidableEq

/-- `APIToken`. -/
structure ApiTokenRow where
  token : ApiKey
  userId : UserId
  expiresAt : Option Nat
deriving DecidableEq

/-- `ActivityLog`. -/
structure ActivityLogRow where
  performedById : UserId
  organizationId : Option OrganizationId
deriving DecidableEq

/-- The database. -/
structure Db where
  /-- `User.role` -/
  users : Dict UserId Role
  /-- `UserOptions.renameNodeGlobally` -/
  userOptions : Dict UserId (Option Bool)
  apiTokens : Dict TokenId ApiTokenRow
  organizations : Dict OrganizationId OrganizationRow
  userOrganizationRoles : Dict (UserId × OrganizationId) Role
  networks : Dict NetworkId NetworkRow
  members : Dict (MemberId × NetworkId) MemberRow
  activityLog : List ActivityLogRow

/-! ## 3. The calls of the Prisma client -/

/-- `data` of an update of a network; a field that is `none` stays as it is. -/
structure NetworkData where
  name : Option String
  description : Option String
  flowRule : Option String

/-- `data` of an update of a member; a field that is `none` stays as it is. -/
structure MemberData where
  name : Option String
  description : Option String
  authorized : Option Bool
  ipAssignments : Option (List String)
  noAutoAssignIps : Option Bool
  activeBridge : Option Bool

/-- The condition on the owner in the `where` of a network query. -/
inductive Owner where
  | organization (id : OrganizationId)
  | author (id : UserId)

/-- A call of the Prisma client. -/
inductive Query where
  /-- `aPIToken.findUnique({ where: { id, userId } })` -/
  | findApiToken (id : TokenId) (userId : UserId)
  /-- `user.findUnique`, with its tokens of the given text -/
  | findUser (id : UserId) (token : ApiKey)
  /-- `userOrganizationRole.findFirst` -/
  | findUserOrganizationRole (organizationId : OrganizationId) (userId : UserId)
  /-- `network.findUnique` -/
  | findNetwork (nwid : NetworkId)
  /-- `network.findFirst` -/
  | findNetworkOf (nwid : NetworkId) (owner : Owner)
  /-- `organization.findFirst({ where: { id, users: { some } } })` -/
  | findOrganizationOf (id : OrganizationId) (userId : UserId)
  | createActivityLog (performedById : UserId) (organizationId : Option OrganizationId)
  | updateNetwork (nwid : NetworkId) (data : NetworkData)
  /-- `network.deleteMany` -/
  | deleteNetworks (nwid : NetworkId) (owner : Owner)
  /-- `network_members.count({ where: { nwid } })` -/
  | countMembers (nwid : NetworkId)
  | findUserOptions (userId : UserId)
  | upsertOrganizationSettings (organizationId : OrganizationId)
  /-- the networks other than `nwid` with the member, among those of an author that belong to no
  organization -/
  | findPersonalNetworks (memberId : MemberId) (nwid : NetworkId) (authorId : UserId)
  /-- the networks other than `nwid` with the member, among those of an organization -/
  | findOrganizationNetworks (memberId : MemberId) (nwid : NetworkId)
      (organizationId : OrganizationId)
  /-- `network_members.updateMany({ where: { id, nwid, deleted: false } })` -/
  | updateMembers (memberId : MemberId) (nwid : NetworkId) (data : MemberData)
  | findMember (memberId : MemberId) (nwid : NetworkId)
  /-- `network_members.update` -/
  | updateMember (memberId : MemberId) (nwid : NetworkId) (data : MemberData)

/-- What a call returns. -/
@[reducible] def Query.Ans : Query → Type
  | .findApiToken _ _ => Option ApiTokenRow
  | .findUser _ _ => Option (Role × List ApiTokenRow)
  | .findUserOrganizationRole _ _ => Option Role
  | .findNetwork _ | .findNetworkOf _ _ => Option NetworkRow
  | .findOrganizationOf _ _ => Bool
  | .countMembers _ => Nat
  | .findUserOptions _ => Option (Option Bool)
  | .upsertOrganizationSettings _ => Option Bool
  | .findPersonalNetworks _ _ _ | .findOrganizationNetworks _ _ _ => List NetworkId
  | .findMember _ _ => Option MemberRow
  | .updateMember _ _ _ => MemberRow
  | _ => Unit

/-- The row of a network satisfies the condition on its owner. -/
def Owner.matches (owner : Owner) (network : NetworkRow) : Bool :=
  match owner with
  | .organization id => network.organizationId == some id
  | .author id => network.authorId == some id

def NetworkData.apply (data : NetworkData) (network : NetworkRow) : NetworkRow :=
  { network with
    name := data.name <|> network.name
    description := data.description <|> network.description
    flowRule := data.flowRule <|> network.flowRule }

def MemberData.apply (data : MemberData) (member : MemberRow) : MemberRow :=
  { member with
    name := data.name <|> member.name
    description := data.description <|> member.description
    authorized := data.authorized <|> member.authorized
    ipAssignments := data.ipAssignments.getD member.ipAssignments
    noAutoAssignIps := data.noAutoAssignIps.getD member.noAutoAssignIps
    activeBridge := data.activeBridge.getD member.activeBridge }

/-- The tokens of a user with a given text. -/
def Db.apiTokensOf (db : Db) (userId : UserId) (token : ApiKey) : List ApiTokenRow :=
  (db.apiTokens.entries.map Prod.snd).filter fun row => row.userId == userId && row.token == token

/-- The networks other than `nwid` in which the member is not deleted and whose row satisfies
`p`. -/
def Db.networksWithMember (db : Db) (memberId : MemberId) (nwid : NetworkId)
    (p : NetworkRow → Bool) : List NetworkId :=
  (db.members.filter fun key member =>
    key.1 == memberId && member.deleted == some false && key.2 != nwid &&
      (db.networks.get? key.2).any p).keys.map Prod.snd

/-- What PostgreSQL answers where a referenced row is missing. -/
def foreignKeyFailure : Failure := .error "Foreign key constraint violated"

/-- What Prisma answers where the row to update is missing. -/
def missingRecord : Failure := .error "No record was found for an update."

/-- `activityLog.create`. -/
def Db.createActivityLog (db : Db) (performedById : UserId)
    (organizationId : Option OrganizationId) : Except Failure Unit × Db :=
  if db.users.contains performedById && organizationId.all db.organizations.contains then
    (.ok (), { db with activityLog := db.activityLog ++ [⟨performedById, organizationId⟩] })
  else (.error foreignKeyFailure, db)

/-- `network.update`. -/
def Db.updateNetwork (db : Db) (nwid : NetworkId) (data : NetworkData) : Except Failure Unit × Db :=
  match db.networks.get? nwid with
  | some network => (.ok (), { db with networks := db.networks.set nwid (data.apply network) })
  | none => (.error missingRecord, db)

/-- `network.deleteMany`, which takes the members along. -/
def Db.deleteNetworks (db : Db) (nwid : NetworkId) (owner : Owner) : Db :=
  if (db.networks.get? nwid).any owner.matches then
    { db with
      networks := db.networks.erase nwid
      members := db.members.filter fun key _ => key.2 != nwid }
  else db

/-- `organizationSettings.upsert` with nothing to update. -/
def Db.upsertOrganizationSettings (db : Db) (organizationId : OrganizationId) :
    Except Failure (Option Bool) × Db :=
  match db.organizations.get? organizationId with
  | none => (.error foreignKeyFailure, db)
  | some organization =>
    match organization.settings with
    | some renameNodeGlobally => (.ok renameNodeGlobally, db)
    | none =>
      (.ok (some false), { db with
        organizations := db.organizations.set organizationId
          { organization with settings := some (some false) } })

/-- `network_members.updateMany`. -/
def Db.updateMembers (db : Db) (memberId : MemberId) (nwid : NetworkId) (data : MemberData) : Db :=
  match db.members.get? (memberId, nwid) with
  | some member =>
    if member.deleted = some false then
      { db with members := db.members.set (memberId, nwid) (data.apply member) }
    else db
  | none => db

/-- `network_members.update`. -/
def Db.updateMember (db : Db) (memberId : MemberId) (nwid : NetworkId) (data : MemberData) :
    Except Failure MemberRow × Db :=
  match db.members.get? (memberId, nwid) with
  | some member =>
    (.ok (data.apply member), { db with
      members := db.members.set (memberId, nwid) (data.apply member) })
  | none => (.error missingRecord, db)

/-- What each call returns and does to the tables. -/
def Query.run : (q : Query) → Db → Except Failure q.Ans × Db
  | .findApiToken id userId, db =>
    (.ok ((db.apiTokens.get? id).filter fun token => token.userId == userId), db)
  | .findUser id token, db =>
    (.ok ((db.users.get? id).map fun role => (role, db.apiTokensOf id token)), db)
  | .findUserOrganizationRole organizationId userId, db =>
    (.ok (db.userOrganizationRoles.get? (userId, organizationId)), db)
  | .findNetwork nwid, db => (.ok (db.networks.get? nwid), db)
  | .findNetworkOf nwid owner, db => (.ok ((db.networks.get? nwid).filter owner.matches), db)
  | .findOrganizationOf id userId, db =>
    (.ok ((db.organizations.get? id).any fun organization => organization.users.contains userId),
      db)
  | .createActivityLog performedById organizationId, db =>
    db.createActivityLog performedById organizationId
  | .updateNetwork nwid data, db => db.updateNetwork nwid data
  | .deleteNetworks nwid owner, db => (.ok (), db.deleteNetworks nwid owner)
  | .countMembers nwid, db => (.ok (db.members.filter fun key _ => key.2 == nwid).size, db)
  | .findUserOptions userId, db => (.ok (db.userOptions.get? userId), db)
  | .upsertOrganizationSettings organizationId, db => db.upsertOrganizationSettings organizationId
  | .findPersonalNetworks memberId nwid authorId, db =>
    (.ok (db.networksWithMember memberId nwid fun network =>
      network.authorId == some authorId && network.organizationId.isNone), db)
  | .findOrganizationNetworks memberId nwid organizationId, db =>
    (.ok (db.networksWithMember memberId nwid fun network =>
      network.organizationId == some organizationId), db)
  | .updateMembers memberId nwid data, db => (.ok (), db.updateMembers memberId nwid data)
  | .findMember memberId nwid, db => (.ok (db.members.get? (memberId, nwid)), db)
  | .updateMember memberId nwid data, db => db.updateMember memberId nwid data

/-! ## 4. The other parties -/

/-- `updateParams` of a member: what the controller is sent. -/
structure UpdateParams where
  name : Option String
  description : Option String
  activeBridge : Option Bool
  noAutoAssignIps : Option Bool
  ipAssignments : Option (List String)
  authorized : Option Bool
  capabilities : Option (List Json)
  tags : Option (List (Json × Json))

/-- What the controller holds about a network. -/
structure NetworkEntity where
  routes : Option (List Route)
  fields : List (String × Json)

/-- What `RuleCompiler` makes of a text. -/
structure CompiledRules where
  rules : List Json
  capabilities : List Json
  tags : List Json

/-- What the controller is sent about a network. -/
inductive NetworkPayload where
  | fields (fields : List (String × Json))
  | rules (compiled : CompiledRules)

/-- An operation of another party. -/
inductive Remote where
  /-- `limiter.check` -/
  | checkLimit
  /-- `ztController.get_network` -/
  | getNetwork (nwid : NetworkId)
  /-- `ztController.local_network_and_membercount` -/
  | localNetworkAndMembercount (nwid : NetworkId)
  /-- `ztController.network_members`, the keys of its answer -/
  | networkMembers (nwid : NetworkId)
  | networkUpdate (nwid : NetworkId) (payload : NetworkPayload)
  | networkDelete (nwid : NetworkId)
  | memberUpdate (central : Bool) (nwid : NetworkId) (memberId : MemberId) (params : UpdateParams)
  | sendWebhook (organizationId : Option OrganizationId) (nwid : NetworkId)
  /-- `sendOrganizationAdminNotification` -/
  | notifyAdmins (organizationId : OrganizationId) (nwid : NetworkId)
  /-- `reconcileNetworkMembersOnce`, which refreshes the cached rows of the members -/
  | reconcileMembers (nwid : NetworkId)
  /-- `triggerBackgroundReconcile` -/
  | triggerReconcile (nwid : NetworkId)
  /-- `syncNetworkRoutesOnce`, which refreshes the cached rows of the routes -/
  | syncRoutes (nwid : NetworkId) (routes : List Route)
  /-- `recordMemberAction`, which enqueues a notification -/
  | recordMemberAction (nwid : NetworkId) (memberId : MemberId)

@[reducible] def Remote.Ans : Remote → Type
  | .getNetwork _ => Option NetworkEntity
  | .localNetworkAndMembercount _ => Option NetworkEntity
  | .networkMembers _ => List MemberId
  | _ => Unit

/-! ## 5. Procedures -/

/-- What a procedure can do. -/
inductive Act where
  | db (query : Query)
  | remote (operation : Remote)

@[reducible] def Act.Ans : Act → Type
  | .db query => query.Ans
  | .remote operation => operation.Ans

/-- A procedure. -/
abbrev Procedure (α : Type) : Type := Prog Act Act.Ans Failure α

abbrev prisma (query : Query) : Procedure query.Ans := Prog.call (Act.db query)

abbrev remote (operation : Remote) : Procedure operation.Ans := Prog.call (Act.remote operation)

/-- `throwError(message, code)`. -/
def throwTRPC {α : Type} (message : String) (code : Code) : Procedure α :=
  throw (.trpc code message)

/-- A step that is taken only where `condition` holds. -/
def onlyIf (condition : Bool) (p : Procedure Unit) : Procedure Unit :=
  if condition then p else pure ()

/-- What the other parties answer during one call. -/
abbrev Plan : Type := (operation : Remote) → Except Failure operation.Ans

/-- A query acts on the database; the answer of another party comes from the plan. -/
def handle (plan : Plan) : Prog.Handler Act Act.Ans Failure Db
  | .db query, db => query.run db
  | .remote operation, db => (plan operation, db)

end ZtPlanet.Ztnet
