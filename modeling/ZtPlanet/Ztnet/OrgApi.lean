/-
# The REST endpoint of one network of an organization

`/api/v1/org/[orgid]/network/[nwid]` reads, changes or deletes a network on behalf of the owner of
an API token.  The wrapper `SecuredOrganizationApiRoute` verifies the token and looks up the
owner's role in the organization of the URL; the handlers behind it take the network from the
URL's other parameter and hand on to the procedures of the web interface.

What `getNetworkById` collects for the web page only (member counts, stashed members, duplicate
routes, CIDR suggestions) is left out, as the REST handler asks only whether it returned.  The
handlers never set `central` or `adminOverride`, and the branches that these guard are left out
with them.
-/
import ZtPlanet.Ztnet.Access

namespace ZtPlanet.Ztnet

open ZtPlanet.Lib

/-! ## 1. API tokens -/

/-- `AuthorizationType`. -/
inductive AuthorizationType where
  | personal
  | organization
deriving DecidableEq

/-- `DecryptedTokenData`; an id that is missing, empty or not a text is `none`. -/
structure DecryptedToken where
  userId : Option UserId
  tokenId : Option TokenId
  apiAuthorizationType : List AuthorizationType

/-- `err` of `RuleCompiler`. -/
structure RuleError where
  line : Nat
  column : Nat
  text : String

/-- What does not change while a request is handled, with the library functions that are not
modelled. -/
structure Host where
  /-- `Date.now()` -/
  now : Nat
  /-- `JSON.parse(decrypt(apiKey, …))`, `none` where one of them throws -/
  decrypt : ApiKey → Option DecryptedToken
  ruleCompiler : String → Except RuleError CompiledRules
  /-- `JSON.parse`, `none` where it throws -/
  parse : String → Option Json
  /-- `JSON.stringify` -/
  stringify : Json → String

/-- `decryptAndVerifyToken`. -/
def decryptAndVerifyToken (host : Host) (apiKey : ApiKey) (requireAdmin : Bool)
    (apiAuthorizationType : AuthorizationType) : Procedure UserId :=
  match host.decrypt apiKey with
  | none => throw (.error "Invalid token")
  | some data =>
    match data.userId, data.tokenId with
    | some userId, some tokenId =>
      if !data.apiAuthorizationType.contains apiAuthorizationType then
        throw (.error "Invalid Authorization Type")
      else do
        let token ← prisma (.findApiToken tokenId userId)
        match token with
        | none => throw (.error "Invalid token")
        | some token =>
          if token.expiresAt.any (· < host.now) then throw (.error "Token expired")
          else do
            let user ← prisma (.findUser userId apiKey)
            match user with
            | none => throw (.error "Unauthorized")
            | some (role, apiTokens) =>
              if apiTokens.isEmpty then throw (.error "Invalid or expired token")
              else if role ≠ .admin && requireAdmin then throw (.error "Unauthorized")
              else pure userId
    | _, _ => throw (.error "Invalid token")

/-! ## 2. Requests and responses -/

inductive Method where
  | get
  | post
  | delete
  | other
deriving DecidableEq

/-- A request.  `malformed` lists the query parameters that are not single texts, which
`ApiRequestSchema` refuses. -/
structure Request where
  method : Method
  malformed : List String
  /-- the header `x-ztnet-auth` -/
  apiKey : Option ApiKey
  orgid : Option OrganizationId
  nwid : Option NetworkId
  body : Option Json

/-- The JSON of a response. -/
inductive Body where
  | empty
  /-- `{ error }` -/
  | error (text : String)
  /-- `{ message }` -/
  | message (text : String)
  /-- `{ cause }` -/
  | cause (value : Json)
  /-- `{ error: { message: "Validation error", fieldErrors } }`, with the paths of the fields -/
  | validation (paths : List String)
  /-- the controller's data about a network, and its description where that is included -/
  | network (nwid : NetworkId) (description : Option (Option String))
      (network : Option NetworkEntity)

structure Response where
  status : Nat
  body : Body

/-- `handleApiErrors` of what is no `ZodError`. -/
def handleApiErrors (host : Host) : Failure → Response
  | .trpc code message =>
    match host.parse message with
    | some parsedErrors => ⟨code.httpStatus, .cause parsedErrors⟩
    | none => ⟨code.httpStatus, .error message⟩
  | .error message =>
    if message = "Invalid token" then ⟨401, .error "Invalid token"⟩
    else ⟨500, .message message⟩

/-- `handleZodError`. -/
def handleZodError (paths : List String) : Response := ⟨400, .validation paths⟩

/-- What the wrapper hands to a handler. -/
structure Context where
  body : Option Json
  userId : UserId
  orgId : OrganizationId
  networkId : NetworkId

/-- `SecuredOrganizationApiRoute` for the routes that require both ids. -/
def securedOrganizationApiRoute (host : Host) (requiredRole : Role)
    (handler : Context → Procedure Response) (req : Request) : Procedure Response :=
  if req.malformed ≠ [] then pure (handleZodError req.malformed)
  else
    match req.apiKey with
    | none => pure ⟨401, .error "API Key is required"⟩
    | some apiKey =>
      match req.orgid with
      | none => pure ⟨400, .error "Organization ID is required"⟩
      | some orgId =>
        match req.nwid with
        | none => pure ⟨400, .error "Network ID is required"⟩
        | some networkId =>
          tryCatch (do
            let userId ← decryptAndVerifyToken host apiKey false .organization
            checkUserOrganizationRole userId orgId requiredRole
            handler ⟨req.body, userId, orgId, networkId⟩)
            fun cause => pure (handleApiErrors host cause)

/-! ## 3. The procedures behind the handlers -/

/-- How `createCaller` reports what a procedure throws. -/
def callProcedure {α : Type} (p : Procedure α) : Procedure α :=
  tryCatch p fun cause =>
    match cause with
    | .trpc code message => throw (.trpc code message)
    | .error message => throw (.trpc .internalServerError message)

/-- `` `${r.target}|${r.via || "null"}` ``. -/
def routeKey (route : Route) : String :=
  route.target ++ "|" ++
    match route.via with
    | some via => if via = "" then "null" else via
    | none => "null"

/-- Whether the routes of the database have to be synchronized: the sets of keys differ, or the
database has a key twice. -/
def routesDiffer (dbRoutes ztRoutes : List Route) : Bool :=
  let dbRouteKeys := (dbRoutes.map routeKey).dedup
  let ztRouteKeys := (ztRoutes.map routeKey).dedup
  dbRouteKeys.length ≠ ztRouteKeys.length || !dbRouteKeys.all ztRouteKeys.contains ||
    dbRoutes.length ≠ dbRouteKeys.length

/-- How `getNetworkById` has the cached rows of the members refreshed. -/
def refreshMembers (nwid : NetworkId) : Procedure Unit := do
  let cachedCount ← prisma (.countMembers nwid)
  if cachedCount = 0 then
    tryCatch (remote (.reconcileMembers nwid)) fun _ => pure ()
  else remote (.triggerReconcile nwid)

/-- The part of `getNetworkById` behind its access check. -/
def getNetworkDetails (nwid : NetworkId) (networkFromDatabase : NetworkRow) :
    Procedure NetworkEntity := do
  let answer ← tryCatch (remote (.getNetwork nwid)) fun err => throwTRPC err.message .badRequest
  match answer with
  | none => throwTRPC "Failed to get network details!" .badRequest
  | some controllerNetwork => do
    refreshMembers nwid
    let ztRoutes := controllerNetwork.routes.getD []
    onlyIf (routesDiffer networkFromDatabase.routes ztRoutes) (remote (.syncRoutes nwid ztRoutes))
    match controllerNetwork.routes with
    -- `controllerNetwork.routes.map`
    | none => throw (.error "Cannot read properties of undefined (reading 'map')")
    | some _ => return controllerNetwork

/-- `isMemberOfOrganization`: the user is in the `users` relation of the organization. -/
def isMemberOf (organizationId : Option OrganizationId) (userId : UserId) : Procedure Bool :=
  match organizationId with
  | some organizationId => prisma (.findOrganizationOf organizationId userId)
  | none => pure false

/-- `getNetworkById`. -/
def getNetworkById (userId : UserId) (nwid : NetworkId) : Procedure NetworkEntity := do
  let networkFromDatabase ← prisma (.findNetwork nwid)
  match networkFromDatabase with
  | none => throwTRPC "Network not found!" .badRequest
  | some networkFromDatabase => do
    let isAuthor := networkFromDatabase.authorId == some userId
    let isMemberOfOrganization ← isMemberOf networkFromDatabase.organizationId userId
    if !isAuthor && !isMemberOfOrganization then
      throwTRPC "You do not have access to this network!" .badRequest
    else getNetworkDetails nwid networkFromDatabase

/-- The message for a text that does not compile. -/
def ruleErrorMessage (host : Host) (err : RuleError) : String :=
  host.stringify (.obj [
    ("error", .str ("ERROR parsing Flow Rules at line " ++ toString err.line ++ " column " ++
      toString err.column ++ ": " ++ err.text)),
    ("line", .num (toString err.line))])

/-- `setFlowRule`. -/
def setFlowRule (host : Host) (userId : UserId) (nwid : NetworkId)
    (organizationId : Option OrganizationId) (flowRoute : String) : Procedure Unit := do
  checkNetworkAccess userId nwid .user
  prisma (.createActivityLog userId organizationId)
  match host.ruleCompiler flowRoute with
  | .error err => throwTRPC (ruleErrorMessage host err) .badRequest
  | .ok compiled => do
    remote (.networkUpdate nwid (.rules compiled))
    tryCatch (remote (.sendWebhook organizationId nwid)) fun error =>
      throwTRPC error.message .badRequest
    prisma (.updateNetwork nwid ⟨none, none, some flowRoute⟩)

/-- The loop of `deleteNetwork` that takes the authorization from every member. -/
def deauthorizeMembers (nwid : NetworkId) : List MemberId → Procedure Unit
  | [] => pure ()
  | member :: members => do
    remote (.memberUpdate false nwid member
      ⟨none, none, none, none, none, some false, none, none⟩)
    deauthorizeMembers nwid members

/-- `deleteNetwork`. -/
def deleteNetwork (userId : UserId) (nwid : NetworkId) (organizationId : Option OrganizationId) :
    Procedure Unit := do
  checkNetworkAccess userId nwid .user
  let owner : Owner :=
    match organizationId with
    | some organizationId => .organization organizationId
    | none => .author userId
  let networkToDelete ← prisma (.findNetworkOf nwid owner)
  match networkToDelete with
  | none => throwTRPC "Network not found!" .notFound
  | some _ => do
    let members ← remote (.networkMembers nwid)
    deauthorizeMembers nwid members
    remote (.networkDelete nwid)
    prisma (.deleteNetworks nwid owner)
    prisma (.createActivityLog userId organizationId)
    tryCatch (remote (.sendWebhook organizationId nwid)) fun error =>
      throwTRPC error.message .badRequest
    match organizationId with
    | some organizationId =>
      tryCatch (remote (.notifyAdmins organizationId nwid)) fun _ => pure ()
    | none => pure ()

/-! ## 4. The body of a change -/

/-- The keys of `NetworkUpdateSchema`. -/
inductive Field where
  | name
  | description
  | flowRule
  | mtu
  | isPrivate
  | dns
  | ipAssignmentPools
  | routes
  | v4AssignMode
  | v6AssignMode
deriving DecidableEq

def Field.text : Field → String
  | .name => "name"
  | .description => "description"
  | .flowRule => "flowRule"
  | .mtu => "mtu"
  | .isPrivate => "private"
  | .dns => "dns"
  | .ipAssignmentPools => "ipAssignmentPools"
  | .routes => "routes"
  | .v4AssignMode => "v4AssignMode"
  | .v6AssignMode => "v6AssignMode"

/-- The keys in the order of the schema, which is the order of the parsed object. -/
def Field.all : List Field :=
  [.name, .description, .flowRule, .mtu, .isPrivate, .dns, .ipAssignmentPools, .routes,
    .v4AssignMode, .v6AssignMode]

/-- The paths at which the array of DNS servers is not one of texts. -/
def serverIssues : Nat → List Json → List String
  | _, [] => []
  | i, .str _ :: items => serverIssues (i + 1) items
  | i, _ :: items => ("dns.servers." ++ toString i) :: serverIssues (i + 1) items

/-- What the schema makes of the value of a key: the value, or the paths it complains about. -/
def Field.parse : Field → Json → Except (List String) Json
  | .name, .str s | .description, .str s | .flowRule, .str s | .mtu, .str s => .ok (.str s)
  | .isPrivate, .bool b => .ok (.bool b)
  | .dns, .obj members =>
    match members.lookup "domain", members.lookup "servers" with
    | some (.str domain), some (.arr servers) =>
      if serverIssues 0 servers = [] then
        .ok (.obj [("domain", .str domain), ("servers", .arr servers)])
      else .error (serverIssues 0 servers)
    | some (.str _), _ => .error ["dns.servers"]
    | _, some (.arr servers) => .error ("dns.domain" :: serverIssues 0 servers)
    | _, _ => .error ["dns.domain", "dns.servers"]
  | .ipAssignmentPools, .arr items | .routes, .arr items => .ok (.arr items)
  | .v4AssignMode, .obj members | .v6AssignMode, .obj members => .ok (.obj members)
  | field, _ => .error [field.text]

/-- `NetworkUpdateSchema.parse`: every key that is present has to have its type, and no other key
may be present. -/
def networkUpdateSchema (members : List (String × Json)) :
    Except (List String) (List (Field × Json)) :=
  let given := Field.all.filterMap fun field => (members.lookup field.text).map (field, ·)
  let issues :=
    given.flatMap (fun entry =>
      match entry.1.parse entry.2 with
      | .ok _ => []
      | .error paths => paths) ++
    if members.any fun m => !(Field.all.map Field.text).contains m.1 then [""] else []
  if issues = [] then
    .ok (given.filterMap fun entry => (entry.1.parse entry.2).toOption.map (entry.1, ·))
  else .error issues

/-- The two schemas that the body has to satisfy. -/
def parseBody : Option Json → Except (List String) (List (Field × Json))
  | some (.obj members) => networkUpdateSchema members
  | _ => .error ["body"]

/-! ## 5. The handlers -/

inductive Destination where
  | controller
  | database
  | custom
deriving DecidableEq

/-- `updateableFields[key].destinations`. -/
def updateableFields : Field → List Destination
  | .name => [.controller, .database]
  | .description => [.database]
  | .flowRule => [.custom]
  | .mtu | .isPrivate | .dns | .ipAssignmentPools | .routes | .v4AssignMode | .v6AssignMode =>
    [.controller]

/-- `databasePayload` and `controllerPayload`. -/
structure Payloads where
  database : List (Field × Json)
  controller : List (Field × Json)

/-- What the loop of `POST_network` adds for one key. -/
def Payloads.add (payloads : Payloads) (key : Field) (value : Json) : Payloads where
  database :=
    payloads.database ++ if (updateableFields key).contains .database then [(key, value)] else []
  controller :=
    payloads.controller ++
      if (updateableFields key).contains .controller then [(key, value)] else []

/-- `value as string`. -/
def Json.asString : Json → String
  | .str s => s
  | _ => ""

/-- The `try` block of the loop of `POST_network`, with the response where `setFlowRule` fails. -/
def flowRuleFailure (host : Host) (context : Context) (key : Field) (value : Json) :
    Procedure (Option Response) :=
  if key = .flowRule then
    tryCatch (do
      callProcedure (setFlowRule host context.userId context.networkId none value.asString)
      return none)
      fun error => pure (some ⟨400, .error error.message⟩)
  else pure none

/-- The loop of `POST_network` over the keys of the body.  Every key is in `updateableFields`, as
the schema is strict. -/
def collect (host : Host) (context : Context) :
    List (Field × Json) → Payloads → Procedure (Except Response Payloads)
  | [], payloads => pure (.ok payloads)
  | (key, value) :: entries, payloads => do
    let failed ← flowRuleFailure host context key value
    match failed with
    | some response => return .error response
    | none => collect host context entries (payloads.add key value)

/-- `databasePayload` as the data of an update. -/
def databaseData (payload : List (Field × Json)) : NetworkData where
  name := (payload.lookup .name).map Json.asString
  description := (payload.lookup .description).map Json.asString
  flowRule := none

/-- The part of `POST_network` behind the loop. -/
def updateAndReport (context : Context) (payloads : Payloads) : Procedure Response := do
  let _ ← callProcedure (getNetworkById context.userId context.networkId)
  onlyIf (!payloads.controller.isEmpty)
    (remote (.networkUpdate context.networkId
      (.fields (payloads.controller.map fun entry => (entry.1.text, entry.2)))))
  onlyIf (!payloads.database.isEmpty)
    (prisma (.updateNetwork context.networkId (databaseData payloads.database)))
  let ztControllerResponse ← remote (.localNetworkAndMembercount context.networkId)
  return ⟨200, .network context.networkId none ztControllerResponse⟩

/-- `POST_network`. -/
def postNetwork (host : Host) (context : Context) : Procedure Response :=
  match parseBody context.body with
  | .error paths => pure (handleZodError paths)
  | .ok validatedBody =>
    tryCatch (do
      let collected ← collect host context validatedBody ⟨[], []⟩
      match collected with
      | .error response => return response
      | .ok payloads => updateAndReport context payloads)
      fun cause => pure (handleApiErrors host cause)

/-- `GET_network`. -/
def getNetwork (host : Host) (context : Context) : Procedure Response :=
  tryCatch (do
    let network ← prisma (.findNetwork context.networkId)
    match network with
    | none => return ⟨401, .error "Network not found or access denied."⟩
    | some network => do
      let ztControllerResponse ← remote (.localNetworkAndMembercount context.networkId)
      return ⟨200, .network context.networkId (some network.description) ztControllerResponse⟩)
    fun cause => pure (handleApiErrors host cause)

/-- `DELETE_network`. -/
def deleteNetworkRoute (host : Host) (context : Context) : Procedure Response :=
  tryCatch (do
    callProcedure (deleteNetwork context.userId context.networkId (some context.orgId))
    return ⟨204, .empty⟩)
    fun cause => pure (handleApiErrors host cause)

/-- `apiNetworkByIdHandler`. -/
def apiNetworkByIdHandler (host : Host) (req : Request) : Procedure Response := do
  let limited ← tryCatch (do
    remote .checkLimit
    return false)
    fun _ => pure true
  if limited then return ⟨429, .error "Rate limit exceeded"⟩
  else
    match req.method with
    | .get => securedOrganizationApiRoute host .readOnly (getNetwork host) req
    | .post => securedOrganizationApiRoute host .readOnly (postNetwork host) req
    | .delete => securedOrganizationApiRoute host .user (deleteNetworkRoute host) req
    | .other => return ⟨405, .error "Method Not Allowed"⟩

end ZtPlanet.Ztnet
