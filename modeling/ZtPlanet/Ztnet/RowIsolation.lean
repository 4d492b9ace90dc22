/-
# Rows that a client names

`managedRoutes`, `addAnotation` and `getMemberAnotations` ask for access to the network of the
input and then select a row by another field of it: a route by `routeId`, a member by `nodeid`.
Nothing ties the row to the network.

A call is `Isolated` if it leaves the rows of every other network as they are, and if it returns
the same in any two states that differ only in other networks' rows.  A link between an annotation
and a member belongs to the network of either.  `isolated_iff` says which calls are: those whose
route is one of the network; whose member is one of the network, or already carries the annotation;
and whose member is one of the network and carries no other network's annotations.

The new ids come from sequences of the database; a call takes the id that its sequence will give.
-/
import Mathlib.Data.Fintype.EquivFin
import ZtPlanet.Ztnet.Access

namespace ZtPlanet.Ztnet

open ZtPlanet.Lib

/-! ## 1. Tables -/

abbrev RouteId : Type := Nat
abbrev NotationId : Type := Nat
abbrev NodeId : Type := Nat

/-- `Routes`. -/
structure RouteRow where
  target : String
  via : Option String
  networkId : NetworkId
  notes : Option String
deriving DecidableEq

/-- `Notation`. -/
structure NotationRow where
  name : String
  nwid : NetworkId
  color : Option String
  description : Option String
deriving DecidableEq

/-- The tables whose rows are named by an id. -/
structure Rows where
  routes : Dict RouteId RouteRow
  notations : Dict NotationId NotationRow
  /-- the network of each `network_members.nodeid` -/
  nodes : Dict NodeId NetworkId
  /-- `NetworkMemberNotation` -/
  links : Dict (NotationId × NodeId) Unit

/-- A call of the Prisma client on these tables. -/
inductive RowQuery where
  /-- `routes.update({ where: { id }, data: { notes } })` -/
  | updateRoute (id : Option RouteId) (notes : String)
  /-- `routes.findMany({ where: { networkId } })` -/
  | findRoutes (networkId : NetworkId)
  /-- `notation.upsert({ where: { name_nwid }, update: {}, create })`, the id of the row -/
  | upsertNotation (name : String) (nwid : NetworkId) (color description : Option String)
  /-- `networkMemberNotation.upsert({ where: { notationId_nodeid }, update: {}, create })` -/
  | upsertMemberNotation (notationId : NotationId) (nodeid : NodeId)
  /-- `networkMemberNotation.findMany({ where: { nodeid }, include: { label: true } })` -/
  | findMemberNotations (nodeid : NodeId)

/-- A link with its label. -/
structure Annotation where
  notationId : NotationId
  nodeid : NodeId
  label : NotationRow
deriving DecidableEq

@[reducible] def RowQuery.Ans : RowQuery → Type
  | .updateRoute _ _ => Unit
  | .findRoutes _ => List (RouteId × RouteRow)
  | .upsertNotation _ _ _ _ => NotationId
  | .upsertMemberNotation _ _ => NotationId × NodeId
  | .findMemberNotations _ => List Annotation

/-- What Prisma answers to a `where` without a unique field. -/
def missingUnique : Failure := .error "Argument `where` needs at least one of `id` arguments."

/-- `routes.update`. -/
def Rows.updateRoute (rows : Rows) (id : Option RouteId) (notes : String) :
    Except Failure Unit × Rows :=
  match id with
  | none => (.error missingUnique, rows)
  | some id =>
    match rows.routes.get? id with
    | none => (.error missingRecord, rows)
    | some route =>
      (.ok (), { rows with routes := rows.routes.set id { route with notes := some notes } })

/-- The annotation of a name in a network. -/
def Rows.findNotation (rows : Rows) (name : String) (nwid : NetworkId) : Option NotationId :=
  (rows.notations.entries.find? fun e => e.2.name == name && e.2.nwid == nwid).map Prod.fst

/-- `notation.upsert`, where the sequence gives `fresh`. -/
def Rows.upsertNotation (rows : Rows) (db : Db) (fresh : NotationId) (name : String)
    (nwid : NetworkId) (color description : Option String) : Except Failure NotationId × Rows :=
  match rows.findNotation name nwid with
  | some id => (.ok id, rows)
  | none =>
    if db.networks.contains nwid then
      (.ok fresh, { rows with
        notations := rows.notations.set fresh ⟨name, nwid, color, description⟩ })
    else (.error foreignKeyFailure, rows)

/-- `networkMemberNotation.upsert`. -/
def Rows.upsertMemberNotation (rows : Rows) (notationId : NotationId) (nodeid : NodeId) :
    Except Failure (NotationId × NodeId) × Rows :=
  if rows.links.contains (notationId, nodeid) then (.ok (notationId, nodeid), rows)
  else if rows.notations.contains notationId && rows.nodes.contains nodeid then
    (.ok (notationId, nodeid), { rows with links := rows.links.set (notationId, nodeid) () })
  else (.error foreignKeyFailure, rows)

/-- The links of a member, with their labels. -/
def Rows.findMemberNotations (rows : Rows) (nodeid : NodeId) : List Annotation :=
  (rows.links.filter fun link _ => link.2 == nodeid).keys.filterMap fun link =>
    (rows.notations.get? link.1).map fun label => ⟨link.1, link.2, label⟩

/-- What each call returns and does to the tables. -/
def RowQuery.run (fresh : NotationId) : (q : RowQuery) → Db → Rows → Except Failure q.Ans × Rows
  | .updateRoute id notes, _, rows => rows.updateRoute id notes
  | .findRoutes networkId, _, rows =>
    (.ok (rows.routes.filter fun _ route => route.networkId == networkId).entries, rows)
  | .upsertNotation name nwid color description, db, rows =>
    rows.upsertNotation db fresh name nwid color description
  | .upsertMemberNotation notationId nodeid, _, rows =>
    rows.upsertMemberNotation notationId nodeid
  | .findMemberNotations nodeid, _, rows => (.ok (rows.findMemberNotations nodeid), rows)

/-! ## 2. The procedures -/

/-- A procedure that also works on these tables. -/
abbrev RowProcedure (α : Type) : Type :=
  Prog (Act ⊕ RowQuery) (Sum.elim Act.Ans RowQuery.Ans) Failure α

abbrev base {α : Type} (p : Procedure α) : RowProcedure α := p.inl

abbrev prismaRows (query : RowQuery) : RowProcedure query.Ans := Prog.callInr query

/-- The input of `managedRoutes`; a field of a field is `none` where the client sends `null`. -/
structure ManagedRoutesInput where
  nwid : NetworkId
  central : Bool
  organizationId : Option OrganizationId
  routes : Option (List Route)
  note : Option String
  routeId : Option RouteId
  via : Option (Option String)

/-- The note of a route, where the client sends one. -/
def updateNote (routeId : Option RouteId) : Option String → RowProcedure Unit
  | none => pure ()
  | some note => prismaRows (.updateRoute routeId note)

/-- The routes of the network with a new `via` for one of them. -/
def withVia (routeId : RouteId) (via : Option String) (currentRoutes : List (RouteId × RouteRow)) :
    List Route :=
  currentRoutes.map fun route =>
    ⟨route.2.target,
      if route.1 = routeId then (if via = some "" then none else via) else route.2.via⟩

/-- The routes that the controller is sent. -/
def newRoutes (isValidIP : String → Bool) (input : ManagedRoutesInput) :
    RowProcedure (Option (List Route)) :=
  match input.via, input.routeId with
  | some via, some routeId =>
    if via.any fun ip => ip ≠ "" && !isValidIP ip then
      base (throwTRPC "Via must be a valid IP address or empty for LAN" .badRequest)
    else do
      let currentRoutes ← prismaRows (.findRoutes input.nwid)
      pure (some (withVia routeId via currentRoutes))
  | _, _ => pure input.routes

/-- `{ target, via }`. -/
def routeJson (route : Route) : Json :=
  .obj [("target", .str route.target), ("via", (route.via.map Json.str).getD .null)]

/-- `updateParams`: `{ config: { routes } }` for ZeroTier central, and otherwise `{ routes }`. -/
def routesPayload (central : Bool) (routes : Option (List Route)) : NetworkPayload :=
  let fields := (routes.map fun routes => ("routes", Json.arr (routes.map routeJson))).toList
  .fields (if central then [("config", .obj fields)] else fields)

/-- `networkRouter.managedRoutes`. -/
def managedRoutes (isValidIP : String → Bool) (userId : UserId) (input : ManagedRoutesInput) :
    RowProcedure Unit := do
  base (checkNetworkAccess userId input.nwid .user)
  base (prisma (.createActivityLog userId input.organizationId))
  updateNote input.routeId input.note
  let routes ← newRoutes isValidIP input
  base (tryCatch (remote (.sendWebhook input.organizationId input.nwid)) fun error =>
    throwTRPC error.message .badRequest)
  base (remote (.networkUpdate input.nwid (routesPayload input.central routes)))

/-- The input of `addAnotation`. -/
structure AnotationInput where
  name : String
  nwid : NetworkId
  nodeid : NodeId
  color : Option String
  description : Option String
  organizationId : Option OrganizationId

/-- `networkRouter.addAnotation`. -/
def addAnotation (userId : UserId) (input : AnotationInput) :
    RowProcedure (NotationId × NodeId) := do
  base (checkNetworkAccess userId input.nwid .user)
  base (prisma (.createActivityLog userId input.organizationId))
  let notationId ←
    prismaRows (.upsertNotation input.name input.nwid input.color input.description)
  prismaRows (.upsertMemberNotation notationId input.nodeid)

/-- `networkMemberRouter.getMemberAnotations`. -/
def getMemberAnotations (userId : UserId) (nwid : NetworkId) (nodeid : NodeId) :
    RowProcedure (List Annotation) := do
  base (checkNetworkAccess userId nwid .readOnly)
  prismaRows (.findMemberNotations nodeid)

/-- A call of one of the three. -/
inductive RowCall where
  | managedRoutes (input : ManagedRoutesInput)
  | addAnotation (input : AnotationInput)
  | getMemberAnotations (nwid : NetworkId) (nodeid : NodeId)

/-- The call with an input of `addAnotation`. -/
abbrev AnotationInput.call (input : AnotationInput) : RowCall := RowCall.addAnotation input

/-- What it returns. -/
@[reducible] def RowCall.Ans : RowCall → Type
  | .managedRoutes _ => Unit
  | RowCall.addAnotation _ => NotationId × NodeId
  | .getMemberAnotations _ _ => List Annotation

/-- The network for which access is asked. -/
def RowCall.nwid : RowCall → NetworkId
  | .managedRoutes input => input.nwid
  | RowCall.addAnotation input => input.nwid
  | .getMemberAnotations nwid _ => nwid

def RowCall.program (isValidIP : String → Bool) (userId : UserId) :
    (call : RowCall) → RowProcedure call.Ans
  | .managedRoutes input => Ztnet.managedRoutes isValidIP userId input
  | RowCall.addAnotation input => Ztnet.addAnotation userId input
  | .getMemberAnotations nwid nodeid => Ztnet.getMemberAnotations userId nwid nodeid

/-- The database and these tables next to each other. -/
abbrev rowHandle (plan : Plan) (fresh : NotationId) :
    Prog.Handler (Act ⊕ RowQuery) (Sum.elim Act.Ans RowQuery.Ans) Failure (Db × Rows) :=
  Prog.handleSum (handle plan) (RowQuery.run fresh)

/-- The whole call. -/
def RowCall.run (isValidIP : String → Bool) (userId : UserId) (plan : Plan) (fresh : NotationId)
    (call : RowCall) (s : Db × Rows) : Except Failure call.Ans × (Db × Rows) :=
  Prog.exec (rowHandle plan fresh) (call.program isValidIP userId) s

/-! ## 3. Isolation -/

/-- The link belongs to the network: its annotation does, or its member. -/
def Rows.touches (rows : Rows) (nwid : NetworkId) (link : NotationId × NodeId) : Bool :=
  ((rows.notations.get? link.1).any fun label => label.nwid == nwid) ||
    rows.nodes.get? link.2 == some nwid

/-- The rows of a network. -/
structure NetworkRows where
  network : Option NetworkRow
  members : MemberId → Option MemberRow
  routes : Dict RouteId RouteRow
  notations : Dict NotationId NotationRow
  nodes : Dict NodeId NetworkId
  links : Dict (NotationId × NodeId) Unit

def rowsOf (nwid : NetworkId) (s : Db × Rows) : NetworkRows where
  network := s.1.networks.get? nwid
  members memberId := s.1.members.get? (memberId, nwid)
  routes := s.2.routes.filter fun _ route => route.networkId == nwid
  notations := s.2.notations.filter fun _ label => label.nwid == nwid
  nodes := s.2.nodes.filter fun _ network => network == nwid
  links := s.2.links.filter fun link _ => s.2.touches nwid link

/-- The two states differ only in rows of other networks. -/
structure SameBut (nwid : NetworkId) (s t : Db × Rows) : Prop where
  rows : rowsOf nwid t = rowsOf nwid s
  users : t.1.users = s.1.users
  userOptions : t.1.userOptions = s.1.userOptions
  apiTokens : t.1.apiTokens = s.1.apiTokens
  organizations : t.1.organizations = s.1.organizations
  userOrganizationRoles : t.1.userOrganizationRoles = s.1.userOrganizationRoles
  activityLog : t.1.activityLog = s.1.activityLog

/-- The call leaves the rows of other networks alone and reveals nothing of them, whatever the
other parties answer. -/
def RowCall.Isolated (isValidIP : String → Bool) (userId : UserId) (call : RowCall)
    (s : Db × Rows) : Prop :=
  ∀ plan fresh, s.2.notations.get? fresh = none →
    (∀ other, other ≠ call.nwid →
      rowsOf other (call.run isValidIP userId plan fresh s).2 = rowsOf other s) ∧
    ∀ t, SameBut call.nwid s t → t.2.notations.get? fresh = none →
      (call.run isValidIP userId plan fresh t).1 = (call.run isValidIP userId plan fresh s).1

/-- The entry of the activity log can be written. -/
def Db.canLog (db : Db) (userId : UserId) (organizationId : Option OrganizationId) : Bool :=
  db.users.contains userId && organizationId.all db.organizations.contains

/-- The row that the call names is one of the network, wherever the call comes so far that it
matters. -/
def RowCall.Addressed (userId : UserId) (s : Db × Rows) : RowCall → Prop
  | .managedRoutes input =>
    s.1.hasAccess userId input.nwid .user = true → s.1.canLog userId input.organizationId = true →
      input.note.isSome = true → ∀ routeId, input.routeId = some routeId →
        ∃ route, s.2.routes.get? routeId = some route ∧ route.networkId = input.nwid
  | RowCall.addAnotation input =>
    s.1.hasAccess userId input.nwid .user = true → s.1.canLog userId input.organizationId = true →
      s.2.nodes.get? input.nodeid = some input.nwid ∨
        ∃ notationId, s.2.findNotation input.name input.nwid = some notationId ∧
          s.2.links.contains (notationId, input.nodeid) = true
  | .getMemberAnotations nwid nodeid =>
    s.1.hasAccess userId nwid .readOnly = true →
      s.2.nodes.get? nodeid = some nwid ∧
        ∀ notationId, s.2.links.contains (notationId, nodeid) = true →
          ∃ label, s.2.notations.get? notationId = some label ∧ label.nwid = nwid

/-! ## 4. What two such states have in common -/

variable {isValidIP : String → Bool} {userId : UserId} {nwid other : NetworkId} {s t : Db × Rows}
  {plan : Plan} {fresh : NotationId} {organizationId : Option OrganizationId}

/-- The rows of a network that a dictionary holds can be looked up in the other state. -/
theorem get?_of_filter_eq {κ ν : Type} [DecidableEq κ] {d d' : Dict κ ν} {p : κ → ν → Bool}
    (h : d'.filter p = d.filter p) {k : κ} {v : ν} (hk : d.get? k = some v) (hp : p k v = true) :
    d'.get? k = some v := by
  have hfilter := congrArg (fun e => e.get? k) h
  simp only [Dict.get?_filter, hk, Option.filter_some_pos hp] at hfilter
  exact (Option.filter_eq_some_iff.mp hfilter).1

theorem SameBut.network (h : SameBut nwid s t) :
    t.1.networks.get? nwid = s.1.networks.get? nwid := congrArg NetworkRows.network h.rows

theorem SameBut.routes (h : SameBut nwid s t) :
    (t.2.routes.filter fun _ route => route.networkId == nwid) =
      s.2.routes.filter fun _ route => route.networkId == nwid := congrArg NetworkRows.routes h.rows

theorem SameBut.notations (h : SameBut nwid s t) :
    (t.2.notations.filter fun _ label => label.nwid == nwid) =
      s.2.notations.filter fun _ label => label.nwid == nwid :=
    congrArg NetworkRows.notations h.rows

theorem SameBut.nodes (h : SameBut nwid s t) :
    (t.2.nodes.filter fun _ network => network == nwid) =
      s.2.nodes.filter fun _ network => network == nwid := congrArg NetworkRows.nodes h.rows

theorem SameBut.links (h : SameBut nwid s t) :
    (t.2.links.filter fun link _ => t.2.touches nwid link) =
      s.2.links.filter fun link _ => s.2.touches nwid link := congrArg NetworkRows.links h.rows

theorem SameBut.route (h : SameBut nwid s t) {id : RouteId} {route : RouteRow}
    (hroute : s.2.routes.get? id = some route) (hnwid : route.networkId = nwid) :
    t.2.routes.get? id = some route :=
  get?_of_filter_eq h.routes hroute (beq_iff_eq.mpr hnwid)

theorem SameBut.label (h : SameBut nwid s t) {id : NotationId} {label : NotationRow}
    (hlabel : s.2.notations.get? id = some label) (hnwid : label.nwid = nwid) :
    t.2.notations.get? id = some label :=
  get?_of_filter_eq h.notations hlabel (beq_iff_eq.mpr hnwid)

theorem SameBut.node (h : SameBut nwid s t) {id : NodeId}
    (hnode : s.2.nodes.get? id = some nwid) : t.2.nodes.get? id = some nwid :=
  get?_of_filter_eq h.nodes hnode (beq_self_eq_true nwid)

theorem SameBut.canLog (h : SameBut nwid s t) :
    t.1.canLog userId organizationId = s.1.canLog userId organizationId := by
  unfold Db.canLog
  rw [h.users, h.organizations]

/-- A check of access asks for the network and for the role. -/
theorem checkNetworkAccess_only (userId : UserId) (nwid : NetworkId) (role : Role) :
    Prog.Only (fun act => act = .db (.findNetwork nwid) ∨
      ∃ organizationId, act = .db (.findUserOrganizationRole organizationId userId))
      (checkNetworkAccess userId nwid role) := by
  refine Prog.Only.bind (Prog.only_call (.inl rfl)) fun network => ?_
  cases network with
  | none => exact Prog.only_throw _
  | some network =>
    dsimp only
    split
    · refine Prog.Only.bind (Prog.only_call (.inr ⟨_, rfl⟩)) fun orgUserRole => ?_
      cases orgUserRole with
      | none => exact Prog.only_throw _
      | some r =>
        dsimp only
        split
        · exact Prog.only_pure _
        · split
          · exact Prog.only_pure _
          · exact Prog.only_throw _
    · split
      · exact Prog.only_throw _
      · exact Prog.only_pure _

/-- A check of access gives the same answer in both states. -/
theorem SameBut.access (h : SameBut nwid s t) (plan : Plan) (role : Role) :
    (Prog.exec (handle plan) (checkNetworkAccess userId nwid role) t.1).1 =
      (Prog.exec (handle plan) (checkNetworkAccess userId nwid role) s.1).1 := by
  refine ((checkNetworkAccess_only userId nwid role).exec_rel (R := fun db db' =>
    db.networks.get? nwid = db'.networks.get? nwid ∧
      db.userOrganizationRoles = db'.userOrganizationRoles) ?_
    ⟨h.network, h.userOrganizationRoles⟩).1
  rintro act db db' hact ⟨hnetwork, hroles⟩
  rcases hact with rfl | ⟨organizationId, rfl⟩
  · exact ⟨congrArg Except.ok hnetwork, hnetwork, hroles⟩
  · refine ⟨?_, hnetwork, hroles⟩
    change Except.ok (db.userOrganizationRoles.get? (userId, organizationId)) =
      Except.ok (db'.userOrganizationRoles.get? (userId, organizationId))
    rw [hroles]

theorem exec_base {α : Type} (p : Procedure α) (s : Db × Rows) :
    Prog.exec (rowHandle plan fresh) (base p) s =
      ((Prog.exec (handle plan) p s.1).1, ((Prog.exec (handle plan) p s.1).2, s.2)) :=
  Prog.exec_inl p s.1 s.2

theorem exec_prismaRows (query : RowQuery) (s : Db × Rows) :
    Prog.exec (rowHandle plan fresh) (prismaRows query) s =
      ((query.run fresh s.1 s.2).1, (s.1, (query.run fresh s.1 s.2).2)) :=
  Prog.exec_callInr query s.1 s.2

/-- The state behind a check is the state before it. -/
theorem exec_access_snd (plan : Plan) (db : Db) (role : Role) :
    (Prog.exec (handle plan) (checkNetworkAccess userId nwid role) db).2 = db := by
  obtain ⟨e, he⟩ := checkNetworkAccess_checks plan db userId nwid role
  rw [he]

theorem SameBut.logged (h : SameBut nwid s t) :
    SameBut nwid (s.1.logged userId organizationId, s.2)
      (t.1.logged userId organizationId, t.2) := by
  obtain ⟨hrows, husers, hoptions, htokens, horganizations, hroles, hlog⟩ := h
  refine ⟨hrows, husers, hoptions, htokens, horganizations, hroles, ?_⟩
  simp only [Db.logged, hlog]

/-- Up to the entry in the activity log a call either stops with an error, and the same one in any
state that differs only in other networks' rows, or goes on with access and with the entry. -/
theorem exec_logged {α : Type} (k : RowProcedure α) (plan : Plan) (fresh : NotationId)
    (userId : UserId) (nwid : NetworkId) (organizationId : Option OrganizationId)
    (s : Db × Rows) :
    (∃ e, ∀ t, t = s ∨ SameBut nwid s t →
      Prog.exec (rowHandle plan fresh) (do
        base (checkNetworkAccess userId nwid .user)
        base (prisma (.createActivityLog userId organizationId))
        k) t = (.error e, t)) ∧
      ¬(s.1.hasAccess userId nwid .user = true ∧ s.1.canLog userId organizationId = true) ∨
    (∀ t, t = s ∨ SameBut nwid s t →
      Prog.exec (rowHandle plan fresh) (do
        base (checkNetworkAccess userId nwid .user)
        base (prisma (.createActivityLog userId organizationId))
        k) t = Prog.exec (rowHandle plan fresh) k (t.1.logged userId organizationId, t.2)) ∧
      s.1.hasAccess userId nwid .user = true ∧ s.1.canLog userId organizationId = true := by
  have hsame : ∀ t, t = s ∨ SameBut nwid s t →
      Prog.exec (rowHandle plan fresh) (base (checkNetworkAccess userId nwid .user)) t =
        ((Prog.exec (handle plan) (checkNetworkAccess userId nwid .user) s.1).1, t) ∧
      t.1.canLog userId organizationId = s.1.canLog userId organizationId := by
    rintro ⟨db, rows⟩ (rfl | ht)
    · exact ⟨by rw [exec_base, exec_access_snd], rfl⟩
    · exact ⟨by rw [exec_base, exec_access_snd, ht.access plan], ht.canLog⟩
  have hcheck := checkNetworkAccess_checks plan s.1 userId nwid .user
  cases haccess : s.1.hasAccess userId nwid .user with
  | false =>
    rw [haccess] at hcheck
    obtain ⟨e, he⟩ := hcheck.error
    refine .inl ⟨⟨e, fun t ht => ?_⟩, fun h => absurd h.1 (by decide)⟩
    exact Prog.exec_bind_error ((hsame t ht).1.trans (by rw [he]))
  | true =>
    rw [haccess] at hcheck
    have hgo : ∀ t, t = s ∨ SameBut nwid s t →
        Prog.exec (rowHandle plan fresh) (base (checkNetworkAccess userId nwid .user)) t =
          (.ok (), t) := by
      intro t ht
      rw [(hsame t ht).1, hcheck.ok]
    cases hlog : s.1.canLog userId organizationId with
    | false =>
      refine .inl ⟨⟨foreignKeyFailure, fun t ht => ?_⟩, fun h => absurd h.2 (by decide)⟩
      refine (Prog.exec_bind_ok (hgo t ht)).trans (Prog.exec_bind_error ?_)
      refine (exec_base _ t).trans ?_
      rw [exec_createActivityLog, if_neg]
      rw [← Db.canLog, (hsame _ ht).2, hlog]
      decide
    | true =>
      refine .inr ⟨fun t ht => (Prog.exec_bind_ok (hgo t ht)).trans ?_, rfl, rfl⟩
      have hlogged :
        Prog.exec (rowHandle plan fresh) (base (prisma (.createActivityLog userId organizationId)))
          t = (.ok (), (t.1.logged userId organizationId, t.2)) := by
        rw [exec_base, exec_createActivityLog, ← Db.canLog, (hsame _ ht).2, hlog]
        rfl
      exact Prog.exec_bind_ok hlogged

/-! ## 5. `managedRoutes` -/

/-- What `managedRoutes` does behind the entry in the activity log. -/
def managedRoutesRest (isValidIP : String → Bool) (input : ManagedRoutesInput) :
    RowProcedure Unit := do
  updateNote input.routeId input.note
  let routes ← newRoutes isValidIP input
  base (tryCatch (remote (.sendWebhook input.organizationId input.nwid)) fun error =>
    throwTRPC error.message .badRequest)
  base (remote (.networkUpdate input.nwid (routesPayload input.central routes)))

variable {input : ManagedRoutesInput}

/-- The route that gets a note is one of the network. -/
def NoteInNetwork (input : ManagedRoutesInput) (s : Db × Rows) : Prop :=
  input.note.isSome = true → ∀ routeId, input.routeId = some routeId →
    ∃ route, s.2.routes.get? routeId = some route ∧ route.networkId = input.nwid

/-- A note for a route of the network changes no other network's rows. -/
theorem rowsOf_setRoute {routeId : RouteId} {route route' : RouteRow} (hother : other ≠ nwid)
    (hroute : s.2.routes.get? routeId = some route) (hnwid : route.networkId = nwid)
    (hnwid' : route'.networkId = nwid) :
    rowsOf other (s.1, { s.2 with routes := s.2.routes.set routeId route' }) = rowsOf other s := by
  have hroutes : ((s.2.routes.set routeId route').filter fun _ route => route.networkId == other) =
      s.2.routes.filter fun _ route => route.networkId == other := by
    rw [Dict.filter_set, hnwid', if_neg (by simpa using hother.symm)]
    intro route₀ hroute₀
    rw [hroute, Option.some.injEq] at hroute₀
    rw [← hroute₀, hnwid, hnwid']
  unfold rowsOf
  rw [hroutes]
  rfl

theorem SameBut.setRoute {routeId : RouteId} {route route' : RouteRow} (h : SameBut nwid s t)
    (hroute : s.2.routes.get? routeId = some route) (hnwid : route.networkId = nwid)
    (hnwid' : route'.networkId = nwid) :
    SameBut nwid (s.1, { s.2 with routes := s.2.routes.set routeId route' })
      (t.1, { t.2 with routes := t.2.routes.set routeId route' }) := by
  have hset : ∀ {u : Db × Rows}, u.2.routes.get? routeId = some route →
      ((u.2.routes.set routeId route').filter fun _ route => route.networkId == nwid) =
        (u.2.routes.filter fun _ route => route.networkId == nwid).set routeId route' := by
    intro u hu
    rw [Dict.filter_set, hnwid', if_pos (beq_self_eq_true nwid)]
    intro route₀ hroute₀
    rw [hu, Option.some.injEq] at hroute₀
    rw [← hroute₀, hnwid, hnwid']
  refine { h with rows := ?_ }
  have hrows := h.rows
  unfold rowsOf at hrows ⊢
  rw [hset hroute, hset (h.route hroute hnwid)]
  simp only [NetworkRows.mk.injEq] at hrows ⊢
  obtain ⟨hnetwork, hmembers, hroutes, hnotations, hnodes, hlinks⟩ := hrows
  exact ⟨hnetwork, hmembers, by rw [hroutes], hnotations, hnodes, hlinks⟩

theorem updateNote_frame (hother : other ≠ input.nwid) (h : NoteInNetwork input s) :
    rowsOf other (Prog.exec (rowHandle plan fresh) (updateNote input.routeId input.note) s).2 =
      rowsOf other s := by
  unfold NoteInNetwork at h
  cases hnote : input.note with
  | none => rfl
  | some note =>
    rw [hnote] at h
    unfold updateNote
    rw [exec_prismaRows]
    change rowsOf other (s.1, (s.2.updateRoute input.routeId note).2) = _
    unfold Rows.updateRoute
    cases hid : input.routeId with
    | none => rfl
    | some routeId =>
      obtain ⟨route, hroute, hnwid⟩ := h rfl routeId hid
      simp only [hroute]
      exact rowsOf_setRoute hother hroute hnwid hnwid

theorem updateNote_rel (h : SameBut input.nwid s t) (hnote : NoteInNetwork input s) :
    (Prog.exec (rowHandle plan fresh) (updateNote input.routeId input.note) s).1 =
        (Prog.exec (rowHandle plan fresh) (updateNote input.routeId input.note) t).1 ∧
      SameBut input.nwid (Prog.exec (rowHandle plan fresh)
        (updateNote input.routeId input.note) s).2
        (Prog.exec (rowHandle plan fresh) (updateNote input.routeId input.note) t).2 := by
  unfold NoteInNetwork at hnote
  cases hn : input.note with
  | none => exact ⟨rfl, h⟩
  | some note =>
    rw [hn] at hnote
    unfold updateNote
    rw [exec_prismaRows, exec_prismaRows]
    change (s.2.updateRoute input.routeId note).1 = (t.2.updateRoute input.routeId note).1 ∧
      SameBut input.nwid (s.1, (s.2.updateRoute input.routeId note).2)
        (t.1, (t.2.updateRoute input.routeId note).2)
    unfold Rows.updateRoute
    cases hid : input.routeId with
    | none => exact ⟨rfl, h⟩
    | some routeId =>
      obtain ⟨route, hroute, hnwid⟩ := hnote rfl routeId hid
      simp only [hroute, h.route hroute hnwid, true_and]
      exact h.setRoute hroute hnwid hnwid

/-- The new routes are computed from the routes of the network. -/
theorem newRoutes_rel (h : SameBut input.nwid s t) :
    (Prog.exec (rowHandle plan fresh) (newRoutes isValidIP input) s).1 =
        (Prog.exec (rowHandle plan fresh) (newRoutes isValidIP input) t).1 ∧
      SameBut input.nwid (Prog.exec (rowHandle plan fresh) (newRoutes isValidIP input) s).2
        (Prog.exec (rowHandle plan fresh) (newRoutes isValidIP input) t).2 := by
  unfold newRoutes
  split
  · split
    · exact ⟨rfl, h⟩
    · refine Prog.exec_rel_bind (R := SameBut input.nwid) ?_ fun _ _ _ _ _ h' => ⟨rfl, h'⟩
      rw [exec_prismaRows, exec_prismaRows]
      exact ⟨congrArg (fun d : Dict RouteId RouteRow => Except.ok d.entries) h.routes.symm, h⟩
  · exact ⟨rfl, h⟩

/-- Another party's answer does not depend on the database. -/
theorem base_remote_rel {α : Type} {p : Procedure α} (h : SameBut nwid s t)
    (hp : ∀ db, Prog.exec (handle plan) p db = ((Prog.exec (handle plan) p s.1).1, db)) :
    (Prog.exec (rowHandle plan fresh) (base p) s).1 =
        (Prog.exec (rowHandle plan fresh) (base p) t).1 ∧
      SameBut nwid (Prog.exec (rowHandle plan fresh) (base p) s).2
        (Prog.exec (rowHandle plan fresh) (base p) t).2 := by
  rw [exec_base, exec_base, hp t.1, hp s.1]
  exact ⟨rfl, h⟩

/-- The webhook is sent, and its failure reported, whatever the database holds. -/
theorem exec_sendWebhook (organizationId : Option OrganizationId) (nwid : NetworkId) (db db' : Db) :
    Prog.exec (handle plan) (tryCatch (remote (.sendWebhook organizationId nwid)) fun error =>
        throwTRPC error.message .badRequest) db' =
      ((Prog.exec (handle plan) (tryCatch (remote (.sendWebhook organizationId nwid)) fun error =>
        throwTRPC error.message .badRequest) db).1, db') := by
  rw [Prog.exec_tryCatch, Prog.exec_tryCatch, exec_remote, exec_remote]
  cases plan (.sendWebhook organizationId nwid) with
  | ok a => rfl
  | error e => rfl

theorem managedRoutesRest_rel (h : SameBut input.nwid s t) (hnote : NoteInNetwork input s) :
    (Prog.exec (rowHandle plan fresh) (managedRoutesRest isValidIP input) s).1 =
      (Prog.exec (rowHandle plan fresh) (managedRoutesRest isValidIP input) t).1 := by
  unfold managedRoutesRest
  refine (Prog.exec_rel_bind (R := SameBut input.nwid) (updateNote_rel h hnote)
    fun _ s₁ t₁ _ _ h₁ => ?_).1
  refine Prog.exec_rel_bind (newRoutes_rel h₁) fun _ s₂ t₂ _ _ h₂ => ?_
  refine Prog.exec_rel_bind (base_remote_rel h₂ fun db => exec_sendWebhook _ _ _ db)
    fun _ s₃ t₃ _ _ h₃ => ?_
  exact base_remote_rel h₃ fun db => by rw [exec_remote, exec_remote]

theorem newRoutes_snd (s : Db × Rows) :
    (Prog.exec (rowHandle plan fresh) (newRoutes isValidIP input) s).2 = s := by
  unfold newRoutes
  split
  · split
    · rfl
    · exact Prog.exec_bind_snd (P := fun u => u = s) (fun e u he => by
        rw [exec_prismaRows] at he
        cases he) fun a u hu => by
          rw [exec_prismaRows] at hu
          cases hu
          rfl
  · rfl

theorem managedRoutesRest_frame (hother : other ≠ input.nwid) (h : NoteInNetwork input s) :
    rowsOf other (Prog.exec (rowHandle plan fresh) (managedRoutesRest isValidIP input) s).2 =
      rowsOf other s := by
  have hupdate : rowsOf other (Prog.exec (rowHandle plan fresh)
      (updateNote input.routeId input.note) s).2 = rowsOf other s := updateNote_frame hother h
  have hlast : ∀ (routes : Option (List Route)) (u : Db × Rows),
    (Prog.exec (rowHandle plan fresh) (do
      base (tryCatch (remote (.sendWebhook input.organizationId input.nwid)) fun error =>
        throwTRPC error.message .badRequest)
      base (remote (.networkUpdate input.nwid (routesPayload input.central routes)))) u).2 = u := by
    intro routes u
    refine Prog.exec_bind_snd (P := fun v => v = u) (fun e v hv => ?_) fun a v hv => ?_
    · have := congrArg Prod.snd hv
      rw [exec_base, exec_sendWebhook _ _ u.1] at this
      exact this.symm
    · have hvu : v = u := by
        have := congrArg Prod.snd hv
        rw [exec_base, exec_sendWebhook _ _ u.1] at this
        exact this.symm
      rw [exec_base, exec_remote]
      exact hvu
  unfold managedRoutesRest
  refine Prog.exec_bind_snd (P := fun u => rowsOf other u = rowsOf other s) (fun e u hu => ?_)
    fun a u hu => ?_
  · rw [← hupdate, hu]
  · rw [hu] at hupdate
    refine Prog.exec_bind_snd (P := fun v => rowsOf other v = rowsOf other s) (fun e v hv => ?_)
      fun routes v hv => ?_
    · rw [show v = u from (congrArg Prod.snd hv).symm.trans (newRoutes_snd u)]
      exact hupdate
    · rw [hlast, show v = u from (congrArg Prod.snd hv).symm.trans (newRoutes_snd u)]
      exact hupdate

/-- A note for a route that does not exist is an error. -/
theorem managedRoutesRest_missing {routeId : RouteId} (hnote : input.note.isSome = true)
    (hid : input.routeId = some routeId) (hmissing : s.2.routes.get? routeId = none) :
    (Prog.exec (rowHandle plan fresh) (managedRoutesRest isValidIP input) s).1 =
      .error missingRecord := by
  obtain ⟨note, hn⟩ := Option.isSome_iff_exists.mp hnote
  have hupdate : Prog.exec (rowHandle plan fresh) (updateNote input.routeId input.note) s =
      (.error missingRecord, s) := by
    rw [hn, hid]
    unfold updateNote
    rw [exec_prismaRows]
    simp only [RowQuery.run, Rows.updateRoute, hmissing]
  unfold managedRoutesRest
  exact congrArg Prod.fst (Prog.exec_bind_error hupdate)

/-- For a route that exists it is another one, or none, where no other party fails. -/
theorem managedRoutesRest_present {routeId : RouteId} {route : RouteRow}
    (hid : input.routeId = some routeId) (hpresent : s.2.routes.get? routeId = some route) :
    (Prog.exec (rowHandle calm fresh) (managedRoutesRest isValidIP input) s).1 ≠
      .error missingRecord := by
  obtain ⟨u, hupdate⟩ : ∃ u,
      Prog.exec (rowHandle calm fresh) (updateNote input.routeId input.note) s =
      (.ok (), u) := by
    cases hn : input.note with
    | none => exact ⟨s, rfl⟩
    | some note =>
      rw [hid]
      unfold updateNote
      rw [exec_prismaRows]
      simp only [RowQuery.run, Rows.updateRoute, hpresent]
      exact ⟨_, rfl⟩
  unfold managedRoutesRest
  rw [Prog.exec_bind_ok hupdate]
  unfold newRoutes
  split
  · split
    · intro h
      cases h
    · intro h
      cases h
  · intro h
    cases h

/-! ## 6. `addAnotation` -/

/-- What `addAnotation` does behind the entry in the activity log. -/
def addAnotationRest (input : AnotationInput) : RowProcedure (NotationId × NodeId) := do
  let notationId ←
    prismaRows (.upsertNotation input.name input.nwid input.color input.description)
  prismaRows (.upsertMemberNotation notationId input.nodeid)

variable {input : AnotationInput}

theorem findNotation_filter (rows : Rows) (name : String) (nwid : NetworkId) :
    rows.findNotation name nwid =
      ((rows.notations.filter fun _ label => label.nwid == nwid).entries.find? fun e =>
        e.2.name == name).map Prod.fst := by
  unfold Rows.findNotation Dict.filter
  rw [List.find?_filter]
  congr 2
  funext e
  exact Bool.eq_iff_iff.mpr (by simp [and_comm])

theorem SameBut.findNotation (h : SameBut nwid s t) (name : String) :
    t.2.findNotation name nwid = s.2.findNotation name nwid := by
  rw [findNotation_filter, findNotation_filter, h.notations]

theorem of_findNotation {rows : Rows} {name : String} {nwid : NetworkId} {id : NotationId}
    (h : rows.findNotation name nwid = some id) :
    ∃ label, rows.notations.get? id = some label ∧ label.nwid = nwid := by
  unfold Rows.findNotation at h
  obtain ⟨e, he, rfl⟩ := Option.map_eq_some_iff.mp h
  have hmem := List.mem_of_find?_eq_some he
  have hp := List.find?_some he
  rw [Bool.and_eq_true, beq_iff_eq, beq_iff_eq] at hp
  exact ⟨e.2, Dict.get?_eq_some_iff.mpr hmem, hp.2⟩

/-- The member is one of the network, or carries the annotation already. -/
def MemberInNetwork (input : AnotationInput) (s : Db × Rows) : Prop :=
  s.2.nodes.get? input.nodeid = some input.nwid ∨
    ∃ notationId, s.2.findNotation input.name input.nwid = some notationId ∧
      s.2.links.contains (notationId, input.nodeid) = true

theorem get?_of_links {link : NotationId × NodeId} (h : SameBut nwid s t)
    (hs : s.2.touches nwid link = true) (ht : t.2.touches nwid link = true) :
    t.2.links.contains link = s.2.links.contains link := by
  have hfilter := congrArg (fun d => d.get? link) h.links
  simp only [Dict.get?_filter, hs, ht] at hfilter
  simpa [Dict.contains] using congrArg Option.isSome hfilter

theorem MemberInNetwork.of_same (h : SameBut input.nwid s t) (hs : MemberInNetwork input s) :
    MemberInNetwork input t := by
  rcases hs with hnode | ⟨notationId, hfind, hlink⟩
  · exact .inl (h.node hnode)
  · obtain ⟨label, hlabel, hnwid⟩ := of_findNotation hfind
    refine .inr ⟨notationId, (h.findNotation _).trans hfind, ?_⟩
    rw [get?_of_links h (by simp [Rows.touches, hlabel, hnwid])
      (by simp [Rows.touches, h.label hlabel hnwid, hnwid])]
    exact hlink

/-- The tables with an annotation of the network. -/
def Rows.annotated (rows : Rows) (fresh : NotationId) (input : AnotationInput) :
    NotationId × Rows :=
  match rows.findNotation input.name input.nwid with
  | some id => (id, rows)
  | none => (fresh, { rows with
      notations := rows.notations.set fresh
        ⟨input.name, input.nwid, input.color, input.description⟩ })

theorem exec_addAnotationRest (hnetwork : s.1.networks.contains input.nwid = true) :
    Prog.exec (rowHandle plan fresh) (addAnotationRest input) s =
      (((s.2.annotated fresh input).2.upsertMemberNotation (s.2.annotated fresh input).1
          input.nodeid).1,
        (s.1, ((s.2.annotated fresh input).2.upsertMemberNotation (s.2.annotated fresh input).1
          input.nodeid).2)) := by
  have hnotation : Prog.exec (rowHandle plan fresh)
      (prismaRows (.upsertNotation input.name input.nwid input.color input.description)) s =
        (.ok (s.2.annotated fresh input).1, (s.1, (s.2.annotated fresh input).2)) := by
    rw [exec_prismaRows]
    simp only [RowQuery.run, Rows.upsertNotation, Rows.annotated, hnetwork, if_true]
    cases s.2.findNotation input.name input.nwid <;> rfl
  unfold addAnotationRest
  rw [Prog.exec_bind_ok hnotation, exec_prismaRows]
  rfl

/-- The annotation is one of the network. -/
theorem get?_annotated (rows : Rows) (fresh : NotationId) (input : AnotationInput) :
    ∃ label, (rows.annotated fresh input).2.notations.get? (rows.annotated fresh input).1 =
      some label ∧ label.nwid = input.nwid := by
  unfold Rows.annotated
  cases hfind : rows.findNotation input.name input.nwid with
  | some id => exact of_findNotation hfind
  | none => exact ⟨_, Dict.get?_set_self _ _ _, rfl⟩

theorem annotated_rest (rows : Rows) (fresh : NotationId) (input : AnotationInput) :
    (rows.annotated fresh input).2.nodes = rows.nodes ∧
      (rows.annotated fresh input).2.links = rows.links ∧
      (rows.annotated fresh input).2.routes = rows.routes := by
  unfold Rows.annotated
  cases rows.findNotation input.name input.nwid <;> exact ⟨rfl, rfl, rfl⟩

/-- An annotation that is new to the network changes no other network's rows. -/
theorem rowsOf_annotated (input : AnotationInput) (hother : other ≠ input.nwid)
    (hfresh : s.2.notations.get? fresh = none) :
    rowsOf other (s.1, (s.2.annotated fresh input).2) = rowsOf other s := by
  unfold Rows.annotated
  cases s.2.findNotation input.name input.nwid with
  | some id => rfl
  | none =>
    have hnotations : ((s.2.notations.set fresh
        ⟨input.name, input.nwid, input.color, input.description⟩).filter
          fun _ label => label.nwid == other) =
        s.2.notations.filter fun _ label => label.nwid == other := by
      rw [Dict.filter_set (fun v₀ hv₀ => by rw [hfresh] at hv₀; cases hv₀),
        if_neg (by simpa using hother.symm)]
    have htouches : ∀ label : NotationRow, label.nwid = input.nwid →
        Rows.touches { s.2 with notations := s.2.notations.set fresh label } other =
          s.2.touches other := by
      intro label hlabel
      funext link
      unfold Rows.touches
      simp only [Dict.get?_set]
      split
      next heq => simp [← heq, hfresh, hlabel, hother.symm]
      next => rfl
    unfold rowsOf
    dsimp only
    rw [hnotations, htouches _ rfl]

/-- Adding the link returns it where the member exists or has it already. -/
theorem upsertMemberNotation_fst (rows : Rows) {id : NotationId} {nodeid : NodeId}
    (hlabel : rows.notations.contains id = true)
    (h : rows.links.contains (id, nodeid) = true ∨ rows.nodes.contains nodeid = true) :
    (rows.upsertMemberNotation id nodeid).1 = .ok (id, nodeid) := by
  unfold Rows.upsertMemberNotation
  split
  · rfl
  · next hlink =>
    rw [if_pos (by simp [hlabel, h.resolve_left hlink])]

/-- A link to a member that does not exist is refused. -/
theorem upsertMemberNotation_missing {rows : Rows} {id : NotationId} {nodeid : NodeId}
    (hlink : rows.links.contains (id, nodeid) = false) (hnode : rows.nodes.get? nodeid = none) :
    rows.upsertMemberNotation id nodeid = (.error foreignKeyFailure, rows) := by
  unfold Rows.upsertMemberNotation
  rw [hlink, if_neg (by decide), if_neg (by simp [Dict.contains, hnode])]

/-- A new link to a member that exists is added. -/
theorem upsertMemberNotation_new {rows : Rows} {id : NotationId} {nodeid : NodeId}
    (hlink : rows.links.contains (id, nodeid) = false)
    (hlabel : rows.notations.contains id = true) (hnode : rows.nodes.contains nodeid = true) :
    rows.upsertMemberNotation id nodeid =
      (.ok (id, nodeid), { rows with links := rows.links.set (id, nodeid) () }) := by
  unfold Rows.upsertMemberNotation
  rw [hlink, if_neg (by decide), hlabel, hnode]
  rfl

/-- Adding a link of the network changes no other network's rows. -/
theorem rowsOf_upsertMemberNotation {id : NotationId} {label : NotationRow} {nodeid : NodeId}
    (hother : other ≠ nwid) (hlabel : s.2.notations.get? id = some label)
    (hnwid : label.nwid = nwid)
    (h : s.2.nodes.get? nodeid = some nwid ∨ s.2.links.contains (id, nodeid) = true) :
    rowsOf other (s.1, (s.2.upsertMemberNotation id nodeid).2) = rowsOf other s := by
  unfold Rows.upsertMemberNotation
  split
  · rfl
  · next hlink =>
    split
    · have hnode := h.resolve_right hlink
      have hlinks : ((s.2.links.set (id, nodeid) ()).filter fun link _ =>
          s.2.touches other link) = s.2.links.filter fun link _ => s.2.touches other link := by
        rw [Dict.filter_set (fun _ _ => rfl), if_neg]
        simp [Rows.touches, hlabel, hnwid, hnode, hother.symm]
      unfold rowsOf
      dsimp only
      rw [← hlinks]
      rfl
    · rfl

/-- The annotation is added wherever the member exists or carries it. -/
theorem addAnotationRest_ok (hnetwork : s.1.networks.contains input.nwid = true)
    (h : s.2.nodes.contains input.nodeid = true ∨
      s.2.links.contains ((s.2.annotated fresh input).1, input.nodeid) = true) :
    (Prog.exec (rowHandle plan fresh) (addAnotationRest input) s).1 =
      .ok ((s.2.annotated fresh input).1, input.nodeid) := by
  obtain ⟨label, hlabel, -⟩ := get?_annotated s.2 fresh input
  obtain ⟨hnodes, hlinks, -⟩ := annotated_rest s.2 fresh input
  rw [exec_addAnotationRest hnetwork]
  refine upsertMemberNotation_fst _ (Dict.contains_iff.mpr ⟨label, hlabel⟩) ?_
  rw [hnodes, hlinks]
  exact h.symm

theorem addAnotationRest_fst (hnetwork : s.1.networks.contains input.nwid = true)
    (h : MemberInNetwork input s) :
    (Prog.exec (rowHandle plan fresh) (addAnotationRest input) s).1 =
      .ok ((s.2.findNotation input.name input.nwid).getD fresh, input.nodeid) := by
  have hid : (s.2.annotated fresh input).1 =
      (s.2.findNotation input.name input.nwid).getD fresh := by
    unfold Rows.annotated
    cases s.2.findNotation input.name input.nwid <;> rfl
  rw [← hid]
  refine addAnotationRest_ok hnetwork ?_
  rcases h with hnode | ⟨notationId, hfind, hlink⟩
  · exact .inl (Dict.contains_iff.mpr ⟨_, hnode⟩)
  · right
    rw [hid, hfind]
    exact hlink

theorem addAnotationRest_frame (hnetwork : s.1.networks.contains input.nwid = true)
    (h : MemberInNetwork input s) (hother : other ≠ input.nwid)
    (hfresh : s.2.notations.get? fresh = none) :
    rowsOf other (Prog.exec (rowHandle plan fresh) (addAnotationRest input) s).2 =
      rowsOf other s := by
  obtain ⟨label, hlabel, hnwid⟩ := get?_annotated s.2 fresh input
  obtain ⟨hnodes, hlinks, -⟩ := annotated_rest s.2 fresh input
  rw [exec_addAnotationRest hnetwork, ← rowsOf_annotated input hother hfresh]
  refine rowsOf_upsertMemberNotation (s := (s.1, (s.2.annotated fresh input).2)) hother hlabel hnwid
    ?_
  rw [hnodes, hlinks]
  rcases h with hnode | ⟨notationId, hfind, hlink⟩
  · exact .inl hnode
  · right
    unfold Rows.annotated
    rw [hfind]
    exact hlink

/-! ## 7. `getMemberAnotations` -/

theorem mem_findMemberNotations {rows : Rows} {nodeid : NodeId} {found : Annotation} :
    found ∈ rows.findMemberNotations nodeid ↔
      rows.links.contains (found.notationId, nodeid) = true ∧ found.nodeid = nodeid ∧
        rows.notations.get? found.notationId = some found.label := by
  unfold Rows.findMemberNotations
  rw [List.mem_filterMap]
  constructor
  · rintro ⟨link, hlink, hlabel⟩
    obtain ⟨label, hget, rfl⟩ := Option.map_eq_some_iff.mp hlabel
    obtain ⟨e, he, rfl⟩ := List.mem_map.mp hlink
    obtain ⟨hmem, hnode⟩ := List.mem_filter.mp he
    rw [beq_iff_eq] at hnode
    refine ⟨Dict.contains_iff.mpr ⟨e.2, ?_⟩, hnode, hget⟩
    rw [← hnode]
    exact Dict.get?_eq_some_iff.mpr hmem
  · rintro ⟨hlink, hnode, hlabel⟩
    obtain ⟨u, hu⟩ := Dict.contains_iff.mp hlink
    refine ⟨(found.notationId, nodeid), ?_, ?_⟩
    · exact List.mem_map.mpr ⟨((found.notationId, nodeid), u),
        List.mem_filter.mpr ⟨Dict.get?_eq_some_iff.mp hu, beq_self_eq_true nodeid⟩, rfl⟩
    · rw [hlabel]
      obtain ⟨notationId, node, label⟩ := found
      cases hnode
      rfl

/-- The member is one of the network and carries no other network's annotations. -/
def LabelsInNetwork (nwid : NetworkId) (nodeid : NodeId) (s : Db × Rows) : Prop :=
  s.2.nodes.get? nodeid = some nwid ∧
    ∀ notationId, s.2.links.contains (notationId, nodeid) = true →
      ∃ label, s.2.notations.get? notationId = some label ∧ label.nwid = nwid

/-- The links of a member are links of its network. -/
theorem links_of_node {rows : Rows} {nodeid : NodeId} (hnode : rows.nodes.get? nodeid = some nwid) :
    (rows.links.filter fun link _ => link.2 == nodeid) =
      (rows.links.filter fun link _ => rows.touches nwid link).filter fun link _ =>
        link.2 == nodeid := by
  refine Dict.ext ?_
  change rows.links.entries.filter (fun e => e.1.2 == nodeid) =
    (rows.links.entries.filter fun e => rows.touches nwid e.1).filter fun e => e.1.2 == nodeid
  rw [List.filter_filter]
  refine List.filter_congr fun e _ => ?_
  cases hn : e.1.2 == nodeid with
  | false => rfl
  | true =>
    rw [beq_iff_eq] at hn
    simp [Rows.touches, hn, hnode]

theorem findMemberNotations_same {nodeid : NodeId} (h : SameBut nwid s t)
    (hs : LabelsInNetwork nwid nodeid s) :
    t.2.findMemberNotations nodeid = s.2.findMemberNotations nodeid := by
  obtain ⟨hnode, hlabels⟩ := hs
  unfold Rows.findMemberNotations
  rw [links_of_node (h.node hnode), links_of_node hnode, h.links]
  refine List.filterMap_congr fun link hlink => ?_
  rw [← links_of_node hnode] at hlink
  obtain ⟨e, he, rfl⟩ := List.mem_map.mp hlink
  obtain ⟨hmem, hn⟩ := List.mem_filter.mp he
  rw [beq_iff_eq] at hn
  obtain ⟨label, hlabel, hnwid⟩ := hlabels e.1.1 (by
    rw [← hn]
    exact Dict.contains_iff.mpr ⟨e.2, Dict.get?_eq_some_iff.mpr hmem⟩)
  rw [hlabel, h.label hlabel hnwid]

/-! ## 8. Which calls are isolated -/

theorem contains_of_hasAccess {db : Db} {role : Role}
    (h : db.hasAccess userId nwid role = true) : db.networks.contains nwid = true := by
  obtain ⟨network, hnetwork, -⟩ := (Option.any_eq_true _ _).mp h
  exact Dict.contains_iff.mpr ⟨network, hnetwork⟩

/-- A call that stops with the same error everywhere is isolated. -/
theorem isolated_of_error {α : Type} {p : RowProcedure α} {e : Failure}
    (herror : ∀ t, t = s ∨ SameBut nwid s t →
      Prog.exec (rowHandle plan fresh) p t = (.error e, t)) :
    (∀ other, other ≠ nwid →
      rowsOf other (Prog.exec (rowHandle plan fresh) p s).2 = rowsOf other s) ∧
    ∀ t, SameBut nwid s t → t.2.notations.get? fresh = none →
      (Prog.exec (rowHandle plan fresh) p t).1 = (Prog.exec (rowHandle plan fresh) p s).1 := by
  refine ⟨fun other _ => ?_, fun t ht _ => ?_⟩
  · rw [herror s (.inl rfl)]
  · rw [herror t (.inr ht), herror s (.inl rfl)]

theorem managedRoutes_isolated {input : ManagedRoutesInput}
    (h : (RowCall.managedRoutes input).Addressed userId s) :
    (RowCall.managedRoutes input).Isolated isValidIP userId s := by
  intro plan fresh hfresh
  change (∀ other, other ≠ input.nwid →
      rowsOf other (Prog.exec (rowHandle plan fresh) (managedRoutes isValidIP userId input) s).2 =
        rowsOf other s) ∧
    ∀ t, SameBut input.nwid s t → t.2.notations.get? fresh = none →
      (Prog.exec (rowHandle plan fresh) (managedRoutes isValidIP userId input) t).1 =
        (Prog.exec (rowHandle plan fresh) (managedRoutes isValidIP userId input) s).1
  rcases exec_logged (managedRoutesRest isValidIP input) plan fresh userId input.nwid
    input.organizationId s with ⟨⟨e, herror⟩, -⟩ | ⟨hgo, haccess, hlog⟩
  · exact isolated_of_error herror
  · have hnote : NoteInNetwork input (s.1.logged userId input.organizationId, s.2) :=
      h haccess hlog
    refine ⟨fun other hother => ?_, fun t ht _ => ?_⟩
    · refine (congrArg (fun r => rowsOf other r.2) (hgo s (.inl rfl))).trans ?_
      exact managedRoutesRest_frame hother hnote
    · refine (congrArg Prod.fst (hgo t (.inr ht))).trans
        (.trans ?_ (congrArg Prod.fst (hgo s (.inl rfl))).symm)
      exact (managedRoutesRest_rel ht.logged hnote).symm

theorem addAnotation_isolated (h : input.call.Addressed userId s) :
    input.call.Isolated isValidIP userId s := by
  intro plan fresh hfresh
  change (∀ other, other ≠ input.nwid →
      rowsOf other (Prog.exec (rowHandle plan fresh) (input.call.program isValidIP userId) s).2 =
        rowsOf other s) ∧
    ∀ t, SameBut input.nwid s t → t.2.notations.get? fresh = none →
      (Prog.exec (rowHandle plan fresh) (input.call.program isValidIP userId) t).1 =
        (Prog.exec (rowHandle plan fresh) (input.call.program isValidIP userId) s).1
  rcases exec_logged (addAnotationRest input) plan fresh userId input.nwid
    input.organizationId s with ⟨⟨e, herror⟩, -⟩ | ⟨hgo, haccess, hlog⟩
  · exact isolated_of_error herror
  · have hmember : MemberInNetwork input s := h haccess hlog
    have hnetwork := contains_of_hasAccess haccess
    refine ⟨fun other hother => ?_, fun t ht _ => ?_⟩
    · refine (congrArg (fun r => rowsOf other r.2) (hgo s (.inl rfl))).trans ?_
      exact addAnotationRest_frame hnetwork hmember hother hfresh
    · have hnetwork' : t.1.networks.contains input.nwid = true := by
        unfold Dict.contains
        rw [ht.network]
        exact hnetwork
      refine (congrArg Prod.fst (hgo t (.inr ht))).trans
        (.trans ?_ (congrArg Prod.fst (hgo s (.inl rfl))).symm)
      have hmember' : MemberInNetwork input t := hmember.of_same ht
      refine (addAnotationRest_fst (s := (t.1.logged userId input.organizationId, t.2)) hnetwork'
        hmember').trans (.trans ?_ (addAnotationRest_fst
          (s := (s.1.logged userId input.organizationId, s.2)) hnetwork hmember).symm)
      rw [ht.findNotation]

/-- Reading the annotations of a member is a check and a query. -/
theorem exec_getMemberAnotations (nodeid : NodeId) :
    Prog.exec (rowHandle plan fresh) (getMemberAnotations userId nwid nodeid) s =
      ((Prog.exec (handle plan) (checkNetworkAccess userId nwid .readOnly) s.1).1.map
        fun _ => s.2.findMemberNotations nodeid, s) := by
  have hcheck :
      Prog.exec (rowHandle plan fresh) (base (checkNetworkAccess userId nwid .readOnly)) s =
      ((Prog.exec (handle plan) (checkNetworkAccess userId nwid .readOnly) s.1).1, s) := by
    rw [exec_base, exec_access_snd]
  unfold getMemberAnotations
  cases hr : (Prog.exec (handle plan) (checkNetworkAccess userId nwid .readOnly) s.1).1 with
  | error e =>
    rw [hr] at hcheck
    exact Prog.exec_bind_error hcheck
  | ok a =>
    rw [hr] at hcheck
    rw [Prog.exec_bind_ok hcheck, exec_prismaRows]
    rfl

theorem getMemberAnotations_isolated {nodeid : NodeId}
    (h : (RowCall.getMemberAnotations nwid nodeid).Addressed userId s) :
    (RowCall.getMemberAnotations nwid nodeid).Isolated isValidIP userId s := by
  intro plan fresh hfresh
  change (∀ other, other ≠ nwid →
      rowsOf other (Prog.exec (rowHandle plan fresh) (getMemberAnotations userId nwid nodeid) s).2 =
        rowsOf other s) ∧
    ∀ t, SameBut nwid s t → t.2.notations.get? fresh = none →
      (Prog.exec (rowHandle plan fresh) (getMemberAnotations userId nwid nodeid) t).1 =
        (Prog.exec (rowHandle plan fresh) (getMemberAnotations userId nwid nodeid) s).1
  refine ⟨fun other _ => by rw [exec_getMemberAnotations], fun t ht _ => ?_⟩
  rw [exec_getMemberAnotations, exec_getMemberAnotations]
  dsimp only
  rw [ht.access plan]
  have hcheck := checkNetworkAccess_checks plan s.1 userId nwid .readOnly
  cases haccess : s.1.hasAccess userId nwid .readOnly with
  | false =>
    rw [haccess] at hcheck
    obtain ⟨e, he⟩ := hcheck.error
    rw [he]
    rfl
  | true => rw [findMemberNotations_same ht (h haccess)]

/-- The id of another network. -/
def otherNetwork (nwid : NetworkId) : NetworkId := nwid ++ "x"

theorem ne_of_longer {s t : String} (h : t.length < s.length) : s ≠ t := by
  rintro rfl
  exact lt_irrefl _ h

theorem length_otherNetwork (nwid : NetworkId) :
    (otherNetwork nwid).length = nwid.length + 1 := String.length_append nwid "x"

theorem otherNetwork_ne (nwid : NetworkId) : otherNetwork nwid ≠ nwid :=
  ne_of_longer (by rw [length_otherNetwork]; exact Nat.lt_succ_self _)

/-- An id that no sequence has given yet. -/
theorem exists_unused (d : Dict NotationId NotationRow) (links : Dict (NotationId × NodeId) Unit)
    (used : List NotationId) :
    ∃ id, d.get? id = none ∧ (∀ nodeid, links.contains (id, nodeid) = false) ∧ id ∉ used := by
  obtain ⟨id, hid⟩ := Infinite.exists_notMem_finset
    (d.keys ++ links.keys.map Prod.fst ++ used).toFinset
  rw [List.mem_toFinset, List.mem_append, List.mem_append, not_or, not_or] at hid
  refine ⟨id, Dict.get?_eq_none_iff.mpr hid.1.1, fun nodeid => ?_, hid.2⟩
  refine Bool.eq_false_iff.mpr fun h => hid.1.2 ?_
  obtain ⟨u, hu⟩ := Dict.contains_iff.mp h
  exact List.mem_map.mpr ⟨(id, nodeid), List.mem_map.mpr
    ⟨((id, nodeid), u), Dict.get?_eq_some_iff.mp hu, rfl⟩, rfl⟩

/-- A state with one more route of another network. -/
theorem sameBut_newRoute {routeId : RouteId} (hmissing : s.2.routes.get? routeId = none)
    (hother : other ≠ nwid) :
    SameBut nwid s (s.1, { s.2 with
      routes := s.2.routes.set routeId ⟨"", none, other, none⟩ }) := by
  refine ⟨?_, rfl, rfl, rfl, rfl, rfl, rfl⟩
  have hroutes : ((s.2.routes.set routeId ⟨"", none, other, none⟩).filter fun _ route =>
      route.networkId == nwid) = s.2.routes.filter fun _ route => route.networkId == nwid := by
    rw [Dict.filter_set (fun v₀ hv₀ => by rw [hmissing] at hv₀; cases hv₀),
      if_neg (by simpa using hother)]
  unfold rowsOf
  dsimp only
  rw [hroutes]
  rfl

/-- A state without a route of another network. -/
theorem sameBut_withoutRoute {routeId : RouteId}
    (hforeign : ∀ route, s.2.routes.get? routeId = some route → route.networkId ≠ nwid) :
    SameBut nwid s (s.1, { s.2 with routes := s.2.routes.filter fun id _ => id != routeId }) := by
  refine ⟨?_, rfl, rfl, rfl, rfl, rfl, rfl⟩
  have hroutes : ((s.2.routes.filter fun id _ => id != routeId).filter fun _ route =>
      route.networkId == nwid) = s.2.routes.filter fun _ route => route.networkId == nwid := by
    refine Dict.ext ?_
    change (s.2.routes.entries.filter fun e => e.1 != routeId).filter
        (fun e => e.2.networkId == nwid) = s.2.routes.entries.filter fun e => e.2.networkId == nwid
    rw [List.filter_filter]
    refine List.filter_congr fun e he => ?_
    cases hid : e.1 != routeId with
    | true => rw [Bool.and_true]
    | false =>
      rw [bne_eq_false_iff_eq] at hid
      have := hforeign e.2 (hid ▸ Dict.get?_eq_some_iff.mpr he)
      rw [beq_false_of_ne this]
      rfl
  unfold rowsOf
  dsimp only
  rw [hroutes]
  rfl

theorem managedRoutes_addressed {input : ManagedRoutesInput}
    (h : (RowCall.managedRoutes input).Isolated isValidIP userId s) :
    (RowCall.managedRoutes input).Addressed userId s := by
  intro haccess hlog hnote routeId hid
  by_contra hnone
  have hforeign : ∀ route, s.2.routes.get? routeId = some route →
      route.networkId ≠ input.nwid := fun route hroute hnwid => hnone ⟨route, hroute, hnwid⟩
  obtain ⟨fresh, hfresh, -⟩ := exists_unused s.2.notations s.2.links []
  obtain ⟨-, hsame⟩ := h calm fresh hfresh
  -- where the route is missing the call fails, and where another network has it, it does not
  have hdiffer : ∀ t u, (t = s ∨ SameBut input.nwid s t) → (u = s ∨ SameBut input.nwid s u) →
      t.2.routes.get? routeId = none → (∃ route, u.2.routes.get? routeId = some route) →
      ((RowCall.managedRoutes input).run isValidIP userId calm fresh t).1 ≠
        ((RowCall.managedRoutes input).run isValidIP userId calm fresh u).1 := by
    rintro t u ht hu hmissing ⟨route, hpresent⟩ heq
    rcases exec_logged (managedRoutesRest isValidIP input) calm fresh userId input.nwid
      input.organizationId s with ⟨-, hno⟩ | ⟨hgo, -, -⟩
    · exact hno ⟨haccess, hlog⟩
    · have htrun := (congrArg Prod.fst (hgo t ht)).trans (managedRoutesRest_missing
        (s := (t.1.logged userId input.organizationId, t.2)) hnote hid hmissing)
      have hurun : (Prog.exec (rowHandle calm fresh) (managedRoutesRest isValidIP input)
          (u.1.logged userId input.organizationId, u.2)).1 ≠ .error missingRecord :=
        managedRoutesRest_present hid hpresent
      exact hurun ((congrArg Prod.fst (hgo u hu)).symm.trans (heq.symm.trans htrun))
  cases hroute : s.2.routes.get? routeId with
  | none =>
    have ht : SameBut input.nwid s (s.1, { s.2 with
        routes := s.2.routes.set routeId ⟨"", none, otherNetwork input.nwid, none⟩ }) :=
      sameBut_newRoute hroute (otherNetwork_ne input.nwid)
    exact hdiffer s _ (.inl rfl) (.inr ht) hroute ⟨_, Dict.get?_set_self _ _ _⟩
      (hsame _ ht hfresh).symm
  | some route =>
    have ht := sameBut_withoutRoute hforeign
    refine hdiffer _ s (.inr ht) (.inl rfl) ?_ ⟨route, hroute⟩ (hsame _ ht hfresh)
    dsimp only
    rw [Dict.get?_filter, hroute]
    exact Option.filter_some_neg (by simp)

/-- A state in which an unknown member is one of another network. -/
theorem sameBut_newNode {nodeid : NodeId} (hmissing : s.2.nodes.get? nodeid = none)
    (hother : other ≠ nwid) :
    SameBut nwid s (s.1, { s.2 with nodes := s.2.nodes.set nodeid other }) := by
  refine ⟨?_, rfl, rfl, rfl, rfl, rfl, rfl⟩
  have hnodes : ((s.2.nodes.set nodeid other).filter fun _ network => network == nwid) =
      s.2.nodes.filter fun _ network => network == nwid := by
    rw [Dict.filter_set (fun v₀ hv₀ => by rw [hmissing] at hv₀; cases hv₀),
      if_neg (by simpa using hother)]
  have htouches : Rows.touches { s.2 with nodes := s.2.nodes.set nodeid other } nwid =
      s.2.touches nwid := by
    funext link
    unfold Rows.touches
    simp only [Dict.get?_set]
    split
    next heq => simp [← heq, hmissing, hother]
    next => rfl
  unfold rowsOf
  dsimp only
  rw [hnodes, htouches]

theorem addAnotation_addressed (h : input.call.Isolated isValidIP userId s) :
    input.call.Addressed userId s := by
  intro haccess hlog
  by_contra hno
  rw [not_or, not_exists] at hno
  obtain ⟨hnode, hnolink⟩ := hno
  obtain ⟨fresh, hfresh, hunlinked, -⟩ := exists_unused s.2.notations s.2.links []
  have hnetwork := contains_of_hasAccess haccess
  obtain ⟨hframe, hsame⟩ := h calm fresh hfresh
  have hgo : ∀ t, t = s ∨ SameBut input.nwid s t →
      input.call.run isValidIP userId calm fresh t =
        Prog.exec (rowHandle calm fresh) (addAnotationRest input)
          (t.1.logged userId input.organizationId, t.2) := by
    rcases exec_logged (addAnotationRest input) calm fresh userId input.nwid
      input.organizationId s with ⟨-, hno⟩ | ⟨hgo, -, -⟩
    · exact absurd ⟨haccess, hlog⟩ hno
    · exact hgo
  obtain ⟨label, hlabel, -⟩ := get?_annotated s.2 fresh input
  obtain ⟨hnodes, hlinks, -⟩ := annotated_rest s.2 fresh input
  have hnew : s.2.links.contains ((s.2.annotated fresh input).1, input.nodeid) = false := by
    unfold Rows.annotated
    cases hfind : s.2.findNotation input.name input.nwid with
    | none => exact hunlinked _
    | some id => exact Bool.eq_false_iff.mpr fun hlink => hnolink id ⟨hfind, hlink⟩
  have hlabel' : (s.2.annotated fresh input).2.notations.contains
      (s.2.annotated fresh input).1 = true := Dict.contains_iff.mpr ⟨label, hlabel⟩
  have hs := (hgo s (.inl rfl)).trans (exec_addAnotationRest
    (s := (s.1.logged userId input.organizationId, s.2)) hnetwork)
  cases hmember : s.2.nodes.get? input.nodeid with
  | some other =>
    -- the new link is a row of the member's network
    have hother : other ≠ input.nwid := fun heq => hnode (heq ▸ hmember)
    have hadded := upsertMemberNotation_new (hlinks.symm ▸ hnew) hlabel'
      (hnodes.symm ▸ Dict.contains_iff.mpr ⟨other, hmember⟩)
    have hrows := hframe other hother
    rw [hs, hadded] at hrows
    have hlink := congrArg (fun r => (NetworkRows.links r).get?
      ((s.2.annotated fresh input).1, input.nodeid)) hrows
    simp only [rowsOf, Dict.get?_filter, hlinks, Dict.get?_set_self] at hlink
    rw [Dict.contains, Option.isSome_eq_false_iff, Option.isNone_iff_eq_none] at hnew
    rw [hnew, Option.filter_some_pos (by simp [Rows.touches, hnodes, hmember])] at hlink
    cases hlink
  | none =>
    -- whether the member exists in another network decides whether the call fails
    have ht : SameBut input.nwid s (s.1, { s.2 with
        nodes := s.2.nodes.set input.nodeid (otherNetwork input.nwid) }) :=
      sameBut_newNode hmember (otherNetwork_ne input.nwid)
    have heq := hsame _ ht hfresh
    have hrefused := upsertMemberNotation_missing (hlinks.symm ▸ hnew) (hnodes.symm ▸ hmember)
    rw [hs, hrefused, hgo _ (.inr ht)] at heq
    cases heq.symm.trans (addAnotationRest_ok
      (s := (s.1.logged userId input.organizationId, { s.2 with
        nodes := s.2.nodes.set input.nodeid (otherNetwork input.nwid) })) hnetwork
      (.inl (Dict.contains_iff.mpr ⟨_, Dict.get?_set_self _ _ _⟩)))

/-- A state with one more annotation of a member, of another network. -/
theorem sameBut_newLabel {id : NotationId} {nodeid : NodeId} {label : NotationRow}
    (hmissing : s.2.notations.get? id = none) (hlabel : label.nwid ≠ nwid)
    (hnode : s.2.nodes.get? nodeid ≠ some nwid) :
    SameBut nwid s (s.1, { s.2 with
      notations := s.2.notations.set id label
      links := s.2.links.set (id, nodeid) () }) := by
  refine ⟨?_, rfl, rfl, rfl, rfl, rfl, rfl⟩
  have hnotations : ((s.2.notations.set id label).filter fun _ label => label.nwid == nwid) =
      s.2.notations.filter fun _ label => label.nwid == nwid := by
    rw [Dict.filter_set (fun v₀ hv₀ => by rw [hmissing] at hv₀; cases hv₀),
      if_neg (by simpa using hlabel)]
  have htouches : ∀ links, Rows.touches ⟨s.2.routes, s.2.notations.set id label, s.2.nodes, links⟩
      nwid = s.2.touches nwid := by
    intro links
    funext link
    unfold Rows.touches
    simp only [Dict.get?_set]
    split
    next heq => simp [← heq, hmissing, hlabel]
    next => rfl
  have hlinks : ((s.2.links.set (id, nodeid) ()).filter fun link _ => s.2.touches nwid link) =
      s.2.links.filter fun link _ => s.2.touches nwid link := by
    rw [Dict.filter_set (fun _ _ => rfl), if_neg]
    simp [Rows.touches, hmissing, hnode]
  unfold rowsOf
  dsimp only
  rw [hnotations, htouches, hlinks]

/-- A state with another label of another network. -/
theorem sameBut_otherLabel {id : NotationId} {label : NotationRow} (hlabel : label.nwid ≠ nwid)
    (hforeign : ∀ label, s.2.notations.get? id = some label → label.nwid ≠ nwid) :
    SameBut nwid s (s.1, { s.2 with notations := s.2.notations.set id label }) := by
  refine ⟨?_, rfl, rfl, rfl, rfl, rfl, rfl⟩
  have hnotations : ((s.2.notations.set id label).filter fun _ label => label.nwid == nwid) =
      s.2.notations.filter fun _ label => label.nwid == nwid := by
    rw [Dict.filter_set, if_neg (by simpa using hlabel)]
    intro label₀ hlabel₀
    rw [beq_false_of_ne (hforeign label₀ hlabel₀), beq_false_of_ne hlabel]
  have htouches : Rows.touches { s.2 with notations := s.2.notations.set id label } nwid =
      s.2.touches nwid := by
    funext link
    unfold Rows.touches
    simp only [Dict.get?_set]
    split
    next heq =>
      cases hget : s.2.notations.get? link.1 with
      | none => simp [hlabel]
      | some label₀ =>
        have hforeign₀ := hforeign label₀ (heq ▸ hget)
        simp only [Option.any_some, beq_false_of_ne hlabel, beq_false_of_ne hforeign₀]
    next => rfl
  unfold rowsOf
  dsimp only
  rw [hnotations, htouches]

theorem getMemberAnotations_addressed {nodeid : NodeId}
    (h : (RowCall.getMemberAnotations nwid nodeid).Isolated isValidIP userId s) :
    (RowCall.getMemberAnotations nwid nodeid).Addressed userId s := by
  intro haccess
  -- the annotations are the same in every state that differs only in other networks' rows
  have hsame : ∀ id, ∃ fresh, id ≠ fresh ∧ s.2.notations.get? fresh = none ∧
      ∀ t, SameBut nwid s t → t.2.notations.get? fresh = none →
        t.2.findMemberNotations nodeid = s.2.findMemberNotations nodeid := by
    intro id
    obtain ⟨fresh, hfresh, -, hne⟩ := exists_unused s.2.notations s.2.links [id]
    refine ⟨fresh, fun heq => hne (heq ▸ List.mem_singleton_self id), hfresh,
      fun t ht htfresh => ?_⟩
    have heq : (Prog.exec (rowHandle calm fresh) (getMemberAnotations userId nwid nodeid) t).1 =
        (Prog.exec (rowHandle calm fresh) (getMemberAnotations userId nwid nodeid) s).1 :=
      (h calm fresh hfresh).2 t ht htfresh
    have hcheck := checkNetworkAccess_checks calm s.1 userId nwid .readOnly
    rw [haccess] at hcheck
    rw [exec_getMemberAnotations, exec_getMemberAnotations] at heq
    dsimp only at heq
    rw [ht.access calm, hcheck.ok] at heq
    exact Except.ok.inj heq
  by_cases hnode : s.2.nodes.get? nodeid = some nwid
  · refine ⟨hnode, fun id hlink => ?_⟩
    by_contra hnone
    -- the label may be another one
    obtain ⟨fresh, hne, hfresh, hfind⟩ := hsame id
    obtain ⟨label, hlabel, hother⟩ : ∃ label : NotationRow, label.nwid ≠ nwid ∧
        s.2.notations.get? id ≠ some label := by
      cases hget : s.2.notations.get? id with
      | none => exact ⟨⟨"", otherNetwork nwid, none, none⟩, otherNetwork_ne nwid, nofun⟩
      | some old =>
        have hlonger : (otherNetwork (nwid ++ old.nwid)).length =
            nwid.length + old.nwid.length + 1 := by
          rw [length_otherNetwork, String.length_append]
        refine ⟨{ old with nwid := otherNetwork (nwid ++ old.nwid) },
          ne_of_longer (by rw [hlonger]; omega), fun heq => ?_⟩
        exact ne_of_longer (t := old.nwid) (by rw [hlonger]; omega)
          (congrArg NotationRow.nwid (Option.some.inj heq)).symm
    have ht : SameBut nwid s (s.1, { s.2 with notations := s.2.notations.set id label }) :=
      sameBut_otherLabel hlabel fun old hold hnwid => hnone ⟨old, hold, hnwid⟩
    have hmem : (⟨id, nodeid, label⟩ : Annotation) ∈ s.2.findMemberNotations nodeid := by
      rw [← hfind _ ht ((Dict.get?_set_ne _ hne _).trans hfresh), mem_findMemberNotations]
      exact ⟨hlink, rfl, Dict.get?_set_self _ _ _⟩
    exact hother (mem_findMemberNotations.mp hmem).2.2
  · exfalso
    -- the member may carry an annotation of another network
    obtain ⟨id, hmissing, hunlinked, -⟩ := exists_unused s.2.notations s.2.links []
    obtain ⟨fresh, hne, hfresh, hfind⟩ := hsame id
    have ht : SameBut nwid s (s.1, { s.2 with
        notations := s.2.notations.set id ⟨"", otherNetwork nwid, none, none⟩
        links := s.2.links.set (id, nodeid) () }) :=
      sameBut_newLabel hmissing (otherNetwork_ne nwid) hnode
    have hmem : (⟨id, nodeid, ⟨"", otherNetwork nwid, none, none⟩⟩ : Annotation) ∈
        s.2.findMemberNotations nodeid := by
      rw [← hfind _ ht ((Dict.get?_set_ne _ hne _).trans hfresh), mem_findMemberNotations]
      exact ⟨Dict.contains_iff.mpr ⟨(), Dict.get?_set_self _ _ _⟩, rfl, Dict.get?_set_self _ _ _⟩
    have hlink := (mem_findMemberNotations.mp hmem).1
    rw [hunlinked nodeid] at hlink
    cases hlink

/-- **When a call keeps to the network it has asked for.**  It is isolated exactly where the row
that it names is one of the network, or where it does not come so far that it matters. -/
theorem isolated_iff (isValidIP : String → Bool) (userId : UserId) (call : RowCall)
    (s : Db × Rows) : call.Isolated isValidIP userId s ↔ call.Addressed userId s := by
  cases call with
  | managedRoutes input => exact ⟨managedRoutes_addressed, managedRoutes_isolated⟩
  | addAnotation input => exact ⟨addAnotation_addressed, addAnotation_isolated⟩
  | getMemberAnotations nwid nodeid =>
    exact ⟨getMemberAnotations_addressed, getMemberAnotations_isolated⟩

/-! ## 9. A note for a stranger's route -/

/-- User 1 is the author of network 3, user 2 of network 7, which has the route 9. -/
def twoOwners : Db × Rows where
  fst := {
    users := (Dict.empty.set 1 .user).set 2 .user
    userOptions := .empty
    apiTokens := .empty
    organizations := .empty
    userOrganizationRoles := .empty
    networks := (Dict.empty.set "3" ⟨none, none, none, some 1, none, []⟩).set "7"
      ⟨none, none, none, some 2, none, []⟩
    members := .empty
    activityLog := [] }
  snd := {
    routes := Dict.empty.set 9 ⟨"10.0.0.0/8", none, "7", some "office"⟩
    notations := .empty
    nodes := .empty
    links := .empty }

/-- User 1 sends a note for route 9 along with network 3. -/
def strangersNote : RowCall := .managedRoutes ⟨"3", false, none, none, some "mine", some 9, none⟩

/-- **The note of another network's route is changed.** -/
theorem note_reaches_other_network : ¬strangersNote.Isolated (fun _ => true) 1 twoOwners := by
  intro h
  have hrows := (h calm 0 rfl).1 "7" (by decide)
  have hroute := congrArg (fun rows => (NetworkRows.routes rows).get? 9) hrows
  revert hroute
  decide +kernel

end ZtPlanet.Ztnet
