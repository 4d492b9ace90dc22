/-
# Who may do what to a network

`checkUserOrganizationRole` and `checkNetworkAccess` are how ZTNET's procedures protect a network.
Both only read, and whether they pass is a function of the database: `Db.roleAtLeast` and
`Db.hasAccess`.  A program that, like them, leaves the database alone and returns exactly where a
condition holds is said to `Check` the condition.

The other half of an authorization statement is what an action does: `Act.changedNetwork` names
the network whose rows or controller state an action may change, and `exec_frame` says that it
misses none.
-/
import ZtPlanet.Ztnet.Backend

namespace ZtPlanet.Ztnet

open ZtPlanet.Lib

/-! ## 1. The two checks -/

/-- `checkUserOrganizationRole`. -/
def checkUserOrganizationRole (userId : UserId) (organizationId : OrganizationId)
    (minimumRequiredRole : Role) : Procedure Unit := do
  let orgUserRole ← prisma (.findUserOrganizationRole organizationId userId)
  match orgUserRole with
  | none =>
    throw (.error ("You are not a member of this organization. " ++
      "Contact your organization administrator to request access."))
  | some role =>
    if role = .admin then pure ()
    else if minimumRequiredRole.value ≤ role.value then pure ()
    else
      throw (.error ("You don't have required permission to perform this action. " ++
        "Contact your organization administrator to request access."))

/-- `checkNetworkAccess`. -/
def checkNetworkAccess (userId : UserId) (nwid : NetworkId) (minimumRequiredRole : Role) :
    Procedure Unit := do
  let network ← prisma (.findNetwork nwid)
  match network with
  | none => throwTRPC "Network not found!" .notFound
  | some network =>
    match network.organizationId with
    | some organizationId => checkUserOrganizationRole userId organizationId minimumRequiredRole
    | none =>
      if network.authorId ≠ some userId then
        throwTRPC "You do not have access to this network!" .badRequest
      else pure ()

/-! ## 2. What they decide -/

/-- The user has the role, or a higher one, in the organization. -/
def Db.roleAtLeast (db : Db) (userId : UserId) (organizationId : OrganizationId) (role : Role) :
    Bool :=
  (db.userOrganizationRoles.get? (userId, organizationId)).any fun r => role.value ≤ r.value

/-- The network belongs to the organization. -/
def Db.belongs (db : Db) (nwid : NetworkId) (organizationId : OrganizationId) : Bool :=
  (db.networks.get? nwid).any fun network => network.organizationId == some organizationId

/-- A network of an organization is open to the roles of the organization, any other one to its
author. -/
def Db.hasAccess (db : Db) (userId : UserId) (nwid : NetworkId) (role : Role) : Bool :=
  (db.networks.get? nwid).any fun network =>
    match network.organizationId with
    | some organizationId => db.roleAtLeast userId organizationId role
    | none => network.authorId == some userId

/-- The program leaves the database alone and returns exactly where `b` holds. -/
def Checks (plan : Plan) (p : Procedure Unit) (db : Db) (b : Bool) : Prop :=
  ∃ e, Prog.exec (handle plan) p db = (if b then .ok () else .error e, db)

variable {plan : Plan} {db : Db} {userId : UserId} {organizationId : OrganizationId}
  {nwid : NetworkId} {role : Role}

theorem Checks.ok {p : Procedure Unit} (h : Checks plan p db true) :
    Prog.exec (handle plan) p db = (.ok (), db) := by
  obtain ⟨e, he⟩ := h
  exact he

theorem Checks.error {p : Procedure Unit} (h : Checks plan p db false) :
    ∃ e, Prog.exec (handle plan) p db = (.error e, db) := by
  obtain ⟨e, he⟩ := h
  exact ⟨e, he⟩

/-- A check that has returned has found its condition. -/
theorem Checks.of_ok {p : Procedure Unit} {b : Bool} {db' : Db} (h : Checks plan p db b)
    (hp : Prog.exec (handle plan) p db = (.ok (), db')) : b = true ∧ db' = db := by
  obtain ⟨e, he⟩ := h
  rw [he] at hp
  cases b with
  | true =>
    cases hp
    exact ⟨rfl, rfl⟩
  | false => cases hp

@[simp] theorem exec_prisma (query : Query) :
    Prog.exec (handle plan) (prisma query) db = query.run db := Prog.exec_call _

@[simp] theorem exec_remote (operation : Remote) :
    Prog.exec (handle plan) (remote operation) db = (plan operation, db) := Prog.exec_call _

/-- The database with one more entry in the activity log. -/
def Db.logged (db : Db) (userId : UserId) (organizationId : Option OrganizationId) : Db :=
  { db with activityLog := db.activityLog ++ [⟨userId, organizationId⟩] }

/-- An entry in the activity log needs its user and its organization. -/
theorem exec_createActivityLog (plan : Plan) (db : Db) (userId : UserId)
    (organizationId : Option OrganizationId) :
    Prog.exec (handle plan) (prisma (.createActivityLog userId organizationId)) db =
      if db.users.contains userId && organizationId.all db.organizations.contains then
        (.ok (), db.logged userId organizationId)
      else (.error foreignKeyFailure, db) :=
  exec_prisma _

theorem Role.value_le_admin (role : Role) : role.value ≤ Role.admin.value := by
  cases role <;> decide

theorem checkUserOrganizationRole_checks (plan : Plan) (db : Db) (userId : UserId)
    (organizationId : OrganizationId) (role : Role) :
    Checks plan (checkUserOrganizationRole userId organizationId role) db
      (db.roleAtLeast userId organizationId role) := by
  unfold Checks checkUserOrganizationRole Db.roleAtLeast
  rw [Prog.exec_bind_ok (exec_prisma _)]
  cases db.userOrganizationRoles.get? (userId, organizationId) with
  | none => exact ⟨_, rfl⟩
  | some r =>
    simp only [Option.any_some, decide_eq_true_eq]
    by_cases hadmin : r = .admin
    · subst hadmin
      exact ⟨.error "", by simp [Role.value_le_admin role]⟩
    · by_cases hle : role.value ≤ r.value
      · exact ⟨.error "", by simp [hadmin, hle]⟩
      · exact ⟨_, by simp [hadmin, hle]; rfl⟩

/-- **`checkNetworkAccess` decides `hasAccess`**, and changes nothing. -/
theorem checkNetworkAccess_checks (plan : Plan) (db : Db) (userId : UserId) (nwid : NetworkId)
    (role : Role) :
    Checks plan (checkNetworkAccess userId nwid role) db (db.hasAccess userId nwid role) := by
  unfold Checks checkNetworkAccess Db.hasAccess
  rw [Prog.exec_bind_ok (exec_prisma _)]
  cases db.networks.get? nwid with
  | none => exact ⟨_, rfl⟩
  | some network =>
    rw [Option.any_some]
    dsimp only
    split
    · exact checkUserOrganizationRole_checks plan db userId _ role
    · by_cases hauthor : network.authorId = some userId
      · exact ⟨.error "", by simp [hauthor]⟩
      · exact ⟨_, by simp [hauthor]; rfl⟩

/-! ## 3. What an action changes -/

/-- The network whose rows or controller state the action may change. -/
def Act.changedNetwork : Act → Option NetworkId
  | .db (.updateNetwork nwid _) | .db (.deleteNetworks nwid _) | .db (.updateMembers _ nwid _)
  | .db (.updateMember _ nwid _) => some nwid
  | .remote (.networkUpdate nwid _) | .remote (.networkDelete nwid)
  | .remote (.memberUpdate _ nwid _ _) => some nwid
  | _ => none

/-- The action changes no network. -/
def Act.harmless (act : Act) : Prop := act.changedNetwork = none

/-- The action changes no other network. -/
def Act.within (nwid : NetworkId) (act : Act) : Prop :=
  ∀ other, act.changedNetwork = some other → other = nwid

theorem Act.harmless.within {act : Act} (hact : act.harmless) (nwid : NetworkId) :
    act.within nwid := by
  intro other hother
  rw [hact] at hother
  cases hother

theorem Act.within_of_eq {act : Act} {nwid : NetworkId} (hact : act.changedNetwork = some nwid) :
    act.within nwid := by
  intro other hother
  rw [hact] at hother
  exact (Option.some.inj hother).symm

theorem only_within_call (act : Act) {nwid : NetworkId}
    (hact : act.changedNetwork = none ∨ act.changedNetwork = some nwid) :
    Prog.Only (Act.within nwid) (Prog.call act : Procedure act.Ans) := by
  refine Prog.only_call ?_
  rcases hact with hact | hact
  · exact Act.harmless.within hact nwid
  · exact Act.within_of_eq hact

theorem onlyIf_only {A : Act → Prop} {condition : Bool} {p : Procedure Unit}
    (hp : Prog.Only A p) : Prog.Only A (onlyIf condition p) := by
  cases condition with
  | true => exact hp
  | false => exact Prog.only_pure _

theorem checkUserOrganizationRole_harmless (userId : UserId) (organizationId : OrganizationId)
    (role : Role) :
    Prog.Only Act.harmless (checkUserOrganizationRole userId organizationId role) := by
  refine Prog.Only.bind (Prog.only_call (A := Act.harmless) rfl) fun orgUserRole => ?_
  cases orgUserRole with
  | none => exact Prog.only_throw _
  | some r =>
    dsimp only
    split
    · exact Prog.only_pure _
    · split
      · exact Prog.only_pure _
      · exact Prog.only_throw _

theorem checkNetworkAccess_harmless (userId : UserId) (nwid : NetworkId) (role : Role) :
    Prog.Only Act.harmless (checkNetworkAccess userId nwid role) := by
  refine Prog.Only.bind (Prog.only_call (A := Act.harmless) rfl) fun network => ?_
  cases network with
  | none => exact Prog.only_throw _
  | some network =>
    dsimp only
    split
    · exact checkUserOrganizationRole_harmless _ _ _
    · split
      · exact Prog.only_throw _
      · exact Prog.only_pure _

/-- What the database holds about a network. -/
def Db.sameNetwork (nwid : NetworkId) (db db' : Db) : Prop :=
  db'.networks.get? nwid = db.networks.get? nwid ∧
    ∀ memberId, db'.members.get? (memberId, nwid) = db.members.get? (memberId, nwid)

theorem Db.sameNetwork_refl (nwid : NetworkId) (db : Db) : db.sameNetwork nwid db :=
  ⟨rfl, fun _ => rfl⟩

theorem Db.sameNetwork.trans {db₁ db₂ db₃ : Db} (h₁ : db₁.sameNetwork nwid db₂)
    (h₂ : db₂.sameNetwork nwid db₃) : db₁.sameNetwork nwid db₃ :=
  ⟨h₂.1.trans h₁.1, fun memberId => (h₂.2 memberId).trans (h₁.2 memberId)⟩

/-- Members of other networks may change. -/
theorem sameNetwork_members {db : Db} {other : NetworkId} {memberId : MemberId} {member : MemberRow}
    (hne : other ≠ nwid) :
    db.sameNetwork nwid { db with members := db.members.set (memberId, other) member } := by
  refine ⟨rfl, fun m => Dict.get?_set_ne _ ?_ _⟩
  intro heq
  exact hne (Prod.mk.inj heq).2

/-- Other networks may be deleted. -/
theorem sameNetwork_deleteNetworks {db : Db} {other : NetworkId} (owner : Owner)
    (hne : other ≠ nwid) : db.sameNetwork nwid (db.deleteNetworks other owner) := by
  unfold Db.deleteNetworks
  split
  · refine ⟨?_, fun memberId => ?_⟩
    · rw [Dict.get?_erase, if_neg hne]
    · rw [Dict.get?_filter]
      cases db.members.get? (memberId, nwid) with
      | none => rfl
      | some member => exact Option.filter_some_pos (bne_iff_ne.mpr (Ne.symm hne))
  · exact Db.sameNetwork_refl nwid db

/-- One action leaves alone what the database holds about a network it does not name. -/
theorem handle_frame {act : Act} (hact : act.changedNetwork ≠ some nwid) (db : Db) :
    db.sameNetwork nwid (handle plan act db).2 := by
  cases act with
  | remote operation => exact Db.sameNetwork_refl nwid db
  | db query =>
    cases query with
    | createActivityLog performedById organizationId =>
      change db.sameNetwork nwid (db.createActivityLog performedById organizationId).2
      unfold Db.createActivityLog
      split
      · exact ⟨rfl, fun _ => rfl⟩
      · exact Db.sameNetwork_refl nwid db
    | updateNetwork other data =>
      have hne : other ≠ nwid := fun heq => hact (congrArg some heq)
      change db.sameNetwork nwid (db.updateNetwork other data).2
      unfold Db.updateNetwork
      split
      · exact ⟨Dict.get?_set_ne _ hne _, fun _ => rfl⟩
      · exact Db.sameNetwork_refl nwid db
    | deleteNetworks other owner =>
      exact sameNetwork_deleteNetworks owner fun heq => hact (congrArg some heq)
    | upsertOrganizationSettings organizationId =>
      change db.sameNetwork nwid (db.upsertOrganizationSettings organizationId).2
      unfold Db.upsertOrganizationSettings
      split
      · exact Db.sameNetwork_refl nwid db
      · split
        · exact Db.sameNetwork_refl nwid db
        · exact ⟨rfl, fun _ => rfl⟩
    | updateMembers memberId other data =>
      have hne : other ≠ nwid := fun heq => hact (congrArg some heq)
      change db.sameNetwork nwid (db.updateMembers memberId other data)
      unfold Db.updateMembers
      split
      · split
        · exact sameNetwork_members hne
        · exact Db.sameNetwork_refl nwid db
      · exact Db.sameNetwork_refl nwid db
    | updateMember memberId other data =>
      have hne : other ≠ nwid := fun heq => hact (congrArg some heq)
      change db.sameNetwork nwid (db.updateMember memberId other data).2
      unfold Db.updateMember
      split
      · exact sameNetwork_members hne
      · exact Db.sameNetwork_refl nwid db
    | _ => exact Db.sameNetwork_refl nwid db

/-- **The frame of a procedure.**  What the database holds about a network that no action along
the way names is what it held before. -/
theorem exec_frame {α : Type} {p : Procedure α}
    (hp : Prog.Along (handle plan) (fun act _ => act.changedNetwork ≠ some nwid) p db) :
    db.sameNetwork nwid (Prog.exec (handle plan) p db).2 := by
  refine hp.exec_preserves (I := fun db' => db.sameNetwork nwid db') ?_
    (Db.sameNetwork_refl nwid db)
  intro act db' hact hsame
  exact hsame.trans (handle_frame hact db')

/-! ## 4. A call in which nothing else fails -/

/-- The other parties do what they are asked. -/
def calm : Plan
  | .getNetwork _ | .localNetworkAndMembercount _ => .ok (some ⟨some [], []⟩)
  | .networkMembers _ => .ok []
  | .checkLimit => .ok ()
  | .networkUpdate _ _ => .ok ()
  | .networkDelete _ => .ok ()
  | .memberUpdate _ _ _ _ => .ok ()
  | .sendWebhook _ _ => .ok ()
  | .notifyAdmins _ _ => .ok ()
  | .reconcileMembers _ => .ok ()
  | .triggerReconcile _ => .ok ()
  | .syncRoutes _ _ => .ok ()
  | .recordMemberAction _ _ => .ok ()

end ZtPlanet.Ztnet
