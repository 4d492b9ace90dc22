/-
# Renaming a member everywhere

`networkMemberRouter.Update` changes a member of one network, and that network is the one on which
access is checked.  A new name may be carried to other networks with the same member: to the
user's own networks where the user's options say so, or to all networks of an organization where
that organization's settings say so.  Which organization that is, the client says.

The part of the call that concerns other networks is `renameGlobally`.  It sends the controller the
update as it came, while the database gets the name (and, in one of the two cases, the
description).

The id of the member is any text, and it is put into the path of the request to the controller as it
is.  What the request is about is therefore read off the path that `new URL` makes of it: an id with
dot segments takes the request to another network.  `updateContained_iff` says exactly when a call
does to other networks only what its caller may do there.
-/
import ZtPlanet.Js.UrlPath
import ZtPlanet.Ztnet.Access

namespace ZtPlanet.Ztnet

open ZtPlanet.Lib

/-! ## 1. `Update` -/

/-- What `isValidIP` uses of the package `ip-address`. -/
structure AddressLibrary where
  /-- `Address4.isValid` -/
  address4IsValid : String → Bool
  /-- `Address6.isValid` -/
  address6IsValid : String → Bool

/-- `isValidIP`. -/
def isValidIP (lib : AddressLibrary) (ip : String) : Bool :=
  lib.address4IsValid ip || lib.address6IsValid ip

/-- The input of `Update`. -/
structure UpdateInput where
  nwid : NetworkId
  memberId : MemberId
  central : Bool
  organizationId : Option OrganizationId
  updateParams : UpdateParams

/-- `if (updateParams.name)`. -/
def UpdateParams.named (params : UpdateParams) : Bool :=
  match params.name with
  | some name => name ≠ ""
  | none => false

/-- The loop over the other networks. -/
def renameInNetworks (memberId : MemberId) (params : UpdateParams) (data : MemberData) :
    List NetworkId → Procedure Unit
  | [] => pure ()
  | networkId :: networks => do
    remote (.memberUpdate false networkId memberId params)
    prisma (.updateMembers memberId networkId data)
    renameInNetworks memberId params data networks

/-- The part of `Update` that handles global names. -/
def renameGlobally (userId : UserId) (input : UpdateInput) (userOptions : Option (Option Bool)) :
    Procedure Unit :=
  if input.updateParams.named then
    match input.organizationId with
    | none =>
      if userOptions = some (some true) then do
        let networksWithMember ← prisma (.findPersonalNetworks input.memberId input.nwid userId)
        renameInNetworks input.memberId input.updateParams
          ⟨input.updateParams.name, input.updateParams.description, none, none, none, none⟩
          networksWithMember
      else pure ()
    | some organizationId => do
      let renameNodeGlobally ← prisma (.upsertOrganizationSettings organizationId)
      if renameNodeGlobally = some true then do
        let networksWithMember ←
          prisma (.findOrganizationNetworks input.memberId input.nwid organizationId)
        renameInNetworks input.memberId input.updateParams
          ⟨input.updateParams.name, none, none, none, none, none⟩ networksWithMember
      else pure ()
  else pure ()

/-- `databaseUpdateData`. -/
def databaseUpdateData (params : UpdateParams) : MemberData where
  name := params.name
  description := params.description
  authorized := params.authorized
  ipAssignments := params.ipAssignments
  noAutoAssignIps := params.noAutoAssignIps
  activeBridge := params.activeBridge

/-- `Object.keys(databaseUpdateData).length > 0`. -/
def MemberData.nonempty (data : MemberData) : Bool :=
  data.name.isSome || data.description.isSome || data.authorized.isSome ||
    data.ipAssignments.isSome || data.noAutoAssignIps.isSome || data.activeBridge.isSome

/-- How the member's row in the database is updated.  The update and the notification are one
transaction: where the notification fails nothing is written. -/
def updateDatabase (input : UpdateInput) : Procedure Unit := do
  let dbMember ← prisma (.findMember input.memberId input.nwid)
  match dbMember with
  | none => pure ()
  | some dbMember =>
    let data := databaseUpdateData input.updateParams
    if data.nonempty then do
      onlyIf (data.apply dbMember ≠ dbMember)
        (remote (.recordMemberAction input.nwid input.memberId))
      let _ ← prisma (.updateMember input.memberId input.nwid data)
      pure ()
    else pure ()

/-- What `Update` does when the change is made: the webhook, and the notification of a member that
has lost its authorization.  No failure is reported. -/
def announce (input : UpdateInput) : Procedure Unit := do
  tryCatch (remote (.sendWebhook input.organizationId input.nwid)) fun _ => pure ()
  match input.organizationId, input.updateParams.authorized with
  | some organizationId, some false =>
    tryCatch (do
      let _ ← prisma (.findNetwork input.nwid)
      let _ ← prisma (.findMember input.memberId input.nwid)
      remote (.notifyAdmins organizationId input.nwid))
      fun _ => pure ()
  | _, _ => pure ()

/-- `invalidIPs.length > 0`. -/
def UpdateParams.hasInvalidIPs (lib : AddressLibrary) (params : UpdateParams) : Bool :=
  params.ipAssignments.any fun ips => ips.any fun ip => !isValidIP lib ip

/-- The part of `Update` that concerns the network on which access was checked. -/
def updateNetworkMember (lib : AddressLibrary) (input : UpdateInput) : Procedure Unit := do
  if input.updateParams.hasInvalidIPs lib then
    throwTRPC "Invalid IP addresses provided" .badRequest
  else do
    tryCatch
      (remote (.memberUpdate input.central input.nwid input.memberId input.updateParams))
      fun _ => throwTRPC ("Member does not exsist in the network, did you add this device " ++
        "manually? \r\n Make sure it has properly joined the network") .forbidden
    onlyIf (!input.central) (updateDatabase input)
    announce input

/-- `networkMemberRouter.Update`. -/
def memberUpdate (lib : AddressLibrary) (userId : UserId) (input : UpdateInput) :
    Procedure Unit := do
  checkNetworkAccess userId input.nwid .user
  prisma (.createActivityLog userId input.organizationId)
  let userOptions ← prisma (.findUserOptions userId)
  renameGlobally userId input userOptions
  updateNetworkMember lib input

/-! ## 2. What a request to the controller is about -/

/-- A network, and one of its members where the path goes on to it. -/
structure Target where
  nwid : NetworkId
  memberId : Option MemberId
deriving DecidableEq

/-- The controllers: what `localControllerUrl` and `ztCentralApiUrl` have behind their authorities,
and what the local or the central one takes a path to be about. -/
structure ControllerApi where
  localPath : String
  centralPath : String
  target : Bool → List String → Option Target

/-- `addr` of `member_update`, behind its authority. -/
def ControllerApi.memberAddress (api : ControllerApi) (central : Bool) (nwid : NetworkId)
    (memberId : MemberId) : String :=
  if central then api.centralPath ++ "/network/" ++ nwid ++ "/member/" ++ memberId
  else api.localPath ++ "/controller/network/" ++ nwid ++ "/member/" ++ memberId

/-- What the request of `member_update` is about. -/
def ControllerApi.memberTarget (api : ControllerApi) (central : Bool) (nwid : NetworkId)
    (memberId : MemberId) : Option Target :=
  api.target central (Js.urlPath (api.memberAddress central nwid memberId))

/-- Whose rows or controller state the action may change. -/
def Act.target (api : ControllerApi) : Act → Option Target
  | .remote (.memberUpdate central nwid memberId _) => api.memberTarget central nwid memberId
  | .db (.updateMembers memberId nwid _) | .db (.updateMember memberId nwid _) =>
    some ⟨nwid, some memberId⟩
  | act => act.changedNetwork.map fun nwid => ⟨nwid, none⟩

/-- An action on the database is about the network whose rows it changes. -/
theorem Act.target_db (api : ControllerApi) (query : Query) :
    ((Act.db query).target api).map Target.nwid = (Act.db query).changedNetwork := by
  cases query <;> rfl

/-! ## 3. What a call may do to other networks -/

/-- The user may rename a member of the network: as its author, or with the role `USER` in its
organization. -/
def Db.mayUpdate (db : Db) (userId : UserId) (nwid : NetworkId) : Bool :=
  (db.networks.get? nwid).any fun network =>
    network.authorId == some userId ||
      network.organizationId.any fun organizationId => db.roleAtLeast userId organizationId .user

/-- Nothing but a name and a description. -/
def UpdateParams.nameOnly (params : UpdateParams) : Bool :=
  params.activeBridge.isNone && params.noAutoAssignIps.isNone && params.ipAssignments.isNone &&
    params.authorized.isNone && params.capabilities.isNone && params.tags.isNone

def MemberData.nameOnly (data : MemberData) : Bool :=
  data.authorized.isNone && data.ipAssignments.isNone && data.noAutoAssignIps.isNone &&
    data.activeBridge.isNone

/-- The action updates a member, and only its name and description. -/
def Act.renames : Act → Bool
  | .remote (.memberUpdate _ _ _ params) => params.nameOnly
  | .db (.updateMembers _ _ data) | .db (.updateMember _ _ data) => data.nameOnly
  | _ => false

/-- An action on another network than that of the call is one that the user may take there. -/
def Act.allowedOutside (api : ControllerApi) (db : Db) (userId : UserId) (input : UpdateInput)
    (act : Act) : Prop :=
  ∀ target, act.target api = some target → target.nwid ≠ input.nwid →
    db.mayUpdate userId target.nwid = true ∧ target.memberId = some input.memberId ∧
      act.renames = true

/-- **A contained update.**  Whatever the other parties answer, every action on another network is
one that the user may take there. -/
def UpdateContained (api : ControllerApi) (lib : AddressLibrary) (db : Db) (userId : UserId)
    (input : UpdateInput) : Prop :=
  ∀ plan, Prog.Along (handle plan) (fun act _ => act.allowedOutside api db userId input)
    (memberUpdate lib userId input) db

/-- The networks that the options of the user, or the settings of the organization, select. -/
def Db.renameTargets (db : Db) (userId : UserId) (input : UpdateInput) : List NetworkId :=
  match input.organizationId with
  | none =>
    if db.userOptions.get? userId = some (some true) then
      db.networksWithMember input.memberId input.nwid fun network =>
        network.authorId == some userId && network.organizationId.isNone
    else []
  | some organizationId =>
    if (db.organizations.get? organizationId).any fun organization =>
        organization.settings == some (some true)
    then
      db.networksWithMember input.memberId input.nwid fun network =>
        network.organizationId == some organizationId
    else []

/-- The call has access, and its entry in the log has the rows that it needs. -/
def Db.admits (db : Db) (userId : UserId) (input : UpdateInput) : Bool :=
  db.hasAccess userId input.nwid .user && db.users.contains userId &&
    input.organizationId.all db.organizations.contains

/-- The other networks to which the call carries the name. -/
def Db.renamedIn (db : Db) (userId : UserId) (input : UpdateInput) : List NetworkId :=
  if db.admits userId input && input.updateParams.named then db.renameTargets userId input else []

/-- What the requests to the controller are about that the call sends. -/
def Db.reached (api : ControllerApi) (lib : AddressLibrary) (db : Db) (userId : UserId)
    (input : UpdateInput) : List Target :=
  (db.renamedIn userId input).filterMap (fun nwid => api.memberTarget false nwid input.memberId) ++
    if db.admits userId input && !input.updateParams.hasInvalidIPs lib then
      (api.memberTarget input.central input.nwid input.memberId).toList
    else []

/-- The caller may rename the member of the call in the network, and the update does no more. -/
def Db.mayReach (db : Db) (userId : UserId) (input : UpdateInput) (target : Target) : Prop :=
  target.nwid ≠ input.nwid → db.mayUpdate userId target.nwid = true ∧
    target.memberId = some input.memberId ∧ input.updateParams.nameOnly = true

instance (db : Db) (userId : UserId) (input : UpdateInput) (target : Target) :
    Decidable (db.mayReach userId input target) := inferInstanceAs (Decidable (_ → _))

/-! ## 4. The loop over the other networks -/

variable {api : ControllerApi} {plan : Plan} {db : Db} {userId : UserId} {input : UpdateInput}
  {lib : AddressLibrary}

/-- The two actions of the loop for one network. -/
def Act.renamesIn (memberId : MemberId) (params : UpdateParams) (data : MemberData)
    (nwid : NetworkId) (act : Act) : Prop :=
  act = .remote (.memberUpdate false nwid memberId params) ∨
    act = .db (.updateMembers memberId nwid data)

theorem renameInNetworks_only (memberId : MemberId) (params : UpdateParams) (data : MemberData) :
    ∀ networks, Prog.Only (fun act => ∃ nwid ∈ networks, act.renamesIn memberId params data nwid)
      (renameInNetworks memberId params data networks)
  | [] => Prog.only_pure _
  | nwid :: networks => by
    refine Prog.Only.bind
      (Prog.only_call ⟨nwid, List.mem_cons_self, .inl rfl⟩) fun _ => ?_
    refine Prog.Only.bind
      (Prog.only_call ⟨nwid, List.mem_cons_self, .inr rfl⟩) fun _ => ?_
    refine (renameInNetworks_only memberId params data networks).mono ?_
    rintro act ⟨other, hother, hact⟩
    exact ⟨other, List.mem_cons_of_mem _ hother, hact⟩

/-- In a calm call the loop reaches every network, and its rows. -/
theorem renameInNetworks_calm {memberId : MemberId} {params : UpdateParams} {data : MemberData}
    {Q : Act → Prop} :
    ∀ (networks : List NetworkId) (db : Db),
      Prog.Along (handle calm) (fun act _ => Q act)
        (renameInNetworks memberId params data networks) db →
      (∃ db', Prog.exec (handle calm) (renameInNetworks memberId params data networks) db =
          (.ok (), db')) ∧
        ∀ nwid ∈ networks, Q (.remote (.memberUpdate false nwid memberId params)) ∧
          Q (.db (.updateMembers memberId nwid data))
  | [], db, _ => ⟨⟨db, rfl⟩, fun _ hnwid => (nomatch hnwid)⟩
  | first :: networks, db, h => by
    obtain ⟨hsent, hrest⟩ := Prog.along_bind_iff.mp h
    have hsentRun : Prog.exec (handle calm)
        (remote (.memberUpdate false first memberId params)) db = (.ok (), db) := exec_remote _
    obtain ⟨hwritten, hrest⟩ := Prog.along_bind_iff.mp (hrest () db hsentRun)
    have hwrittenRun : Prog.exec (handle calm) (prisma (.updateMembers memberId first data)) db =
        (.ok (), db.updateMembers memberId first data) := exec_prisma _
    obtain ⟨hends, hall⟩ := renameInNetworks_calm networks _ (hrest () _ hwrittenRun)
    refine ⟨?_, fun nwid hnwid => ?_⟩
    · obtain ⟨db', hdb'⟩ := hends
      refine ⟨db', ?_⟩
      rw [renameInNetworks, Prog.exec_bind_ok hsentRun, Prog.exec_bind_ok hwrittenRun]
      exact hdb'
    · rcases List.mem_cons.mp hnwid with rfl | hnwid
      · exact ⟨Prog.along_call_iff.mp hsent, Prog.along_call_iff.mp hwritten⟩
      · exact hall nwid hnwid

/-! ## 5. The rest of the call -/

/-- The action changes no network but that of the call, or is the request about its member. -/
def Act.own (lib : AddressLibrary) (input : UpdateInput) (act : Act) : Prop :=
  act = .remote (.memberUpdate input.central input.nwid input.memberId input.updateParams) ∧
      input.updateParams.hasInvalidIPs lib = false ∨
    ∀ api, ∀ target, act.target api = some target → target.nwid = input.nwid

theorem Act.own_of_target_none {act : Act} (h : act.changedNetwork = none) : act.own lib input := by
  refine .inr fun api target htarget => ?_
  unfold Act.target at htarget
  split at htarget
  · cases h
  · cases h
  · cases h
  · rw [h] at htarget
    cases htarget

theorem only_own_call (act : Act) (hact : act.changedNetwork = none) :
    Prog.Only (Act.own lib input) (Prog.call act : Procedure act.Ans) :=
  Prog.only_call (Act.own_of_target_none hact)

theorem updateDatabase_own (lib : AddressLibrary) (input : UpdateInput) :
    Prog.Only (Act.own lib input) (updateDatabase input) := by
  refine Prog.Only.bind (only_own_call (.db _) rfl) fun dbMember => ?_
  cases dbMember with
  | none => exact Prog.only_pure _
  | some dbMember =>
    dsimp only
    split
    · refine Prog.Only.bind (onlyIf_only (only_own_call (.remote _) rfl)) fun _ => ?_
      refine Prog.Only.bind (Prog.only_call (.inr fun api target htarget => ?_)) fun _ =>
        Prog.only_pure _
      cases htarget
      rfl
    · exact Prog.only_pure _

theorem announce_own (lib : AddressLibrary) (input : UpdateInput) :
    Prog.Only (Act.own lib input) (announce input) := by
  refine Prog.Only.bind (Prog.Only.tryCatch (only_own_call (.remote _) rfl)
    fun _ => Prog.only_pure _) fun _ => ?_
  split
  · refine Prog.Only.tryCatch ?_ fun _ => Prog.only_pure _
    refine Prog.Only.bind (only_own_call (.db _) rfl) fun _ => ?_
    refine Prog.Only.bind (only_own_call (.db _) rfl) fun _ => ?_
    exact only_own_call (.remote _) rfl
  · exact Prog.only_pure _

theorem updateNetworkMember_own (lib : AddressLibrary) (input : UpdateInput) :
    Prog.Only (Act.own lib input) (updateNetworkMember lib input) := by
  unfold updateNetworkMember
  split
  · exact Prog.only_throw _
  next hvalid =>
    refine Prog.Only.bind (Prog.Only.tryCatch
      (Prog.only_call (.inl ⟨rfl, Bool.eq_false_iff.mpr hvalid⟩)) fun _ => Prog.only_throw _)
        fun _ => ?_
    exact Prog.Only.bind (onlyIf_only (updateDatabase_own lib input)) fun _ =>
      announce_own lib input

/-- In a call whose addresses are valid the request about the member is sent. -/
theorem updateNetworkMember_calm {Q : Act → Prop}
    (hvalid : input.updateParams.hasInvalidIPs lib = false)
    (h : Prog.Along (handle plan) (fun act _ => Q act) (updateNetworkMember lib input) db) :
    Q (.remote (.memberUpdate input.central input.nwid input.memberId input.updateParams)) := by
  unfold updateNetworkMember at h
  rw [hvalid] at h
  exact Prog.along_call_iff.mp (Prog.along_tryCatch_iff.mp (Prog.along_bind_iff.mp h).1).1

/-- What the settings of an organization say about global names. -/
theorem run_upsertOrganizationSettings (db : Db) (organizationId : OrganizationId) :
    (∃ answer db', (Query.upsertOrganizationSettings organizationId).run db = (.ok answer, db') ∧
        answer ≠ some true ∧
        ((db.organizations.get? organizationId).any fun organization =>
          organization.settings == some (some true)) = false) ∨
    ((Query.upsertOrganizationSettings organizationId).run db = (.ok (some true), db) ∧
        ((db.organizations.get? organizationId).any fun organization =>
          organization.settings == some (some true)) = true) ∨
    ((Query.upsertOrganizationSettings organizationId).run db = (.error foreignKeyFailure, db) ∧
        db.organizations.contains organizationId = false) := by
  change (∃ answer db', db.upsertOrganizationSettings organizationId = (.ok answer, db') ∧ _) ∨
    (db.upsertOrganizationSettings organizationId = _ ∧ _) ∨
      (db.upsertOrganizationSettings organizationId = _ ∧ _)
  unfold Db.upsertOrganizationSettings
  cases horganization : db.organizations.get? organizationId with
  | none => exact .inr (.inr ⟨rfl, by simp [Dict.contains, horganization]⟩)
  | some organization =>
    obtain ⟨users, settings⟩ := organization
    cases settings with
    | none => exact .inl ⟨_, _, rfl, by simp, rfl⟩
    | some renameNodeGlobally =>
      by_cases htrue : renameNodeGlobally = some true
      · subst htrue
        exact .inr (.inl ⟨rfl, rfl⟩)
      · exact .inl ⟨_, _, rfl, htrue, beq_false_of_ne fun h => htrue (Option.some.inj h)⟩

/-- Every network with the member is another one, and is stored. -/
theorem of_mem_networksWithMember {memberId : MemberId} {own nwid : NetworkId}
    {p : NetworkRow → Bool}
    (h : nwid ∈ db.networksWithMember memberId own p) :
    nwid ≠ own ∧ db.networks.contains nwid = true := by
  obtain ⟨key, hkey, rfl⟩ := List.mem_map.mp h
  obtain ⟨entry, hentry, rfl⟩ := List.mem_map.mp hkey
  have hpass := (List.mem_filter.mp hentry).2
  simp only [Bool.and_eq_true, bne_iff_ne] at hpass
  obtain ⟨network, hnetwork, -⟩ := (Option.any_eq_true _ _).mp hpass.2
  exact ⟨hpass.1.2, by rw [Dict.contains, hnetwork]; rfl⟩

/-- And so is every selected network. -/
theorem of_mem_renameTargets {nwid : NetworkId} (h : nwid ∈ db.renameTargets userId input) :
    nwid ≠ input.nwid ∧ db.networks.contains nwid = true := by
  unfold Db.renameTargets at h
  split at h
  · split at h
    · exact of_mem_networksWithMember h
    · cases h
  · split at h
    · exact of_mem_networksWithMember h
    · cases h

theorem of_mem_renamedIn {nwid : NetworkId} (h : nwid ∈ db.renamedIn userId input) :
    (db.admits userId input = true ∧ input.updateParams.named = true) ∧
      nwid ∈ db.renameTargets userId input := by
  unfold Db.renamedIn at h
  split at h
  next hall => exact ⟨Bool.and_eq_true_iff.mp hall, h⟩
  next => cases h

theorem mem_reached_iff {target : Target} : target ∈ db.reached api lib userId input ↔
    (∃ nwid ∈ db.renamedIn userId input,
        api.memberTarget false nwid input.memberId = some target) ∨
      (db.admits userId input = true ∧ input.updateParams.hasInvalidIPs lib = false) ∧
        api.memberTarget input.central input.nwid input.memberId = some target := by
  unfold Db.reached
  rw [List.mem_append, List.mem_filterMap]
  refine or_congr_right ?_
  split
  next hall =>
    simp only [Bool.and_eq_true, Bool.not_eq_true'] at hall
    simp [hall]
  next hnot =>
    simp only [Bool.and_eq_true, Bool.not_eq_true'] at hnot
    simp [hnot]

/-! ## 6. The global names -/

/-- What holds of the actions of the loop holds along the global names. -/
theorem along_renameGlobally {Q : Act → Prop}
    (hquery : ∀ act : Act, act.changedNetwork = none → Q act)
    (h : input.updateParams.named = true → ∀ nwid ∈ db.renameTargets userId input,
      ∀ data : MemberData, data.nameOnly = true → ∀ act : Act,
        act.renamesIn input.memberId input.updateParams data nwid → Q act) :
    Prog.Along (handle plan) (fun act _ => Q act)
      (renameGlobally userId input (db.userOptions.get? userId)) db := by
  have hloop : ∀ (data : MemberData) (networks : List NetworkId) (db' : Db),
      (∀ nwid ∈ networks, ∀ act : Act,
        act.renamesIn input.memberId input.updateParams data nwid → Q act) →
      Prog.Along (handle plan) (fun act _ => Q act)
        (renameInNetworks input.memberId input.updateParams data networks) db' :=
    fun data networks db' hall => (renameInNetworks_only _ _ _ networks).along
      (fun act _ ⟨nwid, hnwid, hact⟩ => hall nwid hnwid act hact) db'
  unfold renameGlobally
  unfold Db.renameTargets at h
  cases hnamed : input.updateParams.named with
  | false => exact Prog.along_pure _
  | true =>
    replace h := h hnamed
    cases horganization : input.organizationId with
    | none =>
      rw [horganization] at h
      by_cases hoptions : db.userOptions.get? userId = some (some true)
      · simp only [hoptions, if_true] at h ⊢
        refine Prog.Along.bind (Prog.along_call (hquery _ rfl)) fun networks db' hrun => ?_
        rw [exec_prisma, Query.run] at hrun
        cases hrun
        exact hloop _ _ _ fun nwid hnwid => h nwid hnwid _ rfl
      · simp only [hoptions, if_false, if_true]
        exact Prog.along_pure _
    | some organizationId =>
      rw [horganization] at h
      simp only [if_true]
      refine Prog.Along.bind (Prog.along_call (hquery _ rfl)) fun answer db' hrun => ?_
      rw [exec_prisma] at hrun
      rcases run_upsertOrganizationSettings db organizationId with
        ⟨answer', db'', hanswer, hne, -⟩ | ⟨hanswer, hsettings⟩ | ⟨hanswer, -⟩
      · rw [hanswer] at hrun
        cases hrun
        rw [if_neg hne]
        exact Prog.along_pure _
      · rw [hanswer] at hrun
        cases hrun
        simp only [hsettings, if_true] at h ⊢
        refine Prog.Along.bind (Prog.along_call (hquery _ rfl)) fun networks db' hrun => ?_
        rw [exec_prisma, Query.run] at hrun
        cases hrun
        exact hloop _ _ _ fun nwid hnwid => h nwid hnwid _ rfl
      · rw [hanswer] at hrun
        cases hrun

/-- In a calm call every selected network gets the update, and the call goes on. -/
theorem renameGlobally_calm {Q : Act → Prop}
    (hexists : input.organizationId.all db.organizations.contains = true)
    (h : Prog.Along (handle calm) (fun act _ => Q act)
      (renameGlobally userId input (db.userOptions.get? userId)) db) :
    (∃ db', Prog.exec (handle calm) (renameGlobally userId input (db.userOptions.get? userId)) db =
        (.ok (), db')) ∧
      (input.updateParams.named = true → ∀ nwid ∈ db.renameTargets userId input,
        Q (.remote (.memberUpdate false nwid input.memberId input.updateParams)) ∧
          ∃ data, Q (.db (.updateMembers input.memberId nwid data))) := by
  unfold renameGlobally at h ⊢
  unfold Db.renameTargets
  cases hnamed : input.updateParams.named with
  | false => exact ⟨⟨db, rfl⟩, fun hfalse => absurd hfalse Bool.false_ne_true⟩
  | true =>
    rw [hnamed, if_pos rfl] at h
    simp only [if_true, forall_const]
    cases horganization : input.organizationId with
    | none =>
      rw [horganization] at h
      by_cases hoptions : db.userOptions.get? userId = some (some true)
      · simp only [hoptions, if_true] at h ⊢
        have hfind : Prog.exec (handle calm)
            (prisma (.findPersonalNetworks input.memberId input.nwid userId)) db = _ :=
          exec_prisma _
        obtain ⟨⟨db', hends⟩, hall⟩ :=
          renameInNetworks_calm _ _ ((Prog.along_bind_iff.mp h).2 _ db hfind)
        exact ⟨⟨db', (Prog.exec_bind_ok hfind).trans hends⟩, fun nwid hnwid =>
          ⟨(hall nwid hnwid).1, _, (hall nwid hnwid).2⟩⟩
      · simp only [hoptions, if_false]
        exact ⟨⟨db, rfl⟩, fun _ hnwid => absurd hnwid List.not_mem_nil⟩
    | some organizationId =>
      rw [horganization] at h hexists
      rcases run_upsertOrganizationSettings db organizationId with
        ⟨answer, db', hanswer, hne, hsettings⟩ | ⟨hanswer, hsettings⟩ | ⟨-, hmissing⟩
      · have hupsert : Prog.exec (handle calm)
            (prisma (.upsertOrganizationSettings organizationId)) db = _ :=
          (exec_prisma _).trans hanswer
        simp only [hsettings, Bool.false_eq_true, if_false]
        refine ⟨⟨db', (Prog.exec_bind_ok hupsert).trans ?_⟩,
          fun _ hnwid => absurd hnwid List.not_mem_nil⟩
        rw [if_neg hne]
        rfl
      · have hupsert : Prog.exec (handle calm)
            (prisma (.upsertOrganizationSettings organizationId)) db = _ :=
          (exec_prisma _).trans hanswer
        have hrest := (Prog.along_bind_iff.mp h).2 _ db hupsert
        rw [if_pos rfl] at hrest
        simp only [hsettings, if_true]
        have hfind : Prog.exec (handle calm)
            (prisma (.findOrganizationNetworks input.memberId input.nwid organizationId)) db = _ :=
          exec_prisma _
        obtain ⟨⟨db', hends⟩, hall⟩ :=
          renameInNetworks_calm _ _ ((Prog.along_bind_iff.mp hrest).2 _ db hfind)
        refine ⟨⟨db', (Prog.exec_bind_ok hupsert).trans ?_⟩, fun nwid hnwid =>
          ⟨(hall nwid hnwid).1, _, (hall nwid hnwid).2⟩⟩
        rw [if_pos rfl]
        exact (Prog.exec_bind_ok hfind).trans hends
      · rw [Option.all_some, hmissing] at hexists
        cases hexists

/-! ## 7. Contained updates -/

theorem Act.harmless.allowedOutside {act : Act} (hact : act.harmless) :
    act.allowedOutside api db userId input := by
  intro target htarget
  unfold Act.target at htarget
  split at htarget
  · cases hact
  · cases hact
  · cases hact
  · rw [hact] at htarget
    cases htarget

/-- **What a contained update does in a calm call.** -/
theorem UpdateContained.calm (h : UpdateContained api lib db userId input)
    (hadmits : db.admits userId input = true) :
    (input.updateParams.named = true → ∀ nwid ∈ db.renameTargets userId input,
        (Act.remote (.memberUpdate false nwid input.memberId input.updateParams)).allowedOutside
            api db userId input ∧
          ∃ data, (Act.db (.updateMembers input.memberId nwid data)).allowedOutside
            api db userId input) ∧
      (input.updateParams.hasInvalidIPs lib = false →
        (Act.remote (.memberUpdate input.central input.nwid input.memberId
          input.updateParams)).allowedOutside api db userId input) := by
  simp only [Db.admits, Bool.and_eq_true] at hadmits
  obtain ⟨⟨haccess, huser⟩, horganization⟩ := hadmits
  have hcheck := checkNetworkAccess_checks Ztnet.calm db userId input.nwid .user
  rw [haccess] at hcheck
  have hlog := (Prog.along_bind_iff.mp (h Ztnet.calm)).2 () db hcheck.ok
  have hlogRun := exec_createActivityLog Ztnet.calm db userId input.organizationId
  rw [huser, horganization] at hlogRun
  have hoptions := (Prog.along_bind_iff.mp hlog).2 () _ hlogRun
  obtain ⟨hglobal, hown⟩ := Prog.along_bind_iff.mp
    ((Prog.along_bind_iff.mp hoptions).2 _ _ (exec_prisma _))
  have hexists : input.organizationId.all
      (db.logged userId input.organizationId).organizations.contains = true := horganization
  obtain ⟨⟨db', hends⟩, hall⟩ := renameGlobally_calm hexists hglobal
  exact ⟨hall, fun hvalid => updateNetworkMember_calm hvalid (hown () db' hends)⟩

/-- A contained update may be made where it reaches. -/
theorem UpdateContained.mayReach (h : UpdateContained api lib db userId input) {target : Target}
    (htarget : target ∈ db.reached api lib userId input) : db.mayReach userId input target := by
  rcases mem_reached_iff.mp htarget with ⟨nwid, hnwid, hsome⟩ | ⟨⟨hadmits, hvalid⟩, hsome⟩
  · obtain ⟨⟨hadmits, hnamed⟩, htargets⟩ := of_mem_renamedIn hnwid
    exact ((h.calm hadmits).1 hnamed nwid htargets).1 target hsome
  · exact (h.calm hadmits).2 hvalid target hsome

/-- And where it carries the name to. -/
theorem UpdateContained.mayUpdate (h : UpdateContained api lib db userId input) {nwid : NetworkId}
    (hnwid : nwid ∈ db.renamedIn userId input) : db.mayUpdate userId nwid = true := by
  obtain ⟨⟨hadmits, hnamed⟩, htargets⟩ := of_mem_renamedIn hnwid
  obtain ⟨-, data, hdata⟩ := (h.calm hadmits).1 hnamed nwid htargets
  exact (hdata ⟨nwid, some input.memberId⟩ rfl (of_mem_renameTargets htargets).1).1

/-- **An update is contained** where that is all. -/
theorem updateContained_of_mayReach
    (hrenamed : ∀ nwid ∈ db.renamedIn userId input, db.mayUpdate userId nwid = true)
    (hreached : ∀ target ∈ db.reached api lib userId input, db.mayReach userId input target) :
    UpdateContained api lib db userId input := by
  intro plan
  have hcheck := checkNetworkAccess_checks plan db userId input.nwid .user
  refine Prog.Along.bind ((checkNetworkAccess_harmless _ _ _).along
    (fun _ _ hact => hact.allowedOutside) _) fun _ db' hrun => ?_
  obtain ⟨haccess, hsame⟩ := hcheck.of_ok hrun
  rw [hsame]
  refine Prog.Along.bind (Prog.along_call (Act.harmless.allowedOutside rfl)) fun _ db' hrun => ?_
  rw [exec_createActivityLog] at hrun
  split at hrun
  next hall =>
    cases hrun
    have hadmits : db.admits userId input = true := by
      rw [Db.admits, haccess, Bool.true_and]
      exact hall
    refine Prog.Along.bind (Prog.along_call (Act.harmless.allowedOutside rfl))
      fun userOptions db' hrun => ?_
    rw [exec_prisma, Query.run] at hrun
    cases hrun
    refine Prog.Along.bind ?_ fun _ db' _ => ?_
    · refine along_renameGlobally (fun act hact => Act.harmless.allowedOutside hact)
        fun hnamed nwid hnwid data hdata act hact => ?_
      have hmem : nwid ∈ db.renamedIn userId input := by
        rw [Db.renamedIn, hadmits, hnamed]
        exact hnwid
      rcases hact with rfl | rfl
      · exact fun target htarget =>
          hreached target (mem_reached_iff.mpr (.inl ⟨nwid, hmem, htarget⟩))
      · intro target htarget _
        cases htarget
        exact ⟨hrenamed nwid hmem, rfl, hdata⟩
    · refine (updateNetworkMember_own lib input).along (fun act _ hact => ?_) db'
      rcases hact with ⟨rfl, hvalid⟩ | hwithin
      · exact fun target htarget =>
          hreached target (mem_reached_iff.mpr (.inr ⟨⟨hadmits, hvalid⟩, htarget⟩))
      · exact fun target htarget hne => absurd (hwithin api target htarget) hne
  next => cases hrun

/-- **Exactly which updates are contained**: every network to which the call carries the name is one
that the caller may update, and what a request is about is the network of the call, or the member in
a network that the caller may update, and then the update holds nothing but a name and a
description. -/
theorem updateContained_iff (api : ControllerApi) (lib : AddressLibrary) (db : Db) (userId : UserId)
    (input : UpdateInput) :
    UpdateContained api lib db userId input ↔
      (∀ nwid ∈ db.renamedIn userId input, db.mayUpdate userId nwid = true) ∧
        ∀ target ∈ db.reached api lib userId input, db.mayReach userId input target :=
  ⟨fun h => ⟨fun _ => h.mayUpdate, fun _ => h.mayReach⟩,
    fun h => updateContained_of_mayReach h.1 h.2⟩

/-- What the database holds about a network that the caller may not update is what it held
before. -/
theorem UpdateContained.sameNetwork (h : UpdateContained api lib db userId input) {nwid : NetworkId}
    (hne : nwid ≠ input.nwid) (hnot : db.mayUpdate userId nwid = false) (plan : Plan) :
    db.sameNetwork nwid (Prog.exec (handle plan) (memberUpdate lib userId input) db).2 := by
  refine (h plan).exec_preserves (I := fun db' => db.sameNetwork nwid db')
    (fun act db' hact hsame => ?_)
    (Db.sameNetwork_refl nwid db)
  cases act with
  | remote operation => exact hsame
  | db query =>
    refine hsame.trans (handle_frame (fun hchanged => ?_) db')
    obtain ⟨target, htarget, hnwid⟩ :=
      Option.map_eq_some_iff.mp ((Act.target_db api query).trans hchanged)
    have hmay := (hact target htarget (hnwid ▸ hne)).1
    rw [hnwid, hnot] at hmay
    cases hmay

/-! ## 8. Plain ids

A node id is ten hexadecimal digits, and with such an id a request is about the network and the
member that it was made for. -/

/-- The controllers at their default addresses, with the paths of their networks and members. -/
def controllerApi : ControllerApi where
  localPath := ""
  centralPath := "/api/v1"
  target
    | false, ["controller", "network", nwid] => some ⟨nwid, none⟩
    | false, ["controller", "network", nwid, "member", memberId] => some ⟨nwid, some memberId⟩
    | true, ["api", "v1", "network", nwid] => some ⟨nwid, none⟩
    | true, ["api", "v1", "network", nwid, "member", memberId] => some ⟨nwid, some memberId⟩
    | _, _ => none

/-- **A request with plain ids** is about the member that it names. -/
theorem memberTarget_plain {nwid : NetworkId} {memberId : MemberId} (central : Bool)
    (hnwid : Js.IsPlain nwid) (hmemberId : Js.IsPlain memberId) :
    controllerApi.memberTarget central nwid memberId = some ⟨nwid, some memberId⟩ := by
  have hpath : ∀ front : List String, (∀ s ∈ front, Js.IsPlain s) →
      Js.urlPath ("/" ++ "/".intercalate (front ++ ["network", nwid, "member", memberId])) =
        front ++ ["network", nwid, "member", memberId] := by
    refine fun front hfront => Js.urlPath_plain (by simp) fun s hs => ?_
    rcases List.mem_append.mp hs with hs | hs
    · exact hfront s hs
    · simp only [List.mem_cons, List.not_mem_nil, or_false] at hs
      rcases hs with rfl | rfl | rfl | rfl
      · decide
      · exact hnwid
      · decide
      · exact hmemberId
  cases central with
  | false =>
    have haddress : controllerApi.memberAddress false nwid memberId =
        "/" ++ "/".intercalate (["controller"] ++ ["network", nwid, "member", memberId]) := by
      rw [← String.toList_inj]
      simp [ControllerApi.memberAddress, controllerApi]
    rw [ControllerApi.memberTarget, haddress, hpath _ (by decide)]
    rfl
  | true =>
    have haddress : controllerApi.memberAddress true nwid memberId =
        "/" ++ "/".intercalate (["api", "v1"] ++ ["network", nwid, "member", memberId]) := by
      rw [← String.toList_inj]
      simp [ControllerApi.memberAddress, controllerApi]
    rw [ControllerApi.memberTarget, haddress, hpath _ (by decide)]
    rfl

/-- A network with access is stored. -/
theorem contains_of_admits (h : db.admits userId input = true) :
    db.networks.contains input.nwid = true := by
  simp only [Db.admits, Db.hasAccess, Bool.and_eq_true] at h
  obtain ⟨network, hnetwork, -⟩ := (Option.any_eq_true _ _).mp h.1.1
  rw [Dict.contains, hnetwork]
  rfl

/-- **With plain ids** the networks of the condition are those to which the call carries the name.
-/
theorem updateContained_plain_iff (hmemberId : Js.IsPlain input.memberId)
    (hnwids : ∀ nwid, db.networks.contains nwid = true → Js.IsPlain nwid) :
    UpdateContained controllerApi lib db userId input ↔
      ∀ nwid ∈ db.renamedIn userId input,
        db.mayUpdate userId nwid = true ∧ input.updateParams.nameOnly = true := by
  have hstored : ∀ nwid ∈ db.renamedIn userId input, Js.IsPlain nwid := fun nwid hnwid =>
    hnwids nwid (of_mem_renameTargets (of_mem_renamedIn hnwid).2).2
  constructor
  · intro h nwid hnwid
    have htarget := memberTarget_plain false (hstored nwid hnwid) hmemberId
    exact ⟨h.mayUpdate hnwid, (h.mayReach (mem_reached_iff.mpr (.inl ⟨nwid, hnwid, htarget⟩))
      (of_mem_renameTargets (of_mem_renamedIn hnwid).2).1).2.2⟩
  · refine fun h => updateContained_of_mayReach (fun nwid hnwid => (h nwid hnwid).1)
      fun target htarget hne => ?_
    rcases mem_reached_iff.mp htarget with ⟨nwid, hnwid, hsome⟩ | ⟨⟨hadmits, -⟩, hsome⟩
    · rw [memberTarget_plain false (hstored nwid hnwid) hmemberId] at hsome
      cases hsome
      exact ⟨(h nwid hnwid).1, rfl, (h nwid hnwid).2⟩
    · rw [memberTarget_plain input.central (hnwids _ (contains_of_admits hadmits)) hmemberId]
        at hsome
      cases hsome
      exact absurd rfl hne

/-! ## 9. Updates that are not contained -/

/-- User 1 is the author of network 3; network 7 belongs to organization 20, whose settings say that
names are global; member 4 is in both, and is not authorized in network 7. -/
def sharedMember : Db where
  users := (Dict.empty.set 1 .user).set 2 .user
  userOptions := .empty
  apiTokens := .empty
  organizations := Dict.empty.set 20 ⟨[2], some (some true)⟩
  userOrganizationRoles := Dict.empty.set (2, 20) .admin
  networks := (Dict.empty.set "3" ⟨some "home", none, none, some 1, none, []⟩).set "7"
    ⟨some "lab", none, none, some 2, some 20, []⟩
  members :=
    (Dict.empty.set ("4", "3") ⟨some "node", none, some true, some false, [], false, false⟩).set
    ("4", "7") ⟨some "node", none, some false, some false, [], false, false⟩
  activityLog := []

/-- The author of network 3 renames and authorizes the member there, and names organization 20. -/
def authorizeElsewhere : UpdateInput where
  nwid := "3"
  memberId := "4"
  central := false
  organizationId := some 20
  updateParams := ⟨some "mine", none, none, none, none, some true, none, none⟩

/-- **A user authorizes a member in the network of an organization to which he does not belong.** -/
theorem update_reaches_other_organization :
    ¬UpdateContained controllerApi ⟨fun _ => false, fun _ => false⟩ sharedMember 1
      authorizeElsewhere := by
  intro h
  have hmem : "7" ∈ sharedMember.renamedIn 1 authorizeElsewhere := by decide
  exact absurd (h.mayUpdate hmem) (by decide)

/-- The author of network 3 authorizes there a member whose id leads to another network. -/
def authorizeByPath : UpdateInput where
  nwid := "3"
  memberId := "../../7/member/4"
  central := false
  organizationId := none
  updateParams := ⟨none, none, none, none, none, some true, none, none⟩

/-- **A path leads to the network of somebody else**, without a name and without an organization. -/
theorem update_reaches_other_path :
    ¬UpdateContained controllerApi ⟨fun _ => false, fun _ => false⟩ sharedMember 1
      authorizeByPath := by
  intro h
  have hmem : ⟨"7", some "4"⟩ ∈
      sharedMember.reached controllerApi ⟨fun _ => false, fun _ => false⟩ 1 authorizeByPath := by
    decide +kernel
  exact absurd (h.mayReach hmem (by decide)).1 (by decide)

end ZtPlanet.Ztnet
