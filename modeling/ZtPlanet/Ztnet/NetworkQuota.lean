/-
# The number of networks of a user

`networkProvisioningFactory` creates a network, for the user interface and for the API.  Where the
user belongs to a group it first counts the user's networks against `maxNetworks` of the group; then
it asks the controller for a network, which takes its time, and last it inserts the row.  The count
is not taken again.

So a call that is alone keeps the quota (`networkProvisioningFactory_keeps`), and calls that overlap
keep it exactly if each row is inserted while the user's rows are still fewer than `maxNetworks`
(`quota_iff`).  Two calls that both count before either inserts go past it (`quota_exceeded`).
-/
import ZtPlanet.Ztnet.Backend
import ZtPlanet.Lib.Faults
import ZtPlanet.Lib.Interleave

namespace ZtPlanet.Ztnet.NetworkQuota

open ZtPlanet.Lib

/-! ## 1. `IPv4gen` -/

/-- A network of IPv4, as the options are written. -/
structure Cidr where
  octets : Nat × Nat × Nat × Nat
  bits : Nat
deriving DecidableEq

def cidrOptions : List Cidr :=
  [⟨(10, 121, 15, 0), 24⟩, ⟨(10, 121, 16, 0), 24⟩, ⟨(10, 121, 17, 0), 24⟩, ⟨(10, 121, 18, 0), 24⟩,
    ⟨(10, 121, 19, 0), 24⟩, ⟨(10, 121, 20, 0), 24⟩, ⟨(10, 121, 21, 0), 24⟩, ⟨(10, 121, 22, 0), 24⟩,
    ⟨(10, 121, 23, 0), 24⟩, ⟨(10, 121, 24, 0), 24⟩, ⟨(172, 25, 25, 0), 24⟩, ⟨(172, 25, 26, 0), 24⟩,
    ⟨(172, 25, 27, 0), 24⟩, ⟨(172, 25, 28, 0), 24⟩, ⟨(172, 25, 29, 0), 24⟩, ⟨(172, 25, 30, 0), 24⟩]

/-- The address as a number of 32 bits. -/
def Cidr.net32 (cidr : Cidr) : BitVec 32 :=
  let (a, b, c, d) := cidr.octets
  (BitVec.ofNat 32 a <<< 24) + BitVec.ofNat 32 b <<< 16 + BitVec.ofNat 32 c <<< 8 +
  BitVec.ofNat 32 d

def int32toIPv4String (int32 : BitVec 32) : String :=
  let octet := fun (shift : Nat) => toString ((int32 >>> shift) &&& 0xff#32).toNat
  octet 24 ++ "." ++ octet 16 ++ "." ++ octet 8 ++ "." ++ octet 0

def Cidr.text (cidr : Cidr) : String := int32toIPv4String cidr.net32 ++ "/" ++ toString cidr.bits

/-- The option that is used least, the first among several. -/
def leastUsed (count : Cidr → Nat) : Cidr → List Cidr → Cidr
  | best, [] => best
  | best, cidr :: rest => leastUsed count (if count cidr < count best then cidr else best) rest

/-- `generateCidr`, where `random` is what `Math.random` picks. -/
def generateCidr (usedCidr : List (List String)) (getRandom : Bool)
    (random : Fin cidrOptions.length) :
    Cidr :=
  if getRandom then cidrOptions.get random
  else
    let flattenedUsedCidr := usedCidr.flatten
    match cidrOptions.find? fun cidr => !flattenedUsedCidr.contains cidr.text with
    | some cidr => cidr
    | none =>
      leastUsed (fun cidr => flattenedUsedCidr.count cidr.text) ⟨(10, 121, 15, 0), 24⟩ cidrOptions

/-- What a network gets of `IPv4gen`. -/
structure IpAssignment where
  ipRangeStart : String
  ipRangeEnd : String
  routes : List Route
deriving DecidableEq

/-- `IPv4gen(null, usedCidr, getRandom)`. -/
def IPv4gen (usedCidr : List (List String)) (getRandom : Bool) (random : Fin cidrOptions.length) :
    IpAssignment :=
  let cidr := generateCidr usedCidr getRandom random
  let host32 := 1#32 <<< (32 - cidr.bits) - 1
  let net32 := cidr.net32 &&& ~~~host32
  { ipRangeStart := int32toIPv4String (net32 + 1)
    ipRangeEnd := int32toIPv4String (net32 + host32 - 1)
    routes := [⟨int32toIPv4String net32 ++ "/" ++ toString cidr.bits, none⟩] }

/-! ## 2. The tables and the calls -/

/-- `UserGroup`. -/
structure UserGroup where
  maxNetworks : Int
deriving DecidableEq

/-- `network`. -/
structure Network where
  name : String
  authorId : UserId
  routes : List Route
deriving DecidableEq

structure Store where
  /-- the users, with their groups -/
  users : Dict UserId (Option UserGroup)
  networks : Dict NetworkId Network

/-- The networks of a user. -/
def Store.networkCount (s : Store) (userId : UserId) : Nat :=
  s.networks.total fun network => if network.authorId = userId then 1 else 0

/-- What is thrown. -/
inductive Thrown where
  | customLimitError (message : String)
  | error (message : String)
  | trpc (code : Code) (message : String)
  /-- anything that is no `Error` -/
  | other
deriving DecidableEq

/-- What the controller answers. -/
structure NewNetwork where
  nwid : NetworkId
  name : String
deriving DecidableEq

inductive Query where
  /-- `user.findUnique`, its group -/
  | findUserGroup (userId : UserId)
  /-- `network.count({ where: { authorId } })` -/
  | countNetworks (userId : UserId)
  /-- `network.findMany`, the targets of the routes -/
  | findRoutes (userId : UserId)
  /-- `ztController.network_create`, with what the controller answers -/
  | networkCreate (name : String) (ipAssignment : IpAssignment) (central : Bool)
      (answer : Except Thrown NewNetwork)
  /-- `user.update`, which creates the row -/
  | createNetwork (userId : UserId) (network : NewNetwork) (routes : List Route)

@[reducible] def Query.Ans : Query → Type
  | .findUserGroup _ => Option UserGroup
  | .countNetworks _ => Nat
  | .findRoutes _ => List (List String)
  | .networkCreate _ _ _ _ => NewNetwork
  | .createNetwork _ _ _ => Unit

/-- The user is there, and the row is not. -/
def Store.inserts (s : Store) (userId : UserId) (network : NewNetwork) : Bool :=
  s.users.contains userId && !s.networks.contains network.nwid

/-- `user.update({ data: { network: { create } } })`. -/
def Store.createNetwork (s : Store) (userId : UserId) (network : NewNetwork) (routes : List Route) :
    Except Thrown Unit × Store :=
  if s.inserts userId network then
    (.ok (), { s with networks := s.networks.set network.nwid ⟨network.name, userId, routes⟩ })
  else (.error (.error "The row cannot be created."), s)

def Query.run : (q : Query) → Store → Except Thrown q.Ans × Store
  | .findUserGroup userId, s => (.ok (s.users.get? userId).join, s)
  | .countNetworks userId, s => (.ok (s.networkCount userId), s)
  | .findRoutes userId, s =>
    (.ok ((s.networks.filter fun _ network => network.authorId = userId).entries.map fun entry =>
      entry.2.routes.map Route.target), s)
  | .networkCreate _ _ _ answer, s => (answer, s)
  | .createNetwork userId network routes, s => s.createNetwork userId network routes

def handle : Prog.Handler (Call Query) (Call.Ans Query.Ans) Thrown Store :=
  faulty (.error "The database cannot be reached.") Query.run

/-! ## 3. `networkProvisioningFactory` -/

abbrev Proc (α : Type) : Type := Prog (Call Query) (Call.Ans Query.Ans) Thrown α

/-- What happens to one call from outside. -/
structure Plan where
  outcome : Query → Outcome
  /-- what `uniqueNamesGenerator` returns -/
  uniqueName : String
  /-- what `Math.random` picks -/
  random : Fin cidrOptions.length
  /-- what the controller answers -/
  created : Except Thrown NewNetwork

def perform (plan : Plan) (query : Query) : Proc query.Ans :=
  Prog.call (⟨query, plan.outcome query⟩ : Call Query)

/-- The input of a call. -/
structure Input where
  central : Bool
  name : Option String

/-- `throwError(message)`. -/
def throwMessage {α : Type} (message : String) : Proc α := throw (.trpc .badRequest message)

/-- `input.name`, which an empty name leaves to `uniqueNamesGenerator`. -/
def Input.networkName (input : Input) (plan : Plan) : String :=
  (input.name.filter fun name => name ≠ "").getD plan.uniqueName

/-- The check of the quota. -/
def checkLimit (plan : Plan) (userId : UserId) : Proc Unit := do
  let userGroup ← perform plan (.findUserGroup userId)
  match userGroup with
  | none => pure ()
  | some userGroup =>
    let currentNetworksCount ← perform plan (.countNetworks userId)
    if userGroup.maxNetworks ≤ currentNetworksCount then
      throw (.customLimitError
        "You have reached the maximum number of networks allowed for your user group.")
    else pure ()

/-- The body of `networkProvisioningFactory`. -/
def provision (plan : Plan) (userId : UserId) (input : Input) : Proc NewNetwork := do
  checkLimit plan userId
  let usedIPs ← perform plan (.findRoutes userId)
  let ipAssignmentPools := IPv4gen usedIPs input.central plan.random
  let newNw ← perform plan
    (.networkCreate (input.networkName plan) ipAssignmentPools input.central plan.created)
  if input.central then return newNw
  else
    perform plan (.createNetwork userId newNw ipAssignmentPools.routes)
    return newNw

/-- What `networkProvisioningFactory` throws in place of what it has caught. -/
def rethrow {α : Type} : Thrown → Proc α
  | .customLimitError message => throwMessage message
  | .error _ | .trpc _ _ => throwMessage "Could not create network! Please try again"
  | .other => throwMessage "An unknown error occurred"

def networkProvisioningFactory (plan : Plan) (userId : UserId) (input : Input) : Proc NewNetwork :=
  tryCatch (provision plan userId input) rethrow

/-- A call, of the user interface or of the API. -/
structure Op where
  plan : Plan
  userId : UserId
  input : Input

/-- The calls, which take turns. -/
def provisioningMachine :
    Machine (PoolState (Call Query) (Call.Ans Query.Ans) Thrown NewNetwork Store) (PoolEvent Op) :=
  poolMachine handle fun op => networkProvisioningFactory op.plan op.userId op.input

/-! ## 4. What a call does to the number of networks -/

/-- A row of the user is inserted only while the user has fewer than the quota. -/
def Query.belowQuota (user : UserId) (group : UserGroup) (s : Store) : Query → Prop
  | .createNetwork userId network _ =>
    userId = user → s.inserts userId network = true →
      (s.networkCount user : Int) < group.maxNetworks
  | _ => True

instance (user : UserId) (group : UserGroup) (s : Store) :
    ∀ query : Query, Decidable (query.belowQuota user group s)
  | .createNetwork _ _ _ => inferInstanceAs (Decidable (_ → _ → _))
  | .findUserGroup _ | .countNetworks _ | .findRoutes _ | .networkCreate _ _ _ _ => isTrue trivial

/-- The same of a call that takes effect. -/
def BelowQuota (user : UserId) (group : UserGroup) (call : Call Query) (s : Store) : Prop :=
  call.takesEffect = true → call.query.belowQuota user group s

instance (user : UserId) (group : UserGroup) (call : Call Query) (s : Store) :
    Decidable (BelowQuota user group call s) := inferInstanceAs (Decidable (_ → _))

/-- **The quota**: a user of the group has at most as many networks as the group allows. -/
structure WithinQuota (user : UserId) (group : UserGroup) (s : Store) : Prop where
  member : s.users.get? user = some (some group)
  within : (s.networkCount user : Int) ≤ group.maxNetworks

section

variable {user userId : UserId} {group : UserGroup} {s t : Store} {plan : Plan} {input : Input}

theorem networkCount_insert (user : UserId) {network : NewNetwork} (routes : List Route)
    (h : s.inserts userId network = true) :
    Store.networkCount { s with
        networks := s.networks.set network.nwid ⟨network.name, userId, routes⟩ } user =
      s.networkCount user + if userId = user then 1 else 0 := by
  have hnew : s.networks.get? network.nwid = none := by
    simpa [Store.inserts, Dict.contains] using (Bool.and_eq_true_iff.mp h).2
  have htotal := s.networks.total_set (fun network => if network.authorId = user then 1 else 0)
    network.nwid ⟨network.name, userId, routes⟩
  rw [hnew] at htotal
  exact htotal

/-- **What a call does to the quota.** -/
theorem run_withinQuota_iff (query : Query) (s : Store) (hs : WithinQuota user group s) :
    WithinQuota user group (query.run s).2 ↔ query.belowQuota user group s := by
  cases query with
  | findUserGroup _ | countNetworks _ | findRoutes _ | networkCreate _ _ _ _ =>
    exact iff_of_true hs trivial
  | createNetwork userId network routes =>
    change WithinQuota user group (s.createNetwork userId network routes).2 ↔ _
    unfold Store.createNetwork
    by_cases hinserts : s.inserts userId network = true
    · rw [if_pos hinserts]
      have hcount := networkCount_insert user routes hinserts
      constructor
      · rintro ⟨-, hwithin⟩ rfl -
        rw [hcount, if_pos rfl] at hwithin
        omega
      · intro hbelow
        refine ⟨hs.member, ?_⟩
        rw [hcount]
        by_cases hown : userId = user
        · rw [if_pos hown]
          have := hbelow hown hinserts
          omega
        · rw [if_neg hown]
          exact hs.within
    · rw [if_neg hinserts]
      exact iff_of_true hs fun _ h => absurd h hinserts

theorem handle_withinQuota_iff (call : Call Query) (s : Store) (hs : WithinQuota user group s) :
    WithinQuota user group (handle call s).2 ↔ BelowQuota user group call s :=
  faulty_iff run_withinQuota_iff call s hs

/-! ## 5. A call that is alone -/

theorem exec_perform (query : Query) :
    Prog.exec handle (perform plan query) s = handle ⟨query, plan.outcome query⟩ s :=
  Prog.exec_call _

/-- A check that is passed has found the user below the quota. -/
theorem checkLimit_ok (h : Prog.exec handle (checkLimit plan userId) s = (.ok (), t)) :
    t = s ∧ ∀ group, s.users.get? userId = some (some group) →
      (s.networkCount userId : Int) < group.maxNetworks := by
  obtain ⟨userGroup, u, hgroup, h⟩ := Prog.exec_bind_eq_ok.mp h
  rw [exec_perform] at hgroup
  cases (faulty_ok hgroup).2
  cases hjoin : (s.users.get? userId).join with
  | none =>
    rw [hjoin] at h
    cases h
    refine ⟨rfl, fun group hmember => ?_⟩
    rw [hmember] at hjoin
    cases hjoin
  | some userGroup =>
    rw [hjoin] at h
    obtain ⟨count, u, hcount, h⟩ := Prog.exec_bind_eq_ok.mp h
    rw [exec_perform] at hcount
    cases (faulty_ok hcount).2
    split at h
    · cases h
    · next hbelow =>
      cases h
      refine ⟨rfl, fun group hmember => ?_⟩
      rw [hmember] at hjoin
      obtain rfl : group = userGroup := Option.some.inj hjoin
      exact not_le.mp hbelow

/-- A call that is no insertion is no matter of the quota. -/
theorem along_perform (query : Query) (h : query.belowQuota user group s) :
    Prog.Along handle (BelowQuota user group) (perform plan query) s := Prog.along_call fun _ => h

theorem checkLimit_along :
    Prog.Along handle (BelowQuota user group) (checkLimit plan userId) s := by
  refine (along_perform (.findUserGroup userId) trivial).bind fun userGroup t _ => ?_
  cases userGroup with
  | none => exact Prog.along_pure ()
  | some userGroup =>
    refine (along_perform (.countNetworks userId) trivial).bind fun count t _ => ?_
    split
    · exact Prog.along_throw _
    · exact Prog.along_pure ()

/-- Every insertion of a call that is alone is below the quota. -/
theorem networkProvisioningFactory_along (hs : WithinQuota user group s) :
    Prog.Along handle (BelowQuota user group) (networkProvisioningFactory plan userId input) s := by
  refine Prog.Along.tryCatch ?_ fun e t _ => ?_
  · refine checkLimit_along.bind fun _ t hcheck => ?_
    obtain ⟨rfl, hlimit⟩ := checkLimit_ok hcheck
    refine (along_perform (.findRoutes userId) trivial).bind fun usedIPs u hroutes => ?_
    rw [exec_perform] at hroutes
    cases (faulty_ok hroutes).2
    refine (along_perform (.networkCreate _ _ _ _) trivial).bind fun newNw u hcreate => ?_
    rw [exec_perform] at hcreate
    obtain rfl : u = t := (Prod.mk.inj (faulty_ok hcreate).2).2.symm
    by_cases hcentral : input.central = true
    · rw [if_pos hcentral]
      exact Prog.along_pure newNw
    · rw [if_neg hcentral]
      refine (along_perform _ ?_).bind fun _ _ _ => Prog.along_pure newNw
      rintro rfl -
      exact hlimit group hs.member
  · cases e with
    | customLimitError _ | error _ | trpc _ _ | other => exact Prog.along_throw _

/-- **A call that is alone keeps the quota**, whatever fails on the way. -/
theorem networkProvisioningFactory_keeps (plan : Plan) (userId : UserId) (input : Input)
    (hs : WithinQuota user group s) :
    WithinQuota user group
      (Prog.exec handle (networkProvisioningFactory plan userId input) s).2 :=
  (networkProvisioningFactory_along hs).exec_preserves
    (fun call t hbelow ht => (handle_withinQuota_iff call t ht).mpr hbelow) hs

end

/-! ## 6. Calls that overlap -/

/-- **The quota, exactly.**  In every run of any calls, a user of a group that begins with at most
`maxNetworks` networks has at most so many in all states of the run, if and only if every call that
inserts a row of the user does so while the user has fewer. -/
theorem quota_iff (user : UserId) (group : UserGroup) (store : Store)
    (hmember : store.users.get? user = some (some group))
    (hwithin : (store.networkCount user : Int) ≤ group.maxNetworks) (events : List (PoolEvent Op)) :
    (∀ es, es <+: events → ∀ w, provisioningMachine.run ⟨store, []⟩ es = some w →
        WithinQuota user group w.state) ↔
      provisioningMachine.Conforms (PoolState.meets (BelowQuota user group)) ⟨store, []⟩ events :=
  pool_invariant_iff handle_withinQuota_iff ⟨hmember, hwithin⟩ events

/-- A group with room for one network. -/
def oneNetwork : UserGroup := ⟨1⟩

/-- User 7 is in the group and has no network. -/
def exampleStore : Store := ⟨Dict.empty.set 7 (some oneNetwork), Dict.empty⟩

/-- Everything goes through, and the controller answers with the network `nwid`. -/
def plainPlan (nwid : NetworkId) : Plan where
  outcome := fun _ => .done
  uniqueName := "quiet-otter"
  random := ⟨0, by decide⟩
  created := .ok ⟨nwid, "quiet-otter"⟩

/-- The call of the user interface. -/
def createNetwork (nwid : NetworkId) : Op := ⟨plainPlan nwid, 7, ⟨false, none⟩⟩

/-- The call of the API. -/
def apiNetwork (nwid : NetworkId) : Op := ⟨plainPlan nwid, 7, ⟨false, some "office"⟩⟩

/-- One call, and another behind it. -/
def inTurn : List (PoolEvent Op) :=
  .start (createNetwork "1") :: List.replicate 5 (.step 0) ++
    .start (apiNetwork "2") :: List.replicate 2 (.step 1)

/-- The second call is refused. -/
theorem quota_in_turn :
    ∃ w, provisioningMachine.run ⟨exampleStore, []⟩ inTurn = some w ∧ w.finished ∧
      w.state.networkCount 7 = 1 ∧ WithinQuota 7 oneNetwork w.state := by
  refine Machine.exists_run (P := fun w => w.finished ∧ w.state.networkCount 7 = 1)
    (by decide +kernel)
    fun w hw h => ⟨h.1, h.2, ?_⟩
  exact (quota_iff 7 oneNetwork exampleStore (by decide +kernel) (by decide +kernel) inTurn).mpr
    (by decide +kernel) _ (List.prefix_refl _) w hw

/-- Both calls count before either inserts its row. -/
def overlap : List (PoolEvent Op) :=
  .start (createNetwork "1") :: .start (apiNetwork "2") ::
    [0, 0, 1, 1, 0, 0, 0, 1, 1, 1].map PoolEvent.step

/-- **One network too many.** -/
theorem quota_exceeded :
    exampleStore.users.get? 7 = some (some oneNetwork) ∧ exampleStore.networkCount 7 = 0 ∧
      ∃ w, provisioningMachine.run ⟨exampleStore, []⟩ overlap = some w ∧
        w.state.networkCount 7 = 2 ∧ ¬ WithinQuota 7 oneNetwork w.state := by
  refine ⟨by decide +kernel, by decide +kernel, ?_⟩
  refine Machine.exists_run (P := fun w => w.state.networkCount 7 = 2) (by decide +kernel)
    fun w _ htwo => ⟨htwo, fun h => ?_⟩
  have hwithin := h.within
  rw [htwo] at hwithin
  exact absurd hwithin (by decide)

end ZtPlanet.Ztnet.NetworkQuota
