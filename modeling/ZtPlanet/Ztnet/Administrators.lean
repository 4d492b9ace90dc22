/-
# The administrators of the instance

`changeRole`, `updateUser`, `deleteUser` and `assignUserGroup` are for administrators, and the
expiry job runs by itself.  Each of them looks at the account it is about before it writes, and none
looks again: it updates or deletes the row by its id alone.  Whoever asks is an administrator when
the session is looked up, and may be none any more when the write is made.

So a request that is alone leaves an administrator (`alone_keeps`), and requests that overlap leave
one exactly if each write does, which takes the role, the row or `isActive` from an account
(`administrator_kept_iff`).  Where none is left, the next account that signs in by OAuth is promoted
(`administrator_lost`).
-/
import ZtPlanet.Ztnet.Backend
import ZtPlanet.Lib.Faults
import ZtPlanet.Lib.Interleave

namespace ZtPlanet.Ztnet.Administrators

open ZtPlanet.Lib

/-! ## 1. The tables -/

abbrev UserGroupId : Type := Nat

/-- `User`. -/
structure User where
  role : Role
  isActive : Bool
  expiresAt : Option Nat
  userGroupId : Option UserGroupId
deriving DecidableEq

/-- The account is an active one with the role `ADMIN`. -/
def User.isAdministrator (user : User) : Bool := user.isActive && user.role = .admin

/-- The `data` of an update; a column that is not written is `none`. -/
structure UserData where
  role : Option Role
  isActive : Option Bool
  expiresAt : Option (Option Nat)
  userGroupId : Option (Option UserGroupId)
deriving DecidableEq

def UserData.apply (data : UserData) (user : User) : User where
  role := data.role.getD user.role
  isActive := data.isActive.getD user.isActive
  expiresAt := data.expiresAt.getD user.expiresAt
  userGroupId := data.userGroupId.getD user.userGroupId

structure Store where
  /-- `Date.now()` -/
  now : Nat
  users : Dict UserId User
  /-- `expiresAt` of each group -/
  userGroups : Dict UserGroupId (Option Nat)
  /-- the group with `isDefault` -/
  defaultUserGroup : Option UserGroupId
  /-- the author of each network -/
  networks : Dict NetworkId UserId

/-- **There is an administrator.** -/
def Store.Administered (s : Store) : Prop :=
  (s.users.entries.any fun entry => entry.2.isAdministrator) = true

instance (s : Store) : Decidable s.Administered := inferInstanceAs (Decidable (_ = true))

/-- There is an administrator besides the account. -/
def Store.othersAdminister (s : Store) (id : UserId) : Bool :=
  s.users.entries.any fun entry => entry.1 ≠ id && entry.2.isAdministrator

/-- The networks of a user. -/
def Store.networksOf (s : Store) (id : UserId) : List NetworkId :=
  (s.networks.entries.filter fun entry => entry.2 = id).map Prod.fst

/-- When the group of the user expires. -/
def Store.groupExpiry (s : Store) (user : User) : Option Nat :=
  (user.userGroupId.bind s.userGroups.get?).join

/-! ## 2. Calls -/

/-- What the expiry job finds out about an account. -/
structure ExpiredUser where
  id : UserId
  role : Role
  network : List NetworkId
deriving DecidableEq

/-- A call of the Prisma client, or of the controller. -/
inductive Query where
  | readClock
  /-- time that passes -/
  | advance (ms : Nat)
  /-- `user.findUnique` -/
  | findUser (id : UserId)
  /-- `user.findUnique` of `getActiveSession`, with the `expiresAt` of the group -/
  | findSessionUser (id : UserId)
  | findUserGroup (id : UserGroupId)
  /-- `network.findMany` -/
  | findNetworks (authorId : UserId)
  /-- `user.findMany` with `expiresAt: { lt: now }` -/
  | findExpiredUsers (now : Nat)
  /-- `user.findMany` with `userGroup: { expiresAt: { lt: now } }` -/
  | findUsersInExpiredGroups (now : Nat)
  /-- `user.findFirst({ where: { role: "ADMIN" } })` -/
  | findAdmin
  | deleteNetwork (nwid : NetworkId)
  /-- `network_members` and `member_update` of the controller -/
  | deauthorizeMembers (nwid : NetworkId)
  /-- `user.update` -/
  | updateUser (id : UserId) (data : UserData)
  /-- `user.delete` -/
  | deleteUser (id : UserId)
  /-- `userGroup.findFirst({ where: { isDefault: true } })` -/
  | findDefaultUserGroup
  /-- the account that OAuth creates -/
  | createUser (id : UserId) (userGroupId : Option UserGroupId)
  /-- `user.update` of `onUserCreateAfter` -/
  | promote (id : UserId)
deriving DecidableEq

@[reducible] def Query.Ans : Query → Type
  | .readClock => Nat
  | .findUser _ => Option User
  | .findSessionUser _ => Option (User × Option Nat)
  | .findUserGroup _ => Option (Option Nat)
  | .findNetworks _ => List NetworkId
  | .findExpiredUsers _ | .findUsersInExpiredGroups _ => List ExpiredUser
  | .findAdmin => Bool
  | .findDefaultUserGroup => Option UserGroupId
  | _ => Unit

/-- The accounts that a `findMany` of the expiry job finds. -/
def Store.expired (s : Store) (p : User → Bool) : List ExpiredUser :=
  (s.users.entries.filter fun entry =>
    p entry.2 && entry.2.isActive && !(entry.2.role = .admin)).map fun entry =>
      ⟨entry.1, entry.2.role, s.networksOf entry.1⟩

/-- The row of the new account, as `onUserCreateBefore` has it for OAuth. -/
def newUser (userGroupId : Option UserGroupId) : User := ⟨.user, true, none, userGroupId⟩

/-- `data: { role: "ADMIN" }`. -/
def promotion : UserData := ⟨some .admin, none, none, none⟩

/-- The row that a call writes, `none` where it deletes it; if it writes one. -/
def Query.write (s : Store) : Query → Option (UserId × Option User)
  | .updateUser id data =>
    (s.users.get? id).bind fun user =>
      if (data.apply user).userGroupId.all fun group => s.userGroups.contains group then
        some (id, some (data.apply user))
      else none
  | .promote id => (s.users.get? id).map fun user => (id, some (promotion.apply user))
  | .deleteUser id => if s.users.contains id then some (id, none) else none
  | .createUser id userGroupId =>
    if s.users.contains id || userGroupId.any fun group => !s.userGroups.contains group then none
    else some (id, some (newUser userGroupId))
  | _ => none

/-- The users behind a write. -/
def writeRow (users : Dict UserId User) : Option (UserId × Option User) → Dict UserId User
  | none => users
  | some (id, some user) => users.set id user
  | some (id, none) => users.erase id

/-- A write goes through, or fails and does nothing. -/
def Store.write (s : Store) (row : Option (UserId × Option User)) : Except Failure Unit × Store :=
  (if row.isSome then .ok () else .error missingRecord, { s with users := writeRow s.users row })

/-- What each call returns and does. -/
def Query.run : (q : Query) → Store → Except Failure q.Ans × Store
  | .readClock, s => (.ok s.now, s)
  | .advance ms, s => (.ok (), { s with now := s.now + ms })
  | .findUser id, s => (.ok (s.users.get? id), s)
  | .findSessionUser id, s =>
    (.ok ((s.users.get? id).map fun user => (user, s.groupExpiry user)), s)
  | .findUserGroup id, s => (.ok (s.userGroups.get? id), s)
  | .findNetworks authorId, s => (.ok (s.networksOf authorId), s)
  | .findExpiredUsers now, s => (.ok (s.expired fun user => user.expiresAt.any (· < now)), s)
  | .findUsersInExpiredGroups now, s =>
    (.ok (s.expired fun user => (s.groupExpiry user).any (· < now)), s)
  | .findAdmin, s => (.ok (s.users.entries.any fun entry => entry.2.role = .admin), s)
  | .deleteNetwork nwid, s =>
    if s.networks.contains nwid then (.ok (), { s with networks := s.networks.erase nwid })
    else (.error (.trpc .notFound "Network not found!"), s)
  | .deauthorizeMembers _, s => (.ok (), s)
  | .updateUser id data, s => s.write (Query.write s (.updateUser id data))
  | .deleteUser id, s => s.write (Query.write s (.deleteUser id))
  | .findDefaultUserGroup, s => (.ok s.defaultUserGroup, s)
  | .createUser id userGroupId, s => s.write (Query.write s (.createUser id userGroupId))
  | .promote id, s => s.write (Query.write s (.promote id))

abbrev Act : Type := Call Query

def handle : Prog.Handler Act (Call.Ans Query.Ans) Failure Store :=
  faulty (.error "The call has failed.") Query.run

/-! ## 3. Procedures -/

abbrev Proc (α : Type) : Type := Prog Act (Call.Ans Query.Ans) Failure α

/-- What happens to the calls of a procedure. -/
abbrev Plan : Type := Query → Outcome

def perform (plan : Plan) (query : Query) : Proc query.Ans :=
  Prog.call (⟨query, plan query⟩ : Act)

/-- `Date.now()`. -/
def readClock : Proc Nat := Prog.call (⟨.readClock, .done⟩ : Act)

/-- `throwError`. -/
def throwTRPC {α : Type} (message : String) (code : Code) : Proc α := throw (.trpc code message)

/-- `getActiveSession` and `adminRoleProtectedRoute`, for the user of the session. -/
def requireAdmin (plan : Plan) (callerId : UserId) : Proc Unit := do
  let user ← perform plan (.findSessionUser callerId)
  let now ← readClock
  match user with
  | none => throwTRPC "" .unauthorized
  | some (user, groupExpiresAt) =>
    if !user.isActive || user.expiresAt.any (· ≤ now) ||
        (user.role ≠ .admin && groupExpiresAt.any (· ≤ now)) then throwTRPC "" .unauthorized
    else if user.role ≠ .admin then throwTRPC "" .forbidden
    else pure ()

/-- `updateUser`, with the parameters that are given. -/
def updateUser (plan : Plan) (callerId id : UserId) (isActive : Option Bool)
    (expiresAt : Option (Option Nat)) : Proc Unit := do
  requireAdmin plan callerId
  if callerId = id then throwTRPC "You can't change your own status" .badRequest
  else
    let user ← perform plan (.findUser id)
    match user with
    | none => throwTRPC "User not found" .notFound
    | some user =>
      if user.role = .admin then throwTRPC "You can't change the status of admin users" .badRequest
      else perform plan (.updateUser id ⟨none, isActive, expiresAt, none⟩)

/-- Every network is deleted; the order makes no difference to the accounts. -/
def deleteNetworks (plan : Plan) : List NetworkId → Proc Unit
  | [] => pure ()
  | nwid :: rest => do
    perform plan (.deleteNetwork nwid)
    deleteNetworks plan rest

/-- `deleteUser`. -/
def deleteUser (plan : Plan) (callerId id : UserId) : Proc Unit := do
  requireAdmin plan callerId
  if callerId = id then throwTRPC "You can't delete your own account" .badRequest
  else
    let user ← perform plan (.findUser id)
    match user with
    | none => throwTRPC "User not found" .notFound
    | some user =>
      if user.role = .admin then throwTRPC "You can't delete admin users" .badRequest
      else
        let userNetworks ← perform plan (.findNetworks id)
        deleteNetworks plan userNetworks
        perform plan (.deleteUser id)

/-- What `changeRole` writes. -/
def roleData (role : Role) : UserData :=
  if role = .admin then ⟨some role, some true, some none, some none⟩
    else ⟨some role, none, none, none⟩

/-- `changeRole`. -/
def changeRole (plan : Plan) (callerId id : UserId) (role : Role) : Proc Unit := do
  requireAdmin plan callerId
  if callerId = id then throwTRPC "You can't change your own role" .badRequest
  else perform plan (.updateUser id (roleData role))

/-- The group that `assignUserGroup` is given: `"none"`, a number, or neither. -/
inductive GroupChoice where
  | noGroup
  | group (id : UserGroupId)
  | invalid
deriving DecidableEq

/-- The part of `assignUserGroup` behind its checks. -/
def writeGroup (plan : Plan) (userid : UserId) (choice : GroupChoice) : Proc Unit := do
  match choice with
  | .noGroup => perform plan (.updateUser userid ⟨none, none, some none, some none⟩)
  | .invalid => throw (.error "Argument id is missing.")
  | .group id => do
    let userGroup ← perform plan (.findUserGroup id)
    match userGroup with
    | none => throw (.error "User or UserGroup not found")
    | some expiresAt =>
      perform plan (.updateUser userid ⟨none, none, some expiresAt, some (some id)⟩)

/-- `assignUserGroup`. -/
def assignUserGroup (plan : Plan) (callerId userid : UserId) (choice : GroupChoice) :
    Proc Unit := do
  requireAdmin plan callerId
  if callerId = userid then throwTRPC "You can't change your own Group" .badRequest
  else
    let user ← perform plan (.findUser userid)
    match user with
    | none => throwTRPC "User not found" .notFound
    | some user =>
      if user.role = .admin && choice ≠ .noGroup then
        throwTRPC "You can't add groups to admin users" .badRequest
      else
        tryCatch (writeGroup plan userid choice) fun err =>
          throwTRPC ("Error assigning user to group: " ++ err.message) .badRequest

/-- The members of a network are deauthorized; where that fails, the job goes on. -/
def deauthorizeNetworks (plan : Plan) : List NetworkId → Proc Unit
  | [] => pure ()
  | nwid :: rest => do
    tryCatch (perform plan (.deauthorizeMembers nwid)) fun _ => pure ()
    deauthorizeNetworks plan rest

/-- The accounts are deactivated one after the other. -/
def deactivate (plan : Plan) : List ExpiredUser → Proc Unit
  | [] => pure ()
  | userObj :: rest => do
    if userObj.role = .admin then deactivate plan rest
    else
      deauthorizeNetworks plan userObj.network
      perform plan (.updateUser userObj.id ⟨none, some false, none, none⟩)
      deactivate plan rest

/-- `checkAndDeactivateExpiredUsers`. -/
def checkAndDeactivateExpiredUsers (plan : Plan) : Proc Unit := do
  let now ← readClock
  let expUsers ← perform plan (.findExpiredUsers now)
  let now ← readClock
  let usersInExpiredGroups ← perform plan (.findUsersInExpiredGroups now)
  deactivate plan (expUsers ++ usersInExpiredGroups)

/-- An account that OAuth creates where new accounts are allowed: `onUserCreateBefore`, the row, and
`onUserCreateAfter`.  A lock keeps the transaction of the last apart from those of other accounts
that are created; here they may overlap as well. -/
def signUpOAuth (plan : Plan) (id : UserId) : Proc Unit := do
  let defaultUserGroup ← perform plan .findDefaultUserGroup
  perform plan (.createUser id defaultUserGroup)
  let existingAdmin ← perform plan .findAdmin
  if existingAdmin then pure () else perform plan (.promote id)

inductive Request where
  | updateUser (callerId id : UserId) (isActive : Option Bool) (expiresAt : Option (Option Nat))
  | deleteUser (callerId id : UserId)
  | changeRole (callerId id : UserId) (role : Role)
  | assignUserGroup (callerId userid : UserId) (choice : GroupChoice)
  | checkExpiredUsers
  | signUpOAuth (id : UserId)
  /-- time passes -/
  | wait (ms : Nat)

/-- A request, with what happens to its calls. -/
structure Op where
  plan : Plan
  request : Request

def Op.program (op : Op) : Proc Unit :=
  match op.request with
  | .updateUser callerId id isActive expiresAt => updateUser op.plan callerId id isActive expiresAt
  | .deleteUser callerId id => deleteUser op.plan callerId id
  | .changeRole callerId id role => changeRole op.plan callerId id role
  | .assignUserGroup callerId userid choice => assignUserGroup op.plan callerId userid choice
  | .checkExpiredUsers => checkAndDeactivateExpiredUsers op.plan
  | .signUpOAuth id => signUpOAuth op.plan id
  | .wait ms => Prog.call (⟨.advance ms, .done⟩ : Act)

/-- The requests, which take turns. -/
def adminMachine : Machine (PoolState Act (Call.Ans Query.Ans) Failure Unit Store) (PoolEvent Op) :=
  poolMachine handle Op.program

/-! ## 4. What a write leaves -/

/-- The write leaves an administrator. -/
def Store.spares (s : Store) (row : Option (UserId × Option User)) : Bool :=
  row.all fun entry => entry.2.any User.isAdministrator || s.othersAdminister entry.1

/-- What a call writes leaves an administrator. -/
def SparesAdministrator (act : Act) (s : Store) : Prop :=
  act.takesEffect = true → s.spares (act.query.write s) = true

instance (act : Act) (s : Store) : Decidable (SparesAdministrator act s) :=
  inferInstanceAs (Decidable (_ → _))

section

variable {s t : Store} {id : UserId} {user : User} {act : Act}

theorem administered_iff : s.Administered ↔
    ∃ id user, s.users.get? id = some user ∧ user.isAdministrator = true := by
  simp only [Store.Administered, List.any_eq_true, Prod.exists, Dict.get?_eq_some_iff]

theorem othersAdminister_iff : s.othersAdminister id = true ↔
    ∃ id' user, s.users.get? id' = some user ∧ id' ≠ id ∧ user.isAdministrator = true := by
  simp only [Store.othersAdminister, List.any_eq_true, Prod.exists, Dict.get?_eq_some_iff,
    Bool.and_eq_true, decide_eq_true_eq, ne_eq]

/-- The rows behind a write: the one that is written, and the others as they were. -/
theorem get?_writeRow (users : Dict UserId User) (entry : UserId × Option User) (id : UserId) :
    (writeRow users (some entry)).get? id = if entry.1 = id then entry.2 else users.get? id := by
  obtain ⟨written, row⟩ := entry
  cases row with
  | some user => exact Dict.get?_set users written id user
  | none => exact Dict.get?_erase users written id

/-- What a call does to the accounts. -/
theorem run_users (query : Query) (s : Store) :
    (query.run s).2.users = writeRow s.users (query.write s) := by
  cases query with
  | deleteNetwork nwid =>
    simp only [Query.run]
    split <;> rfl
  | _ => rfl

/-- **A call leaves an administrator exactly if its write does.** -/
theorem run_administered_iff (query : Query) (s : Store) (hs : s.Administered) :
    (query.run s).2.Administered ↔ s.spares (query.write s) = true := by
  rw [administered_iff, run_users]
  cases query.write s with
  | none => exact iff_of_true (administered_iff.mp hs) rfl
  | some entry =>
    simp only [get?_writeRow, Store.spares, Option.all_some, Bool.or_eq_true, Option.any_eq_true,
      othersAdminister_iff]
    constructor
    · rintro ⟨id, user, hrow, hadmin⟩
      split at hrow
      · exact .inl ⟨user, hrow, hadmin⟩
      · next hne => exact .inr ⟨id, user, hrow, fun hsame => hne hsame.symm, hadmin⟩
    · rintro (⟨user, hrow, hadmin⟩ | ⟨id, user, hrow, hne, hadmin⟩)
      · exact ⟨entry.1, user, by rw [if_pos rfl, hrow], hadmin⟩
      · exact ⟨id, user, by rw [if_neg hne.symm, hrow], hadmin⟩

theorem handle_administered_iff (act : Act) (s : Store) (hs : s.Administered) :
    (handle act s).2.Administered ↔ SparesAdministrator act s :=
  faulty_iff run_administered_iff act s hs

end

/-! ## 5. A request that is alone -/

section

variable {s t : Store} {callerId id : UserId} {plan : Plan}

/-- A call that writes no account. -/
theorem spares_read {query : Query} {outcome : Outcome} (h : query.write s = none) :
    SparesAdministrator ⟨query, outcome⟩ s := by
  intro _
  rw [h]
  rfl

/-- A write about an account besides which there is an administrator. -/
theorem spares_other {query : Query} {outcome : Outcome} (hothers : s.othersAdminister id = true)
    (habout : ∀ entry ∈ query.write s, entry.1 = id) : SparesAdministrator ⟨query, outcome⟩ s := by
  intro _
  change s.spares (query.write s) = true
  cases hwrite : query.write s with
  | none => rfl
  | some entry =>
    rw [Store.spares, Option.all_some, habout entry hwrite, hothers, Bool.or_true]

theorem write_updateUser (data : UserData) :
    ∀ entry ∈ (Query.updateUser id data).write s, entry.1 = id := by
  intro entry hentry
  obtain ⟨user, -, hentry⟩ := Option.bind_eq_some_iff.mp hentry
  split at hentry
  · cases hentry
    rfl
  · cases hentry

theorem write_deleteUser : ∀ entry ∈ (Query.deleteUser id).write s, entry.1 = id := by
  intro entry hentry
  simp only [Query.write] at hentry
  split at hentry
  · cases hentry
    rfl
  · cases hentry

/-- What a call answers. -/
theorem exec_perform {query : Query} {a : query.Ans}
    (h : Prog.exec handle (perform plan query) s = (.ok a, t)) : query.run s = (.ok a, t) :=
  (faulty_ok ((Prog.exec_call _).symm.trans h)).2

theorem along_perform {query : Query} (h : SparesAdministrator ⟨query, plan query⟩ s) :
    Prog.Along handle SparesAdministrator (perform plan query) s := Prog.along_call h

theorem along_read {query : Query} (h : query.write s = none) :
    Prog.Along handle SparesAdministrator (perform plan query) s := along_perform (spares_read h)

theorem along_readClock : Prog.Along handle SparesAdministrator readClock s :=
  Prog.along_call (spares_read rfl)

theorem requireAdmin_along :
    Prog.Along handle SparesAdministrator (requireAdmin plan callerId) s := by
  refine (along_read rfl).bind fun user t _ => along_readClock.bind fun now u _ => ?_
  cases user with
  | none => exact Prog.along_throw _
  | some user =>
    dsimp only
    split
    · exact Prog.along_throw _
    · split
      · exact Prog.along_throw _
      · exact Prog.along_pure _

/-- Whoever passes is an administrator when the session is looked up. -/
theorem requireAdmin_ok (h : Prog.exec handle (requireAdmin plan callerId) s = (.ok (), t)) :
    t = s ∧ ∃ user, s.users.get? callerId = some user ∧ user.isAdministrator = true := by
  obtain ⟨user, u, hfind, h⟩ := Prog.exec_bind_eq_ok.mp h
  obtain ⟨now, v, hclock, h⟩ := Prog.exec_bind_eq_ok.mp h
  cases exec_perform hfind
  cases hclock
  cases hrow : s.users.get? callerId with
  | none =>
    rw [hrow] at h
    cases h
  | some user =>
    rw [hrow] at h
    dsimp only [Option.map_some] at h
    split at h
    · cases h
    · next hstanding =>
      split at h
      · cases h
      · next hrole =>
        cases h
        refine ⟨rfl, user, rfl, ?_⟩
        simp only [Bool.or_eq_true, not_or, Bool.not_eq_true', Bool.not_eq_false] at hstanding
        rw [User.isAdministrator, hstanding.1.1, decide_eq_true (not_not.mp hrole)]
        rfl

/-- Behind the check, an account that is not the caller's has an administrator besides it. -/
theorem requireAdmin_others (h : Prog.exec handle (requireAdmin plan callerId) s = (.ok (), t))
    (hne : callerId ≠ id) : t = s ∧ s.othersAdminister id = true := by
  obtain ⟨rfl, user, hrow, hadmin⟩ := requireAdmin_ok h
  exact ⟨rfl, othersAdminister_iff.mpr ⟨callerId, user, hrow, hne, hadmin⟩⟩

/-- A program that writes no account leaves the accounts as they are. -/
theorem exec_users {α : Type} {p : Proc α}
    (hp : Prog.Only (fun act => ∀ s, act.query.write s = none) p) :
    (Prog.exec handle p s).2.users = s.users := by
  refine hp.exec_preserves (I := fun t : Store => t.users = s.users) (fun act t hread ht => ?_) rfl
  rw [handle, faulty_state]
  split
  · rw [run_users, hread t]
    exact ht
  · exact ht

theorem othersAdminister_congr (h : t.users = s.users) :
    t.othersAdminister id = s.othersAdminister id := by
  rw [Store.othersAdminister, h, Store.othersAdminister]

theorem deleteNetworks_only (networks : List NetworkId) :
    Prog.Only (fun act => ∀ s, act.query.write s = none) (deleteNetworks plan networks) := by
  induction networks with
  | nil => exact Prog.only_pure _
  | cons nwid rest ih => exact (Prog.only_call fun _ => rfl).bind fun _ => ih

theorem updateUser_along {isActive : Option Bool} {expiresAt : Option (Option Nat)} :
    Prog.Along handle SparesAdministrator (updateUser plan callerId id isActive expiresAt) s := by
  refine requireAdmin_along.bind fun _ t hadmin => ?_
  split
  · exact Prog.along_throw _
  · next hne =>
    obtain ⟨rfl, hothers⟩ := requireAdmin_others hadmin hne
    refine (along_read rfl).bind fun user u hfind => ?_
    cases exec_perform hfind
    split
    · exact Prog.along_throw _
    · split
      · exact Prog.along_throw _
      · exact along_perform (spares_other hothers (write_updateUser _))

theorem deleteUser_along :
    Prog.Along handle SparesAdministrator (deleteUser plan callerId id) s := by
  refine requireAdmin_along.bind fun _ t hadmin => ?_
  split
  · exact Prog.along_throw _
  · next hne =>
    obtain ⟨rfl, hothers⟩ := requireAdmin_others hadmin hne
    refine (along_read rfl).bind fun user u hfind => ?_
    cases exec_perform hfind
    split
    · exact Prog.along_throw _
    · split
      · exact Prog.along_throw _
      · refine (along_read rfl).bind fun networks v hnetworks => ?_
        have honly : Prog.Only (fun act => ∀ s, act.query.write s = none)
          (deleteNetworks plan networks) :=
          deleteNetworks_only networks
        cases exec_perform hnetworks
        refine (honly.along (fun act s hread => spares_read (hread s)) _).bind fun _ w hdeleted =>
          ?_
        -- the networks are gone, and the accounts are the same
        have husers := exec_users (s := t) honly
        rw [hdeleted] at husers
        rw [← othersAdminister_congr husers] at hothers
        exact along_perform (spares_other hothers write_deleteUser)

theorem changeRole_along {role : Role} :
    Prog.Along handle SparesAdministrator (changeRole plan callerId id role) s := by
  refine requireAdmin_along.bind fun _ t hadmin => ?_
  split
  · exact Prog.along_throw _
  · next hne =>
    obtain ⟨rfl, hothers⟩ := requireAdmin_others hadmin hne
    exact along_perform (spares_other hothers (write_updateUser _))

theorem writeGroup_along {choice : GroupChoice} (hothers : s.othersAdminister id = true) :
    Prog.Along handle SparesAdministrator (writeGroup plan id choice) s := by
  cases choice with
  | noGroup => exact along_perform (spares_other hothers (write_updateUser _))
  | invalid => exact Prog.along_throw _
  | group group =>
    refine (along_read rfl).bind fun userGroup u hfind => ?_
    cases exec_perform hfind
    split
    · exact Prog.along_throw _
    · exact along_perform (spares_other hothers (write_updateUser _))

theorem assignUserGroup_along {choice : GroupChoice} :
    Prog.Along handle SparesAdministrator (assignUserGroup plan callerId id choice) s := by
  refine requireAdmin_along.bind fun _ t hadmin => ?_
  split
  · exact Prog.along_throw _
  · next hne =>
    obtain ⟨rfl, hothers⟩ := requireAdmin_others hadmin hne
    refine (along_read rfl).bind fun user u hfind => ?_
    cases exec_perform hfind
    split
    · exact Prog.along_throw _
    · split
      · exact Prog.along_throw _
      · exact (writeGroup_along hothers).tryCatch fun _ _ _ => Prog.along_throw _

/-- None of the accounts is one of an administrator. -/
def NoAdmins (users : List ExpiredUser) (s : Store) : Prop :=
  ∀ userObj ∈ users, ∀ user, s.users.get? userObj.id = some user → user.role ≠ .admin

theorem deauthorizeNetworks_only (networks : List NetworkId) :
    Prog.Only (fun act => ∀ s, act.query.write s = none) (deauthorizeNetworks plan networks) := by
  induction networks with
  | nil => exact Prog.only_pure _
  | cons nwid rest ih =>
    exact ((Prog.only_call fun _ => rfl).tryCatch fun _ => Prog.only_pure _).bind fun _ => ih

/-- Besides an account that is none of an administrator, there is one. -/
theorem others_of_role (hs : s.Administered)
    (hrole : ∀ user, s.users.get? id = some user → user.role ≠ .admin) :
    s.othersAdminister id = true := by
  obtain ⟨adminId, user, hrow, hadmin⟩ := administered_iff.mp hs
  refine othersAdminister_iff.mpr ⟨adminId, user, hrow, ?_, hadmin⟩
  rintro rfl
  simp only [User.isAdministrator, Bool.and_eq_true, decide_eq_true_eq] at hadmin
  exact hrole user hrow hadmin.2

/-- Other writes than of a role leave an account as it is in this respect. -/
theorem NoAdmins.updateUser {users : List ExpiredUser} {data : UserData} {r : Except Failure Unit}
    (hdata : data.role = none) (husers : NoAdmins users s)
    (hrun : Prog.exec handle (perform plan (.updateUser id data)) s = (r, t)) :
    NoAdmins users t := by
  intro userObj hmem user hrow
  have hstate : t = (handle ⟨.updateUser id data, plan (.updateUser id data)⟩ s).2 :=
    (congrArg Prod.snd ((Prog.exec_call _).symm.trans hrun)).symm
  rw [hstate, handle, faulty_state] at hrow
  split at hrow
  · rw [run_users] at hrow
    cases hwrite : Query.write s (.updateUser id data) with
    | none =>
      rw [hwrite] at hrow
      exact husers userObj hmem user hrow
    | some entry =>
      rw [hwrite, get?_writeRow] at hrow
      split at hrow
      · next hid =>
        obtain ⟨old, hold, hentry⟩ := Option.bind_eq_some_iff.mp hwrite
        split at hentry
        · cases hentry
          cases hrow
          rw [UserData.apply, hdata]
          exact husers userObj hmem old (hid ▸ hold)
        · cases hentry
      · exact husers userObj hmem user hrow
  · exact husers userObj hmem user hrow

/-- The expiry job, from where it has read the accounts: an induction on the accounts that are left.
An account that it deactivates keeps its role. -/
theorem deactivate_along {users : List ExpiredUser} (hs : s.Administered)
    (husers : NoAdmins users s) :
    Prog.Along handle SparesAdministrator (deactivate plan users) s := by
  induction users generalizing s with
  | nil => exact Prog.along_pure _
  | cons userObj rest ih =>
    have hrest : NoAdmins rest s := fun other hmem => husers other (List.mem_cons_of_mem _ hmem)
    rw [deactivate]
    split
    · exact ih hs hrest
    · have honly : Prog.Only (fun act => ∀ s, act.query.write s = none)
          (deauthorizeNetworks plan userObj.network) := deauthorizeNetworks_only _
      refine (honly.along (fun act s hread => spares_read (hread s)) _).bind
        fun _ t hdeauthorized => ?_
      have hsame : t.users = s.users := by
        have h := exec_users (s := s) honly
        rwa [hdeauthorized] at h
      have ht : t.Administered := by
        rw [Store.Administered, hsame]
        exact hs
      have hrole : NoAdmins (userObj :: rest) t := by
        rw [NoAdmins, hsame]
        exact husers
      have hspares : SparesAdministrator ⟨.updateUser userObj.id ⟨none, some false, none, none⟩,
          plan (.updateUser userObj.id ⟨none, some false, none, none⟩)⟩ t :=
        spares_other (others_of_role ht (hrole userObj (List.mem_cons_self ..)))
          (write_updateUser _)
      refine (along_perform hspares).bind fun _ u hwritten => ih ?_ ?_
      · have hu : u = _ := (congrArg Prod.snd ((Prog.exec_call _).symm.trans hwritten)).symm
        rw [hu]
        exact (handle_administered_iff _ t ht).mpr hspares
      · exact NoAdmins.updateUser rfl
          (fun other hmem => hrole other (List.mem_cons_of_mem _ hmem)) hwritten

/-- No account that the expiry job finds is one of an administrator. -/
theorem expired_noAdmins (p : User → Bool) : NoAdmins (s.expired p) s := by
  intro userObj hmem user hrow
  obtain ⟨entry, hentry, rfl⟩ := List.mem_map.mp hmem
  obtain ⟨hin, hfound⟩ := List.mem_filter.mp hentry
  cases hrow.symm.trans (Dict.get?_eq_some_iff.mpr hin)
  simp only [Bool.and_eq_true, Bool.not_eq_true', decide_eq_false_iff_not] at hfound
  exact hfound.2

theorem checkExpiredUsers_along (hs : s.Administered) :
    Prog.Along handle SparesAdministrator (checkAndDeactivateExpiredUsers plan) s := by
  refine along_readClock.bind fun now t hclock => ?_
  cases hclock
  refine (along_read rfl).bind fun expUsers t hfind => ?_
  cases exec_perform hfind
  refine along_readClock.bind fun now t hclock => ?_
  cases hclock
  refine (along_read rfl).bind fun usersInExpiredGroups t hfind => ?_
  cases exec_perform hfind
  refine deactivate_along hs fun userObj hmem => ?_
  rcases List.mem_append.mp hmem with hmem | hmem
  · exact expired_noAdmins _ userObj hmem
  · exact expired_noAdmins _ userObj hmem

/-- A new account and a promotion take no administrator away. -/
theorem spares_createUser {userGroupId : Option UserGroupId} {outcome : Outcome}
    (hs : s.Administered) : SparesAdministrator ⟨.createUser id userGroupId, outcome⟩ s := by
  by_cases hrefused :
      (s.users.contains id || userGroupId.any fun group => !s.userGroups.contains group) = true
  · exact spares_read (if_pos hrefused)
  · have hthere : ¬s.users.contains id = true := fun h => hrefused (by rw [h, Bool.true_or])
    have hothers : s.othersAdminister id = true :=
      others_of_role hs fun user hrow => absurd (Dict.contains_iff.mpr ⟨user, hrow⟩) hthere
    refine spares_other hothers fun entry hentry => ?_
    simp only [Query.write, if_neg hrefused] at hentry
    cases hentry
    rfl

theorem spares_promote {outcome : Outcome} (hs : s.Administered) :
    SparesAdministrator ⟨.promote id, outcome⟩ s := by
  intro _
  change s.spares ((s.users.get? id).map fun user => (id, some (promotion.apply user))) = true
  cases hrow : s.users.get? id with
  | none => rfl
  | some user =>
    obtain ⟨adminId, admin, hadminRow, hadmin⟩ := administered_iff.mp hs
    simp only [Store.spares, Option.map_some, Option.all_some, Option.any_some, Bool.or_eq_true]
    by_cases hsame : adminId = id
    · subst hsame
      cases hrow.symm.trans hadminRow
      simp only [User.isAdministrator, Bool.and_eq_true] at hadmin
      left
      simp [User.isAdministrator, UserData.apply, promotion, hadmin.1]
    · exact .inr (othersAdminister_iff.mpr ⟨adminId, admin, hadminRow, hsame, hadmin⟩)

theorem signUpOAuth_along (hs : s.Administered) :
    Prog.Along handle SparesAdministrator (signUpOAuth plan id) s := by
  refine (along_read rfl).bind fun defaultUserGroup t hfind => ?_
  cases exec_perform hfind
  refine (along_perform (spares_createUser hs)).bind fun _ t hcreated => ?_
  have ht : t.Administered := by
    have hstate : t = _ := (congrArg Prod.snd ((Prog.exec_call _).symm.trans hcreated)).symm
    rw [hstate]
    exact (handle_administered_iff _ s hs).mpr (spares_createUser hs)
  refine (along_read rfl).bind fun existingAdmin u hfind => ?_
  cases exec_perform hfind
  split
  · exact Prog.along_pure _
  · exact along_perform (spares_promote ht)

/-- **A request that is alone leaves an administrator**, and so do its writes on the way. -/
theorem program_along (op : Op) (hs : s.Administered) :
    Prog.Along handle SparesAdministrator op.program s := by
  obtain ⟨plan, request⟩ := op
  cases request with
  | updateUser callerId id isActive expiresAt => exact updateUser_along
  | deleteUser callerId id => exact deleteUser_along
  | changeRole callerId id role => exact changeRole_along
  | assignUserGroup callerId userid choice => exact assignUserGroup_along
  | checkExpiredUsers => exact checkExpiredUsers_along hs
  | signUpOAuth id => exact signUpOAuth_along hs
  | wait ms => exact Prog.along_call (spares_read rfl)

/-- **Requests one after the other leave an administrator**, whatever happens to their calls. -/
theorem alone_keeps (ops : List Op) (hs : s.Administered) :
    (ops.foldl (fun s op => (Prog.exec handle op.program s).2) s).Administered := by
  induction ops generalizing s with
  | nil => exact hs
  | cons op ops ih =>
    refine ih ((program_along op hs).exec_preserves (fun act t hspares ht => ?_) hs)
    exact (handle_administered_iff act t ht).mpr hspares

end

/-! ## 6. Requests that overlap -/

/-- The call promotes an account that OAuth has created. -/
def Query.promotes : Query → Bool
  | .promote _ => true
  | _ => false

/-- No account is promoted. -/
def NotPromoted (act : Act) (_ : Store) : Prop := act.query.promotes = false

instance (act : Act) (s : Store) : Decidable (NotPromoted act s) :=
  inferInstanceAs (Decidable (_ = _))

/-- An administrator stays, if there is one. -/
def StaysAdministered (s t : Store) : Prop := s.Administered → t.Administered

section

variable {s : Store} {plan : Plan} {callerId id : UserId}

theorem only_perform {query : Query} (h : query.promotes = false) :
    Prog.Only (fun act : Act => act.query.promotes = false) (perform plan query) := Prog.only_call h

theorem only_readClock : Prog.Only (fun act : Act => act.query.promotes = false) readClock :=
  Prog.only_call rfl

theorem requireAdmin_only :
    Prog.Only (fun act : Act => act.query.promotes = false) (requireAdmin plan callerId) := by
  refine (only_perform rfl).bind fun user => only_readClock.bind fun now => ?_
  cases user with
  | none => exact Prog.only_throw _
  | some user =>
    dsimp only
    split
    · exact Prog.only_throw _
    · split
      · exact Prog.only_throw _
      · exact Prog.only_pure _

theorem deactivate_only (users : List ExpiredUser) :
    Prog.Only (fun act : Act => act.query.promotes = false) (deactivate plan users) := by
  have hnetworks : ∀ networks, Prog.Only (fun act : Act => act.query.promotes = false)
      (deauthorizeNetworks plan networks) := by
    intro networks
    induction networks with
    | nil => exact Prog.only_pure _
    | cons nwid rest ih =>
      exact ((only_perform rfl).tryCatch fun _ => Prog.only_pure _).bind fun _ => ih
  induction users with
  | nil => exact Prog.only_pure _
  | cons userObj rest ih =>
    rw [deactivate]
    split
    · exact ih
    · exact (hnetworks _).bind fun _ => (only_perform rfl).bind fun _ => ih

/-- The requests of administrators read the account that they are about, and write behind it. -/
theorem target_only {f : User → Proc Unit} {code : Code} {message own : String}
    (hf : ∀ user, Prog.Only (fun act : Act => act.query.promotes = false) (f user)) :
    Prog.Only (fun act : Act => act.query.promotes = false) (do
      requireAdmin plan callerId
      if callerId = id then throwTRPC own .badRequest
      else
        let user ← perform plan (.findUser id)
        match user with
        | none => throwTRPC message code
        | some user => f user) := by
  refine requireAdmin_only.bind fun _ => ?_
  split
  · exact Prog.only_throw _
  · refine (only_perform rfl).bind fun user => ?_
    cases user with
    | none => exact Prog.only_throw _
    | some user => exact hf user

/-- No request but a sign-up promotes. -/
theorem program_only (op : Op) (h : ∀ id, op.request ≠ .signUpOAuth id) :
    Prog.Only (fun act : Act => act.query.promotes = false) op.program := by
  obtain ⟨plan, request⟩ := op
  cases request with
  | updateUser callerId id isActive expiresAt =>
    refine target_only fun user => ?_
    split
    · exact Prog.only_throw _
    · exact only_perform rfl
  | deleteUser callerId id =>
    refine target_only fun user => ?_
    split
    · exact Prog.only_throw _
    · refine (only_perform rfl).bind fun networks => ?_
      have honly : Prog.Only (fun act : Act => act.query.promotes = false)
        (deleteNetworks plan networks) := by
        induction networks with
        | nil => exact Prog.only_pure _
        | cons nwid rest ih => exact (only_perform rfl).bind fun _ => ih
      exact honly.bind fun _ => only_perform rfl
  | changeRole callerId id role =>
    refine requireAdmin_only.bind fun _ => ?_
    split
    · exact Prog.only_throw _
    · exact only_perform rfl
  | assignUserGroup callerId userid choice =>
    refine target_only fun user => ?_
    split
    · exact Prog.only_throw _
    · refine Prog.Only.tryCatch ?_ fun _ => Prog.only_throw _
      cases choice with
      | noGroup => exact only_perform rfl
      | invalid => exact Prog.only_throw _
      | group group =>
        refine (only_perform rfl).bind fun userGroup => ?_
        cases userGroup with
        | none => exact Prog.only_throw _
        | some expiresAt => exact only_perform rfl
  | checkExpiredUsers =>
    refine only_readClock.bind fun _ => (only_perform rfl).bind fun _ => ?_
    exact only_readClock.bind fun _ => (only_perform rfl).bind fun _ => deactivate_only _
  | signUpOAuth id => exact absurd rfl (h id)
  | wait ms => exact Prog.only_call rfl

/-- A call that spares the administrators leaves one, whoever makes it. -/
theorem handle_stays {act : Act} (h : SparesAdministrator act s) :
    StaysAdministered s (handle act s).2 := fun hs => (handle_administered_iff act s hs).mpr h

/-- A call that promotes nobody, and what follows it. -/
theorem steady_call_bind {query : Query} {f : query.Ans → Proc Unit}
    (hquery : query.promotes = false)
    (hf : ∀ a t, StaysAdministered s t →
      Prog.Steady handle StaysAdministered SparesAdministrator NotPromoted
        (fun _ _ => True) (f a) t) :
    Prog.Steady handle StaysAdministered SparesAdministrator NotPromoted (fun _ _ => True)
      (perform plan query >>= f) s := by
  refine Prog.Steady.bind (Prog.steady_call fun t ht hspares => ?_)
  have hstays := handle_stays hspares
  refine ⟨hquery, hstays, ?_⟩
  generalize handle ⟨query, plan query⟩ t = answered at hstays ⊢
  obtain ⟨r, u⟩ := answered
  cases r with
  | error e => trivial
  | ok a => exact hf a u fun h => hstays (ht h)

/-- **A sign-up promotes nobody where there is an administrator.** -/
theorem program_steady (op : Op) (hs : s.Administered) :
    Prog.Steady handle StaysAdministered SparesAdministrator NotPromoted
      (fun _ _ => True) op.program s := by
  by_cases hsign : ∃ id, op.request = .signUpOAuth id
  · obtain ⟨plan, request⟩ := op
    obtain ⟨id, rfl⟩ := hsign
    refine steady_call_bind rfl fun defaultUserGroup t hgroup => ?_
    refine steady_call_bind rfl fun _ u hcreated => ?_
    refine Prog.Steady.bind (Prog.steady_call fun v hv hread => ⟨rfl, handle_stays hread, ?_⟩)
    generalize hfind : handle ⟨.findAdmin, _⟩ v = found
    obtain ⟨r, v'⟩ := found
    cases r with
    | error e => trivial
    | ok existingAdmin =>
      cases (faulty_ok hfind).2
      -- the administrator is found
      obtain ⟨adminId, admin, hrow, hadmin⟩ := administered_iff.mp (hv (hcreated (hgroup hs)))
      have hexists : (v.users.entries.any fun entry => entry.2.role = .admin) = true := by
        simp only [User.isAdministrator, Bool.and_eq_true] at hadmin
        exact List.any_eq_true.mpr ⟨_, Dict.get?_eq_some_iff.mp hrow, hadmin.2⟩
      dsimp only
      rw [if_pos hexists]
      trivial
  · have honly := program_only op fun id hid => hsign ⟨id, hid⟩
    exact (honly.steady (R := StaysAdministered) (fun _ h => h) (fun _ _ _ h₁ h₂ h => h₂ (h₁ h))
      fun act t hact hspares => ⟨hact, handle_stays hspares⟩).mono fun _ _ _ => trivial

end

/-- **An administrator remains, exactly.**  From a state with an administrator, there is one in
every state of a run and no account is promoted, if and only if each write of an account leaves one:
whenever the write deletes the row, or leaves it inactive or with another role than `ADMIN`, there
is an administrator besides it in that state. -/
theorem administrator_kept_iff (store : Store) (hstore : store.Administered)
    (events : List (PoolEvent Op)) :
    ((∀ es, es <+: events → ∀ w, adminMachine.run ⟨store, []⟩ es = some w → w.state.Administered) ∧
        ∀ es event, es ++ [event] <+: events → ∀ w, adminMachine.run ⟨store, []⟩ es = some w →
          w.meets NotPromoted event) ↔
      adminMachine.Conforms (PoolState.meets SparesAdministrator) ⟨store, []⟩ events := by
  have hkept : (∀ es, es <+: events → ∀ w, adminMachine.run ⟨store, []⟩ es = some w →
      w.state.Administered) ↔
      adminMachine.Conforms (PoolState.meets SparesAdministrator) ⟨store, []⟩ events :=
    pool_invariant_iff handle_administered_iff hstore events
  refine ⟨fun h => hkept.mp h.1, fun h => ⟨hkept.mpr h, fun es event hbegins w hrun act hact => ?_⟩⟩
  have hmeets : w.meets SparesAdministrator event := h.meets hbegins hrun
  obtain ⟨rest, rfl⟩ := hbegins
  obtain ⟨hw, hsteady⟩ := pool_steady (R := StaysAdministered) (I := Store.Administered)
    (fun _ h => h)
    (fun _ _ _ h₁ h₂ h => h₂ (h₁ h)) (fun _ _ h hstays => hstays h)
    (fun op s => program_steady op) hstore
    (fun _ hmem => absurd hmem List.not_mem_nil)
    (Machine.conforms_append.mp (Machine.conforms_append.mp h).1).1 hrun
  cases event with
  | start op => cases hact
  | step i =>
    obtain ⟨p, hp, -⟩ := Option.bind_eq_some_iff.mp hact
    exact pool_performs (fun _ h => h) hp (hsteady p (List.mem_of_getElem? hp)) hact
      (hmeets act hact)

/-- User 1 is the administrator, and user 2 has an account. -/
def exampleStore : Store where
  now := 0
  users := (Dict.empty.set 1 ⟨.admin, true, none, none⟩).set 2 ⟨.user, true, none, none⟩
  userGroups := Dict.empty
  defaultUserGroup := none
  networks := Dict.empty

/-- A request whose calls go through. -/
def plain (request : Request) : PoolEvent Op := .start ⟨fun _ => .done, request⟩

/-- User 1 makes user 2 an administrator, who takes the role from user 1; what user 1 asks for
afterwards is refused. -/
def handedOver : List (PoolEvent Op) :=
  plain (.changeRole 1 2 .admin) :: List.replicate 3 (.step 0) ++
    plain (.changeRole 2 1 .user) :: List.replicate 3 (.step 1) ++
      plain (.changeRole 1 2 .user) :: List.replicate 2 (.step 2) ++
        plain (.signUpOAuth 3) :: List.replicate 3 (.step 3)

/-- An administrator remains, and the new account is a user's. -/
theorem administrator_kept_handed :
    ∃ w, adminMachine.run ⟨exampleStore, []⟩ handedOver = some w ∧ w.finished ∧
      (w.state.users.get? 3).map User.role = some .user ∧ w.state.Administered := by
  refine Machine.exists_run
    (P := fun w => w.finished ∧ (w.state.users.get? 3).map User.role = some .user)
    (by decide +kernel)
    fun w hw h => ⟨h.1, h.2, ?_⟩
  exact ((administrator_kept_iff exampleStore (by decide) handedOver).mpr (by decide +kernel)).1 _
    (List.prefix_refl _) w hw

/-- Two administrators take the role from each other at once. -/
def mutualDemotion : List (PoolEvent Op) :=
  plain (.changeRole 1 2 .admin) :: List.replicate 3 (.step 0) ++
    plain (.changeRole 1 2 .user) :: plain (.changeRole 2 1 .user) ::
      [1, 2, 1, 2, 1, 2].map PoolEvent.step

/-- User 2 is about to be deleted, becomes the only administrator, and is deleted. -/
def deletedAtLast : List (PoolEvent Op) :=
  plain (.deleteUser 1 2) :: List.replicate 4 (.step 0) ++
    plain (.changeRole 1 2 .admin) :: List.replicate 3 (.step 1) ++
      plain (.changeRole 2 1 .user) :: List.replicate 3 (.step 2) ++ [.step 0]

/-- An account signs up by OAuth, and comes to its promotion. -/
def signUp : List (PoolEvent Op) := plain (.signUpOAuth 4) :: List.replicate 3 (.step 3)

/-- **No administrator is left**, and the next account that signs up by OAuth is promoted. -/
theorem administrator_lost :
    exampleStore.Administered ∧
      (∃ w, adminMachine.run ⟨exampleStore, []⟩ mutualDemotion = some w ∧ w.finished ∧
        ¬ w.state.Administered) ∧
      (∃ w, adminMachine.run ⟨exampleStore, []⟩ deletedAtLast = some w ∧ w.finished ∧
        ¬ w.state.Administered) ∧
      ∃ w, adminMachine.run ⟨exampleStore, []⟩ (mutualDemotion ++ signUp) = some w ∧
        w.performs (.step 3 : PoolEvent Op) = some ⟨.promote 4, .done⟩ := by
  refine ⟨by decide, ?_, ?_, ?_⟩
  · exact Machine.exists_run (by decide +kernel) fun w _ h => h
  · exact Machine.exists_run (by decide +kernel) fun w _ h => h
  · exact Machine.exists_run (by decide +kernel) fun w _ h => h

end ZtPlanet.Ztnet.Administrators
