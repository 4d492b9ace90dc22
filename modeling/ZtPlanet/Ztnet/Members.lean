/-
# The members of a network, on the controller and in the database

A member of a network lives in two places.  The controller decides what it may do and counts the
changes in a revision.  The database has a row with a copy of that, with a name and a description
of its own, and with two flags that hide the member.  The procedures of `memberRouter` and the REST
routes change both, one after the other; `reconcileNetworkMembers` copies from the controller to
the database.

This module is one network of the installation's own controller (the branches for the central API
keep no rows and are left out).  Every call of the database or the controller is one atomic step,
a transaction is one too, and a call can fail: before it has done anything, or with its answer lost
behind it.  What a procedure asks of parties that hold nothing of this network's members (access
checks, options, names in other networks, webhooks) is a consultation with an arbitrary answer.
The details of a batch, which are fetched at the same time, are fetched in the order of their ids.
-/
import ZtPlanet.Js.Text
import ZtPlanet.Ztnet.MemberUpdate
import ZtPlanet.Lib.Interleave
import ZtPlanet.Lib.Crash

namespace ZtPlanet.Ztnet.Members

open ZtPlanet.Lib

/-! ## 1. What is stored -/

/-- The configuration of a member, of which the database keeps a copy. -/
structure Config where
  authorized : Bool
  ipAssignments : List String
  noAutoAssignIps : Bool
  activeBridge : Bool
deriving DecidableEq

/-- `MemberEntity`, as the controller answers it; `rest` is what ZTNET only passes on. -/
structure Detail where
  config : Config
  name : Option String
  address : Option String
  vMajor : Option Int
  revision : Nat
  rest : String
deriving DecidableEq

/-- `network_members`, without the columns of the live status. -/
structure Row extends MemberRow where
  nodeid : Nat
  permanentlyDeleted : Option Bool
  address : Option String
  revision : Option Nat
  vMajor : Option Int
  controllerConfig : Option Detail
deriving DecidableEq

/-- `!!row.deleted`. -/
def Row.isDeleted (row : Row) : Bool := row.deleted == some true

/-- `!!row.permanentlyDeleted`. -/
def Row.isPermanentlyDeleted (row : Row) : Bool := row.permanentlyDeleted == some true

/-- The copy of the configuration. -/
def Row.config (row : Row) : Config :=
  ⟨row.authorized == some true, row.ipAssignments, row.noAutoAssignIps, row.activeBridge⟩

/-- The row with another version. -/
def Row.withVersion (row : Row) (vMajor : Option Int) : Row := { row with vMajor := vMajor }

/-- `NotificationEventType`, as far as members have to do with it. -/
inductive EventType where
  | nodeAdded
  | nodeRemoved
  | nodeAuthorized
  | nodeDeauthorized
  | nodeConfigChanged
deriving DecidableEq

/-- What an event key begins with. -/
inductive KeyPrefix where
  | event (type : EventType)
  /-- `node.restore` -/
  | nodeRestore
deriving DecidableEq

/-- `` `${prefix}:${nwid}:${id}:${number}` ``. -/
structure EventKey where
  start : KeyPrefix
  id : MemberId
  number : Nat
deriving DecidableEq

/-- `notificationDelivery`, without its texts. -/
structure Delivery where
  eventType : EventType
  eventKey : EventKey
deriving DecidableEq

/-- The controller, the tables, and the time, which is the number of steps taken so far. -/
structure Store where
  controller : Dict MemberId Detail
  rows : Dict MemberId Row
  /-- the next `nodeid` -/
  nextNodeid : Nat
  deliveries : List Delivery
  clock : Nat
deriving DecidableEq

/-- `permanentlyDeleted` implies `deleted`. -/
def Store.FlagsAgree (s : Store) : Prop :=
  ∀ id row, s.rows.get? id = some row → row.isPermanentlyDeleted = true → row.isDeleted = true

instance (s : Store) : Decidable s.FlagsAgree :=
  decidable_of_iff (∀ entry ∈ s.rows.entries, entry.2.isPermanentlyDeleted = true →
      entry.2.isDeleted = true)
    ⟨fun h id row hrow => h (id, row) (Dict.get?_eq_some_iff.mp hrow),
      fun h entry hentry => h entry.1 entry.2 (Dict.get?_eq_some_iff.mpr hentry)⟩

/-- What the controller is sent about a member. -/
structure Payload extends UpdateParams where
  hidden : Option Bool
  ssoExempt : Option Bool

/-- What the installation brings along. -/
structure Site where
  /-- what an update makes of a member that the controller may not have yet -/
  update : Option Detail → Payload → Detail
  /-- `messagePusherEnabled`, and the template of the event type is enabled -/
  notifies : EventType → Bool

/-! ## 2. Names -/

/-- `!name?.trim()`. -/
def isBlank (name : Option String) : Bool :=
  name.all fun name => name.toList.all fun c => Js.isWhiteSpace c.toNat

/-- A name that is truthy. -/
def truthy (name : Option String) : Option String := name.filter fun name => name ≠ ""

/-! ## 3. The calls of the database and of the controller -/

/-- What `reconcileNetworkMembers` writes about a member; a name that is `none` stays as it is. -/
structure Observed where
  config : Config
  address : String
  revision : Option Nat
  vMajor : Int
  controllerConfig : Detail
  name : Option String
deriving DecidableEq

/-- The calls that a procedure makes about the members of the network. -/
inductive Query where
  /-- `ztController.network_members`; the answer comes with the time at which it was given, which
  no procedure looks at -/
  | networkMembers
  | memberDetails (id : MemberId)
  | memberUpdate (id : MemberId) (payload : Payload)
  | memberDelete (id : MemberId)
  /-- somebody else changes the controller -/
  | changeController (controller : Dict MemberId Detail)
  /-- `findMany({ where: { nwid } })` -/
  | findMembers
  /-- `findMany({ where: { nwid, id: { in: ids }, deleted: false } })` -/
  | findActive (ids : List MemberId)
  /-- `findMany({ where: { nwid, deleted: true } })`, the ids -/
  | findStashed
  | findMember (id : MemberId)
  /-- the transaction of `addNetworkMember` -/
  | addMember (id : MemberId) (name : Option String)
  /-- the transaction of `reconcileNetworkMembers` for a detail, with the row as it was read and the
  revision of the list; `readAt` is the time at which the controller was read -/
  | persistDetail (id : MemberId) (db : Option Row) (detail : Detail) (revision : Option Nat)
      (readAt : Nat)
  /-- the drift cleanup, with the `nodeid` of each row as it was read; `readAt` is the time at
  which the controller was read -/
  | removeOrphans (orphans : List (MemberId × Nat)) (readAt : Nat)
  | writeVersion (id : MemberId) (vMajor : Int)
  /-- the transaction of `create` for a member with a row, with the revision of the answer where the
  row was hidden -/
  | restoreMember (id : MemberId) (name : Option String) (revision : Option Nat)
  /-- the transaction of `create` for a new member -/
  | createMember (id : MemberId) (name : Option String) (authorized : Bool)
      (ipAssignments : List String)
  /-- the transaction of `Update`, with the row as it was read and the revision of the answer -/
  | updateMember (id : MemberId) (dbMember : Row) (data : MemberData) (revision : Nat)
  /-- `network.update` of `UpdateDatabaseOnly` -/
  | updateFlags (id : MemberId) (deleted : Option Bool) (description : Option String)
  /-- `updateMany` of `stash` -/
  | markDeleted (id : MemberId)
  | markPermanentlyDeleted (id : MemberId)
  /-- the transaction of `delete`, with the `nodeid` of the row where there was one -/
  | deleteMember (id : MemberId) (nodeid : Option Nat)
  /-- `updateMany` of `bulkDeleteStashed` -/
  | deleteStashed (ids : List MemberId)
  /-- `network.update` of the REST routes -/
  | writeThrough (id : MemberId) (data : MemberData) (restore : Bool)
  /-- `network_members.create` of the REST route of an organization -/
  | createRow (id : MemberId) (data : MemberData)
  /-- `cacheControllerMember` -/
  | cacheMember (id : MemberId) (detail : Detail)
  /-- `updateMany({ where: { id, nwid, deleted: false } })` of an update in another network -/
  | renameActive (id : MemberId) (data : MemberData)

/-- What a call returns. -/
@[reducible] def Query.Ans : Query → Type
  | .networkMembers => Nat × Dict MemberId Nat
  | .memberDetails _ | .memberUpdate _ _ => Detail
  | .findMembers | .findActive _ => Dict MemberId Row
  | .findStashed => List MemberId
  | .findMember _ => Option Row
  | _ => Unit

/-- `enqueueNotification`, which skips duplicates. -/
def Store.enqueue (s : Store) (site : Site) (delivery : Delivery) : Store :=
  if site.notifies delivery.eventType ∧
      delivery.eventKey ∉ s.deliveries.map Delivery.eventKey then
    { s with deliveries := s.deliveries ++ [delivery] }
  else s

/-- `node.added` of a row. -/
def nodeAdded (id : MemberId) (nodeid : Nat) : Delivery :=
  ⟨.nodeAdded, ⟨.event .nodeAdded, id, nodeid⟩⟩

/-- `node.removed` of a row. -/
def nodeRemoved (id : MemberId) (nodeid : Nat) : Delivery :=
  ⟨.nodeRemoved, ⟨.event .nodeRemoved, id, nodeid⟩⟩

/-- `node.added` of a row that was hidden. -/
def nodeRestored (id : MemberId) (revision : Nat) : Delivery :=
  ⟨.nodeAdded, ⟨.nodeRestore, id, revision⟩⟩

/-- An event about a revision. -/
def changeEvent (type : EventType) (id : MemberId) (revision : Nat) : Delivery :=
  ⟨type, ⟨.event type, id, revision⟩⟩

/-- `updateMany` on the row of a member. -/
def Store.modify (s : Store) (id : MemberId) (f : Row → Row) : Store :=
  match s.rows.get? id with
  | some row => { s with rows := s.rows.set id (f row) }
  | none => s

/-- A new row, with the defaults of the schema. -/
def newRow (nodeid : Nat) (name address : Option String) : Row where
  name := name
  description := none
  authorized := some false
  deleted := some false
  ipAssignments := []
  noAutoAssignIps := false
  activeBridge := false
  nodeid := nodeid
  permanentlyDeleted := some false
  address := address
  revision := none
  vMajor := none
  controllerConfig := none

/-- Insert a row. -/
def Store.insert (s : Store) (id : MemberId) (row : Row) : Store :=
  { s with rows := s.rows.set id row, nextNodeid := s.nextNodeid + 1 }

/-- Write `data` into a row. -/
def writeData (data : MemberData) (row : Row) : Row :=
  { row with toMemberRow := data.apply row.toMemberRow }

def Observed.write (data : Observed) (row : Row) : Row :=
  { row with
    authorized := some data.config.authorized
    ipAssignments := data.config.ipAssignments
    noAutoAssignIps := data.config.noAutoAssignIps
    activeBridge := data.config.activeBridge
    address := some data.address
    revision := data.revision
    vMajor := some data.vMajor
    controllerConfig := some data.controllerConfig
    name := data.name <|> row.name }

/-- `controllerCacheFields`. -/
def cacheFields (detail : Detail) (row : Row) : Row :=
  { row with vMajor := some (detail.vMajor.getD (-1)), controllerConfig := some detail }

/-- The row without its flags, with the name that `create` gives it. -/
def restored (name : Option String) (row : Row) : Row :=
  { row with
    deleted := some false
    permanentlyDeleted := some false
    name := name }

/-- The data of `UpdateDatabaseOnly`. -/
def writeFlags (deleted : Option Bool) (description : Option String) (row : Row) : Row :=
  { row with
    deleted := deleted <|> row.deleted
    description := description <|> row.description }

/-- The data of a REST request. -/
def writeRest (data : MemberData) (restore : Bool) (row : Row) : Row :=
  if restore then
    { writeData data row with
      deleted := some false
      permanentlyDeleted := some false }
  else writeData data row

/-- The name that an update in another network brings, for a row that is not deleted. -/
def writeActive (data : MemberData) (row : Row) : Row :=
  if row.deleted = some false then writeData data row else row

/-- The row that `create` inserts. -/
def createdRow (nodeid : Nat) (id : MemberId) (name : Option String)
    (authorized : Bool) (ipAssignments : List String) : Row :=
  { newRow nodeid name (some id) with
    authorized := some authorized
    ipAssignments := ipAssignments }

/-- The row that the REST route of an organization inserts. -/
def requestedRow (nodeid : Nat) (id : MemberId) (data : MemberData) : Row :=
  writeData { data with name := truthy data.name, description := none }
    (newRow nodeid none (some id))

/-- The row, if it is stashed and among those to delete. -/
def deleteIfStashed (ids : List MemberId) (id : MemberId) (row : Row) : Row :=
  if ids.contains id && row.isDeleted then { row with permanentlyDeleted := some true } else row

/-- Prisma's answer where a row with the key is there already. -/
def uniqueFailure : Failure := .error "Unique constraint failed"

/-- The controller's answer for a member it does not have. -/
def memberNotFound : Failure := .error "Request failed with status code 404"

/-- `JSON.stringify(dbMember[key]) !== JSON.stringify(stored[key])` for some key of `data`. -/
def dataDiffers (data : MemberData) (dbMember stored : Row) : Bool :=
  (data.name.isSome && dbMember.name != stored.name) ||
    (data.authorized.isSome && dbMember.authorized != stored.authorized) ||
    (data.description.isSome && dbMember.description != stored.description) ||
    (data.ipAssignments.isSome && dbMember.ipAssignments != stored.ipAssignments) ||
    (data.noAutoAssignIps.isSome && dbMember.noAutoAssignIps != stored.noAutoAssignIps) ||
    (data.activeBridge.isSome && dbMember.activeBridge != stored.activeBridge)

/-- The type of the event of `Update`. -/
def updateEventType (data : MemberData) (dbMember stored : Row) : Option EventType :=
  if dbMember.config.authorized ≠ stored.config.authorized then
    some (if stored.config.authorized then .nodeAuthorized else .nodeDeauthorized)
  else if dataDiffers data dbMember stored then some .nodeConfigChanged
  else none

/-- What is written about a member, where `db` is its row as it was read. -/
def observed (db : Option Row) (id : MemberId) (detail : Detail)
    (revision : Option Nat) : Observed where
  config := detail.config
  address := detail.address.getD id
  revision := revision
  vMajor := detail.vMajor.getD (-1)
  controllerConfig := detail
  name := if isBlank (db.bind fun db => db.name) then detail.name.filter fun name => !isBlank name
    else none

/-- A row that the loop has written holds the controller's configuration. -/
theorem observed_write (db : Option Row) (id : MemberId) (detail : Detail) (revision : Option Nat)
    (row : Row) : ((observed db id detail revision).write row).config = detail.config ∧
      ((observed db id detail revision).write row).revision = revision := by
  refine ⟨?_, rfl⟩
  obtain ⟨config, _⟩ := detail
  obtain ⟨authorized, _⟩ := config
  cases authorized with
  | true => rfl
  | false => rfl

/-- The event for a member whose row had a copy of the controller's object. -/
def observedEventType (db : Option Row) (detail : Detail) : Option EventType :=
  match db with
  | some db =>
    if db.controllerConfig.isNone then none
    else if db.config.authorized ≠ detail.config.authorized then
      some (if detail.config.authorized then .nodeAuthorized else .nodeDeauthorized)
    else if db.config ≠ detail.config then some .nodeConfigChanged
    else none
  | none => none

/-- The event that the transaction enqueues. -/
def observedEvent (db : Option Row) (id : MemberId) (detail : Detail) (revision : Option Nat) :
    Option Delivery :=
  (observedEventType db detail).map fun type => changeEvent type id (revision.getD 0)

/-- Enqueue an event, if there is one. -/
def Store.enqueueSome (s : Store) (site : Site) (event : Option Delivery) : Store :=
  match event with
  | some delivery => s.enqueue site delivery
  | none => s

/-- The transaction of `addNetworkMember`: an `upsert` that changes nothing where there is a row,
and `node.added` where there was none. -/
def Store.addMember (s : Store) (site : Site) (id : MemberId) (name : Option String) : Store :=
  match s.rows.get? id with
  | some _ => s
  | none =>
    (s.insert id (newRow s.nextNodeid name (some ""))).enqueue site (nodeAdded id s.nextNodeid)

/-- The drift cleanup: an event for each orphan, then `deleteMany`. -/
def Store.removeOrphans (s : Store) (site : Site) (orphans : List (MemberId × Nat)) : Store :=
  let t := orphans.foldl (fun t orphan => t.enqueue site (nodeRemoved orphan.1 orphan.2)) s
  { t with rows := t.rows.filter fun id _ => !(orphans.map Prod.fst).contains id }

/-- The transaction of `create` for a member with a row. -/
def Store.restoreMember (s : Store) (site : Site) (id : MemberId) (name : Option String)
    (revision : Option Nat) : Except Failure Unit × Store :=
  match s.rows.get? id with
  | some row =>
    (.ok (), { s with rows := s.rows.set id (restored name row) }.enqueueSome site
      (revision.map (nodeRestored id)))
  | none => (.error missingRecord, s)

/-- The transaction of `create` for a new member. -/
def Store.createMember (s : Store) (site : Site) (id : MemberId) (name : Option String)
    (authorized : Bool) (ipAssignments : List String) : Except Failure Unit × Store :=
  match s.rows.get? id with
  | some _ => (.error uniqueFailure, s)
  | none =>
    let row := createdRow s.nextNodeid id name authorized ipAssignments
    (.ok (), (s.insert id row).enqueue site (nodeAdded id s.nextNodeid))

/-- The transaction of `Update`. -/
def Store.updateMember (s : Store) (site : Site) (id : MemberId) (dbMember : Row)
    (data : MemberData) (revision : Nat) : Except Failure Unit × Store :=
  match s.rows.get? id with
  | some row =>
    let stored := writeData data row
    (.ok (), { s with rows := s.rows.set id stored }.enqueueSome site
      ((updateEventType data dbMember stored).map fun type => changeEvent type id revision))
  | none => (.error missingRecord, s)

/-- `network.update` with `networkMembers: { update }`. -/
def Store.updateRow (s : Store) (id : MemberId) (f : Row → Row) : Except Failure Unit × Store :=
  match s.rows.get? id with
  | some row => (.ok (), { s with rows := s.rows.set id (f row) })
  | none => (.error missingRecord, s)

/-- The transaction of `delete`. -/
def Store.deleteMember (s : Store) (site : Site) (id : MemberId) (nodeid : Option Nat) :
    Except Failure Unit × Store :=
  match s.rows.get? id with
  | some _ =>
    let t := s.enqueueSome site (nodeid.map fun nodeid => nodeRemoved id nodeid)
    (.ok (), { t with rows := t.rows.erase id })
  | none => (.error missingRecord, s)

/-- `updateMany` of `bulkDeleteStashed`. -/
def Store.deleteStashed (s : Store) (ids : List MemberId) : Store :=
  { s with rows := s.rows.map (deleteIfStashed ids) }

/-- `network_members.create` of the REST route of an organization. -/
def Store.createRow (s : Store) (id : MemberId) (data : MemberData) :
    Except Failure Unit × Store :=
  match s.rows.get? id with
  | some _ => (.error uniqueFailure, s)
  | none => (.ok (), s.insert id (requestedRow s.nextNodeid id data))

/-- What each call returns and does. -/
def Query.run (site : Site) : (q : Query) → Store → Except Failure q.Ans × Store
  | .networkMembers, s => (.ok (s.clock, s.controller.mapValues Detail.revision), s)
  | .memberDetails id, s =>
    match s.controller.get? id with
    | some detail => (.ok detail, s)
    | none => (.error memberNotFound, s)
  | .memberUpdate id payload, s =>
    let detail := site.update (s.controller.get? id) payload
    (.ok detail, { s with controller := s.controller.set id detail })
  | .memberDelete id, s => (.ok (), { s with controller := s.controller.erase id })
  | .changeController controller, s => (.ok (), { s with controller := controller })
  | .findMembers, s => (.ok s.rows, s)
  | .findActive ids, s =>
    (.ok (s.rows.filter fun id row => ids.contains id && row.deleted == some false), s)
  | .findStashed, s => (.ok (s.rows.filter fun _ row => row.isDeleted).keys, s)
  | .findMember id, s => (.ok (s.rows.get? id), s)
  | .addMember id name, s => (.ok (), s.addMember site id name)
  | .persistDetail id db detail revision _, s =>
    (.ok (), (s.modify id (observed db id detail revision).write).enqueueSome site
      (observedEvent db id detail revision))
  | .removeOrphans orphans _, s => (.ok (), s.removeOrphans site orphans)
  | .writeVersion id vMajor, s =>
    (.ok (), s.modify id fun row => row.withVersion (some vMajor))
  | .restoreMember id name revision, s => s.restoreMember site id name revision
  | .createMember id name authorized ipAssignments, s =>
    s.createMember site id name authorized ipAssignments
  | .updateMember id dbMember data revision, s => s.updateMember site id dbMember data revision
  | .updateFlags id deleted description, s => s.updateRow id (writeFlags deleted description)
  | .markDeleted id, s => (.ok (), s.modify id fun row => { row with deleted := some true })
  | .markPermanentlyDeleted id, s =>
    s.updateRow id fun row => { row with permanentlyDeleted := some true }
  | .deleteMember id nodeid, s => s.deleteMember site id nodeid
  | .deleteStashed ids, s => (.ok (), s.deleteStashed ids)
  | .writeThrough id data restore, s => s.updateRow id (writeRest data restore)
  | .createRow id data, s => s.createRow id data
  | .cacheMember id detail, s => (.ok (), s.modify id (cacheFields detail))
  | .renameActive id data, s => (.ok (), s.modify id (writeActive data))

section Frames

variable (s : Store) (site : Site) (id j : MemberId)

@[simp] theorem Store.enqueue_controller (delivery : Delivery) :
    (s.enqueue site delivery).controller = s.controller := by
  unfold Store.enqueue
  split <;> rfl

@[simp] theorem Store.enqueue_rows (delivery : Delivery) :
    (s.enqueue site delivery).rows = s.rows := by
  unfold Store.enqueue
  split <;> rfl

@[simp] theorem Store.enqueueSome_controller (event : Option Delivery) :
    (s.enqueueSome site event).controller = s.controller := by
  cases event with
  | none => rfl
  | some delivery => exact s.enqueue_controller site delivery

@[simp] theorem Store.enqueueSome_rows (event : Option Delivery) :
    (s.enqueueSome site event).rows = s.rows := by
  cases event with
  | none => rfl
  | some delivery => exact s.enqueue_rows site delivery

@[simp] theorem Store.modify_controller (f : Row → Row) :
    (s.modify id f).controller = s.controller := by
  unfold Store.modify
  split <;> rfl

theorem Store.get?_modify (f : Row → Row) :
    (s.modify id f).rows.get? j =
      if id = j then (s.rows.get? j).map f else s.rows.get? j := by
  unfold Store.modify
  by_cases hj : id = j
  · subst hj
    rw [if_pos rfl]
    cases hrow : s.rows.get? id with
    | some row => exact Dict.get?_set_self s.rows id (f row)
    | none => exact hrow
  · rw [if_neg hj]
    cases s.rows.get? id with
    | some row => exact Dict.get?_set_ne s.rows hj (f row)
    | none => rfl

@[simp] theorem Store.addMember_controller (name : Option String) :
    (s.addMember site id name).controller = s.controller := by
  unfold Store.addMember
  cases s.rows.get? id with
  | some row => rfl
  | none => exact Store.enqueue_controller _ _ _

/-- A member without a row gets one, and nothing else changes. -/
theorem Store.addMember_rows (name : Option String) :
    (s.addMember site id name).rows =
      if (s.rows.get? id).isSome then s.rows
      else s.rows.set id (newRow s.nextNodeid name (some "")) := by
  unfold Store.addMember
  cases s.rows.get? id with
  | some row => rfl
  | none => exact Store.enqueue_rows _ _ _

theorem Store.foldl_enqueue_frame (orphans : List (MemberId × Nat)) :
    (orphans.foldl (fun t orphan => t.enqueue site (nodeRemoved orphan.1 orphan.2)) s).controller =
        s.controller ∧
      (orphans.foldl (fun t orphan => t.enqueue site (nodeRemoved orphan.1 orphan.2)) s).rows =
        s.rows := by
  induction orphans generalizing s with
  | nil => exact ⟨rfl, rfl⟩
  | cons orphan orphans ih =>
    obtain ⟨hcontroller, hrows⟩ := ih (s.enqueue site (nodeRemoved orphan.1 orphan.2))
    exact ⟨hcontroller.trans (s.enqueue_controller _ _), hrows.trans (s.enqueue_rows _ _)⟩

@[simp] theorem Store.removeOrphans_controller (orphans : List (MemberId × Nat)) :
    (s.removeOrphans site orphans).controller = s.controller :=
  (s.foldl_enqueue_frame site orphans).1

/-- The rows of the orphans are gone, and no other. -/
theorem Store.removeOrphans_rows (orphans : List (MemberId × Nat)) :
    (s.removeOrphans site orphans).rows =
      s.rows.filter fun id _ => !(orphans.map Prod.fst).contains id := by
  unfold Store.removeOrphans
  dsimp only
  rw [(s.foldl_enqueue_frame site orphans).2]

end Frames

/-! ## 4. Steps -/

/-- How a call ends. -/
inductive Outcome where
  | done
  /-- it fails and has done nothing -/
  | failsBefore
  /-- it has been carried out, and its answer is lost -/
  | failsAfter
deriving DecidableEq

/-- A call with its end. -/
structure Act where
  query : Query
  outcome : Outcome

@[reducible] def Act.Ans (act : Act) : Type := act.query.Ans

/-- A call whose answer does not arrive. -/
def unavailable : Failure := .error "Request failed"

/-- What a step does. -/
def handle (site : Site) : Prog.Handler Act Act.Ans Failure Store
  | ⟨query, outcome⟩, s =>
    match outcome with
    | .done => ((query.run site s).1, { (query.run site s).2 with clock := s.clock + 1 })
    | .failsBefore => (.error unavailable, { s with clock := s.clock + 1 })
    | .failsAfter => (.error unavailable, { (query.run site s).2 with clock := s.clock + 1 })

/-! ## 5. Procedures -/

/-- A procedure over the members of the network. -/
abbrev Proc (α : Type) : Type := Prog Act Act.Ans Failure α

/-- The procedures that check access and write to the activity log. -/
inductive Endpoint where
  | create
  | update
  | updateDatabaseOnly
  | stash
  | delete
  | bulkDeleteStashed
  | restPost
  | restDelete
deriving DecidableEq

/-- The options of a user. -/
structure UserOptions where
  addMemberIdAsName : Bool
  renameNodeGlobally : Bool

/-- What `addNetworkMember` reads about the user and the network. -/
structure Naming where
  user : UserOptions
  /-- `settings.renameNodeGlobally`, where the network belongs to an organization -/
  organization : Option Bool

/-- What a procedure asks of other parties. -/
inductive Consultation where
  /-- access, and an entry in the activity log -/
  | checkNetworkAccess (endpoint : Endpoint)
  | createActivityLog (endpoint : Endpoint)
  | findUserOptions
  /-- `organizationSettings.renameNodeGlobally` -/
  | findOrganizationOptions
  /-- the name of the member in another network -/
  | findNameElsewhere (id : MemberId)
  /-- what `addNetworkMember` reads at first -/
  | findNaming (id : MemberId)
  /-- what `Update` does to other networks -/
  | renameElsewhere (id : MemberId)
  /-- `isValidIP` for each assignment -/
  | validateIps (ips : Option (List String))
  /-- webhooks and notifications of administrators -/
  | announce (endpoint : Endpoint)
  /-- the network of a REST request -/
  | findNetwork
  /-- `readLiveObservation`, the versions of the members that are online -/
  | readLiveObservation

@[reducible] def Consultation.Ans : Consultation → Type
  | .findUserOptions => UserOptions
  | .findOrganizationOptions => Bool
  | .findNameElsewhere _ => Option String
  | .findNaming _ => Naming
  | .findNetwork => Bool
  | .readLiveObservation => MemberId → Option Int
  | _ => Unit

/-- What happens to one call of a procedure from outside. -/
structure Plan where
  answer : (consultation : Consultation) → Except Failure consultation.Ans
  outcome : Query → Outcome

def consult (plan : Plan) (consultation : Consultation) : Proc consultation.Ans :=
  Prog.ofExcept (plan.answer consultation)

def perform (plan : Plan) (query : Query) : Proc query.Ans :=
  Prog.call (⟨query, plan.outcome query⟩ : Act)

/-- A step that is taken only where `condition` holds. -/
def onlyIf (condition : Bool) (p : Proc Unit) : Proc Unit := if condition then p else pure ()

/-- `try { … } catch (error) { console.error(error) }`. -/
def attempt (p : Proc Unit) : Proc Unit := tryCatch p fun _ => pure ()

/-! ### Reconciling -/

/-- The name that `addNetworkMember` gives a new row. -/
def newMemberName (plan : Plan) (id : MemberId) : Proc (Option String) := do
  let naming ← consult plan (.findNaming id)
  match naming.organization with
  | some renameNodeGlobally =>
    if renameNodeGlobally then consult plan (.findNameElsewhere id) else return none
  | none =>
    let name := if naming.user.addMemberIdAsName then some id else none
    if naming.user.renameNodeGlobally then do
      let found ← consult plan (.findNameElsewhere id)
      return truthy found <|> name
    else return name

/-- `addNetworkMember`. -/
def addNetworkMember (plan : Plan) (id : MemberId) : Proc Unit := do
  let name ← newMemberName plan id
  perform plan (.addMember id name)

/-- `fetchMemberDetailsBatched`. -/
def fetchMemberDetails (plan : Plan) : List MemberId → Proc (List (MemberId × Detail))
  | [] => pure []
  | id :: ids => do
    let detail ← tryCatch (do return some (← perform plan (.memberDetails id)))
      fun _ => pure none
    let details ← fetchMemberDetails plan ids
    return (detail.map fun detail => (id, detail)).toList ++ details

/-- The members that need a fresh detail: new ones, and those that are shown and whose copy may be
old. -/
def needsDetail (full : Bool) (db : Option Row) (revision : Nat) : Bool :=
  match db with
  | some db =>
    if db.isDeleted || db.isPermanentlyDeleted then false
    else full || db.vMajor.isNone || db.controllerConfig.isNone || db.revision != some revision
  | none => true

/-- The loop over the details. -/
def persistDetails (plan : Plan) (revisionMap : Dict MemberId Nat) (dbMap : Dict MemberId Row)
    (readAt : Nat) : List (MemberId × Detail) → Proc Unit
  | [] => pure ()
  | (id, detail) :: details => do
    let db := dbMap.get? id
    onlyIf db.isNone (attempt (addNetworkMember plan id))
    perform plan (.persistDetail id db detail (revisionMap.get? id) readAt)
    persistDetails plan revisionMap dbMap readAt details

/-- The rows that are shown and that the controller does not have, with their `nodeid`. -/
def orphansOf (revisionMap : Dict MemberId Nat) (dbMembers : Dict MemberId Row) :
    List (MemberId × Nat) :=
  (dbMembers.filter fun id row =>
    !revisionMap.contains id && !row.isDeleted && !row.isPermanentlyDeleted).entries.map
    fun entry => (entry.1, entry.2.nodeid)

theorem mem_orphansOf {revisionMap : Dict MemberId Nat} {dbMembers : Dict MemberId Row}
    {id : MemberId} : id ∈ (orphansOf revisionMap dbMembers).map Prod.fst ↔
      ∃ row, dbMembers.get? id = some row ∧ revisionMap.get? id = none ∧ row.isDeleted = false ∧
        row.isPermanentlyDeleted = false := by
  unfold orphansOf
  rw [List.map_map]
  change id ∈ (dbMembers.filter _).keys ↔ _
  rw [Dict.mem_keys_iff]
  refine exists_congr fun row => ?_
  rw [Dict.get?_filter, Option.filter_eq_some_iff, and_congr_right_iff]
  intro _
  rw [Bool.and_eq_true, Bool.and_eq_true, Bool.not_eq_true', Bool.not_eq_true', Bool.not_eq_true',
    and_assoc, Dict.contains, Option.isSome_eq_false_iff, Option.isNone_iff_eq_none]

/-- The versions that differ from those in the rows. -/
def writeVersions (plan : Plan) (live : MemberId → Option Int) :
    List (MemberId × Row) → Proc Unit
  | [] => pure ()
  | (id, row) :: rows => do
    match live id with
    | some vMajor => do
      onlyIf (row.vMajor ≠ some vMajor) (perform plan (.writeVersion id vMajor))
      writeVersions plan live rows
    | none => writeVersions plan live rows

/-- `reconcileNetworkMembers`, with the ids of the members that it returns. -/
def reconcileNetworkMembers (plan : Plan) (full : Bool) : Proc (List MemberId) := do
  let (readAt, revisionMap) ← perform plan .networkMembers
  let dbMembers ← perform plan .findMembers
  let idsToFetch := (revisionMap.filter fun id revision =>
    needsDetail full (dbMembers.get? id) revision).keys
  let details ← fetchMemberDetails plan idsToFetch
  persistDetails plan revisionMap dbMembers readAt details
  let orphans := orphansOf revisionMap dbMembers
  onlyIf (orphans ≠ []) (perform plan (.removeOrphans orphans readAt))
  let live ← consult plan .readLiveObservation
  let activeDbMembers ← perform plan (.findActive revisionMap.keys)
  writeVersions plan live activeDbMembers.entries
  return activeDbMembers.keys

/-! ### `memberRouter` -/

/-- Access, and the entry in the activity log. -/
def enter (plan : Plan) (endpoint : Endpoint) : Proc Unit := do
  consult plan (.checkNetworkAccess endpoint)
  consult plan (.createActivityLog endpoint)

/-- Whether the settings of the organization, where there is one, have members named globally. -/
def namesGlobally (plan : Plan) (organization : Bool) : Proc Bool :=
  if organization then consult plan .findOrganizationOptions else pure true

/-- A name that the settings provide for a member that exists elsewhere too. -/
def globalName (plan : Plan) (organization : Bool) (id : MemberId) : Proc (Option String) := do
  let inScope ← namesGlobally plan organization
  if inScope then return truthy (← consult plan (.findNameElsewhere id)) else return none

/-- The name that `create` gives a member with a row. -/
def restoredName (plan : Plan) (organization : Bool) (id : MemberId)
    (member : Row) : Proc (Option String) := do
  let userOptions ← consult plan .findUserOptions
  if userOptions.renameNodeGlobally then do
    let existing ← globalName plan organization id
    return existing <|> member.name
  else if userOptions.addMemberIdAsName then return some id
  else return member.name

/-- The name of a new member in another network, where the user's options ask for it. -/
def nameElsewhere (plan : Plan) (userOptions : UserOptions) (organization : Bool)
    (id : MemberId) : Proc (Option String) :=
  if userOptions.renameNodeGlobally then globalName plan organization id else pure none

/-- The name that `create` gives a new member. -/
def createdName (plan : Plan) (organization : Bool) (id : MemberId) :
    Proc (Option String) := do
  let userOptions ← consult plan .findUserOptions
  let memberName ← nameElsewhere plan userOptions organization id
  if memberName.isNone ∧ userOptions.addMemberIdAsName then return some id
  else return memberName

/-- An update of nothing that a member has. -/
def noParams : UpdateParams := ⟨none, none, none, none, none, none, none, none⟩

/-- What `create` does where the controller has answered `controllerMember`. -/
def createRows (plan : Plan) (organization : Bool) (id : MemberId)
    (controllerMember : Detail) : Proc Unit := do
  let member ← perform plan (.findMember id)
  match member with
  | some member => do
    let memberName ← restoredName plan organization id member
    perform plan (.restoreMember id memberName
      (if member.isDeleted || member.isPermanentlyDeleted then some controllerMember.revision
      else none))
  | none => do
    let memberName ← createdName plan organization id
    perform plan (.createMember id memberName controllerMember.config.authorized
      controllerMember.config.ipAssignments)

/-- `create`. -/
def create (plan : Plan) (organization : Bool) (id : MemberId) : Proc Unit := do
  enter plan .create
  let controllerMember ← perform plan (.memberUpdate id ⟨noParams, some false, none⟩)
  createRows plan organization id controllerMember
  attempt (consult plan (.announce .create))

/-- What `Update` answers where the controller refuses. -/
def notInNetwork : Failure := .trpc .forbidden
  ("Member does not exsist in the network, did you add this device manually? \r\n " ++
    "Make sure it has properly joined the network")

/-- The part of `Update` for the row, where the controller has answered `updatedMember`. -/
def updateRow (plan : Plan) (id : MemberId) (params : UpdateParams) (updatedMember : Detail) :
    Proc Unit := do
  let dbMember ← perform plan (.findMember id)
  match dbMember with
  | some dbMember =>
    let data := databaseUpdateData params
    onlyIf data.nonempty (perform plan (.updateMember id dbMember data updatedMember.revision))
  | none => pure ()

/-- `Update`. -/
def update (plan : Plan) (id : MemberId) (params : UpdateParams) : Proc Unit := do
  enter plan .update
  let _ ← consult plan .findUserOptions
  onlyIf params.named (consult plan (.renameElsewhere id))
  consult plan (.validateIps params.ipAssignments)
  let updatedMember ← tryCatch (perform plan (.memberUpdate id ⟨params, none, none⟩))
    fun _ => throw notInNetwork
  updateRow plan id params updatedMember
  attempt (consult plan (.announce .update))

/-- What an `Update` of the member in another network does in this one: the row is among those that
are not deleted, and the controller gets the update as it came. -/
def updateElsewhere (plan : Plan) (id : MemberId) (params : UpdateParams)
    (withDescription : Bool) : Proc Unit := do
  let dbMember ← perform plan (.findMember id)
  onlyIf (dbMember.any fun row => row.deleted == some false) (do
    let _ ← perform plan (.memberUpdate id ⟨params, none, none⟩)
    perform plan (.renameActive id ⟨params.name,
      if withDescription then params.description else none, none, none, none, none⟩))

/-- `UpdateDatabaseOnly`. -/
def updateDatabaseOnly (plan : Plan) (id : MemberId) (deleted : Option Bool)
    (description : Option String) : Proc Unit := do
  enter plan .updateDatabaseOnly
  perform plan (.updateFlags id deleted description)
  attempt (consult plan (.announce .updateDatabaseOnly))

/-- What `stash` sends to `Update`. -/
def stashParams : UpdateParams :=
  { noParams with
    authorized := some false
    ipAssignments := some []
    tags := some []
    capabilities := some [] }

/-- `stash`. -/
def stash (plan : Plan) (id : MemberId) : Proc Unit := do
  enter plan .stash
  attempt (update plan id stashParams)
  attempt (perform plan (.markDeleted id))
  attempt (consult plan (.announce .stash))

/-- `delete`. -/
def delete (plan : Plan) (id : MemberId) : Proc Unit := do
  enter plan .delete
  let existingMember ← perform plan (.findMember id)
  onlyIf (!existingMember.any Row.isDeleted) (perform plan (.memberDelete id))
  onlyIf (existingMember.any Row.isDeleted) (perform plan (.markPermanentlyDeleted id))
  onlyIf (!existingMember.any Row.isDeleted)
    (perform plan (.deleteMember id (existingMember.map Row.nodeid)))
  attempt (consult plan (.announce .delete))

/-- `bulkDeleteStashed`. -/
def bulkDeleteStashed (plan : Plan) : Proc Unit := do
  consult plan (.checkNetworkAccess .bulkDeleteStashed)
  let membersToDelete ← perform plan .findStashed
  onlyIf (membersToDelete ≠ []) (do
    perform plan (.deleteStashed membersToDelete)
    consult plan (.createActivityLog .bulkDeleteStashed)
    attempt (consult plan (.announce .bulkDeleteStashed)))

/-! ### The REST routes -/

/-- The two families of routes. -/
inductive Route where
  | organization
  | personal
deriving DecidableEq

/-- The body of a request. -/
structure Body extends UpdateParams where
  ssoExempt : Option Bool
  deleted : Option Bool

/-- The body is answered with status 400: for `deleted: true`, for a key that the route does not
know, and, on the personal route, where it is empty. -/
def Body.refused (body : Body) (route : Route) : Bool :=
  body.deleted == some true ||
    match route with
    | .organization => body.description.isSome
    | .personal =>
      body.activeBridge.isSome || body.capabilities.isSome || body.ipAssignments.isSome ||
        body.noAutoAssignIps.isSome || body.ssoExempt.isSome || body.tags.isSome ||
        (body.name.isNone && body.description.isNone && body.authorized.isNone &&
          body.deleted.isNone)

/-- `databasePayload`, without the flags. -/
def Body.databasePayload (body : Body) : MemberData := databaseUpdateData body.toUpdateParams

/-- `controllerPayload`. -/
def Body.controllerPayload (body : Body) : Payload :=
  ⟨{ body.toUpdateParams with description := none }, none, body.ssoExempt⟩

/-- `Object.keys(controllerPayload).length > 0`. -/
def Payload.nonempty (payload : Payload) : Bool :=
  payload.name.isSome || payload.activeBridge.isSome || payload.noAutoAssignIps.isSome ||
    payload.ipAssignments.isSome || payload.authorized.isSome || payload.capabilities.isSome ||
    payload.tags.isSome || payload.ssoExempt.isSome

/-- The database part of a request, where `dbMember` is the row as it was read. -/
def restWrite (plan : Plan) (route : Route) (id : MemberId) (body : Body)
    (dbMember : Option Row) : Proc Unit :=
  let restoreRequested := body.deleted == some false
  match dbMember, route with
  | some _, _ =>
    onlyIf (body.databasePayload.nonempty || restoreRequested)
      (perform plan (.writeThrough id body.databasePayload restoreRequested))
  | none, .organization => perform plan (.createRow id body.databasePayload)
  | none, .personal => pure ()

/-- What a REST route does behind its database part. -/
def restSend (plan : Plan) (route : Route) (id : MemberId) (body : Body) : Proc Unit := do
  onlyIf body.controllerPayload.nonempty (do
    let _ ← perform plan (.memberUpdate id body.controllerPayload))
  let _ ← perform plan (.findMember id)
  match route with
  | .organization =>
    let controllerMember ← tryCatch (do return some (← perform plan (.memberDetails id)))
      fun _ => pure none
    match controllerMember with
    | some detail => perform plan (.cacheMember id detail)
    | none => pure ()
  | .personal =>
    let detail ← perform plan (.memberDetails id)
    perform plan (.cacheMember id detail)

/-- The row of the member, where the request is about a network of the caller. -/
def restRow (plan : Plan) (id : MemberId) (network : Bool) : Proc (Option Row) :=
  if network then perform plan (.findMember id) else pure none

/-- The request is answered with status 404, for a network that is not the organization's, or with
status 409, for a member that is stashed and is not to be restored. -/
def Body.rejected (body : Body) (route : Route) (network : Bool) (dbMember : Option Row) : Bool :=
  (route == .organization && !network) || (dbMember.any Row.isDeleted && body.deleted != some false)

/-- `POST_orgUpdateNetworkMember` and `POST_updateNetworkMember`. -/
def restPost (plan : Plan) (route : Route) (id : MemberId) (body : Body) : Proc Unit :=
  onlyIf (!body.refused route) (do
    consult plan (.checkNetworkAccess .restPost)
    let network ← consult plan .findNetwork
    let dbMember ← restRow plan id network
    onlyIf (!body.rejected route network dbMember) (do
      restWrite plan route id body dbMember
      restSend plan route id body))

/-- `DELETE_orgStashNetworkMember` and `DELETE_deleteNetworkMember`. -/
def restDelete (plan : Plan) (route : Route) (id : MemberId) : Proc Unit := do
  match route with
  | .organization => stash plan id
  | .personal => do
    let network ← consult plan .findNetwork
    let dbMember ← restRow plan id network
    onlyIf dbMember.isSome (stash plan id)

/-! ## 6. The network and its procedures -/

/-- A call of a procedure, or a change of the controller by somebody else. -/
inductive Op where
  | reconcile (plan : Plan) (full : Bool)
  | create (plan : Plan) (organization : Bool) (id : MemberId)
  | update (plan : Plan) (id : MemberId) (params : UpdateParams)
  | updateElsewhere (plan : Plan) (id : MemberId) (params : UpdateParams) (withDescription : Bool)
  | updateDatabaseOnly (plan : Plan) (id : MemberId) (deleted : Option Bool)
      (description : Option String)
  | stash (plan : Plan) (id : MemberId)
  | delete (plan : Plan) (id : MemberId)
  | bulkDeleteStashed (plan : Plan)
  | restPost (plan : Plan) (route : Route) (id : MemberId) (body : Body)
  | restDelete (plan : Plan) (route : Route) (id : MemberId)
  | changeController (plan : Plan) (controller : Dict MemberId Detail)

def Op.program : Op → Proc Unit
  | .reconcile plan full => do
    let _ ← reconcileNetworkMembers plan full
  | .create plan organization id => Members.create plan organization id
  | .update plan id params => Members.update plan id params
  | .updateElsewhere plan id params withDescription =>
    Members.updateElsewhere plan id params withDescription
  | .updateDatabaseOnly plan id deleted description =>
    Members.updateDatabaseOnly plan id deleted description
  | .stash plan id => Members.stash plan id
  | .delete plan id => Members.delete plan id
  | .bulkDeleteStashed plan => Members.bulkDeleteStashed plan
  | .restPost plan route id body => Members.restPost plan route id body
  | .restDelete plan route id => Members.restDelete plan route id
  | .changeController plan controller => perform plan (.changeController controller)

/-- The calls that take turns. -/
def callMachine (site : Site) :
    Machine (PoolState Act Act.Ans Failure Unit Store) (PoolEvent Op) :=
  poolMachine (handle site) Op.program

/-- The calls that take turns, with a history variable. -/
def memberMachine {τ : Type} (site : Site) (note : Act → Store → τ → τ) :
    Machine (PoolState Act Act.Ans Failure Unit (Store × τ)) (PoolEvent Op) :=
  poolMachine (Prog.withHistory (handle site) note) Op.program

/-! ### Which calls a procedure makes -/

section Only

variable {A : Act → Prop} {plan : Plan}

theorem only_consult (consultation : Consultation) : Prog.Only A (consult plan consultation) :=
  Prog.only_ofExcept _

theorem only_perform {query : Query} (h : ∀ outcome, A ⟨query, outcome⟩) :
    Prog.Only A (perform plan query) :=
  Prog.only_call (h _)

theorem only_onlyIf {condition : Bool} {p : Proc Unit} (hp : Prog.Only A p) :
    Prog.Only A (onlyIf condition p) := by
  unfold onlyIf
  split
  · exact hp
  · exact Prog.only_pure _

theorem only_attempt {p : Proc Unit} (hp : Prog.Only A p) : Prog.Only A (attempt p) :=
  hp.tryCatch fun _ => Prog.only_pure _

end Only

/-! ## 7. A plain installation -/

/-- A controller that holds the fields of a member and counts their changes. -/
def plainUpdate (old : Option Detail) (payload : Payload) : Detail :=
  let base := old.getD ⟨⟨false, [], false, false⟩, none, none, none, 0, ""⟩
  let new := { base with
    config := ⟨payload.authorized.getD base.config.authorized,
      payload.ipAssignments.getD base.config.ipAssignments,
      payload.noAutoAssignIps.getD base.config.noAutoAssignIps,
      payload.activeBridge.getD base.config.activeBridge⟩
    name := payload.name <|> base.name }
  if old = some new then new else { new with revision := base.revision + 1 }

/-- An installation with such a controller, and with notifications. -/
def plainSite : Site := ⟨plainUpdate, fun _ => true⟩

/-- Nobody has set an option, and nothing is known from other networks. -/
def plainAnswer : (consultation : Consultation) → consultation.Ans
  | .findUserOptions => ⟨false, false⟩
  | .findOrganizationOptions => false
  | .findNameElsewhere _ => none
  | .findNaming _ => ⟨⟨false, false⟩, none⟩
  | .findNetwork => true
  | .readLiveObservation => fun _ => none
  | .checkNetworkAccess _ | .createActivityLog _ | .renameElsewhere _ | .validateIps _
  | .announce _ => ()

/-- A call in which nothing fails. -/
def plainPlan : Plan := ⟨fun consultation => .ok (plainAnswer consultation), fun _ => .done⟩

/-- A call in which the controller cannot be reached. -/
def unreachablePlan : Plan where
  answer := plainPlan.answer
  outcome
    | .memberUpdate _ _ => .failsBefore
    | _ => .done

/-- A member that is not authorized, as the controller answers it at its first revision. -/
def waiting : Detail := ⟨⟨false, [], false, false⟩, none, none, none, 1, ""⟩

/-- The row of a member that `reconcileNetworkMembers` has filled. -/
def filledRow (detail : Detail) : Row :=
  (observed none "1" detail (some detail.revision)).write (newRow 1 none (some ""))

/-- One member, in the database as on the controller. -/
def oneMember (detail : Detail) : Store :=
  ⟨Dict.empty.set "1" detail, Dict.empty.set "1" (filledRow detail), 2, [], 0⟩

end ZtPlanet.Ztnet.Members
