/-
# What a poll observes of a member, and what it stores

A poll of a network takes a snapshot of the controller, reads the rows of the members, and for each
of them computes with `observeMember` what the snapshot says about it: a known online state or none,
a connection status, and the columns of the row that change.  `persistObservedMember` stores these
columns and emits the events that `statusEventTypes` reads off the difference.

Times are milliseconds.  The columns of `network_members` are those that a poll reads or writes;
`reconcileNetworkMembers` adds the address and the version of a peer to the data, and no step below
depends on them.
-/
import ZtPlanet.Ztnet.SsrfGuard
import ZtPlanet.Lib.Prog

namespace ZtPlanet.Ztnet.Observation

open ZtPlanet.Lib ZtPlanet.Python

/-! ## 1. Connection status -/

inductive ConnectionStatus where
  | offline
  | relayed
  | directLAN
  | directWAN
  | controller
  | unknown
deriving DecidableEq

/-- `Paths`. -/
structure Path where
  address : PyStr
  active : Bool
  preferred : Bool
  expired : Bool
deriving DecidableEq

/-- What `privateAddress` uses of `ip-address`. -/
structure AddressPackage where
  /-- `Address4.isValid(ip)` -/
  isValid4 : PyStr → Bool
  /-- `Address6.isValid(ip)` -/
  isValid6 : PyStr → Bool
  /-- `new Address6(ip).isInSubnet(new Address6(cidr))` -/
  isInSubnet6 : PyStr → PyStr → Bool

/-- `activePreferredPath`. -/
def activePreferredPath (paths : List Path) : Option Path :=
  paths.find? fun path => path.active && path.preferred && !path.expired

/-- `privateAddress`. -/
def privateAddress (package : AddressPackage) (address : PyStr) : Bool :=
  let ip := stripBrackets (partition address (ch '/')).1
  if package.isValid4 ip then
    match (split ip (ch '.')).map (ofDigits 10) with
    | a :: b :: _ =>
      a == 10 || (a == 172 && b ≥ 16 && b ≤ 31) || (a == 192 && b == 168) || a == 127 ||
        (a == 169 && b == 254)
    | _ => false
  else if package.isValid6 ip then
    package.isInSubnet6 ip (py "fc00::/7") || package.isInSubnet6 ip (py "fe80::/10") ||
      ip == py "::1"
  else false

/-- The member is the controller of its network. -/
def isControllerMember (id nwid : PyStr) : Bool :=
  decide (id.length = 10) && id.all isHexDigit && lower (nwid.take 10) == lower id

/-- `determineConnectionStatus`. -/
def determineConnectionStatus (package : AddressPackage) (id nwid : PyStr) (paths : List Path)
    (online : Option Bool) (peersAvailable : Bool) : ConnectionStatus :=
  if !peersAvailable then .unknown
  else if online = some false then .offline
  else if isControllerMember id nwid then .controller
  else
    match activePreferredPath paths with
    | some path => if privateAddress package path.address then .directLAN else .directWAN
    | none => if online = some true then .relayed else .unknown

/-! ## 2. Rows and snapshots -/

/-- `network_members`, the columns of a poll. -/
structure MemberRow where
  id : PyStr
  nwid : PyStr
  creationTime : Int
  online : Option Bool
  notifyOnFirstOnline : Bool
  statusObservedAt : Option Int
  observationControllerStartedAt : Option Int
  lastSeen : Option Int
  sourceLastOnlineAt : Option Int
  lastOnlineAt : Option Int
  lastOfflineAt : Option Int
  connectionStatus : Option ConnectionStatus
  connectionPendingStatus : Option ConnectionStatus
  connectionPendingSince : Option Int
deriving DecidableEq

/-- `MemberObservation`. -/
structure MemberObservation where
  observed : Bool
  online : Bool
  lastSeen : Int
  lastOnline : Int
deriving DecidableEq

/-- `MemberStatusSnapshot`. -/
structure Snapshot where
  clock : Int
  controllerStartedAt : Int
  onlineWindowMs : Int
  members : PyStr → Option MemberObservation

/-- `LiveObservation`, with the paths of the member's peer. -/
structure Live where
  snapshot : Option Snapshot
  paths : List Path
  peersAvailable : Bool
  statusAvailable : Bool

/-- The columns that a poll changes: each is left alone, or set, maybe to null. -/
structure MemberData where
  online : Option (Option Bool)
  notifyOnFirstOnline : Option Bool
  statusObservedAt : Option (Option Int)
  observationControllerStartedAt : Option (Option Int)
  lastSeen : Option (Option Int)
  sourceLastOnlineAt : Option (Option Int)
  lastOnlineAt : Option (Option Int)
  lastOfflineAt : Option (Option Int)
  connectionStatus : Option (Option ConnectionStatus)
  connectionPendingStatus : Option (Option ConnectionStatus)
  connectionPendingSince : Option (Option Int)

/-- No change. -/
def MemberData.empty : MemberData :=
  ⟨none, none, none, none, none, none, none, none, none, none, none⟩

/-- The row with the changes. -/
def MemberRow.update (row : MemberRow) (data : MemberData) : MemberRow :=
  { row with
    online := data.online.getD row.online
    notifyOnFirstOnline := data.notifyOnFirstOnline.getD row.notifyOnFirstOnline
    statusObservedAt := data.statusObservedAt.getD row.statusObservedAt
    observationControllerStartedAt :=
      data.observationControllerStartedAt.getD row.observationControllerStartedAt
    lastSeen := data.lastSeen.getD row.lastSeen
    sourceLastOnlineAt := data.sourceLastOnlineAt.getD row.sourceLastOnlineAt
    lastOnlineAt := data.lastOnlineAt.getD row.lastOnlineAt
    lastOfflineAt := data.lastOfflineAt.getD row.lastOfflineAt
    connectionStatus := data.connectionStatus.getD row.connectionStatus
    connectionPendingStatus := data.connectionPendingStatus.getD row.connectionPendingStatus
    connectionPendingSince := data.connectionPendingSince.getD row.connectionPendingSince }

/-! ## 3. `observeMember` -/

/-- The fields of the served member that `observeMember` sets. -/
structure Served where
  conStatus : ConnectionStatus
  online : Option Bool

/-- The snapshot and its observation of the member, where the member is known. -/
def known (id : PyStr) (creationTime : Int) (live : Live) : Option (Snapshot × MemberObservation) :=
  match live.snapshot with
  | none => none
  | some snapshot =>
    match snapshot.members id with
    | none => none
    | some source =>
      let observedFullWindow :=
        snapshot.clock - max snapshot.controllerStartedAt creationTime ≥ snapshot.onlineWindowMs
      if live.statusAvailable && (source.observed || observedFullWindow) then
        some (snapshot, source)
      else none

/-- `member.conStatus` and `member.online`. -/
def serve (package : AddressPackage) (db : MemberRow) (live : Live) : Served :=
  let online := (known db.id db.creationTime live).map fun k => k.2.online
  { conStatus :=
      if online.isSome || (live.statusAvailable && live.snapshot.isNone) then
        determineConnectionStatus package db.id db.nwid live.paths online live.peersAvailable
      else .unknown
    online := online }

/-- The columns of the connection that a known sample changes, where its status is not unknown: a
new status of a member that stays online is pending until it has been seen for half a minute. -/
def connectionData (db : MemberRow) (clock : Int) (online : Bool) (conStatus : ConnectionStatus) :
    MemberData :=
  let settled := { MemberData.empty with
    connectionStatus := some (some conStatus)
    connectionPendingStatus := some none
    connectionPendingSince := some none }
  if db.online = some true ∧ online ∧ db.connectionStatus ≠ none ∧
      db.connectionStatus ≠ some conStatus then
    let continuous := db.statusObservedAt.any fun observedAt => clock - observedAt ≤ 45000
    let pending := decide (db.connectionPendingStatus = some conStatus)
    if continuous && pending &&
        db.connectionPendingSince.any fun since => clock - since ≥ 30000 then
      settled
    else if !continuous || !pending then
      { MemberData.empty with
        connectionPendingStatus := some (some conStatus)
        connectionPendingSince := some (some clock) }
    else MemberData.empty
  else settled

/-- The columns that an unknown status changes. -/
def interruption (db : MemberRow) : MemberData :=
  if db.connectionPendingStatus ≠ none then
    { MemberData.empty with
      connectionPendingStatus := some none
      connectionPendingSince := some none }
  else MemberData.empty

/-- `data.lastOnlineAt` of an online member: a restart of the controller does not move it. -/
def lastOnlineAt (db : MemberRow) (snapshot : Snapshot) (source : MemberObservation) : Option Int :=
  let differentBoot := db.observationControllerStartedAt ≠ some snapshot.controllerStartedAt
  let sameObservedTransition := db.sourceLastOnlineAt = some source.lastOnline
  if db.statusObservedAt.isSome ∧ db.online = some true ∧ db.lastOnlineAt.isSome ∧
      (differentBoot ∨ sameObservedTransition) then
    db.lastOnlineAt
  else some source.lastOnline

/-- `data.lastOfflineAt` of a member that has gone offline. -/
def lastOfflineAt (snapshot : Snapshot) (source : MemberObservation) : Int :=
  min snapshot.clock
    ((if source.observed then source.lastSeen else snapshot.controllerStartedAt) +
      snapshot.onlineWindowMs)

/-- `data` of a known sample, before the columns that keep their value are taken out. -/
def observedData (db : MemberRow) (snapshot : Snapshot) (source : MemberObservation)
    (conStatus : ConnectionStatus) : MemberData :=
  let connection :=
    if conStatus = .unknown then interruption db
    else connectionData db snapshot.clock source.online conStatus
  { connection with
    online := some (some source.online)
    notifyOnFirstOnline := if db.notifyOnFirstOnline then some false else none
    statusObservedAt := some (some snapshot.clock)
    observationControllerStartedAt := some (some snapshot.controllerStartedAt)
    lastSeen := if source.observed then some (some source.lastSeen) else none
    sourceLastOnlineAt := if source.observed then some (some source.lastOnline) else none
    lastOnlineAt := if source.online then some (lastOnlineAt db snapshot source) else none
    lastOfflineAt :=
      if !source.online && db.statusObservedAt.isSome && db.online == some true then
        some (some (lastOfflineAt snapshot source))
      else none }

/-- The loop that takes out the columns that keep their value. -/
def MemberData.dropUnchanged (data : MemberData) (db : MemberRow) : MemberData where
  online := data.online.filter (· ≠ db.online)
  notifyOnFirstOnline := data.notifyOnFirstOnline.filter (· ≠ db.notifyOnFirstOnline)
  statusObservedAt := data.statusObservedAt.filter (· ≠ db.statusObservedAt)
  observationControllerStartedAt :=
    data.observationControllerStartedAt.filter (· ≠ db.observationControllerStartedAt)
  lastSeen := data.lastSeen.filter (· ≠ db.lastSeen)
  sourceLastOnlineAt := data.sourceLastOnlineAt.filter (· ≠ db.sourceLastOnlineAt)
  lastOnlineAt := data.lastOnlineAt.filter (· ≠ db.lastOnlineAt)
  lastOfflineAt := data.lastOfflineAt.filter (· ≠ db.lastOfflineAt)
  connectionStatus := data.connectionStatus.filter (· ≠ db.connectionStatus)
  connectionPendingStatus := data.connectionPendingStatus.filter (· ≠ db.connectionPendingStatus)
  connectionPendingSince := data.connectionPendingSince.filter (· ≠ db.connectionPendingSince)

/-- `observeMember`. -/
def observeMember (package : AddressPackage) (db : MemberRow) (live : Live) : Served × MemberData :=
  let member := serve package db live
  match known db.id db.creationTime live with
  | none =>
    (member, if member.conStatus = .unknown then interruption db else MemberData.empty)
  | some (snapshot, source) =>
    (member, (observedData db snapshot source member.conStatus).dropUnchanged db)

/-! ## 4. Events -/

/-- `NotificationEventType`, the types of a poll. -/
inductive EventType where
  /-- `node.online` -/
  | online
  /-- `node.offline` -/
  | offline
  /-- `node.connection.changed` -/
  | connectionChanged
deriving DecidableEq

/-- An event of the member: the part of its key that is not fixed, and the texts of the change. -/
structure StatusEvent where
  type : EventType
  /-- `dateText(data.statusObservedAt)` -/
  observedAt : Option Int
  before : Option ConnectionStatus
  after : ConnectionStatus
deriving DecidableEq

/-- `statusEventTypes`. -/
def statusEventTypes (db : MemberRow) (member : Served) (data : MemberData) : List EventType :=
  match member.online with
  | none => []
  | some online =>
    if db.statusObservedAt = none then
      if db.notifyOnFirstOnline && online then [.online] else []
    else if db.online ≠ some online then [if online then .online else .offline]
    else
      match data.connectionStatus, db.connectionStatus with
      | some (some status), some stored =>
        if online && status ≠ stored && status ≠ .unknown then [.connectionChanged] else []
      | _, _ => []

/-- The events that `persistObservedMember` enqueues. -/
def statusEvents (db : MemberRow) (member : Served) (data : MemberData) : List StatusEvent :=
  (statusEventTypes db member data).map fun type =>
    ⟨type, data.statusObservedAt.getD none, db.connectionStatus, member.conStatus⟩

/-- The row of the member, and the events that have been enqueued in committed transactions. -/
structure Store where
  row : MemberRow
  events : List StatusEvent

/-- `persistObservedMember`: without events the columns are stored whatever the row is by now; with
events they are stored only where the row was observed last when it was read. -/
def persistObservedMember (db : MemberRow) (member : Served) (data : MemberData) (s : Store) :
    Store :=
  let events := statusEvents db member data
  if events = [] then { s with row := s.row.update data }
  else if s.row.statusObservedAt = db.statusObservedAt then
    ⟨s.row.update data, s.events ++ events⟩
  else s

/-- A poll that nothing happens in between. -/
def pollOnce (package : AddressPackage) (s : Store) (live : Live) : Store :=
  let (member, data) := observeMember package s.row live
  persistObservedMember s.row member data s

/-! ## 5. What a poll stores -/

variable {package : AddressPackage} {row db : MemberRow} {live : Live} {snapshot : Snapshot}
  {source : MemberObservation}

theorem getD_filter_ne {α : Type} [DecidableEq α] (o : Option α) (a : α) :
    (o.filter (· ≠ a)).getD a = o.getD a := by
  cases o with
  | none => rfl
  | some b =>
    by_cases h : b = a
    · simp [Option.filter, h]
    · simp [Option.filter, h]

/-- Taking out the columns that keep their value makes no difference to the row. -/
@[simp] theorem MemberRow.update_dropUnchanged (row : MemberRow) (data : MemberData) :
    row.update (data.dropUnchanged row) = row.update data := by
  simp only [MemberRow.update, MemberData.dropUnchanged, getD_filter_ne]

@[simp] theorem MemberRow.update_empty (row : MemberRow) : row.update MemberData.empty = row := rfl

theorem serve_online (package : AddressPackage) (db : MemberRow) (live : Live) :
    (serve package db live).online = (known db.id db.creationTime live).map fun k => k.2.online :=
  rfl

/-- A sample that is not known changes the pending columns at most. -/
theorem observeMember_unknown (h : known db.id db.creationTime live = none) :
    observeMember package db live =
      (serve package db live,
        if (serve package db live).conStatus = .unknown then interruption db
        else MemberData.empty) := by
  unfold observeMember
  rw [h]

theorem observeMember_known (h : known db.id db.creationTime live = some (snapshot, source)) :
    observeMember package db live =
      (serve package db live,
        (observedData db snapshot source (serve package db live).conStatus).dropUnchanged db) := by
  unfold observeMember
  rw [h]

@[simp] theorem observeMember_fst : (observeMember package db live).1 = serve package db live := by
  unfold observeMember
  split <;> rfl

/-- The presence of a member in an event. -/
def StatusEvent.presence (event : StatusEvent) : Option Bool :=
  match event.type with
  | .online => some true
  | .offline => some false
  | .connectionChanged => none

/-- The events `node.online` and `node.offline`, as the online state that they announce. -/
def presence (events : List StatusEvent) : List Bool := events.filterMap StatusEvent.presence

theorem presence_append (events events' : List StatusEvent) :
    presence (events ++ events') = presence events ++ presence events' :=
  List.filterMap_append

/-- The presence that a sample announces. -/
def announced (db : MemberRow) : Option Bool → List Bool
  | none => []
  | some online =>
    if db.statusObservedAt = none then if db.notifyOnFirstOnline && online then [true] else []
    else if db.online ≠ some online then [online] else []

theorem presence_statusEvents (db : MemberRow) (member : Served) (data : MemberData) :
    presence (statusEvents db member data) = announced db member.online := by
  unfold statusEvents statusEventTypes announced
  cases member.online with
  | none => rfl
  | some online =>
    dsimp only
    split
    · split <;> rfl
    · split
      · cases online <;> rfl
      · split
        · split <;> rfl
        · rfl

/-! ## 6. A member for examples -/

/-- The row of a new member. -/
def freshRow : MemberRow where
  id := py "8056c2e21c"
  nwid := py "a09acf0233e4b070"
  creationTime := 0
  online := some false
  notifyOnFirstOnline := true
  statusObservedAt := none
  observationControllerStartedAt := none
  lastSeen := none
  sourceLastOnlineAt := none
  lastOnlineAt := none
  lastOfflineAt := none
  connectionStatus := none
  connectionPendingStatus := none
  connectionPendingSince := none

/-- No address is private. -/
def examplePackage : AddressPackage := ⟨fun _ => false, fun _ => false, fun _ _ => false⟩

/-- A sample that has observed the member. -/
def observedLive (clock : Int) (online : Bool) (paths : List Path) : Live where
  snapshot := some ⟨clock, 1, 60000, fun _ => some ⟨true, online, 1, 1⟩⟩
  paths := paths
  peersAvailable := true
  statusAvailable := true

/-- A sample without the controller's status. -/
def unavailableLive : Live := ⟨none, [], false, false⟩

end ZtPlanet.Ztnet.Observation
