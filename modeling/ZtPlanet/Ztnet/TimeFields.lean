/-
# The times of a member

The patch has the controller keep, for each member, when it has last been heard and since when it
has been online, until the controller restarts.  A poll reads this in a snapshot and stores it next
to two times of its own: since when the member has been online across restarts, and when it has gone
offline.

Here the controller, with its clock and its restarts, and the polls are one system.  What a poll
stores is never ahead of what the controller has heard, and a restart makes the controller's start
the later of the two (`Timed`); so the stored times are in order in every run, a transition to
offline stores a time that is not before the transition to online, and a restart alone does not move
the latter (`time_fields_ordered`).
-/
import ZtPlanet.Lib.Machine
import ZtPlanet.Ztnet.Presence

namespace ZtPlanet.Ztnet.Observation

open ZtPlanet.Lib ZtPlanet.Python

/-! ## 1. The controller -/

/-- What the patch uses of the controller. -/
structure ControllerPackage where
  /-- `ZT_NETCONF_MIN_REQUEST_PERIOD` -/
  minRequestPeriod : Int
  /-- `ZT_NETWORK_AUTOCONF_DELAY` -/
  autoconfDelay : Int
  /-- `_MemberStatus::online`, of `lastRequestTime` and `now` -/
  online : Int → Int → Bool

/-- `_MemberStatus`. -/
structure MemberStatus where
  lastRequestTime : Int
  lastOnlineTime : Int
deriving DecidableEq

structure Controller where
  now : Int
  /-- `_startTime` -/
  startTime : Int
  /-- `_memberStatus`, where a member without an entry has the one of the constructor -/
  memberStatus : PyStr → MemberStatus

/-- `_memberStatus` of a new process. -/
def noMemberStatus : PyStr → MemberStatus := fun _ => ⟨0, 0⟩

/-- A configuration request of a member. -/
def Controller.request (p : ControllerPackage) (c : Controller) (id : PyStr) : Controller :=
  let ms := c.memberStatus id
  if c.now - ms.lastRequestTime ≤ p.minRequestPeriod then c
  else
    let lastOnlineTime :=
      if ms.lastRequestTime = 0 ∨ ¬ p.online ms.lastRequestTime c.now then c.now
        else ms.lastOnlineTime
    { c with memberStatus := Function.update c.memberStatus id ⟨c.now, lastOnlineTime⟩ }

/-- The observation of a member in `memberStatusGet`. -/
def Controller.observation (p : ControllerPackage) (c : Controller) (id : PyStr) :
    MemberObservation :=
  let entry := c.memberStatus id
  if 0 < entry.lastRequestTime then
    ⟨true, p.online entry.lastRequestTime c.now, entry.lastRequestTime, entry.lastOnlineTime⟩
  else ⟨false, false, 0, 0⟩

/-- `memberStatusGet`, for a network with the members `ids`. -/
def Controller.memberStatusGet (p : ControllerPackage) (c : Controller) (ids : List PyStr) :
    Snapshot where
  clock := c.now
  controllerStartedAt := c.startTime
  onlineWindowMs := p.autoconfDelay * 2
  members id := if id ∈ ids ∧ id.length = 10 then some (c.observation p id) else none

/-- `time`. -/
def time (t : Int) : Bool := 0 ≤ t && t ≤ 8640000000000000

/-- `schema`, of a member. -/
def MemberObservation.accepted (clock : Int) (m : MemberObservation) : Bool :=
  time m.lastSeen && time m.lastOnline &&
    (!m.observed || (m.lastSeen > 0 && m.lastOnline > 0 && m.lastOnline ≤ m.lastSeen &&
      m.lastSeen ≤ clock))

/-- `parseMemberStatus`, where `ids` has the keys of the members. -/
def parseMemberStatus (ids : List PyStr) (s : Snapshot) : Option Snapshot :=
  if time s.clock && time s.controllerStartedAt && 0 < s.onlineWindowMs &&
    s.onlineWindowMs ≤ 3600000 &&
      s.controllerStartedAt ≤ s.clock &&
      ids.all fun id => (s.members id).all fun m =>
        id.length = 10 && id.all isHexDigit && m.accepted s.clock
  then some s else none

/-- What comes of `member_status`. -/
inductive StatusResponse where
  /-- the request fails -/
  | failed
  /-- status 404 -/
  | notFound
  /-- the network has these members -/
  | members (ids : List PyStr)

/-- `readLiveObservation`. -/
def Controller.readLiveObservation (p : ControllerPackage) (c : Controller)
    (response : StatusResponse)
    (peersAvailable : Bool) (paths : List Path) : Live :=
  match response with
  | .failed => ⟨none, paths, peersAvailable, false⟩
  | .notFound => ⟨none, paths, peersAvailable, true⟩
  | .members ids =>
    match parseMemberStatus ids (c.memberStatusGet p ids) with
    | none => ⟨none, paths, peersAvailable, false⟩
    | some snapshot => ⟨some snapshot, paths, peersAvailable, true⟩

/-! ## 2. The controller and the polls -/

/-- A poll of a network. -/
structure Poll where
  response : StatusResponse
  peersAvailable : Bool
  paths : PyStr → List Path

/-- The sample of a poll for a member. -/
def Poll.live (p : ControllerPackage) (c : Controller) (poll : Poll) (id : PyStr) : Live :=
  c.readLiveObservation p poll.response poll.peersAvailable (poll.paths id)

/-- A row that no poll has observed. -/
structure MemberRow.Unobserved (row : MemberRow) : Prop where
  statusObservedAt : row.statusObservedAt = none
  lastOnlineAt : row.lastOnlineAt = none
  lastOfflineAt : row.lastOfflineAt = none
  observationControllerStartedAt : row.observationControllerStartedAt = none

instance (row : MemberRow) : Decidable row.Unobserved :=
  decidable_of_iff (row.statusObservedAt = none ∧ row.lastOnlineAt = none ∧
    row.lastOfflineAt = none ∧
      row.observationControllerStartedAt = none)
    ⟨fun ⟨h₁, h₂, h₃, h₄⟩ => ⟨h₁, h₂, h₃, h₄⟩, fun ⟨h₁, h₂, h₃, h₄⟩ => ⟨h₁, h₂, h₃, h₄⟩⟩

/-- A row that is created: `lastSeen` is left out, or taken from the clock right before
`creationTime`. -/
def MemberRow.New (row : MemberRow) : Prop :=
  row.Unobserved ∧ ∀ t ∈ row.lastSeen, t ≤ row.creationTime

instance (row : MemberRow) : Decidable row.New := inferInstanceAs (Decidable (_ ∧ _))

/-- The controller, and the rows of a network. -/
structure System where
  controller : Controller
  rows : List Store

inductive SystemEvent where
  | tick (ms : Nat)
  /-- the controller is started again, in a later millisecond -/
  | restart (ms : Nat)
  | request (id : PyStr)
  | create (row : MemberRow)
  | poll (poll : Poll)

/-- A poll of every row. -/
def System.poll (p : ControllerPackage) (package : AddressPackage) (s : System)
    (poll : Poll) : System :=
  { s with rows := s.rows.map fun r => pollOnce package r (poll.live p s.controller r.row.id) }

def systemMachine (p : ControllerPackage) (package : AddressPackage) :
    Machine System SystemEvent where
  step s
    | .tick ms => some { s with controller := { s.controller with now := s.controller.now + ms } }
    | .restart ms =>
      let now := s.controller.now + ms + 1
      some { s with controller := ⟨now, now, noMemberStatus⟩ }
    | .request id => some { s with controller := s.controller.request p id }
    | .create row => if row.New then some { s with rows := s.rows ++ [⟨row, []⟩] } else none
    | .poll poll => some (s.poll p package poll)

/-- The start: no poll has observed a row.  The `lastSeen` of an old row is the time of a refresh.
-/
structure System.Start (s : System) : Prop where
  startTime : s.controller.startTime ≤ s.controller.now
  memberStatus : s.controller.memberStatus = noMemberStatus
  unobserved : ∀ r ∈ s.rows, r.row.Unobserved
  lastSeen : ∀ r ∈ s.rows, ∀ t ∈ r.row.lastSeen, t ≤ max r.row.creationTime s.controller.now

/-! ## 3. What the controller keeps -/

section

variable {p : ControllerPackage} {c : Controller} {id : PyStr}

/-- What a member has in a process of the controller: nothing, or times since the start. -/
def Heard (c : Controller) (ms : MemberStatus) : Prop :=
  ms = ⟨0, 0⟩ ∨ c.startTime ≤ ms.lastOnlineTime ∧ ms.lastOnlineTime ≤ ms.lastRequestTime ∧
    ms.lastRequestTime ≤ c.now

structure Controller.Sound (c : Controller) : Prop where
  startTime : c.startTime ≤ c.now
  heard : ∀ id, Heard c (c.memberStatus id)

theorem Controller.Sound.tick (h : c.Sound) (ms : Nat) :
    Controller.Sound { c with now := c.now + ms } where
  startTime := by
    have hstart := h.startTime
    dsimp only
    omega
  heard id := (h.heard id).imp_right fun ⟨hstart, honline, hnow⟩ =>
    ⟨hstart, honline, by dsimp only; omega⟩

theorem sound_restart (now : Int) : Controller.Sound ⟨now, now, noMemberStatus⟩ :=
  ⟨le_rfl, fun _ => .inl rfl⟩

theorem request_now : (c.request p id).now = c.now := by
  unfold Controller.request
  dsimp only
  split <;> rfl

theorem request_startTime : (c.request p id).startTime = c.startTime := by
  unfold Controller.request
  dsimp only
  split <;> rfl

/-- **A request.**  The member's time moves to the clock, and the time since when it is online with
it unless it still is; or nothing changes. -/
theorem request_memberStatus (p : ControllerPackage) (c : Controller) (id id' : PyStr) :
    (c.request p id).memberStatus id' = c.memberStatus id' ∨
      id' = id ∧ (c.request p id).memberStatus id' = ⟨c.now,
        if (c.memberStatus id).lastRequestTime = 0 ∨
          ¬ p.online (c.memberStatus id).lastRequestTime c.now
        then c.now else (c.memberStatus id).lastOnlineTime⟩ := by
  unfold Controller.request
  dsimp only
  split
  · exact .inl rfl
  · by_cases hid : id' = id
    · subst hid
      exact .inr ⟨rfl, Function.update_self ..⟩
    · exact .inl (Function.update_of_ne hid ..)

theorem Controller.Sound.request (h : c.Sound) (p : ControllerPackage) (id : PyStr) :
    (c.request p id).Sound where
  startTime := by
    rw [request_now, request_startTime]
    exact h.startTime
  heard id' := by
    rw [Heard, request_now, request_startTime]
    rcases request_memberStatus p c id id' with hsame | ⟨-, hnew⟩
    · rw [hsame]
      exact h.heard id'
    · rw [hnew]
      refine .inr ⟨?_, ?_, le_rfl⟩
      · dsimp only
        split
        · exact h.startTime
        · next honline =>
          -- a member without an entry is not online
          rcases h.heard id with hnone | ⟨hstart, -, -⟩
          · exact absurd (.inl (congrArg MemberStatus.lastRequestTime hnone)) honline
          · exact hstart
      · dsimp only
        split
        · exact le_rfl
        · next honline =>
          rcases h.heard id with hnone | ⟨-, hle, hnow⟩
          · exact absurd (.inl (congrArg MemberStatus.lastRequestTime hnone)) honline
          · exact hle.trans hnow

/-- The last request does not move back. -/
theorem lastRequestTime_le_request (h : c.Sound) (p : ControllerPackage) (id id' : PyStr) :
    0 < (c.memberStatus id').lastRequestTime →
      (c.memberStatus id').lastRequestTime ≤
      ((c.request p id).memberStatus id').lastRequestTime := by
  intro hpos
  rcases request_memberStatus p c id id' with hsame | ⟨rfl, hnew⟩
  · rw [hsame]
  · rw [hnew]
    rcases h.heard id' with hnone | ⟨-, -, hnow⟩
    · rw [hnone] at hpos
      exact absurd hpos (lt_irrefl 0)
    · exact hnow

end

/-! ## 4. A known sample -/

/-- What a known sample says. -/
structure Sampled (p : ControllerPackage) (c : Controller) (id : PyStr) (creationTime : Int)
    (snapshot : Snapshot) (source : MemberObservation) : Prop where
  clock : snapshot.clock = c.now
  controllerStartedAt : snapshot.controllerStartedAt = c.startTime
  onlineWindowMs : 0 < snapshot.onlineWindowMs
  source_eq : source = c.observation p id
  /-- a member that has not been observed has been missing for a whole window -/
  observed : source.observed = true ∨
    snapshot.onlineWindowMs ≤ snapshot.clock - max snapshot.controllerStartedAt creationTime

theorem sampled_of_known {p : ControllerPackage} {c : Controller} {poll : Poll} {id : PyStr}
    {creationTime : Int} {snapshot : Snapshot} {source : MemberObservation}
    (h : known id creationTime (poll.live p c id) = some (snapshot, source)) :
    Sampled p c id creationTime snapshot source := by
  unfold Poll.live Controller.readLiveObservation at h
  split at h
  · cases h
  · cases h
  · next ids _ =>
    split at h
    · cases h
    · next parsed hparse =>
      unfold parseMemberStatus at hparse
      split at hparse
      · next haccepted =>
        obtain rfl := Option.some.inj hparse
        simp only [Bool.and_eq_true, decide_eq_true_eq] at haccepted
        unfold known at h
        dsimp only at h
        split at h
        · cases h
        · next m hm =>
          split at h
          · next hknown =>
            cases h
            refine ⟨rfl, rfl, haccepted.1.1.1.2, ?_, ?_⟩
            · unfold Controller.memberStatusGet at hm
              dsimp only at hm
              split at hm
              · exact (Option.some.inj hm).symm
              · cases hm
            · simpa using hknown
          · cases h
      · cases hparse

/-- The observation of a member that the controller has heard, and of one that it has not. -/
theorem observation_cases (p : ControllerPackage) (c : Controller) (id : PyStr) :
    0 < (c.memberStatus id).lastRequestTime ∧ c.observation p id =
        ⟨true, p.online (c.memberStatus id).lastRequestTime c.now,
          (c.memberStatus id).lastRequestTime,
          (c.memberStatus id).lastOnlineTime⟩ ∨
      ¬ 0 < (c.memberStatus id).lastRequestTime ∧ c.observation p id = ⟨false, false, 0, 0⟩ := by
  unfold Controller.observation
  dsimp only
  split
  · next hpos => exact .inl ⟨hpos, rfl⟩
  · next hpos => exact .inr ⟨hpos, rfl⟩

/-! ## 5. What a poll does to the times -/

section

variable {package : AddressPackage} {r : Store} {live : Live} {snapshot : Snapshot}
  {source : MemberObservation}

/-- The times of a row, next to what it says of the last known sample. -/
structure Times where
  online : Option Bool
  statusObservedAt : Option Int
  observationControllerStartedAt : Option Int
  lastSeen : Option Int
  sourceLastOnlineAt : Option Int
  lastOnlineAt : Option Int
  lastOfflineAt : Option Int
deriving DecidableEq

def MemberRow.times (row : MemberRow) : Times :=
  ⟨row.online, row.statusObservedAt, row.observationControllerStartedAt, row.lastSeen,
    row.sourceLastOnlineAt,
    row.lastOnlineAt, row.lastOfflineAt⟩

/-- A sample that is not known leaves the times alone. -/
theorem pollOnce_unknown (h : known r.row.id r.row.creationTime live = none) :
    (pollOnce package r live).row.times = r.row.times := by
  rw [pollOnce_eq, observeMember_unknown h]
  dsimp only
  split
  · unfold interruption
    split <;> rfl
  · rfl

/-- **A known sample.** -/
theorem pollOnce_known (h : known r.row.id r.row.creationTime live = some (snapshot, source)) :
    (pollOnce package r live).row.times =
      { online := some source.online
        statusObservedAt := some snapshot.clock
        observationControllerStartedAt := some snapshot.controllerStartedAt
        lastSeen := if source.observed then some source.lastSeen else r.row.lastSeen
        sourceLastOnlineAt := if source.observed then some source.lastOnline
          else r.row.sourceLastOnlineAt
        lastOnlineAt := if source.online then lastOnlineAt r.row snapshot source
          else r.row.lastOnlineAt
        lastOfflineAt :=
          if !source.online && r.row.statusObservedAt.isSome && r.row.online == some true then
            some (lastOfflineAt snapshot source)
          else r.row.lastOfflineAt } := by
  rw [pollOnce_eq, observeMember_known h]
  dsimp only
  rw [MemberRow.update_dropUnchanged, MemberRow.times, Times.mk.injEq]
  refine ⟨rfl, rfl, rfl, ?_, ?_, ?_, ?_⟩
  · cases hobserved : source.observed <;> simp [MemberRow.update, observedData, hobserved]
  · cases hobserved : source.observed <;> simp [MemberRow.update, observedData, hobserved]
  · cases honline : source.online <;> simp [MemberRow.update, observedData, honline]
  · simp only [MemberRow.update, observedData]
    split <;> rfl

end

/-! ## 6. The order of the times -/

/-- The times of a row are in order, wherever they are set. -/
structure Times.Ordered (t : Times) : Prop where
  lastOnlineAt_le : ∀ a ∈ t.lastOnlineAt, ∀ b ∈ t.lastSeen, a ≤ b
  lastSeen_le : ∀ a ∈ t.lastSeen, ∀ b ∈ t.statusObservedAt, a ≤ b
  lastOfflineAt_le : ∀ a ∈ t.lastOfflineAt, ∀ b ∈ t.statusObservedAt, a ≤ b

/-- The time is before the start, or before the member was last heard since. -/
def OnlineBefore (c : Controller) (id : PyStr) (a : Int) : Prop :=
  a ≤ c.startTime ∨ 0 < (c.memberStatus id).lastRequestTime ∧
    a ≤ (c.memberStatus id).lastRequestTime

/-- The invariant: where the times of a row are, next to what the controller keeps of the member. -/
structure Timed (c : Controller) (id : PyStr) (creationTime : Int) (t : Times) : Prop where
  ordered : t.Ordered
  statusObservedAt_le : ∀ a ∈ t.statusObservedAt, a ≤ c.now
  lastOnlineAt_le : ∀ a ∈ t.lastOnlineAt, OnlineBefore c id a
  observationControllerStartedAt_le : ∀ a ∈ t.observationControllerStartedAt, a ≤ c.startTime
  unobserved : t.statusObservedAt = none → t.lastOnlineAt = none ∧ t.lastOfflineAt = none ∧
    ∀ a ∈ t.lastSeen, a ≤ max creationTime c.now

section

variable {p : ControllerPackage} {package : AddressPackage} {c : Controller} {id : PyStr}
  {creationTime : Int}
  {t : Times} {r : Store} {q : Poll}

/-- Nothing of a row that no poll has observed is set but `lastSeen`. -/
theorem timed_of_unobserved {row : MemberRow} (h : row.Unobserved)
    (hlastSeen : ∀ a ∈ row.lastSeen, a ≤ max row.creationTime c.now) :
    Timed c row.id row.creationTime row.times := by
  obtain ⟨hobserved, honline, hoffline, hstarted⟩ := h
  refine ⟨⟨?_, ?_, ?_⟩, ?_, ?_, ?_, fun _ => ⟨honline, hoffline, hlastSeen⟩⟩
  · simp [MemberRow.times, honline]
  · simp [MemberRow.times, hobserved]
  · simp [MemberRow.times, hoffline]
  · simp [MemberRow.times, hobserved]
  · simp [MemberRow.times, honline]
  · simp [MemberRow.times, hstarted]

/-- What the controller does keeps the invariant, where its clock and its start do not move back,
and what it has heard of the member is kept or is before the start. -/
theorem Timed.controller {c' : Controller} (h : Timed c id creationTime t) (hnow : c.now ≤ c'.now)
    (hstart : c.startTime ≤ c'.startTime)
    (hheard : 0 < (c.memberStatus id).lastRequestTime →
      (c.memberStatus id).lastRequestTime ≤ c'.startTime ∨
        (c.memberStatus id).lastRequestTime ≤ (c'.memberStatus id).lastRequestTime) :
    Timed c' id creationTime t where
  ordered := h.ordered
  statusObservedAt_le a ha := (h.statusObservedAt_le a ha).trans hnow
  lastOnlineAt_le a ha := by
    rcases h.lastOnlineAt_le a ha with hbefore | ⟨hpos, hle⟩
    · exact .inl (hbefore.trans hstart)
    · rcases hheard hpos with hended | hkept
      · exact .inl (hle.trans hended)
      · exact .inr ⟨hpos.trans_le hkept, hle.trans hkept⟩
  observationControllerStartedAt_le a ha := (h.observationControllerStartedAt_le a ha).trans hstart
  unobserved hnone := by
    obtain ⟨honline, hoffline, hseen⟩ := h.unobserved hnone
    exact ⟨honline, hoffline, fun a ha => (hseen a ha).trans (max_le_max_left _ hnow)⟩

theorem Timed.tick (h : Timed c id creationTime t) (ms : Nat) :
    Timed { c with now := c.now + ms } id creationTime t :=
  h.controller (by dsimp only; omega) le_rfl fun _ => .inr le_rfl

/-- A restart: all that the controller has heard is before its new start. -/
theorem Timed.restart (h : Timed c id creationTime t) (hc : c.Sound) {now : Int}
    (hnow : c.now ≤ now) :
    Timed ⟨now, now, noMemberStatus⟩ id creationTime t := by
  refine h.controller hnow (hc.startTime.trans hnow) fun hpos => .inl ?_
  rcases hc.heard id with hnone | ⟨-, -, hle⟩
  · rw [hnone] at hpos
    exact absurd hpos (lt_irrefl 0)
  · exact hle.trans hnow

theorem Timed.request (h : Timed c id creationTime t) (hc : c.Sound) (id' : PyStr) :
    Timed (c.request p id') id creationTime t :=
  h.controller request_now.ge request_startTime.ge fun hpos =>
    .inr (lastRequestTime_le_request hc p id' id hpos)

theorem OnlineBefore.le_now {a : Int} (h : OnlineBefore c id a) (hc : c.Sound) : a ≤ c.now := by
  rcases h with hbefore | ⟨hpos, hle⟩
  · exact hbefore.trans hc.startTime
  · rcases hc.heard id with hnone | ⟨-, -, hnow⟩
    · rw [hnone] at hpos
      exact absurd hpos (lt_irrefl 0)
    · exact hle.trans hnow

/-- A member that has been heard was online before it was heard last. -/
theorem OnlineBefore.le_lastRequestTime {a : Int} (h : OnlineBefore c id a) (hc : c.Sound)
    (hpos : 0 < (c.memberStatus id).lastRequestTime) : a ≤ (c.memberStatus id).lastRequestTime := by
  rcases h with hbefore | ⟨-, hle⟩
  · rcases hc.heard id with hnone | ⟨hstart, honline, -⟩
    · rw [hnone] at hpos
      exact absurd hpos (lt_irrefl 0)
    · exact hbefore.trans (hstart.trans honline)
  · exact hle

/-- What a known sample makes of the time since when the member is online. -/
theorem onlineBefore_sample (db : MemberRow) {snapshot : Snapshot} {source : MemberObservation}
    (h : ∀ a ∈ db.lastOnlineAt, OnlineBefore c id a) (hc : c.Sound)
    (hsample : Sampled p c id creationTime snapshot source) :
    ∀ a ∈ if source.online then lastOnlineAt db snapshot source else db.lastOnlineAt,
      OnlineBefore c id a := by
  intro a ha
  split at ha
  · next honline =>
    unfold lastOnlineAt at ha
    dsimp only at ha
    split at ha
    · exact h a ha
    · obtain rfl := Option.some.inj ha
      rw [hsample.source_eq] at honline ⊢
      rcases observation_cases p c id with ⟨hpos, hsource⟩ | ⟨-, hsource⟩
      · rw [hsource]
        rcases hc.heard id with hnone | ⟨-, hle, -⟩
        · rw [hnone] at hpos
          exact absurd hpos (lt_irrefl 0)
        · exact .inr ⟨hpos, hle⟩
      · rw [hsource] at honline
        cases honline
  · exact h a ha

/-- **A poll keeps the invariant.** -/
theorem Timed.poll (h : Timed c r.row.id r.row.creationTime r.row.times) (hc : c.Sound) :
    Timed c r.row.id r.row.creationTime (pollOnce package r (q.live p c r.row.id)).row.times := by
  cases hknown : known r.row.id r.row.creationTime (q.live p c r.row.id) with
  | none =>
    rw [pollOnce_unknown hknown]
    exact h
  | some k =>
    obtain ⟨snapshot, source⟩ := k
    have hsample := sampled_of_known hknown
    have honline := onlineBefore_sample r.row h.lastOnlineAt_le hc hsample
    obtain ⟨hclock, hstarted, hwindow, hsource, hobserved⟩ := hsample
    rw [pollOnce_known hknown]
    refine ⟨⟨?_, ?_, ?_⟩, ?_, honline, ?_, nofun⟩
    · intro a ha b hb
      dsimp only at ha hb
      rcases observation_cases p c r.row.id with ⟨hpos, hheard⟩ | ⟨-, hheard⟩
      · rw [hsource, hheard] at hb
        obtain rfl := Option.some.inj hb
        exact (honline a ha).le_lastRequestTime hc hpos
      · rw [hsource, hheard] at ha hb
        exact h.ordered.lastOnlineAt_le a ha b hb
    · intro a ha b hb
      dsimp only at ha hb
      obtain rfl := Option.some.inj hb
      rw [hclock]
      rcases observation_cases p c r.row.id with ⟨hpos, hheard⟩ | ⟨-, hheard⟩
      · rw [hsource, hheard] at ha
        obtain rfl := Option.some.inj ha
        exact OnlineBefore.le_now (.inr ⟨hpos, le_rfl⟩) hc
      · rw [hsource, hheard] at ha hobserved
        cases hdb : r.row.statusObservedAt with
        | none =>
          -- a member that is missing for a whole window has been there for one
          have hle := (h.unobserved hdb).2.2 a ha
          have hmissing := hobserved.resolve_left (Bool.false_ne_true)
          have hcreated := le_max_right snapshot.controllerStartedAt r.row.creationTime
          omega
        | some b => exact (h.ordered.lastSeen_le a ha b hdb).trans (h.statusObservedAt_le b hdb)
    · intro a ha b hb
      dsimp only at ha hb
      obtain rfl := Option.some.inj hb
      split at ha
      · obtain rfl := Option.some.inj ha
        exact min_le_left _ _
      · cases hdb : r.row.statusObservedAt with
        | none =>
          have hnone : r.row.lastOfflineAt = none := (h.unobserved hdb).2.1
          rw [hnone] at ha
          cases ha
        | some b =>
          rw [hclock]
          exact (h.ordered.lastOfflineAt_le a ha b hdb).trans (h.statusObservedAt_le b hdb)
    · intro a ha
      obtain rfl := Option.some.inj ha
      exact hclock.le
    · intro a ha
      obtain rfl := Option.some.inj ha
      exact hstarted.le

/-- **A transition to offline**: the member has gone offline after it came online. -/
theorem Timed.offline (h : Timed c r.row.id r.row.creationTime r.row.times) (hc : c.Sound)
    (hbefore : r.row.online = some true)
    (hafter : (pollOnce package r (q.live p c r.row.id)).row.online = some false) :
    ∀ a ∈ (pollOnce package r (q.live p c r.row.id)).row.lastOnlineAt,
      ∃ b ∈ (pollOnce package r (q.live p c r.row.id)).row.lastOfflineAt, a ≤ b := by
  change ∀ a ∈ (pollOnce package r (q.live p c r.row.id)).row.times.lastOnlineAt,
    ∃ b ∈ (pollOnce package r (q.live p c r.row.id)).row.times.lastOfflineAt, a ≤ b
  replace hafter : (pollOnce package r (q.live p c r.row.id)).row.times.online = some false :=
    hafter
  cases hknown : known r.row.id r.row.creationTime (q.live p c r.row.id) with
  | none =>
    rw [pollOnce_unknown hknown] at hafter
    exact absurd (hbefore.symm.trans hafter) (by decide)
  | some k =>
    obtain ⟨snapshot, source⟩ := k
    obtain ⟨hclock, hstarted, hwindow, hsource, -⟩ := sampled_of_known hknown
    rw [pollOnce_known hknown] at hafter ⊢
    have honline : source.online = false := Option.some.inj hafter
    intro a ha
    rw [honline] at ha
    have hdb : r.row.statusObservedAt.isSome = true := by
      rw [Option.isSome_iff_ne_none]
      intro hnone
      have hunset : r.row.lastOnlineAt = none := (h.unobserved hnone).1
      exact absurd (hunset.symm.trans ha) nofun
    refine ⟨lastOfflineAt snapshot source, ?_, ?_⟩
    · dsimp only
      rw [honline, hdb, hbefore]
      rfl
    · have hle : OnlineBefore c r.row.id a := h.lastOnlineAt_le a ha
      refine le_min (hclock ▸ hle.le_now hc) ?_
      rcases observation_cases p c r.row.id with ⟨hpos, hheard⟩ | ⟨hpos, hheard⟩
      · have hlast := hle.le_lastRequestTime hc hpos
        rw [hsource, hheard, if_pos rfl]
        dsimp only
        omega
      · have hbefore := hle.resolve_right fun h => hpos h.1
        rw [hsource, hheard, if_neg Bool.false_ne_true]
        omega

end

/-! ## 7. Runs -/

section

variable {p : ControllerPackage} {package : AddressPackage} {s s' : System} {i : Nat}

/-- The invariant of the system. -/
structure System.InOrder (s : System) : Prop where
  sound : s.controller.Sound
  timed : ∀ r ∈ s.rows, Timed s.controller r.row.id r.row.creationTime r.row.times

theorem System.Start.inOrder (h : s.Start) : s.InOrder where
  sound := ⟨h.startTime, fun _ => .inl (congrFun h.memberStatus _)⟩
  timed r hr := timed_of_unobserved (h.unobserved r hr) (h.lastSeen r hr)

theorem pollOnce_id (r : Store) (live : Live) : (pollOnce package r live).row.id = r.row.id :=
  (pollOnce_presence package r live).2.1

theorem pollOnce_creationTime (r : Store) (live : Live) :
    (pollOnce package r live).row.creationTime = r.row.creationTime :=
  (pollOnce_presence package r live).2.2.1

/-- A row behind a poll. -/
theorem getElem?_poll {r : Store} (hr : s.rows[i]? = some r) {q : Poll} :
    (s.poll p package q).rows[i]? = some (pollOnce package r (q.live p s.controller r.row.id)) := by
  change (s.rows.map _)[i]? = _
  rw [List.getElem?_map, hr]
  rfl

/-- A row is created without any observation, behind the others. -/
theorem step_create {row : MemberRow}
    (hstep : (systemMachine p package).step s (.create row) = some s') :
    row.New ∧ s' = { s with rows := s.rows ++ [⟨row, []⟩] } := by
  change (if row.New then _ else none) = some s' at hstep
  obtain ⟨hnew, hstep⟩ := Option.ite_none_right_eq_some.mp hstep
  exact ⟨hnew, (Option.some.inj hstep).symm⟩

theorem getElem?_create {r : Store} (hr : s.rows[i]? = some r) (created : Store) :
    (s.rows ++ [created])[i]? = some r := by
  rw [List.getElem?_append_left (List.getElem?_eq_some_iff.mp hr).1, hr]

/-- The step lemma. -/
theorem System.InOrder.step (h : s.InOrder) {event : SystemEvent}
    (hstep : (systemMachine p package).step s event = some s') : s'.InOrder := by
  obtain ⟨hc, hrows⟩ := h
  cases event with
  | tick ms =>
    cases hstep
    exact ⟨hc.tick ms, fun r hr => (hrows r hr).tick ms⟩
  | restart ms =>
    cases hstep
    exact ⟨sound_restart _, fun r hr => (hrows r hr).restart hc (by omega)⟩
  | request id =>
    cases hstep
    exact ⟨hc.request p id, fun r hr => (hrows r hr).request hc id⟩
  | create row =>
    obtain ⟨hnew, rfl⟩ := step_create hstep
    refine ⟨hc, fun r hr => ?_⟩
    rcases List.mem_append.mp hr with hr | hr
    · exact hrows r hr
    · obtain rfl := List.mem_singleton.mp hr
      exact timed_of_unobserved hnew.1 fun a ha => (hnew.2 a ha).trans (le_max_left _ _)
  | poll q =>
    cases hstep
    refine ⟨hc, fun r' hr' => ?_⟩
    obtain ⟨r, hr, rfl⟩ := List.mem_map.mp hr'
    rw [pollOnce_id, pollOnce_creationTime]
    exact (hrows r hr).poll hc

/-- The run lemma. -/
theorem System.InOrder.run (h : s.InOrder) {es : List SystemEvent}
    (hrun : (systemMachine p package).run s es = some s') : s'.InOrder :=
  Machine.run_invariant (P := System.InOrder) (fun _ _ _ ht hstep => ht.step hstep) es h hrun

/-! ## 8. Restarts

A restart alone: between the last known sample before it and the first one behind it, the member may
do as it likes; from then on, it does not go offline in a process of the controller in which it has
been observed, and no known sample says that it is offline.
-/

/-- The event is not a known sample of the member of row `i`. -/
def unsampled (p : ControllerPackage) (i : Nat) (s : System) : SystemEvent → Bool
  | .poll q => s.rows[i]?.all fun r =>
    knownOnline r.row.id r.row.creationTime (q.live p s.controller r.row.id) = none
  | _ => true

/-- The event does not tell that the member of row `i` has been offline. -/
def steady (p : ControllerPackage) (i : Nat) (s : System) : SystemEvent → Bool
  | .request id => s.rows[i]?.all fun r =>
    r.row.id ≠ id || r.row.observationControllerStartedAt ≠ some s.controller.startTime ||
      p.online (s.controller.memberStatus id).lastRequestTime s.controller.now
  | .poll q => s.rows[i]?.all fun r =>
    knownOnline r.row.id r.row.creationTime (q.live p s.controller r.row.id) ≠ some false
  | _ => true

/-- The row has last observed the member online, since `a`. -/
structure ObservedOnline (a : Int) (t : Times) : Prop where
  online : t.online = some true
  statusObservedAt : t.statusObservedAt.isSome = true
  lastOnlineAt : t.lastOnlineAt = some a

/-- Next to it: the process that the row has last observed still keeps what it has observed. -/
structure OnlineSince (c : Controller) (id : PyStr) (a : Int) (t : Times) :
    Prop extends ObservedOnline a t where
  source : t.observationControllerStartedAt = some c.startTime →
    0 < (c.memberStatus id).lastRequestTime ∧
    t.sourceLastOnlineAt = some (c.memberStatus id).lastOnlineTime

section

variable {c : Controller} {id : PyStr} {creationTime a : Int} {t : Times} {r : Store} {q : Poll}

theorem exists_known_of_knownOnline {live : Live} {online : Bool}
    (h : knownOnline id creationTime live = some online) :
    ∃ snapshot source, known id creationTime live = some (snapshot, source) ∧
      source.online = online := by
  obtain ⟨⟨snapshot, source⟩, hknown, honline⟩ := Option.map_eq_some_iff.mp h
  exact ⟨snapshot, source, hknown, honline⟩

/-- A known sample that observes the member online. -/
theorem onlineSince_sample {snapshot : Snapshot} {source : MemberObservation}
    (hknown : known r.row.id r.row.creationTime (q.live p c r.row.id) = some (snapshot, source))
    (honline : source.online = true) (hlast : lastOnlineAt r.row snapshot source = some a) :
    OnlineSince c r.row.id a (pollOnce package r (q.live p c r.row.id)).row.times := by
  obtain ⟨-, hstarted, -, hsource, -⟩ := sampled_of_known hknown
  rw [pollOnce_known hknown]
  refine ⟨⟨congrArg some honline, rfl, ?_⟩, fun _ => ?_⟩
  · dsimp only
    rw [honline, if_pos rfl, hlast]
  · dsimp only
    rw [hsource] at honline ⊢
    rcases observation_cases p c r.row.id with ⟨hpos, hheard⟩ | ⟨-, hheard⟩
    · rw [hheard]
      exact ⟨hpos, rfl⟩
    · rw [hheard] at honline
      cases honline

/-- The time since when a member is online is set. -/
theorem exists_lastOnlineAt (db : MemberRow) (snapshot : Snapshot) (source : MemberObservation) :
    ∃ a, lastOnlineAt db snapshot source = some a := by
  unfold lastOnlineAt
  dsimp only
  split
  · next hpreserve => exact Option.isSome_iff_exists.mp hpreserve.2.2.1
  · exact ⟨_, rfl⟩

/-- **A poll that still observes the member online** keeps the time: the process is another one, or
says the same. -/
theorem OnlineSince.poll (h : OnlineSince c r.row.id a r.row.times)
    (hsteady : knownOnline r.row.id r.row.creationTime (q.live p c r.row.id) ≠ some false) :
    OnlineSince c r.row.id a (pollOnce package r (q.live p c r.row.id)).row.times := by
  cases hknown : known r.row.id r.row.creationTime (q.live p c r.row.id) with
  | none =>
    rw [pollOnce_unknown hknown]
    exact h
  | some k =>
    obtain ⟨snapshot, source⟩ := k
    rw [knownOnline_some hknown, Ne, Option.some.injEq, Bool.not_eq_false] at hsteady
    refine onlineSince_sample hknown hsteady ?_
    obtain ⟨-, hstarted, -, hsource, -⟩ := sampled_of_known hknown
    unfold Observation.lastOnlineAt
    dsimp only
    rw [if_pos]
    · exact h.lastOnlineAt
    · refine ⟨h.statusObservedAt, h.online, Option.isSome_iff_exists.mpr ⟨a, h.lastOnlineAt⟩, ?_⟩
      by_cases hboot : r.row.observationControllerStartedAt = some snapshot.controllerStartedAt
      · obtain ⟨hpos, hlast⟩ := h.source (hstarted ▸ hboot)
        right
        rcases observation_cases p c r.row.id with ⟨-, hheard⟩ | ⟨hnone, -⟩
        · rw [hsource, hheard]
          exact hlast
        · exact absurd hpos hnone
      · exact .inl hboot

/-- A restart: the process is another one than the row has observed. -/
theorem ObservedOnline.restart (h : ObservedOnline a t) (ht : Timed c id creationTime t)
    (hc : c.Sound) {now : Int}
    (hnow : c.now < now) : OnlineSince ⟨now, now, noMemberStatus⟩ id a t where
  toObservedOnline := h
  source hboot := by
    have hle := ht.observationControllerStartedAt_le now hboot
    exact absurd hnow (not_lt.mpr (hle.trans hc.startTime))

/-- A request of a member that has not gone offline. -/
theorem OnlineSince.request (h : OnlineSince c id a t) (hc : c.Sound) {id' : PyStr}
    (hsteady : id ≠ id' ∨ t.observationControllerStartedAt ≠ some c.startTime ∨
      p.online (c.memberStatus id').lastRequestTime c.now = true) :
    OnlineSince (c.request p id') id a t where
  toObservedOnline := h.toObservedOnline
  source hboot := by
    rw [request_startTime] at hboot
    obtain ⟨hpos, hlast⟩ := h.source hboot
    rcases request_memberStatus p c id' id with hsame | ⟨rfl, hnew⟩
    · rw [hsame]
      exact ⟨hpos, hlast⟩
    · have honline := (hsteady.resolve_left fun h => h rfl).resolve_left fun h => h hboot
      rw [hnew, if_neg (by simp [hpos.ne', honline])]
      refine ⟨?_, hlast⟩
      rcases hc.heard id with hnone | ⟨-, -, hle⟩
      · rw [hnone] at hpos
        exact absurd hpos (lt_irrefl 0)
      · exact hpos.trans_le hle

end

/-- The row stays where it is, and a poll that does not know the member leaves its times alone. -/
theorem getElem?_step {r : Store} (hr : s.rows[i]? = some r) {event : SystemEvent}
    (hunsampled : unsampled p i s event = true)
    (hstep : (systemMachine p package).step s event = some s') :
    ∃ r', s'.rows[i]? = some r' ∧ r'.row.times = r.row.times := by
  cases event with
  | tick ms =>
    cases hstep
    exact ⟨r, hr, rfl⟩
  | restart ms =>
    cases hstep
    exact ⟨r, hr, rfl⟩
  | request id =>
    cases hstep
    exact ⟨r, hr, rfl⟩
  | create row =>
    obtain ⟨-, rfl⟩ := step_create hstep
    exact ⟨r, getElem?_create hr _, rfl⟩
  | poll q =>
    cases hstep
    simp only [unsampled, hr, Option.all_some, decide_eq_true_eq] at hunsampled
    exact ⟨_, getElem?_poll hr, pollOnce_unknown (Option.map_eq_none_iff.mp hunsampled)⟩

/-- Row `i` has last observed its member online, since `a`. -/
def ObservedOnlineAt (i : Nat) (a : Int) (s : System) : Prop :=
  ∃ r, s.rows[i]? = some r ∧ ObservedOnline a r.row.times

theorem ObservedOnlineAt.run {a : Int} (h : ObservedOnlineAt i a s) {es : List SystemEvent}
    (hunsampled : (systemMachine p package).Conforms
      (fun s event => unsampled p i s event = true) s es)
    (hrun : (systemMachine p package).run s es = some s') : ObservedOnlineAt i a s' := by
  refine Machine.run_invariant_of_conforms (P := ObservedOnlineAt i a)
    (fun t event t' ht hok hstep => ?_) es h
    hunsampled hrun
  obtain ⟨r, hr, honline⟩ := ht
  obtain ⟨r', hr', htimes⟩ := getElem?_step hr hok hstep
  exact ⟨r', hr', htimes ▸ honline⟩

/-- Next to it: the controller still keeps what the row has observed. -/
def OnlineAt (i : Nat) (a : Int) (s : System) : Prop :=
  ∃ r, s.rows[i]? = some r ∧ OnlineSince s.controller r.row.id a r.row.times

/-- The step lemma. -/
theorem OnlineAt.step {a : Int} (h : OnlineAt i a s) (hs : s.InOrder) {event : SystemEvent}
    (hsteady : steady p i s event = true)
    (hstep : (systemMachine p package).step s event = some s') :
    OnlineAt i a s' := by
  obtain ⟨r, hr, hsince⟩ := h
  have hmem := List.mem_of_getElem? hr
  cases event with
  | tick ms =>
    cases hstep
    exact ⟨r, hr, hsince.toObservedOnline, hsince.source⟩
  | restart ms =>
    cases hstep
    exact ⟨r, hr, hsince.toObservedOnline.restart (hs.timed r hmem) hs.sound (by omega)⟩
  | request id =>
    cases hstep
    simp only [steady, hr, Option.all_some, Bool.or_eq_true, decide_eq_true_eq] at hsteady
    exact ⟨r, hr, hsince.request hs.sound (or_assoc.mp hsteady)⟩
  | create row =>
    obtain ⟨-, rfl⟩ := step_create hstep
    exact ⟨r, getElem?_create hr _, hsince⟩
  | poll q =>
    cases hstep
    simp only [steady, hr, Option.all_some, decide_eq_true_eq] at hsteady
    refine ⟨_, getElem?_poll hr, ?_⟩
    rw [pollOnce_id]
    exact hsince.poll hsteady

/-- The run lemma. -/
theorem OnlineAt.run {a : Int} (h : OnlineAt i a s) (hs : s.InOrder) {es : List SystemEvent}
    (hsteady : (systemMachine p package).Conforms (fun s event => steady p i s event = true) s es)
    (hrun : (systemMachine p package).run s es = some s') : OnlineAt i a s' :=
  (Machine.run_invariant_of_conforms (P := fun s => s.InOrder ∧ OnlineAt i a s)
    (fun _ _ _ ht hok hstep => ⟨ht.1.step hstep, ht.2.step ht.1 hok hstep⟩) es
    ⟨hs, h⟩ hsteady hrun).2

/-- **The times stay in order**, in every run of the controller and the polls: in every row; at a
transition to offline; and a restart alone does not move the time since when a member is online that
has been observed online. -/
theorem time_fields_ordered (p : ControllerPackage) (package : AddressPackage) {start : System}
    (hstart : start.Start) {es : List SystemEvent} {s : System}
    (hrun : (systemMachine p package).run start es = some s) :
    (∀ r ∈ s.rows, r.row.times.Ordered) ∧
    (∀ r ∈ s.rows, ∀ q : Poll, r.row.online = some true →
      (pollOnce package r (q.live p s.controller r.row.id)).row.online = some false →
      ∀ a ∈ (pollOnce package r (q.live p s.controller r.row.id)).row.lastOnlineAt,
        ∃ b ∈ (pollOnce package r (q.live p s.controller r.row.id)).row.lastOfflineAt, a ≤ b) ∧
    (∀ i r, s.rows[i]? = some r → ∀ q : Poll,
      knownOnline r.row.id r.row.creationTime (q.live p s.controller r.row.id) = some true →
      ∃ a, (pollOnce package r (q.live p s.controller r.row.id)).row.lastOnlineAt = some a ∧
        ∀ fs s₁, (systemMachine p package).run (s.poll p package q) fs = some s₁ →
          (systemMachine p package).Conforms (fun s event => unsampled p i s event = true)
            (s.poll p package q) fs →
          ∀ ms gs s₂, (systemMachine p package).run s₁ (.restart ms :: gs) = some s₂ →
            (systemMachine p package).Conforms (fun s event => steady p i s event = true)
              s₁ (.restart ms :: gs) →
            ∃ r₂, s₂.rows[i]? = some r₂ ∧ r₂.row.lastOnlineAt = some a) := by
  have hs := hstart.inOrder.run hrun
  refine ⟨fun r hr => (hs.timed r hr).ordered, fun r hr q => (hs.timed r hr).offline hs.sound,
    fun i r hr q hobserved => ?_⟩
  obtain ⟨snapshot, source, hknown, honline⟩ := exists_known_of_knownOnline hobserved
  obtain ⟨a, hlast⟩ := exists_lastOnlineAt r.row snapshot source
  have hsince : OnlineSince s.controller r.row.id a
      (pollOnce package r (q.live p s.controller r.row.id)).row.times :=
        onlineSince_sample hknown honline hlast
  refine ⟨a, hsince.lastOnlineAt, fun fs s₁ hbefore hunsampled ms gs s₂ hafter hsteady => ?_⟩
  have hs' : (s.poll p package q).InOrder :=
    hs.step (show (systemMachine p package).step s (.poll q) = some (s.poll p package q) from rfl)
  have hs₁ := hs'.run hbefore
  have hpolled : ObservedOnlineAt i a (s.poll p package q) :=
    ⟨_, getElem?_poll hr, hsince.toObservedOnline⟩
  obtain ⟨r₁, hr₁, honline₁⟩ := hpolled.run hunsampled hbefore
  -- the restart, and the run behind it
  obtain ⟨t, hrestart, hgs⟩ := Machine.run_cons_eq_some.mp hafter
  have ht := hs₁.step hrestart
  have hrestarted : OnlineAt i a t := by
    cases hrestart
    exact ⟨r₁, hr₁, honline₁.restart (hs₁.timed r₁ (List.mem_of_getElem? hr₁)) hs₁.sound (by omega)⟩
  obtain ⟨r₂, hr₂, hsince₂⟩ := hrestarted.run ht (hsteady.2 t hrestart) hgs
  exact ⟨r₂, hr₂, hsince₂.lastOnlineAt⟩

/-- The constants of the controller, where a member is online for two of its delays. -/
def exampleController : ControllerPackage :=
  ⟨1000, 60000, fun lastRequestTime now => now - lastRequestTime < 120000⟩

def exampleStart : System := ⟨⟨1000000, 1000000, noMemberStatus⟩, [⟨freshRow, []⟩]⟩

def examplePoll : Poll := ⟨.members [freshRow.id], true, fun _ => []⟩

/-- The member comes online. -/
def exampleOnline : List SystemEvent := [.tick 5000, .request freshRow.id, .tick 5000]

/-- The controller is restarted, and the member is heard again, behind a poll that does not know it.
-/
def exampleRestart : List SystemEvent :=
  [.restart 20000, .poll examplePoll, .request freshRow.id, .tick 1000, .poll examplePoll]

theorem time_fields_ordered_example :
    ∃ s, (systemMachine exampleController examplePackage).run exampleStart exampleOnline = some s ∧
      (∀ r ∈ s.rows, r.row.times.Ordered) ∧
      ∃ s₂, (systemMachine exampleController examplePackage).run
        (s.poll exampleController examplePackage examplePoll)
          exampleRestart = some s₂ ∧
        ∃ r₂, s₂.rows[0]? = some r₂ ∧ r₂.row.lastOnlineAt = some 1005000 := by
  have hstart : exampleStart.Start :=
    { startTime := le_rfl
      memberStatus := rfl
      unobserved := fun r hr => by
        obtain rfl := List.mem_singleton.mp hr
        decide
      lastSeen := fun r hr => by
        obtain rfl := List.mem_singleton.mp hr
        exact nofun }
  refine Machine.exists_run (P := fun s => ∃ r ∈ s.rows[0]?,
    knownOnline r.row.id r.row.creationTime
      (examplePoll.live exampleController s.controller r.row.id) = some true ∧
    (pollOnce examplePackage r (examplePoll.live exampleController s.controller
      r.row.id)).row.lastOnlineAt
      = some 1005000 ∧
    (((systemMachine exampleController examplePackage).run
      (s.poll exampleController examplePackage examplePoll)
      exampleRestart).any fun s₂ => decide (s₂.rows.length = 1)) = true ∧
    (systemMachine exampleController examplePackage).Conforms
      (fun s event => steady exampleController 0 s event = true)
      (s.poll exampleController examplePackage examplePoll)
      exampleRestart) (by decide +kernel) ?_
  rintro s hrun ⟨r, hr, hobserved, hlast, hafter, hsteady⟩
  obtain ⟨hordered, -, hrestart⟩ := time_fields_ordered exampleController examplePackage hstart hrun
  obtain ⟨s₂, hs₂, -⟩ := (Option.any_eq_true _ _).mp hafter
  obtain ⟨a, ha, hkept⟩ := hrestart 0 r hr examplePoll hobserved
  obtain rfl := Option.some.inj (ha.symm.trans hlast)
  exact ⟨hordered, s₂, hs₂, hkept [] _ rfl trivial _ _ s₂ hs₂ hsteady⟩

end

end ZtPlanet.Ztnet.Observation
