/-
# Who looks at a network

A socket that subscribes to a network is one viewer more, and one less when it unsubscribes or
disconnects.  The handler of a subscription looks at the socket's set of networks first, waits for
the access check, and adds the network to the set and acquires it then.  What has happened to the
socket in between it does not ask: another check of the same network may have been granted, and the
socket may be gone.

`balanced_iff` says that the viewers are counted right exactly if neither is the case.
-/
import ZtPlanet.Ztnet.SyncManager

namespace ZtPlanet.Ztnet.Sync

open ZtPlanet.Lib

/-! ## 1. The handlers of a connection -/

abbrev SocketId : Type := Nat
abbrev CheckId : Type := Nat

/-- A socket, with the variables of its `connection` handler. -/
structure Socket where
  userId : Option UserId
  connected : Bool
  /-- the set `subscribed`, whose elements come in the order of their insertion -/
  subscribed : Dict NetworkId Unit

/-- A call of `checkNetworkAccess` that a subscription waits for. -/
structure Check where
  socket : SocketId
  userId : UserId
  nwid : NetworkId

/-- The sockets of the server, and its `syncManager`. -/
structure Gateway where
  io : SocketServer
  manager : SyncManager
  sockets : Dict SocketId Socket
  checks : Dict CheckId Check
  nextCheck : CheckId

/-- The server before its first connection. -/
def Gateway.new : Gateway := ⟨0, SyncManager.new, Dict.empty, Dict.empty, 0⟩

/-- `subscribe:network`, up to its access check. -/
def Gateway.subscribe (g : Gateway) (id : SocketId) (socket : Socket) (nwid : Option NetworkId) :
    Gateway :=
  match nwid, socket.userId with
  | some nwid, some userId =>
    if socket.subscribed.contains nwid then g
    else
      { g with
        checks := g.checks.set g.nextCheck ⟨id, userId, nwid⟩
        nextCheck := g.nextCheck + 1 }
  | _, _ => g

/-- `subscribe:network`, behind its access check. -/
def Gateway.settle (g : Gateway) (check : Check) (socket : Socket) (granted : Bool) : Gateway :=
  if granted then
    { g with
      sockets := g.sockets.set check.socket
        { socket with subscribed := socket.subscribed.set check.nwid () }
      manager := g.manager.acquire g.io check.userId check.nwid }
  else g

/-- `unsubscribe:network`. -/
def Gateway.unsubscribe (g : Gateway) (id : SocketId) (socket : Socket) (nwid : Option NetworkId) :
    Gateway :=
  match nwid with
  | none => g
  | some nwid =>
    if socket.subscribed.contains nwid then
      { g with
        sockets := g.sockets.set id { socket with subscribed := socket.subscribed.erase nwid }
        manager := g.manager.release nwid }
    else g

/-- `disconnect`. -/
def Gateway.disconnect (g : Gateway) (id : SocketId) (socket : Socket) : Gateway :=
  { g with
    sockets := g.sockets.set id { socket with connected := false, subscribed := Dict.empty }
    manager := socket.subscribed.keys.foldl SyncManager.release g.manager }

/-- What can happen next. -/
inductive SocketEvent where
  | connect (id : SocketId) (userId : Option UserId)
  | subscribe (id : SocketId) (nwid : Option NetworkId)
  /-- an access check is settled -/
  | settle (id : CheckId) (granted : Bool)
  | unsubscribe (id : SocketId) (nwid : Option NetworkId)
  | disconnect (id : SocketId)
  /-- the end of a tick -/
  | finish (id : TickId) (hash : Option String)
  /-- a timer elapses -/
  | fire (timer : TimerId)
deriving DecidableEq

/-- The socket, while it is connected. -/
def Gateway.online (g : Gateway) (id : SocketId) : Option Socket :=
  (g.sockets.get? id).filter Socket.connected

/-- The gateway as a machine.  A socket that is not connected any more sends no events. -/
def gateway : Machine Gateway SocketEvent where
  step g
    | .connect id userId =>
      if g.sockets.contains id then none
      else some { g with sockets := g.sockets.set id ⟨userId, true, Dict.empty⟩ }
    | .subscribe id nwid => (g.online id).map fun socket => g.subscribe id socket nwid
    | .settle id granted =>
      (g.checks.get? id).bind fun check =>
        (g.sockets.get? check.socket).map fun socket =>
          { g with checks := g.checks.erase id }.settle check socket granted
    | .unsubscribe id nwid => (g.online id).map fun socket => g.unsubscribe id socket nwid
    | .disconnect id => (g.online id).map fun socket => g.disconnect id socket
    | .finish id hash =>
      (machine.step g.manager (.finish id hash)).map fun manager => { g with manager := manager }
    | .fire timer =>
      (machine.step g.manager (.fire timer)).map fun manager => { g with manager := manager }

/-! ## 2. The balance -/

/-- Whether a socket is connected and subscribed to a network. -/
def Socket.views (socket : Socket) (nwid : NetworkId) : Bool :=
  socket.connected && socket.subscribed.contains nwid

/-- The number of connected sockets that are subscribed to a network. -/
def Gateway.viewers (g : Gateway) (nwid : NetworkId) : Nat :=
  g.sockets.total fun socket => if socket.views nwid then 1 else 0

/-- **The viewers are counted right.** -/
def Gateway.Balanced (g : Gateway) : Prop := ∀ nwid, g.manager.refCount nwid = g.viewers nwid

/-- A check that is granted finds its socket connected and not subscribed to the network. -/
def Gateway.expects (g : Gateway) : SocketEvent → Prop
  | .settle id true =>
    ((g.checks.get? id).all fun check => (g.sockets.get? check.socket).all fun socket =>
      socket.connected && !socket.subscribed.contains check.nwid) = true
  | _ => True

instance (g : Gateway) (event : SocketEvent) : Decidable (g.expects event) :=
  match event with
  | .settle id true => inferInstanceAs (Decidable
      (((g.checks.get? id).all fun check => (g.sockets.get? check.socket).all fun socket =>
        socket.connected && !socket.subscribed.contains check.nwid) = true))
  | .settle _ false => isTrue trivial
  | .connect _ _ => isTrue trivial
  | .subscribe _ _ => isTrue trivial
  | .unsubscribe _ _ => isTrue trivial
  | .disconnect _ => isTrue trivial
  | .finish _ _ => isTrue trivial
  | .fire _ => isTrue trivial

variable {g g' : Gateway} {id : SocketId} {socket : Socket} {nwid : NetworkId}

/-- A socket is replaced. -/
theorem viewers_set (hget : g.sockets.get? id = some socket) (socket' : Socket)
    (manager : SyncManager) (b : NetworkId) :
    { g with sockets := g.sockets.set id socket', manager := manager }.viewers b +
        (if socket.views b then 1 else 0) =
      g.viewers b + if socket'.views b then 1 else 0 := by
  have htotal := Dict.total_set g.sockets (fun socket => if socket.views b then 1 else 0) id socket'
  rw [hget] at htotal
  exact htotal

theorem views_le_viewers (hget : g.sockets.get? id = some socket)
    (hviews : socket.views nwid = true) :
    0 < g.viewers nwid := by
  have htotal := Dict.total_erase g.sockets (fun socket => if socket.views nwid then 1 else 0) id
  simp only [hget, Option.map_some, Option.getD_some, hviews, if_true] at htotal
  unfold Gateway.viewers
  omega

/-- `delete` of a network. -/
theorem views_erase (socket : Socket) (nwid b : NetworkId) :
    { socket with subscribed := socket.subscribed.erase nwid }.views b =
      (socket.views b && !decide (nwid = b)) := by
  by_cases hb : nwid = b <;> simp [Socket.views, Dict.contains, Dict.get?_erase, hb]

/-- `add` of a network. -/
theorem views_set (socket : Socket) (nwid b : NetworkId) :
    { socket with subscribed := socket.subscribed.set nwid () }.views b =
      (socket.connected && (decide (nwid = b) || socket.subscribed.contains b)) := by
  by_cases hb : nwid = b <;> simp [Socket.views, Dict.contains, Dict.get?_set, hb]

theorem get?_of_online (honline : g.online id = some socket) :
    g.sockets.get? id = some socket ∧ socket.connected = true := by
  simpa [Gateway.online, Option.filter_eq_some_iff] using honline

/-- What holds of every state whose viewers are counted right. -/
structure Counted (g : Gateway) : Prop where
  sound : Sound g.manager
  balanced : g.Balanced

theorem counted_new : Counted Gateway.new := ⟨sound_new, fun _ => rfl⟩

/-- A connected socket's networks have a viewer. -/
theorem Counted.pos (h : Counted g) (hget : g.sockets.get? id = some socket)
    (hviews : socket.views nwid = true) : 0 < g.manager.refCount nwid := by
  rw [h.balanced nwid]
  exact Int.natCast_pos.mpr (views_le_viewers hget hviews)

/-- Releasing each of some networks that have viewers. -/
theorem foldl_release : ∀ (l : List NetworkId) {m : SyncManager}, l.Nodup → Sound m →
    (∀ nwid ∈ l, 0 < m.refCount nwid) →
    Sound (l.foldl SyncManager.release m) ∧ ∀ b,
      (l.foldl SyncManager.release m).refCount b = m.refCount b - if b ∈ l then 1 else 0
  | [], m, _, h, _ => ⟨h, fun b => by simp⟩
  | nwid :: l, m, hnodup, h, hpos => by
    obtain ⟨hnot, hrest⟩ := List.nodup_cons.mp hnodup
    have hcount := refCount_release h (hpos nwid List.mem_cons_self)
    have hpos' : ∀ b ∈ l, 0 < (m.release nwid).refCount b := by
      intro b hb
      have hne : nwid ≠ b := by
        rintro rfl
        exact hnot hb
      rw [hcount]
      simpa [hne] using hpos b (List.mem_cons_of_mem _ hb)
    obtain ⟨hsound, hall⟩ := foldl_release l hrest (h.release nwid) hpos'
    refine ⟨hsound, fun b => ?_⟩
    rw [List.foldl_cons, hall b, hcount b]
    by_cases hb : nwid = b
    · subst hb
      simp [hnot]
    · simp [hb, Ne.symm hb]

/-! ## 3. Steps -/

theorem Counted.connect (h : Counted g) (hfree : g.sockets.contains id = false)
    (userId : Option UserId) :
    Counted { g with sockets := g.sockets.set id ⟨userId, true, Dict.empty⟩ } := by
  have hnone : g.sockets.get? id = none := by
    simpa [Dict.contains] using hfree
  refine ⟨h.sound, fun b => (h.balanced b).trans (congrArg Nat.cast ?_)⟩
  have htotal := Dict.total_set g.sockets (fun socket => if socket.views b then 1 else 0) id
    ⟨userId, true, Dict.empty⟩
  rw [hnone] at htotal
  exact htotal.symm

theorem Counted.subscribe (h : Counted g) (id : SocketId) (socket : Socket)
    (nwid : Option NetworkId) : Counted (g.subscribe id socket nwid) := by
  unfold Gateway.subscribe
  split
  · split
    · exact h
    · exact ⟨h.sound, h.balanced⟩
  · exact h

theorem Counted.unsubscribe (h : Counted g) (honline : g.online id = some socket)
    (nwid : Option NetworkId) : Counted (g.unsubscribe id socket nwid) := by
  obtain ⟨hget, hconnected⟩ := get?_of_online honline
  unfold Gateway.unsubscribe
  split
  · exact h
  · next nwid =>
    split
    · next hsub =>
      have hviews : socket.views nwid = true := by simp [Socket.views, hconnected, hsub]
      have hpos := h.pos hget hviews
      refine ⟨h.sound.release nwid, fun b => ?_⟩
      have hviewers := viewers_set hget
        { socket with subscribed := socket.subscribed.erase nwid } (g.manager.release nwid) b
      have hbalanced := h.balanced b
      refine (refCount_release h.sound hpos b).trans ?_
      rw [views_erase] at hviewers
      by_cases hb : nwid = b
      · subst hb
        simp only [hviews, decide_true, Bool.not_true, Bool.and_false, if_true] at hviewers ⊢
        simp only [Bool.false_eq_true, if_false] at hviewers
        omega
      · simp only [hb, decide_false, Bool.not_false, Bool.and_true, if_false] at hviewers ⊢
        omega
    · exact h

theorem Counted.disconnect (h : Counted g) (honline : g.online id = some socket) :
    Counted (g.disconnect id socket) := by
  obtain ⟨hget, hconnected⟩ := get?_of_online honline
  have hmem : ∀ b, b ∈ socket.subscribed.keys ↔ socket.views b = true := by
    intro b
    rw [Dict.mem_keys_iff, Socket.views, hconnected, Bool.true_and, Dict.contains_iff]
  obtain ⟨hsound, hcount⟩ := foldl_release socket.subscribed.keys socket.subscribed.nodup h.sound
    fun nwid hnwid => h.pos hget ((hmem nwid).mp hnwid)
  refine ⟨hsound, fun b => ?_⟩
  have hviewers := viewers_set hget { socket with connected := false, subscribed := Dict.empty }
    (socket.subscribed.keys.foldl SyncManager.release g.manager) b
  have hbalanced := h.balanced b
  have hgone : Socket.views { socket with connected := false, subscribed := Dict.empty } b =
    false :=
    rfl
  refine (hcount b).trans ?_
  change _ = ((Gateway.viewers { g with sockets := _, manager := _ } b : Nat) : Int)
  rw [hgone] at hviewers
  by_cases hb : socket.views b = true
  · simp only [hb, (hmem b).mpr hb, if_true, Bool.false_eq_true, if_false] at hviewers ⊢
    omega
  · simp only [hb, mt (hmem b).mp hb, if_false, Bool.false_eq_true] at hviewers ⊢
    omega

/-- A check that is granted for a connected socket that is not subscribed yet. -/
theorem Counted.settle (h : Counted g) {check : Check}
    (hget : g.sockets.get? check.socket = some socket) (hconnected : socket.connected = true)
    (hnew : socket.subscribed.contains check.nwid = false) (granted : Bool) :
    Counted (g.settle check socket granted) := by
  unfold Gateway.settle
  split
  · refine ⟨h.sound.acquire _ _ _, fun b => ?_⟩
    have hviewers := viewers_set hget
      { socket with subscribed := socket.subscribed.set check.nwid () }
      (g.manager.acquire g.io check.userId check.nwid) b
    have hbalanced := h.balanced b
    have hbefore : socket.views b = socket.subscribed.contains b := by
      simp [Socket.views, hconnected]
    have hafter : { socket with subscribed := socket.subscribed.set check.nwid () }.views b =
        (decide (check.nwid = b) || socket.subscribed.contains b) := by
      rw [views_set, hconnected, Bool.true_and]
    refine (refCount_acquire h.sound _ _ _ b).trans ?_
    rw [hafter, hbefore] at hviewers
    by_cases hb : check.nwid = b
    · subst hb
      simp only [hnew, decide_true, Bool.or_false, if_true, Bool.false_eq_true, if_false]
        at hviewers ⊢
      omega
    · simp only [hb, decide_false, Bool.false_or, if_false] at hviewers ⊢
      omega
  · exact h

/-- A check that is granted for a socket that is gone, or subscribed already: the network is
acquired, and nobody views it who did not before. -/
theorem not_balanced_of_settle (h : Counted g) {check : Check}
    (hget : g.sockets.get? check.socket = some socket)
    (hnot : (socket.connected && !socket.subscribed.contains check.nwid) = false) :
    ¬ (g.settle check socket true).Balanced := by
  intro hbalanced'
  have hviewers := viewers_set hget
    { socket with subscribed := socket.subscribed.set check.nwid () }
    (g.manager.acquire g.io check.userId check.nwid) check.nwid
  have hbalanced := h.balanced check.nwid
  have hafter := (refCount_acquire h.sound g.io check.userId check.nwid check.nwid).symm.trans
    (hbalanced' check.nwid)
  have hsame : { socket with subscribed := socket.subscribed.set check.nwid () }.views check.nwid =
      socket.views check.nwid := by
    rw [views_set]
    cases hconnected : socket.connected <;> simp_all [Socket.views]
  rw [hsame] at hviewers
  simp only [if_true] at hafter
  change _ = ((Gateway.viewers { g with sockets := _, manager := _ } check.nwid : Nat) : Int)
    at hafter
  omega

/-! ## 4. Runs -/

theorem expects_settle_iff {id : CheckId} {check : Check} (hcheck : g.checks.get? id = some check)
    (hget : g.sockets.get? check.socket = some socket) :
    g.expects (.settle id true) ↔
      (socket.connected && !socket.subscribed.contains check.nwid) = true := by
  simp [Gateway.expects, hcheck, hget]

theorem counted_step {event : SocketEvent} (h : Counted g) (hexpects : g.expects event)
    (hstep : gateway.step g event = some g') : Counted g' := by
  cases event with
  | connect id userId =>
    simp only [gateway] at hstep
    split at hstep
    · cases hstep
    · next hfree =>
      cases hstep
      exact h.connect (by simpa using hfree) userId
  | subscribe id nwid =>
    obtain ⟨socket, -, rfl⟩ := Option.map_eq_some_iff.mp hstep
    exact h.subscribe id socket nwid
  | settle id granted =>
    obtain ⟨check, hcheck, hstep⟩ := Option.bind_eq_some_iff.mp hstep
    obtain ⟨socket, hget, rfl⟩ := Option.map_eq_some_iff.mp hstep
    have hrest : Counted { g with checks := g.checks.erase id } := ⟨h.sound, h.balanced⟩
    cases granted with
    | false => exact hrest
    | true =>
      have hok := (expects_settle_iff hcheck hget).mp hexpects
      rw [Bool.and_eq_true, Bool.not_eq_true'] at hok
      exact hrest.settle hget hok.1 hok.2 true
  | unsubscribe id nwid =>
    obtain ⟨socket, honline, rfl⟩ := Option.map_eq_some_iff.mp hstep
    exact h.unsubscribe honline nwid
  | disconnect id =>
    obtain ⟨socket, honline, rfl⟩ := Option.map_eq_some_iff.mp hstep
    exact h.disconnect honline
  | finish id hash =>
    obtain ⟨m, hm, rfl⟩ := Option.map_eq_some_iff.mp hstep
    exact ⟨sound_step h.sound hm, fun b => (refCount_finish h.sound hm b).trans (h.balanced b)⟩
  | fire timer =>
    obtain ⟨m, hm, rfl⟩ := Option.map_eq_some_iff.mp hstep
    exact ⟨sound_step h.sound hm, fun b => (refCount_fire h.sound hm b).trans (h.balanced b)⟩

theorem not_balanced_of_not_expects {event : SocketEvent} (h : Counted g)
    (hnot : ¬ g.expects event) (hstep : gateway.step g event = some g') : ¬ g'.Balanced := by
  cases event with
  | settle id granted =>
    obtain ⟨check, hcheck, hstep⟩ := Option.bind_eq_some_iff.mp hstep
    obtain ⟨socket, hget, rfl⟩ := Option.map_eq_some_iff.mp hstep
    have hrest : Counted { g with checks := g.checks.erase id } := ⟨h.sound, h.balanced⟩
    cases granted with
    | false => exact absurd trivial hnot
    | true =>
      refine not_balanced_of_settle hrest hget ?_
      exact Bool.eq_false_iff.mpr (mt (expects_settle_iff hcheck hget).mpr hnot)
  | connect _ _ => exact absurd trivial hnot
  | subscribe _ _ => exact absurd trivial hnot
  | unsubscribe _ _ => exact absurd trivial hnot
  | disconnect _ => exact absurd trivial hnot
  | finish _ _ => exact absurd trivial hnot
  | fire _ => exact absurd trivial hnot

/-- **Where the viewers are counted right, nobody is counted who is gone.** -/
theorem Gateway.Balanced.refCount_eq_zero (h : g.Balanced)
    (hgone : ∀ id socket, g.sockets.get? id = some socket → socket.connected = false)
    (nwid : NetworkId) : g.manager.refCount nwid = 0 := by
  have hviewers : g.viewers nwid = 0 := by
    refine List.sum_eq_zero fun n hn => ?_
    obtain ⟨⟨id, socket⟩, hmem, rfl⟩ := List.mem_map.mp hn
    simp [Socket.views, hgone id socket (Dict.get?_eq_some_iff.mpr hmem)]
  rw [h nwid, hviewers]
  rfl

/-- **Subscriptions are balanced, exactly if every check that is granted finds its socket as it was
to be.**  In every run of the handlers, with any sockets and any outcomes of the checks, in all
states of the run the reference count of each network is the number of connected sockets that are
subscribed to it, if and only if every check that is granted finds its socket connected and not yet
subscribed to the network. -/
theorem balanced_iff (events : List SocketEvent) :
    (∀ es, es <+: events → ∀ g, gateway.run Gateway.new es = some g → g.Balanced) ↔
      gateway.Conforms Gateway.expects Gateway.new events := by
  refine Machine.holds_iff_conforms (I := Counted) (fun g h => h.balanced)
    (fun g e g' h hok => counted_step h hok) (fun g e g' h => not_balanced_of_not_expects h) ?_
    events counted_new
  intro g event hstuck
  cases event with
  | settle id granted =>
    cases granted with
    | false => trivial
    | true =>
      cases hcheck : g.checks.get? id with
      | none => simp [Gateway.expects, hcheck]
      | some check =>
        have hnone : g.sockets.get? check.socket = none := by
          simpa [gateway, hcheck] using hstuck
        simp [Gateway.expects, hcheck, hnone]
  | connect _ _ => trivial
  | subscribe _ _ => trivial
  | unsubscribe _ _ => trivial
  | disconnect _ => trivial
  | finish _ _ => trivial
  | fire _ => trivial

/-- A socket subscribes to network 7, and it is gone before its access check is granted. -/
def earlyDisconnect : List SocketEvent :=
  [.connect 1 (some 5), .subscribe 1 (some "7"), .disconnect 1, .settle 0 true]

/-- **A network that nobody looks at is counted.** -/
theorem early_disconnect_leaks :
    ∃ g, gateway.run Gateway.new earlyDisconnect = some g ∧ g.checks.size = 0 ∧
      (∀ id socket, g.sockets.get? id = some socket → socket.connected = false) ∧
      g.manager.refCount "7" = 1 ∧ ¬ g.Balanced := by
  refine Machine.exists_run (P := fun g => g.checks.size = 0 ∧
    (∀ entry ∈ g.sockets.entries, entry.2.connected = false) ∧ g.manager.refCount "7" = 1)
    (by decide +kernel) ?_
  rintro g - ⟨hchecks, hgone, hcount⟩
  have hoffline : ∀ id socket, g.sockets.get? id = some socket → socket.connected = false :=
    fun id socket hget => hgone (id, socket) (Dict.get?_eq_some_iff.mp hget)
  refine ⟨hchecks, hoffline, hcount, fun hbalanced => ?_⟩
  rw [hbalanced.refCount_eq_zero hoffline "7"] at hcount
  cases hcount

end ZtPlanet.Ztnet.Sync
