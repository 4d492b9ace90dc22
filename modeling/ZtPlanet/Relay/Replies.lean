/-
# What becomes of a reply

The response thread takes a datagram into a buffer of 4096 bytes, spends the credit of its source,
asks two rate windows and writes a frame.  Two things go wrong on the way.

`recv_from` cuts a longer datagram off without saying so, and the frame then holds its beginning.
A credit can pay for more than the buffer holds, so nothing behind it notices; the test of
`write_frame`, which refuses a reply that is too large for a frame, never sees one.

The credit is spent before the rate windows are asked, and a datagram that they refuse has cost its
source what it would have cost if it had been forwarded.  (The request loop asks its windows first,
and adds credit when the datagram has been sent.)
-/
import Mathlib.Data.List.Induction
import ZtPlanet.Relay.Amplification
import ZtPlanet.Relay.ClientFrame
import ZtPlanet.Relay.Settings

namespace ZtPlanet.Relay.Connection

open ZtPlanet.Lib

/-! ## 1. The reply in hand -/

/-- The datagram that arrived last. -/
def lastDatagram (events : List Event) : Option (SocketAddr × Payload) :=
  events.foldl
    (fun last e =>
      match e with
      | .response (.datagram source datagram) => some (source, datagram)
      | _ => last) none

/-- The reply that the response thread has in hand. -/
def Response.reply : Response → Option (SocketAddr × Payload)
  | .received source payload | .charging source payload | .sharing source payload _
  | .writing source payload => some (source, payload)
  | _ => none

/-- The destination that the request loop has in hand. -/
def Request.destination : Request → Option SocketAddr
  | .looking destination _ | .bounding destination _ | .charging destination _
  | .sharing destination _ _ | .sending destination _ => some destination
  | _ => none

def IsIpv4 (a : SocketAddr) : Prop := ∃ ip, a.ip = .v4 ip

theorem lastDatagram_append_one (events : List Event) (e : Event) :
    lastDatagram (events ++ [e]) =
      match e with
      | .response (.datagram source datagram) => some (source, datagram)
      | _ => lastDatagram events := by
  unfold lastDatagram
  rw [List.foldl_append]
  rfl

theorem Request.destination_of_target {r : Request} {d : SocketAddr} (h : r.target = some d) :
    r.destination = some d := by
  cases r <;> first | cases h; done | exact h

section

variable {cfg : Config} {s s' : Conn}

/-- The request loop takes up destinations of well-formed frames only. -/
theorem stepRequest_destination {e : RequestEvent} (h : stepRequest cfg s e = some s')
    {d : SocketAddr} (hd : s'.request.destination = some d) :
    s.request.destination = some d ∨ IsIpv4 d := by
  unfold stepRequest at h
  split at h
  · cases h
    cases hr : s.running <;> simp [hr, Request.destination] at hd
  · -- a record
    unfold onRecord at h
    split at h
    · dsimp only at h
      split at h
      · cases h
        cases hd
      · split at h
        · cases h
          cases hd
        · split at h
          · cases h
          · split at h
            · next frame _ _ destination payload hparse =>
              cases h
              cases hd
              obtain ⟨-, -, heq⟩ := ((client_frames _ _).1 _).mp hparse
              exact .inr ⟨_, congrArg SocketAddr.ip (congrArg Prod.fst heq)⟩
            · cases h
              cases hd
            · cases h
              cases hd
    · cases h
  · cases h
    cases hd
  · next hreq =>
    rw [hreq]
    split at h <;> cases h <;> exact .inl hd
  · next hreq =>
    rw [hreq]
    split at h <;> cases h
    · cases hd
    · exact .inl hd
  · next hreq =>
    rw [hreq]
    cases h
    exact .inl hd
  · next hreq =>
    rw [hreq]
    dsimp only at h
    split at h <;> cases h
    · cases hd
    · exact .inl hd
  · split at h <;> cases h <;> cases hd
  · cases h
    cases hd
  · cases h

/-- Only destinations that the request loop had in hand enter the table. -/
theorem stepRequest_known {e : RequestEvent} (h : stepRequest cfg s e = some s') {d : SocketAddr}
    (hd : s'.destinations.contains d = true) :
    s.destinations.contains d = true ∨ s.request.destination = some d := by
  obtain ⟨-, -, ⟨hdest, -, -⟩ | ⟨d', payload, htarget, -, hdest, -⟩⟩ := stepRequest_cases h
  · exact .inl (hdest ▸ hd)
  · by_cases heq : d' = d
    · exact .inr (heq ▸ Request.destination_of_target htarget)
    · rw [hdest, creditSend, Dict.contains_iff] at hd
      rw [Dict.get?_set_ne _ heq] at hd
      exact .inl (Dict.contains_iff.mpr hd)

/-- A step of the response thread takes up a datagram, cut to the buffer, or goes on with the reply
in hand; behind the credit check the source of the reply is in the table. -/
theorem stepResponse_reply {e : ResponseEvent} (h : stepResponse cfg s e = some s')
    {source : SocketAddr} {payload : Payload} (hr : s'.response.reply = some (source, payload)) :
    (∃ datagram, e = .datagram source datagram ∧ payload = datagram.take packetBuffer ∧
        s'.response.held = none) ∨
      (s.response.reply = some (source, payload) ∧ (∀ a b, e ≠ .datagram a b) ∧
        (s.response.held = none → s.destinations.contains source = true)) := by
  unfold stepResponse at h
  split at h
  · cases h
    cases hrun : s.running <;> simp [hrun, Response.reply] at hr
  · cases h
    cases hr
    exact .inl ⟨_, rfl, rfl, rfl⟩
  · cases h
    cases hr
  · cases h
    cases hr
  · -- the credit check
    next hres =>
    rw [hres]
    split at h
    · cases h
      cases hr
    · next credit hcredit =>
      split at h <;> cases h
      · cases hr
      · cases hr
        exact .inr ⟨rfl, by simp, fun _ => Dict.contains_iff.mpr ⟨credit, hcredit⟩⟩
  · next hres =>
    rw [hres]
    cases h
    exact .inr ⟨hr, by simp, by simp [Response.held]⟩
  · next hres =>
    rw [hres]
    dsimp only at h
    split at h <;> cases h
    · cases hr
    · exact .inr ⟨hr, by simp, by simp [Response.held]⟩
  · dsimp only at h
    split at h <;> cases h <;> cases hr
  · cases h
    cases hr
  · cases h

/-! ## 2. Frames and datagrams -/

/-- What the threads hold at the end of a run: IPv4 addresses, and of a reply the beginning of the
datagram that arrived last. -/
structure Traced (events : List Event) (s : Conn) : Prop where
  known : ∀ d, s.destinations.contains d = true → IsIpv4 d
  target : ∀ d, s.request.destination = some d → IsIpv4 d
  reply : ∀ source payload, s.response.reply = some (source, payload) →
    ∃ datagram, lastDatagram events = some (source, datagram) ∧
      payload = datagram.take packetBuffer
  held : ∀ source payload, s.response.reply = some (source, payload) →
    s.response.held ≠ none → IsIpv4 source

theorem traced_start (now : Nat) (globalRate : RateWindow) :
    Traced [] (Conn.start now globalRate) :=
  ⟨fun _ h => (nomatch h), fun _ h => (nomatch h), fun _ _ h => (nomatch h),
    fun _ _ h => (nomatch h)⟩

theorem Traced.step {events : List Event} {e : Event} (ht : Traced events s)
    (h : step cfg s e = some s') : Traced (events ++ [e]) s' := by
  cases e with
  | request e =>
    obtain ⟨hresponse, -, -⟩ := stepRequest_cases h
    refine ⟨fun d hd => ?_, fun d hd => ?_, ?_, ?_⟩
    · rcases stepRequest_known h hd with hd | hd
      · exact ht.known d hd
      · exact ht.target d hd
    · rcases stepRequest_destination h hd with hd | hd
      · exact ht.target d hd
      · exact hd
    · rw [hresponse, lastDatagram_append_one]
      exact ht.reply
    · rw [hresponse]
      exact ht.held
  | response e =>
    obtain ⟨hrequest, -, hcases⟩ := stepResponse_cases h
    refine ⟨fun d hd => ?_, hrequest ▸ ht.target, fun source payload hr => ?_,
      fun source payload hr hheld => ?_⟩
    · -- a credit is spent where there is one
      rcases hcases with ⟨hdest, -⟩ | ⟨d', credit, length, hget, -, -, -, hdest, -⟩ |
        ⟨_, _, _, -, -, -, hdest, -⟩
      · exact ht.known d (hdest ▸ hd)
      · by_cases heq : d' = d
        · exact ht.known d (heq ▸ Dict.contains_iff.mpr ⟨credit, hget⟩)
        · rw [hdest, Dict.contains_iff, Dict.get?_set_ne _ heq] at hd
          exact ht.known d (Dict.contains_iff.mpr hd)
      · exact ht.known d (hdest ▸ hd)
    · rcases stepResponse_reply h hr with ⟨datagram, rfl, hpayload, -⟩ | ⟨hold, hnot, -⟩
      · exact ⟨datagram, lastDatagram_append_one _ _, hpayload⟩
      · obtain ⟨datagram, hlast, hpayload⟩ := ht.reply source payload hold
        refine ⟨datagram, ?_, hpayload⟩
        rw [lastDatagram_append_one]
        cases e <;> first | exact absurd rfl (hnot _ _) | exact hlast
    · rcases stepResponse_reply h hr with ⟨_, -, -, hnone⟩ | ⟨hold, -, hknown⟩
      · exact absurd hnone hheld
      · by_cases hnone : s.response.held = none
        · exact ht.known source (hknown hnone)
        · exact ht.held source payload hold hnone
  | elsewhere t bytes =>
    cases h
    refine ⟨ht.known, ht.target, ?_, ht.held⟩
    rw [lastDatagram_append_one]
    exact ht.reply

theorem traced_run {now : Nat} {globalRate : RateWindow} {events : List Event}
    (h : (machine cfg).run (Conn.start now globalRate) events = some s) : Traced events s := by
  induction events using List.reverseRecOn generalizing s with
  | nil =>
    cases h
    exact traced_start now globalRate
  | append_singleton events e ih =>
    rw [Machine.run_append] at h
    obtain ⟨t, hrun, hlast⟩ := Option.bind_eq_some_iff.mp h
    obtain ⟨s', hstep, hend⟩ := Machine.run_cons_eq_some.mp hlast
    cases hend
    exact (ih hrun).step hstep

/-- **A forwarded reply** is the beginning of the datagram that arrived last. -/
theorem forwarded_eq_take {now : Nat} {globalRate : RateWindow} {events : List Event}
    (hrun : (machine cfg).run (Conn.start now globalRate) events = some s)
    (hstep : step cfg s (.response (.written none)) = some s') :
    ∃ source datagram, lastDatagram events = some (source, datagram) ∧
      s'.tcpOut = s.tcpOut ++ [(source, datagram.take packetBuffer)] := by
  have htraced := traced_run hrun
  unfold step stepResponse at hstep
  dsimp only at hstep
  split at hstep
  any_goals contradiction
  next source payload failedAfter hres he =>
    cases he
    obtain ⟨datagram, hlast, hpayload⟩ := htraced.reply source payload (by rw [hres]; rfl)
    obtain ⟨ip, hip⟩ := htraced.held source payload (by rw [hres]; rfl) (by rw [hres]; nofun)
    have hfits : ¬ addressHeaderLen + payload.length > 65535 := by
      rw [hpayload, List.length_take]
      have : min packetBuffer datagram.length ≤ 4096 := Nat.min_le_left _ _
      unfold addressHeaderLen
      omega
    have hwrite : writePayload source payload none = (payload, true) := by
      unfold writePayload writeFrame
      rw [hip]
      dsimp only
      rw [if_neg hfits]
    rw [hwrite] at hstep
    cases hstep
    exact ⟨source, datagram, hlast, by rw [hpayload]⟩

end

/-- The run writes a frame: `s` and `s'` are the states in front of it and behind it, and `before`
is what has happened until then. -/
structure Writes (cfg : Config) (start : Conn) (events before : List Event) (s s' : Conn) :
    Prop where
  within : before ++ [.response (.written none)] <+: events
  run : (machine cfg).run start before = some s
  step : step cfg s (.response (.written none)) = some s'

/-- The payload of the frame is the datagram that arrived last, as its source sent it. -/
def Whole (before : List Event) (s s' : Conn) : Prop :=
  ∃ source datagram, lastDatagram before = some (source, datagram) ∧
    s'.tcpOut = s.tcpOut ++ [(source, datagram)]

/-- The datagram that arrived last is no longer than the buffer. -/
def FitsBuffer (before : List Event) : Prop :=
  ∀ source datagram, lastDatagram before = some (source, datagram) →
    datagram.length ≤ packetBuffer

/-- **Replies are forwarded whole** if and only if the datagrams that are forwarded fit the buffer;
a longer one is cut off. -/
theorem replies_whole_iff (settings : Settings) (now : Nat) (globalRate : RateWindow)
    (events : List Event) :
    (∀ before s s', Writes settings.limits (Conn.start now globalRate) events before s s' →
      Whole before s s') ↔
    ∀ before s s', Writes settings.limits (Conn.start now globalRate) events before s s' →
      FitsBuffer before := by
  refine forall_congr' fun before => forall_congr' fun s => forall_congr' fun s' =>
    imp_congr_right fun hw => ?_
  obtain ⟨source, datagram, hlast, hout⟩ := forwarded_eq_take hw.run hw.step
  constructor
  · rintro ⟨source', datagram', hlast', hout'⟩ source'' datagram'' hlast''
    have heq := (Option.some.inj (hlast.symm.trans hlast'))
    have heq' := (Option.some.inj (hlast.symm.trans hlast''))
    have hpayload := List.append_cancel_left (hout.symm.trans hout')
    simp only [List.cons.injEq, Prod.mk.injEq, and_true] at hpayload heq heq'
    rw [← heq'.2]
    rw [← heq.2] at hpayload
    exact List.take_eq_self_iff _ |>.mp hpayload.2
  · intro hfits
    refine ⟨source, datagram, hlast, ?_⟩
    rw [hout, List.take_of_length_le (hfits source datagram hlast)]

/-- A request of 1024 bytes, and a reply of 4097. -/
def longReply : List Event :=
  [.request .next,
    .request (.record [0x17, 3, 3, 4, 7] ([4, 1, 1, 1, 1, 0x27, 0x09] ++ List.replicate 1024 0)),
    .request .next, .request .next, .request (.clock ⟨0, 0⟩), .request (.clock ⟨0, 0⟩),
    .request (.sent true), .response .next,
    .response (.datagram ⟨.v4 0x01010101, 9993⟩ (List.replicate 4097 7)), .response .next,
    .response (.clock ⟨0, 0⟩), .response (.clock ⟨0, 0⟩)]

/-- **A reply is cut off**, by a relay with the default settings. -/
theorem reply_cut_off :
    (Settings.fromEnv fun _ => none).toOption = some Settings.default ∧
    ∃ before s s', Writes Settings.default.limits (Conn.start 0 (.default 0))
      (longReply ++ [.response (.written none)]) before s s' ∧ ¬ Whole before s s' := by
  refine ⟨by decide +kernel, ?_⟩
  obtain ⟨s, hs, hwriting⟩ : ∃ s,
      (machine Config.default).run (Conn.start 0 (.default 0)) longReply = some s ∧
        (step Config.default s (.response (.written none))).isSome = true :=
    Machine.exists_run (P := fun s =>
      (step Config.default s (.response (.written none))).isSome = true) (by decide +kernel)
      fun _ _ h => h
  obtain ⟨s', hs'⟩ := Option.isSome_iff_exists.mp hwriting
  refine ⟨longReply, s, s', ⟨List.prefix_refl _, hs, hs'⟩, ?_⟩
  rintro ⟨source, datagram, hlast, hout⟩
  obtain ⟨source', datagram', hlast', hout'⟩ := forwarded_eq_take hs hs'
  have hdatagram : lastDatagram longReply = some (⟨.v4 0x01010101, 9993⟩, List.replicate 4097 7) :=
    rfl
  rw [hdatagram] at hlast hlast'
  cases hlast
  cases hlast'
  have hpayload := List.append_cancel_left (hout.symm.trans hout')
  simp only [List.cons.injEq, Prod.mk.injEq, and_true, true_and] at hpayload
  have hlength := congrArg List.length hpayload
  rw [List.length_take, List.length_replicate] at hlength
  exact absurd hlength (by decide)

/-! ## 3. Replies and credit -/

/-- The request loop and the other connections take any steps. -/
def Meanwhile (cfg : Config) (s t : Conn) : Prop :=
  ∃ events : List Event, (∀ e, .response e ∉ events) ∧ (machine cfg).run s events = some t

/-- A datagram on its way from the credit check to the answer of the rate windows: the states in
front of each step of the response thread and behind it. -/
inductive Passage (cfg : Config) (source : SocketAddr) (payload : Payload) where
  /-- the credit check is the last step -/
  | stopped (s s' : Conn) (arrived : s.response = .received source payload)
    (check : stepResponse cfg s .next = some s') (idle : s'.response = .polling)
  /-- the credit is spent, and the two windows are asked -/
  | paid (s₁ s₁' s₂ s₂' s₃ s₃' : Conn) (t u : Readings)
    (arrived : s₁.response = .received source payload)
    (check : stepResponse cfg s₁ .next = some s₁') (beforeOwn : Meanwhile cfg s₁' s₂)
    (own : stepResponse cfg s₂ (.clock t) = some s₂') (beforeShared : Meanwhile cfg s₂' s₃)
    (shared : stepResponse cfg s₃ (.clock u) = some s₃')

namespace Passage

variable {cfg : Config} {source : SocketAddr} {payload : Payload}

/-- What the thread's own steps take from the credit of the source. -/
def spent : Passage cfg source payload → Int
  | stopped s s' .. => s.credit source - s'.credit source
  | paid s₁ s₁' s₂ s₂' s₃ s₃' .. =>
    (s₁.credit source - s₁'.credit source) + (s₂.credit source - s₂'.credit source) +
      (s₃.credit source - s₃'.credit source)

/-- The thread goes on to write the frame. -/
def Forwarded : Passage cfg source payload → Prop
  | stopped _ s' .. => s'.response = .writing source payload
  | paid _ _ _ _ _ s₃' .. => s₃'.response = .writing source payload

/-- The credit of the source falls by the length of a datagram that is forwarded, and is unchanged
by one that is not. -/
def KeepsCredit (p : Passage cfg source payload) : Prop :=
  (p.Forwarded → p.spent = payload.length) ∧ (¬ p.Forwarded → p.spent = 0)

/-- The connection's own window or the global one refuses the datagram when it is asked. -/
def Refused : Passage cfg source payload → Prop
  | stopped .. => False
  | paid _ _ s₂ _ s₃ _ t u .. =>
    (s₂.responseRate.allow t payload.length cfg.packetsPerSecond cfg.bytesPerSecond).1 = false ∨
      (s₃.globalRate.allow u payload.length cfg.globalPacketsPerSecond
        cfg.globalBytesPerSecond).1 = false

end Passage

section

variable {cfg : Config} {s s' t : Conn} {source : SocketAddr} {payload : Payload}

/-- Meanwhile the response thread stands still. -/
theorem Meanwhile.response_eq (h : Meanwhile cfg s t) : t.response = s.response := by
  obtain ⟨events, hnone, hrun⟩ := h
  induction events generalizing s with
  | nil =>
    cases hrun
    rfl
  | cons e events ih =>
    obtain ⟨s', hstep, hrest⟩ := Machine.run_cons_eq_some.mp hrun
    rw [ih (fun r hr => hnone r (List.mem_cons_of_mem e hr)) hrest]
    cases e with
    | request e => exact (stepRequest_cases hstep).1
    | response e => exact absurd List.mem_cons_self (hnone e)
    | elsewhere t bytes =>
      cases hstep
      rfl

/-- **The credit check.**  A datagram that fits the credit is paid for, any other is dropped. -/
theorem check_cases (hres : s.response = .received source payload)
    (h : stepResponse cfg s .next = some s') :
    (s'.response = .polling ∧ s'.credit source = s.credit source) ∨
      (s'.response = .charging source payload ∧ payload.length ≤ s.credit source ∧
        s'.credit source = s.credit source - payload.length) := by
  unfold stepResponse at h
  rw [hres] at h
  dsimp only at h
  split at h
  · cases h
    exact .inl ⟨rfl, rfl⟩
  · next credit hcredit =>
    have hvalue : s.credit source = credit := by
      unfold Conn.credit
      rw [hcredit]
      rfl
    split at h <;> cases h
    · exact .inl ⟨rfl, rfl⟩
    · refine .inr ⟨rfl, by omega, ?_⟩
      rw [hvalue]
      unfold Conn.credit
      rw [Dict.get?_set_self]
      rfl

/-- **The thread's own window** leaves the credit alone. -/
theorem own_cases {c : Readings} (hres : s.response = .charging source payload)
    (h : stepResponse cfg s (.clock c) = some s') :
    s'.credit source = s.credit source ∧
      s'.response = .sharing source payload
        (s.responseRate.allow c payload.length cfg.packetsPerSecond cfg.bytesPerSecond).1 := by
  unfold stepResponse at h
  rw [hres] at h
  cases h
  exact ⟨rfl, rfl⟩

/-- **The global window** leaves it alone too, and decides. -/
theorem shared_cases {c : Readings} {allowed : Bool}
    (hres : s.response = .sharing source payload allowed)
    (h : stepResponse cfg s (.clock c) = some s') :
    s'.credit source = s.credit source ∧
      (s'.response = .writing source payload ↔ allowed = true ∧
        (s.globalRate.allow c payload.length cfg.globalPacketsPerSecond
          cfg.globalBytesPerSecond).1 = true) := by
  unfold stepResponse at h
  rw [hres] at h
  dsimp only at h
  split at h
  · next hrefused =>
    cases h
    refine ⟨rfl, iff_of_false nofun fun hand => ?_⟩
    rw [hand.1, hand.2] at hrefused
    cases hrefused
  · next hallowed =>
    cases h
    rw [Bool.or_eq_true, not_or, Bool.not_eq_true', Bool.not_eq_true', Bool.not_eq_false,
      Bool.not_eq_false] at hallowed
    exact ⟨rfl, iff_of_true rfl hallowed⟩

/-- Writing the frame leaves the credit alone. -/
theorem written_credit {failedAfter : Option Nat}
    (h : stepResponse cfg s (.written failedAfter) = some s') :
    s'.credit source = s.credit source := by
  unfold stepResponse at h
  split at h
  any_goals contradiction
  dsimp only at h
  split at h <;> cases h <;> rfl

/-- What a datagram costs: nothing if the credit check drops it, and its length if it goes on to the
rate windows, whatever they say. -/
theorem Passage.spent_eq (p : Passage cfg source payload) :
    match p with
    | .stopped .. => p.spent = 0 ∧ ¬ p.Forwarded
    | .paid .. => p.spent = payload.length ∧ (p.Forwarded ↔ ¬ p.Refused) := by
  cases p with
  | stopped s s' arrived check idle =>
    rcases check_cases arrived check with ⟨-, hcredit⟩ | ⟨hcharging, -⟩
    · refine ⟨?_, fun hwriting => ?_⟩
      · rw [spent, hcredit, sub_self]
      · exact nomatch idle.symm.trans hwriting
    · exact nomatch idle.symm.trans hcharging
  | paid s₁ s₁' s₂ s₂' s₃ s₃' t u arrived check beforeOwn own beforeShared shared =>
    rcases check_cases arrived check with ⟨hover, -⟩ | ⟨hcharging, hfits, hcredit⟩
    · -- the thread would not have asked a window
      have hres := beforeOwn.response_eq.trans hover
      unfold stepResponse at own
      rw [hres] at own
      cases own
    · obtain ⟨hown, hsharing⟩ := own_cases (beforeOwn.response_eq.trans hcharging) own
      obtain ⟨hshared, hwriting⟩ := shared_cases (beforeShared.response_eq.trans hsharing) shared
      refine ⟨?_, ?_⟩
      · rw [spent, hcredit, hown, hshared]
        omega
      · rw [Forwarded, hwriting, Refused, not_or, Bool.not_eq_false, Bool.not_eq_false]

end

/-- **Dropped replies cost nothing** if and only if no rate window refuses a datagram, unless it is
empty: such a datagram has been paid for.  Writing the frame costs nothing more. -/
theorem keepsCredit_iff (cfg : Config) (source : SocketAddr) (payload : Payload) :
    (∀ p : Passage cfg source payload, p.KeepsCredit ↔ (p.Refused → payload.length = 0)) ∧
    ∀ s s' failedAfter, stepResponse cfg s (.written failedAfter) = some s' →
      s'.credit source = s.credit source := by
  refine ⟨fun p => ?_, fun s s' failedAfter h => written_credit h⟩
  have hspent := p.spent_eq
  unfold Passage.KeepsCredit
  cases p with
  | stopped s s' arrived check idle =>
    obtain ⟨hzero, hnot⟩ := hspent
    exact iff_of_true ⟨fun h => absurd h hnot, fun _ => hzero⟩ fun h => h.elim
  | paid s₁ s₁' s₂ s₂' s₃ s₃' t u arrived check beforeOwn own beforeShared shared =>
    obtain ⟨hlength, hforwarded⟩ := hspent
    rw [hlength, hforwarded, not_not]
    constructor
    · exact fun h hrefused => Int.ofNat_eq_zero.mp (h.2 hrefused)
    · exact fun h => ⟨fun _ => rfl, fun hrefused => congrArg Nat.cast (h hrefused)⟩

/-- A connection with a credit of 512 for a source, a reply of 100 bytes from there in hand, and a
window that is full. -/
def fullWindow : Conn :=
  { Conn.start 0 (.default 0) with
    destinations := Dict.empty.set ⟨.v4 0x01010101, 9993⟩ 512
    responseRate := ⟨0, 200, 0⟩
    response := .received ⟨.v4 0x01010101, 9993⟩ (List.replicate 100 7) }

/-- **A dropped reply is paid for.** -/
theorem dropped_reply_costs :
    ∃ p : Passage Config.default ⟨.v4 0x01010101, 9993⟩ (List.replicate 100 7),
      ¬ p.KeepsCredit := by
  have hstill : ∀ s, Meanwhile Config.default s s := fun _ => ⟨[], fun _ => List.not_mem_nil, rfl⟩
  have hrefused : (fullWindow.responseRate.allow ⟨0, 0⟩ 100 200 2097152).1 = false := by decide
  obtain ⟨s₁, h₁⟩ : ∃ s₁, stepResponse Config.default fullWindow .next = some s₁ := ⟨_, rfl⟩
  rcases check_cases rfl h₁ with ⟨hpolling, -⟩ | ⟨hcharging, -, -⟩
  · cases h₁
    cases hpolling
  obtain ⟨s₂, h₂⟩ : ∃ s₂, stepResponse Config.default s₁ (.clock ⟨0, 0⟩) = some s₂ := by
    unfold stepResponse
    rw [hcharging]
    exact ⟨_, rfl⟩
  obtain ⟨s₃, h₃⟩ : ∃ s₃, stepResponse Config.default s₂ (.clock ⟨0, 0⟩) = some s₃ := by
    unfold stepResponse
    rw [(own_cases hcharging h₂).2]
    dsimp only
    split <;> exact ⟨_, rfl⟩
  refine ⟨.paid fullWindow s₁ s₁ s₂ s₂ s₃ ⟨0, 0⟩ ⟨0, 0⟩ rfl h₁ (hstill _) h₂ (hstill _) h₃, ?_⟩
  have hwindow : s₁.responseRate = fullWindow.responseRate := by
    cases h₁
    rfl
  intro hkeeps
  have hspent := (Passage.spent_eq (.paid fullWindow s₁ s₁ s₂ s₂ s₃ ⟨0, 0⟩ ⟨0, 0⟩ rfl h₁ (hstill _)
    h₂ (hstill _) h₃))
  have hnot : ¬ Passage.Forwarded (.paid fullWindow s₁ s₁ s₂ s₂ s₃ ⟨0, 0⟩ ⟨0, 0⟩ rfl h₁ (hstill _)
      h₂ (hstill _) h₃) := fun hforwarded =>
    hspent.2.mp hforwarded (.inl (by rw [hwindow, List.length_replicate]; exact hrefused))
  have hzero := hkeeps.2 hnot
  rw [hspent.1, List.length_replicate] at hzero
  cases hzero

end ZtPlanet.Relay.Connection
