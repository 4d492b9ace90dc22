/-
# The amplification bound of a relay connection

A connection must not be turned into an amplifier: what comes back from a destination is bounded
by what was sent there.  The code keeps a credit per destination; the bound itself is a sum over
the whole run.  What carries it from step to step is that for every destination

    bytes written back + bytes already paid for and not yet written + credit left
      ≤ sum over the datagrams sent there of max(4 * length, 512)

where the middle term is the reply the response thread holds between spending the credit and
writing the frame.  Every drop and every cap only lowers the left side.

Section 2 says once what a step of either thread can do; the invariant is derived from that.
-/
import ZtPlanet.Relay.Connection

namespace ZtPlanet.Relay.Connection

open ZtPlanet.Lib

/-! ## 1. The quantities of the bound -/

/-- The sum of `f` over the payloads that went to or came from `d`. -/
def sumFor (f : Payload → Nat) (d : SocketAddr) (l : List (SocketAddr × Payload)) : Nat :=
  (l.map fun e => if e.1 = d then f e.2 else 0).sum

/-- The total of the payload bytes written back from `d`. -/
def Conn.forwarded (s : Conn) (d : SocketAddr) : Nat := sumFor List.length d s.tcpOut

/-- What the datagrams sent to `d` allow: `max(4 * length, 512)` each. -/
def Conn.allowance (s : Conn) (d : SocketAddr) : Nat :=
  sumFor (fun payload => max (4 * payload.length) 512) d s.udpOut

/-- The credit of `d`, 0 for an unknown destination. -/
def Conn.credit (s : Conn) (d : SocketAddr) : Nat := (s.destinations.get? d).getD 0

/-- The client has sent to `d`. -/
def Conn.contacted (s : Conn) (d : SocketAddr) : Prop := d ∈ s.udpOut.map Prod.fst

/-- The reply whose credit is spent and that is not yet written: its source and length. -/
def Response.held : Response → Option (SocketAddr × Nat)
  | .charging source payload | .sharing source payload _ | .writing source payload =>
    some (source, payload.length)
  | _ => none

/-- The destination a request is bound for once it has passed the two looks at the table. -/
def Request.target : Request → Option SocketAddr
  | .charging destination _ | .sharing destination _ _ | .sending destination _ =>
    some destination
  | _ => none

/-- The bytes of a held reply from `d`. -/
def Response.paid (r : Response) (d : SocketAddr) : Nat :=
  match r.held with
  | some (source, length) => if source = d then length else 0
  | none => 0

theorem sumFor_append_one (f : Payload → Nat) (d : SocketAddr) (l : List (SocketAddr × Payload))
    (e : SocketAddr × Payload) :
    sumFor f d (l ++ [e]) = sumFor f d l + if e.1 = d then f e.2 else 0 := by
  simp [sumFor]

theorem addCredit_le_max (credit length : Nat) : addCredit credit length ≤ maxResponseCredit :=
  Nat.min_le_right _ _

/-- Saturation and the cap never add more than `max(4 * length, 512)`. -/
theorem addCredit_le_add (credit length : Nat) :
    addCredit credit length ≤ credit + max (4 * length) 512 := by
  have h₁ : satMul length 4 ≤ length * 4 := Nat.min_le_left _ _
  have h₂ : satAdd credit (additionalCredit length) ≤ credit + additionalCredit length :=
    Nat.min_le_left _ _
  have h₃ : addCredit credit length ≤ satAdd credit (additionalCredit length) :=
    Nat.min_le_left _ _
  unfold additionalCredit at *
  omega

theorem writePayload_length_le (source : SocketAddr) (payload : Payload) (k : Option Nat) :
    (writePayload source payload k).1.length ≤ payload.length := by
  unfold writePayload writeFrame
  cases source.ip with
  | v6 _ => simp
  | v4 ip =>
    by_cases h : addressHeaderLen + payload.length > 65535
    · simp [h]
    · cases k with
      | none => simp [h]
      | some k =>
        simp only [if_neg h]
        exact List.length_take_le' k payload

/-! ## 2. What a step can do -/

section Steps

variable {cfg : Config} {s s' : Conn}

/-- A request step leaves the table and both histories alone, or it sends one datagram. -/
theorem stepRequest_cases {e : RequestEvent} (h : stepRequest cfg s e = some s') :
    s'.response = s.response ∧ s'.tcpOut = s.tcpOut ∧
    ((s'.destinations = s.destinations ∧ s'.udpOut = s.udpOut ∧
        ∀ d, s'.request.target = some d → s.request.target = some d ∨
          s.destinations.contains d = true ∨ s.destinations.size < cfg.maxDestinations) ∨
      (∃ d payload, s.request.target = some d ∧ s'.request.target = none ∧
        s'.destinations = creditSend s.destinations d payload.length ∧
        s'.udpOut = s.udpOut ++ [(d, payload)])) := by
  unfold stepRequest at h
  split at h
  · -- polling
    cases h
    refine ⟨rfl, rfl, .inl ⟨rfl, rfl, ?_⟩⟩
    intro d hd
    cases hr : s.running <;> simp [hr, Request.target] at hd
  · -- a record
    unfold onRecord at h
    split at h
    · dsimp only at h
      split at h
      · cases h
        exact ⟨rfl, rfl, .inl ⟨rfl, rfl, by simp [Request.target]⟩⟩
      · split at h
        · cases h
          exact ⟨rfl, rfl, .inl ⟨rfl, rfl, by simp [Request.target]⟩⟩
        · split at h
          · cases h
          · split at h <;> cases h <;>
              exact ⟨rfl, rfl, .inl ⟨rfl, rfl, by simp [Request.target]⟩⟩
    · cases h
  · cases h
    exact ⟨rfl, rfl, .inl ⟨rfl, rfl, by simp [Request.target]⟩⟩
  · -- looking
    split at h <;> cases h
    · rename_i hc
      refine ⟨rfl, rfl, .inl ⟨rfl, rfl, ?_⟩⟩
      intro d hd
      cases hd
      exact .inr (.inl hc)
    · exact ⟨rfl, rfl, .inl ⟨rfl, rfl, by simp [Request.target]⟩⟩
  · -- bounding
    split at h <;> cases h
    · exact ⟨rfl, rfl, .inl ⟨rfl, rfl, by simp [Request.target]⟩⟩
    · rename_i hlt
      exact ⟨rfl, rfl, .inl ⟨rfl, rfl, fun d _ => .inr (.inr (by omega))⟩⟩
  · -- charging
    rename_i hreq
    cases h
    refine ⟨rfl, rfl, .inl ⟨rfl, rfl, ?_⟩⟩
    intro d hd
    rw [hreq]
    exact .inl hd
  · -- sharing
    rename_i hreq
    dsimp only at h
    split at h <;> cases h
    · exact ⟨rfl, rfl, .inl ⟨rfl, rfl, by simp [Request.target]⟩⟩
    · refine ⟨rfl, rfl, .inl ⟨rfl, rfl, ?_⟩⟩
      intro d hd
      rw [hreq]
      exact .inl hd
  · -- sending
    rename_i destination payload ok hreq
    split at h <;> cases h
    · exact ⟨rfl, rfl, .inr ⟨destination, payload, by rw [hreq]; rfl, rfl, rfl, rfl⟩⟩
    · exact ⟨rfl, rfl, .inl ⟨rfl, rfl, by simp [Request.target]⟩⟩
  · cases h
    exact ⟨rfl, rfl, .inl ⟨rfl, rfl, by simp [Request.target]⟩⟩
  · cases h

/-- A response step leaves the table and both histories alone and holds no new reply, or it pays
for a reply, or it writes the reply it holds. -/
theorem stepResponse_cases {e : ResponseEvent} (h : stepResponse cfg s e = some s') :
    s'.request = s.request ∧ s'.udpOut = s.udpOut ∧
    ((s'.destinations = s.destinations ∧ s'.tcpOut = s.tcpOut ∧
        (s'.response.held = none ∨ s'.response.held = s.response.held)) ∨
      (∃ d credit length, s.destinations.get? d = some credit ∧ length ≤ credit ∧
        s.response.held = none ∧ s'.response.held = some (d, length) ∧
        s'.destinations = s.destinations.set d (credit - length) ∧ s'.tcpOut = s.tcpOut) ∨
      (∃ d length bytes, s.response.held = some (d, length) ∧ bytes.length ≤ length ∧
        s'.response.held = none ∧ s'.destinations = s.destinations ∧
        s'.tcpOut = s.tcpOut ++ [(d, bytes)])) := by
  unfold stepResponse at h
  split at h
  · -- polling
    cases h
    refine ⟨rfl, rfl, .inl ⟨rfl, rfl, .inl ?_⟩⟩
    cases s.running <;> rfl
  · cases h
    exact ⟨rfl, rfl, .inl ⟨rfl, rfl, .inl rfl⟩⟩
  · cases h
    exact ⟨rfl, rfl, .inl ⟨rfl, rfl, .inl rfl⟩⟩
  · cases h
    exact ⟨rfl, rfl, .inl ⟨rfl, rfl, .inl rfl⟩⟩
  · -- the credit check
    rename_i source payload hres
    split at h
    · cases h
      exact ⟨rfl, rfl, .inl ⟨rfl, rfl, .inl rfl⟩⟩
    · rename_i credit hc
      split at h <;> cases h
      · exact ⟨rfl, rfl, .inl ⟨rfl, rfl, .inl rfl⟩⟩
      · exact ⟨rfl, rfl, .inr (.inl ⟨source, credit, payload.length, hc, by omega,
          by rw [hres]; rfl, rfl, rfl, rfl⟩)⟩
  · -- charging
    rename_i hres
    cases h
    refine ⟨rfl, rfl, .inl ⟨rfl, rfl, .inr ?_⟩⟩
    rw [hres]
    rfl
  · -- sharing
    rename_i hres
    dsimp only at h
    split at h <;> cases h
    · exact ⟨rfl, rfl, .inl ⟨rfl, rfl, .inl rfl⟩⟩
    · refine ⟨rfl, rfl, .inl ⟨rfl, rfl, .inr ?_⟩⟩
      rw [hres]
      rfl
  · -- writing
    rename_i source payload failedAfter hres
    have hle := writePayload_length_le source payload failedAfter
    dsimp only at h
    split at h <;> cases h <;>
      exact ⟨rfl, rfl, .inr (.inr ⟨source, payload.length, _, by rw [hres]; rfl, hle, rfl, rfl,
        rfl⟩)⟩
  · cases h
    exact ⟨rfl, rfl, .inl ⟨rfl, rfl, .inl rfl⟩⟩
  · cases h

end Steps

/-! ## 3. The invariant -/

/-- What holds between any two steps of the two threads. -/
structure Inv (cfg : Config) (s : Conn) : Prop where
  credit_le : ∀ d credit, s.destinations.get? d = some credit → credit ≤ maxResponseCredit
  size_le : s.destinations.size ≤ cfg.maxDestinations
  /-- a request past the two looks has a known destination or there is room for it -/
  room : ∀ d, s.request.target = some d →
    s.destinations.contains d = true ∨ s.destinations.size < cfg.maxDestinations
  known : ∀ d credit, s.destinations.get? d = some credit → s.contacted d
  held_known : ∀ d length, s.response.held = some (d, length) → s.contacted d
  written_known : ∀ e ∈ s.tcpOut, s.contacted e.1
  bound : ∀ d, s.forwarded d + s.response.paid d + s.credit d ≤ s.allowance d

theorem inv_start (cfg : Config) (now : Nat) (globalRate : RateWindow) :
    Inv cfg (Conn.start now globalRate) where
  credit_le := fun _ _ h => by cases h
  size_le := Nat.zero_le _
  room := fun _ h => by cases h
  known := fun _ _ h => by cases h
  held_known := fun _ _ h => by cases h
  written_known := fun _ h => by cases h
  bound := fun _ => Nat.le_refl _

section

variable {cfg : Config} {s s' : Conn}

theorem Inv.request {e : RequestEvent} (hi : Inv cfg s) (h : stepRequest cfg s e = some s') :
    Inv cfg s' := by
  obtain ⟨hres, htcp, ⟨hdest, hudp, htarget⟩ | ⟨d, payload, hd, hnone, hdest, hudp⟩⟩ :=
    stepRequest_cases h
  · refine ⟨hdest ▸ hi.credit_le, hdest ▸ hi.size_le, ?_, ?_, ?_, ?_, ?_⟩
    · intro d hd
      rw [hdest]
      rcases htarget d hd with h | h
      · exact hi.room d h
      · exact h
    · simpa only [Conn.contacted, hdest, hudp] using hi.known
    · simpa only [Conn.contacted, hres, hudp] using hi.held_known
    · simpa only [Conn.contacted, htcp, hudp] using hi.written_known
    · simpa only [Conn.forwarded, Conn.credit, Conn.allowance, hdest, hres, htcp, hudp]
        using hi.bound
  · -- one datagram to `d` is sent and credited
    have hgrow : ∀ d', s.contacted d' → s'.contacted d' := by
      intro d' hd'
      simp only [Conn.contacted, hudp, List.map_append] at hd' ⊢
      exact List.mem_append_left _ hd'
    have hself : s'.contacted d := by simp [Conn.contacted, hudp]
    refine ⟨?_, ?_, ?_, ?_, ?_, ?_, ?_⟩
    · intro d' credit hc
      rw [hdest, creditSend, Dict.get?_set] at hc
      split at hc
      · cases hc
        exact addCredit_le_max _ _
      · exact hi.credit_le d' credit hc
    · have hroom := hi.room d hd
      have hsize := hi.size_le
      rw [hdest, creditSend, Dict.size_set]
      split
      · exact hsize
      · rcases hroom with hc | hlt
        · contradiction
        · omega
    · intro d' hd'
      rw [hnone] at hd'
      cases hd'
    · intro d' credit hc
      rw [hdest, creditSend, Dict.get?_set] at hc
      split at hc
      · rename_i heq
        exact heq ▸ hself
      · exact hgrow d' (hi.known d' credit hc)
    · intro d' length hh
      rw [hres] at hh
      exact hgrow d' (hi.held_known d' length hh)
    · intro e he
      rw [htcp] at he
      exact hgrow e.1 (hi.written_known e he)
    · intro d'
      have hb := hi.bound d'
      have hadd := addCredit_le_add ((s.destinations.get? d).getD 0) payload.length
      simp only [Conn.forwarded, Conn.credit, Conn.allowance, hdest, hres, htcp, hudp, creditSend,
        sumFor_append_one, Dict.get?_set] at hb ⊢
      by_cases heq : d = d'
      · subst heq
        simp only [if_true, Option.getD_some]
        omega
      · simp only [heq, if_false]
        omega

theorem Inv.response {e : ResponseEvent} (hi : Inv cfg s) (h : stepResponse cfg s e = some s') :
    Inv cfg s' := by
  obtain ⟨hreq, hudp, ⟨hdest, htcp, hheld⟩ | ⟨d, credit, length, hc, hle, hnone, hheld, hdest,
    htcp⟩ | ⟨d, length, bytes, hheld, hle, hnone, hdest, htcp⟩⟩ := stepResponse_cases h
  · -- at most the held reply is dropped
    refine ⟨hdest ▸ hi.credit_le, hdest ▸ hi.size_le, ?_, ?_, ?_, ?_, ?_⟩
    · simpa only [hdest, hreq] using hi.room
    · simpa only [Conn.contacted, hdest, hudp] using hi.known
    · intro d length hd
      simp only [Conn.contacted, hudp]
      rcases hheld with hnone | hsame
      · rw [hnone] at hd
        cases hd
      · exact hi.held_known d length (hsame ▸ hd)
    · simpa only [Conn.contacted, htcp, hudp] using hi.written_known
    · intro d
      have hb := hi.bound d
      simp only [Conn.forwarded, Conn.credit, Conn.allowance, Response.paid, hdest, htcp, hudp]
        at hb ⊢
      rcases hheld with hnone | hsame
      · rw [hnone]
        dsimp only
        omega
      · rw [hsame]
        exact hb
  · -- the credit of `d` becomes a held reply
    have hlim := hi.credit_le d credit hc
    refine ⟨?_, ?_, ?_, ?_, ?_, ?_, ?_⟩
    · intro d' credit' hc'
      rw [hdest, Dict.get?_set] at hc'
      split at hc'
      · cases hc'
        omega
      · exact hi.credit_le d' credit' hc'
    · rw [hdest, Dict.size_set, if_pos (Dict.contains_iff.mpr ⟨credit, hc⟩)]
      exact hi.size_le
    · intro d' hd'
      rw [hreq] at hd'
      rw [hdest, Dict.size_set, if_pos (Dict.contains_iff.mpr ⟨credit, hc⟩)]
      refine (hi.room d' hd').imp_left fun hin => ?_
      obtain ⟨v, hv⟩ := Dict.contains_iff.mp hin
      rw [Dict.contains_iff, Dict.get?_set]
      split
      · exact ⟨_, rfl⟩
      · exact ⟨v, hv⟩
    · intro d' credit' hc'
      simp only [Conn.contacted, hudp]
      rw [hdest, Dict.get?_set] at hc'
      split at hc'
      · rename_i heq
        exact heq ▸ hi.known d credit hc
      · exact hi.known d' credit' hc'
    · intro d' length' hd'
      rw [hheld] at hd'
      cases hd'
      simp only [Conn.contacted, hudp]
      exact hi.known d credit hc
    · simpa only [Conn.contacted, htcp, hudp] using hi.written_known
    · intro d'
      have hb := hi.bound d'
      simp only [Conn.forwarded, Conn.credit, Conn.allowance, Response.paid, hdest, htcp, hudp,
        hnone, hheld, Dict.get?_set] at hb ⊢
      by_cases heq : d = d'
      · subst heq
        simp only [hc, if_true, Option.getD_some] at hb ⊢
        omega
      · simp only [heq, if_false] at hb ⊢
        omega
  · -- the held reply is written
    refine ⟨hdest ▸ hi.credit_le, hdest ▸ hi.size_le, ?_, ?_, ?_, ?_, ?_⟩
    · simpa only [hdest, hreq] using hi.room
    · simpa only [Conn.contacted, hdest, hudp] using hi.known
    · intro d' length' hd'
      rw [hnone] at hd'
      cases hd'
    · intro e he
      simp only [Conn.contacted, hudp]
      rw [htcp] at he
      rcases List.mem_append.mp he with he | he
      · exact hi.written_known e he
      · rw [List.mem_singleton.mp he]
        exact hi.held_known d length hheld
    · intro d'
      have hb := hi.bound d'
      simp only [Conn.forwarded, Conn.credit, Conn.allowance, Response.paid, hdest, htcp, hudp,
        hnone, hheld, sumFor_append_one] at hb ⊢
      by_cases heq : d = d'
      · subst heq
        simp only [if_true] at hb ⊢
        omega
      · simp only [heq, if_false] at hb ⊢
        omega

/-- Every step of either thread, and every step of another connection, keeps the invariant. -/
theorem Inv.step {e : Event} (hi : Inv cfg s) (h : step cfg s e = some s') : Inv cfg s' := by
  cases e with
  | request e => exact hi.request h
  | response e => exact hi.response h
  | elsewhere t bytes =>
    cases h
    exact ⟨hi.credit_le, hi.size_le, hi.room, hi.known, hi.held_known, hi.written_known, hi.bound⟩

theorem Inv.run {es : List Event} (hi : Inv cfg s) (h : (machine cfg).run s es = some s') :
    Inv cfg s' :=
  Machine.run_invariant (fun _ _ _ hs hstep => hs.step hstep) es hi h

end

/-! ## 4. Every interleaving -/

/-- **The amplification bound.**  After any interleaving of client records and UDP replies, with
sends and writes failing or not: every reply written came from a destination the client had sent
to, the bytes written back from a destination are at most the sum of `max(4 * length, 512)` over
the datagrams sent there, every credit is at most `MAX_RESPONSE_CREDIT`, and the table never
holds more than `max_destinations` destinations. -/
theorem amplification_bounded (cfg : Config) (now : Nat) (globalRate : RateWindow)
    (es : List Event) (s : Conn)
    (h : (machine cfg).run (Conn.start now globalRate) es = some s) :
    (∀ e ∈ s.tcpOut, s.contacted e.1) ∧
    (∀ d, s.forwarded d ≤ s.allowance d) ∧
    (∀ d credit, s.destinations.get? d = some credit → credit ≤ 16384) ∧
    s.destinations.size ≤ cfg.maxDestinations := by
  have hi := (inv_start cfg now globalRate).run h
  refine ⟨hi.written_known, fun d => ?_, hi.credit_le, hi.size_le⟩
  have := hi.bound d
  omega

/-- A request of 16 bytes earns a credit of 512, and a reply of 100 bytes is written back. -/
theorem amplification_bounded_example :
    let frame : List UInt8 := [4, 1, 1, 1, 1, 0x27, 0x09] ++ List.replicate 16 0
    let reply : Payload := List.replicate 100 7
    let es : List Event := [.request .next, .request (.record [0x17, 3, 3, 0, 23] frame),
      .request .next, .request .next, .request (.clock ⟨0, 0⟩), .request (.clock ⟨0, 0⟩),
      .request (.sent true), .response .next,
      .response (.datagram ⟨.v4 0x01010101, 9993⟩ reply), .response .next,
      .response (.clock ⟨0, 0⟩), .response (.clock ⟨0, 0⟩), .response (.written none)]
    ∃ s, (machine Config.default).run (Conn.start 0 (.default 0)) es = some s ∧
      s.forwarded ⟨.v4 0x01010101, 9993⟩ = 100 ∧ s.credit ⟨.v4 0x01010101, 9993⟩ = 412 ∧
      s.forwarded ⟨.v4 0x01010101, 9993⟩ ≤ s.allowance ⟨.v4 0x01010101, 9993⟩ := by
  intro frame reply es
  refine ⟨((machine Config.default).run (Conn.start 0 (.default 0)) es).getD
    (Conn.start 0 (.default 0)), by decide +kernel, by decide +kernel, by decide +kernel, ?_⟩
  exact (amplification_bounded Config.default 0 (.default 0) es _ (by decide +kernel)).2.1 _

end ZtPlanet.Relay.Connection
