/-
# Replayed requests

A nonce is kept for 60 s from the moment it is stored, and a timestamp is fresh while the clock,
truncated to seconds, is within 30 s of it.  The two windows cover each other for a timestamp that
is at most 29 s ahead of the truncated clock when its nonce is stored: it is stale 59 whole
seconds later, and the nonce is still there.  They do not for a timestamp exactly 30 s ahead: the
truncated clock is still within 30 s of it when the nonce is 60.99 s old
(`authorized_twice`).

`Timely` is the condition under which the windows meet, and `timely_run_no_replay` the guarantee.
The freshness test runs before the lock is taken, so the condition also asks that a call has not
gone stale while it waited.
-/
import ZtPlanet.Agent.Authorization

namespace ZtPlanet.Agent.Authorization

open ZtPlanet.Lib

/-! ## 1. The property and the condition -/

/-- No pair of a nonce and a signature is authorized twice. -/
def NoReplay (s : Server) : Prop :=
  (s.authorized.map Prod.fst).Pairwise fun a b => ¬ (a.nonce = b.nonce ∧ a.signature = b.signature)

instance (s : Server) : Decidable (NoReplay s) :=
  inferInstanceAs (Decidable (List.Pairwise _ _))

/-- A call that enters the critical section has a timestamp at most 29 s ahead of the truncated
clock it reads there, and at most 30 s behind it. -/
def Timely (s : Server) : Event → Prop
  | .present _ _ => True
  | .enter i t =>
    match s.calls[i]? with
    | some (.waiting r) => ∀ unixTime ∈ pyInt r.timestamp,
        -30 ≤ unixTime - truncate t ∧ unixTime - truncate t ≤ 29
    | _ => True

instance (s : Server) : ∀ e, Decidable (Timely s e)
  | .present _ _ => isTrue trivial
  | .enter i t =>
    match h : s.calls[i]? with
    | some (.waiting r) =>
      decidable_of_iff (∀ unixTime ∈ pyInt r.timestamp,
        -30 ≤ unixTime - truncate t ∧ unixTime - truncate t ≤ 29) (by simp [Timely, h])
    | some (.done _) => isTrue (by simp [Timely, h])
    | none => isTrue (by simp [Timely, h])

theorem truncate_of_nonneg {clock : ℚ} (h : 0 ≤ clock) : truncate clock = ⌊clock⌋ := by
  simp [truncate, h]

/-- Two readings whose truncations are at most 59 apart are at most 60 apart. -/
theorem sub_lt_sixty {t now : ℚ} (ht : 0 ≤ t) (hnow : 0 ≤ now)
    (h : truncate now - truncate t ≤ 59) : now - t < 60 := by
  rw [truncate_of_nonneg ht, truncate_of_nonneg hnow] at h
  have h₁ : now < ⌊now⌋ + 1 := Int.lt_floor_add_one now
  have h₂ : (⌊t⌋ : ℚ) ≤ t := Int.floor_le t
  have h₃ : ((⌊now⌋ - ⌊t⌋ : Int) : ℚ) ≤ 59 := by exact_mod_cast h
  push_cast at h₃
  linarith

/-! ## 2. What the critical section does -/

/-- What `True` from the critical section means. -/
theorem admitRequest_authorized {mac : List UInt8 → Text} {nonces nonces' : Dict Text ℚ}
    {r : Request} {now : ℚ} (h : admitRequest mac nonces r now = (nonces', .authorized)) :
    (∀ seen, nonces.get? r.nonce = some seen → 60 < now - seen) ∧
    mac (canonical r) = r.signature ∧ nonces'.get? r.nonce = some now := by
  unfold admitRequest at h
  dsimp only at h
  split at h
  · cases h
  · rename_i hc
    split at h
    · cases h
    · split at h
      · cases h
      · rename_i hmac
        cases h
        refine ⟨fun seen hs => ?_, by simpa using hmac, Dict.get?_set_self _ _ _⟩
        by_contra hle
        refine hc (Dict.contains_iff.mpr ⟨seen, ?_⟩)
        rw [Dict.get?_filter, hs, Option.filter_some_pos]
        simpa using hle

/-- A nonce younger than 60 s is still stored after the section, no older than before. -/
theorem admitRequest_keeps (mac : List UInt8 → Text) {nonces : Dict Text ℚ} (r : Request) {now : ℚ}
    {nonce : Text} {seen : ℚ} (h : nonces.get? nonce = some seen) (hnow : seen ≤ now) :
    (∃ seen', (admitRequest mac nonces r now).1.get? nonce = some seen' ∧ seen ≤ seen') ∨
      60 < now - seen := by
  by_cases hold : now - seen ≤ 60
  · refine .inl ?_
    have hkept : (nonces.filter fun _ seen => decide (now - seen ≤ 60)).get? nonce = some seen := by
      rw [Dict.get?_filter, h, Option.filter_some_pos (by simpa using hold)]
    unfold admitRequest
    dsimp only
    split
    · exact ⟨seen, hkept, le_refl _⟩
    · split
      · exact ⟨seen, hkept, le_refl _⟩
      · split
        · exact ⟨seen, hkept, le_refl _⟩
        · by_cases heq : r.nonce = nonce
          · exact ⟨now, by rw [heq, Dict.get?_set_self], hnow⟩
          · exact ⟨seen, by rw [Dict.get?_set_ne _ heq, hkept], le_refl _⟩
  · exact .inr (not_le.mp hold)

/-- Every stored time was stored before or is the one just read. -/
theorem admitRequest_get? {mac : List UInt8 → Text} {nonces : Dict Text ℚ} {r : Request} {now : ℚ}
    {nonce : Text} {seen : ℚ} (h : (admitRequest mac nonces r now).1.get? nonce = some seen) :
    nonces.get? nonce = some seen ∨ seen = now := by
  have hold : ∀ {d : Dict Text ℚ}, d = (nonces.filter fun _ seen => decide (now - seen ≤ 60)) →
      d.get? nonce = some seen → nonces.get? nonce = some seen := by
    rintro d rfl hd
    rw [Dict.get?_filter, Option.filter_eq_some_iff] at hd
    exact hd.1
  unfold admitRequest at h
  dsimp only at h
  split at h
  · exact .inl (hold rfl h)
  · split at h
    · exact .inl (hold rfl h)
    · split at h
      · exact .inl (hold rfl h)
      · rw [Dict.get?_set] at h
        split at h
        · exact .inr (Option.some.inj h).symm
        · exact .inl (hold rfl h)

/-! ## 3. The invariant -/

/-- What an authorized request leaves behind: it was at most 29 s ahead when its nonce was
stored, and the nonce is still stored or was stored more than 60 s ago. -/
structure Kept (mac : List UInt8 → Text) (s : Server) (r : Request) (t : ℚ) : Prop where
  nonneg : 0 ≤ t
  signed : mac (canonical r) = r.signature
  ahead : ∃ unixTime, pyInt r.timestamp = some unixTime ∧ unixTime - truncate t ≤ 29
  stored : (∃ t', s.nonces.get? r.nonce = some t' ∧ t ≤ t') ∨ 60 < s.clock - t

/-- Requests that share a nonce carry different unix times. -/
def Distinct (a b : Request × ℚ) : Prop :=
  a.1.nonce = b.1.nonce → pyInt a.1.timestamp ≠ pyInt b.1.timestamp

structure Inv (mac : List UInt8 → Text) (s : Server) : Prop where
  nonneg : 0 ≤ s.clock
  seen_le : ∀ nonce seen, s.nonces.get? nonce = some seen → seen ≤ s.clock
  /-- a waiting call passed the first part of `authorized` -/
  waiting : ∀ c ∈ s.calls, ∀ r, c = .waiting r → ∃ unixTime, pyInt r.timestamp = some unixTime
  kept : ∀ e ∈ s.authorized, Kept mac s e.1 e.2
  distinct : s.authorized.Pairwise Distinct

theorem inv_start (mac : List UInt8 → Text) : Inv mac Server.start where
  nonneg := le_refl _
  seen_le := fun _ _ h => by cases h
  waiting := fun _ h => by cases h
  kept := fun _ h => by cases h
  distinct := List.Pairwise.nil

section

variable {mac : List UInt8 → Text} {s s' : Server} {r : Request} {t now : ℚ}

/-- Time passes and nothing else. -/
theorem Kept.wait (h : Kept mac s r t) (hclock : s.clock ≤ s'.clock)
    (hnonces : s'.nonces = s.nonces) : Kept mac s' r t where
  nonneg := h.nonneg
  signed := h.signed
  ahead := h.ahead
  stored := by
    rw [hnonces]
    exact h.stored.imp_right fun hold => by linarith

/-- Another call's critical section runs. -/
theorem Kept.admitRequest {r' : Request} (h : Kept mac s r t)
    (hseen : ∀ nonce seen, s.nonces.get? nonce = some seen → seen ≤ s.clock)
    (hclock : s.clock ≤ s'.clock)
    (hnonces : s'.nonces = (admitRequest mac s.nonces r' s'.clock).1) : Kept mac s' r t where
  nonneg := h.nonneg
  signed := h.signed
  ahead := h.ahead
  stored := by
    rw [hnonces]
    rcases h.stored with ⟨t', hget, hle⟩ | hold
    · have hnow : t' ≤ s'.clock := le_trans (hseen _ _ hget) hclock
      rcases admitRequest_keeps mac r' hget hnow with ⟨t'', hget', hle'⟩ | hold
      · exact .inl ⟨t'', hget', le_trans hle hle'⟩
      · exact .inr (by linarith)
    · exact .inr (by linarith)

/-- **Why a replay is refused.**  A request whose nonce was stored 60 s ago or more, and which is
still fresh, does not carry the unix time of the one that stored it. -/
theorem Kept.distinct {r' : Request} {u : Int} (h : Kept mac s r t) (hnonneg : 0 ≤ s.clock)
    (hclock : s.clock ≤ now) (hu : pyInt r'.timestamp = some u) (hfresh : -30 ≤ u - truncate now)
    (hpruned : ∀ seen, s.nonces.get? r'.nonce = some seen → 60 < now - seen) :
    Distinct (r, t) (r', now) := by
  intro hnonce heq
  obtain ⟨v, hv, hahead⟩ := h.ahead
  have huv : v = u := by
    rw [hv, hu] at heq
    exact Option.some.inj heq
  have hlt : now - t < 60 :=
    sub_lt_sixty h.nonneg (le_trans hnonneg hclock) (by omega)
  rcases h.stored with ⟨t', hget, hle⟩ | hold
  · have := hpruned t' (hnonce ▸ hget)
    linarith
  · linarith

/-- Every event that is timely keeps the invariant. -/
theorem Inv.step {e : Event} (hi : Inv mac s) (hok : Timely s e) (h : step mac s e = some s') :
    Inv mac s' := by
  cases e with
  | present r clock =>
    simp only [Authorization.step] at h
    split at h <;> cases h
    rename_i hclock
    refine ⟨le_trans hi.nonneg hclock, ?_, ?_, ?_, hi.distinct⟩
    · intro nonce seen hs
      exact le_trans (hi.seen_le nonce seen hs) hclock
    · intro c hc r' hr'
      rcases List.mem_append.mp hc with hc | hc
      · exact hi.waiting c hc r' hr'
      · rw [List.mem_singleton] at hc
        subst hc
        split at hr'
        · cases hr'
        · rename_i hpre
          cases hr'
          unfold precheck at hpre
          split at hpre
          · cases hpre
          · rename_i u hu
            exact ⟨u, hu⟩
    · intro e he
      exact (hi.kept e he).wait hclock rfl
  | enter i clock =>
    simp only [Authorization.step] at h
    split at h
    · rename_i r hcall
      split at h
      · rename_i hclock
        rw [Option.some.injEq] at h
        subst h
        obtain ⟨u, hu⟩ := hi.waiting _ (List.mem_of_getElem? hcall) r rfl
        simp only [Timely, hcall] at hok
        obtain ⟨hfresh, hahead⟩ := hok u hu
        have hnonneg : 0 ≤ clock := le_trans hi.nonneg hclock
        refine ⟨hnonneg, ?_, ?_, ?_, ?_⟩
        · intro nonce seen hs
          rcases admitRequest_get? hs with hs | rfl
          · exact le_trans (hi.seen_le nonce seen hs) hclock
          · exact le_refl _
        · intro c hc r' hr'
          rcases List.mem_or_eq_of_mem_set hc with hc | rfl
          · exact hi.waiting c hc r' hr'
          · cases hr'
        · intro e he
          dsimp only at he
          split at he
          · rename_i hv
            rcases List.mem_append.mp he with he | he
            · exact (hi.kept e he).admitRequest hi.seen_le hclock rfl
            · rw [List.mem_singleton.mp he]
              obtain ⟨-, hmac, hget⟩ := admitRequest_authorized (Prod.ext rfl hv)
              exact ⟨hnonneg, hmac, ⟨u, hu, hahead⟩, .inl ⟨clock, hget, le_refl _⟩⟩
          · exact (hi.kept e he).admitRequest hi.seen_le hclock rfl
        · dsimp only
          split
          · rename_i hv
            obtain ⟨hpruned, -, -⟩ := admitRequest_authorized (Prod.ext rfl hv)
            refine List.pairwise_append.mpr ⟨hi.distinct, List.pairwise_singleton _ _, ?_⟩
            intro a ha b hb
            rw [List.mem_singleton.mp hb]
            exact (hi.kept a ha).distinct hi.nonneg hclock hu hfresh hpruned
          · exact hi.distinct
      · cases h
    · cases h

end

/-! ## 4. Runs -/

/-- **No replay within the covered windows.**  In a run in which every call that enters the
critical section has a timestamp at most 29 s ahead of, and 30 s behind, the clock it reads there,
no request is authorized twice; and as far as equal signatures mean equal signed bytes, no pair of
a nonce and a signature is. -/
theorem timely_run_no_replay (mac : List UInt8 → Text) (es : List Event) (s : Server)
    (h : (machine mac).run Server.start es = some s)
    (hok : (machine mac).Conforms Timely Server.start es) :
    (s.authorized.map Prod.fst).Nodup ∧
    ((∀ c c', mac c = mac c' → c = c') → NoReplay s) := by
  have hi : Inv mac s := Machine.run_invariant_of_conforms
    (fun _ _ _ hs hok hstep => hs.step hok hstep) es (inv_start mac) hok h
  refine ⟨?_, fun hmac => ?_⟩
  · refine List.pairwise_map.mpr (hi.distinct.imp ?_)
    rintro a b hab heq
    exact hab (by rw [heq]) (by rw [heq])
  · refine List.pairwise_map.mpr (hi.distinct.imp_of_mem ?_)
    rintro a b ha hb hab ⟨hnonce, hsig⟩
    obtain ⟨v, hv, -⟩ := (hi.kept a ha).ahead
    obtain ⟨w, hw, -⟩ := (hi.kept b hb).ahead
    have hcanonical : canonical a.1 = canonical b.1 := by
      refine hmac _ _ ?_
      rw [(hi.kept a ha).signed, (hi.kept b hb).signed, hsig]
    refine hab hnonce ?_
    rw [hv, hw, unixTime_eq_of_canonical_eq hcanonical hv hw]

/-! ## 5. A signed rollback, thirty seconds ahead -/

/-- The SHA-256 HMAC of the request below under the secret
`3f9d0c6e8a41b27755e0d1c2b3a4958677f0e1d2c3b4a5968778695a4b3c2d1e`. -/
def rollbackDigest : Text :=
  latin1 "58cad180ab34de1d8c44c4ebacf7ffb534afe270b2e0de7d7ce7beddb2c2ae18"

/-- A rollback signed for the second 1030. -/
def rollbackRequest : Request where
  command := latin1 "POST"
  path := latin1 "/v1/rollback"
  timestamp := latin1 "1030"
  nonce := latin1 "AAAAAAAAAAAAAAAA"
  signature := rollbackDigest
  actor := latin1 "admin"
  body := latin1 "{}"
  command_line := by decide
  path_line := by decide

/-- A digest that is right for that request. -/
def rollbackMac (bytes : List UInt8) : Text :=
  if bytes = canonical rollbackRequest then rollbackDigest else []

/-- The request is sent at `first` and once more at `second`. -/
def rollbackTwice (first second : ℚ) : List Event :=
  [.present rollbackRequest first, .enter 0 first, .present rollbackRequest second,
    .enter 1 second]

/-- Sent when the clock reads 1005.5, the request is authorized once and refused when it is sent
again at 1060.25. -/
theorem timely_run_no_replay_rollback :
    ∃ s, (machine rollbackMac).run Server.start (rollbackTwice 1005.5 1060.25) = some s ∧
      s.calls = [.done .authorized, .done (.refused "replayed authentication")] ∧
      (s.authorized.map Prod.fst).Nodup := by
  refine ⟨((machine rollbackMac).run Server.start (rollbackTwice 1005.5 1060.25)).getD .start,
    by decide +kernel, by decide +kernel, ?_⟩
  exact (timely_run_no_replay rollbackMac (rollbackTwice 1005.5 1060.25) _ (by decide +kernel)
    (by decide +kernel)).1

/-- **A replay is authorized.**  Sent at 1000, the same request is authorized again at 1060.99:
the truncated clock is 30 s past its timestamp, and its nonce was dropped at 60 s. -/
theorem authorized_twice :
    ∃ s, (machine rollbackMac).run Server.start (rollbackTwice 1000 1060.99) = some s ∧
      s.calls = [.done .authorized, .done .authorized] ∧ ¬ NoReplay s :=
  ⟨((machine rollbackMac).run Server.start (rollbackTwice 1000 1060.99)).getD .start,
    by decide +kernel, by decide +kernel, by decide +kernel⟩

end ZtPlanet.Agent.Authorization
