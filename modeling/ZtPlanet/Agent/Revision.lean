/-
# What a revision number identifies

Calls hold the lock and follow one another, but `GET /v1/config` and `GET /v1/status` read
`config.json` without it.  So the agent is taken apart here into single operations, with reads
between any two of them, and a log keeps what each read has shown.

A call that fails publishes the next revision before it takes it back, and the call after it uses
the same number again.  A read in between has then shown a revision that another configuration gets
later.  `revisions_identify` proves that this is the only way: in every run in which no recovery
takes back a revision that a read has shown, reads that show the same revision show the same
configuration, and an accepted `apply` replaces the configuration that its client saw, which is the
one that the call before it has left.
-/
import ZtPlanet.Agent.Rendering

namespace ZtPlanet.Agent

open ZtPlanet.Lib ZtPlanet.Python

/-! ## 1. The agent, one operation at a time -/

/-- A call that changes the configuration. -/
inductive Call where
  | apply (request : Json) (actor : PyStr)
  | rollback (actor : PyStr)

/-- `request.get("expectedRevision")`. -/
def expectedRevision : Json → Json
  | .obj members => get members "expectedRevision"
  | _ => .null

/-- What the call does; its result is not looked at here. -/
def Call.program (host : Host) : Call → AgentM Unit
  | .apply request actor => do
    let _ ← Agent.apply host request actor
  | .rollback actor => do
    let _ ← Agent.rollback host actor

/-- The call that holds the lock, with what it meets outside and what it has still to do. -/
structure Running where
  call : Call
  plan : Plan
  program : AgentM Unit

/-- What can be said about the configuration from outside. -/
inductive Observation where
  /-- a read has shown this envelope -/
  | saw (e : Envelope)
  /-- an `apply` was accepted with this `expectedRevision` and is about to replace this envelope -/
  | replaced (expected : Json) (e : Envelope)
  /-- a call has ended and left this envelope -/
  | left (e : Envelope)

structure Server where
  agent : AgentState
  running : Option Running
  log : List Observation

/-- What the next operation of a call adds to the log. -/
def observe (call : Call) (act : Act) (s : AgentState) : List Observation :=
  match call, act with
  | .apply request _, .writeConfig .forward _ => [.replaced (expectedRevision request) s.config]
  | _, _ => []

/-- What can happen next. -/
inductive Tick where
  /-- a call takes the lock -/
  | call (c : Call) (plan : Plan)
  /-- the call that holds the lock performs its next operation, or releases the lock -/
  | advance
  /-- a read without the lock -/
  | read

/-- One event. -/
def Server.step (host : Host) (s : Server) : Tick → Option Server
  | .call c plan =>
    match s.running with
    | none => some { s with running := some ⟨c, plan, c.program host⟩ }
    | some _ => none
  | .advance =>
    match s.running with
    | none => none
    | some ⟨call, plan, .perform act k⟩ =>
      let (answer, agent) := handle host plan act s.agent
      some ⟨agent, some ⟨call, plan, k answer⟩, s.log ++ observe call act s.agent⟩
    | some _ => some { s with running := none, log := s.log ++ [.left s.agent.config] }
  | .read => some { s with log := s.log ++ [.saw s.agent.config] }

/-- The server as a machine. -/
def serverMachine (host : Host) : Machine Server Tick := ⟨Server.step host⟩

/-- A server that has just been started. -/
def Server.start (s : AgentState) : Server := ⟨s, none, [.left s.config]⟩

/-! ## 2. The law -/

/-- The envelope that a call has left, if that is what the observation is. -/
def Observation.leaves (found : Option Envelope) : Observation → Option Envelope
  | .left e => some e
  | _ => found

/-- The envelope that the last call has left. -/
def lastLeft (log : List Observation) : Option Envelope := log.foldl Observation.leaves none

/-- Two reads that show the same revision show the same configuration, and an accepted `apply`
replaces what its client saw and what the last call has left. -/
structure RevisionsIdentify (log : List Observation) : Prop where
  agree : ∀ e e', .saw e ∈ log → .saw e' ∈ log → e.revision = e'.revision → e.config = e'.config
  seen : ∀ expected old e, .replaced expected old ∈ log → .saw e ∈ log →
    expected.eqInt e.revision = true → old.revision = e.revision ∧ old.config = e.config
  chain : ∀ before after expected old, log = before ++ .replaced expected old :: after →
    lastLeft before = some old

/-- The observation is a read that has shown the revision. -/
def Observation.shows (revision : Nat) : Observation → Bool
  | .saw e => e.revision == revision
  | _ => false

/-- No read has shown the revision. -/
def Unseen (log : List Observation) (revision : Nat) : Prop :=
  ∀ o ∈ log, o.shows revision = false

/-- The envelope that the next operation puts back, if it is the one of a recovery. -/
def Server.restores (s : Server) : Option Envelope :=
  match s.running with
  | some ⟨_, _, .perform (.writeConfig .recovery e) _⟩ => some e
  | _ => none

/-- The next operation does not take back a revision that a read has shown. -/
def WithdrawsUnseen (s : Server) : Tick → Prop
  | .advance => ∀ e ∈ s.restores, s.agent.config = e ∨ Unseen s.log s.agent.config.revision
  | _ => True

instance (log : List Observation) (revision : Nat) : Decidable (Unseen log revision) :=
  inferInstanceAs (Decidable (∀ o ∈ log, _))

instance (s : Server) : ∀ t, Decidable (WithdrawsUnseen s t)
  | .advance => inferInstanceAs (Decidable (∀ e ∈ s.restores, _))
  | .call _ _ => isTrue trivial
  | .read => isTrue trivial

/-! ## 3. What a call writes to `config.json` -/

/-- A call that started from `base` writes the next revision over it, and in a recovery `base`
itself. -/
def Writes (call : Call) (base : Envelope) (act : Act) (s : AgentState) : Prop :=
  match act with
  | .writeConfig .forward e =>
    s.config = base ∧ e.revision = base.revision + 1 ∧
      ∀ request actor, call = .apply request actor →
        (expectedRevision request).eqInt base.revision = true
  | .writeConfig .recovery e => e = base
  | _ => True

/-- The operations that do not write `config.json`. -/
def Act.quiet : Act → Prop
  | .writeConfig _ _ => False
  | _ => True

variable {host : Host} {plan : Plan} {call : Call} {base : Envelope} {s : AgentState}

theorem writes_of_quiet {act : Act} (s : AgentState) (h : act.quiet) : Writes call base act s := by
  cases act with
  | writeConfig => cases h
  | _ => trivial

theorem along_of_quiet {α : Type} {p : AgentM α} (hp : Prog.Only Act.quiet p) (s : AgentState) :
    Prog.Along (handle host plan) (Writes call base) p s :=
  hp.along (fun _ s h => writes_of_quiet s h) s

theorem config_of_quiet {act : Act} (h : act.quiet) (s : AgentState) :
    (handle host plan act s).2.config = s.config := by
  have hwrite (o : Outcome) (enc : Bool) (t : AgentState) (ht : t.config = s.config) :
      (write o enc s t).2.config = s.config := by
    rcases write_snd o enc (s := s) (t := t) with h | h
    · rw [h]
    · rw [h, ht]
  cases act with
  | writeConfig => cases h
  | remembered | remember | utcNow | run => rfl
  | readConfig | globHistory | readHistory | sha256File =>
    exact congrArg AgentState.config (read_snd _ _)
  | writeHistory | unlinkHistory | makeGatewayReadable | audit | writeGenerated =>
    exact hwrite _ _ _ rfl

theorem config_of_call (act : Act) (hact : act.quiet) {r : Except PyError act.Ans} {t : AgentState}
    (h : Prog.exec (handle host plan) (perform act) s = (r, t)) : t.config = s.config := by
  rw [Prog.exec_call] at h
  have hquiet : (handle host plan act s).2.config = s.config := config_of_quiet hact s
  rwa [h] at hquiet

theorem render_quiet (phase : Phase) (config : Config) :
    Prog.Only Act.quiet (render phase config) := by
  refine (render_only phase config).mono ?_
  intro act hact
  cases act with
  | writeConfig => cases hact
  | _ => trivial

theorem restart_quiet (phase : Phase) (old new : Config) :
    Prog.Only Act.quiet (restart host phase old new) := by
  refine (applyRuntime_only phase _ new).mono ?_
  intro act hact
  cases act with
  | writeConfig => cases hact
  | _ => trivial

theorem along_publish {updated : Envelope} (hs : s.config = base)
    (hrevision : updated.revision = base.revision + 1)
    (hexpected : ∀ request actor, call = .apply request actor →
      (expectedRevision request).eqInt base.revision = true) :
    Prog.Along (handle host plan) (Writes call base) (publish host base updated) s := by
  refine Prog.Along.bind ?_ fun _ t _ => along_of_quiet (restart_quiet _ _ _) t
  refine Prog.Along.bind (Prog.along_call ⟨hs, hrevision, hexpected⟩) fun _ t _ => ?_
  exact along_of_quiet (render_quiet _ _) t

theorem along_install_recovery (s : AgentState) :
    Prog.Along (handle host plan) (Writes call base) (install .recovery base) s := by
  refine Prog.Along.bind (Prog.along_call ?_) fun _ t _ => along_of_quiet (render_quiet _ _) t
  exact rfl

theorem along_recoverApply (updated : Envelope) (actor : PyStr) (error : PyError)
    (s : AgentState) :
    Prog.Along (handle host plan) (Writes call base)
      (recoverApply host base updated actor error) s := by
  refine (along_install_recovery s).bind fun _ t _ => ?_
  refine Prog.Along.bind (along_of_quiet ?_ t) fun _ u _ => Prog.along_throw _
  exact ((restart_quiet _ _ _).bind fun _ => Prog.only_pure _).tryCatch fun _ =>
    Prog.only_call trivial

theorem along_recoverRollback (target : Envelope) (error : PyError) (s : AgentState) :
    Prog.Along (handle host plan) (Writes call base)
      (recoverRollback host base target error) s := by
  refine (along_install_recovery s).bind fun _ t _ => along_of_quiet ?_ t
  exact (restart_quiet _ _ _).bind fun _ => Prog.only_throw _

theorem along_applyAdmitted {actor key : PyStr} {config : Config} {warnings : List PyStr}
    (hs : s.config = base)
    (hexpected : ∀ request actor, call = .apply request actor →
      (expectedRevision request).eqInt base.revision = true) :
    Prog.Along (handle host plan) (Writes call base)
      (applyAdmitted host actor key base config warnings) s := by
  refine Prog.Along.bind (Prog.along_call trivial) fun _ t ht => ?_
  refine Prog.Along.bind (Prog.along_call trivial) fun now u hu => ?_
  have hconfig : u.config = base :=
    (config_of_call .utcNow trivial hu).trans
      ((config_of_call (.writeHistory base) trivial ht).trans hs)
  refine Prog.Along.bind ?_ fun runtime v _ => along_of_quiet ?_ v
  · refine Prog.Along.tryCatch (along_publish hconfig rfl hexpected) fun error v _ => ?_
    exact along_recoverApply _ _ _ v
  · exact (Prog.only_call trivial).bind fun _ => (Prog.only_call trivial).bind fun _ =>
      Prog.only_pure _

theorem expectedRevision_of_requestKey {request : Json} {checked : List (PyStr × Json) × PyStr}
    (h : requestKey request = .ok checked) :
    expectedRevision request = get checked.1 "expectedRevision" := by
  unfold requestKey at h
  split at h
  · split at h
    · split at h
      · cases h
        rfl
      · cases h
    · cases h
  · cases h

theorem checkRevision_eq_ok {expected : Json} {current : Nat} {u : Unit} :
    checkRevision expected current = .ok u ↔ expected.eqInt current = true := by
  unfold checkRevision
  split <;> simp_all

/-- **What an `apply` writes.** -/
theorem along_apply (request : Json) (actor : PyStr) (s : AgentState) :
    Prog.Along (handle host plan) (Writes (.apply request actor) s.config)
      (apply host request actor) s := by
  refine Prog.Along.bind (Prog.along_ofExcept _) fun checked t ht => ?_
  rw [Prog.exec_ofExcept, Prod.mk.injEq] at ht
  obtain ⟨hkey, rfl⟩ := ht
  refine Prog.Along.bind (Prog.along_call trivial) fun found u hu => ?_
  have hconfig : u.config = s.config := config_of_call (.remembered checked.2) trivial hu
  cases found with
  | some result => exact Prog.along_pure _
  | none =>
    refine Prog.Along.bind (Prog.along_call trivial) fun current v hv => ?_
    rw [Prog.exec_call] at hv
    obtain ⟨-, hcurrent, rfl⟩ := read_eq_ok.mp hv
    cases hcurrent
    refine Prog.Along.bind (Prog.along_ofExcept _) fun _ w hw => ?_
    rw [Prog.exec_ofExcept, Prod.mk.injEq] at hw
    obtain ⟨hrevision, rfl⟩ := hw
    refine Prog.Along.bind (Prog.along_ofExcept _) fun validated w hw => ?_
    rw [Prog.exec_ofExcept, Prod.mk.injEq] at hw
    obtain ⟨-, rfl⟩ := hw
    rw [hconfig]
    refine along_applyAdmitted hconfig ?_
    intro request' actor' heq
    cases heq
    rw [expectedRevision_of_requestKey hkey, ← hconfig]
    exact checkRevision_eq_ok.mp hrevision

theorem along_rollback (actor : PyStr) (s : AgentState) :
    Prog.Along (handle host plan) (Writes (.rollback actor) s.config) (rollback host actor) s := by
  refine Prog.Along.bind (Prog.along_call trivial) fun revisions t ht => ?_
  have hconfig : t.config = s.config := config_of_call .globHistory trivial ht
  split
  · exact Prog.along_throw _
  · rename_i revision _
    refine Prog.Along.bind (Prog.along_call trivial) fun stored u hu => ?_
    refine Prog.Along.bind (Prog.along_call trivial) fun current v hv => ?_
    rw [Prog.exec_call] at hv
    obtain ⟨-, hcurrent, rfl⟩ := read_eq_ok.mp hv
    cases hcurrent
    refine Prog.Along.bind (Prog.along_call trivial) fun now w hw => ?_
    have hv : v.config = s.config :=
      (config_of_call (.readHistory revision) trivial hu).trans hconfig
    have hw : w.config = s.config := (config_of_call .utcNow trivial hw).trans hv
    rw [hv]
    refine Prog.Along.bind ?_ fun runtime x _ => along_of_quiet ?_ x
    · refine Prog.Along.tryCatch (along_publish hw rfl ?_) fun error x _ => ?_
      · intro request actor heq
        cases heq
      · exact along_recoverRollback _ _ x
    · exact (Prog.only_call trivial).bind fun _ => (Prog.only_call trivial).bind fun _ =>
        Prog.only_pure _

theorem along_program (c : Call) (s : AgentState) :
    Prog.Along (handle host plan) (Writes c s.config) (c.program host) s := by
  cases c with
  | apply request actor => exact (along_apply request actor s).bind fun _ _ _ => Prog.along_pure _
  | rollback actor => exact (along_rollback actor s).bind fun _ _ _ => Prog.along_pure _

/-! ## 4. The invariant -/

/-- The envelopes that the log speaks of. -/
def Shown (log : List Observation) (e : Envelope) : Prop :=
  .saw e ∈ log ∨ ∃ expected, .replaced expected e ∈ log

/-- What holds of the log while a call that started from `base` is running, or between calls.

An envelope that the log speaks of is `base` or older, or is the one that the call has put into
place and not yet taken back. -/
structure LogInv (base current : Envelope) (log : List Observation) : Prop where
  last : lastLeft log = some base
  place : current = base ∨ current.revision = base.revision + 1
  agree : ∀ e e', Shown log e → Shown log e' → e.revision = e'.revision → e.config = e'.config
  bounded : ∀ e, Shown log e → e.revision ≤ base.revision ∧
      (e.revision = base.revision → e.config = base.config) ∨
    e.revision = current.revision ∧ e.config = current.config ∧ .saw e ∈ log
  replaced : ∀ expected old, .replaced expected old ∈ log →
    expected.eqInt old.revision = true ∧ old.revision ≤ base.revision
  chain : ∀ before after expected old, log = before ++ .replaced expected old :: after →
    lastLeft before = some old

/-- The invariant of the server. -/
structure ServerInv (host : Host) (s : Server) : Prop where
  log : ∃ base, LogInv base s.agent.config s.log ∧
    match s.running with
    | none => s.agent.config = base
    | some r => Prog.Along (handle host r.plan) (Writes r.call base) r.program s.agent

theorem lastLeft_append_one (log : List Observation) (o : Observation) :
    lastLeft (log ++ [o]) = o.leaves (lastLeft log) := by
  simp [lastLeft]

/-- A new last entry is either the one looked for or behind it. -/
theorem append_one_eq {α : Type} {l before after : List α} {a b : α}
    (h : l ++ [b] = before ++ a :: after) :
    (after = [] ∧ l = before ∧ b = a) ∨ ∃ rest, l = before ++ a :: rest := by
  rcases List.eq_nil_or_concat after with rfl | ⟨rest, c, rfl⟩
  · obtain ⟨hl, hb⟩ := List.append_inj' h rfl
    exact .inl ⟨rfl, hl, (List.cons.inj hb).1⟩
  · refine .inr ⟨rest, ?_⟩
    have h' : l ++ [b] = (before ++ a :: rest) ++ [c] := by simpa using h
    exact (List.append_inj' h' rfl).1

theorem shown_append_one {log : List Observation} {o : Observation} {e : Envelope} :
    Shown (log ++ [o]) e ↔ Shown log e ∨ o = .saw e ∨ ∃ expected, o = .replaced expected e := by
  simp only [Shown, List.mem_append, List.mem_singleton, exists_or, @eq_comm _ _ o]
  tauto

namespace LogInv

variable {current next : Envelope} {log : List Observation}

/-- What the log says about the revision that is in place is right. -/
theorem agree_current (h : LogInv base current log) {e : Envelope} (he : Shown log e)
    (hrevision : e.revision = current.revision) : e.config = current.config := by
  rcases h.bounded e he with ⟨hle, heq⟩ | ⟨-, hconfig, -⟩
  · rcases h.place with rfl | hnext
    · exact heq hrevision
    · omega
  · exact hconfig

/-- Where nothing that was shown can be taken back, the log is about `base` and older envelopes. -/
theorem settled (h : LogInv base current log)
    (hunseen : current = base ∨ Unseen log current.revision) {e : Envelope}
    (he : Shown log e) :
    e.revision ≤ base.revision ∧ (e.revision = base.revision → e.config = base.config) := by
  rcases h.bounded e he with hold | ⟨hrevision, hconfig, hsaw⟩
  · exact hold
  · rcases hunseen with rfl | hunseen
    · exact ⟨hrevision.le, fun _ => hconfig⟩
    · exact absurd hrevision (by simpa [Observation.shows] using hunseen _ hsaw)

/-- Another envelope is put into place. -/
theorem move (h : LogInv base current log)
    (hunseen : current = base ∨ Unseen log current.revision)
    (hnext : next = base ∨ next.revision = base.revision + 1) : LogInv base next log :=
  ⟨h.last, hnext, h.agree, fun _ he => .inl (h.settled hunseen he), h.replaced, h.chain⟩

/-- An entry that is no accepted `apply` leaves the order of the calls alone. -/
theorem chain_append_one (h : LogInv base current log) {o : Observation}
    (ho : ∀ expected e, o ≠ .replaced expected e) (before after : List Observation)
    (expected : Json) (old : Envelope)
    (heq : log ++ [o] = before ++ .replaced expected old :: after) :
    lastLeft before = some old := by
  rcases append_one_eq heq with ⟨-, -, rfl⟩ | ⟨rest, hlog⟩
  · exact absurd rfl (ho _ _)
  · exact h.chain before rest expected old hlog

/-- An entry that speaks of nothing but what is in place agrees with the others. -/
theorem agree_append_one (h : LogInv base current log) {o : Observation}
    (ho : ∀ e, (o = .saw e ∨ ∃ expected, o = .replaced expected e) → e = current)
    (e e' : Envelope) (he : Shown (log ++ [o]) e) (he' : Shown (log ++ [o]) e')
    (heq : e.revision = e'.revision) : e.config = e'.config := by
  rw [shown_append_one] at he he'
  rcases he with he | he <;> rcases he' with he' | he'
  · exact h.agree e e' he he' heq
  · obtain rfl := ho e' he'
    exact h.agree_current he heq
  · obtain rfl := ho e he
    exact (h.agree_current he' heq.symm).symm
  · rw [ho e he, ho e' he']

/-- A read. -/
theorem saw (h : LogInv base current log) : LogInv base current (log ++ [.saw current]) where
  last := (lastLeft_append_one log _).trans h.last
  place := h.place
  agree := h.agree_append_one (by
    rintro e (he | ⟨_, he⟩)
    · cases he
      rfl
    · cases he)
  bounded := by
    intro e he
    rcases shown_append_one.mp he with he | he | ⟨_, he⟩
    · rcases h.bounded e he with hold | ⟨hr, hc, hs⟩
      · exact .inl hold
      · exact .inr ⟨hr, hc, List.mem_append_left _ hs⟩
    · cases he
      exact .inr ⟨rfl, rfl, by simp⟩
    · cases he
  replaced := by
    intro expected old hmem
    rcases List.mem_append.mp hmem with hmem | hmem
    · exact h.replaced expected old hmem
    · simp at hmem
  chain := h.chain_append_one fun _ _ => by simp

/-- An `apply` is accepted. -/
theorem accept (h : LogInv base base log) {expected : Json}
    (hexpected : expected.eqInt base.revision = true) :
    LogInv base base (log ++ [.replaced expected base]) where
  last := (lastLeft_append_one log _).trans h.last
  place := .inl rfl
  agree := h.agree_append_one (by
    rintro e (he | ⟨_, he⟩)
    · cases he
    · cases he
      rfl)
  bounded := by
    intro e he
    refine .inl ?_
    rcases shown_append_one.mp he with he | he | ⟨_, he⟩
    · exact h.settled (.inl rfl) he
    · cases he
    · cases he
      exact ⟨le_rfl, fun _ => rfl⟩
  replaced := by
    intro x old hmem
    rcases List.mem_append.mp hmem with hmem | hmem
    · exact h.replaced x old hmem
    · rw [List.mem_singleton] at hmem
      cases hmem
      exact ⟨hexpected, le_rfl⟩
  chain := by
    intro before after x old heq
    rcases append_one_eq heq with ⟨-, rfl, hlast⟩ | ⟨rest, hlog⟩
    · cases hlast
      exact h.last
    · exact h.chain before rest x old hlog

/-- A call ends. -/
theorem leave (h : LogInv base current log) :
    LogInv current current (log ++ [.left current]) where
  last := lastLeft_append_one log _
  place := .inl rfl
  agree := h.agree_append_one (by
    rintro e (he | ⟨_, he⟩) <;> cases he)
  bounded := by
    intro e he
    rw [shown_append_one] at he
    simp only [reduceCtorEq, exists_false, or_false] at he
    refine .inl ⟨?_, h.agree_current he⟩
    rcases h.bounded e he with ⟨hle, -⟩ | ⟨hr, -, -⟩
    · rcases h.place with rfl | hnext <;> omega
    · exact hr.le
  replaced := by
    intro expected old hmem
    rcases List.mem_append.mp hmem with hmem | hmem
    · obtain ⟨hexpected, hle⟩ := h.replaced expected old hmem
      refine ⟨hexpected, ?_⟩
      rcases h.place with rfl | hnext <;> omega
    · simp at hmem
  chain := h.chain_append_one fun _ _ => by simp

end LogInv

/-! ## 5. Every event keeps it -/

variable {srv srv' : Server}

/-- An operation of the call that holds the lock. -/
theorem LogInv.advance {log : List Observation} {act : Act} (h : LogInv base s.config log)
    (hwrites : Writes call base act s)
    (hunseen : ∀ e, act = .writeConfig .recovery e →
      s.config = e ∨ Unseen log s.config.revision) :
    LogInv base (handle host plan act s).2.config (log ++ observe call act s) := by
  by_cases hquiet : act.quiet
  · have hobserve : observe call act s = [] := by
      cases act with
      | writeConfig => cases hquiet
      | _ => cases call <;> rfl
    rw [config_of_quiet hquiet, hobserve, List.append_nil]
    exact h
  · cases act with
    | writeConfig phase e =>
      have hconfig : (handle host plan (.writeConfig phase e) s).2.config = s.config ∨
          (handle host plan (.writeConfig phase e) s).2.config = e := by
        rcases write_snd (plan.outcome (.writeConfig phase e)) e.encodable (s := s)
          (t := { s with config := e }) with hw | hw
        · exact .inl (congrArg AgentState.config hw)
        · exact .inr (congrArg AgentState.config hw)
      cases phase with
      | forward =>
        obtain ⟨hbase, hrevision, hexpected⟩ := hwrites
        rw [hbase] at h hconfig
        have hlog : LogInv base base (log ++ observe call (.writeConfig .forward e) s) := by
          cases call with
          | apply request actor =>
            change LogInv base base (log ++ [.replaced (expectedRevision request) s.config])
            rw [hbase]
            exact h.accept (hexpected request actor rfl)
          | rollback actor =>
            change LogInv base base (log ++ [])
            rwa [List.append_nil]
        refine hlog.move (.inl rfl) ?_
        rcases hconfig with hc | hc
        · exact .inl hc
        · exact .inr (by rw [hc, hrevision])
      | recovery =>
        have hobserve : observe call (.writeConfig .recovery e) s = [] := by cases call <;> rfl
        obtain rfl : e = base := hwrites
        rw [hobserve, List.append_nil]
        rcases hconfig with hc | hc
        · rwa [hc]
        · exact h.move (hunseen e rfl) (.inl hc)
    | _ => exact absurd trivial hquiet

/-- **One event keeps the invariant, unless it takes back a revision that a read has shown.** -/
theorem ServerInv.step (hi : ServerInv host srv) {tick : Tick} (hok : WithdrawsUnseen srv tick)
    (hstep : srv.step host tick = some srv') : ServerInv host srv' := by
  obtain ⟨base, hlog, hrunning⟩ := hi.log
  obtain ⟨agent, running, log⟩ := srv
  cases tick with
  | read =>
    cases hstep
    exact ⟨base, hlog.saw, hrunning⟩
  | call c plan =>
    cases running with
    | none =>
      cases hstep
      obtain rfl : agent.config = base := hrunning
      exact ⟨agent.config, hlog, along_program c agent⟩
    | some r => cases hstep
  | advance =>
    cases running with
    | none => cases hstep
    | some r =>
      obtain ⟨call, plan, program⟩ := r
      cases program with
      | pure _ =>
        cases hstep
        exact ⟨agent.config, hlog.leave, rfl⟩
      | raise _ =>
        cases hstep
        exact ⟨agent.config, hlog.leave, rfl⟩
      | perform act k =>
        cases hstep
        obtain ⟨hwrites, hrest⟩ := hrunning
        refine ⟨base, hlog.advance hwrites ?_, hrest⟩
        rintro e rfl
        exact hok e rfl

theorem serverInv_start (s : AgentState) : ServerInv host (Server.start s) := by
  refine ⟨s.config, ⟨rfl, .inl rfl, ?_, ?_, ?_, ?_⟩, rfl⟩
  · rintro e e' (he | ⟨_, he⟩) <;> simp [Server.start] at he
  · rintro e (he | ⟨_, he⟩) <;> simp [Server.start] at he
  · intro expected old he
    simp [Server.start] at he
  · intro before after expected old heq
    rcases append_one_eq (l := []) heq with ⟨-, -, h⟩ | ⟨rest, h⟩
    · cases h
    · cases before <;> cases h

/-- **A revision number identifies a configuration as long as no recovery takes back a revision
that a read has shown.** -/
theorem revisions_identify (host : Host) (s : AgentState) (ticks : List Tick)
    (hticks : (serverMachine host).Conforms WithdrawsUnseen (Server.start s) ticks)
    (hrun : (serverMachine host).run (Server.start s) ticks = some srv) :
    RevisionsIdentify srv.log := by
  have hinv : ServerInv host srv :=
    Machine.run_invariant_of_conforms (fun _ _ _ hi hok hstep => hi.step hok hstep) ticks
      (serverInv_start s) hticks hrun
  obtain ⟨base, hlog, -⟩ := hinv.log
  refine ⟨fun e e' he he' => hlog.agree e e' (.inl he) (.inl he'), ?_, hlog.chain⟩
  intro expected old e hold he hexpected
  have hrevision : old.revision = e.revision :=
    Int.ofNat_inj.mp (Json.eqInt_inj (hlog.replaced expected old hold).1 hexpected)
  exact ⟨hrevision, hlog.agree old e (.inr ⟨expected, hold⟩) (.inl he) hrevision⟩

/-- An `apply` that succeeds, with a read before, in the middle of and after it. -/
def exampleTicks : List Tick :=
  [Tick.read, Tick.call (.apply (exampleRequest (withSessions 3600)) []) (examplePlan 0)] ++
    List.replicate 5 Tick.advance ++ [Tick.read] ++ List.replicate 19 Tick.advance ++ [Tick.read]

theorem revisions_identify_example : ∃ srv,
    (serverMachine exampleHost).run (Server.start (initial exampleHost [])) exampleTicks =
      some srv ∧
    RevisionsIdentify srv.log := by
  -- one evaluation of the run for both
  have hticks : (serverMachine exampleHost).Conforms WithdrawsUnseen
      (Server.start (initial exampleHost [])) exampleTicks ∧
    ((serverMachine exampleHost).run (Server.start (initial exampleHost []))
      exampleTicks).isSome = true := by decide +kernel
  obtain ⟨hticks, hsome⟩ := hticks
  obtain ⟨srv, hrun⟩ := Option.isSome_iff_exists.mp hsome
  exact ⟨srv, hrun, revisions_identify exampleHost _ exampleTicks hticks hrun⟩

/-- A read sees the second revision of an `apply` that then fails, and another one the second
revision of the `apply` after it. -/
def withdrawnTicks : List Tick :=
  [Tick.call (.apply (exampleRequest (withSessions 3600)) []) (examplePlan 1)] ++
    List.replicate 5 Tick.advance ++ [Tick.read] ++ List.replicate 33 Tick.advance ++
  [Tick.call (.apply (exampleRequest (withSessions 7200)) []) (examplePlan 0)] ++
    List.replicate 24 Tick.advance ++ [Tick.read]

/-- One number, two configurations. -/
theorem revision_reused : ∃ srv,
    (serverMachine exampleHost).run (Server.start (initial exampleHost [])) withdrawnTicks
      = some srv ∧ ¬ RevisionsIdentify srv.log := by
  have hshown : ((serverMachine exampleHost).run (Server.start (initial exampleHost []))
      withdrawnTicks).map (fun srv => srv.log.filterMap fun
        | .saw e => some e
        | _ => none) = some [⟨2, [], withSessions 3600⟩, ⟨2, [], withSessions 7200⟩] := by
    decide +kernel
  obtain ⟨srv, hrun, hlog⟩ := Option.map_eq_some_iff.mp hshown
  have hsaw {e : Envelope} (he : e ∈ srv.log.filterMap fun | .saw e => some e | _ => none) :
      .saw e ∈ srv.log := by
    obtain ⟨o, ho, heq⟩ := List.mem_filterMap.mp he
    cases o <;> simp_all
  refine ⟨srv, hrun, fun h => ?_⟩
  have hagree := h.agree ⟨2, [], withSessions 3600⟩ ⟨2, [], withSessions 7200⟩
    (hsaw (by simp [hlog])) (hsaw (by simp [hlog])) rfl
  revert hagree
  decide

end ZtPlanet.Agent
