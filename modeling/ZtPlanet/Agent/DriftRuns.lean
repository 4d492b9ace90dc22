/-
# Runs of the directory

What `status` may report over whole runs: starts, calls and edits, any of them killed or failing
anywhere.  A run whose events all account for the files never ends in a wrong empty report.

When an event does so can be read off the directory in front of it, the plan and the point where it
is killed (`DiskEvent.Safe`).  A call that runs to its end needs a recovery that works.  One that is
killed behind the write of `config.json` and in front of the manifest has to show that: by a file
that it has written, or by one that it has not and that somebody has edited.
-/
import ZtPlanet.Agent.Killed

namespace ZtPlanet.Agent

open ZtPlanet.Lib ZtPlanet.Python

variable {host : Host} {plan : Plan} {d : Directory}

/-! ## 1. Directories that are held -/

/-- `config.json` can be written and rendered, and the files are accounted for. -/
structure Held (host : Host) (d : Directory) : Prop where
  encodable : d.1.config.encodable = true
  rendering : ∃ generated, IsRendering host d.1.config.config generated
  accounted : Accounted host d

/-- A directory in which `config.json` and the generated files are as they were. -/
structure Untouched (d d' : Directory) : Prop where
  config : d'.1.config = d.1.config
  generated : d'.1.generated = d.1.generated
  last : d'.2 = d.2

theorem Untouched.refl (d : Directory) : Untouched d d := ⟨rfl, rfl, rfl⟩

theorem Untouched.trans {d d' d'' : Directory} (h : Untouched d d') (h' : Untouched d' d'') :
    Untouched d d'' :=
  ⟨h'.config.trans h.config, h'.generated.trans h.generated, h'.last.trans h.last⟩

theorem Held.same {d' : Directory} (h : Held host d) (hsame : Untouched d d') : Held host d' := by
  obtain ⟨hencodable, hrendering, last, files, hlast, hfiles, haccounted⟩ := h
  refine ⟨?_, ?_, last, files, hsame.last.trans hlast, hfiles, ?_⟩
  · rw [hsame.config]
    exact hencodable
  · rw [hsame.config]
    exact hrendering
  · rw [hsame.config, hsame.generated]
    exact haccounted

/-- An operation that touches neither `config.json` nor a generated file. -/
theorem untouched_handle {act : Act} (hact : act.keeps) (d : Directory) :
    Untouched d (handleDirectory host plan act d).2 := by
  refine ⟨(handle_keeps hact d.1).1, (handle_keeps hact d.1).2, ?_⟩
  change completedRender plan act d.1 d.2 = d.2
  unfold completedRender
  split
  · cases hact
  · rfl

theorem untouched_leave {α : Type} {p : AgentM α} (hp : Prog.Only Act.keeps p)
    (stop : Option Nat) (d : Directory) :
    Untouched d (Prog.leave (handleDirectory host plan) stop p d) :=
  (hp.along (fun _ _ hact => hact) d).leave_preserves (Q := fun (act : Act) _ => act.keeps)
    (I := Untouched d) (fun _ _ hact h => h.trans (untouched_handle hact _)) (.refl d) stop

/-- The files are not those of the last completed render, unless `new` are the same ones. -/
def Shows (host : Host) (last : Option Config) (new : GeneratedFile → Content)
    (generated : GeneratedFile → Option Content) : Prop :=
  ∀ config files, last = some config → rendering host config = some files →
    (∀ f ∈ digestedFiles, new f = files f) ∨ ∃ f ∈ digestedFiles, generated f ≠ some (files f)

/-- Another `config.json` over files that show it. -/
theorem held_of_shows (hd : Held host d) {s : AgentState} {new : GeneratedFile → Content}
    (hencodable : s.config.encodable = true)
    (hrendering : IsRendering host s.config.config fun f => some (new f))
    (hshows : Shows host d.2 new s.generated) : Held host (s, d.2) := by
  obtain ⟨last, files, hlast, hfiles, -⟩ := hd.accounted
  obtain ⟨new', hnew, heq⟩ := hrendering.rendering_eq
  obtain rfl : new = new' := funext fun f => Option.some.inj (congrFun heq f)
  refine ⟨hencodable, ⟨_, hrendering⟩, last, files, hlast, hfiles, ?_⟩
  rcases hshows last files hlast hfiles with hsame | hdiffers
  · exact .inl ⟨new, hnew, hsame⟩
  · exact .inr hdiffers

/-! ## 2. Installations -/

/-- The last completed render is one of `config.json`, and it can be repeated. -/
structure Settled (host : Host) (d : Directory) : Prop where
  last : d.2 = some d.1.config.config
  encodable : d.1.config.encodable = true
  rendering : ∃ generated, IsRendering host d.1.config.config generated

theorem Settled.held (h : Settled host d) : Held host d := by
  obtain ⟨generated, hgenerated⟩ := h.rendering
  obtain ⟨files, hfiles, -⟩ := hgenerated.rendering_eq
  refine ⟨h.encodable, h.rendering, _, files, h.last, hfiles, .inl ⟨files, hfiles, fun _ _ => rfl⟩⟩

/-- Where `install` returns, the directory is settled. -/
theorem settled_of_install {phase : Phase} {e : Envelope} {d' : Directory}
    (h : Prog.exec (handleDirectory host plan) (install phase e) d = (.ok (), d')) :
    Settled host d' := by
  obtain ⟨hanswer, hstate⟩ := Prog.exec_withHistory (handle host plan) (completedRender plan)
    (install phase e) d.1 d.2
  have hagent : Prog.exec (handle host plan) (install phase e) d.1 = (.ok (), d'.1) :=
    Prod.ext (hanswer.symm.trans (congrArg Prod.fst h))
      (hstate.symm.trans (congrArg (fun x => x.2.1) h))
  obtain ⟨hinstalled, -⟩ := exec_install_eq_ok hagent
  obtain ⟨_, u, -, hrender⟩ := Prog.exec_bind_eq_ok.mp h
  exact ⟨last_of_render hrender, hinstalled.encodable, _, hinstalled.rendering⟩

/-- The commands of a restart leave the files alone. -/
theorem restart_keeps (phase : Phase) (old new : Config) :
    Prog.Only Act.keeps (restart host phase old new) := by
  refine (applyRuntime_only phase _ new).mono fun act hact => ?_
  cases act with
  | run phase command => trivial
  | _ => cases hact

/-- A recovery: it installs what was there before and goes on with commands. -/
def Recovers (current : Envelope) (recover : AgentM Runtime) : Prop :=
  ∃ rest, Prog.Only Act.keeps rest ∧
    recover = (do install .recovery current; rest)

/-- A recovery that works leaves what was there before. -/
theorem held_recovery (hplan : plan.RecoveryWorks) (hd : Held host d)
    {recover : AgentM Runtime} (hrecover : Recovers d.1.config recover) (d' : Directory) :
    Held host (Prog.exec (handleDirectory host plan) recover d').2 := by
  obtain ⟨generated, hrendering⟩ := hd.rendering
  have hinstall := directory_install (hplan _ rfl) hplan.renders hd.encodable hrendering d'
  obtain ⟨rest, hrest, rfl⟩ := hrecover
  rw [Prog.exec_bind_ok hinstall]
  exact (settled_of_install hinstall).held.same (untouched_leave hrest none _)

/-- The services are restarted, whatever there is on the disk. -/
def Restarts (host : Host) (plan : Plan) (old new : Config) : Prop :=
  ∀ s, ∃ runtime, (Prog.exec (handle host plan) (restart host .forward old new) s).1 = .ok runtime

/-- What a call needs that installs an envelope and is killed behind `n` operations, the write of
`config.json` being its fifth and that of the manifest its seventeenth. -/
structure Survives (host : Host) (plan : Plan) (d : Directory) (e : Envelope) (n : Nat) :
    Prop where
  unhindered : Unhindered host plan e
  shows : n ≤ 16 → ∀ new, rendering host e.config = some new →
    Shows host d.2 new (renderedUpTo (n - 5) new d.1.generated)
  restarts : 17 ≤ n → Restarts host plan d.1.config.config e.config

theorem Survives.same {d' : Directory} {e : Envelope} {n : Nat} (h : Survives host plan d e n)
    (hsame : Untouched d d') : Survives host plan d' e n := by
  obtain ⟨hunhindered, hshows, hrestarts⟩ := h
  refine ⟨hunhindered, ?_, ?_⟩
  · rw [hsame.last, hsame.generated]
    exact hshows
  · rw [hsame.config]
    exact hrestarts

/-- The `try` block and what follows it, killed behind `n` operations of the call, four of which are
in front of it. -/
theorem held_publish_killed {α : Type} (hd : Held host d) {updated : Envelope} {n : Nat}
    (h : Survives host plan d updated (n + 4)) (recover : PyError → AgentM Runtime)
    {record : Runtime → AgentM α} (hrecord : ∀ runtime, Prog.Only Act.keeps (record runtime)) :
    Held host (Prog.killed (handleDirectory host plan) n
      (tryCatch (publish host d.1.config updated) recover >>= record) d) := by
  obtain ⟨generated, hrendering⟩ := h.unhindered.rendering
  obtain ⟨new, hnew, rfl⟩ := hrendering.rendering_eq
  rcases Nat.lt_or_ge n 13 with hn | hn
  · -- in the installation
    cases n with
    | zero =>
      rw [Prog.killed_zero]
      exact hd
    | succ m =>
      rw [killed_publish h.unhindered hnew (by omega)]
      refine held_of_shows hd h.unhindered.encodable hrendering ?_
      exact h.shows (by omega) new hnew
  · -- behind the manifest
    obtain ⟨m, rfl⟩ := Nat.exists_eq_add_of_le hn
    rw [killed_publish_behind h.unhindered hrendering]
    let d' : Directory := (d.1.publish updated fun f => some (new f), some updated.config)
    have hsettled : Settled host d' := ⟨rfl, h.unhindered.encodable, _, hrendering⟩
    have hkeeps : Prog.Only Act.keeps
        (restart host .forward d.1.config.config updated.config) := restart_keeps .forward _ _
    let behind (q : AgentM Runtime) : AgentM α := tryCatch q recover >>= record
    rcases Nat.le_total m (Prog.actions (handleDirectory host plan)
      (restart host .forward d.1.config.config updated.config) d') with hm | hm
    · rw [Prog.killed_within (C := behind) (fun _ _ => rfl) hm]
      exact hsettled.held.same (untouched_leave hkeeps (some m) d')
    · obtain ⟨k, rfl⟩ := Nat.exists_eq_add_of_le hm
      obtain ⟨runtime, hruntime⟩ := h.restarts (by omega) d'.1
      have hrestart : Prog.exec (handleDirectory host plan)
          (restart host .forward d.1.config.config updated.config) d' = (.ok runtime, _) :=
        Prod.ext ((Prog.exec_withHistory _ _ _ _ _).1.trans hruntime) rfl
      rw [Prog.killed_behind (C := behind) (fun _ _ => rfl) hrestart k]
      exact (hsettled.held.same (untouched_leave hkeeps none d')).same
        (untouched_leave (hrecord runtime) (some k) _)

/-- Where it is not killed, and its recovery works. -/
theorem held_publish {α : Type} (hplan : plan.RecoveryWorks) (hd : Held host d)
    (updated : Envelope) {recover : PyError → AgentM Runtime}
    (hrecover : ∀ e, Recovers d.1.config (recover e)) {record : Runtime → AgentM α}
    (hrecord : ∀ runtime, Prog.Only Act.keeps (record runtime)) :
    Held host (Prog.exec (handleDirectory host plan)
      (tryCatch (publish host d.1.config updated) recover >>= record) d).2 := by
  have htry : Held host (Prog.exec (handleDirectory host plan)
      (tryCatch (publish host d.1.config updated) recover) d).2 := by
    rw [Prog.exec_tryCatch]
    cases hpublish : Prog.exec (handleDirectory host plan) (publish host d.1.config updated) d with
    | mk r d' =>
      cases r with
      | error e => exact held_recovery hplan hd (hrecover e) d'
      | ok runtime =>
        obtain ⟨_, d'', hinstall, hrestart⟩ := Prog.exec_bind_eq_ok.mp hpublish
        have hsame : Untouched d'' (Prog.exec (handleDirectory host plan)
            (restart host .forward d.1.config.config updated.config) d'').2 :=
          untouched_leave (restart_keeps .forward _ _) none d''
        rw [hrestart] at hsame
        exact (settled_of_install hinstall).held.same hsame
  refine Prog.exec_bind_snd (fun e d' h => ?_) fun runtime d' h => ?_
  · rwa [h] at htry
  · rw [h] at htry
    exact htry.same (untouched_leave (hrecord runtime) none d')

/-! ## 3. Calls -/

/-- What `apply` puts into `config.json`, where it comes to that. -/
def applied (host : Host) (plan : Plan) (s : AgentState) (request : Json) : Option Envelope :=
  match requestKey request with
  | .ok (members, key) =>
    match s.idempotency.get? key, checkRevision (get members "expectedRevision") s.config.revision,
      validateConfig host.nfkc (get members "config") with
    | none, .ok (), .ok validated => some (updatedBy plan s validated.1)
    | _, _, _ => none
  | .error _ => none

/-- What `rollback` puts into `config.json`, where it comes to that. -/
def rolledBack (plan : Plan) (s : AgentState) : Option Envelope :=
  (newest s.history.keys).bind fun revision =>
    (s.history.get? revision).map fun stored => updatedBy plan s stored.config

/-- A call that installs `updated` is left where that does no harm: it runs to its end with a
recovery that works, or it is killed in front of the write of `config.json`, or it survives. -/
def Spared (host : Host) (plan : Plan) (d : Directory) (updated : Option Envelope) :
    Option Nat → Prop
  | none => plan.RecoveryWorks
  | some n => n ≤ 4 ∨ ∀ e, updated = some e → Survives host plan d e n

theorem Spared.same {d' : Directory} {updated : Option Envelope} {stop : Option Nat}
    (h : Spared host plan d updated stop) (hsame : Untouched d d') :
    Spared host plan d' updated stop := by
  cases stop with
  | none => exact h
  | some n => exact h.imp_right fun h e he => (h e he).same hsame

theorem held_publish_left {α : Type} (hd : Held host d) {updated : Envelope} {stop : Option Nat}
    (hlate : ∀ n, stop = some n → 4 ≤ n) (hstop : Spared host plan d (some updated) stop)
    {recover : PyError → AgentM Runtime} (hrecover : ∀ e, Recovers d.1.config (recover e))
    {record : Runtime → AgentM α} (hrecord : ∀ runtime, Prog.Only Act.keeps (record runtime)) :
    Held host (Prog.leave (handleDirectory host plan) (stop.map (· - 4))
      (tryCatch (publish host d.1.config updated) recover >>= record) d) := by
  cases stop with
  | none => exact held_publish hstop hd updated hrecover hrecord
  | some n =>
    obtain ⟨m, rfl⟩ := Nat.exists_eq_add_of_le (hlate n rfl)
    change Held host (Prog.killed _ (4 + m - 4) _ d)
    rw [Nat.add_sub_cancel_left]
    rcases hstop with hearly | hsurvives
    · obtain rfl : m = 0 := by omega
      rw [Prog.killed_zero]
      exact hd
    · have h := hsurvives updated rfl
      rw [Nat.add_comm] at h
      exact held_publish_killed hd h recover hrecord

/-- The operations left behind the first four. -/
theorem map_sub_four (stop : Option Nat) :
    (((stop.map (· - 1)).map (· - 1)).map (· - 1)).map (· - 1) = stop.map (· - 4) := by
  cases stop <;> rfl

/-- One operation in front of them, and what follows it. -/
theorem held_call_bind {α : Type} {act : Act} {f : act.Ans → AgentM α} {stop : Option Nat}
    (hact : act.keeps) (hd : Held host d)
    (hgo : ∀ a d', stop ≠ some 0 → handleDirectory host plan act d = (.ok a, d') →
      Untouched d d' →
      Held host (Prog.leave (handleDirectory host plan) (stop.map (· - 1)) (f a) d')) :
    Held host (Prog.leave (handleDirectory host plan) stop (perform act >>= f) d) := by
  have hsame : Untouched d (handleDirectory host plan act d).2 := untouched_handle hact d
  refine Prog.leave_call_bind hd (hd.same hsame) fun a d' hstop h => hgo a d' hstop h ?_
  rwa [h] at hsame

/-- A call that comes to its fifth operation. -/
theorem four_le {stop : Option Nat} (h₁ : stop ≠ some 0) (h₂ : stop.map (· - 1) ≠ some 0)
    (h₃ : (stop.map (· - 1)).map (· - 1) ≠ some 0)
    (h₄ : ((stop.map (· - 1)).map (· - 1)).map (· - 1) ≠ some 0) (n : Nat) (hn : stop = some n) :
    4 ≤ n := by
  subst hn
  simp only [Option.map_some, ne_eq, Option.some.injEq] at h₁ h₂ h₃ h₄
  omega

theorem remembered_answer {key : PyStr} {recalled : Option ApplyResult} {d' : Directory}
    (h : handleDirectory host plan (.remembered key) d = (.ok recalled, d')) :
    d.1.idempotency.get? key = recalled ∧ d = d' := by
  have h' : ((.ok (d.1.idempotency.get? key), d) : Except PyError _ × Directory) =
    (.ok recalled, d') := h
  exact ⟨Except.ok.inj (Prod.mk.inj h').1, (Prod.mk.inj h').2⟩

theorem utcNow_answer {now : PyStr} {d' : Directory}
    (h : handleDirectory host plan .utcNow d = (.ok now, d')) : now = plan.updatedAt ∧ d = d' := by
  have h' : ((.ok plan.updatedAt, d) : Except PyError PyStr × Directory) = (.ok now, d') := h
  exact ⟨(Except.ok.inj (Prod.mk.inj h').1).symm, (Prod.mk.inj h').2⟩

theorem globHistory_answer {revisions : List Nat} {d' : Directory}
    (h : handleDirectory host plan .globHistory d = (.ok revisions, d')) :
    revisions = d.1.history.keys ∧ d = d' := by
  obtain ⟨hanswer, rfl⟩ := Prod.mk.inj h
  obtain ⟨-, hrevisions, hstate⟩ := read_eq_ok.mp (Prod.ext hanswer rfl)
  exact ⟨(Option.some.inj hrevisions).symm, Prod.ext hstate.symm rfl⟩

theorem readHistory_answer {revision : Nat} {stored : Envelope} {d' : Directory}
    (h : handleDirectory host plan (.readHistory revision) d = (.ok stored, d')) :
    d.1.history.get? revision = some stored ∧ d = d' := by
  obtain ⟨hanswer, rfl⟩ := Prod.mk.inj h
  obtain ⟨-, hstored, hstate⟩ := read_eq_ok.mp (Prod.ext hanswer rfl)
  exact ⟨hstored, Prod.ext hstate.symm rfl⟩

theorem readConfig_answer {current : Envelope} {d' : Directory}
    (h : handleDirectory host plan .readConfig d = (.ok current, d')) :
    current = d.1.config ∧ d = d' := by
  obtain ⟨hanswer, rfl⟩ := Prod.mk.inj h
  obtain ⟨-, hcurrent, hstate⟩ := read_eq_ok.mp (Prod.ext hanswer rfl)
  exact ⟨(Option.some.inj hcurrent).symm, Prod.ext hstate.symm rfl⟩

theorem held_apply (hd : Held host d) (request : Json) (actor : PyStr) {stop : Option Nat}
    (hstop : Spared host plan d (applied host plan d.1 request) stop) :
    Held host (Prog.leave (handleDirectory host plan) stop (Agent.apply host request actor) d) := by
  refine Prog.leave_ofExcept_bind hd fun requested hkey => ?_
  obtain ⟨members, key⟩ := requested
  refine held_call_bind trivial hd fun recalled d₁ hone h _ => ?_
  obtain ⟨hrecalled, rfl⟩ := remembered_answer h
  cases recalled with
  | some result => exact hd.same (untouched_leave (Prog.only_pure _) _ d)
  | none =>
    refine held_call_bind trivial hd fun current d₂ htwo hread _ => ?_
    obtain ⟨rfl, rfl⟩ := readConfig_answer hread
    refine Prog.leave_ofExcept_bind hd fun _ hrevision => ?_
    refine Prog.leave_ofExcept_bind hd fun validated hvalid => ?_
    have happlied : applied host plan d.1 request = some (updatedBy plan d.1 validated.1) := by
      unfold applied
      rw [hkey]
      dsimp only
      rw [hrecalled, hrevision, hvalid]
    rw [happlied] at hstop
    refine held_call_bind trivial hd fun _ d₃ hthree _ hsame => ?_
    refine held_call_bind trivial (hd.same hsame) fun now d₄ hfour hnow _ => ?_
    obtain ⟨rfl, rfl⟩ := utcNow_answer hnow
    have hupdated : updatedBy plan d.1 validated.1 = updatedBy plan d₃.1 validated.1 := by
      unfold updatedBy
      rw [hsame.config]
    rw [hupdated] at hstop
    rw [map_sub_four, ← hsame.config]
    refine held_publish_left (hd.same hsame) (four_le hone htwo hthree hfour) (hstop.same hsame)
      (fun e => ⟨_, ?_, rfl⟩) fun _ => recordApply_keeps _ _ _ _
    refine Prog.Only.bind (Prog.Only.tryCatch ?_ fun _ => Prog.only_call trivial)
      fun _ => Prog.only_throw _
    exact (restart_keeps _ _ _).bind fun _ => Prog.only_pure _

theorem held_rollback (hd : Held host d) (actor : PyStr) {stop : Option Nat}
    (hstop : Spared host plan d (rolledBack plan d.1) stop) :
    Held host (Prog.leave (handleDirectory host plan) stop (Agent.rollback host actor) d) := by
  refine held_call_bind trivial hd fun revisions d₁ hone h _ => ?_
  obtain ⟨rfl, rfl⟩ := globHistory_answer h
  cases hnewest : newest d.1.history.keys with
  | none => exact hd.same (untouched_leave (Prog.only_throw _) _ d)
  | some revision =>
    refine held_call_bind trivial hd fun stored d₂ htwo h _ => ?_
    obtain ⟨hstored, rfl⟩ := readHistory_answer h
    have hrolled : rolledBack plan d.1 = some (updatedBy plan d.1 stored.config) := by
      unfold rolledBack
      rw [hnewest, Option.bind_some, hstored, Option.map_some]
    rw [hrolled] at hstop
    refine held_call_bind trivial hd fun current d₃ hthree h _ => ?_
    obtain ⟨rfl, rfl⟩ := readConfig_answer h
    refine held_call_bind trivial hd fun now d₄ hfour h _ => ?_
    obtain ⟨rfl, rfl⟩ := utcNow_answer h
    rw [map_sub_four]
    refine held_publish_left hd (four_le hone htwo hthree hfour) hstop
      (fun e => ⟨_, (restart_keeps _ _ _).bind fun _ => Prog.only_throw _, rfl⟩) fun _ => ?_
    exact (Prog.only_call trivial).bind fun _ => (Prog.only_call trivial).bind fun _ =>
      Prog.only_pure _

/-! ## 4. Events -/

/-- The event is left where it does no harm: a first start does not come to a `config.json`, or
comes to the manifest; a call is spared; and an edit spares the manifest and still shows a
`config.json` that is ahead of the files. -/
def DiskEvent.Safe (host : Host) (d : Option Directory) : DiskEvent → Prop
  | .start plan stop =>
    let envelope := firstEnvelope plan.updatedAt
    d = none → stop = some 0 ∨
      takesEffect (plan.outcome (.writeConfig .forward envelope)) envelope.encodable = false ∨
      Unhindered host plan envelope ∧ ∀ n, stop = some n → 13 ≤ n
  | .apply request _ plan stop =>
    ∀ d', d = some d' → Spared host plan d' (applied host plan d'.1 request) stop
  | .rollback _ plan stop => ∀ d', d = some d' → Spared host plan d' (rolledBack plan d'.1) stop
  | .edit file content =>
    file ≠ .manifest ∧ ∀ d', d = some d' → ∀ new, rendering host d'.1.config.config = some new →
      Shows host d'.2 new (Function.update d'.1.generated file content)

theorem untouched_restarted (stop : Option Nat) (d : Directory) :
    Untouched d (restarted stop d) := by
  cases stop with
  | none => exact .refl d
  | some n => exact ⟨rfl, rfl, rfl⟩

theorem held_firstStart {stop : Option Nat}
    (hsafe : (DiskEvent.start plan stop).Safe host none)
    (hstart : firstStart host plan stop = some d) : Held host d := by
  unfold firstStart at hstart
  dsimp only at hstart
  split at hstart
  · cases hstart
  next hcomes =>
    obtain ⟨hstop, heffect⟩ := not_or.mp hcomes
    obtain ⟨hunhindered, hlate⟩ := ((hsafe rfl).resolve_left hstop).resolve_left heffect
    obtain ⟨generated, hrendering⟩ := hunhindered.rendering
    rw [leave_install hunhindered hrendering hlate] at hstart
    obtain rfl := Option.some.inj hstart
    have hsettled : Settled host ((blank plan.updatedAt).publish (firstEnvelope plan.updatedAt)
        generated, some (firstEnvelope plan.updatedAt).config) :=
      ⟨rfl, hunhindered.encodable, generated, hrendering⟩
    exact hsettled.held

/-- **One event that is safe.** -/
theorem held_diskStep {d? : Option Directory} {e : DiskEvent} {d : Directory}
    (hd : ∀ d', d? = some d' → Held host d') (he : e.Safe host d?)
    (hstep : diskStep host d? e = some (some d)) : Held host d := by
  cases d? with
  | none =>
    cases e with
    | start plan stop => exact held_firstStart he (Option.some.inj hstep)
    | _ => cases hstep
  | some d' =>
    have hd' := hd d' rfl
    cases e with
    | start plan stop =>
      obtain rfl := Option.some.inj (Option.some.inj hstep)
      exact hd'.same ⟨rfl, rfl, rfl⟩
    | apply request actor plan stop =>
      obtain rfl := Option.some.inj (Option.some.inj hstep)
      exact (held_apply hd' request actor (he d' rfl)).same (untouched_restarted _ _)
    | rollback actor plan stop =>
      obtain rfl := Option.some.inj (Option.some.inj hstep)
      exact (held_rollback hd' actor (he d' rfl)).same (untouched_restarted _ _)
    | edit file content =>
      obtain rfl := Option.some.inj (Option.some.inj hstep)
      obtain ⟨generated, hrendering⟩ := hd'.rendering
      obtain ⟨new, hnew, rfl⟩ := hrendering.rendering_eq
      exact held_of_shows hd' hd'.encodable hrendering (he.2 d' rfl new hnew)

/-- It accounts for its files. -/
theorem accounts_of_safe {d? : Option Directory} {e : DiskEvent}
    (hd : ∀ d', d? = some d' → Held host d') (he : e.Safe host d?) : e.Accounts host d? := by
  refine ⟨?_, fun d' hstep => (held_diskStep hd he hstep).accounted⟩
  cases e with
  | edit file content =>
    cases file with
    | manifest => exact absurd rfl he.1
    | _ => trivial
  | _ => trivial

/-- So a run of safe events conforms. -/
theorem conforms_of_safe {events : List DiskEvent} : ∀ {d? : Option Directory},
    (diskMachine host).Conforms (DiskEvent.Safe host) d? events →
    (∀ d', d? = some d' → Held host d') →
      (diskMachine host).Conforms (DiskEvent.Accounts host) d? events := by
  induction events with
  | nil => exact fun _ _ => trivial
  | cons e events ih =>
    intro d? h hd
    refine ⟨accounts_of_safe hd h.1, fun d?' hstep => ih (h.2 d?' hstep) ?_⟩
    rintro d' rfl
    exact held_diskStep hd h.1 hstep

/-! ## 5. Runs -/

/-- What holds after a run that accounts for its files. -/
theorem accounted_of_conforms {events : List DiskEvent}
    (hconforms : (diskMachine host).Conforms (DiskEvent.Accounts host) none events)
    (hrun : (diskMachine host).run none events = some (some d)) :
    Recorded host d ∧ Accounted host d := by
  have hstep (d? : Option Directory) (e : DiskEvent) (d?' : Option Directory)
      (hd : ∀ d', d? = some d' → Recorded host d' ∧ Accounted host d')
      (he : e.Accounts host d?) (hstep : (diskMachine host).step d? e = some d?') :
      ∀ d', d?' = some d' → Recorded host d' ∧ Accounted host d' := by
    rintro d' rfl
    exact ⟨recorded_diskStep (fun d h => (hd d h).1) he.1 hstep, he.2 d' hstep⟩
  exact Machine.run_invariant_of_conforms hstep events (by rintro _ ⟨⟩) hconforms hrun d rfl

/-- **An empty report is right** in every run that accounts for its files. -/
theorem drift_sound {events : List DiskEvent}
    (hconforms : (diskMachine host).Conforms (DiskEvent.Accounts host) none events)
    (hrun : (diskMachine host).run none events = some (some d)) (hsha : CollisionFree host d) :
    DriftSound host d := by
  obtain ⟨hrecorded, haccounted⟩ := accounted_of_conforms hconforms hrun
  exact driftSound_of_accounted hrecorded hsha haccounted

/-- **An empty report is right** in every run of safe events. -/
theorem drift_sound_of_safe {events : List DiskEvent}
    (hsafe : (diskMachine host).Conforms (DiskEvent.Safe host) none events)
    (hrun : (diskMachine host).run none events = some (some d)) (hsha : CollisionFree host d) :
    DriftSound host d := by
  obtain ⟨hrecorded, haccounted⟩ :=
    accounted_of_conforms (conforms_of_safe hsafe (by rintro _ ⟨⟩)) hrun
  exact driftSound_of_accounted hrecorded hsha haccounted

/-- A host without Docker whose digests tell the files apart. -/
def digestHost : Host :=
  { exampleHost with
    applyDocker := false
    sha256 := fun content =>
      match content with
      | .text s => s
      | .localConf _ => py "local.conf"
      | .clientLocalConf _ => py "client-local.conf"
      | .manifest _ => py "manifest.json" }

/-- The configuration of the second revision can be rendered as well. -/
theorem second_rendering (host : Host) :
    ∃ generated, IsRendering host (withSessions 3600) generated :=
  isRendering_of_encodable host
    (show (stackEnv (withSessions 3600)).toOption.any encodable = true by decide +kernel)
    (show (renderCaddy (withSessions 3600)).toOption.any encodable = true by decide +kernel)
    (show ∀ content ∈ settledContents (withSessions 3600), content.encodable = true by
      decide +kernel)

theorem default_rendering (host : Host) :
    ∃ generated, IsRendering host defaultConfig generated := by
  have hinstalled := installed_initial host []
  obtain ⟨generated, hinitial⟩ := initial_frame host []
  rw [hinitial] at hinstalled
  exact ⟨generated, hinstalled.rendering⟩

/-- Nothing fails in a calm installation. -/
theorem unhindered_calm {e : Envelope} (hencodable : e.encodable = true)
    (hrendering : ∃ generated, IsRendering host e.config generated) :
    Unhindered host (calm []) e :=
  ⟨rfl, ⟨fun _ _ => rfl, rfl, fun _ => rfl⟩, hencodable, hrendering⟩

theorem unhindered_second : Unhindered digestHost (calm []) ⟨2, [], withSessions 3600⟩ :=
  unhindered_calm (by decide +kernel) (second_rendering _)

theorem unhindered_default (revision : Nat) :
    Unhindered digestHost (calm []) ⟨revision, [], defaultConfig⟩ :=
  unhindered_calm (show defaultConfig.texts.all encodable = true by decide +kernel)
    (default_rendering _)

/-- What the first start leaves, where the files of the default configuration are `files`. -/
def startedDirectory (files : GeneratedFile → Content) : Directory :=
  ((blank []).withGenerated fun f => some (files f), some defaultConfig)

theorem example_started {files : GeneratedFile → Content}
    (hfiles : IsRendering digestHost defaultConfig fun f => some (files f)) :
    diskStep digestHost none (.start (calm []) none) = some (some (startedDirectory files)) := by
  have hfirst : firstStart digestHost (calm []) none = some (startedDirectory files) := by
    unfold firstStart
    dsimp only
    rw [if_neg]
    · exact congrArg some (leave_install (unhindered_default 1) hfiles (by rintro _ ⟨⟩)
      (blank [], none))
    · have hencodable : (firstEnvelope (calm []).updatedAt).encodable = true :=
        (unhindered_default 1).encodable
      rw [hencodable]
      simp [takesEffect, calm]
  exact congrArg some hfirst

/-- What is there when the first `apply` is killed in its render, behind `n` operations. -/
def killedDirectory (n : Nat) (files new : GeneratedFile → Content) : Directory :=
  (⟨⟨2, [], withSessions 3600⟩, Dict.empty.set 1 (firstEnvelope []),
    renderedUpTo n new fun f => some (files f), [], Dict.empty⟩, some defaultConfig)

theorem directory_handle {act : Act} {a : act.Ans} {s t : AgentState} {last : Option Config}
    (h : handle host plan act s = (.ok a, t)) (hlast : completedRender plan act s last = last) :
    handleDirectory host plan act (s, last) = (.ok a, (t, last)) := by
  change ((handle host plan act s).1, ((handle host plan act s).2, _)) = _
  rw [h, hlast]

/-- The request for the second revision is admitted. -/
theorem example_request : ∃ members,
    requestKey (exampleRequest (withSessions 3600)) = .ok (members, py "abcdefghijklmnop") ∧
    checkRevision (get members "expectedRevision") 1 = .ok () ∧
    validateConfig digestHost.nfkc (get members "config") = .ok (withSessions 3600, []) := by
  obtain ⟨members, hkey, hrevision, hvalid⟩ := example_admitted.checked
  obtain ⟨generated, hinitial⟩ := initial_frame exampleHost []
  rw [hinitial] at hrevision
  exact ⟨members, hkey, hrevision, hvalid⟩

theorem applied_started (files : GeneratedFile → Content) :
    applied digestHost (calm []) (startedDirectory files).1 (exampleRequest (withSessions 3600)) =
      some ⟨2, [], withSessions 3600⟩ := by
  obtain ⟨members, hkey, hrevision, hvalid⟩ := example_request
  unfold applied
  rw [hkey]
  change (match (none : Option ApplyResult), checkRevision (get members "expectedRevision") 1,
    validateConfig digestHost.nfkc (get members "config") with
    | none, .ok (), .ok validated => _
    | _, _, _ => _) = _
  rw [hrevision, hvalid]
  rfl

theorem example_killed {files new : GeneratedFile → Content}
    (hnew : rendering digestHost (withSessions 3600) = some new) {n : Nat} (hn : n < 12) :
    diskStep digestHost (some (startedDirectory files))
      (.apply (exampleRequest (withSessions 3600)) [] (calm []) (some (n + 5))) =
        some (some (killedDirectory n files new)) := by
  obtain ⟨members, hkey, hrevision, hvalid⟩ := example_request
  have hhistory (s : AgentState) (last : Option Config) :
      handleDirectory digestHost (calm []) (.writeHistory (firstEnvelope [])) (s, last) =
        (.ok (), ({ s with history := s.history.set 1 (firstEnvelope []) }, last)) :=
    directory_handle (write_eq_ok.mpr ⟨rfl, (unhindered_default 1).encodable, rfl⟩) rfl
  have hkilled : Prog.killed (handleDirectory digestHost (calm [])) (n + 5)
      (Agent.apply digestHost (exampleRequest (withSessions 3600)) []) (startedDirectory files) =
        killedDirectory n files new := by
    unfold Agent.apply
    rw [Prog.killed_ofExcept_bind hkey]
    refine (Prog.killed_call_bind rfl (n + 4)).trans ?_
    unfold applyNew
    refine (Prog.killed_call_bind rfl (n + 3)).trans ?_
    refine (Prog.killed_ofExcept_bind hrevision _).trans ?_
    refine (Prog.killed_ofExcept_bind hvalid _).trans ?_
    unfold applyAdmitted
    refine (Prog.killed_call_bind (hhistory _ _) (n + 2)).trans ?_
    refine (Prog.killed_call_bind rfl (n + 1)).trans ?_
    exact killed_publish unhindered_second hnew hn _ _ _ _
  exact congrArg (fun d => some (some (restarted (some (n + 5)) d))) hkilled

/-- The environment file of the second revision is another one. -/
theorem example_stackEnv :
    (stackEnv (withSessions 3600)).toOption ≠ (stackEnv defaultConfig).toOption := by
  decide +kernel

theorem stackEnv_of_rendering {config : Config} {files : GeneratedFile → Content}
    (h : rendering host config = some files) :
    ∃ env, stackEnv config = .ok env ∧ files .stackEnv = .text env := by
  unfold rendering at h
  split at h
  next env caddyfile henv hcaddyfile =>
    obtain rfl := Option.some.inj h
    exact ⟨env, henv, rfl⟩
  next => cases h

/-- So are the two files. -/
theorem stackEnv_ne {files new : GeneratedFile → Content}
    (hfiles : rendering digestHost defaultConfig = some files)
    (hnew : rendering digestHost (withSessions 3600) = some new) :
    files .stackEnv ≠ new .stackEnv := by
  intro hsame
  obtain ⟨env, henv, htext⟩ := stackEnv_of_rendering hfiles
  obtain ⟨env', henv', htext'⟩ := stackEnv_of_rendering hnew
  obtain rfl : env = env' := Content.text.inj (htext.symm.trans (hsame.trans htext'))
  refine example_stackEnv ?_
  rw [henv, henv']

/-- What is there when the `rollback` behind it is killed behind the manifest. -/
def rolledBackDirectory (files : GeneratedFile → Content) : Directory :=
  (⟨⟨3, [], defaultConfig⟩, Dict.empty.set 1 (firstEnvelope []), fun f => some (files f), [],
    Dict.empty⟩, some defaultConfig)

theorem rolledBack_killed (n : Nat) (files new : GeneratedFile → Content) :
    rolledBack (calm []) (killedDirectory n files new).1 = some ⟨3, [], defaultConfig⟩ := rfl

theorem example_rolledBack {files : GeneratedFile → Content}
    (hfiles : IsRendering digestHost defaultConfig fun f => some (files f)) (n : Nat)
    (new : GeneratedFile → Content) :
    diskStep digestHost (some (killedDirectory n files new)) (.rollback [] (calm []) (some 17)) =
      some (some (rolledBackDirectory files)) := by
  have hkilled : Prog.killed (handleDirectory digestHost (calm [])) 17
      (Agent.rollback digestHost []) (killedDirectory n files new) = rolledBackDirectory files := by
    refine (Prog.killed_call_bind rfl 16).trans ?_
    refine (Prog.killed_call_bind rfl 15).trans ?_
    refine (Prog.killed_call_bind rfl 14).trans ?_
    refine (Prog.killed_call_bind rfl 13).trans ?_
    refine (killed_publish_behind (unhindered_default 3) hfiles 0 _ _ _ _).trans ?_
    exact Prog.killed_zero _
  exact congrArg (fun d => some (some (restarted (some 17) d))) hkilled

/-- Nothing on the disk differs, so the digests do not matter. -/
theorem collisionFree_rolledBack {files : GeneratedFile → Content}
    (hfiles : rendering digestHost defaultConfig = some files) :
    CollisionFree digestHost (rolledBackDirectory files) := by
  intro last files' hlast hfiles' f _ content hcontent _
  obtain rfl := Option.some.inj hlast
  obtain rfl := Option.some.inj (hfiles.symm.trans hfiles')
  exact (Option.some.inj hcontent).symm

/-- The first `apply` is killed behind its write of `stack.env`, and the `rollback` that takes it
back is killed behind the manifest. -/
def killedTwice : List DiskEvent :=
  [.start (calm []) none, .apply (exampleRequest (withSessions 3600)) [] (calm []) (some 6),
    .rollback [] (calm []) (some 17)]

theorem killedTwice_safe {files : GeneratedFile → Content}
    (hfiles : IsRendering digestHost defaultConfig fun f => some (files f)) :
    (diskMachine digestHost).Conforms (DiskEvent.Safe digestHost) none killedTwice ∧
      (diskMachine digestHost).run none killedTwice = some (some (rolledBackDirectory files)) := by
  obtain ⟨generated, hrendering⟩ := second_rendering digestHost
  obtain ⟨new, hnew, -⟩ := hrendering.rendering_eq
  obtain ⟨files', hrendered, heq⟩ := hfiles.rendering_eq
  obtain rfl : files = files' := funext fun f => Option.some.inj (congrFun heq f)
  have hstarted := example_started hfiles
  have hkilled : diskStep digestHost (some (startedDirectory files))
      (.apply (exampleRequest (withSessions 3600)) [] (calm []) (some 6)) =
        some (some (killedDirectory 1 files new)) := example_killed hnew (by decide)
  have hrolled := example_rolledBack hfiles 1 new
  refine ⟨⟨fun _ => ?_, fun d? hstep => ⟨?_, fun d?' hstep' => ⟨?_, fun _ _ => trivial⟩⟩⟩,
    Machine.run_cons_eq_some.mpr ⟨_, hstarted, Machine.run_cons_eq_some.mpr ⟨_, hkilled,
      Machine.run_cons_eq_some.mpr ⟨_, hrolled, rfl⟩⟩⟩⟩
  · exact .inr (.inr ⟨unhindered_default 1, by rintro _ ⟨⟩⟩)
  · obtain rfl := Option.some.inj (hstarted.symm.trans hstep)
    rintro _ ⟨⟩
    rw [applied_started]
    refine .inr ?_
    rintro _ ⟨⟩
    refine ⟨unhindered_second, fun _ new' hnew' => ?_, fun h => absurd h (by decide)⟩
    obtain rfl := Option.some.inj (hnew.symm.trans hnew')
    -- `stack.env` has been written, and it is another one
    intro config files' hconfig hfiles'
    obtain rfl := Option.some.inj hconfig
    obtain rfl := Option.some.inj (hrendered.symm.trans hfiles')
    refine .inr ⟨.stackEnv, by decide, fun hsame => ?_⟩
    exact stackEnv_ne hrendered hnew (Option.some.inj hsame).symm
  · obtain rfl := Option.some.inj (hstarted.symm.trans hstep)
    obtain rfl := Option.some.inj (hkilled.symm.trans hstep')
    rintro _ ⟨⟩
    rw [rolledBack_killed]
    refine .inr ?_
    rintro _ ⟨⟩
    exact ⟨unhindered_default 3, fun h => absurd h (by decide), fun _ s => ⟨_, rfl⟩⟩

theorem drift_sound_example : ∃ files,
    (diskMachine digestHost).run none killedTwice = some (some (rolledBackDirectory files)) ∧
      DriftSound digestHost (rolledBackDirectory files) := by
  obtain ⟨generated, hrendering⟩ := default_rendering digestHost
  obtain ⟨files, hfiles, rfl⟩ := hrendering.rendering_eq
  obtain ⟨hsafe, hrun⟩ := killedTwice_safe hrendering
  refine ⟨files, hrun, ?_⟩
  exact drift_sound (conforms_of_safe hsafe (by rintro _ ⟨⟩)) hrun (collisionFree_rolledBack hfiles)

/-- The manifest vouches for the files of the first revision while `config.json` holds the
second. -/
theorem empty_report_of_old_files : ∃ host events d,
    (diskMachine host).run none events = some (some d) ∧ ¬ DriftSound host d := by
  obtain ⟨generated, hrendering⟩ := default_rendering digestHost
  obtain ⟨files, hfiles, rfl⟩ := hrendering.rendering_eq
  obtain ⟨generated', hrendering'⟩ := second_rendering digestHost
  obtain ⟨new, hnew, -⟩ := hrendering'.rendering_eq
  refine ⟨digestHost, [.start (calm []) none,
    .apply (exampleRequest (withSessions 3600)) [] (calm []) (some 5)], killedDirectory 0 files new,
    Machine.run_cons_eq_some.mpr ⟨_, example_started hrendering,
      Machine.run_cons_eq_some.mpr ⟨_, example_killed hnew (by decide), rfl⟩⟩, fun hsound => ?_⟩
  have hold (f : GeneratedFile) : (killedDirectory 0 files new).1.generated f = some (files f) :=
    congrFun (renderedUpTo_zero new fun f => some (files f)) f
  have hrecorded : Recorded digestHost (killedDirectory 0 files new) := by
    intro config hconfig
    obtain rfl := Option.some.inj hconfig
    exact ⟨files, hfiles, hold .manifest⟩
  obtain ⟨files', hfiles', hsame⟩ := hsound (fun _ => .ok none)
    (drift_eq_nil_of_files hrecorded rfl hfiles (fun f _ => hold f) _)
  have hcontent : files .stackEnv = files' .stackEnv :=
    Option.some.inj ((hold .stackEnv).symm.trans (hsame .stackEnv (by decide)))
  exact stackEnv_ne hfiles hfiles' hcontent

end ZtPlanet.Agent
