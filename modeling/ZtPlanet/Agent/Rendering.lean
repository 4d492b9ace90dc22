/-
# What the steps of a call do to the files

`render` either leaves the files of its configuration complete or raises somewhere on the way;
where none of its operations fails, it repeats what an earlier rendering of the same configuration
wrote.  `apply_runtime` changes no file.  Together: the `try` block of `apply` and `rollback`
either publishes a configuration with its files, or raises, and then the `except` block puts back
the files that were there before.
-/
import ZtPlanet.Agent.Accepted
import ZtPlanet.Agent.Apply

namespace ZtPlanet.Agent

open ZtPlanet.Lib ZtPlanet.Python

variable {host : Host} {plan : Plan} {s t : AgentState}

/-! ## 1. Single operations -/

theorem write_eq_ok {o : Outcome} {enc : Bool} {u : AgentState} :
    write o enc s t = (.ok (), u) ↔ o = .done ∧ enc = true ∧ u = t := by
  unfold write
  cases enc with
  | false => simp
  | true => cases o <;> simp [eq_comm]

/-- A write takes effect or it does not. -/
theorem write_snd (o : Outcome) (enc : Bool) :
    (write o enc s t).2 = s ∨ (write o enc s t).2 = t := by
  unfold write
  cases enc with
  | false => exact .inl rfl
  | true =>
    cases o with
    | failsBefore => exact .inl rfl
    | _ => exact .inr rfl

theorem read_eq_ok {α : Type} {o : Outcome} {value : Option α} {a : α} :
    read o s value = (.ok a, t) ↔ o = .done ∧ value = some a ∧ t = s := by
  unfold read
  cases o <;> cases value <;> simp [eq_comm]

/-- A read leaves the state alone. -/
theorem read_snd {α : Type} (o : Outcome) (value : Option α) : (read o s value).2 = s := by
  unfold read
  cases o <;> cases value <;> rfl

/-! ## 2. `render` -/

/-- What `render` writes to each file. -/
def contents (host : Host) (config : Config) (env caddyfile : PyStr) : GeneratedFile → Content
  | .stackEnv => .text env
  | .localConf => .localConf (localSettings config)
  | .clientLocalConf => .clientLocalConf (clientSettings (localSettings config))
  | .caddyfile => .text caddyfile
  | .composeOverride => .text (renderComposeOverride config)
  | .manifest => .manifest
      [(.stackEnv, host.sha256 (.text env)),
        (.localConf, host.sha256 (.localConf (localSettings config))),
        (.clientLocalConf, host.sha256 (.clientLocalConf (clientSettings (localSettings config)))),
        (.caddyfile, host.sha256 (.text caddyfile)),
        (.composeOverride, host.sha256 (.text (renderComposeOverride config)))]

/-- The generated files are those of a configuration, all of them complete. -/
def IsRendering (host : Host) (config : Config) (generated : GeneratedFile → Option Content) :
    Prop :=
  ∃ env caddyfile, stackEnv config = .ok env ∧ renderCaddy config = .ok caddyfile ∧
    (∀ file, (contents host config env caddyfile file).encodable = true) ∧
    generated = fun file => some (contents host config env caddyfile file)

/-- The state with other generated files. -/
def AgentState.withGenerated (s : AgentState) (generated : GeneratedFile → Option Content) :
    AgentState :=
  { s with generated := generated }

/-- `render` writes nothing but the generated files. -/
def Act.generates : Act → Prop
  | .writeGenerated _ _ _ | .makeGatewayReadable _ | .sha256File _ _ => True
  | _ => False

theorem digests_only (phase : Phase) (files : List GeneratedFile) :
    Prog.Only Act.generates (digests phase files) := by
  induction files with
  | nil => exact Prog.only_pure _
  | cons file files ih =>
    exact (Prog.only_call trivial).bind fun _ => ih.bind fun _ => Prog.only_pure _

theorem render_only (phase : Phase) (config : Config) :
    Prog.Only Act.generates (render phase config) := by
  unfold render
  refine (Prog.only_ofExcept _).bind fun _ => ?_
  refine (Prog.only_call trivial).bind fun _ => ?_
  refine (Prog.only_call trivial).bind fun _ => ?_
  refine (Prog.only_call trivial).bind fun _ => ?_
  refine (Prog.only_ofExcept _).bind fun _ => ?_
  refine (Prog.only_call trivial).bind fun _ => ?_
  refine (Prog.only_call trivial).bind fun _ => ?_
  refine (Prog.only_call trivial).bind fun _ => ?_
  exact (digests_only phase _).bind fun _ => Prog.only_call trivial

/-- The answers of the digest loop, where every file is there. -/
theorem exec_digests (host : Host) {phase : Phase} (content : GeneratedFile → Content)
    {files : List GeneratedFile} (hdone : ∀ f, plan.outcome (.sha256File phase f) = .done)
    (hfiles : ∀ f ∈ files, s.generated f = some (content f)) :
    Prog.exec (handle host plan) (digests phase files) s =
      (.ok (files.map fun f => (f, host.sha256 (content f))), s) := by
  induction files with
  | nil => rfl
  | cons f files ih =>
    have hf : Prog.exec (handle host plan) (perform (.sha256File phase f)) s
        = (.ok (host.sha256 (content f)), s) := by
      rw [Prog.exec_call]
      refine read_eq_ok.mpr ⟨hdone f, ?_, rfl⟩
      rw [hfiles f (by simp)]
      rfl
    unfold digests
    rw [Prog.exec_bind_ok hf, Prog.exec_bind_ok (ih fun g hg => hfiles g (by simp [hg]))]
    rfl

/-- What the digest loop answers, if it answers. -/
theorem exec_digests_eq_ok {phase : Phase} (content : GeneratedFile → Content)
    {files : List GeneratedFile} {ds : List (GeneratedFile × PyStr)}
    (hfiles : ∀ f ∈ files, s.generated f = some (content f))
    (h : Prog.exec (handle host plan) (digests phase files) s = (.ok ds, t)) :
    ds = files.map (fun f => (f, host.sha256 (content f))) ∧ t = s := by
  induction files generalizing ds t with
  | nil =>
    cases h
    exact ⟨rfl, rfl⟩
  | cons f files ih =>
    unfold digests at h
    obtain ⟨d, u, hd, htail⟩ := Prog.exec_bind_eq_ok.mp h
    rw [Prog.exec_call] at hd
    obtain ⟨-, hvalue, rfl⟩ := read_eq_ok.mp hd
    obtain ⟨rest, v, hrest, hend⟩ := Prog.exec_bind_eq_ok.mp htail
    obtain ⟨rfl, rfl⟩ := ih (fun g hg => hfiles g (by simp [hg])) hrest
    rw [hfiles f (by simp)] at hvalue
    cases hvalue
    cases hend
    exact ⟨rfl, rfl⟩

/-- A generated file is written where nothing prevents it. -/
theorem exec_writeGenerated_eq_ok {phase : Phase} {file : GeneratedFile} {content : Content} :
    Prog.exec (handle host plan) (perform (.writeGenerated phase file content)) s = (.ok (), t) ↔
      plan.outcome (.writeGenerated phase file content) = .done ∧ content.encodable = true ∧
      t = s.withGenerated (Function.update s.generated file (some content)) := by
  rw [Prog.exec_call]
  exact write_eq_ok

/-- **Where `render` returns, the generated files are those of its configuration.** -/
theorem exec_render_eq_ok {phase : Phase} {config : Config}
    (h : Prog.exec (handle host plan) (render phase config) s = (.ok (), t)) :
    IsRendering host config t.generated ∧ t = s.withGenerated t.generated := by
  unfold render at h
  obtain ⟨env, s₁, h₁, h⟩ := Prog.exec_bind_eq_ok.mp h
  obtain ⟨henv, rfl⟩ := Prod.mk.inj (Prog.exec_ofExcept _ ▸ h₁)
  obtain ⟨_, s₂, h₂, h⟩ := Prog.exec_bind_eq_ok.mp h
  obtain ⟨-, e₂, rfl⟩ := exec_writeGenerated_eq_ok.mp h₂
  obtain ⟨_, s₃, h₃, h⟩ := Prog.exec_bind_eq_ok.mp h
  obtain ⟨-, e₃, rfl⟩ := exec_writeGenerated_eq_ok.mp h₃
  obtain ⟨_, s₄, h₄, h⟩ := Prog.exec_bind_eq_ok.mp h
  obtain ⟨-, e₄, rfl⟩ := exec_writeGenerated_eq_ok.mp h₄
  obtain ⟨caddyfile, s₅, h₅, h⟩ := Prog.exec_bind_eq_ok.mp h
  obtain ⟨hcaddyfile, rfl⟩ := Prod.mk.inj (Prog.exec_ofExcept _ ▸ h₅)
  obtain ⟨_, s₆, h₆, h⟩ := Prog.exec_bind_eq_ok.mp h
  obtain ⟨-, e₆, rfl⟩ := exec_writeGenerated_eq_ok.mp h₆
  obtain ⟨_, s₇, h₇, h⟩ := Prog.exec_bind_eq_ok.mp h
  obtain ⟨-, -, rfl⟩ := write_eq_ok.mp (Prog.exec_call _ ▸ h₇)
  obtain ⟨_, s₈, h₈, h⟩ := Prog.exec_bind_eq_ok.mp h
  obtain ⟨-, e₈, rfl⟩ := exec_writeGenerated_eq_ok.mp h₈
  obtain ⟨manifest, s₉, h₉, h⟩ := Prog.exec_bind_eq_ok.mp h
  obtain ⟨rfl, rfl⟩ := exec_digests_eq_ok (contents host config env caddyfile) (by
    intro f hf
    cases f with
    | manifest => exact absurd hf (by decide)
    | _ => rfl) h₉
  obtain ⟨-, e₁₀, rfl⟩ := exec_writeGenerated_eq_ok.mp h
  refine ⟨⟨env, caddyfile, henv, hcaddyfile, ?_, ?_⟩, rfl⟩
  · intro file
    cases file <;> assumption
  · funext file
    cases file <;> rfl

/-- Nothing that `render` does fails. -/
structure Plan.Renders (plan : Plan) (phase : Phase) : Prop where
  write : ∀ file content, plan.outcome (.writeGenerated phase file content) = .done
  readable : plan.outcome (.makeGatewayReadable phase) = .done
  digest : ∀ file, plan.outcome (.sha256File phase file) = .done

theorem Plan.RecoveryWorks.renders (h : plan.RecoveryWorks) : plan.Renders .recovery :=
  ⟨fun _ _ => h _ rfl, h _ rfl, fun _ => h _ rfl⟩

/-- Where nothing fails, a configuration that was rendered before is rendered again. -/
theorem exec_render {phase : Phase} {config : Config} {generated : GeneratedFile → Option Content}
    (hplan : plan.Renders phase) (h : IsRendering host config generated) (s : AgentState) :
    Prog.exec (handle host plan) (render phase config) s = (.ok (), s.withGenerated generated) := by
  obtain ⟨env, caddyfile, henv, hcaddyfile, hencodable, rfl⟩ := h
  have hwrite (file : GeneratedFile) (u : AgentState) :
      Prog.exec (handle host plan)
        (perform (.writeGenerated phase file (contents host config env caddyfile file))) u =
      (.ok (), u.withGenerated
        (Function.update u.generated file (some (contents host config env caddyfile file)))) :=
    exec_writeGenerated_eq_ok.mpr ⟨hplan.write _ _, hencodable file, rfl⟩
  have hreadable (u : AgentState) :
      Prog.exec (handle host plan) (perform (.makeGatewayReadable phase)) u = (.ok (), u) := by
    rw [Prog.exec_call]
    exact write_eq_ok.mpr ⟨hplan.readable, rfl, rfl⟩
  unfold render
  rw [henv, hcaddyfile]
  refine (Prog.exec_bind_ok (Prog.exec_ofExcept _)).trans ?_
  refine (Prog.exec_bind_ok (hwrite .stackEnv _)).trans ?_
  refine (Prog.exec_bind_ok (hwrite .localConf _)).trans ?_
  refine (Prog.exec_bind_ok (hwrite .clientLocalConf _)).trans ?_
  refine (Prog.exec_bind_ok (Prog.exec_ofExcept _)).trans ?_
  refine (Prog.exec_bind_ok (hwrite .caddyfile _)).trans ?_
  refine (Prog.exec_bind_ok (hreadable _)).trans ?_
  refine (Prog.exec_bind_ok (hwrite .composeOverride _)).trans ?_
  refine (Prog.exec_bind_ok
    (exec_digests host (contents host config env caddyfile) hplan.digest ?_)).trans ?_
  · intro f hf
    cases f with
    | manifest => exact absurd hf (by decide)
    | _ => rfl
  · refine (hwrite .manifest _).trans (congrArg (Prod.mk _) ?_)
    refine congrArg s.withGenerated (funext fun file => ?_)
    cases file <;> rfl

/-- `render` leaves everything but the generated files alone. -/
theorem exec_render_frame (host : Host) (plan : Plan) (phase : Phase) (config : Config)
    (s : AgentState) :
    ∃ generated, (Prog.exec (handle host plan) (render phase config) s).2
      = s.withGenerated generated := by
  refine (render_only phase config).exec_preserves
    (I := fun t => ∃ generated, t = s.withGenerated generated) ?_ ⟨s.generated, rfl⟩
  rintro act u hact ⟨generated, rfl⟩
  cases act with
  | writeGenerated phase file content =>
    rcases write_snd (plan.outcome (.writeGenerated phase file content)) content.encodable
      (s := s.withGenerated generated) with h | h
    · exact ⟨generated, h⟩
    · exact ⟨_, h⟩
  | makeGatewayReadable phase =>
    rcases write_snd (plan.outcome (.makeGatewayReadable phase)) true
      (s := s.withGenerated generated) (t := s.withGenerated generated) with h | h
    · exact ⟨generated, h⟩
    · exact ⟨generated, h⟩
  | sha256File phase file => exact ⟨generated, read_snd _ _⟩
  | _ => cases hact

/-! ## 3. `apply_runtime` -/

/-- `apply_runtime` runs commands and does nothing else. -/
def Act.runs : Act → Prop
  | .run _ _ => True
  | _ => False

/-- `recreate` runs two commands. -/
theorem recreate_only {A : Act → Prop} {phase : Phase} {selected : List Service}
    (hup : A (.run phase (.up selected))) (hps : A (.run phase .ps)) :
    Prog.Only A (recreate host phase selected) := by
  unfold recreate
  refine (Prog.only_call hup).bind fun completed => ?_
  split
  · exact Prog.only_throw _
  · refine (Prog.only_call hps).bind fun health => ?_
    refine (Prog.only_ofExcept _).bind fun running => ?_
    dsimp only
    split
    · exact Prog.only_throw _
    · exact Prog.only_pure _

theorem prepareRelay_only (phase : Phase) (enabled : Bool) :
    Prog.Only Act.runs (prepareRelay phase enabled) := by
  unfold prepareRelay
  split
  · refine (Prog.only_call trivial).bind fun completed => ?_
    split
    · exact Prog.only_pure _
    · exact Prog.only_throw _
  · refine ((Prog.only_call trivial).bind fun _ => Prog.only_pure _).bind fun _ => ?_
    exact (Prog.only_call trivial).bind fun _ => Prog.only_pure _

theorem applyRuntime_only (phase : Phase) (services : List Service) (config : Config) :
    Prog.Only Act.runs (applyRuntime host phase services config) := by
  unfold applyRuntime
  split
  · exact Prog.only_pure _
  · refine (prepareRelay_only phase _).bind fun _ => ?_
    dsimp only
    split
    · exact Prog.only_pure _
    · exact recreate_only trivial trivial

/-- Restarting services changes no file. -/
theorem exec_restart_snd (host : Host) (plan : Plan) (phase : Phase) (old new : Config)
    (s : AgentState) :
    (Prog.exec (handle host plan) (restart host phase old new) s).2 = s := by
  refine (applyRuntime_only phase _ new).exec_preserves (I := fun t => t = s) ?_ rfl
  rintro act u hact rfl
  cases act with
  | run phase command => rfl
  | _ => cases hact

/-! ## 4. Publishing and restoring -/

/-- The state with another configuration and its files. -/
def AgentState.publish (s : AgentState) (e : Envelope)
    (generated : GeneratedFile → Option Content) : AgentState :=
  { s with config := e, generated := generated }

/-- A configuration that is on the disk and whose files are complete. -/
structure Installed (host : Host) (s : AgentState) : Prop where
  encodable : s.config.encodable = true
  rendering : IsRendering host s.config.config s.generated

theorem exec_writeConfig_eq_ok {phase : Phase} {e : Envelope} :
    Prog.exec (handle host plan) (perform (.writeConfig phase e)) s = (.ok (), t) ↔
      plan.outcome (.writeConfig phase e) = .done ∧ e.encodable = true ∧
      t = s.publish e s.generated := by
  rw [Prog.exec_call]
  exact write_eq_ok

/-- **Where `install` returns, the configuration is installed.** -/
theorem exec_install_eq_ok {phase : Phase} {e : Envelope}
    (h : Prog.exec (handle host plan) (install phase e) s = (.ok (), t)) :
    Installed host t ∧ t = s.publish e t.generated := by
  obtain ⟨_, u, hwrite, hrender⟩ := Prog.exec_bind_eq_ok.mp h
  obtain ⟨-, hencodable, rfl⟩ := exec_writeConfig_eq_ok.mp hwrite
  obtain ⟨hrendering, ht⟩ := exec_render_eq_ok hrender
  rw [ht]
  exact ⟨⟨hencodable, hrendering⟩, rfl⟩

/-- Whatever happens to it, `install` changes the configuration and the generated files only. -/
theorem exec_install_frame (host : Host) (plan : Plan) (phase : Phase) (e : Envelope)
    (s : AgentState) :
    ∃ e' generated, (Prog.exec (handle host plan) (install phase e) s).2
      = s.publish e' generated := by
  have hwrite := write_snd (plan.outcome (.writeConfig phase e)) e.encodable (s := s)
    (t := s.publish e s.generated)
  unfold install
  rw [Prog.exec_bind, Prog.exec_call]
  cases hw : handle host plan (.writeConfig phase e) s with
  | mk r u =>
    obtain ⟨e', rfl⟩ : ∃ e', u = s.publish e' s.generated := by
      have hu : (handle host plan (.writeConfig phase e) s).2 = u := by rw [hw]
      rcases hwrite with h | h
      · exact ⟨s.config, hu.symm.trans h⟩
      · exact ⟨e, hu.symm.trans h⟩
    cases r with
    | error error => exact ⟨e', s.generated, rfl⟩
    | ok _ =>
      obtain ⟨generated, hg⟩ := exec_render_frame host plan phase e.config
        (s.publish e' s.generated)
      exact ⟨e', generated, hg⟩

/-- A recovery puts back what was installed. -/
theorem exec_install_recovery (hplan : plan.RecoveryWorks) (hs : Installed host s) (e : Envelope)
    (generated : GeneratedFile → Option Content) :
    Prog.exec (handle host plan) (install .recovery s.config) (s.publish e generated) =
      (.ok (), s) := by
  have hwrite : Prog.exec (handle host plan) (perform (.writeConfig .recovery s.config))
      (s.publish e generated) = (.ok (), s.publish s.config generated) :=
    exec_writeConfig_eq_ok.mpr ⟨hplan _ rfl, hs.encodable, rfl⟩
  unfold install
  rw [Prog.exec_bind_ok hwrite]
  exact exec_render hplan.renders hs.rendering _

/-- The `try` block runs to its end. -/
def Publishes (host : Host) (plan : Plan) (s : AgentState) (updated : Envelope) : Prop :=
  ∃ runtime t, Prog.exec (handle host plan) (publish host s.config updated) s = (.ok runtime, t)

/-- **The `try` block and its recovery.**  Either the new configuration is installed, or what was
installed before still is. -/
theorem exec_publish (updated : Envelope)
    {recover : PyError → AgentM Runtime}
    (hrecover : ∀ error e generated, ∃ error' audit,
      Prog.exec (handle host plan) (recover error) (s.publish e generated) =
        (.error error', { s with audit := audit })) :
    (Publishes host plan s updated ∧ ∃ runtime t,
      Prog.exec (handle host plan) (tryCatch (publish host s.config updated) recover) s
        = (.ok runtime, t) ∧ Installed host t ∧ t = s.publish updated t.generated) ∨
    (¬ Publishes host plan s updated ∧ ∃ error audit,
      Prog.exec (handle host plan) (tryCatch (publish host s.config updated) recover) s
        = (.error error, { s with audit := audit })) := by
  rw [Prog.exec_tryCatch]
  cases hp : Prog.exec (handle host plan) (publish host s.config updated) s with
  | mk r t =>
    cases r with
    | ok runtime =>
      refine .inl ⟨⟨runtime, t, hp⟩, runtime, t, rfl, ?_⟩
      obtain ⟨_, u, hinstall, hrestart⟩ := Prog.exec_bind_eq_ok.mp hp
      have hu : t = u := by
        rw [← exec_restart_snd host plan .forward s.config.config
          updated.config u, hrestart]
      rw [hu]
      exact exec_install_eq_ok hinstall
    | error error =>
      refine .inr ⟨?_, ?_⟩
      · rintro ⟨runtime, t', h⟩
        rw [hp] at h
        cases h
      · obtain ⟨e, generated, hframe⟩ :=
          exec_install_frame host plan .forward updated s
        obtain rfl : t = s.publish e generated := by
          rcases Prog.exec_bind_eq.mp hp with ⟨_, u, hinstall, hrestart⟩ | ⟨e', hinstall, -⟩
          · rw [hinstall] at hframe
            rw [← hframe, ← exec_restart_snd host plan .forward
              s.config.config updated.config u, hrestart]
          · rw [hinstall] at hframe
            exact hframe
        exact hrecover error e generated

/-- The recovery of `apply` puts everything back and raises. -/
theorem exec_recoverApply (hplan : plan.RecoveryWorks) (hs : Installed host s)
    (updated : Envelope) (actor : PyStr) (error : PyError) (e : Envelope)
    (generated : GeneratedFile → Option Content) :
    ∃ error' audit,
      Prog.exec (handle host plan) (recoverApply host s.config updated actor error)
        (s.publish e generated) = (.error error', { s with audit := audit }) := by
  unfold recoverApply
  rw [Prog.exec_bind_ok (exec_install_recovery hplan hs e generated), Prog.exec_bind,
    Prog.exec_tryCatch, Prog.exec_bind]
  have hrestart := exec_restart_snd host plan .recovery updated.config
    s.config.config s
  cases hr : Prog.exec (handle host plan) (restart host .recovery updated.config s.config.config)
    s with
  | mk r t =>
    rw [hr] at hrestart
    obtain rfl : s = t := hrestart.symm
    cases r with
    | ok runtime => exact ⟨error, s.audit, rfl⟩
    | error rollbackError =>
      dsimp only
      rw [Prog.exec_call]
      have haudit := write_snd
        (plan.outcome (.audit (actor.take 128) (.rollbackFailed rollbackError)))
        (encodable (actor.take 128) && (AuditDetails.rollbackFailed rollbackError).encodable)
        (s := s) (t := { s with audit := s.audit ++
          [⟨plan.auditTime, actor.take 128, .rollbackFailed rollbackError⟩] })
      cases ha : handle host plan (.audit (actor.take 128) (.rollbackFailed rollbackError)) s with
      | mk r t =>
        have ht : (handle host plan (.audit (actor.take 128) (.rollbackFailed rollbackError)) s).2
          = t := by rw [ha]
        obtain ⟨audit, rfl⟩ : ∃ audit, t = { s with audit := audit } := by
          rcases haudit with h | h
          · exact ⟨s.audit, ht.symm.trans h⟩
          · exact ⟨_, ht.symm.trans h⟩
        cases r with
        | ok _ => exact ⟨error, audit, rfl⟩
        | error error' => exact ⟨error', audit, rfl⟩

/-- So does the recovery of `rollback`. -/
theorem exec_recoverRollback (hplan : plan.RecoveryWorks) (hs : Installed host s)
    (target : Envelope) (error : PyError) (e : Envelope)
    (generated : GeneratedFile → Option Content) :
    ∃ error' audit,
      Prog.exec (handle host plan) (recoverRollback host s.config target error)
        (s.publish e generated) = (.error error', { s with audit := audit }) := by
  unfold recoverRollback
  rw [Prog.exec_bind_ok (exec_install_recovery hplan hs e generated), Prog.exec_bind]
  have hrestart := exec_restart_snd host plan .recovery target.config
    s.config.config s
  cases hr : Prog.exec (handle host plan) (restart host .recovery target.config s.config.config)
    s with
  | mk r t =>
    rw [hr] at hrestart
    obtain rfl : s = t := hrestart.symm
    cases r with
    | ok runtime => exact ⟨error, s.audit, rfl⟩
    | error error' => exact ⟨error', s.audit, rfl⟩

end ZtPlanet.Agent
