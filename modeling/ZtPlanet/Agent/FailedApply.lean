/-
# What a failed `apply` leaves behind

`apply` writes the history revision before its `try` block and no recovery removes it.  So a call
that raises later leaves a file under `history` that was not there before, and the next `rollback`
goes back to the configuration that is current anyway instead of to the one before it.

`leavesNoTrace_iff` says when nothing is left: when the write of the history revision failed
without effect, or when an earlier failed call had already left the same file.  The invariant
behind it is that between calls the current configuration is installed: it is on the disk and the
generated files are its rendering.
-/
import ZtPlanet.Agent.Rendering

namespace ZtPlanet.Agent

open ZtPlanet.Lib ZtPlanet.Python

variable {host : Host} {plan : Plan} {s t : AgentState}

/-! ## 1. Calls that are admitted -/

/-- The call has passed its checks, which read the key and the validated configuration. -/
structure Admitted (host : Host) (plan : Plan) (s : AgentState) (request : Json) (key : PyStr)
    (validated : Config × List PyStr) : Prop where
  checked : ∃ members, requestKey request = .ok (members, key) ∧
    checkRevision (get members "expectedRevision") s.config.revision = .ok () ∧
    validateConfig host.nfkc (get members "config") = .ok validated
  fresh : s.idempotency.get? key = none
  readable : plan.outcome .readConfig = .done

theorem exec_readConfig (h : plan.outcome .readConfig = .done) (s : AgentState) :
    Prog.exec (handle host plan) (perform .readConfig) s = (.ok s.config, s) := by
  rw [Prog.exec_call]
  exact read_eq_ok.mpr ⟨h, rfl, rfl⟩

theorem exec_apply_of_admitted {request : Json} {key actor : PyStr}
    {validated : Config × List PyStr} (h : Admitted host plan s request key validated) :
    Prog.exec (handle host plan) (apply host request actor) s =
      Prog.exec (handle host plan)
        (applyAdmitted host actor key s.config validated.1 validated.2) s := by
  obtain ⟨members, hkey, hrevision, hvalid⟩ := h.checked
  have hremembered :
      Prog.exec (handle host plan) (perform (.remembered key)) s = (.ok none, s) := by
    rw [Prog.exec_call]
    exact congrArg (fun r => (Except.ok r, s)) h.fresh
  unfold apply
  rw [hkey, Prog.exec_bind_ok (Prog.exec_ofExcept _)]
  dsimp only
  rw [Prog.exec_bind_ok hremembered]
  dsimp only
  unfold applyNew
  rw [Prog.exec_bind_ok (exec_readConfig h.readable s), hrevision,
    Prog.exec_bind_ok (Prog.exec_ofExcept _), hvalid, Prog.exec_bind_ok (Prog.exec_ofExcept _)]

/-- A call that is not admitted changes nothing. -/
theorem exec_apply_cases (host : Host) (plan : Plan) (s : AgentState) (request : Json)
    (actor : PyStr) :
    (Prog.exec (handle host plan) (apply host request actor) s).2 = s ∨
    ∃ key validated, Admitted host plan s request key validated := by
  by_cases hadmitted : ∃ key validated, Admitted host plan s request key validated
  · exact .inr hadmitted
  refine .inl (Prog.exec_bind_snd (P := (· = s)) ?_ ?_)
  · rintro e u h
    rw [Prog.exec_ofExcept] at h
    exact (Prod.mk.inj h).2.symm
  rintro ⟨members, key⟩ u hkey
  rw [Prog.exec_ofExcept, Prod.mk.injEq] at hkey
  obtain ⟨hkey, rfl⟩ := hkey
  refine Prog.exec_bind_snd (P := (· = s)) ?_ ?_
  · rintro e u h
    rw [Prog.exec_call] at h
    cases h
  rintro found u hfound
  rw [Prog.exec_call] at hfound
  obtain ⟨hanswer, rfl⟩ : Except.ok (s.idempotency.get? key) = Except.ok found ∧ s = u :=
    Prod.mk.inj hfound
  cases found with
  | some result => rfl
  | none =>
    refine Prog.exec_bind_snd (P := (· = s)) ?_ ?_
    · rintro e u h
      rw [Prog.exec_call] at h
      have hu := read_snd (s := s) (plan.outcome .readConfig) (some s.config)
      rwa [show read _ s _ = _ from h] at hu
    rintro current u hread
    rw [Prog.exec_call] at hread
    obtain ⟨hdone, hcurrent, rfl⟩ := read_eq_ok.mp hread
    cases hcurrent
    refine Prog.exec_bind_snd (P := (· = u)) ?_ ?_
    · rintro e v h
      rw [Prog.exec_ofExcept] at h
      exact (Prod.mk.inj h).2.symm
    rintro _ v hrevision
    rw [Prog.exec_ofExcept, Prod.mk.injEq] at hrevision
    obtain ⟨hrevision, rfl⟩ := hrevision
    refine Prog.exec_bind_snd (P := (· = u)) ?_ ?_
    · rintro e v h
      rw [Prog.exec_ofExcept] at h
      exact (Prod.mk.inj h).2.symm
    rintro validated v hvalid
    rw [Prog.exec_ofExcept, Prod.mk.injEq] at hvalid
    have hfresh : u.idempotency.get? key = none := Except.ok.inj hanswer
    exact absurd ⟨key, validated, ⟨members, hkey, hrevision, hvalid.1⟩, hfresh, hdone⟩ hadmitted

/-! ## 2. Operations that leave the configuration alone -/

/-- The operations that touch neither `config.json` nor a generated file. -/
def Act.keeps : Act → Prop
  | .writeConfig _ _ | .writeGenerated _ _ _ => False
  | _ => True

theorem handle_keeps {act : Act} (h : act.keeps) (s : AgentState) :
    (handle host plan act s).2.config = s.config ∧
      (handle host plan act s).2.generated = s.generated := by
  have hread {α : Type} (o : Outcome) (value : Option α) : (read o s value).2.config = s.config ∧
      (read o s value).2.generated = s.generated := by
    rw [read_snd]
    exact ⟨rfl, rfl⟩
  have hwrite (o : Outcome) (enc : Bool) (t : AgentState) (hc : t.config = s.config)
      (hg : t.generated = s.generated) : (write o enc s t).2.config = s.config ∧
      (write o enc s t).2.generated = s.generated := by
    rcases write_snd o enc (s := s) (t := t) with h | h
    · exact h.symm ▸ ⟨rfl, rfl⟩
    · exact h.symm ▸ ⟨hc, hg⟩
  cases act with
  | writeConfig => cases h
  | writeGenerated => cases h
  | remembered | remember | utcNow | run => exact ⟨rfl, rfl⟩
  | readConfig | globHistory | readHistory | sha256File => exact hread _ _
  | writeHistory | unlinkHistory | makeGatewayReadable | audit => exact hwrite _ _ _ rfl rfl

/-- A program of such operations leaves what is installed installed. -/
theorem exec_installed_of_keeps (plan : Plan) {α : Type} {p : AgentM α}
    (hp : Prog.Only Act.keeps p) (ht : Installed host t) :
    (Prog.exec (handle host plan) p t).2.config = t.config ∧
      Installed host (Prog.exec (handle host plan) p t).2 := by
  have hkeep : (Prog.exec (handle host plan) p t).2.config = t.config ∧
      (Prog.exec (handle host plan) p t).2.generated = t.generated := by
    refine hp.exec_preserves
      (I := fun (u : AgentState) => u.config = t.config ∧ u.generated = t.generated) ?_ ⟨rfl, rfl⟩
    rintro act u hact ⟨hc, hg⟩
    obtain ⟨hc', hg'⟩ := handle_keeps hact u
    exact ⟨hc'.trans hc, hg'.trans hg⟩
  refine ⟨hkeep.1, hkeep.1.symm ▸ ht.encodable, ?_⟩
  rw [hkeep.1, hkeep.2]
  exact ht.rendering

theorem recordApply_keeps (actor key : PyStr) (services : List Service) (result : ApplyResult) :
    Prog.Only Act.keeps (recordApply actor key services result) :=
  (Prog.only_call trivial).bind fun _ => (Prog.only_call trivial).bind fun _ => Prog.only_pure _

/-! ## 3. What an admitted call does -/

/-- The state behind the write of the history revision. -/
def AgentState.archive (s : AgentState) : AgentState :=
  { s with history := s.history.set s.config.revision s.config }

/-- What the call puts into `config.json`. -/
def updatedBy (plan : Plan) (s : AgentState) (config : Config) : Envelope :=
  ⟨s.config.revision + 1, plan.updatedAt, config⟩

/-- The call gets past its `try` block: the new configuration is in place, and only the entries in
the idempotency table and in the audit log are left to make. -/
def Commits (host : Host) (plan : Plan) (s : AgentState) (config : Config) : Prop :=
  plan.outcome (.writeHistory s.config) = .done ∧
    Publishes host plan s.archive (updatedBy plan s config)

/-- The ways in which an admitted call ends. -/
inductive Ending (host : Host) (plan : Plan) (s : AgentState) (config : Config) :
    Except PyError ApplyResult × AgentState → Prop where
  /-- the history revision could not be written -/
  | unarchived {error : PyError} (h : plan.outcome (.writeHistory s.config) = .failsBefore) :
    Ending host plan s config (.error error, s)
  /-- it was written, but its directory could not be synced -/
  | archived {error : PyError} (h : plan.outcome (.writeHistory s.config) = .failsAfter) :
    Ending host plan s config (.error error, s.archive)
  /-- the `try` block raised -/
  | restored {error : PyError} {audit : List AuditEvent}
    (h : plan.outcome (.writeHistory s.config) = .done)
    (hp : ¬ Publishes host plan s.archive (updatedBy plan s config)) :
    Ending host plan s config (.error error, { s.archive with audit := audit })
  /-- the new configuration is in place -/
  | committed {x : Except PyError ApplyResult × AgentState} (h : Commits host plan s config)
    (hconfig : x.2.config = updatedBy plan s config) (ht : Installed host x.2) :
    Ending host plan s config x

theorem ending_of_applyAdmitted (actor key : PyStr) (config : Config) (warnings : List PyStr)
    (hplan : plan.RecoveryWorks) (hs : Installed host s) :
    Ending host plan s config
      (Prog.exec (handle host plan) (applyAdmitted host actor key s.config config warnings) s) := by
  unfold applyAdmitted
  cases houtcome : plan.outcome (.writeHistory s.config) with
  | failsBefore =>
    have hwrite : Prog.exec (handle host plan) (perform (.writeHistory s.config)) s
        = (.error .osError, s) := by
      rw [Prog.exec_call]
      simp only [handle, houtcome, hs.encodable]
      rfl
    rw [Prog.exec_bind_error hwrite]
    exact .unarchived houtcome
  | failsAfter =>
    have hwrite : Prog.exec (handle host plan) (perform (.writeHistory s.config)) s
        = (.error .osError, s.archive) := by
      rw [Prog.exec_call]
      simp only [handle, houtcome, hs.encodable]
      rfl
    rw [Prog.exec_bind_error hwrite]
    exact .archived houtcome
  | done =>
    have hwrite : Prog.exec (handle host plan) (perform (.writeHistory s.config)) s
        = (.ok (), s.archive) := by
      rw [Prog.exec_call]
      exact write_eq_ok.mpr ⟨houtcome, hs.encodable, rfl⟩
    have hnow : Prog.exec (handle host plan) (perform .utcNow) s.archive
        = (.ok plan.updatedAt, s.archive) := Prog.exec_call _
    have harchive : Installed host s.archive := ⟨hs.encodable, hs.rendering⟩
    rw [Prog.exec_bind_ok hwrite, Prog.exec_bind_ok hnow]
    dsimp only
    rcases exec_publish (s := s.archive) (updatedBy plan s config)
      (exec_recoverApply hplan harchive (updatedBy plan s config) actor) with
      ⟨hp, runtime, t, htry, ht, htconfig⟩ | ⟨hp, error, audit, htry⟩
    · refine (congrArg (Ending host plan s config) (Prog.exec_bind_ok htry)).mpr ?_
      obtain ⟨hconfig, hinstalled⟩ := exec_installed_of_keeps plan
        (recordApply_keeps actor key (changedServices s.config.config config)
          ⟨updatedBy plan s config, warnings, runtime⟩) ht
      exact .committed ⟨houtcome, hp⟩ (hconfig.trans (congrArg AgentState.config htconfig))
        hinstalled
    · refine (congrArg (Ending host plan s config) (Prog.exec_bind_error htry)).mpr ?_
      exact .restored houtcome hp

/-! ## 4. Between calls the current configuration is installed -/

theorem installed_of_ending {config : Config} {x : Except PyError ApplyResult × AgentState}
    (hs : Installed host s) (hx : Ending host plan s config x) : Installed host x.2 := by
  cases hx with
  | unarchived => exact hs
  | archived => exact ⟨hs.encodable, hs.rendering⟩
  | restored => exact ⟨hs.encodable, hs.rendering⟩
  | committed _ _ ht => exact ht

theorem installed_apply (hplan : plan.RecoveryWorks) (hs : Installed host s) (request : Json)
    (actor : PyStr) :
    Installed host (Prog.exec (handle host plan) (apply host request actor) s).2 := by
  rcases exec_apply_cases host plan s request actor with h | ⟨key, validated, h⟩
  · rwa [h]
  · rw [exec_apply_of_admitted h]
    exact installed_of_ending hs
      (ending_of_applyAdmitted actor key validated.1 validated.2 hplan hs)

/-- The part of `rollback` that chooses the history file only reads. -/
theorem exec_rollback_cases (host : Host) (plan : Plan) (s : AgentState) (actor : PyStr) :
    (Prog.exec (handle host plan) (rollback host actor) s).2 = s ∨
    ∃ revision, newest s.history.keys = some revision ∧
      Prog.exec (handle host plan) (rollback host actor) s =
        Prog.exec (handle host plan) (rollbackTo host actor revision) s := by
  unfold rollback
  rw [Prog.exec_bind, Prog.exec_call]
  cases hglob : handle host plan .globHistory s with
  | mk r u =>
    cases r with
    | error e =>
      have hu := read_snd (s := s) (plan.outcome .globHistory) (some s.history.keys)
      rw [show read _ s _ = _ from hglob] at hu
      exact .inl hu
    | ok revisions =>
      obtain ⟨-, hkeys, rfl⟩ := read_eq_ok.mp hglob
      cases hkeys
      cases hnewest : newest u.history.keys with
      | none =>
        dsimp only
        rw [hnewest]
        exact .inl rfl
      | some revision =>
        dsimp only
        rw [hnewest]
        exact .inr ⟨revision, rfl, rfl⟩

theorem installed_rollbackTo (hplan : plan.RecoveryWorks) (hs : Installed host s) (actor : PyStr)
    (revision : Nat) :
    Installed host (Prog.exec (handle host plan) (rollbackTo host actor revision) s).2 := by
  have hkeep (act : Act) (hact : act.keeps) {r : Except PyError act.Ans} {t u : AgentState}
      (ht : Installed host t) (h : Prog.exec (handle host plan) (perform act) t = (r, u)) :
      Installed host u := by
    have := (exec_installed_of_keeps plan (Prog.only_call hact) ht).2
    rwa [h] at this
  unfold rollbackTo
  refine Prog.exec_bind_snd (fun e u h => hkeep (.readHistory revision) trivial hs h)
    fun stored u hstored => ?_
  rw [Prog.exec_call] at hstored
  obtain ⟨-, -, rfl⟩ := read_eq_ok.mp hstored
  refine Prog.exec_bind_snd (fun e v h => hkeep .readConfig trivial hs h)
    fun current v hcurrent => ?_
  rw [Prog.exec_call] at hcurrent
  obtain ⟨-, hconfig, rfl⟩ := read_eq_ok.mp hcurrent
  cases hconfig
  refine Prog.exec_bind_snd (fun e w h => hkeep .utcNow trivial hs h) fun now w hnow => ?_
  rw [Prog.exec_call] at hnow
  obtain ⟨-, rfl⟩ := Prod.mk.inj hnow
  dsimp only
  rcases exec_publish ⟨v.config.revision + 1, now, stored.config⟩
    (exec_recoverRollback hplan hs _) with
    ⟨-, runtime, t, htry, ht, -⟩ | ⟨-, error, audit, htry⟩
  · rw [Prog.exec_bind_ok htry]
    exact (exec_installed_of_keeps plan ((Prog.only_call trivial).bind fun _ =>
      (Prog.only_call trivial).bind fun _ => Prog.only_pure _) ht).2
  · rw [Prog.exec_bind_error htry]
    exact ⟨hs.encodable, hs.rendering⟩

theorem installed_rollback (hplan : plan.RecoveryWorks) (hs : Installed host s) (actor : PyStr) :
    Installed host (Prog.exec (handle host plan) (rollback host actor) s).2 := by
  rcases exec_rollback_cases host plan s actor with h | ⟨revision, -, h⟩
  · rwa [h]
  · rw [h]
    exact installed_rollbackTo hplan hs actor revision

/-- `initial` unfolded; as an equation of two states, the kernel would compute both. -/
theorem initial_eq (host : Host) (now : PyStr) : initial host now =
    (Prog.exec (handle host (calm now)) (render .forward defaultConfig) (blank now)).2 := by
  have h : initial = fun host now =>
    (Prog.exec (handle host (calm now)) (render .forward defaultConfig) (blank now)).2 := rfl
  rw [h]

/-- The generated files that are computed without an error. -/
def settledContents (config : Config) : List Content :=
  [.localConf (localSettings config), .clientLocalConf (clientSettings (localSettings config)),
    .text (renderComposeOverride config)]

/-- A configuration has a rendering where its files can be computed and written. -/
theorem isRendering_of_encodable (host : Host) {config : Config}
    (henv : (stackEnv config).toOption.any encodable = true)
    (hcaddy : (renderCaddy config).toOption.any encodable = true)
    (hsettled : ∀ content ∈ settledContents config, content.encodable = true) :
    ∃ generated, IsRendering host config generated := by
  obtain ⟨env, henv, hencodable⟩ := exists_ok_of_any henv
  obtain ⟨caddyfile, hcaddyfile, hcaddy⟩ := exists_ok_of_any hcaddy
  refine ⟨_, env, caddyfile, henv, hcaddyfile, fun file => ?_, rfl⟩
  cases file with
  | stackEnv => exact hencodable
  | caddyfile => exact hcaddy
  | manifest => rfl
  | localConf | clientLocalConf | composeOverride =>
    exact hsettled _ (by simp [settledContents, contents])

theorem installed_initial (host : Host) (now : PyStr) : Installed host (initial host now) := by
  obtain ⟨generated, hrendering⟩ := isRendering_of_encodable host
    (show (stackEnv defaultConfig).toOption.any encodable = true by decide +kernel)
    (show (renderCaddy defaultConfig).toOption.any encodable = true by decide +kernel)
    (show ∀ content ∈ settledContents defaultConfig, content.encodable = true by decide +kernel)
  have hcalm : (calm now).Renders .forward := ⟨fun _ _ => rfl, rfl, fun _ => rfl⟩
  have htexts : defaultConfig.texts.all encodable = true := by decide +kernel
  rw [initial_eq, exec_render hcalm hrendering]
  exact ⟨htexts, hrendering⟩

/-- The sample can be written and rendered, too. -/
theorem sample_encodable : sampleConfig.texts.all encodable = true := by decide +kernel

theorem sample_rendering (host : Host) : ∃ generated, IsRendering host sampleConfig generated :=
  isRendering_of_encodable host
    (show (stackEnv sampleConfig).toOption.any encodable = true by decide +kernel)
    (show (renderCaddy sampleConfig).toOption.any encodable = true by decide +kernel)
    (show ∀ content ∈ settledContents sampleConfig, content.encodable = true by decide +kernel)

/-- **In every reachable state the current configuration is installed.** -/
theorem installed_of_reachable (h : Reachable host s) : Installed host s := by
  obtain ⟨now, events, hconforms, hrun⟩ := h
  refine Machine.run_invariant_of_conforms ?_ events (installed_initial host now) hconforms hrun
  intro s e s' hs he hstep
  cases e with
  | apply request actor plan =>
    cases hstep
    exact installed_apply he hs request actor
  | rollback actor plan =>
    cases hstep
    exact installed_rollback he hs actor
  | restart =>
    cases hstep
    exact ⟨hs.encodable, hs.rendering⟩

/-! ## 5. A rollback sees only the files -/

/-- Two states with the same files under `history`, `config.json` and generated files. -/
def SameFiles (s t : AgentState) : Prop :=
  s.config = t.config ∧ s.generated = t.generated ∧ s.history = t.history

/-- What does not look at the idempotency table. -/
def Act.public : Act → Prop
  | .remembered _ => False
  | _ => True

theorem handle_sameFiles {act : Act} (hact : act.public) (h : SameFiles s t) :
    (handle host plan act s).1 = (handle host plan act t).1 ∧
      SameFiles (handle host plan act s).2 (handle host plan act t).2 := by
  obtain ⟨hc, hg, hh⟩ := h
  have hread {α : Type} (o : Outcome) {x y : Option α} (hxy : x = y) :
      (read o s x).1 = (read o t y).1 ∧ SameFiles (read o s x).2 (read o t y).2 := by
    rw [read_snd, read_snd, hxy]
    refine ⟨?_, hc, hg, hh⟩
    unfold read
    cases o <;> cases y <;> rfl
  have hwrite (o : Outcome) (enc : Bool) {u v : AgentState} (huv : SameFiles u v) :
      (write o enc s u).1 = (write o enc t v).1 ∧
        SameFiles (write o enc s u).2 (write o enc t v).2 := by
    unfold write
    cases enc with
    | false => exact ⟨rfl, hc, hg, hh⟩
    | true =>
      cases o with
      | failsBefore => exact ⟨rfl, hc, hg, hh⟩
      | _ => exact ⟨rfl, huv⟩
  cases act with
  | remembered => cases hact
  | remember | utcNow | run => exact ⟨rfl, hc, hg, hh⟩
  | readConfig => exact hread _ (congrArg some hc)
  | globHistory => exact hread _ (congrArg (fun d => some (Dict.keys d)) hh)
  | readHistory revision => exact hread _ (congrArg (fun d => Dict.get? d revision) hh)
  | sha256File phase file =>
    exact hread _ (congrArg (fun g => Option.map host.sha256 (g file)) hg)
  | writeConfig phase e => exact hwrite _ _ ⟨rfl, hg, hh⟩
  | writeHistory e => exact hwrite _ _ ⟨hc, hg, congrArg (fun d => Dict.set d e.revision e) hh⟩
  | unlinkHistory n => exact hwrite _ _ ⟨hc, hg, congrArg (fun d => Dict.erase d n) hh⟩
  | writeGenerated phase file content =>
    exact hwrite _ _ ⟨hc, congrArg (fun g => Function.update g file (some content)) hg, hh⟩
  | makeGatewayReadable => exact hwrite _ _ ⟨hc, hg, hh⟩
  | audit => exact hwrite _ _ ⟨hc, hg, hh⟩

theorem install_public (phase : Phase) (e : Envelope) : Prog.Only Act.public (install phase e) := by
  refine (Prog.only_call trivial).bind fun _ => (render_only phase e.config).mono ?_
  intro act hact
  cases act with
  | remembered => cases hact
  | _ => trivial

theorem restart_public (phase : Phase) (old new : Config) :
    Prog.Only Act.public (restart host phase old new) := by
  refine (applyRuntime_only phase _ new).mono ?_
  intro act hact
  cases act with
  | remembered => cases hact
  | _ => trivial

theorem rollback_public (actor : PyStr) : Prog.Only Act.public (rollback host actor) := by
  refine (Prog.only_call trivial).bind fun revisions => ?_
  split
  · exact Prog.only_throw _
  · refine (Prog.only_call trivial).bind fun stored => ?_
    refine (Prog.only_call trivial).bind fun current => ?_
    refine (Prog.only_call trivial).bind fun now => ?_
    refine Prog.Only.bind ?_ fun runtime => ?_
    · refine ((install_public _ _).bind fun _ => restart_public _ _ _).tryCatch fun e => ?_
      exact (install_public _ _).bind fun _ => (restart_public _ _ _).bind fun _ =>
        Prog.only_throw _
    · exact (Prog.only_call trivial).bind fun _ => (Prog.only_call trivial).bind fun _ =>
        Prog.only_pure _

/-! ## 6. When a failed call leaves nothing behind -/

/-- The call that led from `s` to `t` can be forgotten: every file is what it was, and a rollback
does what it would have done in `s`. -/
structure LeavesNoTrace (host : Host) (s t : AgentState) : Prop where
  config : t.config = s.config
  generated : t.generated = s.generated
  history : t.history = s.history
  rollback : ∀ actor plan,
    (Prog.exec (handle host plan) (rollback host actor) t).1 =
        (Prog.exec (handle host plan) (rollback host actor) s).1 ∧
      (Prog.exec (handle host plan) (rollback host actor) t).2.config =
        (Prog.exec (handle host plan) (rollback host actor) s).2.config

/-- The files decide. -/
theorem leavesNoTrace_of_sameFiles (h : SameFiles t s) : LeavesNoTrace host s t :=
  ⟨h.1, h.2.1, h.2.2, fun actor _ =>
    have hrel := (rollback_public actor).exec_rel (fun _ _ _ hact => handle_sameFiles hact) h
    ⟨hrel.1, hrel.2.1⟩⟩

/-- **A failed `apply` leaves no trace exactly when its history revision was not written, or had
been left by an earlier call and the new configuration did not get into place.** -/
theorem leavesNoTrace_iff (hs : Reachable host s) {request : Json} {actor key : PyStr}
    {validated : Config × List PyStr} {error : PyError} (hplan : plan.RecoveryWorks)
    (hadmitted : Admitted host plan s request key validated)
    (hraise : Prog.exec (handle host plan) (apply host request actor) s = (.error error, t)) :
    LeavesNoTrace host s t ↔
      plan.outcome (.writeHistory s.config) = .failsBefore ∨
      (s.history.get? s.config.revision = some s.config ∧ ¬ Commits host plan s validated.1) := by
  have hending := ending_of_applyAdmitted actor key validated.1 validated.2 hplan
    (installed_of_reachable hs)
  rw [exec_apply_of_admitted hadmitted] at hraise
  rw [hraise] at hending
  have harchive : s.archive.history = s.history ↔
      s.history.get? s.config.revision = some s.config := by
    constructor
    · intro h
      rw [← h]
      exact Dict.get?_set_self _ _ _
    · exact Dict.set_get?_self
  cases hending with
  | unarchived houtcome =>
    exact iff_of_true (leavesNoTrace_of_sameFiles ⟨rfl, rfl, rfl⟩) (.inl houtcome)
  | archived houtcome =>
    have hnot : ¬ Commits host plan s validated.1 := fun h => by
      rw [h.1] at houtcome
      cases houtcome
    rw [houtcome, ← harchive]
    constructor
    · exact fun h => .inr ⟨h.history, hnot⟩
    · rintro (h | ⟨h, -⟩)
      · cases h
      · exact leavesNoTrace_of_sameFiles ⟨rfl, rfl, h⟩
  | restored houtcome hp =>
    rw [houtcome, ← harchive]
    constructor
    · exact fun h => .inr ⟨h.history, fun hc => hp hc.2⟩
    · rintro (h | ⟨h, -⟩)
      · cases h
      · exact leavesNoTrace_of_sameFiles ⟨rfl, rfl, h⟩
  | committed hcommits hconfig _ =>
    refine iff_of_false (fun h => ?_) ?_
    · have hrevision := congrArg Envelope.revision (hconfig.symm.trans h.config)
      exact absurd hrevision (by simp [updatedBy])
    · rintro (h | ⟨-, h⟩)
      · rw [hcommits.1] at h
        cases h
      · exact h hcommits

/-! ## 7. A failed restart -/

theorem example_reachable : Reachable exampleHost (initial exampleHost []) :=
  ⟨[], [], trivial, rfl⟩

/-- Rendering fills the generated files and nothing else. -/
theorem initial_frame (host : Host) (now : PyStr) :
    ∃ generated, initial host now = (blank now).withGenerated generated := by
  rw [initial_eq]
  exact exec_render_frame host (calm now) .forward defaultConfig (blank now)

theorem example_admitted : Admitted exampleHost (examplePlan 1) (initial exampleHost [])
    (exampleRequest (withSessions 3600)) (py "abcdefghijklmnop") (withSessions 3600, []) := by
  obtain ⟨generated, hinitial⟩ := initial_frame exampleHost []
  rw [hinitial]
  have hrevision : (checkRevision (.int 1) 1).toOption = some () := by decide
  exact ⟨⟨_, rfl, eq_ok_of_toOption hrevision, eq_ok_of_toOption (by decide +kernel)⟩, rfl, rfl⟩

/-- The services do not start, whatever the files say. -/
theorem example_restart (s : AgentState) : ∃ error,
    Prog.exec (handle exampleHost (examplePlan 1))
      (restart exampleHost .forward defaultConfig (withSessions 3600)) s = (.error error, s) := by
  have hservices : changedServices defaultConfig (withSessions 3600) = [.gateway, .ztnet] := by
    decide +kernel
  unfold restart
  rw [hservices]
  exact ⟨_, rfl⟩

/-- The call raises and leaves a history file. -/
theorem example_raises : ∃ error t,
    Prog.exec (handle exampleHost (examplePlan 1))
      (apply exampleHost (exampleRequest (withSessions 3600)) []) (initial exampleHost []) =
        (.error error, t) ∧ t.history.contains 1 = true := by
  have hplan : (examplePlan 1).RecoveryWorks := fun _ _ => rfl
  obtain ⟨generated, hinitial⟩ := initial_frame exampleHost []
  have hending := ending_of_applyAdmitted [] (py "abcdefghijklmnop") (withSessions 3600) [] hplan
    (installed_of_reachable example_reachable)
  rw [exec_apply_of_admitted example_admitted]
  generalize Prog.exec _ _ (initial exampleHost []) = x at hending
  have harchive : (initial exampleHost []).archive.history.contains 1 = true := by
    rw [hinitial]
    rfl
  cases hending with
  | unarchived houtcome => cases houtcome
  | archived houtcome => cases houtcome
  | @restored error audit => exact ⟨error, _, rfl, harchive⟩
  | committed hcommits =>
    obtain ⟨runtime, t, hpublish⟩ := hcommits.2
    obtain ⟨_, u, -, hrestart⟩ := Prog.exec_bind_eq_ok.mp hpublish
    rw [hinitial] at hrestart
    obtain ⟨error, herror⟩ := example_restart u
    cases herror.symm.trans hrestart

theorem leavesNoTrace_iff_example : ∃ t, LeavesNoTrace exampleHost (initial exampleHost []) t ↔
    (examplePlan 1).outcome (.writeHistory (initial exampleHost []).config) = .failsBefore ∨
    ((initial exampleHost []).history.get? (initial exampleHost []).config.revision
        = some (initial exampleHost []).config ∧
      ¬ Commits exampleHost (examplePlan 1) (initial exampleHost []) (withSessions 3600)) := by
  obtain ⟨error, t, hraise, -⟩ := example_raises
  have hplan : (examplePlan 1).RecoveryWorks := fun _ _ => rfl
  have h := leavesNoTrace_iff example_reachable hplan example_admitted hraise
  exact ⟨t, h⟩

/-- After the failed call there is something to roll back to, and there was not before. -/
theorem failed_apply_leaves_revision : ∃ host plan s request actor key validated error t,
    Reachable host s ∧ plan.RecoveryWorks ∧ Admitted host plan s request key validated ∧
    Prog.exec (handle host plan) (apply host request actor) s = (.error error, t) ∧
    ¬ LeavesNoTrace host s t := by
  obtain ⟨error, t, hraise, hhistory⟩ := example_raises
  refine ⟨exampleHost, examplePlan 1, _, exampleRequest (withSessions 3600), [], _, _, error, t,
    example_reachable, fun _ _ => rfl, example_admitted, hraise, fun h => ?_⟩
  obtain ⟨generated, hinitial⟩ := initial_frame exampleHost []
  rw [h.history, hinitial] at hhistory
  cases hhistory

end ZtPlanet.Agent
