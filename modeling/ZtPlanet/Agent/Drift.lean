/-
# Drift

`status` compares the generated files with `manifest.json`, the digests of what the last completed
render wrote.  It reports as drift what differs from that, and that is the configuration in
`config.json` only where a render of this configuration was the last to be completed: `apply` and
`rollback` write `config.json` first, and a process that is killed behind that write leaves the
manifest, and with it the report, to an earlier configuration.

A `Directory` is the agent's directory with one history variable, the configuration of the last
completed render.  Whatever happens to the calls, killed ones included, the manifest is the one of
that render (`Recorded`), so an empty report says that the files are.  They are the files of
`config.json` unless the two configurations have different files and nothing on the disk shows it,
which is what `Accounted` excludes.
-/
import ZtPlanet.Agent.FailedApply
import ZtPlanet.Lib.Crash

namespace ZtPlanet.Agent

open ZtPlanet.Lib ZtPlanet.Python

/-! ## 1. `status` -/

def GeneratedFile.name : GeneratedFile → PyStr
  | .stackEnv => py "stack.env"
  | .localConf => py "local.conf"
  | .clientLocalConf => py "client-local.conf"
  | .caddyfile => py "Caddyfile"
  | .composeOverride => py "compose.override.yml"
  | .manifest => py "manifest.json"

/-- The file under a name. -/
def fileNamed (name : PyStr) : Option GeneratedFile :=
  [GeneratedFile.stackEnv, .localConf, .clientLocalConf, .caddyfile, .composeOverride,
    .manifest].find? fun file => file.name = name

/-- The order of the keys in the file: `atomic_write_json` sorts them. -/
def sortKeys (digests : List (GeneratedFile × PyStr)) : List (GeneratedFile × PyStr) :=
  digests.insertionSort fun a b => a.1.name ≤ b.1.name

example : (sortKeys (digestedFiles.map fun f => (f, []))).map Prod.fst =
    [.caddyfile, .clientLocalConf, .composeOverride, .localConf, .stackEnv] := by decide

/-- `json.loads(manifest_path.read_text()).items()`. -/
def manifestItems (host : Host) : Content → Except PyError (List (PyStr × Json))
  | .manifest digests => .ok ((sortKeys digests).map fun d => (d.1.name, .str d.2))
  | .localConf _ | .clientLocalConf _ => .ok [(py "settings", .obj [])]
  | .text s =>
    match host.loads s with
    | some (.obj members) => .ok members
    | some _ => .error .attributeError
    | none => .error .valueError

/-- The digest of the file at `generated_dir / name`, `none` where there is none.  A name that is
not one of a generated file leads `elsewhere`. -/
def fileDigest (host : Host) (elsewhere : PyStr → Except PyError (Option PyStr)) (s : AgentState)
    (name : PyStr) : Except PyError (Option PyStr) :=
  match fileNamed name with
  | some file => .ok ((s.generated file).map host.sha256)
  | none => elsewhere name

/-- `sha256_file(path) == expected`. -/
def isDigest (expected : Json) : Option PyStr → Bool
  | none => false
  | some digest =>
    match expected with
    | .str s => s = digest
    | _ => false

/-- The loop over the manifest. -/
def driftItems (host : Host) (elsewhere : PyStr → Except PyError (Option PyStr))
    (s : AgentState) : List (PyStr × Json) → Except PyError (List PyStr)
  | [] => .ok []
  | (name, expected) :: items => do
    let digest ← fileDigest host elsewhere s name
    let drift ← driftItems host elsewhere s items
    return if isDigest expected digest then drift else name :: drift

/-- `drift`, as `status` reports it. -/
def drift (host : Host) (elsewhere : PyStr → Except PyError (Option PyStr)) (s : AgentState) :
    Except PyError (List PyStr) :=
  match s.generated .manifest with
  | none => .ok []
  | some manifest => do
    let items ← manifestItems host manifest
    driftItems host elsewhere s items

/-! ## 2. What is on the disk and what should be -/

/-- What `render` writes for a configuration, unless it raises. -/
def rendering (host : Host) (config : Config) : Option (GeneratedFile → Content) :=
  match stackEnv config, renderCaddy config with
  | .ok env, .ok caddyfile => some (contents host config env caddyfile)
  | _, _ => none

/-- The generated files are those that `render` would write for `config.json`. -/
def RenderedFor (host : Host) (s : AgentState) : Prop :=
  ∃ files, rendering host s.config.config = some files ∧
    ∀ f ∈ digestedFiles, s.generated f = some (files f)

/-- The directory, and the configuration of the last completed render. -/
abbrev Directory : Type := AgentState × Option Config

/-- A write takes effect, even if it raises then. -/
def takesEffect (outcome : Outcome) (encodable : Bool) : Bool :=
  encodable && outcome ≠ .failsBefore

/-- A render is complete when it has written the manifest. -/
def completedRender (plan : Plan) (act : Act) (s : AgentState) (last : Option Config) :
    Option Config :=
  match act with
  | .writeGenerated phase .manifest content =>
    if takesEffect (plan.outcome (.writeGenerated phase .manifest content)) content.encodable then
      some s.config.config
    else last
  | _ => last

/-- What each operation does to the directory. -/
def handleDirectory (host : Host) (plan : Plan) : Prog.Handler Act Act.Ans PyError Directory :=
  Prog.withHistory (handle host plan) (completedRender plan)

/-- What happens to the directory: the agent is started, a call is made, or somebody replaces or
removes a generated file.  A process that is killed after `stop` operations is started again. -/
inductive DiskEvent where
  | start (plan : Plan) (stop : Option Nat)
  | apply (request : Json) (actor : PyStr) (plan : Plan) (stop : Option Nat)
  | rollback (actor : PyStr) (plan : Plan) (stop : Option Nat)
  | edit (file : GeneratedFile) (content : Option Content)

/-- The first envelope. -/
def firstEnvelope (now : PyStr) : Envelope := ⟨1, now, defaultConfig⟩

/-- The process is gone, and a new one finds a `config.json`. -/
def restarted (stop : Option Nat) (d : Directory) : Directory :=
  match stop with
  | none => d
  | some _ => ({ d.1 with idempotency := Dict.empty }, d.2)

/-- `Agent.__init__` in an empty directory; `none` where it does not come to a `config.json`. -/
def firstStart (host : Host) (plan : Plan) (stop : Option Nat) : Option Directory :=
  let envelope := firstEnvelope plan.updatedAt
  if stop = some 0 ∨
      takesEffect (plan.outcome (.writeConfig .forward envelope)) envelope.encodable = false then
    none
  else
    some (Prog.leave (handleDirectory host plan) stop (install .forward envelope)
      (blank plan.updatedAt, none))

/-- The directory behind an event; `none` is a directory without `config.json`. -/
def diskStep (host : Host) : Option Directory → DiskEvent → Option (Option Directory)
  | none, .start plan stop => some (firstStart host plan stop)
  | none, _ => none
  | some d, .start _ _ => some (some ({ d.1 with idempotency := Dict.empty }, d.2))
  | some d, .apply request actor plan stop =>
    some (some (restarted stop
      (Prog.leave (handleDirectory host plan) stop (apply host request actor) d)))
  | some d, .rollback actor plan stop =>
    some (some (restarted stop
      (Prog.leave (handleDirectory host plan) stop (rollback host actor) d)))
  | some d, .edit file content =>
    some (some (d.1.withGenerated (Function.update d.1.generated file content), d.2))

/-- The directory over time. -/
def diskMachine (host : Host) : Machine (Option Directory) DiskEvent := ⟨diskStep host⟩

/-- An empty report is right. -/
def DriftSound (host : Host) (d : Directory) : Prop :=
  ∀ elsewhere, drift host elsewhere d.1 = .ok [] → RenderedFor host d.1

variable {host : Host} {plan : Plan} {s t : AgentState} {d : Directory}

/-! ## 3. The manifest is the one of the last completed render -/

/-- The manifest is the one that `render` writes for the configuration of the last completed
render. -/
def Recorded (host : Host) (d : Directory) : Prop :=
  ∀ config, d.2 = some config → ∃ files, rendering host config = some files ∧
    d.1.generated .manifest = some (files .manifest)

/-- An operation that writes the manifest writes the one of `config.json`. -/
def WritesManifestOf (host : Host) (act : Act) (s : AgentState) : Prop :=
  ∀ phase content, act = .writeGenerated phase .manifest content →
    ∃ files, rendering host s.config.config = some files ∧ content = files .manifest

/-- The operation does not write the manifest. -/
def Act.sparesManifest : Act → Prop
  | .writeGenerated _ .manifest _ => False
  | _ => True

theorem writesManifestOf_of_spares {act : Act} (h : act.sparesManifest) (s : AgentState) :
    WritesManifestOf host act s := by
  rintro phase content rfl
  cases h

theorem spares_along {act : Act} (h : act.sparesManifest) :
    Prog.Along (handle host plan) (WritesManifestOf host) (perform act) s :=
  Prog.along_call (writesManifestOf_of_spares h s)

/-- A program that does not write the manifest. -/
theorem only_along {α : Type} {p : AgentM α} (h : Prog.Only Act.sparesManifest p) :
    Prog.Along (handle host plan) (WritesManifestOf host) p s :=
  h.along (fun _ _ hact => writesManifestOf_of_spares hact _) s

theorem digests_sparesManifest (phase : Phase) (files : List GeneratedFile) :
    Prog.Only Act.sparesManifest (digests phase files) := by
  induction files with
  | nil => exact Prog.only_pure _
  | cons file files ih =>
    exact (Prog.only_call trivial).bind fun _ => ih.bind fun _ => Prog.only_pure _

/-- `render` writes the manifest of the files that it has just written. -/
theorem render_along {phase : Phase} {config : Config} (hs : s.config.config = config) :
    Prog.Along (handle host plan) (WritesManifestOf host) (render phase config) s := by
  unfold render
  refine (Prog.along_ofExcept _).bind fun env s₁ h₁ => ?_
  obtain ⟨henv, rfl⟩ := Prod.mk.inj (Prog.exec_ofExcept _ ▸ h₁)
  refine Prog.Along.bind (spares_along trivial) fun _ s₂ h₂ => ?_
  obtain ⟨-, -, rfl⟩ := exec_writeGenerated_eq_ok.mp h₂
  refine Prog.Along.bind (spares_along trivial) fun _ s₃ h₃ => ?_
  obtain ⟨-, -, rfl⟩ := exec_writeGenerated_eq_ok.mp h₃
  refine Prog.Along.bind (spares_along trivial) fun _ s₄ h₄ => ?_
  obtain ⟨-, -, rfl⟩ := exec_writeGenerated_eq_ok.mp h₄
  refine (Prog.along_ofExcept _).bind fun caddyfile s₅ h₅ => ?_
  obtain ⟨hcaddyfile, rfl⟩ := Prod.mk.inj (Prog.exec_ofExcept _ ▸ h₅)
  refine Prog.Along.bind (spares_along trivial) fun _ s₆ h₆ => ?_
  obtain ⟨-, -, rfl⟩ := exec_writeGenerated_eq_ok.mp h₆
  refine Prog.Along.bind (spares_along trivial) fun _ s₇ h₇ => ?_
  obtain ⟨-, -, rfl⟩ := write_eq_ok.mp (Prog.exec_call _ ▸ h₇)
  refine Prog.Along.bind (spares_along trivial) fun _ s₈ h₈ => ?_
  obtain ⟨-, -, rfl⟩ := exec_writeGenerated_eq_ok.mp h₈
  refine (only_along (digests_sparesManifest phase _)).bind fun manifest s₉ h₉ => ?_
  obtain ⟨rfl, rfl⟩ := exec_digests_eq_ok (contents host config env caddyfile) (by
    intro f hf
    cases f with
    | manifest => exact absurd hf (by decide)
    | _ => rfl) h₉
  refine Prog.along_call fun phase' content h => ?_
  obtain ⟨-, -, rfl⟩ := Act.writeGenerated.inj h
  refine ⟨contents host config env caddyfile, ?_, rfl⟩
  unfold rendering
  change (match stackEnv s.config.config, renderCaddy s.config.config with
    | .ok env, .ok caddyfile => some (contents host s.config.config env caddyfile)
    | _, _ => none) = _
  rw [hs, henv, hcaddyfile]

theorem install_along (phase : Phase) (envelope : Envelope) :
    Prog.Along (handle host plan) (WritesManifestOf host) (install phase envelope) s := by
  refine Prog.Along.bind (spares_along trivial) fun _ t ht => ?_
  obtain ⟨-, -, rfl⟩ := exec_writeConfig_eq_ok.mp ht
  exact render_along rfl

theorem restart_along (phase : Phase) (old new : Config) :
    Prog.Along (handle host plan) (WritesManifestOf host) (restart host phase old new) s := by
  refine only_along ((applyRuntime_only phase _ new).mono fun act hact => ?_)
  cases act with
  | run phase command => trivial
  | _ => cases hact

theorem publish_along (current updated : Envelope) :
    Prog.Along (handle host plan) (WritesManifestOf host) (publish host current updated) s :=
  (install_along .forward updated).bind fun _ _ _ => restart_along .forward _ _

theorem recoverApply_along (current updated : Envelope) (actor : PyStr) (error : PyError) :
    Prog.Along (handle host plan) (WritesManifestOf host)
      (recoverApply host current updated actor error) s := by
  refine (install_along .recovery current).bind fun _ _ _ => ?_
  refine Prog.Along.bind (Prog.Along.tryCatch ?_ fun _ _ _ => ?_) fun _ _ _ => ?_
  · exact (restart_along .recovery _ _).bind fun _ _ _ => Prog.along_pure _
  · exact spares_along trivial
  · exact Prog.along_throw _

theorem recoverRollback_along (current target : Envelope) (error : PyError) :
    Prog.Along (handle host plan) (WritesManifestOf host)
      (recoverRollback host current target error) s := by
  refine (install_along .recovery current).bind fun _ _ _ => ?_
  exact (restart_along .recovery _ _).bind fun _ _ _ => Prog.along_throw _

theorem apply_along (request : Json) (actor : PyStr) :
    Prog.Along (handle host plan) (WritesManifestOf host) (Agent.apply host request actor) s := by
  refine (Prog.along_ofExcept _).bind fun requested _ _ => ?_
  refine Prog.Along.bind (spares_along trivial) fun recalled _ _ => ?_
  cases recalled with
  | some result => exact Prog.along_pure _
  | none =>
    refine Prog.Along.bind (spares_along trivial) fun current _ _ => ?_
    refine (Prog.along_ofExcept _).bind fun _ _ _ => ?_
    refine (Prog.along_ofExcept _).bind fun validated _ _ => ?_
    refine Prog.Along.bind (spares_along trivial) fun _ _ _ => ?_
    refine Prog.Along.bind (spares_along trivial) fun now _ _ => ?_
    refine Prog.Along.bind ((publish_along _ _).tryCatch fun error _ _ =>
      recoverApply_along _ _ actor error) fun runtime _ _ => ?_
    refine Prog.Along.bind (spares_along trivial) fun _ _ _ => ?_
    exact Prog.Along.bind (spares_along trivial) fun _ _ _ => Prog.along_pure _

theorem rollback_along (actor : PyStr) :
    Prog.Along (handle host plan) (WritesManifestOf host) (Agent.rollback host actor) s := by
  refine Prog.Along.bind (spares_along trivial) fun revisions _ _ => ?_
  cases newest revisions with
  | none => exact Prog.along_throw _
  | some revision =>
    refine Prog.Along.bind (spares_along trivial) fun stored _ _ => ?_
    refine Prog.Along.bind (spares_along trivial) fun current _ _ => ?_
    refine Prog.Along.bind (spares_along trivial) fun now _ _ => ?_
    refine Prog.Along.bind ((publish_along _ _).tryCatch fun error _ _ =>
      recoverRollback_along _ _ error) fun runtime _ _ => ?_
    refine Prog.Along.bind (spares_along trivial) fun _ _ _ => ?_
    exact Prog.Along.bind (spares_along trivial) fun _ _ _ => Prog.along_pure _

/-! ## 4. One event -/

/-- What does not write the manifest leaves it alone. -/
theorem handle_manifest {act : Act} (h : act.sparesManifest) (s : AgentState) :
    (handle host plan act s).2.generated .manifest = s.generated .manifest := by
  have hwrite (o : Outcome) (enc : Bool) {u : AgentState}
      (hu : u.generated .manifest = s.generated .manifest) :
      (write o enc s u).2.generated .manifest = s.generated .manifest := by
    rcases write_snd o enc (s := s) (t := u) with h | h
    · rw [h]
    · rw [h, hu]
  cases act with
  | writeGenerated phase file content =>
    cases file with
    | manifest => cases h
    | _ => exact hwrite _ _ rfl
  | writeConfig phase e => exact hwrite _ _ rfl
  | writeHistory e => exact hwrite _ _ rfl
  | unlinkHistory n => exact hwrite _ _ rfl
  | makeGatewayReadable phase => exact hwrite _ _ rfl
  | audit actor details => exact hwrite _ _ rfl
  | readConfig => exact congrArg (fun u : AgentState => u.generated .manifest) (read_snd _ _)
  | globHistory => exact congrArg (fun u : AgentState => u.generated .manifest) (read_snd _ _)
  | readHistory n => exact congrArg (fun u : AgentState => u.generated .manifest) (read_snd _ _)
  | sha256File phase file =>
    exact congrArg (fun u : AgentState => u.generated .manifest) (read_snd _ _)
  | _ => rfl

theorem write_of_takesEffect {o : Outcome} {enc : Bool} (h : takesEffect o enc = true) :
    (write o enc s t).2 = t := by
  unfold takesEffect at h
  unfold write
  cases enc with
  | false => cases h
  | true =>
    cases o with
    | failsBefore => cases h
    | _ => rfl

theorem write_of_not_takesEffect {o : Outcome} {enc : Bool} (h : takesEffect o enc = false) :
    (write o enc s t).2 = s := by
  unfold takesEffect at h
  unfold write
  cases enc with
  | false => rfl
  | true =>
    cases o with
    | failsBefore => rfl
    | _ => cases h

/-- One operation keeps the manifest the one of the last completed render. -/
theorem recorded_handle {act : Act} (hact : WritesManifestOf host act d.1) (hd : Recorded host d) :
    Recorded host (handleDirectory host plan act d).2 := by
  obtain ⟨s, last⟩ := d
  by_cases hspares : act.sparesManifest
  · intro config hconfig
    have hlast : completedRender plan act s last = last := by
      unfold completedRender
      split
      · cases hspares
      · rfl
    obtain ⟨files, hfiles, hmanifest⟩ := hd config (hlast.symm.trans hconfig)
    exact ⟨files, hfiles, (handle_manifest hspares s).trans hmanifest⟩
  · obtain ⟨phase, content, rfl⟩ :
        ∃ phase content, act = .writeGenerated phase .manifest content := by
      unfold Act.sparesManifest at hspares
      split at hspares
      · exact ⟨_, _, rfl⟩
      · exact absurd trivial hspares
    obtain ⟨files, hfiles, rfl⟩ := hact phase content rfl
    intro config hconfig
    let outcome := plan.outcome (.writeGenerated phase .manifest (files .manifest))
    change (if takesEffect outcome (files .manifest).encodable then some s.config.config
      else last) = some config at hconfig
    by_cases heffect : takesEffect outcome (files .manifest).encodable = true
    · rw [if_pos heffect] at hconfig
      obtain rfl := Option.some.inj hconfig
      refine ⟨files, hfiles, ?_⟩
      refine (congrArg (fun u : AgentState => u.generated .manifest)
        (write_of_takesEffect heffect)).trans ?_
      exact Function.update_self GeneratedFile.manifest _ s.generated
    · rw [if_neg heffect] at hconfig
      obtain ⟨files', hfiles', hmanifest⟩ := hd config hconfig
      refine ⟨files', hfiles', ?_⟩
      refine (congrArg (fun u : AgentState => u.generated .manifest)
        (write_of_not_takesEffect (Bool.eq_false_iff.mpr heffect))).trans hmanifest

/-- Wherever a program that writes such manifests is left. -/
theorem recorded_leave {α : Type} {p : AgentM α}
    (hp : Prog.Along (handle host plan) (WritesManifestOf host) p d.1) (hd : Recorded host d)
    (stop : Option Nat) : Recorded host (Prog.leave (handleDirectory host plan) stop p d) :=
  (Prog.along_withHistory hp).leave_preserves (fun _ _ hact ht => recorded_handle hact ht) hd stop

/-- Another configuration rendered, or a visible difference: the files of `config.json` are those
of the last completed render, or a generated file is not what that render wrote. -/
def Accounted (host : Host) (d : Directory) : Prop :=
  ∃ last files, d.2 = some last ∧ rendering host last = some files ∧
    ((∃ files', rendering host d.1.config.config = some files' ∧
      ∀ f ∈ digestedFiles, files' f = files f) ∨
    ∃ f ∈ digestedFiles, d.1.generated f ≠ some (files f))

def DiskEvent.sparesManifest : DiskEvent → Prop
  | .edit .manifest _ => False
  | _ => True

/-- Nobody touches the manifest, and the event leaves the files accounted for. -/
def DiskEvent.Accounts (host : Host) (d : Option Directory) (e : DiskEvent) : Prop :=
  e.sparesManifest ∧ ∀ d', diskStep host d e = some (some d') → Accounted host d'

theorem recorded_restarted (hd : Recorded host d) (stop : Option Nat) :
    Recorded host (restarted stop d) := by
  cases stop with
  | none => exact hd
  | some n => exact hd

/-- One event keeps the manifest the one of the last completed render. -/
theorem recorded_diskStep {d? : Option Directory} {e : DiskEvent} {d : Directory}
    (hd : ∀ d', d? = some d' → Recorded host d') (he : e.sparesManifest)
    (hstep : diskStep host d? e = some (some d)) : Recorded host d := by
  cases d? with
  | none =>
    cases e with
    | start plan stop =>
      obtain hfirst := Option.some.inj hstep
      unfold firstStart at hfirst
      dsimp only at hfirst
      split at hfirst
      · cases hfirst
      · obtain rfl := Option.some.inj hfirst
        exact recorded_leave (install_along _ _) (by rintro _ ⟨⟩) stop
    | _ => cases hstep
  | some d' =>
    have hd' := hd d' rfl
    cases e with
    | start plan stop =>
      obtain rfl := Option.some.inj (Option.some.inj hstep)
      exact hd'
    | apply request actor plan stop =>
      obtain rfl := Option.some.inj (Option.some.inj hstep)
      exact recorded_restarted (recorded_leave (apply_along request actor) hd' stop) stop
    | rollback actor plan stop =>
      obtain rfl := Option.some.inj (Option.some.inj hstep)
      exact recorded_restarted (recorded_leave (rollback_along actor) hd' stop) stop
    | edit file content =>
      obtain rfl := Option.some.inj (Option.some.inj hstep)
      intro config hconfig
      obtain ⟨files, hfiles, hmanifest⟩ := hd' config hconfig
      refine ⟨files, hfiles, Eq.trans (Function.update_of_ne ?_ _ _) hmanifest⟩
      rintro rfl
      exact he

/-! ## 5. What an empty report says -/

@[simp] theorem fileNamed_name (file : GeneratedFile) : fileNamed file.name = some file := by
  cases file <;> decide

/-- Where a digest does not match, the report is not empty. -/
theorem digest_of_driftItems {elsewhere : PyStr → Except PyError (Option PyStr)}
    {digests : List (GeneratedFile × PyStr)}
    (h : driftItems host elsewhere s (digests.map fun d => (d.1.name, .str d.2)) = .ok []) :
    ∀ d ∈ digests, (s.generated d.1).map host.sha256 = some d.2 := by
  induction digests with
  | nil => nofun
  | cons d digests ih =>
    rw [List.map_cons, driftItems, fileDigest, fileNamed_name] at h
    obtain ⟨digest, hdigest, hrest⟩ := bind_ok_iff.mp h
    obtain rfl := Except.ok.inj hdigest
    obtain ⟨rest, htail, hend⟩ := bind_ok_iff.mp hrest
    have hend := pure_eq_ok.mp hend
    have hmatch : isDigest (.str d.2) ((s.generated d.1).map host.sha256) = true := by
      by_contra hno
      rw [if_neg hno] at hend
      cases hend
    rw [if_pos hmatch] at hend
    obtain rfl := hend
    intro d' hd'
    rcases List.mem_cons.mp hd' with rfl | hd'
    · cases hdigest : (s.generated d'.1).map host.sha256 with
      | none =>
        rw [hdigest] at hmatch
        cases hmatch
      | some digest =>
        rw [hdigest] at hmatch
        exact congrArg some (of_decide_eq_true hmatch).symm
    · exact ih htail d' hd'

theorem mem_sortKeys {digests : List (GeneratedFile × PyStr)} {d : GeneratedFile × PyStr} :
    d ∈ sortKeys digests ↔ d ∈ digests := List.mem_insertionSort _

/-- The digest of every generated file is in the manifest that `render` writes. -/
theorem rendering_manifest {config : Config} {files : GeneratedFile → Content}
    (h : rendering host config = some files) :
    files .manifest = .manifest (digestedFiles.map fun f => (f, host.sha256 (files f))) := by
  unfold rendering at h
  split at h
  · obtain rfl := Option.some.inj h
    rfl
  · cases h

/-- No file on the disk has the digest of what the last completed render wrote in its place,
without being that. -/
def CollisionFree (host : Host) (d : Directory) : Prop :=
  ∀ last files, d.2 = some last → rendering host last = some files → ∀ f ∈ digestedFiles,
    ∀ content, d.1.generated f = some content → host.sha256 content = host.sha256 (files f) →
      content = files f

/-- An empty report says that the files are those of the last completed render. -/
theorem files_of_drift_eq_nil {elsewhere : PyStr → Except PyError (Option PyStr)} {last : Config}
    {files : GeneratedFile → Content} (hd : Recorded host d) (hsha : CollisionFree host d)
    (hlast : d.2 = some last) (hfiles : rendering host last = some files)
    (h : drift host elsewhere d.1 = .ok []) :
    ∀ f ∈ digestedFiles, d.1.generated f = some (files f) := by
  obtain ⟨files', hfiles', hmanifest⟩ := hd last hlast
  obtain rfl := Option.some.inj (hfiles.symm.trans hfiles')
  rw [rendering_manifest hfiles] at hmanifest
  unfold drift at h
  rw [hmanifest] at h
  have hitems : driftItems host elsewhere d.1
      ((sortKeys (digestedFiles.map fun f => (f, host.sha256 (files f)))).map
        fun d => (d.1.name, .str d.2)) = .ok [] := h
  intro f hf
  have hdigest := digest_of_driftItems hitems (f, host.sha256 (files f))
    (mem_sortKeys.mpr (List.mem_map.mpr ⟨f, hf, rfl⟩))
  obtain ⟨content, hcontent, heq⟩ := Option.map_eq_some_iff.mp hdigest
  rw [hcontent]
  exact congrArg some (hsha last files hlast hfiles f hf content hcontent heq)

/-- Files with the recorded digests are not reported. -/
theorem driftItems_eq_nil {elsewhere : PyStr → Except PyError (Option PyStr)}
    {digests : List (GeneratedFile × PyStr)}
    (h : ∀ d ∈ digests, (s.generated d.1).map host.sha256 = some d.2) :
    driftItems host elsewhere s (digests.map fun d => (d.1.name, .str d.2)) = .ok [] := by
  induction digests with
  | nil => rfl
  | cons d digests ih =>
    have htail := ih fun d' hd' => h d' (by simp [hd'])
    have hmatch : isDigest (.str d.2) (some d.2) = true := decide_eq_true rfl
    rw [List.map_cons, driftItems, fileDigest, fileNamed_name]
    refine bind_ok_iff.mpr ⟨_, rfl, bind_ok_iff.mpr ⟨[], htail, ?_⟩⟩
    rw [h d (by simp), if_pos hmatch]
    rfl

/-- The files of the last completed render are not reported. -/
theorem drift_eq_nil_of_files {last : Config} {files : GeneratedFile → Content}
    (hd : Recorded host d) (hlast : d.2 = some last) (hfiles : rendering host last = some files)
    (h : ∀ f ∈ digestedFiles, d.1.generated f = some (files f))
    (elsewhere : PyStr → Except PyError (Option PyStr)) : drift host elsewhere d.1 = .ok [] := by
  obtain ⟨files', hfiles', hmanifest⟩ := hd last hlast
  obtain rfl := Option.some.inj (hfiles.symm.trans hfiles')
  rw [rendering_manifest hfiles] at hmanifest
  unfold drift
  rw [hmanifest]
  refine driftItems_eq_nil fun digest hdigest => ?_
  obtain ⟨f, hf, rfl⟩ := List.mem_map.mp (mem_sortKeys.mp hdigest)
  rw [h f hf]
  rfl

/-- **The report of a directory that accounts for its files is right.** -/
theorem driftSound_of_accounted (hd : Recorded host d) (hsha : CollisionFree host d)
    (h : Accounted host d) : DriftSound host d := by
  obtain ⟨last, files, hlast, hfiles, hsame | ⟨f, hf, hdiffers⟩⟩ := h
  · obtain ⟨files', hfiles', hsame⟩ := hsame
    intro elsewhere hdrift
    refine ⟨files', hfiles', fun f hf => ?_⟩
    rw [hsame f hf]
    exact files_of_drift_eq_nil hd hsha hlast hfiles hdrift f hf
  · intro elsewhere hdrift
    exact absurd (files_of_drift_eq_nil hd hsha hlast hfiles hdrift f hf) hdiffers

/-- No other is, once a render has been completed. -/
theorem accounted_of_driftSound {last : Config} (hd : Recorded host d) (hlast : d.2 = some last)
    (h : DriftSound host d) : Accounted host d := by
  obtain ⟨files, hfiles, -⟩ := hd last hlast
  refine ⟨last, files, hlast, hfiles, ?_⟩
  by_cases hall : ∀ f ∈ digestedFiles, d.1.generated f = some (files f)
  · obtain ⟨files', hfiles', hsame⟩ := h (fun _ => .ok none)
      (drift_eq_nil_of_files hd hlast hfiles hall _)
    refine .inl ⟨files', hfiles', fun f hf => ?_⟩
    exact Option.some.inj ((hsame f hf).symm.trans (hall f hf))
  · simp only [not_forall] at hall
    obtain ⟨f, hf, hdiffers⟩ := hall
    exact .inr ⟨f, hf, hdiffers⟩

end ZtPlanet.Agent
