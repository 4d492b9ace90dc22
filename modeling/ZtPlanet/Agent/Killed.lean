/-
# Installations that are killed

`install` performs thirteen operations where nothing fails: it writes `config.json` and then
renders, and the last operation of `render` writes the manifest.  So a process that is killed on the
way leaves the new `config.json` with the old manifest, and of the other generated files those are
new whose turn has come (`killed_install`).  In `apply` and `rollback` the installation is the
beginning of a `try` block, which makes no difference to that (`killed_publish`).
-/
import ZtPlanet.Agent.Drift

namespace ZtPlanet.Agent

open ZtPlanet.Lib ZtPlanet.Python

variable {host : Host} {plan : Plan} {d : Directory}

/-! ## 1. Which files are written -/

/-- The operation of `render` that writes the file. -/
def GeneratedFile.turn : GeneratedFile → Nat
  | .stackEnv => 1
  | .localConf => 2
  | .clientLocalConf => 3
  | .caddyfile => 4
  | .composeOverride => 6
  | .manifest => 12

theorem turn_injective : Function.Injective GeneratedFile.turn := by
  intro f g h
  cases f <;> cases g <;> first | rfl | cases h

/-- The generated files when `n` operations of a render of `files` have been performed. -/
def renderedUpTo (n : Nat) (files : GeneratedFile → Content)
    (generated : GeneratedFile → Option Content) : GeneratedFile → Option Content := fun f =>
  if f.turn ≤ n then some (files f) else generated f

theorem renderedUpTo_zero (files : GeneratedFile → Content)
    (generated : GeneratedFile → Option Content) : renderedUpTo 0 files generated = generated := by
  funext f
  cases f <;> rfl

/-- The file whose turn it is. -/
theorem renderedUpTo_write {n : Nat} {files : GeneratedFile → Content}
    {generated : GeneratedFile → Option Content} {file : GeneratedFile}
    (hturn : file.turn = n + 1) :
    Function.update (renderedUpTo n files generated) file (some (files file)) =
      renderedUpTo (n + 1) files generated := by
  funext f
  by_cases hf : f = file
  · rw [hf, Function.update_self, renderedUpTo, if_pos hturn.le]
  · have hne : f.turn ≠ n + 1 := by
      intro h
      exact hf (turn_injective (h.trans hturn.symm))
    rw [Function.update_of_ne hf, renderedUpTo, renderedUpTo]
    by_cases hle : f.turn ≤ n
    · rw [if_pos hle, if_pos (Nat.le_succ_of_le hle)]
    · rw [if_neg hle, if_neg (by omega)]

/-- An operation that writes no file. -/
theorem renderedUpTo_idle {n m : Nat} {files : GeneratedFile → Content}
    {generated : GeneratedFile → Option Content}
    (h : ∀ f : GeneratedFile, f.turn ≤ n ↔ f.turn ≤ m) :
    renderedUpTo n files generated = renderedUpTo m files generated :=
  funext fun f => if_congr (h f) rfl rfl

/-- Nothing that the installation of an envelope does fails. -/
structure Unhindered (host : Host) (plan : Plan) (e : Envelope) : Prop where
  write : plan.outcome (.writeConfig .forward e) = .done
  renders : plan.Renders .forward
  encodable : e.encodable = true
  rendering : ∃ generated, IsRendering host e.config generated

/-- A rendering is what `render` writes. -/
theorem IsRendering.rendering_eq {config : Config} {generated : GeneratedFile → Option Content}
    (h : IsRendering host config generated) :
    ∃ files, rendering host config = some files ∧ generated = fun f => some (files f) := by
  obtain ⟨env, caddyfile, henv, hcaddyfile, -, hgenerated⟩ := h
  refine ⟨contents host config env caddyfile, ?_, hgenerated⟩
  unfold rendering
  rw [henv, hcaddyfile]

/-! ## 2. Killed on the way -/

theorem directory_writeGenerated {phase : Phase} {file : GeneratedFile} {content : Content}
    (hfile : file ≠ .manifest)
    (hdone : plan.outcome (.writeGenerated phase file content) = .done)
    (hencodable : content.encodable = true) (d : Directory) :
    handleDirectory host plan (.writeGenerated phase file content) d =
      (.ok (), (d.1.withGenerated (Function.update d.1.generated file (some content)), d.2)) := by
  obtain ⟨s, last⟩ := d
  have hwrite : handle host plan (.writeGenerated phase file content) s = (.ok (), _) :=
    write_eq_ok.mpr ⟨hdone, hencodable, rfl⟩
  have hlast : completedRender plan (.writeGenerated phase file content) s last = last := by
    cases file with
    | manifest => exact absurd rfl hfile
    | _ => rfl
  change ((handle host plan _ s).1, ((handle host plan _ s).2, _)) = _
  rw [hwrite, hlast]
  rfl

theorem actions_digests (hplan : plan.Renders .forward) (content : GeneratedFile → Content)
    {files : List GeneratedFile} {s : AgentState}
    (hfiles : ∀ f ∈ files, s.generated f = some (content f)) :
    Prog.actions (handle host plan) (digests .forward files) s = files.length := by
  induction files with
  | nil => rfl
  | cons f files ih =>
    have hdigest : handle host plan (.sha256File .forward f) s =
        (.ok (host.sha256 (content f)), s) :=
      read_eq_ok.mpr ⟨hplan.digest f, by rw [hfiles f (by simp)]; rfl, rfl⟩
    have hothers : ∀ g ∈ files, s.generated g = some (content g) := fun g hg =>
      hfiles g (by simp [hg])
    unfold digests
    rw [Prog.actions_call_bind hdigest,
      Prog.actions_bind (exec_digests host content hplan.digest hothers), ih hothers]
    rfl

/-- Reading digests changes nothing. -/
theorem killed_digests (files : List GeneratedFile) (n : Nat) (d : Directory) :
    Prog.killed (handleDirectory host plan) n (digests .forward files) d = d := by
  have hreads : Prog.Only (fun act => ∃ f, act = Act.sha256File .forward f)
      (digests .forward files) := by
    induction files with
    | nil => exact Prog.only_pure _
    | cons f files ih =>
      exact (Prog.only_call ⟨f, rfl⟩).bind fun _ => ih.bind fun _ => Prog.only_pure _
  refine (hreads.along (fun act t hact => hact) d).leave_preserves (I := fun t => t = d) ?_ rfl
    (some n)
  rintro _ t ⟨f, rfl⟩ rfl
  exact Prod.ext (read_snd _ _) rfl

/-- **A render that is killed** in front of its last operation leaves the manifest alone. -/
theorem killed_render (hplan : plan.Renders .forward) {config : Config}
    {files : GeneratedFile → Content}
    (hrendering : IsRendering host config fun f => some (files f)) {n : Nat} (hn : n < 12)
    (d : Directory) :
    Prog.killed (handleDirectory host plan) n (render .forward config) d =
      (d.1.withGenerated (renderedUpTo n files d.1.generated), d.2) := by
  obtain ⟨env, caddyfile, henv, hcaddyfile, hencodable, hfiles⟩ := hrendering
  obtain rfl : files = contents host config env caddyfile :=
    funext fun f => Option.some.inj (congrFun hfiles f)
  let upTo (m : Nat) : Directory :=
    (d.1.withGenerated (renderedUpTo m (contents host config env caddyfile) d.1.generated), d.2)
  have hstart : d = upTo 0 :=
    congrArg (fun g => ((d.1.withGenerated g, d.2) : Directory)) (renderedUpTo_zero _ _).symm
  have hwrite (file : GeneratedFile) (hfile : file ≠ .manifest) {m : Nat}
      (hturn : file.turn = m + 1) :
      handleDirectory host plan
        (.writeGenerated .forward file (contents host config env caddyfile file)) (upTo m) =
          (.ok (), upTo (m + 1)) := by
    rw [directory_writeGenerated hfile (hplan.write _ _) (hencodable file)]
    refine congrArg (fun g => (Except.ok (), (d.1.withGenerated g, d.2))) ?_
    exact renderedUpTo_write hturn
  have hreadable :
      handleDirectory host plan (.makeGatewayReadable .forward) (upTo 4) = (.ok (), upTo 5) := by
    have hdone : handle host plan (.makeGatewayReadable .forward) (upTo 4).1 =
        (.ok (), (upTo 4).1) := write_eq_ok.mpr ⟨hplan.readable, rfl, rfl⟩
    change ((handle host plan _ (upTo 4).1).1, ((handle host plan _ (upTo 4).1).2, d.2)) = _
    rw [hdone]
    refine congrArg (fun g => (Except.ok (), (d.1.withGenerated g, d.2))) ?_
    exact renderedUpTo_idle fun f => by cases f <;> decide
  change Prog.killed (handleDirectory host plan) n (render .forward config) d = upTo n
  rw [hstart]
  unfold render
  rw [Prog.killed_ofExcept_bind henv]
  rcases n with _ | n
  · exact Prog.killed_zero _
  refine (Prog.killed_call_bind (hwrite .stackEnv (by decide) rfl) _).trans ?_
  rcases n with _ | n
  · exact Prog.killed_zero _
  refine (Prog.killed_call_bind (hwrite .localConf (by decide) rfl) _).trans ?_
  rcases n with _ | n
  · exact Prog.killed_zero _
  refine (Prog.killed_call_bind (hwrite .clientLocalConf (by decide) rfl) _).trans ?_
  rw [Prog.killed_ofExcept_bind hcaddyfile]
  rcases n with _ | n
  · exact Prog.killed_zero _
  refine (Prog.killed_call_bind (hwrite .caddyfile (by decide) rfl) _).trans ?_
  rcases n with _ | n
  · exact Prog.killed_zero _
  refine (Prog.killed_call_bind hreadable _).trans ?_
  rcases n with _ | n
  · exact Prog.killed_zero _
  refine (Prog.killed_call_bind (hwrite .composeOverride (by decide) rfl) _).trans ?_
  -- the digests are read, which changes nothing
  have hactions : Prog.actions (handleDirectory host plan) (digests .forward digestedFiles)
      (upTo 6) = 5 := by
    refine (Prog.actions_withHistory _ _ _ _ _).trans
      (actions_digests hplan (contents host config env caddyfile) fun f hf => ?_)
    cases f <;> first | rfl | exact absurd hf (by decide)
  refine (Prog.killed_within (C := fun q => q >>= fun manifest =>
    perform (.writeGenerated .forward .manifest (.manifest manifest))) (fun _ _ => rfl) ?_).trans ?_
  · rw [hactions]
    omega
  · rw [killed_digests]
    refine congrArg (fun g => (d.1.withGenerated g, d.2)) (renderedUpTo_idle fun f => ?_)
    cases f <;> simp [GeneratedFile.turn]; omega

/-! ## 3. How many operations there are -/

theorem actions_render (hplan : plan.Renders .forward) {config : Config}
    {generated : GeneratedFile → Option Content} (h : IsRendering host config generated)
    (s : AgentState) : Prog.actions (handle host plan) (render .forward config) s = 12 := by
  obtain ⟨env, caddyfile, henv, hcaddyfile, hencodable, rfl⟩ := h
  have hwrite (file : GeneratedFile) (u : AgentState) :
      handle host plan (.writeGenerated .forward file (contents host config env caddyfile file)) u =
        (.ok (), u.withGenerated
          (Function.update u.generated file (some (contents host config env caddyfile file)))) :=
    write_eq_ok.mpr ⟨hplan.write _ _, hencodable file, rfl⟩
  have hreadable (u : AgentState) :
      handle host plan (.makeGatewayReadable .forward) u = (.ok (), u) :=
    write_eq_ok.mpr ⟨hplan.readable, rfl, rfl⟩
  have hstep {β : Type} {act : Act} {a : act.Ans} {f : act.Ans → AgentM β} {u v : AgentState}
      {n : Nat} (hact : handle host plan act u = (.ok a, v))
      (hf : Prog.actions (handle host plan) (f a) v = n) :
      Prog.actions (handle host plan) (perform act >>= f) u = n + 1 := by
    rw [← hf]
    exact Prog.actions_call_bind hact
  have hrest (u : AgentState)
      (hfiles : ∀ f ∈ digestedFiles, u.generated f = some (contents host config env caddyfile f)) :
      Prog.actions (handle host plan) (digests .forward digestedFiles >>= fun manifest =>
        perform (.writeGenerated .forward .manifest (.manifest manifest))) u = 6 := by
    rw [Prog.actions_bind (exec_digests host _ hplan.digest hfiles),
      actions_digests hplan _ hfiles]
    exact congrArg (5 + ·) (Prog.actions_call _)
  unfold render
  rw [henv]
  refine hstep (hwrite .stackEnv _) (hstep (hwrite .localConf _) ?_)
  refine hstep (hwrite .clientLocalConf _) ?_
  rw [hcaddyfile]
  refine hstep (hwrite .caddyfile _) (hstep (hreadable _) (hstep (hwrite .composeOverride _) ?_))
  refine hrest _ fun f hf => ?_
  cases f <;> first | rfl | exact absurd hf (by decide)

/-! ## 4. Installations -/

theorem directory_writeConfig {e : Envelope} (h : Unhindered host plan e) (d : Directory) :
    handleDirectory host plan (.writeConfig .forward e) d =
      (.ok (), (d.1.publish e d.1.generated, d.2)) := by
  have hwrite : handle host plan (.writeConfig .forward e) d.1 =
      (.ok (), d.1.publish e d.1.generated) := write_eq_ok.mpr ⟨h.write, h.encodable, rfl⟩
  change ((handle host plan _ d.1).1, ((handle host plan _ d.1).2, d.2)) = _
  rw [hwrite]

theorem actions_install {e : Envelope} (h : Unhindered host plan e) (d : Directory) :
    Prog.actions (handleDirectory host plan) (install .forward e) d = 13 := by
  obtain ⟨generated, hrendering⟩ := h.rendering
  unfold install
  refine (Prog.actions_call_bind (directory_writeConfig h d)).trans (congrArg (· + 1) ?_)
  exact (Prog.actions_withHistory _ _ _ _ _).trans (actions_render h.renders hrendering _)

/-- **An installation that is killed** behind the write of `config.json` and in front of the write
of the manifest. -/
theorem killed_install {e : Envelope} (h : Unhindered host plan e) {files : GeneratedFile → Content}
    (hfiles : rendering host e.config = some files) {n : Nat} (hn : n < 12) (d : Directory) :
    Prog.killed (handleDirectory host plan) (n + 1) (install .forward e) d =
      (d.1.publish e (renderedUpTo n files d.1.generated), d.2) := by
  obtain ⟨generated, hrendering⟩ := h.rendering
  obtain ⟨files', hfiles', rfl⟩ := hrendering.rendering_eq
  obtain rfl := Option.some.inj (hfiles.symm.trans hfiles')
  unfold install
  refine (Prog.killed_call_bind (directory_writeConfig h d) n).trans ?_
  exact killed_render h.renders hrendering hn _

/-- A completed render is noted. -/
theorem last_of_render {phase : Phase} {config : Config} {d' : Directory}
    (h : Prog.exec (handleDirectory host plan) (render phase config) d = (.ok (), d')) :
    d'.2 = some d'.1.config.config := by
  unfold render at h
  obtain ⟨_, d₁, -, h⟩ := Prog.exec_bind_eq_ok.mp h
  obtain ⟨_, d₂, -, h⟩ := Prog.exec_bind_eq_ok.mp h
  obtain ⟨_, d₃, -, h⟩ := Prog.exec_bind_eq_ok.mp h
  obtain ⟨_, d₄, -, h⟩ := Prog.exec_bind_eq_ok.mp h
  obtain ⟨_, d₅, -, h⟩ := Prog.exec_bind_eq_ok.mp h
  obtain ⟨_, d₆, -, h⟩ := Prog.exec_bind_eq_ok.mp h
  obtain ⟨_, d₇, -, h⟩ := Prog.exec_bind_eq_ok.mp h
  obtain ⟨_, d₈, -, h⟩ := Prog.exec_bind_eq_ok.mp h
  obtain ⟨manifest, d₉, -, h⟩ := Prog.exec_bind_eq_ok.mp h
  rw [Prog.exec_call] at h
  obtain ⟨hanswer, rfl⟩ := Prod.mk.inj h
  obtain ⟨hdone, hencodable, hstate⟩ := write_eq_ok.mp (Prod.ext hanswer rfl)
  have hconfig := congrArg (fun u : AgentState => some u.config.config) hstate.symm
  exact (if_pos (by rw [hencodable, hdone]; rfl)).trans hconfig

/-- Where nothing fails, `install` gets to its end. -/
theorem directory_install {phase : Phase} {e : Envelope}
    (hwrite : plan.outcome (.writeConfig phase e) = .done) (hplan : plan.Renders phase)
    (hencodable : e.encodable = true) {generated : GeneratedFile → Option Content}
    (hrendering : IsRendering host e.config generated) (d : Directory) :
    Prog.exec (handleDirectory host plan) (install phase e) d =
      (.ok (), (d.1.publish e generated, some e.config)) := by
  have hconfig : Prog.exec (handle host plan) (perform (.writeConfig phase e)) d.1 =
      (.ok (), d.1.publish e d.1.generated) :=
    exec_writeConfig_eq_ok.mpr ⟨hwrite, hencodable, rfl⟩
  have hinstall : Prog.exec (handle host plan) (install phase e) d.1 =
      (.ok (), d.1.publish e generated) := by
    unfold install
    rw [Prog.exec_bind_ok hconfig, exec_render hplan hrendering]
    rfl
  obtain ⟨hanswer, hstate⟩ := Prog.exec_withHistory (handle host plan) (completedRender plan)
    (install phase e) d.1 d.2
  rw [hinstall] at hanswer hstate
  cases h : Prog.exec (handleDirectory host plan) (install phase e) d with
  | mk r d' =>
    obtain rfl : r = .ok () := (congrArg Prod.fst h).symm.trans hanswer
    have hagent : d'.1 = d.1.publish e generated :=
      (congrArg (fun x => x.2.1) h).symm.trans hstate
    obtain ⟨_, u, -, hrender⟩ := Prog.exec_bind_eq_ok.mp h
    have hlast := last_of_render hrender
    rw [hagent] at hlast
    exact congrArg (Prod.mk _) (Prod.ext hagent hlast)

/-- An installation that runs to its end, or is killed behind its last operation. -/
theorem leave_install {e : Envelope} (h : Unhindered host plan e)
    {generated : GeneratedFile → Option Content} (hrendering : IsRendering host e.config generated)
    {stop : Option Nat} (hlate : ∀ n, stop = some n → 13 ≤ n) (d : Directory) :
    Prog.leave (handleDirectory host plan) stop (install .forward e) d =
      (d.1.publish e generated, some e.config) := by
  have hinstall := directory_install h.write h.renders h.encodable hrendering d
  cases stop with
  | none => exact congrArg Prod.snd hinstall
  | some n =>
    refine (Prog.killed_of_le ?_).trans (congrArg Prod.snd hinstall)
    rw [actions_install h]
    exact hlate n rfl

/-! ## 5. The `try` block -/

/-- The `try` block and what follows it, killed in the installation. -/
theorem killed_publish {α : Type} {updated : Envelope} (h : Unhindered host plan updated)
    {new : GeneratedFile → Content} (hnew : rendering host updated.config = some new) {n : Nat}
    (hn : n < 12) (current : Envelope) (recover : PyError → AgentM Runtime)
    (record : Runtime → AgentM α) (d : Directory) :
    Prog.killed (handleDirectory host plan) (n + 1)
      (tryCatch (publish host current updated) recover >>= record) d =
        (d.1.publish updated (renderedUpTo n new d.1.generated), d.2) := by
  let rest (q : AgentM Unit) : AgentM α :=
    tryCatch (q >>= fun _ => restart host .forward current.config updated.config) recover >>= record
  have hle : n + 1 ≤ Prog.actions (handleDirectory host plan) (install .forward updated) d := by
    rw [actions_install h]
    omega
  exact (Prog.killed_within (C := rest) (fun _ _ => rfl) hle).trans (killed_install h hnew hn d)

/-- Killed behind the installation. -/
theorem killed_publish_behind {α : Type} {updated : Envelope} (h : Unhindered host plan updated)
    {generated : GeneratedFile → Option Content}
    (hrendering : IsRendering host updated.config generated) (n : Nat) (current : Envelope)
    (recover : PyError → AgentM Runtime) (record : Runtime → AgentM α) (d : Directory) :
    Prog.killed (handleDirectory host plan) (13 + n)
      (tryCatch (publish host current updated) recover >>= record) d =
        Prog.killed (handleDirectory host plan) n
          (tryCatch (restart host .forward current.config updated.config) recover >>= record)
          (d.1.publish updated generated, some updated.config) := by
  let rest (q : AgentM Unit) : AgentM α :=
    tryCatch (q >>= fun _ => restart host .forward current.config updated.config) recover >>= record
  have hinstall := directory_install h.write h.renders h.encodable hrendering d
  rw [← actions_install h d]
  exact Prog.killed_behind (C := rest) (fun _ _ => rfl) hinstall n

end ZtPlanet.Agent
