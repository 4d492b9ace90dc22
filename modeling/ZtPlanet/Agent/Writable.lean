/-
# Which configurations can be written

Two things can keep a configuration off the disk when every file operation works.  A text with a
lone surrogate has no UTF-8 encoding, in `config.json` or in a generated file; and `dotenv_escape`
refuses a value with a line feed, a carriage return or a NUL.

The renderers copy texts of the configuration between constants and numbers, so what they make is
encodable if the texts are.  `exec_install_ok_iff` puts this together: `config.json` is written and
rendered exactly if every text is encodable and every value of the environment is free of the three
characters.
-/
import ZtPlanet.Agent.Effective
import ZtPlanet.Agent.Rendering

namespace ZtPlanet.Agent

open ZtPlanet.Lib ZtPlanet.Python

/-! ## 1. Encodable texts -/

@[simp] theorem encodable_nil : encodable [] = true := rfl

@[simp] theorem encodable_append (s t : PyStr) :
    encodable (s ++ t) = (encodable s && encodable t) := List.all_append

/-- A character that is written in the source is never a surrogate. -/
theorem ofChar_not_surrogate (c : Char) :
    (!(0xd800 ≤ (ofChar c).val && (ofChar c).val ≤ 0xdfff)) = true := by
  have hval : (ofChar c).val = c.toNat := Nat.mod_eq_of_lt (by
    have := c.valid
    unfold UInt32.isValidChar Nat.isValidChar at this
    unfold Char.toNat
    omega)
  have hvalid : c.toNat < 0xd800 ∨ 0xdfff < c.toNat := by
    rcases c.valid with h | h
    · exact .inl h
    · exact .inr h.1
  rw [hval]
  rcases hvalid with h | h <;> simp <;> omega

@[simp] theorem encodable_cons_ofChar (c : Char) (s : PyStr) :
    encodable (ofChar c :: s) = encodable s := by
  unfold encodable
  rw [List.all_cons, ofChar_not_surrogate, Bool.true_and]

@[simp] theorem encodable_map_ofChar (s : List Char) : encodable (s.map ofChar) = true := by
  induction s with
  | nil => rfl
  | cons c s ih => rw [List.map_cons, encodable_cons_ofChar, ih]

@[simp] theorem encodable_py (s : String) : encodable (py s) = true := by
  rw [py_eq_map, encodable_map_ofChar]

@[simp] theorem encodable_decimal (n : Nat) : encodable (decimal n) = true :=
  encodable_map_ofChar _

theorem encodable_of_mem {s : PyStr} {c : CodePoint} (h : encodable s = true) (hc : c ∈ s) :
    encodable [c] = true := by
  unfold encodable at h ⊢
  rw [List.all_cons, List.all_eq_true.mp h c hc]
  rfl

theorem encodable_iff {s : PyStr} : encodable s = true ↔ ∀ c ∈ s, encodable [c] = true := by
  constructor
  · exact fun h c hc => encodable_of_mem h hc
  · intro h
    unfold encodable at h ⊢
    rw [List.all_eq_true]
    intro c hc
    have := h c hc
    rwa [List.all_cons, List.all_nil, Bool.and_true] at this

theorem encodable_flatMap {α : Type} {items : List α} {f : α → PyStr}
    (h : ∀ x ∈ items, encodable (f x) = true) : encodable (items.flatMap f) = true := by
  rw [encodable_iff]
  intro c hc
  obtain ⟨x, hx, hc⟩ := List.mem_flatMap.mp hc
  exact encodable_of_mem (h x hx) hc

theorem encodable_join {sep : PyStr} {parts : List PyStr} (hsep : encodable sep = true)
    (h : ∀ p ∈ parts, encodable p = true) : encodable (join sep parts) = true := by
  rw [encodable_iff]
  intro c hc
  rcases mem_join hc with hc | ⟨p, hp, hc⟩
  · exact encodable_of_mem hsep hc
  · exact encodable_of_mem (h p hp) hc

/-! ## 2. The environment file -/

/-- No character that `dotenv_escape` refuses. -/
def EnvSafe (s : PyStr) : Prop := ∀ c ∈ s, c.val ≠ 10 ∧ c.val ≠ 13 ∧ c.val ≠ 0

theorem dotenvEscape_eq_ok {value text : PyStr} : dotenvEscape value = .ok text ↔
    EnvSafe value ∧
      text = ch '\'' :: (value.flatMap fun c => if c = ch '\'' then py "'\"'\"'" else [c]) ++
        py "'" := by
  have hany : (value.any fun c => c.val == 10 || c.val == 13 || c.val == 0) = false ↔
      EnvSafe value := by
    simp only [List.any_eq_false, Bool.or_eq_true, beq_iff_eq, not_or, EnvSafe, and_assoc, ne_eq]
  unfold dotenvEscape
  rw [← hany]
  cases value.any fun c => c.val == 10 || c.val == 13 || c.val == 0 with
  | true => simp [fail]
  | false => simp [eq_comm]

theorem encodable_dotenvEscape {value text : PyStr} (h : dotenvEscape value = .ok text)
    (hvalue : encodable value = true) : encodable text = true := by
  rw [(dotenvEscape_eq_ok.mp h).2]
  have hbody : encodable
      (value.flatMap fun c => if c = ch '\'' then py "'\"'\"'" else [c]) = true := by
    refine encodable_flatMap fun c hc => ?_
    split
    · exact encodable_py _
    · exact encodable_of_mem hvalue hc
  simp [hbody]

/-- The environment file is rendered exactly if none of its values holds a refused character. -/
theorem exists_stackEnv {config : Config} :
    (∃ env, stackEnv config = .ok env) ↔ ∀ e ∈ envLines config, EnvSafe e.2 := by
  have hlines : (∃ env, stackEnv config = .ok env) ↔
      ∃ lines, ((envLines config).mapM fun e => do
        let value ← dotenvEscape e.2
        return e.1 ++ ch '=' :: value ++ [ch '\n']) = .ok lines := by
    unfold stackEnv
    constructor
    · rintro ⟨env, henv⟩
      obtain ⟨lines, hlines, -⟩ := bind_ok_iff.mp henv
      exact ⟨lines, hlines⟩
    · rintro ⟨lines, hlines⟩
      exact ⟨_, bind_ok_iff.mpr ⟨lines, hlines, rfl⟩⟩
  refine (hlines.trans returns_mapM_iff).trans ?_
  refine forall₂_congr fun e _ => ?_
  constructor
  · rintro ⟨line, hline⟩
    obtain ⟨text, htext, -⟩ := bind_ok_iff.mp hline
    exact (dotenvEscape_eq_ok.mp htext).1
  · intro hsafe
    exact ⟨_, bind_ok_iff.mpr ⟨_, dotenvEscape_eq_ok.mpr ⟨hsafe, rfl⟩, rfl⟩⟩

/-- The names of the variables are constants, and the values are constants, numbers and texts of the
configuration. -/
theorem encodable_envLines {config : Config} (h : ∀ t ∈ config.texts, encodable t = true) :
    ∀ e ∈ envLines config, encodable e.1 = true ∧ encodable e.2 = true := by
  have hcidrs : encodable (join (py ",") config.relayServer.allowedSourceCidrs) = true :=
    encodable_join (encodable_py _) fun c hc => h c (List.mem_append_right _ hc)
  have hprofiles : encodable (if config.relayServer.enabled then py "relay" else []) = true := by
    split <;> simp
  have hexposure : encodable config.controller.exposure.text = true := by
    cases config.controller.exposure <;> exact encodable_py _
  simp only [Config.texts, List.cons_append, List.forall_mem_cons, List.nil_append] at h
  obtain ⟨hurl, -, -, hzerotier, hcontroller, hrelay, -⟩ := h
  simp only [envLines, List.forall_mem_cons, encodable_py, encodable_decimal, hcidrs, hprofiles,
    hexposure, hurl, hzerotier, hcontroller, hrelay, true_and, and_true]
  exact fun e he => by cases he

theorem encodable_stackEnv {config : Config} {env : PyStr} (h : stackEnv config = .ok env)
    (htexts : ∀ t ∈ config.texts, encodable t = true) : encodable env = true := by
  obtain ⟨lines, hlines, hflatten⟩ := bind_ok_iff.mp h
  rw [← pure_eq_ok.mp hflatten, ← List.flatMap_id]
  refine encodable_flatMap fun line hline => ?_
  obtain ⟨e, he, hmade⟩ := exists_of_mapM_ok hlines line hline
  obtain ⟨text, htext, hmade⟩ := bind_ok_iff.mp hmade
  rw [id, ← pure_eq_ok.mp hmade]
  obtain ⟨hkey, hvalue⟩ := encodable_envLines htexts e he
  have htext := encodable_dotenvEscape htext hvalue
  simp [hkey, htext]

/-! ## 3. The other files -/

section

variable {config : Config}

theorem encodable_blockText {lines : List PyStr} (h : ∀ line ∈ lines, encodable line = true) :
    encodable (blockText lines) = true := by
  unfold blockText
  rw [encodable_append, encodable_join (encodable_py _) h, encodable_py, Bool.and_true]

theorem encodable_composeHost {address : PyStr} (h : encodable address = true) :
    encodable (composeHost address) = true := by
  unfold composeHost
  split
  · simp [h]
  · exact h

theorem encodable_portLine {address : PyStr} (h : encodable address = true)
    (hostPort containerPort : Nat) (protocol : String) :
    encodable (portLine address hostPort containerPort protocol) = true := by
  unfold portLine
  simp [encodable_composeHost h]

/-- A site block holds the address and the networks of its listener. -/
theorem encodable_siteLines {exposure : Exposure} {l : Listener}
    (haddress : encodable l.address = true) (hcidrs : ∀ c ∈ l.allowedCidrs, encodable c = true) :
    ∀ line ∈ siteLines exposure l, encodable line = true := by
  have hjoin : encodable (join (py " ") l.allowedCidrs) = true :=
    encodable_join (encodable_py _) hcidrs
  unfold siteLines
  simp only [List.forall_mem_append, List.forall_mem_cons, encodable_append, encodable_py,
    encodable_composeHost haddress, haddress, encodable_cons_ofChar, encodable_decimal,
    Bool.and_true]
  refine ⟨⟨⟨⟨⟨⟨⟨?_, trivial, by simp⟩, ?_⟩, ?_⟩, ?_⟩, by simp⟩, ?_⟩, by simp⟩
  · split <;> exact encodable_py _
  · cases l.tlsMode <;> simp
  · split <;> simp [hjoin]
  · split <;> simp
  · split <;> simp

theorem encodable_renderCaddy {nfkc : PyStr → PyStr} {caddyfile : PyStr}
    (hm : config.management.Valid nfkc) (h : renderCaddy config = .ok caddyfile)
    (htexts : ∀ t ∈ config.texts, encodable t = true) : encodable caddyfile = true := by
  unfold renderCaddy at h
  rw [effective_eq hm] at h
  obtain ⟨listeners, hlisteners, h⟩ := bind_ok_iff.mp h
  cases hlisteners
  rw [← pure_eq_ok.mp h]
  have hlistener : ∀ l ∈ config.management.listeners,
      encodable l.address = true ∧ ∀ c ∈ l.allowedCidrs, encodable c = true := by
    intro l hl
    have hmem : ∀ t ∈ l.address :: l.allowedCidrs, encodable t = true := fun t ht =>
      htexts t (List.mem_append_left _ (List.mem_append_right _
        (List.mem_flatMap.mpr ⟨l, hl, ht⟩)))
    exact List.forall_mem_cons.mp hmem
  have hblock {l : Listener} (haddress : encodable l.address = true)
      (hcidrs : ∀ c ∈ l.allowedCidrs, encodable c = true) :
      encodable (blockText (siteLines config.controller.exposure l)) = true :=
    encodable_blockText (encodable_siteLines haddress hcidrs)
  refine encodable_join (encodable_py _) (List.forall_mem_cons.mpr ⟨?_, ?_⟩)
  · exact encodable_blockText (by simp [globalLines])
  · intro block hb
    obtain ⟨l, hl, rfl⟩ := List.mem_map.mp hb
    rcases List.mem_append.mp hl with hl | hl
    · exact hblock (hlistener l hl).1 (hlistener l hl).2
    · obtain ⟨-, selected, first, -, hfirst, -, rfl⟩ :=
        inherited_eq_some.mp (Option.mem_toList.mp hl)
      have haddress : encodable config.management.zeroTierAddress = true :=
        htexts _ (by simp [Config.texts])
      exact hblock haddress (hlistener first (List.mem_of_mem_head? hfirst)).2

theorem encodable_renderComposeOverride (htexts : ∀ t ∈ config.texts, encodable t = true) :
    encodable (renderComposeOverride config) = true := by
  refine encodable_blockText ?_
  simp only [Config.texts, List.cons_append, List.forall_mem_cons, List.nil_append] at htexts
  obtain ⟨-, -, -, hzerotier, hcontroller, hrelay, -⟩ := htexts
  have hports : ∀ line ∈ zerotierPortLines config, encodable line = true := by
    intro line hline
    unfold zerotierPortLines at hline
    rcases List.mem_append.mp hline with hline | hline
    · split at hline
      · rcases List.mem_cons.mp hline with rfl | hline
        · exact encodable_portLine hzerotier _ _ _
        · obtain ⟨port, -, rfl⟩ := List.mem_map.mp hline
          exact encodable_portLine hzerotier _ _ _
      · cases hline
    · split at hline
      · rw [List.mem_singleton.mp hline]
        exact encodable_portLine hcontroller _ _ _
      · cases hline
  unfold composeLines
  simp only [List.forall_mem_append, List.forall_mem_cons, encodable_py,
    encodable_portLine hrelay, true_and]
  refine ⟨⟨by simp, ?_⟩, by simp⟩
  split
  · simp
  · simp only [List.forall_mem_cons, encodable_py, true_and]
    exact hports

/-- The address of the relay that a client falls back to. -/
theorem encodable_localSettings (hhost : encodable config.relayClient.host = true) :
    ((localSettings config).tcpFallbackRelay.map encodable).getD true = true := by
  unfold localSettings
  dsimp only
  split
  · simp [hhost]
  · rfl

/-- Where the texts are encodable and the environment is rendered, so are all the files. -/
theorem exists_isRendering {nfkc : PyStr → PyStr} (hm : config.management.Valid nfkc) (host : Host)
    (htexts : ∀ t ∈ config.texts, encodable t = true)
    (hsafe : ∀ e ∈ envLines config, EnvSafe e.2) :
    ∃ generated, IsRendering host config generated := by
  obtain ⟨env, henv⟩ := exists_stackEnv.mpr hsafe
  have hcaddyfile : ∃ caddyfile, renderCaddy config = .ok caddyfile :=
    ⟨_, bind_ok_iff.mpr ⟨_, effective_eq hm, rfl⟩⟩
  obtain ⟨caddyfile, hcaddyfile⟩ := hcaddyfile
  have hhost : encodable config.relayClient.host = true := htexts _ (by simp [Config.texts])
  refine ⟨_, env, caddyfile, henv, hcaddyfile, fun file => ?_, rfl⟩
  cases file with
  | stackEnv => exact encodable_stackEnv henv htexts
  | localConf => exact encodable_localSettings hhost
  | clientLocalConf => exact encodable_localSettings hhost
  | caddyfile => exact encodable_renderCaddy hm hcaddyfile htexts
  | composeOverride => exact encodable_renderComposeOverride htexts
  | manifest => rfl

end

/-! ## 4. Persisting and rendering -/

/-- No file operation of `install` fails. -/
structure Plan.Installs (plan : Plan) (phase : Phase) : Prop extends plan.Renders phase where
  config : ∀ e, plan.outcome (.writeConfig phase e) = .done

/-- **A valid configuration is written and rendered exactly if all its texts are encodable and the
values of its environment hold no refused character.** -/
theorem exec_install_ok_iff {host : Host} {plan : Plan} {phase : Phase} {nfkc : PyStr → PyStr}
    {e : Envelope} (hm : e.config.management.Valid nfkc) (hplan : plan.Installs phase)
    (s : AgentState) :
    (Prog.exec (handle host plan) (install phase e) s).1 = .ok () ↔
      (∀ t ∈ e.config.texts, encodable t = true) ∧ ∀ l ∈ envLines e.config, EnvSafe l.2 := by
  constructor
  · intro h
    have hexec : Prog.exec (handle host plan) (install phase e) s =
        (.ok (), (Prog.exec (handle host plan) (install phase e) s).2) := Prod.ext h rfl
    obtain ⟨⟨hencodable, hrendering⟩, hstate⟩ := exec_install_eq_ok hexec
    rw [hstate] at hencodable hrendering
    obtain ⟨env, -, henv, -⟩ := hrendering
    exact ⟨List.all_eq_true.mp hencodable, exists_stackEnv.mp ⟨env, henv⟩⟩
  · rintro ⟨htexts, hsafe⟩
    obtain ⟨generated, hrendering⟩ := exists_isRendering hm host htexts hsafe
    have hwrite : Prog.exec (handle host plan) (perform (.writeConfig phase e)) s
        = (.ok (), s.publish e s.generated) :=
      exec_writeConfig_eq_ok.mpr ⟨hplan.config e, List.all_eq_true.mpr htexts, rfl⟩
    unfold install
    rw [Prog.exec_bind_ok hwrite, exec_render hplan.toRenders hrendering]

end ZtPlanet.Agent
