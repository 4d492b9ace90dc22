/-
# The risk gate

`Agent.validate` calls a configuration risky if `validate_config` has a warning for it, and
`systemRouter.apply` asks for the password again if the configuration is risky or changes the
exposure of the controller.  An empty list of warnings therefore has to mean that the configuration
exposes nothing.

It means almost that.  Every listener uses TLS, a listener that is not loopback is private and
names source networks, nothing is inherited, the controller is not exposed directly, and an enabled
relay names source networks.  But a list of networks counts as a restriction as soon as it is not
empty: `0.0.0.0/0`, or two halves, let every source in without a warning.  `riskFree_iff` says that
this is the only gap.
-/
import ZtPlanet.Agent.Effective
import ZtPlanet.Python.NetworkCover

namespace ZtPlanet.Agent

open ZtPlanet.Python
open ZtPlanet.Lib (bind_ok_iff)

/-! ## 1. The gate -/

/-- What `Agent.validate` answers. -/
structure ValidationResult where
  config : Config
  warnings : List PyStr
  risky : Bool

/-- `Agent.validate`. -/
def validate (nfkc : PyStr → PyStr) (raw : Json) : Except PyError ValidationResult := do
  let (config, warnings) ← validateConfig nfkc raw
  return ⟨config, warnings, warnings != []⟩

/-- `systemRouter.apply` verifies the password again; `current` is the exposure of the stored
configuration and `input` the one of the request. -/
def asksReauthentication (validation : ValidationResult) (current input : Exposure) : Bool :=
  validation.risky || current != input

/-- The password is asked for unless there is no warning and the exposure stays. -/
theorem asksReauthentication_eq_false {nfkc : PyStr → PyStr} {raw : Json}
    {validation : ValidationResult} {current input : Exposure}
    (h : validate nfkc raw = .ok validation) :
    asksReauthentication validation current input = false ↔
      validateConfig nfkc raw = .ok (validation.config, []) ∧ current = input := by
  obtain ⟨result, hresult, h⟩ := bind_ok_iff.mp h
  rw [← pure_eq_ok.mp h, hresult]
  unfold asksReauthentication
  simp only [Bool.or_eq_false_iff, bne_eq_false_iff_eq, Except.ok.injEq]
  refine and_congr_left' ⟨fun hempty => ?_, fun hempty => ?_⟩
  · rw [← hempty]
  · rw [hempty]

/-! ## 2. What no warning should mean -/

/-- A listener that needs no second look: TLS, and on loopback or private with source networks that
leave someone out. -/
def Listener.Guarded (l : Listener) : Prop :=
  l.tlsMode ≠ .off ∧ ∃ ip, IpAddress.parse l.address = some ip ∧
    (ip.isLoopback = true ∨
      ip.isPrivate = true ∧ l.allowedCidrs ≠ [] ∧ Excludes ip.version l.allowedCidrs)

/-- A relay that is off or restricted. -/
def RelayServer.Guarded (r : RelayServer) : Prop :=
  r.enabled = false ∨ r.allowedSourceCidrs ≠ [] ∧ Excludes 4 r.allowedSourceCidrs

/-- What the gate takes a configuration without warnings for. -/
def RiskFree (config : Config) : Prop :=
  ∃ listeners, effectiveManagementListeners config.management = .ok listeners ∧
    (∀ l ∈ listeners, l.Guarded) ∧ config.controller.exposure ≠ .direct ∧
      config.relayServer.Guarded

/-- A list of networks that stands for a restriction has no gap: the one of a listener that is not
loopback, in the family of its address, or the one of an enabled relay. -/
def AdmitsEveryone (config : Config) : Prop :=
  (∃ l ∈ config.management.listeners, ∃ ip, IpAddress.parse l.address = some ip ∧
    ip.isLoopback = false ∧ LeavesNoGap ip.version l.allowedCidrs) ∨
  (config.relayServer.enabled = true ∧ LeavesNoGap 4 config.relayServer.allowedSourceCidrs)

/-! ## 3. What it means -/

theorem version_cases (ip : IpAddress) : ip.version = 4 ∨ ip.version = 6 := by
  cases ip with
  | v4 ip => exact .inl rfl
  | v6 ip scope => exact .inr rfl

/-- A listener without a warning uses TLS and is loopback, or private and restricted. -/
theorem placement_of_listenerWarnings {ip : IpAddress} {shown : PyStr} {tlsMode : TlsMode}
    {allowed : List PyStr} (h : listenerWarnings ip shown tlsMode allowed = []) :
    tlsMode ≠ .off ∧ (ip.isLoopback = true ∨ ip.isPrivate = true ∧ allowed ≠ []) := by
  unfold listenerWarnings at h
  simp only [List.append_eq_nil_iff] at h
  obtain ⟨⟨haddress, htls⟩, hallowed⟩ := h
  constructor
  · intro hoff
    rw [if_pos hoff] at htls
    cases htls
  · cases hloopback : ip.isLoopback with
    | true => exact .inl rfl
    | false =>
      refine .inr ⟨?_, ?_⟩
      · cases hprivate : ip.isPrivate with
        | true => rfl
        | false =>
          rw [hloopback, hprivate] at haddress
          split at haddress <;> cases haddress
      · intro hempty
        rw [if_pos ⟨hempty, hloopback⟩] at hallowed
        cases hallowed

/-- An inherited listener has a warning. -/
theorem inherited_of_accessWarnings {m : Management} (h : m.accessWarnings = []) :
    m.inherited = none := by
  cases hinherited : m.inherited with
  | none => rfl
  | some l =>
    obtain ⟨hallow, selected, first, -, -, huncovered, -⟩ := inherited_eq_some.mp hinherited
    have hall : (m.listeners.all fun l => l.address != m.zeroTierAddress) = true := by
      rw [List.all_eq_true]
      intro l hl
      have := List.all_eq_true.mp huncovered l hl
      rw [Bool.and_eq_true] at this
      exact this.1
    unfold Management.accessWarnings at h
    rw [if_pos ⟨hallow, hall⟩] at h
    cases h

/-- Without a warning, a listener is guarded exactly if it is loopback or its networks have a
gap. -/
theorem Listener.guarded_iff {l : Listener} {ip : IpAddress} (h : l.warnings = [])
    (hip : IpAddress.parse l.address = some ip) :
    l.Guarded ↔ ip.isLoopback = true ∨ ¬LeavesNoGap ip.version l.allowedCidrs := by
  unfold Listener.warnings at h
  rw [hip] at h
  obtain ⟨htls, hplace⟩ := placement_of_listenerWarnings h
  constructor
  · rintro ⟨-, ip', hip', hguarded⟩
    rw [hip] at hip'
    cases hip'
    refine hguarded.imp_right ?_
    rintro ⟨-, -, hexcludes⟩
    exact (excludes_iff (version_cases ip)).mp hexcludes
  · intro hcondition
    refine ⟨htls, ip, hip, ?_⟩
    rcases hcondition with hloopback | hgap
    · exact .inl hloopback
    · exact hplace.imp_right fun hprivate =>
        ⟨hprivate.1, hprivate.2, (excludes_iff (version_cases ip)).mpr hgap⟩

/-- Without a warning, a relay is guarded exactly if it is off or its networks have a gap. -/
theorem RelayServer.guarded_iff {r : RelayServer} (h : r.warnings = []) :
    r.Guarded ↔ ¬(r.enabled = true ∧ LeavesNoGap 4 r.allowedSourceCidrs) := by
  unfold RelayServer.Guarded
  rw [excludes_iff (.inl rfl), not_and]
  cases henabled : r.enabled with
  | false => simp
  | true =>
    have hallowed : r.allowedSourceCidrs ≠ [] := by
      intro hempty
      unfold RelayServer.warnings at h
      rw [if_pos ⟨henabled, hempty⟩] at h
      cases h
    simp [hallowed]

/-- **A configuration without warnings is free of risk exactly if none of its lists of source
networks lets everyone in.** -/
theorem riskFree_iff {nfkc : PyStr → PyStr} {raw : Json} {config : Config}
    (h : validateConfig nfkc raw = .ok (config, [])) :
    RiskFree config ↔ ¬AdmitsEveryone config := by
  obtain ⟨hvalid, hwarnings⟩ := valid_of_validateConfig h
  have hm := hvalid.management
  have hwarnings := hwarnings.symm
  unfold Config.warnings Management.warnings at hwarnings
  simp only [List.append_eq_nil_iff, List.flatMap_eq_nil_iff] at hwarnings
  obtain ⟨⟨⟨⟨⟨hlisteners, -⟩, haccess⟩, hcontroller⟩, hrelay⟩, -⟩ := hwarnings
  have heffective := effective_eq hm
  rw [inherited_of_accessWarnings haccess, Option.toList_none, List.append_nil] at heffective
  have hdirect : config.controller.exposure ≠ .direct := by
    intro hdirect
    unfold Controller.warnings at hcontroller
    rw [if_pos hdirect] at hcontroller
    cases hcontroller
  unfold AdmitsEveryone
  rw [not_or, ← RelayServer.guarded_iff hrelay]
  constructor
  · rintro ⟨listeners, hlist, hguarded, -, hrelayGuarded⟩
    rw [heffective] at hlist
    cases hlist
    refine ⟨?_, hrelayGuarded⟩
    rintro ⟨l, hl, ip, hip, hloopback, hgap⟩
    rcases (Listener.guarded_iff (hlisteners l hl) hip).mp (hguarded l hl) with h | h
    · rw [hloopback] at h
      cases h
    · exact h hgap
  · rintro ⟨hnone, hrelayGuarded⟩
    refine ⟨_, heffective, fun l hl => ?_, hdirect, hrelayGuarded⟩
    obtain ⟨ip, hip, -⟩ := (hm.listeners l hl).address
    refine (Listener.guarded_iff (hlisteners l hl) hip).mpr ?_
    cases hloopback : ip.isLoopback with
    | true => exact .inl rfl
    | false => exact .inr fun hgap => hnone ⟨l, hl, ip, hip, hloopback, hgap⟩

/-- Four listeners and an enabled relay without a warning. -/
theorem riskFree_sample : RiskFree sampleConfig ↔ ¬AdmitsEveryone sampleConfig :=
  riskFree_iff validateConfig_sample

/-- The default configuration with a relay on a private address for every IPv4 source. -/
def withOpenRelay : Config :=
  { defaultConfig with
    relayServer := {
      defaultConfig.relayServer with
      enabled := true
      bindAddress := py "10.0.0.1"
      allowedSourceCidrs := [py "0.0.0.0/0"] } }

/-- A relay that is open to every source has no warning. -/
theorem open_relay_not_risky : ∃ raw config,
    validateConfig id raw = .ok (config, []) ∧ ¬RiskFree config := by
  have haccepted :
      (validateConfig id withOpenRelay.toJson).toOption = some (withOpenRelay, []) := by
    decide +kernel
  refine ⟨_, _, eq_ok_of_toOption haccepted, ?_⟩
  rintro ⟨-, -, -, -, hguarded⟩
  rcases hguarded with hoff | ⟨-, hexcludes⟩
  · cases hoff
  · revert hexcludes
    rw [excludes_iff (.inl rfl)]
    decide +kernel

end ZtPlanet.Agent
