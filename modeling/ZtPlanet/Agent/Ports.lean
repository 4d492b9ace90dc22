/-
# The UDP ports of ZeroTier

ZeroTier listens on 9993 and on the secondary and tertiary port of `local.conf`; the compose
override publishes the public port onto 9993 and each other port onto itself.

`validate_config` demands that the three configured ports are distinct, which are the ports on the
host.  Inside the container the public port becomes 9993, so the ports there are distinct exactly if
none of the other two is 9993 (`portsConsistent_iff`).
-/
import ZtPlanet.Agent.Valid
import ZtPlanet.Agent.Render

namespace ZtPlanet.Agent

open ZtPlanet.Python

/-! ## 1. What is published and what is listened on -/

/-- A published port: where it is bound on the host and where it leads. -/
structure PortMapping where
  address : PyStr
  hostPort : Nat
  containerPort : Nat
deriving DecidableEq

/-- The secondary and the tertiary port, if they are configured. -/
def ZeroTier.extraPorts (z : ZeroTier) : List Nat :=
  [z.secondaryPort, z.tertiaryPort].filter (· ≠ 0)

theorem mem_extraPorts {z : ZeroTier} {port : Nat} :
    port ∈ z.extraPorts ↔ (port = z.secondaryPort ∨ port = z.tertiaryPort) ∧ port ≠ 0 := by
  simp [ZeroTier.extraPorts, List.mem_filter]

/-- The UDP ports that `render_compose_override` publishes for ZeroTier. -/
def udpMappings (config : Config) : List PortMapping :=
  let zt := config.zerotier
  if zt.enabled then
    ⟨zt.bindAddress, zt.publicPort, 9993⟩ ::
      zt.extraPorts.map fun port => ⟨zt.bindAddress, port, port⟩
  else []

/-- The TCP port that it publishes for the controller. -/
def tcpMappings (config : Config) : List PortMapping :=
  let controller := config.controller
  if controller.exposure = .direct then [⟨controller.bindAddress, controller.port, 9993⟩] else []

/-- The lines of the override are these mappings. -/
theorem zerotierPortLines_eq (config : Config) :
    zerotierPortLines config =
      (udpMappings config).map (fun m => portLine m.address m.hostPort m.containerPort "/udp") ++
      (tcpMappings config).map fun m => portLine m.address m.hostPort m.containerPort "/tcp" := by
  unfold zerotierPortLines udpMappings tcpMappings ZeroTier.extraPorts
  refine congrArg₂ (· ++ ·) ?_ ?_
  · dsimp only
    by_cases henabled : config.zerotier.enabled = true
    · rw [if_pos henabled, if_pos henabled, List.map_cons, List.map_map]
      rfl
    · rw [if_neg henabled, if_neg henabled]
      rfl
  · dsimp only
    split <;> rfl

/-- The ports that `local.conf` makes ZeroTier listen on. -/
def LocalSettings.listeningPorts (s : LocalSettings) : List Nat :=
  s.primaryPort :: [s.secondaryPort, s.tertiaryPort].filterMap id

/-- The published ports are distinct on both sides and lead to ports that are listened on, and these
are distinct too. -/
structure PortsConsistent (config : Config) : Prop where
  hostPorts : ((udpMappings config).map PortMapping.hostPort).Nodup
  containerPorts : ((udpMappings config).map PortMapping.containerPort).Nodup
  listened : ∀ m ∈ udpMappings config, m.containerPort ∈ (localSettings config).listeningPorts
  listeningPorts : (localSettings config).listeningPorts.Nodup

/-! ## 2. When they are consistent -/

/-- ZeroTier listens on its fixed port and on every extra port. -/
theorem listeningPorts_eq (config : Config) :
    (localSettings config).listeningPorts = 9993 :: config.zerotier.extraPorts := by
  unfold localSettings LocalSettings.listeningPorts ZeroTier.extraPorts
  dsimp only
  by_cases hs : config.zerotier.secondaryPort = 0 <;>
    by_cases ht : config.zerotier.tertiaryPort = 0 <;> simp [hs, ht]

/-- On the host, the published ports are the configured ones. -/
theorem hostPorts_eq {config : Config} (henabled : config.zerotier.enabled = true) :
    (udpMappings config).map PortMapping.hostPort = config.zerotier.configuredPorts := by
  unfold udpMappings
  dsimp only
  rw [if_pos henabled, List.map_cons, List.map_map]
  exact congrArg (_ :: ·) (List.map_id _)

/-- In the container, they are the ports that are listened on. -/
theorem containerPorts_eq {config : Config} (henabled : config.zerotier.enabled = true) :
    (udpMappings config).map PortMapping.containerPort =
      (localSettings config).listeningPorts := by
  rw [listeningPorts_eq]
  unfold udpMappings
  dsimp only
  rw [if_pos henabled, List.map_cons, List.map_map]
  exact congrArg (_ :: ·) (List.map_id _)

/-- **The published ports of an accepted configuration are consistent exactly if neither extra port
is the fixed port of ZeroTier.** -/
theorem portsConsistent_iff {nfkc : PyStr → PyStr} {raw : Json} {config : Config}
    {warnings : List PyStr} (h : validateConfig nfkc raw = .ok (config, warnings))
    (henabled : config.zerotier.enabled = true) :
    PortsConsistent config ↔
      config.zerotier.secondaryPort ≠ 9993 ∧ config.zerotier.tertiaryPort ≠ 9993 := by
  obtain ⟨hvalid, -⟩ := valid_of_validateConfig h
  have hdistinct := hvalid.zerotier.distinct
  have hextra : config.zerotier.extraPorts.Nodup := (List.nodup_cons.mp hdistinct).2
  have hlistening : (localSettings config).listeningPorts.Nodup ↔
      config.zerotier.secondaryPort ≠ 9993 ∧ config.zerotier.tertiaryPort ≠ 9993 := by
    rw [listeningPorts_eq, List.nodup_cons, and_iff_left hextra, mem_extraPorts]
    constructor
    · intro hnot
      refine ⟨fun hs => hnot ⟨.inl hs.symm, by decide⟩, fun ht => hnot ⟨.inr ht.symm, by decide⟩⟩
    · rintro ⟨hs, ht⟩ ⟨h | h, -⟩
      · exact hs h.symm
      · exact ht h.symm
  rw [← hlistening]
  constructor
  · exact PortsConsistent.listeningPorts
  · intro hnodup
    constructor
    · rw [hostPorts_eq henabled]
      exact hdistinct
    · rw [containerPorts_eq henabled]
      exact hnodup
    · intro m hm
      rw [← containerPorts_eq henabled]
      exact List.mem_map_of_mem hm
    · exact hnodup

/-- Three ports are published. -/
theorem portsConsistent_sample : PortsConsistent sampleConfig ↔
    sampleConfig.zerotier.secondaryPort ≠ 9993 ∧ sampleConfig.zerotier.tertiaryPort ≠ 9993 :=
  portsConsistent_iff validateConfig_sample rfl

/-- The default configuration with another public port and 9993 as the secondary one. -/
def withFixedSecondary : Config :=
  { defaultConfig with
    zerotier := { defaultConfig.zerotier with publicPort := 443, secondaryPort := 9993 } }

/-- Both published ports lead to the one port that ZeroTier has twice. -/
theorem fixed_port_twice : ∃ raw config warnings,
    validateConfig id raw = .ok (config, warnings) ∧ config.zerotier.enabled = true ∧
      ¬PortsConsistent config := by
  have haccepted : (validateConfig id withFixedSecondary.toJson).toOption =
      some (withFixedSecondary, []) := by
    decide +kernel
  refine ⟨_, _, _, eq_ok_of_toOption haccepted, rfl, fun hconsistent => ?_⟩
  have hnodup := hconsistent.containerPorts
  revert hnodup
  decide

end ZtPlanet.Agent
