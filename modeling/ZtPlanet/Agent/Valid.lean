/-
# The configurations that `validate_config` returns

`Config.Valid` says what a configuration has to be, and `Config.warnings` which warnings it carries,
both without the JSON value that the configuration was made from.  `valid_of_validateConfig` is the
link: what `validate_config` returns is a valid configuration together with its own warnings.

Other properties of accepted configurations start here.  A section is valid if its numbers are in
range, its addresses and networks are in their normal form and its listeners are apart; the public
URL is a fixed point of its own check.
-/
import ZtPlanet.Agent.Fixpoints

namespace ZtPlanet.Agent

open ZtPlanet.Python
open ZtPlanet.Lib (bind_ok_iff)

/-! ## 1. Sections -/

structure Listener.Valid (l : Listener) : Prop where
  address : IsNormalAddress l.address
  port : ValidPort l.port
  allowedCidrs : ValidCidrs l.allowedCidrs

/-- The later of two listeners has been compared with the earlier one. -/
def Apart (l l' : Listener) : Prop :=
  bindingsOverlap l'.address l'.port l.address l.port = .ok false

structure Management.Valid (nfkc : PyStr → PyStr) (m : Management) : Prop where
  count : 1 ≤ m.listeners.length ∧ m.listeners.length ≤ 16
  listeners : ∀ l ∈ m.listeners, l.Valid
  apart : m.listeners.Pairwise Apart
  publicUrl : ∃ warnings,
    validatePublicUrl nfkc (.str m.publicUrl) m.listeners = .ok (m.publicUrl, warnings)
  access : m.allowZeroTier = true →
    isSafeInterface m.zeroTierInterface = true ∧ IsNormalAddress m.zeroTierAddress
  sessionMaxAgeSeconds : 900 ≤ m.sessionMaxAgeSeconds ∧ m.sessionMaxAgeSeconds ≤ 28800
  loginAttempts : 1 ≤ m.loginAttempts ∧ m.loginAttempts ≤ 20
  loginLockoutSeconds : 60 ≤ m.loginLockoutSeconds ∧ m.loginLockoutSeconds ≤ 86400

structure ZeroTier.Valid (z : ZeroTier) : Prop where
  bindAddress : IsNormalAddress z.bindAddress
  publicPort : ValidPort z.publicPort
  secondaryPort : z.secondaryPort ≤ 65535
  tertiaryPort : z.tertiaryPort ≤ 65535
  distinct : z.configuredPorts.Nodup

structure Controller.Valid (c : Controller) : Prop where
  bindAddress : IsNormalAddress c.bindAddress
  port : ValidPort c.port

structure RelayServer.Valid (r : RelayServer) : Prop where
  bindAddress : IsNormalAddress r.bindAddress
  port : ValidPort r.port
  allowedSourceCidrs : ValidCidrs r.allowedSourceCidrs
  ipv4 : ∀ c ∈ r.allowedSourceCidrs, isNotIpv4Cidr c = .ok false
  maxConnections : 1 ≤ r.maxConnections ∧ r.maxConnections ≤ 4096
  maxConnectionsPerIp : 1 ≤ r.maxConnectionsPerIp ∧ r.maxConnectionsPerIp ≤ 256
  packetsPerSecond : 1 ≤ r.packetsPerSecond ∧ r.packetsPerSecond ≤ 100000
  bytesPerSecond : 1024 ≤ r.bytesPerSecond ∧ r.bytesPerSecond ≤ 1073741824
  globalPacketsPerSecond : 1 ≤ r.globalPacketsPerSecond ∧ r.globalPacketsPerSecond ≤ 1000000
  globalBytesPerSecond : 1024 ≤ r.globalBytesPerSecond ∧ r.globalBytesPerSecond ≤ 10737418240
  handshakeTimeoutSeconds : 1 ≤ r.handshakeTimeoutSeconds ∧ r.handshakeTimeoutSeconds ≤ 60
  idleTimeoutSeconds : 30 ≤ r.idleTimeoutSeconds ∧ r.idleTimeoutSeconds ≤ 3600
  maxDestinations : 1 ≤ r.maxDestinations ∧ r.maxDestinations ≤ 1024
  minDestinationPort : ValidPort r.minDestinationPort

/-- The relay client uses a relay of its own. -/
def ClientMode.isCustom (mode : ClientMode) : Prop := mode = .customAuto ∨ mode = .customForce

structure RelayClient.Valid (c : RelayClient) : Prop where
  host : c.mode.isCustom → IsNormalHost c.host
  port : ValidPort c.port

/-- What `validate_config` makes sure of. -/
structure Config.Valid (nfkc : PyStr → PyStr) (c : Config) : Prop where
  management : c.management.Valid nfkc
  zerotier : c.zerotier.Valid
  controller : c.controller.Valid
  relayServer : c.relayServer.Valid
  relayClient : c.relayClient.Valid
  conflicts : validateConflicts c = .ok ()

/-! ## 2. Warnings -/

/-- The warnings of a listener. -/
def Listener.warnings (l : Listener) : List PyStr :=
  match IpAddress.parse l.address with
  | some ip =>
    listenerWarnings ip (l.address ++ ch ':' :: decimal l.port) l.tlsMode l.allowedCidrs
  | none => []

/-- The warnings of the public URL of a section. -/
def Management.urlWarnings (nfkc : PyStr → PyStr) (m : Management) : List PyStr :=
  match validatePublicUrl nfkc (.str m.publicUrl) m.listeners with
  | .ok result => result.2
  | .error _ => []

/-- The warning about ZeroTier access. -/
def Management.accessWarnings (m : Management) : List PyStr :=
  if m.allowZeroTier ∧ (m.listeners.all fun l => l.address != m.zeroTierAddress) = true then
    [py "ZeroTier management access adds a listener inheriting the first listener's port, TLS and CIDR policy"]
  else []

def Management.warnings (nfkc : PyStr → PyStr) (m : Management) : List PyStr :=
  m.listeners.flatMap Listener.warnings ++ m.urlWarnings nfkc ++ m.accessWarnings

def Controller.warnings (c : Controller) (listeners : List Listener) : List PyStr :=
  (if c.exposure = .direct then
    [py "the token-authenticated Controller API is directly exposed without TLS"] else []) ++
  (if c.exposure = .https ∧ (listeners.any fun l => l.tlsMode == .off) = true then
    [py "Controller API proxy is also reachable over listeners where TLS is disabled"] else [])

/-- The relay is bound to an address that everyone can reach. -/
def RelayServer.isPublic (r : RelayServer) : Bool :=
  match IpAddress.parse r.bindAddress with
  | some ip => ip.isUnspecified || (!ip.isPrivate && !ip.isLoopback)
  | none => false

def RelayServer.warnings (r : RelayServer) : List PyStr :=
  (if r.enabled ∧ r.allowedSourceCidrs = [] then
    [py "TCP relay accepts clients from any source and the protocol has no client authentication"]
    else []) ++
  (if r.enabled ∧ r.isPublic then
    [py "TCP relay is bound to a public or wildcard address"] else [])

def RelayClient.warnings (c : RelayClient) : List PyStr :=
  if c.mode = .customForce then
    [py "forceTcpRelay disables direct UDP transmission and should normally be used only for testing"]
  else []

/-- The warnings of a configuration, in the order of `validate_config`. -/
def Config.warnings (nfkc : PyStr → PyStr) (c : Config) : List PyStr :=
  c.management.warnings nfkc ++ c.controller.warnings c.management.listeners ++
    c.relayServer.warnings ++ c.relayClient.warnings

/-! ## 3. The loop over the listeners -/

theorem valid_of_validateListener {item : Json} {index : Nat} {clean : List Listener}
    {result : Listener × List PyStr} (h : validateListener item index clean = .ok result) :
    result.1.Valid ∧ (∀ l ∈ clean, Apart l result.1) ∧ result.2 = result.1.warnings := by
  unfold validateListener at h
  obtain ⟨members, -, h⟩ := bind_ok_iff.mp h
  obtain ⟨address, haddress, h⟩ := bind_ok_iff.mp h
  obtain ⟨port, hport, h⟩ := bind_ok_iff.mp h
  obtain ⟨tlsMode, -, h⟩ := bind_ok_iff.mp h
  obtain ⟨allowed, hallowed, h⟩ := bind_ok_iff.mp h
  obtain ⟨-, -, h⟩ := bind_ok_iff.mp h
  obtain ⟨overlaps, hoverlaps, h⟩ := bind_ok_iff.mp h
  obtain ⟨_, hrefuse, h⟩ := bind_ok_iff.mp h
  obtain ⟨ip, hip, h⟩ := bind_ok_iff.mp h
  rw [refuseIf_eq_ok.mp hrefuse] at hoverlaps
  rw [← pure_eq_ok.mp h]
  refine ⟨?_, fun l hl => anyOf_eq_false.mp hoverlaps l hl, ?_⟩
  · exact ⟨isNormalAddress_of_isAddress (requireIp_eq_ok.mp haddress),
      (requireInt_eq_ok.mp hport).2, validCidrs_of_requireCidrs hallowed⟩
  · unfold Listener.warnings
    rw [ipAddress_eq_ok.mp hip]

theorem valid_of_validateListeners : ∀ {rest : List Json} {index : Nat} {clean : List Listener}
    {warnings : List PyStr} {result : List Listener × List PyStr},
    validateListeners rest index clean warnings = .ok result →
    (∀ l ∈ clean, l.Valid) → clean.Pairwise Apart → warnings = clean.flatMap Listener.warnings →
      (∀ l ∈ result.1, l.Valid) ∧ result.1.Pairwise Apart ∧
        result.2 = result.1.flatMap Listener.warnings ∧
        result.1.length = clean.length + rest.length
  | [], index, clean, warnings, result, h, hvalid, hapart, hwarnings => by
    cases h
    exact ⟨hvalid, hapart, hwarnings, rfl⟩
  | item :: rest, index, clean, warnings, result, h, hvalid, hapart, hwarnings => by
    obtain ⟨one, hone, h⟩ := bind_ok_iff.mp h
    obtain ⟨honevalid, honeapart, honewarnings⟩ := valid_of_validateListener hone
    have hvalid' : ∀ l ∈ clean ++ [one.1], l.Valid := by
      intro l hl
      rcases List.mem_append.mp hl with hl | hl
      · exact hvalid l hl
      · rw [List.mem_singleton.mp hl]
        exact honevalid
    have hapart' : (clean ++ [one.1]).Pairwise Apart := by
      rw [List.pairwise_append]
      refine ⟨hapart, List.pairwise_singleton _ _, fun l hl l' hl' => ?_⟩
      rw [List.mem_singleton.mp hl']
      exact honeapart l hl
    have hwarnings' : warnings ++ one.2 = (clean ++ [one.1]).flatMap Listener.warnings := by
      rw [hwarnings, honewarnings, List.flatMap_append, List.flatMap_singleton]
    obtain ⟨h₁, h₂, h₃, h₄⟩ := valid_of_validateListeners h hvalid' hapart' hwarnings'
    refine ⟨h₁, h₂, h₃, ?_⟩
    rw [h₄, List.length_append, List.length_cons, List.length_cons, List.length_nil]
    omega

/-! ## 4. The sections -/

theorem access_of_validate {members : List (PyStr × Json)} {allowZt : Bool}
    {listeners : List Listener} {result : PyStr × PyStr × List PyStr}
    (h : validateZeroTierAccess members allowZt listeners = .ok result) :
    (allowZt = true → isSafeInterface result.1 = true ∧ IsNormalAddress result.2.1) ∧
      ∀ m : Management, m.allowZeroTier = allowZt → m.listeners = listeners →
        m.zeroTierAddress = result.2.1 → result.2.2 = m.accessWarnings := by
  unfold validateZeroTierAccess at h
  split at h
  · cases allowZt with
    | true =>
      rw [if_pos rfl] at h
      obtain ⟨_, hsafe, h⟩ := bind_ok_iff.mp h
      obtain ⟨text, htext, h⟩ := bind_ok_iff.mp h
      have hsafe := refuseIf_eq_ok.mp hsafe
      rw [decide_eq_false_iff_not, Bool.not_eq_false] at hsafe
      rw [← pure_eq_ok.mp h]
      refine ⟨fun _ => ⟨hsafe, isNormalAddress_of_isAddress (requireIp_eq_ok.mp htext)⟩, ?_⟩
      rintro m hallow rfl haddress
      unfold Management.accessWarnings
      rw [hallow, haddress]
      simp
    | false =>
      rw [if_neg (by decide)] at h
      rw [← pure_eq_ok.mp h]
      refine ⟨fun hallow => absurd hallow (by decide), ?_⟩
      rintro m hallow rfl -
      unfold Management.accessWarnings
      rw [hallow]
      simp
  · cases h

theorem valid_of_validateManagement {nfkc : PyStr → PyStr} {value : Json}
    {result : Management × List PyStr} (h : validateManagement nfkc value = .ok result) :
    result.1.Valid nfkc ∧ result.2 = result.1.warnings nfkc := by
  unfold validateManagement at h
  obtain ⟨members, -, h⟩ := bind_ok_iff.mp h
  obtain ⟨raw, hraw, h⟩ := bind_ok_iff.mp h
  obtain ⟨listeners, hlisteners, h⟩ := bind_ok_iff.mp h
  obtain ⟨url, hurl, h⟩ := bind_ok_iff.mp h
  obtain ⟨allowZt, -, h⟩ := bind_ok_iff.mp h
  obtain ⟨access, haccess, h⟩ := bind_ok_iff.mp h
  obtain ⟨age, hage, h⟩ := bind_ok_iff.mp h
  obtain ⟨attempts, hattempts, h⟩ := bind_ok_iff.mp h
  obtain ⟨lockout, hlockout, h⟩ := bind_ok_iff.mp h
  rw [← pure_eq_ok.mp h]
  obtain ⟨hvalid, hapart, hwarnings, hlength⟩ :=
    valid_of_validateListeners hlisteners (fun l hl => by cases hl) .nil rfl
  obtain ⟨hallowed, haccess⟩ := access_of_validate haccess
  have hagain := validatePublicUrl_again hurl
  have hcount : 1 ≤ raw.length ∧ raw.length ≤ 16 := by
    unfold requireListeners at hraw
    split at hraw
    · split at hraw
      · rename_i hlen
        cases hraw
        exact hlen
      · cases hraw
    · cases hraw
  constructor
  · exact {
      count := by
        rw [List.length_nil, Nat.zero_add] at hlength
        exact hlength.symm ▸ hcount
      listeners := hvalid
      apart := hapart
      publicUrl := ⟨url.2, hagain⟩
      access := hallowed
      sessionMaxAgeSeconds := (requireInt_eq_ok.mp hage).2
      loginAttempts := (requireInt_eq_ok.mp hattempts).2
      loginLockoutSeconds := (requireInt_eq_ok.mp hlockout).2 }
  · unfold Management.warnings Management.urlWarnings
    dsimp only
    rw [hagain, hwarnings, haccess ⟨url.1, listeners.1, allowZt, access.1, access.2.1, age,
      attempts, lockout⟩ rfl rfl rfl]

theorem valid_of_validateZeroTier {value : Json} {result : ZeroTier}
    (h : validateZeroTier value = .ok result) : result.Valid := by
  unfold validateZeroTier at h
  obtain ⟨members, -, h⟩ := bind_ok_iff.mp h
  obtain ⟨enabled, -, h⟩ := bind_ok_iff.mp h
  obtain ⟨address, haddress, h⟩ := bind_ok_iff.mp h
  obtain ⟨publicPort, hpublic, h⟩ := bind_ok_iff.mp h
  obtain ⟨secondaryPort, hsecondary, h⟩ := bind_ok_iff.mp h
  obtain ⟨tertiaryPort, htertiary, h⟩ := bind_ok_iff.mp h
  obtain ⟨allowSecondaryPort, -, h⟩ := bind_ok_iff.mp h
  obtain ⟨portMappingEnabled, -, h⟩ := bind_ok_iff.mp h
  obtain ⟨_, hrefuse, h⟩ := bind_ok_iff.mp h
  rw [← pure_eq_ok.mp h]
  have hnodup := refuseIf_eq_ok.mp hrefuse
  rw [decide_eq_false_iff_not, not_not] at hnodup
  exact {
    bindAddress := isNormalAddress_of_isAddress (requireIp_eq_ok.mp haddress)
    publicPort := (requireInt_eq_ok.mp hpublic).2
    secondaryPort := (requireInt_eq_ok.mp hsecondary).2.2
    tertiaryPort := (requireInt_eq_ok.mp htertiary).2.2
    distinct := hnodup }

theorem valid_of_validateController {value : Json} {listeners : List Listener}
    {result : Controller × List PyStr} (h : validateController value listeners = .ok result) :
    result.1.Valid ∧ result.2 = result.1.warnings listeners := by
  unfold validateController at h
  obtain ⟨members, -, h⟩ := bind_ok_iff.mp h
  obtain ⟨exposure, -, h⟩ := bind_ok_iff.mp h
  obtain ⟨address, haddress, h⟩ := bind_ok_iff.mp h
  obtain ⟨port, hport, h⟩ := bind_ok_iff.mp h
  rw [← pure_eq_ok.mp h]
  exact ⟨⟨isNormalAddress_of_isAddress (requireIp_eq_ok.mp haddress),
    (requireInt_eq_ok.mp hport).2⟩, rfl⟩

theorem valid_of_validateRelayServer {value : Json} {result : RelayServer × List PyStr}
    (h : validateRelayServer value = .ok result) :
    result.1.Valid ∧ result.2 = result.1.warnings := by
  unfold validateRelayServer at h
  obtain ⟨members, -, h⟩ := bind_ok_iff.mp h
  obtain ⟨enabled, -, h⟩ := bind_ok_iff.mp h
  obtain ⟨address, haddress, h⟩ := bind_ok_iff.mp h
  obtain ⟨port, hport, h⟩ := bind_ok_iff.mp h
  obtain ⟨allowed, hallowed, h⟩ := bind_ok_iff.mp h
  obtain ⟨maxConnections, hconnections, h⟩ := bind_ok_iff.mp h
  obtain ⟨maxConnectionsPerIp, hperIp, h⟩ := bind_ok_iff.mp h
  obtain ⟨packetsPerSecond, hpackets, h⟩ := bind_ok_iff.mp h
  obtain ⟨bytesPerSecond, hbytes, h⟩ := bind_ok_iff.mp h
  obtain ⟨globalPackets, hglobalPackets, h⟩ := bind_ok_iff.mp h
  obtain ⟨globalBytes, hglobalBytes, h⟩ := bind_ok_iff.mp h
  obtain ⟨handshake, hhandshake, h⟩ := bind_ok_iff.mp h
  obtain ⟨idle, hidle, h⟩ := bind_ok_iff.mp h
  obtain ⟨destinations, hdestinations, h⟩ := bind_ok_iff.mp h
  obtain ⟨minPort, hminPort, h⟩ := bind_ok_iff.mp h
  obtain ⟨notIpv4, hnotIpv4, h⟩ := bind_ok_iff.mp h
  obtain ⟨_, hrefuse, h⟩ := bind_ok_iff.mp h
  obtain ⟨ip, hip, h⟩ := bind_ok_iff.mp h
  rw [refuseIf_eq_ok.mp hrefuse] at hnotIpv4
  rw [← pure_eq_ok.mp h]
  constructor
  · exact {
      bindAddress := isNormalAddress_of_isAddress (requireIp_eq_ok.mp haddress)
      port := (requireInt_eq_ok.mp hport).2
      allowedSourceCidrs := validCidrs_of_requireCidrs hallowed
      ipv4 := anyOf_eq_false.mp hnotIpv4
      maxConnections := (requireInt_eq_ok.mp hconnections).2
      maxConnectionsPerIp := (requireInt_eq_ok.mp hperIp).2
      packetsPerSecond := (requireInt_eq_ok.mp hpackets).2
      bytesPerSecond := (requireInt_eq_ok.mp hbytes).2
      globalPacketsPerSecond := (requireInt_eq_ok.mp hglobalPackets).2
      globalBytesPerSecond := (requireInt_eq_ok.mp hglobalBytes).2
      handshakeTimeoutSeconds := (requireInt_eq_ok.mp hhandshake).2
      idleTimeoutSeconds := (requireInt_eq_ok.mp hidle).2
      maxDestinations := (requireInt_eq_ok.mp hdestinations).2
      minDestinationPort := (requireInt_eq_ok.mp hminPort).2 }
  · unfold RelayServer.warnings RelayServer.isPublic
    dsimp only
    rw [ipAddress_eq_ok.mp hip]

theorem valid_of_validateRelayClient {value : Json} {result : RelayClient × List PyStr}
    (h : validateRelayClient value = .ok result) :
    result.1.Valid ∧ result.2 = result.1.warnings := by
  unfold validateRelayClient at h
  obtain ⟨members, -, h⟩ := bind_ok_iff.mp h
  obtain ⟨mode, -, h⟩ := bind_ok_iff.mp h
  obtain ⟨host, hhost, h⟩ := bind_ok_iff.mp h
  obtain ⟨port, hport, h⟩ := bind_ok_iff.mp h
  rw [← pure_eq_ok.mp h]
  refine ⟨⟨fun hcustom => ?_, (requireInt_eq_ok.mp hport).2⟩, rfl⟩
  have hcustom : mode = .customAuto ∨ mode = .customForce := hcustom
  unfold requireClientHost at hhost
  rw [if_pos hcustom] at hhost
  exact isNormalHost_of_requireHost hhost

/-- **What `validate_config` returns is valid and comes with its own warnings.** -/
theorem valid_of_validateConfig {nfkc : PyStr → PyStr} {raw : Json} {config : Config}
    {warnings : List PyStr} (h : validateConfig nfkc raw = .ok (config, warnings)) :
    config.Valid nfkc ∧ warnings = config.warnings nfkc := by
  unfold validateConfig at h
  obtain ⟨root, -, h⟩ := bind_ok_iff.mp h
  obtain ⟨-, -, h⟩ := bind_ok_iff.mp h
  obtain ⟨management, hmanagement, h⟩ := bind_ok_iff.mp h
  obtain ⟨zerotier, hzerotier, h⟩ := bind_ok_iff.mp h
  obtain ⟨controller, hcontroller, h⟩ := bind_ok_iff.mp h
  obtain ⟨relay, hrelay, h⟩ := bind_ok_iff.mp h
  obtain ⟨client, hclient, h⟩ := bind_ok_iff.mp h
  obtain ⟨_, hconflicts, h⟩ := bind_ok_iff.mp h
  cases pure_eq_ok.mp h
  obtain ⟨hm, hmw⟩ := valid_of_validateManagement hmanagement
  obtain ⟨hc, hcw⟩ := valid_of_validateController hcontroller
  obtain ⟨hr, hrw⟩ := valid_of_validateRelayServer hrelay
  obtain ⟨hcl, hclw⟩ := valid_of_validateRelayClient hclient
  refine ⟨⟨hm, valid_of_validateZeroTier hzerotier, hc, hr, hcl, hconflicts⟩, ?_⟩
  rw [hmw, hcw, hrw, hclw]
  rfl

end ZtPlanet.Agent
