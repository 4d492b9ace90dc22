/-
# What acceptance means

The other side of `validate_config`: from the fact that a JSON value was accepted, what its fields
were and how the configuration was made from them.  Every helper has a lemma that says when it
returns, every section one that says what it read; `accepted_of_validateConfig` puts together the
part that the generated files depend on.

Only the fields that are texts, and the flags that decide which of them are rendered, are followed
here.
-/
import ZtPlanet.Agent.Validate
import ZtPlanet.Lib.Except
import ZtPlanet.Python.IpRoundTrip

namespace ZtPlanet.Agent

open ZtPlanet.Python
open ZtPlanet.Lib (bind_ok_iff mapM_ok_iff)

/-! ## 1. Peeling computations apart -/

theorem pure_eq_ok {α : Type} {a b : α} : (pure a : Except PyError α) = .ok b ↔ a = b :=
  Except.ok.injEq a b ▸ Iff.rfl

/-- Where the test raises on no element, `anyOf` is `any`. -/
theorem anyOf_eq_any {α : Type} {f : α → Except PyError Bool} {g : α → Bool} :
    ∀ {items : List α}, (∀ x ∈ items, f x = .ok (g x)) → anyOf f items = .ok (items.any g)
  | [], _ => rfl
  | x :: items, h => by
    have ih := anyOf_eq_any fun y hy => h y (List.mem_cons_of_mem x hy)
    rw [anyOf, h x (by simp), List.any_cons]
    cases hg : g x with
    | true => rfl
    | false => exact ih

/-- A result that was computed. -/
theorem eq_ok_of_toOption {α : Type} {x : Except PyError α} {a : α} (h : x.toOption = some a) :
    x = .ok a := by
  cases x with
  | error e => cases h
  | ok b => exact congrArg Except.ok (Option.some.inj h)

theorem exists_ok_of_any {α : Type} {x : Except PyError α} {p : α → Bool}
    (h : x.toOption.any p = true) : ∃ a, x = .ok a ∧ p a = true := by
  cases x with
  | error e => cases h
  | ok a => exact ⟨a, rfl, h⟩

/-! ## 2. Fields of a JSON value -/

/-- The value of a key, `null` where there is none. -/
def field (value : Json) (key : String) : Json :=
  match value with
  | .obj members => get members key
  | _ => .null

/-- The elements of a list. -/
def items (value : Json) : List Json :=
  match value with
  | .arr items => items
  | _ => []

/-- `text` is the normalized form of the address that `value` holds. -/
def IsAddress (value : Json) (text : PyStr) : Prop :=
  ∃ s ip, value = .str s ∧ IpAddress.parse s = some ip ∧ text = ip.str

/-- `text` is the normalized form of the network that `value` holds. -/
def IsCidr (value : Json) (text : PyStr) : Prop :=
  ∃ s network, value = .str s ∧ IpNetwork.parse s = some network ∧ text = network.str

/-- How a listener was made. -/
structure IsListener (value : Json) (listener : Listener) : Prop where
  address : IsAddress (field value "address") listener.address
  allowedCidrs : List.Forall₂ IsCidr (items (field value "allowedCidrs")) listener.allowedCidrs

/-- How the rendered texts of a configuration were made. -/
structure Accepted (raw : Json) (config : Config) : Prop where
  listeners : List.Forall₂ IsListener (items (field (field raw "management") "listeners"))
    config.management.listeners
  allowZeroTier : field (field raw "management") "allowZeroTier"
    = .bool config.management.allowZeroTier
  zeroTierAddress : config.management.allowZeroTier = true →
    IsAddress (field (field raw "management") "zeroTierAddress") config.management.zeroTierAddress
  enabled : field (field raw "zerotier") "enabled" = .bool config.zerotier.enabled
  zerotier : IsAddress (field (field raw "zerotier") "bindAddress") config.zerotier.bindAddress
  exposure : field (field raw "controller") "exposure" = .str config.controller.exposure.text
  controller : IsAddress (field (field raw "controller") "bindAddress")
    config.controller.bindAddress
  relayServer : IsAddress (field (field raw "relayServer") "bindAddress")
    config.relayServer.bindAddress

/-! ## 3. The helpers -/

theorem requireDict_eq_ok {value : Json} {name : PyStr} {members : List (PyStr × Json)} :
    requireDict value name = .ok members ↔ value = .obj members := by
  cases value <;> simp [requireDict, fail]

theorem requireBool_eq_ok {value : Json} {name : PyStr} {b : Bool} :
    requireBool value name = .ok b ↔ value = .bool b := by
  cases value <;> simp [requireBool, fail]

theorem requireIp_eq_ok {value : Json} {name text : PyStr} :
    requireIp value name = .ok text ↔ IsAddress value text := by
  unfold requireIp IsAddress
  cases value with
  | str s => cases h : IpAddress.parse s <;> simp [fail, h, eq_comm]
  | _ => simp [fail]

theorem requireCidr_eq_ok {value : Json} {name text : PyStr} :
    requireCidr value name = .ok text ↔ IsCidr value text := by
  unfold requireCidr IsCidr
  cases value with
  | str s => cases h : IpNetwork.parse s <;> simp [h, eq_comm]
  | _ => simp [fail]

theorem requireCidrs_eq_ok {value : Json} {name : PyStr} {texts : List PyStr}
    (h : requireCidrs value name = .ok texts) : List.Forall₂ IsCidr (items value) texts := by
  unfold requireCidrs at h
  split at h
  · dsimp only at h
    split at h
    · cases h
    · exact (mapM_ok_iff.mp h).imp fun _ _ hc => requireCidr_eq_ok.mp hc
  · cases h

theorem requireChoice_eq_ok {α : Type} {choices : List (String × α)} {value : Json}
    {message : PyStr} {a : α} (h : requireChoice choices value message = .ok a) :
    ∃ c ∈ choices, value = .str (py c.1) ∧ a = c.2 := by
  unfold requireChoice at h
  split at h
  · rename_i s
    split at h
    · rename_i c hc
      cases h
      have hs := List.find?_some hc
      simp only [decide_eq_true_eq] at hs
      exact ⟨c, List.mem_of_find?_eq_some hc, by rw [hs], rfl⟩
    · cases h
  · split at h <;> cases h

/-- A member that is missing reads as the default, which is then what was accepted. -/
theorem field_of_getOr {members : List (PyStr × Json)} {key : String} {default value : Json}
    (h : getOr members key default = value) (hd : default ≠ value) :
    field (.obj members) key = value := by
  unfold getOr at h
  unfold field get getOr
  dsimp only
  cases hm : Json.member members (py key) with
  | none =>
    rw [hm] at h
    exact absurd h hd
  | some v =>
    rw [hm] at h
    exact h

theorem items_getOr_nil (members : List (PyStr × Json)) (key : String) :
    items (getOr members key (.arr [])) = items (field (.obj members) key) := by
  unfold field get getOr
  dsimp only
  cases Json.member members (py key) <;> rfl

/-! ## 4. The sections -/

theorem isListener_of_validateListener {item : Json} {index : Nat} {clean : List Listener}
    {result : Listener × List PyStr} (h : validateListener item index clean = .ok result) :
    IsListener item result.1 := by
  unfold validateListener at h
  obtain ⟨members, hm, h⟩ := bind_ok_iff.mp h
  obtain ⟨address, haddress, h⟩ := bind_ok_iff.mp h
  obtain ⟨port, -, h⟩ := bind_ok_iff.mp h
  obtain ⟨tlsMode, -, h⟩ := bind_ok_iff.mp h
  obtain ⟨allowed, hallowed, h⟩ := bind_ok_iff.mp h
  obtain ⟨-, -, h⟩ := bind_ok_iff.mp h
  obtain ⟨overlaps, -, h⟩ := bind_ok_iff.mp h
  obtain ⟨-, -, h⟩ := bind_ok_iff.mp h
  obtain ⟨ip, -, h⟩ := bind_ok_iff.mp h
  rw [← pure_eq_ok.mp h, requireDict_eq_ok.mp hm]
  exact ⟨requireIp_eq_ok.mp haddress, items_getOr_nil members _ ▸ requireCidrs_eq_ok hallowed⟩

theorem isListener_of_validateListeners : ∀ {rest : List Json} {index : Nat}
    {clean : List Listener} {warnings : List PyStr} {result : List Listener × List PyStr},
    validateListeners rest index clean warnings = .ok result →
      ∃ new, result.1 = clean ++ new ∧ List.Forall₂ IsListener rest new
  | [], index, clean, warnings, result, h => by
    cases h
    exact ⟨[], by simp, .nil⟩
  | item :: rest, index, clean, warnings, result, h => by
    obtain ⟨one, hone, h⟩ := bind_ok_iff.mp h
    obtain ⟨new, hnew, hrest⟩ := isListener_of_validateListeners h
    exact ⟨one.1 :: new, by rw [hnew]; simp, .cons (isListener_of_validateListener hone) hrest⟩

theorem accepted_zeroTierAddress {members : List (PyStr × Json)} {allowZt : Bool}
    {listeners : List Listener} {result : PyStr × PyStr × List PyStr}
    (h : validateZeroTierAccess members allowZt listeners = .ok result) (hallow : allowZt = true) :
    IsAddress (field (.obj members) "zeroTierAddress") result.2.1 := by
  unfold validateZeroTierAccess at h
  split at h
  · rename_i interface address _ haddress
    rw [if_pos hallow] at h
    obtain ⟨-, -, h⟩ := bind_ok_iff.mp h
    obtain ⟨text, htext, h⟩ := bind_ok_iff.mp h
    rw [← pure_eq_ok.mp h]
    have hip := requireIp_eq_ok.mp htext
    rw [field_of_getOr haddress]
    · exact hip
    · -- the default is the empty text, which is no address
      intro hempty
      obtain ⟨s, ip, hs, hparse, -⟩ := hip
      cases hempty
      cases hs
      cases hparse
  · cases h

/-- What the management section read. -/
theorem accepted_management {nfkc : PyStr → PyStr} {value : Json}
    {result : Management × List PyStr} (h : validateManagement nfkc value = .ok result) :
    List.Forall₂ IsListener (items (field value "listeners")) result.1.listeners ∧
    field value "allowZeroTier" = .bool result.1.allowZeroTier ∧
    (result.1.allowZeroTier = true →
      IsAddress (field value "zeroTierAddress") result.1.zeroTierAddress) := by
  unfold validateManagement at h
  obtain ⟨members, hm, h⟩ := bind_ok_iff.mp h
  obtain ⟨raw, hraw, h⟩ := bind_ok_iff.mp h
  obtain ⟨listeners, hlisteners, h⟩ := bind_ok_iff.mp h
  obtain ⟨url, -, h⟩ := bind_ok_iff.mp h
  obtain ⟨allowZt, hallow, h⟩ := bind_ok_iff.mp h
  obtain ⟨access, haccess, h⟩ := bind_ok_iff.mp h
  obtain ⟨age, -, h⟩ := bind_ok_iff.mp h
  obtain ⟨attempts, -, h⟩ := bind_ok_iff.mp h
  obtain ⟨lockout, -, h⟩ := bind_ok_iff.mp h
  rw [← pure_eq_ok.mp h, requireDict_eq_ok.mp hm]
  refine ⟨?_, requireBool_eq_ok.mp hallow, accepted_zeroTierAddress haccess⟩
  have hitems : items (get members "listeners") = raw := by
    unfold requireListeners at hraw
    split at hraw
    · rename_i list hlist
      split at hraw
      · cases hraw
        rw [hlist]
        rfl
      · cases hraw
    · cases hraw
  obtain ⟨new, hnew, hall⟩ := isListener_of_validateListeners hlisteners
  change List.Forall₂ IsListener (items (get members "listeners")) listeners.1
  rw [hitems, hnew]
  exact hall

theorem accepted_zerotier {value : Json} {result : ZeroTier}
    (h : validateZeroTier value = .ok result) :
    field value "enabled" = .bool result.enabled ∧
    IsAddress (field value "bindAddress") result.bindAddress := by
  unfold validateZeroTier at h
  obtain ⟨members, hm, h⟩ := bind_ok_iff.mp h
  obtain ⟨enabled, henabled, h⟩ := bind_ok_iff.mp h
  obtain ⟨address, haddress, h⟩ := bind_ok_iff.mp h
  obtain ⟨publicPort, -, h⟩ := bind_ok_iff.mp h
  obtain ⟨secondaryPort, -, h⟩ := bind_ok_iff.mp h
  obtain ⟨tertiaryPort, -, h⟩ := bind_ok_iff.mp h
  obtain ⟨allowSecondaryPort, -, h⟩ := bind_ok_iff.mp h
  obtain ⟨portMappingEnabled, -, h⟩ := bind_ok_iff.mp h
  obtain ⟨-, -, h⟩ := bind_ok_iff.mp h
  rw [← pure_eq_ok.mp h, requireDict_eq_ok.mp hm]
  exact ⟨requireBool_eq_ok.mp henabled, requireIp_eq_ok.mp haddress⟩

theorem accepted_controller {value : Json} {listeners : List Listener}
    {result : Controller × List PyStr} (h : validateController value listeners = .ok result) :
    field value "exposure" = .str result.1.exposure.text ∧
    IsAddress (field value "bindAddress") result.1.bindAddress := by
  unfold validateController at h
  obtain ⟨members, hm, h⟩ := bind_ok_iff.mp h
  obtain ⟨exposure, hexposure, h⟩ := bind_ok_iff.mp h
  obtain ⟨address, haddress, h⟩ := bind_ok_iff.mp h
  obtain ⟨port, -, h⟩ := bind_ok_iff.mp h
  rw [← pure_eq_ok.mp h, requireDict_eq_ok.mp hm]
  refine ⟨?_, requireIp_eq_ok.mp haddress⟩
  obtain ⟨c, hc, hvalue, rfl⟩ := requireChoice_eq_ok hexposure
  change get members "exposure" = _
  rw [hvalue]
  have htexts : ∀ c ∈ exposures, py c.1 = c.2.text := by decide
  rw [htexts c hc]

theorem accepted_relayServer {value : Json} {result : RelayServer × List PyStr}
    (h : validateRelayServer value = .ok result) :
    IsAddress (field value "bindAddress") result.1.bindAddress := by
  unfold validateRelayServer at h
  obtain ⟨members, hm, h⟩ := bind_ok_iff.mp h
  obtain ⟨enabled, -, h⟩ := bind_ok_iff.mp h
  obtain ⟨address, haddress, h⟩ := bind_ok_iff.mp h
  iterate 15
    obtain ⟨_, -, h⟩ := bind_ok_iff.mp h
  rw [← pure_eq_ok.mp h, requireDict_eq_ok.mp hm]
  exact requireIp_eq_ok.mp haddress

/-- What acceptance says about the whole configuration. -/
theorem accepted_of_validateConfig {nfkc : PyStr → PyStr} {raw : Json} {config : Config}
    {warnings : List PyStr} (h : validateConfig nfkc raw = .ok (config, warnings)) :
    Accepted raw config ∧ validateConflicts config = .ok () := by
  unfold validateConfig at h
  obtain ⟨root, hroot, h⟩ := bind_ok_iff.mp h
  obtain ⟨-, -, h⟩ := bind_ok_iff.mp h
  obtain ⟨management, hmanagement, h⟩ := bind_ok_iff.mp h
  obtain ⟨zerotier, hzerotier, h⟩ := bind_ok_iff.mp h
  obtain ⟨controller, hcontroller, h⟩ := bind_ok_iff.mp h
  obtain ⟨relay, hrelay, h⟩ := bind_ok_iff.mp h
  obtain ⟨client, -, h⟩ := bind_ok_iff.mp h
  obtain ⟨_, hconflicts, h⟩ := bind_ok_iff.mp h
  cases pure_eq_ok.mp h
  refine ⟨?_, hconflicts⟩
  rw [requireDict_eq_ok.mp hroot]
  obtain ⟨hlisteners, hallow, haddress⟩ := accepted_management hmanagement
  obtain ⟨henabled, hzt⟩ := accepted_zerotier hzerotier
  obtain ⟨hexposure, hct⟩ := accepted_controller hcontroller
  exact ⟨hlisteners, hallow, haddress, henabled, hzt, hexposure, hct,
    accepted_relayServer hrelay⟩

/-- The default configuration is accepted, and nothing in it is a risk. -/
theorem validateConfig_default :
    validateConfig id defaultConfig.toJson = .ok (defaultConfig, []) :=
  eq_ok_of_toOption (by decide +kernel)

/-- A configuration as a client may write it: four listeners, three ports, networks with host bits
and a relay behind a name. -/
def sampleRequest : Config where
  management := {
    publicUrl := py "https://Planet.example:3443/"
    listeners := [
      { address := py "127.0.0.1", port := 3443, tlsMode := .selfSigned, allowedCidrs := [] },
      { address := py "10.0.0.1", port := 3443, tlsMode := .files
        allowedCidrs := [py "10.1.2.3/8", py "192.168.0.0/16"] },
      { address := py "FD00:0::1", port := 8443, tlsMode := .selfSigned
        allowedCidrs := [py "fd00::7/8"] },
      { address := py "FE80::1%eth0", port := 8443, tlsMode := .files
        allowedCidrs := [py "fe80::/10", py "10.0.0.0/8"] }]
    allowZeroTier := true
    zeroTierInterface := py "zt0"
    zeroTierAddress := py "10.0.0.1"
    sessionMaxAgeSeconds := 3600
    loginAttempts := 3
    loginLockoutSeconds := 600 }
  zerotier := {
    enabled := true
    bindAddress := py "10.0.0.1"
    publicPort := 19993
    secondaryPort := 29993
    tertiaryPort := 39993
    allowSecondaryPort := true
    portMappingEnabled := false }
  controller := {
    exposure := .https
    bindAddress := py "127.0.0.1"
    port := 9993 }
  relayServer := {
    enabled := true
    bindAddress := py "10.0.0.1"
    port := 443
    allowedSourceCidrs := [py "10.1.2.3/8", py "172.16.0.0/12"]
    maxConnections := 64
    maxConnectionsPerIp := 2
    packetsPerSecond := 100
    bytesPerSecond := 65536
    globalPacketsPerSecond := 1000
    globalBytesPerSecond := 1048576
    handshakeTimeoutSeconds := 5
    idleTimeoutSeconds := 60
    maxDestinations := 32
    minDestinationPort := 9993 }
  relayClient := {
    mode := .customAuto
    host := py "Relay.Planet.Example."
    port := 443 }

/-- What is stored for it: the addresses, networks and the host in their normal form. -/
def sampleConfig : Config :=
  { sampleRequest with
    management := {
      sampleRequest.management with
      publicUrl := py "https://Planet.example:3443"
      listeners := [
        { address := py "127.0.0.1", port := 3443, tlsMode := .selfSigned, allowedCidrs := [] },
        { address := py "10.0.0.1", port := 3443, tlsMode := .files
          allowedCidrs := [py "10.0.0.0/8", py "192.168.0.0/16"] },
        { address := py "fd00::1", port := 8443, tlsMode := .selfSigned
          allowedCidrs := [py "fd00::/8"] },
        { address := py "fe80::1%eth0", port := 8443, tlsMode := .files
          allowedCidrs := [py "fe80::/10", py "10.0.0.0/8"] }] }
    relayServer := {
      sampleRequest.relayServer with
      allowedSourceCidrs := [py "10.0.0.0/8", py "172.16.0.0/12"] }
    relayClient := { sampleRequest.relayClient with host := py "relay.planet.example" } }

/-- It is accepted, and nothing in it is a risk. -/
theorem validateConfig_sample :
    validateConfig id sampleRequest.toJson = .ok (sampleConfig, []) :=
  eq_ok_of_toOption (by decide +kernel)

end ZtPlanet.Agent
