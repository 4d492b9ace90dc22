/-
# Accepted values that cannot be stored

`validate_config` keeps some texts as they were sent: the public URL without its slashes, the
ZeroTier interface, the ZeroTier address and the host of the relay client where they are not used,
and the scope of every address.  `urlparse` drops line feeds, carriage returns and tabs before it
looks at the URL, and nothing looks at a scope, so some of these texts are refused by the writers.

`installs_iff` gives the exact condition on the JSON value: no kept text holds a lone surrogate, and
the four that reach the environment hold no line feed, carriage return or NUL.
-/
import ZtPlanet.Agent.Writable

namespace ZtPlanet.Agent

open ZtPlanet.Lib ZtPlanet.Python

/-! ## 1. The kept texts -/

/-- The text of a value, empty without one. -/
def textOf : Json → PyStr
  | .str s => s
  | _ => []

theorem textOf_getOr (members : List (PyStr × Json)) (key : String) :
    textOf (getOr members key (.str [])) = textOf (field (.obj members) key) := by
  unfold field get getOr
  dsimp only
  cases Json.member members (py key) <;> rfl

/-- A host that `require_host` has read: an address in its normal form, or a name. -/
def IsHost (value : Json) (text : PyStr) : Prop :=
  IsAddress value text ∨ addressScope value = [] ∧ ∀ c ∈ text, isAsciiAlnum c = true ∨
    c = ch '-' ∨ c = ch '.'

/-- Where the texts come from that no file but `config.json` and the environment needs. -/
structure Kept (raw : Json) (config : Config) : Prop where
  publicUrl : config.management.publicUrl =
    rstrip (textOf (field (field raw "management") "publicUrl")) (ch '/')
  zeroTierInterface : config.management.zeroTierInterface =
    textOf (field (field raw "management") "zeroTierInterface")
  zeroTierAddress : config.management.allowZeroTier = false →
    config.management.zeroTierAddress = textOf (field (field raw "management") "zeroTierAddress")
  mode : field (field raw "relayClient") "mode" = .str config.relayClient.mode.text
  customHost : config.relayClient.mode.isCustom →
    IsHost (field (field raw "relayClient") "host") config.relayClient.host
  host : ¬config.relayClient.mode.isCustom →
    config.relayClient.host = textOf (field (field raw "relayClient") "host")

/-! ## 2. What is kept -/

theorem isHost_of_requireHost {value : Json} {name text : PyStr}
    (h : requireHost value name = .ok text) : IsHost value text := by
  obtain ⟨s, rfl, h⟩ := requireHost_eq_ok h
  obtain ⟨-, -, ⟨ip, hip, rfl⟩ | ⟨hnone, hsafe, rfl⟩⟩ := requireHost_str_eq_ok.mp h
  · exact .inl ⟨s, ip, rfl, hip, rfl⟩
  · refine .inr ⟨?_, (isName_of_isSafeHostname hsafe).lower.mem⟩
    show ((IpAddress.parse s).map scopeOf).getD [] = []
    rw [hnone]
    rfl

theorem kept_access {members : List (PyStr × Json)} {allowZt : Bool} {listeners : List Listener}
    {result : PyStr × PyStr × List PyStr}
    (h : validateZeroTierAccess members allowZt listeners = .ok result) :
    result.1 = textOf (field (.obj members) "zeroTierInterface") ∧
      (allowZt = false → result.2.1 = textOf (field (.obj members) "zeroTierAddress")) := by
  unfold validateZeroTierAccess at h
  rw [← textOf_getOr, ← textOf_getOr]
  split at h
  · rename_i interface address hinterface haddress
    rw [hinterface, haddress]
    cases allowZt with
    | true =>
      rw [if_pos rfl] at h
      obtain ⟨_, -, h⟩ := bind_ok_iff.mp h
      obtain ⟨text, -, h⟩ := bind_ok_iff.mp h
      rw [← pure_eq_ok.mp h]
      exact ⟨rfl, fun hallow => absurd hallow (by decide)⟩
    | false =>
      rw [if_neg (by decide)] at h
      rw [← pure_eq_ok.mp h]
      exact ⟨rfl, fun _ => rfl⟩
  · cases h

theorem kept_management {nfkc : PyStr → PyStr} {value : Json} {result : Management × List PyStr}
    (h : validateManagement nfkc value = .ok result) :
    result.1.publicUrl = rstrip (textOf (field value "publicUrl")) (ch '/') ∧
    result.1.zeroTierInterface = textOf (field value "zeroTierInterface") ∧
    (result.1.allowZeroTier = false →
      result.1.zeroTierAddress = textOf (field value "zeroTierAddress")) := by
  unfold validateManagement at h
  obtain ⟨members, hm, h⟩ := bind_ok_iff.mp h
  obtain ⟨raw, -, h⟩ := bind_ok_iff.mp h
  obtain ⟨listeners, -, h⟩ := bind_ok_iff.mp h
  obtain ⟨url, hurl, h⟩ := bind_ok_iff.mp h
  obtain ⟨allowZt, -, h⟩ := bind_ok_iff.mp h
  obtain ⟨access, haccess, h⟩ := bind_ok_iff.mp h
  obtain ⟨age, -, h⟩ := bind_ok_iff.mp h
  obtain ⟨attempts, -, h⟩ := bind_ok_iff.mp h
  obtain ⟨lockout, -, h⟩ := bind_ok_iff.mp h
  obtain ⟨hinterface, haddress⟩ := kept_access haccess
  obtain ⟨s, parsed, port, hvalue, -, -, -, -, rfl⟩ := validatePublicUrl_eq_ok.mp hurl
  rw [← pure_eq_ok.mp h, requireDict_eq_ok.mp hm]
  refine ⟨?_, hinterface, haddress⟩
  rw [show field (.obj members) "publicUrl" = .str s from hvalue]
  rfl

theorem kept_relayClient {value : Json} {result : RelayClient × List PyStr}
    (h : validateRelayClient value = .ok result) :
    field value "mode" = .str result.1.mode.text ∧
    (result.1.mode.isCustom → IsHost (field value "host") result.1.host) ∧
    (¬result.1.mode.isCustom → result.1.host = textOf (field value "host")) := by
  unfold validateRelayClient at h
  obtain ⟨members, hm, h⟩ := bind_ok_iff.mp h
  obtain ⟨mode, hmode, h⟩ := bind_ok_iff.mp h
  obtain ⟨host, hhost, h⟩ := bind_ok_iff.mp h
  obtain ⟨port, -, h⟩ := bind_ok_iff.mp h
  rw [← pure_eq_ok.mp h, requireDict_eq_ok.mp hm]
  refine ⟨?_, ?_, ?_⟩
  · obtain ⟨c, hc, hvalue, rfl⟩ := requireChoice_eq_ok hmode
    have htexts : ∀ c ∈ clientModes, py c.1 = c.2.text := by decide
    exact hvalue.trans (congrArg Json.str (htexts c hc))
  · intro (hcustom : mode = .customAuto ∨ mode = .customForce)
    unfold requireClientHost at hhost
    rw [if_pos hcustom] at hhost
    obtain ⟨s, hs, hrequired⟩ := requireHost_eq_ok hhost
    have hfield : field (.obj members) "host" = .str s := by
      refine field_of_getOr hs ?_
      intro hempty
      cases hempty
      exact (requireHost_str_eq_ok.mp hrequired).1 rfl
    rw [hfield, ← hs]
    exact isHost_of_requireHost hhost
  · intro (hcustom : ¬(mode = .customAuto ∨ mode = .customForce))
    unfold requireClientHost at hhost
    rw [if_neg hcustom] at hhost
    rw [← textOf_getOr]
    split at hhost
    · rename_i s hs
      rw [hs]
      exact (Except.ok.inj hhost).symm
    · cases hhost

theorem kept_of_validateConfig {nfkc : PyStr → PyStr} {raw : Json} {config : Config}
    {warnings : List PyStr} (h : validateConfig nfkc raw = .ok (config, warnings)) :
    Kept raw config := by
  unfold validateConfig at h
  obtain ⟨root, hroot, h⟩ := bind_ok_iff.mp h
  obtain ⟨-, -, h⟩ := bind_ok_iff.mp h
  obtain ⟨management, hmanagement, h⟩ := bind_ok_iff.mp h
  obtain ⟨zerotier, -, h⟩ := bind_ok_iff.mp h
  obtain ⟨controller, -, h⟩ := bind_ok_iff.mp h
  obtain ⟨relay, -, h⟩ := bind_ok_iff.mp h
  obtain ⟨client, hclient, h⟩ := bind_ok_iff.mp h
  obtain ⟨_, -, h⟩ := bind_ok_iff.mp h
  cases pure_eq_ok.mp h
  rw [requireDict_eq_ok.mp hroot]
  obtain ⟨hurl, hinterface, haddress⟩ := kept_management hmanagement
  obtain ⟨hmode, hcustom, hhost⟩ := kept_relayClient hclient
  exact ⟨hurl, hinterface, haddress, hmode, hcustom, hhost⟩

/-! ## 3. Properties of the characters -/

section

variable {P : CodePoint → Prop}

theorem forall_mem_rstrip {s : PyStr} {c : CodePoint} (hc : P c) :
    (∀ x ∈ rstrip s c, P x) ↔ ∀ x ∈ s, P x := by
  have hparts : s = rstrip s c ++ (s.reverse.takeWhile (· = c)).reverse := by
    unfold rstrip
    rw [← List.reverse_append, List.takeWhile_append_dropWhile, List.reverse_reverse]
  constructor
  · intro h x hx
    rw [hparts] at hx
    rcases List.mem_append.mp hx with hx | hx
    · exact h x hx
    · have heq := List.mem_takeWhile_imp (List.mem_reverse.mp hx)
      rw [decide_eq_true_eq.mp heq]
      exact hc
  · intro h x hx
    refine h x ?_
    rw [hparts]
    exact List.mem_append_left _ hx

theorem IsAddress.forall_iff {value : Json} {text : PyStr} (h : IsAddress value text)
    (hP : ∀ c, IsPlain c → P c) : (∀ c ∈ text, P c) ↔ ∀ c ∈ addressScope value, P c := by
  obtain ⟨s, ip, rfl, hip, rfl⟩ := h
  simp only [addressScope, hip, Option.map_some, Option.getD_some, forall_mem_str hP]

theorem IsCidr.forall_iff {value : Json} {text : PyStr} (h : IsCidr value text)
    (hP : ∀ c, IsPlain c → P c) : (∀ c ∈ text, P c) ↔ ∀ c ∈ cidrScope value, P c := by
  obtain ⟨s, network, rfl, hn, rfl⟩ := h
  simp only [cidrScope, hn, Option.map_some, Option.getD_some, forall_mem_networkStr hP]

/-- A relay's networks are IPv4 and have no scope. -/
theorem RelayServer.Valid.forall_cidrs {r : RelayServer} (h : r.Valid)
    (hP : ∀ c, IsPlain c → P c) : ∀ cidr ∈ r.allowedSourceCidrs, ∀ c ∈ cidr, P c := by
  intro cidr hcidr
  obtain ⟨network, hn, rfl⟩ := h.allowedSourceCidrs.2 cidr hcidr
  have hversion := h.ipv4 _ hcidr
  unfold isNotIpv4Cidr at hversion
  rw [hn] at hversion
  rw [forall_mem_networkStr hP]
  obtain ⟨address, length⟩ := network
  cases address with
  | v4 ip => exact fun c hc => by cases hc
  | v6 ip scope => cases hversion

end

theorem encodable_of_isPlain (c : CodePoint) (h : IsPlain c) : encodable [c] = true := by
  rcases h with h | h
  · simp only [isHexDigit, isAsciiDigit, Bool.or_eq_true, Bool.and_eq_true, decide_eq_true_eq] at h
    simp [encodable]
    omega
  · have hall : ((py ".:%/").all fun c => encodable [c]) = true := by decide
    exact List.all_eq_true.mp hall c h

theorem envSafe_of_isPlain (c : CodePoint) (h : IsPlain c) :
    c.val ≠ 10 ∧ c.val ≠ 13 ∧ c.val ≠ 0 := by
  rcases h with h | h
  · simp only [isHexDigit, isAsciiDigit, Bool.or_eq_true, Bool.and_eq_true, decide_eq_true_eq] at h
    omega
  · have hall : ((py ".:%/").all fun c => c.val != 10 && c.val != 13 && c.val != 0) = true := by
      decide
    have := List.all_eq_true.mp hall c h
    simp only [Bool.and_eq_true, bne_iff_ne, and_assoc] at this
    exact this

/-! ## 4. The condition -/

/-- A text that `dotenv_escape` and the encoding let through. -/
def Fits (s : PyStr) : Prop := encodable s = true ∧ EnvSafe s

/-- Every kept text is encodable, and those of the environment hold no refused character. -/
structure Storable (raw : Json) : Prop where
  publicUrl : Fits (textOf (field (field raw "management") "publicUrl"))
  zerotier : Fits (addressScope (field (field raw "zerotier") "bindAddress"))
  controller : Fits (addressScope (field (field raw "controller") "bindAddress"))
  relayServer : Fits (addressScope (field (field raw "relayServer") "bindAddress"))
  zeroTierInterface :
    encodable (textOf (field (field raw "management") "zeroTierInterface")) = true
  usedAddress : field (field raw "management") "allowZeroTier" = .bool true →
    encodable (addressScope (field (field raw "management") "zeroTierAddress")) = true
  unusedAddress : field (field raw "management") "allowZeroTier" = .bool false →
    encodable (textOf (field (field raw "management") "zeroTierAddress")) = true
  usedHost : ∀ mode : ClientMode, mode.isCustom →
    field (field raw "relayClient") "mode" = .str mode.text →
    encodable (addressScope (field (field raw "relayClient") "host")) = true
  unusedHost : ∀ mode : ClientMode, ¬mode.isCustom →
    field (field raw "relayClient") "mode" = .str mode.text →
    encodable (textOf (field (field raw "relayClient") "host")) = true
  listeners : ∀ l ∈ items (field (field raw "management") "listeners"),
    encodable (addressScope (field l "address")) = true ∧
      ∀ cidr ∈ items (field l "allowedCidrs"), encodable (cidrScope cidr) = true

theorem ClientMode.text_injective : Function.Injective ClientMode.text := by
  intro a b h
  cases a <;> cases b <;> first | rfl | exact absurd h (by decide)

theorem IsAddress.encodable_iff {value : Json} {text : PyStr} (h : IsAddress value text) :
    encodable text = true ↔ encodable (addressScope value) = true := by
  rw [Agent.encodable_iff, Agent.encodable_iff, h.forall_iff encodable_of_isPlain]

theorem IsCidr.encodable_iff {value : Json} {text : PyStr} (h : IsCidr value text) :
    encodable text = true ↔ encodable (cidrScope value) = true := by
  rw [Agent.encodable_iff, Agent.encodable_iff, h.forall_iff encodable_of_isPlain]

theorem IsHost.encodable_iff {value : Json} {text : PyStr} (h : IsHost value text) :
    encodable text = true ↔ encodable (addressScope value) = true := by
  rcases h with h | ⟨hscope, hname⟩
  · exact h.encodable_iff
  · rw [hscope]
    refine iff_of_true (Agent.encodable_iff.mpr fun c hc => ?_) rfl
    rcases hname c hc with h | rfl | rfl
    · simp only [isAsciiAlnum, isAsciiDigit, isAsciiLetter, Bool.or_eq_true, Bool.and_eq_true,
        decide_eq_true_eq] at h
      simp [encodable]
      omega
    · decide
    · decide

theorem IsAddress.fits_iff {value : Json} {text : PyStr} (h : IsAddress value text) :
    Fits text ↔ Fits (addressScope value) :=
  and_congr h.encodable_iff (h.forall_iff envSafe_of_isPlain)

/-- Of the values of the environment, only the public URL and the addresses can be refused. -/
theorem envSafe_envLines_iff {config : Config} (hr : config.relayServer.Valid) :
    (∀ e ∈ envLines config, EnvSafe e.2) ↔
      EnvSafe config.management.publicUrl ∧ EnvSafe config.zerotier.bindAddress ∧
        EnvSafe config.controller.bindAddress ∧ EnvSafe config.relayServer.bindAddress := by
  have hnumber (n : Nat) : EnvSafe (decimal n) := forall_mem_decimal envSafe_of_isPlain n
  have hcidrs : EnvSafe (join (py ",") config.relayServer.allowedSourceCidrs) := by
    intro c hc
    rcases mem_join hc with hc | ⟨cidr, hcidr, hc⟩
    · rw [List.mem_singleton.mp hc]
      decide
    · exact hr.forall_cidrs envSafe_of_isPlain cidr hcidr c hc
  have hconstant {s : PyStr}
      (h : (s.all fun c => c.val != 10 && c.val != 13 && c.val != 0) = true) :
      EnvSafe s := by
    intro c hc
    have := List.all_eq_true.mp h c hc
    simp only [Bool.and_eq_true, bne_iff_ne, and_assoc] at this
    exact this
  have hprofiles : EnvSafe (if config.relayServer.enabled then py "relay" else []) := by
    split <;> exact hconstant (by decide)
  have hexposure : EnvSafe config.controller.exposure.text := by
    cases config.controller.exposure <;> exact hconstant (by decide)
  simp only [envLines, List.forall_mem_cons, hnumber, hcidrs, hprofiles, hexposure, true_and]
  constructor
  · rintro ⟨hcontroller, hurl, hrelay, hzerotier, -⟩
    exact ⟨hurl, hzerotier, hcontroller, hrelay⟩
  · rintro ⟨hurl, hzerotier, hcontroller, hrelay⟩
    exact ⟨hcontroller, hurl, hrelay, hzerotier, fun e he => by cases he⟩

/-- The ZeroTier address is read as an address where the access is allowed. -/
theorem zeroTierAddress_encodable_iff {raw : Json} {config : Config} (hacc : Accepted raw config)
    (hkept : Kept raw config) : encodable config.management.zeroTierAddress = true ↔
      (field (field raw "management") "allowZeroTier" = .bool true →
        encodable (addressScope (field (field raw "management") "zeroTierAddress")) = true) ∧
      (field (field raw "management") "allowZeroTier" = .bool false →
        encodable (textOf (field (field raw "management") "zeroTierAddress")) = true) := by
  rw [hacc.allowZeroTier]
  cases hallow : config.management.allowZeroTier with
  | true =>
    rw [(hacc.zeroTierAddress hallow).encodable_iff]
    simp
  | false =>
    rw [hkept.zeroTierAddress hallow]
    simp

/-- The host of the relay client is read as one in the custom modes. -/
theorem host_encodable_iff {raw : Json} {config : Config} (hkept : Kept raw config) :
    encodable config.relayClient.host = true ↔
      (∀ mode : ClientMode, mode.isCustom →
        field (field raw "relayClient") "mode" = .str mode.text →
        encodable (addressScope (field (field raw "relayClient") "host")) = true) ∧
      (∀ mode : ClientMode, ¬mode.isCustom →
        field (field raw "relayClient") "mode" = .str mode.text →
        encodable (textOf (field (field raw "relayClient") "host")) = true) := by
  have hmode (mode : ClientMode) : field (field raw "relayClient") "mode" = .str mode.text ↔
      mode = config.relayClient.mode := by
    rw [hkept.mode, Json.str.injEq, ClientMode.text_injective.eq_iff, eq_comm]
  simp only [hmode]
  by_cases hcustom : config.relayClient.mode.isCustom
  · rw [(hkept.customHost hcustom).encodable_iff]
    constructor
    · intro h
      refine ⟨fun _ _ _ => h, ?_⟩
      rintro _ hnot rfl
      exact absurd hcustom hnot
    · exact fun h => h.1 _ hcustom rfl
  · rw [hkept.host hcustom]
    constructor
    · intro h
      refine ⟨?_, fun _ _ _ => h⟩
      rintro _ hcustom' rfl
      exact absurd hcustom' hcustom
    · exact fun h => h.2 _ hcustom rfl

/-- The texts of an accepted configuration; those of the relay's networks are addresses. -/
theorem encodable_texts_iff {config : Config} (hr : config.relayServer.Valid) :
    (∀ t ∈ config.texts, encodable t = true) ↔
      encodable config.management.publicUrl = true ∧
      encodable config.management.zeroTierInterface = true ∧
      encodable config.management.zeroTierAddress = true ∧
      encodable config.zerotier.bindAddress = true ∧
      encodable config.controller.bindAddress = true ∧
      encodable config.relayServer.bindAddress = true ∧
      encodable config.relayClient.host = true ∧
      ∀ l ∈ config.management.listeners,
        encodable l.address = true ∧ ∀ c ∈ l.allowedCidrs, encodable c = true := by
  have hcidrs : ∀ c ∈ config.relayServer.allowedSourceCidrs, encodable c = true := fun c hc =>
    encodable_iff.mpr (hr.forall_cidrs encodable_of_isPlain c hc)
  simp only [Config.texts, List.forall_mem_append, List.forall_mem_cons, List.forall_mem_flatMap,
    List.not_mem_nil, false_imp_iff, implies_true, true_and, and_assoc]
  rw [and_iff_left hcidrs]

/-- The URL is kept but for slashes at its end. -/
theorem fits_rstrip_slash (s : PyStr) : Fits (rstrip s (ch '/')) ↔ Fits s := by
  have hslash : IsPlain (ch '/') := .inr (by decide)
  refine and_congr ?_ (forall_mem_rstrip (envSafe_of_isPlain _ hslash))
  rw [encodable_iff, encodable_iff, forall_mem_rstrip (encodable_of_isPlain _ hslash)]

/-- What the writers ask of a configuration, asked of the value it was made from. -/
theorem storable_iff {nfkc : PyStr → PyStr} {raw : Json} {config : Config} {warnings : List PyStr}
    (h : validateConfig nfkc raw = .ok (config, warnings)) :
    ((∀ t ∈ config.texts, encodable t = true) ∧ ∀ e ∈ envLines config, EnvSafe e.2) ↔
      Storable raw := by
  obtain ⟨hvalid, -⟩ := valid_of_validateConfig h
  obtain ⟨hacc, -⟩ := accepted_of_validateConfig h
  have hkept := kept_of_validateConfig h
  have hurl : Fits config.management.publicUrl ↔
      Fits (textOf (field (field raw "management") "publicUrl")) := by
    rw [hkept.publicUrl]
    exact fits_rstrip_slash _
  have hlisteners : (∀ l ∈ config.management.listeners,
      encodable l.address = true ∧ ∀ c ∈ l.allowedCidrs, encodable c = true) ↔
      ∀ l ∈ items (field (field raw "management") "listeners"),
        encodable (addressScope (field l "address")) = true ∧
          ∀ cidr ∈ items (field l "allowedCidrs"), encodable (cidrScope cidr) = true :=
    forall_mem_iff_of_forall₂ (fun _ _ hl => and_congr hl.address.encodable_iff
      (forall_mem_iff_of_forall₂ (fun _ _ hc => hc.encodable_iff) hl.allowedCidrs)) hacc.listeners
  rw [encodable_texts_iff hvalid.relayServer, envSafe_envLines_iff hvalid.relayServer, hlisteners,
    hkept.zeroTierInterface, zeroTierAddress_encodable_iff hacc hkept, host_encodable_iff hkept]
  constructor
  · rintro ⟨⟨url, interface, address, zerotier, controller, relay, host, listeners⟩, urlSafe,
      zerotierSafe, controllerSafe, relaySafe⟩
    exact {
      publicUrl := hurl.mp ⟨url, urlSafe⟩
      zerotier := hacc.zerotier.fits_iff.mp ⟨zerotier, zerotierSafe⟩
      controller := hacc.controller.fits_iff.mp ⟨controller, controllerSafe⟩
      relayServer := hacc.relayServer.fits_iff.mp ⟨relay, relaySafe⟩
      zeroTierInterface := interface
      usedAddress := address.1
      unusedAddress := address.2
      usedHost := host.1
      unusedHost := host.2
      listeners := listeners }
  · intro hs
    obtain ⟨url, urlSafe⟩ := hurl.mpr hs.publicUrl
    obtain ⟨zerotier, zerotierSafe⟩ := hacc.zerotier.fits_iff.mpr hs.zerotier
    obtain ⟨controller, controllerSafe⟩ := hacc.controller.fits_iff.mpr hs.controller
    obtain ⟨relay, relaySafe⟩ := hacc.relayServer.fits_iff.mpr hs.relayServer
    exact ⟨⟨url, hs.zeroTierInterface, ⟨hs.usedAddress, hs.unusedAddress⟩, zerotier, controller,
      relay, ⟨hs.usedHost, hs.unusedHost⟩, hs.listeners⟩, urlSafe, zerotierSafe, controllerSafe,
      relaySafe⟩

/-! ## 5. Storing an accepted configuration -/

/-- Where no file operation fails, the configuration is written to `config.json` and rendered. -/
def InstallsAlways (host : Host) (config : Config) : Prop :=
  ∀ plan phase revision updatedAt s, Plan.Installs plan phase →
    (Prog.exec (handle host plan) (install phase ⟨revision, updatedAt, config⟩) s).1 = .ok ()

/-- **An accepted value is stored and rendered exactly if its kept texts are encodable and those of
the environment hold no line feed, carriage return or NUL.** -/
theorem installs_iff {host : Host} {raw : Json} {config : Config} {warnings : List PyStr}
    (h : validateConfig host.nfkc raw = .ok (config, warnings)) :
    InstallsAlways host config ↔ Storable raw := by
  obtain ⟨hvalid, -⟩ := valid_of_validateConfig h
  rw [← storable_iff h]
  constructor
  · intro hinstalls
    have hcalm : (calm []).Installs .forward := ⟨⟨fun _ _ => rfl, rfl, fun _ => rfl⟩, fun _ => rfl⟩
    exact (exec_install_ok_iff (e := ⟨1, [], config⟩) hvalid.management hcalm (blank [])).mp
      (hinstalls _ _ _ _ _ hcalm)
  · intro hwritable plan phase revision updatedAt s hplan
    exact (exec_install_ok_iff (e := ⟨revision, updatedAt, config⟩) hvalid.management hplan s).mpr
      hwritable

/-- Stored are the normal forms of what was sent. -/
theorem installs_sample :
    InstallsAlways exampleHost sampleConfig ↔ Storable sampleRequest.toJson :=
  installs_iff validateConfig_sample

/-- The default configuration with a line feed behind the public URL. -/
def withLineFeed : Config :=
  { defaultConfig with
    management := { defaultConfig.management with publicUrl := py "https://127.0.0.1:3443\n" } }

/-- The line feed is accepted and then refused by `dotenv_escape`. -/
theorem line_feed_not_installed : ∃ raw config warnings,
    validateConfig exampleHost.nfkc raw = .ok (config, warnings) ∧
      ¬InstallsAlways exampleHost config := by
  have haccepted : (validateConfig id withLineFeed.toJson).toOption = some (withLineFeed, []) := by
    decide +kernel
  have hconfig := eq_ok_of_toOption haccepted
  refine ⟨_, _, _, hconfig, fun hinstalls => ?_⟩
  obtain ⟨hvalid, -⟩ := valid_of_validateConfig hconfig
  have hcalm : (calm []).Installs .forward := ⟨⟨fun _ _ => rfl, rfl, fun _ => rfl⟩, fun _ => rfl⟩
  have hwritten := (exec_install_ok_iff (e := ⟨1, [], withLineFeed⟩) hvalid.management hcalm
    (blank [])).mp (hinstalls _ _ _ _ _ hcalm)
  have hurl := ((envSafe_envLines_iff hvalid.relayServer).mp hwritten.2).1
  have hlast : (10 : CodePoint) ∈ withLineFeed.management.publicUrl := by decide
  exact (hurl 10 hlast).1 rfl

end ZtPlanet.Agent
