/-
# `validate_config`

The validation of a configuration that a client sends, section by section, with the error texts
and the warnings of the source.  Each `validate…` function is the part of `validate_config` that
builds one section; `validateConfig` puts them together in the source's order and makes the
cross-section checks.

Addresses are kept as the normalized text that `str(ipaddress.ip_address(value))` gives and parsed
again where a predicate needs them, so those places can raise again.
-/
import ZtPlanet.Agent.Config
import ZtPlanet.Python.UrlParse

namespace ZtPlanet.Agent

open ZtPlanet.Python

/-! ## 1. Exceptions and lookups -/

/-- `raise` in an expression. -/
def fail {α : Type} (message : PyStr) : Except PyError α := .error (.validation message)

/-- `if condition: raise ValidationError(message)`. -/
def refuseIf (condition : Bool) (message : PyStr) : Except PyError Unit :=
  if condition then fail message else .ok ()

/-- `if condition and test: raise ValidationError(message)`. -/
def refuseWhen (condition : Bool) (test : Except PyError Bool) (message : PyStr) :
    Except PyError Unit :=
  if condition then do refuseIf (← test) message else .ok ()

/-- `any(f(x) for x in items)`, left to right and no further than the first that holds. -/
def anyOf {α : Type} (f : α → Except PyError Bool) : List α → Except PyError Bool
  | [] => .ok false
  | x :: xs => do
    if ← f x then return true
    anyOf f xs

/-- `members.get(key, default)`. -/
def getOr (members : List (PyStr × Json)) (key : String) (default : Json) : Json :=
  (Json.member members (py key)).getD default

/-- `members.get(key)`. -/
def get (members : List (PyStr × Json)) (key : String) : Json := getOr members key .null

/-- `ipaddress.ip_address(s)`. -/
def ipAddress (s : PyStr) : Except PyError IpAddress :=
  match IpAddress.parse s with
  | some ip => .ok ip
  | none => .error .valueError

/-! ## 2. The `require_*` helpers -/

/-- `require_dict`. -/
def requireDict (value : Json) (name : PyStr) : Except PyError (List (PyStr × Json)) :=
  match value with
  | .obj members => .ok members
  | _ => fail (name ++ py " must be an object")

/-- `require_bool`. -/
def requireBool (value : Json) (name : PyStr) : Except PyError Bool :=
  match value with
  | .bool b => .ok b
  | _ => fail (name ++ py " must be a boolean")

/-- `require_int`; all minimums are natural numbers. -/
def requireInt (value : Json) (name : PyStr) (minimum maximum : Nat) : Except PyError Nat :=
  let refusal := fail (name ++ py " must be an integer from " ++ decimal minimum ++ py " to "
    ++ decimal maximum)
  match value with
  | .int n => if minimum ≤ n ∧ n ≤ maximum then .ok n.toNat else refusal
  | _ => refusal

/-- `require_ip`. -/
def requireIp (value : Json) (name : PyStr) : Except PyError PyStr :=
  let refusal := fail (name ++ py " must be an IP address")
  match value with
  | .str s =>
    match IpAddress.parse s with
    | some ip => .ok ip.str
    | none => refusal
  | _ => refusal

/-- One entry of `require_cidrs`. -/
def requireCidr (item : Json) (name : PyStr) : Except PyError PyStr :=
  match item with
  | .str s =>
    match IpNetwork.parse s with
    | some network => .ok network.str
    | none => .error (.invalidCidr name s)
  | _ => fail (name ++ py " contains a non-string value")

/-- `require_cidrs`. -/
def requireCidrs (value : Json) (name : PyStr) : Except PyError (List PyStr) :=
  let refusal := fail (name ++ py " must be a list with at most 64 entries")
  match value with
  | .arr items =>
    if items.length > 64 then refusal else items.mapM fun item => requireCidr item name
  | _ => refusal

/-- A label of `SAFE_HOSTNAME`. -/
def isSafeLabel (label : PyStr) : Bool :=
  decide (1 ≤ label.length ∧ label.length ≤ 63) &&
  label.all (fun c => isAsciiAlnum c || c == ch '-') &&
  label.head?.any isAsciiAlnum && label.getLast?.any isAsciiAlnum

/-- `SAFE_HOSTNAME.fullmatch(value)`. -/
def isSafeHostname (value : PyStr) : Bool :=
  decide (1 ≤ value.length ∧ value.length ≤ 253) &&
  (split (if value.getLast? = some (ch '.') then value.dropLast else value) (ch '.')).all
    isSafeLabel

/-- `require_host`. -/
def requireHost (value : Json) (name : PyStr) : Except PyError PyStr :=
  let refusal := fail (name ++ py " must be a host name or IP address")
  match value with
  | .str s =>
    if s = [] ∨ s.length > 253 then refusal
    else
      match IpAddress.parse s with
      | some ip => .ok ip.str
      | none => if isSafeHostname s then .ok (lower (rstrip s (ch '.'))) else refusal
  | _ => refusal

/-- `if value not in {…}: raise ValidationError(message)`; an unhashable value raises
`TypeError`. -/
def requireChoice {α : Type} (choices : List (String × α)) (value : Json) (message : PyStr) :
    Except PyError α :=
  match value with
  | .str s =>
    match choices.find? fun c => py c.1 = s with
    | some c => .ok c.2
    | none => fail message
  | value => if value.hashable then fail message else .error .typeError

/-- `bindings_overlap`. -/
def bindingsOverlap (leftAddress : PyStr) (leftPort : Nat) (rightAddress : PyStr)
    (rightPort : Nat) : Except PyError Bool :=
  if leftPort ≠ rightPort then .ok false
  else do
    let left ← ipAddress leftAddress
    let right ← ipAddress rightAddress
    return left.version == right.version &&
      (left == right || left.isUnspecified || right.isUnspecified)

/-! ## 3. The management section -/

def tlsModes : List (String × TlsMode) :=
  [("off", .off), ("self-signed", .selfSigned), ("files", .files)]

/-- The warnings of one listener. -/
def listenerWarnings (ip : IpAddress) (shown : PyStr) (tlsMode : TlsMode) (allowed : List PyStr) :
    List PyStr :=
  let listener := py "management listener " ++ shown
  (if ip.isUnspecified then [listener ++ py " accepts every local interface"]
    else if !ip.isPrivate && !ip.isLoopback then [listener ++ py " is bound to a public address"]
    else []) ++
  (if tlsMode = .off then [listener ++ py " uses clear-text HTTP"] else []) ++
  (if allowed = [] ∧ ip.isLoopback = false then
    [listener ++ py " has no source CIDR restriction"] else [])

/-- One round of the loop over `management.listeners`; `clean` are the listeners before it. -/
def validateListener (item : Json) (index : Nat) (clean : List Listener) :
    Except PyError (Listener × List PyStr) := do
  let name := py "management.listeners[" ++ decimal index ++ py "]"
  let listener ← requireDict item name
  let address ← requireIp (get listener "address") (name ++ py ".address")
  let port ← requireInt (get listener "port") (name ++ py ".port") 1 65535
  let tlsMode ← requireChoice tlsModes (get listener "tlsMode") (name ++ py ".tlsMode is invalid")
  let allowed ← requireCidrs (getOr listener "allowedCidrs" (.arr [])) (name ++ py ".allowedCidrs")
  let shown := address ++ ch ':' :: decimal port
  refuseIf (clean.any fun l => l.address == address && l.port == port)
    (py "duplicate management listener " ++ shown)
  let overlaps ← anyOf (fun l => bindingsOverlap address port l.address l.port) clean
  refuseIf overlaps (py "management listener " ++ shown ++ py " overlaps another listener")
  let ip ← ipAddress address
  return (⟨address, port, tlsMode, allowed⟩, listenerWarnings ip shown tlsMode allowed)

/-- The loop over `management.listeners`. -/
def validateListeners : List Json → Nat → List Listener → List PyStr →
    Except PyError (List Listener × List PyStr)
  | [], _, clean, warnings => .ok (clean, warnings)
  | item :: rest, index, clean, warnings => do
    let (listener, new) ← validateListener item index clean
    validateListeners rest (index + 1) (clean ++ [listener]) (warnings ++ new)

/-- `parsed_url.port or (443 if https else 80)`. -/
def publicPort (url : ParseResult) : Except PyError Nat :=
  match url.port with
  | none => fail (py "management.publicUrl contains an invalid port")
  | some port =>
    match port with
    | some (n + 1) => .ok (n + 1)
    | _ => .ok (if url.scheme = py "https" then 443 else 80)

/-- The type and length check of `management.publicUrl`. -/
def requirePublicUrl (value : Json) : Except PyError PyStr :=
  match value with
  | .str s => if s.length > 512 then fail (py "management.publicUrl is invalid") else .ok s
  | _ => fail (py "management.publicUrl is invalid")

/-- `urlparse(url)`, whose `ValueError` nothing catches. -/
def parseUrl (nfkc : PyStr → PyStr) (url : PyStr) : Except PyError ParseResult :=
  match UrlParse.urlparse nfkc url with
  | some result => .ok result
  | none => .error .valueError

/-- The checks of `management.publicUrl` and their warnings. -/
def validatePublicUrl (nfkc : PyStr → PyStr) (value : Json) (listeners : List Listener) :
    Except PyError (PyStr × List PyStr) := do
  let publicUrl ← requirePublicUrl value
  let url ← parseUrl nfkc publicUrl
  refuseIf ((url.scheme != py "http" && url.scheme != py "https") || !url.hasHostname ||
      (url.path != [] && url.path != py "/"))
    (py "management.publicUrl must be an http(s) origin without a path")
  refuseIf (url.userinfo.1 != [] || url.userinfo.2 != [] || url.query != [] || url.fragment != [])
    (py "management.publicUrl must not contain credentials, query, or fragment")
  let port ← publicPort url
  return (rstrip publicUrl (ch '/'),
    (if listeners.any fun l => l.port == port then [] else
      [py "management.publicUrl port is not present in the configured management listeners"]) ++
    (if url.scheme = py "https" ∧
        (listeners.any fun l => l.port == port && l.tlsMode != .off) = false then
      [py "management.publicUrl uses HTTPS but no listener on that port has TLS"] else []))

/-- `SAFE_INTERFACE.fullmatch(value)`. -/
def isSafeInterface (value : PyStr) : Bool :=
  value.take 2 == py "zt" && decide (value.length ≤ 32) &&
  (value.drop 2).all fun c => isAsciiAlnum c || c == ch '_' || c == ch '-'

/-- The ZeroTier interface and address; both are checked only where the access is allowed. -/
def validateZeroTierAccess (management : List (PyStr × Json)) (allowZt : Bool)
    (listeners : List Listener) : Except PyError (PyStr × PyStr × List PyStr) := do
  match getOr management "zeroTierInterface" (.str []), getOr management "zeroTierAddress" (.str [])
    with
  | .str interface, .str address =>
    if allowZt then
      refuseIf (isSafeInterface interface = false)
        (py "management.zeroTierInterface must be a zt* interface name")
      let address ← requireIp (.str address) (py "management.zeroTierAddress")
      return (interface, address,
        if listeners.all fun l => l.address != address then
          [py "ZeroTier management access adds a listener inheriting the first listener's port, TLS and CIDR policy"]
        else [])
    else return (interface, address, [])
  | _, _ => fail (py "ZeroTier management interface and address must be strings")

/-- The list of listeners before any of them is looked at. -/
def requireListeners (value : Json) : Except PyError (List Json) :=
  match value with
  | .arr items =>
    if 1 ≤ items.length ∧ items.length ≤ 16 then .ok items
    else fail (py "management.listeners must contain 1 to 16 listeners")
  | _ => fail (py "management.listeners must contain 1 to 16 listeners")

/-- The management section. -/
def validateManagement (nfkc : PyStr → PyStr) (value : Json) :
    Except PyError (Management × List PyStr) := do
  let management ← requireDict value (py "management")
  let items ← requireListeners (get management "listeners")
  let (listeners, warnings₁) ← validateListeners items 0 [] []
  let (publicUrl, warnings₂) ← validatePublicUrl nfkc (get management "publicUrl") listeners
  let allowZt ← requireBool (get management "allowZeroTier") (py "management.allowZeroTier")
  let (interface, address, warnings₃) ← validateZeroTierAccess management allowZt listeners
  let sessionMaxAge ← requireInt (get management "sessionMaxAgeSeconds")
    (py "management.sessionMaxAgeSeconds") 900 28800
  let loginAttempts ← requireInt (get management "loginAttempts")
    (py "management.loginAttempts") 1 20
  let loginLockout ← requireInt (get management "loginLockoutSeconds")
    (py "management.loginLockoutSeconds") 60 86400
  return (⟨publicUrl, listeners, allowZt, interface, address, sessionMaxAge, loginAttempts,
    loginLockout⟩, warnings₁ ++ warnings₂ ++ warnings₃)

/-! ## 4. The other sections -/

/-- The ports that are configured and not zero, the public one first. -/
def ZeroTier.configuredPorts (z : ZeroTier) : List Nat :=
  z.publicPort :: [z.secondaryPort, z.tertiaryPort].filter (· ≠ 0)

/-- The zerotier section. -/
def validateZeroTier (value : Json) : Except PyError ZeroTier := do
  let zerotier ← requireDict value (py "zerotier")
  let enabled ← requireBool (get zerotier "enabled") (py "zerotier.enabled")
  let bindAddress ← requireIp (get zerotier "bindAddress") (py "zerotier.bindAddress")
  let publicPort ← requireInt (get zerotier "publicPort") (py "zerotier.publicPort") 1 65535
  let secondaryPort ← requireInt (getOr zerotier "secondaryPort" (.int 0))
    (py "zerotier.secondaryPort") 0 65535
  let tertiaryPort ← requireInt (getOr zerotier "tertiaryPort" (.int 0))
    (py "zerotier.tertiaryPort") 0 65535
  let allowSecondaryPort ← requireBool (get zerotier "allowSecondaryPort")
    (py "zerotier.allowSecondaryPort")
  let portMappingEnabled ← requireBool (get zerotier "portMappingEnabled")
    (py "zerotier.portMappingEnabled")
  let clean : ZeroTier := ⟨enabled, bindAddress, publicPort, secondaryPort, tertiaryPort,
    allowSecondaryPort, portMappingEnabled⟩
  refuseIf (decide (¬ clean.configuredPorts.Nodup))
    (py "ZeroTier public, secondary and tertiary UDP ports must be distinct")
  return clean

def exposures : List (String × Exposure) :=
  [("internal", .internal), ("direct", .direct), ("https", .https)]

/-- The controller section. -/
def validateController (value : Json) (listeners : List Listener) :
    Except PyError (Controller × List PyStr) := do
  let controller ← requireDict value (py "controller")
  let exposure ← requireChoice exposures (get controller "exposure")
    (py "controller.exposure is invalid")
  let bindAddress ← requireIp (get controller "bindAddress") (py "controller.bindAddress")
  let port ← requireInt (get controller "port") (py "controller.port") 1 65535
  return (⟨exposure, bindAddress, port⟩,
    (if exposure = .direct then
      [py "the token-authenticated Controller API is directly exposed without TLS"] else []) ++
    (if exposure = .https ∧ (listeners.any fun l => l.tlsMode == .off) = true then
      [py "Controller API proxy is also reachable over listeners where TLS is disabled"] else []))

/-- `ipaddress.ip_network(cidr).version != 4`. -/
def isNotIpv4Cidr (cidr : PyStr) : Except PyError Bool :=
  match IpNetwork.parse cidr with
  | some network => .ok (network.version != 4)
  | none => .error .valueError

/-- The relayServer section. -/
def validateRelayServer (value : Json) : Except PyError (RelayServer × List PyStr) := do
  let relay ← requireDict value (py "relayServer")
  let enabled ← requireBool (get relay "enabled") (py "relayServer.enabled")
  let bindAddress ← requireIp (get relay "bindAddress") (py "relayServer.bindAddress")
  let port ← requireInt (get relay "port") (py "relayServer.port") 1 65535
  let allowed ← requireCidrs (getOr relay "allowedSourceCidrs" (.arr []))
    (py "relayServer.allowedSourceCidrs")
  let maxConnections ← requireInt (get relay "maxConnections") (py "relayServer.maxConnections")
    1 4096
  let maxConnectionsPerIp ← requireInt (get relay "maxConnectionsPerIp")
    (py "relayServer.maxConnectionsPerIp") 1 256
  let packetsPerSecond ← requireInt (get relay "packetsPerSecond")
    (py "relayServer.packetsPerSecond") 1 100000
  let bytesPerSecond ← requireInt (get relay "bytesPerSecond") (py "relayServer.bytesPerSecond")
    1024 1073741824
  let globalPacketsPerSecond ← requireInt (get relay "globalPacketsPerSecond")
    (py "relayServer.globalPacketsPerSecond") 1 1000000
  let globalBytesPerSecond ← requireInt (get relay "globalBytesPerSecond")
    (py "relayServer.globalBytesPerSecond") 1024 10737418240
  let handshakeTimeout ← requireInt (get relay "handshakeTimeoutSeconds")
    (py "relayServer.handshakeTimeoutSeconds") 1 60
  let idleTimeout ← requireInt (get relay "idleTimeoutSeconds")
    (py "relayServer.idleTimeoutSeconds") 30 3600
  let maxDestinations ← requireInt (get relay "maxDestinations")
    (py "relayServer.maxDestinations") 1 1024
  let minDestinationPort ← requireInt (get relay "minDestinationPort")
    (py "relayServer.minDestinationPort") 1 65535
  let notIpv4 ← anyOf isNotIpv4Cidr allowed
  refuseIf notIpv4 (py "relayServer.allowedSourceCidrs currently supports IPv4 CIDRs only")
  let address ← ipAddress bindAddress
  return (⟨enabled, bindAddress, port, allowed, maxConnections, maxConnectionsPerIp,
      packetsPerSecond, bytesPerSecond, globalPacketsPerSecond, globalBytesPerSecond,
      handshakeTimeout, idleTimeout, maxDestinations, minDestinationPort⟩,
    (if enabled ∧ allowed = [] then
      [py "TCP relay accepts clients from any source and the protocol has no client authentication"]
      else []) ++
    (if enabled ∧ (address.isUnspecified || (!address.isPrivate && !address.isLoopback)) then
      [py "TCP relay is bound to a public or wildcard address"] else []))

def clientModes : List (String × ClientMode) :=
  [("off", .off), ("official-auto", .officialAuto), ("custom-auto", .customAuto),
    ("custom-force", .customForce)]

/-- The host of the relay client, checked only in the custom modes. -/
def requireClientHost (mode : ClientMode) (value : Json) : Except PyError PyStr :=
  if mode = .customAuto ∨ mode = .customForce then requireHost value (py "relayClient.host")
  else
    match value with
    | .str s => .ok s
    | _ => fail (py "relayClient.host must be a string")

/-- The relayClient section. -/
def validateRelayClient (value : Json) : Except PyError (RelayClient × List PyStr) := do
  let client ← requireDict value (py "relayClient")
  let mode ← requireChoice clientModes (get client "mode") (py "relayClient.mode is invalid")
  let host ← requireClientHost mode (getOr client "host" (.str []))
  let port ← requireInt (get client "port") (py "relayClient.port") 1 65535
  return (⟨mode, host, port⟩,
    if mode = .customForce then
      [py "forceTcpRelay disables direct UDP transmission and should normally be used only for testing"]
    else [])

/-! ## 5. The whole configuration -/

/-- `effective_management_listeners`, of the management section it reads. -/
def effectiveManagementListeners (management : Management) : Except PyError (List Listener) :=
  let listeners := management.listeners
  if management.allowZeroTier ∧ management.zeroTierAddress ≠ [] then do
    let selected ← ipAddress management.zeroTierAddress
    let covered ← anyOf (fun l =>
      if l.address = management.zeroTierAddress then .ok true
      else do
        let ip ← ipAddress l.address
        return ip.isUnspecified && ip.version == selected.version) listeners
    if covered then return listeners
    match listeners with
    | [] => .error .indexError
    | first :: _ => return listeners ++ [{ first with address := management.zeroTierAddress }]
  else .ok listeners

/-- The cross-section checks. -/
def validateConflicts (config : Config) : Except PyError Unit := do
  let controller := config.controller
  let relay := config.relayServer
  let listeners ← effectiveManagementListeners config.management
  refuseWhen relay.enabled
    (anyOf (fun l => bindingsOverlap relay.bindAddress relay.port l.address l.port) listeners)
    (py "TCP relay conflicts with a management listener")
  refuseWhen (controller.exposure == .direct)
    (anyOf (fun l => bindingsOverlap controller.bindAddress controller.port l.address l.port)
      listeners)
    (py "Controller API conflicts with a management listener")
  refuseWhen (relay.enabled && controller.exposure == .direct)
    (bindingsOverlap relay.bindAddress relay.port controller.bindAddress controller.port)
    (py "TCP relay conflicts with the directly exposed Controller API")

/-- The keys that a configuration must have, sorted as the refusal shows them. -/
def expectedKeys : List String :=
  ["controller", "management", "relayClient", "relayServer", "zerotier"]

/-- `set(root) != expected`. -/
def hasExpectedKeys (root : List (PyStr × Json)) : Bool :=
  (root.all fun m => expectedKeys.any fun k => m.1 == py k) &&
  expectedKeys.all fun k => root.any fun m => m.1 == py k

/-- `validate_config`: the configuration and the warnings. -/
def validateConfig (nfkc : PyStr → PyStr) (raw : Json) : Except PyError (Config × List PyStr) := do
  let root ← requireDict raw (py "config")
  refuseIf (hasExpectedKeys root = false)
    (py "config keys must be exactly: " ++ join (py ", ") (expectedKeys.map py))
  let (management, warnings₁) ← validateManagement nfkc (get root "management")
  let zerotier ← validateZeroTier (get root "zerotier")
  let (controller, warnings₂) ← validateController (get root "controller") management.listeners
  let (relay, warnings₃) ← validateRelayServer (get root "relayServer")
  let (client, warnings₄) ← validateRelayClient (get root "relayClient")
  let config : Config := ⟨management, zerotier, controller, relay, client⟩
  validateConflicts config
  return (config, warnings₁ ++ warnings₂ ++ warnings₃ ++ warnings₄)

end ZtPlanet.Agent
