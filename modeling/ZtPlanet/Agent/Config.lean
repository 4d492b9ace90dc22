/-
# The agent's configuration

The value that `validate_config` returns: five sections with every field present, every choice one
of its texts and every number inside its range.  The source keeps it as a `dict`; as a structure
its keys need no lookups, and what reads it reads the same values.

`defaultConfig` is `default_config()`, and `PyError` collects the exceptions that the agent's
functions raise, with the texts the source gives them.
-/
import ZtPlanet.Python.Json

namespace ZtPlanet.Agent

open ZtPlanet.Python

/-! ## 1. Exceptions -/

/-- An exception.  Where a text would need `repr` of a client's value, the value is kept. -/
inductive PyError where
  /-- `ValidationError(message)` -/
  | validation (message : PyStr)
  /-- `ValidationError(f"{name} contains invalid CIDR {item!r}")` -/
  | invalidCidr (name item : PyStr)
  /-- `ConflictError(f"revision changed from {expected} to {current}")` -/
  | conflict (expected : Json) (current : Nat)
  /-- a `ValueError` that is not a `ValidationError` -/
  | valueError
  /-- `TypeError: unhashable type` -/
  | typeError
  | attributeError
  | indexError
  | unicodeEncodeError
  | osError
  /-- `subprocess.CalledProcessError` or `subprocess.TimeoutExpired` -/
  | subprocessError
  /-- `RuntimeError(message)` -/
  | runtimeError (message : PyStr)

/-! ## 2. Choices -/

/-- `tlsMode`. -/
inductive TlsMode where
  | off
  | selfSigned
  | files
deriving DecidableEq

/-- `controller.exposure`. -/
inductive Exposure where
  | internal
  | direct
  | https
deriving DecidableEq

/-- `relayClient.mode`. -/
inductive ClientMode where
  | off
  | officialAuto
  | customAuto
  | customForce
deriving DecidableEq

def TlsMode.text : TlsMode → PyStr
  | .off => py "off"
  | .selfSigned => py "self-signed"
  | .files => py "files"

def Exposure.text : Exposure → PyStr
  | .internal => py "internal"
  | .direct => py "direct"
  | .https => py "https"

def ClientMode.text : ClientMode → PyStr
  | .off => py "off"
  | .officialAuto => py "official-auto"
  | .customAuto => py "custom-auto"
  | .customForce => py "custom-force"

/-! ## 3. Sections -/

structure Listener where
  address : PyStr
  port : Nat
  tlsMode : TlsMode
  allowedCidrs : List PyStr
deriving DecidableEq

structure Management where
  publicUrl : PyStr
  listeners : List Listener
  allowZeroTier : Bool
  zeroTierInterface : PyStr
  zeroTierAddress : PyStr
  sessionMaxAgeSeconds : Nat
  loginAttempts : Nat
  loginLockoutSeconds : Nat
deriving DecidableEq

structure ZeroTier where
  enabled : Bool
  bindAddress : PyStr
  publicPort : Nat
  secondaryPort : Nat
  tertiaryPort : Nat
  allowSecondaryPort : Bool
  portMappingEnabled : Bool
deriving DecidableEq

structure Controller where
  exposure : Exposure
  bindAddress : PyStr
  port : Nat
deriving DecidableEq

structure RelayServer where
  enabled : Bool
  bindAddress : PyStr
  port : Nat
  allowedSourceCidrs : List PyStr
  maxConnections : Nat
  maxConnectionsPerIp : Nat
  packetsPerSecond : Nat
  bytesPerSecond : Nat
  globalPacketsPerSecond : Nat
  globalBytesPerSecond : Nat
  handshakeTimeoutSeconds : Nat
  idleTimeoutSeconds : Nat
  maxDestinations : Nat
  minDestinationPort : Nat
deriving DecidableEq

structure RelayClient where
  mode : ClientMode
  host : PyStr
  port : Nat
deriving DecidableEq

structure Config where
  management : Management
  zerotier : ZeroTier
  controller : Controller
  relayServer : RelayServer
  relayClient : RelayClient
deriving DecidableEq

/-! ## 4. The default -/

/-- `default_config()`. -/
def defaultConfig : Config where
  management := {
    publicUrl := py "https://127.0.0.1:3443"
    listeners := [{
      address := py "127.0.0.1"
      port := 3443
      tlsMode := .selfSigned
      allowedCidrs := [] }]
    allowZeroTier := false
    zeroTierInterface := []
    zeroTierAddress := []
    sessionMaxAgeSeconds := 28800
    loginAttempts := 5
    loginLockoutSeconds := 900 }
  zerotier := {
    enabled := true
    bindAddress := py "0.0.0.0"
    publicPort := 9993
    secondaryPort := 0
    tertiaryPort := 0
    allowSecondaryPort := true
    portMappingEnabled := true }
  controller := {
    exposure := .internal
    bindAddress := py "127.0.0.1"
    port := 9993 }
  relayServer := {
    enabled := false
    bindAddress := py "0.0.0.0"
    port := 443
    allowedSourceCidrs := []
    maxConnections := 128
    maxConnectionsPerIp := 4
    packetsPerSecond := 200
    bytesPerSecond := 2097152
    globalPacketsPerSecond := 2000
    globalBytesPerSecond := 20971520
    handshakeTimeoutSeconds := 10
    idleTimeoutSeconds := 300
    maxDestinations := 64
    minDestinationPort := 1025 }
  relayClient := {
    mode := .off
    host := []
    port := 443 }

/-! ## 5. The configuration as a JSON value -/

/-- An object with the given members. -/
def object (members : List (String × Json)) : Json := .obj (members.map fun m => (py m.1, m.2))

def Listener.toJson (l : Listener) : Json := object [
  ("address", .str l.address),
  ("port", .int l.port),
  ("tlsMode", .str l.tlsMode.text),
  ("allowedCidrs", .arr (l.allowedCidrs.map .str))]

def Management.toJson (m : Management) : Json := object [
  ("publicUrl", .str m.publicUrl),
  ("listeners", .arr (m.listeners.map Listener.toJson)),
  ("allowZeroTier", .bool m.allowZeroTier),
  ("zeroTierInterface", .str m.zeroTierInterface),
  ("zeroTierAddress", .str m.zeroTierAddress),
  ("sessionMaxAgeSeconds", .int m.sessionMaxAgeSeconds),
  ("loginAttempts", .int m.loginAttempts),
  ("loginLockoutSeconds", .int m.loginLockoutSeconds)]

def ZeroTier.toJson (z : ZeroTier) : Json := object [
  ("enabled", .bool z.enabled),
  ("bindAddress", .str z.bindAddress),
  ("publicPort", .int z.publicPort),
  ("secondaryPort", .int z.secondaryPort),
  ("tertiaryPort", .int z.tertiaryPort),
  ("allowSecondaryPort", .bool z.allowSecondaryPort),
  ("portMappingEnabled", .bool z.portMappingEnabled)]

def Controller.toJson (c : Controller) : Json := object [
  ("exposure", .str c.exposure.text),
  ("bindAddress", .str c.bindAddress),
  ("port", .int c.port)]

def RelayServer.toJson (r : RelayServer) : Json := object [
  ("enabled", .bool r.enabled),
  ("bindAddress", .str r.bindAddress),
  ("port", .int r.port),
  ("allowedSourceCidrs", .arr (r.allowedSourceCidrs.map .str)),
  ("maxConnections", .int r.maxConnections),
  ("maxConnectionsPerIp", .int r.maxConnectionsPerIp),
  ("packetsPerSecond", .int r.packetsPerSecond),
  ("bytesPerSecond", .int r.bytesPerSecond),
  ("globalPacketsPerSecond", .int r.globalPacketsPerSecond),
  ("globalBytesPerSecond", .int r.globalBytesPerSecond),
  ("handshakeTimeoutSeconds", .int r.handshakeTimeoutSeconds),
  ("idleTimeoutSeconds", .int r.idleTimeoutSeconds),
  ("maxDestinations", .int r.maxDestinations),
  ("minDestinationPort", .int r.minDestinationPort)]

def RelayClient.toJson (c : RelayClient) : Json := object [
  ("mode", .str c.mode.text),
  ("host", .str c.host),
  ("port", .int c.port)]

/-- The `dict` that the source keeps for a configuration. -/
def Config.toJson (c : Config) : Json := object [
  ("management", c.management.toJson),
  ("zerotier", c.zerotier.toJson),
  ("controller", c.controller.toJson),
  ("relayServer", c.relayServer.toJson),
  ("relayClient", c.relayClient.toJson)]

end ZtPlanet.Agent
