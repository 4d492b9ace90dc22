/-
# The generated files

What `Agent.render` writes for a configuration: the environment file, ZeroTier's settings and
their subset for clients, the Caddyfile and the compose override.  The two renderers whose output
is read by another parser, `render_caddy` and `render_compose_override`, build a list of lines;
the lines are definitions of their own, so that statements about the shape of the output can name
them.
-/
import ZtPlanet.Agent.Validate

namespace ZtPlanet.Agent

open ZtPlanet.Python

/-! ## 1. The environment file -/

/-- `dotenv_escape`. -/
def dotenvEscape (value : PyStr) : Except PyError PyStr :=
  if value.any fun c => c.val == 10 || c.val == 13 || c.val == 0 then
    fail (py "environment value contains a prohibited character")
  else
    .ok (ch '\'' :: (value.flatMap fun c => if c = ch '\'' then py "'\"'\"'" else [c]) ++ py "'")

/-- `env_lines`, in the order of `sorted(env_lines.items())`. -/
def envLines (config : Config) : List (PyStr × PyStr) :=
  let management := config.management
  let zt := config.zerotier
  let controller := config.controller
  let relay := config.relayServer
  [(py "COMPOSE_PROFILES", if relay.enabled then py "relay" else []),
    (py "CONTROLLER_BIND_ADDRESS", controller.bindAddress),
    (py "CONTROLLER_EXPOSURE", controller.exposure.text),
    (py "CONTROLLER_PORT", decimal controller.port),
    (py "NEXTAUTH_SESSION_MAX_AGE", decimal management.sessionMaxAgeSeconds),
    (py "NEXTAUTH_URL", management.publicUrl),
    (py "RELAY_ALLOWED_CIDRS", join (py ",") relay.allowedSourceCidrs),
    (py "RELAY_BIND_ADDRESS", relay.bindAddress),
    (py "RELAY_BYTES_PER_SECOND", decimal relay.bytesPerSecond),
    (py "RELAY_GLOBAL_BYTES_PER_SECOND", decimal relay.globalBytesPerSecond),
    (py "RELAY_GLOBAL_PACKETS_PER_SECOND", decimal relay.globalPacketsPerSecond),
    (py "RELAY_HANDSHAKE_TIMEOUT_SECONDS", decimal relay.handshakeTimeoutSeconds),
    (py "RELAY_IDLE_TIMEOUT_SECONDS", decimal relay.idleTimeoutSeconds),
    (py "RELAY_MAX_CONNECTIONS", decimal relay.maxConnections),
    (py "RELAY_MAX_CONNECTIONS_PER_IP", decimal relay.maxConnectionsPerIp),
    (py "RELAY_MAX_DESTINATIONS", decimal relay.maxDestinations),
    (py "RELAY_MIN_DESTINATION_PORT", decimal relay.minDestinationPort),
    (py "RELAY_PACKETS_PER_SECOND", decimal relay.packetsPerSecond),
    (py "RELAY_PORT", decimal relay.port),
    (py "ZTPLANET_LOGIN_ATTEMPTS", decimal management.loginAttempts),
    (py "ZTPLANET_LOGIN_LOCKOUT_SECONDS", decimal management.loginLockoutSeconds),
    (py "ZT_BIND_ADDRESS", zt.bindAddress),
    (py "ZT_PUBLIC_PORT", decimal zt.publicPort)]

/-- The text of `stack.env`. -/
def stackEnv (config : Config) : Except PyError PyStr := do
  let lines ← (envLines config).mapM fun e => do
    let value ← dotenvEscape e.2
    return e.1 ++ ch '=' :: value ++ [ch '\n']
  return lines.flatten

/-! ## 2. ZeroTier's settings -/

/-- `local_settings`; a key that the source leaves out is `none`. -/
structure LocalSettings where
  primaryPort : Nat
  allowManagementFrom : List PyStr
  allowSecondaryPort : Bool
  portMappingEnabled : Bool
  allowTcpFallbackRelay : Bool
  forceTcpRelay : Bool
  secondaryPort : Option Nat
  tertiaryPort : Option Nat
  tcpFallbackRelay : Option PyStr
deriving DecidableEq

/-- The settings of `local.conf`. -/
def localSettings (config : Config) : LocalSettings :=
  let zt := config.zerotier
  let client := config.relayClient
  { primaryPort := 9993
    allowManagementFrom := [py "127.0.0.1", py "172.31.255.3/32"]
    allowSecondaryPort := zt.allowSecondaryPort
    portMappingEnabled := zt.portMappingEnabled
    allowTcpFallbackRelay := client.mode != .off
    forceTcpRelay := client.mode == .customForce
    secondaryPort := if zt.secondaryPort = 0 then none else some zt.secondaryPort
    tertiaryPort := if zt.tertiaryPort = 0 then none else some zt.tertiaryPort
    tcpFallbackRelay :=
      if client.mode = .customAuto ∨ client.mode = .customForce then
        some (client.host ++ ch '/' :: decimal client.port)
      else none }

/-- The settings of `client-local.conf`: the three keys a client needs. -/
structure ClientSettings where
  allowTcpFallbackRelay : Bool
  forceTcpRelay : Bool
  tcpFallbackRelay : Option PyStr
deriving DecidableEq

def clientSettings (s : LocalSettings) : ClientSettings :=
  ⟨s.allowTcpFallbackRelay, s.forceTcpRelay, s.tcpFallbackRelay⟩

/-! ## 3. The Caddyfile -/

/-- An address as it is written in front of a port: an IPv6 address in brackets. -/
def composeHost (address : PyStr) : PyStr :=
  if ch ':' ∈ address then ch '[' :: address ++ [ch ']'] else address

/-- The lines of the global block. -/
def globalLines : List PyStr := [py "\x7b", py "\tadmin off", py "\tauto_https off", py "\x7d"]

/-- The lines of the site block of one listener. -/
def siteLines (exposure : Exposure) (listener : Listener) : List PyStr :=
  [(if listener.tlsMode = .off then py "http" else py "https") ++ py "://" ++
      composeHost listener.address ++ ch ':' :: decimal listener.port ++ py " \x7b",
    py "\tbind " ++ listener.address] ++
  (match listener.tlsMode with
    | .selfSigned =>
      [py "\ttls /etc/ztplanet/tls/self-signed.crt /etc/ztplanet/tls/self-signed.key"]
    | .files => [py "\ttls /etc/ztplanet/tls/custom.crt /etc/ztplanet/tls/custom.key"]
    | .off => []) ++
  (if listener.allowedCidrs = [] then [] else
    [py "\t@blocked not remote_ip " ++ join (py " ") listener.allowedCidrs,
      py "\trespond @blocked 403"]) ++
  (if exposure = .https then
    [py "\thandle_path /controller-api/* \x7b", py "\t\treverse_proxy 172.31.255.2:9993",
      py "\t\x7d"]
    else []) ++
  [py "\theader \x7b", py "\t\t-Server", py "\t\tX-Content-Type-Options \"nosniff\"",
    py "\t\tX-Frame-Options \"DENY\"", py "\t\tReferrer-Policy \"no-referrer\"",
    py "\t\tPermissions-Policy \"camera=(), microphone=(), geolocation=()\"", py "\t\x7d"] ++
  (if listener.tlsMode = .off then [] else
    [py "\theader Strict-Transport-Security \"max-age=31536000\""]) ++
  [py "\treverse_proxy 127.0.0.1:3000", py "\x7d"]

/-- A block of lines as text, with a line feed behind each. -/
def blockText (lines : List PyStr) : PyStr := join (py "\n") lines ++ py "\n"

/-- `render_caddy`. -/
def renderCaddy (config : Config) : Except PyError PyStr := do
  let listeners ← effectiveManagementListeners config.management
  return join (py "\n")
    (blockText globalLines ::
      listeners.map fun l => blockText (siteLines config.controller.exposure l))

/-! ## 4. The compose override -/

/-- One published port mapping, quoted. -/
def portLine (address : PyStr) (hostPort containerPort : Nat) (protocol : String) : PyStr :=
  py "      - \"" ++ composeHost address ++ ch ':' :: decimal hostPort ++
    ch ':' :: decimal containerPort ++ py protocol ++ py "\""

/-- The mappings published for ZeroTier and the controller. -/
def zerotierPortLines (config : Config) : List PyStr :=
  let zt := config.zerotier
  let controller := config.controller
  (if zt.enabled then
    portLine zt.bindAddress zt.publicPort 9993 "/udp" ::
      ([zt.secondaryPort, zt.tertiaryPort].filter (· ≠ 0)).map fun port =>
        portLine zt.bindAddress port port "/udp"
    else []) ++
  (if controller.exposure = .direct then
    [portLine controller.bindAddress controller.port 9993 "/tcp"] else [])

/-- The lines of the override. -/
def composeLines (config : Config) : List PyStr :=
  [py "services:", py "  zerotier:"] ++
  (if zerotierPortLines config = [] then [py "    ports: !override []"]
    else py "    ports: !override" :: zerotierPortLines config) ++
  [py "    volumes:",
    py "      - /etc/ztplanet/generated/local.conf:/var/lib/zerotier-one/local.conf:ro",
    py "  gateway:",
    py "    volumes:",
    py "      - /etc/ztplanet/generated/Caddyfile:/etc/caddy/Caddyfile:ro",
    py "      - /etc/ztplanet/tls:/etc/ztplanet/tls:ro",
    py "  relay:",
    py "    ports: !override",
    portLine config.relayServer.bindAddress config.relayServer.port 4443 "/tcp"]

/-- `render_compose_override`. -/
def renderComposeOverride (config : Config) : PyStr := blockText (composeLines config)

/-- The override of the default configuration publishes ZeroTier and the relay. -/
example : (composeLines defaultConfig).length = 13 := by decide

end ZtPlanet.Agent
