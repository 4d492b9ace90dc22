/-
# The relay's settings

`Config::from_env` reads the environment with the parsers of the standard library: unsigned
integers, socket addresses and, for the source networks, a list separated by commas.  The readers
here take a list of characters; those that stop somewhere return what is left.

An address is read by the library's own descent: groups with their separators, an IPv4 address where
two groups fit, and one `::`.  A scope is read and dropped, as nothing uses it.
-/
import ZtPlanet.Relay.Frame

namespace ZtPlanet.Relay

/-! ## 1. Unsigned integers -/

/-- `ParseIntError`, as far as an unsigned type has one. -/
inductive ParseIntError where
  | empty
  | invalidDigit
  | posOverflow
deriving DecidableEq

/-- Its `Display`. -/
def ParseIntError.text : ParseIntError → String
  | .empty => "cannot parse integer from empty string"
  | .invalidDigit => "invalid digit found in string"
  | .posOverflow => "number too large to fit in target type"

/-- The loop of `from_str` behind the sign; `max` is the largest value of the type. -/
def parseDigits (max : Nat) : List Char → Nat → Except ParseIntError Nat
  | [], n => .ok n
  | c :: cs, n =>
    if c.isDigit = false then .error .invalidDigit
    else if 10 * n + (c.toNat - '0'.toNat) > max then .error .posOverflow
    else parseDigits max cs (10 * n + (c.toNat - '0'.toNat))

/-- `from_str` of an unsigned integer type. -/
def parseUnsigned (max : Nat) (text : List Char) : Except ParseIntError Nat :=
  match text with
  | [] => .error .empty
  | ['+'] => .error .invalidDigit
  | '+' :: digits => parseDigits max digits 0
  | digits => parseDigits max digits 0

/-! ## 2. Socket addresses -/

/-- `char::to_digit`. -/
def toDigit (radix : Nat) (c : Char) : Option Nat :=
  let value :=
    if c.isDigit then some (c.toNat - '0'.toNat)
    else if 'a' ≤ c ∧ c ≤ 'f' then some (c.toNat - 'a'.toNat + 10)
    else if 'A' ≤ c ∧ c ≤ 'F' then some (c.toNat - 'A'.toNat + 10)
    else none
  value.filter (· < radix)

/-- `read_number`: as many digits as there are, no more than `maxDigits`, with a value of the type
whose largest is `max`. -/
def readNumber (radix : Nat) (maxDigits : Option Nat) (allowZeroPrefix : Bool) (max : Nat)
    (text : List Char) : Option (Nat × List Char) :=
  let digits := text.takeWhile fun c => (toDigit radix c).isSome
  let value := digits.foldl (fun n c => n * radix + (toDigit radix c).getD 0) 0
  if digits = [] then none
  else if maxDigits.any (· < digits.length) then none
  else if allowZeroPrefix = false ∧ text.head? = some '0' ∧ 1 < digits.length then none
  else if value > max then none
  else some (value, text.dropWhile fun c => (toDigit radix c).isSome)

/-- `read_given_char`. -/
def readGivenChar (c : Char) (text : List Char) : Option (List Char) :=
  match text with
  | d :: rest => if d = c then some rest else none
  | [] => none

/-- `read_separator`: the separator stands before every element but the first. -/
def readSeparator (c : Char) (first : Bool) (text : List Char) : Option (List Char) :=
  if first then some text else readGivenChar c text

/-- The rest of an address of which `groups` are still to be read. -/
def readOctets : (groups : Nat) → (first : Bool) → Nat → List Char → Option (Nat × List Char)
  | 0, _, n, text => some (n, text)
  | groups + 1, first, n, text => do
    let text ← readSeparator '.' first text
    let (octet, text) ← readNumber 10 (some 3) false 255 text
    readOctets groups false (n * 256 + octet) text

/-- `read_ipv4_addr`. -/
def readIpv4Addr (text : List Char) : Option (UInt32 × List Char) :=
  (readOctets 4 true 0 text).map fun r => (UInt32.ofNat r.1, r.2)

/-- `read_groups`: up to `limit` groups, whether they end with an IPv4 address, and the rest. -/
def readGroups : (limit : Nat) → (first : Bool) → List Char → List Nat × Bool × List Char
  | 0, _, text => ([], false, text)
  | limit + 1, first, text =>
    match readSeparator ':' first text with
    | none => ([], false, text)
    | some body =>
      -- an embedded address takes two groups
      match if 0 < limit then readIpv4Addr body else none with
      | some (ip, rest) => ([ip.toNat / 65536, ip.toNat % 65536], true, rest)
      | none =>
        match readNumber 16 (some 4) true 65535 body with
        | none => ([], false, text)
        | some (group, rest) =>
          let (groups, ipv4, rest) := readGroups limit false rest
          (group :: groups, ipv4, rest)

/-- The address that eight groups make. -/
def ipv6FromGroups (groups : List Nat) : BitVec 128 :=
  BitVec.ofNat 128 (groups.foldl (fun n g => n * 65536 + g) 0)

/-- `read_ipv6_addr`. -/
def readIpv6Addr (text : List Char) : Option (BitVec 128 × List Char) :=
  let (head, headIpv4, rest) := readGroups 8 true text
  if head.length = 8 then some (ipv6FromGroups head, rest)
  else if headIpv4 then none
  else
    match rest with
    | ':' :: ':' :: rest =>
      let (tail, _, rest) := readGroups (8 - (head.length + 1)) true rest
      let zeros := List.replicate (8 - head.length - tail.length) 0
      some (ipv6FromGroups (head ++ zeros ++ tail), rest)
    | _ => none

/-- `read_port`. -/
def readPort (text : List Char) : Option (UInt16 × List Char) := do
  let text ← readGivenChar ':' text
  let (port, text) ← readNumber 10 none true 65535 text
  return (UInt16.ofNat port, text)

/-- `read_scope_id`, and what follows it. -/
def skipScopeId (text : List Char) : List Char :=
  match text with
  | '%' :: rest =>
    match readNumber 10 none true (2 ^ 32 - 1) rest with
    | some (_, rest) => rest
    | none => text
  | text => text

/-- `read_socket_addr_v4`. -/
def readSocketAddrV4 (text : List Char) : Option (SocketAddr × List Char) := do
  let (ip, text) ← readIpv4Addr text
  let (port, text) ← readPort text
  return (⟨.v4 ip, port⟩, text)

/-- `read_socket_addr_v6`. -/
def readSocketAddrV6 (text : List Char) : Option (SocketAddr × List Char) := do
  let text ← readGivenChar '[' text
  let (ip, text) ← readIpv6Addr text
  let text ← readGivenChar ']' (skipScopeId text)
  let (port, text) ← readPort text
  return (⟨.v6 ip, port⟩, text)

/-- `SocketAddr::from_str`: nothing may be left. -/
def SocketAddr.fromStr (text : String) : Except String SocketAddr :=
  match (readSocketAddrV4 text.toList).or (readSocketAddrV6 text.toList) with
  | some (address, []) => .ok address
  | _ => .error "invalid socket address syntax"

/-! ## 3. The environment -/

/-- `char::is_whitespace`. -/
def isWhitespace (c : Char) : Bool :=
  let n := c.toNat
  (9 ≤ n && n ≤ 13) || n == 0x20 || n == 0x85 || n == 0xA0 || n == 0x1680 ||
    (0x2000 ≤ n && n ≤ 0x200A) || n == 0x2028 || n == 0x2029 || n == 0x202F || n == 0x205F ||
    n == 0x3000

/-- `str::trim`. -/
def trim (text : List Char) : List Char :=
  ((text.dropWhile isWhitespace).reverse.dropWhile isWhitespace).reverse

/-- `env_value`; `env` is `env::var`, `none` where it fails. -/
def envValue (env : String → Option String) (name default : String) : String :=
  (env name).getD default

/-- `env_number`, for a type whose largest value is `max`. -/
def envNumber (env : String → Option String) (name : String) (max default : Nat) :
    Except String Nat :=
  match parseUnsigned max (envValue env name (toString default)).toList with
  | .ok n => .ok n
  | .error e => .error (name ++ " is invalid: " ++ e.text)

/-- A socket address from the environment. -/
def envSocketAddr (name value : String) : Except String SocketAddr :=
  match SocketAddr.fromStr value with
  | .ok address => .ok address
  | .error e => .error (name ++ " must be an IP socket address: " ++ e)

/-- The list of source networks. -/
def envCidrs (env : String → Option String) (name : String) : Except String (List Ipv4Cidr) :=
  (((envValue env name "").toList.splitOn ',').filter fun v => trim v ≠ []).mapM fun v =>
    Ipv4Cidr.fromStr (String.ofList (trim v))

/-- `u16::MAX`. -/
def u16Max : Nat := 2 ^ 16 - 1

/-- The whole `Config` of the source: what the accept loop reads, and the limits.  Durations are
seconds. -/
structure Settings where
  listen : SocketAddr
  metricsListen : Option SocketAddr
  allowedSources : List Ipv4Cidr
  handshakeTimeout : Nat
  idleTimeout : Nat
  limits : Config
deriving DecidableEq

/-- `Config::from_env`, on a machine whose `usize` has 64 bits. -/
def Settings.fromEnv (env : String → Option String) : Except String Settings := do
  let listen ← envSocketAddr "RELAY_LISTEN" (envValue env "RELAY_LISTEN" "0.0.0.0:4443")
  let metricsRaw := envValue env "RELAY_METRICS_LISTEN" "0.0.0.0:9090"
  let metricsListen ←
    if trim metricsRaw.toList = [] then .ok none
    else (envSocketAddr "RELAY_METRICS_LISTEN" metricsRaw).map some
  let allowedSources ← envCidrs env "RELAY_ALLOWED_CIDRS"
  let maxConnections ← envNumber env "RELAY_MAX_CONNECTIONS" u64Max 128
  let maxConnectionsPerIp ← envNumber env "RELAY_MAX_CONNECTIONS_PER_IP" u64Max 4
  let handshakeTimeout ← envNumber env "RELAY_HANDSHAKE_TIMEOUT_SECONDS" u64Max 10
  let idleTimeout ← envNumber env "RELAY_IDLE_TIMEOUT_SECONDS" u64Max 300
  let packetsPerSecond ← envNumber env "RELAY_PACKETS_PER_SECOND" u64Max 200
  let bytesPerSecond ← envNumber env "RELAY_BYTES_PER_SECOND" u64Max 2097152
  let globalPacketsPerSecond ← envNumber env "RELAY_GLOBAL_PACKETS_PER_SECOND" u64Max 2000
  let globalBytesPerSecond ← envNumber env "RELAY_GLOBAL_BYTES_PER_SECOND" u64Max 20971520
  let maxDestinations ← envNumber env "RELAY_MAX_DESTINATIONS" u64Max 64
  let minDestinationPort ← envNumber env "RELAY_MIN_DESTINATION_PORT" u16Max 1025
  let maxFrameLen ← envNumber env "RELAY_MAX_FRAME_LENGTH" u64Max 4096
  if maxConnections = 0 ∨ maxConnectionsPerIp = 0 ∨ maxDestinations = 0 ∨
      maxFrameLen < addressHeaderLen + 16 ∨ maxFrameLen > u16Max then
    .error "relay limits must be positive and frame length must be 23..65535"
  else
    .ok ⟨listen, metricsListen, allowedSources, handshakeTimeout, idleTimeout,
      ⟨maxConnections, maxConnectionsPerIp, packetsPerSecond, bytesPerSecond,
        globalPacketsPerSecond, globalBytesPerSecond, maxDestinations,
        UInt16.ofNat minDestinationPort, maxFrameLen⟩⟩

/-- The settings of an empty environment. -/
def Settings.default : Settings where
  listen := ⟨.v4 0, 4443⟩
  metricsListen := some ⟨.v4 0, 9090⟩
  allowedSources := []
  handshakeTimeout := 10
  idleTimeout := 300
  limits := Config.default

example : (Settings.fromEnv fun _ => none).toOption = some Settings.default := by decide +kernel

/-- Addresses of both families are read, and nothing else. -/
example : (SocketAddr.fromStr "[::1%7]:90").toOption = some ⟨.v6 1, 90⟩ ∧
    (SocketAddr.fromStr "[1::2:1.2.3.4]:0").toOption =
      some ⟨.v6 0x00010000000000000000000201020304, 0⟩ ∧
    (SocketAddr.fromStr "01.2.3.4:5").toOption = none := by
  decide +kernel

/-! ## 4. Sources -/

/-- `Ipv6Addr::to_ipv4_mapped`. -/
def toIpv4Mapped (ip : BitVec 128) : Option UInt32 :=
  if ip.toNat / 2 ^ 32 = 0xFFFF then some (UInt32.ofNat ip.toNat) else none

/-- `source_allowed`. -/
def sourceAllowed (ip : IpAddr) (allowed : List Ipv4Cidr) : Bool :=
  if allowed = [] then true
  else
    match ip with
    | .v4 ip => allowed.any fun cidr => cidr.contains ip
    | .v6 ip =>
      match toIpv4Mapped ip with
      | some v4 => allowed.any fun cidr => cidr.contains v4
      | none => false

end ZtPlanet.Relay
