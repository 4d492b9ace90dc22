/-
# The relay's frames and its destination policy

A client record is a five-byte header followed by a frame: the byte 4, an IPv4 address, a port
and a payload.  `parseClientFrame` refuses a malformed frame with a protocol error and a
destination outside the policy with `destination`; `writeFrame` lays out a reply the same way.

The ranges of the policy are written as CIDR texts in the source and parsed at every call;
`blocked_valid` is the `expect("static CIDR is valid")` of that call.
-/
import ZtPlanet.Relay.Basic

namespace ZtPlanet.Relay

/-! ## 1. IPv4 CIDR texts -/

/-- `Ipv4Cidr`. -/
structure Ipv4Cidr where
  network : UInt32
  mask : UInt32
deriving DecidableEq

/-- The value of a run of decimal digits. -/
def digitsValue (digits : List Char) : Nat :=
  digits.foldl (fun n c => 10 * n + (c.toNat - '0'.toNat)) 0

/-- One octet as `Ipv4Addr::from_str` reads it: one to three digits, no leading zero. -/
def parseOctet (text : List Char) : Option Nat :=
  if text.all Char.isDigit ∧ 0 < text.length ∧ text.length ≤ 3 ∧
      (text.head? = some '0' → text.length = 1) ∧ digitsValue text ≤ 255 then
    some (digitsValue text)
  else none

/-- `Ipv4Addr::from_str`. -/
def parseIpv4Addr (text : List Char) : Option UInt32 :=
  match (text.splitOn '.').map parseOctet with
  | [some a, some b, some c, some d] =>
    some (UInt32.ofNat (((a * 256 + b) * 256 + c) * 256 + d))
  | _ => none

/-- `u8::from_str`: an optional plus sign and decimal digits, at most 255. -/
def parseU8 (text : List Char) : Option Nat :=
  let digits := if text.head? = some '+' then text.tail else text
  if digits.all Char.isDigit ∧ 0 < digits.length ∧ digitsValue digits ≤ 255 then
    some (digitsValue digits)
  else none

/-- The mask of a prefix length up to 32. -/
def prefixMask (length : Nat) : UInt32 :=
  if length = 0 then 0 else 0xFFFFFFFF <<< UInt32.ofNat (32 - length)

/-- `Ipv4Cidr::from_str`. -/
def Ipv4Cidr.fromStr (value : String) : Except String Ipv4Cidr :=
  let text := value.toList
  if '/' ∉ text then .error ("CIDR must include prefix: " ++ value)
  else
    match parseIpv4Addr (text.takeWhile (· ≠ '/')) with
    | none => .error ("invalid IPv4 CIDR: " ++ value)
    | some ip =>
      match parseU8 ((text.dropWhile (· ≠ '/')).tail) with
      | none => .error ("invalid CIDR prefix: " ++ value)
      | some length =>
        if length > 32 then .error ("CIDR prefix out of range: " ++ value)
        else .ok ⟨ip &&& prefixMask length, prefixMask length⟩

/-- `Ipv4Cidr::contains`. -/
def Ipv4Cidr.contains (cidr : Ipv4Cidr) (ip : UInt32) : Bool := ip &&& cidr.mask == cidr.network

/-! ## 2. The destination policy -/

/-- The ranges that `is_global_unicast` refuses. -/
def blocked : List String :=
  ["0.0.0.0/8", "10.0.0.0/8", "100.64.0.0/10", "127.0.0.0/8", "169.254.0.0/16", "172.16.0.0/12",
    "192.0.0.0/24", "192.0.2.0/24", "192.88.99.0/24", "192.168.0.0/16", "198.18.0.0/15",
    "198.51.100.0/24", "203.0.113.0/24", "224.0.0.0/4", "240.0.0.0/4"]

/-- Every range of the policy is a valid CIDR, so the call never panics. -/
theorem blocked_valid : ∀ cidr ∈ blocked, ∃ range, Ipv4Cidr.fromStr cidr = .ok range := by
  have h : blocked.all (fun cidr => (Ipv4Cidr.fromStr cidr).toOption.isSome) = true := by
    decide +kernel
  intro cidr hc
  have := List.all_eq_true.mp h cidr hc
  cases hr : Ipv4Cidr.fromStr cidr with
  | ok range => exact ⟨range, rfl⟩
  | error message => simp [hr, Except.toOption] at this

/-- `is_global_unicast`. -/
def isGlobalUnicast (ip : UInt32) : Bool :=
  !blocked.any fun cidr =>
    match Ipv4Cidr.fromStr cidr with
    | .ok range => range.contains ip
    | .error _ => false

/-! ## 3. Client frames -/

def headerLen : Nat := 5

def addressHeaderLen : Nat := 7

/-- `FrameError`. -/
inductive FrameError where
  | protocol (message : String)
  | destination
deriving DecidableEq

/-- `u16::from_be_bytes`. -/
def u16FromBeBytes (hi lo : UInt8) : Nat := hi.toNat * 256 + lo.toNat

/-- The four bytes of an IPv4 address, most significant first. -/
def ipv4FromBytes (a b c d : UInt8) : UInt32 :=
  UInt32.ofNat (((a.toNat * 256 + b.toNat) * 256 + c.toNat) * 256 + d.toNat)

/-- `parse_client_frame`. -/
def parseClientFrame (frame : List UInt8) (minDestinationPort : UInt16) :
    Except FrameError (SocketAddr × List UInt8) :=
  if frame.length < addressHeaderLen + 16 then
    .error (.protocol "ZeroTier payload is too short")
  else
    match frame with
    | tag :: a :: b :: c :: d :: hi :: lo :: payload =>
      if tag ≠ 4 then .error (.protocol "only IPv4 fallback is supported")
      else
        let ip := ipv4FromBytes a b c d
        let port := UInt16.ofNat (u16FromBeBytes hi lo)
        if !isGlobalUnicast ip || port < minDestinationPort then .error .destination
        else .ok (⟨.v4 ip, port⟩, payload)
    -- a frame of at least 23 bytes has the seven bytes of the pattern above
    | _ => .error (.protocol "ZeroTier payload is too short")

/-- The bytes of `Ipv4Addr::octets`. -/
def ipv4Octets (ip : UInt32) : List UInt8 :=
  [(ip >>> 24).toUInt8, (ip >>> 16).toUInt8, (ip >>> 8).toUInt8, ip.toUInt8]

/-- `write_frame`: the header and the payload that `write_all` is given, `none` for an IPv6
source, of which nothing is written. -/
def writeFrame (source : SocketAddr) (payload : List UInt8) :
    Except String (Option (List UInt8 × List UInt8)) :=
  match source.ip with
  | .v6 _ => .ok none
  | .v4 ip =>
    let frameLen := addressHeaderLen + payload.length
    if frameLen > 65535 then .error "UDP response too large"
    else
      .ok (some ([0x17, 0x03, 0x03, UInt8.ofNat (frameLen / 256), UInt8.ofNat (frameLen % 256), 4]
        ++ ipv4Octets ip ++ [UInt8.ofNat (source.port.toNat / 256), source.port.toUInt8], payload))

/-- A public destination is accepted, a private one is refused whatever its port. -/
example :
    parseClientFrame ([4, 1, 1, 1, 1, 0x27, 0x09] ++ List.replicate 16 0) 1025
      = .ok (⟨.v4 0x01010101, 9993⟩, List.replicate 16 0) ∧
    parseClientFrame ([4, 10, 0, 0, 1, 0x27, 0x09] ++ List.replicate 16 0) 1025
      = .error .destination := by decide +kernel

end ZtPlanet.Relay
