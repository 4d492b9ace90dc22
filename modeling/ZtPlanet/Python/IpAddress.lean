/-
# The `ipaddress` module

What the agent uses of CPython's `ipaddress`: `ip_address`, `ip_network`, the string of both, and
the predicates on addresses.  The definitions follow the library's own (strict decimal octets, the
rules for `::`, the `%scope` suffix of an IPv6 address, the compression of the longest run of
zero groups); a `ValueError` of any kind is `none`.

A scope is any non-empty text without another `%`, and `str` puts it back behind the address: the
library checks nothing else about it.  Masking off host bits drops it.
-/
import Mathlib.Algebra.Group.Nat.Defs
import ZtPlanet.Python.Text

namespace ZtPlanet.Python

/-! ## 1. Addresses -/

/-- `IPv4Address` or `IPv6Address`. -/
inductive IpAddress where
  | v4 (ip : BitVec 32)
  | v6 (ip : BitVec 128) (scopeId : Option PyStr)
deriving DecidableEq

namespace IpAddress

/-- `_parse_octet`. -/
def parseOctet (s : PyStr) : Option Nat :=
  if s = [] then none
  else if s.all isAsciiDigit = false then none
  else if s.length > 3 then none
  else if s ≠ py "0" ∧ s.head? = some (ch '0') then none
  else if ofDigits 10 s > 255 then none
  else some (ofDigits 10 s)

/-- `_BaseV4._ip_int_from_string`. -/
def ipv4FromString (s : PyStr) : Option (BitVec 32) :=
  match (split s (ch '.')).map parseOctet with
  | [some a, some b, some c, some d] => some (BitVec.ofNat 32 (((a * 256 + b) * 256 + c) * 256 + d))
  | _ => none

/-- `IPv4Address(s)`. -/
def ipv4Address (s : PyStr) : Option (BitVec 32) :=
  if ch '/' ∈ s then none else ipv4FromString s

/-- `_parse_hextet`. -/
def parseHextet (s : PyStr) : Option Nat :=
  if s.all isHexDigit = false then none
  else if s.length > 4 then none
  else if s = [] then none
  else some (ofDigits 16 s)

/-- A dotted tail is replaced by its two groups. -/
def expandDotted (parts : List PyStr) : Option (List PyStr) :=
  match parts.getLast? with
  | some tail =>
    if ch '.' ∈ tail then
      (ipv4Address tail).map fun ip =>
        parts.dropLast ++ [hexadecimal (ip.toNat / 65536), hexadecimal (ip.toNat % 65536)]
    else some parts
  | none => some parts

/-- The places of an empty part strictly inside. -/
def emptyInside (parts : List PyStr) : List Nat :=
  (List.range parts.length).filter fun i =>
    decide (1 ≤ i ∧ i + 1 < parts.length) && parts[i]? == some []

/-- The number that groups of 16 bits make. -/
def ofHextets (hextets : List Nat) : Nat := hextets.foldl (fun n h => n * 65536 + h) 0

/-- The groups before and after `skipped` zero groups. -/
def assemble (hi : List PyStr) (skipped : Nat) (lo : List PyStr) : Option (BitVec 128) :=
  match hi.mapM parseHextet, lo.mapM parseHextet with
  | some hi, some lo => some (BitVec.ofNat 128 (ofHextets (hi ++ List.replicate skipped 0 ++ lo)))
  | _, _ => none

/-- The second half of `_BaseV6._ip_int_from_string`: where the `::` is, and what it skips. -/
def ipv6FromParts (parts : List PyStr) : Option (BitVec 128) :=
  if parts.length > 9 then none
  else
    let startsEmpty := parts.head? = some []
    let endsEmpty := parts.getLast? = some []
    match emptyInside parts with
    | [] => if parts.length ≠ 8 ∨ startsEmpty ∨ endsEmpty then none else assemble parts 0 []
    | [skip] =>
      let hi := if startsEmpty then skip - 1 else skip
      let lo := if endsEmpty then parts.length - skip - 2 else parts.length - skip - 1
      -- a part that is empty at an end has to be next to the `::`
      if startsEmpty ∧ hi ≠ 0 then none
      else if endsEmpty ∧ lo ≠ 0 then none
      else if hi + lo > 7 then none
      else assemble (parts.take hi) (8 - (hi + lo)) (parts.drop (parts.length - lo))
    | _ => none

/-- `_BaseV6._ip_int_from_string`. -/
def ipv6FromString (s : PyStr) : Option (BitVec 128) :=
  let parts := split s (ch ':')
  if parts.length < 3 then none
  else
    match expandDotted parts with
    | none => none
    | some parts => ipv6FromParts parts

/-- `_split_scope_id`. -/
def splitScopeId (s : PyStr) : Option (PyStr × Option PyStr) :=
  match partition s (ch '%') with
  | (addr, none) => some (addr, none)
  | (addr, some scope) => if scope = [] ∨ ch '%' ∈ scope then none else some (addr, some scope)

/-- `IPv6Address(s)`. -/
def ipv6Address (s : PyStr) : Option (BitVec 128 × Option PyStr) :=
  if ch '/' ∈ s then none
  else
    match splitScopeId s with
    | none => none
    | some (addr, scope) => (ipv6FromString addr).map fun ip => (ip, scope)

/-- `ipaddress.ip_address(s)`. -/
def parse (s : PyStr) : Option IpAddress :=
  match ipv4Address s with
  | some ip => some (.v4 ip)
  | none => (ipv6Address s).map fun p => .v6 p.1 p.2

/-! ## 2. The text of an address -/

/-- The state of `_compress_hextets`: the best run of zero groups and the current one. -/
structure ZeroRun where
  bestStart : Nat
  bestLen : Nat
  start : Nat
  len : Nat
deriving DecidableEq

/-- One round of its loop. -/
def ZeroRun.next (run : ZeroRun) (index : Nat) (hextet : PyStr) : ZeroRun :=
  if hextet = py "0" then
    let start := if run.len = 0 then index else run.start
    let len := run.len + 1
    if len > run.bestLen then ⟨start, len, start, len⟩ else ⟨run.bestStart, run.bestLen, start, len⟩
  else ⟨run.bestStart, run.bestLen, 0, 0⟩

/-- Its loop. -/
def zeroRun : List PyStr → Nat → ZeroRun → ZeroRun
  | [], _, run => run
  | h :: hs, index, run => zeroRun hs (index + 1) (run.next index h)

/-- `_compress_hextets`. -/
def compressHextets (hextets : List PyStr) : List PyStr :=
  let run := zeroRun hextets 0 ⟨0, 0, 0, 0⟩
  if run.bestLen > 1 then
    let stop := run.bestStart + run.bestLen
    let tail := if stop = hextets.length then [[]] else hextets.drop stop
    let middle := hextets.take run.bestStart ++ [] :: tail
    if run.bestStart = 0 then [] :: middle else middle
  else hextets

/-- The eight groups of an IPv6 address. -/
def hextets (ip : BitVec 128) : List Nat :=
  (List.range 8).map fun i => ip.toNat / 65536 ^ (7 - i) % 65536

/-- `_BaseV4._string_from_ip_int`. -/
def ipv4Text (ip : BitVec 32) : PyStr :=
  join (py ".") ((List.range 4).map fun i => decimal (ip.toNat / 256 ^ (3 - i) % 256))

/-- `_BaseV6._string_from_ip_int`. -/
def ipv6Text (ip : BitVec 128) : PyStr :=
  join (py ":") (compressHextets ((hextets ip).map hexadecimal))

/-- What `str` appends for a scope. -/
def scopeText : Option PyStr → PyStr
  | none => []
  | some scope => ch '%' :: scope

/-- `str(address)`. -/
def str : IpAddress → PyStr
  | .v4 ip => ipv4Text ip
  | .v6 ip scope => ipv6Text ip ++ scopeText scope

/-! ## 3. Predicates -/

/-- `_ip_int_from_prefix`. -/
def netmask (w length : Nat) : BitVec w := BitVec.allOnes w ^^^ (BitVec.allOnes w >>> length)

/-- `address in network`. -/
def inNetwork {w : Nat} (ip : BitVec w) (network : BitVec w × Nat) : Bool :=
  ip &&& netmask w network.2 == network.1

def version : IpAddress → Nat
  | .v4 _ => 4
  | .v6 _ _ => 6

def isUnspecified : IpAddress → Bool
  | .v4 ip => ip == 0
  | .v6 ip _ => ip == 0

def isLoopback : IpAddress → Bool
  | .v4 ip => inNetwork ip (0x7F000000, 8)
  | .v6 ip _ => ip == 1

/-- `_IPv4Constants._private_networks`. -/
def privateNetworks4 : List (BitVec 32 × Nat) :=
  [(0x00000000, 8), (0x0A000000, 8), (0x7F000000, 8), (0xA9FE0000, 16), (0xAC100000, 12),
    (0xC0000000, 24), (0xC00000AA, 31), (0xC0000200, 24), (0xC0A80000, 16), (0xC6120000, 15),
    (0xC6336400, 24), (0xCB007100, 24), (0xF0000000, 4), (0xFFFFFFFF, 32)]

/-- `_IPv4Constants._private_networks_exceptions`. -/
def privateExceptions4 : List (BitVec 32 × Nat) := [(0xC0000009, 32), (0xC000000A, 32)]

/-- `_IPv6Constants._private_networks`. -/
def privateNetworks6 : List (BitVec 128 × Nat) :=
  [(1, 128), (0, 128), (0xFFFF00000000, 96), (0x0064FF9B0001 <<< 80, 48), (0x0100 <<< 112, 64),
    (0x2001 <<< 112, 23), (0x20010DB8 <<< 96, 32), (0x2002 <<< 112, 16), (0xFC00 <<< 112, 7),
    (0xFE80 <<< 112, 10)]

/-- `_IPv6Constants._private_networks_exceptions`. -/
def privateExceptions6 : List (BitVec 128 × Nat) :=
  [((0x20010001 <<< 96) + 1, 128), ((0x20010001 <<< 96) + 2, 128), (0x20010003 <<< 96, 32),
    (0x200100040112 <<< 80, 48), (0x20010020 <<< 96, 28), (0x20010030 <<< 96, 28)]

def isPrivate4 (ip : BitVec 32) : Bool :=
  privateNetworks4.any (inNetwork ip) && !privateExceptions4.any (inNetwork ip)

/-- `is_private`; an IPv4-mapped address takes the answer of the address it maps. -/
def isPrivate : IpAddress → Bool
  | .v4 ip => isPrivate4 ip
  | .v6 ip _ =>
    if ip.toNat / 2 ^ 32 = 0xFFFF then isPrivate4 (BitVec.ofNat 32 ip.toNat)
    else privateNetworks6.any (inNetwork ip) && !privateExceptions6.any (inNetwork ip)

end IpAddress

/-! ## 4. Networks -/

/-- `IPv4Network` or `IPv6Network`: the network address and the prefix length. -/
structure IpNetwork where
  address : IpAddress
  prefixLength : Nat
deriving DecidableEq

namespace IpNetwork

open IpAddress

/-- `sys.get_int_max_str_digits()`: `int` raises for a longer text. -/
def intMaxStrDigits : Nat := 4300

/-- `_prefix_from_prefix_string`. -/
def prefixFromString (s : PyStr) (maxLength : Nat) : Option Nat :=
  if s = [] ∨ s.all isAsciiDigit = false then none
  else if s.length > intMaxStrDigits then none
  else if ofDigits 10 s > maxLength then none
  else some (ofDigits 10 s)

/-- `_prefix_from_ip_int`: the prefix length whose mask `ip` is. -/
def prefixFromMask (ip : BitVec 32) : Option Nat :=
  (List.range 33).find? fun length => netmask 32 length == ip

/-- `_prefix_from_ip_string`: a dotted netmask or, failing that, hostmask. -/
def prefixFromDotted (s : PyStr) : Option Nat :=
  match ipv4FromString s with
  | none => none
  | some ip =>
    match prefixFromMask ip with
    | some length => some length
    | none => prefixFromMask (ip ^^^ BitVec.allOnes 32)

/-- `_split_addr_prefix`: the address and the mask, if there is one. -/
def splitAddrPrefix (s : PyStr) : Option (PyStr × Option PyStr) :=
  match split s (ch '/') with
  | [addr] => some (addr, none)
  | [addr, mask] => some (addr, some mask)
  | _ => none

/-- `IPv4Network(s, strict=False)`. -/
def ipv4Network (s : PyStr) : Option IpNetwork :=
  match splitAddrPrefix s with
  | none => none
  | some (addr, mask) =>
    match ipv4Address addr with
    | none => none
    | some ip =>
      let length := match mask with
        | none => some 32
        | some mask => (prefixFromString mask 32).or (prefixFromDotted mask)
      length.map fun length => ⟨.v4 (ip &&& netmask 32 length), length⟩

/-- `IPv6Network(s, strict=False)`: a network address with host bits is rebuilt from the number,
without its scope. -/
def ipv6Network (s : PyStr) : Option IpNetwork :=
  match splitAddrPrefix s with
  | none => none
  | some (addr, mask) =>
    match ipv6Address addr with
    | none => none
    | some (ip, scope) =>
      let length := match mask with
        | none => some 128
        | some mask => prefixFromString mask 128
      length.map fun length =>
        let masked := ip &&& netmask 128 length
        ⟨.v6 masked (if masked = ip then scope else none), length⟩

/-- `ipaddress.ip_network(s, strict=False)`. -/
def parse (s : PyStr) : Option IpNetwork := (ipv4Network s).or (ipv6Network s)

def version (n : IpNetwork) : Nat := n.address.version

/-- `str(network)`. -/
def str (n : IpNetwork) : PyStr := n.address.str ++ ch '/' :: decimal n.prefixLength

end IpNetwork

/-- A scope survives in an address, and in a network only if the host bits are zero. -/
example : (IpAddress.parse (py "FE80:0::1%et h")).map IpAddress.str = some (py "fe80::1%et h") ∧
    (IpNetwork.parse (py "fe80::%\x7b/64")).map IpNetwork.str = some (py "fe80::%\x7b/64") ∧
    (IpNetwork.parse (py "fe80::1%\x7b/64")).map IpNetwork.str = some (py "fe80::/64") := by
  decide +kernel

end ZtPlanet.Python
