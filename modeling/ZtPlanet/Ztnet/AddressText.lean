/-
# Addresses, as the routers read them

The routers take addresses, pools and targets as texts.  They ask the `ip-address` package whether a
text is an address, and then do their own arithmetic on its parts: `split`, `parseInt`, shifts.  The
package is a parameter here, and `AddressPackage.Sound` says what is relied on: an IPv4 text
consists of four decimal octets, behind which the length of a prefix may stand, and an IPv6 text has
a colon.

`addressOf` is the address that a text denotes, `networkOf` the network.  What the arithmetic of the
routers makes of a text is compared with them later; it starts with the octets (`parseInt_parts`).
-/
import ZtPlanet.Js.Number
import ZtPlanet.Lib.Prefix
import ZtPlanet.Python.NetworkCover

namespace ZtPlanet.Ztnet

open ZtPlanet.Lib ZtPlanet.Python ZtPlanet.Python.IpAddress ZtPlanet.Js

/-! ## 1. Octets -/

/-- The octets of an IPv4 address. -/
def octets (n : BitVec 32) : List (BitVec 8) :=
  [n.extractLsb' 24 8, n.extractLsb' 16 8, n.extractLsb' 8 8, n.extractLsb' 0 8]

/-- The address that four octets make. -/
def ofOctets (a b c d : BitVec 8) : BitVec 32 := a ++ b ++ c ++ d

theorem octets_ofOctets (a b c d : BitVec 8) : octets (ofOctets a b c d) = [a, b, c, d] := by
  have ha : (ofOctets a b c d).extractLsb' 24 8 = a :=
    calc (ofOctets a b c d).extractLsb' 24 8 = (a ++ b ++ c).extractLsb' 16 8 :=
          BitVec.extractLsb'_append_eq_of_le (by decide)
      _ = (a ++ b).extractLsb' 8 8 := BitVec.extractLsb'_append_eq_of_le (by decide)
      _ = a := BitVec.extractLsb'_append_eq_left
  have hb : (ofOctets a b c d).extractLsb' 16 8 = b :=
    calc (ofOctets a b c d).extractLsb' 16 8 = (a ++ b ++ c).extractLsb' 8 8 :=
          BitVec.extractLsb'_append_eq_of_le (by decide)
      _ = (a ++ b).extractLsb' 0 8 := BitVec.extractLsb'_append_eq_of_le (by decide)
      _ = b := BitVec.extractLsb'_append_eq_right
  have hc : (ofOctets a b c d).extractLsb' 8 8 = c :=
    calc (ofOctets a b c d).extractLsb' 8 8 = (a ++ b ++ c).extractLsb' 0 8 :=
          BitVec.extractLsb'_append_eq_of_le (by decide)
      _ = c := BitVec.extractLsb'_append_eq_right
  have hd : (ofOctets a b c d).extractLsb' 0 8 = d := BitVec.extractLsb'_append_eq_right
  unfold octets
  rw [ha, hb, hc, hd]

/-- Every address is made of its octets. -/
theorem exists_ofOctets (n : BitVec 32) : ∃ a b c d, n = ofOctets a b c d := by
  refine ⟨n.extractLsb' 24 8, n.extractLsb' 16 8, n.extractLsb' 8 8, n.extractLsb' 0 8, ?_⟩
  have h₁ : n.extractLsb' 24 8 ++ n.extractLsb' 16 8 = n.extractLsb' 16 16 :=
    BitVec.extractLsb'_append_extractLsb'_eq_extractLsb' (by decide)
  have h₂ : n.extractLsb' 16 16 ++ n.extractLsb' 8 8 = n.extractLsb' 8 24 :=
    BitVec.extractLsb'_append_extractLsb'_eq_extractLsb' (by decide)
  have h₃ : n.extractLsb' 8 24 ++ n.extractLsb' 0 8 = n.extractLsb' 0 32 :=
    BitVec.extractLsb'_append_extractLsb'_eq_extractLsb' (by decide)
  unfold ofOctets
  rw [h₁, h₂, h₃, BitVec.extractLsb'_eq_self]

theorem ipv4Text_eq (n : BitVec 32) :
    ipv4Text n = join (py ".") ((octets n).map fun o => Python.decimal o.toNat) := by
  simp [ipv4Text, octets, List.range_succ, Nat.shiftRight_eq_div_pow]

/-! ## 2. Addresses -/

/-- An octet of an IPv4 text; zeros may stand in front. -/
def octet (s : PyStr) : Option (BitVec 8) :=
  if s ≠ [] ∧ s.all isAsciiDigit = true ∧ ofDigits 10 s < 256 then
    some (BitVec.ofNat 8 (ofDigits 10 s))
  else none

/-- The last octet, behind which the length of a prefix may stand. -/
def lastOctet (s : PyStr) : Option (BitVec 8) :=
  match partition s (ch '/') with
  | (s, none) => octet s
  | (s, some length) => if length.all isAsciiDigit then octet s else none

/-- The address of an IPv4 text. -/
def address4 (ip : PyStr) : Option (BitVec 32) :=
  match split ip (ch '.') with
  | [a, b, c, d] => do return ofOctets (← octet a) (← octet b) (← octet c) (← lastOctet d)
  | _ => none

/-- What the routers use of `ip-address`, and the number of an IPv6 text. -/
structure AddressPackage where
  /-- `Address4.isValid(ip)` -/
  isValid4 : PyStr → Bool
  /-- `Address6.isValid(ip)` -/
  isValid6 : PyStr → Bool
  /-- `new Address6(ip).bigInt()` -/
  number6 : PyStr → BitVec 128

/-- The package's documented behaviour, as far as the routers depend on it. -/
structure AddressPackage.Sound (package : AddressPackage) : Prop where
  isValid4 : ∀ ip, package.isValid4 ip = true → (address4 ip).isSome = true
  isValid6 : ∀ ip, package.isValid6 ip = true → ch ':' ∈ ip

/-- The address that a text denotes. -/
def AddressPackage.addressOf (package : AddressPackage) (ip : PyStr) : Option IpAddress :=
  match address4 ip with
  | some n => some (.v4 n)
  | none => if package.isValid6 ip then some (.v6 (package.number6 ip) none) else none

theorem octet_eq_some {s : PyStr} {o : BitVec 8} (h : octet s = some o) :
    s ≠ [] ∧ (∀ c ∈ s, isAsciiDigit c = true) ∧ ofDigits 10 s = o.toNat := by
  unfold octet at h
  split at h
  · next hs =>
    cases h
    refine ⟨hs.1, List.all_eq_true.mp hs.2.1, ?_⟩
    rw [BitVec.toNat_ofNat, Nat.mod_eq_of_lt hs.2.2]
  · cases h

/-- An octet may be followed by a slash only. -/
theorem lastOctet_eq_some {s : PyStr} {o : BitVec 8} (h : lastOctet s = some o) :
    ∃ digits rest, s = digits ++ rest ∧ octet digits = some o ∧
      (rest = [] ∨ rest.head? = some (ch '/'))
      ∧ ∀ c ∈ rest, c = ch '/' ∨ isAsciiDigit c = true := by
  unfold lastOctet at h
  split at h
  · next digits hs =>
    unfold partition at hs
    split at hs
    · cases hs
      exact ⟨s, [], (List.append_nil s).symm, h, .inl rfl, fun _ hc => absurd hc List.not_mem_nil⟩
    · cases hs
  · next digits length hs =>
    split at h
    · next hlength =>
      refine ⟨digits, ch '/' :: length, eq_append_of_partition hs, h, .inr rfl, fun c hc => ?_⟩
      rcases List.mem_cons.mp hc with rfl | hc
      · exact .inl rfl
      · exact .inr (List.all_eq_true.mp hlength c hc)
    · cases h

/-- The parts of an IPv4 text. -/
theorem address4_eq_some {ip : PyStr} {n : BitVec 32} (h : address4 ip = some n) :
    ∃ s t u v a b c d, split ip (ch '.') = [s, t, u, v] ∧ n = ofOctets a b c d ∧
      octet s = some a ∧ octet t = some b ∧ octet u = some c ∧ lastOctet v = some d := by
  unfold address4 at h
  split at h
  · next s t u v hsplit =>
    obtain ⟨a, ha, h⟩ := Option.bind_eq_some_iff.mp h
    obtain ⟨b, hb, h⟩ := Option.bind_eq_some_iff.mp h
    obtain ⟨c, hc, h⟩ := Option.bind_eq_some_iff.mp h
    obtain ⟨d, hd, h⟩ := Option.bind_eq_some_iff.mp h
    exact ⟨s, t, u, v, a, b, c, d, hsplit, (Option.some.inj h).symm, ha, hb, hc, hd⟩
  · cases h

/-- **What `parseInt` sees** of the parts of an IPv4 text are its octets. -/
theorem parseInt_parts {ip : PyStr} {n : BitVec 32} (h : address4 ip = some n) {radix : Option Nat}
    (hradix : radix = none ∨ radix = some 10) :
    (split ip (ch '.')).map (parseInt · radix) = (octets n).map fun o => some (o.toNat : Int) := by
  have hoctet : ∀ {s o}, octet s = some o → parseInt s radix = some (o.toNat : Int) := by
    intro s o hs
    obtain ⟨hne, hdigits, hvalue⟩ := octet_eq_some hs
    rw [parseInt_digits hne hdigits hradix, hvalue]
  obtain ⟨s, t, u, v, a, b, c, d, hsplit, rfl, hs, ht, hu, hv⟩ := address4_eq_some h
  have hlast : parseInt v radix = some (d.toNat : Int) := by
    obtain ⟨digits, rest, rfl, hd, hrest, -⟩ := lastOctet_eq_some hv
    obtain ⟨hne, hdigits, hvalue⟩ := octet_eq_some hd
    rw [← hvalue]
    refine parseInt_append hne hdigits (fun e he => ?_) hradix
    rcases hrest with rfl | hrest
    · cases he
    · rw [hrest] at he
      cases he
      decide
  rw [hsplit, octets_ofOctets, List.map_cons, List.map_cons, List.map_cons, List.map_cons,
    hoctet hs, hoctet ht, hoctet hu, hlast]
  rfl

/-- An IPv4 text has no colon. -/
theorem colon_notMem_of_address4 {ip : PyStr} {n : BitVec 32} (h : address4 ip = some n) :
    ch ':' ∉ ip := by
  obtain ⟨s, t, u, v, a, b, c, d, hsplit, -, hs, ht, hu, hv⟩ := address4_eq_some h
  have hdigit : isAsciiDigit (ch ':') = false := by decide
  have hoctet : ∀ {s o}, octet s = some o → ch ':' ∉ s := fun hs hc => by
    rw [(octet_eq_some hs).2.1 _ hc] at hdigit
    cases hdigit
  have hjoin : ip = join (py ".") (split ip (ch '.')) := (List.intercalate_splitOn _).symm
  rw [hjoin, hsplit]
  intro hmem
  rcases mem_join hmem with hc | ⟨p, hp, hc⟩
  · exact absurd hc (by decide)
  · simp only [List.mem_cons, List.not_mem_nil, or_false] at hp
    rcases hp with rfl | rfl | rfl | rfl
    · exact hoctet hs hc
    · exact hoctet ht hc
    · exact hoctet hu hc
    · obtain ⟨digits, rest, rfl, hd, -, hrest⟩ := lastOctet_eq_some hv
      rcases List.mem_append.mp hc with hc | hc
      · exact hoctet hd hc
      · rcases hrest _ hc with hc | hc
        · exact absurd hc (by decide)
        · rw [hc] at hdigit
          cases hdigit

theorem octet_decimal (o : BitVec 8) : octet (Python.decimal o.toNat) = some o := by
  unfold octet
  rw [if_pos ⟨decimal_ne_nil _, all_isAsciiDigit_decimal _, by rw [ofDigits_decimal]; exact o.isLt⟩,
    ofDigits_decimal, BitVec.ofNat_toNat, BitVec.setWidth_eq]

/-- The parts of an address. -/
theorem split_ipv4Text (n : BitVec 32) :
    split (ipv4Text n) (ch '.') = (octets n).map fun o => Python.decimal o.toNat := by
  rw [ipv4Text_eq]
  refine List.splitOn_intercalate _ (fun p hp => ?_) (by simp [octets])
  obtain ⟨o, -, rfl⟩ := List.mem_map.mp hp
  exact dot_notMem_decimal _

/-- **An address is read back** from its text. -/
theorem address4_ipv4Text (n : BitVec 32) : address4 (ipv4Text n) = some n := by
  have hsplit := split_ipv4Text n
  obtain ⟨a, b, c, d, rfl⟩ := exists_ofOctets n
  rw [octets_ofOctets] at hsplit
  have hlast : lastOctet (Python.decimal d.toNat) = some d := by
    have hslash : ch '/' ∉ Python.decimal d.toNat := by
      intro hc
      have := isAsciiDigit_of_mem_decimal hc
      exact absurd this (by decide)
    unfold lastOctet
    rw [partition_of_notMem hslash]
    exact octet_decimal d
  unfold address4
  rw [hsplit]
  simp only [List.map_cons, List.map_nil, octet_decimal, hlast]
  rfl

theorem addressOf_ipv4Text (package : AddressPackage) (n : BitVec 32) :
    package.addressOf (ipv4Text n) = some (.v4 n) := by
  unfold AddressPackage.addressOf
  rw [address4_ipv4Text]

/-- A package that accepts what `address4` and `ipaddress` read. -/
def AddressPackage.plain : AddressPackage where
  isValid4 := fun ip => (address4 ip).isSome
  isValid6 := fun ip => (ipv6FromString ip).isSome
  number6 := fun ip => (ipv6FromString ip).getD 0

theorem AddressPackage.plain_sound : AddressPackage.plain.Sound where
  isValid4 := fun _ h => h
  isValid6 := fun ip h => by
    obtain ⟨n, hn⟩ := Option.isSome_iff_exists.mp h
    exact colon_mem_of_ipv6FromString hn

/-! ## 3. Targets -/

/-- `const [ip, prefix] = cidr.split("/")`; a prefix that is missing is `undefined`. -/
def splitCidr (cidr : PyStr) : PyStr × PyStr :=
  let parts := split cidr (ch '/')
  (parts.headD [], parts[1]?.getD (py "undefined"))

/-- `isValidCIDR`. -/
def isValidCIDR (package : AddressPackage) (cidr : PyStr) : Bool :=
  let (ip, length) := splitCidr cidr
  let prefixNumber := parseInt length none
  if package.isValid4 ip then prefixNumber.ge (some 0) && prefixNumber.le (some 32)
  else if package.isValid6 ip then prefixNumber.ge (some 0) && prefixNumber.le (some 128)
  else false

/-- The network of a target, as `isValidCIDR` reads the target. -/
def networkOf (package : AddressPackage) (cidr : PyStr) : Option IpNetwork :=
  let (ip, length) := splitCidr cidr
  match package.addressOf ip, parseInt length none with
  | some (.v4 n), some (.ofNat p) =>
    if p ≤ 32 then some ⟨.v4 (n &&& netmask 32 p), p⟩ else none
  | some (.v6 n zone), some (.ofNat p) =>
    if p ≤ 128 then some ⟨.v6 (n &&& netmask 128 p) zone, p⟩ else none
  | _, _ => none

theorem splitCidr_append {ip length : PyStr} (hip : ch '/' ∉ ip) (hlength : ch '/' ∉ length) :
    splitCidr (ip ++ ch '/' :: length) = (ip, length) := by
  have hsplit : split (ip ++ ch '/' :: length) (ch '/') = [ip, length] := by
    unfold split
    rw [List.splitOn_append_cons_self, List.splitOn_eq_singleton hlength,
      List.splitOn_eq_singleton hip]
    rfl
  unfold splitCidr
  rw [hsplit]
  rfl

/-! ## 4. Ranges -/

/-- An assignment pool. -/
structure IpRange where
  ipRangeStart : PyStr
  ipRangeEnd : PyStr
deriving DecidableEq

namespace IpRange

/-- What `advancedIpAssignment` requires of a pool. -/
def isValid (package : AddressPackage) (range : IpRange) : Bool :=
  (package.isValid6 range.ipRangeStart && package.isValid6 range.ipRangeEnd) ||
    (package.isValid4 range.ipRangeStart && package.isValid4 range.ipRangeEnd)

/-- The start is numerically below the end. -/
def Ordered (package : AddressPackage) (range : IpRange) : Prop :=
  ∃ first last, package.addressOf range.ipRangeStart = some first ∧
    package.addressOf range.ipRangeEnd = some last ∧ first.number < last.number

/-- The pool lies on both sides of 128.0.0.0. -/
def Straddles (range : IpRange) : Prop :=
  ∃ m n, address4 range.ipRangeStart = some m ∧ address4 range.ipRangeEnd = some n ∧
    m.toNat < 2 ^ 31 ∧ 2 ^ 31 ≤ n.toNat

/-- From one IPv4 address to another. -/
def Valid (range : IpRange) : Prop :=
  (ipv4FromString range.ipRangeStart).isSome = true ∧
  (ipv4FromString range.ipRangeEnd).isSome = true

/-- The address is in the range. -/
def Contains (range : IpRange) (n : BitVec 32) : Prop :=
  ∃ first last, ipv4FromString range.ipRangeStart = some first ∧
    ipv4FromString range.ipRangeEnd = some last ∧ first ≤ n ∧ n ≤ last

theorem straddles_iff {range : IpRange} {m n : BitVec 32}
    (hm : address4 range.ipRangeStart = some m) (hn : address4 range.ipRangeEnd = some n) :
    range.Straddles ↔ m.toNat < 2 ^ 31 ∧ 2 ^ 31 ≤ n.toNat := by
  constructor
  · rintro ⟨m', n', hm', hn', h⟩
    cases hm.symm.trans hm'
    cases hn.symm.trans hn'
    exact h
  · exact fun h => ⟨m, n, hm, hn, h⟩

end IpRange

end ZtPlanet.Ztnet
