/-
# The guard of outbound requests

`utils/ssrfGuard.ts`: a webhook's URL is checked, resolved, and the request is pinned to the address
that was checked.  What is missing from the repository is a parameter: `new URL`, the answers of the
resolver, and the `ip-address` package, of which `IpPackage.Exact` says what the guard relies on.

The text of an address is read as `node:net` reads it: four strict decimal octets; or eight groups
with at most one `::`, the last two of which may be dotted, and a zone behind a `%`.  Apart from the
zone these are the forms that `Python.IpAddress` reads, so its definitions are used.
-/
import ZtPlanet.Python.IpRoundTrip

namespace ZtPlanet.Ztnet

open ZtPlanet.Python ZtPlanet.Python.IpAddress

/-! ## 1. Texts of addresses -/

/-- A character of a zone, for `node:net`. -/
def isZoneChar (c : CodePoint) : Bool := isAsciiAlnum c || c == ch '-' || c == ch '.' || c == ch ':'

/-- The address of an IPv6 text. -/
def literal6 (ip : PyStr) : Option IpAddress :=
  match partition ip (ch '%') with
  | (addr, none) => (ipv6FromString addr).map fun n => .v6 n none
  | (addr, some zone) =>
    if zone ≠ [] ∧ zone.all isZoneChar then (ipv6FromString addr).map fun n => .v6 n (some zone)
    else none

/-- The address that a text denotes. -/
def literal (ip : PyStr) : Option IpAddress :=
  match ipv4FromString ip with
  | some n => some (.v4 n)
  | none => literal6 ip

/-- `isIP`. -/
def isIP (ip : PyStr) : Nat :=
  match literal ip with
  | some address => address.version
  | none => 0

/-- An IPv6 text ends in an IPv4 address. -/
def dottedTail (ip : PyStr) : Bool := (partition ip (ch '%')).1.contains (ch '.')

/-- The last 32 bits. -/
def tail4 (n : BitVec 128) : BitVec 32 := n.setWidth 32

/-- `::ffff:0:0/96`. -/
def isMapped (n : BitVec 128) : Bool := inNetwork n (0xFFFF00000000, 96)

theorem literal_ipv4Text (n : BitVec 32) : literal (ipv4Text n) = some (.v4 n) := by
  unfold literal
  rw [ipv4FromString_ipv4Text]

theorem isIP_ipv4Text (n : BitVec 32) : isIP (ipv4Text n) = 4 := by
  unfold isIP
  rw [literal_ipv4Text]
  rfl

/-! ## 2. The ranges -/

/-- `BLOCKED_IPV4_CIDRS`. -/
def blockedIpv4Cidrs : List PyStr :=
  [py "0.0.0.0/8", py "10.0.0.0/8", py "100.64.0.0/10", py "127.0.0.0/8", py "169.254.0.0/16",
    py "172.16.0.0/12", py "192.0.0.0/24", py "192.0.2.0/24", py "192.88.99.0/24",
    py "192.168.0.0/16", py "198.18.0.0/15", py "198.51.100.0/24", py "203.0.113.0/24",
    py "224.0.0.0/4", py "240.0.0.0/4"]

/-- `BLOCKED_IPV6_CIDRS`. -/
def blockedIpv6Cidrs : List PyStr :=
  [py "::/128", py "::1/128", py "64:ff9b::/96", py "100::/64", py "2001:db8::/32", py "2002::/16",
    py "fc00::/7", py "fe80::/10", py "ff00::/8"]

/-- The IPv4 address is in the range. -/
def inCidr4 (n : BitVec 32) (cidr : PyStr) : Bool :=
  match IpNetwork.parse cidr with
  | some ⟨.v4 network, length⟩ => inNetwork n (network, length)
  | _ => false

/-- The IPv6 address is in the range. -/
def inCidr6 (n : BitVec 128) (cidr : PyStr) : Bool :=
  match IpNetwork.parse cidr with
  | some ⟨.v6 network _, length⟩ => inNetwork n (network, length)
  | _ => false

/-- An IPv4 address of a blocked range. -/
def blocked4 (n : BitVec 32) : Bool := blockedIpv4Cidrs.any (inCidr4 n)

/-- An IPv6 address of a blocked range. -/
def blocked6 (n : BitVec 128) : Bool := blockedIpv6Cidrs.any (inCidr6 n)

/-- An address of a blocked range, or one that maps an IPv4 address of a blocked range. -/
def isBlocked : IpAddress → Bool
  | .v4 n => blocked4 n
  | .v6 n _ => blocked6 n || (isMapped n && blocked4 (tail4 n))

/-! ## 3. What the guard calls -/

/-- What the guard uses of `ip-address`, on the texts that it passes. -/
structure IpPackage where
  /-- `new Address4(ip).isInSubnet(new Address4(cidr))` -/
  isInSubnet4 : PyStr → PyStr → Bool
  /-- `new Address6(ip).isInSubnet(new Address6(cidr))` -/
  isInSubnet6 : PyStr → PyStr → Bool
  /-- `new Address6(ip).is4()` -/
  is4 : PyStr → Bool
  /-- `new Address6(ip).to4()` -/
  to4 : PyStr → BitVec 32

/-- The package's documented behaviour: `is4` tells whether an IPv6 text has a dotted tail, `to4`
takes the last 32 bits, and `isInSubnet` is exact. -/
structure IpPackage.Exact (package : IpPackage) : Prop where
  isInSubnet4 : ∀ ip n cidr, literal ip = some (.v4 n) →
    package.isInSubnet4 ip cidr = inCidr4 n cidr
  isInSubnet6 : ∀ ip n zone cidr, literal ip = some (.v6 n zone) →
    package.isInSubnet6 ip cidr = inCidr6 n cidr
  is4 : ∀ ip n zone, literal ip = some (.v6 n zone) → package.is4 ip = dottedTail ip
  to4 : ∀ ip n zone, literal ip = some (.v6 n zone) → package.to4 ip = tail4 n

/-- The parts of a `URL` that the guard reads. -/
structure Url where
  protocol : PyStr
  hostname : PyStr
deriving DecidableEq

/-- An answer of the resolver. -/
structure LookupAddress where
  address : PyStr
  family : Nat
deriving DecidableEq

/-- `new URL(rawUrl)`, the answers of `lookup(hostname, { all: true })` or its error, and the
package. -/
structure Outside where
  url : PyStr → Option Url
  lookup : PyStr → Except PyStr (List LookupAddress)
  package : IpPackage

/-! ## 4. The guard -/

inductive GuardError where
  | blockedUrl (message : PyStr)
  | lookupFailed (message : PyStr)
deriving DecidableEq

/-- `stripBrackets`. -/
def stripBrackets (hostname : PyStr) : PyStr :=
  let rest := if hostname.head? = some (ch '[') then hostname.tail else hostname
  if rest.getLast? = some (ch ']') then rest.dropLast else rest

/-- `isBlockedIpAddress`. -/
def isBlockedIpAddress (package : IpPackage) (ip : PyStr) : Bool :=
  if isIP ip = 4 then blockedIpv4Cidrs.any (package.isInSubnet4 ip)
  else if isIP ip = 6 then
    if package.is4 ip then isBlockedIpAddress package (ipv4Text (package.to4 ip))
    else blockedIpv6Cidrs.any (package.isInSubnet6 ip)
  else true
termination_by isIP ip
decreasing_by
  rw [isIP_ipv4Text]
  omega

/-- `LOCAL_HOSTNAMES`. -/
def localHostnames : List PyStr := [py "localhost", py "localhost.localdomain", py "ip6-localhost"]

/-- `LOCAL_HOSTNAMES.has(lowercased) || lowercased.endsWith(".localhost")`; the host of an https
URL is ASCII. -/
def isLocalHostname (hostname : PyStr) : Bool :=
  localHostnames.contains (lower hostname) || (py ".localhost").isSuffixOf (lower hostname)

/-- `assertPublicHttpsUrl`. -/
def assertPublicHttpsUrl (outside : Outside) (rawUrl : PyStr) : Except GuardError Url :=
  match outside.url rawUrl with
  | none => .error (.blockedUrl (py "Not a valid URL: " ++ rawUrl))
  | some url =>
    if url.protocol ≠ py "https:" then
      .error (.blockedUrl (py "Webhook URL needs to be HTTPS: " ++ rawUrl))
    else
      let hostname := stripBrackets url.hostname
      if hostname = [] then
        .error (.blockedUrl (py "Webhook URL is missing a hostname: " ++ rawUrl))
      else if isLocalHostname hostname then
        .error (.blockedUrl (py "Webhook URL points at a local address and is not allowed: "
          ++ rawUrl))
      else if isIP hostname ≠ 0 ∧ isBlockedIpAddress outside.package hostname then
        .error (.blockedUrl (py "Webhook URL points at a private or reserved address and is not "
          ++ py "allowed: " ++ rawUrl))
      else .ok url

/-- `PinnedTarget`. -/
structure PinnedTarget where
  url : Url
  hostname : PyStr
  address : PyStr
  family : Nat
deriving DecidableEq

/-- `resolvePublicTarget`. -/
def resolvePublicTarget (outside : Outside) (rawUrl : PyStr) : Except GuardError PinnedTarget :=
  match assertPublicHttpsUrl outside rawUrl with
  | .error e => .error e
  | .ok url =>
    let hostname := stripBrackets url.hostname
    if isIP hostname ≠ 0 then .ok ⟨url, hostname, hostname, isIP hostname⟩
    else
      match outside.lookup hostname with
      | .error message => .error (.lookupFailed message)
      | .ok resolved =>
        match resolved.find? fun entry => !isBlockedIpAddress outside.package entry.address with
        | none => .error (.blockedUrl (py "Refusing to connect to " ++ hostname
            ++ py ", it resolves to a private or reserved address"))
        | some allowed => .ok ⟨url, hostname, allowed.address, allowed.family⟩

/-! ## 5. What the check of one text says -/

/-- What `isBlockedIpAddress` answers: the embedded address decides for a text with a dotted tail,
and the number for every other IPv6 text. -/
def refused (ip : PyStr) : Bool :=
  match literal ip with
  | none => true
  | some (.v4 n) => blocked4 n
  | some (.v6 n _) => if dottedTail ip then blocked4 (tail4 n) else blocked6 n

/-- A text that is let through although its address is blocked: a mapped address in hexadecimal
groups, or an address of a blocked IPv6 range whose dotted tail is public. -/
def slips (ip : PyStr) : Bool :=
  match literal ip with
  | some (.v6 n _) =>
    if dottedTail ip then blocked6 n && !blocked4 (tail4 n) else isMapped n && blocked4 (tail4 n)
  | _ => false

theorem isBlockedIpAddress_v4 {package : IpPackage} (hexact : package.Exact) {ip : PyStr}
    {n : BitVec 32} (h : literal ip = some (.v4 n)) :
    isBlockedIpAddress package ip = blocked4 n := by
  have hversion : isIP ip = 4 := by
    unfold isIP
    rw [h]
    rfl
  have hsubnet : package.isInSubnet4 ip = inCidr4 n := funext fun cidr => hexact.isInSubnet4 _ _ _ h
  rw [isBlockedIpAddress, if_pos hversion, hsubnet]
  rfl

theorem isBlockedIpAddress_eq {package : IpPackage} (hexact : package.Exact) (ip : PyStr) :
    isBlockedIpAddress package ip = refused ip := by
  unfold refused
  cases h : literal ip with
  | none =>
    have hversion : isIP ip = 0 := by
      unfold isIP
      rw [h]
    rw [isBlockedIpAddress, if_neg (by omega), if_neg (by omega)]
  | some address =>
    cases address with
    | v4 n => exact isBlockedIpAddress_v4 hexact h
    | v6 n zone =>
      have hversion : isIP ip = 6 := by
        unfold isIP
        rw [h]
        rfl
      have hsubnet : package.isInSubnet6 ip = inCidr6 n :=
        funext fun cidr => hexact.isInSubnet6 _ _ _ _ h
      rw [isBlockedIpAddress, if_neg (by omega), if_pos hversion, hexact.is4 _ _ _ h,
        hexact.to4 _ _ _ h, hsubnet, isBlockedIpAddress_v4 hexact (literal_ipv4Text _)]
      rfl

/-- Two networks that differ under both masks have no address in common. -/
theorem inNetwork_disjoint {w : Nat} {n a b : BitVec w} {k l : Nat}
    (hne : a &&& netmask w l ≠ b &&& netmask w k) (h : inNetwork n (a, k) = true) :
    inNetwork n (b, l) = false := by
  unfold inNetwork at h ⊢
  simp only [beq_iff_eq] at h
  refine beq_false_of_ne fun (hb : n &&& netmask w l = b) => hne ?_
  rw [← h, ← hb, BitVec.and_assoc, BitVec.and_assoc, BitVec.and_comm (netmask w k)]

/-- No mapped address is in a blocked IPv6 range: the ranges have no entry for them. -/
theorem blocked6_of_isMapped {n : BitVec 128} (h : isMapped n = true) : blocked6 n = false := by
  have hranges : ∀ cidr ∈ blockedIpv6Cidrs, ∃ network zone length,
      IpNetwork.parse cidr = some ⟨.v6 network zone, length⟩ ∧
        (0xFFFF00000000 : BitVec 128) &&& netmask 128 length ≠ network &&& netmask 128 96 := by
    intro cidr hcidr
    have hall : blockedIpv6Cidrs.all (fun cidr =>
        match IpNetwork.parse cidr with
        | some ⟨.v6 network _, length⟩ => decide ((0xFFFF00000000 : BitVec 128) &&&
            netmask 128 length ≠ network &&& netmask 128 96)
        | _ => false) = true := by decide +kernel
    have hone := List.all_eq_true.mp hall cidr hcidr
    revert hone
    split
    next network zone length hparse => exact fun hone => ⟨_, _, _, hparse, of_decide_eq_true hone⟩
    next => exact fun hone => nomatch hone
  unfold blocked6
  rw [List.any_eq_false]
  intro cidr hcidr
  obtain ⟨network, zone, length, hparse, hne⟩ := hranges cidr hcidr
  unfold inCidr6
  rw [hparse, Bool.not_eq_true]
  exact inNetwork_disjoint hne h

/-- **A text slips exactly when the check lets it through and its address is blocked.** -/
theorem slips_iff {ip : PyStr} :
    slips ip = true ↔ refused ip = false ∧ ∃ address, literal ip = some address ∧
      isBlocked address = true := by
  unfold slips refused
  cases h : literal ip with
  | none => simp
  | some address =>
    cases address with
    | v4 n => simp [isBlocked]
    | v6 n zone =>
      simp only [Option.some.injEq, exists_eq_left', isBlocked]
      cases hdotted : dottedTail ip with
      | true =>
        cases blocked6 n <;> cases blocked4 (tail4 n) <;> simp
      | false =>
        cases hmapped : isMapped n with
        | true => simp [blocked6_of_isMapped hmapped]
        | false => cases blocked6 n <;> simp

/-- In the groups into which `URL` puts an IPv6 host, exactly the mapped addresses slip. -/
theorem slips_ipv6Text (n : BitVec 128) :
    slips (ipv6Text n) = (isMapped n && blocked4 (tail4 n)) := by
  have hzone : ch '%' ∉ ipv6Text n := notMem_ipv6Text (by decide) (by decide)
  have hslash : ch '/' ∉ ipv6Text n := notMem_ipv6Text (by decide) (by decide)
  have hdot : ch '.' ∉ ipv6Text n := notMem_ipv6Text (by decide) (by decide)
  have h4 : ipv4FromString (ipv6Text n) = none := by
    have h := ipv4Address_ipv6Text_append n []
    rwa [List.append_nil, ipv4Address, if_neg hslash] at h
  have hliteral : literal (ipv6Text n) = some (.v6 n none) := by
    unfold literal literal6
    rw [h4, partition_of_notMem hzone]
    simp only [ipv6FromString_ipv6Text, Option.map_some]
  have hdotted : dottedTail (ipv6Text n) = false := by
    unfold dottedTail
    rw [partition_of_notMem hzone]
    exact Bool.eq_false_iff.mpr fun h => hdot (List.contains_iff_mem.mp h)
  unfold slips
  rw [hliteral]
  simp only [hdotted, Bool.false_eq_true, if_false]

/-! ## 6. What the guard returns -/

/-- No address that `resolvePublicTarget` returns denotes an address of a blocked range. -/
def GuardSound (outside : Outside) (rawUrl : PyStr) : Prop :=
  ∀ target, resolvePublicTarget outside rawUrl = .ok target →
    ∀ address, literal target.address = some address → isBlocked address = false

/-- The guard is not deceived: where the URL is one that it resolves, the host does not slip, and
before an answer that slips the resolver gives one that is let through. -/
def NotDeceived (outside : Outside) (rawUrl : PyStr) : Prop :=
  ∀ url, outside.url rawUrl = some url → url.protocol = py "https:" →
    stripBrackets url.hostname ≠ [] → isLocalHostname (stripBrackets url.hostname) = false →
    slips (stripBrackets url.hostname) = false ∧
    (isIP (stripBrackets url.hostname) = 0 →
      ∀ before answer after,
        outside.lookup (stripBrackets url.hostname) = .ok (before ++ answer :: after) →
        slips answer.address = true →
        ∃ entry ∈ before, isBlockedIpAddress outside.package entry.address = false)

/-- The first answer that is let through does not slip, if no answer slips before all that are let
through. -/
theorem find?_not_slips {package : IpPackage} (hexact : package.Exact)
    {answers : List LookupAddress} :
    (∀ before answer after, answers = before ++ answer :: after →
        slips answer.address = true →
        ∃ entry ∈ before, isBlockedIpAddress package entry.address = false) ↔
      ∀ allowed, answers.find? (fun entry => !isBlockedIpAddress package entry.address) =
        some allowed → slips allowed.address = false := by
  constructor
  · intro h allowed hfind
    obtain ⟨hallowed, before, after, rfl, hbefore⟩ := List.find?_eq_some_iff_append.mp hfind
    refine Bool.eq_false_iff.mpr fun hslips => ?_
    obtain ⟨entry, hentry, hthrough⟩ := h before allowed after rfl hslips
    have := hbefore entry hentry
    rw [hthrough] at this
    exact absurd this (by decide)
  · rintro h before answer after rfl hslips
    by_contra hnone
    have hanswer : isBlockedIpAddress package answer.address = false := by
      rw [isBlockedIpAddress_eq hexact]
      exact (slips_iff.mp hslips).1
    have hfirst : (before ++ answer :: after).find?
        (fun entry => !isBlockedIpAddress package entry.address) = some answer := by
      refine List.find?_eq_some_iff_append.mpr
        ⟨by rw [hanswer]; rfl, before, after, rfl, fun entry hentry => ?_⟩
      rw [Bool.not_not]
      by_contra hentry'
      exact hnone ⟨entry, hentry, Bool.not_eq_true _ ▸ hentry'⟩
    have := h answer hfirst
    rw [hslips] at this
    cases this

theorem assertPublicHttpsUrl_ok_iff {outside : Outside} {rawUrl : PyStr} {url : Url} :
    assertPublicHttpsUrl outside rawUrl = .ok url ↔
      outside.url rawUrl = some url ∧ url.protocol = py "https:" ∧
      stripBrackets url.hostname ≠ [] ∧ isLocalHostname (stripBrackets url.hostname) = false ∧
      (isIP (stripBrackets url.hostname) ≠ 0 →
        isBlockedIpAddress outside.package (stripBrackets url.hostname) = false) := by
  unfold assertPublicHttpsUrl
  cases hurl : outside.url rawUrl with
  | none => simp
  | some parsed =>
    simp only [Option.some.injEq]
    constructor
    · intro h
      split at h
      next => cases h
      next hprotocol =>
        split at h
        next => cases h
        next hhost =>
          split at h
          next => cases h
          next hlocal =>
            split at h
            next => cases h
            next hpublic =>
              cases h
              refine ⟨rfl, not_not.mp hprotocol, hhost, Bool.not_eq_true _ ▸ hlocal, fun hip => ?_⟩
              exact Bool.eq_false_iff.mpr fun hblocked => hpublic ⟨hip, hblocked⟩
    · rintro ⟨rfl, hprotocol, hhost, hlocal, hpublic⟩
      rw [if_neg (not_not.mpr hprotocol), if_neg hhost, if_neg (by rw [hlocal]; decide),
        if_neg (fun h => by rw [hpublic h.1] at h; exact absurd h.2 (by decide))]

/-- **What `resolvePublicTarget` returns**: the host itself, if it is an address that is let
through, and otherwise the first answer that is. -/
theorem resolvePublicTarget_ok_iff {outside : Outside} {rawUrl : PyStr} {target : PinnedTarget} :
    resolvePublicTarget outside rawUrl = .ok target ↔
      ∃ url, assertPublicHttpsUrl outside rawUrl = .ok url ∧
      ((isIP (stripBrackets url.hostname) ≠ 0 ∧
          target = ⟨url, stripBrackets url.hostname, stripBrackets url.hostname,
            isIP (stripBrackets url.hostname)⟩) ∨
        (isIP (stripBrackets url.hostname) = 0 ∧ ∃ answers allowed,
          outside.lookup (stripBrackets url.hostname) = .ok answers ∧
          answers.find? (fun entry => !isBlockedIpAddress outside.package entry.address) =
            some allowed ∧
          target = ⟨url, stripBrackets url.hostname, allowed.address, allowed.family⟩)) := by
  unfold resolvePublicTarget
  cases hurl : assertPublicHttpsUrl outside rawUrl with
  | error e => simp
  | ok url =>
    simp only [Except.ok.injEq, exists_eq_left']
    by_cases hip : isIP (stripBrackets url.hostname) = 0
    · rw [if_neg (not_not.mpr hip)]
      simp only [hip, ne_eq, not_true, false_and, false_or, true_and]
      cases outside.lookup (stripBrackets url.hostname) with
      | error message => simp
      | ok answers =>
        simp only [Except.ok.injEq, exists_and_left, exists_eq_left']
        cases answers.find? fun entry => !isBlockedIpAddress outside.package entry.address with
        | none => simp
        | some allowed => simp [eq_comm]
    · rw [if_pos hip]
      simp [hip, eq_comm]

/-- **When the guard keeps its promise.**  No blocked address is returned exactly where the guard is
not deceived: by a mapped address in hexadecimal groups, which `is4` does not recognize, or by an
answer of a blocked IPv6 range with a public dotted tail, for which only the tail is looked at. -/
theorem guardSound_iff (outside : Outside) (hexact : outside.package.Exact) (rawUrl : PyStr) :
    GuardSound outside rawUrl ↔ NotDeceived outside rawUrl := by
  constructor
  · intro h url hurl hprotocol hhost hlocal
    have hliteral : slips (stripBrackets url.hostname) = false := by
      refine Bool.eq_false_iff.mpr fun hslips => ?_
      obtain ⟨hrefused, address, haddress, hblocked⟩ := slips_iff.mp hslips
      have hip : isIP (stripBrackets url.hostname) ≠ 0 := by
        unfold isIP
        rw [haddress]
        cases address <;> simp [version]
      have hok : assertPublicHttpsUrl outside rawUrl = .ok url := by
        refine assertPublicHttpsUrl_ok_iff.mpr ⟨hurl, hprotocol, hhost, hlocal, fun _ => ?_⟩
        rw [isBlockedIpAddress_eq hexact, hrefused]
      have := h _ (resolvePublicTarget_ok_iff.mpr ⟨url, hok, .inl ⟨hip, rfl⟩⟩) address haddress
      rw [hblocked] at this
      cases this
    refine ⟨hliteral, fun hip before answer after hlookup => ?_⟩
    have hok : assertPublicHttpsUrl outside rawUrl = .ok url :=
      assertPublicHttpsUrl_ok_iff.mpr ⟨hurl, hprotocol, hhost, hlocal, fun hne => absurd hip hne⟩
    refine (find?_not_slips hexact).mpr (fun allowed hfind => ?_) before answer after rfl
    refine Bool.eq_false_iff.mpr fun hslips => ?_
    obtain ⟨-, address, haddress, hblocked⟩ := slips_iff.mp hslips
    have := h _ (resolvePublicTarget_ok_iff.mpr
      ⟨url, hok, .inr ⟨hip, _, allowed, hlookup, hfind, rfl⟩⟩) address haddress
    rw [hblocked] at this
    cases this
  · intro h target htarget address haddress
    refine Bool.eq_false_iff.mpr fun hblocked => ?_
    obtain ⟨url, hok, hreturned⟩ := resolvePublicTarget_ok_iff.mp htarget
    obtain ⟨hurl, hprotocol, hhost, hlocal, hpublic⟩ := assertPublicHttpsUrl_ok_iff.mp hok
    obtain ⟨hliteral, hanswers⟩ := h url hurl hprotocol hhost hlocal
    -- the returned text is let through and denotes a blocked address, so it slips
    have hslips : ∀ ip, isBlockedIpAddress outside.package ip = false →
        literal ip = some address → slips ip = true := by
      intro ip hthrough hip
      rw [isBlockedIpAddress_eq hexact] at hthrough
      exact slips_iff.mpr ⟨hthrough, address, hip, hblocked⟩
    rcases hreturned with ⟨hip, rfl⟩ | ⟨hip, answers, allowed, hlookup, hfind, rfl⟩
    · rw [hslips _ (hpublic hip) haddress] at hliteral
      cases hliteral
    · have hthrough : isBlockedIpAddress outside.package allowed.address = false := by
        have := List.find?_some hfind
        rwa [Bool.not_eq_true'] at this
      have hno := (find?_not_slips hexact).mp
        (fun before answer after heq => hanswers hip before answer after (heq ▸ hlookup))
        allowed hfind
      rw [hslips _ hthrough haddress] at hno
      cases hno

/-! ## 7. A loopback address -/

/-- A package that behaves as documented. -/
def ipAddress : IpPackage where
  isInSubnet4 ip cidr :=
    match literal ip with
    | some (.v4 n) => inCidr4 n cidr
    | _ => false
  isInSubnet6 ip cidr :=
    match literal ip with
    | some (.v6 n _) => inCidr6 n cidr
    | _ => false
  is4 := dottedTail
  to4 ip :=
    match literal ip with
    | some (.v6 n _) => tail4 n
    | _ => 0

theorem ipAddress_exact : ipAddress.Exact where
  isInSubnet4 ip n cidr h := by simp only [ipAddress, h]
  isInSubnet6 ip n zone cidr h := by simp only [ipAddress, h]
  is4 _ _ _ _ := rfl
  to4 ip n zone h := by simp only [ipAddress, h]

/-- `https://[::ffff:127.0.0.1]/hook`, whose host `URL` writes in hexadecimal groups, and
`https://[::1]/hook`. -/
def exampleOutside : Outside where
  url rawUrl :=
    if rawUrl = py "https://[::ffff:127.0.0.1]/hook" then some ⟨py "https:", py "[::ffff:7f00:1]"⟩
    else if rawUrl = py "https://[::1]/hook" then some ⟨py "https:", py "[::1]"⟩
    else none
  lookup _ := .error (py "getaddrinfo ENOTFOUND")
  package := ipAddress

/-- **The loopback address passes**: the guard sees no dotted tail in `::ffff:7f00:1`. -/
theorem loopback_passes :
    ¬GuardSound exampleOutside (py "https://[::ffff:127.0.0.1]/hook") := by
  intro h
  have hok : assertPublicHttpsUrl exampleOutside (py "https://[::ffff:127.0.0.1]/hook") =
      .ok ⟨py "https:", py "[::ffff:7f00:1]"⟩ := by
    refine assertPublicHttpsUrl_ok_iff.mpr ⟨by decide +kernel, rfl, by decide +kernel,
      by decide +kernel, fun _ => ?_⟩
    exact (isBlockedIpAddress_eq ipAddress_exact _).trans (by decide +kernel)
  have hblocked := h _ (resolvePublicTarget_ok_iff.mpr
    ⟨_, hok, .inl ⟨by decide +kernel, rfl⟩⟩) (.v6 0xFFFF7F000001 none) (by decide +kernel)
  revert hblocked
  decide +kernel

/-- The loopback address in its IPv6 form does not. -/
theorem guardSound_iff_loopback :
    GuardSound exampleOutside (py "https://[::1]/hook") := by
  refine (guardSound_iff exampleOutside ipAddress_exact _).mpr fun url hurl _ _ _ => ?_
  have hparsed : exampleOutside.url (py "https://[::1]/hook") =
      some ⟨py "https:", py "[::1]"⟩ := by decide +kernel
  rw [hparsed, Option.some.injEq] at hurl
  subst hurl
  exact ⟨by decide +kernel, fun hip => absurd hip (by decide +kernel)⟩

end ZtPlanet.Ztnet
