/-
# Assigned addresses and the managed routes

The member table shows an assigned address paler when it lies in none of the managed routes, and the
form for a new one is valid when it lies in one.  `isIPInSubnet` decides this with 32-bit arithmetic
on texts: it splits an address at its dots and puts the numbers of the parts together.

A shift by 32 is a shift by 0, so the prefix 0 masks nothing off and a default route contains its
own address only.  IPv6 targets are not skipped.  A part with a colon is NaN, which is 0 to `|`, so
what is left of one is 0, or the last three octets of a dotted tail, and the length of its prefix
counts modulo 32.  `isIPInSubnet_exact_iff` says when the answer is right nevertheless.
-/
import ZtPlanet.Js.NumberText
import ZtPlanet.Python.Ipv6Parts
import ZtPlanet.Ztnet.CidrNotation
import ZtPlanet.Ztnet.OctetArithmetic

namespace ZtPlanet.Ztnet.SubnetTest

open ZtPlanet.Lib ZtPlanet.Python ZtPlanet.Python.IpAddress ZtPlanet.Js

/-! ## 1. `isIPInSubnet` -/

structure Route where
  /-- `none` is a key that is missing. -/
  target : Option PyStr
deriving DecidableEq

/-- A part of an address, as the operators see it; one that is missing is `undefined`, 0 to them as
NaN is. -/
def part (parts : List Double) (i : Nat) : Js.Num := (parts.getD i .nan).int32

/-- `ipToInt`. -/
def ipToInt (ip : PyStr) : Js.Num :=
  let parts := (split ip (ch '.')).map numberOf
  ((((part parts 0).shiftLeft (some 24)).or ((part parts 1).shiftLeft (some 16))).or
    ((part parts 2).shiftLeft (some 8))).or (part parts 3)

/-- The mask of a text behind the slash. -/
def maskInt (mask : PyStr) : Js.Num :=
  let subnetBits := parseInt mask (some 10)
  ((Js.Num.shiftLeft (some 1) (Js.Num.sub (some 32) subnetBits)).sub (some 1)).not

/-- The test of one target. -/
def inTarget (ipInt : Js.Num) (target : PyStr) : Bool :=
  let (subnet, mask) := splitCidr target
  (ipToInt subnet).and (maskInt mask) == ipInt.and (maskInt mask)

/-- A pass of the loop; no target and an empty one are skipped. -/
def inRoute (ipInt : Js.Num) (route : Route) : Bool :=
  match route.target with
  | none => false
  | some target => !target.isEmpty && inTarget ipInt target

/-- `isIPInSubnet`. -/
def isIPInSubnet (ip : PyStr) (targets : Option (List Route)) : Bool :=
  match targets with
  | none => false
  | some targets =>
    let ipInt := ipToInt ip
    if !targets.any (·.target.isSome) then false
    else targets.any (inRoute ipInt)

/-! ## 2. Targets -/

variable {target ip length : PyStr} {m n : BitVec 32} {p : Nat}

/-- The target is the IPv4 address `m` and a prefix length of `p`. -/
def Cidr4 (target : PyStr) (m : BitVec 32) (p : Nat) : Prop :=
  ∃ ip length, target = ip ++ ch '/' :: length ∧ ch '/' ∉ ip ∧ IsDecimal length ∧
    ofDigits 10 length = p ∧ p ≤ 32 ∧ ipv4FromString ip = some m

/-- The target is the IPv6 address `ip` and a prefix length of `p`. -/
def Cidr6 (target ip : PyStr) (p : Nat) : Prop :=
  ∃ length, target = ip ++ ch '/' :: length ∧ ch '/' ∉ ip ∧ IsDecimal length ∧
    ofDigits 10 length = p ∧ p ≤ 128 ∧ IsIPv6 ip

/-- **The address lies in the target**, an IPv4 network. -/
def Contains (target : PyStr) (n : BitVec 32) : Prop := ∃ m p, Cidr4 target m p ∧ SamePrefix p n m

/-- The targets of a list of routes. -/
def targetsOf (routes : List Route) : List PyStr := routes.filterMap (·.target)

theorem cases_of_isCIDR (h : IsCIDR target) :
    (∃ m p, Cidr4 target m p) ∨ ∃ ip p, Cidr6 target ip p := by
  obtain ⟨ip, length, rfl, hip, hdecimal, -, hlength⟩ := h
  rcases hlength with ⟨h4, hle⟩ | ⟨h6, hle⟩
  · obtain ⟨m, hm⟩ := Option.isSome_iff_exists.mp h4
    exact .inl ⟨m, _, ip, length, rfl, hip, hdecimal, rfl, Int.ofNat_le.mp hle, hm⟩
  · exact .inr ⟨ip, _, length, rfl, hip, hdecimal, rfl, Int.ofNat_le.mp hle, h6⟩

/-! ## 3. What is left of an address -/

/-- The number of the parts of an address. -/
theorem ipToInt_eq {parts : List Double} (hparts : (split ip (ch '.')).map numberOf = parts)
    {a b c d : BitVec 8} (ha : part parts 0 = Js.Num.ofBits (a.setWidth 32))
    (hb : part parts 1 = Js.Num.ofBits (b.setWidth 32))
    (hc : part parts 2 = Js.Num.ofBits (c.setWidth 32))
    (hd : part parts 3 = Js.Num.ofBits (d.setWidth 32)) :
    ipToInt ip = Js.Num.ofBits (ofOctets a b c d) := by
  have hshift (x : BitVec 32) (shift : Int) (k : Nat)
      (hk : (Js.Num.bits (some shift)).toNat % 32 = k) :
      (Js.Num.ofBits x).shiftLeft (some shift) = Js.Num.ofBits (x <<< k) := by
    unfold Js.Num.shiftLeft
    rw [Js.Num.bits_ofBits, hk]
  have hor (x y : BitVec 32) :
      (Js.Num.ofBits x).or (Js.Num.ofBits y) = Js.Num.ofBits (x ||| y) := by
    unfold Js.Num.or
    rw [Js.Num.bits_ofBits, Js.Num.bits_ofBits]
  unfold ipToInt
  dsimp only
  rw [hparts, ha, hb, hc, hd, hshift _ 24 24 (by decide), hshift _ 16 16 (by decide),
    hshift _ 8 8 (by decide), hor, hor, hor, or_octets]

theorem int32_octet (o : BitVec 8) :
    (numberOf (Python.decimal o.toNat)).int32 = Js.Num.ofBits (o.setWidth 32) := by
  rw [numberOf_decimal (o.isLt.trans (by decide)), Double.int32_natCast, BitVec.ofNat_toNat]

/-- The octets of an address, of which the first may have something in front. -/
theorem ipToInt_of_octets {x : Double} {a b c d : BitVec 8}
    (hparts : (split ip (ch '.')).map numberOf =
      x :: ([b, c, d].map fun o => Python.decimal o.toNat).map numberOf)
    (hx : x.int32 = Js.Num.ofBits (a.setWidth 32)) :
    ipToInt ip = Js.Num.ofBits (ofOctets a b c d) := by
  have hpart (x y z w : Double) : part [x, y, z, w] 0 = x.int32 ∧ part [x, y, z, w] 1 = y.int32 ∧
      part [x, y, z, w] 2 = z.int32 ∧ part [x, y, z, w] 3 = w.int32 := ⟨rfl, rfl, rfl, rfl⟩
  simp only [List.map_cons, List.map_nil] at hparts
  obtain ⟨h₀, h₁, h₂, h₃⟩ := hpart x (numberOf (Python.decimal b.toNat))
    (numberOf (Python.decimal c.toNat)) (numberOf (Python.decimal d.toNat))
  exact ipToInt_eq hparts (h₀.trans hx) (h₁.trans (int32_octet b)) (h₂.trans (int32_octet c))
    (h₃.trans (int32_octet d))

/-- The parts of an IPv4 address. -/
theorem ipToInt_ipv4Text (n : BitVec 32) : ipToInt (ipv4Text n) = Js.Num.ofBits n := by
  have hparts := congrArg (List.map numberOf) (split_ipv4Text n)
  obtain ⟨a, b, c, d, rfl⟩ := exists_ofOctets n
  rw [octets_ofOctets, List.map_cons, List.map_cons] at hparts
  exact ipToInt_of_octets hparts (int32_octet a)

/-- What is left of an IPv6 address: the last three octets of a dotted tail. -/
def leftover (ip : PyStr) : BitVec 32 :=
  (((split ip (ch ':')).getLast?.bind ipv4FromString).getD 0) &&& 0x00ffffff

theorem ipToInt_of_notMem (hdot : ch '.' ∉ ip) (hcolon : ch ':' ∈ ip) :
    ipToInt ip = Js.Num.ofBits 0 := by
  have hparts : (split ip (ch '.')).map numberOf = [.nan] := by
    unfold split
    rw [List.splitOn_eq_singleton hdot, List.map_singleton, numberOf_of_colon hcolon]
  exact ipToInt_eq (a := 0) (b := 0) (c := 0) (d := 0) hparts rfl rfl rfl rfl

theorem ipToInt_dotted {front : PyStr} (hfront : ch '.' ∉ front) (n : BitVec 32) :
    ipToInt (front ++ ch ':' :: ipv4Text n) = Js.Num.ofBits (n &&& 0x00ffffff) := by
  have hparts := split_ipv4Text n
  obtain ⟨a, b, c, d, rfl⟩ := exists_ofOctets n
  rw [octets_ofOctets] at hparts
  have hcolon : ch '.' ∉ front ++ [ch ':'] := by
    rw [List.mem_append, List.mem_singleton]
    exact not_or.mpr ⟨hfront, by decide⟩
  have hsplit : split (front ++ ch ':' :: ipv4Text (ofOctets a b c d)) (ch '.') =
      (front ++ [ch ':'] ++ Python.decimal a.toNat) ::
        [b, c, d].map fun o => Python.decimal o.toNat := by
    unfold split at hparts ⊢
    rw [List.append_cons, splitOn_append_of_notMem hcolon, hparts]
    rfl
  have hnan : numberOf (front ++ [ch ':'] ++ Python.decimal a.toNat) = .nan :=
    numberOf_of_colon (by simp)
  have hlow : ofOctets a b c d &&& 0x00ffffff = ofOctets 0 b c d := by
    rw [show (0x00ffffff : BitVec 32) = ofOctets 0 (.allOnes 8) (.allOnes 8) (.allOnes 8) by decide,
      and_ofOctets]
    simp only [BitVec.and_allOnes, BitVec.ofNat_eq_ofNat, BitVec.and_zero]
  have hparts := congrArg (List.map numberOf) hsplit
  rw [List.map_cons, hnan] at hparts
  rw [hlow]
  exact ipToInt_of_octets hparts rfl

/-- **What `ipToInt` makes of an IPv6 address.** -/
theorem ipToInt_of_isIPv6 (h : IsIPv6 ip) : ipToInt ip = Js.Num.ofBits (leftover ip) := by
  obtain ⟨n, hn⟩ := Option.isSome_iff_exists.mp h
  have hcolon : ch ':' ∈ ip := colon_mem_of_ipv6FromString hn
  have hjoin : join (py ":") (split ip (ch ':')) = ip := List.intercalate_splitOn _
  rcases ipv6FromString_cases hn with hgroups | ⟨parts, tail, m, hsplit, hm, hgroups⟩
  · have hdot : ch '.' ∉ ip := by
      rw [← hjoin]
      intro hmem
      rcases mem_join hmem with hc | ⟨p, hp, hc⟩
      · exact absurd hc (by decide)
      · exact absurd (hgroups.mem hp hc) (by decide)
    have hnone : (split ip (ch ':')).getLast?.bind ipv4FromString = none := by
      cases hlast : (split ip (ch ':')).getLast? with
      | none => rfl
      | some p =>
        refine ipv4FromString_of_notMem fun hc => ?_
        exact absurd (hgroups.mem (List.mem_of_getLast? hlast) hc) (by decide)
    rw [ipToInt_of_notMem hdot hcolon]
    unfold leftover
    rw [hnone]
    rfl
  · obtain rfl := ipv4Text_of_parse hm
    have hleftover : leftover ip = m &&& 0x00ffffff := by
      unfold leftover
      rw [hsplit, List.getLast?_concat, Option.bind_some, hm, Option.getD_some]
    have hfront : ch '.' ∉ join (py ":") parts := by
      intro hmem
      rcases mem_join hmem with hc | ⟨p, hp, hc⟩
      · exact absurd hc (by decide)
      · exact absurd (hgroups.mem (List.mem_append_left _ hp) hc) (by decide)
    have hip : ip = join (py ":") parts ++ ch ':' :: ipv4Text m := by
      rw [← hjoin, hsplit]
      cases parts with
      | nil =>
        rw [← hjoin, hsplit] at hcolon
        simp only [join, List.nil_append, List.intercalate_singleton] at hcolon
        exact absurd hcolon (colon_notMem_of_ipv4FromString hm)
      | cons p parts => exact join_concat _ p _ parts
    rw [hleftover, hip, ipToInt_dotted hfront]

/-! ## 4. The test of a target -/

/-- How many bits the mask keeps. -/
def maskLength (p : Nat) : Nat := if p % 32 = 0 then 32 else p % 32

theorem maskInt_eq (hdecimal : IsDecimal length) (hp : ofDigits 10 length = p) (hle : p ≤ 128) :
    maskInt length = Js.Num.ofBits (prefixMask 32 (maskLength p)) := by
  have hall : ∀ p < 129,
      ((Js.Num.shiftLeft (some 1) (Js.Num.sub (some 32) (some ((p : Nat) : Int)))).sub
        (some 1)).not =
        Js.Num.ofBits (prefixMask 32 (maskLength p)) := by
    decide +kernel
  unfold maskInt
  rw [parseInt_digits hdecimal.1 hdecimal.2 (.inr rfl), hp]
  exact hall p (Nat.lt_succ_of_le hle)

theorem inTarget_iff (hip : ch '/' ∉ ip) (hdecimal : IsDecimal length) (hp : ofDigits 10 length = p)
    (hle : p ≤ 128) (hm : ipToInt ip = Js.Num.ofBits m) :
    inTarget (Js.Num.ofBits n) (ip ++ ch '/' :: length) = true ↔ SamePrefix (maskLength p) n m := by
  have hslash : ch '/' ∉ length := fun hc => absurd (hdecimal.2 _ hc) (by decide)
  have hmask : maskLength p ≤ 32 := by
    unfold maskLength
    split <;> omega
  unfold inTarget
  rw [splitCidr_append hip hslash]
  dsimp only
  rw [beq_iff_eq, hm, maskInt_eq hdecimal hp hle]
  unfold Js.Num.and Js.Num.ofBits
  rw [Option.some.injEq, BitVec.toInt_inj]
  have hbits := Js.Num.bits_ofBits
  unfold Js.Num.ofBits at hbits
  rw [hbits, hbits, hbits, eq_comm, and_prefixMask_eq_iff hmask]

theorem Cidr4.inTarget_iff (h : Cidr4 target m p) :
    inTarget (Js.Num.ofBits n) target = true ↔ SamePrefix (maskLength p) n m := by
  obtain ⟨ip, length, rfl, hip, hdecimal, hp, hle, hm⟩ := h
  obtain rfl := ipv4Text_of_parse hm
  exact SubnetTest.inTarget_iff hip hdecimal hp (hle.trans (by decide)) (ipToInt_ipv4Text m)

theorem Cidr6.inTarget_iff (h : Cidr6 target ip p) :
    inTarget (Js.Num.ofBits n) target = true ↔ SamePrefix (maskLength p) n (leftover ip) := by
  obtain ⟨length, rfl, hip, hdecimal, hp, hle, h6⟩ := h
  exact SubnetTest.inTarget_iff hip hdecimal hp hle (ipToInt_of_isIPv6 h6)

/-- The address agrees with an IPv4 target in the bits that the mask keeps. -/
def Agrees (target : PyStr) (n : BitVec 32) : Prop :=
  ∃ m p, Cidr4 target m p ∧ SamePrefix (maskLength p) n m

/-- The address agrees with what is left of an IPv6 target. -/
def Strays (target : PyStr) (n : BitVec 32) : Prop :=
  ∃ ip p, Cidr6 target ip p ∧ SamePrefix (maskLength p) n (leftover ip)

theorem inTarget_iff_of_isCIDR (h : IsCIDR target) :
    inTarget (Js.Num.ofBits n) target = true ↔ Agrees target n ∨ Strays target n := by
  constructor
  · intro hin
    rcases cases_of_isCIDR h with ⟨m, p, hcidr⟩ | ⟨ip, p, hcidr⟩
    · exact .inl ⟨m, p, hcidr, hcidr.inTarget_iff.mp hin⟩
    · exact .inr ⟨ip, p, hcidr, hcidr.inTarget_iff.mp hin⟩
  · rintro (⟨m, p, hcidr, hsame⟩ | ⟨ip, p, hcidr, hsame⟩)
    · exact hcidr.inTarget_iff.mpr hsame
    · exact hcidr.inTarget_iff.mpr hsame

/-- No bit is kept that does not count, except for the length 0. -/
theorem Agrees.contains (h : Agrees target n) : Contains target n := by
  obtain ⟨m, p, hcidr, hsame⟩ := h
  refine ⟨m, p, hcidr, fun i hi => hsame i (Nat.lt_of_lt_of_le hi ?_)⟩
  obtain ⟨-, -, -, -, -, -, hle, -⟩ := hcidr
  unfold maskLength
  split <;> omega

theorem Contains.agrees (h : Contains target n) (hzero : ∀ m, ¬Cidr4 target m 0) :
    Agrees target n := by
  obtain ⟨m, p, hcidr, hsame⟩ := h
  have hne : p ≠ 0 := by
    rintro rfl
    exact hzero m hcidr
  refine ⟨m, p, hcidr, fun i hi => hsame i (Nat.lt_of_lt_of_le hi ?_)⟩
  obtain ⟨-, -, -, -, -, -, hle, -⟩ := hcidr
  unfold maskLength
  split <;> omega

/-! ## 5. Membership -/

/-- **When the answer is right.** -/
structure Clear (targets : List PyStr) (n : BitVec 32) : Prop where
  /-- Where the address agrees with what is left of an IPv6 target, it lies in an IPv4 target too.
  -/
  stray : (∃ target ∈ targets, Strays target n) → ∃ target ∈ targets, Contains target n
  /-- Beside a default route there is another target with which the address agrees, or the default
  route is written with the address itself. -/
  default : (∃ target ∈ targets, ∃ m, Cidr4 target m 0) →
    ∃ target ∈ targets, Agrees target n ∨ Strays target n

theorem isIPInSubnet_iff (hip : ipv4FromString ip = some n) {routes : List Route}
    (hcidr : ∀ target ∈ targetsOf routes, IsCIDR target) :
    isIPInSubnet ip (some routes) = true ↔
      ∃ target ∈ targetsOf routes, Agrees target n ∨ Strays target n := by
  obtain rfl := ipv4Text_of_parse hip
  unfold isIPInSubnet
  dsimp only
  rw [ipToInt_ipv4Text]
  constructor
  · intro h
    split at h
    · cases h
    · obtain ⟨route, hroute, h⟩ := List.any_eq_true.mp h
      unfold inRoute at h
      split at h
      · cases h
      · next target htarget =>
        have hmem := List.mem_filterMap.mpr ⟨route, hroute, htarget⟩
        rw [Bool.and_eq_true] at h
        exact ⟨target, hmem, (inTarget_iff_of_isCIDR (hcidr target hmem)).mp h.2⟩
  · rintro ⟨target, hmem, h⟩
    have hin := (inTarget_iff_of_isCIDR (hcidr target hmem)).mpr h
    have hne : target.isEmpty = false := by
      obtain ⟨front, length, rfl, -⟩ := hcidr target hmem
      simp
    obtain ⟨route, hroute, htarget⟩ := List.mem_filterMap.mp hmem
    have hsome : routes.any (·.target.isSome) = true :=
      List.any_eq_true.mpr ⟨route, hroute, Option.isSome_iff_exists.mpr ⟨target, htarget⟩⟩
    rw [hsome, if_neg (by decide), List.any_eq_true]
    refine ⟨route, hroute, ?_⟩
    unfold inRoute
    rw [htarget]
    dsimp only
    rw [hne, hin]
    rfl

/-- **Membership is exact** if and only if no IPv6 target is mistaken for an IPv4 one, and no
default route is needed. -/
theorem isIPInSubnet_exact_iff (ip : PyStr) (n : BitVec 32) (hip : ipv4FromString ip = some n)
    (routes : List Route) (hcidr : ∀ target ∈ targetsOf routes, IsCIDR target) :
    (isIPInSubnet ip (some routes) = true ↔ ∃ target ∈ targetsOf routes, Contains target n) ↔
      Clear (targetsOf routes) n := by
  rw [isIPInSubnet_iff hip hcidr]
  constructor
  · intro hexact
    constructor
    · rintro ⟨target, hmem, hstrays⟩
      exact hexact.mp ⟨target, hmem, .inr hstrays⟩
    · rintro ⟨target, hmem, m, hzero⟩
      exact hexact.mpr ⟨target, hmem, m, 0, hzero, fun i hi => absurd hi (Nat.not_lt_zero i)⟩
  · rintro ⟨hstray, hdefault⟩
    constructor
    · rintro ⟨target, hmem, hagrees | hstrays⟩
      · exact ⟨target, hmem, hagrees.contains⟩
      · exact hstray ⟨target, hmem, hstrays⟩
    · rintro ⟨target, hmem, hcontains⟩
      by_cases hzero : ∃ m, Cidr4 target m 0
      · exact hdefault ⟨target, hmem, hzero⟩
      · exact ⟨target, hmem, .inl (hcontains.agrees (not_exists.mp hzero))⟩

theorem isCIDR_examples :
    ∀ cidr ∈ [(py "10.1.0.0", py "16"), (py "0.0.0.0", py "0"), (py "2000::", py "3")],
      IsCIDR (cidr.1 ++ ch '/' :: cidr.2) := by
  intro cidr hcidr
  have hall : ∀ cidr ∈ [(py "10.1.0.0", py "16"), (py "0.0.0.0", py "0"), (py "2000::", py "3")],
      ch '/' ∉ cidr.1 ∧ cidr.2 ≠ [] ∧ cidr.2.all isAsciiDigit = true ∧
        ((ipv4FromString cidr.1).isSome = true ∨ (ipv6FromString cidr.1).isSome = true) ∧
          ofDigits 10 cidr.2 ≤ 32 := by
    decide +kernel
  obtain ⟨hip, hne, hdigits, haddress, hle⟩ := hall cidr hcidr
  have hbound : (ofDigits 10 cidr.2 : Int) ≤ 32 := Int.ofNat_le.mpr hle
  refine ⟨cidr.1, cidr.2, rfl, hip, ⟨hne, List.all_eq_true.mp hdigits⟩, Int.natCast_nonneg _, ?_⟩
  exact haddress.imp (fun h4 => ⟨h4, hbound⟩) fun h6 => ⟨h6, hbound.trans (by decide)⟩

theorem isIPInSubnet_exact_iff_example :
    (isIPInSubnet (py "10.1.2.3")
      (some [⟨some (py "10.1.0.0/16")⟩, ⟨none⟩, ⟨some (py "2000::/3")⟩]) =
        true ↔
      ∃ target ∈ [py "10.1.0.0/16", py "2000::/3"], Contains target 0x0a010203) ↔
      Clear [py "10.1.0.0/16", py "2000::/3"] 0x0a010203 := by
  refine isIPInSubnet_exact_iff (py "10.1.2.3") 0x0a010203 (by decide +kernel)
    [⟨some (py "10.1.0.0/16")⟩, ⟨none⟩, ⟨some (py "2000::/3")⟩] fun target hmem => ?_
  change target ∈ [py "10.1.0.0/16", py "2000::/3"] at hmem
  rcases List.mem_cons.mp hmem with rfl | hmem
  · exact isCIDR_examples (py "10.1.0.0", py "16") List.mem_cons_self
  · rw [List.mem_singleton.mp hmem]
    exact isCIDR_examples (py "2000::", py "3") (by simp)

/-- **A default route that does not contain an address, and an IPv6 network that contains it.** -/
theorem not_in_default_route :
    (isIPInSubnet (py "10.1.2.3") (some [⟨some (py "0.0.0.0/0")⟩]) = false ∧
      IsCIDR (py "0.0.0.0/0") ∧ Contains (py "0.0.0.0/0") 0x0a010203) ∧
    (isIPInSubnet (py "10.1.2.3") (some [⟨some (py "2000::/3")⟩]) = true ∧
      IsCIDR (py "2000::/3") ∧ ¬Contains (py "2000::/3") 0x0a010203) := by
  have hzero : Cidr4 (py "0.0.0.0/0") 0 0 :=
    ⟨py "0.0.0.0", py "0", rfl, by decide, ⟨by decide, List.all_eq_true.mp (by decide)⟩,
      rfl, by decide,
      by decide +kernel⟩
  refine ⟨⟨by decide +kernel, isCIDR_examples (py "0.0.0.0", py "0") (by simp), 0, 0, hzero,
    fun i hi => absurd hi (Nat.not_lt_zero i)⟩, by decide +kernel,
    isCIDR_examples (py "2000::", py "3") (by simp), ?_⟩
  rintro ⟨m, p, ⟨ip, length, heq, hip, -, -, -, hm⟩, -⟩
  have hparts := (partition_append hip length).symm.trans (congrArg (partition · (ch '/')) heq.symm)
  rw [show partition (py "2000::/3") (ch '/') = (py "2000::", some (py "3")) by decide] at hparts
  rw [(Prod.mk.inj hparts).1, show ipv4FromString (py "2000::") = none by decide] at hm
  cases hm

end ZtPlanet.Ztnet.SubnetTest
