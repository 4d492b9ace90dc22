/-
# The assignment that is generated for a network

`IPv4gen` takes a target, or a network that it picks itself, and answers with the route of the
network and one pool, from the address behind the network address to the one in front of the
broadcast address.  It never refuses a target.

All of this is 32-bit arithmetic.  For a prefix of 1 to 30 bits it does what it should.  A shift by
32 is a shift by 0, so for the prefix 0 the pool runs from the address behind the one in the target
to the one in front of it; networks of one and of two addresses have no pool; and what it makes of
an IPv6 target is an IPv4 network (`IPv4gen_inside_iff`).
-/
import ZtPlanet.Ztnet.NetworkQuota
import ZtPlanet.Ztnet.PoolRoutes

namespace ZtPlanet.Ztnet.PoolRoutes

open ZtPlanet.Lib ZtPlanet.Python ZtPlanet.Python.IpAddress ZtPlanet.Js
open NetworkQuota (cidrOptions generateCidr)

/-! ## 1. `IPv4gen` -/

/-- `int32toIPv4String`. -/
def int32toIPv4String (int32 : Js.Num) : PyStr :=
  toString ((int32.and (some 0xff000000)).shiftRight (some 24)) 10 ++
    ch '.' :: toString ((int32.and (some 0x00ff0000)).shiftRight (some 16)) 10 ++
    ch '.' :: toString ((int32.and (some 0x0000ff00)).shiftRight (some 8)) 10 ++
    ch '.' :: toString (int32.and (some 0x000000ff)) 10

/-- What is answered; the modes are those of `v4AssignMode`. -/
structure Assignment where
  ipAssignmentPools : List IpRange
  routes : List Route
  zt : Bool
  cidrOptions : List PyStr
deriving DecidableEq

/-- The arithmetic of `IPv4gen`, for a network as a text. -/
def assignmentOf (cidr : PyStr) : Assignment :=
  let (start, length) := splitCidr cidr
  let host32 := ((Js.Num.shiftLeft (some 1) (Js.Num.sub (some 32) (parseInt length none))).sub
    (some 1)).shiftRight (some 0)
  let net := (split start (ch '.')).map (parseInt · none)
  let net32 := (((net.getD 0 none).shiftLeft (some 24)).add
    ((net.getD 1 none).shiftLeft (some 16))).add ((net.getD 2 none).shiftLeft (some 8))
  let net32 := (net32.add (net.getD 3 none)).and host32.not
  let bcast32 := net32.add host32
  { ipAssignmentPools :=
      [⟨int32toIPv4String (net32.add (some 1)), int32toIPv4String (bcast32.sub (some 1))⟩]
    routes := [⟨int32toIPv4String net32 ++ ch '/' :: length, none⟩]
    zt := true
    cidrOptions := cidrOptions.map fun cidr => py cidr.text }

/-- `IPv4gen(CIDR, usedCidr, getRandom)`, where `random` is what `Math.random` picks. -/
def IPv4gen (CIDR : Option PyStr) (usedCidr : List (List String)) (getRandom : Bool)
    (random : Fin cidrOptions.length) : Assignment :=
  match CIDR with
  | none | some [] => assignmentOf (py (generateCidr usedCidr getRandom random).text)
  | some cidr => assignmentOf cidr

/-! ## 2. 32-bit arithmetic -/

/-- **`int32toIPv4String`** sees a number modulo 2^32. -/
theorem int32toIPv4String_eq (x : Js.Num) : int32toIPv4String x = ipv4Text x.bits := by
  obtain ⟨a, b, c, d, hx⟩ := exists_ofOctets x.bits
  have ha : (x.and (some 0xff000000)).shiftRight (some 24) = some (a.toNat : Int) := by
    refine shiftRight_and 24 (b := ofOctets a 0 0 0) (by decide) ?_ ?_
    · rw [hx, show Js.Num.bits (some 0xff000000) = ofOctets (.allOnes 8) 0 0 0 by decide,
        and_ofOctets]
      simp only [BitVec.and_allOnes, BitVec.ofNat_eq_ofNat, BitVec.and_zero]
    · rw [toNat_ofOctets, show (0 : BitVec 8).toNat = 0 from rfl]
      omega
  have hb : (x.and (some 0x00ff0000)).shiftRight (some 16) = some (b.toNat : Int) := by
    refine shiftRight_and 16 (b := ofOctets 0 b 0 0) (by decide) ?_ ?_
    · rw [hx, show Js.Num.bits (some 0x00ff0000) = ofOctets 0 (.allOnes 8) 0 0 by decide,
        and_ofOctets]
      simp only [BitVec.and_allOnes, BitVec.ofNat_eq_ofNat, BitVec.and_zero]
    · rw [toNat_ofOctets, show (0 : BitVec 8).toNat = 0 from rfl]
      omega
  have hc : (x.and (some 0x0000ff00)).shiftRight (some 8) = some (c.toNat : Int) := by
    refine shiftRight_and 8 (b := ofOctets 0 0 c 0) (by decide) ?_ ?_
    · rw [hx, show Js.Num.bits (some 0x0000ff00) = ofOctets 0 0 (.allOnes 8) 0 by decide,
        and_ofOctets]
      simp only [BitVec.and_allOnes, BitVec.ofNat_eq_ofNat, BitVec.and_zero]
    · rw [toNat_ofOctets, show (0 : BitVec 8).toNat = 0 from rfl]
      omega
  have hd : x.and (some 0x000000ff) = some (d.toNat : Int) := by
    have hand : x.bits &&& Js.Num.bits (some 0x000000ff) = ofOctets 0 0 0 d := by
      rw [hx, show Js.Num.bits (some 0x000000ff) = ofOctets 0 0 0 (.allOnes 8) by decide,
        and_ofOctets]
      simp only [BitVec.and_allOnes, BitVec.ofNat_eq_ofNat, BitVec.and_zero]
    have hlt := d.isLt
    have hvalue : (ofOctets 0 0 0 d).toNat = d.toNat := by
      rw [toNat_ofOctets]
      simp
    unfold Js.Num.and
    rw [hand, ofBits_of_lt (by omega), hvalue]
  unfold int32toIPv4String
  rw [ha, hb, hc, hd, toString_natCast, toString_natCast, toString_natCast, toString_natCast, hx,
    ipv4Text_eq, octets_ofOctets]
  simp [join, List.intercalate, py_eq_map]

theorem bits_sub_some (x y : Int) :
    Js.Num.bits (Js.Num.sub (some x) (some y)) = Js.Num.bits (some x) - Js.Num.bits (some y) := by
  show BitVec.ofInt 32 (x - y) = BitVec.ofInt 32 x - BitVec.ofInt 32 y
  rw [Int.sub_eq_add_neg, BitVec.ofInt_add, BitVec.ofInt_neg, BitVec.sub_eq_add_neg]

/-- What is masked off for a prefix of `p` bits: a shift by 32 is a shift by 0. -/
def hostMask (p : Nat) : BitVec 32 := 1#32 <<< ((32 - p) % 32) - 1

theorem host32_eq {p : Nat} (hp : p ≤ 32) :
    ((Js.Num.shiftLeft (some 1) (Js.Num.sub (some 32) (some (p : Int)))).sub (some 1)).shiftRight
        (some 0) =
      some ((hostMask p).toNat : Int) := by
  have hcount : (Js.Num.bits (Js.Num.sub (some 32) (some (p : Int)))).toNat % 32 =
    (32 - p) % 32 := by
    have : Js.Num.sub (some 32) (some (p : Int)) = some ((32 - p : Nat) : Int) := by
      show some ((32 : Int) - p) = _
      congr 1
      omega
    rw [this]
    unfold Js.Num.bits
    rw [Option.getD_some, BitVec.ofInt_natCast, BitVec.toNat_ofNat]
    omega
  have hone : Js.Num.shiftLeft (some 1) (Js.Num.sub (some 32) (some (p : Int))) =
      some (1#32 <<< ((32 - p) % 32)).toInt := by
    unfold Js.Num.shiftLeft
    rw [hcount]
    rfl
  unfold Js.Num.shiftRight
  rw [hone, bits_sub_some, bits_toInt]
  rfl

theorem not_hostMask : ∀ p < 33, 1 ≤ p → ~~~ hostMask p = netmask 32 p := by decide +kernel

theorem toNat_hostMask : ∀ p < 33, 1 ≤ p → (hostMask p).toNat = 2 ^ (32 - p) - 1 := by
  decide +kernel

/-- The network address, as `IPv4gen` computes it. -/
def base (n : BitVec 32) (p : Nat) : BitVec 32 := n &&& ~~~ hostMask p

/-- **What `IPv4gen` answers** for an IPv4 network. -/
theorem assignmentOf_eq {cidr : PyStr} {n : BitVec 32} {p : Nat}
    (hn : address4 (splitCidr cidr).1 = some n)
    (hlength : parseInt (splitCidr cidr).2 none = some (p : Int)) (hp : p ≤ 32) :
    (assignmentOf cidr).ipAssignmentPools =
        [⟨ipv4Text (base n p + 1), ipv4Text (base n p + hostMask p - 1)⟩] ∧
      (assignmentOf cidr).routes =
      [⟨ipv4Text (base n p) ++ ch '/' :: (splitCidr cidr).2, none⟩] := by
  have hparts := parseInt_parts hn (.inl rfl)
  obtain ⟨a, b, c, d, rfl⟩ := exists_ofOctets n
  rw [octets_ofOctets] at hparts
  have hnet : Js.Num.and (sumOctets a b c d) (Js.Num.not (some ((hostMask p).toNat : Int))) =
      Js.Num.ofBits (base (ofOctets a b c d) p) := by
    unfold Js.Num.and Js.Num.not
    rw [bits_sumOctets, Js.Num.bits_ofBits, Js.Num.bits_toNat]
    rfl
  unfold assignmentOf
  dsimp only
  rw [hparts, hlength, host32_eq hp]
  show [IpRange.mk (int32toIPv4String ((Js.Num.and (sumOctets a b c d) _).add _))
      (int32toIPv4String (((Js.Num.and (sumOctets a b c d) _).add _).sub _))] = _ ∧
    [Route.mk (int32toIPv4String (Js.Num.and (sumOctets a b c d) _) ++ _) none] = _
  rw [hnet, int32toIPv4String_eq, int32toIPv4String_eq, int32toIPv4String_eq, Js.Num.bits_ofBits]
  have hstart : ((Js.Num.ofBits (base (ofOctets a b c d) p)).add (some 1)).bits =
      base (ofOctets a b c d) p + 1 := by
    unfold Js.Num.ofBits
    rw [Js.Num.bits_add_some, bits_toInt]
    rfl
  have hend : (((Js.Num.ofBits (base (ofOctets a b c d) p)).add
      (some ((hostMask p).toNat : Int))).sub (some 1)).bits =
      base (ofOctets a b c d) p + hostMask p - 1 := by
    show (Js.Num.sub (some ((base (ofOctets a b c d) p).toInt + (hostMask p).toNat))
      (some 1)).bits = _
    rw [bits_sub_some]
    show (Js.Num.add (some (base (ofOctets a b c d) p).toInt)
      (some ((hostMask p).toNat : Int))).bits -
      _ = _
    rw [Js.Num.bits_add_some, bits_toInt, Js.Num.bits_toNat]
    rfl
  rw [hstart, hend]
  exact ⟨rfl, rfl⟩

/-! ## 3. Pools inside their network -/

/-- The address is in the network, and is neither the network address nor the broadcast address. -/
def Usable (network : IpNetwork) (ip : IpAddress) : Prop :=
  network.contains ip = true ∧ network.interval.first < ip.number ∧
    ip.number < network.interval.last

/-- The route is the network of the target, and the pool has usable addresses of it from its start
to its end. -/
def Assignment.Inside (package : AddressPackage) (cidr : PyStr) (a : Assignment) : Prop :=
  ∃ network route pool first last, networkOf package cidr = some network ∧
    a.routes = [route] ∧ networkOf package route.target = some network ∧
    a.ipAssignmentPools = [pool] ∧ package.addressOf pool.ipRangeStart = some first ∧
    package.addressOf pool.ipRangeEnd = some last ∧ first.number ≤ last.number ∧
    Usable network first ∧ Usable network last

theorem networkOf_eq (package : AddressPackage) {cidr : PyStr} {n : BitVec 32} {p : Nat}
    (hn : address4 (splitCidr cidr).1 = some n)
    (hlength : parseInt (splitCidr cidr).2 none = some (p : Int)) (hp : p ≤ 32) :
    networkOf package cidr = some (network4 n p) := by
  unfold networkOf
  dsimp only
  rw [addressOf_eq_v4.mpr hn, hlength]
  exact if_pos hp

/-- What stands behind the slash has no slash. -/
theorem slash_notMem_length (cidr : PyStr) : ch '/' ∉ (splitCidr cidr).2 := by
  unfold splitCidr split
  dsimp only
  cases hpart : (List.splitOn (ch '/') cidr)[1]? with
  | none => exact (by decide : ch '/' ∉ py "undefined")
  | some length => exact sep_notMem_field (List.mem_of_getElem? hpart)

/-- A usable address of an IPv4 network is strictly inside its block. -/
theorem usable_iff {n ip : BitVec 32} {p : Nat} (hp : p ≤ 32) :
    Usable (network4 n p) (.v4 ip) ↔ (n &&& netmask 32 p).toNat < ip.toNat ∧
      ip.toNat < (n &&& netmask 32 p).toNat + 2 ^ (32 - p) - 1 := by
  have hmasked : n &&& netmask 32 p &&& netmask 32 p = n &&& netmask 32 p :=
    IpNetwork.and_mask_idem _ _
  have hin : inNetwork ip (n &&& netmask 32 p, p) = true ↔ _ := inNetwork_iff hp hmasked
  constructor
  · exact fun h => h.2
  · exact fun h => ⟨hin.mpr ⟨h.1.le, h.2.le⟩, h⟩

/-- The block of an address does not go past the last address. -/
theorem toNat_masked_add_le (n : BitVec 32) {p : Nat} (hp : p ≤ 32) :
    (n &&& netmask 32 p).toNat + 2 ^ (32 - p) ≤ 2 ^ 32 := by
  have hsize : 2 ^ (32 - p) * 2 ^ p = 2 ^ 32 := by
    rw [← Nat.pow_add, Nat.sub_add_cancel hp]
  have hquotient : n.toNat / 2 ^ (32 - p) < 2 ^ p := by
    refine Nat.div_lt_of_lt_mul ?_
    rw [hsize]
    exact n.isLt
  rw [toNat_and_netmask n hp, ← Nat.succ_mul, ← hsize, Nat.mul_comm (2 ^ (32 - p))]
  exact Nat.mul_le_mul_right _ hquotient

/-- **An IPv4 target**: the pool is inside the network for a prefix of 1 to 30 bits only. -/
theorem assignmentOf_inside_iff (package : AddressPackage) {cidr : PyStr} {n : BitVec 32} {p : Nat}
    (hn : address4 (splitCidr cidr).1 = some n)
    (hlength : parseInt (splitCidr cidr).2 none = some (p : Int)) (hp : p ≤ 32) :
    (assignmentOf cidr).Inside package cidr ↔ 1 ≤ p ∧ p ≤ 30 := by
  obtain ⟨hpools, hroutes⟩ := assignmentOf_eq hn hlength hp
  have hnetwork := networkOf_eq package hn hlength hp
  have hblock := toNat_masked_add_le n hp
  constructor
  · rintro ⟨network, route, pool, first, last, hnetwork', -, -, hpool, hfirst, hlast, hle, hu, hu'⟩
    cases hnetwork.symm.trans hnetwork'
    cases hpools.symm.trans hpool
    cases (addressOf_ipv4Text package _).symm.trans hfirst
    cases (addressOf_ipv4Text package _).symm.trans hlast
    rw [usable_iff hp] at hu hu'
    have hle' : (base n p + 1).toNat ≤ (base n p + hostMask p - 1).toNat := hle
    by_cases hzero : p = 0
    · -- nothing is masked off, and the pool lies around the address of the target
      subst hzero
      have hbase : base n 0 = n := by
        unfold base
        rw [show ~~~ hostMask 0 = BitVec.allOnes 32 by decide, BitVec.and_allOnes]
      have hmask : n &&& netmask 32 0 = 0 := by
        rw [show netmask 32 0 = 0#32 by decide, BitVec.and_zero]
        rfl
      rw [hbase, show hostMask 0 = 0#32 by decide, BitVec.add_zero] at hle' hu'
      rw [hbase, hmask] at hu
      rw [hmask] at hu'
      have hn' := n.isLt
      simp only [BitVec.toNat_add, BitVec.toNat_sub, BitVec.toNat_ofNat, BitVec.ofNat_eq_ofNat]
        at hu hu' hle'
      omega
    · refine ⟨Nat.pos_of_ne_zero hzero, ?_⟩
      by_contra hbig
      -- a block of two addresses has none between its ends
      have hsize : 2 ^ (32 - p) ≤ 2 ^ 1 := Nat.pow_le_pow_right (by decide) (by omega)
      omega
  · rintro ⟨hlow, hhigh⟩
    have hbase : base n p = n &&& netmask 32 p := by
      unfold base
      rw [not_hostMask p (by omega) hlow]
    have hhost := toNat_hostMask p (by omega) hlow
    have hsize : 2 ^ 2 ≤ 2 ^ (32 - p) := Nat.pow_le_pow_right (by decide) (by omega)
    have hroute : networkOf package (ipv4Text (base n p) ++ ch '/' :: (splitCidr cidr).2) =
        some (network4 n p) := by
      have hsplit := splitCidr_append (slash_notMem_ipv4Text (base n p)) (slash_notMem_length cidr)
      rw [networkOf_eq package (n := base n p) (p := p) (by rw [hsplit]; exact address4_ipv4Text _)
        (by rw [hsplit]; exact hlength) hp, hbase]
      unfold network4
      rw [IpNetwork.and_mask_idem]
    have hstart : (base n p + 1).toNat = (n &&& netmask 32 p).toNat + 1 := by
      rw [hbase, BitVec.toNat_add]
      exact Nat.mod_eq_of_lt (by
        show (n &&& netmask 32 p).toNat + 1 < 2 ^ 32
        omega)
    have hend : (base n p + hostMask p - 1).toNat =
        (n &&& netmask 32 p).toNat + 2 ^ (32 - p) - 2 := by
      rw [hbase, BitVec.toNat_sub, BitVec.toNat_add, hhost]
      show (2 ^ 32 - 1 + _) % 2 ^ 32 = _
      omega
    refine ⟨_, _, _, _, _, hnetwork, hroutes, hroute, hpools, addressOf_ipv4Text package _,
      addressOf_ipv4Text package _, ?_, (usable_iff hp).mpr ?_, (usable_iff hp).mpr ?_⟩
    · show (base n p + 1).toNat ≤ (base n p + hostMask p - 1).toNat
      omega
    · omega
    · omega

/-- What is answered for a target that is no IPv4 network is one all the same. -/
theorem assignmentOf_not_inside (package : AddressPackage) {cidr : PyStr}
    (h : address4 (splitCidr cidr).1 = none) : ¬ (assignmentOf cidr).Inside package cidr := by
  rintro ⟨network, route, pool, first, last, hnetwork, -, -, hpool, hfirst, -, -, hu, -⟩
  have hversion : network.version = 6 := by
    unfold networkOf AddressPackage.addressOf at hnetwork
    dsimp only at hnetwork
    rw [h] at hnetwork
    dsimp only at hnetwork
    split at hnetwork
    · next heq _ =>
      split at heq <;> cases heq
    · split at hnetwork
      · cases hnetwork
        rfl
      · cases hnetwork
    · cases hnetwork
  cases hpool
  rw [int32toIPv4String_eq] at hfirst
  cases (addressOf_ipv4Text package _).symm.trans hfirst
  rw [version_eq_of_contains hu.1] at hversion
  cases hversion

/-- The prefix of an IPv4 target that is accepted. -/
theorem exists_length_of_isValidCIDR {package : AddressPackage} {cidr : PyStr}
    (hvalid : isValidCIDR package cidr = true) (h4 : package.isValid4 (splitCidr cidr).1 = true) :
    ∃ p : Nat, parseInt (splitCidr cidr).2 none = some (p : Int) ∧ p ≤ 32 := by
  unfold isValidCIDR at hvalid
  dsimp only at hvalid
  rw [if_pos h4, Bool.and_eq_true] at hvalid
  cases hlength : parseInt (splitCidr cidr).2 none with
  | none =>
    rw [hlength] at hvalid
    cases hvalid.1
  | some x =>
    rw [hlength] at hvalid
    have hlow : 0 ≤ x := of_decide_eq_true hvalid.1
    have hhigh : x ≤ 32 := of_decide_eq_true hvalid.2
    obtain ⟨p, rfl⟩ := Int.eq_ofNat_of_zero_le hlow
    exact ⟨p, rfl, by omega⟩

/-- **Easy assignment**: for a target that is accepted, the route is its network and the pool is
inside it if and only if the target is an IPv4 network with a prefix of 1 to 30 bits.  No target
is refused. -/
theorem IPv4gen_inside_iff (package : AddressPackage) (hsound : package.Sound) (cidr : PyStr)
    (hvalid : isValidCIDR package cidr = true) (usedCidr : List (List String)) (getRandom : Bool)
    (random : Fin cidrOptions.length) :
    (IPv4gen (some cidr) usedCidr getRandom random).Inside package cidr ↔
      package.isValid4 (splitCidr cidr).1 = true ∧
        ∃ p : Nat, parseInt (splitCidr cidr).2 none = some (p : Int) ∧ 1 ≤ p ∧ p ≤ 30 := by
  have hnil : address4 [] = none := by decide
  have hgen : IPv4gen (some cidr) usedCidr getRandom random = assignmentOf cidr := by
    cases cidr with
    | nil =>
      unfold isValidCIDR at hvalid
      dsimp only at hvalid
      rw [show (splitCidr []).1 = [] by decide] at hvalid
      split at hvalid
      · next h4 =>
        have := hsound.isValid4 _ h4
        rw [hnil] at this
        cases this
      · split at hvalid
        · next h6 => exact absurd (hsound.isValid6 _ h6) List.not_mem_nil
        · cases hvalid
    | cons c cidr => rfl
  rw [hgen]
  by_cases h4 : package.isValid4 (splitCidr cidr).1 = true
  · obtain ⟨n, hn⟩ := Option.isSome_iff_exists.mp (hsound.isValid4 _ h4)
    obtain ⟨p, hlength, hp⟩ := exists_length_of_isValidCIDR hvalid h4
    rw [assignmentOf_inside_iff package hn hlength hp]
    constructor
    · exact fun h => ⟨h4, p, hlength, h⟩
    · rintro ⟨-, p', hlength', h⟩
      have hpp : (p : Int) = p' := Option.some.inj (hlength.symm.trans hlength')
      omega
  · have h6 : package.isValid6 (splitCidr cidr).1 = true := by
      unfold isValidCIDR at hvalid
      dsimp only at hvalid
      rw [if_neg h4] at hvalid
      by_contra h6
      rw [if_neg h6] at hvalid
      cases hvalid
    have hnone : address4 (splitCidr cidr).1 = none := by
      by_contra hsome
      obtain ⟨n, hn⟩ := Option.ne_none_iff_exists'.mp hsome
      exact colon_notMem_of_address4 hn (hsound.isValid6 _ h6)
    exact iff_of_false (assignmentOf_not_inside package hnone) fun h => h4 h.1

theorem IPv4gen_inside_option :
    (IPv4gen (some (py "10.121.15.7/24")) [] false ⟨0, by decide⟩).Inside .plain
    (py "10.121.15.7/24") ↔
      AddressPackage.plain.isValid4 (splitCidr (py "10.121.15.7/24")).1 = true ∧
        ∃ p : Nat, parseInt (splitCidr (py "10.121.15.7/24")).2 none = some (p : Int) ∧
          1 ≤ p ∧ p ≤ 30 :=
  IPv4gen_inside_iff .plain AddressPackage.plain_sound (py "10.121.15.7/24") (by decide +kernel) []
    false ⟨0, by decide⟩

/-- **Targets without a pool inside**: two addresses, all addresses, and IPv6. -/
theorem IPv4gen_outside :
    (isValidCIDR .plain (py "10.0.0.0/31") = true ∧
      ¬(IPv4gen (some (py "10.0.0.0/31")) [] false ⟨0, by decide⟩).Inside .plain
        (py "10.0.0.0/31")) ∧
    (isValidCIDR .plain (py "0.0.0.0/0") = true ∧
      ¬(IPv4gen (some (py "0.0.0.0/0")) [] false ⟨0, by decide⟩).Inside .plain (py "0.0.0.0/0")) ∧
    (isValidCIDR .plain (py "fd00::/8") = true ∧
      ¬(IPv4gen (some (py "fd00::/8")) [] false ⟨0, by decide⟩).Inside .plain (py "fd00::/8")) := by
  refine ⟨⟨by decide +kernel, fun h => ?_⟩, ⟨by decide +kernel, fun h => ?_⟩, by decide +kernel, ?_⟩
  · have := (assignmentOf_inside_iff .plain (n := 0x0a000000) (p := 31) (by decide +kernel)
      (by decide +kernel) (by decide)).mp h
    omega
  · have := (assignmentOf_inside_iff .plain (n := 0) (p := 0) (by decide +kernel)
      (by decide +kernel) (by decide)).mp h
    omega
  · exact assignmentOf_not_inside .plain (by decide +kernel)

end ZtPlanet.Ztnet.PoolRoutes
