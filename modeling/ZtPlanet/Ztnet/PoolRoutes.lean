/-
# The routes of the pools

`getNetworkClassCIDR` computes a route for each assignment pool: it writes start and end as binary
texts, and the digits that they have in common are the network.

The arithmetic is for IPv4, and the test that skips an empty range compares signed numbers.  So a
pool that straddles 128.0.0.0 gets no route, and an IPv6 pool gets one that has nothing to do with
it; every other pool is covered (`routes_cover_iff`).
-/
import ZtPlanet.Lib.Fields
import ZtPlanet.Ztnet.OctetArithmetic

namespace ZtPlanet.Ztnet.PoolRoutes

open ZtPlanet.Lib ZtPlanet.Python ZtPlanet.Python.IpAddress ZtPlanet.Js

/-! ## 1. `getNetworkClassCIDR` -/

/-- A managed route; the gateway is `null` where there is none. -/
structure Route where
  target : PyStr
  via : Option PyStr
deriving DecidableEq

/-- `ipToBinary`. -/
def ipToBinary (ip : PyStr) : PyStr :=
  ((split ip (ch '.')).map fun octet =>
    padStart (toString (parseInt octet (some 10)) 2) 8 (ch '0')).flatten

/-- `binary.match(/.{1,8}/g)`. -/
def groups : PyStr → List PyStr
  | a :: b :: c :: d :: e :: f :: g :: h :: rest => [a, b, c, d, e, f, g, h] :: groups rest
  | [] => []
  | rest => [rest]

/-- `binaryToIp`. -/
def binaryToIp (binary : PyStr) : PyStr :=
  join (py ".") ((groups binary).map fun bin => toString (parseInt bin (some 2)) 10)

/-- `countCommonBits`. -/
def countCommonBits : PyStr → PyStr → Nat
  | c :: s, d :: t => if c = d then countCommonBits s t + 1 else 0
  | _, _ => 0

/-- `ipToNumber`. -/
def ipToNumber (ip : PyStr) : Js.Num :=
  (split ip (ch '.')).foldl
    (fun acc octet => (acc.shiftLeft (some 8)).add (parseInt octet (some 10))) (some 0)

/-- The body of the loop: the route of one pool, unless its start is not below its end. -/
def rangeRoute (range : IpRange) : Option Route :=
  if (ipToNumber range.ipRangeStart).ge (ipToNumber range.ipRangeEnd) then none
  else
    let binaryStart := ipToBinary range.ipRangeStart
    let commonBits := countCommonBits binaryStart (ipToBinary range.ipRangeEnd)
    let networkBinary := padEnd (binaryStart.take commonBits) 32 (ch '0')
    some ⟨binaryToIp networkBinary ++ ch '/' :: Python.decimal commonBits, none⟩

/-- `getNetworkClassCIDR`. -/
def getNetworkClassCIDR (ipRanges : List IpRange) : List Route := ipRanges.filterMap rangeRoute

/-! ## 2. Binary texts -/

/-- The bits of a number, as a text. -/
def bitText {w : Nat} (n : BitVec w) : PyStr :=
  (List.range w).map fun i => if n.getMsbD i then ch '1' else ch '0'

theorem length_bitText {w : Nat} (n : BitVec w) : (bitText n).length = w := by
  simp [bitText]

theorem getElem?_bitText {w i : Nat} (n : BitVec w) (hi : i < w) :
    (bitText n)[i]? = some (if n.getMsbD i then ch '1' else ch '0') := by
  simp [bitText, hi]

/-- The text tells the bits. -/
theorem getMsbD_of_bitText {w i : Nat} {m n : BitVec w} (hi : i < w)
    (h : (bitText m)[i]? = (bitText n)[i]?) : m.getMsbD i = n.getMsbD i := by
  rw [getElem?_bitText m hi, getElem?_bitText n hi] at h
  have hne : ch '1' ≠ ch '0' := by decide
  cases hm : m.getMsbD i <;> cases hn : n.getMsbD i <;> simp_all

theorem bitText_append {v w : Nat} (m : BitVec v) (n : BitVec w) :
    bitText (m ++ n) = bitText m ++ bitText n := by
  refine List.ext_getElem? fun i => ?_
  by_cases hi : i < v
  · rw [List.getElem?_append_left (by rwa [length_bitText]), getElem?_bitText _ (by omega),
      getElem?_bitText m hi, BitVec.getMsbD_append, if_neg (Nat.not_le.mpr hi)]
  · rw [List.getElem?_append_right (by rw [length_bitText]; omega), length_bitText]
    by_cases hi' : i < v + w
    · rw [getElem?_bitText _ hi', getElem?_bitText n (by omega), BitVec.getMsbD_append,
        if_pos (Nat.not_lt.mp hi)]
    · rw [List.getElem?_eq_none (by rw [length_bitText]; omega),
        List.getElem?_eq_none (by rw [length_bitText]; omega)]

theorem bitText_ofOctets (a b c d : BitVec 8) :
    bitText (ofOctets a b c d) = bitText a ++ (bitText b ++ (bitText c ++ bitText d)) := by
  rw [← List.append_assoc, ← List.append_assoc, ← bitText_append, ← bitText_append,
    ← bitText_append]
  rfl

theorem toString_octet : ∀ n < 256,
    padStart (toString (some (n : Nat)) 2) 8 (ch '0') = bitText (BitVec.ofNat 8 n) := by
  decide +kernel

theorem parseInt_octet : ∀ n < 256,
    parseInt (bitText (BitVec.ofNat 8 n)) (some 2) = some ((n : Nat) : Int) := by
  decide +kernel

/-- **The binary text** of an IPv4 address has its bits. -/
theorem ipToBinary_eq {ip : PyStr} {n : BitVec 32} (h : address4 ip = some n) :
    ipToBinary ip = bitText n := by
  have hoctet (o : BitVec 8) :
      padStart (toString (some (o.toNat : Int)) 2) 8 (ch '0') = bitText o := by
    rw [toString_octet o.toNat o.isLt, BitVec.ofNat_toNat, BitVec.setWidth_eq]
  have hparts := congrArg (List.map fun x => padStart (toString x 2) 8 (ch '0'))
    (parseInt_parts h (.inr rfl))
  obtain ⟨a, b, c, d, rfl⟩ := exists_ofOctets n
  rw [List.map_map, List.map_map, octets_ofOctets] at hparts
  unfold ipToBinary
  rw [bitText_ofOctets]
  refine (congrArg List.flatten hparts).trans ?_
  simp [hoctet]

theorem groups_bitText_append (o : BitVec 8) (s : PyStr) :
    groups (bitText o ++ s) = bitText o :: groups s := rfl

/-- **An address is read back** from its binary text. -/
theorem binaryToIp_bitText (n : BitVec 32) : binaryToIp (bitText n) = ipv4Text n := by
  have hoctet (o : BitVec 8) :
      toString (parseInt (bitText o) (some 2)) 10 = Python.decimal o.toNat := by
    have := parseInt_octet o.toNat o.isLt
    rw [BitVec.ofNat_toNat, BitVec.setWidth_eq] at this
    rw [this]
    unfold Js.toString
    simp [Python.decimal]
  obtain ⟨a, b, c, d, rfl⟩ := exists_ofOctets n
  have hgroups : groups (bitText (ofOctets a b c d)) = [a, b, c, d].map bitText := by
    rw [bitText_ofOctets, groups_bitText_append, groups_bitText_append, groups_bitText_append,
      ← List.append_nil (bitText d), groups_bitText_append]
    rfl
  unfold binaryToIp
  rw [hgroups, ipv4Text_eq, octets_ofOctets]
  simp [hoctet]

/-! ## 3. Numbers -/

/-- **The number** of an IPv4 address is signed. -/
theorem ipToNumber_eq {ip : PyStr} {n : BitVec 32} (h : address4 ip = some n) :
    ipToNumber ip = Js.Num.ofBits n := by
  have hparts := congrArg
    (List.foldl (fun acc x => Js.Num.add (Js.Num.shiftLeft acc (some 8)) x) (some 0))
    (parseInt_parts h (.inr rfl))
  rw [List.foldl_map, List.foldl_map, foldl_octets] at hparts
  exact hparts

/-! ## 4. The network of a pool -/

/-- Before the common bits end the texts agree, and there they do not, unless the first text ends
there as well. -/
theorem countCommonBits_spec (s t : PyStr) :
    (∀ i < countCommonBits s t, s[i]? = t[i]?) ∧ countCommonBits s t ≤ s.length ∧
      (countCommonBits s t < s.length → s[countCommonBits s t]? ≠ t[countCommonBits s t]?) := by
  induction s generalizing t with
  | nil =>
    exact ⟨fun i hi => absurd hi (Nat.not_lt_zero i), Nat.zero_le _, fun h =>
      absurd h (Nat.not_lt_zero _)⟩
  | cons c s ih =>
    cases t with
    | nil =>
      exact ⟨fun i hi => absurd hi (Nat.not_lt_zero i), Nat.zero_le _, fun _ h => nomatch h⟩
    | cons d t =>
      by_cases hcd : c = d
      · obtain ⟨hagree, hle, hdiffer⟩ := ih t
        rw [countCommonBits, if_pos hcd]
        refine ⟨fun i hi => ?_, Nat.succ_le_succ hle, fun h => hdiffer (Nat.lt_of_succ_lt_succ h)⟩
        cases i with
        | zero => rw [hcd]; rfl
        | succ i => exact hagree i (Nat.lt_of_succ_lt_succ hi)
      · rw [countCommonBits, if_neg hcd]
        refine ⟨fun i hi => absurd hi (Nat.not_lt_zero i), Nat.zero_le _, fun _ h => hcd ?_⟩
        exact Option.some.inj h

/-- The length of the prefix that two addresses have in common. -/
def commonBits (m n : BitVec 32) : Nat := countCommonBits (bitText m) (bitText n)

theorem commonBits_le (m n : BitVec 32) : commonBits m n ≤ 32 := by
  have := (countCommonBits_spec (bitText m) (bitText n)).2.1
  rwa [length_bitText] at this

theorem samePrefix_commonBits (m n : BitVec 32) : SamePrefix (commonBits m n) m n := fun i hi =>
  getMsbD_of_bitText (Nat.lt_of_lt_of_le hi (commonBits_le m n))
    ((countCommonBits_spec (bitText m) (bitText n)).1 i hi)

/-- Addresses that agree in the first bit have it in common. -/
theorem commonBits_pos {m n : BitVec 32} (h : m.msb = n.msb) : 0 < commonBits m n := by
  refine Nat.pos_of_ne_zero fun hzero => ?_
  have hspec := (countCommonBits_spec (bitText m) (bitText n)).2.2
  rw [show countCommonBits (bitText m) (bitText n) = 0 from hzero, length_bitText] at hspec
  refine hspec (by decide) ?_
  rw [getElem?_bitText m (by decide), getElem?_bitText n (by decide)]
  rw [BitVec.msb, BitVec.msb] at h
  rw [h]

/-- The two ways to write a mask. -/
theorem netmask_eq_prefixMask {w p : Nat} (hp : p ≤ w) : netmask w p = prefixMask w p := by
  refine BitVec.eq_of_getLsbD_eq fun i hi => ?_
  rw [getLsbD_prefixMask hi]
  unfold netmask
  rw [BitVec.getLsbD_xor, BitVec.getLsbD_allOnes, BitVec.getLsbD_ushiftRight,
    BitVec.getLsbD_allOnes]
  by_cases hle : w - p ≤ i
  · simp [hi, hle, show ¬ p + i < w by omega]
  · simp [hi, hle, show p + i < w by omega]

/-- A prefix is filled up with zeros by masking. -/
theorem padEnd_take_bitText {p : Nat} (hp : p ≤ 32) (n : BitVec 32) :
    padEnd ((bitText n).take p) 32 (ch '0') = bitText (n &&& netmask 32 p) := by
  have hlength : ((bitText n).take p).length = p := by
    rw [List.length_take, length_bitText, Nat.min_eq_left hp]
  rw [netmask_eq_prefixMask hp]
  refine List.ext_getElem? fun i => ?_
  unfold padEnd
  rw [hlength]
  by_cases hi : i < 32
  · have hmask : (prefixMask 32 p).getMsbD i = decide (i < p) := by
      rw [BitVec.getMsbD, getLsbD_prefixMask (by omega), decide_eq_true hi, Bool.true_and]
      exact decide_eq_decide.mpr (by omega)
    rw [getElem?_bitText _ hi, BitVec.getMsbD_and, hmask]
    by_cases hip : i < p
    · rw [List.getElem?_append_left (by omega), List.getElem?_take_of_lt hip, getElem?_bitText n hi,
        decide_eq_true hip, Bool.and_true]
    · rw [List.getElem?_append_right (by omega), hlength, List.getElem?_replicate,
        if_pos (by omega), decide_eq_false hip, Bool.and_false]
      rfl
  · rw [List.getElem?_eq_none (by rw [List.length_append, List.length_replicate]; omega),
      List.getElem?_eq_none (by rw [length_bitText]; omega)]

/-- The network of the addresses that begin like `n`. -/
def network4 (n : BitVec 32) (p : Nat) : IpNetwork := ⟨.v4 (n &&& netmask 32 p), p⟩

/-- **The route of an IPv4 pool**: none if the start is not below the end as a signed number. -/
theorem rangeRoute_eq {range : IpRange} {m n : BitVec 32}
    (hm : address4 range.ipRangeStart = some m)
    (hn : address4 range.ipRangeEnd = some n) :
    rangeRoute range =
      if n.toInt ≤ m.toInt then none
      else some ⟨(network4 m (commonBits m n)).str, none⟩ := by
  unfold rangeRoute
  rw [ipToNumber_eq hm, ipToNumber_eq hn, ipToBinary_eq hm, ipToBinary_eq hn]
  show (if decide (m.toInt ≥ n.toInt) then none else some _) = _
  rw [← commonBits, padEnd_take_bitText (commonBits_le m n), binaryToIp_bitText]
  simp only [decide_eq_true_eq]
  rfl

theorem slash_notMem_ipv4Text (n : BitVec 32) : ch '/' ∉ ipv4Text n := by
  intro h
  rcases mem_ipv4Text h with h | h <;> exact absurd h (by decide)

theorem slash_notMem_decimal (n : Nat) : ch '/' ∉ Python.decimal n := fun h =>
  absurd (isAsciiDigit_of_mem_decimal h) (by decide)

/-- The target of such a route is read back. -/
theorem networkOf_str (package : AddressPackage) (n : BitVec 32) {p : Nat} (hp : p ≤ 32) :
    networkOf package (network4 n p).str = some (network4 n p) := by
  have hlength : parseInt (Python.decimal p) none = some (p : Int) := by
    rw [parseInt_digits (decimal_ne_nil p) (fun c hc => isAsciiDigit_of_mem_decimal hc) (.inl rfl),
      ofDigits_decimal]
  unfold networkOf
  rw [show (network4 n p).str = ipv4Text (n &&& netmask 32 p) ++ ch '/' :: Python.decimal p
    from rfl,
    splitCidr_append (slash_notMem_ipv4Text _) (slash_notMem_decimal p)]
  dsimp only
  rw [addressOf_ipv4Text, hlength]
  show (if p ≤ 32 then some _ else none) = _
  rw [if_pos hp, IpNetwork.and_mask_idem]
  rfl

/-! ## 5. Which pools are covered -/

/-- The route contains the pool from start to end. -/
def Route.Covers (package : AddressPackage) (r : Route) (range : IpRange) : Prop :=
  ∃ network first last, networkOf package r.target = some network ∧
    package.addressOf range.ipRangeStart = some first ∧
    package.addressOf range.ipRangeEnd = some last ∧
    ∀ ip : IpAddress, ip.version = first.version → first.number ≤ ip.number →
      ip.number ≤ last.number → network.contains ip = true

/-- No number has a colon. -/
theorem colon_notMem_toString (x : Js.Num) {radix : Nat} (hradix : 1 < radix ∧ radix ≤ 16) :
    ch ':' ∉ toString x radix := by
  have hdigits : ∀ n, ch ':' ∉ (Nat.toDigits radix n).map ofChar := by
    intro n h
    obtain ⟨c, hc, heq⟩ := List.mem_map.mp h
    have := forall_mem_toDigits (P := fun c => isHexDigit (ofChar c) = true) hradix.1
      (fun d hd => isHexDigit_digitChar d (Nat.lt_of_lt_of_le hd hradix.2)) n c hc
    rw [heq] at this
    exact absurd this (by decide)
  unfold Js.toString
  cases x with
  | none => exact (by decide : ch ':' ∉ py "NaN")
  | some x =>
    dsimp only
    split
    · intro h
      rcases List.mem_cons.mp h with h | h
      · exact absurd h (by decide)
      · exact hdigits _ h
    · exact hdigits _

theorem colon_notMem_target {range : IpRange} {r : Route} (h : rangeRoute range = some r) :
    ch ':' ∉ r.target := by
  unfold rangeRoute at h
  split at h
  · cases h
  · cases h
    intro hc
    rcases List.mem_append.mp hc with hc | hc
    · rcases mem_join hc with hc | ⟨p, hp, hc⟩
      · exact absurd hc (by decide)
      · obtain ⟨bin, -, rfl⟩ := List.mem_map.mp hp
        exact colon_notMem_toString _ (by decide) hc
    · rcases List.mem_cons.mp hc with hc | hc
      · exact absurd hc (by decide)
      · exact absurd (isAsciiDigit_of_mem_decimal hc) (by decide)

/-- A target without a colon is a network of IPv4. -/
theorem version_of_networkOf {package : AddressPackage} (hsound : package.Sound) {target : PyStr}
    (hcolon : ch ':' ∉ target) {network : IpNetwork} (h : networkOf package target = some network) :
    network.version = 4 := by
  have hip : ch ':' ∉ (splitCidr target).1 := by
    have : (splitCidr target).1 = target.takeWhile (· ≠ ch '/') := by
      unfold splitCidr
      dsimp only
      rw [List.headD_eq_head?_getD]
      unfold split
      rw [head?_splitOn]
      rfl
    rw [this]
    exact fun hc => hcolon ((List.takeWhile_sublist _).mem hc)
  have hnot6 : package.isValid6 (splitCidr target).1 = false := by
    by_contra h6
    exact hip (hsound.isValid6 _ (by simpa using h6))
  unfold networkOf AddressPackage.addressOf at h
  dsimp only at h
  rw [hnot6] at h
  cases ha : address4 (splitCidr target).1 with
  | none =>
    rw [ha] at h
    cases h
  | some n =>
    rw [ha] at h
    dsimp only at h
    split at h
    · next heq _ =>
      split at h
      · cases h
        rfl
      · cases h
    · next heq _ =>
      cases heq
    · cases h

theorem version_eq_of_contains {network : IpNetwork} {ip : IpAddress}
    (h : network.contains ip = true) : network.version = ip.version := by
  obtain ⟨base, length⟩ := network
  cases base <;> cases ip <;> first | rfl | cases h

/-- Addresses of one network begin alike. -/
theorem samePrefix_of_contains {a m n : BitVec 32} {p : Nat} (hp : p ≤ 32)
    (hm : (network4 a p).contains (.v4 m) = true) (hn : (network4 a p).contains (.v4 n) = true) :
    SamePrefix p m n := by
  rw [← and_prefixMask_eq_iff hp, ← netmask_eq_prefixMask hp]
  have hm' : m &&& netmask 32 p = a &&& netmask 32 p := beq_iff_eq.mp hm
  have hn' : n &&& netmask 32 p = a &&& netmask 32 p := beq_iff_eq.mp hn
  rw [hm', hn']

/-- Between addresses that begin alike all addresses do. -/
theorem contains_of_between {m n : BitVec 32} {p : Nat} (hp : p ≤ 32) (h : SamePrefix p m n)
    {ip : BitVec 32} (hm : m.toNat ≤ ip.toNat) (hn : ip.toNat ≤ n.toNat) :
    (network4 m p).contains (.v4 ip) = true := by
  have hip : SamePrefix p ip m := SamePrefix.of_between hp (fun _ _ => rfl) h.symm hm hn
  refine beq_iff_eq.mpr ?_
  show ip &&& netmask 32 p = m &&& netmask 32 p
  rw [netmask_eq_prefixMask hp]
  exact (and_prefixMask_eq_iff hp).mpr hip

/-- An address is one of IPv4 if it is read as such. -/
theorem addressOf_eq_v4 {package : AddressPackage} {ip : PyStr} {n : BitVec 32} :
    package.addressOf ip = some (.v4 n) ↔ address4 ip = some n := by
  unfold AddressPackage.addressOf
  cases address4 ip with
  | none =>
    refine iff_of_false (fun h => ?_) nofun
    dsimp only at h
    split at h <;> cases h
  | some m => simp

/-- Numbers of one half of the addresses are ordered with and without a sign. -/
theorem toInt_lt_iff {m n : BitVec 32} (h : m.toNat < n.toNat) :
    m.toInt < n.toInt ↔ ¬ (m.toNat < 2 ^ 31 ∧ 2 ^ 31 ≤ n.toNat) := by
  have hn := n.isLt
  rw [BitVec.toInt_eq_toNat_cond, BitVec.toInt_eq_toNat_cond]
  split <;> split <;> omega

/-- The pools that have been validated and are read as IPv4. -/
theorem isValid4_of_address4 {package : AddressPackage} (hsound : package.Sound) {range : IpRange}
    (hvalid : range.isValid package = true) {m : BitVec 32}
    (hm : address4 range.ipRangeStart = some m) :
    package.isValid4 range.ipRangeStart = true ∧ package.isValid4 range.ipRangeEnd = true := by
  unfold IpRange.isValid at hvalid
  rw [Bool.or_eq_true, Bool.and_eq_true, Bool.and_eq_true] at hvalid
  rcases hvalid with h6 | h4
  · exact absurd (hsound.isValid6 _ h6.1) (colon_notMem_of_address4 hm)
  · exact h4

/-- **An ordered IPv4 pool** has a route unless it straddles 128.0.0.0. -/
theorem rangeRoute_of_ordered {package : AddressPackage} {range : IpRange} {m n : BitVec 32}
    (hm : address4 range.ipRangeStart = some m) (hn : address4 range.ipRangeEnd = some n)
    (hordered : range.Ordered package) :
    m.toNat < n.toNat ∧ ∀ r, rangeRoute range = some r ↔
      ¬ range.Straddles ∧ r = ⟨(network4 m (commonBits m n)).str, none⟩ := by
  obtain ⟨first, last, hfirst, hlast, hlt⟩ := hordered
  cases (addressOf_eq_v4.mpr hm).symm.trans hfirst
  cases (addressOf_eq_v4.mpr hn).symm.trans hlast
  refine ⟨hlt, fun r => ?_⟩
  rw [IpRange.straddles_iff hm hn, ← toInt_lt_iff hlt, rangeRoute_eq hm hn]
  by_cases h : m.toInt < n.toInt
  · rw [if_neg (not_le.mpr h), Option.some.injEq, eq_comm]
    exact (and_iff_right h).symm
  · rw [if_pos (not_lt.mp h)]
    exact ⟨nofun, fun hr => absurd hr.1 h⟩

/-- A pool that is validated and starts with an IPv4 address ends with one. -/
theorem exists_address4_end {package : AddressPackage} (hsound : package.Sound) {range : IpRange}
    (hvalid : range.isValid package = true) {m : BitVec 32}
    (hm : address4 range.ipRangeStart = some m) : ∃ n, address4 range.ipRangeEnd = some n :=
  Option.isSome_iff_exists.mp (hsound.isValid4 _ (isValid4_of_address4 hsound hvalid hm).2)

/-- A pool that is covered is an IPv4 pool. -/
theorem address4_of_covers {package : AddressPackage} (hsound : package.Sound)
    {ranges : List IpRange}
    {r : Route} (hr : r ∈ getNetworkClassCIDR ranges) {range : IpRange}
    (hvalid : range.isValid package = true) (hordered : range.Ordered package)
    (hcovers : r.Covers package range) :
    ∃ m n network, address4 range.ipRangeStart = some m ∧ address4 range.ipRangeEnd = some n ∧
      networkOf package r.target = some network ∧ network.contains (.v4 m) = true ∧
      network.contains (.v4 n) = true := by
  obtain ⟨source, -, hroute⟩ := List.mem_filterMap.mp hr
  obtain ⟨network, first, last, hnetwork, hfirst, hlast, hall⟩ := hcovers
  obtain ⟨first', last', hfirst', hlast', hlt⟩ := hordered
  cases hfirst.symm.trans hfirst'
  cases hlast.symm.trans hlast'
  have hstart := hall first rfl (Nat.le_refl _) hlt.le
  have hversion := version_of_networkOf hsound (colon_notMem_target hroute) hnetwork
  rw [version_eq_of_contains hstart] at hversion
  cases first with
  | v6 m zone => cases hversion
  | v4 m =>
    have hm := addressOf_eq_v4.mp hfirst
    obtain ⟨n, hn⟩ := exists_address4_end hsound hvalid hm
    cases (addressOf_eq_v4.mpr hn).symm.trans hlast
    exact ⟨m, n, network, hm, hn, hnetwork, hstart, hall (.v4 n) rfl hlt.le (Nat.le_refl _)⟩

/-- **The routes cover the pools** if and only if all pools are IPv4 pools and none straddles
128.0.0.0.  No other pool's route helps out: each network has an address of its pool's half. -/
theorem routes_cover_iff (package : AddressPackage) (hsound : package.Sound) (ranges : List IpRange)
    (hvalid : ∀ range ∈ ranges, range.isValid package = true)
    (hordered : ∀ range ∈ ranges, range.Ordered package) :
    (∀ range ∈ ranges, ∃ r ∈ getNetworkClassCIDR ranges, r.Covers package range) ↔
    ∀ range ∈ ranges, package.isValid4 range.ipRangeStart = true ∧
      package.isValid4 range.ipRangeEnd = true ∧ ¬ range.Straddles := by
  constructor
  · intro hcovered
    have hall4 : ∀ range ∈ ranges, ∃ m n, address4 range.ipRangeStart = some m ∧
        address4 range.ipRangeEnd = some n := by
      intro range hrange
      obtain ⟨r, hr, hcovers⟩ := hcovered range hrange
      obtain ⟨m, n, -, hm, hn, -⟩ :=
        address4_of_covers hsound hr (hvalid range hrange) (hordered range hrange) hcovers
      exact ⟨m, n, hm, hn⟩
    intro range hrange
    obtain ⟨r, hr, hcovers⟩ := hcovered range hrange
    obtain ⟨m, n, network, hm, hn, hnetwork, hstart, hend⟩ :=
      address4_of_covers hsound hr (hvalid range hrange) (hordered range hrange) hcovers
    obtain ⟨h4, h4'⟩ := isValid4_of_address4 hsound (hvalid range hrange) hm
    refine ⟨h4, h4', fun hstraddles => ?_⟩
    -- the route is another pool's, and that pool does not straddle
    obtain ⟨source, hsource, hroute⟩ := List.mem_filterMap.mp hr
    obtain ⟨m', n', hm', hn'⟩ := hall4 source hsource
    obtain ⟨hlt, hiff⟩ := rangeRoute_of_ordered hm' hn' (hordered source hsource)
    obtain ⟨hnot, rfl⟩ := (hiff r).mp hroute
    rw [networkOf_str package m' (commonBits_le m' n')] at hnetwork
    cases hnetwork
    have hsame := samePrefix_of_contains (commonBits_le m' n') hstart hend
    rw [IpRange.straddles_iff hm' hn'] at hnot
    rw [IpRange.straddles_iff hm hn] at hstraddles
    have hmsb : m'.msb = n'.msb := by
      rw [BitVec.msb_eq_decide, BitVec.msb_eq_decide]
      exact decide_eq_decide.mpr (by omega)
    have hfirst : m.msb = n.msb := hsame 0 (commonBits_pos hmsb)
    rw [BitVec.msb_eq_decide, BitVec.msb_eq_decide, decide_eq_decide] at hfirst
    omega
  · intro hall range hrange
    obtain ⟨h4, h4', hnot⟩ := hall range hrange
    obtain ⟨m, hm⟩ := Option.isSome_iff_exists.mp (hsound.isValid4 _ h4)
    obtain ⟨n, hn⟩ := Option.isSome_iff_exists.mp (hsound.isValid4 _ h4')
    obtain ⟨hlt, hiff⟩ := rangeRoute_of_ordered hm hn (hordered range hrange)
    refine ⟨_, List.mem_filterMap.mpr ⟨range, hrange, (hiff _).mpr ⟨hnot, rfl⟩⟩, ?_⟩
    refine ⟨_, _, _, networkOf_str package m (commonBits_le m n), addressOf_eq_v4.mpr hm,
      addressOf_eq_v4.mpr hn, fun ip hversion hlow hhigh => ?_⟩
    cases ip with
    | v6 ip zone => cases hversion
    | v4 ip => exact contains_of_between (commonBits_le m n) (samePrefix_commonBits m n) hlow hhigh

/-- A pool of one class and one that straddles 128.0.0.0. -/
def classPool : IpRange := ⟨py "100.0.0.1", py "100.0.0.254"⟩

def straddlingPool : IpRange := ⟨py "100.0.0.0", py "200.0.0.0"⟩

theorem routes_cover_classPool :
    (∀ range ∈ [classPool], ∃ r ∈ getNetworkClassCIDR [classPool], r.Covers .plain range) ↔
    ∀ range ∈ [classPool], AddressPackage.plain.isValid4 range.ipRangeStart = true ∧
      AddressPackage.plain.isValid4 range.ipRangeEnd = true ∧ ¬ range.Straddles :=
  routes_cover_iff .plain AddressPackage.plain_sound [classPool]
    (by
      intro range hrange
      rw [List.mem_singleton.mp hrange]
      decide +kernel)
    (by
      intro range hrange
      rw [List.mem_singleton.mp hrange]
      exact ⟨.v4 0x64000001, .v4 0x640000fe, addressOf_eq_v4.mpr (by decide +kernel),
        addressOf_eq_v4.mpr (by decide +kernel), by decide⟩)

/-- **A pool without a route.** -/
theorem straddlingPool_has_no_route :
    straddlingPool.isValid .plain = true ∧ straddlingPool.Ordered .plain ∧
    ¬ ∃ r ∈ getNetworkClassCIDR [straddlingPool], r.Covers .plain straddlingPool := by
  refine ⟨by decide +kernel, ?_, ?_⟩
  · exact ⟨.v4 0x64000000, .v4 0xc8000000, addressOf_eq_v4.mpr (by decide +kernel),
      addressOf_eq_v4.mpr (by decide +kernel), by decide⟩
  · have hnone : getNetworkClassCIDR [straddlingPool] = [] := by decide +kernel
    rw [hnone]
    rintro ⟨r, hr, -⟩
    cases hr

end ZtPlanet.Ztnet.PoolRoutes
