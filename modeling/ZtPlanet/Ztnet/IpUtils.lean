/-
# The IPv4 helpers

`ip2long` adds shifted octets up as signed numbers and makes the sum unsigned at the end, `long2ip`
cuts it into octets with signed shifts, and `isPrivateIP` compares signed numbers throughout.
`getNextIP` counts from one address to another and takes the first one whose text is not assigned;
the counter is no 32-bit number, so it ends behind 255.255.255.255 too.

All of them are exact for every address, on both sides of 128.0.0.0 (`helpers_exact`).
-/
import ZtPlanet.Python.NetworkRoundTrip
import ZtPlanet.Ztnet.OctetArithmetic

namespace ZtPlanet.Ztnet.IpUtils

open ZtPlanet.Lib ZtPlanet.Python ZtPlanet.Python.IpAddress ZtPlanet.Js

/-! ## 1. The helpers -/

/-- The first and the last number of the private networks, as `isPrivateIP` writes them. -/
def privateRanges : List (Js.Num × Js.Num) :=
  let shifted (n shift : Int) : Js.Num := Js.Num.shiftLeft (some n) (some shift)
  [(shifted 10 24, ((shifted 10 24).add (shifted 1 24)).sub (some 1)),
    ((shifted 172 24).add (shifted 16 16),
      (((shifted 172 24).add (shifted 31 16)).add (shifted 1 16)).sub (some 1)),
    ((shifted 192 24).add (shifted 168 16),
      (((shifted 192 24).add (shifted 168 16)).add (shifted 1 16)).sub (some 1))]

/-- `isPrivateIP`. -/
def isPrivateIP (ip : PyStr) : Bool :=
  let ipInt : Js.Num := (split ip (ch '.')).foldl
    (fun (acc : Js.Num) octet => (acc.shiftLeft (some 8)).add (parseInt octet (some 10))) (some 0)
  privateRanges.any fun range => ipInt.ge range.1 && ipInt.le range.2

/-- `ip2long`; a part that is missing is NaN, as one that is no number is. -/
def ip2long (ip : PyStr) : Js.Num :=
  let parts := (split ip (ch '.')).map (parseInt · none)
  let res := Js.Num.add (some 0) ((parts.getD 0 none).shiftLeft (some 24))
  let res := res.add ((parts.getD 1 none).shiftLeft (some 16))
  let res := res.add ((parts.getD 2 none).shiftLeft (some 8))
  let res := res.add (parts.getD 3 none)
  res.shiftRight (some 0)

/-- `long2ip`. -/
def long2ip (long : Js.Num) : PyStr :=
  let part1 := Js.toString (long.and (some 255)) 10
  let part2 := Js.toString ((long.signedShiftRight (some 8)).and (some 255)) 10
  let part3 := Js.toString ((long.signedShiftRight (some 16)).and (some 255)) 10
  let part4 := Js.toString ((long.signedShiftRight (some 24)).and (some 255)) 10
  part4 ++ ch '.' :: part3 ++ ch '.' :: part2 ++ ch '.' :: part1

/-- The inner loop of `getNextIP`. -/
def nextFrom (allAssignedIPs : List PyStr) (ipLong last : Int) : Option PyStr :=
  if ipLong ≤ last then
    let ip := long2ip (some ipLong)
    if allAssignedIPs.contains ip = false then some ip
    else nextFrom allAssignedIPs (ipLong + 1) last
  else none
termination_by (last + 1 - ipLong).toNat

/-- `getNextIP`; a loop up to NaN has no pass. -/
def getNextIP (ranges : List IpRange) (allAssignedIPs : List PyStr) : Option PyStr :=
  match ranges with
  | [] => none
  | range :: ranges =>
    let found := match ip2long range.ipRangeStart, ip2long range.ipRangeEnd with
      | some start, some last => nextFrom allAssignedIPs start last
      | _, _ => none
    match found with
    | some ip => some ip
    | none => getNextIP ranges allAssignedIPs

/-! ## 2. What they are for -/

/-- The address belongs to a private network. -/
def IsPrivate (n : BitVec 32) : Prop :=
  SamePrefix 8 n 0x0a000000 ∨ SamePrefix 12 n 0xac100000 ∨ SamePrefix 16 n 0xc0a80000

/-- The first address of the ranges that is not assigned: all those of the ranges before and all
those in front of it in its own range are. -/
def FirstFree (ranges : List IpRange) (allAssignedIPs : List PyStr) (ip : PyStr) : Prop :=
  ∃ before range after n, ranges = before ++ range :: after ∧ ip = ipv4Text n ∧ range.Contains n ∧
    ip ∉ allAssignedIPs ∧ (∀ r ∈ before, ∀ m, r.Contains m → ipv4Text m ∈ allAssignedIPs) ∧
      ∀ m < n, range.Contains m → ipv4Text m ∈ allAssignedIPs

/-! ## 3. Conversions -/

theorem zero_add_shiftLeft (x n : Js.Num) : Js.Num.add (some 0) (x.shiftLeft n) = x.shiftLeft n :=
  congrArg some (Int.zero_add _)

theorem ip2long_ipv4Text (n : BitVec 32) : ip2long (ipv4Text n) = some (n.toNat : Int) := by
  have hparts := parseInt_parts (address4_ipv4Text n) (.inl rfl)
  obtain ⟨a, b, c, d, rfl⟩ := exists_ofOctets n
  rw [octets_ofOctets] at hparts
  have hsum : (sumOctets a b c d).shiftRight (some 0) = some ((ofOctets a b c d).toNat : Int) := by
    unfold Js.Num.shiftRight
    rw [bits_sumOctets]
    rfl
  unfold ip2long
  dsimp only
  rw [hparts, zero_add_shiftLeft]
  exact hsum

/-- An octet is cut out of a number by a signed shift. -/
theorem and_255 {x : Js.Num} {b : BitVec 32} {shift : Nat} (hle : shift ≤ 24)
    (hx : x.bits = b.sshiftRight shift) :
    x.and (some 255) = some ((b.extractLsb' shift 8).toNat : Int) := by
  have hand : b.sshiftRight shift &&& 255 = (b.extractLsb' shift 8).setWidth 32 := by
    refine BitVec.eq_of_getLsbD_eq fun i hi => ?_
    have hmask : (255 : BitVec 32).getLsbD i = decide (i < 8) := by
      revert i
      decide
    rw [BitVec.getLsbD_and, hmask, BitVec.getLsbD_sshiftRight, BitVec.getLsbD_setWidth,
      BitVec.getLsbD_extractLsb']
    by_cases h8 : i < 8
    · simp [h8, hi, show shift + i < 32 by omega]
    · simp [h8]
  have hlt := (b.extractLsb' shift 8).isLt
  have hvalue : ((b.extractLsb' shift 8).setWidth 32).toNat = (b.extractLsb' shift 8).toNat := by
    rw [BitVec.toNat_setWidth]
    omega
  unfold Js.Num.and
  rw [hx, show Js.Num.bits (some 255) = 255 from rfl, hand, ofBits_of_lt (by omega), hvalue]

/-- **`long2ip`** sees a number modulo 2^32. -/
theorem long2ip_eq (x : Js.Num) : long2ip x = ipv4Text x.bits := by
  have hshift (k : Int) (shift : Nat) (hk : (Js.Num.bits (some k)).toNat % 32 = shift) :
      (x.signedShiftRight (some k)).bits = x.bits.sshiftRight shift := by
    unfold Js.Num.signedShiftRight
    rw [Js.Num.bits_ofBits, hk]
  have hlow : x.and (some 255) = some ((x.bits.extractLsb' 0 8).toNat : Int) :=
    and_255 (by decide) BitVec.sshiftRight_zero.symm
  unfold long2ip
  dsimp only
  rw [hlow,
    and_255 (by decide) (hshift 8 8 (by decide)), and_255 (by decide) (hshift 16 16 (by decide)),
    and_255 (by decide) (hshift 24 24 (by decide)), toString_natCast, toString_natCast,
    toString_natCast, toString_natCast, ipv4Text_eq]
  simp [octets, join, List.intercalate, py_eq_map]

/-- **The conversions** are inverse to each other. -/
theorem long2ip_ip2long (n : BitVec 32) : long2ip (ip2long (ipv4Text n)) = ipv4Text n := by
  rw [ip2long_ipv4Text, long2ip_eq, Js.Num.bits_toNat]

/-! ## 4. Private addresses -/

/-- A network whose size divides its address is an interval. -/
theorem samePrefix_iff_between {p : Nat} (hp : p ≤ 32) {n m : BitVec 32} {size : Nat}
    (hsize : 2 ^ (32 - p) = size) (hm : m.toNat % size = 0) :
    SamePrefix p n m ↔ m.toNat ≤ n.toNat ∧ n.toNat ≤ m.toNat + size - 1 := by
  have hpos : 0 < size := hsize ▸ Nat.two_pow_pos _
  rw [samePrefix_iff_div hp, hsize, Nat.div_eq_iff hpos,
    Nat.div_mul_cancel (Nat.dvd_of_mod_eq_zero hm)]

theorem privateRanges_eq : privateRanges = [(some 167772160, some 184549375),
    (some (-1408237568), some (-1407188993)), (some (-1062731776), some (-1062666241))] := by
  decide

/-- **Private addresses**, with signed comparisons. -/
theorem isPrivateIP_ipv4Text (n : BitVec 32) : isPrivateIP (ipv4Text n) = true ↔ IsPrivate n := by
  have hparts := congrArg
    (List.foldl (fun acc x => Js.Num.add (Js.Num.shiftLeft acc (some 8)) x) (some 0))
    (parseInt_parts (address4_ipv4Text n) (.inr rfl))
  rw [List.foldl_map, List.foldl_map, foldl_octets] at hparts
  have hbetween (first last : Int) :
      ((Js.Num.ofBits n).ge (some first) && (Js.Num.ofBits n).le (some last)) = true ↔
        first ≤ n.toInt ∧ n.toInt ≤ last := by
    simp [Js.Num.ofBits, Js.Num.ge, Js.Num.le]
  have hsigned := BitVec.toInt_eq_toNat_cond n
  have hlt := n.isLt
  unfold isPrivateIP IsPrivate
  dsimp only
  rw [hparts, privateRanges_eq, samePrefix_iff_between (by decide) rfl rfl,
    samePrefix_iff_between (by decide) rfl rfl, samePrefix_iff_between (by decide) rfl rfl]
  rw [show (0x0a000000 : BitVec 32).toNat = 167772160 from rfl,
    show (0xac100000 : BitVec 32).toNat = 2886729728 from rfl,
    show (0xc0a80000 : BitVec 32).toNat = 3232235520 from rfl]
  simp only [List.any_cons, List.any_nil, Bool.or_false, Bool.or_eq_true, hbetween]
  split at hsigned <;> omega

/-! ## 5. The next address -/

/-- **One range**: no address is left, or the first one that is not assigned is found. -/
theorem nextFrom_cases (allAssignedIPs : List PyStr) {ipLong last : Int} (hpos : 0 ≤ ipLong)
    (hlast : last < 2 ^ 32) :
    (nextFrom allAssignedIPs ipLong last = none ∧ ∀ m : BitVec 32,
      ipLong ≤ m.toNat → m.toNat ≤ last →
        ipv4Text m ∈ allAssignedIPs) ∨
      ∃ n : BitVec 32, nextFrom allAssignedIPs ipLong last = some (ipv4Text n) ∧ ipLong ≤ n.toNat ∧
        n.toNat ≤ last ∧ ipv4Text n ∉ allAssignedIPs ∧
        ∀ m < n, ipLong ≤ m.toNat → ipv4Text m ∈ allAssignedIPs := by
  fun_induction nextFrom allAssignedIPs ipLong last with
  | case1 ipLong hle ip hfree =>
    obtain ⟨k, rfl⟩ := Int.eq_ofNat_of_zero_le hpos
    have hk : (BitVec.ofNat 32 k).toNat = k := by
      rw [BitVec.toNat_ofNat]
      omega
    have htext : ip = ipv4Text (BitVec.ofNat 32 k) := by
      refine (long2ip_eq _).trans (congrArg ipv4Text ?_)
      rw [← Js.Num.bits_toNat (BitVec.ofNat 32 k), hk]
    rw [List.contains_eq_mem, decide_eq_false_iff_not] at hfree
    refine .inr ⟨BitVec.ofNat 32 k, congrArg some htext, by omega, by omega, htext ▸ hfree, ?_⟩
    intro m hlt hge
    rw [BitVec.lt_def] at hlt
    omega
  | case2 ipLong hle ip hassigned ih =>
    obtain ⟨k, rfl⟩ := Int.eq_ofNat_of_zero_le hpos
    have htext : ∀ m : BitVec 32, m.toNat = k → ip = ipv4Text m := by
      rintro m rfl
      exact (long2ip_eq _).trans (congrArg ipv4Text (Js.Num.bits_toNat m))
    rw [List.contains_eq_mem, Bool.not_eq_false, decide_eq_true_eq] at hassigned
    -- the address at the counter is assigned, the others are those of the next pass
    rcases ih (by omega) with ⟨hnone, hall⟩ | ⟨n, hsome, hge, hle', hfree, hall⟩
    · refine .inl ⟨hnone, fun m hge hle' => ?_⟩
      by_cases hm : m.toNat = k
      · exact htext m hm ▸ hassigned
      · exact hall m (by omega) hle'
    · refine .inr ⟨n, hsome, by omega, hle', hfree, fun m hlt hge' => ?_⟩
      by_cases hm : m.toNat = k
      · exact htext m hm ▸ hassigned
      · exact hall m hlt (by omega)
  | case3 ipLong hgt =>
    exact .inl ⟨rfl, fun m hge hle => absurd (hge.trans hle) hgt⟩

/-- **All ranges.** -/
theorem getNextIP_cases (allAssignedIPs : List PyStr) :
    ∀ {ranges : List IpRange}, (∀ range ∈ ranges, range.Valid) →
      (getNextIP ranges allAssignedIPs = none ∧
          ∀ range ∈ ranges, ∀ m, range.Contains m → ipv4Text m ∈ allAssignedIPs) ∨
        ∃ ip, getNextIP ranges allAssignedIPs = some ip ∧ FirstFree ranges allAssignedIPs ip
  | [], _ => .inl ⟨rfl, fun _ h => absurd h List.not_mem_nil⟩
  | range :: ranges, hvalid => by
    obtain ⟨hrange, hrest⟩ := List.forall_mem_cons.mp hvalid
    obtain ⟨first, hfirst⟩ := Option.isSome_iff_exists.mp hrange.1
    obtain ⟨last, hlast⟩ := Option.isSome_iff_exists.mp hrange.2
    have hcontains (m : BitVec 32) :
        range.Contains m ↔ first.toNat ≤ m.toNat ∧ m.toNat ≤ last.toNat := by
      unfold IpRange.Contains
      rw [hfirst, hlast]
      simp [BitVec.le_def]
    have hbound : (last.toNat : Int) < 2 ^ 32 := by
      have := last.isLt
      omega
    have hstep : getNextIP (range :: ranges) allAssignedIPs =
        match nextFrom allAssignedIPs first.toNat last.toNat with
        | some ip => some ip
        | none => getNextIP ranges allAssignedIPs := by
      rw [getNextIP, ← ipv4Text_of_parse hfirst, ← ipv4Text_of_parse hlast, ip2long_ipv4Text,
        ip2long_ipv4Text]
    rw [hstep]
    rcases nextFrom_cases allAssignedIPs (Int.natCast_nonneg first.toNat) hbound with
      ⟨hnone, hall⟩ | ⟨n, hsome, hge, hle, hfree, hall⟩
    · rw [hnone]
      have hassigned : ∀ m, range.Contains m → ipv4Text m ∈ allAssignedIPs := by
        intro m hm
        obtain ⟨hlow, hhigh⟩ := (hcontains m).mp hm
        exact hall m (Int.ofNat_le.mpr hlow) (Int.ofNat_le.mpr hhigh)
      rcases getNextIP_cases allAssignedIPs hrest with ⟨hnext, hothers⟩ | ⟨ip, hnext, hfirstFree⟩
      · exact .inl ⟨hnext, List.forall_mem_cons.mpr ⟨hassigned, hothers⟩⟩
      · obtain ⟨before, r, after, n, rfl, hip, hn, hfree, hbefore, hall⟩ := hfirstFree
        exact .inr ⟨ip, hnext, range :: before, r, after, n, rfl, hip, hn, hfree,
          List.forall_mem_cons.mpr ⟨hassigned, hbefore⟩, hall⟩
    · rw [hsome]
      refine .inr ⟨_, rfl, [], range, ranges, n, rfl, rfl, ?_, hfree, ?_, ?_⟩
      · exact (hcontains n).mpr ⟨Int.ofNat_le.mp hge, Int.ofNat_le.mp hle⟩
      · exact fun r hr => absurd hr List.not_mem_nil
      · exact fun m hlt hm => hall m hlt (Int.ofNat_le.mpr ((hcontains m).mp hm).1)

/-- **The helpers are exact**: the conversions, the private networks, and the next address. -/
theorem helpers_exact (a : PyStr) (n : BitVec 32) (ha : ipv4FromString a = some n)
    (ranges : List IpRange) (hranges : ∀ range ∈ ranges, range.Valid)
    (allAssignedIPs : List PyStr) :
    long2ip (ip2long a) = a ∧ (isPrivateIP a = true ↔ IsPrivate n) ∧
      (∀ ip, getNextIP ranges allAssignedIPs = some ip → FirstFree ranges allAssignedIPs ip) ∧
      (getNextIP ranges allAssignedIPs = none ↔
        ∀ range ∈ ranges, ∀ m, range.Contains m → ipv4Text m ∈ allAssignedIPs) := by
  obtain rfl := ipv4Text_of_parse ha
  refine ⟨long2ip_ip2long n, isPrivateIP_ipv4Text n, ?_⟩
  rcases getNextIP_cases allAssignedIPs hranges with ⟨hnone, hall⟩ | ⟨ip, hsome, hfirst⟩
  · rw [hnone]
    refine ⟨fun ip h => ?_, iff_of_true rfl hall⟩
    cases h
  · rw [hsome]
    refine ⟨fun ip' h => Option.some.inj h ▸ hfirst, iff_of_false (by simp) fun hall => ?_⟩
    obtain ⟨before, range, after, m, rfl, rfl, hm, hfree, -⟩ := hfirst
    exact hfree (hall range (by simp) m hm)

/-- A range that crosses 128.0.0.0, and one that ends at the last address. -/
theorem helpers_exact_at_the_ends :
    let ranges : List IpRange := [⟨py "127.255.255.255", py "128.0.0.1"⟩,
      ⟨py "255.255.255.254", py "255.255.255.255"⟩]
    let assigned := [py "127.255.255.255", py "128.0.0.0"]
    long2ip (ip2long (py "192.168.1.1")) = py "192.168.1.1" ∧
      (isPrivateIP (py "192.168.1.1") = true ↔ IsPrivate 0xc0a80101) ∧
      (∀ ip, getNextIP ranges assigned = some ip → FirstFree ranges assigned ip) ∧
      (getNextIP ranges assigned = none ↔
        ∀ range ∈ ranges, ∀ m, range.Contains m → ipv4Text m ∈ assigned) := by
  refine helpers_exact (py "192.168.1.1") 0xc0a80101 (by decide +kernel) _ ?_ _
  simp only [List.forall_mem_cons]
  refine ⟨⟨by decide +kernel, by decide +kernel⟩, ⟨by decide +kernel, by decide +kernel⟩, ?_⟩
  exact fun range hrange => absurd hrange List.not_mem_nil

end ZtPlanet.Ztnet.IpUtils
