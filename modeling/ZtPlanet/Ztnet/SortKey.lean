/-
# The number that addresses are sorted by

The member list sorts by address in memory, and `sortIP` makes the number to compare.  An IPv4
address is read octet by octet.  Of an IPv6 address the groups are padded to four digits and joined:
`fullAddress` is what the source calls the result, but a `::` comes out of it as one group of zeros,
or two at an end, whatever it stands for, and the dots of a dotted tail are no digits.

`key_eq_iff` says for which texts the number is the address all the same, the `Plain` ones, and
`ordered_iff` that these are the texts that sort right.
-/
import ZtPlanet.Js.NumberText
import ZtPlanet.Python.Ipv6Parts
import ZtPlanet.Python.NetworkCover
import ZtPlanet.Python.NetworkRoundTrip
import ZtPlanet.Ztnet.MemberPages
import ZtPlanet.Ztnet.OctetArithmetic

namespace ZtPlanet.Ztnet.SortKey

open ZtPlanet.Lib ZtPlanet.Python ZtPlanet.Python.IpAddress ZtPlanet.Js
open MemberPages (JsError Numbers hexDigit hexToBigInt sortIP)

/-! ## 1. Keys and addresses -/

/-- The numbers of JavaScript. -/
def doubles : Numbers where
  Double := Js.Double
  number := Js.number
  step acc val := (acc.mul (.value 256)).add val
  bigInt x :=
    match x.integer? with
    | some n => .ok n
    | none => .error .rangeError

/-- `sortIP` of a text. -/
def key (ip : PyStr) : Except JsError Int := sortIP doubles (units ip)

/-- The address of a text. -/
def addressOf (ip : PyStr) : Option IpAddress :=
  match ipv4FromString ip with
  | some n => some (.v4 n)
  | none => (ipv6FromString ip).map fun n => .v6 n none

/-- Both texts have a key, and the first key is below the second where the first address is. -/
def Ordered (s t : PyStr) (a b : IpAddress) : Prop :=
  ∃ k l, key s = .ok k ∧ key t = .ok l ∧ (k < l ↔ a.number < b.number)

/-- An IPv6 text has no dotted tail, and it has eight parts or nothing but zeros in front of a `::`.
-/
def Plain (ip : PyStr) : Prop :=
  ch ':' ∈ ip → ch '.' ∉ ip ∧
    ((split ip (ch ':')).length = 8 ∨
      ∀ p ∈ (split ip (ch ':')).takeWhile (· ≠ []), ∀ c ∈ p, c = ch '0')

variable {ip s : PyStr} {parts : List PyStr} {a b : IpAddress} {n : BitVec 128}

theorem addressOf_cases (h : addressOf ip = some a) :
    (∃ m, ipv4FromString ip = some m ∧ a = .v4 m) ∨
      ∃ m, ipv6FromString ip = some m ∧ a = .v6 m none := by
  unfold addressOf at h
  split at h
  · next m hm => exact .inl ⟨m, hm, (Option.some.inj h).symm⟩
  · obtain ⟨m, hm, rfl⟩ := Option.map_eq_some_iff.mp h
    exact .inr ⟨m, hm, rfl⟩

/-! ## 2. IPv4 -/

theorem bigInt_natCast (m : Nat) : doubles.bigInt (Js.Double.value m) = .ok (m : Int) := by
  have hinteger : (Js.Double.value (m : ℚ)).integer? = some (m : Int) := by simp [Double.integer?]
  unfold doubles
  dsimp only
  rw [hinteger]

/-- Four octets, read in base 256. -/
theorem foldl_step_octets (a b c d : BitVec 8) :
    ([b, c, d].map fun o => numberOf (Python.decimal o.toNat)).foldl doubles.step
      (numberOf (Python.decimal a.toNat)) = .value ((ofOctets a b c d).toNat : ℚ) := by
  have hnumber (o : BitVec 8) : numberOf (Python.decimal o.toNat) = .value (o.toNat : ℚ) :=
    numberOf_decimal (o.isLt.trans (by decide))
  have ha := a.isLt
  have hb := b.isLt
  have hc := c.isLt
  have hd := d.isLt
  simp only [List.map_cons, List.map_nil, hnumber]
  unfold doubles
  dsimp only [List.foldl_cons, List.foldl_nil]
  rw [Double.mul_add_natCast (by omega), Double.mul_add_natCast (by omega),
    Double.mul_add_natCast (by omega), toNat_ofOctets]

/-- **The key of an IPv4 address** is the address. -/
theorem key_ipv4Text (m : BitVec 32) : key (ipv4Text m) = .ok (m.toNat : Int) := by
  have hcolon : ch ':' ∉ ipv4Text m := colon_notMem_of_ipv4FromString (ipv4FromString_ipv4Text m)
  have hne : ipv4Text m ≠ [] := by
    intro hnil
    have hread := ipv4FromString_ipv4Text m
    rw [hnil, show ipv4FromString [] = none by decide] at hread
    cases hread
  have hparts : ((units (ipv4Text m)).splitOn 46).map doubles.number =
      (octets m).map fun o => numberOf (Python.decimal o.toNat) := by
    rw [show (46 : UInt16) = UInt16.ofNat (ch '.').val by decide, splitOn_units (by decide),
      split_ipv4Text, List.map_map, List.map_map]
    rfl
  have hunits : 58 ∉ units (ipv4Text m) := (mem_units_iff (by decide)).not.mpr hcolon
  obtain ⟨a, b, c, d, rfl⟩ := exists_ofOctets m
  rw [octets_ofOctets, List.map_cons] at hparts
  unfold key sortIP
  rw [if_neg (units_ne_nil hne), if_neg hunits, hparts]
  dsimp only
  rw [foldl_step_octets, bigInt_natCast]

/-! ## 3. Hexadecimal numbers -/

theorem unitsOf_hexDigit {c : CodePoint} (hc : isHexDigit c = true) :
    ∃ u, unitsOf c = [u] ∧ hexDigit u = some (digitValue c) ∧ isSpaceUnit u = false := by
  have hall : ∀ m < 103, isHexDigit (Fin.ofNat 0x110000 m) = true →
      hexDigit (UInt16.ofNat m) = some (digitValue (Fin.ofNat 0x110000 m)) ∧
        isSpaceUnit (UInt16.ofNat m) = false := by
    decide +kernel
  have hle : c.val < 103 := by
    unfold isHexDigit isAsciiDigit at hc
    simp only [Bool.or_eq_true, Bool.and_eq_true, decide_eq_true_eq] at hc
    omega
  have hself : Fin.ofNat 0x110000 c.val = c := Fin.ofNat_val_eq_self c
  have hunit := hall c.val hle
  rw [hself] at hunit
  obtain ⟨hdigit, hspace⟩ := hunit hc
  exact ⟨_, unitsOf_of_lt (by omega), hdigit, hspace⟩

theorem mapM_hexDigit (hs : ∀ c ∈ s, isHexDigit c = true) :
    (units s).mapM hexDigit = some (s.map digitValue) ∧ (units s).length = s.length ∧
      ∀ u ∈ units s, isSpaceUnit u = false := by
  induction s with
  | nil => exact ⟨rfl, rfl, fun u hu => absurd hu List.not_mem_nil⟩
  | cons c s ih =>
    obtain ⟨u, hu, hdigit, hspace⟩ := unitsOf_hexDigit (hs c List.mem_cons_self)
    obtain ⟨hmapM, hlength, hspaces⟩ := ih fun c hc => hs c (List.mem_cons_of_mem _ hc)
    have hunits : units (c :: s) = u :: units s := by
      unfold units
      rw [List.flatMap_cons, hu, List.singleton_append]
    rw [hunits, List.mapM_cons, hdigit, hmapM, List.length_cons, hlength]
    exact ⟨rfl, rfl, List.forall_mem_cons.mpr ⟨hspace, hspaces⟩⟩

/-- Digits are a number. -/
theorem hexToBigInt_units (hne : s ≠ []) (hs : ∀ c ∈ s, isHexDigit c = true) :
    hexToBigInt (units s) = .ok (ofDigits 16 s : Int) := by
  obtain ⟨hmapM, -, hspaces⟩ := mapM_hexDigit hs
  have hstrip : ((units s).reverse.dropWhile isSpaceUnit).reverse = units s := by
    have hdrop : (units s).reverse.dropWhile isSpaceUnit = (units s).reverse := by
      cases hrev : (units s).reverse with
      | nil => rfl
      | cons u us =>
        have hu := hspaces u (List.mem_reverse.mp (hrev ▸ List.mem_cons_self))
        exact List.dropWhile_cons_of_neg (by rw [hu]; decide)
    rw [hdrop, List.reverse_reverse]
  unfold hexToBigInt
  rw [hstrip]
  split
  · next hnil => exact absurd hnil (units_ne_nil hne)
  · rw [hmapM]
    unfold ofDigits
    simp only [List.foldl_map, Nat.mul_comm]

/-- A dot is no digit. -/
theorem hexToBigInt_of_dot {hex : JsString} (h : 46 ∈ hex) :
    hexToBigInt hex = .error .syntaxError := by
  have hnone : ∀ us : JsString, 46 ∈ us → us.mapM hexDigit = none := by
    intro us
    induction us with
    | nil => exact fun hmem => absurd hmem List.not_mem_nil
    | cons u us ih =>
      intro hmem
      rw [List.mapM_cons]
      rcases List.mem_cons.mp hmem with rfl | hmem
      · rfl
      · rw [ih hmem]
        cases hexDigit u <;> rfl
  have hstrip : 46 ∈ (hex.reverse.dropWhile isSpaceUnit).reverse :=
    List.mem_reverse.mpr (mem_dropWhile_of_mem (by decide) (List.mem_reverse.mpr h))
  unfold hexToBigInt
  split
  · rfl
  · rw [hnone _ hstrip]

/-! ## 4. IPv6 -/

theorem ofDigits_padStart (p : PyStr) : ofDigits 16 (padStart p 4 (ch '0')) = ofDigits 16 p :=
  ofDigits_replicate_zero 16 _ p

theorem length_padStart {p : PyStr} (h : p.length ≤ 4) : (padStart p 4 (ch '0')).length = 4 := by
  unfold padStart
  rw [List.length_append, List.length_replicate]
  omega

/-- `fullAddress` is read as digits in base 65536. -/
theorem ofDigits_fullAddress (h : ∀ p ∈ parts, p.length ≤ 4) :
    ofDigits 16 (parts.map (padStart · 4 (ch '0'))).flatten = ofHextets
      (parts.map (ofDigits 16)) := by
  induction parts using List.reverseRecOn with
  | nil => rfl
  | append_singleton parts p ih =>
    have hlength := length_padStart (h p (by simp))
    have hone : ofHextets [ofDigits 16 p] = ofDigits 16 p := by simp [ofHextets]
    rw [List.map_append, List.flatten_append, List.map_singleton, List.flatten_singleton,
      ofDigits_append, hlength, ofDigits_padStart, ih fun q hq => h q (List.mem_append_left _ hq),
      List.map_append, List.map_singleton, ofHextets_append, hone]
    rfl

/-- **The key of groups.** -/
theorem key_of_parts (hcolon : ch ':' ∈ ip)
    (hparts : ∀ p ∈ split ip (ch ':'), p.length ≤ 4 ∧ ∀ c ∈ p, isHexDigit c = true) :
    key ip = .ok (ofHextets ((split ip (ch ':')).map (ofDigits 16)) : Int) := by
  have hunits : 58 ∈ units ip := (mem_units_iff (by decide)).mpr hcolon
  have hpad : ∀ p ∈ split ip (ch ':'), padStart (units p) 4 48 = units (padStart p 4 (ch '0')) := by
    intro p hp
    obtain ⟨-, hlength, -⟩ := mapM_hexDigit (hparts p hp).2
    have hzeros (k : Nat) : units (List.replicate k (ch '0')) = List.replicate k 48 := by
      induction k with
      | zero => rfl
      | succ k ih =>
        rw [List.replicate_succ, List.replicate_succ, ← ih]
        rfl
    unfold padStart
    rw [hlength, ← hzeros]
    exact List.flatMap_append.symm
  have hfull : (((units ip).splitOn 58).map (padStart · 4 48)).flatten =
      units ((split ip (ch ':')).map (padStart · 4 (ch '0'))).flatten := by
    rw [show (58 : UInt16) = UInt16.ofNat (ch ':').val by decide, splitOn_units (by decide),
      List.map_map, Function.comp_def, ← List.flatMap_def, ← List.flatMap_def,
        List.flatMap_congr hpad]
    exact List.flatMap_assoc.symm
  have hdigits : ∀ c ∈ ((split ip (ch ':')).map (padStart · 4 (ch '0'))).flatten,
      isHexDigit c = true := by
    intro c hc
    obtain ⟨q, hq, hc⟩ := List.mem_flatten.mp hc
    obtain ⟨p, hp, rfl⟩ := List.mem_map.mp hq
    rcases List.mem_append.mp hc with hc | hc
    · rw [List.eq_of_mem_replicate hc]
      decide
    · exact (hparts p hp).2 c hc
  have hne : ((split ip (ch ':')).map (padStart · 4 (ch '0'))).flatten ≠ [] := by
    obtain ⟨p, hp⟩ := List.exists_mem_of_ne_nil _ (List.splitOn_ne_nil (ch ':') ip)
    intro hnil
    have hlength := length_padStart (hparts p hp).1
    rw [List.flatten_eq_nil_iff.mp hnil _ (List.mem_map_of_mem hp)] at hlength
    cases hlength
  unfold key sortIP
  rw [if_neg (List.ne_nil_of_mem hunits), if_pos hunits, hfull, hexToBigInt_units hne hdigits,
    ofDigits_fullAddress fun p hp => (hparts p hp).1]

/-- The digits of a `::` that is kept as one empty part. -/
theorem ofHextets_gap (pre post : List PyStr) :
    ofHextets ((orEmpty pre ++ [] :: orEmpty post).map (ofDigits 16)) =
      ofHextets (pre.map (ofDigits 16)) * 65536 ^ ((orEmpty post).length + 1) +
        ofHextets (post.map (ofDigits 16)) := by
  have hgap : ofHextets (0 :: (orEmpty post).map (ofDigits 16)) = ofHextets
    (post.map (ofDigits 16)) := by
    have hzero : ofHextets [0] = 0 := rfl
    rw [← List.singleton_append, ofHextets_append, ofHextets_orEmpty, hzero,
      Nat.zero_mul, Nat.zero_add]
  rw [List.map_append, List.map_cons, ofHextets_append, ofHextets_orEmpty,
    show ofDigits 16 [] = 0 from rfl, hgap, List.length_cons, List.length_map]

/-- **When groups are the number of the address.** -/
theorem ofHextets_eq_iff (h : Grouped parts n) :
    ofHextets (parts.map (ofDigits 16)) = n.toNat ↔
      parts.length = 8 ∨ ∀ p ∈ parts.takeWhile (· ≠ []), ∀ c ∈ p, c = ch '0' := by
  cases h with
  | full parts hlength hgroups =>
    exact iff_of_true (groupsValue_full hlength hgroups).symm (.inl hlength)
  | compressed pre post hlength hpre hpost =>
    have hfront : ofHextets (pre.map (ofDigits 16)) = 0 ↔ ∀ p ∈ pre, ∀ c ∈ p, c = ch '0' := by
      rw [ofHextets_eq_zero_iff, List.forall_mem_map]
      exact forall₂_congr fun p hp => ofDigits_eq_zero_iff (hpre p hp).digits
    have hvalue := groupsValue_toNat (k := 8 - (pre.length + post.length)) (by omega) hpre hpost
    have hplaces : 8 - (pre.length + post.length) + post.length = 8 - pre.length := by omega
    rw [ofHextets_gap, hvalue, hplaces, Nat.add_right_cancel_iff, mul_eq_mul_left_iff, hfront,
      takeWhile_orEmpty hpre, (Nat.pow_right_injective (by decide)).eq_iff]
    by_cases hnil : pre = []
    · subst hnil
      exact iff_of_true (.inr fun p hp => absurd hp List.not_mem_nil)
        (.inr fun p hp => absurd hp List.not_mem_nil)
    · refine or_congr_left ?_
      rw [orEmpty_of_ne_nil hnil, List.length_append, List.length_cons]
      omega

/-- The dots of a dotted tail. -/
theorem key_of_dot (hcolon : ch ':' ∈ ip) (hdot : ch '.' ∈ ip) : key ip = .error .syntaxError := by
  have hunits : 58 ∈ units ip := (mem_units_iff (by decide)).mpr hcolon
  have hfull : 46 ∈ (((units ip).splitOn 58).map (padStart · 4 48)).flatten := by
    have hjoin : ip = join (py ":") (split ip (ch ':')) := (List.intercalate_splitOn _).symm
    rw [hjoin] at hdot
    rcases mem_join hdot with hdot | ⟨p, hp, hdot⟩
    · exact absurd hdot (by decide)
    · rw [show (58 : UInt16) = UInt16.ofNat (ch ':').val by decide, splitOn_units (by decide)]
      have hmem : 46 ∈ units p := (mem_units_iff (by decide)).mpr hdot
      exact List.mem_flatten.mpr ⟨_, List.mem_map_of_mem (List.mem_map_of_mem hp),
        List.mem_append_right _ hmem⟩
  unfold key sortIP
  rw [if_neg (List.ne_nil_of_mem hunits), if_pos hunits, hexToBigInt_of_dot hfull]

/-! ## 5. The order -/

/-- **The key is the address** for the plain texts, and for no others. -/
theorem key_eq_iff (h : addressOf ip = some a) : key ip = .ok (a.number : Int) ↔ Plain ip := by
  rcases addressOf_cases h with ⟨m, hm, rfl⟩ | ⟨m, hm, rfl⟩
  · obtain rfl := ipv4Text_of_parse hm
    refine iff_of_true (key_ipv4Text m) fun hcolon => ?_
    exact absurd hcolon (colon_notMem_of_ipv4FromString hm)
  · have hcolon : ch ':' ∈ ip := colon_mem_of_ipv6FromString hm
    unfold Plain
    rw [forall_prop_of_true hcolon]
    by_cases hdot : ch '.' ∈ ip
    · rw [key_of_dot hcolon hdot]
      exact iff_of_false (by simp) fun h => h.1 hdot
    · rw [and_iff_right hdot]
      rcases ipv6FromString_cases hm with hgroups | ⟨parts, tail, ip4, hsplit, htail, -⟩
      · rw [key_of_parts hcolon fun p hp => ⟨hgroups.length_le hp, fun c hc => hgroups.mem hp hc⟩,
          ← ofHextets_eq_iff hgroups, Except.ok.injEq]
        exact Int.ofNat_inj
      · -- a dotted tail has a dot
        have hmem : ch '.' ∈ tail := by
          by_contra hnot
          rw [ipv4FromString_of_notMem hnot] at htail
          cases htail
        exact absurd (mem_of_mem_split (hsplit ▸ List.mem_append_right _ List.mem_cons_self) hmem)
          hdot

/-- Every address has a plain text. -/
theorem exists_plain (h : addressOf ip = some a) :
    ∃ text, addressOf text = some a ∧ Plain text := by
  rcases addressOf_cases h with ⟨m, hm, rfl⟩ | ⟨m, hm, rfl⟩
  · obtain rfl := ipv4Text_of_parse hm
    exact ⟨_, h, (key_eq_iff h).mp (key_ipv4Text m)⟩
  · refine ⟨fullText m, ?_, fun _ => ⟨?_, .inl ?_⟩⟩
    · have h4 : ipv4FromString (fullText m) = none := by
        refine Option.eq_none_iff_forall_ne_some.mpr fun ip4 hip4 => ?_
        have hcolon := colon_mem_of_ipv6FromString (ipv6FromString_fullText m)
        exact absurd hcolon (colon_notMem_of_ipv4FromString hip4)
      unfold addressOf
      rw [h4, ipv6FromString_fullText]
      rfl
    · intro hdot
      rcases mem_join hdot with hdot | ⟨p, hp, hdot⟩
      · exact absurd hdot (by decide)
      · exact notMem_fullParts m (by decide) p hp hdot
    · rw [split_fullText, length_fullParts]

theorem Plain.ordered {t : PyStr} (ha : addressOf s = some a) (hb : addressOf t = some b)
    (hs : Plain s)
    (ht : Plain t) : Ordered s t a b :=
  ⟨_, _, (key_eq_iff ha).mpr hs, (key_eq_iff hb).mpr ht, Int.ofNat_lt⟩

/-- **A text sorts right** among the plain texts of its family if and only if it is one of them. -/
theorem ordered_iff (ip : PyStr) (a : IpAddress) (h : addressOf ip = some a) :
    (∀ other b, addressOf other = some b → b.version = a.version → Plain other →
      Ordered ip other a b ∧ Ordered other ip b a) ↔ Plain ip := by
  constructor
  · intro hordered
    obtain ⟨text, htext, hplain⟩ := exists_plain h
    have hkey := (key_eq_iff htext).mpr hplain
    obtain ⟨⟨k, l, hk, hl, hlt⟩, ⟨l', k', hl', hk', hgt⟩⟩ := hordered text a htext rfl hplain
    obtain rfl := Except.ok.inj (hk.symm.trans hk')
    obtain rfl := Except.ok.inj (hl.symm.trans hl')
    obtain rfl := Except.ok.inj (hl.symm.trans hkey)
    -- neither is below the other
    have heq : k = (a.number : Int) := by omega
    rw [← key_eq_iff h, hk, heq]
  · intro hip other b hother _ hplain
    exact ⟨hip.ordered h hother hplain, hplain.ordered hother h hip⟩

theorem ordered_iff_unique_local :
    (∀ other b, addressOf other = some b → b.version = 6 → Plain other →
      Ordered (py "fd00::2") other (.v6 (0xFD00 <<< 112 ||| 2) none) b ∧
        Ordered other (py "fd00::2") b (.v6 (0xFD00 <<< 112 ||| 2) none)) ↔ Plain (py "fd00::2") :=
  ordered_iff (py "fd00::2") (.v6 (0xFD00 <<< 112 ||| 2) none) (by decide +kernel)

/-- **A higher address with a lower key**, two keys of one address, and an address without a key. -/
theorem compressed_out_of_order :
    (∃ a b, addressOf (py "fc00:1:2:3:4:5:6:7") = some a ∧ addressOf (py "fd00::2") = some b ∧
      a.version = b.version ∧ ¬Ordered (py "fc00:1:2:3:4:5:6:7") (py "fd00::2") a b) ∧
    (∃ a, addressOf (py "fd00::2") = some a ∧ addressOf (py "fd00:0:0:0:0:0:0:2") = some a ∧
      key (py "fd00::2") ≠ key (py "fd00:0:0:0:0:0:0:2")) ∧
    (∃ a, addressOf (py "::ffff:1.2.3.4") = some a ∧
      key (py "::ffff:1.2.3.4") = .error .syntaxError) := by
  have hlow : key (py "fd00::2") = .ok 0xFD0000000002 := by decide +kernel
  have hhigh : key (py "fc00:1:2:3:4:5:6:7") = .ok 0xFC000001000200030004000500060007 := by
    decide +kernel
  have hfull : key (py "fd00:0:0:0:0:0:0:2") = .ok 0xFD000000000000000000000000000002 := by
    decide +kernel
  refine ⟨⟨.v6 0xFC000001000200030004000500060007 none, .v6 (0xFD00 <<< 112 ||| 2) none,
    by decide +kernel, by decide +kernel, rfl, ?_⟩,
    ⟨.v6 (0xFD00 <<< 112 ||| 2) none, by decide +kernel, by decide +kernel, ?_⟩,
    .v6 0xFFFF01020304 none, by decide +kernel, by decide +kernel⟩
  · rintro ⟨k, l, hk, hl, hlt⟩
    obtain rfl := Except.ok.inj (hhigh.symm.trans hk)
    obtain rfl := Except.ok.inj (hlow.symm.trans hl)
    exact absurd (hlt.mpr (by decide)) (by decide)
  · rw [hlow, hfull]
    decide

end ZtPlanet.Ztnet.SortKey
