/-
# What an IPv6 text consists of

`ipaddress` reads an IPv6 text part by part.  Read backwards, a text that is accepted has eight
groups, or fewer and one `::`, and a dotted tail may stand for the last two groups
(`grouped_of_ipv6FromParts`, `ipv6FromString_cases`).

The number of an address is that of its groups as digits in base 65536 (`groupsValue_toNat`).  Every
address has a text without a `::` (`ipv6FromString_fullText`).
-/
import Mathlib.Data.Nat.Digits.Defs
import ZtPlanet.Python.Decimal
import ZtPlanet.Python.IpRoundTrip

namespace ZtPlanet.Python.IpAddress

variable {parts pre post : List PyStr} {s : PyStr} {n : BitVec 128} {k : Nat}

/-! ## 1. Groups -/

/-- A group of one to four hexadecimal digits. -/
structure IsGroup (s : PyStr) : Prop where
  digits : ∀ c ∈ s, isHexDigit c = true
  length : s.length ≤ 4
  ne_nil : s ≠ []

theorem parseHextet_eq_some {h : Nat} (hs : parseHextet s = some h) :
    IsGroup s ∧ h = ofDigits 16 s := by
  unfold parseHextet at hs
  obtain ⟨hdigits, hs⟩ := Option.ite_none_left_eq_some.mp hs
  obtain ⟨hlength, hs⟩ := Option.ite_none_left_eq_some.mp hs
  obtain ⟨hne, hs⟩ := Option.ite_none_left_eq_some.mp hs
  rw [Bool.not_eq_false, List.all_eq_true] at hdigits
  exact ⟨⟨hdigits, Nat.not_lt.mp hlength, hne⟩, (Option.some.inj hs).symm⟩

theorem mapM_parseHextet_eq_some : ∀ {parts : List PyStr} {hs : List Nat},
    parts.mapM parseHextet = some hs → (∀ p ∈ parts, IsGroup p) ∧ hs = parts.map (ofDigits 16)
  | [], hs, h => by
    obtain rfl := Option.some.inj h
    exact ⟨fun p hp => absurd hp List.not_mem_nil, rfl⟩
  | p :: parts, hs, h => by
    rw [List.mapM_cons] at h
    obtain ⟨first, hfirst, h⟩ := Option.bind_eq_some_iff.mp h
    obtain ⟨more, hmore, h⟩ := Option.bind_eq_some_iff.mp h
    obtain rfl := Option.some.inj h
    obtain ⟨hgroup, rfl⟩ := parseHextet_eq_some hfirst
    obtain ⟨hgroups, rfl⟩ := mapM_parseHextet_eq_some hmore
    exact ⟨List.forall_mem_cons.mpr ⟨hgroup, hgroups⟩, rfl⟩

/-- The number of groups with `k` zero groups between them. -/
def groupsValue (pre : List PyStr) (k : Nat) (post : List PyStr) : BitVec 128 :=
  BitVec.ofNat 128
    (ofHextets (pre.map (ofDigits 16) ++ List.replicate k 0 ++ post.map (ofDigits 16)))

/-- What is assembled are groups. -/
theorem assemble_eq_some (h : assemble pre k post = some n) :
    (∀ p ∈ pre, IsGroup p) ∧ (∀ p ∈ post, IsGroup p) ∧ n = groupsValue pre k post := by
  unfold assemble at h
  split at h
  · next hi lo hhi hlo =>
    obtain ⟨hpre, rfl⟩ := mapM_parseHextet_eq_some hhi
    obtain ⟨hpost, rfl⟩ := mapM_parseHextet_eq_some hlo
    exact ⟨hpre, hpost, (Option.some.inj h).symm⟩
  · cases h

/-! ## 2. Parts -/

theorem mem_emptyInside {i : Nat} (h : i ∈ emptyInside parts) :
    1 ≤ i ∧ i + 1 < parts.length ∧ parts[i]? = some [] := by
  obtain ⟨-, hi⟩ := List.mem_filter.mp h
  rw [Bool.and_eq_true, decide_eq_true_eq, beq_iff_eq] at hi
  exact ⟨hi.1.1, hi.1.2, hi.2⟩

/-- A list around one of its elements. -/
theorem eq_take_append_drop {i : Nat} (h : parts[i]? = some s) :
    parts = parts.take i ++ s :: parts.drop (i + 1) := by
  obtain ⟨hlt, hget⟩ := List.getElem?_eq_some_iff.mp h
  rw [← hget, List.getElem_cons_drop, List.take_append_drop]

/-- What stands in front of the `::`. -/
theorem take_eq_orEmpty {skip hi : Nat} (hpos : 1 ≤ skip) (hlt : skip < parts.length)
    (hhi : hi = if parts.head? = some [] then skip - 1 else skip)
    (hstarts : ¬(parts.head? = some [] ∧ hi ≠ 0)) :
    parts.take skip = orEmpty (parts.take hi) ∧ (parts.take hi).length = hi := by
  by_cases hempty : parts.head? = some []
  · rw [if_pos hempty] at hhi
    obtain rfl : hi = 0 := not_not.mp fun hne => hstarts ⟨hempty, hne⟩
    obtain rfl : skip = 1 := by omega
    rw [List.take_one, hempty]
    exact ⟨rfl, rfl⟩
  · rw [if_neg hempty] at hhi
    subst hhi
    have hlength : (parts.take hi).length = hi := by
      rw [List.length_take]
      omega
    refine ⟨(orEmpty_of_ne_nil fun hnil => ?_).symm, hlength⟩
    rw [hnil] at hlength
    exact absurd hlength (by simp; omega)

/-- What stands behind it. -/
theorem drop_eq_orEmpty {skip lo : Nat} (hlt : skip + 1 < parts.length)
    (hlo : lo = if parts.getLast? = some [] then parts.length - skip - 2
      else parts.length - skip - 1)
    (hends : ¬(parts.getLast? = some [] ∧ lo ≠ 0)) :
    parts.drop (skip + 1) = orEmpty (parts.drop (parts.length - lo)) ∧
      (parts.drop (parts.length - lo)).length = lo := by
  by_cases hempty : parts.getLast? = some []
  · rw [if_pos hempty] at hlo
    obtain rfl : lo = 0 := not_not.mp fun hne => hends ⟨hempty, hne⟩
    rw [Nat.sub_zero, List.drop_length]
    refine ⟨?_, rfl⟩
    -- one part is left, and it is the last
    obtain ⟨p, hp⟩ : ∃ p, parts.drop (skip + 1) = [p] := by
      rw [← List.length_eq_one_iff, List.length_drop]
      omega
    have hlast := congrArg List.getLast? hp
    rw [List.getLast?_drop, if_neg (by omega), hempty] at hlast
    rw [hp]
    cases hlast
    rfl
  · rw [if_neg hempty] at hlo
    have hskip : parts.length - lo = skip + 1 := by omega
    rw [hskip]
    have hlength : (parts.drop (skip + 1)).length = lo := by
      rw [List.length_drop]
      omega
    refine ⟨(orEmpty_of_ne_nil fun hnil => ?_).symm, hlength⟩
    rw [hnil] at hlength
    exact absurd hlength (by simp; omega)

/-- Eight groups, or a `::` between fewer, and the number that they make. -/
inductive Grouped : List PyStr → BitVec 128 → Prop where
  | full (parts : List PyStr) (hlength : parts.length = 8) (hgroups : ∀ p ∈ parts, IsGroup p) :
    Grouped parts (groupsValue parts 0 [])
  | compressed (pre post : List PyStr) (hlength : pre.length + post.length ≤ 7)
    (hpre : ∀ p ∈ pre, IsGroup p) (hpost : ∀ p ∈ post, IsGroup p) :
    Grouped (orEmpty pre ++ [] :: orEmpty post)
      (groupsValue pre (8 - (pre.length + post.length)) post)

/-- **The parts of a text that is accepted.** -/
theorem grouped_of_ipv6FromParts (h : ipv6FromParts parts = some n) : Grouped parts n := by
  unfold ipv6FromParts at h
  obtain ⟨-, h⟩ := Option.ite_none_left_eq_some.mp h
  cases hinside : emptyInside parts with
  | nil =>
    simp only [hinside] at h
    obtain ⟨hfull, h⟩ := Option.ite_none_left_eq_some.mp h
    rw [not_or, not_not] at hfull
    obtain ⟨hgroups, -, rfl⟩ := assemble_eq_some h
    exact .full parts hfull.1 hgroups
  | cons skip more =>
    cases more with
    | cons skip' more =>
      simp only [hinside] at h
      cases h
    | nil =>
      obtain ⟨hpos, hlt, hempty⟩ := mem_emptyInside (hinside ▸ List.mem_singleton_self skip)
      simp only [hinside] at h
      obtain ⟨hstarts, h⟩ := Option.ite_none_left_eq_some.mp h
      obtain ⟨hends, h⟩ := Option.ite_none_left_eq_some.mp h
      obtain ⟨hlength, h⟩ := Option.ite_none_left_eq_some.mp h
      obtain ⟨hpre, hhi⟩ := take_eq_orEmpty hpos (Nat.lt_of_succ_lt hlt) rfl hstarts
      obtain ⟨hpost, hlo⟩ := drop_eq_orEmpty hlt rfl hends
      obtain ⟨hfront, hback, rfl⟩ := assemble_eq_some h
      have hgrouped := Grouped.compressed _ _ (by rw [hhi, hlo]; exact Nat.not_lt.mp hlength) hfront
        hback
      rw [hhi, hlo, ← hpre, ← hpost, ← eq_take_append_drop hempty] at hgrouped
      exact hgrouped

/-- A part is a group, or nothing. -/
theorem Grouped.nil_or_isGroup (h : Grouped parts n) {p : PyStr} (hp : p ∈ parts) :
    p = [] ∨ IsGroup p := by
  have horEmpty : ∀ parts : List PyStr, (∀ p ∈ parts, IsGroup p) → p ∈ orEmpty parts →
      p = [] ∨ IsGroup p := by
    intro parts hgroups hp
    unfold orEmpty at hp
    split at hp
    · exact .inl (List.mem_singleton.mp hp)
    · exact .inr (hgroups p hp)
  cases h with
  | full parts hlength hgroups => exact .inr (hgroups p hp)
  | compressed pre post hlength hpre hpost =>
    rcases List.mem_append.mp hp with hp | hp
    · exact horEmpty pre hpre hp
    · rcases List.mem_cons.mp hp with rfl | hp
      · exact .inl rfl
      · exact horEmpty post hpost hp

theorem Grouped.mem (h : Grouped parts n) {p : PyStr} (hp : p ∈ parts) {c : CodePoint}
    (hc : c ∈ p) :
    isHexDigit c = true := by
  rcases h.nil_or_isGroup hp with rfl | hgroup
  · exact absurd hc List.not_mem_nil
  · exact hgroup.digits c hc

theorem Grouped.length_le (h : Grouped parts n) {p : PyStr} (hp : p ∈ parts) : p.length ≤ 4 := by
  rcases h.nil_or_isGroup hp with rfl | hgroup
  · exact Nat.zero_le 4
  · exact hgroup.length

/-- The parts in front of a `::`. -/
theorem takeWhile_orEmpty {rest : List PyStr} (hpre : ∀ p ∈ pre, IsGroup p) :
    (orEmpty pre ++ [] :: rest).takeWhile (· ≠ []) = pre := by
  cases pre with
  | nil => rfl
  | cons p pre =>
    rw [orEmpty_of_ne_nil (List.cons_ne_nil p pre), List.takeWhile_append_of_pos fun q hq =>
      decide_eq_true (hpre q hq).ne_nil, List.takeWhile_cons_of_neg (by simp), List.append_nil]

/-! ## 3. Texts -/

/-- The last of several parts. -/
theorem join_concat (sep p q : PyStr) (parts : List PyStr) :
    join sep (p :: parts ++ [q]) = join sep (p :: parts) ++ (sep ++ q) := by
  unfold join
  induction parts generalizing p with
  | nil =>
    rw [List.singleton_append, List.intercalate_cons_cons, List.intercalate_singleton,
      List.intercalate_singleton, List.append_assoc]
  | cons r parts ih =>
    rw [List.cons_append, List.cons_append, List.intercalate_cons_cons, ← List.cons_append, ih,
      List.intercalate_cons_cons, List.append_assoc, List.append_assoc, List.append_assoc]

theorem ipv4FromString_of_notMem {s : PyStr} (h : ch '.' ∉ s) : ipv4FromString s = none := by
  unfold ipv4FromString split
  rw [List.splitOn_eq_singleton h, List.map_singleton]
  cases parseOctet s <;> rfl

/-- The last two groups of an address with a dotted tail. -/
def tailGroups (ip : BitVec 32) : List PyStr :=
  [hexadecimal (ip.toNat / 65536), hexadecimal (ip.toNat % 65536)]

/-- **A text that is accepted** consists of groups, or of groups and a dotted tail. -/
theorem ipv6FromString_cases (h : ipv6FromString s = some n) :
    Grouped (split s (ch ':')) n ∨
      ∃ parts tail ip, split s (ch ':') = parts ++ [tail] ∧ ipv4FromString tail = some ip ∧
        Grouped (parts ++ tailGroups ip) n := by
  unfold ipv6FromString at h
  dsimp only at h
  obtain ⟨-, h⟩ := Option.ite_none_left_eq_some.mp h
  unfold expandDotted at h
  cases hlast : (split s (ch ':')).getLast? with
  | none =>
    simp only [hlast] at h
    exact .inl (grouped_of_ipv6FromParts h)
  | some tail =>
    simp only [hlast] at h
    split at h
    · cases h
    · next parts hparts =>
      split at hparts
      · next hdot =>
        obtain ⟨ip, hip, rfl⟩ := Option.map_eq_some_iff.mp hparts
        obtain ⟨-, hip⟩ := Option.ite_none_left_eq_some.mp hip
        refine .inr ⟨(split s (ch ':')).dropLast, tail, ip, ?_, hip, grouped_of_ipv6FromParts h⟩
        exact (List.dropLast_append_getLast? tail hlast).symm
      · cases hparts
        exact .inl (grouped_of_ipv6FromParts h)

/-! ## 4. Numbers -/

theorem ofHextets_eq_ofDigits (hs : List Nat) : ofHextets hs = Nat.ofDigits 65536 hs.reverse := by
  induction hs using List.reverseRecOn with
  | nil => rfl
  | append_singleton hs h ih =>
    have hstep : ofHextets (hs ++ [h]) = ofHextets hs * 65536 + h := by
      unfold ofHextets
      rw [List.foldl_append, List.foldl_cons, List.foldl_nil]
    rw [hstep, ih, List.reverse_concat, Nat.ofDigits_cons, Nat.mul_comm, Nat.add_comm]

theorem ofHextets_append (hs hs' : List Nat) :
    ofHextets (hs ++ hs') = ofHextets hs * 65536 ^ hs'.length + ofHextets hs' := by
  rw [ofHextets_eq_ofDigits, ofHextets_eq_ofDigits, ofHextets_eq_ofDigits, List.reverse_append,
    Nat.ofDigits_append, List.length_reverse, Nat.mul_comm, Nat.add_comm]

theorem ofHextets_lt {hs : List Nat} (h : ∀ n ∈ hs, n < 65536) :
    ofHextets hs < 65536 ^ hs.length := by
  rw [ofHextets_eq_ofDigits, ← List.length_reverse]
  exact Nat.ofDigits_lt_base_pow_length (by decide) fun n hn => h n (List.mem_reverse.mp hn)

theorem ofHextets_eq_zero_iff {hs : List Nat} : ofHextets hs = 0 ↔ ∀ n ∈ hs, n = 0 := by
  rw [ofHextets_eq_ofDigits]
  constructor
  · exact fun h n hn => Nat.digits_zero_of_eq_zero (by decide) h n (List.mem_reverse.mpr hn)
  · intro h
    rw [List.eq_replicate_of_mem h, List.reverse_replicate, Nat.ofDigits_replicate_zero]

theorem digitValue_of_isHexDigit {c : CodePoint} (h : isHexDigit c = true) :
    digitValue c < 16 ∧ (digitValue c = 0 ↔ c = ch '0') := by
  unfold isHexDigit isAsciiDigit at h
  have hzero : c = ch '0' ↔ c.val = 48 := Fin.ext_iff
  rw [hzero]
  unfold digitValue
  simp only [Bool.or_eq_true, Bool.and_eq_true, decide_eq_true_eq] at h
  split
  · omega
  · split <;> omega

theorem IsGroup.lt (h : IsGroup s) : ofDigits 16 s < 65536 := by
  have hlt := ofDigits_lt_pow fun c hc => (digitValue_of_isHexDigit (h.digits c hc)).1
  exact Nat.lt_of_lt_of_le hlt (Nat.pow_le_pow_right (by decide) h.length)

/-- A group of zeros. -/
theorem ofDigits_eq_zero_iff (h : ∀ c ∈ s, isHexDigit c = true) :
    ofDigits 16 s = 0 ↔ ∀ c ∈ s, c = ch '0' := by
  induction s with
  | nil => exact iff_of_true rfl fun c hc => absurd hc List.not_mem_nil
  | cons c s ih =>
    have hpos : 16 ^ s.length ≠ 0 := Nat.ne_of_gt (Nat.pow_pos (by decide))
    rw [ofDigits_cons, Nat.add_eq_zero_iff, Nat.mul_eq_zero, or_iff_left hpos,
      (digitValue_of_isHexDigit (h c List.mem_cons_self)).2,
      ih fun c hc => h c (List.mem_cons_of_mem _ hc), List.forall_mem_cons]

theorem ofHextets_orEmpty (parts : List PyStr) :
    ofHextets ((orEmpty parts).map (ofDigits 16)) = ofHextets (parts.map (ofDigits 16)) := by
  cases parts <;> rfl

/-- **The number of groups** with zero groups between them. -/
theorem groupsValue_toNat (hlength : pre.length + k + post.length = 8) (hpre : ∀ p ∈ pre, IsGroup p)
    (hpost : ∀ p ∈ post, IsGroup p) :
    (groupsValue pre k post).toNat =
      ofHextets (pre.map (ofDigits 16)) * 65536 ^ (k + post.length) +
        ofHextets (post.map (ofDigits 16)) := by
  have hzeros : ofHextets (List.replicate k 0) = 0 :=
    ofHextets_eq_zero_iff.mpr fun n hn => List.eq_of_mem_replicate hn
  have hlt : ofHextets (pre.map (ofDigits 16) ++ List.replicate k 0 ++ post.map (ofDigits 16)) <
      2 ^ 128 := by
    have hall : ∀ n ∈ pre.map (ofDigits 16) ++ List.replicate k 0 ++ post.map (ofDigits 16),
        n < 65536 := by
      intro n hn
      rcases List.mem_append.mp hn with hn | hn
      · rcases List.mem_append.mp hn with hn | hn
        · obtain ⟨p, hp, rfl⟩ := List.mem_map.mp hn
          exact (hpre p hp).lt
        · rw [List.eq_of_mem_replicate hn]
          decide
      · obtain ⟨p, hp, rfl⟩ := List.mem_map.mp hn
        exact (hpost p hp).lt
    have hbound := ofHextets_lt hall
    rw [List.length_append, List.length_append, List.length_map, List.length_map,
      List.length_replicate, hlength] at hbound
    exact hbound
  unfold groupsValue
  rw [BitVec.toNat_ofNat, Nat.mod_eq_of_lt hlt, ofHextets_append, ofHextets_append, hzeros,
    Nat.add_zero, List.length_map, List.length_replicate, Nat.mul_assoc, ← Nat.pow_add]

/-- Its number is the number of eight groups. -/
theorem groupsValue_full (hlength : parts.length = 8) (hgroups : ∀ p ∈ parts, IsGroup p) :
    (groupsValue parts 0 []).toNat = ofHextets (parts.map (ofDigits 16)) := by
  have hnone : ∀ p ∈ ([] : List PyStr), IsGroup p := fun p hp => absurd hp List.not_mem_nil
  rw [groupsValue_toNat hlength hgroups hnone]
  exact Nat.mul_one _

/-! ## 5. Texts without a `::` -/

/-- The text of an address with all its groups. -/
def fullText (n : BitVec 128) : PyStr := join (py ":") ((hextets n).map hexadecimal)

theorem length_fullParts (n : BitVec 128) : ((hextets n).map hexadecimal).length = 8 := by
  simp [hextets]

theorem notMem_fullParts (n : BitVec 128) {c : CodePoint} (hc : isHexDigit c = false) :
    ∀ p ∈ (hextets n).map hexadecimal, c ∉ p := by
  intro p hp hmem
  obtain ⟨m, -, rfl⟩ := List.mem_map.mp hp
  rw [isHexDigit_of_mem_hexadecimal hmem] at hc
  cases hc

theorem split_fullText (n : BitVec 128) :
    split (fullText n) (ch ':') = (hextets n).map hexadecimal := by
  refine List.splitOn_intercalate _ (notMem_fullParts n (by decide)) fun hnil => ?_
  have hlength := length_fullParts n
  rw [hnil] at hlength
  cases hlength

/-- **It is read as the address.** -/
theorem ipv6FromString_fullText (n : BitVec 128) : ipv6FromString (fullText n) = some n := by
  have hlength := length_fullParts n
  have hne : ∀ p ∈ (hextets n).map hexadecimal, p ≠ [] := by
    intro p hp
    obtain ⟨m, -, rfl⟩ := List.mem_map.mp hp
    exact hexadecimal_ne_nil m
  unfold fullText
  rw [ipv6FromString_join (by omega) (notMem_fullParts n (by decide))
    (notMem_fullParts n (by decide)),
    ipv6FromParts_full hne hlength, assemble, mapM_parseHextet (hextets_lt n)]
  simp only [List.replicate_zero, List.append_nil, List.mapM_nil, Option.pure_def]
  rw [ofHextets_hextets, BitVec.ofNat_toNat, BitVec.setWidth_eq]

end ZtPlanet.Python.IpAddress
