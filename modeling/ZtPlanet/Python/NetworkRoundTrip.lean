/-
# `ip_network(str(n)) = n`, and the one text of an IPv4 address

The same round trip for networks as for addresses: the text of a network that `ip_network` returned
parses to that network, because its host bits are gone and its scope, if it has kept one, came out
of a text without a slash.

The strict octets of IPv4 give the converse as well: a text that parses is the text of the address
it parses to, so a name that happens to be an address is already in its normal form.
-/
import Mathlib.Data.List.Induction
import ZtPlanet.Python.Decimal
import ZtPlanet.Python.IpRoundTrip

namespace ZtPlanet.Python

/-! ## 1. Digits without a leading zero -/

theorem toDigits_lt_ten : ∀ d < 10, Nat.toDigits 10 d = [Nat.digitChar d] := by decide

theorem ofChar_digitChar : ∀ c : CodePoint, isAsciiDigit c = true →
    ofChar (Nat.digitChar (digitValue c)) = c := by
  intro c hc
  obtain ⟨hv, hlow, hhigh⟩ := digitValue_of_isAsciiDigit hc
  have hall : ∀ d < 10, (ofChar (Nat.digitChar d)).val = d + 48 := by decide
  refine Fin.ext ?_
  rw [hall _ (by omega)]
  omega

/-- **A number without a leading zero is the text of its value.** -/
theorem decimal_ofDigits {s : PyStr} (hdigits : ∀ c ∈ s, isAsciiDigit c = true)
    (hne : s ≠ []) (hzero : s = py "0" ∨ s.head? ≠ some (ch '0')) :
    decimal (ofDigits 10 s) = s := by
  induction s using List.reverseRecOn with
  | nil => exact absurd rfl hne
  | append_singleton s c ih =>
    have hc := hdigits c (by simp)
    obtain ⟨hv, hlow, hhigh⟩ := digitValue_of_isAsciiDigit hc
    cases s with
    | nil =>
      have h : ofDigits 10 [c] = digitValue c := by simp [ofDigits]
      rw [List.nil_append, h, decimal, toDigits_lt_ten _ (by omega), List.map_singleton,
        ofChar_digitChar c hc]
    | cons d s =>
      have hhead : (d :: s).head? ≠ some (ch '0') := by
        rcases hzero with h | h
        · have hlen := congrArg List.length h
          simp [py_eq_map] at hlen
        · simpa using h
      have hrest := ih (fun x hx => hdigits x (List.mem_append_left _ hx)) (by simp) (.inr hhead)
      have hd := hdigits d (by simp)
      obtain ⟨hdv, hdlow, hdhigh⟩ := digitValue_of_isAsciiDigit hd
      have hdpos : 0 < digitValue d := by
        have hd0 : d.val ≠ 48 := fun h => hhead (congrArg some (Fin.ext h))
        omega
      have hpos : 0 < ofDigits 10 (d :: s) := by
        rw [ofDigits_cons]
        exact Nat.add_pos_left (Nat.mul_pos hdpos (Nat.pow_pos (by decide))) _
      rw [ofDigits_append_one]
      unfold decimal at hrest ⊢
      rw [Nat.toDigits_eq_if (by decide), if_neg (by omega)]
      have hdiv : (10 * ofDigits 10 (d :: s) + digitValue c) / 10 = ofDigits 10 (d :: s) := by
        omega
      have hmod : (10 * ofDigits 10 (d :: s) + digitValue c) % 10 = digitValue c := by omega
      rw [hdiv, hmod, List.map_append, hrest, List.map_singleton, ofChar_digitChar c hc]

namespace IpAddress

/-- A text that parses as an octet is the text of the octet. -/
theorem decimal_of_parseOctet {s : PyStr} {n : Nat} (h : parseOctet s = some n) :
    decimal n = s ∧ n ≤ 255 := by
  unfold parseOctet at h
  split at h
  · cases h
  · rename_i hne
    split at h
    · cases h
    · rename_i hdigits
      rw [Bool.not_eq_false, List.all_eq_true] at hdigits
      split at h
      · cases h
      · split at h
        · cases h
        · rename_i hzero
          split at h
          · cases h
          · rename_i hle
            cases h
            refine ⟨decimal_ofDigits hdigits hne ?_, by omega⟩
            by_cases hs : s = py "0"
            · exact .inl hs
            · exact .inr fun hhead => hzero ⟨hs, hhead⟩

/-- **A text that parses as an IPv4 address is the text of that address.** -/
theorem ipv4Text_of_parse {s : PyStr} {ip : BitVec 32} (h : ipv4FromString s = some ip) :
    ipv4Text ip = s := by
  unfold ipv4FromString at h
  split at h
  · rename_i a b c d heq
    cases h
    obtain ⟨p, rest₁, hs, hp, heq⟩ := List.map_eq_cons_iff.mp heq
    obtain ⟨q, rest₂, rfl, hq, heq⟩ := List.map_eq_cons_iff.mp heq
    obtain ⟨r, rest₃, rfl, hr, heq⟩ := List.map_eq_cons_iff.mp heq
    obtain ⟨t, rest₄, rfl, ht, heq⟩ := List.map_eq_cons_iff.mp heq
    obtain rfl := List.map_eq_nil_iff.mp heq
    obtain ⟨rfl, hp'⟩ := decimal_of_parseOctet hp
    obtain ⟨rfl, hq'⟩ := decimal_of_parseOctet hq
    obtain ⟨rfl, hr'⟩ := decimal_of_parseOctet hr
    obtain ⟨rfl, ht'⟩ := decimal_of_parseOctet ht
    have hjoin : s = join (py ".") (split s (ch '.')) := (List.intercalate_splitOn _).symm
    rw [hjoin, hs]
    unfold ipv4Text
    refine congrArg (join (py ".")) ?_
    simp only [List.range_succ, List.range_zero, List.nil_append, List.cons_append, List.map_cons,
      List.map_nil, BitVec.toNat_ofNat]
    refine List.cons_eq_cons.mpr ⟨congrArg decimal (by omega), ?_⟩
    refine List.cons_eq_cons.mpr ⟨congrArg decimal (by omega), ?_⟩
    refine List.cons_eq_cons.mpr ⟨congrArg decimal (by omega), ?_⟩
    exact List.cons_eq_cons.mpr ⟨congrArg decimal (by omega), rfl⟩
  · cases h

end IpAddress

/-! ## 2. Networks -/

namespace IpNetwork

open IpAddress

/-- What `ip_network` returns: no host bits, no longer a prefix than the address, and a scope that
the text of the address can hold. -/
structure WellFormed (n : IpNetwork) : Prop where
  address : n.address.WellFormed
  masked : match n.address with
    | .v4 ip => n.prefixLength ≤ 32 ∧ ip &&& netmask 32 n.prefixLength = ip
    | .v6 ip _ => n.prefixLength ≤ 128 ∧ ip &&& netmask 128 n.prefixLength = ip

theorem prefixFromString_decimal {n maxLength : Nat} (h : n ≤ maxLength) (hmax : maxLength ≤ 128) :
    prefixFromString (decimal n) maxLength = some n := by
  have hlength : (decimal n).length ≤ 3 := length_decimal_le (by decide) (by omega)
  have hshort : ¬ (decimal n).length > intMaxStrDigits := by
    unfold intMaxStrDigits
    omega
  have hdigits : ¬ (decimal n = [] ∨ (decimal n).all isAsciiDigit = false) := by
    rw [all_isAsciiDigit_decimal]
    rintro (h | h)
    · exact decimal_ne_nil n h
    · cases h
  unfold prefixFromString
  rw [if_neg hdigits, if_neg hshort, ofDigits_decimal, if_neg (by omega)]

theorem prefixFromString_le {s : PyStr} {maxLength n : Nat}
    (h : prefixFromString s maxLength = some n) : n ≤ maxLength := by
  unfold prefixFromString at h
  split at h
  · cases h
  · split at h
    · cases h
    · split at h
      · cases h
      · cases h
        omega

theorem prefixFromMask_le {ip : BitVec 32} {n : Nat} (h : prefixFromMask ip = some n) : n ≤ 32 := by
  have := List.mem_range.mp (List.mem_of_find?_eq_some h)
  omega

theorem prefixFromDotted_le {s : PyStr} {n : Nat} (h : prefixFromDotted s = some n) : n ≤ 32 := by
  unfold prefixFromDotted at h
  split at h
  · cases h
  · split at h
    · rename_i hmask
      cases h
      exact prefixFromMask_le hmask
    · exact prefixFromMask_le h

theorem and_mask_idem {w : Nat} (ip mask : BitVec w) : ip &&& mask &&& mask = ip &&& mask := by
  rw [BitVec.and_assoc, BitVec.and_self]

/-- What `ip_network` returns is well formed. -/
theorem wellFormed_of_parse {s : PyStr} {n : IpNetwork} (h : parse s = some n) :
    n.WellFormed := by
  rcases Option.or_eq_some_iff.mp h with h | ⟨-, h⟩
  · unfold ipv4Network at h
    split at h
    · cases h
    · rename_i addr mask hsplit
      split at h
      · cases h
      · rename_i ip hip
        obtain ⟨length, hlength, rfl⟩ := Option.map_eq_some_iff.mp h
        refine ⟨trivial, ?_, and_mask_idem ip _⟩
        cases mask with
        | none =>
          cases hlength
          exact le_rfl
        | some mask =>
          rcases Option.or_eq_some_iff.mp hlength with hl | ⟨-, hl⟩
          · exact prefixFromString_le hl
          · exact prefixFromDotted_le hl
  · unfold ipv6Network at h
    split at h
    · cases h
    · rename_i addr mask hsplit
      split at h
      · cases h
      · rename_i ip scope hip
        obtain ⟨length, hlength, rfl⟩ := Option.map_eq_some_iff.mp h
        have haddress : (IpAddress.v6 ip scope).WellFormed :=
          wellFormed_of_ipv6Address hip
        refine ⟨?_, ?_, and_mask_idem ip _⟩
        · dsimp only
          split
          · exact fun t ht => haddress t ht
          · intro t ht
            cases ht
        · cases mask with
          | none =>
            cases hlength
            exact le_rfl
          | some mask => exact prefixFromString_le hlength

/-- The text of a network is split at its slash. -/
theorem splitAddrPrefix_str {a : IpAddress} (ha : a.WellFormed) (length : Nat) :
    splitAddrPrefix (a.str ++ ch '/' :: decimal length) = some (a.str, some (decimal length)) := by
  have hdecimal : ch '/' ∉ decimal length := by
    intro hm
    have := isAsciiDigit_of_mem_decimal hm
    revert this
    decide
  have haddress : ch '/' ∉ a.str := slash_notMem_str ha
  have hsplit : split (a.str ++ ch '/' :: decimal length) (ch '/')
      = [a.str, decimal length] := by
    have hjoin : a.str ++ ch '/' :: decimal length
        = join (py "/") [a.str, decimal length] := by
      simp [join, List.intercalate_cons_cons, py_eq_map]
    rw [hjoin]
    refine List.splitOn_intercalate _ ?_ (by simp)
    intro l hl
    rcases List.mem_cons.mp hl with rfl | hl
    · exact haddress
    · rw [List.mem_singleton.mp hl]
      exact hdecimal
  unfold splitAddrPrefix
  rw [hsplit]

/-- **The text of a network parses to the network.** -/
theorem parse_str {n : IpNetwork} (h : n.WellFormed) : parse n.str = some n := by
  obtain ⟨address, length⟩ := n
  obtain ⟨haddress, hmasked⟩ := h
  have hsplit := splitAddrPrefix_str haddress length
  cases address with
  | v4 ip =>
    obtain ⟨hle, hmask⟩ := hmasked
    have hip : ipv4Address (IpAddress.v4 ip).str = some ip := by
      have hslash : ch '/' ∉ (IpAddress.v4 ip).str := slash_notMem_str haddress
      unfold ipv4Address
      rw [if_neg hslash]
      exact ipv4FromString_ipv4Text ip
    unfold parse str ipv4Network
    simp only [hsplit, hip, prefixFromString_decimal hle (by decide), Option.some_or,
      Option.map_some, hmask]
  | v6 ip scope =>
    obtain ⟨hle, hmask⟩ := hmasked
    have hv4 : ipv4Address (IpAddress.v6 ip scope).str = none :=
      ipv4Address_ipv6Text_append ip (scopeText scope)
    have hv6 : ipv6Address (IpAddress.v6 ip scope).str = some (ip, scope) := by
      have hparse := IpAddress.parse_str haddress
      unfold IpAddress.parse at hparse
      rw [hv4] at hparse
      obtain ⟨p, hp, heq⟩ := Option.map_eq_some_iff.mp hparse
      cases heq
      exact hp
    unfold parse str ipv4Network ipv6Network
    simp only [hsplit, hv4, hv6, prefixFromString_decimal hle (by decide), Option.map_some, hmask,
      if_true, Option.none_or]

/-- What `ip_network` returns is what its text parses to. -/
theorem parse_str_of_parse {s : PyStr} {n : IpNetwork} (h : parse s = some n) :
    parse n.str = some n :=
  parse_str (wellFormed_of_parse h)

end IpNetwork

end ZtPlanet.Python
