/-
# Which targets are CIDR notation

`isValidCIDR` splits a target at its slashes, asks the `ip-address` package about the part in front
of the first one, and gives what stands behind it, up to the next slash, to `parseInt`.  `parseInt`
reads a number from the front of a text, so the route schema accepts `10.0.0.0/8 and more`,
`10.0.0.0/+8`, `10.0.0.0/0x8` and `10.0.0.0/8/9`, and the target goes to the controller as it is.

No target in CIDR notation is refused (`isValidCIDR_of_isCIDR`), and `isValidCIDR_exact_iff` says
which of the others are not.
-/
import ZtPlanet.Lib.Fields
import ZtPlanet.Ztnet.AddressText

namespace ZtPlanet.Ztnet

open ZtPlanet.Lib ZtPlanet.Python ZtPlanet.Python.IpAddress ZtPlanet.Js

/-! ## 1. CIDR notation -/

/-- The text is an IPv4 address. -/
def IsIPv4 (ip : PyStr) : Prop := (ipv4FromString ip).isSome = true

/-- The text is an IPv6 address. -/
def IsIPv6 (ip : PyStr) : Prop := (ipv6FromString ip).isSome = true

/-- The package accepts exactly the addresses, of what has no slash. -/
structure AddressPackage.Exact (package : AddressPackage) : Prop where
  isValid4 : ∀ ip, ch '/' ∉ ip → (package.isValid4 ip = true ↔ IsIPv4 ip)
  isValid6 : ∀ ip, ch '/' ∉ ip → (package.isValid6 ip = true ↔ IsIPv6 ip)

/-- A prefix has the length `n` at most where `ip` is an address of so many bits. -/
def IsPrefixLength (ip : PyStr) (n : Int) : Prop :=
  0 ≤ n ∧ (IsIPv4 ip ∧ n ≤ 32 ∨ IsIPv6 ip ∧ n ≤ 128)

/-- A text of decimal digits. -/
def IsDecimal (s : PyStr) : Prop := s ≠ [] ∧ ∀ c ∈ s, isAsciiDigit c = true

/-- **CIDR notation**: an address, one slash, and the length of a prefix in decimal digits. -/
def IsCIDR (cidr : PyStr) : Prop :=
  ∃ ip length, cidr = ip ++ ch '/' :: length ∧ ch '/' ∉ ip ∧ IsDecimal length ∧
    IsPrefixLength ip (ofDigits 10 length)

/-! ## 2. What `isValidCIDR` reads -/

variable {package : AddressPackage} {ip rest : PyStr}

theorem not_isIPv6_of_isIPv4 (h : IsIPv4 ip) : ¬IsIPv6 ip := by
  intro h6
  obtain ⟨n, hn⟩ := Option.isSome_iff_exists.mp h
  obtain ⟨m, hm⟩ := Option.isSome_iff_exists.mp h6
  exact absurd (colon_mem_of_ipv6FromString hm) (colon_notMem_of_ipv4FromString hn)

/-- The text between the first slash and the next one. -/
def upToSlash (rest : PyStr) : PyStr := rest.takeWhile (· ≠ ch '/')

theorem splitCidr_cons (hip : ch '/' ∉ ip) (rest : PyStr) :
    splitCidr (ip ++ ch '/' :: rest) = (ip, upToSlash rest) := by
  have hhead : (rest.splitOn (ch '/')).head? = some (upToSlash rest) := head?_splitOn rest
  unfold splitCidr split
  rw [List.splitOn_append_cons_self, List.splitOn_eq_singleton hip]
  cases hrest : rest.splitOn (ch '/') with
  | nil => exact absurd hrest (List.splitOn_ne_nil _ _)
  | cons first more =>
    rw [hrest, List.head?_cons, Option.some.injEq] at hhead
    simp [hhead]

/-- A text without a slash has no prefix. -/
theorem splitCidr_of_notMem {cidr : PyStr} (h : ch '/' ∉ cidr) :
    splitCidr cidr = (cidr, py "undefined") := by
  unfold splitCidr split
  rw [List.splitOn_eq_singleton h]
  rfl

/-- **What `isValidCIDR` accepts**: a number that may be the length of a prefix, and anything behind
it. -/
theorem isValidCIDR_iff (h : package.Exact) (hip : ch '/' ∉ ip) (rest : PyStr) :
    isValidCIDR package (ip ++ ch '/' :: rest) = true ↔
      ∃ n, parseInt (upToSlash rest) none = some n ∧ IsPrefixLength ip n := by
  have hbounds : ∀ bound : Int, (Js.Num.ge (parseInt (upToSlash rest) none) (some 0) &&
      Js.Num.le (parseInt (upToSlash rest) none) (some bound)) = true ↔
      ∃ n, parseInt (upToSlash rest) none = some n ∧ 0 ≤ n ∧ n ≤ bound := by
    intro bound
    cases parseInt (upToSlash rest) none with
    | none => simp [Js.Num.ge]
    | some n => simp [Js.Num.ge, Js.Num.le]
  unfold isValidCIDR IsPrefixLength
  rw [splitCidr_cons hip]
  dsimp only
  by_cases h4 : IsIPv4 ip
  · rw [if_pos ((h.isValid4 ip hip).mpr h4), hbounds]
    simp only [h4, true_and, not_isIPv6_of_isIPv4 h4, false_and, or_false]
  · rw [if_neg fun hvalid => h4 ((h.isValid4 ip hip).mp hvalid)]
    by_cases h6 : IsIPv6 ip
    · rw [if_pos ((h.isValid6 ip hip).mpr h6), hbounds]
      simp only [h4, h6, true_and, false_and, false_or]
    · rw [if_neg fun hvalid => h6 ((h.isValid6 ip hip).mp hvalid)]
      simp [h4, h6]

theorem isCIDR_iff (hip : ch '/' ∉ ip) :
    IsCIDR (ip ++ ch '/' :: rest) ↔ IsDecimal rest ∧ IsPrefixLength ip (ofDigits 10 rest) := by
  constructor
  · rintro ⟨ip', length, heq, hip', hdecimal, hlength⟩
    have hparts := (partition_append hip rest).symm.trans
      ((congrArg (partition · (ch '/')) heq).trans (partition_append hip' length))
    obtain ⟨rfl, hrest⟩ := Prod.mk.inj hparts
    obtain rfl := Option.some.inj hrest
    exact ⟨hdecimal, hlength⟩
  · rintro ⟨hdecimal, hlength⟩
    exact ⟨ip, rest, rfl, hip, hdecimal, hlength⟩

/-- A decimal number is read to its end. -/
theorem IsDecimal.parseInt (h : IsDecimal rest) :
    upToSlash rest = rest ∧ parseInt rest none = some (ofDigits 10 rest : Int) := by
  refine ⟨List.takeWhile_eq_self_iff.mpr fun c hc => ?_, parseInt_digits h.1 h.2 (.inl rfl)⟩
  rw [decide_eq_true_eq]
  rintro rfl
  exact absurd (h.2 _ hc) (by decide)

/-- No target in CIDR notation is refused. -/
theorem isValidCIDR_of_isCIDR {cidr : PyStr} (h : package.Exact) (hcidr : IsCIDR cidr) :
    isValidCIDR package cidr = true := by
  obtain ⟨ip, length, rfl, hip, hdecimal, hlength⟩ := hcidr
  obtain ⟨hall, hparse⟩ := hdecimal.parseInt
  exact (isValidCIDR_iff h hip length).mpr ⟨_, hall.symm ▸ hparse, hlength⟩

/-! ## 3. Exactness -/

/-- Where `parseInt` reads the length of a prefix behind the first slash, nothing else stands there.
-/
def PlainLength (cidr : PyStr) : Prop :=
  ∀ ip rest n, cidr = ip ++ ch '/' :: rest → ch '/' ∉ ip →
    parseInt (upToSlash rest) none = some n → IsPrefixLength ip n → IsDecimal rest

/-- **When `isValidCIDR` is exact.** -/
theorem isValidCIDR_exact_iff (package : AddressPackage) (h : package.Exact) (cidr : PyStr) :
    (isValidCIDR package cidr = true ↔ IsCIDR cidr) ↔ PlainLength cidr := by
  constructor
  · rintro hexact ip rest n rfl hip hn hlength
    have hcidr := hexact.mp ((isValidCIDR_iff h hip rest).mpr ⟨n, hn, hlength⟩)
    exact ((isCIDR_iff hip).mp hcidr).1
  · intro hplain
    refine ⟨fun hvalid => ?_, isValidCIDR_of_isCIDR h⟩
    by_cases hslash : ch '/' ∈ cidr
    · obtain ⟨ip, rest, rfl, hip⟩ := List.eq_append_cons_of_mem hslash
      obtain ⟨n, hn, hlength⟩ := (isValidCIDR_iff h hip rest).mp hvalid
      have hdecimal := hplain ip rest n rfl hip hn hlength
      obtain ⟨hall, hparse⟩ := hdecimal.parseInt
      rw [hall, hparse] at hn
      obtain rfl := Option.some.inj hn
      exact (isCIDR_iff hip).mpr ⟨hdecimal, hlength⟩
    · -- without a slash there is no number to read
      unfold isValidCIDR at hvalid
      rw [splitCidr_of_notMem hslash] at hvalid
      have hnan : parseInt (py "undefined") none = none := by decide
      simp [hnan, Js.Num.ge] at hvalid

/-! ## 4. Examples -/

/-- A package that accepts what `ipaddress` reads. -/
def AddressPackage.strict : AddressPackage where
  isValid4 := fun ip => (ipv4FromString ip).isSome
  isValid6 := fun ip => (ipv6FromString ip).isSome
  number6 := fun ip => (ipv6FromString ip).getD 0

theorem AddressPackage.strict_exact : AddressPackage.strict.Exact where
  isValid4 _ _ := Iff.rfl
  isValid6 _ _ := Iff.rfl

theorem isValidCIDR_exact_iff_example :
    (isValidCIDR .strict (py "fd00::/8") = true ↔ IsCIDR (py "fd00::/8")) ↔
      PlainLength (py "fd00::/8") :=
  isValidCIDR_exact_iff .strict AddressPackage.strict_exact (py "fd00::/8")

theorem not_isCIDR_of_digits (hip : ch '/' ∉ ip) (hdigits : rest.all isAsciiDigit = false) :
    ¬IsCIDR (ip ++ ch '/' :: rest) := by
  intro hcidr
  have hdecimal := ((isCIDR_iff hip).mp hcidr).1
  rw [List.all_eq_true.mpr hdecimal.2] at hdigits
  cases hdigits

/-- **Accepted, and no CIDR notation**: text behind the length, a sign, hexadecimal digits, a second
slash. -/
theorem accepted_not_cidr :
    (isValidCIDR .strict (py "10.0.0.0" ++ ch '/' :: py "8 and more") = true ∧
      ¬IsCIDR (py "10.0.0.0" ++ ch '/' :: py "8 and more")) ∧
    (isValidCIDR .strict (py "10.0.0.0" ++ ch '/' :: py "+8") = true ∧
      ¬IsCIDR (py "10.0.0.0" ++ ch '/' :: py "+8")) ∧
    (isValidCIDR .strict (py "10.0.0.0" ++ ch '/' :: py "0x8") = true ∧
      ¬IsCIDR (py "10.0.0.0" ++ ch '/' :: py "0x8")) ∧
    (isValidCIDR .strict (py "fd00::" ++ ch '/' :: py "8/9") = true ∧
      ¬IsCIDR (py "fd00::" ++ ch '/' :: py "8/9")) := by
  refine ⟨⟨by decide +kernel, ?_⟩, ⟨by decide +kernel, ?_⟩,
    ⟨by decide +kernel, ?_⟩, by decide +kernel, ?_⟩
  · exact not_isCIDR_of_digits (by decide) (by decide)
  · exact not_isCIDR_of_digits (by decide) (by decide)
  · exact not_isCIDR_of_digits (by decide) (by decide)
  · exact not_isCIDR_of_digits (by decide) (by decide)

end ZtPlanet.Ztnet
