/-
# The relay's readers on the agent's texts

The agent writes numbers with Python's `str` and networks with `ipaddress`; the relay reads them
with the parsers of Rust's library.  The two libraries have the same octets and the same dotted
addresses (`parseOctet_eq`, `parseIpv4Addr_eq`), and a decimal number is read as itself by every
type that it fits.

`rustText` is the Rust string of an encodable text.
-/
import ZtPlanet.Python.NetworkCover
import ZtPlanet.Relay.Settings

namespace ZtPlanet.Relay

open ZtPlanet.Python

/-! ## 1. Characters -/

/-- The string with the given code points. -/
def rustText (s : PyStr) : List Char := s.map fun c => Char.ofNat c.val

theorem ofChar_val (c : Char) : (ofChar c).val = c.toNat :=
  Nat.mod_eq_of_lt (by
    have := c.valid
    unfold UInt32.isValidChar Nat.isValidChar at this
    unfold Char.toNat
    omega)

theorem char_ofNat_ofChar (c : Char) : Char.ofNat (ofChar c).val = c := by
  rw [ofChar_val, Char.ofNat_toNat]

/-- The string of a text that was written with characters. -/
@[simp] theorem rustText_map (t : List Char) : rustText (t.map ofChar) = t := by
  unfold rustText
  rw [List.map_map]
  exact (List.map_congr_left fun c _ => char_ofNat_ofChar c).trans (List.map_id t)

/-- Texts without surrogates are not changed. -/
theorem map_rustText {s : PyStr} (h : ∀ c ∈ s, c.val < 0xd800) : (rustText s).map ofChar = s := by
  unfold rustText
  rw [List.map_map]
  refine (List.map_congr_left fun c hc => ?_).trans (List.map_id s)
  refine Fin.ext ?_
  rw [Function.comp_apply, ofChar_val]
  unfold Char.ofNat
  rw [dif_pos (.inl (h c hc))]
  rfl

theorem map_rustText_ipv4Text (ip : BitVec 32) :
    (rustText (IpAddress.ipv4Text ip)).map ofChar = IpAddress.ipv4Text ip := by
  refine map_rustText fun c hc => ?_
  rcases IpAddress.mem_ipv4Text hc with h | rfl
  · have := (digitValue_of_isAsciiDigit h).2
    omega
  · decide

theorem rustText_append (s t : PyStr) : rustText (s ++ t) = rustText s ++ rustText t :=
  List.map_append

theorem rustText_py (s : String) : rustText (py s) = s.toList := by
  rw [py_eq_map, rustText_map]

theorem rustText_join (sep : String) (parts : List PyStr) :
    rustText (join (py sep) parts) = sep.toList.intercalate (parts.map rustText) := by
  unfold join
  rw [← rustText_py sep]
  exact map_intercalate _ _ _

theorem isDigit_iff (c : Char) : c.isDigit = isAsciiDigit (ofChar c) := by
  unfold isAsciiDigit Char.isDigit
  rw [ofChar_val, Bool.eq_iff_iff]
  simp only [Bool.and_eq_true, decide_eq_true_eq, ge_iff_le, UInt32.le_iff_toNat_le]
  exact Iff.rfl

theorem digitValue_ofChar {c : Char} (h : c.isDigit = true) :
    digitValue (ofChar c) = c.toNat - '0'.toNat := by
  rw [isDigit_iff] at h
  obtain ⟨hvalue, -, -⟩ := digitValue_of_isAsciiDigit h
  rw [hvalue, ofChar_val]
  rfl

/-! ## 2. Numbers -/

theorem foldl_digits_ofChar {t : List Char} (h : ∀ c ∈ t, c.isDigit = true) (n : Nat) :
    (t.map ofChar).foldl (fun n c => 10 * n + digitValue c) n =
      t.foldl (fun n c => 10 * n + (c.toNat - '0'.toNat)) n := by
  induction t generalizing n with
  | nil => rfl
  | cons c t ih =>
    rw [List.map_cons, List.foldl_cons, List.foldl_cons, digitValue_ofChar (h c (by simp))]
    exact ih (fun d hd => h d (by simp [hd])) _

/-- Both languages read a run of digits as the same number. -/
theorem digitsValue_eq {t : List Char} (h : ∀ c ∈ t, c.isDigit = true) :
    digitsValue t = ofDigits 10 (t.map ofChar) :=
  (foldl_digits_ofChar h 0).symm

theorem le_foldl_digits (t : List Char) (n : Nat) :
    n ≤ t.foldl (fun n c => 10 * n + (c.toNat - '0'.toNat)) n := by
  induction t generalizing n with
  | nil => exact le_refl n
  | cons c t ih =>
    have hstep : n ≤ 10 * n + (c.toNat - '0'.toNat) := by omega
    exact le_trans hstep (ih _)

/-- Digits whose value fits are read: no prefix of them overflows either. -/
theorem parseDigits_eq_ok {max : Nat} {t : List Char} (h : ∀ c ∈ t, c.isDigit = true) {n : Nat}
    (hmax : t.foldl (fun n c => 10 * n + (c.toNat - '0'.toNat)) n ≤ max) :
    parseDigits max t n = .ok (t.foldl (fun n c => 10 * n + (c.toNat - '0'.toNat)) n) := by
  induction t generalizing n with
  | nil => rfl
  | cons c t ih =>
    have hdigit := h c (by simp)
    have hstep : 10 * n + (c.toNat - '0'.toNat) ≤ max := le_trans (le_foldl_digits t _) hmax
    unfold parseDigits
    rw [if_neg (by simp [hdigit]), if_neg (not_lt.mpr hstep)]
    exact ih (fun d hd => h d (by simp [hd])) hmax

theorem isDigit_of_mem_toDigits {n : Nat} {c : Char} (h : c ∈ Nat.toDigits 10 n) :
    c.isDigit = true := by
  rw [isDigit_iff]
  exact isAsciiDigit_of_mem_decimal (List.mem_map_of_mem h)

theorem digitsValue_toDigits (n : Nat) : digitsValue (Nat.toDigits 10 n) = n := by
  rw [digitsValue_eq fun c hc => isDigit_of_mem_toDigits hc]
  exact ofDigits_decimal n

/-- **A decimal number is read as itself by every type that it fits.** -/
theorem parseUnsigned_toDigits {max n : Nat} (h : n ≤ max) :
    parseUnsigned max (Nat.toDigits 10 n) = .ok n := by
  have hdigits : ∀ c ∈ Nat.toDigits 10 n, c.isDigit = true := fun c hc =>
    isDigit_of_mem_toDigits hc
  have hparse : parseDigits max (Nat.toDigits 10 n) 0 = .ok n := by
    rw [parseDigits_eq_ok hdigits]
    · exact congrArg _ (digitsValue_toDigits n)
    · rw [show List.foldl _ 0 (Nat.toDigits 10 n) = n from digitsValue_toDigits n]
      exact h
  have hplus : '+' ∉ Nat.toDigits 10 n := fun hmem => absurd (hdigits '+' hmem) (by decide)
  unfold parseUnsigned
  split
  · rename_i hnil
    exact absurd hnil Nat.toDigits_ne_nil
  · rename_i heq
    exact absurd (heq ▸ List.mem_cons_self) hplus
  · rename_i heq
    exact absurd (heq ▸ List.mem_cons_self) hplus
  · exact hparse

/-- A prefix length is a `u8`. -/
theorem parseU8_toDigits {n : Nat} (h : n ≤ 255) : parseU8 (Nat.toDigits 10 n) = some n := by
  have hdigits : (Nat.toDigits 10 n).all Char.isDigit = true :=
    List.all_eq_true.mpr fun c hc => isDigit_of_mem_toDigits hc
  have hne : 0 < (Nat.toDigits 10 n).length := List.length_pos_of_ne_nil Nat.toDigits_ne_nil
  have hplus : (Nat.toDigits 10 n).head? ≠ some '+' := by
    intro hhead
    have hmem := isDigit_of_mem_toDigits (List.mem_of_mem_head? hhead)
    revert hmem
    decide
  unfold parseU8
  dsimp only
  rw [if_neg hplus, digitsValue_toDigits]
  exact if_pos ⟨hdigits, hne, h⟩

/-! ## 3. Addresses -/

theorem splitOn_map {α β : Type} [DecidableEq α] [DecidableEq β] {f : α → β}
    (hf : Function.Injective f) (a : α) (l : List α) :
    (l.map f).splitOn (f a) = (l.splitOn a).map (List.map f) := by
  induction l with
  | nil => simp
  | cons x l ih =>
    rw [List.map_cons, List.splitOn_cons_eq_if_modifyHead, List.splitOn_cons_eq_if_modifyHead, ih]
    by_cases hx : x = a
    · rw [if_pos (by simp [hx]), if_pos (by simp [hx])]
      rfl
    · have hfx : f x ≠ f a := fun h => hx (hf h)
      rw [if_neg (by simp [hfx]), if_neg (by simp [hx])]
      cases h : l.splitOn a with
      | nil => exact absurd h (List.splitOn_ne_nil a l)
      | cons p ps => rfl

/-- Both libraries read the same octets. -/
theorem parseOctet_eq (t : List Char) :
    parseOctet t = IpAddress.parseOctet (t.map ofChar) := by
  have hall : (t.map ofChar).all isAsciiDigit = t.all Char.isDigit := by
    rw [List.all_map]
    exact congrArg (fun p => t.all p) (funext fun c => (isDigit_iff c).symm)
  have hzero : (t.map ofChar ≠ py "0" ∧ (t.map ofChar).head? = some (ch '0')) ↔
      ¬(t.head? = some '0' → t.length = 1) := by
    have hpy : t.map ofChar = py "0" ↔ t = ['0'] :=
      ⟨fun h => List.map_injective_iff.mpr ofChar_injective h, fun h => by rw [h]; rfl⟩
    rw [ne_eq, hpy]
    cases t with
    | nil => simp
    | cons c t =>
      have hhead : ofChar c = ch '0' ↔ c = '0' := ofChar_injective.eq_iff
      simp only [List.map_cons, List.head?_cons, Option.some.injEq, hhead, List.length_cons,
        List.cons.injEq, not_and, Classical.not_imp]
      constructor
      · rintro ⟨hne, rfl⟩
        exact ⟨rfl, fun hlen => hne rfl (List.length_eq_zero_iff.mp (by omega))⟩
      · rintro ⟨rfl, hlen⟩
        exact ⟨fun _ hnil => hlen (by rw [hnil]; rfl), rfl⟩
  unfold parseOctet IpAddress.parseOctet
  rw [hall, List.length_map]
  cases hdigits : t.all Char.isDigit with
  | false => simp
  | true =>
    rw [← digitsValue_eq fun c hc => List.all_eq_true.mp hdigits c hc]
    by_cases hnil : t = []
    · simp [hnil]
    · have hpos : 0 < t.length := List.length_pos_of_ne_nil hnil
      have hmap : t.map ofChar ≠ [] := fun h => hnil (List.map_eq_nil_iff.mp h)
      rw [if_neg hmap, if_neg (show ¬true = false by decide)]
      by_cases hlen : t.length ≤ 3
      · rw [if_neg (not_lt.mpr hlen)]
        by_cases hlead : t.head? = some '0' → t.length = 1
        · rw [if_neg (fun h => hzero.mp h hlead)]
          by_cases hmax : digitsValue t ≤ 255
          · rw [if_pos ⟨rfl, hpos, hlen, hlead, hmax⟩, if_neg (not_lt.mpr hmax)]
          · rw [if_neg (fun h => hmax h.2.2.2.2), if_pos (not_le.mp hmax)]
        · rw [if_neg (fun h => hlead h.2.2.2.1), if_pos (hzero.mpr hlead)]
      · rw [if_neg (fun h => hlen h.2.2.1), if_pos (not_le.mp hlen)]

/-- **Both libraries read the same IPv4 addresses.** -/
theorem parseIpv4Addr_eq (t : List Char) :
    parseIpv4Addr t = (IpAddress.ipv4FromString (t.map ofChar)).map UInt32.ofBitVec := by
  have hsplit : (split (t.map ofChar) (ch '.')).map IpAddress.parseOctet =
      (t.splitOn '.').map parseOctet := by
    unfold split
    rw [splitOn_map ofChar_injective, List.map_map]
    exact List.map_congr_left fun part _ => (parseOctet_eq part).symm
  by_cases hfour : ∃ a b c d, (t.splitOn '.').map parseOctet = [some a, some b, some c, some d]
  · obtain ⟨a, b, c, d, hfour⟩ := hfour
    unfold parseIpv4Addr IpAddress.ipv4FromString
    rw [hsplit, hfour]
    rfl
  · have hleft : parseIpv4Addr t = none := by
      unfold parseIpv4Addr
      split
      · rename_i a b c d heq
        exact absurd ⟨a, b, c, d, heq⟩ hfour
      · rfl
    have hright : IpAddress.ipv4FromString (t.map ofChar) = none := by
      unfold IpAddress.ipv4FromString
      rw [hsplit]
      split
      · rename_i a b c d heq
        exact absurd ⟨a, b, c, d, heq⟩ hfour
      · rfl
    rw [hleft, hright]
    rfl

/-! ## 4. Networks -/

/-- The mask of a prefix length is the same number. -/
theorem prefixMask_eq : ∀ length < 33,
    (prefixMask length).toBitVec = IpAddress.netmask 32 length := by
  decide +kernel

/-- The network that the relay makes of an IPv4 network. -/
def cidrOf (ip : BitVec 32) (length : Nat) : Ipv4Cidr :=
  ⟨UInt32.ofBitVec ip, prefixMask length⟩

theorem slash_notMem_rustText (ip : BitVec 32) : '/' ∉ rustText (IpAddress.ipv4Text ip) := by
  intro hmem
  have hslash : ch '/' ∈ (rustText (IpAddress.ipv4Text ip)).map ofChar := List.mem_map_of_mem hmem
  rw [map_rustText_ipv4Text] at hslash
  rcases IpAddress.mem_ipv4Text hslash with h | h <;> revert h <;> decide

theorem rustText_network (ip : BitVec 32) (length : Nat) :
    rustText (IpNetwork.mk (.v4 ip) length).str =
      rustText (IpAddress.ipv4Text ip) ++ '/' :: Nat.toDigits 10 length := by
  unfold IpNetwork.str
  rw [rustText_append]
  exact congrArg (_ ++ ·) (rustText_map ('/' :: Nat.toDigits 10 length))

/-- The text of a network has neither white space nor a comma. -/
theorem mem_rustText_network {ip : BitVec 32} {length : Nat} {c : Char}
    (h : c ∈ rustText (IpNetwork.mk (.v4 ip) length).str) :
    c.isDigit = true ∨ c = '.' ∨ c = '/' := by
  rw [rustText_network, List.mem_append, List.mem_cons] at h
  rcases h with h | rfl | h
  · have hmem : ofChar c ∈ (rustText (IpAddress.ipv4Text ip)).map ofChar := List.mem_map_of_mem h
    rw [map_rustText_ipv4Text] at hmem
    rcases IpAddress.mem_ipv4Text hmem with h | h
    · exact .inl (by rw [isDigit_iff, h])
    · exact .inr (.inl (ofChar_injective h))
  · exact .inr (.inr rfl)
  · exact .inl (isDigit_of_mem_toDigits h)

/-- **The relay reads the text of an IPv4 network.** -/
theorem fromStr_network {ip : BitVec 32} {length : Nat}
    (hn : (IpNetwork.mk (.v4 ip) length).WellFormed) :
    Ipv4Cidr.fromStr (String.ofList (rustText (IpNetwork.mk (.v4 ip) length).str)) =
      .ok (cidrOf ip length) := by
  have hlength : length ≤ 32 := hn.masked.1
  have hmasked : ip &&& IpAddress.netmask 32 length = ip := hn.masked.2
  have hnot : ∀ c ∈ rustText (IpAddress.ipv4Text ip), decide (c ≠ '/') = true := by
    intro c hc
    rw [decide_eq_true_eq]
    rintro rfl
    exact slash_notMem_rustText ip hc
  have haddress : parseIpv4Addr (rustText (IpAddress.ipv4Text ip)) =
      some (UInt32.ofBitVec ip) := by
    rw [parseIpv4Addr_eq, map_rustText_ipv4Text, IpAddress.ipv4FromString_ipv4Text]
    rfl
  have hnetwork : UInt32.ofBitVec ip &&& prefixMask length = UInt32.ofBitVec ip := by
    rw [← UInt32.toBitVec_inj, UInt32.toBitVec_and, prefixMask_eq length (by omega)]
    exact hmasked
  unfold Ipv4Cidr.fromStr
  rw [String.toList_ofList, rustText_network]
  dsimp only
  rw [if_neg (not_not.mpr (by simp)), List.takeWhile_append_of_pos hnot,
    List.dropWhile_append_of_pos hnot, List.takeWhile_cons_of_neg (by simp),
    List.dropWhile_cons_of_neg (by simp), List.append_nil, List.tail_cons, haddress]
  dsimp only
  rw [parseU8_toDigits (by omega)]
  dsimp only
  rw [if_neg (by omega), hnetwork]
  rfl

/-- A network holds the same addresses in both. -/
theorem contains_cidrOf {ip : BitVec 32} {length : Nat} (hlength : length ≤ 32) (address : UInt32) :
    (cidrOf ip length).contains address = IpAddress.inNetwork address.toBitVec (ip, length) := by
  unfold cidrOf Ipv4Cidr.contains IpAddress.inNetwork
  rw [← prefixMask_eq length (by omega), Bool.eq_iff_iff, beq_iff_eq, beq_iff_eq]
  exact ⟨fun h => congrArg UInt32.toBitVec h, fun h => UInt32.toBitVec_inj.mp h⟩

end ZtPlanet.Relay
