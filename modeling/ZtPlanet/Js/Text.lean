/-
# JavaScript strings

A string is the list of its UTF-16 code units.  `utf8` is `Buffer.from(text)` and `decimal` is
`Number.prototype.toString` of an integer below 1e21; `base64url` is `Buffer.toString("base64url")`.

An ASCII string has one byte for each unit in UTF-8 (`utf8_of_isAscii`), the same byte that a
Latin-1 writer puts there.  In other strings, too, a byte below 0x80 is an ASCII character: what
looks for one in the bytes finds it where it stands in the string (`splitOn_utf8`).
-/
import ZtPlanet.Python.Text

namespace ZtPlanet.Js

/-! ## 1. Strings and their encodings -/

abbrev JsString := List UInt16

/-- An ASCII literal. -/
def js (s : String) : JsString := s.toList.map fun c => UInt16.ofNat c.toNat

theorem js_append (s t : String) : js (s ++ t) = js s ++ js t := by simp [js]

def isHighSurrogate (u : UInt16) : Bool := 0xD800 ≤ u && u < 0xDC00

def isLowSurrogate (u : UInt16) : Bool := 0xDC00 ≤ u && u < 0xE000

/-- The UTF-8 bytes of a code point. -/
def encodeCodePoint (c : Nat) : List UInt8 :=
  if c < 0x80 then [UInt8.ofNat c]
  else if c < 0x800 then [UInt8.ofNat (0xC0 + c / 64), UInt8.ofNat (0x80 + c % 64)]
  else if c < 0x10000 then
    [UInt8.ofNat (0xE0 + c / 4096), UInt8.ofNat (0x80 + c / 64 % 64), UInt8.ofNat (0x80 + c % 64)]
  else
    [UInt8.ofNat (0xF0 + c / 262144), UInt8.ofNat (0x80 + c / 4096 % 64),
      UInt8.ofNat (0x80 + c / 64 % 64), UInt8.ofNat (0x80 + c % 64)]

/-- A unit on its own; a surrogate becomes U+FFFD. -/
def encodeUnit (u : UInt16) : List UInt8 :=
  if isHighSurrogate u || isLowSurrogate u then encodeCodePoint 0xFFFD
  else encodeCodePoint u.toNat

/-- `Buffer.from(text)`. -/
def utf8 : JsString → List UInt8
  | [] => []
  | [u] => encodeUnit u
  | u :: v :: rest =>
    if isHighSurrogate u && isLowSurrogate v then
      encodeCodePoint (0x10000 + (u.toNat - 0xD800) * 1024 + (v.toNat - 0xDC00)) ++ utf8 rest
    else encodeUnit u ++ utf8 (v :: rest)

/-- What a Latin-1 writer sends of a string. -/
def latin1Bytes (s : JsString) : List UInt8 := s.map UInt16.toUInt8

/-! ## 2. Characters -/

/-- White space and line terminators, by their code points; none of them is beyond a code unit. -/
def isWhiteSpace (c : Nat) : Bool :=
  (9 ≤ c && c ≤ 13) || c == 0x20 || c == 0xa0 || c == 0x1680 || (0x2000 ≤ c && c ≤ 0x200a) ||
    c == 0x2028 || c == 0x2029 || c == 0x202f || c == 0x205f || c == 0x3000 || c == 0xfeff

/-- White space, as `trim`, `Number` and `BigInt` see it. -/
def isSpaceUnit (u : UInt16) : Bool := isWhiteSpace u.toNat

def isDigitUnit (u : UInt16) : Bool := 48 ≤ u && u ≤ 57

/-- The value of a digit or a letter. -/
def unitValue (u : UInt16) : Nat :=
  if u ≤ 57 then u.toNat - 48 else if u ≤ 90 then u.toNat - 55 else u.toNat - 87

def isAlnumUnit (u : UInt16) : Bool := isDigitUnit u || (65 ≤ u && u ≤ 90) || (97 ≤ u && u ≤ 122)

/-- A digit of a radix up to 16. -/
def isDigitUnitOf (radix : Nat) (u : UInt16) : Bool := isAlnumUnit u && decide (unitValue u < radix)

/-- `s.padStart(length, c)`. -/
def padStart {α : Type} (s : List α) (length : Nat) (c : α) : List α :=
  List.replicate (length - s.length) c ++ s

/-! ## 3. ASCII -/

def IsAscii (s : JsString) : Prop := ∀ u ∈ s, u < 0x80

instance (s : JsString) : Decidable (IsAscii s) := List.decidableBAll _ s

theorem IsAscii.append {s t : JsString} (hs : IsAscii s) (ht : IsAscii t) : IsAscii (s ++ t) := by
  intro u hu
  rcases List.mem_append.mp hu with hu | hu
  · exact hs u hu
  · exact ht u hu

theorem not_surrogate_of_lt {u : UInt16} (h : u < 0x80) :
    isHighSurrogate u = false ∧ isLowSurrogate u = false := by
  rw [UInt16.lt_iff_toNat_lt] at h
  simp only [isHighSurrogate, isLowSurrogate, Bool.and_eq_false_iff, decide_eq_false_iff_not,
    UInt16.le_iff_toNat_le, UInt16.lt_iff_toNat_lt]
  simp at h ⊢
  omega

theorem encodeUnit_of_lt {u : UInt16} (h : u < 0x80) : encodeUnit u = [u.toUInt8] := by
  obtain ⟨hhigh, hlow⟩ := not_surrogate_of_lt h
  unfold encodeUnit encodeCodePoint
  rw [hhigh, hlow, if_neg (by decide), if_pos (by simpa [UInt16.lt_iff_toNat_lt] using h)]
  rfl

/-- **An ASCII string is its own encoding.** -/
theorem utf8_of_isAscii : ∀ {s : JsString}, IsAscii s → utf8 s = latin1Bytes s
  | [], _ => rfl
  | [u], h => encodeUnit_of_lt (h u List.mem_cons_self)
  | u :: v :: rest, h => by
    have hu := h u List.mem_cons_self
    have ih := utf8_of_isAscii (show IsAscii (v :: rest) from fun w hw =>
      h w (List.mem_cons_of_mem u hw))
    rw [utf8, (not_surrogate_of_lt hu).1, Bool.false_and, if_neg Bool.false_ne_true, ih,
      encodeUnit_of_lt hu]
    rfl

/-! ## 4. ASCII in other strings -/

/-- A unit below 0x80 stands for itself, whatever follows it. -/
theorem utf8_cons_of_lt {u : UInt16} (hu : u < 0x80) (s : JsString) :
    utf8 (u :: s) = u.toUInt8 :: utf8 s := by
  cases s with
  | nil => exact encodeUnit_of_lt hu
  | cons v s =>
    rw [utf8, (not_surrogate_of_lt hu).1, Bool.false_and, if_neg Bool.false_ne_true,
      encodeUnit_of_lt hu]
    rfl

/-- It ends what stands before it. -/
theorem utf8_append_cons {u : UInt16} (hu : u < 0x80) (t : JsString) :
    ∀ s : JsString, utf8 (s ++ u :: t) = utf8 s ++ u.toUInt8 :: utf8 t
  | [] => utf8_cons_of_lt hu t
  | [v] => by
    change (if isHighSurrogate v && isLowSurrogate u then _ else encodeUnit v ++ utf8 (u :: t)) = _
    rw [(not_surrogate_of_lt hu).2, Bool.and_false, if_neg Bool.false_ne_true, utf8_cons_of_lt hu]
    rfl
  | v :: w :: s => by
    have hpair := utf8_append_cons hu t s
    have hunit := utf8_append_cons hu t (w :: s)
    rw [List.cons_append] at hunit
    rw [List.cons_append, List.cons_append, utf8, utf8, hpair, hunit]
    split
    · rw [List.append_assoc]
    · rw [List.append_assoc]

/-- The bytes of a code point from 0x80 on are no ASCII. -/
theorem encodeCodePoint_of_le {c : Nat} (h : 0x80 ≤ c) (hc : c < 0x110000) :
    encodeCodePoint c ≠ [] ∧ ∀ b ∈ encodeCodePoint c, ¬b < 0x80 := by
  have hbyte : ∀ n, 0x80 ≤ n → n < 0x100 → ¬UInt8.ofNat n < 0x80 := by
    intro n hn hlt
    rw [UInt8.lt_iff_toNat_lt, UInt8.toNat_ofNat', Nat.mod_eq_of_lt hlt]
    exact Nat.not_lt.mpr hn
  unfold encodeCodePoint
  rw [if_neg (by omega)]
  split
  · refine ⟨List.cons_ne_nil _ _, ?_⟩
    simp only [List.forall_mem_cons, List.not_mem_nil, false_imp_iff, implies_true, and_true]
    exact ⟨hbyte _ (by omega) (by omega), hbyte _ (by omega) (by omega)⟩
  · split
    · refine ⟨List.cons_ne_nil _ _, ?_⟩
      simp only [List.forall_mem_cons, List.not_mem_nil, false_imp_iff, implies_true, and_true]
      exact ⟨hbyte _ (by omega) (by omega), hbyte _ (by omega) (by omega),
        hbyte _ (by omega) (by omega)⟩
    · refine ⟨List.cons_ne_nil _ _, ?_⟩
      simp only [List.forall_mem_cons, List.not_mem_nil, false_imp_iff, implies_true, and_true]
      exact ⟨hbyte _ (by omega) (by omega), hbyte _ (by omega) (by omega),
        hbyte _ (by omega) (by omega), hbyte _ (by omega) (by omega)⟩

theorem encodeUnit_of_not_lt {u : UInt16} (hu : ¬u < 0x80) :
    encodeUnit u ≠ [] ∧ ∀ b ∈ encodeUnit u, ¬b < 0x80 := by
  unfold encodeUnit
  split
  · exact encodeCodePoint_of_le (by decide) (by decide)
  · have hlt := u.toNat_lt
    exact encodeCodePoint_of_le (Nat.not_lt.mp fun h =>
      hu (UInt16.lt_iff_toNat_lt.mpr h)) (by omega)

theorem encodePair_of_surrogates {u v : UInt16}
    (h : (isHighSurrogate u && isLowSurrogate v) = true) :
    encodeCodePoint (0x10000 + (u.toNat - 0xD800) * 1024 + (v.toNat - 0xDC00)) ≠ [] ∧
      ∀ b ∈ encodeCodePoint (0x10000 + (u.toNat - 0xD800) * 1024 + (v.toNat - 0xDC00)),
        ¬b < 0x80 := by
  obtain ⟨hhigh, hlow⟩ := (Bool.and_eq_true _ _).mp h
  simp only [isHighSurrogate, isLowSurrogate, Bool.and_eq_true, decide_eq_true_eq,
    UInt16.lt_iff_toNat_lt, UInt16.le_iff_toNat_le] at hhigh hlow
  have hu : u.toNat < 0xDC00 := hhigh.2
  have hv : v.toNat < 0xE000 := hlow.2
  exact encodeCodePoint_of_le (by omega) (by omega)

/-- Where a unit is no ASCII, a byte is none. -/
theorem exists_mem_utf8 : ∀ {s : JsString} {u : UInt16}, u ∈ s → ¬u < 0x80 → ∃ b ∈ utf8 s, ¬b < 0x80
  | [v], u, hmem, hu => by
    obtain rfl := List.mem_singleton.mp hmem
    obtain ⟨hne, hbytes⟩ := encodeUnit_of_not_lt hu
    obtain ⟨b, hb⟩ := List.exists_mem_of_ne_nil _ hne
    exact ⟨b, hb, hbytes b hb⟩
  | v :: w :: s, u, hmem, hu => by
    by_cases hpair : (isHighSurrogate v && isLowSurrogate w) = true
    · obtain ⟨hne, hbytes⟩ := encodePair_of_surrogates hpair
      obtain ⟨b, hb⟩ := List.exists_mem_of_ne_nil _ hne
      refine ⟨b, ?_, hbytes b hb⟩
      rw [utf8, if_pos hpair]
      exact List.mem_append_left _ hb
    · rw [utf8, if_neg hpair]
      rcases List.mem_cons.mp hmem with rfl | hmem
      · obtain ⟨hne, hbytes⟩ := encodeUnit_of_not_lt hu
        obtain ⟨b, hb⟩ := List.exists_mem_of_ne_nil _ hne
        exact ⟨b, List.mem_append_left _ hb, hbytes b hb⟩
      · obtain ⟨b, hb, hhigh⟩ := exists_mem_utf8 hmem hu
        exact ⟨b, List.mem_append_right _ hb, hhigh⟩

theorem isAscii_of_utf8 {s : JsString} (h : ∀ b ∈ utf8 s, b < 0x80) : IsAscii s := by
  intro u hu
  by_contra hnot
  obtain ⟨b, hb, hhigh⟩ := exists_mem_utf8 hu hnot
  exact hhigh (h b hb)

/-- **A property of ASCII characters** holds of the bytes of a string if and only if the string is
ASCII and has it. -/
theorem forall_mem_utf8_iff {P : UInt8 → Prop} (hP : ∀ b, P b → b < 0x80) {s : JsString} :
    (∀ b ∈ utf8 s, P b) ↔ IsAscii s ∧ ∀ u ∈ s, P u.toUInt8 := by
  constructor
  · intro h
    have hascii := isAscii_of_utf8 fun b hb => hP b (h b hb)
    rw [utf8_of_isAscii hascii] at h
    exact ⟨hascii, fun u hu => h _ (List.mem_map_of_mem hu)⟩
  · rintro ⟨hascii, h⟩ b hb
    rw [utf8_of_isAscii hascii] at hb
    obtain ⟨u, hu, rfl⟩ := List.mem_map.mp hb
    exact h u hu

theorem toUInt8_lt {u : UInt16} (hu : u < 0x80) : u.toUInt8 < 0x80 := by
  rw [UInt8.lt_iff_toNat_lt, UInt16.toNat_toUInt8]
  exact lt_of_le_of_lt (Nat.mod_le _ _) (UInt16.lt_iff_toNat_lt.mp hu)

theorem eq_of_toUInt8_eq {u v : UInt16} (hu : u < 0x80) (hv : v < 0x80)
    (h : u.toUInt8 = v.toUInt8) :
    u = v := by
  have hval := congrArg UInt8.toNat h
  have hu' : u.toNat < 128 := UInt16.lt_iff_toNat_lt.mp hu
  have hv' : v.toNat < 128 := UInt16.lt_iff_toNat_lt.mp hv
  rw [UInt16.toNat_toUInt8, UInt16.toNat_toUInt8, Nat.mod_eq_of_lt (by omega),
    Nat.mod_eq_of_lt (by omega)] at hval
  exact UInt16.toNat_inj.mp hval

/-- The unit that a byte below 0x80 stands for. -/
theorem mem_of_mem_encodeUnit {u v : UInt16} (hu : u < 0x80) (h : u.toUInt8 ∈ encodeUnit v) :
    u = v := by
  by_cases hv : v < 0x80
  · rw [encodeUnit_of_lt hv, List.mem_singleton] at h
    exact eq_of_toUInt8_eq hu hv h
  · exact absurd (toUInt8_lt hu) ((encodeUnit_of_not_lt hv).2 _ h)

theorem mem_of_mem_utf8 {u : UInt16} (hu : u < 0x80) :
    ∀ {s : JsString}, u.toUInt8 ∈ utf8 s → u ∈ s
  | [v], h => List.mem_singleton.mpr (mem_of_mem_encodeUnit hu h)
  | v :: w :: s, h => by
    by_cases hpair : (isHighSurrogate v && isLowSurrogate w) = true
    · rw [utf8, if_pos hpair] at h
      rcases List.mem_append.mp h with h | h
      · exact absurd (toUInt8_lt hu) ((encodePair_of_surrogates hpair).2 _ h)
      · exact List.mem_cons_of_mem _ (List.mem_cons_of_mem _ (mem_of_mem_utf8 hu h))
    · rw [utf8, if_neg hpair] at h
      rcases List.mem_append.mp h with h | h
      · exact List.mem_cons.mpr (.inl (mem_of_mem_encodeUnit hu h))
      · exact List.mem_cons_of_mem _ (mem_of_mem_utf8 hu h)

/-- **Splitting at an ASCII character** commutes with the encoding. -/
theorem splitOn_utf8 {sep : UInt16} (hsep : sep < 0x80) (s : JsString) :
    (utf8 s).splitOn sep.toUInt8 = (s.splitOn sep).map utf8 := by
  by_cases hmem : sep ∈ s
  · obtain ⟨before, behind, rfl⟩ := List.append_of_mem hmem
    rw [utf8_append_cons hsep, List.splitOn_append_cons_self, List.splitOn_append_cons_self,
      List.map_append, splitOn_utf8 hsep before, splitOn_utf8 hsep behind]
  · rw [List.splitOn_eq_singleton hmem,
      List.splitOn_eq_singleton fun h => hmem (mem_of_mem_utf8 hsep h)]
    rfl
termination_by s.length
decreasing_by
  · subst s
    simp only [List.length_append, List.length_cons]
    omega
  · subst s
    simp only [List.length_append, List.length_cons]
    omega

/-! ## 5. Numbers -/

/-- `n.toString()`. -/
def decimal (n : Int) : JsString :=
  let digits := (Nat.toDigits 10 n.natAbs).map fun c => UInt16.ofNat c.toNat
  if n < 0 then 45 :: digits else digits

/-! ## 6. Base64 -/

/-- A digit of the URL alphabet. -/
def base64Digit (n : Nat) : UInt16 :=
  if n < 26 then UInt16.ofNat (65 + n)
  else if n < 52 then UInt16.ofNat (97 + (n - 26))
  else if n < 62 then UInt16.ofNat (48 + (n - 52))
  else if n = 62 then 45
  else 95

/-- `Buffer.toString("base64url")`. -/
def base64url : List UInt8 → JsString
  | a :: b :: c :: rest =>
    base64Digit (a.toNat / 4) :: base64Digit (a.toNat % 4 * 16 + b.toNat / 16) ::
      base64Digit (b.toNat % 16 * 4 + c.toNat / 64) :: base64Digit (c.toNat % 64) :: base64url rest
  | [a, b] =>
    [base64Digit (a.toNat / 4), base64Digit (a.toNat % 4 * 16 + b.toNat / 16),
      base64Digit (b.toNat % 16 * 4)]
  | [a] => [base64Digit (a.toNat / 4), base64Digit (a.toNat % 4 * 16)]
  | [] => []

theorem length_base64url : ∀ bytes : List UInt8,
    (base64url bytes).length = (4 * bytes.length + 2) / 3
  | a :: b :: c :: rest => by
    simp only [base64url, List.length_cons, length_base64url rest]
    omega
  | [a, b] => by simp [base64url]
  | [a] => by simp [base64url]
  | [] => rfl

/-- What holds of the 64 digits holds of every unit of an encoding. -/
theorem forall_mem_base64url {P : UInt16 → Prop} (h : ∀ n < 64, P (base64Digit n)) :
    ∀ bytes : List UInt8, ∀ u ∈ base64url bytes, P u
  | a :: b :: c :: rest, u, hu => by
    have ha := a.toNat_lt
    have hb := b.toNat_lt
    have hc := c.toNat_lt
    simp only [base64url, List.mem_cons] at hu
    rcases hu with rfl | rfl | rfl | rfl | hu
    · exact h _ (by omega)
    · exact h _ (by omega)
    · exact h _ (by omega)
    · exact h _ (by omega)
    · exact forall_mem_base64url h rest u hu
  | [a, b], u, hu => by
    have ha := a.toNat_lt
    have hb := b.toNat_lt
    simp only [base64url, List.mem_cons, List.not_mem_nil, or_false] at hu
    rcases hu with rfl | rfl | rfl
    · exact h _ (by omega)
    · exact h _ (by omega)
    · exact h _ (by omega)
  | [a], u, hu => by
    have ha := a.toNat_lt
    simp only [base64url, List.mem_cons, List.not_mem_nil, or_false] at hu
    rcases hu with rfl | rfl
    · exact h _ (by omega)
    · exact h _ (by omega)
  | [], u, hu => by cases hu

end ZtPlanet.Js
