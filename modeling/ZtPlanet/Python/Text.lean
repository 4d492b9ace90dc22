/-
# Python strings

A Python `str` is a sequence of code points, and unlike a Lean `String` it may hold lone
surrogates: `json.loads` produces them from escapes, and only an attempt to encode them fails.
`PyStr` is that type, together with the string methods that the agent uses and the two number
formats, `str(n)` and `'%x' % n`.

The last section says which characters those formats can produce; everything that is proved about
generated text later rests on it.
-/
import Mathlib.Algebra.GroupWithZero.Nat
import Mathlib.Data.List.Basic
import Mathlib.Data.List.TakeWhile
import Mathlib.Tactic.Common

namespace ZtPlanet.Python

/-! ## 1. Strings -/

/-- A code point, surrogates included. -/
abbrev CodePoint := Fin 0x110000

/-- `str`. -/
abbrev PyStr := List CodePoint

instance neZero_codePoints : NeZero 0x110000 := ⟨by decide⟩
instance : LawfulBEq CodePoint := inferInstance
instance : LawfulBEq PyStr := inferInstance

def ofChar (c : Char) : CodePoint := Fin.ofNat 0x110000 c.toNat

/-- The code points of a UTF-8 text.  `value` is what has been read of a character of several
bytes, of which `missing` are still to come. -/
def decodeUtf8 : (value missing : Nat) → List UInt8 → PyStr
  | _, _, [] => []
  | value, missing + 1, b :: bytes =>
    let value := value * 64 + b.toNat % 64
    if missing = 0 then Fin.ofNat 0x110000 value :: decodeUtf8 0 0 bytes
    else decodeUtf8 value missing bytes
  | _, 0, b :: bytes =>
    if b.toNat < 0x80 then Fin.ofNat 0x110000 b.toNat :: decodeUtf8 0 0 bytes
    else if b.toNat < 0xe0 then decodeUtf8 (b.toNat % 32) 1 bytes
    else if b.toNat < 0xf0 then decodeUtf8 (b.toNat % 16) 2 bytes
    else decodeUtf8 (b.toNat % 8) 3 bytes

/-- A string literal.  It is `s.toList`, as `py_eq_map` says; the bytes are read one by one because
`toList` takes quadratic time in the kernel. -/
def py (s : String) : PyStr := decodeUtf8 0 0 s.toByteArray.data.toList

/-- The character `c` as a code point. -/
abbrev ch (c : Char) : CodePoint := ofChar c

/-- `sep.join(parts)`. -/
def join (sep : PyStr) (parts : List PyStr) : PyStr := sep.intercalate parts

/-- `s.split(sep)` for a separator of one character. -/
def split (s : PyStr) (sep : CodePoint) : List PyStr := s.splitOn sep

/-- The part of `s` before the first `sep`, and the part behind it if `sep` occurs:
`s.partition(sep)`. -/
def partition (s : PyStr) (sep : CodePoint) : PyStr × Option PyStr :=
  match s.dropWhile (· ≠ sep) with
  | [] => (s, none)
  | _ :: rest => (s.takeWhile (· ≠ sep), some rest)

/-- The characters of `s` before the last `sep`, and those behind it; without a `sep` the first
part is `none`: `s.rpartition(sep)`. -/
def rpartition (s : PyStr) (sep : CodePoint) : Option PyStr × PyStr :=
  match s.reverse.dropWhile (· ≠ sep) with
  | [] => (none, s)
  | _ :: rest => (some rest.reverse, (s.reverse.takeWhile (· ≠ sep)).reverse)

/-- The characters at which `splitlines` breaks. -/
def isLineBreak (c : CodePoint) : Bool :=
  (0x0a ≤ c.val && c.val ≤ 0x0d) || (0x1c ≤ c.val && c.val ≤ 0x1e) || c.val == 0x85 ||
  c.val == 0x2028 || c.val == 0x2029

/-- `line` is what has been read of the current line, last character first. -/
def splitlinesFrom (line : PyStr) : PyStr → List PyStr
  | [] => if line = [] then [] else [line.reverse]
  | c :: cs =>
    if isLineBreak c then
      match c.val, cs with
      | 0x0d, d :: ds =>
        -- a carriage return and a line feed are one break
        if d.val = 0x0a then line.reverse :: splitlinesFrom [] ds
        else line.reverse :: splitlinesFrom [] (d :: ds)
      | _, cs => line.reverse :: splitlinesFrom [] cs
    else splitlinesFrom (c :: line) cs

/-- `s.splitlines()`. -/
def splitlines (s : PyStr) : List PyStr := splitlinesFrom [] s

/-- `s.rstrip(c)` for one character. -/
def rstrip (s : PyStr) (c : CodePoint) : PyStr := (s.reverse.dropWhile (· = c)).reverse

/-- The ASCII letters of `s.lower()`; what calls it has checked that all characters are ASCII. -/
def lower (s : PyStr) : PyStr :=
  s.map fun c => if 65 ≤ c.val ∧ c.val ≤ 90 then Fin.ofNat 0x110000 (c.val + 32) else c

theorem toNat_lt (c : Char) : c.toNat < 0x110000 := by
  have hvalid := c.valid
  simp only [UInt32.isValidChar, Nat.isValidChar] at hvalid
  change c.val.toNat < _
  omega

theorem ofChar_injective : Function.Injective ofChar := by
  intro c d h
  have hval : c.toNat % 0x110000 = d.toNat % 0x110000 := congrArg Fin.val h
  rw [Nat.mod_eq_of_lt (toNat_lt c), Nat.mod_eq_of_lt (toNat_lt d)] at hval
  exact Char.toNat_inj.mp hval

theorem decodeUtf8_lead (b : UInt8) (bytes : List UInt8) :
    decodeUtf8 0 0 (b :: bytes) =
      if b.toNat < 0x80 then Fin.ofNat 0x110000 b.toNat :: decodeUtf8 0 0 bytes
      else if b.toNat < 0xe0 then decodeUtf8 (b.toNat % 32) 1 bytes
      else if b.toNat < 0xf0 then decodeUtf8 (b.toNat % 16) 2 bytes
      else decodeUtf8 (b.toNat % 8) 3 bytes := rfl

theorem decodeUtf8_next (value missing : Nat) (b : UInt8) (bytes : List UInt8) :
    decodeUtf8 value (missing + 2) (b :: bytes) =
      decodeUtf8 (value * 64 + b.toNat % 64) (missing + 1) bytes := rfl

theorem decodeUtf8_last (value : Nat) (b : UInt8) (bytes : List UInt8) :
    decodeUtf8 value 1 (b :: bytes) =
      Fin.ofNat 0x110000 (value * 64 + b.toNat % 64) :: decodeUtf8 0 0 bytes := rfl

/-- A character is read back from its bytes. -/
theorem decodeUtf8_utf8EncodeChar (c : Char) (bytes : List UInt8) :
    decodeUtf8 0 0 (String.utf8EncodeChar c ++ bytes) = ofChar c :: decodeUtf8 0 0 bytes := by
  have hbyte {n : Nat} (h : n < 256) : (UInt8.ofNat n).toNat = n := Nat.mod_eq_of_lt h
  have hlt : c.val.toNat < 0x110000 := toNat_lt c
  change decodeUtf8 0 0 (String.utf8EncodeChar c ++ bytes) =
    Fin.ofNat 0x110000 c.val.toNat :: decodeUtf8 0 0 bytes
  unfold String.utf8EncodeChar
  generalize c.val.toNat = v at hlt ⊢
  dsimp only
  split_ifs with h1 h2 h3 <;> rw [List.cons_append, decodeUtf8_lead, hbyte (by omega)]
  · rw [if_pos (by omega)]
    rfl
  · rw [if_neg (by omega), if_pos (by omega), List.cons_append, decodeUtf8_last, hbyte (by omega)]
    congr 2
    omega
  · rw [if_neg (by omega), if_neg (by omega), if_pos (by omega), List.cons_append,
      decodeUtf8_next, hbyte (by omega), List.cons_append, decodeUtf8_last, hbyte (by omega)]
    congr 2
    omega
  · rw [if_neg (by omega), if_neg (by omega), if_neg (by omega), List.cons_append,
      decodeUtf8_next, hbyte (by omega), List.cons_append, decodeUtf8_next, hbyte (by omega),
      List.cons_append, decodeUtf8_last, hbyte (by omega)]
    congr 2
    omega

/-- A literal has the characters that it is written with. -/
theorem py_eq_map (s : String) : py s = s.toList.map ofChar := by
  have hbytes : s.toByteArray.data.toList = s.toList.flatMap String.utf8EncodeChar := by
    rw [← String.utf8Encode_toList, List.utf8Encode, List.toList_data_toByteArray]
  rw [py, hbytes]
  induction s.toList with
  | nil => rfl
  | cons c cs ih => rw [List.flatMap_cons, decodeUtf8_utf8EncodeChar, ih, List.map_cons]

/-- Different literals are different strings. -/
theorem py_injective : Function.Injective py := by
  intro s t h
  rw [py_eq_map, py_eq_map] at h
  exact String.toList_injective (List.map_injective_iff.mpr ofChar_injective h)

/-! ## 2. Character classes -/

def isAsciiDigit (c : CodePoint) : Bool := 48 ≤ c.val && c.val ≤ 57

def isAsciiLetter (c : CodePoint) : Bool :=
  (65 ≤ c.val && c.val ≤ 90) || (97 ≤ c.val && c.val ≤ 122)

def isAsciiAlnum (c : CodePoint) : Bool := isAsciiDigit c || isAsciiLetter c

/-- `c in '0123456789ABCDEFabcdef'`. -/
def isHexDigit (c : CodePoint) : Bool :=
  isAsciiDigit c || (65 ≤ c.val && c.val ≤ 70) || (97 ≤ c.val && c.val ≤ 102)

/-- `c.isspace()`. -/
def isSpace (c : CodePoint) : Bool :=
  (9 ≤ c.val && c.val ≤ 13) || (0x1c ≤ c.val && c.val ≤ 0x20) || c.val == 0x85 ||
  c.val == 0xa0 || c.val == 0x1680 || (0x2000 ≤ c.val && c.val ≤ 0x200a) || c.val == 0x2028 ||
  c.val == 0x2029 || c.val == 0x202f || c.val == 0x205f || c.val == 0x3000

/-! ## 3. Numbers -/

/-- `str(n)`. -/
def decimal (n : Nat) : PyStr := (Nat.toDigits 10 n).map ofChar

/-- `'%x' % n`. -/
def hexadecimal (n : Nat) : PyStr := (Nat.toDigits 16 n).map ofChar

/-- The value of a digit of a number in base 10 or 16. -/
def digitValue (c : CodePoint) : Nat :=
  if c.val ≤ 57 then c.val - 48 else if c.val ≤ 70 then c.val - 55 else c.val - 87

/-- `int(s, base)` for a string of digits. -/
def ofDigits (base : Nat) (s : PyStr) : Nat :=
  s.foldl (fun n c => base * n + digitValue c) 0

/-! ## 4. What the formats produce -/

theorem map_intercalate {α β : Type} (f : α → β) (sep : List α) (parts : List (List α)) :
    (sep.intercalate parts).map f = (sep.map f).intercalate (parts.map (List.map f)) := by
  induction parts with
  | nil => rfl
  | cons p ps ih =>
    cases ps with
    | nil => simp
    | cons q qs =>
      rw [List.intercalate_cons_cons, List.map_append, List.map_append, ih]
      simp [List.intercalate_cons_cons]

theorem mem_join {sep : PyStr} {parts : List PyStr} {c : CodePoint} (h : c ∈ join sep parts) :
    c ∈ sep ∨ ∃ p ∈ parts, c ∈ p := by
  unfold join at h
  induction parts with
  | nil => simp at h
  | cons p ps ih =>
    cases ps with
    | nil =>
      simp only [List.intercalate_singleton] at h
      exact .inr ⟨p, by simp, h⟩
    | cons q qs =>
      rw [List.intercalate_cons_cons, List.mem_append, List.mem_append] at h
      rcases h with (h | h) | h
      · exact .inr ⟨p, by simp, h⟩
      · exact .inl h
      · exact (ih h).imp_right fun ⟨x, hx, hc⟩ => ⟨x, List.mem_cons_of_mem _ hx, hc⟩

theorem mem_join_of_mem {sep p : PyStr} {parts : List PyStr} {c : CodePoint} (hp : p ∈ parts)
    (hc : c ∈ p) : c ∈ join sep parts := by
  unfold join
  induction parts with
  | nil => cases hp
  | cons q parts ih =>
    cases parts with
    | nil =>
      obtain rfl := List.mem_singleton.mp hp
      rwa [List.intercalate_singleton]
    | cons r parts =>
      rw [List.intercalate_cons_cons]
      rcases List.mem_cons.mp hp with rfl | hp
      · exact List.mem_append_left _ (List.mem_append_left _ hc)
      · exact List.mem_append_right _ (ih hp)

/-- What a part has, the text has. -/
theorem mem_of_mem_split {s p : PyStr} {sep c : CodePoint} (hp : p ∈ split s sep) (hc : c ∈ p) :
    c ∈ s := by
  have hjoin : join [sep] (split s sep) = s := List.intercalate_splitOn sep
  exact hjoin ▸ mem_join_of_mem hp hc

theorem isHexDigit_digitChar : ∀ d < 16, isHexDigit (ofChar (Nat.digitChar d)) = true := by
  decide

theorem isAsciiDigit_digitChar : ∀ d < 10, isAsciiDigit (ofChar (Nat.digitChar d)) = true := by
  decide

/-- A property of the digits of a base holds of every character of a number. -/
theorem forall_mem_toDigits {P : Char → Prop} {b : Nat} (hb : 1 < b)
    (h : ∀ d < b, P (Nat.digitChar d)) (n : Nat) : ∀ c ∈ Nat.toDigits b n, P c := by
  induction n using Nat.strongRecOn with
  | _ n ih =>
    intro c hc
    rw [Nat.toDigits_eq_if hb] at hc
    split at hc
    · rename_i hlt
      rw [List.mem_singleton.mp hc]
      exact h n hlt
    · rename_i hge
      rcases List.mem_append.mp hc with hc | hc
      · exact ih (n / b) (Nat.div_lt_self (by omega) hb) c hc
      · rw [List.mem_singleton.mp hc]
        exact h (n % b) (Nat.mod_lt _ (by omega))

theorem isAsciiDigit_of_mem_decimal {n : Nat} {c : CodePoint} (h : c ∈ decimal n) :
    isAsciiDigit c = true := by
  obtain ⟨d, hd, rfl⟩ := List.mem_map.mp h
  exact forall_mem_toDigits (P := fun c => isAsciiDigit (ofChar c) = true) (by decide)
    isAsciiDigit_digitChar n d hd

theorem isHexDigit_of_mem_hexadecimal {n : Nat} {c : CodePoint} (h : c ∈ hexadecimal n) :
    isHexDigit c = true := by
  obtain ⟨d, hd, rfl⟩ := List.mem_map.mp h
  exact forall_mem_toDigits (P := fun c => isHexDigit (ofChar c) = true) (by decide)
    isHexDigit_digitChar n d hd

/-- A text splits at its first separator. -/
theorem partition_append {s : PyStr} {sep : CodePoint} (h : sep ∉ s) (rest : PyStr) :
    partition (s ++ sep :: rest) sep = (s, some rest) := by
  have hne : ∀ c ∈ s, decide (c ≠ sep) = true := by
    intro c hc
    rw [decide_eq_true_eq]
    rintro rfl
    exact h hc
  unfold partition
  rw [List.dropWhile_append_of_pos hne, List.dropWhile_cons_of_neg (by simp),
    List.takeWhile_append_of_pos hne, List.takeWhile_cons_of_neg (by simp), List.append_nil]

theorem partition_of_notMem {s : PyStr} {sep : CodePoint} (h : sep ∉ s) :
    partition s sep = (s, none) := by
  have hnil : s.dropWhile (· ≠ sep) = [] := by
    rw [List.dropWhile_eq_nil_iff]
    intro c hc
    rw [decide_eq_true_eq]
    rintro rfl
    exact h hc
  unfold partition
  rw [hnil]

/-- The parts make the text again. -/
theorem eq_append_of_partition {s before rest : PyStr} {sep : CodePoint}
    (h : partition s sep = (before, some rest)) : s = before ++ sep :: rest := by
  unfold partition at h
  split at h
  · cases h
  · next c rest' hdrop =>
    cases h
    have hc : c = sep := by
      have := List.head?_dropWhile_not (· ≠ sep) s
      rw [hdrop] at this
      simpa using this
    calc s = s.takeWhile (· ≠ sep) ++ s.dropWhile (· ≠ sep) :=
      (List.takeWhile_append_dropWhile).symm
      _ = s.takeWhile (· ≠ sep) ++ sep :: rest := by rw [hdrop, hc]

/-- What is behind the first separator is part of the text. -/
theorem mem_of_partition {s before rest : PyStr} {sep c : CodePoint}
    (h : partition s sep = (before, some rest)) (hc : c ∈ rest) : c ∈ s := by
  unfold partition at h
  split at h
  · cases h
  · rename_i hd
    cases h
    exact (List.dropWhile_sublist _).mem (hd ▸ List.mem_cons_of_mem _ hc)

/-! ## 5. Reading numbers back -/

theorem ofDigits_append_one (base : Nat) (s : PyStr) (c : CodePoint) :
    ofDigits base (s ++ [c]) = base * ofDigits base s + digitValue c := by
  simp [ofDigits]

theorem digitValue_digitChar : ∀ d < 16, digitValue (ofChar (Nat.digitChar d)) = d := by
  decide

/-- The digits of a number denote it. -/
theorem ofDigits_toDigits {b : Nat} (hb : 1 < b) (hb' : b ≤ 16) (n : Nat) :
    ofDigits b ((Nat.toDigits b n).map ofChar) = n := by
  induction n using Nat.strongRecOn with
  | _ n ih =>
    rw [Nat.toDigits_eq_if hb]
    split
    · rename_i hlt
      simp [ofDigits, digitValue_digitChar n (by omega)]
    · rename_i hge
      have hmod : n % b < b := Nat.mod_lt _ (by omega)
      rw [List.map_append, List.map_singleton, ofDigits_append_one,
        ih (n / b) (Nat.div_lt_self (by omega) hb), digitValue_digitChar _ (by omega)]
      exact Nat.div_add_mod n b

theorem ofDigits_hexadecimal (n : Nat) : ofDigits 16 (hexadecimal n) = n :=
  ofDigits_toDigits (by decide) (by decide) n

theorem hexadecimal_ne_nil (n : Nat) : hexadecimal n ≠ [] := by
  simp [hexadecimal, Nat.toDigits_ne_nil]

theorem length_hexadecimal_le {n : Nat} (h : n < 65536) : (hexadecimal n).length ≤ 4 := by
  rw [hexadecimal, List.length_map, Nat.length_toDigits_le_iff (by decide) (by decide)]
  exact h

end ZtPlanet.Python
