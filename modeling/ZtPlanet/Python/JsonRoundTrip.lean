/-
# What is written is read back

`loads` inverts `dumps` on values without floats (`loads_dumps`).  A text of the writer is one line
to every reader that breaks at control characters only, and the characters beyond ASCII in it are
those of the value's own strings, which the writer copies (`written_of_mem_dumps`,
`mem_dumps_of_mem`).

The reader is followed over a text of the writer with anything behind it that can stand behind a
value, so that one statement for each kind of value serves inside arrays and objects too.
-/
import ZtPlanet.Python.JsonQuotes

namespace ZtPlanet.Python

open ZtPlanet.Lib

/-! ## 1. Strings -/

theorem ofNat_val (c : CodePoint) : Fin.ofNat 0x110000 c.val = c := Fin.ofNat_val_eq_self c

/-- A character that is written as `\u00XX`. -/
def isHexEscaped (c : CodePoint) : Bool :=
  (escapeLetters.find? fun e => e.1 = c).isNone && decide (c.val < 32)

theorem hexDigit_spec : ∀ d < 16, isHexDigit (hexDigit d) = true ∧ digitValue (hexDigit d) = d := by
  decide

/-- A digit of `\uXXXX` that is not the last. -/
theorem scanString_hex_succ {left value d : Nat} (hd : d < 16) (s : PyStr) :
    scanString (.hex (left + 1) value) (hexDigit d :: s) =
      scanString (.hex left (16 * value + d)) s := by
  obtain ⟨hhex, hvalue⟩ := hexDigit_spec d hd
  rw [scanString, if_neg (by simp [hhex]), hvalue]

theorem scanString_hex_zero {value d : Nat} (hd : d < 16) (s : PyStr) :
    scanString (.hex 0 value) (hexDigit d :: s) =
      pushChar (Fin.ofNat 0x110000 (16 * value + d), true) (scanString .plain s) := by
  obtain ⟨hhex, hvalue⟩ := hexDigit_spec d hd
  rw [scanString, if_neg (by simp [hhex]), hvalue]

theorem unescape_escapeLetters : ∀ e ∈ escapeLetters, e.2 ≠ ch 'u' ∧ unescape e.2 = some e.1 :=
  forall_mem_of_all (by decide)

/-- A character is read back from its escape. -/
theorem scanString_escapeChar (c : CodePoint) (s : PyStr) :
    scanString .plain (escapeChar c ++ s) =
      pushChar (c, isHexEscaped c) (scanString .plain s) := by
  have hslash : ch '\\' ≠ ch '"' := by decide
  unfold escapeChar isHexEscaped
  cases hfind : escapeLetters.find? fun e => e.1 = c with
  | some e =>
    have he : e.1 = c := by simpa using List.find?_some hfind
    obtain ⟨hu, hunescape⟩ := unescape_escapeLetters e (List.mem_of_find?_eq_some hfind)
    simp only [List.cons_append, List.nil_append, Option.isNone_some, Bool.false_and]
    rw [scanString, if_neg hslash, if_pos rfl, scanString, if_neg hu, hunescape, he]
  | none =>
    have hletters : ∀ e ∈ escapeLetters, e.1 ≠ c := by
      intro e he
      simpa using List.find?_eq_none.mp hfind e he
    have hquote : c ≠ ch '"' := (hletters (ch '"', ch '"') (by decide)).symm
    have hnotSlash : c ≠ ch '\\' := (hletters (ch '\\', ch '\\') (by decide)).symm
    by_cases hlow : c.val < 32
    · have hzero : ch '0' = hexDigit 0 := by decide
      have hescape : py "\\u00" = [ch '\\', ch 'u', ch '0', ch '0'] := by decide
      have hvalue : 16 * (16 * (16 * (16 * 0 + 0) + 0) + c.val / 16) + c.val % 16 = c.val := by
        omega
      simp only [hlow, if_true, hescape, List.cons_append, List.nil_append, Option.isNone_none,
        decide_true, Bool.and_self]
      rw [scanString, if_neg hslash, if_pos rfl, scanString, if_pos rfl, hzero,
        scanString_hex_succ (by decide), scanString_hex_succ (by decide),
        scanString_hex_succ (by omega), scanString_hex_zero (by omega), hvalue, ofNat_val]
    · simp only [hlow, if_false, List.cons_append, List.nil_append, decide_false, Bool.and_false]
      rw [scanString, if_neg hquote, if_neg hnotSlash, if_neg hlow]

/-- The characters of a string as the reader finds them. -/
def marked (s : PyStr) : List (CodePoint × Bool) := s.map fun c => (c, isHexEscaped c)

theorem scanString_quote (s rest : PyStr) :
    scanString .plain (s.flatMap escapeChar ++ ch '"' :: rest) = some (marked s, rest) := by
  induction s with
  | nil => exact if_pos rfl
  | cons c s ih =>
    rw [List.flatMap_cons, List.append_assoc, scanString_escapeChar, ih]
    rfl

/-- Escapes of control characters are no surrogates. -/
theorem joinSurrogates_eq_map : ∀ {cs : List (CodePoint × Bool)},
    (∀ c ∈ cs, c.2 = true → c.1.val < 32) → joinSurrogates cs = cs.map Prod.fst
  | [], _ => rfl
  | [c], _ => rfl
  | c :: d :: cs, h => by
    have ih := joinSurrogates_eq_map fun e he => h e (List.mem_cons_of_mem c he)
    have hlow : ¬ (c.2 = true ∧ d.2 = true ∧ 0xd800 ≤ c.1.val ∧ c.1.val ≤ 0xdbff ∧
        0xdc00 ≤ d.1.val ∧ d.1.val ≤ 0xdfff) := by
      rintro ⟨hc, -, hhigh, -⟩
      have hlow := h c (by simp) hc
      omega
    rw [joinSurrogates, if_neg hlow, ih]
    rfl

theorem joinSurrogates_marked (s : PyStr) : joinSurrogates (marked s) = s := by
  rw [joinSurrogates_eq_map, marked, List.map_map]
  · exact List.map_id _
  · rintro _ hc hmark
    obtain ⟨c, -, rfl⟩ := List.mem_map.mp hc
    simp only [isHexEscaped, Bool.and_eq_true, decide_eq_true_eq] at hmark
    exact hmark.2

/-! ## 2. Numbers -/

/-- The characters that can stand behind a value. -/
def closers : List CodePoint := [ch ',', ch ']', ch '\x7d']

def Closes (rest : PyStr) : Prop := ∀ c ∈ rest.head?, c ∈ closers

theorem closes_nil : Closes [] := nofun

theorem closes_cons {c : CodePoint} (h : c ∈ closers) (rest : PyStr) : Closes (c :: rest) := by
  intro d hd
  obtain rfl := Option.some.inj hd
  exact h

theorem Closes.head {c : CodePoint} {rest : PyStr} {p : CodePoint → Bool}
    (h : Closes (c :: rest)) (hp : closers.all p = true) : p c = true :=
  List.all_eq_true.mp hp c (h c rfl)

theorem spanDigits_append {digits rest : PyStr} (h : ∀ c ∈ digits, isAsciiDigit c = true)
    (hrest : Closes rest) : spanDigits (digits ++ rest) = (digits, rest) := by
  unfold spanDigits
  rw [List.takeWhile_append_of_pos h, List.dropWhile_append_of_pos h]
  cases rest with
  | nil => simp
  | cons c rest =>
    have hc : ¬ isAsciiDigit c = true := by
      simpa using hrest.head (p := fun c => !isAsciiDigit c) (by decide)
    rw [List.takeWhile_cons_of_neg hc, List.dropWhile_cons_of_neg hc, List.append_nil]

/-- No number begins with a zero but zero itself. -/
theorem eq_nil_of_decimal {n : Nat} {digits : PyStr} (h : decimal n = ch '0' :: digits) :
    digits = [] := by
  by_contra hne
  have hdigits : ∀ c ∈ ch '0' :: digits, isAsciiDigit c = true := by
    rw [← h]
    exact fun c hc => isAsciiDigit_of_mem_decimal hc
  have hvalue : ofDigits 10 digits = n := by
    have hzero := ofDigits_replicate_zero 10 1 digits
    rw [← ofDigits_decimal n, h]
    exact hzero.symm
  have hlt := ofDigits_lt fun c hc => hdigits c (List.mem_cons_of_mem _ hc)
  have hlength := length_decimal_le (List.length_pos_of_ne_nil hne) (hvalue ▸ hlt)
  rw [h, List.length_cons] at hlength
  omega

theorem scanInteger_decimal {rest : PyStr} (hrest : Closes rest) (n : Nat) :
    scanInteger (decimal n ++ rest) = some (decimal n, rest) := by
  unfold scanInteger
  rw [spanDigits_append (fun c hc => isAsciiDigit_of_mem_decimal hc) hrest]
  cases hdecimal : decimal n with
  | nil => exact absurd hdecimal (decimal_ne_nil n)
  | cons d digits =>
    dsimp only
    split
    next hd =>
      rw [hd] at hdecimal
      rw [eq_nil_of_decimal hdecimal]
      rfl
    next => rfl

theorem scanFraction_of_closes {rest : PyStr} (hrest : Closes rest) :
    scanFraction rest = ([], rest) := by
  cases rest with
  | nil => rfl
  | cons c rest =>
    have hpoint : c ≠ ch '.' := by
      simpa using hrest.head (p := fun c => c ≠ ch '.') (by decide)
    have hnone : expect (ch '.') (c :: rest) = none := expect_cons_of_ne hpoint rest
    unfold scanFraction
    rw [hnone]

theorem scanExponent_of_closes {rest : PyStr} (hrest : Closes rest) :
    scanExponent rest = ([], rest) := by
  cases rest with
  | nil => rfl
  | cons c rest =>
    have hletter : c ≠ ch 'e' ∧ c ≠ ch 'E' := by
      simpa using hrest.head (p := fun c => c ≠ ch 'e' ∧ c ≠ ch 'E') (by decide)
    exact if_pos hletter

variable {floatOf : PyStr → Option ℚ}

theorem scanNumber_intText {rest : PyStr} (hrest : Closes rest) {n : Int}
    (hn : (decimal n.natAbs).length ≤ maxStrDigits) :
    scanNumber floatOf (intText n ++ rest) = some (.int n, rest) := by
  have hread := scanInteger_decimal hrest n.natAbs
  unfold scanNumber intText
  by_cases hneg : n < 0
  · have hexpect : expect (ch '-') (ch '-' :: (decimal n.natAbs ++ rest)) =
        some (decimal n.natAbs ++ rest) := expect_cons _ _
    have hvalue : -(n.natAbs : Int) = n := by omega
    rw [if_pos hneg, List.cons_append, hexpect, Option.getD_some, hread]
    simp only [scanFraction_of_closes hrest, scanExponent_of_closes hrest, and_self, if_true,
      Option.isSome_some, ofDigits_decimal, hvalue]
    exact if_neg (by omega)
  · have hexpect : expect (ch '-') (decimal n.natAbs ++ rest) = none := by
      cases hdecimal : decimal n.natAbs with
      | nil => exact absurd hdecimal (decimal_ne_nil _)
      | cons d digits =>
        refine expect_cons_of_ne ?_ _
        rintro rfl
        have hdigit : isAsciiDigit (ch '-') = true :=
          isAsciiDigit_of_mem_decimal (n := n.natAbs) (by simp [hdecimal])
        cases hdigit
    have hvalue : (n.natAbs : Int) = n := by omega
    rw [if_neg hneg, hexpect, Option.getD_none, hread]
    simp only [scanFraction_of_closes hrest, scanExponent_of_closes hrest, and_self, if_true,
      Option.isSome_none, Bool.false_eq_true, if_false, ofDigits_decimal, hvalue]
    exact if_neg (by omega)

/-- Whether a text begins like a number. -/
def beginsNumber : PyStr → Bool
  | [] => false
  | [c] => isAsciiDigit c
  | c :: d :: _ => isAsciiDigit c || (decide (c = ch '-') && isAsciiDigit d)

/-- No literal begins like a number. -/
theorem scanLiteral_of_beginsNumber {s : PyStr} (h : beginsNumber s = true) :
    scanLiteral s = none := by
  have hliterals : ∀ l ∈ literals, 2 ≤ l.1.length ∧ beginsNumber l.1 = false := by decide
  unfold scanLiteral
  rw [Option.map_eq_none_iff, List.find?_eq_none]
  intro l hl hmatch
  obtain ⟨rest, rfl⟩ := List.isPrefixOf_iff_prefix.mp hmatch
  obtain ⟨hlength, hletters⟩ := hliterals l hl
  match hl' : l.1 with
  | [] => simp [hl'] at hlength
  | [_] => simp [hl'] at hlength
  | c :: d :: t =>
    rw [hl'] at h hletters
    exact absurd (hletters.symm.trans h) (by decide)

theorem beginsNumber_intText (n : Int) (rest : PyStr) :
    beginsNumber (intText n ++ rest) = true := by
  unfold intText
  cases hdecimal : decimal n.natAbs with
  | nil => exact absurd hdecimal (decimal_ne_nil _)
  | cons d digits =>
    have hd : isAsciiDigit d = true :=
      isAsciiDigit_of_mem_decimal (n := n.natAbs) (by simp [hdecimal])
    by_cases hneg : n < 0
    · simp [hneg, beginsNumber, hd]
    · cases digits <;> cases rest <;> simp [hneg, beginsNumber, hd]

theorem scanValue_of_beginsNumber {s : PyStr} (h : beginsNumber s = true) (n : Nat) :
    scanValue floatOf (n + 1) s = scanNumber floatOf s := by
  cases s with
  | nil => cases h
  | cons c s =>
    have hc : isAsciiDigit c = true ∨ c = ch '-' := by
      cases s with
      | nil => exact .inl h
      | cons d s =>
        simp only [beginsNumber, Bool.or_eq_true, Bool.and_eq_true, decide_eq_true_eq] at h
        exact h.imp_right And.left
    have hne (d : CodePoint) (hd : isAsciiDigit d = false) (hd' : d ≠ ch '-') : c ≠ d := by
      rintro rfl
      rcases hc with hc | hc
      · exact absurd (hd.symm.trans hc) (by decide)
      · exact hd' hc
    rw [scanValue, if_neg (hne _ (by decide) (by decide)), if_neg (hne _ (by decide) (by decide)),
      if_neg (hne _ (by decide) (by decide)), scanLiteral_of_beginsNumber h, Option.none_or]

/-! ## 3. Values -/

/-- A text that begins with an ASCII character, neither white space nor a closing bracket. -/
def Starts (s : PyStr) : Prop :=
  ∃ c t, s = c :: t ∧ isJsonSpace c = false ∧ c ≠ ch ']' ∧ c.val < 128

theorem Starts.append {s : PyStr} (h : Starts s) (rest : PyStr) : Starts (s ++ rest) := by
  obtain ⟨c, t, rfl, hc⟩ := h
  exact ⟨c, t ++ rest, rfl, hc⟩

theorem skipSpace_cons {c : CodePoint} (h : isJsonSpace c = false) (s : PyStr) :
    skipSpace (c :: s) = c :: s := List.dropWhile_cons_of_neg (by simp [h])

theorem Starts.skipSpace {s : PyStr} (h : Starts s) : skipSpace s = s := by
  obtain ⟨c, t, rfl, hc, -⟩ := h
  exact skipSpace_cons hc t

theorem Starts.expect {s : PyStr} (h : Starts s) : expect (ch ']') s = none := by
  obtain ⟨c, t, rfl, -, hc, -⟩ := h
  exact expect_cons_of_ne hc t

theorem isJsonSpace_of_isAsciiDigit {c : CodePoint} (h : isAsciiDigit c = true) :
    isJsonSpace c = false := by
  obtain ⟨-, hlow, -⟩ := digitValue_of_isAsciiDigit h
  have hne (d : CodePoint) (hd : d.val < 48) : c ≠ d := by
    rintro rfl
    omega
  simp only [isJsonSpace, Bool.or_eq_false_iff, decide_eq_false_iff_not]
  exact ⟨⟨⟨hne _ (by decide), hne _ (by decide)⟩, hne _ (by decide)⟩, hne _ (by decide)⟩

variable {floatText : Option ℚ → PyStr}

theorem starts_dumps {v : Json} (h : v.plain = true) : Starts (dumps floatText v) := by
  cases v with
  | null => exact ⟨ch 'n', _, rfl, by decide, by decide, by decide⟩
  | bool b =>
    cases b
    · exact ⟨ch 'f', _, rfl, by decide, by decide, by decide⟩
    · exact ⟨ch 't', _, rfl, by decide, by decide, by decide⟩
  | int n =>
    rw [dumps, intText]
    split
    · exact ⟨ch '-', _, rfl, by decide, by decide, by decide⟩
    · cases hdecimal : decimal n.natAbs with
      | nil => exact absurd hdecimal (decimal_ne_nil _)
      | cons d digits =>
        have hd : isAsciiDigit d = true :=
          isAsciiDigit_of_mem_decimal (n := n.natAbs) (by simp [hdecimal])
        obtain ⟨-, -, hhigh⟩ := digitValue_of_isAsciiDigit hd
        refine ⟨d, digits, rfl, isJsonSpace_of_isAsciiDigit hd, ?_, by omega⟩
        rintro rfl
        cases hd
  | float q => cases h
  | str s => exact ⟨ch '"', _, rfl, by decide, by decide, by decide⟩
  | arr items => exact ⟨ch '[', _, rfl, by decide, by decide, by decide⟩
  | obj members => exact ⟨ch '\x7b', _, rfl, by decide, by decide, by decide⟩

theorem join_cons_cons (sep p q : PyStr) (parts : List PyStr) :
    join sep (p :: q :: parts) = p ++ (sep ++ join sep (q :: parts)) := by
  rw [join, List.intercalate_cons_cons, List.append_assoc]
  rfl

theorem starts_join {p : PyStr} (h : Starts p) (sep : PyStr) (parts : List PyStr) :
    Starts (join sep (p :: parts)) := by
  cases parts with
  | nil => simpa [join] using h
  | cons q parts =>
    rw [join_cons_cons]
    exact h.append _

/-- The members begin with a key. -/
theorem join_dumpsMembers (key : PyStr) (v : Json) (members : List (PyStr × Json)) :
    ∃ t, join (py ",") (dumpsMembers floatText ((key, v) :: members)) = ch '"' :: t := by
  cases members with
  | nil => exact ⟨_, List.intercalate_singleton⟩
  | cons m members =>
    obtain ⟨key', v'⟩ := m
    exact ⟨_, join_cons_cons _ _ _ _⟩

/-- An item of an array, in front of the character behind it. -/
theorem scanItem {c : CodePoint} {text rest : PyStr} {n : Nat} {v : Json}
    (hc : isJsonSpace c = false) (hvalue : scanValue floatOf n text = some (v, c :: rest)) :
    scanItems floatOf (n + 1) text =
      if c = ch ']' then some ([v], rest)
      else if c = ch ',' then
        (scanItems floatOf n (skipSpace rest)).map fun r => (v :: r.1, r.2)
      else none := by
  rw [scanItems, hvalue, Option.bind_eq_bind, Option.bind_some]
  simp only [skipSpace_cons hc]

/-- A member of an object. -/
theorem scanMember {c : CodePoint} {key text rest : PyStr} {n : Nat} {v : Json}
    (hstart : Starts text) (hc : isJsonSpace c = false)
    (hvalue : scanValue floatOf n text = some (v, c :: rest)) :
    scanMembers floatOf (n + 1) (quote key ++ ch ':' :: text) =
      if c = ch '\x7d' then some ([(key, v)], rest)
      else if c = ch ',' then
        (scanMembers floatOf n (skipSpace rest)).map fun r => ((key, v) :: r.1, r.2)
      else none := by
  have hquote : quote key ++ ch ':' :: text =
      ch '"' :: (key.flatMap escapeChar ++ ch '"' :: ch ':' :: text) := by
    rw [quote, List.cons_append, List.cons_append, List.append_assoc]
    rfl
  rw [scanMembers, hquote, expect_cons, Option.bind_eq_bind, Option.bind_some, scanString_quote]
  dsimp only [Option.bind_eq_bind, Option.bind_some]
  rw [skipSpace_cons (by decide), expect_cons]
  dsimp only [Option.bind_eq_bind, Option.bind_some]
  rw [hstart.skipSpace, hvalue]
  dsimp only [Option.bind_eq_bind, Option.bind_some]
  simp only [skipSpace_cons hc, joinSurrogates_marked]

theorem put_eq_append {κ ν : Type} [DecidableEq κ] {dict : List (κ × ν)} {key : κ} {value : ν}
    (h : key ∉ dict.map Prod.fst) : Assoc.put dict key value = dict ++ [(key, value)] := by
  induction dict with
  | nil => rfl
  | cons m dict ih =>
    rw [List.map_cons, List.mem_cons, not_or] at h
    rw [Assoc.put, if_neg (Ne.symm h.1), ih h.2, List.cons_append]

/-- Keys that are distinct stay as they are. -/
theorem foldl_put_eq_append {κ ν : Type} [DecidableEq κ] (members dict : List (κ × ν))
    (h : ((dict ++ members).map Prod.fst).Nodup) :
    members.foldl (fun dict m => Assoc.put dict m.1 m.2) dict = dict ++ members := by
  induction members generalizing dict with
  | nil => simp
  | cons m members ih =>
    have hnew : m.1 ∉ dict.map Prod.fst := by
      intro hmem
      rw [List.map_append, List.map_cons] at h
      exact (List.disjoint_of_nodup_append h) hmem (by simp)
    have hmove : dict ++ m :: members = dict ++ [m] ++ members := by simp
    rw [List.foldl_cons, put_eq_append hnew, hmove]
    exact ih _ (hmove ▸ h)

theorem toDict_of_nodup {members : List (PyStr × Json)} (h : (members.map Prod.fst).Nodup) :
    toDict members = members := foldl_put_eq_append members [] h

/-! ## 4. The round trip -/

/-- What is written is read back with this much fuel, whatever is behind it. -/
structure Reading (floatText : Option ℚ → PyStr) (floatOf : PyStr → Option ℚ) (n : Nat) : Prop where
  value : ∀ {v rest}, v.plain = true → Closes rest → 2 * (dumps floatText v ++ rest).length ≤ n →
    scanValue floatOf n (dumps floatText v ++ rest) = some (v, rest)
  items : ∀ {v items rest}, Json.plainEach (v :: items) = true →
    2 * (join (py ",") (dumpsEach floatText (v :: items)) ++ ch ']' :: rest).length < n →
    scanItems floatOf n (join (py ",") (dumpsEach floatText (v :: items)) ++ ch ']' :: rest) =
      some (v :: items, rest)
  members : ∀ {key v members rest}, Json.plainMembers ((key, v) :: members) = true →
    2 * (join (py ",") (dumpsMembers floatText ((key, v) :: members)) ++
      ch '\x7d' :: rest).length < n →
    scanMembers floatOf n
        (join (py ",") (dumpsMembers floatText ((key, v) :: members)) ++ ch '\x7d' :: rest) =
      some ((key, v) :: members, rest)

theorem reading_value {k : Nat} (ih : Reading floatText floatOf k) {v : Json} {rest : PyStr}
    (hv : v.plain = true) (hrest : Closes rest)
    (hn : 2 * (dumps floatText v ++ rest).length ≤ k + 1) :
    scanValue floatOf (k + 1) (dumps floatText v ++ rest) = some (v, rest) := by
  match v with
  | .null => rfl
  | .bool true => rfl
  | .bool false => rfl
  | .int i =>
    rw [dumps, scanValue_of_beginsNumber (beginsNumber_intText i rest)]
    exact scanNumber_intText hrest (of_decide_eq_true hv)
  | .str s =>
    have hquote : quote s ++ rest = ch '"' :: (s.flatMap escapeChar ++ ch '"' :: rest) := by
      rw [quote, List.cons_append, List.cons_append, List.append_assoc]
      rfl
    rw [dumps, hquote, scanValue, if_pos rfl, scanString_quote, Option.map_some,
      joinSurrogates_marked]
  | .arr [] => rfl
  | .arr (v :: items) =>
    have hitems : Json.plainEach (v :: items) = true := hv
    have hplain := (Bool.and_eq_true _ _ ▸ hitems).1
    have hstart := (starts_join (@starts_dumps floatText _ hplain) (py ",")
      (dumpsEach floatText items)).append (ch ']' :: rest)
    have htext : dumps floatText (.arr (v :: items)) ++ rest =
        ch '[' :: (join (py ",") (dumpsEach floatText (v :: items)) ++ ch ']' :: rest) := by
      rw [dumps, List.cons_append, List.cons_append, List.append_assoc]
      rfl
    rw [htext, List.length_cons] at hn
    have hread := @Reading.items _ _ _ ih _ _ rest hitems (by omega)
    rw [dumpsEach] at hread htext
    rw [htext, scanValue, if_neg (by decide), if_pos rfl, hstart.skipSpace, hstart.expect, hread]
    rfl
  | .obj [] => rfl
  | .obj ((key, v) :: members) =>
    obtain ⟨hnodup, hmembers⟩ := Bool.and_eq_true_iff.mp hv
    have htext : dumps floatText (.obj ((key, v) :: members)) ++ rest =
        ch '\x7b' ::
          (join (py ",") (dumpsMembers floatText ((key, v) :: members)) ++ ch '\x7d' :: rest) := by
      rw [dumps, List.cons_append, List.cons_append, List.append_assoc]
      rfl
    rw [htext, List.length_cons] at hn
    have hread := @Reading.members _ _ _ ih _ _ _ rest hmembers (by omega)
    obtain ⟨t, ht⟩ := @join_dumpsMembers floatText key v members
    rw [ht, List.cons_append] at hread htext
    rw [htext, scanValue, if_neg (by decide), if_neg (by decide), if_pos rfl,
      skipSpace_cons (by decide), expect_cons_of_ne (by decide), hread]
    exact congrArg (fun members => some (Json.obj members, rest))
      (toDict_of_nodup (of_decide_eq_true hnodup))

theorem reading_items {k : Nat} (ih : Reading floatText floatOf k) {v : Json} {items : List Json}
    {rest : PyStr} (hv : Json.plainEach (v :: items) = true)
    (hn : 2 * (join (py ",") (dumpsEach floatText (v :: items)) ++ ch ']' :: rest).length < k + 1) :
    scanItems floatOf (k + 1)
        (join (py ",") (dumpsEach floatText (v :: items)) ++ ch ']' :: rest) =
      some (v :: items, rest) := by
  obtain ⟨hplain, hitems⟩ := Bool.and_eq_true_iff.mp hv
  match items with
  | [] =>
    have htext : join (py ",") (dumpsEach floatText [v]) = dumps floatText v :=
      List.intercalate_singleton
    rw [htext] at hn ⊢
    rw [scanItem (by decide) (ih.value hplain (closes_cons (by decide) _) (by omega)),
      if_pos rfl]
  | w :: items =>
    have htext : join (py ",") (dumpsEach floatText (v :: w :: items)) ++ ch ']' :: rest =
        dumps floatText v ++
          ch ',' :: (join (py ",") (dumpsEach floatText (w :: items)) ++ ch ']' :: rest) := by
      rw [dumpsEach, dumpsEach, join_cons_cons, List.append_assoc, List.append_assoc]
      rfl
    have hstart := (starts_join (@starts_dumps floatText _
      (Bool.and_eq_true_iff.mp hitems).1) (py ",") (dumpsEach floatText items)).append
        (ch ']' :: rest)
    rw [htext] at hn ⊢
    rw [scanItem (by decide) (ih.value hplain (closes_cons (by decide) _) (by omega)),
      if_neg (by decide), if_pos rfl]
    rw [List.length_append, List.length_cons] at hn
    have hread := @Reading.items _ _ _ ih _ _ rest hitems (by omega)
    rw [dumpsEach] at hread ⊢
    rw [hstart.skipSpace, hread]
    rfl

theorem reading_members {k : Nat} (ih : Reading floatText floatOf k) {key : PyStr} {v : Json}
    {members : List (PyStr × Json)} {rest : PyStr}
    (hm : Json.plainMembers ((key, v) :: members) = true)
    (hn : 2 * (join (py ",") (dumpsMembers floatText ((key, v) :: members)) ++
      ch '\x7d' :: rest).length < k + 1) :
    scanMembers floatOf (k + 1)
        (join (py ",") (dumpsMembers floatText ((key, v) :: members)) ++ ch '\x7d' :: rest) =
      some ((key, v) :: members, rest) := by
  obtain ⟨hplain, hmembers⟩ := Bool.and_eq_true_iff.mp hm
  have hstart := @starts_dumps floatText _ hplain
  match members with
  | [] =>
    have htext : join (py ",") (dumpsMembers floatText [(key, v)]) ++ ch '\x7d' :: rest =
        quote key ++ ch ':' :: (dumps floatText v ++ ch '\x7d' :: rest) := by
      rw [dumpsMembers, dumpsMembers, join, List.intercalate_singleton, List.append_assoc]
      rfl
    rw [htext] at hn ⊢
    rw [List.length_append, List.length_cons] at hn
    rw [scanMember (hstart.append _) (by decide)
      (ih.value hplain (closes_cons (by decide) _) (by omega)), if_pos rfl]
  | (key', w) :: members =>
    have htext : join (py ",") (dumpsMembers floatText ((key, v) :: (key', w) :: members)) ++
          ch '\x7d' :: rest =
        quote key ++ ch ':' :: (dumps floatText v ++ ch ',' ::
          (join (py ",") (dumpsMembers floatText ((key', w) :: members)) ++
            ch '\x7d' :: rest)) := by
      rw [dumpsMembers, dumpsMembers, join_cons_cons, List.append_assoc, List.append_assoc,
        List.append_assoc]
      rfl
    rw [htext] at hn ⊢
    rw [List.length_append, List.length_cons] at hn
    rw [scanMember (hstart.append _) (by decide)
      (ih.value hplain (closes_cons (by decide) _) (by omega)), if_neg (by decide),
      if_pos rfl]
    rw [List.length_append, List.length_cons] at hn
    have hread := @Reading.members _ _ _ ih _ _ _ rest hmembers (by omega)
    obtain ⟨t, ht⟩ := @join_dumpsMembers floatText key' w members
    rw [ht, List.cons_append] at hread ⊢
    rw [skipSpace_cons (by decide), hread]
    rfl

theorem reading (n : Nat) : Reading floatText floatOf n := by
  induction n with
  | zero =>
    refine ⟨fun hv _ hn => ?_, nofun, nofun⟩
    obtain ⟨c, t, htext, -⟩ := @starts_dumps floatText _ hv
    rw [htext, List.cons_append, List.length_cons] at hn
    omega
  | succ n ih => exact ⟨reading_value ih, reading_items ih, reading_members ih⟩

/-- **What is written is read back.** -/
theorem loads_dumps {v : Json} (h : v.plain = true) :
    loads floatOf (dumps floatText v) = some v := by
  have hstart := @starts_dumps floatText _ h
  have hread := (@reading floatOf floatText _).value h closes_nil le_rfl
  have hmark : (dumps floatText v).head? ≠ some 0xfeff := by
    obtain ⟨c, t, htext, -, -, hascii⟩ := hstart
    rw [htext]
    rintro hc
    obtain rfl := Option.some.inj hc
    exact absurd hascii (by decide)
  rw [List.append_nil] at hread
  unfold loads
  rw [if_neg hmark, hstart.skipSpace, hread]
  exact if_pos rfl

/-! ## 5. The characters of a text -/

/-- A character is written as itself or in printable ASCII characters. -/
theorem mem_escapeChar {c d : CodePoint} (h : d ∈ escapeChar c) :
    32 ≤ d.val ∧ (128 ≤ d.val → d = c) := by
  have hletters : ∀ e ∈ escapeLetters, 32 ≤ e.2.val ∧ e.2.val < 128 :=
    forall_mem_of_all (by decide)
  have hdigit : ∀ n < 16, 32 ≤ (hexDigit n).val ∧ (hexDigit n).val < 128 := by decide
  have hascii (e : CodePoint) (h : 32 ≤ e.val ∧ e.val < 128) :
      32 ≤ e.val ∧ (128 ≤ e.val → e = c) := ⟨h.1, fun hhigh => by omega⟩
  unfold escapeChar at h
  split at h
  next e he =>
    rcases List.mem_pair.mp h with rfl | rfl
    · exact hascii _ (by decide)
    · exact hascii _ (hletters e (List.mem_of_find?_eq_some he))
  next =>
    split at h
    next =>
      have hescape : py "\\u00" = [ch '\\', ch 'u', ch '0', ch '0'] := by decide
      rw [hescape] at h
      simp only [List.cons_append, List.nil_append, List.mem_cons, List.not_mem_nil, or_false] at h
      rcases h with rfl | rfl | rfl | rfl | rfl | rfl
      · exact hascii _ (by decide)
      · exact hascii _ (by decide)
      · exact hascii _ (by decide)
      · exact hascii _ (by decide)
      · exact hascii _ (hdigit _ (by omega))
      · exact hascii _ (hdigit _ (by omega))
    next hc =>
      obtain rfl := List.mem_singleton.mp h
      exact ⟨by omega, fun _ => rfl⟩

theorem escapeChar_of_high {c : CodePoint} (h : 128 ≤ c.val) : escapeChar c = [c] := by
  have hletters : ∀ e ∈ escapeLetters, e.1.val < 128 := forall_mem_of_all (by decide)
  have hnone : (escapeLetters.find? fun e => e.1 = c) = none := by
    rw [List.find?_eq_none]
    intro e he heq
    have hlow := hletters e he
    rw [of_decide_eq_true heq] at hlow
    omega
  unfold escapeChar
  rw [hnone]
  exact if_neg (by omega)

theorem mem_quote {s : PyStr} {c : CodePoint} (h : c ∈ quote s) :
    32 ≤ c.val ∧ (128 ≤ c.val → c ∈ s) := by
  have hmark : 32 ≤ (ch '"').val ∧ (128 ≤ (ch '"').val → ch '"' ∈ s) :=
    ⟨by decide, fun hhigh => absurd hhigh (by decide)⟩
  rcases List.mem_append.mp h with h | h
  · rcases List.mem_cons.mp h with rfl | h
    · exact hmark
    · obtain ⟨d, hd, hc⟩ := List.mem_flatMap.mp h
      obtain ⟨hlow, hhigh⟩ := mem_escapeChar hc
      exact ⟨hlow, fun h => hhigh h ▸ hd⟩
  · obtain rfl := List.mem_singleton.mp h
    exact hmark

theorem mem_quote_of_mem {s : PyStr} {c : CodePoint} (hc : 128 ≤ c.val) (h : c ∈ s) :
    c ∈ quote s := by
  refine List.mem_append_left _ (List.mem_cons_of_mem _ (List.mem_flatMap.mpr ⟨c, h, ?_⟩))
  rw [escapeChar_of_high hc]
  exact List.mem_singleton_self c

theorem mem_intText {n : Int} {c : CodePoint} (h : c ∈ intText n) : 32 ≤ c.val ∧ c.val < 128 := by
  have hdigit (hc : c ∈ decimal n.natAbs) : 32 ≤ c.val ∧ c.val < 128 := by
    obtain ⟨-, hlow, hhigh⟩ := digitValue_of_isAsciiDigit (isAsciiDigit_of_mem_decimal hc)
    omega
  unfold intText at h
  split at h
  · rcases List.mem_cons.mp h with rfl | h
    · decide
    · exact hdigit h
  · exact hdigit h

/-- What the writer puts into a text: nothing below U+0020, and beyond ASCII only what the texts
of the value have. -/
def Written (texts : List PyStr) (c : CodePoint) : Prop :=
  32 ≤ c.val ∧ (128 ≤ c.val → ∃ t ∈ texts, c ∈ t)

theorem Written.of_ascii {texts : List PyStr} {c : CodePoint} (h : 32 ≤ c.val ∧ c.val < 128) :
    Written texts c := ⟨h.1, fun hhigh => by omega⟩

theorem Written.of_literal {texts : List PyStr} {s : PyStr} {c : CodePoint}
    (h : (s.all fun c => 32 ≤ c.val ∧ c.val < 128) = true) (hc : c ∈ s) : Written texts c :=
  .of_ascii (of_decide_eq_true (List.all_eq_true.mp h c hc))

theorem Written.mono {texts texts' : List PyStr} {c : CodePoint} (h : Written texts c)
    (hsub : ∀ t ∈ texts, t ∈ texts') : Written texts' c := by
  refine ⟨h.1, fun hhigh => ?_⟩
  obtain ⟨t, ht, hc⟩ := h.2 hhigh
  exact ⟨t, hsub t ht, hc⟩

/-- Between brackets and commas there is what is written for the parts. -/
theorem written_of_mem_join {texts : List PyStr} {parts : List PyStr} {c l r : CodePoint}
    (hparts : ∀ p ∈ parts, ∀ c ∈ p, Written texts c) (hl : 32 ≤ l.val ∧ l.val < 128)
    (hr : 32 ≤ r.val ∧ r.val < 128) (h : c ∈ l :: join (py ",") parts ++ [r]) :
    Written texts c := by
  rcases List.mem_append.mp h with h | h
  · rcases List.mem_cons.mp h with rfl | h
    · exact .of_ascii hl
    · rcases mem_join h with h | ⟨p, hp, hc⟩
      · obtain rfl : c = ch ',' := List.mem_singleton.mp h
        exact .of_ascii (by decide)
      · exact hparts p hp c hc
  · obtain rfl := List.mem_singleton.mp h
    exact .of_ascii hr

mutual

theorem written_of_mem_dumps : ∀ (v : Json), v.plain = true → ∀ c ∈ dumps floatText v,
    Written v.texts c
  | .null, _, _, hc => .of_literal (s := py "null") (by decide) hc
  | .bool true, _, _, hc => .of_literal (s := py "true") (by decide) hc
  | .bool false, _, _, hc => .of_literal (s := py "false") (by decide) hc
  | .int n, _, c, hc => .of_ascii (mem_intText hc)
  | .str s, _, c, hc => by
    obtain ⟨hlow, hhigh⟩ := mem_quote hc
    exact ⟨hlow, fun h => ⟨s, List.mem_singleton_self s, hhigh h⟩⟩
  | .arr items, hv, c, hc =>
    written_of_mem_join (written_of_mem_dumpsEach items hv) (by decide) (by decide) hc
  | .obj members, hv, c, hc =>
    written_of_mem_join (written_of_mem_dumpsMembers members (Bool.and_eq_true_iff.mp hv).2)
      (by decide) (by decide) hc

theorem written_of_mem_dumpsEach : ∀ (items : List Json), Json.plainEach items = true →
    ∀ p ∈ dumpsEach floatText items, ∀ c ∈ p, Written (Json.textsEach items) c
  | [], _, p, hp, _, _ => by cases hp
  | v :: items, hv, p, hp, c, hc => by
    obtain ⟨hplain, hitems⟩ := Bool.and_eq_true_iff.mp hv
    rcases List.mem_cons.mp hp with rfl | hp
    · exact (written_of_mem_dumps v hplain c hc).mono fun t ht => List.mem_append_left _ ht
    · exact (written_of_mem_dumpsEach items hitems p hp c hc).mono
        fun t ht => List.mem_append_right _ ht

theorem written_of_mem_dumpsMembers : ∀ (members : List (PyStr × Json)),
    Json.plainMembers members = true → ∀ p ∈ dumpsMembers floatText members, ∀ c ∈ p,
    Written (Json.textsMembers members) c
  | [], _, p, hp, _, _ => by cases hp
  | (key, v) :: members, hv, p, hp, c, hc => by
    obtain ⟨hplain, hmembers⟩ := Bool.and_eq_true_iff.mp hv
    rcases List.mem_cons.mp hp with rfl | hp
    · rcases List.mem_append.mp hc with hc | hc
      · obtain ⟨hlow, hhigh⟩ := mem_quote hc
        exact ⟨hlow, fun h => ⟨key, by simp [Json.textsMembers], hhigh h⟩⟩
      · rcases List.mem_cons.mp hc with rfl | hc
        · exact .of_ascii (by decide)
        · refine (written_of_mem_dumps v hplain c hc).mono fun t ht => ?_
          exact List.mem_append_left _ (List.mem_cons_of_mem _ ht)
    · refine (written_of_mem_dumpsMembers members hmembers p hp c hc).mono fun t ht => ?_
      exact List.mem_append_right _ ht

end

mutual

theorem mem_dumps_of_mem {c : CodePoint} (hhigh : 128 ≤ c.val) : ∀ (v : Json), ∀ t ∈ v.texts,
    c ∈ t → c ∈ dumps floatText v
  | .null, t, ht, _ => by cases ht
  | .bool _, t, ht, _ => by cases ht
  | .int _, t, ht, _ => by cases ht
  | .float _, t, ht, _ => by cases ht
  | .str s, t, ht, hc => by
    obtain rfl := List.mem_singleton.mp ht
    exact mem_quote_of_mem hhigh hc
  | .arr items, t, ht, hc => by
    obtain ⟨p, hp, hcp⟩ := mem_dumpsEach_of_mem hhigh items t ht hc
    exact List.mem_append_left _ (List.mem_cons_of_mem _ (mem_join_of_mem hp hcp))
  | .obj members, t, ht, hc => by
    obtain ⟨p, hp, hcp⟩ := mem_dumpsMembers_of_mem hhigh members t ht hc
    exact List.mem_append_left _ (List.mem_cons_of_mem _ (mem_join_of_mem hp hcp))

theorem mem_dumpsEach_of_mem {c : CodePoint} (hhigh : 128 ≤ c.val) : ∀ (items : List Json),
    ∀ t ∈ Json.textsEach items, c ∈ t → ∃ p ∈ dumpsEach floatText items, c ∈ p
  | [], t, ht, _ => by cases ht
  | v :: items, t, ht, hc => by
    rcases List.mem_append.mp ht with ht | ht
    · exact ⟨_, List.mem_cons_self, mem_dumps_of_mem hhigh v t ht hc⟩
    · obtain ⟨p, hp, hcp⟩ := mem_dumpsEach_of_mem hhigh items t ht hc
      exact ⟨p, List.mem_cons_of_mem _ hp, hcp⟩

theorem mem_dumpsMembers_of_mem {c : CodePoint} (hhigh : 128 ≤ c.val) :
    ∀ (members : List (PyStr × Json)), ∀ t ∈ Json.textsMembers members, c ∈ t →
    ∃ p ∈ dumpsMembers floatText members, c ∈ p
  | [], t, ht, _ => by cases ht
  | (key, v) :: members, t, ht, hc => by
    rcases List.mem_append.mp ht with ht | ht
    · refine ⟨_, List.mem_cons_self, ?_⟩
      rcases List.mem_cons.mp ht with rfl | ht
      · exact List.mem_append_left _ (mem_quote_of_mem hhigh hc)
      · exact List.mem_append_right _ (List.mem_cons_of_mem _ (mem_dumps_of_mem hhigh v t ht hc))
    · obtain ⟨p, hp, hcp⟩ := mem_dumpsMembers_of_mem hhigh members t ht hc
      exact ⟨p, List.mem_cons_of_mem _ hp, hcp⟩

end

end ZtPlanet.Python
