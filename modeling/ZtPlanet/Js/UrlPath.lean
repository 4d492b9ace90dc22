/-
# The path of a URL

What `new URL` makes of the text behind the authority of an `http` or `https` URL: tabs and line
breaks are dropped, the path ends at `?` or `#`, `\` separates like `/`, and dot segments are
resolved, written out or percent-encoded.  A text that was put into a URL as one segment is one in
the end where it is made of letters and digits (`urlPath_plain`); in general it is not, as `../..`
shows.

A text has no lone surrogates here; `new URL` would replace them.
-/
import Mathlib.Data.List.DropRight

namespace ZtPlanet.Js

/-! ## 1. What is left of the text -/

/-- A C0 control or a space. -/
def isControlOrSpace (c : Char) : Bool := c.toNat ≤ 0x20

def isTabOrNewline (c : Char) : Bool := c == '\t' || c == '\n' || c == '\r'

/-- The text without what `new URL` strips from the end of its argument and drops from it, up to the
query or the fragment. -/
def pathText (text : List Char) : List Char :=
  ((text.rdropWhile isControlOrSpace).filter fun c => !isTabOrNewline c).takeWhile
    fun c => c != '?' && c != '#'

/-- The segments, one of which begins behind each separator. -/
def pathSegments (text : List Char) : List (List Char) :=
  (((pathText text).map fun c => if c = '\\' then '/' else c).splitOn '/').tail

/-! ## 2. Dot segments -/

/-- A dot, and its encodings. -/
def dots : List (List Char) := [['.'], ['%', '2', 'e'], ['%', '2', 'E']]

def isSingleDot (segment : List Char) : Bool := dots.contains segment

def isDoubleDot (segment : List Char) : Bool :=
  dots.any fun first => dots.any fun second => segment == first ++ second

def hexDigitUpper (n : Nat) : Char := Char.ofNat (if n < 10 then 0x30 + n else 0x37 + n)

/-- The character is in the path percent-encode set. -/
def inPathSet (c : Char) : Bool :=
  c.toNat < 0x21 || 0x7E < c.toNat || [' ', '"', '#', '<', '>', '?', '^', '`', '{', '}'].contains c

/-- A character of a segment, percent-encoded where it has to be. -/
def encodePathChar (c : Char) : List Char :=
  if inPathSet c then
    (String.singleton c).toUTF8.toList.flatMap fun b =>
      ['%', hexDigitUpper (b.toNat / 16), hexDigitUpper (b.toNat % 16)]
  else [c]

/-- The segments are resolved one by one behind those that are there. -/
def resolve (path : List String) : List (List Char) → List String
  | [] => path
  | segment :: segments =>
    if isDoubleDot segment then
      resolve (path.dropLast ++ if segments.isEmpty then [""] else []) segments
    else if isSingleDot segment then
      resolve (path ++ if segments.isEmpty then [""] else []) segments
    else resolve (path ++ [String.ofList (segment.flatMap encodePathChar)]) segments

/-- The segments of `new URL(origin + text).pathname`. -/
def urlPath (text : String) : List String := resolve [] (pathSegments text.toList)

/-! ## 3. Plain segments -/

/-- Letters and digits only. -/
def IsPlain (segment : String) : Prop := segment.toList.all Char.isAlphanum = true

instance (segment : String) : Decidable (IsPlain segment) := inferInstanceAs (Decidable (_ = _))

/-- The character has no meaning of its own in a path. -/
structure Unreserved (c : Char) : Prop where
  control : isControlOrSpace c = false
  ends : (c != '?' && c != '#') = true
  separates : c ≠ '\\' ∧ c ≠ '/'
  dots : c ≠ '.' ∧ c ≠ '%'
  encoded : inPathSet c = false

theorem unreserved_of_isAlphanum {c : Char} (h : c.isAlphanum = true) : Unreserved c := by
  have hne : ∀ d : Char, d.isAlphanum = false → c ≠ d := by
    rintro d hd rfl
    rw [h] at hd
    cases hd
  have hrange : 0x30 ≤ c.toNat ∧ c.toNat ≤ 0x7A := by
    delta Char.isAlphanum Char.isAlpha Char.isUpper Char.isLower Char.isDigit at h
    simp only [Bool.or_eq_true, Bool.and_eq_true, decide_eq_true_eq, ge_iff_le,
      UInt32.le_iff_toNat_le] at h
    change (((65 ≤ c.toNat ∧ c.toNat ≤ 90) ∨ 97 ≤ c.toNat ∧ c.toNat ≤ 122) ∨
      48 ≤ c.toNat ∧ c.toNat ≤ 57) at h
    omega
  refine ⟨?_, ?_, ⟨hne _ (by decide), hne _ (by decide)⟩,
    ⟨hne _ (by decide), hne _ (by decide)⟩, ?_⟩
  · exact decide_eq_false (by omega)
  · simp only [bne_iff_ne, Bool.and_eq_true]
    exact ⟨hne _ (by decide), hne _ (by decide)⟩
  · have hlow : ¬c.toNat < 0x21 := by omega
    have hhigh : ¬0x7E < c.toNat := by omega
    simp only [inPathSet, hlow, hhigh, decide_false, Bool.false_or, List.contains_eq_mem,
      decide_eq_false_iff_not, List.mem_cons, List.not_mem_nil, or_false, not_or]
    exact ⟨hne _ (by decide), hne _ (by decide), hne _ (by decide), hne _ (by decide),
      hne _ (by decide), hne _ (by decide), hne _ (by decide), hne _ (by decide),
      hne _ (by decide), hne _ (by decide)⟩

variable {segment : String} {segments : List String}

theorem IsPlain.unreserved (h : IsPlain segment) : ∀ c ∈ segment.toList, Unreserved c :=
  fun c hc => unreserved_of_isAlphanum (List.all_eq_true.mp h c hc)

/-- Every dot begins with a character that is not plain. -/
theorem ne_append_of_mem_dots {dot rest text : List Char} (hdot : dot ∈ dots)
    (h : ∀ c ∈ text, Unreserved c) : text ≠ dot ++ rest := by
  rintro rfl
  simp only [dots, List.mem_cons, List.not_mem_nil, or_false] at hdot
  rcases hdot with rfl | rfl | rfl
  · exact (h '.' List.mem_cons_self).dots.1 rfl
  · exact (h '%' List.mem_cons_self).dots.2 rfl
  · exact (h '%' List.mem_cons_self).dots.2 rfl

theorem IsPlain.isSingleDot (h : IsPlain segment) : isSingleDot segment.toList = false := by
  refine Bool.eq_false_iff.mpr fun hdots => ?_
  have hmem : segment.toList ∈ dots := List.contains_iff_mem.mp hdots
  exact ne_append_of_mem_dots hmem h.unreserved (List.append_nil _).symm

theorem IsPlain.isDoubleDot (h : IsPlain segment) : isDoubleDot segment.toList = false := by
  refine Bool.eq_false_iff.mpr fun hdots => ?_
  obtain ⟨first, hfirst, hsecond⟩ := List.any_eq_true.mp hdots
  obtain ⟨second, -, heq⟩ := List.any_eq_true.mp hsecond
  exact ne_append_of_mem_dots hfirst h.unreserved (beq_iff_eq.mp heq)

theorem IsPlain.encode (h : IsPlain segment) :
    String.ofList (segment.toList.flatMap encodePathChar) = segment := by
  have hsame : ∀ c ∈ segment.toList, encodePathChar c = [c] := fun c hc => by
    rw [encodePathChar, (h.unreserved c hc).encoded]
    rfl
  rw [List.flatMap_congr hsame]
  simp

/-- Plain segments are resolved to themselves. -/
theorem resolve_plain (h : ∀ s ∈ segments, IsPlain s) (path : List String) :
    resolve path (segments.map String.toList) = path ++ segments := by
  induction segments generalizing path with
  | nil => exact (List.append_nil path).symm
  | cons s segments ih =>
    have hs := h s List.mem_cons_self
    rw [List.map_cons, resolve, hs.isSingleDot, hs.isDoubleDot, hs.encode]
    simp only [Bool.false_eq_true, if_false]
    rw [ih (fun s' hs' => h s' (List.mem_cons_of_mem _ hs')), List.append_assoc]
    rfl

/-- A slash, or a character without a meaning. -/
theorem mem_intercalate {c : Char} {texts : List (List Char)}
    (h : ∀ text ∈ texts, ∀ d ∈ text, Unreserved d) (hc : c ∈ ['/'].intercalate texts) :
    c = '/' ∨ Unreserved c := by
  induction texts with
  | nil => cases hc
  | cons text texts ih =>
    have htext := h text List.mem_cons_self
    cases texts with
    | nil =>
      rw [List.intercalate_singleton] at hc
      exact .inr (htext c hc)
    | cons text' texts =>
      rw [List.intercalate_cons_cons] at hc
      rcases List.mem_append.mp hc with hc | hc
      · rcases List.mem_append.mp hc with hc | hc
        · exact .inr (htext c hc)
        · exact .inl (List.mem_singleton.mp hc)
      · exact ih (fun t ht => h t (List.mem_cons_of_mem _ ht)) hc

/-- Nothing is stripped, dropped or cut off from slashes and plain segments, and nothing becomes a
separator. -/
theorem pathText_of_plain {text : List Char} (h : ∀ c ∈ text, c = '/' ∨ Unreserved c) :
    (pathText text).map (fun c => if c = '\\' then '/' else c) = text := by
  have hcontrol : ∀ c ∈ text, isControlOrSpace c = false := fun c hc => by
    rcases h c hc with rfl | hc
    · rfl
    · exact hc.control
  have hstrip : text.rdropWhile isControlOrSpace = text :=
    List.rdropWhile_eq_self_iff.mpr fun hne => by
      rw [hcontrol _ (List.getLast_mem hne)]
      exact Bool.false_ne_true
  have hfilter : text.filter (fun c => !isTabOrNewline c) = text :=
    List.filter_eq_self.mpr fun c hc => by
      by_contra htab
      have hle := hcontrol c hc
      simp only [isTabOrNewline, Bool.not_eq_true', Bool.not_eq_false, Bool.or_eq_true,
        beq_iff_eq] at htab
      rcases htab with (rfl | rfl) | rfl <;> exact absurd hle (by decide)
  have hends : text.takeWhile (fun c => c != '?' && c != '#') = text :=
    List.takeWhile_eq_self_iff.mpr fun c hc => by
      rcases h c hc with rfl | hc
      · rfl
      · exact hc.ends
  have hsame : text.map (fun c => if c = '\\' then '/' else c) = text := by
    refine (List.map_congr_left fun c hc => ?_).trans (List.map_id text)
    rcases h c hc with rfl | hc
    · rfl
    · exact if_neg hc.separates.1
  rw [pathText, hstrip, hfilter, hends, hsame]

/-- What is plain, with slashes between, is split into what it was. -/
theorem pathSegments_plain (hne : segments ≠ []) (h : ∀ s ∈ segments, IsPlain s) :
    pathSegments ('/' :: ['/'].intercalate (segments.map String.toList)) =
      segments.map String.toList := by
  have hplain : ∀ text ∈ segments.map String.toList, ∀ c ∈ text, Unreserved c := by
    intro text htext
    obtain ⟨s, hs, rfl⟩ := List.mem_map.mp htext
    exact (h s hs).unreserved
  rw [pathSegments, pathText_of_plain fun c hc => ?_]
  · have hsplit := List.splitOn_append_cons_self (a := '/') []
      (['/'].intercalate (segments.map String.toList))
    rw [List.nil_append] at hsplit
    rw [hsplit, List.splitOn_intercalate '/' (fun text htext hslash => ?_)
      (fun hnil => hne (List.map_eq_nil_iff.mp hnil))]
    · rfl
    · exact (hplain text htext _ hslash).separates.2 rfl
  · rcases List.mem_cons.mp hc with rfl | hc
    · exact .inl rfl
    · exact mem_intercalate hplain hc

/-- **Plain segments stay what they are**: a URL that is made of them has them in its path. -/
theorem urlPath_plain (hne : segments ≠ []) (h : ∀ s ∈ segments, IsPlain s) :
    urlPath ("/" ++ "/".intercalate segments) = segments := by
  have htext : ("/" ++ "/".intercalate segments).toList =
      '/' :: ['/'].intercalate (segments.map String.toList) := by
    simp [String.toList_intercalate]
  rw [urlPath, htext, pathSegments_plain hne h, resolve_plain h, List.nil_append]

end ZtPlanet.Js
