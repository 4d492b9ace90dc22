/-
# Quotation marks in JSON texts

A JSON text has nothing but ASCII characters outside its strings, no backslash among them, and
every string that it opens it closes.  `Quotes` is an automaton that knows no more than whether it
is inside a string; every text that the reader accepts takes it from outside to outside
(`outside_of_loads`).

Read from the inside of a string, the same characters leave the automaton in the other phase
(`not_outside_twice`).  So what is left of a text that is cut inside a string is not one that the
reader accepts, on either side of the cut (`loads_tail_eq_none`).

How much of a text each function of the reader consumes also bounds its fuel (`loads_fuel`).
-/
import ZtPlanet.Python.JsonText

namespace ZtPlanet.Python

/-! ## 1. The automaton -/

/-- Whether a text is inside a string, and behind a backslash there. -/
inductive Quotes where
  | outside
  | inside
  | escaped
  /-- no JSON text begins like this -/
  | broken
deriving DecidableEq

def Quotes.step : Quotes → CodePoint → Quotes
  | .outside, c =>
    if c = ch '"' then .inside else if c = ch '\\' ∨ 128 ≤ c.val then .broken else .outside
  | .inside, c => if c = ch '"' then .outside else if c = ch '\\' then .escaped else .inside
  | .escaped, c => if 128 ≤ c.val then .broken else .inside
  | .broken, _ => .broken

def Quotes.run (q : Quotes) (s : PyStr) : Quotes := s.foldl Quotes.step q

namespace Quotes

@[simp] theorem run_nil (q : Quotes) : q.run [] = q := rfl

@[simp] theorem run_cons (q : Quotes) (c : CodePoint) (s : PyStr) :
    q.run (c :: s) = (q.step c).run s := rfl

theorem run_append (q : Quotes) (s t : PyStr) : q.run (s ++ t) = (q.run s).run t :=
  List.foldl_append

@[simp] theorem run_broken (s : PyStr) : broken.run s = broken := by
  induction s with
  | nil => rfl
  | cons c s ih => exact ih

/-- A character that may stand outside strings. -/
def Bare (c : CodePoint) : Prop := c ≠ ch '"' ∧ c ≠ ch '\\' ∧ c.val < 128

instance (c : CodePoint) : Decidable (Bare c) := inferInstanceAs (Decidable (_ ∧ _ ∧ _))

theorem step_of_bare {c : CodePoint} (h : Bare c) : step outside c = outside := by
  obtain ⟨hquote, hslash, hascii⟩ := h
  refine (if_neg hquote).trans (if_neg ?_)
  rintro (h | h)
  · exact hslash h
  · omega

/-- What may not stand outside strings. -/
theorem step_of_not_bare {c : CodePoint} (hquote : c ≠ ch '"') (h : c = ch '\\' ∨ 128 ≤ c.val) :
    step outside c = broken :=
  (if_neg hquote).trans (if_pos h)

theorem step_inside {c : CodePoint} (hquote : c ≠ ch '"') (hslash : c ≠ ch '\\') :
    step inside c = inside :=
  (if_neg hquote).trans (if_neg hslash)

theorem run_of_bare {s : PyStr} (h : ∀ c ∈ s, Bare c) : outside.run s = outside := by
  induction s with
  | nil => rfl
  | cons c s ih =>
    rw [run_cons, step_of_bare (h c (by simp))]
    exact ih fun d hd => h d (by simp [hd])

/-- **No text leads outside from both phases.**  The quotation marks that open strings in one of
the readings close them in the other. -/
theorem not_outside_twice (s : PyStr) : ¬ (outside.run s = outside ∧ inside.run s = outside) := by
  induction s with
  | nil =>
    rintro ⟨-, h⟩
    cases h
  | cons c s ih =>
    rintro ⟨hout, hin⟩
    rw [run_cons] at hout hin
    by_cases hquote : c = ch '"'
    · have hopen : step outside c = inside := if_pos hquote
      have hclose : step inside c = outside := if_pos hquote
      rw [hopen] at hout
      rw [hclose] at hin
      exact ih ⟨hin, hout⟩
    · by_cases hbroken : c = ch '\\' ∨ 128 ≤ c.val
      · rw [step_of_not_bare hquote hbroken, run_broken] at hout
        cases hout
      · have hbare : Bare c := ⟨hquote, fun h => hbroken (.inl h), by
          have := fun h => hbroken (.inr h)
          omega⟩
        rw [step_of_bare hbare] at hout
        rw [step_inside hquote hbare.2.1] at hin
        exact ih ⟨hout, hin⟩

/-- A character beyond ASCII stands inside a string. -/
theorem inside_of_run {s t : PyStr} {c : CodePoint} (hc : 128 ≤ c.val)
    (h : outside.run (s ++ c :: t) = outside) :
    outside.run s = inside ∧ inside.run t = outside := by
  have hquote : c ≠ ch '"' := by
    rintro rfl
    exact absurd hc (by decide)
  have hslash : c ≠ ch '\\' := by
    rintro rfl
    exact absurd hc (by decide)
  rw [run_append, run_cons] at h
  cases hphase : outside.run s with
  | inside =>
    rw [hphase, step_inside hquote hslash] at h
    exact ⟨rfl, h⟩
  | outside =>
    rw [hphase, step_of_not_bare hquote (.inr hc), run_broken] at h
    cases h
  | escaped =>
    rw [hphase, show step escaped c = broken from if_pos hc, run_broken] at h
    cases h
  | broken =>
    rw [hphase, show step broken c = broken from rfl, run_broken] at h
    cases h

end Quotes

/-! ## 2. What the reader consumes -/

/-- `rest` is what is left of `s` behind a piece that leads from outside to outside. -/
def Passes (s rest : PyStr) : Prop :=
  ∃ piece, s = piece ++ rest ∧ Quotes.outside.run piece = .outside

/-- And the piece is not empty. -/
def Consumes (s rest : PyStr) : Prop := Passes s rest ∧ rest.length < s.length

theorem Passes.refl (s : PyStr) : Passes s s := ⟨[], rfl, rfl⟩

theorem Passes.trans {s t u : PyStr} (h : Passes s t) (h' : Passes t u) : Passes s u := by
  obtain ⟨piece, rfl, hpiece⟩ := h
  obtain ⟨piece', rfl, hpiece'⟩ := h'
  refine ⟨piece ++ piece', (List.append_assoc _ _ _).symm, ?_⟩
  rw [Quotes.run_append, hpiece, hpiece']

theorem Passes.length_le {s rest : PyStr} (h : Passes s rest) : rest.length ≤ s.length := by
  obtain ⟨piece, rfl, -⟩ := h
  simp

theorem Consumes.trans {s t u : PyStr} (h : Consumes s t) (h' : Passes t u) : Consumes s u :=
  ⟨h.1.trans h', lt_of_le_of_lt h'.length_le h.2⟩

theorem Passes.consumes {s t u : PyStr} (h : Passes s t) (h' : Consumes t u) : Consumes s u :=
  ⟨h.trans h'.1, lt_of_lt_of_le h'.2 h.length_le⟩

theorem passes_of_bare {piece rest : PyStr} (h : ∀ c ∈ piece, Quotes.Bare c) :
    Passes (piece ++ rest) rest := ⟨piece, rfl, Quotes.run_of_bare h⟩

theorem consumes_of_bare {c : CodePoint} (hc : Quotes.Bare c) (rest : PyStr) :
    Consumes (c :: rest) rest := by
  refine ⟨⟨[c], rfl, Quotes.run_of_bare fun d hd => ?_⟩, by simp⟩
  rwa [List.mem_singleton.mp hd]

theorem passes_skipSpace (s : PyStr) : Passes s (skipSpace s) := by
  refine ⟨s.takeWhile isJsonSpace, List.takeWhile_append_dropWhile.symm, ?_⟩
  refine Quotes.run_of_bare fun c hc => ?_
  have hspace : c = ch ' ' ∨ c = ch '\t' ∨ c = ch '\n' ∨ c = ch '\r' := by
    simpa [isJsonSpace, or_assoc] using List.mem_takeWhile_imp hc
  rcases hspace with rfl | rfl | rfl | rfl <;> decide

theorem eq_cons_of_expect {c : CodePoint} {s rest : PyStr} (h : expect c s = some rest) :
    s = c :: rest := by
  cases s with
  | nil => cases h
  | cons d s =>
    change (if d = c then some s else none) = some rest at h
    split at h
    next hd =>
      obtain rfl := Option.some.inj h
      rw [hd]
    next => cases h

theorem expect_cons (c : CodePoint) (rest : PyStr) : expect c (c :: rest) = some rest := by
  unfold expect
  exact if_pos rfl

theorem expect_cons_of_ne {c d : CodePoint} (h : d ≠ c) (rest : PyStr) :
    expect c (d :: rest) = none := by
  unfold expect
  exact if_neg h

/-- Where the automaton is when `scanString` is in a mode. -/
def StringMode.quotes : StringMode → Quotes
  | .plain => .inside
  | .escape => .escaped
  | .hex _ _ => .inside

theorem eq_of_pushChar {c : CodePoint × Bool} {read : Option (List (CodePoint × Bool) × PyStr)}
    {r : List (CodePoint × Bool) × PyStr} (h : pushChar c read = some r) :
    ∃ r', read = some r' ∧ r.2 = r'.2 := by
  obtain ⟨r', hread, rfl⟩ := Option.map_eq_some_iff.mp h
  exact ⟨r', hread, rfl⟩

theorem bare_of_isHexDigit {c : CodePoint} (h : isHexDigit c = true) : Quotes.Bare c := by
  simp only [isHexDigit, isAsciiDigit, Bool.or_eq_true, Bool.and_eq_true, decide_eq_true_eq] at h
  refine ⟨?_, ?_, by omega⟩
  · rintro rfl
    exact absurd h (by decide)
  · rintro rfl
    exact absurd h (by decide)

theorem ascii_of_unescape {c d : CodePoint} (h : unescape c = some d) : c.val < 128 := by
  obtain ⟨e, he, -⟩ := Option.map_eq_some_iff.mp h
  have hletters : ∀ e ∈ backslash, e.1.val < 128 := forall_mem_of_all (by decide)
  have hmatch := List.find?_some he
  have hc : e.1 = c := of_decide_eq_true hmatch
  exact hc ▸ hletters e (List.mem_of_find?_eq_some he)

/-- What a string consumes leads outside from where it begins. -/
theorem consumed_of_scanString {mode : StringMode} {s : PyStr}
    {r : List (CodePoint × Bool) × PyStr} (h : scanString mode s = some r) :
    ∃ piece, s = piece ++ r.2 ∧ mode.quotes.run piece = .outside ∧ piece ≠ [] := by
  have hcons {q q' : Quotes} {c : CodePoint} {s : PyStr}
      {r r' : List (CodePoint × Bool) × PyStr} (hrest : r.2 = r'.2) (hstep : q.step c = q')
      (ih : ∃ piece, s = piece ++ r'.2 ∧ q'.run piece = .outside ∧ piece ≠ []) :
      ∃ piece, c :: s = piece ++ r.2 ∧ q.run piece = .outside ∧ piece ≠ [] := by
    obtain ⟨piece, rfl, hrun, -⟩ := ih
    refine ⟨c :: piece, by rw [hrest, List.cons_append], ?_, by simp⟩
    rw [Quotes.run_cons, hstep]
    exact hrun
  induction s generalizing mode r with
  | nil => cases mode <;> cases h
  | cons c s ih =>
    cases mode with
    | plain =>
      unfold scanString at h
      split at h
      next hquote =>
        obtain rfl := Option.some.inj h
        have hclose : Quotes.step .inside c = .outside := if_pos hquote
        exact ⟨[c], rfl, hclose, by simp⟩
      next hquote =>
        split at h
        next hslash =>
          have hescape : Quotes.step .inside c = .escaped :=
            (if_neg hquote).trans (if_pos hslash)
          exact hcons rfl hescape (ih h)
        next hslash =>
          split at h
          next => cases h
          next =>
            obtain ⟨r', hread, hrest⟩ := eq_of_pushChar h
            exact hcons hrest (Quotes.step_inside hquote hslash) (ih hread)
    | escape =>
      unfold scanString at h
      split at h
      next hu =>
        have hstep : Quotes.step .escaped c = .inside := by
          rw [hu]
          rfl
        exact hcons rfl hstep (ih h)
      next =>
        split at h
        next d hd =>
          obtain ⟨r', hread, hrest⟩ := eq_of_pushChar h
          have hascii := ascii_of_unescape hd
          have hstep : Quotes.step .escaped c = .inside := if_neg (by omega)
          exact hcons hrest hstep (ih hread)
        next => cases h
    | hex left value =>
      unfold scanString at h
      split at h
      next => cases h
      next hhex =>
        obtain ⟨hquote, hslash, -⟩ := bare_of_isHexDigit (Bool.not_eq_false _ ▸ hhex)
        have hstay := Quotes.step_inside hquote hslash
        cases left with
        | zero =>
          obtain ⟨r', hread, hrest⟩ := eq_of_pushChar h
          exact hcons hrest hstay (ih hread)
        | succ left => exact hcons rfl hstay (ih h)

theorem consumes_of_scanString {s : PyStr} {r : List (CodePoint × Bool) × PyStr}
    (h : scanString .plain s = some r) : Consumes (ch '"' :: s) r.2 := by
  obtain ⟨piece, rfl, hrun, -⟩ := consumed_of_scanString h
  refine ⟨⟨ch '"' :: piece, rfl, hrun⟩, ?_⟩
  rw [List.length_cons, List.length_append]
  omega

theorem consumes_of_scanLiteral {s : PyStr} {r : Json × PyStr} (h : scanLiteral s = some r) :
    Consumes s r.2 := by
  obtain ⟨l, hl, rfl⟩ := Option.map_eq_some_iff.mp h
  have hmatch := List.find?_some hl
  obtain ⟨rest, rfl⟩ := List.isPrefixOf_iff_prefix.mp hmatch
  have hliterals : ∀ l ∈ literals, 0 < l.1.length ∧ Quotes.outside.run l.1 = .outside := by decide
  obtain ⟨hlength, hrun⟩ := hliterals l (List.mem_of_find?_eq_some hl)
  dsimp only
  rw [List.drop_left]
  refine ⟨⟨l.1, rfl, hrun⟩, ?_⟩
  rw [List.length_append]
  omega

theorem bare_of_isAsciiDigit {c : CodePoint} (h : isAsciiDigit c = true) : Quotes.Bare c := by
  refine bare_of_isHexDigit ?_
  unfold isHexDigit
  rw [h]
  rfl

theorem passes_spanDigits (s : PyStr) : Passes s (spanDigits s).2 := by
  refine ⟨(spanDigits s).1, List.takeWhile_append_dropWhile.symm, ?_⟩
  exact Quotes.run_of_bare fun c hc => bare_of_isAsciiDigit (List.mem_takeWhile_imp hc)

theorem consumes_of_scanInteger {s : PyStr} {r : PyStr × PyStr} (h : scanInteger s = some r) :
    Consumes s r.2 := by
  have hspan : s = (spanDigits s).1 ++ (spanDigits s).2 := List.takeWhile_append_dropWhile.symm
  have hdigits : ∀ c ∈ (spanDigits s).1, isAsciiDigit c = true :=
    fun c hc => List.mem_takeWhile_imp hc
  unfold scanInteger at h
  generalize spanDigits s = span at *
  obtain ⟨digits, rest⟩ := span
  cases digits with
  | nil => cases h
  | cons d digits =>
    have hd := bare_of_isAsciiDigit (hdigits d (by simp))
    change (if d = ch '0' then some ([d], digits ++ rest) else some (d :: digits, rest))
      = some r at h
    rw [hspan, List.cons_append]
    refine (consumes_of_bare hd _).trans ?_
    split at h
    · obtain rfl := Option.some.inj h
      exact Passes.refl _
    · obtain rfl := Option.some.inj h
      exact passes_of_bare fun c hc => bare_of_isAsciiDigit (hdigits c (by simp [hc]))

theorem passes_scanFraction (s : PyStr) : Passes s (scanFraction s).2 := by
  unfold scanFraction
  split
  next => exact Passes.refl _
  next t ht =>
    split
    · exact Passes.refl _
    · obtain rfl := eq_cons_of_expect ht
      exact (consumes_of_bare (by decide) t).1.trans (passes_spanDigits t)

theorem passes_scanExponent (s : PyStr) : Passes s (scanExponent s).2 := by
  cases s with
  | nil => exact Passes.refl _
  | cons e t =>
    unfold scanExponent
    dsimp only
    split
    · exact Passes.refl _
    next he =>
      split
      · have hbare : Quotes.Bare e := by
          have he : e = ch 'e' ∨ e = ch 'E' := by
            by_contra hne
            exact he (not_or.mp hne)
          rcases he with rfl | rfl <;> decide
        refine (consumes_of_bare hbare t).1.trans (Passes.trans ?_ (passes_spanDigits _))
        · refine ⟨t.takeWhile fun c => c = ch '+' || c = ch '-',
            List.takeWhile_append_dropWhile.symm, Quotes.run_of_bare fun c hc => ?_⟩
          have hsign : c = ch '+' ∨ c = ch '-' := by
            simpa using List.mem_takeWhile_imp hc
          rcases hsign with rfl | rfl <;> decide
      · exact Passes.refl _

variable {floatOf : PyStr → Option ℚ}

theorem consumes_of_scanNumber {s : PyStr} {r : Json × PyStr} (h : scanNumber floatOf s = some r) :
    Consumes s r.2 := by
  have hminus : Passes s ((expect (ch '-') s).getD s) := by
    cases hexpect : expect (ch '-') s with
    | none => exact Passes.refl _
    | some t =>
      obtain rfl := eq_cons_of_expect hexpect
      exact (consumes_of_bare (by decide) t).1
  unfold scanNumber at h
  dsimp only at h
  split at h
  next => cases h
  next digits rest hinteger =>
    have hrest : Consumes s (scanExponent (scanFraction rest).2).2 :=
      (hminus.consumes (consumes_of_scanInteger hinteger)).trans
        ((passes_scanFraction rest).trans (passes_scanExponent _))
    split at h
    · split at h
      · cases h
      · obtain rfl := Option.some.inj h
        exact hrest
    · obtain rfl := Option.some.inj h
      exact hrest

/-! ## 3. Values -/

/-- One function of the reader for each kind, so one statement for each. -/
structure Consuming (floatOf : PyStr → Option ℚ) (n : Nat) : Prop where
  value : ∀ {s r}, scanValue floatOf n s = some r → Consumes s r.2
  items : ∀ {s r}, scanItems floatOf n s = some r → Consumes s r.2
  members : ∀ {s r}, scanMembers floatOf n s = some r → Consumes s r.2

theorem consumes_cons {c : CodePoint} (hc : Quotes.Bare c) {s t : PyStr}
    (h : Passes (skipSpace s) t) : Consumes (c :: s) t :=
  (consumes_of_bare hc s).trans ((passes_skipSpace s).trans h)

theorem consuming_value {n : Nat} (ih : Consuming floatOf n) {s : PyStr} {r : Json × PyStr}
    (h : scanValue floatOf (n + 1) s = some r) : Consumes s r.2 := by
  cases s with
  | nil => cases h
  | cons c rest =>
    unfold scanValue at h
    split at h
    next hquote =>
      obtain ⟨r', hread, rfl⟩ := Option.map_eq_some_iff.mp h
      rw [hquote]
      exact consumes_of_scanString hread
    next =>
    split at h
    next hc =>
      have hbare : Quotes.Bare c := by
        rw [hc]
        decide
      split at h
      next rest' hclose =>
        obtain rfl := Option.some.inj h
        refine consumes_cons hbare ?_
        rw [eq_cons_of_expect hclose]
        exact (consumes_of_bare (by decide) rest').1
      next =>
        obtain ⟨r', hread, rfl⟩ := Option.map_eq_some_iff.mp h
        exact consumes_cons hbare (ih.items hread).1
    next =>
    split at h
    next hc =>
      have hbare : Quotes.Bare c := by
        rw [hc]
        decide
      split at h
      next rest' hclose =>
        obtain rfl := Option.some.inj h
        refine consumes_cons hbare ?_
        rw [eq_cons_of_expect hclose]
        exact (consumes_of_bare (by decide) rest').1
      next =>
        obtain ⟨r', hread, rfl⟩ := Option.map_eq_some_iff.mp h
        exact consumes_cons hbare (ih.members hread).1
    next =>
      rcases Option.or_eq_some_iff.mp h with h | ⟨-, h⟩
      · exact consumes_of_scanLiteral h
      · exact consumes_of_scanNumber h

theorem consuming_items {n : Nat} (ih : Consuming floatOf n) {s : PyStr}
    {r : List Json × PyStr} (h : scanItems floatOf (n + 1) s = some r) : Consumes s r.2 := by
  unfold scanItems at h
  obtain ⟨⟨value, rest⟩, hvalue, h⟩ := Option.bind_eq_some_iff.mp h
  refine (ih.value hvalue).trans ((passes_skipSpace rest).trans ?_)
  dsimp only at h ⊢
  generalize skipSpace rest = behind at h ⊢
  cases behind with
  | nil => cases h
  | cons c rest' =>
    dsimp only at h
    split at h
    next hc =>
      obtain rfl := Option.some.inj h
      rw [hc]
      exact (consumes_of_bare (by decide) rest').1
    next =>
    split at h
    next hc =>
      obtain ⟨r', hread, rfl⟩ := Option.map_eq_some_iff.mp h
      rw [hc]
      exact (consumes_cons (by decide) (ih.items hread).1).1
    next => cases h

theorem consuming_members {n : Nat} (ih : Consuming floatOf n) {s : PyStr}
    {r : List (PyStr × Json) × PyStr} (h : scanMembers floatOf (n + 1) s = some r) :
    Consumes s r.2 := by
  unfold scanMembers at h
  obtain ⟨opened, hopened, h⟩ := Option.bind_eq_some_iff.mp h
  obtain ⟨⟨key, behindKey⟩, hkey, h⟩ := Option.bind_eq_some_iff.mp h
  obtain ⟨behind, hbehind, h⟩ := Option.bind_eq_some_iff.mp h
  obtain ⟨⟨value, rest⟩, hvalue, h⟩ := Option.bind_eq_some_iff.mp h
  have hcolon : Passes behindKey rest := by
    refine (passes_skipSpace behindKey).trans ?_
    rw [eq_cons_of_expect hbehind]
    exact (consumes_cons (by decide) (ih.value hvalue).1).1
  rw [eq_cons_of_expect hopened]
  refine (consumes_of_scanString hkey).trans (hcolon.trans ((passes_skipSpace rest).trans ?_))
  dsimp only at h ⊢
  generalize skipSpace rest = remains at h ⊢
  cases remains with
  | nil => cases h
  | cons c rest' =>
    dsimp only at h
    split at h
    next hc =>
      obtain rfl := Option.some.inj h
      rw [hc]
      exact (consumes_of_bare (by decide) rest').1
    next =>
    split at h
    next hc =>
      obtain ⟨r', hread, rfl⟩ := Option.map_eq_some_iff.mp h
      rw [hc]
      exact (consumes_cons (by decide) (ih.members hread).1).1
    next => cases h

variable (floatOf) in
theorem consuming (n : Nat) : Consuming floatOf n := by
  induction n with
  | zero => exact ⟨nofun, nofun, nofun⟩
  | succ n ih => exact ⟨consuming_value ih, consuming_items ih, consuming_members ih⟩

/-! ## 4. Whole texts -/

/-- **A JSON text closes every string that it opens.** -/
theorem outside_of_loads {s : PyStr} {v : Json} (h : loads floatOf s = some v) :
    Quotes.outside.run s = .outside := by
  unfold loads at h
  split at h
  next => cases h
  next =>
  split at h
  next value rest hvalue =>
    split at h
    next hend =>
      have hpasses : Passes s [] := by
        refine (passes_skipSpace s).trans (((consuming floatOf _).value hvalue).1.trans ?_)
        rw [← hend]
        exact passes_skipSpace rest
      obtain ⟨piece, hpiece, hrun⟩ := hpasses
      rwa [hpiece, List.append_nil]
    next => cases h
  next => cases h

/-- **What is behind a character beyond ASCII is not a JSON text.**  The character stands inside a
string, and that string is closed behind it. -/
theorem loads_tail_eq_none {s tail : PyStr} {c : CodePoint} {v : Json} (hc : 128 ≤ c.val)
    (h : loads floatOf (s ++ c :: tail) = some v) : loads floatOf tail = none := by
  obtain ⟨-, hinside⟩ := Quotes.inside_of_run hc (outside_of_loads h)
  cases htail : loads floatOf tail with
  | none => rfl
  | some v' => exact absurd ⟨outside_of_loads htail, hinside⟩ (Quotes.not_outside_twice tail)

/-! ## 5. Fuel

Between two calls at one place of the text at most one unit of fuel is spent without a character
being consumed, so twice the length of the text is enough. -/

/-- What is read with any fuel is read with this much. -/
structure Enough (floatOf : PyStr → Option ℚ) (n : Nat) : Prop where
  value : ∀ {s r m}, scanValue floatOf n s = some r → 2 * s.length ≤ m →
    scanValue floatOf m s = some r
  items : ∀ {s r m}, scanItems floatOf n s = some r → 2 * s.length + 1 ≤ m →
    scanItems floatOf m s = some r
  members : ∀ {s r m}, scanMembers floatOf n s = some r → 2 * s.length + 1 ≤ m →
    scanMembers floatOf m s = some r

theorem length_skipSpace_le (s : PyStr) : (skipSpace s).length ≤ s.length :=
  (passes_skipSpace s).length_le

theorem enough_value {n : Nat} (ih : Enough floatOf n) {s : PyStr} {r : Json × PyStr} {m : Nat}
    (h : scanValue floatOf (n + 1) s = some r) (hm : 2 * s.length ≤ m) :
    scanValue floatOf m s = some r := by
  cases s with
  | nil => cases h
  | cons c rest =>
    have hrest := length_skipSpace_le rest
    rw [List.length_cons] at hm
    obtain ⟨m, rfl⟩ : ∃ k, m = k + 1 := ⟨m - 1, by omega⟩
    unfold scanValue at h ⊢
    by_cases hquote : c = ch '"'
    · rwa [if_pos hquote] at h ⊢
    · rw [if_neg hquote] at h ⊢
      by_cases harray : c = ch '['
      · rw [if_pos harray] at h ⊢
        cases hclose : expect (ch ']') (skipSpace rest) with
        | some rest' => rwa [hclose] at h
        | none =>
          rw [hclose] at h
          obtain ⟨r', hread, rfl⟩ := Option.map_eq_some_iff.mp h
          exact Option.map_eq_some_iff.mpr ⟨r', ih.items hread (by omega), rfl⟩
      · rw [if_neg harray] at h ⊢
        by_cases hobject : c = ch '\x7b'
        · rw [if_pos hobject] at h ⊢
          cases hclose : expect (ch '\x7d') (skipSpace rest) with
          | some rest' => rwa [hclose] at h
          | none =>
            rw [hclose] at h
            obtain ⟨r', hread, rfl⟩ := Option.map_eq_some_iff.mp h
            exact Option.map_eq_some_iff.mpr ⟨r', ih.members hread (by omega), rfl⟩
        · rwa [if_neg hobject] at h ⊢

theorem enough_items {n : Nat} (ih : Enough floatOf n) {s : PyStr} {r : List Json × PyStr}
    {m : Nat} (h : scanItems floatOf (n + 1) s = some r) (hm : 2 * s.length + 1 ≤ m) :
    scanItems floatOf m s = some r := by
  obtain ⟨m, rfl⟩ : ∃ k, m = k + 1 := ⟨m - 1, by omega⟩
  unfold scanItems at h ⊢
  obtain ⟨⟨value, rest⟩, hvalue, h⟩ := Option.bind_eq_some_iff.mp h
  refine Option.bind_eq_some_iff.mpr ⟨(value, rest), ih.value hvalue (by omega), ?_⟩
  have hlength := ((consuming floatOf n).value hvalue).2
  have hskip := length_skipSpace_le rest
  dsimp only at h hlength ⊢
  generalize skipSpace rest = behind at h hskip ⊢
  cases behind with
  | nil => cases h
  | cons c rest' =>
    dsimp only at h ⊢
    have hskip' := length_skipSpace_le rest'
    rw [List.length_cons] at hskip
    by_cases hclose : c = ch ']'
    · rwa [if_pos hclose] at h ⊢
    · rw [if_neg hclose] at h ⊢
      by_cases hcomma : c = ch ','
      · rw [if_pos hcomma] at h ⊢
        obtain ⟨r', hread, rfl⟩ := Option.map_eq_some_iff.mp h
        exact Option.map_eq_some_iff.mpr ⟨r', ih.items hread (by omega), rfl⟩
      · rw [if_neg hcomma] at h
        cases h

theorem enough_members {n : Nat} (ih : Enough floatOf n) {s : PyStr}
    {r : List (PyStr × Json) × PyStr} {m : Nat} (h : scanMembers floatOf (n + 1) s = some r)
    (hm : 2 * s.length + 1 ≤ m) : scanMembers floatOf m s = some r := by
  obtain ⟨m, rfl⟩ : ∃ k, m = k + 1 := ⟨m - 1, by omega⟩
  unfold scanMembers at h ⊢
  obtain ⟨opened, hopened, h⟩ := Option.bind_eq_some_iff.mp h
  obtain ⟨⟨key, behindKey⟩, hkey, h⟩ := Option.bind_eq_some_iff.mp h
  obtain ⟨behind, hbehind, h⟩ := Option.bind_eq_some_iff.mp h
  obtain ⟨⟨value, rest⟩, hvalue, h⟩ := Option.bind_eq_some_iff.mp h
  have hlength : behindKey.length < s.length := by
    rw [eq_cons_of_expect hopened]
    exact (consumes_of_scanString hkey).2
  have hcolon := length_skipSpace_le behindKey
  rw [eq_cons_of_expect hbehind, List.length_cons] at hcolon
  have hbehindSkip := length_skipSpace_le behind
  have hconsumed := ((consuming floatOf n).value hvalue).2
  refine Option.bind_eq_some_iff.mpr ⟨opened, hopened, Option.bind_eq_some_iff.mpr
    ⟨(key, behindKey), hkey, Option.bind_eq_some_iff.mpr ⟨behind, hbehind,
      Option.bind_eq_some_iff.mpr ⟨(value, rest), ih.value hvalue (by omega), ?_⟩⟩⟩⟩
  have hskip := length_skipSpace_le rest
  dsimp only at h hconsumed ⊢
  generalize skipSpace rest = remains at h hskip ⊢
  cases remains with
  | nil => cases h
  | cons c rest' =>
    dsimp only at h ⊢
    have hskip' := length_skipSpace_le rest'
    rw [List.length_cons] at hskip
    by_cases hclose : c = ch '\x7d'
    · rwa [if_pos hclose] at h ⊢
    · rw [if_neg hclose] at h ⊢
      by_cases hcomma : c = ch ','
      · rw [if_pos hcomma] at h ⊢
        obtain ⟨r', hread, rfl⟩ := Option.map_eq_some_iff.mp h
        exact Option.map_eq_some_iff.mpr ⟨r', ih.members hread (by omega), rfl⟩
      · rw [if_neg hcomma] at h
        cases h

variable (floatOf) in
theorem enough (n : Nat) : Enough floatOf n := by
  induction n with
  | zero => exact ⟨nofun, nofun, nofun⟩
  | succ n ih => exact ⟨enough_value ih, enough_items ih, enough_members ih⟩

/-- **`loads` never runs out of fuel.**  A text that is a value, read with any fuel, is loaded. -/
theorem loads_fuel {s : PyStr} {n : Nat} {v : Json} {rest : PyStr}
    (hmark : s.head? ≠ some 0xfeff) (h : scanValue floatOf n (skipSpace s) = some (v, rest))
    (hend : skipSpace rest = []) : loads floatOf s = some v := by
  have hlength := length_skipSpace_le s
  unfold loads
  rw [if_neg hmark, (enough floatOf n).value h (by omega)]
  exact if_pos hend

end ZtPlanet.Python
