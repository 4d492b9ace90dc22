/-
# The layout of a rule script

White space and comments stand between the words of a script.  `Lexes` says which words a script
has, and which one it ends in without a blank behind it.  `compile_of_lexes`: scripts of the same
words are compiled to the same, or refused for the same reason; the layout has only to do with
where.

The last word is treated by itself in the source, so a line end behind it can matter.  It does not,
unless the word opens a block inside another one (`compile_lineEnd`): such a block stays empty, and
all the blocks around it are lost with it.
-/
import ZtPlanet.Ztnet.RulePositions

namespace ZtPlanet.Ztnet.RuleCompiler

open ZtPlanet.Js ZtPlanet.Lib

/-! ## 1. Words and layout -/

/-- A carriage return or a line feed. -/
def endsLine (u : UInt16) : Bool := u == 13 || u == 10

/-- A word: no blanks, and no `#` at its front. -/
structure Unbroken (word : JsString) : Prop where
  ne_nil : word ≠ []
  noComment : word.head? ≠ some 35
  noBlank : ∀ u ∈ word, isBlank u = false

/-- **The words of a script**, and the one that stands at its end. -/
inductive Lexes : JsString → List JsString → JsString → Prop
  | done : Lexes [] [] []
  | blank {u : UInt16} {src last : JsString} {words : List JsString} (hu : isBlank u = true)
      (h : Lexes src words last) : Lexes (u :: src) words last
  | comment {u : UInt16} {text src last : JsString} {words : List JsString}
      (htext : ∀ v ∈ text, endsLine v = false) (hu : endsLine u = true) (h : Lexes src words last) :
      Lexes (35 :: (text ++ u :: src)) words last
  | lastComment {text : JsString} (htext : ∀ v ∈ text, endsLine v = false) :
      Lexes (35 :: text) [] []
  | word {u : UInt16} {word src last : JsString} {words : List JsString} (hword : Unbroken word)
      (hu : isBlank u = true) (h : Lexes src words last) :
      Lexes (word ++ u :: src) (word :: words) last
  | lastWord {word : JsString} (hword : Unbroken word) : Lexes word [] word

/-- A text up to the first unit of a kind, and what is behind it. -/
theorem exists_span (p : UInt16 → Bool) (s : JsString) :
    (∀ u ∈ s, p u = false) ∨
      ∃ before u after, s = before ++ u :: after ∧ (∀ v ∈ before, p v = false) ∧ p u = true := by
  induction s with
  | nil => exact .inl (List.forall_mem_nil _)
  | cons v s ih =>
    cases hv : p v with
    | true => exact .inr ⟨[], v, s, rfl, List.forall_mem_nil _, hv⟩
    | false =>
      rcases ih with hnone | ⟨before, u, after, rfl, hbefore, hu⟩
      · exact .inl (List.forall_mem_cons.mpr ⟨hv, hnone⟩)
      · exact .inr ⟨v :: before, u, after, rfl, List.forall_mem_cons.mpr ⟨hv, hbefore⟩, hu⟩

/-- Every script has its words. -/
theorem exists_lexes (src : JsString) : ∃ words last, Lexes src words last := by
  induction hlength : src.length using Nat.strong_induction_on generalizing src with
  | h length ih =>
    subst hlength
    cases src with
    | nil => exact ⟨[], [], .done⟩
    | cons v src =>
      by_cases hblank : isBlank v = true
      · obtain ⟨words, last, h⟩ := ih _ (Nat.lt_succ_self _) src rfl
        exact ⟨words, last, .blank hblank h⟩
      by_cases hcomment : v = 35
      · subst hcomment
        rcases exists_span endsLine src with hnone | ⟨before, u, after, rfl, hbefore, hu⟩
        · exact ⟨[], [], .lastComment hnone⟩
        · obtain ⟨words, last, h⟩ := ih after.length (by simp; omega) after rfl
          exact ⟨words, last, .comment hbefore hu h⟩
      · rcases exists_span isBlank (v :: src) with hnone | ⟨before, u, after, hsrc, hbefore, hu⟩
        · exact ⟨[], v :: src, .lastWord ⟨List.cons_ne_nil _ _, by simpa using hcomment, hnone⟩⟩
        · cases before with
          | nil =>
            cases hsrc
            exact absurd hu hblank
          | cons w before =>
            cases hsrc
            obtain ⟨words, last, h⟩ := ih after.length (by simp; omega) after rfl
            have hword : Unbroken (v :: before) :=
              ⟨List.cons_ne_nil _ _, by simpa using hcomment, hbefore⟩
            exact ⟨(v :: before) :: words, last, .word hword hu h⟩

/-! ## 2. Blocks -/

/-- A position that says nothing. -/
abbrev unplaced {π : Type} : π → Unit := fun _ => ()

/-- The elements of the innermost block, and those of the blocks around it. -/
abbrev Blocks : Type := List (Elem Unit) × List (List (Elem Unit))

/-- A word that is not empty. -/
def pushWord (top : List (Elem Unit)) (text : JsString) : List (Elem Unit) :=
  if text = [] then top else top ++ [.token ⟨text, ()⟩]

/-- What a word does to the blocks. -/
def addWord (blocks : Blocks) (word : JsString) : Blocks :=
  let (text, endOfBlock) := dropSemicolon word
  let top := pushWord blocks.1 text
  match blocks.2 with
  | parent :: below =>
    if endOfBlock && !top.isEmpty then (parent ++ [.block top], below)
    else if opensBlock text then ([], top :: parent :: below)
    else (top, parent :: below)
  | [] => if opensBlock text then ([], [top]) else (top, [])

/-- The tree of some words and of the one at the end. -/
def treeOf (blocks : Blocks) (words : List JsString) (last : JsString) : List (Elem Unit) :=
  let blocks := words.foldl addWord blocks
  closeBlocks (pushWord blocks.1 (dropSemicolon last).1) blocks.2

/-- The blocks of the scanner. -/
def Scan.blocks (s : Scan) : Blocks :=
  (s.top.map (Elem.map unplaced), s.below.map (List.map (Elem.map unplaced)))

theorem closeBlocks_map {π ρ : Type} (f : π → ρ) (top : List (Elem π))
    (below : List (List (Elem π))) :
    (closeBlocks top below).map (Elem.map f) =
      closeBlocks (top.map (Elem.map f)) (below.map (List.map (Elem.map f))) := by
  induction below generalizing top with
  | nil => rfl
  | cons parent below ih =>
    rw [List.map_cons, closeBlocks, closeBlocks, List.isEmpty_map]
    split
    · rw [← List.map_cons, List.getLast?_map]
      cases (parent :: below).getLast? with
      | none => rfl
      | some elems => rfl
    · rw [ih, List.map_append, List.map_singleton, Elem.map]

theorem pushWord_map (top : List (Elem Position)) (text : JsString) (start : Position) :
    (if text = [] then top else top ++ [.token ⟨text, start⟩]).map (Elem.map unplaced) =
      pushWord (top.map (Elem.map unplaced)) text := by
  unfold pushWord
  split
  · rfl
  · rw [List.map_append, List.map_singleton, Elem.map]

/-! ## 3. The scanner -/

/-- The scanner is between two words. -/
def Scan.Between (s : Scan) : Prop := s.text = [] ∧ s.skipRestOfLine = false

theorem Scan.blocks_endWord {s : Scan} (hs : s.text ≠ []) :
    s.endWord.blocks = addWord s.blocks s.text ∧ s.endWord.text = [] ∧
      s.endWord.skipRestOfLine = s.skipRestOfLine := by
  obtain ⟨top, below, text, start, skip, lineNo, lineIdx⟩ := s
  have htop := pushWord_map top (dropSemicolon text).1 start
  have hempty : (pushWord (top.map (Elem.map unplaced)) (dropSemicolon text).1).isEmpty =
      (if (dropSemicolon text).1 = [] then top
        else top ++ [.token ⟨(dropSemicolon text).1, start⟩]).isEmpty := by
    rw [← htop, List.isEmpty_map]
  unfold Scan.endWord addWord Scan.blocks
  rw [if_neg hs]
  dsimp only
  rw [hempty, ← htop]
  generalize (if (dropSemicolon text).1 = [] then top
    else top ++ [.token ⟨(dropSemicolon text).1, start⟩]) = top'
  cases below with
  | nil =>
    dsimp only
    split
    · exact ⟨rfl, rfl, rfl⟩
    · exact ⟨rfl, rfl, rfl⟩
  | cons parent below =>
    rw [List.map_cons]
    dsimp only
    split
    · refine ⟨?_, rfl, rfl⟩
      rw [List.map_append, List.map_singleton, Elem.map]
    · split
      · exact ⟨rfl, rfl, rfl⟩
      · exact ⟨rfl, rfl, rfl⟩

/-- A comment, up to the end of its line. -/
theorem Scan.foldl_comment {text : JsString} (htext : ∀ v ∈ text, endsLine v = false) {s : Scan}
    (hs : s.skipRestOfLine = true) :
    ∃ lineIdx, text.foldl Scan.next s = { s with lineIdx := lineIdx } := by
  induction text generalizing s with
  | nil => exact ⟨s.lineIdx, rfl⟩
  | cons v text ih =>
    obtain ⟨hv, hrest⟩ := List.forall_mem_cons.mp htext
    have hend : ¬(v = 13 ∨ v = 10) := by simpa [endsLine] using hv
    have hnext : s.next v = { s with lineIdx := s.lineIdx + 1 } := by
      unfold Scan.next
      rw [if_pos hs, if_neg hend]
    rw [List.foldl_cons, hnext]
    exact ih hrest hs

/-- The units of a word are collected. -/
theorem Scan.foldl_word {word : JsString} (hword : ∀ u ∈ word, isBlank u = false) {s : Scan}
    (hs : s.skipRestOfLine = false) (hfirst : s.text = [] → word.head? ≠ some 35) :
    ∃ start lineIdx, word.foldl Scan.next s =
      { s with text := s.text ++ word, start := start, lineIdx := lineIdx } := by
  induction word generalizing s with
  | nil => exact ⟨s.start, s.lineIdx, by rw [List.append_nil]; rfl⟩
  | cons u word ih =>
    obtain ⟨hu, hrest⟩ := List.forall_mem_cons.mp hword
    have hnext : s.next u = { s with
        text := s.text ++ [u]
        start := if s.text = [] then (s.lineNo, s.lineIdx) else s.start
        lineIdx := s.lineIdx + 1 } := by
      unfold Scan.next
      rw [if_neg (by simp [hs]), if_neg (by simp [hu]), if_neg]
      rintro ⟨htext, rfl⟩
      exact hfirst htext rfl
    obtain ⟨start, lineIdx, hfold⟩ := ih hrest (s := s.next u) (by rw [hnext]; exact hs) (by
      rw [hnext]
      intro htext
      exact absurd htext (by simp))
    refine ⟨start, lineIdx, ?_⟩
    rw [List.foldl_cons, hfold, hnext]
    simp

/-- A blank ends a word. -/
theorem Scan.next_blank {s : Scan} (hs : s.skipRestOfLine = false) {u : UInt16}
    (hu : isBlank u = true) :
    ∃ t : Scan, ∃ lineIdx, s.next u = { t.endWord with lineIdx := lineIdx } ∧
      t.blocks = s.blocks ∧ t.text = s.text ∧ t.skipRestOfLine = false := by
  unfold Scan.next
  rw [if_neg (by simp [hs]), if_pos hu]
  split
  · exact ⟨_, _, rfl, rfl, rfl, hs⟩
  · exact ⟨_, _, rfl, rfl, rfl, hs⟩

/-- What the scanner makes of the rest of a script. -/
def Scan.finish (s : Scan) (src : JsString) : List (Elem Unit) :=
  let s := src.foldl Scan.next s
  (closeBlocks s.lastWord s.below).map (Elem.map unplaced)

/-- **The scanner adds the words of a script**, one after the other. -/
theorem Scan.finish_of_lexes {src last : JsString} {words : List JsString}
    (h : Lexes src words last) :
    ∀ {s : Scan}, s.Between → s.finish src = treeOf s.blocks words last := by
  have hlast : ∀ s : Scan, (closeBlocks s.lastWord s.below).map (Elem.map unplaced) =
      closeBlocks (pushWord s.blocks.1 (dropSemicolon s.text).1) s.blocks.2 := by
    intro s
    rw [closeBlocks_map]
    unfold Scan.lastWord
    dsimp only
    rw [pushWord_map]
    rfl
  induction h with
  | done =>
    intro s hs
    unfold Scan.finish treeOf
    rw [List.foldl_nil, hlast, hs.1]
    rfl
  | @blank u src last words hu h ih =>
    intro s hs
    obtain ⟨t, lineIdx, hnext, hblocks, htext, hskip⟩ := Scan.next_blank hs.2 hu
    have hend : t.endWord = t := if_pos (htext.trans hs.1)
    have hbetween : (s.next u).Between ∧ (s.next u).blocks = s.blocks := by
      rw [hnext, hend]
      exact ⟨⟨htext.trans hs.1, hskip⟩, hblocks⟩
    rw [← hbetween.2]
    exact ih hbetween.1
  | @comment u text src last words htext hu h ih =>
    intro s hs
    have hsharp : s.next 35 = { s with skipRestOfLine := true, lineIdx := s.lineIdx + 1 } := by
      unfold Scan.next
      rw [if_neg (by simp [hs.2]), if_neg (by decide), if_pos ⟨hs.1, rfl⟩]
    obtain ⟨lineIdx, hfold⟩ := Scan.foldl_comment (s := s.next 35) htext (by rw [hsharp])
    have hend : u = 13 ∨ u = 10 := by simpa [endsLine] using hu
    have hline : Scan.next ((text.foldl Scan.next (s.next 35))) u =
        { s with lineNo := s.lineNo + 1, lineIdx := 1 } := by
      rw [hfold, hsharp]
      unfold Scan.next
      rw [if_pos rfl, if_pos hend]
      obtain ⟨-, hskip⟩ := hs
      rw [← hskip]
    have hrest : s.finish (35 :: (text ++ u :: src)) =
        Scan.finish { s with lineNo := s.lineNo + 1, lineIdx := 1 } src := by
      unfold Scan.finish
      rw [List.foldl_cons, List.foldl_append, List.foldl_cons, hline]
    rw [hrest]
    exact ih hs
  | @lastComment text htext =>
    intro s hs
    have hsharp : s.next 35 = { s with skipRestOfLine := true, lineIdx := s.lineIdx + 1 } := by
      unfold Scan.next
      rw [if_neg (by simp [hs.2]), if_neg (by decide), if_pos ⟨hs.1, rfl⟩]
    obtain ⟨lineIdx, hfold⟩ := Scan.foldl_comment (s := s.next 35) htext (by rw [hsharp])
    unfold Scan.finish treeOf
    rw [List.foldl_cons, hfold, hsharp, hlast]
    dsimp only
    rw [hs.1]
    rfl
  | @word u word src last words hword hu h ih =>
    intro s hs
    obtain ⟨start, lineIdx, hfold⟩ :=
      Scan.foldl_word hword.noBlank hs.2 fun _ => hword.noComment
    rw [hs.1, List.nil_append] at hfold
    have hscanned : (word.foldl Scan.next s).text = word ∧
        (word.foldl Scan.next s).skipRestOfLine = false ∧
          (word.foldl Scan.next s).blocks = s.blocks := by
      rw [hfold]
      exact ⟨rfl, hs.2, rfl⟩
    obtain ⟨t, lineIdx, hnext, hblocks, htext, hskip⟩ := Scan.next_blank hscanned.2.1 hu
    rw [hscanned.1] at htext
    obtain ⟨hadd, hnil, hskip'⟩ := Scan.blocks_endWord (htext ▸ hword.ne_nil : t.text ≠ [])
    have hbetween : ((word.foldl Scan.next s).next u).Between ∧
        ((word.foldl Scan.next s).next u).blocks = addWord s.blocks word := by
      rw [hnext]
      refine ⟨⟨hnil, hskip'.trans hskip⟩, ?_⟩
      rw [← hscanned.2.2, ← hblocks, ← htext]
      exact hadd
    have hrest : s.finish (word ++ u :: src) = ((word.foldl Scan.next s).next u).finish src := by
      unfold Scan.finish
      rw [List.foldl_append, List.foldl_cons]
    rw [hrest, ih hbetween.1, hbetween.2]
    rfl
  | @lastWord word hword =>
    intro s hs
    obtain ⟨start, lineIdx, hfold⟩ :=
      Scan.foldl_word hword.noBlank hs.2 fun _ => hword.noComment
    rw [hs.1, List.nil_append] at hfold
    unfold Scan.finish treeOf
    rw [hfold, hlast]
    rfl

theorem parse_of_lexes {src last : JsString} {words : List JsString} (h : Lexes src words last) :
    (parse src).map (Elem.map unplaced) = treeOf ([], []) words last :=
  Scan.finish_of_lexes h (s := Scan.initial) ⟨rfl, rfl⟩

/-! ## 4. Scripts of the same words -/

variable {unicode : Unicode} {depth : Nat}

/-- What a script is compiled to, or why it is refused, without where. -/
def compileAnywhere (unicode : Unicode) (depth : Nat) (src : JsString) :
    Except (Failure Unit) Compiled :=
  relocate unplaced id (compile unicode depth src)

theorem compileAnywhere_of_lexes {src last : JsString} {words : List JsString}
    (h : Lexes src words last) :
    compileAnywhere unicode depth src = compileTree unicode depth (treeOf ([], []) words last) := by
  rw [← parse_of_lexes h, compileTree_map]
  rfl

/-- **The layout of a script does not matter.** -/
theorem compile_of_lexes {src src' last : JsString} {words : List JsString}
    (h : Lexes src words last) (h' : Lexes src' words last) :
    compileAnywhere unicode depth src = compileAnywhere unicode depth src' := by
  rw [compileAnywhere_of_lexes h, compileAnywhere_of_lexes h']

/-- Words with a blank behind each, in front of a script. -/
theorem Lexes.spaced {u : UInt16} (hu : isBlank u = true) {src last : JsString}
    {words words' : List JsString} (hwords : ∀ word ∈ words, Unbroken word)
    (h : Lexes src words' last) :
    Lexes (words.flatMap (fun word => word ++ [u]) ++ src) (words ++ words') last := by
  induction words with
  | nil => exact h
  | cons word words ih =>
    have hrest := ih fun word' hword' => hwords word' (List.mem_cons_of_mem _ hword')
    have hword := Lexes.word (hwords word List.mem_cons_self) hu hrest
    rw [List.flatMap_cons, List.append_assoc, List.append_assoc]
    exact hword

/-- What makes a word, as a check. -/
theorem unbroken_of_check {word : JsString}
    (h : (!word.isEmpty && word.head? != some 35 && word.all fun u => !isBlank u) = true) :
    Unbroken word := by
  simp only [Bool.and_eq_true, Bool.not_eq_true', List.isEmpty_eq_false_iff, bne_iff_ne,
    List.all_eq_true] at h
  exact ⟨h.1.1, h.1.2, h.2⟩

theorem sampleWords_unbroken : ∀ word ∈ sampleWords, Unbroken word := by
  have hall : (sampleWords.all fun word =>
      !word.isEmpty && word.head? != some 35 && word.all fun u => !isBlank u) = true := by
    decide +kernel
  exact fun word hword => unbroken_of_check (List.all_eq_true.mp hall word hword)

theorem drop_lexes : Lexes (js "drop") [] (js "drop") :=
  .lastWord (unbroken_of_check (by decide +kernel))

/-- The script with its words one behind the other, and with each on a line of its own behind a
comment. -/
theorem sample_layout : compileAnywhere asciiCase 2 sampleScript =
    compileAnywhere asciiCase 2 (35 :: (js " rules" ++ 10 ::
      (sampleWords.flatMap (fun word => word ++ [10]) ++ js "drop"))) := by
  have htext : (js " rules").all (fun u => !endsLine u) = true := by decide +kernel
  refine compile_of_lexes (drop_lexes.spaced rfl sampleWords_unbroken)
    (.comment (fun v hv => ?_) rfl (drop_lexes.spaced rfl sampleWords_unbroken))
  simpa using List.all_eq_true.mp htext v hv

/-! ## 5. A line end behind the last word -/

theorem Lexes.lineEnd {src last : JsString} {words : List JsString} (h : Lexes src words last) :
    Lexes (src ++ [10]) (words ++ if last = [] then [] else [last]) [] := by
  induction h with
  | done => exact .blank rfl .done
  | blank hu _ ih => exact .blank hu ih
  | @comment u text src last words htext hu _ ih =>
    rw [List.cons_append, List.append_assoc, List.cons_append]
    exact .comment htext hu ih
  | lastComment htext => exact .comment htext rfl .done
  | @word u word src last words hword hu _ ih =>
    rw [List.append_assoc, List.cons_append]
    exact .word hword hu ih
  | lastWord hword =>
    rw [if_neg hword.ne_nil]
    exact .word hword rfl .done

/-- The blocks around what stands behind some words. -/
def enclosing (words : List JsString) : List (List (Elem Unit)) :=
  (words.foldl addWord ([], [])).2

theorem opensBlock_nil : opensBlock [] = false := by decide +kernel

theorem dropSemicolon_of_false {word : JsString} (h : (dropSemicolon word).2 = false) :
    (dropSemicolon word).1 = word := by
  unfold dropSemicolon at h ⊢
  split at h
  · cases h
  · rename_i hlast
    rw [if_neg hlast]

/-- The last word may be ended, unless it opens a block inside another one. -/
theorem treeOf_concat {words : List JsString} {last : JsString}
    (hlast : opensBlock last = true → enclosing words = []) :
    treeOf ([], []) (words ++ [last]) [] = treeOf ([], []) words last := by
  unfold treeOf
  unfold enclosing at hlast
  rw [List.foldl_append, List.foldl_cons, List.foldl_nil]
  generalize words.foldl addWord ([], []) = blocks at hlast
  obtain ⟨top, below⟩ := blocks
  have hnil : ∀ elems : List (Elem Unit), pushWord elems (dropSemicolon []).1 = elems :=
    fun _ => rfl
  dsimp only
  rw [hnil]
  unfold addWord
  dsimp only
  cases below with
  | nil =>
    dsimp only
    split
    · rfl
    · rfl
  | cons parent below =>
    dsimp only
    split
    · rename_i hclose
      have hne : (pushWord top (dropSemicolon last).1).isEmpty = false := by
        rw [Bool.and_eq_true, Bool.not_eq_true'] at hclose
        exact hclose.2
      rw [closeBlocks, if_neg (by simp [hne])]
    · rename_i hclose
      split
      · rename_i hopens
        exfalso
        cases hend : (dropSemicolon last).2 with
        | false =>
          rw [dropSemicolon_of_false hend] at hopens
          exact absurd (hlast hopens) (List.cons_ne_nil _ _)
        | true =>
          have hempty : (dropSemicolon last).1 = [] := by
            by_contra hne
            exact hclose (by simp [hend, pushWord, hne])
          rw [hempty, opensBlock_nil] at hopens
          cases hopens
      · rfl

/-- **A line end at the end of a script** does not matter, unless the last word opens a block inside
another one. -/
theorem compile_lineEnd {src last : JsString} {words : List JsString} (h : Lexes src words last)
    (hlast : opensBlock last = true → enclosing words = []) :
    compileAnywhere unicode depth (src ++ [10]) = compileAnywhere unicode depth src := by
  rw [compileAnywhere_of_lexes h.lineEnd, compileAnywhere_of_lexes h]
  split
  · rename_i hnil
    rw [List.append_nil, hnil]
  · rw [treeOf_concat hlast]

/-- The last word opens a block, and it is the outermost one. -/
theorem sample_lineEnd : compileAnywhere asciiCase 2 (sampleScript ++ [10]) =
    compileAnywhere asciiCase 2 sampleScript :=
  compile_lineEnd (drop_lexes.spaced rfl sampleWords_unbroken) fun _ => by decide +kernel

/-- A capability is lost with the block that its last word opens. -/
example : Returns (compile asciiCase 1 (js "cap a id 1 accept")) ∧
    ¬Returns (compile asciiCase 1 (js "cap a id 1 accept" ++ [10])) := by decide +kernel

end ZtPlanet.Ztnet.RuleCompiler
