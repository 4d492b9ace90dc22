/-
# What a rule script means

A script says what happens to a packet: its statements are gone through in order, the rules of a
macro in the place of its `include`, and an action is carried out where its condition holds, up to
the first one that decides.  A condition is read from left to right, each match joined to what
stands in front of it by `and` or `or`.  `Holds` and `Runs` say this about the tree, and know
nothing of lists of rules.

A word of a condition that is a property of every object of JavaScript (`constructor`) passes for a
match without arguments.  It tests nothing, and takes a `not` or an `or` in front of it away.

The compiled rules are run by the node with one bit instead (`FilterChain`).  The node is not a part
of this repository: what it does is a parameter, an `Engine`, of which nothing is used but that it
runs chains with one bit.  Which actions end the evaluation of a packet is up to the packet.
`compile_preserves_meaning` says that the rules carry out what the script says, on every packet; the
compiler has put no test behind the last action of a list, so nothing of one statement reaches the
next.
-/
import ZtPlanet.Ztnet.RuleCompiler

namespace ZtPlanet.Ztnet.RuleCompiler

open ZtPlanet.Js ZtPlanet.Lib ZtPlanet.Lib.FilterChain

variable {π : Type}

/-! ## 1. Statements -/

/-- What there is to know about a packet: the matches that it satisfies, and the actions that end
its evaluation where they are carried out. -/
structure Packet where
  satisfies : Match → Bool
  decides : Action → Bool

/-- The words that join matches. -/
def isConnective (word : JsString) : Prop :=
  word = [] ∨ word = js "and" ∨ word = js "not" ∨ word = js "or"

/-- A word and its arguments, with what is behind them, make a match. -/
inductive Matches (unicode : Unicode) (tags : Dict JsString Tag) (params : Dict JsString JsString) :
    List (Elem π) → Match → List (Elem π) → Prop
  | one {e a : Elem π} {es : List (Elem π)} {word : MatchWord} {arg : JsString} {m : Match}
      (hjoin : ¬isConnective (e.lowered unicode))
      (hword : matchWords.find? (e.lowered unicode) = some word) (htwo : word.takesTwo = false)
      (harg : argument params e a = .ok arg)
      (hm : renderMatch unicode tags word arg [] = .ok m) :
      Matches unicode tags params (e :: a :: es) m es
  | two {e a a' : Elem π} {es : List (Elem π)} {word : MatchWord} {arg arg' : JsString} {m : Match}
      (hjoin : ¬isConnective (e.lowered unicode))
      (hword : matchWords.find? (e.lowered unicode) = some word) (htwo : word.takesTwo = true)
      (harg : argument params e a = .ok arg) (harg' : argument params a a' = .ok arg')
      (hm : renderMatch unicode tags word arg arg' = .ok m) :
      Matches unicode tags params (e :: a :: a' :: es) m es

/-- What a condition comes to, behind the bit that stands for what is in front of it. -/
inductive Holds (unicode : Unicode) (tags : Dict JsString Tag) (params : Dict JsString JsString)
    (packet : Packet) : Bool → Bool → Bool → List (Elem π) → Bool → Prop
  | done {bit not or : Bool} : Holds unicode tags params packet bit not or [] bit
  | and {bit not or b : Bool} {e : Elem π} {es : List (Elem π)}
      (hword : e.lowered unicode = [] ∨ e.lowered unicode = js "and")
      (h : Holds unicode tags params packet bit not or es b) :
      Holds unicode tags params packet bit not or (e :: es) b
  | not {bit not or b : Bool} {e : Elem π} {es : List (Elem π)}
      (hword : e.lowered unicode = js "not")
      (h : Holds unicode tags params packet bit true or es b) :
      Holds unicode tags params packet bit not or (e :: es) b
  | or {bit not or b : Bool} {e : Elem π} {es : List (Elem π)}
      (hword : e.lowered unicode = js "or")
      (h : Holds unicode tags params packet bit not true es b) :
      Holds unicode tags params packet bit not or (e :: es) b
  | inherited {bit not or b : Bool} {e : Elem π} {es : List (Elem π)}
      (hjoin : ¬isConnective (e.lowered unicode))
      (hword : matchWords.find? (e.lowered unicode) = none)
      (hinherited : isInherited (e.lowered unicode) = true)
      (h : Holds unicode tags params packet bit false false es b) :
      Holds unicode tags params packet bit not or (e :: es) b
  | test {bit not or b : Bool} {es es' : List (Elem π)} {m : Match}
      (hm : Matches unicode tags params es m es')
      (h : Holds unicode tags params packet
        (combine packet.satisfies bit not or m) false false es' b) :
      Holds unicode tags params packet bit not or es b

/-- A word, with what is behind it, is an action and its condition, in front of further statements.
-/
inductive Guards (unicode : Unicode) : Elem π → List (Elem π) → List (Elem π) → Action →
    List (Elem π) → Prop
  | plain {e m : Elem π} {mtree es : List (Elem π)} {a : Action}
      (hword : e.lowered unicode ≠ [] ∧ e.lowered unicode ≠ js "include")
      (ha : plainActions.find? (e.lowered unicode) = some a) :
      Guards unicode e (.block (m :: mtree) :: es) (m :: mtree) a es
  | alone {e : Elem π} {es : List (Elem π)} {a : Action}
      (hword : e.lowered unicode ≠ [] ∧ e.lowered unicode ≠ js "include")
      (ha : plainActions.find? (e.lowered unicode) = some a)
      (hes : ∀ m mtree es', es ≠ .block (m :: mtree) :: es') : Guards unicode e es [] a es
  | copy {e m t : Elem π} {mtree es : List (Elem π)} {a : Action} {target : JsString}
      (hword : e.lowered unicode ≠ [] ∧ e.lowered unicode ≠ js "include")
      (hplain : plainActions.find? (e.lowered unicode) = none)
      (ha : e.lowered unicode = js "tee" ∧ a = .tee target (m.num unicode) ∨
        e.lowered unicode ≠ js "tee" ∧ e.lowered unicode = js "watch" ∧
          a = .watch target (m.num unicode))
      (hm : 2 ≤ m.length) (hlength : -1 ≤ m.num unicode ∧ m.num unicode ≤ 0xffff)
      (ht : actionTarget t = some target) :
        Guards unicode e (.block (m :: t :: mtree) :: es) mtree a es
  | redirect {e t : Elem π} {mtree es : List (Elem π)} {target : JsString}
      (hword : e.lowered unicode ≠ [] ∧ e.lowered unicode ≠ js "include")
      (hplain : plainActions.find? (e.lowered unicode) = none)
      (ha : ¬(e.lowered unicode = js "tee" ∨ e.lowered unicode = js "watch") ∧
        e.lowered unicode = js "redirect")
      (hm : 1 ≤ t.length) (ht : actionTarget t = some target) :
      Guards unicode e (.block (t :: mtree) :: es) mtree (.redirect target) es

/-- An `include` and its name stand for a macro with some parameters. -/
def Expands (unicode : Unicode) (macros : Dict JsString (Macro π)) (e name : Elem π) (m : Macro π)
    (bound : Dict JsString JsString) : Prop :=
  e.lowered unicode = js "include" ∧ ∃ text, name.text? = some text ∧
    macros.get? (splitCall text).1 = some m ∧
      macroParams m.params ((splitCall text).2.filter fun text => !text.isEmpty) = some bound

/-- **The meaning of statements**: what they carry out for a packet. -/
inductive Runs (unicode : Unicode) (macros : Dict JsString (Macro π)) (tags : Dict JsString Tag)
    (packet : Packet) : Dict JsString JsString → List (Elem π) → Outcome Action → Prop
  | done {params : Dict JsString JsString} : Runs unicode macros tags packet params [] .skip
  | skip {params : Dict JsString JsString} {e : Elem π} {es : List (Elem π)} {o : Outcome Action}
      (hword : e.lowered unicode = []) (h : Runs unicode macros tags packet params es o) :
      Runs unicode macros tags packet params (e :: es) o
  | expand {params bound : Dict JsString JsString} {e name : Elem π} {m : Macro π}
      {es : List (Elem π)} {o o' : Outcome Action} (he : Expands unicode macros e name m bound)
      (hm : Runs unicode macros tags packet bound m.rules o)
      (h : Runs unicode macros tags packet params es o') :
      Runs unicode macros tags packet params (e :: name :: es) (o.andThen o')
  | guarded {params : Dict JsString JsString} {e : Elem π}
      {es mtree es' : List (Elem π)} {a : Action}
      {b : Bool} {o : Outcome Action} (ha : Guards unicode e es mtree a es')
      (hb : Holds unicode tags params packet true false false mtree b)
      (h : Runs unicode macros tags packet params es' o) :
      Runs unicode macros tags packet params (e :: es) ((perform packet.decides b a).andThen o)

/-! ## 2. What the compiler does with a condition -/

variable {unicode : Unicode} {macros : Dict JsString (Macro π)} {tags : Dict JsString Tag}
  {params : Dict JsString JsString} {packet : Packet}

theorem refuse_ne_ok {α : Type} {e : Elem π} {message : String} {a : α} :
    (refuse e message : Except (Failure π) α) ≠ .ok a := by
  intro h
  cases h

theorem matchRule_ok_iff {not or : Bool} {word : MatchWord} {e e' : Elem π} {arg arg' : JsString}
    {rule : Rule} :
    matchRule unicode tags not or word e e' arg arg' = .ok rule ↔
      ∃ m, renderMatch unicode tags word arg arg' = .ok m ∧ rule = .test not or m := by
  unfold matchRule
  cases hm : renderMatch unicode tags word arg arg' with
  | ok m =>
    constructor
    · intro h
      cases h
      exact ⟨m, rfl, rfl⟩
    · rintro ⟨m', hm', rfl⟩
      cases hm'
      rfl
  | error failure =>
    refine iff_of_false (fun h => ?_) ?_
    · cases failure with
      | refused i message => exact refuse_ne_ok h
      | typeError => cases h
    · rintro ⟨m, hm', -⟩
      cases hm'

/-- The three words that join matches are different. -/
theorem connectives_ne : js "not" ≠ [] ∧ js "not" ≠ js "and" ∧ js "or" ≠ [] ∧ js "or" ≠ js "and" ∧
    js "or" ≠ js "not" := by decide

section

variable {not or : Bool} {e : Elem π} {es es' : List (Elem π)} {m : Match}

theorem not_connective (hjoin : ¬isConnective (e.lowered unicode)) :
    ¬(e.lowered unicode = [] ∨ e.lowered unicode = js "and") ∧ e.lowered unicode ≠ js "not" ∧
      e.lowered unicode ≠ js "or" := by
  unfold isConnective at hjoin
  tauto

theorem renderMatches_and (hword : e.lowered unicode = [] ∨ e.lowered unicode = js "and") :
    renderMatches unicode tags params not or (e :: es) =
      renderMatches unicode tags params not or es := by
  rw [renderMatches, if_pos hword]

theorem renderMatches_not (hword : e.lowered unicode = js "not") :
    renderMatches unicode tags params not or (e :: es) =
      renderMatches unicode tags params true or es := by
  obtain ⟨hnil, hand, -⟩ := connectives_ne
  rw [renderMatches, if_neg (by rw [hword]; tauto), if_pos hword]

theorem renderMatches_or (hword : e.lowered unicode = js "or") :
    renderMatches unicode tags params not or (e :: es) =
      renderMatches unicode tags params not true es := by
  obtain ⟨-, -, hnil, hand, hnot⟩ := connectives_ne
  rw [renderMatches, if_neg (by rw [hword]; tauto),
    if_neg (by rw [hword]; exact hnot), if_pos hword]

theorem renderMatches_inherited (hjoin : ¬isConnective (e.lowered unicode))
    (hword : matchWords.find? (e.lowered unicode) = none)
    (hinherited : isInherited (e.lowered unicode) = true) :
    renderMatches unicode tags params not or (e :: es) =
      renderMatches unicode tags params false false es := by
  obtain ⟨hand, hnot, hor⟩ := not_connective hjoin
  rw [renderMatches, if_neg hand, if_neg hnot, if_neg hor]
  simp only [hword, hinherited, if_true]

theorem renderMatches_test (hm : Matches unicode tags params es m es') :
    renderMatches unicode tags params not or es =
      (renderMatches unicode tags params false false es').map (.test not or m :: ·) := by
  cases hm with
  | one hjoin hword htwo harg hm =>
    rename_i e a word arg
    obtain ⟨hand, hnot, hor⟩ := not_connective hjoin
    have hrule : matchRule unicode tags not or word a a arg [] = .ok (.test not or m) :=
      matchRule_ok_iff.mpr ⟨m, hm, rfl⟩
    rw [renderMatches, if_neg hand, if_neg hnot, if_neg hor]
    simp only [hword, harg, htwo, Bool.false_eq_true, if_false, bind, Except.bind, hrule]
    cases renderMatches unicode tags params false false es' with
    | ok rest => rfl
    | error failure => rfl
  | two hjoin hword htwo harg harg' hm =>
    rename_i e a a' word arg arg'
    obtain ⟨hand, hnot, hor⟩ := not_connective hjoin
    have hrule : matchRule unicode tags not or word a a' arg arg' = .ok (.test not or m) :=
      matchRule_ok_iff.mpr ⟨m, hm, rfl⟩
    rw [renderMatches, if_neg hand, if_neg hnot, if_neg hor]
    simp only [hword, harg, harg', htwo, if_true, bind, Except.bind, hrule]
    cases renderMatches unicode tags params false false es' with
    | ok rest => rfl
    | error failure => rfl

/-- **The first step over a condition** that the compiler accepts. -/
theorem renderMatches_cons {rules : List Rule}
    (h : renderMatches unicode tags params not or (e :: es) = .ok rules) :
    (e.lowered unicode = [] ∨ e.lowered unicode = js "and") ∨ e.lowered unicode = js "not" ∨
      e.lowered unicode = js "or" ∨
      (¬isConnective (e.lowered unicode) ∧ matchWords.find? (e.lowered unicode) = none ∧
        isInherited (e.lowered unicode) = true) ∨
      ∃ m es', Matches unicode tags params (e :: es) m es' := by
  rw [renderMatches] at h
  by_cases hand : e.lowered unicode = [] ∨ e.lowered unicode = js "and"
  · exact .inl hand
  by_cases hn : e.lowered unicode = js "not"
  · exact .inr (.inl hn)
  by_cases ho : e.lowered unicode = js "or"
  · exact .inr (.inr (.inl ho))
  rw [if_neg hand, if_neg hn, if_neg ho] at h
  have hjoin : ¬isConnective (e.lowered unicode) := by
    rintro (hw | hw | hw | hw)
    · exact hand (.inl hw)
    · exact hand (.inr hw)
    · exact hn hw
    · exact ho hw
  refine .inr (.inr (.inr ?_))
  cases hword : matchWords.find? (e.lowered unicode) with
  | none =>
    simp only [hword] at h
    by_cases hinherited : isInherited (e.lowered unicode) = true
    · exact .inl ⟨hjoin, rfl, hinherited⟩
    · rw [if_neg hinherited] at h
      cases h
  | some word =>
    simp only [hword] at h
    cases es with
    | nil => exact absurd h refuse_ne_ok
    | cons a es =>
      obtain ⟨arg, harg, h⟩ := bind_ok_iff.mp h
      by_cases htwo : word.takesTwo = true
      · rw [if_pos htwo] at h
        cases es with
        | nil => exact absurd h refuse_ne_ok
        | cons a' es =>
          obtain ⟨arg', harg', h⟩ := bind_ok_iff.mp h
          obtain ⟨rule, hrule, -⟩ := bind_ok_iff.mp h
          obtain ⟨m, hm, -⟩ := matchRule_ok_iff.mp hrule
          exact .inr ⟨m, es, .two hjoin hword htwo harg harg' hm⟩
      · rw [if_neg htwo] at h
        obtain ⟨rule, hrule, -⟩ := bind_ok_iff.mp h
        obtain ⟨m, hm, -⟩ := matchRule_ok_iff.mp hrule
        exact .inr ⟨m, es, .one hjoin hword (by simpa using htwo) harg hm⟩

theorem Matches.length_lt (hm : Matches unicode tags params es m es') : es'.length < es.length := by
  cases hm with
  | one =>
    simp only [List.length_cons]
    omega
  | two =>
    simp only [List.length_cons]
    omega

end

/-- A condition that the compiler accepts is a list of tests, and holds where they do. -/
theorem exists_tests_of_renderMatches {es : List (Elem π)} {not or : Bool} {rules : List Rule}
    (h : renderMatches unicode tags params not or es = .ok rules) :
    ∃ tests : List (Test Match), rules = tests.map Test.instr ∧
      ∀ (packet : Packet) (bit : Bool),
        Holds unicode tags params packet bit not or es (holdsFrom packet.satisfies bit tests) := by
  induction hlength : es.length using Nat.strong_induction_on generalizing es not or rules with
  | h length ih =>
    subst hlength
    cases es with
    | nil =>
      cases h
      exact ⟨[], rfl, fun packet bit => .done⟩
    | cons e es =>
      have hes : es.length < (e :: es).length := Nat.lt_succ_self _
      rcases renderMatches_cons h with hand | hn | ho | ⟨hjoin, hword, hinherited⟩ | ⟨m, es', hm⟩
      · rw [renderMatches_and hand] at h
        obtain ⟨tests, rfl, hholds⟩ := ih _ hes h rfl
        exact ⟨tests, rfl, fun packet bit => .and hand (hholds packet bit)⟩
      · rw [renderMatches_not hn] at h
        obtain ⟨tests, rfl, hholds⟩ := ih _ hes h rfl
        exact ⟨tests, rfl, fun packet bit => .not hn (hholds packet bit)⟩
      · rw [renderMatches_or ho] at h
        obtain ⟨tests, rfl, hholds⟩ := ih _ hes h rfl
        exact ⟨tests, rfl, fun packet bit => .or ho (hholds packet bit)⟩
      · rw [renderMatches_inherited hjoin hword hinherited] at h
        obtain ⟨tests, rfl, hholds⟩ := ih _ hes h rfl
        exact ⟨tests, rfl, fun packet bit => .inherited hjoin hword hinherited (hholds packet bit)⟩
      · rw [renderMatches_test hm, map_ok_iff] at h
        obtain ⟨rest, hrest, rfl⟩ := h
        obtain ⟨tests, rfl, hholds⟩ := ih _ hm.length_lt hrest rfl
        exact ⟨⟨not, or, m⟩ :: tests, rfl, fun packet bit => .test hm (hholds packet _)⟩

/-- It holds only where they do. -/
theorem Holds.eq_holdsFrom {bit not or b : Bool} {es : List (Elem π)}
    (h : Holds unicode tags params packet bit not or es b) {tests : List (Test Match)}
    (hrender : renderMatches unicode tags params not or es = .ok (tests.map Test.instr)) :
    b = holdsFrom packet.satisfies bit tests := by
  induction h generalizing tests with
  | done =>
    cases tests with
    | nil => rfl
    | cons t tests => cases hrender
  | and hword _ ih => exact ih (renderMatches_and hword ▸ hrender)
  | not hword _ ih => exact ih (renderMatches_not hword ▸ hrender)
  | or hword _ ih => exact ih (renderMatches_or hword ▸ hrender)
  | inherited hjoin hword hinherited _ ih =>
    exact ih (renderMatches_inherited hjoin hword hinherited ▸ hrender)
  | test hm _ ih =>
    rw [renderMatches_test hm, map_ok_iff] at hrender
    obtain ⟨rest, hrest, heq⟩ := hrender
    cases tests with
    | nil => cases heq
    | cons t tests =>
      cases heq
      exact ih hrest

/-! ## 3. What the compiler does with statements -/

section

variable {call : Dict JsString JsString → List (Elem π) → Except (Failure π) (List Rule)}
  {e : Elem π} {es : List (Elem π)}

theorem renderActionsWith_skip (hword : e.lowered unicode = []) :
    renderActionsWith unicode macros tags params call (e :: es) =
      renderActionsWith unicode macros tags params call es := by
  rw [renderActionsWith.eq_def]
  exact if_pos hword

theorem renderActionsWith_expand {name : Elem π} {m : Macro π} {bound : Dict JsString JsString}
    (he : Expands unicode macros e name m bound) :
    renderActionsWith unicode macros tags params call (e :: name :: es) = do
      let rules ← call bound m.rules
      return rules ++ (← renderActionsWith unicode macros tags params call es) := by
  obtain ⟨hword, text, htext, hm, hbound⟩ := he
  have hnil : e.lowered unicode ≠ [] := by
    rw [hword]
    decide
  rw [renderActionsWith.eq_def]
  dsimp only
  rw [if_neg hnil, if_pos hword]
  simp only [htext, hm, hbound]

theorem renderActionsWith_guarded {mtree es' : List (Elem π)} {a : Action}
    (ha : Guards unicode e es mtree a es') :
    renderActionsWith unicode macros tags params call (e :: es) = do
      let rules ← renderMatches unicode tags params false false mtree
      return rules ++ .act a :: (← renderActionsWith unicode macros tags params call es') := by
  cases ha with
  | plain hword ha =>
    rw [renderActionsWith.eq_def]
    dsimp only
    rw [if_neg hword.1, if_neg hword.2]
    simp only [ha]
  | alone hword ha hes =>
    rw [renderActionsWith.eq_def]
    dsimp only
    rw [if_neg hword.1, if_neg hword.2]
    simp only [ha]
    rfl
  | @copy m t _ _ _ target hword hplain ha hm hlength ht =>
    have haction : e.lowered unicode = js "tee" ∨ e.lowered unicode = js "watch" := by tauto
    have ha' : (if e.lowered unicode = js "tee" then Action.tee target (m.num unicode)
        else .watch target (m.num unicode)) = a := by
      rcases ha with ⟨htee, rfl⟩ | ⟨htee, -, rfl⟩
      · exact if_pos htee
      · exact if_neg htee
    rw [renderActionsWith.eq_def]
    dsimp only
    rw [if_neg hword.1, if_neg hword.2]
    simp only [hplain, if_pos haction, if_neg (Nat.not_lt.mpr hm), ht, ha',
      if_neg (show ¬(m.num unicode < -1 ∨ m.num unicode > 0xffff) by omega)]
  | redirect hword hplain ha hm ht =>
    rw [renderActionsWith.eq_def]
    dsimp only
    rw [if_neg hword.1, if_neg hword.2]
    simp only [hplain, if_neg ha.1, if_pos ha.2, if_neg (Nat.not_lt.mpr hm), ht]

/-- **The first step over statements** that the compiler accepts. -/
theorem renderActionsWith_cons {rules : List Rule}
    (h : renderActionsWith unicode macros tags params call (e :: es) = .ok rules) :
    e.lowered unicode = [] ∨
      (∃ name es' m bound, es = name :: es' ∧ Expands unicode macros e name m bound) ∨
      ∃ mtree a es', Guards unicode e es mtree a es' := by
  rw [renderActionsWith.eq_def] at h
  dsimp only at h
  by_cases hnil : e.lowered unicode = []
  · exact .inl hnil
  rw [if_neg hnil] at h
  by_cases hinclude : e.lowered unicode = js "include"
  · rw [if_pos hinclude] at h
    refine .inr (.inl ?_)
    cases es with
    | nil => exact absurd h refuse_ne_ok
    | cons name es =>
      cases htext : name.text? with
      | none =>
        simp only [htext] at h
        exact absurd h refuse_ne_ok
      | some text =>
        simp only [htext] at h
        cases hm : macros.get? (splitCall text).1 with
        | none =>
          simp only [hm] at h
          by_cases hinherited : isInherited (splitCall text).1 = true
          · rw [if_pos hinherited] at h
            cases h
          · rw [if_neg hinherited] at h
            exact absurd h refuse_ne_ok
        | some m =>
          simp only [hm] at h
          cases hbound : macroParams m.params ((splitCall text).2.filter fun text => !text.isEmpty)
            with
          | none =>
            simp only [hbound] at h
            exact absurd h refuse_ne_ok
          | some bound => exact ⟨name, es, m, bound, rfl, hinclude, text, htext, hm, hbound⟩
  rw [if_neg hinclude] at h
  refine .inr (.inr ?_)
  have hword : e.lowered unicode ≠ [] ∧ e.lowered unicode ≠ js "include" := ⟨hnil, hinclude⟩
  cases hplain : plainActions.find? (e.lowered unicode) with
  | some a =>
    by_cases hblock : ∃ m mtree es', es = .block (m :: mtree) :: es'
    · obtain ⟨m, mtree, es', rfl⟩ := hblock
      exact ⟨_, _, _, .plain hword hplain⟩
    · exact ⟨_, _, _, .alone hword hplain fun m mtree es' hes => hblock ⟨m, mtree, es', hes⟩⟩
  | none =>
    simp only [hplain] at h
    by_cases hcopy : e.lowered unicode = js "tee" ∨ e.lowered unicode = js "watch"
    · rw [if_pos hcopy] at h
      split at h
      · rename_i m mtree es'
        by_cases hm : m.length < 2
        · rw [if_pos hm] at h
          exact absurd h refuse_ne_ok
        rw [if_neg hm] at h
        cases mtree with
        | nil => cases h
        | cons t mtree =>
          dsimp only at h
          by_cases hlength : m.num unicode < -1 ∨ m.num unicode > 0xffff
          · rw [if_pos hlength] at h
            cases h
          rw [if_neg hlength] at h
          cases ht : actionTarget t with
          | none =>
            simp only [ht] at h
            exact absurd h refuse_ne_ok
          | some target =>
            have hlength' : -1 ≤ m.num unicode ∧ m.num unicode ≤ 0xffff := by omega
            by_cases htee : e.lowered unicode = js "tee"
            · exact ⟨_, _, _, .copy hword hplain (.inl ⟨htee, rfl⟩) (Nat.not_lt.mp hm) hlength' ht⟩
            · exact ⟨_, _, _, .copy hword hplain (.inr ⟨htee, hcopy.resolve_left htee, rfl⟩)
                (Nat.not_lt.mp hm) hlength' ht⟩
      · exact absurd h refuse_ne_ok
    rw [if_neg hcopy] at h
    by_cases hredirect : e.lowered unicode = js "redirect"
    · rw [if_pos hredirect] at h
      split at h
      · rename_i t mtree es'
        by_cases hm : t.length < 1
        · rw [if_pos hm] at h
          exact absurd h refuse_ne_ok
        rw [if_neg hm] at h
        cases ht : actionTarget t with
        | none =>
          simp only [ht] at h
          exact absurd h refuse_ne_ok
        | some target =>
          exact ⟨_, _, _, .redirect hword hplain ⟨hcopy, hredirect⟩ (Nat.not_lt.mp hm) ht⟩
      · exact absurd h refuse_ne_ok
    · rw [if_neg hredirect] at h
      exact absurd h refuse_ne_ok

/-- What is behind an action and its condition. -/
theorem Guards.length_le {mtree es' : List (Elem π)} {a : Action}
    (ha : Guards unicode e es mtree a es') : es'.length ≤ es.length := by
  cases ha with
  | alone => exact le_refl _
  | plain => exact Nat.le_succ _
  | copy => exact Nat.le_succ _
  | redirect => exact Nat.le_succ _

end

/-! ## 4. The compiler preserves the meaning -/

/-- What the rules carry out for a packet. -/
def behaviour (packet : Packet) (rules : List Rule) : Outcome Action :=
  carriedOut packet.satisfies packet.decides true rules

/-- The rules are made of blocks, and carry out what the statements say. -/
def Renders (unicode : Unicode) (macros : Dict JsString (Macro π)) (tags : Dict JsString Tag)
    (params : Dict JsString JsString) (tree : List (Elem π)) (rules : List Rule) : Prop :=
  IsBlocks rules ∧ ∀ packet, Runs unicode macros tags packet params tree (behaviour packet rules)

theorem renders_of_renderActionsWith
    {call : Dict JsString JsString → List (Elem π) → Except (Failure π) (List Rule)}
    (hcall : ∀ bound tree rules, call bound tree = .ok rules →
      Renders unicode macros tags bound tree rules) {es : List (Elem π)} {rules : List Rule}
    (h : renderActionsWith unicode macros tags params call es = .ok rules) :
    Renders unicode macros tags params es rules := by
  induction hlength : es.length using Nat.strong_induction_on generalizing es rules with
  | h length ih =>
    subst hlength
    cases es with
    | nil =>
      cases h
      exact ⟨isBlocks_nil, fun packet => .done⟩
    | cons e es =>
      rcases renderActionsWith_cons h
        with hword | ⟨name, es', m, bound, rfl, he⟩ | ⟨mtree, a, es', ha⟩
      · rw [renderActionsWith_skip hword] at h
        obtain ⟨hblocks, hruns⟩ := ih _ (Nat.lt_succ_self _) h rfl
        exact ⟨hblocks, fun packet => .skip hword (hruns packet)⟩
      · rw [renderActionsWith_expand he] at h
        obtain ⟨expanded, hexpanded, h⟩ := bind_ok_iff.mp h
        obtain ⟨rest, hrest, h⟩ := bind_ok_iff.mp h
        cases h
        have hlt : es'.length < (e :: name :: es').length :=
          Nat.lt_trans (Nat.lt_succ_self _) (Nat.lt_succ_self _)
        obtain ⟨hblocks, hruns⟩ := hcall _ _ _ hexpanded
        obtain ⟨hblocks', hruns'⟩ := ih _ hlt hrest rfl
        refine ⟨hblocks.append hblocks', fun packet => ?_⟩
        unfold behaviour
        rw [hblocks.carriedOut_append hblocks']
        exact .expand he (hruns packet) (hruns' packet)
      · rw [renderActionsWith_guarded ha] at h
        obtain ⟨condition, hcondition, h⟩ := bind_ok_iff.mp h
        obtain ⟨rest, hrest, h⟩ := bind_ok_iff.mp h
        cases h
        have hlt : es'.length < (e :: es).length := Nat.lt_succ_of_le ha.length_le
        obtain ⟨tests, rfl, hholds⟩ := exists_tests_of_renderMatches hcondition
        obtain ⟨hblocks, hruns⟩ := ih _ hlt hrest rfl
        have hsplit : tests.map Test.instr ++ .act a :: rest =
            (tests.map Test.instr ++ [.act a]) ++ rest := by simp
        refine ⟨hsplit ▸ (isBlocks_of_tests tests a).append hblocks, fun packet => ?_⟩
        unfold behaviour
        rw [carriedOut_tests]
        exact .guarded ha (hholds packet true) (hruns packet)

theorem renders_of_renderActions {d : Nat} {tree : List (Elem π)} {rules : List Rule}
    (h : renderActions unicode macros tags d params tree = .ok rules) :
    Renders unicode macros tags params tree rules := by
  induction d generalizing params tree rules with
  | zero => cases h
  | succ depth ih => exact renders_of_renderActionsWith (fun bound tree rules => ih) h

/-- **Statements mean one thing**: what the rules carry out. -/
theorem Runs.eq_behaviour {tree : List (Elem π)} {o : Outcome Action}
    (hruns : Runs unicode macros tags packet params tree o) :
    ∀ {d : Nat} {rules : List Rule},
      renderActions unicode macros tags d params tree = .ok rules →
        o = behaviour packet rules := by
  induction hruns with
  | done =>
    intro depth rules h
    cases depth with
    | zero => cases h
    | succ depth =>
      cases h
      rfl
  | skip hword _ ih =>
    intro depth rules h
    cases depth with
    | zero => cases h
    | succ depth =>
      rw [renderActions, renderActionsWith_skip hword] at h
      exact ih (d := depth + 1) h
  | expand he _ _ ihm ih =>
    intro depth rules h
    cases depth with
    | zero => cases h
    | succ depth =>
      rw [renderActions, renderActionsWith_expand he] at h
      obtain ⟨expanded, hexpanded, h⟩ := bind_ok_iff.mp h
      obtain ⟨rest, hrest, h⟩ := bind_ok_iff.mp h
      cases h
      rw [ihm hexpanded, ih (d := depth + 1) hrest]
      unfold behaviour
      have hblocks := (renders_of_renderActions hexpanded).1
      have hblocks' := (renders_of_renderActions (d := depth + 1) hrest).1
      rw [hblocks.carriedOut_append hblocks']
  | guarded ha hb _ ih =>
    intro depth rules h
    cases depth with
    | zero => cases h
    | succ depth =>
      rw [renderActions, renderActionsWith_guarded ha] at h
      obtain ⟨condition, hcondition, h⟩ := bind_ok_iff.mp h
      obtain ⟨rest, hrest, h⟩ := bind_ok_iff.mp h
      cases h
      obtain ⟨tests, rfl, -⟩ := exists_tests_of_renderMatches hcondition
      rw [hb.eq_holdsFrom hcondition, ih (d := depth + 1) hrest]
      unfold behaviour
      rw [carriedOut_tests]
      rfl

/-- The engine of a node: what it carries out of some rules for a packet, from a bit on. -/
structure Engine where
  run : Packet → Bool → List Rule → Outcome Action

/-- The engine goes through the rules with one bit. -/
def Engine.OneBit (engine : Engine) : Prop :=
  ∀ packet : Packet, IsEngine packet.satisfies packet.decides (engine.run packet)

theorem Engine.OneBit.run_eq {engine : Engine} (h : engine.OneBit) (packet : Packet)
    (rules : List Rule) : engine.run packet true rules = behaviour packet rules :=
  (h packet).eq_carriedOut true rules

/-- Statements mean, on every packet, what the engine carries out of the rules, and nothing else. -/
def Means (engine : Engine) (unicode : Unicode) (p : Program π) (tree : List (Elem π))
    (rules : List Rule) : Prop :=
  ∀ packet o,
    Runs unicode p.macros p.tags packet Dict.empty tree o ↔ o = engine.run packet true rules

theorem means_of_renderActions {engine : Engine} (hengine : engine.OneBit) {p : Program π}
    {depth : Nat} {tree : List (Elem π)} {rules : List Rule}
    (h : renderActions unicode p.macros p.tags depth Dict.empty tree = .ok rules) :
    Means engine unicode p tree rules := by
  intro packet o
  rw [hengine.run_eq]
  constructor
  · intro hruns
    exact hruns.eq_behaviour h
  · rintro rfl
    exact (renders_of_renderActions h).2 packet

/-- What the compiler has done with a script that it accepts. -/
theorem compileTree_ok_iff {depth : Nat} {tree : List (Elem π)} {out : Compiled} :
    compileTree unicode depth tree = .ok out ↔
      ∃ p, definitions unicode tree Program.empty = .ok p ∧ out.tags = p.tags ∧
        List.Forall₂ (fun entry cap => renderCap unicode p depth entry = .ok cap)
          p.caps.entries out.caps ∧
        renderActions unicode p.macros p.tags depth Dict.empty p.baseRuleTree = .ok out.rules := by
  unfold compileTree
  rw [bind_ok_iff]
  refine exists_congr fun p => and_congr_right fun _ => ?_
  rw [bind_ok_iff]
  constructor
  · rintro ⟨caps, hcaps, h⟩
    obtain ⟨rules, hrules, h⟩ := bind_ok_iff.mp h
    cases h
    exact ⟨rfl, mapM_ok_iff.mp hcaps, hrules⟩
  · rintro ⟨htags, hcaps, hrules⟩
    refine ⟨out.caps, mapM_ok_iff.mpr hcaps, bind_ok_iff.mpr ⟨out.rules, hrules, ?_⟩⟩
    rw [← htags]
    rfl

/-- **The compiler preserves the meaning of a script**, and of each of its capabilities. -/
theorem compile_preserves_meaning (engine : Engine) (hengine : engine.OneBit) {depth : Nat}
    {src : JsString} {out : Compiled} (h : compile unicode depth src = .ok out) :
    ∃ p, definitions unicode (parse src) Program.empty = .ok p ∧ out.tags = p.tags ∧
      Means engine unicode p p.baseRuleTree out.rules ∧
      List.Forall₂ (fun entry cap => entry.1 = cap.1 ∧ entry.2.id = cap.2.id ∧
        entry.2.default = cap.2.default ∧ Means engine unicode p entry.2.rules cap.2.rules)
        p.caps.entries out.caps := by
  obtain ⟨p, hp, htags, hcaps, hrules⟩ := compileTree_ok_iff.mp h
  refine ⟨p, hp, htags, means_of_renderActions hengine hrules, hcaps.imp ?_⟩
  intro entry cap hcap
  obtain ⟨rules, hrules, hcap⟩ := bind_ok_iff.mp hcap
  cases hcap
  exact ⟨rfl, rfl, rfl, means_of_renderActions hengine hrules⟩

/-- The words of a script with a macro, a tag and a capability.  The last condition has an inherited
word, which opens a block, and takes the `or` in front of it away. -/
def sampleWords : List JsString :=
  ["macro", "web($port)", "accept", "ipprotocol", "tcp", "and", "not", "dport", "$port", "or",
    "ethertype", "arp;", ";", "tag", "dept", "id", "1", "enum", "10", "sales;", "cap",
      "admin", "id",
    "5", "accept", "tdiff", "dept", "sales", "ipsrc", "10.0.0.0/8;", ";", "include",
      "web(80)", "tee",
    "128", "deadbeef01", "macsrc", "02:aB:00:00:00:01", "or", "not", "ztsrc",
      "0123456789;", "break",
    "not", "chr", "tcp_syn", "or", "constructor", "chr;", "random", "0.5;"].map js

/-- The words with a blank behind each, and a last one. -/
def sampleScript : JsString := sampleWords.flatMap (fun word => word ++ [32]) ++ js "drop"

def sampleCompiled : Compiled where
  rules :=
    [.test false false (.number .ipProtocol 6), .test true false (.range .ipDestPort 80 80),
      .test false true (.number .etherType 0x0806), .act .accept,
      .test false false (.mac .source (js "02:ab:00:00:00:01")),
      .test true true (.zerotierAddress .source (js "0123456789")),
      .act (.tee (js "deadbeef01") 128),
      .test true false (.characteristics (js "0000000000000002")),
      .test false false (.random 2147483647), .act .break, .act .drop]
  caps := [(js "admin", ⟨5, false,
    [.test false false (.tags .difference 1 (.number 10)),
      .test false false (.ipv4 .source (js "10.0.0.0/8")), .act .accept]⟩)]
  tags := Dict.empty.set (js "dept") ⟨1, none, Dict.empty.set (js "sales") 10, Dict.empty⟩

theorem compile_sample : compile asciiCase 2 sampleScript = .ok sampleCompiled := by
  decide +kernel

/-- An engine that goes through its rules with one bit. -/
def oneBitEngine : Engine := ⟨fun packet => carriedOut packet.satisfies packet.decides⟩

theorem sample_means : ∃ p : Program Position,
    definitions asciiCase (parse sampleScript) Program.empty = .ok p ∧
      sampleCompiled.tags = p.tags ∧
      Means oneBitEngine asciiCase p p.baseRuleTree sampleCompiled.rules ∧
      List.Forall₂ (fun (entry : JsString × Capability (Elem Position))
          (cap : JsString × Capability Rule) => entry.1 = cap.1 ∧ entry.2.id = cap.2.id ∧
          entry.2.default = cap.2.default ∧
          Means oneBitEngine asciiCase p entry.2.rules cap.2.rules)
        p.caps.entries sampleCompiled.caps :=
  compile_preserves_meaning oneBitEngine (fun _ => isEngine_carriedOut _ _) compile_sample

end ZtPlanet.Ztnet.RuleCompiler
