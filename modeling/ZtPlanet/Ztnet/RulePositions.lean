/-
# Positions

The elements of a tree carry the line and the column that they stand in, for the sake of what is
said about a script that is refused.  Nothing else in the compiler looks at them: `compileTree_map`
says that a tree whose positions are changed is compiled to the same, and is refused where the other
one is, with the changed positions.
-/
import ZtPlanet.Ztnet.RuleMeaning

namespace ZtPlanet.Ztnet.RuleCompiler

open ZtPlanet.Js ZtPlanet.Lib ZtPlanet.Lib.FilterChain

variable {π ρ α β : Type} {unicode : Unicode}

/-! ## 1. Other positions -/

def Elem.map (f : π → ρ) : Elem π → Elem ρ
  | .token t => .token ⟨t.text, f t.position⟩
  | .block elems => .block (elems.map (Elem.map f))

/-- The failure at the other positions. -/
def Failure.map (f : π → ρ) : Failure π → Failure ρ
  | .refused line column message => .refused (line.map f) (column.map f) message
  | .typeError => .typeError
  | .stackOverflow => .stackOverflow

/-- A result with its positions changed. -/
def relocate (f : π → ρ) (g : α → β) : Except (Failure π) α → Except (Failure ρ) β
  | .ok a => .ok (g a)
  | .error failure => .error (failure.map f)

variable {f : π → ρ} {g : α → β}

@[simp] theorem relocate_ok (a : α) : relocate f g (.ok a) = .ok (g a) := rfl

@[simp] theorem relocate_error (failure : Failure π) :
    relocate f g (.error failure) = .error (failure.map f) := rfl

@[simp] theorem relocate_pure (a : α) : relocate f g (pure a) = pure (g a) := rfl

theorem relocate_bind {γ δ : Type} {g' : γ → δ} {x : Except (Failure π) α}
    {k : α → Except (Failure π) γ} {k' : β → Except (Failure ρ) δ}
    (h : ∀ a, relocate f g' (k a) = k' (g a)) :
    relocate f g' (x >>= k) = relocate f g x >>= k' := by
  cases x with
  | ok a => exact h a
  | error failure => rfl

section

variable (e : Elem π)

@[simp] theorem Elem.text?_map : (e.map f).text? = e.text? := by
  cases e with
  | token t => simp [Elem.map, Elem.text?]
  | block elems => simp [Elem.map, Elem.text?]

@[simp] theorem Elem.position?_map : (e.map f).position? = e.position?.map f := by
  cases e with
  | token t => simp [Elem.map, Elem.position?]
  | block elems => simp [Elem.map, Elem.position?]

@[simp] theorem Elem.length_map : (e.map f).length = e.length := by
  cases e with
  | token t => simp [Elem.map, Elem.length]
  | block elems => simp [Elem.map, Elem.length]

@[simp] theorem Elem.lowered_map : (e.map f).lowered unicode = e.lowered unicode := by
  simp [Elem.lowered]

@[simp] theorem Elem.num_map : (e.map f).num unicode = e.num unicode := by
  simp [Elem.num]

@[simp] theorem actionTarget_map : actionTarget (e.map f) = actionTarget e := by
  simp [actionTarget]

@[simp] theorem definedName_map :
    definedName unicode (e.map f) = relocate f id (definedName unicode e) := by
  unfold definedName
  rw [Elem.text?_map]
  cases e.text? with
  | none => rfl
  | some text => rfl

@[simp] theorem relocate_refuse (message : String) :
    relocate f g (refuse e message) = refuse (e.map f) message := by
  simp [refuse, Failure.map]

end

/-! ## 2. Matches -/

theorem argument_map (params : Dict JsString JsString) (before e : Elem π) :
    argument params (before.map f) (e.map f) = relocate f id (argument params before e) := by
  cases e with
  | block elems => simp [Elem.map, argument]
  | token t =>
    simp only [Elem.map, argument]
    split
    · simp
    split
    · split
      · simp [Elem.map]
      · simp
    · simp

theorem matchRule_map (tags : Dict JsString Tag) (not or : Bool) (word : MatchWord) (e e' : Elem π)
    (arg arg' : JsString) :
    matchRule unicode tags not or word (e.map f) (e'.map f) arg arg' =
      relocate f id (matchRule unicode tags not or word e e' arg arg') := by
  unfold matchRule
  split
  · rfl
  · rfl
  · rename_i i message _
    rw [relocate_refuse]
    split
    · rfl
    · rfl

variable {tags : Dict JsString Tag} {params : Dict JsString JsString}

theorem renderMatches_map (not or : Bool) (es : List (Elem π)) :
    renderMatches unicode tags params not or (es.map (Elem.map f)) =
      relocate f id (renderMatches unicode tags params not or es) := by
  fun_induction renderMatches unicode tags params not or es with
  | case1 => rfl
  | case2 not or e es word hand ih =>
    rw [List.map_cons, renderMatches_and (by rwa [Elem.lowered_map])]
    exact ih
  | case3 not or e es word _ hnot ih =>
    rw [List.map_cons, renderMatches_not (by rwa [Elem.lowered_map])]
    exact ih
  | case4 not or e es word _ _ hor ih =>
    rw [List.map_cons, renderMatches_or (by rwa [Elem.lowered_map])]
    exact ih
  | case5 not or e es word hand hnot hor hword hinherited ih =>
    simp only [List.map_cons, renderMatches, Elem.lowered_map]
    rw [if_neg hand, if_neg hnot, if_neg hor, hword]
    exact (if_pos hinherited).trans ih
  | case6 not or e es word hand hnot hor hword hinherited =>
    simp only [List.map_cons, renderMatches, Elem.lowered_map, Elem.position?_map]
    rw [if_neg hand, if_neg hnot, if_neg hor, hword]
    exact if_neg hinherited
  | case7 not or e word hand hnot hor matchWord hword =>
    simp only [List.map_cons, List.map_nil, renderMatches, Elem.lowered_map]
    rw [if_neg hand, if_neg hnot, if_neg hor, hword, relocate_refuse]
  | case8 not or e word hand hnot hor matchWord hword a es ih' ih =>
    simp only [List.map_cons, renderMatches, Elem.lowered_map]
    rw [if_neg hand, if_neg hnot, if_neg hor, hword, argument_map]
    refine (relocate_bind fun arg => ?_).symm
    split
    · cases es with
      | nil => exact relocate_refuse a _
      | cons a' es =>
        rw [List.map_cons]
        dsimp only at ih' ⊢
        rw [argument_map, ih']
        refine relocate_bind fun arg' => ?_
        rw [matchRule_map]
        refine relocate_bind fun rule => relocate_bind fun rest => rfl
    · rw [matchRule_map, ih]
      exact relocate_bind fun rule => relocate_bind fun rest => rfl

/-! ## 3. Statements -/

def Macro.map (f : π → ρ) (m : Macro π) : Macro ρ := ⟨m.params, m.rules.map (Elem.map f)⟩

variable {macros : Dict JsString (Macro π)}

/-- There is no block in front of the elements. -/
theorem map_ne_block {es : List (Elem π)} (hes : ∀ m mtree es', es ≠ .block (m :: mtree) :: es')
    {m : Elem ρ} {mtree es' : List (Elem ρ)} :
    es.map (Elem.map f) ≠ .block (m :: mtree) :: es' := by
  intro hmap
  cases es with
  | nil => cases hmap
  | cons e es =>
    cases e with
    | token t =>
      rw [List.map_cons, Elem.map] at hmap
      cases hmap
    | block elems =>
      rw [List.map_cons, Elem.map] at hmap
      cases elems with
      | nil => cases hmap
      | cons m mtree => exact hes m mtree es rfl

theorem Guards.map {e : Elem π} {es mtree es' : List (Elem π)} {a : Action}
    (ha : Guards unicode e es mtree a es') :
    Guards unicode (e.map f) (es.map (Elem.map f)) (mtree.map (Elem.map f)) a
      (es'.map (Elem.map f)) := by
  cases ha with
  | plain hword ha =>
    simp only [List.map_cons, Elem.map]
    exact .plain (by rwa [Elem.lowered_map]) (by rwa [Elem.lowered_map])
  | alone hword ha hes =>
    refine .alone (by rwa [Elem.lowered_map]) (by rwa [Elem.lowered_map]) ?_
    intro m mtree es' hmap
    exact absurd hmap (map_ne_block hes)
  | copy hword hplain ha hm hlength ht =>
    simp only [List.map_cons, Elem.map]
    refine .copy (by rwa [Elem.lowered_map]) (by rwa [Elem.lowered_map]) ?_
      (by rwa [Elem.length_map])
      (by rwa [Elem.num_map]) (by rwa [actionTarget_map])
    rwa [Elem.lowered_map, Elem.num_map]
  | redirect hword hplain ha hm ht =>
    simp only [List.map_cons, Elem.map]
    exact .redirect (by rwa [Elem.lowered_map]) (by rwa [Elem.lowered_map])
      (by rwa [Elem.lowered_map]) (by rwa [Elem.length_map]) (by rwa [actionTarget_map])

theorem Expands.map {e name : Elem π} {m : Macro π} {bound : Dict JsString JsString}
    (he : Expands unicode macros e name m bound) :
    Expands unicode (macros.mapValues (Macro.map f)) (e.map f) (name.map f) (m.map f) bound := by
  obtain ⟨hword, text, htext, hm, hbound⟩ := he
  refine ⟨by rwa [Elem.lowered_map], text, by rwa [Elem.text?_map], ?_, hbound⟩
  rw [Dict.get?_mapValues, hm]
  rfl

theorem renderActionsWith_guarded_map
    {call : Dict JsString JsString → List (Elem π) → Except (Failure π) (List Rule)}
    {call' : Dict JsString JsString → List (Elem ρ) → Except (Failure ρ) (List Rule)}
    {e : Elem π} {es mtree es' : List (Elem π)} {a : Action} (ha : Guards unicode e es mtree a es')
    (ih : renderActionsWith unicode (macros.mapValues (Macro.map f)) tags params call'
      (es'.map (Elem.map f)) = relocate f id
      (renderActionsWith unicode macros tags params call es')) :
    renderActionsWith unicode (macros.mapValues (Macro.map f)) tags params call'
        ((e :: es).map (Elem.map f)) =
      relocate f id (do
        let rules ← renderMatches unicode tags params false false mtree
        return rules ++ .act a :: (← renderActionsWith unicode macros tags params call es')) := by
  rw [List.map_cons, renderActionsWith_guarded ha.map, renderMatches_map, ih]
  refine Eq.symm (relocate_bind fun rules => ?_)
  exact relocate_bind fun rest => rfl

theorem renderActionsWith_map
    {call : Dict JsString JsString → List (Elem π) → Except (Failure π) (List Rule)}
    {call' : Dict JsString JsString → List (Elem ρ) → Except (Failure ρ) (List Rule)}
    (hcall : ∀ bound tree, call' bound (tree.map (Elem.map f)) = relocate f id (call bound tree))
    (es : List (Elem π)) :
    renderActionsWith unicode (macros.mapValues (Macro.map f)) tags params call'
      (es.map (Elem.map f)) =
      relocate f id (renderActionsWith unicode macros tags params call es) := by
  fun_induction renderActionsWith unicode macros tags params call es with
  | case1 => rfl
  | case2 e es action hnil ih =>
    rw [List.map_cons, renderActionsWith_skip (by rwa [Elem.lowered_map])]
    exact ih
  | case3 e action hnil hinclude =>
    simp only [List.map_cons, List.map_nil, renderActionsWith, Elem.lowered_map]
    rw [if_neg hnil, if_pos hinclude, relocate_refuse]
  | case4 e action hnil hinclude name es htext =>
    simp only [List.map_cons, renderActionsWith, Elem.lowered_map, Elem.text?_map]
    rw [if_neg hnil, if_pos hinclude, htext, relocate_refuse]
  | case5 e action hnil hinclude name es text htext macroName texts hsplit hm hinherited =>
    simp only [List.map_cons, renderActionsWith, Elem.lowered_map, Elem.text?_map,
      Dict.get?_mapValues]
    rw [if_neg hnil, if_pos hinclude]
    simp only [htext, hsplit, hm, Option.map_none]
    exact if_pos hinherited
  | case6 e action hnil hinclude name es text htext macroName texts hsplit hm hinherited =>
    simp only [List.map_cons, renderActionsWith, Elem.lowered_map, Elem.text?_map,
      Dict.get?_mapValues]
    rw [if_neg hnil, if_pos hinclude]
    simp only [htext, hsplit, hm, Option.map_none]
    exact (if_neg hinherited).trans (relocate_refuse name _).symm
  | case7 e action hnil hinclude name es text htext macroName texts hsplit m hm hbound =>
    simp only [List.map_cons, renderActionsWith, Elem.lowered_map, Elem.text?_map,
      Dict.get?_mapValues]
    rw [if_neg hnil, if_pos hinclude]
    simp only [htext, hsplit, hm, Option.map_some, Macro.map, hbound, relocate_refuse]
  | case8 e action hnil hinclude name es text htext macroName texts hsplit m hm bound hbound ih =>
    have he : Expands unicode macros e name m bound :=
      ⟨hinclude, text, htext, by rwa [hsplit], by rwa [hsplit]⟩
    rw [List.map_cons, List.map_cons, renderActionsWith_expand he.map, ih, Macro.map, hcall]
    refine Eq.symm (relocate_bind fun rules => ?_)
    exact relocate_bind fun rest => rfl
  | case9 e action hnil hinclude a ha m mtree es ih =>
    exact renderActionsWith_guarded_map (.plain ⟨hnil, hinclude⟩ ha) ih
  | case10 e action hnil hinclude a ha es hes ih =>
    exact renderActionsWith_guarded_map (.alone ⟨hnil, hinclude⟩ ha hes) ih
  | case11 e action hnil hinclude hplain hcopy m mtree es hm =>
    simp only [List.map_cons, renderActionsWith, Elem.lowered_map, Elem.map, Elem.length_map]
    rw [if_neg hnil, if_neg hinclude, hplain, relocate_refuse]
    exact (if_pos hcopy).trans (if_pos hm)
  | case12 e action hnil hinclude hplain hcopy m es hm =>
    simp only [List.map_cons, List.map_nil, renderActionsWith, Elem.lowered_map, Elem.map,
      Elem.length_map]
    rw [if_neg hnil, if_neg hinclude, hplain]
    exact (if_pos hcopy).trans (if_neg hm)
  | case13 e action hnil hinclude hplain hcopy m es hm maxLength t mtree hlength =>
    simp only [List.map_cons, renderActionsWith, Elem.lowered_map, Elem.map, Elem.length_map,
      Elem.num_map, Elem.position?_map]
    rw [if_neg hnil, if_neg hinclude, hplain]
    exact (if_pos hcopy).trans ((if_neg hm).trans (if_pos hlength))
  | case14 e action hnil hinclude hplain hcopy m es hm maxLength t mtree hlength ht =>
    simp only [List.map_cons, renderActionsWith, Elem.lowered_map, Elem.map, Elem.length_map,
      Elem.num_map, actionTarget_map, ht, relocate_refuse]
    rw [if_neg hnil, if_neg hinclude, hplain]
    exact (if_pos hcopy).trans ((if_neg hm).trans (if_neg hlength))
  | case15 e action hnil hinclude hplain hcopy m es hm maxLength t mtree hlength target ht ih =>
    have ha : Guards unicode e (.block (m :: t :: mtree) :: es) mtree
        (if action = js "tee" then .tee target maxLength else .watch target maxLength) es := by
      refine .copy ⟨hnil, hinclude⟩ hplain ?_ (Nat.not_lt.mp hm) ⟨by omega, by omega⟩ ht
      by_cases htee : action = js "tee"
      · exact .inl ⟨htee, if_pos htee⟩
      · exact .inr ⟨htee, hcopy.resolve_left htee, if_neg htee⟩
    exact renderActionsWith_guarded_map ha ih
  | case16 e action hnil hinclude hplain hcopy es hes =>
    rw [List.map_cons, renderActionsWith.eq_def]
    dsimp only
    rw [Elem.lowered_map, if_neg hnil, if_neg hinclude, hplain]
    dsimp only
    rw [if_pos hcopy, relocate_refuse]
    split
    · rename_i hmap
      exact absurd hmap (map_ne_block hes)
    · rfl
  | case17 e action hnil hinclude hplain hcopy hredirect t mtree es ht =>
    simp only [List.map_cons, renderActionsWith, Elem.lowered_map, Elem.map, Elem.length_map]
    rw [if_neg hnil, if_neg hinclude, hplain, relocate_refuse]
    exact (if_neg hcopy).trans ((if_pos hredirect).trans (if_pos ht))
  | case18 e action hnil hinclude hplain hcopy hredirect t mtree es hlength ht =>
    simp only [List.map_cons, renderActionsWith, Elem.lowered_map, Elem.map, Elem.length_map,
      actionTarget_map, ht, relocate_refuse]
    rw [if_neg hnil, if_neg hinclude, hplain]
    exact (if_neg hcopy).trans ((if_pos hredirect).trans (if_neg hlength))
  | case19 e action hnil hinclude hplain hcopy hredirect t mtree es hlength target ht ih =>
    exact renderActionsWith_guarded_map
      (.redirect ⟨hnil, hinclude⟩ hplain ⟨hcopy, hredirect⟩ (Nat.not_lt.mp hlength) ht) ih
  | case20 e action hnil hinclude hplain hcopy hredirect es hes =>
    rw [List.map_cons, renderActionsWith.eq_def]
    dsimp only
    rw [Elem.lowered_map, if_neg hnil, if_neg hinclude, hplain]
    dsimp only
    rw [if_neg hcopy, if_pos hredirect, relocate_refuse]
    split
    · rename_i hmap
      exact absurd hmap (map_ne_block hes)
    · rfl
  | case21 e es action hnil hinclude hplain hcopy hredirect =>
    rw [List.map_cons, renderActionsWith.eq_def]
    dsimp only
    rw [Elem.lowered_map, if_neg hnil, if_neg hinclude, hplain, relocate_refuse]
    exact (if_neg hcopy).trans (if_neg hredirect)

theorem renderActions_map {macros : Dict JsString (Macro π)} (depth : Nat)
    (bound : Dict JsString JsString) (tree : List (Elem π)) :
    renderActions unicode (macros.mapValues (Macro.map f)) tags depth bound
      (tree.map (Elem.map f)) =
      relocate f id (renderActions unicode macros tags depth bound tree) := by
  induction depth generalizing bound tree with
  | zero => rfl
  | succ depth ih => exact renderActionsWith_map ih tree

/-! ## 4. Definitions -/

def Capability.map (g : α → β) (cap : Capability α) : Capability β :=
  ⟨cap.id, cap.default, cap.rules.map g⟩

def Program.map (f : π → ρ) (p : Program π) : Program ρ :=
  ⟨p.baseRuleTree.map (Elem.map f), p.macros.mapValues (Macro.map f), p.tags,
    p.caps.mapValues (Capability.map (Elem.map f))⟩

theorem isKey_mapValues {d : Dict JsString α} (name : JsString) :
    isKey (d.mapValues g) name = isKey d name := by
  unfold isKey Dict.contains
  rw [Dict.get?_mapValues, Option.isSome_map]

theorem defineMacro_map (p : Program π) (name : Elem π) (rules : List (Elem π)) :
    defineMacro unicode (p.map f) (name.map f) (rules.map (Elem.map f)) =
      relocate f (Program.map f) (defineMacro unicode p name rules) := by
  unfold defineMacro
  rw [definedName_map]
  refine Eq.symm (relocate_bind fun text => ?_)
  dsimp only [id]
  split
  · exact relocate_refuse name _
  split
  · exact relocate_refuse name _
  rw [Program.map, isKey_mapValues]
  split
  · exact relocate_refuse name _
  · rw [relocate_pure, Program.map, Dict.mapValues_set]
    rfl

theorem tagItems_map (es : List (Elem π)) (draft : TagDraft) :
    tagItems unicode (es.map (Elem.map f)) draft = relocate f id (tagItems unicode es draft) := by
  induction hlength : es.length using Nat.strong_induction_on generalizing es draft with
  | h length ih =>
    subst hlength
    cases es with
    | nil => rfl
    | cons e es =>
      rw [List.map_cons, tagItems.eq_def, tagItems.eq_def unicode (e :: es)]
      dsimp only
      rw [Elem.text?_map]
      cases e.text? with
      | none => rfl
      | some text =>
        dsimp only
        split
        · split
          · exact (relocate_refuse e _).symm
          cases es with
          | nil => exact (relocate_refuse e _).symm
          | cons v es =>
            rw [List.map_cons]
            dsimp only
            rw [Elem.num_map]
            split
            · exact (relocate_refuse v _).symm
            · exact ih _ (by simp only [List.length_cons]; omega) _ _ rfl
        split
        · split
          · exact (relocate_refuse e _).symm
          cases es with
          | nil => exact (relocate_refuse e _).symm
          | cons v es =>
            rw [List.map_cons]
            dsimp only
            rw [Elem.text?_map]
            cases v.text? with
            | none => rfl
            | some dfl => exact ih _ (by simp only [List.length_cons]; omega) _ _ rfl
        split
        · rcases es with - | ⟨v, - | ⟨n, es⟩⟩
          · exact (relocate_refuse e _).symm
          · exact (relocate_refuse e _).symm
          rw [List.map_cons, List.map_cons]
          dsimp only
          rw [Elem.text?_map]
          cases v.text? with
          | none => rfl
          | some bits =>
            dsimp only
            cases flagMask unicode draft.flags (splitRuns (· == 44) bits) (some 0) with
            | none => exact (relocate_refuse v _).symm
            | some mask =>
              dsimp only
              rw [definedName_map]
              refine Eq.symm (relocate_bind fun flagName => ?_)
              dsimp only [id]
              split
              · exact relocate_refuse n _
              split
              · exact relocate_refuse n _
              · exact (ih _ (by simp only [List.length_cons]; omega) _ _ rfl).symm
        split
        · rcases es with - | ⟨v, - | ⟨n, es⟩⟩
          · exact (relocate_refuse e _).symm
          · exact (relocate_refuse e _).symm
          rw [List.map_cons, List.map_cons]
          dsimp only
          rw [Elem.num_map]
          split
          · exact (relocate_refuse v _).symm
          rw [definedName_map]
          refine Eq.symm (relocate_bind fun enumName => ?_)
          dsimp only [id]
          split
          · exact relocate_refuse n _
          split
          · exact relocate_refuse n _
          · exact (ih _ (by simp only [List.length_cons]; omega) _ _ rfl).symm
        · exact (relocate_refuse e _).symm

theorem defineTag_map (p : Program π) (name : Elem π) (items : List (Elem π)) :
    defineTag unicode (p.map f) (name.map f) (items.map (Elem.map f)) =
      relocate f (Program.map f) (defineTag unicode p name items) := by
  unfold defineTag
  rw [definedName_map]
  refine Eq.symm (relocate_bind fun tagName => ?_)
  dsimp only [id]
  split
  · exact relocate_refuse name _
  split
  · exact relocate_refuse name _
  have hkey : isKey (p.map f).tags tagName = isKey p.tags tagName := rfl
  rw [hkey]
  split
  · exact relocate_refuse name _
  rw [tagItems_map]
  refine relocate_bind fun draft => ?_
  dsimp only [id]
  split
  · exact relocate_refuse name _
  · rfl

theorem capItems_map (caps : Dict JsString (Capability (Elem π))) (es : List (Elem π))
    (draft : Capability (Elem π)) :
    capItems unicode (caps.mapValues (Capability.map (Elem.map f))) (es.map (Elem.map f))
        (draft.map (Elem.map f)) =
      relocate f (Capability.map (Elem.map f)) (capItems unicode caps es draft) := by
  have hids : ∀ id : Int, ((caps.mapValues (Capability.map (Elem.map f))).entries.any fun entry =>
      entry.2.id == id) = caps.entries.any fun entry => entry.2.id == id := by
    intro id
    exact List.any_map
  induction hlength : es.length using Nat.strong_induction_on generalizing es draft with
  | h length ih =>
    subst hlength
    cases es with
    | nil => rfl
    | cons e es =>
      rw [List.map_cons, capItems.eq_def, capItems.eq_def unicode caps (e :: es)]
      dsimp only
      rw [Elem.text?_map]
      have hid : (draft.map (Elem.map f)).id = draft.id := rfl
      rw [hid]
      split
      · split
        · exact (relocate_refuse e _).symm
        cases es with
        | nil => exact (relocate_refuse e _).symm
        | cons v es =>
          rw [List.map_cons]
          dsimp only
          rw [Elem.num_map, hids]
          split
          · exact (relocate_refuse e _).symm
          split
          · exact (relocate_refuse e _).symm
          · have hlt : es.length < (e :: v :: es).length :=
              Nat.lt_trans (Nat.lt_succ_self _) (Nat.lt_succ_self _)
            exact ih _ hlt es ⟨v.num unicode, draft.default, draft.rules⟩ rfl
      split
      · exact ih _ (Nat.lt_succ_self _) es ⟨draft.id, true, draft.rules⟩ rfl
      · have hrules : (draft.map (Elem.map f)).rules ++ [e.map f] =
            (draft.rules ++ [e]).map (Elem.map f) := by
          simp [Capability.map]
        rw [hrules]
        exact ih _ (Nat.lt_succ_self _) es ⟨draft.id, draft.default, draft.rules ++ [e]⟩ rfl

theorem defineCap_map (p : Program π) (name : Elem π) (items : List (Elem π)) :
    defineCap unicode (p.map f) (name.map f) (items.map (Elem.map f)) =
      relocate f (Program.map f) (defineCap unicode p name items) := by
  unfold defineCap
  rw [definedName_map]
  refine Eq.symm (relocate_bind fun capName => ?_)
  dsimp only [id]
  split
  · exact relocate_refuse name _
  split
  · exact relocate_refuse name _
  have hkey : isKey (p.map f).caps capName = isKey p.caps capName := isKey_mapValues capName
  rw [hkey]
  split
  · exact relocate_refuse name _
  have hitems : capItems unicode (p.map f).caps (items.map (Elem.map f)) ⟨-1, false, []⟩ =
      relocate f (Capability.map (Elem.map f)) (capItems unicode p.caps items ⟨-1, false, []⟩) :=
    capItems_map p.caps items ⟨-1, false, []⟩
  rw [hitems]
  refine relocate_bind fun draft => ?_
  have hid : (draft.map (Elem.map f)).id = draft.id := rfl
  rw [hid]
  split
  · exact relocate_refuse name _
  · rw [relocate_pure]
    unfold Program.map
    rw [Dict.mapValues_set]

/-- A definition and what is behind it. -/
theorem defined_map {e : Elem π} {message : String} {n : Nat}
    {define : Elem π → List (Elem π) → Except (Failure π) (Program π)}
    {define' : Elem ρ → List (Elem ρ) → Except (Failure ρ) (Program ρ)}
    (hdefine : ∀ name items, define' (name.map f) (items.map (Elem.map f)) =
      relocate f (Program.map f) (define name items))
    (ih : ∀ es', es'.length < n → ∀ p, definitions unicode (es'.map (Elem.map f)) (p.map f) =
      relocate f (Program.map f) (definitions unicode es' p)) :
    ∀ es : List (Elem π), es.length ≤ n → (match es.map (Elem.map f) with
      | .block (name :: items) :: es => do definitions unicode es (← define' name items)
      | _ => refuse (e.map f) message) =
    relocate f (Program.map f) (match es with
      | .block (name :: items) :: es => do definitions unicode es (← define name items)
      | _ => refuse e message) := by
  intro es hle
  rcases es with - | ⟨b, es⟩
  · exact (relocate_refuse e _).symm
  cases b with
  | token t =>
    rw [List.map_cons, Elem.map]
    exact (relocate_refuse e _).symm
  | block elems =>
    rw [List.map_cons, Elem.map]
    cases elems with
    | nil => exact (relocate_refuse e _).symm
    | cons name items =>
      rw [List.map_cons]
      dsimp only
      rw [hdefine]
      exact (relocate_bind fun p => (ih es hle p).symm).symm

theorem definitions_map (es : List (Elem π)) (p : Program π) :
    definitions unicode (es.map (Elem.map f)) (p.map f) =
      relocate f (Program.map f) (definitions unicode es p) := by
  induction hlength : es.length using Nat.strong_induction_on generalizing es p with
  | h length ih =>
    subst hlength
    cases es with
    | nil => rfl
    | cons e es =>
      have hrest : ∀ es' : List (Elem π), es'.length < es.length → ∀ p,
          definitions unicode (es'.map (Elem.map f)) (p.map f) =
            relocate f (Program.map f) (definitions unicode es' p) := by
        intro es' hlt p
        exact ih _ (Nat.lt_succ_of_lt hlt) es' p rfl
      rw [List.map_cons, definitions.eq_def, definitions.eq_def unicode (e :: es)]
      dsimp only
      rw [Elem.text?_map]
      split
      · exact defined_map (defineMacro_map p) hrest es le_rfl
      split
      · exact defined_map (defineTag_map p) hrest es le_rfl
      split
      · exact defined_map (defineCap_map p) hrest es le_rfl
      · have hbase : { p.map f with baseRuleTree := (p.map f).baseRuleTree ++ [e.map f] } =
            Program.map f { p with baseRuleTree := p.baseRuleTree ++ [e] } := by
          simp [Program.map]
        rw [hbase]
        exact ih _ (Nat.lt_succ_self _) es _ rfl

/-! ## 5. Trees -/

theorem renderCap_map (p : Program π) (depth : Nat) (entry : JsString × Capability (Elem π)) :
    renderCap unicode (p.map f) depth (entry.1, entry.2.map (Elem.map f)) =
      relocate f id (renderCap unicode p depth entry) := by
  unfold renderCap
  have hrules : renderActions unicode (p.map f).macros (p.map f).tags depth Dict.empty
      (entry.2.map (Elem.map f)).rules =
        relocate f id (renderActions unicode p.macros p.tags depth Dict.empty entry.2.rules) :=
    renderActions_map depth Dict.empty entry.2.rules
  rw [hrules]
  refine Eq.symm (relocate_bind fun rules => ?_)
  rfl

theorem mapM_map {γ : Type} {k : α → Except (Failure π) γ} {k' : β → Except (Failure ρ) γ}
    (h : ∀ a, k' (g a) = relocate f id (k a)) (l : List α) :
    (l.map g).mapM k' = relocate f id (l.mapM k) := by
  induction l with
  | nil => rfl
  | cons a l ih =>
    rw [List.map_cons, List.mapM_cons, List.mapM_cons, h, ih]
    refine Eq.symm (relocate_bind fun c => ?_)
    exact relocate_bind fun cs => rfl

/-- **The compiler does not look at positions.** -/
theorem compileTree_map (depth : Nat) (tree : List (Elem π)) :
    compileTree unicode depth (tree.map (Elem.map f)) =
      relocate f id (compileTree unicode depth tree) := by
  unfold compileTree
  have hempty : (Program.empty : Program π).map f = Program.empty := rfl
  rw [← hempty, definitions_map]
  refine Eq.symm (relocate_bind fun p => ?_)
  have hcaps : (p.map f).caps.entries.mapM (renderCap unicode (p.map f) depth) =
      relocate f id (p.caps.entries.mapM (renderCap unicode p depth)) :=
    mapM_map (renderCap_map p depth) p.caps.entries
  have hrules : renderActions unicode (p.map f).macros (p.map f).tags depth Dict.empty
      (p.map f).baseRuleTree =
        relocate f id (renderActions unicode p.macros p.tags depth Dict.empty p.baseRuleTree) :=
    renderActions_map depth Dict.empty p.baseRuleTree
  rw [hcaps, hrules]
  refine relocate_bind fun caps => ?_
  exact relocate_bind fun rules => rfl

end ZtPlanet.Ztnet.RuleCompiler
