/-
# Names that were chosen

The name of a member is chosen by a user, or by the naming policy when its row is written, and
`reconcileNetworkMembers` adopts the name that the controller reports where the row has none.  It
looks at the row as it read it at the beginning of the run: a row that did not exist then has no
name for it, and a name that was chosen since is not there either.

The history keeps the name that was chosen last for each row, and when.  What a run has read is
right about the names that were chosen before the run began (`reconcile_seen`).  So they all stay in
their rows exactly if no run adopts a name over one that was chosen since it began
(`chosen_names_survive_iff`).
-/
import ZtPlanet.Ztnet.MemberSteps

namespace ZtPlanet.Ztnet.Members

open ZtPlanet.Lib

/-! ## 1. Choosing and adopting -/

/-- The name that a call chooses for a row: a call that writes the name, unless it writes what the
controller reports. -/
def Query.chooses (s : Store) (id : MemberId) : Query → Option (Option String)
  | .addMember j name | .createMember j name _ _ =>
    if j = id ∧ (s.rows.get? id).isNone then some name else none
  | .createRow j data =>
    if j = id ∧ (s.rows.get? id).isNone then some (truthy data.name) else none
  | .restoreMember j name _ => if j = id then some name else none
  | .updateMember j _ data _ | .writeThrough j data _ =>
    if j = id then data.name.map some else none
  | .renameActive j data =>
    if j = id ∧ (s.rows.get? id).any (fun row => row.deleted == some false) then data.name.map some
    else none
  | _ => none

/-- The name that was chosen last for a row, and when. -/
structure Choice where
  name : Option String
  time : Nat
deriving DecidableEq

abbrev ChosenNames : Type := MemberId → Choice

/-- What a step adds to the names that were chosen; where there is no row there is no name. -/
def noteNames (site : Site) (act : Act) (s : Store) (chosen : ChosenNames) :
    ChosenNames := fun id =>
  if ((handle site act s).2.rows.get? id).isNone then ⟨none, s.clock⟩
  else if act.takesEffect then ((act.query.chooses s id).map (⟨·, s.clock⟩)).getD (chosen id)
  else chosen id

abbrev nameHandle (site : Site) : Prog.Handler Act Act.Ans Failure (Store × ChosenNames) :=
  Prog.withHistory (handle site) (noteNames site)

/-- A chosen name that is not blank is the name of the row. -/
def NamesKept (s : Store × ChosenNames) : Prop :=
  ∀ id, isBlank (s.2 id).name = false →
    (s.1.rows.get? id).bind (fun row => row.name) = (s.2 id).name

/-- **No choice is passed over.**  A run that has read a row without a name, or no row, and in whose
detail there is one, meets no row for which another name has been chosen since the run began. -/
def Query.undisputed (q : Query) (s : Store × ChosenNames) : Prop :=
  match q with
  | .persistDetail id db detail _ readAt =>
    s.1.rows.contains id = true → isBlank (db.bind fun row => row.name) = true →
      ∀ name ∈ detail.name, isBlank (some name) = false → readAt ≤ (s.2 id).time →
        isBlank (s.2 id).name = true ∨ (s.2 id).name = some name
  | _ => True

instance (q : Query) (s : Store × ChosenNames) : Decidable (q.undisputed s) :=
  match q with
  | .persistDetail _ _ _ _ _ => inferInstanceAs (Decidable (_ → _ → _))
  | .networkMembers | .memberDetails _ | .memberUpdate _ _ | .memberDelete _ | .changeController _
  | .findMembers | .findActive _ | .findStashed | .findMember _ | .addMember _ _
  | .removeOrphans _ _ | .writeVersion _ _ | .restoreMember _ _ _ | .createMember _ _ _ _
  | .updateMember _ _ _ _ | .updateFlags _ _ _ | .markDeleted _ | .markPermanentlyDeleted _
  | .deleteMember _ _ | .deleteStashed _ | .writeThrough _ _ _ | .createRow _ _
  | .cacheMember _ _ | .renameActive _ _ => isTrue trivial

/-- A step that is carried out passes over no choice. -/
def Act.undisputed (act : Act) (s : Store × ChosenNames) : Prop :=
  act.takesEffect = true → act.query.undisputed s

instance (act : Act) (s : Store × ChosenNames) : Decidable (act.undisputed s) :=
  inferInstanceAs (Decidable (_ → _))

/-- What a run has read is right about the names that were chosen before it began. -/
def Act.seen (act : Act) (s : Store × ChosenNames) : Prop :=
  match act.query with
  | .persistDetail id db _ _ readAt =>
    isBlank (db.bind fun row => row.name) = true → (s.2 id).time < readAt →
      isBlank (s.2 id).name = true
  | _ => True

/-- The call adopts no name. -/
def Query.leavesNames : Query → Bool
  | .persistDetail _ _ _ _ _ => false
  | _ => true

/-! ## 2. Steps -/

variable {site : Site}

/-- The row has the name that is chosen, or the name it had. -/
def NameFrom (chosen : Option (Option String)) (row : Option Row) (row' : Row) : Prop :=
  match chosen with
  | some name => row'.name = name
  | none => ∃ row₀, row = some row₀ ∧ row'.name = row₀.name

section NameFrom

variable {j id : MemberId} {row : Option Row} {row' : Row}

/-- A row that is inserted has the name that is chosen for it. -/
theorem nameFrom_insert {new : Row}
    (h : (if j = id then row <|> some new else row) = some row') :
    NameFrom (if j = id ∧ row.isNone then some new.name else none) row row' := by
  cases row with
  | some row₀ =>
    rw [if_neg fun hnone => nomatch hnone.2]
    refine ⟨row₀, rfl, ?_⟩
    split at h
    · rw [← Option.some.inj h]
    · rw [← Option.some.inj h]
  | none =>
    split at h
    · next hj =>
      rw [if_pos ⟨hj, rfl⟩]
      obtain rfl := Option.some.inj h
      rfl
    · cases h

/-- A row that is changed has the name that is chosen, if any. -/
theorem nameFrom_modify {f : Row → Row} {chosen : Option (Option String)}
    (h : (if j = id then row.map f else row) = some row')
    (hf : ∀ row₀ ∈ row, (f row₀).name = chosen.getD row₀.name) :
    NameFrom (if j = id then chosen else none) row row' := by
  split at h
  · next hj =>
    rw [if_pos hj]
    obtain ⟨row₀, hrow₀, rfl⟩ := Option.map_eq_some_iff.mp h
    cases chosen with
    | some name => exact hf row₀ hrow₀
    | none => exact ⟨row₀, hrow₀, hf row₀ hrow₀⟩
  · next hj =>
    rw [if_neg hj]
    exact ⟨row', h, rfl⟩

/-- A row whose name does not change. -/
theorem nameFrom_keep {f : Row → Row} (h : (if j = id then row.map f else row) = some row')
    (hf : ∀ row₀ ∈ row, (f row₀).name = row₀.name) : NameFrom none row row' := by
  have hkept : NameFrom (if j = id then none else none) row row' := nameFrom_modify h hf
  rwa [ite_self] at hkept

/-- A row that is not removed. -/
theorem nameFrom_remove {p : Prop} [Decidable p] (h : (if p then none else row) = some row') :
    NameFrom none row row' := by
  split at h
  · cases h
  · exact ⟨row', h, rfl⟩

/-- What `data` makes of the name. -/
theorem writeData_name (data : MemberData) (row : Row) :
    (writeData data row).name = (data.name.map some).getD row.name := by
  change (data.name <|> row.name) = _
  cases data.name with
  | some name => rfl
  | none => rfl

end NameFrom

/-- **The name behind a call** that adopts none: the chosen one, or the one before. -/
theorem name_after {q : Query} {s : Store} {id : MemberId} {row' : Row}
    (hq : q.leavesNames = true) (h : q.rowAfter s id (s.rows.get? id) = some row') :
    NameFrom (q.chooses s id) (s.rows.get? id) row' := by
  cases q with
  | persistDetail _ _ _ _ _ => cases hq
  | networkMembers | memberDetails _ | memberUpdate _ _ | memberDelete _ | changeController _
  | findMembers | findActive _ | findStashed | findMember _ => exact ⟨row', h, rfl⟩
  | addMember _ _ | createMember _ _ _ _ => exact nameFrom_insert h
  | createRow j data =>
    have hname : (requestedRow s.nextNodeid j data).name = truthy data.name := by
      refine (writeData_name _ _).trans ?_
      change ((truthy data.name).map some).getD none = _
      cases truthy data.name with
      | some name => rfl
      | none => rfl
    have hinsert := nameFrom_insert h
    rwa [hname] at hinsert
  | writeVersion _ _ | updateFlags _ _ _ | markDeleted _ | markPermanentlyDeleted _
  | cacheMember _ _ => exact nameFrom_keep h fun _ _ => rfl
  | removeOrphans _ _ | deleteMember _ _ => exact nameFrom_remove h
  | restoreMember j name revision =>
    exact nameFrom_modify h fun _ _ => rfl
  | updateMember j dbMember data revision =>
    exact nameFrom_modify h fun row _ => writeData_name data row
  | deleteStashed ids =>
    obtain ⟨row, hrow, rfl⟩ := Option.map_eq_some_iff.mp h
    refine ⟨row, hrow, ?_⟩
    unfold deleteIfStashed
    split
    · rfl
    · rfl
  | writeThrough j data restore =>
    refine nameFrom_modify h fun row _ => ?_
    cases restore with
    | true => exact writeData_name data row
    | false => exact writeData_name data row
  | renameActive j data =>
    have hchooses : (Query.renameActive j data).chooses s id =
        if j = id then
          if (s.rows.get? id).any (fun row => row.deleted == some false) then data.name.map some
          else none
        else none := ite_and _ _ _ _
    rw [hchooses]
    refine nameFrom_modify h fun row hrow => ?_
    simp only [Option.mem_def.mp hrow, Option.any_some, beq_iff_eq]
    unfold writeActive
    split
    · exact writeData_name data row
    · rfl

/-- The name that is chosen for a row that is there. -/
theorem noteNames_name {act : Act} {s : Store} {chosen : ChosenNames} {id : MemberId} {row : Row}
    (hrow : (handle site act s).2.rows.get? id = some row) :
    (noteNames site act s chosen id).name =
      if act.takesEffect then (act.query.chooses s id).getD (chosen id).name
      else (chosen id).name := by
  unfold noteNames
  rw [hrow, if_neg (by simp)]
  by_cases htakes : act.takesEffect = true
  · rw [if_pos htakes, if_pos htakes]
    cases act.query.chooses s id with
    | some name => rfl
    | none => rfl
  · rw [if_neg htakes, if_neg htakes]

/-- There is a row where a name is chosen. -/
theorem exists_row_of_noteNames {act : Act} {s : Store} {chosen : ChosenNames} {id : MemberId}
    (h : isBlank (noteNames site act s chosen id).name = false) :
    ∃ row, (handle site act s).2.rows.get? id = some row := by
  cases hrow : (handle site act s).2.rows.get? id with
  | some row => exact ⟨row, rfl⟩
  | none =>
    unfold noteNames at h
    rw [hrow] at h
    cases h

/-- The choices are kept exactly if each row has the name that is chosen for it then. -/
theorem namesKept_after_iff {act : Act} {s : Store} {chosen : ChosenNames} :
    NamesKept (nameHandle site act (s, chosen)).2 ↔
      ∀ id row, (handle site act s).2.rows.get? id = some row →
        isBlank (noteNames site act s chosen id).name = false →
          row.name = (noteNames site act s chosen id).name := by
  refine forall_congr' fun id => ⟨fun h row hrow hblank => ?_, fun h hblank => ?_⟩
  · have hname := h hblank
    change ((handle site act s).2.rows.get? id).bind _ = _ at hname
    rw [hrow] at hname
    exact hname
  · obtain ⟨row, hrow⟩ := exists_row_of_noteNames hblank
    change ((handle site act s).2.rows.get? id).bind _ = _
    rw [hrow]
    exact h row hrow hblank

theorem NamesKept.row {s : Store × ChosenNames} (h : NamesKept s) {id : MemberId} {row : Row}
    (hrow : s.1.rows.get? id = some row) (hblank : isBlank (s.2 id).name = false) :
    row.name = (s.2 id).name := by
  have hname := h id hblank
  rw [hrow] at hname
  exact hname

/-- A call that is carried out and adopts no name. -/
theorem name_of_chooses {q : Query} {s : Store} {chosen : ChosenNames} (hq : q.leavesNames = true)
    (hs : NamesKept (s, chosen)) {id : MemberId} {row : Row}
    (hrow : q.rowAfter s id (s.rows.get? id) = some row)
    (hblank : isBlank ((q.chooses s id).getD (chosen id).name) = false) :
    row.name = (q.chooses s id).getD (chosen id).name := by
  have hname := name_after hq hrow
  cases hchooses : q.chooses s id with
  | some name =>
    rw [hchooses] at hname
    exact hname
  | none =>
    rw [hchooses] at hname hblank
    obtain ⟨row₀, hrow₀, hsame⟩ := hname
    exact hsame.trans (hs.row hrow₀ hblank)

/-- The name of a row that a run writes. -/
theorem observed_write_name {db : Option Row} {id : MemberId} {detail : Detail}
    {revision : Option Nat} {row : Row} :
    ((observed db id detail revision).write row).name =
      ((detail.name.filter fun name =>
        isBlank (db.bind fun row => row.name) && !isBlank (some name)) <|> row.name) := by
  change ((if isBlank (db.bind fun row => row.name) = true then
    detail.name.filter fun name => !isBlank (some name) else none) <|> row.name) = _
  cases isBlank (db.bind fun row => row.name) with
  | true => rfl
  | false => simp

/-- A run that adopts a name. -/
theorem name_of_observed {j id : MemberId} {db : Option Row} {detail : Detail}
    {revision : Option Nat} {readAt : Nat} {s : Store} {chosen : ChosenNames}
    (hs : NamesKept (s, chosen))
    (hseen : isBlank (db.bind fun row => row.name) = true → (chosen j).time < readAt →
      isBlank (chosen j).name = true)
    (hok : (Query.persistDetail j db detail revision readAt).undisputed (s, chosen)) {row : Row}
    (hrow : (Query.persistDetail j db detail revision readAt).rowAfter s id (s.rows.get? id) =
      some row)
    (hblank : isBlank (chosen id).name = false) : row.name = (chosen id).name := by
  refine forall_rows_modify
    (P := fun id row => isBlank (chosen id).name = false → row.name = (chosen id).name)
    (fun id row hrow => hs.row hrow) (fun row hrow hkept hblank => ?_) id row hrow hblank
  rw [observed_write_name]
  cases hadopted : detail.name.filter fun name =>
      isBlank (db.bind fun row => row.name) && !isBlank (some name) with
  | none => exact hkept hblank
  | some name =>
    obtain ⟨hname, hread⟩ := Option.filter_eq_some_iff.mp hadopted
    rw [Bool.and_eq_true, Bool.not_eq_true'] at hread
    -- the choice is younger than the run
    have hsince : readAt ≤ (chosen j).time := by
      by_contra hbefore
      rw [hseen hread.1 (not_le.mp hbefore)] at hblank
      cases hblank
    have hstored : s.rows.contains j = true := by
      rw [Dict.contains, hrow]
      rfl
    rcases hok hstored hread.1 name hname hread.2 hsince with hnone | hsame
    · rw [hblank] at hnone
      cases hnone
    · exact hsame.symm

/-- **The choices are kept by a step** that passes over none. -/
theorem handle_namesKept {act : Act} {s : Store × ChosenNames} (hs : NamesKept s)
    (hseen : act.seen s) (hok : act.undisputed s) : NamesKept (nameHandle site act s).2 := by
  obtain ⟨s, chosen⟩ := s
  refine namesKept_after_iff.mpr fun id row hrow hblank => ?_
  rw [noteNames_name hrow] at hblank ⊢
  rw [handle_rows] at hrow
  by_cases htakes : act.takesEffect = true
  · rw [if_pos htakes] at hrow hblank ⊢
    have hundisputed := hok htakes
    obtain ⟨query, outcome⟩ := act
    cases hq : query.leavesNames with
    | true => exact name_of_chooses hq hs hrow hblank
    | false =>
      cases query with
      | persistDetail j db detail revision readAt =>
        exact name_of_observed hs hseen hundisputed hrow hblank
      | _ => cases hq
  · rw [if_neg htakes] at hrow hblank ⊢
    exact hs.row hrow hblank

/-- **A choice is lost by a step** that passes over it. -/
theorem handle_not_namesKept {act : Act} {s : Store × ChosenNames} (hnot : ¬ act.undisputed s) :
    ¬ NamesKept (nameHandle site act s).2 := by
  obtain ⟨s, chosen⟩ := s
  obtain ⟨query, outcome⟩ := act
  unfold Act.undisputed at hnot
  push Not at hnot
  obtain ⟨htakes, hnot⟩ := hnot
  cases query with
  | persistDetail j db detail revision readAt =>
    simp only [Query.undisputed] at hnot
    push Not at hnot
    obtain ⟨hstored, hread, name, hname, hnonblank, -, hchosen, hother⟩ := hnot
    obtain ⟨row, hrow⟩ := Dict.contains_iff.mp hstored
    intro hkept
    have hafter : (handle site ⟨.persistDetail j db detail revision readAt, outcome⟩ s).2.rows.get?
      j =
        some ((observed db j detail revision).write row) := by
      rw [handle_rows, if_pos htakes, Query.rowAfter, if_pos rfl, hrow, Option.map_some]
    have hsame := namesKept_after_iff.mp hkept j _ hafter
    rw [noteNames_name hafter, if_pos htakes, observed_write_name] at hsame
    have hadopted : (detail.name.filter fun name =>
        isBlank (db.bind fun row => row.name) && !isBlank (some name)) = some name := by
      rw [hname]
      exact Option.filter_some_pos (by rw [hread, hnonblank]; rfl)
    rw [hadopted] at hsame
    exact hother (hsame (Bool.eq_false_iff.mpr hchosen)).symm
  | _ => exact absurd trivial hnot

/-! ## 3. Programs -/

/-- What lies between two states of a run. -/
structure NamesLater (s s' : Store × ChosenNames) : Prop where
  clock : s.1.clock ≤ s'.1.clock
  chosen : ∀ id, s'.2 id = s.2 id ∨ isBlank (s'.2 id).name = true ∨ s.1.clock ≤ (s'.2 id).time
  kept : NamesKept s → NamesKept s'

theorem NamesLater.refl (s : Store × ChosenNames) : NamesLater s s :=
  ⟨le_refl _, fun _ => .inl rfl, id⟩

theorem NamesLater.trans {s₁ s₂ s₃ : Store × ChosenNames} (h₁ : NamesLater s₁ s₂)
    (h₂ : NamesLater s₂ s₃) : NamesLater s₁ s₃ := by
  refine ⟨h₁.clock.trans h₂.clock, fun id => ?_, fun h => h₂.kept (h₁.kept h)⟩
  rcases h₂.chosen id with hsame | hblank | hsince
  · rw [hsame]
    exact h₁.chosen id
  · exact .inr (.inl hblank)
  · exact .inr (.inr (h₁.clock.trans hsince))

/-- A step that passes over no choice. -/
theorem namesLater_step {act : Act} {s : Store × ChosenNames} (hseen : act.seen s)
    (hok : act.undisputed s) : NamesLater s (nameHandle site act s).2 := by
  obtain ⟨s, chosen⟩ := s
  refine ⟨?_, fun id => ?_, fun h => handle_namesKept h hseen hok⟩
  · exact (Nat.le_succ _).trans_eq (handle_clock act s).symm
  · change noteNames site act s chosen id = chosen id ∨
      isBlank (noteNames site act s chosen id).name = true ∨
        s.clock ≤ (noteNames site act s chosen id).time
    unfold noteNames
    split
    · exact .inr (.inl rfl)
    · split
      · cases act.query.chooses s id with
        | none => exact .inl rfl
        | some name => exact .inr (.inr (le_refl _))
      · exact .inl rfl

/-- What a run has read about the names, with the time at which it began. -/
structure Seen (dbMap : Dict MemberId Row) (readAt : Nat) (s : Store × ChosenNames) : Prop where
  clock : readAt ≤ s.1.clock
  names : ∀ id, isBlank ((dbMap.get? id).bind fun row => row.name) = true →
    (s.2 id).time < readAt → isBlank (s.2 id).name = true

theorem Seen.later {dbMap : Dict MemberId Row} {readAt : Nat} {s s' : Store × ChosenNames}
    (h : Seen dbMap readAt s) (hlater : NamesLater s s') : Seen dbMap readAt s' := by
  refine ⟨h.clock.trans hlater.clock, fun id hread hbefore => ?_⟩
  rcases hlater.chosen id with hsame | hblank | hsince
  · rw [hsame] at hbefore ⊢
    exact h.names id hread hbefore
  · exact hblank
  · exact absurd (h.clock.trans hsince) (not_le.mpr hbefore)

/-- The rows as they are, where the choices are kept. -/
theorem seen_rows {s : Store × ChosenNames} {readAt : Nat} (hs : NamesKept s)
    (hclock : readAt ≤ s.1.clock) : Seen s.1.rows readAt s := by
  refine ⟨hclock, fun id hread _ => ?_⟩
  cases hblank : isBlank (s.2 id).name with
  | true => rfl
  | false =>
    rw [hs id hblank, hblank] at hread
    cases hread

section Programs

variable {plan : Plan} {s : Store × ChosenNames}

/-- A program whose runs have seen the names that were chosen before. -/
abbrev Seeing (site : Site) {α : Type} (post : Except Failure α → Store × ChosenNames → Prop)
    (p : Proc α) (s : Store × ChosenNames) : Prop :=
  Prog.Steady (nameHandle site) NamesLater Act.undisputed Act.seen post p s

theorem seen_of_leavesNames {act : Act} {t : Store × ChosenNames}
    (h : act.query.leavesNames = true) : act.seen t := by
  unfold Act.seen
  split
  · next hquery =>
    rw [hquery] at h
    cases h
  · trivial

/-- A program that adopts no name. -/
theorem seeing_of_makes {α : Type} {p : Proc α} (hp : Makes Query.leavesNames p) :
    Seeing site (fun _ t => NamesLater s t) p s := by
  refine hp.steady NamesLater.refl (fun _ _ _ => NamesLater.trans) fun act t hact hok => ?_
  have hseen : act.seen t := seen_of_leavesNames hact
  exact ⟨hseen, namesLater_step hseen hok⟩

/-- Such a program at the beginning of another. -/
theorem seeing_bind {α β : Type} {p : Proc α} {f : α → Proc β}
    (hp : Makes Query.leavesNames p)
    (hf : ∀ a t, NamesLater s t → Seeing site (fun _ _ => True) (f a) t) :
    Seeing site (fun _ _ => True) (p >>= f) s := by
  refine ((seeing_of_makes hp).mono fun r t hlater => ?_).bind
  cases r with
  | ok a => exact hf a t hlater
  | error e => trivial

/-- One call that adopts no name. -/
theorem seeing_perform {query : Query}
    {post : Except Failure query.Ans → Store × ChosenNames → Prop}
    (hq : query.leavesNames = true)
    (hpost : ∀ t, NamesLater s t →
      NamesLater t (nameHandle site ⟨query, plan.outcome query⟩ t).2 →
        post (nameHandle site ⟨query, plan.outcome query⟩ t).1
          (nameHandle site ⟨query, plan.outcome query⟩ t).2) :
    Seeing site post (perform plan query) s := by
  refine Prog.steady_call fun t hlater hok => ?_
  have hseen : Act.seen ⟨query, plan.outcome query⟩ t := seen_of_leavesNames hq
  exact ⟨hseen, namesLater_step hseen hok, hpost t hlater (namesLater_step hseen hok)⟩

/-- The loop over the details has seen what was chosen before the run. -/
theorem persistDetails_seen {revisionMap : Dict MemberId Nat} {dbMap : Dict MemberId Row}
    {readAt : Nat} (details : List (MemberId × Detail)) {s : Store × ChosenNames}
    (hs : Seen dbMap readAt s) :
    Seeing site (fun _ _ => True) (persistDetails plan revisionMap dbMap readAt details) s := by
  induction details generalizing s with
  | nil => exact Prog.steady_pure trivial
  | cons entry details ih =>
    obtain ⟨id, detail⟩ := entry
    unfold persistDetails
    refine seeing_bind (only_onlyIf (only_attempt (makes_addNetworkMember (fun _ _ => rfl) id)))
      fun _ t₁ h₁ => ?_
    refine Prog.Steady.bind (Prog.steady_call fun t₂ h₂ hok => ?_)
    have hseen : Act.seen ⟨.persistDetail id (dbMap.get? id) detail (revisionMap.get? id) readAt,
        plan.outcome (.persistDetail id (dbMap.get? id) detail (revisionMap.get? id) readAt)⟩ t₂ :=
      (hs.later (h₁.trans h₂)).names id
    have hstep := @namesLater_step site _ _ hseen hok
    refine ⟨hseen, hstep, ?_⟩
    split
    · exact ih (hs.later ((h₁.trans h₂).trans hstep))
    · trivial

/-- The answer to `network_members` comes with the time at which it was given. -/
theorem clock_of_networkMembers {outcome : Outcome} {answer : Nat × Dict MemberId Nat}
    {t t' : Store × ChosenNames}
    (h : nameHandle site ⟨.networkMembers, outcome⟩ t = (.ok answer, t')) :
    answer.1 ≤ t'.1.clock := by
  cases outcome with
  | failsBefore => cases h
  | failsAfter => cases h
  | done =>
    cases h
    exact Nat.le_succ _

theorem rows_of_findMembers {outcome : Outcome} {dbMembers : Dict MemberId Row}
    {t t' : Store × ChosenNames}
    (h : nameHandle site ⟨.findMembers, outcome⟩ t = (.ok dbMembers, t')) :
    t.1.rows = dbMembers := by
  cases outcome with
  | failsBefore => cases h
  | failsAfter => cases h
  | done =>
    cases h
    rfl

/-- **What a run has read is right about the names that were chosen before it began.** -/
theorem reconcile_seen (full : Bool) (hs : NamesKept s) :
    Seeing site (fun _ _ => True) (reconcileNetworkMembers plan full) s := by
  unfold reconcileNetworkMembers
  refine Prog.Steady.bind (seeing_perform rfl fun t₁ h₁ h₁' => ?_)
  cases hstep : nameHandle site ⟨.networkMembers, plan.outcome .networkMembers⟩ t₁ with
  | mk r₁ t₂ =>
    rw [hstep] at h₁'
    cases r₁ with
    | error e => trivial
    | ok answer =>
      have hclock := clock_of_networkMembers hstep
      obtain ⟨readAt, revisionMap⟩ := answer
      refine Prog.Steady.bind (seeing_perform rfl fun t₃ h₃ h₃' => ?_)
      have hread : readAt ≤ t₃.1.clock := hclock.trans h₃.clock
      have hkept := h₃.kept (h₁'.kept (h₁.kept hs))
      cases hfind : nameHandle site ⟨.findMembers, plan.outcome .findMembers⟩ t₃ with
      | mk r₃ t₄ =>
        rw [hfind] at h₃'
        cases r₃ with
        | error e => trivial
        | ok dbMembers =>
          have hseen : Seen dbMembers readAt t₄ := by
            obtain rfl := rows_of_findMembers hfind
            exact (seen_rows hkept hread).later h₃'
          refine seeing_bind (makes_fetchMemberDetails (fun _ => rfl) _) fun details t₅ h₅ => ?_
          refine Prog.Steady.bind ((persistDetails_seen details (hseen.later h₅)).mono
            fun r t₆ _ => ?_)
          cases r with
          | error e => trivial
          | ok _ =>
            refine (seeing_of_makes ?_).mono fun _ _ _ => trivial
            refine Prog.Only.bind (only_onlyIf (makes_perform rfl)) fun _ => ?_
            refine Prog.Only.bind (only_consult _) fun live => ?_
            refine Prog.Only.bind (makes_perform rfl) fun active => ?_
            exact Prog.Only.bind (makes_writeVersions (fun _ _ => rfl) _ _) fun _ =>
              Prog.only_pure _

end Programs

/-! ## 4. Runs -/

/-- Only `reconcileNetworkMembers` adopts names. -/
theorem leavesNames_of_calls {op : Op} (hop : ∀ plan full, op ≠ .reconcile plan full) {q : Query}
    (hq : op.calls q = true) : q.leavesNames = true := by
  cases q with
  | persistDetail _ _ _ _ _ =>
    cases op with
    | reconcile plan full => exact absurd rfl (hop plan full)
    | _ => cases hq
  | _ => rfl

theorem program_seen (op : Op) {s : Store × ChosenNames} (hs : NamesKept s) :
    Seeing site (fun _ _ => True) op.program s := by
  by_cases hop : ∃ plan full, op = .reconcile plan full
  · obtain ⟨plan, full, rfl⟩ := hop
    refine Prog.Steady.bind ((reconcile_seen full hs).mono fun r t _ => ?_)
    cases r with
    | ok returned => trivial
    | error e => trivial
  · push Not at hop
    exact (seeing_of_makes ((program_makes op).mono fun _ => leavesNames_of_calls hop)).mono
      fun _ _ _ => trivial

/-- **Chosen names survive, exactly if no run passes over a choice.**  In every run of any
procedures, every row has the name that was chosen for it last, in all states of the run, if and
only if a `reconcileNetworkMembers` that has read no name for a member, and whose detail has one,
never meets a row for which another name was chosen since it began: by a user, or by the naming
policy when the row was inserted. -/
theorem chosen_names_survive_iff (site : Site) (store : Store) (chosen : ChosenNames)
    (hstore : NamesKept (store, chosen)) (events : List (PoolEvent Op)) :
    (∀ es, es <+: events → ∀ w,
        (memberMachine site (noteNames site)).run ⟨(store, chosen), []⟩ es = some w →
          NamesKept w.state) ↔
      (memberMachine site (noteNames site)).Conforms (PoolState.meets Act.undisputed)
        ⟨(store, chosen), []⟩ events :=
  pool_holds_iff NamesLater.refl (fun _ _ _ => NamesLater.trans) (fun op _ => program_seen op)
    (fun _ _ hs hseen hok => handle_namesKept hs hseen hok)
    (fun _ _ _ hnot => handle_not_namesKept hnot) hstore
    (fun _ hp => absurd hp List.not_mem_nil) events

/-- A call of a user whose new members are named by their ids. -/
def namingPlan : Plan where
  answer
    | .findNaming _ => .ok ⟨⟨true, false⟩, none⟩
    | consultation => plainPlan.answer consultation
  outcome := plainPlan.outcome

/-- A network that nobody has looked at, where the controller has a member. -/
def unseenNetwork (name : Option String) : Store where
  controller := Dict.empty.set "1" ⟨⟨true, [], false, false⟩, name, none, none, 5, ""⟩
  rows := Dict.empty
  nextNodeid := 1
  deliveries := []
  clock := 0

/-- The first run. -/
def firstSight : List (PoolEvent Op) :=
  [.start (.reconcile namingPlan false), .step 0, .step 0, .step 0, .step 0, .step 0, .step 0]

/-- No name has been chosen. -/
def noNames : ChosenNames := fun _ => ⟨none, 0⟩

theorem namesKept_noNames (s : Store) : NamesKept (s, noNames) := fun _ h => nomatch h

/-- **A chosen name that is lost.**  The member is named by its id when its row is written, and the
same run puts the controller's name over it. -/
theorem policy_name_is_overwritten :
    ∃ w, (memberMachine plainSite (noteNames plainSite)).run
        ⟨(unseenNetwork (some "laptop"), noNames), []⟩ firstSight = some w ∧ w.finished ∧
      (w.state.2 "1").name = some "1" ∧ (w.state.1.rows.get? "1").bind (fun row => row.name) =
      some "laptop" ∧
      ¬ NamesKept w.state := by
  refine Machine.exists_run (P := fun w => w.finished ∧ (w.state.2 "1").name = some "1" ∧
    (w.state.1.rows.get? "1").bind (fun row => row.name) = some "laptop") (by decide +kernel) ?_
  rintro w - ⟨hfinished, hchosen, hname⟩
  refine ⟨hfinished, hchosen, hname, fun hkept => ?_⟩
  obtain ⟨row, hrow, hlaptop⟩ := Option.bind_eq_some_iff.mp hname
  have hsame : row.name = some "1" := (hkept.row hrow (by rw [hchosen]; decide)).trans hchosen
  rw [hlaptop] at hsame
  exact absurd (Option.some.inj hsame) (by decide)

/-- A name is adopted where none was chosen.  Then a user chooses another, and the controller
reports the old one again. -/
def lateChoice : List (PoolEvent Op) :=
  [.start (.reconcile plainPlan false), .step 0, .step 0, .step 0, .step 0, .step 0, .step 0,
    .start (.update plainPlan "1" { noParams with name := some "desk" }), .step 1, .step 1, .step 1,
    .start (.changeController plainPlan (unseenNetwork (some "laptop")).controller), .step 2,
    .start (.reconcile plainPlan true), .step 3, .step 3, .step 3, .step 3, .step 3]

/-- The name that the user has chosen survives. -/
theorem late_choice_survives :
    ∃ w, (memberMachine plainSite (noteNames plainSite)).run
        ⟨(unseenNetwork (some "laptop"), noNames), []⟩ lateChoice = some w ∧ w.finished ∧
      (w.state.2 "1").name = some "desk" ∧ NamesKept w.state := by
  refine Machine.exists_run (P := fun w => w.finished ∧ (w.state.2 "1").name = some "desk")
    (by decide +kernel) ?_
  rintro w hw ⟨hfinished, hchosen⟩
  have hkept := chosen_names_survive_iff plainSite (unseenNetwork (some "laptop")) noNames
    (namesKept_noNames _) lateChoice
  exact ⟨hfinished, hchosen, hkept.mpr (by decide +kernel) _ (List.prefix_refl _) w hw⟩

end ZtPlanet.Ztnet.Members
