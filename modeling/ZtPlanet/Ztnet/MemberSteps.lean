/-
# What a step does to a member

Every call concerns the controller or the rows, and of these, at most what there is about some
members.  `run_rows` says for each call what becomes of the row of a member, and `run_controller`
what the controller holds then; the proofs about runs use these two and never look into a call
again.  Which calls a procedure can make at all, `program_makes` says.
-/
import ZtPlanet.Ztnet.Members

namespace ZtPlanet.Ztnet.Members

open ZtPlanet.Lib

/-! ## 1. The row of a member -/

/-- What becomes of the row of the member `id`. -/
def Query.rowAfter (s : Store) (id : MemberId) :
    Query → Option Row → Option Row
  | .addMember j name, row =>
    if j = id then row <|> some (newRow s.nextNodeid name (some "")) else row
  | .persistDetail j db detail revision _, row =>
    if j = id then row.map (observed db j detail revision).write else row
  | .removeOrphans orphans _, row => if id ∈ orphans.map Prod.fst then none else row
  | .writeVersion j vMajor, row =>
    if j = id then row.map fun row => row.withVersion (some vMajor) else row
  | .restoreMember j name _, row => if j = id then row.map (restored name) else row
  | .createMember j name authorized ipAssignments, row =>
    if j = id then row <|> some (createdRow s.nextNodeid j name authorized ipAssignments)
    else row
  | .updateMember j _ data _, row => if j = id then row.map (writeData data) else row
  | .updateFlags j deleted description, row =>
    if j = id then row.map (writeFlags deleted description) else row
  | .markDeleted j, row =>
    if j = id then row.map fun row => { row with deleted := some true } else row
  | .markPermanentlyDeleted j, row =>
    if j = id then row.map fun row => { row with permanentlyDeleted := some true } else row
  | .deleteMember j _, row => if j = id then none else row
  | .deleteStashed ids, row => row.map (deleteIfStashed ids id)
  | .writeThrough j data restore, row => if j = id then row.map (writeRest data restore) else row
  | .createRow j data, row =>
    if j = id then row <|> some (requestedRow s.nextNodeid j data) else row
  | .cacheMember j detail, row => if j = id then row.map (cacheFields detail) else row
  | .renameActive j data, row => if j = id then row.map (writeActive data) else row
  | _, row => row

variable {site : Site} {s : Store} {id j : MemberId}

/-- A row that is changed, where there is one. -/
theorem get?_set_map {row : Row} {f : Row → Row} (hrow : s.rows.get? j = some row) :
    (s.rows.set j (f row)).get? id =
      if j = id then (s.rows.get? id).map f else s.rows.get? id := by
  rw [Dict.get?_set]
  by_cases hj : j = id
  · rw [if_pos hj, if_pos hj, ← hj, hrow, Option.map_some]
  · rw [if_neg hj, if_neg hj]

theorem map_of_none {f : Row → Row} (hrow : s.rows.get? j = none) :
    s.rows.get? id = if j = id then (s.rows.get? id).map f else s.rows.get? id := by
  by_cases hj : j = id
  · rw [if_pos hj, ← hj, hrow, Option.map_none]
  · rw [if_neg hj]

/-- A row that is inserted, where there is none. -/
theorem get?_set_new {row : Row} (hrow : s.rows.get? j = none) :
    (s.rows.set j row).get? id =
      if j = id then s.rows.get? id <|> some row else s.rows.get? id := by
  rw [Dict.get?_set]
  by_cases hj : j = id
  · rw [if_pos hj, if_pos hj, ← hj, hrow]
    rfl
  · rw [if_neg hj, if_neg hj]

theorem orElse_of_some {row row' : Row} (hrow : s.rows.get? j = some row) :
    s.rows.get? id = if j = id then s.rows.get? id <|> some row' else s.rows.get? id := by
  by_cases hj : j = id
  · rw [if_pos hj, ← hj, hrow]
    rfl
  · rw [if_neg hj]

theorem updateRow_rows (f : Row → Row) :
    (s.updateRow j f).2.rows.get? id =
      if j = id then (s.rows.get? id).map f else s.rows.get? id := by
  unfold Store.updateRow
  cases hrow : s.rows.get? j with
  | some row => exact get?_set_map hrow
  | none => exact map_of_none hrow

/-- **What a call does to a row.** -/
theorem run_rows (q : Query) (s : Store) (id : MemberId) :
    (q.run site s).2.rows.get? id = q.rowAfter s id (s.rows.get? id) := by
  cases q with
  | networkMembers | memberUpdate _ _ | memberDelete _ | changeController _ | findMembers
  | findActive _ | findStashed | findMember _ => rfl
  | memberDetails j =>
    simp only [Query.run]
    split
    · rfl
    · rfl
  | addMember j name =>
    change (s.addMember site j name).rows.get? id = _
    rw [s.addMember_rows]
    cases hrow : s.rows.get? j with
    | some row => exact orElse_of_some hrow
    | none => exact get?_set_new hrow
  | persistDetail j db detail revision readAt =>
    change ((s.modify j _).enqueueSome site _).rows.get? id = _
    rw [Store.enqueueSome_rows]
    exact s.get?_modify j id _
  | removeOrphans orphans readAt =>
    change (s.removeOrphans site orphans).rows.get? id = _
    rw [s.removeOrphans_rows, Dict.get?_filter, Query.rowAfter]
    by_cases hid : id ∈ orphans.map Prod.fst
    · rw [if_pos hid, Option.filter_eq_none_iff]
      intro row _
      simpa using hid
    · rw [if_neg hid]
      cases s.rows.get? id with
      | none => rfl
      | some row => exact Option.filter_some_pos (by simpa using hid)
  | writeVersion j vMajor => exact s.get?_modify j id _
  | restoreMember j name revision =>
    change (s.restoreMember site j name revision).2.rows.get? id = _
    unfold Store.restoreMember
    cases hrow : s.rows.get? j with
    | some row =>
      dsimp only
      rw [Store.enqueueSome_rows]
      exact get?_set_map hrow
    | none => exact map_of_none hrow
  | createMember j name authorized ipAssignments =>
    change (s.createMember site j name authorized ipAssignments).2.rows.get? id = _
    unfold Store.createMember
    cases hrow : s.rows.get? j with
    | some row => exact orElse_of_some hrow
    | none =>
      dsimp only
      rw [Store.enqueue_rows]
      exact get?_set_new hrow
  | updateMember j dbMember data revision =>
    change (s.updateMember site j dbMember data revision).2.rows.get? id = _
    unfold Store.updateMember
    cases hrow : s.rows.get? j with
    | some row =>
      dsimp only
      rw [Store.enqueueSome_rows]
      exact get?_set_map hrow
    | none => exact map_of_none hrow
  | updateFlags j deleted description => exact updateRow_rows _
  | markDeleted j => exact s.get?_modify j id _
  | markPermanentlyDeleted j => exact updateRow_rows _
  | deleteMember j nodeid =>
    change (s.deleteMember site j nodeid).2.rows.get? id = _
    unfold Store.deleteMember
    cases hrow : s.rows.get? j with
    | some row =>
      dsimp only
      rw [Store.enqueueSome_rows]
      exact Dict.get?_erase s.rows j id
    | none =>
      rw [Query.rowAfter]
      by_cases hj : j = id
      · rw [if_pos hj, ← hj, hrow]
      · rw [if_neg hj]
  | deleteStashed ids => exact Dict.get?_map _ _ _
  | writeThrough j data restore => exact updateRow_rows _
  | createRow j data =>
    change (s.createRow j data).2.rows.get? id = _
    unfold Store.createRow
    cases hrow : s.rows.get? j with
    | some row => exact orElse_of_some hrow
    | none => exact get?_set_new hrow
  | cacheMember j detail => exact s.get?_modify j id _
  | renameActive j data => exact s.get?_modify j id _

section ForAllRows

variable {P : MemberId → Row → Prop} {rows : Dict MemberId Row}

/-- A property of all rows survives the change of one of them that keeps it. -/
theorem forall_rows_modify {j : MemberId} {f : Row → Row}
    (h : ∀ id, ∀ row ∈ rows.get? id, P id row)
    (hf : ∀ row ∈ rows.get? j, P j row → P j (f row)) :
    ∀ id, ∀ row ∈ if j = id then (rows.get? id).map f else rows.get? id, P id row := by
  intro id row hrow
  split at hrow
  · next hj =>
    subst hj
    obtain ⟨row₀, hrow₀, rfl⟩ := Option.map_eq_some_iff.mp hrow
    exact hf row₀ hrow₀ (h j row₀ hrow₀)
  · exact h id row hrow

/-- A property of all rows survives the insertion of one that has it. -/
theorem forall_rows_insert {j : MemberId} {new : Row}
    (h : ∀ id, ∀ row ∈ rows.get? id, P id row) (hnew : rows.get? j = none → P j new) :
    ∀ id, ∀ row ∈ if j = id then rows.get? id <|> some new else rows.get? id, P id row := by
  intro id row hrow
  cases hrow₀ : rows.get? id with
  | some row₀ =>
    rw [hrow₀] at hrow
    obtain rfl : row₀ = row := by
      split at hrow
      · exact Option.some.inj hrow
      · exact Option.some.inj hrow
    exact h id row₀ hrow₀
  | none =>
    rw [hrow₀] at hrow
    split at hrow
    · next hj =>
      subst hj
      obtain rfl := Option.some.inj hrow
      exact hnew hrow₀
    · cases hrow

/-- A property of all rows survives the removal of some. -/
theorem forall_rows_remove {p : MemberId → Prop} [∀ id, Decidable (p id)]
    (h : ∀ id, ∀ row ∈ rows.get? id, P id row) :
    ∀ id, ∀ row ∈ if p id then none else rows.get? id, P id row := by
  intro id row hrow
  split at hrow
  · cases hrow
  · exact h id row hrow

end ForAllRows

/-! ## 2. The controller -/

/-- What the controller holds then. -/
def Query.controllerAfter (site : Site) (controller : Dict MemberId Detail) :
    Query → Dict MemberId Detail
  | .memberUpdate j payload => controller.set j (site.update (controller.get? j) payload)
  | .memberDelete j => controller.erase j
  | .changeController controller' => controller'
  | _ => controller

/-- **What a call does to the controller.** -/
theorem run_controller (q : Query) (s : Store) :
    (q.run site s).2.controller = q.controllerAfter site s.controller := by
  cases q with
  | networkMembers | memberUpdate _ _ | memberDelete _ | changeController _ | findMembers
  | findActive _ | findStashed | findMember _ | deleteStashed _ => rfl
  | memberDetails j =>
    simp only [Query.run]
    split
    · rfl
    · rfl
  | addMember j name => exact s.addMember_controller site j name
  | persistDetail j db detail revision readAt =>
    exact (Store.enqueueSome_controller _ _ _).trans (s.modify_controller j _)
  | removeOrphans orphans readAt => exact s.removeOrphans_controller site orphans
  | writeVersion _ _ | markDeleted _ | cacheMember _ _ | renameActive _ _ =>
    exact s.modify_controller _ _
  | restoreMember j name revision =>
    change (s.restoreMember site j name revision).2.controller = _
    unfold Store.restoreMember
    split
    · exact Store.enqueueSome_controller _ _ _
    · rfl
  | createMember j name authorized ipAssignments =>
    change (s.createMember site j name authorized ipAssignments).2.controller = _
    unfold Store.createMember
    split
    · rfl
    · exact Store.enqueue_controller _ _ _
  | updateMember j dbMember data revision =>
    change (s.updateMember site j dbMember data revision).2.controller = _
    unfold Store.updateMember
    split
    · exact Store.enqueueSome_controller _ _ _
    · rfl
  | updateFlags _ _ _ | markPermanentlyDeleted _ | writeThrough _ _ _ =>
    change (s.updateRow _ _).2.controller = _
    unfold Store.updateRow
    split
    · rfl
    · rfl
  | deleteMember j nodeid =>
    change (s.deleteMember site j nodeid).2.controller = _
    unfold Store.deleteMember
    split
    · exact Store.enqueueSome_controller _ _ _
    · rfl
  | createRow j data =>
    change (s.createRow j data).2.controller = _
    unfold Store.createRow
    split
    · rfl
    · rfl

/-! ## 3. Steps -/

/-- The call is carried out. -/
def Act.takesEffect (act : Act) : Bool := act.outcome ≠ .failsBefore

/-- What a step does to a row. -/
theorem handle_rows (act : Act) (s : Store) (id : MemberId) :
    (handle site act s).2.rows.get? id =
      if act.takesEffect then act.query.rowAfter s id (s.rows.get? id)
      else s.rows.get? id := by
  obtain ⟨query, outcome⟩ := act
  cases outcome with
  | done => exact run_rows query s id
  | failsBefore => rfl
  | failsAfter => exact run_rows query s id

/-- What a step does to the controller. -/
theorem handle_controller (act : Act) (s : Store) :
    (handle site act s).2.controller =
      if act.takesEffect then act.query.controllerAfter site s.controller else s.controller := by
  obtain ⟨query, outcome⟩ := act
  cases outcome with
  | done => exact run_controller query s
  | failsBefore => rfl
  | failsAfter => exact run_controller query s

/-- Every step takes one unit of time. -/
theorem handle_clock (act : Act) (s : Store) : (handle site act s).2.clock = s.clock + 1 := by
  obtain ⟨query, outcome⟩ := act
  cases outcome with
  | done => rfl
  | failsBefore => rfl
  | failsAfter => rfl

/-! ## 4. Which calls a procedure makes -/

/-- The calls of `Update`. -/
def Query.ofUpdate : Query → Bool
  | .memberUpdate _ _ | .findMember _ | .updateMember _ _ _ _ => true
  | _ => false

/-- The calls of `stash`. -/
def Query.ofStash : Query → Bool
  | .markDeleted _ => true
  | q => q.ofUpdate

/-- The calls that a procedure makes, if any. -/
def Op.calls : Op → Query → Bool
  | .reconcile _ _ => fun
    | .networkMembers | .findMembers | .memberDetails _ | .addMember _ _ | .persistDetail _ _ _ _ _
    | .removeOrphans _ _ | .findActive _ | .writeVersion _ _ => true
    | _ => false
  | .create _ _ _ => fun
    | .memberUpdate _ payload => payload.authorized.isNone
    | .findMember _ | .restoreMember _ _ _ | .createMember _ _ _ _ => true
    | _ => false
  | .update _ _ _ => Query.ofUpdate
  | .updateElsewhere _ _ _ _ => fun
    | .findMember _ | .memberUpdate _ _ | .renameActive _ _ => true
    | _ => false
  | .updateDatabaseOnly _ _ deleted _ => fun
    | .updateFlags _ deleted' _ => deleted' == deleted
    | _ => false
  | .stash _ _ | .restDelete _ _ _ => Query.ofStash
  | .delete _ _ => fun
    | .findMember _ | .memberDelete _ | .markPermanentlyDeleted _ | .deleteMember _ _ => true
    | _ => false
  | .bulkDeleteStashed _ => fun
    | .findStashed | .deleteStashed _ => true
    | _ => false
  | .restPost _ _ _ _ => fun
    | .findMember _ | .writeThrough _ _ _ | .createRow _ _ | .memberUpdate _ _ | .memberDetails _
    | .cacheMember _ _ => true
    | _ => false
  | .changeController _ _ => fun
    | .changeController _ => true
    | _ => false

section Calls

variable {plan : Plan} {calls : Query → Bool}

/-- The program makes no other calls than these. -/
abbrev Makes (calls : Query → Bool) {α : Type} (p : Proc α) : Prop :=
  Prog.Only (fun act : Act => calls act.query = true) p

theorem makes_perform {query : Query} (h : calls query = true) :
    Makes calls (perform plan query) :=
  only_perform fun _ => h

theorem makes_enter (endpoint : Endpoint) : Makes calls (enter plan endpoint) :=
  Prog.Only.bind (only_consult _) fun _ => only_consult _

theorem makes_fetchMemberDetails (h : ∀ id, calls (.memberDetails id) = true)
    (ids : List MemberId) : Makes calls (fetchMemberDetails plan ids) := by
  induction ids with
  | nil => exact Prog.only_pure _
  | cons id ids ih =>
    unfold fetchMemberDetails
    refine Prog.Only.bind (Prog.Only.tryCatch ?_ fun _ => Prog.only_pure _) fun _ => ?_
    · exact Prog.Only.bind (makes_perform (h id)) fun _ => Prog.only_pure _
    · exact ih.bind fun _ => Prog.only_pure _

theorem makes_newMemberName (id : MemberId) : Makes calls (newMemberName plan id) := by
  unfold newMemberName
  refine (only_consult _).bind fun naming => ?_
  cases naming.organization with
  | some renameNodeGlobally =>
    cases renameNodeGlobally with
    | true => exact only_consult _
    | false => exact Prog.only_pure _
  | none =>
    dsimp only
    split
    · exact (only_consult _).bind fun _ => Prog.only_pure _
    · exact Prog.only_pure _

theorem makes_addNetworkMember (h : ∀ id name, calls (.addMember id name) = true)
    (id : MemberId) : Makes calls (addNetworkMember plan id) :=
  Prog.Only.bind (makes_newMemberName id) fun name => makes_perform (h id name)

theorem makes_persistDetails (hadd : ∀ id name, calls (.addMember id name) = true)
    (hpersist : ∀ id db detail revision readAt,
      calls (.persistDetail id db detail revision readAt) = true)
    (revisionMap : Dict MemberId Nat) (dbMap : Dict MemberId Row) (readAt : Nat)
    (details : List (MemberId × Detail)) :
    Makes calls (persistDetails plan revisionMap dbMap readAt details) := by
  induction details with
  | nil => exact Prog.only_pure _
  | cons entry details ih =>
    unfold persistDetails
    refine (only_onlyIf (only_attempt (makes_addNetworkMember hadd _))).bind fun _ => ?_
    exact Prog.Only.bind (makes_perform (hpersist _ _ _ _ _)) fun _ => ih

theorem makes_writeVersions (h : ∀ id vMajor, calls (.writeVersion id vMajor) = true)
    (live : MemberId → Option Int) (rows : List (MemberId × Row)) :
    Makes calls (writeVersions plan live rows) := by
  induction rows with
  | nil => exact Prog.only_pure _
  | cons entry rows ih =>
    unfold writeVersions
    split
    · exact Prog.Only.bind (only_onlyIf (makes_perform (h _ _))) fun _ => ih
    · exact ih

theorem makes_globalName (organization : Bool) (id : MemberId) :
    Makes calls (globalName plan organization id) := by
  unfold globalName
  refine Prog.Only.bind ?_ fun inScope => ?_
  · unfold namesGlobally
    split
    · exact only_consult _
    · exact Prog.only_pure _
  · split
    · exact Prog.Only.bind (only_consult _) fun _ => Prog.only_pure _
    · exact Prog.only_pure _

theorem makes_createRows (organization : Bool) (id : MemberId) (controllerMember : Detail) :
    Makes (Op.create plan organization id).calls
      (createRows plan organization id controllerMember) := by
  unfold createRows
  refine Prog.Only.bind (makes_perform rfl) fun member => ?_
  cases member with
  | some member =>
    refine Prog.Only.bind ?_ fun _ => makes_perform rfl
    unfold restoredName
    refine Prog.Only.bind (only_consult _) fun userOptions => ?_
    split
    · exact Prog.Only.bind (makes_globalName _ _) fun _ => Prog.only_pure _
    · split
      · exact Prog.only_pure _
      · exact Prog.only_pure _
  | none =>
    refine Prog.Only.bind ?_ fun _ => makes_perform rfl
    unfold createdName
    refine Prog.Only.bind (only_consult _) fun userOptions => Prog.Only.bind ?_ fun _ => ?_
    · unfold nameElsewhere
      split
      · exact makes_globalName _ _
      · exact Prog.only_pure _
    · split
      · exact Prog.only_pure _
      · exact Prog.only_pure _

/-- The calls of `Update` behind the one of the controller. -/
theorem makes_updateRow (hfind : ∀ id, calls (.findMember id) = true)
    (hwrite : ∀ id dbMember data revision, calls (.updateMember id dbMember data revision) = true)
    (id : MemberId) (params : UpdateParams) (updatedMember : Detail) :
    Makes calls (updateRow plan id params updatedMember) := by
  unfold updateRow
  refine Prog.Only.bind (makes_perform (hfind _)) fun dbMember => ?_
  cases dbMember with
  | some dbMember => exact only_onlyIf (makes_perform (hwrite _ _ _ _))
  | none => exact Prog.only_pure _

/-- `Update` sends the controller what it is given, and nothing else. -/
theorem makes_update {id : MemberId} {params : UpdateParams}
    (hsend : calls (.memberUpdate id ⟨params, none, none⟩) = true)
    (hfind : ∀ id, calls (.findMember id) = true)
    (hwrite : ∀ id dbMember data revision, calls (.updateMember id dbMember data revision) = true) :
    Makes calls (update plan id params) := by
  unfold update
  refine Prog.Only.bind (makes_enter _) fun _ => Prog.Only.bind (only_consult _) fun _ => ?_
  refine Prog.Only.bind (only_onlyIf (only_consult _)) fun _ => ?_
  refine Prog.Only.bind (only_consult _) fun _ => ?_
  refine Prog.Only.bind (Prog.Only.tryCatch (makes_perform hsend)
    fun _ => Prog.only_throw _) fun updatedMember => ?_
  exact Prog.Only.bind (makes_updateRow hfind hwrite _ _ _) fun _ => only_attempt (only_consult _)

theorem makes_stash (id : MemberId) : Makes Query.ofStash (stash plan id) := by
  unfold stash
  refine Prog.Only.bind (makes_enter _) fun _ => ?_
  refine Prog.Only.bind (only_attempt (makes_update rfl (fun _ => rfl) fun _ _ _ _ => rfl))
    fun _ => ?_
  refine Prog.Only.bind (only_attempt (makes_perform rfl)) fun _ => ?_
  exact only_attempt (only_consult _)

theorem makes_restRow (h : ∀ id, calls (.findMember id) = true) (id : MemberId) (network : Bool) :
    Makes calls (restRow plan id network) := by
  unfold restRow
  split
  · exact makes_perform (h id)
  · exact Prog.only_pure _

theorem makes_restPost (route : Route) (id : MemberId) (body : Body) :
    Makes (Op.restPost plan route id body).calls (restPost plan route id body) := by
  unfold restPost
  refine only_onlyIf ?_
  refine Prog.Only.bind (only_consult _) fun _ => Prog.Only.bind (only_consult _) fun network => ?_
  refine Prog.Only.bind (makes_restRow (fun _ => rfl) _ _) fun dbMember => only_onlyIf ?_
  refine Prog.Only.bind ?_ fun _ => ?_
  · unfold restWrite
    cases dbMember with
    | some dbMember => exact only_onlyIf (makes_perform rfl)
    | none =>
      cases route with
      | organization => exact makes_perform rfl
      | personal => exact Prog.only_pure _
  · unfold restSend
    refine Prog.Only.bind (only_onlyIf ?_) fun _ => ?_
    · exact Prog.Only.bind (makes_perform rfl) fun _ => Prog.only_pure _
    refine Prog.Only.bind (makes_perform rfl) fun _ => ?_
    cases route with
    | organization =>
      refine Prog.Only.bind (Prog.Only.tryCatch ?_ fun _ => Prog.only_pure _) fun detail => ?_
      · exact Prog.Only.bind (makes_perform rfl) fun _ => Prog.only_pure _
      · cases detail with
        | some detail => exact makes_perform rfl
        | none => exact Prog.only_pure _
    | personal =>
      refine Prog.Only.bind (makes_perform rfl) fun detail => ?_
      exact makes_perform rfl

theorem makes_reconcile (full : Bool) :
    Makes (Op.reconcile plan full).calls (reconcileNetworkMembers plan full) := by
  unfold reconcileNetworkMembers
  refine Prog.Only.bind (makes_perform rfl) fun answer => ?_
  refine Prog.Only.bind (makes_perform rfl) fun dbMembers => ?_
  refine Prog.Only.bind (makes_fetchMemberDetails (fun _ => rfl) _) fun details => ?_
  refine Prog.Only.bind (makes_persistDetails (fun _ _ => rfl) (fun _ _ _ _ _ => rfl) _ _ _ _)
    fun _ => ?_
  refine Prog.Only.bind (only_onlyIf (makes_perform rfl)) fun _ => ?_
  refine Prog.Only.bind (only_consult _) fun live => ?_
  refine Prog.Only.bind (makes_perform rfl) fun active => ?_
  exact Prog.Only.bind (makes_writeVersions (fun _ _ => rfl) _ _) fun _ => Prog.only_pure _

/-- **A procedure makes no other calls than its own.** -/
theorem program_makes (op : Op) : Makes op.calls op.program := by
  cases op with
  | reconcile plan full => exact Prog.Only.bind (makes_reconcile full) fun _ => Prog.only_pure _
  | create plan organization id =>
    refine Prog.Only.bind (makes_enter _) fun _ => ?_
    refine Prog.Only.bind (makes_perform rfl) fun _ => ?_
    exact Prog.Only.bind (makes_createRows _ _ _) fun _ => only_attempt (only_consult _)
  | update plan id params => exact makes_update rfl (fun _ => rfl) fun _ _ _ _ => rfl
  | updateElsewhere plan id params withDescription =>
    refine Prog.Only.bind (makes_perform rfl) fun _ => only_onlyIf ?_
    exact Prog.Only.bind (makes_perform rfl) fun _ => makes_perform rfl
  | updateDatabaseOnly plan id deleted description =>
    refine Prog.Only.bind (makes_enter _) fun _ => ?_
    exact Prog.Only.bind (makes_perform (beq_self_eq_true deleted)) fun _ =>
      only_attempt (only_consult _)
  | stash plan id => exact makes_stash id
  | delete plan id =>
    refine Prog.Only.bind (makes_enter _) fun _ => ?_
    refine Prog.Only.bind (makes_perform rfl) fun _ => ?_
    refine Prog.Only.bind (only_onlyIf (makes_perform rfl)) fun _ => ?_
    refine Prog.Only.bind (only_onlyIf (makes_perform rfl)) fun _ => ?_
    refine Prog.Only.bind (only_onlyIf (makes_perform rfl)) fun _ => ?_
    exact only_attempt (only_consult _)
  | bulkDeleteStashed plan =>
    refine Prog.Only.bind (only_consult _) fun _ => ?_
    refine Prog.Only.bind (makes_perform rfl) fun _ => only_onlyIf ?_
    refine Prog.Only.bind (makes_perform rfl) fun _ => ?_
    exact Prog.Only.bind (only_consult _) fun _ => only_attempt (only_consult _)
  | restPost plan route id body => exact makes_restPost route id body
  | restDelete plan route id =>
    cases route with
    | organization => exact makes_stash id
    | personal =>
      refine Prog.Only.bind (only_consult _) fun network => ?_
      exact Prog.Only.bind (makes_restRow (fun _ => rfl) _ _) fun _ => only_onlyIf (makes_stash id)
  | changeController plan controller => exact makes_perform rfl

end Calls

end ZtPlanet.Ztnet.Members
