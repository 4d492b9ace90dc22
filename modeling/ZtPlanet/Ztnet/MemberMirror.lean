/-
# Reconciling makes the database a mirror

`reconcileNetworkMembers` copies the controller's members into the database.  It fetches a member
only where the row is new, has never been filled, or has another revision than the controller
reports; a full run fetches all.  Rows that are hidden it leaves alone, and rows that are shown it
removes where the controller does not have the member.

So behind a run the rows that are shown are the controller's members, and each of them has the
controller's revision.  Their configuration is the controller's too, if it was for those that the
run skips (`Current`), and that is the whole condition: `mirrorsThroughout_iff_current`.  Behind
the first run of a sequence it is met by itself, whatever becomes of the controller in between, as
long as a configuration does not change without its revision.
-/
import ZtPlanet.Ztnet.Members

namespace ZtPlanet.Ztnet.Members

open ZtPlanet.Lib

/-! ## 1. Mirrors -/

/-- What a run is to leave behind: `before` is where it began, `after` where it ended. -/
structure Mirrors (before after : Store) (returned : List MemberId) : Prop where
  controller : after.controller = before.controller
  /-- the rows that are shown are the controller's members whose rows are not deleted -/
  shown : ∀ id, (∃ row, after.rows.get? id = some row ∧ row.isDeleted = false) ↔
    after.controller.contains id = true ∧
      ¬ ∃ row, after.rows.get? id = some row ∧ row.isDeleted = true
  config : ∀ id row detail, after.rows.get? id = some row → row.isDeleted = false →
    after.controller.get? id = some detail →
      row.config = detail.config ∧ row.revision = some detail.revision
  /-- deleted rows are left unchanged -/
  hidden : ∀ id row, before.rows.get? id = some row → row.isDeleted = true →
    after.rows.get? id = some row
  /-- and never returned -/
  returned : ∀ id ∈ returned, ∃ row, after.rows.get? id = some row ∧ row.isDeleted = false

/-- Every call succeeds. -/
structure Plan.Succeeds (plan : Plan) : Prop where
  answer : ∀ consultation, ∃ a, plan.answer consultation = .ok a
  outcome : ∀ query, plan.outcome query = .done

/-- A run of `reconcileNetworkMembers`, with what the controller holds when it begins. -/
structure Run where
  controller : Dict MemberId Detail
  plan : Plan
  full : Bool

/-- The state in which a run begins. -/
def Run.start (run : Run) (s : Store) : Store := { s with controller := run.controller }

/-- The outcome of a run and the state behind it. -/
def Run.result (site : Site) (run : Run) (s : Store) : Except Failure (List MemberId) × Store :=
  Prog.exec (handle site) (reconcileNetworkMembers run.plan run.full) (run.start s)

/-- Every run of a sequence ends and leaves a mirror. -/
def MirrorsThroughout (site : Site) : List Run → Store → Prop
  | [], _ => True
  | run :: runs, s => ∃ returned t, run.result site s = (.ok returned, t) ∧
      Mirrors (run.start s) t returned ∧ MirrorsThroughout site runs t

/-- The controller's configuration of a member has not changed without its revision. -/
def RevisionsMove (before after : Run) : Prop :=
  ∀ id detail detail', before.controller.get? id = some detail →
    after.controller.get? id = some detail' → detail.revision = detail'.revision →
      detail.config = detail'.config

/-- The rows that the run skips hold the controller's configuration. -/
def Current (run : Run) (s : Store) : Prop :=
  ∀ id row detail, s.rows.get? id = some row → run.controller.get? id = some detail →
    row.isDeleted = false → needsDetail run.full (some row) detail.revision = false →
      row.config = detail.config

/-! ## 2. The parts of a run -/

variable (site : Site) {plan : Plan} {s : Store}

theorem exec_perform (hplan : plan.Succeeds) {query : Query} {a : query.Ans} {u : Store}
    (hrun : query.run site s = (.ok a, u)) :
    Prog.exec (handle site) (perform plan query) s = (.ok a, { u with clock := s.clock + 1 }) := by
  unfold perform
  rw [hplan.outcome query, Prog.exec_call]
  simp only [handle, hrun]

theorem exec_consult (hplan : plan.Succeeds) (consultation : Consultation) :
    ∃ a, Prog.exec (handle site) (consult plan consultation) s = (.ok a, s) := by
  obtain ⟨a, ha⟩ := hplan.answer consultation
  refine ⟨a, ?_⟩
  unfold consult
  rw [ha, Prog.exec_ofExcept]

/-- The details that the controller has for some ids. -/
def detailsOf (controller : Dict MemberId Detail) (ids : List MemberId) :
    List (MemberId × Detail) :=
  ids.filterMap fun id => (controller.get? id).map fun detail => (id, detail)

theorem exec_fetchMemberDetails (hplan : plan.Succeeds) (ids : List MemberId) (s : Store) :
    ∃ t, Prog.exec (handle site) (fetchMemberDetails plan ids) s =
        (.ok (detailsOf s.controller ids), t) ∧ t.controller = s.controller ∧ t.rows = s.rows := by
  induction ids generalizing s with
  | nil => exact ⟨s, rfl, rfl, rfl⟩
  | cons id ids ih =>
    unfold fetchMemberDetails
    cases hdetail : s.controller.get? id with
    | some detail =>
      have hrun : (Query.memberDetails id).run site s = (.ok detail, s) := by
        simp only [Query.run, hdetail]
      obtain ⟨t, hrest, hcontroller, hrows⟩ := ih { s with clock := s.clock + 1 }
      refine ⟨t, ?_, hcontroller, hrows⟩
      rw [Prog.exec_bind, Prog.exec_tryCatch, Prog.exec_bind, exec_perform site hplan hrun]
      simp only [Prog.exec_pure]
      rw [Prog.exec_bind_ok hrest, Prog.exec_pure]
      simp only [detailsOf, List.filterMap_cons, hdetail, Option.map_some, Option.toList_some,
        List.singleton_append]
    | none =>
      obtain ⟨t, hrest, hcontroller, hrows⟩ := ih { s with clock := s.clock + 1 }
      refine ⟨t, ?_, hcontroller, hrows⟩
      have hfails : Prog.exec (handle site) (perform plan (.memberDetails id)) s =
          (.error memberNotFound, { s with clock := s.clock + 1 }) := by
        unfold perform
        rw [hplan.outcome, Prog.exec_call]
        simp only [handle, Query.run, hdetail]
      rw [Prog.exec_bind, Prog.exec_tryCatch, Prog.exec_bind, hfails]
      simp only [Prog.exec_pure]
      rw [Prog.exec_bind_ok hrest, Prog.exec_pure]
      simp only [detailsOf, List.filterMap_cons, hdetail, Option.map_none, Option.toList_none,
        List.nil_append]

theorem exec_newMemberName (hplan : plan.Succeeds) (id : MemberId) :
    ∃ name, Prog.exec (handle site) (newMemberName plan id) s = (.ok name, s) := by
  unfold newMemberName
  obtain ⟨naming, hnaming⟩ := exec_consult site (s := s) hplan (.findNaming id)
  obtain ⟨found, hfound⟩ := exec_consult site (s := s) hplan (.findNameElsewhere id)
  rw [Prog.exec_bind_ok hnaming]
  cases naming.organization with
  | some renameNodeGlobally =>
    cases renameNodeGlobally with
    | true => exact ⟨_, hfound⟩
    | false => exact ⟨_, rfl⟩
  | none =>
    dsimp only
    by_cases hglobal : naming.user.renameNodeGlobally = true
    · rw [if_pos hglobal, Prog.exec_bind_ok hfound]
      exact ⟨_, rfl⟩
    · rw [if_neg hglobal]
      exact ⟨_, rfl⟩

/-- A new member gets a row that is shown. -/
theorem exec_addNetworkMember (hplan : plan.Succeeds) {id : MemberId}
    (hnone : s.rows.get? id = none) :
    ∃ row t, Prog.exec (handle site) (attempt (addNetworkMember plan id)) s = (.ok (), t) ∧
      t.controller = s.controller ∧ t.rows = s.rows.set id row ∧ row.deleted = some false ∧
        row.permanentlyDeleted = some false := by
  obtain ⟨name, hname⟩ := exec_newMemberName site (s := s) hplan id
  have hadd : Prog.exec (handle site) (perform plan (.addMember id name)) s =
      (.ok (), { s.addMember site id name with clock := s.clock + 1 }) :=
    exec_perform site hplan rfl
  refine ⟨newRow s.nextNodeid name (some ""),
    { s.addMember site id name with clock := s.clock + 1 },
    ?_, s.addMember_controller site id name, ?_, rfl, rfl⟩
  · unfold attempt addNetworkMember
    rw [Prog.exec_tryCatch, Prog.exec_bind_ok hname, hadd]
  · refine (s.addMember_rows site id name).trans ?_
    rw [hnone]
    rfl

/-- What the loop over the details makes of the rows `before` it. -/
def Persisted (revisionMap : Dict MemberId Nat)
    (dbMap before after : Dict MemberId Row) (details : List (MemberId × Detail)) : Prop :=
  ∀ id, (id ∉ details.map Prod.fst → after.get? id = before.get? id) ∧
    ∀ detail, (id, detail) ∈ details → ∃ row,
      (before.get? id = some row ∨
        before.get? id = none ∧ row.deleted = some false ∧ row.permanentlyDeleted = some false) ∧
      after.get? id =
        some ((observed (dbMap.get? id) id detail (revisionMap.get? id)).write row)

theorem exec_persistDetails (hplan : plan.Succeeds) (revisionMap : Dict MemberId Nat)
    (dbMap : Dict MemberId Row) (readAt : Nat) {details : List (MemberId × Detail)}
    (hnodup : (details.map Prod.fst).Nodup) {s : Store}
    (hdb : ∀ id ∈ details.map Prod.fst, dbMap.get? id = s.rows.get? id) :
    ∃ t, Prog.exec (handle site) (persistDetails plan revisionMap dbMap readAt details) s =
        (.ok (), t) ∧ t.controller = s.controller ∧
      Persisted revisionMap dbMap s.rows t.rows details := by
  induction details generalizing s with
  | nil =>
    refine ⟨s, rfl, rfl, fun id => ⟨fun _ => rfl, fun detail hdetail => ?_⟩⟩
    exact absurd hdetail (List.not_mem_nil)
  | cons entry details ih =>
    obtain ⟨id, detail⟩ := entry
    rw [List.map_cons, List.nodup_cons] at hnodup
    have hrow := hdb id List.mem_cons_self
    -- the row that the transaction finds
    obtain ⟨row, u, hensure, hcontroller, hfound, hnew⟩ : ∃ row u,
        Prog.exec (handle site) (onlyIf (dbMap.get? id).isNone
            (attempt (addNetworkMember plan id))) s = (.ok (), u) ∧
          u.controller = s.controller ∧ (∀ j, u.rows.get? j =
            if id = j then some row else s.rows.get? j) ∧
          (s.rows.get? id = some row ∨
            s.rows.get? id = none ∧ row.deleted = some false ∧
              row.permanentlyDeleted = some false) := by
      rw [hrow]
      cases hs : s.rows.get? id with
      | some row =>
        refine ⟨row, s, rfl, rfl, fun j => ?_, .inl rfl⟩
        by_cases hj : id = j
        · rw [if_pos hj, ← hj, hs]
        · rw [if_neg hj]
      | none =>
        obtain ⟨row, u, hexec, hcontroller, hrows, hdeleted, hpermanent⟩ :=
          exec_addNetworkMember site hplan hs
        refine ⟨row, u, hexec, hcontroller, fun j => ?_, .inr ⟨rfl, hdeleted, hpermanent⟩⟩
        rw [hrows, Dict.get?_set]
    -- the transaction
    let data := observed (dbMap.get? id) id detail (revisionMap.get? id)
    let event := observedEvent (dbMap.get? id) id detail (revisionMap.get? id)
    let u' : Store :=
      { (u.modify id data.write).enqueueSome site event with clock := u.clock + 1 }
    have hpersist : Prog.exec (handle site) (perform plan
        (.persistDetail id (dbMap.get? id) detail (revisionMap.get? id) readAt)) u =
        (.ok (), u') := exec_perform site hplan rfl
    have hwritten : ∀ j, u'.rows.get? j =
        if id = j then some (data.write row) else s.rows.get? j := by
      intro j
      change ((u.modify id data.write).enqueueSome site event).rows.get? j = _
      rw [Store.enqueueSome_rows, Store.get?_modify, hfound j]
      by_cases hj : id = j
      · rw [if_pos hj, if_pos hj, if_pos hj, Option.map_some]
      · rw [if_neg hj, if_neg hj, if_neg hj]
    have hother : ∀ j ∈ details.map Prod.fst, dbMap.get? j = u'.rows.get? j := by
      intro j hj
      have hne : id ≠ j := fun h => hnodup.1 (h ▸ hj)
      rw [hwritten, if_neg hne]
      exact hdb j (List.mem_cons_of_mem _ hj)
    obtain ⟨t, hrest, htcontroller, hpersisted⟩ := ih hnodup.2 hother
    refine ⟨t, ?_, ?_, fun j => ⟨fun hj => ?_, fun detail' hdetail' => ?_⟩⟩
    · unfold persistDetails
      dsimp only
      rw [Prog.exec_bind_ok hensure, Prog.exec_bind_ok hpersist]
      exact hrest
    · rw [htcontroller]
      change ((u.modify id data.write).enqueueSome site event).controller = _
      rw [Store.enqueueSome_controller, Store.modify_controller, hcontroller]
    · have hne : id ≠ j := fun h => hj (h ▸ List.mem_cons_self)
      rw [(hpersisted j).1 fun h => hj (List.mem_cons_of_mem _ h), hwritten, if_neg hne]
    · rcases List.mem_cons.mp hdetail' with heq | hmem
      · cases heq
        refine ⟨row, hnew, ?_⟩
        rw [(hpersisted id).1 hnodup.1, hwritten, if_pos rfl]
      · have hne : id ≠ j := by
          rintro rfl
          exact hnodup.1 (List.mem_map.mpr ⟨_, hmem, rfl⟩)
        obtain ⟨row', hbefore, hafter⟩ := (hpersisted j).2 detail' hmem
        rw [hwritten, if_neg hne] at hbefore
        exact ⟨row', hbefore, hafter⟩

/-- Only the rows of the list change, and of these only the version. -/
theorem exec_writeVersions (hplan : plan.Succeeds) (live : MemberId → Option Int)
    (rows : List (MemberId × Row)) (s : Store) :
    ∃ t, Prog.exec (handle site) (writeVersions plan live rows) s = (.ok (), t) ∧
      t.controller = s.controller ∧ ∀ id,
        (id ∉ rows.map Prod.fst → t.rows.get? id = s.rows.get? id) ∧
        ∃ version : Row → Option Int,
          t.rows.get? id = (s.rows.get? id).map fun row => row.withVersion (version row) := by
  induction rows generalizing s with
  | nil =>
    refine ⟨s, rfl, rfl, fun id => ⟨fun _ => rfl, Row.vMajor, ?_⟩⟩
    exact Option.map_id'.symm
  | cons entry rows ih =>
    obtain ⟨id, row⟩ := entry
    -- the write for the first row, if there is one
    obtain ⟨u, hexec, hcontroller, hrows⟩ : ∃ u,
        Prog.exec (handle site) (writeVersions plan live ((id, row) :: rows)) s =
          Prog.exec (handle site) (writeVersions plan live rows) u ∧
        u.controller = s.controller ∧ ∀ j, (id ≠ j → u.rows.get? j = s.rows.get? j) ∧
          ∃ version : Row → Option Int,
            u.rows.get? j = (s.rows.get? j).map fun row => row.withVersion (version row) := by
      have hsame : ∀ j, (id ≠ j → s.rows.get? j = s.rows.get? j) ∧
          ∃ version : Row → Option Int,
            s.rows.get? j = (s.rows.get? j).map fun row => row.withVersion (version row) :=
        fun j => ⟨fun _ => rfl, Row.vMajor, Option.map_id'.symm⟩
      cases hlive : live id with
      | none =>
        refine ⟨s, ?_, rfl, hsame⟩
        conv_lhs => unfold writeVersions
        rw [hlive]
      | some vMajor =>
        by_cases hdiffers : row.vMajor = some vMajor
        · refine ⟨s, ?_, rfl, hsame⟩
          conv_lhs => unfold writeVersions
          rw [hlive]
          dsimp only
          rw [onlyIf, if_neg (by simpa using hdiffers), Prog.exec_bind, Prog.exec_pure]
        · have hwrite : Prog.exec (handle site) (perform plan (.writeVersion id vMajor)) s =
              (.ok (), { s.modify id (fun row => row.withVersion (some vMajor)) with
                clock := s.clock + 1 }) := exec_perform site hplan rfl
          refine ⟨{ s.modify id (fun row => row.withVersion (some vMajor)) with
              clock := s.clock + 1 }, ?_, s.modify_controller id _, fun j => ⟨fun hj => ?_, ?_⟩⟩
          · conv_lhs => unfold writeVersions
            rw [hlive]
            dsimp only
            rw [onlyIf, if_pos (by simpa using hdiffers), Prog.exec_bind_ok hwrite]
          · exact (s.get?_modify id j _).trans (if_neg hj)
          · by_cases hj : id = j
            · subst hj
              exact ⟨fun _ => some vMajor, (s.get?_modify id id _).trans (if_pos rfl)⟩
            · refine ⟨Row.vMajor, ((s.get?_modify id j _).trans (if_neg hj)).trans ?_⟩
              exact Option.map_id'.symm
    obtain ⟨t, hrest, htcontroller, htrows⟩ := ih u
    refine ⟨t, hexec.trans hrest, htcontroller.trans hcontroller, fun j => ⟨fun hj => ?_, ?_⟩⟩
    · rw [List.map_cons, List.mem_cons, not_or] at hj
      exact ((htrows j).1 hj.2).trans ((hrows j).1 (Ne.symm hj.1))
    · obtain ⟨version, hu⟩ := (hrows j).2
      obtain ⟨version', ht⟩ := (htrows j).2
      refine ⟨fun row => version' (row.withVersion (version row)), ?_⟩
      rw [ht, hu, Option.map_map]
      rfl

theorem mem_detailsOf {controller : Dict MemberId Detail} {ids : List MemberId} {id : MemberId}
    {detail : Detail} : (id, detail) ∈ detailsOf controller ids ↔
      id ∈ ids ∧ controller.get? id = some detail := by
  unfold detailsOf
  rw [List.mem_filterMap]
  constructor
  · rintro ⟨id', hid', heq⟩
    obtain ⟨detail', hdetail', hpair⟩ := Option.map_eq_some_iff.mp heq
    cases hpair
    exact ⟨hid', hdetail'⟩
  · rintro ⟨hid, hdetail⟩
    exact ⟨id, hid, by rw [hdetail, Option.map_some]⟩

theorem detailsOf_nodup (controller : Dict MemberId Detail) {ids : List MemberId}
    (hids : ids.Nodup) : ((detailsOf controller ids).map Prod.fst).Nodup := by
  refine hids.sublist ?_
  induction ids with
  | nil => exact List.Sublist.refl _
  | cons id ids ih =>
    have hrest := ih hids.of_cons
    unfold detailsOf at hrest ⊢
    rw [List.filterMap_cons]
    cases controller.get? id with
    | none => exact hrest.cons id
    | some detail => exact hrest.cons_cons id

/-- The drift cleanup removes the rows of the orphans, and no other. -/
theorem exec_removeOrphans (hplan : plan.Succeeds) (orphans : List (MemberId × Nat))
    (readAt : Nat) (s : Store) :
    ∃ t, Prog.exec (handle site) (onlyIf (orphans ≠ [])
        (perform plan (.removeOrphans orphans readAt))) s = (.ok (), t) ∧
      t.controller = s.controller ∧ ∀ id,
        t.rows.get? id = if id ∈ orphans.map Prod.fst then none else s.rows.get? id := by
  by_cases hnil : orphans = []
  · refine ⟨s, ?_, rfl, fun id => ?_⟩
    · rw [hnil]
      rfl
    · rw [hnil, List.map_nil, if_neg List.not_mem_nil]
  · have hremove : Prog.exec (handle site) (perform plan (.removeOrphans orphans readAt)) s =
        (.ok (), { s.removeOrphans site orphans with clock := s.clock + 1 }) :=
      exec_perform site hplan rfl
    refine ⟨{ s.removeOrphans site orphans with clock := s.clock + 1 }, ?_,
      s.removeOrphans_controller site orphans, fun id => ?_⟩
    · rw [onlyIf, if_pos (by simpa using hnil), hremove]
    · change (s.removeOrphans site orphans).rows.get? id = _
      rw [s.removeOrphans_rows, Dict.get?_filter]
      by_cases hid : id ∈ orphans.map Prod.fst
      · rw [if_pos hid, Option.filter_eq_none_iff]
        intro row _
        simpa using hid
      · rw [if_neg hid]
        cases s.rows.get? id with
        | none => rfl
        | some row => exact Option.filter_some_pos (by simpa using hid)

/-! ## 3. What a run makes of a row -/

/-- The row of a member before a run, what the controller has, and the row behind the run. -/
inductive Reconciled (full : Bool) : Option Row → Option Detail → Option Row → Prop
  | hidden {row : Row} {detail : Option Detail} :
      row.isDeleted = true → Reconciled full (some row) detail (some row)
  | absent : Reconciled full none none none
  | removed {row : Row} : row.isDeleted = false → Reconciled full (some row) none none
  | skipped {row row' : Row} {detail : Detail} :
      row.isDeleted = false → needsDetail full (some row) detail.revision = false →
        row'.isDeleted = false → row'.isPermanentlyDeleted = false → row'.config = row.config →
          row'.revision = row.revision →
        Reconciled full (some row) (some detail) (some row')
  | fetched {db : Option Row} {row' : Row} {detail : Detail} :
      needsDetail full db detail.revision = true → row'.isDeleted = false →
        row'.isPermanentlyDeleted = false → row'.config = detail.config →
          row'.revision = some detail.revision →
        Reconciled full db (some detail) (some row')

/-- What the parts of a run do to the rows: the loop over the details, the drift cleanup, and the
versions. -/
structure RunParts (site : Site) (full : Bool) (controller : Dict MemberId Detail)
    (before persisted cleaned after : Dict MemberId Row) (details : List (MemberId × Detail)) :
    Prop where
  fetches : ∀ id detail, (id, detail) ∈ details ↔ controller.get? id = some detail ∧
    needsDetail full (before.get? id) detail.revision = true
  loop : Persisted (controller.mapValues Detail.revision) before before persisted details
  cleanup : ∀ id, cleaned.get? id =
    if id ∈ (orphansOf (controller.mapValues Detail.revision) before).map Prod.fst then none
    else persisted.get? id
  versions : ∀ id,
    ((∀ row : Row, cleaned.get? id = some row → row.isDeleted = true) →
      after.get? id = cleaned.get? id) ∧
    ∃ version : Row → Option Int,
      after.get? id = (cleaned.get? id).map fun row => row.withVersion (version row)

section Parts

variable {site} {full : Bool} {controller : Dict MemberId Detail}
  {before persisted cleaned after : Dict MemberId Row} {details : List (MemberId × Detail)}
  {id : MemberId}

/-- A row that is not fetched stays as it is. -/
theorem RunParts.kept (h : RunParts site full controller before persisted cleaned after details)
    (hskip : ∀ detail, controller.get? id = some detail →
      needsDetail full (before.get? id) detail.revision = false) :
    persisted.get? id = before.get? id := by
  refine (h.loop id).1 fun hmem => ?_
  obtain ⟨⟨_, detail⟩, hentry, rfl⟩ := List.mem_map.mp hmem
  obtain ⟨hdetail, hneeds⟩ := (h.fetches _ detail).mp hentry
  rw [hskip detail hdetail] at hneeds
  cases hneeds

/-- A deleted row stays as it is. -/
theorem RunParts.hidden (h : RunParts site full controller before persisted cleaned after details)
    {row : Row} (hrow : before.get? id = some row) (hdeleted : row.isDeleted = true) :
    after.get? id = some row := by
  have hsame : persisted.get? id = some row := by
    refine (h.kept fun detail _ => ?_).trans hrow
    rw [hrow, needsDetail, hdeleted, Bool.true_or, if_pos rfl]
  have hno : id ∉ (orphansOf (controller.mapValues Detail.revision) before).map Prod.fst := by
    intro hmem
    obtain ⟨row', hrow', -, hshown, -⟩ := mem_orphansOf.mp hmem
    cases hrow.symm.trans hrow'
    rw [hdeleted] at hshown
    cases hshown
  have hcleaned : cleaned.get? id = some row := by rw [h.cleanup, if_neg hno, hsame]
  refine ((h.versions id).1 fun row' hrow' => ?_).trans hcleaned
  cases hcleaned.symm.trans hrow'
  exact hdeleted

/-- A row that is shown, of a member that the controller does not have, is removed. -/
theorem RunParts.removed (h : RunParts site full controller before persisted cleaned after details)
    {row : Row} (hrow : before.get? id = some row) (hshown : row.isDeleted = false)
    (hpermanent : row.isPermanentlyDeleted = false) (hnone : controller.get? id = none) :
    after.get? id = none := by
  have hmem : id ∈ (orphansOf (controller.mapValues Detail.revision) before).map Prod.fst :=
    mem_orphansOf.mpr ⟨row, hrow, by rw [Dict.get?_mapValues, hnone, Option.map_none], hshown,
      hpermanent⟩
  obtain ⟨version, hversion⟩ := (h.versions id).2
  rw [hversion, h.cleanup, if_pos hmem, Option.map_none]

/-- A row of a member that the controller has stays, whatever becomes of its columns. -/
theorem RunParts.present (h : RunParts site full controller before persisted cleaned after details)
    {detail : Detail} (hdetail : controller.get? id = some detail) :
    ∃ version : Row → Option Int,
      after.get? id = (persisted.get? id).map fun row => row.withVersion (version row) := by
  have hno : id ∉ (orphansOf (controller.mapValues Detail.revision) before).map Prod.fst := by
    intro hmem
    obtain ⟨row, -, hnone, -⟩ := mem_orphansOf.mp hmem
    rw [Dict.get?_mapValues, hdetail] at hnone
    cases hnone
  obtain ⟨version, hversion⟩ := (h.versions id).2
  exact ⟨version, by rw [hversion, h.cleanup, if_neg hno]⟩

/-- A row that is fetched holds what the controller has. -/
theorem RunParts.fetched (h : RunParts site full controller before persisted cleaned after details)
    {detail : Detail} (hdetail : controller.get? id = some detail)
    (hshown : ∀ row, before.get? id = some row →
      row.isDeleted = false ∧ row.isPermanentlyDeleted = false)
    (hneeds : needsDetail full (before.get? id) detail.revision = true) :
    Reconciled full (before.get? id) (some detail) (after.get? id) := by
  obtain ⟨row, hbefore, hafter⟩ :=
    (h.loop id).2 detail ((h.fetches id detail).mpr ⟨hdetail, hneeds⟩)
  obtain ⟨version, hversion⟩ := h.present hdetail
  obtain ⟨hconfig, hrevision⟩ := observed_write (before.get? id) id detail
    ((controller.mapValues Detail.revision).get? id) row
  -- the loop leaves the flags of the row that it finds
  obtain ⟨hrowShown, hrowPermanent⟩ :
      row.isDeleted = false ∧ row.isPermanentlyDeleted = false := by
    rcases hbefore with hrow | ⟨-, hnew, hnewPermanent⟩
    · exact hshown row hrow
    · exact ⟨by rw [Row.isDeleted, hnew]; rfl,
        by rw [Row.isPermanentlyDeleted, hnewPermanent]; rfl⟩
  rw [hversion, hafter, Option.map_some]
  refine .fetched hneeds ?_ ?_ hconfig ?_
  · exact hrowShown
  · exact hrowPermanent
  · refine hrevision.trans ?_
    rw [Dict.get?_mapValues, hdetail, Option.map_some]

/-- What the parts make of a row. -/
theorem RunParts.reconciled
    (h : RunParts site full controller before persisted cleaned after details)
    (hflags : ∀ row, before.get? id = some row → row.isPermanentlyDeleted = true →
      row.isDeleted = true) :
    Reconciled full (before.get? id) (controller.get? id) (after.get? id) := by
  by_cases hhidden : ∃ row, before.get? id = some row ∧ row.isDeleted = true
  · obtain ⟨row, hrow, hdeleted⟩ := hhidden
    rw [h.hidden hrow hdeleted, hrow]
    exact .hidden hdeleted
  have hshown : ∀ row, before.get? id = some row →
      row.isDeleted = false ∧ row.isPermanentlyDeleted = false := by
    intro row hrow
    simp only [← Bool.not_eq_true]
    exact ⟨fun hdeleted => hhidden ⟨row, hrow, hdeleted⟩,
      fun hpermanent => hhidden ⟨row, hrow, hflags row hrow hpermanent⟩⟩
  cases hcontroller : controller.get? id with
  | none =>
    cases hrow : before.get? id with
    | none =>
      have hsame := h.kept fun detail hdetail => by rw [hcontroller] at hdetail; cases hdetail
      obtain ⟨version, hversion⟩ := (h.versions id).2
      rw [hversion, h.cleanup, hsame, hrow, ite_self]
      exact .absent
    | some row =>
      obtain ⟨hdeleted, hpermanent⟩ := hshown row hrow
      rw [h.removed hrow hdeleted hpermanent hcontroller]
      exact .removed hdeleted
  | some detail =>
    by_cases hneeds : needsDetail full (before.get? id) detail.revision = true
    · exact h.fetched hcontroller hshown hneeds
    · have hsame := h.kept fun detail' hdetail' => by
        cases hcontroller.symm.trans hdetail'
        exact Bool.not_eq_true _ ▸ hneeds
      cases hrow : before.get? id with
      | none =>
        rw [hrow] at hneeds
        exact absurd rfl hneeds
      | some row =>
        obtain ⟨hdeleted, hpermanent⟩ := hshown row hrow
        obtain ⟨version, hversion⟩ := h.present hcontroller
        rw [hversion, hsame, hrow, Option.map_some]
        rw [hrow, Bool.not_eq_true] at hneeds
        exact .skipped hdeleted hneeds hdeleted hpermanent rfl rfl

end Parts

/-- **A run of `reconcileNetworkMembers`**, where nothing else runs and every call succeeds. -/
theorem exec_reconcileNetworkMembers (hplan : plan.Succeeds) (full : Bool) (s : Store)
    (hflags : s.FlagsAgree) :
    ∃ returned t, Prog.exec (handle site) (reconcileNetworkMembers plan full) s =
        (.ok returned, t) ∧ t.controller = s.controller ∧
      (∀ id, Reconciled full (s.rows.get? id) (s.controller.get? id) (t.rows.get? id)) ∧
      ∀ id ∈ returned, ∃ row, t.rows.get? id = some row ∧ row.isDeleted = false := by
  let revisionMap := s.controller.mapValues Detail.revision
  let s₁ : Store := { s with clock := s.clock + 1 }
  let s₂ : Store := { s₁ with clock := s₁.clock + 1 }
  have hmap : Prog.exec (handle site) (perform plan .networkMembers) s =
      (.ok (s.clock, revisionMap), s₁) := exec_perform site hplan rfl
  have hfind : Prog.exec (handle site) (perform plan .findMembers) s₁ = (.ok s.rows, s₂) :=
    exec_perform site hplan rfl
  let idsToFetch := (revisionMap.filter fun id revision =>
    needsDetail full (s.rows.get? id) revision).keys
  obtain ⟨s₃, hfetch, hcontroller₃, hrows₃⟩ :=
    exec_fetchMemberDetails site hplan idsToFetch s₂
  have hids : ∀ id, id ∈ idsToFetch ↔ ∃ detail, s.controller.get? id = some detail ∧
      needsDetail full (s.rows.get? id) detail.revision = true := by
    intro id
    change id ∈ (revisionMap.filter _).keys ↔ _
    rw [Dict.mem_keys_iff]
    simp only [Dict.get?_filter, revisionMap, Dict.get?_mapValues, Option.filter_eq_some_iff,
      Option.map_eq_some_iff]
    constructor
    · rintro ⟨revision, ⟨detail, hdetail, rfl⟩, hneeds⟩
      exact ⟨detail, hdetail, hneeds⟩
    · rintro ⟨detail, hdetail, hneeds⟩
      exact ⟨detail.revision, ⟨detail, hdetail, rfl⟩, hneeds⟩
  have hnodup : idsToFetch.Nodup := (revisionMap.filter _).nodup
  obtain ⟨s₄, hpersist, hcontroller₄, hpersisted⟩ :=
    exec_persistDetails site hplan revisionMap s.rows s.clock
      (detailsOf_nodup s₂.controller hnodup) (s := s₃) fun id _ => by rw [hrows₃]
  rw [hrows₃] at hpersisted
  obtain ⟨s₅, hremove, hcontroller₅, hrows₅⟩ :=
    exec_removeOrphans site hplan (orphansOf revisionMap s.rows) s.clock s₄
  obtain ⟨live, hlive⟩ := exec_consult site (s := s₅) hplan .readLiveObservation
  let active := s₅.rows.filter fun id row =>
    revisionMap.keys.contains id && row.deleted == some false
  let s₆ : Store := { s₅ with clock := s₅.clock + 1 }
  have hactive : Prog.exec (handle site) (perform plan (.findActive revisionMap.keys)) s₅ =
      (.ok active, s₆) := exec_perform site hplan rfl
  obtain ⟨s₇, hversions, hcontroller₇, hrows₇⟩ :=
    exec_writeVersions site hplan live active.entries s₆
  have hparts : RunParts site full s.controller s.rows s₄.rows s₅.rows s₇.rows
      (detailsOf s₂.controller idsToFetch) := by
    refine ⟨fun id detail => ?_, hpersisted, hrows₅, fun id => ⟨fun hhidden => ?_, (hrows₇ id).2⟩⟩
    · rw [mem_detailsOf, hids]
      constructor
      · rintro ⟨⟨detail', hdetail', hneeds⟩, hdetail⟩
        cases hdetail'.symm.trans hdetail
        exact ⟨hdetail, hneeds⟩
      · rintro ⟨hdetail, hneeds⟩
        exact ⟨⟨detail, hdetail, hneeds⟩, hdetail⟩
    · refine (hrows₇ id).1 fun hmem => ?_
      obtain ⟨row, hrow⟩ := Dict.mem_keys_iff.mp hmem
      obtain ⟨hrow₅, hshown⟩ :=
        Option.filter_eq_some_iff.mp ((Dict.get?_filter _ _ _).symm.trans hrow)
      rw [Bool.and_eq_true, beq_iff_eq] at hshown
      have hdeleted := hhidden row hrow₅
      rw [Row.isDeleted, hshown.2] at hdeleted
      cases hdeleted
  refine ⟨active.keys, s₇, ?_, ?_, fun id => hparts.reconciled (hflags id), fun id hid => ?_⟩
  · unfold reconcileNetworkMembers
    rw [Prog.exec_bind_ok hmap]
    dsimp only
    rw [Prog.exec_bind_ok hfind, Prog.exec_bind_ok hfetch, Prog.exec_bind_ok hpersist,
      Prog.exec_bind_ok hremove, Prog.exec_bind_ok hlive, Prog.exec_bind_ok hactive,
      Prog.exec_bind_ok hversions, Prog.exec_pure]
  · exact hcontroller₇.trans (hcontroller₅.trans (hcontroller₄.trans hcontroller₃))
  · obtain ⟨row, hrow⟩ := Dict.mem_keys_iff.mp hid
    obtain ⟨hrow₅, hshown⟩ :=
      Option.filter_eq_some_iff.mp ((Dict.get?_filter _ _ _).symm.trans hrow)
    rw [Bool.and_eq_true, beq_iff_eq] at hshown
    obtain ⟨version, hversion⟩ := (hrows₇ id).2
    have hrow₆ : s₆.rows.get? id = some row := hrow₅
    refine ⟨row.withVersion (version row), by rw [hversion, hrow₆, Option.map_some], ?_⟩
    simp only [Row.isDeleted, Row.withVersion, hshown.2]
    rfl

/-! ## 4. Sequences of runs -/

section Mirror

variable {site} {full : Bool} {db after : Option Row} {detail : Option Detail}

theorem Reconciled.shown_iff (h : Reconciled full db detail after) :
    (∃ row, after = some row ∧ row.isDeleted = false) ↔
      detail.isSome = true ∧ ¬ ∃ row, after = some row ∧ row.isDeleted = true := by
  cases h with
  | hidden hdeleted => simp [hdeleted]
  | absent => simp
  | removed _ => simp
  | skipped _ _ hshown _ _ _ => simp [hshown]
  | fetched _ hshown _ _ _ => simp [hshown]

theorem Reconciled.of_deleted {row : Row} (h : Reconciled full (some row) detail after)
    (hdeleted : row.isDeleted = true) : after = some row := by
  cases h with
  | hidden _ => rfl
  | removed hshown => rw [hdeleted] at hshown; cases hshown
  | skipped hshown _ _ _ _ _ => rw [hdeleted] at hshown; cases hshown
  | fetched hneeds _ _ _ _ =>
    rw [needsDetail, hdeleted, Bool.true_or, if_pos rfl] at hneeds
    cases hneeds

theorem Reconciled.flags {row : Row} (h : Reconciled full db detail (some row))
    (hpermanent : row.isPermanentlyDeleted = true) : row.isDeleted = true := by
  cases h with
  | hidden hdeleted => exact hdeleted
  | skipped _ _ _ hnot _ _ => rw [hpermanent] at hnot; cases hnot
  | fetched _ _ hnot _ _ => rw [hpermanent] at hnot; cases hnot

/-- A copy that is not fetched again has the controller's revision. -/
theorem revision_of_needsDetail {row : Row} {revision : Nat} (hshown : row.isDeleted = false)
    (hpermanent : row.isPermanentlyDeleted = false)
    (h : needsDetail full (some row) revision = false) : row.revision = some revision := by
  rw [needsDetail, hshown, hpermanent, Bool.false_or, if_neg Bool.false_ne_true] at h
  simp only [Bool.or_eq_false_iff, bne_eq_false_iff_eq] at h
  exact h.2

variable {run : Run} {s t : Store} {returned : List MemberId}

/-- **A run leaves a mirror exactly if the rows that it skips were one.** -/
theorem mirrors_iff_current (hflags : s.FlagsAgree)
    (hcontroller : t.controller = run.controller)
    (hrows : ∀ id, Reconciled run.full (s.rows.get? id) (run.controller.get? id) (t.rows.get? id))
    (hreturned : ∀ id ∈ returned, ∃ row, t.rows.get? id = some row ∧ row.isDeleted = false) :
    Mirrors (run.start s) t returned ↔ Current run s := by
  constructor
  · intro h id row detail hrow hdetail hshown hskip
    have hrec := hrows id
    rw [hrow, hdetail] at hrec
    cases hafter : t.rows.get? id with
    | none => rw [hafter] at hrec; cases hrec
    | some row' =>
      have hconfig := h.config id row' detail hafter
      rw [hafter] at hrec
      cases hrec with
      | hidden hdeleted => rw [hshown] at hdeleted; cases hdeleted
      | skipped _ _ hshown' _ hsame _ =>
        exact hsame.symm.trans (hconfig hshown' (hcontroller ▸ hdetail)).1
      | fetched hneeds _ _ _ _ => rw [hskip] at hneeds; cases hneeds
  · intro hcurrent
    refine ⟨hcontroller, fun id => ?_, fun id row detail hrow hshown hdetail => ?_,
      fun id row hrow hdeleted => ?_, hreturned⟩
    · rw [hcontroller]
      exact (hrows id).shown_iff
    · have hrec := hrows id
      rw [hcontroller] at hdetail
      rw [hrow, hdetail] at hrec
      cases hbefore : s.rows.get? id with
      | none =>
        rw [hbefore] at hrec
        cases hrec with
        | fetched _ _ _ hconfig hrevision => exact ⟨hconfig, hrevision⟩
      | some row₀ =>
        rw [hbefore] at hrec
        cases hrec with
        | hidden hdeleted => rw [hshown] at hdeleted; cases hdeleted
        | fetched _ _ _ hconfig hrevision => exact ⟨hconfig, hrevision⟩
        | skipped hshown₀ hskip _ _ hsame hrevision =>
          have hpermanent : row₀.isPermanentlyDeleted = false := by
            rw [← Bool.not_eq_true]
            intro hpermanent
            rw [hflags id row₀ hbefore hpermanent] at hshown₀
            cases hshown₀
          rw [hsame, hrevision]
          exact ⟨hcurrent id row₀ detail hbefore hdetail hshown₀ hskip,
            revision_of_needsDetail hshown₀ hpermanent hskip⟩
    · have hrec := hrows id
      rw [show s.rows.get? id = some row from hrow] at hrec
      exact hrec.of_deleted hdeleted

/-- Behind a mirror, the rows that the next run skips are up to date. -/
theorem Mirrors.current {run' : Run} (h : Mirrors (run.start s) t returned) (hflags : t.FlagsAgree)
    (hmove : RevisionsMove run run') : Current run' t := by
  intro id row detail' hrow hdetail' hshown hskip
  have hpermanent : row.isPermanentlyDeleted = false := by
    rw [← Bool.not_eq_true]
    intro hpermanent
    rw [hflags id row hrow hpermanent] at hshown
    cases hshown
  obtain ⟨detail, hdetail⟩ := Dict.contains_iff.mp ((h.shown id).mp ⟨row, hrow, hshown⟩).1
  obtain ⟨hconfig, hrevision⟩ := h.config id row detail hrow hshown hdetail
  rw [h.controller] at hdetail
  rw [hconfig]
  refine hmove id detail detail' hdetail hdetail' (Option.some.inj ?_)
  exact hrevision.symm.trans (revision_of_needsDetail hshown hpermanent hskip)

end Mirror

/-- **Reconciling keeps the mirror.**  In every sequence of runs, between which the controller may
change in any way that moves the revision of a member with its configuration, every run leaves a
mirror, if and only if the rows that the first run skips hold the controller's configuration. -/
theorem mirrorsThroughout_iff_current (runs : List Run) (s : Store) (hflags : s.FlagsAgree)
    (hplans : ∀ run ∈ runs, run.plan.Succeeds) (hrevisions : runs.IsChain RevisionsMove) :
    MirrorsThroughout site runs s ↔ ∀ run ∈ runs.head?, Current run s := by
  induction runs generalizing s with
  | nil => exact iff_of_true trivial fun run hrun => nomatch hrun
  | cons run runs ih =>
    obtain ⟨returned, t, hexec, hcontroller, hrows, hreturned⟩ :=
      exec_reconcileNetworkMembers site (hplans run List.mem_cons_self) run.full (run.start s)
        hflags
    have hiff : Mirrors (run.start s) t returned ↔ Current run s :=
      mirrors_iff_current hflags hcontroller hrows hreturned
    rw [List.head?_cons]
    simp only [Option.mem_some_iff, forall_eq']
    constructor
    · rintro ⟨returned', t', hexec', hmirrors, -⟩
      cases hexec.symm.trans hexec'
      exact hiff.mp hmirrors
    · intro hcurrent
      have hmirrors := hiff.mpr hcurrent
      have htflags : t.FlagsAgree := by
        intro id row hrow hpermanent
        have hrec := hrows id
        rw [hrow] at hrec
        exact hrec.flags hpermanent
      refine ⟨returned, t, hexec, hmirrors, (ih t htflags
        (fun run' hrun' => hplans run' (List.mem_cons_of_mem _ hrun'))
        (List.isChain_of_isChain_cons hrevisions)).mpr ?_⟩
      intro run' hrun'
      obtain ⟨rest, rfl⟩ := List.head?_eq_some_iff.mp hrun'
      exact hmirrors.current htflags (List.rel_of_isChain_cons_cons hrevisions)

/-! ## 5. Examples -/

theorem plainPlan_succeeds : plainPlan.Succeeds := ⟨fun _ => ⟨_, rfl⟩, fun _ => rfl⟩

/-- The same member, authorized at the next revision. -/
def admitted : Detail :=
  { waiting with config := ⟨true, ["10.0.0.1"], false, false⟩, revision := 2 }

/-- A run over the one member. -/
def runOn (detail : Detail) : Run := ⟨Dict.empty.set "1" detail, plainPlan, false⟩

theorem get?_single {ν : Type} {id : MemberId} {v v' : ν}
    (h : ((Dict.empty : Dict MemberId ν).set "1" v).get? id = some v') : id = "1" ∧ v' = v := by
  rw [Dict.get?_set] at h
  split at h
  · next hid => exact ⟨hid.symm, (Option.some.inj h).symm⟩
  · cases h

/-- Two runs, between which the controller has authorized the member. -/
theorem mirrorsThroughout_of_admission :
    MirrorsThroughout plainSite [runOn waiting, runOn admitted] (oneMember waiting) := by
  refine (mirrorsThroughout_iff_current plainSite [runOn waiting, runOn admitted]
    (oneMember waiting) (by decide +kernel) ?_ ?_).mpr ?_
  · intro run hrun
    rcases List.mem_pair.mp hrun with rfl | rfl
    · exact plainPlan_succeeds
    · exact plainPlan_succeeds
  · refine .cons_cons ?_ (.singleton _)
    intro id detail detail' hdetail hdetail' hrevision
    rw [(get?_single hdetail).2, (get?_single hdetail').2] at hrevision
    cases hrevision
  · intro run hrun id row detail hrow hdetail _ _
    obtain rfl : runOn waiting = run := Option.some.inj hrun
    rw [(get?_single hrow).2, (get?_single hdetail).2]
    rfl

/-- A request that authorizes the member. -/
def authorizeBody : Body :=
  { noParams with authorized := some true, ssoExempt := none, deleted := none }

/-- The state behind such a request that does not reach the controller. -/
def afterFailedRequest : Store :=
  (Prog.exec (handle plainSite) (restPost unreachablePlan .organization "1" authorizeBody)
    (oneMember waiting)).2

/-- A run without changes of the controller. -/
def runOver (s : Store) : Run := ⟨s.controller, plainPlan, false⟩

/-- **The mirror is not restored.**  A request that authorizes a member writes the row first; where
the controller cannot be reached, the row says that the member is authorized and the controller
says that it is not, at the same revision.  A run of `reconcileNetworkMembers` skips the row. -/
theorem failed_request_is_not_repaired :
    (oneMember waiting).FlagsAgree ∧ afterFailedRequest.FlagsAgree ∧
      afterFailedRequest.controller = (oneMember waiting).controller ∧
      ¬ MirrorsThroughout plainSite [runOver afterFailedRequest] afterFailedRequest := by
  refine ⟨by decide +kernel, by decide +kernel, by decide +kernel, ?_⟩
  rintro ⟨returned, t, hexec, hmirrors, -⟩
  have ht : t = ((runOver afterFailedRequest).result plainSite afterFailedRequest).2 := by
    rw [hexec]
  have hrows : (t.rows.get? "1").map (fun row => (row.isDeleted, row.config.authorized)) =
      some (false, true) := by
    rw [ht]
    decide +kernel
  have hcontroller : (t.controller.get? "1").map (fun detail => detail.config.authorized) =
      some false := by
    rw [ht]
    decide +kernel
  obtain ⟨row, hrow, hauthorized⟩ := Option.map_eq_some_iff.mp hrows
  obtain ⟨detail, hdetail, hrefused⟩ := Option.map_eq_some_iff.mp hcontroller
  obtain ⟨hshown, hauthorized⟩ := Prod.mk.inj hauthorized
  rw [(hmirrors.config "1" row detail hrow hshown hdetail).1, hrefused] at hauthorized
  cases hauthorized

end ZtPlanet.Ztnet.Members
