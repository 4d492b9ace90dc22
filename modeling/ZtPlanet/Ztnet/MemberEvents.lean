/-
# A notification for each change of a member

`Update` writes a member's row behind the controller, and `reconcileNetworkMembers` copies it from
the controller, each in a transaction that also enqueues an event where the row changes.  Both tell
a change by the row as they read it before the transaction, and both name the event by its type, the
member and a revision of the controller; an event whose key is there already is not enqueued again.

The history keeps what the two have changed: for each transaction that finds the row different from
what it writes, the member with the type of the change.  Two things are needed for the events to be
these, one for one.  A transaction has to find the row as it was read; a `reconcileNetworkMembers`
moreover tells only changes of the configuration, and only of a row that an earlier one has filled.
And the key of its event has to be new.  `notified_once_iff` says that, with the first, the second
is what it takes.  Two descriptions in a row share a key, and an `Update` that is overtaken by a
`reconcileNetworkMembers` announces again what that has announced (`changes_not_notified_once`).
-/
import ZtPlanet.Ztnet.MemberSteps

namespace ZtPlanet.Ztnet.Members

open ZtPlanet.Lib

/-! ## 1. Changes and events -/

/-- The type of a change of the stored fields. -/
def changeType (before after : Row) : Option EventType :=
  if before.config.authorized ≠ after.config.authorized then
    some (if after.config.authorized then .nodeAuthorized else .nodeDeauthorized)
  else if before.toMemberRow ≠ after.toMemberRow then some .nodeConfigChanged
  else none

/-- A change of a member, with its type. -/
abbrev Change : Type := MemberId × EventType

/-- The change that a transaction of `Update` or of `reconcileNetworkMembers` makes. -/
def Query.commits (s : Store) : Query → Option Change
  | .updateMember id _ data _ =>
    (s.rows.get? id).bind fun row =>
      (changeType row (writeData data row)).map fun type => (id, type)
  | .persistDetail id db detail revision _ =>
    (s.rows.get? id).bind fun row =>
      (changeType row ((observed db id detail revision).write row)).map fun type => (id, type)
  | _ => none

/-- What a step adds to the changes that are committed. -/
def noteChanges (act : Act) (s : Store) (changes : List Change) : List Change :=
  if act.takesEffect then changes ++ (act.query.commits s).toList else changes

/-- The change that an event is about. -/
def Delivery.change (delivery : Delivery) : Option Change :=
  match delivery.eventType with
  | .nodeAuthorized | .nodeDeauthorized | .nodeConfigChanged =>
    some (delivery.eventKey.id, delivery.eventType)
  | .nodeAdded | .nodeRemoved => none

/-- The changes that have been notified. -/
def Store.notified (s : Store) : List Change := s.deliveries.filterMap Delivery.change

/-- **One notification per change**: the events about changes are the changes that are committed. -/
def NotifiedOnce (s : Store × List Change) : Prop := s.1.notified = s.2

instance (s : Store × List Change) : Decidable (NotifiedOnce s) :=
  inferInstanceAs (Decidable (_ = _))

/-- The event is enqueued: notifications of its type are enabled, and its key is not there. -/
def Store.accepts (s : Store) (site : Site) (delivery : Delivery) : Bool :=
  site.notifies delivery.eventType &&
    !(s.deliveries.map Delivery.eventKey).contains delivery.eventKey

/-- The change that the event of a transaction announces, where it is enqueued. -/
def Query.announces (site : Site) (s : Store) : Query → Option Change
  | .updateMember id dbMember data revision =>
    (s.rows.get? id).bind fun row =>
      (((updateEventType data dbMember (writeData data row)).map fun type =>
        changeEvent type id revision).filter (s.accepts site)).bind Delivery.change
  | .persistDetail id db detail revision _ =>
    ((observedEvent db id detail revision).filter (s.accepts site)).bind Delivery.change
  | _ => none

/-- The row was filled when it was read, and the controller has another configuration. -/
def configDiffers (db : Option Row) (detail : Detail) : Bool :=
  db.any fun db => db.controllerConfig.isSome && db.config ≠ detail.config

/-- The transaction finds the row as it was read.  One of `reconcileNetworkMembers` that has no
other configuration to copy finds nothing else to write either. -/
def Query.undisturbed (q : Query) (s : Store) : Prop :=
  match q with
  | .updateMember id dbMember _ _ =>
    ∀ row ∈ s.rows.get? id, row.toMemberRow = dbMember.toMemberRow
  | .persistDetail id db detail revision _ =>
    if configDiffers db detail then
      (s.rows.get? id).map Row.toMemberRow = db.map Row.toMemberRow
    else
      ∀ row ∈ s.rows.get? id,
        ((observed db id detail revision).write row).toMemberRow = row.toMemberRow
  | _ => True

instance (q : Query) (s : Store) : Decidable (q.undisturbed s) := by
  cases q <;> unfold Query.undisturbed <;> infer_instance

/-- Where the transaction changes the row, notifications of the type are enabled, and there is no
event with the type, the member and the revision yet. -/
def Query.keyIsNew (site : Site) (q : Query) (s : Store) : Prop :=
  match q with
  | .updateMember id _ data revision =>
    ∀ row ∈ s.rows.get? id, ∀ type ∈ changeType row (writeData data row),
      s.accepts site (changeEvent type id revision) = true
  | .persistDetail id db detail revision _ =>
    ∀ row ∈ s.rows.get? id, ∀ type ∈ changeType row ((observed db id detail revision).write row),
      s.accepts site (changeEvent type id (revision.getD 0)) = true
  | _ => True

instance (site : Site) (q : Query) (s : Store) : Decidable (q.keyIsNew site s) := by
  cases q <;> unfold Query.keyIsNew <;> infer_instance

/-- A step that is carried out finds the row as it was read. -/
def Act.undisturbed (act : Act) (s : Store × List Change) : Prop :=
  act.takesEffect = true → act.query.undisturbed s.1

/-- The event of a step that is carried out has a new key. -/
def Act.keyIsNew (site : Site) (act : Act) (s : Store × List Change) : Prop :=
  act.takesEffect = true → act.query.keyIsNew site s.1

instance (act : Act) (s : Store × List Change) : Decidable (act.undisturbed s) :=
  inferInstanceAs (Decidable (_ → _))

instance (site : Site) (act : Act) (s : Store × List Change) : Decidable (act.keyIsNew site s) :=
  inferInstanceAs (Decidable (_ → _))

/-! ## 2. What a step enqueues -/

section

variable {site : Site} {s : Store}

@[simp] theorem notified_modify (id : MemberId) (f : Row → Row) :
    (s.modify id f).notified = s.notified := by
  unfold Store.modify
  split
  · rfl
  · rfl

@[simp] theorem accepts_modify (id : MemberId) (f : Row → Row) :
    (s.modify id f).accepts site = s.accepts site := by
  unfold Store.modify
  split
  · rfl
  · rfl

/-- **What an event adds.** -/
theorem notified_enqueue (delivery : Delivery) :
    (s.enqueue site delivery).notified =
      s.notified ++ (((some delivery).filter (s.accepts site)).bind Delivery.change).toList := by
  unfold Store.enqueue
  by_cases haccepts : s.accepts site delivery = true
  · have hcondition : site.notifies delivery.eventType = true ∧
        delivery.eventKey ∉ s.deliveries.map Delivery.eventKey := by
      simpa [Store.accepts] using haccepts
    rw [if_pos hcondition, Option.filter_some_pos haccepts, Store.notified, List.filterMap_append]
    cases hchange : delivery.change <;> simp [Store.notified, hchange]
  · have hcondition : ¬ (site.notifies delivery.eventType = true ∧
        delivery.eventKey ∉ s.deliveries.map Delivery.eventKey) := by
      simpa [Store.accepts] using haccepts
    rw [if_neg hcondition, Option.filter_some_neg (Bool.eq_false_iff.mpr haccepts)]
    simp

theorem notified_enqueueSome (event : Option Delivery) :
    (s.enqueueSome site event).notified =
      s.notified ++ ((event.filter (s.accepts site)).bind Delivery.change).toList := by
  cases event with
  | none => simp [Store.enqueueSome]
  | some delivery => exact notified_enqueue delivery

/-- An event about a row that comes or goes is about no change. -/
theorem notified_enqueue_of_none {delivery : Delivery} (h : delivery.change = none) :
    (s.enqueue site delivery).notified = s.notified := by
  rw [notified_enqueue]
  cases hfilter : (some delivery).filter (s.accepts site) with
  | none => simp
  | some delivery' =>
    obtain rfl := Option.some.inj (Option.filter_eq_some_iff.mp hfilter).1
    simp [h]

theorem notified_foldl_enqueue (orphans : List (MemberId × Nat)) :
    (orphans.foldl (fun t orphan => t.enqueue site (nodeRemoved orphan.1 orphan.2)) s).notified =
      s.notified := by
  induction orphans generalizing s with
  | nil => rfl
  | cons orphan orphans ih => exact ih.trans (notified_enqueue_of_none rfl)

/-- **What a call enqueues about changes.** -/
theorem run_notified (q : Query) (s : Store) :
    (q.run site s).2.notified = s.notified ++ (q.announces site s).toList := by
  cases q with
  | networkMembers | memberUpdate _ _ | memberDelete _ | changeController _ | findMembers
  | findActive _ | findStashed | findMember _ | deleteStashed _ =>
    exact (List.append_nil _).symm
  | memberDetails j =>
    simp only [Query.run]
    split
    · exact (List.append_nil _).symm
    · exact (List.append_nil _).symm
  | addMember j name =>
    change (s.addMember site j name).notified = _ ++ []
    rw [List.append_nil]
    unfold Store.addMember
    split
    · rfl
    · exact notified_enqueue_of_none rfl
  | persistDetail j db detail revision readAt =>
    change ((s.modify j _).enqueueSome site _).notified = _
    rw [notified_enqueueSome, notified_modify, accepts_modify]
    rfl
  | removeOrphans orphans readAt =>
    exact (notified_foldl_enqueue orphans).trans (List.append_nil _).symm
  | writeVersion _ _ | markDeleted _ | cacheMember _ _ | renameActive _ _ =>
    exact (notified_modify _ _).trans (List.append_nil _).symm
  | restoreMember j name revision =>
    change (s.restoreMember site j name revision).2.notified = _ ++ []
    rw [List.append_nil]
    unfold Store.restoreMember
    split
    · cases revision with
      | none => rfl
      | some revision => exact notified_enqueue_of_none rfl
    · rfl
  | createMember j name authorized ipAssignments =>
    change (s.createMember site j name authorized ipAssignments).2.notified = _ ++ []
    rw [List.append_nil]
    unfold Store.createMember
    split
    · rfl
    · exact notified_enqueue_of_none rfl
  | updateMember j dbMember data revision =>
    change (s.updateMember site j dbMember data revision).2.notified = _
    unfold Store.updateMember
    cases hrow : s.rows.get? j with
    | some row =>
      simp only [Query.announces, hrow, Option.bind_some]
      exact notified_enqueueSome _
    | none => simp [Query.announces, hrow]
  | updateFlags _ _ _ | markPermanentlyDeleted _ | writeThrough _ _ _ =>
    change (s.updateRow _ _).2.notified = _ ++ []
    rw [List.append_nil]
    unfold Store.updateRow
    split
    · rfl
    · rfl
  | deleteMember j nodeid =>
    change (s.deleteMember site j nodeid).2.notified = _ ++ []
    rw [List.append_nil]
    unfold Store.deleteMember
    split
    · cases nodeid with
      | none => rfl
      | some nodeid => exact notified_enqueue_of_none rfl
    · rfl
  | createRow j data =>
    change (s.createRow j data).2.notified = _ ++ []
    rw [List.append_nil]
    unfold Store.createRow
    split
    · rfl
    · rfl

end

/-! ## 3. Steps -/

section

variable {site : Site}

theorem option_toList_inj {α : Type} {a b : Option α} : a.toList = b.toList ↔ a = b := by
  cases a <;> cases b <;> simp

/-- What a step enqueues about changes. -/
theorem handle_notified (act : Act) (s : Store) :
    (handle site act s).2.notified =
      if act.takesEffect then s.notified ++ (act.query.announces site s).toList
      else s.notified := by
  obtain ⟨query, outcome⟩ := act
  cases outcome with
  | done => exact run_notified query s
  | failsBefore => rfl
  | failsAfter => exact run_notified query s

/-- A step keeps the notifications one per change exactly if it announces the change that it
commits. -/
theorem handle_notifiedOnce_iff (act : Act) (s : Store × List Change) (hs : NotifiedOnce s) :
    NotifiedOnce (Prog.withHistory (handle site) noteChanges act s).2 ↔
      (act.takesEffect = true → act.query.announces site s.1 = act.query.commits s.1) := by
  obtain ⟨s, changes⟩ := s
  change (handle site act s).2.notified = noteChanges act s changes ↔ _
  have hnotified : s.notified = changes := hs
  rw [handle_notified, noteChanges, hnotified]
  by_cases htakes : act.takesEffect = true
  · rw [if_pos htakes, if_pos htakes, List.append_cancel_left_eq, option_toList_inj]
    exact ⟨fun h _ => h, fun h => h htakes⟩
  · rw [if_neg htakes, if_neg htakes]
    exact iff_of_true rfl fun h => absurd h htakes

/-- The event of a change is about the change. -/
theorem changeEvent_change {before after : Row} {type : EventType} {id : MemberId} {revision : Nat}
    (h : changeType before after = some type) :
    (changeEvent type id revision).change = some (id, type) := by
  unfold changeType at h
  split at h
  · split at h
    · obtain rfl := Option.some.inj h
      rfl
    · obtain rfl := Option.some.inj h
      rfl
  · split at h
    · obtain rfl := Option.some.inj h
      rfl
    · cases h

theorem differs_orElse {α : Type} [BEq α] [LawfulBEq α] (new old : Option α) :
    (new.isSome && old != (new <|> old)) = (old != (new <|> old)) := by
  cases new <;> simp

theorem differs_getD {α : Type} [BEq α] [LawfulBEq α] (new : Option α) (old : α) :
    (new.isSome && old != new.getD old) = (old != new.getD old) := by
  cases new <;> simp

/-- What `Update` compares is what changes, where the row is as it was read. -/
theorem dataDiffers_of_current {data : MemberData} {dbMember row : Row}
    (h : row.toMemberRow = dbMember.toMemberRow) :
    dataDiffers data dbMember (writeData data row) = true ↔
      row.toMemberRow ≠ (writeData data row).toMemberRow := by
  obtain ⟨⟨_, _, _, _, _, _, _⟩, _⟩ := row
  obtain ⟨_, _⟩ := dbMember
  cases h
  -- a field without data is the same on both sides
  simp only [dataDiffers, writeData, MemberData.apply, differs_orElse, differs_getD,
    Bool.or_eq_true,
    bne_iff_ne, ne_eq, MemberRow.mk.injEq]
  tauto

theorem config_of_current {row row' : Row} (h : row.toMemberRow = row'.toMemberRow) :
    row.config = row'.config := by
  unfold Row.config
  rw [h]

/-- An `Update` whose row is as it was read computes the type of its change. -/
theorem updateEventType_of_current {data : MemberData} {dbMember row : Row}
    (h : row.toMemberRow = dbMember.toMemberRow) :
    updateEventType data dbMember (writeData data row) = changeType row (writeData data row) := by
  unfold updateEventType changeType
  rw [config_of_current h]
  simp only [dataDiffers_of_current h]

/-- So does a `reconcileNetworkMembers`, where the configuration is another one. -/
theorem observedEventType_of_current {db row : Row} {detail : Detail} {id : MemberId}
    {revision : Option Nat} (hdiffers : configDiffers (some db) detail = true)
    (h : row.toMemberRow = db.toMemberRow) :
    observedEventType (some db) detail =
      changeType row ((observed (some db) id detail revision).write row) := by
  have hconfig : ((observed (some db) id detail revision).write row).config = detail.config :=
    (observed_write _ _ _ _ _).1
  simp only [configDiffers, Option.any_some, Bool.and_eq_true, decide_eq_true_eq] at hdiffers
  obtain ⟨hfilled, hne⟩ := hdiffers
  have hnone : db.controllerConfig.isNone = false := by
    rw [← Option.not_isSome, hfilled]
    rfl
  have hother : row.toMemberRow ≠
      ((observed (some db) id detail revision).write row).toMemberRow := fun hsame =>
    hne (((config_of_current h).symm.trans (config_of_current hsame)).trans hconfig)
  unfold observedEventType changeType
  rw [hconfig, config_of_current h, if_pos hother]
  simp only [hnone, Bool.false_eq_true, if_false, if_pos hne]

/-- Nothing is told where the configuration is the one that was read. -/
theorem observedEventType_of_not_differs {db : Option Row} {detail : Detail}
    (h : configDiffers db detail = false) : observedEventType db detail = none := by
  cases db with
  | none => rfl
  | some db =>
    simp only [configDiffers, Option.any_some, Bool.and_eq_false_imp, decide_eq_false_iff_not,
      not_not] at h
    unfold observedEventType
    dsimp only
    split
    · rfl
    · next hfilled =>
      have hsame := h (by rw [← Option.not_isNone, Bool.eq_false_iff.mpr hfilled]; rfl)
      rw [hsame, if_neg fun hne => hne rfl, if_neg fun hne => hne rfl]

theorem changeType_self {before after : Row} (h : after.toMemberRow = before.toMemberRow) :
    changeType before after = none := by
  unfold changeType
  rw [config_of_current h, if_neg fun hne => hne rfl, if_neg fun hne => hne h.symm]

/-- The event of a change is the one that is announced, exactly if its key is new. -/
theorem announced_iff {s : Store} {before after : Row} {id : MemberId} {revision : Nat} :
    (((changeType before after).map fun type => changeEvent type id revision).filter
          (s.accepts site)).bind Delivery.change =
        (changeType before after).map (fun type => (id, type)) ↔
      ∀ type ∈ changeType before after,
        s.accepts site (changeEvent type id revision) = true := by
  cases htype : changeType before after with
  | none => exact iff_of_true rfl fun _ h => nomatch h
  | some type =>
    simp only [Option.map_some, Option.mem_some_iff, forall_eq']
    cases haccepts : s.accepts site (changeEvent type id revision) with
    | true =>
      rw [Option.filter_some_pos haccepts, Option.bind_some]
      exact iff_of_true (changeEvent_change htype) rfl
    | false =>
      rw [Option.filter_some_neg (by simp [haccepts])]
      exact iff_of_false (fun h => nomatch h) Bool.false_ne_true

/-- **A transaction that finds the row as it was read** announces its change exactly if the key is
new. -/
theorem announces_iff_keyIsNew {q : Query} {s : Store} (h : q.undisturbed s) :
    q.announces site s = q.commits s ↔ q.keyIsNew site s := by
  cases q with
  | updateMember id dbMember data revision =>
    simp only [Query.announces, Query.commits, Query.keyIsNew]
    cases hrow : s.rows.get? id with
    | none => exact iff_of_true rfl fun _ h => absurd h (Option.not_mem_none _)
    | some row =>
      simp only [Option.mem_some_iff, forall_eq', Option.bind_some]
      rw [updateEventType_of_current (h row hrow)]
      exact announced_iff
  | persistDetail id db detail revision readAt =>
    simp only [Query.undisturbed] at h
    cases hdiffers : configDiffers db detail with
    | true =>
      rw [if_pos hdiffers] at h
      cases db with
      | none => cases hdiffers
      | some db =>
        obtain ⟨row, hrow, hsame⟩ := Option.map_eq_some_iff.mp h
        simp only [Query.announces, Query.commits, Query.keyIsNew, hrow, observedEvent,
          Option.mem_some_iff, forall_eq', Option.bind_some]
        rw [show observedEventType (some db) detail =
          changeType row ((observed (some db) id detail revision).write row) from
          observedEventType_of_current hdiffers hsame]
        exact announced_iff
    | false =>
      rw [if_neg (Bool.eq_false_iff.mp hdiffers)] at h
      simp only [Query.announces, Query.commits, Query.keyIsNew, observedEvent,
        observedEventType_of_not_differs hdiffers]
      cases hrow : s.rows.get? id with
      | none => exact iff_of_true rfl fun _ h => absurd h (Option.not_mem_none _)
      | some row =>
        simp only [Option.mem_some_iff, forall_eq', Option.bind_some, changeType_self (h row hrow)]
        exact iff_of_true rfl fun _ h => absurd h (Option.not_mem_none _)
  | _ => exact iff_of_true rfl trivial

end

/-! ## 4. Runs -/

/-- **One notification per change, exactly if each key is new**, where the transactions find the
rows as they were read.  In every such run of any procedures, the events about changes are the
changes that `Update` and `reconcileNetworkMembers` have committed, one for one and in their order,
in all states of the run, if and only if every transaction that changes a row, in the state in which
it is carried out, has an event with a new key. -/
theorem notified_once_iff (site : Site) (store : Store) (changes : List Change)
    (hstore : NotifiedOnce (store, changes)) (events : List (PoolEvent Op))
    (hundisturbed : (memberMachine site noteChanges).Conforms (PoolState.meets Act.undisturbed)
      ⟨(store, changes), []⟩ events) :
    (∀ es, es <+: events → ∀ w,
        (memberMachine site noteChanges).run ⟨(store, changes), []⟩ es = some w →
          NotifiedOnce w.state) ↔
      (memberMachine site noteChanges).Conforms (PoolState.meets (Act.keyIsNew site))
        ⟨(store, changes), []⟩ events := by
  refine (pool_invariant_iff handle_notifiedOnce_iff hstore events).trans ?_
  refine Machine.Conforms.congr (fun w event hw => ?_) hundisturbed
  refine forall_congr' fun act => forall_congr' fun hact => forall_congr' fun htakes => ?_
  exact announces_iff_keyIsNew (hw act hact htakes)

/-- An update of the description. -/
def describe (text : String) : UpdateParams := { noParams with description := some text }

/-- An update that authorizes the member. -/
def authorize : UpdateParams := { noParams with authorized := some true }

/-- An `Update` behind which the network is reconciled.  Then somebody else changes the member on
the controller, and the network is reconciled again. -/
def updateThenReconcile : List (PoolEvent Op) :=
  [.start (.update plainPlan "1" authorize), .step 0, .step 0, .step 0,
    .start (.reconcile plainPlan false), .step 1, .step 1, .step 1, .step 1, .step 1,
    .start (.changeController plainPlan (Dict.empty.set "1" { waiting with revision := 3 })),
      .step 2,
    .start (.reconcile plainPlan false), .step 3, .step 3, .step 3, .step 3, .step 3]

/-- Each change is notified once, although both see the first. -/
theorem update_then_reconcile_notifies_once :
    ∃ w, (memberMachine plainSite noteChanges).run ⟨(oneMember waiting, []), []⟩
        updateThenReconcile = some w ∧
      w.state.2 = [("1", .nodeAuthorized), ("1", .nodeDeauthorized)] ∧ NotifiedOnce w.state := by
  refine Machine.exists_run (P := fun w =>
    w.state.2 = [("1", .nodeAuthorized), ("1", .nodeDeauthorized)]) (by decide +kernel)
    fun w hw hchanges => ⟨hchanges, ?_⟩
  exact (notified_once_iff plainSite (oneMember waiting) [] rfl updateThenReconcile
    (by decide +kernel)).mpr (by decide +kernel) _ (List.prefix_refl _) w hw

/-- The revision of a member increases exactly when the controller changes something about it. -/
def Site.CountsChanges (site : Site) : Prop :=
  ∀ old payload, let new := site.update (some old) payload
    if { new with revision := old.revision } = old then new.revision = old.revision
    else old.revision < new.revision

theorem plainSite_countsChanges : plainSite.CountsChanges := by
  intro old payload
  simp only [plainSite, plainUpdate, Option.getD_some, Option.some.injEq]
  split
  · next hsame => rw [if_pos hsame.symm]
  · next hother =>
    rw [if_neg fun hsame => hother hsame.symm]
    exact Nat.lt_succ_self old.revision

/-- Two descriptions, one after the other. -/
def twoDescriptions : List (PoolEvent Op) :=
  [.start (.update plainPlan "1" (describe "first")), .step 0, .step 0, .step 0,
    .start (.update plainPlan "1" (describe "second")), .step 1, .step 1, .step 1]

/-- The network is reconciled while an `Update` is between its read and its transaction. -/
def overtakenUpdate : List (PoolEvent Op) :=
  [.start (.reconcile plainPlan true), .step 0, .step 0,
    .start (.update plainPlan "1" authorize), .step 1, .step 1, .step 0, .step 0, .step 1]

/-- **A change that is not notified, and one that is notified twice.** -/
theorem changes_not_notified_once :
    plainSite.CountsChanges ∧
      (∃ w, (memberMachine plainSite noteChanges).run
        ⟨(oneMember waiting, []), []⟩ twoDescriptions =
          some w ∧
        w.state.2 = [("1", .nodeConfigChanged), ("1", .nodeConfigChanged)] ∧
        w.state.1.notified = [("1", .nodeConfigChanged)] ∧ ¬ NotifiedOnce w.state) ∧
      ∃ w, (memberMachine plainSite noteChanges).run ⟨(oneMember waiting, []), []⟩ overtakenUpdate =
          some w ∧
        w.state.2 = [("1", .nodeAuthorized)] ∧
        w.state.1.notified = [("1", .nodeAuthorized), ("1", .nodeAuthorized)] ∧
          ¬ NotifiedOnce w.state := by
  refine ⟨plainSite_countsChanges, ?_, ?_⟩
  · exact Machine.exists_run (by decide +kernel) fun w _ h => h
  · exact Machine.exists_run (by decide +kernel) fun w _ h => h

end ZtPlanet.Ztnet.Members
