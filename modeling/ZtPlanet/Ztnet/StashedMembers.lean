/-
# Members that are stashed, and members that are deleted for good

A member is stashed by its flag in the database, and it is to be cut off by the controller.  The
two are written one after the other, and nothing keeps them together: `stashed_unauthorized_iff`
says which steps may not be taken for a stashed member to stay without authorization, and
`failed_stash_leaves_authorization` is a run in which one of them is.

A member that is deleted for good keeps its row, with a second flag.  Two procedures write that
flag or the first one without looking at the other: `flags_agree_iff` and
`undeleted_member_stays_permanently_deleted` say the same about them.

Section 3 says which of the procedures meet these conditions on their own: most of them however
they overlap, `delete` and `stash` as long as each runs alone.
-/
import ZtPlanet.Ztnet.MemberSteps

namespace ZtPlanet.Ztnet.Members

open ZtPlanet.Lib

variable {site : Site} {s : Store}

/-! ## 1. The two flags -/

/-- What is asked of a row. -/
def Row.Agrees (row : Row) : Prop := row.isPermanentlyDeleted = true → row.isDeleted = true

/-- The call does not break the agreement of the flags: it takes `deleted` only from rows that are
not permanently deleted, and sets `permanentlyDeleted` only where `deleted` is set. -/
def Query.keepsFlags (q : Query) (s : Store) : Bool :=
  match q with
  | .updateFlags id (some false) _ => (s.rows.get? id).all fun row => !row.isPermanentlyDeleted
  | .markPermanentlyDeleted id => (s.rows.get? id).all Row.isDeleted
  | _ => true

/-- A step that is carried out does not break the agreement. -/
def Act.keepsFlags (act : Act) (s : Store) : Prop :=
  act.takesEffect = true → act.query.keepsFlags s = true

instance (act : Act) (s : Store) : Decidable (act.keepsFlags s) :=
  inferInstanceAs (Decidable (_ → _))

/-- **The flags agree behind a call exactly if the call keeps them.** -/
theorem rowAfter_agrees_iff (hs : s.FlagsAgree) (q : Query) :
    (∀ id, ∀ row ∈ q.rowAfter s id (s.rows.get? id), row.Agrees) ↔
      q.keepsFlags s = true := by
  have hrow : ∀ id, ∀ row ∈ s.rows.get? id, row.Agrees := hs
  cases q with
  | networkMembers | memberDetails _ | memberUpdate _ _ | memberDelete _ | changeController _
  | findMembers | findActive _ | findStashed | findMember _ => exact iff_of_true hrow rfl
  | addMember _ _ | createMember _ _ _ _ | createRow _ _ =>
    exact iff_of_true (forall_rows_insert hrow fun _ h => by cases h) rfl
  | persistDetail _ _ _ _ _ | writeVersion _ _ | updateMember _ _ _ _ | cacheMember _ _ =>
    exact iff_of_true (forall_rows_modify hrow fun _ _ h => h) rfl
  | removeOrphans _ _ | deleteMember _ _ => exact iff_of_true (forall_rows_remove hrow) rfl
  | restoreMember _ _ _ =>
    exact iff_of_true (forall_rows_modify hrow fun _ _ _ h => by cases h) rfl
  | markDeleted _ => exact iff_of_true (forall_rows_modify hrow fun _ _ _ _ => rfl) rfl
  | updateFlags j deleted description =>
    rcases deleted with _ | _ | _
    · exact iff_of_true (forall_rows_modify hrow fun _ _ h => h) rfl
    · change _ ↔ ((s.rows.get? j).all fun row => !row.isPermanentlyDeleted) = true
      rw [Option.all_eq_true]
      constructor
      · intro h row hj
        have hafter : (writeFlags (some false) description row).Agrees := by
          refine h j _ ?_
          rw [Query.rowAfter, if_pos rfl, hj]
          rfl
        rw [Bool.not_eq_true', ← Bool.not_eq_true]
        exact fun hpermanent => by cases hafter hpermanent
      · intro h
        refine forall_rows_modify hrow fun row hj _ hpermanent => ?_
        have hnot := h row hj
        rw [show row.isPermanentlyDeleted = true from hpermanent] at hnot
        cases hnot
    · exact iff_of_true (forall_rows_modify hrow fun _ _ _ _ => rfl) rfl
  | markPermanentlyDeleted j =>
    change _ ↔ ((s.rows.get? j).all Row.isDeleted) = true
    rw [Option.all_eq_true]
    constructor
    · intro h row hj
      have hafter : Row.Agrees { row with permanentlyDeleted := some true } := by
        refine h j _ ?_
        rw [Query.rowAfter, if_pos rfl, hj]
        rfl
      exact hafter rfl
    · intro h
      exact forall_rows_modify hrow fun row hj _ _ => h row hj
  | deleteStashed ids =>
    refine iff_of_true (fun id row h => ?_) rfl
    obtain ⟨row₀, hrow₀, rfl⟩ := Option.map_eq_some_iff.mp h
    unfold deleteIfStashed
    split
    · next hstashed =>
      intro _
      rw [Bool.and_eq_true] at hstashed
      exact hstashed.2
    · exact hrow id row₀ hrow₀
  | writeThrough j data restore =>
    refine iff_of_true (forall_rows_modify hrow fun row _ h => ?_) rfl
    cases restore with
    | true => exact fun hpermanent => by cases hpermanent
    | false => exact h
  | renameActive j data =>
    refine iff_of_true (forall_rows_modify hrow fun row _ h => ?_) rfl
    unfold writeActive
    split
    · exact h
    · exact h

theorem handle_flagsAgree_iff (act : Act) (s : Store) (hs : s.FlagsAgree) :
    (handle site act s).2.FlagsAgree ↔ act.keepsFlags s := by
  have hafter : (handle site act s).2.FlagsAgree ↔
      ∀ id, ∀ row ∈ (handle site act s).2.rows.get? id, row.Agrees := Iff.rfl
  rw [hafter]
  simp only [handle_rows]
  unfold Act.keepsFlags
  by_cases htakes : act.takesEffect = true
  · simp only [htakes, if_true, true_implies]
    exact rowAfter_agrees_iff hs act.query
  · refine iff_of_true (fun id row hrow => ?_) fun h => absurd h htakes
    rw [if_neg htakes] at hrow
    exact hs id row hrow

/-- **`permanentlyDeleted` implies `deleted`, exactly if no step breaks it.**  In every run of any
procedures, all states of the run have the property if and only if every step of it keeps the
flags. -/
theorem flags_agree_iff (site : Site) (store : Store) (hstore : store.FlagsAgree)
    (events : List (PoolEvent Op)) :
    (∀ es, es <+: events → ∀ w, (callMachine site).run ⟨store, []⟩ es = some w →
        w.state.FlagsAgree) ↔
      (callMachine site).Conforms (PoolState.meets Act.keepsFlags) ⟨store, []⟩ events :=
  pool_invariant_iff handle_flagsAgree_iff hstore events

/-- A network with nothing in it. -/
def emptyNetwork : Store := ⟨Dict.empty, Dict.empty, 1, [], 0⟩

/-- A member is created, stashed and deleted, and its row is shown again. -/
def undeletion : List (PoolEvent Op) :=
  [.start (.create plainPlan false "1"), .step 0, .step 0, .step 0,
    .start (.stash plainPlan "1"), .step 1, .step 1, .step 1, .step 1,
    .start (.delete plainPlan "1"), .step 2, .step 2,
    .start (.updateDatabaseOnly plainPlan "1" (some false) none), .step 3]

/-- **A row that is shown and permanently deleted.**  `UpdateDatabaseOnly` takes the first flag from
a member that is deleted for good. -/
theorem undeleted_member_stays_permanently_deleted :
    ∃ w, (callMachine plainSite).run ⟨emptyNetwork, []⟩ undeletion = some w ∧ w.finished ∧
      ¬ w.state.FlagsAgree := by
  exact Machine.exists_run (by decide +kernel) fun w _ h => h

/-- A member is created, stashed and deleted. -/
theorem deleted_member_stays_stashed :
    ∃ w, (callMachine plainSite).run ⟨emptyNetwork, []⟩ (undeletion.take 12) = some w ∧
      w.finished ∧ w.state.FlagsAgree := by
  refine Machine.exists_run (P := fun w => w.finished) (by decide +kernel) fun w hw hfinished => ?_
  have hagree := flags_agree_iff plainSite emptyNetwork (by decide +kernel) (undeletion.take 12)
  exact ⟨hfinished, hagree.mpr (by decide +kernel) _ (List.prefix_refl _) w hw⟩

/-! ## 2. Stashed members -/

/-- A member whose row is deleted is not authorized on the controller. -/
def Store.StashedUnauthorized (s : Store) : Prop :=
  ∀ id row detail, s.rows.get? id = some row → row.isDeleted = true →
    s.controller.get? id = some detail → detail.config.authorized = false

/-- What is asked of a row of the member, where the controller is as given. -/
def CutOff (controller : Dict MemberId Detail) (id : MemberId) (row : Row) : Prop :=
  row.isDeleted = true → ∀ detail ∈ controller.get? id, detail.config.authorized = false

instance (controller : Dict MemberId Detail) (id : MemberId) (row : Row) :
    Decidable (CutOff controller id row) :=
  inferInstanceAs (Decidable (_ → _))

/-- The call does not leave a stashed member with authorization: an update of the controller leaves
the member without one where its row is deleted, and a row is marked as deleted only where the
controller does not authorize the member. -/
def Query.keepsStashed (site : Site) (q : Query) (s : Store) : Bool :=
  match q with
  | .memberUpdate id payload =>
    (s.rows.get? id).all fun row =>
      !(row.isDeleted && (site.update (s.controller.get? id) payload).config.authorized)
  | .changeController controller =>
    controller.keys.all fun id => (s.rows.get? id).all fun row => CutOff controller id row
  | .updateFlags id (some true) _ | .markDeleted id =>
    (s.rows.get? id).all fun _ =>
      (s.controller.get? id).all fun detail => !detail.config.authorized
  | _ => true

/-- A step that is carried out does not leave a stashed member with authorization. -/
def Act.keepsStashed (site : Site) (act : Act) (s : Store) : Prop :=
  act.takesEffect = true → act.query.keepsStashed site s = true

instance (act : Act) (s : Store) : Decidable (act.keepsStashed site s) :=
  inferInstanceAs (Decidable (_ → _))

theorem stashedUnauthorized_iff :
    s.StashedUnauthorized ↔ ∀ id, ∀ row ∈ s.rows.get? id, CutOff s.controller id row :=
  ⟨fun h id row hrow hdeleted detail hdetail => h id row detail hrow hdeleted hdetail,
    fun h id row detail hrow hdeleted hdetail => h id row hrow hdeleted detail hdetail⟩

/-- A row that is marked as deleted. -/
theorem cutOff_mark_iff {j : MemberId} {f : Row → Row}
    (hrow : ∀ id, ∀ row ∈ s.rows.get? id, CutOff s.controller id row)
    (hf : ∀ row, (f row).isDeleted = true) :
    (∀ id, ∀ row ∈ if j = id then (s.rows.get? id).map f else s.rows.get? id,
        CutOff s.controller id row) ↔
      ((s.rows.get? j).all fun _ =>
        (s.controller.get? j).all fun detail => !detail.config.authorized) = true := by
  simp only [Option.all_eq_true, Bool.not_eq_true']
  constructor
  · intro h row hj detail hdetail
    refine h j (f row) ?_ (hf row) detail hdetail
    rw [if_pos rfl, hj]
    rfl
  · intro h
    exact forall_rows_modify hrow fun row hj _ _ detail hdetail => h row hj detail hdetail

/-- **Stashed members are cut off behind a call exactly if the call keeps them so.** -/
theorem cutOff_after_iff (hs : s.StashedUnauthorized) (q : Query) :
    (∀ id, ∀ row ∈ q.rowAfter s id (s.rows.get? id),
        CutOff (q.controllerAfter site s.controller) id row) ↔
      q.keepsStashed site s = true := by
  have hrow := stashedUnauthorized_iff.mp hs
  cases q with
  | networkMembers | memberDetails _ | findMembers | findActive _ | findStashed | findMember _ =>
    exact iff_of_true hrow rfl
  | addMember _ _ | createMember _ _ _ _ | createRow _ _ =>
    exact iff_of_true (forall_rows_insert hrow fun _ h => by cases h) rfl
  | persistDetail _ _ _ _ _ | writeVersion _ _ | updateMember _ _ _ _ | cacheMember _ _
  | markPermanentlyDeleted _ =>
    exact iff_of_true (forall_rows_modify hrow fun _ _ h => h) rfl
  | removeOrphans _ _ | deleteMember _ _ => exact iff_of_true (forall_rows_remove hrow) rfl
  | restoreMember _ _ _ =>
    exact iff_of_true (forall_rows_modify hrow fun _ _ _ h => by cases h) rfl
  | memberUpdate j payload =>
    change (∀ id, ∀ row ∈ s.rows.get? id, CutOff (s.controller.set j _) id row) ↔
      (s.rows.get? j).all _ = true
    rw [Option.all_eq_true]
    constructor
    · intro h row hj
      have hafter := h j row hj
      rw [Bool.not_eq_true', Bool.and_eq_false_imp]
      exact fun hdeleted => hafter hdeleted _ (Dict.get?_set_self _ _ _)
    · intro h id row hid hdeleted detail hdetail
      rw [Option.mem_def, Dict.get?_set] at hdetail
      split at hdetail
      · next hj =>
        subst hj
        obtain rfl := Option.some.inj hdetail
        have hcut := h row hid
        rw [Bool.not_eq_true', Bool.and_eq_false_imp] at hcut
        exact hcut hdeleted
      · exact hrow id row hid hdeleted detail hdetail
  | memberDelete j =>
    refine iff_of_true (fun id row hid hdeleted detail hdetail => ?_) rfl
    change (s.controller.erase j).get? id = some detail at hdetail
    rw [Dict.get?_erase] at hdetail
    split at hdetail
    · cases hdetail
    · exact hrow id row hid hdeleted detail hdetail
  | changeController controller =>
    change (∀ id, ∀ row ∈ s.rows.get? id, CutOff controller id row) ↔
      controller.keys.all _ = true
    rw [List.all_eq_true]
    simp only [Option.all_eq_true, decide_eq_true_eq]
    constructor
    · exact fun h id _ => h id
    · intro h id row hid hdeleted detail hdetail
      exact h id (Dict.mem_keys_iff.mpr ⟨detail, hdetail⟩) row hid hdeleted detail hdetail
  | updateFlags j deleted description =>
    rcases deleted with _ | _ | _
    · exact iff_of_true (forall_rows_modify hrow fun _ _ h => h) rfl
    · exact iff_of_true (forall_rows_modify hrow fun _ _ _ h => by cases h) rfl
    · exact cutOff_mark_iff hrow (fun _ => rfl)
  | markDeleted j => exact cutOff_mark_iff hrow (fun _ => rfl)
  | deleteStashed ids =>
    refine iff_of_true (fun id row h => ?_) rfl
    obtain ⟨row₀, hrow₀, rfl⟩ := Option.map_eq_some_iff.mp h
    unfold deleteIfStashed
    split
    · exact hrow id row₀ hrow₀
    · exact hrow id row₀ hrow₀
  | writeThrough j data restore =>
    refine iff_of_true (forall_rows_modify hrow fun row _ h => ?_) rfl
    cases restore with
    | true => exact fun hdeleted => by cases hdeleted
    | false => exact h
  | renameActive j data =>
    refine iff_of_true (forall_rows_modify hrow fun row _ h => ?_) rfl
    unfold writeActive
    split
    · exact h
    · exact h

theorem handle_stashedUnauthorized_iff (act : Act) (s : Store) (hs : s.StashedUnauthorized) :
    (handle site act s).2.StashedUnauthorized ↔ act.keepsStashed site s := by
  rw [stashedUnauthorized_iff]
  simp only [handle_rows, handle_controller]
  unfold Act.keepsStashed
  by_cases htakes : act.takesEffect = true
  · simp only [htakes, if_true, true_implies]
    exact cutOff_after_iff hs act.query
  · refine iff_of_true (fun id row hrow => ?_) fun h => absurd h htakes
    rw [if_neg htakes] at hrow
    rw [if_neg htakes]
    exact stashedUnauthorized_iff.mp hs id row hrow

/-- A call that keeps the flags in every state. -/
def Query.sparesFlags : Query → Bool
  | .updateFlags _ (some false) _ | .markPermanentlyDeleted _ => false
  | _ => true

/-- A call that keeps stashed members cut off in every state. -/
def Query.sparesStashed : Query → Bool
  | .memberUpdate _ _ | .changeController _ | .updateFlags _ (some true) _ | .markDeleted _ => false
  | _ => true

/-- `UpdateDatabaseOnly` takes `deleted` away. -/
def Op.undeletes : Op → Bool
  | .updateDatabaseOnly _ _ (some false) _ => true
  | _ => false

/-- Every request but `delete` and the one that takes `deleted` away. -/
def Op.sparesFlags : Op → Bool
  | .delete _ _ => false
  | op => !op.undeletes

/-- The requests that neither update the controller nor mark a row as deleted. -/
def Op.sparesStashed : Op → Bool
  | .reconcile _ _ | .delete _ _ | .bulkDeleteStashed _ => true
  | .updateDatabaseOnly _ _ deleted _ => deleted != some true
  | _ => false

section

variable {op : Op} {q : Query} {plan : Plan} {id : MemberId}

theorem keepsFlags_of_spares (h : q.sparesFlags = true) (s : Store) : q.keepsFlags s = true := by
  cases q with
  | updateFlags id deleted description =>
    rcases deleted with _ | _ | _
    · rfl
    · cases h
    · rfl
  | markPermanentlyDeleted id => cases h
  | _ => rfl

theorem keepsStashed_of_spares (h : q.sparesStashed = true) (s : Store) :
    q.keepsStashed site s = true := by
  cases q with
  | updateFlags id deleted description =>
    rcases deleted with _ | _ | _
    · rfl
    · rfl
    · cases h
  | memberUpdate _ _ | changeController _ | markDeleted _ => cases h
  | _ => rfl

theorem calls_sparesFlags (h : op.sparesFlags = true) (hq : op.calls q = true) :
    q.sparesFlags = true := by
  cases q with
  | updateFlags id deleted description =>
    cases op with
    | updateDatabaseOnly plan id' deleted' description' =>
      obtain rfl := eq_of_beq hq
      rcases deleted with _ | _ | _
      · rfl
      · cases h
      · rfl
    | _ => cases hq
  | markPermanentlyDeleted id =>
    cases op with
    | delete plan id' => cases h
    | _ => cases hq
  | _ => rfl

theorem calls_sparesStashed (h : op.sparesStashed = true) (hq : op.calls q = true) :
    q.sparesStashed = true := by
  cases op with
  | updateDatabaseOnly plan id' deleted' description' =>
    cases q with
    | updateFlags id deleted description =>
      obtain rfl := eq_of_beq hq
      rcases deleted with _ | _ | _
      · rfl
      · rfl
      · cases h
    | _ => cases hq
  | reconcile _ _ | delete _ _ | bulkDeleteStashed _ =>
    cases q with
    | memberUpdate _ _ | changeController _ | markDeleted _ | updateFlags _ _ _ => cases hq
    | _ => rfl
  | _ => cases h

/-- A call that spares the flags. -/
abbrev Act.SparesFlags (act : Act) : Prop := act.query.sparesFlags = true

/-- A call that spares stashed members. -/
abbrev Act.SparesStashed (act : Act) : Prop := act.query.sparesStashed = true

theorem act_keepsFlags (act : Act) (s : Store) (h : act.SparesFlags) : act.keepsFlags s :=
  fun _ => keepsFlags_of_spares h s

theorem act_keepsStashed (act : Act) (s : Store) (h : act.SparesStashed) :
    act.keepsStashed site s :=
  fun _ => keepsStashed_of_spares h s

theorem program_sparesFlags (h : op.sparesFlags = true) : Prog.Only Act.SparesFlags op.program :=
  (program_makes op).mono fun _ hq => calls_sparesFlags h hq

theorem program_sparesStashed (h : op.sparesStashed = true) :
    Prog.Only Act.SparesStashed op.program :=
  (program_makes op).mono fun _ hq => calls_sparesStashed h hq

/-- **The flags agree where nothing is deleted for good and nothing is shown again**, however the
requests overlap. -/
theorem flagsAgree_of_spares (hs : s.FlagsAgree) {events : List (PoolEvent Op)}
    (hops : ∀ op ∈ started events, op.sparesFlags = true)
    {w : PoolState Act Act.Ans Failure Unit Store}
    (hrun : (callMachine site).run ⟨s, []⟩ events = some w) : w.state.FlagsAgree := by
  refine (pool_invariant_iff handle_flagsAgree_iff hs events).mpr ?_ _ (List.prefix_refl _) w hrun
  exact pool_conforms act_keepsFlags (fun _ hp => absurd hp List.not_mem_nil)
    fun op hop => program_sparesFlags (hops op hop)

/-- **Stashed members stay cut off where nobody is updated or stashed**, however the requests
overlap. -/
theorem stashedUnauthorized_of_spares (hs : s.StashedUnauthorized) {events : List (PoolEvent Op)}
    (hops : ∀ op ∈ started events, op.sparesStashed = true)
    {w : PoolState Act Act.Ans Failure Unit Store}
    (hrun : (callMachine site).run ⟨s, []⟩ events = some w) : w.state.StashedUnauthorized := by
  refine (pool_invariant_iff handle_stashedUnauthorized_iff hs events).mpr ?_ _
    (List.prefix_refl _) w hrun
  exact pool_conforms act_keepsStashed (fun _ hp => absurd hp List.not_mem_nil)
    fun op hop => program_sparesStashed (hops op hop)

/-- A call that spares the flags is fine along the way. -/
theorem perform_sparesFlags {query : Query} (h : query.sparesFlags = true) :
    Prog.Along (handle site) Act.keepsFlags (perform plan query) s :=
  Prog.along_call (act_keepsFlags _ _ h)

/-- What `findMember` answers, where it does. -/
theorem exec_findMember {existingMember : Option Row} {t : Store}
    (h : Prog.exec (handle site) (perform plan (.findMember id)) s = (.ok existingMember, t)) :
    t.rows = s.rows ∧ t.controller = s.controller ∧ s.rows.get? id = existingMember := by
  unfold perform at h
  rw [Prog.exec_call] at h
  generalize plan.outcome (.findMember id) = outcome at h
  cases outcome with
  | done =>
    cases h
    exact ⟨rfl, rfl, rfl⟩
  | failsBefore | failsAfter => cases h

/-- `delete` marks a row only where it has read that the row is deleted. -/
theorem delete_along : Prog.Along (handle site) Act.keepsFlags (delete plan id) s := by
  unfold delete
  refine Prog.Along.bind ((makes_enter .delete).along act_keepsFlags s) fun _ t _ => ?_
  refine Prog.Along.bind (perform_sparesFlags rfl) fun existingMember t' hfind => ?_
  obtain ⟨hrows, -, hrow⟩ := exec_findMember hfind
  cases hdeleted : existingMember.any Row.isDeleted with
  | false =>
    have honly : Makes Query.sparesFlags (do
        perform plan (.memberDelete id)
        onlyIf false (perform plan (.markPermanentlyDeleted id))
        perform plan (.deleteMember id (existingMember.map Row.nodeid))
        attempt (consult plan (.announce .delete))) :=
      Prog.Only.bind (makes_perform rfl) fun _ => Prog.Only.bind (Prog.only_pure _) fun _ =>
        Prog.Only.bind (makes_perform rfl) fun _ => only_attempt (only_consult _)
    exact honly.along act_keepsFlags t'
  | true =>
    refine Prog.Along.bind (Prog.along_pure ()) fun _ u hpure => ?_
    cases hpure
    refine Prog.Along.bind (Prog.along_call fun _ => ?_) fun _ u _ => ?_
    · change ((t'.rows.get? id).all Row.isDeleted) = true
      rw [hrows, hrow]
      cases existingMember with
      | none => rfl
      | some row => exact hdeleted
    · have honly : Makes Query.sparesFlags (do
          onlyIf false (perform plan (.deleteMember id (existingMember.map Row.nodeid)))
          attempt (consult plan (.announce .delete))) :=
        Prog.Only.bind (Prog.only_pure _) fun _ => only_attempt (only_consult _)
      exact honly.along act_keepsFlags u

/-- **Requests one after the other keep the agreement of the flags**, where none of them takes
`deleted` away, whatever happens to their calls. -/
theorem alone_flagsAgree (ops : List Op) (hops : ∀ op ∈ ops, op.undeletes = false)
    (hs : s.FlagsAgree) :
    (ops.foldl (fun s op => (Prog.exec (handle site) op.program s).2) s).FlagsAgree := by
  induction ops generalizing s with
  | nil => exact hs
  | cons op ops ih =>
    refine ih (fun op hop => hops op (List.mem_cons_of_mem _ hop)) ?_
    have halong : Prog.Along (handle site) Act.keepsFlags op.program s := by
      have hop := hops op (List.mem_cons_self ..)
      cases op with
      | delete plan id => exact delete_along
      | _ =>
        refine (program_sparesFlags ?_).along act_keepsFlags s
        simpa only [Op.sparesFlags, Bool.not_eq_true'] using hop
    exact halong.exec_preserves
      (fun act t hkeeps ht => (handle_flagsAgree_iff act t ht).mpr hkeeps) hs

/-- A call that does not authorize a member. -/
def Query.doesNotAuthorize : Query → Bool
  | .memberUpdate _ payload => payload.authorized == some false
  | q => q.sparesStashed

/-- The controller takes the authorization from a member where an update says so. -/
def Site.Obeys (site : Site) : Prop :=
  ∀ old payload, payload.authorized = some false →
    (site.update old payload).config.authorized = false

/-- The `Update` of `stash` is not refused before the controller has answered it. -/
structure Plan.Reaches (plan : Plan) (id : MemberId) : Prop where
  answers : ∀ consultation, ∃ a, plan.answer consultation = .ok a
  takes : plan.outcome (.memberUpdate id ⟨stashParams, none, none⟩) ≠ .failsBefore

/-- The controller does not authorize the member. -/
def Store.Unauthorized (s : Store) (id : MemberId) : Prop :=
  ∀ detail ∈ s.controller.get? id, detail.config.authorized = false

theorem doesNotAuthorize_cases (h : q.doesNotAuthorize = true) :
    q.sparesStashed = true ∨
      ∃ id payload, q = .memberUpdate id payload ∧ payload.authorized = some false := by
  cases q with
  | memberUpdate id payload => exact .inr ⟨id, payload, rfl, eq_of_beq h⟩
  | _ => exact .inl h

theorem doesNotAuthorize_keeps (hobeys : site.Obeys) (act : Act) (s : Store)
    (h : act.query.doesNotAuthorize = true) : act.keepsStashed site s := by
  intro _
  rcases doesNotAuthorize_cases h with hspares | ⟨j, payload, hquery, hpayload⟩
  · exact keepsStashed_of_spares hspares s
  · rw [hquery]
    change ((s.rows.get? j).all fun row => !(row.isDeleted &&
      (site.update (s.controller.get? j) payload).config.authorized)) = true
    rw [hobeys _ payload hpayload, Option.all_eq_true]
    exact fun row _ => by rw [Bool.and_false, Bool.not_false]

theorem exec_consult_bind {α : Type} {consultation : Consultation} {a : consultation.Ans}
    {f : consultation.Ans → Proc α} (h : plan.answer consultation = .ok a) :
    Prog.exec (handle site) (consult plan consultation >>= f) s =
      Prog.exec (handle site) (f a) s := by
  refine Prog.exec_bind_ok ?_
  rw [consult, Prog.exec_ofExcept, h]

/-- Behind the update the member is not authorized. -/
theorem handle_memberUpdate_unauthorized (hobeys : site.Obeys) {payload : Payload}
    (hpayload : payload.authorized = some false) {outcome : Outcome}
    (htakes : outcome ≠ .failsBefore) :
    (handle site ⟨.memberUpdate id payload, outcome⟩ s).2.Unauthorized id := by
  intro detail hdetail
  rw [handle_controller, if_pos (show Act.takesEffect _ = true from decide_eq_true htakes)]
    at hdetail
  obtain rfl := Option.some.inj ((Dict.get?_set_self _ _ _).symm.trans hdetail)
  exact hobeys _ payload hpayload

/-- A call that does not touch the controller. -/
def Query.leavesController : Query → Bool
  | .memberUpdate _ _ | .memberDelete _ | .changeController _ => false
  | _ => true

theorem handle_leavesController {act : Act} (h : act.query.leavesController = true) :
    (handle site act s).2.controller = s.controller := by
  rw [handle_controller]
  split
  · cases hquery : act.query with
    | memberUpdate _ _ | memberDelete _ | changeController _ =>
      rw [hquery] at h
      cases h
    | _ => rfl
  · rfl

/-- Behind the call of `Update` to the controller, whatever it answers. -/
theorem sent_unauthorized {t : Store} {r : Except Failure Detail} (hobeys : site.Obeys)
    (htakes : plan.outcome (.memberUpdate id ⟨stashParams, none, none⟩) ≠ .failsBefore)
    (h : Prog.exec (handle site)
      (tryCatch (perform plan (.memberUpdate id ⟨stashParams, none, none⟩))
      fun _ => throw notInNetwork) s = (r, t)) : t.Unauthorized id := by
  have hcut : (handle site ⟨.memberUpdate id ⟨stashParams, none, none⟩,
      plan.outcome (.memberUpdate id ⟨stashParams, none, none⟩)⟩ s).2.Unauthorized id :=
    handle_memberUpdate_unauthorized hobeys rfl htakes
  rw [Prog.exec_tryCatch, perform, Prog.exec_call] at h
  split at h
  · next heq =>
    rw [heq] at hcut
    cases h
    exact hcut
  · next heq =>
    rw [heq] at hcut
    cases h
    exact hcut

/-- **The `Update` of `stash`**, where it gets to the controller, leaves the member without
authorization. -/
theorem update_unauthorized (hobeys : site.Obeys) (hreaches : plan.Reaches id) :
    (Prog.exec (handle site) (update plan id stashParams) s).2.Unauthorized id := by
  have hanswers := hreaches.answers
  obtain ⟨_, haccess⟩ := hanswers (.checkNetworkAccess .update)
  obtain ⟨_, hlog⟩ := hanswers (.createActivityLog .update)
  obtain ⟨_, hoptions⟩ := hanswers .findUserOptions
  obtain ⟨_, hips⟩ := hanswers (.validateIps stashParams.ipAssignments)
  have henter : Prog.exec (handle site) (enter plan .update) s = (.ok (), s) := by
    unfold enter
    rw [exec_consult_bind haccess, consult, Prog.exec_ofExcept, hlog]
  unfold update
  rw [Prog.exec_bind_ok henter, exec_consult_bind hoptions]
  rw [Prog.exec_bind_ok (a := ()) (t := s) rfl, exec_consult_bind hips]
  refine Prog.exec_bind_snd (P := fun t : Store => t.Unauthorized id) (fun _ u hsent => ?_)
    fun updatedMember u hsent => ?_
  · exact sent_unauthorized hobeys hreaches.takes hsent
  · -- what comes behind the call of the controller leaves the controller alone
    have honly : Makes Query.leavesController (do
        updateRow plan id stashParams updatedMember
        attempt (consult plan (.announce .update))) :=
      Prog.Only.bind (makes_updateRow (fun _ => rfl) (fun _ _ _ _ => rfl) _ _ _) fun _ =>
        only_attempt (only_consult _)
    refine honly.exec_preserves (I := fun t : Store => t.Unauthorized id) (fun act v h hv => ?_)
      (sent_unauthorized hobeys hreaches.takes hsent)
    rw [Store.Unauthorized, handle_leavesController h]
    exact hv

theorem exec_attempt (p : Proc Unit) :
    (Prog.exec (handle site) (attempt p) s).2 = (Prog.exec (handle site) p s).2 := by
  unfold attempt
  rw [Prog.exec_tryCatch]
  obtain ⟨r, t⟩ := Prog.exec (handle site) p s
  cases r with
  | ok a | error e => rfl

/-- `stash` marks the row of a member that it has cut off. -/
theorem stash_along (hobeys : site.Obeys) (hreaches : plan.Reaches id) :
    Prog.Along (handle site) (Act.keepsStashed site) (stash plan id) s := by
  unfold stash
  have henter : Makes Query.sparesStashed (enter plan .stash) := makes_enter .stash
  refine Prog.Along.bind (henter.along act_keepsStashed s) fun _ t _ => ?_
  have hupdate : Makes Query.doesNotAuthorize (attempt (update plan id stashParams)) :=
    only_attempt (makes_update rfl (fun _ => rfl) fun _ _ _ _ => rfl)
  refine Prog.Along.bind (hupdate.along (doesNotAuthorize_keeps hobeys) t) fun _ u hexec => ?_
  have hcut : u.Unauthorized id := by
    have hstate := (congrArg Prod.snd hexec).symm.trans (exec_attempt _)
    rw [show u = _ from hstate]
    exact update_unauthorized hobeys hreaches
  have hrest : Makes Query.sparesStashed (attempt (consult plan (.announce .stash))) :=
    only_attempt (only_consult _)
  refine Prog.Along.bind (Prog.Along.tryCatch (Prog.along_call fun _ => ?_) fun _ _ _ =>
    Prog.along_pure ()) fun _ v _ => hrest.along act_keepsStashed v
  change ((u.rows.get? id).all fun _ =>
    (u.controller.get? id).all fun detail => !detail.config.authorized) = true
  simp only [Option.all_eq_true, Bool.not_eq_true']
  exact fun _ _ => hcut

/-- **A `stash` that is alone** keeps stashed members cut off, where it gets to a controller that
obeys. -/
theorem stash_keeps (hobeys : site.Obeys) (hreaches : plan.Reaches id)
    (hs : s.StashedUnauthorized) :
    (Prog.exec (handle site) (stash plan id) s).2.StashedUnauthorized :=
  (stash_along hobeys hreaches).exec_preserves
    (fun act t hkeeps ht => (handle_stashedUnauthorized_iff act t ht).mpr hkeeps) hs

end

end ZtPlanet.Ztnet.Members
