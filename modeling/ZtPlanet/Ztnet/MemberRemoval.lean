/-
# Which members reconciling removes

`reconcileNetworkMembers` asks the controller for its members, then reads the rows, and at the end
removes the rows that are shown and that the answer did not contain.  Between the answer and the
rows others can act.  A removal is justified if, at some time between the answer and the removal at
which the row was there already, the controller did not have the member.

The history keeps what the controller held at every time, and when each row began to be shown.  A
row that was shown before the controller answered is removed only if the controller did not have
the member when it answered (`removals_justified`).  A row that was written in between can belong
to a member that the controller had all along (`created_member_is_removed`): `create` adds the
member to the controller first.
-/
import ZtPlanet.Ztnet.MemberSteps

namespace ZtPlanet.Ztnet.Members

open ZtPlanet.Lib

/-! ## 1. Removals -/

/-- The removal of a row: when the controller was asked, when the row began to be shown, and when
it was removed. -/
structure Removal where
  id : MemberId
  readAt : Nat
  writtenAt : Nat
  removedAt : Nat
deriving DecidableEq

structure History where
  /-- what the controller held at each time so far -/
  past : List (Dict MemberId Detail)
  /-- since when the row of a member is shown -/
  written : MemberId → Nat
  removals : List Removal

/-- The row of the member is shown. -/
def Store.shows (s : Store) (id : MemberId) : Bool :=
  (s.rows.get? id).any fun row => !row.isDeleted

/-- The removals of a step. -/
def Act.removals (act : Act) (s : Store) (x : History) : List Removal :=
  match act.query with
  | .removeOrphans orphans readAt =>
    if act.outcome = .failsBefore then []
    else orphans.map fun orphan => ⟨orphan.1, readAt, x.written orphan.1, s.clock⟩
  | _ => []

/-- What a step adds to the history. -/
def noteRemovals (site : Site) (act : Act) (s : Store) (x : History) : History where
  past := x.past ++ [s.controller]
  written := fun id =>
    if (handle site act s).2.shows id && !s.shows id then s.clock + 1 else x.written id
  removals := x.removals ++ act.removals s x

abbrev removalHandle (site : Site) : Prog.Handler Act Act.Ans Failure (Store × History) :=
  Prog.withHistory (handle site) (noteRemovals site)

/-- The controller did not have the member at the given time. -/
def lacks (past : List (Dict MemberId Detail)) (time : Nat) (id : MemberId) : Bool :=
  (past[time]?).any fun controller => !controller.contains id

/-- The controller did not have the member at some time since it was asked and since the row was
shown. -/
def Justified (past : List (Dict MemberId Detail)) (r : Removal) : Prop :=
  ∃ time ∈ List.range (r.removedAt + 1),
    r.readAt ≤ time ∧ r.writtenAt ≤ time ∧ lacks past time r.id = true

instance (past : List (Dict MemberId Detail)) (r : Removal) : Decidable (Justified past r) :=
  inferInstanceAs (Decidable (∃ time ∈ List.range (r.removedAt + 1), _))

/-- Only rows are removed that were shown before the controller was asked. -/
def ShownBefore (act : Act) (s : Store × History) : Prop :=
  ∀ r ∈ act.removals s.1 s.2, r.writtenAt ≤ r.readAt

instance (act : Act) (s : Store × History) : Decidable (ShownBefore act s) :=
  inferInstanceAs (Decidable (∀ r ∈ act.removals s.1 s.2, _))

/-- The history is that of the store, and every removal so far was justified. -/
structure Accounted (s : Store × History) : Prop where
  timed : s.2.past.length = s.1.clock
  justified : ∀ r ∈ s.2.removals, Justified s.2.past r

/-- What lies between two states of a run. -/
structure Later (s s' : Store × History) : Prop where
  past : s.2.past <+: s'.2.past
  accounted : Accounted s → Accounted s'

/-! ## 2. Steps -/

variable {site : Site} {plan : Plan} {s s' : Store × History} {act : Act}

theorem Later.refl (s : Store × History) : Later s s := ⟨List.prefix_refl _, id⟩

theorem Later.trans {s₁ s₂ s₃ : Store × History} (h₁ : Later s₁ s₂) (h₂ : Later s₂ s₃) :
    Later s₁ s₃ :=
  ⟨h₁.past.trans h₂.past, fun h => h₂.accounted (h₁.accounted h)⟩

theorem lacks_mono {past past' : List (Dict MemberId Detail)} (h : past <+: past')
    {time : Nat} {id : MemberId} (hlacks : lacks past time id = true) :
    lacks past' time id = true := by
  obtain ⟨controller, hcontroller, hnot⟩ := (Option.any_eq_true _ _).mp hlacks
  obtain ⟨hlt, hget⟩ := List.getElem?_eq_some_iff.mp hcontroller
  refine (Option.any_eq_true _ _).mpr ⟨controller, ?_, hnot⟩
  rw [List.prefix_iff_getElem?.mp h time hlt, hget]

theorem Justified.mono {past past' : List (Dict MemberId Detail)} (h : past <+: past')
    {r : Removal} (hr : Justified past r) : Justified past' r := by
  obtain ⟨time, hrange, hread, hwritten, hlacks⟩ := hr
  exact ⟨time, hrange, hread, hwritten, lacks_mono h hlacks⟩

theorem removedAt_of_mem {s : Store} {x : History} {r : Removal} (hr : r ∈ act.removals s x) :
    r.removedAt = s.clock := by
  unfold Act.removals at hr
  split at hr
  · split at hr
    · cases hr
    · obtain ⟨orphan, -, rfl⟩ := List.mem_map.mp hr
      rfl
  · cases hr

theorem lt_of_lacks {past : List (Dict MemberId Detail)} {time : Nat} {id : MemberId}
    (h : lacks past time id = true) : time < past.length := by
  obtain ⟨controller, hcontroller, -⟩ := (Option.any_eq_true _ _).mp h
  exact (List.getElem?_eq_some_iff.mp hcontroller).1

/-- A step is accounted for where its removals are of members that the controller did not have when
it was asked, and of rows that were shown by then. -/
theorem later_of_removals (hlacks : ∀ r ∈ act.removals s.1 s.2, lacks s.2.past r.readAt r.id = true)
    (hshown : ShownBefore act s) :
    Later s (removalHandle site act s).2 := by
  have hextends : s.2.past <+: s.2.past ++ [s.1.controller] := List.prefix_append _ _
  refine ⟨hextends, fun h => ⟨?_, fun r hr => ?_⟩⟩
  · change (s.2.past ++ [s.1.controller]).length = (handle site act s.1).2.clock
    rw [List.length_append, h.timed, handle_clock]
    rfl
  · rcases List.mem_append.mp hr with hr | hr
    · exact (h.justified r hr).mono hextends
    · have hlack := hlacks r hr
      refine ⟨r.readAt, ?_, le_refl _, hshown r hr, lacks_mono hextends hlack⟩
      have hlt := lt_of_lacks hlack
      rw [h.timed, ← removedAt_of_mem hr] at hlt
      exact List.mem_range.mpr (Nat.lt_succ_of_lt hlt)

/-- Every call but the drift cleanup. -/
def Act.keepsRows (act : Act) : Prop := ∀ orphans readAt, act.query ≠ .removeOrphans orphans readAt

theorem later_of_keepsRows (hact : act.keepsRows) :
    Later s (removalHandle site act s).2 := by
  have hnone : act.removals s.1 s.2 = [] := by
    unfold Act.removals
    split
    · next orphans readAt hquery => exact absurd hquery (hact orphans readAt)
    · rfl
  refine later_of_removals (fun r hr => ?_) fun r hr => ?_
  · rw [hnone] at hr
    cases hr
  · rw [hnone] at hr
    cases hr

/-! ## 3. Procedures -/

/-- A procedure that plays its part in a run: each of its steps is accounted for. -/
abbrev Careful (site : Site) {α : Type} (post : Except Failure α → Store × History → Prop)
    (p : Proc α) (s : Store × History) : Prop :=
  Prog.Steady (removalHandle site) Later ShownBefore (fun _ _ => True) post p s

/-- A procedure without a drift cleanup. -/
theorem careful_of_only {α : Type} {p : Proc α} (hp : Prog.Only Act.keepsRows p) :
    Careful site (fun _ t => Later s t) p s :=
  hp.steady Later.refl (fun _ _ _ => Later.trans) fun _ _ hact _ =>
    ⟨trivial, later_of_keepsRows hact⟩

/-- Such a procedure at the beginning of another. -/
theorem careful_bind {α β : Type} {p : Proc α} {f : α → Proc β} (hp : Prog.Only Act.keepsRows p)
    (hf : ∀ a t, Later s t → Careful site (fun _ _ => True) (f a) t) :
    Careful site (fun _ _ => True) (p >>= f) s := by
  refine ((careful_of_only hp).mono fun r t hlater => ?_).bind
  cases r with
  | ok a => exact hf a t hlater
  | error e => trivial

/-- One call. -/
theorem careful_perform {query : Query} {post : Except Failure query.Ans → Store × History → Prop}
    (hact : ∀ t, Later s t → ShownBefore ⟨query, plan.outcome query⟩ t →
      Later t (removalHandle site ⟨query, plan.outcome query⟩ t).2 ∧
        post (removalHandle site ⟨query, plan.outcome query⟩ t).1
          (removalHandle site ⟨query, plan.outcome query⟩ t).2) :
    Careful site post (perform plan query) s :=
  Prog.steady_call fun t hlater hshown => ⟨trivial, hact t hlater hshown⟩

theorem only_query {query : Query} (h : ∀ orphans readAt, query ≠ .removeOrphans orphans readAt) :
    Prog.Only Act.keepsRows (perform plan query) :=
  only_perform fun _ => h

/-- The call is not the drift cleanup. -/
def Query.leavesRows : Query → Bool
  | .removeOrphans _ _ => false
  | _ => true

theorem only_makes {α : Type} {p : Proc α} (hp : Makes Query.leavesRows p) :
    Prog.Only Act.keepsRows p := by
  refine hp.mono fun act hact orphans readAt hquery => ?_
  rw [hquery] at hact
  cases hact

/-- Only `reconcileNetworkMembers` cleans up. -/
theorem leavesRows_of_calls {op : Op} (hop : ∀ plan full, op ≠ .reconcile plan full) {q : Query}
    (hq : op.calls q = true) : q.leavesRows = true := by
  cases q with
  | removeOrphans _ _ =>
    cases op with
    | reconcile plan full => exact absurd rfl (hop plan full)
    | _ => cases hq
  | _ => rfl

/-- What the controller has answered at `readAt`. -/
def Answered (revisionMap : Dict MemberId Nat) (readAt : Nat) (s : Store × History) : Prop :=
  ∀ id, revisionMap.get? id = none → lacks s.2.past readAt id = true

theorem Answered.later {revisionMap : Dict MemberId Nat} {readAt : Nat}
    (h : Answered revisionMap readAt s) (hlater : Later s s') : Answered revisionMap readAt s' :=
  fun id hid => lacks_mono hlater.past (h id hid)

/-- The drift cleanup removes members that were not in the answer. -/
theorem removeOrphans_careful {revisionMap : Dict MemberId Nat} {dbMembers : Dict MemberId Row}
    {readAt : Nat} (h : Answered revisionMap readAt s) :
    Careful site (fun _ t => Later s t) (onlyIf (orphansOf revisionMap dbMembers ≠ [])
      (perform plan (.removeOrphans (orphansOf revisionMap dbMembers) readAt))) s := by
  unfold onlyIf
  split
  · refine careful_perform fun t hlater hshown => ?_
    have hlacks : ∀ r ∈ Act.removals ⟨.removeOrphans (orphansOf revisionMap dbMembers) readAt,
        plan.outcome (.removeOrphans (orphansOf revisionMap dbMembers) readAt)⟩ t.1 t.2,
          lacks t.2.past r.readAt r.id = true := by
      intro r hr
      unfold Act.removals at hr
      dsimp only at hr
      split at hr
      · cases hr
      · obtain ⟨orphan, horphan, rfl⟩ := List.mem_map.mp hr
        obtain ⟨row, -, hnone, -⟩ := mem_orphansOf.mp (List.mem_map.mpr ⟨orphan, horphan, rfl⟩)
        exact h.later hlater orphan.1 hnone
    have hstep := @later_of_removals site _ _ hlacks hshown
    exact ⟨hstep, hlater.trans hstep⟩
  · exact Later.refl s

/-- The answer to `network_members` comes with the time at which it was given. -/
theorem answered_of_networkMembers {outcome : Outcome} {answer : Nat × Dict MemberId Nat}
    {t : Store × History} (hs : Accounted s)
    (hstep : removalHandle site ⟨.networkMembers, outcome⟩ s = (.ok answer, t)) :
    Answered answer.2 answer.1 t := by
  cases outcome with
  | failsBefore => cases hstep
  | failsAfter => cases hstep
  | done =>
    cases hstep
    intro id hid
    change lacks (s.2.past ++ [s.1.controller]) s.1.clock id = true
    refine (Option.any_eq_true _ _).mpr ⟨s.1.controller, ?_, ?_⟩
    · rw [← hs.timed, List.getElem?_concat_length]
    · rw [Dict.get?_mapValues, Option.map_eq_none_iff] at hid
      rw [Dict.contains, hid]
      rfl

/-- **Reconciling is careful.** -/
theorem reconcile_careful (full : Bool) (hs : Accounted s) :
    Careful site (fun _ _ => True) (reconcileNetworkMembers plan full) s := by
  unfold reconcileNetworkMembers
  refine Prog.Steady.bind (careful_perform fun t hlater _ => ?_)
  refine ⟨later_of_keepsRows fun _ _ => nofun, ?_⟩
  cases hstep : removalHandle site ⟨.networkMembers, plan.outcome .networkMembers⟩ t with
  | mk r t₁ =>
    cases r with
    | error e => trivial
    | ok answer =>
      have hanswered := answered_of_networkMembers (hlater.accounted hs) hstep
      obtain ⟨readAt, revisionMap⟩ := answer
      dsimp only
      refine careful_bind (only_query fun _ _ => nofun) fun dbMembers t₂ h₂ => ?_
      refine careful_bind (only_makes (makes_fetchMemberDetails (fun _ => rfl) _))
        fun details t₃ h₃ => ?_
      refine careful_bind (only_makes (makes_persistDetails (fun _ _ => rfl)
        (fun _ _ _ _ _ => rfl) _ _ _ _)) fun _ t₄ h₄ => ?_
      have hlate := h₂.trans (h₃.trans h₄)
      refine Prog.Steady.bind ((removeOrphans_careful (hanswered.later hlate)).mono
        fun r t₅ _ => ?_)
      cases r with
      | error e => trivial
      | ok _ =>
        refine (careful_of_only (only_makes ?_)).mono fun _ _ _ => trivial
        refine Prog.Only.bind (only_consult _) fun live => ?_
        refine Prog.Only.bind (makes_perform rfl) fun active => ?_
        exact Prog.Only.bind (makes_writeVersions (fun _ _ => rfl) _ _) fun _ => Prog.only_pure _

/-! ## 4. Runs -/

theorem program_careful (op : Op) (hs : Accounted s) :
    Careful site (fun _ _ => True) (op.program) s := by
  by_cases hop : ∃ plan full, op = .reconcile plan full
  · obtain ⟨plan, full, rfl⟩ := hop
    refine Prog.Steady.bind ((reconcile_careful full hs).mono fun r t _ => ?_)
    cases r with
    | ok returned => trivial
    | error e => trivial
  · push Not at hop
    exact (careful_of_only (only_makes ((program_makes op).mono fun _ =>
      leavesRows_of_calls hop))).mono fun _ _ _ => trivial

/-- Before any step. -/
def freshHistory : History := ⟨[], fun _ => 0, []⟩

/-- **Reconciling removes only members that were gone.**  In every run, of any procedures and with
any changes of the controller, in which each removed row was shown before the controller was asked,
every removal is justified. -/
theorem removals_justified (site : Site) (store : Store) (hstart : store.clock = 0)
    (events : List (PoolEvent Op)) {w : PoolState Act Act.Ans Failure Unit (Store × History)}
    (hshown : (memberMachine site (noteRemovals site)).Conforms (PoolState.meets ShownBefore)
      ⟨(store, freshHistory), []⟩ events)
    (hrun : (memberMachine site (noteRemovals site)).run ⟨(store, freshHistory), []⟩ events =
      some w) :
    ∀ r ∈ w.state.2.removals, Justified w.state.2.past r := by
  have haccounted : Accounted w.state := by
    refine pool_invariant Later.refl (fun _ _ _ => Later.trans)
      (fun s s' hs hlater => hlater.accounted hs)
      (fun op s hs => @program_careful site _ op hs) ?_ ?_ hshown hrun
    · exact ⟨hstart.symm, fun r hr => nomatch hr⟩
    · exact fun p hp => nomatch hp
  exact haccounted.justified

/-! ## 5. A member that is created during a run -/

/-- A network without members. -/
def noMembers : Store := ⟨Dict.empty, Dict.empty, 1, [], 0⟩

/-- The controller answers, a member is created, and the rows are read and cleaned up. -/
def creationDuringRun : List (PoolEvent Op) :=
  [.start (.reconcile plainPlan false), .start (.create plainPlan false "1"), .step 0,
    .step 1, .step 1, .step 1, .step 0, .step 0]

/-- **A created member is removed**, although the controller has it since before its row was
written. -/
theorem created_member_is_removed :
    ∃ w, (memberMachine plainSite (noteRemovals plainSite)).run
        ⟨(noMembers, freshHistory), []⟩ creationDuringRun = some w ∧
      w.state.1.rows.contains "1" = false ∧ w.state.1.controller.contains "1" = true ∧
      ¬ ∀ r ∈ w.state.2.removals, Justified w.state.2.past r := by
  exact Machine.exists_run (by decide +kernel) fun w _ h => h

/-- A row of a member that has left. -/
def departedMember : Store := { noMembers with rows := Dict.empty.set "1" (newRow 1 none none) }

/-- The row of a member that has left is removed, and rightly. -/
theorem departed_member_is_removed :
    ∃ w, (memberMachine plainSite (noteRemovals plainSite)).run ⟨(departedMember, freshHistory), []⟩
        [.start (.reconcile plainPlan false), .step 0, .step 0, .step 0] = some w ∧
      w.state.2.removals = [⟨"1", 0, 0, 2⟩] ∧
      ∀ r ∈ w.state.2.removals, Justified w.state.2.past r := by
  refine Machine.exists_run (P := fun w => w.state.2.removals = [⟨"1", 0, 0, 2⟩])
    (by decide +kernel) fun w hw hremovals => ⟨hremovals, ?_⟩
  exact removals_justified plainSite departedMember rfl _ (by decide +kernel) hw

end ZtPlanet.Ztnet.Members
