/-
# One reconcile of a network at a time

`reconcileNetworkMembersOnce` keeps the runs of `reconcileNetworkMembers` that are in flight, by
network, and gives a caller the run that is there.  A run takes the option `full` from the call that
started it; the option of a call that joins is not looked at.  So a full call that comes while an
incremental run is in flight gets that run, `full_joins_incremental`.

What a full run does is `Refetched`: it has a detail from the controller for every member that the
controller listed to it and that the database did not hide.  A detail that cannot be fetched is left
out, and the run goes on without it.
-/
import ZtPlanet.Ztnet.Members
import ZtPlanet.Lib.SingleFlight

namespace ZtPlanet.Ztnet.Members

open ZtPlanet.Lib

/-! ## 1. The calls -/

/-- `options`, with what happens to the run from outside. -/
structure ReconcileOptions where
  full : Bool
  plan : Plan

/-- What an action of a run does to the network. -/
def handleNetwork (site : Site) (nwid : NetworkId) :
    Prog.Handler Act Act.Ans Failure (NetworkId → Store) :=
  fun act stores =>
    let answer := handle site act (stores nwid)
    (answer.1, Function.update stores nwid answer.2)

/-- `reconcileNetworkMembersOnce`, with `inFlightReconciles`. -/
abbrev reconcileMachine (site : Site) :
    Machine (Flights NetworkId ReconcileOptions Act Act.Ans Failure (List MemberId)
      (NetworkId → Store)) (FlightEvent NetworkId ReconcileOptions (NetworkId → Store)) :=
  flightMachine (handleNetwork site) fun _ options =>
    reconcileNetworkMembers options.plan options.full

/-- What a run has done. -/
abbrev Trace : Type := List (Done Act Act.Ans Failure)

/-- The member is active, as the database has it. -/
def activeIn (dbMembers : Dict MemberId Row) (id : MemberId) : Bool :=
  (dbMembers.get? id).all fun row => !row.isDeleted && !row.isPermanentlyDeleted

/-- A detail of the member has been fetched. -/
def Fetched (t : Trace) (id : MemberId) : Prop :=
  ∃ outcome detail, (⟨⟨.memberDetails id, outcome⟩, .ok detail⟩ : Done Act Act.Ans Failure) ∈ t

/-- **A full run**: the members and the rows have been read, and a detail has been fetched of every
active member. -/
def Refetched (t : Trace) : Prop :=
  ∃ listed outcome read outcome', ∃ dbMembers : Dict MemberId Row,
    (⟨⟨.networkMembers, outcome⟩, .ok (read, listed)⟩ : Done Act Act.Ans Failure) ∈ t ∧
    (⟨⟨.findMembers, outcome'⟩, .ok dbMembers⟩ : Done Act Act.Ans Failure) ∈ t ∧
    ∀ id ∈ Dict.keys listed, activeIn dbMembers id = true → Fetched t id

def Query.asksDetail : Query → Bool
  | .memberDetails _ => true
  | _ => false

/-- A detail that is asked for is answered. -/
def DetailAnswered (act : Act) (r : Except Failure act.Ans) : Prop :=
  act.query.asksDetail = true → r.isOk = true

/-- What a run promises: a full one to refetch every member, where every detail that it asks for is
answered. -/
def fullPromise : Promise NetworkId ReconcileOptions Act Act.Ans Failure (List MemberId) where
  good _ options act r := options.full = true → DetailAnswered act r
  post _ options t _ := options.full = true → Refetched t
  serves options options' := options.full = true → options'.full = true

/-! ## 2. A full run -/

section

variable {site : Site} {plan : Plan} {t : Trace}

theorem Fetched.extend {t' : Trace} {id : MemberId} (h : Fetched t id) (hext : ∀ d ∈ t, d ∈ t') :
    Fetched t' id := by
  obtain ⟨outcome, detail, hmem⟩ := h
  exact ⟨outcome, detail, hext _ hmem⟩

theorem Refetched.extend {t' : Trace} (h : Refetched t) (hext : ∀ d ∈ t, d ∈ t') :
    Refetched t' := by
  obtain ⟨listed, outcome, read, outcome', dbMembers, hlisted, hread, hfetched⟩ := h
  exact ⟨listed, outcome, read, outcome', dbMembers, hext _ hlisted, hext _ hread,
    fun id hid hactive => (hfetched id hid hactive).extend hext⟩

/-- The batch fetches all that it is asked for. -/
theorem traced_fetchMemberDetails (ids : List MemberId) (t : Trace) :
    Prog.Traced DetailAnswered (fun t' _ => (∀ d ∈ t, d ∈ t') ∧ ∀ id ∈ ids, Fetched t' id)
      (fetchMemberDetails plan ids) t := by
  induction ids generalizing t with
  | nil => exact ⟨fun _ hd => hd, by simp⟩
  | cons id ids ih =>
    intro r hr
    obtain ⟨detail, rfl⟩ : ∃ detail, r = .ok detail := by
      cases r with
      | ok detail => exact ⟨detail, rfl⟩
      | error _ => exact absurd (hr rfl) (by simp [Except.isOk, Except.toBool])
    change Prog.Traced DetailAnswered _ (fetchMemberDetails plan ids >>= fun details =>
      pure ([(id, detail)] ++ details)) _
    refine Prog.Traced.bind ((ih _).mono fun t' details h => ?_)
    obtain ⟨hext, hfetched⟩ := h
    refine ⟨fun d hd => hext d (List.mem_append_left _ hd), fun id' hid' => ?_⟩
    rcases List.mem_cons.mp hid' with rfl | hid'
    · exact ⟨_, detail, hext _ (List.mem_append_right _ (List.mem_singleton.mpr rfl))⟩
    · exact hfetched id' hid'

theorem needsDetail_full (db : Option Row) (revision : Nat) :
    needsDetail true db revision =
      db.all fun row => !row.isDeleted && !row.isPermanentlyDeleted := by
  cases db with
  | none => rfl
  | some row => cases hdeleted : row.isDeleted <;> cases hpermanent : row.isPermanentlyDeleted <;>
      simp [needsDetail, hdeleted, hpermanent]

/-- A full run asks for every active member. -/
theorem mem_idsToFetch {listed : Dict MemberId Nat} {dbMembers : Dict MemberId Row} {id : MemberId}
    (hid : id ∈ listed.keys) (hactive : activeIn dbMembers id = true) :
    id ∈ (listed.filter fun id revision =>
      needsDetail true (dbMembers.get? id) revision).keys := by
  obtain ⟨revision, hrevision⟩ := Dict.mem_keys_iff.mp hid
  refine Dict.mem_keys_iff.mpr ⟨revision, ?_⟩
  rw [Dict.get?_filter, hrevision, Option.filter_some, needsDetail_full]
  exact if_pos hactive

/-- **A full run refetches every active member.** -/
theorem traced_reconcile (plan : Plan) :
    Prog.Traced DetailAnswered (fun t _ => Refetched t) (reconcileNetworkMembers plan true) [] := by
  refine Prog.Traced.bind (Prog.traced_call fun listing _ => ?_)
  obtain ⟨readAt, listed⟩ := listing
  refine Prog.Traced.bind (Prog.traced_call fun dbMembers _ => ?_)
  refine Prog.Traced.bind ((traced_fetchMemberDetails _ _).mono fun t details h => ?_)
  have hrefetched : Refetched t := by
    refine ⟨listed, plan.outcome .networkMembers, readAt, plan.outcome .findMembers, dbMembers,
      h.1 _ ?_, h.1 _ ?_, fun id hid hactive => ?_⟩
    · exact List.mem_append_left _ (List.mem_append_right _ (List.mem_singleton.mpr rfl))
    · exact List.mem_append_right _ (List.mem_singleton.mpr rfl)
    · exact h.2 id (mem_idsToFetch hid hactive)
  exact (Prog.traced_extends _ t).mono fun t' _ hext => hrefetched.extend hext

/-- **What a run promises, it keeps.** -/
theorem keeps_fullPromise (nwid : NetworkId) (options : ReconcileOptions) :
    Prog.Traced (fullPromise.good nwid options) (fullPromise.post nwid options)
      (reconcileNetworkMembers options.plan options.full) [] := by
  obtain ⟨full, plan⟩ := options
  cases full with
  | true =>
    exact ((traced_reconcile plan).of_good fun act r hgood => hgood rfl).mono fun _ _ h _ => h
  | false => exact (Prog.traced_extends _ []).mono fun _ _ _ hfull => nomatch hfull

end

/-! ## 3. Calls -/

/-- What a call with `full: true` is to get: a full run, and where that has returned, one that has
refetched every active member. -/
def FullIsFull (w : Flights NetworkId ReconcileOptions Act Act.Ans Failure (List MemberId)
    (NetworkId → Store)) : Prop :=
  ∀ call ∈ w.calls, call.opt.full = true →
    ∃ flight, w.flights[call.flight]? = some flight ∧ flight.key = call.key ∧
      flight.opt.full = true ∧ ∀ members, flight.rest = .pure members → Refetched flight.trace

/-- No full call comes while an incremental run of the network is in flight, and a full run gets an
answer for every detail that it asks for. -/
abbrev FullIsServed (site : Site) (w : Flights NetworkId ReconcileOptions Act Act.Ans Failure
    (List MemberId) (NetworkId → Store)) :
    FlightEvent NetworkId ReconcileOptions (NetworkId → Store) → Prop :=
  w.Meets (handleNetwork site) fullPromise

instance (site : Site) (w : Flights NetworkId ReconcileOptions Act Act.Ans Failure
    (List MemberId) (NetworkId → Store))
    (event : FlightEvent NetworkId ReconcileOptions (NetworkId → Store)) :
    Decidable (FullIsServed site w event) :=
  match event with
  | .call nwid options => inferInstanceAs (Decidable (∀ j ∈ w.inFlight.get? nwid,
      ∀ flight ∈ w.flights[j]?, options.full = true → flight.opt.full = true))
  | .step j => inferInstanceAs (Decidable (∀ flight ∈ w.flights[j]?, ∀ act ∈ flight.rest.next,
      flight.opt.full = true → act.query.asksDetail = true →
        (handleNetwork site flight.key act w.state).1.isOk = true))
  | .settle _ | .change _ => isTrue trivial

/-- **A full reconcile is full.**  From any stores, after every run of calls and of anything that
anybody does to the stores, in which no full call joins an incremental run and every detail that a
full run asks for is answered, each full call has a full run of its network, which returns only what
it has refetched. -/
theorem full_reconcile_is_full (site : Site) (stores : NetworkId → Store)
    (events : List (FlightEvent NetworkId ReconcileOptions (NetworkId → Store)))
    {w : Flights NetworkId ReconcileOptions Act Act.Ans Failure (List MemberId) (NetworkId → Store)}
    (hserved : (reconcileMachine site).Conforms (FullIsServed site) ⟨stores, [], Dict.empty, []⟩
      events)
    (hrun : (reconcileMachine site).run ⟨stores, [], Dict.empty, []⟩ events = some w) :
    FullIsFull w := by
  intro call hcall hfull
  obtain ⟨flight, hflight, hkey, hserves, hpost⟩ :=
    flights_invariant keeps_fullPromise (fun _ h => h) hserved hrun call hcall
  exact ⟨flight, hflight, hkey, hserves hfull, fun members hmembers =>
    hpost members hmembers (hserves hfull)⟩

/-- Two full calls, of which the second joins the run of the first, and a third behind it. -/
def fullCalls : List (FlightEvent NetworkId ReconcileOptions (NetworkId → Store)) :=
  [FlightEvent.call "1" ⟨true, plainPlan⟩, .step 0, .call "1" ⟨true, plainPlan⟩] ++
    List.replicate 4 (FlightEvent.step 0) ++
    [FlightEvent.settle 0, .call "1" ⟨true, plainPlan⟩]

theorem full_reconcile_is_full_shared :
    ∃ w, (reconcileMachine plainSite).run ⟨fun _ => oneMember waiting, [], Dict.empty, []⟩
        fullCalls = some w ∧
      w.calls.map FlightCall.flight = [0, 0, 1] ∧ FullIsFull w := by
  refine Machine.exists_run (P := fun w => w.calls.map FlightCall.flight = [0, 0, 1])
    (by decide +kernel) fun w hw hcalls => ⟨hcalls, ?_⟩
  exact full_reconcile_is_full plainSite _ fullCalls (by decide +kernel) hw

/-- A full call while an incremental run is in flight, which has nothing to fetch. -/
def fullBehindIncremental : List (FlightEvent NetworkId ReconcileOptions (NetworkId → Store)) :=
  [.call "1" ⟨false, plainPlan⟩, .step 0, .call "1" ⟨true, plainPlan⟩] ++ List.replicate 2 (.step 0)

/-- **A full call gets an incremental run**: it returns the one member, and no detail has been asked
for. -/
theorem full_joins_incremental :
    ∃ w, (reconcileMachine plainSite).run ⟨fun _ => oneMember waiting, [], Dict.empty, []⟩
        fullBehindIncremental = some w ∧
      w.calls.map (fun call => (call.opt.full, call.flight)) = [(false, 0), (true, 0)] ∧
      w.flights.map (fun flight => (flight.opt.full, flight.rest.outcome.isSome,
        flight.trace.any fun done => done.1.query.asksDetail)) = [(false, true, false)] ∧
      ¬ FullIsFull w := by
  refine Machine.exists_run
    (P := fun w => w.calls.map (fun call => (call.opt.full, call.flight)) =
      [(false, 0), (true, 0)] ∧
      w.flights.map (fun flight => (flight.opt.full, flight.rest.outcome.isSome,
        flight.trace.any fun done => done.1.query.asksDetail)) = [(false, true, false)])
    (by decide +kernel) ?_
  rintro w - ⟨hcalls, hflights⟩
  refine ⟨hcalls, hflights, fun hfull => ?_⟩
  have hmem : (true, 0) ∈ w.calls.map fun call => (call.opt.full, call.flight) := by
    rw [hcalls]
    decide
  obtain ⟨call, hcall, hoptions⟩ := List.mem_map.mp hmem
  obtain ⟨flight, hflight, -, hrun, -⟩ := hfull call hcall (Prod.mk.inj hoptions).1
  have hmapped := List.mem_map_of_mem (f := fun flight : Flight _ ReconcileOptions _ _ _ _ =>
    flight.opt.full) (List.mem_of_getElem? hflight)
  have hall : w.flights.map (fun flight => flight.opt.full) = [false] := by
    have hfirst := congrArg (List.map Prod.fst) hflights
    simpa using hfirst
  rw [hall, hrun] at hmapped
  simp at hmapped

end ZtPlanet.Ztnet.Members
