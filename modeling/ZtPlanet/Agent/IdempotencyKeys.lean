/-
# Idempotency keys

`apply` looks its key up before it looks at anything else, so a request that carries a known key is
answered with the result stored under it, whatever else the request says.  Every stored result is
one of an earlier call with that key whose configuration was installed (`table_of_calls`); the
answer is right if that configuration is the one that the request asks for, and only then.

`AnswersOwn` is what an answer should mean: the configuration in it is the request's own, and this
call or an earlier one with its key has installed it.
-/
import ZtPlanet.Agent.UndoStack

namespace ZtPlanet.Agent

open ZtPlanet.Lib ZtPlanet.Python

variable {host : Host} {plan : Plan} {s t : AgentState}

/-! ## 1. Answers -/

/-- Behind the call, which was an `apply` with this key, the configuration of the result is
installed, and it is the one that the request of the call asked for. -/
def AppliedBy (host : Host) (call : AgentState × Event) (key : PyStr) (result : ApplyResult) :
    Prop :=
  ∃ request actor plan members warnings, call.2 = .apply request actor plan ∧
    requestKey request = .ok (members, key) ∧
    validateConfig host.nfkc (get members "config") = .ok (result.updated.config, warnings) ∧
    Installed host (Prog.exec (handle host plan) (apply host request actor) call.1).2 ∧
    (Prog.exec (handle host plan) (apply host request actor) call.1).2.config = result.updated

/-- The answer to a request with these members and this key, after these calls: the configuration
in it is the one asked for, and one of the calls has applied it under the key. -/
def AnswersOwn (host : Host) (calls : List (AgentState × Event)) (members : List (PyStr × Json))
    (key : PyStr) (result : ApplyResult) : Prop :=
  (∃ warnings, validateConfig host.nfkc (get members "config") =
    .ok (result.updated.config, warnings)) ∧
  ∃ call ∈ calls, AppliedBy host call key result

/-! ## 2. What leaves the table alone -/

/-- The operation does not store a result. -/
def Act.sparesTable : Act → Prop
  | .remember _ _ => False
  | _ => True

theorem handle_idempotency {act : Act} (h : act.sparesTable) (s : AgentState) :
    (handle host plan act s).2.idempotency = s.idempotency := by
  have hread {α : Type} (o : Outcome) (value : Option α) :
      (read o s value).2.idempotency = s.idempotency := by
    rw [read_snd]
  have hwrite (o : Outcome) (enc : Bool) {u : AgentState} (hu : u.idempotency = s.idempotency) :
      (write o enc s u).2.idempotency = s.idempotency := by
    rcases write_snd o enc (s := s) (t := u) with h | h
    · rw [h]
    · rw [h, hu]
  cases act with
  | remember key result => cases h
  | remembered | utcNow | run => rfl
  | readConfig | globHistory | readHistory | sha256File => exact hread _ _
  | writeConfig | writeHistory | unlinkHistory | writeGenerated | makeGatewayReadable | audit =>
    exact hwrite _ _ rfl

/-- Nor does a program of such operations. -/
theorem exec_idempotency {α : Type} {p : AgentM α} (hp : Prog.Only Act.sparesTable p) :
    (Prog.exec (handle host plan) p s).2.idempotency = s.idempotency := by
  refine hp.exec_preserves (I := fun u : AgentState => u.idempotency = s.idempotency) ?_ rfl
  intro act u hact hu
  exact (handle_idempotency hact u).trans hu

theorem exec_perform_idempotency {act : Act} {r : Except PyError act.Ans}
    (h : Prog.exec (handle host plan) (perform act) s = (r, t)) (hact : act.sparesTable) :
    t.idempotency = s.idempotency := by
  have hkept : (Prog.exec (handle host plan) (perform act) s).2.idempotency = s.idempotency :=
    exec_idempotency (Prog.only_call hact)
  rwa [h] at hkept

theorem install_sparesTable (phase : Phase) (e : Envelope) :
    Prog.Only Act.sparesTable (install phase e) := by
  refine (Prog.only_call trivial).bind fun _ => (render_only phase e.config).mono ?_
  intro act hact
  cases act with
  | remember => cases hact
  | _ => trivial

theorem restart_sparesTable (phase : Phase) (old new : Config) :
    Prog.Only Act.sparesTable (restart host phase old new) := by
  refine (applyRuntime_only phase _ new).mono ?_
  intro act hact
  cases act with
  | remember => cases hact
  | _ => trivial

theorem publish_sparesTable (current updated : Envelope) :
    Prog.Only Act.sparesTable (publish host current updated) :=
  (install_sparesTable _ _).bind fun _ => restart_sparesTable _ _ _

theorem recoverApply_sparesTable (current updated : Envelope) (actor : PyStr) (error : PyError) :
    Prog.Only Act.sparesTable (recoverApply host current updated actor error) := by
  refine (install_sparesTable _ _).bind fun _ => ?_
  refine Prog.Only.bind (Prog.Only.tryCatch ?_ fun _ => Prog.only_call trivial) fun _ =>
    Prog.only_throw _
  exact (restart_sparesTable _ _ _).bind fun _ => Prog.only_pure _

theorem rollback_sparesTable (actor : PyStr) :
    Prog.Only Act.sparesTable (rollback host actor) := by
  refine (Prog.only_call trivial).bind fun revisions => ?_
  split
  · exact Prog.only_throw _
  · refine (Prog.only_call trivial).bind fun stored => ?_
    refine (Prog.only_call trivial).bind fun current => ?_
    refine (Prog.only_call trivial).bind fun now => ?_
    refine Prog.Only.bind ((publish_sparesTable _ _).tryCatch fun e => ?_) fun runtime => ?_
    · exact (install_sparesTable _ _).bind fun _ => (restart_sparesTable _ _ _).bind fun _ =>
        Prog.only_throw _
    · exact (Prog.only_call trivial).bind fun _ => (Prog.only_call trivial).bind fun _ =>
        Prog.only_pure _

/-! ## 3. What a call stores -/

/-- A table holds what it held before and the new result, or less. -/
theorem get?_remember {table : Dict PyStr ApplyResult} {key key' : PyStr}
    {result result' : ApplyResult}
    (h : (remember table key result).get? key' = some result') :
    table.get? key' = some result' ∨ key' = key ∧ result' = result := by
  have hset (h : (table.set key result).get? key' = some result') :
      table.get? key' = some result' ∨ key' = key ∧ result' = result := by
    by_cases hkey : key = key'
    · subst hkey
      rw [Dict.get?_set_self] at h
      exact .inr ⟨rfl, (Option.some.inj h).symm⟩
    · rw [Dict.get?_set_ne _ hkey] at h
      exact .inl h
  unfold remember at h
  dsimp only at h
  split at h
  · refine hset (Dict.get?_eq_some_iff.mpr ?_)
    exact List.mem_of_mem_tail (Dict.get?_eq_some_iff.mp h)
  · exact hset h

/-- The `try` block returns where the new configuration is installed. -/
theorem installed_of_try {current updated : Envelope} {actor : PyStr} {runtime : Runtime}
    (h : Prog.exec (handle host plan) (tryCatch (publish host current updated)
      (recoverApply host current updated actor)) s = (.ok runtime, t)) :
    Installed host t ∧ t.config = updated ∧ t.idempotency = s.idempotency := by
  have htable : (Prog.exec (handle host plan) (tryCatch (publish host current updated)
      (recoverApply host current updated actor)) s).2.idempotency = s.idempotency :=
    exec_idempotency ((publish_sparesTable _ _).tryCatch fun e => recoverApply_sparesTable _ _ _ e)
  rw [h] at htable
  rw [Prog.exec_tryCatch] at h
  cases hp : Prog.exec (handle host plan) (publish host current updated) s with
  | mk r u =>
    rw [hp] at h
    cases r with
    | error e => exact absurd (congrArg Prod.fst h) (recoverApply_ne_ok e u runtime)
    | ok a =>
      cases h
      obtain ⟨_, v, hinstall, hrestart⟩ := Prog.exec_bind_eq_ok.mp hp
      obtain ⟨hinstalled, hframe⟩ := exec_install_eq_ok hinstall
      obtain rfl : t = v := by
        rw [← exec_restart_snd host plan .forward current.config updated.config v, hrestart]
      exact ⟨hinstalled, congrArg AgentState.config hframe, htable⟩

/-- What is in the table behind a call: what was there before, or the result of the call. -/
def TableFrom (host : Host) (config : Config) (key : PyStr) (s u : AgentState) : Prop :=
  ∀ key' result, u.idempotency.get? key' = some result →
    s.idempotency.get? key' = some result ∨
    key' = key ∧ result.updated.config = config ∧ Installed host u ∧ u.config = result.updated

theorem tableFrom_of_eq {config : Config} {key : PyStr} (h : t.idempotency = s.idempotency) :
    TableFrom host config key s t := by
  intro key' result hresult
  rw [h] at hresult
  exact .inl hresult

/-- The entries that `apply` makes. -/
theorem tableFrom_recordApply {actor key : PyStr} {services : List Service} {result : ApplyResult}
    (hinstalled : Installed host t) (hconfig : t.config = result.updated)
    (htable : t.idempotency = s.idempotency) :
    TableFrom host result.updated.config key s
      (Prog.exec (handle host plan) (recordApply actor key services result) t).2 := by
  obtain ⟨hsame, hend⟩ := exec_installed_of_keeps plan
    (recordApply_keeps actor key services result) hinstalled
  have hremember : Prog.exec (handle host plan) (perform (.remember key result)) t =
      (.ok (), { t with idempotency := remember t.idempotency key result }) :=
    Prog.exec_call _
  have hkept :
      (Prog.exec (handle host plan) (recordApply actor key services result) t).2.idempotency =
        remember t.idempotency key result := by
    unfold recordApply
    rw [Prog.exec_bind_ok hremember]
    exact exec_idempotency ((Prog.only_call trivial).bind fun _ => Prog.only_pure _)
  intro key' result' h
  rw [hkept] at h
  rcases get?_remember h with h | ⟨rfl, rfl⟩
  · exact .inl (htable ▸ h)
  · exact .inr ⟨rfl, rfl, hend, hsame.trans hconfig⟩

/-- One operation that does not store a result, and what follows it. -/
theorem tableFrom_bind {β : Type} {config : Config} {key : PyStr} {act : Act}
    {f : act.Ans → AgentM β} (hact : act.sparesTable) (hs : t.idempotency = s.idempotency)
    (hf : ∀ a u, u.idempotency = s.idempotency →
      TableFrom host config key s (Prog.exec (handle host plan) (f a) u).2) :
    TableFrom host config key s (Prog.exec (handle host plan) (perform act >>= f) t).2 := by
  have hperform : (Prog.exec (handle host plan) (perform act) t).2.idempotency = s.idempotency :=
    (exec_idempotency (Prog.only_call hact)).trans hs
  refine Prog.exec_bind_snd (fun e u h => tableFrom_of_eq ?_) fun a u h => hf a u ?_
  · rwa [h] at hperform
  · rwa [h] at hperform

/-- So does an admitted call, and what it stores is its own. -/
theorem tableFrom_applyAdmitted {actor key : PyStr} {current : Envelope} {config : Config}
    {warnings : List PyStr} (hs : t.idempotency = s.idempotency) :
    TableFrom host config key s
      (Prog.exec (handle host plan)
        (applyAdmitted host actor key current config warnings) t).2 := by
  refine tableFrom_bind trivial hs fun _ u hu => ?_
  refine tableFrom_bind trivial hu fun now v hv => ?_
  have htry : (Prog.exec (handle host plan)
      (tryCatch (publish host current ⟨current.revision + 1, now, config⟩)
        (recoverApply host current ⟨current.revision + 1, now, config⟩ actor)) v).2.idempotency =
      s.idempotency :=
    (exec_idempotency ((publish_sparesTable _ _).tryCatch fun e =>
      recoverApply_sparesTable _ _ _ e)).trans hv
  refine Prog.exec_bind_snd (fun e w h => tableFrom_of_eq ?_) fun runtime w h => ?_
  · rwa [h] at htry
  · obtain ⟨hinstalled, hconfig, htable⟩ := installed_of_try h
    exact tableFrom_recordApply hinstalled hconfig (htable.trans hv)

/-- **What a call stores.**  Whatever happens to it, an `apply` leaves in the table what was there,
and the result of an installation of the configuration that it asked for. -/
theorem tableFrom_apply {request : Json} {actor key : PyStr} {members : List (PyStr × Json)}
    (hkey : requestKey request = .ok (members, key)) :
    (Prog.exec (handle host plan) (apply host request actor) s).2 = s ∨
    ∃ validated, validateConfig host.nfkc (get members "config") = .ok validated ∧
      TableFrom host validated.1 key s
        (Prog.exec (handle host plan) (apply host request actor) s).2 := by
  rcases exec_apply_cases host plan s request actor with h | ⟨key', validated, hadmitted⟩
  · exact .inl h
  · obtain ⟨members', hkey', -, hvalid⟩ := hadmitted.checked
    obtain ⟨rfl, rfl⟩ := Prod.mk.inj (Except.ok.inj (hkey'.symm.trans hkey))
    rw [exec_apply_of_admitted hadmitted]
    exact .inr ⟨validated, hvalid, tableFrom_applyAdmitted rfl⟩

/-- An admitted call that returns has installed the configuration that it returns, and stored its
result. -/
theorem exec_applyAdmitted_eq_ok {actor key : PyStr} {current : Envelope} {config : Config}
    {warnings : List PyStr} {result : ApplyResult}
    (h : Prog.exec (handle host plan) (applyAdmitted host actor key current config warnings) s =
      (.ok result, t)) :
    result.updated.config = config ∧ Installed host t ∧ t.config = result.updated ∧
      t.idempotency = remember s.idempotency key result := by
  unfold applyAdmitted at h
  obtain ⟨_, u, harchive, h⟩ := Prog.exec_bind_eq_ok.mp h
  have hu := exec_perform_idempotency harchive trivial
  obtain ⟨now, v, hnow, h⟩ := Prog.exec_bind_eq_ok.mp h
  have hv := exec_perform_idempotency hnow trivial
  obtain ⟨runtime, w, htry, h⟩ := Prog.exec_bind_eq_ok.mp h
  obtain ⟨hinstalled, hconfig, hw⟩ := installed_of_try htry
  have hend := exec_installed_of_keeps plan
    (recordApply_keeps actor key (changedServices current.config config)
      ⟨⟨current.revision + 1, now, config⟩, warnings, runtime⟩) hinstalled
  rw [h] at hend
  obtain ⟨_, w', hremember, h⟩ := Prog.exec_bind_eq_ok.mp h
  obtain ⟨_, w'', haudit, h⟩ := Prog.exec_bind_eq_ok.mp h
  have hw'' := exec_perform_idempotency haudit trivial
  obtain ⟨hresult, rfl⟩ := Prod.mk.inj h
  obtain rfl := Except.ok.inj hresult
  refine ⟨rfl, hend.2, hend.1.trans hconfig, ?_⟩
  rw [Prog.exec_call] at hremember
  obtain ⟨-, rfl⟩ := Prod.mk.inj hremember
  exact hw''.trans (congrArg (remember · key _) (hw.trans (hv.trans hu)))

/-- A known key is answered from the table. -/
theorem answer_of_known {request : Json} {actor key : PyStr} {members : List (PyStr × Json)}
    {stored : ApplyResult} (hkey : requestKey request = .ok (members, key))
    (hstored : s.idempotency.get? key = some stored) :
    Prog.exec (handle host plan) (apply host request actor) s = (.ok stored, s) := by
  have hremembered : Prog.exec (handle host plan) (perform (.remembered key)) s =
      (.ok (some stored), s) := by
    rw [Prog.exec_call]
    exact congrArg (fun r => (Except.ok r, s)) hstored
  unfold apply
  rw [hkey, Prog.exec_bind_ok (Prog.exec_ofExcept _)]
  dsimp only
  rw [Prog.exec_bind_ok hremembered]
  rfl

/-- A new key is answered by the call itself. -/
theorem answer_of_fresh {request : Json} {actor key : PyStr} {members : List (PyStr × Json)}
    {result : ApplyResult} (hkey : requestKey request = .ok (members, key))
    (hfresh : s.idempotency.get? key = none)
    (h : Prog.exec (handle host plan) (apply host request actor) s = (.ok result, t)) :
    (∃ warnings, validateConfig host.nfkc (get members "config") =
      .ok (result.updated.config, warnings)) ∧
    AppliedBy host (s, .apply request actor plan) key result := by
  obtain ⟨hrevision, hconfig, -⟩ := exec_apply_eq_ok hkey hfresh h
  rcases exec_apply_cases host plan s request actor with hsame | ⟨key', validated, hadmitted⟩
  · rw [h] at hsame
    obtain rfl : t = s := hsame
    rw [← hconfig] at hrevision
    omega
  · obtain ⟨members', hkey', -, hvalid⟩ := hadmitted.checked
    obtain ⟨rfl, rfl⟩ := Prod.mk.inj (Except.ok.inj (hkey'.symm.trans hkey))
    have hadmit := h
    rw [exec_apply_of_admitted hadmitted] at hadmit
    obtain ⟨hown, hinstalled, hend, -⟩ := exec_applyAdmitted_eq_ok hadmit
    have hvalid' : validateConfig host.nfkc (get members' "config") =
        .ok (result.updated.config, validated.2) := by
      rw [hown]
      exact hvalid
    refine ⟨⟨_, hvalid'⟩, request, actor, plan, members', _, rfl, hkey, hvalid', ?_, ?_⟩
    · rwa [h]
    · rwa [h]

/-! ## 4. Runs -/

/-- Every stored result is one of an earlier call with its key. -/
def TableOfCalls (host : Host) (past : List (AgentState × Event)) (s : AgentState) : Prop :=
  ∀ key result, s.idempotency.get? key = some result →
    ∃ call ∈ past, AppliedBy host call key result

theorem tableOfCalls_step {past : List (AgentState × Event)} {e : Event}
    (hs : TableOfCalls host past s) (hstep : (machine host).step s e = some t) :
    TableOfCalls host (past ++ [(s, e)]) t := by
  have hold {u : AgentState} (hu : u.idempotency = s.idempotency) :
      TableOfCalls host (past ++ [(s, e)]) u := by
    intro key result h
    rw [hu] at h
    obtain ⟨call, hcall, happlied⟩ := hs key result h
    exact ⟨call, List.mem_append_left _ hcall, happlied⟩
  cases e with
  | restart =>
    obtain rfl := Option.some.inj hstep
    intro key result h
    cases h
  | rollback actor plan =>
    obtain rfl := Option.some.inj hstep
    exact hold (exec_idempotency (rollback_sparesTable actor))
  | apply request actor plan =>
    obtain rfl := Option.some.inj hstep
    cases hkey : requestKey request with
    | error e =>
      refine hold ?_
      unfold apply
      rw [hkey]
      rfl
    | ok requested =>
      obtain ⟨members, key⟩ := requested
      have hcall : (Prog.exec (handle host plan) (apply host request actor) s).2 = s ∨ _ :=
        tableFrom_apply hkey
      rcases hcall with h | ⟨validated, hvalid, htable⟩
      · exact hold (congrArg AgentState.idempotency h)
      · intro key' result hresult
        rcases htable key' result hresult with h | ⟨rfl, hown, hinstalled, hconfig⟩
        · exact hold rfl key' result h
        · refine ⟨_, List.mem_append_right _ (List.mem_singleton.mpr rfl), ?_⟩
          refine ⟨request, actor, plan, members, validated.2, rfl, hkey, ?_, hinstalled, hconfig⟩
          rw [hown]
          exact hvalid

/-- **In every run** the stored results are those of earlier calls. -/
theorem table_of_calls {now : PyStr} {events : List Event}
    (hrun : (machine host).run (initial host now) events = some s) :
    TableOfCalls host ((machine host).calls (initial host now) events) s := by
  have hempty : TableOfCalls host [] (initial host now) := by
    obtain ⟨generated, hinitial⟩ := initial_frame host now
    rw [hinitial]
    intro key result h
    cases h
  exact Machine.run_calls_invariant (fun past u e u' hu hstep => tableOfCalls_step hu hstep) events
    hempty hrun

/-- **An `apply` is answered with its own configuration** if and only if its key is new or is one
of a request for the same configuration. -/
theorem answers_own_iff {now : PyStr} {events : List Event} {request : Json} {actor key : PyStr}
    {members : List (PyStr × Json)} {result : ApplyResult}
    (hrun : (machine host).run (initial host now) events = some s)
    (hkey : requestKey request = .ok (members, key))
    (hanswer : (Prog.exec (handle host plan) (apply host request actor) s).1 = .ok result) :
    AnswersOwn host ((machine host).calls (initial host now)
      (events ++ [.apply request actor plan])) members key result ↔
    ∀ stored, s.idempotency.get? key = some stored → ∃ warnings,
      validateConfig host.nfkc (get members "config") = .ok (stored.updated.config, warnings) := by
  have hcalls : (machine host).calls (initial host now) (events ++ [.apply request actor plan]) =
      (machine host).calls (initial host now) events ++ [(s, .apply request actor plan)] :=
    Machine.calls_append hrun _
  rw [hcalls]
  cases htable : s.idempotency.get? key with
  | none =>
    refine iff_of_true ?_ fun stored hstored => (nomatch hstored)
    obtain ⟨hown, happlied⟩ := answer_of_fresh hkey htable (Prod.ext hanswer rfl)
    exact ⟨hown, _, List.mem_append_right _ (List.mem_singleton.mpr rfl), happlied⟩
  | some stored =>
    rw [answer_of_known hkey htable] at hanswer
    obtain rfl := Except.ok.inj hanswer
    constructor
    · rintro ⟨hown, -⟩ stored' hstored
      obtain rfl := Option.some.inj hstored
      exact hown
    · intro hown
      obtain ⟨call, hcall, happlied⟩ := table_of_calls hrun key stored htable
      exact ⟨hown stored rfl, call, List.mem_append_left _ hcall, happlied⟩

/-- The key of `exampleRequest`. -/
def exampleKey : PyStr := py "abcdefghijklmnop"

/-- The result of a call in a new directory is stored. -/
theorem example_first {request config : Config}
    (hvalid : validateConfig id request.toJson = .ok (config, []))
    (htexts : config.texts.all encodable = true)
    (hrendering : ∃ generated, IsRendering renderOnlyHost config generated) :
    ∃ result t, (machine renderOnlyHost).run (initial renderOnlyHost [])
        [.apply (exampleRequest request) [] (calm [])] = some t ∧
      result.updated.config = config ∧ t.idempotency.get? exampleKey = some result := by
  obtain ⟨result, t, happly, hconfig, -⟩ := example_applied hvalid htexts hrendering
  refine ⟨result, t, ?_, hconfig, ?_⟩
  · refine Machine.run_cons_eq_some.mpr ⟨t, ?_, rfl⟩
    change some (Prog.exec _ _ _).2 = some t
    rw [happly]
  · obtain ⟨generated, hframe⟩ := initial_frame renderOnlyHost []
    obtain ⟨members, hkey, hrevision, hmembers⟩ := exampleRequest_members request
    rw [← hmembers] at hvalid
    have hadmitted : Admitted renderOnlyHost (calm []) (initial renderOnlyHost [])
        (exampleRequest request) exampleKey (config, []) := by
      rw [hframe]
      exact ⟨⟨members, hkey, hrevision, hvalid⟩, rfl, rfl⟩
    have hempty : (initial renderOnlyHost []).idempotency = Dict.empty := by
      rw [hframe]
      rfl
    rw [exec_apply_of_admitted hadmitted] at happly
    rw [(exec_applyAdmitted_eq_ok happly).2.2.2, hempty]
    exact Dict.get?_set_self Dict.empty exampleKey result

/-- The sample is applied, and the request is sent once more: it is answered with what it did. -/
theorem answers_own_iff_example : ∃ result t members,
    (machine renderOnlyHost).run (initial renderOnlyHost [])
      [.apply (exampleRequest sampleRequest) [] (calm [])] = some t ∧
    t.idempotency.get? exampleKey = some result ∧
    AnswersOwn renderOnlyHost ((machine renderOnlyHost).calls (initial renderOnlyHost [])
      ([.apply (exampleRequest sampleRequest) [] (calm [])] ++
        [.apply (exampleRequest sampleRequest) [] (calm [])])) members exampleKey result := by
  obtain ⟨result, t, hrun, hconfig, hstored⟩ := example_first validateConfig_sample sample_encodable
    (sample_rendering renderOnlyHost)
  obtain ⟨members, hkey, -, hmembers⟩ := exampleRequest_members sampleRequest
  refine ⟨result, t, members, hrun, hstored, ?_⟩
  refine (answers_own_iff hrun hkey (congrArg Prod.fst (answer_of_known hkey hstored))).mpr ?_
  intro stored hknown
  obtain rfl := Option.some.inj (hstored.symm.trans hknown)
  exact ⟨[], by rw [hmembers, hconfig]; exact validateConfig_sample⟩

/-- A second request with the key, for shorter sessions, is told that it was applied. -/
theorem known_key_masks_request : ∃ host now events s request actor plan members key result,
    (machine host).run (initial host now) events = some s ∧
    requestKey request = .ok (members, key) ∧
    (Prog.exec (handle host plan) (apply host request actor) s).1 = .ok result ∧
    ¬ AnswersOwn host ((machine host).calls (initial host now)
      (events ++ [.apply request actor plan])) members key result := by
  obtain ⟨generated, hframe⟩ := initial_frame renderOnlyHost []
  obtain ⟨hencodable, hrendering⟩ := installed_initial renderOnlyHost []
  rw [hframe] at hencodable hrendering
  obtain ⟨result, t, hrun, hconfig, hstored⟩ := example_first validateConfig_default hencodable
    ⟨generated, hrendering⟩
  obtain ⟨members, hkey, -, hvalid⟩ := example_admitted.checked
  refine ⟨renderOnlyHost, [], [.apply (exampleRequest defaultConfig) [] (calm [])], t,
    exampleRequest (withSessions 3600), [], calm [], members, exampleKey, result, hrun, hkey,
    congrArg Prod.fst (answer_of_known hkey hstored), ?_⟩
  rintro ⟨⟨warnings, hown⟩, -⟩
  have hsame := congrArg (fun c : Config × List PyStr => c.1.management.sessionMaxAgeSeconds)
    (Except.ok.inj (hown.symm.trans hvalid))
  rw [hconfig] at hsame
  have hseconds : defaultConfig.management.sessionMaxAgeSeconds = 3600 := hsame
  exact absurd hseconds (by decide)

end ZtPlanet.Agent
