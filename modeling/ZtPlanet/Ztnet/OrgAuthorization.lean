/-
# What the endpoint lets an organization's member do

The wrapper of the REST endpoint asks for a role in the organization of the URL, and the handlers
take the network from the URL's other parameter.  A request is `Contained` if it reveals and
changes only networks of that organization, changes them only on behalf of a member with the role
`USER`, and does so whatever the other parties answer.

Each handler relies on a different check behind the wrapper.  `DELETE` asks for the network in the
organization and is always contained.  `GET` asks for nothing, so it reveals every network of the
database to every member of any organization.  `POST` hands on to `setFlowRule`, which looks at the
role in the organization that the network belongs to, or else to `getNetworkById`, which asks for
no role at all: a member with the role `READ_ONLY` can change the networks of the organization,
and the author of a network can change it through an organization to which it does not belong.
`contained_iff` says exactly which requests are contained.
-/
import ZtPlanet.Ztnet.OrgApi

namespace ZtPlanet.Ztnet

open ZtPlanet.Lib

/-! ## 1. Who is calling -/

/-- The user to whom an API token belongs, if it may be used for organizations. -/
def Db.tokenOwner (host : Host) (db : Db) (apiKey : ApiKey) : Option UserId :=
  match host.decrypt apiKey with
  | some ⟨some userId, some tokenId, apiAuthorizationType⟩ =>
    if apiAuthorizationType.contains .organization &&
        ((db.apiTokens.get? tokenId).any fun token =>
          token.userId == userId && !token.expiresAt.any (· < host.now)) &&
        db.users.contains userId && !(db.apiTokensOf userId apiKey).isEmpty
    then some userId
    else none
  | _ => none

/-- The context in which the handler runs, if the wrapper lets the request pass. -/
def Request.admitted (host : Host) (db : Db) (requiredRole : Role) (req : Request) :
    Option Context :=
  if req.malformed ≠ [] then none
  else
    match req.apiKey, req.orgid, req.nwid with
    | some apiKey, some orgId, some networkId =>
      (db.tokenOwner host apiKey).bind fun userId =>
        if db.roleAtLeast userId orgId requiredRole then some ⟨req.body, userId, orgId, networkId⟩
        else none
    | _, _, _ => none

variable {host : Host} {plan : Plan} {db : Db} {req : Request} {context : Context}

/-- The user for whom a token is accepted, where an administrator or a type of authorization is
asked for. -/
def Db.tokenHolder (host : Host) (db : Db) (apiKey : ApiKey) (requireAdmin : Bool)
    (type : AuthorizationType) : Option UserId :=
  match host.decrypt apiKey with
  | some ⟨some userId, some tokenId, apiAuthorizationType⟩ =>
    if apiAuthorizationType.contains type &&
        ((db.apiTokens.get? tokenId).any fun token =>
          token.userId == userId && !token.expiresAt.any (· < host.now)) &&
        ((db.users.get? userId).any fun role => role == .admin || !requireAdmin) &&
        !(db.apiTokensOf userId apiKey).isEmpty
    then some userId
    else none
  | _ => none

/-- Verifying a token only reads, and finds its holder. -/
theorem exec_decryptAndVerifyToken_holder (host : Host) (plan : Plan) (db : Db) (apiKey : ApiKey)
    (requireAdmin : Bool) (type : AuthorizationType) :
    ∃ r, Prog.exec (handle plan) (decryptAndVerifyToken host apiKey requireAdmin type) db =
        (r, db) ∧ r.toOption = db.tokenHolder host apiKey requireAdmin type := by
  unfold decryptAndVerifyToken Db.tokenHolder
  cases hdecrypt : host.decrypt apiKey with
  | none => exact ⟨_, rfl, rfl⟩
  | some data =>
    obtain ⟨userId, tokenId, types⟩ := data
    cases userId with
    | none => exact ⟨_, rfl, rfl⟩
    | some userId =>
      cases tokenId with
      | none => exact ⟨_, rfl, rfl⟩
      | some tokenId =>
        dsimp only
        cases htypes : types.contains type with
        | false => exact ⟨_, rfl, rfl⟩
        | true =>
          simp only [Bool.not_true, Bool.false_eq_true, if_false, Bool.true_and]
          rw [Prog.exec_bind_ok (exec_prisma _)]
          cases htoken : db.apiTokens.get? tokenId with
          | none => exact ⟨_, rfl, rfl⟩
          | some token =>
            cases howner : token.userId == userId with
            | false =>
              rw [Option.filter_some_neg (p := fun t : ApiTokenRow => t.userId == userId)
                (by simp [howner])]
              exact ⟨_, rfl, by simp [howner, Except.toOption]⟩
            | true =>
              rw [Option.filter_some_pos (p := fun t : ApiTokenRow => t.userId == userId) howner]
              cases hexpired : token.expiresAt.any (· < host.now) with
              | true => exact ⟨_, by simp only [hexpired]; rfl, by simp [hexpired, Except.toOption]⟩
              | false =>
                simp only [hexpired, howner, Bool.false_eq_true, if_false, Option.any_some,
                  Bool.not_false, Bool.and_self, Bool.true_and]
                rw [Prog.exec_bind_ok (exec_prisma _)]
                cases huser : db.users.get? userId with
                | none => exact ⟨_, rfl, rfl⟩
                | some role =>
                  cases hempty : (db.apiTokensOf userId apiKey).isEmpty with
                  | true => exact ⟨_, by simp [hempty]; rfl, by simp [Except.toOption]⟩
                  | false =>
                    simp only [hempty, Option.map_some, Bool.not_false, Bool.and_true,
                      Option.any_some, Bool.false_eq_true, if_false]
                    by_cases hrole : role = .admin
                    · exact ⟨.ok userId, by simp [hrole], by simp [hrole, Except.toOption]⟩
                    · cases requireAdmin with
                      | true =>
                        refine ⟨.error (.error "Unauthorized"), ?_, ?_⟩
                        · simp only [ne_eq, hrole, not_false_eq_true, decide_true, Bool.and_self,
                            if_true]
                          rfl
                        · simp [hrole, Except.toOption]
                      | false => exact ⟨.ok userId, by simp, by simp [Except.toOption]⟩

/-- The owner of a token is its holder where an organization's token is asked for. -/
theorem tokenOwner_eq (host : Host) (db : Db) (apiKey : ApiKey) :
    db.tokenOwner host apiKey = db.tokenHolder host apiKey false .organization := by
  unfold Db.tokenOwner Db.tokenHolder
  simp [Dict.contains]

/-- Verifying a token only reads, and finds its owner. -/
theorem exec_decryptAndVerifyToken (host : Host) (plan : Plan) (db : Db) (apiKey : ApiKey) :
    ∃ r, Prog.exec (handle plan) (decryptAndVerifyToken host apiKey false .organization) db =
        (r, db) ∧ r.toOption = db.tokenOwner host apiKey := by
  rw [tokenOwner_eq]
  exact exec_decryptAndVerifyToken_holder host plan db apiKey false .organization

/-! ## 2. Contained requests -/

/-- The network belongs to the organization of the URL, in which the owner of the token has at
least the role. -/
def Permits (host : Host) (db : Db) (req : Request) (nwid : NetworkId) (role : Role) : Prop :=
  ∃ apiKey userId orgId, req.apiKey = some apiKey ∧ db.tokenOwner host apiKey = some userId ∧
    req.orgid = some orgId ∧ db.belongs nwid orgId = true ∧ db.roleAtLeast userId orgId role = true

/-- The network whose data a response reveals. -/
def Body.revealed : Body → Option NetworkId
  | .network nwid _ _ => some nwid
  | _ => none

/-- Along the run every network that is changed satisfies `may` for the role `USER`, and the
network that the response reveals satisfies it for the role `READ_ONLY`. -/
def ContainedRun (plan : Plan) (may : NetworkId → Role → Prop) (p : Procedure Response)
    (db : Db) : Prop :=
  Prog.Along (handle plan) (fun act _ => ∀ nwid, act.changedNetwork = some nwid → may nwid .user)
      p db ∧
    ∀ response db' nwid, Prog.exec (handle plan) p db = (.ok response, db') →
      response.body.revealed = some nwid → may nwid .readOnly

/-- **A contained request**, whatever the other parties answer. -/
def Contained (host : Host) (db : Db) (req : Request) : Prop :=
  ∀ plan, ContainedRun plan (Permits host db req) (apiNetworkByIdHandler host req) db

variable {may : NetworkId → Role → Prop}

theorem containedRun_pure {response : Response} (h : response.body.revealed = none) :
    ContainedRun plan may (pure response) db := by
  refine ⟨Prog.along_pure _, fun r db' nwid hexec hrevealed => ?_⟩
  cases hexec
  rw [h] at hrevealed
  cases hrevealed

theorem containedRun_bind_iff {α : Type} {p : Procedure α} {f : α → Procedure Response} :
    ContainedRun plan may (p >>= f) db ↔
      Prog.Along (handle plan) (fun act _ => ∀ nwid, act.changedNetwork = some nwid →
        may nwid .user) p db ∧
      ∀ a db', Prog.exec (handle plan) p db = (.ok a, db') → ContainedRun plan may (f a) db' := by
  constructor
  · rintro ⟨halong, hreveals⟩
    obtain ⟨hp, hf⟩ := Prog.along_bind_iff.mp halong
    refine ⟨hp, fun a db' hexec => ⟨hf a db' hexec, fun response db'' nwid hrun hrevealed => ?_⟩⟩
    exact hreveals response db'' nwid (by rw [Prog.exec_bind_ok hexec, hrun]) hrevealed
  · rintro ⟨hp, hf⟩
    refine ⟨Prog.along_bind_iff.mpr ⟨hp, fun a db' hexec => (hf a db' hexec).1⟩, ?_⟩
    intro response db'' nwid hrun hrevealed
    obtain ⟨a, db', hexec, hrest⟩ := Prog.exec_bind_eq_ok.mp hrun
    exact (hf a db' hexec).2 response db'' nwid hrest hrevealed

theorem handleApiErrors_revealed (host : Host) (cause : Failure) :
    (handleApiErrors host cause).body.revealed = none := by
  cases cause with
  | trpc code message =>
    unfold handleApiErrors
    dsimp only
    split
    · rfl
    · rfl
  | error message =>
    unfold handleApiErrors
    dsimp only
    split
    · rfl
    · rfl

/-- Reporting a failure neither changes nor reveals anything. -/
theorem containedRun_catch_iff {p : Procedure Response} :
    ContainedRun plan may (tryCatch p fun cause => pure (handleApiErrors host cause)) db ↔
      ContainedRun plan may p db := by
  constructor
  · rintro ⟨halong, hreveals⟩
    refine ⟨(Prog.along_tryCatch_iff.mp halong).1, fun response db' nwid hrun => ?_⟩
    exact hreveals response db' nwid (by rw [Prog.exec_tryCatch, hrun])
  · rintro ⟨halong, hreveals⟩
    refine ⟨Prog.along_tryCatch_iff.mpr ⟨halong, fun e t _ => Prog.along_pure _⟩, ?_⟩
    intro response db' nwid hrun hrevealed
    rw [Prog.exec_tryCatch] at hrun
    cases hp : Prog.exec (handle plan) p db with
    | mk r t =>
      rw [hp] at hrun
      cases r with
      | ok a =>
        cases hrun
        exact hreveals _ _ nwid hp hrevealed
      | error e =>
        cases hrun
        rw [handleApiErrors_revealed] at hrevealed
        cases hrevealed

theorem along_of_harmless {α : Type} {p : Procedure α} (hp : Prog.Only Act.harmless p) :
    Prog.Along (handle plan) (fun act _ => ∀ nwid, act.changedNetwork = some nwid →
      may nwid .user) p db := by
  refine hp.along (fun act s hact nwid hchanged => ?_) db
  rw [hact] at hchanged
  cases hchanged

/-! ## 3. The wrapper -/

theorem decryptAndVerifyToken_harmless (host : Host) (apiKey : ApiKey) (requireAdmin : Bool)
    (type : AuthorizationType) :
    Prog.Only Act.harmless (decryptAndVerifyToken host apiKey requireAdmin type) := by
  unfold decryptAndVerifyToken
  split
  · exact Prog.only_throw _
  · split
    · split
      · exact Prog.only_throw _
      · refine Prog.Only.bind (Prog.only_call (A := Act.harmless) rfl) fun token => ?_
        split
        · exact Prog.only_throw _
        · split
          · exact Prog.only_throw _
          · refine Prog.Only.bind (Prog.only_call (A := Act.harmless) rfl) fun user => ?_
            split
            · exact Prog.only_throw _
            · split
              · exact Prog.only_throw _
              · split
                · exact Prog.only_throw _
                · exact Prog.only_pure _
    · exact Prog.only_throw _

/-- **The wrapper.**  A request is handled as its handler handles the context with which it is
admitted. -/
theorem containedRun_secured_iff {requiredRole : Role} {handler : Context → Procedure Response} :
    ContainedRun plan may (securedOrganizationApiRoute host requiredRole handler req) db ↔
      ∀ context, req.admitted host db requiredRole = some context →
        ContainedRun plan may (handler context) db := by
  unfold securedOrganizationApiRoute Request.admitted
  by_cases hmalformed : req.malformed ≠ []
  · rw [if_pos hmalformed, if_pos hmalformed]
    exact ⟨fun _ context h => (nomatch h), fun _ => containedRun_pure rfl⟩
  rw [if_neg hmalformed, if_neg hmalformed]
  cases hkey : req.apiKey with
  | none => exact ⟨fun _ context h => (nomatch h), fun _ => containedRun_pure rfl⟩
  | some apiKey =>
    cases horgid : req.orgid with
    | none => exact ⟨fun _ context h => (nomatch h), fun _ => containedRun_pure rfl⟩
    | some orgId =>
      cases hnwid : req.nwid with
      | none => exact ⟨fun _ context h => (nomatch h), fun _ => containedRun_pure rfl⟩
      | some networkId =>
        dsimp only
        rw [containedRun_catch_iff, containedRun_bind_iff]
        obtain ⟨r, hverify, howner⟩ := exec_decryptAndVerifyToken host plan db apiKey
        rw [hverify, ← howner]
        simp only [along_of_harmless (decryptAndVerifyToken_harmless host apiKey false _), true_and,
          Prod.mk.injEq, and_imp]
        cases r with
        | error e => simp [Except.toOption]
        | ok userId =>
          simp only [Except.ok.injEq, Except.toOption, Option.bind_some]
          have hrole := checkUserOrganizationRole_checks plan db userId orgId requiredRole
          constructor
          · intro hrun context hcontext
            split at hcontext
            next hat =>
              cases hcontext
              rw [hat] at hrole
              exact (containedRun_bind_iff.mp (hrun userId db rfl rfl)).2 () db hrole.ok
            next => cases hcontext
          · rintro hhandler a db' rfl rfl
            refine containedRun_bind_iff.mpr
              ⟨along_of_harmless (checkUserOrganizationRole_harmless _ _ _), fun _ db' hexec => ?_⟩
            obtain ⟨hat, rfl⟩ := hrole.of_ok hexec
            exact hhandler _ (if_pos hat)

/-! ## 4. `GET` -/

theorem containedRun_getNetwork_iff :
    ContainedRun plan may (getNetwork host context) db ↔
      (db.networks.contains context.networkId = true →
        (plan (.localNetworkAndMembercount context.networkId)).isOk = true →
          may context.networkId .readOnly) := by
  unfold getNetwork Dict.contains
  rw [containedRun_catch_iff, containedRun_bind_iff]
  refine ⟨fun h hcontains hok => ?_, fun h => ⟨Prog.along_call fun _ hn => (nomatch hn), ?_⟩⟩
  · obtain ⟨network, hnetwork⟩ := Option.isSome_iff_exists.mp hcontains
    cases hanswer : plan (.localNetworkAndMembercount context.networkId) with
    | error e =>
      rw [hanswer] at hok
      cases hok
    | ok answer =>
      have hrun := h.2 (some network) db (by rw [exec_prisma, Query.run, hnetwork])
      refine hrun.2 ⟨200, .network context.networkId (some network.description) answer⟩ db
        context.networkId ?_ rfl
      rw [Prog.exec_bind_ok (a := answer) (by rw [exec_remote, hanswer])]
      rfl
  · intro network db' hexec
    rw [exec_prisma, Query.run] at hexec
    cases hexec
    cases hnetwork : db.networks.get? context.networkId with
    | none => exact containedRun_pure rfl
    | some network =>
      refine containedRun_bind_iff.mpr ⟨Prog.along_call fun _ hn => (nomatch hn), ?_⟩
      intro answer db' hanswer
      rw [exec_remote] at hanswer
      refine ⟨Prog.along_pure _, fun response db'' nwid hresponse hrevealed => ?_⟩
      cases hresponse
      cases hrevealed
      exact h (by rw [hnetwork]; rfl) (by rw [(Prod.mk.inj hanswer).1]; rfl)

/-! ## 5. Changing one network only -/

theorem along_of_within {α : Type} {p : Procedure α} {nwid : NetworkId}
    (hp : Prog.Only (Act.within nwid) p) (hmay : may nwid .user) :
    Prog.Along (handle plan) (fun act _ => ∀ nwid, act.changedNetwork = some nwid →
      may nwid .user) p db := by
  refine hp.along (fun act s hact other hchanged => ?_) db
  rw [hact other hchanged]
  exact hmay

theorem callProcedure_only {α : Type} {A : Act → Prop} {p : Procedure α} (hp : Prog.Only A p) :
    Prog.Only A (callProcedure p) := by
  refine hp.tryCatch fun cause => ?_
  cases cause with
  | trpc code message => exact Prog.only_throw _
  | error message => exact Prog.only_throw _

theorem deauthorizeMembers_within (nwid : NetworkId) :
    ∀ members, Prog.Only (Act.within nwid) (deauthorizeMembers nwid members)
  | [] => Prog.only_pure _
  | member :: members =>
    Prog.Only.bind (only_within_call (.remote (.memberUpdate false nwid member _)) (.inr rfl))
      fun _ => deauthorizeMembers_within nwid members

theorem checkNetworkAccess_within (userId : UserId) (nwid : NetworkId) (role : Role) :
    Prog.Only (Act.within nwid) (checkNetworkAccess userId nwid role) :=
  (checkNetworkAccess_harmless userId nwid role).mono fun _ hact => Act.harmless.within hact nwid

theorem setFlowRule_within (host : Host) (userId : UserId) (nwid : NetworkId)
    (organizationId : Option OrganizationId) (flowRoute : String) :
    Prog.Only (Act.within nwid) (setFlowRule host userId nwid organizationId flowRoute) := by
  refine (checkNetworkAccess_within userId nwid .user).bind fun _ => ?_
  refine Prog.Only.bind (only_within_call (.db _) (.inl rfl)) fun _ => ?_
  split
  · exact Prog.only_throw _
  · refine Prog.Only.bind (only_within_call (.remote _) (.inr rfl)) fun _ => ?_
    refine Prog.Only.bind (Prog.Only.tryCatch (only_within_call (.remote _) (.inl rfl))
      fun _ => Prog.only_throw _) fun _ => ?_
    exact only_within_call (.db _) (.inr rfl)

/-- `deleteNetwork` changes no other network. -/
theorem deleteNetwork_within (userId : UserId) (nwid : NetworkId)
    (organizationId : Option OrganizationId) :
    Prog.Only (Act.within nwid) (deleteNetwork userId nwid organizationId) := by
  refine (checkNetworkAccess_within userId nwid .user).bind fun _ => ?_
  refine Prog.Only.bind (only_within_call (.db _) (.inl rfl)) fun network => ?_
  split
  · exact Prog.only_throw _
  · refine Prog.Only.bind (only_within_call (.remote _) (.inl rfl)) fun members => ?_
    refine (deauthorizeMembers_within nwid members).bind fun _ => ?_
    refine Prog.Only.bind (only_within_call (.remote _) (.inr rfl)) fun _ => ?_
    refine Prog.Only.bind (only_within_call (.db _) (.inr rfl)) fun _ => ?_
    refine Prog.Only.bind (only_within_call (.db _) (.inl rfl)) fun _ => ?_
    refine Prog.Only.bind (Prog.Only.tryCatch (only_within_call (.remote _) (.inl rfl))
      fun _ => Prog.only_throw _) fun _ => ?_
    split
    · exact Prog.Only.tryCatch (only_within_call (.remote _) (.inl rfl))
        fun _ => Prog.only_pure _
    · exact Prog.only_pure _

/-! ## 6. What an admitted request may do -/

/-- The wrapper has let the request pass. -/
theorem admitted_eq_some {requiredRole : Role}
    (h : req.admitted host db requiredRole = some context) :
    ∃ apiKey, req.apiKey = some apiKey ∧ db.tokenOwner host apiKey = some context.userId ∧
      req.orgid = some context.orgId ∧ req.nwid = some context.networkId ∧
      req.body = context.body ∧
        db.roleAtLeast context.userId context.orgId requiredRole = true := by
  unfold Request.admitted at h
  split at h
  · cases h
  · split at h
    next apiKey orgId networkId hkey horgid hnwid =>
      obtain ⟨userId, howner, h⟩ := Option.bind_eq_some_iff.mp h
      split at h
      next hrole =>
        cases h
        exact ⟨apiKey, hkey, howner, horgid, hnwid, rfl, hrole⟩
      next => cases h
    next => cases h

/-- For an admitted request, what is permitted is a matter of its context. -/
theorem permits_iff {requiredRole role : Role} {nwid : NetworkId}
    (h : req.admitted host db requiredRole = some context) :
    Permits host db req nwid role ↔
      db.belongs nwid context.orgId = true ∧
        db.roleAtLeast context.userId context.orgId role = true := by
  obtain ⟨apiKey, hkey, howner, horgid, -, -, -⟩ := admitted_eq_some h
  constructor
  · rintro ⟨apiKey', userId, orgId, hkey', howner', horgid', hbelongs, hrole⟩
    rw [hkey, Option.some.injEq] at hkey'
    subst hkey'
    rw [howner, Option.some.injEq] at howner'
    rw [horgid, Option.some.injEq] at horgid'
    subst howner' horgid'
    exact ⟨hbelongs, hrole⟩
  · rintro ⟨hbelongs, hrole⟩
    exact ⟨apiKey, context.userId, context.orgId, hkey, howner, horgid, hbelongs, hrole⟩

/-- The network exists and its organization, if it has one, is the given one. -/
theorem hasAccess_of_belongs {userId : UserId} {nwid : NetworkId} {orgId : OrganizationId}
    {role : Role} (hbelongs : db.belongs nwid orgId = true) :
    db.hasAccess userId nwid role = db.roleAtLeast userId orgId role := by
  unfold Db.belongs at hbelongs
  unfold Db.hasAccess
  cases hnetwork : db.networks.get? nwid with
  | none =>
    rw [hnetwork] at hbelongs
    cases hbelongs
  | some network =>
    rw [hnetwork, Option.any_some, beq_iff_eq] at hbelongs
    rw [Option.any_some, hbelongs]

/-! ## 7. `DELETE` -/

/-- **`DELETE` is contained.**  `deleteNetwork` looks for the network in the organization of the
URL, and its check is then about that organization. -/
theorem containedRun_deleteNetworkRoute (h : req.admitted host db .user = some context) :
    ContainedRun plan (Permits host db req) (deleteNetworkRoute host context) db := by
  refine containedRun_catch_iff.mpr (containedRun_bind_iff.mpr ⟨?_, fun _ db' _ => ?_⟩)
  · cases hbelongs : db.belongs context.networkId context.orgId with
    | true =>
      obtain ⟨apiKey, -, -, -, -, -, hrole⟩ := admitted_eq_some h
      exact along_of_within (callProcedure_only (deleteNetwork_within _ _ _))
        ((permits_iff h).mpr ⟨hbelongs, hrole⟩)
    | false =>
      refine Prog.Along.tryCatch ?_ fun e t _ => ?_
      · refine Prog.Along.bind (along_of_harmless (checkNetworkAccess_harmless _ _ _)) ?_
        intro _ db' hcheck
        obtain ⟨-, rfl⟩ := (checkNetworkAccess_checks plan db _ _ _).of_ok hcheck
        refine Prog.Along.bind (Prog.along_call fun _ hn => (nomatch hn)) ?_
        intro network db'' hfind
        have hnone : (db'.networks.get? context.networkId).filter
            (Owner.matches (.organization context.orgId)) = none := by
          unfold Db.belongs at hbelongs
          cases hnetwork : db'.networks.get? context.networkId with
          | none => rfl
          | some row =>
            rw [hnetwork] at hbelongs
            exact Option.filter_some_neg (by simpa [Owner.matches] using hbelongs)
        rw [exec_prisma, Query.run, hnone] at hfind
        cases hfind
        exact Prog.along_throw _
      · cases e with
        | trpc code message => exact Prog.along_throw _
        | error message => exact Prog.along_throw _
  · exact containedRun_pure rfl

/-! ## 8. The loop of `POST` -/

theorem exec_callProcedure_ok {α : Type} {p : Procedure α} {a : α} {db' : Db} :
    Prog.exec (handle plan) (callProcedure p) db = (.ok a, db') ↔
      Prog.exec (handle plan) p db = (.ok a, db') := by
  unfold callProcedure
  rw [Prog.exec_tryCatch]
  cases hp : Prog.exec (handle plan) p db with
  | mk r t =>
    cases r with
    | ok a' => rfl
    | error e =>
      cases e with
      | trpc code message => exact ⟨fun h => (nomatch h), fun h => (nomatch h)⟩
      | error message => exact ⟨fun h => (nomatch h), fun h => (nomatch h)⟩

theorem exec_callProcedure_error {α : Type} {p : Procedure α} {e : Failure} {db' : Db}
    (hp : Prog.exec (handle plan) p db = (.error e, db')) :
    ∃ e', Prog.exec (handle plan) (callProcedure p) db = (.error e', db') := by
  unfold callProcedure
  rw [Prog.exec_tryCatch, hp]
  cases e with
  | trpc code message => exact ⟨_, rfl⟩
  | error message => exact ⟨_, rfl⟩

/-- What the loop has collected when it has gone through the entries. -/
def Payloads.addAll (payloads : Payloads) (entries : List (Field × Json)) : Payloads :=
  entries.foldl (fun payloads entry => payloads.add entry.1 entry.2) payloads

/-- Without a flow rule the loop only collects. -/
theorem collect_of_no_flowRule :
    ∀ (entries : List (Field × Json)) (payloads : Payloads), entries.lookup .flowRule = none →
      collect host context entries payloads = pure (.ok (payloads.addAll entries))
  | [], _, _ => rfl
  | (key, value) :: entries, payloads, h => by
    have hkey : key ≠ .flowRule := by
      rintro rfl
      simp at h
    have hrest : entries.lookup .flowRule = none := by
      rwa [List.lookup_cons, beq_false_of_ne (Ne.symm hkey)] at h
    rw [collect, flowRuleFailure, if_neg hkey]
    exact collect_of_no_flowRule entries (payloads.add key value) hrest

/-- With a flow rule the loop only collects until it comes to it. -/
theorem collect_of_flowRule (host : Host) (context : Context) {value : Json} :
    ∀ (entries : List (Field × Json)) (payloads : Payloads),
      entries.lookup .flowRule = some value →
        ∃ rest payloads', collect host context entries payloads =
          collect host context ((.flowRule, value) :: rest) payloads'
  | [], _, h => by cases h
  | (key, value') :: entries, payloads, h => by
    by_cases hkey : key = .flowRule
    · subst hkey
      simp only [List.lookup_cons_self, Option.some.injEq] at h
      subst h
      exact ⟨entries, payloads, rfl⟩
    · have hrest : entries.lookup .flowRule = some value := by
        rwa [List.lookup_cons, beq_false_of_ne (Ne.symm hkey)] at h
      obtain ⟨rest, payloads', heq⟩ :=
        collect_of_flowRule host context entries (payloads.add key value') hrest
      refine ⟨rest, payloads', ?_⟩
      rw [← heq, collect, flowRuleFailure, if_neg hkey]
      rfl

theorem flowRuleFailure_within (host : Host) (context : Context) (key : Field) (value : Json) :
    Prog.Only (Act.within context.networkId) (flowRuleFailure host context key value) := by
  unfold flowRuleFailure
  split
  · refine Prog.Only.tryCatch ?_ fun _ => Prog.only_pure _
    exact (callProcedure_only (setFlowRule_within _ _ _ _ _)).bind fun _ => Prog.only_pure _
  · exact Prog.only_pure _

theorem collect_within (host : Host) (context : Context) :
    ∀ (entries : List (Field × Json)) (payloads : Payloads),
      Prog.Only (Act.within context.networkId) (collect host context entries payloads)
  | [], _ => Prog.only_pure _
  | (key, value) :: entries, payloads => by
    refine (flowRuleFailure_within host context key value).bind fun failed => ?_
    cases failed with
    | some response => exact Prog.only_pure _
    | none => exact collect_within host context entries _

/-- A response of the loop reports a failure. -/
theorem collect_response_revealed {response : Response} {db' : Db} :
    ∀ (entries : List (Field × Json)) (payloads : Payloads) (db : Db),
      Prog.exec (handle plan) (collect host context entries payloads) db =
        (.ok (.error response), db') → response.body.revealed = none
  | [], _, _, h => by cases h
  | (key, value) :: entries, payloads, db, h => by
    rw [collect] at h
    obtain ⟨failed, db₁, hfailed, h⟩ := Prog.exec_bind_eq_ok.mp h
    cases failed with
    | none => exact collect_response_revealed entries _ db₁ h
    | some response' =>
      cases h
      unfold flowRuleFailure at hfailed
      split at hfailed
      · rw [Prog.exec_tryCatch] at hfailed
        split at hfailed
        next a t hrun =>
          cases hfailed
          obtain ⟨_, _, _, hnone⟩ := Prog.exec_bind_eq_ok.mp hrun
          cases hnone
        next e t hrun =>
          cases hfailed
          rfl
      · cases hfailed

/-- A flow rule without access to the network, or one that does not compile, changes nothing. -/
theorem setFlowRule_refused (plan : Plan) {userId : UserId} {nwid : NetworkId} {flowRoute : String}
    (h : ¬(db.hasAccess userId nwid .user = true ∧ (host.ruleCompiler flowRoute).isOk = true)) :
    Prog.Along (handle plan) (fun act _ => act.harmless)
        (setFlowRule host userId nwid none flowRoute) db ∧
      ∃ e t, Prog.exec (handle plan) (setFlowRule host userId nwid none flowRoute) db =
        (.error e, t) := by
  have hcheck := checkNetworkAccess_checks plan db userId nwid .user
  unfold setFlowRule
  cases haccess : db.hasAccess userId nwid .user with
  | false =>
    rw [haccess] at hcheck
    obtain ⟨e, he⟩ := hcheck.error
    refine ⟨Prog.along_bind_iff.mpr ⟨?_, fun a t hok => ?_⟩, e, db, Prog.exec_bind_error he⟩
    · exact (checkNetworkAccess_harmless _ _ _).along (fun _ _ hact => hact) _
    · rw [he] at hok
      cases hok
  | true =>
    rw [haccess] at hcheck
    cases hcompiled : host.ruleCompiler flowRoute with
    | ok compiled => exact absurd ⟨haccess, by rw [hcompiled]; rfl⟩ h
    | error err =>
      constructor
      · refine Prog.Along.bind
          ((checkNetworkAccess_harmless _ _ _).along (fun _ _ hact => hact) _) fun _ t _ => ?_
        exact Prog.Along.bind (Prog.along_call rfl) fun _ _ _ => Prog.along_throw _
      · rw [Prog.exec_bind_ok hcheck.ok, Prog.exec_bind]
        split
        · exact ⟨_, _, rfl⟩
        · exact ⟨_, _, rfl⟩

/-- Such a flow rule ends the loop with a response that reports the failure. -/
theorem collect_refused (plan : Plan) {value : Json} (rest : List (Field × Json))
    (payloads : Payloads)
    (h : ¬(db.hasAccess context.userId context.networkId .user = true ∧
      (host.ruleCompiler value.asString).isOk = true)) :
    Prog.Along (handle plan) (fun act _ => act.harmless)
        (collect host context ((.flowRule, value) :: rest) payloads) db ∧
      ∃ response t, Prog.exec (handle plan)
          (collect host context ((.flowRule, value) :: rest) payloads) db =
        (.ok (.error response), t) ∧ response.body.revealed = none := by
  obtain ⟨halong, e, t, hrun⟩ := setFlowRule_refused plan h
  obtain ⟨e', hrun'⟩ := exec_callProcedure_error hrun
  have hfailed : Prog.exec (handle plan) (flowRuleFailure host context .flowRule value) db =
      (.ok (some ⟨400, .error e'.message⟩), t) := by
    unfold flowRuleFailure
    rw [if_pos rfl, Prog.exec_tryCatch, Prog.exec_bind_error hrun']
    rfl
  constructor
  · refine Prog.Along.bind ?_ fun failed db' hfailed' => ?_
    · unfold flowRuleFailure
      rw [if_pos rfl]
      refine Prog.Along.tryCatch (Prog.Along.bind (Prog.Along.tryCatch halong ?_) fun _ _ _ =>
        Prog.along_pure _) fun _ _ _ => Prog.along_pure _
      intro cause _ _
      cases cause with
      | trpc code message => exact Prog.along_throw _
      | error message => exact Prog.along_throw _
    · rw [hfailed] at hfailed'
      cases hfailed'
      exact Prog.along_pure _
  · refine ⟨⟨400, .error e'.message⟩, t, ?_, rfl⟩
    rw [collect, Prog.exec_bind_ok hfailed]
    rfl

/-! ## 9. The rest of `POST` -/

/-- `getNetworkById` lets the user read the network: its author, and everybody in the `users`
relation of its organization. -/
def Db.readable (db : Db) (userId : UserId) (nwid : NetworkId) : Bool :=
  (db.networks.get? nwid).any fun network =>
    network.authorId == some userId ||
      network.organizationId.any fun organizationId =>
        (db.organizations.get? organizationId).any fun organization =>
          organization.users.contains userId

theorem getNetworkDetails_harmless (nwid : NetworkId) (network : NetworkRow) :
    Prog.Only Act.harmless (getNetworkDetails nwid network) := by
  refine Prog.Only.bind (Prog.Only.tryCatch (Prog.only_call (A := Act.harmless) rfl)
    fun _ => Prog.only_throw _) fun answer => ?_
  cases answer with
  | none => exact Prog.only_throw _
  | some controllerNetwork =>
    refine Prog.Only.bind ?_ fun _ => ?_
    · refine Prog.Only.bind (Prog.only_call (A := Act.harmless) rfl) fun cachedCount => ?_
      split
      · exact Prog.Only.tryCatch (Prog.only_call (A := Act.harmless) rfl) fun _ => Prog.only_pure _
      · exact Prog.only_call (A := Act.harmless) rfl
    · refine Prog.Only.bind (onlyIf_only (Prog.only_call (A := Act.harmless) rfl)) fun _ => ?_
      split
      · exact Prog.only_throw _
      · exact Prog.only_pure _

theorem isMemberOf_harmless (organizationId : Option OrganizationId) (userId : UserId) :
    Prog.Only Act.harmless (isMemberOf organizationId userId) := by
  cases organizationId with
  | none => exact Prog.only_pure _
  | some organizationId => exact Prog.only_call (A := Act.harmless) rfl

theorem getNetworkById_harmless (userId : UserId) (nwid : NetworkId) :
    Prog.Only Act.harmless (getNetworkById userId nwid) := by
  refine Prog.Only.bind (Prog.only_call (A := Act.harmless) rfl) fun network => ?_
  cases network with
  | none => exact Prog.only_throw _
  | some network =>
    refine (isMemberOf_harmless _ _).bind fun isMember => ?_
    split
    · exact Prog.only_throw _
    · exact getNetworkDetails_harmless _ _

theorem exec_isMemberOf (organizationId : Option OrganizationId) (userId : UserId) :
    Prog.exec (handle plan) (isMemberOf organizationId userId) db =
      (.ok (organizationId.any fun organizationId =>
        (db.organizations.get? organizationId).any fun organization =>
          organization.users.contains userId), db) := by
  cases organizationId with
  | none => rfl
  | some organizationId => exact exec_prisma _

/-- The access check of `getNetworkById`. -/
theorem exec_getNetworkById (plan : Plan) (db : Db) (userId : UserId) (nwid : NetworkId) :
    (db.readable userId nwid = false ∧
      ∃ e, Prog.exec (handle plan) (getNetworkById userId nwid) db = (.error e, db)) ∨
    ∃ network, db.networks.get? nwid = some network ∧ db.readable userId nwid = true ∧
      Prog.exec (handle plan) (getNetworkById userId nwid) db =
        Prog.exec (handle plan) (getNetworkDetails nwid network) db := by
  unfold getNetworkById Db.readable
  rw [Prog.exec_bind_ok (exec_prisma _)]
  cases hnetwork : db.networks.get? nwid with
  | none => exact .inl ⟨rfl, _, rfl⟩
  | some network =>
    dsimp only
    rw [Prog.exec_bind_ok (exec_isMemberOf _ _), Option.any_some]
    cases hauthor : network.authorId == some userId with
    | true => exact .inr ⟨network, rfl, rfl, rfl⟩
    | false =>
      cases hmember : network.organizationId.any fun organizationId =>
          (db.organizations.get? organizationId).any fun organization =>
            organization.users.contains userId with
      | true => exact .inr ⟨network, rfl, rfl, rfl⟩
      | false => exact .inl ⟨rfl, _, rfl⟩

/-- What `POST` writes and reads behind its access checks. -/
theorem updateAndReport_within (context : Context) (payloads : Payloads) :
    Prog.Only (Act.within context.networkId) (updateAndReport context payloads) := by
  refine Prog.Only.bind (callProcedure_only ((getNetworkById_harmless _ _).mono
    fun _ hact => Act.harmless.within hact _)) fun _ => ?_
  refine Prog.Only.bind (onlyIf_only (only_within_call (.remote _) (.inr rfl))) fun _ => ?_
  refine Prog.Only.bind (onlyIf_only (only_within_call (.db _) (.inr rfl))) fun _ => ?_
  exact Prog.Only.bind (only_within_call (.remote _) (.inl rfl)) fun _ => Prog.only_pure _

theorem updateAndReport_revealed {payloads : Payloads} {response : Response} {db' : Db}
    (h : Prog.exec (handle plan) (updateAndReport context payloads) db = (.ok response, db')) :
    response.body.revealed = some context.networkId := by
  obtain ⟨_, _, -, h⟩ := Prog.exec_bind_eq_ok.mp h
  obtain ⟨_, _, -, h⟩ := Prog.exec_bind_eq_ok.mp h
  obtain ⟨_, _, -, h⟩ := Prog.exec_bind_eq_ok.mp h
  obtain ⟨_, _, -, h⟩ := Prog.exec_bind_eq_ok.mp h
  cases h
  rfl

/-- With nothing to write, only the answer has to be permitted. -/
theorem containedRun_report (hmay : may context.networkId .readOnly) :
    ContainedRun plan may (updateAndReport context ⟨[], []⟩) db := by
  constructor
  · refine Prog.Along.bind
      (along_of_harmless (callProcedure_only (getNetworkById_harmless _ _))) fun _ _ _ => ?_
    exact Prog.Along.bind (Prog.along_pure _) fun _ _ _ =>
      Prog.Along.bind (Prog.along_pure _) fun _ _ _ =>
        Prog.Along.bind (Prog.along_call fun _ hn => (nomatch hn)) fun _ _ _ => Prog.along_pure _
  · intro response db' nwid hrun hrevealed
    rw [updateAndReport_revealed hrun, Option.some.injEq] at hrevealed
    exact hrevealed ▸ hmay

/-- Where both kinds of access are permitted, so is everything. -/
theorem containedRun_updateAndReport {payloads : Payloads} (huser : may context.networkId .user)
    (hreadOnly : may context.networkId .readOnly) :
    ContainedRun plan may (updateAndReport context payloads) db := by
  refine ⟨along_of_within (updateAndReport_within _ _) huser, ?_⟩
  intro response db' nwid hrun hrevealed
  rw [updateAndReport_revealed hrun, Option.some.injEq] at hrevealed
  exact hrevealed ▸ hreadOnly

/-- Where `getNetworkById` refuses, nothing happens. -/
theorem containedRun_unreadable {payloads : Payloads}
    (h : db.readable context.userId context.networkId = false) :
    ContainedRun plan may (updateAndReport context payloads) db := by
  refine containedRun_bind_iff.mpr
    ⟨along_of_harmless (callProcedure_only (getNetworkById_harmless _ _)), fun a db' hrun => ?_⟩
  rcases exec_getNetworkById plan db context.userId context.networkId with
    ⟨-, e, he⟩ | ⟨_, -, hreadable, -⟩
  · rw [exec_callProcedure_ok, he] at hrun
    cases hrun
  · rw [h] at hreadable
    cases hreadable

/-! ## 10. A call in which nothing else fails -/

theorem exec_getNetworkDetails_calm (nwid : NetworkId) (network : NetworkRow) :
    Prog.exec (handle calm) (getNetworkDetails nwid network) db = (.ok ⟨some [], []⟩, db) := by
  unfold getNetworkDetails
  rw [Prog.exec_bind_ok (a := some ⟨some [], []⟩) (t := db) rfl]
  have hrefresh : Prog.exec (handle calm) (refreshMembers nwid) db = (.ok (), db) := by
    unfold refreshMembers
    rw [Prog.exec_bind_ok (exec_prisma _)]
    split
    · rfl
    · rfl
  dsimp only
  rw [Prog.exec_bind_ok hrefresh, Prog.exec_bind_ok (a := ()) (t := db) ?_]
  · rfl
  · unfold onlyIf
    split
    · rfl
    · rfl

theorem run_updateNetwork {nwid : NetworkId} {network : NetworkRow}
    (h : db.networks.get? nwid = some network) (data : NetworkData) :
    (Query.updateNetwork nwid data).run db =
      (.ok (), { db with networks := db.networks.set nwid (data.apply network) }) := by
  change db.updateNetwork nwid data = _
  unfold Db.updateNetwork
  rw [h]

/-- Where the network can be read, a calm `POST` gets to its writes and to its answer. -/
theorem updateAndReport_calm {payloads : Payloads}
    (hreadable : db.readable context.userId context.networkId = true)
    (h : ContainedRun calm may (updateAndReport context payloads) db) :
    may context.networkId .readOnly ∧
      (payloads.controller ≠ [] ∨ payloads.database ≠ [] → may context.networkId .user) := by
  obtain ⟨network, hnetwork, hget⟩ : ∃ network, db.networks.get? context.networkId = some network ∧
      Prog.exec (handle calm) (callProcedure (getNetworkById context.userId context.networkId)) db =
        (.ok ⟨some [], []⟩, db) := by
    rcases exec_getNetworkById calm db context.userId context.networkId with
      ⟨hno, -⟩ | ⟨network, hnetwork, -, hrun⟩
    · rw [hreadable] at hno
      cases hno
    · exact ⟨network, hnetwork, exec_callProcedure_ok.mpr
        (hrun.trans (exec_getNetworkDetails_calm _ _))⟩
  have hcontroller := (containedRun_bind_iff.mp h).2 _ db hget
  obtain ⟨hsent, hrest⟩ := containedRun_bind_iff.mp hcontroller
  have hsentRun : Prog.exec (handle calm) (onlyIf (!payloads.controller.isEmpty)
      (remote (.networkUpdate context.networkId
        (.fields (payloads.controller.map fun entry => (entry.1.text, entry.2)))))) db =
        (.ok (), db) := by
    cases payloads.controller with
    | nil => rfl
    | cons entry entries => rfl
  obtain ⟨hwritten, hrest⟩ := containedRun_bind_iff.mp (hrest () db hsentRun)
  have hwrittenRun : ∃ db', Prog.exec (handle calm) (onlyIf (!payloads.database.isEmpty)
      (prisma (.updateNetwork context.networkId (databaseData payloads.database)))) db =
        (.ok (), db') := by
    cases payloads.database with
    | nil => exact ⟨db, rfl⟩
    | cons entry entries =>
      exact ⟨_, (exec_prisma _).trans (run_updateNetwork hnetwork _)⟩
  obtain ⟨db', hwrittenRun⟩ := hwrittenRun
  refine ⟨(hrest () db' hwrittenRun).2 ⟨200, .network context.networkId none (some ⟨some [], []⟩)⟩
    db' context.networkId rfl rfl, fun hsome => ?_⟩
  rcases hsome with hne | hne
  · cases hpayload : payloads.controller with
    | nil => exact absurd hpayload hne
    | cons entry entries =>
      rw [hpayload] at hsent
      exact (Prog.along_call_iff.mp hsent) _ rfl
  · cases hpayload : payloads.database with
    | nil => exact absurd hpayload hne
    | cons entry entries =>
      rw [hpayload] at hwritten
      exact (Prog.along_call_iff.mp hwritten) _ rfl

/-- A flow rule that compiles is sent to the controller wherever the user has access. -/
theorem collect_flowRule_calm {entries : List (Field × Json)} {payloads : Payloads} {value : Json}
    (hrule : entries.lookup .flowRule = some value)
    (huser : db.users.contains context.userId = true)
    (haccess : db.hasAccess context.userId context.networkId .user = true)
    (hcompiles : (host.ruleCompiler value.asString).isOk = true)
    (h : Prog.Along (handle calm) (fun act _ => ∀ nwid, act.changedNetwork = some nwid →
      may nwid .user) (collect host context entries payloads) db) :
    may context.networkId .user := by
  obtain ⟨rest, payloads', heq⟩ := collect_of_flowRule host context
    entries payloads hrule
  rw [heq] at h
  have hflow := (Prog.along_bind_iff.mp h).1
  unfold flowRuleFailure at hflow
  rw [if_pos rfl] at hflow
  have hset := (Prog.along_tryCatch_iff.mp
    (Prog.along_bind_iff.mp (Prog.along_tryCatch_iff.mp hflow).1).1).1
  have hcheck := checkNetworkAccess_checks calm db context.userId context.networkId .user
  rw [haccess] at hcheck
  unfold setFlowRule at hset
  have hlog := (Prog.along_bind_iff.mp hset).2 () db hcheck.ok
  have hlogRun : Prog.exec (handle calm) (prisma (.createActivityLog context.userId none)) db =
      (.ok (), { db with activityLog := db.activityLog ++ [⟨context.userId, none⟩] }) := by
    refine (exec_prisma _).trans ?_
    change db.createActivityLog context.userId none = _
    unfold Db.createActivityLog
    rw [huser]
    rfl
  have hsend := (Prog.along_bind_iff.mp hlog).2 () _ hlogRun
  cases hcompiled : host.ruleCompiler value.asString with
  | error err =>
    rw [hcompiled] at hcompiles
    cases hcompiles
  | ok compiled =>
    rw [hcompiled] at hsend
    exact (Prog.along_call_iff.mp (Prog.along_bind_iff.mp hsend).1) _ rfl

/-- The owner of a token is a user. -/
theorem contains_of_tokenOwner {apiKey : ApiKey} {userId : UserId}
    (h : db.tokenOwner host apiKey = some userId) : db.users.contains userId = true := by
  unfold Db.tokenOwner at h
  split at h
  · split at h
    next hall =>
      cases h
      simp only [Bool.and_eq_true] at hall
      exact hall.1.2
    next => cases h
  · cases h

/-! ## 11. `POST` -/

/-- When a `POST` stays inside the organization: a flow rule that would be accepted is for a
network of the organization; without a flow rule, a network that the user can read belongs to the
organization, and the user has the role `USER` there if there is anything to write. -/
def PostContained (host : Host) (db : Db) (context : Context) : Prop :=
  ∀ entries, parseBody context.body = .ok entries →
    match entries.lookup .flowRule with
    | some value =>
      db.hasAccess context.userId context.networkId .user = true →
        (host.ruleCompiler value.asString).isOk = true →
          db.belongs context.networkId context.orgId = true
    | none =>
      db.readable context.userId context.networkId = true →
        db.belongs context.networkId context.orgId = true ∧
          (entries ≠ [] → db.roleAtLeast context.userId context.orgId .user = true)

/-- The loop keeps what it has collected. -/
theorem addAll_keeps :
    ∀ (entries : List (Field × Json)) (payloads : Payloads),
      payloads.controller <+: (payloads.addAll entries).controller ∧
        payloads.database <+: (payloads.addAll entries).database
  | [], _ => ⟨List.prefix_refl _, List.prefix_refl _⟩
  | (key, value) :: entries, payloads => by
    obtain ⟨hcontroller, hdatabase⟩ := addAll_keeps entries (payloads.add key value)
    exact ⟨(List.prefix_append _ _).trans hcontroller, (List.prefix_append _ _).trans hdatabase⟩

/-- Every key goes to a payload, except the flow rule. -/
theorem addAll_ne_nil {entries : List (Field × Json)} (hne : entries ≠ [])
    (hrule : entries.lookup .flowRule = none) (payloads : Payloads) :
    (payloads.addAll entries).controller ≠ [] ∨ (payloads.addAll entries).database ≠ [] := by
  cases entries with
  | nil => exact absurd rfl hne
  | cons entry entries =>
    obtain ⟨key, value⟩ := entry
    have hadd :
        (payloads.add key value).controller ≠ [] ∨ (payloads.add key value).database ≠ [] := by
      cases key with
      | flowRule => simp at hrule
      | description => exact .inr (by simp [Payloads.add, updateableFields])
      | _ => exact .inl (by simp [Payloads.add, updateableFields])
    rcases hadd with hadd | hadd
    · exact .inl fun h => hadd (List.prefix_nil.mp (h ▸ (addAll_keeps _ _).1))
    · exact .inr fun h => hadd (List.prefix_nil.mp (h ▸ (addAll_keeps _ _).2))

theorem containedRun_postNetwork (h : req.admitted host db .readOnly = some context)
    (hpost : PostContained host db context) :
    ContainedRun plan (Permits host db req) (postNetwork host context) db := by
  obtain ⟨apiKey, -, -, -, -, -, hrole⟩ := admitted_eq_some h
  unfold postNetwork
  cases hparse : parseBody context.body with
  | error paths => exact containedRun_pure rfl
  | ok entries =>
    refine containedRun_catch_iff.mpr ?_
    have hcond := hpost entries hparse
    cases hrule : entries.lookup .flowRule with
    | none =>
      rw [hrule] at hcond
      rw [collect_of_no_flowRule entries _ hrule]
      change ContainedRun plan _ (updateAndReport context _) db
      cases hreadable : db.readable context.userId context.networkId with
      | false => exact containedRun_unreadable hreadable
      | true =>
        obtain ⟨hbelongs, huser⟩ := hcond hreadable
        have hreadOnly := (permits_iff h).mpr ⟨hbelongs, hrole⟩
        by_cases hnil : entries = []
        · subst hnil
          exact containedRun_report hreadOnly
        · exact containedRun_updateAndReport ((permits_iff h).mpr ⟨hbelongs, huser hnil⟩) hreadOnly
    | some value =>
      rw [hrule] at hcond
      by_cases hok : db.hasAccess context.userId context.networkId .user = true ∧
          (host.ruleCompiler value.asString).isOk = true
      · have hbelongs := hcond hok.1 hok.2
        have huser :=
          (permits_iff h).mpr ⟨hbelongs, (hasAccess_of_belongs hbelongs).symm.trans hok.1⟩
        refine containedRun_bind_iff.mpr
          ⟨along_of_within (collect_within _ _ _ _) huser, fun collected db' hrun => ?_⟩
        cases collected with
        | error response => exact containedRun_pure (collect_response_revealed _ _ _ hrun)
        | ok payloads =>
          exact containedRun_updateAndReport huser ((permits_iff h).mpr ⟨hbelongs, hrole⟩)
      · obtain ⟨rest, payloads', heq⟩ := collect_of_flowRule host context
          entries ⟨[], []⟩ hrule
        obtain ⟨halong, response, t, hrun, hresponse⟩ :=
          collect_refused plan rest payloads' hok
        rw [heq]
        refine containedRun_bind_iff.mpr ⟨halong.mono fun act _ hact nwid hn => ?_, ?_⟩
        · rw [hact] at hn
          cases hn
        · intro collected db' hrun'
          rw [hrun] at hrun'
          cases hrun'
          exact containedRun_pure hresponse

/-- A calm `POST` that is contained meets the condition. -/
theorem postContained_of_calm (h : req.admitted host db .readOnly = some context)
    (hpost : ContainedRun calm (Permits host db req) (postNetwork host context) db) :
    PostContained host db context := by
  obtain ⟨apiKey, -, howner, -, -, -, -⟩ := admitted_eq_some h
  intro entries hparse
  unfold postNetwork at hpost
  rw [hparse] at hpost
  replace hpost := containedRun_catch_iff.mp hpost
  cases hrule : entries.lookup .flowRule with
  | some value =>
    intro haccess hcompiles
    exact ((permits_iff h).mp (collect_flowRule_calm hrule (contains_of_tokenOwner howner) haccess
      hcompiles (containedRun_bind_iff.mp hpost).1)).1
  | none =>
    intro hreadable
    rw [collect_of_no_flowRule entries _ hrule] at hpost
    obtain ⟨hreadOnly, huser⟩ := updateAndReport_calm hreadable
      (show ContainedRun calm _ (updateAndReport context _) db from hpost)
    exact ⟨((permits_iff h).mp hreadOnly).1, fun hne =>
      ((permits_iff h).mp (huser (addAll_ne_nil hne hrule _))).2⟩

/-! ## 12. The endpoint -/

/-- **When a request is contained.**  A `DELETE` always is; a `GET` is if the network belongs to the
organization or does not exist; a `POST` is under the condition `PostContained`. -/
def StaysInside (host : Host) (db : Db) (req : Request) : Prop :=
  match req.method with
  | .get =>
    ∀ context, req.admitted host db .readOnly = some context →
      db.networks.contains context.networkId = true →
        db.belongs context.networkId context.orgId = true
  | .post =>
    ∀ context, req.admitted host db .readOnly = some context → PostContained host db context
  | .delete | .other => True

/-- The rate limiter stands in front of everything. -/
theorem containedRun_handler_iff :
    ContainedRun plan may (apiNetworkByIdHandler host req) db ↔
      ((plan .checkLimit).isOk = true → ContainedRun plan may
        (match req.method with
          | .get => securedOrganizationApiRoute host .readOnly (getNetwork host) req
          | .post => securedOrganizationApiRoute host .readOnly (postNetwork host) req
          | .delete => securedOrganizationApiRoute host .user (deleteNetworkRoute host) req
          | .other => pure ⟨405, .error "Method Not Allowed"⟩) db) := by
  have hlimited : Prog.exec (handle plan) (tryCatch (do
      remote .checkLimit
      return false) fun _ => pure true : Procedure Bool) db =
        (.ok !(plan .checkLimit).isOk, db) := by
    rw [Prog.exec_tryCatch, Prog.exec_bind, exec_remote]
    cases plan .checkLimit with
    | ok _ => rfl
    | error _ => rfl
  have halong : Prog.Along (handle plan) (fun act _ => ∀ nwid, act.changedNetwork = some nwid →
      may nwid .user) (tryCatch (do
      remote .checkLimit
      return false) fun _ => pure true : Procedure Bool) db :=
    along_of_harmless (Prog.Only.tryCatch
      (Prog.Only.bind (Prog.only_call (A := Act.harmless) rfl) fun _ => Prog.only_pure _)
      fun _ => Prog.only_pure _)
  unfold apiNetworkByIdHandler
  constructor
  · intro h hok
    have hrun := (containedRun_bind_iff.mp h).2 _ db hlimited
    rw [hok] at hrun
    exact hrun
  · intro h
    refine containedRun_bind_iff.mpr ⟨halong, fun limited db' hrun => ?_⟩
    rw [hlimited] at hrun
    cases hrun
    cases hok : (plan .checkLimit).isOk with
    | true => exact h hok
    | false => exact containedRun_pure rfl

theorem contained_get_iff (hmethod : req.method = .get) :
    Contained host db req ↔
      ∀ context, req.admitted host db .readOnly = some context →
        db.networks.contains context.networkId = true →
          db.belongs context.networkId context.orgId = true := by
  unfold Contained
  simp only [containedRun_handler_iff, hmethod, containedRun_secured_iff,
    containedRun_getNetwork_iff]
  constructor
  · intro h context hcontext hcontains
    exact ((permits_iff hcontext).mp (h calm rfl context hcontext hcontains rfl)).1
  · intro h plan _ context hcontext hcontains _
    obtain ⟨apiKey, -, -, -, -, -, hrole⟩ := admitted_eq_some hcontext
    exact (permits_iff hcontext).mpr ⟨h context hcontext hcontains, hrole⟩

theorem contained_post_iff (hmethod : req.method = .post) :
    Contained host db req ↔
      ∀ context, req.admitted host db .readOnly = some context →
        PostContained host db context := by
  unfold Contained
  simp only [containedRun_handler_iff, hmethod, containedRun_secured_iff]
  constructor
  · intro h context hcontext
    exact postContained_of_calm hcontext (h calm rfl context hcontext)
  · intro h plan _ context hcontext
    exact containedRun_postNetwork hcontext (h context hcontext)

theorem contained_delete (hmethod : req.method = .delete) : Contained host db req := by
  intro plan
  simp only [containedRun_handler_iff, hmethod, containedRun_secured_iff]
  intro _ context hcontext
  exact containedRun_deleteNetworkRoute hcontext

/-- **Exactly which requests are contained.** -/
theorem contained_iff (host : Host) (db : Db) (req : Request) :
    Contained host db req ↔ StaysInside host db req := by
  unfold StaysInside
  cases hmethod : req.method with
  | get => exact contained_get_iff hmethod
  | post => exact contained_post_iff hmethod
  | delete => exact iff_true_intro (contained_delete hmethod)
  | other =>
    refine iff_true_intro fun plan => ?_
    simp only [containedRun_handler_iff, hmethod]
    exact fun _ => containedRun_pure rfl

/-- What the database holds about a network that may not be changed is what it held before. -/
theorem Contained.sameNetwork (h : Contained host db req) {nwid : NetworkId}
    (hnot : ¬Permits host db req nwid .user) (plan : Plan) :
    db.sameNetwork nwid (Prog.exec (handle plan) (apiNetworkByIdHandler host req) db).2 :=
  exec_frame ((h plan).1.mono fun _ _ hact hchanged => hnot (hact nwid hchanged))

/-! ## 13. A request that is not contained -/

/-- User 1 is a member of organization 10 with the role `READ_ONLY` and has a token; user 2 is the
author of network 7, which belongs to organization 20. -/
def strangersNetwork : Db where
  users := (Dict.empty.set 1 .user).set 2 .user
  userOptions := .empty
  apiTokens := Dict.empty.set 5 ⟨100, 1, none⟩
  organizations := (Dict.empty.set 10 ⟨[1], none⟩).set 20 ⟨[2], none⟩
  userOrganizationRoles := (Dict.empty.set (1, 10) .readOnly).set (2, 20) .admin
  networks := Dict.empty.set "7" ⟨some "lab", some "private", none, some 2, some 20, []⟩
  members := .empty
  activityLog := []

/-- A host whose tokens decrypt to token 5 of user 1. -/
def oneTokenHost : Host where
  now := 0
  decrypt := fun _ => some ⟨some 1, some 5, [.organization]⟩
  ruleCompiler := fun _ => .ok ⟨[], [], []⟩
  parse := fun _ => none
  stringify := fun _ => ""

/-- `GET /api/v1/org/10/network/7`. -/
def strangersRequest : Request := ⟨.get, [], some 100, some 10, some "7", none⟩

/-- **A member of one organization reads the network of another.** -/
theorem get_reveals_other_organization :
    ¬Contained oneTokenHost strangersNetwork strangersRequest := by
  rw [contained_get_iff rfl]
  intro h
  have hadmitted : strangersRequest.admitted oneTokenHost strangersNetwork .readOnly =
      some ⟨none, 1, 10, "7"⟩ := by rfl
  exact absurd (h _ hadmitted (by decide)) (by decide)

end ZtPlanet.Ztnet
