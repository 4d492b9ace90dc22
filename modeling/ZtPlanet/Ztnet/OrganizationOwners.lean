/-
# Requests that spare the administrators

Which requests can take the last administrator from an organization, whatever runs beside them?
Only `changeUserRole` lowers a role, and only `leave` takes a member out, so every other request
leaves the administrators as they are (`governed_of_lowersNobody`).  And as `leave` never takes out
the owner, who stays the same, it spares the administrators too for as long as the owners are among
them: where no role is lowered, the owners administer their organizations all along
(`owners_administer`).
-/
import ZtPlanet.Ztnet.OrganizationMembers

namespace ZtPlanet.Ztnet.Organizations

open ZtPlanet.Lib ZtPlanet.Ztnet.Invitations

/-! ## 1. Calls that take no role -/

/-- The call can take the role of an administrator from somebody. -/
def Query.lowers : Query → Bool
  | .updateRole _ _ role => role ≠ .admin
  | .leaveOrganization _ _ => true
  | _ => false

/-- The call writes nothing about members. -/
def Query.quiet : Query → Bool
  | .createOrganization _ _ _ | .joinOrganization _ _ _ | .acceptInvite _ _ _ _
  | .leaveOrganization _ _ | .updateRole _ _ _ | .commitRegistration _ | .commitUser _ _ => false
  | _ => true

/-- The request sets another role than `ADMIN`. -/
def Request.demotes : Request → Bool
  | .changeUserRole _ _ _ role => (roleOfName role).any fun role => role ≠ .admin
  | _ => false

/-- The request makes a call that lowers. -/
def Request.lowers : Request → Bool
  | .leave _ _ _ => true
  | request => request.demotes

/-- A call that takes no role. -/
abbrev LowersNobody (act : Act) : Prop := act.query.lowers = false

/-- A founder, or a new member. -/
def Change.arrives : Change → Bool
  | .found _ _ | .join _ _ _ => true
  | .setRole _ _ _ | .leave _ _ => false

section

variable {site : InvitationSite} {s : Store} {plan : Plan}

theorem quiet_change {query : Query} (h : query.quiet = true) (s : Store) :
    query.change site s = none := by
  cases query with
  | createOrganization _ _ _ | joinOrganization _ _ _ | acceptInvite _ _ _ _ | leaveOrganization _ _
  | updateRole _ _ _ | commitRegistration _ | commitUser _ _ => cases h
  | _ => rfl

theorem quiet_lowersNobody {query : Query} (h : query.quiet = true) (outcome : Outcome) :
    LowersNobody ⟨query, outcome⟩ := by
  cases query with
  | leaveOrganization _ _ | updateRole _ _ _ => cases h
  | _ => rfl

/-- Which call makes which change. -/
theorem change_cases {query : Query} {change : Change} (h : change ∈ query.change site s) :
    change.arrives = true ∨
      (∃ o u role, query = .updateRole o u role ∧ change = .setRole o u role) ∨
      ∃ o u, query = .leaveOrganization o u ∧ change = .leave o u := by
  cases query with
  | createOrganization id orgName ownerId =>
    obtain ⟨-, heq⟩ := Option.ite_none_right_eq_some.mp h
    obtain rfl := Option.some.inj heq
    exact .inl rfl
  | joinOrganization o u role | acceptInvite token o u role =>
    obtain ⟨-, heq⟩ := Option.ite_none_right_eq_some.mp h
    obtain rfl := Option.some.inj heq
    exact .inl rfl
  | leaveOrganization o u =>
    obtain ⟨-, heq⟩ := Option.ite_none_right_eq_some.mp h
    exact .inr (.inr ⟨o, u, rfl, (Option.some.inj heq).symm⟩)
  | updateRole o u role =>
    obtain ⟨-, heq⟩ := Option.ite_none_right_eq_some.mp h
    exact .inr (.inl ⟨o, u, role, rfl, (Option.some.inj heq).symm⟩)
  | commitRegistration job =>
    obtain ⟨-, heq⟩ := Option.ite_none_right_eq_some.mp h
    obtain ⟨organization, -, rfl⟩ := Option.map_eq_some_iff.mp heq
    exact .inl rfl
  | commitUser callerId input =>
    obtain ⟨-, heq⟩ := Option.ite_none_right_eq_some.mp h
    obtain ⟨organizationId, -, rfl⟩ := Option.map_eq_some_iff.mp heq
    exact .inl rfl
  | _ => cases h

/-- **A call that takes no role spares the administrators**, in every state. -/
theorem lowersNobody_spares (act : Act) (s : Store) (h : LowersNobody act) :
    SparesAdministrators site act s := by
  obtain ⟨query, outcome⟩ := act
  intro _ change hchange
  rcases change_cases hchange with harrives | ⟨o, u, role, rfl, rfl⟩ | ⟨o, u, rfl, rfl⟩
  · cases change with
    | found _ _ | join _ _ _ => trivial
    | setRole _ _ _ | leave _ _ => cases harrives
  · exact fun _ => .inl (not_not.mp (of_decide_eq_false h))
  · cases h

/-! ## 2. What the requests call -/

theorem only_lowersNobody {query : Query} (h : query.lowers = false) :
    Prog.Only LowersNobody (perform plan query) := Prog.only_call h

theorem readClock_lowersNobody : Prog.Only LowersNobody readClock := Prog.only_call rfl

theorem consult_lowersNobody (consultation : Consultation) :
    Prog.Only LowersNobody (consult plan consultation) := Prog.only_ofExcept _

theorem requireAdmin_lowersNobody (callerId : UserId) :
    Prog.Only LowersNobody (requireAdmin plan callerId) := by
  refine (only_lowersNobody rfl).bind fun user => ?_
  split
  · exact Prog.only_pure _
  · exact Prog.only_throw _

theorem checkUserOrganizationRole_lowersNobody (callerId : UserId) (organizationId : OrganizationId)
    (minimumRequiredRole : Role) :
    Prog.Only LowersNobody
      (checkUserOrganizationRole plan callerId organizationId minimumRequiredRole) := by
  refine (only_lowersNobody rfl).bind fun orgUserRole => ?_
  cases orgUserRole with
  | none => exact Prog.only_throw _
  | some role =>
    dsimp only
    split
    · exact Prog.only_pure _
    · split
      · exact Prog.only_pure _
      · exact Prog.only_throw _

theorem requireUser_lowersNobody (userId : UserId) :
    Prog.Only LowersNobody (requireUser plan userId) := by
  refine (only_lowersNobody rfl).bind fun user => ?_
  split
  · exact Prog.only_pure _
  · exact Prog.only_throw _

/-- `changeUserRole` calls what takes no role, and sets the role that it is given. -/
theorem changeUserRole_only {A : Act → Prop} (hA : ∀ act, LowersNobody act → A act)
    {callerId : UserId} {organizationId : Option OrganizationId} {userId : UserId} {role : String}
    (hrole : ∀ o role', roleOfName role = some role' →
      A ⟨.updateRole o userId role', plan.outcome (.updateRole o userId role')⟩) :
    Prog.Only A (changeUserRole plan callerId organizationId userId role) := by
  unfold changeUserRole
  split
  · exact Prog.only_throw _
  cases organizationId with
  | none => exact ((requireUser_lowersNobody _).mono hA).bind fun _ => Prog.only_throw _
  | some organizationId =>
    refine ((checkUserOrganizationRole_lowersNobody _ _ _).mono hA).bind fun _ => ?_
    refine ((requireUser_lowersNobody _).mono hA).bind fun _ => ?_
    refine Prog.Only.bind ((only_lowersNobody rfl).mono hA) fun _ => ?_
    refine Prog.Only.bind ((only_lowersNobody rfl).mono hA) fun _ => ?_
    cases hname : roleOfName role with
    | none => exact Prog.only_throw _
    | some role' => exact Prog.only_call (hrole organizationId role' hname)

/-- `leave` calls what takes no role, and takes out whom it is given. -/
theorem leave_only {A : Act → Prop} (hA : ∀ act, LowersNobody act → A act) {callerId : UserId}
    {organizationId : OrganizationId} {userId : UserId}
    (hleave : A ⟨.leaveOrganization organizationId userId,
      plan.outcome (.leaveOrganization organizationId userId)⟩) :
    Prog.Only A (leave plan callerId organizationId userId) := by
  refine ((checkUserOrganizationRole_lowersNobody _ _ _).mono hA).bind fun _ => ?_
  refine Prog.Only.bind ((only_lowersNobody rfl).mono hA) fun org => ?_
  cases org with
  | none => exact Prog.only_throw _
  | some org =>
    dsimp only
    split
    · exact Prog.only_throw _
    split
    · exact Prog.only_throw _
    refine Prog.Only.bind ((only_lowersNobody rfl).mono hA) fun _ => ?_
    refine Prog.Only.bind (Prog.Only.tryCatch (Prog.only_ofExcept _) fun _ => Prog.only_throw _)
      fun _ => ?_
    exact (Prog.only_call hleave).bind fun _ => (only_lowersNobody rfl).mono hA

theorem addUser_lowersNobody (callerId : UserId) (organizationId : OrganizationId) (userId : UserId)
    (organizationRole : Role) :
    Prog.Only LowersNobody (addUser plan callerId organizationId userId organizationRole) := by
  unfold addUser
  split
  · exact Prog.only_throw _
  refine (checkUserOrganizationRole_lowersNobody _ _ _).bind fun _ => ?_
  refine (only_lowersNobody rfl).bind fun userRole => ?_
  split
  · exact Prog.only_throw _
  · exact (only_lowersNobody rfl).bind fun _ => only_lowersNobody rfl

/-- What `preValidateUserInvite` calls: reads, and the write about the invited user. -/
theorem preValidateUserInvite_only {A : Act → Prop} {token : Token}
    (hquiet : ∀ query outcome, query.quiet = true → A ⟨query, outcome⟩)
    (haccept : ∀ o u role outcome, A ⟨.acceptInvite token o u role, outcome⟩) :
    Prog.Only A (preValidateUserInvite site plan token) := by
  unfold preValidateUserInvite
  split
  · exact Prog.only_throw _
  refine Prog.Only.bind (Prog.only_ofExcept _) fun _ => Prog.Only.tryCatch ?_ fun _ =>
    Prog.only_throw _
  unfold validateInvite
  split
  · exact Prog.only_throw _
  split
  · exact Prog.only_throw _
  refine Prog.Only.bind (Prog.only_call (hquiet _ _ rfl)) fun invitation => ?_
  cases invitation with
  | none => exact Prog.only_throw _
  | some invitation =>
    refine Prog.Only.bind (Prog.only_call (hquiet _ _ rfl)) fun now => ?_
    split
    · exact Prog.only_throw _
    refine Prog.Only.bind (Prog.only_call (hquiet _ _ rfl)) fun user => ?_
    cases user with
    | none => exact Prog.only_pure _
    | some user =>
      dsimp only
      unfold acceptInvitation
      split
      · refine Prog.Only.bind (Prog.only_call (hquiet _ _ rfl)) fun isMember => ?_
        split
        · exact Prog.only_throw _
        refine Prog.Only.bind (Prog.only_call (haccept _ _ _ _)) fun _ => ?_
        refine Prog.Only.bind (Prog.only_call (hquiet _ _ rfl)) fun _ => ?_
        split
        · exact Prog.only_throw _
        · exact Prog.only_call (hquiet _ _ rfl)
      · exact Prog.only_throw _

theorem inviteUserByMail_lowersNobody (callerId : UserId)
    (organizationId : OrganizationId) (role : Role)
    (email : EmailAddress) (id : InvitationId) (inviteId : OrganizationInvitationId)
    (token : Token) :
    Prog.Only LowersNobody
      (inviteUserByMail plan callerId organizationId role email id inviteId token) := by
  have hsend : Prog.Only LowersNobody
      (inviteUserByMail.send plan callerId organizationId role email id inviteId token) := by
    refine (only_lowersNobody rfl).bind fun existingInvitation => ?_
    split
    · exact Prog.only_throw _
    refine Prog.Only.tryCatch (readClock_lowersNobody.bind fun now => ?_) fun _ => Prog.only_throw _
    refine (only_lowersNobody rfl).bind fun organization => ?_
    split
    · exact Prog.only_throw _
    · refine (only_lowersNobody rfl).bind fun _ => (consult_lowersNobody _).bind fun _ => ?_
      exact only_lowersNobody rfl
  unfold inviteUserByMail
  split
  · exact Prog.only_throw _
  refine (checkUserOrganizationRole_lowersNobody _ _ _).bind fun _ => ?_
  refine (only_lowersNobody rfl).bind fun user => ?_
  cases user with
  | none => exact hsend
  | some user =>
    refine (only_lowersNobody rfl).bind fun isMember => ?_
    split
    · exact Prog.only_throw _
    · exact hsend

theorem validateOrganizationToken_lowersNobody (organizationToken : Option String)
    (inputEmail : EmailAddress) :
    Prog.Only LowersNobody (validateOrganizationToken site plan organizationToken inputEmail) := by
  unfold validateOrganizationToken
  split
  · exact Prog.only_pure _
  refine Prog.Only.tryCatch ?_ fun _ => Prog.only_throw _
  unfold checkOrganizationToken
  split
  · exact Prog.only_throw _
  split
  · exact Prog.only_throw _
  refine readClock_lowersNobody.bind fun now => ?_
  split
  · exact Prog.only_throw _
  refine (only_lowersNobody rfl).bind fun orgInvitationData => ?_
  split
  · exact Prog.only_throw _
  · split
    · exact Prog.only_throw _
    · exact Prog.only_pure _

theorem findValidCode_lowersNobody (input : Invitations.RegisterInput) :
    Prog.Only LowersNobody (findValidCode site plan input) := by
  unfold findValidCode
  split
  · exact Prog.only_pure _
  · refine (only_lowersNobody rfl).bind fun invitation => readClock_lowersNobody.bind fun now => ?_
    cases invitation with
    | none => exact Prog.only_throw _
    | some invitation =>
      dsimp only
      split
      · exact Prog.only_throw _
      · split
        · exact Prog.only_throw _
        · exact Prog.only_pure _
  · exact Prog.only_throw _

theorem register_lowersNobody (input : Invitations.RegisterInput) :
    Prog.Only LowersNobody (register site plan input) := by
  refine (consult_lowersNobody _).bind fun _ => (consult_lowersNobody _).bind fun _ => ?_
  refine (only_lowersNobody rfl).bind fun enableRegistration => ?_
  refine (validateOrganizationToken_lowersNobody _ _).bind fun decryptedOrgToken => ?_
  refine (findValidCode_lowersNobody _).bind fun invitation => ?_
  dsimp only
  split
  · exact Prog.only_throw _
  refine (only_lowersNobody rfl).bind fun registerUser => ?_
  split
  · exact Prog.only_throw _
  refine (only_lowersNobody rfl).bind fun _ => (only_lowersNobody rfl).bind fun _ => ?_
  cases decryptedOrgToken with
  | none => exact Prog.only_pure _
  | some organization => exact only_lowersNobody rfl

theorem createUser_lowersNobody (callerId : UserId) (input : CreateUserInput) :
    Prog.Only LowersNobody (createUser plan callerId input) := by
  refine (requireAdmin_lowersNobody _).bind fun _ => (only_lowersNobody rfl).bind fun user => ?_
  split
  · exact Prog.only_throw _
  · exact only_lowersNobody rfl

/-- **A request that is no `leave` and lowers no role** makes only calls that take no role. -/
theorem program_lowersNobody (op : Op) (h : op.request.lowers = false) :
    Prog.Only LowersNobody (op.program site) := by
  obtain ⟨plan, request⟩ := op
  cases request with
  | createOrg callerId id orgName =>
    exact (requireAdmin_lowersNobody _).bind fun _ => only_lowersNobody rfl
  | changeUserRole callerId organizationId userId role =>
    refine changeUserRole_only (fun _ h => h) fun o role' hrole => ?_
    have hdemotes : (roleOfName role).any (fun role => decide (role ≠ .admin)) = false := h
    rw [hrole] at hdemotes
    exact hdemotes
  | addUser callerId organizationId userId role => exact addUser_lowersNobody _ _ _ _
  | leave callerId organizationId userId => cases h
  | preValidateUserInvite token =>
    exact preValidateUserInvite_only (fun _ outcome h => quiet_lowersNobody h outcome)
      fun _ _ _ _ => rfl
  | inviteUserByMail callerId organizationId role email id inviteId token =>
    exact inviteUserByMail_lowersNobody _ _ _ _ _ _ _
  | deleteInvite callerId organizationId inviteId =>
    refine (checkUserOrganizationRole_lowersNobody _ _ _).bind fun _ => ?_
    exact (only_lowersNobody rfl).bind fun _ => Prog.only_pure _
  | register input => exact register_lowersNobody _
  | createUser callerId input => exact createUser_lowersNobody _ _
  | wait ms => exact Prog.only_call rfl

/-- **Where nobody leaves and no role is lowered**, every organization keeps an administrator,
however the requests overlap. -/
theorem governed_of_lowersNobody (hs : Governed s) {events : List (PoolEvent Op)}
    (hops : ∀ op ∈ started events, op.request.lowers = false)
    {w : PoolState Act (Call.Ans Query.Ans) Failure Unit Store}
    (hrun : (organizationMachine site).run ⟨s, []⟩ events = some w) : Governed w.state := by
  refine (pool_invariant_iff handle_governed_iff hs events).mpr ?_ _ (List.prefix_refl _) w hrun
  exact pool_conforms lowersNobody_spares (fun _ hp => absurd hp List.not_mem_nil)
    fun op hop => program_lowersNobody op (hops op hop)

end

/-! ## 3. Owners -/

/-- Every owner is an administrator of the organization. -/
def Membership.OwnersAdminister (m : Membership) : Prop :=
  ∀ o organization, m.organizations.get? o = some organization →
    m.userRoles.get? (organization.ownerId, o) = some .admin

/-- No role is lowered. -/
def NotDemoting (act : Act) (_ : Store) : Prop :=
  ∀ o u role, act.query = .updateRole o u role → role = .admin

/-- Who is taken out is not the owner. -/
def SparesOwner (act : Act) (s : Store) : Prop :=
  ∀ o u, act.query = .leaveOrganization o u → ∀ organization,
    s.organizations.get? o = some organization → organization.ownerId ≠ u

/-- An organization stays with its owner, and the owners stay administrators. -/
structure OwnersKept (s t : Store) : Prop where
  organizations : ∀ o organization, s.organizations.get? o = some organization →
    t.organizations.get? o = some organization
  owners : s.membership.OwnersAdminister → t.membership.OwnersAdminister
  agree : s.membership.TablesAgree → t.membership.TablesAgree

section

variable {site : InvitationSite} {s : Store} {plan : Plan}

theorem OwnersKept.refl (s : Store) : OwnersKept s s := ⟨fun _ _ h => h, fun h => h, fun h => h⟩

theorem OwnersKept.trans {s t u : Store} (h : OwnersKept s t) (h' : OwnersKept t u) :
    OwnersKept s u :=
  ⟨fun o organization ho => h'.organizations o organization (h.organizations o organization ho),
    fun ho => h'.owners (h.owners ho), fun hs => h'.agree (h.agree hs)⟩

/-- An organization that its owner administers has an administrator. -/
theorem governed_of_owners (hagree : s.membership.TablesAgree)
    (hs : s.membership.OwnersAdminister) :
    Governed s := by
  refine ⟨hagree, administered_iff.mpr fun o hthere => ?_⟩
  obtain ⟨organization, ho⟩ := Option.isSome_iff_exists.mp hthere
  have howner := hs o organization ho
  refine ⟨organization.ownerId, mem_administrators.mpr ⟨?_, howner⟩⟩
  rw [Membership.connected, tablesAgree_iff.mp hagree, Dict.contains, howner]
  rfl

/-- Organizations do not go, and keep their owner. -/
theorem apply_organizations {m : Membership} {change : Change} (hallowed : change.allowed m)
    {o : OrganizationId} {organization : Organization}
    (h : m.organizations.get? o = some organization) :
    (change.apply m).organizations.get? o = some organization := by
  cases change with
  | found id founded =>
    have hnone : m.organizations.contains id = false := hallowed.1
    refine (Dict.get?_set_ne _ ?_ _).trans h
    rintro rfl
    rw [Dict.contains, h] at hnone
    cases hnone
  | join _ _ _ | leave _ _ | setRole _ _ _ => exact h

/-- **A change keeps the owners**, where it takes no role from an owner. -/
theorem apply_owners {m : Membership} {change : Change} (hallowed : change.allowed m)
    (hm : m.OwnersAdminister)
    (hrole : ∀ o u role, change = .setRole o u role → role = .admin)
    (hleave : ∀ o u, change = .leave o u → ∀ organization,
      m.organizations.get? o = some organization → organization.ownerId ≠ u) :
    (change.apply m).OwnersAdminister := by
  intro o organization ho
  cases change with
  | found id founded =>
    by_cases hid : id = o
    · subst hid
      obtain rfl := Option.some.inj ((Dict.get?_set_self _ _ _).symm.trans ho)
      exact Dict.get?_set_self _ _ _
    · refine (Dict.get?_set_ne _ (fun hkey => hid (congrArg Prod.snd hkey)) _).trans
        (hm o organization ?_)
      exact (Dict.get?_set_ne _ hid _).symm.trans ho
  | join o' u role =>
    -- who joins has had no role, so it is not the owner
    have hnone : m.userRoles.contains (u, o') = false := hallowed.2
    refine (Dict.get?_set_ne _ (fun hkey => ?_) _).trans (hm o organization ho)
    rw [hkey, Dict.contains, hm o organization ho] at hnone
    cases hnone
  | leave o' u =>
    refine (Dict.get?_erase _ _ _).trans ?_
    rw [if_neg ?_]
    · exact hm o organization ho
    · intro hkey
      obtain ⟨rfl, rfl⟩ := Prod.mk.inj hkey
      exact hleave _ _ rfl organization ho rfl
  | setRole o' u role =>
    obtain rfl := hrole o' u role rfl
    refine (Dict.get?_set _ _ _ _).trans ?_
    split
    · rfl
    · exact hm o organization ho

/-- **What a call does to the owners.** -/
theorem handle_ownersKept (act : Act) (s : Store) (hdemotes : NotDemoting act s)
    (hspares : SparesOwner act s) : OwnersKept s (handle site act s).2 := by
  have hagree := handle_tablesAgree site act s
  rw [handle, faulty_state] at hagree ⊢
  by_cases htakes : act.takesEffect = true
  · rw [if_pos htakes] at hagree ⊢
    obtain ⟨hafter, hallowed⟩ := run_membership site act.query s
    cases hchange : act.query.change site s with
    | none =>
      rw [hchange] at hafter
      have horganizations := congrArg Membership.organizations hafter
      refine ⟨fun o organization ho => ?_, fun ho => hafter ▸ ho, hagree⟩
      exact (congrArg (fun d => Dict.get? d o) horganizations).trans ho
    | some change =>
      rw [hchange] at hafter
      have hchange' := hallowed change hchange
      refine ⟨fun o organization ho => ?_, fun ho => ?_, hagree⟩
      · have horganizations := congrArg Membership.organizations hafter
        exact (congrArg (fun d => Dict.get? d o) horganizations).trans
          (apply_organizations hchange' ho)
      · rw [hafter]
        refine apply_owners hchange' ho ?_ ?_
        · rintro o u role rfl
          rcases change_cases hchange with h | ⟨o', u', role', hquery, heq⟩ | ⟨_, _, _, heq⟩
          · cases h
          · cases heq
            exact hdemotes _ _ _ hquery
          · cases heq
        · rintro o u rfl
          rcases change_cases hchange with h | ⟨_, _, _, _, heq⟩ | ⟨o', u', hquery, heq⟩
          · cases h
          · cases heq
          · cases heq
            exact hspares _ _ hquery
  · rw [if_neg htakes]
    exact .refl s

/-- A call that takes nobody out. -/
def TakesNobodyOut (act : Act) : Prop := ∀ o u, act.query ≠ .leaveOrganization o u

theorem lowersNobody_takesNobodyOut (act : Act) (h : LowersNobody act) : TakesNobodyOut act := by
  intro o u hquery
  rw [LowersNobody, hquery] at h
  cases h

/-- A call that takes nobody out is none that an owner suffers from. -/
theorem sparesOwner_of_takesNobodyOut {act : Act} (h : TakesNobodyOut act) (s : Store) :
    SparesOwner act s := fun o u hquery => absurd hquery (h o u)

/-- The programs that take nobody out, among others that lower no role. -/
theorem steady_takesNobodyOut {α : Type} {p : Proc α}
    (hp : Prog.Only TakesNobodyOut p) (s : Store) :
    Prog.Steady (handle site) OwnersKept NotDemoting SparesOwner (fun _ t => OwnersKept s t) p s :=
  hp.steady .refl (fun _ _ _ => .trans) fun act t hact hdemotes =>
    ⟨sparesOwner_of_takesNobodyOut hact t,
      handle_ownersKept act t hdemotes (sparesOwner_of_takesNobodyOut hact t)⟩

theorem steady_lowersNobody {α : Type} {p : Proc α} (hp : Prog.Only LowersNobody p) (s : Store) :
    Prog.Steady (handle site) OwnersKept NotDemoting SparesOwner (fun _ t => OwnersKept s t) p s :=
  steady_takesNobodyOut (hp.mono lowersNobody_takesNobodyOut) s

/-- The part of `leave` behind its checks. -/
theorem leave_writes_steady {callerId : UserId} {organizationId : OrganizationId} {userId : UserId}
    {organization : Organization} {s : Store}
    (horganization : s.organizations.get? organizationId = some organization)
    (howner : organization.ownerId ≠ userId) :
    Prog.Steady (handle site) OwnersKept NotDemoting SparesOwner (fun _ _ => True)
      (do
        let _fullUser ← perform plan (.findUser userId)
        tryCatch (consult plan .sendWebhook) fun error => throwTRPC error.message
        perform plan (.leaveOrganization organizationId userId)
        perform plan (.createActivityLog callerId organizationId)) s := by
  refine Prog.Steady.bind ((steady_lowersNobody (only_lowersNobody rfl) s).mono fun r t ht => ?_)
  cases r with
  | error e => trivial
  | ok _ =>
    refine Prog.Steady.bind (Prog.Steady.tryCatch (Prog.steady_ofExcept ?_))
    cases plan.answer .sendWebhook with
    | error e => exact Prog.steady_throw trivial
    | ok _ =>
      refine Prog.Steady.bind (Prog.steady_call fun u hu hdemotes => ?_)
      have hspares : SparesOwner ⟨.leaveOrganization organizationId userId,
          plan.outcome (.leaveOrganization organizationId userId)⟩ u := by
        rintro o u' hquery organization' horganization'
        obtain ⟨rfl, rfl⟩ := Query.leaveOrganization.inj hquery
        -- the organization is the one that was read
        have hsame := (ht.trans hu).organizations _ _ horganization
        obtain rfl := Option.some.inj (hsame.symm.trans horganization')
        exact howner
      refine ⟨hspares, handle_ownersKept _ u hdemotes hspares, ?_⟩
      split
      · exact (steady_lowersNobody (only_lowersNobody rfl) _).mono fun _ _ _ => trivial
      · trivial

/-- `leave` reads the owner, who stays the same until it writes. -/
theorem leave_steady (callerId : UserId) (organizationId : OrganizationId)
    (userId : UserId) (s : Store) :
    Prog.Steady (handle site) OwnersKept NotDemoting SparesOwner (fun _ _ => True)
      (leave plan callerId organizationId userId) s := by
  unfold leave
  refine Prog.Steady.bind ((steady_lowersNobody
    (checkUserOrganizationRole_lowersNobody _ _ _) s).mono fun r t _ => ?_)
  cases r with
  | error e => trivial
  | ok _ =>
    refine Prog.Steady.bind (Prog.steady_call fun t' _ hdemotes => ?_)
    have hspares : SparesOwner ⟨.findOrganization organizationId,
        plan.outcome (.findOrganization organizationId)⟩ t' :=
      sparesOwner_of_takesNobodyOut (lowersNobody_takesNobodyOut _ rfl) t'
    refine ⟨hspares, handle_ownersKept _ t' hdemotes hspares, ?_⟩
    generalize hcall : handle site ⟨.findOrganization organizationId, _⟩ t' = answer
    obtain ⟨r, u⟩ := answer
    cases r with
    | error e => trivial
    | ok org =>
      have hrun := (faulty_ok hcall).2
      cases hrun
      cases horganization : t'.organizations.get? organizationId with
      | none => exact Prog.steady_throw trivial
      | some organization =>
        dsimp only [Option.map_some]
        split
        · exact Prog.steady_throw trivial
        · next howner =>
          split
          · exact Prog.steady_throw trivial
          · exact leave_writes_steady horganization howner

/-- **A request that is no `leave`** takes nobody out. -/
theorem program_takesNobodyOut (op : Op)
    (h : ∀ callerId organizationId userId, op.request ≠ .leave callerId organizationId userId) :
    Prog.Only TakesNobodyOut (op.program site) := by
  obtain ⟨plan, request⟩ := op
  cases request with
  | changeUserRole callerId organizationId userId role =>
    exact changeUserRole_only lowersNobody_takesNobodyOut fun _ _ _ _ _ => nofun
  | leave callerId organizationId userId => exact absurd rfl (h callerId organizationId userId)
  | _ => exact (program_lowersNobody _ rfl).mono lowersNobody_takesNobodyOut

theorem program_ownersKept (op : Op) (s : Store) :
    Prog.Steady (handle site) OwnersKept NotDemoting SparesOwner (fun _ _ => True) (op.program site)
      s := by
  by_cases h : ∀ callerId organizationId userId, op.request ≠ .leave callerId organizationId userId
  · exact (steady_takesNobodyOut (program_takesNobodyOut op h) s).mono fun _ _ _ => trivial
  · obtain ⟨plan, request⟩ := op
    cases request with
    | leave callerId organizationId userId => exact leave_steady _ _ _ s
    | _ => exact absurd (fun _ _ _ => nofun) h

theorem lowersNobody_notDemoting (act : Act) (h : LowersNobody act) : ∀ s, NotDemoting act s := by
  intro _ o u role hquery
  rw [LowersNobody, hquery] at h
  exact not_not.mp (of_decide_eq_false h)

/-- **A request that demotes nobody** makes no call that does. -/
theorem program_notDemoting (op : Op) (h : op.request.demotes = false) :
    Prog.Only (fun act => ∀ s, NotDemoting act s) (op.program site) := by
  by_cases hlowers : op.request.lowers = false
  · exact (program_lowersNobody op hlowers).mono lowersNobody_notDemoting
  · obtain ⟨plan, request⟩ := op
    cases request with
    | leave callerId organizationId userId =>
      exact leave_only lowersNobody_notDemoting fun _ _ _ _ => nofun
    | _ => exact absurd h hlowers

/-- **Where no role is lowered, the owners administer their organizations**, whoever leaves and
however the requests overlap. -/
theorem owners_administer (hagree : s.membership.TablesAgree) (hs : s.membership.OwnersAdminister)
    {events : List (PoolEvent Op)} (hops : ∀ op ∈ started events, op.request.demotes = false)
    {w : PoolState Act (Call.Ans Query.Ans) Failure Unit Store}
    (hrun : (organizationMachine site).run ⟨s, []⟩ events = some w) :
    w.state.membership.OwnersAdminister ∧ Governed w.state := by
  obtain ⟨hagree', howners⟩ := pool_invariant
    (I := fun s => s.membership.TablesAgree ∧ s.membership.OwnersAdminister) .refl
    (fun _ _ _ => .trans)
    (fun _ _ h hkept => ⟨hkept.agree h.1, hkept.owners h.2⟩) (fun op s _ => program_ownersKept op s)
    ⟨hagree, hs⟩ (fun _ hp => absurd hp List.not_mem_nil)
    (pool_conforms (fun _ _ h => h _) (fun _ hp => absurd hp List.not_mem_nil)
      fun op hop => program_notDemoting op (hops op hop)) hrun
  exact ⟨howners, governed_of_owners hagree' howners⟩

end

end ZtPlanet.Ztnet.Organizations
