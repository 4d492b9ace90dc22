/-
# Members of organizations and their roles

`Membership` is what the tables say about who belongs to which organization.  Whatever a call does
to it is one of four changes (`run_membership`), each of which is made only where it is allowed
(`change_allowed`): an organization is founded with its owner as administrator, a user joins, a user
leaves, or the role of a member is set.

Every change keeps the two tables in agreement, so they agree in every run (`tables_agree`).  The
changes do not keep an administrator in every organization: `changeUserRole` forbids to change one's
own role and `leave` to take out the owner, but nothing forbids to take the role from the owner and
to leave then.  An organization has an administrator all along a run exactly if no role that is set
and no user who leaves takes the last one away (`administrators_remain_iff`).
-/
import ZtPlanet.Ztnet.Organizations

namespace ZtPlanet.Ztnet.Organizations

open ZtPlanet.Lib ZtPlanet.Ztnet.Invitations

/-! ## 1. Changes -/

/-- The organizations, the relation with their users, and the roles there. -/
structure Membership where
  organizations : Dict OrganizationId Organization
  memberRelation : Dict (UserId × OrganizationId) Unit
  userRoles : Dict (UserId × OrganizationId) Role

def Store.membership (s : Store) : Membership := ⟨s.organizations, s.memberRelation, s.userRoles⟩

/-- What can become of a membership. -/
inductive Change where
  | found (id : OrganizationId) (organization : Organization)
  | join (organizationId : OrganizationId) (userId : UserId) (role : Role)
  | leave (organizationId : OrganizationId) (userId : UserId)
  | setRole (organizationId : OrganizationId) (userId : UserId) (role : Role)
deriving DecidableEq

def Change.apply : Change → Membership → Membership
  | .found id organization, m =>
    { organizations := m.organizations.set id organization
      memberRelation := m.memberRelation.set (organization.ownerId, id) ()
      userRoles := m.userRoles.set (organization.ownerId, id) .admin }
  | .join organizationId userId role, m =>
    { m with
      memberRelation := m.memberRelation.set (userId, organizationId) ()
      userRoles := m.userRoles.set (userId, organizationId) role }
  | .leave organizationId userId, m =>
    { m with
      memberRelation := m.memberRelation.erase (userId, organizationId)
      userRoles := m.userRoles.erase (userId, organizationId) }
  | .setRole organizationId userId role, m =>
    { m with userRoles := m.userRoles.set (userId, organizationId) role }

/-- Where a change can be made. -/
def Change.allowed : Change → Membership → Prop
  | .found id organization, m =>
    m.organizations.contains id = false ∧ m.userRoles.contains (organization.ownerId, id) = false
  | .join organizationId userId _, m =>
    m.organizations.contains organizationId = true ∧
      m.userRoles.contains (userId, organizationId) = false
  | .leave organizationId _, m => m.organizations.contains organizationId = true
  | .setRole organizationId userId _, m => m.userRoles.contains (userId, organizationId) = true

/-- The membership behind a change, if there is one. -/
def Membership.after (m : Membership) (change : Option Change) : Membership :=
  change.elim m fun change => change.apply m

/-- A user joins by the transaction of `register`. -/
def RegisterJob.joins (job : RegisterJob) : Option Change :=
  job.organization.map fun organization => .join organization.1 job.input.id organization.2.2.role

/-- A user joins by the transaction of `createUser`. -/
def CreateUserInput.joins (input : CreateUserInput) : Option Change :=
  input.organizationId.map fun organizationId =>
    .join organizationId input.id input.organizationRole

/-- What a call changes. -/
def Query.change (site : InvitationSite) (s : Store) : Query → Option Change
  | .createOrganization id orgName ownerId =>
    if (s.createOrganization id orgName ownerId).1.isOk
      then some (.found id ⟨ownerId, orgName⟩) else none
  | .joinOrganization organizationId userId role | .acceptInvite _ organizationId userId role =>
    if s.canJoin organizationId userId then some (.join organizationId userId role) else none
  | .leaveOrganization organizationId userId =>
    if s.organizations.contains organizationId then some (.leave organizationId userId) else none
  | .updateRole organizationId userId role =>
    if s.userRoles.contains (userId, organizationId) then some (.setRole organizationId userId role)
    else none
  | .commitRegistration job => if (s.register site job).isSome then RegisterJob.joins job else none
  | .commitUser callerId input => if (s.commitUser callerId input).isSome then input.joins else none
  | _ => none

section

variable {site : InvitationSite} {s t : Store} {job : RegisterJob} {organizationId : OrganizationId}
  {userId : UserId} {role : Role}

theorem canJoin_allowed (h : s.canJoin organizationId userId = true) (role : Role) :
    (Change.join organizationId userId role).allowed s.membership := by
  simp only [Store.canJoin, Bool.and_eq_true, Bool.not_eq_true'] at h
  exact ⟨h.1.1, h.2⟩

@[simp] theorem membership_withMember :
    (s.withMember organizationId userId role).membership =
      (Change.join organizationId userId role).apply s.membership := rfl

theorem consumeInvitation_membership (h : s.consumeInvitation job = some t) :
    t.membership = s.membership := by
  unfold Store.consumeInvitation at h
  split at h
  · cases h
    rfl
  split at h
  · split at h
    · cases h
      rfl
    · cases h
  · cases h

theorem consumeOrganization_membership (h : s.consumeOrganization site job = some t) :
    t.membership = s.membership := by
  unfold Store.consumeOrganization at h
  split at h
  · cases h
    rfl
  split at h
  · cases h
    rfl
  · cases h

theorem createUser_membership {id : UserId} {user : User} (h : s.createUser id user = some t) :
    t.membership = s.membership := by
  unfold Store.createUser at h
  split at h
  · cases h
  · cases h
    rfl

theorem joinInvited_membership (h : s.joinInvited job = some t) :
    t.membership = s.membership.after (RegisterJob.joins job) ∧
      ∀ change ∈ RegisterJob.joins job, change.allowed s.membership := by
  unfold Store.joinInvited at h
  split at h
  · next hnone =>
    cases h
    simp [RegisterJob.joins, hnone, Membership.after]
  · next hsome =>
    split at h
    · next hjoin =>
      cases h
      simp only [RegisterJob.joins, hsome, Option.map_some, Option.mem_def, Option.some.injEq]
      refine ⟨rfl, ?_⟩
      rintro _ rfl
      exact canJoin_allowed hjoin _
    · cases h

theorem closeRegistration_membership {first : Bool} (h : s.closeRegistration first = some t) :
    t.membership = s.membership := by
  unfold Store.closeRegistration at h
  split at h
  · obtain ⟨_, -, rfl⟩ := Option.map_eq_some_iff.mp h
    rfl
  · cases h
    rfl

/-- What a registration that goes through does to the membership. -/
theorem register_membership (h : s.register site job = some t) :
    t.membership = s.membership.after (RegisterJob.joins job) ∧
      ∀ change ∈ RegisterJob.joins job, change.allowed s.membership := by
  unfold Store.register at h
  split at h
  · cases h
  obtain ⟨u, hinvitation, h⟩ := Option.bind_eq_some_iff.mp h
  obtain ⟨consumed, horganization, h⟩ := Option.bind_eq_some_iff.mp h
  obtain ⟨created, hcreate, h⟩ := Option.bind_eq_some_iff.mp h
  obtain ⟨joined, hjoin, hclose⟩ := Option.bind_eq_some_iff.mp h
  have hsame : created.membership = s.membership := (createUser_membership hcreate).trans
    ((consumeOrganization_membership horganization).trans
      (consumeInvitation_membership hinvitation))
  rw [closeRegistration_membership hclose, ← hsame]
  exact joinInvited_membership hjoin

/-- What a new account of an administrator does to the membership. -/
theorem commitUser_membership {callerId : UserId} {input : CreateUserInput}
    (h : s.commitUser callerId input = some t) :
    t.membership = s.membership.after input.joins ∧
      ∀ change ∈ input.joins, change.allowed s.membership := by
  unfold Store.commitUser at h
  split at h
  · cases h
  obtain ⟨created, hcreate, h⟩ := Option.bind_eq_some_iff.mp h
  have hsame := createUser_membership hcreate
  rw [← hsame]
  split at h
  · next hnone =>
    cases h
    simp [CreateUserInput.joins, hnone, Membership.after]
  · next hsome =>
    split at h
    · next hjoin =>
      cases h
      simp only [CreateUserInput.joins, hsome, Option.map_some, Option.mem_def, Option.some.injEq]
      refine ⟨rfl, ?_⟩
      rintro _ rfl
      exact canJoin_allowed hjoin _
    · cases h

/-- **What a call does to the membership**, and that it is allowed. -/
theorem run_membership (site : InvitationSite) (q : Query) (s : Store) :
    (q.run site s).2.membership = s.membership.after (q.change site s) ∧
      ∀ change ∈ q.change site s, change.allowed s.membership := by
  have hnothing : s.membership = s.membership.after none ∧
      ∀ change ∈ (none : Option Change), change.allowed s.membership := ⟨rfl, by simp⟩
  have hjoin : ∀ organizationId userId role,
      (s.joinOrganization organizationId userId role).2.membership = s.membership.after
          (if s.canJoin organizationId userId
            then some (.join organizationId userId role) else none) ∧
        ∀ change ∈ (if s.canJoin organizationId userId then
          some (Change.join organizationId userId role) else none),
            change.allowed s.membership := by
    intro organizationId userId role
    unfold Store.joinOrganization
    split
    · next hjoin =>
      refine ⟨rfl, ?_⟩
      rintro _ ⟨⟩
      exact canJoin_allowed hjoin role
    · exact hnothing
  have hcommit : ∀ (made : Option Store) (joins : Option Change),
      (∀ t, made = some t → t.membership = s.membership.after joins ∧
        ∀ change ∈ joins, change.allowed s.membership) →
      (s.commit made).2.membership = s.membership.after (if made.isSome then joins else none) ∧
        ∀ change ∈ (if made.isSome then joins else none), change.allowed s.membership := by
    intro made joins hmade
    cases made with
    | none => exact hnothing
    | some t => exact hmade t rfl
  cases q with
  | createOrganization id orgName ownerId =>
    simp only [Query.run, Query.change]
    unfold Store.createOrganization
    split
    · exact hnothing
    · next hnew =>
      split
      · exact hnothing
      · refine ⟨rfl, ?_⟩
        rintro _ ⟨⟩
        simpa [Change.allowed, Store.membership] using hnew
  | joinOrganization organizationId userId role => exact hjoin organizationId userId role
  | acceptInvite token organizationId userId role => exact hjoin organizationId userId role
  | leaveOrganization organizationId userId =>
    simp only [Query.run, Query.change]
    unfold Store.leaveOrganization
    split
    · next hthere =>
      refine ⟨rfl, ?_⟩
      rintro _ ⟨⟩
      exact hthere
    · exact hnothing
  | updateRole organizationId userId role =>
    simp only [Query.run, Query.change]
    unfold Store.updateRole
    split
    · next hthere =>
      refine ⟨rfl, ?_⟩
      rintro _ ⟨⟩
      exact hthere
    · exact hnothing
  | commitRegistration job => exact hcommit _ _ fun _ => register_membership
  | commitUser callerId input => exact hcommit _ _ fun _ => commitUser_membership
  | createActivityLog performedById organizationId =>
    simp only [Query.run, Query.change]
    unfold Store.createActivityLog
    split <;> exact hnothing
  | createInvitation id inviteId organizationId row =>
    simp only [Query.run, Query.change]
    unfold Store.createInvitation
    split
    · exact hnothing
    · split <;> exact hnothing
  | deleteInvite organizationId inviteId =>
    simp only [Query.run, Query.change]
    unfold Store.deleteInvite
    split <;> exact hnothing
  | _ => exact hnothing

end

/-! ## 2. The two tables agree -/

/-- The user is connected to the organization. -/
def Membership.connected (m : Membership) (userId : UserId)
    (organizationId : OrganizationId) : Bool :=
  m.memberRelation.contains (userId, organizationId)

/-- The number of rows of `UserOrganizationRole` for the user and the organization. -/
def Membership.roleRows (m : Membership) (userId : UserId)
    (organizationId : OrganizationId) : Nat :=
  m.userRoles.keys.count (userId, organizationId)

/-- **The tables agree**: a user is connected where there is a row with a role, and there is one at
most. -/
structure Membership.TablesAgree (m : Membership) : Prop where
  connected_iff : ∀ userId organizationId,
    m.connected userId organizationId = true ↔ 0 < m.roleRows userId organizationId
  single : ∀ userId organizationId, m.roleRows userId organizationId ≤ 1

section

variable {m : Membership} {change : Change} {site : InvitationSite}

/-- A table has one row at most for a key, so the tables agree where they have the same keys. -/
theorem tablesAgree_iff :
    m.TablesAgree ↔ ∀ key, m.memberRelation.contains key = m.userRoles.contains key := by
  have hrows : ∀ key, 0 < m.userRoles.keys.count key ↔ m.userRoles.contains key = true := by
    intro key
    rw [List.count_pos_iff, Dict.mem_keys_iff, Dict.contains_iff]
  constructor
  · intro h key
    exact Bool.eq_iff_iff.mpr ((h.connected_iff key.1 key.2).trans (hrows key))
  · intro h
    refine ⟨fun userId organizationId => ?_, fun userId organizationId => ?_⟩
    · rw [Membership.connected, h]
      exact (hrows _).symm
    · exact List.nodup_iff_count_le_one.mp m.userRoles.nodup _

/-- **A change keeps the agreement.** -/
theorem apply_tablesAgree (hallowed : change.allowed m) (h : m.TablesAgree) :
    (change.apply m).TablesAgree := by
  rw [tablesAgree_iff] at h ⊢
  intro key
  cases change with
  | found id organization | join organizationId userId role =>
    simp only [Change.apply, Dict.contains_set, h key]
  | leave organizationId userId => simp only [Change.apply, Dict.contains_erase, h key]
  | setRole organizationId userId role =>
    -- the row is there already
    simp only [Change.apply, Dict.contains_set, h key]
    by_cases hkey : (userId, organizationId) = key
    · subst hkey
      rw [show m.userRoles.contains (userId, organizationId) = true from hallowed, Bool.or_true]
    · simp [hkey]

theorem handle_tablesAgree (site : InvitationSite) (act : Act) (s : Store)
    (h : s.membership.TablesAgree) :
    (handle site act s).2.membership.TablesAgree := by
  refine faulty_respects (R := fun s t => s.membership.TablesAgree → t.membership.TablesAgree)
    (fun _ h => h) (fun query s h => ?_) act s h
  obtain ⟨hafter, hallowed⟩ := run_membership site query s
  rw [hafter]
  cases hchange : query.change site s with
  | none => exact h
  | some change => exact apply_tablesAgree (hallowed change hchange) h

/-- **Membership and role tables agree.**  From tables that agree, they agree after every run of any
requests, in whatever order their calls are made and whichever of them fail. -/
theorem tables_agree (site : InvitationSite) (store : Store) (hstore : store.membership.TablesAgree)
    (events : List (PoolEvent Op)) {w : PoolState Act (Call.Ans Query.Ans) Failure Unit Store}
    (hrun : (organizationMachine site).run ⟨store, []⟩ events = some w) :
    w.state.membership.TablesAgree := by
  refine (pool_keeps (R := fun _ _ => True) (Q := fun _ _ => True) (fun _ => trivial)
    (fun _ _ _ _ _ => trivial) (fun _ _ => Prog.steady_of_forall fun _ _ _ => ⟨trivial, trivial⟩)
    (fun act s h _ => handle_tablesAgree site act s h) hstore (by simp) hrun).1

end

/-- Nothing is trimmed, no token decodes, no token is refused. -/
def plainSite : InvitationSite := ⟨fun _ => none, fun _ => true, id, id⟩

/-- Everything goes through. -/
def plainPlan : Plan := ⟨fun _ => .done, fun _ => .ok ()⟩

/-- User 1 owns organization 10 and is its administrator, user 2 is a member, user 3 is none. -/
def exampleStore : Store where
  now := 0
  globalOptions := some false
  users := ((Dict.empty.set 1 ⟨"ada@example.org", "Ada", .admin⟩).set 2
    ⟨"ben@example.org", "Ben", .user⟩).set 3 ⟨"cleo@example.org", "Cleo", .user⟩
  organizations := Dict.empty.set 10 ⟨1, "office"⟩
  memberRelation := (Dict.empty.set (1, 10) ()).set (2, 10) ()
  userRoles := (Dict.empty.set (1, 10) .admin).set (2, 10) .user
  invitations := Dict.empty
  organizationInvitations := Dict.empty
  activityLog := []

theorem exampleStore_agrees : exampleStore.membership.TablesAgree := by
  rw [tablesAgree_iff]
  intro key
  simp only [exampleStore, Store.membership, Dict.contains_set]
  rfl

/-- A request to which nothing happens. -/
def plain (request : Request) : PoolEvent Op := .start ⟨plainPlan, request⟩

/-- Two requests to add user 3, at once. -/
def addTwice : List (PoolEvent Op) :=
  plain (.addUser 1 10 3 .user) :: plain (.addUser 1 10 3 .admin) ::
    [0, 1, 0, 1, 0, 1, 0, 1].map PoolEvent.step

/-- The second one fails, and the tables agree. -/
theorem tables_agree_twice :
    ∃ w, (organizationMachine plainSite).run ⟨exampleStore, []⟩ addTwice = some w ∧
      w.state.membership.userRoles.get? (3, 10) = some .user ∧ w.state.membership.TablesAgree :=
  Machine.exists_run
    (P := fun w => w.state.membership.userRoles.get? (3, 10) = some .user) (by decide +kernel)
    fun _ hw hrole => ⟨hrole, tables_agree plainSite exampleStore exampleStore_agrees addTwice hw⟩

/-! ## 3. Every organization keeps an administrator -/

/-- The members of an organization who are administrators there. -/
def Membership.administrators (m : Membership) (organizationId : OrganizationId) : List UserId :=
  (m.userRoles.entries.filter fun entry =>
    entry.1.2 = organizationId && entry.2 = .admin && m.memberRelation.contains entry.1).map
    fun entry => entry.1.1

/-- **Every organization has an administrator.** -/
def Membership.Administered (m : Membership) : Prop :=
  ∀ organizationId ∈ m.organizations.keys, m.administrators organizationId ≠ []

instance (m : Membership) : Decidable m.Administered := List.decidableBAll _ _

/-- The organization has an administrator besides the user. -/
def Membership.othersAdminister (m : Membership) (organizationId : OrganizationId)
    (userId : UserId) :
    Bool :=
  (m.administrators organizationId).any fun other => other ≠ userId

/-- The change leaves an administrator to the organization. -/
def Change.spares (m : Membership) : Change → Prop
  | .setRole organizationId userId role =>
    m.organizations.contains organizationId = true → role = .admin ∨
      m.othersAdminister organizationId userId = true
  | .leave organizationId userId => m.othersAdminister organizationId userId = true
  | .found _ _ | .join _ _ _ => True

instance (m : Membership) : ∀ change : Change, Decidable (change.spares m)
  | .setRole _ _ _ => inferInstanceAs (Decidable (_ → _))
  | .leave _ _ => inferInstanceAs (Decidable (_ = true))
  | .found _ _ | .join _ _ _ => isTrue trivial

/-- What a call changes leaves an administrator to the organization. -/
def SparesAdministrators (site : InvitationSite) (act : Act) (s : Store) : Prop :=
  act.takesEffect = true → ∀ change ∈ act.query.change site s, change.spares s.membership

instance (site : InvitationSite) (act : Act) (s : Store) :
    Decidable (SparesAdministrators site act s) :=
  inferInstanceAs (Decidable (_ → ∀ _ ∈ (_ : Option Change), _))

section

variable {m : Membership} {change : Change} {organizationId : OrganizationId} {userId : UserId}
  {site : InvitationSite}

theorem mem_administrators : userId ∈ m.administrators organizationId ↔
    m.connected userId organizationId = true ∧
      m.userRoles.get? (userId, organizationId) = some .admin := by
  simp only [Membership.administrators, List.mem_map, List.mem_filter, Bool.and_eq_true,
    decide_eq_true_eq, Dict.get?_eq_some_iff]
  constructor
  · rintro ⟨⟨⟨user, organization⟩, role⟩, ⟨hmem, ⟨rfl, rfl⟩, hconnected⟩, rfl⟩
    exact ⟨hconnected, hmem⟩
  · rintro ⟨hconnected, hmem⟩
    exact ⟨((userId, organizationId), .admin), ⟨hmem, ⟨rfl, rfl⟩, hconnected⟩, rfl⟩

theorem administered_iff : m.Administered ↔ ∀ organizationId,
    m.organizations.contains organizationId = true → ∃ userId,
      userId ∈ m.administrators organizationId := by
  simp only [Membership.Administered, Dict.mem_keys_iff, Dict.contains_iff]
  refine forall₂_congr fun organizationId _ => ⟨List.exists_mem_of_ne_nil _, ?_⟩
  rintro ⟨userId, hmem⟩
  exact List.ne_nil_of_mem hmem

theorem othersAdminister_iff : m.othersAdminister organizationId userId = true ↔
    ∃ other ∈ m.administrators organizationId, other ≠ userId := by
  simp [Membership.othersAdminister]

/-- The row that a change is about. -/
def Change.key : Change → UserId × OrganizationId
  | .found id organization => (organization.ownerId, id)
  | .join organizationId userId _ | .leave organizationId userId
  | .setRole organizationId userId _ => (userId, organizationId)

/-- The user whom a change is about is an administrator behind it. -/
def Change.makesAdministrator : Change → Bool
  | .found _ _ => true
  | .join _ _ role | .setRole _ _ role => role = .admin
  | .leave _ _ => false

/-- **The frame of a change**: its rows are those of its key. -/
theorem apply_frame {key : UserId × OrganizationId} (hkey : change.key ≠ key) :
    (change.apply m).memberRelation.contains key = m.memberRelation.contains key ∧
      (change.apply m).userRoles.get? key = m.userRoles.get? key := by
  cases change with
  | found id organization | join o u role =>
    have hne : (_, _) ≠ key := hkey
    simp [Change.apply, Dict.contains_set, Dict.get?_set_ne _ hne, hne]
  | leave o u =>
    have hne : (u, o) ≠ key := hkey
    simp [Change.apply, Dict.contains_erase, Dict.get?_erase, hne]
  | setRole o u role => exact ⟨rfl, Dict.get?_set_ne _ hkey _⟩

/-- **Who is an administrator behind a change.** -/
theorem mem_administrators_apply (hallowed : change.allowed m) (hm : m.TablesAgree) :
    userId ∈ (change.apply m).administrators organizationId ↔
      if change.key = (userId, organizationId) then change.makesAdministrator = true
      else userId ∈ m.administrators organizationId := by
  rw [mem_administrators, mem_administrators, Membership.connected, Membership.connected]
  by_cases hkey : change.key = (userId, organizationId)
  · rw [if_pos hkey, ← hkey]
    cases change with
    | found id organization | join o u role =>
      simp [Change.apply, Change.key, Change.makesAdministrator, Dict.contains_set]
    | leave o u => simp [Change.apply, Change.key, Change.makesAdministrator, Dict.contains_erase]
    | setRole o u role =>
      -- the user has a role already, so the two are connected
      have hconnected : m.memberRelation.contains (u, o) = true := by
        rw [tablesAgree_iff.mp hm]
        exact hallowed
      simp [Change.apply, Change.key, Change.makesAdministrator, hconnected]
  · obtain ⟨hconnected, hrole⟩ := apply_frame (m := m) hkey
    rw [if_neg hkey, hconnected, hrole]

/-- An administrator whom a change is not about stays one. -/
theorem administrator_remains (hallowed : change.allowed m) (hm : m.TablesAgree)
    (h : userId ∈ m.administrators organizationId) (hkey : change.key ≠ (userId, organizationId)) :
    userId ∈ (change.apply m).administrators organizationId := by
  rw [mem_administrators_apply hallowed hm, if_neg hkey]
  exact h

/-- Where the change is about a member, the organization keeps an administrator exactly if the
member is one behind it, or another one is. -/
theorem administrators_member_iff (hallowed : change.allowed m) (hm : m.TablesAgree)
    (hkey : change.key = (userId, organizationId)) :
    (∃ user, user ∈ (change.apply m).administrators organizationId) ↔
      change.makesAdministrator = true ∨ m.othersAdminister organizationId userId = true := by
  rw [othersAdminister_iff]
  constructor
  · rintro ⟨user, huser⟩
    rw [mem_administrators_apply hallowed hm] at huser
    split at huser
    · exact .inl huser
    · next hother =>
      refine .inr ⟨user, huser, fun hsame => hother ?_⟩
      rw [hkey, hsame]
  · rintro (hmakes | ⟨other, hother, hne⟩)
    · refine ⟨userId, ?_⟩
      rw [mem_administrators_apply hallowed hm, if_pos hkey]
      exact hmakes
    · refine ⟨other, administrator_remains hallowed hm hother fun hsame => hne ?_⟩
      rw [hkey] at hsame
      exact (Prod.mk.inj hsame).1.symm

/-- An organization that the change is not about keeps its administrators. -/
theorem administrators_elsewhere (hallowed : change.allowed m) (hm : m.TablesAgree)
    (hkey : change.key.2 ≠ organizationId) (h : ∃ user, user ∈ m.administrators organizationId) :
    ∃ user, user ∈ (change.apply m).administrators organizationId := by
  obtain ⟨user, huser⟩ := h
  refine ⟨user, administrator_remains hallowed hm huser fun hsame => hkey ?_⟩
  rw [hsame]

/-- **A change keeps the administrators exactly if it leaves one to its organization.** -/
theorem apply_administered_iff (hallowed : change.allowed m) (hm : m.TablesAgree)
    (h : m.Administered) : (change.apply m).Administered ↔ change.spares m := by
  rw [administered_iff] at h ⊢
  have helsewhere : ∀ organizationId, change.key.2 ≠ organizationId →
      m.organizations.contains organizationId = true →
      ∃ user, user ∈ (change.apply m).administrators organizationId :=
    fun organizationId hkey hthere => administrators_elsewhere hallowed hm hkey (h _ hthere)
  cases change with
  | found id organization =>
    refine iff_of_true (fun organizationId hthere => ?_) trivial
    by_cases hid : id = organizationId
    · subst hid
      exact (administrators_member_iff hallowed hm rfl).mpr (.inl rfl)
    · rw [Change.apply, Dict.contains_set, decide_eq_false hid, Bool.false_or] at hthere
      exact helsewhere organizationId hid hthere
  | join o u role =>
    refine iff_of_true (fun organizationId hthere => ?_) trivial
    by_cases ho : o = organizationId
    · subst ho
      obtain ⟨user, huser⟩ := h o hthere
      -- the user has had no role, so the administrator is another one
      refine ⟨user, administrator_remains hallowed hm huser fun hsame => ?_⟩
      have hrole := (mem_administrators.mp huser).2
      rw [← hsame] at hrole
      have hnone : m.userRoles.contains (u, o) = false := hallowed.2
      rw [Dict.contains, show m.userRoles.get? (u, o) = some .admin from hrole] at hnone
      cases hnone
    · exact helsewhere organizationId ho hthere
  | leave o u =>
    constructor
    · intro hafter
      have hone := (administrators_member_iff hallowed hm rfl).mp (hafter o hallowed)
      exact hone.resolve_left Bool.false_ne_true
    · intro hspares organizationId hthere
      by_cases ho : o = organizationId
      · subst ho
        exact (administrators_member_iff hallowed hm rfl).mpr (.inr hspares)
      · exact helsewhere organizationId ho hthere
  | setRole o u role =>
    constructor
    · intro hafter hthere
      have hone := (administrators_member_iff hallowed hm rfl).mp (hafter o hthere)
      exact hone.imp_left of_decide_eq_true
    · intro hspares organizationId hthere
      by_cases ho : o = organizationId
      · subst ho
        refine (administrators_member_iff hallowed hm rfl).mpr ?_
        exact (hspares hthere).imp_left decide_eq_true
      · exact helsewhere organizationId ho hthere

/-- What a run keeps. -/
structure Governed (s : Store) : Prop where
  agree : s.membership.TablesAgree
  administered : s.membership.Administered

/-- **What a call does to the administrators.** -/
theorem run_governed_iff (query : Query) (s : Store) (hs : Governed s) :
    Governed (query.run site s).2 ↔ ∀ change ∈ query.change site s, change.spares s.membership := by
  obtain ⟨hafter, hallowed⟩ := run_membership site query s
  have hagree := handle_tablesAgree site ⟨query, .done⟩ s hs.agree
  cases hchange : query.change site s with
  | none =>
    rw [hchange] at hafter
    refine iff_of_true ⟨hagree, ?_⟩ (by simp)
    rw [hafter]
    exact hs.administered
  | some change =>
    rw [hchange] at hafter
    have hiff := apply_administered_iff (hallowed change hchange) hs.agree hs.administered
    constructor
    · rintro h _ ⟨⟩
      have hadministered := h.administered
      rw [hafter] at hadministered
      exact hiff.mp hadministered
    · intro hspares
      refine ⟨hagree, ?_⟩
      rw [hafter]
      exact hiff.mpr (hspares change rfl)

theorem handle_governed_iff (act : Act) (s : Store) (hs : Governed s) :
    Governed (handle site act s).2 ↔ SparesAdministrators site act s :=
  faulty_iff run_governed_iff act s hs

/-- **Every organization keeps an administrator, exactly.**  From tables that agree and in which
every organization has an administrator, the organizations have administrators in all states of a
run, if and only if no call takes the last one away: whenever a role is set to another one than
`ADMIN`, or a member is taken out, the organization has another administrator in that state. -/
theorem administrators_remain_iff (site : InvitationSite) (store : Store)
    (hagree : store.membership.TablesAgree) (hstore : store.membership.Administered)
    (events : List (PoolEvent Op)) :
    (∀ es, es <+: events → ∀ w, (organizationMachine site).run ⟨store, []⟩ es = some w →
        Governed w.state) ↔
      (organizationMachine site).Conforms (PoolState.meets (SparesAdministrators site)) ⟨store, []⟩
        events :=
  pool_invariant_iff handle_governed_iff ⟨hagree, hstore⟩ events

end

/-- User 2 is made an administrator, and leaves. -/
def promotedLeaves : List (PoolEvent Op) :=
  plain (.changeUserRole 1 (some 10) 2 "ADMIN") :: List.replicate 5 (.step 0) ++
    plain (.leave 2 10 2) :: List.replicate 5 (.step 1)

/-- The owner is still an administrator. -/
theorem administrators_remain_promoted :
    ∃ w, (organizationMachine plainSite).run ⟨exampleStore, []⟩ promotedLeaves =
      some w ∧ w.finished ∧
      w.state.membership.connected 2 10 = false ∧ Governed w.state := by
  refine Machine.exists_run (P := fun w => w.finished ∧ w.state.membership.connected 2 10 = false)
    (by decide +kernel) fun w hw h => ⟨h.1, h.2, ?_⟩
  exact (administrators_remain_iff plainSite exampleStore exampleStore_agrees (by decide +kernel)
    promotedLeaves).mpr (by decide +kernel) _ (List.prefix_refl _) w hw

/-- User 2 is made an administrator, takes the role from the owner, and leaves. -/
def ownerDemoted : List (PoolEvent Op) :=
  plain (.changeUserRole 1 (some 10) 2 "ADMIN") :: List.replicate 5 (.step 0) ++
    plain (.changeUserRole 2 (some 10) 1 "USER") :: List.replicate 5 (.step 1) ++
      plain (.leave 2 10 2) :: List.replicate 5 (.step 2)

/-- User 2 is made an administrator, and the two take the role from each other at once. -/
def mutualDemotion : List (PoolEvent Op) :=
  plain (.changeUserRole 1 (some 10) 2 "ADMIN") :: List.replicate 5 (.step 0) ++
    plain (.changeUserRole 1 (some 10) 2 "USER") :: plain (.changeUserRole 2 (some 10) 1 "USER") ::
      [1, 2, 1, 2, 1, 2, 1, 2, 1, 2].map PoolEvent.step

/-- **An organization without an administrator**, by requests one after the other and by two at
once. -/
theorem administrators_lost :
    Governed exampleStore ∧
      (∃ w, (organizationMachine plainSite).run ⟨exampleStore, []⟩ ownerDemoted = some w ∧
        w.finished ∧ w.state.organizations.contains 10 = true ∧
        w.state.membership.administrators 10 = []) ∧
      ∃ w, (organizationMachine plainSite).run ⟨exampleStore, []⟩ mutualDemotion = some w ∧
        w.finished ∧ w.state.organizations.contains 10 = true ∧
        w.state.membership.administrators 10 = [] := by
  refine ⟨⟨exampleStore_agrees, by decide +kernel⟩, ?_, ?_⟩
  · exact Machine.exists_run (by decide +kernel) fun w _ h => h
  · exact Machine.exists_run (by decide +kernel) fun w _ h => h

end ZtPlanet.Ztnet.Organizations
