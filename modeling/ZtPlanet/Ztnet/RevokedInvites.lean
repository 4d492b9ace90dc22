/-
# Revoked invitations

An invitation to an organization is two rows: `Invitation`, with the token, and
`OrganizationInvitation`, which names the organization.  `deleteInvite` deletes the second one only.
Registration looks the token up by the second row, so it refuses a revoked token; a user who has an
account already joins by `preValidateUserInvite`, which looks it up by the first row and never asks
for the second.

`revoked_iff` is about the requests that are started once `deleteInvite` has gone through: none of
them adds a user by the token, exactly if none comes to the write of `preValidateUserInvite` where
the account can still join.  A request that is alone comes there where `Honours` says
(`preValidateUserInvite_alone_iff`), and one that does not find the invitation when it reads it
never does, whatever the others do (`readsNothing_adds_nobody`).
-/
import ZtPlanet.Ztnet.OrganizationOwners

namespace ZtPlanet.Ztnet.Organizations

open ZtPlanet.Lib ZtPlanet.Ztnet.Invitations

/-! ## 1. Invitations and their rows -/

/-- A row of `OrganizationInvitation` with its invitation. -/
def Store.Linked (s : Store) (inviteId : OrganizationInvitationId)
    (invite : OrganizationInvitationRow)
    (row : InvitationRow) : Prop :=
  s.organizationInvitations.get? inviteId = some invite ∧
    s.invitations.get? invite.invitationId = some row

instance (s : Store) (inviteId : OrganizationInvitationId) (invite : OrganizationInvitationRow)
    (row : InvitationRow) : Decidable (s.Linked inviteId invite row) :=
  inferInstanceAs (Decidable (_ ∧ _))

/-- What the database keeps about invitations: a row of `OrganizationInvitation` has its invitation,
which has one such row, and a token is that of one invitation. -/
structure Store.WellLinked (s : Store) : Prop where
  foreign : ∀ inviteId invite, s.organizationInvitations.get? inviteId = some invite →
    ∃ row, s.invitations.get? invite.invitationId = some row
  once : ∀ inviteId inviteId' invite invite',
    s.organizationInvitations.get? inviteId = some invite →
    s.organizationInvitations.get? inviteId' = some invite' →
    invite.invitationId = invite'.invitationId → inviteId = inviteId'
  unique : ∀ id id' row row', s.invitations.get? id = some row →
    s.invitations.get? id' = some row' →
    row.token = row'.token → id = id'

/-- **The token is revoked**: no row of `OrganizationInvitation` leads to it. -/
def Store.Revoked (s : Store) (token : Token) : Prop :=
  ∀ inviteId invite row, s.Linked inviteId invite row → row.token ≠ token

/-- The rows of the second store are among those of the first, up to how often they have been used.
-/
structure Fewer (s t : Store) : Prop where
  invites : ∀ inviteId invite, t.organizationInvitations.get? inviteId = some invite →
    s.organizationInvitations.get? inviteId = some invite
  rows : ∀ id row, t.invitations.get? id = some row →
    ∃ row', s.invitations.get? id = some row' ∧ row'.token = row.token
  foreign : ∀ inviteId invite, t.organizationInvitations.get? inviteId = some invite →
    (s.invitations.get? invite.invitationId).isSome →
    (t.invitations.get? invite.invitationId).isSome

section

variable {site : InvitationSite} {s t u : Store} {token : Token} {job : RegisterJob}

theorem Fewer.refl (s : Store) : Fewer s s :=
  ⟨fun _ _ h => h, fun _ row h => ⟨row, h, rfl⟩, fun _ _ _ h => h⟩

theorem Fewer.trans (h : Fewer s t) (h' : Fewer t u) : Fewer s u where
  invites inviteId invite hinvite := h.invites _ _ (h'.invites _ _ hinvite)
  rows id row hrow := by
    obtain ⟨row', hrow', htoken'⟩ := h'.rows id row hrow
    obtain ⟨row'', hrow'', htoken''⟩ := h.rows id row' hrow'
    exact ⟨row'', hrow'', htoken''.trans htoken'⟩
  foreign inviteId invite hinvite hthere :=
    h'.foreign inviteId invite hinvite (h.foreign inviteId invite (h'.invites _ _ hinvite) hthere)

/-- Stores with the same invitations. -/
theorem Fewer.of_eq (hrows : t.invitations = s.invitations)
    (hinvites : t.organizationInvitations = s.organizationInvitations) : Fewer s t := by
  constructor
  · rw [hinvites]
    exact fun _ _ h => h
  · rw [hrows]
    exact fun _ row h => ⟨row, h, rfl⟩
  · rw [hrows]
    exact fun _ _ _ h => h

theorem Fewer.dropInvitations (s : Store) (p : InvitationId → InvitationRow → Bool) :
    Fewer s (s.dropInvitations p) where
  invites inviteId invite h := by
    rw [Store.dropInvitations, Dict.get?_filter] at h
    exact (Option.filter_eq_some_iff.mp h).1
  rows id row h := by
    rw [Store.dropInvitations, Dict.get?_filter] at h
    exact ⟨row, (Option.filter_eq_some_iff.mp h).1, rfl⟩
  foreign inviteId invite hinvite hthere := by
    rw [Store.dropInvitations, Dict.get?_filter] at hinvite
    obtain ⟨row, hrow⟩ := Option.isSome_iff_exists.mp hthere
    have hkept := (Option.filter_eq_some_iff.mp hinvite).2
    rw [hrow] at hkept
    rw [Store.dropInvitations, Dict.get?_filter, hrow,
      Option.filter_some_pos (by simpa using hkept)]
    rfl

theorem Fewer.consumeInvitation (h : s.consumeInvitation job = some t) : Fewer s t := by
  unfold Store.consumeInvitation at h
  split at h
  · cases h
    exact .refl s
  split at h
  · next read _ row hrow =>
    split at h
    · cases h
      refine ⟨fun _ _ h => h, fun id row' h => ?_, fun _ invite _ h => ?_⟩
      · rw [Dict.get?_set] at h
        split at h
        · next hid =>
          cases h
          exact ⟨row, hid ▸ hrow, rfl⟩
        · exact ⟨row', h, rfl⟩
      · rw [Dict.get?_set]
        split
        · rfl
        · exact h
    · cases h
  · cases h

theorem Fewer.consumeOrganization (h : s.consumeOrganization site job = some t) : Fewer s t := by
  unfold Store.consumeOrganization at h
  split at h
  · cases h
    exact .refl s
  split at h
  · cases h
    exact .dropInvitations s _
  · cases h

theorem Fewer.createUser {id : UserId} {user : User} (h : s.createUser id user = some t) :
    Fewer s t := by
  unfold Store.createUser at h
  split at h
  · cases h
  · cases h
    exact .of_eq rfl rfl

theorem Fewer.joinInvited (h : s.joinInvited job = some t) : Fewer s t := by
  unfold Store.joinInvited at h
  split at h
  · cases h
    exact .refl s
  split at h
  · cases h
    exact .of_eq rfl rfl
  · cases h

theorem Fewer.closeRegistration {first : Bool} (h : s.closeRegistration first = some t) :
    Fewer s t := by
  unfold Store.closeRegistration at h
  split at h
  · obtain ⟨_, -, rfl⟩ := Option.map_eq_some_iff.mp h
    exact .of_eq rfl rfl
  · cases h
    exact .refl s

theorem Fewer.register (h : s.register site job = some t) : Fewer s t := by
  unfold Store.register at h
  split at h
  · cases h
  obtain ⟨u, hinvitation, h⟩ := Option.bind_eq_some_iff.mp h
  obtain ⟨consumed, horganization, h⟩ := Option.bind_eq_some_iff.mp h
  obtain ⟨created, hcreate, h⟩ := Option.bind_eq_some_iff.mp h
  obtain ⟨joined, hjoin, hclose⟩ := Option.bind_eq_some_iff.mp h
  exact (Fewer.consumeInvitation hinvitation).trans <|
    (Fewer.consumeOrganization horganization).trans <|
    (Fewer.createUser hcreate).trans <| (Fewer.joinInvited hjoin).trans <| .closeRegistration hclose

theorem Fewer.commitUser {callerId : UserId} {input : CreateUserInput}
    (h : s.commitUser callerId input = some t) : Fewer s t := by
  unfold Store.commitUser at h
  split at h
  · cases h
  obtain ⟨created, hcreate, h⟩ := Option.bind_eq_some_iff.mp h
  refine (Fewer.createUser hcreate).trans ?_
  split at h
  · cases h
    exact .refl _
  split at h
  · cases h
    exact .of_eq rfl rfl
  · cases h

/-- The store with a new invitation. -/
def Store.withInvitation (s : Store) (id : InvitationId) (inviteId : OrganizationInvitationId)
    (organizationId : OrganizationId) (row : InvitationRow) : Store :=
  { s with
    invitations := s.invitations.set id row
    organizationInvitations := s.organizationInvitations.set inviteId ⟨id, organizationId⟩ }

/-- **What a call does to the invitations**: it takes some away, or it makes a new one. -/
theorem run_invitations (site : InvitationSite) (q : Query) (s : Store) :
    Fewer s (q.run site s).2 ∨
    ∃ id inviteId organizationId row, q = .createInvitation id inviteId organizationId row ∧
      s.invitations.get? id = none ∧ s.findInvitation row.token = none ∧
      (q.run site s).2 = s.withInvitation id inviteId organizationId row := by
  cases q with
  | createOrganization id orgName ownerId =>
    refine .inl ?_
    simp only [Query.run]
    unfold Store.createOrganization
    split
    · exact .refl s
    · split
      · exact .refl s
      · exact .of_eq rfl rfl
  | joinOrganization organizationId userId role | acceptInvite token organizationId userId role =>
    refine .inl ?_
    simp only [Query.run]
    unfold Store.joinOrganization
    split
    · exact .of_eq rfl rfl
    · exact .refl s
  | leaveOrganization organizationId userId =>
    refine .inl ?_
    simp only [Query.run]
    unfold Store.leaveOrganization
    split
    · exact .of_eq rfl rfl
    · exact .refl s
  | updateRole organizationId userId role =>
    refine .inl ?_
    simp only [Query.run]
    unfold Store.updateRole
    split
    · exact .of_eq rfl rfl
    · exact .refl s
  | createActivityLog performedById organizationId =>
    refine .inl ?_
    simp only [Query.run]
    unfold Store.createActivityLog
    split
    · exact .of_eq rfl rfl
    · exact .refl s
  | deleteInvitations email organizationId => exact .inl (.dropInvitations s _)
  | deleteInvite organizationId inviteId =>
    refine .inl ?_
    simp only [Query.run]
    unfold Store.deleteInvite
    split
    · refine ⟨fun id invite h => ?_, fun _ row h => ⟨row, h, rfl⟩, fun _ _ _ h => h⟩
      rw [Dict.get?_erase] at h
      exact (Option.ite_none_left_eq_some.mp h).2
    · exact .refl s
  | commitRegistration job =>
    refine .inl ?_
    simp only [Query.run]
    unfold Store.commit
    split
    · next hmade => exact .register hmade
    · exact .refl s
  | commitUser callerId input =>
    refine .inl ?_
    simp only [Query.run]
    unfold Store.commit
    split
    · next hmade => exact .commitUser hmade
    · exact .refl s
  | createInvitation id inviteId organizationId row =>
    simp only [Query.run]
    unfold Store.createInvitation
    split
    · exact .inl (.refl s)
    · next hnew =>
      split
      · exact .inl (.refl s)
      · simp only [Bool.or_eq_true, not_or, Bool.not_eq_true, Dict.contains,
          Option.isSome_eq_false_iff,
          Option.isNone_iff_eq_none] at hnew
        exact .inr ⟨id, inviteId, organizationId, row, rfl, hnew.1.1, hnew.2, rfl⟩
  | _ => exact .inl (.of_eq rfl rfl)

/-! ## 2. What a run keeps -/

theorem Store.WellLinked.fewer (h : s.WellLinked) (hfewer : Fewer s t) : t.WellLinked where
  foreign inviteId invite hinvite := by
    obtain ⟨row, hrow⟩ := h.foreign inviteId invite (hfewer.invites _ _ hinvite)
    exact Option.isSome_iff_exists.mp
      (hfewer.foreign inviteId invite hinvite (Option.isSome_iff_exists.mpr ⟨row, hrow⟩))
  once inviteId inviteId' invite invite' hinvite hinvite' :=
    h.once _ _ _ _ (hfewer.invites _ _ hinvite) (hfewer.invites _ _ hinvite')
  unique id id' row row' hrow hrow' htoken := by
    obtain ⟨old, hold, hsame⟩ := hfewer.rows id row hrow
    obtain ⟨old', hold', hsame'⟩ := hfewer.rows id' row' hrow'
    exact h.unique id id' old old' hold hold' ((hsame.trans htoken).trans hsame'.symm)

/-- No invitation has a token that is not found. -/
theorem token_ne_of_find (h : s.findInvitation token = none) {id : InvitationId}
    {row : InvitationRow}
    (hrow : s.invitations.get? id = some row) : row.token ≠ token := by
  have hnot := List.find?_eq_none.mp h (id, row) (Dict.get?_eq_some_iff.mp hrow)
  simpa using hnot

/-- A new invitation, where neither its id nor its token is there. -/
theorem Store.WellLinked.withInvitation (h : s.WellLinked) {id : InvitationId}
    {inviteId : OrganizationInvitationId} {organizationId : OrganizationId} {row : InvitationRow}
    (hid : s.invitations.get? id = none) (htoken : s.findInvitation row.token = none) :
    (s.withInvitation id inviteId organizationId row).WellLinked := by
  -- no row that is there already leads to the new invitation
  have hother : ∀ inviteId invite, s.organizationInvitations.get? inviteId = some invite →
      invite.invitationId ≠ id := by
    rintro inviteId invite hinvite rfl
    obtain ⟨_, hrow⟩ := h.foreign inviteId invite hinvite
    rw [hid] at hrow
    cases hrow
  constructor
  · intro i invite hinvite
    simp only [Store.withInvitation, Dict.get?_set] at hinvite ⊢
    split at hinvite
    · cases hinvite
      exact ⟨row, if_pos rfl⟩
    · rw [if_neg (hother i invite hinvite).symm]
      exact h.foreign i invite hinvite
  · intro i i' invite invite' hinvite hinvite' hsame
    simp only [Store.withInvitation, Dict.get?_set] at hinvite hinvite'
    split at hinvite
    · next hi =>
      cases hinvite
      split at hinvite'
      · next hi' => exact hi.symm.trans hi'
      · exact absurd hsame.symm (hother i' invite' hinvite')
    · split at hinvite'
      · cases hinvite'
        exact absurd hsame (hother i invite hinvite)
      · exact h.once i i' invite invite' hinvite hinvite' hsame
  · intro j j' old old' hold hold' hsame
    simp only [Store.withInvitation, Dict.get?_set] at hold hold'
    split at hold
    · next hj =>
      cases hold
      split at hold'
      · next hj' => exact hj.symm.trans hj'
      · exact absurd hsame.symm (token_ne_of_find htoken hold')
    · split at hold'
      · cases hold'
        exact absurd hsame (token_ne_of_find htoken hold)
      · exact h.unique j j' old old' hold hold' hsame

theorem handle_wellLinked (site : InvitationSite) (act : Act) (s : Store) (h : s.WellLinked) :
    (handle site act s).2.WellLinked := by
  refine faulty_respects (R := fun s t => s.WellLinked → t.WellLinked) (fun _ h => h)
    (fun query s h => ?_) act s h
  rcases run_invitations site query s with hfewer | ⟨id, inviteId, o, row, -, hid, htoken, hrun⟩
  · exact h.fewer hfewer
  · rw [hrun]
    exact h.withInvitation hid htoken

theorem Store.Revoked.fewer (h : s.Revoked token) (hfewer : Fewer s t) : t.Revoked token := by
  rintro inviteId invite row ⟨hinvite, hrow⟩
  obtain ⟨old, hold, hsame⟩ := hfewer.rows invite.invitationId row hrow
  exact hsame ▸ h inviteId invite old ⟨hfewer.invites _ _ hinvite, hold⟩

theorem Store.Revoked.withInvitation (h : s.Revoked token) {id : InvitationId}
    {inviteId : OrganizationInvitationId} {organizationId : OrganizationId} {row : InvitationRow}
    (htoken : row.token ≠ token) :
    (s.withInvitation id inviteId organizationId row).Revoked token := by
  rintro i invite row' ⟨hinvite, hrow⟩
  simp only [Store.withInvitation, Dict.get?_set] at hinvite hrow
  split at hrow
  · cases hrow
    exact htoken
  · next hother =>
    split at hinvite
    · cases hinvite
      exact absurd rfl hother
    · exact h i invite row' ⟨hinvite, hrow⟩

/-- **`deleteInvite` revokes the token** of the invitation that it takes the organization from. -/
theorem revoked_of_deleteInvite (h : s.WellLinked) {organizationId : OrganizationId}
    {inviteId : OrganizationInvitationId} {invitationId : InvitationId} {row : InvitationRow}
    (hlinked : s.Linked inviteId ⟨invitationId, organizationId⟩ row) :
    (s.deleteInvite organizationId inviteId).2.Revoked row.token := by
  unfold Store.deleteInvite
  rw [hlinked.1, if_pos (by simp)]
  rintro i invite row' ⟨hinvite, hrow⟩ hsame
  rw [Dict.get?_erase] at hinvite
  obtain ⟨hne, hinvite⟩ := Option.ite_none_left_eq_some.mp hinvite
  have hid := h.unique _ _ row' row hrow hlinked.2 hsame
  exact hne (h.once _ _ _ _ hinvite hlinked.1 hid).symm

end

/-! ## 3. Requests that carry a token -/

/-- The request carries the token. -/
def Request.carries (site : InvitationSite) (token : Token) : Request → Bool
  | .preValidateUserInvite token' => token' = token
  | .register input => site.given input.ztnetOrganizationToken = some token
  | _ => false

/-- No new invitation gets the token; `encrypt` draws a new initialization vector for each. -/
def NotReissued (token : Token) (act : Act) (_ : Store) : Prop :=
  match act.query with
  | .createInvitation _ _ _ row => row.token ≠ token
  | _ => True

instance (token : Token) (act : Act) (s : Store) : Decidable (NotReissued token act s) := by
  unfold NotReissued
  split <;> infer_instance

/-- Where the write of `preValidateUserInvite` for the token is reached, the account cannot join. -/
def RefusesInvite (token : Token) (organizationId : OrganizationId) (act : Act)
    (s : Store) : Prop :=
  match act.query with
  | .acceptInvite token' organizationId' userId _ =>
    token' = token → organizationId' = organizationId →
    act.takesEffect = true → s.canJoin organizationId userId = false
  | _ => True

instance (token : Token) (organizationId : OrganizationId) (act : Act) (s : Store) :
    Decidable (RefusesInvite token organizationId act s) := by
  unfold RefusesInvite
  split <;> infer_instance

/-- The call writes nothing about members. -/
def Quiet (site : InvitationSite) (act : Act) : Prop := ∀ s, act.query.change site s = none

/-- The call of a request that carries the token, where the token is revoked. -/
def Dead (site : InvitationSite) (token : Token) (op : Op) (act : Act) (_ : Store) : Prop :=
  op.request.carries site token = true →
    Quiet site act ∨ ∃ organizationId userId role,
      act.query = .acceptInvite token organizationId userId role

/-- What others do to a revoked token. -/
def StaysRevoked (token : Token) (s t : Store) : Prop := s.Revoked token → t.Revoked token

section

variable {site : InvitationSite} {s t : Store} {token : Token} {plan : Plan} {A : Act → Prop}

theorem handle_staysRevoked (act : Act) (s : Store) (hnew : NotReissued token act s) :
    StaysRevoked token s (handle site act s).2 := by
  intro h
  rw [handle, faulty_state]
  split
  · rcases run_invitations site act.query s with hfewer | ⟨id, inviteId, o, row, hquery, -, -, hrun⟩
    · exact h.fewer hfewer
    · rw [hrun]
      unfold NotReissued at hnew
      rw [hquery] at hnew
      exact h.withInvitation hnew
  · exact h

/-- No row of `OrganizationInvitation` is found for a revoked token. -/
theorem findOrganizationInvitation_revoked (h : s.Revoked token) (payload : TokenPayload) :
    s.findOrganizationInvitation (payload.matches token) = none := by
  unfold Store.findOrganizationInvitation
  rw [List.findSome?_eq_none_iff]
  rintro ⟨inviteId, invite⟩ hmem
  rw [Option.map_eq_none_iff, Option.filter_eq_none_iff]
  intro row hrow hmatches
  simp only [TokenPayload.matches, Bool.and_eq_true, decide_eq_true_eq] at hmatches
  exact h inviteId invite row ⟨Dict.get?_eq_some_iff.mpr hmem, hrow⟩ hmatches.1.1

/-- The program raises. -/
def Raises {α : Type} (r : Except Failure α) (_ : Store) : Prop := ∀ a, r ≠ .ok a

/-- A call that is none of the members, in a run of others that leave the token revoked. -/
theorem steady_quiet {ok Q : Act → Store → Prop} (hok : ∀ act s, ok act s → NotReissued token act s)
    (hquiet : ∀ act s, Quiet site act → Q act s) {query : Query} {outcome : Outcome}
    (hchange : ∀ s, query.change site s = none) {post : Except Failure query.Ans → Store → Prop}
    (hpost : ∀ t, StaysRevoked token s t → ok ⟨query, outcome⟩ t →
      post (handle site ⟨query, outcome⟩ t).1 (handle site ⟨query, outcome⟩ t).2) :
    Prog.Steady (handle site) (StaysRevoked token) ok Q post
      (Prog.call (⟨query, outcome⟩ : Act)) s :=
  Prog.steady_call fun t hrely hmeets =>
    ⟨hquiet _ _ hchange, handle_staysRevoked _ _ (hok _ _ hmeets), hpost t hrely hmeets⟩

/-- No row of `OrganizationInvitation` is found for a revoked token, whatever others do meanwhile.
-/
theorem checkOrganizationToken_revoked {ok Q : Act → Store → Prop}
    (hok : ∀ act s, ok act s → NotReissued token act s) (hquiet : ∀ act s, Quiet site act → Q act s)
    (email : EmailAddress) (h : s.Revoked token) :
    Prog.Steady (handle site) (StaysRevoked token) ok Q Raises
      (checkOrganizationToken site plan token email) s := by
  unfold checkOrganizationToken
  split
  · exact Prog.steady_throw fun _ => nofun
  · next payload _ =>
    split
    · exact Prog.steady_throw fun _ => nofun
    · refine Prog.Steady.bind (steady_quiet hok hquiet (fun _ => rfl) fun t ht _ => ?_)
      change Prog.Steady _ _ _ _ _ (if payload.expired t.now then _ else _) t
      split
      · exact Prog.steady_throw fun _ => nofun
      · refine Prog.Steady.bind (steady_quiet hok hquiet (fun _ => rfl) fun u hu _ => ?_)
        generalize hcall : handle site ⟨.findOrganizationInvitation token payload, _⟩ u = answer
        obtain ⟨r, u'⟩ := answer
        cases r with
        | error e => exact fun _ => nofun
        | ok orgInvitationData =>
          have hrun := (faulty_ok hcall).2
          rw [Query.run, findOrganizationInvitation_revoked (hu (ht h))] at hrun
          cases hrun
          exact Prog.steady_throw fun _ => nofun

/-- **Registration refuses a revoked token**, and calls nothing about members. -/
theorem register_revoked {ok Q : Act → Store → Prop}
    (hok : ∀ act s, ok act s → NotReissued token act s)
    (hquiet : ∀ act s, Quiet site act → Q act s) {input : Invitations.RegisterInput}
    (hgiven : site.given input.ztnetOrganizationToken = some token) (h : s.Revoked token) :
    Prog.Steady (handle site) (StaysRevoked token) ok Q (fun _ _ => True) (register site plan input)
      s := by
  unfold register
  refine Prog.Steady.bind (Prog.steady_ofExcept ?_)
  cases plan.answer .checkLimit with
  | error e => trivial
  | ok _ =>
    refine Prog.Steady.bind (Prog.steady_ofExcept ?_)
    cases plan.answer .validateInput with
    | error e => trivial
    | ok _ =>
      refine Prog.Steady.bind (steady_quiet hok hquiet (fun _ => rfl) fun t ht _ => ?_)
      generalize hcall : handle site ⟨.findSettings, _⟩ t = answer
      obtain ⟨r, t'⟩ := answer
      cases r with
      | error e => trivial
      | ok enableRegistration =>
        have hrun := (faulty_ok hcall).2
        cases hrun
        refine Prog.Steady.bind ?_
        unfold validateOrganizationToken
        rw [hgiven]
        refine Prog.Steady.tryCatch ((checkOrganizationToken_revoked hok hquiet _ (ht h)).mono ?_)
        intro r u hraises
        cases r with
        | ok a => exact absurd rfl (hraises a)
        | error e => exact Prog.steady_throw trivial

/-- **A request that carries a revoked token** writes about members by `preValidateUserInvite` only.
-/
theorem program_dead (op : Op) (h : s.Revoked token) :
    Prog.Steady (handle site) (StaysRevoked token) (NotReissued token) (Dead site token op)
      (fun _ _ => True) (op.program site) s := by
  by_cases hcarries : op.request.carries site token = true
  · obtain ⟨plan, request⟩ := op
    cases request with
    | preValidateUserInvite token' =>
      obtain rfl : token' = token := of_decide_eq_true hcarries
      refine Prog.Steady.mono (Prog.Only.steady (A := fun act => Quiet site act ∨
        ∃ o u role, act.query = .acceptInvite token' o u role)
        (preValidateUserInvite_only (fun query outcome hquiet => .inl (quiet_change hquiet))
          fun o u role outcome => .inr ⟨o, u, role, rfl⟩)
        (fun _ h => h) (fun _ _ _ h₁ h₂ h => h₂ (h₁ h))
        fun act t hact hnew => ⟨fun _ => hact, handle_staysRevoked act t hnew⟩) fun _ _ _ => trivial
    | register input =>
      exact register_revoked (fun _ _ hnew => hnew) (fun act s hquiet _ => .inl hquiet)
        (of_decide_eq_true hcarries) h
    | _ => cases hcarries
  · exact Prog.steady_of_forall fun act t hnew =>
      ⟨fun hnot => absurd hnot hcarries, handle_staysRevoked act t hnew⟩

end

/-! ## 4. What comes behind `deleteInvite` -/

/-- A user joins the organization. -/
def Adds (organizationId : OrganizationId) (s t : Store) : Prop :=
  ∃ userId, s.membership.connected userId organizationId = false ∧
    t.membership.connected userId organizationId = true

/-- The event is a step of a request that carries the token and is among those that have been
started, where `n` requests were there before. -/
def IsLater (site : InvitationSite) (token : Token) (n : Nat) (es : List (PoolEvent Op))
    (event : PoolEvent Op) : Prop :=
  ∃ k op, (started es)[k]? = some op ∧ op.request.carries site token = true ∧ event = .step (n + k)

section

variable {site : InvitationSite} {s : Store} {token : Token}
  {organizationId : OrganizationId} {act : Act}

/-- A user who can join is not connected. -/
theorem canJoin_connected (hagree : s.membership.TablesAgree) {userId : UserId}
    (h : s.canJoin organizationId userId = true) :
    s.membership.connected userId organizationId = false := by
  have hnone := (canJoin_allowed h .user).2
  rw [Membership.connected, tablesAgree_iff.mp hagree]
  exact hnone

/-- What becomes of the membership where no call about members takes effect. -/
theorem not_adds (h : act.takesEffect = true → act.query.change site s = none) :
    ¬ Adds organizationId s (handle site act s).2 := by
  rintro ⟨userId, hbefore, hafter⟩
  rw [handle, faulty_state] at hafter
  split at hafter
  · next htakes =>
    rw [(run_membership site act.query s).1, h htakes, Membership.after, Option.elim_none, hbefore]
      at hafter
    cases hafter
  · rw [hbefore] at hafter
    cases hafter

/-- **The write of `preValidateUserInvite`** adds the account exactly if it can join. -/
theorem adds_iff (hagree : s.membership.TablesAgree) {o : OrganizationId}
    {userId : UserId} {role : Role}
    (hquery : act.query = .acceptInvite token o userId role) :
    Adds organizationId s (handle site act s).2 ↔
      o = organizationId ∧ act.takesEffect = true ∧ s.canJoin o userId = true := by
  by_cases hjoins : act.takesEffect = true ∧ s.canJoin o userId = true
  · obtain ⟨htakes, hjoin⟩ := hjoins
    have hafter : ∀ user, (handle site act s).2.membership.connected user organizationId =
        (decide ((userId, o) = (user, organizationId)) ||
          s.membership.connected user organizationId) := by
      intro user
      rw [handle, faulty_state, if_pos htakes, (run_membership site act.query s).1,
        hquery, Query.change,
        if_pos hjoin]
      exact Dict.contains_set _ _ _ _
    constructor
    · rintro ⟨user, hbefore, hconnected⟩
      rw [hafter, hbefore, Bool.or_false, decide_eq_true_eq] at hconnected
      exact ⟨congrArg Prod.snd hconnected, htakes, hjoin⟩
    · rintro ⟨rfl, -, -⟩
      refine ⟨userId, canJoin_connected hagree hjoin, ?_⟩
      rw [hafter, decide_eq_true rfl, Bool.true_or]
  · refine iff_of_false (not_adds fun htakes => ?_) fun h => hjoins h.2
    rw [hquery, Query.change, if_neg fun hjoin => hjoins ⟨htakes, hjoin⟩]

/-- A call of a request that carries the token adds nobody, exactly if the write of
`preValidateUserInvite` does not. -/
theorem not_adds_iff (hagree : s.membership.TablesAgree)
    (hdead : Quiet site act ∨ ∃ o userId role, act.query = .acceptInvite token o userId role) :
    ¬ Adds organizationId s (handle site act s).2 ↔ RefusesInvite token organizationId act s := by
  rcases hdead with hquiet | ⟨o, userId, role, hquery⟩
  · refine iff_of_true (not_adds fun _ => hquiet s) ?_
    unfold RefusesInvite
    split
    · next token' o userId role hquery =>
      rintro rfl rfl htakes
      -- the write would change something where the account can join
      have hnone := hquiet s
      rw [hquery, Query.change] at hnone
      split at hnone
      · cases hnone
      · next hnot => exact Bool.eq_false_iff.mpr hnot
    · trivial
  · rw [adds_iff hagree hquery]
    unfold RefusesInvite
    rw [hquery]
    constructor
    · rintro hnot - rfl htakes
      exact Bool.eq_false_iff.mpr fun hjoin => hnot ⟨rfl, htakes, hjoin⟩
    · rintro hrefuses ⟨rfl, htakes, hjoin⟩
      rw [hrefuses rfl rfl htakes] at hjoin
      cases hjoin

/-- Tables that agree and invitations that are well linked stay so. -/
theorem run_wellLinked {w w' : PoolState Act (Call.Ans Query.Ans) Failure Unit Store}
    {events : List (PoolEvent Op)} (hagree : w.state.membership.TablesAgree)
    (hlinked : w.state.WellLinked) (hrun : (organizationMachine site).run w events = some w') :
    w'.state.membership.TablesAgree ∧ w'.state.WellLinked := by
  have hsteady : ∀ (p : Proc Unit) (s : Store), Prog.Steady (handle site) (fun _ _ => True)
      (fun _ _ => True) (fun _ _ => True) (fun _ _ => True) p s :=
    fun _ _ => Prog.steady_of_forall fun _ _ _ => ⟨trivial, trivial⟩
  refine (pool_keeps (I := fun s => s.membership.TablesAgree ∧ s.WellLinked) (fun _ => trivial)
    (fun _ _ _ _ _ => trivial) (fun op s => hsteady (op.program site) s) ?_ ⟨hagree, hlinked⟩
    (fun p _ => hsteady p w.state) hrun).1
  rintro act s ⟨hagree, hlinked⟩ -
  exact ⟨handle_tablesAgree site act s hagree, handle_wellLinked site act s hlinked⟩

/-- The state behind `deleteInvite`. -/
theorem step_deleteInvite {w w₁ : PoolState Act (Call.Ans Query.Ans) Failure Unit Store} {j : Nat}
    {inviteId : OrganizationInvitationId} {invitationId : InvitationId} {row : InvitationRow}
    (hlinked : w.state.WellLinked)
    (hrow : w.state.Linked inviteId ⟨invitationId, organizationId⟩ row)
    (hdelete : w.performs (.step j : PoolEvent Op) =
      some ⟨.deleteInvite organizationId inviteId, .done⟩)
    (hstep : (organizationMachine site).step w (.step j) = some w₁) :
    w₁.state.Revoked row.token := by
  rcases pool_step_cases hstep with ⟨op, heq, -⟩ | ⟨i, act, k, -, -, hperforms, rfl⟩
  · cases heq
  · obtain rfl := Option.some.inj (hdelete.symm.trans hperforms)
    exact revoked_of_deleteInvite hlinked hrow

/-- **A step of a request that carries a revoked token.**  What it performs writes nothing about
members, or it is the write of `preValidateUserInvite`. -/
theorem later_dead {w₁ w₂ : PoolState Act (Call.Ans Query.Ans) Failure Unit Store}
    {events : List (PoolEvent Op)} {event : PoolEvent Op} (hrevoked : w₁.state.Revoked token)
    (hnew : (organizationMachine site).Conforms (PoolState.meets (NotReissued token)) w₁
      (events ++ [event]))
    (hrun : (organizationMachine site).run w₁ events = some w₂)
    (hlater : IsLater site token w₁.tasks.length events event)
    (hact : w₂.performs event = some act) :
    Quiet site act ∨ ∃ o userId role, act.query = .acceptInvite token o userId role := by
  obtain ⟨hinit, hlast⟩ := Machine.conforms_append.mp hnew
  obtain ⟨k, op, hop, hcarries, rfl⟩ := hlater
  obtain ⟨p, hp, hnext⟩ := Option.bind_eq_some_iff.mp hact
  obtain ⟨-, hsteady⟩ := pool_started (Q := Dead site token) (I := fun s => s.Revoked token)
    (fun _ h => h) (fun _ _ _ h₁ h₂ h => h₂ (h₁ h)) (fun _ _ h hkeeps => hkeeps h)
    (fun act s hnew => handle_staysRevoked act s hnew)
    (fun op s h => program_dead op h) hrevoked hinit
    hrun
  exact pool_performs (fun _ h => h) hp (hsteady k op p hop hp) hact
    ((hlast w₂ hrun).1 act hact) hcarries

end

/-- **Revoked invitations, exactly.**  In a run whose tables are sound, `deleteInvite` deletes the
row of an invitation to an organization.  None of the requests that are started behind it and carry
the token of the invitation adds a user to the organization, if and only if none of them comes to
the write of `preValidateUserInvite` while its account can join. -/
theorem revoked_iff (site : InvitationSite) (store : Store) (hagree : store.membership.TablesAgree)
    (hlinked : store.WellLinked) (events₁ : List (PoolEvent Op))
    {w w₁ : PoolState Act (Call.Ans Query.Ans) Failure Unit Store}
    (hrun : (organizationMachine site).run ⟨store, []⟩ events₁ = some w) {j : Nat}
    {organizationId : OrganizationId} {inviteId : OrganizationInvitationId}
    {invitationId : InvitationId}
    {row : InvitationRow} (hrow : w.state.Linked inviteId ⟨invitationId, organizationId⟩ row)
    (hdelete : w.performs (.step j : PoolEvent Op) =
      some ⟨.deleteInvite organizationId inviteId, .done⟩)
    (hstep : (organizationMachine site).step w (.step j) = some w₁) (events : List (PoolEvent Op))
    (hnew : (organizationMachine site).Conforms
      (PoolState.meets (NotReissued row.token)) w₁ events) :
    (∀ es event, es ++ [event] <+: events → IsLater site row.token w₁.tasks.length es event →
        ∀ w₂ w₃, (organizationMachine site).run w₁ es = some w₂ →
          (organizationMachine site).step w₂ event = some w₃ →
          ¬ Adds organizationId w₂.state w₃.state) ↔
      ∀ es event, es ++ [event] <+: events → IsLater site row.token w₁.tasks.length es event →
        ∀ w₂, (organizationMachine site).run w₁ es = some w₂ →
          w₂.meets (RefusesInvite row.token organizationId) event := by
  obtain ⟨hagree', hlinked'⟩ := run_wellLinked hagree hlinked hrun
  have hrevoked := step_deleteInvite hlinked' hrow hdelete hstep
  have hrun₁ : (organizationMachine site).run w [.step j] = some w₁ :=
    Machine.run_cons_eq_some.mpr ⟨w₁, hstep, rfl⟩
  obtain ⟨hagree₁, hlinked₁⟩ := run_wellLinked hagree' hlinked' hrun₁
  refine forall₄_congr fun es event hbegins hlater => ?_
  have hnew' : (organizationMachine site).Conforms (PoolState.meets (NotReissued row.token)) w₁
      (es ++ [event]) := by
    obtain ⟨rest, rfl⟩ := hbegins
    exact (Machine.conforms_append.mp hnew).1
  refine forall_congr' fun w₂ => ?_
  -- a request that is about to perform something performs it
  have hone : ∀ hrun₂ : (organizationMachine site).run w₁ es = some w₂,
      (∀ w₃, (organizationMachine site).step w₂ event = some w₃ →
        ¬ Adds organizationId w₂.state w₃.state) ↔
        w₂.meets (RefusesInvite row.token organizationId) event := by
    intro hrun₂
    have hagree₂ := (run_wellLinked hagree₁ hlinked₁ hrun₂).1
    cases hthere : (organizationMachine site).step w₂ event with
    | none => exact iff_of_true (fun _ h => nomatch h) (pool_stuck hthere)
    | some w₃ =>
      rcases pool_step_cases hthere with ⟨op, rfl, -⟩ | ⟨i, act, k, -, -, hperforms, rfl⟩
      · obtain ⟨_, _, -, -, heq⟩ := hlater
        cases heq
      · have hiff : ¬ Adds organizationId w₂.state (handle site act w₂.state).2 ↔
            RefusesInvite row.token organizationId act w₂.state :=
          not_adds_iff hagree₂ (later_dead hrevoked hnew' hrun₂ hlater hperforms)
        constructor
        · intro hnot act' hact'
          obtain rfl := Option.some.inj (hperforms.symm.trans hact')
          exact hiff.mp (hnot _ rfl)
        · rintro hmeets _ ⟨⟩
          exact hiff.mpr (hmeets act hperforms)
  constructor
  · exact fun h hrun₂ => (hone hrun₂).mp fun w₃ => h w₃ hrun₂
  · exact fun h w₃ hrun₂ => (hone hrun₂).mpr (h hrun₂) w₃

/-! ## 5. An invitation that is not found

The row of `Invitation` is what `preValidateUserInvite` reads.  A request that does not find it ends
there, whatever the others do; so the token would be dead if the row were deleted as well. -/

/-- Where the token is looked up, its invitation is not found. -/
def ReadsNothing (token : Token) (act : Act) (s : Store) : Prop :=
  act.query = .findInvitation token → s.findInvitation token = none

section

variable {site : InvitationSite} {s : Store} {token : Token} {plan : Plan}
  {organizationId : OrganizationId}

/-- A request that does not find the invitation of its token writes nothing about members. -/
theorem preValidateUserInvite_readsNothing :
    Prog.Steady (handle site) (StaysRevoked token)
      (fun act t => NotReissued token act t ∧ ReadsNothing token act t)
      (fun act _ => Quiet site act) (fun _ _ => True) (preValidateUserInvite site plan token)
      s := by
  unfold preValidateUserInvite
  split
  · exact Prog.steady_throw trivial
  refine Prog.Steady.bind (Prog.steady_ofExcept ?_)
  cases plan.answer .checkLimit with
  | error e => trivial
  | ok _ =>
    refine Prog.Steady.tryCatch ?_
    unfold validateInvite
    split
    · exact Prog.steady_throw (Prog.steady_throw trivial)
    split
    · exact Prog.steady_throw (Prog.steady_throw trivial)
    refine Prog.Steady.bind (steady_quiet (fun _ _ hmeets => hmeets.1) (fun _ _ hquiet => hquiet)
      (fun _ => rfl) fun t _ hmeets => ?_)
    generalize hcall : handle site ⟨.findInvitation token, _⟩ t = answer
    obtain ⟨r, t'⟩ := answer
    cases r with
    | error e => exact Prog.steady_throw trivial
    | ok invitation =>
      have hrun := (faulty_ok hcall).2
      rw [Query.run, hmeets.2 rfl] at hrun
      cases hrun
      exact Prog.steady_throw (Prog.steady_throw trivial)

/-- A request that carries a revoked token, and does not find its invitation either. -/
theorem program_readsNothing (op : Op) (h : s.Revoked token) :
    Prog.Steady (handle site) (StaysRevoked token)
      (fun act t => NotReissued token act t ∧ ReadsNothing token act t)
      (fun act _ => op.request.carries site token = true → Quiet site act) (fun _ _ => True)
      (op.program site) s := by
  by_cases hcarries : op.request.carries site token = true
  · simp only [hcarries, forall_const]
    obtain ⟨plan, request⟩ := op
    cases request with
    | preValidateUserInvite token' =>
      obtain rfl : token' = token := of_decide_eq_true hcarries
      exact preValidateUserInvite_readsNothing
    | register input =>
      exact register_revoked (fun _ _ hmeets => hmeets.1) (fun _ _ hquiet => hquiet)
        (of_decide_eq_true hcarries) h
    | _ => cases hcarries
  · exact Prog.steady_of_forall fun act t hmeets =>
      ⟨fun hnot => absurd hnot hcarries, handle_staysRevoked act t hmeets.1⟩

/-- **Where the invitation is gone at every read, nobody joins by the token**, in any run from a
state in which the token is revoked. -/
theorem readsNothing_adds_nobody {w₁ w₂ w₃ : PoolState Act (Call.Ans Query.Ans) Failure Unit Store}
    {events : List (PoolEvent Op)} {event : PoolEvent Op} (hrevoked : w₁.state.Revoked token)
    (hreads : (organizationMachine site).Conforms
      (PoolState.meets fun act t => NotReissued token act t ∧ ReadsNothing token act t) w₁
      (events ++ [event]))
    (hrun : (organizationMachine site).run w₁ events = some w₂)
    (hlater : IsLater site token w₁.tasks.length events event)
    (hstep : (organizationMachine site).step w₂ event = some w₃) :
    ¬ Adds organizationId w₂.state w₃.state := by
  obtain ⟨hinit, hlast⟩ := Machine.conforms_append.mp hreads
  obtain ⟨k, op, hop, hcarries, rfl⟩ := hlater
  obtain ⟨-, hsteady⟩ := pool_started (I := fun s => s.Revoked token)
    (Q := fun op act _ => op.request.carries site token = true → Quiet site act)
    (fun _ h => h) (fun _ _ _ h₁ h₂ h => h₂ (h₁ h)) (fun _ _ h hkeeps => hkeeps h)
    (fun act s hmeets => handle_staysRevoked act s hmeets.1)
    (fun op s h => program_readsNothing op h) hrevoked hinit hrun
  rcases pool_step_cases hstep with ⟨op', heq, -⟩ | ⟨i, act, p, heq, -, hperforms, rfl⟩
  · cases heq
  · obtain ⟨q, hq, -⟩ := Option.bind_eq_some_iff.mp hperforms
    refine not_adds fun _ => ?_
    exact pool_performs (fun _ h => h) hq (hsteady k op q hop hq) hperforms
      ((hlast w₂ hrun).1 act hperforms) hcarries w₂.state

end

/-! ## 6. A request that is alone -/

/-- Where `preValidateUserInvite` writes: the token decodes, there is an invitation with it that has
not expired, and there is a user with its address. -/
def Store.invitee (site : InvitationSite) (token : Token) (s : Store) :
    Option (OrganizationId × UserId × Role) := do
  let payload ← site.decode token
  let email ← payload.email
  let invitation ← s.findInvitation token
  if invitation.2.expiresAt < s.now then none
  else
    let user ← s.findUserByEmail (site.normalizeEmail email)
    return (← payload.organizationId, user.1, ← payload.role)

/-- What the token makes of the membership. -/
def Store.honoured (site : InvitationSite) (token : Token) (s : Store) : Option Change :=
  (s.invitee site token).bind fun invitee =>
    if s.canJoin invitee.1 invitee.2.1 then some (.join invitee.1 invitee.2.1 invitee.2.2) else none

/-- The token brings a user into the organization. -/
def Honours (site : InvitationSite) (token : Token) (organizationId : OrganizationId)
    (s : Store) : Prop :=
  token ≠ "" ∧ ∃ userId role, s.invitee site token = some (organizationId, userId, role) ∧
    s.canJoin organizationId userId = true

section

variable {site : InvitationSite} {s : Store} {token : Token} {organizationId : OrganizationId}

theorem exec_perform (query : Query) :
    Prog.exec (handle site) (perform plainPlan query) s = query.run site s := Prog.exec_call _

/-- A read, and what comes behind it. -/
theorem exec_read {α : Type} {query : Query} {a : query.Ans} {f : query.Ans → Proc α}
    (hrun : query.run site s = (.ok a, s)) :
    Prog.exec (handle site) (perform plainPlan query >>= f) s = Prog.exec (handle site) (f a) s :=
  Prog.exec_bind_ok ((exec_perform query).trans hrun)

theorem exec_readClock {α : Type} {f : Nat → Proc α} :
    Prog.exec (handle site) (readClock >>= f) s = Prog.exec (handle site) (f s.now) s :=
  Prog.exec_bind_ok (Prog.exec_call _)

theorem exec_consult (consultation : Consultation) :
    Prog.exec (handle site) (consult plainPlan consultation) s = (.ok (), s) := Prog.exec_ofExcept _

theorem exec_throwMessage {α : Type} (message : String) :
    Prog.exec (handle site) (throwMessage message : Proc α) s = (.error (.error message), s) := rfl

/-- What comes behind the write changes no membership. -/
theorem exec_quiet {α : Type} {p : Proc α} (hp : Prog.Only (Quiet site) p) :
    (Prog.exec (handle site) p s).2.membership = s.membership := by
  refine hp.exec_preserves (I := fun t : Store => t.membership = s.membership)
    (fun act t hquiet ht => ?_) rfl
  rw [handle, faulty_state]
  split
  · rw [(run_membership site act.query t).1, hquiet t]
    exact ht
  · exact ht

/-- What the acceptance by an existing user does to the membership. -/
theorem acceptInvitation_membership (payload : TokenPayload) (email : EmailAddress)
    (userId : UserId)
    {o : OrganizationId} {role : Role} (ho : payload.organizationId = some o)
    (hrole : payload.role = some role) :
    (Prog.exec (handle site) (acceptInvitation plainPlan token payload email userId)
      s).2.membership =
      if s.canJoin o userId then (Change.join o userId role).apply s.membership
        else s.membership := by
  unfold acceptInvitation
  rw [ho, hrole]
  dsimp only
  rw [Prog.exec_bind, exec_perform]
  simp only [Query.run]
  split
  · next hmember =>
    -- a member cannot join
    have hcontains : s.userRoles.contains (userId, o) = true := hmember
    have hnot : s.canJoin o userId = false := by
      rw [Store.canJoin, hcontains, Bool.not_true, Bool.and_false]
    rw [if_neg (by simp [hnot])]
    rfl
  · rw [Prog.exec_bind, exec_perform]
    simp only [Query.run, Store.joinOrganization]
    by_cases hjoin : s.canJoin o userId = true
    · rw [if_pos hjoin, if_pos hjoin]
      refine exec_quiet ((Prog.only_call fun _ => rfl).bind fun _ => ?_)
      cases payload.invitedById with
      | none => exact Prog.only_throw _
      | some invitedById => exact Prog.only_call fun _ => rfl
    · rw [if_neg hjoin, if_neg hjoin]

/-- The state behind a guarded program whose recovery only throws. -/
theorem exec_rethrow {p : Proc Unit} {f : Failure → Failure} :
    (Prog.exec (handle site) (tryCatch p fun error => throw (f error)) s).2 =
      (Prog.exec (handle site) p s).2 := by
  rw [Prog.exec_tryCatch]
  obtain ⟨r, t⟩ := Prog.exec (handle site) p s
  cases r with
  | ok a | error e => rfl

/-- What `preValidateUserInvite` does to the membership. -/
theorem validateInvite_membership :
    (Prog.exec (handle site) (validateInvite site plainPlan token) s).2.membership =
      s.membership.after (s.honoured site token) := by
  unfold validateInvite Store.honoured Store.invitee
  rcases hdecode : site.decode token with - | ⟨email, o, role, invitedById, expiresAt⟩
  · rfl
  cases email with
  | none => rfl
  | some email =>
  dsimp only
  rw [exec_read (a := s.findInvitation token) rfl]
  rcases hinvitation : s.findInvitation token with - | ⟨id, row⟩
  · rfl
  dsimp only
  rw [exec_readClock]
  by_cases hexpired : row.expiresAt < s.now
  · simp [hexpired, exec_throwMessage, Membership.after]
  rw [if_neg hexpired, exec_read (a := s.findUserByEmail (site.normalizeEmail email)) rfl]
  rcases huser : s.findUserByEmail (site.normalizeEmail email) with - | ⟨userId, user⟩
  · simp [hexpired, huser, Membership.after]
  dsimp only
  cases o with
  | none => simp [hexpired, acceptInvitation, exec_throwMessage, Membership.after]
  | some o =>
  cases role with
  | none => simp [hexpired, acceptInvitation, exec_throwMessage, Membership.after]
  | some role =>
  rw [acceptInvitation_membership _ email userId rfl rfl]
  by_cases hjoin : s.canJoin o userId = true
  · simp [hexpired, huser, hjoin, Membership.after]
  · simp [hexpired, huser, hjoin, Membership.after]

/-- **A request that is alone** adds a user exactly where the token is honoured; whether the
invitation still has its row of `OrganizationInvitation` makes no difference. -/
theorem preValidateUserInvite_alone_iff (hagree : s.membership.TablesAgree) :
    Adds organizationId s (Prog.exec (handle site)
      (preValidateUserInvite site plainPlan token) s).2 ↔
      Honours site token organizationId s := by
  unfold preValidateUserInvite
  by_cases htoken : token = ""
  · rw [if_pos htoken]
    refine iff_of_false ?_ fun h => h.1 htoken
    rintro ⟨user, hbefore, hafter⟩
    rw [exec_throwMessage, hbefore] at hafter
    cases hafter
  have hafter : (Prog.exec (handle site) (consult plainPlan .checkLimit >>= fun _ =>
      tryCatch (validateInvite site plainPlan token) fun error =>
        throwMessage error.message) s).2.membership =
      s.membership.after (s.honoured site token) := by
    rw [Prog.exec_bind_ok (exec_consult _)]
    exact (congrArg Store.membership exec_rethrow).trans validateInvite_membership
  rw [if_neg htoken, Adds, hafter, Store.honoured]
  constructor
  · rintro ⟨user, hbefore, hconnected⟩
    refine ⟨htoken, ?_⟩
    rcases hinvitee : s.invitee site token with - | ⟨o, userId, role⟩
    · rw [hinvitee, Option.bind_none, Membership.after, Option.elim_none, hbefore] at hconnected
      cases hconnected
    rw [hinvitee, Option.bind_some] at hconnected
    by_cases hjoin : s.canJoin o userId = true
    · rw [if_pos hjoin, Membership.after, Option.elim_some] at hconnected
      have hkey : (decide ((userId, o) = (user, organizationId)) ||
          s.membership.connected user organizationId) = true :=
        (Dict.contains_set _ _ _ _).symm.trans hconnected
      rw [hbefore, Bool.or_false, decide_eq_true_eq] at hkey
      obtain rfl : o = organizationId := congrArg Prod.snd hkey
      exact ⟨userId, role, rfl, hjoin⟩
    · rw [if_neg hjoin, Membership.after, Option.elim_none, hbefore] at hconnected
      cases hconnected
  · rintro ⟨-, userId, role, hinvitee, hjoin⟩
    refine ⟨userId, canJoin_connected hagree hjoin, ?_⟩
    rw [hinvitee, Option.bind_some, if_pos hjoin, Membership.after, Option.elim_some]
    refine (Dict.contains_set _ _ _ _).trans ?_
    rw [decide_eq_true rfl, Bool.true_or]

end

/-- The token of the invitation in the examples decodes, and nothing else. -/
def exampleSite : InvitationSite where
  decode token :=
    if token = "tok" then
      some { email := some "cleo@example.org", organizationId := some 10, role := some .admin
             invitedById := some 1, expiresAt := some 86400000 }
    else none
  verify _ := true
  trim := id
  normalizeEmail := id

/-- The invitation of user 3. -/
def exampleRow : InvitationRow :=
  { token := "tok", secret := none, email := some "cleo@example.org", role := .admin, used := false
    timesUsed := 0, timesCanUse := 1, expiresAt := 86400000, invitedById := 1, userGroupId := none }

/-- User 3 has been invited to the organization. -/
def invitedStore : Store :=
  { exampleStore with
    invitations := Dict.empty.set 7 exampleRow
    organizationInvitations := Dict.empty.set 70 ⟨7, 10⟩ }

theorem invitedStore_agrees : invitedStore.membership.TablesAgree := exampleStore_agrees

theorem invitedStore_wellLinked : invitedStore.WellLinked := by
  have hinvites : ∀ inviteId invite,
    invitedStore.organizationInvitations.get? inviteId = some invite →
      70 = inviteId ∧ invite = ⟨7, 10⟩ := by
    intro inviteId invite h
    rw [invitedStore, Dict.get?_set] at h
    split at h
    · next hid => exact ⟨hid, (Option.some.inj h).symm⟩
    · cases h
  have hrows : ∀ id row, invitedStore.invitations.get? id = some row → 7 = id := by
    intro id row h
    rw [invitedStore, Dict.get?_set] at h
    split at h
    · next hid => exact hid
    · cases h
  constructor
  · intro inviteId invite h
    obtain ⟨-, rfl⟩ := hinvites inviteId invite h
    exact ⟨_, rfl⟩
  · intro inviteId inviteId' invite invite' h h' _
    exact (hinvites _ _ h).1.symm.trans (hinvites _ _ h').1
  · intro id id' row row' h h' _
    exact (hrows _ _ h).symm.trans (hrows _ _ h')

/-- An administrator is about to revoke the invitation. -/
def revokeFirst : List (PoolEvent Op) := [plain (.deleteInvite 1 10 70), .step 0]

/-- Somebody registers with the token afterwards. -/
def registerWithToken : List (PoolEvent Op) :=
  plain (.register ⟨4, "cleo@example.org", "Cleo", none, some "tok", none⟩) :: List.replicate 3
    (.step 1)

/-- The registration is refused. -/
theorem revoked_registration :
    ∃ w, (organizationMachine exampleSite).run ⟨invitedStore, []⟩ revokeFirst = some w ∧
      ∃ w₁, (organizationMachine exampleSite).step w (.step 0) = some w₁ ∧
        ((organizationMachine exampleSite).run w₁ registerWithToken).any
        (fun w₂ => w₂.finished) = true ∧
        ∀ es event, es ++ [event] <+: registerWithToken →
          IsLater exampleSite "tok" w₁.tasks.length es event →
          ∀ w₂ w₃, (organizationMachine exampleSite).run w₁ es = some w₂ →
            (organizationMachine exampleSite).step w₂ event = some w₃ →
            ¬ Adds 10 w₂.state w₃.state := by
  refine Machine.exists_run (P := fun w => w.state.Linked 70 ⟨7, 10⟩ exampleRow ∧
    w.performs (.step 0 : PoolEvent Op) = some ⟨.deleteInvite 10 70, .done⟩ ∧
    (((organizationMachine exampleSite).step w (.step 0)).any fun w₁ => decide (
      (organizationMachine exampleSite).Conforms
      (PoolState.meets (NotReissued "tok")) w₁ registerWithToken ∧
      (organizationMachine exampleSite).Conforms (PoolState.meets (RefusesInvite "tok" 10)) w₁
        registerWithToken ∧
      ((organizationMachine exampleSite).run w₁ registerWithToken).any (fun w₂ => w₂.finished) =
      true)) = true)
    (by decide +kernel) ?_
  rintro w hw ⟨hrow, hdelete, hafter⟩
  obtain ⟨w₁, hstep, hafter⟩ := (Option.any_eq_true _ _).mp hafter
  obtain ⟨hnew, hrefuses, hfinished⟩ := of_decide_eq_true hafter
  refine ⟨w₁, hstep, hfinished, ?_⟩
  exact (revoked_iff exampleSite invitedStore invitedStore_agrees invitedStore_wellLinked
    revokeFirst hw hrow
    hdelete hstep registerWithToken hnew).mpr fun es event hbegins _ w₂ hrun =>
      hrefuses.meets hbegins hrun

/-- The invited user opens the link afterwards, and comes to the write. -/
def openLink : List (PoolEvent Op) :=
  plain (.preValidateUserInvite "tok") :: List.replicate 4 (.step 1)

/-- **A revoked invitation brings a user in.** -/
theorem revoked_joins :
    invitedStore.membership.TablesAgree ∧ invitedStore.WellLinked ∧
      ∃ w, (organizationMachine exampleSite).run ⟨invitedStore, []⟩ revokeFirst = some w ∧
        w.state.Linked 70 ⟨7, 10⟩ exampleRow ∧
        w.performs (.step 0 : PoolEvent Op) = some ⟨.deleteInvite 10 70, .done⟩ ∧
        ∃ w₁, (organizationMachine exampleSite).step w (.step 0) = some w₁ ∧
          ∃ w₂, (organizationMachine exampleSite).run w₁ openLink = some w₂ ∧
            IsLater exampleSite "tok" w₁.tasks.length openLink (.step 1) ∧
            ∃ w₃, (organizationMachine exampleSite).step w₂ (.step 1) = some w₃ ∧
              Adds 10 w₂.state w₃.state := by
  refine ⟨invitedStore_agrees, invitedStore_wellLinked, ?_⟩
  refine Machine.exists_run (P := fun w => w.state.Linked 70 ⟨7, 10⟩ exampleRow ∧
    w.performs (.step 0 : PoolEvent Op) = some ⟨.deleteInvite 10 70, .done⟩ ∧
    (((organizationMachine exampleSite).step w (.step 0)).any fun w₁ =>
      decide (w₁.tasks.length = 1 ∧
      (((organizationMachine exampleSite).run w₁ openLink).any fun w₂ => decide (
        w₂.state.membership.connected 3 10 = false ∧
        (((organizationMachine exampleSite).step w₂ (.step 1)).any fun w₃ =>
          w₃.state.membership.connected 3 10) = true)) = true)) = true) (by decide +kernel) ?_
  rintro w hw ⟨hrow, hdelete, hafter⟩
  obtain ⟨w₁, hstep, hafter⟩ := (Option.any_eq_true _ _).mp hafter
  obtain ⟨hlength, hafter⟩ := of_decide_eq_true hafter
  obtain ⟨w₂, hrun, hafter⟩ := (Option.any_eq_true _ _).mp hafter
  obtain ⟨hbefore, hafter⟩ := of_decide_eq_true hafter
  obtain ⟨w₃, hwrite, hconnected⟩ := (Option.any_eq_true _ _).mp hafter
  refine ⟨hrow, hdelete, w₁, hstep, w₂, hrun, ⟨0, _, rfl, rfl, ?_⟩, w₃, hwrite, 3,
    hbefore, hconnected⟩
  rw [hlength]

end ZtPlanet.Ztnet.Organizations
