/-
# Who may act

ZTNET knows its callers in two ways.  A browser has a session, and `getActiveSession` looks at the
account behind it: it must be active and unexpired, and so must its group unless the user is an
administrator.  A program has an API token, and `decryptAndVerifyToken` looks at the token, at its
own expiry and at the role of its user, but not at the account.

So the two disagree exactly on the tokens that are accepted for an account that is not in good
standing: `followsAccount_iff`.
-/
import ZtPlanet.Ztnet.OrgAuthorization

namespace ZtPlanet.Ztnet

open ZtPlanet.Lib

/-! ## 1. Accounts -/

/-- `UserGroup`. -/
structure UserGroupRow where
  expiresAt : Option Nat
deriving DecidableEq

/-- The columns of `User` that say whether the account may be used. -/
structure AccountColumns where
  isActive : Bool
  expiresAt : Option Nat
  userGroup : Option UserGroupRow
deriving DecidableEq

/-- The database with these columns; they count where there is a row of the user. -/
structure AccountDb where
  db : Db
  account : UserId → AccountColumns

/-- `getActiveSession`, where `session` is the user whose session the library found; with the
current role. -/
def getActiveSession (accounts : AccountDb) (now : Nat) (session : Option UserId) :
    Option (UserId × Role) :=
  match session with
  | none => none
  | some userId =>
    match accounts.db.users.get? userId with
    | none => none
    | some role =>
      let user := accounts.account userId
      if !user.isActive || user.expiresAt.any (· ≤ now) ||
          (role ≠ .admin && (user.userGroup.bind UserGroupRow.expiresAt).any (· ≤ now))
      then none
      else some (userId, role)

/-! ## 2. Agreement -/

/-- The account is active and unexpired, and so is its group unless the user is an administrator. -/
def AccountDb.inGoodStanding (accounts : AccountDb) (now : Nat) (userId : UserId) : Prop :=
  ∃ role, accounts.db.users.get? userId = some role ∧
    (accounts.account userId).isActive = true ∧
    (∀ expiresAt ∈ (accounts.account userId).expiresAt, now < expiresAt) ∧
    (role = .admin ∨ ∀ group ∈ (accounts.account userId).userGroup,
      ∀ expiresAt ∈ group.expiresAt, now < expiresAt)

/-- The text is a usable token of the user: it decrypts to the ids of a token that the user has and
that has not expired, for the type of authorization, the user has a token of this text, and is an
administrator where one is asked for. -/
def UsableToken (host : Host) (db : Db) (apiKey : ApiKey) (requireAdmin : Bool)
    (type : AuthorizationType) (userId : UserId) : Prop :=
  ∃ tokenId types token role,
    host.decrypt apiKey = some ⟨some userId, some tokenId, types⟩ ∧ type ∈ types ∧
    db.apiTokens.get? tokenId = some token ∧ token.userId = userId ∧
    (∀ expiresAt ∈ token.expiresAt, host.now ≤ expiresAt) ∧
    db.users.get? userId = some role ∧ (requireAdmin = true → role = .admin) ∧
    db.apiTokensOf userId apiKey ≠ []

/-- The token follows the state of its user's account: where the sessions of the user are rejected,
the token is not accepted for the user. -/
def FollowsAccount (host : Host) (plan : Plan) (accounts : AccountDb) (apiKey : ApiKey)
    (requireAdmin : Bool) (type : AuthorizationType) : Prop :=
  ∀ userId, getActiveSession accounts host.now (some userId) = none →
    (Prog.exec (handle plan) (decryptAndVerifyToken host apiKey requireAdmin type)
      accounts.db).1 ≠ .ok userId

/-- A session is rejected exactly where the account is not in good standing. -/
theorem getActiveSession_eq_none_iff {accounts : AccountDb} {now : Nat} {userId : UserId} :
    getActiveSession accounts now (some userId) = none ↔ ¬accounts.inGoodStanding now userId := by
  unfold getActiveSession AccountDb.inGoodStanding
  dsimp only
  cases huser : accounts.db.users.get? userId with
  | none => simp
  | some role =>
    simp only [Option.some.injEq, exists_eq_left']
    have hunexpired : ∀ {expiry : Option Nat},
        expiry.any (· ≤ now) = false ↔ ∀ expiresAt ∈ expiry, now < expiresAt := by
      intro expiry
      cases expiry <;> simp
    rw [← hunexpired]
    have hgroup : (∀ group ∈ (accounts.account userId).userGroup,
        ∀ expiresAt ∈ group.expiresAt, now < expiresAt) ↔
          ((accounts.account userId).userGroup.bind UserGroupRow.expiresAt).any (· ≤ now) =
            false := by
      rw [hunexpired]
      cases (accounts.account userId).userGroup <;> simp
    rw [hgroup]
    by_cases hrole : role = .admin <;>
      cases (accounts.account userId).isActive <;>
      cases (accounts.account userId).expiresAt.any (· ≤ now) <;>
      cases ((accounts.account userId).userGroup.bind UserGroupRow.expiresAt).any (· ≤ now) <;>
      simp [hrole]

/-- A token is accepted for a user exactly where it is a usable token of the user. -/
theorem tokenHolder_eq_some_iff {host : Host} {db : Db} {apiKey : ApiKey} {requireAdmin : Bool}
    {type : AuthorizationType} {userId : UserId} :
    db.tokenHolder host apiKey requireAdmin type = some userId ↔
      UsableToken host db apiKey requireAdmin type userId := by
  unfold Db.tokenHolder UsableToken
  constructor
  · intro h
    split at h
    next userId' tokenId types hdecrypt =>
      split at h
      next hall =>
        cases h
        simp only [Bool.and_eq_true, List.contains_iff_mem, Option.any_eq_true, beq_iff_eq,
          Bool.not_eq_true', Bool.or_eq_true, Option.any_eq_false, decide_eq_false_iff_not,
          List.isEmpty_eq_false_iff] at hall
        obtain ⟨⟨⟨htype, token, htoken, howner, hexpiry⟩, role, hrole, hadmin⟩, htext⟩ := hall
        refine ⟨tokenId, types, token, role, hdecrypt, htype, htoken, howner,
          fun expiresAt he => Nat.not_lt.mp (hexpiry expiresAt he), hrole, fun hrequired => ?_,
          htext⟩
        exact hadmin.resolve_right fun hfree => absurd (hrequired.symm.trans hfree) (by decide)
      next => cases h
    next => cases h
  · rintro ⟨tokenId, types, token, role, hdecrypt, htype, htoken, howner, hexpiry, hrole, hadmin,
      htext⟩
    have hallowed : (role == .admin || !requireAdmin) = true := by
      cases hrequired : requireAdmin with
      | true => simp [hadmin hrequired]
      | false => simp
    rw [hdecrypt]
    dsimp only
    rw [if_pos]
    simp only [Bool.and_eq_true, List.contains_iff_mem, Option.any_eq_true, beq_iff_eq,
      Bool.not_eq_true', Option.any_eq_false, decide_eq_false_iff_not, List.isEmpty_eq_false_iff]
    exact ⟨⟨⟨htype, token, htoken, howner,
      fun expiresAt he => Nat.not_lt.mpr (hexpiry expiresAt he)⟩,
      role, hrole, hallowed⟩, htext⟩

/-- **The two ways of authentication agree on a token** exactly where it is no usable token, or its
user's account is in good standing. -/
theorem followsAccount_iff (host : Host) (plan : Plan) (accounts : AccountDb) (apiKey : ApiKey)
    (requireAdmin : Bool) (type : AuthorizationType) :
    FollowsAccount host plan accounts apiKey requireAdmin type ↔
      ∀ userId, UsableToken host accounts.db apiKey requireAdmin type userId →
        accounts.inGoodStanding host.now userId := by
  obtain ⟨r, hexec, hholder⟩ :=
    exec_decryptAndVerifyToken_holder host plan accounts.db apiKey requireAdmin type
  unfold FollowsAccount
  simp only [hexec, ← tokenHolder_eq_some_iff, ← hholder]
  constructor
  · intro h userId hr
    by_contra hstanding
    refine h userId (getActiveSession_eq_none_iff.mpr hstanding) ?_
    cases r with
    | ok a => exact congrArg Except.ok (Option.some.inj hr)
    | error e => cases hr
  · rintro h userId hrejected rfl
    exact getActiveSession_eq_none_iff.mp hrejected (h userId rfl)

/-! ## 3. A disabled account -/

/-- The accounts are deactivated. -/
def deactivated (db : Db) : AccountDb := ⟨db, fun _ => ⟨false, none, none⟩⟩

/-- **A deactivated account goes on through its token.** -/
theorem token_outlives_account :
    ¬FollowsAccount oneTokenHost calm (deactivated strangersNetwork) 100 false .organization := by
  intro h
  exact h 1 (by decide +kernel) rfl

end ZtPlanet.Ztnet
