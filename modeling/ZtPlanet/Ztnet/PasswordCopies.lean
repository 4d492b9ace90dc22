/-
# The two copies of a password

`AuthDb.Agrees` says that `Account.password` is `User.hash` wherever there is an account.  Every
write of a new password writes both copies in one transaction and so keeps this.  Two writes put
back a hash that was read before: the profile update without a new password, and the backfill of a
missing account in the hook of a sign-in.  They keep it where that hash is still the one that is
stored, which is what `AuthAct.fresh` asks; a password reset between the read and the write makes
the copies differ for good.
-/
import ZtPlanet.Lib.Interleave
import ZtPlanet.Ztnet.Credential

namespace ZtPlanet.Ztnet

open ZtPlanet.Lib

/-! ## 1. Agreement -/

/-- **The two copies agree**, wherever there are two. -/
def AuthDb.Agrees (db : AuthDb) : Prop :=
  ∀ id password, db.accounts.get? id = some password →
    ∃ user, db.users.get? id = some user ∧ user.hash = some password

/-- A hash that is written back is still the one that is stored. -/
def AuthAct.fresh : AuthAct → AuthDb → Prop
  | .backfillCredential id password, db =>
    (db.users.get? id).any (fun user => user.hash == some password) = true
  | .commitProfile id data none, db =>
    (db.users.get? id).all (fun user => data.hash == user.hash) = true
  | _, _ => True

instance (act : AuthAct) (db : AuthDb) : Decidable (act.fresh db) :=
  match act with
  | .backfillCredential id password => inferInstanceAs (Decidable
      ((db.users.get? id).any (fun user => user.hash == some password) = true))
  | .commitProfile id data none => inferInstanceAs (Decidable
      ((db.users.get? id).all (fun user => data.hash == user.hash) = true))
  | .commitProfile _ _ (some _) => isTrue trivial
  | .readClock => isTrue trivial
  | .advance _ => isTrue trivial
  | .findUserByEmail _ => isTrue trivial
  | .findUser _ => isTrue trivial
  | .clearFailures _ => isTrue trivial
  | .countFailure _ _ => isTrue trivial
  | .findCredential _ => isTrue trivial
  | .commitReset _ _ _ => isTrue trivial
  | .commitRegistration _ _ _ _ => isTrue trivial
  | .createSession _ _ _ _ => isTrue trivial

/-! ## 2. One action -/

variable {host : AuthHost} {db : AuthDb}

/-- Writing both copies of one user. -/
theorem Agrees.set_both {users : Dict UserId UserRow} {accounts : Dict UserId PasswordHash}
    (h : ∀ id password, accounts.get? id = some password →
      ∃ user, users.get? id = some user ∧ user.hash = some password)
    {id : UserId} {user : UserRow} {password : PasswordHash} (huser : user.hash = some password) :
    ∀ j p, (accounts.set id password).get? j = some p →
      ∃ u, (users.set id user).get? j = some u ∧ u.hash = some p := by
  intro j p hj
  rw [Dict.get?_set] at hj ⊢
  by_cases hid : id = j
  · rw [if_pos hid, Option.some.injEq] at hj
    rw [if_pos hid]
    exact ⟨user, rfl, huser.trans (congrArg some hj)⟩
  · rw [if_neg hid] at hj ⊢
    exact h j p hj

/-- Writing a row of a user that keeps its hash. -/
theorem Agrees.set_user {users : Dict UserId UserRow} {accounts : Dict UserId PasswordHash}
    (h : ∀ id password, accounts.get? id = some password →
      ∃ user, users.get? id = some user ∧ user.hash = some password)
    {id : UserId} {user user' : UserRow} (huser : users.get? id = some user)
    (hhash : user'.hash = user.hash) :
    ∀ j p, accounts.get? j = some p →
      ∃ u, (users.set id user').get? j = some u ∧ u.hash = some p := by
  intro j p hj
  obtain ⟨u, hu, hp⟩ := h j p hj
  rw [Dict.get?_set]
  by_cases hid : id = j
  · subst hid
    rw [huser, Option.some.injEq] at hu
    subst hu
    exact ⟨user', if_pos rfl, hhash.trans hp⟩
  · exact ⟨u, (if_neg hid).trans hu, hp⟩

/-- An update that leaves the hash alone. -/
theorem AuthDb.Agrees.updateUser (h : db.Agrees) (id : UserId) {f : UserRow → UserRow}
    (hf : ∀ user, (f user).hash = user.hash) : (db.updateUser id f).2.Agrees := by
  unfold AuthDb.updateUser
  cases huser : db.users.get? id with
  | none => exact h
  | some user => exact Agrees.set_user h huser (hf user)

/-- **Every action keeps the agreement, except a stale write-back.** -/
theorem AuthDb.Agrees.handle (h : db.Agrees) {act : AuthAct} (hfresh : act.fresh db) :
    (AuthDb.handle host act db).2.Agrees := by
  cases act with
  | clearFailures id => exact h.updateUser id fun _ => rfl
  | countFailure id date => exact h.updateUser id fun _ => rfl
  | backfillCredential id password =>
    obtain ⟨user, huser, hhash⟩ := (Option.any_eq_true _ _).mp hfresh
    intro j p hj
    rw [show (AuthDb.handle host (.backfillCredential id password) db).2.accounts =
      db.accounts.set id password from rfl, Dict.get?_set] at hj
    by_cases hid : id = j
    · rw [if_pos hid, Option.some.injEq] at hj
      exact ⟨user, hid ▸ huser, (beq_iff_eq.mp hhash).trans (congrArg some hj)⟩
    · rw [if_neg hid] at hj
      exact h j p hj
  | commitProfile id data newHash =>
    change (db.commitProfile id data newHash).2.Agrees
    unfold AuthDb.commitProfile
    cases huser : db.users.get? id with
    | none => exact h
    | some user =>
      dsimp only
      split
      · exact h
      · cases newHash with
        | some hash => exact Agrees.set_both h rfl
        | none =>
          have hhash := (Option.all_eq_true _ _).mp hfresh user huser
          exact Agrees.set_user h huser (beq_iff_eq.mp hhash)
  | commitReset token id newHash =>
    change (db.commitReset token id newHash).2.Agrees
    unfold AuthDb.commitReset
    split
    · cases db.users.get? id with
      | none => exact h
      | some user => exact Agrees.set_both h rfl
    · exact h
  | commitRegistration id email name hash =>
    change (db.commitRegistration id email name hash).2.Agrees
    unfold AuthDb.commitRegistration
    split
    · exact h
    · exact Agrees.set_both h rfl
  | createSession hook email password totpCode =>
    change (db.createSession host hook email password totpCode).2.Agrees
    unfold AuthDb.createSession
    split
    · exact h
    · split
      · exact h
      · split
        · exact h
        · exact h
  | _ => exact h

/-! ## 3. Runs -/

/-- The pool of sign-ins, profile updates, resets and registrations. -/
def authMachine (host : AuthHost) :
    Machine (PoolState AuthAct AuthAct.Ans Failure Unit AuthDb) (PoolEvent AuthOp) :=
  poolMachine (AuthDb.handle host) (AuthOp.program host)

/-- **The copies agree.**  In every run in which what is written back is what is stored, the two
copies of every password agree in every state, the last one included. -/
theorem copies_agree (host : AuthHost) (db : AuthDb) (hdb : db.Agrees)
    (events : List (PoolEvent AuthOp)) {w : PoolState AuthAct AuthAct.Ans Failure Unit AuthDb}
    (hfresh : (authMachine host).Conforms (PoolState.meets AuthAct.fresh) ⟨db, []⟩ events)
    (hrun : (authMachine host).run ⟨db, []⟩ events = some w) : w.state.Agrees := by
  refine pool_invariant (R := fun s s' => s.Agrees → s'.Agrees) (Q := fun _ _ => True)
    (fun _ h => h) (fun _ _ _ h₁ h₂ h => h₂ (h₁ h)) (fun _ _ h hR => hR h) ?_ hdb ?_ hfresh hrun
  · intro op s _
    exact Prog.steady_of_forall fun act t hok => ⟨trivial, fun h => h.handle hok⟩
  · intro p hp
    cases hp

/-! ## 4. A reset and a profile update -/

/-- User 1 has the password with hash 10, a second factor and a valid reset token. -/
def oneUser : AuthDb where
  now := 0
  users := Dict.empty.set 1 ⟨1, "user", some 10, false, true, some 5, 0, none⟩
  accounts := Dict.empty.set 1 10
  resetTokens := [(77, 1, 1000)]
  sessions := []

theorem oneUser_agrees : oneUser.Agrees := by
  intro id password h
  have hid : id = 1 := by
    by_contra hne
    rw [oneUser, Dict.get?_set_ne _ (Ne.symm hne)] at h
    cases h
  subst hid
  have hpassword : some 10 = some password := (Dict.get?_set_self _ _ _).symm.trans h
  exact ⟨_, Dict.get?_set_self _ _ _, hpassword⟩

/-- Hash 10 is of the text "old" and hash 20 of the text "new"; code 6 is valid for half a minute.
-/
def exampleHost : AuthHost where
  compare := fun password hash =>
    (password == "old" && hash == 10) || (password == "new" && hash == 20)
  decrypt := fun _ => some "0123456789abcdef0123456789abcdef"
  checkTotp := fun now code _ => code == 6 && decide (now < 30000)
  decodeResetToken := fun _ => some (1, 1)
  oauthExclusiveLogin := false
  hasEncryptionKey := true
  maxFailedAttempts := 5
  cooldownPeriod := 900000
  minLength := 14
  minClasses := 2

/-- The user changes the name. -/
def rename : AuthOp := .updateProfile ⟨1, none, none, none, none, some "renamed", 0⟩

/-- The user resets the password to "new". -/
def resetToNew : AuthOp := .changePasswordFromJwt ⟨some 77, "new", "new", 20⟩

/-- The profile update reads the old hash, the reset goes through, the profile update writes. -/
def staleRename : List (PoolEvent AuthOp) :=
  [.start rename, .step 0, .start resetToNew, .step 1, .step 1, .step 0]

/-- **A change of the name revives the old hash**, in one of the two copies. -/
theorem stale_rename_splits_copies :
    ∃ w, (authMachine exampleHost).run ⟨oneUser, []⟩ staleRename = some w ∧ w.finished ∧
      ¬w.state.Agrees := by
  refine Machine.exists_run (P := fun w => w.finished ∧ w.state.accounts.get? 1 = some 20 ∧
    ((w.state.users.get? 1).all fun user => user.hash == some 10) = true) (by decide +kernel) ?_
  rintro w - ⟨hfinished, haccount, huser⟩
  refine ⟨hfinished, fun hagrees => ?_⟩
  obtain ⟨user, hget, hhash⟩ := hagrees 1 20 haccount
  have hold := beq_iff_eq.mp ((Option.all_eq_true _ _).mp huser user hget)
  rw [hhash] at hold
  exact absurd hold (by decide)

/-- Without the interference the copies agree. -/
theorem copies_agree_in_turn :
    ∃ w, (authMachine exampleHost).run ⟨oneUser, []⟩
        [.start rename, .step 0, .step 0, .start resetToNew, .step 1, .step 1] = some w ∧
      w.state.Agrees := by
  obtain ⟨w, hw⟩ := Option.isSome_iff_exists.mp (show ((authMachine exampleHost).run ⟨oneUser, []⟩
    [.start rename, .step 0, .step 0, .start resetToNew, .step 1, .step 1]).isSome = true by
      decide +kernel)
  exact ⟨w, hw, copies_agree exampleHost oneUser oneUser_agrees _ (by decide +kernel) hw⟩

end ZtPlanet.Ztnet
