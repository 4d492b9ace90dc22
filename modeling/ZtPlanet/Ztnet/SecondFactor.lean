/-
# The second factor at a sign-in

The hook before a sign-in compares the password with `User.hash` and asks for the TOTP code only
where that succeeds; where it fails the hook leaves the matter to better-auth, which compares the
password with `Account.password`.  So the second factor rests on the two comparisons having the
same outcome.

They have it where the copies agree (`PasswordCopies`) and the row that the hook has read is still
the row of the user when better-auth looks, which is what `AuthAct.unchanged` asks.  Then every
session of a user with a second factor comes from a request with a code that was valid at a time
between the read of the user and the creation of the session.
-/
import ZtPlanet.Ztnet.PasswordCopies

namespace ZtPlanet.Ztnet

open ZtPlanet.Lib

/-! ## 1. Guarded sessions -/

/-- The code is the one that the secret gives for the time. -/
def ValidCode (host : AuthHost) (secret : Option TotpSecret) (totpCode : Option TotpCode)
    (time : Nat) : Prop :=
  ∃ encrypted text code, secret = some encrypted ∧ host.decrypt encrypted = some text ∧
    totpCode = some code ∧ host.checkTotp time code text = true

/-- The hook has found the code valid, at a time between its read of the user and `latest`. -/
def HookRecord.Checked (host : AuthHost) (hook : HookRecord) (secret : Option TotpSecret)
    (totpCode : Option TotpCode) (latest : Nat) : Prop :=
  ∃ time ∈ hook.checkedAt, hook.readAt ≤ time ∧ time ≤ latest ∧ ValidCode host secret totpCode time

/-- **Every session of a user with a second factor comes from a request with a code that was valid
while the request was carried out.** -/
def AuthDb.Guarded (host : AuthHost) (db : AuthDb) : Prop :=
  ∀ session ∈ db.sessions, ∃ user, db.users.get? session.userId = some user ∧
    (user.twoFactorEnabled = true → ∃ hook ∈ session.hook,
      hook.Checked host user.twoFactorSecret session.totpCode session.createdAt)

/-- When better-auth verifies the password of a user with a second factor, the user is the one that
the hook has found, with the hash that it has read. -/
def AuthAct.unchanged : AuthAct → AuthDb → Prop
  | .createSession hook email _ _, db =>
    (db.findUserByEmail email).all (fun found => !found.2.twoFactorEnabled ||
      hook.any fun seen => seen.id == found.1 && seen.user.hash == found.2.hash) = true
  | _, _ => True

instance (act : AuthAct) (db : AuthDb) : Decidable (act.unchanged db) :=
  match act with
  | .createSession hook email _ _ => inferInstanceAs (Decidable
      ((db.findUserByEmail email).all (fun found => !found.2.twoFactorEnabled ||
        hook.any fun seen => seen.id == found.1 && seen.user.hash == found.2.hash) = true))
  | .readClock => isTrue trivial
  | .advance _ => isTrue trivial
  | .findUserByEmail _ => isTrue trivial
  | .findUser _ => isTrue trivial
  | .clearFailures _ => isTrue trivial
  | .countFailure _ _ => isTrue trivial
  | .findCredential _ => isTrue trivial
  | .backfillCredential _ _ => isTrue trivial
  | .commitProfile _ _ _ => isTrue trivial
  | .commitReset _ _ _ => isTrue trivial
  | .commitRegistration _ _ _ _ => isTrue trivial

/-- What the steps of a run have to meet. -/
def AuthAct.timely (act : AuthAct) (db : AuthDb) : Prop := act.fresh db ∧ act.unchanged db

instance (act : AuthAct) (db : AuthDb) : Decidable (act.timely db) :=
  inferInstanceAs (Decidable (_ ∧ _))

/-! ## 2. What no procedure changes -/

/-- Every user keeps the second factor. -/
def AuthDb.KeepsSecondFactor (db db' : AuthDb) : Prop :=
  ∀ id user, db.users.get? id = some user →
    ∃ user', db'.users.get? id = some user' ∧ user'.twoFactorEnabled = user.twoFactorEnabled ∧
      user'.twoFactorSecret = user.twoFactorSecret

variable {host : AuthHost} {db db' : AuthDb}

theorem AuthDb.KeepsSecondFactor.refl (db : AuthDb) : db.KeepsSecondFactor db :=
  fun _ user huser => ⟨user, huser, rfl, rfl⟩

theorem AuthDb.KeepsSecondFactor.trans {db₁ db₂ db₃ : AuthDb} (h₁ : db₁.KeepsSecondFactor db₂)
    (h₂ : db₂.KeepsSecondFactor db₃) : db₁.KeepsSecondFactor db₃ := by
  intro id user huser
  obtain ⟨user₂, huser₂, henabled₂, hsecret₂⟩ := h₁ id user huser
  obtain ⟨user₃, huser₃, henabled₃, hsecret₃⟩ := h₂ id user₂ huser₂
  exact ⟨user₃, huser₃, henabled₃.trans henabled₂, hsecret₃.trans hsecret₂⟩

/-- A row is written that has the second factor of the row before, if there was one. -/
theorem keepsSecondFactor_set {users : Dict UserId UserRow} {id : UserId} {user' : UserRow}
    (h : ∀ user, users.get? id = some user →
      user'.twoFactorEnabled = user.twoFactorEnabled ∧
        user'.twoFactorSecret = user.twoFactorSecret) :
    ∀ j user, users.get? j = some user →
      ∃ u, (users.set id user').get? j = some u ∧ u.twoFactorEnabled = user.twoFactorEnabled ∧
        u.twoFactorSecret = user.twoFactorSecret := by
  intro j user huser
  rw [Dict.get?_set]
  by_cases hid : id = j
  · subst hid
    exact ⟨user', if_pos rfl, h user huser⟩
  · exact ⟨user, (if_neg hid).trans huser, rfl, rfl⟩

theorem keepsSecondFactor_updateUser (db : AuthDb) (id : UserId) {f : UserRow → UserRow}
    (hf : ∀ user, (f user).twoFactorEnabled = user.twoFactorEnabled ∧
      (f user).twoFactorSecret = user.twoFactorSecret) :
    db.KeepsSecondFactor (db.updateUser id f).2 := by
  unfold AuthDb.updateUser
  cases huser : db.users.get? id with
  | none => exact .refl db
  | some user =>
    refine keepsSecondFactor_set fun user₀ huser₀ => ?_
    rw [huser, Option.some.injEq] at huser₀
    exact huser₀ ▸ hf user

/-- **No action touches the second factor of a user.** -/
theorem keepsSecondFactor_handle (act : AuthAct) (db : AuthDb) :
    db.KeepsSecondFactor (AuthDb.handle host act db).2 := by
  cases act with
  | clearFailures id => exact keepsSecondFactor_updateUser db id fun _ => ⟨rfl, rfl⟩
  | countFailure id date => exact keepsSecondFactor_updateUser db id fun _ => ⟨rfl, rfl⟩
  | commitProfile id data newHash =>
    change db.KeepsSecondFactor (db.commitProfile id data newHash).2
    unfold AuthDb.commitProfile
    cases huser : db.users.get? id with
    | none => exact .refl db
    | some user =>
      dsimp only
      split
      · exact .refl db
      · refine keepsSecondFactor_set fun user₀ huser₀ => ?_
        rw [huser, Option.some.injEq] at huser₀
        exact huser₀ ▸ ⟨rfl, rfl⟩
  | commitReset token id newHash =>
    change db.KeepsSecondFactor (db.commitReset token id newHash).2
    unfold AuthDb.commitReset
    split
    · cases huser : db.users.get? id with
      | none => exact .refl db
      | some user =>
        refine keepsSecondFactor_set fun user₀ huser₀ => ?_
        rw [huser, Option.some.injEq] at huser₀
        exact huser₀ ▸ ⟨rfl, rfl⟩
    · exact .refl db
  | commitRegistration id email name hash =>
    change db.KeepsSecondFactor (db.commitRegistration id email name hash).2
    unfold AuthDb.commitRegistration
    split
    · exact .refl db
    next hnew =>
      refine keepsSecondFactor_set fun user₀ huser₀ => ?_
      exact absurd (by simp [Dict.contains, huser₀]) hnew
  | createSession hook email password totpCode =>
    change db.KeepsSecondFactor (db.createSession host hook email password totpCode).2
    unfold AuthDb.createSession
    split
    · exact .refl db
    · split
      · exact .refl db
      · split
        · exact .refl db
        · exact .refl db
  | _ => exact .refl db

/-- Sessions stay guarded while users keep their second factor. -/
theorem AuthDb.Guarded.of_keeps (h : db.Guarded host) (hkeeps : db.KeepsSecondFactor db')
    (hsessions : ∀ session ∈ db'.sessions, session ∈ db.sessions) : db'.Guarded host := by
  intro session hsession
  obtain ⟨user, huser, hvalid⟩ := h session (hsessions session hsession)
  obtain ⟨user', huser', henabled, hsecret⟩ := hkeeps _ user huser
  exact ⟨user', huser', fun h => hsecret.symm ▸ hvalid (henabled ▸ h)⟩

/-- Only the endpoint adds a session. -/
theorem sessions_handle {act : AuthAct}
    (hact : ∀ hook email password totpCode, act ≠ .createSession hook email password totpCode) :
    ∀ session ∈ (AuthDb.handle host act db).2.sessions, session ∈ db.sessions := by
  cases act with
  | clearFailures id =>
    change ∀ session ∈ (db.updateUser id _).2.sessions, session ∈ db.sessions
    unfold AuthDb.updateUser
    split
    · exact fun _ h => h
    · exact fun _ h => h
  | countFailure id date =>
    change ∀ session ∈ (db.updateUser id _).2.sessions, session ∈ db.sessions
    unfold AuthDb.updateUser
    split
    · exact fun _ h => h
    · exact fun _ h => h
  | commitProfile id data newHash =>
    change ∀ session ∈ (db.commitProfile id data newHash).2.sessions, session ∈ db.sessions
    unfold AuthDb.commitProfile
    split
    · exact fun _ h => h
    · split
      · exact fun _ h => h
      · exact fun _ h => h
  | commitReset token id newHash =>
    change ∀ session ∈ (db.commitReset token id newHash).2.sessions, session ∈ db.sessions
    unfold AuthDb.commitReset
    split
    · split
      · exact fun _ h => h
      · exact fun _ h => (List.mem_filter.mp h).1
    · exact fun _ h => h
  | commitRegistration id email name hash =>
    change ∀ session ∈ (db.commitRegistration id email name hash).2.sessions, session ∈ db.sessions
    unfold AuthDb.commitRegistration
    split
    · exact fun _ h => h
    · exact fun _ h => h
  | createSession hook email password totpCode => exact absurd rfl (hact _ _ _ _)
  | _ => exact fun _ h => h

/-! ## 3. What the procedures rely on -/

/-- The invariant of the runs. -/
def AuthDb.Sound (host : AuthHost) (db : AuthDb) : Prop := db.Agrees ∧ db.Guarded host

/-- What every action respects. -/
structure AuthDb.Respects (host : AuthHost) (db db' : AuthDb) : Prop where
  clock : db.now ≤ db'.now
  keeps : db.KeepsSecondFactor db'
  sound : db.Sound host → db'.Sound host

theorem AuthDb.Respects.refl (db : AuthDb) : db.Respects host db :=
  ⟨Nat.le_refl _, .refl db, fun h => h⟩

theorem AuthDb.Respects.trans {db₁ db₂ db₃ : AuthDb} (h₁ : db₁.Respects host db₂)
    (h₂ : db₂.Respects host db₃) : db₁.Respects host db₃ :=
  ⟨h₁.clock.trans h₂.clock, h₁.keeps.trans h₂.keeps, fun h => h₂.sound (h₁.sound h)⟩

/-- Time does not go back. -/
theorem now_le_handle (act : AuthAct) (db : AuthDb) :
    db.now ≤ (AuthDb.handle host act db).2.now := by
  cases act with
  | advance ms => exact Nat.le_add_right _ _
  | clearFailures id => exact (now_updateUser db id).ge
  | countFailure id date => exact (now_updateUser db id).ge
  | commitProfile id data newHash => exact (now_commitProfile db id data newHash).ge
  | commitReset token id newHash => exact (now_commitReset db token id newHash).ge
  | commitRegistration id email name hash => exact (now_commitRegistration db id email name hash).ge
  | createSession hook email password totpCode => exact (now_createSession db).ge
  | _ => exact Nat.le_refl _

/-- The action is not the endpoint of a sign-in. -/
def AuthAct.isPlain (act : AuthAct) : Prop :=
  ∀ hook email password totpCode, act ≠ .createSession hook email password totpCode

/-- **Every action but the endpoint respects the invariant**, unless it is a stale write-back. -/
theorem respects_handle {act : AuthAct} (hplain : act.isPlain) (hfresh : act.fresh db) :
    db.Respects host (AuthDb.handle host act db).2 where
  clock := now_le_handle act db
  keeps := keepsSecondFactor_handle act db
  sound h := ⟨h.1.handle hfresh,
    h.2.of_keeps (keepsSecondFactor_handle act db) (sessions_handle hplain)⟩

/-- A program without the endpoint is steady. -/
theorem steady_of_plain {α : Type} {p : Auth α} (hp : Prog.Only AuthAct.isPlain p) (db : AuthDb) :
    Prog.Steady (AuthDb.handle host) (AuthDb.Respects host) AuthAct.timely (fun _ _ => True)
      (fun _ db' => db.Respects host db') p db :=
  hp.steady .refl (fun _ _ _ => .trans) fun _ _ hplain hok =>
    ⟨trivial, respects_handle hplain hok.1⟩

/-! ## 4. The hook -/

theorem only_plain (act : AuthAct) (hact : act.isPlain) :
    Prog.Only AuthAct.isPlain (auth act) :=
  Prog.only_call hact

theorem countFailure_plain (id : UserId) : Prog.Only AuthAct.isPlain (countFailure id) :=
  (only_plain .readClock fun _ _ _ _ => AuthAct.noConfusion).bind fun date =>
    only_plain (.countFailure id date) fun _ _ _ _ => AuthAct.noConfusion

/-- What the hook has established when it is done. -/
def HookResult (host : AuthHost) (req : SignIn) (hook : HookRecord) (now : Nat) : Prop :=
  hook.user.twoFactorEnabled = true →
    (∀ password hash, req.password = some password → hook.user.hash = some hash →
      host.compare password hash = true) →
    hook.Checked host hook.user.twoFactorSecret req.totpCode now

/-- **Where the second factor lets a request through**, the code is valid at the time that the clock
has shown in the meantime. -/
theorem checkSecondFactor_steady (host : AuthHost) (id : UserId) (user : UserRow)
    (totpCode : Option TotpCode) (db : AuthDb) :
    Prog.Steady (AuthDb.handle host) (AuthDb.Respects host) AuthAct.timely (fun _ _ => True)
      (fun r db' => ∀ checkedAt, r = .ok checkedAt → db.Respects host db' ∧
        (user.twoFactorEnabled = true → ∃ time ∈ checkedAt, db.now ≤ time ∧ time ≤ db'.now ∧
          ValidCode host user.twoFactorSecret totpCode time))
      (checkSecondFactor host id user totpCode) db := by
  unfold checkSecondFactor
  split
  · split
    · exact Prog.steady_throw fun _ herror => (nomatch herror)
    next code =>
      split
      · exact Prog.steady_throw fun _ herror => (nomatch herror)
      next encrypted hsecret =>
        split
        · exact Prog.steady_throw fun _ herror => (nomatch herror)
        · split
          · exact Prog.steady_throw fun _ herror => (nomatch herror)
          next text htext =>
            split
            · exact Prog.steady_throw fun _ herror => (nomatch herror)
            · refine Prog.Steady.bind (Prog.steady_call fun db₁ hrely _ =>
                ⟨trivial, .refl db₁, ?_⟩)
              rw [show AuthDb.handle host .readClock db₁ = (.ok db₁.now, db₁) from rfl]
              dsimp only
              split
              next hvalid =>
                refine Prog.steady_pure fun checkedAt hchecked => ?_
                cases hchecked
                exact ⟨hrely, fun _ => ⟨db₁.now, rfl, hrely.clock, Nat.le_refl _, encrypted, text,
                  code, hsecret, htext, rfl, hvalid⟩⟩
              next =>
                refine Prog.Steady.bind ((steady_of_plain (countFailure_plain id) db₁).mono ?_)
                rintro (e | _) db₂ -
                · exact fun _ herror => (nomatch herror)
                · exact Prog.steady_throw fun _ herror => (nomatch herror)
  next hdisabled =>
    refine Prog.steady_pure fun checkedAt hchecked => ⟨.refl db, fun henabled => ?_⟩
    exact absurd henabled hdisabled

theorem trackFailure_yields (host : AuthHost) (id : UserId) (user : UserRow)
    (password : Option Password) :
    Prog.Yields (fun valid => valid = false → ∃ text hash, password = some text ∧
      user.hash = some hash ∧ host.compare text hash = false)
      (trackFailure host id user password) := by
  unfold trackFailure
  split
  next text hash hhash =>
    split
    · exact Prog.yields_pure fun h => (nomatch h)
    next hcompare =>
      refine (Prog.yields_of_forall (P := fun _ => True) fun _ => trivial).bind fun _ _ => ?_
      exact Prog.yields_pure fun _ => ⟨text, hash, rfl, hhash, Bool.eq_false_iff.mpr hcompare⟩
  · exact Prog.yields_pure fun h => (nomatch h)

theorem checkCooldown_plain (host : AuthHost) (id : UserId) (user : UserRow) :
    Prog.Only AuthAct.isPlain (checkCooldown host id user) := by
  unfold checkCooldown
  split
  · exact Prog.only_pure _
  · split
    · refine (only_plain .readClock fun _ _ _ _ => AuthAct.noConfusion).bind fun now => ?_
      split
      · exact Prog.only_throw _
      · exact only_plain (.clearFailures id) fun _ _ _ _ => AuthAct.noConfusion
    · exact Prog.only_pure _

theorem trackFailure_plain (host : AuthHost) (id : UserId) (user : UserRow)
    (password : Option Password) :
    Prog.Only AuthAct.isPlain (trackFailure host id user password) := by
  unfold trackFailure
  split
  · split
    · exact Prog.only_pure _
    · exact (countFailure_plain id).bind fun _ => Prog.only_pure _
  · exact Prog.only_pure _

theorem backfill_plain (id : UserId) (user : UserRow) :
    Prog.Only AuthAct.isPlain (backfill id user) := by
  refine (only_plain (.findCredential id) fun _ _ _ _ => AuthAct.noConfusion).bind
    fun existingAccount => ?_
  split
  · exact only_plain (.backfillCredential id _) fun _ _ _ _ => AuthAct.noConfusion
  · exact Prog.only_pure _

/-- The part of the hook behind its read of the user. -/
def hookBehindRead (host : AuthHost) (req : SignIn) (found : Found) : Auth (Option HookRecord) := do
  checkCooldown host found.id found.user
  let valid ← trackFailure host found.id found.user req.password
  if valid then do
    backfill found.id found.user
    let checkedAt ← checkSecondFactor host found.id found.user req.totpCode
    return some ⟨found, checkedAt⟩
  else return some ⟨found, none⟩

theorem hookBehindRead_steady (host : AuthHost) (req : SignIn) (found : Found)
    (hread : found.readAt ≤ db.now) :
    Prog.Steady (AuthDb.handle host) (AuthDb.Respects host) AuthAct.timely (fun _ _ => True)
      (fun r db' => ∀ seen, r = .ok seen → db.Respects host db' ∧
        ∃ hook, seen = some hook ∧ hook.toFound = found ∧ HookResult host req hook db'.now)
      (hookBehindRead host req found) db := by
  refine Prog.Steady.bind ((steady_of_plain (checkCooldown_plain host _ _) db).mono ?_)
  rintro (e | _) db₁ hrespects₁
  · exact fun _ herror => (nomatch herror)
  refine Prog.Steady.bind (((steady_of_plain (trackFailure_plain host _ _ _) db₁).and_yields
    (trackFailure_yields host _ _ _)).mono ?_)
  rintro (e | valid) db₂ ⟨hrespects₂, hvalid⟩
  · exact fun _ herror => (nomatch herror)
  have hrespects := hrespects₁.trans hrespects₂
  cases valid with
  | true =>
    refine Prog.Steady.bind ((steady_of_plain (backfill_plain _ _) db₂).mono ?_)
    rintro (e | _) db₃ hrespects₃
    · exact fun _ herror => (nomatch herror)
    refine Prog.Steady.bind ((checkSecondFactor_steady host _ _ _ db₃).mono ?_)
    rintro (e | checkedAt) db₄ hchecked
    · exact fun _ herror => (nomatch herror)
    obtain ⟨hrespects₄, hcode⟩ := hchecked checkedAt rfl
    have hrespects' := hrespects.trans hrespects₃
    refine Prog.steady_pure fun seen hseen => ?_
    cases hseen
    refine ⟨hrespects'.trans hrespects₄, _, rfl, rfl, fun henabled _ => ?_⟩
    obtain ⟨time, htime, hfrom, huntil, hcode⟩ := hcode henabled
    exact ⟨time, htime, hread.trans (hrespects'.clock.trans hfrom), huntil, hcode⟩
  | false =>
    obtain ⟨text, hash, htext, hhash, hcompare⟩ := hvalid false rfl rfl
    refine Prog.steady_pure fun seen hseen => ?_
    cases hseen
    refine ⟨hrespects, _, rfl, rfl, fun _ hall => ?_⟩
    rw [hall text hash htext hhash] at hcompare
    cases hcompare

theorem get?_of_findUserByEmail {email : Email} {found : UserId × UserRow}
    (h : db.findUserByEmail email = some found) : db.users.get? found.1 = some found.2 :=
  Dict.get?_eq_some_iff.mpr (List.mem_of_find?_eq_some h)

/-- The user that the hook has found still has the second factor that the hook has seen. -/
def Remembers (db : AuthDb) (found : Found) : Prop :=
  ∃ user, db.users.get? found.id = some user ∧
    user.twoFactorEnabled = found.user.twoFactorEnabled ∧
      user.twoFactorSecret = found.user.twoFactorSecret

theorem Remembers.of_keeps {found : Found} (h : Remembers db found)
    (hkeeps : db.KeepsSecondFactor db') : Remembers db' found := by
  obtain ⟨user, huser, henabled, hsecret⟩ := h
  obtain ⟨user', huser', henabled', hsecret'⟩ := hkeeps _ _ huser
  exact ⟨user', huser', henabled'.trans henabled, hsecret'.trans hsecret⟩

/-- **What the hook establishes**, whatever happens while it runs. -/
theorem hook_steady (host : AuthHost) (req : SignIn) (h : db.Sound host) :
    Prog.Steady (AuthDb.handle host) (AuthDb.Respects host) AuthAct.timely (fun _ _ => True)
      (fun r db' => ∀ seen, r = .ok seen → db'.Sound host ∧ ∀ hook, seen = some hook →
        Remembers db' hook.toFound ∧ HookResult host req hook db'.now)
      (runBeforeAuthHook host req) db := by
  unfold runBeforeAuthHook
  split
  · exact Prog.steady_throw fun seen hseen => (nomatch hseen)
  · split
    · refine Prog.steady_pure fun seen hseen => ?_
      cases hseen
      exact ⟨h, fun hook hhook => (nomatch hhook)⟩
    next email hemail =>
      refine Prog.Steady.bind (Prog.steady_call fun db₁ hrely _ => ⟨trivial, .refl db₁, ?_⟩)
      have hsound := hrely.sound h
      rw [show AuthDb.handle host (.findUserByEmail email) db₁ =
        (.ok ((db₁.findUserByEmail email).map fun found => ⟨found.1, found.2, db₁.now⟩), db₁)
          from rfl]
      cases hfound : db₁.findUserByEmail email with
      | none =>
        refine Prog.steady_pure fun seen hseen => ?_
        cases hseen
        exact ⟨hsound, fun hook hhook => (nomatch hhook)⟩
      | some found =>
        obtain ⟨id, user⟩ := found
        refine (hookBehindRead_steady host req ⟨id, user, db₁.now⟩ (Nat.le_refl _)).mono ?_
        rintro r db₂ hbehind seen rfl
        obtain ⟨hrespects, hook, rfl, hhook, hresult⟩ := hbehind seen rfl
        refine ⟨hrespects.sound hsound, fun hook' hsame => ?_⟩
        cases hsame
        refine ⟨?_, hresult⟩
        rw [hhook]
        exact Remembers.of_keeps ⟨user, get?_of_findUserByEmail hfound, rfl, rfl⟩ hrespects.keeps

/-! ## 5. The endpoint -/

/-- **The endpoint keeps the sessions guarded** where the row that the hook has read is still
there. -/
theorem createSession_sound {req : SignIn} {hook : Option HookRecord} {email : Email}
    {password : Password} (hpassword : req.password = some password) (h : db.Sound host)
    (hhook : ∀ seen, hook = some seen →
      Remembers db seen.toFound ∧ HookResult host req seen db.now)
    (hunchanged : (AuthAct.createSession hook email password req.totpCode).unchanged db) :
    (db.createSession host hook email password req.totpCode).2.Sound host := by
  unfold AuthDb.createSession
  cases hfound : db.findUserByEmail email with
  | none => exact h
  | some found =>
    obtain ⟨id, user⟩ := found
    have huser : db.users.get? id = some user := get?_of_findUserByEmail hfound
    dsimp only
    cases haccount : db.accounts.get? id with
    | none => exact h
    | some hash =>
      dsimp only
      split
      next hcompare =>
        refine ⟨h.1, fun session hsession => ?_⟩
        rcases List.mem_append.mp hsession with hold | hnew
        · exact h.2 session hold
        · rw [List.mem_singleton.mp hnew]
          refine ⟨user, huser, fun henabled => ?_⟩
          have hall := (Option.all_eq_true _ _).mp hunchanged (id, user) hfound
          simp only [henabled, Bool.not_true, Bool.false_or] at hall
          obtain ⟨seen, hseen, hsame⟩ := (Option.any_eq_true _ _).mp hall
          simp only [Bool.and_eq_true, beq_iff_eq] at hsame
          obtain ⟨hid, hhash⟩ := hsame
          obtain ⟨⟨user₁, huser₁, henabled₁, hsecret₁⟩, hresult⟩ := hhook _ hseen
          rw [hid, huser, Option.some.injEq] at huser₁
          subst huser₁
          obtain ⟨owner, howner, hcopy⟩ := h.1 id hash haccount
          rw [huser, Option.some.injEq] at howner
          subst howner
          refine ⟨seen, hseen, ?_⟩
          rw [hsecret₁]
          refine hresult (henabled₁ ▸ henabled) fun text hash' htext hhash' => ?_
          rw [hpassword, Option.some.injEq] at htext
          rw [hhash, hcopy, Option.some.injEq] at hhash'
          exact htext ▸ hhash' ▸ hcompare
      next => exact h

theorem signIn_steady (host : AuthHost) (req : SignIn) (h : db.Sound host) :
    Prog.Steady (AuthDb.handle host) (AuthDb.Respects host) AuthAct.timely (fun _ _ => True)
      (fun _ _ => True) (signIn host req) db := by
  refine Prog.Steady.bind ((hook_steady host req h).mono ?_)
  rintro r db₁ hhook
  cases r with
  | error e => trivial
  | ok hook =>
    obtain ⟨hsound, hseen⟩ := hhook hook rfl
    dsimp only
    split
    next email password hemail hpassword =>
      refine Prog.steady_call (fun db₂ hrely hok => ?_ : ∀ db₂, db₁.Respects host db₂ →
        (AuthAct.createSession hook email password req.totpCode).timely db₂ → _)
      refine ⟨trivial, ⟨now_le_handle _ db₂, keepsSecondFactor_handle _ db₂, fun hsound₂ => ?_⟩,
        trivial⟩
      refine createSession_sound hpassword hsound₂ (fun seen hfound => ?_) hok.2
      obtain ⟨hremembers, hresult⟩ := hseen seen hfound
      refine ⟨hremembers.of_keeps hrely.keeps, fun henabled hall => ?_⟩
      obtain ⟨time, htime, hfrom, huntil, hcode⟩ := hresult henabled hall
      exact ⟨time, htime, hfrom, huntil.trans hrely.clock, hcode⟩
    next => exact Prog.steady_throw trivial

/-! ## 6. Runs -/

theorem updateProfile_plain (host : AuthHost) (input : ProfileInput) :
    Prog.Only AuthAct.isPlain (updateProfile host input) := by
  refine (only_plain (.findUser _) fun _ _ _ _ => AuthAct.noConfusion).bind fun user => ?_
  cases user with
  | none => exact Prog.only_throw _
  | some user =>
    refine (Prog.only_ofExcept _).bind fun _ => ?_
    exact only_plain (.commitProfile _ _ _) fun _ _ _ _ => AuthAct.noConfusion

theorem changePasswordFromJwt_plain (host : AuthHost) (input : ResetInput) :
    Prog.Only AuthAct.isPlain (changePasswordFromJwt host input) := by
  unfold changePasswordFromJwt
  split
  · exact Prog.only_throw _
  · split
    · exact Prog.only_throw _
    · refine Prog.Only.tryCatch ?_ fun _ => Prog.only_throw _
      split
      · exact Prog.only_throw _
      · refine (only_plain (.findUser _) fun _ _ _ _ => AuthAct.noConfusion).bind fun user => ?_
        cases user with
        | none => exact Prog.only_throw _
        | some user =>
          dsimp only
          split
          · exact Prog.only_throw _
          · exact only_plain (.commitReset _ _ _) fun _ _ _ _ => AuthAct.noConfusion

theorem register_plain (host : AuthHost) (input : RegisterInput) :
    Prog.Only AuthAct.isPlain (register host input) := by
  unfold register
  split
  · exact Prog.only_throw _
  · refine (only_plain (.findUserByEmail _) fun _ _ _ _ => AuthAct.noConfusion).bind
      fun registerUser => ?_
    split
    · exact Prog.only_throw _
    · split
      · exact Prog.only_throw _
      · exact only_plain (.commitRegistration _ _ _ _) fun _ _ _ _ => AuthAct.noConfusion

theorem program_steady (host : AuthHost) (op : AuthOp) (h : db.Sound host) :
    Prog.Steady (AuthDb.handle host) (AuthDb.Respects host) AuthAct.timely (fun _ _ => True)
      (fun _ _ => True) (op.program host) db := by
  cases op with
  | signIn req => exact signIn_steady host req h
  | updateProfile input =>
    exact (steady_of_plain (updateProfile_plain host input) db).mono fun _ _ _ => trivial
  | changePasswordFromJwt input =>
    exact (steady_of_plain (changePasswordFromJwt_plain host input) db).mono fun _ _ _ => trivial
  | register input =>
    exact (steady_of_plain (register_plain host input) db).mono fun _ _ _ => trivial
  | advance ms =>
    have hplain := only_plain (.advance ms) fun _ _ _ _ => AuthAct.noConfusion
    exact (steady_of_plain hplain db).mono fun _ _ _ => trivial

/-- **The second factor cannot be skipped.**  In every run in which what is written back is what is
stored, and in which the row that a hook has read is unchanged when better-auth verifies the
password, every session of a user with a second factor comes from a request with a code that was
valid while the request was carried out. -/
theorem second_factor_required (host : AuthHost) (db : AuthDb) (hagrees : db.Agrees)
    (hsessions : db.sessions = []) (events : List (PoolEvent AuthOp))
    {w : PoolState AuthAct AuthAct.Ans Failure Unit AuthDb}
    (htimely : (authMachine host).Conforms (PoolState.meets AuthAct.timely) ⟨db, []⟩ events)
    (hrun : (authMachine host).run ⟨db, []⟩ events = some w) : w.state.Guarded host := by
  have hguarded : db.Guarded host := by
    intro session hsession
    rw [hsessions] at hsession
    cases hsession
  refine (pool_invariant (R := AuthDb.Respects host) (Q := fun _ _ => True) (I := AuthDb.Sound host)
    .refl (fun _ _ _ => .trans) (fun _ _ h hR => hR.sound h)
      (fun op db h => program_steady host op h)
    ⟨hagrees, hguarded⟩ ?_ htimely hrun).2
  intro p hp
  cases hp

/-! ## 7. A session without a code -/

/-- A sign-in with the new password and without a code. -/
def signInWithNew : AuthOp := .signIn ⟨some 1, some "new", none⟩

/-- After the stale change of the name, the hook compares the new password with the old hash. -/
def skippedCode : List (PoolEvent AuthOp) :=
  staleRename ++ [.start signInWithNew, .step 2, .step 2, .step 2, .step 2]

/-- **A session of a user with a second factor, without a code.** -/
theorem session_without_code :
    ∃ w, (authMachine exampleHost).run ⟨oneUser, []⟩ skippedCode = some w ∧
      ¬w.state.Guarded exampleHost := by
  refine Machine.exists_run (P := fun w => (w.state.sessions.any fun session =>
      session.userId == 1 && session.totpCode == none) = true ∧
    ((w.state.users.get? 1).all fun user => user.twoFactorEnabled) = true) (by decide +kernel) ?_
  rintro w - ⟨hsessions, henabled⟩ hguarded
  obtain ⟨session, hsession, hnone⟩ := List.any_eq_true.mp hsessions
  simp only [Bool.and_eq_true, beq_iff_eq] at hnone
  obtain ⟨user, huser, hvalid⟩ := hguarded session hsession
  rw [hnone.1] at huser
  obtain ⟨_, _, _, _, _, _, _, _, code, _, _, hcode, _⟩ :=
    hvalid ((Option.all_eq_true _ _).mp henabled user huser)
  rw [hnone.2] at hcode
  cases hcode

/-- A sign-in with the code. -/
theorem second_factor_required_example :
    ∃ w, (authMachine exampleHost).run ⟨oneUser, []⟩
        [.start (.signIn ⟨some 1, some "old", some 6⟩), .step 0, .start (.advance 20000), .step 1,
          .step 0, .step 0, .step 0] = some w ∧
      w.state.sessions.map SessionRow.createdAt = [20000] ∧ w.state.Guarded exampleHost := by
  refine Machine.exists_run (P := fun w => w.state.sessions.map SessionRow.createdAt = [20000])
    (by decide +kernel) fun w hw hsessions => ⟨hsessions, ?_⟩
  exact second_factor_required exampleHost oneUser oneUser_agrees rfl _ (by decide +kernel) hw

end ZtPlanet.Ztnet
