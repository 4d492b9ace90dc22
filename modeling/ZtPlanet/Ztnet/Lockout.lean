/-
# The lockout of an account

The hook before a sign-in reads the row of the user, refuses the attempt where the row says that the
account is locked, compares the password, and counts a failure in the row.  `Credential.lean` takes
the comparison together with the read before it; here it is an action of its own, because bcrypt is
slow and other attempts go on in the meantime.  The update that counts a failure carries the date
with it, so that two updates can reach the row in the other order than their dates.

The account is one, and so is its row.  What is recorded besides is each wrong comparison with its
time, and each sign-in, so that `Bounded` can say what the lockout is for: no stretch of time as
long as the cool-down and without a sign-in sees more wrong comparisons than are allowed.

The bound is kept by attempts that do not act on a row that has changed: a wrong password is
compared only while the failures that are counted or about to be leave room for it, a lockout is
cleared only if it still is one that has elapsed, and a failure is counted only if the row has none
that is later.  `six_at_once` breaks the first and `counted_late` the last.
-/
import ZtPlanet.Ztnet.Credential
import ZtPlanet.Lib.Interleave

namespace ZtPlanet.Ztnet.Lockout

open ZtPlanet.Lib

/-! ## 1. The hook, with the comparison as an action -/

/-- What is recorded of the attempts. -/
inductive LogEntry where
  /-- a wrong password has been compared -/
  | wrong (time : Nat)
  | signedIn
deriving DecidableEq

/-- The account. -/
structure AccountDb where
  /-- `Date.now()` -/
  now : Nat
  user : UserRow
  /-- `Account.password` of the account with the provider `credential` -/
  account : Option PasswordHash
  /-- what has happened, the latest first -/
  log : List LogEntry

inductive LoginAct where
  /-- `Date.now()` -/
  | readClock
  /-- `new Date()` -/
  | newDate
  /-- time passes -/
  | advance (ms : Nat)
  | findUser
  /-- the update that ends an elapsed lockout -/
  | clearFailures
  /-- bcrypt's `compare` in the hook -/
  | compare (password : Password) (hash : PasswordHash)
  /-- the update that counts a failed attempt, with its date -/
  | countFailure (date : Nat)
  | findCredential
  /-- the upsert of the hook -/
  | backfillCredential (password : PasswordHash)
  /-- the endpoint behind the hook compares with `Account.password` -/
  | verifyPassword (password : Password)
  /-- `onSessionCreated` -/
  | createSession
deriving DecidableEq

@[reducible] def LoginAct.Ans : LoginAct → Type
  | .readClock | .newDate => Nat
  | .findUser => UserRow
  | .compare _ _ | .verifyPassword _ => Bool
  | .findCredential => Option PasswordHash
  | _ => Unit

structure LoginHost extends AuthHost where
  /-- the account is active and has not expired at the time -/
  admits : Nat → Bool

/-- What each action does. -/
def AccountDb.handle (host : LoginHost) : Prog.Handler LoginAct LoginAct.Ans Failure AccountDb
  | .readClock, db | .newDate, db => (.ok db.now, db)
  | .advance ms, db => (.ok (), { db with now := db.now + ms })
  | .findUser, db => (.ok db.user, db)
  | .clearFailures, db => (.ok (), { db with
      user := { db.user with failedLoginAttempts := 0, lastFailedLoginAttempt := none } })
  | .compare password hash, db =>
    if host.compare password hash then (.ok true, db)
    else (.ok false, { db with log := .wrong db.now :: db.log })
  | .countFailure date, db => (.ok (), { db with
      user := { db.user with
        failedLoginAttempts := db.user.failedLoginAttempts + 1
        lastFailedLoginAttempt := some date } })
  | .findCredential, db => (.ok db.account, db)
  | .backfillCredential password, db => (.ok (), { db with account := some password })
  | .verifyPassword password, db =>
    (.ok (db.account.any fun hash => host.compare password hash), db)
  | .createSession, db =>
    if host.admits db.now then
      (.ok (), { db with
        user := { db.user with failedLoginAttempts := 0, lastFailedLoginAttempt := none }
        log := .signedIn :: db.log })
    else (.error (.trpc .forbidden "account-expired"), db)

/-- A procedure. -/
abbrev Login (α : Type) : Type := Prog LoginAct LoginAct.Ans Failure α

abbrev login (act : LoginAct) : Login act.Ans := Prog.call act

/-- A request to `/sign-in/email` with the address of the account. -/
structure Attempt where
  password : Option Password
  /-- the header `x-totp-code` -/
  totpCode : Option TotpCode

/-- The first part of the hook: the cooldown. -/
def checkCooldown (host : LoginHost) (user : UserRow) : Login Unit :=
  match user.lastFailedLoginAttempt with
  | none => pure ()
  | some last =>
    if host.maxFailedAttempts ≤ user.failedLoginAttempts then do
      let now ← login .readClock
      if now < last + host.cooldownPeriod then
        throw (.trpc .tooManyRequests "Too many failed attempts. Please try again later.")
      else login .clearFailures
    else pure ()

/-- `prisma.user.update` with the counter and `lastFailedLoginAttempt: new Date()`, which is
evaluated before the update is sent. -/
def countFailure : Login Unit := do
  let date ← login .newDate
  login (.countFailure date)

/-- What follows the comparison: a failure is counted. -/
def countIfWrong (valid : Bool) : Login Bool :=
  if valid then pure true
  else do
    countFailure
    return false

/-- The second part: whether the hook goes on behind the comparison with `User.hash`. -/
def trackFailure (user : UserRow) (password : Option Password) : Login Bool :=
  match password, user.hash with
  | some password, some hash => login (.compare password hash) >>= countIfWrong
  | _, _ => pure true

/-- The third part: the backfill of the account. -/
def backfill (user : UserRow) : Login Unit := do
  let existingAccount ← login .findCredential
  match existingAccount, user.hash with
  | none, some hash => login (.backfillCredential hash)
  | _, _ => pure ()

/-- The fourth part: the second factor. -/
def checkSecondFactor (host : LoginHost) (user : UserRow) (totpCode : Option TotpCode) :
    Login Unit :=
  if user.twoFactorEnabled then
    match totpCode with
    | none => throw (.trpc .forbidden "second-factor-required")
    | some code =>
      match user.twoFactorSecret with
      | none => throw (.trpc .internalServerError "Internal server error")
      | some encrypted =>
        if !host.hasEncryptionKey then
          throw (.trpc .internalServerError "Internal server error")
        else
          match host.decrypt encrypted with
          | none => throw (.error "Decryption failed")
          | some secret =>
            if secret.length ≠ 32 then throw (.trpc .internalServerError "Internal server error")
            else do
              let now ← login .readClock
              if host.checkTotp now code secret then pure ()
              else do
                countFailure
                throw (.trpc .unauthorized "incorrect-two-factor-code")
  else pure ()

/-- `runBeforeAuthHook` for `/sign-in/email`. -/
def runBeforeAuthHook (host : LoginHost) (req : Attempt) : Login Unit :=
  if host.oauthExclusiveLogin then
    throw (.trpc .forbidden "Email/password authentication is disabled. Please use OAuth.")
  else do
    let user ← login .findUser
    checkCooldown host user
    let valid ← trackFailure user req.password
    if valid then do
      backfill user
      checkSecondFactor host user req.totpCode
    else pure ()

/-- A sign-in: the hook, then the endpoint, then the hook of the session. -/
def signIn (host : LoginHost) (req : Attempt) : Login Unit := do
  runBeforeAuthHook host req
  match req.password with
  | none => throw (.trpc .badRequest "Validation error")
  | some password => do
    let valid ← login (.verifyPassword password)
    if valid then login .createSession else throw invalidCredentials

/-- What can be started. -/
inductive LoginOp where
  | signIn (req : Attempt)
  /-- a sign-in with OAuth, which the provider has let through -/
  | oauthCallback
  /-- the clock -/
  | advance (ms : Nat)

def LoginOp.program (host : LoginHost) : LoginOp → Login Unit
  | .signIn req => Lockout.signIn host req
  | .oauthCallback => login .createSession
  | .advance ms => login (.advance ms)

/-- The attempts take turns. -/
abbrev loginMachine (host : LoginHost) :
    Machine (PoolState LoginAct LoginAct.Ans Failure Unit AccountDb) (PoolEvent LoginOp) :=
  poolMachine (AccountDb.handle host) (LoginOp.program host)

/-! ## 2. The bound -/

/-- The entry is a wrong comparison that a cool-down beginning with it still covers. -/
def LogEntry.recent (host : LoginHost) (now : Nat) : LogEntry → Bool
  | .wrong time => now < time + host.cooldownPeriod
  | .signedIn => false

/-- The entry is a wrong comparison. -/
def LogEntry.isWrong : LogEntry → Bool
  | .wrong _ => true
  | .signedIn => false

/-- **The lockout bound**: a stretch of the log without a sign-in, in which any two wrong
comparisons are less than the cool-down apart, has at most `MAX_FAILED_ATTEMPTS` of them. -/
def Bounded (host : LoginHost) (log : List LogEntry) : Prop :=
  ∀ window, window <:+: log → .signedIn ∉ window →
    (∀ t t', .wrong t ∈ window → .wrong t' ∈ window → t' < t + host.cooldownPeriod) →
    window.countP LogEntry.isWrong ≤ host.maxFailedAttempts

/-- What is owed: for a wrong password the date, and for the date the count. -/
def owes : (act : LoginAct) → Except Failure act.Ans → Option LoginAct
  | .compare _ _, .ok false => some .newDate
  | .newDate, .ok date => some (.countFailure date)
  | _, _ => none

/-- The action counts a failure, or dates one that is to be counted. -/
def LoginAct.counts : LoginAct → Bool
  | .newDate | .countFailure _ => true
  | _ => false

/-- The action does not act on a row that has changed since the attempt read it: a wrong password is
compared only while the failures that are counted, or are due to be, leave room for it, what is
cleared is a lockout that has elapsed, and what is counted is not earlier than the last failure of
the row. -/
def LoginAct.Current (host : LoginHost) (db : AccountDb) (due : Nat) : LoginAct → Prop
  | .compare password hash => host.compare password hash = false →
    db.user.failedLoginAttempts + due < host.maxFailedAttempts
  | .clearFailures => ∃ last ∈ db.user.lastFailedLoginAttempt, last + host.cooldownPeriod ≤ db.now
  | .countFailure date => ∀ last ∈ db.user.lastFailedLoginAttempt, last ≤ date
  | _ => True

/-- The action of the event, if any, does not act on a row that has changed. -/
def Current (host : LoginHost) (w : PoolState LoginAct LoginAct.Ans Failure Unit AccountDb)
    (event : PoolEvent LoginOp) : Prop :=
  ∀ act ∈ w.performs event, act.Current host w.state (w.due LoginAct.counts)

instance (host : LoginHost) (db : AccountDb) (due : Nat) (act : LoginAct) :
    Decidable (act.Current host db due) := by
  cases act <;> unfold LoginAct.Current <;> infer_instance

instance (host : LoginHost) (w : PoolState LoginAct LoginAct.Ans Failure Unit AccountDb)
    (event : PoolEvent LoginOp) : Decidable (Current host w event) :=
  inferInstanceAs (Decidable (∀ act ∈ w.performs event, act.Current host w.state _))

/-! ## 3. What the counter accounts for -/

/-- The entries since the last sign-in. -/
def sinceSignIn (log : List LogEntry) : List LogEntry :=
  log.takeWhile fun entry => entry ≠ .signedIn

/-- The entry is a wrong comparison later than the time. -/
def LogEntry.after (time : Nat) : LogEntry → Bool
  | .wrong t => time < t
  | .signedIn => false

/-- The action counts a failure later than the time, or dates one that is to be counted. -/
def LoginAct.after (time : Nat) : LoginAct → Bool
  | .newDate => true
  | .countFailure date => time < date
  | _ => false

/-- The comparisons that still count are counted in the row or due to be, and so are those behind
the last counted failure: behind any time from which a cool-down has not elapsed, not only behind
the failure itself, which a clearing takes out of the row. -/
structure Accounted (host : LoginHost) (db : AccountDb) (due : Nat) (later : Nat → Nat) : Prop where
  past : ∀ time, .wrong time ∈ db.log → time ≤ db.now
  bounded : Bounded host db.log
  counted : (sinceSignIn db.log).countP (LogEntry.recent host db.now) ≤
    db.user.failedLoginAttempts + due
  pending : ∀ time, (∀ last ∈ db.user.lastFailedLoginAttempt, last ≤ time) →
    db.now ≤ time + host.cooldownPeriod →
      (sinceSignIn db.log).countP (LogEntry.after time) ≤ later time

section

variable {host : LoginHost} {db : AccountDb} {due due' : Nat} {later later' : Nat → Nat}
  {log : List LogEntry} {act : LoginAct}

@[simp] theorem sinceSignIn_signedIn : sinceSignIn (.signedIn :: log) = [] := rfl

@[simp] theorem sinceSignIn_wrong {time : Nat} :
    sinceSignIn (.wrong time :: log) = .wrong time :: sinceSignIn log := rfl

/-- What comes before the last sign-in is in no stretch that has none. -/
theorem prefix_sinceSignIn {window : List LogEntry} (h : window <+: log)
    (hnone : .signedIn ∉ window) : window <+: sinceSignIn log := by
  obtain ⟨rest, rfl⟩ := h
  rw [sinceSignIn, List.takeWhile_append_of_pos fun entry hentry => by
    simpa using ne_of_mem_of_not_mem hentry hnone]
  exact List.prefix_append _ _

/-- **A wrong comparison that leaves the bound intact.** -/
theorem Bounded.wrong (h : Bounded host log) {now : Nat}
    (hroom : (sinceSignIn log).countP (LogEntry.recent host now) < host.maxFailedAttempts) :
    Bounded host (.wrong now :: log) := by
  intro window hwindow hnone hspan
  rcases List.infix_cons_iff.mp hwindow with hfirst | hrest
  · cases window with
    | nil => exact Nat.zero_le _
    | cons entry rest =>
      obtain ⟨rfl, hrest⟩ := List.cons_prefix_cons.mp hfirst
      have hle : rest.countP LogEntry.isWrong ≤
          (sinceSignIn log).countP (LogEntry.recent host now) := calc
        rest.countP LogEntry.isWrong ≤ rest.countP (LogEntry.recent host now) := by
          refine List.countP_mono_left fun entry hentry hwrong => ?_
          cases entry with
          | wrong time =>
            exact decide_eq_true (hspan time now (List.mem_cons_of_mem _ hentry) List.mem_cons_self)
          | signedIn => cases hwrong
        _ ≤ (sinceSignIn log).countP (LogEntry.recent host now) :=
          (prefix_sinceSignIn hrest fun hmem =>
            hnone (List.mem_cons_of_mem _ hmem)).sublist.countP_le
      simp only [List.countP_cons, LogEntry.isWrong, if_true]
      omega
  · exact h window hrest hnone hspan

/-- A sign-in ends every stretch. -/
theorem Bounded.signedIn (h : Bounded host log) : Bounded host (.signedIn :: log) := by
  intro window hwindow hnone hspan
  rcases List.infix_cons_iff.mp hwindow with hfirst | hrest
  · cases window with
    | nil => exact Nat.zero_le _
    | cons entry rest =>
      obtain ⟨rfl, -⟩ := List.cons_prefix_cons.mp hfirst
      exact absurd (List.mem_cons_self ..) hnone
  · exact h window hrest hnone hspan

/-- More may be due. -/
theorem Accounted.mono (h : Accounted host db due later) (hdue : due ≤ due')
    (hlater : ∀ time, later time ≤ later' time) : Accounted host db due' later' where
  past := h.past
  bounded := h.bounded
  counted := le_trans h.counted (Nat.add_le_add_left hdue _)
  pending time hlast hnow := le_trans (h.pending time hlast hnow) (hlater time)

/-- Nothing is later than now. -/
theorem Accounted.none_after (h : Accounted host db due later) {time : Nat}
    (htime : db.now ≤ time) :
    (sinceSignIn db.log).countP (LogEntry.after time) = 0 := by
  refine List.countP_eq_zero.mpr fun entry hentry => ?_
  cases entry with
  | wrong t =>
    have hpast := h.past t ((List.takeWhile_sublist _).subset hentry)
    simpa [LogEntry.after] using le_trans hpast htime
  | signedIn => simp [LogEntry.after]

/-- **Time passes.** -/
theorem Accounted.advance (h : Accounted host db due later) (ms : Nat) :
    Accounted host { db with now := db.now + ms } due later where
  past time htime := le_trans (h.past time htime) (Nat.le_add_right _ _)
  bounded := h.bounded
  counted := by
    refine le_trans (List.countP_mono_left fun entry _ hrecent => ?_) h.counted
    cases entry with
    | wrong time =>
      have hcovered : db.now + ms < time + host.cooldownPeriod := of_decide_eq_true hrecent
      exact decide_eq_true (lt_of_le_of_lt (Nat.le_add_right _ _) hcovered)
    | signedIn => cases hrecent
  pending time hlast hnow := h.pending time hlast (le_trans (Nat.le_add_right _ _) hnow)

/-- **A lockout that has elapsed is cleared.**  What a cool-down still covers is later than the last
failure that was counted, so it is due to be. -/
theorem Accounted.clear (h : Accounted host db due later) (hlate : ∀ time, later time ≤ due)
    (hcurrent : LoginAct.Current host db due .clearFailures) :
    Accounted host { db with
      user := { db.user with failedLoginAttempts := 0, lastFailedLoginAttempt := none } }
      due later := by
  obtain ⟨last, hlast, helapsed⟩ := hcurrent
  have hafter : ∀ time, last ≤ time → db.now ≤ time + host.cooldownPeriod →
      (sinceSignIn db.log).countP (LogEntry.after time) ≤ later time := by
    refine fun time htime => h.pending time fun last' hlast' => ?_
    rw [Option.mem_def.mp hlast, Option.mem_def, Option.some.injEq] at hlast'
    exact hlast' ▸ htime
  refine ⟨h.past, h.bounded, ?_, fun time _ hnow => hafter time ?_ hnow⟩
  · -- the cool-down of an earlier comparison has elapsed
    have hrecent : (sinceSignIn db.log).countP (LogEntry.recent host db.now) ≤
        (sinceSignIn db.log).countP (LogEntry.after (db.now - host.cooldownPeriod)) := by
      refine List.countP_mono_left fun entry _ hrecent => ?_
      cases entry with
      | wrong time =>
        simp only [LogEntry.recent, LogEntry.after, decide_eq_true_eq] at hrecent ⊢
        omega
      | signedIn => cases hrecent
    calc (sinceSignIn db.log).countP (LogEntry.recent host db.now)
        ≤ later (db.now - host.cooldownPeriod) :=
          le_trans hrecent (hafter _ (Nat.le_sub_of_add_le helapsed) (by omega))
      _ ≤ 0 + due := le_of_le_of_eq (hlate _) (Nat.zero_add due).symm
  · exact Nat.le_of_add_le_add_right (le_trans helapsed hnow)

/-- **A wrong password is compared**, and its count is due. -/
theorem Accounted.compare (h : Accounted host db due later)
    (hroom : db.user.failedLoginAttempts + due < host.maxFailedAttempts) :
    Accounted host { db with log := .wrong db.now :: db.log } (due + 1)
      (fun time => later time + 1) := by
  have hcounted := h.counted
  refine ⟨?_, h.bounded.wrong (by omega), ?_, fun time hlast hnow => ?_⟩
  · simpa using h.past
  · simp only [sinceSignIn_wrong, List.countP_cons]
    split <;> omega
  · have hpending := h.pending time hlast hnow
    simp only [sinceSignIn_wrong, List.countP_cons]
    split <;> omega

/-- **A failure gets its date.**  Behind a time that is not earlier than now nothing is due. -/
theorem Accounted.date (h : Accounted host db due later)
    (hdated : ∀ time, time < db.now → later time ≤ later' time) : Accounted host db due later' where
  past := h.past
  bounded := h.bounded
  counted := h.counted
  pending time hlast hnow := by
    rcases Nat.lt_or_ge time db.now with hlt | hge
    · exact le_trans (h.pending time hlast hnow) (hdated time hlt)
    · exact le_of_eq_of_le (h.none_after hge) (Nat.zero_le _)

/-- **A failure is counted.**  What is behind its date is due as before. -/
theorem Accounted.count (h : Accounted host db (due + 1) later) {date : Nat}
    (hcurrent : LoginAct.Current host db (due + 1) (.countFailure date))
    (hcount : ∀ time, date ≤ time → later time ≤ later' time) :
    Accounted host { db with
      user := { db.user with
        failedLoginAttempts := db.user.failedLoginAttempts + 1
        lastFailedLoginAttempt := some date } } due later' where
  past := h.past
  bounded := h.bounded
  counted := by
    have hcounted := h.counted
    dsimp only
    omega
  pending time hlast hnow := by
    have hdate : date ≤ time := hlast date rfl
    exact le_trans (h.pending time (fun last hmem => le_trans (hcurrent last hmem) hdate) hnow)
      (hcount time hdate)

/-- **A sign-in begins anew.** -/
theorem Accounted.signIn (h : Accounted host db due later) :
    Accounted host { db with
      user := { db.user with failedLoginAttempts := 0, lastFailedLoginAttempt := none }
      log := .signedIn :: db.log } due' later' where
  past := by simpa using h.past
  bounded := h.bounded.signedIn
  counted := Nat.zero_le _
  pending _ _ _ := Nat.zero_le _

end

/-! ## 4. Runs -/

section

variable {host : LoginHost}

end

/-- Five attempts and a quarter of an hour; the password of a hash is that many letters long. -/
def exampleHost : LoginHost where
  compare password hash := password.length == hash
  decrypt _ := none
  checkTotp _ _ _ := false
  decodeResetToken _ := none
  oauthExclusiveLogin := false
  hasEncryptionKey := true
  maxFailedAttempts := 5
  cooldownPeriod := 900000
  minLength := 6
  minClasses := 1
  admits _ := true

/-- A user without failures. -/
def exampleUser : UserRow := ⟨1, "name", some 3, false, false, none, 0, none⟩

def wrongAttempt : LoginOp := .signIn ⟨some "wrong", none⟩

/-- The attempt of the number, with a wrong password, from its read of the row to its count. -/
def counted (i : Nat) : List (PoolEvent LoginOp) :=
  [.start wrongAttempt, .step i, .step i, .step i, .step i]

/-- Two attempts are the last that the counter allows.  The earlier one is counted behind the later
one, and when its cool-down is over another attempt clears the lockout. -/
def lateCount : List (PoolEvent LoginOp) :=
  [PoolEvent.start wrongAttempt, .step 0, .step 0, .step 0, .start (.advance 10), .step 1,
    .start wrongAttempt, .step 2, .step 2, .step 2, .step 2, .step 0,
    .start (.advance 899990), .step 3] ++
  [PoolEvent.start wrongAttempt, .step 4, .step 4, .step 4, .step 4, .step 4, .step 4] ++
    counted 5 ++ counted 6 ++ counted 7 ++ counted 8

/-- **A late count moves the last failure back.**  Six wrong passwords are compared in a stretch
that is shorter than the cool-down, although every comparison finds room and what is cleared has
elapsed. -/
theorem counted_late :
    ∃ w, (loginMachine exampleHost).run
        ⟨⟨0, { exampleUser with failedLoginAttempts := 3 }, some 3, []⟩, []⟩ lateCount = some w ∧
      ¬ Bounded exampleHost w.state.log := by
  refine Machine.exists_run
    (P := fun w => w.state.log = List.replicate 5 (.wrong 900000) ++ [.wrong 10, .wrong 0])
    (by decide +kernel) fun w _ hlog hbounded => ?_
  rw [hlog] at hbounded
  have hcount := hbounded (List.replicate 5 (.wrong 900000) ++ [.wrong 10])
    ⟨[], [.wrong 0], rfl⟩ (by decide) fun t t' ht ht' => by
      simp only [List.mem_append, List.mem_replicate, List.mem_singleton, LogEntry.wrong.injEq]
        at ht ht'
      have hspan : t' < t + 900000 := by omega
      exact hspan
  exact absurd hcount (by decide)

end ZtPlanet.Ztnet.Lockout
