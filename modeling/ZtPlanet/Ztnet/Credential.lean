/-
# Passwords, and the procedures that write them

ZTNET keeps the hash of a password twice: as `User.hash`, which its own procedures check, and as
`Account.password`, which better-auth checks at a sign-in.  Four procedures write one of the copies
or both: registration, the profile update, the password reset, and the hook that runs before a
sign-in and creates a missing account row.

Each is a program over single statements and transactions, so that several of them can take turns.
A transaction is one action: all of these begin with the row of the user, which the first to write
it locks until it commits.  `passwordHash` inputs are what `bcrypt.hashSync` returns, which is
salted and so not a function of the password.

better-auth is not modelled beyond its sign-in: it looks for the user with the address of the
request, compares the password with `Account.password` and creates a session exactly where that
succeeds.
-/
import Mathlib.Algebra.GroupWithZero.Nat
import ZtPlanet.Ztnet.Backend

namespace ZtPlanet.Ztnet

open ZtPlanet.Lib

/-! ## 1. The tables -/

/-- An address as `normalizeEmail` leaves it. -/
abbrev Email : Type := Nat
abbrev Password : Type := String
abbrev PasswordHash : Type := Nat
abbrev TotpCode : Type := Nat
abbrev TotpSecret : Type := Nat
abbrev ResetToken : Type := Nat

/-- `User`. -/
structure UserRow where
  email : Email
  name : String
  hash : Option PasswordHash
  requestChangePassword : Bool
  twoFactorEnabled : Bool
  /-- encrypted -/
  twoFactorSecret : Option TotpSecret
  failedLoginAttempts : Nat
  lastFailedLoginAttempt : Option Nat
deriving DecidableEq

/-- A user as it was read, and when. -/
structure Found where
  id : UserId
  user : UserRow
  readAt : Nat
deriving DecidableEq

/-- What the hook before a sign-in has done: the user that it has found, and the time for which it
has checked the code, where it has. -/
structure HookRecord extends Found where
  checkedAt : Option Nat
deriving DecidableEq

/-- `Session`, with what is known of the request that created it. -/
structure SessionRow where
  userId : UserId
  createdAt : Nat
  /-- the TOTP code of the request -/
  totpCode : Option TotpCode
  hook : Option HookRecord
deriving DecidableEq

/-- The part of the database that authentication uses. -/
structure AuthDb where
  /-- `Date.now()` -/
  now : Nat
  users : Dict UserId UserRow
  /-- `Account.password` of the accounts with the provider `credential` -/
  accounts : Dict UserId PasswordHash
  /-- the records of reset tokens in `Verification`, with their users and expiry -/
  resetTokens : List (ResetToken × UserId × Nat)
  sessions : List SessionRow

/-- `user.findFirst({ where: { email } })`. -/
def AuthDb.findUserByEmail (db : AuthDb) (email : Email) : Option (UserId × UserRow) :=
  db.users.entries.find? fun entry => entry.2.email == email

/-- Another user has the address. -/
def AuthDb.emailTaken (db : AuthDb) (id : UserId) (email : Email) : Bool :=
  db.users.entries.any fun entry => entry.1 != id && entry.2.email == email

/-! ## 2. Statements and transactions -/

/-- `data` of the profile update, with the hash that was read: what is written is
`newHash ?? user.hash`. -/
structure ProfileData where
  email : Email
  name : String
  hash : Option PasswordHash
  requestChangePassword : Bool

/-- A statement, a transaction, or a reading of the clock. -/
inductive AuthAct where
  /-- `Date.now()` -/
  | readClock
  /-- time passes -/
  | advance (ms : Nat)
  | findUserByEmail (email : Email)
  | findUser (id : UserId)
  /-- the update that ends an elapsed lockout -/
  | clearFailures (id : UserId)
  /-- the update that counts a failed attempt, with its date -/
  | countFailure (id : UserId) (date : Nat)
  /-- `account.findFirst` for the provider `credential` -/
  | findCredential (id : UserId)
  /-- the upsert of the hook -/
  | backfillCredential (id : UserId) (password : PasswordHash)
  /-- the transaction of `update` -/
  | commitProfile (id : UserId) (data : ProfileData) (newHash : Option PasswordHash)
  /-- the transaction of `changePasswordFromJwt`, behind its read of the user -/
  | commitReset (token : ResetToken) (id : UserId) (newHash : PasswordHash)
  /-- the transaction of `register` -/
  | commitRegistration (id : UserId) (email : Email) (name : String) (hash : PasswordHash)
  /-- the endpoint behind the hook, which does not get to see what the hook has done -/
  | createSession (hook : Option HookRecord) (email : Email) (password : Password)
      (totpCode : Option TotpCode)

@[reducible] def AuthAct.Ans : AuthAct → Type
  | .readClock => Nat
  | .findUserByEmail _ => Option Found
  | .findUser _ => Option UserRow
  | .findCredential _ => Option PasswordHash
  | _ => Unit

/-- The functions that are not modelled, and the settings. -/
structure AuthHost where
  /-- `compare` of bcrypt -/
  compare : Password → PasswordHash → Bool
  /-- `decrypt`, `none` where it throws -/
  decrypt : TotpSecret → Option String
  /-- `authenticator.check` at a time -/
  checkTotp : Nat → TotpCode → String → Bool
  /-- `jwt.verify` of a reset token, `none` where it throws or the payload has another shape -/
  decodeResetToken : ResetToken → Option (UserId × Email)
  oauthExclusiveLogin : Bool
  /-- `process.env.NEXTAUTH_SECRET` is set -/
  hasEncryptionKey : Bool
  maxFailedAttempts : Nat
  cooldownPeriod : Nat
  minLength : Nat
  minClasses : Nat

/-- What PostgreSQL answers where a unique field is taken. -/
def uniqueFailure : Failure := .error "Unique constraint failed"

/-- What better-auth answers where the address or the password is wrong. -/
def invalidCredentials : Failure := .trpc .unauthorized "Invalid email or password"

/-- An update of one row of `User`. -/
def AuthDb.updateUser (db : AuthDb) (id : UserId) (f : UserRow → UserRow) :
    Except Failure Unit × AuthDb :=
  match db.users.get? id with
  | some user => (.ok (), { db with users := db.users.set id (f user) })
  | none => (.error missingRecord, db)

/-- The transaction of `update`: the row, and the account where the password is new. -/
def AuthDb.commitProfile (db : AuthDb) (id : UserId) (data : ProfileData)
    (newHash : Option PasswordHash) : Except Failure Unit × AuthDb :=
  match db.users.get? id with
  | none => (.error missingRecord, db)
  | some user =>
    if db.emailTaken id data.email then (.error uniqueFailure, db)
    else
      (.ok (), { db with
        users := db.users.set id { user with
          email := data.email
          name := data.name
          hash := newHash <|> data.hash
          requestChangePassword := data.requestChangePassword }
        accounts :=
          match newHash with
          | some hash => db.accounts.set id hash
          | none => db.accounts })

/-- The transaction of the reset: the token is consumed, the two copies are written and the
sessions of the user end. -/
def AuthDb.commitReset (db : AuthDb) (token : ResetToken) (id : UserId) (newHash : PasswordHash) :
    Except Failure Unit × AuthDb :=
  if db.resetTokens.any fun r => r.1 == token && r.2.1 == id && db.now < r.2.2 then
    match db.users.get? id with
    | none => (.error missingRecord, db)
    | some user =>
      (.ok (), { db with
        users := db.users.set id { user with
          hash := some newHash
          requestChangePassword := false
          failedLoginAttempts := 0
          lastFailedLoginAttempt := none }
        accounts := db.accounts.set id newHash
        resetTokens := db.resetTokens.filter fun r => !(r.1 == token && r.2.1 == id)
        sessions := db.sessions.filter fun session => session.userId != id })
  else (.error (.trpc .badRequest "This link is not valid!"), db)

/-- The transaction of `register`. -/
def AuthDb.commitRegistration (db : AuthDb) (id : UserId) (email : Email) (name : String)
    (hash : PasswordHash) : Except Failure Unit × AuthDb :=
  if db.users.contains id || db.emailTaken id email then (.error uniqueFailure, db)
  else
    (.ok (), { db with
      users := db.users.set id ⟨email, name, some hash, false, false, none, 0, none⟩
      accounts := db.accounts.set id hash })

/-- The endpoint behind the hook. -/
def AuthDb.createSession (host : AuthHost) (db : AuthDb) (hook : Option HookRecord) (email : Email)
    (password : Password) (totpCode : Option TotpCode) : Except Failure Unit × AuthDb :=
  match db.findUserByEmail email with
  | none => (.error invalidCredentials, db)
  | some (id, _) =>
    match db.accounts.get? id with
    | none => (.error invalidCredentials, db)
    | some hash =>
      if host.compare password hash then
        (.ok (), { db with sessions := db.sessions ++ [⟨id, db.now, totpCode, hook⟩] })
      else (.error invalidCredentials, db)

section

variable (db : AuthDb)

/-! None of them changes the time. -/

@[simp] theorem now_updateUser (id : UserId) {f : UserRow → UserRow} :
    (db.updateUser id f).2.now = db.now := by
  unfold AuthDb.updateUser
  split <;> rfl

@[simp] theorem now_commitProfile (id : UserId) (data : ProfileData)
    (newHash : Option PasswordHash) : (db.commitProfile id data newHash).2.now = db.now := by
  unfold AuthDb.commitProfile
  split
  · rfl
  · split <;> rfl

@[simp] theorem now_commitReset (token : ResetToken) (id : UserId) (newHash : PasswordHash) :
    (db.commitReset token id newHash).2.now = db.now := by
  unfold AuthDb.commitReset
  split
  · split <;> rfl
  · rfl

@[simp] theorem now_commitRegistration (id : UserId) (email : Email) (name : String)
    (hash : PasswordHash) : (db.commitRegistration id email name hash).2.now = db.now := by
  unfold AuthDb.commitRegistration
  split <;> rfl

@[simp] theorem now_createSession {host : AuthHost} {hook : Option HookRecord} {email : Email}
    {password : Password} {totpCode : Option TotpCode} :
    (db.createSession host hook email password totpCode).2.now = db.now := by
  unfold AuthDb.createSession
  split
  · rfl
  · split
    · rfl
    · split <;> rfl

end

/-- What each action does. -/
def AuthDb.handle (host : AuthHost) : Prog.Handler AuthAct AuthAct.Ans Failure AuthDb
  | .readClock, db => (.ok db.now, db)
  | .advance ms, db => (.ok (), { db with now := db.now + ms })
  | .findUserByEmail email, db =>
    (.ok ((db.findUserByEmail email).map fun found => ⟨found.1, found.2, db.now⟩), db)
  | .findUser id, db => (.ok (db.users.get? id), db)
  | .clearFailures id, db => db.updateUser id fun user =>
    { user with failedLoginAttempts := 0, lastFailedLoginAttempt := none }
  | .countFailure id date, db => db.updateUser id fun user =>
    { user with
      failedLoginAttempts := user.failedLoginAttempts + 1
      lastFailedLoginAttempt := some date }
  | .findCredential id, db => (.ok (db.accounts.get? id), db)
  | .backfillCredential id password, db =>
    (.ok (), { db with accounts := db.accounts.set id password })
  | .commitProfile id data newHash, db => db.commitProfile id data newHash
  | .commitReset token id newHash, db => db.commitReset token id newHash
  | .commitRegistration id email name hash, db => db.commitRegistration id email name hash
  | .createSession hook email password totpCode, db =>
    db.createSession host hook email password totpCode

/-- A procedure. -/
abbrev Auth (α : Type) : Type := Prog AuthAct AuthAct.Ans Failure α

abbrev auth (act : AuthAct) : Auth act.Ans := Prog.call act

/-! ## 3. Signing in -/

/-- A request to `/sign-in/email`; `none` where the field is missing or not a text. -/
structure SignIn where
  email : Option Email
  password : Option Password
  /-- the header `x-totp-code` -/
  totpCode : Option TotpCode

/-- The first part of the hook: the cooldown. -/
def checkCooldown (host : AuthHost) (id : UserId) (user : UserRow) : Auth Unit :=
  match user.lastFailedLoginAttempt with
  | none => pure ()
  | some last =>
    if host.maxFailedAttempts ≤ user.failedLoginAttempts then do
      let now ← auth .readClock
      if now < last + host.cooldownPeriod then
        throw (.trpc .tooManyRequests "Too many failed attempts. Please try again later.")
      else auth (.clearFailures id)
    else pure ()

/-- `prisma.user.update` with the counter and `lastFailedLoginAttempt: new Date()`, which is
evaluated before the update is sent. -/
def countFailure (id : UserId) : Auth Unit := do
  let date ← auth .readClock
  auth (.countFailure id date)

/-- The second part: whether the hook goes on behind the comparison with `User.hash`. -/
def trackFailure (host : AuthHost) (id : UserId) (user : UserRow) (password : Option Password) :
    Auth Bool :=
  match password, user.hash with
  | some password, some hash =>
    if host.compare password hash then pure true
    else do
      countFailure id
      return false
  | _, _ => pure true

/-- The third part: the backfill of the account. -/
def backfill (id : UserId) (user : UserRow) : Auth Unit := do
  let existingAccount ← auth (.findCredential id)
  match existingAccount, user.hash with
  | none, some hash => auth (.backfillCredential id hash)
  | _, _ => pure ()

/-- The fourth part: the second factor.  It returns the time for which it has checked the code. -/
def checkSecondFactor (host : AuthHost) (id : UserId) (user : UserRow)
    (totpCode : Option TotpCode) : Auth (Option Nat) :=
  if user.twoFactorEnabled then
    match totpCode with
    | none => throw (.trpc .forbidden "second-factor-required")
    | some code =>
      match user.twoFactorSecret with
      | none => throw (.trpc .internalServerError "Internal server error")
      | some encrypted =>
        if !host.hasEncryptionKey then
          throw (.trpc .internalServerError "Internal server error")
        else
          match host.decrypt encrypted with
          | none => throw (.error "Decryption failed")
          | some secret =>
            if secret.length ≠ 32 then throw (.trpc .internalServerError "Internal server error")
            else do
              let now ← auth .readClock
              if host.checkTotp now code secret then pure (some now)
              else do
                countFailure id
                throw (.trpc .unauthorized "incorrect-two-factor-code")
  else pure none

/-- `runBeforeAuthHook` for `/sign-in/email`.  What it returns is a record of what it has done. -/
def runBeforeAuthHook (host : AuthHost) (req : SignIn) : Auth (Option HookRecord) :=
  if host.oauthExclusiveLogin then
    throw (.trpc .forbidden "Email/password authentication is disabled. Please use OAuth.")
  else
    match req.email with
    | none => pure none
    | some email => do
      let found ← auth (.findUserByEmail email)
      match found with
      | none => pure none
      | some found => do
        checkCooldown host found.id found.user
        let valid ← trackFailure host found.id found.user req.password
        if valid then do
          backfill found.id found.user
          let checkedAt ← checkSecondFactor host found.id found.user req.totpCode
          return some ⟨found, checkedAt⟩
        else return some ⟨found, none⟩

/-- A sign-in: the hook, then the endpoint, which refuses a body without the two texts. -/
def signIn (host : AuthHost) (req : SignIn) : Auth Unit := do
  let hook ← runBeforeAuthHook host req
  match req.email, req.password with
  | some email, some password => auth (.createSession hook email password req.totpCode)
  | _, _ => throw (.trpc .badRequest "Validation error")

/-! ## 4. Writing passwords -/

def PASSWORD_MAX_LENGTH : Nat := 128

/-- `password.length`, which counts UTF-16 code units. -/
def jsLength (s : String) : Nat := (s.toList.map fun c => if 0x10000 ≤ c.val then 2 else 1).sum

/-- `passwordMeetsPolicy`. -/
def passwordMeetsPolicy (host : AuthHost) (password : Password) : Bool :=
  let length := jsLength password
  if length < host.minLength || PASSWORD_MAX_LENGTH < length then false
  else
    let classes := (if password.toList.any Char.isLower then 1 else 0) +
      (if password.toList.any Char.isUpper then 1 else 0) +
      if password.toList.any Char.isDigit then 1 else 0
    host.minClasses ≤ classes

/-- `passwordPolicyMessage`. -/
def passwordPolicyMessage (host : AuthHost) : String :=
  let classText :=
    if host.minClasses = 1 then "one of lowercase letters, uppercase letters, or digits"
    else "at least " ++ toString host.minClasses ++
      " of lowercase letters, uppercase letters, and digits"
  "Password must be " ++ toString host.minLength ++ "-" ++ toString PASSWORD_MAX_LENGTH ++
    " characters and contain " ++ classText ++ "."

/-- The input of `update`, with the user of the session; an empty text is `none`. -/
structure ProfileInput where
  userId : UserId
  email : Option Email
  password : Option Password
  newPassword : Option Password
  repeatNewPassword : Option Password
  name : Option String
  /-- `bcrypt.hashSync(input.newPassword, 12)` -/
  passwordHash : PasswordHash

/-- What `update` asks of the passwords. -/
def checkPasswords (host : AuthHost) (user : UserRow) (input : ProfileInput) :
    Except Failure Unit :=
  if input.newPassword.isNone && input.repeatNewPassword.isNone && input.password.isNone then .ok ()
  else
    match input.newPassword, input.repeatNewPassword with
    | some newPassword, some repeatNewPassword =>
      if input.password.isNone && user.hash.isSome then
        .error (.trpc .badRequest "Please fill all required fields!")
      else if !passwordMeetsPolicy host newPassword then
        .error (.trpc .badRequest (passwordPolicyMessage host))
      else if user.hash.any fun hash => !input.password.any fun password =>
          host.compare password hash then
        .error (.trpc .badRequest "Old password is incorrect!")
      else if newPassword ≠ repeatNewPassword then
        .error (.trpc .badRequest "Passwords do not match!")
      else .ok ()
    | _, _ => .error (.trpc .badRequest "Please fill all required fields!")

/-- `authRouter.update`. -/
def updateProfile (host : AuthHost) (input : ProfileInput) : Auth Unit := do
  let user ← auth (.findUser input.userId)
  match user with
  | none => throw (.trpc .notFound "User not found!")
  | some user => do
    Prog.ofExcept (checkPasswords host user input)
    let newHash := input.newPassword.map fun _ => input.passwordHash
    auth (.commitProfile input.userId
      { email := input.email.getD user.email
        name := input.name.getD user.name
        hash := user.hash
        requestChangePassword :=
          if input.newPassword.isSome then false else user.requestChangePassword }
      newHash)

/-- The input of `changePasswordFromJwt`. -/
structure ResetInput where
  token : Option ResetToken
  password : Password
  newPassword : Password
  /-- `bcrypt.hashSync(password, 12)` -/
  passwordHash : PasswordHash

/-- `changePasswordFromJwt`.  The read of the user is the first statement of its transaction. -/
def changePasswordFromJwt (host : AuthHost) (input : ResetInput) : Auth Unit :=
  match input.token with
  | none => throw (.trpc .badRequest "token is required!")
  | some token =>
    if input.password ≠ input.newPassword then
      throw (.trpc .badRequest "Passwords does not match!")
    else
      tryCatch (
        match host.decodeResetToken token with
        | none => throw (.trpc .badRequest "This link is not valid!")
        | some (id, email) => do
          let user ← auth (.findUser id)
          match user with
          | none => throw (.trpc .badRequest "This link is not valid!")
          | some user =>
            if user.email ≠ email then throw (.trpc .badRequest "This link is not valid!")
            else auth (.commitReset token id input.passwordHash))
        fun _ => throw (.trpc .badRequest "token is not valid, please try again!")

/-- The input of `register`.  Whether registration is open to the caller, or an invitation lets him
in, is `admitted`; the id is the one that the new row gets. -/
structure RegisterInput where
  id : UserId
  email : Email
  password : Password
  name : String
  admitted : Bool
  /-- `bcrypt.hashSync(password, 12)` -/
  passwordHash : PasswordHash

/-- `register`. -/
def register (host : AuthHost) (input : RegisterInput) : Auth Unit :=
  if !input.admitted then
    throw (.trpc .badRequest "Registration is disabled! Please contact the administrator.")
  else do
    let registerUser ← auth (.findUserByEmail input.email)
    match registerUser with
    | some _ =>
      throw (.trpc .notFound ("email \"" ++ toString input.email ++ "\" already taken"))
    | none =>
      if !passwordMeetsPolicy host input.password then
        throw (.trpc .badRequest (passwordPolicyMessage host))
      else auth (.commitRegistration input.id input.email input.name input.passwordHash)

/-! ## 5. The procedures together -/

/-- What can be started. -/
inductive AuthOp where
  | signIn (req : SignIn)
  | updateProfile (input : ProfileInput)
  | changePasswordFromJwt (input : ResetInput)
  | register (input : RegisterInput)
  /-- the clock -/
  | advance (ms : Nat)

def AuthOp.program (host : AuthHost) : AuthOp → Auth Unit
  | .signIn req => Ztnet.signIn host req
  | .updateProfile input => Ztnet.updateProfile host input
  | .changePasswordFromJwt input => Ztnet.changePasswordFromJwt host input
  | .register input => Ztnet.register host input
  | .advance ms => auth (.advance ms)

end ZtPlanet.Ztnet
