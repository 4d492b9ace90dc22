/-
# The second factor of an account, set up, enabled, disabled and reset

Four requests change it.  `setup` stores a new secret, `enable` asks for a code of the stored secret
and turns the second factor on, `disable` asks for a code and turns it off, and the recovery reset
(`mfaResetValidation`) turns it off for a recovery code and the password.

Each reads the account, does something slow with what it has read, and writes.  `setup`, `enable`
and `disable` write whatever the account has become in the meantime; the recovery reset reads again
and writes only where the list of codes is still what it has read.

This is one account.  Its sessions, the method of the request and the rate limit decide before
anything here whether a request is served at all; a request that fails at a statement is one that
takes no further step.  The clock moves by requests of its own.
-/
import ZtPlanet.Lib.Interleave
import ZtPlanet.Ztnet.Credential

namespace ZtPlanet.Ztnet.TwoFactor

open ZtPlanet.Lib

/-! ## 1. The account -/

abbrev RecoveryCode : Type := String
abbrev MfaToken : Type := Nat

/-- The part of `User` that the requests use. -/
structure Account where
  email : Email
  hash : Option PasswordHash
  twoFactorEnabled : Bool
  /-- encrypted -/
  twoFactorSecret : Option TotpSecret
  /-- hashes -/
  twoFactorRecoveryCodes : List PasswordHash
deriving DecidableEq

/-- The functions that are not modelled. -/
structure TwoFactorHost extends AuthHost where
  /-- `encrypt`, with the random vector -/
  encrypt : Nat → String → TotpSecret
  /-- `jwt.verify` of a reset link of this account: its address, `none` where it throws -/
  verifyMfaToken : MfaToken → Option Email

/-- The account as it was read, and when. -/
structure AccountRead where
  user : Account
  readAt : Nat

/-- The check of a code. -/
structure TotpCheck where
  /-- when the account was read -/
  readAt : Nat
  /-- `Date.now()` for the check -/
  now : Nat
  totpCode : TotpCode
  secret : String
deriving DecidableEq

/-- How the second factor was turned off. -/
inductive Removal where
  | setup
  /-- `stored` was there when the account was written -/
  | disable (check : TotpCheck) (writtenAt : Nat) (stored : Option TotpSecret)
  | recovery (password : Password) (hash : Option PasswordHash) (recoveryCode : RecoveryCode)
      (code : Option PasswordHash)

/-- The account, and what has become of it. -/
structure AccountDb where
  /-- `Date.now()` -/
  now : Nat
  user : Account
  /-- the check that the second factor was last enabled with, and when that was written -/
  enabledWith : Option (TotpCheck × Nat)
  removals : List Removal
  /-- the recovery codes that were accepted, each with the hash that it was accepted for -/
  accepted : List (RecoveryCode × PasswordHash)
  /-- the hashes of all recovery codes that were ever stored -/
  issued : List PasswordHash

inductive TwoFactorAct where
  | readClock
  | advance (ms : Nat)
  | findUser
  /-- the update of `setup` -/
  | commitSetup (twoFactorSecret : TotpSecret)
  /-- the update of `enable`, behind its check -/
  | commitEnable (check : TotpCheck) (hashedRecoveryCodes : List PasswordHash)
  /-- the update of `disable`, behind its check -/
  | commitDisable (check : TotpCheck)
  /-- the `updateMany` of the recovery reset, behind its reads -/
  | consumeCode (password : Password) (recoveryCode : RecoveryCode)
      (twoFactorRecoveryCodes : List PasswordHash) (matchedIndex : Nat)

@[reducible] def TwoFactorAct.Ans : TwoFactorAct → Type
  | .readClock => Nat
  | .findUser => AccountRead
  | .consumeCode _ _ _ _ => Nat
  | _ => Unit

/-- The `updateMany` of the recovery reset, which is one statement: it writes nothing where the
second factor is off or the list of codes is not the one that was read. -/
def AccountDb.consumeCode (db : AccountDb) (password : Password) (recoveryCode : RecoveryCode)
    (codes : List PasswordHash) (index : Nat) : Except Failure Nat × AccountDb :=
  if db.user.twoFactorEnabled = true ∧ db.user.twoFactorRecoveryCodes = codes then
    (.ok 1, { db with
      user := { db.user with
        twoFactorEnabled := false
        twoFactorSecret := none
        twoFactorRecoveryCodes := codes.eraseIdx index }
      removals := .recovery password db.user.hash recoveryCode codes[index]? :: db.removals
      accepted := db.accepted ++ (codes[index]?.map fun code => (recoveryCode, code)).toList })
  else (.ok 0, db)

/-- What each statement does. -/
def AccountDb.handle : Prog.Handler TwoFactorAct TwoFactorAct.Ans Failure AccountDb
  | .readClock, db => (.ok db.now, db)
  | .advance ms, db => (.ok (), { db with now := db.now + ms })
  | .findUser, db => (.ok ⟨db.user, db.now⟩, db)
  | .commitSetup secret, db =>
    (.ok (), { db with
      user := { db.user with twoFactorEnabled := false, twoFactorSecret := some secret }
      removals := if db.user.twoFactorEnabled then .setup :: db.removals else db.removals })
  | .commitEnable check codes, db =>
    (.ok (), { db with
      user := { db.user with twoFactorEnabled := true, twoFactorRecoveryCodes := codes }
      enabledWith := some (check, db.now)
      issued := db.issued ++ codes })
  | .commitDisable check, db =>
    (.ok (), { db with
      user := { db.user with twoFactorEnabled := false, twoFactorSecret := none }
      removals :=
        if db.user.twoFactorEnabled then
          .disable check db.now db.user.twoFactorSecret :: db.removals
        else db.removals })
  | .consumeCode password recoveryCode codes index, db =>
    db.consumeCode password recoveryCode codes index

/-! ## 2. The requests -/

abbrev Request (α : Type) : Type := Prog TwoFactorAct TwoFactorAct.Ans Failure α

abbrev ask (act : TwoFactorAct) : Request act.Ans := Prog.call act

/-- What a route answers with status 400. -/
def badRequest (error : String) : Failure := .trpc .badRequest error

def serverError : Failure := .trpc .internalServerError "internal-server-error"

/-- A request to set up, with the secret and the vector that are drawn for it. -/
structure SetupInput where
  password : Option Password
  secret : String
  iv : Nat

/-- The handler of `totp/setup`. -/
def setup (host : TwoFactorHost) (input : SetupInput) : Request Unit := do
  let found ← ask .findUser
  match found.user.hash with
  | none => throw (badRequest "missing-password")
  | some hash =>
    if found.user.twoFactorEnabled then throw (badRequest "two-factor-already-enabled")
    else if !host.hasEncryptionKey then throw serverError
    else if !host.compare (input.password.getD "") hash then throw (badRequest "incorrect-password")
    else ask (.commitSetup (host.encrypt input.iv input.secret))

/-- The stored secret, decrypted; `failure` where it has another length. -/
def decryptSecret (host : TwoFactorHost) (failure : Failure) (secret : TotpSecret) :
    Request String :=
  match host.decrypt secret with
  | none => throw (.error "Decryption failed")
  | some text => if text.length ≠ 32 then throw failure else pure text

/-- A request to enable, with the hashes of the codes that are drawn for it. -/
structure EnableInput where
  totpCode : Option TotpCode
  hashedRecoveryCodes : List PasswordHash

/-- The handler of `totp/enable`. -/
def enable (host : TwoFactorHost) (input : EnableInput) : Request Unit := do
  let found ← ask .findUser
  if found.user.twoFactorEnabled then throw (badRequest "two-factor-already-enabled")
  else
    match found.user.twoFactorSecret with
    | none => throw (badRequest "two-factor-setup-required")
    | some encrypted =>
      if !host.hasEncryptionKey then throw serverError
      else do
        let secret ← decryptSecret host serverError encrypted
        match input.totpCode with
        | none => throw (badRequest "second-factor-required")
        | some totpCode => do
          let now ← ask .readClock
          if host.checkTotp now totpCode secret then
            ask (.commitEnable ⟨found.readAt, now, totpCode, secret⟩ input.hashedRecoveryCodes)
          else throw (badRequest "incorrect-two-factor-code")

/-- `throw new Error(ErrorCode.InternalServerError)`. -/
def internalServerError : Failure := .error "internal-server-error"

/-- The handler of `totp/disable`. -/
def disable (host : TwoFactorHost) (totpCode : Option TotpCode) : Request Unit := do
  let found ← ask .findUser
  if found.user.hash = none then throw (badRequest "missing-password")
  else if !found.user.twoFactorEnabled then pure ()
  else
    match totpCode with
    | none => throw (badRequest "second-factor-required")
    | some totpCode =>
      match found.user.twoFactorSecret with
      | none => throw internalServerError
      | some encrypted =>
        if !host.hasEncryptionKey then throw internalServerError
        else do
          let secret ← decryptSecret host internalServerError encrypted
          let now ← ask .readClock
          if host.checkTotp now totpCode secret then
            ask (.commitDisable ⟨found.readAt, now, totpCode, secret⟩)
          else throw (badRequest "incorrect-two-factor-code")

structure ResetInput where
  token : MfaToken
  email : Email
  password : Password
  recoveryCode : RecoveryCode

def unauthorized : Failure := .trpc .unauthorized "Something went wrong, please try again"

/-- `verifyRecoveryCode`. -/
def verifyRecoveryCode (host : TwoFactorHost) (providedCode : RecoveryCode)
    (hashedCodes : List PasswordHash) : Bool :=
  hashedCodes.any (host.compare providedCode)

/-- The transaction of the recovery reset. -/
def consumeRecoveryCode (host : TwoFactorHost) (input : ResetInput) : Request Unit := do
  let lockedUser ← ask .findUser
  if !lockedUser.user.twoFactorEnabled then throw unauthorized
  else
    match lockedUser.user.twoFactorRecoveryCodes.findIdx? (host.compare input.recoveryCode) with
    | none => throw unauthorized
    | some matchedIndex => do
      let count ← ask (.consumeCode input.password input.recoveryCode
        lockedUser.user.twoFactorRecoveryCodes matchedIndex)
      if count ≠ 1 then throw unauthorized else pure ()

/-- `mfaResetValidation`. -/
def mfaResetValidation (host : TwoFactorHost) (input : ResetInput) : Request Unit :=
  match host.verifyMfaToken input.token with
  | none => throw (badRequest "Invalid or expired token")
  | some decodedEmail =>
    if decodedEmail ≠ input.email then throw unauthorized
    else do
      let found ← ask .findUser
      match found.user.hash with
      | none => throw unauthorized
      | some hash =>
        if !found.user.twoFactorEnabled then throw unauthorized
        else if !host.compare input.password hash then throw unauthorized
        else if !verifyRecoveryCode host input.recoveryCode found.user.twoFactorRecoveryCodes then
          throw unauthorized
        else consumeRecoveryCode host input

/-- What can be started. -/
inductive TwoFactorOp where
  | setup (input : SetupInput)
  | enable (input : EnableInput)
  | disable (totpCode : Option TotpCode)
  | mfaResetValidation (input : ResetInput)
  | advance (ms : Nat)

def TwoFactorOp.program (host : TwoFactorHost) : TwoFactorOp → Request Unit
  | .setup input => TwoFactor.setup host input
  | .enable input => TwoFactor.enable host input
  | .disable totpCode => TwoFactor.disable host totpCode
  | .mfaResetValidation input => TwoFactor.mfaResetValidation host input
  | .advance ms => ask (.advance ms)

/-- The requests of an account, interleaved. -/
abbrev twoFactorMachine (host : TwoFactorHost) :=
  poolMachine AccountDb.handle (TwoFactorOp.program host)

/-! ## 3. What a request has checked when it writes -/

section Checked

variable {host : TwoFactorHost} {db db' : AccountDb} {act : TwoFactorAct}

/-- The code was valid at a time between the read of the account and the write. -/
def TotpCheck.Accepted (host : TwoFactorHost) (check : TotpCheck) (writtenAt : Nat) : Prop :=
  check.readAt ≤ check.now ∧ check.now ≤ writtenAt ∧
    host.checkTotp check.now check.totpCode check.secret = true

/-- The checks in front of a statement. -/
def TwoFactorAct.Checked (host : TwoFactorHost) : TwoFactorAct → AccountDb → Prop
  | .commitEnable check _, db => check.Accepted host db.now
  | .commitDisable check, db => check.Accepted host db.now
  | .consumeCode password recoveryCode codes index, db =>
    (∃ hash, db.user.hash = some hash ∧ host.compare password hash = true) ∧
      ∃ code, codes[index]? = some code ∧ host.compare recoveryCode code = true
  | _, _ => True

/-- No request changes the password, and the clock does not run backwards. -/
structure Later (db db' : AccountDb) : Prop where
  hash : db'.user.hash = db.user.hash
  clock : db.now ≤ db'.now

theorem later_refl (db : AccountDb) : Later db db := ⟨rfl, Nat.le_refl _⟩

theorem later_trans (db₁ db₂ db₃ : AccountDb) (h₁ : Later db₁ db₂) (h₂ : Later db₂ db₃) :
    Later db₁ db₃ := ⟨h₂.hash.trans h₁.hash, h₁.clock.trans h₂.clock⟩

theorem later_handle (act : TwoFactorAct) (db : AccountDb) :
    Later db (AccountDb.handle act db).2 := by
  cases act with
  | consumeCode password recoveryCode codes index =>
    change Later db (db.consumeCode password recoveryCode codes index).2
    unfold AccountDb.consumeCode
    split
    · exact ⟨rfl, Nat.le_refl _⟩
    · exact later_refl db
  | advance ms => exact ⟨rfl, Nat.le_add_right _ _⟩
  | _ => exact ⟨rfl, Nat.le_refl _⟩

/-- An accepted code stays accepted until the account is written. -/
theorem TotpCheck.Accepted.later {check : TotpCheck} (h : check.Accepted host db.now)
    (hlater : Later db db') : check.Accepted host db'.now :=
  ⟨h.1, h.2.1.trans hlater.clock, h.2.2⟩

/-- The request makes every check that its statements need, whatever the others do. -/
abbrev Careful {α : Type} (host : TwoFactorHost) (ok : TwoFactorAct → AccountDb → Prop)
    (p : Request α) (db : AccountDb) : Prop :=
  Prog.Steady AccountDb.handle Later ok (TwoFactorAct.Checked host) (fun _ _ => True) p db

variable {ok : TwoFactorAct → AccountDb → Prop}

theorem careful_throw (e : Failure) : Careful host ok (throw e : Request Unit) db :=
  Prog.steady_throw trivial

/-- A statement, and what follows it with the answer. -/
theorem careful_bind {f : act.Ans → Request Unit}
    (hact : ∀ db', Later db db' → act.Checked host db')
    (hf : ∀ db' a, Later db db' → (AccountDb.handle act db').1 = .ok a →
      Careful host ok (f a) (AccountDb.handle act db').2) :
    Careful host ok (ask act >>= f) db := by
  refine Prog.Steady.bind (Prog.steady_call fun db' hrely _ => ?_)
  refine ⟨hact db' hrely, later_handle act db', ?_⟩
  split
  · rename_i a ha
    exact hf db' a hrely ha
  · trivial

/-- A statement at the end. -/
theorem careful_ask (hact : ∀ db', Later db db' → act.Checked host db') :
    Careful host ok (ask act) db :=
  Prog.steady_call fun db' hrely _ => ⟨hact db' hrely, later_handle act db', trivial⟩

theorem decryptSecret_careful {failure : Failure} {encrypted : TotpSecret}
    {f : String → Request Unit}
    (hf : ∀ text, host.decrypt encrypted = some text → Careful host ok (f text) db) :
    Careful host ok (decryptSecret host failure encrypted >>= f) db := by
  refine Prog.Steady.bind ?_
  unfold decryptSecret
  split
  · exact Prog.steady_throw trivial
  next text htext =>
    split
    · exact Prog.steady_throw trivial
    · exact Prog.steady_pure (hf text htext)

/-- The check of a code, and the write behind it. -/
theorem checkTotp_careful (write : TotpCheck → Request Unit) {readAt : Nat} {totpCode : TotpCode}
    {secret : String} {failure : Failure} (hread : readAt ≤ db.now)
    (hwrite : ∀ check db', check.Accepted host db'.now → Careful host ok (write check) db') :
    Careful host ok (do
      let now ← ask .readClock
      if host.checkTotp now totpCode secret then write ⟨readAt, now, totpCode, secret⟩
      else throw failure) db := by
  refine careful_bind (fun _ _ => trivial) fun db' now hlater hnow => ?_
  obtain rfl : db'.now = now := Except.ok.inj hnow
  split
  next hvalid =>
    exact hwrite _ db' ⟨hread.trans hlater.clock, Nat.le_refl _, hvalid⟩
  next => exact careful_throw _

theorem setup_careful (input : SetupInput) (db : AccountDb) :
    Careful host ok (setup host input) db := by
  refine careful_bind (fun _ _ => trivial) fun db' found _ hfound => ?_
  split
  · exact careful_throw _
  · split
    · exact careful_throw _
    · split
      · exact careful_throw _
      · split
        · exact careful_throw _
        · exact careful_ask fun _ _ => trivial

theorem enable_careful (input : EnableInput) (db : AccountDb) :
    Careful host ok (enable host input) db := by
  refine careful_bind (fun _ _ => trivial) fun db' found _ hfound => ?_
  split
  · exact careful_throw _
  · split
    · exact careful_throw _
    · split
      · exact careful_throw _
      · refine decryptSecret_careful fun secret _ => ?_
        split
        · exact careful_throw _
        · obtain rfl := Except.ok.inj hfound
          refine checkTotp_careful (fun check =>
            ask (.commitEnable check input.hashedRecoveryCodes))
            (Nat.le_refl db'.now) fun check db'' hcheck => ?_
          exact careful_ask fun _ hlater => hcheck.later hlater

theorem disable_careful (totpCode : Option TotpCode) (db : AccountDb) :
    Careful host ok (disable host totpCode) db := by
  refine careful_bind (fun _ _ => trivial) fun db' found _ hfound => ?_
  split
  · exact careful_throw _
  · split
    · exact Prog.steady_pure trivial
    · split
      · exact careful_throw _
      · split
        · exact careful_throw _
        · split
          · exact careful_throw _
          · refine decryptSecret_careful fun secret _ => ?_
            obtain rfl := Except.ok.inj hfound
            refine checkTotp_careful (fun check => ask (.commitDisable check)) (Nat.le_refl db'.now)
              fun check db'' hcheck => ?_
            exact careful_ask fun _ hlater => hcheck.later hlater

theorem consumeRecoveryCode_careful (input : ResetInput)
    (hpassword : ∃ hash, db.user.hash = some hash ∧ host.compare input.password hash = true) :
    Careful host ok (consumeRecoveryCode host input) db := by
  refine careful_bind (fun _ _ => trivial) fun db' lockedUser hrely _ => ?_
  split
  · exact careful_throw _
  · split
    · exact careful_throw _
    next index hindex =>
      refine careful_bind (fun db'' hrely' => ⟨?_, ?_⟩) fun db'' count _ _ => ?_
      · obtain ⟨hash, hhash, hcompare⟩ := hpassword
        exact ⟨hash, (later_trans db db' db'' hrely hrely').hash.trans hhash, hcompare⟩
      · obtain ⟨hlt, hmatch, -⟩ := List.findIdx?_eq_some_iff_getElem.mp hindex
        exact ⟨_, List.getElem?_eq_getElem hlt, hmatch⟩
      · split
        · exact careful_throw _
        · exact Prog.steady_pure trivial

theorem mfaResetValidation_careful (input : ResetInput) (db : AccountDb) :
    Careful host ok (mfaResetValidation host input) db := by
  unfold mfaResetValidation
  split
  · exact careful_throw _
  · split
    · exact careful_throw _
    · refine careful_bind (fun _ _ => trivial) fun db' found hrely hfound => ?_
      obtain rfl := Except.ok.inj hfound
      split
      · exact careful_throw _
      next hash hhash =>
        split
        · exact careful_throw _
        · split
          · exact careful_throw _
          next hcompare =>
            split
            · exact careful_throw _
            · exact consumeRecoveryCode_careful input ⟨hash, hhash, by simpa using hcompare⟩

/-- **Every request makes the checks.** -/
theorem program_careful (host : TwoFactorHost) (op : TwoFactorOp) (db : AccountDb) :
    Careful host ok (op.program host) db := by
  cases op with
  | setup input => exact setup_careful input db
  | enable input => exact enable_careful input db
  | disable totpCode => exact disable_careful totpCode db
  | mfaResetValidation input => exact mfaResetValidation_careful input db
  | advance ms => exact careful_ask fun _ _ => trivial

end Checked

end ZtPlanet.Ztnet.TwoFactor
