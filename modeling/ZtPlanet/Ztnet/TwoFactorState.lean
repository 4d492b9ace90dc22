/-
# Which secret is in force

While the second factor is on, the stored secret should be the one that `enable` has seen a code of;
and it should go off only for a code of the stored secret, or for a recovery code and the password.

`setup`, `enable` and `disable` decide by what they read and write later.  A `setup` that was let in
while the second factor was off turns it off; an `enable` turns it on over whatever secret is stored
by then, or over none; a `disable` turns it off although the code was of an earlier secret.
`consistent_iff` says that nothing else goes wrong: what is asked for holds all along a run if and
only if every write finds what its request has read.
-/
import ZtPlanet.Ztnet.TwoFactor

namespace ZtPlanet.Ztnet.TwoFactor

open ZtPlanet.Lib

/-! ## 1. What is asked for -/

/-- The second factor was turned off for a code of the secret that was stored, or for a recovery
code and the password. -/
def Removal.Lawful (host : TwoFactorHost) : Removal → Prop
  | .setup => False
  | .disable check writtenAt stored =>
    check.Accepted host writtenAt ∧ stored.bind host.decrypt = some check.secret
  | .recovery password hash recoveryCode code =>
    (∃ h, hash = some h ∧ host.compare password h = true) ∧
      ∃ c, code = some c ∧ host.compare recoveryCode c = true

structure AccountDb.Consistent (host : TwoFactorHost) (db : AccountDb) : Prop where
  /-- the stored secret is the one for which `enable` has accepted a code -/
  enabled : db.user.twoFactorEnabled = true → ∃ check writtenAt,
    db.enabledWith = some (check, writtenAt) ∧ check.Accepted host writtenAt ∧
      db.user.twoFactorSecret.bind host.decrypt = some check.secret
  removals : ∀ removal ∈ db.removals, removal.Lawful host

/-- The account that is written is still the account that was read, as far as the request has
decided by it. -/
def TwoFactorAct.Current (host : TwoFactorHost) : TwoFactorAct → AccountDb → Prop
  | .commitSetup _, db => db.user.twoFactorEnabled = false
  | .commitEnable check _, db => db.user.twoFactorSecret.bind host.decrypt = some check.secret
  | .commitDisable check, db => db.user.twoFactorEnabled = true →
    db.user.twoFactorSecret.bind host.decrypt = some check.secret
  | _, _ => True

instance (host : TwoFactorHost) (act : TwoFactorAct) (db : AccountDb) :
    Decidable (act.Current host db) := by
  cases act <;> unfold TwoFactorAct.Current <;> infer_instance

/-! ## 2. One statement -/

variable {host : TwoFactorHost} {db : AccountDb} {act : TwoFactorAct}

theorem forall_mem_ite_cons {P : Removal → Prop} {p : Prop} [Decidable p] {r : Removal}
    {rs : List Removal} (hr : p → P r) (hrs : ∀ r ∈ rs, P r) :
    ∀ r' ∈ if p then r :: rs else rs, P r' := by
  intro r' hr'
  split at hr'
  next hp =>
    rcases List.mem_cons.mp hr' with rfl | hr'
    · exact hr hp
    · exact hrs r' hr'
  next => exact hrs r' hr'

/-- A statement that finds what its request has read keeps the account consistent. -/
theorem consistent_handle (h : db.Consistent host) (hchecked : act.Checked host db)
    (hcurrent : act.Current host db) : (AccountDb.handle act db).2.Consistent host := by
  cases act with
  | readClock => exact h
  | advance ms => exact ⟨h.enabled, h.removals⟩
  | findUser => exact h
  | commitSetup secret =>
    refine ⟨fun henabled => (nomatch henabled), forall_mem_ite_cons (fun hon => ?_) h.removals⟩
    rw [hcurrent] at hon
    cases hon
  | commitEnable check codes =>
    exact ⟨fun _ => ⟨check, db.now, rfl, hchecked, hcurrent⟩, h.removals⟩
  | commitDisable check =>
    refine ⟨fun henabled => (nomatch henabled), forall_mem_ite_cons (fun hon => ?_) h.removals⟩
    exact ⟨hchecked, hcurrent hon⟩
  | consumeCode password recoveryCode codes index =>
    change (db.consumeCode password recoveryCode codes index).2.Consistent host
    unfold AccountDb.consumeCode
    split
    · refine ⟨fun henabled => (nomatch henabled), fun removal hremoval => ?_⟩
      rcases List.mem_cons.mp hremoval with rfl | hremoval
      · exact hchecked
      · exact h.removals removal hremoval
    · exact h

/-- A statement that does not find what its request has read breaks it at once. -/
theorem not_consistent_handle (hcurrent : ¬ act.Current host db) :
    ¬ (AccountDb.handle act db).2.Consistent host := by
  intro h
  cases act with
  | commitSetup secret =>
    have hon : db.user.twoFactorEnabled = true := Bool.eq_true_of_not_eq_false hcurrent
    exact h.removals .setup (by simp [AccountDb.handle, hon])
  | commitEnable check codes =>
    obtain ⟨_, _, henabled, -, hsecret⟩ := h.enabled rfl
    cases henabled
    exact hcurrent hsecret
  | commitDisable check =>
    obtain ⟨hon, hsecret⟩ := Classical.not_imp.mp hcurrent
    have hlawful := h.removals (.disable check db.now db.user.twoFactorSecret)
      (by simp [AccountDb.handle, hon])
    exact hsecret hlawful.2
  | _ => exact hcurrent trivial

/-! ## 3. Runs -/

/-- **The second factor is consistent, exactly where every write finds what was read.** -/
theorem consistent_iff (host : TwoFactorHost) (hdb : db.Consistent host)
    (events : List (PoolEvent TwoFactorOp)) :
    (∀ es, es <+: events → ∀ w, (twoFactorMachine host).run ⟨db, []⟩ es = some w →
      w.state.Consistent host) ↔
      (twoFactorMachine host).Conforms (PoolState.meets (TwoFactorAct.Current host)) ⟨db, []⟩
        events :=
  pool_holds_iff later_refl later_trans (fun op db _ => program_careful host op db)
    (fun _ _ => consistent_handle) (fun _ _ _ => not_consistent_handle) hdb (by simp) events

/-! ## 4. Turned off without a code -/

/-- Code 6 is always valid, and a text is its own hash. -/
def exampleHost : TwoFactorHost where
  compare password hash := password.length == hash
  decrypt _ := some "0123456789abcdef0123456789abcdef"
  checkTotp _ code _ := code == 6
  decodeResetToken _ := none
  oauthExclusiveLogin := false
  hasEncryptionKey := true
  maxFailedAttempts := 5
  cooldownPeriod := 900000
  minLength := 14
  minClasses := 2
  encrypt iv _ := iv
  verifyMfaToken _ := some 1

/-- The account has a secret, and the second factor is off. -/
def prepared : AccountDb where
  now := 0
  user := ⟨1, some 3, false, some 0, []⟩
  enabledWith := none
  removals := []
  accepted := []
  issued := []

theorem prepared_consistent (host : TwoFactorHost) : prepared.Consistent host :=
  ⟨fun h => (nomatch h), by simp [prepared]⟩

def setUp : TwoFactorOp := .setup ⟨some "old", "0123456789abcdef0123456789abcdef", 7⟩

def turnOn : TwoFactorOp := .enable ⟨some 6, [11, 12]⟩

/-- A setup reads the account, the second factor is enabled, the setup writes. -/
def lateSetup : List (PoolEvent TwoFactorOp) :=
  [.start setUp, .step 0, .start turnOn, .step 1, .step 1, .step 1, .step 0]

/-- **The second factor goes off without any code.** -/
theorem late_setup_turns_off : ¬ ∀ (host : TwoFactorHost) (db : AccountDb), db.Consistent host →
    ∀ (events : List (PoolEvent TwoFactorOp)) w,
      (twoFactorMachine host).run ⟨db, []⟩ events = some w → w.state.Consistent host := by
  intro h
  have hrun : ((twoFactorMachine exampleHost).run ⟨prepared, []⟩ lateSetup).any (fun w =>
      w.state.removals.any fun removal => removal matches .setup) = true := by
    decide +kernel
  obtain ⟨w, hw, hall⟩ := (Option.any_eq_true _ _).mp hrun
  obtain ⟨removal, hremoval, hsetup⟩ := List.any_eq_true.mp hall
  have hlawful :=
    (h exampleHost prepared (prepared_consistent _) lateSetup w hw).removals _ hremoval
  cases removal with
  | setup => exact hlawful
  | disable => cases hsetup
  | recovery => cases hsetup

/-- The same requests one after the other. -/
theorem consistent_in_turn :
    ∃ w, (twoFactorMachine exampleHost).run ⟨prepared, []⟩
        [.start setUp, .step 0, .step 0, .start turnOn, .step 1, .step 1, .step 1] = some w ∧
      w.state.Consistent exampleHost := by
  obtain ⟨w, hw⟩ := Option.isSome_iff_exists.mp (show ((twoFactorMachine exampleHost).run
    ⟨prepared, []⟩ [.start setUp, .step 0, .step 0, .start turnOn, .step 1, .step 1,
      .step 1]).isSome = true by decide +kernel)
  exact ⟨w, hw, (consistent_iff exampleHost (prepared_consistent _) _).mpr (by decide +kernel) _
    (List.prefix_refl _) w hw⟩

end ZtPlanet.Ztnet.TwoFactor
