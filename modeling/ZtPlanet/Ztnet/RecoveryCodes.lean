/-
# Each recovery code works once

The recovery reset reads the list of hashes, looks for the one that the code belongs to, and writes
the list without it.  Two resets with one code can both get as far as the write; but the write is an
`updateMany` that asks for the list as it was read, and the second one finds another.

The account keeps books here: the codes that were accepted, and all hashes that were ever stored.
What was accepted and what is stored never exceed what was issued (`Ledger`), whatever the other
requests do in between.
-/
import Mathlib.Data.List.Perm.Subperm
import Mathlib.Data.List.Perm.Basic
import ZtPlanet.Ztnet.TwoFactorState

namespace ZtPlanet.Ztnet.TwoFactor

open ZtPlanet.Lib

/-! ## 1. The books -/

structure AccountDb.Ledger (host : TwoFactorHost) (db : AccountDb) : Prop where
  /-- each code was accepted for a hash that it belongs to -/
  matched : ∀ entry ∈ db.accepted, host.compare entry.1 entry.2 = true
  /-- what was accepted and what is stored was issued -/
  covered : (db.accepted.map Prod.snd ++ db.user.twoFactorRecoveryCodes).Subperm db.issued

/-- An account before any of the requests. -/
def AccountDb.start (user : Account) : AccountDb where
  now := 0
  user := user
  enabledWith := none
  removals := []
  accepted := []
  issued := user.twoFactorRecoveryCodes

variable {host : TwoFactorHost} {db db' : AccountDb} {act : TwoFactorAct}

/-- A code is spent: the second factor goes off, the secret goes, and so does this one hash. -/
structure Spent (host : TwoFactorHost) (db db' : AccountDb) (recoveryCode : RecoveryCode)
    (code : PasswordHash) (index : Nat) : Prop where
  enabled : db.user.twoFactorEnabled = true
  stored : db.user.twoFactorRecoveryCodes[index]? = some code
  matched : host.compare recoveryCode code = true
  user : db'.user = { db.user with
    twoFactorEnabled := false
    twoFactorSecret := none
    twoFactorRecoveryCodes := db.user.twoFactorRecoveryCodes.eraseIdx index }
  accepted : db'.accepted = db.accepted ++ [(recoveryCode, code)]
  issued : db'.issued = db.issued

theorem AccountDb.Ledger.spent {recoveryCode : RecoveryCode} {code : PasswordHash} {index : Nat}
    (h : db.Ledger host) (hspent : Spent host db db' recoveryCode code index) :
    db'.Ledger host := by
  constructor
  · intro entry hentry
    rw [hspent.accepted] at hentry
    rcases List.mem_append.mp hentry with hentry | hentry
    · exact h.matched entry hentry
    · rw [List.mem_singleton.mp hentry]
      exact hspent.matched
  · obtain ⟨hlt, hcode⟩ := List.getElem?_eq_some_iff.mp hspent.stored
    have hperm := List.getElem_cons_eraseIdx_perm hlt
    rw [hcode] at hperm
    rw [hspent.accepted, hspent.user, hspent.issued, List.map_append, List.append_assoc]
    exact (hperm.append_left _).subperm.trans h.covered

end ZtPlanet.Ztnet.TwoFactor
