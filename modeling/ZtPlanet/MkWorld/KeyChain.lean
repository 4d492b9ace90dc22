/-
# The keys of a planet

A planet names the key that the next one has to be signed with, and clients take no other one.
`main` signs with the key in the first signing file and names the key in the second; where one of
them cannot be read, it generates a pair and writes it to `current.c25519` and `previous.c25519`.

A run can fail at any of its writes, and a write that fails leaves the old file or the first bytes
of the new one.  A volume begins without a previous key and without a planet (`Volume.Fresh`), and
its runs are regular (`Run.Regular`): they use the proposed names of the signing files and another
one for the planet, and read the key files that are there, as a read that fails lets `main` generate
new keys over the old ones.  `worlds_signed` says what all planets of such a volume are signed with,
whatever write fails: one key, whose private half is cut where a write of `previous.c25519` was.
`worlds_accepted` says that clients take every planet after every other one, if no such write was
cut inside the private half.
-/
import ZtPlanet.Lib.Machine
import ZtPlanet.Lib.Prog
import ZtPlanet.MkWorld.Identity

namespace ZtPlanet.MkWorld

/-- The content of a key file. -/
def KeyPair.bytes (k : KeyPair) : Bytes := k.pub.toList ++ k.priv.toList

/-- A pair that is read from the first `n` bytes of its file. -/
def KeyPair.cut (k : KeyPair) (n : Nat) : KeyPair where
  pub := k.pub
  priv := copyTo (Vector.replicate ztC25519PrivateKeyLen 0)
    (k.priv.toList.take (n - ztC25519PublicKeyLen))

namespace KeyChain

open ZtPlanet.Lib

/-! ## 1. Actions -/

/-- The files of a directory, by their names. -/
abbrev Disk := Bytes → Option Bytes

/-- A string is its bytes. -/
def fileName (s : String) : Bytes := s.toList.map fun c => UInt8.ofNat c.toNat

def currentFile : Bytes := fileName "current.c25519"

def previousFile : Bytes := fileName "previous.c25519"

def newConfigFile : Bytes := fileName "mkworld.new.json"

theorem fileNames_ne : currentFile ≠ previousFile ∧ newConfigFile ≠ currentFile ∧
    newConfigFile ≠ previousFile := by decide +kernel

inductive Act where
  | readFile (name : Bytes)
  | generateDualPair
  | writeFile (name content : Bytes)
deriving DecidableEq

@[reducible] def Act.Ans : Act → Type
  | .readFile _ => Option Bytes
  | .generateDualPair => KeyPair
  | .writeFile _ _ => Unit

inductive Failure where
  | generator (e : GeneratorError)
  /-- the runtime panics -/
  | sliceBoundsOutOfRange
  | system (name : Bytes)
deriving DecidableEq

abbrev Program := Prog Act Act.Ans Failure

abbrev perform (act : Act) : Program act.Ans := Prog.call act

/-! ## 2. Keys -/

/-- `copy(dst[:], kp[:64])`.  The slices that are read have room for 64 bytes, and zeros behind
their end. -/
def publicHalf (kp : Bytes) : Vector UInt8 ztC25519PublicKeyLen :=
  copyTo (Vector.replicate ztC25519PublicKeyLen 0) (kp.take ztC25519PublicKeyLen)

/-- `copy(dst[:], kp[64:])` -/
def privateHalf (kp : Bytes) : Except Failure (Vector UInt8 ztC25519PrivateKeyLen) :=
  if kp.length < ztC25519PublicKeyLen then .error .sliceBoundsOutOfRange
  else .ok (copyTo (Vector.replicate ztC25519PrivateKeyLen 0) (kp.drop ztC25519PublicKeyLen))

/-- The buffers that `main` starts with. -/
def initialKeys : Bytes := List.replicate (ztC25519PublicKeyLen + ztC25519PrivateKeyLen) 0

/-- `PreFlightSigningKeyCheck`: the previous and the current pair, or none.  The lengths that it
tests are those of the buffers, not of what it has read. -/
def preFlightSigningKeyCheck (mConf : MkWorldConfig) : Program (Option (Bytes × Bytes)) := do
  let tPrevkp ← perform (.readFile (mConf.signingKeyFiles.getD 0 []))
  let tCurkp ← perform (.readFile (mConf.signingKeyFiles.getD 1 []))
  match tPrevkp, tCurkp with
  | some tPrevkp, some tCurkp =>
    let preqLen := ztC25519PrivateKeyLen + ztC25519PublicKeyLen
    if initialKeys.length ≠ preqLen ∨ initialKeys.length ≠ preqLen then pure none
    else pure (some (tPrevkp, tCurkp))
  | _, _ => pure none

/-- The signing keys of `main`: those of the files, or a new pair. -/
def signingKeys (mConf : MkWorldConfig) : Program (Bytes × Bytes) := do
  match ← preFlightSigningKeyCheck mConf with
  | some keys => pure keys
  | none =>
    let pair ← perform .generateDualPair
    let prevkp := pair.bytes
    let curkp := prevkp
    perform (.writeFile currentFile prevkp)
    perform (.writeFile previousFile curkp)
    pure (prevkp, curkp)

/-! ## 3. The program -/

variable (sign : KeyPair → Bytes → Signature)

/-- The configuration behind `Preflight`, and whether it was modified. -/
def planned (uint32 : UInt32) (unixMilli : UInt64) (mConf : MkWorldConfig) :
    Except Failure (MkWorldConfig × Bool) :=
  match preflight mConf with
  | .ok () => .ok (mConf, false)
  | .error .errPreflightCheckFailed => .error (.generator .errPreflightCheckFailed)
  | .error .errUseRecommendValue =>
    if mConf.planetRecommend then
      .ok ({ mConf with planetID := uint32.toUInt64, planetBirth := unixMilli }, true)
    else .ok (mConf, false)

/-- The signed world. -/
def signedWorld (prevkp curkp : Bytes) (mConf : MkWorldConfig) : Except Failure Bytes := do
  let nodes ← (buildPlanetNodeFromConfig mConf).mapError .generator
  let ztW : ZtWorld :=
    { type := ztWorldTypePlanet, id := mConf.planetID, timestamp := mConf.planetBirth,
      publicKeyMustBeSignedByNextTime := publicHalf curkp, nodes }
  let toSignZtW ← (ztW.serialize true (Vector.replicate 96 0)).mapError (.generator <| .serialize ·)
  let sigPubK := publicHalf prevkp
  let sigPrivK ← privateHalf prevkp
  (ztW.serialize false (sign ⟨sigPubK, sigPrivK⟩ toSignZtW)).mapError (.generator <| .serialize ·)

/-- The configuration that was modified is saved, if it can be; `saved` is its text. -/
def saveConfig (saved : MkWorldConfig → Bytes) (mConf : MkWorldConfig) (alreadyMod : Bool) :
    Program Unit :=
  if alreadyMod then tryCatch (perform (.writeFile newConfigFile (saved mConf))) fun _ => pure ()
  else pure ()

/-- `main` behind its keys. -/
def publish (saved : MkWorldConfig → Bytes) (prevkp curkp : Bytes) (mConf : MkWorldConfig)
    (alreadyMod : Bool) : Program Bytes := do
  let finalWorld ← Prog.ofExcept (signedWorld sign prevkp curkp mConf)
  perform (.writeFile mConf.outputFile finalWorld)
  saveConfig saved mConf alreadyMod
  return finalWorld

/-- `main`, which puts out the world that it has written. -/
def main (uint32 : UInt32) (unixMilli : UInt64) (saved : MkWorldConfig → Bytes)
    (mConf : MkWorldConfig) : Program Bytes := do
  let (mConf, alreadyMod) ← Prog.ofExcept (planned uint32 unixMilli mConf)
  let (prevkp, curkp) ← signingKeys mConf
  publish sign saved prevkp curkp mConf alreadyMod

/-! ## 4. Runs -/

/-- A run of the program: its configuration, what it takes from its host, which of its actions fail,
and how many bytes a write that fails leaves; with none it leaves the file as it was.  A run that is
killed is one that fails there. -/
structure Run where
  mConf : MkWorldConfig
  uint32 : UInt32
  unixMilli : UInt64
  saved : MkWorldConfig → Bytes
  pair : KeyPair
  fails : Act → Bool
  remains : Act → Option Nat

/-- What an action does to the directory. -/
def Run.handle (run : Run) : Prog.Handler Act Act.Ans Failure Disk
  | .readFile name, files => (.ok (if run.fails (.readFile name) then none else files name), files)
  | .generateDualPair, files => (.ok run.pair, files)
  | .writeFile name content, files =>
    if run.fails (.writeFile name content) then
      (.error (.system name),
        match run.remains (.writeFile name content) with
        | none => files
        | some n => Function.update files name (some (content.take n)))
    else (.ok (), Function.update files name (some content))

/-- A directory, and the worlds that runs in it have put out. -/
structure Volume where
  files : Disk
  worlds : List Bytes

def Run.on (run : Run) (files : Disk) : Except Failure Bytes × Disk :=
  Prog.exec run.handle (main sign run.uint32 run.unixMilli run.saved run.mConf) files

def Volume.behind (v : Volume) : Except Failure Bytes × Disk → Volume
  | (.ok finalWorld, files) => ⟨files, v.worlds ++ [finalWorld]⟩
  | (.error _, files) => ⟨files, v.worlds⟩

def volume : Machine Volume Run where
  step v run := some (v.behind (run.on sign v.files))

/-- No world yet, and no key that it could be signed with. -/
def Volume.Fresh (v : Volume) : Prop := v.files previousFile = none ∧ v.worlds = []

/-- The names that are proposed for the signing files, another one for the world, and files that are
read where they are. -/
structure Run.Regular (run : Run) : Prop where
  signing : run.mConf.signingKeyFiles = [previousFile, currentFile]
  output : run.mConf.outputFile ≠ currentFile ∧ run.mConf.outputFile ≠ previousFile
  reads : ∀ name, run.fails (.readFile name) = false

/-- A write of `previous.c25519` is not cut inside the private half. -/
def Run.Whole (run : Run) : Prop :=
  ∀ n, run.remains (.writeFile previousFile run.pair.bytes) = some n →
    n < ztC25519PublicKeyLen ∨ ztC25519PublicKeyLen + ztC25519PrivateKeyLen ≤ n

/-! ## 5. Halves of keys -/

section

variable {k : KeyPair} {n : Nat}

theorem length_bytes : k.bytes.length = ztC25519PublicKeyLen + ztC25519PrivateKeyLen := by
  simp [KeyPair.bytes]

theorem take_bytes (h : ztC25519PublicKeyLen + ztC25519PrivateKeyLen ≤ n) :
    k.bytes.take n = k.bytes :=
  List.take_of_length_le (length_bytes ▸ h)

theorem publicHalf_take (h : ztC25519PublicKeyLen ≤ n) : publicHalf (k.bytes.take n) = k.pub := by
  unfold publicHalf KeyPair.bytes
  rw [List.take_take, Nat.min_eq_left h, List.take_left' k.pub.length_toList]
  exact copyTo_toList _ _

theorem publicHalf_bytes : publicHalf k.bytes = k.pub := by
  rw [← take_bytes (Nat.le_refl _)]
  exact publicHalf_take (Nat.le_add_right _ _)

/-- What is left of a private half. -/
theorem privateHalf_take_ok_iff {priv : Vector UInt8 ztC25519PrivateKeyLen} :
    privateHalf (k.bytes.take n) = .ok priv ↔ ztC25519PublicKeyLen ≤ n ∧ (k.cut n).priv = priv := by
  have hlen : (k.bytes.take n).length < ztC25519PublicKeyLen ↔ n < ztC25519PublicKeyLen := by
    rw [List.length_take, length_bytes]
    omega
  unfold privateHalf
  by_cases h : n < ztC25519PublicKeyLen
  · rw [if_pos (hlen.mpr h)]
    simp [Nat.not_le.mpr h]
  · rw [if_neg (mt hlen.mp h), and_iff_right (Nat.not_lt.mp h), Except.ok.injEq, List.drop_take]
    unfold KeyPair.bytes KeyPair.cut
    rw [List.drop_left' k.pub.length_toList]

theorem cut_eq (h : ztC25519PublicKeyLen + ztC25519PrivateKeyLen ≤ n) : k.cut n = k := by
  unfold KeyPair.cut
  rw [List.take_of_length_le (by rw [k.priv.length_toList]; omega), copyTo_toList]

/-- A private half that is whole. -/
theorem privateHalf_bytes : privateHalf k.bytes = .ok k.priv := by
  rw [← take_bytes (Nat.le_refl _)]
  refine privateHalf_take_ok_iff.mpr ⟨Nat.le_add_right _ _, ?_⟩
  rw [cut_eq (Nat.le_refl _)]

end

/-! ## 6. What is signed -/

/-- A world that names one key and is signed with one. -/
def Signed (named key : KeyPair) (w : Bytes) : Prop :=
  ∃ ztW : ZtWorld, ztW.Fits ∧ ztW.publicKeyMustBeSignedByNextTime = named.pub ∧
    mkworld (sign key) ztW = .ok w

variable {sign}

theorem planned_ok {uint32 : UInt32} {unixMilli : UInt64} {mConf mConf' : MkWorldConfig}
    {alreadyMod : Bool} (h : planned uint32 unixMilli mConf = .ok (mConf', alreadyMod)) :
    mConf'.Within ∧ mConf'.signingKeyFiles = mConf.signingKeyFiles ∧
      mConf'.outputFile = mConf.outputFile := by
  have hwithin : mConf.Within := by
    refine preflight_ne_failed_iff.mp fun hfailed => ?_
    unfold planned at h
    rw [hfailed] at h
    cases h
  unfold planned at h
  split at h
  · cases h
    exact ⟨hwithin, rfl, rfl⟩
  · cases h
  · split at h
    · cases h
      exact ⟨⟨hwithin.signing, hwithin.roots, hwithin.endpoints⟩, rfl, rfl⟩
    · cases h
      exact ⟨hwithin, rfl, rfl⟩

/-- **What a run signs with**, where a file of its pair may be cut. -/
theorem signed_of_signedWorld {k : KeyPair} {n : Nat} {mConf : MkWorldConfig} {w : Bytes}
    (hwithin : mConf.Within) (h : signedWorld sign (k.bytes.take n) k.bytes mConf = .ok w) :
    ztC25519PublicKeyLen ≤ n ∧ Signed sign k (k.cut n) w := by
  obtain ⟨nodes, hnodes, h⟩ := bind_ok_iff.mp h
  obtain ⟨toSign, hsign, h⟩ := bind_ok_iff.mp h
  obtain ⟨priv, hpriv, h⟩ := bind_ok_iff.mp h
  obtain ⟨hn, rfl⟩ := privateHalf_take_ok_iff.mp hpriv
  rw [mapError_ok_iff] at hnodes hsign h
  rw [publicHalf_take hn] at h
  have hfits : (⟨ztWorldTypePlanet, mConf.planetID, mConf.planetBirth, publicHalf k.bytes, nodes⟩ :
      ZtWorld).Fits := hwithin.fits hnodes
  refine ⟨hn, _, hfits, publicHalf_bytes, ?_⟩
  unfold mkworld
  rw [hsign]
  exact h

/-- With pairs that are whole this is the generator. -/
theorem writeWorld_of_signedWorld {k k' : KeyPair} {uint32 : UInt32} {unixMilli : UInt64}
    {mConf : MkWorldConfig} {w : Bytes} (h : signedWorld sign k.bytes k'.bytes mConf = .ok w) :
    writeWorld ⟨k, k', uint32, unixMilli, sign⟩ mConf = .ok (mConf.outputFile, w) := by
  obtain ⟨nodes, hnodes, h⟩ := bind_ok_iff.mp h
  obtain ⟨toSign, hsign, h⟩ := bind_ok_iff.mp h
  obtain ⟨priv, hpriv, h⟩ := bind_ok_iff.mp h
  obtain rfl := Except.ok.inj (privateHalf_bytes.symm.trans hpriv)
  rw [mapError_ok_iff] at hnodes hsign h
  rw [publicHalf_bytes] at hsign h
  have hmade : mkworld (sign k) ⟨ztWorldTypePlanet, mConf.planetID, mConf.planetBirth,
    k'.pub, nodes⟩ =
      .ok w := by
    unfold mkworld
    rw [hsign]
    rw [publicHalf_bytes] at h
    exact h
  exact bind_ok_iff.mpr ⟨nodes, hnodes, bind_ok_iff.mpr ⟨w, mapError_ok_iff.mpr hmade, rfl⟩⟩

theorem generate_of_planned (host : Host) {mConf mConf' : MkWorldConfig} {alreadyMod : Bool}
    (h : planned host.uint32 host.unixMilli mConf = .ok (mConf', alreadyMod)) :
    generate host mConf = writeWorld host mConf' := by
  unfold planned at h
  unfold generate
  cases hpreflight : preflight mConf with
  | ok checked =>
    rw [hpreflight] at h
    cases h
    rfl
  | error e =>
    rw [hpreflight] at h
    cases e with
    | errPreflightCheckFailed => cases h
    | errUseRecommendValue =>
      dsimp only at h ⊢
      by_cases hrecommend : mConf.planetRecommend = true
      · rw [if_pos hrecommend] at h ⊢
        cases h
        rfl
      · rw [if_neg hrecommend] at h ⊢
        cases h
        rfl

/-! ## 7. A run -/

/-- The files of a pair, the first of which may be cut. -/
structure Holds (files : Disk) (k : KeyPair) (n : Nat) : Prop where
  current : files currentFile = some k.bytes
  previous : files previousFile = some (k.bytes.take n)

/-- Nothing is written to the key files. -/
def KeepsKeys (act : Act) : Prop :=
  ∃ name content, act = .writeFile name content ∧ name ≠ currentFile ∧ name ≠ previousFile

section

variable {run : Run} {files files' : Disk} {mConf : MkWorldConfig}

theorem handle_writeFile {name content : Bytes}
    (hname : run.fails (.writeFile name content) = false) :
    run.handle (.writeFile name content) files =
      (.ok (), Function.update files name (some content)) := by
  simp [Run.handle, hname]

/-- A write changes no other file. -/
theorem handle_frame (run : Run) (files : Disk) {act : Act} (hact : KeepsKeys act) :
    (run.handle act files).2 currentFile = files currentFile ∧
      (run.handle act files).2 previousFile = files previousFile := by
  obtain ⟨name, content, rfl, hcurrent, hprevious⟩ := hact
  unfold Run.handle
  dsimp only
  split
  · cases run.remains (.writeFile name content) with
    | none => exact ⟨rfl, rfl⟩
    | some n =>
      exact ⟨Function.update_of_ne (Ne.symm hcurrent) _ _,
        Function.update_of_ne (Ne.symm hprevious) _ _⟩
  · exact ⟨Function.update_of_ne (Ne.symm hcurrent) _ _,
      Function.update_of_ne (Ne.symm hprevious) _ _⟩

theorem only_publish {saved : MkWorldConfig → Bytes} {prevkp curkp : Bytes} {alreadyMod : Bool}
    (houtput : mConf.outputFile ≠ currentFile ∧ mConf.outputFile ≠ previousFile) :
    Prog.Only KeepsKeys (publish sign saved prevkp curkp mConf alreadyMod) := by
  obtain ⟨-, hcurrent, hprevious⟩ := fileNames_ne
  refine (Prog.only_ofExcept _).bind fun finalWorld => ?_
  refine (Prog.only_call ⟨_, _, rfl, houtput.1, houtput.2⟩).bind fun _ => ?_
  refine Prog.Only.bind ?_ fun _ => Prog.only_pure _
  cases alreadyMod with
  | true =>
    exact (Prog.only_call ⟨_, _, rfl, hcurrent, hprevious⟩).tryCatch fun _ => Prog.only_pure _
  | false => exact Prog.only_pure _

/-- **Behind the keys** a run leaves them as they are. -/
theorem publish_holds {saved : MkWorldConfig → Bytes} {prevkp curkp : Bytes} {alreadyMod : Bool}
    (houtput : mConf.outputFile ≠ currentFile ∧ mConf.outputFile ≠ previousFile)
    {k : KeyPair} {n : Nat}
    (hfiles : Holds files k n) :
    Holds (Prog.exec run.handle (publish sign saved prevkp curkp mConf alreadyMod) files).2 k
      n := by
  refine (only_publish houtput).exec_preserves (I := fun files => Holds files k n) ?_ hfiles
  intro act files hact hfiles
  obtain ⟨hcurrent, hprevious⟩ := handle_frame run files hact
  exact ⟨hcurrent.trans hfiles.current, hprevious.trans hfiles.previous⟩

theorem publish_ok {saved : MkWorldConfig → Bytes} {prevkp curkp w : Bytes} {alreadyMod : Bool}
    (h : Prog.exec run.handle (publish sign saved prevkp curkp mConf alreadyMod) files =
      (.ok w, files')) : signedWorld sign prevkp curkp mConf = .ok w := by
  obtain ⟨finalWorld, _, hworld, h⟩ := Prog.exec_bind_eq_ok.mp h
  rw [Prog.exec_ofExcept] at hworld
  obtain ⟨-, _, -, h⟩ := Prog.exec_bind_eq_ok.mp h
  obtain ⟨-, _, -, h⟩ := Prog.exec_bind_eq_ok.mp h
  cases h
  exact (Prod.mk.inj hworld).1

/-- The signing files are read as they are. -/
theorem exec_preFlightSigningKeyCheck (files : Disk) (hrun : run.Regular)
    (hsigning : mConf.signingKeyFiles = [previousFile, currentFile]) :
    Prog.exec run.handle (preFlightSigningKeyCheck mConf) files =
      (.ok ((files previousFile).bind fun prevkp => (files currentFile).map (prevkp, ·)),
        files) := by
  have hread : ∀ name, Prog.exec run.handle (perform (.readFile name)) files =
      (.ok (files name), files) := by
    intro name
    rw [Prog.exec_call]
    simp [Run.handle, hrun.reads]
  unfold preFlightSigningKeyCheck
  rw [hsigning, Prog.exec_bind_ok (hread _), Prog.exec_bind_ok (hread _)]
  simp only [List.getD_cons_zero, List.getD_cons_succ]
  have hlen : initialKeys.length = ztC25519PrivateKeyLen + ztC25519PublicKeyLen := by
    simp [initialKeys]
  cases files previousFile with
  | none => rfl
  | some prevkp =>
    cases files currentFile with
    | none => rfl
    | some curkp =>
      simp only [hlen, ne_eq, not_true_eq_false, or_self, if_false]
      rfl

/-- **Keys that are there** are taken. -/
theorem exec_signingKeys (hrun : run.Regular)
    (hsigning : mConf.signingKeyFiles = [previousFile, currentFile]) {prevkp curkp : Bytes}
    (hprevious : files previousFile = some prevkp) (hcurrent : files currentFile = some curkp) :
    Prog.exec run.handle (signingKeys mConf) files = (.ok (prevkp, curkp), files) := by
  unfold signingKeys
  rw [Prog.exec_bind_ok (exec_preFlightSigningKeyCheck files hrun hsigning), hprevious, hcurrent]
  rfl

/-- What is left of the previous pair, where its write ends at all. -/
def Run.Leaves (run : Run) (n : Nat) : Prop :=
  n = ztC25519PublicKeyLen + ztC25519PrivateKeyLen ∨
    run.remains (.writeFile previousFile run.pair.bytes) = some n

/-- A write that fails. -/
theorem handle_writeFile_fails {name content : Bytes}
    (hname : run.fails (.writeFile name content) = true) :
    run.handle (.writeFile name content) files =
      (.error (.system name),
        match run.remains (.writeFile name content) with
        | none => files
        | some n => Function.update files name (some (content.take n))) := by
  simp [Run.handle, hname]

/-- **Keys that are not there** are generated: then both files hold the new pair, or there is still
no previous one. -/
theorem signingKeys_new (hrun : run.Regular)
    (hsigning : mConf.signingKeyFiles = [previousFile, currentFile])
    (hmissing : files previousFile = none) {r : Except Failure (Bytes × Bytes)}
    (h : Prog.exec run.handle (signingKeys mConf) files = (r, files')) :
    ((∃ e, r = .error e) ∧ files' previousFile = none) ∨
      ∃ n, run.Leaves n ∧ Holds files' run.pair n ∧
        ∀ keys, r = .ok keys → keys = (run.pair.bytes.take n, run.pair.bytes) := by
  obtain ⟨hne, -, -⟩ := fileNames_ne
  have hcheck := exec_preFlightSigningKeyCheck files hrun hsigning
  have hpair : Prog.exec run.handle (perform .generateDualPair) files = (.ok run.pair, files) := by
    rw [Prog.exec_call]
    rfl
  rw [hmissing, Option.bind_none] at hcheck
  unfold signingKeys at h
  rw [Prog.exec_bind_ok hcheck] at h
  dsimp only at h
  rw [Prog.exec_bind_ok hpair] at h
  cases hcurrent : run.fails (.writeFile currentFile run.pair.bytes) with
  | true =>
    rw [Prog.exec_bind_error ((Prog.exec_call _).trans (handle_writeFile_fails hcurrent))] at h
    cases h
    refine .inl ⟨⟨_, rfl⟩, ?_⟩
    cases run.remains (.writeFile currentFile run.pair.bytes) with
    | none => exact hmissing
    | some n => exact (Function.update_of_ne (Ne.symm hne) _ _).trans hmissing
  | false =>
    rw [Prog.exec_bind_ok ((Prog.exec_call _).trans (handle_writeFile hcurrent))] at h
    cases hprevious : run.fails (.writeFile previousFile run.pair.bytes) with
    | true =>
      rw [Prog.exec_bind_error ((Prog.exec_call _).trans (handle_writeFile_fails hprevious))] at h
      cases h
      cases hremains : run.remains (.writeFile previousFile run.pair.bytes) with
      | none =>
        refine .inl ⟨⟨_, rfl⟩, ?_⟩
        exact (Function.update_of_ne (Ne.symm hne) _ _).trans hmissing
      | some n =>
        refine .inr ⟨n, .inr hremains, ⟨?_, Function.update_self _ _ _⟩,
          fun keys hkeys => by cases hkeys⟩
        exact (Function.update_of_ne hne _ _).trans (Function.update_self _ _ _)
    | false =>
      rw [Prog.exec_bind_ok ((Prog.exec_call _).trans (handle_writeFile hprevious))] at h
      cases h
      have hwhole := take_bytes (k := run.pair) (Nat.le_refl _)
      refine .inr ⟨_, .inl rfl, ⟨?_, ?_⟩, ?_⟩
      · exact (Function.update_of_ne hne _ _).trans (Function.update_self _ _ _)
      · rw [hwhole]
        exact Function.update_self _ _ _
      · intro keys hkeys
        cases hkeys
        rw [hwhole]

/-- What a run with a pair leaves, and the world that it puts out. -/
def Outcome (sign : KeyPair → Bytes → Signature) (r : Except Failure Bytes) (files' : Disk)
    (k : KeyPair) (n : Nat) : Prop :=
  Holds files' k n ∧ ∀ w, r = .ok w → ztC25519PublicKeyLen ≤ n ∧ Signed sign k (k.cut n) w

theorem publish_outcome {saved : MkWorldConfig → Bytes} {alreadyMod : Bool} {k : KeyPair} {n : Nat}
    {r : Except Failure Bytes} (hwithin : mConf.Within)
    (houtput : mConf.outputFile ≠ currentFile ∧ mConf.outputFile ≠ previousFile)
    (hfiles : Holds files k n)
    (h : Prog.exec run.handle (publish sign saved (k.bytes.take n) k.bytes mConf alreadyMod) files =
      (r, files')) : Outcome sign r files' k n := by
  refine ⟨?_, ?_⟩
  · have hholds : Holds (Prog.exec run.handle
        (publish sign saved (k.bytes.take n) k.bytes mConf alreadyMod) files).2 k n :=
      publish_holds houtput hfiles
    rwa [h] at hholds
  · intro w hw
    rw [hw] at h
    exact signed_of_signedWorld hwithin (publish_ok h)

/-- **A run with a pair.** -/
theorem on_keyed (hrun : run.Regular) {k : KeyPair} {n : Nat} (hfiles : Holds files k n)
    {r : Except Failure Bytes} (h : run.on sign files = (r, files')) :
    Outcome sign r files' k n := by
  unfold Run.on main at h
  rcases Prog.exec_bind_eq.mp h with ⟨⟨mConf, alreadyMod⟩, _, hplan, h⟩ | ⟨e, hplan, rfl⟩
  · rw [Prog.exec_ofExcept] at hplan
    obtain ⟨hplanned, rfl⟩ := Prod.mk.inj hplan
    obtain ⟨hwithin, hsigning, houtput⟩ := planned_ok hplanned
    dsimp only at h
    rw [Prog.exec_bind_ok
      (exec_signingKeys hrun (hsigning.trans hrun.signing) hfiles.previous hfiles.current)] at h
    exact publish_outcome hwithin (houtput ▸ hrun.output) hfiles h
  · rw [Prog.exec_ofExcept] at hplan
    obtain ⟨-, rfl⟩ := Prod.mk.inj hplan
    exact ⟨hfiles, fun w hw => by cases hw⟩

/-- **A run with two pairs is the generator**, where it puts a world out. -/
theorem generate_of_on (hrun : run.Regular) {k k' : KeyPair} {w : Bytes}
    (hprevious : files previousFile = some k.bytes) (hcurrent : files currentFile = some k'.bytes)
    (h : run.on sign files = (.ok w, files')) :
    generate ⟨k, k', run.uint32, run.unixMilli, sign⟩ run.mConf =
      .ok (run.mConf.outputFile, w) := by
  obtain ⟨⟨mConf, alreadyMod⟩, _, hplan, h⟩ := Prog.exec_bind_eq_ok.mp h
  rw [Prog.exec_ofExcept] at hplan
  obtain ⟨hplanned, rfl⟩ := Prod.mk.inj hplan
  obtain ⟨-, hsigning, houtput⟩ := planned_ok hplanned
  dsimp only at h
  rw [Prog.exec_bind_ok
    (exec_signingKeys hrun (hsigning.trans hrun.signing) hprevious hcurrent)] at h
  rw [generate_of_planned ⟨k, k', run.uint32, run.unixMilli, sign⟩ hplanned, ← houtput]
  exact writeWorld_of_signedWorld (publish_ok h)

/-- **A run without one**: there is still none, or it is that of the run. -/
theorem on_missing (hrun : run.Regular) (hmissing : files previousFile = none)
    {r : Except Failure Bytes} (h : run.on sign files = (r, files')) :
    ((∃ e, r = .error e) ∧ files' previousFile = none) ∨
      ∃ n, run.Leaves n ∧ Outcome sign r files' run.pair n := by
  unfold Run.on main at h
  rcases Prog.exec_bind_eq.mp h with ⟨⟨mConf, alreadyMod⟩, _, hplan, h⟩ | ⟨e, hplan, rfl⟩
  · rw [Prog.exec_ofExcept] at hplan
    obtain ⟨hplanned, rfl⟩ := Prod.mk.inj hplan
    obtain ⟨hwithin, hsigning, houtput⟩ := planned_ok hplanned
    have hsigning := hsigning.trans hrun.signing
    rcases Prog.exec_bind_eq.mp h with ⟨keys, files₁, hkeys, h⟩ | ⟨e, hkeys, rfl⟩
    · rcases signingKeys_new hrun hsigning hmissing hkeys
        with ⟨⟨_, herror⟩, -⟩ | ⟨n, hn, hfiles, hpair⟩
      · cases herror
      · obtain rfl := hpair _ rfl
        exact .inr ⟨n, hn, publish_outcome hwithin (houtput ▸ hrun.output) hfiles h⟩
    · rcases signingKeys_new hrun hsigning hmissing hkeys with ⟨-, hnone⟩ | ⟨n, hn, hfiles, -⟩
      · exact .inl ⟨⟨e, rfl⟩, hnone⟩
      · exact .inr ⟨n, hn, hfiles, fun w hw => by cases hw⟩
  · rw [Prog.exec_ofExcept] at hplan
    obtain ⟨-, rfl⟩ := Prod.mk.inj hplan
    exact .inl ⟨⟨e, rfl⟩, hmissing⟩

end

/-! ## 8. Whole histories -/

/-- A volume with a pair of which so many bytes are left, and worlds that are signed with it. -/
structure Keyed (sign : KeyPair → Bytes → Signature) (v : Volume) (k : KeyPair)
    (n : Nat) : Prop where
  files : Holds v.files k n
  worlds : ∀ w ∈ v.worlds, ztC25519PublicKeyLen ≤ n ∧ Signed sign k (k.cut n) w

/-- **The invariant of a volume**: nothing is signed yet, or all is signed with one pair. -/
def Chain (sign : KeyPair → Bytes → Signature) (P : KeyPair → Nat → Prop) (v : Volume) : Prop :=
  v.Fresh ∨ ∃ k n, P k n ∧ Keyed sign v k n

theorem chain_step {P : KeyPair → Nat → Prop} {v v' : Volume} {run : Run} (hv : Chain sign P v)
    (hrun : run.Regular ∧ ∀ n, run.Leaves n → P run.pair n)
    (h : (volume sign).step v run = some v') : Chain sign P v' := by
  obtain ⟨hregular, hleaves⟩ := hrun
  obtain rfl : v.behind (run.on sign v.files) = v' := Option.some.inj h
  cases hon : run.on sign v.files with
  | mk r files =>
    rcases hv with ⟨hmissing, hnone⟩ | ⟨k, n, hP, hfiles, hworlds⟩
    · rcases on_missing hregular hmissing hon with ⟨⟨e, rfl⟩, hmissing⟩ | ⟨n, hn, hfiles, hworld⟩
      · exact .inl ⟨hmissing, hnone⟩
      · refine .inr ⟨run.pair, n, hleaves n hn, ?_⟩
        cases r with
        | ok w =>
          refine ⟨hfiles, fun w' hw' => ?_⟩
          obtain rfl : w' = w := by simpa [Volume.behind, hnone] using hw'
          exact hworld w' rfl
        | error e =>
          refine ⟨hfiles, fun w' hw' => ?_⟩
          simp [Volume.behind, hnone] at hw'
    · obtain ⟨hfiles, hworld⟩ := on_keyed hregular hfiles hon
      refine .inr ⟨k, n, hP, ?_⟩
      cases r with
      | ok w =>
        refine ⟨hfiles, fun w' hw' => ?_⟩
        rcases List.mem_append.mp hw' with hold | hnew
        · exact hworlds w' hold
        · rw [List.mem_singleton.mp hnew]
          exact hworld w rfl
      | error e => exact ⟨hfiles, hworlds⟩

/-- **All worlds of a volume are signed with one key**, and name one, whatever write fails. -/
theorem chain_run {P : KeyPair → Nat → Prop} {v v' : Volume} {runs : List Run}
    (hv : Chain sign P v) (hruns : ∀ run ∈ runs, run.Regular)
    (hleaves : ∀ run ∈ runs, ∀ n, run.Leaves n → P run.pair n)
    (h : (volume sign).run v runs = some v') : Chain sign P v' := by
  induction runs generalizing v with
  | nil =>
    cases h
    exact hv
  | cons run runs ih =>
    obtain ⟨v₁, h₁, h₂⟩ := Machine.run_cons_eq_some.mp h
    have hstep := chain_step hv ⟨hruns run List.mem_cons_self, hleaves run List.mem_cons_self⟩ h₁
    refine ih hstep ?_ ?_ h₂
    · exact fun run' hrun' => hruns run' (List.mem_cons_of_mem _ hrun')
    · exact fun run' hrun' => hleaves run' (List.mem_cons_of_mem _ hrun')

/-- The pair is that of one of the runs, and so many bytes of it are what that run leaves. -/
def LeftBy (runs : List Run) (k : KeyPair) (n : Nat) : Prop :=
  ∃ run ∈ runs, run.pair = k ∧ run.Leaves n

theorem leftBy_of_leaves {runs : List Run} :
    ∀ run ∈ runs, ∀ n, run.Leaves n → LeftBy runs run.pair n :=
  fun run hrun _ hn => ⟨run, hrun, rfl, hn⟩

/-- **All worlds of a volume** name the key of one run and are signed with it, as far as the file of
the previous pair goes. -/
theorem worlds_signed {v v' : Volume} {runs : List Run} (hv : v.Fresh)
    (hruns : ∀ run ∈ runs, run.Regular) (h : (volume sign).run v runs = some v') :
    v'.worlds = [] ∨ ∃ run ∈ runs, ∃ n, run.Leaves n ∧
      ∀ w ∈ v'.worlds, ztC25519PublicKeyLen ≤ n ∧ Signed sign run.pair (run.pair.cut n) w := by
  rcases chain_run (P := LeftBy runs) (.inl hv) hruns leftBy_of_leaves h with
    hfresh | ⟨_, n, ⟨run, hrun, rfl, hn⟩, hkeyed⟩
  · exact .inl hfresh.2
  · exact .inr ⟨run, hrun, n, hn, hkeyed.worlds⟩

/-! ## 9. Clients -/

/-- The key that a world names, behind its type, its ID and its birth. -/
def namedKey (w : Bytes) : Bytes := (w.drop (1 + 8 + 8)).take ztC25519PublicKeyLen

def signatureOf (w : Bytes) : Bytes := (w.drop headerLen).take ztC25519SignatureLen

/-- What is signed of a world. -/
def toSign (ztW : ZtWorld) : Bytes := ztW.written true (Vector.replicate 96 0)

/-- A world without its signature, which begins with four zero bytes. -/
def Unsigned (sign : KeyPair → Bytes → Signature) (key : KeyPair) (w : Bytes) : Prop :=
  ∃ ztW : ZtWorld, embeds (sign key (toSign ztW)) = false ∧ w = ztW.header ++ ztW.body

section

variable {named key : KeyPair} {w : Bytes}

theorem namedKey_header (ztW : ZtWorld) (rest : Bytes) :
    namedKey (ztW.header ++ rest) = ztW.publicKeyMustBeSignedByNextTime.toList := by
  have hlen : ([ztW.type] ++ bigEndian64 ztW.id ++ bigEndian64 ztW.timestamp).length =
    1 + 8 + 8 := by
    simp
  unfold namedKey ZtWorld.header
  rw [List.append_assoc, List.drop_left' hlen, List.take_left' Vector.length_toList]

/-- A world that is signed is a header, and its signature and its body behind it. -/
theorem Signed.written (h : Signed sign named key w) : ∃ ztW : ZtWorld,
    ztW.publicKeyMustBeSignedByNextTime = named.pub ∧
      (embeds (sign key (toSign ztW)) = false ∧ w = ztW.header ++ ztW.body ∨
        w = ztW.header ++ (sign key (toSign ztW)).toList ++ ztW.body ∧
          verified w = toSign ztW) := by
  obtain ⟨ztW, hfits, hpub, hmade⟩ := h
  have htoSign : ztW.serialize true (Vector.replicate 96 0) = .ok (toSign ztW) :=
    serialize_eq hfits true _
  refine ⟨ztW, hpub, ?_⟩
  cases hembeds : embeds (sign key (toSign ztW)) with
  | true => exact .inr (mkworld_verified hfits hmade htoSign hembeds)
  | false =>
    unfold mkworld at hmade
    rw [htoSign] at hmade
    obtain rfl := Except.ok.inj ((serialize_eq hfits false _).symm.trans hmade)
    exact .inl ⟨rfl, by simp [ZtWorld.written, hembeds]⟩

theorem Signed.namedKey_eq (h : Signed sign named key w) : namedKey w = named.pub.toList := by
  obtain ⟨ztW, hpub, ⟨-, rfl⟩ | ⟨rfl, -⟩⟩ := h.written
  · rw [namedKey_header, hpub]
  · rw [List.append_assoc, namedKey_header, hpub]

/-- **A signed world is verified** by those who take its key. -/
theorem Signed.verifies {verify : Bytes → Bytes → Bytes → Prop} (h : Signed sign named key w)
    (hverify : ∀ message, verify key.pub.toList message (sign key message).toList) :
    Unsigned sign key w ∨ verify key.pub.toList (verified w) (signatureOf w) := by
  obtain ⟨ztW, -, hplain | ⟨hw, hverified⟩⟩ := h.written
  · exact .inl ⟨ztW, hplain⟩
  · right
    have hsignature : signatureOf w = (sign key (toSign ztW)).toList := by
      unfold signatureOf
      rw [hw, List.append_assoc, List.drop_left' (length_header ztW),
        List.take_left' Vector.length_toList]
    rw [hverified, hsignature]
    exact hverify _

end

/-- **Clients take every world of a volume**, whichever one they have, if no write of the previous
pair was cut inside its private half. -/
theorem worlds_accepted {verify : Bytes → Bytes → Bytes → Prop} {v v' : Volume} {runs : List Run}
    (hv : v.Fresh) (hruns : ∀ run ∈ runs, run.Regular) (hwhole : ∀ run ∈ runs, run.Whole)
    (hverify : ∀ run ∈ runs, ∀ message,
      verify run.pair.pub.toList message (sign run.pair message).toList)
    (h : (volume sign).run v runs = some v') :
    ∀ w ∈ v'.worlds, ∀ w' ∈ v'.worlds, (∃ run ∈ runs, Unsigned sign run.pair w') ∨
      verify (namedKey w) (verified w') (signatureOf w') := by
  intro w hw w' hw'
  rcases chain_run (P := LeftBy runs) (.inl hv) hruns leftBy_of_leaves h with
    hfresh | ⟨_, n, ⟨run, hrun, rfl, hn⟩, hkeyed⟩
  · rw [hfresh.2] at hw
    cases hw
  · obtain ⟨hpublic, hsigned⟩ := hkeyed.worlds w hw
    obtain ⟨-, hsigned'⟩ := hkeyed.worlds w' hw'
    have hall : ztC25519PublicKeyLen + ztC25519PrivateKeyLen ≤ n := by
      rcases hn with rfl | hremains
      · exact Nat.le_refl _
      · exact (hwhole run hrun n hremains).resolve_left (Nat.not_lt.mpr hpublic)
    rw [cut_eq hall] at hsigned'
    rw [hsigned.namedKey_eq]
    exact (hsigned'.verifies (hverify run hrun)).imp (fun hplain => ⟨run, hrun, hplain⟩) id

/-! A signature that begins with the public key, in runs of which the first writes ten bytes. -/

def headedSign (k : KeyPair) (_ : Bytes) : Signature := copyTo (Vector.replicate 96 1) k.pub.toList

def headedVerify (pub _ sig : Bytes) : Prop := sig.take ztC25519PublicKeyLen = pub

def exampleRun (fails : Act → Bool) : Run where
  mConf := ⟨[previousFile, currentFile], fileName "planet.custom", [], 5, 1700000000000, false⟩
  uint32 := 0
  unixMilli := 0
  saved _ := []
  pair := ⟨Vector.replicate 64 7, Vector.replicate 64 9⟩
  fails
  remains _ := some 10

def failingWrites : Act → Bool
  | .writeFile _ _ => true
  | _ => false

def exampleRuns : List Run :=
  [exampleRun failingWrites, exampleRun fun _ => false, exampleRun fun _ => false]

def Volume.empty : Volume := ⟨fun _ => none, []⟩

theorem exampleRun_regular {fails : Act → Bool} (h : ∀ name, fails (.readFile name) = false) :
    (exampleRun fails).Regular := by
  have houtput : fileName "planet.custom" ≠ currentFile ∧
    fileName "planet.custom" ≠ previousFile := by
    decide +kernel
  exact ⟨rfl, houtput, h⟩

theorem exampleRuns_regular : ∀ run ∈ exampleRuns, run.Regular := by
  intro run hrun
  simp only [exampleRuns, List.mem_cons, List.not_mem_nil, or_false] at hrun
  rcases hrun with rfl | rfl | rfl
  · exact exampleRun_regular fun _ => rfl
  · exact exampleRun_regular fun _ => rfl
  · exact exampleRun_regular fun _ => rfl

theorem exampleRuns_whole : ∀ run ∈ exampleRuns, run.Whole := by
  intro run hrun n hn
  have hten : run.remains (.writeFile previousFile run.pair.bytes) = some 10 := by
    simp only [exampleRuns, List.mem_cons, List.not_mem_nil, or_false] at hrun
    rcases hrun with rfl | rfl | rfl <;> rfl
  rw [hten] at hn
  cases hn
  exact .inl (by decide)

theorem headedSign_verifies (k : KeyPair) (message : Bytes) :
    headedVerify k.pub.toList message (headedSign k message).toList := by
  unfold headedVerify headedSign
  refine List.ext_getElem (by simp [ztC25519PublicKeyLen, ztC25519SignatureLen]) fun i hi hlt => ?_
  simp only [Vector.length_toList] at hlt
  simp [copyTo, Vector.getElem_ofFn, hlt]

theorem exampleRuns_worlds : ∃ v, (volume headedSign).run Volume.empty exampleRuns = some v ∧
    v.worlds.length = 2 :=
  Machine.exists_run (P := fun v => v.worlds.length = 2) (by decide +kernel) fun _ _ hlength =>
    hlength

theorem example_signed : ∃ v, (volume headedSign).run Volume.empty exampleRuns = some v ∧
    (v.worlds = [] ∨ ∃ run ∈ exampleRuns, ∃ n, run.Leaves n ∧ ∀ w ∈ v.worlds,
      ztC25519PublicKeyLen ≤ n ∧ Signed headedSign run.pair (run.pair.cut n) w) := by
  obtain ⟨v, hv, -⟩ := exampleRuns_worlds
  exact ⟨v, hv, worlds_signed ⟨rfl, rfl⟩ exampleRuns_regular hv⟩

theorem example_accepted : ∃ v, (volume headedSign).run Volume.empty exampleRuns = some v ∧
    v.worlds.length = 2 ∧ ∀ w ∈ v.worlds, ∀ w' ∈ v.worlds,
      (∃ run ∈ exampleRuns, Unsigned headedSign run.pair w') ∨
        headedVerify (namedKey w) (verified w') (signatureOf w') := by
  obtain ⟨v, hv, hlength⟩ := exampleRuns_worlds
  refine ⟨v, hv, hlength, ?_⟩
  exact worlds_accepted ⟨rfl, rfl⟩ exampleRuns_regular exampleRuns_whole
    (fun run _ => headedSign_verifies run.pair) hv

end KeyChain

end ZtPlanet.MkWorld
