/-
# Installing a planet

A planet is in three places: the file that ZeroTier reads, the ports in its `local.conf`, and the
rows of the controller.  `adminRouter.makeWorld` and the upload of `mkworld/config` generate a
planet and then change the three one after the other.

Both replace `local.conf` first, and nothing puts it back.  `install_allOrNothing_iff` says for
which requests, sites and failures an installation is all or nothing.

Two things are left out, which no file here depends on: `throwError`, in which `makeWorld` wraps the
errors of `updateLocalConf` and then of everything, so that an error keeps here the text that it was
thrown with; and the removal of the uploaded archive behind the handler.
-/
import ZtPlanet.Lib.AllOrNothing
import ZtPlanet.Ztnet.WorldConfig

namespace ZtPlanet.Ztnet.PlanetInstall

open ZtPlanet.Lib ZtPlanet.Lib.Prog ZtPlanet.Js ZtPlanet.MkWorld

/-! ## 1. The site -/

/-- `ALLOWED_WORLD_FILES`. -/
inductive FileName where
  | mkworldConfig
  | currentKey
  | previousKey
  | planetCustom
deriving DecidableEq

inductive Dir where
  | mkworld
  | backup
  | staging
deriving DecidableEq

inductive Path where
  | planet
  | localConf
  | identityPublic
  | ztmkworld
  | backup
  | file (dir : Dir) (name : FileName)
  /-- a path that no other file has -/
  | temporary (path : Path)
deriving DecidableEq

/-- The planet of the controller, with its root nodes. -/
structure PlanetRow where
  plBirth : Nat
  plID : Nat
  plRecommend : Bool
  rootNodes : List RootNode
deriving DecidableEq

structure Site where
  files : Path → Option Bytes
  dirs : Dir → Bool
  planetRow : Option PlanetRow
  /-- there is a row of global options, which the planet is connected to -/
  globalOptions : Bool

def Site.put (s : Site) (path : Path) (content : Option Bytes) : Site :=
  { s with files := Function.update s.files path content }

/-- The three places of a planet. -/
structure Stores where
  planet : Option Bytes
  localConf : Option Bytes
  planetRow : Option PlanetRow
deriving DecidableEq

def Site.stores (s : Site) : Stores := ⟨s.files .planet, s.files .localConf, s.planetRow⟩

/-! ## 2. What is done to it -/

inductive Act where
  | access
  | exists (path : Path)
  | existsDir (dir : Dir)
  | mkdir (dir : Dir)
  | writeFile (path : Path) (content : Bytes)
  | copyFile (source destination : Path)
  | rename (source destination : Path)
  | unlink (path : Path)
  | rmStaging
  | readFile (path : Path)
  | fileSize (path : Path)
  | ztmkworld (cwd : Dir) (config : WorldConfig)
  | upsert (config : WorldConfig)
deriving DecidableEq

@[reducible] def Act.Ans : Act → Type
  | .exists _ | .existsDir _ => Bool
  | .readFile _ => Option Bytes
  | .fileSize _ => Nat
  | _ => Unit

inductive Failure where
  | message (m : JsString)
  /-- an error of the file system, of a process or of the database -/
  | system (act : Act)
  /-- an error message with `Error reading zerotier-one/local.conf` in front of it -/
  | reading (e : Failure)
  /-- an answer of the upload handler -/
  | response (status : Nat) (error : String)
deriving DecidableEq

abbrev Program := Prog Act Act.Ans Failure

abbrev perform (act : Act) : Program act.Ans := Prog.call act

/-- `JSON`: what a text parses to, and the text of a value with an indentation. -/
structure Json where
  parse : Bytes → Option JsValue
  stringify : Nat → JsValue → Bytes

/-- What a run takes from its host; `generator` is what `ztmkworld` finds where the request runs it.
An action that writes a file and fails may leave anything in it; a failing transaction may have been
committed all the same. -/
structure Host where
  json : Json
  inDocker : Bool
  ztFolder : JsString
  generator : MkWorld.Host
  fails : Act → Bool
  remains : Path → Option Bytes
  committed : Bool

/-- The row of a configuration.  The column `plRecommend` is not written. -/
def upserted (config : WorldConfig) (old : Option PlanetRow) : PlanetRow where
  plBirth := config.plBirth
  plID := config.plID
  plRecommend := (old.map PlanetRow.plRecommend).getD false
  rootNodes := config.rootNodes

/-- What a write leaves. -/
def write (host : Host) (act : Act) (path : Path) (content : Bytes) (s : Site) :
    Except Failure Unit × Site :=
  if host.fails act then (.error (.system act), s.put path (host.remains path))
  else (.ok (), s.put path (some content))

/-- An action that changes nothing where it fails. -/
def unlessFails {α : Type} (host : Host) (act : Act) (s : Site) (done : α × Site) :
    Except Failure α × Site :=
  if host.fails act then (.error (.system act), s) else (.ok done.1, done.2)

def handle (host : Host) : Handler Act Act.Ans Failure Site
  | .access, s => unlessFails host .access s ((), s)
  | .exists path, s => (.ok (s.files path).isSome, s)
  | .existsDir dir, s => (.ok (s.dirs dir), s)
  | .mkdir dir, s =>
    unlessFails host (.mkdir dir) s ((), { s with dirs := Function.update s.dirs dir true })
  | .writeFile path content, s => write host (.writeFile path content) path content s
  | .copyFile source destination, s =>
    match s.files source with
    | none => (.error (.system (.copyFile source destination)), s)
    | some content => write host (.copyFile source destination) destination content s
  | .rename source destination, s =>
    match s.files source with
    | none => (.error (.system (.rename source destination)), s)
    | some content =>
      unlessFails host (.rename source destination) s
        ((), (s.put destination (some content)).put source none)
  | .unlink path, s => unlessFails host (.unlink path) s ((), s.put path none)
  | .rmStaging, s =>
    unlessFails host .rmStaging s ((), { s with files := fun
      | .file .staging _ => none
      | path => s.files path })
  | .readFile path, s => unlessFails host (.readFile path) s (s.files path, s)
  | .fileSize path, s =>
    match s.files path with
    | none => (.error (.system (.fileSize path)), s)
    | some content => unlessFails host (.fileSize path) s (content.length, s)
  -- the files of signing keys that it may write are left out
  | .ztmkworld cwd config, s =>
    match generate host.generator config.unmarshalled with
    | .error _ => (.error (.system (.ztmkworld cwd config)), s)
    | .ok (_, world) => write host (.ztmkworld cwd config) (.file cwd .planetCustom) world s
  | .upsert config, s =>
    let t := { s with planetRow := some (upserted config s.planetRow) }
    if s.globalOptions = false then (.error (.system (.upsert config)), s)
    else if host.fails (.upsert config) then
      (.error (.system (.upsert config)), if host.committed then t else s)
    else (.ok (), t)

/-! ## 3. `local.conf` -/

def validatePorts (portNumbers : List Nat) : Except Failure (List Nat) :=
  if portNumbers = [] ∨ 2 < portNumbers.length ∨
      portNumbers.any fun port => port < 1 ∨ 65535 < port then
    .error (.message (js "ZeroTier listener ports must be 1-65535 (at most two)"))
  else .ok (distinct portNumbers)

/-- The value of `local.conf`; a file that is missing or empty has none yet. -/
def parseLocalConf (json : Json) (content : Option Bytes) : Except Failure JsValue :=
  match content with
  | none => .ok (.object [])
  | some text =>
    if text = [] then .ok (.object [])
    else match json.parse text with
      | none => .error (.message (js "Error parsing zerotier-one/local.conf"))
      | some value =>
        if value.isRecord then .ok value
        else .error (.reading (.message (js "local.conf must contain a JSON object")))

def portValue (port : Nat) : JsValue := .number (.value port)

/-- The settings for one port or two. -/
def portSettings (validatedPorts : List Nat) (settings : JsValue) : JsValue :=
  match validatedPorts with
  | first :: second :: _ =>
    ((settings.set "primaryPort" (portValue first)).set "secondaryPort" (portValue second)).set
      "allowSecondaryPort" (.boolean true)
  | first :: _ =>
    ((settings.set "primaryPort" (portValue first)).set "secondaryPort" .undefined).set
      "allowSecondaryPort" .undefined
  | [] => settings

def withPorts (validatedPorts : List Nat) (localConf : JsValue) : Except Failure JsValue :=
  let settings := localConf.get "settings"
  if settings.isUndefined = false ∧ settings.isRecord = false then
    .error (.message (js "zerotier-one/local.conf settings must be an object"))
  else
    let settings := if settings.isUndefined then .object [] else settings
    .ok (localConf.set "settings" (portSettings validatedPorts settings))

def writeJsonAtomically (json : Json) (filePath : Path) (value : JsValue) : Program Unit :=
  withCleanup
    (do
      perform (.writeFile (.temporary filePath) (json.stringify 2 value))
      perform (.rename (.temporary filePath) filePath))
    (perform (.unlink (.temporary filePath)))

def updateLocalConf (json : Json) (portNumbers : List Nat) : Program Unit := do
  let validatedPorts ← Prog.ofExcept (validatePorts portNumbers)
  if validatedPorts = [] then
    throw (.message (js "At least one unique ZeroTier listener port is required"))
  else do
    let content ← tryCatch (perform (.readFile .localConf)) fun e => throw (.reading e)
    let localConf ← Prog.ofExcept (parseLocalConf json content)
    let value ← Prog.ofExcept (withPorts validatedPorts localConf)
    writeJsonAtomically json .localConf value

/-! ## 4. `adminRouter.makeWorld` -/

structure InputNode where
  identity : JsString
  endpoints : List JsString
  comments : Option JsString

structure MakeWorldInput where
  plID : Option Nat
  plRecommend : Bool
  plBirth : Option Nat
  rootNodes : List InputNode

def MakeWorldInput.config (input : MakeWorldInput) : WorldConfig where
  rootNodes := input.rootNodes.map fun node =>
    { comments :=
        match node.comments with
        | some (u :: comments) => u :: comments
        | _ => js "ztnet.network"
      identity := node.identity
      endpoints := node.endpoints }
  signing := [js "previous.c25519", js "current.c25519"]
  output := js "planet.custom"
  plID := input.plID.getD 0
  plBirth := input.plBirth.getD 0
  plRecommend := input.plRecommend

/-- A configuration, as `JSON.stringify` sees it. -/
def configValue (config : WorldConfig) : JsValue :=
  .object
    [(js "rootNodes", .array (config.rootNodes.map fun node => .object
      [(js "comments", .string node.comments), (js "identity", .string node.identity),
       (js "endpoints", .array (node.endpoints.map .string))])),
     (js "signing", .array (config.signing.map .string)),
     (js "output", .string config.output),
     (js "plID", portValue config.plID),
     (js "plBirth", portValue config.plBirth),
     (js "plRecommend", .boolean config.plRecommend)]

/-- The original planet is kept once. -/
def backupPlanet : Program Unit := do
  if (← perform (.exists .planet)) && !(← perform (.existsDir .backup)) then
    perform (.mkdir .backup)
    perform (.copyFile .planet .backup)

/-- `if (!fs.existsSync(path)) throwError(m)`. -/
def require (path : Path) (m : String) : Program Unit := do
  if !(← perform (.exists path)) then throw (.message (js m))

def ensureMkworldDir : Program Unit := do
  if !(← perform (.existsDir .mkworld)) then perform (.mkdir .mkworld)

/-- Everything up to the planet that `ztmkworld` makes. -/
def generatePlanet (host : Host) (config : WorldConfig) : Program Unit := do
  tryCatch (perform .access) fun _ => throw (.message
    (if host.inDocker then
      js "Please remove the :ro flag from the docker volume mount for " ++ host.ztFolder
    else
      js "Permission error: cannot write to " ++ host.ztFolder ++
        js ". Make sure the folder is writable."))
  require .identityPublic "identity.public file does NOT exist, cannot generate planet file."
  require .ztmkworld "ztmkworld executable does not exist at the specified location."
  ensureMkworldDir
  backupPlanet
  perform (.writeFile (.file .mkworld .mkworldConfig) (host.json.stringify 0 (configValue config)))
  tryCatch (perform (.ztmkworld .mkworld config)) fun _ => throw
    (.message (js "Could not create planet file. Please make sure your config is valid."))

/-- `adminRouter.makeWorld`, without `throwError`. -/
def makeWorld (host : Host) (input : MakeWorldInput) : Program Unit := do
  let config := input.config
  generatePlanet host config
  -- A malformed config must not leave local.conf changed while the active planet remains untouched.
  let portNumbers ← Prog.ofExcept
    ((extractEndpointPorts (input.rootNodes.flatMap InputNode.endpoints)).mapError .message)
  updateLocalConf host.json portNumbers
  perform (.copyFile (.file .mkworld .planetCustom) .planet)
  perform (.upsert config)

/-! ## 5. The upload handler -/

def copyFileAtomically (source destination : Path) : Program Unit :=
  withCleanup
    (do
      perform (.copyFile source (.temporary destination))
      perform (.rename (.temporary destination) destination))
    (perform (.unlink (.temporary destination)))

def maxGeneratedPlanetBytes : Nat := 16 * 1024 * 1024

def maxArchiveEntryBytes : Nat := 1024 * 1024
def maxArchiveTotalBytes : Nat := 5 * 1024 * 1024

/-- An entry of the archive. -/
structure Entry where
  isDirectory : Bool
  path : JsString
  /-- the size that the archive gives, where it is a number -/
  declaredSize : Option Int
  chunks : List Bytes
  /-- the stream breaks off behind its chunks -/
  fault : Option Failure

abbrev ExtractedFiles := List (FileName × Bytes)

def FileName.toJs : FileName → JsString
  | .mkworldConfig => js "mkworld.config.json"
  | .currentKey => js "current.c25519"
  | .previousKey => js "previous.c25519"
  | .planetCustom => js "planet.custom"

def allowedWorldFiles : List FileName := [.mkworldConfig, .currentKey, .previousKey, .planetCustom]

/-- The content of an entry, and how much has been read of the archive. -/
def readChunks : List Bytes → Bytes → Nat → Except Failure (Bytes × Nat)
  | [], content, totalUncompressedBytes => .ok (content, totalUncompressedBytes)
  | chunk :: chunks, content, totalUncompressedBytes =>
    if maxArchiveEntryBytes < (content ++ chunk).length ∨
        maxArchiveTotalBytes < totalUncompressedBytes + chunk.length then
      .error (.message (js "Archive is too large"))
    else readChunks chunks (content ++ chunk) (totalUncompressedBytes + chunk.length)

def extractEntries : List Entry → ExtractedFiles → Nat → Except Failure ExtractedFiles
  | [], extractedFiles, _ => .ok extractedFiles
  | entry :: entries, extractedFiles, totalUncompressedBytes =>
    if entry.isDirectory then extractEntries entries extractedFiles totalUncompressedBytes
    else if entry.declaredSize.any fun size : Int => size < 0 ∨ maxArchiveEntryBytes < size then
      .error (.message (js "Archive entry is too large"))
    else do
      let (content, totalUncompressedBytes) ← readChunks entry.chunks [] totalUncompressedBytes
      match entry.fault with
      | some e => .error e
      | none =>
        match allowedWorldFiles.find? fun name => name.toJs = entry.path with
        | none => extractEntries entries extractedFiles totalUncompressedBytes
        | some name =>
          if (extractedFiles.lookup name).isSome then
            .error (.message (js "Duplicate archive entry: " ++ entry.path))
          else extractEntries entries (extractedFiles ++ [(name, content)]) totalUncompressedBytes

def extract (files : List Entry) : Except Failure ExtractedFiles :=
  if 64 < files.length then .error (.message (js "Archive contains too many entries"))
  else extractEntries files [] 0

/-- The configuration of an upload, and its ports. -/
def uploadedConfig (json : Json) (extractedFiles : ExtractedFiles) :
    Except Failure (WorldConfig × List Nat) :=
  match extractedFiles.lookup .mkworldConfig with
  | none => .error (.response 400 "Missing required files in the zip.")
  | some configFile =>
    match json.parse configFile with
    | none => .error (.response 400 "Invalid mkworld.config.json.")
    | some parsedContent => (parseWorldConfig parsedContent).mapError .message

/-- The planet is generated in a directory of its own. -/
def stagePlanet (json : Json) (extractedFiles : ExtractedFiles) (worldConfig : WorldConfig) :
    Program Unit := do
  perform (.mkdir .staging)
  each extractedFiles fun entry => perform (.writeFile (.file .staging entry.1) entry.2)
  perform (.writeFile (.file .staging .mkworldConfig) (json.stringify 0 (configValue worldConfig)))
  tryCatch (perform (.ztmkworld .staging worldConfig)) fun _ =>
    throw (.response 400 "Error running ztmkworld.")
  let size ← perform (.fileSize (.file .staging .planetCustom))
  if size = 0 ∨ maxGeneratedPlanetBytes < size then
    throw (.message (js "ztmkworld did not produce a valid planet file"))

/-- The files of the archive and the generated planet go to where they belong. -/
def installFiles (extractedFiles : ExtractedFiles) : Program Unit := do
  perform (.mkdir .mkworld)
  backupPlanet
  each extractedFiles fun entry =>
    copyFileAtomically (.file .staging entry.1) (.file .mkworld entry.1)
  copyFileAtomically (.file .staging .planetCustom) .planet

/-- What the handler answers where something is thrown. -/
def uploadFailure : Failure → Failure
  | .response status error => .response status error
  | _ => .response 400 "Invalid world archive or configuration."

/-- The upload handler, from the archive on that an administrator has sent, which may not be
readable. -/
def upload (host : Host) (archive : Except Failure (List Entry)) : Program Unit :=
  withCleanup
    (tryCatch
      (do
        let extractedFiles ← Prog.ofExcept (archive >>= extract)
        let (worldConfig, portNumbers) ← Prog.ofExcept (uploadedConfig host.json extractedFiles)
        stagePlanet host.json extractedFiles worldConfig
        updateLocalConf host.json portNumbers
        installFiles extractedFiles
        perform (.upsert worldConfig))
      fun e => throw (uploadFailure e))
    (perform .rmStaging)

/-! ## 6. Sites that differ in some files -/

/-- The sites differ in the files `P` only, and in directories. -/
structure Site.Off (P : Path → Prop) (s t : Site) : Prop where
  files : ∀ path, ¬P path → t.files path = s.files path
  planetRow : t.planetRow = s.planetRow
  globalOptions : t.globalOptions = s.globalOptions

variable {P Q : Path → Prop} {s t u : Site}

theorem Site.Off.refl (P : Path → Prop) (s : Site) : Site.Off P s s := ⟨fun _ _ => rfl, rfl, rfl⟩

theorem Site.Off.trans (h : Site.Off P s t) (h' : Site.Off P t u) : Site.Off P s u :=
  ⟨fun path hpath => (h'.files path hpath).trans (h.files path hpath),
    h'.planetRow.trans h.planetRow, h'.globalOptions.trans h.globalOptions⟩

theorem Site.Off.mono (h : Site.Off P s t) (hPQ : ∀ path, P path → Q path) : Site.Off Q s t :=
  ⟨fun path hpath => h.files path fun hP => hpath (hPQ path hP), h.planetRow, h.globalOptions⟩

theorem Site.Off.stores (h : Site.Off P s t) (hplanet : ¬P .planet) (hlocalConf : ¬P .localConf) :
    t.stores = s.stores := by
  unfold Site.stores
  rw [h.files _ hplanet, h.files _ hlocalConf, h.planetRow]

@[simp] theorem put_files_self (s : Site) (path : Path) (content : Option Bytes) :
    (s.put path content).files path = content := Function.update_self _ _ _

theorem put_files_of_ne {path path' : Path} (hne : path' ≠ path) (content : Option Bytes) :
    (s.put path content).files path' = s.files path' := Function.update_of_ne hne _ _

@[simp] theorem put_dirs (s : Site) (path : Path) (content : Option Bytes) :
    (s.put path content).dirs = s.dirs := rfl

theorem Site.Off.put {path : Path} (hP : P path) (s : Site) (content : Option Bytes) :
    Site.Off P s (s.put path content) :=
  ⟨fun path' hpath' => put_files_of_ne (fun heq : path' = path => hpath' (heq ▸ hP)) content, rfl,
    rfl⟩

theorem Site.Off.put_self (s : Site) (path : Path) (content : Option Bytes) :
    Site.Off (· = path) s (s.put path content) :=
  ⟨fun _ hne => put_files_of_ne hne content, rfl, rfl⟩

theorem Site.Off.dirs (P : Path → Prop) (s : Site) (dirs : Dir → Bool) :
    Site.Off P s { s with dirs := dirs } := ⟨fun _ _ => rfl, rfl, rfl⟩

/-! ## 7. The actions -/

variable {host : Host}

theorem ends_unlessFails {α : Type} {act : Act} {a : α} {p : Program α}
    (hp : exec (handle host) p s = unlessFails host act s (a, u)) :
    Ends (handle host) p s (host.fails act = false) (fun b t => b = a ∧ t = u) fun t => t = s :=
  .of_if hp

theorem ends_write {act : Act} {path : Path} {content : Bytes} {p : Program Unit}
    (hp : exec (handle host) p s = write host act path content s) :
    Ends (handle host) p s (host.fails act = false) (fun _ t => t = s.put path (some content))
      fun t => t = s.put path (host.remains path) :=
  (Ends.of_if hp).mono Iff.rfl (fun _ _ _ hF => hF.2) fun _ hE => hE

theorem ends_access : Ends (handle host) (perform .access) s (host.fails .access = false)
    (fun _ t => t = s) fun t => t = s :=
  (ends_unlessFails (exec_call _)).mono Iff.rfl (fun _ _ _ hF => hF.2) fun _ hE => hE

theorem ends_exists (path : Path) : Ends (handle host) (perform (.exists path)) s True
    (fun found t => found = (s.files path).isSome ∧ t = s) fun t => t = s :=
  .of_ok (exec_call _) trivial ⟨rfl, rfl⟩

theorem ends_existsDir (dir : Dir) : Ends (handle host) (perform (.existsDir dir)) s True
    (fun found t => found = s.dirs dir ∧ t = s) fun t => t = s :=
  .of_ok (exec_call _) trivial ⟨rfl, rfl⟩

theorem ends_mkdir (dir : Dir) : Ends (handle host) (perform (.mkdir dir)) s
    (host.fails (.mkdir dir) = false)
    (fun _ t => t = { s with dirs := Function.update s.dirs dir true }) fun t => t = s :=
  (ends_unlessFails (exec_call _)).mono Iff.rfl (fun _ _ _ hF => hF.2) fun _ hE => hE

theorem ends_readFile (path : Path) : Ends (handle host) (perform (.readFile path)) s
    (host.fails (.readFile path) = false) (fun content t => content = s.files path ∧ t = s)
    fun t => t = s := ends_unlessFails (exec_call _)

theorem ends_writeFile (path : Path) (content : Bytes) :
    Ends (handle host) (perform (.writeFile path content)) s
      (host.fails (.writeFile path content) = false) (fun _ t => t = s.put path (some content))
      fun t => t = s.put path (host.remains path) := ends_write (exec_call _)

theorem ends_copyFile {source : Path} (destination : Path) {content : Bytes}
    (hsource : s.files source = some content) :
    Ends (handle host) (perform (.copyFile source destination)) s
      (host.fails (.copyFile source destination) = false)
      (fun _ t => t = s.put destination (some content))
      fun t => t = s.put destination (host.remains destination) := by
  refine ends_write ((exec_call _).trans ?_)
  simp only [handle, hsource]

theorem ends_rename {source : Path} (destination : Path) {content : Bytes}
    (hsource : s.files source = some content) :
    Ends (handle host) (perform (.rename source destination)) s
      (host.fails (.rename source destination) = false)
      (fun _ t => t = (s.put destination (some content)).put source none) fun t => t = s := by
  have hexec := exec_call (h := handle host) (s := s) (.rename source destination)
  simp only [handle, hsource] at hexec
  exact (ends_unlessFails hexec).mono Iff.rfl (fun _ _ _ hF => hF.2) fun _ hE => hE

theorem ends_fileSize {path : Path} {content : Bytes} (hpath : s.files path = some content) :
    Ends (handle host) (perform (.fileSize path)) s (host.fails (.fileSize path) = false)
      (fun size t => size = content.length ∧ t = s) fun t => t = s := by
  have hexec := exec_call (h := handle host) (s := s) (.fileSize path)
  simp only [handle, hpath] at hexec
  exact ends_unlessFails hexec

/-- The planet that the generator makes of a configuration. -/
def Generates (host : Host) (config : WorldConfig) (world : Bytes) : Prop :=
  ∃ name, generate host.generator config.unmarshalled = .ok (name, world)

theorem ends_ztmkworld (cwd : Dir) (config : WorldConfig) :
    Ends (handle host) (perform (.ztmkworld cwd config)) s
      ((∃ world, Generates host config world) ∧ host.fails (.ztmkworld cwd config) = false)
      (fun _ t => ∃ world, Generates host config world ∧
        t = s.put (.file cwd .planetCustom) (some world))
      fun t => Site.Off (· = .file cwd .planetCustom) s t := by
  have hexec := exec_call (h := handle host) (s := s) (.ztmkworld cwd config)
  simp only [handle] at hexec
  split at hexec
  · next e hgenerate =>
    refine .of_error hexec ?_ (.refl _ _)
    rintro ⟨⟨world, name, heq⟩, -⟩
    rw [hgenerate] at heq
    cases heq
  · next name world hgenerate =>
    refine (ends_write hexec).mono ⟨fun hfails => ⟨⟨world, name, hgenerate⟩, hfails⟩, And.right⟩
      (fun _ _ _ hF => ⟨world, ⟨name, hgenerate⟩, hF⟩) fun t hE => ?_
    rw [hE]
    exact .put_self _ _ _

/-! ## 8. `local.conf` -/

/-- The text that `local.conf` gets for some ports. -/
def localConfText (json : Json) (portNumbers : List Nat) (content : Option Bytes) :
    Except Failure Bytes := do
  let validatedPorts ← validatePorts portNumbers
  let localConf ← parseLocalConf json content
  let value ← withPorts validatedPorts localConf
  .ok (json.stringify 2 value)

/-- Nothing fails while `local.conf` is replaced. -/
structure Replaces (host : Host) (text : Bytes) : Prop where
  read : host.fails (.readFile .localConf) = false
  write : host.fails (.writeFile (.temporary .localConf) text) = false
  rename : host.fails (.rename (.temporary .localConf) .localConf) = false

theorem after_unlink (host : Host) (path : Path) (s : Site) :
    Site.Off (· = path) s (after (handle host) (perform (.unlink path)) s) ∧
      (after (handle host) (perform (.unlink path)) s).dirs = s.dirs := by
  unfold after
  rw [show exec (handle host) (perform (.unlink path)) s = handle host (.unlink path) s from
    exec_call _]
  simp only [handle, unlessFails]
  split
  · exact ⟨.refl _ _, rfl⟩
  · exact ⟨.put_self _ _ _, rfl⟩

/-- A file that is replaced atomically: nothing but a temporary file is left of a failure. -/
theorem ends_replace {p : Program Unit} {act : Act} {destination : Path} {content : Bytes}
    (hp : Ends (handle host) p s (host.fails act = false)
      (fun _ t => t = s.put (.temporary destination) (some content))
      fun t => t = s.put (.temporary destination) (host.remains (.temporary destination))) :
    Ends (handle host)
      (withCleanup
        (do
          p
          perform (.rename (.temporary destination) destination))
        (perform (.unlink (.temporary destination))))
      s (host.fails act = false ∧
        host.fails (.rename (.temporary destination) destination) = false)
      (fun _ t => t.files destination = some content ∧ t.dirs = s.dirs ∧
        Site.Off (fun path => path = destination ∨ path = .temporary destination) s t)
      fun t => Site.Off (· = .temporary destination) s t := by
  have hne : destination ≠ .temporary destination := by
    intro heq
    exact absurd (congrArg sizeOf heq) (by simp)
  have hbody : Ends (handle host)
      (do
        p
        perform (.rename (.temporary destination) destination))
      s (host.fails act = false ∧
        host.fails (.rename (.temporary destination) destination) = false)
      (fun _ t => t = (((s.put (.temporary destination) (some content)).put destination
        (some content)).put (.temporary destination) none))
      fun t => Site.Off (· = .temporary destination) s t := by
    refine Ends.bind (hp.mono Iff.rfl (fun _ _ _ hF => hF) fun t hE => ?_) ?_
    · rw [hE]
      exact .put_self _ _ _
    · rintro - t - rfl
      refine (ends_rename destination (put_files_self _ _ _)).mono Iff.rfl (fun _ _ _ hF => hF)
        fun t hE => ?_
      rw [hE]
      exact .put_self _ _ _
  refine hbody.withCleanup ?_ ?_
  · rintro - t rfl
    obtain ⟨hoff, hdirs⟩ := after_unlink host (.temporary destination)
      (((s.put (.temporary destination) (some content)).put destination (some content)).put
        (.temporary destination) none)
    refine ⟨?_, hdirs, ?_⟩
    · rw [hoff.files _ hne, put_files_of_ne hne, put_files_self]
    · exact (((Site.Off.put (.inr rfl) s _).trans (.put (.inl rfl) _ _)).trans
        (.put (.inr rfl) _ _)).trans (hoff.mono fun _ => .inr)
  · intro t hE
    exact hE.trans (after_unlink host _ t).1

theorem validatePorts_ok {portNumbers validatedPorts : List Nat}
    (h : validatePorts portNumbers = .ok validatedPorts) :
    validatedPorts = distinct portNumbers ∧ validatedPorts ≠ [] := by
  obtain ⟨hbounds, h⟩ := if_error_ok_iff.mp h
  obtain rfl := Except.ok.inj h
  exact ⟨rfl, distinct_ne_nil (not_or.mp hbounds).1⟩

/-- What `updateLocalConf` does with the content that it has read. -/
theorem ends_writeLocalConf (validatedPorts : List Nat) (content : Option Bytes) :
    Ends (handle host)
      (do
        let localConf ← Prog.ofExcept (parseLocalConf host.json content)
        let value ← Prog.ofExcept (withPorts validatedPorts localConf)
        writeJsonAtomically host.json .localConf value)
      s (∃ value, (parseLocalConf host.json content >>= withPorts validatedPorts) = .ok value ∧
        host.fails (.writeFile (.temporary .localConf) (host.json.stringify 2 value)) = false ∧
        host.fails (.rename (.temporary .localConf) .localConf) = false)
      (fun _ t => ∃ value,
        (parseLocalConf host.json content >>= withPorts validatedPorts) = .ok value ∧
        t.files .localConf = some (host.json.stringify 2 value) ∧ t.dirs = s.dirs ∧
        Site.Off (fun path => path = .localConf ∨ path = .temporary .localConf) s t)
      fun t => Site.Off (· = .temporary .localConf) s t := by
  have hfailed : ∀ (e : Failure) (D : JsValue → Prop),
      ¬∃ value, (.error e : Except Failure JsValue) = .ok value ∧ D value := by
    rintro e D ⟨value, heq, -⟩
    cases heq
  cases hparse : parseLocalConf host.json content with
  | error e => exact .ofExcept_error (hfailed e _) (.refl _ _)
  | ok localConf =>
    refine .ofExcept_ok ?_
    change Ends _ _ _ (∃ value, withPorts validatedPorts localConf = .ok value ∧ _)
      (fun _ t => ∃ value, withPorts validatedPorts localConf = .ok value ∧ _) _
    cases hports : withPorts validatedPorts localConf with
    | error e => exact .ofExcept_error (hfailed e _) (.refl _ _)
    | ok value =>
      refine .ofExcept_ok ((ends_replace (ends_writeFile _ _)).mono ?_
        (fun _ _ _ hF => ⟨value, rfl, hF⟩) fun _ hE => hE)
      constructor
      · exact fun hsucceeds => ⟨value, rfl, hsucceeds⟩
      · rintro ⟨value', heq, hsucceeds⟩
        cases heq
        exact hsucceeds

/-- **`updateLocalConf`** replaces the file, or leaves it as it was. -/
theorem ends_updateLocalConf (host : Host) (portNumbers : List Nat) :
    Ends (handle host) (updateLocalConf host.json portNumbers) s
      (∃ text, localConfText host.json portNumbers (s.files .localConf) = .ok text ∧
        Replaces host text)
      (fun _ t => ∃ text, localConfText host.json portNumbers (s.files .localConf) = .ok text ∧
        t.files .localConf = some text ∧ t.dirs = s.dirs ∧
        Site.Off (fun path => path = .localConf ∨ path = .temporary .localConf) s t)
      fun t => Site.Off (· = .temporary .localConf) s t := by
  unfold updateLocalConf
  cases hvalid : validatePorts portNumbers with
  | error e =>
    refine .ofExcept_error ?_ (.refl _ _)
    rintro ⟨text, htext, -⟩
    simp only [localConfText, hvalid] at htext
    cases htext
  | ok validatedPorts =>
    -- the text is that of the value
    have htext : ∀ text, localConfText host.json portNumbers (s.files .localConf) = .ok text ↔
        ∃ value, (parseLocalConf host.json (s.files .localConf) >>= withPorts validatedPorts) =
          .ok value ∧ host.json.stringify 2 value = text := by
      intro text
      unfold localConfText
      rw [hvalid]
      change (parseLocalConf host.json (s.files .localConf) >>= fun localConf =>
        withPorts validatedPorts localConf >>= fun value => .ok (host.json.stringify 2 value)) =
          .ok text ↔ _
      rw [← bind_assoc, bind_ok_iff]
      exact exists_congr fun value => and_congr Iff.rfl (by rw [Except.ok.injEq])
    have hread : Ends (handle host) (tryCatch (perform (.readFile .localConf)) fun e =>
      throw (.reading e))
        s (host.fails (.readFile .localConf) = false)
        (fun content t => content = s.files .localConf ∧ t = s)
        fun t => Site.Off (· = .temporary .localConf) s t := by
      refine ((ends_readFile .localConf).rethrow .reading).mono Iff.rfl (fun _ _ _ hF => hF) ?_
      rintro t rfl
      exact .refl _ _
    refine .ofExcept_ok ?_
    rw [if_neg (validatePorts_ok hvalid).2]
    refine (hread.bind fun content t _ hF => ?_).mono
      (C := host.fails (.readFile .localConf) = false ∧
        ∃ value, (parseLocalConf host.json (s.files .localConf) >>= withPorts validatedPorts) =
            .ok value ∧
          host.fails (.writeFile (.temporary .localConf) (host.json.stringify 2 value)) = false ∧
          host.fails (.rename (.temporary .localConf) .localConf) = false)
      (F := fun _ t => ∃ value,
        (parseLocalConf host.json (s.files .localConf) >>= withPorts validatedPorts) = .ok value ∧
        t.files .localConf = some (host.json.stringify 2 value) ∧ t.dirs = s.dirs ∧
        Site.Off (fun path => path = .localConf ∨ path = .temporary .localConf) s t)
      ?_ ?_ fun _ hE => hE
    · rw [hF.1, hF.2]
      exact ends_writeLocalConf validatedPorts (s.files .localConf)
    · constructor
      · rintro ⟨hread, value, hvalue, hwrite, hrename⟩
        exact ⟨_, (htext _).mpr ⟨value, hvalue, rfl⟩, hread, hwrite, hrename⟩
      · rintro ⟨text, heq, hreplaces⟩
        obtain ⟨value, hvalue, rfl⟩ := (htext text).mp heq
        exact ⟨hreplaces.read, value, hvalue, hreplaces.write, hreplaces.rename⟩
    · rintro - t - ⟨value, hvalue, hfile, hdirs, hoff⟩
      exact ⟨_, (htext _).mpr ⟨value, hvalue, rfl⟩, hfile, hdirs, hoff⟩

/-! ## 9. The planet that is generated -/

theorem ends_require (path : Path) (m : String) :
    Ends (handle host) (require path m) s ((s.files path).isSome = true) (fun _ t => t = s)
      fun t => t = s := by
  unfold require
  refine (ends_exists path).bind_true fun found t hF => ?_
  obtain ⟨rfl, rfl⟩ := hF
  cases hfound : (t.files path).isSome with
  | true => exact Ends.congr (ends_pure rfl) (by simp)
  | false => exact Ends.congr (ends_throw rfl) (by simp)

theorem ends_ensureMkworldDir :
    Ends (handle host) ensureMkworldDir s
      (s.dirs .mkworld = true ∨ host.fails (.mkdir .mkworld) = false)
      (fun _ t => t.files = s.files ∧ t.dirs .backup = s.dirs .backup ∧
        t.planetRow = s.planetRow ∧ t.globalOptions = s.globalOptions)
      fun t => t = s := by
  unfold ensureMkworldDir
  refine (ends_existsDir .mkworld).bind_true fun found t hF => ?_
  obtain ⟨rfl, rfl⟩ := hF
  cases hfound : t.dirs .mkworld with
  | true => exact Ends.congr (ends_pure ⟨rfl, rfl, rfl, rfl⟩) (by simp)
  | false =>
    refine Ends.congr ((ends_mkdir .mkworld).mono_ok ?_) (by simp)
    rintro - u rfl
    exact ⟨rfl, by simp, rfl, rfl⟩

/-- Nothing fails while the original planet is kept. -/
def BacksUp (host : Host) (planet : Option Bytes) (kept : Bool) : Prop :=
  planet.isSome = true → kept = false →
    host.fails (.mkdir .backup) = false ∧ host.fails (.copyFile .planet .backup) = false

theorem ends_backupPlanet :
    Ends (handle host) backupPlanet s (BacksUp host (s.files .planet) (s.dirs .backup))
      (fun _ t => Site.Off (· = .backup) s t) fun t => Site.Off (· = .backup) s t := by
  unfold backupPlanet BacksUp
  refine ((ends_exists .planet).mono_error ?_).bind_true fun found t hF => ?_
  · rintro t rfl
    exact .refl _ _
  obtain ⟨rfl, rfl⟩ := hF
  refine ((ends_existsDir .backup).mono_error ?_).bind_true fun kept u hF => ?_
  · rintro u rfl
    exact .refl _ _
  obtain ⟨rfl, rfl⟩ := hF
  cases hplanet : u.files .planet with
  | none => exact Ends.congr (ends_pure (.refl _ _)) (by simp)
  | some planet =>
    cases hkept : u.dirs .backup with
    | true => exact Ends.congr (ends_pure (.refl _ _)) (by simp)
    | false =>
      refine Ends.congr (C := host.fails (.mkdir .backup) = false ∧
        host.fails (.copyFile .planet .backup) = false) ?_ (by simp)
      refine ((ends_mkdir .backup).mono_error ?_).bind fun _ v _ hF => ?_
      · rintro v rfl
        exact .refl _ _
      · rw [hF]
        refine ((ends_copyFile (s := { u with dirs := Function.update u.dirs .backup true })
          .backup hplanet).mono_ok ?_).mono_error ?_
        · rintro - w rfl
          exact (Site.Off.dirs _ _ _).trans (.put_self _ _ _)
        · rintro w rfl
          exact (Site.Off.dirs _ _ _).trans (.put_self _ _ _)

/-- `makeWorld` gets as far as a planet of its own. -/
structure GeneratesPlanet (host : Host) (config : WorldConfig) (s : Site) : Prop where
  access : host.fails .access = false
  identity : (s.files .identityPublic).isSome = true
  ztmkworld : (s.files .ztmkworld).isSome = true
  directory : s.dirs .mkworld = true ∨ host.fails (.mkdir .mkworld) = false
  backup : BacksUp host (s.files .planet) (s.dirs .backup)
  written : host.fails (.writeFile (.file .mkworld .mkworldConfig)
    (host.json.stringify 0 (configValue config))) = false
  generates : ∃ world, Generates host config world
  run : host.fails (.ztmkworld .mkworld config) = false

/-- The files that `makeWorld` works with. -/
def WorkFile (path : Path) : Prop := path = .backup ∨ ∃ name, path = .file .mkworld name

theorem ends_generatePlanet (config : WorldConfig) :
    Ends (handle host) (generatePlanet host config) s (GeneratesPlanet host config s)
      (fun _ t => ∃ world, Generates host config world ∧
        t.files (.file .mkworld .planetCustom) = some world ∧ Site.Off WorkFile s t)
      fun t => Site.Off WorkFile s t := by
  have hsame : ∀ t : Site, t = s → Site.Off WorkFile s t := by
    rintro t rfl
    exact .refl _ _
  have hfile : ∀ name, WorkFile (.file .mkworld name) := fun name => .inr ⟨name, rfl⟩
  unfold generatePlanet
  refine Ends.mono
    (C := host.fails .access = false ∧ (s.files .identityPublic).isSome = true ∧
      (s.files .ztmkworld).isSome = true ∧
      (s.dirs .mkworld = true ∨ host.fails (.mkdir .mkworld) = false) ∧
      BacksUp host (s.files .planet) (s.dirs .backup) ∧
      host.fails (.writeFile (.file .mkworld .mkworldConfig)
        (host.json.stringify 0 (configValue config))) = false ∧
      (∃ world, Generates host config world) ∧ host.fails (.ztmkworld .mkworld config) = false)
    ?_ ?_ (fun _ _ _ hF => hF) fun _ hE => hE
  · refine ((ends_access.rethrow _).mono_error hsame).bind ?_
    rintro - t - rfl
    refine ((ends_require _ _).mono_error hsame).bind ?_
    rintro - t - rfl
    refine ((ends_require _ _).mono_error hsame).bind ?_
    rintro - s - rfl
    refine (ends_ensureMkworldDir.mono_error hsame).bind ?_
    rintro - t - ⟨hfiles, hbackup, hrow, hoptions⟩
    have hoff : Site.Off WorkFile s t := ⟨fun path _ => congrFun hfiles path, hrow, hoptions⟩
    rw [← hfiles, ← hbackup]
    refine (ends_backupPlanet.mono_error fun u hu =>
      hoff.trans (hu.mono fun _ => .inl)).bind ?_
    rintro - u - hu
    replace hoff := hoff.trans (hu.mono (Q := WorkFile) fun _ => .inl)
    refine ((ends_writeFile _ _).mono_error ?_).bind ?_
    · rintro v rfl
      exact hoff.trans (.put (hfile _) _ _)
    rintro - v - rfl
    replace hoff := hoff.trans (.put (hfile .mkworldConfig) u
      (some (host.json.stringify 0 (configValue config))))
    refine (((ends_ztmkworld .mkworld config).rethrow _).mono_error ?_).mono_ok ?_
    · exact fun w hw => hoff.trans (hw.mono fun _ heq => heq ▸ hfile _)
    · rintro - w ⟨world, hworld, rfl⟩
      exact ⟨world, hworld, put_files_self _ _ _, hoff.trans (.put (hfile _) _ _)⟩
  · constructor
    · rintro ⟨haccess, hidentity, hbin, hdir, hbackup, hconfig, hgenerates, hrun⟩
      exact ⟨haccess, hidentity, hbin, hdir, hbackup, hconfig, hgenerates, hrun⟩
    · intro h
      exact ⟨h.access, h.identity, h.ztmkworld, h.directory, h.backup, h.written,
        h.generates, h.run⟩

/-! ## 10. All or nothing -/

/-- Settings with these ports and no others. -/
def HasPorts (ports : List Nat) (settings : JsValue) : Prop :=
  match ports with
  | [first] => settings.get "primaryPort" = portValue first ∧
      settings.get "secondaryPort" = .undefined
  | [first, second] => settings.get "primaryPort" = portValue first ∧
      settings.get "secondaryPort" = portValue second
  | _ => False

/-- The ports of the endpoints of a configuration. -/
def portsOf (config : WorldConfig) : Except JsString (List Nat) :=
  extractEndpointPorts (config.rootNodes.flatMap RootNode.endpoints)

/-- **The three places describe the new planet**: the file is what the generator makes, `local.conf`
has the ports of the endpoints, and the row has the root nodes and the numbers of the planet. -/
structure Describes (host : Host) (config : WorldConfig) (stores : Stores) : Prop where
  planet : ∃ world, stores.planet = some world ∧ Generates host config world
  localConf : ∃ ports value, portsOf config = .ok ports ∧
    stores.localConf = some (host.json.stringify 2 value) ∧ HasPorts ports (value.get "settings")
  rootNodes : ∃ row, stores.planetRow = some row ∧ row.rootNodes = config.rootNodes
  numbers : ∀ world row, stores.planet = some world → stores.planetRow = some row →
    worldNumbers world = (row.plID, row.plBirth)

/-- What the run of a request that installs `config` must come to. -/
def Installs (host : Host) (config : WorldConfig) (s : Site) (run : Except Failure Unit × Site) :
    Prop := AllOrNothing Site.stores s.stores (Describes host config) run

/-- The planet and the `local.conf` that a request is about to install, where nothing fails while
`local.conf` is replaced. -/
structure Prepared (host : Host) (config : WorldConfig) (s : Site) (world text : Bytes) : Prop where
  generates : Generates host config world
  localConf : ∃ ports, portsOf config = .ok ports ∧
    localConfText host.json ports (s.files .localConf) = .ok text
  replaces : Replaces host text

/-- The last step. -/
def UpsertSpares (host : Host) (config : WorldConfig) (s : Site) (world text : Bytes) : Prop :=
  if s.globalOptions = false ∨ host.fails (.upsert config) = true then
    s.files .planet = some world ∧ s.files .localConf = some text ∧
      (s.globalOptions = true → host.committed = true →
        s.planetRow = some (upserted config s.planetRow))
  else plannedNumbers host.generator config.unmarshalled = (config.plID, config.plBirth)

theorem parseLocalConf_ok {json : Json} {content : Option Bytes} {value : JsValue}
    (h : parseLocalConf json content = .ok value) : value.isRecord = true := by
  unfold parseLocalConf at h
  split at h
  · cases h
    rfl
  · split at h
    · cases h
      rfl
    · split at h
      · cases h
      · split at h
        · next hrecord =>
          cases h
          exact hrecord
        · cases h

theorem hasPorts_portSettings {ports : List Nat} {settings : JsValue}
    (h : settings.isRecord = true) (hne : ports ≠ []) (hlen : ports.length ≤ 2) :
    HasPorts ports (portSettings ports settings) := by
  have hprimary : ∀ first, (settings.set "primaryPort" (portValue first)).isRecord = true :=
    fun first => JsValue.isRecord_set h _ _
  have hsecondary : ∀ first x,
      ((settings.set "primaryPort" (portValue first)).set "secondaryPort" x).isRecord = true :=
    fun first x => JsValue.isRecord_set (hprimary first) _ _
  have hallow : js "allowSecondaryPort" ≠ js "primaryPort" ∧
      js "allowSecondaryPort" ≠ js "secondaryPort" := by decide
  have hname : js "secondaryPort" ≠ js "primaryPort" := by decide
  match ports, hne, hlen with
  | [first], _, _ =>
    simp only [HasPorts, portSettings, JsValue.get_set (hsecondary first _),
      JsValue.get_set (hprimary first), JsValue.get_set h, hallow.1, hallow.2, hname, if_true,
      if_false]
    exact ⟨trivial, trivial⟩
  | [first, second], _, _ =>
    simp only [HasPorts, portSettings, JsValue.get_set (hsecondary first _),
      JsValue.get_set (hprimary first), JsValue.get_set h, hallow.1, hallow.2, hname, if_true,
      if_false]
    exact ⟨trivial, trivial⟩
  | _ :: _ :: _ :: _, _, hlen => simp at hlen

theorem extractEndpointPorts_ok {endpoints : List JsString} {ports : List Nat}
    (h : extractEndpointPorts endpoints = .ok ports) :
    distinct ports = ports ∧ ports ≠ [] ∧ ports.length ≤ 2 := by
  obtain ⟨-, h⟩ := if_error_ok_iff.mp h
  obtain ⟨found, -, h⟩ := bind_ok_iff.mp h
  obtain ⟨hlen, h⟩ := if_error_ok_iff.mp h
  obtain rfl := Except.ok.inj h
  refine ⟨distinct_distinct found, ?_, Nat.not_lt.mp (not_or.mp hlen).2⟩
  rintro hnil
  exact hlen (.inl (by rw [hnil]; rfl))

/-- The text that `local.conf` gets has the ports. -/
theorem hasPorts_of_localConfText {json : Json} {endpoints : List JsString} {ports : List Nat}
    {content : Option Bytes} {text : Bytes} (hports : extractEndpointPorts endpoints = .ok ports)
    (h : localConfText json ports content = .ok text) :
    ∃ value, text = json.stringify 2 value ∧ HasPorts ports (value.get "settings") := by
  obtain ⟨hdistinct, hne, hlen⟩ := extractEndpointPorts_ok hports
  obtain ⟨validatedPorts, hvalid, h⟩ := bind_ok_iff.mp h
  obtain ⟨localConf, hlocalConf, h⟩ := bind_ok_iff.mp h
  obtain ⟨value, hvalue, h⟩ := bind_ok_iff.mp h
  obtain rfl := Except.ok.inj h
  have hrecord := parseLocalConf_ok hlocalConf
  obtain rfl : validatedPorts = ports := (validatePorts_ok hvalid).1.trans hdistinct
  refine ⟨value, rfl, ?_⟩
  unfold withPorts at hvalue
  obtain ⟨hsettings, hvalue⟩ := if_error_ok_iff.mp hvalue
  obtain rfl := Except.ok.inj hvalue
  have hnew : (if (localConf.get "settings").isUndefined = true then .object []
      else localConf.get "settings" : JsValue).isRecord = true := by
    split
    · rfl
    · next hdefined =>
      by_contra hnot
      exact hsettings ⟨by simpa using hdefined, by simpa using hnot⟩
  have hget : ∀ settings, (localConf.set "settings" settings).get "settings" = settings := by
    intro settings
    rw [JsValue.get_set hrecord, if_pos rfl]
  rw [hget]
  exact hasPorts_portSettings hnew hne hlen

theorem Prepared.describes_iff {config : WorldConfig} {world text : Bytes}
    (h : Prepared host config s world text) (old : Option PlanetRow) :
    Describes host config ⟨some world, some text, some (upserted config old)⟩ ↔
      plannedNumbers host.generator config.unmarshalled = (config.plID, config.plBirth) := by
  obtain ⟨name, hgenerate⟩ := h.generates
  have hnumbers := worldNumbers_of_generate hgenerate
  constructor
  · intro hdescribes
    rw [← hnumbers]
    exact hdescribes.numbers world _ rfl rfl
  · intro hplanned
    obtain ⟨ports, hports, htext⟩ := h.localConf
    obtain ⟨value, hvalue, hhas⟩ := hasPorts_of_localConfText hports htext
    refine ⟨⟨world, rfl, h.generates⟩, ⟨ports, value, hports, congrArg some hvalue, hhas⟩,
      ⟨_, rfl, rfl⟩, ?_⟩
    intro world' row hworld hrow
    cases hworld
    cases hrow
    exact hnumbers.trans hplanned

/-- Where the planet and `local.conf` have been replaced, the upsert decides. -/
theorem installs_upsert {config : WorldConfig} {world text : Bytes}
    (h : Prepared host config s world text) (hplanet : t.files .planet = some world)
    (hlocalConf : t.files .localConf = some text) (hrow : t.planetRow = s.planetRow)
    (hoptions : t.globalOptions = s.globalOptions) :
    Installs host config s (exec (handle host) (perform (.upsert config)) t) ↔
      UpsertSpares host config s world text := by
  have hstores : t.stores = ⟨some world, some text, s.planetRow⟩ := by
    unfold Site.stores
    rw [hplanet, hlocalConf, hrow]
  have hsame : t.stores = s.stores ↔ s.files .planet = some world ∧
    s.files .localConf = some text := by
    rw [hstores, Site.stores, Stores.mk.injEq, and_iff_left rfl]
    exact and_congr eq_comm eq_comm
  have hcommitted : ∀ options, ({ t with
      planetRow := some (upserted config s.planetRow), globalOptions := options } : Site).stores =
      ⟨some world, some text, some (upserted config s.planetRow)⟩ := by
    intro options
    unfold Site.stores
    rw [← hplanet, ← hlocalConf]
  have hexec : exec (handle host) (perform (.upsert config)) t = handle host (.upsert config) t :=
    exec_call _
  unfold Installs UpsertSpares
  simp only [hexec, handle, hrow, hoptions]
  cases hopt : s.globalOptions with
  | false =>
    simp only [if_true, true_or, AllOrNothing, hsame]
    simp
  | true =>
    cases hfails : host.fails (.upsert config) with
    | false =>
      simp only [Bool.true_eq_false, Bool.false_eq_true, if_false, or_self,
        AllOrNothing, hcommitted]
      exact h.describes_iff s.planetRow
    | true =>
      simp only [Bool.true_eq_false, if_false, if_true, or_true, AllOrNothing]
      cases hcommit : host.committed with
      | false =>
        simp only [Bool.false_eq_true, if_false, hsame]
        simp
      | true =>
        simp only [if_true, hcommitted]
        rw [Site.stores, Stores.mk.injEq]
        simp only [eq_comm, forall_const]

theorem Prepared.unique {config : WorldConfig} {world world' text text' : Bytes}
    (h : Prepared host config s world text) (h' : Prepared host config s world' text') :
    world' = world ∧ text' = text := by
  obtain ⟨name, hworld⟩ := h.generates
  obtain ⟨name', hworld'⟩ := h'.generates
  obtain ⟨ports, hports, htext⟩ := h.localConf
  obtain ⟨ports', hports', htext'⟩ := h'.localConf
  obtain rfl := Except.ok.inj (hports.symm.trans hports')
  exact ⟨(Prod.mk.inj (Except.ok.inj (hworld'.symm.trans hworld))).2,
    Except.ok.inj (htext'.symm.trans htext)⟩

/-- The stores are as before while `local.conf` is read, and behind that `rest` decides. -/
theorem installs_updateLocalConf {config : WorldConfig} {ports : List Nat} {world : Bytes}
    {rest : Program Unit} {Spares : Bytes → Bytes → Prop} (hports : portsOf config = .ok ports)
    (hgenerates : Generates host config world) (hstores : t.stores = s.stores)
    (hrest : ∀ u text, Prepared host config s world text → u.files .localConf = some text →
      u.dirs = t.dirs →
      Site.Off (fun path => path = .localConf ∨ path = .temporary .localConf) t u →
      (Installs host config s (exec (handle host) rest u) ↔ Spares world text)) :
    Installs host config s (exec (handle host) (do
        updateLocalConf host.json ports
        rest) t) ↔
      ∀ world text, Prepared host config s world text → Spares world text := by
  have hcontent : t.files .localConf = s.files .localConf := congrArg Stores.localConf hstores
  have hupdate := ends_updateLocalConf (s := t) host ports
  rw [hcontent] at hupdate
  refine (Ends.allOrNothing_iff (v := s.stores)
    (L := ∀ world text, Prepared host config s world text → Spares world text)
    (hupdate.mono_error fun u hu => ?_) ?_).trans ?_
  · exact (hu.stores (by simp) (by simp)).trans hstores
  · rintro - u ⟨text, htext, hreplaces⟩ ⟨text', htext', hfile, hdirs, hoff⟩
    obtain rfl := Except.ok.inj (htext.symm.trans htext')
    have hprepared : Prepared host config s world text :=
      ⟨hgenerates, ⟨ports, hports, htext⟩, hreplaces⟩
    refine (hrest u text hprepared hfile hdirs hoff).trans ⟨fun hspares world' text' h' => ?_,
      fun hall => hall world text hprepared⟩
    obtain ⟨rfl, rfl⟩ := hprepared.unique h'
    exact hspares
  · rw [and_iff_left fun _ => rfl]
    refine ⟨fun hif world text hprepared => hif ?_ world text hprepared, fun hall _ => hall⟩
    obtain ⟨ports', hports', htext⟩ := hprepared.localConf
    obtain rfl := Except.ok.inj (hports.symm.trans hports')
    exact ⟨text, htext, hprepared.replaces⟩

/-- `makeWorld` copies the planet file in place. -/
def CopySpares (host : Host) (config : WorldConfig) (s : Site) (world text : Bytes) : Prop :=
  if host.fails (.copyFile (.file .mkworld .planetCustom) .planet) = true then
    host.remains .planet = s.files .planet ∧ s.files .localConf = some text
  else UpsertSpares host config s world text

theorem installs_copy {config : WorldConfig} {world text : Bytes}
    (h : Prepared host config s world text)
    (hsource : t.files (.file .mkworld .planetCustom) = some world)
    (hlocalConf : t.files .localConf = some text) (hrow : t.planetRow = s.planetRow)
    (hoptions : t.globalOptions = s.globalOptions) :
    Installs host config s (exec (handle host) (do
        perform (.copyFile (.file .mkworld .planetCustom) .planet)
        perform (.upsert config)) t) ↔
      CopySpares host config s world text := by
  have hne : Path.localConf ≠ Path.planet := by decide
  refine (Ends.allOrNothing_iff (v := ⟨host.remains .planet, some text, s.planetRow⟩)
    (L := UpsertSpares host config s world text)
    ((ends_copyFile .planet hsource).mono_error ?_) ?_).trans ?_
  · rintro u rfl
    unfold Site.stores
    rw [put_files_self, put_files_of_ne hne, hlocalConf]
    exact congrArg _ hrow
  · rintro - u - rfl
    refine installs_upsert h (put_files_self _ _ _) ?_ hrow hoptions
    rw [put_files_of_ne hne, hlocalConf]
  · unfold CopySpares
    cases hfails : host.fails (.copyFile (.file .mkworld .planetCustom) .planet) with
    | true =>
      simp only [Bool.true_eq_false, false_imp_iff, not_false_eq_true, true_imp_iff, true_and,
        if_true]
      rw [Site.stores, Stores.mk.injEq, and_iff_left rfl]
      exact and_congr Iff.rfl eq_comm
    | false => simp

/-- What a run of `makeWorld` needs to be all or nothing: it stops before it has replaced
`local.conf`, or what it comes to behind that is spared. -/
def MakeWorldSpared (host : Host) (config : WorldConfig) (s : Site) : Prop :=
  GeneratesPlanet host config s → ∀ world text, Prepared host config s world text →
    CopySpares host config s world text

theorem installs_makeWorld (input : MakeWorldInput) :
    Installs host input.config s (exec (handle host) (makeWorld host input) s) ↔
      MakeWorldSpared host input.config s := by
  have hendpoints : input.rootNodes.flatMap InputNode.endpoints =
      input.config.rootNodes.flatMap RootNode.endpoints := by
    simp [MakeWorldInput.config, List.flatMap_map]
  have hplanet : ¬WorkFile .planet := by
    rintro (heq | ⟨name, heq⟩) <;> cases heq
  have hlocalConf : ¬WorkFile .localConf := by
    rintro (heq | ⟨name, heq⟩) <;> cases heq
  unfold makeWorld MakeWorldSpared
  refine (Ends.allOrNothing_iff (v := s.stores) (L := ∀ world text,
    Prepared host input.config s world text → CopySpares host input.config s world text)
    ((ends_generatePlanet input.config).mono_error fun t ht =>
      ht.stores hplanet hlocalConf) ?_).trans
    (and_iff_left fun _ => rfl)
  rintro - t - ⟨world, hgenerates, hsource, hoff⟩
  have hstores := hoff.stores hplanet hlocalConf
  rw [hendpoints]
  cases hports : extractEndpointPorts (input.config.rootNodes.flatMap RootNode.endpoints) with
  | error e =>
    refine iff_of_true hstores ?_
    rintro world text ⟨-, ⟨ports, hports', -⟩, -⟩
    cases hports.symm.trans hports'
  | ok ports =>
    refine installs_updateLocalConf hports hgenerates hstores fun u text hprepared hfile _ hoff' =>
      ?_
    refine installs_copy hprepared ?_ hfile (hoff'.planetRow.trans hoff.planetRow)
      (hoff'.globalOptions.trans hoff.globalOptions)
    rw [hoff'.files _ (by simp), hsource]

/-! ## 11. The upload -/

/-- The files of the staging directory. -/
def Staged (path : Path) : Prop := ∃ name, path = .file .staging name

/-- The generated planet has a size that is accepted. -/
def SizeAccepted (host : Host) (config : WorldConfig) : Prop :=
  ∀ world, Generates host config world →
    ¬(world.length = 0 ∨ maxGeneratedPlanetBytes < world.length)

/-- The upload handler gets as far as a planet of its own. -/
structure StagesPlanet (host : Host) (extractedFiles : ExtractedFiles) (config : WorldConfig) :
    Prop where
  directory : host.fails (.mkdir .staging) = false
  files : ∀ entry ∈ extractedFiles, host.fails (.writeFile (.file .staging entry.1) entry.2) = false
  written : host.fails (.writeFile (.file .staging .mkworldConfig)
    (host.json.stringify 0 (configValue config))) = false
  generates : ∃ world, Generates host config world
  run : host.fails (.ztmkworld .staging config) = false
  stat : host.fails (.fileSize (.file .staging .planetCustom)) = false
  size : SizeAccepted host config

theorem put_isSome {path path' : Path} {content : Bytes} (h : (s.files path').isSome = true) :
    ((s.put path (some content)).files path').isSome = true := by
  by_cases heq : path' = path
  · rw [heq, put_files_self]
    rfl
  · rw [put_files_of_ne heq]
    exact h

/-- The files of the archive are written next to each other. -/
theorem ends_stageFiles : ∀ (extractedFiles : ExtractedFiles) (s : Site),
    Ends (handle host)
      (each extractedFiles fun entry => perform (.writeFile (.file .staging entry.1) entry.2)) s
      (∀ entry ∈ extractedFiles, host.fails (.writeFile (.file .staging entry.1) entry.2) = false)
      (fun _ t => Site.Off Staged s t ∧ t.dirs = s.dirs ∧
        (∀ path, (s.files path).isSome = true → (t.files path).isSome = true) ∧
        ∀ entry ∈ extractedFiles, (t.files (.file .staging entry.1)).isSome = true)
      fun t => Site.Off Staged s t
  | [], s => Ends.congr (ends_pure ⟨.refl _ _, rfl, fun _ h => h, by simp⟩) (by simp)
  | entry :: extractedFiles, s => by
    have hstaged : Staged (.file .staging entry.1) := ⟨_, rfl⟩
    refine Ends.congr (C := host.fails (.writeFile (.file .staging entry.1) entry.2) = false ∧
      ∀ entry ∈ extractedFiles, host.fails (.writeFile (.file .staging entry.1) entry.2) = false)
      (Ends.bind ((ends_writeFile _ _).mono_error ?_) ?_) (by rw [List.forall_mem_cons])
    · rintro t rfl
      exact .put hstaged _ _
    · rintro - t - rfl
      have hfirst := Site.Off.put hstaged s (some entry.2)
      refine ((ends_stageFiles extractedFiles _).mono_ok ?_).mono_error fun u hu => hfirst.trans hu
      rintro - u ⟨hoff, hdirs, hkeep, hall⟩
      refine ⟨hfirst.trans hoff, hdirs, fun path hpath => hkeep path (put_isSome hpath),
        List.forall_mem_cons.mpr ⟨hkeep _ ?_, hall⟩⟩
      rw [put_files_self]
      rfl

theorem Generates.unique {config : WorldConfig} {world world' : Bytes}
    (h : Generates host config world) (h' : Generates host config world') : world' = world := by
  obtain ⟨name, heq⟩ := h
  obtain ⟨name', heq'⟩ := h'
  exact (Prod.mk.inj (Except.ok.inj (heq'.symm.trans heq))).2

/-- The planet is looked at. -/
theorem ends_checkPlanet {config : WorldConfig} {world : Bytes}
    (hgenerates : Generates host config world)
    (hplanet : s.files (.file .staging .planetCustom) = some world) :
    Ends (handle host) (do
        let size ← perform (.fileSize (.file .staging .planetCustom))
        if size = 0 ∨ maxGeneratedPlanetBytes < size then
          throw (.message (js "ztmkworld did not produce a valid planet file"))) s
      (host.fails (.fileSize (.file .staging .planetCustom)) = false ∧ SizeAccepted host config)
      (fun _ t => t = s) fun t => t = s := by
  refine (ends_fileSize hplanet).bind ?_
  rintro size t - ⟨rfl, rfl⟩
  refine Ends.congr (C := ¬(world.length = 0 ∨ maxGeneratedPlanetBytes < world.length) ∧ True)
    (.guard (fun _ => ends_pure rfl) fun _ => rfl) ?_
  rw [and_true]
  constructor
  · intro hsize world' hgenerates'
    rwa [hgenerates.unique hgenerates']
  · exact fun haccepted => haccepted world hgenerates

/-- What is in the staging directory in the end. -/
theorem ends_stagePlanet (extractedFiles : ExtractedFiles) (config : WorldConfig) :
    Ends (handle host) (stagePlanet host.json extractedFiles config) s
      (StagesPlanet host extractedFiles config)
      (fun _ t => ∃ world, Generates host config world ∧
        t.files (.file .staging .planetCustom) = some world ∧
        (∀ entry ∈ extractedFiles, (t.files (.file .staging entry.1)).isSome = true) ∧
        t.dirs .backup = s.dirs .backup ∧ Site.Off Staged s t)
      fun t => Site.Off Staged s t := by
  have hstaged : ∀ name, Staged (.file .staging name) := fun name => ⟨name, rfl⟩
  unfold stagePlanet
  refine Ends.congr (C := host.fails (.mkdir .staging) = false ∧
    (∀ entry ∈ extractedFiles, host.fails (.writeFile (.file .staging entry.1) entry.2) = false) ∧
    host.fails (.writeFile (.file .staging .mkworldConfig)
      (host.json.stringify 0 (configValue config))) = false ∧
    ((∃ world, Generates host config world) ∧ host.fails (.ztmkworld .staging config) = false) ∧
    host.fails (.fileSize (.file .staging .planetCustom)) = false ∧ SizeAccepted host config)
    ?_ ?_
  · refine ((ends_mkdir .staging).mono_error ?_).bind ?_
    · rintro t rfl
      exact .refl _ _
    rintro - t - rfl
    have hoff := Site.Off.dirs Staged s (Function.update s.dirs .staging true)
    refine ((ends_stageFiles extractedFiles _).mono_error fun u hu => hoff.trans hu).bind ?_
    rintro - u - ⟨hoff', hdirs, -, hall⟩
    replace hoff := hoff.trans hoff'
    refine ((ends_writeFile _ _).mono_error ?_).bind ?_
    · rintro v rfl
      exact hoff.trans (.put (hstaged _) _ _)
    rintro - v - rfl
    replace hoff := hoff.trans (.put (hstaged .mkworldConfig) u
      (some (host.json.stringify 0 (configValue config))))
    refine (((ends_ztmkworld .staging config).rethrow _).mono_error ?_).bind ?_
    · exact fun w hw => hoff.trans (hw.mono fun _ heq => heq ▸ hstaged _)
    rintro - w - ⟨world, hgenerates, rfl⟩
    replace hoff := hoff.trans (.put (hstaged .planetCustom) _ (some world))
    refine ((ends_checkPlanet hgenerates (put_files_self _ _ _)).mono_ok ?_).mono_error ?_
    · rintro - w rfl
      refine ⟨world, hgenerates, put_files_self _ _ _, fun entry hentry =>
        put_isSome (put_isSome (hall entry hentry)), ?_, hoff⟩
      rw [put_dirs, put_dirs, hdirs]
      simp
    · rintro w rfl
      exact hoff
  · constructor
    · rintro ⟨hdir, hfiles, hwritten, ⟨hgenerates, hrun⟩, hstat, hsize⟩
      exact ⟨hdir, hfiles, hwritten, hgenerates, hrun, hstat, hsize⟩
    · intro h
      exact ⟨h.directory, h.files, h.written, ⟨h.generates, h.run⟩, h.stat, h.size⟩

/-- Nothing fails while a file is copied atomically. -/
def Copies (host : Host) (source destination : Path) : Prop :=
  host.fails (.copyFile source (.temporary destination)) = false ∧
    host.fails (.rename (.temporary destination) destination) = false

/-- Nothing fails between `local.conf` and the upsert. -/
structure InstallsFiles (host : Host) (extractedFiles : ExtractedFiles) (s : Site) : Prop where
  directory : host.fails (.mkdir .mkworld) = false
  backup : BacksUp host (s.files .planet) (s.dirs .backup)
  files : ∀ entry ∈ extractedFiles, Copies host (.file .staging entry.1) (.file .mkworld entry.1)
  planet : Copies host (.file .staging .planetCustom) .planet

/-- The paths of neither the stores nor the staging directory. -/
def Elsewhere (path : Path) : Prop := path ≠ .planet ∧ path ≠ .localConf ∧ ¬Staged path

theorem elsewhere_temporary (path : Path) : Elsewhere (.temporary path) := by
  refine ⟨nofun, nofun, ?_⟩
  rintro ⟨name, heq⟩
  cases heq

theorem elsewhere_file (name : FileName) : Elsewhere (.file .mkworld name) := by
  refine ⟨nofun, nofun, ?_⟩
  rintro ⟨name', heq⟩
  cases heq

theorem elsewhere_backup : Elsewhere .backup := by
  refine ⟨nofun, nofun, ?_⟩
  rintro ⟨name, heq⟩
  cases heq

theorem Site.Off.staged (h : Site.Off Elsewhere s t) (name : FileName) :
    t.files (.file .staging name) = s.files (.file .staging name) :=
  h.files _ fun helsewhere => helsewhere.2.2 ⟨name, rfl⟩

theorem ends_copyFileAtomically {source : Path} (destination : Path) {content : Bytes}
    (hsource : s.files source = some content) :
    Ends (handle host) (copyFileAtomically source destination) s (Copies host source destination)
      (fun _ t => t.files destination = some content ∧ t.dirs = s.dirs ∧
        Site.Off (fun path => path = destination ∨ path = .temporary destination) s t)
      fun t => Site.Off (· = .temporary destination) s t :=
  ends_replace (ends_copyFile _ hsource)

/-- The archive's files are copied one after the other. -/
theorem ends_copyFiles {extractedFiles : ExtractedFiles}
    (hstaged : ∀ entry ∈ extractedFiles, (s.files (.file .staging entry.1)).isSome = true) :
    Ends (handle host) (each extractedFiles fun entry =>
        copyFileAtomically (.file .staging entry.1) (.file .mkworld entry.1)) s
      (∀ entry ∈ extractedFiles, Copies host (.file .staging entry.1) (.file .mkworld entry.1))
      (fun _ t => Site.Off Elsewhere s t) fun t => Site.Off Elsewhere s t := by
  refine Ends.each (I := fun t => Site.Off Elsewhere s t) (fun entry hentry t ht => ?_) (.refl _ _)
  obtain ⟨content, hcontent⟩ := Option.isSome_iff_exists.mp (hstaged entry hentry)
  rw [← ht.staged] at hcontent
  refine ((ends_copyFileAtomically _ hcontent).mono_ok ?_).mono_error ?_
  · rintro - u ⟨-, -, hoff⟩
    refine ht.trans (hoff.mono ?_)
    rintro path (rfl | rfl)
    · exact elsewhere_file _
    · exact elsewhere_temporary _
  · exact fun u hoff => ht.trans (hoff.mono fun path heq => heq ▸ elsewhere_temporary _)

theorem ends_installFiles {extractedFiles : ExtractedFiles} {world : Bytes}
    (hstaged : ∀ entry ∈ extractedFiles, (s.files (.file .staging entry.1)).isSome = true)
    (hplanet : s.files (.file .staging .planetCustom) = some world) :
    Ends (handle host) (installFiles extractedFiles) s (InstallsFiles host extractedFiles s)
      (fun _ t => t.files .planet = some world ∧
        Site.Off (fun path => path = .planet ∨ Elsewhere path) s t)
      fun t => Site.Off Elsewhere s t := by
  unfold installFiles
  refine Ends.congr (C := host.fails (.mkdir .mkworld) = false ∧
    BacksUp host (s.files .planet) (s.dirs .backup) ∧
    (∀ entry ∈ extractedFiles,
      Copies host (.file .staging entry.1) (.file .mkworld entry.1)) ∧
    Copies host (.file .staging .planetCustom) .planet) ?_ ?_
  · refine ((ends_mkdir .mkworld).mono_error ?_).bind ?_
    · rintro t rfl
      exact .refl _ _
    rintro - t - rfl
    have hoff := Site.Off.dirs Elsewhere s (Function.update s.dirs .mkworld true)
    have hbackup : Function.update s.dirs .mkworld true .backup = s.dirs .backup := by simp
    rw [← hbackup]
    refine (ends_backupPlanet.mono_error fun u hu =>
      hoff.trans (hu.mono fun path heq => heq ▸ elsewhere_backup)).bind ?_
    rintro - u - hu
    replace hoff := hoff.trans (hu.mono (Q := Elsewhere) fun path heq => heq ▸ elsewhere_backup)
    have hstaged' : ∀ entry ∈ extractedFiles, (u.files (.file .staging entry.1)).isSome = true := by
      intro entry hentry
      rw [hoff.staged]
      exact hstaged entry hentry
    refine ((ends_copyFiles hstaged').mono_error fun v hv => hoff.trans hv).bind ?_
    rintro - v - hv
    replace hoff := hoff.trans hv
    refine ((ends_copyFileAtomically .planet ((hoff.staged _).trans hplanet)).mono_ok ?_).mono_error
      fun w hw => hoff.trans (hw.mono fun path heq => heq ▸ elsewhere_temporary _)
    rintro - w ⟨hfile, -, hw⟩
    refine ⟨hfile, (hoff.mono fun _ => .inr).trans (hw.mono ?_)⟩
    rintro path (rfl | rfl)
    · exact .inl rfl
    · exact .inr (elsewhere_temporary _)
  · constructor
    · rintro ⟨hdir, hbackup, hfiles, hplanet⟩
      exact ⟨hdir, hbackup, hfiles, hplanet⟩
    · intro h
      exact ⟨h.directory, h.backup, h.files, h.planet⟩

/-- The upload replaces every file atomically, but `local.conf` before the others. -/
def UploadSpares (host : Host) (extractedFiles : ExtractedFiles) (config : WorldConfig) (s : Site)
    (world text : Bytes) : Prop :=
  (InstallsFiles host extractedFiles s → UpsertSpares host config s world text) ∧
    (¬InstallsFiles host extractedFiles s → s.files .localConf = some text)

theorem installs_files {extractedFiles : ExtractedFiles} {config : WorldConfig} {world text : Bytes}
    (h : Prepared host config s world text)
    (hstaged : ∀ entry ∈ extractedFiles, (t.files (.file .staging entry.1)).isSome = true)
    (hsource : t.files (.file .staging .planetCustom) = some world)
    (hplanet : t.files .planet = s.files .planet) (hbackup : t.dirs .backup = s.dirs .backup)
    (hlocalConf : t.files .localConf = some text) (hrow : t.planetRow = s.planetRow)
    (hoptions : t.globalOptions = s.globalOptions) :
    Installs host config s (exec (handle host) (do
        installFiles extractedFiles
        perform (.upsert config)) t) ↔
      UploadSpares host extractedFiles config s world text := by
  have hinstalls : InstallsFiles host extractedFiles t ↔ InstallsFiles host extractedFiles s := by
    constructor
    · rintro ⟨hdir, hback, hfiles, hcopy⟩
      rw [hplanet, hbackup] at hback
      exact ⟨hdir, hback, hfiles, hcopy⟩
    · rintro ⟨hdir, hback, hfiles, hcopy⟩
      rw [← hplanet, ← hbackup] at hback
      exact ⟨hdir, hback, hfiles, hcopy⟩
  refine (Ends.allOrNothing_iff (v := ⟨s.files .planet, some text, s.planetRow⟩)
    (L := UpsertSpares host config s world text)
    (((ends_installFiles hstaged hsource).congr hinstalls).mono_error fun u hu => ?_) ?_).trans ?_
  · rw [hu.stores (fun helsewhere => helsewhere.1 rfl) (fun helsewhere => helsewhere.2.1 rfl),
      Site.stores, hplanet, hlocalConf, hrow]
  · rintro - u - ⟨hfile, hoff⟩
    refine installs_upsert h hfile ?_ (hoff.planetRow.trans hrow)
      (hoff.globalOptions.trans hoptions)
    rw [hoff.files, hlocalConf]
    rintro (heq | helsewhere)
    · cases heq
    · exact helsewhere.2.1 rfl
  · refine and_congr Iff.rfl (imp_congr Iff.rfl ?_)
    rw [Site.stores, Stores.mk.injEq]
    exact ⟨fun heq => heq.2.1.symm, fun heq => ⟨rfl, heq.symm, rfl⟩⟩

/-- What an upload needs to be all or nothing. -/
def UploadSpared (host : Host) (extractedFiles : ExtractedFiles) (config : WorldConfig) (s : Site) :
    Prop :=
  StagesPlanet host extractedFiles config → ∀ world text, Prepared host config s world text →
    UploadSpares host extractedFiles config s world text

theorem stores_after_rmStaging (host : Host) (s : Site) :
    (after (handle host) (perform .rmStaging) s).stores = s.stores := by
  unfold after
  rw [show exec (handle host) (perform .rmStaging) s = handle host .rmStaging s from exec_call _]
  simp only [handle, unlessFails]
  split
  · rfl
  · rfl

theorem uploadedConfig_ports {json : Json} {extractedFiles : ExtractedFiles} {config : WorldConfig}
    {ports : List Nat} (h : uploadedConfig json extractedFiles = .ok (config, ports)) :
    portsOf config = .ok ports := by
  unfold uploadedConfig at h
  split at h
  · cases h
  · split at h
    · cases h
    · exact ports_of_parseWorldConfig (mapError_ok_iff.mp h)

theorem installs_stagePlanet {extractedFiles : ExtractedFiles} {config : WorldConfig}
    {ports : List Nat} (hports : portsOf config = .ok ports) :
    Installs host config s (exec (handle host) (do
        stagePlanet host.json extractedFiles config
        updateLocalConf host.json ports
        installFiles extractedFiles
        perform (.upsert config)) s) ↔
      UploadSpared host extractedFiles config s := by
  have hplanet : ¬Staged .planet := by
    rintro ⟨name, heq⟩
    cases heq
  have hlocalConf : ¬Staged .localConf := by
    rintro ⟨name, heq⟩
    cases heq
  unfold UploadSpared
  refine (Ends.allOrNothing_iff (v := s.stores) (L := ∀ world text,
    Prepared host config s world text → UploadSpares host extractedFiles config s world text)
    ((ends_stagePlanet extractedFiles config).mono_error fun t ht => ht.stores hplanet hlocalConf)
    ?_).trans (and_iff_left fun _ => rfl)
  rintro - t - ⟨world, hgenerates, hsource, hstaged, hbackup, hoff⟩
  refine installs_updateLocalConf hports hgenerates (hoff.stores hplanet hlocalConf)
    fun u text hprepared hfile hdirs hoff' => ?_
  refine installs_files hprepared (fun entry hentry => ?_) ?_ ?_ ?_ hfile
    (hoff'.planetRow.trans hoff.planetRow) (hoff'.globalOptions.trans hoff.globalOptions)
  · rw [hoff'.files _ (by simp)]
    exact hstaged entry hentry
  · rw [hoff'.files _ (by simp), hsource]
  · rw [hoff'.files _ (by simp), hoff.files _ hplanet]
  · rw [hdirs, hbackup]

/-! ## 12. The requests -/

inductive Request where
  | makeWorld (input : MakeWorldInput)
  | upload (archive : Except Failure (List Entry))

def Request.run (host : Host) : Request → Program Unit
  | .makeWorld input => PlanetInstall.makeWorld host input
  | .upload archive => PlanetInstall.upload host archive

/-- The planet that a request asks for. -/
def Request.Asks (json : Json) : Request → WorldConfig → Prop
  | .makeWorld input, config => config = input.config
  | .upload archive, config => ∃ extractedFiles ports, (archive >>= extract) = .ok extractedFiles ∧
      uploadedConfig json extractedFiles = .ok (config, ports)

theorem Request.Asks.unique {json : Json} {request : Request} {config config' : WorldConfig}
    (h : request.Asks json config) (h' : request.Asks json config') : config' = config := by
  cases request with
  | makeWorld input => exact Eq.trans h' (Eq.symm h)
  | upload archive =>
    obtain ⟨extractedFiles, ports, hfiles, hconfig⟩ := h
    obtain ⟨extractedFiles', ports', hfiles', hconfig'⟩ := h'
    obtain rfl := Except.ok.inj (hfiles.symm.trans hfiles')
    exact (Prod.mk.inj (Except.ok.inj (hconfig'.symm.trans hconfig))).1

/-- **All or nothing**: where the request reports an error the planet file, `local.conf` and the row
are all as before; where it does not, all three describe the new planet. -/
def Request.IsAllOrNothing (host : Host) (request : Request) (s : Site) : Prop :=
  AllOrNothing Site.stores s.stores
    (fun stores => ∃ config, request.Asks host.json config ∧ Describes host config stores)
    (exec (handle host) (request.run host) s)

theorem Request.Asks.isAllOrNothing_iff {request : Request} {config : WorldConfig}
    (h : request.Asks host.json config) :
    request.IsAllOrNothing host s ↔
      Installs host config s (exec (handle host) (request.run host) s) := by
  refine allOrNothing_congr fun stores => ?_
  constructor
  · rintro ⟨config', hasks, hdescribes⟩
    rwa [← h.unique hasks]
  · exact fun hdescribes => ⟨config, h, hdescribes⟩

/-- A request that is spared stops before it has replaced `local.conf`, or no failure behind that
shows. -/
def Request.Spared (host : Host) : Request → Site → Prop
  | .makeWorld input, s => MakeWorldSpared host input.config s
  | .upload archive, s =>
    ∀ extractedFiles config ports, (archive >>= extract) = .ok extractedFiles →
      uploadedConfig host.json extractedFiles = .ok (config, ports) →
      UploadSpared host extractedFiles config s

theorem isAllOrNothing_upload (archive : Except Failure (List Entry)) :
    (Request.upload archive).IsAllOrNothing host s ↔ (Request.upload archive).Spared host s := by
  cases hfiles : archive >>= extract with
  | error e =>
    refine iff_of_true ?_ ?_
    · unfold Request.IsAllOrNothing
      change AllOrNothing _ _ _ (exec (handle host) (upload host archive) s)
      unfold upload
      rw [allOrNothing_withCleanup (stores_after_rmStaging host), allOrNothing_rethrow, hfiles]
      rfl
    · intro extractedFiles config ports hfiles'
      cases hfiles.symm.trans hfiles'
  | ok extractedFiles =>
    cases hconfig : uploadedConfig host.json extractedFiles with
    | error e =>
      refine iff_of_true ?_ ?_
      · unfold Request.IsAllOrNothing
        change AllOrNothing _ _ _ (exec (handle host) (upload host archive) s)
        unfold upload
        rw [allOrNothing_withCleanup (stores_after_rmStaging host), allOrNothing_rethrow, hfiles]
        change AllOrNothing _ _ _ (exec _
          (Prog.ofExcept (uploadedConfig host.json extractedFiles) >>= _) _)
        rw [hconfig]
        rfl
      · intro extractedFiles' config ports hfiles' hconfig'
        obtain rfl := Except.ok.inj (hfiles.symm.trans hfiles')
        cases hconfig.symm.trans hconfig'
    | ok found =>
      obtain ⟨config, ports⟩ := found
      have hasks : (Request.upload archive).Asks host.json config :=
        ⟨extractedFiles, ports, hfiles, hconfig⟩
      rw [hasks.isAllOrNothing_iff]
      change Installs host config s (exec (handle host) (upload host archive) s) ↔ _
      unfold Installs upload
      rw [allOrNothing_withCleanup (stores_after_rmStaging host), allOrNothing_rethrow, hfiles]
      change AllOrNothing _ _ _ (exec _
        (Prog.ofExcept (uploadedConfig host.json extractedFiles) >>= _) _) ↔ _
      rw [hconfig]
      refine (installs_stagePlanet (uploadedConfig_ports hconfig)).trans ?_
      constructor
      · intro hspared extractedFiles' config' ports' hfiles' hconfig'
        obtain rfl := Except.ok.inj (hfiles.symm.trans hfiles')
        obtain ⟨rfl, rfl⟩ := Prod.mk.inj (Except.ok.inj (hconfig.symm.trans hconfig'))
        exact hspared
      · exact fun hspared => hspared extractedFiles config ports hfiles hconfig

/-- **When an installation is all or nothing.** -/
theorem install_allOrNothing_iff (host : Host) (request : Request) (s : Site) :
    request.IsAllOrNothing host s ↔ request.Spared host s := by
  cases request with
  | makeWorld input =>
    have hasks : (Request.makeWorld input).Asks host.json input.config := rfl
    rw [hasks.isAllOrNothing_iff]
    exact installs_makeWorld input
  | upload archive => exact isAllOrNothing_upload archive

/-! ## 13. Examples -/

theorem not_isAllOrNothing_of_error {request : Request}
    (herror : (exec (handle host) (request.run host) s).1 ≠ .ok ())
    (hstores : (exec (handle host) (request.run host) s).2.stores ≠ s.stores) :
    ¬request.IsAllOrNothing host s := by
  unfold Request.IsAllOrNothing
  obtain ⟨r, t, heq⟩ : ∃ r t, exec (handle host) (request.run host) s = (r, t) := ⟨_, _, rfl⟩
  rw [heq] at herror hstores ⊢
  cases r with
  | ok u => exact absurd rfl herror
  | error e => exact hstores

theorem not_isAllOrNothing_of_numbers {request : Request} {row : PlanetRow} {numbers : Nat × Nat}
    (hok : (exec (handle host) (request.run host) s).1 = .ok ())
    (hplanet : (exec (handle host) (request.run host) s).2.stores.planet.map worldNumbers =
      some numbers)
    (hrow : (exec (handle host) (request.run host) s).2.stores.planetRow = some row)
    (hne : numbers ≠ (row.plID, row.plBirth)) : ¬request.IsAllOrNothing host s := by
  unfold Request.IsAllOrNothing
  obtain ⟨r, t, heq⟩ : ∃ r t, exec (handle host) (request.run host) s = (r, t) := ⟨_, _, rfl⟩
  rw [heq] at hok hplanet hrow ⊢
  obtain rfl : r = .ok () := hok
  obtain ⟨world, hworld, rfl⟩ := Option.map_eq_some_iff.mp hplanet
  rintro ⟨config, -, hdescribes⟩
  exact hne (hdescribes.numbers world row hworld hrow)

/-- One root, and recommended numbers. -/
def plainMakeWorld : Request :=
  .makeWorld ⟨none, true, none, [⟨js rootIdentity, [js "195.181.173.159/443"], none⟩]⟩

/-- A `mkworld.config.json` with the same root. -/
def plainText : Bytes :=
  utf8 (js ("\x7b\"rootNodes\":[\x7b\"identity\":\"" ++ rootIdentity ++
    "\",\"endpoints\":[\"195.181.173.159/443\"]\x7d]\x7d"))

def plainUpload : Request :=
  .upload (.ok [⟨false, js "mkworld.config.json", none, [plainText], none⟩])

/-- `JSON` on the texts and the values of the two. -/
def plainJson : Json where
  parse text :=
    if text = plainText then some (worldOf [(rootIdentity, ["195.181.173.159/443"])]) else none
  stringify indentation _ :=
    if indentation = 0 then
      utf8 (js ("\x7b\"rootNodes\":[\x7b\"comments\":\"ztnet.network\",\"identity\":\"" ++
        rootIdentity ++ "\",\"endpoints\":[\"195.181.173.159/443\"]\x7d]," ++
        "\"signing\":[\"previous.c25519\",\"current.c25519\"],\"output\":\"planet.custom\"," ++
        "\"plID\":0,\"plBirth\":0,\"plRecommend\":true\x7d"))
    else utf8 (js "\x7b\n  \"settings\": \x7b\n    \"primaryPort\": 443\n  \x7d\n\x7d")

def plainHost (fails : Act → Bool) : Host where
  json := plainJson
  inDocker := true
  ztFolder := js "/var/lib/zerotier-one"
  generator := generatorHost
  fails := fails
  remains _ := none
  committed := false

def failsUpsert : Act → Bool
  | .upsert _ => true
  | _ => false

/-- A controller with the planet that came with it. -/
def plainSite : Site where
  files
    | .planet | .identityPublic | .ztmkworld => some [1]
    | _ => none
  dirs _ := true
  planetRow := some ⟨0, 0, false, []⟩
  globalOptions := true

/-- What a request leaves of the plain site. -/
def left (fails : Act → Bool) (request : Request) : Stores :=
  (exec (handle (plainHost fails)) (request.run (plainHost fails)) plainSite).2.stores

/-- **Half installed.**  An upsert that fails leaves the new planet file and the new `local.conf`
beside the old row; and where nothing fails, the row does not have the numbers that were
recommended. -/
theorem planet_half_installed :
    (∀ request ∈ [plainMakeWorld, plainUpload],
      ¬request.IsAllOrNothing (plainHost failsUpsert) plainSite ∧
      (left failsUpsert request).planet ≠ plainSite.stores.planet ∧
      (left failsUpsert request).localConf ≠ plainSite.stores.localConf ∧
      (left failsUpsert request).planetRow = plainSite.stores.planetRow) ∧
    ¬plainMakeWorld.IsAllOrNothing (plainHost fun _ => false) plainSite := by
  constructor
  · have hruns : ∀ request ∈ [plainMakeWorld, plainUpload],
        (exec (handle (plainHost failsUpsert)) (request.run (plainHost failsUpsert)) plainSite).1 ≠
          .ok () ∧
        (left failsUpsert request).planet ≠ plainSite.stores.planet ∧
        (left failsUpsert request).localConf ≠ plainSite.stores.localConf ∧
        (left failsUpsert request).planetRow = plainSite.stores.planetRow := by
      unfold left plainMakeWorld plainUpload plainHost plainJson plainText worldOf
      simp only [List.map_cons, List.map_nil, js_append, js_rootIdentity]
      decide +kernel
    intro request hrequest
    obtain ⟨herror, hleft⟩ := hruns request hrequest
    exact ⟨not_isAllOrNothing_of_error herror fun heq =>
      hleft.1 (congrArg Stores.planet heq), hleft⟩
  · have hruns : (exec (handle (plainHost fun _ => false))
          (plainMakeWorld.run (plainHost fun _ => false)) plainSite).1 = .ok () ∧
        (left (fun _ => false) plainMakeWorld).planet.map worldNumbers = some (7, 1767225600000) ∧
        (left (fun _ => false) plainMakeWorld).planetRow =
          some
            ⟨0, 0, false, [⟨js "ztnet.network", js rootIdentity, [js "195.181.173.159/443"]⟩]⟩ := by
      unfold left plainMakeWorld plainHost plainJson plainText worldOf
      simp only [List.map_cons, List.map_nil, js_append, js_rootIdentity]
      decide +kernel
    obtain ⟨hok, hnumbers, hrow⟩ := hruns
    exact not_isAllOrNothing_of_numbers hok hnumbers hrow (by decide)

end ZtPlanet.Ztnet.PlanetInstall
