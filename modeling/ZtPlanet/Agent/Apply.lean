/-
# `apply` and `rollback`

The two calls that change the configuration, with what they are made of: `render`, which writes
the generated files, and `apply_runtime`, which restarts the services.  Both calls publish first
and restore what was there before if a step raises; what they do not restore is the subject of
other modules.

The agent as a whole is a machine whose events are calls that run to their end, as the lock has it,
and restarts of the process, which forget the idempotency table.
-/
import Mathlib.Data.List.Lex
import Mathlib.Data.List.Sort
import Mathlib.Order.Fin.Basic
import ZtPlanet.Agent.State
import ZtPlanet.Lib.Machine

namespace ZtPlanet.Agent

open ZtPlanet.Lib ZtPlanet.Python

/-- A function of the agent. -/
abbrev AgentM (α : Type) : Type := Prog Act Act.Ans PyError α

/-- One operation. -/
abbrev perform (act : Act) : AgentM act.Ans := Prog.call act

/-! ## 1. `render` -/

/-- The files whose digests are in the manifest. -/
def digestedFiles : List GeneratedFile :=
  [.stackEnv, .localConf, .clientLocalConf, .caddyfile, .composeOverride]

/-- The loop that fills the manifest. -/
def digests (phase : Phase) : List GeneratedFile → AgentM (List (GeneratedFile × PyStr))
  | [] => pure []
  | file :: files => do
    let digest ← perform (.sha256File phase file)
    let rest ← digests phase files
    return (file, digest) :: rest

/-- `render`. -/
def render (phase : Phase) (config : Config) : AgentM Unit := do
  let env ← Prog.ofExcept (stackEnv config)
  perform (.writeGenerated phase .stackEnv (.text env))
  let settings := localSettings config
  perform (.writeGenerated phase .localConf (.localConf settings))
  perform (.writeGenerated phase .clientLocalConf (.clientLocalConf (clientSettings settings)))
  let caddyfile ← Prog.ofExcept (renderCaddy config)
  perform (.writeGenerated phase .caddyfile (.text caddyfile))
  perform (.makeGatewayReadable phase)
  perform (.writeGenerated phase .composeOverride (.text (renderComposeOverride config)))
  let manifest ← digests phase digestedFiles
  perform (.writeGenerated phase .manifest (.manifest manifest))

/-! ## 2. `apply_runtime` -/

/-- `changed_services`, sorted as it is returned. -/
def changedServices (old new : Config) : List Service :=
  let management := decide (old.management ≠ new.management)
  let zerotier := decide (old.zerotier ≠ new.zerotier ∨ old.relayClient ≠ new.relayClient)
  let controller := decide (old.controller ≠ new.controller)
  let relay := decide (old.relayServer ≠ new.relayServer)
  (if management || controller then [.gateway] else []) ++ (if relay then [.relay] else []) ++
  (if zerotier || controller then [.zerotier] else []) ++
  (if management || zerotier || controller then [.ztnet] else [])

/-- `subprocess.run(…, check=True)`. -/
def runChecked (phase : Phase) (command : Command) : AgentM Unit := do
  let completed ← perform (.run phase command)
  if completed.returncode = 0 then pure () else throw .subprocessError

/-- `subprocess.run(…, check=False)` with the result unused. -/
def runUnchecked (phase : Phase) (command : Command) : AgentM Unit := do
  let _ ← perform (.run phase command)

/-- The firewall of the relay is installed before the relay runs, and removed when it is stopped. -/
def prepareRelay (phase : Phase) (enabled : Bool) : AgentM Unit :=
  if enabled then
    runChecked phase .firewallInstall
  else do
    runUnchecked phase .stopRelay
    runUnchecked phase .firewallRemove

/-- The records of `docker compose ps`: one JSON value, or one on each line that holds one. -/
def healthRecords (host : Host) (stdout : PyStr) : List Json :=
  match host.loads (if stdout = [] then py "[]" else stdout) with
  | some (.arr records) => records
  | some record => [record]
  | none => (splitlines stdout).filterMap host.loads

/-- `str(value)`. -/
def strOf (host : Host) : Json → PyStr
  | .str s => s
  | value => host.str value

/-- The service of a record, if the record is of a running container that is not unhealthy or
starting.  The two texts are compared in lower case, and no letter outside ASCII has a lower case
that occurs in what they are compared with. -/
def runningService (host : Host) (record : Json) : Except PyError (Option PyStr) :=
  match record with
  | .obj members =>
    let state := lower (strOf host (getOr members "State" (.str [])))
    let health := lower (strOf host (getOr members "Health" (.str [])))
    if state = py "running" ∧ health ≠ py "unhealthy" ∧ health ≠ py "starting" then
      .ok (some (strOf host (get members "Service")))
    else .ok none
  | _ => .error .attributeError

/-- `sorted(running)`. -/
def runningServices (host : Host) (records : List Json) : Except PyError (List PyStr) := do
  let services ← records.mapM (runningService host)
  return (services.filterMap id).dedup.insertionSort (· ≤ ·)

/-- The part of `apply_runtime` behind the selection: `up`, then the health check. -/
def recreate (host : Host) (phase : Phase) (selected : List Service) : AgentM Runtime := do
  let completed ← perform (.run phase (.up selected))
  if completed.returncode ≠ 0 then
    throw (.runtimeError (py "docker compose apply failed: " ++
      completed.stderr.drop (completed.stderr.length - 2000)))
  else do
    let health ← perform (.run phase .ps)
    let running ← Prog.ofExcept (runningServices host (healthRecords host health.stdout))
    let missing := (selected.map Service.text).filter fun name => !running.contains name
    if health.returncode ≠ 0 ∨ missing ≠ [] then
      throw (.runtimeError (py "services failed health check: " ++ join (py ", ") missing))
    else
      return .docker selected running

/-- `apply_runtime`. -/
def applyRuntime (host : Host) (phase : Phase) (services : List Service) (config : Config) :
    AgentM Runtime :=
  if host.applyDocker = false then
    return .renderOnly services
  else do
    prepareRelay phase config.relayServer.enabled
    let selected := services.filter fun s => s ≠ .relay || config.relayServer.enabled
    if selected = [] then
      return .docker [] []
    else
      recreate host phase selected

/-! ## 3. `apply` -/

/-- `re.fullmatch(r"[A-Za-z0-9_-]{16,128}", key)`. -/
def isIdempotencyKey (key : PyStr) : Bool :=
  decide (16 ≤ key.length ∧ key.length ≤ 128) &&
  key.all fun c => isAsciiAlnum c || c == ch '_' || c == ch '-'

/-- The members of a request and its idempotency key. -/
def requestKey (request : Json) : Except PyError (List (PyStr × Json) × PyStr) :=
  match request with
  | .obj members =>
    match get members "idempotencyKey" with
    | .str key =>
      if isIdempotencyKey key then .ok (members, key) else fail (py "idempotencyKey is required")
    | _ => fail (py "idempotencyKey is required")
  | _ => .error .attributeError

/-- The check of `expectedRevision`. -/
def checkRevision (expected : Json) (current : Nat) : Except PyError Unit :=
  if expected.eqInt current then .ok () else .error (.conflict expected current)

/-- Write an envelope to `config.json` and render it. -/
def install (phase : Phase) (envelope : Envelope) : AgentM Unit := do
  perform (.writeConfig phase envelope)
  render phase envelope.config

/-- Restart what differs between two configurations. -/
def restart (host : Host) (phase : Phase) (old new : Config) : AgentM Runtime :=
  applyRuntime host phase (changedServices old new) new

/-- The `try` block of `apply` and `rollback`. -/
def publish (host : Host) (current updated : Envelope) : AgentM Runtime := do
  install .forward updated
  restart host .forward current.config updated.config

/-- The `except` block of `apply`. -/
def recoverApply (host : Host) (current updated : Envelope) (actor : PyStr) (error : PyError) :
    AgentM Runtime := do
  install .recovery current
  tryCatch (do let _ ← restart host .recovery updated.config current.config) fun rollbackError =>
    perform (.audit (actor.take 128) (.rollbackFailed rollbackError))
  throw error

/-- The entries that `apply` makes when its configuration is in place. -/
def recordApply (actor key : PyStr) (services : List Service) (result : ApplyResult) :
    AgentM ApplyResult := do
  perform (.remember key result)
  perform (.audit (actor.take 128) (.apply result.updated.revision services result.warnings))
  return result

/-- The part of `apply` behind the checks: from the write of the history revision on. -/
def applyAdmitted (host : Host) (actor key : PyStr) (current : Envelope) (config : Config)
    (warnings : List PyStr) : AgentM ApplyResult := do
  perform (.writeHistory current)
  let now ← perform .utcNow
  let updated : Envelope := ⟨current.revision + 1, now, config⟩
  let runtime ← tryCatch (publish host current updated) (recoverApply host current updated actor)
  recordApply actor key (changedServices current.config config) ⟨updated, warnings, runtime⟩

/-- The part of `apply` behind the idempotency table. -/
def applyNew (host : Host) (members : List (PyStr × Json)) (actor key : PyStr) :
    AgentM ApplyResult := do
  let current ← perform .readConfig
  Prog.ofExcept (checkRevision (get members "expectedRevision") current.revision)
  let validated ← Prog.ofExcept (validateConfig host.nfkc (get members "config"))
  applyAdmitted host actor key current validated.1 validated.2

/-- `Agent.apply`. -/
def apply (host : Host) (request : Json) (actor : PyStr) : AgentM ApplyResult := do
  let (members, key) ← Prog.ofExcept (requestKey request)
  match ← perform (.remembered key) with
  | some result => return result
  | none => applyNew host members actor key

/-! ## 4. `rollback` -/

/-- `f"revision-{revision:08d}.json"`. -/
def historyName (revision : Nat) : PyStr :=
  let digits := decimal revision
  py "revision-" ++ List.replicate (8 - digits.length) (ch '0') ++ digits ++ py ".json"

/-- `sorted(…, reverse=True)[0]`: the revision whose file name is the greatest text. -/
def newest : List Nat → Option Nat
  | [] => none
  | n :: ns =>
    match newest ns with
    | none => some n
    | some m => if historyName n < historyName m then some m else some n

/-- The `except` block of `rollback`. -/
def recoverRollback (host : Host) (current target : Envelope) (error : PyError) :
    AgentM Runtime := do
  install .recovery current
  let _ ← restart host .recovery target.config current.config
  throw error

/-- The part of `rollback` behind the choice of the history file. -/
def rollbackTo (host : Host) (actor : PyStr) (revision : Nat) :
    AgentM (Envelope × Runtime) := do
  let stored ← perform (.readHistory revision)
  let current ← perform .readConfig
  let now ← perform .utcNow
  let target : Envelope := ⟨current.revision + 1, now, stored.config⟩
  let runtime ← tryCatch (publish host current target) (recoverRollback host current target)
  perform (.unlinkHistory revision)
  perform (.audit (actor.take 128) (.rollback target.revision))
  return (target, runtime)

/-- `Agent.rollback`. -/
def rollback (host : Host) (actor : PyStr) : AgentM (Envelope × Runtime) := do
  let revisions ← perform .globHistory
  match newest revisions with
  | none => throw (.validation (py "no previous revision is available"))
  | some revision => rollbackTo host actor revision

/-! ## 5. The agent -/

/-- The directory before `__init__` renders. -/
def blank (now : PyStr) : AgentState :=
  ⟨⟨1, now, defaultConfig⟩, Dict.empty, fun _ => none, [], Dict.empty⟩

/-- A call that meets no failure; it runs no command. -/
def calm (now : PyStr) : Plan := ⟨now, now, fun _ => .done, fun _ _ => .error .subprocessError⟩

/-- A directory that `__init__` has just made. -/
def initial (host : Host) (now : PyStr) : AgentState :=
  (Prog.exec (handle host (calm now)) (render .forward defaultConfig) (blank now)).2

/-- A call with what it meets, or a restart of the process. -/
inductive Event where
  | apply (request : Json) (actor : PyStr) (plan : Plan)
  | rollback (actor : PyStr) (plan : Plan)
  | restart

/-- The state behind an event. -/
def step (host : Host) (s : AgentState) : Event → Option AgentState
  | .apply request actor plan =>
    some (Prog.exec (handle host plan) (apply host request actor) s).2
  | .rollback actor plan => some (Prog.exec (handle host plan) (rollback host actor) s).2
  | .restart => some { s with idempotency := Dict.empty }

/-- The agent between calls. -/
def machine (host : Host) : Machine AgentState Event := ⟨step host⟩

/-- The recovery of the event, if it comes to one, succeeds. -/
def Event.RecoveryWorks : Event → Prop
  | .apply _ _ plan | .rollback _ plan => plan.RecoveryWorks
  | .restart => True

/-- A state that calls whose recoveries succeed can lead to. -/
def Reachable (host : Host) (s : AgentState) : Prop :=
  ∃ now events, (machine host).Conforms (fun _ e => e.RecoveryWorks) (initial host now) events ∧
    (machine host).run (initial host now) events = some s

/-! ## 6. A host for examples -/

/-- A host on which `docker compose ps` lists two running services. -/
def exampleHost : Host where
  applyDocker := true
  nfkc := id
  sha256 := fun _ => []
  loads := fun _ => some (.arr [
    object [("Service", .str (py "gateway")), ("State", .str (py "running"))],
    object [("Service", .str (py "ztnet")), ("State", .str (py "running"))]])
  str := fun _ => []

/-- The default configuration with shorter sessions. -/
def withSessions (seconds : Nat) : Config :=
  { defaultConfig with
    management := { defaultConfig.management with sessionMaxAgeSeconds := seconds } }

/-- A request to replace the first revision. -/
def exampleRequest (config : Config) : Json := object [
  ("idempotencyKey", .str (py "abcdefghijklmnop")),
  ("expectedRevision", .int 1),
  ("config", config.toJson)]

/-- `docker compose up` ends with this status for a new configuration; everything else works. -/
def examplePlan (status : Int) : Plan where
  updatedAt := []
  auditTime := []
  outcome := fun _ => .done
  completed := fun phase command =>
    match phase, command with
    | .forward, .up _ => .ok ⟨status, [], py "no such image"⟩
    | _, _ => .ok ⟨0, py "[\x7b\"Service\":\"gateway\",\"State\":\"running\"\x7d," ++
        py "\x7b\"Service\":\"ztnet\",\"State\":\"running\"\x7d]", []⟩

end ZtPlanet.Agent
