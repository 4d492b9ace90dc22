/-
# The agent's files and what can be done to them

`Agent` keeps everything in one directory: `config.json`, one file for each replaced configuration
under `history`, the six generated files and the audit log.  `AgentState` is that directory
together with the one table that the process keeps in memory.

`Act` lists the operations that `apply`, `rollback` and `render` perform on it.  Each may fail, and
a file operation may also fail after its effect (`atomic_write` still has to sync the directory
when the file is in place), so what happens to each operation of a call is part of the call: its
`Plan`.  An action of a call is performed at most once, so a plan is a function of the action; for
that reason the actions of a recovery carry a mark of their own.
-/
import ZtPlanet.Agent.Render
import ZtPlanet.Lib.Dict
import ZtPlanet.Lib.Prog

namespace ZtPlanet.Agent

open ZtPlanet.Lib ZtPlanet.Python

/-! ## 1. The files -/

/-- What `config.json` and the files under `history` hold. -/
structure Envelope where
  revision : Nat
  updatedAt : PyStr
  config : Config
deriving DecidableEq

/-- The generated files, `manifest.json` last as `render` writes it. -/
inductive GeneratedFile where
  | stackEnv
  | localConf
  | clientLocalConf
  | caddyfile
  | composeOverride
  | manifest
deriving DecidableEq

/-- What a generated file holds; a JSON file is kept as its value. -/
inductive Content where
  | text (s : PyStr)
  | localConf (s : LocalSettings)
  | clientLocalConf (s : ClientSettings)
  | manifest (digests : List (GeneratedFile × PyStr))
deriving DecidableEq

/-- The services of the compose project that a change can restart. -/
inductive Service where
  | gateway
  | relay
  | zerotier
  | ztnet
deriving DecidableEq

def Service.text : Service → PyStr
  | .gateway => py "gateway"
  | .relay => py "relay"
  | .zerotier => py "zerotier"
  | .ztnet => py "ztnet"

/-- What `apply_runtime` returns. -/
inductive Runtime where
  | renderOnly (services : List Service)
  | docker (services : List Service) (running : List PyStr)
deriving DecidableEq

/-- What a successful `apply` returns. -/
structure ApplyResult where
  updated : Envelope
  warnings : List PyStr
  runtime : Runtime
deriving DecidableEq

/-- The action and the details of an audit event. -/
inductive AuditDetails where
  | apply (revision : Nat) (services : List Service) (warnings : List PyStr)
  | rollback (revision : Nat)
  /-- `rollback-failed`, with the exception whose text is recorded -/
  | rollbackFailed (error : PyError)

structure AuditEvent where
  time : PyStr
  actor : PyStr
  details : AuditDetails

/-- The agent's directory, and `self.idempotency`. -/
structure AgentState where
  config : Envelope
  history : Dict Nat Envelope
  generated : GeneratedFile → Option Content
  audit : List AuditEvent
  idempotency : Dict PyStr ApplyResult

/-! ## 2. What can be written

Every file is written as UTF-8, and a text with a lone surrogate has no encoding. -/

/-- `s.encode()` does not raise. -/
def encodable (s : PyStr) : Bool := s.all fun c => !(0xd800 ≤ c.val && c.val ≤ 0xdfff)

/-- The texts of a configuration that are not fixed by the source. -/
def Config.texts (config : Config) : List PyStr :=
  [config.management.publicUrl, config.management.zeroTierInterface,
    config.management.zeroTierAddress, config.zerotier.bindAddress, config.controller.bindAddress,
    config.relayServer.bindAddress, config.relayClient.host] ++
  config.management.listeners.flatMap (fun l => l.address :: l.allowedCidrs) ++
  config.relayServer.allowedSourceCidrs

/-- Times and digests are ASCII and need no check. -/
def Envelope.encodable (e : Envelope) : Bool := e.config.texts.all Agent.encodable

def Content.encodable : Content → Bool
  | .text s => Agent.encodable s
  | .localConf s => (s.tcpFallbackRelay.map Agent.encodable).getD true
  | .clientLocalConf s => (s.tcpFallbackRelay.map Agent.encodable).getD true
  | .manifest _ => true

def PyError.encodable : PyError → Bool
  | .validation message | .runtimeError message => Agent.encodable message
  | _ => true

def AuditDetails.encodable : AuditDetails → Bool
  | .apply _ _ warnings => warnings.all Agent.encodable
  | .rollback _ => true
  | .rollbackFailed error => error.encodable

/-! ## 3. The operations -/

/-- Whether an operation belongs to the `try` block of a call or to its recovery. -/
inductive Phase where
  | forward
  | recovery
deriving DecidableEq

/-- The commands of `apply_runtime`. -/
inductive Command where
  /-- `relay-firewall.sh install` -/
  | firewallInstall
  /-- `relay-firewall.sh remove` -/
  | firewallRemove
  /-- `docker compose stop relay` -/
  | stopRelay
  /-- `docker compose up --force-recreate` -/
  | up (selected : List Service)
  /-- `docker compose ps --format json` -/
  | ps
deriving DecidableEq

/-- `subprocess.CompletedProcess`. -/
structure Completed where
  returncode : Int
  stdout : PyStr
  stderr : PyStr

/-- One operation. -/
inductive Act where
  /-- `self.idempotency.get(key)` -/
  | remembered (key : PyStr)
  /-- store a result under its key and drop the oldest beyond 256 -/
  | remember (key : PyStr) (result : ApplyResult)
  /-- `self.envelope()` -/
  | readConfig
  | writeConfig (phase : Phase) (envelope : Envelope)
  /-- the revisions that have a file under `history` -/
  | globHistory
  | readHistory (revision : Nat)
  /-- write an envelope to the file of its revision -/
  | writeHistory (envelope : Envelope)
  | unlinkHistory (revision : Nat)
  | writeGenerated (phase : Phase) (file : GeneratedFile) (content : Content)
  | makeGatewayReadable (phase : Phase)
  | sha256File (phase : Phase) (file : GeneratedFile)
  /-- `utc_now()`, for `updatedAt` -/
  | utcNow
  | run (phase : Phase) (command : Command)
  | audit (actor : PyStr) (details : AuditDetails)

/-- What an operation returns. -/
@[reducible] def Act.Ans : Act → Type
  | .remembered _ => Option ApplyResult
  | .readConfig => Envelope
  | .globHistory => List Nat
  | .readHistory _ => Envelope
  | .sha256File _ _ => PyStr
  | .utcNow => PyStr
  | .run _ _ => Completed
  | _ => Unit

/-- The operation belongs to a recovery. -/
def Act.recovers : Act → Bool
  | .writeConfig phase _ | .writeGenerated phase _ _ | .makeGatewayReadable phase
  | .sha256File phase _ | .run phase _ => phase == .recovery
  | _ => false

/-! ## 4. What the operations do -/

/-- What happens to an operation on a file. -/
inductive Outcome where
  | done
  /-- it raises and has changed nothing -/
  | failsBefore
  /-- it raises when its effect is on the disk -/
  | failsAfter
deriving DecidableEq

/-- What one call meets outside. -/
structure Plan where
  updatedAt : PyStr
  auditTime : PyStr
  outcome : Act → Outcome
  completed : Phase → Command → Except PyError Completed

/-- What does not change while the agent runs: its mode, and the library functions that are not
modelled. -/
structure Host where
  applyDocker : Bool
  nfkc : PyStr → PyStr
  sha256 : Content → PyStr
  /-- `json.loads`, `none` for a `JSONDecodeError` -/
  loads : PyStr → Option Json
  /-- `str(value)` for a value that is not a text -/
  str : Json → PyStr

/-- A write that takes the state to `t`. -/
def write (outcome : Outcome) (encodable : Bool) (s t : AgentState) :
    Except PyError Unit × AgentState :=
  if encodable = false then (.error .unicodeEncodeError, s)
  else
    match outcome with
    | .done => (.ok (), t)
    | .failsBefore => (.error .osError, s)
    | .failsAfter => (.error .osError, t)

/-- A read of `value`; a missing file raises. -/
def read {α : Type} (outcome : Outcome) (s : AgentState) (value : Option α) :
    Except PyError α × AgentState :=
  match outcome, value with
  | .done, some a => (.ok a, s)
  | _, _ => (.error .osError, s)

/-- Store a result and keep at most 256. -/
def remember (table : Dict PyStr ApplyResult) (key : PyStr) (result : ApplyResult) :
    Dict PyStr ApplyResult :=
  let table := table.set key result
  if table.size > 256 then table.popOldest else table

/-- What each operation does. -/
def handle (host : Host) (plan : Plan) : Prog.Handler Act Act.Ans PyError AgentState
  | .remembered key, s => (.ok (s.idempotency.get? key), s)
  | .remember key result, s => (.ok (), { s with idempotency := remember s.idempotency key result })
  | .readConfig, s => read (plan.outcome .readConfig) s (some s.config)
  | .writeConfig phase e, s =>
    write (plan.outcome (.writeConfig phase e)) e.encodable s { s with config := e }
  | .globHistory, s => read (plan.outcome .globHistory) s (some s.history.keys)
  | .readHistory n, s => read (plan.outcome (.readHistory n)) s (s.history.get? n)
  | .writeHistory e, s =>
    write (plan.outcome (.writeHistory e)) e.encodable s
      { s with history := s.history.set e.revision e }
  | .unlinkHistory n, s =>
    write (plan.outcome (.unlinkHistory n)) true s { s with history := s.history.erase n }
  | .writeGenerated phase file content, s =>
    write (plan.outcome (.writeGenerated phase file content)) content.encodable s
      { s with generated := Function.update s.generated file (some content) }
  | .makeGatewayReadable phase, s => write (plan.outcome (.makeGatewayReadable phase)) true s s
  | .sha256File phase file, s =>
    read (plan.outcome (.sha256File phase file)) s ((s.generated file).map host.sha256)
  | .utcNow, s => (.ok plan.updatedAt, s)
  | .run phase command, s => (plan.completed phase command, s)
  | .audit actor details, s =>
    write (plan.outcome (.audit actor details)) (encodable actor && details.encodable) s
      { s with audit := s.audit ++ [⟨plan.auditTime, actor, details⟩] }

/-- No operation of a recovery on a file fails. -/
def Plan.RecoveryWorks (plan : Plan) : Prop :=
  ∀ act, act.recovers = true → plan.outcome act = .done

end ZtPlanet.Agent
