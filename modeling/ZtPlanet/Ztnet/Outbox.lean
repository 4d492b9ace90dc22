/-
# The notification outbox

`enqueueNotification` stores a delivery together with the fingerprint of the destination that is
configured at that time, and `drainNotifications` sends what is pending: it claims a delivery,
compares its fingerprint with that of the options that it has read, sends, and stores the outcome.
A claim that has stayed open for two minutes is swept to `unknown`, from where an administrator may
retry it.

Several workers, sweeps and retries take turns.  Each of them is a program counter whose constructor
names the next statement; an event says which of them moves and whether its statement works.  A
statement that raises has changed nothing.  A process that dies is one that does not move any more.

The history in the state is what the properties are about: the fingerprint that each delivery was
enqueued with, the requests that went out, and the retries that were accepted.  The number of an
attempt is history as well: a worker carries it along, and no step depends on it.
-/
import Mathlib.Data.List.Sort
import ZtPlanet.Lib.Dict
import ZtPlanet.Lib.Machine
import ZtPlanet.Lib.Pool

namespace ZtPlanet.Ztnet.Outbox

open ZtPlanet.Lib

/-! ## 1. The tables -/

/-- A random UUID. -/
abbrev DeliveryId : Type := Nat
abbrev EventKey : Type := String
abbrev Fingerprint : Type := Nat

/-- What a request goes to. -/
structure Destination where
  messagePusherUrl : Option String
  messagePusherUsername : Option String
  messagePusherChannel : Option String
deriving DecidableEq

/-- `GlobalOptions`. -/
structure GlobalOptions where
  messagePusherEnabled : Bool
  destination : Destination
deriving DecidableEq

inductive Status where
  | pending
  | sending
  | sent
  | unknown
  | failed
  | cancelled
deriving DecidableEq

/-- `NotificationDelivery`. -/
structure Delivery where
  eventKey : EventKey
  destinationFingerprint : Fingerprint
  status : Status
  attempts : Nat
  createdAt : Nat
  updatedAt : Nat
deriving DecidableEq

/-- A delivery as a worker has read it. -/
structure Job where
  id : DeliveryId
  destinationFingerprint : Fingerprint
deriving DecidableEq

/-- The digest is not modelled. -/
structure Host where
  /-- `destinationFingerprint` -/
  destinationFingerprint : Destination → Fingerprint

/-! ## 2. The tasks -/

/-- Where a worker, a retry or an enqueueing is: the statement named by the constructor is the next
one. -/
inductive Task where
  /-- `drainNotifications`: cancel what is pending for more than a day -/
  | expiring
  /-- read the options -/
  | readingOptions
  /-- sweep what is claimed for more than two minutes -/
  | sweeping (options : Option GlobalOptions)
  /-- read the oldest ten that are pending -/
  | listing (options : GlobalOptions)
  /-- claim a job -/
  | claiming (options : GlobalOptions) (job : Job) (jobs : List Job)
  /-- the destination has changed: cancel the job -/
  | cancelling (options : GlobalOptions) (job : Job) (attempt : Nat) (jobs : List Job)
  /-- `sendMessagePusher` -/
  | sending (options : GlobalOptions) (job : Job) (attempt : Nat) (jobs : List Job)
  /-- store that the job is sent -/
  | confirming (options : GlobalOptions) (job : Job) (attempt : Nat) (jobs : List Job)
  /-- something was thrown: store that the outcome is unknown -/
  | failing (options : GlobalOptions) (job : Job) (attempt : Nat) (jobs : List Job)
  /-- delete what is older than thirty days -/
  | purging
  /-- `retry`: read the options -/
  | retryReading (id : DeliveryId)
  /-- make the delivery pending -/
  | retryWriting (id : DeliveryId) (options : GlobalOptions)
  /-- `enqueueNotification`: read the options -/
  | enqueueReading (id : DeliveryId) (eventKey : EventKey)
  /-- store the delivery -/
  | enqueueWriting (id : DeliveryId) (eventKey : EventKey) (options : GlobalOptions)
  | done
deriving DecidableEq

structure State where
  /-- `Date.now()` -/
  now : Nat
  /-- the row of `globalOptions` -/
  options : Option GlobalOptions
  deliveries : Dict DeliveryId Delivery
  tasks : List Task
  enqueued : Dict DeliveryId Fingerprint
  sends : List (DeliveryId × Destination)
  retried : List DeliveryId

/-- Before the first delivery. -/
def State.start (options : Option GlobalOptions) : State :=
  ⟨0, options, Dict.empty, [], Dict.empty, [], []⟩

/-- Task `i` moves on to `t`. -/
def State.goto (s : State) (i : Nat) (t : Task) : State := { s with tasks := s.tasks.set i t }

/-- `updateMany`; it sets `updatedAt` as well. -/
def State.updateMany (s : State) (selected : DeliveryId → Delivery → Bool)
    (data : Delivery → Delivery) : State :=
  { s with
    deliveries := s.deliveries.map fun id d =>
      if selected id d then { data d with updatedAt := s.now } else d }

/-- An update of one status. -/
def State.setStatus (s : State) (id : DeliveryId) (status : Status) : State :=
  s.updateMany (fun id' _ => id' == id) fun d => { d with status := status }

/-- `where: { status: "pending", createdAt: { lt: Date.now() - 86400000 } }`. -/
def expired (now : Nat) (d : Delivery) : Bool :=
  d.status = .pending && d.createdAt + 86400000 < now

/-- `where: { status: "sending", updatedAt: { lt: Date.now() - 120000 } }`. -/
def stale (now : Nat) (d : Delivery) : Bool :=
  d.status = .sending && d.updatedAt + 120000 < now

/-- `where: { createdAt: …, status: { notIn: ["pending", "sending"] } }`. -/
def retained (now : Nat) (d : Delivery) : Bool :=
  !(d.createdAt + 2592000000 < now && d.status ≠ .pending && d.status ≠ .sending)

/-- `findMany` of the oldest ten that are pending. -/
def pendingJobs (deliveries : Dict DeliveryId Delivery) : List Job :=
  (((deliveries.entries.filter fun e => e.2.status = .pending).insertionSort
    fun e e' => e.2.createdAt ≤ e'.2.createdAt).take 10).map fun e =>
      ⟨e.1, e.2.destinationFingerprint⟩

/-- The loop of a worker. -/
def nextJob (options : GlobalOptions) : List Job → Task
  | [] => .purging
  | job :: jobs => .claiming options job jobs

/-- The channel is enabled. -/
def enabled (options : Option GlobalOptions) : Option GlobalOptions :=
  options.filter GlobalOptions.messagePusherEnabled

/-! ## 3. Steps -/

/-- What happens to a statement, or to a request. -/
inductive Outcome where
  | works
  /-- it raises; a request has gone out -/
  | raises
  /-- it raises before a request goes out; no template is enabled for an event -/
  | refuses
deriving DecidableEq

/-- The statement of task `i` works. -/
def advance (host : Host) (s : State) (i : Nat) : Task → Option State
  | .expiring =>
    some ((s.updateMany (fun _ d => expired s.now d) fun d => { d with status := .cancelled }).goto
      i .readingOptions)
  | .readingOptions => some (s.goto i (.sweeping s.options))
  | .sweeping options =>
    some ((s.updateMany (fun _ d => stale s.now d) fun d => { d with status := .unknown }).goto i
      (match enabled options with
        | some options => .listing options
        | none => .done))
  | .listing options => some (s.goto i (nextJob options (pendingJobs s.deliveries)))
  | .claiming options job jobs =>
    match s.deliveries.get? job.id with
    | some d =>
      if d.status = .pending then
        let attempt := d.attempts + 1
        some ((s.updateMany (fun id d => id == job.id && d.status = .pending)
          fun d => { d with status := .sending, attempts := d.attempts + 1 }).goto i
          (if job.destinationFingerprint ≠ host.destinationFingerprint options.destination then
            .cancelling options job attempt jobs
          else .sending options job attempt jobs))
      else some (s.goto i (nextJob options jobs))
    | none => some (s.goto i (nextJob options jobs))
  | .cancelling options job _ jobs =>
    if s.deliveries.contains job.id then
      some ((s.setStatus job.id .cancelled).goto i (nextJob options jobs))
    else some (s.goto i .done)
  | .sending options job attempt jobs =>
    some ({ s with sends := s.sends ++ [(job.id, options.destination)] }.goto i
      (.confirming options job attempt jobs))
  | .confirming options job attempt jobs =>
    if s.deliveries.contains job.id then
      some ((s.setStatus job.id .sent).goto i (nextJob options jobs))
    else some (s.goto i (.failing options job attempt jobs))
  | .failing options job _ jobs =>
    if s.deliveries.contains job.id then
      some ((s.setStatus job.id .unknown).goto i (nextJob options jobs))
    else some (s.goto i .done)
  | .purging =>
    some ({ s with deliveries := s.deliveries.filter fun _ d => retained s.now d }.goto i .done)
  | .retryReading id =>
    some (s.goto i (match enabled s.options with
      | some options => .retryWriting id options
      | none => .done))
  | .retryWriting id options =>
    match s.deliveries.get? id with
    | some d =>
      if (d.status = .unknown ∨ d.status = .failed) ∧
          d.destinationFingerprint = host.destinationFingerprint options.destination then
        some ({ s.setStatus id .pending with retried := s.retried ++ [id] }.goto i .done)
      else some (s.goto i .done)
    | none => some (s.goto i .done)
  | .enqueueReading id eventKey =>
    some (s.goto i (match enabled s.options with
      | some options => .enqueueWriting id eventKey options
      | none => .done))
  | .enqueueWriting id eventKey options =>
    -- no identifier is drawn twice
    if s.enqueued.contains id then none
    else if s.deliveries.entries.any fun e => e.2.eventKey == eventKey then some (s.goto i .done)
    else
      let fingerprint := host.destinationFingerprint options.destination
      some ({ s with
        deliveries := s.deliveries.set id ⟨eventKey, fingerprint, .pending, 0, s.now, s.now⟩
        enqueued := s.enqueued.set id fingerprint }.goto i .done)
  | .done => none

/-- The statement of task `i` raises. -/
def abort (s : State) (i : Nat) (refused : Bool) : Task → Option State
  | .sending options job attempt jobs =>
    some ((if refused then s
      else { s with sends := s.sends ++ [(job.id, options.destination)] }).goto i
      (.failing options job attempt jobs))
  | .confirming options job attempt jobs => some (s.goto i (.failing options job attempt jobs))
  | .done => none
  | _ => some (s.goto i .done)

inductive Event where
  /-- time passes -/
  | tick (ms : Nat)
  /-- an administrator changes the options -/
  | setOptions (options : Option GlobalOptions)
  /-- a worker wakes up -/
  | drain
  | retry (id : DeliveryId)
  | enqueue (id : DeliveryId) (eventKey : EventKey)
  /-- a task moves -/
  | step (i : Nat) (outcome : Outcome)
deriving DecidableEq

def step (host : Host) (s : State) : Event → Option State
  | .tick ms => some { s with now := s.now + ms }
  | .setOptions options => some { s with options := options }
  | .drain => some { s with tasks := s.tasks ++ [.expiring] }
  | .retry id => some { s with tasks := s.tasks ++ [.retryReading id] }
  | .enqueue id eventKey => some { s with tasks := s.tasks ++ [.enqueueReading id eventKey] }
  | .step i outcome =>
    match s.tasks[i]? with
    | none => none
    | some t =>
      match outcome with
      | .works => advance host s i t
      | .raises => abort s i false t
      | .refuses => abort s i true t

/-- The outbox as a machine. -/
def machine (host : Host) : Machine State Event := ⟨step host⟩

end ZtPlanet.Ztnet.Outbox
