/-
# One relay connection: the request loop and the response thread

After the greeting `handle_client` runs two threads on one table of response credits: the
request loop of `relay_requests` sends the client's payloads out and adds credit to their
destinations, the response thread takes replies in, checks and spends the credit of their source,
and writes them back to the client.  They share the table, the `running` flag and, with every
other connection of the relay, the global rate window.

Each thread is a program counter whose constructor names the next atomic step; a step is one
access to something shared (one critical section of the table, one call of the global window)
together with the thread-local work up to the next one.  What the sockets and the clock do is
carried by the event.  Two fields are history only: `udpOut` lists the datagrams sent and
`tcpOut` the replies written, each with its payload.
-/
import ZtPlanet.Lib.Dict
import ZtPlanet.Lib.Machine
import ZtPlanet.Relay.Frame

namespace ZtPlanet.Relay.Connection

open ZtPlanet.Lib

/-! ## 1. State -/

abbrev Payload := List UInt8

/-- `MAX_RESPONSE_CREDIT`. -/
def maxResponseCredit : Nat := 16 * 1024

/-- The size of the response thread's receive buffer. -/
def packetBuffer : Nat := 4096

/-- The counters of `Metrics` that a connection touches, as far as this connection moved them. -/
structure Metrics where
  rejectedProtocol : Nat
  rejectedDestination : Nat
  rejectedRate : Nat
  rejectedUdpSource : Nat
  rejectedAmplification : Nat
  packetsToUdp : Nat
  packetsToTcp : Nat
  bytesToUdp : Nat
  bytesToTcp : Nat
deriving DecidableEq

/-- The request loop; the step named is the next one. -/
inductive Request where
  /-- load `running` -/
  | polling
  /-- read a record -/
  | reading
  /-- look whether the destination is known -/
  | looking (destination : SocketAddr) (payload : Payload)
  /-- it is new: compare the number of destinations with the limit -/
  | bounding (destination : SocketAddr) (payload : Payload)
  /-- charge the connection's own rate window -/
  | charging (destination : SocketAddr) (payload : Payload)
  /-- charge the global rate window -/
  | sharing (destination : SocketAddr) (payload : Payload) (localAllowed : Bool)
  /-- send and add the credit, under the table's lock -/
  | sending (destination : SocketAddr) (payload : Payload)
  /-- the loop is over: clear `running` -/
  | ending
  | stopped
deriving DecidableEq

/-- The response thread; the step named is the next one. -/
inductive Response where
  /-- load `running` -/
  | polling
  /-- `recv_from` -/
  | receiving
  /-- check and spend the credit, under the table's lock -/
  | received (source : SocketAddr) (payload : Payload)
  /-- charge the thread's own rate window -/
  | charging (source : SocketAddr) (payload : Payload)
  /-- charge the global rate window -/
  | sharing (source : SocketAddr) (payload : Payload) (localAllowed : Bool)
  /-- `write_frame` -/
  | writing (source : SocketAddr) (payload : Payload)
  /-- the loop is over: clear `running` -/
  | ending
  | stopped
deriving DecidableEq

structure Conn where
  running : Bool
  destinations : Dict SocketAddr Nat
  localRate : RateWindow
  responseRate : RateWindow
  globalRate : RateWindow
  request : Request
  response : Response
  metrics : Metrics
  udpOut : List (SocketAddr × Payload)
  tcpOut : List (SocketAddr × Payload)
deriving DecidableEq

/-- A connection whose two threads are about to start, at the instant `now`. -/
def Conn.start (now : Nat) (globalRate : RateWindow) : Conn where
  running := true
  destinations := Dict.empty
  localRate := .default now
  responseRate := .default now
  globalRate := globalRate
  request := .polling
  response := .polling
  metrics := ⟨0, 0, 0, 0, 0, 0, 0, 0, 0⟩
  udpOut := []
  tcpOut := []

/-! ## 2. The request loop -/

/-- What the sockets and the clock do at the next step of the request loop. -/
inductive RequestEvent where
  /-- a step that depends on nothing outside -/
  | next
  /-- a record arrives: its header and, if the header is accepted, its frame -/
  | record (header frame : List UInt8)
  /-- reading fails or times out -/
  | readFailed
  /-- a rate window reads the clock -/
  | clock (t : Readings)
  /-- `send_to` returns -/
  | sent (ok : Bool)
deriving DecidableEq

/-- `(payload.len() as u64).saturating_mul(4).max(512)`. -/
def additionalCredit (length : Nat) : Nat := max (satMul length 4) 512

/-- `credit.saturating_add(additional).min(MAX_RESPONSE_CREDIT)`. -/
def addCredit (credit length : Nat) : Nat :=
  min (satAdd credit (additionalCredit length)) maxResponseCredit

/-- The critical section after a successful `send_to`. -/
def creditSend (destinations : Dict SocketAddr Nat) (destination : SocketAddr) (length : Nat) :
    Dict SocketAddr Nat :=
  destinations.set destination (addCredit ((destinations.get? destination).getD 0) length)

/-- What the loop does with a record that was read. -/
def onRecord (cfg : Config) (s : Conn) (header frame : List UInt8) : Option Conn :=
  let refuse := { s with
    metrics.rejectedProtocol := wrapAdd s.metrics.rejectedProtocol 1, request := .ending }
  match header with
  | [a, b, c, hi, lo] =>
    let frameLen := u16FromBeBytes hi lo
    if [a, b, c] ≠ [0x17, 0x03, 0x03] then some refuse
    else if ¬ (addressHeaderLen + 16 ≤ frameLen ∧ frameLen ≤ cfg.maxFrameLen) then some refuse
    else if frame.length ≠ frameLen then none
    else
      match parseClientFrame frame cfg.minDestinationPort with
      | .ok (destination, payload) => some { s with request := .looking destination payload }
      | .error (.protocol _) => some refuse
      | .error .destination =>
        some { s with
          metrics.rejectedDestination := wrapAdd s.metrics.rejectedDestination 1
          request := .polling }
  | _ => none

/-- One step of `relay_requests`; `none` where the event does not fit the step. -/
def stepRequest (cfg : Config) (s : Conn) (e : RequestEvent) : Option Conn :=
  match s.request, e with
  | .polling, .next => some { s with request := if s.running then .reading else .ending }
  | .reading, .record header frame => onRecord cfg s header frame
  | .reading, .readFailed => some { s with request := .ending }
  | .looking destination payload, .next =>
    if s.destinations.contains destination then
      some { s with request := .charging destination payload }
    else some { s with request := .bounding destination payload }
  | .bounding destination payload, .next =>
    if s.destinations.size ≥ cfg.maxDestinations then
      some { s with
        metrics.rejectedDestination := wrapAdd s.metrics.rejectedDestination 1
        request := .polling }
    else some { s with request := .charging destination payload }
  | .charging destination payload, .clock t =>
    let (allowed, window) :=
      s.localRate.allow t payload.length cfg.packetsPerSecond cfg.bytesPerSecond
    some { s with localRate := window, request := .sharing destination payload allowed }
  | .sharing destination payload localAllowed, .clock t =>
    let (globalAllowed, window) :=
      s.globalRate.allow t payload.length cfg.globalPacketsPerSecond cfg.globalBytesPerSecond
    if !localAllowed || !globalAllowed then
      some { s with
        globalRate := window
        metrics.rejectedRate := wrapAdd s.metrics.rejectedRate 1
        request := .polling }
    else some { s with globalRate := window, request := .sending destination payload }
  | .sending destination payload, .sent ok =>
    if ok then
      some { s with
        destinations := creditSend s.destinations destination payload.length
        metrics.packetsToUdp := wrapAdd s.metrics.packetsToUdp 1
        metrics.bytesToUdp := wrapAdd s.metrics.bytesToUdp payload.length
        udpOut := s.udpOut ++ [(destination, payload)]
        request := .polling }
    else some { s with request := .ending }
  | .ending, .next => some { s with running := false, request := .stopped }
  | _, _ => none

/-! ## 3. The response thread -/

/-- What the sockets and the clock do at the next step of the response thread. -/
inductive ResponseEvent where
  /-- a step that depends on nothing outside -/
  | next
  /-- a datagram arrives; what does not fit the buffer is cut off -/
  | datagram (source : SocketAddr) (payload : Payload)
  /-- `recv_from` times out -/
  | timedOut
  /-- `recv_from` fails -/
  | recvFailed
  /-- a rate window reads the clock -/
  | clock (t : Readings)
  /-- `write_frame` returns; a failed write may have written the first bytes of the payload -/
  | written (failedAfter : Option Nat)
deriving DecidableEq

/-- The payload bytes that `write_frame` put on the stream, and whether it succeeded. -/
def writePayload (source : SocketAddr) (payload : Payload) (failedAfter : Option Nat) :
    Payload × Bool :=
  match writeFrame source payload with
  | .error _ => ([], false)
  | .ok none => ([], true)
  | .ok (some (_, payload)) =>
    match failedAfter with
    | none => (payload, true)
    | some k => (payload.take k, false)

/-- One step of the response thread; `none` where the event does not fit the step. -/
def stepResponse (cfg : Config) (s : Conn) (e : ResponseEvent) : Option Conn :=
  match s.response, e with
  | .polling, .next => some { s with response := if s.running then .receiving else .ending }
  | .receiving, .datagram source payload =>
    some { s with response := .received source (payload.take packetBuffer) }
  | .receiving, .timedOut => some { s with response := .polling }
  | .receiving, .recvFailed => some { s with response := .ending }
  | .received source payload, .next =>
    match s.destinations.get? source with
    | none =>
      some { s with
        metrics.rejectedUdpSource := wrapAdd s.metrics.rejectedUdpSource 1
        response := .polling }
    | some credit =>
      if payload.length > credit then
        some { s with
          metrics.rejectedAmplification := wrapAdd s.metrics.rejectedAmplification 1
          response := .polling }
      else
        some { s with
          destinations := s.destinations.set source (credit - payload.length)
          response := .charging source payload }
  | .charging source payload, .clock t =>
    let (allowed, window) :=
      s.responseRate.allow t payload.length cfg.packetsPerSecond cfg.bytesPerSecond
    some { s with responseRate := window, response := .sharing source payload allowed }
  | .sharing source payload localAllowed, .clock t =>
    let (globalAllowed, window) :=
      s.globalRate.allow t payload.length cfg.globalPacketsPerSecond cfg.globalBytesPerSecond
    if !localAllowed || !globalAllowed then
      some { s with
        globalRate := window
        metrics.rejectedRate := wrapAdd s.metrics.rejectedRate 1
        response := .polling }
    else some { s with globalRate := window, response := .writing source payload }
  | .writing source payload, .written failedAfter =>
    let (bytes, ok) := writePayload source payload failedAfter
    let s := { s with tcpOut := s.tcpOut ++ [(source, bytes)] }
    if ok then
      some { s with
        metrics.packetsToTcp := wrapAdd s.metrics.packetsToTcp 1
        metrics.bytesToTcp := wrapAdd s.metrics.bytesToTcp payload.length
        response := .polling }
    else some { s with response := .ending }
  | .ending, .next => some { s with running := false, response := .stopped }
  | _, _ => none

/-! ## 4. Interleavings -/

inductive Event where
  | request (e : RequestEvent)
  | response (e : ResponseEvent)
  /-- another connection charges the global window -/
  | elsewhere (t : Readings) (bytes : Nat)
deriving DecidableEq

def step (cfg : Config) (s : Conn) (e : Event) : Option Conn :=
  match e with
  | .request e => stepRequest cfg s e
  | .response e => stepResponse cfg s e
  | .elsewhere t bytes =>
    some { s with globalRate :=
      (s.globalRate.allow t bytes cfg.globalPacketsPerSecond cfg.globalBytesPerSecond).2 }

/-- The two threads of a connection as a machine. -/
def machine (cfg : Config) : Machine Conn Event := ⟨step cfg⟩

end ZtPlanet.Relay.Connection
