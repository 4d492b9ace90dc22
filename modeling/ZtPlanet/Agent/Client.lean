/-
# `callAgent` and the request that reaches the agent

The web service signs every request to the configuration agent: `callAgent` computes the signature
over the method, the path, the time, a nonce, the sanitised actor and the body, and sends all of
them as an HTTP request.  The agent's handler reads them back from the request line, the headers and
the body; `Authorization` takes over from there.

The transport is what Node writes and what `http.server` reads: a request line of at most 65536
bytes, Latin-1 on both sides, and headers found by their names whatever the case.  The headers that
Node adds on its own have other names than those read here.
-/
import ZtPlanet.Agent.Authorization
import ZtPlanet.Js.Text

namespace ZtPlanet.Agent.Client

open ZtPlanet.Js ZtPlanet.Agent.Authorization

/-! ## 1. The secret -/

def isHexDigit (c : UInt8) : Bool :=
  isDigit c || (97 ≤ c && c ≤ 102) || (65 ≤ c && c ≤ 70)

/-- A text without the characters of a class at its ends. -/
def trimWith (isBlank : UInt8 → Bool) (text : Text) : Text :=
  ((text.dropWhile isBlank).reverse.dropWhile isBlank).reverse

/-- `secret()` of the client, for an ASCII file: `value.trim()` and `/^[a-f0-9]{64}$/i`. -/
def clientSecret (file : Text) : Except String Text :=
  let value := trimWith (fun c => (9 ≤ c && c ≤ 13) || c == 32) file
  if value.length = 64 ∧ value.all isHexDigit = true then .ok value
  else .error "The configuration agent secret is invalid"

/-- `Agent.secret`, for an ASCII file: `str.strip` drops four separators more. -/
def agentSecret (file : Text) : Text :=
  trimWith (fun c => (9 ≤ c && c ≤ 13) || (28 ≤ c && c ≤ 31) || c == 32) file

/-- The file as `Agent.__init__` creates it: `secrets.token_hex(32) + "\n"`. -/
def IsSecretFile (file : Text) : Prop :=
  ∃ token : Text, file = token ++ [10] ∧ token.length = 64 ∧ token.all isHexDigit = true

/-! ## 2. `callAgent` -/

/-- The type `Method`. -/
inductive Method where
  | get
  | post
deriving DecidableEq

def Method.text : Method → JsString
  | .get => js "GET"
  | .post => js "POST"

/-- A character of `[-a-z0-9/]`. -/
def isPathUnit (u : UInt16) : Bool :=
  (97 ≤ u && u ≤ 122) || (48 ≤ u && u ≤ 57) || u == 47 || u == 45

/-- The test of the path: `/v1/` and at least one such character. -/
def isEndpoint (path : JsString) : Bool :=
  path.take 4 == js "/v1/" && path.drop 4 != [] && (path.drop 4).all isPathUnit

/-- A character of `[a-zA-Z0-9@._:-]`. -/
def isActorUnit (u : UInt16) : Bool :=
  (97 ≤ u && u ≤ 122) || (65 ≤ u && u ≤ 90) || (48 ≤ u && u ≤ 57) ||
    u == 64 || u == 46 || u == 95 || u == 58 || u == 45

/-- `actor.replace(/[^a-zA-Z0-9@._:-]/g, "_").slice(0, 128)`. -/
def sanitize (actor : JsString) : JsString :=
  (actor.map fun u => if isActorUnit u then u else 95).take 128

/-- A call: the arguments, the payload as `JSON.stringify` writes it, and what the call reads from
the clock, in milliseconds and within the range of a `Date`, and from the random source. -/
structure Call where
  method : Method
  path : JsString
  payload : Option JsString
  actor : JsString
  now : Int
  random : List UInt8
  now_range : now.natAbs ≤ 8640000000000000
  random_length : random.length = 24
deriving DecidableEq

namespace Call

variable (call : Call)

def body : List UInt8 :=
  match call.payload with
  | none => []
  | some text => utf8 text

/-- `Math.floor(Date.now() / 1000)`. -/
def seconds : Int := call.now / 1000

def timestamp : JsString := decimal call.seconds

def nonce : JsString := base64url call.random

def safeActor : JsString := sanitize call.actor

/-- The bytes that are signed. -/
def canonical : List UInt8 :=
  utf8 (call.method.text ++ js "\n" ++ call.path ++ js "\n" ++ call.timestamp ++ js "\n" ++
    call.nonce ++ js "\n" ++ call.safeActor ++ js "\n") ++ call.body

end Call

/-- An HTTP request: the options of `http.request` and the body. -/
structure HttpRequest where
  method : Text
  path : Text
  headers : List (Text × Text)
  body : List UInt8
deriving DecidableEq

/-- The options of the call and its body, under a signature. -/
def Call.request (call : Call) (signature : Text) : HttpRequest where
  method := latin1Bytes call.method.text
  path := latin1Bytes call.path
  headers :=
    [(latin1 "Content-Type", latin1 "application/json"),
      (latin1 "Content-Length", latin1Bytes (decimal call.body.length)),
      (latin1 "X-ZT-Timestamp", latin1Bytes call.timestamp),
      (latin1 "X-ZT-Nonce", latin1Bytes call.nonce),
      (latin1 "X-ZT-Signature", signature),
      (latin1 "X-ZT-Actor", latin1Bytes call.safeActor)]
  body := call.body

/-- `callAgent` up to the request it sends; `hmac` is the digest of a key and a message. -/
def callAgent (hmac : Text → List UInt8 → Text) (secretFile : Text) (call : Call) :
    Except String HttpRequest :=
  if isEndpoint call.path = false then .error "Invalid configuration agent endpoint"
  else
    match clientSecret secretFile with
    | .error message => .error message
    | .ok key => .ok (call.request (hmac key call.canonical))

/-! ## 3. The agent's handler -/

/-- `MAX_BODY`. -/
def maxBody : Nat := 1024 * 1024

/-- `str.lower` of a Latin-1 character. -/
def lowerChar (c : UInt8) : UInt8 :=
  if (65 ≤ c && c ≤ 90) || (192 ≤ c && c ≤ 222 && c != 215) then c + 32 else c

/-- `self.headers.get(name, default)`; the parser drops the blanks in front of a value. -/
def HttpRequest.header (m : HttpRequest) (name default : String) : Text :=
  match m.headers.find? fun h => h.1.map lowerChar == (latin1 name).map lowerChar with
  | some h => h.2.dropWhile fun c => c == 32 || c == 9
  | none => latin1 default

/-- White space for `str.split()`. -/
def isWordSpace (c : UInt8) : Bool :=
  (9 ≤ c && c ≤ 13) || (28 ≤ c && c ≤ 32) || c == 0x85 || c == 0xa0

def firstWord (text : Text) : Text := text.takeWhile fun c => !isWordSpace c

def afterFirstWord (text : Text) : Text :=
  (text.dropWhile fun c => !isWordSpace c).dropWhile isWordSpace

/-- Several slashes in front of a path are one. -/
def reduceSlashes (path : Text) : Text :=
  match path with
  | 47 :: 47 :: rest => 47 :: rest.dropWhile (· == 47)
  | _ => path

/-- The request line without its line end. -/
def HttpRequest.requestLine (m : HttpRequest) : Text :=
  m.method ++ 32 :: (m.path ++ latin1 " HTTP/1.1")

/-- `self.command`. -/
def HttpRequest.command (m : HttpRequest) : Text := firstWord m.requestLine

/-- `self.path`. -/
def HttpRequest.target (m : HttpRequest) : Text :=
  reduceSlashes (firstWord (afterFirstWord m.requestLine))

theorem lineFeed_notMem_firstWord (text : Text) : 10 ∉ firstWord text := by
  intro hm
  have := List.mem_takeWhile_imp hm
  cases this

theorem lineFeed_notMem_reduceSlashes {path : Text} (h : 10 ∉ path) : 10 ∉ reduceSlashes path := by
  unfold reduceSlashes
  split
  · intro hm
    refine h ?_
    rcases List.mem_cons.mp hm with hm | hm
    · cases hm
    · exact List.mem_cons_of_mem _ (List.mem_cons_of_mem _ (List.dropWhile_sublist _ |>.subset hm))
  · exact h

/-- What `authorized` reads of a request, for the body that its caller has read. -/
def HttpRequest.presented (m : HttpRequest) (body : List UInt8) : Request where
  command := m.command
  path := m.target
  timestamp := m.header "X-ZT-Timestamp" ""
  nonce := m.header "X-ZT-Nonce" ""
  signature := m.header "X-ZT-Signature" ""
  actor := m.header "X-ZT-Actor" "unknown"
  body := body
  command_line := lineFeed_notMem_firstWord _
  path_line := lineFeed_notMem_reduceSlashes (lineFeed_notMem_firstWord _)

/-- `Handler.read_body`; the error is the status of the answer. -/
def HttpRequest.readBody (m : HttpRequest) : Except Nat (List UInt8) :=
  match pyInt (m.header "Content-Length" "0") with
  | none => .error 400
  | some length =>
    if length < 0 ∨ length > maxBody then .error 400
    else .ok (m.body.take length.toNat)

/-- From the request to the call of `authorized` by `do_GET`, which reads no body, or `do_POST`. -/
def HttpRequest.receive (m : HttpRequest) : Except Nat Request :=
  if m.requestLine.length + 2 > 65536 then .error 414
  else if m.command = latin1 "GET" then .ok (m.presented [])
  else if m.command = latin1 "POST" then
    match m.readBody with
    | .error status => .error status
    | .ok body => .ok (m.presented body)
  else .error 501

end ZtPlanet.Agent.Client
