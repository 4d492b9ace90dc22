/-
# Requests for certificates

There are two pairs of a certificate and a key under `tls`, one for each TLS mode that has files.
`generate_certificate` lets openssl make a new pair of the first, `install_custom_certificate`
installs a client's pair as the second.  Both prepare the new pair in a temporary directory of
their own, move its two files into place one after the other, set their modes and owners, remove
the directory and write an audit event.

The server runs every request in a thread of its own, and neither function takes the agent's lock.
So the model is a list of requests, each at some point of its function, over the files that are
installed; an event lets one request perform its next operation, and says whether that operation
fails.
-/
import ZtPlanet.Agent.Validate
import ZtPlanet.Lib.Machine

namespace ZtPlanet.Agent.Certificates

open ZtPlanet.Lib ZtPlanet.Python

/-! ## 1. Requests -/

inductive Slot where
  /-- `self-signed.crt` and `self-signed.key` -/
  | selfSigned
  /-- `custom.crt` and `custom.key` -/
  | custom
deriving DecidableEq

inductive Part where
  | certificate
  | key
deriving DecidableEq

/-- The arguments of the two functions; for the first also what openssl generates when it is run. -/
inductive Input where
  | selfSigned (names : Json) (generated : Part → PyStr)
  | custom (certificate privateKey : Json)

namespace Input

def slot : Input → Slot
  | .selfSigned _ _ => .selfSigned
  | .custom _ _ => .custom

/-- The entry of `subjectAltName` for a name. -/
def sanItem : Json → Except PyError PyStr
  | .str raw =>
    match IpAddress.parse raw with
    | some ip => .ok (py "IP:" ++ ip.str)
    | none => (requireHost (.str raw) (py "certificate name")).map fun host => py "DNS:" ++ host
  | _ => fail (py "certificate names must be strings")

/-- `marker in text`. -/
def hasMarker (marker : String) (text : PyStr) : Bool :=
  text.tails.any fun tail => (py marker).isPrefixOf tail

/-- What is checked before anything is done. -/
def check : Input → Except PyError Unit
  | .selfSigned names _ =>
    let refusal := fail (py "names must contain 1 to 16 IP addresses or host names")
    match names with
    | .arr names =>
      if 1 ≤ names.length ∧ names.length ≤ 16 then (names.mapM sanItem).map fun _ => ()
      else refusal
    | _ => refusal
  | .custom certificate privateKey =>
    match certificate, privateKey with
    | .str certificate, .str privateKey => do
      refuseIf (!(256 ≤ certificate.length && certificate.length ≤ 262144 &&
        256 ≤ privateKey.length && privateKey.length ≤ 262144))
        (py "certificate or private key size is invalid")
      refuseIf (!(hasMarker "-----BEGIN CERTIFICATE-----" certificate &&
        hasMarker "PRIVATE KEY-----" privateKey))
        (py "certificate and privateKey must use PEM encoding")
    | _, _ => fail (py "certificate and privateKey must be PEM strings")

/-- `s.rstrip() + "\n"`. -/
def oneLineFeed (s : PyStr) : PyStr := (s.reverse.dropWhile isSpace).reverse ++ [ch '\n']

/-- The text of a part of the new pair. -/
def text : Input → Part → Option PyStr
  | .selfSigned _ generated, part => some (generated part)
  | .custom (.str certificate) _, .certificate => some (oneLineFeed certificate)
  | .custom _ (.str privateKey), .key => some (oneLineFeed privateKey)
  | .custom _ _, _ => none

end Input

/-! ## 2. The two functions -/

/-- An operation on the temporary directory, or on the files when they are in place. -/
inductive Op where
  /-- `openssl req -x509 -newkey`, which writes both files -/
  | generate
  /-- `atomic_write`, in the temporary directory -/
  | write (part : Part)
  /-- `x509 -pubkey`, `pkey -pubout`, and `compare_digest` of what they print -/
  | comparePublicKeys
  /-- `x509 -checkend 0` -/
  | checkEnd
  | chmod (part : Part)
  | makeRuntimeReadable (part : Part)
  | makeGatewayReadable (part : Part)
deriving DecidableEq

/-- From the creation of the directory to the first `os.replace`. -/
def Input.preparation : Input → List Op
  | .selfSigned _ _ => [.generate]
  | .custom _ _ => [.write .certificate, .write .key, .comparePublicKeys, .checkEnd]

/-- From the second `os.replace` to the end of the `try` block. -/
def Input.completion : Input → List Op
  | .selfSigned _ _ =>
    [.chmod .certificate, .chmod .key, .makeRuntimeReadable .certificate,
      .makeRuntimeReadable .key, .makeGatewayReadable .certificate, .makeGatewayReadable .key]
  | .custom _ _ =>
    [.chmod .certificate, .chmod .key, .makeGatewayReadable .certificate,
      .makeGatewayReadable .key]

/-- Where a request is in its function. -/
inductive Phase where
  /-- before `mkdtemp` -/
  | entering
  /-- so many operations before `os.replace(tmp_cert, cert_path)` -/
  | preparing (ops : List Op)
  /-- before `os.replace(tmp_key, key_path)` -/
  | halfway
  /-- so many operations before `shutil.rmtree` -/
  | completing (ops : List Op)
  /-- before `shutil.rmtree`, with an exception -/
  | failed
  /-- before `self.audit` -/
  | auditing
  | returned
  | raised
deriving DecidableEq

/-- Whether the operation at this point can fail; removing the directory ignores errors. -/
def Phase.canFail : Phase → Bool
  | .entering | .preparing _ | .halfway | .completing (_ :: _) | .auditing => true
  | .completing [] | .failed | .returned | .raised => false

/-- An exception was raised. -/
def Phase.stopped : Phase → Bool
  | .failed | .raised => true
  | _ => false

structure Request where
  input : Input
  /-- the files of its temporary directory -/
  temporary : Part → Option PyStr
  phase : Phase

/-- `openssl`: the public key that belongs to a certificate or a private key, `none` where it
cannot be read. -/
structure OpenSsl where
  publicKey : Part → PyStr → Option PyStr

/-- An installed file, and the request that has moved it into place; `none` for a file that was
there before all of them. -/
structure Installed where
  text : PyStr
  request : Option Nat
deriving DecidableEq

/-- `tls_dir`. -/
abbrev Files : Type := Slot → Part → Option Installed

/-- Move a file into place. -/
def Files.replace (files : Files) (slot : Slot) (part : Part) (file : Installed) : Files :=
  fun slot' part' => if slot' = slot ∧ part' = part then some file else files slot' part'

/-- The file of a part in the temporary directory, or that there is none. -/
def Request.put (request : Request) (part : Part) (text : Option PyStr) : Request :=
  { request with temporary := fun part' => if part' = part then text else request.temporary part' }

/-- An operation that does not fail outside; `none` if it raises. -/
def perform (openssl : OpenSsl) (request : Request) : Op → Option Request
  | .generate => some { request with temporary := request.input.text }
  | .write part => some (request.put part (request.input.text part))
  | .comparePublicKeys => do
    let certKey ← (request.temporary .certificate).bind (openssl.publicKey .certificate)
    let privatePublic ← (request.temporary .key).bind (openssl.publicKey .key)
    if certKey = privatePublic then some request else none
  | .checkEnd | .chmod _ | .makeRuntimeReadable _ | .makeGatewayReadable _ => some request

/-- `os.replace` of a prepared file; without one it raises. -/
def install (i : Nat) (request : Request) (files : Files) (part : Part) (next : Phase) :
    Request × Files :=
  match request.temporary part with
  | some text =>
    ({ request.put part none with phase := next },
      files.replace request.input.slot part ⟨text, some i⟩)
  | none => ({ request with phase := .failed }, files)

/-- The next operation of request `i`; `fails` says that it fails outside. -/
def advance (openssl : OpenSsl) (i : Nat) (fails : Bool) (request : Request) (files : Files) :
    Option (Request × Files) :=
  let goTo (phase : Phase) := some ({ request with phase := phase }, files)
  match request.phase with
  | .entering => if fails then goTo .raised else goTo (.preparing request.input.preparation)
  | .preparing (op :: ops) =>
    if fails then goTo .failed
    else
      match perform openssl request op with
      | some request => some ({ request with phase := .preparing ops }, files)
      | none => goTo .failed
  | .preparing [] =>
    if fails then goTo .failed else some (install i request files .certificate .halfway)
  | .halfway =>
    if fails then goTo .failed
    else some (install i request files .key (.completing request.input.completion))
  | .completing (_ :: ops) => if fails then goTo .failed else goTo (.completing ops)
  -- `rmtree` ignores errors
  | .completing [] => goTo .auditing
  | .failed => goTo .raised
  | .auditing => if fails then goTo .raised else goTo .returned
  | .returned => none
  | .raised => none

/-! ## 3. The server -/

structure World where
  files : Files
  requests : List Request

inductive Event where
  | start (input : Input)
  | step (i : Nat) (fails : Bool)

/-- A new request; one that is refused has raised. -/
def enter (input : Input) : Request where
  input := input
  temporary := fun _ => none
  phase :=
    match input.check with
    | .ok _ => .entering
    | .error _ => .raised

def machine (openssl : OpenSsl) : Machine World Event where
  step w
    | .start input => some { w with requests := w.requests ++ [enter input] }
    | .step i fails =>
      (w.requests[i]?).bind fun request =>
        match advance openssl i fails request w.files with
        | some (request, files) => some ⟨files, w.requests.set i request⟩
        | none => none

/-- The files that are there before the first request. -/
def initial (texts : Slot → Part → Option PyStr) : World where
  files slot part := (texts slot part).map fun text => ⟨text, none⟩
  requests := []

namespace World

/-- Every request has ended. -/
def finished (w : World) : Prop :=
  ∀ request ∈ w.requests, request.phase = .returned ∨ request.phase = .raised

/-- The request that an installed file is from. -/
def owner (w : World) (slot : Slot) (part : Part) : Option Nat :=
  (w.files slot part).bind Installed.request

/-- Request `i` is at such a point. -/
def reached (w : World) (P : Phase → Prop) (i : Nat) : Prop :=
  ∃ request, w.requests[i]? = some request ∧ P request.phase

/-- It has moved its certificate and is still to move its key. -/
def isHalfway (w : World) (i : Nat) : Prop := w.reached (· = .halfway) i

/-- An exception was raised. -/
def hasFailed (w : World) (i : Nat) : Prop := w.reached (fun phase => phase.stopped = true) i

end World

end ZtPlanet.Agent.Certificates
