/-
# `urllib.parse.urlparse`

The part of `urllib.parse` that the validation of `management.publicUrl` rests on: the split of a
URL into its components, the checks that raise `ValueError` while it is made, and the properties
of the network location.  A `ValueError` is `none`.

`nfkc` stands for `unicodedata.normalize('NFKC', ·)`, whose tables are not modelled: the split
uses it only to refuse a location with characters that normalize to a delimiter.
-/
import ZtPlanet.Python.IpAddress

namespace ZtPlanet.Python

/-- `ParseResult`. -/
structure ParseResult where
  scheme : PyStr
  netloc : PyStr
  path : PyStr
  params : PyStr
  query : PyStr
  fragment : PyStr
deriving DecidableEq

namespace UrlParse

/-! ## 1. Splitting -/

/-- The characters of `scheme_chars`. -/
def isSchemeChar (c : CodePoint) : Bool :=
  isAsciiAlnum c || c == ch '+' || c == ch '-' || c == ch '.'

/-- The scheme, lowered, and what is behind the colon, if the URL starts with one. -/
def splitScheme (url : PyStr) : PyStr × PyStr :=
  match url.head?, partition url (ch ':') with
  | some c, (scheme, some rest) =>
    if isAsciiLetter c && scheme.all isSchemeChar then (lower scheme, rest) else ([], url)
  | _, _ => ([], url)

/-- `_check_bracketed_host`. -/
def bracketedHostOk (host : PyStr) : Bool :=
  if host.head? = some (ch 'v') then
    match partition host.tail (ch '.') with
    | (version, some rest) => version != [] && version.all isHexDigit && rest != []
    | (_, none) => false
  else
    match IpAddress.parse host with
    | some (.v6 _ _) => true
    | _ => false

/-- The checks on brackets in the network location. -/
def bracketsOk (netloc : PyStr) : Bool :=
  let opens := netloc.contains (ch '[')
  let closes := netloc.contains (ch ']')
  if opens != closes then false
  else if opens then
    bracketedHostOk (partition ((partition netloc (ch '[')).2.getD []) (ch ']')).1
  else true

/-- `_checknetloc`. -/
def netlocOk (nfkc : PyStr → PyStr) (netloc : PyStr) : Bool :=
  if netloc.all (fun c => decide (c.val < 128)) then true
  else
    let n := netloc.filter fun c => c ∉ py "@:#?"
    if nfkc n = n then true else (py "/?#@:").all fun c => !(nfkc n).contains c

/-- The part before the first `sep` and the part behind it, empty without one. -/
def splitOnce (url : PyStr) (sep : CodePoint) : PyStr × PyStr :=
  match partition url sep with
  | (before, some after) => (before, after)
  | (before, none) => (before, [])

/-- The schemes of `uses_params`. -/
def usesParams : List PyStr :=
  ["", "ftp", "hdl", "prospero", "http", "imap", "https", "shttp", "rtsp", "rtsps", "rtspu", "sip",
    "sips", "mms", "sftp", "tel"].map py

/-- `_splitparams`: the parameters start at the first `;` of the last path segment. -/
def splitParams (path : PyStr) : PyStr × PyStr :=
  match rpartition path (ch '/') with
  | (none, segment) => splitOnce segment (ch ';')
  | (some before, segment) =>
    let (segment, params) := splitOnce segment (ch ';')
    (before ++ ch '/' :: segment, params)

/-- `urlparse(url)`. -/
def urlparse (nfkc : PyStr → PyStr) (url : PyStr) : Option ParseResult :=
  let url := url.dropWhile fun c => decide (c.val ≤ 0x20)
  let url := url.filter fun c => decide (c.val ≠ 9 ∧ c.val ≠ 10 ∧ c.val ≠ 13)
  let (scheme, url) := splitScheme url
  let hasNetloc := url.take 2 = py "//"
  let isDelimiter := fun c => decide (c ∈ py "/?#")
  let netloc := if hasNetloc then (url.drop 2).takeWhile fun c => !isDelimiter c else []
  let url := if hasNetloc then (url.drop 2).dropWhile fun c => !isDelimiter c else url
  if bracketsOk netloc = false then none
  else
    let (url, fragment) := splitOnce url (ch '#')
    let (url, query) := splitOnce url (ch '?')
    if netlocOk nfkc netloc = false then none
    else
      let (path, params) :=
        if scheme ∈ usesParams ∧ ch ';' ∈ url then splitParams url else (url, [])
      some ⟨scheme, netloc, path, params, query, fragment⟩

end UrlParse

/-! ## 2. Properties of the network location -/

namespace ParseResult

/-- `_hostinfo`: the host and the text of the port. -/
def hostinfo (r : ParseResult) : PyStr × PyStr :=
  let hostinfo := (rpartition r.netloc (ch '@')).2
  match partition hostinfo (ch '[') with
  | (_, some bracketed) =>
    let (host, rest) := UrlParse.splitOnce bracketed (ch ']')
    (host, (UrlParse.splitOnce rest (ch ':')).2)
  | (_, none) => UrlParse.splitOnce hostinfo (ch ':')

/-- `_userinfo`, with the empty text for `None`: the code only asks whether each is there. -/
def userinfo (r : ParseResult) : PyStr × PyStr :=
  match rpartition r.netloc (ch '@') with
  | (none, _) => ([], [])
  | (some userinfo, _) => UrlParse.splitOnce userinfo (ch ':')

/-- `bool(hostname)`: lowering a host does not empty it. -/
def hasHostname (r : ParseResult) : Bool := r.hostinfo.1 != []

/-- `port`: no port, a port, or a `ValueError`. -/
def port (r : ParseResult) : Option (Option Nat) :=
  let text := r.hostinfo.2
  if text = [] then some none
  else if text.all isAsciiDigit = false then none
  else if ofDigits 10 text > 65535 then none
  else some (some (ofDigits 10 text))

end ParseResult

end ZtPlanet.Python
