/-
# Whose request it is

Behind a proxy the peer of a request is in `X-Forwarded-For`, which a client can send as well: the
proxy appends the peer's address to what it was sent.  Two places read the header.  The rate limiter
reads it from the right and takes the first address, so what the client sends makes no difference
(`limiter_unforged`).  The login takes the first element, which is the client's where it sends any,
and records it for the device.  So both go by the peer exactly where the first element names the
peer (`attributed_iff`).
-/
import ZtPlanet.Js.Number
import ZtPlanet.Ztnet.SsrfGuard
import ZtPlanet.Ztnet.Backend
import ZtPlanet.Lib.Fields

namespace ZtPlanet.Ztnet.Attribution

open ZtPlanet.Lib ZtPlanet.Python

/-! ## 1. Texts -/

/-- `value.trim()`. -/
def trim (value : PyStr) : PyStr := strip Js.isSpace value

/-- `(?::\\d+)?` matches the whole text. -/
def isPort : PyStr → Bool
  | [] => true
  | c :: digits => c = ch ':' && digits ≠ [] && digits.all isAsciiDigit

/-- `value.replace(/^\\[([^\\]]+)\\](?::\\d+)?$/, "$1")`. -/
def unbracket (value : PyStr) : PyStr :=
  match value with
  | [] => value
  | c :: rest =>
    match partition rest (ch ']') with
    | (body, some port) => if c = ch '[' ∧ body ≠ [] ∧ isPort port then body else value
    | (_, none) => value

/-- `\\d{1,3}(?:\\.\\d{1,3}){3}` matches the whole text. -/
def isQuad (value : PyStr) : Bool :=
  (split value (ch '.')).length = 4 &&
    (split value (ch '.')).all fun octet => octet ≠ [] && octet.length ≤ 3 && octet.all isAsciiDigit

/-- The dotted quad behind `::ffff:`, which is compared after `fold`. -/
def mappedIpv4 (fold : PyStr → PyStr) (value : PyStr) : Option PyStr :=
  if fold (value.take 7) = py "::ffff:" ∧ isQuad (value.drop 7) then some (value.drop 7) else none

/-! ## 2. The identifier of the rate limiter -/

/-- A header, as Node gives it. -/
inductive HeaderValue where
  | text (value : PyStr)
  | list (values : List PyStr)

/-- `RequestLike`. -/
structure RequestLike where
  headers : PyStr → Option HeaderValue
  remoteAddress : Option PyStr

/-- A text that is not empty. -/
def truthy (value : PyStr) : Option PyStr := if value = [] then none else some value

/-- `firstHeader`. -/
def firstHeader (headers : PyStr → Option HeaderValue) (name : PyStr) : Option PyStr :=
  match (headers name).or (headers (lower name)) with
  | some (.list values) => values.head?.bind fun value => truthy (trim value)
  | some (.text value) => truthy (trim value)
  | none => none

/-- `normalizeAddress`. -/
def normalizeAddress (value : Option PyStr) : Option PyStr :=
  (value.bind truthy).bind fun value =>
    let candidate := unbracket (trim value)
    let address := (mappedIpv4 lower candidate).getD candidate
    if isIP address ≠ 0 then some address else none

/-- `getClientRateLimitIdentifier`, with the variable `ZTPLANET_TRUST_PROXY`. -/
def getClientRateLimitIdentifier (trustProxy : Option PyStr) (req : RequestLike) : PyStr :=
  let forwardedAddress :=
    if trustProxy.map lower = some (py "true") then
      (firstHeader req.headers (py "x-forwarded-for")).bind fun forwarded =>
        (split forwarded (ch ',')).reverse.findSome? fun value =>
          normalizeAddress (some (trim value))
    else none
  forwardedAddress.getD ((normalizeAddress req.remoteAddress).getD (py "unknown"))

/-! ## 3. The device of a login -/

/-- `headers.get` of the headers that a login reads, and its cookie. -/
structure Login where
  forwardedFor : Option PyStr
  xUserAgent : Option PyStr
  userAgent : Option PyStr
  /-- the cookie of the device -/
  deviceCookie : Option PyStr
  /-- the id that is drawn where there is no cookie -/
  freshId : PyStr
  userId : UserId
  /-- `user.firstTime`, as it was before -/
  firstTime : Bool
  now : Nat

/-- `UserDevice`. -/
structure UserDevice where
  userId : UserId
  userAgent : PyStr
  ipAddress : PyStr
  lastActive : Nat
  isActive : Bool
deriving DecidableEq

inductive MailTemplateKey where
  | newDeviceNotification
  | deviceIpChangeNotification
deriving DecidableEq

/-- `getIpFromHeaders`; the pattern is compared as it is. -/
def getIpFromHeaders (forwardedFor : Option PyStr) : PyStr :=
  let ip :=
    match forwardedFor.bind truthy with
    | some forwardedFor => trim ((split forwardedFor (ch ',')).headD [])
    | none => py "Unknown"
  (mappedIpv4 id ip).getD ip

/-- The part of `onSessionCreated` behind the address: the row of the device, and the mail to the
user with the address. -/
def recordDevice (login : Login) (userAgent : PyStr) (devices : Dict PyStr UserDevice)
    (ipAddress : PyStr) : Dict PyStr UserDevice × Option (MailTemplateKey × PyStr) :=
  let deviceId := (login.deviceCookie.bind truthy).getD login.freshId
  let existingDevice := devices.get? deviceId
  let device : UserDevice :=
    match existingDevice with
    | some device =>
      { device with lastActive := login.now, ipAddress := ipAddress, isActive := true }
    | none => ⟨login.userId, userAgent, ipAddress, login.now, true⟩
  let templateKey :=
    if login.firstTime then none
    else
      match existingDevice with
      | none => some .newDeviceNotification
      | some device =>
        if device.ipAddress ≠ ipAddress then some .deviceIpChangeNotification else none
  (devices.set deviceId device, templateKey.map fun templateKey => (templateKey, ipAddress))

/-- The user agent of a login. -/
def Login.agent (login : Login) : PyStr :=
  ((login.xUserAgent.bind truthy).or (login.userAgent.bind truthy)).getD []

/-- The device tracking of `onSessionCreated`, for a user who may sign in. -/
def trackDevice (login : Login) (devices : Dict PyStr UserDevice) :
    Dict PyStr UserDevice × Option (MailTemplateKey × PyStr) :=
  if login.agent = [] then (devices, none)
  else recordDevice login login.agent devices (getIpFromHeaders login.forwardedFor)

/-! ## 4. What the proxy makes of the header -/

/-- The header behind the proxy: what the client has sent, if anything, and the peer. -/
def forwardedFor (sent : Option PyStr) (peer : PyStr) : PyStr :=
  match sent with
  | none => peer
  | some sent => sent ++ py ", " ++ peer

/-- The first element of the header. -/
def firstElement (sent : Option PyStr) (peer : PyStr) : PyStr :=
  match sent with
  | none => peer
  | some sent => sent.takeWhile (· ≠ ch ',')

/-- The text is the address but for blanks around it, or the address is a dotted quad and `::ffff:`
is before it. -/
def Names (text address : PyStr) : Prop :=
  trim text = address ∨ isQuad address = true ∧ trim text = py "::ffff:" ++ address

instance (text address : PyStr) : Decidable (Names text address) :=
  inferInstanceAs (Decidable (_ ∨ _))

section

variable {sent : Option PyStr} {peer address : PyStr}

theorem trim_trim (value : PyStr) : trim (trim value) = trim value := strip_strip value

theorem normalizeAddress_ne_nil (h : normalizeAddress (some peer) = some address) :
    trim peer ≠ [] := by
  intro hblank
  obtain ⟨value, hvalue, h⟩ := Option.bind_eq_some_iff.mp h
  have hsame : value = peer := by
    rw [Option.bind_some, truthy] at hvalue
    split at hvalue
    · cases hvalue
    · exact (Option.some.inj hvalue).symm
  rw [hsame, hblank] at h
  dsimp only at h
  rw [if_neg (by decide)] at h
  cases h

/-- An address is the same with blanks around it and without. -/
theorem normalizeAddress_trim (h : normalizeAddress (some peer) = some address) :
    normalizeAddress (some (trim peer)) = some address := by
  have hblank := normalizeAddress_ne_nil h
  have hpeer : peer ≠ [] := by
    rintro rfl
    exact hblank rfl
  rw [normalizeAddress, Option.bind_some, truthy, if_neg hpeer] at h
  rw [normalizeAddress, Option.bind_some, truthy, if_neg hblank]
  simpa only [Option.bind_some, trim_trim] using h

/-- The last element of a header that the proxy has appended to, without the blanks around it. -/
theorem split_trim (sent : PyStr) (hcomma : ch ',' ∉ peer) :
    ∃ init last, split (trim (sent ++ py ", " ++ peer)) (ch ',') = init ++ [last] ∧
      trim last = trim peer := by
  have hline : sent ++ py ", " ++ peer = sent ++ ch ',' :: (ch ' ' :: peer) := by
    rw [List.append_assoc]
    rfl
  refine ⟨split (sent.dropWhile Js.isSpace) (ch ','),
    (ch ' ' :: peer).rdropWhile Js.isSpace, ?_, ?_⟩
  · rw [hline, trim, strip_append_cons (by decide)]
    refine splitOn_concat _ fun hmem => ?_
    rcases List.mem_cons.mp ((List.rdropWhile_prefix _ _).subset hmem) with hmem | hmem
    · revert hmem
      decide
    · exact hcomma hmem
  · rw [trim, strip_rdropWhile, strip_cons_of_pos (by decide), trim]

/-- **The limiter goes by the peer**, whatever the client has sent. -/
theorem limiter_unforged {trustProxy : PyStr} (htrust : lower trustProxy = py "true")
    (hcomma : ch ',' ∉ peer) (hpeer : normalizeAddress (some peer) = some address)
    (req : RequestLike)
    (hreq : req.headers (py "x-forwarded-for") = some (.text (forwardedFor sent peer))) :
    getClientRateLimitIdentifier (some trustProxy) req = address := by
  have hblank := normalizeAddress_ne_nil hpeer
  have haddress := normalizeAddress_trim hpeer
  -- the header is not blank, and the last element is the peer
  have hlast : trim (forwardedFor sent peer) ≠ [] ∧
      ∃ init last, split (trim (forwardedFor sent peer)) (ch ',') = init ++ [last] ∧
        trim last = trim peer := by
    cases sent with
    | none =>
      refine ⟨hblank, [], trim peer, ?_, trim_trim peer⟩
      exact List.splitOn_eq_singleton fun hmem => hcomma (mem_of_mem_strip hmem)
    | some sent =>
      obtain ⟨init, last, hsplit, hpeer'⟩ := split_trim sent hcomma
      refine ⟨fun hnil => ?_, init, last, hsplit, hpeer'⟩
      have hall : Js.isSpace (ch ',') = true :=
        mem_blank_of_strip hnil (by simp [forwardedFor, py_eq_map])
      revert hall
      decide
  obtain ⟨hnonempty, init, last, hsplit, htrim⟩ := hlast
  unfold getClientRateLimitIdentifier firstHeader
  rw [hreq]
  simp only [Option.map_some, htrust, if_true, Option.some_or, truthy, if_neg hnonempty,
    Option.bind_some,
    hsplit, List.reverse_append, List.reverse_singleton, List.singleton_append,
      List.findSome?_cons, htrim,
    haddress, Option.getD_some]

/-- The dotted quads are digits and dots. -/
theorem not_colon_of_isQuad {value : PyStr} (h : isQuad value = true) :
    value.head? ≠ some (ch ':') := by
  intro hhead
  obtain ⟨rest, rfl⟩ : ∃ rest, value = ch ':' :: rest := by
    cases value with
    | nil => cases hhead
    | cons c rest => exact ⟨rest, by rw [Option.some.inj hhead]⟩
  obtain ⟨-, hall⟩ := (Bool.and_eq_true _ _).mp h
  have hfirst : (split (ch ':' :: rest) (ch '.')).head? = some
    (ch ':' :: rest.takeWhile (· ≠ ch '.')) := by
    refine (head?_splitOn _).trans ?_
    rw [List.takeWhile_cons_of_pos (by decide)]
  have hoctet := List.all_eq_true.mp hall _ (List.mem_of_head? hfirst)
  simp only [Bool.and_eq_true, List.all_cons] at hoctet
  exact absurd hoctet.2.1 (by decide)

/-- An address of the limiter has no `::ffff:` before a dotted quad. -/
theorem mappedIpv4_of_normalize {value : Option PyStr} (h : normalizeAddress value = some address) :
    mappedIpv4 id address = none := by
  obtain ⟨text, -, h⟩ := Option.bind_eq_some_iff.mp h
  dsimp only at h
  split at h
  · obtain rfl := Option.some.inj h
    cases hmapped : mappedIpv4 lower (unbracket (trim text)) with
    | some quad =>
      rw [mappedIpv4] at hmapped
      split at hmapped
      · next hquad =>
        rw [Option.getD_some, mappedIpv4, if_neg]
        rintro ⟨hcolon, -⟩
        obtain rfl := Option.some.inj hmapped
        refine not_colon_of_isQuad hquad.2 ?_
        have hhead := congrArg List.head? hcolon
        rwa [id, List.head?_take, if_neg (by decide)] at hhead
      · cases hmapped
    | none =>
      rw [Option.getD_none, mappedIpv4, if_neg]
      rintro ⟨hcolon, hquad⟩
      have hfold : lower ((unbracket (trim text)).take 7) = py "::ffff:" := by
        rw [show (unbracket (trim text)).take 7 = py "::ffff:" from hcolon]
        decide
      rw [mappedIpv4, if_pos ⟨hfold, hquad⟩] at hmapped
      cases hmapped
  · cases h

/-- What a login makes of an element. -/
theorem names_iff {text : PyStr} (haddress : mappedIpv4 id address = none) :
    (mappedIpv4 id (trim text)).getD (trim text) = address ↔ Names text address := by
  have htake : ∀ quad, (py "::ffff:" ++ quad).take 7 = py "::ffff:" :=
    fun quad => List.take_left' rfl
  have hdrop : ∀ quad, (py "::ffff:" ++ quad).drop 7 = quad := fun quad => List.drop_left' rfl
  constructor
  · intro h
    rw [mappedIpv4] at h
    split at h
    · next hquad =>
      rw [Option.getD_some] at h
      refine .inr ⟨h ▸ hquad.2, ?_⟩
      rw [← h, ← show (trim text).take 7 = py "::ffff:" from hquad.1, List.take_append_drop]
    · exact .inl h
  · rintro (h | ⟨hquad, h⟩)
    · rw [h, haddress, Option.getD_none]
    · rw [h, mappedIpv4, hdrop, if_pos ⟨htake address, hquad⟩, Option.getD_some]

/-- **The login goes by the first element.** -/
theorem getIpFromHeaders_forwardedFor (hcomma : ch ',' ∉ peer) (hpeer : peer ≠ []) :
    getIpFromHeaders (some (forwardedFor sent peer)) =
      (mappedIpv4 id (trim (firstElement sent peer))).getD (trim (firstElement sent peer)) := by
  have hfirst : truthy (forwardedFor sent peer) = some (forwardedFor sent peer) ∧
      (split (forwardedFor sent peer) (ch ',')).head? = some (firstElement sent peer) := by
    cases sent with
    | none =>
      refine ⟨if_neg hpeer, ?_⟩
      rw [split, forwardedFor, List.splitOn_eq_singleton hcomma]
      rfl
    | some sent =>
      have hline : forwardedFor (some sent) peer = sent ++ ch ',' :: (ch ' ' :: peer) := by
        rw [forwardedFor, List.append_assoc]
        rfl
      rw [hline]
      refine ⟨if_neg (by simp), (head?_splitOn _).trans ?_⟩
      rw [takeWhile_append_cons (by simp), firstElement]
  unfold getIpFromHeaders
  simp only [Option.bind_some, hfirst.1, List.headD_eq_head?_getD, hfirst.2, Option.getD_some]

/-- The recorded row has the address. -/
theorem recordDevice_injective {login : Login} {userAgent : PyStr} {devices : Dict PyStr UserDevice}
    {ip ip' : PyStr} (h : recordDevice login userAgent devices ip =
      recordDevice login userAgent devices ip') :
    ip = ip' := by
  have hrow : ∀ address, ((recordDevice login userAgent devices address).1.get?
      ((login.deviceCookie.bind truthy).getD login.freshId)).map UserDevice.ipAddress =
        some address := by
    intro address
    simp only [recordDevice, Dict.get?_set_self, Option.map_some]
    split <;> rfl
  have hip := hrow ip
  rw [h, hrow ip'] at hip
  exact (Option.some.inj hip).symm

end

/-- What a login records and sends is what it would be with the peer's address. -/
def Attributed (login : Login) (devices : Dict PyStr UserDevice) (address : PyStr) : Prop :=
  login.agent ≠ [] → trackDevice login devices = recordDevice login login.agent devices address

/-- **Attribution, exactly.**  Behind a proxy that is trusted and appends the peer, whatever the
client has sent: the limiter goes by the peer's address, and the device is recorded and compared
with it, if and only if the first element of the header names it (or nothing is recorded, for want
of a user agent). -/
theorem attributed_iff {trustProxy : PyStr} (htrust : lower trustProxy = py "true")
    (sent : Option PyStr)
    {peer address : PyStr} (hcomma : ch ',' ∉ peer)
    (hpeer : normalizeAddress (some peer) = some address)
    (req : RequestLike) (hreq : req.headers (py "x-forwarded-for") = some
      (.text (forwardedFor sent peer)))
    (login : Login) (hlogin : login.forwardedFor = some (forwardedFor sent peer))
    (devices : Dict PyStr UserDevice) :
    (getClientRateLimitIdentifier (some trustProxy) req = address ∧
      Attributed login devices address) ↔
      (login.agent ≠ [] → Names (firstElement sent peer) address) := by
  have hnonempty : peer ≠ [] := by
    rintro rfl
    exact normalizeAddress_ne_nil hpeer rfl
  have hlimiter := limiter_unforged htrust hcomma hpeer req hreq
  have hip : getIpFromHeaders (some (forwardedFor sent peer)) = _ :=
    getIpFromHeaders_forwardedFor hcomma hnonempty
  rw [and_iff_right hlimiter, Attributed]
  refine forall_congr' fun hagent => ?_
  rw [trackDevice, if_neg hagent, hlogin, ← names_iff (mappedIpv4_of_normalize hpeer), ← hip]
  constructor
  · exact recordDevice_injective
  · intro h
    rw [h]

/-- A login with the header. -/
def exampleLogin (sent : Option PyStr) (peer : PyStr) : Login where
  forwardedFor := some (forwardedFor sent peer)
  xUserAgent := none
  userAgent := some (py "Mozilla/5.0")
  deviceCookie := some (py "d1")
  freshId := py "d2"
  userId := 1
  firstTime := false
  now := 5

/-- A request with the header, from the proxy. -/
def exampleRequest (sent : Option PyStr) (peer : PyStr) : RequestLike where
  headers name :=
    if name = py "x-forwarded-for" then some (.text (forwardedFor sent peer)) else none
  remoteAddress := some (py "172.31.255.2")

theorem exampleRequest_headers (sent : Option PyStr) (peer : PyStr) :
    (exampleRequest sent peer).headers (py "x-forwarded-for") = some
    (.text (forwardedFor sent peer)) := by
  simp [exampleRequest]

/-- The device of the user, last seen at the peer. -/
def exampleDevices : Dict PyStr UserDevice :=
  Dict.empty.set (py "d1") ⟨1, py "Mozilla/5.0", py "203.0.113.7", 0, true⟩

/-- A client behind an IPv4 socket sends its own address. -/
theorem attributed_named :
    getClientRateLimitIdentifier (some (py "true"))
        (exampleRequest (some (py " ::ffff:203.0.113.7, x")) (py "203.0.113.7")) =
        py "203.0.113.7" ∧
      Attributed (exampleLogin (some (py " ::ffff:203.0.113.7, x")) (py "203.0.113.7"))
        exampleDevices
        (py "203.0.113.7") :=
  (attributed_iff (by decide) _ (by decide) (by decide +kernel) _
    (exampleRequest_headers _ _) _ rfl _).mpr
    fun _ => by decide +kernel

/-- **A forged address.**  A client at 203.0.113.7 sends 198.51.100.2: the limiter goes by the peer,
and the device is recorded with what the client has sent. -/
theorem attributed_forged :
    normalizeAddress (some (py "203.0.113.7")) = some (py "203.0.113.7") ∧
      getClientRateLimitIdentifier (some (py "true"))
        (exampleRequest (some (py "198.51.100.2")) (py "203.0.113.7")) = py "203.0.113.7" ∧
      ((trackDevice (exampleLogin (some (py "198.51.100.2")) (py "203.0.113.7"))
        exampleDevices).1.get?
        (py "d1")).map UserDevice.ipAddress = some (py "198.51.100.2") ∧
      (trackDevice (exampleLogin (some (py "198.51.100.2")) (py "203.0.113.7")) exampleDevices).2 =
        some (.deviceIpChangeNotification, py "198.51.100.2") ∧
      ¬ Attributed (exampleLogin (some (py "198.51.100.2")) (py "203.0.113.7")) exampleDevices
        (py "203.0.113.7") := by
  have hrecorded :
      ((trackDevice (exampleLogin (some (py "198.51.100.2")) (py "203.0.113.7"))
        exampleDevices).1.get?
      (py "d1")).map UserDevice.ipAddress = some (py "198.51.100.2") := by decide +kernel
  refine ⟨by decide +kernel, by decide +kernel, hrecorded, by decide +kernel, fun hattributed => ?_⟩
  rw [hattributed (by decide +kernel)] at hrecorded
  revert hrecorded
  decide +kernel

end ZtPlanet.Ztnet.Attribution
