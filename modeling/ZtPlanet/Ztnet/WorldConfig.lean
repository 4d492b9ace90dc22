/-
# Planet configurations

`parseWorldConfig` reads an uploaded configuration, and `extractEndpointPorts` its listener ports;
what they accept is written down for `ztmkworld`.

The generator does not write all of it.  Here are four roots at most where there may be 32,
endpoints that list no two addresses and write their port in decimal digits, and identities that are
identities: `generate_returns_iff_generable` says that nothing else is missing.
-/
import ZtPlanet.Js.Double
import ZtPlanet.Lib.Dict
import ZtPlanet.MkWorld.Generator

namespace ZtPlanet.Ztnet

open ZtPlanet.Lib ZtPlanet.Js ZtPlanet.MkWorld

/-! ## 1. Values -/

/-- A value of JavaScript, as `JSON.parse` makes it. -/
inductive JsValue where
  | undefined
  | null
  | boolean (b : Bool)
  | number (x : Double)
  | string (s : JsString)
  | array (elements : List JsValue)
  | object (properties : List (JsString × JsValue))

namespace JsValue

/-- A property of a record, `undefined` in all that is none. -/
def get (value : JsValue) (key : String) : JsValue :=
  match value with
  | .object properties => (Assoc.lookup properties (js key)).getD .undefined
  | _ => .undefined

/-- A record with another value of a property. -/
def set (value : JsValue) (key : String) (x : JsValue) : JsValue :=
  match value with
  | .object properties => .object (Assoc.put properties (js key) x)
  | _ => value

/-- The elements of an array. -/
def elements : JsValue → List JsValue
  | .array elements => elements
  | _ => []

/-- The units of a string. -/
def text : JsValue → JsString
  | .string s => s
  | _ => []

def isString : JsValue → Bool
  | .string _ => true
  | _ => false

def isUndefined : JsValue → Bool
  | .undefined => true
  | _ => false

def isRecord : JsValue → Bool
  | .object _ => true
  | _ => false

theorem get_set {value : JsValue} (h : value.isRecord = true) (key key' : String) (x : JsValue) :
    (value.set key x).get key' = if js key = js key' then x else value.get key' := by
  cases value with
  | object properties =>
    change (Assoc.lookup (Assoc.put properties (js key) x) (js key')).getD .undefined = _
    rw [Assoc.lookup_put]
    split <;> rfl
  | undefined | null | boolean | number | string | array => cases h

theorem isRecord_set {value : JsValue} (h : value.isRecord = true) (key : String) (x : JsValue) :
    (value.set key x).isRecord = true := by
  cases value with
  | object properties => rfl
  | undefined | null | boolean | number | string | array => cases h

end JsValue

/-! ## 2. Ports -/

/-- `s.lastIndexOf(c)`. -/
def lastIndexOf (s : JsString) (c : UInt16) : ℤ := (s.rdropWhile (· != c)).length - 1

def invalidEndpoint (endpoint : JsString) : JsString := js "Invalid root endpoint: " ++ endpoint

/-- The port of one of the endpoints of a list. -/
def endpointPort (rawEndpoint : JsString) : Except JsString Nat :=
  let endpoint := trim rawEndpoint
  let separator := lastIndexOf endpoint 47
  if separator ≤ 0 ∨ separator = endpoint.length - 1 then .error (invalidEndpoint endpoint)
  else
    let address := trim (endpoint.take separator.toNat)
    match (number (trim (endpoint.drop (separator.toNat + 1)))).integer? with
    | none => .error (invalidEndpoint endpoint)
    | some port =>
      if address = [] ∨ port < 1 ∨ 65535 < port then .error (invalidEndpoint endpoint)
      else .ok port.toNat

/-- `[...new Set(ports)]`: every port once. -/
def distinct (ports : List Nat) : List Nat :=
  ports.foldl (fun found port => if port ∈ found then found else found ++ [port]) []

theorem mem_foldl_distinct {p : Nat} (ports found : List Nat) :
    p ∈ ports.foldl (fun found port => if port ∈ found then found else found ++ [port]) found ↔
      p ∈ found ∨ p ∈ ports := by
  induction ports generalizing found with
  | nil => simp
  | cons port ports ih =>
    rw [List.foldl_cons, ih, List.mem_cons]
    by_cases hmem : port ∈ found
    · rw [if_pos hmem]
      constructor
      · rintro (h | h)
        · exact .inl h
        · exact .inr (.inr h)
      · rintro (h | rfl | h)
        · exact .inl h
        · exact .inl hmem
        · exact .inr h
    · rw [if_neg hmem, List.mem_append, List.mem_singleton, or_assoc]

theorem distinct_ne_nil {ports : List Nat} (h : ports ≠ []) : distinct ports ≠ [] := by
  intro hnil
  obtain ⟨port, hport⟩ := List.exists_mem_of_ne_nil _ h
  have hmem : port ∈ distinct ports := (mem_foldl_distinct ports []).mpr (.inr hport)
  rw [hnil] at hmem
  exact List.not_mem_nil hmem

theorem nodup_foldl_distinct (ports : List Nat) {found : List Nat} (h : found.Nodup) :
    (ports.foldl (fun found port => if port ∈ found then found
      else found ++ [port]) found).Nodup := by
  induction ports generalizing found with
  | nil => exact h
  | cons port ports ih =>
    rw [List.foldl_cons]
    split
    · exact ih h
    · next hmem =>
      refine ih (List.nodup_append.mpr ⟨h, List.nodup_singleton _, ?_⟩)
      intro a ha b hb heq
      rw [List.mem_singleton.mp hb] at heq
      exact hmem (heq ▸ ha)

theorem foldl_distinct_of_nodup (ports : List Nat) {found : List Nat} (h : (found ++ ports).Nodup) :
    ports.foldl (fun found port => if port ∈ found then found else found ++ [port]) found =
      found ++ ports := by
  induction ports generalizing found with
  | nil => exact (List.append_nil found).symm
  | cons port ports ih =>
    have hmem : port ∉ found := fun hport =>
      (List.nodup_append.mp h).2.2 port hport port List.mem_cons_self rfl
    rw [List.foldl_cons, if_neg hmem, ih (by simpa using h), List.append_assoc]
    rfl

/-- Ports that are distinct stay as they are. -/
theorem distinct_distinct (ports : List Nat) : distinct (distinct ports) = distinct ports :=
  foldl_distinct_of_nodup _ (nodup_foldl_distinct ports List.nodup_nil)

/-- `extractEndpointPorts`. -/
def extractEndpointPorts (endpoints : List JsString) : Except JsString (List Nat) :=
  if endpoints = [] then .error (js "At least one root endpoint is required")
  else do
    let found ← (endpoints.flatMap fun endpointList => endpointList.splitOn 44).mapM endpointPort
    let ports := distinct found
    if ports.length = 0 ∨ 2 < ports.length then
      .error (js "ZeroTier supports at most two listener ports")
    else .ok ports

/-! ## 3. Configurations -/

structure RootNode where
  comments : JsString
  identity : JsString
  endpoints : List JsString
deriving DecidableEq

structure WorldConfig where
  rootNodes : List RootNode
  signing : List JsString
  output : JsString
  plID : Nat
  plBirth : Nat
  plRecommend : Bool
deriving DecidableEq

def maxRootNodes : Nat := 32

def maxEndpointLength : Nat := 512

def invalidRootNode (what : String) (index : Nat) : JsString :=
  js "Invalid " ++ js what ++ js " for root node " ++ decimal (index + 1)

/-- An endpoint that passes. -/
def isEndpoint (endpoint : JsValue) : Bool :=
  endpoint.isString && trim endpoint.text ≠ [] && endpoint.text.length ≤ maxEndpointLength

def parseRootNode (node : JsValue) (index : Nat) : Except JsString RootNode :=
  match node.get "identity" with
  | .string identity =>
    if trim identity = [] ∨ 16 * 1024 < identity.length then
      .error (invalidRootNode "identity" index)
    else match node.get "endpoints" with
      | .array endpoints =>
        if endpoints = [] ∨ 32 < endpoints.length ∨ endpoints.all isEndpoint = false then
          .error (invalidRootNode "endpoints" index)
        else .ok
          { comments :=
              if (node.get "comments").isString ∧ (node.get "comments").text.length ≤ 1024 then
                (node.get "comments").text
              else js "ztnet.network"
            identity := trim identity
            endpoints := endpoints.map fun endpoint => trim endpoint.text }
      | _ => .error (invalidRootNode "endpoints" index)
  | _ => .error (invalidRootNode "identity" index)

/-- A number of the planet: an integer from 0 to `bound`, 0 where there is none. -/
def planetNumber (value : JsValue) (bound : ℤ) (message : String) : Except JsString Nat :=
  match value with
  | .undefined => .ok 0
  | .number x =>
    match x.safeInteger? with
    | some n => if n < 0 ∨ bound < n then .error (js message) else .ok n.toNat
    | none => .error (js message)
  | _ => .error (js message)

def parsePlRecommend : JsValue → Except JsString Bool
  | .undefined => .ok true
  | .boolean b => .ok b
  | _ => .error (js "plRecommend must be a boolean")

/-- `parseWorldConfig`: the configuration and the port numbers. -/
def parseWorldConfig (value : JsValue) : Except JsString (WorldConfig × List Nat) :=
  match value.get "rootNodes" with
  | .array nodes =>
    if nodes = [] ∨ maxRootNodes < nodes.length then
      .error (js "mkworld.config.json must contain 1-32 root nodes")
    else do
      let rootNodes ← nodes.zipIdx.mapM fun (node, index) => parseRootNode node index
      -- every root takes part in the world, so the ports of all of them are listened to
      let portNumbers ← extractEndpointPorts (rootNodes.flatMap RootNode.endpoints)
      let plID ← planetNumber (value.get "plID") (2 ^ 32 - 1)
        "plID must be an integer from 0 to 4294967295"
      let plBirth ← planetNumber (value.get "plBirth") (2 ^ 53 - 1)
        "plBirth must be a non-negative safe integer"
      let plRecommend ← parsePlRecommend (value.get "plRecommend")
      if plRecommend = false ∧
          ((value.get "plID").isUndefined ∨ (value.get "plBirth").isUndefined) then
        .error (js "plID and plBirth are required when plRecommend is false")
      else
        .ok ({ rootNodes, signing := [js "previous.c25519", js "current.c25519"],
               output := js "planet.custom", plID, plBirth, plRecommend }, portNumbers)
  | _ => .error (js "mkworld.config.json must contain rootNodes")

/-- What `ztmkworld` unmarshals of a configuration that is written down for it. -/
def WorldConfig.unmarshalled (config : WorldConfig) : MkWorldConfig where
  signingKeyFiles := config.signing.map utf8
  outputFile := utf8 config.output
  rootNodes := config.rootNodes.map fun node =>
    ⟨utf8 node.comments, utf8 node.identity, node.endpoints.map utf8⟩
  planetID := UInt64.ofNat config.plID
  planetBirth := UInt64.ofNat config.plBirth
  planetRecommend := config.plRecommend

/-! ## 4. Configurations that are written -/

def isHexUnit (u : UInt16) : Bool := isDigitUnit u || (65 ≤ u && u ≤ 70) || (97 ≤ u && u ≤ 102)

/-- The hexadecimal digits of some bytes. -/
def HexText (s : JsString) : Prop := s.length % 2 = 0 ∧ ∀ u ∈ s, isHexUnit u = true

/-- `address:type:publicKey`, and what comes behind it. -/
def IsIdentity (identity : JsString) : Prop :=
  ∃ address type publicKey rest, identity.splitOn 58 = address :: type :: publicKey :: rest ∧
    HexText address ∧ HexText publicKey

/-- `address/port`, the port in decimal digits. -/
def IsEndpoint (endpoint : JsString) : Prop :=
  ∃ address port, endpoint.splitOn 47 = [address, port] ∧ (parseIP (utf8 address)).isSome ∧
    ∀ u ∈ port, isDigitUnit u = true

/-- A configuration that the generator writes. -/
structure Generable (value : JsValue) : Prop where
  roots : (value.get "rootNodes").elements.length ≤ ztWorldMaxRoots
  identities : ∀ node ∈ (value.get "rootNodes").elements,
    IsIdentity (trim (node.get "identity").text)
  endpoints : ∀ node ∈ (value.get "rootNodes").elements,
    ∀ endpoint ∈ (node.get "endpoints").elements, IsEndpoint (trim endpoint.text)

/-! ## 5. Identities -/

/-- A byte of ASCII is the unit that it stands for. -/
theorem toNat_toUInt8 {u : UInt16} (hu : u < 0x80) : u.toUInt8.toNat = u.toNat := by
  have hlt : u.toNat < 128 := UInt16.lt_iff_toNat_lt.mp hu
  rw [UInt16.toNat_toUInt8, Nat.mod_eq_of_lt (by omega)]

/-- A range of ASCII characters. -/
theorem between_toUInt8_iff {u : UInt16} (hu : u < 0x80) (low high : Nat) (hle : low ≤ high)
    (hhigh : high < 256) :
    (UInt8.ofNat low ≤ u.toUInt8 ∧ u.toUInt8 ≤ UInt8.ofNat high) ↔
      UInt16.ofNat low ≤ u ∧ u ≤ UInt16.ofNat high := by
  rw [UInt8.le_iff_toNat_le, UInt8.le_iff_toNat_le, UInt16.le_iff_toNat_le, UInt16.le_iff_toNat_le,
    toNat_toUInt8 hu, UInt8.toNat_ofNat', UInt8.toNat_ofNat', UInt16.toNat_ofNat',
      UInt16.toNat_ofNat',
    Nat.mod_eq_of_lt (by omega), Nat.mod_eq_of_lt (by omega), Nat.mod_eq_of_lt (by omega),
    Nat.mod_eq_of_lt (by omega)]

theorem isDigit_toUInt8 {u : UInt16} (hu : u < 0x80) :
    MkWorld.isDigit u.toUInt8 = isDigitUnit u := by
  unfold MkWorld.isDigit isDigitUnit
  rw [Bool.eq_iff_iff]
  simp only [Bool.and_eq_true, decide_eq_true_eq]
  exact between_toUInt8_iff hu 48 57 (by decide) (by decide)

theorem isHexDigit_toUInt8 {u : UInt16} (hu : u < 0x80) :
    MkWorld.isHexDigit u.toUInt8 = isHexUnit u := by
  unfold MkWorld.isHexDigit isHexUnit
  rw [Bool.eq_iff_iff, isDigit_toUInt8 hu]
  simp only [Bool.or_eq_true, Bool.and_eq_true, decide_eq_true_eq]
  exact or_congr (or_congr Iff.rfl (between_toUInt8_iff hu 65 70 (by decide) (by decide)))
    (between_toUInt8_iff hu 97 102 (by decide) (by decide))

theorem lt_of_isHexUnit {u : UInt16} (h : isHexUnit u = true) : u < 0x80 := by
  unfold isHexUnit isDigitUnit at h
  simp only [Bool.or_eq_true, Bool.and_eq_true, decide_eq_true_eq] at h
  rcases h with (⟨-, h⟩ | ⟨-, h⟩) | ⟨-, h⟩
  · exact UInt16.lt_of_le_of_lt h (by decide)
  · exact UInt16.lt_of_le_of_lt h (by decide)
  · exact UInt16.lt_of_le_of_lt h (by decide)

theorem lt_of_isHexDigit {b : UInt8} (h : MkWorld.isHexDigit b = true) : b < 0x80 := by
  unfold MkWorld.isHexDigit MkWorld.isDigit at h
  simp only [Bool.or_eq_true, Bool.and_eq_true, decide_eq_true_eq] at h
  rcases h with (⟨-, h⟩ | ⟨-, h⟩) | ⟨-, h⟩
  · exact UInt8.lt_of_le_of_lt h (by decide)
  · exact UInt8.lt_of_le_of_lt h (by decide)
  · exact UInt8.lt_of_le_of_lt h (by decide)

theorem decodeString_utf8_returns_iff {s : JsString} :
    Returns (decodeString (utf8 s)) ↔ HexText s := by
  rw [decodeString_returns_iff, forall_mem_utf8_iff fun b => lt_of_isHexDigit]
  constructor
  · rintro ⟨hlen, hascii, hhex⟩
    rw [utf8_of_isAscii hascii, latin1Bytes, List.length_map] at hlen
    exact ⟨hlen, fun u hu => isHexDigit_toUInt8 (hascii u hu) ▸ hhex u hu⟩
  · rintro ⟨hlen, hhex⟩
    have hascii : IsAscii s := fun u hu => lt_of_isHexUnit (hhex u hu)
    refine ⟨?_, hascii, fun u hu => (isHexDigit_toUInt8 (hascii u hu)).trans (hhex u hu)⟩
    rw [utf8_of_isAscii hascii, latin1Bytes, List.length_map]
    exact hlen

theorem identityFromString_utf8_returns_iff {ztn : ZtNormalNode} {identity : JsString} :
    Returns (ztn.fromString (utf8 identity) false) ↔ IsIdentity identity := by
  have hcolon : (58 : UInt16) < 0x80 := by decide
  have hsplit : (utf8 identity).splitOn 58 = (identity.splitOn 58).map utf8 :=
    splitOn_utf8 hcolon identity
  rw [identityFromString_returns_iff, hsplit]
  unfold IsIdentity
  rcases identity.splitOn 58 with _ | ⟨address, _ | ⟨type, _ | ⟨publicKey, rest⟩⟩⟩
  · simp
  · simp
  · simp
  · simp [decodeString_utf8_returns_iff]

/-! ## 6. Endpoints -/

theorem lt_of_isDigit {b : UInt8} (h : MkWorld.isDigit b = true) : b < 0x80 :=
  lt_of_isHexDigit (by simp [MkWorld.isHexDigit, h])

theorem lt_of_isDigitUnit {u : UInt16} (h : isDigitUnit u = true) : u < 0x80 :=
  lt_of_isHexUnit (by simp [isHexUnit, h])

/-- The digits of a number are the same in bytes and in units. -/
theorem ofDigits_utf8 {s : JsString} (hs : ∀ u ∈ s, isDigitUnit u = true) :
    MkWorld.ofDigits 10 (utf8 s) = ofUnits 10 s := by
  have hvalue : ∀ u ∈ s, MkWorld.digitValue u.toUInt8 = unitValue u := by
    intro u hu
    have hdigit := hs u hu
    have hascii := lt_of_isDigitUnit hdigit
    have hbyte : u.toUInt8 ≤ 57 := by
      have h := (isDigit_toUInt8 hascii).trans hdigit
      unfold MkWorld.isDigit at h
      exact of_decide_eq_true ((Bool.and_eq_true _ _).mp h).2
    unfold isDigitUnit at hdigit
    have hunit : u ≤ 57 := of_decide_eq_true ((Bool.and_eq_true _ _).mp hdigit).2
    unfold MkWorld.digitValue unitValue
    rw [if_pos hbyte, if_pos hunit, toNat_toUInt8 hascii]
  rw [utf8_of_isAscii fun u hu => lt_of_isDigitUnit (hs u hu)]
  unfold MkWorld.ofDigits ofUnits latin1Bytes
  rw [List.foldl_map]
  exact List.foldl_ext _ _ _ fun n u hu => by rw [hvalue u hu]

theorem parseUint16_utf8_returns_iff {s : JsString} :
    Returns (parseUint16 (utf8 s)) ↔
      s ≠ [] ∧ (∀ u ∈ s, isDigitUnit u = true) ∧ ofUnits 10 s < 65536 := by
  have hdigits : (∀ b ∈ utf8 s, MkWorld.isDigit b = true) ↔ ∀ u ∈ s, isDigitUnit u = true := by
    rw [forall_mem_utf8_iff fun b => lt_of_isDigit]
    constructor
    · rintro ⟨hascii, h⟩ u hu
      exact isDigit_toUInt8 (hascii u hu) ▸ h u hu
    · intro h
      have hascii : IsAscii s := fun u hu => lt_of_isDigitUnit (h u hu)
      exact ⟨hascii, fun u hu => (isDigit_toUInt8 (hascii u hu)).trans (h u hu)⟩
  rw [parseUint16_returns_iff, hdigits]
  by_cases hs : ∀ u ∈ s, isDigitUnit u = true
  · have hascii : IsAscii s := fun u hu => lt_of_isDigitUnit (hs u hu)
    have hempty : utf8 s = [] ↔ s = [] := by
      rw [utf8_of_isAscii hascii, latin1Bytes, List.map_eq_nil_iff]
    rw [ofDigits_utf8 hs, Ne, hempty]
  · exact iff_of_false (fun h => hs h.2.1) fun h => hs h.2.1

/-- The number of a port is small. -/
theorem inetAddrFromString_utf8_returns_iff {endpoint : JsString} :
    Returns (ZtNodeInetAddr.fromString (utf8 endpoint)) ↔
      ∃ address port, endpoint.splitOn 47 = [address, port] ∧ (parseIP (utf8 address)).isSome ∧
        port ≠ [] ∧ (∀ u ∈ port, isDigitUnit u = true) ∧ ofUnits 10 port < 65536 := by
  have hslash : (47 : UInt16) < 0x80 := by decide
  have hsplit : (utf8 endpoint).splitOn 47 = (endpoint.splitOn 47).map utf8 :=
    splitOn_utf8 hslash endpoint
  rw [inetAddrFromString_returns_iff, hsplit]
  rcases endpoint.splitOn 47 with _ | ⟨address, _ | ⟨port, _ | ⟨more, rest⟩⟩⟩
  · simp
  · simp
  · simp [parseUint16_utf8_returns_iff]
  · simp

/-- What a field between commas has. -/
theorem slash_mem_of_endpointPort {rawEndpoint : JsString} {p : Nat}
    (h : endpointPort rawEndpoint = .ok p) : 47 ∈ rawEndpoint := by
  by_contra hnot
  have hnone : 47 ∉ trim rawEndpoint := fun hmem => hnot (mem_of_mem_strip hmem)
  have hdrop : (trim rawEndpoint).rdropWhile (· != 47) = [] := by
    rw [List.rdropWhile_eq_nil_iff]
    intro u hu
    simpa using fun heq : u = 47 => hnone (heq ▸ hu)
  unfold endpointPort at h
  rw [if_error_ok_iff] at h
  exact h.1 (.inl (by simp [lastIndexOf, hdrop]))

/-- The two parts of an endpoint with one slash. -/
theorem eq_append_of_splitOn {endpoint address port : JsString}
    (h : endpoint.splitOn 47 = [address, port]) :
    endpoint = address ++ 47 :: port ∧ 47 ∉ address ∧ 47 ∉ port := by
  have hjoin : [47].intercalate (endpoint.splitOn 47) = endpoint := List.intercalate_splitOn 47
  have haddress : address ∈ endpoint.splitOn 47 := by simp [h]
  have hport : port ∈ endpoint.splitOn 47 := by simp [h]
  refine ⟨?_, sep_notMem_field haddress, sep_notMem_field hport⟩
  rw [h] at hjoin
  rw [← hjoin]
  simp [List.intercalate]

/-- An endpoint with one slash whose fields have a port each has no comma. -/
theorem comma_notMem {address port : JsString} (haddress : 47 ∉ address)
    (hport : ∀ u ∈ port, isDigitUnit u = true)
    (h : ∀ field ∈ (address ++ 47 :: port).splitOn 44, ∃ p, endpointPort field = .ok p) :
    44 ∉ address ++ 47 :: port := by
  intro hcomma
  have hmem : 44 ∈ address := by
    rcases List.mem_append.mp hcomma with hmem | hmem
    · exact hmem
    · rcases List.mem_cons.mp hmem with heq | hmem
      · cases heq
      · exact absurd (hport 44 hmem) (by decide)
  obtain ⟨before, behind, rfl⟩ := List.append_of_mem hmem
  -- the first field is a part of the address
  rw [List.append_assoc, List.cons_append] at h
  have hfirst : ((before ++ 44 :: (behind ++ 47 :: port)).splitOn 44).head? =
      some ((before ++ 44 :: (behind ++ 47 :: port)).takeWhile (· ≠ 44)) := head?_splitOn _
  rw [takeWhile_append_cons (by simp)] at hfirst
  obtain ⟨p, hp⟩ := h _ (List.mem_of_mem_head? hfirst)
  have hslash := slash_mem_of_endpointPort hp
  exact haddress (List.mem_append_left _ ((List.takeWhile_sublist _).subset hslash))

/-- **The port of an endpoint with one slash** is a small number. -/
theorem port_of_endpointPort {endpoint address port : JsString} (htrim : trim endpoint = endpoint)
    (hfields : ∀ field ∈ endpoint.splitOn 44, ∃ p, endpointPort field = .ok p)
    (hsplit : endpoint.splitOn 47 = [address, port]) (hdigits : ∀ u ∈ port, isDigitUnit u = true) :
    port ≠ [] ∧ ofUnits 10 port < 65536 := by
  obtain ⟨rfl, haddress, hport⟩ := eq_append_of_splitOn hsplit
  rw [List.splitOn_eq_singleton (comma_notMem haddress hdigits hfields)] at hfields
  obtain ⟨p, hp⟩ := hfields _ (List.mem_singleton_self _)
  have hlast : (address ++ 47 :: port).rdropWhile (· != 47) = address ++ [47] := by
    have hnone : port.rdropWhile (· != 47) = [] := by
      rw [List.rdropWhile_eq_nil_iff]
      intro u hu
      simpa using fun heq : u = 47 => hport (heq ▸ hu)
    rw [rdropWhile_append_cons (by simp), hnone]
  have hseparator : lastIndexOf (address ++ 47 :: port) 47 = address.length := by
    simp [lastIndexOf, hlast]
  have hbehind : (address ++ 47 :: port).drop (address.length + 1) = port := by
    simp [List.drop_append]
  have htrimport : trim port = port :=
    strip_eq_self fun u hu => (not_special_of_isDigitUnit (hdigits u hu)).1
  unfold endpointPort at hp
  simp only [htrim, hseparator, Int.toNat_natCast, hbehind, htrimport] at hp
  obtain ⟨hbounds, hp⟩ := if_error_ok_iff.mp hp
  have hne : port ≠ [] := by
    rintro rfl
    exact hbounds (.inr (by simp))
  refine ⟨hne, ?_⟩
  split at hp
  · cases hp
  · next n hn =>
    obtain ⟨hrange, -⟩ := if_error_ok_iff.mp hp
    have hlt : n < 2 ^ 16 := by
      have h := not_or.mp (not_or.mp hrange).2
      norm_num
      omega
    exact ofUnits_lt_of_number hne hdigits hn hlt

/-! ## 7. What is accepted -/

/-- A root of an accepted configuration. -/
structure RootNode.Of (node : JsValue) (root : RootNode) : Prop where
  identity : root.identity = trim (node.get "identity").text
  endpoints : root.endpoints = (node.get "endpoints").elements.map fun endpoint =>
    trim endpoint.text
  bound : root.endpoints.length ≤ ztWorldMaxStableEndpointsPerRoot

theorem parseRootNode_ok {node : JsValue} {index : Nat} {root : RootNode}
    (h : parseRootNode node index = .ok root) : RootNode.Of node root := by
  unfold parseRootNode at h
  split at h
  · next identity hidentity =>
    obtain ⟨-, h⟩ := if_error_ok_iff.mp h
    split at h
    · next endpoints hendpoints =>
      obtain ⟨hbounds, h⟩ := if_error_ok_iff.mp h
      obtain rfl := Except.ok.inj h
      refine ⟨by rw [hidentity]; rfl, by rw [hendpoints]; rfl, ?_⟩
      rw [List.length_map]
      exact Nat.not_lt.mp fun hmany => hbounds (.inr (.inl hmany))
    · cases h
  · cases h

/-- Every field of an endpoint whose ports are extracted has a port. -/
theorem endpointPort_of_extract {endpoints : List JsString} {ports : List Nat}
    (h : extractEndpointPorts endpoints = .ok ports) {endpoint : JsString}
    (hendpoint : endpoint ∈ endpoints) :
    ∀ field ∈ endpoint.splitOn 44, ∃ p, endpointPort field = .ok p := by
  intro field hfield
  unfold extractEndpointPorts at h
  obtain ⟨-, h⟩ := if_error_ok_iff.mp h
  obtain ⟨found, hfound, -⟩ := bind_ok_iff.mp h
  exact returns_mapM_iff.mp ⟨found, hfound⟩ field
    (List.mem_flatMap.mpr ⟨endpoint, hendpoint, hfield⟩)

/-- An accepted configuration. -/
structure Accepted (value : JsValue) (config : WorldConfig) : Prop where
  signing : config.signing.length = 2
  roots : List.Forall₂ RootNode.Of (value.get "rootNodes").elements config.rootNodes
  ports : ∀ root ∈ config.rootNodes, ∀ endpoint ∈ root.endpoints,
    ∀ field ∈ endpoint.splitOn 44, ∃ p, endpointPort field = .ok p

theorem accepted_of_parseWorldConfig {value : JsValue} {config : WorldConfig} {ports : List Nat}
    (h : parseWorldConfig value = .ok (config, ports)) : Accepted value config := by
  unfold parseWorldConfig at h
  split at h
  · next nodes hnodes =>
    obtain ⟨-, h⟩ := if_error_ok_iff.mp h
    obtain ⟨rootNodes, hroots, h⟩ := bind_ok_iff.mp h
    obtain ⟨portNumbers, hports, h⟩ := bind_ok_iff.mp h
    obtain ⟨plID, -, h⟩ := bind_ok_iff.mp h
    obtain ⟨plBirth, -, h⟩ := bind_ok_iff.mp h
    obtain ⟨plRecommend, -, h⟩ := bind_ok_iff.mp h
    obtain ⟨-, h⟩ := if_error_ok_iff.mp h
    cases h
    refine ⟨rfl, ?_, fun root hroot endpoint hendpoint =>
      endpointPort_of_extract hports (List.mem_flatMap.mpr ⟨root, hroot, hendpoint⟩)⟩
    rw [hnodes, show (JsValue.array nodes).elements = nodes.zipIdx.map Prod.fst from
      (List.zipIdx_map_fst 0 nodes).symm, List.forall₂_map_left_iff]
    exact (mapM_ok_iff.mp hroots).imp fun _ _ hroot => parseRootNode_ok hroot
  · cases h

/-- The ports of an accepted configuration are those of its endpoints. -/
theorem ports_of_parseWorldConfig {value : JsValue} {config : WorldConfig} {ports : List Nat}
    (h : parseWorldConfig value = .ok (config, ports)) :
    extractEndpointPorts (config.rootNodes.flatMap RootNode.endpoints) = .ok ports := by
  unfold parseWorldConfig at h
  split at h
  · obtain ⟨-, h⟩ := if_error_ok_iff.mp h
    obtain ⟨rootNodes, -, h⟩ := bind_ok_iff.mp h
    obtain ⟨portNumbers, hports, h⟩ := bind_ok_iff.mp h
    obtain ⟨plID, -, h⟩ := bind_ok_iff.mp h
    obtain ⟨plBirth, -, h⟩ := bind_ok_iff.mp h
    obtain ⟨plRecommend, -, h⟩ := bind_ok_iff.mp h
    obtain ⟨-, h⟩ := if_error_ok_iff.mp h
    cases h
    exact hports
  · cases h

/-- An accepted endpoint is read by the generator if it is one. -/
theorem Accepted.endpoint_iff {value : JsValue} {config : WorldConfig} (h : Accepted value config)
    {root : RootNode} (hroot : root ∈ config.rootNodes) {endpoint : JsString}
    (hendpoint : endpoint ∈ root.endpoints) (htrim : trim endpoint = endpoint) :
    Returns (ZtNodeInetAddr.fromString (utf8 endpoint)) ↔ IsEndpoint endpoint := by
  rw [inetAddrFromString_utf8_returns_iff]
  constructor
  · rintro ⟨address, port, hsplit, hip, -, hdigits, -⟩
    exact ⟨address, port, hsplit, hip, hdigits⟩
  · rintro ⟨address, port, hsplit, hip, hdigits⟩
    obtain ⟨hne, hlt⟩ :=
      port_of_endpointPort htrim (h.ports root hroot endpoint hendpoint) hsplit hdigits
    exact ⟨address, port, hsplit, hip, hne, hdigits, hlt⟩

theorem Accepted.within_iff {value : JsValue} {config : WorldConfig} (h : Accepted value config) :
    config.unmarshalled.Within ↔ (value.get "rootNodes").elements.length ≤ ztWorldMaxRoots := by
  have hlen : config.unmarshalled.rootNodes.length = (value.get "rootNodes").elements.length := by
    rw [h.roots.length_eq]
    exact List.length_map _
  refine ⟨fun hwithin => hlen ▸ hwithin.roots, fun hroots => ⟨?_, hlen ▸ hroots, ?_⟩⟩
  · exact (List.length_map _).trans h.signing
  · intro v hv
    obtain ⟨root, hroot, rfl⟩ := List.mem_map.mp hv
    obtain ⟨node, -, hof⟩ := exists_of_forall₂ h.roots root hroot
    exact (List.length_map _).trans_le hof.bound

/-- The texts of a root are read if they are those of an identity and of endpoints. -/
theorem Accepted.root_iff {value : JsValue} {config : WorldConfig} (h : Accepted value config)
    {node : JsValue} {root : RootNode} (hroot : root ∈ config.rootNodes)
    (hof : RootNode.Of node root) :
    Returns (buildPlanetNode ⟨utf8 root.comments, utf8 root.identity, root.endpoints.map utf8⟩) ↔
      IsIdentity (trim (node.get "identity").text) ∧
        ∀ endpoint ∈ (node.get "endpoints").elements, IsEndpoint (trim endpoint.text) := by
  rw [buildPlanetNode_returns_iff, identityFromString_utf8_returns_iff, hof.identity,
    List.forall_mem_map]
  refine and_congr Iff.rfl ?_
  have hread : (∀ endpoint ∈ root.endpoints, Returns (ZtNodeInetAddr.fromString (utf8 endpoint))) ↔
      ∀ endpoint ∈ root.endpoints, IsEndpoint endpoint := by
    refine forall₂_congr fun endpoint hendpoint => ?_
    have hmem := hendpoint
    rw [hof.endpoints] at hmem
    obtain ⟨raw, -, rfl⟩ := List.mem_map.mp hmem
    exact h.endpoint_iff hroot hendpoint (strip_strip _)
  rw [hread, hof.endpoints, List.forall_mem_map]

/-- **Web validation and generator.**  The generator writes the planet of an accepted configuration
if and only if this has no more than four roots, every identity has a third field and hexadecimal
texts in its first and its third one, and every endpoint is one address, a slash and decimal digits.
-/
theorem generate_returns_iff_generable (host : MkWorld.Host) {value : JsValue}
    {config : WorldConfig}
    {ports : List Nat} (h : parseWorldConfig value = .ok (config, ports)) :
    Returns (generate host config.unmarshalled) ↔ Generable value := by
  have hacc := accepted_of_parseWorldConfig h
  have hroots : (∀ v ∈ config.unmarshalled.rootNodes, Returns (buildPlanetNode v)) ↔
      ∀ node ∈ (value.get "rootNodes").elements, IsIdentity (trim (node.get "identity").text) ∧
        ∀ endpoint ∈ (node.get "endpoints").elements, IsEndpoint (trim endpoint.text) := by
    unfold WorldConfig.unmarshalled
    rw [List.forall_mem_map]
    exact (forall_mem_iff_of_forall₂ hacc.roots fun node root hroot hof =>
      (hacc.root_iff hroot hof).symm).symm
  rw [generate_returns_iff, hacc.within_iff, hroots]
  constructor
  · rintro ⟨hlen, htexts⟩
    exact ⟨hlen, fun node hnode => (htexts node hnode).1, fun node hnode => (htexts node hnode).2⟩
  · intro hgen
    exact ⟨hgen.roots, fun node hnode => ⟨hgen.identities node hnode, hgen.endpoints node hnode⟩⟩

/-! ## 8. Examples -/

/-- A configuration of roots, each with its identity and its endpoints. -/
def worldOf (roots : List (String × List String)) : JsValue :=
  .object [(js "rootNodes", .array (roots.map fun root => .object
    [(js "identity", .string (js root.1)),
     (js "endpoints", .array (root.2.map fun endpoint => .string (js endpoint)))]))]

def rootIdentity : String :=
  "992fcf1db7:0:206ed59350b31916f749a1f85dffb3a8787dcbf83b8c6e9448d4e3ea0e33693" ++
    "01be716c3609344a9d1533850fb4460c50af43322bcfc8e13d3301a1f1003ceb6"

/-- The hexadecimal digits of a number. -/
def hexUnits (n : Nat) : JsString := (Nat.toDigits 16 n).map fun c => UInt16.ofNat c.toNat

/-- The identity as numbers: evaluating a long literal takes seconds, so it is done once, here. -/
theorem js_rootIdentity : js rootIdentity = hexUnits 0x992fcf1db7 ++ js ":0:" ++
    hexUnits (0x206ed59350b31916f749a1f85dffb3a8787dcbf83b8c6e9448d4e3ea0e33693 <<< 260 |||
      0x01be716c3609344a9d1533850fb4460c50af43322bcfc8e13d3301a1f1003ceb6) := by
  unfold rootIdentity
  rw [js_append]
  decide +kernel

def plainRoot : String × List String :=
  (rootIdentity, ["195.181.173.159/443", "2a02:6ea0:c024::/443"])

def generatorHost : MkWorld.Host where
  prevkp := ⟨Vector.replicate 64 1, Vector.replicate 64 2⟩
  curkp := ⟨Vector.replicate 64 1, Vector.replicate 64 2⟩
  uint32 := 7
  unixMilli := 1767225600000
  signMessage := fun _ _ => Vector.replicate 96 3

def generatedConfig : WorldConfig where
  rootNodes := [⟨js "ztnet.network", js rootIdentity,
    [js "195.181.173.159/443", js "2a02:6ea0:c024::/443"]⟩]
  signing := [js "previous.c25519", js "current.c25519"]
  output := js "planet.custom"
  plID := 0
  plBirth := 0
  plRecommend := true

theorem generate_returns_iff_generable_example :
    Returns (generate generatorHost generatedConfig.unmarshalled) ∧
      Generable (worldOf [plainRoot]) := by
  have haccepted : parseWorldConfig (worldOf [plainRoot]) = .ok (generatedConfig, [443]) := by
    unfold worldOf plainRoot generatedConfig
    simp only [List.map_cons, List.map_nil, js_rootIdentity]
    decide +kernel
  have hreturns : Returns (generate generatorHost generatedConfig.unmarshalled) := by
    unfold generatedConfig WorldConfig.unmarshalled
    simp only [List.map_cons, List.map_nil, js_rootIdentity]
    decide +kernel
  exact ⟨hreturns, (generate_returns_iff_generable generatorHost haccepted).mp hreturns⟩

/-- **Accepted, and not written**: an endpoint with two addresses, five roots, and an identity that
is none. -/
theorem accepted_not_generated :
    (parseWorldConfig (worldOf
        [(rootIdentity, ["198.51.100.10/9993,198.51.100.10/19993"])])).map
        (fun accepted => generate generatorHost accepted.1.unmarshalled) =
      .ok (.error .errInvalidData) ∧
    (parseWorldConfig (worldOf (List.replicate 5 plainRoot))).map
        (fun accepted => generate generatorHost accepted.1.unmarshalled) =
      .ok (.error .errPreflightCheckFailed) ∧
    (parseWorldConfig (worldOf [("root", ["198.51.100.10/9993"])])).map
        (fun accepted => generate generatorHost accepted.1.unmarshalled) =
      .ok (.error .errInvalidData) := by
  unfold worldOf plainRoot
  simp only [List.replicate, List.map_cons, List.map_nil, js_rootIdentity]
  decide +kernel

end ZtPlanet.Ztnet
