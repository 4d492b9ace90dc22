/-
# The generator

`ztmkworld` reads a configuration, checks it (`preflight`), reads the identity and the endpoints of
every root (`buildPlanetNodeFromConfig`), signs the world and writes it.

What a configuration needs to be written is read off here: `generate_returns_iff` for the program,
and for the texts `identityFromString_returns_iff` and `inetAddrFromString_returns_iff`.
-/
import ZtPlanet.Lib.Except
import ZtPlanet.Lib.Fields
import ZtPlanet.MkWorld.World

namespace ZtPlanet.MkWorld

open ZtPlanet.Lib

/-! ## 1. Texts

A string is its bytes. -/

inductive GeneratorError where
  | errPreflightCheckFailed
  | errInvalidData
  /-- an error of `hex.DecodeString` -/
  | invalidHex
  /-- an error of `strconv.ParseUint` -/
  | numError
  /-- the runtime panics -/
  | indexOutOfRange
  | serialize (e : SerializeError)
deriving DecidableEq

def isDigit (b : UInt8) : Bool := 48 ≤ b && b ≤ 57

def isHexDigit (b : UInt8) : Bool := isDigit b || (65 ≤ b && b ≤ 70) || (97 ≤ b && b ≤ 102)

def digitValue (b : UInt8) : Nat :=
  if b ≤ 57 then b.toNat - 48 else if b ≤ 70 then b.toNat - 55 else b.toNat - 87

def ofDigits (base : Nat) (s : Bytes) : Nat := s.foldl (fun n b => n * base + digitValue b) 0

/-- `hex.DecodeString`. -/
def decodeString : Bytes → Except GeneratorError Bytes
  | [] => .ok []
  | a :: b :: rest =>
    if isHexDigit a ∧ isHexDigit b then
      (decodeString rest).map fun decoded =>
        UInt8.ofNat (digitValue a * 16 + digitValue b) :: decoded
    else .error .invalidHex
  | [_] => .error .invalidHex

/-- `strconv.ParseUint(s, 10, 16)`. -/
def parseUint16 (s : Bytes) : Except GeneratorError UInt16 :=
  if s = [] ∨ s.all isDigit = false then .error .numError
  else if 65536 ≤ ofDigits 10 s then .error .numError
  else .ok (UInt16.ofNat (ofDigits 10 s))

/-- A field of an IPv4 address: no leading zero, at most 255. -/
def parseIPv4Field (s : Bytes) : Option UInt8 :=
  if s = [] ∨ s.all isDigit = false then none
  else if s.head? = some 48 ∧ s.length ≠ 1 then none
  else if 255 < ofDigits 10 s then none
  else some (UInt8.ofNat (ofDigits 10 s))

/-- `netip.parseIPv4Fields`. -/
def parseIPv4Fields (s : Bytes) : Option Bytes :=
  match (s.splitOn 46).mapM parseIPv4Field with
  | some [a, b, c, d] => some [a, b, c, d]
  | _ => none

/-- The loop of `netip.parseIPv6`: the bytes so far, and where `::` stands among them; it returns
what it has not read, too. -/
def parseIPv6Groups : Nat → Bytes → Bytes → Option Nat → Option (Bytes × Bytes × Option Nat)
  | 0, s, ip, ellipsis => some (s, ip, ellipsis)
  | room + 1, s, ip, ellipsis =>
    let digits := s.takeWhile isHexDigit
    let behind := s.dropWhile isHexDigit
    if digits = [] ∨ 4 < digits.length then none
    -- an embedded IPv4 address ends the text
    else if behind.head? = some 46 then
      if (ellipsis = none ∧ ip.length ≠ 12) ∨ 16 < ip.length + 4 then none
      else (parseIPv4Fields s).map fun fields => ([], ip ++ fields, ellipsis)
    else
      let ip := ip ++ bigEndian16 (UInt16.ofNat (ofDigits 16 digits))
      match behind with
      | [] => some ([], ip, ellipsis)
      | [_] => none
      | colon :: next :: rest =>
        if colon ≠ 58 then none
        else if next ≠ 58 then parseIPv6Groups room (next :: rest) ip ellipsis
        else if ellipsis.isSome then none
        else if rest = [] then some ([], ip, some ip.length)
        else parseIPv6Groups room rest ip (some ip.length)

/-- `netip.parseIPv6`, of a text without a zone. -/
def parseIPv6 (s : Bytes) : Option Bytes :=
  let leading := s.take 2 = [58, 58]
  let rest := if leading then s.drop 2 else s
  let groups :=
    if leading ∧ rest = [] then some ([], [], some 0)
    else parseIPv6Groups 8 rest [] (if leading then some 0 else none)
  match groups with
  | some ([], ip, ellipsis) =>
    if ip.length < 16 then
      ellipsis.map fun i => ip.take i ++ List.replicate (16 - ip.length) 0 ++ ip.drop i
    else if ellipsis.isSome then none
    else some ip
  | _ => none

/-- `net.ParseIP`; an address with a zone is none. -/
def parseIP (s : Bytes) : Option Bytes :=
  if 37 ∈ s then none
  else match s.find? fun b => b = 46 ∨ b = 58 with
    | some 46 => (parseIPv4Fields s).map fun ip => List.replicate 10 0 ++ [0xff, 0xff] ++ ip
    | some 58 => parseIPv6 s
    | _ => none

/-! ## 2. Identities and endpoints -/

/-- `fields[i]`. -/
def index (fields : List Bytes) (i : Nat) : Except GeneratorError Bytes :=
  match fields[i]? with
  | some field => .ok field
  | none => .error .indexOutOfRange

/-- `copy(dst[:], src)`. -/
def copyTo {n : Nat} (dst : Vector UInt8 n) (src : Bytes) : Vector UInt8 n :=
  Vector.ofFn fun i => src.getD i dst[i]

/-- `ZtNormalNode.FromString`. -/
def ZtNormalNode.fromString (ztn : ZtNormalNode) (data : Bytes) (hasPrivateKey : Bool) :
    Except GeneratorError ZtNormalNode :=
  let tmpDt := data.splitOn 58
  if tmpDt.length ≠ 3 ∧ hasPrivateKey then .error .errInvalidData
  else if tmpDt.length < 2 then .error .errInvalidData
  else do
    let privateKey ←
      if hasPrivateKey then do
        let tmpPrivk ← decodeString (← index tmpDt 2)
        pure (copyTo ztn.privateKey tmpPrivk)
      else pure ztn.privateKey
    let tmpAddr ← decodeString (← index tmpDt 0)
    let tmpPubk ← decodeString (← index tmpDt 2)
    pure ⟨copyTo ztn.ztNodeAddress tmpAddr, copyTo ztn.publicKey tmpPubk, privateKey⟩

/-- `ZtNodeInetAddr.FromString`. -/
def ZtNodeInetAddr.fromString (ipport : Bytes) : Except GeneratorError ZtNodeInetAddr :=
  let tIpPort := ipport.splitOn 47
  if tIpPort.length ≠ 2 then .error .errInvalidData
  else do
    let tPort ← parseUint16 (← index tIpPort 1)
    match parseIP (← index tIpPort 0) with
    | some tIp => pure ⟨tIp, tPort⟩
    | none => .error .errInvalidData

/-! ## 3. The program -/

structure MkWorldNode where
  comments : Bytes
  identityStr : Bytes
  endpoints : List Bytes
deriving DecidableEq

structure MkWorldConfig where
  signingKeyFiles : List Bytes
  outputFile : Bytes
  rootNodes : List MkWorldNode
  planetID : UInt64
  planetBirth : UInt64
  planetRecommend : Bool
deriving DecidableEq

def ztWorldIdEarth : UInt64 := 149604618

def ztWorldIdMars : UInt64 := 227883110

/-- What `Preflight` answers. -/
inductive PreflightError where
  | errPreflightCheckFailed
  | errUseRecommendValue
deriving DecidableEq

/-- `Preflight`, of a configuration that it has unmarshalled. -/
def preflight (mConf : MkWorldConfig) : Except PreflightError Unit :=
  if mConf.signingKeyFiles.length ≠ 2 then .error .errPreflightCheckFailed
  else if mConf.rootNodes.length > ztWorldMaxRoots then .error .errPreflightCheckFailed
  else if mConf.rootNodes.any fun v => v.endpoints.length > ztWorldMaxStableEndpointsPerRoot then
    .error .errPreflightCheckFailed
  else if mConf.planetID = ztWorldIdEarth ∨ mConf.planetID = ztWorldIdMars ∨
      mConf.planetBirth = 1567191349589 then .error .errUseRecommendValue
  else if mConf.planetBirth ≤ 1567191349589 then .error .errUseRecommendValue
  else .ok ()

/-- A node that nothing has been read into. -/
def ZtNormalNode.zero : ZtNormalNode where
  ztNodeAddress := Vector.replicate 5 0
  publicKey := Vector.replicate ztC25519PublicKeyLen 0
  privateKey := Vector.replicate ztC25519PrivateKeyLen 0

/-- A root of `buildPlanetNodeFromConfig`. -/
def buildPlanetNode (v : MkWorldNode) : Except GeneratorError ZtWorldPlanetNode := do
  let n1id ← ZtNormalNode.zero.fromString v.identityStr false
  let n1ep ← v.endpoints.mapM ZtNodeInetAddr.fromString
  pure ⟨n1id, n1ep⟩

def buildPlanetNodeFromConfig (mConf : MkWorldConfig) :
    Except GeneratorError (List ZtWorldPlanetNode) := mConf.rootNodes.mapM buildPlanetNode

/-- A signing key: its public and its private half. -/
structure KeyPair where
  pub : Vector UInt8 ztC25519PublicKeyLen
  priv : Vector UInt8 ztC25519PrivateKeyLen

/-- What the generator takes from its host: the pair of signing keys that it has read or generated,
a random number, the time, and the signature. -/
structure Host where
  prevkp : KeyPair
  curkp : KeyPair
  uint32 : UInt32
  unixMilli : UInt64
  signMessage : KeyPair → Bytes → Signature

/-- `main` behind its checks, up to the file that it writes: its name and its bytes. -/
def writeWorld (host : Host) (mConf : MkWorldConfig) : Except GeneratorError (Bytes × Bytes) := do
  let nodes ← buildPlanetNodeFromConfig mConf
  let ztW : ZtWorld :=
    { type := ztWorldTypePlanet, id := mConf.planetID, timestamp := mConf.planetBirth,
      publicKeyMustBeSignedByNextTime := host.curkp.pub, nodes }
  let finalWorld ← (mkworld (host.signMessage host.prevkp) ztW).mapError .serialize
  pure (mConf.outputFile, finalWorld)

/-- `main`. -/
def generate (host : Host) (mConf : MkWorldConfig) : Except GeneratorError (Bytes × Bytes) :=
  match preflight mConf with
  | .ok () => writeWorld host mConf
  | .error .errPreflightCheckFailed => .error .errPreflightCheckFailed
  -- a warning; the recommended values replace those of the configuration
  | .error .errUseRecommendValue =>
    if mConf.planetRecommend then
      writeWorld host
        { mConf with planetID := host.uint32.toUInt64, planetBirth := host.unixMilli }
    else writeWorld host mConf

/-! ## 4. What the texts need -/

theorem decodeString_returns_iff : ∀ {s : Bytes},
    Returns (decodeString s) ↔ s.length % 2 = 0 ∧ ∀ b ∈ s, isHexDigit b = true
  | [] => by simp [decodeString, returns_ok]
  | [a] => by simp [decodeString, not_returns_error]
  | a :: b :: rest => by
    have hlen : (a :: b :: rest).length % 2 = rest.length % 2 := by
      simp only [List.length_cons]
      omega
    rw [decodeString, hlen, List.forall_mem_cons, List.forall_mem_cons]
    by_cases hhex : isHexDigit a = true ∧ isHexDigit b = true
    · rw [if_pos hhex, returns_map_iff, decodeString_returns_iff]
      exact ⟨fun h => ⟨h.1, hhex.1, hhex.2, h.2⟩, fun h => ⟨h.1, h.2.2.2⟩⟩
    · rw [if_neg hhex]
      exact iff_of_false (not_returns_error _) fun h => hhex ⟨h.2.1, h.2.2.1⟩

theorem parseUint16_returns_iff {s : Bytes} :
    Returns (parseUint16 s) ↔
      s ≠ [] ∧ (∀ b ∈ s, isDigit b = true) ∧ ofDigits 10 s < 65536 := by
  unfold parseUint16
  rw [returns_if_error_iff, returns_if_error_iff, not_or, Bool.not_eq_false, List.all_eq_true,
    Nat.not_le, and_iff_left (returns_ok _), and_assoc]

/-- **An identity is read** if it has a third field, and its first and its third field are
hexadecimal. -/
theorem identityFromString_returns_iff {ztn : ZtNormalNode} {data : Bytes} :
    Returns (ztn.fromString data false) ↔
      ∃ address type publicKey rest, data.splitOn 58 = address :: type :: publicKey :: rest ∧
        Returns (decodeString address) ∧ Returns (decodeString publicKey) := by
  unfold ZtNormalNode.fromString
  rcases data.splitOn 58 with _ | ⟨address, _ | ⟨type, _ | ⟨publicKey, rest⟩⟩⟩
  · simp [not_returns_error]
  · simp [not_returns_error]
  · simp [index, returns_bind_iff]
  · rw [if_neg fun h => Bool.false_ne_true h.2, if_neg (by simp)]
    change Returns (do
      let tmpAddr ← decodeString address
      let tmpPubk ← decodeString publicKey
      Except.ok (⟨copyTo ztn.ztNodeAddress tmpAddr, copyTo ztn.publicKey tmpPubk, ztn.privateKey⟩ :
        ZtNormalNode)) ↔ _
    constructor
    · intro h
      obtain ⟨tmpAddr, haddress, h⟩ := returns_bind_iff.mp h
      obtain ⟨tmpPubk, hpublicKey, -⟩ := returns_bind_iff.mp h
      exact ⟨address, type, publicKey, rest, rfl, ⟨tmpAddr, haddress⟩, tmpPubk, hpublicKey⟩
    · rintro ⟨_, _, _, _, hfields, haddress, hpublicKey⟩
      cases hfields
      obtain ⟨tmpAddr, haddress⟩ := haddress
      obtain ⟨tmpPubk, hpublicKey⟩ := hpublicKey
      exact returns_bind_iff.mpr ⟨tmpAddr, haddress, returns_bind_iff.mpr ⟨tmpPubk, hpublicKey,
        returns_ok _⟩⟩

/-- **An endpoint is read** if it is an address and a port with one slash between them. -/
theorem inetAddrFromString_returns_iff {ipport : Bytes} :
    Returns (ZtNodeInetAddr.fromString ipport) ↔
      ∃ address port, ipport.splitOn 47 = [address, port] ∧ (parseIP address).isSome ∧
        Returns (parseUint16 port) := by
  unfold ZtNodeInetAddr.fromString
  rcases ipport.splitOn 47 with _ | ⟨address, _ | ⟨port, _ | ⟨more, rest⟩⟩⟩
  · simp [not_returns_error]
  · simp [not_returns_error]
  · rw [if_neg (by simp)]
    change Returns (do
      let tPort ← parseUint16 port
      match parseIP address with
      | some tIp => Except.ok (⟨tIp, tPort⟩ : ZtNodeInetAddr)
      | none => .error .errInvalidData) ↔ _
    rw [returns_bind_iff]
    cases hip : parseIP address with
    | none =>
      refine iff_of_false ?_ ?_
      · rintro ⟨_, -, h⟩
        exact not_returns_error _ h
      · rintro ⟨_, _, hfields, hsome, -⟩
        cases hfields
        rw [hip] at hsome
        cases hsome
    | some tIp =>
      constructor
      · rintro ⟨tPort, hport, -⟩
        exact ⟨address, port, rfl, hip ▸ rfl, tPort, hport⟩
      · rintro ⟨_, _, hfields, -, tPort, hport⟩
        cases hfields
        exact ⟨tPort, hport, returns_ok _⟩
  · simp [not_returns_error]

/-! ## 5. What the program needs -/

/-- A configuration within the limits. -/
structure MkWorldConfig.Within (mConf : MkWorldConfig) : Prop where
  signing : mConf.signingKeyFiles.length = 2
  roots : mConf.rootNodes.length ≤ ztWorldMaxRoots
  endpoints : ∀ v ∈ mConf.rootNodes, v.endpoints.length ≤ ztWorldMaxStableEndpointsPerRoot

theorem preflight_ne_failed_iff {mConf : MkWorldConfig} :
    preflight mConf ≠ .error .errPreflightCheckFailed ↔ mConf.Within := by
  unfold preflight
  constructor
  · intro h
    by_contra hnot
    refine h ?_
    split
    · rfl
    · next hsigning =>
      split
      · rfl
      · next hroots =>
        split
        · rfl
        · next hendpoints =>
          refine absurd ⟨not_not.mp hsigning, Nat.not_lt.mp hroots, fun v hv => ?_⟩ hnot
          exact Nat.not_lt.mp fun hmany =>
            hendpoints (List.any_eq_true.mpr ⟨v, hv, by simpa using hmany⟩)
  · intro h
    have hany : (mConf.rootNodes.any fun v =>
        v.endpoints.length > ztWorldMaxStableEndpointsPerRoot) = false :=
      List.any_eq_false.mpr fun v hv => by simpa using h.endpoints v hv
    rw [if_neg (not_not.mpr h.signing), if_neg (Nat.not_lt.mpr h.roots), hany, if_neg (by simp)]
    split
    · simp
    · split <;> simp

theorem buildPlanetNode_ok {v : MkWorldNode} {n : ZtWorldPlanetNode}
    (h : buildPlanetNode v = .ok n) :
    n.endpoints.length = v.endpoints.length := by
  obtain ⟨n1id, -, h⟩ := bind_ok_iff.mp h
  obtain ⟨n1ep, hep, h⟩ := bind_ok_iff.mp h
  obtain rfl := Except.ok.inj h
  exact (mapM_ok_iff.mp hep).length_eq.symm

theorem buildPlanetNode_returns_iff {v : MkWorldNode} :
    Returns (buildPlanetNode v) ↔
      Returns (ZtNormalNode.zero.fromString v.identityStr false) ∧
        ∀ e ∈ v.endpoints, Returns (ZtNodeInetAddr.fromString e) := by
  unfold buildPlanetNode
  rw [returns_bind_iff, ← returns_mapM_iff]
  constructor
  · rintro ⟨n1id, hid, h⟩
    obtain ⟨n1ep, hep, -⟩ := returns_bind_iff.mp h
    exact ⟨⟨n1id, hid⟩, n1ep, hep⟩
  · rintro ⟨⟨n1id, hid⟩, n1ep, hep⟩
    exact ⟨n1id, hid, returns_bind_iff.mpr ⟨n1ep, hep, returns_ok _⟩⟩

/-- The roots that are built have room in a world. -/
theorem MkWorldConfig.Within.fits {mConf : MkWorldConfig} (h : mConf.Within)
    {ztW : ZtWorld} (hnodes : buildPlanetNodeFromConfig mConf = .ok ztW.nodes) : ztW.Fits := by
  constructor
  · rw [← (mapM_ok_iff.mp hnodes).length_eq]
    exact h.roots
  · intro n hn
    obtain ⟨v, hv, hbuild⟩ := exists_of_mapM_ok hnodes n hn
    rw [buildPlanetNode_ok hbuild]
    exact h.endpoints v hv

theorem mkworld_returns {signMessage : Bytes → Signature} {ztW : ZtWorld} (h : ztW.Fits) :
    Returns (mkworld signMessage ztW) := by
  unfold mkworld
  rw [serialize_eq h]
  exact ⟨_, serialize_eq h false _⟩

/-- Within the limits, only the texts can be refused. -/
theorem writeWorld_returns_iff (host : Host) {mConf : MkWorldConfig} (h : mConf.Within) :
    Returns (writeWorld host mConf) ↔ ∀ v ∈ mConf.rootNodes, Returns (buildPlanetNode v) := by
  rw [← returns_mapM_iff]
  unfold writeWorld
  constructor
  · intro hreturns
    obtain ⟨nodes, hnodes, -⟩ := returns_bind_iff.mp hreturns
    exact ⟨nodes, hnodes⟩
  · rintro ⟨nodes, hnodes⟩
    have hfits : (⟨ztWorldTypePlanet, mConf.planetID, mConf.planetBirth, host.curkp.pub, nodes⟩ :
        ZtWorld).Fits := h.fits hnodes
    refine returns_bind_iff.mpr ⟨nodes, hnodes, ?_⟩
    obtain ⟨finalWorld, hworld⟩ := returns_mapError_iff.mpr (mkworld_returns hfits)
    exact returns_bind_iff.mpr ⟨finalWorld, hworld, returns_ok _⟩

/-- **What a configuration needs to be written**: it is within the limits, and its texts are read.
-/
theorem generate_returns_iff {host : Host} {mConf : MkWorldConfig} :
    Returns (generate host mConf) ↔
      mConf.Within ∧ ∀ v ∈ mConf.rootNodes, Returns (buildPlanetNode v) := by
  unfold generate
  by_cases h : mConf.Within
  · have hwrite := writeWorld_returns_iff host h
    have hne := preflight_ne_failed_iff.mpr h
    rw [and_iff_right h]
    split
    · exact hwrite
    · next heq => exact absurd heq hne
    · split
      · exact writeWorld_returns_iff host ⟨h.signing, h.roots, h.endpoints⟩
      · exact hwrite
  · rw [not_not.mp fun hne => h (preflight_ne_failed_iff.mp hne)]
    exact iff_of_false (not_returns_error _) fun hand => h hand.1

/-! ## 6. The numbers of a planet -/

/-- A number in network byte order. -/
def ofBytes (bytes : Bytes) : Nat := bytes.foldl (fun n b => n * 256 + b.toNat) 0

/-- The ID and the birth of the planet in a file. -/
def worldNumbers (file : Bytes) : Nat × Nat :=
  (ofBytes ((file.drop 1).take 8), ofBytes ((file.drop 9).take 8))

/-- The ID and the birth that `main` takes for the planet of a configuration. -/
def plannedNumbers (host : Host) (mConf : MkWorldConfig) : Nat × Nat :=
  if preflight mConf = .error .errUseRecommendValue ∧ mConf.planetRecommend then
    (host.uint32.toUInt64.toNat, host.unixMilli.toNat)
  else (mConf.planetID.toNat, mConf.planetBirth.toNat)

theorem ofBytes_bigEndian64 (n : UInt64) : ofBytes (bigEndian64 n) = n.toNat := by
  have hlt := n.toNat_lt
  simp only [ofBytes, bigEndian64, List.foldl_cons, List.foldl_nil, UInt64.toNat_toUInt8,
    UInt64.toNat_shiftRight, Nat.shiftRight_eq_div_pow, UInt64.reduceToNat, Nat.reduceMod,
    Nat.reducePow]
  omega

/-- The numbers stand behind the type. -/
theorem worldNumbers_written (ztW : ZtWorld) (sig : Signature) :
    worldNumbers (ztW.written false sig) = (ztW.id.toNat, ztW.timestamp.toNat) := by
  obtain ⟨rest, hrest⟩ : ∃ rest, ztW.written false sig =
      [ztW.type] ++ (bigEndian64 ztW.id ++ (bigEndian64 ztW.timestamp ++ rest)) := by
    simp only [ZtWorld.written, ZtWorld.header, Bool.false_eq_true, if_false, List.nil_append,
      List.append_assoc]
    exact ⟨_, rfl⟩
  have htype : ([ztW.type] : Bytes).length = 1 := rfl
  have hid : ([ztW.type] ++ bigEndian64 ztW.id).length = 9 := by simp
  unfold worldNumbers
  rw [hrest, List.drop_left' htype, List.take_left' (length_bigEndian64 _), ← List.append_assoc,
    List.drop_left' hid, List.take_left' (length_bigEndian64 _), ofBytes_bigEndian64,
    ofBytes_bigEndian64]

theorem worldNumbers_of_writeWorld {host : Host} {mConf : MkWorldConfig} {name file : Bytes}
    (hwithin : mConf.Within) (h : writeWorld host mConf = .ok (name, file)) :
    worldNumbers file = (mConf.planetID.toNat, mConf.planetBirth.toNat) := by
  unfold writeWorld at h
  obtain ⟨nodes, hnodes, h⟩ := bind_ok_iff.mp h
  obtain ⟨finalWorld, hworld, h⟩ := bind_ok_iff.mp h
  cases h
  have hfits : (⟨ztWorldTypePlanet, mConf.planetID, mConf.planetBirth, host.curkp.pub, nodes⟩ :
      ZtWorld).Fits := hwithin.fits hnodes
  have hfile : ∀ sig, Except.mapError GeneratorError.serialize
      ((⟨ztWorldTypePlanet, mConf.planetID, mConf.planetBirth, host.curkp.pub, nodes⟩ :
        ZtWorld).serialize false sig) = .ok file →
      worldNumbers file = (mConf.planetID.toNat, mConf.planetBirth.toNat) := by
    intro sig heq
    rw [serialize_eq hfits] at heq
    obtain rfl := Except.ok.inj heq
    exact worldNumbers_written _ _
  unfold mkworld at hworld
  rw [serialize_eq hfits] at hworld
  exact hfile _ hworld

/-- **The numbers of a generated planet.** -/
theorem worldNumbers_of_generate {host : Host} {mConf : MkWorldConfig} {name file : Bytes}
    (h : generate host mConf = .ok (name, file)) :
    worldNumbers file = plannedNumbers host mConf := by
  have hwithin := (generate_returns_iff.mp ⟨_, h⟩).1
  unfold generate at h
  unfold plannedNumbers
  split at h
  · next hok =>
    rw [hok, if_neg (fun hand => by cases hand.1)]
    exact worldNumbers_of_writeWorld hwithin h
  · cases h
  · next hwarning =>
    split at h
    · next hrecommend =>
      have hrecommended : MkWorldConfig.Within
          { mConf with planetID := host.uint32.toUInt64, planetBirth := host.unixMilli } :=
        ⟨hwithin.signing, hwithin.roots, hwithin.endpoints⟩
      rw [if_pos ⟨hwarning, hrecommend⟩, worldNumbers_of_writeWorld hrecommended h]
    · next hrecommend =>
      rw [if_neg fun hand => hrecommend hand.2]
      exact worldNumbers_of_writeWorld hwithin h

end ZtPlanet.MkWorld
