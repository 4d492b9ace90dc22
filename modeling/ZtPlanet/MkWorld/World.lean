/-
# The world file

`mkworld` writes a planet: the header of the world, a signature, and the roots with their endpoints.
What is signed is the same header and roots, between two marks and without the signature; a client
takes the signature out of the file and verifies the rest.

`ZtWorld.Serialize` writes both.  `layout_iff` says for which signatures the file has one at all.
-/
import Mathlib.Data.List.Basic
import Mathlib.Tactic.Common

namespace ZtPlanet.MkWorld

/-! ## 1. Constants and bytes -/

abbrev ztC25519PublicKeyLen : Nat := 64

abbrev ztC25519PrivateKeyLen : Nat := 64

abbrev ztC25519SignatureLen : Nat := 96

def ztWorldMaxRoots : Nat := 4

def ztWorldMaxStableEndpointsPerRoot : Nat := 32

def ztWorldMaxSerializedLength : Nat :=
  (1024 + 32 * ztWorldMaxStableEndpointsPerRoot) * ztWorldMaxRoots +
    ztC25519PublicKeyLen + ztC25519SignatureLen + 128

def ztWorldTypePlanet : UInt8 := 1

def ztWorldTypeMoon : UInt8 := 127

inductive SerializeError where
  | errMaxEndpointsExceeded
  | errMaxRootsExceeded
  | errSerializedDataTooLarge
deriving DecidableEq

/-- `[]byte`. -/
abbrev Bytes := List UInt8

/-- `binary.BigEndian.AppendUint16`, without the buffer. -/
def bigEndian16 (n : UInt16) : Bytes := [(n >>> 8).toUInt8, n.toUInt8]

/-- `binary.BigEndian.AppendUint64`, without the buffer. -/
def bigEndian64 (n : UInt64) : Bytes :=
  [(n >>> 56).toUInt8, (n >>> 48).toUInt8, (n >>> 40).toUInt8, (n >>> 32).toUInt8,
    (n >>> 24).toUInt8, (n >>> 16).toUInt8, (n >>> 8).toUInt8, n.toUInt8]

@[simp] theorem length_bigEndian16 (n : UInt16) : (bigEndian16 n).length = 2 := rfl

@[simp] theorem length_bigEndian64 (n : UInt64) : (bigEndian64 n).length = 8 := rfl

/-- A loop that serializes one value after the other behind `buf`. -/
def appendEach {α : Type} (serialize : α → Except SerializeError Bytes) :
    List α → Bytes → Except SerializeError Bytes
  | [], buf => .ok buf
  | a :: rest, buf => do
    let data ← serialize a
    appendEach serialize rest (buf ++ data)

/-- A loop in which nothing fails. -/
theorem appendEach_ok {α : Type} {serialize : α → Except SerializeError Bytes} {bytes : α → Bytes}
    {l : List α} (h : ∀ a ∈ l, serialize a = .ok (bytes a)) (buf : Bytes) :
    appendEach serialize l buf = .ok (buf ++ l.flatMap bytes) := by
  induction l generalizing buf with
  | nil => simp [appendEach]
  | cons a rest ih =>
    rw [appendEach, h a List.mem_cons_self]
    change appendEach serialize rest (buf ++ bytes a) = _
    rw [ih fun b hb => h b (List.mem_cons_of_mem a hb), List.flatMap_cons, List.append_assoc]

/-! ## 2. Endpoints -/

/-- `net.IP.To4`. -/
def to4 (ip : Bytes) : Option Bytes :=
  if ip.length = 4 then some ip
  else if ip.length = 16 ∧ ip.take 12 = List.replicate 10 0 ++ [0xff, 0xff] then some (ip.drop 12)
  else none

/-- `net.IP.To16`. -/
def to16 (ip : Bytes) : Option Bytes :=
  if ip.length = 4 then some (List.replicate 10 0 ++ [0xff, 0xff] ++ ip)
  else if ip.length = 16 then some ip
  else none

structure ZtNodeInetAddr where
  ip : Bytes
  port : UInt16
deriving DecidableEq

/-- The families that `Family` returns. -/
inductive AddressFamily where
  | afInet
  | afInet6
deriving DecidableEq

def ZtNodeInetAddr.family (a : ZtNodeInetAddr) : AddressFamily :=
  if a.ip.length ≤ 4 then .afInet
  else if (to4 a.ip).isSome then .afInet
  else .afInet6

/-- An address that is `nil` has no bytes. -/
def ZtNodeInetAddr.serialize (ztniaddr : ZtNodeInetAddr) : Except SerializeError Bytes :=
  match ztniaddr.family with
  | .afInet => .ok ([4] ++ (to4 ztniaddr.ip).getD [] ++ bigEndian16 ztniaddr.port)
  | .afInet6 => .ok ([6] ++ (to16 ztniaddr.ip).getD [] ++ bigEndian16 ztniaddr.port)

/-! ## 3. Roots -/

/-- `ZtNormalNode`, which is also `ZtWorldPlanetNodeIdentity`. -/
structure ZtNormalNode where
  ztNodeAddress : Vector UInt8 5
  publicKey : Vector UInt8 ztC25519PublicKeyLen
  privateKey : Vector UInt8 ztC25519PrivateKeyLen
deriving DecidableEq

def ZtNormalNode.hasPrivateKey (ztn : ZtNormalNode) : Bool :=
  ztn.privateKey.toList.take 4 ≠ [0, 0, 0, 0]

def ZtNormalNode.serialize (ztpnid : ZtNormalNode) (inclPrivKey : Bool) :
    Except SerializeError Bytes :=
  let buf := ztpnid.ztNodeAddress.toList ++ [0] ++ ztpnid.publicKey.toList
  if ztpnid.hasPrivateKey && inclPrivKey then
    .ok (buf ++ [UInt8.ofNat ztC25519PrivateKeyLen] ++ ztpnid.privateKey.toList)
  else .ok (buf ++ [0])

structure ZtWorldPlanetNode where
  identity : ZtNormalNode
  endpoints : List ZtNodeInetAddr
deriving DecidableEq

def ZtWorldPlanetNode.serialize (ztpn : ZtWorldPlanetNode) : Except SerializeError Bytes := do
  let idData ← ztpn.identity.serialize false
  let buf ← appendEach ZtNodeInetAddr.serialize ztpn.endpoints
    (idData ++ [UInt8.ofNat ztpn.endpoints.length])
  if ztpn.endpoints.length > ztWorldMaxStableEndpointsPerRoot then
    throw .errMaxEndpointsExceeded
  return buf

/-! ## 4. The world -/

abbrev Signature := Vector UInt8 ztC25519SignatureLen

structure ZtWorld where
  type : UInt8
  id : UInt64
  timestamp : UInt64
  publicKeyMustBeSignedByNextTime : Vector UInt8 ztC25519PublicKeyLen
  nodes : List ZtWorldPlanetNode
deriving DecidableEq

/-- The test for a signature: its first four bytes. -/
def embeds (c25519sig : Signature) : Bool := c25519sig.toList.take 4 ≠ [0, 0, 0, 0]

def ZtWorld.serialize (ztw : ZtWorld) (forSign : Bool) (c25519sig : Signature) :
    Except SerializeError Bytes := do
  let buf := if forSign then bigEndian64 0x7f7f7f7f7f7f7f7f else []
  let buf := buf ++ [ztw.type]
  let buf := buf ++ bigEndian64 ztw.id
  let buf := buf ++ bigEndian64 ztw.timestamp
  let buf := buf ++ ztw.publicKeyMustBeSignedByNextTime.toList
  -- make sure sig is not 0
  let buf := if !forSign && embeds c25519sig then buf ++ c25519sig.toList else buf
  let buf := buf ++ [UInt8.ofNat ztw.nodes.length]
  if ztw.nodes.length > ztWorldMaxRoots then throw .errMaxRootsExceeded
  let buf ← appendEach ZtWorldPlanetNode.serialize ztw.nodes buf
  let buf := if ztw.type = ztWorldTypeMoon then buf ++ bigEndian16 0 else buf
  let buf := if forSign then buf ++ bigEndian64 0xf7f7f7f7f7f7f7f7 else buf
  if buf.length > ztWorldMaxSerializedLength then throw .errSerializedDataTooLarge
  return buf

/-- A world that the serialization has room for. -/
structure ZtWorld.Fits (ztw : ZtWorld) : Prop where
  roots : ztw.nodes.length ≤ ztWorldMaxRoots
  endpoints : ∀ n ∈ ztw.nodes, n.endpoints.length ≤ ztWorldMaxStableEndpointsPerRoot

instance (ztw : ZtWorld) : Decidable ztw.Fits :=
  decidable_of_iff (ztw.nodes.length ≤ ztWorldMaxRoots ∧
      ∀ n ∈ ztw.nodes, n.endpoints.length ≤ ztWorldMaxStableEndpointsPerRoot)
    ⟨fun h => ⟨h.1, h.2⟩, fun h => ⟨h.roots, h.endpoints⟩⟩

/-! ## 5. The layout -/

/-- The bytes of an endpoint. -/
def ZtNodeInetAddr.bytes (a : ZtNodeInetAddr) : Bytes :=
  match a.family with
  | .afInet => 4 :: (to4 a.ip).getD [] ++ bigEndian16 a.port
  | .afInet6 => 6 :: (to16 a.ip).getD [] ++ bigEndian16 a.port

/-- The bytes of a root: its identity without a private key, and its endpoints. -/
def ZtWorldPlanetNode.bytes (n : ZtWorldPlanetNode) : Bytes :=
  n.identity.ztNodeAddress.toList ++ [0] ++ n.identity.publicKey.toList ++ [0] ++
    [UInt8.ofNat n.endpoints.length] ++ n.endpoints.flatMap ZtNodeInetAddr.bytes

/-- What stands before the signature. -/
def ZtWorld.header (ztw : ZtWorld) : Bytes :=
  [ztw.type] ++ bigEndian64 ztw.id ++ bigEndian64 ztw.timestamp ++
    ztw.publicKeyMustBeSignedByNextTime.toList

/-- What stands behind the signature. -/
def ZtWorld.body (ztw : ZtWorld) : Bytes :=
  [UInt8.ofNat ztw.nodes.length] ++ ztw.nodes.flatMap ZtWorldPlanetNode.bytes ++
    if ztw.type = ztWorldTypeMoon then [0, 0] else []

/-- The length of a header. -/
def headerLen : Nat := 1 + 8 + 8 + ztC25519PublicKeyLen

/-- What a client verifies of the bytes that it has received: all but the signature, between the
marks. -/
def verified (received : Bytes) : Bytes :=
  List.replicate 8 0x7f ++ received.take headerLen ++
    received.drop (headerLen + ztC25519SignatureLen) ++ List.replicate 8 0xf7

/-- **The layout of a world**: the distributed bytes have the signature between the header and the
body, the signed bytes have the same header and body between the marks, and they are what a client
verifies. -/
structure Layout (ztw : ZtWorld) (sig : Signature) : Prop where
  distributed : ztw.serialize false sig = .ok (ztw.header ++ sig.toList ++ ztw.body)
  signed : ∀ any, ztw.serialize true any =
    .ok (List.replicate 8 0x7f ++ ztw.header ++ ztw.body ++ List.replicate 8 0xf7)
  verified : ∀ received any, ztw.serialize false sig = .ok received →
    ztw.serialize true any = .ok (verified received)

/-! ## 6. What is written -/

theorem length_to4 {ip : Bytes} : ((to4 ip).getD []).length ≤ 4 := by
  unfold to4
  split
  · next hlen => simp [hlen]
  · split
    · next hmapped => simp [hmapped.1]
    · simp

theorem length_to16 {ip : Bytes} : ((to16 ip).getD []).length ≤ 16 := by
  unfold to16
  split
  · next hlen => simp [hlen]
  · split
    · next hlen => simp [hlen]
    · simp

theorem serialize_endpoint (a : ZtNodeInetAddr) : a.serialize = .ok a.bytes := by
  unfold ZtNodeInetAddr.serialize ZtNodeInetAddr.bytes
  cases a.family with
  | afInet => rfl
  | afInet6 => rfl

theorem length_endpoint (a : ZtNodeInetAddr) : a.bytes.length ≤ 19 := by
  unfold ZtNodeInetAddr.bytes
  cases a.family with
  | afInet =>
    have hlen := @length_to4 a.ip
    simp only [List.length_append, List.length_cons, length_bigEndian16]
    omega
  | afInet6 =>
    have hlen := @length_to16 a.ip
    simp only [List.length_append, List.length_cons, length_bigEndian16]
    omega

theorem length_flatMap_le {α : Type} {bytes : α → Bytes} {bound : Nat} {l : List α}
    (h : ∀ a ∈ l, (bytes a).length ≤ bound) : (l.flatMap bytes).length ≤ l.length * bound := by
  induction l with
  | nil => simp
  | cons a rest ih =>
    have hrest := ih fun b hb => h b (List.mem_cons_of_mem a hb)
    have hfirst := h a List.mem_cons_self
    rw [List.flatMap_cons, List.length_append, List.length_cons, Nat.succ_mul]
    omega

theorem serialize_root {n : ZtWorldPlanetNode}
    (h : n.endpoints.length ≤ ztWorldMaxStableEndpointsPerRoot) :
    n.serialize = .ok n.bytes := by
  have hidentity : n.identity.serialize false =
      .ok (n.identity.ztNodeAddress.toList ++ [0] ++ n.identity.publicKey.toList ++ [0]) := by
    simp [ZtNormalNode.serialize]
  unfold ZtWorldPlanetNode.serialize
  rw [hidentity]
  simp only [bind, Except.bind]
  rw [appendEach_ok fun a _ => serialize_endpoint a]
  simp only [if_neg (Nat.not_lt.mpr h)]
  rfl

theorem length_root {n : ZtWorldPlanetNode}
    (h : n.endpoints.length ≤ ztWorldMaxStableEndpointsPerRoot) : n.bytes.length ≤ 680 := by
  have hendpoints := length_flatMap_le fun a (_ : a ∈ n.endpoints) => length_endpoint a
  unfold ZtWorldPlanetNode.bytes
  simp only [List.length_append, List.length_cons, List.length_nil, Vector.length_toList]
  unfold ztWorldMaxStableEndpointsPerRoot at h
  unfold ztC25519PublicKeyLen
  omega

theorem length_header (ztw : ZtWorld) : ztw.header.length = headerLen := by
  simp [ZtWorld.header, headerLen]
  rfl

theorem ZtWorld.Fits.length_body {ztw : ZtWorld} (h : ztw.Fits) : ztw.body.length ≤ 2723 := by
  have hnodes : (ztw.nodes.flatMap ZtWorldPlanetNode.bytes).length ≤ ztw.nodes.length * 680 :=
    length_flatMap_le fun n hn => length_root (h.endpoints n hn)
  have hroots := h.roots
  unfold ztWorldMaxRoots at hroots
  unfold ZtWorld.body
  have hmoon : (if ztw.type = ztWorldTypeMoon then [0, 0] else [] : Bytes).length ≤ 2 := by
    split <;> simp
  simp only [List.length_append, List.length_cons, List.length_nil]
  omega

theorem length_signature (sig : Signature) : sig.toList.length = 96 := by
  rw [Vector.length_toList, ztC25519SignatureLen]

theorem append_if {c : Prop} [Decidable c] (buf data : Bytes) :
    (if c then buf ++ data else buf) = buf ++ if c then data else [] := by
  split <;> simp

/-- What `Serialize` writes of a world: the marks if it is to be signed, the signature if it is to
be distributed and has one. -/
def ZtWorld.written (ztw : ZtWorld) (forSign : Bool) (sig : Signature) : Bytes :=
  (if forSign then List.replicate 8 0x7f else []) ++ ztw.header ++
    (if !forSign && embeds sig then sig.toList else []) ++ ztw.body ++
    if forSign then List.replicate 8 0xf7 else []

/-- There is room for all of it. -/
theorem ZtWorld.Fits.length_written {ztw : ZtWorld} (h : ztw.Fits) (forSign : Bool)
    (sig : Signature) : (ztw.written forSign sig).length ≤ ztWorldMaxSerializedLength := by
  have hbody := h.length_body
  have hsig : (if !forSign && embeds sig then sig.toList else [] : Bytes).length ≤ 96 := by
    split
    · exact Nat.le_of_eq (length_signature sig)
    · exact Nat.zero_le _
  have hmark (b : UInt8) : (if forSign then List.replicate 8 b else [] : Bytes).length ≤ 8 := by
    split <;> simp
  have hfirst := hmark 0x7f
  have hlast := hmark 0xf7
  unfold ZtWorld.written
  simp only [List.length_append, length_header]
  change _ ≤ 8480
  unfold headerLen ztC25519PublicKeyLen
  omega

/-- **What `Serialize` writes**, of a world that it has room for. -/
theorem serialize_eq {ztw : ZtWorld} (h : ztw.Fits) (forSign : Bool) (sig : Signature) :
    ztw.serialize forSign sig = .ok (ztw.written forSign sig) := by
  have hnodes (buf : Bytes) :
      appendEach ZtWorldPlanetNode.serialize ztw.nodes buf =
        .ok (buf ++ ztw.nodes.flatMap ZtWorldPlanetNode.bytes) :=
    appendEach_ok (fun n hn => serialize_root (h.endpoints n hn)) buf
  have hfirst : bigEndian64 0x7f7f7f7f7f7f7f7f = List.replicate 8 0x7f := by decide
  have hlast : bigEndian64 0xf7f7f7f7f7f7f7f7 = List.replicate 8 0xf7 := by decide
  have hdictionary : bigEndian16 0 = [0, 0] := by decide
  have hfits := h.length_written forSign sig
  unfold ZtWorld.serialize
  simp only [bind, Except.bind, pure, Except.pure, if_neg (Nat.not_lt.mpr h.roots),
    hnodes, append_if,
    hfirst, hlast, hdictionary]
  simp only [ZtWorld.written, ZtWorld.header, ZtWorld.body, List.append_assoc] at hfits ⊢
  exact if_neg (Nat.not_lt.mpr hfits)

/-- A client takes out what stands between the header and the body. -/
theorem verified_distributed (ztw : ZtWorld) (sig : Signature) :
    verified (ztw.header ++ sig.toList ++ ztw.body) =
      List.replicate 8 0x7f ++ ztw.header ++ ztw.body ++ List.replicate 8 0xf7 := by
  have hheader := length_header ztw
  have hsig : (ztw.header ++ sig.toList).length = headerLen + ztC25519SignatureLen := by
    rw [List.length_append, hheader, length_signature]
  unfold verified
  rw [List.drop_left' hsig, List.append_assoc ztw.header, List.take_left' hheader]

theorem serialize_signed {ztw : ZtWorld} (h : ztw.Fits) (any : Signature) :
    ztw.serialize true any =
      .ok (List.replicate 8 0x7f ++ ztw.header ++ ztw.body ++ List.replicate 8 0xf7) := by
  rw [serialize_eq h true any]
  simp [ZtWorld.written]

theorem serialize_distributed {ztw : ZtWorld} (h : ztw.Fits) {sig : Signature}
    (hembeds : embeds sig = true) :
    ztw.serialize false sig = .ok (ztw.header ++ sig.toList ++ ztw.body) := by
  rw [serialize_eq h false sig]
  simp [ZtWorld.written, hembeds]

/-- Without its signature a world is too short. -/
theorem Layout.embeds {ztw : ZtWorld} (h : ztw.Fits) {sig : Signature} (hlayout : Layout ztw sig) :
    embeds sig = true := by
  by_contra hnot
  have hnone : ztw.serialize false sig = .ok (ztw.header ++ ztw.body) := by
    rw [serialize_eq h false sig]
    simp [ZtWorld.written, hnot]
  have hsame := Except.ok.inj (hnone.symm.trans hlayout.distributed)
  have hlen := congrArg List.length hsame
  simp only [List.length_append, length_signature] at hlen
  omega

/-- **The layout of a world, and when it has a signature.**  A world with at most 4 roots of at most
32 endpoints is laid out canonically for a signature if and only if the first four bytes of the
signature are not all zero. -/
theorem layout_iff (ztw : ZtWorld) (h : ztw.Fits) (sig : Signature) :
    Layout ztw sig ↔ sig.toList.take 4 ≠ [0, 0, 0, 0] := by
  constructor
  · exact fun hlayout => of_decide_eq_true (hlayout.embeds h)
  · intro hnonzero
    have hdistributed := serialize_distributed h (decide_eq_true hnonzero)
    refine ⟨hdistributed, serialize_signed h, fun received any hreceived => ?_⟩
    obtain rfl := Except.ok.inj (hdistributed.symm.trans hreceived)
    rw [serialize_signed h any, verified_distributed]

/-- A planet with one root, which has an endpoint of each family. -/
def exampleWorld : ZtWorld where
  type := ztWorldTypePlanet
  id := 1
  timestamp := 1567191349590
  publicKeyMustBeSignedByNextTime := Vector.replicate 64 3
  nodes := [⟨⟨Vector.replicate 5 1, Vector.replicate 64 2, Vector.replicate 64 0⟩,
    [⟨[192, 0, 2, 1], 9993⟩, ⟨[0x20, 0x01] ++ List.replicate 14 1, 9993⟩]⟩]

theorem layout_iff_example : Layout exampleWorld (Vector.replicate 96 7) :=
  (layout_iff exampleWorld (by decide) (Vector.replicate 96 7)).mpr (by decide)

/-- A signature that begins with four zero bytes. -/
def zeroHeadedSignature : Signature := Vector.ofFn fun i => if i.val < 4 then 0 else 7

/-- **A world without its signature.** -/
theorem signature_left_out :
    exampleWorld.Fits ∧ zeroHeadedSignature ≠ Vector.replicate 96 0 ∧
      exampleWorld.serialize false zeroHeadedSignature =
        .ok (exampleWorld.header ++ exampleWorld.body) ∧
      ¬ Layout exampleWorld zeroHeadedSignature := by
  have hfits : exampleWorld.Fits := by decide
  exact ⟨hfits, by decide +kernel, by decide +kernel, fun hlayout =>
    absurd (hlayout.embeds hfits) (by decide +kernel)⟩

/-- What `main` signs and writes. -/
def mkworld (signMessage : Bytes → Signature) (ztW : ZtWorld) : Except SerializeError Bytes := do
  let toSignZtW ← ztW.serialize true (Vector.replicate 96 0)
  ztW.serialize false (signMessage toSignZtW)

/-- What `main` has signed is what a client verifies of the file, where the file has a signature. -/
theorem mkworld_verified {signMessage : Bytes → Signature} {ztW : ZtWorld} (h : ztW.Fits)
    {file toSign : Bytes} (hfile : mkworld signMessage ztW = .ok file)
    (hsign : ztW.serialize true (Vector.replicate 96 0) = .ok toSign)
    (hembeds : embeds (signMessage toSign) = true) :
    file = ztW.header ++ (signMessage toSign).toList ++ ztW.body ∧ verified file = toSign := by
  unfold mkworld at hfile
  rw [hsign] at hfile
  have hsigned := hsign
  rw [serialize_signed h] at hsigned
  obtain rfl := Except.ok.inj hsigned
  have hdistributed := serialize_distributed h hembeds
  obtain rfl := Except.ok.inj (hdistributed.symm.trans hfile)
  exact ⟨rfl, verified_distributed ztW _⟩

end ZtPlanet.MkWorld
