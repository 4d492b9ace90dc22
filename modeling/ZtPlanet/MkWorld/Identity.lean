/-
# The text of an identity

`ToString` writes an address and a public key in hexadecimal digits with a `0` between them, and a
private key behind them where one is asked for and there is one.  `FromString` reads this back, but
the form with a private key has four fields, of which it accepts three and takes the third one for
both keys.

In neither form does it check how long the fields are, so an address or a key is cut off or filled
up with zeros; nor does it look at the second field.  A text of two fields passes the test of their
number, and the third one is read all the same (`identity_text_iff`).
-/
import ZtPlanet.MkWorld.Generator

namespace ZtPlanet.MkWorld

open ZtPlanet.Lib

/-! ## 1. Hexadecimal digits -/

def hexDigit (n : Nat) : UInt8 := UInt8.ofNat (if n < 10 then 48 + n else 87 + n)

/-- The two digits of a byte. -/
def hexPair (b : UInt8) : Bytes := [hexDigit (b.toNat / 16), hexDigit (b.toNat % 16)]

/-- `%02x` of an array of bytes. -/
def hexText (s : Bytes) : Bytes := s.flatMap hexPair

/-- A digit in lower case. -/
def lowerDigit (b : UInt8) : UInt8 := if 65 ≤ b ∧ b ≤ 90 then b + 32 else b

theorem hexDigit_spec : ∀ n < 16, isHexDigit (hexDigit n) = true ∧ digitValue (hexDigit n) = n := by
  decide

theorem lowerDigit_spec (b : UInt8) (h : isHexDigit b = true) :
    hexDigit (digitValue b) = lowerDigit b ∧ digitValue b < 16 ∧ b ≠ 58 ∧ lowerDigit b ≠ 58 := by
  have hall : ∀ n < 256, isHexDigit (UInt8.ofNat n) = true →
      hexDigit (digitValue (UInt8.ofNat n)) = lowerDigit (UInt8.ofNat n) ∧
        digitValue (UInt8.ofNat n) < 16 ∧ UInt8.ofNat n ≠ 58 ∧ lowerDigit (UInt8.ofNat n) ≠ 58 := by
    decide +kernel
  have hb := hall b.toNat b.toNat_lt
  rw [UInt8.ofNat_toNat] at hb
  exact hb h

/-- **What is written is read back.** -/
theorem decodeString_hexText (s : Bytes) : decodeString (hexText s) = .ok s := by
  induction s with
  | nil => rfl
  | cons b s ih =>
    have hb := b.toNat_lt
    obtain ⟨hhigh, hhighValue⟩ := hexDigit_spec (b.toNat / 16) (by omega)
    obtain ⟨hlow, hlowValue⟩ := hexDigit_spec (b.toNat % 16) (by omega)
    unfold hexText at ih ⊢
    rw [List.flatMap_cons, hexPair, List.cons_append, List.singleton_append, decodeString,
      if_pos ⟨hhigh, hlow⟩, ih, hhighValue, hlowValue, Nat.div_add_mod', UInt8.ofNat_toNat]
    rfl

/-- **What is read is written back** in lower case. -/
theorem hexText_of_decodeString : ∀ {s bytes : Bytes}, decodeString s = .ok bytes →
    hexText bytes = s.map lowerDigit ∧ s.length = 2 * bytes.length
  | [], bytes, h => by
    obtain rfl := Except.ok.inj h
    exact ⟨rfl, rfl⟩
  | [a], bytes, h => by cases h
  | a :: b :: rest, bytes, h => by
    rw [decodeString] at h
    split at h
    · next hdigits =>
      cases hrest : decodeString rest with
      | error e =>
        rw [hrest] at h
        cases h
      | ok decoded =>
        rw [hrest] at h
        obtain rfl := Except.ok.inj h
        obtain ⟨htext, hlength⟩ := hexText_of_decodeString hrest
        obtain ⟨ha, halt, -⟩ := lowerDigit_spec a hdigits.1
        obtain ⟨hb, hblt, -⟩ := lowerDigit_spec b hdigits.2
        have hvalue : (UInt8.ofNat (digitValue a * 16 + digitValue b)).toNat =
            digitValue a * 16 + digitValue b := by
          rw [UInt8.toNat_ofNat']
          omega
        have hhigh : (digitValue a * 16 + digitValue b) / 16 = digitValue a := by omega
        have hlow : (digitValue a * 16 + digitValue b) % 16 = digitValue b := by omega
        constructor
        · unfold hexText at htext ⊢
          rw [List.flatMap_cons, htext, hexPair, hvalue, hhigh, hlow, ha, hb]
          rfl
        · rw [List.length_cons, List.length_cons, List.length_cons, hlength]
          omega
    · cases h

/-- A hexadecimal text has no colon, in lower case neither. -/
theorem colon_notMem_of_decodeString {s bytes : Bytes} (h : decodeString s = .ok bytes) :
    58 ∉ s ∧ 58 ∉ s.map lowerDigit := by
  have hdigits := (decodeString_returns_iff.mp ⟨bytes, h⟩).2
  constructor
  · exact fun hmem => (lowerDigit_spec _ (hdigits _ hmem)).2.2.1 rfl
  · intro hmem
    obtain ⟨b, hb, heq⟩ := List.mem_map.mp hmem
    exact (lowerDigit_spec b (hdigits b hb)).2.2.2 heq

theorem colon_notMem_hexText (s : Bytes) : 58 ∉ hexText s :=
  (colon_notMem_of_decodeString (decodeString_hexText s)).1

/-! ## 2. `ToString` -/

/-- `ZtNormalNode.ToString`. -/
def ZtNormalNode.toString (ztn : ZtNormalNode) (exportPrivateKey : Bool) : Bytes :=
  let pub := hexText ztn.ztNodeAddress.toList ++ 58 :: 48 :: 58 :: hexText ztn.publicKey.toList
  if exportPrivateKey && ztn.hasPrivateKey then pub ++ 58 :: hexText ztn.privateKey.toList else pub

variable {ztn n : ZtNormalNode} {data : Bytes}

theorem splitOn_public (n : ZtNormalNode) : (n.toString false).splitOn 58 =
    [hexText n.ztNodeAddress.toList, [48], hexText n.publicKey.toList] := by
  have hcolon := colon_notMem_hexText
  have htext : n.toString false =
      hexText n.ztNodeAddress.toList ++ 58 :: ([48] ++ 58 :: hexText n.publicKey.toList) := rfl
  rw [htext, List.splitOn_append_cons_self, List.splitOn_append_cons_self,
    List.splitOn_eq_singleton (hcolon _), List.splitOn_eq_singleton (hcolon _),
    List.splitOn_eq_singleton (by decide)]
  rfl

/-! ## 3. `FromString` -/

/-- Bytes of the right number are copied as they are. -/
theorem copyTo_eq {k : Nat} (dst : Vector UInt8 k) {src : Bytes} (h : src.length = k) :
    (copyTo dst src).toList = src := by
  refine List.ext_getElem (by rw [Vector.length_toList, h]) fun i hi hlt => ?_
  simp [copyTo, Vector.getElem_ofFn, hlt]

theorem copyTo_toList {k : Nat} (dst src : Vector UInt8 k) : copyTo dst src.toList = src := by
  refine Vector.toList_inj.mp ?_
  exact copyTo_eq dst src.length_toList

theorem decodeString_error {s : Bytes} {e : GeneratorError} (h : decodeString s = .error e) :
    e = .invalidHex := by
  fun_induction decodeString s with
  | case1 => cases h
  | case2 a b rest hdigits ih =>
    cases hrest : decodeString rest with
    | error e' =>
      rw [hrest] at h
      obtain rfl : e' = e := Except.error.inj h
      exact ih hrest
    | ok decoded =>
      rw [hrest] at h
      cases h
  | case3 a b rest hdigits => exact (Except.error.inj h).symm
  | case4 a => exact (Except.error.inj h).symm

/-- With three fields or more, only their digits can be wrong. -/
theorem fromString_of_fields {address type key : Bytes} {rest : List Bytes}
    (hfields : data.splitOn 58 = address :: type :: key :: rest) {hasPrivateKey : Bool}
    (hrest : hasPrivateKey = true → rest = []) :
    ztn.fromString data hasPrivateKey =
      match decodeString address, decodeString key with
      | .ok tmpAddr, .ok tmpKey =>
        .ok ⟨copyTo ztn.ztNodeAddress tmpAddr, copyTo ztn.publicKey tmpKey,
          if hasPrivateKey then copyTo ztn.privateKey tmpKey else ztn.privateKey⟩
      | _, _ => .error .invalidHex := by
  have hlength : ¬((data.splitOn 58).length ≠ 3 ∧ hasPrivateKey = true) := by
    rintro ⟨hne, htrue⟩
    rw [hfields, hrest htrue] at hne
    exact hne rfl
  unfold ZtNormalNode.fromString
  dsimp only
  rw [if_neg hlength, hfields, if_neg (by simp)]
  cases hasPrivateKey with
  | false =>
    change (do
      let tmpAddr ← decodeString address
      let tmpPubk ← decodeString key
      Except.ok (ZtNormalNode.mk (copyTo ztn.ztNodeAddress tmpAddr) (copyTo ztn.publicKey tmpPubk)
        ztn.privateKey)) = _
    cases haddress : decodeString address with
    | error e =>
      cases decodeString_error haddress
      rfl
    | ok tmpAddr =>
      cases hkey : decodeString key with
      | error e =>
        cases decodeString_error hkey
        rfl
      | ok tmpKey => rfl
  | true =>
    change (do
      let tmpPrivk ← decodeString key
      let tmpAddr ← decodeString address
      let tmpPubk ← decodeString key
      Except.ok (ZtNormalNode.mk (copyTo ztn.ztNodeAddress tmpAddr) (copyTo ztn.publicKey tmpPubk)
        (copyTo ztn.privateKey tmpPrivk))) = _
    cases hkey : decodeString key with
    | error e =>
      cases decodeString_error hkey
      cases decodeString address <;> rfl
    | ok tmpKey =>
      cases haddress : decodeString address with
      | error e =>
        cases decodeString_error haddress
        rfl
      | ok tmpAddr => rfl

theorem fromString_refused {fields : List Bytes} (hfields : data.splitOn 58 = fields)
    {hasPrivateKey : Bool} (h : fields.length ≠ 3 ∧ hasPrivateKey = true ∨ fields.length < 2) :
    ztn.fromString data hasPrivateKey = .error .errInvalidData := by
  unfold ZtNormalNode.fromString
  dsimp only
  rw [hfields]
  split
  · rfl
  · next hlength => exact if_pos (h.resolve_left hlength)

theorem fromString_of_two {address type : Bytes} (hfields : data.splitOn 58 = [address, type]) :
    ztn.fromString data false = (do
      let _ ← decodeString address
      .error .indexOutOfRange) := by
  unfold ZtNormalNode.fromString
  dsimp only
  rw [hfields]
  rfl

/-- Texts that are not refused for the number of their fields. -/
theorem fields_of_not_refused {hasPrivateKey : Bool}
    (h : ztn.fromString data hasPrivateKey ≠ .error .errInvalidData) :
    (hasPrivateKey = false ∧ ∃ address type, data.splitOn 58 = [address, type]) ∨
      ∃ address type key rest, data.splitOn 58 = address :: type :: key :: rest ∧
        (hasPrivateKey = true → rest = []) := by
  rcases hfields : data.splitOn 58 with _ | ⟨address, _ | ⟨type, _ | ⟨key, rest⟩⟩⟩
  · exact absurd (fromString_refused hfields (.inr (by simp))) h
  · exact absurd (fromString_refused hfields (.inr (by simp))) h
  · cases hasPrivateKey with
    | true => exact absurd (fromString_refused hfields (.inl (by simp))) h
    | false => exact .inl ⟨rfl, address, type, rfl⟩
  · refine .inr ⟨address, type, key, rest, rfl, fun htrue => ?_⟩
    by_contra hne
    exact h (fromString_refused hfields (.inl ⟨by simpa using hne, htrue⟩))

/-- **What is accepted**, and what becomes of it. -/
theorem fromString_ok_iff {hasPrivateKey : Bool} :
    ztn.fromString data hasPrivateKey = .ok n ↔
      ∃ address type key rest tmpAddr tmpKey, data.splitOn 58 = address :: type :: key :: rest ∧
        (hasPrivateKey = true → rest = []) ∧ decodeString address = .ok tmpAddr ∧
        decodeString key = .ok tmpKey ∧
        n = ⟨copyTo ztn.ztNodeAddress tmpAddr, copyTo ztn.publicKey tmpKey,
          if hasPrivateKey then copyTo ztn.privateKey tmpKey else ztn.privateKey⟩ := by
  constructor
  · intro h
    have hne : ztn.fromString data hasPrivateKey ≠ .error .errInvalidData := by
      rw [h]
      simp
    rcases fields_of_not_refused hne with
      ⟨rfl, address, type, hfields⟩ | ⟨address, type, key, rest, hfields, hrest⟩
    · rw [fromString_of_two hfields] at h
      obtain ⟨_, -, h⟩ := bind_ok_iff.mp h
      cases h
    · rw [fromString_of_fields hfields hrest] at h
      split at h
      · next tmpAddr tmpKey haddress hkey =>
        exact ⟨address, type, key, rest, tmpAddr, tmpKey, hfields, hrest, haddress, hkey,
          (Except.ok.inj h).symm⟩
      · cases h
  · rintro ⟨address, type, key, rest, tmpAddr, tmpKey, hfields, hrest, haddress, hkey, rfl⟩
    rw [fromString_of_fields hfields hrest, haddress, hkey]

/-- **Where a field is read that is not there.** -/
theorem fromString_panics_iff {hasPrivateKey : Bool} :
    ztn.fromString data hasPrivateKey = .error .indexOutOfRange ↔
      hasPrivateKey = false ∧ ∃ address type, data.splitOn 58 = [address, type] ∧
        Returns (decodeString address) := by
  constructor
  · intro h
    have hne : ztn.fromString data hasPrivateKey ≠ .error .errInvalidData := by
      rw [h]
      simp
    rcases fields_of_not_refused hne with
      ⟨rfl, address, type, hfields⟩ | ⟨address, type, key, rest, hfields, hrest⟩
    · refine ⟨rfl, address, type, hfields, ?_⟩
      rw [fromString_of_two hfields] at h
      cases haddress : decodeString address with
      | ok tmpAddr => exact returns_ok tmpAddr
      | error e =>
        rw [haddress] at h
        cases decodeString_error haddress
        cases h
    · rw [fromString_of_fields hfields hrest] at h
      split at h <;> cases h
  · rintro ⟨rfl, address, type, hfields, tmpAddr, haddress⟩
    rw [fromString_of_two hfields, haddress]
    rfl

/-! ## 4. Round trips -/

/-- The text of the identity, in the form asked for, is read back as the identity. -/
def RoundTrips (n : ZtNormalNode) (hasPrivateKey : Bool) : Prop :=
  ZtNormalNode.zero.fromString (n.toString hasPrivateKey) hasPrivateKey = .ok n

/-- The public form is read back, by any receiver. -/
theorem fromString_public (ztn n : ZtNormalNode) :
    ztn.fromString (n.toString false) false = .ok { n with privateKey := ztn.privateKey } := by
  refine fromString_ok_iff.mpr ⟨_, _, _, [], _, _, splitOn_public n, fun _ => rfl,
    decodeString_hexText _, decodeString_hexText _, ?_⟩
  rw [copyTo_toList, copyTo_toList, if_neg (by decide)]

/-- The private form has four fields, where there is a private key. -/
theorem splitOn_private (h : n.hasPrivateKey = true) : (n.toString true).splitOn 58 =
    [hexText n.ztNodeAddress.toList, [48], hexText n.publicKey.toList,
      hexText n.privateKey.toList] := by
  have htext : n.toString true = n.toString false ++ 58 :: hexText n.privateKey.toList := by
    unfold ZtNormalNode.toString
    rw [h]
    rfl
  rw [htext, List.splitOn_append_cons_self, splitOn_public,
    List.splitOn_eq_singleton (colon_notMem_hexText _)]
  rfl

theorem roundTrips_public_iff :
    RoundTrips n false ↔ n.privateKey = ZtNormalNode.zero.privateKey := by
  unfold RoundTrips
  rw [fromString_public]
  constructor
  · intro h
    have hkey := congrArg ZtNormalNode.privateKey (Except.ok.inj h)
    exact hkey.symm
  · intro h
    rw [← h]

theorem roundTrips_private_iff :
    RoundTrips n true ↔ n.hasPrivateKey = false ∧ n.privateKey = n.publicKey := by
  unfold RoundTrips
  cases hprivate : n.hasPrivateKey with
  | true =>
    rw [fromString_refused (splitOn_private hprivate) (.inl (by simp))]
    simp
  | false =>
    have htext : n.toString true = n.toString false := by
      unfold ZtNormalNode.toString
      rw [hprivate]
      rfl
    have hread : ZtNormalNode.zero.fromString (n.toString true) true =
        .ok { n with privateKey := n.publicKey } := by
      rw [htext]
      refine fromString_ok_iff.mpr ⟨_, _, _, [], _, _, splitOn_public n, fun _ => rfl,
        decodeString_hexText _, decodeString_hexText _, ?_⟩
      rw [copyTo_toList, copyTo_toList, if_pos rfl]
      exact congrArg (ZtNormalNode.mk _ _) (copyTo_toList _ n.publicKey).symm
    rw [hread]
    constructor
    · intro h
      have hkey := congrArg ZtNormalNode.privateKey (Except.ok.inj h)
      exact ⟨rfl, hkey.symm⟩
    · rintro ⟨-, h⟩
      exact congrArg (fun key => Except.ok (ZtNormalNode.mk n.ztNodeAddress n.publicKey key)) h.symm

/-! ## 5. Malformed texts -/

/-- The text is the public part of `data`, an address of 5 bytes and a key of 64, in lower case. -/
def Canonical (data text : Bytes) : Prop :=
  ∃ address type key rest, data.splitOn 58 = address :: type :: key :: rest ∧ address.length = 10 ∧
    key.length = 128 ∧ text = address.map lowerDigit ++ 58 :: (type ++ 58 :: key.map lowerDigit)

/-- The text is refused, or read as it stands, and no field is read that is not there. -/
def Safe (data : Bytes) (hasPrivateKey : Bool) : Prop :=
  match ZtNormalNode.zero.fromString data hasPrivateKey with
  | .ok n => Canonical data (n.toString false)
  | .error e => e ≠ .indexOutOfRange

/-- Hexadecimal digits of whole bytes. -/
def IsHex (s : Bytes) : Prop := s.length % 2 = 0 ∧ ∀ b ∈ s, isHexDigit b = true

/-- **The texts that are harmless.** -/
structure Harmless (data : Bytes) (hasPrivateKey : Bool) : Prop where
  /-- There are not exactly two fields, the first of them hexadecimal. -/
  two : hasPrivateKey = false → ∀ address type, data.splitOn 58 = [address, type] → ¬IsHex address
  /-- Where the first and the third field are hexadecimal, the fields are an address, `0` and a key.
  -/
  more : ∀ address type key rest, data.splitOn 58 = address :: type :: key :: rest →
    (hasPrivateKey = true → rest = []) → IsHex address → IsHex key →
      address.length = 10 ∧ type = [48] ∧ key.length = 128

/-- What is accepted is canonical if its fields are. -/
theorem canonical_iff {address type key tmpAddr tmpKey : Bytes} {rest : List Bytes}
    {privateKey : Vector UInt8 ztC25519PrivateKeyLen}
    (hfields : data.splitOn 58 = address :: type :: key :: rest)
    (haddress : decodeString address = .ok tmpAddr) (hkey : decodeString key = .ok tmpKey) :
    Canonical data (ZtNormalNode.toString ⟨copyTo ztn.ztNodeAddress tmpAddr,
        copyTo ztn.publicKey tmpKey, privateKey⟩ false) ↔
      address.length = 10 ∧ type = [48] ∧ key.length = 128 := by
  obtain ⟨haddressText, haddressLength⟩ := hexText_of_decodeString haddress
  obtain ⟨hkeyText, hkeyLength⟩ := hexText_of_decodeString hkey
  have htype : 58 ∉ type := sep_notMem_field
    (hfields ▸ (by simp : type ∈ address :: type :: key :: rest))
  constructor
  · rintro ⟨address', type', key', rest', hfields', hten, hlong, htext⟩
    cases hfields.symm.trans hfields'
    have hsplit := congrArg (List.splitOn 58) htext
    rw [splitOn_public, List.splitOn_append_cons_self, List.splitOn_append_cons_self,
      List.splitOn_eq_singleton (colon_notMem_of_decodeString haddress).2,
      List.splitOn_eq_singleton htype,
      List.splitOn_eq_singleton (colon_notMem_of_decodeString hkey).2] at hsplit
    obtain ⟨-, hsplit⟩ := List.cons_eq_cons.mp hsplit
    exact ⟨hten, (List.cons_eq_cons.mp hsplit).1.symm, hlong⟩
  · rintro ⟨hten, rfl, hlong⟩
    refine ⟨address, [48], key, rest, hfields, hten, hlong, ?_⟩
    unfold ZtNormalNode.toString
    rw [Bool.false_and, if_neg (by decide), copyTo_eq _ (by omega),
      copyTo_eq _ (by
        show tmpKey.length = 64
        omega), haddressText, hkeyText]
    rfl

theorem safe_iff {hasPrivateKey : Bool} :
    Safe data hasPrivateKey ↔ Harmless data hasPrivateKey := by
  have hhex {s : Bytes} : IsHex s ↔ Returns (decodeString s) := decodeString_returns_iff.symm
  unfold Safe
  cases hread : ZtNormalNode.zero.fromString data hasPrivateKey with
  | error e =>
    dsimp only
    constructor
    · intro hne
      constructor
      · rintro rfl address type hfields haddress
        have hpanics : ZtNormalNode.zero.fromString data false = .error .indexOutOfRange :=
          fromString_panics_iff.mpr ⟨rfl, address, type, hfields, hhex.mp haddress⟩
        exact hne (Except.error.inj (hread.symm.trans hpanics))
      · rintro address type key rest hfields hrest haddress hkey
        obtain ⟨tmpAddr, haddress⟩ := hhex.mp haddress
        obtain ⟨tmpKey, hkey⟩ := hhex.mp hkey
        have hok : ZtNormalNode.zero.fromString data hasPrivateKey = .ok _ := fromString_ok_iff.mpr
          ⟨address, type, key, rest, tmpAddr, tmpKey, hfields, hrest, haddress, hkey, rfl⟩
        cases hread.symm.trans hok
    · rintro hharmless rfl
      obtain ⟨hfalse, address, type, hfields, haddress⟩ := fromString_panics_iff.mp hread
      exact hharmless.two hfalse address type hfields (hhex.mpr haddress)
  | ok n =>
    obtain ⟨address, type, key, rest, tmpAddr, tmpKey, hfields, hrest, haddress, hkey, rfl⟩ :=
      fromString_ok_iff.mp hread
    dsimp only
    rw [canonical_iff hfields haddress hkey]
    constructor
    · intro hexact
      constructor
      · rintro - address' type' hfields'
        cases hfields.symm.trans hfields'
      · rintro address' type' key' rest' hfields' - - -
        cases hfields.symm.trans hfields'
        exact hexact
    · intro hharmless
      exact hharmless.more address type key rest hfields hrest (hhex.mpr ⟨tmpAddr, haddress⟩)
        (hhex.mpr ⟨tmpKey, hkey⟩)

/-- **Identities as texts**: when one is read back, and which texts are harmless. -/
theorem identity_text_iff (n : ZtNormalNode) (data : Bytes) (hasPrivateKey : Bool) :
    (RoundTrips n hasPrivateKey ↔
      hasPrivateKey = false ∧ n.privateKey = ZtNormalNode.zero.privateKey ∨
        hasPrivateKey = true ∧ n.hasPrivateKey = false ∧ n.privateKey = n.publicKey) ∧
      (Safe data hasPrivateKey ↔ Harmless data hasPrivateKey) := by
  refine ⟨?_, safe_iff⟩
  cases hasPrivateKey with
  | false =>
    rw [roundTrips_public_iff]
    simp
  | true =>
    rw [roundTrips_private_iff]
    simp

/-- **A private key that is not read back, a field that is not there, and a key of one byte**: the
texts are `0123456789:0` and `01:0:02`. -/
theorem private_key_lost :
    ¬RoundTrips ⟨Vector.replicate 5 1, Vector.replicate 64 2, Vector.replicate 64 3⟩ true ∧
      ¬Safe [48, 49, 50, 51, 52, 53, 54, 55, 56, 57, 58, 48] false ∧
      ¬Safe [48, 49, 58, 48, 58, 48, 50] false := by
  refine ⟨?_, ?_, ?_⟩
  · rw [roundTrips_private_iff]
    decide
  · rw [safe_iff]
    intro hharmless
    exact hharmless.two rfl [48, 49, 50, 51, 52, 53, 54, 55, 56, 57] [48] (by decide +kernel)
      ⟨by decide +kernel, by decide +kernel⟩
  · rw [safe_iff]
    intro hharmless
    have hfields := hharmless.more [48, 49] [48] [48, 50] [] (by decide +kernel) (fun _ => rfl)
      ⟨by decide +kernel, by decide +kernel⟩ ⟨by decide +kernel, by decide +kernel⟩
    exact absurd hfields.1 (by decide)

end ZtPlanet.MkWorld
