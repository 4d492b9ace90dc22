/-
# The grammar and the policy of client frames

`parse_client_frame` is a list of tests, and the ranges of its policy are texts that are parsed at
every call.  Here is what it accepts in terms of the frame alone: how long it is, what its first
byte is, and that the address and the port in it are allowed.  An address is refused if its first
bits are those of a range, for as many bits as the range's prefix has.
-/
import ZtPlanet.Lib.Prefix
import ZtPlanet.Relay.Frame

namespace ZtPlanet.Relay

open ZtPlanet.Lib

/-! ## 1. Masks

The mask that `from_str` builds has a case of its own for the prefix 0, which a shift of 32 bits
would get wrong. -/

/-- The first `p` bits of two IPv4 addresses agree. -/
def FirstBitsAgree (p : Nat) (a b : UInt32) : Prop := SamePrefix p a.toBitVec b.toBitVec

instance (p : Nat) (a b : UInt32) : Decidable (FirstBitsAgree p a b) :=
  inferInstanceAs (Decidable (SamePrefix _ _ _))

theorem toBitVec_prefixMask : ∀ p : Fin 33, (prefixMask p).toBitVec = Lib.prefixMask 32 p := by
  decide

/-- The range of an address and a prefix length, as `from_str` stores it. -/
def Ipv4Cidr.ofPrefix (network : UInt32) (length : Nat) : Ipv4Cidr :=
  ⟨network &&& prefixMask length, prefixMask length⟩

/-- **Containment** is agreement of the first bits. -/
theorem contains_ofPrefix {network ip : UInt32} {p : Nat} (hp : p ≤ 32) :
    (Ipv4Cidr.ofPrefix network p).contains ip = true ↔ FirstBitsAgree p ip network := by
  unfold Ipv4Cidr.contains Ipv4Cidr.ofPrefix FirstBitsAgree
  rw [← and_prefixMask_eq_iff hp, ← toBitVec_prefixMask ⟨p, by omega⟩, beq_iff_eq,
    ← UInt32.toBitVec_inj, UInt32.toBitVec_and, UInt32.toBitVec_and]

/-- What `from_str` accepts is an address, a slash and a prefix length. -/
theorem fromStr_eq_ok_iff {value : String} {cidr : Ipv4Cidr} :
    Ipv4Cidr.fromStr value = .ok cidr ↔
      '/' ∈ value.toList ∧ ∃ network length,
        parseIpv4Addr (value.toList.takeWhile (· ≠ '/')) = some network ∧
        parseU8 (value.toList.dropWhile (· ≠ '/')).tail = some length ∧ length ≤ 32 ∧
        cidr = .ofPrefix network length := by
  unfold Ipv4Cidr.fromStr
  dsimp only
  constructor
  · intro h
    split at h
    · cases h
    · next hslash =>
      split at h
      · cases h
      · next network hnetwork =>
        split at h
        · cases h
        · next length hlength =>
          split at h
          · cases h
          · next hle =>
            cases h
            exact ⟨not_not.mp hslash, network, length, hnetwork, hlength, Nat.not_lt.mp hle, rfl⟩
  · rintro ⟨hslash, network, length, hnetwork, hlength, hle, rfl⟩
    rw [if_neg (not_not.mpr hslash), hnetwork]
    dsimp only
    rw [hlength]
    exact if_neg (Nat.not_lt.mpr hle)

/-! ## 2. The ranges -/

/-- The ranges of the policy, with their prefix lengths. -/
def blockedRanges : List (UInt32 × Nat) :=
  [(ipv4FromBytes 0 0 0 0, 8), (ipv4FromBytes 10 0 0 0, 8), (ipv4FromBytes 100 64 0 0, 10),
    (ipv4FromBytes 127 0 0 0, 8), (ipv4FromBytes 169 254 0 0, 16), (ipv4FromBytes 172 16 0 0, 12),
    (ipv4FromBytes 192 0 0 0, 24), (ipv4FromBytes 192 0 2 0, 24), (ipv4FromBytes 192 88 99 0, 24),
    (ipv4FromBytes 192 168 0 0, 16), (ipv4FromBytes 198 18 0 0, 15),
    (ipv4FromBytes 198 51 100 0, 24), (ipv4FromBytes 203 0 113 0, 24), (ipv4FromBytes 224 0 0 0, 4),
    (ipv4FromBytes 240 0 0 0, 4)]

/-- The address is in a range of the policy. -/
def Blocked (ip : UInt32) : Prop := ∃ range ∈ blockedRanges, FirstBitsAgree range.2 ip range.1

instance (ip : UInt32) : Decidable (Blocked ip) :=
  inferInstanceAs (Decidable (∃ range ∈ blockedRanges, _))

/-- The texts of the source are these ranges. -/
theorem fromStr_blocked :
    blocked.map Ipv4Cidr.fromStr = blockedRanges.map fun r => .ok (.ofPrefix r.1 r.2) := by
  decide +kernel

theorem blockedRanges_le : ∀ range ∈ blockedRanges, range.2 ≤ 32 := by decide

/-- **The policy** refuses the addresses of its ranges and no others. -/
theorem isGlobalUnicast_iff (ip : UInt32) : isGlobalUnicast ip = true ↔ ¬ Blocked ip := by
  unfold isGlobalUnicast
  rw [Bool.not_eq_true', ← Bool.not_eq_true, List.any_eq_true]
  refine not_congr ⟨?_, ?_⟩
  · rintro ⟨cidr, hmem, hcontains⟩
    have hparsed := List.mem_map_of_mem (f := Ipv4Cidr.fromStr) hmem
    rw [fromStr_blocked] at hparsed
    obtain ⟨range, hrange, heq⟩ := List.mem_map.mp hparsed
    rw [← heq] at hcontains
    exact ⟨range, hrange, (contains_ofPrefix (blockedRanges_le range hrange)).mp hcontains⟩
  · rintro ⟨range, hrange, hagree⟩
    have hparsed := List.mem_map_of_mem
      (f := fun r => (.ok (.ofPrefix r.1 r.2) : Except String Ipv4Cidr)) hrange
    rw [← fromStr_blocked] at hparsed
    obtain ⟨cidr, hmem, heq⟩ := List.mem_map.mp hparsed
    refine ⟨cidr, hmem, ?_⟩
    rw [heq]
    exact (contains_ofPrefix (blockedRanges_le range hrange)).mpr hagree

/-! ## 3. The fields of a frame -/

/-- The number that bytes spell, most significant first. -/
def bigEndian (bytes : List UInt8) : Nat := bytes.foldl (fun n b => 256 * n + b.toNat) 0

/-- The address of a frame: four bytes behind the first. -/
def frameAddress (frame : List UInt8) : UInt32 := UInt32.ofNat (bigEndian ((frame.drop 1).take 4))

/-- The port of a frame: two bytes behind the address. -/
def framePort (frame : List UInt8) : UInt16 := UInt16.ofNat (bigEndian ((frame.drop 5).take 2))

/-- The frame has a tag, an address, a port and at least 16 bytes, and the tag is that of IPv4. -/
def WellFormed (frame : List UInt8) : Prop := 23 ≤ frame.length ∧ frame.head? = some 4

/-- The policy lets a frame through. -/
def Allowed (frame : List UInt8) (minDestinationPort : UInt16) : Prop :=
  ¬ Blocked (frameAddress frame) ∧ minDestinationPort ≤ framePort frame

instance (frame : List UInt8) : Decidable (WellFormed frame) :=
  inferInstanceAs (Decidable (_ ∧ _))

instance (frame : List UInt8) (minDestinationPort : UInt16) :
    Decidable (Allowed frame minDestinationPort) :=
  inferInstanceAs (Decidable (_ ∧ _))

/-- A frame of seven bytes or more. -/
theorem exists_eq_cons {frame : List UInt8} (h : 23 ≤ frame.length) :
    ∃ tag a b c d hi lo payload, frame = tag :: a :: b :: c :: d :: hi :: lo :: payload := by
  match frame, h with
  | tag :: a :: b :: c :: d :: hi :: lo :: payload, _ =>
    exact ⟨tag, a, b, c, d, hi, lo, payload, rfl⟩

theorem parseClientFrame_short {frame : List UInt8} {minDestinationPort : UInt16}
    (h : ¬ 23 ≤ frame.length) :
    parseClientFrame frame minDestinationPort =
      .error (.protocol "ZeroTier payload is too short") :=
  if_pos (Nat.not_le.mp h)

/-- The address and the port of a frame, as the parser reads them. -/
theorem fields_cons (tag a b c d hi lo : UInt8) (payload : List UInt8) :
    frameAddress (tag :: a :: b :: c :: d :: hi :: lo :: payload) = ipv4FromBytes a b c d ∧
      framePort (tag :: a :: b :: c :: d :: hi :: lo :: payload) =
        UInt16.ofNat (u16FromBeBytes hi lo) := by
  unfold frameAddress framePort ipv4FromBytes u16FromBeBytes bigEndian
  simp only [List.drop_succ_cons, List.drop_zero, List.take_succ_cons, List.take_zero,
    List.foldl_cons, List.foldl_nil]
  constructor
  · congr 1
    omega
  · congr 1
    omega

/-- What the parser answers to a frame that is long enough. -/
theorem parseClientFrame_long {frame : List UInt8} {minDestinationPort : UInt16}
    (h : 23 ≤ frame.length) :
    parseClientFrame frame minDestinationPort =
      if frame.head? ≠ some 4 then .error (.protocol "only IPv4 fallback is supported")
      else if ¬ Allowed frame minDestinationPort then .error .destination
      else .ok (⟨.v4 (frameAddress frame), framePort frame⟩, frame.drop 7) := by
  obtain ⟨tag, a, b, c, d, hi, lo, payload, rfl⟩ := exists_eq_cons h
  obtain ⟨haddress, hport⟩ := fields_cons tag a b c d hi lo payload
  have hallowed : ((!isGlobalUnicast (ipv4FromBytes a b c d) ||
      decide (UInt16.ofNat (u16FromBeBytes hi lo) < minDestinationPort)) = true) ↔
      ¬ Allowed (tag :: a :: b :: c :: d :: hi :: lo :: payload) minDestinationPort := by
    unfold Allowed
    rw [haddress, hport, ← isGlobalUnicast_iff, not_and_or, Bool.or_eq_true, Bool.not_eq_true',
      decide_eq_true_iff, Bool.not_eq_true, UInt16.not_le]
  have hlong : ¬ (tag :: a :: b :: c :: d :: hi :: lo :: payload).length < addressHeaderLen + 16 :=
    Nat.not_lt.mpr h
  unfold parseClientFrame
  rw [if_neg hlong, List.head?_cons]
  dsimp only
  by_cases htag : tag = 4
  · rw [if_neg (not_not.mpr htag), if_neg (not_not.mpr (congrArg some htag)), haddress, hport]
    exact if_congr hallowed rfl rfl
  · rw [if_pos htag, if_pos fun heq => htag (Option.some.inj heq)]

/-- **Client frames.**  The parser accepts the well-formed frames that the policy allows, and gives
back their address, their port and the bytes behind them; it answers every other frame with a
protocol error if it is malformed, and with a destination error if it is not.  And a range contains
the addresses that agree with its own in the first bits, for every prefix length. -/
theorem client_frames (frame : List UInt8) (minDestinationPort : UInt16) :
    (∀ parsed, parseClientFrame frame minDestinationPort = .ok parsed ↔
      WellFormed frame ∧ Allowed frame minDestinationPort ∧
        parsed = (⟨.v4 (frameAddress frame), framePort frame⟩, frame.drop 7)) ∧
    ((∃ message, parseClientFrame frame minDestinationPort = .error (.protocol message)) ↔
      ¬ WellFormed frame) ∧
    (parseClientFrame frame minDestinationPort = .error .destination ↔
      WellFormed frame ∧ ¬ Allowed frame minDestinationPort) ∧
    (∀ (network ip : UInt32) (p : Fin 33),
      (Ipv4Cidr.ofPrefix network p).contains ip = true ↔ FirstBitsAgree p ip network) ∧
    ∀ value cidr, Ipv4Cidr.fromStr value = .ok cidr ↔
      '/' ∈ value.toList ∧ ∃ network length,
        parseIpv4Addr (value.toList.takeWhile (· ≠ '/')) = some network ∧
        parseU8 (value.toList.dropWhile (· ≠ '/')).tail = some length ∧ length ≤ 32 ∧
        cidr = .ofPrefix network length := by
  refine ⟨?_, ?_, ?_, fun network ip p => contains_ofPrefix (Nat.le_of_lt_succ p.isLt),
    fun value cidr => fromStr_eq_ok_iff⟩
  all_goals
    by_cases hlength : 23 ≤ frame.length
    · rw [parseClientFrame_long hlength]
      by_cases htag : frame.head? = some 4
      · rw [if_neg (not_not.mpr htag)]
        have hwell : WellFormed frame := ⟨hlength, htag⟩
        by_cases hallowed : Allowed frame minDestinationPort
        · simp [hwell, hallowed, eq_comm]
        · simp [hwell, hallowed]
      · have hill : ¬ WellFormed frame := fun hwell => htag hwell.2
        simp [hill, htag]
    · have hill : ¬ WellFormed frame := fun hwell => hlength hwell.1
      rw [parseClientFrame_short hlength]
      simp [hill]

end ZtPlanet.Relay
