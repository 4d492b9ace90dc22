/-
# The addresses of a network

`address in network` compares the masked bits of the address with the network address, which is
membership in an interval of numbers.  A list of networks therefore leaves an address of a family
out exactly when its intervals do not close up, and that is decidable (`excludes_iff`).
-/
import ZtPlanet.Lib.Cover
import ZtPlanet.Python.NetworkRoundTrip

namespace ZtPlanet.Python

open ZtPlanet.Lib

/-! ## 1. Masks -/

/-- Masking keeps the upper bits. -/
theorem and_netmask {w length : Nat} (ip : BitVec w) (hlength : length ≤ w) :
    ip &&& IpAddress.netmask w length = (ip >>> (w - length)) <<< (w - length) := by
  unfold IpAddress.netmask
  refine BitVec.eq_of_getLsbD_eq fun i hi => ?_
  simp only [BitVec.getLsbD_and, BitVec.getLsbD_xor, BitVec.getLsbD_allOnes,
    BitVec.getLsbD_ushiftRight, BitVec.getLsbD_shiftLeft, hi, decide_true, Bool.true_and,
    Bool.true_xor]
  by_cases hlow : i < w - length
  · have hmask : length + i < w := by omega
    simp [hlow, hmask]
  · have hmask : ¬ length + i < w := by omega
    have hindex : w - length + (i - (w - length)) = i := by omega
    simp [hlow, hmask, hindex]

theorem toNat_and_netmask {w length : Nat} (ip : BitVec w) (hlength : length ≤ w) :
    (ip &&& IpAddress.netmask w length).toNat =
      ip.toNat / 2 ^ (w - length) * 2 ^ (w - length) := by
  rw [and_netmask ip hlength, BitVec.toNat_shiftLeft, BitVec.toNat_ushiftRight,
    Nat.shiftRight_eq_div_pow, Nat.shiftLeft_eq, Nat.mod_eq_of_lt]
  exact (Nat.div_mul_le_self _ _).trans_lt ip.isLt

/-- An address is in a network exactly when its number is in the block behind the network
address. -/
theorem inNetwork_iff {w length : Nat} {ip base : BitVec w} (hlength : length ≤ w)
    (hmasked : base &&& IpAddress.netmask w length = base) :
    IpAddress.inNetwork ip (base, length) = true ↔
      base.toNat ≤ ip.toNat ∧ ip.toNat ≤ base.toNat + 2 ^ (w - length) - 1 := by
  have hpos : 0 < 2 ^ (w - length) := Nat.pow_pos (by decide)
  have hbase := toNat_and_netmask base hlength
  rw [hmasked] at hbase
  unfold IpAddress.inNetwork
  rw [beq_iff_eq, ← BitVec.toNat_inj, toNat_and_netmask ip hlength]
  generalize 2 ^ (w - length) = size at *
  constructor
  · intro (heq : ip.toNat / size * size = base.toNat)
    have hdivision := Nat.div_add_mod' ip.toNat size
    have hremainder := Nat.mod_lt ip.toNat hpos
    omega
  · rintro ⟨hlow, hhigh⟩
    have hquotient : ip.toNat / size = base.toNat / size := by
      refine Nat.div_eq_of_lt_le ?_ ?_
      · rw [← hbase]
        exact hlow
      · rw [Nat.succ_mul, ← hbase]
        omega
    rw [hquotient, ← hbase]

/-! ## 2. Networks as intervals -/

namespace IpAddress

/-- `int(address)`. -/
def number : IpAddress → Nat
  | .v4 ip => ip.toNat
  | .v6 ip _ => ip.toNat

/-- How many bits an address has. -/
def bits : IpAddress → Nat
  | .v4 _ => 32
  | .v6 _ _ => 128

end IpAddress

namespace IpNetwork

open IpAddress

/-- `address in network`. -/
def contains (n : IpNetwork) (ip : IpAddress) : Bool :=
  match n.address, ip with
  | .v4 base, .v4 ip => inNetwork ip (base, n.prefixLength)
  | .v6 base _, .v6 ip _ => inNetwork ip (base, n.prefixLength)
  | _, _ => false

/-- The numbers of the addresses of a network. -/
def interval (n : IpNetwork) : Interval where
  first := n.address.number
  last := n.address.number + 2 ^ (n.address.bits - n.prefixLength) - 1
  ordered := by
    have : 0 < 2 ^ (n.address.bits - n.prefixLength) := Nat.pow_pos (by decide)
    omega

theorem contains_iff {n : IpNetwork} (hn : n.WellFormed) {ip : IpAddress} :
    n.contains ip = true ↔ n.version = ip.version ∧ n.interval.Mem ip.number := by
  obtain ⟨base, length⟩ := n
  have hmasked := hn.masked
  cases base with
  | v4 base =>
    cases ip with
    | v4 ip =>
      rw [show contains ⟨.v4 base, length⟩ (.v4 ip) = inNetwork ip (base, length) from rfl,
        inNetwork_iff hmasked.1 hmasked.2]
      exact ⟨fun h => ⟨rfl, h⟩, And.right⟩
    | v6 ip scope =>
      refine ⟨fun h => ?_, fun h => ?_⟩
      · cases h
      · exact absurd h.1 (show ¬(4 : Nat) = 6 by decide)
  | v6 base scope =>
    cases ip with
    | v4 ip =>
      refine ⟨fun h => ?_, fun h => ?_⟩
      · cases h
      · exact absurd h.1 (show ¬(6 : Nat) = 4 by decide)
    | v6 ip scope' =>
      rw [show contains ⟨.v6 base scope, length⟩ (.v6 ip scope') = inNetwork ip (base, length) from
        rfl, inNetwork_iff hmasked.1 hmasked.2]
      exact ⟨fun h => ⟨rfl, h⟩, And.right⟩

end IpNetwork

/-! ## 3. What a list of networks leaves out -/

/-- How many addresses a family has. -/
def familySize (version : Nat) : Nat := if version = 4 then 2 ^ 32 else 2 ^ 128

/-- Some address of the family is in none of the networks. -/
def Excludes (version : Nat) (cidrs : List PyStr) : Prop :=
  ∃ ip : IpAddress, ip.version = version ∧
    ∀ n ∈ cidrs.filterMap IpNetwork.parse, n.contains ip = false

/-- The intervals of the networks of a family. -/
def familyIntervals (version : Nat) (cidrs : List PyStr) : List Interval :=
  ((cidrs.filterMap IpNetwork.parse).filter fun n => n.version == version).map IpNetwork.interval

/-- The networks of a family start with its first address, and behind each of them another one
follows unless the family ends there. -/
def LeavesNoGap (version : Nat) (cidrs : List PyStr) : Prop :=
  Closed (familyIntervals version cidrs) (familySize version)

instance (version : Nat) (cidrs : List PyStr) : Decidable (LeavesNoGap version cidrs) :=
  inferInstanceAs (Decidable (Closed _ _))

/-- The addresses of a family are numbered without a gap. -/
theorem exists_number {version x : Nat} (hversion : version = 4 ∨ version = 6)
    (hx : x < familySize version) : ∃ ip : IpAddress, ip.version = version ∧ ip.number = x := by
  rcases hversion with rfl | rfl
  · exact ⟨.v4 (BitVec.ofNat 32 x), rfl, by
      simp only [IpAddress.number, BitVec.toNat_ofNat]
      exact Nat.mod_eq_of_lt hx⟩
  · exact ⟨.v6 (BitVec.ofNat 128 x) none, rfl, by
      simp only [IpAddress.number, BitVec.toNat_ofNat]
      exact Nat.mod_eq_of_lt hx⟩

theorem number_lt (ip : IpAddress) : ip.number < familySize ip.version := by
  cases ip with
  | v4 ip => exact ip.isLt
  | v6 ip scope => exact ip.isLt

theorem covers_iff {cidrs : List PyStr} {ip : IpAddress} :
    Covers (familyIntervals ip.version cidrs) ip.number ↔
      ∃ n ∈ cidrs.filterMap IpNetwork.parse, n.contains ip = true := by
  unfold Covers familyIntervals
  simp only [List.mem_map, List.mem_filter, beq_iff_eq, exists_exists_and_eq_and]
  have hwellFormed : ∀ n ∈ cidrs.filterMap IpNetwork.parse, n.WellFormed := by
    intro n hn
    obtain ⟨c, -, hc⟩ := List.mem_filterMap.mp hn
    exact IpNetwork.wellFormed_of_parse hc
  constructor
  · rintro ⟨n, ⟨hn, hversion⟩, hmem⟩
    exact ⟨n, hn, (IpNetwork.contains_iff (hwellFormed n hn)).mpr ⟨hversion, hmem⟩⟩
  · rintro ⟨n, hn, hcontains⟩
    obtain ⟨hversion, hmem⟩ := (IpNetwork.contains_iff (hwellFormed n hn)).mp hcontains
    exact ⟨n, ⟨hn, hversion⟩, hmem⟩

/-- A list of networks leaves an address of a family out exactly if it has a gap. -/
theorem excludes_iff {version : Nat} {cidrs : List PyStr}
    (hversion : version = 4 ∨ version = 6) :
    Excludes version cidrs ↔ ¬LeavesNoGap version cidrs := by
  have hpos : 0 < familySize version := by
    rcases hversion with rfl | rfl <;> decide
  unfold LeavesNoGap
  rw [closed_iff hpos]
  constructor
  · rintro ⟨ip, rfl, hnone⟩ hall
    obtain ⟨n, hn, hcontains⟩ := covers_iff.mp (hall ip.number (number_lt ip))
    rw [hnone n hn] at hcontains
    cases hcontains
  · intro hnot
    obtain ⟨x, hnot⟩ := not_forall.mp hnot
    obtain ⟨hx, hcovers⟩ := Classical.not_imp.mp hnot
    obtain ⟨ip, rfl, rfl⟩ := exists_number hversion hx
    refine ⟨ip, rfl, fun n hn => ?_⟩
    rw [← Bool.not_eq_true]
    exact fun hcontains => hcovers (covers_iff.mpr ⟨n, hn, hcontains⟩)

/-- One half of the IPv4 addresses leaves the other out, the two together leave out none. -/
example : Excludes 4 [py "128.0.0.0/1"] ∧ ¬Excludes 4 [py "128.0.0.0/1", py "0.0.0.0/1"] := by
  rw [excludes_iff (.inl rfl), excludes_iff (.inl rfl)]
  decide +kernel

end ZtPlanet.Python
