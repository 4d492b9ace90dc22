/-
# The mask of a characteristics match

`chr` takes the bits that its words name, and writes them as sixteen hexadecimal digits: eight for
the upper half, eight for the lower one.  Each half is collected with the bitwise `|`, whose result
is signed, and is written without its sign.

With its highest bit a half is negative, so the absolute value is another number as soon as one more
bit of the half is set.  `namesOnly_iff` says exactly when the digits stand for the named bits.
-/
import Mathlib.Data.Nat.Bitwise
import ZtPlanet.Ztnet.RuleWords

namespace ZtPlanet.Ztnet.RuleCompiler

open ZtPlanet.Js

/-! ## 1. Digits -/

theorem unitValue_digitChar : ∀ d < 16, unitValue (UInt16.ofNat (Nat.digitChar d).toNat) = d := by
  decide

theorem isLowerHex_digitChar :
    ∀ d < 16, isLowerHex (UInt16.ofNat (Nat.digitChar d).toNat) = true := by
  decide

theorem ofUnits_append_one (radix : Nat) (s : JsString) (u : UInt16) :
    ofUnits radix (s ++ [u]) = ofUnits radix s * radix + unitValue u := by
  simp [ofUnits]

/-- The digits of a number denote it. -/
theorem ofUnits_toDigits (n : Nat) :
    ofUnits 16 ((Nat.toDigits 16 n).map fun c => UInt16.ofNat c.toNat) = n := by
  induction n using Nat.strongRecOn with
  | _ n ih =>
    rw [Nat.toDigits_eq_if (by decide)]
    split
    · rename_i hlt
      simp [ofUnits, unitValue_digitChar n hlt]
    · rename_i hge
      rw [List.map_append, List.map_singleton, ofUnits_append_one,
        ih (n / 16) (Nat.div_lt_self (by omega) (by decide)),
        unitValue_digitChar _ (Nat.mod_lt _ (by decide))]
      omega

/-- Zeros in front of digits. -/
theorem ofUnits_zeros (k : Nat) (s : JsString) :
    ofUnits 16 (List.replicate k 48 ++ s) = ofUnits 16 s := by
  induction k with
  | zero => rfl
  | succ k ih => exact ih

theorem ofUnits_append (s t : JsString) :
    ofUnits 16 (s ++ t) = 2 ^ (4 * t.length) * ofUnits 16 s + ofUnits 16 t := by
  induction t using List.reverseRecOn with
  | nil => simp [ofUnits]
  | append_singleton t u ih =>
    rw [← List.append_assoc, ofUnits_append_one, ih, ofUnits_append_one, List.length_append,
      List.length_singleton, Nat.mul_add, Nat.pow_add]
    ring

section

variable {mask : Js.Num}

theorem ofUnits_hexMask : ofUnits 16 (hexMask mask) = (mask.getD 0).natAbs := by
  unfold hexMask
  rw [ofUnits_zeros, ofUnits_toDigits]

theorem isLowerHex_of_mem_hexMask {u : UInt16} (hu : u ∈ hexMask mask) : isLowerHex u = true := by
  unfold hexMask at hu
  rcases List.mem_append.mp hu with hu | hu
  · rw [List.eq_of_mem_replicate hu]
    decide
  · obtain ⟨c, hc, rfl⟩ := List.mem_map.mp hu
    exact Python.forall_mem_toDigits (P := fun c => isLowerHex (UInt16.ofNat c.toNat) = true)
      (by decide) isLowerHex_digitChar _ c hc

theorem length_hexMask (h : (mask.getD 0).natAbs < 2 ^ 32) : (hexMask mask).length = 8 := by
  have hdigits : (Nat.toDigits 16 (mask.getD 0).natAbs).length ≤ 8 :=
    (Nat.length_toDigits_le_iff (by decide) (by decide)).mpr h
  unfold hexMask
  rw [List.length_append, List.length_replicate, List.length_map]
  omega

end

/-! ## 2. Halves -/

/-- The absolute value of a signed half. -/
def halfValue (half : BitVec 32) : Nat := half.toInt.natAbs

theorem halfValue_lt (half : BitVec 32) : halfValue half < 2 ^ 32 := by
  have hlt := half.isLt
  unfold halfValue
  rw [BitVec.toInt_eq_toNat_cond]
  split
  · omega
  · omega

/-- **A half is written as it is**, unless its highest bit is set and is not the only one. -/
theorem halfValue_eq_toNat_iff {half : BitVec 32} :
    halfValue half = half.toNat ↔
      (half.getLsbD 31 = true → ∀ i < 32, half.getLsbD i = true → i = 31) := by
  have hlt := half.isLt
  have hvalue : halfValue half = half.toNat ↔ half.toNat ≤ 2 ^ 31 := by
    unfold halfValue
    rw [BitVec.toInt_eq_msb_cond, BitVec.msb_eq_decide]
    split
    · rename_i hmsb
      have := of_decide_eq_true hmsb
      omega
    · rename_i hmsb
      have := of_decide_eq_false (Bool.not_eq_true _ ▸ hmsb)
      omega
  rw [hvalue]
  have htop : half.getLsbD 31 = decide (2 ^ 31 ≤ half.toNat) := by
    exact (BitVec.msb_eq_getLsbD_last half).symm.trans (BitVec.msb_eq_decide half)
  rw [htop, decide_eq_true_iff]
  constructor
  · intro hle htop i hi hbit
    have heq : half = BitVec.twoPow 32 31 := by
      apply BitVec.eq_of_toNat_eq
      rw [le_antisymm hle htop]
      rfl
    rw [heq, BitVec.getLsbD_twoPow] at hbit
    simp at hbit
    omega
  · intro honly
    by_contra hgt
    have hge : 2 ^ 31 ≤ half.toNat := by omega
    have heq : half = BitVec.twoPow 32 31 := by
      apply BitVec.eq_of_getLsbD_eq
      intro i hi
      rw [BitVec.getLsbD_twoPow]
      by_cases h31 : i = 31
      · subst h31
        rw [htop]
        simpa using hge
      · have hclear : half.getLsbD i = false := by
          rw [← Bool.not_eq_true]
          intro hbit
          exact h31 (honly hge i hi hbit)
        rw [hclear]
        simp
        omega
    rw [heq] at hgt
    exact hgt (by decide)

/-! ## 3. The bits of an argument -/

/-- The bits that words name. -/
def namedBits (unicode : Unicode) (words : List JsString) : List Int :=
  (words.filter fun word => !word.isEmpty).map (characteristicBit unicode)

/-- A half that a loop has collected, on top of what was there. -/
def Collects (half half' : BitVec 32) (base : Int) (bits : List Int) : Prop :=
  ∀ i < 32, half'.getLsbD i = (half.getLsbD i || decide (base + (i : Int) ∈ bits))

theorem bits_absBit : ∀ n < 32, (absBit n).bits = BitVec.twoPow 32 n := by decide

theorem or_absBit {n : Nat} (hn : n < 32) (half : BitVec 32) :
    (Js.Num.ofBits half).or (absBit n) = Js.Num.ofBits (half ||| BitVec.twoPow 32 n) := by
  unfold Js.Num.or
  rw [Js.Num.bits_ofBits, bits_absBit n hn]

theorem Collects.skip {half half' : BitVec 32} {base bit : Int} {bits : List Int}
    (h : Collects half half' base bits) (hbit : bit < base ∨ base + 32 ≤ bit) :
    Collects half half' base (bit :: bits) := by
  intro i hi
  have hne : base + (i : Int) ≠ bit := by omega
  rw [h i hi]
  simp [hne]

theorem Collects.set {half half' : BitVec 32} {base bit : Int} {bits : List Int} {n : Nat}
    (h : Collects (half ||| BitVec.twoPow 32 n) half' base bits) (hbit : bit = base + n)
    (hn : n < 32) :
    Collects half half' base (bit :: bits) := by
  intro i hi
  have hiff : base + (i : Int) = bit ↔ n = i := by omega
  rw [h i hi, BitVec.getLsbD_or, BitVec.getLsbD_twoPow]
  simp [hn, hiff, Bool.or_assoc]

variable {unicode : Unicode}

/-- **The loop over the words** collects both halves. -/
theorem collects_of_characteristicMasks {words : List JsString} {hi lo : BitVec 32}
    {masks : Js.Num × Js.Num}
    (h : characteristicMasks unicode words (Js.Num.ofBits hi, Js.Num.ofBits lo) = some masks) :
    (∀ bit ∈ namedBits unicode words, 0 ≤ bit ∧ bit ≤ 63) ∧ ∃ hi' lo',
      masks = (Js.Num.ofBits hi', Js.Num.ofBits lo') ∧
        Collects hi hi' 32 (namedBits unicode words) ∧
          Collects lo lo' 0 (namedBits unicode words) := by
  induction words generalizing hi lo with
  | nil =>
    cases h
    refine ⟨by simp [namedBits], hi, lo, rfl, ?_, ?_⟩
    · intro i hi
      simp [namedBits]
    · intro i hi
      simp [namedBits]
  | cons word words ih =>
    rw [characteristicMasks] at h
    by_cases hword : word = []
    · rw [if_pos hword] at h
      subst hword
      exact ih h
    · have hnamed : namedBits unicode (word :: words) =
          characteristicBit unicode word :: namedBits unicode words := by
        simp [namedBits, hword]
      rw [if_neg hword] at h
      rw [hnamed]
      dsimp only at h
      by_cases hrange : characteristicBit unicode word < 0 ∨ characteristicBit unicode word > 63
      · rw [if_pos hrange] at h
        cases h
      rw [if_neg hrange] at h
      have hbit : 0 ≤ characteristicBit unicode word ∧ characteristicBit unicode word ≤ 63 := by
        omega
      by_cases hupper : characteristicBit unicode word ≥ 32
      · rw [if_pos hupper, or_absBit (by omega)] at h
        obtain ⟨hrest, hi', lo', rfl, hhi, hlo⟩ := ih h
        refine ⟨List.forall_mem_cons.mpr ⟨hbit, hrest⟩, hi', lo', rfl, ?_, hlo.skip (by omega)⟩
        exact hhi.set (by omega) (by omega)
      · rw [if_neg hupper, or_absBit (by omega)] at h
        obtain ⟨hrest, hi', lo', rfl, hhi, hlo⟩ := ih h
        refine ⟨List.forall_mem_cons.mpr ⟨hbit, hrest⟩, hi', lo', rfl, hhi.skip (by omega), ?_⟩
        exact hlo.set (by omega) (by omega)

/-! ## 4. The mask -/

/-- The words of an argument of `chr`. -/
def characteristicWords (arg : JsString) : List JsString := splitRuns (· == 44) arg

/-- What an argument of `chr` is written as. -/
theorem exists_halves {arg mask : JsString} (h : characteristicMask unicode arg = some mask) :
    (∀ bit ∈ namedBits unicode (characteristicWords arg), 0 ≤ bit ∧ bit ≤ 63) ∧
      ∃ hi lo : BitVec 32, mask = hexMask (Js.Num.ofBits hi) ++ hexMask (Js.Num.ofBits lo) ∧
        (∀ i < 32, hi.getLsbD i = decide
          (32 + (i : Int) ∈ namedBits unicode (characteristicWords arg))) ∧
        ∀ i < 32, lo.getLsbD i = decide
          ((i : Int) ∈ namedBits unicode (characteristicWords arg)) := by
  obtain ⟨masks, hmasks, rfl⟩ := Option.map_eq_some_iff.mp h
  have hzero : some 0 = Js.Num.ofBits 0#32 := rfl
  rw [hzero] at hmasks
  obtain ⟨hrange, hi, lo, rfl, hhi, hlo⟩ := collects_of_characteristicMasks hmasks
  refine ⟨hrange, hi, lo, rfl, ?_, ?_⟩
  · intro i hlt
    rw [hhi i hlt, BitVec.getLsbD_zero, Bool.false_or]
    rfl
  · intro i hlt
    rw [hlo i hlt, BitVec.getLsbD_zero, Bool.false_or, Int.zero_add]
    rfl

theorem length_hexMask_ofBits (half : BitVec 32) : (hexMask (Js.Num.ofBits half)).length = 8 :=
  length_hexMask (halfValue_lt half)

/-- Sixteen hexadecimal digits. -/
def IsMask (mask : JsString) : Prop := mask.length = 16 ∧ ∀ u ∈ mask, isLowerHex u = true

theorem isMask_characteristicMask {arg mask : JsString}
    (h : characteristicMask unicode arg = some mask) : IsMask mask := by
  obtain ⟨-, hi, lo, rfl, -, -⟩ := exists_halves h
  constructor
  · rw [List.length_append, length_hexMask_ofBits, length_hexMask_ofBits]
  · intro u hu
    rcases List.mem_append.mp hu with hu | hu
    · exact isLowerHex_of_mem_hexMask hu
    · exact isLowerHex_of_mem_hexMask hu

theorem ofUnits_halves (hi lo : BitVec 32) :
    ofUnits 16 (hexMask (Js.Num.ofBits hi) ++ hexMask (Js.Num.ofBits lo)) =
      2 ^ 32 * halfValue hi + halfValue lo := by
  rw [ofUnits_append, length_hexMask_ofBits, ofUnits_hexMask, ofUnits_hexMask]
  rfl

/-- Two halves are the bits of both. -/
theorem halfValues_eq_iff {hi lo : BitVec 32} :
    2 ^ 32 * halfValue hi + halfValue lo = 2 ^ 32 * hi.toNat + lo.toNat ↔
      halfValue hi = hi.toNat ∧ halfValue lo = lo.toNat := by
  have hlo := halfValue_lt lo
  have hlo' := lo.isLt
  constructor
  · intro h
    omega
  · rintro ⟨hhi, hlo⟩
    rw [hhi, hlo]

/-- Among the bits are the highest one of a half and another one of it. -/
def Collide (bits : List Int) : Prop :=
  ∃ top ∈ bits, (top = 31 ∨ top = 63) ∧ ∃ bit ∈ bits, top - 31 ≤ bit ∧ bit < top

/-- **The mask holds the named bits**, and no others, exactly where the highest bit of no half is
named together with another one of it. -/
theorem namesOnly_iff {arg mask : JsString} (h : characteristicMask unicode arg = some mask) :
    (∀ i : Nat, (ofUnits 16 mask).testBit i =
        decide ((i : Int) ∈ namedBits unicode (characteristicWords arg))) ↔
      ¬Collide (namedBits unicode (characteristicWords arg)) := by
  obtain ⟨hrange, hi, lo, rfl, hhi, hlo⟩ := exists_halves h
  generalize namedBits unicode (characteristicWords arg) = bits at hrange hhi hlo
  have hbits : ∀ i : Nat, (2 ^ 32 * hi.toNat + lo.toNat).testBit i = decide ((i : Int) ∈ bits) := by
    intro i
    rw [Nat.testBit_two_pow_mul_add _ lo.isLt]
    split
    · rename_i hlt
      exact hlo i hlt
    · rename_i hge
      by_cases hlt : i - 32 < 32
      · have hi64 : 32 + ((i - 32 : Nat) : Int) = i := by omega
        have hbit := hhi (i - 32) hlt
        rw [hi64] at hbit
        exact hbit
      · have hnone : (i : Int) ∉ bits := by
          intro hmem
          have := hrange _ hmem
          omega
        rw [decide_eq_false hnone]
        exact BitVec.getLsbD_of_ge hi _ (by omega)
  have hexact : (∀ i : Nat, (ofUnits 16 (hexMask (Js.Num.ofBits hi) ++
      hexMask (Js.Num.ofBits lo))).testBit i = decide ((i : Int) ∈ bits)) ↔
        halfValue hi = hi.toNat ∧ halfValue lo = lo.toNat := by
    rw [ofUnits_halves, ← halfValues_eq_iff]
    constructor
    · intro hsame
      refine Nat.eq_of_testBit_eq fun i => ?_
      rw [hsame, hbits]
    · intro hsame i
      rw [hsame, hbits]
  rw [hexact, halfValue_eq_toNat_iff, halfValue_eq_toNat_iff, hhi 31 (by decide),
    hlo 31 (by decide)]
  simp only [decide_eq_true_eq]
  constructor
  · rintro ⟨hhigh, hlow⟩ ⟨top, htop, rfl | rfl, bit, hbit, hge, hlt⟩
    · have hfirst := hlow htop bit.toNat (by omega)
      rw [hlo _ (by omega), decide_eq_true_eq, Int.toNat_of_nonneg (by omega)] at hfirst
      have := hfirst hbit
      omega
    · have hfirst := hhigh htop (bit - 32).toNat (by omega)
      rw [hhi _ (by omega), decide_eq_true_eq, Int.toNat_of_nonneg (by omega)] at hfirst
      have := hfirst (by simpa using hbit)
      omega
  · intro hnone
    constructor
    · intro htop i hlt hbit
      rw [hhi i hlt, decide_eq_true_eq] at hbit
      by_contra hne
      exact hnone ⟨63, htop, .inr rfl, _, hbit, by omega, by omega⟩
    · intro htop i hlt hbit
      rw [hlo i hlt, decide_eq_true_eq] at hbit
      by_contra hne
      exact hnone ⟨31, htop, .inl rfl, _, hbit, by omega, by omega⟩

/-- The two highest bits: the sign is taken for one of them. -/
theorem inbound_multicast :
    characteristicMask asciiCase (js "inbound,multicast") = some (js "4000000000000000") := by
  decide +kernel

theorem inbound_multicast_collide :
    (∀ i : Nat, (ofUnits 16 (js "4000000000000000")).testBit i =
        decide ((i : Int) ∈ namedBits asciiCase (characteristicWords (js "inbound,multicast")))) ↔
      ¬Collide (namedBits asciiCase (characteristicWords (js "inbound,multicast"))) :=
  namesOnly_iff inbound_multicast

end ZtPlanet.Ztnet.RuleCompiler
