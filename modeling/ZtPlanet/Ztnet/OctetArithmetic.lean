/-
# 32-bit arithmetic on octets

The routers and the pages put addresses together of their octets, and take them apart again, with
shifts, masks and sums of signed numbers.  Whichever way they do it, the bits of the number are
those of the address (`bits_sumOctets`, `foldl_octets`), and the octets that are cut out of it are
its own (`shiftRight_and`).
-/
import ZtPlanet.Ztnet.AddressText

namespace ZtPlanet.Ztnet

open ZtPlanet.Lib ZtPlanet.Python ZtPlanet.Js

/-! ## 1. Numbers of octets -/

theorem toNat_ofOctets (a b c d : BitVec 8) :
    (ofOctets a b c d).toNat = ((a.toNat * 256 + b.toNat) * 256 + c.toNat) * 256 + d.toNat := by
  have happend : ∀ {v : Nat} (m : BitVec v) (o : BitVec 8),
    (m ++ o).toNat = m.toNat * 256 + o.toNat := by
    intro v m o
    rw [BitVec.toNat_append, ← Nat.shiftLeft_add_eq_or_of_lt o.isLt, Nat.shiftLeft_eq]
  unfold ofOctets
  rw [happend, happend, happend]

/-- A step of the reading of octets. -/
theorem shiftLeft_add_octet (n : BitVec 32) (o : BitVec 8) :
    ((Js.Num.ofBits n).shiftLeft (some 8)).add (some (o.toNat : Int)) =
      Js.Num.ofBits ((n <<< 8) + o.setWidth 32) := by
  have ho := o.isLt
  have hshift : (n <<< 8).toNat = n.toNat * 256 % 2 ^ 32 := by
    rw [BitVec.toNat_shiftLeft, Nat.shiftLeft_eq]
  have hsum : ((n <<< 8) + o.setWidth 32).toNat = (n <<< 8).toNat + o.toNat := by
    rw [BitVec.toNat_add, BitVec.toNat_setWidth]
    omega
  unfold Js.Num.shiftLeft
  rw [Js.Num.bits_ofBits]
  show some ((n <<< 8).toInt + (o.toNat : Int)) = some ((n <<< 8) + o.setWidth 32).toInt
  rw [BitVec.toInt_eq_toNat_cond, BitVec.toInt_eq_toNat_cond, hsum]
  congr 1
  split <;> split <;> omega

/-- Octets that are read one after the other. -/
theorem foldl_octets (n : BitVec 32) :
    (octets n).foldl (fun acc o =>
      Js.Num.add (Js.Num.shiftLeft acc (some 8)) (some (o.toNat : Int)))
      (some 0) = Js.Num.ofBits n := by
  obtain ⟨a, b, c, d, rfl⟩ := exists_ofOctets n
  rw [octets_ofOctets]
  show ((((((((Js.Num.ofBits 0).shiftLeft (some 8)).add (some (a.toNat : Int))).shiftLeft
    (some 8)).add
    (some (b.toNat : Int))).shiftLeft (some 8)).add (some (c.toNat : Int))).shiftLeft (some 8)).add
      (some (d.toNat : Int)) = _
  rw [shiftLeft_add_octet, shiftLeft_add_octet, shiftLeft_add_octet, shiftLeft_add_octet]
  congr 1
  apply BitVec.eq_of_toNat_eq
  rw [toNat_ofOctets]
  have ha := a.isLt
  have hb := b.isLt
  have hc := c.isLt
  have hd := d.isLt
  simp only [BitVec.toNat_add, BitVec.toNat_setWidth, BitVec.toNat_shiftLeft, Nat.shiftLeft_eq]
  omega

theorem bits_octet (o : BitVec 8) : Js.Num.bits (some (o.toNat : Int)) = o.setWidth 32 := by
  unfold Js.Num.bits
  rw [Option.getD_some, BitVec.ofInt_natCast, BitVec.ofNat_toNat]

theorem bits_toInt (n : BitVec 32) : Js.Num.bits (some n.toInt) = n := Js.Num.bits_ofBits n

/-- The number that is put together of the octets. -/
def sumOctets (a b c d : BitVec 8) : Js.Num :=
  (((Js.Num.shiftLeft (some (a.toNat : Int)) (some 24)).add
    (Js.Num.shiftLeft (some (b.toNat : Int)) (some 16))).add
      (Js.Num.shiftLeft (some (c.toNat : Int)) (some 8))).add (some (d.toNat : Int))

theorem bits_sumOctets (a b c d : BitVec 8) : (sumOctets a b c d).bits = ofOctets a b c d := by
  have hshift (o : BitVec 8) (k : Int) (n : Nat) (hk : (Js.Num.bits (some k)).toNat % 32 = n) :
      Js.Num.shiftLeft (some (o.toNat : Int)) (some k) = some ((o.setWidth 32) <<< n).toInt := by
    unfold Js.Num.shiftLeft
    rw [bits_octet, hk]
    rfl
  have hsum (x y z u : Int) : (((Js.Num.add (some x) (some y)).add (some z)).add (some u)).bits =
      Js.Num.bits (some x) + Js.Num.bits (some y) + Js.Num.bits (some z) +
        Js.Num.bits (some u) := by
    show (Js.Num.add (some (x + y + z)) (some u)).bits = _
    rw [Js.Num.bits_add_some]
    show (Js.Num.add (some (x + y)) (some z)).bits + _ = _
    rw [Js.Num.bits_add_some]
    show (Js.Num.add (some x) (some y)).bits + _ + _ = _
    rw [Js.Num.bits_add_some]
  unfold sumOctets
  rw [hshift a 24 24 (by decide), hshift b 16 16 (by decide), hshift c 8 8 (by decide), hsum,
    bits_toInt, bits_toInt, bits_toInt, bits_octet]
  apply BitVec.eq_of_toNat_eq
  have ha := a.isLt
  have hb := b.isLt
  have hc := c.isLt
  have hd := d.isLt
  simp only [toNat_ofOctets, BitVec.toNat_add, BitVec.toNat_setWidth, BitVec.toNat_shiftLeft,
    Nat.shiftLeft_eq]
  omega

/-- Octets that are put together by shifts. -/
theorem or_octets (a b c d : BitVec 8) :
    a.setWidth 32 <<< 24 ||| b.setWidth 32 <<< 16 ||| c.setWidth 32 <<< 8 ||| d.setWidth 32 =
      ofOctets a b c d := by
  unfold ofOctets
  refine BitVec.eq_of_getLsbD_eq fun i hi => ?_
  have hhigh := @BitVec.getLsbD_of_ge 8
  simp only [BitVec.getLsbD_append, BitVec.getLsbD_or, BitVec.getLsbD_shiftLeft,
    BitVec.getLsbD_setWidth]
  grind

/-! ## 2. Octets of numbers -/

theorem toString_natCast (n : Nat) : Js.toString (some (n : Int)) 10 = Python.decimal n := by
  unfold Js.toString Python.decimal
  simp

/-- What is below 2^31 is not negative as a signed number. -/
theorem ofBits_of_lt {b : BitVec 32} (h : b.toNat < 2 ^ 31) :
    Js.Num.ofBits b = some (b.toNat : Int) := by
  unfold Js.Num.ofBits
  rw [BitVec.toInt_eq_toNat_cond, if_pos (by omega)]

theorem and_ofOctets (a b c d a' b' c' d' : BitVec 8) :
    ofOctets a b c d &&& ofOctets a' b' c' d' =
      ofOctets (a &&& a') (b &&& b') (c &&& c') (d &&& d') := by
  unfold ofOctets
  exact BitVec.and_append.trans (congrArg (· ++ (d &&& d'))
    (BitVec.and_append.trans (congrArg (· ++ (c &&& c')) BitVec.and_append)))

/-- An octet is cut out of a number by a mask and a shift. -/
theorem shiftRight_and (shift : Nat) {x mask : Js.Num} {b : BitVec 32} {n : Nat}
    (hshift : shift < 32)
    (h : x.bits &&& mask.bits = b) (hn : b.toNat / 2 ^ shift = n) :
    (x.and mask).shiftRight (some (shift : Int)) = some (n : Int) := by
  have hbits : (Js.Num.bits (some (shift : Int))).toNat % 32 = shift := by
    unfold Js.Num.bits
    rw [Option.getD_some, BitVec.ofInt_natCast, BitVec.toNat_ofNat]
    omega
  unfold Js.Num.shiftRight Js.Num.and
  rw [Js.Num.bits_ofBits, h, hbits, BitVec.toNat_ushiftRight, Nat.shiftRight_eq_div_pow,
    hn]

end ZtPlanet.Ztnet
