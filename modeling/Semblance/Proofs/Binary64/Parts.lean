import Mathlib
import Semblance.Value.Number

/-!
# Binary64 numbers and their parts

A number is held in 64 bits and computed with as a sign, a mantissa and an exponent. The two forms
stand for each other: no two numbers have the same parts, and parts that were rounded to 53 bits
are the parts of a number, unless their exponent is too large, which makes an infinity of them.
-/

namespace Semblance.Binary64

open Float.Model Float.Model.UnpackedFloat

/-- The sign, mantissa and exponent of a number, or which special number it is. -/
def parts (x : Float) : UnpackedFloat := x.toModel.unpack

/-- The number with the given parts. -/
def ofParts (u : UnpackedFloat) : Float := .ofModel (.pack u)

/-- The mantissa has 53 bits, or fewer if the exponent is the least one. -/
def IsRounded : UnpackedFloat → Prop
  | .finite _ mantissa exponent _ =>
      mantissa < 2 ^ 53 ∧ -1074 ≤ exponent ∧ (2 ^ 52 ≤ mantissa ∨ exponent = -1074)
  | _ => True

/-- What is left of parts once they are held as a number: a large exponent makes an infinity. -/
def overflowed : UnpackedFloat → UnpackedFloat
  | .finite sign mantissa exponent pos =>
      if 971 < exponent then .infinity sign else .finite sign mantissa exponent pos
  | u => u

/-! ## The three bit fields -/

/-- The mantissa field of a number leaves out its first bit. -/
theorem toNat_implicit (m : BitVec 52) : (1#1 ++ m).toNat = 2 ^ 52 + m.toNat := by
  rw [BitVec.toNat_append, ← Nat.shiftLeft_add_eq_or_of_lt m.isLt, Nat.shiftLeft_eq]
  rfl

theorem log2_add_one_eq_iff {m : Nat} (pos : 0 < m) (small : m < 2 ^ 53) :
    m.log2 + 1 = Format.binary64.mantissaBits ↔ 2 ^ 52 ≤ m := by
  have below : m.log2 < 53 := (Nat.log2_lt (by omega)).mpr small
  have full : 52 ≤ m.log2 ↔ 2 ^ 52 ≤ m := Nat.le_log2 (by omega)
  change m.log2 + 1 = 53 ↔ 2 ^ 52 ≤ m
  omega

/-! ## Packing -/

/-- The exponent field of a finite number. -/
def exponentField (e : Int) : Nat := (e + 1075).toNat

/-- Rounded parts are packed field by field. -/
theorem pack_finite {s : Sign} {m : Nat} {e : Int} (pos : 0 < m) (small : m < 2 ^ 53) :
    UnpackedFloat.pack .binary64 (.finite s m e pos) =
      if 971 < e then packedInfinity .binary64 s
      else if 2 ^ 52 ≤ m then
        packComponents .binary64 s (.ofNat 11 (exponentField e)) (.ofNat 52 m)
      else packComponents .binary64 s 0#11 (.ofNat 52 m) := by
  have field : (e + Format.binary64.exponentBias + (52 : Nat) : Int).toNat = exponentField e := by
    rw [exponentField, show (Format.binary64.exponentBias : Int) = 1023 from rfl]
    omega
  have large : 2 ^ 11 ≤ exponentField e + 1 ↔ 971 < e := by
    rw [exponentField]
    omega
  rw [UnpackedFloat.pack]
  simp only [field, large, log2_add_one_eq_iff pos small]

/-- Unpacking reads the three fields. -/
theorem unpack_packComponents (s : Sign) (e : BitVec 11) (m : BitVec 52) :
    UnpackedFloat.unpack .binary64 (packComponents .binary64 s e m) =
      if e = -1#11 then if m = 0#52 then .infinity s else .notANumber
      else if e = 0#11 then
        if h : m = 0#52 then .zero s
        else .finite s m.toNat (-1074) (by simpa [BitVec.toNat_pos, BitVec.pos_iff_ne_zero])
      else .finite s (2 ^ 52 + m.toNat) (e.toNat - 1075) (by omega) := by
  rw [UnpackedFloat.unpack]
  simp only [unpackExponent_packComponents, unpackMantissa_packComponents,
    unpackSign_packComponents, Sign.ofBitVec_toBitVec, toNat_implicit,
    show Format.binary64.exponentBias = 1023 from rfl]
  by_cases full : e = -1#11
  · rw [if_pos full, if_pos full]
  · rw [if_neg full, if_neg full]
    by_cases least : e = 0#11
    · subst least
      rfl
    · rw [if_neg least, if_neg least]
      rfl

/-- A field holds no value but the one it was given. -/
theorem ofNat_ne {w n : Nat} {v : BitVec w} (fits : n < 2 ^ w) (other : n ≠ v.toNat) :
    BitVec.ofNat w n ≠ v := by
  rintro rfl
  rw [BitVec.toNat_ofNat, Nat.mod_eq_of_lt fits] at other
  exact other rfl

/-- Unpacking gives rounded parts. -/
theorem isRounded_unpack (b : BitVec Format.binary64.numBits) :
    IsRounded (UnpackedFloat.unpack .binary64 b) := by
  rw [← packComponents_unpackSign_unpackExponent_unpackMantissa b, unpack_packComponents]
  generalize unpackExponent b = e
  generalize unpackMantissa b = m
  have mantissa : m.toNat < 2 ^ 52 := m.isLt
  split
  · split <;> trivial
  · split
    · split
      · trivial
      · -- A subnormal number has the least exponent, and any mantissa.
        exact ⟨by omega, by omega, .inr rfl⟩
    · rename_i notLeast
      have positive : 0 < e.toNat := by
        simpa [BitVec.toNat_pos, BitVec.pos_iff_ne_zero] using notLeast
      exact ⟨by omega, by omega, .inl (by omega)⟩

/-- Packed parts are unpacked again, but for those that are too large. -/
theorem unpack_pack {u : UnpackedFloat} (rounded : IsRounded u) :
    UnpackedFloat.unpack .binary64 (UnpackedFloat.pack .binary64 u) = overflowed u := by
  cases u with
  | notANumber => rfl
  | infinity s => cases s <;> rfl
  | zero s => cases s <;> rfl
  | finite s m e pos =>
      obtain ⟨small, low, full⟩ := rounded
      rw [pack_finite pos small, overflowed]
      by_cases large : 971 < e
      · rw [if_pos large, if_pos large]
        cases s <;> rfl
      · rw [if_neg large, if_neg large]
        by_cases normal : 2 ^ 52 ≤ m
        · -- The first bit of the mantissa is left out, and the exponent tells that it was there.
          have inner : 0 < exponentField e ∧ exponentField e < 2047 := by
            rw [exponentField]
            omega
          have notFull : BitVec.ofNat 11 (exponentField e) ≠ -1#11 :=
            ofNat_ne (by omega) (show exponentField e ≠ 2047 by omega)
          have notLeast : BitVec.ofNat 11 (exponentField e) ≠ 0#11 :=
            ofNat_ne (by omega) (show exponentField e ≠ 0 by omega)
          rw [if_pos normal, unpack_packComponents, if_neg notFull, if_neg notLeast]
          congr 1
          · rw [BitVec.toNat_ofNat]
            omega
          · rw [BitVec.toNat_ofNat, exponentField]
            omega
        · have least : e = -1074 := full.resolve_left normal
          have nonzero : BitVec.ofNat 52 m ≠ 0#52 :=
            ofNat_ne (by omega) (show m ≠ 0 by omega)
          rw [if_neg normal, unpack_packComponents, if_neg (by decide), if_pos rfl,
            dif_neg nonzero]
          congr 1
          · rw [BitVec.toNat_ofNat]
            omega
          · exact least.symm

/-! ## Numbers -/

theorem isRounded_parts (x : Float) : IsRounded (parts x) := isRounded_unpack _

/-- Rounded parts are the parts of a number, but for those that are too large. -/
theorem parts_ofParts {u : UnpackedFloat} (rounded : IsRounded u) :
    parts (ofParts u) = overflowed u :=
  unpack_pack rounded

/-- A number is put together from its parts. -/
theorem ofParts_parts (x : Float) : ofParts (parts x) = x := by
  obtain ⟨⟨bits, valid⟩⟩ := x
  have word : UInt64.ofBitVec (UnpackedFloat.pack .binary64
      (UnpackedFloat.unpack .binary64 bits.toBitVec)) = bits := by
    rw [pack_unpack_of_valid valid]
  simp [ofParts, parts, Float.Model.pack, Float.Model.unpack, word]

/-- The parts of a number are small enough to be held. -/
theorem overflowed_parts (x : Float) : overflowed (parts x) = parts x := by
  rw [← parts_ofParts (isRounded_parts x), ofParts_parts]

theorem parts_injective {x y : Float} (same : parts x = parts y) : x = y := by
  rw [← ofParts_parts x, ← ofParts_parts y, same]

end Semblance.Binary64
