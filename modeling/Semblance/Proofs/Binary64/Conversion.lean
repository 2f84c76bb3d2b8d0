import Semblance.Proofs.Binary64.Comparison

/-!
# Integers as binary64 numbers

The nearest number to an integer is always a number, so what a value holds as its number is one.
-/

namespace Semblance.Binary64

open Float.Model Float.Model.UnpackedFloat

theorem isNaN_unpack_packComponents (s : Sign) {e : BitVec 11} (m : BitVec 52)
    (notFull : e ≠ -1#11) :
    (UnpackedFloat.unpack .binary64 (packComponents .binary64 s e m)).isNaN = false := by
  rw [unpack_packComponents, if_neg notFull]
  split
  · split <;> rfl
  · rfl

/-- Only what is no number is packed as no number. -/
theorem isNaN_ofParts (u : UnpackedFloat) : (ofParts u).isNaN = u.isNaN := by
  change (UnpackedFloat.unpack .binary64 (UnpackedFloat.pack .binary64 u)).isNaN = u.isNaN
  cases u with
  | notANumber => rfl
  | infinity s => cases s <;> rfl
  | zero s => cases s <;> rfl
  | finite s m e pos =>
      rw [UnpackedFloat.pack]
      dsimp only
      generalize (e + Format.binary64.exponentBias +
        Format.binary64.mantissaBitsWithoutImplicit : Int).toNat = field
      split
      · cases s <;> rfl
      · rename_i small
        split
        · apply isNaN_unpack_packComponents
          intro full
          have fieldEq := congrArg BitVec.toNat full
          simp only [BitVec.toNat_ofNat] at fieldEq
          change field % 2 ^ 11 = 2047 at fieldEq
          omega
        · exact isNaN_unpack_packComponents s _ (by decide)

theorem isNaN_roundWithAccuracy (s : Sign) (m : Nat) (e : Int) (a : Accuracy) :
    (roundWithAccuracy .binary64 s m e a).isNaN = false := by
  rw [roundWithAccuracy]
  dsimp only
  split <;> rfl

theorem isNaN_normalize (m : Int) (e : Int) (zero : Sign) :
    (UnpackedFloat.normalize .binary64 m e zero).isNaN = false := by
  rw [UnpackedFloat.normalize]
  split
  · exact isNaN_roundWithAccuracy ..
  · rfl
  · exact isNaN_roundWithAccuracy ..

theorem isNaN_mul_finite (u : UnpackedFloat) (s : Sign) (m : Nat) (e : Int) (pos : 0 < m) :
    (UnpackedFloat.mul .binary64 u (.finite s m e pos)).isNaN = u.isNaN := by
  cases u with
  | finite t n f pos => exact isNaN_roundWithAccuracy ..
  | _ => rfl

theorem isNaN_ofScientific (n : Nat) (e : Int) :
    (UnpackedFloat.ofScientific .binary64 n e).isNaN = false := by
  rw [UnpackedFloat.ofScientific]
  split
  · rfl
  split
  · rfl
  split
  · rfl
  split
  · exact isNaN_mul_finite ..
  · rw [UnpackedFloat.div]
    exact isNaN_roundWithAccuracy ..

theorem isNaN_ofNat (n : Nat) : (Float.ofNat n).isNaN = false := by
  change (Float.ofScientific n false 0).isNaN = false
  rw [Float.ofScientific]
  split
  · change (ofParts (UnpackedFloat.mul .binary64 (parts n.toUInt64.toFloat) (parts 1.0))).isNaN =
      false
    rw [isNaN_ofParts, parts_one, isNaN_mul_finite, ← isNaN_eq]
    change (ofParts (UnpackedFloat.ofUInt64 .binary64 n.toUInt64)).isNaN = false
    rw [isNaN_ofParts]
    exact isNaN_normalize ..
  · change (ofParts (UnpackedFloat.ofScientific .binary64 n 0)).isNaN = false
    rw [isNaN_ofParts, isNaN_ofScientific]

theorem isNaN_neg (x : Float) : x.neg.isNaN = x.isNaN := by
  change (ofParts (parts x).neg).isNaN = x.isNaN
  rw [isNaN_ofParts, isNaN_eq]
  cases parts x <;> rfl

theorem isNaN_ofInt (n : Int) : (Float.ofInt n).isNaN = false := by
  cases n with
  | ofNat n => exact isNaN_ofNat n
  | negSucc n => rw [Float.ofInt, isNaN_neg, isNaN_ofNat]

/-- A value that is a number has a number. -/
theorem isNaN_toFloat (n : Number) : n.toFloat.isNaN = false := by
  cases n with
  | int value lower upper => exact isNaN_ofInt value
  | float value finite =>
      rw [isFinite_eq] at finite
      rw [Number.toFloat, isNaN_eq]
      cases h : parts value with
      | notANumber =>
          rw [h] at finite
          exact absurd finite (by decide)
      | _ => rfl

end Semblance.Binary64
