/-
  MetricQuery.Proofs.Formula.Literals
  ───────────────────────────────────
  **THE NUMBERS THAT LITERALS DENOTE.**

  A literal has no sign, and rounding keeps the sign.  So a literal denotes zero,
  a positive number, or infinity if it is too large, and never a negative number
  or an undefined one.  Infinity is written as a word.

    • `Upright`              — zero, a positive number, or infinity, taken apart,
    • `upright_ofScientific` — the format's own conversion of decimals,
    • `zero_le_toFloat`      — numerals denote no negative number,
    • `floatText_of_infinite` — what such a number is written as if it is not finite.
-/
import Mathlib
import MetricQuery.Text.Shortest

namespace MetricQuery.Text

open Float.Model

/-! ## §1. Numbers taken apart. -/

/-- The sign is positive, and the number is not undefined. -/
def Upright : UnpackedFloat → Prop
  | .infinity s => s = .positive
  | .notANumber => False
  | .zero s => s = .positive
  | .finite s _ _ _ => s = .positive

theorem upright_roundWithAccuracy (spec : Format) (m : Nat) (e : Int)
    (accuracy : UnpackedFloat.Accuracy) :
    Upright (UnpackedFloat.roundWithAccuracy spec .positive m e accuracy) := by
  unfold UnpackedFloat.roundWithAccuracy
  dsimp only
  split <;> rfl

/-- The number is positive and finite. -/
def isPositive : UnpackedFloat → Bool
  | .finite .positive _ _ _ => true
  | _ => false

/-- Products with a positive number keep the sign. -/
theorem Upright.mul {spec : Format} {x y : UnpackedFloat} (hx : Upright x)
    (hy : isPositive y = true) : Upright (UnpackedFloat.mul spec x y) := by
  match y, hy with
  | .finite .positive m e hm, _ =>
      cases x with
      | infinity s => cases hx; rfl
      | notANumber => cases hx
      | zero s => cases hx; rfl
      | finite s n f hn => cases hx; exact upright_roundWithAccuracy ..

/-- Quotients by a positive number keep the sign. -/
theorem Upright.div {spec : Format} {x y : UnpackedFloat} (hx : Upright x)
    (hy : isPositive y = true) : Upright (UnpackedFloat.div spec x y) := by
  match y, hy with
  | .finite .positive m e hm, _ =>
      cases x with
      | infinity s => cases hx; rfl
      | notANumber => cases hx
      | zero s => cases hx; rfl
      | finite s n f hn => cases hx; exact upright_roundWithAccuracy ..

theorem upright_ofScientific (spec : Format) (m : Nat) (e : Int) :
    Upright (UnpackedFloat.ofScientific spec m e) := by
  have hpositive : ∀ (n : Nat) (f : Int) (hn : 0 < n), Upright (.finite .positive n f hn) :=
    fun _ _ _ => rfl
  unfold UnpackedFloat.ofScientific
  split
  · rfl
  · split
    · rfl
    · split
      · rfl
      · split
        · exact (hpositive _ _ _).mul rfl
        · exact (hpositive _ _ _).div rfl

theorem upright_ofNat (spec : Format) (n : Nat) : Upright (UnpackedFloat.ofNat spec n) := by
  unfold UnpackedFloat.ofNat UnpackedFloat.ofInt UnpackedFloat.normalize
  split
  · rename_i hlt
    exact absurd (Int.compare_eq_lt.1 hlt) (by omega)
  · rfl
  · exact upright_roundWithAccuracy ..

/-- Bits with a positive sign are an upright number unless they are those of an undefined one. -/
theorem upright_unpack {spec : Format} {exponent : BitVec spec.exponentBits}
    {mantissa : BitVec spec.mantissaBitsWithoutImplicit}
    (h : exponent ≠ -1#_ ∨ mantissa = 0#_) :
    Upright (UnpackedFloat.unpack spec
      (UnpackedFloat.packComponents spec .positive exponent mantissa)) := by
  unfold UnpackedFloat.unpack
  simp only [UnpackedFloat.unpackExponent_packComponents,
    UnpackedFloat.unpackMantissa_packComponents, UnpackedFloat.unpackSign_packComponents]
  split
  · rename_i hexponent
    rw [if_pos (h.resolve_left (not_not.2 hexponent))]
    rfl
  · split
    · split <;> rfl
    · rfl

/-- **Packing keeps the sign.** -/
theorem Upright.unpack_pack {spec : Format} {x : UnpackedFloat} (hx : Upright x) :
    Upright (UnpackedFloat.unpack spec (UnpackedFloat.pack spec x)) := by
  have hzero : BitVec.ofNat spec.exponentBits 0 ≠ -1#_ := by
    simp [BitVec.zero_eq_neg_one_iff, Nat.ne_of_gt spec.he]
  cases x with
  | infinity s => cases hx; exact upright_unpack (.inr rfl)
  | notANumber => cases hx
  | zero s => cases hx; exact upright_unpack (.inr rfl)
  | finite s m e hm =>
      cases hx
      unfold UnpackedFloat.pack
      dsimp only
      split
      · exact upright_unpack (.inr rfl)
      · rename_i hlt
        split
        · refine upright_unpack (.inl ?_)
          -- The largest exponent is kept for infinity.
          intro hlargest
          have hnat := congrArg BitVec.toNat hlargest
          rw [BitVec.neg_one_eq_allOnes, BitVec.toNat_allOnes, BitVec.toNat_ofNat,
            Nat.mod_eq_of_lt (by omega)] at hnat
          omega
        · exact upright_unpack (.inl hzero)

/-! ## §2. Numerals. -/

theorem zero_le_iff {x : Float} :
    (0 : Float) ≤ x ↔ (UnpackedFloat.zero .positive).le x.toModel.unpack = true := by
  have hzero : (0 : Float).toModel.unpack = .zero .positive := by rfl
  show Float.le 0 x = true ↔ _
  unfold Float.le
  rw [decide_eq_true_eq]
  show (0 : Float).toModel.unpack.le x.toModel.unpack = true ↔ _
  rw [hzero]

theorem zero_le_of_upright {x : Float} (h : Upright x.toModel.unpack) : (0 : Float) ≤ x := by
  rw [zero_le_iff]
  cases hx : x.toModel.unpack with
  | infinity s => rw [hx] at h; cases h; rfl
  | notANumber => rw [hx] at h; cases h
  | zero s => rfl
  | finite s m e hm => rw [hx] at h; cases h; rfl

/-- The powers of ten in the table are positive. -/
theorem isPositive_powerOfTen {e : Nat} (he : e < Float.exactlyRepresentablePowersOfTen.size) :
    isPositive Float.exactlyRepresentablePowersOfTen[e].toModel.unpack = true := by
  have hall : Float.exactlyRepresentablePowersOfTen.all (fun x => isPositive x.toModel.unpack) =
      true := by
    decide +kernel
  exact Array.all_eq_true.1 hall e he

theorem upright_float_ofScientific (m : Nat) (negative : Bool) (e : Nat) :
    Upright (Float.ofScientific m negative e).toModel.unpack := by
  unfold Float.ofScientific
  split
  · rename_i h
    have hcount : Upright m.toUInt64.toFloat.toModel.unpack :=
      (upright_ofNat Format.binary64 _).unpack_pack
    have hpower := isPositive_powerOfTen
      (show e < Float.exactlyRepresentablePowersOfTen.size from Nat.lt_succ_of_le h.2)
    dsimp only
    cases negative with
    | true => exact (hcount.div hpower).unpack_pack
    | false => exact (hcount.mul hpower).unpack_pack
  · exact (upright_ofScientific Format.binary64 m _).unpack_pack

/-- **Numerals denote no negative number,** and none that is undefined. -/
theorem zero_le_toFloat (d : Decimal) : (0 : Float) ≤ d.toFloat := by
  unfold Decimal.toFloat
  split
  · decide +kernel
  · dsimp only
    split
    · decide +kernel
    · split
      · decide +kernel
      · exact zero_le_of_upright (upright_float_ofScientific ..)

/-- **What is not finite is written as a word.** -/
theorem floatText_of_infinite {x : Float} (hle : (0 : Float) ≤ x) (hx : x.isFinite = false) :
    floatText x = "inf" := by
  have hinfinite : x.toModel.unpack = .infinity .positive := by
    change x.toModel.unpack.isFinite = false at hx
    rw [zero_le_iff] at hle
    cases hu : x.toModel.unpack with
    | infinity s =>
        rw [hu] at hle
        cases s with
        | positive => rfl
        | negative => cases hle
    | notANumber => rw [hu] at hle; cases hle
    | zero s => rw [hu] at hx; cases hx
    | finite s m e hm => rw [hu] at hx; cases hx
  have hinf : x = 1.0 / 0.0 := by
    have hbits : x.toModel.toBits.toBitVec =
        UnpackedFloat.pack Format.binary64 x.toModel.unpack :=
      (UnpackedFloat.pack_unpack_of_valid x.toModel.valid).symm
    rw [hinfinite] at hbits
    rw [← Float.toBits_inj, ← UInt64.toBitVec_inj]
    refine hbits.trans ?_
    decide +kernel
  rw [hinf]
  decide +kernel

end MetricQuery.Text
