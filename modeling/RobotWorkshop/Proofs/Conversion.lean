import Mathlib
import RobotWorkshop.Clock.Nanos

/-!
Times that cannot be counted in nanoseconds.  Seconds are multiplied by a billion first, and what is
rounded then is the product, which may be too large for a float.  A product with a billion is
undefined only if the other factor is (`isNaN_mul_billion`), so (`Nanos.ofSeconds?_raises_iff`)

    a time cannot be converted  ↔  it is undefined or infinite, or its product is
-/

namespace RobotWorkshop

open Float.Model

/-! ## Packed floats -/

theorem isNaN_unpack_iff {spec : Format} (b : BitVec spec.numBits) :
    (UnpackedFloat.unpack spec b).isNaN = true ↔
      UnpackedFloat.unpackExponent b = -1#_ ∧ UnpackedFloat.unpackMantissa b ≠ 0#_ := by
  unfold UnpackedFloat.unpack
  dsimp only
  split
  · split <;> simp_all [UnpackedFloat.isNaN]
  · split
    · split <;> simp_all [UnpackedFloat.isNaN]
    · simp_all [UnpackedFloat.isNaN]

/-- To pack a float neither makes it undefined nor defines it. -/
theorem isNaN_pack (f : UnpackedFloat) : (pack f).isNaN = f.isNaN := by
  rw [Bool.eq_iff_iff]
  refine (isNaN_unpack_iff (UnpackedFloat.pack Format.binary64 f)).trans ?_
  cases f with
  | infinity s => simp [UnpackedFloat.pack, UnpackedFloat.packedInfinity, UnpackedFloat.isNaN]
  | notANumber => simp [UnpackedFloat.pack, UnpackedFloat.packedNaN, UnpackedFloat.isNaN]
  | zero s => simp [UnpackedFloat.pack, UnpackedFloat.packedZero, UnpackedFloat.isNaN]
  | finite s m e pos =>
    refine iff_of_false ?_ (by simp [UnpackedFloat.isNaN])
    unfold UnpackedFloat.pack
    dsimp only
    split
    · simp [UnpackedFloat.packedInfinity]
    · -- the exponent has a zero among its bits
      rename_i small
      split
      · rw [UnpackedFloat.unpackExponent_packComponents]
        rintro ⟨ones, -⟩
        have ones := congrArg BitVec.toNat ones
        simp only [BitVec.toNat_ofNat, BitVec.neg_one_eq_allOnes, BitVec.toNat_allOnes] at ones
        omega
      · simp

theorem isInf_pack_infinity (s : UnpackedFloat.Sign) : (pack (.infinity s)).isInf = true := by
  cases s <;> decide +kernel

theorem isNaN_roundWithAccuracy (spec : Format) (s : UnpackedFloat.Sign) (m : Nat) (e : Int)
    (a : UnpackedFloat.Accuracy) : (UnpackedFloat.roundWithAccuracy spec s m e a).isNaN = false := by
  unfold UnpackedFloat.roundWithAccuracy
  dsimp only
  split <;> rfl

/-! ## Products with a billion -/

theorem unpack_billion : ∃ m e pos, (1e9 : Float).toModel.unpack = .finite .positive m e pos :=
  ⟨_, _, _, rfl⟩

theorem isNaN_mul_billion (x : Float) : (x * 1e9).isNaN = x.isNaN := by
  obtain ⟨m, e, pos, billion⟩ := unpack_billion
  show (pack (UnpackedFloat.mul Format.binary64 x.toModel.unpack (1e9 : Float).toModel.unpack)).isNaN =
    x.toModel.unpack.isNaN
  rw [billion, isNaN_pack]
  cases x.toModel.unpack with
  | finite s m' e' pos' => exact isNaN_roundWithAccuracy _ _ _ _ _
  | _ => rfl

theorem isInf_mul_billion {x : Float} (infinite : x.isInf = true) : (x * 1e9).isInf = true := by
  obtain ⟨m, e, pos, billion⟩ := unpack_billion
  have infinite : x.toModel.unpack.isInf = true := infinite
  show (pack (UnpackedFloat.mul Format.binary64 x.toModel.unpack
      (1e9 : Float).toModel.unpack)).isInf = true
  rw [billion]
  cases unpacked : x.toModel.unpack with
  | infinity s => exact isInf_pack_infinity _
  | _ => rw [unpacked] at infinite; cases infinite

/-! ## Nanoseconds -/

namespace Nanos

/-- **A time cannot be converted** just if it is undefined, infinite or too large. -/
theorem ofSeconds?_raises_iff (seconds : Float) :
    (∃ fault, ofSeconds? seconds = .error fault) ↔
      seconds.isNaN = true ∨ seconds.isInf = true ∨ (seconds * 1e9).isInf = true := by
  rw [← isNaN_mul_billion]
  unfold ofSeconds?
  dsimp only
  split
  · rename_i undefined
    exact iff_of_true ⟨_, rfl⟩ (.inl undefined)
  · rename_i defined
    split
    · rename_i infinite
      exact iff_of_true ⟨_, rfl⟩ (.inr (.inr infinite))
    · rename_i finite
      refine iff_of_false nofun ?_
      rintro (undefined | infinite | infinite)
      · exact defined undefined
      · exact finite (isInf_mul_billion infinite)
      · exact finite infinite

end Nanos

end RobotWorkshop
