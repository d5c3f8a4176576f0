import Mathlib

set_option autoImplicit false

/-!
# Doubles

A double is determined by its sign, its mantissa and its exponent. So operations that leave these as
they are leave the double as it is: adding negative zero, and dividing by one, where the quotient has
at most one more digit than the mantissa and that digit is zero.
-/
namespace TimeSeries.Double

open Float.Model Float.Model.UnpackedFloat

/-! ## What doubles unpack to -/

/-- A mantissa has 53 bits, and fewer only at the least exponent. -/
structure IsCanonical (mantissa : Nat) (exponent : Int) : Prop where
  lt : mantissa < 2 ^ 53
  least : -1074 ≤ exponent
  full : exponent = -1074 ∨ 2 ^ 52 ≤ mantissa

theorem targetExponent_binary64 (total : Int) :
    Format.binary64.targetExponent total = max (total - 53) (-1074) :=
  rfl

theorem log2_lt {mantissa bound : Nat} (hpos : 0 < mantissa) (h : mantissa < 2 ^ bound) :
    mantissa.log2 < bound :=
  (Nat.log2_lt (Nat.ne_of_gt hpos)).2 h

theorem IsCanonical.log2_eq {mantissa : Nat} {exponent : Int} (h : IsCanonical mantissa exponent)
    (hfull : 2 ^ 52 ≤ mantissa) : mantissa.log2 = 52 := by
  have hlow := (Nat.le_log2 (by omega)).2 hfull
  have hhigh := log2_lt (by omega) h.lt
  omega

/-- A zero, or a number with a canonical mantissa, as finite doubles unpack to. -/
inductive IsUnpacked : UnpackedFloat → Prop
  | zero {sign : Sign} : IsUnpacked (.zero sign)
  | finite {sign : Sign} {mantissa : Nat} {exponent : Int} (pos : 0 < mantissa)
      (canonical : IsCanonical mantissa exponent) : IsUnpacked (.finite sign mantissa exponent pos)

/-- The first digit of the mantissa is not stored where the stored exponent is not zero. -/
theorem isCanonical_normal {mantissa : BitVec 52} {stored : BitVec 11} (hzero : stored ≠ 0) :
    IsCanonical (1#1 ++ mantissa).toNat ((stored.toNat : Int) - 1075) := by
  have hlt := mantissa.isLt
  have hpos : stored.toNat ≠ 0 := fun heq => hzero (BitVec.eq_of_toNat_eq heq)
  have hone : (1#1 ++ mantissa).toNat = 2 ^ 52 + mantissa.toNat := by
    rw [BitVec.toNat_append]
    exact (Nat.shiftLeft_add_eq_or_of_lt hlt 1).symm
  rw [hone]
  exact ⟨by omega, by omega, Or.inr (by omega)⟩

theorem isUnpacked_unpack {bits : BitVec Format.binary64.numBits}
    (h : (UnpackedFloat.unpack .binary64 bits).isFinite = true) :
    IsUnpacked (UnpackedFloat.unpack .binary64 bits) := by
  unfold UnpackedFloat.unpack at h ⊢
  dsimp only at h ⊢
  split at h
  · split at h <;> cases h
  · rename_i hspecial
    rw [if_neg hspecial]
    split
    · rename_i hzero
      split
      · exact .zero
      · have hleast : ((unpackExponent bits).toNat : Int) - (Format.binary64.exponentBias +
            Format.binary64.mantissaBitsWithoutImplicit) + 1 = -1074 := by
          rw [hzero]
          rfl
        have hlt : (unpackMantissa bits).toNat < 2 ^ 52 := (unpackMantissa bits).isLt
        simp only [hleast]
        exact .finite _ ⟨Nat.lt_trans hlt (by decide), Int.le_refl _, Or.inl rfl⟩
    · rename_i hzero
      exact .finite _ (isCanonical_normal hzero)

/-! ## Exact operations -/

theorem shiftRight_double (mantissa : Nat) :
    (⟨mantissa * 2, false, false⟩ : ExtendedMantissa) >>> 1 = ⟨mantissa, false, false⟩ := by
  change ExtendedMantissa.shiftRightOne ⟨mantissa * 2, false, false⟩ = _
  simp [ExtendedMantissa.shiftRightOne]

theorem IsCanonical.targetExponent_eq {mantissa : Nat} {exponent : Int} (hpos : 0 < mantissa)
    (h : IsCanonical mantissa exponent) :
    Format.binary64.targetExponent (totalExponent mantissa exponent) = exponent := by
  have hlog := log2_lt hpos h.lt
  have hleast := h.least
  rw [targetExponent_binary64, totalExponent]
  rcases h.full with heq | hfull
  · omega
  · rw [h.log2_eq hfull]
    omega

theorem shiftRight_zero (mantissa : ExtendedMantissa) : mantissa >>> 0 = mantissa :=
  rfl

theorem IsCanonical.shiftToTargetExponent_eq {mantissa : Nat} {exponent : Int} (hpos : 0 < mantissa)
    (h : IsCanonical mantissa exponent) :
    shiftToTargetExponent .binary64 mantissa exponent .exact = (⟨mantissa, false, false⟩, exponent) := by
  rw [shiftToTargetExponent, h.targetExponent_eq hpos, shiftToExponent]
  simp [ExtendedMantissa.ofMantissaAndAccuracy, shiftRight_zero]

theorem IsCanonical.shiftToTargetExponent_double {mantissa : Nat} {exponent : Int}
    (hpos : 0 < mantissa) (h : IsCanonical mantissa exponent) :
    shiftToTargetExponent .binary64 (mantissa * 2) (exponent - 1) .exact =
      (⟨mantissa, false, false⟩, exponent) := by
  have htotal : totalExponent (mantissa * 2) (exponent - 1) = totalExponent mantissa exponent := by
    rw [totalExponent, totalExponent, Nat.mul_comm, Nat.log2_two_mul (Nat.ne_of_gt hpos)]
    omega
  have hshift : (exponent - (exponent - 1)).toNat = 1 := by omega
  have hsum : exponent - 1 + (1 : Nat) = exponent := by omega
  rw [shiftToTargetExponent, htotal, h.targetExponent_eq hpos, shiftToExponent]
  dsimp only [ExtendedMantissa.ofMantissaAndAccuracy]
  rw [hshift, shiftRight_double, hsum]

theorem round_of_shift {sign : Sign} {mantissa wide : Nat} {exponent low : Int} (hpos : 0 < mantissa)
    (h : IsCanonical mantissa exponent)
    (hshift : shiftToTargetExponent .binary64 wide low .exact = (⟨mantissa, false, false⟩, exponent)) :
    roundWithAccuracy .binary64 sign wide low .exact = .finite sign mantissa exponent hpos := by
  have hrounded : ExtendedMantissa.roundedMantissa ⟨mantissa, false, false⟩ = mantissa := rfl
  have hne : mantissa ≠ 0 := Nat.ne_of_gt hpos
  simp only [roundWithAccuracy, hshift, hrounded, h.shiftToTargetExponent_eq hpos, hne, dite_false]

/-- Dividing by one, whose mantissa is the largest power of two that fits, leaves no remainder. -/
theorem div_one_unpacked {sign : Sign} {mantissa : Nat} {exponent : Int} (hpos : 0 < mantissa)
    (h : IsCanonical mantissa exponent) :
    UnpackedFloat.div .binary64 (.finite sign mantissa exponent hpos)
      (.finite .positive (2 ^ 52) (-52) (by decide)) = .finite sign mantissa exponent hpos := by
  have hsign : sign / Sign.positive = sign := by cases sign <;> rfl
  have htotal : totalExponent (2 ^ 52) (-52) = 1 := rfl
  have hexact (n : Nat) : accuracyOfFraction (n * 2 ^ 52 % 2 ^ 52) (2 ^ 52) = .exact := by
    rw [Nat.mul_mod_left, accuracyOfFraction, if_pos rfl]
  have hleast := h.least
  rw [UnpackedFloat.div]
  dsimp only
  rw [hsign, divCore, htotal, targetExponent_binary64]
  dsimp only
  by_cases heq : exponent = -1074
  · have hlog := log2_lt hpos h.lt
    have hmin : min (exponent - -52) (max (totalExponent mantissa exponent - 1 - 53) (-1074)) =
        exponent := by
      rw [totalExponent]
      omega
    have hfifty : (exponent - -52 - exponent).toNat = 52 := by omega
    rw [hmin, hfifty, Nat.shiftLeft_eq, hexact, Nat.mul_div_cancel _ (by decide)]
    exact round_of_shift hpos h (h.shiftToTargetExponent_eq hpos)
  · have hfull := h.full.resolve_left heq
    have hmin : min (exponent - -52) (max (totalExponent mantissa exponent - 1 - 53) (-1074)) =
        exponent - 1 := by
      rw [totalExponent, h.log2_eq hfull]
      omega
    have hfifty : (exponent - -52 - (exponent - 1)).toNat = 53 := by omega
    have hpower : mantissa * 2 ^ 53 = mantissa * 2 * 2 ^ 52 := by omega
    rw [hmin, hfifty, Nat.shiftLeft_eq, hpower, hexact, Nat.mul_div_cancel _ (by decide)]
    exact round_of_shift hpos h (h.shiftToTargetExponent_double hpos)

/-! ## Finite doubles -/

section Finite

variable {unpacked : UnpackedFloat} {x : Float}

theorem IsUnpacked.add_eq (h : IsUnpacked unpacked) :
    UnpackedFloat.add .binary64 (.zero .negative) unpacked = unpacked := by
  cases h with
  | @zero sign => cases sign <;> rfl
  | finite => rfl

theorem IsUnpacked.div_eq (h : IsUnpacked unpacked) :
    UnpackedFloat.div .binary64 unpacked (.finite .positive (2 ^ 52) (-52) (by decide)) =
      unpacked := by
  cases h with
  | @zero sign => cases sign <;> rfl
  | finite pos canonical => exact div_one_unpacked pos canonical

theorem isUnpacked_of_isFinite (h : x.isFinite = true) : IsUnpacked x.toModel.unpack :=
  isUnpacked_unpack h

theorem pack_unpack (x : Float) : (⟨Float.Model.pack x.toModel.unpack⟩ : Float) = x := by
  obtain ⟨⟨⟨bits⟩, hvalid⟩⟩ := x
  simp only [Float.Model.pack, Float.Model.unpack, pack_unpack_of_valid hvalid]

theorem negative_zero_add (h : x.isFinite = true) : -0.0 + x = x := by
  have hzero : (-0.0 : Float).toModel.unpack = .zero .negative := rfl
  have hadd : -0.0 + x = ⟨Float.Model.pack (UnpackedFloat.add .binary64
      (-0.0 : Float).toModel.unpack x.toModel.unpack)⟩ := rfl
  rw [hadd, hzero, (isUnpacked_of_isFinite h).add_eq, pack_unpack]

theorem div_ofNat_one (h : x.isFinite = true) : x / Float.ofNat 1 = x := by
  have hone : (Float.ofNat 1).toModel.unpack = .finite .positive (2 ^ 52) (-52) (by decide) := rfl
  have hdiv : x / Float.ofNat 1 = ⟨Float.Model.pack (UnpackedFloat.div .binary64
      x.toModel.unpack (Float.ofNat 1).toModel.unpack)⟩ := rfl
  rw [hdiv, hone, (isUnpacked_of_isFinite h).div_eq, pack_unpack]

end Finite

end TimeSeries.Double
