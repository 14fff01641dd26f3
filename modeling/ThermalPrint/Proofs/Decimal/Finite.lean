import Mathlib.Data.Nat.Log
import ThermalPrint.Decimal.Binary

/-
Doubles that are no infinity.

A double is a mantissa of 53 bits and an exponent.  A quotient and a product raise the exponent by
no more than the exponents of their parts come to and the rounding adds, so a number of moderate
size that is scaled by the ratio of two others is finite and can be rounded to a whole one.
-/

namespace ThermalPrint
namespace Decimal

open Float.Model Float.Model.UnpackedFloat

abbrev binary64 : Format := Format.binary64

/-- A double taken apart is finite, with an exponent up to a bound. -/
def Within (top : Int) : UnpackedFloat → Prop
  | .zero _ => True
  | .finite _ m e _ => m < 2 ^ 53 ∧ e ≤ top
  | _ => False

section Rounding

theorem shiftRight_mantissa (em : ExtendedMantissa) (n : Nat) :
    (em >>> n).mantissa = em.mantissa / 2 ^ n := by
  show (n.repeat ExtendedMantissa.shiftRightOne em).mantissa = _
  induction n with
  | zero => simp [Nat.repeat]
  | succ n ih =>
    rw [Nat.repeat]
    show (Nat.repeat ExtendedMantissa.shiftRightOne n em).mantissa / 2 = _
    rw [ih, Nat.div_div_eq_div_mul, Nat.pow_succ]

theorem roundedMantissa_le (em : ExtendedMantissa) : em.roundedMantissa ≤ em.mantissa + 1 := by
  obtain ⟨m, r, s⟩ := em
  unfold ExtendedMantissa.roundedMantissa
  cases r <;> cases s <;>
    simp only [ExtendedMantissa.accuracy, Accuracy.roundToNearestEven] <;> omega

theorem ofMantissa_mantissa (m : Nat) (acc : Accuracy) :
    (ExtendedMantissa.ofMantissaAndAccuracy m acc).mantissa = m := by
  unfold ExtendedMantissa.ofMantissaAndAccuracy
  split <;> rfl

/-- A mantissa is brought to 53 bits, and its exponent to what it takes for that. -/
theorem shift_spec (m : Nat) (e : Int) (acc : Accuracy) :
    (shiftToTargetExponent binary64 m e acc).1.mantissa < 2 ^ 53 ∧
      (shiftToTargetExponent binary64 m e acc).2 =
        max e (max (totalExponent m e - 53) (-1074)) := by
  unfold shiftToTargetExponent shiftToExponent
  dsimp only
  rw [shiftRight_mantissa, ofMantissa_mantissa]
  have htarget : Format.targetExponent binary64 (totalExponent m e) =
      max (totalExponent m e - 53) (-1074) := rfl
  rw [htarget]
  refine ⟨?_, by omega⟩
  rw [Nat.div_lt_iff_lt_mul (Nat.two_pow_pos _), ← Nat.pow_add]
  refine Nat.lt_of_lt_of_le Nat.lt_log2_self (Nat.pow_le_pow_right (by decide) ?_)
  unfold totalExponent at *
  omega

theorem log2_lt_of_lt {m k : Nat} (h : m < 2 ^ k) (hk : 0 < k) : m.log2 < k := by
  by_cases hm : m = 0
  · subst hm
    simpa using hk
  · exact (Nat.log2_lt hm).2 h

theorem round_within {top : Int} {m : Nat} {e : Int} {sign : Sign} {acc : Accuracy} (he : e ≤ top)
    (htotal : totalExponent m e ≤ top + 53) (hlow : -1074 ≤ top) :
    Within (top + 1) (roundWithAccuracy binary64 sign m e acc) := by
  obtain ⟨hm₁, he₁⟩ := shift_spec m e acc
  unfold roundWithAccuracy
  dsimp only
  generalize shiftToTargetExponent binary64 m e acc = first at *
  have hrounded : first.1.roundedMantissa < 2 ^ 54 := by
    have := roundedMantissa_le first.1
    omega
  obtain ⟨hm₂, he₂⟩ := shift_spec first.1.roundedMantissa first.2 .exact
  have hlog := log2_lt_of_lt hrounded (by decide)
  by_cases hzero :
      (shiftToTargetExponent binary64 first.1.roundedMantissa first.2 .exact).1.mantissa = 0
  · rw [dif_pos hzero]
    trivial
  · rw [dif_neg hzero]
    refine ⟨hm₂, ?_⟩
    rw [he₂]
    unfold totalExponent at *
    omega

/-- The quotient of two doubles, of which the lower one has all 53 bits. -/
theorem div_within {m₁ m₂ : Nat} {e₁ e₂ top : Int} {s₁ s₂ : Sign} {h₁ : 0 < m₁} {h₂ : 0 < m₂}
    (hm₁ : m₁ < 2 ^ 53) (hm₂ : 2 ^ 52 ≤ m₂) (he : e₁ - e₂ ≤ top) (hlow : -1074 ≤ top) :
    Within (top + 1) (UnpackedFloat.div binary64 (.finite s₁ m₁ e₁ h₁) (.finite s₂ m₂ e₂ h₂)) := by
  unfold UnpackedFloat.div divCore
  dsimp only
  generalize hexponent : min (e₁ - e₂) _ = e
  generalize hshift : (e₁ - e₂ - e).toNat = shift
  have hbound : m₁ <<< shift / m₂ < 2 ^ (shift + 1) := by
    rw [Nat.shiftLeft_eq, Nat.div_lt_iff_lt_mul h₂]
    calc m₁ * 2 ^ shift
        < 2 ^ 53 * 2 ^ shift := Nat.mul_lt_mul_of_pos_right hm₁ (Nat.two_pow_pos _)
      _ = 2 ^ (shift + 1) * 2 ^ 52 := by rw [← Nat.pow_add, ← Nat.pow_add]; congr 1; omega
      _ ≤ 2 ^ (shift + 1) * m₂ := Nat.mul_le_mul_left _ hm₂
  have hlog := log2_lt_of_lt hbound (Nat.succ_pos _)
  refine round_within (by omega) ?_ hlow
  unfold totalExponent
  omega

theorem mul_within {m : Nat} {e top : Int} {s : Sign} {h : 0 < m} {u : UnpackedFloat}
    (hm : m < 2 ^ 53) (hu : Within top u) (hlow : -1127 ≤ e + top) :
    Within (e + top + 54) (UnpackedFloat.mul binary64 (.finite s m e h) u) := by
  cases u with
  | zero s₂ => trivial
  | finite s₂ m₂ e₂ h₂ =>
    obtain ⟨hm₂, he₂⟩ := hu
    have hproduct : m * m₂ < 2 ^ 106 :=
      calc m * m₂ < 2 ^ 53 * 2 ^ 53 := Nat.mul_lt_mul'' hm hm₂
        _ = 2 ^ 106 := by rw [← Nat.pow_add]
    have hlog := log2_lt_of_lt hproduct (by decide)
    have htop : e + top + 54 = e + top + 53 + 1 := by omega
    rw [htop]
    refine round_within (by omega) ?_ (by omega)
    unfold totalExponent
    omega
  | infinity s₂ => exact hu.elim
  | notANumber => exact hu.elim

end Rounding

section Bits

def exponentField (b : BitVec binary64.numBits) : Nat := (unpackExponent b).toNat

/-- What a double is out of its bits, unless it is an infinity or no number. -/
theorem unpack_cases (b : BitVec binary64.numBits) (h : exponentField b ≠ 2047) :
    (exponentField b = 0 ∧ Within (-1074) (UnpackedFloat.unpack binary64 b)) ∨
      (exponentField b ≠ 0 ∧ ∃ s m hm,
        UnpackedFloat.unpack binary64 b = .finite s m (exponentField b - 1075) hm ∧
          2 ^ 52 ≤ m ∧ m < 2 ^ 53) := by
  unfold UnpackedFloat.unpack
  dsimp only
  have hnot : unpackExponent b ≠ -1#_ := by
    intro heq
    refine h ?_
    unfold exponentField
    rw [heq]
    rfl
  rw [if_neg hnot]
  by_cases hzero : unpackExponent b = 0#_
  · refine .inl ⟨?_, ?_⟩
    · unfold exponentField
      rw [hzero]
      rfl
    · rw [if_pos hzero]
      by_cases hnone : unpackMantissa b = 0#_
      · rw [dif_pos hnone]
        trivial
      · rw [dif_neg hnone]
        refine ⟨Nat.lt_of_lt_of_le (unpackMantissa b).isLt (by decide), ?_⟩
        rw [hzero]
        decide
  · refine .inr ⟨?_, ?_⟩
    · intro heq
      exact hzero (BitVec.eq_of_toNat_eq heq)
    · rw [if_neg hzero]
      have hlow : 2 ^ 52 ≤ (1#1 ++ unpackMantissa b).toNat := by
        rw [BitVec.toNat_append]
        exact Nat.le_trans (by decide) Nat.left_le_or
      have hpos : 0 < (1#1 ++ unpackMantissa b).toNat := Nat.lt_of_lt_of_le (by decide) hlow
      exact ⟨_, _, hpos, rfl, hlow, (1#1 ++ unpackMantissa b).isLt⟩

theorem exponentField_components (s : Sign) (e : BitVec binary64.exponentBits)
    (m : BitVec binary64.mantissaBitsWithoutImplicit) :
    exponentField (packComponents binary64 s e m) = e.toNat := by
  unfold exponentField
  rw [unpackExponent_packComponents]

/-- A mantissa of 53 bits has its exponent in the field, and a shorter one has none there. -/
theorem pack_field {s : Sign} {m : Nat} {e : Int} {hm : 0 < m} (hhigh : e < 972) :
    exponentField (UnpackedFloat.pack binary64 (.finite s m e hm)) =
      if m.log2 = 52 then (e + 1075).toNat else 0 := by
  unfold UnpackedFloat.pack
  dsimp only
  have hfield : (e + (Format.exponentBias binary64 : Nat) + (52 : Nat)).toNat =
      (e + 1075).toNat := by
    have hbias : Format.exponentBias binary64 = 1023 := rfl
    rw [hbias]
    congr 1
    omega
  rw [hfield, if_neg (by show ¬ 2 ^ 11 ≤ _; omega)]
  have hbits : (m.log2 + 1 = Format.mantissaBits binary64) ↔ m.log2 = 52 := by
    show m.log2 + 1 = 53 ↔ _
    omega
  by_cases h : m.log2 = 52
  · rw [if_pos (hbits.2 h), if_pos h, exponentField_components, BitVec.toNat_ofNat]
    exact Nat.mod_eq_of_lt (by show _ < 2 ^ 11; omega)
  · rw [if_neg fun hm => h (hbits.1 hm), if_neg h, exponentField_components]
    rfl

/-- A double within a bound is no infinity in its bits, and out of them it is within the same
bound. -/
theorem pack_within {top : Int} {u : UnpackedFloat} (h : Within top u) (hlow : -1074 ≤ top)
    (hhigh : top < 972) :
    exponentField (UnpackedFloat.pack binary64 u) ≠ 2047 ∧
      Within top (UnpackedFloat.unpack binary64 (UnpackedFloat.pack binary64 u)) := by
  have hfield : exponentField (UnpackedFloat.pack binary64 u) ≠ 2047 ∧
      (exponentField (UnpackedFloat.pack binary64 u) : Int) - 1075 ≤ top := by
    cases u with
    | zero s =>
      show exponentField (packComponents binary64 s 0 0) ≠ 2047 ∧
        (exponentField (packComponents binary64 s 0 0) : Int) - 1075 ≤ top
      rw [exponentField_components]
      refine ⟨by decide, ?_⟩
      show ((0 : Nat) : Int) - 1075 ≤ top
      omega
    | finite s m e hm =>
      rw [pack_field (Int.lt_of_le_of_lt h.2 hhigh)]
      have he := h.2
      split <;> omega
    | infinity s => exact h.elim
    | notANumber => exact h.elim
  refine ⟨hfield.1, ?_⟩
  rcases unpack_cases _ hfield.1 with ⟨-, hsmall⟩ | ⟨-, s, m, hm, heq, -, hlt⟩
  · generalize UnpackedFloat.unpack binary64 _ = v at *
    cases v with
    | zero s => trivial
    | finite s m e hm => exact ⟨hsmall.1, Int.le_trans hsmall.2 hlow⟩
    | infinity s => exact hsmall.elim
    | notANumber => exact hsmall.elim
  · rw [heq]
    exact ⟨hlt, hfield.2⟩

theorem exponentField_eq (b : BitVec binary64.numBits) :
    exponentField b = b.toNat / 2 ^ 52 % 2 ^ 11 := by
  unfold exponentField unpackExponent
  rw [BitVec.toNat_cast, BitVec.extractLsb_toNat, Nat.shiftRight_eq_div_pow]
  rfl

theorem round?_isSome {x : Float} (h : exponentField x.toModel.toBits.toBitVec ≠ 2047) :
    (round? x).isSome = true := by
  rw [exponentField_eq] at h
  have hfield : (x.toBits.toNat / 2 ^ 52 % 2 ^ 11 == 2047) = false := beq_false_of_ne h
  unfold round? parts
  dsimp only
  rw [hfield]
  by_cases hzero : (x.toBits.toNat / 2 ^ 52 % 2 ^ 11 == 0) = true
  · rw [if_neg Bool.false_ne_true, if_pos hzero]
    rfl
  · rw [if_neg Bool.false_ne_true, if_neg hzero]
    rfl

/-- A double has all 53 bits of its mantissa, and an exponent between bounds. -/
def Normal (low high : Int) (x : Float) : Prop :=
  ∃ s m e hm, x.toModel.unpack = .finite s m e hm ∧ 2 ^ 52 ≤ m ∧ m < 2 ^ 53 ∧ low ≤ e ∧ e ≤ high

theorem normal_ofBits {bits field : Nat} {low high : Int} (hfield : bits / 2 ^ 52 = field)
    (hpos : field ≠ 0) (hlt : field < 2047) (hlow : low ≤ field - 1075)
    (hhigh : field - 1075 ≤ high) : Normal low high (Float.ofBits (UInt64.ofNat bits)) := by
  have hbits : exponentField (UInt64.ofNat bits).toBitVec = field := by
    rw [exponentField_eq]
    show bits % 2 ^ 64 / 2 ^ 52 % 2 ^ 11 = field
    omega
  have hsame :
      exponentField (Float.ofBits (UInt64.ofNat bits)).toModel.toBits.toBitVec = field := by
    show exponentField (UnpackedFloat.pack binary64
      (UnpackedFloat.unpack binary64 (UInt64.ofNat bits).toBitVec)) = field
    rcases unpack_cases (UInt64.ofNat bits).toBitVec (by omega) with ⟨hzero, -⟩ |
      ⟨-, s, m, hm, heq, hge, hlt'⟩
    · omega
    · have hlog : m.log2 = 52 := (Nat.log2_eq_iff (by omega)).2 ⟨hge, hlt'⟩
      rw [heq, pack_field (by omega), if_pos hlog, hbits]
      omega
  rcases unpack_cases (Float.ofBits (UInt64.ofNat bits)).toModel.toBits.toBitVec (by omega) with
    ⟨hzero, -⟩ | ⟨-, s, m, hm, heq, hge, hlt'⟩
  · omega
  · rw [hsame] at heq
    exact ⟨s, m, _, hm, heq, hge, hlt', hlow, hhigh⟩

end Bits

section Nearest

theorem roundDiv_bounds (num den : Nat) :
    num / den ≤ roundDiv num den ∧ roundDiv num den ≤ num / den + 1 := by
  unfold roundDiv
  dsimp only
  split
  · omega
  · split <;> omega

theorem roundDiv_one (n : Nat) : roundDiv n 1 = n := by
  unfold roundDiv
  dsimp only
  rw [Nat.mod_one, if_pos (by decide), Nat.div_one]

section Powers

variable {n k : Nat} (hlow : 2 ^ k ≤ n) (hhigh : n < 2 ^ (k + 1))

include hlow hhigh

/-- A number brought to 53 bits and rounded fills them, or is the next power of two. -/
theorem roundScaled_full :
    2 ^ 52 ≤ roundScaled n 1 (52 - k) ∧ roundScaled n 1 (52 - k) ≤ 2 ^ 53 := by
  rcases Nat.lt_or_ge k 53 with hsmall | hlarge
  · have hshift : (52 - k : Int) = Int.ofNat (52 - k) := by
      show _ = ((52 - k : Nat) : Int)
      omega
    have hexact : roundScaled n 1 (Int.ofNat (52 - k)) = n * 2 ^ (52 - k) := roundDiv_one _
    rw [hshift, hexact]
    constructor
    · calc 2 ^ 52 = 2 ^ k * 2 ^ (52 - k) := by rw [← Nat.pow_add]; congr 1; omega
        _ ≤ n * 2 ^ (52 - k) := Nat.mul_le_mul_right _ hlow
    · calc n * 2 ^ (52 - k) ≤ 2 ^ (k + 1) * 2 ^ (52 - k) := Nat.mul_le_mul_right _ hhigh.le
        _ = 2 ^ 53 := by rw [← Nat.pow_add]; congr 1; omega
  · have hshift : (52 - k : Int) = Int.negSucc (k - 53) := by omega
    obtain ⟨hge, hle⟩ := roundDiv_bounds n (1 * 2 ^ (k - 53 + 1))
    have hquotient : 2 ^ 52 ≤ n / (1 * 2 ^ (k - 53 + 1)) := by
      rw [Nat.one_mul, Nat.le_div_iff_mul_le (Nat.two_pow_pos _), ← Nat.pow_add]
      exact Nat.le_trans (Nat.pow_le_pow_right (by decide) (by omega)) hlow
    have hless : n / (1 * 2 ^ (k - 53 + 1)) < 2 ^ 53 := by
      rw [Nat.one_mul, Nat.div_lt_iff_lt_mul (Nat.two_pow_pos _), ← Nat.pow_add]
      exact Nat.lt_of_lt_of_le hhigh (Nat.pow_le_pow_right (by decide) (by omega))
    rw [hshift]
    exact ⟨Nat.le_trans hquotient hge, Nat.le_trans hle hless⟩

/-- The guessed exponent is one too low for a whole number, whatever its size. -/
theorem nearestBits_eq :
    nearestBits n 1 = min ((k + 1022) * 2 ^ 52 + roundScaled n 1 (52 - k)) infinityBits := by
  have hpos : n ≠ 0 := by
    rintro rfl
    exact absurd hlow (Nat.not_le_of_gt (Nat.two_pow_pos k))
  have hlog : n.log2 = k := (Nat.log2_eq_iff hpos).2 ⟨hlow, hhigh⟩
  have hone : Nat.log2 1 = 0 := by decide
  have hshift : -max ((k : Int) - (0 : Nat) - 53 + 1) (-1074) = 52 - k := by omega
  have hfield : (max ((k : Int) - (0 : Nat) - 53 + 1) (-1074) + 1074).toNat = k + 1022 := by omega
  unfold nearestBits
  rw [if_neg (by simpa using hpos), hlog, hone]
  dsimp only
  rw [if_pos, hshift, hfield]
  split
  · rename_i shift hguess
    have hguess : (k : Int) - (0 : Nat) - 53 = (shift : Nat) := hguess
    have hshift : shift + 53 = k := by omega
    rw [hshift, Nat.one_mul]
    exact decide_eq_true hlow
  · rename_i shift hguess
    have hwide : 1 * 2 ^ 53 ≤ n * 2 ^ (shift + 1) :=
      calc 1 * 2 ^ 53
          = 2 ^ k * 2 ^ (shift + 1) := by rw [Nat.one_mul, ← Nat.pow_add]; congr 1; omega
        _ ≤ n * 2 ^ (shift + 1) := Nat.mul_le_mul_right _ hlow
    exact decide_eq_true hwide

end Powers

theorem nearestBits_field {n : Nat} (hpos : 0 < n) (hlt : n < 2 ^ 256) :
    1023 ≤ nearestBits n 1 / 2 ^ 52 ∧ nearestBits n 1 / 2 ^ 52 ≤ 1279 := by
  have hlog : n.log2 < 256 := log2_lt_of_lt hlt (by decide)
  have hself : 2 ^ n.log2 ≤ n := Nat.log2_self_le hpos.ne'
  obtain ⟨hlow, hhigh⟩ := roundScaled_full hself Nat.lt_log2_self
  rw [nearestBits_eq hself Nat.lt_log2_self, infinityBits]
  omega

theorem nearest_normal {n : Nat} (hpos : 0 < n) (hlt : n < 2 ^ 256) :
    Normal (-52) 204 (nearest false n 1) := by
  obtain ⟨hlow, hhigh⟩ := nearestBits_field hpos hlt
  rw [nearest, assemble, if_neg Bool.false_ne_true]
  exact normal_ofBits rfl (by omega) (by omega) (by omega) (by omega)

theorem ofInt?_isNone {n : Nat} (hpos : 0 < n) (hlt : n < 2 ^ 256) :
    (ofInt? n).isNone = false := by
  obtain ⟨-, hhigh⟩ := nearestBits_field hpos hlt
  have hfinite : nearestBits (n : Int).natAbs 1 < infinityBits := by
    rw [Int.natAbs_natCast, infinityBits]
    omega
  unfold ofInt?
  dsimp only
  rw [if_pos hfinite]
  rfl

end Nearest

/-- A number of moderate size scaled by the ratio of two others can be rounded. -/
theorem scaled_isSome {x y z : Float} (hx : Normal (-52) 204 x) (hy : Normal (-52) 204 y)
    (hz : Normal (-52) 204 z) : (round? (x * (y / z))).isSome = true := by
  obtain ⟨s₁, m₁, e₁, h₁, hx, -, hlt₁, hlow₁, hhigh₁⟩ := hx
  obtain ⟨s₂, m₂, e₂, h₂, hy, -, hlt₂, hlow₂, hhigh₂⟩ := hy
  obtain ⟨s₃, m₃, e₃, h₃, hz, hge₃, -, hlow₃, hhigh₃⟩ := hz
  have hratio : Within 257 (y / z).toModel.unpack := by
    show Within (256 + 1) (UnpackedFloat.unpack binary64 (UnpackedFloat.pack binary64
      (UnpackedFloat.div binary64 y.toModel.unpack z.toModel.unpack)))
    rw [hy, hz]
    exact (pack_within (div_within hlt₂ hge₃ (by omega) (by decide)) (by decide) (by decide)).2
  refine round?_isSome ?_
  show exponentField (UnpackedFloat.pack binary64
      (UnpackedFloat.mul binary64 x.toModel.unpack (y / z).toModel.unpack)) ≠ 2047
  rw [hx]
  exact (pack_within (mul_within hlt₁ hratio (by omega)) (by omega) (by omega)).1

section Sign

def IsPositive : UnpackedFloat → Prop
  | .finite .positive .. => True
  | .infinity .positive => True
  | _ => False

theorem zero_unpack : (0 : Float).toModel.unpack = .zero .positive := rfl

theorem not_le_zero {x : Float} (h : IsPositive x.toModel.unpack) : ¬ x ≤ 0 := by
  intro hle
  have hle : UnpackedFloat.le x.toModel.unpack (0 : Float).toModel.unpack = true :=
    of_decide_eq_true hle
  rw [zero_unpack] at hle
  generalize x.toModel.unpack = u at *
  cases u with
  | zero s => exact h
  | finite s m e hm =>
    cases s with
    | positive => cases hle
    | negative => exact h
  | infinity s =>
    cases s with
    | positive => cases hle
    | negative => exact h
  | notANumber => exact h

theorem positive_of_lt {x : Float} (h : 0 < x) : IsPositive x.toModel.unpack := by
  have h : UnpackedFloat.lt (0 : Float).toModel.unpack x.toModel.unpack = true :=
    of_decide_eq_true h
  rw [zero_unpack] at h
  generalize x.toModel.unpack = u at *
  cases u with
  | zero s => cases h
  | finite s m e hm =>
    cases s with
    | positive => trivial
    | negative => cases h
  | infinity s =>
    cases s with
    | positive => trivial
    | negative => cases h
  | notANumber => cases h

theorem unpackSign_components {spec : Format} (s : Sign) (e : BitVec spec.exponentBits)
    (m : BitVec spec.mantissaBitsWithoutImplicit) :
    unpackSign (packComponents spec s e m) = s.toBitVec := by
  ext i hi
  have hi : i = 0 := by omega
  subst hi
  have hfront : ¬ spec.mantissaBitsWithoutImplicit + spec.exponentBits <
      spec.mantissaBitsWithoutImplicit := by omega
  unfold unpackSign packComponents
  simp [BitVec.getLsbD_append, BitVec.getElem_append, hfront]

theorem sign_unpack {b : BitVec binary64.numBits} {s : Sign} {m : Nat} {e : Int} {hm : 0 < m}
    (h : UnpackedFloat.unpack binary64 b = .finite s m e hm) :
    s = Sign.ofBitVec (unpackSign b) := by
  unfold UnpackedFloat.unpack at h
  dsimp only at h
  by_cases hlast : unpackExponent b = -1#_
  · rw [if_pos hlast] at h
    by_cases hnone : unpackMantissa b = 0#_
    · rw [if_pos hnone] at h
      cases h
    · rw [if_neg hnone] at h
      cases h
  · rw [if_neg hlast] at h
    by_cases hzero : unpackExponent b = 0#_
    · rw [if_pos hzero] at h
      by_cases hnone : unpackMantissa b = 0#_
      · rw [dif_pos hnone] at h
        cases h
      · rw [dif_neg hnone] at h
        cases h
        rfl
    · rw [if_neg hzero] at h
      cases h
      rfl

theorem sign_pack (s : Sign) (m : Nat) (e : Int) (hm : 0 < m) :
    unpackSign (UnpackedFloat.pack binary64 (.finite s m e hm)) = s.toBitVec := by
  unfold UnpackedFloat.pack
  dsimp only
  split
  · exact unpackSign_components ..
  · split
    · exact unpackSign_components ..
    · exact unpackSign_components ..

theorem unpackSign_low {b : BitVec binary64.numBits} (h : b.toNat < 2 ^ 63) :
    Sign.ofBitVec (unpackSign b) = .positive := by
  have hzero : unpackSign b = 0#1 := by
    refine BitVec.eq_of_toNat_eq ?_
    unfold unpackSign
    rw [BitVec.toNat_cast, BitVec.extractLsb_toNat, Nat.shiftRight_eq_div_pow]
    show b.toNat / 2 ^ 63 % 2 ^ 1 = 0
    omega
  rw [hzero]
  rfl

/-- Bits without a sign are those of a number above zero, from the least one with a full mantissa
on. -/
theorem positive_ofBits {bits : Nat} (hlow : 2 ^ 52 ≤ bits) (hhigh : bits < infinityBits) :
    IsPositive (Float.ofBits (UInt64.ofNat bits)).toModel.unpack := by
  rw [infinityBits] at hhigh
  obtain ⟨s, m, e, hm, hunpack, -⟩ : Normal _ _ (Float.ofBits (UInt64.ofNat bits)) :=
    normal_ofBits rfl (by omega) (by omega) (Int.le_refl _) (Int.le_refl _)
  have hbits : (UInt64.ofNat bits).toBitVec.toNat = bits := by
    show bits % 2 ^ 64 = bits
    omega
  have hfield : exponentField (UInt64.ofNat bits).toBitVec = bits / 2 ^ 52 := by
    rw [exponentField_eq, hbits]
    omega
  have hsign : s = .positive := by
    rw [sign_unpack hunpack]
    show Sign.ofBitVec (unpackSign (UnpackedFloat.pack binary64
      (UnpackedFloat.unpack binary64 (UInt64.ofNat bits).toBitVec))) = .positive
    rcases unpack_cases (UInt64.ofNat bits).toBitVec (by omega) with ⟨hzero, -⟩ |
      ⟨-, s', m', hm', hbefore, -⟩
    · omega
    · have hpositive : s' = .positive :=
        (sign_unpack hbefore).trans (unpackSign_low (by omega))
      rw [hbefore, sign_pack, hpositive]
      rfl
  rw [hunpack, hsign]
  trivial

theorem ofInt?_positive {n : Int} {x : Float} (hpos : 0 < n) (h : ofInt? n = some x) :
    IsPositive x.toModel.unpack := by
  unfold ofInt? at h
  dsimp only at h
  split at h
  · rename_i hfinite
    cases h
    have hn : 0 < n.natAbs := by omega
    have hself : 2 ^ n.natAbs.log2 ≤ n.natAbs := Nat.log2_self_le hn.ne'
    have hfull := (roundScaled_full hself Nat.lt_log2_self).1
    rw [assemble, if_neg (by simpa using hpos.le)]
    refine positive_ofBits ?_ hfinite
    rw [nearestBits_eq hself Nat.lt_log2_self, infinityBits]
    omega
  · cases h

end Sign

end Decimal
end ThermalPrint
