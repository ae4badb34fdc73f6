import Mathlib
import Reckon.Value

/-!
Contract: comparing doubles is comparing their places in one linear order, and an
integer of magnitude at most `2^53 - 1` becomes the double that stands exactly for it, so
two such integers compare as reals as they compare as integers.

A double unpacks into a class (`-inf`, negative, zero, positive, `+inf`, not a number), an
exponent and a significand. Comparison puts the classes in that order, orders positives by
exponent, then significand, and negatives the other way round, and holds of nothing where
either side is not a number. `orderKey` is that place in a lexicographic order, so on the
doubles that are numbers `<` is a strict order and `==` the equality of places
(`float_lt_iff`, `float_beq_iff`), and the order laws below follow from those of the key.

`floatOfInt n`, for `0 < |n| ≤ 2^53 - 1`, unpacks to the sign of `n`, the exponent
`log₂ |n| - 52` and the significand `|n| · 2^(52 - log₂ |n|)`, with nothing rounded away
(`unpack_floatOfInt`). The crux is the layout of the bits: the sign, exponent and fraction
that the rounding writes lie in disjoint bits, so the `|||` that joins them is a sum, and
unpacking reads each one back. The places of these doubles then follow the integers
(`floatOfInt_lt_floatOfInt_iff`).

Owns: `orderKey`, `signOf`, `scaledKey`, the order laws of doubles, the exact doubles of
integers.
Does not own: the rounding of larger integers or of other rationals.
-/

set_option autoImplicit false

namespace Reckon.Decimal

open Float.Model Float.Model.UnpackedFloat

/-! ### The order of comparison -/

/-- The place of an unpacked double in the order of comparison: its class, then exponent
and significand, negated for negative numbers. A value that is not a number has a place
too, but no comparison uses it. -/
def orderKey : UnpackedFloat → Lex (ℕ × Lex (ℤ × ℤ))
  | .infinity .negative => toLex (0, toLex (0, 0))
  | .finite .negative m e _ => toLex (1, toLex (-e, -(m : ℤ)))
  | .zero _ => toLex (2, toLex (0, 0))
  | .finite .positive m e _ => toLex (3, toLex (e, (m : ℤ)))
  | .infinity .positive => toLex (4, toLex (0, 0))
  | .notANumber => toLex (5, toLex (0, 0))

theorem sign_compare_self (s : Sign) : compare s s = .eq := by
  cases s <;> rfl

theorem sign_compare_negative_positive : compare Sign.negative Sign.positive = .lt := rfl

set_option linter.unusedSimpArgs false in
/-- Unpacked comparison holds exactly between two numbers in increasing places. -/
theorem unpacked_lt_iff (x y : UnpackedFloat) :
    x.lt y = true ↔ x ≠ .notANumber ∧ y ≠ .notANumber ∧ orderKey x < orderKey y := by
  -- one case per pair of classes and signs; each is arithmetic on exponents and significands
  rcases x with (_ | _) | _ | (_ | _) | (_ | _) <;>
  rcases y with (_ | _) | _ | (_ | _) | (_ | _) <;>
  simp [UnpackedFloat.lt, UnpackedFloat.compare, orderKey, Prod.Lex.toLex_lt_toLex,
    Ordering.then_eq_lt, Ordering.then_eq_gt, compare_lt_iff_lt, compare_gt_iff_gt,
    sign_compare_negative_positive]

set_option linter.unusedSimpArgs false in
/-- Unpacked equality holds exactly between two numbers in the same place. -/
theorem unpacked_beq_iff (x y : UnpackedFloat) :
    x.beq y = true ↔ x ≠ .notANumber ∧ y ≠ .notANumber ∧ orderKey x = orderKey y := by
  rcases x with (_ | _) | _ | (_ | _) | (_ | _) <;>
  rcases y with (_ | _) | _ | (_ | _) | (_ | _) <;>
  simp [UnpackedFloat.beq, UnpackedFloat.compare, orderKey, Ordering.then_eq_eq,
    compare_eq_iff_eq, sign_compare_self]

/-- Doubles compare as the places of their unpacked forms. -/
theorem float_lt_iff (x y : Float) :
    x < y ↔ x.toModel.unpack ≠ .notANumber ∧ y.toModel.unpack ≠ .notANumber ∧
      orderKey x.toModel.unpack < orderKey y.toModel.unpack := by
  rw [← unpacked_lt_iff]
  show x.lt y = true ↔ _
  simp only [Float.lt, decide_eq_true_eq]
  exact Iff.rfl

/-- Doubles are equal, by `==`, exactly when they are numbers in the same place. -/
theorem float_beq_iff (x y : Float) :
    (x == y) = true ↔ x.toModel.unpack ≠ .notANumber ∧ y.toModel.unpack ≠ .notANumber ∧
      orderKey x.toModel.unpack = orderKey y.toModel.unpack :=
  unpacked_beq_iff _ _

section Laws

variable {x y z : Float}

theorem float_lt_trans (first : x < y) (second : y < z) : x < z := by
  rw [float_lt_iff] at first second ⊢
  exact ⟨first.1, second.2.1, first.2.2.trans second.2.2⟩

theorem float_lt_asymm (less : x < y) : ¬ y < x := by
  rw [float_lt_iff] at less ⊢
  exact fun greater => lt_asymm less.2.2 greater.2.2

/-- A double is equal to none that it is below or above. -/
theorem float_beq_false_of_lt (less : x < y) : (x == y) = false ∧ (y == x) = false := by
  rw [float_lt_iff] at less
  constructor <;>
  · rw [← Bool.not_eq_true, float_beq_iff]
    rintro ⟨-, -, same⟩
    exact less.2.2.ne (by rw [same])

theorem float_beq_symm (equal : (x == y) = true) : (y == x) = true := by
  rw [float_beq_iff] at equal ⊢
  exact ⟨equal.2.1, equal.1, equal.2.2.symm⟩

theorem float_lt_of_beq_of_lt (equal : (x == y) = true) (less : y < z) : x < z := by
  rw [float_beq_iff] at equal
  rw [float_lt_iff] at less ⊢
  exact ⟨equal.1, less.2.1, equal.2.2 ▸ less.2.2⟩

theorem float_lt_of_lt_of_beq (less : x < y) (equal : (y == z) = true) : x < z := by
  rw [float_beq_iff] at equal
  rw [float_lt_iff] at less ⊢
  exact ⟨less.1, equal.2.1, equal.2.2 ▸ less.2.2⟩

end Laws

/-! ### Unpacking the fields of a double -/

/-- The sign of a double that has the sign bit `negative`. -/
def signOf (negative : Bool) : Sign :=
  if negative then .negative else .positive

/-- The bits of a double made of a sign, an exponent field and a fraction field. -/
theorem packComponents_toNat (s : Sign) (e : BitVec 11) (m : BitVec 52) :
    (packComponents Format.binary64 s e m).toNat =
      s.toBitVec.toNat * 2 ^ 63 + e.toNat * 2 ^ 52 + m.toNat := by
  simp only [packComponents, BitVec.toNat_append]
  rw [← Nat.shiftLeft_add_eq_or_of_lt e.isLt, ← Nat.shiftLeft_add_eq_or_of_lt m.isLt]
  simp only [Nat.shiftLeft_eq]
  ring

/-- The significand of a normal double: the fraction with its leading one. -/
theorem one_append_toNat (m : BitVec 52) : (1#1 ++ m).toNat = 2 ^ 52 + m.toNat := by
  rw [BitVec.toNat_append, ← Nat.shiftLeft_add_eq_or_of_lt m.isLt]
  rfl

/-- A double whose exponent field is neither all zeros nor all ones is normal. -/
theorem unpack_packComponents_normal (s : Sign) (e : BitVec 11) (m : BitVec 52)
    (low : e ≠ 0#11) (high : e ≠ -1#11) :
    UnpackedFloat.unpack Format.binary64 (packComponents Format.binary64 s e m) =
      .finite s (2 ^ 52 + m.toNat) (e.toNat - 1075) (by positivity) := by
  simp only [UnpackedFloat.unpack, unpackExponent_packComponents, unpackMantissa_packComponents,
    unpackSign_packComponents, Sign.ofBitVec_toBitVec, if_neg high, if_neg low]
  congr 1
  exact one_append_toNat m

theorem finite_eq_finite {s : Sign} {m m' : Nat} {e e' : Int} {pos : 0 < m} {pos' : 0 < m'}
    (sameM : m = m') (sameE : e = e') : UnpackedFloat.finite s m e pos = .finite s m' e' pos' := by
  subst sameM sameE
  rfl

/-- The double with the bits of a normal number unpacks to that number: making a `Float`
from bits packs what it unpacked, which changes nothing but the bits of a not-a-number. -/
theorem unpack_ofBits_normal (b : UInt64) (s : Sign) (e : BitVec 11) (m : BitVec 52)
    (bits : b.toBitVec = packComponents Format.binary64 s e m) (low : e ≠ 0#11)
    (high : e ≠ -1#11) :
    (Float.ofBits b).toModel.unpack =
      .finite s (2 ^ 52 + m.toNat) (e.toNat - 1075) (by positivity) := by
  have notNaN : @isNaNBits Format.binary64 b.toBitVec = false := by
    simp only [isNaNBits, bits, unpackExponent_packComponents, high, false_and, decide_false]
  show UnpackedFloat.unpack Format.binary64
    (UnpackedFloat.pack Format.binary64 (UnpackedFloat.unpack Format.binary64 b.toBitVec)) = _
  rw [pack_unpack, notNaN, if_neg Bool.false_ne_true, bits]
  exact unpack_packComponents_normal s e m low high

/-! ### The double of an exactly representable integer -/

theorem log2_le_52 {k : Nat} (small : k < 2 ^ 53) : k.log2 ≤ 52 := by
  by_cases zero : k = 0
  · simp [zero]
  · have := (Nat.log2_lt zero).2 small
    omega

/-- Shifted to 53 bits, a positive integer below `2^53` is a normal significand. -/
theorem scaled_bounds {k : Nat} (pos : 0 < k) (small : k < 2 ^ 53) :
    2 ^ 52 ≤ k * 2 ^ (52 - k.log2) ∧ k * 2 ^ (52 - k.log2) < 2 ^ 53 := by
  have atMost := log2_le_52 small
  have atLeast : 2 ^ k.log2 ≤ k := Nat.log2_self_le (by omega)
  have below : k < 2 ^ (k.log2 + 1) := Nat.lt_log2_self
  have split52 : 2 ^ 52 = 2 ^ k.log2 * 2 ^ (52 - k.log2) := by
    rw [← Nat.pow_add]
    congr 1
    omega
  have split53 : 2 ^ 53 = 2 ^ (k.log2 + 1) * 2 ^ (52 - k.log2) := by
    rw [← Nat.pow_add]
    congr 1
    omega
  constructor
  · rw [split52]
    exact Nat.mul_le_mul_right _ atLeast
  · rw [split53]
    exact Nat.mul_lt_mul_of_pos_right below (Nat.pow_pos (by omega))

theorem binaryExponent_one {k : Nat} (pos : 0 < k) : binaryExponent k 1 = k.log2 := by
  have atLeast : 2 ^ k.log2 ≤ k := Nat.log2_self_le (by omega)
  have logOne : Nat.log2 1 = 0 := by decide
  simp [binaryExponent, Nat.pow_eq, logOne, atLeast]

/-- Dividing by one never rounds. -/
theorem roundQuotient_one {k L : Nat} (small : L ≤ 52) :
    roundQuotient k 1 ((L : Int) - 52) = k * 2 ^ (52 - L) := by
  have shiftUp : ((L : Int) - 52).toNat = 0 := by omega
  simp [roundQuotient, Nat.pow_eq, shiftUp, Nat.mod_one]

/-- The rounding of an integer below `2^53` takes its normal branch with no carry: the
exponent is `log₂ k` and the fraction the significand less its leading one. -/
theorem nearestFloat_exact (negative : Bool) {k : Nat} (pos : 0 < k) (small : k < 2 ^ 53) :
    nearestFloat negative k 1 = Float.ofBits ((if negative then (0x8000000000000000 : UInt64) else 0) |||
      (((k.log2 + 1023 : Nat).toUInt64 <<< 52) ||| (k * 2 ^ (52 - k.log2) - 2 ^ 52).toUInt64)) := by
  have atMost := log2_le_52 small
  have significand := roundQuotient_one (k := k) atMost
  obtain ⟨-, below⟩ := scaled_bounds pos small
  have noCarry : k * 2 ^ (52 - k.log2) ≠ 2 ^ 53 := below.ne
  have notSubnormal : ¬ (k.log2 : Int) < -1022 := by omega
  have notHuge : ¬ (k.log2 : Int) > 1023 := by omega
  have biased : ((k.log2 : Int) + 1023).toNat = k.log2 + 1023 := by omega
  unfold nearestFloat
  simp only [if_neg pos.ne', binaryExponent_one pos, Nat.pow_eq, significand, if_neg noCarry,
    if_neg notSubnormal, if_neg notHuge, biased]

/-- The exponent and fraction joined by `|||` are their sum: they lie in disjoint bits. -/
theorem magnitude_toNat {E F : Nat} (exponent : E < 2 ^ 11) (fraction : F < 2 ^ 52) :
    ((E.toUInt64 <<< 52) ||| F.toUInt64).toNat = E * 2 ^ 52 + F := by
  have exponentSmall : E % 2 ^ 64 = E := Nat.mod_eq_of_lt (by omega)
  have fractionSmall : F % 2 ^ 64 = F := Nat.mod_eq_of_lt (by omega)
  have shifted : E * 2 ^ 52 % 2 ^ 64 = E * 2 ^ 52 := Nat.mod_eq_of_lt (by omega)
  have shift : (52 : UInt64).toNat % 64 = 52 := rfl
  rw [UInt64.toNat_or, UInt64.toNat_shiftLeft, shift, Nat.toUInt64_eq, Nat.toUInt64_eq,
    UInt64.toNat_ofNat', UInt64.toNat_ofNat', exponentSmall, fractionSmall, Nat.shiftLeft_eq,
    shifted, ← Nat.shiftLeft_eq, ← Nat.shiftLeft_add_eq_or_of_lt fraction, Nat.shiftLeft_eq]

/-- The word the rounding builds is the double with that sign, exponent and fraction. -/
theorem exactBits_toBitVec (negative : Bool) {E F : Nat} (exponent : E < 2 ^ 11)
    (fraction : F < 2 ^ 52) :
    ((if negative then (0x8000000000000000 : UInt64) else 0) |||
        ((E.toUInt64 <<< 52) ||| F.toUInt64)).toBitVec =
      packComponents Format.binary64 (signOf negative) (BitVec.ofNat 11 E) (BitVec.ofNat 52 F) := by
  apply BitVec.eq_of_toNat_eq
  rw [packComponents_toNat, UInt64.toNat_toBitVec, UInt64.toNat_or,
    magnitude_toNat exponent fraction]
  have exponentBits : (BitVec.ofNat 11 E).toNat = E := by
    simp
    omega
  have fractionBits : (BitVec.ofNat 52 F).toNat = F := by
    simp
    omega
  rw [exponentBits, fractionBits]
  cases negative
  · simp [signOf, Sign.toBitVec]
  · -- the sign bit lies above the other fields, so `|||` adds it too
    have sum := Nat.shiftLeft_add_eq_or_of_lt (i := 63) (b := E * 2 ^ 52 + F) (by omega) 1
    rw [Nat.shiftLeft_eq, Nat.one_mul] at sum
    simp only [signOf, Sign.toBitVec, ↓reduceIte]
    rw [show (0x8000000000000000 : UInt64).toNat = 2 ^ 63 from rfl, ← sum]
    simp
    omega

/-- An integer of magnitude at most `2^53 - 1` other than zero becomes the double with its
sign, the exponent `log₂ |n| - 52` and the significand `|n| · 2^(52 - log₂ |n|)`. -/
theorem unpack_floatOfInt {n : Int} (nonzero : n ≠ 0) (exact : n.natAbs ≤ maxExactInteger) :
    (floatOfInt n).toModel.unpack =
      .finite (signOf (decide (n < 0))) (n.natAbs * 2 ^ (52 - n.natAbs.log2))
        ((n.natAbs.log2 : Int) - 52) (by have := Int.natAbs_pos.2 nonzero; positivity) := by
  have pos : 0 < n.natAbs := Int.natAbs_pos.2 nonzero
  have small : n.natAbs < 2 ^ 53 := by
    unfold maxExactInteger at exact
    omega
  have atMost := log2_le_52 small
  obtain ⟨atLeast, below⟩ := scaled_bounds pos small
  unfold floatOfInt
  rw [nearestFloat_exact _ pos small,
    unpack_ofBits_normal _ _ _ _ (exactBits_toBitVec _ (by omega) (by omega)) ?low ?high]
  · apply finite_eq_finite
    · rw [BitVec.toNat_ofNat, Nat.mod_eq_of_lt (by omega)]
      omega
    · rw [BitVec.toNat_ofNat, Nat.mod_eq_of_lt (by omega)]
      omega
  all_goals
    intro field
    have fieldValue := congrArg BitVec.toNat field
    simp at fieldValue
    omega

theorem unpack_floatOfInt_zero : (floatOfInt 0).toModel.unpack = .zero .positive := rfl

/-! ### Integers compare as their doubles -/

/-- Where a positive integer below `2^53` stands among the positive doubles: its exponent,
then its significand. -/
def scaledKey (k : Nat) : Lex (ℤ × ℤ) :=
  toLex ((k.log2 : ℤ) - 52, ((k * 2 ^ (52 - k.log2) : ℕ) : ℤ))

theorem log2_mono {a b : Nat} (pos : 0 < a) (le : a ≤ b) : a.log2 ≤ b.log2 :=
  (Nat.le_log2 (by omega)).2 ((Nat.log2_self_le (by omega)).trans le)

/-- A larger integer has a larger exponent, or the same exponent and a larger significand. -/
theorem scaledKey_lt {a b : Nat} (pos : 0 < a) (less : a < b) :
    scaledKey a < scaledKey b := by
  have exponents := log2_mono pos less.le
  rw [scaledKey, scaledKey, Prod.Lex.toLex_lt_toLex]
  rcases exponents.lt_or_eq with lower | same
  · exact .inl (by simp only; omega)
  · refine .inr ⟨by rw [same], ?_⟩
    rw [same]
    show ((a * 2 ^ (52 - b.log2) : ℕ) : ℤ) < ((b * 2 ^ (52 - b.log2) : ℕ) : ℤ)
    exact_mod_cast Nat.mul_lt_mul_of_pos_right less (Nat.pow_pos (by omega))

/-- Negating both parts reverses the order of places. -/
theorem neg_toLex_lt {a b : ℤ × ℤ} (less : toLex a < toLex b) :
    toLex (-b.1, -b.2) < toLex (-a.1, -a.2) := by
  rw [Prod.Lex.toLex_lt_toLex] at less ⊢
  omega

theorem orderKey_floatOfInt_of_pos {n : Int} (pos : 0 < n) (exact : n.natAbs ≤ maxExactInteger) :
    orderKey (floatOfInt n).toModel.unpack = toLex (3, scaledKey n.natAbs) := by
  rw [unpack_floatOfInt (by omega) exact]
  simp [signOf, orderKey, scaledKey, show ¬ n < 0 by omega]

theorem orderKey_floatOfInt_of_neg {n : Int} (neg : n < 0) (exact : n.natAbs ≤ maxExactInteger) :
    orderKey (floatOfInt n).toModel.unpack =
      toLex (1, toLex (-(ofLex (scaledKey n.natAbs)).1, -(ofLex (scaledKey n.natAbs)).2)) := by
  rw [unpack_floatOfInt (by omega) exact]
  simp [signOf, orderKey, scaledKey, neg]

theorem floatOfInt_ne_notANumber {n : Int} (exact : n.natAbs ≤ maxExactInteger) :
    (floatOfInt n).toModel.unpack ≠ .notANumber := by
  by_cases zero : n = 0
  · rw [zero, unpack_floatOfInt_zero]
    exact fun equal => nomatch equal
  · rw [unpack_floatOfInt zero exact]
    exact fun equal => nomatch equal

/-- The doubles of exactly representable integers stand in the order of the integers. -/
theorem orderKey_floatOfInt_lt {a b : Int} (exactA : a.natAbs ≤ maxExactInteger)
    (exactB : b.natAbs ≤ maxExactInteger) (less : a < b) :
    orderKey (floatOfInt a).toModel.unpack < orderKey (floatOfInt b).toModel.unpack := by
  -- by the signs of `a` and `b`: negatives, zero and positives are classes 1, 2 and 3
  rcases lt_trichotomy a 0 with negA | zeroA | posA
  · rw [orderKey_floatOfInt_of_neg negA exactA]
    rcases lt_trichotomy b 0 with negB | zeroB | posB
    · rw [orderKey_floatOfInt_of_neg negB exactB, Prod.Lex.toLex_lt_toLex]
      exact .inr ⟨rfl, neg_toLex_lt (scaledKey_lt (by omega) (by omega))⟩
    · rw [zeroB, unpack_floatOfInt_zero, orderKey, Prod.Lex.toLex_lt_toLex]
      exact .inl (by simp)
    · rw [orderKey_floatOfInt_of_pos posB exactB, Prod.Lex.toLex_lt_toLex]
      exact .inl (by simp)
  · have posB : 0 < b := by omega
    rw [zeroA, unpack_floatOfInt_zero, orderKey, orderKey_floatOfInt_of_pos posB exactB,
      Prod.Lex.toLex_lt_toLex]
    exact .inl (by simp)
  · rw [orderKey_floatOfInt_of_pos posA exactA, orderKey_floatOfInt_of_pos (by omega) exactB,
      Prod.Lex.toLex_lt_toLex]
    exact .inr ⟨rfl, scaledKey_lt (by omega) (by omega)⟩

/-- Two integers of magnitude at most `2^53 - 1` compare as reals as they compare as
integers. -/
theorem floatOfInt_lt_floatOfInt_iff {a b : Int} (exactA : a.natAbs ≤ maxExactInteger)
    (exactB : b.natAbs ≤ maxExactInteger) : floatOfInt a < floatOfInt b ↔ a < b := by
  rw [float_lt_iff]
  constructor
  · rintro ⟨-, -, placed⟩
    by_contra notLess
    rcases (not_lt.1 notLess).lt_or_eq with greater | same
    · exact lt_asymm placed (orderKey_floatOfInt_lt exactB exactA greater)
    · rw [same] at placed
      exact lt_irrefl _ placed
  · intro less
    exact ⟨floatOfInt_ne_notANumber exactA, floatOfInt_ne_notANumber exactB,
      orderKey_floatOfInt_lt exactA exactB less⟩

end Reckon.Decimal
