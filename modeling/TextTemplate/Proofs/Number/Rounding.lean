import Mathlib.Algebra.Order.Field.Power
import Mathlib.Data.Int.Log
import Mathlib.Data.Rat.Floor
import Mathlib.Tactic.FieldSimp
import Mathlib.Tactic.Linarith
import Mathlib.Tactic.Positivity
import Mathlib.Tactic.Ring
import TextTemplate.Number.Binary64

/-! # Rounding

The number nearest to a quotient depends on the quotient alone, not on the terms that it is
given by (`round_congr`).  So where both sides of a product or quotient stand for whole numbers
exactly, the result is the exact one, rounded once (`mul_exact`, `div_exact`). -/
namespace TextTemplate.Binary64

/-! ## Powers -/

theorem pow2_eq (e : Int) : pow2 e = 2 ^ e.toNat := by
  rw [pow2, Nat.one_shiftLeft]

theorem pow10_eq (e : Int) : pow10 e = 10 ^ e.toNat := rfl

theorem pow2_pos (e : Int) : 0 < pow2 e := by
  rw [pow2_eq]
  positivity

/-- The power for an exponent of either sign, as the quotient of two whole powers. -/
theorem zpow_eq_div {b : ℚ} (hb : b ≠ 0) (e : Int) :
    b ^ e = b ^ e.toNat / b ^ (-e).toNat := by
  rw [← zpow_natCast, ← zpow_natCast, ← zpow_sub₀ hb]
  congr 1
  omega

theorem pow2_div (e : Int) : (pow2 e : ℚ) / pow2 (-e) = 2 ^ e := by
  rw [zpow_eq_div (by norm_num), pow2_eq, pow2_eq]
  push_cast
  rfl

/-! ## Parts -/

/-- The number of a rounded significand and its exponent; a carry moves the exponent. -/
def ofParts (negative : Bool) (m : Nat) (e : Int) : Option Binary64 :=
  let (m, e) := if m = significandBound then (pow2 52, e + 1) else (m, e)
  if m = 0 then some (zero negative)
  else if greatestExponent < e then none
  else some ⟨negative, m, e⟩

theorem round_eq {num : Nat} (hn : num ≠ 0) (negative : Bool) (den : Nat) :
    round negative num den =
      ofParts negative (divideToEven (num * pow2 (-exponentFor num den))
        (den * pow2 (exponentFor num den))) (exponentFor num den) := by
  rw [round, if_neg hn, ofParts]

theorem ofParts_sign (negative : Bool) (m : Nat) (e : Int) :
    ofParts negative m e =
      (ofParts false m e).map fun x => { x with negative := negative } := by
  unfold ofParts
  -- the value of the bound would be counted up to
  generalize significandBound = bound
  generalize (if m = bound then (pow2 52, e + 1) else (m, e)) = parts
  obtain ⟨m, e⟩ := parts
  simp only
  split
  · rfl
  · split <;> rfl

theorem ofParts_of_lt {m : Nat} {e : Int} (hm : m ≠ 0) (hlt : m < significandBound)
    (he : e ≤ greatestExponent) (negative : Bool) :
    ofParts negative m e = some ⟨negative, m, e⟩ := by
  unfold ofParts
  generalize significandBound = bound at hlt
  simp [hm, Nat.ne_of_lt hlt, Int.not_lt.mpr he]

/-- The sign has no part in rounding. -/
theorem round_sign (negative : Bool) (num den : Nat) :
    round negative num den =
      (round false num den).map fun x => { x with negative := negative } := by
  by_cases hn : num = 0
  · rw [hn]
    rfl
  · rw [round_eq hn, round_eq hn, ofParts_sign]

theorem positive_of_round {num den : Nat} {x : Binary64} (h : round false num den = some x) :
    x.negative = false := by
  rw [round_sign] at h
  obtain ⟨y, -, rfl⟩ := Option.map_eq_some_iff.mp h
  rfl

/-! ## Quotients -/

section

variable {num den num' den' : Nat} (hd : 0 < den) (hd' : 0 < den')

theorem log2_bounds {n : Nat} (hn : 0 < n) :
    (2 : ℚ) ^ n.log2 ≤ n ∧ (n : ℚ) < 2 ^ (n.log2 + 1) :=
  ⟨by exact_mod_cast Nat.log2_self_le (by omega), by exact_mod_cast Nat.lt_log2_self⟩

include hd in
/-- The exponent is that of the leading digit of the quotient. -/
theorem exponentFor_eq (hn : 0 < num) :
    exponentFor num den = max leastExponent (Int.log 2 ((num : ℚ) / den) - 52) := by
  obtain ⟨hlow, hhigh⟩ := log2_bounds hn
  obtain ⟨hlow', hhigh'⟩ := log2_bounds hd
  have hdQ : (0 : ℚ) < den := by exact_mod_cast hd
  have hq : (0 : ℚ) < (num : ℚ) / den := by positivity
  have hle : (num.log2 : Int) - den.log2 - 1 ≤ Int.log 2 ((num : ℚ) / den) := by
    rw [← Int.zpow_le_iff_le_log (by norm_num) hq, Nat.cast_ofNat]
    calc (2 : ℚ) ^ ((num.log2 : Int) - den.log2 - 1)
        = 2 ^ num.log2 / 2 ^ (den.log2 + 1) := by
          rw [← zpow_natCast, ← zpow_natCast, ← zpow_sub₀ (by norm_num)]
          congr 1
          push_cast
          ring
      _ ≤ num / den := by gcongr
  have hlt : Int.log 2 ((num : ℚ) / den) < (num.log2 : Int) - den.log2 + 1 := by
    rw [← Int.lt_zpow_iff_log_lt (by norm_num) hq, Nat.cast_ofNat]
    calc (num : ℚ) / den < 2 ^ (num.log2 + 1) / 2 ^ den.log2 := by gcongr
      _ = 2 ^ ((num.log2 : Int) - den.log2 + 1) := by
          rw [← zpow_natCast, ← zpow_natCast, ← zpow_sub₀ (by norm_num)]
          congr 1
          push_cast
          ring
  have hfull : ∀ e : Int, den * pow2 e * pow2 52 ≤ num * pow2 (-e) ↔
      e + 52 ≤ Int.log 2 ((num : ℚ) / den) := by
    intro e
    have hpos : (0 : ℚ) < pow2 (-e) := by exact_mod_cast pow2_pos _
    rw [← Int.zpow_le_iff_le_log (by norm_num) hq, Nat.cast_ofNat, zpow_add₀ (by norm_num),
      ← pow2_div, ← Nat.cast_le (α := ℚ), le_div_iff₀ hdQ, div_mul_eq_mul_div, div_mul_eq_mul_div,
      div_le_iff₀ hpos, pow2_eq 52]
    push_cast
    constructor <;> intro h <;> linarith
  rw [exponentFor]
  simp only [hfull]
  split <;> omega

/-- A quotient that is written with greater terms is rounded alike. -/
theorem divideToEven_mul {k : Nat} (hk : 0 < k) :
    divideToEven (num * k) (den * k) = divideToEven num den := by
  have htwice : 2 * (num % den * k) = 2 * (num % den) * k := by ring
  have hlt : den * k < 2 * (num % den) * k ↔ den < 2 * (num % den) := Nat.mul_lt_mul_right hk
  have heq : (2 * (num % den) * k == den * k) = (2 * (num % den) == den) := by
    rw [Bool.eq_iff_iff, beq_iff_eq, beq_iff_eq]
    exact Nat.mul_left_inj (by omega)
  simp only [divideToEven, Nat.mul_div_mul_right num den hk, Nat.mul_mod_mul_right, htwice, hlt,
    heq]

include hd hd'

theorem divideToEven_congr (h : num * den' = num' * den) :
    divideToEven num den = divideToEven num' den' := by
  rw [← divideToEven_mul hd', ← @divideToEven_mul num' den' _ hd, h, Nat.mul_comm den]

/-- **The number nearest to a quotient depends on the quotient alone.** -/
theorem round_congr {negative : Bool} (h : (num : ℚ) / den = num' / den') :
    round negative num den = round negative num' den' := by
  have hdQ : (den : ℚ) ≠ 0 := by exact_mod_cast hd.ne'
  have hdQ' : (den' : ℚ) ≠ 0 := by exact_mod_cast hd'.ne'
  have hcross : num * den' = num' * den := by
    rw [div_eq_div_iff hdQ hdQ'] at h
    exact_mod_cast h
  rcases Nat.eq_zero_or_pos num with rfl | hn
  · have hzero : num' = 0 := by
      rw [Nat.zero_mul] at hcross
      exact (Nat.mul_eq_zero.mp hcross.symm).resolve_right hd.ne'
    rw [hzero, round, round, if_pos rfl, if_pos rfl]
  · have hn' : 0 < num' := by
      rcases Nat.eq_zero_or_pos num' with rfl | hn'
      · rw [Nat.zero_mul] at hcross
        exact absurd hcross (Nat.mul_ne_zero hn.ne' hd'.ne')
      · exact hn'
    have hexponent : exponentFor num den = exponentFor num' den' := by
      rw [exponentFor_eq hd hn, exponentFor_eq hd' hn', h]
    have hsignificand : ∀ e, divideToEven (num * pow2 (-e)) (den * pow2 e) =
        divideToEven (num' * pow2 (-e)) (den' * pow2 e) := by
      intro e
      refine divideToEven_congr (Nat.mul_pos hd (pow2_pos e)) (Nat.mul_pos hd' (pow2_pos e)) ?_
      calc num * pow2 (-e) * (den' * pow2 e) = num * den' * (pow2 (-e) * pow2 e) := by ring
        _ = num' * den * (pow2 (-e) * pow2 e) := by rw [hcross]
        _ = num' * pow2 (-e) * (den * pow2 e) := by ring
    rw [round_eq hn.ne', round_eq hn'.ne', hexponent, hsignificand]

end

/-! ## Exact numbers -/

/-- The number is a whole one, without a sign. -/
structure Exact (x : Binary64) (n : Nat) : Prop where
  positive : x.negative = false
  value : (x.significand : ℚ) * 2 ^ x.exponent = n

/-- Whole numbers of at most 53 bits are exact. -/
theorem exists_exact {n : Nat} (hlt : n < 2 ^ 53) : ∃ x, ofNat n = some x ∧ Exact x n := by
  rcases Nat.eq_zero_or_pos n with rfl | hn
  · exact ⟨zero false, by rw [ofNat, round, if_pos rfl], rfl, by simp [zero]⟩
  obtain ⟨k, hk⟩ : ∃ k, n.log2 + k = 52 := ⟨52 - n.log2, by
    have hlog : n.log2 < 53 := (Nat.log2_lt hn.ne').mpr hlt
    omega⟩
  have hexponent : exponentFor n 1 = -(k : Int) := by
    have hleast : leastExponent = -1074 := rfl
    rw [exponentFor_eq Nat.one_pos hn, Nat.cast_one, div_one, Int.log_natCast,
      ← Nat.log2_eq_log_two, hleast]
    omega
  have hpow : pow2 (-(-(k : Int))) = 2 ^ k ∧ pow2 (-(k : Int)) = 1 := by
    refine ⟨?_, ?_⟩ <;> rw [pow2_eq] <;> simp
  have hbound : n * 2 ^ k < 2 ^ 53 := by
    calc n * 2 ^ k < 2 ^ (n.log2 + 1) * 2 ^ k :=
          Nat.mul_lt_mul_of_pos_right Nat.lt_log2_self (by positivity)
      _ = 2 ^ 53 := by rw [← Nat.pow_add]; congr 1; omega
  have hsignificand : divideToEven (n * 2 ^ k) (1 * 1) = n * 2 ^ k := by
    simp [divideToEven, Nat.mod_one]
  refine ⟨⟨false, n * 2 ^ k, -(k : Int)⟩, ?_, rfl, ?_⟩
  · have hlt' : n * 2 ^ k < significandBound := by
      rw [significandBound, Nat.one_shiftLeft]
      exact hbound
    have hsmall : -(k : Int) ≤ greatestExponent := by
      have hgreatest : greatestExponent = 971 := rfl
      omega
    rw [ofNat, round_eq hn.ne', hexponent, hpow.1, hpow.2, hsignificand]
    exact ofParts_of_lt (Nat.mul_ne_zero hn.ne' (by positivity)) hlt' hsmall false
  · rw [zpow_neg, zpow_natCast]
    push_cast
    field_simp

/-- A number whose parts are those of a whole one. -/
theorem exact_of_eq {x : Binary64} {n : Nat} (hpositive : x.negative = false)
    (h : x.significand * pow2 x.exponent = n * pow2 (-x.exponent)) : Exact x n := by
  have hpos : (pow2 (-x.exponent) : ℚ) ≠ 0 := by exact_mod_cast (pow2_pos _).ne'
  refine ⟨hpositive, ?_⟩
  rw [← pow2_div, mul_div_assoc', div_eq_iff hpos]
  exact_mod_cast h

/-- The powers of ten up to `10 ^ 22` are exact. -/
theorem exists_exact_ten {p : Nat} (hp : p ≤ 22) :
    ∃ x, ofDecimal false 1 p = some x ∧ Exact x (10 ^ p) := by
  have hall : ∀ p : Nat, p < 23 → ∃ x ∈ ofDecimal false 1 p, x.negative = false ∧
      x.significand * pow2 x.exponent = 10 ^ p * pow2 (-x.exponent) := by decide +kernel
  obtain ⟨x, hx, hpositive, hvalue⟩ := hall p (by omega)
  exact ⟨x, hx, exact_of_eq hpositive hvalue⟩

/-- A decimal of few digits near the point is formed at once. -/
theorem ofDecimal_eq {digits : Nat} {power : Int} (hlt : digits < 2 ^ 53)
    (hpower : power.natAbs ≤ 22) (negative : Bool) :
    ofDecimal negative digits power =
      round negative (digits * pow10 power) (pow10 (-power)) := by
  by_cases hzero : digits = 0
  · rw [hzero, ofDecimal, round, if_pos rfl, if_pos (Nat.zero_mul _)]
  · have hlog : digits.log2 < 53 := (Nat.log2_lt hzero).mpr hlt
    rw [ofDecimal, if_neg hzero, if_neg (by omega), if_neg (by omega)]

section

variable {x y : Binary64} {m n : Nat} (hx : Exact x m) (hy : Exact y n)

include hx hy

/-- A product of exact numbers is rounded once. -/
theorem mul_exact : x.mul y = round false (m * n) 1 := by
  have hsign : (x.negative != y.negative) = false := by rw [hx.positive, hy.positive]; rfl
  rw [mul, hsign]
  refine round_congr (pow2_pos _) Nat.one_pos ?_
  calc ((x.significand * y.significand * pow2 (x.exponent + y.exponent) : Nat) : ℚ) /
        pow2 (-(x.exponent + y.exponent))
      = x.significand * y.significand *
          (pow2 (x.exponent + y.exponent) / pow2 (-(x.exponent + y.exponent))) := by
        push_cast
        ring
    _ = (x.significand * 2 ^ x.exponent) * (y.significand * 2 ^ y.exponent) := by
        rw [pow2_div, zpow_add₀ (by norm_num)]
        ring
    _ = (m * n : Nat) / (1 : Nat) := by
        rw [hx.value, hy.value]
        push_cast
        ring

/-- A quotient of exact numbers is rounded once. -/
theorem div_exact (hn : 0 < n) : x.div y = round false m n := by
  have hsign : (x.negative != y.negative) = false := by rw [hx.positive, hy.positive]; rfl
  have hy0 : 0 < y.significand := by
    rcases Nat.eq_zero_or_pos y.significand with hzero | hpos
    · have hvalue := hy.value
      rw [hzero, Nat.cast_zero, zero_mul] at hvalue
      have : n = 0 := by exact_mod_cast hvalue.symm
      omega
    · exact hpos
  rw [div, hsign]
  refine round_congr (Nat.mul_pos hy0 (pow2_pos _)) hn ?_
  calc ((x.significand * pow2 (x.exponent - y.exponent) : Nat) : ℚ) /
        (y.significand * pow2 (-(x.exponent - y.exponent)) : Nat)
      = x.significand / y.significand *
          (pow2 (x.exponent - y.exponent) / pow2 (-(x.exponent - y.exponent))) := by
        push_cast
        rw [mul_div_mul_comm]
    _ = (x.significand * 2 ^ x.exponent) / (y.significand * 2 ^ y.exponent) := by
        rw [pow2_div, zpow_sub₀ (by norm_num), mul_div_mul_comm]
    _ = m / n := by rw [hx.value, hy.value]

end

end TextTemplate.Binary64
