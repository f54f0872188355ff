/-
  RecordMapper.Proofs.Value.WholeFloats
  ────────────────────────────────
  **FLOATING-POINT NUMBERS AS INTEGERS.**

  A floating-point number has a sign, an exponent and a fraction, and stands for one
  rational number unless it is infinite or none.  It converts to an integer type when that
  rational is an integer; on the way the integer is brought to the nearest one of 64 bits,
  and only then is asked whether the type holds it.  For a type of fewer bits nothing is
  lost, since a number that was brought nearer is still too large; the type of 64 bits takes
  its least and its greatest number for everything beyond them.

  Main results:
    • `toInt?_eq_some_iff` — which numbers are integers, and which integer each is;
    • `convert_whole_iff` — which numbers convert, and as what;
    • `whole_float_exact_iff` — when a conversion loses nothing.
-/
import Mathlib.Algebra.Order.Field.Power
import Mathlib.Data.Rat.Cast.Order
import Mathlib.Tactic.FieldSimp
import Mathlib.Tactic.Linarith
import Mathlib.Tactic.NormNum
import Mathlib.Tactic.Positivity
import Mathlib.Tactic.Ring
import RecordMapper.Proofs.Value.IntegerText

namespace RecordMapper

namespace Number.Binary64

/-! ## §1. The number that a word stands for. -/

/-- The sign, as a factor. -/
def signFactor (x : Binary64) : ℚ :=
  if x.isNegative then -1 else 1

/-- **The exact value** of a finite number: the fraction, with a one in front of it unless
the exponent bits are all zero, times a power of two.  The exponent bits count from -1023. -/
def exactValue (x : Binary64) : ℚ :=
  let fraction : ℚ := x.fractionField / 2 ^ 52
  let magnitude : ℚ :=
    if x.exponentField = 0 then fraction * 2 ^ (-1022 : ℤ)
    else (1 + fraction) * 2 ^ ((x.exponentField : ℤ) - 1023)
  x.signFactor * magnitude

theorem abs_signFactor (x : Binary64) : |x.signFactor| = 1 := by
  unfold signFactor
  split <;> simp

/-- The magnitude is the integer significand in units of a power of two. -/
theorem exactValue_eq_significand (x : Binary64) :
    x.exactValue = x.signFactor * (x.significand * 2 ^ x.unitExponent) := by
  have hunit : ∀ e : ℤ, (2 : ℚ) ^ (e - 52) = 2 ^ e / 2 ^ 52 := fun e => by
    rw [zpow_sub₀ two_ne_zero]
    rfl
  unfold exactValue significand unitExponent
  by_cases hsubnormal : x.exponentField = 0
  · simp only [if_pos hsubnormal]
    rw [show (-1074 : ℤ) = -1022 - 52 by rfl, hunit]
    ring
  · simp only [if_neg hsubnormal]
    rw [show (x.exponentField : ℤ) - 1075 = (x.exponentField : ℤ) - 1023 - 52 by ring, hunit,
      show fractionCount = 2 ^ 52 by rfl]
    push_cast
    ring

/-- **The magnitude is the quotient** of the two naturals. -/
theorem exactValue_eq_quotient (x : Binary64) :
    x.exactValue = x.signFactor * ((x.magnitude.1 : ℚ) / x.magnitude.2) := by
  have htwoTo : ∀ n, (twoTo n : ℚ) = 2 ^ n := fun n => by
    show ((2 ^ n : Nat) : ℚ) = 2 ^ n
    push_cast
    rfl
  rw [exactValue_eq_significand]
  unfold magnitude
  push_cast
  rw [htwoTo, htwoTo, mul_div_assoc, ← zpow_natCast, ← zpow_natCast, ← zpow_sub₀ two_ne_zero]
  congr 3
  omega

/-- **Which numbers are integers**: the finite ones whose exact value is an integer, and that
is the integer. -/
theorem toInt?_eq_some_iff {x : Binary64} {n : ℤ} :
    x.toInt? = some n ↔ x.isFinite = true ∧ x.exactValue = n := by
  have hden : 0 < x.magnitude.2 := twoTo_pos _
  have hden' : (x.magnitude.2 : ℚ) ≠ 0 := by exact_mod_cast hden.ne'
  have hvalue := x.exactValue_eq_quotient
  unfold toInt?
  dsimp only
  generalize x.magnitude.1 = num at *
  generalize x.magnitude.2 = den at *
  cases hfinite : x.isFinite with
  | false => simp
  | true =>
      rw [Bool.true_and, eq_self_iff_true, true_and]
      by_cases hdvd : den ∣ num
      · obtain ⟨q, rfl⟩ := hdvd
        have hwhole : x.exactValue = ((if x.isNegative then -(q : ℤ) else q : ℤ) : ℚ) := by
          rw [hvalue, Nat.cast_mul, mul_div_cancel_left₀ _ hden']
          unfold signFactor
          split <;> push_cast <;> ring
        rw [if_pos (by simp), Nat.mul_div_cancel_left q hden, hwhole, Int.cast_inj, Option.some_inj]
      -- An integer value would make the numerator a multiple of the denominator.
      · have hrem : ¬ (num % den == 0) = true := by
          simpa [Nat.dvd_iff_mod_eq_zero] using hdvd
        rw [if_neg hrem]
        refine iff_of_false nofun fun hn => hdvd ⟨n.natAbs, ?_⟩
        have hquotient : (num : ℚ) / den = n.natAbs := by
          have habs := congrArg abs (hvalue.symm.trans hn)
          rwa [abs_mul, abs_signFactor, one_mul, abs_div, Nat.abs_cast, Nat.abs_cast, ← Int.cast_abs,
            Int.abs_eq_natAbs, Int.cast_natCast] at habs
        rw [div_eq_iff hden', mul_comm] at hquotient
        exact_mod_cast hquotient

/-! ## §2. Numbers beyond 64 bits. -/

/-- **Beyond 64 bits**: finite, and below the least or above the greatest integer of 64
bits. -/
def IsBeyond (x : Binary64) : Prop :=
  x.isFinite = true ∧ (x.exactValue < -2 ^ 63 ∨ 2 ^ 63 ≤ x.exactValue)

/-- The significand has 53 bits. -/
theorem significand_lt (x : Binary64) : x.significand < 2 ^ 53 := by
  have hfraction : x.fractionField < fractionCount := Nat.mod_lt _ (by decide)
  have hcount : fractionCount = 2 ^ 52 := rfl
  unfold significand
  split <;> omega

/-- A number beyond 64 bits counts whole units, for fewer would leave it a significand. -/
theorem IsBeyond.unitExponent_nonneg {x : Binary64} (h : x.IsBeyond) : 0 ≤ x.unitExponent := by
  by_contra hneg
  have hlarge : (2 : ℚ) ^ 63 ≤ |x.exactValue| := by
    rcases h.2 with hlow | hhigh
    · exact le_trans (by linarith) (neg_le_abs _)
    · exact hhigh.trans (le_abs_self _)
  have hsmall : |x.exactValue| ≤ x.significand := by
    have hunit : (2 : ℚ) ^ x.unitExponent ≤ 1 := zpow_le_one_of_nonpos₀ (by norm_num) (by omega)
    have hpositive : (0 : ℚ) < 2 ^ x.unitExponent := by positivity
    rw [exactValue_eq_significand, abs_mul, abs_signFactor, one_mul, abs_mul, Nat.abs_cast,
      abs_of_pos hpositive]
    exact mul_le_of_le_one_right (Nat.cast_nonneg _) hunit
  have hbits : (x.significand : ℚ) < 2 ^ 53 := by exact_mod_cast x.significand_lt
  linarith [show (2 : ℚ) ^ 53 ≤ 2 ^ 63 by norm_num]

/-- **A number beyond 64 bits is an integer.** -/
theorem IsBeyond.exists_toInt? {x : Binary64} (h : x.IsBeyond) : ∃ n, x.toInt? = some n := by
  have hden : x.magnitude.2 = 1 := by
    show twoTo (-x.unitExponent).toNat = 1
    rw [Int.toNat_of_nonpos (by have := h.unitExponent_nonneg; omega)]
    rfl
  refine ⟨if x.isNegative then -(x.magnitude.1 : ℤ) else x.magnitude.1,
    toInt?_eq_some_iff.2 ⟨h.1, ?_⟩⟩
  rw [exactValue_eq_quotient, hden, Nat.cast_one, div_one]
  unfold signFactor
  split <;> push_cast <;> ring

end Number.Binary64

open Number

/-! ## §3. The nearest integer of 64 bits. -/

/-- An integer of 64 bits is its own nearest one. -/
theorem saturate_of_holds {n : ℤ} (h : IntegerType.int64.holds n = true) : saturate n = n := by
  have hbounds : IntegerType.int64.least ≤ n ∧ n ≤ IntegerType.int64.greatest := by
    simpa [IntegerType.holds] using h
  unfold saturate
  omega

/-- The least or the greatest integer of 64 bits, whichever is on the side of the number. -/
def Number.Binary64.bound (x : Binary64) : ℤ :=
  if x.exactValue < 0 then IntegerType.int64.least else IntegerType.int64.greatest

theorem Number.Binary64.holds_bound (x : Binary64) : IntegerType.int64.holds x.bound = true := by
  unfold bound
  split <;> rfl

/-- Only the type of 64 bits holds its bounds. -/
theorem IntegerType.eq_int64_of_holds_bound {type : IntegerType} {x : Binary64}
    (h : type.holds x.bound = true) : type = .int64 := by
  unfold Binary64.bound at h
  split at h <;> revert h <;> cases type <;> decide

/-- **The nearest integer of 64 bits** to a number that is an integer: itself, or the bound
that it is beyond. -/
theorem saturate_eq_iff {x : Binary64} {n k : ℤ} (hn : x.toInt? = some n) :
    saturate n = k ↔ x.exactValue = k ∧ IntegerType.int64.holds k = true ∨ x.IsBeyond ∧ k = x.bound := by
  obtain ⟨hfinite, hvalue⟩ := Binary64.toInt?_eq_some_iff.1 hn
  have hleast : IntegerType.int64.least = -2 ^ 63 := rfl
  have hgreatest : IntegerType.int64.greatest = 2 ^ 63 - 1 := rfl
  have hbeyond : x.IsBeyond ↔ n < -2 ^ 63 ∨ 2 ^ 63 ≤ n := by
    unfold Binary64.IsBeyond
    rw [hvalue, hfinite, eq_self_iff_true, true_and]
    norm_cast
  have hbound : x.bound = if n < 0 then -2 ^ 63 else 2 ^ 63 - 1 := by
    unfold Binary64.bound
    rw [hvalue, hleast, hgreatest]
    norm_cast
  have hholds : IntegerType.int64.holds k = true ↔ -2 ^ 63 ≤ k ∧ k ≤ 2 ^ 63 - 1 := by
    simp [IntegerType.holds, hleast, hgreatest]
  have hsame : x.exactValue = k ↔ n = k := by
    rw [hvalue]
    exact_mod_cast Iff.rfl
  rw [hbeyond, hbound, hholds, hsame]
  unfold saturate
  rw [hleast, hgreatest]
  split <;> omega

/-! ## §4. Conversion. -/

variable {type : IntegerType} {x : Binary64}

/-- **Which numbers convert**: those that are equal to an integer of the type, to that
integer; and those beyond 64 bits, when the type holds the bound on their side, to that
bound. -/
theorem convert_whole_iff {v : Value} :
    (NativeType.integer type).convert (.float64 (some x)) = .ok v
      ↔ ∃ k : Int64, v = .int64 (some k) ∧ type.holds k.toInt = true
        ∧ (x.isFinite = true ∧ x.exactValue = k.toInt ∨ x.IsBeyond ∧ k.toInt = x.bound) := by
  have hconvert : (NativeType.integer type).convert (.float64 (some x)) = .ok v
      ↔ ∃ k : Int64, v = .int64 (some k) ∧ ∃ n, x.toInt? = some n ∧ type.holds (saturate n) = true
        ∧ k.toInt = saturate n := by
    refine bind_ok.trans (exists_congr fun k => ?_)
    rw [pure_ok, and_comm, eq_comm]
    refine and_congr_right fun _ => ?_
    unfold Value.toInteger
    dsimp only
    cases hn : x.toInt? with
    | none => simp
    | some n => simp [IntegerType.check_ok_iff]
  rw [hconvert]
  refine exists_congr fun k => and_congr_right fun _ => ?_
  constructor
  · rintro ⟨n, hn, hholds, hk⟩
    rw [← hk] at hholds
    refine ⟨hholds, ?_⟩
    rcases (saturate_eq_iff hn).1 hk.symm with ⟨hvalue, -⟩ | hbeyond
    · exact .inl ⟨(Binary64.toInt?_eq_some_iff.1 hn).1, hvalue⟩
    · exact .inr hbeyond
  · rintro ⟨hholds, ⟨hfinite, hvalue⟩ | ⟨hbeyond, hk⟩⟩
    · have hn := Binary64.toInt?_eq_some_iff.2 ⟨hfinite, hvalue⟩
      have hsame := saturate_of_holds (IntegerType.holds_int64 hholds)
      exact ⟨k.toInt, hn, by rwa [hsame], hsame.symm⟩
    · obtain ⟨n, hn⟩ := hbeyond.exists_toInt?
      have hsame := (saturate_eq_iff hn).2 (.inr ⟨hbeyond, hk⟩)
      exact ⟨n, hn, by rwa [hsame], hsame.symm⟩

/-- **A conversion loses nothing**: it succeeds exactly when the number is finite and equal to
an integer of the type, and gives that integer. -/
def IntegerType.ConvertsExactly (type : IntegerType) (x : Binary64) : Prop :=
  ∀ v, (NativeType.integer type).convert (.float64 (some x)) = .ok v
    ↔ ∃ k : Int64, v = .int64 (some k) ∧ type.holds k.toInt = true
      ∧ x.isFinite = true ∧ x.exactValue = k.toInt

/-- **When a conversion loses nothing**: unless it is to the type of 64 bits, of a number
beyond them.  Such a number converts to the bound on its side, which it is not equal to. -/
theorem whole_float_exact_iff (type : IntegerType) (x : Binary64) :
    (∀ v, (NativeType.integer type).convert (.float64 (some x)) = .ok v
        ↔ ∃ k : Int64, v = .int64 (some k) ∧ type.holds k.toInt = true
          ∧ (x.isFinite = true ∧ x.exactValue = k.toInt ∨ x.IsBeyond ∧ k.toInt = x.bound))
      ∧ (type.ConvertsExactly x ↔ ¬ (type = .int64 ∧ x.IsBeyond)) := by
  refine ⟨fun v => convert_whole_iff, ?_, ?_⟩
  · rintro hexact ⟨rfl, hbeyond⟩
    obtain ⟨k, hk⟩ : ∃ k : Int64, k.toInt = x.bound := by
      obtain ⟨k, hk⟩ : ∃ k, IntegerType.int64.check x.bound = .ok k := ⟨_, if_pos x.holds_bound⟩
      exact ⟨k, (IntegerType.check_ok_iff.1 hk).2⟩
    have hholds : IntegerType.int64.holds k.toInt = true := hk ▸ x.holds_bound
    have hconverts := convert_whole_iff.2 ⟨k, rfl, hholds, .inr ⟨hbeyond, hk⟩⟩
    obtain ⟨k', hk', -, -, hvalue⟩ := (hexact _).1 hconverts
    cases hk'
    -- The number is equal to the bound that it is beyond.
    rw [hk] at hvalue
    unfold Binary64.bound at hvalue
    rcases hbeyond.2 with hlow | hhigh
    · rw [if_pos (by linarith)] at hvalue
      rw [hvalue] at hlow
      norm_num [IntegerType.least] at hlow
    · rw [if_neg (by linarith)] at hvalue
      rw [hvalue] at hhigh
      norm_num [IntegerType.greatest] at hhigh
  · intro hwithin v
    refine convert_whole_iff.trans (exists_congr fun k => and_congr_right fun _ =>
      and_congr_right fun hholds => or_iff_left ?_)
    rintro ⟨hbeyond, hk⟩
    rw [hk] at hholds
    exact hwithin ⟨IntegerType.eq_int64_of_holds_bound hholds, hbeyond⟩

/-- Infinity is not an integer, and is refused. -/
example : (NativeType.integer .int64).convert (.float64 (some (Binary64.infinity true)))
    = .error (.cannotConvert (.float64 (some (Binary64.infinity true))) "i64") := by rfl

/-- **Not every conversion is exact**: two to the power 63 becomes one less. -/
theorem not_every_float_converts_exactly :
    ¬ ∀ (type : IntegerType) (x : Binary64), type.ConvertsExactly x := by
  intro hexact
  have hconverts : (NativeType.integer .int64).convert (.float64 (some ⟨0x43E0000000000000⟩))
      = .ok (.int64 (some 9223372036854775807)) := rfl
  obtain ⟨k, hk, -, -, hvalue⟩ := (hexact .int64 _ _).1 hconverts
  cases hk
  have hwhole : (⟨0x43E0000000000000⟩ : Binary64).toInt? = some 9223372036854775808 := by rfl
  obtain ⟨-, hpower⟩ := Binary64.toInt?_eq_some_iff.1 hwhole
  have hequal : (9223372036854775808 : ℤ) = (9223372036854775807 : Int64).toInt := by
    exact_mod_cast hpower.symm.trans hvalue
  exact absurd hequal (by decide)

end RecordMapper
