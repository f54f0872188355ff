/-
  RecordMapper.Number.Binary64
  ────────────────────────────────
  **64-BIT BINARY FLOATING POINT, AS WORDS.**

  A number is its 64-bit word: a sign bit, eleven exponent bits and 52 fraction
  bits.  Its fields and its exact value are read off the word in integer
  arithmetic, and every number that is made is one exact value rounded once.
-/
import RecordMapper.Number.Rounding

namespace RecordMapper.Number

/-- **A 64-bit floating-point number**, by its word. -/
structure Binary64 where
  bits : UInt64
  deriving DecidableEq, Repr

namespace Binary64

/-! ## §1. The fields of the word. -/

/-- How many fractions there are: two to the power 52.  The leading bit of a
significand weighs as much. -/
def fractionCount : Nat := 4503599627370496

/-- The least word with the sign bit: two to the power 63. -/
def signBit : Nat := 9223372036854775808

/-- The sign bit is set. -/
def isNegative (x : Binary64) : Bool :=
  decide (signBit ≤ x.bits.toNat)

/-- The eleven exponent bits. -/
def exponentField (x : Binary64) : Nat :=
  x.bits.toNat / fractionCount % 2048

/-- The 52 fraction bits. -/
def fractionField (x : Binary64) : Nat :=
  x.bits.toNat % fractionCount

/-- Not a number. -/
def isNaN (x : Binary64) : Bool :=
  x.exponentField == 2047 && x.fractionField != 0

/-- One of the two infinities. -/
def isInfinite (x : Binary64) : Bool :=
  x.exponentField == 2047 && x.fractionField == 0

/-- Neither infinite nor NaN. -/
def isFinite (x : Binary64) : Bool :=
  x.exponentField != 2047

/-! ## §2. The exact value of a finite number. -/

/-- The integer significand. -/
def significand (x : Binary64) : Nat :=
  if x.exponentField = 0 then x.fractionField else fractionCount + x.fractionField

/-- The exponent of the significand's unit: the magnitude is
`significand * 2 ^ unitExponent`. -/
def unitExponent (x : Binary64) : Int :=
  if x.exponentField = 0 then -1074 else (x.exponentField : Int) - 1075

/-- The magnitude as a quotient of naturals. -/
def magnitude (x : Binary64) : Nat × Nat :=
  (x.significand * twoTo x.unitExponent.toNat, twoTo (-x.unitExponent).toNat)

/-- **The integer value**, when the number is finite and has one. -/
def toInt? (x : Binary64) : Option Int :=
  let (num, den) := x.magnitude
  if x.isFinite && num % den == 0 then
    some (if x.isNegative then -((num / den : Nat) : Int) else ((num / den : Nat) : Int))
  else none

/-! ## §3. Making numbers. -/

/-- The word with this sign and these exponent and fraction bits, taken as one
number. -/
def ofMagnitudeBits (negative : Bool) (word : Nat) : Binary64 :=
  ⟨UInt64.ofNat ((if negative then signBit else 0) + word)⟩

/-- Infinity of the given sign. -/
def infinity (negative : Bool) : Binary64 :=
  ofMagnitudeBits negative (2047 * fractionCount)

/-- The number that stands for every result without a value. -/
def nan : Binary64 :=
  ofMagnitudeBits false (2047 * fractionCount + fractionCount / 2)

/-- The number `significand * 2 ^ exponent`, for a significand and exponent that
rounding to 53 bits yields. -/
def ofSignificand (negative : Bool) (significand : Nat) (exponent : Int) : Binary64 :=
  if wide.overflows significand exponent then infinity negative
  else if significand < fractionCount then ofMagnitudeBits negative significand
  else
    ofMagnitudeBits negative
      ((exponent + 1075).toNat * fractionCount + (significand - fractionCount))

/-- **The number nearest to a quotient.** -/
def ofQuotient (negative : Bool) (num den : Nat) : Binary64 :=
  let (significand, exponent) := wide.round num den
  ofSignificand negative significand exponent

/-- The number that a quotient becomes when it is first rounded to 24 bits.  The
second step is exact: every 24-bit value has a 64-bit word. -/
def ofQuotientNarrow (negative : Bool) (num den : Nat) : Binary64 :=
  let (significand, exponent) := narrow.round num den
  if narrow.overflows significand exponent then infinity negative
  else ofQuotient negative (significand * twoTo exponent.toNat) (twoTo (-exponent).toNat)

/-- The number nearest to an integer. -/
def ofInt (n : Int) : Binary64 :=
  ofQuotient (n < 0) n.natAbs 1

/-- The number nearest to an integer among those with 24 significant bits. -/
def ofIntNarrow (n : Int) : Binary64 :=
  ofQuotientNarrow (n < 0) n.natAbs 1

/-- **Narrowing**: the nearest number with 24 significant bits. -/
def narrowed (x : Binary64) : Binary64 :=
  if x.isFinite then ofQuotientNarrow x.isNegative x.magnitude.1 x.magnitude.2
  else x

/-! ## §4. Comparison. -/

/-- Zero of either sign. -/
def isZero (x : Binary64) : Bool :=
  x.exponentField == 0 && x.fractionField == 0

/-- **Numeric equality**: no NaN equals anything, and the two zeros are equal. -/
def numericEq (x y : Binary64) : Bool :=
  !x.isNaN && !y.isNaN && (x.bits == y.bits || (x.isZero && y.isZero))

end Binary64

end RecordMapper.Number
