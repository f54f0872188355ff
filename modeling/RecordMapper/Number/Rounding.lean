/-
  RecordMapper.Number.Rounding
  ────────────────────────────────
  **ROUNDING EXACT QUOTIENTS TO A BINARY FORMAT.**

  A binary format keeps a significand of a fixed number of bits and a bounded
  exponent.  Every conversion into such a format is one rounding of an exact
  quotient of naturals, to the nearest representable value and to the even
  significand on a tie.
-/
import RecordMapper.Number.Power

namespace RecordMapper.Number

/-- A binary format: how many bits a significand has, and the least and the
greatest exponent of its unit. -/
structure Format where
  precision : Nat
  leastExponent : Int
  greatestExponent : Int

/-- The format with 53 significant bits. -/
def wide : Format := ⟨53, -1074, 971⟩

/-- The format with 24 significant bits. -/
def narrow : Format := ⟨24, -149, 104⟩

/-- `num / den` rounded to an integer, a half going to the even neighbour. -/
def roundHalfEven (num den : Nat) : Nat :=
  let quotient := num / den
  match compare (2 * (num % den)) den with
  | .lt => quotient
  | .gt => quotient + 1
  | .eq => if quotient % 2 = 0 then quotient else quotient + 1

/-- The numerator and denominator of `(num / den) / 2 ^ exponent`. -/
def scaleDown (num den : Nat) (exponent : Int) : Nat × Nat :=
  (num * twoTo (-exponent).toNat, den * twoTo exponent.toNat)

/-- The exponent of the unit in which `num / den` is kept: the one that leaves
`precision` bits, or the least exponent when the value is too small for that. -/
def Format.unitExponent (format : Format) (num den : Nat) : Int :=
  let estimate : Int := (num.log2 : Int) - (den.log2 : Int)
  let (n, d) := scaleDown num den estimate
  let leading := if d ≤ n then estimate else estimate - 1
  max (leading - (format.precision - 1)) format.leastExponent

/-- **Rounding**: the significand and exponent nearest to `num / den`.  The
significand may reach `2 ^ precision`, and the exponent may exceed the greatest
one, which means that the value overflows. -/
def Format.round (format : Format) (num den : Nat) : Nat × Int :=
  if num = 0 then (0, format.leastExponent)
  else
    let exponent := format.unitExponent num den
    let (n, d) := scaleDown num den exponent
    (roundHalfEven n d, exponent)

/-- The rounded value is too large for the format. -/
def Format.overflows (format : Format) (significand : Nat) (exponent : Int) : Bool :=
  format.greatestExponent < exponent
    || (exponent == format.greatestExponent && significand == twoTo format.precision)

end RecordMapper.Number
