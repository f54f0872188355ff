/-
  RecordMapper.Number.Decimal
  ────────────────────────────────
  **DECIMAL TEXT OF INTEGERS AND FLOATING-POINT NUMBERS.**

  Writing a floating-point number takes the fewest decimal digits that read
  back to it, of those the nearest to its value, and the upper one of two
  equally near.  The digits are always written positionally, without an
  exponent.  Reading accepts an optional sign, digits with an optional point, an
  optional exponent, and the names of the values that have no digits.
-/
import RecordMapper.Number.Binary64

namespace RecordMapper.Number

/-! ## §1. Runs of digits. -/

/-- The digit that a character stands for. -/
def digit? (c : Char) : Option Nat :=
  if '0' ≤ c && c ≤ '9' then some (c.toNat - 48) else none

/-- The character that stands for a digit below ten. -/
def digitChar (d : Nat) : Char :=
  Char.ofNat (48 + d)

/-- The digits in front of a text, and what follows them. -/
def spanDigits : List Char → List Nat × List Char
  | [] => ([], [])
  | c :: rest =>
    match digit? c with
    | some d => let (ds, tail) := spanDigits rest; (d :: ds, tail)
    | none => ([], c :: rest)

/-- The number that a list of digits denotes, behind the digits of `start`. -/
def ofDigits (start : Nat) (digits : List Nat) : Nat :=
  digits.foldl (fun n d => 10 * n + d) start

/-- The last `width` decimal digits of `n`, zeros in front. -/
def fixedDigits : (width n : Nat) → List Char
  | 0, _ => []
  | width + 1, n => fixedDigits width (n / 10) ++ [digitChar (n % 10)]

/-- A sign in front of a text: whether it is a minus, and what follows. -/
def splitSign : List Char → Bool × List Char
  | '+' :: rest => (false, rest)
  | '-' :: rest => (true, rest)
  | cs => (false, cs)

/-! ## §2. Integers. -/

/-- **Reading an integer**: one optional sign, then digits to the end.  A lone
sign reads as zero; a text without any character does not read. -/
def readInt? (cs : List Char) : Option Int :=
  let (negative, rest) := splitSign cs
  let (digits, tail) := spanDigits rest
  if cs.isEmpty || !tail.isEmpty then none
  else
    let n : Int := ofDigits 0 digits
    some (if negative then -n else n)

/-! ## §3. Reading floating-point numbers. -/

/-- What a decimal text denotes. -/
inductive Decimal where
  | nan
  | infinite (negative : Bool)
  /-- The value `digits * 10 ^ exponent`, with its sign. -/
  | finite (negative : Bool) (digits : Nat) (exponent : Int)

/-- The exponent at the end of a decimal: nothing, or `e` with an optional sign
and at least one digit. -/
def readExponent? : List Char → Option Int
  | [] => some 0
  | c :: rest =>
    if c = 'e' || c = 'E' then
      let (negative, rest) := splitSign rest
      match spanDigits rest with
      | ([], _) => none
      | (digits, []) =>
        let n : Int := ofDigits 0 digits
        some (if negative then -n else n)
      | _ => none
    else none

/-- The digits before and after an optional point, at least one of them present,
and the exponent. -/
def readDigits? (cs : List Char) : Option (Nat × Int) :=
  let (whole, rest) := spanDigits cs
  let (fraction, rest) :=
    match rest with
    | '.' :: tail => spanDigits tail
    | tail => ([], tail)
  if whole.isEmpty && fraction.isEmpty then none
  else
    (readExponent? rest).map fun exponent =>
      (ofDigits 0 (whole ++ fraction), exponent - fraction.length)

/-- **Reading a decimal**: the whole text is consumed, in any letter case. -/
def Decimal.read? (cs : List Char) : Option Decimal :=
  let (negative, rest) := splitSign cs
  match String.ofList (rest.map Char.toLower) with
  | "nan" => some .nan
  | "inf" | "infinity" => some (.infinite negative)
  | _ => (readDigits? rest).map fun (digits, exponent) => .finite negative digits exponent

/-- The greatest power of ten that a finite number reaches lies below this
bound, and so does the least one above its negation. -/
def exponentBound : Int := 400

/-- Round `digits * 10 ^ exponent` with a given rounding of quotients.  Exponents
that no finite number reaches go to infinity or zero without computing the
power. -/
def roundScaled (round : Nat → Nat → Binary64) (overflow : Binary64)
    (digits : Nat) (exponent : Int) : Binary64 :=
  let leading : Int := (Nat.toDigits 10 digits).length + exponent
  if digits = 0 || leading < -exponentBound then round 0 1
  else if exponentBound < leading then overflow
  else round (digits * tenTo exponent.toNat) (tenTo (-exponent).toNat)

/-- The nearest floating-point number. -/
def Decimal.toBinary64 : Decimal → Binary64
  | .nan => .nan
  | .infinite negative => .infinity negative
  | .finite negative digits exponent =>
    roundScaled (.ofQuotient negative) (.infinity negative) digits exponent

/-- The nearest floating-point number with 24 significant bits. -/
def Decimal.toNarrow : Decimal → Binary64
  | .nan => .nan
  | .infinite negative => .infinity negative
  | .finite negative digits exponent =>
    roundScaled (.ofQuotientNarrow negative) (.infinity negative) digits exponent

/-! ## §4. Writing floating-point numbers. -/

/-- `digits * 10 ^ exponent` reads back to the number. -/
def readsBack (x : Binary64) (digits : Nat) (exponent : Int) : Bool :=
  (Decimal.finite x.isNegative digits exponent).toBinary64 == x

/-- The least `k` with `num / den < 10 ^ k`, by search from an estimate that is
never too large. -/
def decimalScale (num den : Nat) : Int :=
  let digits : Int := (Nat.toDigits 10 num).length
  let estimate : Int := digits - (Nat.toDigits 10 den).length
  if num * tenTo (-estimate).toNat < den * tenTo estimate.toNat then estimate else estimate + 1

/-- Of the two neighbours of `num / den` on the grid `10 ^ exponent`, the one to
write: the nearer of those that read back, the upper one on a tie. -/
def gridNeighbour? (x : Binary64) (exponent : Int) : Option (Nat × Int) :=
  let (num, den) := x.magnitude
  let n := num * tenTo (-exponent).toNat
  let d := den * tenTo exponent.toNat
  let below := n / d
  match readsBack x below exponent, readsBack x (below + 1) exponent with
  | true, true => if 2 * (n % d) < d then some (below, exponent) else some (below + 1, exponent)
  | true, false => some (below, exponent)
  | false, true => some (below + 1, exponent)
  | false, false => none

/-- Drop the zeros at the end of the digits into the exponent. -/
def stripZeros (fuel digits : Nat) (exponent : Int) : Nat × Int :=
  match fuel with
  | 0 => (digits, exponent)
  | fuel + 1 =>
    if digits % 10 = 0 then stripZeros fuel (digits / 10) (exponent + 1) else (digits, exponent)

/-- **The shortest decimal**: the coarsest of seventeen grids on which a
neighbour of the value reads back.  Should there be none, the exact value. -/
def shortest (x : Binary64) : Nat × Int :=
  let (num, den) := x.magnitude
  if num = 0 then (0, 0)
  else
    let scale := decimalScale num den
    match (List.range 17).findSome? (fun (i : Nat) => gridNeighbour? x (scale - (i + 1))) with
    | some (digits, exponent) => stripZeros 17 digits exponent
    | none =>
      let places := (-x.unitExponent).toNat
      (num * Nat.pow 5 places, -(places : Int))

/-- Digits and an exponent of ten, written positionally. -/
def positional (digits : Nat) (exponent : Int) : String :=
  let ds := Nat.toDigits 10 digits
  if 0 ≤ exponent then String.ofList (ds ++ List.replicate exponent.toNat '0')
  else
    let places := (-exponent).toNat
    let padded := List.replicate (places + 1 - ds.length) '0' ++ ds
    let whole := padded.length - places
    String.ofList (padded.take whole ++ '.' :: padded.drop whole)

/-- **The text of a floating-point number.** -/
def Binary64.text (x : Binary64) : String :=
  if x.isNaN then "NaN"
  else
    let body := if x.isInfinite then "inf" else positional (shortest x).1 (shortest x).2
    if x.isNegative then "-" ++ body else body

end RecordMapper.Number
