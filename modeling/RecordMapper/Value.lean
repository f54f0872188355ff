/-
  RecordMapper.Value
  ────────────────────────────────
  **VALUES THAT MOVE BETWEEN RECORDS, PARAMETERS AND ROWS.**

  A value is of one of seven types or of none.  Each typed value may be NULL, so
  a NULL can keep the type of the column it belongs to.  Two NULLs are the same
  value whatever their types.
-/
import RecordMapper.Calendar.Layout

namespace RecordMapper

open RecordMapper.Calendar RecordMapper.Number

/-! ## §1. The type. -/

/-- **A value.**  The constructor `null` is the NULL without a type. -/
inductive Value where
  | null
  | boolean (v : Option Bool)
  | int64 (v : Option Int64)
  | float64 (v : Option Binary64)
  | varchar (v : Option String)
  | date (v : Option Date)
  | time (v : Option TimeOfDay)
  | timestamp (v : Option Moment)
  deriving DecidableEq

namespace Value

/-- The untyped NULL is what a missing value reads as. -/
instance : Inhabited Value := ⟨.null⟩

/-! ## §2. NULL. -/

/-- The value is NULL, with or without a type. -/
def isNull : Value → Bool
  | .null => true
  | .boolean v => v.isNone
  | .int64 v => v.isNone
  | .float64 v => v.isNone
  | .varchar v => v.isNone
  | .date v => v.isNone
  | .time v => v.isNone
  | .timestamp v => v.isNone

/-- The NULL of the same type. -/
def asNull : Value → Value
  | .null => .null
  | .boolean _ => .boolean none
  | .int64 _ => .int64 none
  | .float64 _ => .float64 none
  | .varchar _ => .varchar none
  | .date _ => .date none
  | .time _ => .time none
  | .timestamp _ => .timestamp none

/-- The values have the same type; NULL without a type is a type of its own. -/
def sameType (a b : Value) : Bool :=
  a.asNull == b.asNull

/-! ## §3. Equality and truth. -/

/-- **Equality of values**: two NULLs are equal, values of different types are
not, and floating-point numbers compare as numbers. -/
def same : Value → Value → Bool
  | .boolean (some a), .boolean (some b) => a == b
  | .int64 (some a), .int64 (some b) => a == b
  | .float64 (some a), .float64 (some b) => a.numericEq b
  | .varchar (some a), .varchar (some b) => a == b
  | .date (some a), .date (some b) => a == b
  | .time (some a), .time (some b) => a == b
  | .timestamp (some a), .timestamp (some b) => a == b
  | a, b => a.isNull && b.isNull

/-- The value counts as true: it is not false, zero, the empty text or NULL. -/
def isTruthy : Value → Bool
  | .boolean (some v) => v
  | .int64 (some v) => v != 0
  | .float64 (some v) => !v.isZero
  | .varchar (some v) => v != ""
  | v => !v.isNull

/-! ## §4. Text. -/

/-- **The text of a value**, as it is bound where a database keeps text; NULL has
none. -/
def text? : Value → Option String
  | .boolean (some v) => some (if v then "true" else "false")
  | .int64 (some v) => some (toString v.toInt)
  | .float64 (some v) => some v.text
  | .varchar (some v) => some v
  | .date (some v) => some v.text
  | .time (some v) => some v.text
  | .timestamp (some v) => some v.text
  | _ => none

/-- The value is written between quotes where it is shown. -/
def isQuoted : Value → Bool
  | .varchar _ | .date _ | .time _ | .timestamp _ => true
  | _ => false

/-- **The value as messages show it.** -/
def display (v : Value) : String :=
  match v.text? with
  | none => "NULL"
  | some text => if v.isQuoted then "'" ++ text ++ "'" else text

end Value

end RecordMapper
