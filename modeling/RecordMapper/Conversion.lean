/-
  RecordMapper.Conversion
  ────────────────────────────────
  **CONVERTING VALUES TO A TYPE.**

  A conversion accepts the values of its own type and a few that lose nothing:
  numbers written as text, whole floating-point numbers for integers, zero and
  one for truth values, text and unix seconds for dates and times.  Everything
  else is a failure that names the value and the type.
-/
import RecordMapper.Failure

namespace RecordMapper

open RecordMapper.Calendar RecordMapper.Number

/-! ## §1. The types. -/

/-- The integer types, by width and sign. -/
inductive IntegerType where
  | int8
  | int16
  | int32
  | int64
  | uint8
  | uint16
  | uint32
  deriving DecidableEq, Repr

namespace IntegerType

/-- The least number of the type. -/
def least : IntegerType → Int
  | .int8 => -128
  | .int16 => -32768
  | .int32 => -2147483648
  | .int64 => -9223372036854775808
  | .uint8 | .uint16 | .uint32 => 0

/-- The greatest number of the type. -/
def greatest : IntegerType → Int
  | .int8 => 127
  | .int16 => 32767
  | .int32 => 2147483647
  | .int64 => 9223372036854775807
  | .uint8 => 255
  | .uint16 => 65535
  | .uint32 => 4294967295

/-- The number belongs to the type. -/
def holds (type : IntegerType) (n : Int) : Bool :=
  type.least ≤ n && n ≤ type.greatest

/-- The name of the type in messages. -/
def name : IntegerType → String
  | .int8 => "i8"
  | .int16 => "i16"
  | .int32 => "i32"
  | .int64 => "i64"
  | .uint8 => "u8"
  | .uint16 => "u16"
  | .uint32 => "u32"

end IntegerType

/-- **The types that values convert to.** -/
inductive NativeType where
  | integer (type : IntegerType)
  /-- Floating point with 24 significant bits. -/
  | float32
  | float64
  | boolean
  | text
  /-- A view of text that lies elsewhere; no value converts to it. -/
  | textView
  | date
  | time
  | timestamp
  /-- The type and NULL. -/
  | optional (type : NativeType)
  deriving DecidableEq, Repr

namespace NativeType

/-- The name of the type in messages. -/
def name : NativeType → String
  | .integer type => type.name
  | .float32 => "f32"
  | .float64 => "f64"
  | .boolean => "bool"
  | .text => "alloc::string::String"
  | .textView => "&str"
  | .date => "time::date::Date"
  | .time => "time::time::Time"
  | .timestamp => "time::plain_date_time::PlainDateTime"
  | .optional type => "core::option::Option<" ++ type.name ++ ">"

/-- The NULL of the type. -/
def empty : NativeType → Value
  | .integer _ => .int64 none
  | .float32 | .float64 => .float64 none
  | .boolean => .boolean none
  | .text | .textView => .varchar none
  | .date => .date none
  | .time => .time none
  | .timestamp => .timestamp none
  | .optional type => type.empty

end NativeType

/-! ## §2. Integers. -/

/-- The number, if the type holds it. -/
def IntegerType.check (type : IntegerType) (n : Int) : Except Failure Int64 :=
  if type.holds n then .ok (Int64.ofInt n) else .error (.outOfRange n type.name)

/-- **Reading an integer from text**, white space around it passed over. -/
def parseInteger (type : IntegerType) (text : String) : Except Failure Int64 :=
  let trimmed := Text.trim text.toList
  match readInt? trimmed with
  | some n =>
    if IntegerType.int64.holds n then type.check n
    else .error (.cannotParse (String.ofList trimmed) type.name)
  | none => .error (.cannotParse (String.ofList trimmed) type.name)

/-- The nearest integer that 64 bits hold. -/
def saturate (n : Int) : Int :=
  max IntegerType.int64.least (min n IntegerType.int64.greatest)

/-- **The integer in a value**: an integer, a truth value as zero or one, a
floating-point number without a fraction, or a text.  A floating-point number
beyond 64 bits counts as the nearest integer that they hold. -/
def Value.toInteger (type : IntegerType) : Value → Except Failure Int64
  | .int64 (some n) => type.check n.toInt
  | .boolean (some b) => type.check (if b then 1 else 0)
  | .float64 (some x) =>
    match x.toInt? with
    | some n => type.check (saturate n)
    | none => .error (.cannotConvert (.float64 (some x)) type.name)
  | .varchar (some text) => do type.check (← parseInteger .int64 text).toInt
  | v => .error (.cannotConvert v type.name)

/-! ## §3. Floating-point numbers. -/

/-- Read a decimal text and round it. -/
def parseFloat (round : Decimal → Binary64) (type : NativeType) (text : String) :
    Except Failure Binary64 :=
  let trimmed := Text.trim text.toList
  match Decimal.read? trimmed with
  | some d => .ok (round d)
  | none => .error (.cannotParse (String.ofList trimmed) type.name)

/-- The floating-point number in a value. -/
def Value.toFloat : Value → Except Failure Binary64
  | .float64 (some x) => .ok x
  | .int64 (some n) => .ok (.ofInt n.toInt)
  | .varchar (some text) => parseFloat Decimal.toBinary64 .float64 text
  | v => .error (.cannotConvert v NativeType.float64.name)

/-- The floating-point number in a value, with 24 significant bits. -/
def Value.toNarrowFloat : Value → Except Failure Binary64
  | .float64 (some x) => .ok x.narrowed
  | .int64 (some n) => .ok (.ofIntNarrow n.toInt)
  | .varchar (some text) => parseFloat Decimal.toNarrow .float32 text
  | v => .error (.cannotConvert v NativeType.float32.name)

/-! ## §4. Truth values and text. -/

/-- **Reading a truth value from text.** -/
def parseBoolean (text : String) : Except Failure Bool :=
  let trimmed := String.ofList (Text.trim text.toList)
  if ["1", "true", "TRUE", "True"].contains trimmed then .ok true
  else if ["0", "false", "FALSE", "False"].contains trimmed then .ok false
  else .error (.cannotParse trimmed NativeType.boolean.name)

/-- The truth value in a value: an integer is true unless it is zero. -/
def Value.toBoolean : Value → Except Failure Bool
  | .boolean (some b) => .ok b
  | .int64 (some n) => .ok (n != 0)
  | .varchar (some text) => parseBoolean text
  | v => .error (.cannotConvert v NativeType.boolean.name)

/-- The text of a value that is not NULL. -/
def Value.toText (v : Value) : Except Failure String :=
  match v.text? with
  | some text => .ok text
  | none => .error (.cannotConvert v NativeType.text.name)

/-! ## §5. Dates and times. -/

/-- The moment of a count of seconds. -/
def momentOfSeconds (seconds : Int64) : Except Failure Moment :=
  match Moment.ofUnixSeconds? seconds.toInt with
  | some moment => .ok moment
  | none => .error (.noSuchMoment seconds.toInt)

/-- **Reading a moment from text**: a date and a time, or a date that begins. -/
def parseMoment (text : String) : Except Failure Moment :=
  let trimmed := Text.trim text.toList
  match Moment.read? trimmed with
  | some moment => .ok moment
  | none => .error (.cannotParse (String.ofList trimmed) "PrimitiveDateTime")

/-- Reading a date from text: a date, or the date of a moment. -/
def parseDate (text : String) : Except Failure Date :=
  match Date.read? (Text.trim text.toList) with
  | some date => .ok date
  | none => (parseMoment text).map (·.date)

/-- Reading a time of day from text. -/
def parseTime (text : String) : Except Failure TimeOfDay :=
  let trimmed := Text.trim text.toList
  match TimeOfDay.read? trimmed with
  | some time => .ok time
  | none => .error (.cannotParse (String.ofList trimmed) "Time")

/-- The date in a value. -/
def Value.toDate : Value → Except Failure Date
  | .date (some d) => .ok d
  | .timestamp (some moment) => .ok moment.date
  | .int64 (some seconds) => (momentOfSeconds seconds).map (·.date)
  | .varchar (some text) => parseDate text
  | v => .error (.cannotConvert v NativeType.date.name)

/-- The time of day in a value. -/
def Value.toTime : Value → Except Failure TimeOfDay
  | .time (some t) => .ok t
  | .timestamp (some moment) => .ok moment.time
  | .int64 (some seconds) => (momentOfSeconds seconds).map (·.time)
  | .varchar (some text) => parseTime text
  | v => .error (.cannotConvert v NativeType.time.name)

/-- The moment in a value; a date counts as the moment it begins. -/
def Value.toMoment : Value → Except Failure Moment
  | .timestamp (some moment) => .ok moment
  | .date (some d) => .ok d.atMidnight
  | .int64 (some seconds) => momentOfSeconds seconds
  | .varchar (some text) => parseMoment text
  | v => .error (.cannotConvert v NativeType.timestamp.name)

/-! ## §6. Conversion by type. -/

namespace NativeType

/-- **Conversion**: the value as one of the type, or why there is none. -/
def convert : NativeType → Value → Except Failure Value
  | .integer type, v => return .int64 (some (← v.toInteger type))
  | .float32, v => return .float64 (some (← v.toNarrowFloat))
  | .float64, v => return .float64 (some (← v.toFloat))
  | .boolean, v => return .boolean (some (← v.toBoolean))
  | .text, v => return .varchar (some (← v.toText))
  | .textView, v => .error (.cannotConvert v textView.name)
  | .date, v => return .date (some (← v.toDate))
  | .time, v => return .time (some (← v.toTime))
  | .timestamp, v => return .timestamp (some (← v.toMoment))
  | .optional type, v => if v.isNull then .ok type.empty else type.convert v

/-- **Reading text** as a value of the type.  A text view and an optional type
have no readings of their own. -/
def parse : NativeType → String → Except Failure Value
  | .integer type, s => return .int64 (some (← parseInteger type s))
  | .float32, s => return .float64 (some (← parseFloat Decimal.toNarrow .float32 s))
  | .float64, s => return .float64 (some (← parseFloat Decimal.toBinary64 .float64 s))
  | .boolean, s => return .boolean (some (← parseBoolean s))
  | .text, s => return .varchar (some s)
  | .date, s => return .date (some (← parseDate s))
  | .time, s => return .time (some (← parseTime s))
  | .timestamp, s => return .timestamp (some (← parseMoment s))
  | .textView, s => .error (.cannotParse s textView.name)
  | .optional type, s => .error (.cannotParse s (optional type).name)

end NativeType

end RecordMapper
