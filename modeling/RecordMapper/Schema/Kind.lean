/-
  RecordMapper.Schema.Kind
  ────────────────────────────────
  **FIELD KINDS: STORED AND APPLICATION FORM.**

  The kind of a field decides which values it takes and how they are bound as
  parameters.  Records hold the application form; the storage form differs from
  it for truth values, which are stored as one and zero, and for text, which is
  cut to the length of its column.
-/
import RecordMapper.Conversion

namespace RecordMapper

/-- **The kind of a field.** -/
inductive Kind where
  | integer
  | number
  | float
  /-- Stored as one or zero. -/
  | boolean
  /-- Text of a fixed length, cut to it when stored. -/
  | char (length : Nat)
  /-- Text of at most this length, cut to it when stored. -/
  | varchar (length : Nat)
  | dateTime
  | date
  | time
  deriving DecidableEq, Repr

namespace Kind

/-- The length of a `char` field that states none. -/
def charLength : Nat := 1000

/-- The length of a `varchar` field that states none. -/
def varcharLength : Nat := 3000

/-- The NULL of the kind. -/
def empty : Kind → Value
  | .integer | .number => .int64 none
  | .float => .float64 none
  | .boolean => .boolean none
  | .char _ | .varchar _ => .varchar none
  | .dateTime => .timestamp none
  | .date => .date none
  | .time => .time none

/-- What NULL reads as in a record: the empty text for text, else the NULL of the
kind. -/
def absent : Kind → Value
  | .char _ | .varchar _ => .varchar (some "")
  | kind => kind.empty

/-- The type whose conversion gives the application form. -/
def type : Kind → NativeType
  | .integer | .number => .integer .int64
  | .float => .float64
  | .boolean => .boolean
  | .char _ | .varchar _ => .text
  | .dateTime => .timestamp
  | .date => .date
  | .time => .time

/-- **The application form** of a value. -/
def toApplication (kind : Kind) (v : Value) : Except Failure Value :=
  if v.isNull then .ok kind.absent else kind.type.convert v

/-- The first `length` characters of a text. -/
def cut (length : Nat) (text : String) : String :=
  String.ofList (text.toList.take length)

/-- **The storage form** of a value. -/
def toStorage (kind : Kind) (v : Value) : Except Failure Value :=
  if v.isNull then .ok kind.empty
  else
    match kind with
    | .boolean => return .int64 (some (if ← v.toBoolean then 1 else 0))
    | .char length | .varchar length => return .varchar (some (cut length (← v.toText)))
    | kind => kind.toApplication v

end Kind

end RecordMapper
