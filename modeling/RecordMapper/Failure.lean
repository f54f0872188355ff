/-
  RecordMapper.Failure
  ────────────────────────────────
  **WHY AN OPERATION FAILS.**

  Each failure is a cause with its particulars.  Its kind tells what sort of
  remedy there is, and one function gives every cause its wording.
-/
import RecordMapper.Text.Joined
import RecordMapper.Text.Shortened
import RecordMapper.Value

namespace RecordMapper

/-! ## §1. Causes and kinds. -/

/-- **A failure**, by its cause. -/
inductive Failure where
  -- Conversions.
  | cannotConvert (value : Value) (type : String)
  | cannotParse (text : String) (type : String)
  | outOfRange (number : Int) (type : String)
  | noSuchMoment (seconds : Int)
  | invalidValue (model field : String) (cause : Failure)
  -- Declaring and registering models.
  | nullablePrimary
  | primaryNullable
  | repeatedField (model field : String)
  | repeatedColumn (model column : String)
  | noPrimaryKey (model : String)
  | severalPrimaryKeys (model first second : String)
  | unknownOrdering (model field : String)
  | noSuchField (model field : String)
  | notBound (model : String)
  -- Building conditions and queries.
  | unknownOperator (code : String)
  | nullTestWithValue (code model field : String)
  | betweenBounds
  | filterNeedsNull (key : String)
  | unknownJoinType (text : String)
  | noRelationBetween (first second : String)
  | notJoined (model : String)
  | notImplemented (feature : String)
  | emptyBulkInsert
  | undefinedBulkField (model field : String)
  | bulkRowLength (values columns : Nat)
  | notNullable (model field : String)
  -- Records.
  | noSuchRelation (model name : String)
  | noSuchReverseRelation (model name : String)
  | noForeignKeyFor (model name : String)
  | saveWithoutKey (model : String)
  | deleteWithoutKey (model : String)
  | refreshWithoutKey (model : String)
  -- Results.
  | noData
  | resultStillOpen
  | resultNotCached
  | invalidCount (count : Int)
  -- Backends.
  | backend (message : String)
  | statementFailed (native : Failure) (statement : String) (parameters : List Value)
  | notSqliteUrl
  | unknownOpenMode (mode : String)

/-- The categories of failures that callers tell apart. -/
inductive FailureKind where
  /-- A request breaks a rule before it reaches a backend. -/
  | validation
  /-- A query is built wrongly. -/
  | query
  /-- One record was asked for and there is none. -/
  | noData
  /-- A result cannot be read again. -/
  | resultUnavailable
  | notImplemented
  /-- A backend refused a statement. -/
  | database
  /-- Everything else. -/
  | other
  deriving DecidableEq, Repr

namespace Failure

/-- **The kind of a failure.** -/
def kind : Failure → FailureKind
  | .cannotConvert .. | .cannotParse .. | .outOfRange .. | .noSuchMoment .. | .invalidCount ..
  | .backend .. | .notSqliteUrl | .unknownOpenMode .. => .other
  | .undefinedBulkField .. => .query
  | .notImplemented .. => .notImplemented
  | .noData => .noData
  | .resultStillOpen | .resultNotCached => .resultUnavailable
  | .statementFailed .. => .database
  | _ => .validation

/-! ## §2. Wording. -/

/-- Parameters as messages show them. -/
def showParameters (parameters : List Value) : String :=
  Text.appendSeparated "[" (parameters.map Value.display) ", " ++ "]"

/-- A text on one line: its line breaks are dropped. -/
def onOneLine (text : String) : String :=
  String.ofList (text.toList.filter fun c => c != '\n' && c != '\r')

/-- **The wording of a failure.** -/
def message : Failure → String
  | .cannotConvert value type => "Cannot convert " ++ value.display ++ " into " ++ type
  | .cannotParse text type => "Cannot parse `" ++ Text.shortened text ++ "` as " ++ type
  | .outOfRange number type => "Value " ++ toString number ++ " is out of range for " ++ type
  | .noSuchMoment seconds =>
    "Invalid unix timestamp " ++ toString seconds ++ ": timestamp was not in range"
  | .invalidValue model field cause =>
    "Invalid value for field " ++ model ++ "." ++ field ++ ": " ++ cause.message
  | .nullablePrimary => "A nullable field cannot be the primary key"
  | .primaryNullable => "A primary key field cannot be nullable"
  | .repeatedField model field => "Field " ++ model ++ "." ++ field ++ " is declared twice"
  | .repeatedColumn model column => "Column " ++ column ++ " of " ++ model ++ " is mapped twice"
  | .noPrimaryKey model => "Model " ++ model ++ " has no primary key field"
  | .severalPrimaryKeys model first second =>
    "Model " ++ model ++ " declares more than one primary key (" ++ first ++ " and " ++ second ++ ")"
  | .unknownOrdering model field =>
    "Ordering of " ++ model ++ " refers to the unknown field " ++ field
  | .noSuchField model field => "Model " ++ model ++ " has no field " ++ field
  | .notBound model => "Model " ++ model ++ " is not bound to a database"
  | .unknownOperator code => "Unknown operator code `" ++ code ++ "`"
  | .nullTestWithValue code model field =>
    "The operator `" ++ code ++ "` on " ++ model ++ "." ++ field ++ " only accepts a null value"
  | .betweenBounds => "Between expects two scalar bounds"
  | .filterNeedsNull key => "The filter `" ++ key ++ "` only accepts a null value"
  | .unknownJoinType text => "Unknown join type `" ++ text ++ "`"
  | .noRelationBetween first second =>
    "No relation found between models " ++ first ++ " and " ++ second
  | .notJoined model => "Model " ++ model ++ " must be joined before it can be activated"
  | .notImplemented feature => feature ++ " is not implemented"
  | .emptyBulkInsert => "Not enough arguments for bulk insert"
  | .undefinedBulkField model field =>
    "Field " ++ field ++ " is not defined in model " ++ model
  | .bulkRowLength values columns =>
    "Bulk insert row has " ++ toString values ++ " values for " ++ toString columns ++ " columns"
  | .notNullable model field => "Field " ++ model ++ "." ++ field ++ " is not nullable"
  | .noSuchRelation model name => "Model " ++ model ++ " has no relation " ++ name
  | .noSuchReverseRelation model name =>
    "Model " ++ model ++ " has no reverse relation " ++ name
  | .noForeignKeyFor model name => "Model " ++ model ++ " has no foreign key for " ++ name
  | .saveWithoutKey model => "Cannot save a loaded " ++ model ++ " without a primary key"
  | .deleteWithoutKey model => "Cannot delete a " ++ model ++ " without a primary key"
  | .refreshWithoutKey model => "Cannot refresh a " ++ model ++ " without a primary key"
  | .noData => "No data with the defined conditions"
  | .resultStillOpen => "The result is still reading from its cursor"
  | .resultNotCached => "Requested data was not cached"
  | .invalidCount count => "Invalid row count " ++ toString count
  | .backend message => message
  | .statementFailed native statement parameters =>
    onOneLine (native.message ++ " (\"" ++ statement ++ "\" " ++ showParameters parameters ++ ")")
  | .notSqliteUrl => "Expected sqlite connection url to start with `sqlite://`"
  | .unknownOpenMode mode => "Unknown sqlite open mode `" ++ mode ++ "`"

end Failure

end RecordMapper
