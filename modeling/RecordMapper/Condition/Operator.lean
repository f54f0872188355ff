/-
  RecordMapper.Condition.Operator
  ────────────────────────────────
  **OPERATORS OF CONDITIONS.**

  A keyword filter names an operator by the suffix behind two underscores, as in
  `title__contains`.  Here are the operators, their suffixes, and how a key is
  split into a field name and an operator.
-/
import RecordMapper.Failure

namespace RecordMapper

/-- **An operator** between a field and a value. -/
inductive Operator where
  | eq
  | ne
  | lt
  | lte
  | gt
  | gte
  | isNull
  | isNotNull
  /-- A null test written with a value, which has to be NULL. -/
  | is
  | isIn
  | notIn
  | between
  | contains
  | startsWith
  /-- Equality without regard to letter case. -/
  | ieq
  | icontains
  | istartsWith
  deriving DecidableEq, Repr

namespace Operator

/-- Every operator. -/
def all : List Operator :=
  [.eq, .ne, .lt, .lte, .gt, .gte, .isNull, .isNotNull, .is, .isIn, .notIn, .between,
   .contains, .startsWith, .ieq, .icontains, .istartsWith]

/-- The suffix that names the operator in a keyword filter. -/
def suffix : Operator → String
  | .eq => "eq"
  | .ne => "ne"
  | .lt => "lt"
  | .lte => "lte"
  | .gt => "gt"
  | .gte => "gte"
  | .isNull => "isnull"
  | .isNotNull => "isnotnull"
  | .is => "is"
  | .isIn => "in"
  | .notIn => "nin"
  | .between => "between"
  | .contains => "contains"
  | .startsWith => "startswith"
  | .ieq => "ieq"
  | .icontains => "icontains"
  | .istartsWith => "istartswith"

/-- The operator disregards letter case. -/
def ignoresCase : Operator → Bool
  | .ieq | .icontains | .istartsWith => true
  | _ => false

/-- The operator is written without a value. -/
def isNullTest : Operator → Bool
  | .isNull | .isNotNull | .is => true
  | _ => false

/-- The operator with this suffix. -/
def ofSuffix? (code : String) : Option Operator :=
  all.find? (·.suffix == code)

/-- The operator with this suffix, or a failure that names the suffix. -/
def ofSuffix (code : String) : Except Failure Operator :=
  match ofSuffix? code with
  | some op => .ok op
  | none => .error (.unknownOperator code)

/-- Every operator is the one that its suffix names. -/
theorem ofSuffix?_suffix (op : Operator) : ofSuffix? op.suffix = some op := by
  cases op <;> decide

end Operator

/-! ## Keys of keyword filters. -/

/-- Split at the last two underscores in a row: what stands before and after
them. -/
def splitLast? : List Char → Option (List Char × List Char)
  | [] => none
  | c :: rest =>
    match splitLast? rest with
    | some (name, suffix) => some (c :: name, suffix)
    | none =>
      match c, rest with
      | '_', '_' :: suffix => some ([], suffix)
      | _, _ => none

/-- A key split at its last two underscores. -/
def splitKey? (key : String) : Option (String × String) :=
  (splitLast? key.toList).map fun (name, suffix) => (String.ofList name, String.ofList suffix)

/-- **The field name and operator of a key.**  A suffix that names no operator
belongs to the field name, and the operator is then equality. -/
def resolveKey (key : String) : String × Operator :=
  match splitKey? key with
  | none => (key, .eq)
  | some (name, suffix) =>
    match Operator.ofSuffix? suffix with
    | some op => (name, op)
    | none => (key, .eq)

/-- **The field name of a key**, when its operator does not matter. -/
def fieldNameOf (key : String) : String :=
  (((splitKey? key).filter fun (_, suffix) => (Operator.ofSuffix? suffix).isSome).map (·.1)).getD
    key

end RecordMapper
