/-
  RecordMapper.Query.Condition
  ────────────────────────────────
  **BUILDING CONDITIONS.**

  Equality with NULL is a null test from the start.  A connected set absorbs the
  children that are sets of its own connector and not negated, so a set never
  has such a child.  Keyword filters become conditions on the fields that they
  name.
-/
import RecordMapper.Query.Basic

namespace RecordMapper

namespace Condition

/-! ## §1. Comparisons. -/

/-- The operator that a comparison with this operand has: equality with NULL, or
its opposite, is a null test. -/
def effective (op : Operator) (operand : Operand) : Operator :=
  match op with
  | .eq | .is => if operand.isNull then .isNull else op
  | .ne => if operand.isNull then .isNotNull else op
  | _ => op

/-- **A comparison** of a field with an operand. -/
def compare (field : Attribute) (op : Operator) (operand : Operand) : Condition :=
  .leaf field (effective op operand) operand false

/-- The comparison whose operator has this code; a null test takes NULL alone. -/
def ofCode (field : Attribute) (code : String) (operand : Operand) :
    Except Failure Condition := do
  let op ← Operator.ofSuffix code
  if op.isNullTest && !operand.isNull then
    .error (.nullTestWithValue code field.model field.name)
  else
    return compare field op operand

/-- The field lies between two values. -/
def between (field : Attribute) : (low high : Operand) → Except Failure Condition
  | .value low, .value high => .ok (compare field .between (.list [low, high]))
  | _, _ => .error .betweenBounds

/-- The field is NULL. -/
def isNull (field : Attribute) : Condition :=
  compare field .isNull (.value .null)

/-- The field is not NULL. -/
def isNotNull (field : Attribute) : Condition :=
  compare field .isNotNull (.value .null)

/-! ## §2. Connected sets. -/

/-- The children that a condition becomes inside a set of this connector. -/
def absorbed (connector : Connector) : Condition → List Condition
  | .set c children false => if c = connector then children else [.set c children false]
  | condition => [condition]

/-- **A connected set** of conditions. -/
def ofList (connector : Connector) (conditions : List Condition) : Condition :=
  .set connector (conditions.flatMap (absorbed connector)) false

/-- Both conditions hold. -/
def and (a b : Condition) : Condition :=
  ofList .and [a, b]

/-- One of the conditions holds. -/
def or (a b : Condition) : Condition :=
  ofList .or [a, b]

/-- **Negation**: the flag is turned round. -/
def negate : Condition → Condition
  | .leaf field op operand negated => .leaf field op operand (!negated)
  | .set connector children negated => .set connector children (!negated)

/-- The condition is negated. -/
def isNegated : Condition → Bool
  | .leaf _ _ _ negated => negated
  | .set _ _ negated => negated

/-- The models of the fields that are compared, one name per comparison. -/
def leafModels : Condition → List String
  | .leaf field _ _ _ => [field.model]
  | .set _ children _ => go children
where
  go : List Condition → List String
    | [] => []
    | c :: rest => c.leafModels ++ go rest

/-- **The names of the models** of the fields that are compared, sorted. -/
def models (c : Condition) : List String :=
  sortedSet c.leafModels

/-! ## §3. Keyword filters. -/

/-- The null test that a keyword filter asks for: the named one, or its opposite
when the value counts as false. -/
def nullTest (op : Operator) (operand : Operand) : Operator :=
  match op, operand.isTruthy with
  | .isNull, false => .isNotNull
  | _, false => .isNull
  | op, true => op

/-- The condition on a field that the filter `key` asks for. -/
def ofKeyword (key : String) (field : Attribute) (op : Operator) (operand : Operand) :
    Except Failure Condition :=
  match op with
  | .isNull | .isNotNull => .ok (compare field (nullTest op operand) (.value .null))
  | .is =>
    if operand.isNull then .ok (compare field .isNull operand) else .error (.filterNeedsNull key)
  | op => .ok (compare field op operand)

/-- **The conditions of keyword filters** on a model.  A filter whose field the
model does not have is passed over. -/
def ofFilters (m : Model) : List (String × Operand) → Except Failure (List Condition)
  | [] => .ok []
  | (key, operand) :: rest => do
    let (name, op) := resolveKey key
    match m.field? name with
    | none => ofFilters m rest
    | some field =>
      let condition ← ofKeyword key field.toAttribute op operand
      return condition :: (← ofFilters m rest)

end Condition

/-! ## §4. Filters of statements. -/

/-- **A filter with one more condition**, which has to hold too. -/
def conjoin (filter : List Condition) (condition : Condition) : List Condition :=
  filter ++ condition.absorbed .and

/-- A filter as one condition. -/
def Condition.ofFilter (filter : List Condition) : Condition :=
  .set .and filter false

end RecordMapper
