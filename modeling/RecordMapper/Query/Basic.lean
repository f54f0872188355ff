/-
  RecordMapper.Query.Basic
  ────────────────────────────────
  **CONDITIONS AND SELECTS.**

  A condition compares a field with an operand, and an operand may be a select;
  a select in turn holds conditions.  The three types are declared together.
  A select says what is asked of a model and the models joined to it.
-/
import RecordMapper.Schema.Catalog

namespace RecordMapper

/-! ## §1. Selects without their conditions. -/

/-- **A join condition**: the two fields are equal. -/
structure Join where
  type : JoinType
  lhs : Attribute
  rhs : Attribute
  deriving DecidableEq, Repr

/-- Everything a select states but its conditions. -/
structure SelectPlan where
  /-- The root model. -/
  model : Model
  /-- The model on which names of filters, orderings and groups are looked up. -/
  active : Model
  distinct : Bool
  /-- The selected fields; none means the default selection. -/
  fields : List Field
  orderBy : List SortKey
  groupBy : List Attribute
  limit : Option Nat
  offset : Option Nat
  /-- The joined models in order, each with the joins that reach it. -/
  joined : List (Model × List Join)
  /-- The alias of each table, under the name of its model. -/
  aliases : Keyed String
  /-- Rows are read as records of the root model alone. -/
  naive : Bool

/-! ## §2. The types. -/

mutual

/-- **The right-hand side of a condition.** -/
inductive Operand where
  | value (v : Value)
  | list (vs : List Value)
  /-- A nested select. -/
  | query (q : Select)

/-- **A condition**: a comparison, or a connected set of conditions. -/
inductive Condition where
  | leaf (field : Attribute) (op : Operator) (operand : Operand) (negated : Bool)
  | set (connector : Connector) (children : List Condition) (negated : Bool)

/-- **A select.**  The conditions of its filter all have to hold. -/
structure Select extends SelectPlan where
  filter : List Condition

end

namespace Operand

/-- The operand is one value, and it is NULL. -/
def isNull : Operand → Bool
  | .value v => v.isNull
  | _ => false

/-- The operand counts as true: a true value, a list with a member, a select. -/
def isTruthy : Operand → Bool
  | .value v => v.isTruthy
  | .list vs => !vs.isEmpty
  | .query _ => true

end Operand

/-! ## §3. What conditions and selects keep alive. -/

namespace SelectPlan

/-- The models that a plan keeps. -/
def held (p : SelectPlan) : List Model :=
  p.model :: p.active :: p.joined.map (·.1)

end SelectPlan

mutual

/-- The models that an operand keeps. -/
def Operand.held : Operand → List Model
  | .value _ | .list _ => []
  | .query q => q.held

/-- The models that a condition keeps. -/
def Condition.held : Condition → List Model
  | .leaf _ _ operand _ => operand.held
  | .set _ children _ => Condition.heldByAll children

/-- The models that a list of conditions keeps. -/
def Condition.heldByAll : List Condition → List Model
  | [] => []
  | c :: rest => c.held ++ Condition.heldByAll rest

/-- The models that a select keeps. -/
def Select.held : Select → List Model
  | ⟨plan, filter⟩ => plan.held ++ Condition.heldByAll filter

end

end RecordMapper
