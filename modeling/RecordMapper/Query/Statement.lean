/-
  RecordMapper.Query.Statement
  ────────────────────────────────
  **STATEMENTS OF SELECTS AND CONDITIONS.**

  Rendering turns a select into a statement and the list of its parameters.
  Placeholders are numbered through the whole statement, nested selects
  included: what is rendered behind `counter` parameters numbers its own from
  there.  Each value is converted to the storage form of its field, and the
  values of a comparison become search patterns where its operator searches.
-/
import RecordMapper.Query.Select
import RecordMapper.Sql.Formula

namespace RecordMapper

/-! ## §1. Statements. -/

/-- **A statement** with its parameters, in the order of the placeholders. -/
structure Statement where
  sql : Sql
  parameters : List Value
  deriving DecidableEq

/-- The text of a statement. -/
def Statement.text (s : Statement) : String :=
  s.sql.text

/-- What stays the same while a condition is rendered: the dialect, the aliases
of the tables, and the place. -/
structure Setting where
  dialect : Dialect
  aliases : Keyed String
  place : Place

variable {ι : Type}

namespace Setting

/-- A field's column, behind the alias of its table. -/
def column (s : Setting) (field : Attribute) : Sql ι :=
  s.dialect.column s.place ((s.aliases.get? field.model).getD "") field.column

/-- The setting of another clause of the same statement. -/
def inClause (s : Setting) (clause : Clause) : Setting :=
  { s with place := { s.place with clause := clause } }

/-- The placeholders of so many parameters, behind `counter` others. -/
def slots (s : Setting) (counter count : Nat) : List Sql :=
  (List.range' counter count).map fun i => [s.dialect.slot s.place.clause i]

/-- Values bound for a field: their placeholders and their storage forms. -/
def bind (s : Setting) (counter : Nat) (field : Attribute) (values : List Value) :
    Except Failure (List Sql × List Value) := do
  return (s.slots counter values.length, ← values.mapM field.toStorage)

end Setting

/-! ## §2. The clauses of a select around its conditions. -/

namespace Select

/-- The setting of a select's columns. -/
def setting (q : Select) (d : Dialect) : Setting where
  dialect := d
  aliases := q.aliases
  place := ⟨.select, !q.aliases.isEmpty⟩

/-- A selected column, under the display name of its field. -/
def columnSql (s : Setting) (field : Field) : Sql ι :=
  match field.displayName with
  | some name => Dialect.columnAs (s.column field.toAttribute) name
  | none => s.column field.toAttribute

/-- The clause of one join. -/
def joinSql (s : Setting) (model : Model) (join : Join) : Sql ι :=
  Dialect.joinClause s.place join.type model.table ((s.aliases.get? model.name).getD "")
    (s.dialect.operation .eq (s.column join.lhs) [s.column join.rhs])

/-- One sort key. -/
def sortSql (s : Setting) (key : SortKey) : Sql ι :=
  s.column key.field ++ Sql.lit (" " ++ Dialect.direction key.direction)

/-- The table of the root model. -/
def tableSql (q : Select) (s : Setting) : Sql ι :=
  Sql.lit (Dialect.tableRef (s.inClause .selectFrom).place q.model.table
    ((q.aliases.get? q.model.name).getD ""))

/-- The clauses of a select, its condition given.  Distinct rows are not
sorted. -/
def parts (q : Select) (s : Setting) (fields : List Field) (condition : Sql ι) :
    Dialect.SelectParts ι where
  distinct := q.distinct
  columns := Sql.joined ", " (fields.map (columnSql s))
  table := q.tableSql s
  join := Sql.joined " " (q.joins.map fun (model, join) => joinSql s model join)
  condition := condition
  groupBy := Sql.joined ", " (q.groupBy.map (s.inClause .selectGroupBy).column)
  having := []
  orderBy :=
    if q.distinct then [] else Sql.joined ", " (q.orderBy.map (sortSql (s.inClause .selectOrderBy)))

/-- A limit or offset that is stated and not zero. -/
def positive (n : Option Nat) : Option Nat :=
  n.filter (0 < ·)

/-- **The statement of a select**, its condition given. -/
def assemble (q : Select) (s : Setting) (fields : List Field) (condition : Sql ι) : Sql ι :=
  s.dialect.paging.apply (Dialect.select (q.parts s fields condition)) (positive q.limit)
    (positive q.offset)

end Select

/-! ## §3. Conditions and nested selects. -/

/-- One comparison as an atom, with the values it binds. -/
def Setting.comparison (s : Setting) (field : Attribute) (op : Operator) (negated : Bool)
    (values : List (Sql ι)) (parameters : List Value) : Formula (Sql ι) × List Value :=
  (.atom (s.dialect.operation op (s.column field) values) negated, parameters)

mutual

/-- **The formula of a condition** and the values it binds, behind `counter`
parameters. -/
def Condition.formula (s : Setting) (counter : Nat) :
    Condition → Except Failure (Formula Sql × List Value)
  | .leaf field op operand negated =>
    if op.isNullTest then .ok (s.comparison field op negated [] [])
    else do
      let (values, parameters) ← operand.bind s counter field op
      return s.comparison field op negated values parameters
  | .set connector children negated => do
    let (formulas, parameters) ← Condition.formulas s counter children
    return (.set connector formulas negated, parameters)

/-- The formulas of several conditions, each numbered behind the ones before
it. -/
def Condition.formulas (s : Setting) (counter : Nat) :
    List Condition → Except Failure (List (Formula Sql) × List Value)
  | [] => .ok ([], [])
  | c :: rest => do
    let (formula, parameters) ← c.formula s counter
    let (formulas, more) ← Condition.formulas s (counter + parameters.length) rest
    return (formula :: formulas, parameters ++ more)

/-- **What an operand writes and binds**: a value or a list its placeholders, a
select its statement, and NULL nothing. -/
def Operand.bind (s : Setting) (counter : Nat) (field : Attribute) (op : Operator) :
    Operand → Except Failure (List Sql × List Value)
  | .value v =>
    if v.isNull then .ok ([], [])
    else do
      let (values, parameters) ← s.bind counter field [v]
      return (values, s.dialect.castValues op parameters)
  | .list vs => do
    let (values, parameters) ← s.bind counter field vs
    return (values, s.dialect.castValues op parameters)
  | .query q => do
    let statement ← q.render s.dialect counter q.operandFields
    return ([statement.sql], statement.parameters)

/-- **The statement of a select** that yields the given fields, behind `counter`
parameters. -/
def Select.render (d : Dialect) (counter : Nat) (fields : List Field) :
    Select → Except Failure Statement
  | ⟨plan, filter⟩ => do
    let q : Select := ⟨plan, []⟩
    let s := q.setting d
    let (formulas, parameters) ← Condition.formulas (s.inClause .selectWhere) counter filter
    return ⟨q.assemble s fields (Formula.set .and formulas false).write, parameters⟩

end

/-! ## §4. Whole statements. -/

/-- **The where clause of a filter**, its formula written, and the values it
binds. -/
def Setting.whereClause (s : Setting) (counter : Nat) (filter : List Condition) :
    Except Failure Statement := do
  let (formulas, parameters) ← Condition.formulas s counter filter
  return ⟨(Formula.set .and formulas false).write, parameters⟩

namespace Select

/-- **The statement of a select.** -/
def statement (q : Select) (d : Dialect) : Except Failure Statement :=
  q.render d 0 q.outputFields

/-- **The statement that counts the rows of a select**, whose ordering is left
out. -/
def countStatement (q : Select) (d : Dialect) : Except Failure Statement := do
  let s ← { q with orderBy := [] }.statement d
  return { s with sql := d.count s.sql }

end Select

end RecordMapper
