/-
  RecordMapper.Query.Change
  ────────────────────────────────
  **INSERTS, UPDATES, DELETIONS AND RAW STATEMENTS.**

  An insert starts from the defaults of its model and takes values in their
  application form; an update keeps the values under the names its caller used
  and looks the fields up when it is rendered.  Both write their columns sorted
  by name.
-/
import RecordMapper.Query.Statement

namespace RecordMapper

/-! ## §1. Inserts. -/

/-- What an insert writes. -/
inductive InsertData where
  /-- One row: the values of fields, in application form. -/
  | row (values : Keyed Value)
  /-- Many rows: the values of the named fields, in order. -/
  | bulk (names : List String) (rows : List (List Value))

/-- **An insert.** -/
structure Insert where
  model : Model
  data : InsertData

namespace Insert

/-- An insert of one row that holds the defaults of its model. -/
def new (model : Model) : Insert := ⟨model, .row model.defaults⟩

/-- The insert writes many rows. -/
def isBulk (q : Insert) : Bool :=
  match q.data with
  | .row _ => false
  | .bulk _ _ => true

/-- The values of the one row; an insert of many rows starts again from the
defaults. -/
def rowValues (q : Insert) : Keyed Value :=
  match q.data with
  | .row values => values
  | .bulk _ _ => q.model.defaults

/-- Write values over others, each in the application form of its field.  Names
that the model does not know are passed over. -/
def merge (model : Model) (values : Keyed Value) :
    List (String × Value) → Except Failure (Keyed Value)
  | [] => .ok values
  | (name, v) :: rest =>
    match model.field? name with
    | none => merge model values rest
    | some field => do merge model (values.put field.name (← field.toApplication v)) rest

/-- **Set values** of the one row. -/
def set (q : Insert) (values : List (String × Value)) : Except Failure Insert := do
  return { q with data := .row (← merge q.model q.rowValues values) }

/-- **Set many rows** of values for the named fields. -/
def setBulk (q : Insert) (names : List String) (rows : List (List Value)) :
    Except Failure Insert :=
  if names.isEmpty || rows.isEmpty then .error .emptyBulkInsert
  else
    match names.find? fun name => (q.model.field? name).isNone with
    | some name => .error (.undefinedBulkField q.model.name name)
    | none =>
      match rows.find? (·.length != names.length) with
      | some row => .error (.bulkRowLength row.length names.length)
      | none => .ok { q with data := .bulk names rows }

/-- The fields that a row writes, with their values, sorted by field name: those
whose value is not NULL, and those that may be NULL. -/
def written (model : Model) (values : Keyed Value) : List (Field × Value) :=
  (sortedByKey values).filterMap fun (name, v) =>
    (model.field? name).bind fun field =>
      if !v.isNull || field.nullable then some (field, v) else none

/-- The setting of an insert. -/
def setting (d : Dialect) : Setting := ⟨d, [], ⟨.insertInto, false⟩⟩

/-- The columns of fields. -/
def columnsSql {ι : Type} (fields : List Field) : Sql ι :=
  Sql.joined ", " (fields.map fun f => Sql.lit f.column)

/-- The placeholders of as many values. -/
def valuesSql (d : Dialect) (count : Nat) : Sql :=
  Sql.joined ", " ((setting d).slots 0 count)

/-- **The statement of an insert**, and the parameters of each row to run it
with. -/
def render (q : Insert) (d : Dialect) : Except Failure (Sql × List (List Value)) :=
  match q.data with
  | .row values => do
    let cells := written q.model values
    let parameters ← cells.mapM fun (field, v) => field.toStorage v
    return (d.insertWithKey q.model.table (columnsSql (cells.map (·.1)))
      (valuesSql d cells.length) q.model.primaryKey.column, [parameters])
  | .bulk names rows => do
    let fields ← names.mapM q.model.field
    let parameters ← rows.mapM fun row => (row.zip fields).mapM fun (v, field) => field.toStorage v
    return (Dialect.insert q.model.table (columnsSql fields) (valuesSql d fields.length), parameters)

/-- The statement of an insert; the rows of many follow one another in the
parameters. -/
def statement (q : Insert) (d : Dialect) : Except Failure Statement := do
  let (sql, rows) ← q.render d
  return ⟨sql, rows.flatten⟩

end Insert

/-! ## §2. Updates. -/

/-- **An update.** -/
structure Update where
  model : Model
  /-- The values to assign, under the names that the caller used. -/
  data : Keyed Value
  filter : List Condition

namespace Update

/-- An update that assigns nothing yet. -/
def new (model : Model) : Update := ⟨model, [], []⟩

/-- Assign more values. -/
def set (q : Update) (values : List (String × Value)) : Update :=
  { q with data := q.data.putAll values }

/-- Let one more condition hold. -/
def restrict (q : Update) (condition : Condition) : Update :=
  { q with filter := conjoin q.filter condition }

/-- Let keyword filters hold. -/
def filterBy (q : Update) (filters : List (String × Operand)) : Except Failure Update := do
  return { q with filter := q.filter ++ (← Condition.ofFilters q.model filters) }

/-- The fields that are assigned, with their values, sorted by the names that the
caller used.  Names that the model does not know are passed over. -/
def assigned (q : Update) : List (Field × Value) :=
  (sortedByKey q.data).filterMap fun (name, v) => (q.model.field? name).map (·, v)

/-- The storage form of an assigned value, which may be NULL only in a nullable
field. -/
def storedCell (model : Model) (field : Field) (v : Value) : Except Failure Value :=
  if v.isNull && !field.nullable then .error (.notNullable model.name field.name)
  else field.toStorage v

/-- The setting of the assignments. -/
def setting (d : Dialect) : Setting := ⟨d, [], ⟨.updateSet, false⟩⟩

/-- One assignment to each field. -/
def assignmentsSql (d : Dialect) (fields : List Field) : Sql :=
  let s := setting d
  Sql.joined ", " ((fields.zip (s.slots 0 fields.length)).map fun (field, slot) =>
    d.operation .eq (s.column field.toAttribute) [slot])

/-- **The statement of an update**: the parameters of the assignments, then those
of the condition. -/
def statement (q : Update) (d : Dialect) : Except Failure Statement := do
  let cells := q.assigned
  let parameters ← cells.mapM fun (field, v) => storedCell q.model field v
  let condition ← ((setting d).inClause .updateWhere).whereClause parameters.length q.filter
  return ⟨Dialect.update q.model.table (assignmentsSql d (cells.map (·.1))) condition.sql,
    parameters ++ condition.parameters⟩

end Update

/-! ## §3. Deletions. -/

/-- **A deletion.** -/
structure Delete where
  model : Model
  filter : List Condition

namespace Delete

/-- A deletion of every row. -/
def new (model : Model) : Delete := ⟨model, []⟩

/-- Let one more condition hold. -/
def restrict (q : Delete) (condition : Condition) : Delete :=
  { q with filter := conjoin q.filter condition }

/-- Let keyword filters hold. -/
def filterBy (q : Delete) (filters : List (String × Operand)) : Except Failure Delete := do
  return { q with filter := q.filter ++ (← Condition.ofFilters q.model filters) }

/-- **The statement of a deletion.** -/
def statement (q : Delete) (d : Dialect) : Except Failure Statement := do
  let s : Setting := ⟨d, [], ⟨.deleteWhere, false⟩⟩
  let condition ← s.whereClause 0 q.filter
  return ⟨Dialect.delete q.model.table condition.sql, condition.parameters⟩

end Delete

/-! ## §4. Raw statements, and every kind of query. -/

/-- **A statement as its caller wrote it.** -/
structure Raw where
  model : Model
  text : String
  parameters : List Value

/-- A raw statement is its own rendering. -/
def Raw.statement (q : Raw) : Statement :=
  ⟨Sql.lit q.text, q.parameters⟩

/-- **A query** of any kind. -/
inductive Query where
  | select (q : Select)
  | insert (q : Insert)
  | update (q : Update)
  | delete (q : Delete)
  | raw (q : Raw)

namespace Query

/-- The model that the query is about. -/
def model : Query → Model
  | .select q => q.model
  | .insert q => q.model
  | .update q => q.model
  | .delete q => q.model
  | .raw q => q.model

/-- **The statement of a query** in a dialect. -/
def statement (d : Dialect) : Query → Except Failure Statement
  | .select q => q.statement d
  | .insert q => q.statement d
  | .update q => q.statement d
  | .delete q => q.statement d
  | .raw q => .ok q.statement

/-- The models that the query keeps. -/
def held : Query → List Model
  | .select q => q.held
  | .insert q => [q.model]
  | .update q => q.model :: Condition.heldByAll q.filter
  | .delete q => q.model :: Condition.heldByAll q.filter
  | .raw q => [q.model]

end Query

end RecordMapper
