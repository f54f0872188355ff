/-
  RecordMapper.Schema.Model
  ────────────────────────────────
  **REGISTERED MODELS.**

  A model maps a table: its fields in the order of their declaration, the primary
  key among them, the default ordering, and for each foreign key the model it
  refers to.  Models compare by name.
-/
import RecordMapper.Keyed
import RecordMapper.Schema.Field
import RecordMapper.Sql.Dialect
import RecordMapper.Text.Case

namespace RecordMapper

/-- The handle of an open database. -/
structure Handle where
  number : Nat
  deriving DecidableEq, Repr

/-- **An ordering** of rows by one field. -/
structure SortKey where
  field : Attribute
  direction : Direction
  deriving DecidableEq

/-- **A model.** -/
structure Model where
  /-- Tells apart models that were registered under one name. -/
  id : Nat
  name : String
  table : String
  database : Option Handle
  /-- The database generates the primary key of a new record. -/
  autoIncrement : Bool
  ordering : List SortKey
  /-- The ordering as it was declared, for models that extend this one. -/
  orderingNames : List String
  fields : List Field
  primaryKey : Field
  /-- The referenced model of each foreign key, under the name of the field. -/
  relations : List (String × Model)

namespace Model

/-! ## §1. Names. -/

/-- Models are the same when their names are. -/
def same (a b : Model) : Bool :=
  a.name == b.name

/-- The model as it is shown to a reader. -/
def label (m : Model) : String :=
  "Model(" ++ m.name ++ ")"

/-- The names of the fields. -/
def fieldNames (m : Model) : List String :=
  m.fields.map (·.name)

/-- The field name of each column. -/
def columns (m : Model) : Keyed String :=
  m.fields.map fun f => (f.column, f.name)

/-- The default of each field that has one. -/
def defaults (m : Model) : Keyed Value :=
  m.fields.filterMap fun f => f.default.map (f.name, ·)

/-! ## §2. Looking up. -/

/-- The field of this very name. -/
def fieldNamed? (m : Model) (name : String) : Option Field :=
  m.fields.find? (·.name == name)

/-- **The field of a name**: by field name, or else by column name in any letter
case. -/
def field? (m : Model) (name : String) : Option Field :=
  m.fieldNamed? name <|> (m.columns.get? (Text.lower name)).bind m.fieldNamed?

/-- The field of a name, or a failure that tells it is missing. -/
def field (m : Model) (name : String) : Except Failure Field :=
  match m.field? name with
  | some f => .ok f
  | none => .error (.noSuchField m.name name)

/-- The database that the model lives in, or a failure that there is none. -/
def boundDatabase (m : Model) : Except Failure Handle :=
  match m.database with
  | some handle => .ok handle
  | none => .error (.notBound m.name)

/-- **The foreign key of this model to another one**; `name` restricts it to the
field of that name. -/
def relatedField? (m other : Model) (name : Option String) : Option Field :=
  ((m.relations.find? fun (field, related) =>
      related.same other && name.all (· == field))).bind fun (field, _) => m.field? field

/-! ## §3. Models kept by a model. -/

/-- The model and those it refers to, directly or through others. -/
def reach : Model → List Model
  | m@⟨_, _, _, _, _, _, _, _, _, relations⟩ => m :: go relations
where
  go : List (String × Model) → List Model
    | [] => []
    | (_, related) :: rest => related.reach ++ go rest

end Model

end RecordMapper
