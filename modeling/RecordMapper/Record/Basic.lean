/-
  RecordMapper.Record.Basic
  ────────────────────────────────
  **RECORDS.**

  A record holds the field values of one row of a model's table, in application
  form, and the records that its foreign keys refer to once they are attached.
  Changes are tracked from the moment the record is stored or loaded: the fields
  that were changed since are dirty.
-/
import RecordMapper.Query.Change

namespace RecordMapper

/-- **A record** of a model. -/
structure Record where
  model : Model
  /-- The values that were assigned, under the names of their fields. -/
  values : Keyed Value
  /-- The attached records, under the related names of their foreign keys. -/
  related : List (String × Record)
  /-- The record was not stored yet. -/
  isNew : Bool
  /-- The fields that were changed since, in the order of their first change. -/
  dirty : List String

namespace Record

/-! ## §1. Values. -/

/-- The value of the field with this name or column; `none` when it was never
assigned. -/
def get? (r : Record) (name : String) : Option Value :=
  (r.model.field? name).bind fun f => r.values.get? f.name

/-- The value of a field in a native type. -/
def getAs (r : Record) (name : String) (type : NativeType) : Except Failure Value := do
  let _ ← r.model.field name
  type.convert ((r.get? name).getD .null)

/-- The primary key, when it is assigned and not NULL. -/
def key? (r : Record) : Option Value :=
  (r.values.get? r.model.primaryKey.name).filter (!·.isNull)

/-- The field's value changes when `v` is assigned; a value never assigned counts
as NULL. -/
def changes (r : Record) (field : Field) (v : Value) : Bool :=
  !((r.values.get? field.name).getD .null).same v

/-- The fields that are dirty once `v` is assigned.  Those of a new record are not
tracked, and neither is the primary key. -/
def dirtyAfter (r : Record) (field : Field) (v : Value) : List String :=
  if !r.isNew && !field.toAttribute.same r.model.primaryKey.toAttribute && r.changes field v
      && !r.dirty.contains field.name then
    r.dirty ++ [field.name]
  else r.dirty

/-- **Assign a field**, in its application form. -/
def set (r : Record) (name : String) (v : Value) : Except Failure Record := do
  let field ← r.model.field name
  let v ← field.toApplication v
  return { r with values := r.values.put field.name v, dirty := r.dirtyAfter field v }

/-- Assign several fields, one after the other. -/
def setAll (r : Record) (values : List (String × Value)) : Except Failure Record :=
  values.foldlM (fun r (name, v) => r.set name v) r

/-- Assign the primary key. -/
def setKey (r : Record) (v : Value) : Except Failure Record :=
  r.set r.model.primaryKey.name v

/-- Every field with its value, in the order of declaration; one that was never
assigned is NULL. -/
def fieldValues (r : Record) : Keyed Value :=
  r.model.fields.map fun f => (f.name, (r.values.get? f.name).getD f.kind.empty)

/-! ## §2. Making records. -/

/-- A record that holds the defaults of its model. -/
def blank (model : Model) : Except Failure Record :=
  setAll ⟨model, [], [], true, []⟩ model.defaults

/-- **A new record**: the defaults, and then the values. -/
def new (model : Model) (values : List (String × Value)) : Except Failure Record := do
  (← blank model).setAll values

/-- The field that a column label stands for: by field name, column or display
name. -/
def labelled? (model : Model) (label : String) : Option Field :=
  model.field? label <|> model.fields.find? (·.displayName == some label)

/-- **A record read from a row**.  Labels that the model does not know are passed
over. -/
def load (model : Model) (row : List (String × Value)) : Except Failure Record := do
  let cells := row.filterMap fun (label, v) => (labelled? model label).map fun f => (f.name, v)
  return { ← (← blank model).setAll cells with isNew := false }

/-! ## §3. Attached records. -/

/-- The record attached under a related name. -/
def related? (r : Record) (name : String) : Option Record :=
  (r.related.find? (·.1 == name)).map (·.2)

/-- Keep a record under a related name. -/
def keep (r : Record) (name : String) (other : Record) : Record :=
  { r with related := Keyed.put name other r.related }

/-- The foreign key field of a related name. -/
def keyField? (model : Model) (name : String) : Option (Field × ForeignKey) :=
  model.fields.findSome? fun f =>
    (f.foreignKey.filter (·.relatedName == name)).map (f, ·)

/-- **Attach a record**: the foreign key takes the value of the field that it
refers to, unless that is NULL. -/
def attach (r : Record) (name : String) (other : Record) : Record :=
  let values :=
    match keyField? r.model name with
    | none => r.values
    | some (field, key) =>
      match (other.get? key.target.name).filter (!·.isNull) with
      | none => r.values
      | some v => r.values.put field.name v
  { r with values := values }.keep name other

/-! ## §4. Comparison, and what records keep. -/

/-- The records stand for the same row: their models are the same, and so are
their primary keys, which are not NULL. -/
def same (a b : Record) : Bool :=
  a.model.same b.model &&
    match a.key?, b.key? with
    | some x, some y => x.same y
    | _, _ => false

/-- The models that a record keeps. -/
def held : Record → List Model
  | ⟨model, _, related, _, _⟩ => model :: go related
where
  go : List (String × Record) → List Model
    | [] => []
    | (_, other) :: rest => other.held ++ go rest

/-- **The select of the records that refer to this one** under a reverse name. -/
def reverse (r : Record) (catalog : Catalog) (name : String) : Except Failure Select := do
  match Keyed.get? (catalog.reverseRelations r.model) name with
  | none => .error (.noSuchReverseRelation r.model.name name)
  | some owner =>
    let isLink (key : ForeignKey) := key.reverseName == name && key.model == r.model.name
    match owner.fields.findSome? fun f => (f.foreignKey.filter isLink).map (f, ·) with
    | none => .error (.noForeignKeyFor owner.name name)
    | some (field, key) =>
      let v := (r.get? key.target.name).getD .null
      return (Select.ofModel owner).restrict (.compare field.toAttribute .eq (.value v))

end Record

end RecordMapper
