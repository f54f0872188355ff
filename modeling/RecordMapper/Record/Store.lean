/-
  RecordMapper.Record.Store
  ────────────────────────────────
  **STORING AND FETCHING RECORDS.**

  A new record is inserted, a loaded one has its dirty fields updated.  The
  record that a foreign key refers to is fetched when it is first asked for.  An
  operation that fails leaves the record as it was.
-/
import RecordMapper.Record.Result

namespace RecordMapper

/-- The condition that a row has this primary key. -/
def Model.keyIs (m : Model) (key : Value) : Condition :=
  .compare m.primaryKey.toAttribute .eq (.value key)

namespace Record

/-! ## §1. Saving. -/

/-- Every tracked change is stored. -/
def settled (r : Record) : Record :=
  { r with dirty := [] }

/-- The values that an update of the record assigns. -/
def changedValues (r : Record) : List (String × Value) :=
  r.dirty.map fun name => (name, (r.values.get? name).getD .null)

/-- The values that an insert of the record writes; the database generates the key
of an auto-increment model. -/
def insertedValues (r : Record) : List (String × Value) :=
  if r.model.autoIncrement then r.fieldValues.erase r.model.primaryKey.name else r.fieldValues

/-- Insert a new record, which takes the generated key. -/
def insert (r : Record) : Action Record := do
  let q ← Action.ofExcept ((Insert.new r.model).set r.insertedValues)
  let stored ←
    match ← q.execute with
    | some key => Action.ofExcept (r.setKey key)
    | none => pure r
  return { stored with isNew := false }

/-- **Save a record**: insert a new one, update the dirty fields of a loaded
one. -/
def save (r : Record) : Action Record := do
  if r.isNew then return (← r.insert).settled
  else
    match r.key? with
    | none => throw (.saveWithoutKey r.model.name)
    | some key =>
      if r.dirty.isEmpty then return r.settled
      else
        let _ ← (((Update.new r.model).set r.changedValues).restrict (r.model.keyIs key)).execute
        return r.settled

/-- **Delete the row of a record**: how many rows went. -/
def delete (r : Record) : Action Nat :=
  match r.key? with
  | none => throw (.deleteWithoutKey r.model.name)
  | some key => ((Delete.new r.model).restrict (r.model.keyIs key)).execute

/-! ## §2. Refreshing. -/

/-- The names of the fields to refresh: all of them when none is named. -/
def refreshedNames (r : Record) (names : List String) : Except Failure (List String) :=
  if names.isEmpty then .ok r.model.fieldNames
  else names.mapM fun name => (·.name) <$> r.model.field name

/-- Take the value of a field from another record; the field is then not
dirty. -/
def takeFrom (other : Record) (r : Record) (name : String) : Record :=
  { r with
    values := r.values.put name ((other.get? name).getD .null)
    dirty := r.dirty.filter (· != name) }

/-- **Read fields again** from the row of a record. -/
def refresh (r : Record) (names : List String) : Action Record :=
  match r.key? with
  | none => throw (.refreshWithoutKey r.model.name)
  | some key => do
    let names ← Action.ofExcept (r.refreshedNames names)
    let q := ((Select.ofModel r.model).select (names.map .name)).restrict (r.model.keyIs key)
    let fresh ← q.one
    return names.foldl (takeFrom fresh) r

/-! ## §3. Related records. -/

/-- The relation of a related name or foreign key field: the field, its foreign
key, and the model it refers to. -/
def relation? (model : Model) (name : String) : Option (Field × ForeignKey × Model) :=
  model.relations.findSome? fun (fieldName, related) => do
    let field ← model.field? fieldName
    let key ← field.foreignKey
    if key.relatedName = name || field.name = name then some (field, key, related) else none

/-- **The record that a foreign key refers to**, fetched unless it is attached
already, and the record with it attached.  A NULL key refers to none; neither
does a nullable key whose record is missing. -/
def fetchRelated (r : Record) (name : String) : Action (Option Record × Record) := do
  match relation? r.model name with
  | none => throw (.noSuchRelation r.model.name name)
  | some (field, key, related) =>
    match r.related? key.relatedName with
    | some other => return (some other, r)
    | none =>
      match (r.get? field.name).filter (!·.isNull) with
      | none => return (none, r)
      | some v =>
        let q := (Select.ofModel related).restrict (.compare key.target .eq (.value v))
        ExceptT.mk do
          match ← q.one.outcome with
          | .ok other => return .ok (some other, r.keep key.relatedName other)
          | .error failure =>
            if field.nullable && failure.kind == .noData then return .ok (none, r)
            else return .error failure

end Record

/-! ## §4. Records of a model. -/

namespace Model

/-- **The record that meets keyword filters.** -/
def get (m : Model) (filters : List (String × Operand)) : Action Record := do
  let q ← Action.ofExcept ((Select.ofModel m).filterBy filters)
  q.one

/-- **Make and store a record.** -/
def create (m : Model) (values : List (String × Value)) : Action Record := do
  let r ← Action.ofExcept (Record.new m values)
  r.save

/-- The value that a filter gives a new record: that of a plain filter, or of one
by equality. -/
def plainFilter? (key : String) (v : Value) : Option (String × Value) :=
  match splitKey? key with
  | none => some (key, v)
  | some (name, suffix) =>
    match Operator.ofSuffix? suffix with
    | none => some (key, v)
    | some .eq => some (name, v)
    | some _ => none

/-- The values of a record that filters look for, and then those of the
defaults. -/
def valuesFor (m : Model) (filters defaults : List (String × Value)) : Keyed Value :=
  let plain := (filters.filterMap fun (key, v) => plainFilter? key v).filter fun (name, _) =>
    (m.field? name).isSome
  (Keyed.putAll [] plain).putAll defaults

/-- **The record that meets filters, or else a new one** made from them and the
defaults; tells whether it was made. -/
def getOrCreate (m : Model) (filters defaults : List (String × Value)) :
    Action (Record × Bool) := do
  match ← ExceptT.mk (Except.ok <$> (m.get (filters.map fun (k, v) => (k, .value v))).outcome) with
  | .ok r => return (r, false)
  | .error failure =>
    if failure.kind == .noData then return (← m.create (m.valuesFor filters defaults), true)
    else throw failure

end Model

end RecordMapper
