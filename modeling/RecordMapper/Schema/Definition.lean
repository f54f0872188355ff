/-
  RecordMapper.Schema.Definition
  ────────────────────────────────
  **FIELD DEFINITIONS.**

  A definition declares a field before its model exists.  Each definition takes
  the next ordinal when it is made, so the fields of a model lie in the order in
  which they were declared.  A field cannot be both the primary key and
  nullable.
-/
import RecordMapper.Schema.Model

namespace RecordMapper

/-- The field that a foreign key refers to, and the names given to the link. -/
structure Reference where
  model : Model
  target : Attribute
  relatedName : Option String
  reverseName : Option String

/-- **The definition of a field.** -/
structure Definition where
  ordinal : Nat
  kind : Kind
  column : Option String
  nullable : Bool
  primary : Bool
  default : Option Value
  displayName : Option String
  reference : Option Reference

/-- What a definition starts from. -/
inductive Definition.Source where
  | ofKind (kind : Kind)
  /-- A foreign key to the primary key of a model, of the same kind. -/
  | foreignKey (model : Model)
  /-- A foreign key to a field of a model. -/
  | foreignKeyTo (model : Model) (field : String)

namespace Definition

/-! ## §1. Making definitions. -/

/-- A definition of a kind, nothing else stated. -/
def ofKind (ordinal : Nat) (kind : Kind) : Definition where
  ordinal := ordinal
  kind := kind
  column := none
  nullable := false
  primary := false
  default := none
  displayName := none
  reference := none

/-- A foreign key to a field. -/
def referring (ordinal : Nat) (model : Model) (target : Field) : Definition :=
  { ofKind ordinal target.kind with
    reference := some ⟨model, target.toAttribute, none, none⟩ }

/-- **The definition from its source**; fails when the referenced field does not
exist. -/
def ofSource (ordinal : Nat) : Source → Except Failure Definition
  | .ofKind kind => .ok (ofKind ordinal kind)
  | .foreignKey model => .ok (referring ordinal model model.primaryKey)
  | .foreignKeyTo model name => return referring ordinal model (← model.field name)

/-! ## §2. Stating more. -/

/-- State the column. -/
def withColumn (d : Definition) (column : String) : Definition :=
  { d with column := some column }

/-- State the greatest length of a text field; other kinds have none. -/
def withLength (d : Definition) (length : Nat) : Definition :=
  match d.kind with
  | .char _ => { d with kind := .char length }
  | .varchar _ => { d with kind := .varchar length }
  | _ => d

/-- Make the field the primary key. -/
def asPrimary (d : Definition) : Except Failure Definition :=
  if d.nullable then .error .nullablePrimary else .ok { d with primary := true }

/-- Let the field be NULL. -/
def asNullable (d : Definition) : Except Failure Definition :=
  if d.primary then .error .primaryNullable else .ok { d with nullable := true }

/-- State what a new record holds. -/
def withDefault (d : Definition) (value : Value) : Definition :=
  { d with default := some value }

/-- State the name under which selects show the column. -/
def withDisplayName (d : Definition) (name : String) : Definition :=
  { d with displayName := some name }

/-- Name the accessor of the one referenced record; only a foreign key has one. -/
def withRelatedName (d : Definition) (name : String) : Definition :=
  { d with reference := d.reference.map fun r => { r with relatedName := some name } }

/-- Name the accessor of the referring records; only a foreign key has one. -/
def withReverseName (d : Definition) (name : String) : Definition :=
  { d with reference := d.reference.map fun r => { r with reverseName := some name } }

/-! ## §3. Fields from definitions. -/

/-- The link of a foreign key field of the model named `model`.  Accessors that
were given no name are named after the models. -/
def toForeignKey (r : Reference) (model : String) : ForeignKey where
  model := r.model.name
  target := r.target
  relatedName := r.relatedName.getD (Text.lower r.model.name)
  reverseName := r.reverseName.getD (Text.lower model ++ "_set")

/-- **The field that a definition declares** in a model.  The column is in lower
case, and is named like the field unless stated. -/
def toField (d : Definition) (model table name : String) : Field where
  model := model
  name := name
  column := Text.lower (d.column.getD name)
  kind := d.kind
  nullable := d.nullable
  primary := d.primary
  default := d.default
  displayName := d.displayName
  ordinal := d.ordinal
  table := table
  foreignKey := d.reference.map (toForeignKey · model)

/-- The models that a definition keeps. -/
def held (d : Definition) : List Model :=
  d.reference.toList.map (·.model)

end Definition

end RecordMapper
