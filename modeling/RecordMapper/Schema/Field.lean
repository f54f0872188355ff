/-
  RecordMapper.Schema.Field
  ────────────────────────────────
  **MAPPED FIELDS.**

  A field ties an attribute of a model to a column of its table.  What statements
  need of it, namely its model, name, column and kind, is its attribute; the rest
  belongs to the schema: whether it may be NULL, its default, the model it refers
  to.
-/
import RecordMapper.Schema.Kind

namespace RecordMapper

/-! ## §1. Attributes. -/

/-- **An attribute**: a field as statements know it. -/
structure Attribute where
  /-- The name of the owning model. -/
  model : String
  name : String
  /-- The name of the column, in lower case. -/
  column : String
  kind : Kind
  deriving DecidableEq, Repr

namespace Attribute

/-- The two stand for the same field: a field is known by its model and name. -/
def same (a b : Attribute) : Bool :=
  a.model == b.model && a.name == b.name

/-- The field as it is shown to a reader. -/
def label (a : Attribute) : String :=
  "Field(" ++ a.model ++ "." ++ a.name ++ ")"

/-- A failed conversion, with the field it was made for. -/
def blame {α : Type} (a : Attribute) : Except Failure α → Except Failure α
  | .ok v => .ok v
  | .error cause => .error (.invalidValue a.model a.name cause)

/-- The application form of a value for the field. -/
def toApplication (a : Attribute) (v : Value) : Except Failure Value :=
  a.blame (a.kind.toApplication v)

/-- The storage form of a value for the field. -/
def toStorage (a : Attribute) (v : Value) : Except Failure Value :=
  a.blame (a.kind.toStorage v)

end Attribute

/-! ## §2. Fields. -/

/-- **A foreign key**: the field refers to a field of another model. -/
structure ForeignKey where
  /-- The name of the referenced model. -/
  model : String
  /-- The referenced field. -/
  target : Attribute
  /-- Where a record keeps the one record that it refers to. -/
  relatedName : String
  /-- Under which name the referenced model finds the records that refer to it. -/
  reverseName : String
  deriving DecidableEq

/-- **A field** of a registered model. -/
structure Field extends Attribute where
  nullable : Bool
  primary : Bool
  /-- What the field holds in a new record; `none` when nothing is set. -/
  default : Option Value
  /-- The name under which a select shows the column. -/
  displayName : Option String
  /-- The place of the field among all declarations. -/
  ordinal : Nat
  table : String
  foreignKey : Option ForeignKey
  deriving DecidableEq

/-- Add a field to a selection that does not have it yet. -/
def Field.addTo (selection : List Field) (field : Field) : List Field :=
  if selection.any (·.toAttribute.same field.toAttribute) then selection else selection ++ [field]

/-- Add fields to a selection, one after the other. -/
def Field.addAllTo (selection fields : List Field) : List Field :=
  fields.foldl Field.addTo selection

end RecordMapper
