/-
  RecordMapper.Schema.Catalog
  ────────────────────────────────
  **REGISTERING MODELS.**

  The catalog knows the models that are alive and the links between them.  A
  model is registered from a blueprint; that checks its fields, and then every
  foreign key adds a link under its reverse name to the model it refers to.  A
  failed registration leaves the catalog as it was.
-/
import RecordMapper.Schema.Definition
import RecordMapper.Sorted

namespace RecordMapper

/-! ## §1. The catalog. -/

/-- A link from a referenced model back to the model that refers to it. -/
structure Link where
  /-- The referenced model. -/
  target : Nat
  /-- The reverse name. -/
  accessor : String
  /-- The referring model. -/
  owner : Nat
  deriving DecidableEq, Repr

/-- **The catalog.**  Links do not keep a model alive: those of a model that is
gone stay, and are passed over. -/
structure Catalog where
  /-- The number of the next model. -/
  nextModel : Nat
  /-- The ordinal of the next definition. -/
  nextOrdinal : Nat
  live : List Model
  links : List Link

namespace Catalog

/-- No model, no definition. -/
def empty : Catalog := ⟨0, 0, [], []⟩

/-- The live model of a number. -/
def model? (c : Catalog) (id : Nat) : Option Model :=
  c.live.find? (·.id == id)

/-- **The reverse relations of a model**: the referring models that are alive,
under their reverse names. -/
def reverseRelations (c : Catalog) (m : Model) : List (String × Model) :=
  (c.links.filter (·.target == m.id)).filterMap fun link =>
    (c.model? link.owner).map (link.accessor, ·)

/-- **The foreign key of another model to this one**; `name` restricts it to the
field of that name. -/
def reverseRelatedField? (c : Catalog) (m other : Model) (name : Option String) :
    Option Field :=
  if (c.reverseRelations m).any (·.2.same other) then other.relatedField? m name else none

/-- The models refer to each other in one direction or the other. -/
def relationExists (c : Catalog) (m other : Model) : Bool :=
  (m.relatedField? other none).isSome || (c.reverseRelatedField? m other none).isSome

/-- Keep the models that can be reached from these, and forget the others. -/
def retain (c : Catalog) (held : List Model) : Catalog :=
  let ids := held.flatMap fun m => m.reach.map (·.id)
  { c with live := c.live.filter fun m => ids.contains m.id }

/-- Make the next definition. -/
def define (c : Catalog) (source : Definition.Source) : Except Failure (Definition × Catalog) := do
  let d ← Definition.ofSource c.nextOrdinal source
  return (d, { c with nextOrdinal := c.nextOrdinal + 1 })

/-- Set a link; one of the same target and accessor is replaced where it
stands. -/
def setLink (link : Link) : List Link → List Link
  | [] => [link]
  | l :: rest =>
    if l.target = link.target && l.accessor = link.accessor then link :: rest
    else l :: setLink link rest

end Catalog

/-! ## §2. Blueprints. -/

/-- **The blueprint of a model.**  What is not stated is taken from the base
model, if there is one. -/
structure Blueprint where
  name : String
  table : Option String
  database : Option Handle
  autoIncrement : Option Bool
  ordering : Option (List String)
  base : Option Model
  fields : List (String × Definition)

namespace Blueprint

/-- A blueprint that states nothing but the name. -/
def named (name : String) : Blueprint := ⟨name, none, none, none, none, none, []⟩

/-- The table, named like the model in lower case unless stated. -/
def tableName (b : Blueprint) : String :=
  b.table.getD (Text.lower b.name)

/-- The definitions in the order of their declaration. -/
def declared (b : Blueprint) : List (String × Definition) :=
  sorted (fun x y => x.2.ordinal ≤ y.2.ordinal) b.fields

/-- The fields of a list of definitions, behind those of `done`.  Neither a name
nor a column may come twice. -/
def layOut (b : Blueprint) (done : List Field) :
    List (String × Definition) → Except Failure (List Field)
  | [] => .ok done
  | (name, definition) :: rest =>
    let field := definition.toField b.name b.tableName name
    if done.any (·.name == name) then .error (.repeatedField b.name name)
    else if done.any (·.column == field.column) then .error (.repeatedColumn b.name field.column)
    else b.layOut (done ++ [field]) rest

/-- The one primary key of the fields. -/
def primaryKey (b : Blueprint) (fields : List Field) : Except Failure Field :=
  match fields.filter (·.primary) with
  | [] => .error (.noPrimaryKey b.name)
  | [key] => .ok key
  | key :: other :: _ => .error (.severalPrimaryKeys b.name key.name other.name)

end Blueprint

/-- A name with a sign of direction: a minus in front means descending. -/
def splitDirection (text : String) : String × Direction :=
  match text.toList with
  | '-' :: rest => (String.ofList rest, .descending)
  | _ => (text, .ascending)

namespace Blueprint

/-- One item of the default ordering. -/
def orderingItem (b : Blueprint) (fields : List Field) (item : String) :
    Except Failure SortKey :=
  let (name, direction) := splitDirection item
  match fields.find? (·.name == name) with
  | some f => .ok ⟨f.toAttribute, direction⟩
  | none => .error (.unknownOrdering b.name name)

/-- The default ordering as stated, or as the base model states it. -/
def orderingNames (b : Blueprint) : List String :=
  (b.ordering <|> b.base.map (·.orderingNames)).getD []

/-- The referenced model of each foreign key. -/
def relations (b : Blueprint) : List (String × Model) :=
  b.declared.filterMap fun (name, d) => d.reference.map fun r => (name, r.model)

/-- **The model that a blueprint describes**, under the number `id`. -/
def build (b : Blueprint) (id : Nat) : Except Failure Model := do
  let fields ← b.layOut [] b.declared
  let key ← b.primaryKey fields
  let ordering ← b.orderingNames.mapM (b.orderingItem fields)
  return {
    id := id
    name := b.name
    table := b.tableName
    database := b.database <|> b.base.bind (·.database)
    autoIncrement := (b.autoIncrement <|> b.base.map (·.autoIncrement)).getD false
    ordering := ordering
    orderingNames := b.orderingNames
    fields := fields
    primaryKey := key
    relations := b.relations }

end Blueprint

/-! ## §3. Registration. -/

namespace Model

/-- The links that the foreign keys of a model make. -/
def links (m : Model) : List Link :=
  m.relations.filterMap fun (name, related) =>
    ((m.field? name).bind (·.foreignKey)).map fun key => ⟨related.id, key.reverseName, m.id⟩

end Model

/-- **Registration**: the model of a blueprint, and the catalog that knows it. -/
def Catalog.register (c : Catalog) (b : Blueprint) : Except Failure (Model × Catalog) := do
  let m ← b.build c.nextModel
  return (m, { c with
    nextModel := c.nextModel + 1
    live := c.live ++ [m]
    links := m.links.foldl (fun links link => setLink link links) c.links })

end RecordMapper
