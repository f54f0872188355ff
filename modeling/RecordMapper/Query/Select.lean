/-
  RecordMapper.Query.Select
  ────────────────────────────────
  **BUILDING SELECTS.**

  A select starts from a root model, joins others through foreign keys, and
  gathers what is selected, filtered, sorted and grouped.  The first join gives
  the root table an alias; every joined table gets an alias of its own.  Names
  are looked up on the active model.
-/
import RecordMapper.Query.Condition

namespace RecordMapper

/-! ## §1. What is selected, sorted and grouped by. -/

/-- **An item of a selection.** -/
inductive Selection where
  /-- A field of the root model, by name or column. -/
  | name (name : String)
  | field (field : Field)
  /-- Every field of a model. -/
  | model (model : Model)
  /-- The named fields of a model. -/
  | modelNames (model : Model) (names : List String)

/-- An item of an ordering.  In a name, a minus in front means descending. -/
inductive SortItem where
  | name (name : String)
  | key (key : SortKey)

/-- An item of a grouping. -/
inductive GroupItem where
  | name (name : String)
  | field (field : Attribute)
  | model (model : Model)

namespace Select

/-! ## §2. Starting. -/

/-- A select of a model that states nothing. -/
def new (model : Model) : Select where
  model := model
  active := model
  distinct := false
  fields := []
  orderBy := []
  groupBy := []
  limit := none
  offset := none
  joined := []
  aliases := []
  naive := false
  filter := []

/-- **The select of a model**, in its default ordering. -/
def ofModel (model : Model) : Select :=
  { new model with orderBy := model.ordering }

/-! ## §3. Selected fields. -/

/-- A model that takes part in the query, or that the root model refers to. -/
def knownModel? (q : Select) (name : String) : Option Model :=
  if q.model.name = name then some q.model
  else
    ((q.joined.find? (·.1.name == name)).map (·.1))
      <|> ((q.model.relations.find? (·.2.name == name)).map (·.2))

/-- The fields that an item adds to a selection.  With a single field comes the
primary key of its model, unless the rows are to be distinct. -/
def itemFields (q : Select) : Selection → List Field
  | .name name => (q.model.field? name).toList
  | .field field =>
    (if q.distinct then [] else ((q.knownModel? field.model).map (·.primaryKey)).toList) ++ [field]
  | .model model => model.fields
  | .modelNames model names => names.filterMap model.field?

/-- **Select more fields.**  The primary key of the root model comes with them,
unless the rows are to be distinct. -/
def select (q : Select) (items : List Selection) : Select :=
  let key := if q.distinct || items.isEmpty then [] else [q.model.primaryKey]
  { q with fields := Field.addAllTo q.fields (key ++ items.flatMap q.itemFields) }

/-- **The fields that the select yields**, in order: those selected, or else all
fields of the root model and of the joined models. -/
def outputFields (q : Select) : List Field :=
  if q.fields.isEmpty then q.model.fields ++ q.joined.flatMap (·.1.fields) else q.fields

/-- The fields that the select yields as an operand: those selected, or else the
primary key. -/
def operandFields (q : Select) : List Field :=
  if q.fields.isEmpty then [q.model.primaryKey] else q.fields

/-! ## §4. Joins and aliases. -/

/-- The alias of a number. -/
def numberedAlias (n : Nat) : String :=
  "t" ++ toString n

/-- **A free alias**: the first one from `n` on that is not taken.  Of
`fuel + 1` numbered aliases one is free when at most `fuel` are taken. -/
def freeAlias (taken : List String) (n : Nat) : (fuel : Nat) → String
  | 0 => numberedAlias n
  | fuel + 1 =>
    if taken.contains (numberedAlias n) then freeAlias taken (n + 1) fuel else numberedAlias n

/-- **The alias for a table**: the wanted one if it is free, else the first free
one after as many numbers as there are aliases. -/
def chooseAlias (aliases : Keyed String) (wanted : Option String) : String :=
  let taken := aliases.map (·.2)
  let numbered := freeAlias taken (aliases.length + 1) aliases.length
  match wanted with
  | some name => if taken.contains name then numbered else name
  | none => numbered

/-- The aliases once a model is joined: the root model has one first. -/
def aliased (root : Model) (aliases : Keyed String) (model : Model) (wanted : Option String) :
    Keyed String :=
  let aliases :=
    if aliases.has root.name then aliases else aliases.put root.name (chooseAlias aliases none)
  aliases.put model.name (chooseAlias aliases wanted)

/-- Add a join of a model, behind the joins that reach it already. -/
def addJoin (model : Model) (join : Join) : List (Model × List Join) → List (Model × List Join)
  | [] => [(model, [join])]
  | (m, joins) :: rest =>
    if m.name = model.name then (m, joins ++ [join]) :: rest else (m, joins) :: addJoin model join rest

/-- The two sides of a join of the active model with another: a foreign key of
the active model and the field it refers to, or else a foreign key of the other
one, behind the field that it refers to. -/
def joinSides? (catalog : Catalog) (active model : Model) (on : Option String) :
    Option (Attribute × Attribute) :=
  match active.relatedField? model on with
  | some key =>
    some (key.toAttribute,
      (key.foreignKey.map (·.target)).getD model.primaryKey.toAttribute)
  | none =>
    (catalog.reverseRelatedField? active model on).map fun key =>
      ((key.foreignKey.map (·.target)).getD active.primaryKey.toAttribute, key.toAttribute)

/-- **Join a model** to the active one; `on` restricts the foreign key to the
field of that name. -/
def join (q : Select) (catalog : Catalog) (model : Model) (type : JoinType)
    (on wanted : Option String) : Except Failure Select :=
  match joinSides? catalog q.active model on with
  | none => .error (.noRelationBetween q.active.name model.name)
  | some (lhs, rhs) =>
    .ok { q with
      joined := addJoin model ⟨type, lhs, rhs⟩ q.joined
      aliases := aliased q.model q.aliases model wanted }

/-- Make a model the active one; it has to be the root model or joined. -/
def activate (q : Select) (model : Model) : Except Failure Select :=
  if model.same q.model || q.joined.any (·.1.name == model.name) then
    .ok { q with active := model }
  else .error (.notJoined model.name)

/-- Every join of the select, with the model that it reaches. -/
def joins (q : Select) : List (Model × Join) :=
  q.joined.flatMap fun (model, joins) => joins.map (model, ·)

/-! ## §5. Rows. -/

/-- Ask for distinct rows, or not.  The primary key of the root model leaves the
selection either way. -/
def setDistinct (q : Select) (distinct : Bool) : Select :=
  { q with
    distinct := distinct
    fields := q.fields.filter fun f => !f.toAttribute.same q.model.primaryKey.toAttribute }

/-- Ask for at most so many rows; zero asks for all. -/
def setLimit (q : Select) (rows : Nat) : Select :=
  { q with limit := some rows }

/-- Skip so many rows. -/
def setOffset (q : Select) (rows : Nat) : Select :=
  { q with offset := some rows }

/-- Skip rows and limit them. -/
def page (q : Select) (offset limit : Nat) : Select :=
  { q with offset := some offset, limit := some limit }

/-- Read rows as records of the root model alone, even when tables are joined. -/
def setNaive (q : Select) (naive : Bool) : Select :=
  { q with naive := naive }

/-- Rows are read as records of the root model alone. -/
def isNaive (q : Select) : Bool :=
  q.naive || q.aliases.isEmpty

/-- The orderings that an item asks for; a name that the active model does not
know asks for none. -/
def sortKeys (q : Select) : SortItem → List SortKey
  | .name text =>
    let (name, direction) := splitDirection text
    ((q.active.field? name).map fun f => ⟨f.toAttribute, direction⟩).toList
  | .key key => [key]

/-- **Sort** by more items, behind those there are. -/
def sort (q : Select) (items : List SortItem) : Select :=
  { q with orderBy := q.orderBy ++ items.flatMap q.sortKeys }

/-- Sort by these items and no others. -/
def resort (q : Select) (items : List SortItem) : Select :=
  { q with orderBy := [] }.sort items

/-- The fields that an item groups by. -/
def groupFields (q : Select) : GroupItem → List Attribute
  | .name name => ((q.active.field? name).map (·.toAttribute)).toList
  | .field field => [field]
  | .model model => model.fields.map (·.toAttribute)

/-- **Group** by more items. -/
def group (q : Select) (items : List GroupItem) : Select :=
  { q with groupBy := q.groupBy ++ items.flatMap q.groupFields }

/-- Conditions on groups cannot be stated. -/
def having (_q : Select) (_condition : Condition) : Except Failure Select :=
  .error (.notImplemented "The having clause")

/-! ## §6. Filters. -/

/-- Let one more condition hold. -/
def restrict (q : Select) (condition : Condition) : Select :=
  { q with filter := conjoin q.filter condition }

/-- **The model on which a filter is looked up**: the active one, or the first
joined model that has the field when the active one does not. -/
def scopeOf (q : Select) (key : String) : Model :=
  let name := fieldNameOf key
  if (q.active.field? name).isSome then q.active
  else ((q.joined.find? fun (m, _) => (m.field? name).isSome).map (·.1)).getD q.active

/-- The conditions of keyword filters, each on the model it is looked up on. -/
def filterConditions (q : Select) : List (String × Operand) → Except Failure (List Condition)
  | [] => .ok []
  | (key, operand) :: rest => do
    let conditions ← Condition.ofFilters (q.scopeOf key) [(key, operand)]
    return conditions ++ (← q.filterConditions rest)

/-- **Let keyword filters hold.** -/
def filterBy (q : Select) (filters : List (String × Operand)) : Except Failure Select := do
  return { q with filter := q.filter ++ (← q.filterConditions filters) }

end Select

end RecordMapper
