/-
  RecordMapper.Proofs.Schema.Invariant
  ────────────────────────────────
  **WHAT EVERY REGISTERED MODEL IS LIKE.**

  A model is laid out in one pass over the declarations of its blueprint, and what it
  keeps beside its fields — columns, primary key, ordering, defaults, relations — has to
  agree with them.  Everything that queries and records do with a model relies on that.

  The declarations come from chains of calls that may state the same thing several times
  and in any order; the base model adds an ordering that was stated for other fields.
  Neither matters: what a chain can reach is said once (`Made.target`,
  `Made.nullable_of_primary`), and an inherited ordering is checked like an own one.

  Main result: `registered_model_laidOut`.
-/
import Mathlib.Data.List.Forall2
import Mathlib.Data.List.Nodup
import RecordMapper.Proofs.Schema.Declared

namespace RecordMapper

/-! ## §1. Definitions. -/

/-- **A definition that was made is not both the primary key and nullable.** -/
theorem Definition.Made.nullable_of_primary {d : Definition} (h : d.Made) :
    d.primary = true → d.nullable = false := by
  induction h with
  | source s h =>
      intro hprimary
      cases s with
      | ofKind kind =>
          obtain rfl := Except.ok.inj h
          cases hprimary
      | foreignKey model =>
          obtain rfl := Except.ok.inj h
          cases hprimary
      | foreignKeyTo model name =>
          obtain ⟨f, -, h⟩ := bind_ok.1 h
          obtain rfl := pure_ok.1 h
          cases hprimary
  | length h n ih =>
      unfold withLength
      split <;> exact ih
  | primary h hd ih =>
      unfold asPrimary at hd
      split at hd
      · cases hd
      · rename_i hnullable
        obtain rfl := Except.ok.inj hd
        intro _
        simpa using hnullable
  | nullable h hd ih =>
      unfold asNullable at hd
      split at hd
      · cases hd
      · rename_i hprimary
        obtain rfl := Except.ok.inj hd
        intro h
        exact absurd h hprimary
  | column h name ih | default h v ih | displayName h name ih | relatedName h name ih
  | reverseName h name ih => exact ih

/-! ## §2. What a blueprint was built from. -/

namespace Blueprint

variable {b : Blueprint} {id : Nat} {m : Model}

/-- The field that a declaration of the blueprint becomes. -/
def fieldOf (b : Blueprint) (declaration : String × Definition) : Field :=
  declaration.2.toField b.name b.tableName declaration.1

/-- The column of a declaration: in lower case, and named like the field unless stated. -/
def columnOf (declaration : String × Definition) : String :=
  Text.lower (declaration.2.column.getD declaration.1)

/-- **The parts of a built model**, each checked against the fields. -/
theorem build_parts (h : b.build id = .ok m) :
    b.primaryKey m.fields = .ok m.primaryKey
      ∧ b.orderingNames.mapM (b.orderingItem m.fields) = .ok m.ordering := by
  unfold build at h
  obtain ⟨fields, _, h⟩ := bind_ok.1 h
  obtain ⟨key, hkey, h⟩ := bind_ok.1 h
  obtain ⟨ordering, hordering, h⟩ := bind_ok.1 h
  obtain rfl := pure_ok.1 h
  exact ⟨hkey, hordering⟩

/-- The primary key is the one primary field. -/
theorem primaryKey_ok {fields : List Field} {key : Field} (h : b.primaryKey fields = .ok key) :
    fields.filter (·.primary) = [key] := by
  unfold primaryKey at h
  split at h
  · cases h
  · rename_i hfilter
    rw [hfilter, Except.ok.inj h]
  · cases h

/-- **An item of the ordering** is a field, in the direction of its sign. -/
theorem orderingItem_ok {fields : List Field} {item : String} {key : SortKey}
    (h : b.orderingItem fields item = .ok key) :
    key.direction = (splitDirection item).2
      ∧ ∃ f ∈ fields, f.name = (splitDirection item).1 ∧ key.field = f.toAttribute := by
  unfold orderingItem at h
  cases hsplit : splitDirection item with
  | mk name direction =>
      rw [hsplit] at h
      cases hfound : fields.find? (·.name == name) with
      | none => simp [hfound] at h
      | some f =>
          simp only [hfound] at h
          obtain rfl := Except.ok.inj h
          have hname := List.find?_some hfound
          exact ⟨rfl, f, List.mem_of_find?_eq_some hfound, by simpa using hname, rfl⟩

/-- The declarations in order are the declarations. -/
theorem mem_declared {declaration : String × Definition} :
    declaration ∈ b.declared ↔ declaration ∈ b.fields :=
  (sorted_perm _ _).mem_iff

/-! ## §3. The order of the fields. -/

theorem ordinal_total (x y : String × Definition) :
    decide (x.2.ordinal ≤ y.2.ordinal) = true ∨ decide (y.2.ordinal ≤ x.2.ordinal) = true := by
  simpa using Nat.le_total x.2.ordinal y.2.ordinal

theorem ordinal_trans (x y z : String × Definition)
    (hxy : decide (x.2.ordinal ≤ y.2.ordinal) = true)
    (hyz : decide (y.2.ordinal ≤ z.2.ordinal) = true) :
    decide (x.2.ordinal ≤ z.2.ordinal) = true := by
  simp only [decide_eq_true_eq] at *
  omega

/-- The declarations lie in the order of their ordinals. -/
theorem declared_pairwise (b : Blueprint) :
    b.declared.Pairwise fun x y => x.2.ordinal ≤ y.2.ordinal := by
  have hsorted := sorted_pairwise ordinal_total ordinal_trans b.fields
  exact hsorted.imp fun h => by simpa using h

/-- **Declarations of one ordinal** stay in the order in which they were given. -/
theorem declared_filter (b : Blueprint) (n : Nat) :
    (b.declared.filter fun x => x.2.ordinal == n) = b.fields.filter fun x => x.2.ordinal == n := by
  refine filter_sorted (fun x y hx hy => ?_) b.fields
  simp only [beq_iff_eq, decide_eq_true_eq] at *
  omega

/-- **Declarations of distinct ordinals** lie alike in whatever order they were given. -/
theorem declared_of_perm {fields : List (String × Definition)} (hperm : fields.Perm b.fields)
    (hdistinct : (b.fields.map (·.2.ordinal)).Nodup) :
    ({ b with fields := fields } : Blueprint).declared = b.declared := by
  refine sorted_eq_of_perm ordinal_total ordinal_trans hperm fun x hx y hy hxy hyx => ?_
  have heq : x.2.ordinal = y.2.ordinal := by
    simp only [decide_eq_true_eq] at hxy hyx
    omega
  exact List.inj_on_of_nodup_map hdistinct (hperm.mem_iff.1 hx) (hperm.mem_iff.1 hy) heq

/-- Laying out does not look at the declarations that the blueprint was given. -/
theorem layOut_withFields (fields : List (String × Definition)) :
    ∀ (definitions : List (String × Definition)) (done : List Field),
      ({ b with fields := fields } : Blueprint).layOut done definitions = b.layOut done definitions
  | [], done => rfl
  | (name, d) :: rest, done => by
      unfold layOut
      simp only [layOut_withFields fields rest]
      rfl

/-- **Registration looks at the declarations in order**, and not at how they were given. -/
theorem register_withFields (c : Catalog) {fields : List (String × Definition)}
    (h : ({ b with fields := fields } : Blueprint).declared = b.declared) :
    c.register { b with fields := fields } = c.register b := by
  unfold Catalog.register build relations
  rw [layOut_withFields, h]
  rfl

end Blueprint

/-! ## §4. The invariant. -/

/-- **What is kept under a key** is the pair of that key, when keys are distinct. -/
theorem Keyed.get?_eq_some_iff {α : Type} {l : Keyed α} (hnodup : l.keys.Nodup) {key : String}
    {value : α} : l.get? key = some value ↔ (key, value) ∈ l := by
  unfold get?
  constructor
  · intro h
    obtain ⟨pair, hfound, rfl⟩ := Option.map_eq_some_iff.1 h
    have hkey : pair.1 = key := by simpa using List.find?_some hfound
    exact hkey ▸ List.mem_of_find?_eq_some hfound
  · intro h
    have hsome : (l.find? (·.1 == key)).isSome = true :=
      List.find?_isSome.2 ⟨_, h, by simp⟩
    obtain ⟨pair, hfound⟩ := Option.isSome_iff_exists.1 hsome
    have hkey : pair.1 = key := by simpa using List.find?_some hfound
    have hpair : pair = (key, value) :=
      List.inj_on_of_nodup_map hnodup (List.mem_of_find?_eq_some hfound) h hkey
    rw [hfound, hpair]
    rfl

namespace Model

/-- **A model as its blueprint declares it.** -/
structure LaidOut (m : Model) (b : Blueprint) : Prop where
  /-- Every declaration is a field, and every field was declared. -/
  fields : m.fields.Perm (b.fields.map b.fieldOf)
  /-- The fields lie in the order of their declaration. -/
  ordered : m.fields.Pairwise fun f g => f.ordinal ≤ g.ordinal
  /-- Fields of one ordinal lie in the order in which the blueprint gives them. -/
  ties : ∀ n, (m.fields.filter fun f => f.ordinal == n)
    = (b.fields.filter fun x => x.2.ordinal == n).map b.fieldOf
  names : m.fieldNames.Nodup
  columnKeys : m.columns.keys.Nodup
  /-- A column leads to the field that was declared with it. -/
  column_iff : ∀ column name, m.columns.get? column = some name
    ↔ ∃ d, (name, d) ∈ b.fields ∧ Blueprint.columnOf (name, d) = column
  /-- Two columns lead to two fields. -/
  column_injective : ∀ column column' name, m.columns.get? column = some name →
    m.columns.get? column' = some name → column = column'
  /-- A column leads to every field, and to nothing else. -/
  column_onto : ∀ name, name ∈ m.fieldNames ↔ ∃ column, m.columns.get? column = some name
  primary : m.fields.filter (·.primary) = [m.primaryKey]
  primary_filled : m.primaryKey.nullable = false
  /-- The items of the ordering, own or inherited, are fields of the model. -/
  ordering : List.Forall₂ (fun item key => key.direction = (splitDirection item).2
    ∧ ∃ f ∈ m.fields, f.name = (splitDirection item).1 ∧ key.field = f.toAttribute)
    b.orderingNames m.ordering
  /-- A default is kept for a name exactly when a field of that name was declared with it. -/
  default_iff : ∀ name value, m.defaults.get? name = some value
    ↔ ∃ f ∈ m.fields, f.name = name ∧ f.default = some value
  /-- The relations are the foreign keys, each once. -/
  relations : m.relations.map (·.1) = (m.fields.filter (·.foreignKey.isSome)).map (·.name)
  /-- Each is kept with the model that its field refers to, by a field of that model. -/
  referred : ∀ name related, (name, related) ∈ m.relations →
    ∃ field key, field.name = name ∧ m.Refers related field key

end Model

/-! ## §5. Lookups beside the fields. -/

namespace Model

variable {m : Model}

/-- **A column leads to the field that has it.** -/
theorem get?_columns_iff (hcolumns : (m.fields.map (·.column)).Nodup) {column name : String} :
    m.columns.get? column = some name ↔ ∃ f ∈ m.fields, f.column = column ∧ f.name = name := by
  have hkeys : m.columns.keys.Nodup := by
    simpa [columns, Keyed.keys, Function.comp_def] using hcolumns
  rw [Keyed.get?_eq_some_iff hkeys]
  unfold columns
  rw [List.mem_map]
  simp only [Prod.mk.injEq]

/-- The keys of the defaults are distinct, since the names of the fields are. -/
theorem defaults_nodup (hnames : m.fieldNames.Nodup) : m.defaults.keys.Nodup := by
  have hsublist : m.defaults.keys.Sublist m.fieldNames := by
    unfold Keyed.keys defaults fieldNames
    generalize m.fields = fields
    induction fields with
    | nil => exact List.Sublist.slnil
    | cons f fields ih =>
        cases hdefault : f.default with
        | none => simpa [hdefault] using ih.cons f.name
        | some value => simpa [hdefault] using ih
  exact hnames.sublist hsublist

/-- **A default belongs to the field of its name.** -/
theorem get?_defaults_iff (hnames : m.fieldNames.Nodup) {name : String} {value : Value} :
    m.defaults.get? name = some value
      ↔ ∃ f ∈ m.fields, f.name = name ∧ f.default = some value := by
  rw [Keyed.get?_eq_some_iff (defaults_nodup hnames)]
  constructor
  · intro hmem
    obtain ⟨f, hf, hdefault⟩ := List.mem_filterMap.1 hmem
    obtain ⟨v, hv, hpair⟩ := Option.map_eq_some_iff.1 hdefault
    obtain ⟨rfl, rfl⟩ := Prod.mk.inj hpair
    exact ⟨f, hf, rfl, hv⟩
  · rintro ⟨f, hf, rfl, hv⟩
    exact List.mem_filterMap.2 ⟨f, hf, by rw [hv]; rfl⟩

end Model

/-! ## §6. Built models satisfy the invariant. -/

namespace Blueprint

variable {b : Blueprint} {id : Nat} {m : Model}

/-- A field of a built model was declared. -/
theorem mem_fields_iff (h : b.build id = .ok m) {f : Field} :
    f ∈ m.fields ↔ ∃ declaration ∈ b.fields, b.fieldOf declaration = f := by
  rw [(build_eq h).2.2, List.mem_map]
  simp only [mem_declared]
  rfl

/-- The relations of declarations are those of the fields that they become. -/
theorem relations_fields (b : Blueprint) : ∀ declarations : List (String × Definition),
    ((declarations.filterMap fun (name, d) => d.reference.map fun r => (name, r.model)).map (·.1))
      = ((declarations.map b.fieldOf).filter (·.foreignKey.isSome)).map (·.name)
  | [] => rfl
  | (name, d) :: rest => by
      have ih := relations_fields b rest
      cases hreference : d.reference with
      | none => simpa [hreference, fieldOf, Definition.toField] using ih
      | some r => simpa [hreference, fieldOf, Definition.toField] using ih

/-- **The relations of a built model are its foreign keys**, in order. -/
theorem relations_names (h : b.build id = .ok m) :
    m.relations.map (·.1) = (m.fields.filter (·.foreignKey.isSome)).map (·.name) := by
  obtain ⟨-, hrelations, hfields⟩ := build_eq h
  rw [hrelations, hfields]
  exact relations_fields b b.declared

/-- **A model is declared** when its definitions were made and refer to declared models. -/
theorem build_declared (h : b.build id = .ok m) (hmade : ∀ d ∈ b.fields, d.2.Made)
    (hmodels : ∀ d ∈ b.fields, ∀ r, d.2.reference = some r → r.model.Declared) : m.Declared := by
  refine .mk h hmade fun relation hrelation => ?_
  rw [(build_eq h).2.1] at hrelation
  obtain ⟨⟨name, d⟩, hd, hpair⟩ := List.mem_filterMap.1 hrelation
  obtain ⟨r, hr, rfl⟩ := Option.map_eq_some_iff.1 hpair
  exact hmodels _ (mem_declared.1 hd) r hr

/-- The primary key was not declared nullable. -/
theorem primaryKey_filled (h : b.build id = .ok m) (hmade : ∀ d ∈ b.fields, d.2.Made) :
    m.primaryKey.nullable = false := by
  have hmem : m.primaryKey ∈ m.fields.filter (·.primary) := by
    rw [primaryKey_ok (build_parts h).1]
    exact List.mem_singleton.2 rfl
  obtain ⟨hkey, hprimary⟩ := List.mem_filter.1 hmem
  obtain ⟨declaration, hdeclaration, heq⟩ := (mem_fields_iff h).1 hkey
  rw [← heq] at hprimary ⊢
  exact (hmade _ hdeclaration).nullable_of_primary hprimary

/-- Every item of the ordering was found among the fields. -/
theorem ordering_forall₂ (h : b.build id = .ok m) :
    List.Forall₂ (fun item key => key.direction = (splitDirection item).2
      ∧ ∃ f ∈ m.fields, f.name = (splitDirection item).1 ∧ key.field = f.toAttribute)
      b.orderingNames m.ordering := by
  have hordering := (build_parts h).2
  refine List.forall₂_iff_zip.2 ⟨(length_mapM_ok hordering).symm, fun {item key} hpair => ?_⟩
  exact orderingItem_ok ((zip_mapM_ok hordering).1 (item, key) hpair)

/-- **The columns of a built model** are those of its declarations. -/
theorem get?_columns_iff (h : b.build id = .ok m) (hcolumns : (m.fields.map (·.column)).Nodup)
    {column name : String} :
    m.columns.get? column = some name
      ↔ ∃ d, (name, d) ∈ b.fields ∧ columnOf (name, d) = column := by
  rw [Model.get?_columns_iff hcolumns]
  constructor
  · rintro ⟨f, hf, rfl, rfl⟩
    obtain ⟨⟨name, d⟩, hd, rfl⟩ := (mem_fields_iff h).1 hf
    exact ⟨d, hd, rfl⟩
  · rintro ⟨d, hd, rfl⟩
    exact ⟨_, (mem_fields_iff h).2 ⟨(name, d), hd, rfl⟩, rfl, rfl⟩

/-- **A relation of a built model** is kept with the model that its field refers to. -/
theorem exists_reference (h : b.build id = .ok m) (hnames : m.fieldNames.Nodup)
    (hdeclared : m.Declared) {name : String} {related : Model}
    (hrelation : (name, related) ∈ m.relations) :
    ∃ field key, field.name = name ∧ m.Refers related field key := by
  obtain ⟨field, key, hfound, hrefers⟩ := hdeclared.refers hrelation
  -- The field that is found under the name of a relation has that very name.
  have hmem : name ∈ (m.fields.filter (·.foreignKey.isSome)).map (·.name) := by
    rw [← relations_names h]
    exact List.mem_map.2 ⟨_, hrelation, rfl⟩
  obtain ⟨f, hf, rfl⟩ := List.mem_map.1 hmem
  have hsame := Model.field?_name hnames (List.mem_filter.1 hf).1
  obtain rfl := Option.some.inj (hfound.symm.trans hsame)
  exact ⟨_, key, rfl, hrefers⟩

/-- **A built model is as its blueprint declares it.** -/
theorem build_laidOut (h : b.build id = .ok m) (hmade : ∀ d ∈ b.fields, d.2.Made)
    (hmodels : ∀ d ∈ b.fields, ∀ r, d.2.reference = some r → r.model.Declared) :
    m.LaidOut b := by
  obtain ⟨-, -, hfields⟩ := build_eq h
  obtain ⟨hnames, hcolumns, -⟩ := build_ok h
  have hlookup : ∀ {column name : String}, m.columns.get? column = some name
      ↔ ∃ f ∈ m.fields, f.column = column ∧ f.name = name := Model.get?_columns_iff hcolumns
  exact {
    fields := by
      rw [hfields]
      exact (sorted_perm _ b.fields).map b.fieldOf
    ordered := by
      rw [hfields]
      exact List.pairwise_map.2 b.declared_pairwise
    ties := by
      intro n
      rw [hfields, ← declared_filter b n]
      exact List.filter_map
    names := hnames
    columnKeys := by
      simpa [Model.columns, Keyed.keys, Function.comp_def] using hcolumns
    column_iff := fun _ _ => get?_columns_iff h hcolumns
    column_injective := by
      -- A field is known by its name, and its column by the field.
      intro column column' name hcolumn hcolumn'
      obtain ⟨f, hf, rfl, rfl⟩ := hlookup.1 hcolumn
      obtain ⟨g, hg, rfl, hsame⟩ := hlookup.1 hcolumn'
      rw [Model.eq_of_name hnames hf hg hsame.symm]
    column_onto := by
      intro name
      simp only [hlookup]
      constructor
      · intro hmem
        obtain ⟨f, hf, rfl⟩ := List.mem_map.1 hmem
        exact ⟨f.column, f, hf, rfl, rfl⟩
      · rintro ⟨column, f, hf, -, rfl⟩
        exact List.mem_map.2 ⟨f, hf, rfl⟩
    primary := primaryKey_ok (build_parts h).1
    primary_filled := primaryKey_filled h hmade
    ordering := ordering_forall₂ h
    default_iff := fun _ _ => Model.get?_defaults_iff hnames
    relations := relations_names h
    referred := fun _ _ => exists_reference h hnames (build_declared h hmade hmodels) }

end Blueprint

/-- **Every registered model is as its blueprint declares it**, whatever calls made the
definitions and whatever the base model; and fields of distinct ordinals may be given to
the blueprint in any order. -/
theorem registered_model_laidOut {c c' : Catalog} {b : Blueprint} {m : Model}
    (h : c.register b = .ok (m, c')) (hmade : ∀ d ∈ b.fields, d.2.Made)
    (hmodels : ∀ d ∈ b.fields, ∀ r, d.2.reference = some r → r.model.Declared) :
    m.LaidOut b
      ∧ ∀ fields, fields.Perm b.fields → (b.fields.map (·.2.ordinal)).Nodup →
        c.register { b with fields := fields } = .ok (m, c') := by
  refine ⟨?_, fun fields hperm hdistinct => ?_⟩
  · obtain ⟨built, hbuilt, h⟩ := bind_ok.1 h
    obtain ⟨rfl, -⟩ := Prod.mk.inj (pure_ok.1 h)
    exact Blueprint.build_laidOut hbuilt hmade hmodels
  · rw [Blueprint.register_withFields c (Blueprint.declared_of_perm hperm hdistinct), h]

namespace Sample

/-- Books in the default ordering of a base model, which names a field that both have. -/
def orderedBookPlan : Blueprint :=
  { bookPlan with base := some { author with orderingNames := ["-id"] } }

/-- Books, newest first. -/
def orderedBook : Model :=
  { book with ordering := [⟨bookId.toAttribute, .descending⟩], orderingNames := ["-id"] }

theorem bookPlan_refers : ∀ d ∈ bookPlan.fields, ∀ r, d.2.reference = some r → r.model = author := by
  intro d hd r hr
  simp only [bookPlan, List.mem_cons, List.not_mem_nil, or_false] at hd
  obtain rfl | rfl | rfl | rfl := hd <;> cases hr <;> rfl

end Sample

open Sample in
/-- Books are laid out alike with their fields given backwards. -/
theorem orderedBook_laidOut : ∃ c c', Catalog.empty.register authorPlan = .ok (author, c)
    ∧ c.register orderedBookPlan = .ok (orderedBook, c')
    ∧ orderedBook.LaidOut orderedBookPlan
    ∧ c.register { orderedBookPlan with fields := orderedBookPlan.fields.reverse }
      = .ok (orderedBook, c') := by
  let c : Catalog := ⟨1, 0, [author], []⟩
  let c' : Catalog := ⟨2, 0, [author, orderedBook], [⟨0, "written", 1⟩, ⟨0, "edited", 1⟩]⟩
  have hbook : c.register orderedBookPlan = .ok (orderedBook, c') := rfl
  have hmodels : ∀ d ∈ orderedBookPlan.fields, ∀ r, d.2.reference = some r → r.model.Declared :=
    fun d hd r hr => bookPlan_refers d hd r hr ▸ author_declared
  obtain ⟨hlaid, hperm⟩ := registered_model_laidOut hbook bookPlan_made hmodels
  exact ⟨c, c', rfl, hbook, hlaid, hperm _ (List.reverse_perm _) (by decide)⟩

end RecordMapper
