/-
  RecordMapper.Proofs.Schema.Registered
  ────────────────────────────────
  **MODELS THAT WERE REGISTERED.**

  Registration builds a model from a blueprint, whose foreign keys refer to models
  that were registered before.  It lets no field name and no column come twice, and
  every field knows the name of the model that it belongs to.  All of it is true of
  every model that a registered model refers to, directly or through others.
-/
import RecordMapper.Proofs.Outcome
import RecordMapper.Schema.Catalog

namespace RecordMapper

/-! ## §1. Fields laid out. -/

/-- A field whose key is new joins fields whose keys are distinct. -/
theorem nodup_map_concat {key : Field → String} {done : List Field} {field : Field}
    (hnodup : (done.map key).Nodup) (hnew : ¬ done.any (key · == key field) = true) :
    ((done ++ [field]).map key).Nodup := by
  rw [List.map_append]
  refine List.nodup_append.2 ⟨hnodup, by simp, ?_⟩
  intro x hx y hy hxy
  obtain ⟨f, hf, rfl⟩ := List.mem_map.1 hx
  obtain rfl := List.mem_singleton.1 hy
  exact hnew (List.any_eq_true.2 ⟨f, hf, by simpa using hxy⟩)

/-- **Laying out fields** keeps their names apart, and their columns, and gives each the
name of the model. -/
theorem Blueprint.layOut_ok {b : Blueprint} : ∀ {definitions : List (String × Definition)}
    {done fields : List Field}, b.layOut done definitions = .ok fields →
      (done.map (·.name)).Nodup → (done.map (·.column)).Nodup → (∀ f ∈ done, f.model = b.name) →
      (fields.map (·.name)).Nodup ∧ (fields.map (·.column)).Nodup ∧ ∀ f ∈ fields, f.model = b.name
  | [], done, fields, h, hnames, hcolumns, hmodel => by
      obtain rfl := Except.ok.inj h
      exact ⟨hnames, hcolumns, hmodel⟩
  | (name, definition) :: rest, done, fields, h, hnames, hcolumns, hmodel => by
      unfold layOut at h
      by_cases hname : done.any (·.name == name) = true
      · rw [if_pos hname] at h
        cases h
      rw [if_neg hname] at h
      by_cases hcolumn :
          done.any (·.column == (definition.toField b.name b.tableName name).column) = true
      · rw [if_pos hcolumn] at h
        cases h
      rw [if_neg hcolumn] at h
      -- The invariant is on the fields laid out so far; the one that joins them has a new
      -- name and a new column, and carries the name of the model.
      refine layOut_ok h (nodup_map_concat hnames hname) (nodup_map_concat hcolumns hcolumn) ?_
      intro f hf
      rcases List.mem_append.1 hf with hf | hf
      · exact hmodel f hf
      · obtain rfl := List.mem_singleton.1 hf
        rfl

/-- **A built model** has distinct field names and distinct columns, and its fields know
its name. -/
theorem Blueprint.build_ok {b : Blueprint} {id : Nat} {m : Model} (h : b.build id = .ok m) :
    m.fieldNames.Nodup ∧ (m.fields.map (·.column)).Nodup ∧ ∀ f ∈ m.fields, f.model = m.name := by
  unfold build at h
  obtain ⟨fields, hfields, h⟩ := bind_ok.1 h
  obtain ⟨key, _, h⟩ := bind_ok.1 h
  obtain ⟨ordering, _, h⟩ := bind_ok.1 h
  obtain rfl := pure_ok.1 h
  exact layOut_ok hfields List.nodup_nil List.nodup_nil fun _ hf => nomatch hf

/-- The primary key of a built model is one of its fields. -/
theorem Blueprint.build_primaryKey {b : Blueprint} {id : Nat} {m : Model} (h : b.build id = .ok m) :
    m.primaryKey ∈ m.fields := by
  unfold build at h
  obtain ⟨fields, _, h⟩ := bind_ok.1 h
  obtain ⟨key, hkey, h⟩ := bind_ok.1 h
  obtain ⟨ordering, _, h⟩ := bind_ok.1 h
  obtain rfl := pure_ok.1 h
  unfold primaryKey at hkey
  split at hkey
  · cases hkey
  · rename_i hfilter
    obtain rfl := Except.ok.inj hkey
    exact (List.mem_filter.1 (hfilter ▸ List.mem_cons_self)).1
  · cases hkey

/-! ## §2. Registered models. -/

namespace Model

/-- **A registered model**: it was built from a blueprint, and the models that it
refers to were registered themselves. -/
inductive Registered : Model → Prop
  | mk {m : Model} {b : Blueprint} {id : Nat} (built : b.build id = .ok m)
      (related : ∀ relation ∈ m.relations, Registered relation.2) : Registered m

theorem Registered.fieldNames_nodup {m : Model} (h : m.Registered) : m.fieldNames.Nodup := by
  obtain ⟨hbuilt, _⟩ := h
  exact (Blueprint.build_ok hbuilt).1

theorem Registered.columns_nodup {m : Model} (h : m.Registered) :
    (m.fields.map (·.column)).Nodup := by
  obtain ⟨hbuilt, _⟩ := h
  exact (Blueprint.build_ok hbuilt).2.1

theorem Registered.field_model {m : Model} (h : m.Registered) {f : Field} (hf : f ∈ m.fields) :
    f.model = m.name := by
  obtain ⟨hbuilt, _⟩ := h
  exact (Blueprint.build_ok hbuilt).2.2 f hf

theorem Registered.primaryKey_mem {m : Model} (h : m.Registered) : m.primaryKey ∈ m.fields := by
  obtain ⟨hbuilt, _⟩ := h
  exact Blueprint.build_primaryKey hbuilt

/-- Fields of a registered model are the same when their names are. -/
theorem Registered.same_eq {m : Model} (h : m.Registered) {f g : Field} (hf : f ∈ m.fields)
    (hg : g ∈ m.fields) : f.toAttribute.same g.toAttribute = (f.name == g.name) := by
  unfold Attribute.same
  rw [h.field_model hf, h.field_model hg, beq_self_eq_true, Bool.true_and]

theorem Registered.related {m : Model} (h : m.Registered) {relation : String × Model}
    (hrelation : relation ∈ m.relations) : relation.2.Registered := by
  obtain ⟨_, hrelated⟩ := h
  exact hrelated relation hrelation

/-- The field of a name is that field, when names are distinct. -/
theorem field?_name {m : Model} (hnodup : m.fieldNames.Nodup) {f : Field} (hf : f ∈ m.fields) :
    m.field? f.name = some f := by
  have hfind : m.fieldNamed? f.name = some f := by
    unfold fieldNamed?
    unfold fieldNames at hnodup
    generalize m.fields = fields at hf hnodup
    induction fields with
    | nil => cases hf
    | cons g fields ih =>
        rw [List.map_cons, List.nodup_cons] at hnodup
        obtain ⟨hg, hrest⟩ := hnodup
        rcases List.mem_cons.1 hf with rfl | hf
        · exact List.find?_cons_of_pos (by simp)
        -- The first field has another name, since the name of `f` comes once only.
        · have hne : g.name ≠ f.name := fun h => hg (h ▸ List.mem_map.2 ⟨f, hf, rfl⟩)
          rw [List.find?_cons_of_neg (by simpa using hne)]
          exact ih hf hrest
  unfold field?
  rw [hfind]
  rfl

/-- Fields of one name are one field, when names are distinct. -/
theorem eq_of_name {m : Model} (hnodup : m.fieldNames.Nodup) {f g : Field} (hf : f ∈ m.fields)
    (hg : g ∈ m.fields) (hname : f.name = g.name) : f = g := by
  have hfound := field?_name hnodup hf
  rw [hname, field?_name hnodup hg] at hfound
  exact (Option.some.inj hfound).symm

/-- A field that is found is one of the model. -/
theorem mem_of_field? {m : Model} {name : String} {f : Field} (h : m.field? name = some f) :
    f ∈ m.fields := by
  have hnamed : ∀ {name : String} {f : Field}, m.fieldNamed? name = some f → f ∈ m.fields :=
    fun h => List.mem_of_find?_eq_some h
  unfold field? at h
  cases hfirst : m.fieldNamed? name with
  | some g =>
      rw [hfirst] at h
      obtain rfl := Option.some.inj h
      exact hnamed hfirst
  | none =>
      rw [hfirst] at h
      obtain ⟨column, _, hcolumn⟩ := Option.bind_eq_some_iff.1 h
      exact hnamed hcolumn

/-- A model reaches itself. -/
theorem mem_reach_self (m : Model) : m ∈ m.reach := by
  cases m
  exact List.mem_cons_self

theorem mem_reach_go {m' : Model} {relation : String × Model} (h : m' ∈ relation.2.reach) :
    ∀ {relations : List (String × Model)}, relation ∈ relations → m' ∈ reach.go relations
  | r :: relations, hrelation => by
      rcases List.mem_cons.1 hrelation with rfl | hrelation
      · exact List.mem_append_left _ h
      · exact List.mem_append_right _ (mem_reach_go h hrelation)

/-- A model reaches what the models that it refers to reach. -/
theorem mem_reach_related {m m' : Model} {relation : String × Model}
    (hrelation : relation ∈ m.relations) (h : m' ∈ relation.2.reach) : m' ∈ m.reach := by
  cases m
  exact List.mem_cons_of_mem _ (mem_reach_go h hrelation)

/-- No relation leads to a model of the same name, when the names of what a model reaches are
distinct. -/
theorem related_name_ne {m : Model} (hnodup : (m.reach.map (·.name)).Nodup)
    {relation : String × Model} (hrelation : relation ∈ m.relations) :
    relation.2.name ≠ m.name := by
  cases m
  have hmem := mem_reach_go relation.2.mem_reach_self hrelation
  obtain ⟨hname, -⟩ := List.nodup_cons.1 hnodup
  exact fun hsame => hname (List.mem_map.2 ⟨relation.2, hmem, hsame⟩)

/-- What a model reaches is the model itself, or is reached by one that it refers to. -/
theorem reach_cases {m m' : Model} (h : m' ∈ m.reach) :
    m' = m ∨ ∃ relation ∈ m.relations, m' ∈ relation.2.reach := by
  have hgo : ∀ relations : List (String × Model), m' ∈ reach.go relations →
      ∃ relation ∈ relations, m' ∈ relation.2.reach := by
    intro relations hmem
    induction relations with
    | nil => cases hmem
    | cons r relations ih =>
        rcases List.mem_append.1 hmem with hmem | hmem
        · exact ⟨r, List.mem_cons_self, hmem⟩
        · obtain ⟨relation, hrelation, hreach⟩ := ih hmem
          exact ⟨relation, List.mem_cons_of_mem _ hrelation, hreach⟩
  cases m
  rcases List.mem_cons.1 h with rfl | h
  · exact .inl rfl
  · exact .inr (hgo _ h)

/-- **What a registered model reaches is registered.** -/
theorem Registered.reached {m : Model} (h : m.Registered) : ∀ m' ∈ m.reach, m'.Registered := by
  induction h with
  | @mk m b id built related ih =>
      intro m' hreach
      rcases reach_cases hreach with rfl | ⟨relation, hrelation, hreach⟩
      · exact .mk built related
      · exact ih relation hrelation m' hreach

end Model

end RecordMapper
