/-
  RecordMapper.Proofs.Schema.Declared
  ────────────────────────────────
  **WHAT FOREIGN KEYS REFER TO.**

  A definition is made from a kind or from a model that it refers to, and more is stated
  of it afterwards.  Whatever is stated, a foreign key goes on referring to a field of
  the same model.  So the foreign keys of a model that was registered from such
  definitions, and the relations that it keeps beside them, say the same.

  Main result: `Declared.relatedField?_ok`.
-/
import RecordMapper.Proofs.Ordered
import RecordMapper.Proofs.Sample
import RecordMapper.Proofs.Schema.Registered

namespace RecordMapper

/-! ## §1. Definitions. -/

/-- **A definition that was made**: from a source, and with more stated of it. -/
inductive Definition.Made : Definition → Prop
  | source {d : Definition} {ordinal : Nat} (s : Source) (h : ofSource ordinal s = .ok d) : Made d
  | column {d : Definition} (h : Made d) (name : String) : Made (d.withColumn name)
  | length {d : Definition} (h : Made d) (n : Nat) : Made (d.withLength n)
  | primary {d d' : Definition} (h : Made d) (hd : d.asPrimary = .ok d') : Made d'
  | nullable {d d' : Definition} (h : Made d) (hd : d.asNullable = .ok d') : Made d'
  | default {d : Definition} (h : Made d) (v : Value) : Made (d.withDefault v)
  | displayName {d : Definition} (h : Made d) (name : String) : Made (d.withDisplayName name)
  | relatedName {d : Definition} (h : Made d) (name : String) : Made (d.withRelatedName name)
  | reverseName {d : Definition} (h : Made d) (name : String) : Made (d.withReverseName name)

/-- **What a definition refers to is a field of the model** that it refers to. -/
theorem Definition.Made.target {d : Definition} (h : d.Made) :
    ∀ r, d.reference = some r →
      r.target = r.model.primaryKey.toAttribute ∨ ∃ f ∈ r.model.fields, f.toAttribute = r.target := by
  -- Naming an accessor leaves the model and the field that are referred to.
  have hrenamed : ∀ {reference : Option Reference} {g : Reference → Reference},
      (∀ r, (g r).model = r.model ∧ (g r).target = r.target) →
      (∀ r, reference = some r →
        r.target = r.model.primaryKey.toAttribute ∨ ∃ f ∈ r.model.fields, f.toAttribute = r.target) →
      ∀ r, reference.map g = some r →
        r.target = r.model.primaryKey.toAttribute ∨ ∃ f ∈ r.model.fields, f.toAttribute = r.target := by
    intro reference g hg h r hr
    obtain ⟨r', hr', rfl⟩ := Option.map_eq_some_iff.1 hr
    rw [(hg r').1, (hg r').2]
    exact h r' hr'
  induction h with
  | source s h =>
      intro r hr
      cases s with
      | ofKind kind =>
          obtain rfl := Except.ok.inj h
          cases hr
      | foreignKey model =>
          obtain rfl := Except.ok.inj h
          obtain rfl := Option.some.inj hr
          exact .inl rfl
      | foreignKeyTo model name =>
          obtain ⟨f, hf, h⟩ := bind_ok.1 h
          obtain rfl := pure_ok.1 h
          obtain rfl := Option.some.inj hr
          refine .inr ⟨f, ?_, rfl⟩
          unfold Model.field at hf
          split at hf
          · rename_i hfound
            obtain rfl := Except.ok.inj hf
            exact Model.mem_of_field? hfound
          · cases hf
  | length h n ih =>
      intro r hr
      refine ih r ?_
      unfold withLength at hr
      split at hr <;> exact hr
  | primary h hd ih =>
      unfold asPrimary at hd
      split at hd
      · cases hd
      · obtain rfl := Except.ok.inj hd
        exact ih
  | nullable h hd ih =>
      unfold asNullable at hd
      split at hd
      · cases hd
      · obtain rfl := Except.ok.inj hd
        exact ih
  | relatedName h name ih => exact hrenamed (fun _ => ⟨rfl, rfl⟩) ih
  | reverseName h name ih => exact hrenamed (fun _ => ⟨rfl, rfl⟩) ih
  | column h name ih | default h v ih | displayName h name ih => exact ih

/-! ## §2. Declared models. -/

/-- The fields of a built model are those that its definitions declare, in order. -/
theorem Blueprint.layOut_eq {b : Blueprint} : ∀ {definitions : List (String × Definition)}
    {done fields : List Field}, b.layOut done definitions = .ok fields →
      fields = done ++ definitions.map fun (name, d) => d.toField b.name b.tableName name
  | [], done, fields, h => by
      rw [← Except.ok.inj h]
      simp
  | (name, d) :: rest, done, fields, h => by
      unfold layOut at h
      split at h
      · cases h
      · simp only at h
        split at h
        · cases h
        · rw [layOut_eq h]
          simp

/-- What a built model keeps is what its blueprint declares. -/
theorem Blueprint.build_eq {b : Blueprint} {id : Nat} {m : Model} (h : b.build id = .ok m) :
    m.name = b.name ∧ m.relations = b.relations
      ∧ m.fields = b.declared.map fun (name, d) => d.toField b.name b.tableName name := by
  unfold build at h
  obtain ⟨fields, hfields, h⟩ := bind_ok.1 h
  obtain ⟨key, _, h⟩ := bind_ok.1 h
  obtain ⟨ordering, _, h⟩ := bind_ok.1 h
  obtain rfl := pure_ok.1 h
  exact ⟨rfl, rfl, layOut_eq hfields⟩

namespace Model

/-- **A declared model**: it was registered from definitions that were made, and so were
the models that it refers to. -/
inductive Declared : Model → Prop
  | mk {m : Model} {b : Blueprint} {id : Nat} (built : b.build id = .ok m)
      (made : ∀ d ∈ b.fields, d.2.Made) (related : ∀ relation ∈ m.relations, Declared relation.2) :
      Declared m

theorem Declared.registered {m : Model} (h : m.Declared) : m.Registered := by
  induction h with
  | mk built _ _ ih => exact .mk built ih

/-- **A foreign key of the model** to another one: a field of it, and the field of the
other that it refers to. -/
structure Refers (m other : Model) (field : Field) (key : ForeignKey) : Prop where
  mem : field ∈ m.fields
  key_eq : field.foreignKey = some key
  model_eq : key.model = other.name
  target : ∃ f ∈ other.fields, f.toAttribute = key.target
  target_model : key.target.model = other.name

/-- **Every relation that a model keeps** is a foreign key of it, under the name of the
field. -/
theorem Declared.refers {m : Model} (h : m.Declared) {name : String} {related : Model}
    (hrelation : (name, related) ∈ m.relations) :
    ∃ field key, m.field? name = some field ∧ m.Refers related field key := by
  have hregistered := h.registered
  obtain @⟨_, b, _, hbuilt, hmade, hrelated⟩ := h
  have hother := (hrelated _ hrelation).registered
  obtain ⟨hname, hrelations, hfields⟩ := Blueprint.build_eq hbuilt
  rw [hrelations] at hrelation
  obtain ⟨⟨name', d⟩, hd, hkey⟩ := List.mem_filterMap.1 hrelation
  obtain ⟨r, hr, hpair⟩ := Option.map_eq_some_iff.1 hkey
  cases hpair
  have hmem : d.toField b.name b.tableName name ∈ m.fields := by
    rw [hfields]
    exact List.mem_map.2 ⟨(name, d), hd, rfl⟩
  have htarget : ∃ f ∈ r.model.fields, f.toAttribute = r.target := by
    rcases (hmade _ ((sorted_perm _ _).mem_iff.1 hd)).target r hr with hkey | hfield
    · exact ⟨_, hother.primaryKey_mem, hkey.symm⟩
    · exact hfield
  refine ⟨_, Definition.toForeignKey r b.name, field?_name hregistered.fieldNames_nodup hmem, hmem,
    congrArg (Option.map _) hr, rfl, htarget, ?_⟩
  obtain ⟨f, hf, heq⟩ := htarget
  show r.target.model = r.model.name
  rw [← heq]
  exact hother.field_model hf

/-- **The foreign key that is found** for another model belongs to a relation to a model of
its name. -/
theorem Declared.relatedField?_relation {m other : Model} (h : m.Declared) {name : Option String}
    {field : Field} (hfield : m.relatedField? other name = some field) :
    ∃ relation ∈ m.relations, relation.2.name = other.name
      ∧ ∃ key, m.Refers relation.2 field key := by
  unfold relatedField? at hfield
  obtain ⟨⟨name', related⟩, hfound, hfield⟩ := Option.bind_eq_some_iff.1 hfield
  have hrelation := List.mem_of_find?_eq_some hfound
  obtain ⟨field', key, hname, hrefers⟩ := h.refers hrelation
  have hmatch := List.find?_some hfound
  have hsame : related.name = other.name := by
    simp only [Bool.and_eq_true, same, beq_iff_eq] at hmatch
    exact hmatch.1
  obtain rfl := Option.some.inj (hname.symm.trans hfield)
  exact ⟨(name', related), hrelation, hsame, key, hrefers⟩

/-- **The foreign key that is found** between two declared models is one of the first; it
refers to a field of a model of the name of the second. -/
theorem Declared.relatedField?_ok {m other : Model} (h : m.Declared) {name : Option String}
    {field : Field} (hfield : m.relatedField? other name = some field) :
    ∃ related key, related.name = other.name ∧ m.Refers related field key := by
  obtain ⟨relation, -, hsame, key, hrefers⟩ := h.relatedField?_relation hfield
  exact ⟨relation.2, key, hsame, hrefers⟩

end Model

namespace Sample

theorem authorPlan_made : ∀ d ∈ authorPlan.fields, d.2.Made := by
  intro d hd
  rcases List.mem_cons.1 hd with rfl | hd
  · exact .primary (.source (.ofKind .integer) rfl) rfl
  · obtain rfl := List.mem_singleton.1 hd
    exact .source (.ofKind (.varchar 30)) rfl

theorem author_declared : author.Declared :=
  .mk author_built authorPlan_made fun _ h => nomatch h

theorem bookPlan_made : ∀ d ∈ bookPlan.fields, d.2.Made := by
  have hkey : ∀ relatedName reverseName ordinal, (authorKey relatedName reverseName ordinal).Made :=
    fun relatedName reverseName ordinal =>
      .reverseName (.relatedName (.nullable (.source (.foreignKey author) rfl) rfl) relatedName)
        reverseName
  intro d hd
  simp only [bookPlan, List.mem_cons, List.not_mem_nil, or_false] at hd
  obtain rfl | rfl | rfl | rfl := hd
  · exact .primary (.source (.ofKind .integer) rfl) rfl
  · exact .source (.ofKind (.varchar 80)) rfl
  · exact hkey _ _ _
  · exact hkey _ _ _

theorem book_declared : book.Declared := by
  refine .mk book_built bookPlan_made fun relation hrelation => ?_
  have hauthor : relation.2 = author := by
    simp only [book, List.mem_cons, List.not_mem_nil, or_false] at hrelation
    obtain rfl | rfl := hrelation <;> rfl
  rw [hauthor]
  exact author_declared

end Sample

end RecordMapper
