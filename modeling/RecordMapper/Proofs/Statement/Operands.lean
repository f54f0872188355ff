/-
  RecordMapper.Proofs.Statement.Operands
  ────────────────────────────────
  **WHAT A SELECT YIELDS AS AN OPERAND.**

  A comparison with a select wants one column of it.  A select that selects nothing yields
  its primary key as an operand, and nothing else.  A select that names one field yields
  that field, but the primary keys that come with a selection come here as well: the one of
  the root model, and of the field's own model where the field itself was given, unless the
  rows were to be distinct by then.  Joins, conditions, orderings and pages change nothing
  about it.

  Main result: `operand_yields_one_field`.
-/
import Mathlib.Data.Option.Basic
import RecordMapper.Proofs.Query.Selected
import RecordMapper.Proofs.Statement.Nested
import RecordMapper.Proofs.Statement.Paged

namespace RecordMapper

/-! ## §1. Selects that name one field. -/

namespace Select

/-- **An item names one field**, which is the one of its model wherever the select knows that
model. -/
structure Singles (q : Select) (item : Selection) (f : Field) : Prop where
  names : (∃ name, item = .name name ∧ q.model.field? name = some f) ∨ item = .field f
    ∨ ∃ m name, item = .modelNames m [name] ∧ m.field? name = some f
  known : ∀ m, q.knownModel? f.model = some m → m.Registered ∧ f ∈ m.fields

/-- **The keys that come with an item**: that of the root model, and for a field that of its
model; none when rows are to be distinct. -/
def keysWith (q : Select) (item : Selection) : List Field :=
  if q.distinct then []
  else q.model.primaryKey :: match item with
    | .field f => ((q.knownModel? f.model).map (·.primaryKey)).toList
    | _ => []

/-- The call selects nothing, and does not state whether rows are to be distinct. -/
def Call.Spares : Call → Prop
  | .select items => items = []
  | .distinct _ => False
  | _ => True

/-- **A select of one field**, or of none, with the keys that came with it: other calls may be
made before and after the one that names the field.  To state whether rows are to be distinct
takes the key of the root away. -/
inductive Singled : Select → (named : Option Field) → (keys : List Field) → Prop
  | start {root : Model} (h : root.Registered) : Singled (ofModel root) none []
  | bare {root : Model} (h : root.Registered) : Singled (new root) none []
  | name {q : Select} {keys : List Field} {item : Selection} {f : Field} (before : Singled q none keys)
      (hitem : q.Singles item f) : Singled (q.select [item]) (some f) (q.keysWith item)
  | distinct {q : Select} {named : Option Field} {keys : List Field} (before : Singled q named keys)
      (distinct : Bool) : Singled (q.setDistinct distinct) named (keys.filter (· ≠ q.model.primaryKey))
  | call {q q' : Select} {named : Option Field} {keys : List Field} (catalog : Catalog) (c : Call)
      (before : Singled q named keys) (spares : c.Spares) (h : q.call catalog c = .ok q') :
      Singled q' named keys

end Select

/-- **A statement yields columns**: behind the keyword of the select it lists the columns of
these fields, and then says where they come from. -/
def Statement.Yields (st : Statement) (q : Select) (d : Dialect) (fields : List Field) : Prop :=
  ∃ rest : Sql, st.sql = Sql.lit (if q.distinct then "SELECT DISTINCT " else "SELECT ")
    ++ Sql.joined ", " (fields.map (Select.columnSql (q.setting d))) ++ Sql.lit " FROM " ++ rest

/-! ## §2. What they select. -/

theorem Attribute.same_comm (a b : Attribute) : a.same b = b.same a := by
  unfold same
  rw [Bool.beq_comm, Bool.beq_comm (a := a.name)]

/-- Adding fields leaves a selection without duplicates. -/
theorem Field.nodup_addAllTo : ∀ {fields selection : List Field}, selection.Nodup →
    (addAllTo selection fields).Nodup
  | [], _, h => h
  | field :: fields, selection, h => by
      show (addAllTo (addTo selection field) fields).Nodup
      refine nodup_addAllTo ?_
      unfold addTo
      split
      · exact h
      · next hnew =>
          refine List.nodup_append.2 ⟨h, by simp, fun f hf g hg hsame => hnew ?_⟩
          rw [List.mem_singleton] at hg
          exact List.any_eq_true.2 ⟨f, hf, by simp [hsame, hg, Attribute.same]⟩

namespace Select

variable {q q' : Select} {f : Field} {item : Selection} {keys : List Field}

/-- A call that spares the selection. -/
theorem fields_of_spares {catalog : Catalog} {c : Call} (hspares : c.Spares)
    (h : q.call catalog c = .ok q') : q'.fields = q.fields ∧ q'.model = q.model := by
  cases c with
  | select items =>
      obtain rfl : items = [] := hspares
      obtain rfl := Except.ok.inj h
      refine ⟨?_, rfl⟩
      unfold Select.select
      simp [Field.addAllTo]
  | distinct _ => cases hspares
  | join model type on wanted =>
      obtain ⟨lhs, rhs, -, rfl⟩ := join_ok h
      exact ⟨rfl, rfl⟩
  | activate model =>
      obtain ⟨-, rfl⟩ := activate_ok h
      exact ⟨rfl, rfl⟩
  | filterBy filters =>
      obtain ⟨conditions, -, h⟩ := bind_ok.1 h
      obtain rfl := pure_ok.1 h
      exact ⟨rfl, rfl⟩
  | _ =>
      obtain rfl := Except.ok.inj h
      exact ⟨rfl, rfl⟩

/-- What naming a field selects: the keys that come with it, and the field. -/
theorem fields_of_singles (hitem : q.Singles item f) (h : q.fields = []) :
    (q.select [item]).fields = Field.addAllTo [] (q.keysWith item ++ [f]) := by
  unfold Select.select keysWith itemFields
  rw [h]
  rcases hitem.names with ⟨name, rfl, hname⟩ | rfl | ⟨m, name, rfl, hname⟩
  · cases q.distinct <;> simp [hname]
  · cases q.distinct <;> simp
  · cases q.distinct <;> simp [hname]

/-- A model is known under its name. -/
theorem name_of_knownModel? {name : String} {m : Model} (h : q.knownModel? name = some m) :
    m.name = name := by
  unfold knownModel? at h
  split at h
  · next hroot => exact Option.some.inj h ▸ hroot
  · rcases (Option.orElse_eq_some _ _ _).1 h with h | ⟨-, h⟩
    · obtain ⟨entry, hentry, rfl⟩ := Option.map_eq_some_iff.1 h
      simpa using List.find?_some hentry
    · obtain ⟨entry, hentry, rfl⟩ := Option.map_eq_some_iff.1 h
      simpa using List.find?_some hentry

/-- The root model is known, and no other model under its name. -/
theorem knownModel?_root {name : String} (h : q.model.name = name) :
    q.knownModel? name = some q.model := if_pos h

/-- **The field, or the key of its model**, where the select knows that model. -/
def FieldOrKey (q : Select) (f a : Field) : Prop :=
  a = f ∨ ∃ m, q.knownModel? f.model = some m ∧ a = m.primaryKey

/-- **A key that comes with an item** is that of the root, or of the model of the field. -/
theorem mem_keysWith (hitem : q.Singles item f) {k : Field} (h : k ∈ q.keysWith item) :
    k = q.model.primaryKey ∨ q.FieldOrKey f k := by
  unfold keysWith at h
  split at h
  · cases h
  · refine (List.mem_cons.1 h).imp_right fun h => ?_
    rcases hitem.names with ⟨name, rfl, -⟩ | rfl | ⟨m, name, rfl, -⟩
    · cases h
    · obtain ⟨m, hm, rfl⟩ := Option.map_eq_some_iff.1 (Option.mem_toList.1 h)
      exact .inr ⟨m, hm, rfl⟩
    · cases h

namespace Singles

variable {a b : Field}

/-- Both belong to the model of the field. -/
theorem owned (hitem : q.Singles item f) (ha : q.FieldOrKey f a) :
    a.model = f.model ∧ ∀ m, q.knownModel? f.model = some m → a ∈ m.fields := by
  obtain rfl | ⟨m, hm, rfl⟩ := ha
  · exact ⟨rfl, fun m hm => (hitem.known m hm).2⟩
  · have hregistered := (hitem.known m hm).1
    refine ⟨?_, fun m' hm' => ?_⟩
    · rw [hregistered.field_model hregistered.primaryKey_mem, name_of_knownModel? hm]
    · obtain rfl := Option.some.inj (hm.symm.trans hm')
      exact hregistered.primaryKey_mem

/-- Their names tell them apart. -/
theorem eq_of_name (hitem : q.Singles item f) (ha : q.FieldOrKey f a) (hb : q.FieldOrKey f b)
    (h : a.name = b.name) : a = b := by
  cases hm : q.knownModel? f.model with
  | none =>
      -- No key is known, so that both are the field.
      have honly : ∀ c, q.FieldOrKey f c → c = f := by
        rintro c (rfl | ⟨m, hm', -⟩)
        · rfl
        · exact nomatch hm.symm.trans hm'
      rw [honly a ha, honly b hb]
  | some m =>
      exact Model.eq_of_name (hitem.known m hm).1.fieldNames_nodup ((hitem.owned ha).2 m hm)
        ((hitem.owned hb).2 m hm) h

/-- One that statements do not tell from the key of the root is that key: the model of the field
has the name of the root, and so it is the root. -/
theorem eq_primaryKey (hitem : q.Singles item f) (hq : q.model.Registered) (ha : q.FieldOrKey f a)
    (h : a.toAttribute.same q.model.primaryKey.toAttribute = true) : a = q.model.primaryKey := by
  obtain ⟨hmodel, hname⟩ := Bool.and_eq_true_iff.1 h
  have hnamed : f.model = q.model.name := by
    rw [← (hitem.owned ha).1, ← hq.field_model hq.primaryKey_mem]
    exact beq_iff_eq.1 hmodel
  have hmem := (hitem.owned ha).2 q.model (knownModel?_root hnamed.symm)
  exact Model.eq_of_name hq.fieldNames_nodup hmem hq.primaryKey_mem (beq_iff_eq.1 hname)

end Singles

/-- **The fields that may be selected**: the key of the root, the named field, and the keys that
came with it. -/
structure Apart (root f : Field) (keys : List Field) : Prop where
  /-- They are told apart by model and name. -/
  eq_of_same : ∀ a ∈ root :: f :: keys, ∀ b ∈ root :: f :: keys,
    a.toAttribute.same b.toAttribute = true → a = b
  /-- Where the named field is the key of the root, no other key comes with it. -/
  of_key : f = root → ∀ k ∈ keys, k = f

theorem Singles.apart (hq : q.model.Registered) (hitem : q.Singles item f) :
    Apart q.model.primaryKey f (q.keysWith item) := by
  have hcases : ∀ a ∈ q.model.primaryKey :: f :: q.keysWith item,
      a = q.model.primaryKey ∨ q.FieldOrKey f a := by
    intro a ha
    rcases List.mem_cons.1 ha with rfl | ha
    · exact .inl rfl
    · rcases List.mem_cons.1 ha with rfl | ha
      · exact .inr (.inl rfl)
      · exact mem_keysWith hitem ha
  constructor
  · intro a ha b hb hsame
    rcases hcases a ha with rfl | ha
    · rcases hcases b hb with rfl | hb
      · rfl
      · exact (hitem.eq_primaryKey hq hb (Attribute.same_comm _ _ ▸ hsame)).symm
    · rcases hcases b hb with rfl | hb
      · exact hitem.eq_primaryKey hq ha hsame
      · exact hitem.eq_of_name ha hb (beq_iff_eq.1 (Bool.and_eq_true_iff.1 hsame).2)
  · rintro rfl k hk
    rcases mem_keysWith hitem hk with rfl | rfl | ⟨m, hm, rfl⟩
    · rfl
    · rfl
    · rw [knownModel?_root (hq.field_model hq.primaryKey_mem).symm] at hm
      rw [← Option.some.inj hm]

/-- **The fields of a select that names one**: that field and the keys that came with it, each
once, but for the key of the root, when it was named and taken away again. -/
structure Holds (q : Select) (f : Field) (keys : List Field) : Prop where
  apart : Apart q.model.primaryKey f keys
  nodup : q.fields.Nodup
  mem_iff : f ≠ q.model.primaryKey → ∀ g, g ∈ q.fields ↔ g = f ∨ g ∈ keys
  of_key : f = q.model.primaryKey → ∀ g ∈ q.fields, g = f

/-- Naming a field selects it with its keys. -/
theorem Singles.holds (hq : q.model.Registered) (hitem : q.Singles item f) (h : q.fields = []) :
    (q.select [item]).Holds f (q.keysWith item) := by
  have hapart := hitem.apart hq
  have hfields := fields_of_singles hitem h
  have hmem : ∀ g, g ∈ (q.select [item]).fields ↔ g = f ∨ g ∈ q.keysWith item := by
    intro g
    have hadded : ∀ a ∈ q.keysWith item ++ [f], a ∈ q.model.primaryKey :: f :: q.keysWith item := by
      intro a ha
      rcases List.mem_append.1 ha with ha | ha
      · exact List.mem_cons_of_mem _ (List.mem_cons_of_mem _ ha)
      · exact List.mem_cons_of_mem _ (List.mem_singleton.1 ha ▸ List.mem_cons_self)
    have hnone : ∀ a ∈ ([] : List Field), a ∈ q.model.primaryKey :: f :: q.keysWith item :=
      fun _ ha => absurd ha List.not_mem_nil
    rw [hfields, Field.mem_addAllTo (fun a b ha hb => hapart.eq_of_same a ha b hb) hnone hadded]
    simp [or_comm]
  refine ⟨hapart, hfields ▸ Field.nodup_addAllTo List.nodup_nil, fun _ => hmem, fun hkey g hg => ?_⟩
  rcases (hmem g).1 hg with rfl | hg
  · rfl
  · exact hapart.of_key hkey g hg

/-- Stating whether rows are to be distinct takes the key of the root away, and nothing else. -/
theorem Holds.setDistinct (h : q.Holds f keys) (distinct : Bool) :
    (q.setDistinct distinct).Holds f (keys.filter (· ≠ q.model.primaryKey)) := by
  have hkept : ∀ k ∈ keys.filter (· ≠ q.model.primaryKey), k ∈ keys :=
    fun k hk => (List.mem_filter.1 hk).1
  have hroot : q.model.primaryKey ∈ q.model.primaryKey :: f :: keys := List.mem_cons_self
  have hsame : ∀ g ∈ q.model.primaryKey :: f :: keys,
      (!g.toAttribute.same q.model.primaryKey.toAttribute) = true ↔ g ≠ q.model.primaryKey := by
    intro g hg
    rw [Bool.not_eq_true', ← Bool.not_eq_true, not_iff_not]
    constructor
    · exact h.apart.eq_of_same g hg _ hroot
    · rintro rfl
      simp [Attribute.same]
  constructor
  · refine ⟨fun a ha b hb => h.apart.eq_of_same a ?_ b ?_,
      fun hkey k hk => h.apart.of_key hkey k (hkept k hk)⟩
    · exact List.mem_cons.2 ((List.mem_cons.1 ha).imp_right fun ha =>
        List.mem_cons.2 ((List.mem_cons.1 ha).imp_right (hkept a)))
    · exact List.mem_cons.2 ((List.mem_cons.1 hb).imp_right fun hb =>
        List.mem_cons.2 ((List.mem_cons.1 hb).imp_right (hkept b)))
  · exact h.nodup.filter _
  · intro hother g
    show g ∈ q.fields.filter _ ↔ _
    rw [List.mem_filter, h.mem_iff hother, List.mem_filter]
    constructor
    · rintro ⟨rfl | hg, hstays⟩
      · exact .inl rfl
      · refine .inr ⟨hg, ?_⟩
        have hmem : g ∈ q.model.primaryKey :: f :: keys :=
          List.mem_cons_of_mem _ (List.mem_cons_of_mem _ hg)
        simpa using (hsame g hmem).1 hstays
    · rintro (rfl | ⟨hg, hstays⟩)
      · exact ⟨.inl rfl, (hsame g (List.mem_cons_of_mem _ List.mem_cons_self)).2 hother⟩
      · refine ⟨.inr hg, (hsame g (List.mem_cons_of_mem _ (List.mem_cons_of_mem _ hg))).2 ?_⟩
        simpa using hstays
  · exact fun hkey g hg => h.of_key hkey g (List.mem_filter.1 hg).1

/-- Other calls keep what is selected. -/
theorem Holds.keep (h : q.Holds f keys) (hfields : q'.fields = q.fields) (hmodel : q'.model = q.model) :
    q'.Holds f keys := by
  obtain ⟨⟨hsame, hkey⟩, hnodup, hmem, hof⟩ := h
  rw [← hmodel] at hsame hkey hmem hof
  rw [← hfields] at hnodup hmem hof
  exact ⟨⟨hsame, hkey⟩, hnodup, hmem, hof⟩

/-- **What a select of one field selects**, or of none, after any calls. -/
theorem Singled.holds {named : Option Field} (h : q.Singled named keys) :
    q.model.Registered ∧ (named = none → q.fields = [] ∧ keys = [])
      ∧ ∀ f, named = some f → q.Holds f keys := by
  induction h with
  | start h => exact ⟨h, fun _ => ⟨rfl, rfl⟩, fun _ hf => nomatch hf⟩
  | bare h => exact ⟨h, fun _ => ⟨rfl, rfl⟩, fun _ hf => nomatch hf⟩
  | name _ hitem ih =>
      obtain ⟨hregistered, hnone, -⟩ := ih
      refine ⟨hregistered, fun hn => (nomatch hn), fun g hg => ?_⟩
      obtain rfl := Option.some.inj hg
      exact hitem.holds hregistered (hnone rfl).1
  | @distinct q named keys _ distinct ih =>
      obtain ⟨hregistered, hnone, hsome⟩ := ih
      refine ⟨hregistered, fun hn => ?_, fun f hf => (hsome f hf).setDistinct distinct⟩
      obtain ⟨hfields, rfl⟩ := hnone hn
      refine ⟨?_, rfl⟩
      show q.fields.filter _ = []
      rw [hfields]
      rfl
  | call catalog c _ hspares hcall ih =>
      obtain ⟨hregistered, hnone, hsome⟩ := ih
      obtain ⟨hfields, hmodel⟩ := fields_of_spares hspares hcall
      refine ⟨hmodel ▸ hregistered, fun hn => ?_, fun f hf => (hsome f hf).keep hfields hmodel⟩
      rw [hfields]
      exact hnone hn

/-- **The fields of an operand**: without a selection the primary key; otherwise the named field
and the keys that came with it, each once. -/
theorem Holds.operandFields (h : q.Holds f keys) :
    q.operandFields.Nodup ∧ (∀ g, g ∈ q.operandFields ↔ g = f ∨ g ∈ keys) := by
  unfold Select.operandFields
  by_cases hkey : f = q.model.primaryKey
  · -- The key of the root is what an operand yields, selected or not.
    have hkeys : ∀ g, (g = f ∨ g ∈ keys) ↔ g = f := fun g =>
      or_iff_left_of_imp (h.apart.of_key hkey g)
    simp only [hkeys]
    split
    · subst hkey
      simp
    · next hsome =>
        have hne : q.fields ≠ [] := by simpa using hsome
        refine ⟨h.nodup, fun g => ⟨h.of_key hkey g, ?_⟩⟩
        rintro rfl
        obtain ⟨g', hg'⟩ := List.exists_mem_of_ne_nil _ hne
        exact h.of_key hkey g' hg' ▸ hg'
  · have hmem := (h.mem_iff hkey f).2 (.inl rfl)
    rw [if_neg (by simpa using List.ne_nil_of_mem hmem)]
    exact ⟨h.nodup, h.mem_iff hkey⟩

end Select

/-! ## §3. What they write. -/

/-- **Behind a statement** stands the window of a product that writes nothing before it. -/
theorem Product.exists_closing (p : Product) (query : Sql) {limit offset : Option Nat}
    (hpaged : p = .oracle → limit = none ∧ offset = none) :
    ∃ closing, p.dialect.paging.apply query limit offset = query ++ closing := by
  cases limit <;> cases offset
  · exact ⟨[], (List.append_nil query).symm⟩
  all_goals cases p with
    | oracle => cases hpaged rfl; contradiction
    | generic | mysql | sqlite => exact ⟨_, rfl⟩

/-- A select begins with its columns. -/
theorem Dialect.exists_select_eq (parts : SelectParts) :
    ∃ rest, select parts = Sql.lit (if parts.distinct then "SELECT DISTINCT " else "SELECT ")
      ++ parts.columns ++ Sql.lit " FROM " ++ rest := by
  refine ⟨parts.table ++ (Sql.clause "" parts.join ++ (Sql.clause "WHERE " parts.condition
    ++ (Sql.clause "GROUP BY " parts.groupBy ++ (Sql.clause "HAVING " parts.having
      ++ Sql.clause "ORDER BY " parts.orderBy)))), ?_⟩
  unfold select
  simp only [List.append_assoc]

/-- **A rendered select** yields the fields that it is rendered with. -/
theorem Select.render_yields {p : Product} {q : Select} {k : Nat} {fields : List Field} {st : Statement}
    (hpaged : p = .oracle → positive q.limit = none ∧ positive q.offset = none)
    (h : q.render p.dialect k fields = .ok st) : st.Yields q p.dialect fields := by
  obtain ⟨w, -, hsql, -⟩ := render_ok h
  obtain ⟨closing, hclosing⟩ :=
    p.exists_closing (Dialect.select (q.parts (q.setting p.dialect) fields w.sql)) hpaged
  obtain ⟨rest, hrest⟩ := Dialect.exists_select_eq (q.parts (q.setting p.dialect) fields w.sql)
  refine ⟨rest ++ closing, hsql.trans (hclosing.trans ?_)⟩
  rw [hrest, List.append_assoc]
  rfl

/-- **A select as an operand yields one field, or the keys that came with it too.**  Wherever it
stands in the conditions of a query, its own statement stands there.  Without a selection that
yields the primary key alone.  When it names one field, it yields that field and the keys that
came with it, each once; and so the field alone exactly when no other key came with it. -/
theorem operand_yields_one_field {p : Product} {hole : Query.Hole} {q : Select} {named : Option Field}
    {keys : List Field} (hq : q.Singled named keys)
    (hpaged : p = .oracle → Select.positive q.limit = none ∧ Select.positive q.offset = none)
    {st : Statement} (h : (hole.fill q).statement p.dialect = .ok st) :
    ∃ (context : Context) (nested : Statement) (fields : List Field),
      q.asOperand.statement p.dialect = .ok nested ∧ st = context.around p 0 nested
      ∧ nested.Yields q p.dialect fields
      ∧ (named = none → fields = [q.model.primaryKey])
      ∧ ∀ f, named = some f → fields.Nodup ∧ (∀ g, g ∈ fields ↔ g = f ∨ g ∈ keys)
        ∧ (fields = [f] ↔ ∀ k ∈ keys, k = f) := by
  obtain ⟨context, hcontext⟩ := statement_context p hole
  obtain ⟨nested, hnested, hst⟩ := hcontext q st h
  obtain ⟨-, hnone, hsome⟩ := hq.holds
  refine ⟨context, nested, q.operandFields, hnested, hst, ?_, fun hn => ?_, fun f hf => ?_⟩
  · rw [Select.asOperand_statement] at hnested
    exact Select.render_yields hpaged hnested
  · unfold Select.operandFields
    rw [(hnone hn).1]
    rfl
  · obtain ⟨hnodup, hmem⟩ := (hsome f hf).operandFields
    refine ⟨hnodup, hmem, fun honly k hk => ?_, fun hkeys => ?_⟩
    · exact List.mem_singleton.1 (honly ▸ (hmem k).2 (.inr hk))
    · have hperm : q.operandFields.Perm [f] := by
        refine (List.perm_ext_iff_of_nodup hnodup (List.nodup_singleton f)).2 fun g => ?_
        rw [hmem, List.mem_singleton]
        exact or_iff_left_of_imp (hkeys g)
      exact List.perm_singleton.1 hperm

namespace Sample

/-- The names of two authors, distinct or not. -/
def twoNames (distinct : Bool) : Select :=
  (((Select.new author).setDistinct distinct).select [.name "name"]).setLimit 2

theorem twoNames_singled (distinct : Bool) : (twoNames distinct).Singled (some authorName)
    (((Select.new author).setDistinct distinct).keysWith (.name "name")) := by
  have hsingles : ((Select.new author).setDistinct distinct).Singles (.name "name") authorName := by
    refine ⟨.inl ⟨"name", rfl, rfl⟩, fun m hm => ?_⟩
    obtain rfl : author = m := Option.some.inj hm
    exact ⟨author_declared.registered, by decide⟩
  have hdistinct := (Select.Singled.bare author_declared.registered).distinct distinct
  exact .call .empty (.limit 2) (.name hdistinct hsingles) trivial rfl

theorem isIn_writes : Operator.isIn.isNullTest = false := rfl

/-- Books whose author is given by a select. -/
def byAuthors : Query.Hole :=
  .select (Select.ofModel book).toSelectPlan []
    (.here bookAuthor.toAttribute .isIn isIn_writes false) []

end Sample

open Sample in
/-- Distinct names of authors are one column. -/
theorem distinct_names_alone : ∃ st context nested fields,
    (byAuthors.fill (twoNames true)).statement Product.sqlite.dialect = .ok st
      ∧ st.text = "SELECT id, title, author_id, editor_id FROM book WHERE (author_id IN "
        ++ "(SELECT DISTINCT name FROM author LIMIT 2))"
      ∧ (twoNames true).asOperand.statement Product.sqlite.dialect = .ok nested
      ∧ st = Context.around .sqlite 0 context nested
      ∧ nested.Yields (twoNames true) Product.sqlite.dialect fields ∧ fields = [authorName] := by
  have hrendered : (byAuthors.fill (twoNames true)).statement Product.sqlite.dialect = .ok _ := rfl
  obtain ⟨context, nested, fields, hnested, hst, hyields, -, hnamed⟩ :=
    operand_yields_one_field (p := .sqlite) (twoNames_singled true) nofun hrendered
  obtain ⟨-, -, honly⟩ := hnamed authorName rfl
  exact ⟨_, context, nested, fields, hrendered, by decide +kernel, hnested, hst, hyields,
    honly.2 fun _ hk => nomatch hk⟩

open Sample in
/-- **Not every named field is the only column**: the names of authors come with their keys. -/
theorem not_every_operand_one_field :
    ¬ ∀ (p : Product) (hole : Query.Hole) (q : Select) (f : Field) (keys : List Field),
      q.Singled (some f) keys → ∀ st : Statement, (hole.fill q).statement p.dialect = .ok st →
      ∃ nested, q.asOperand.statement p.dialect = .ok nested ∧ nested.Yields q p.dialect [f] := by
  intro hevery
  obtain ⟨nested, hnested, rest, hsql⟩ := hevery .generic byAuthors (twoNames false) authorName _
    (twoNames_singled false) _ rfl
  obtain rfl := Except.ok.inj hnested
  -- Behind the keyword stands the key, not the name.
  exact absurd (Token.text.inj (Option.some.inj (congrArg (·[1]?) hsql))) (by decide)

end RecordMapper
