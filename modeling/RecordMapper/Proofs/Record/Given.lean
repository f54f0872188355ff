/-
  RecordMapper.Proofs.Record.Given
  ────────────────────────────────
  **WHAT A NEW RECORD IS GIVEN, AND WHAT IS INSERTED FOR IT.**

  The values that filters look for are given to a new record by the names of its fields.  The
  record holds them in their application form, and is inserted among the defaults of its
  model: with the key that the database generates left out, and without the columns of a NULL
  that a field cannot hold.

  All of these are lists of values under names, and one question is asked of each: which value
  do they give to a field (`Model.Gives`)?  The answer is the same on the whole way, up to the
  form of the value.

  Main results: `Insert.set_gives` and `Insert.set_omits`, what the statement of an insert has
  for a field that was given a value, and for one that was not.
-/
import RecordMapper.Proofs.Record.Assignment
import RecordMapper.Proofs.Record.Sought
import RecordMapper.Proofs.Record.Tracking
import RecordMapper.Proofs.Statement.Assigned

namespace RecordMapper

/-! ## §1. The values of a new record. -/

namespace Keyed

variable {α : Type} {cell : String × α}

theorem mem_putAll : ∀ {pairs : List (String × α)} {l : Keyed α},
    cell ∈ l.putAll pairs → cell ∈ pairs ∨ cell ∈ l
  | [], _, h => .inr h
  | (k, v) :: rest, l, h => by
      rcases mem_putAll (l := l.put k v) h with h | h
      · exact .inl (List.mem_cons_of_mem _ h)
      · rcases mem_put h with rfl | h
        · exact .inl List.mem_cons_self
        · exact .inr h

theorem mem_keys_putAll {k : String} : ∀ {pairs : List (String × α)} {l : Keyed α},
    k ∈ (l.putAll pairs).keys ↔ k ∈ keys pairs ∨ k ∈ l.keys
  | [], _ => (or_iff_right (List.not_mem_nil)).symm
  | (key, v) :: rest, l => by
      show k ∈ ((l.put key v).putAll rest).keys ↔ k ∈ key :: keys rest ∨ k ∈ l.keys
      rw [mem_keys_putAll, mem_keys_put, List.mem_cons, or_assoc, or_left_comm]

end Keyed

/-- **The cells give the field this value**: some of them are for the field, and all of those
have the value. -/
structure Model.Gives (m : Model) (cells : List (String × Value)) (f : Field) (v : Value) : Prop where
  given : ∃ cell ∈ cells, m.field? cell.1 = some f
  same : ∀ cell ∈ cells, m.field? cell.1 = some f → cell.2 = v

namespace Model

variable {m : Model} {filters defaults cells : List (String × Value)} {f : Field} {v w : Value}

/-- **What is looked for is given** to the new record. -/
theorem SeeksOnce.gives (h : m.SeeksOnce filters defaults) {key : String}
    (hmem : (key, v) ∈ filters) (hf : m.soughtField? key = some f) :
    m.Gives (m.valuesFor filters defaults) f v := by
  obtain ⟨name, hname, hfield⟩ := soughtField?_eq_some.1 hf
  have hfm := mem_of_field? hfield
  constructor
  · have hplain : plainFilter? key v = some (name, v) := by
      rw [plainFilter?_eq, hname]
    have hkey : name ∈ (m.valuesFor filters defaults).keys := by
      refine Keyed.mem_keys_putAll.2 (.inr (Keyed.mem_keys_putAll.2 (.inl ?_)))
      refine List.mem_map.2 ⟨(name, v), List.mem_filter.2 ⟨?_, ?_⟩, rfl⟩
      · exact List.mem_filterMap.2 ⟨(key, v), hmem, hplain⟩
      · show (m.field? name).isSome = true
        rw [hfield]
        rfl
    obtain ⟨cell, hcell, rfl⟩ := List.mem_map.1 hkey
    exact ⟨cell, hcell, hfield⟩
  · intro cell hcell hcellf
    rcases Keyed.mem_putAll hcell with hdefault | hplain
    · exact absurd hcellf (h.apart f hfm _ hmem hf cell hdefault)
    · rcases Keyed.mem_putAll hplain with hplain | hnone
      · obtain ⟨⟨key', v'⟩, hmem', hplain⟩ := List.mem_filterMap.1 (List.mem_filter.1 hplain).1
        have hgiven : plainFilter? key' v' = some (cell.1, cell.2) := hplain
        obtain ⟨hsought, hsame⟩ := plainFilter?_eq_some hgiven hcellf
        rw [hsame]
        exact (h.once f hfm _ hmem _ hmem' hf hsought).symm
      · cases hnone

/-- **What is given is written**, in its application form: it is the last that is written to
the field. -/
theorem Gives.written (hm : m.Registered) (hf : f ∈ m.fields) (h : m.Gives cells f v)
    (hw : f.toApplication v = .ok w) (before : Option Value) :
    lastOr (cells.filterMap (Record.assigned? m f.name)) before = some w := by
  have hall : ∀ u ∈ cells.filterMap (Record.assigned? m f.name), u = w := by
    intro u hu
    obtain ⟨cell, hcell, g, hg, hname, hconverted⟩ := Record.of_mem_assignedTo hu
    obtain rfl := eq_of_name hm.fieldNames_nodup (mem_of_field? hg) hf hname
    rw [h.same cell hcell hg, hw] at hconverted
    exact (Except.ok.inj hconverted).symm
  have hsome : w ∈ cells.filterMap (Record.assigned? m f.name) := by
    obtain ⟨cell, hcell, hfield⟩ := h.given
    refine List.mem_filterMap.2 ⟨cell, hcell, Record.assigned?_eq_some.2 ⟨f, hfield, rfl, ?_⟩⟩
    rw [h.same cell hcell hfield, hw]
  unfold lastOr
  cases hlast : (cells.filterMap (Record.assigned? m f.name)).getLast? with
  | none =>
      rw [List.getLast?_eq_none_iff.1 hlast] at hsome
      cases hsome
  | some u =>
      rw [hall u (List.mem_of_getLast? hlast)]
      rfl

end Model

namespace Record

variable {m : Model} {r : Record} {values : List (String × Value)} {f : Field} {v w : Value}

/-- **A record that was made** is new. -/
theorem new_ok (h : new m values = .ok r) : r.model = m ∧ r.isNew = true := by
  obtain ⟨b, hb, hr⟩ := bind_ok.1 h
  have hblank := setAll_new rfl rfl hb
  exact ⟨(setAll_get? hr).1.trans (setAll_get? hb).1, (setAll_new hblank.1 hblank.2 hr).1⟩

/-- It holds what it was given. -/
theorem new_get? (hm : m.Registered) (hgives : m.Gives values f v) (h : new m values = .ok r) :
    ∃ w, f.toApplication v = .ok w ∧ r.values.get? f.name = some w := by
  obtain ⟨b, hb, hr⟩ := bind_ok.1 h
  have hblank : b.model = m := (setAll_get? hb).1
  obtain ⟨cell, hcell, hfield⟩ := hgives.given
  obtain ⟨g, w, hg, hw⟩ := setAll_converts hr cell hcell
  rw [hblank, hfield] at hg
  obtain rfl := Option.some.inj hg
  rw [hgives.same cell hcell hfield] at hw
  refine ⟨w, hw, ?_⟩
  rw [(setAll_get? hr).2, hblank]
  exact hgives.written hm (Model.mem_of_field? hfield) hw _

/-- A value that is inserted is that of its field. -/
theorem of_mem_insertedValues (hmodel : r.model = m) (hm : m.Registered)
    {cell : String × Value} (hcell : cell ∈ r.insertedValues) (hfield : m.field? cell.1 = some f) :
    cell = (f.name, (r.values.get? f.name).getD f.kind.empty)
      ∧ ¬ (m.autoIncrement = true ∧ f = m.primaryKey) := by
  subst hmodel
  have hvalues : cell ∈ r.fieldValues → cell = (f.name, (r.values.get? f.name).getD f.kind.empty) := by
    intro hmem
    obtain ⟨g, hg, rfl⟩ := List.mem_map.1 hmem
    rw [Model.field?_name hm.fieldNames_nodup hg] at hfield
    rw [Option.some.inj hfield]
  unfold insertedValues at hcell
  split at hcell
  · obtain ⟨hmem, hother⟩ := List.mem_filter.1 hcell
    refine ⟨hvalues hmem, ?_⟩
    rintro ⟨-, rfl⟩
    rw [hvalues hmem] at hother
    simp at hother
  · next hauto => exact ⟨hvalues hcell, fun h => hauto h.1⟩

/-- **What the record holds is inserted**, but for the key that the database generates. -/
theorem insertedValues_gives (hmodel : r.model = m) (hm : m.Registered) (hf : f ∈ m.fields)
    (hget : r.values.get? f.name = some w) (hkept : ¬ (m.autoIncrement = true ∧ f = m.primaryKey)) :
    m.Gives r.insertedValues f w := by
  have hname := Model.field?_name hm.fieldNames_nodup hf
  refine ⟨⟨(f.name, w), ?_, hname⟩, fun cell hcell hfield => ?_⟩
  · have hmem : (f.name, w) ∈ r.fieldValues := by
      refine List.mem_map.2 ⟨f, hmodel ▸ hf, ?_⟩
      rw [hget]
      rfl
    unfold insertedValues
    rw [hmodel]
    split
    · next hauto =>
        refine List.mem_filter.2 ⟨hmem, ?_⟩
        have hne : f.name ≠ m.primaryKey.name := fun hsame =>
          hkept ⟨hauto, Model.eq_of_name hm.fieldNames_nodup hf hm.primaryKey_mem hsame⟩
        simpa using hne
    · exact hmem
  · rw [(of_mem_insertedValues hmodel hm hcell hfield).1, hget]
    rfl

end Record

/-! ## §2. Its insert. -/

namespace Insert

variable {m : Model} {q : Insert} {f : Field} {v w : Value} {values values' : Keyed Value}
  {cells : List (String × Value)}

/-- **An insert leaves a column out**: its statement has the columns of some cells, and none of
them is the one of this field. -/
def Omits (q : Insert) (d : Dialect) (f : Field) : Prop :=
  ∃ cells : List (Field × Value), (∀ cell ∈ cells, cell.1.column ≠ f.column)
    ∧ q.statement d = .ok ⟨d.insertWithKey q.model.table (columnsSql (cells.map (·.1)))
        (valuesSql d cells.length) q.model.primaryKey.column, cells.map (·.2)⟩

/-- **The values of a row** are kept under different names, each that of a field. -/
structure IsRow (m : Model) (values : Keyed Value) : Prop where
  distinct : values.keys.Nodup
  known : ∀ k ∈ values.keys, ∃ g ∈ m.fields, g.name = k

theorem isRow_defaults (hm : m.Registered) : IsRow m m.defaults :=
  ⟨Model.defaults_nodup hm.fieldNames_nodup, fun _ => Model.mem_keys_defaults⟩

theorem IsRow.put (h : IsRow m values) (hf : f ∈ m.fields) (w : Value) :
    IsRow m (values.put f.name w) := by
  refine ⟨Keyed.nodup_keys_put h.distinct, fun k hk => ?_⟩
  rcases Keyed.mem_keys_put.1 hk with rfl | hk
  · exact ⟨f, hf, rfl⟩
  · exact h.known k hk

/-- **Merging values** into a row: the last one that is written to a field is kept. -/
theorem merge_ok : ∀ {cells : List (String × Value)} {values : Keyed Value},
    IsRow m values → merge m values cells = .ok values' →
      IsRow m values' ∧ ∀ name, values'.get? name
        = lastOr (cells.filterMap (Record.assigned? m name)) (values.get? name)
  | [], values, hrow, h => by
      obtain rfl := Except.ok.inj h
      exact ⟨hrow, fun _ => rfl⟩
  | (key, v) :: rest, values, hrow, h => by
      unfold merge at h
      cases hfield : m.field? key with
      | none =>
          rw [hfield] at h
          obtain ⟨hrow', hget⟩ := merge_ok hrow h
          refine ⟨hrow', fun name => ?_⟩
          have hnone : Record.assigned? m name (key, v) = none := by
            unfold Record.assigned?
            rw [hfield]
            rfl
          rw [hget name, List.filterMap_cons_none hnone]
      | some g =>
          rw [hfield] at h
          obtain ⟨w, hw, h⟩ := bind_ok.1 h
          obtain ⟨hrow', hget⟩ := merge_ok (hrow.put (Model.mem_of_field? hfield) w) h
          refine ⟨hrow', fun name => ?_⟩
          have hassigned : Record.assigned? m name (key, v) = if g.name = name then some w else none :=
            Record.assigned?_of_field hfield hw name
          rw [hget name]
          by_cases hname : g.name = name
          · rw [if_pos hname] at hassigned
            rw [List.filterMap_cons_some hassigned, lastOr.cons, ← hname, Keyed.get?_put_self]
          · rw [if_neg hname] at hassigned
            rw [List.filterMap_cons_none hassigned, Keyed.get?_put_of_ne _ _ (Ne.symm hname)]

/-- **A column is not written** when what is kept for its field, if anything, is a NULL that the
field cannot hold. -/
theorem column_ne_of_written (hm : m.Registered) (hf : f ∈ m.fields) (hrow : IsRow m values)
    (h : ∀ w, values.get? f.name = some w → w.isNull = true ∧ f.nullable = false) :
    ∀ cell ∈ written m values, cell.1.column ≠ f.column := by
  intro cell hcell hcolumn
  obtain ⟨⟨name, w⟩, hkept, hcell⟩ := List.mem_filterMap.1 hcell
  obtain ⟨g, hg, hcell⟩ := Option.bind_eq_some_iff.1 hcell
  have hmem : (name, w) ∈ values := (sorted_perm _ values).mem_iff.1 hkept
  obtain ⟨g', hg', rfl⟩ := hrow.known name (List.mem_map_of_mem hmem)
  rw [Model.field?_name hm.fieldNames_nodup hg'] at hg
  obtain rfl := Option.some.inj hg
  split at hcell
  · next hwritten =>
      obtain rfl := Option.some.inj hcell
      obtain rfl := hm.eq_of_column hg' hf hcolumn
      obtain ⟨hnull, hrequired⟩ := h w ((Keyed.get?_eq_some_iff hrow.distinct).2 hmem)
      rw [hnull, hrequired] at hwritten
      cases hwritten
  · cases hcell

/-- The row of an insert that was set. -/
theorem set_ok (hm : m.Registered) (h : (Insert.new m).set cells = .ok q) :
    ∃ values, q = ⟨m, .row values⟩ ∧ IsRow m values ∧ ∀ name, values.get? name
      = lastOr (cells.filterMap (Record.assigned? m name)) (m.defaults.get? name) := by
  obtain ⟨values, hvalues, hq⟩ := bind_ok.1 h
  obtain ⟨hrow, hget⟩ := merge_ok (isRow_defaults hm) hvalues
  exact ⟨values, (pure_ok.1 hq).symm, hrow, hget⟩

/-- A column that is not written is left out. -/
theorem omits_of_written (h : ∀ cell ∈ written m values, cell.1.column ≠ f.column) {d : Dialect}
    {st : Statement} (hst : (⟨m, .row values⟩ : Insert).statement d = .ok st) :
    (⟨m, .row values⟩ : Insert).Omits d f := by
  obtain ⟨ps, _, rfl⟩ := statement_row hst
  refine ⟨_, fun cell hcell => ?_, hst⟩
  obtain ⟨before, hbefore, hfield⟩ := List.mem_map.1 (List.of_mem_zip hcell).1
  rw [← hfield]
  exact h before hbefore

/-- **What is given to an insert** is bound, in the storage form of its application form; a NULL
that the field cannot hold is left out. -/
theorem set_gives (hm : m.Registered) (hf : f ∈ m.fields) (hgives : m.Gives cells f v)
    (hw : f.toApplication v = .ok w) (h : (Insert.new m).set cells = .ok q) {d : Dialect}
    {st : Statement} (hst : q.statement d = .ok st) :
    ((w.isNull = false ∨ f.nullable = true) → ∀ p, f.toStorage w = .ok p → q.Binds d f p)
      ∧ (w.isNull = true → f.nullable = false → q.Omits d f) := by
  obtain ⟨values, rfl, hrow, hget⟩ := set_ok hm h
  have hkept : values.get? f.name = some w := by
    rw [hget, hgives.written hm hf hw]
  refine ⟨fun hnull p hp => ?_, fun hnull hrequired => ?_⟩
  · have honce := Keyed.filter_key hrow.distinct hkept
    exact binds_of_written (bindsOnce_written hm hf hrow.known honce hnull) hp hst
  · refine omits_of_written (column_ne_of_written hm hf hrow fun w' hw' => ?_) hst
    obtain rfl := Option.some.inj (hkept.symm.trans hw')
    exact ⟨hnull, hrequired⟩

/-- **A field that is given nothing** and has no default is left out. -/
theorem set_omits (hm : m.Registered) (hf : f ∈ m.fields) (hdefault : f.default = none)
    (hnothing : ∀ cell ∈ cells, m.field? cell.1 ≠ some f) (h : (Insert.new m).set cells = .ok q)
    {d : Dialect} {st : Statement} (hst : q.statement d = .ok st) : q.Omits d f := by
  obtain ⟨values, rfl, hrow, hget⟩ := set_ok hm h
  have hwrites : cells.filterMap (Record.assigned? m f.name) = [] := by
    refine List.eq_nil_iff_forall_not_mem.2 fun w hw => ?_
    obtain ⟨cell, hcell, g, hg, hname, -⟩ := Record.of_mem_assignedTo hw
    refine hnothing cell hcell ?_
    rw [hg, Model.eq_of_name hm.fieldNames_nodup (Model.mem_of_field? hg) hf hname]
  have hnone : ∀ w, values.get? f.name ≠ some w := by
    intro w hw
    rw [hget, hwrites] at hw
    obtain ⟨g, hg, hname, hgiven⟩ := (Model.get?_defaults_iff hm.fieldNames_nodup).1 hw
    obtain rfl := Model.eq_of_name hm.fieldNames_nodup hg hf hname
    rw [hdefault] at hgiven
    cases hgiven
  exact omits_of_written (column_ne_of_written hm hf hrow fun w hw => absurd hw (hnone w)) hst

end Insert

end RecordMapper
