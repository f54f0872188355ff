/-
  RecordMapper.Proofs.Record.Labels
  ────────────────────────────────
  **READING A ROW BY LABEL AND BY PLACE.**

  The cells of a row stand in the order of the selected fields, and each is labelled with
  the display name of its field, or else with its column.  A row that is read as one record
  goes by the labels, a row that is read as related records goes by the places.  The two
  are meant to agree on the record of the root.  But a label may stand for another field of
  the root than its own: names of fields come before columns, and columns before display
  names, and a field of a joined model may have the label of a field of the root.

  Main result: `readings_agree_iff`.  A select whose labels tell the fields of its root apart
  reads alike both ways, but for the foreign keys that a joined record overwrites; and a
  select whose labels do not has a row that it reads in two ways.
-/
import Mathlib.Data.List.Basic
import RecordMapper.Proofs.Record.Faithful

namespace RecordMapper

/-! ## §1. Labels. -/

/-- **The label of a selected field**: its display name, or else its column. -/
def Field.label (f : Field) : String :=
  f.displayName.getD f.column

namespace Select

/-- The labels of the rows that a select yields. -/
def labels (q : Select) : List String :=
  q.outputFields.map Field.label

/-- The label of the field `f` stands for the field `g` of the root. -/
def standsFor (q : Select) (g f : Field) : Bool :=
  Record.labelled? q.model f.label == some g

/-- **The labels tell the fields of the root apart**: of the selected fields whose label
stands for a field of the root that is selected, the last is this field itself. -/
def LabelsTell (q : Select) : Prop :=
  ∀ g ∈ q.outputFields, g.model = q.model.name →
    (q.outputFields.filter (q.standsFor g)).getLast? = some g

instance (q : Select) : Decidable q.LabelsTell :=
  inferInstanceAs (Decidable (∀ g ∈ q.outputFields, g.model = q.model.name →
    (q.outputFields.filter (q.standsFor g)).getLast? = some g))

/-- **Names tell the models apart**: no model is reached by two relations, and a selected
field that is named for a model belongs to it. -/
structure Distinct (q : Select) : Prop where
  models : (q.model.reach.map (·.name)).Nodup
  fields : ∀ m ∈ q.model.reach, ∀ f ∈ q.outputFields, f.model = m.name → f ∈ m.fields

instance (q : Select) : Decidable q.Distinct :=
  decidable_of_iff ((q.model.reach.map (·.name)).Nodup
      ∧ ∀ m ∈ q.model.reach, ∀ f ∈ q.outputFields, f.model = m.name → f ∈ m.fields)
    ⟨fun h => ⟨h.1, h.2⟩, fun h => ⟨h.1, h.2⟩⟩

/-! ## §2. Rows. -/

/-- **A row of the select**: it has a value for every selected field, and each converts. -/
structure Yields (q : Select) (row : List Value) : Prop where
  length : row.length = q.outputFields.length
  converts : ∀ cell ∈ q.outputFields.zip row, ∃ w, cell.1.toApplication cell.2 = .ok w

/-- The values also convert to the fields of the root that their labels stand for. -/
def LabelsConvert (q : Select) (row : List Value) : Prop :=
  ∀ cell ∈ q.outputFields.zip row, ∀ g, Record.labelled? q.model cell.1.label = some g →
    ∃ w, g.toApplication cell.2 = .ok w

instance (q : Select) (row : List Value) : Decidable (q.LabelsConvert row) :=
  inferInstanceAs (Decidable (∀ cell ∈ q.outputFields.zip row,
    ∀ g ∈ Record.labelled? q.model cell.1.label, ∃ w, g.toApplication cell.2 = .ok w))

instance (q : Select) (row : List Value) : Decidable (q.Yields row) :=
  decidable_of_iff (row.length = q.outputFields.length
      ∧ ∀ cell ∈ q.outputFields.zip row, ∃ w, cell.1.toApplication cell.2 = .ok w)
    ⟨fun h => ⟨h.1, h.2⟩, fun h => ⟨h.1, h.2⟩⟩

/-- **The joined records repeat the foreign keys**: what the relations of the root write to
a selected field is what the row has for it. -/
def Repeats (q : Select) (row : List Value) : Prop :=
  ∀ g ∈ q.outputFields, g.model = q.model.name → ∀ v,
    (Cells.writes.related (Cells.ofRow q.outputFields row) q.model g.name
      q.model.relations).getLast? = some v →
    ((q.outputFields.zip row).filterMap (Cells.written? q.model g.name)).getLast? = some v

instance (q : Select) (row : List Value) : Decidable (q.Repeats row) :=
  inferInstanceAs (Decidable (∀ g ∈ q.outputFields, g.model = q.model.name →
    ∀ v ∈ (Cells.writes.related (Cells.ofRow q.outputFields row) q.model g.name
      q.model.relations).getLast?,
      ((q.outputFields.zip row).filterMap (Cells.written? q.model g.name)).getLast? = some v))

/-- **The two readings of a row agree**: both succeed, and the records hold the same in
every field of the root that is selected. -/
def ReadingsAgree (q : Select) (source : Handle) (cursor : Cursor) (row : List Value) : Prop :=
  ∃ plain graph,
    (Result.new q.model source cursor true q.outputFields).materialize q.labels row = .ok plain
      ∧ (Result.new q.model source cursor false q.outputFields).materialize q.labels row = .ok graph
      ∧ ∀ g ∈ q.outputFields, g.model = q.model.name → plain.get? g.name = graph.get? g.name

end Select

/-! ## §3. What picked cells write. -/

namespace Cells

variable {g : Field} {p : Field → Bool} {cells : List (Field × Value)}

/-- **What the cells write to a field** that are picked by their fields. -/
def picked (g : Field) (p : Field → Bool) (cells : List (Field × Value)) : List Value :=
  (cells.filter fun cell => p cell.1).filterMap fun cell => (g.toApplication cell.2).toOption

/-- The last cell that is picked is written last. -/
theorem picked_getLast? {f : Field} {v w : Value}
    (hlast : (cells.filter fun cell => p cell.1).getLast? = some (f, v))
    (hw : g.toApplication v = .ok w) : (picked g p cells).getLast? = some w := by
  obtain ⟨front, hfront⟩ := List.getLast?_eq_some_iff.1 hlast
  unfold picked
  rw [hfront, List.filterMap_append, List.filterMap_cons_some (by rw [hw]; rfl)]
  exact List.getLast?_concat

/-- A last cell that is picked is the last of those that are picked among them. -/
theorem getLast?_filter_of_getLast? {l : List (Field × Value)} {q : Field × Value → Bool}
    {cell : Field × Value} (hlast : l.getLast? = some cell) (hq : q cell = true) :
    (l.filter q).getLast? = some cell := by
  obtain ⟨front, rfl⟩ := List.getLast?_eq_some_iff.1 hlast
  rw [List.filter_append, List.filter_cons_of_pos hq]
  exact List.getLast?_concat

/-- **Where the last field that is picked is `g`**, the last cell that is picked is the last
cell of `g`. -/
theorem last_picked (cells : List (Field × Value)) (hp : p g = true)
    (hlast : ((cells.map (·.1)).filter p).getLast? = some g) :
    ∃ v, (cells.filter fun cell => p cell.1).getLast? = some (g, v)
      ∧ (cells.filter fun cell => cell.1 = g).getLast? = some (g, v) := by
  rw [List.filter_map, List.getLast?_map] at hlast
  obtain ⟨⟨f, v⟩, hcell, rfl⟩ := Option.map_eq_some_iff.1 hlast
  refine ⟨v, hcell, ?_⟩
  -- The cells of `g` are among those that are picked.
  have hamong : (cells.filter fun cell => decide (cell.1 = f))
      = (cells.filter fun cell => p cell.1).filter fun cell => decide (cell.1 = f) := by
    rw [List.filter_filter]
    refine List.filter_congr fun cell _ => ?_
    by_cases hf : cell.1 = f
    · simp [hf, hp]
    · simp [hf]
  rw [hamong]
  exact getLast?_filter_of_getLast? hcell (decide_eq_true rfl)

end Cells

/-! ## §4. The two readings. -/

namespace Select

variable {q : Select} {row : List Value} {g : Field} {r : Record}

/-- The cells of a row under their labels. -/
theorem labels_zip (q : Select) (row : List Value) :
    q.labels.zip row = (q.outputFields.zip row).map fun cell => (cell.1.label, cell.2) :=
  List.zip_map_left

/-- What is read by label into a field of the root are the cells whose label stands for it. -/
theorem filterMap_labels (hnodup : q.model.fieldNames.Nodup) (hg : g ∈ q.model.fields) :
    (q.labels.zip row).filterMap (Record.read? q.model g.name)
      = Cells.picked g (q.standsFor g) (q.outputFields.zip row) := by
  rw [labels_zip, List.filterMap_map]
  unfold Cells.picked
  rw [List.filterMap_filter]
  congr 1
  funext cell
  show (Record.labelled? q.model cell.1.label).bind _ = _
  unfold standsFor
  cases hlabel : Record.labelled? q.model cell.1.label with
  | none => rfl
  | some f =>
      rw [Option.bind_some]
      by_cases hsame : f = g
      · subst hsame
        rw [if_pos rfl, if_pos (beq_self_eq_true _)]
      · have hname : f.name ≠ g.name := fun hname =>
          hsame (Model.eq_of_name hnodup (Record.mem_of_labelled? hlabel) hg hname)
        rw [if_neg hname, if_neg (by simpa using hsame)]

/-- What is read by place into a field of the root are its own cells. -/
theorem filterMap_places (hmodel : q.model.Registered) (hdistinct : q.Distinct)
    (hg : g ∈ q.model.fields) :
    (q.outputFields.zip row).filterMap (Cells.written? q.model g.name)
      = Cells.picked g (fun f => f = g) (q.outputFields.zip row) := by
  unfold Cells.picked
  rw [List.filterMap_filter]
  refine List.filterMap_congr fun cell hcell => ?_
  have hselected : cell.1 ∈ q.outputFields := (List.of_mem_zip hcell).1
  unfold Cells.written? Record.read?
  by_cases hroot : cell.1.model = q.model.name
  · have hmem := hdistinct.fields q.model q.model.mem_reach_self cell.1 hselected hroot
    rw [if_pos hroot, Record.labelled?_name hmodel.fieldNames_nodup hmem, Option.bind_some]
    by_cases hsame : cell.1 = g
    · rw [if_pos (congrArg (·.name) hsame), if_pos (decide_eq_true hsame), hsame]
    · have hname : cell.1.name ≠ g.name := fun hname =>
        hsame (Model.eq_of_name hmodel.fieldNames_nodup hmem hg hname)
      rw [if_neg hname, if_neg (by simpa using hsame)]
  · have hsame : cell.1 ≠ g := fun hsame => hroot (hsame ▸ hmodel.field_model hg)
    rw [if_neg hroot, if_neg (by simpa using hsame)]

/-- **A record read by label** holds in each field of the root what the last cell wrote whose
label stands for it, or else the default. -/
theorem plain_get? (hnodup : q.model.fieldNames.Nodup) (hg : g ∈ q.model.fields)
    (h : Record.load q.model (q.labels.zip row) = .ok r) :
    ∃ b, Record.blank q.model = .ok b
      ∧ r.get? g.name = lastOr (Cells.picked g (q.standsFor g) (q.outputFields.zip row))
        (b.values.get? g.name) := by
  obtain ⟨b, hb, hmodel, hvalues⟩ := Record.load_get? hnodup h
  refine ⟨b, hb, ?_⟩
  unfold Record.get?
  rw [hmodel, Model.field?_name hnodup hg, Option.bind_some, hvalues, filterMap_labels hnodup hg]

/-- **A record read by place** holds in each field of the root what the relations wrote, or
else what its last own cell wrote. -/
theorem graph_get? (hmodel : q.model.Registered) (hg : g ∈ q.model.fields)
    (h : Record.assemble (Cells.ofRow q.outputFields row) q.model = .ok r) {w : Value}
    (hlast : ((q.outputFields.zip row).filterMap (Cells.written? q.model g.name)).getLast?
      = some w) :
    r.get? g.name = lastOr (Cells.writes.related (Cells.ofRow q.outputFields row) q.model g.name
      q.model.relations) (some w) := by
  rw [(Record.assemble_get? hmodel h).get?, Cells.value?,
    Model.field?_name hmodel.fieldNames_nodup hg, Option.bind_some, Cells.writes_eq,
    Cells.filterMap_ofRow, ← lastOr.to_none, lastOr.append, lastOr.append]
  congr 1
  unfold lastOr
  rw [hlast]
  rfl

/-- The values of a row convert in every model that the root reaches. -/
theorem Yields.rowConverts (h : q.Yields row) (hmodel : q.model.Registered)
    (hdistinct : q.Distinct) : q.RowConverts row := by
  intro m hm cell hcell hnamed f hf
  have hmem := hdistinct.fields m hm cell.1 (List.of_mem_zip hcell).1 hnamed
  rw [Record.labelled?_name (hmodel.reached m hm).fieldNames_nodup hmem] at hf
  obtain rfl := Option.some.inj hf
  exact h.converts cell hcell

/-- **A row can be read by label** exactly when its values convert to the fields that the
labels stand for. -/
theorem plain_total_iff (hnodup : q.model.fieldNames.Nodup) (hdefaults : q.model.DefaultsConvert)
    (row : List Value) :
    (∃ r, Record.load q.model (q.labels.zip row) = .ok r) ↔ q.LabelsConvert row := by
  rw [labels_zip]
  constructor
  · rintro ⟨r, h⟩ cell hcell g hg
    exact Record.load_converts hnodup h _ (List.mem_map.2 ⟨cell, hcell, rfl⟩) g hg
  · intro h
    refine Record.load_total hnodup hdefaults ?_
    intro cell hcell f hf
    obtain ⟨source, hsource, rfl⟩ := List.mem_map.1 hcell
    exact h source hsource f hf

/-! ## §5. Labels that tell the fields apart. -/

/-- **Where labels tell**, the last cell whose label stands for a field of the root is the last
own cell of it. -/
theorem LabelsTell.last (htell : q.LabelsTell) (hmodel : q.model.Registered)
    (hdistinct : q.Distinct) (hrow : q.Yields row) (hg : g ∈ q.outputFields)
    (hroot : g.model = q.model.name) :
    ∃ w, (Cells.picked g (q.standsFor g) (q.outputFields.zip row)).getLast? = some w
      ∧ ((q.outputFields.zip row).filterMap (Cells.written? q.model g.name)).getLast? = some w := by
  have hmem := hdistinct.fields q.model q.model.mem_reach_self g hg hroot
  have hstands : q.standsFor g g = true :=
    (List.mem_filter.1 (List.mem_of_getLast? (htell g hg hroot))).2
  have hfields : (q.outputFields.zip row).map (·.1) = q.outputFields :=
    List.map_fst_zip (Nat.le_of_eq hrow.length.symm)
  obtain ⟨v, hlabelled, hown⟩ := Cells.last_picked (q.outputFields.zip row) hstands
    (hfields.symm ▸ htell g hg hroot)
  obtain ⟨w, hw⟩ := hrow.converts (g, v) (List.mem_filter.1 (List.mem_of_getLast? hown)).1
  refine ⟨w, Cells.picked_getLast? hlabelled hw, ?_⟩
  rw [filterMap_places hmodel hdistinct hmem]
  exact Cells.picked_getLast? hown hw

/-- **The two records hold the same in a field** whose last cell is the same for both readings
exactly when the relations write nothing else to it. -/
theorem same_value_iff (hmodel : q.model.Registered) (hg : g ∈ q.model.fields)
    {plain graph : Record} {w : Value} (hplain : Record.load q.model (q.labels.zip row) = .ok plain)
    (hgraph : Record.assemble (Cells.ofRow q.outputFields row) q.model = .ok graph)
    (hlabelled : (Cells.picked g (q.standsFor g) (q.outputFields.zip row)).getLast? = some w)
    (hown : ((q.outputFields.zip row).filterMap (Cells.written? q.model g.name)).getLast?
      = some w) :
    plain.get? g.name = graph.get? g.name
      ↔ ∀ u, (Cells.writes.related (Cells.ofRow q.outputFields row) q.model g.name
        q.model.relations).getLast? = some u → u = w := by
  obtain ⟨b, -, hvalue⟩ := plain_get? hmodel.fieldNames_nodup hg hplain
  unfold lastOr at hvalue
  rw [hlabelled, Option.some_or] at hvalue
  rw [hvalue, graph_get? hmodel hg hgraph hown, eq_comm]
  exact lastOr.some_iff _ _

/-- **A select whose labels tell the fields of its root apart** reads a row alike both ways
when its values convert to the fields that the labels stand for and the joined records repeat
the foreign keys. -/
theorem LabelsTell.agree_iff (htell : q.LabelsTell) (hmodel : q.model.Registered)
    (hdefaults : ∀ m ∈ q.model.reach, m.DefaultsConvert) (hdistinct : q.Distinct)
    (source : Handle) (cursor : Cursor) (hrow : q.Yields row) :
    q.ReadingsAgree source cursor row ↔ q.LabelsConvert row ∧ q.Repeats row := by
  have hself := q.model.mem_reach_self
  have htotal := plain_total_iff hmodel.fieldNames_nodup (hdefaults q.model hself) row
  constructor
  · rintro ⟨plain, graph, hplain, hgraph, hsame⟩
    refine ⟨htotal.1 ⟨plain, hplain⟩, fun g hg hroot v hv => ?_⟩
    have hmem := hdistinct.fields q.model hself g hg hroot
    obtain ⟨w, hlabelled, hown⟩ := htell.last hmodel hdistinct hrow hg hroot
    rw [hown, (same_value_iff hmodel hmem hplain hgraph hlabelled hown).1 (hsame g hg hroot) v hv]
  · rintro ⟨hconvert, hrepeats⟩
    obtain ⟨plain, hplain⟩ := htotal.2 hconvert
    obtain ⟨graph, hgraph⟩ := Record.assemble_total hmodel hdefaults fun m hm =>
      (hrow.rowConverts hmodel hdistinct).convert hm
    refine ⟨plain, graph, hplain, hgraph, fun g hg hroot => ?_⟩
    have hmem := hdistinct.fields q.model hself g hg hroot
    obtain ⟨w, hlabelled, hown⟩ := htell.last hmodel hdistinct hrow hg hroot
    refine (same_value_iff hmodel hmem hplain hgraph hlabelled hown).2 fun u hu => ?_
    exact Option.some.inj ((hrepeats g hg hroot u hu).symm.trans hown)

end Select

/-! ## §6. Labels that do not. -/

/-- NULL converts for every field. -/
theorem Attribute.toApplication_null (a : Attribute) : a.toApplication .null = .ok a.kind.absent :=
  rfl

/-- **Zero converts for every field**, and not to what NULL reads as. -/
theorem Attribute.toApplication_zero (a : Attribute) :
    ∃ w, a.toApplication (.int64 (some 0)) = .ok w ∧ w ≠ a.kind.absent := by
  have hkind : ∃ w, a.kind.toApplication (.int64 (some 0)) = .ok w ∧ w ≠ a.kind.absent := by
    cases a.kind with
    | char length | varchar length =>
        have hzero : Value.varchar (some (toString (Int64.toInt 0))) ≠ .varchar (some "") := by
          decide +kernel
        exact ⟨_, rfl, hzero⟩
    | _ => exact ⟨_, rfl, by decide +kernel⟩
  obtain ⟨w, hw, hne⟩ := hkind
  refine ⟨w, ?_, hne⟩
  unfold toApplication
  rw [hw]
  rfl

/-- Relations whose models are not matched write nothing. -/
theorem Cells.related_unmatched {cells : Cells} {m : Model} {name : String} :
    ∀ {relations : List (String × Model)},
      (∀ relation ∈ relations, cells.matched? relation.2 = none) →
        writes.related cells m name relations = []
  | [], _ => by rw [writes.related]
  | (field, other) :: rest, h => by
      rw [writes.related, h (field, other) List.mem_cons_self]
      exact related_unmatched fun relation hmem => h relation (List.mem_cons_of_mem _ hmem)

namespace Select

variable {q : Select} {g : Field} {x w : Value}

/-- **The row that has a value for one field only**, and is NULL everywhere else. -/
def lone (q : Select) (g : Field) (x : Value) : List Value :=
  q.outputFields.map fun f => if f = g then x else .null

theorem lone_zip (q : Select) (g : Field) (x : Value) :
    q.outputFields.zip (q.lone g x)
      = q.outputFields.map fun f => (f, if f = g then x else .null) := by
  unfold lone
  generalize q.outputFields = fields
  induction fields with
  | nil => rfl
  | cons f fields ih => rw [List.map_cons, List.zip_cons_cons, ih, List.map_cons]

/-- The cells of such a row are NULL but for those of its field. -/
theorem mem_lone {cell : Field × Value} (h : cell ∈ q.outputFields.zip (q.lone g x)) :
    cell.1 = g ∧ cell.2 = x ∨ cell.1 ≠ g ∧ cell.2 = .null := by
  rw [lone_zip] at h
  obtain ⟨f, -, rfl⟩ := List.mem_map.1 h
  by_cases hf : f = g
  · exact .inl ⟨hf, if_pos hf⟩
  · exact .inr ⟨hf, if_neg hf⟩

/-- Such a row is one of the select, and joins nothing, when its value converts for every
field. -/
theorem lone_row (hx : ∀ a : Attribute, ∃ w, a.toApplication x = .ok w) (hdistinct : q.Distinct)
    (hroot : g.model = q.model.name) :
    q.Yields (q.lone g x) ∧ q.LabelsConvert (q.lone g x)
      ∧ ∀ name, Cells.writes.related (Cells.ofRow q.outputFields (q.lone g x)) q.model name
        q.model.relations = [] := by
  have hconverts : ∀ cell ∈ q.outputFields.zip (q.lone g x), ∀ a : Attribute,
      ∃ w, a.toApplication cell.2 = .ok w := by
    intro cell hcell a
    rcases mem_lone hcell with ⟨-, hvalue⟩ | ⟨-, hvalue⟩
    · rw [hvalue]
      exact hx a
    · rw [hvalue]
      exact ⟨_, a.toApplication_null⟩
  refine ⟨⟨List.length_map .., fun cell hcell => hconverts cell hcell _⟩,
    fun cell hcell f _ => hconverts cell hcell _, fun name => ?_⟩
  refine Cells.related_unmatched fun relation hrelation => ?_
  have hname := Model.related_name_ne hdistinct.models hrelation
  unfold Cells.matched?
  rw [Option.filter_eq_none_iff]
  intro cells hcells
  have hofRow := Cells.get?_ofRow q.outputFields (q.lone g x) relation.2.name
  rw [hcells, Option.getD_some] at hofRow
  -- The cells of another model are NULL.
  have hnull : cells.all (·.2.isNull) = true := by
    rw [List.all_eq_true, hofRow]
    intro pair hpair
    obtain ⟨cell, hcell, rfl⟩ := List.mem_map.1 hpair
    obtain ⟨hmem, hother⟩ := List.mem_filter.1 hcell
    rcases mem_lone hmem with ⟨hsame, -⟩ | ⟨-, hvalue⟩
    · exact absurd ((of_decide_eq_true hother).symm.trans (hsame ▸ hroot)) hname
    · rw [hvalue]
      rfl
  simp [hnull]

/-- The last own cell of the field has its value. -/
theorem lone_places (hmodel : q.model.Registered) (hdistinct : q.Distinct)
    (hg : g ∈ q.outputFields) (hroot : g.model = q.model.name) (hw : g.toApplication x = .ok w) :
    ((q.outputFields.zip (q.lone g x)).filterMap (Cells.written? q.model g.name)).getLast?
      = some w := by
  have hmem := hdistinct.fields q.model q.model.mem_reach_self g hg hroot
  rw [filterMap_places hmodel hdistinct hmem]
  have hlast : ((q.outputFields.zip (q.lone g x)).filter fun cell => cell.1 = g).getLast?
      = some (g, x) := by
    rw [lone_zip, List.filter_map, List.getLast?_map]
    show ((q.outputFields.filter fun f => decide (f = g)).getLast?).map _ = _
    cases hown : (q.outputFields.filter fun f => decide (f = g)).getLast? with
    | none =>
        have hempty := List.getLast?_eq_none_iff.1 hown
        exact absurd (List.filter_eq_nil_iff.1 hempty g hg) (by simp)
    | some f =>
        obtain rfl : f = g := by
          simpa using (List.mem_filter.1 (List.mem_of_getLast? hown)).2
        exact congrArg (fun v => some (f, v)) (if_pos rfl)
  exact Cells.picked_getLast? hlast hw

/-- **Where labels do not tell**, what is read by label into the field does not depend on the
value that the row has for it. -/
theorem lone_labels (hlast : (q.outputFields.filter (q.standsFor g)).getLast? ≠ some g) :
    (Cells.picked g (q.standsFor g) (q.outputFields.zip (q.lone g x))).getLast?
      = (Cells.picked g (q.standsFor g) (q.outputFields.zip (q.lone g .null))).getLast? := by
  -- Whatever the row has for the field, the last cell that is picked is NULL, if there is one.
  have hpicked : ∀ v : Value,
      (Cells.picked g (q.standsFor g) (q.outputFields.zip (q.lone g v))).getLast?
        = (q.outputFields.filter (q.standsFor g)).getLast?.map fun _ => g.kind.absent := by
    intro v
    have hcells : ((q.outputFields.zip (q.lone g v)).filter fun cell => q.standsFor g cell.1)
        = (q.outputFields.filter (q.standsFor g)).map fun f => (f, if f = g then v else .null) := by
      rw [lone_zip, List.filter_map]
      rfl
    cases hfield : (q.outputFields.filter (q.standsFor g)).getLast? with
    | none =>
        unfold Cells.picked
        rw [hcells, List.getLast?_eq_none_iff.1 hfield]
        rfl
    | some f =>
        have hother : f ≠ g := fun hsame => hlast (hfield.trans (congrArg some hsame))
        refine Cells.picked_getLast? (f := f) (v := .null) ?_ g.toApplication_null
        rw [hcells, List.getLast?_map, hfield]
        exact congrArg (fun v => some (f, v)) (if_neg hother)
  rw [hpicked, hpicked]

/-- **A select whose labels do not tell the fields of its root apart** reads some row in two
ways. -/
theorem labelsTell_of_agree (hmodel : q.model.Registered) (hdistinct : q.Distinct)
    {source : Handle} {cursor : Cursor}
    (h : ∀ row, q.Yields row → q.LabelsConvert row → q.Repeats row →
      q.ReadingsAgree source cursor row) : q.LabelsTell := by
  intro g hg hroot
  by_contra hlast
  have hmem := hdistinct.fields q.model q.model.mem_reach_self g hg hroot
  -- In a row that has a value for `g` only, both readings find it.
  have hread : ∀ {x w : Value}, (∀ a : Attribute, ∃ w, a.toApplication x = .ok w) →
      g.toApplication x = .ok w → ∃ b, Record.blank q.model = .ok b ∧
        lastOr (Cells.picked g (q.standsFor g) (q.outputFields.zip (q.lone g x)))
          (b.values.get? g.name) = some w := by
    intro x w hx hw
    obtain ⟨hyields, hconvert, hunjoined⟩ := lone_row hx hdistinct hroot
    have hrepeats : q.Repeats (q.lone g x) := by
      intro f _ _ v hv
      rw [hunjoined] at hv
      cases hv
    obtain ⟨plain, graph, hplain, hgraph, hsame⟩ := h _ hyields hconvert hrepeats
    obtain ⟨b, hb, hvalue⟩ := plain_get? hmodel.fieldNames_nodup hmem hplain
    refine ⟨b, hb, ?_⟩
    rw [← hvalue, hsame g hg hroot,
      graph_get? hmodel hmem hgraph (lone_places hmodel hdistinct hg hroot hw), hunjoined]
    rfl
  obtain ⟨w, hzero, hne⟩ := g.toAttribute.toApplication_zero
  obtain ⟨b, hb, hnullRead⟩ := hread (fun a => ⟨_, a.toApplication_null⟩) g.toApplication_null
  obtain ⟨b', hb', hzeroRead⟩ := hread (fun a => (a.toApplication_zero).imp fun _ h => h.1) hzero
  obtain rfl := Except.ok.inj (hb.symm.trans hb')
  unfold lastOr at hnullRead hzeroRead
  rw [lone_labels hlast, hnullRead] at hzeroRead
  exact hne (Option.some.inj hzeroRead).symm

/-- **When reading by label and reading by place agree.** -/
theorem readings_agree_iff (hmodel : q.model.Registered)
    (hdefaults : ∀ m ∈ q.model.reach, m.DefaultsConvert) (hdistinct : q.Distinct)
    (source : Handle) (cursor : Cursor) :
    (∀ row, q.Yields row →
      (q.ReadingsAgree source cursor row ↔ q.LabelsConvert row ∧ q.Repeats row)) ↔ q.LabelsTell :=
  ⟨fun h => labelsTell_of_agree hmodel hdistinct fun row hrow hconvert hrepeats =>
      (h row hrow).2 ⟨hconvert, hrepeats⟩,
    fun htell _ hrow => htell.agree_iff hmodel hdefaults hdistinct source cursor hrow⟩

end Select

/-- The number of a joined author has the label of the number of the book. -/
example : ¬ Sample.booksWithAuthors.LabelsTell := by decide +kernel

/-! ## §7. Reports. -/

namespace Sample

/-- The primary key of a report. -/
def reportId : Field := { field "Report" "report" "id" .integer 9 with primary := true }

/-- The heading of a report, whose column is named like the field behind it. -/
def reportHeading : Field :=
  { field "Report" "report" "heading" (.varchar 80) 10 with column := "title" }

def reportTitle : Field :=
  { field "Report" "report" "title" (.varchar 80) 11 with column := "subtitle" }

/-- The author of a report. -/
def reportAuthor : Field :=
  { field "Report" "report" "author_id" .integer 12 with
    foreignKey := some ⟨"Author", authorId.toAttribute, "author", "reports"⟩ }

/-- **Reports.** -/
def report : Model where
  id := 3
  name := "Report"
  table := "report"
  database := none
  autoIncrement := false
  ordering := []
  orderingNames := []
  fields := [reportId, reportHeading, reportTitle, reportAuthor]
  primaryKey := reportId
  relations := [("author_id", author)]

/-- The declarations of a report. -/
def reportPlan : Blueprint :=
  { Blueprint.named "Report" with
    fields := [("id", { Definition.ofKind 9 .integer with primary := true }),
      ("heading", (Definition.ofKind 10 (.varchar 80)).withColumn "title"),
      ("title", (Definition.ofKind 11 (.varchar 80)).withColumn "subtitle"),
      ("author_id", { Definition.referring 12 author authorId with
        reference := some ⟨author, authorId.toAttribute, some "author", some "reports"⟩ })] }

theorem report_built : reportPlan.build 3 = .ok report := rfl

theorem report_registered : report.Registered := by
  refine .mk report_built fun relation h => ?_
  obtain rfl := List.mem_singleton.1 h
  exact author_registered

/-- The titles of reports with the names of their authors. -/
def titlesWithAuthors : Select :=
  { Select.new report with
    joined := [(author, [⟨.inner, reportAuthor.toAttribute, authorId.toAttribute⟩])]
    aliases := [("Report", "t1"), ("Author", "t2")]
    fields := [reportId, reportTitle, reportAuthor, authorName] }

/-- The row of a report, which names its columns in their order. -/
def tides : List Value :=
  [int 1, text "Tides", text "A report", int 7]

end Sample

open Sample in
/-- Where the headings are left out, the labels tell the fields apart. -/
theorem titles_read_alike : titlesWithAuthors.LabelsTell
    ∧ titlesWithAuthors.ReadingsAgree ⟨0⟩ ⟨0, [], [], none, 0⟩
      [int 1, text "A report", int 7, text "Ann"] := by
  have htell : titlesWithAuthors.LabelsTell := by decide +kernel
  have hagree := (Select.readings_agree_iff (q := titlesWithAuthors) report_registered
    (by decide +kernel) (by decide +kernel) ⟨0⟩ ⟨0, [], [], none, 0⟩).2 htell
  exact ⟨htell, (hagree _ (by decide +kernel)).2 ⟨by decide +kernel, by decide +kernel⟩⟩

open Sample in
/-- **Not every row reads alike both ways**: read by label, a report loses its heading to the
title. -/
theorem not_every_row_reads_alike :
    ¬ ∀ (q : Select) (passed : List Condition), q.Built passed → q.model.Registered →
      (∀ m ∈ q.model.reach, m.DefaultsConvert) → q.Distinct →
        ∀ (source : Handle) (cursor : Cursor) (row : List Value), q.Yields row →
          q.ReadingsAgree source cursor row := by
  intro hagree
  obtain ⟨plain, graph, hplain, hgraph, hsame⟩ := hagree (Select.new report) [] (.bare report)
    report_registered (by decide +kernel) (by decide +kernel) ⟨0⟩ ⟨0, [], [], none, 0⟩ tides
    (by decide +kernel)
  have hlost : (Record.load report ((Select.new report).labels.zip tides)).toOption.map
      (·.get? "heading") = some none := by
    decide +kernel
  have hkept : (Record.assemble (Cells.ofRow report.fields tides) report).toOption.map
      (·.get? "heading") = some (some (text "Tides")) := by
    decide +kernel
  replace hplain : Record.load report ((Select.new report).labels.zip tides) = .ok plain := hplain
  replace hgraph : Record.assemble (Cells.ofRow report.fields tides) report = .ok graph := hgraph
  rw [hplain] at hlost
  rw [hgraph] at hkept
  have hheading : plain.get? "heading" = graph.get? "heading" :=
    hsame reportHeading (by decide +kernel) rfl
  exact absurd ((Option.some.inj hlost).symm.trans (hheading.trans (Option.some.inj hkept))) nofun

end RecordMapper
