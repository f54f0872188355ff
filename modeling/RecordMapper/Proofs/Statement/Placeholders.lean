/-
  RecordMapper.Proofs.Statement.Placeholders
  ────────────────────────────────
  **EVERY PLACEHOLDER STANDS FOR ITS PARAMETER.**

  A database binds the first parameter to the first placeholder in the text, the
  second to the second, and so on.  Text and parameters are made apart from one
  another, so that this order is kept has to be proved: for every query of one
  row or one condition, whatever is nested in it, the marks in its text are those
  of the numbers from 0 on, one for each parameter; and the draft of the query
  says which value each of them stands for.

  Main result: `placeholders_stand_for_parameters`.
-/
import RecordMapper.Proofs.Sample
import RecordMapper.Proofs.Statement.Draft
import RecordMapper.Proofs.Statement.Legible

namespace RecordMapper

/-! ## §1. Drafts of inserts, updates and deletions. -/

/-- **Values assigned in a clause**, in order: none of them is compared. -/
def Bound.ofCells (clause : Clause) (cells : List (Field × Value)) : List Bound :=
  cells.map fun (field, v) => ⟨clause, field.toAttribute, none, v⟩

/-- The draft of an insert of one row. -/
def Insert.rowDraft (q : Insert) (values : Keyed Value) (d : Dialect) : Sql Bound :=
  let cells := written q.model values
  d.insertWithKey q.model.table (columnsSql (cells.map (·.1)))
    (Sql.joined ", " ((Bound.ofCells .insertInto cells).map fun b => [b.token d]))
    q.model.primaryKey.column

/-- One drafted assignment. -/
def Update.assignmentDraft (d : Dialect) (b : Bound) : Sql Bound :=
  d.operation .eq ((setting d).column b.field) [[b.token d]]

/-- The draft of an update: its assignments, then its condition. -/
def Update.draft (q : Update) (d : Dialect) : Sql Bound :=
  Dialect.update q.model.table
    (Sql.joined ", " ((Bound.ofCells .updateSet q.assigned).map (assignmentDraft d)))
    (((setting d).inClause .updateWhere).whereDraft q.filter)

/-- The draft of a deletion. -/
def Delete.draft (q : Delete) (d : Dialect) : Sql Bound :=
  Dialect.delete q.model.table ((⟨d, [], ⟨.deleteWhere, false⟩⟩ : Setting).whereDraft q.filter)

/-- The names that an insert of one row writes. -/
def Insert.names (q : Insert) : List String :=
  q.model.table :: q.model.primaryKey.column
    :: (written q.model q.rowValues).map (·.1.column)

/-- The names that an update writes. -/
def Update.names (q : Update) : List String :=
  q.model.table :: q.assigned.map (·.1.column) ++ Condition.namesOfAll q.filter

/-- The names that a deletion writes. -/
def Delete.names (q : Delete) : List String :=
  q.model.table :: Condition.namesOfAll q.filter

namespace Query

/-- **The draft of a query.**  A raw statement has none, and an insert of many rows
is one statement for all of them. -/
def draft? (d : Dialect) : Query → Option (Sql Bound)
  | .select q => some (q.draft d q.outputFields)
  | .insert ⟨model, .row values⟩ => some (Insert.rowDraft ⟨model, .row values⟩ values d)
  | .insert ⟨_, .bulk _ _⟩ => none
  | .update q => some (q.draft d)
  | .delete q => some (q.draft d)
  | .raw _ => none

/-- Every list that is compared is one that its operator writes whole. -/
def fits : Query → Bool
  | .select q => q.fits
  | .update q => Condition.fitsAll q.filter
  | .delete q => Condition.fitsAll q.filter
  | .insert _ | .raw _ => true

/-- **The names that a query writes**: tables, columns, aliases, display names. -/
def names : Query → List String
  | .select q => q.names q.outputFields
  | .insert q => q.names
  | .update q => q.names
  | .delete q => q.names
  | .raw _ => []

end Query

/-! ## §2. Values that are assigned. -/

section

variable {d : Dialect} {clause : Clause}

/-- Assigned values are bound in storage form. -/
theorem Bound.ofCells_parameters {store : Field → Value → Except Failure Value}
    (hstore : ∀ {f v stored}, store f v = .ok stored → f.toStorage v = .ok stored) :
    ∀ {cells : List (Field × Value)} {ps : List Value},
      cells.mapM (fun (f, v) => store f v) = .ok ps →
      (Bound.ofCells clause cells).mapM (Bound.parameter d) = .ok ps
  | [], ps, h => h
  | (f, v) :: cells, ps, h => by
      obtain ⟨p, rest, hp, hrest, rfl⟩ := mapM_cons_ok.1 h
      refine mapM_cons_ok.2 ⟨p, rest, ?_, ofCells_parameters hstore hrest, rfl⟩
      exact bind_ok.2 ⟨p, hstore hp, rfl⟩

theorem Bound.slots_ofCells (cells : List (Field × Value)) :
    ((Bound.ofCells clause cells).map fun b => [b.token d]).flatMap Sql.slots = Bound.ofCells clause cells := by
  rw [List.flatMap_map]
  exact List.flatMap_singleton' _

theorem Update.slots_assignmentDraft (b : Bound) : (assignmentDraft d b).slots = [b] := by
  unfold assignmentDraft Setting.column Dialect.column
  rw [Dialect.slots_operation _ _ _ _ rfl]
  rfl

theorem Update.numbered_assignmentDraft (b : Bound) (k : Nat) (hb : b.clause = .updateSet) :
    (assignmentDraft d b).numbered d k
      = d.operation .eq ((setting d).column b.field) [[d.slot .updateSet k]] := by
  unfold assignmentDraft Setting.column Dialect.column
  rw [Dialect.numbered_operation, ← hb]
  rfl

/-- Drafted assignments have the placeholders of their values. -/
theorem Update.slots_assignments (bounds : List Bound) :
    (Sql.joined ", " (bounds.map (assignmentDraft d))).slots = bounds := by
  rw [Sql.slots_joined, List.flatMap_map]
  simp [slots_assignmentDraft]

/-- **The values of an update**: those assigned, then those of its condition. -/
theorem Update.slots_draft (q : Update) :
    (q.draft d).slots = Bound.ofCells .updateSet q.assigned
      ++ (((setting d).inClause .updateWhere).whereDraft q.filter).slots := by
  unfold draft Dialect.update
  rw [Sql.slots_append, Sql.slots_append, slots_assignments, Sql.slots_clause]
  rfl

/-- **Drafted assignments, numbered**, are the assignments to the fields. -/
theorem Update.numbered_assignments : ∀ (cells : List (Field × Value)) (k : Nat),
    Sql.numberedAll d k ((Bound.ofCells .updateSet cells).map (assignmentDraft d))
      = ((cells.map (·.1)).zip ((setting d).slots k cells.length)).map fun (field, slot) =>
          d.operation .eq ((setting d).column field.toAttribute) [slot]
  | [], _ => rfl
  | (f, v) :: cells, k => by
      have ih := numbered_assignments cells (k + 1)
      let b : Bound := ⟨.updateSet, f.toAttribute, none, v⟩
      show Sql.numberedAll d k (assignmentDraft d b
          :: (Bound.ofCells .updateSet cells).map (assignmentDraft d)) = _
      rw [Sql.numberedAll_cons, slots_assignmentDraft, List.length_singleton, ih,
        numbered_assignmentDraft b k rfl]
      rfl

theorem Bound.numbered_ofCells (cells : List (Field × Value)) :
    Sql.numberedAll d 0 ((Bound.ofCells .insertInto cells).map fun b => [b.token d])
      = (Insert.setting d).slots 0 cells.length := by
  unfold Setting.slots
  rw [Sql.numberedAll_tokens d _ .insertInto]
  · unfold Bound.ofCells
    rw [List.length_map]
    rfl
  · intro b hb
    obtain ⟨cell, _, rfl⟩ := List.mem_map.1 hb
    rfl

end

/-! ## §3. Statements are numbered drafts. -/

section

variable {d : Dialect} {st : Statement}

theorem Insert.slots_columnsSql {ι : Type} (fields : List Field) :
    (columnsSql fields : Sql ι).slots = [] :=
  Select.slots_joined_map _ ", " _ _ fun _ _ => rfl

/-- The values of an insert are the values of its row. -/
theorem Insert.slots_rowDraft (q : Insert) (values : Keyed Value) :
    (q.rowDraft values d).slots = Bound.ofCells .insertInto (written q.model values) := by
  unfold rowDraft Dialect.insertWithKey Dialect.insert
  simp only [Sql.slots_append, Sql.slots_lit, slots_columnsSql, Sql.slots_joined, Bound.slots_ofCells,
    List.nil_append, List.append_nil]
  split <;> simp

/-- **An insert of one row is its draft, numbered.** -/
theorem Insert.row_numbered {q : Insert} {values : Keyed Value} (hq : q.data = .row values)
    (h : q.statement d = .ok st) :
    st.sql = (q.rowDraft values d).numbered d 0
      ∧ (q.rowDraft values d).slots.mapM (Bound.parameter d) = .ok st.parameters := by
  obtain ⟨hparams, hsql⟩ := insert_row_ok hq h
  have hnumbered : (columnsSql ((written q.model values).map (·.1))).numbered d 0
      = columnsSql ((written q.model values).map (·.1)) :=
    Select.numbered_joined_map ", " _ _ _ fun _ _ => ⟨rfl, fun _ => rfl⟩
  rw [slots_rowDraft, hsql]
  refine ⟨?_, Bound.ofCells_parameters (fun h => h) hparams⟩
  unfold rowDraft Dialect.insertWithKey Dialect.insert valuesSql
  simp only [Sql.numbered_append, Sql.numbered_lit, hnumbered, Sql.numbered_joined, Sql.slots_append,
    Sql.slots_lit, slots_columnsSql, Bound.numbered_ofCells, List.nil_append, List.length_nil, Nat.add_zero]
  split <;> rfl

/-- **An update is its draft, numbered.** -/
theorem Update.statement_numbered {q : Update} (hfits : Condition.fitsAll q.filter = true)
    (h : q.statement d = .ok st) :
    st.sql = (q.draft d).numbered d 0
      ∧ (q.draft d).slots.mapM (Bound.parameter d) = .ok st.parameters := by
  obtain ⟨ps, w, hps, hw, hsql, hst⟩ := update_ok h
  obtain ⟨hwhere, hparams⟩ := whereClause_numbered hfits hw
  have hassigned : (Bound.ofCells .updateSet q.assigned).mapM (Bound.parameter d) = .ok ps :=
    Bound.ofCells_parameters storedCell_ok hps
  have hassignments := numbered_assignments (d := d) q.assigned 0
  -- The condition is numbered behind the assigned values.
  rw [hsql, hst, hwhere, length_mapM_ok hassigned, slots_draft]
  refine ⟨?_, mapM_append_ok hassigned hparams⟩
  unfold draft Dialect.update assignmentsSql
  simp only [Sql.numbered_append, Sql.numbered_lit, Sql.numbered_joined, Sql.numbered_clause,
    Sql.slots_append, Sql.slots_lit, slots_assignments, List.nil_append, List.length_nil]
  rw [hassignments, Nat.zero_add, List.length_map]
  rfl

/-- **A deletion is its draft, numbered.** -/
theorem Delete.statement_numbered {q : Delete} (hfits : Condition.fitsAll q.filter = true)
    (h : q.statement d = .ok st) :
    st.sql = (q.draft d).numbered d 0
      ∧ (q.draft d).slots.mapM (Bound.parameter d) = .ok st.parameters := by
  obtain ⟨w, hw, hsql, hst⟩ := delete_ok h
  obtain ⟨hwhere, hparams⟩ := whereClause_numbered hfits hw
  rw [hsql, hst, hwhere]
  unfold draft Dialect.delete
  refine ⟨?_, ?_⟩
  · simp
  · simpa using hparams

/-- **A query is rendered as its draft, numbered** from 0 on, and its parameters are
the values in the draft, in the same order. -/
theorem statement_numbered {q : Query} {draft : Sql Bound} (hdraft : q.draft? d = some draft)
    (hfits : q.fits = true) (h : q.statement d = .ok st) :
    st.sql = draft.numbered d 0 ∧ draft.slots.mapM (Bound.parameter d) = .ok st.parameters := by
  cases q with
  | select q =>
      obtain rfl := Option.some.inj hdraft
      exact render_numbered hfits h
  | insert q =>
      obtain ⟨model, data⟩ := q
      cases data with
      | row values =>
          obtain rfl := Option.some.inj hdraft
          exact Insert.row_numbered rfl h
      | bulk names rows => cases hdraft
  | update q =>
      obtain rfl := Option.some.inj hdraft
      exact Update.statement_numbered hfits h
  | delete q =>
      obtain rfl := Option.some.inj hdraft
      exact Delete.statement_numbered hfits h
  | raw q => cases hdraft

end

/-! ## §4. Statements are legible. -/

section

variable {p : Product} {st : Statement}

/-- A where clause is legible. -/
theorem whereClause_legible {s : Setting} (hs : s.Named p) {k : Nat} {filter : List Condition}
    {w : Statement} (hnames : ∀ n ∈ Condition.namesOfAll filter, p.Clean n)
    (h : s.whereClause k filter = .ok w) : w.sql.Legible p := by
  obtain ⟨fs, hfs, hsql⟩ := whereClause_ok h
  rw [hsql]
  exact Formula.legible_connect .and false (formulas_legible hs hnames hfs)

/-- A setting in which no table has an alias. -/
theorem Setting.named_of_no_alias (place : Place) : (⟨p.dialect, [], place⟩ : Setting).Named p :=
  ⟨rfl, fun _ h => nomatch h⟩

/-- The columns of the fields that are written. -/
theorem clean_columns {cells : List (Field × Value)}
    (h : ∀ n ∈ cells.map (·.1.column), p.Clean n) : ∀ f ∈ cells.map (·.1), p.Clean f.column := by
  intro f hf
  obtain ⟨cell, hcell, rfl⟩ := List.mem_map.1 hf
  exact h _ (List.mem_map.2 ⟨cell, hcell, rfl⟩)

/-- The key that an insert asks for is named behind its values. -/
theorem Insert.legible_returning {key : String} (hkey : p.Clean key) :
    Sql.Legible p (if p.dialect.returnsKey
      then Sql.lit (" RETURNING " ++ key ++ " INTO :insert_id") else []) := by
  cases p with
  | oracle =>
      have hname : Product.oracle.Clean (" RETURNING " ++ key) :=
        Dialect.clean_append (by decide) hkey
      -- The name behind the colon begins with no `a`, so it is not taken for a placeholder.
      have hbehind : Product.oracle.marksIn " INTO :insert_id".toList = [] := by decide
      have happart := Sql.apart_of_leads (s := " INTO :insert_id") (by decide) []
      rw [List.append_nil] at happart
      refine Sql.legible_name ?_
      unfold Product.Clean at *
      rw [String.toList_append, Product.marksIn_append _ happart, hname, hbehind]
      rfl
  | generic | mysql | sqlite => exact Sql.legible_nil

/-- Columns of fields, separated. -/
theorem Insert.legible_columnsSql {fields : List Field} (h : ∀ f ∈ fields, p.Clean f.column) :
    Sql.Legible p (columnsSql fields) := by
  refine Sql.legible_joined (by decide) fun a ha => ?_
  obtain ⟨f, hf, rfl⟩ := List.mem_map.1 ha
  exact Sql.legible_name (h f hf)

/-- An insert of one row is legible. -/
theorem Insert.row_legible {q : Insert} {values : Keyed Value} (hq : q.data = .row values)
    (hnames : ∀ n ∈ q.names, p.Clean n) (h : q.statement p.dialect = .ok st) :
    st.sql.Legible p := by
  obtain ⟨_, hsql⟩ := insert_row_ok hq h
  have hrow : q.rowValues = values := by
    unfold rowValues
    rw [hq]
  unfold names at hnames
  rw [hrow] at hnames
  obtain ⟨htable, hrest⟩ := List.forall_mem_cons.1 hnames
  obtain ⟨hkey, hcells⟩ := List.forall_mem_cons.1 hrest
  have hcolumns := legible_columnsSql (clean_columns hcells)
  have hvalues : (valuesSql p.dialect (written q.model values).length).Legible p :=
    Sql.legible_joined (by decide)
      (Setting.legible_slots (Setting.named_of_no_alias ⟨.insertInto, false⟩) 0 _)
  have htables : p.Clean ("INSERT INTO " ++ q.model.table) := Dialect.clean_append (by decide) htable
  have hopen : Sql.Legible p (Sql.lit ("INSERT INTO " ++ q.model.table ++ " (")
      ++ columnsSql ((written q.model values).map (·.1))) :=
    Sql.legible_merge (Sql.legible_append (Sql.legible_name htables)
      (Sql.legible_word_append (by decide) hcolumns) (Sql.apart_word_append (by decide)))
  have hrest := Sql.legible_append_word
    (Dialect.legible_infixed ") VALUES (" (by decide) hopen hvalues)
    (s := ")") (by decide)
  rw [hsql]
  refine Sql.legible_append hrest (legible_returning hkey) ?_
  split
  -- Whatever the key is, the clause begins with a blank.
  · unfold Sql.apart
    rw [Sql.text_lit, String.append_assoc, String.toList_append]
    exact Sql.apart_of_leads (by decide) _
  · rfl

/-- One assignment to each field. -/
theorem Update.legible_assignmentsSql {fields : List Field} (h : ∀ f ∈ fields, p.Clean f.column) :
    Sql.Legible p (assignmentsSql p.dialect fields) := by
  have hs := Setting.named_of_no_alias (p := p) ⟨.updateSet, false⟩
  refine Sql.legible_joined (by decide) fun a ha => ?_
  obtain ⟨⟨f, slot⟩, hmem, rfl⟩ := List.mem_map.1 ha
  obtain ⟨hf, hslot⟩ := List.of_mem_zip hmem
  exact Dialect.legible_operation .eq (hs.legible_column (h f hf))
    (List.forall_mem_singleton.2 (Setting.legible_slots hs 0 _ slot hslot))

/-- An update is legible. -/
theorem Update.statement_legible {q : Update} (hnames : ∀ n ∈ q.names, p.Clean n)
    (h : q.statement p.dialect = .ok st) : st.sql.Legible p := by
  obtain ⟨ps, w, _, hw, hsql, _⟩ := update_ok h
  obtain ⟨hassigned, hfilter⟩ := List.forall_mem_append.1 hnames
  obtain ⟨htable, hcells⟩ := List.forall_mem_cons.1 hassigned
  have hcondition := whereClause_legible
    ((Setting.named_of_no_alias ⟨.updateSet, false⟩).inClause .updateWhere) hfilter hw
  have hassignments : Sql.Legible p (assignmentsSql p.dialect (q.assigned.map (·.1))) :=
    legible_assignmentsSql (clean_columns hcells)
  have htables : p.Clean ("UPDATE " ++ q.model.table) := Dialect.clean_append (by decide) htable
  have hset : Sql.Legible p (Sql.lit ("UPDATE " ++ q.model.table ++ " SET ")
      ++ assignmentsSql p.dialect (q.assigned.map (·.1))) :=
    Sql.legible_merge (Sql.legible_append (Sql.legible_name htables)
      (Sql.legible_word_append (by decide) hassignments) (Sql.apart_word_append (by decide)))
  rw [hsql]
  exact Sql.legible_append hset (Sql.legible_clause "WHERE " (by decide) hcondition)
    (Sql.apart_clause (by decide) _)

/-- A deletion is legible. -/
theorem Delete.statement_legible {q : Delete} (hnames : ∀ n ∈ q.names, p.Clean n)
    (h : q.statement p.dialect = .ok st) : st.sql.Legible p := by
  obtain ⟨w, hw, hsql, _⟩ := delete_ok h
  obtain ⟨htable, hfilter⟩ := List.forall_mem_cons.1 hnames
  have hcondition := whereClause_legible (Setting.named_of_no_alias ⟨.deleteWhere, false⟩) hfilter hw
  have htables : p.Clean ("DELETE FROM " ++ q.model.table) := Dialect.clean_append (by decide) htable
  rw [hsql]
  exact Sql.legible_append (Sql.legible_name htables)
    (Sql.legible_clause "WHERE " (by decide) hcondition) (Sql.apart_clause (by decide) _)

/-- **A query that has a draft is legible** when the names in it hold no mark. -/
theorem statement_legible {q : Query} {draft : Sql Bound} (hdraft : q.draft? p.dialect = some draft)
    (hnames : ∀ n ∈ q.names, p.Clean n) (h : q.statement p.dialect = .ok st) :
    st.sql.Legible p := by
  cases q with
  | select q => exact render_legible hnames h
  | insert q =>
      obtain ⟨model, data⟩ := q
      cases data with
      | row values => exact Insert.row_legible rfl hnames h
      | bulk names rows => cases hdraft
  | update q => exact Update.statement_legible hnames h
  | delete q => exact Delete.statement_legible hnames h
  | raw q => cases hdraft

end

/-! ## §5. Placeholders and parameters. -/

/-- The marks of a numbered draft are those of the numbers from `k` on. -/
theorem Sql.marks_numbered (p : Product) : ∀ (a : Sql Bound) (k : Nat),
    (a.numbered p.dialect k).marks = (List.range' k a.slots.length).map p.mark
  | [], _ => rfl
  | .text s :: a, k => marks_numbered p a k
  | .slot b mark :: a, k => by
      show p.dialect.placeholder b.clause k :: (Sql.numbered p.dialect (k + 1) a).marks = _
      rw [marks_numbered p a (k + 1), p.placeholder_eq]
      rfl

/-- **Every placeholder stands for its parameter.**  The marks in the text of a
statement, read from left to right, are those of the numbers from 0 on, as many as
there are parameters; the statement is the draft of the query with its values
numbered in this order, and the parameters are the storage forms of these values,
each cast once where it belongs to a condition.  An update binds the values that
it assigns before those of its condition. -/
theorem placeholders_stand_for_parameters {p : Product} {q : Query} {draft : Sql Bound}
    {st : Statement} (hdraft : q.draft? p.dialect = some draft) (hfits : q.fits = true)
    (hnames : ∀ n ∈ q.names, p.Clean n) (h : q.statement p.dialect = .ok st) :
    p.marksIn st.text.toList = (List.range st.parameters.length).map p.mark
      ∧ st.sql = draft.numbered p.dialect 0
      ∧ draft.slots.mapM (Bound.parameter p.dialect) = .ok st.parameters
      ∧ ∀ u : Update, q = .update u → draft.slots = Bound.ofCells .updateSet u.assigned
          ++ (((Update.setting p.dialect).inClause .updateWhere).whereDraft u.filter).slots := by
  obtain ⟨hsql, hparams⟩ := statement_numbered hdraft hfits h
  have hmarks := statement_legible hdraft hnames h
  refine ⟨?_, hsql, hparams, ?_⟩
  · unfold Sql.Legible at hmarks
    rw [Statement.text, hmarks, hsql, Sql.marks_numbered, length_mapM_ok hparams, List.range_eq_range']
  · intro u hu
    subst hu
    obtain rfl := Option.some.inj hdraft
    exact Update.slots_draft u

namespace Sample

/-- Give a title and an editor to books about the sea, unless an author of some
selection wrote them or nobody edited them. -/
def retitle : Update where
  model := book
  data := [("title", text "Seas"), ("editor_id", int 8)]
  filter := [.leaf bookTitle.toAttribute .contains (.value (text "sea")) false,
    .set .or [.leaf bookAuthor.toAttribute .isIn (.query authors) false,
      .leaf bookEditor.toAttribute .isNull (.value .null) false] true]

end Sample

/-- Assignments, a nested select and a null test in Oracle: the placeholders go on
through the nested select, and the searched texts are cast once. -/
theorem retitle_placeholders : ∃ st, Sample.retitle.statement Product.oracle.dialect = .ok st
    ∧ st.parameters = [Sample.int 8, Sample.text "Seas", Sample.text "%sea%", Sample.text "^A.*",
        Sample.int 1, Sample.int 2]
    ∧ Product.oracle.marksIn st.text.toList = [":a0", ":a1", ":a2", ":a3", ":a4", ":a5"] := by
  have hparams : (Sample.retitle.statement Product.oracle.dialect).toOption.map
      Statement.parameters = some [Sample.int 8, Sample.text "Seas", Sample.text "%sea%",
        Sample.text "^A.*", Sample.int 1, Sample.int 2] := by
    decide +kernel
  obtain ⟨st, h, hst⟩ := ok_of_toOption_map hparams
  obtain ⟨hmarks, -⟩ := placeholders_stand_for_parameters (p := .oracle)
    (q := .update Sample.retitle) rfl (by decide) (by decide) h
  refine ⟨st, h, hst, ?_⟩
  rw [hmarks, hst]
  decide

end RecordMapper
