/-
  RecordMapper.Proofs.Record.Faithful
  ────────────────────────────────
  **WHICH FIELDS OF A ROW A RECORD KEEPS.**

  A row of a select over joined models has a value at the place of every field that is
  selected, and the record of the root model is meant to hold the application forms of
  those that are its own.  It does not hold all of them.  The cells of a row are sorted
  by model and not by join, so every foreign key to a matched model is attached the same
  related record, and takes its value.  A book that is joined to its author comes out
  with its author for an editor.

  Main result: `materialized_field_iff`.  Whether a field keeps its value is decided by
  the writes behind it, which are later cells for the same field and the relations of the
  root (`Select.laterWrites`).  No relation writes a field that is not a foreign key
  (`laterWrites_plain`).
-/
import RecordMapper.Proofs.Query.Built
import RecordMapper.Proofs.Record.Assembly
import RecordMapper.Proofs.Sample

namespace RecordMapper

/-! ## §1. The cells of the root. -/

/-- **What a cell of a row writes to the field `name`** of a record of `m`. -/
def Cells.written? (m : Model) (name : String) (cell : Field × Value) : Option Value :=
  if cell.1.model = m.name then Record.read? m name (cell.1.name, cell.2) else none

/-- What the cells of a model write are the writes of the row for it, in their order. -/
theorem Cells.filterMap_ofRow (fields : List Field) (row : List Value) (m : Model)
    (name : String) :
    ((Keyed.get? (ofRow fields row) m.name).getD []).filterMap (Record.read? m name)
      = (fields.zip row).filterMap (written? m name) := by
  rw [get?_ofRow, List.filterMap_map, List.filterMap_filter]
  congr 1
  funext cell
  unfold written?
  by_cases hmodel : cell.1.model = m.name
  · rw [if_pos hmodel, if_pos (decide_eq_true hmodel)]
    rfl
  · rw [if_neg hmodel, if_neg (by simpa using hmodel)]

namespace Select

/-- The values of a row convert to the fields that take them, in every model that the
root reaches. -/
def RowConverts (q : Select) (row : List Value) : Prop :=
  ∀ m ∈ q.model.reach, ∀ cell ∈ q.outputFields.zip row, cell.1.model = m.name →
    ∀ f, Record.labelled? m cell.1.name = some f → ∃ w, f.toApplication cell.2 = .ok w

instance (q : Select) (row : List Value) : Decidable (q.RowConverts row) :=
  inferInstanceAs (Decidable (∀ m ∈ q.model.reach, ∀ cell ∈ q.outputFields.zip row,
    cell.1.model = m.name → ∀ f ∈ Record.labelled? m cell.1.name,
      ∃ w, f.toApplication cell.2 = .ok w))

/-- **The writes to the field `name` of the root after place `i` of the row**: those of
the cells behind that place, and then those of the relations. -/
def laterWrites (q : Select) (row : List Value) (i : Nat) (name : String) : List Value :=
  ((q.outputFields.zip row).drop (i + 1)).filterMap (Cells.written? q.model name)
    ++ Cells.writes.related (Cells.ofRow q.outputFields row) q.model name q.model.relations

/-- **Relations write no field but foreign keys**: what is written to another field
after its place comes from the cells of the row. -/
theorem laterWrites_plain {q : Select} (hmodel : q.model.Registered) {f : Field}
    (hf : f ∈ q.model.fields) (hplain : f.foreignKey = none) (row : List Value) (i : Nat) :
    q.laterWrites row i f.name
      = ((q.outputFields.zip row).drop (i + 1)).filterMap (Cells.written? q.model f.name) := by
  unfold laterWrites
  rw [Cells.related_plain hmodel.fieldNames_nodup hf hplain, List.append_nil]

/-! ## §2. Reading a row as related records. -/

/-- The cells of a row convert when its values do. -/
theorem RowConverts.convert {q : Select} {row : List Value} (h : q.RowConverts row) {m : Model}
    (hm : m ∈ q.model.reach) : (Cells.ofRow q.outputFields row).Convert m := by
  intro cell hcell f hf
  rw [Cells.get?_ofRow] at hcell
  obtain ⟨source, hsource, rfl⟩ := List.mem_map.1 hcell
  obtain ⟨hmem, hmodel⟩ := List.mem_filter.1 hsource
  exact h m hm source hmem (of_decide_eq_true hmodel) f hf

/-- A row of a select that is not naive is assembled. -/
theorem materialize_eq {q : Select} (hgraph : q.isNaive = false) (source : Handle)
    (cursor : Cursor) (labels : List String) (row : List Value) :
    (Result.new q.model source cursor q.isNaive q.outputFields).materialize labels row
      = Record.assemble (Cells.ofRow q.outputFields row) q.model := by
  show (if q.isNaive = true then _ else _) = _
  rw [hgraph]
  rfl

/-- What the row has at a place for a field of the root is written to it, and then
`laterWrites` are. -/
theorem rootWrites_eq {q : Select} (hmodel : q.model.Registered) {row : List Value} {i : Nat}
    {f : Field} {v w : Value} (hfield : q.outputFields[i]? = some f) (hvalue : row[i]? = some v)
    (hf : f ∈ q.model.fields) (hw : f.toApplication v = .ok w) :
    ∃ earlier, (Cells.ofRow q.outputFields row).writes q.model f.name
      = earlier ++ w :: q.laterWrites row i f.name := by
  have hcell : (q.outputFields.zip row)[i]? = some (f, v) := by
    rw [List.getElem?_zip_eq_some]
    exact ⟨hfield, hvalue⟩
  have hwritten : Cells.written? q.model f.name (f, v) = some w := by
    unfold Cells.written? Record.read?
    rw [if_pos (hmodel.field_model hf), Record.labelled?_name hmodel.fieldNames_nodup hf,
      Option.bind_some, if_pos rfl, hw]
    rfl
  obtain ⟨hlt, hget⟩ := List.getElem?_eq_some_iff.1 hcell
  -- The row before the place, the cell at it, and the row behind it.
  have hsplit : q.outputFields.zip row
      = (q.outputFields.zip row).take i ++ (f, v) :: (q.outputFields.zip row).drop (i + 1) := by
    rw [← hget, ← List.drop_eq_getElem_cons hlt, List.take_append_drop]
  have hcells : (q.outputFields.zip row).filterMap (Cells.written? q.model f.name)
      = ((q.outputFields.zip row).take i).filterMap (Cells.written? q.model f.name)
        ++ w :: ((q.outputFields.zip row).drop (i + 1)).filterMap
          (Cells.written? q.model f.name) := by
    rw [← List.filterMap_cons_some hwritten, ← List.filterMap_append, ← hsplit]
  refine ⟨q.model.defaults.filterMap (Record.assigned? q.model f.name)
    ++ ((q.outputFields.zip row).take i).filterMap (Cells.written? q.model f.name), ?_⟩
  unfold laterWrites
  rw [Cells.writes_eq, Cells.filterMap_ofRow, hcells, List.append_assoc, List.append_assoc,
    List.append_assoc]
  rfl

/-- **A field of the root keeps the value of the row exactly when the last of the later
writes, if there is one, wrote the same value.**  A row whose values convert yields a
record, when the defaults of the models do; and in every record that a row yields, that
is the condition. -/
theorem materialized_field_iff {q : Select} (hmodel : q.model.Registered)
    (hgraph : q.isNaive = false) (source : Handle) (cursor : Cursor) (labels : List String)
    (row : List Value) :
    ((∀ m ∈ q.model.reach, m.DefaultsConvert) → q.RowConverts row → ∃ record,
        (Result.new q.model source cursor q.isNaive q.outputFields).materialize labels row
          = .ok record)
      ∧ ∀ record,
        (Result.new q.model source cursor q.isNaive q.outputFields).materialize labels row
          = .ok record →
        ∀ (i : Nat) (f : Field) (v w : Value), q.outputFields[i]? = some f → row[i]? = some v →
          f ∈ q.model.fields → f.toApplication v = .ok w →
            (record.get? f.name = some w
              ↔ ∀ u, (q.laterWrites row i f.name).getLast? = some u → u = w) := by
  rw [materialize_eq hgraph]
  refine ⟨fun hdefaults hrow => ?_, fun record hrecord i f v w hfield hvalue hf hw => ?_⟩
  · exact Record.assemble_total hmodel hdefaults fun m hm => hrow.convert hm
  · have hholds := Record.assemble_get? hmodel hrecord
    obtain ⟨earlier, hwrites⟩ := rootWrites_eq hmodel hfield hvalue hf hw
    -- What was written before the cell at the place is overwritten by it.
    have hheld : record.get? f.name = lastOr (q.laterWrites row i f.name) (some w) := by
      rw [hholds.get?, Cells.value?, Model.field?_name hmodel.fieldNames_nodup hf,
        Option.bind_some, hwrites, ← lastOr.to_none, lastOr.append, lastOr.cons]
    rw [hheld]
    exact lastOr.some_iff _ _

end Select

/-! ## §3. A book joined to its author. -/

namespace Sample

theorem author_registered : author.Registered :=
  .mk author_built fun _ h => nomatch h

theorem book_registered : book.Registered := by
  refine .mk book_built fun relation h => ?_
  have hauthor : relation.2 = author := by
    rcases List.mem_cons.1 h with rfl | h
    · rfl
    · obtain rfl := List.mem_singleton.1 h
      rfl
  rw [hauthor]
  exact author_registered

/-- Books joined to their authors, not to their editors. -/
def booksWithAuthors : Select :=
  { Select.new book with
    joined := [(author, [⟨.inner, bookAuthor.toAttribute, authorId.toAttribute⟩])]
    aliases := [("Book", "t1"), ("Author", "t2")] }

theorem booksWithAuthors_built : booksWithAuthors.Built [] :=
  .call .empty (.join author .inner (some "author_id") none) (.bare book) rfl rfl

/-- A book by the author 7, which was edited by 8, with its author. -/
def seas : List Value :=
  [int 1, text "Seas", int 7, int 8, int 7, text "Ann"]

/-- The record of a row of the select, whatever the cursor that the row came from. -/
def read (row : List Value) : Reading :=
  (Result.new booksWithAuthors.model ⟨0⟩ ⟨0, [], [], none, 0⟩ booksWithAuthors.isNaive
    booksWithAuthors.outputFields).materialize [] row

end Sample

open Sample in
/-- The book keeps its title and not its editor. -/
theorem seas_materialized : ∃ record, read seas = .ok record
    ∧ record.get? "title" = some (text "Seas") ∧ record.get? "editor_id" ≠ some (int 8) := by
  obtain ⟨htotal, hfields⟩ := Select.materialized_field_iff (q := booksWithAuthors)
    book_registered rfl ⟨0⟩ ⟨0, [], [], none, 0⟩ [] seas
  obtain ⟨record, hrecord⟩ := htotal (by decide +kernel) (by decide +kernel)
  refine ⟨record, hrecord, ?_, fun heditor => ?_⟩
  · have hlater : booksWithAuthors.laterWrites seas 1 bookTitle.name = [] := by decide +kernel
    have htitle := hfields record hrecord 1 bookTitle (text "Seas") _ rfl rfl (by decide +kernel) rfl
    refine htitle.2 fun u hu => ?_
    rw [hlater] at hu
    cases hu
  · have hlater : (booksWithAuthors.laterWrites seas 3 bookEditor.name).getLast?
        = some (int 7) := by
      decide +kernel
    have hkept := hfields record hrecord 3 bookEditor (int 8) _ rfl rfl (by decide +kernel) rfl
    have hsame : int 7 = int 8 := hkept.1 heditor _ hlater
    exact absurd hsame (by decide +kernel)

open Sample in
/-- **Not every field of the root keeps the value of the row**: the book that is joined to
its author by one foreign key has the other one overwritten. -/
theorem not_every_field_kept :
    ¬ ∀ (q : Select) (passed : List Condition), q.Built passed → q.model.Registered →
      q.isNaive = false → ∀ (source : Handle) (cursor : Cursor) (labels : List String)
        (row : List Value) (record : Record), q.RowConverts row →
        (Result.new q.model source cursor q.isNaive q.outputFields).materialize labels row
          = .ok record →
        ∀ (i : Nat) (f : Field) (v w : Value), q.outputFields[i]? = some f → row[i]? = some v →
          f ∈ q.model.fields → f.toApplication v = .ok w → record.get? f.name = some w := by
  intro hkept
  have hread : (read seas).toOption.map (·.get? bookEditor.name) = some (some (int 7)) := by
    decide +kernel
  obtain ⟨record, hrecord, heditor⟩ := ok_of_toOption_map hread
  have hsame := hkept booksWithAuthors [] booksWithAuthors_built book_registered rfl ⟨0⟩ _ []
    seas record (by decide +kernel) hrecord 3 bookEditor (int 8) _ rfl rfl (by decide +kernel) rfl
  rw [heditor] at hsame
  exact absurd hsame (by decide +kernel)

end RecordMapper
