/-
  RecordMapper.Proofs.Record.RowUpdate
  ────────────────────────────────
  **UPDATES OF ONE ROW.**

  A record is stored in one row, which is known by its key.  An update of one row says
  what to store in some of its columns.  It has a statement, which a database runs, and
  it has a meaning: what the row stores once the statement was run.  All other columns,
  and the rows of other keys, stay as they are.

  Main results: `Update.statement_row`, by which the statement of an update by key is that
  of a row update, and `apply_of_mem`, `apply_of_notMem`.
-/
import RecordMapper.Proofs.Record.Tracking
import RecordMapper.Proofs.Schema.Forms
import RecordMapper.Proofs.Statement.Rendering
import RecordMapper.Record.Store

namespace RecordMapper

/-! ## §1. Rows and what they store. -/

/-- **A row** of a table: what it stores in each column. -/
abbrev Row := String → Value

/-- The two are stored alike: they are equal, or both are NULL. -/
def Value.Alike (a b : Value) : Prop :=
  a = b ∨ a.isNull = true ∧ b.isNull = true

instance (a b : Value) : Decidable (a.Alike b) :=
  inferInstanceAs (Decidable (_ ∨ _))

namespace Kind

variable {kind : Kind} {v w : Value}

/-- **Values that are the same are stored alike**, unless they are zeros of two signs. -/
theorem toStorage_eq_of_same (h : v.same w = true)
    (hzero : ∀ x, v = .float64 (some x) → x.isZero = false) :
    kind.toStorage v = kind.toStorage w := by
  rcases Value.same_iff.1 h with ⟨hv, hw⟩ | ⟨x, y, rfl, rfl, hxy⟩ | ⟨rfl, _, _⟩
  · rw [toStorage_of_isNull hv, toStorage_of_isNull hw]
  · obtain ⟨x⟩ := x
    obtain ⟨y⟩ := y
    have hx := hzero _ rfl
    simp only [Number.Binary64.numericEq, hx, Bool.false_and, Bool.or_false, Bool.and_eq_true,
      beq_iff_eq] at hxy
    rw [hxy.2]
  · rfl

end Kind

/-! ## §2. Row updates. -/

/-- **An update of one row**: what to store for some fields, in the row whose key is
stored as `value`. -/
structure RowUpdate where
  table : String
  cells : List (Field × Value)
  key : Field
  value : Value

namespace RowUpdate

/-- The row is the one to update: its key compares equal. -/
def Finds (u : RowUpdate) (row : Row) : Prop :=
  (row u.key.column).same u.value = true

instance (u : RowUpdate) (row : Row) : Decidable (u.Finds row) :=
  inferInstanceAs (Decidable (_ = true))

/-- **What a row stores** once the update was run. -/
def apply (u : RowUpdate) (row : Row) : Row := fun column =>
  if u.Finds row then
    ((u.cells.find? (·.1.column == column)).map (·.2)).getD (row column)
  else row column

/-- The setting of the condition on the key. -/
def setting (d : Dialect) : Setting := (Update.setting d).inClause .updateWhere

/-- **The statement of a row update**: the assignments, and the condition on the key
behind them. -/
def statement (u : RowUpdate) (d : Dialect) : Statement where
  sql := Dialect.update u.table (Update.assignmentsSql d (u.cells.map (·.1)))
    (d.operation .eq ((setting d).column u.key.toAttribute)
      ((setting d).slots u.cells.length 1)).enclosed
  parameters := u.cells.map (·.2) ++ [u.value]

variable {u : RowUpdate} {row : Row} {column : String}

/-- A row of another key stays as it is. -/
theorem apply_of_not_finds (h : ¬ u.Finds row) : u.apply row = row :=
  funext fun _ => if_neg h

/-- **A column that no cell is for** stays as it is. -/
theorem apply_of_notMem (h : ∀ cell ∈ u.cells, cell.1.column ≠ column) :
    u.apply row column = row column := by
  unfold apply
  split
  · have hnone : u.cells.find? (·.1.column == column) = none := by
      refine List.find?_eq_none.2 fun cell hcell => ?_
      simpa using h cell hcell
    rw [hnone]
    rfl
  · rfl

/-- **A column that cells are for** takes their value, when they agree on it. -/
theorem apply_of_mem (hfinds : u.Finds row) {v : Value}
    (hmem : ∃ cell ∈ u.cells, cell.1.column = column)
    (hvalue : ∀ cell ∈ u.cells, cell.1.column = column → cell.2 = v) :
    u.apply row column = v := by
  unfold apply
  rw [if_pos hfinds]
  cases hfind : u.cells.find? (·.1.column == column) with
  | none =>
      obtain ⟨cell, hcell, hcolumn⟩ := hmem
      have hnot := List.find?_eq_none.1 hfind cell hcell
      exact absurd (beq_iff_eq.2 hcolumn) hnot
  | some cell =>
      have hcolumn : cell.1.column = column := by
        have hfound := List.find?_some hfind
        simpa using hfound
      exact hvalue cell (List.mem_of_find?_eq_some hfind) hcolumn

end RowUpdate

/-! ## §3. Updates by key. -/

/-- A comparison by equality binds its values as they are. -/
theorem Dialect.castValues_eq (d : Dialect) (values : List Value) :
    d.castValues .eq values = values := by
  rcases values with _ | ⟨v, rest⟩
  · rfl
  · rcases v with _ | _ | _ | _ | (_ | text) | _ | _ | _
    all_goals rfl

/-- **Equality with a value** that is not NULL writes one placeholder, and binds what is stored
for the value. -/
theorem formula_equal_ok {s : Setting} {k : Nat} {a : Attribute} {v : Value}
    (hv : v.isNull = false) {f : Formula Sql} {ps : List Value}
    (h : (Condition.compare a .eq (.value v)).formula s k = .ok (f, ps)) :
    ∃ p, a.toStorage v = .ok p
      ∧ f = .atom (s.dialect.operation .eq (s.column a) (s.slots k 1)) false ∧ ps = [p] := by
  have hcompare : Condition.compare a .eq (.value v) = .leaf a .eq (.value v) false := by
    show Condition.leaf _ (if v.isNull = true then _ else _) _ _ = _
    rw [hv]
    rfl
  rw [hcompare] at h
  obtain ⟨values, rfl, ⟨hnull, _⟩ | ⟨_, hbind⟩⟩ := formula_leaf_ok h
  · cases hnull
  obtain ⟨hnull, _⟩ | ⟨_, rfl, stored, hstored, rfl⟩ := bind_value_ok hbind
  · cases hnull.symm.trans hv
  obtain ⟨p, rest, hp, hrest, rfl⟩ := mapM_cons_ok.1 hstored
  obtain rfl := pure_ok.1 hrest
  exact ⟨p, hp, rfl, s.dialect.castValues_eq [p]⟩

/-- **The condition on the key** binds the stored key. -/
theorem Setting.whereClause_keyIs {s : Setting} {k : Nat} {m : Model} {key : Value}
    (hkey : key.isNull = false) {w : Statement} (h : s.whereClause k [m.keyIs key] = .ok w) :
    ∃ stored, m.primaryKey.toStorage key = .ok stored
      ∧ w.sql = (s.dialect.operation .eq (s.column m.primaryKey.toAttribute) (s.slots k 1)).enclosed
      ∧ w.parameters = [stored] := by
  obtain ⟨fs, hfs, hsql⟩ := whereClause_ok h
  obtain ⟨f, ps, gs, rs, hf, hgs, rfl, hps⟩ := formulas_cons_ok hfs
  obtain ⟨rfl, rfl⟩ := formulas_nil_ok hgs
  obtain ⟨stored, hstored, rfl, rfl⟩ := formula_equal_ok hkey hf
  refine ⟨stored, hstored, ?_, hps.trans (List.append_nil _)⟩
  rw [hsql]
  rfl

/-- **The statement of an update by key** is that of a row update. -/
theorem Update.statement_row {q : Update} {key : Value} (hfilter : q.filter = [q.model.keyIs key])
    (hkey : key.isNull = false) {d : Dialect} {st : Statement} (h : q.statement d = .ok st) :
    ∃ ps stored, q.assigned.mapM (fun (field, v) => storedCell q.model field v) = .ok ps
      ∧ q.model.primaryKey.toStorage key = .ok stored
      ∧ st = RowUpdate.statement ⟨q.model.table, (q.assigned.map (·.1)).zip ps,
          q.model.primaryKey, stored⟩ d := by
  obtain ⟨ps, w, hps, hw, hsql, hparameters⟩ := update_ok h
  rw [hfilter] at hw
  obtain ⟨stored, hstored, hcondition, hbound⟩ := Setting.whereClause_keyIs hkey hw
  have hlength : (q.assigned.map (·.1)).length = ps.length := by
    rw [List.length_map, length_mapM_ok hps]
  refine ⟨ps, stored, hps, hstored, ?_⟩
  obtain ⟨sql, parameters⟩ := st
  unfold RowUpdate.statement
  congr 1
  · rw [List.map_fst_zip (Nat.le_of_eq hlength), List.length_zip, hlength, Nat.min_self]
    rw [hcondition] at hsql
    exact hsql
  · rw [List.map_snd_zip (Nat.le_of_eq hlength.symm)]
    rw [hbound] at hparameters
    exact hparameters

end RecordMapper
