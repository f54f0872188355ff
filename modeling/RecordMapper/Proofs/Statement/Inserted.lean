/-
  RecordMapper.Proofs.Statement.Inserted
  ────────────────────────────────
  **AN INSERT WRITES THE EFFECTIVE RECORD.**

  An insert of one row begins with the defaults of its model, and every call that sets
  values puts their application forms over what is there, under the names of the fields.
  Whichever keys the calls use and however they overlap, a field ends up with one value:
  the last that was given to it, else its default (`Model.effective?`).

  That is an invariant of the row (`Insert.Keeps`), which one pair that is merged
  preserves, and so every sequence of calls.  The statement is read off the row: columns,
  placeholders and parameters come from one list of cells, so that they stay aligned.

  Main result: `insert_writes_effective_record`.
-/
import Mathlib.Data.List.Forall2
import RecordMapper.Proofs.Record.Given
import RecordMapper.Proofs.Schema.Addressed
import RecordMapper.Proofs.Statement.Placeholders
import RecordMapper.Proofs.Statement.Predicate

namespace RecordMapper

/-! ## §1. Lists as text. -/

namespace Sql

/-- A piece that writes something stands before the separator and the pieces behind it. -/
theorem joined_cons_cons {a : Sql} (ha : a.isBlank = false) (sep : String) (b : Sql) (rest : List Sql) :
    joined sep (a :: b :: rest) = a ++ lit sep ++ joined sep (b :: rest) := by
  have hseparated : Text.separated isBlank (lit sep) (a :: b :: rest)
      = a :: lit sep :: Text.separated isBlank (lit sep) (b :: rest) := if_neg (by simp [ha])
  unfold joined
  rw [hseparated, List.flatten_cons, List.flatten_cons, List.append_assoc]

/-- **Pieces that write something** stand with the separator between neighbours. -/
theorem text_joined (sep : String) : ∀ {pieces : List Sql}, (∀ a ∈ pieces, a.isBlank = false) →
    (joined sep pieces).text = sep.intercalate (pieces.map text)
  | [], _ => rfl
  | [a], _ => by
      show text (a ++ []) = sep.intercalate [a.text]
      rw [List.append_nil, String.intercalate_singleton]
  | a :: b :: rest, h => by
      have hrest : (joined sep (b :: rest)).text = sep.intercalate ((b :: rest).map text) :=
        text_joined sep fun c hc => h c (List.mem_cons_of_mem _ hc)
      rw [joined_cons_cons (h a List.mem_cons_self), text_append, text_append, text_lit, hrest]
      exact String.intercalate_cons_cons.symm

end Sql

namespace Insert

/-- Columns are listed by name. -/
theorem text_columnsSql {fields : List Field} (h : ∀ f ∈ fields, f.column ≠ "") :
    (columnsSql fields : Sql).text = ", ".intercalate (fields.map (·.column)) := by
  have hfilled : ∀ a ∈ fields.map fun f => (Sql.lit f.column : Sql), a.isBlank = false := by
    intro a ha
    obtain ⟨f, hf, rfl⟩ := List.mem_map.1 ha
    simpa [Sql.isBlank, Sql.lit, Token.isBlank] using h f hf
  unfold columnsSql
  rw [Sql.text_joined _ hfilled, List.map_map]
  exact congrArg _ (List.map_congr_left fun f _ => Sql.text_lit f.column)

/-- Placeholders are listed by number. -/
theorem text_valuesSql (d : Dialect) (count : Nat) :
    (valuesSql d count).text
      = ", ".intercalate ((List.range count).map (d.placeholder .insertInto)) := by
  have hfilled : ∀ a ∈ (setting d).slots 0 count, a.isBlank = false := by
    intro a ha
    obtain ⟨i, -, rfl⟩ := List.mem_map.1 ha
    rfl
  unfold valuesSql
  rw [Sql.text_joined _ hfilled, Setting.slots, List.map_map, List.range_eq_range']
  exact congrArg _ (List.map_congr_left fun i _ => Setting.text_slot d .insertInto i)

theorem slots_valuesSql (d : Dialect) (count : Nat) : (valuesSql d count).slots = List.range count := by
  unfold valuesSql
  rw [Sql.slots_joined, Setting.slots, List.flatMap_map, List.range_eq_range']
  exact List.flatMap_singleton' _

end Insert

/-! ## §2. Values in the order of their keys. -/

namespace Keyed

variable {α : Type} {l : Keyed α} {key : String} {value : α}

/-- Sorted keys are as distinct as they were. -/
theorem nodup_keys_sortedByKey (h : l.keys.Nodup) : (keys (sortedByKey l)).Nodup :=
  ((sorted_perm _ l).map _).nodup_iff.2 h

/-- A sorted list has what is kept under each key. -/
theorem mem_sortedByKey_iff (h : l.keys.Nodup) :
    (key, value) ∈ sortedByKey l ↔ l.get? key = some value :=
  (sorted_perm _ l).mem_iff.trans (get?_eq_some_iff h).symm

/-- It keeps the same under each key. -/
theorem get?_sortedByKey (h : l.keys.Nodup) (key : String) :
    get? (sortedByKey l) key = l.get? key :=
  Option.ext fun _ =>
    (get?_eq_some_iff (nodup_keys_sortedByKey h)).trans (mem_sortedByKey_iff h)

/-- **Distinct keys** are sorted strictly. -/
theorem sortedByKey_pairwise_lt (h : l.keys.Nodup) : (sortedByKey l).Pairwise (·.1 < ·.1) :=
  List.pairwise_map.1 (((keys_sortedByKey_pairwise l).and (nodup_keys_sortedByKey h)).imp fun h =>
    Std.lt_of_le_of_ne h.1 h.2)

end Keyed

/-! ## §3. The effective record. -/

namespace Model

variable {m : Model} {given : List (String × Value)} {key : String} {f : Field} {v w : Value}

/-- **The effective value of a field**: the application form of the last value that was given
to it, else its default. -/
def effective? (m : Model) (given : List (String × Value)) (f : Field) : Option Value :=
  match m.lastGiven? given f with
  | some v => (f.toApplication v).toOption
  | none => f.default

theorem effective?_nil : m.effective? [] f = f.default := rfl

theorem effective?_concat_self (hkey : m.Addresses key f) (hw : f.toApplication v = .ok w) :
    m.effective? (given ++ [(key, v)]) f = some w := by
  unfold effective?
  rw [lastGiven?_concat_self hkey]
  show (f.toApplication v).toOption = some w
  rw [hw]
  rfl

theorem effective?_concat_other (hkey : ¬ m.Addresses key f) :
    m.effective? (given ++ [(key, v)]) f = m.effective? given f := by
  unfold effective?
  rw [lastGiven?_concat_other hkey]

/-- **The cells of the effective record**: every field with its effective value, but for a NULL
that the field cannot hold; sorted by field name, and no column twice. -/
structure EffectiveCells (m : Model) (given : List (String × Value)) (cells : List (Field × Value)) :
    Prop where
  mem_iff : ∀ f w, (f, w) ∈ cells
    ↔ f ∈ m.fields ∧ m.effective? given f = some w ∧ (w.isNull = false ∨ f.nullable = true)
  ordered : (cells.map (·.1.name)).Pairwise (· < ·)
  once : (cells.map (·.1.column)).Nodup

end Model

/-- **A statement inserts cells** into the table of a model. -/
structure Statement.Inserts (st : Statement) (d : Dialect) (m : Model)
    (cells : List (Field × Value)) : Prop where
  /-- It has the columns of the cells, and as many values. -/
  sql : st.sql = d.insertWithKey m.table (Insert.columnsSql (cells.map (·.1)))
    (Insert.valuesSql d cells.length) m.primaryKey.column
  /-- Its placeholders are one for each cell, in order. -/
  slots : st.sql.slots = List.range cells.length
  /-- Read as text, it lists the columns and the placeholders, when every column has a name. -/
  text : (∀ cell ∈ cells, cell.1.column ≠ "") →
    st.text = "INSERT INTO " ++ m.table ++ " (" ++ ", ".intercalate (cells.map (·.1.column))
      ++ ") VALUES (" ++ ", ".intercalate ((List.range cells.length).map (d.placeholder .insertInto))
      ++ ")" ++ (if d.returnsKey then " RETURNING " ++ m.primaryKey.column ++ " INTO :insert_id" else "")
  /-- Each parameter is the storage form of the value at its place. -/
  stored : List.Forall₂ (fun cell p => cell.1.toStorage cell.2 = .ok p) cells st.parameters

/-! ## §4. What calls leave in the row. -/

namespace Insert

variable {m : Model} {q q' : Insert} {given cells : List (String × Value)} {values values' : Keyed Value}
  {key : String} {f : Field} {v w : Value}

/-- **What an insert was given**: values by calls that set them, one call after the other.  An
insert of many rows that is set becomes one of one row, and starts again. -/
inductive Given (m : Model) : Insert → List (String × Value) → Prop
  | new : Given m (Insert.new m) []
  | set {q q' : Insert} {given cells : List (String × Value)} (h : Given m q given)
      (hset : q.set cells = .ok q') : Given m q' (given ++ cells)
  | setBulk {q q' : Insert} {given : List (String × Value)} {names : List String}
      {rows : List (List Value)} (h : Given m q given) (hset : q.setBulk names rows = .ok q') :
      Given m q' []

/-- **A row keeps the effective values** of what was given. -/
structure Keeps (m : Model) (values : Keyed Value) (given : List (String × Value)) : Prop where
  row : IsRow m values
  effective : ∀ f ∈ m.fields, values.get? f.name = m.effective? given f

/-- At first these are the defaults. -/
theorem keeps_defaults (hm : m.Registered) : Keeps m m.defaults [] where
  row := isRow_defaults hm
  effective f hf := by
    refine Option.ext fun w => ?_
    rw [Model.get?_defaults_iff hm.fieldNames_nodup, Model.effective?_nil]
    constructor
    · rintro ⟨g, hg, hname, hdefault⟩
      rwa [Model.eq_of_name hm.fieldNames_nodup hg hf hname] at hdefault
    · exact fun hdefault => ⟨f, hf, rfl, hdefault⟩

/-- **A value under a key that stands for no field** is passed over. -/
theorem Keeps.pass (h : Keeps m values given) (hm : m.Registered) (hkey : m.field? key = none) :
    Keeps m values (given ++ [(key, v)]) where
  row := h.row
  effective f hf := by
    have hother : ¬ m.Addresses key f := by
      rw [← hm.field?_eq_some_iff, hkey]
      exact nofun
    rw [Model.effective?_concat_other hother, h.effective f hf]

/-- **A value for a field** replaces what is kept for it, and for no other field. -/
theorem Keeps.put (h : Keeps m values given) (hm : m.Registered) (hkey : m.field? key = some f)
    (hw : f.toApplication v = .ok w) : Keeps m (values.put f.name w) (given ++ [(key, v)]) where
  row := h.row.put (Model.mem_of_field? hkey) w
  effective g hg := by
    have hf := hm.field?_eq_some_iff.1 hkey
    by_cases hsame : g = f
    · subst hsame
      rw [Keyed.get?_put_self, Model.effective?_concat_self hf hw]
    · have hname : g.name ≠ f.name := fun hname =>
        hsame (Model.eq_of_name hm.fieldNames_nodup hg hf.1 hname)
      have hother : ¬ m.Addresses key g := fun hg' => hsame (hm.eq_of_addresses hg' hf)
      rw [Keyed.get?_put_of_ne _ _ hname, Model.effective?_concat_other hother, h.effective g hg]

/-- **Merging values** keeps the effective values, pair by pair. -/
theorem Keeps.merge (hm : m.Registered) : ∀ {cells : List (String × Value)} {values : Keyed Value}
    {given : List (String × Value)}, Keeps m values given → merge m values cells = .ok values' →
      Keeps m values' (given ++ cells)
  | [], values, given, h, hmerge => by
      obtain rfl := Except.ok.inj hmerge
      rwa [List.append_nil]
  | (key, v) :: rest, values, given, h, hmerge => by
      unfold Insert.merge at hmerge
      rw [List.append_cons]
      cases hkey : m.field? key with
      | none =>
          rw [hkey] at hmerge
          exact (h.pass hm hkey).merge hm hmerge
      | some f =>
          rw [hkey] at hmerge
          obtain ⟨w, hw, hmerge⟩ := bind_ok.1 hmerge
          exact (h.put hm hkey hw).merge hm hmerge

/-- **Every sequence of calls** leaves the effective values in the row. -/
theorem Given.keeps (hm : m.Registered) (h : Given m q given) :
    q.model = m ∧ Keeps m q.rowValues given := by
  induction h with
  | new => exact ⟨rfl, keeps_defaults hm⟩
  | set _ hset ih =>
      obtain ⟨rfl, hkeeps⟩ := ih
      obtain ⟨values, hvalues, hq⟩ := bind_ok.1 hset
      obtain rfl := pure_ok.1 hq
      exact ⟨rfl, hkeeps.merge hm hvalues⟩
  | @setBulk q q' given names rows _ hset ih =>
      obtain ⟨rfl, -⟩ := ih
      have hq : q' = { q with data := .bulk names rows } := by
        unfold Insert.setBulk at hset
        repeat' split at hset
        all_goals first | cases hset; done | exact (Except.ok.inj hset).symm
      subst hq
      exact ⟨rfl, keeps_defaults hm⟩

/-! ## §5. What the row writes. -/

/-- **What a value of the row writes** is a cell for the field that it is kept under, if the
field can hold it. -/
theorem cell_iff (hm : m.Registered) (hrow : IsRow m values) {kept : String × Value}
    (hkept : kept ∈ sortedByKey values) {cell : Field × Value} :
    ((m.field? kept.1).bind fun field =>
        if !kept.2.isNull || field.nullable then some (field, kept.2) else none) = some cell
      ↔ cell.1 ∈ m.fields ∧ (cell.1.name, cell.2) = kept
        ∧ (cell.2.isNull = false ∨ cell.1.nullable = true) := by
  obtain ⟨name, u⟩ := kept
  obtain ⟨f, w⟩ := cell
  constructor
  · intro hcell
    obtain ⟨g, hg, hcell⟩ := Option.bind_eq_some_iff.1 hcell
    obtain ⟨g', hg', rfl⟩ := hrow.known name
      (List.mem_map_of_mem ((sorted_perm _ values).mem_iff.1 hkept))
    rw [Model.field?_name hm.fieldNames_nodup hg', Option.some_inj] at hg
    subst hg
    split at hcell
    · next hwritten =>
        obtain ⟨rfl, rfl⟩ := Prod.mk.inj (Option.some.inj hcell)
        exact ⟨hg', rfl, by simpa using hwritten⟩
    · cases hcell
  · rintro ⟨hf, hsame, hnull⟩
    obtain ⟨rfl, rfl⟩ := Prod.mk.inj hsame
    rw [Model.field?_name hm.fieldNames_nodup hf, Option.bind_some, if_pos (by simpa using hnull)]

/-- A cell is written for what the row keeps for its field, if the field can hold it. -/
theorem mem_written_iff (hm : m.Registered) (hrow : IsRow m values) :
    (f, w) ∈ written m values
      ↔ f ∈ m.fields ∧ values.get? f.name = some w ∧ (w.isNull = false ∨ f.nullable = true) := by
  unfold written
  rw [List.mem_filterMap, ← Keyed.mem_sortedByKey_iff hrow.distinct]
  constructor
  · rintro ⟨kept, hmem, hcell⟩
    obtain ⟨hf, rfl, hnull⟩ := (cell_iff hm hrow hmem).1 hcell
    exact ⟨hf, hmem, hnull⟩
  · rintro ⟨hf, hmem, hnull⟩
    exact ⟨_, hmem, (cell_iff hm hrow hmem).2 ⟨hf, rfl, hnull⟩⟩

/-- The names of the written fields are in order, and none comes twice. -/
theorem written_ordered (hm : m.Registered) (hrow : IsRow m values) :
    ((written m values).map (·.1.name)).Pairwise (· < ·) := by
  have hordered := Keyed.sortedByKey_pairwise_lt hrow.distinct
  refine List.pairwise_map.2 ((List.Pairwise.and_mem.1 hordered).filterMap _ ?_)
  rintro kept kept' ⟨hmem, hmem', hlt⟩ cell hcell cell' hcell'
  obtain ⟨-, rfl, -⟩ := (cell_iff hm hrow hmem).1 hcell
  obtain ⟨-, rfl, -⟩ := (cell_iff hm hrow hmem').1 hcell'
  exact hlt

/-- **The cells that are written** are those of the effective record. -/
theorem Keeps.effectiveCells (h : Keeps m values given) (hm : m.Registered) :
    m.EffectiveCells given (written m values) := by
  have hordered := written_ordered hm h.row
  have hmem : ∀ f w, (f, w) ∈ written m values ↔ f ∈ m.fields ∧ m.effective? given f = some w
      ∧ (w.isNull = false ∨ f.nullable = true) := by
    intro f w
    rw [mem_written_iff hm h.row]
    exact and_congr_right fun hf => by rw [h.effective f hf]
  refine ⟨hmem, hordered, ?_⟩
  -- Cells of one column are for one field, and so they have one name.
  rw [List.nodup_iff_pairwise_ne, List.pairwise_map]
  refine (List.Pairwise.and_mem.1 (List.pairwise_map.1 hordered)).imp ?_
  rintro ⟨f, v⟩ ⟨g, w⟩ ⟨hf, hg, hlt⟩ hcolumn
  have hsame := hm.eq_of_column ((hmem f v).1 hf).1 ((hmem g w).1 hg).1 hcolumn
  exact absurd (hsame ▸ hlt) (String.lt_irrefl _)

/-- **A rendered row** inserts the cells that are written. -/
theorem statement_inserts {d : Dialect} {st : Statement} (hq : q.data = .row values)
    (h : q.statement d = .ok st) : st.Inserts d q.model (written q.model values) := by
  obtain ⟨hstored, hsql⟩ := insert_row_ok hq h
  refine ⟨hsql, ?_, fun hfilled => ?_, ?_⟩
  · rw [hsql]
    unfold Dialect.insertWithKey Dialect.insert
    simp only [Sql.slots_append, Sql.slots_lit, slots_columnsSql, slots_valuesSql]
    cases d.returnsKey <;> simp
  · have hcolumns : ∀ f ∈ (written q.model values).map (·.1), f.column ≠ "" := by
      intro f hf
      obtain ⟨cell, hcell, rfl⟩ := List.mem_map.1 hf
      exact hfilled cell hcell
    unfold Statement.text
    rw [hsql]
    unfold Dialect.insertWithKey Dialect.insert
    simp only [Sql.text_append, Sql.text_lit, text_columnsSql hcolumns, text_valuesSql, List.map_map]
    cases d.returnsKey
    · rfl
    · simp only [if_true, Sql.text_lit, String.append_assoc]
      rfl
  · refine List.forall₂_iff_zip.2 ⟨(length_mapM_ok hstored).symm, fun {cell p} hpair => ?_⟩
    exact (zip_mapM_ok hstored).1 (cell, p) hpair

end Insert

/-- **An insert of one row writes the effective record**, in every dialect: its columns are
those of the fields whose effective value, of all the calls that set values, can be held, each
once and sorted by field name; as many placeholders follow, and the parameters are the
storage forms of these values, in the same order. -/
theorem insert_writes_effective_record {m : Model} (hm : m.Registered) {q : Insert}
    {given : List (String × Value)} (hgiven : Insert.Given m q given) (hrow : q.isBulk = false)
    {d : Dialect} {st : Statement} (h : q.statement d = .ok st) :
    ∃ cells, m.EffectiveCells given cells ∧ st.Inserts d m cells := by
  obtain ⟨rfl, hkeeps⟩ := hgiven.keeps hm
  obtain ⟨m, data⟩ := q
  cases data with
  | row values => exact ⟨_, hkeeps.effectiveCells hm, Insert.statement_inserts rfl h⟩
  | bulk names rows => cases hrow

namespace Sample

/-- What a player is given in two calls: the nickname under both of its keys, a field that there
is not, and no primary key. -/
def givenPlayer : List (String × Value) :=
  [("NICK", text "Bo"), ("age", int 3)] ++ [("nickname", text "Ann"), ("id", .null)]

end Sample

open Sample in
/-- The player is inserted under the nickname of the second call, in the first level. -/
theorem player_inserted : ∃ q st cells, Insert.Given player q givenPlayer ∧ q.isBulk = false
    ∧ q.statement .oracle = .ok st ∧ player.EffectiveCells givenPlayer cells
    ∧ st.Inserts .oracle player cells
    ∧ st.text = "INSERT INTO player (level, nick) VALUES (:a0, :a1) RETURNING id INTO :insert_id"
    ∧ st.parameters = [int 1, text "Ann"] := by
  have hfirst : (Insert.new player).set [("NICK", text "Bo"), ("age", int 3)]
      = .ok ⟨player, .row [("level", int 1), ("nickname", text "Bo")]⟩ := rfl
  have hsecond : (⟨player, .row [("level", int 1), ("nickname", text "Bo")]⟩ : Insert).set
      [("nickname", text "Ann"), ("id", .null)]
      = .ok ⟨player, .row [("level", int 1), ("nickname", text "Ann"), ("id", .int64 none)]⟩ := rfl
  have hgiven := Insert.Given.set (.set .new hfirst) hsecond
  obtain ⟨cells, hcells, hinserts⟩ :=
    insert_writes_effective_record player_registered hgiven rfl (d := .oracle) rfl
  exact ⟨_, _, cells, hgiven, rfl, rfl, hcells, hinserts, by decide +kernel, rfl⟩

end RecordMapper
