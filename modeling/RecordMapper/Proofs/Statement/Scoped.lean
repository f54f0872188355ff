/-
  RecordMapper.Proofs.Statement.Scoped
  ────────────────────────────────
  **COLUMNS BEHIND THE ALIASES OF THEIR TABLES.**

  A joined select writes every column behind the alias of its table.  The alias is looked
  up under the name of the model, so it is the one that the from clause declares for that
  table; and a join condition, which is written before the tables behind it are declared,
  has only columns of tables before it and of its own.

  Main result: `joined_select_scopes_its_tables`.
-/
import RecordMapper.Proofs.Condition.Written
import RecordMapper.Proofs.Query.Joined
import RecordMapper.Proofs.Statement.Marks

namespace RecordMapper

/-! ## §1. How a select refers to its tables. -/

namespace Select

/-- The alias of a table, under the name of its model; empty when it has none. -/
def aliasOf (q : Select) (table : String) : String :=
  (q.aliases.get? table).getD ""

/-- **A column as the select refers to it**: behind the alias of its table and a point,
when the table has an alias. -/
def reference (q : Select) (field : Attribute) : String :=
  if q.aliasOf field.model = "" then field.column else q.aliasOf field.model ++ "." ++ field.column

/-- **A table as the from clause declares it**: with its alias behind it, when it has
one. -/
def declaration (q : Select) (m : Model) : String :=
  if q.aliasOf m.name = "" then m.table else m.table ++ " " ++ q.aliasOf m.name

/-- A selected column. -/
def selectedText (q : Select) (f : Field) : Sql :=
  match f.displayName with
  | some name => Sql.lit (q.reference f.toAttribute) ++ Sql.lit (" AS " ++ name)
  | none => Sql.lit (q.reference f.toAttribute)

/-- A joined table and its condition. -/
def joinText (q : Select) (m : Model) (join : Join) : Sql :=
  Sql.lit (Dialect.joinKeyword join.type ++ " JOIN " ++ q.declaration m ++ " ON ")
    ++ (Sql.lit (q.reference join.lhs) ++ Sql.lit " = " ++ Sql.lit (q.reference join.rhs))

/-- A sort key. -/
def sortText (q : Select) (key : SortKey) : Sql :=
  Sql.lit (q.reference key.field) ++ Sql.lit (" " ++ Dialect.direction key.direction)

/-- **The text of a select**, its condition given: every table by its declaration, every
column by its reference. -/
def scopedText (q : Select) (d : Dialect) (condition : Sql) : Sql :=
  d.paging.apply
    (Dialect.select {
      distinct := q.distinct
      columns := Sql.joined ", " (q.outputFields.map q.selectedText)
      table := Sql.lit (q.declaration q.model)
      join := Sql.joined " " (q.joins.map fun (m, join) => q.joinText m join)
      condition := condition
      groupBy := Sql.joined ", " (q.groupBy.map fun f => Sql.lit (q.reference f))
      having := []
      orderBy := if q.distinct then [] else Sql.joined ", " (q.orderBy.map q.sortText) })
    (positive q.limit) (positive q.offset)

/-! ## §2. Every clause is written so. -/

section

variable {p : Product} {q : Select}

/-- **A column is written as the select refers to it**, in every clause. -/
theorem column_eq (clause : Clause) (field : Attribute) :
    (((q.setting p.dialect).inClause clause).column field : Sql) = Sql.lit (q.reference field) := by
  have hqualified : q.aliasOf field.model ≠ "" → q.aliases.isEmpty = false := by
    intro h
    unfold aliasOf at h
    cases haliases : q.aliases with
    | nil =>
        rw [haliases] at h
        exact absurd rfl h
    | cons a rest => rfl
  unfold Setting.column Dialect.column
  show Sql.lit (p.dialect.columnRef _ (q.aliasOf field.model) field.column) = _
  rw [p.columnRef_eq]
  unfold Dialect.plainColumnRef reference
  by_cases halias : q.aliasOf field.model = ""
  · simp [halias]
  · have hplace : ((q.setting p.dialect).inClause clause).place.qualified = true := by
      show (!q.aliases.isEmpty) = true
      rw [hqualified halias]
      rfl
    simp [halias, hplace]

/-- A table is written as it is declared, where aliases are declared. -/
theorem tableRef_eq {place : Place} (hplace : Dialect.declaresAlias place = true) (m : Model) :
    Dialect.tableRef place m.table (q.aliasOf m.name) = q.declaration m := by
  unfold Dialect.tableRef declaration
  by_cases halias : q.aliasOf m.name = "" <;> simp [halias, hplace]

/-- **A select is written in terms of its own declarations and references.** -/
theorem assemble_eq_scopedText (condition : Sql) :
    q.assemble (q.setting p.dialect) q.outputFields condition = q.scopedText p.dialect condition := by
  have hcolumn : ∀ field : Attribute, ((q.setting p.dialect).column field : Sql)
      = Sql.lit (q.reference field) := column_eq .select
  have hselected : columnSql (q.setting p.dialect) = q.selectedText := by
    funext f
    unfold columnSql selectedText
    rw [hcolumn]
    rfl
  have hjoin : ∀ m join, joinSql (q.setting p.dialect) m join = q.joinText m join := by
    intro m join
    unfold joinSql joinText Dialect.joinClause
    rw [hcolumn, hcolumn]
    show Sql.lit (_ ++ _ ++ Dialect.tableRef _ m.table (q.aliasOf m.name) ++ _) ++ _ = _
    rw [tableRef_eq (by rfl)]
    rfl
  have htable : (q.tableSql (q.setting p.dialect) : Sql) = Sql.lit (q.declaration q.model) := by
    unfold tableSql
    show Sql.lit (Dialect.tableRef _ q.model.table (q.aliasOf q.model.name)) = _
    rw [tableRef_eq (by rfl)]
  have hgroup : (((q.setting p.dialect).inClause .selectGroupBy).column : Attribute → Sql)
      = fun f => Sql.lit (q.reference f) := funext (column_eq .selectGroupBy)
  have hsort : sortSql ((q.setting p.dialect).inClause .selectOrderBy) = q.sortText := by
    funext key
    unfold sortSql sortText
    rw [column_eq]
  unfold assemble parts scopedText
  simp only [hselected, hjoin, htable, hgroup, hsort]
  rfl

end

end Select

/-! ## §3. The atoms of a where clause. -/

mutual

/-- **The atoms of a rendered condition** are its leaves, each as it is written. -/
theorem formula_atoms {s : Setting} : ∀ {c : Condition} {k : Nat} {f : Formula Sql}
    {ps : List Value}, c.formula s k = .ok (f, ps) →
      List.Forall₂ (Comparison.IsWritten s) c.leaves (Formula.atoms f.pieces)
  | .leaf field op operand negated, k, f, ps, h => by
      obtain ⟨sql, rfl, hwritten⟩ := formula_leaf_written h
      have hatoms : Formula.atoms (Formula.atom sql negated).pieces = [sql] := by
        cases negated <;> rfl
      rw [hatoms]
      exact .cons hwritten .nil
  | .set connector children negated, k, f, ps, h => by
      obtain ⟨fs, rfl, hfs⟩ := formula_set_ok h
      show List.Forall₂ _ _ (Formula.atoms (Formula.connect connector negated (Formula.pieces.go fs)))
      rw [Formula.atoms_connect]
      exact formulas_atoms hfs

theorem formulas_atoms {s : Setting} : ∀ {cs : List Condition} {k : Nat} {fs : List (Formula Sql)}
    {ps : List Value}, Condition.formulas s k cs = .ok (fs, ps) →
      List.Forall₂ (Comparison.IsWritten s) (Condition.leavesOfAll cs)
        ((Formula.pieces.go fs).flatMap Formula.atoms)
  | [], k, fs, ps, h => by
      obtain ⟨rfl, _⟩ := formulas_nil_ok h
      exact .nil
  | c :: rest, k, fs, ps, h => by
      obtain ⟨f, qs, gs, rs, hf, hgs, rfl, _⟩ := formulas_cons_ok h
      exact List.rel_append (formula_atoms hf) (formulas_atoms hgs)

end

/-! ## §4. Joined selects. -/

/-- **A comparison of the select itself** is written with its column as the select refers
to it; what its operand writes has a scope of its own. -/
def Comparison.IsScoped (q : Select) (d : Dialect) (leaf : Comparison) (sql : Sql) : Prop :=
  ∃ values, sql = d.operation leaf.op (Sql.lit (q.reference leaf.field)) values
    ∧ (leaf.op.isNullTest = true ∧ values = []
      ∨ ∃ k ps, leaf.operand.bind ((q.setting d).inClause .selectWhere) k leaf.field leaf.op
          = .ok (values, ps))

/-- **A joined select scopes its tables.**  Every join equates a foreign key with the field
that it refers to, one of them in the model that was active then and the other in the one
that was joined.  The tables of the from clause have different aliases, none of them
empty; a join condition has columns of its own table and of tables before it.  The
statement writes every table by its declaration and every column by its reference, also
in the atoms of the where clause; and the reference of a column of one of the tables is
the column behind the alias that is declared for the table. -/
theorem joined_select_scopes_its_tables {p : Product} {q : Select} {done : List Select.Joining}
    (h : q.Composed done) {st : Statement} (hst : q.statement p.dialect = .ok st) :
    List.Forall₂ Select.Joining.IsKept done q.joined
      ∧ (q.tables.map q.aliasOf).Nodup
      ∧ Select.OnScoped [q.model.name] q.joined
      ∧ (done ≠ [] → ∀ m : Model, m.name ∈ q.tables →
          q.declaration m = m.table ++ " " ++ q.aliasOf m.name ∧ q.aliasOf m.name ≠ "")
      ∧ (done ≠ [] → ∀ field : Attribute, field.model ∈ q.tables →
          q.reference field = q.aliasOf field.model ++ "." ++ field.column)
      ∧ ∃ ps : List (Piece Sql), st.sql = q.scopedText p.dialect (ps.flatMap Piece.write)
        ∧ List.Forall₂ (Comparison.IsScoped q p.dialect) (Condition.leavesOfAll q.filter)
            (Formula.atoms ps) := by
  have htables := h.tables
  have haliases : done ≠ [] → q.tables.map q.aliasOf = q.aliases.map (·.2) ∧ Aliases q.tables q.aliases := by
    intro hdone
    have hall := htables.aliases
    rw [if_neg hdone] at hall
    refine ⟨?_, hall⟩
    rw [← hall.keys]
    exact Aliases.map_get?_keys (hall.keys ▸ htables.distinct)
  have hne : done ≠ [] → ∀ table ∈ q.tables, q.aliasOf table ≠ "" := by
    intro hdone table htable hempty
    obtain ⟨hmap, hall⟩ := haliases hdone
    refine hall.nonempty ?_
    rw [← hmap, ← hempty]
    exact List.mem_map_of_mem htable
  refine ⟨htables.joined, ?_, htables.inScope, fun hdone m hm => ?_, fun hdone field hfield => ?_, ?_⟩
  · by_cases hdone : done = []
    · have hjoined : q.joined = [] := by
        have hkept := htables.joined
        rw [hdone] at hkept
        exact List.forall₂_nil_left_iff.1 hkept
      unfold Select.tables
      rw [hjoined]
      exact List.nodup_singleton _
    · obtain ⟨hmap, hall⟩ := haliases hdone
      rw [hmap]
      exact hall.distinct
  · have halias := hne hdone _ hm
    exact ⟨if_neg halias, halias⟩
  · exact if_neg (hne hdone _ hfield)
  · obtain ⟨w, hw, hsql, _⟩ := render_ok hst
    obtain ⟨fs, hfs, hwhere⟩ := whereClause_ok hw
    refine ⟨(Formula.set .and fs false).pieces, ?_, ?_⟩
    · rw [hsql, hwhere, Select.assemble_eq_scopedText]
      rfl
    · show List.Forall₂ _ _ (Formula.atoms (Formula.connect .and false (Formula.pieces.go fs)))
      rw [Formula.atoms_connect]
      refine (formulas_atoms hfs).imp fun leaf sql hleaf => ?_
      obtain ⟨values, rfl, hvalues⟩ := hleaf
      rw [Select.column_eq]
      exact ⟨values, rfl, hvalues⟩

namespace Sample

/-- Authors and books, registered one after the other. -/
def library : Catalog :=
  match Catalog.empty.register authorPlan with
  | .ok (_, catalog) =>
    match catalog.register bookPlan with
    | .ok (_, catalog) => catalog
    | .error _ => catalog
  | .error _ => .empty

/-- The authors with the books that they wrote about the sea, the books under an alias that
the authors take. -/
def writers : Except Failure Select := do
  let q ← (Select.ofModel author).join library book .left (some "author_id") (some "t1")
  let q ← q.activate book
  return (q.restrict (.leaf bookTitle.toAttribute .contains (.value (text "sea")) false)).sort
    [.name "-title"]

theorem writers_composed {q : Select} (h : writers = .ok q) : q.Composed [⟨author, book, .left⟩] := by
  obtain ⟨joined, hjoin, h⟩ := bind_ok.1 h
  obtain ⟨activated, hactivate, h⟩ := bind_ok.1 h
  obtain rfl := pure_ok.1 h
  have hjoined : joined.Composed [⟨author, book, .left⟩] :=
    .call library (.join book .left (some "author_id") (some "t1")) (.start author_declared)
      ⟨book_declared, by decide, by decide⟩ hjoin
  have hactivated : activated.Composed [⟨author, book, .left⟩] :=
    .call library (.activate book) hjoined book_declared hactivate
  exact .call library (.sort [.name "-title"])
    (.call library (.restrict _) hactivated trivial rfl) trivial rfl

end Sample

open Sample in
/-- The books get the next alias, and stand behind it everywhere. -/
theorem writers_scoped : ∃ q st, writers = .ok q ∧ q.statement Product.sqlite.dialect = .ok st
    ∧ st.text = "SELECT t1.id, t1.name, t2.id, t2.title, t2.author_id, t2.editor_id FROM author t1 "
      ++ "LEFT OUTER JOIN book t2 ON t1.id = t2.author_id WHERE (t2.title LIKE ?) "
      ++ "ORDER BY t2.title DESC"
    ∧ List.Forall₂ Select.Joining.IsKept [⟨author, book, .left⟩] q.joined
    ∧ (q.tables.map q.aliasOf).Nodup
    ∧ q.reference bookTitle.toAttribute = q.aliasOf "Book" ++ "." ++ "title" := by
  have htext : (writers >>= (Select.statement · Product.sqlite.dialect)).toOption.map Statement.text
      = some ("SELECT t1.id, t1.name, t2.id, t2.title, t2.author_id, t2.editor_id FROM author t1 "
        ++ "LEFT OUTER JOIN book t2 ON t1.id = t2.author_id WHERE (t2.title LIKE ?) "
        ++ "ORDER BY t2.title DESC") := by
    decide +kernel
  obtain ⟨st, hst, htext⟩ := ok_of_toOption_map htext
  obtain ⟨q, hq, hst⟩ := bind_ok.1 hst
  obtain ⟨hkept, hdistinct, -, -, hreference, -⟩ :=
    joined_select_scopes_its_tables (writers_composed hq) hst
  have hbook : "Book" ∈ q.tables := by
    have htables : writers.toOption.map Select.tables = some ["Author", "Book"] := by
      decide +kernel
    rw [hq] at htables
    rw [Option.some.inj htables]
    decide
  exact ⟨q, st, hq, hst, htext, hkept, hdistinct, hreference (by simp) _ hbook⟩

end RecordMapper
