/-
  RecordMapper.Proofs.Condition.Meaning
  ────────────────────────────────
  **THE WHERE CLAUSE SAYS WHAT WAS PASSED.**

  A query is given conditions one after the other and asks for the rows of which
  all of them hold.  The database is given a text.  That text says the same: behind its
  WHERE stands one clause; read by precedence the clause has one reading, its atoms are the
  comparisons in the order in which they were passed, and for every row its value is that of
  the conditions.  This goes for the statement of a query and for every select nested in one.

  Everything about the clause is said in words: AND, OR, NOT, the parentheses and the words
  of each comparison stand in §1, apart from the renderer.

  Main result: `where_clause_says_what_was_passed`.
-/
import RecordMapper.Proofs.Condition.Written
import RecordMapper.Proofs.Query.Built
import RecordMapper.Proofs.Sample
import RecordMapper.Proofs.Statement.Around
import RecordMapper.Proofs.Statement.Worded

namespace RecordMapper

/-! ## §1. Clauses and their conditions. -/

/-- **The words of a clause**, piece by piece. -/
def Piece.words : Piece String → String
  | .opening => "("
  | .closing => ")"
  | .not => "NOT "
  | .connective .and => " AND "
  | .connective .or => " OR "
  | .connective .comma => ", "
  | .atom text => text

/-- **What an operand writes**, behind `k` parameters: a placeholder for each value, the
statement of a select, and nothing for NULL. -/
inductive Operand.Worded (d : Dialect) (clause : Clause) (k : Nat) : Operand → List String → Prop
  | null {v : Value} (h : v.isNull = true) : Worded d clause k (.value v) []
  | value {v : Value} (h : v.isNull = false) : Worded d clause k (.value v) [d.placeholder clause k]
  | list (vs : List Value) :
      Worded d clause k (.list vs) ((List.range' k vs.length).map (d.placeholder clause))
  | query {q : Select} {st : Statement} (h : q.render d k q.operandFields = .ok st) :
      Worded d clause k (.query q) [st.text]

/-- **A comparison in words**: its operator between its column and what its operand
writes. -/
inductive Comparison.Worded (d : Dialect) (clause : Clause) (column : Attribute → String)
    (leaf : Comparison) : String → Prop
  | nullTest {word : String} (h : leaf.op.nullWord? = some word) :
      Worded d clause column leaf (column leaf.field ++ word)
  | framed {before after : String} {k : Nat} {values : List String}
      (h : d.frame? leaf.op (column leaf.field) = some (before, after))
      (hoperand : leaf.operand.Worded d clause k values) :
      Worded d clause column leaf (before ++ values.headD "" ++ after)
  | between {k : Nat} {values : List String} (h : leaf.op = .between)
      (hoperand : leaf.operand.Worded d clause k values) :
      Worded d clause column leaf
        (column leaf.field ++ " BETWEEN " ++ values.headD "" ++ " AND " ++ values.getD 1 "")
  | among {word : String} {k : Nat} {values : List String} (h : leaf.op.listWord? = some word)
      (hoperand : leaf.operand.Worded d clause k values) :
      Worded d clause column leaf
        (column leaf.field ++ word ++ ("(" ++ ", ".intercalate values ++ ")"))

/-- **The clause says what the conditions mean.**  Without a condition it is empty.
Otherwise it is not, its atoms are the leaves of the conditions in words, and it has one
reading; the value of that reading is that all of the conditions hold, whichever value
each leaf has. -/
structure ClauseSays (d : Dialect) (clause : Clause) (column : Attribute → String)
    (passed : List Condition) (text : String) : Prop where
  empty : passed = [] → text = ""
  reads : passed ≠ [] → text ≠ ""
    ∧ ∃ ps : List (Piece String), text = String.join (ps.map Piece.words)
      ∧ List.Forall₂ (Comparison.Worded d clause column) (Condition.leavesOfAll passed)
          (Formula.atoms ps)
      ∧ ∃ e, (∀ e', Reads .search (Formula.enumerate 0 ps) e' ↔ e' = e)
        ∧ ∀ σ, e.value σ = Truth.all (Condition.values σ 0 passed)

/-! ## §2. Rendered clauses in words. -/

namespace Setting

variable {s : Setting}

/-- **An operand is rendered in words**, none of which is blank. -/
theorem worded_bind {k : Nat} {field : Attribute} {op : Operator} {operand : Operand}
    {values : List Sql} {ps : List Value} (h : operand.bind s k field op = .ok (values, ps)) :
    operand.Worded s.dialect s.place.clause k (values.map Sql.text)
      ∧ ∀ a ∈ values, a.isBlank = false := by
  have htexts : ∀ n, (s.slots k n).map Sql.text
      = (List.range' k n).map (s.dialect.placeholder s.place.clause) := by
    intro n
    unfold slots
    rw [List.map_map]
    exact List.map_congr_left fun i _ => text_slot _ _ i
  have hfilled : ∀ n, ∀ a ∈ s.slots k n, a.isBlank = false := by
    intro n a ha
    obtain ⟨i, -, rfl⟩ := List.mem_map.1 ha
    rfl
  cases operand with
  | value v =>
      rcases bind_value_ok h with ⟨hv, rfl, -⟩ | ⟨hv, rfl, -⟩
      · exact ⟨.null hv, fun a ha => nomatch ha⟩
      · rw [htexts]
        exact ⟨.value hv, hfilled 1⟩
  | list vs =>
      obtain ⟨rfl, -⟩ := bind_list_ok h
      rw [htexts]
      exact ⟨.list vs, hfilled _⟩
  | query q =>
      obtain ⟨st, hst, rfl, -⟩ := bind_query_ok h
      refine ⟨.query hst, ?_⟩
      obtain ⟨w, -, hsql, -⟩ := render_ok hst
      rw [List.forall_mem_singleton, hsql]
      exact q.isBlank_assemble _ _ _

/-- **A comparison is rendered in words.** -/
theorem worded_comparison {leaf : Comparison} {sql : Sql} (h : leaf.IsWritten s sql) :
    leaf.Worded s.dialect s.place.clause (fun f => (s.column f : Sql).text) sql.text := by
  obtain ⟨values, rfl, hvalues⟩ := h
  have hcolumn : (s.column leaf.field : Sql) = Sql.lit (s.column leaf.field : Sql).text := by
    unfold column Dialect.column
    rw [Sql.text_lit]
  -- Only a null test is written without its operand.
  have hworded : leaf.op.isNullTest = false → ∃ k,
      leaf.operand.Worded s.dialect s.place.clause k (values.map Sql.text)
        ∧ ∀ a ∈ values, a.isBlank = false := by
    intro hop
    obtain ⟨hnull, -⟩ | ⟨k, ps, hbind⟩ := hvalues
    · rw [hop] at hnull
      cases hnull
    · exact ⟨k, worded_bind hbind⟩
  have hfirst : (values.map Sql.text).headD "" = (values.headD []).text := by
    cases values <;> rfl
  have hsecond : (values.map Sql.text).getD 1 "" = (values.getD 1 []).text := by
    rcases values with _ | ⟨_, _ | _⟩ <;> rfl
  rw [hcolumn]
  rcases leaf.op.forms with ⟨symbol, hsymbol⟩ | ⟨word, hword⟩ | hop | ⟨word, hword⟩
  · obtain ⟨before, after, hframe⟩ :=
      Dialect.exists_frame s.dialect (s.column leaf.field : Sql).text hsymbol
    obtain ⟨k, hoperand, -⟩ := hworded (Operator.isNullTest_of_symbol hsymbol)
    rw [Dialect.text_operation_frame hframe, ← hfirst]
    exact .framed hframe hoperand
  · rw [Dialect.text_operation_nullTest hword]
    exact .nullTest hword
  · obtain ⟨k, hoperand, -⟩ := hworded (by rw [hop]; rfl)
    rw [hop, Dialect.text_operation_between, ← hfirst, ← hsecond]
    exact .between hop hoperand
  · obtain ⟨k, hoperand, hfilled⟩ := hworded (Operator.isNullTest_of_listWord hword)
    rw [Dialect.text_operation_list hword, Sql.text_joined ", " hfilled]
    exact .among hword hoperand

end Setting

namespace Formula

variable {α β : Type}

theorem atoms_map (g : α → β) (ps : List (Piece α)) :
    atoms (ps.map (Piece.map g)) = (atoms ps).map g := by
  induction ps with
  | nil => rfl
  | cons p ps ih =>
      cases p with
      | atom a => exact congrArg (g a :: ·) ih
      | _ => exact ih

/-- Numbers of atoms do not depend on what the atoms are. -/
theorem enumerate_map (g : α → β) : ∀ (k : Nat) (ps : List (Piece α)),
    enumerate k (ps.map (Piece.map g)) = enumerate k ps
  | _, [] => rfl
  | k, p :: ps => by
      have ih := enumerate_map g (k + p.width fun _ => 1) ps
      cases p <;> exact congrArg (_ :: ·) ih

/-- **Pieces are written in words.** -/
theorem text_write (ps : List (Piece Sql)) :
    Sql.text (ps.flatMap Piece.write) = String.join ((ps.map (Piece.map Sql.text)).map Piece.words) := by
  have hpiece : ∀ p : Piece Sql, p.write.text = (p.map Sql.text).words := by
    intro p
    cases p with
    | atom a => rfl
    | connective c => cases c <;> exact Sql.text_lit _
    | _ => exact Sql.text_lit _
  induction ps with
  | nil => rfl
  | cons p ps ih =>
      rw [List.flatMap_cons, Sql.text_append, ih, hpiece, List.map_cons, List.map_cons, String.join_cons]

/-- A set that is written begins with a parenthesis. -/
theorem pieces_set (c : Connector) (fs : List (Formula α)) :
    (set c fs false).pieces = [] ∨ ∃ rest, (set c fs false).pieces = .opening :: rest := by
  unfold pieces connect
  split
  · exact .inl rfl
  · exact .inr ⟨_, rfl⟩

end Formula

/-- Whether a where clause is blank can be seen from its text. -/
theorem whereClause_apparent {s : Setting} {k : Nat} {filter : List Condition} {w : Statement}
    (h : s.whereClause k filter = .ok w) : Sql.Apparent w.sql := by
  obtain ⟨fs, -, hsql⟩ := whereClause_ok h
  rw [hsql]
  unfold Formula.write
  rcases Formula.pieces_set .and fs with hnil | ⟨rest, hrest⟩
  · rw [hnil]
    rfl
  · rw [hrest, List.flatMap_cons]
    unfold Sql.Apparent
    rw [Sql.text_append]
    simp [Piece.write, Sql.lit, Sql.isBlank, Token.isBlank, Sql.text, Token.write]

/-- **A where clause says what was passed** when its filter gathers it. -/
theorem whereClause_says {s : Setting} {column : Attribute → String}
    (hcolumn : ∀ f, (s.column f : Sql).text = column f) {k : Nat} {passed filter : List Condition}
    {w : Statement} (hgathers : Gathers passed filter)
    (hproper : Condition.properAll passed = true) (h : s.whereClause k filter = .ok w) :
    ClauseSays s.dialect s.place.clause column passed w.text := by
  obtain rfl : (fun f => (s.column f : Sql).text) = column := funext hcolumn
  refine ⟨fun hnil => ?_, fun hne => ?_⟩
  · rw [hgathers.nil hnil] at h
    obtain ⟨fs, hfs, hsql⟩ := whereClause_ok h
    obtain ⟨rfl, _⟩ := formulas_nil_ok hfs
    unfold Statement.text
    rw [hsql]
    rfl
  · have hfilter := hgathers.ne_nil hproper hne
    obtain ⟨fs, hfs, hsql⟩ := whereClause_ok h
    have hwritten := formulas_written (hgathers.proper hproper) hfs
    have hset : (Condition.set .and filter false).IsWritten s _ :=
      Condition.isWritten_set (by simp) hfilter hwritten
    obtain ⟨e, he, hvalue⟩ := hset.reads 0
    have htext : w.text = Sql.text ((Formula.set .and fs false).pieces.flatMap Piece.write) :=
      congrArg Sql.text hsql
    refine ⟨?_, (Formula.set .and fs false).pieces.map (Piece.map Sql.text), ?_, ?_, e,
      fun e' => ?_, fun σ => ?_⟩
    · intro hempty
      rcases Formula.pieces_set .and fs with hnil | ⟨rest, hrest⟩
      · exact he.ne_nil (congrArg (Formula.enumerate 0) hnil)
      · rw [htext, hrest, List.flatMap_cons, Sql.text_append] at hempty
        have hopening := (String.append_eq_empty_iff.1 hempty).1
        exact absurd hopening (by decide)
    · rw [htext, Formula.text_write]
    · rw [Formula.atoms_map, List.forall₂_map_right_iff, ← hgathers.leaves]
      exact hset.atoms.imp fun _ _ => Setting.worded_comparison
    -- The set is one factor, and a clause has no second reading.
    · have hsearch : Reads .search _ e := .term (.factor he)
      rw [Formula.enumerate_map]
      exact ⟨fun h' => reading_unique hsearch h', fun h' => h' ▸ hsearch⟩
    · rw [hvalue, ← hgathers.value]
      rfl

/-! ## §3. Queries and their clauses. -/

namespace Query

/-- **The text of a query in words**, its condition given. -/
def Worded (d : Dialect) (condition text : String) : Query → Prop
  | .select q => text = q.words d q.outputFields condition
  | .update q => text = q.words d condition
  | .delete q => text = q.words condition
  | .insert _ | .raw _ => False

/-- **The clause of a query says what the conditions mean.** -/
def Says (d : Dialect) (passed : List Condition) (text : String) : Query → Prop
  | .select q => ClauseSays d .selectWhere (q.columnWords d .selectWhere) passed text
  | .update _ =>
    ClauseSays d .updateWhere (fun f => d.columnRef ⟨.updateWhere, false⟩ "" f.column) passed text
  | .delete _ =>
    ClauseSays d .deleteWhere (fun f => d.columnRef ⟨.deleteWhere, false⟩ "" f.column) passed text
  | .insert _ | .raw _ => False

/-- The one clause of a text says what is meant, when some clause of it does. -/
theorem says_of_worded {d : Dialect} {q : Query} {passed : List Condition} {clause text : String}
    (h : ∃ said, (∀ words, q.Worded d words text ↔ words = said) ∧ q.Says d passed said)
    (hclause : q.Worded d clause text) : q.Says d passed clause := by
  obtain ⟨said, honly, hsays⟩ := h
  rw [(honly clause).1 hclause]
  exact hsays

end Query

/-- **A select, behind however many parameters, says what was passed to it**, in the one
clause that it has. -/
theorem Select.render_says {d : Dialect} {q : Select} {passed : List Condition} {k : Nat}
    {fields : List Field} {st : Statement} (hbuilt : q.Built passed)
    (hproper : Condition.properAll passed = true) (h : q.render d k fields = .ok st) :
    ∃ clause, (∀ text, st.text = q.words d fields text ↔ text = clause)
      ∧ (Query.select q).Says d passed clause := by
  obtain ⟨w, hw, hsql, -⟩ := render_ok h
  have htext : st.text = q.words d fields w.text := by
    unfold Statement.text
    rw [hsql]
    exact text_assemble fields (whereClause_apparent hw)
  exact ⟨w.text, fun text => by rw [htext, words_inj, eq_comm],
    whereClause_says (text_column .selectWhere) hbuilt.gathers hproper hw⟩

/-- **An update says what was passed to it**, in the one clause that it has. -/
theorem Update.statement_says {d : Dialect} {q : Update} {passed : List Condition} {st : Statement}
    (hbuilt : q.Built passed) (hproper : Condition.properAll passed = true)
    (h : q.statement d = .ok st) :
    ∃ clause, (∀ text, st.text = q.words d text ↔ text = clause)
      ∧ (Query.update q).Says d passed clause := by
  obtain ⟨ps, w, -, hw, hsql, -⟩ := update_ok h
  have htext : st.text = q.words d w.text := by
    unfold Statement.text
    rw [hsql]
    exact text_update d q (whereClause_apparent hw)
  exact ⟨w.text, fun text => by rw [htext, words_inj, eq_comm],
    whereClause_says (fun _ => Sql.text_lit _) hbuilt.gathers hproper hw⟩

/-- **A deletion says what was passed to it**, in the one clause that it has. -/
theorem Delete.statement_says {d : Dialect} {q : Delete} {passed : List Condition} {st : Statement}
    (hbuilt : q.Built passed) (hproper : Condition.properAll passed = true)
    (h : q.statement d = .ok st) :
    ∃ clause, (∀ text, st.text = q.words text ↔ text = clause)
      ∧ (Query.delete q).Says d passed clause := by
  obtain ⟨w, hw, hsql, -⟩ := delete_ok h
  have htext : st.text = q.words w.text := by
    unfold Statement.text
    rw [hsql]
    exact text_delete q (whereClause_apparent hw)
  exact ⟨w.text, fun text => by rw [htext, words_inj, eq_comm],
    whereClause_says (fun _ => Sql.text_lit _) hbuilt.gathers hproper hw⟩

/-- **The where clause says what was passed.**  For every query that was built by
calls, in every dialect, the text of the statement has one clause behind its WHERE, and
that clause says that all the conditions hold which were passed to the query; and so it is
with every select that is rendered as a part of another statement. -/
theorem where_clause_says_what_was_passed (d : Dialect) {q : Query} {passed : List Condition}
    (hbuilt : q.Built passed) (hproper : ∀ c ∈ passed, c.proper = true) :
    (∀ st, q.statement d = .ok st →
      ∃ clause, (∀ text, q.Worded d text st.text ↔ text = clause) ∧ q.Says d passed clause)
    ∧ ∀ (nested : Select) (k : Nat) (fields : List Field) (st : Statement), q = .select nested →
      nested.render d k fields = .ok st →
      ∃ clause, (∀ text, st.text = nested.words d fields text ↔ text = clause)
        ∧ (Query.select nested).Says d passed clause := by
  have hall := (Condition.properAll_iff passed).2 hproper
  refine ⟨fun st h => ?_, fun nested k fields st hq h => ?_⟩
  · cases hbuilt with
    | select hbuilt => exact Select.render_says hbuilt hall h
    | update hbuilt => exact Update.statement_says hbuilt hall h
    | delete hbuilt => exact Delete.statement_says hbuilt hall h
  · subst hq
    cases hbuilt with
    | select hbuilt => exact Select.render_says hbuilt hall h

namespace Sample

/-- The editor is known, and lies between two. -/
def edited : Condition :=
  .and (.negate (.isNull bookEditor.toAttribute))
    (.leaf bookEditor.toAttribute .between (.list [int 1, int 9]) false)

/-- It is not so that the title holds a part, or else the book is edited. -/
def untitled : Condition :=
  .negate (.or (.leaf bookTitle.toAttribute .contains (.value (text "sea")) false) edited)

/-- The book is edited and by none of some authors. -/
def ownWork : Condition :=
  .and edited (.leaf bookAuthor.toAttribute .isIn (.query authors) true)

/-- The books that are edited and not untitled, by no author of some. -/
def unsure : Select :=
  ((Select.ofModel book).restrict untitled).restrict ownWork

theorem unsure_built : (Query.select unsure).Built [untitled, ownWork] :=
  .select (.call .empty (.restrict _) (.call .empty (.restrict _) (.start book) rfl rfl) rfl rfl)

/-- The author is not known, or the book is an early one. -/
def early : Condition :=
  .or (.isNull bookAuthor.toAttribute) (.compare bookId.toAttribute .lt (.value (int 9)))

/-- A new title for early books. -/
def retitled : Update :=
  ((Update.new book).set [("title", text "Seas")]).restrict early

theorem retitled_built : (Query.update retitled).Built [early] :=
  .update (.restrict (.set (.start book) _) _)

/-- The title begins with a part. -/
def seaward : Condition :=
  .leaf bookTitle.toAttribute .startsWith (.value (text "Sea")) false

/-- The books whose title begins with a part are dropped, but for those that are edited. -/
def dropped : Delete :=
  { (Delete.new book).restrict edited.negate with filter := [edited.negate, seaward] }

theorem dropped_filtered : ((Delete.new book).restrict edited.negate).filterBy
    [("title__startswith", .value (text "Sea"))] = .ok dropped :=
  rfl

theorem dropped_built : (Query.delete dropped).Built [edited.negate, seaward] :=
  .delete (.filterBy (.restrict (.start book) edited.negate) dropped_filtered
    (Condition.ofFilters_iff.1 rfl))

end Sample

open Sample in
/-- A negated set, an absorbed one, a list of two bounds and a nested select; an update in
Oracle; and a deletion with a keyword filter. -/
theorem unsure_says :
    (∃ st clause, unsure.statement .generic = .ok st
      ∧ st.text = "SELECT id, title, author_id, editor_id FROM book WHERE " ++ clause
      ∧ clause = "(NOT (title LIKE ? OR (NOT (editor_id IS NULL) AND editor_id BETWEEN ? AND ?)) "
        ++ "AND NOT (editor_id IS NULL) AND editor_id BETWEEN ? AND ? AND NOT (author_id IN "
        ++ "(SELECT id FROM author WHERE (LOWER(name) LIKE LOWER(?) AND NOT (id IN (?, ?))))))"
      ∧ (Query.select unsure).Says .generic [untitled, ownWork] clause)
    ∧ (∃ st clause, retitled.statement .oracle = .ok st
      ∧ st.text = "UPDATE book SET title = :a0 WHERE " ++ clause
      ∧ clause = "((author_id IS NULL OR id < :a1))"
      ∧ (Query.update retitled).Says .oracle [early] clause)
    ∧ ∃ st clause, dropped.statement .generic = .ok st
      ∧ st.text = "DELETE FROM book WHERE " ++ clause
      ∧ clause = "(NOT (NOT (editor_id IS NULL) AND editor_id BETWEEN ? AND ?) AND title LIKE ?)"
      ∧ (Query.delete dropped).Says .generic [edited.negate, seaward] clause := by
  have hselect : (unsure.statement .generic).toOption.map Statement.text
      = some ("SELECT id, title, author_id, editor_id FROM book WHERE "
        ++ ("(NOT (title LIKE ? OR (NOT (editor_id IS NULL) AND editor_id BETWEEN ? AND ?)) "
        ++ "AND NOT (editor_id IS NULL) AND editor_id BETWEEN ? AND ? AND NOT (author_id IN "
        ++ "(SELECT id FROM author WHERE (LOWER(name) LIKE LOWER(?) AND NOT (id IN (?, ?))))))")) := by
    decide +kernel
  have hupdate : (retitled.statement .oracle).toOption.map Statement.text
      = some ("UPDATE book SET title = :a0 WHERE " ++ "((author_id IS NULL OR id < :a1))") := by
    decide +kernel
  have hdelete : (dropped.statement .generic).toOption.map Statement.text
      = some ("DELETE FROM book WHERE "
        ++ "(NOT (NOT (editor_id IS NULL) AND editor_id BETWEEN ? AND ?) AND title LIKE ?)") := by
    decide +kernel
  obtain ⟨selected, hselected, hselect⟩ := ok_of_toOption_map hselect
  obtain ⟨updated, hupdated, hupdate⟩ := ok_of_toOption_map hupdate
  obtain ⟨deleted, hdeleted, hdelete⟩ := ok_of_toOption_map hdelete
  refine ⟨⟨selected, _, hselected, hselect, rfl, ?_⟩, ⟨updated, _, hupdated, hupdate, rfl, ?_⟩,
    deleted, _, hdeleted, hdelete, rfl, ?_⟩
  · exact Query.says_of_worded ((where_clause_says_what_was_passed .generic unsure_built
      ((Condition.properAll_iff _).1 (by decide))).1 selected hselected)
      (hselect.trans (by decide +kernel))
  · exact Query.says_of_worded ((where_clause_says_what_was_passed .oracle retitled_built
      ((Condition.properAll_iff _).1 (by decide))).1 updated hupdated)
      (hupdate.trans (by decide +kernel))
  · exact Query.says_of_worded ((where_clause_says_what_was_passed .generic dropped_built
      ((Condition.properAll_iff _).1 (by decide))).1 deleted hdeleted)
      (hdelete.trans (by decide +kernel))

end RecordMapper
