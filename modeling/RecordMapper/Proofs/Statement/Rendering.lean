/-
  RecordMapper.Proofs.Statement.Rendering
  ────────────────────────────────
  **WHAT A SUCCESSFUL RENDERING WENT THROUGH.**

  A condition, an operand or a select that renders was rendered from its parts.
  Each law here says from which, for one form of condition or operand, and says
  all of it: what was written, what was bound, and behind how many parameters
  every part was numbered.  Everything that is proved about statements goes by
  these laws and does not open the renderer again.
-/
import RecordMapper.Proofs.Outcome
import RecordMapper.Query.Change

namespace RecordMapper

variable {s : Setting} {d : Dialect} {k : Nat}

/-! ## §1. Conditions. -/

/-- **A comparison** writes its operator between the column and what its operand
writes; a null test has no operand. -/
theorem formula_leaf_ok {field : Attribute} {op : Operator} {operand : Operand} {negated : Bool}
    {f : Formula Sql} {ps : List Value}
    (h : (Condition.leaf field op operand negated).formula s k = .ok (f, ps)) :
    ∃ values, f = .atom (s.dialect.operation op (s.column field) values) negated
      ∧ (op.isNullTest = true ∧ values = [] ∧ ps = []
        ∨ op.isNullTest = false ∧ operand.bind s k field op = .ok (values, ps)) := by
  unfold Condition.formula at h
  cases hop : op.isNullTest with
  | true =>
      rw [hop, if_pos rfl] at h
      injection h with h
      injection h with hf hps
      exact ⟨[], hf.symm, .inl ⟨rfl, rfl, hps.symm⟩⟩
  | false =>
      rw [hop, if_neg (by simp)] at h
      obtain ⟨⟨values, stored⟩, hbind, h⟩ := bind_ok.1 h
      injection pure_ok.1 h with hf hps
      subst hps
      exact ⟨values, hf.symm, .inr ⟨rfl, hbind⟩⟩

/-- **A connected set** writes its children in order. -/
theorem formula_set_ok {connector : Connector} {children : List Condition} {negated : Bool}
    {f : Formula Sql} {ps : List Value}
    (h : (Condition.set connector children negated).formula s k = .ok (f, ps)) :
    ∃ fs, f = .set connector fs negated ∧ Condition.formulas s k children = .ok (fs, ps) := by
  unfold Condition.formula at h
  obtain ⟨⟨fs, qs⟩, hfs, h⟩ := bind_ok.1 h
  injection pure_ok.1 h with hf hps
  subst hps
  exact ⟨fs, hf.symm, hfs⟩

/-- No condition writes nothing. -/
theorem formulas_nil_ok {fs : List (Formula Sql)} {ps : List Value}
    (h : Condition.formulas s k [] = .ok (fs, ps)) : fs = [] ∧ ps = [] := by
  unfold Condition.formulas at h
  injection h with h
  injection h with hf hps
  exact ⟨hf.symm, hps.symm⟩

/-- **The first of several conditions** is numbered from the counter, the others
behind its parameters. -/
theorem formulas_cons_ok {c : Condition} {rest : List Condition} {fs : List (Formula Sql)}
    {ps : List Value} (h : Condition.formulas s k (c :: rest) = .ok (fs, ps)) :
    ∃ f qs gs rs, c.formula s k = .ok (f, qs)
      ∧ Condition.formulas s (k + qs.length) rest = .ok (gs, rs)
      ∧ fs = f :: gs ∧ ps = qs ++ rs := by
  unfold Condition.formulas at h
  obtain ⟨⟨f, qs⟩, hf, h⟩ := bind_ok.1 h
  obtain ⟨⟨gs, rs⟩, hgs, h⟩ := bind_ok.1 h
  injection pure_ok.1 h with hfs hps
  exact ⟨f, qs, gs, rs, hf, hgs, hfs.symm, hps.symm⟩

/-- **Any of several conditions** is numbered behind the parameters of those before it, and
its own parameters stand behind theirs. -/
theorem formulas_mem_ok {c : Condition} : ∀ {cs : List Condition} {k : Nat}
    {fs : List (Formula Sql)} {ps : List Value}, c ∈ cs →
      Condition.formulas s k cs = .ok (fs, ps) →
      ∃ f qs before after, c.formula s (k + before.length) = .ok (f, qs) ∧ f ∈ fs
        ∧ ps = before ++ qs ++ after
  | first :: rest, k, fs, ps, hc, h => by
      obtain ⟨f, qs, gs, rs, hf, hgs, rfl, rfl⟩ := formulas_cons_ok h
      rcases List.mem_cons.1 hc with rfl | hc
      · exact ⟨f, qs, [], rs, hf, List.mem_cons_self, rfl⟩
      · obtain ⟨g, own, before, after, hg, hmem, rfl⟩ := formulas_mem_ok hc hgs
        refine ⟨g, own, qs ++ before, after, ?_, List.mem_cons_of_mem _ hmem, ?_⟩
        · rw [List.length_append, ← Nat.add_assoc]
          exact hg
        · simp only [List.append_assoc]

/-! ## §2. Operands. -/

/-- Values bound for a field are written as their placeholders and bound in
storage form. -/
theorem bind_values_ok {field : Attribute} {vs : List Value} {values : List Sql}
    {ps : List Value} (h : s.bind k field vs = .ok (values, ps)) :
    values = s.slots k vs.length ∧ vs.mapM field.toStorage = .ok ps := by
  unfold Setting.bind at h
  obtain ⟨stored, hstored, h⟩ := bind_ok.1 h
  injection pure_ok.1 h with hv hps
  subst hps
  exact ⟨hv.symm, hstored⟩

/-- **One value** is written as a placeholder; NULL is not written. -/
theorem bind_value_ok {field : Attribute} {op : Operator} {v : Value} {values : List Sql}
    {ps : List Value} (h : (Operand.value v).bind s k field op = .ok (values, ps)) :
    v.isNull = true ∧ values = [] ∧ ps = []
      ∨ v.isNull = false ∧ values = s.slots k 1
        ∧ ∃ stored, [v].mapM field.toStorage = .ok stored
          ∧ ps = s.dialect.castValues op stored := by
  unfold Operand.bind at h
  cases hv : v.isNull with
  | true =>
      rw [hv, if_pos rfl] at h
      injection h with h
      injection h with hvs hps
      exact .inl ⟨rfl, hvs.symm, hps.symm⟩
  | false =>
      rw [hv, if_neg (by simp)] at h
      obtain ⟨⟨qs, stored⟩, hbind, h⟩ := bind_ok.1 h
      injection pure_ok.1 h with hvs hps
      obtain ⟨rfl, hstored⟩ := bind_values_ok hbind
      exact .inr ⟨rfl, hvs.symm, stored, hstored, hps.symm⟩

/-- **A list** is written as one placeholder for each member. -/
theorem bind_list_ok {field : Attribute} {op : Operator} {vs : List Value} {values : List Sql}
    {ps : List Value} (h : (Operand.list vs).bind s k field op = .ok (values, ps)) :
    values = s.slots k vs.length
      ∧ ∃ stored, vs.mapM field.toStorage = .ok stored ∧ ps = s.dialect.castValues op stored := by
  unfold Operand.bind at h
  obtain ⟨⟨qs, stored⟩, hbind, h⟩ := bind_ok.1 h
  injection pure_ok.1 h with hvs hps
  obtain ⟨rfl, hstored⟩ := bind_values_ok hbind
  exact ⟨hvs.symm, stored, hstored, hps.symm⟩

/-- **A nested select** is written as its statement, numbered from the counter. -/
theorem bind_query_ok {field : Attribute} {op : Operator} {q : Select} {values : List Sql}
    {ps : List Value} (h : (Operand.query q).bind s k field op = .ok (values, ps)) :
    ∃ st, q.render s.dialect k q.operandFields = .ok st
      ∧ values = [st.sql] ∧ ps = st.parameters := by
  unfold Operand.bind at h
  obtain ⟨st, hst, h⟩ := bind_ok.1 h
  injection pure_ok.1 h with hvs hps
  exact ⟨st, hst, hvs.symm, hps.symm⟩

/-! ## §3. Selects and where clauses. -/

/-- **A where clause** is the formula of its filter. -/
theorem whereClause_ok {filter : List Condition} {w : Statement}
    (h : s.whereClause k filter = .ok w) :
    ∃ fs, Condition.formulas s k filter = .ok (fs, w.parameters)
      ∧ w.sql = (Formula.set .and fs false).write := by
  unfold Setting.whereClause at h
  obtain ⟨⟨fs, ps⟩, hfs, h⟩ := bind_ok.1 h
  obtain rfl := pure_ok.1 h
  exact ⟨fs, hfs, rfl⟩

/-- **A select** is its clauses around its where clause. -/
theorem render_ok {fields : List Field} {q : Select} {st : Statement}
    (h : q.render d k fields = .ok st) :
    ∃ w, ((q.setting d).inClause .selectWhere).whereClause k q.filter = .ok w
      ∧ st.sql = q.assemble (q.setting d) fields w.sql ∧ st.parameters = w.parameters := by
  obtain ⟨plan, filter⟩ := q
  unfold Select.render at h
  obtain ⟨⟨fs, ps⟩, hfs, h⟩ := bind_ok.1 h
  obtain rfl := pure_ok.1 h
  refine ⟨⟨(Formula.set .and fs false).write, ps⟩, ?_, rfl, rfl⟩
  unfold Setting.whereClause
  exact bind_ok.2 ⟨(fs, ps), hfs, rfl⟩

/-- The storage form of an assigned value is that of the field. -/
theorem Update.storedCell_ok {model : Model} {f : Field} {v stored : Value}
    (h : storedCell model f v = .ok stored) : f.toStorage v = .ok stored := by
  unfold storedCell at h
  split at h
  · cases h
  · exact h

/-- **An update** is its assignments and its where clause, which is numbered behind
them. -/
theorem update_ok {q : Update} {st : Statement} (h : q.statement d = .ok st) :
    ∃ ps w, q.assigned.mapM (fun (field, v) => Update.storedCell q.model field v) = .ok ps
      ∧ ((Update.setting d).inClause .updateWhere).whereClause ps.length q.filter = .ok w
      ∧ st.sql = Dialect.update q.model.table
          (Update.assignmentsSql d (q.assigned.map (·.1))) w.sql
      ∧ st.parameters = ps ++ w.parameters := by
  unfold Update.statement at h
  obtain ⟨ps, hps, h⟩ := bind_ok.1 h
  obtain ⟨w, hw, h⟩ := bind_ok.1 h
  obtain rfl := pure_ok.1 h
  exact ⟨ps, w, hps, hw, rfl, rfl⟩

/-- **A deletion** is its where clause behind the table. -/
theorem delete_ok {q : Delete} {st : Statement} (h : q.statement d = .ok st) :
    ∃ w, (⟨d, [], ⟨.deleteWhere, false⟩⟩ : Setting).whereClause 0 q.filter = .ok w
      ∧ st.sql = Dialect.delete q.model.table w.sql ∧ st.parameters = w.parameters := by
  unfold Delete.statement at h
  obtain ⟨w, hw, h⟩ := bind_ok.1 h
  obtain rfl := pure_ok.1 h
  exact ⟨w, hw, rfl, rfl⟩

/-- **An insert of one row** is its columns and a placeholder for each. -/
theorem insert_row_ok {q : Insert} {values : Keyed Value} {st : Statement}
    (hq : q.data = .row values) (h : q.statement d = .ok st) :
    (Insert.written q.model values).mapM (fun (field, v) => field.toStorage v)
        = .ok st.parameters
      ∧ st.sql = d.insertWithKey q.model.table
          (Insert.columnsSql ((Insert.written q.model values).map (·.1)))
          (Insert.valuesSql d (Insert.written q.model values).length)
          q.model.primaryKey.column := by
  unfold Insert.statement Insert.render at h
  rw [hq] at h
  obtain ⟨⟨sql, rows⟩, hr, h⟩ := bind_ok.1 h
  obtain ⟨ps, hps, hr⟩ := bind_ok.1 hr
  injection pure_ok.1 hr with hsql hrows
  obtain rfl := pure_ok.1 h
  subst hsql hrows
  simpa using hps

/-- **An insert of many rows** is the columns of the named fields and a placeholder
for each; every row is bound for the same fields. -/
theorem insert_bulk_ok {q : Insert} {names : List String} {rows : List (List Value)}
    {st : Statement} (hq : q.data = .bulk names rows) (h : q.statement d = .ok st) :
    ∃ fields ps, names.mapM q.model.field = .ok fields
      ∧ rows.mapM (fun row => (row.zip fields).mapM fun (v, field) => field.toStorage v) = .ok ps
      ∧ st.sql = Dialect.insert q.model.table (Insert.columnsSql fields)
          (Insert.valuesSql d fields.length)
      ∧ st.parameters = ps.flatten := by
  unfold Insert.statement Insert.render at h
  rw [hq] at h
  obtain ⟨⟨sql, stored⟩, hr, h⟩ := bind_ok.1 h
  obtain ⟨fields, hfields, hr⟩ := bind_ok.1 hr
  obtain ⟨ps, hps, hr⟩ := bind_ok.1 hr
  injection pure_ok.1 hr with hsql hrows
  obtain rfl := pure_ok.1 h
  subst hsql hrows
  exact ⟨fields, ps, hfields, hps, rfl, rfl⟩

end RecordMapper
