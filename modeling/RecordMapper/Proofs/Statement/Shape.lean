/-
  RecordMapper.Proofs.Statement.Shape
  ────────────────────────────────
  **VALUES NEVER REACH THE TEXT OF A STATEMENT.**

  Two queries have the same shape when they differ at most in the values that they
  compare with, assign or insert.  What a value looks like cannot matter to the
  text then, whatever the value: the text of a statement is a function of the shape
  of its query.  The only thing about a value that the text shows is whether it is
  NULL, and how many of them a list has.

  Both queries are rendered by the same steps behind the same number of
  parameters; each step writes the same and binds as many values
  (`formula_sameShape`, `bind_sameShape`, `render_sameShape`).

  Main result: `values_never_reach_the_text`.
-/
import RecordMapper.Proofs.Ordered
import RecordMapper.Proofs.Sample
import RecordMapper.Proofs.Statement.Rendering

namespace RecordMapper

/-! ## §1. Shapes. -/

/-- The same plan.  The model on which names are looked up and the way rows are
read are over when a statement is rendered. -/
def SelectPlan.SameShape (plan plan' : SelectPlan) : Prop :=
  ∃ active naive, plan' = { plan with active := active, naive := naive }

mutual

/-- **Operands of the same shape**: values that are both NULL or both not, lists of
the same length, selects of the same shape. -/
inductive Operand.SameShape : Operand → Operand → Prop
  | value {v v' : Value} (h : v.isNull = v'.isNull) : Operand.SameShape (.value v) (.value v')
  | list {vs vs' : List Value} (h : vs.length = vs'.length) :
      Operand.SameShape (.list vs) (.list vs')
  | query {q q' : Select} (h : Select.SameShape q q') : Operand.SameShape (.query q) (.query q')

/-- **Conditions of the same shape**: the same tree, with the same fields and
operators, and operands of the same shape. -/
inductive Condition.SameShape : Condition → Condition → Prop
  | leaf {field : Attribute} {op : Operator} {operand operand' : Operand} {negated : Bool}
      (h : Operand.SameShape operand operand') :
      Condition.SameShape (.leaf field op operand negated) (.leaf field op operand' negated)
  | set {connector : Connector} {children children' : List Condition} {negated : Bool}
      (h : Condition.AllSameShape children children') :
      Condition.SameShape (.set connector children negated) (.set connector children' negated)

/-- Conditions of the same shape, one by one. -/
inductive Condition.AllSameShape : List Condition → List Condition → Prop
  | nil : Condition.AllSameShape [] []
  | cons {c c' : Condition} {rest rest' : List Condition} (first : Condition.SameShape c c')
      (others : Condition.AllSameShape rest rest') :
      Condition.AllSameShape (c :: rest) (c' :: rest')

/-- **Selects of the same shape**: the same plan, and filters of the same shape. -/
inductive Select.SameShape : Select → Select → Prop
  | mk {plan plan' : SelectPlan} {filter filter' : List Condition}
      (hplan : SelectPlan.SameShape plan plan') (hfilter : Condition.AllSameShape filter filter') :
      Select.SameShape ⟨plan, filter⟩ ⟨plan', filter'⟩

end

/-- **Insert data of the same shape**: for one row, the same names, under each of
which both values are NULL or both are not; for many rows, the same names. -/
def InsertData.SameShape : InsertData → InsertData → Prop
  | .row values, .row values' =>
    (values.map fun cell => (cell.1, cell.2.isNull)).Perm
      (values'.map fun cell => (cell.1, cell.2.isNull))
  | .bulk names _, .bulk names' _ => names = names'
  | _, _ => False

/-- **Queries of the same shape**, of the same model.  A raw statement is the text
of its caller and has no shape. -/
def Query.SameShape : Query → Query → Prop
  | .select q, .select q' => q.SameShape q'
  | .insert q, .insert q' => q.model = q'.model ∧ q.data.SameShape q'.data
  | .update q, .update q' =>
    q.model = q'.model ∧ (q.data.map (·.1)).Perm (q'.data.map (·.1))
      ∧ Condition.AllSameShape q.filter q'.filter
  | .delete q, .delete q' => q.model = q'.model ∧ Condition.AllSameShape q.filter q'.filter
  | _, _ => False

/-! ## §2. Conditions and selects. -/

theorem Dialect.length_castValues (d : Dialect) (op : Operator) (vs : List Value) :
    (d.castValues op vs).length = vs.length := by
  unfold castValues
  split <;> rfl

/-- Lists of the same length bind as many values. -/
theorem length_bind_list {s : Setting} {k : Nat} {field : Attribute} {op : Operator}
    {vs : List Value} {values : List Sql} {ps : List Value}
    (h : (Operand.list vs).bind s k field op = .ok (values, ps)) : ps.length = vs.length := by
  obtain ⟨_, stored, hstored, rfl⟩ := bind_list_ok h
  rw [Dialect.length_castValues, length_mapM_ok hstored]

/-- Selects of the same shape yield the same fields as operands. -/
theorem Select.operandFields_sameShape {q q' : Select} (h : q.SameShape q') :
    q.operandFields = q'.operandFields := by
  obtain ⟨⟨active, naive, rfl⟩, _⟩ := h
  rfl

theorem Select.outputFields_sameShape {q q' : Select} (h : q.SameShape q') :
    q.outputFields = q'.outputFields := by
  obtain ⟨⟨active, naive, rfl⟩, _⟩ := h
  rfl

mutual

/-- **Conditions of the same shape** are written alike and bind as many values. -/
theorem formula_sameShape {s : Setting} : ∀ {c c' : Condition} {k : Nat} {f f' : Formula Sql}
    {ps ps' : List Value}, c.SameShape c' → c.formula s k = .ok (f, ps) →
      c'.formula s k = .ok (f', ps') → f = f' ∧ ps.length = ps'.length
  | .leaf field op operand negated, _, k, f, f', ps, ps', .leaf hoperand, h, h' => by
      obtain ⟨values, rfl, hcases⟩ := formula_leaf_ok h
      obtain ⟨values', rfl, hcases'⟩ := formula_leaf_ok h'
      rcases hcases with ⟨hop, rfl, rfl⟩ | ⟨hop, hbind⟩
      -- Both are null tests or neither is: the operator is the same.
      · rcases hcases' with ⟨_, rfl, rfl⟩ | ⟨hop', _⟩
        · exact ⟨rfl, rfl⟩
        · rw [hop] at hop'
          cases hop'
      · rcases hcases' with ⟨hop', _⟩ | ⟨_, hbind'⟩
        · rw [hop] at hop'
          cases hop'
        · obtain ⟨rfl, hlength⟩ := bind_sameShape hoperand hbind hbind'
          exact ⟨rfl, hlength⟩
  | .set connector children negated, _, k, f, f', ps, ps', .set hchildren, h, h' => by
      obtain ⟨fs, rfl, hfs⟩ := formula_set_ok h
      obtain ⟨fs', rfl, hfs'⟩ := formula_set_ok h'
      obtain ⟨rfl, hlength⟩ := formulas_sameShape hchildren hfs hfs'
      exact ⟨rfl, hlength⟩

theorem formulas_sameShape {s : Setting} : ∀ {cs cs' : List Condition} {k : Nat}
    {fs fs' : List (Formula Sql)} {ps ps' : List Value}, Condition.AllSameShape cs cs' →
      Condition.formulas s k cs = .ok (fs, ps) → Condition.formulas s k cs' = .ok (fs', ps') →
      fs = fs' ∧ ps.length = ps'.length
  | [], _, k, fs, fs', ps, ps', .nil, h, h' => by
      obtain ⟨rfl, rfl⟩ := formulas_nil_ok h
      obtain ⟨rfl, rfl⟩ := formulas_nil_ok h'
      exact ⟨rfl, rfl⟩
  | c :: rest, _, k, fs, fs', ps, ps', .cons hfirst hrest, h, h' => by
      obtain ⟨f, qs, gs, rs, hf, hgs, rfl, rfl⟩ := formulas_cons_ok h
      obtain ⟨f', qs', gs', rs', hf', hgs', rfl, rfl⟩ := formulas_cons_ok h'
      obtain ⟨rfl, hlength⟩ := formula_sameShape hfirst hf hf'
      -- The counters agree because the first conditions bind as many values.
      rw [← hlength] at hgs'
      obtain ⟨rfl, hmore⟩ := formulas_sameShape hrest hgs hgs'
      refine ⟨rfl, ?_⟩
      rw [List.length_append, List.length_append]
      omega

/-- **Operands of the same shape** are written alike and bind as many values. -/
theorem bind_sameShape {s : Setting} {field : Attribute} {op : Operator} :
    ∀ {operand operand' : Operand} {k : Nat} {values values' : List Sql} {ps ps' : List Value},
      operand.SameShape operand' → operand.bind s k field op = .ok (values, ps) →
      operand'.bind s k field op = .ok (values', ps') → values = values' ∧ ps.length = ps'.length
  | .value v, _, k, values, values', ps, ps', .value hnull, h, h' => by
      rcases bind_value_ok h with ⟨hv, rfl, rfl⟩ | ⟨hv, rfl, stored, hstored, rfl⟩
      -- Both values are NULL and write nothing, or neither is and both write a placeholder.
      · rcases bind_value_ok h' with ⟨_, rfl, rfl⟩ | ⟨hv', _⟩
        · exact ⟨rfl, rfl⟩
        · rw [← hnull, hv] at hv'
          cases hv'
      · rcases bind_value_ok h' with ⟨hv', _⟩ | ⟨_, rfl, stored', hstored', rfl⟩
        · rw [← hnull, hv] at hv'
          cases hv'
        · refine ⟨rfl, ?_⟩
          rw [Dialect.length_castValues, Dialect.length_castValues, length_mapM_ok hstored,
            length_mapM_ok hstored']
          rfl
  | .list vs, _, k, values, values', ps, ps', .list hlist, h, h' => by
      obtain ⟨rfl, _⟩ := bind_list_ok h
      obtain ⟨rfl, _⟩ := bind_list_ok h'
      rw [length_bind_list h, length_bind_list h', hlist]
      exact ⟨rfl, rfl⟩
  | .query q, _, k, values, values', ps, ps', .query hquery, h, h' => by
      obtain ⟨st, hst, rfl, rfl⟩ := bind_query_ok h
      obtain ⟨st', hst', rfl, rfl⟩ := bind_query_ok h'
      -- A nested select yields the same fields, since its plan is the same.
      rw [← Select.operandFields_sameShape hquery] at hst'
      obtain ⟨hsql, hlength⟩ := render_sameShape hquery hst hst'
      rw [hsql]
      exact ⟨rfl, hlength⟩

/-- **Selects of the same shape** are written alike and bind as many values. -/
theorem render_sameShape {d : Dialect} : ∀ {q q' : Select} {k : Nat} {fields : List Field}
    {st st' : Statement}, q.SameShape q' → q.render d k fields = .ok st →
      q'.render d k fields = .ok st' →
      st.sql = st'.sql ∧ st.parameters.length = st'.parameters.length
  | ⟨plan, filter⟩, _, k, fields, st, st', .mk ⟨active, naive, hplan⟩ hfilter, h, h' => by
      subst hplan
      obtain ⟨w, hw, hsql, hst⟩ := render_ok h
      obtain ⟨w', hw', hsql', hst'⟩ := render_ok h'
      obtain ⟨fs, hfs, hwhere⟩ := whereClause_ok hw
      obtain ⟨fs', hfs', hwhere'⟩ := whereClause_ok hw'
      obtain ⟨rfl, hlength⟩ := formulas_sameShape hfilter hfs hfs'
      rw [hst, hst', hsql, hsql', hwhere, hwhere']
      exact ⟨rfl, hlength⟩

end

/-- Filters of the same shape are written alike. -/
theorem whereClause_sameShape {s : Setting} {filter filter' : List Condition} {k : Nat}
    {w w' : Statement} (hshape : Condition.AllSameShape filter filter')
    (h : s.whereClause k filter = .ok w) (h' : s.whereClause k filter' = .ok w') :
    w.sql = w'.sql := by
  obtain ⟨fs, hfs, hsql⟩ := whereClause_ok h
  obtain ⟨fs', hfs', hsql'⟩ := whereClause_ok h'
  obtain ⟨rfl, _⟩ := formulas_sameShape hshape hfs hfs'
  rw [hsql, hsql']

/-! ## §3. Columns that are assigned or inserted. -/

/-- The fields of an update are those of its names in order. -/
theorem Update.assigned_fields (q : Update) :
    q.assigned.map (·.1) = ((sortedByKey q.data).map (·.1)).filterMap q.model.field? := by
  unfold assigned
  rw [List.map_filterMap, List.filterMap_map]
  congr 1
  funext ⟨name, v⟩
  show ((q.model.field? name).map (·, v)).map (·.1) = q.model.field? name
  cases q.model.field? name <;> rfl

namespace Insert

/-- A row writes a value under a name when its field is known and, if the value is
NULL, nullable. -/
def writes (model : Model) (name : String) (null : Bool) : Bool :=
  (model.field? name).any fun field => !null || field.nullable

/-- The names under which a row writes, in order. -/
def writtenNames (model : Model) (values : Keyed Value) : List String :=
  ((sortedByKey values).filter fun cell => writes model cell.1 cell.2.isNull).map (·.1)

/-- The fields that a row writes are those of the names that it writes under. -/
theorem written_fields (model : Model) (values : Keyed Value) :
    (written model values).map (·.1) = (writtenNames model values).filterMap model.field? := by
  unfold written writtenNames
  rw [List.map_filterMap, List.filterMap_map, List.filterMap_filter]
  congr 1
  funext ⟨name, v⟩
  show ((model.field? name).bind fun field =>
      if !v.isNull || field.nullable then some (field, v) else none).map (·.1)
    = if writes model name v.isNull then model.field? name else none
  unfold writes
  cases model.field? name with
  | none => rfl
  | some field =>
      show (if !v.isNull || field.nullable then some (field, v) else none).map (·.1)
        = if !v.isNull || field.nullable then some field else none
      split <;> rfl

/-- **Rows of the same shape write under the same names.** -/
theorem writtenNames_eq {model : Model} {values values' : Keyed Value}
    (h : (values.map fun cell => (cell.1, cell.2.isNull)).Perm
      (values'.map fun cell => (cell.1, cell.2.isNull))) :
    writtenNames model values = writtenNames model values' := by
  -- The names that are written are in order, and are those of the row that it writes under.
  have hordered : ∀ values : Keyed Value, (writtenNames model values).Pairwise (· ≤ ·) := fun values =>
    (keys_sortedByKey_pairwise values).sublist (List.filter_sublist.map _)
  have hnames : ∀ values : Keyed Value, (writtenNames model values).Perm
      (((values.map fun cell => (cell.1, cell.2.isNull)).filter fun cell =>
        writes model cell.1 cell.2).map (·.1)) := by
    intro values
    rw [List.filter_map, List.map_map]
    exact ((sorted_perm _ values).filter _).map _
  refine eq_of_names_perm (hordered values) (hordered values') ?_
  exact (hnames values).trans (((h.filter _).map _).trans (hnames values').symm)

end Insert

/-! ## §4. Whole statements. -/

section

variable {d : Dialect} {st st' : Statement}

/-- **Updates of the same shape** are written alike. -/
theorem Update.statement_sameShape {q q' : Update} (hmodel : q.model = q'.model)
    (hnames : (q.data.map (·.1)).Perm (q'.data.map (·.1)))
    (hfilter : Condition.AllSameShape q.filter q'.filter) (h : q.statement d = .ok st)
    (h' : q'.statement d = .ok st') : st.sql = st'.sql := by
  obtain ⟨ps, w, hps, hw, hsql, _⟩ := update_ok h
  obtain ⟨ps', w', hps', hw', hsql', _⟩ := update_ok h'
  have hfields : q.assigned.map (·.1) = q'.assigned.map (·.1) := by
    rw [assigned_fields, assigned_fields, hmodel, keys_sortedByKey_eq hnames]
  -- As many values are assigned, so the conditions are rendered behind equal counters.
  have hlength : ps.length = ps'.length := by
    have hcells := congrArg List.length hfields
    rw [List.length_map, List.length_map] at hcells
    rw [length_mapM_ok hps, length_mapM_ok hps', hcells]
  rw [← hlength] at hw'
  rw [hsql, hsql', whereClause_sameShape hfilter hw hw', hfields, hmodel]

/-- **Deletions of the same shape** are written alike. -/
theorem Delete.statement_sameShape {q q' : Delete} (hmodel : q.model = q'.model)
    (hfilter : Condition.AllSameShape q.filter q'.filter) (h : q.statement d = .ok st)
    (h' : q'.statement d = .ok st') : st.sql = st'.sql := by
  obtain ⟨w, hw, hsql, _⟩ := delete_ok h
  obtain ⟨w', hw', hsql', _⟩ := delete_ok h'
  rw [hsql, hsql', whereClause_sameShape hfilter hw hw', hmodel]

/-- **Inserts of the same shape** are written alike. -/
theorem Insert.statement_sameShape {q q' : Insert} (hmodel : q.model = q'.model)
    (hdata : q.data.SameShape q'.data) (h : q.statement d = .ok st)
    (h' : q'.statement d = .ok st') : st.sql = st'.sql := by
  obtain ⟨model, data⟩ := q
  obtain ⟨model', data'⟩ := q'
  obtain rfl : model = model' := hmodel
  cases data with
  | row values =>
      cases data' with
      | row values' =>
          obtain ⟨_, hsql⟩ := insert_row_ok rfl h
          obtain ⟨_, hsql'⟩ := insert_row_ok rfl h'
          -- The rows write to the same fields, and so as many values.
          have hfields : (written model values).map (·.1) = (written model values').map (·.1) := by
            rw [written_fields, written_fields, writtenNames_eq hdata]
          have hlength : (written model values).length = (written model values').length := by
            have hcells := congrArg List.length hfields
            rwa [List.length_map, List.length_map] at hcells
          rw [hsql, hsql']
          show d.insertWithKey _ (columnsSql ((written model values).map (·.1)))
            (valuesSql d (written model values).length) _ = _
          rw [hfields, hlength]
      | bulk names rows => exact hdata.elim
  | bulk names rows =>
      cases data' with
      | row values' => exact hdata.elim
      | bulk names' rows' =>
          obtain rfl : names = names' := hdata
          obtain ⟨fields, _, hfields, _, hsql, _⟩ := insert_bulk_ok rfl h
          obtain ⟨fields', _, hfields', _, hsql', _⟩ := insert_bulk_ok rfl h'
          obtain rfl : fields = fields' := Except.ok.inj (hfields.symm.trans hfields')
          rw [hsql, hsql']

end

/-- **Values never reach the text.**  Two queries of the same shape that both render
have the same statement, token for token, in every dialect: whatever values they
compare with, assign or insert, only their parameters can differ. -/
theorem values_never_reach_the_text {d : Dialect} {q q' : Query} {st st' : Statement}
    (hshape : q.SameShape q') (h : q.statement d = .ok st) (h' : q'.statement d = .ok st') :
    st.text = st'.text ∧ st.sql = st'.sql := by
  have hsql : st.sql = st'.sql := by
    cases q <;> cases q' <;> try exact hshape.elim
    case select q q' =>
      have hrender : q.render d 0 q.outputFields = .ok st := h
      have hrender' : q'.render d 0 q'.outputFields = .ok st' := h'
      rw [← Select.outputFields_sameShape hshape] at hrender'
      exact (render_sameShape hshape hrender hrender').1
    case insert q q' => exact Insert.statement_sameShape hshape.1 hshape.2 h h'
    case update q q' => exact Update.statement_sameShape hshape.1 hshape.2.1 hshape.2.2 h h'
    case delete q q' => exact Delete.statement_sameShape hshape.1 hshape.2 h h'
  refine ⟨?_, hsql⟩
  unfold Statement.text
  rw [hsql]

namespace Sample

/-- The authors of a name, but for two of them. -/
def authorsNamed (name : String) (id : Int64) : Select :=
  { Select.new author with
    filter := [.leaf authorName.toAttribute .ieq (.value (text name)) false,
      .leaf authorId.toAttribute .notIn (.list [int id, int 2]) false] }

/-- Give a title to the books that neither hold a part in theirs nor are by other
authors than those of a name. -/
def retitleUnless (title part name : String) (id : Int64) : Update where
  model := book
  data := [("title", text title)]
  filter := [.set .or [.leaf bookTitle.toAttribute .contains (.value (text part)) false,
    .leaf bookAuthor.toAttribute .isIn (.query (authorsNamed name id)) true] true]

/-- An update with harmless values. -/
def harmless : Update := retitleUnless "Seas" "sea" "Ann" 1

/-- The same update with values that look like parts of statements. -/
def hostile : Update := retitleUnless "'; DROP TABLE book; --" "?" ":a0)" 7

end Sample

/-- The harmless and the hostile update have one text in Oracle, where the values of
either are parameters. -/
theorem hostile_text_eq : ∃ st st', Sample.harmless.statement .oracle = .ok st
    ∧ Sample.hostile.statement .oracle = .ok st'
    ∧ st.text = st'.text ∧ st.parameters ≠ st'.parameters := by
  have hparams : (Sample.harmless.statement .oracle).toOption.map Statement.parameters
      = some [Sample.text "Seas", Sample.text "%sea%", Sample.text "^Ann$", Sample.int 1,
          Sample.int 2] := by
    decide +kernel
  have hparams' : (Sample.hostile.statement .oracle).toOption.map Statement.parameters
      = some [Sample.text "'; DROP TABLE book; --", Sample.text "%?%", Sample.text "^:a0)$",
          Sample.int 7, Sample.int 2] := by
    decide +kernel
  have hnested : Operand.SameShape (.query (Sample.authorsNamed "Ann" 1))
      (.query (Sample.authorsNamed ":a0)" 7)) :=
    .query (.mk ⟨_, _, rfl⟩ (.cons (.leaf (.value rfl)) (.cons (.leaf (.list rfl)) .nil)))
  have hfilter : Condition.AllSameShape Sample.harmless.filter Sample.hostile.filter :=
    .cons (.set (.cons (.leaf (.value rfl)) (.cons (.leaf hnested) .nil))) .nil
  obtain ⟨st, h, hst⟩ := ok_of_toOption_map hparams
  obtain ⟨st', h', hst'⟩ := ok_of_toOption_map hparams'
  have hshape : Query.SameShape (.update Sample.harmless) (.update Sample.hostile) :=
    ⟨rfl, List.Perm.refl ["title"], hfilter⟩
  obtain ⟨htext, _⟩ := values_never_reach_the_text hshape h h'
  refine ⟨st, st', h, h', htext, ?_⟩
  rw [hst, hst']
  decide

end RecordMapper
