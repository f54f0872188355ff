/-
  RecordMapper.Proofs.Statement.Nested
  ────────────────────────────────
  **A NESTED SELECT IS WRITTEN AS IT IS ON ITS OWN.**

  A select may be the operand of a comparison, inside a select, an update or a deletion,
  at any depth.  A hole is such a place: everything of a condition or a query but the
  select in it.  Whatever select fills the hole, the statement is the same context around
  the statement that the select has on its own.  What the context writes behind the
  select is numbered behind its parameters, and depends on it in no other way.

  Main result: `nested_select_stands_alone`.
-/
import RecordMapper.Proofs.Sample
import RecordMapper.Proofs.Statement.Around

namespace RecordMapper

/-! ## §1. Holes. -/

/-- **A place for a select in a condition**: the operand of a comparison that is no null
test, which writes no operand. -/
inductive Condition.Hole where
  /-- The operand of this comparison. -/
  | here (field : Attribute) (op : Operator) (writes : op.isNullTest = false) (negated : Bool)
  /-- A place in one of the conditions of a set. -/
  | inSet (connector : Connector) (before : List Condition) (inner : Hole)
      (after : List Condition) (negated : Bool)
  /-- A place in one of the conditions of the select that this comparison has. -/
  | inSelect (field : Attribute) (op : Operator) (writes : op.isNullTest = false)
      (negated : Bool) (plan : SelectPlan) (before : List Condition) (inner : Hole)
      (after : List Condition)

/-- The condition with a select in the hole. -/
def Condition.Hole.fill (q : Select) : Condition.Hole → Condition
  | .here field op _ negated => .leaf field op (.query q) negated
  | .inSet connector before inner after negated =>
    .set connector (before ++ inner.fill q :: after) negated
  | .inSelect field op _ negated plan before inner after =>
    .leaf field op (.query ⟨plan, before ++ inner.fill q :: after⟩) negated

/-- **A place for a select in a query**, in one of its conditions. -/
inductive Query.Hole where
  | select (plan : SelectPlan) (before : List Condition) (inner : Condition.Hole)
      (after : List Condition)
  | update (model : Model) (data : Keyed Value) (before : List Condition)
      (inner : Condition.Hole) (after : List Condition)
  | delete (model : Model) (before : List Condition) (inner : Condition.Hole)
      (after : List Condition)

/-- The query with a select in the hole. -/
def Query.Hole.fill (q : Select) : Query.Hole → Query
  | .select plan before inner after => .select ⟨plan, before ++ inner.fill q :: after⟩
  | .update model data before inner after =>
    .update ⟨model, data, before ++ inner.fill q :: after⟩
  | .delete model before inner after => .delete ⟨model, before ++ inner.fill q :: after⟩

/-! ## §2. The select that an operand stands for. -/

namespace Select

/-- **A select as an operand**: with the default selection it yields its primary key
alone. -/
def asOperand (q : Select) : Select :=
  { q with fields := q.operandFields }

/-- **On its own** the operand is rendered behind no parameters. -/
theorem asOperand_statement (q : Select) (d : Dialect) :
    q.asOperand.statement d = q.render d 0 q.operandFields := by
  have houtput : q.asOperand.outputFields = q.operandFields := by
    have hne : q.operandFields.isEmpty = false := by
      unfold operandFields
      split
      · rfl
      · rename_i hfields
        simpa using hfields
    show (if q.operandFields.isEmpty then _ else q.operandFields) = _
    rw [hne]
    rfl
  unfold statement
  rw [houtput]
  obtain ⟨plan, filter⟩ := q
  unfold asOperand render
  rfl

end Select

/-! ## §3. Contexts. -/

/-- **A context**: what a statement writes and binds before and after a nested one.  What
it writes after it is as it would be if the nested one had no parameters. -/
structure Context where
  opening : Sql
  closing : Sql
  before : List Value
  after : List Value

namespace Context

variable {p : Product} {k : Nat}

/-- **A statement in a context** that stands behind `k` parameters. -/
def around (p : Product) (k : Nat) (context : Context) (st : Statement) : Statement where
  sql := context.opening ++ st.sql.shifted p (k + context.before.length)
    ++ context.closing.shifted p st.parameters.length
  parameters := context.before ++ st.parameters ++ context.after

/-- A context in which nothing is bound. -/
def ofText (opening closing : Sql) : Context := ⟨opening, closing, [], []⟩

/-- The context inside another one. -/
def within (context outer : Context) : Context where
  opening := outer.opening ++ context.opening
  closing := context.closing ++ outer.closing
  before := outer.before ++ context.before
  after := context.after ++ outer.after

/-- **A context inside another one** writes and binds what the outer one does around what
it does itself; it stands behind the parameters that the outer one has before it. -/
theorem around_within (context outer : Context) (st : Statement) :
    (context.within outer).around p k st
      = ⟨outer.opening ++ (context.around p (k + outer.before.length) st).sql
            ++ outer.closing.shifted p st.parameters.length,
          outer.before ++ (context.around p (k + outer.before.length) st).parameters ++ outer.after⟩ := by
  simp [around, within, Nat.add_assoc]

/-- **A context inside text** that has no placeholder behind the context. -/
theorem around_within_text (context : Context) {opening closing : Sql} (h : closing.slots = [])
    (st : Statement) :
    (context.within (ofText opening closing)).around p k st
      = ⟨opening ++ (context.around p k st).sql ++ closing, (context.around p k st).parameters⟩ := by
  rw [around_within]
  simp [ofText, Sql.shifted_of_slots h]

end Context

/-- **The statement is a select in a context**, as the select is rendered on its own. -/
def Statement.InContext (st : Statement) (p : Product) (k : Nat) (context : Context) (q : Select) : Prop :=
  ∃ nested, q.asOperand.statement p.dialect = .ok nested ∧ st = context.around p k nested

namespace Statement.InContext

variable {p : Product} {k : Nat} {context : Context} {q : Select} {st : Statement}

/-- A statement with a select in it is not blank. -/
theorem isBlank (h : st.InContext p k context q) : st.sql.isBlank = false := by
  obtain ⟨nested, hnested, rfl⟩ := h
  obtain ⟨w, -, hsql, -⟩ := render_ok hnested
  have hselect : nested.sql.isBlank = false := by
    rw [hsql]
    exact Select.isBlank_assemble _ _ _ _
  simp [Context.around, Sql.isBlank_append, hselect]

/-- **What surrounds a statement** is a context around its context. -/
theorem surrounds {write : Sql → Sql} (hwrite : Sql.Surrounds write) :
    ∃ outer : Context, ∀ {p : Product} {k : Nat} {context : Context} {q : Select} {st : Statement},
      st.InContext p k context q →
      (⟨write st.sql, st.parameters⟩ : Statement).InContext p k (context.within outer) q := by
  obtain ⟨opening, closing, hslots, hpart⟩ := hwrite
  refine ⟨.ofText opening closing, fun h => ?_⟩
  obtain ⟨nested, hnested, hst⟩ := id h
  refine ⟨nested, hnested, ?_⟩
  rw [Context.around_within_text _ hslots, ← hst, hpart _ h.isBlank]

/-- **Behind more parameters** that are bound before it. -/
theorem behind {parameters : List Value} (h : st.InContext p (k + parameters.length) context q) :
    (⟨st.sql, parameters ++ st.parameters⟩ : Statement).InContext p k
      (context.within ⟨[], [], parameters, []⟩) q := by
  obtain ⟨nested, hnested, rfl⟩ := h
  refine ⟨nested, hnested, ?_⟩
  rw [Context.around_within]
  simp

end Statement.InContext

/-! ## §4. Rendering what is around a hole. -/

section

variable {p : Product}

/-- **A hole in one of several conditions.**  When the condition around the hole is a
context, the connected set of all of them is one: the conditions before it are rendered
first, and those behind it are rendered behind more parameters. -/
theorem formulas_context {s : Setting} (hs : s.dialect = p.dialect) {hole : Condition.Hole}
    (hinner : ∀ k, ∃ context, ∀ q f ps, (hole.fill q).formula s k = .ok (f, ps) →
      (⟨f.write, ps⟩ : Statement).InContext p k context q)
    (c : Connector) (negated : Bool) (before after : List Condition) (k : Nat) :
    ∃ context, ∀ q fs ps, Condition.formulas s k (before ++ hole.fill q :: after) = .ok (fs, ps) →
      (⟨(Formula.set c fs negated).write, ps⟩ : Statement).InContext p k context q := by
  -- What is rendered around the hole does not depend on the select that fills it.
  rcases hbefore : (Condition.formulas s k before).toOption.getD ([], []) with ⟨bs, bps⟩
  obtain ⟨inner, hcontext⟩ := hinner (k + bps.length)
  rcases hafter : (Condition.formulas s (k + bps.length
    + (inner.before.length + inner.after.length)) after).toOption.getD ([], []) with ⟨gs, aps⟩
  refine ⟨inner.within ⟨(Formula.openingOf c negated bs).flatMap Piece.write,
    (Formula.closingOf c gs).flatMap Piece.write, bps, aps⟩, fun q fs ps h => ?_⟩
  obtain ⟨bs', bps', f, cps, gs', aps', hbs, hf, hgs, rfl, rfl⟩ := formulas_append_ok h
  rw [hbs] at hbefore
  cases hbefore
  have hinside := hcontext q f cps hf
  have hpieces : f.pieces ≠ [] := by
    intro hnil
    have hblank := hinside.isBlank
    rw [Formula.write, hnil] at hblank
    cases hblank
  obtain ⟨nested, hnested, hst⟩ := hinside
  obtain ⟨hwrite, hcps⟩ := (Statement.mk.injEq ..).mp hst
  -- The conditions behind the hole were rendered behind the parameters of the select too.
  have hcount : k + bps.length + cps.length
      = k + bps.length + (inner.before.length + inner.after.length) + nested.parameters.length := by
    rw [hcps]
    simp only [List.length_append]
    omega
  rw [hcount, formulas_shifted hs] at hgs
  obtain ⟨rendered, hrendered, hshifted⟩ := map_ok.1 hgs
  rw [hrendered] at hafter
  obtain rfl : rendered = (gs, aps) := hafter
  cases hshifted
  refine ⟨nested, hnested, ?_⟩
  rw [Context.around_within, ← hst]
  congr 1
  rw [Formula.write, Formula.pieces_set_around c negated bs hpieces, List.flatMap_append,
    List.flatMap_append, Formula.closingOf_shifted]
  rfl

/-- The same for a where clause. -/
theorem whereClause_context {s : Setting} (hs : s.dialect = p.dialect) {hole : Condition.Hole}
    (hinner : ∀ k, ∃ context, ∀ q f ps, (hole.fill q).formula s k = .ok (f, ps) →
      (⟨f.write, ps⟩ : Statement).InContext p k context q)
    (before after : List Condition) (k : Nat) :
    ∃ context, ∀ q w, s.whereClause k (before ++ hole.fill q :: after) = .ok w →
      w.InContext p k context q := by
  obtain ⟨context, hcontext⟩ := formulas_context hs hinner .and false before after k
  refine ⟨context, fun q w h => ?_⟩
  obtain ⟨fs, hfs, hwhere⟩ := whereClause_ok h
  have hset := hcontext q fs w.parameters hfs
  rw [← hwhere] at hset
  exact hset

/-- The same for a select, which surrounds its where clause. -/
theorem render_context {hole : Condition.Hole}
    (hinner : ∀ {s : Setting}, s.dialect = p.dialect → ∀ k, ∃ context, ∀ q f ps,
      (hole.fill q).formula s k = .ok (f, ps) → (⟨f.write, ps⟩ : Statement).InContext p k context q)
    (plan : SelectPlan) (before after : List Condition) (fields : List Field) (k : Nat) :
    ∃ context, ∀ (q : Select) st,
      (⟨plan, before ++ hole.fill q :: after⟩ : Select).render p.dialect k fields = .ok st →
      st.InContext p k context q := by
  let q₀ : Select := ⟨plan, []⟩
  let s := q₀.setting p.dialect
  obtain ⟨context, hcontext⟩ := whereClause_context (s := s.inClause .selectWhere) rfl (hinner rfl)
    before after k
  obtain ⟨outer, houter⟩ := Statement.InContext.surrounds (q₀.surrounds_assemble s fields)
  refine ⟨context.within outer, fun q st h => ?_⟩
  obtain ⟨w, hw, hsql, hparams⟩ := render_ok h
  obtain ⟨sql, parameters⟩ := st
  cases hsql
  cases hparams
  exact houter (hcontext q w hw)

/-- **A hole in a condition.**  The condition is a context around the select that fills it;
the induction is on where the hole is. -/
theorem formula_context : ∀ (hole : Condition.Hole) {s : Setting}, s.dialect = p.dialect →
    ∀ k, ∃ context, ∀ q f ps, (hole.fill q).formula s k = .ok (f, ps) →
      (⟨f.write, ps⟩ : Statement).InContext p k context q
  | .here field op writes negated, s, hs, k => by
      obtain ⟨outer, houter⟩ := Statement.InContext.surrounds
        (Setting.surrounds_comparison s field writes negated)
      refine ⟨(Context.ofText [] []).within outer, fun q f ps h => ?_⟩
      obtain ⟨st, rfl, rfl, hst⟩ := formula_query_ok writes h
      -- The select is rendered behind `k` parameters as it is behind none.
      rw [hs, ← Nat.zero_add k, render_shifted] at hst
      obtain ⟨nested, hnested, rfl⟩ := map_ok.1 hst
      have hinside : (nested.shifted p k).InContext p k (.ofText [] []) q := by
        refine ⟨nested, ?_, ?_⟩
        · rw [Select.asOperand_statement]
          exact hnested
        · simp [Context.around, Context.ofText, Statement.shifted]
      exact houter hinside
  | .inSet c before inner after negated, s, hs, k => by
      obtain ⟨context, hcontext⟩ := formulas_context hs (formula_context inner hs) c negated before after k
      refine ⟨context, fun q f ps h => ?_⟩
      obtain ⟨fs, rfl, hfs⟩ := formula_set_ok h
      exact hcontext q fs ps hfs
  | .inSelect field op writes negated plan before inner after, s, hs, k => by
      obtain ⟨context, hcontext⟩ := render_context (formula_context inner) plan before after
        (⟨plan, []⟩ : Select).operandFields k
      obtain ⟨outer, houter⟩ := Statement.InContext.surrounds
        (Setting.surrounds_comparison s field writes negated)
      refine ⟨context.within outer, fun q f ps h => ?_⟩
      obtain ⟨st, rfl, rfl, hst⟩ := formula_query_ok writes h
      rw [hs] at hst
      exact houter (hcontext q st hst)

/-- **A hole in a query.**  An update binds the values that it assigns before those of
its condition. -/
theorem statement_context (p : Product) (hole : Query.Hole) : ∃ context : Context, ∀ q st,
    (hole.fill q).statement p.dialect = .ok st → st.InContext p 0 context q := by
  cases hole with
  | select plan before inner after =>
      exact render_context (formula_context inner) plan before after (⟨plan, []⟩ : Select).outputFields 0
  | update model data before inner after =>
      let u : Update := ⟨model, data, []⟩
      let s := (Update.setting p.dialect).inClause .updateWhere
      let stored := u.assigned.mapM fun cell => Update.storedCell model cell.1 cell.2
      obtain ⟨context, hcontext⟩ := whereClause_context (s := s) rfl (formula_context inner rfl)
        before after (0 + (stored.toOption.getD []).length)
      obtain ⟨outer, houter⟩ := Statement.InContext.surrounds
        ((Sql.Surrounds.between (Sql.lit ("UPDATE " ++ model.table ++ " SET ")
          ++ Update.assignmentsSql p.dialect (u.assigned.map (·.1))) [] rfl).comp (.clause "WHERE "))
      refine ⟨(context.within ⟨[], [], stored.toOption.getD [], []⟩).within outer, fun q st h => ?_⟩
      obtain ⟨ps, w, hps, hw, hsql, hparams⟩ := update_ok h
      have hstored : stored = .ok ps := hps
      rw [hstored] at hcontext ⊢
      have hwhere := hcontext q w (by rw [Nat.zero_add]; exact hw)
      have hinside := houter hwhere.behind
      simp only [List.append_nil] at hinside
      obtain ⟨sql, parameters⟩ := st
      cases hsql
      cases hparams
      exact hinside
  | delete model before inner after =>
      obtain ⟨context, hcontext⟩ := whereClause_context (s := ⟨p.dialect, [], ⟨.deleteWhere, false⟩⟩) rfl
        (formula_context inner rfl) before after 0
      obtain ⟨outer, houter⟩ := Statement.InContext.surrounds
        ((Sql.Surrounds.between (Sql.lit ("DELETE FROM " ++ model.table)) [] rfl).comp
          (.clause "WHERE "))
      refine ⟨context.within outer, fun q st h => ?_⟩
      obtain ⟨w, hw, hsql, hparams⟩ := delete_ok h
      have hinside := houter (hcontext q w hw)
      simp only [List.append_nil] at hinside
      obtain ⟨sql, parameters⟩ := st
      cases hsql
      cases hparams
      exact hinside

end

/-! ## §5. Queries. -/

/-- **A nested select stands alone.**  Whatever select fills a hole of a query, the
statement is the same context around the statement that the select has on its own, its
placeholders numbered behind the parameters that the context has before it; its parameters
stand together, in their order, among those of the context.  What the context writes behind
it is numbered behind its parameters, and does not depend on it otherwise.  Where
placeholders carry no number, the text of the select is written as it is. -/
theorem nested_select_stands_alone (p : Product) (hole : Query.Hole) :
    ∃ context : Context, ∀ (q : Select) (st : Statement),
      (hole.fill q).statement p.dialect = .ok st →
      ∃ nested, q.asOperand.statement p.dialect = .ok nested
        ∧ st.sql = context.opening ++ nested.sql.shifted p context.before.length
            ++ context.closing.shifted p nested.parameters.length
        ∧ st.parameters = context.before ++ nested.parameters ++ context.after
        ∧ (p ≠ .oracle → st.text = context.opening.text ++ nested.text ++ context.closing.text) := by
  obtain ⟨context, hcontext⟩ := statement_context p hole
  refine ⟨{ context with closing := context.closing.shifted p 0 }, fun q st h => ?_⟩
  obtain ⟨nested, hnested, rfl⟩ := hcontext q st h
  refine ⟨nested, hnested, ?_, rfl, fun hp => ?_⟩
  · simp [Context.around, Sql.shifted_shifted]
  -- The statement of the select is marked as it is behind no parameters.
  · have hmarked : nested.sql.shifted p 0 = nested.sql := by
      have hshifted := render_shifted (p := p) (n := 0) q 0 q.operandFields
      rw [Select.asOperand_statement] at hnested
      rw [Nat.add_zero, hnested] at hshifted
      exact (congrArg Statement.sql (Except.ok.inj hshifted)).symm
    show Sql.text (_ ++ _ ++ _) = _
    rw [Sql.text_append, Sql.text_append, Sql.text_shifted hp _ 0 nested.sql, hmarked,
      Sql.text_shifted hp _ 0 context.closing]
    rfl

namespace Sample

/-- The books about ships with an editor, by one of the authors of a name who are not
among others, which are left open. -/
def amongWriters : Query.Hole :=
  .select (Select.ofModel book).toSelectPlan
    [.leaf bookTitle.toAttribute .contains (.value (text "ship")) false]
    (.inSelect bookAuthor.toAttribute .isIn rfl false (Select.ofModel author).toSelectPlan
      [.leaf authorName.toAttribute .startsWith (.value (text "B")) false]
      (.here authorId.toAttribute .isIn rfl true) [])
    [.leaf bookEditor.toAttribute .eq (.value (int 8)) false]

end Sample

open Sample in
/-- A select in a select in a select, in Oracle: the placeholders of the innermost one are
numbered behind the two before it. -/
theorem amongWriters_authors : ∃ (context : Context) (st nested : Statement),
    (amongWriters.fill authors).statement Product.oracle.dialect = .ok st
      ∧ authors.asOperand.statement Product.oracle.dialect = .ok nested
      ∧ nested.text = "SELECT id FROM author WHERE (REGEXP_LIKE(name, :a0, 'i') AND "
        ++ "NOT (id IN (:a1, :a2)))"
      ∧ st.text = "SELECT id, title, author_id, editor_id FROM book WHERE (title LIKE :a0 AND "
        ++ "author_id IN (SELECT id FROM author WHERE (name LIKE :a1 AND NOT (id IN (SELECT id "
        ++ "FROM author WHERE (REGEXP_LIKE(name, :a2, 'i') AND NOT (id IN (:a3, :a4))))))) AND "
        ++ "editor_id = :a5)"
      ∧ st.sql = context.opening ++ nested.sql.shifted .oracle context.before.length
        ++ context.closing.shifted .oracle nested.parameters.length
      ∧ st.parameters = context.before ++ nested.parameters ++ context.after := by
  have htext : ((amongWriters.fill authors).statement Product.oracle.dialect).toOption.map Statement.text
      = some ("SELECT id, title, author_id, editor_id FROM book WHERE (title LIKE :a0 AND "
        ++ "author_id IN (SELECT id FROM author WHERE (name LIKE :a1 AND NOT (id IN (SELECT id "
        ++ "FROM author WHERE (REGEXP_LIKE(name, :a2, 'i') AND NOT (id IN (:a3, :a4))))))) AND "
        ++ "editor_id = :a5)") := by
    decide +kernel
  have hnested : (authors.asOperand.statement Product.oracle.dialect).toOption.map Statement.text
      = some ("SELECT id FROM author WHERE (REGEXP_LIKE(name, :a0, 'i') AND "
        ++ "NOT (id IN (:a1, :a2)))") := by
    decide +kernel
  obtain ⟨st, h, hst⟩ := ok_of_toOption_map htext
  obtain ⟨context, hcontext⟩ := nested_select_stands_alone .oracle amongWriters
  obtain ⟨nested, hok, hsql, hparams, -⟩ := hcontext authors st h
  rw [hok] at hnested
  exact ⟨context, st, nested, h, hok, Option.some.inj hnested, hst, hsql, hparams⟩

end RecordMapper
