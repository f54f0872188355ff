/-
  RecordMapper.Proofs.Statement.Draft
  ────────────────────────────────
  **A RENDERED STATEMENT IS ITS DRAFT, NUMBERED.**

  The draft of a query is its statement with every value in its own place: where
  the statement will have a placeholder, the draft has the value, the field it is
  for, and the operator that it is compared with.  A draft knows no counter and
  converts nothing.  Rendering threads a counter through conditions and nested
  selects and gathers the parameters beside the text; the main result says that
  this comes to numbering the draft from left to right and converting its values
  in the same order.

  Main results:
    • `formula_numbered`, `formulas_numbered`, `bind_numbered`, `render_numbered`
      — one for each form of condition, operand and select, by one induction;
    • `whereClause_numbered` — the same for a whole where clause.
-/
import RecordMapper.Proofs.Statement.Pieces
import RecordMapper.Proofs.Statement.Rendering

namespace RecordMapper

/-! ## §1. Drafts. -/

/-- Values for a field in a condition, each in its place. -/
def Setting.drafted (s : Setting) (field : Attribute) (op : Operator) (vs : List Value) :
    List (Sql Bound) :=
  (vs.map fun v => (⟨s.place.clause, field, some op, v⟩ : Bound)).map fun b => [b.token s.dialect]

mutual

/-- **The draft of an operand**: its values, or its select. -/
def Operand.draft (s : Setting) (field : Attribute) (op : Operator) : Operand → List (Sql Bound)
  | .value v => if v.isNull then [] else s.drafted field op [v]
  | .list vs => s.drafted field op vs
  | .query q => [q.draft s.dialect q.operandFields]

/-- **The draft of a condition.** -/
def Condition.draft (s : Setting) : Condition → Formula (Sql Bound)
  | .leaf field op operand negated =>
    .atom (s.dialect.operation op (s.column field)
      (if op.isNullTest then [] else operand.draft s field op)) negated
  | .set connector children negated => .set connector (Condition.drafts s children) negated

/-- The drafts of several conditions. -/
def Condition.drafts (s : Setting) : List Condition → List (Formula (Sql Bound))
  | [] => []
  | c :: rest => c.draft s :: Condition.drafts s rest

/-- **The draft of a select.** -/
def Select.draft (d : Dialect) (fields : List Field) : Select → Sql Bound
  | ⟨plan, filter⟩ =>
    let q : Select := ⟨plan, []⟩
    let s := q.setting d
    q.assemble s fields
      (Formula.set .and (Condition.drafts (s.inClause .selectWhere) filter) false).write

end

/-- The draft of a where clause. -/
def Setting.whereDraft (s : Setting) (filter : List Condition) : Sql Bound :=
  (Formula.set .and (Condition.drafts s filter) false).write

theorem Select.draft_eq (d : Dialect) (fields : List Field) (q : Select) :
    q.draft d fields = q.assemble (q.setting d) fields
      (((q.setting d).inClause .selectWhere).whereDraft q.filter) := by
  cases q
  rfl

/-! ## §2. Lists of values that an operator has room for. -/

mutual

/-- Every list inside the operand is one that its operator writes whole. -/
def Operand.fits (op : Operator) : Operand → Bool
  | .value _ => true
  | .list vs => op.takes vs.length
  | .query q => q.fits

/-- **Every list that is compared** is one that its operator writes whole: of any
length for membership, two bounds, and at most one value otherwise. -/
def Condition.fits : Condition → Bool
  | .leaf _ op operand _ => op.isNullTest || operand.fits op
  | .set _ children _ => Condition.fitsAll children

/-- The same for several conditions. -/
def Condition.fitsAll : List Condition → Bool
  | [] => true
  | c :: rest => c.fits && Condition.fitsAll rest

/-- The same for the conditions of a select. -/
def Select.fits : Select → Bool
  | ⟨_, filter⟩ => Condition.fitsAll filter

end

/-- An operator with a value takes one. -/
theorem Operator.takes_of_le_one {op : Operator} {n : Nat} (hop : op.isNullTest = false)
    (hn : n ≤ 1) : op.takes n = true := by
  cases op <;> simp_all [Operator.takes, Operator.isNullTest]
  omega

/-- What an operand writes is what its operator takes. -/
theorem Operand.takes_draft {s : Setting} {field : Attribute} {op : Operator}
    (hop : op.isNullTest = false) :
    ∀ operand : Operand, operand.fits op = true
      → op.takes (operand.draft s field op).length = true
  | .value v, _ => by
      refine Operator.takes_of_le_one hop ?_
      unfold Operand.draft
      split <;> simp [Setting.drafted]
  | .list vs, h => by
      unfold Operand.fits at h
      unfold Operand.draft
      simpa [Setting.drafted] using h
  | .query q, _ => by
      refine Operator.takes_of_le_one hop ?_
      simp [Operand.draft]

/-! ## §3. The values of a comparison. -/

/-- **A list of values is cast one by one**, when the operator writes it whole: one
that searches takes a single value. -/
theorem Dialect.castValues_eq_map (d : Dialect) {op : Operator} (vs : List Value)
    (h : op.takes vs.length = true) : d.castValues op vs = vs.map (d.castValue op) := by
  have hfirst : ∀ (v : Value) (rest : List Value),
      d.castValues op (v :: rest) = d.castValue op v :: rest := by
    intro v rest
    cases v with
    | varchar text => cases text <;> rfl
    | _ => rfl
  -- The operators that take more than one value search for none.
  have hplain : op.takes 2 = true → ∀ v, d.castValue op v = v := by
    intro hop v
    cases v with
    | varchar text =>
        cases text with
        | none => rfl
        | some text => cases op <;> first | rfl | cases hop
    | _ => rfl
  match vs, h with
  | [], _ => rfl
  | [v], _ => exact hfirst v []
  | v :: w :: rest, h =>
      have hop : op.takes 2 = true := by
        cases op <;> simp_all [Operator.takes]
      have hmap : (v :: w :: rest).map (d.castValue op) = v :: w :: rest := by
        rw [List.map_congr_left fun x _ => hplain hop x]
        simp
      rw [hfirst, hplain hop, hmap]

/-- The parameters of values in a condition: each in storage form, and cast. -/
theorem Bound.mapM_parameter {d : Dialect} {clause : Clause} {field : Attribute} {op : Operator}
    (vs : List Value) {stored : List Value} (h : vs.mapM field.toStorage = .ok stored) :
    (vs.map fun v => (⟨clause, field, some op, v⟩ : Bound)).mapM (Bound.parameter d)
      = .ok (stored.map (d.castValue op)) := by
  induction vs generalizing stored with
  | nil => rw [← pure_ok.1 h]; rfl
  | cons v vs ih =>
      obtain ⟨p, rest, hp, hrest, rfl⟩ := mapM_cons_ok.1 h
      refine mapM_cons_ok.2 ⟨d.castValue op p, rest.map (d.castValue op), ?_, ih hrest, rfl⟩
      exact bind_ok.2 ⟨p, hp, rfl⟩

section

variable {s : Setting} {field : Attribute} {op : Operator}

theorem Setting.slots_drafted (vs : List Value) :
    (s.drafted field op vs).flatMap Sql.slots
      = vs.map fun v => (⟨s.place.clause, field, some op, v⟩ : Bound) := by
  induction vs with
  | nil => rfl
  | cons v vs ih =>
      show Sql.slots [Bound.token s.dialect _] ++ (s.drafted field op vs).flatMap Sql.slots = _
      rw [ih]
      rfl

/-- **The placeholders of values are their drafts, numbered.** -/
theorem Setting.numbered_drafted (vs : List Value) (k : Nat) :
    Sql.numberedAll s.dialect k (s.drafted field op vs) = s.slots k vs.length := by
  unfold Setting.drafted Setting.slots
  rw [Sql.numberedAll_tokens s.dialect _ s.place.clause, List.length_map]
  intro b hb
  obtain ⟨v, _, rfl⟩ := List.mem_map.1 hb
  rfl

/-- Values that are bound in a condition, as their drafts say. -/
theorem Setting.drafted_parameters {vs stored : List Value} (htakes : op.takes vs.length = true)
    (h : vs.mapM field.toStorage = .ok stored) :
    ((s.drafted field op vs).flatMap Sql.slots).mapM (Bound.parameter s.dialect)
      = .ok (s.dialect.castValues op stored) := by
  rw [Setting.slots_drafted, Bound.mapM_parameter vs h, Dialect.castValues_eq_map]
  rw [length_mapM_ok h]
  exact htakes

end


/-! ## §4. The placeholders of a formula. -/

/-- The placeholders of a piece. -/
def Piece.slots {ι : Type} (p : Piece (Sql ι)) : List ι :=
  p.write.slots

namespace Formula

variable {ι : Type}

/-- The placeholders of written pieces. -/
def slotsOf (ps : List (Piece (Sql ι))) : List ι :=
  ps.flatMap Piece.slots

/-- **Pieces of a draft, numbered** from `k` on: an atom takes as many numbers as it
has placeholders. -/
def numberDraft (d : Dialect) (k : Nat) (ps : List (Piece (Sql Bound))) : List (Piece Sql) :=
  number (·.slots.length) (fun k a => a.numbered d k) k ps

theorem slots_write (f : Formula (Sql ι)) : f.write.slots = slotsOf f.pieces := by
  unfold write slotsOf
  generalize f.pieces = ps
  induction ps with
  | nil => rfl
  | cons p ps ih =>
      rw [List.flatMap_cons, Sql.slots_append, ih, List.flatMap_cons]
      rfl

theorem length_slots (p : Piece (Sql ι)) : p.slots.length = p.width (·.slots.length) := by
  cases p <;> rfl

theorem length_slotsOf (ps : List (Piece (Sql ι))) :
    (slotsOf ps).length = width (·.slots.length) ps := by
  unfold slotsOf width
  rw [List.length_flatMap]
  congr 1
  exact List.map_congr_left fun p _ => length_slots p

/-- Numbered pieces write what the pieces write, numbered. -/
theorem write_numberDraft {d : Dialect} (ps : List (Piece (Sql Bound))) :
    ∀ k, (numberDraft d k ps).flatMap Piece.write = Sql.numbered d k (ps.flatMap Piece.write) := by
  induction ps with
  | nil => intro k; rfl
  | cons p ps ih =>
      intro k
      show (p.number (fun k a => a.numbered d k) k).write
          ++ (numberDraft d (k + p.width (·.slots.length)) ps).flatMap Piece.write = _
      rw [ih, List.flatMap_cons, Sql.numbered_append, ← length_slots]
      cases p <;> rfl

theorem numberDraft_group {d : Dialect} (negated : Bool) (ps : List (Piece (Sql Bound))) (k : Nat) :
    numberDraft d k (group negated ps) = group negated (numberDraft d k ps) :=
  number_group _ _ negated ps k

theorem numberDraft_connect {d : Dialect} (c : Connector) (negated : Bool)
    (children : List (List (Piece (Sql Bound)))) (k : Nat) :
    numberDraft d k (connect c negated children)
      = connect c negated (numberFrom (width (·.slots.length)) (numberDraft d) k children) :=
  number_connect _ _ c negated children k

/-- Parentheses and a negation have no placeholder. -/
theorem slotsOf_group (negated : Bool) (ps : List (Piece (Sql ι))) :
    slotsOf (group negated ps) = slotsOf ps := by
  unfold group slotsOf
  cases negated <;> simp [Piece.slots, Piece.write]

/-- **A connected set has the placeholders of its children**, in order. -/
theorem slotsOf_connect (c : Connector) (negated : Bool)
    (children : List (List (Piece (Sql ι)))) :
    slotsOf (connect c negated children) = children.flatMap slotsOf := by
  have hflat : slotsOf (Text.separated List.isEmpty [.connective c] children).flatten
      = children.flatMap slotsOf := by
    rw [← flatMap_separated slotsOf List.isEmpty [.connective c] rfl children]
    unfold slotsOf
    rw [List.flatten_eq_flatMap, List.flatMap_assoc]
    rfl
  unfold connect
  rw [← hflat]
  split
  · rename_i h
    rw [h]
  · exact slotsOf_group negated _

end Formula

/-! ## §5. The clauses of a select hold no placeholder of their own. -/

namespace Select

variable {d : Dialect} {k : Nat}

/-- Every clause of a join is text. -/
theorem slots_joinSql {ι : Type} (s : Setting) (m : Model) (j : Join) :
    (joinSql s m j : Sql ι).slots = [] := by
  unfold joinSql
  rw [Dialect.slots_joinClause, Setting.column, Dialect.column,
    Dialect.slots_operation _ _ _ _ rfl]
  rfl

theorem slots_columnSql {ι : Type} (s : Setting) (f : Field) :
    (columnSql s f : Sql ι).slots = [] := by
  unfold columnSql
  split <;> rfl

theorem numbered_joinSql (s : Setting) (m : Model) (j : Join) :
    (joinSql s m j).numbered d k = joinSql s m j := by
  unfold joinSql Setting.column Dialect.column
  rw [Dialect.numbered_joinClause, Dialect.numbered_operation]
  rfl

theorem numbered_columnSql (s : Setting) (f : Field) :
    (columnSql s f).numbered d k = columnSql s f := by
  unfold columnSql
  split <;> rfl

/-- Pieces of text, separated, have no placeholder. -/
theorem slots_joined_map (ι : Type) {α : Type} (sep : String) (f : α → Sql ι) (l : List α)
    (h : ∀ x ∈ l, (f x).slots = []) : (Sql.joined sep (l.map f)).slots = [] := by
  rw [Sql.slots_joined, List.flatMap_map, List.flatMap_eq_nil_iff]
  exact h

/-- Pieces of text, separated, are numbered as they are. -/
theorem numbered_joined_map {α : Type} (sep : String) (f : α → Sql Bound) (g : α → Sql)
    (l : List α) (h : ∀ x ∈ l, (f x).slots = [] ∧ ∀ k, (f x).numbered d k = g x) :
    (Sql.joined sep (l.map f)).numbered d k = Sql.joined sep (l.map g) := by
  rw [Sql.numbered_joined, Sql.numberedAll_map f g l h]

theorem slots_columns (ι : Type) (s : Setting) (fields : List Field) :
    (Sql.joined ", " (fields.map (columnSql s)) : Sql ι).slots = [] :=
  slots_joined_map ι ", " (columnSql s) fields fun f _ => slots_columnSql s f

theorem slots_joins (ι : Type) (q : Select) (s : Setting) :
    (Sql.joined " " (q.joins.map fun (model, join) => joinSql s model join) : Sql ι).slots = [] :=
  slots_joined_map ι " " _ q.joins fun j _ => slots_joinSql s j.1 j.2

theorem numbered_columns (s : Setting) (fields : List Field) (k : Nat) :
    (Sql.joined ", " (fields.map (columnSql s))).numbered d k
      = Sql.joined ", " (fields.map (columnSql s)) :=
  numbered_joined_map ", " (columnSql s) (columnSql s) fields fun f _ =>
    ⟨slots_columnSql s f, fun _ => numbered_columnSql s f⟩

theorem numbered_joins (q : Select) (s : Setting) (k : Nat) :
    (Sql.joined " " (q.joins.map fun (model, join) => joinSql s model join)).numbered d k
      = Sql.joined " " (q.joins.map fun (model, join) => joinSql s model join) :=
  numbered_joined_map " " _ _ q.joins fun j _ =>
    ⟨slots_joinSql s j.1 j.2, fun _ => numbered_joinSql s j.1 j.2⟩

/-- **A select has the placeholders of its condition** and no others. -/
theorem slots_assemble {ι : Type} (q : Select) (s : Setting) (fields : List Field)
    (condition : Sql ι) : (q.assemble s fields condition).slots = condition.slots := by
  have hgroup := slots_joined_map ι ", " (s.inClause .selectGroupBy).column q.groupBy
    fun _ _ => rfl
  have horder := slots_joined_map ι ", " (sortSql (s.inClause .selectOrderBy)) q.orderBy
    fun _ _ => rfl
  unfold assemble parts Dialect.select tableSql
  cases q.distinct <;>
    simp [-Sql.slots_joined, slots_columns, slots_joins, hgroup, horder]

/-- **Numbering passes through the clauses of a select** to its condition. -/
theorem numbered_assemble (q : Select) (s : Setting) (fields : List Field)
    (condition : Sql Bound) :
    (q.assemble s fields condition).numbered d k
      = q.assemble s fields (condition.numbered d k) := by
  have hgroup := fun k => numbered_joined_map (d := d) (k := k) ", "
    (s.inClause .selectGroupBy).column (s.inClause .selectGroupBy).column q.groupBy
    fun _ _ => ⟨rfl, fun _ => rfl⟩
  have horder := fun k => numbered_joined_map (d := d) (k := k) ", "
    (sortSql (s.inClause .selectOrderBy)) (sortSql (s.inClause .selectOrderBy)) q.orderBy
    fun _ _ => ⟨rfl, fun _ => rfl⟩
  unfold assemble parts Dialect.select tableSql
  cases q.distinct <;>
    simp [-Sql.slots_joined, -Sql.numbered_joined, numbered_columns, numbered_joins, hgroup, horder,
      slots_columns, slots_joins]

end Select

/-! ## §6. Rendering numbers the draft. -/

namespace Setting

/-- The draft of a where clause has the placeholders of its conditions. -/
theorem slots_whereDraft (s : Setting) (filter : List Condition) :
    (s.whereDraft filter).slots
      = (Formula.pieces.go (Condition.drafts s filter)).flatMap Formula.slotsOf := by
  unfold whereDraft
  rw [Formula.slots_write]
  exact Formula.slotsOf_connect .and false _

/-- A where clause whose conditions are numbered drafts is a numbered draft. -/
theorem numbered_whereDraft {s : Setting} {filter : List Condition} {k : Nat}
    {fs : List (Formula Sql)}
    (h : Formula.pieces.go fs = numberFrom (Formula.width (·.slots.length))
      (Formula.numberDraft s.dialect) k (Formula.pieces.go (Condition.drafts s filter))) :
    (Formula.set .and fs false).write = (s.whereDraft filter).numbered s.dialect k := by
  unfold whereDraft Formula.write
  rw [← Formula.write_numberDraft]
  congr 1
  show Formula.connect .and false (Formula.pieces.go fs) = _
  rw [h]
  exact (Formula.numberDraft_connect .and false _ k).symm

end Setting

/-- **A comparison is its draft, numbered**, when the values behind its operator are. -/
theorem comparison_numbered {s : Setting} {op : Operator} (field : Attribute) (negated : Bool)
    {drafts : List (Sql Bound)} {values : List Sql} {k : Nat} {ps : List Value}
    (hvalues : values = Sql.numberedAll s.dialect k drafts)
    (hparams : (drafts.flatMap Sql.slots).mapM (Bound.parameter s.dialect) = .ok ps)
    (htakes : op.takes drafts.length = true) :
    (Formula.atom (s.dialect.operation op (s.column field) values) negated).pieces
        = Formula.numberDraft s.dialect k
          (Formula.atom (s.dialect.operation op (s.column field) drafts) negated).pieces
      ∧ (Formula.slotsOf
          (Formula.atom (s.dialect.operation op (s.column field) drafts) negated).pieces).mapM
          (Bound.parameter s.dialect) = .ok ps := by
  -- The column of a comparison is one literal, for which the two laws are stated.
  let column := s.dialect.columnRef s.place ((s.aliases.get? field.model).getD "") field.column
  have hslots : (s.dialect.operation op (s.column field) drafts).slots = drafts.flatMap Sql.slots :=
    Dialect.slots_operation s.dialect op column drafts htakes
  have hnumber : (s.dialect.operation op (s.column field) drafts).numbered s.dialect k
      = s.dialect.operation op (s.column field) values :=
    hvalues ▸ Dialect.numbered_operation op column drafts
  rw [← hslots] at hparams
  cases negated with
  | false =>
      refine ⟨?_, ?_⟩
      · show [Piece.atom _] = [Piece.atom (Sql.numbered s.dialect k _)]
        rw [hnumber]
      · simpa [Formula.pieces, Formula.slotsOf, Piece.slots, Piece.write] using hparams
  | true =>
      refine ⟨?_, ?_⟩
      · rw [Formula.pieces, Formula.pieces, if_pos rfl, if_pos rfl, Formula.numberDraft_group]
        exact congrArg (fun a => Formula.group true [Piece.atom a]) hnumber.symm
      · rw [Formula.pieces, if_pos rfl, Formula.slotsOf_group]
        simpa [Formula.slotsOf, Piece.slots, Piece.write] using hparams

mutual

/-- **A condition is rendered as its draft, numbered**: the pieces are those of the
draft under the numbers from the counter on, and the parameters are the values
in them, in the same order. -/
theorem formula_numbered {s : Setting} : ∀ {c : Condition} {k : Nat} {f : Formula Sql}
    {ps : List Value}, c.fits = true → c.formula s k = .ok (f, ps) →
      f.pieces = Formula.numberDraft s.dialect k (c.draft s).pieces
        ∧ (Formula.slotsOf (c.draft s).pieces).mapM (Bound.parameter s.dialect) = .ok ps
  | .leaf field op operand negated, k, f, ps, hfits, h => by
      obtain ⟨values, rfl, hcases⟩ := formula_leaf_ok h
      unfold Condition.draft
      rcases hcases with ⟨hop, rfl, rfl⟩ | ⟨hop, hbind⟩
      · rw [hop, if_pos rfl]
        -- A null test writes no value, whatever its operand holds.
        have htakes : op.takes 0 = true := by
          cases op <;> rfl
        exact comparison_numbered field negated rfl rfl htakes
      · have hoperand : operand.fits op = true := by
          unfold Condition.fits at hfits
          rw [hop] at hfits
          exact hfits
        obtain ⟨hvalues, hparams⟩ := bind_numbered hop hoperand hbind
        rw [hop]
        exact comparison_numbered field negated hvalues hparams
          (Operand.takes_draft hop operand hoperand)
  | .set connector children negated, k, f, ps, hfits, h => by
      obtain ⟨fs, rfl, hfs⟩ := formula_set_ok h
      unfold Condition.fits at hfits
      obtain ⟨hpieces, hparams⟩ := formulas_numbered hfits hfs
      unfold Condition.draft Formula.pieces
      rw [Formula.numberDraft_connect, Formula.slotsOf_connect, ← hpieces]
      exact ⟨rfl, hparams⟩

theorem formulas_numbered {s : Setting} : ∀ {cs : List Condition} {k : Nat}
    {fs : List (Formula Sql)} {ps : List Value}, Condition.fitsAll cs = true →
      Condition.formulas s k cs = .ok (fs, ps) →
      Formula.pieces.go fs = numberFrom (Formula.width (·.slots.length))
          (Formula.numberDraft s.dialect) k (Formula.pieces.go (Condition.drafts s cs))
        ∧ ((Formula.pieces.go (Condition.drafts s cs)).flatMap Formula.slotsOf).mapM
            (Bound.parameter s.dialect) = .ok ps
  | [], k, fs, ps, _, h => by
      obtain ⟨rfl, rfl⟩ := formulas_nil_ok h
      exact ⟨rfl, rfl⟩
  | c :: rest, k, fs, ps, hfits, h => by
      obtain ⟨f, qs, gs, rs, hf, hgs, rfl, rfl⟩ := formulas_cons_ok h
      unfold Condition.fitsAll at hfits
      obtain ⟨hc, hrest⟩ := Bool.and_eq_true_iff.1 hfits
      obtain ⟨hpiece, hparams⟩ := formula_numbered hc hf
      obtain ⟨hpieces, hmore⟩ := formulas_numbered hrest hgs
      refine ⟨?_, mapM_append_ok hparams hmore⟩
      show f.pieces :: Formula.pieces.go gs = _
      -- The counter goes on by the parameters of the first condition, which are as many as
      -- its draft has placeholders.
      rw [hpieces, hpiece, length_mapM_ok hparams, Formula.length_slotsOf]
      rfl

theorem bind_numbered {s : Setting} {field : Attribute} {op : Operator}
    (hop : op.isNullTest = false) : ∀ {operand : Operand} {k : Nat} {values : List Sql}
    {ps : List Value}, operand.fits op = true → operand.bind s k field op = .ok (values, ps) →
      values = Sql.numberedAll s.dialect k (operand.draft s field op)
        ∧ ((operand.draft s field op).flatMap Sql.slots).mapM (Bound.parameter s.dialect) = .ok ps
  | .value v, k, values, ps, _, h => by
      unfold Operand.draft
      rcases bind_value_ok h with ⟨hv, rfl, rfl⟩ | ⟨hv, rfl, stored, hstored, rfl⟩
      · rw [hv]
        exact ⟨rfl, rfl⟩
      · rw [hv]
        exact ⟨(Setting.numbered_drafted [v] k).symm,
          Setting.drafted_parameters (Operator.takes_of_le_one hop (Nat.le_refl 1)) hstored⟩
  | .list vs, k, values, ps, hfits, h => by
      obtain ⟨rfl, stored, hstored, rfl⟩ := bind_list_ok h
      unfold Operand.fits at hfits
      unfold Operand.draft
      exact ⟨(Setting.numbered_drafted vs k).symm, Setting.drafted_parameters hfits hstored⟩
  | .query q, k, values, ps, hfits, h => by
      obtain ⟨st, hst, rfl, rfl⟩ := bind_query_ok h
      unfold Operand.fits at hfits
      obtain ⟨hsql, hparams⟩ := render_numbered hfits hst
      unfold Operand.draft
      rw [hsql]
      refine ⟨rfl, ?_⟩
      simpa using hparams

theorem render_numbered {d : Dialect} : ∀ {q : Select} {k : Nat} {fields : List Field}
    {st : Statement}, q.fits = true → q.render d k fields = .ok st →
      st.sql = (q.draft d fields).numbered d k
        ∧ (q.draft d fields).slots.mapM (Bound.parameter d) = .ok st.parameters
  | ⟨plan, filter⟩, k, fields, st, hfits, h => by
      obtain ⟨w, hw, hsql, hst⟩ := render_ok h
      obtain ⟨fs, hfs, hwhere⟩ := whereClause_ok hw
      unfold Select.fits at hfits
      obtain ⟨hpieces, hparams⟩ := formulas_numbered hfits hfs
      -- The clauses around the condition have no placeholder, so the numbering of the
      -- condition is that of the select.
      rw [hsql, hst, hwhere, Select.draft_eq, Select.numbered_assemble, Select.slots_assemble,
        Setting.slots_whereDraft, Setting.numbered_whereDraft hpieces]
      exact ⟨rfl, hparams⟩

end

/-- **A where clause is rendered as its draft, numbered.** -/
theorem whereClause_numbered {s : Setting} {filter : List Condition} {k : Nat} {w : Statement}
    (hfits : Condition.fitsAll filter = true) (h : s.whereClause k filter = .ok w) :
    w.sql = (s.whereDraft filter).numbered s.dialect k
      ∧ (s.whereDraft filter).slots.mapM (Bound.parameter s.dialect) = .ok w.parameters := by
  obtain ⟨fs, hfs, hsql⟩ := whereClause_ok h
  obtain ⟨hpieces, hparams⟩ := formulas_numbered hfits hfs
  rw [hsql, Setting.numbered_whereDraft hpieces, Setting.slots_whereDraft]
  exact ⟨rfl, hparams⟩

end RecordMapper
