/-
  RecordMapper.Proofs.Statement.Counted
  ────────────────────────────────
  **PLACEHOLDERS AGAINST PARAMETERS.**

  An operator that takes one value writes the first member of a list and binds all
  of them; `between` does the same with the first two.  So a statement never has
  more placeholders than parameters, and it has fewer exactly when somewhere in it,
  nested selects included, a list is longer than its operator writes.  The count is
  kept for the two numbers at once, through every form of condition and operand.

  Main result: `render_counted` — a rendered select has at most as many
  placeholders as parameters, and as many exactly when every list fits.
-/
import RecordMapper.Proofs.Statement.Draft
import RecordMapper.Proofs.Statement.Shape

namespace RecordMapper

/-! ## §1. Two counts. -/

/-- **So many placeholders against so many parameters**: never more, and as many
exactly when everything fits. -/
structure Counted (slots parameters : Nat) (fits : Bool) : Prop where
  le : slots ≤ parameters
  eq_iff : slots = parameters ↔ fits = true

namespace Counted

theorem same (n : Nat) : Counted n n true :=
  ⟨Nat.le_refl n, by simp⟩

/-- Two parts of a statement: as many of both exactly when as many of each. -/
theorem add {a b m n : Nat} {x y : Bool} (h : Counted a m x) (h' : Counted b n y) :
    Counted (a + b) (m + n) (x && y) := by
  obtain ⟨hle, hiff⟩ := h
  obtain ⟨hle', hiff'⟩ := h'
  refine ⟨by omega, ?_⟩
  rw [Bool.and_eq_true, ← hiff, ← hiff']
  omega

end Counted

/-! ## §2. One comparison. -/

namespace Setting

/-- The placeholders of values are as many as the values. -/
theorem length_slots (s : Setting) (k n : Nat) :
    ((s.slots k n).flatMap Sql.slots).length = n := by
  unfold slots
  rw [List.flatMap_map, List.length_flatMap]
  have hone : ((List.range' k n).map fun _ => 1) = List.replicate n 1 := by
    rw [List.map_const', List.length_range']
  exact (congrArg List.sum hone).trans (by simp)

/-- In each place of the values stands one placeholder, or nothing behind their end. -/
theorem length_slots_at (s : Setting) (k n i : Nat) :
    ((s.slots k n)[i]?.getD []).slots.length ≤ 1 := by
  unfold slots
  rw [List.getElem?_map]
  cases (List.range' k n)[i]? with
  | none => exact Nat.zero_le 1
  | some j => exact Nat.le_refl 1

end Setting

/-- **An operator that does not write a list whole** leaves placeholders out: it
writes the first member, or for `between` the first two. -/
theorem Dialect.slots_operation_lt (d : Dialect) (s : Setting) {op : Operator} (column : String)
    (k : Nat) {n : Nat} (hop : op.isNullTest = false) (h : op.takes n = false) :
    (d.operation op (Sql.lit column) (s.slots k n)).slots.length < n := by
  have hfirst := s.length_slots_at k n 0
  have hsecond := s.length_slots_at k n 1
  rw [← List.head?_eq_getElem?] at hfirst
  by_cases hcase : (op.ignoresCase && d.caseStyle == .matched) = true
  · have hn : 1 < n := by
      cases op <;> simp_all [Operator.ignoresCase, Operator.takes]
    simp only [operation, hcase, if_true]
    simp
    omega
  · simp only [operation, hcase]
    cases op with
    | isIn | notIn => simp [Operator.takes] at h
    | isNull | isNotNull | is => simp [Operator.isNullTest] at hop
    | between =>
        have hn : 2 < n := by simpa [Operator.takes] using h
        simp
        omega
    | _ =>
        have hn : 1 < n := by simpa [Operator.takes] using h
        simp
        omega

/-! ## §3. Conditions, operands and selects. -/

theorem Formula.slotsOf_atom (a : Sql) (negated : Bool) :
    slotsOf (Formula.atom a negated).pieces = a.slots := by
  have hatom : slotsOf [.atom a] = a.slots := by
    simp [slotsOf, Piece.slots, Piece.write]
  unfold pieces
  cases negated with
  | false => exact hatom
  | true => exact (slotsOf_group true _).trans hatom

mutual

/-- **A condition** is counted: as many placeholders as parameters exactly when every
list in it fits. -/
theorem formula_counted {s : Setting} : ∀ {c : Condition} {k : Nat} {f : Formula Sql}
    {ps : List Value}, c.formula s k = .ok (f, ps) →
      Counted (Formula.slotsOf f.pieces).length ps.length c.fits
  | .leaf field op operand negated, k, f, ps, h => by
      obtain ⟨values, rfl, hcases⟩ := formula_leaf_ok h
      rw [Formula.slotsOf_atom]
      unfold Condition.fits
      rcases hcases with ⟨hop, rfl, rfl⟩ | ⟨hop, hbind⟩
      · have hnone : op.takes 0 = true := by
          cases op <;> rfl
        rw [hop, Bool.true_or, Setting.column, Dialect.column,
          Dialect.slots_operation _ _ _ _ hnone]
        exact Counted.same 0
      · rw [hop, Bool.false_or]
        exact bind_counted hop hbind
  | .set connector children negated, k, f, ps, h => by
      obtain ⟨fs, rfl, hfs⟩ := formula_set_ok h
      unfold Formula.pieces Condition.fits
      rw [Formula.slotsOf_connect]
      exact formulas_counted hfs

theorem formulas_counted {s : Setting} : ∀ {cs : List Condition} {k : Nat}
    {fs : List (Formula Sql)} {ps : List Value}, Condition.formulas s k cs = .ok (fs, ps) →
      Counted ((Formula.pieces.go fs).flatMap Formula.slotsOf).length ps.length
        (Condition.fitsAll cs)
  | [], k, fs, ps, h => by
      obtain ⟨rfl, rfl⟩ := formulas_nil_ok h
      exact Counted.same 0
  | c :: rest, k, fs, ps, h => by
      obtain ⟨f, qs, gs, rs, hf, hgs, rfl, rfl⟩ := formulas_cons_ok h
      unfold Condition.fitsAll Formula.pieces.go
      rw [List.flatMap_cons, List.length_append, List.length_append]
      exact (formula_counted hf).add (formulas_counted hgs)

/-- **A comparison** is counted by its operand. -/
theorem bind_counted {s : Setting} {field : Attribute} {op : Operator}
    (hop : op.isNullTest = false) : ∀ {operand : Operand} {k : Nat} {values : List Sql}
    {ps : List Value}, operand.bind s k field op = .ok (values, ps) →
      Counted (s.dialect.operation op (s.column field) values).slots.length ps.length
        (operand.fits op)
  | .value v, k, values, ps, h => by
      unfold Operand.fits
      -- NULL writes and binds nothing; another value fills one placeholder.
      have hcount : ∀ n, n ≤ 1 → values = s.slots k n → ps.length = n →
          Counted (s.dialect.operation op (s.column field) values).slots.length ps.length true := by
        rintro n hn rfl hps
        have htakes : op.takes (s.slots k n).length = true :=
          Operator.takes_of_le_one hop (by simpa [Setting.slots] using hn)
        rw [Setting.column, Dialect.column, Dialect.slots_operation _ _ _ _ htakes,
          Setting.length_slots, hps]
        exact Counted.same n
      rcases bind_value_ok h with ⟨hv, rfl, rfl⟩ | ⟨hv, rfl, stored, hstored, rfl⟩
      · exact hcount 0 (Nat.zero_le 1) rfl rfl
      · refine hcount 1 (Nat.le_refl 1) rfl ?_
        rw [Dialect.length_castValues, length_mapM_ok hstored]
        rfl
  | .list vs, k, values, ps, h => by
      obtain ⟨rfl, _⟩ := bind_list_ok h
      rw [length_bind_list h]
      unfold Operand.fits
      cases htakes : op.takes vs.length with
      | true =>
          have hwhole : op.takes (s.slots k vs.length).length = true := by
            simpa [Setting.slots] using htakes
          rw [Setting.column, Dialect.column, Dialect.slots_operation _ _ _ _ hwhole,
            Setting.length_slots]
          exact Counted.same vs.length
      | false =>
          have hlt := s.dialect.slots_operation_lt s
            (s.dialect.columnRef s.place ((s.aliases.get? field.model).getD "") field.column)
            k hop htakes
          exact ⟨Nat.le_of_lt hlt, ⟨fun heq => absurd heq (Nat.ne_of_lt hlt), nofun⟩⟩
  | .query q, k, values, ps, h => by
      obtain ⟨st, hst, rfl, rfl⟩ := bind_query_ok h
      have htakes : op.takes [st.sql].length = true :=
        Operator.takes_of_le_one hop (Nat.le_refl 1)
      unfold Operand.fits
      rw [Setting.column, Dialect.column, Dialect.slots_operation _ _ _ _ htakes,
        List.flatMap_singleton]
      exact render_counted hst

/-- **A select** is counted by its conditions. -/
theorem render_counted {d : Dialect} : ∀ {q : Select} {k : Nat} {fields : List Field}
    {st : Statement}, q.render d k fields = .ok st →
      Counted st.sql.slots.length st.parameters.length q.fits
  | ⟨plan, filter⟩, k, fields, st, h => by
      obtain ⟨w, hw, hsql, hst⟩ := render_ok h
      obtain ⟨fs, hfs, hwhere⟩ := whereClause_ok hw
      unfold Select.fits
      rw [hsql, Select.slots_assemble, hwhere, Formula.slots_write, hst]
      unfold Formula.pieces
      rw [Formula.slotsOf_connect]
      exact formulas_counted hfs

end

end RecordMapper
