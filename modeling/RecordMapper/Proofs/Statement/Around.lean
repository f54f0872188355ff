/-
  RecordMapper.Proofs.Statement.Around
  ────────────────────────────────
  **WHAT IS WRITTEN AROUND A PART.**

  A comparison writes its value between texts of its own, and a select its condition;
  neither looks at what it is, but for whether there is something.  A connected set does
  the same for each of its conditions, between the conditions before it and behind it.
  Only the conditions behind it may have placeholders of their own there.

  Main results:
    • `Setting.surrounds_comparison`, `Select.surrounds_assemble` — the texts around a
      value and around a condition;
    • `Formula.pieces_set_around` — the conditions around another one;
    • `formulas_append_ok` — in which order they are rendered.
-/
import RecordMapper.Proofs.Statement.Shifted

namespace RecordMapper

/-! ## §1. Text around a part. -/

namespace Sql

theorem isBlank_append {ι : Type} (a b : Sql ι) : (a ++ b).isBlank = (a.isBlank && b.isBlank) :=
  List.all_append

/-- **A way of writing surrounds its part**: it writes the same before and after it,
whatever the part is, and has no placeholder behind it. -/
def Surrounds (write : Sql → Sql) : Prop :=
  ∃ opening closing : Sql, closing.slots = []
    ∧ ∀ part : Sql, part.isBlank = false → write part = opening ++ part ++ closing

namespace Surrounds

theorem between (opening closing : Sql) (h : closing.slots = []) :
    Surrounds fun part => opening ++ part ++ closing :=
  ⟨opening, closing, h, fun _ _ => rfl⟩

theorem same : Surrounds id :=
  ⟨[], [], rfl, fun part _ => by simp⟩

/-- Around a part that is not blank, what is written is not blank. -/
theorem isBlank {write : Sql → Sql} (h : Surrounds write) {part : Sql}
    (hpart : part.isBlank = false) : (write part).isBlank = false := by
  obtain ⟨opening, closing, -, hwrite⟩ := h
  rw [hwrite part hpart, isBlank_append, isBlank_append, hpart]
  simp

/-- What surrounds a part is surrounded in turn. -/
theorem comp {inner outer : Sql → Sql} (ho : Surrounds outer) (hi : Surrounds inner) :
    Surrounds fun part => outer (inner part) := by
  have hblank : ∀ part : Sql, part.isBlank = false → (inner part).isBlank = false :=
    fun _ => hi.isBlank
  obtain ⟨opening, closing, hslots, hinner⟩ := hi
  obtain ⟨opening', closing', hslots', houter⟩ := ho
  refine ⟨opening' ++ opening, closing ++ closing', by simp [hslots, hslots'], fun part hpart => ?_⟩
  show outer (inner part) = _
  rw [houter _ (hblank part hpart), hinner part hpart]
  simp

theorem clause (keyword : String) : Surrounds (Sql.clause keyword) :=
  ⟨lit (" " ++ keyword), [], rfl, fun part hpart => by simp [Sql.clause, hpart]⟩

end Surrounds

end Sql

/-- **An operator surrounds its value.** -/
theorem Dialect.surrounds_operation (d : Dialect) (op : Operator) (hop : op.isNullTest = false)
    (column : String) : Sql.Surrounds fun value => d.operation op (Sql.lit column) [value] := by
  have hlowered : ∀ symbol : String, Sql.Surrounds fun value =>
      infixed (lowered (Sql.lit column)) symbol (lowered value) := fun symbol =>
    ⟨lowered (Sql.lit column) ++ Sql.lit symbol ++ Sql.lit "LOWER(", Sql.lit ")", rfl,
      fun value _ => by simp [infixed, lowered]⟩
  have hinfixed : ∀ symbol : String, Sql.Surrounds fun value =>
      infixed (Sql.lit column) symbol value := fun symbol =>
    ⟨Sql.lit column ++ Sql.lit symbol, [], rfl, fun value _ => by simp [infixed]⟩
  have hlisted : ∀ symbol : String, Sql.Surrounds fun value =>
      Sql.lit column ++ Sql.lit symbol ++ (Sql.joined ", " [value]).enclosed := fun symbol =>
    ⟨Sql.lit column ++ Sql.lit symbol ++ Sql.lit "(", Sql.lit ")", rfl,
      fun value _ => by simp [Sql.joined, Sql.enclosed, Text.separated]⟩
  by_cases hcase : (op.ignoresCase && d.caseStyle == .matched) = true
  · simp only [operation, hcase, if_true]
    exact .between (Sql.lit "REGEXP_LIKE(" ++ Sql.lit column ++ Sql.lit ", ") (Sql.lit ", 'i')") rfl
  · simp only [operation, hcase]
    cases op with
    | isNull | isNotNull | is => cases hop
    | isIn => exact hlisted " IN "
    | notIn => exact hlisted " NOT IN "
    | between =>
        exact ⟨Sql.lit column ++ Sql.lit " BETWEEN ", Sql.lit " AND ", rfl,
          fun value _ => by simp [infixed]⟩
    | ieq | icontains | istartsWith => exact hlowered _
    | _ => exact hinfixed _

/-- **A comparison surrounds its value**, negated or not. -/
theorem Setting.surrounds_comparison (s : Setting) (field : Attribute) {op : Operator}
    (hop : op.isNullTest = false) (negated : Bool) :
    Sql.Surrounds fun value =>
      (Formula.atom (s.dialect.operation op (s.column field) [value]) negated).write := by
  have hatom : Sql.Surrounds fun a => (Formula.atom a negated).write := by
    cases negated with
    | false => exact ⟨[], [], rfl, fun a _ => by simp [Formula.write, Formula.pieces, Piece.write]⟩
    | true =>
        exact ⟨Sql.lit "NOT " ++ Sql.lit "(", Sql.lit ")", rfl,
          fun a _ => by simp [Formula.write, Formula.pieces, Formula.group, Piece.write]⟩
  exact hatom.comp (Dialect.surrounds_operation s.dialect op hop _)

/-- **Paging surrounds the statement.** -/
theorem Paging.surrounds_apply (paging : Paging) (limit offset : Option Nat) :
    Sql.Surrounds fun query => paging.apply query limit offset := by
  have hwindow : ∀ w : Window, Sql.Surrounds fun query => w.write query := by
    intro w
    cases w with
    | limitOffset limit offset =>
        cases limit <;> exact ⟨[], _, rfl, fun query _ => rfl⟩
    | limit | offset | offsetComma => exact ⟨[], _, rfl, fun query _ => rfl⟩
    | numberedUpTo | numberedFrom | numberedBetween => exact .between _ _ rfl
  cases limit <;> cases offset
  · exact .same
  · exact hwindow _
  · exact hwindow _
  · exact hwindow _

/-- The clauses of a select surround its condition. -/
theorem Dialect.surrounds_select (parts : SelectParts) (hgroup : parts.groupBy.slots = [])
    (hhaving : parts.having.slots = []) (horder : parts.orderBy.slots = []) :
    Sql.Surrounds fun condition => Dialect.select { parts with condition := condition } := by
  have htail : (Sql.clause "GROUP BY " parts.groupBy ++ Sql.clause "HAVING " parts.having
      ++ Sql.clause "ORDER BY " parts.orderBy).slots = [] := by
    simp [hgroup, hhaving, horder]
  have hselect : (fun condition => select { parts with condition := condition })
      = fun condition =>
        (Sql.lit (if parts.distinct then "SELECT DISTINCT " else "SELECT ") ++ parts.columns
          ++ Sql.lit " FROM " ++ parts.table ++ Sql.clause "" parts.join)
        ++ Sql.clause "WHERE " condition
        ++ (Sql.clause "GROUP BY " parts.groupBy ++ Sql.clause "HAVING " parts.having
          ++ Sql.clause "ORDER BY " parts.orderBy) := by
    funext condition
    simp only [select, List.append_assoc]
  rw [hselect]
  exact (Sql.Surrounds.between _ _ htail).comp (.clause "WHERE ")

/-- **A select surrounds its condition.** -/
theorem Select.surrounds_assemble (q : Select) (s : Setting) (fields : List Field) :
    Sql.Surrounds (q.assemble s fields) := by
  have hgroup := slots_joined_map Nat ", " (s.inClause .selectGroupBy).column q.groupBy
    fun _ _ => rfl
  have horder := slots_joined_map Nat ", " (sortSql (s.inClause .selectOrderBy)) q.orderBy
    fun _ _ => rfl
  refine (Paging.surrounds_apply _ _ _).comp
    (Dialect.surrounds_select (q.parts s fields []) hgroup rfl ?_)
  unfold parts
  cases q.distinct
  · exact horder
  · rfl

/-- A select is not blank. -/
theorem Select.isBlank_assemble (q : Select) (s : Setting) (fields : List Field) (condition : Sql) :
    (q.assemble s fields condition).isBlank = false := by
  have hselect : (Dialect.select (q.parts s fields condition)).isBlank = false := by
    unfold Dialect.select
    simp only [Sql.isBlank_append]
    cases (q.parts s fields condition).distinct <;> rfl
  exact (Paging.surrounds_apply _ _ _).isBlank hselect

/-! ## §2. The other conditions of a set. -/

/-- **One list among separated ones** that is not empty: before it stand those that are
not empty either, each with its separator; behind it the others, if there are any. -/
theorem flatten_separated_around {α : Type} (sep : List α) {x : List α} (hx : x ≠ [])
    (ys : List (List α)) : ∀ xs : List (List α),
      (Text.separated List.isEmpty sep (xs ++ x :: ys)).flatten
        = (xs.flatMap fun a => if a.isEmpty then [] else a ++ sep) ++ x
          ++ (if ys.isEmpty then [] else sep ++ (Text.separated List.isEmpty sep ys).flatten)
  | [] => by
      cases ys with
      | nil => simp [Text.separated]
      | cons y ys =>
          have hblank : x.isEmpty = false := by simpa using hx
          simp [Text.separated, hblank]
  | a :: xs => by
      have hcons : ∀ l : List (List α), l ≠ [] → Text.separated List.isEmpty sep (a :: l)
          = if a.isEmpty then a :: Text.separated List.isEmpty sep l
            else a :: sep :: Text.separated List.isEmpty sep l := by
        intro l hl
        cases l with
        | nil => exact absurd rfl hl
        | cons y l => rw [Text.separated]
      rw [List.cons_append, hcons _ (by simp), List.flatMap_cons]
      cases ha : a.isEmpty with
      | true =>
          obtain rfl : a = [] := by simpa using ha
          rw [if_pos rfl, if_pos rfl, List.flatten_cons, flatten_separated_around sep hx ys xs]
          rfl
      | false =>
          rw [if_neg (by simp), if_neg (by simp), List.flatten_cons, List.flatten_cons,
            flatten_separated_around sep hx ys xs]
          simp only [List.append_assoc]

namespace Formula

variable {α : Type}

/-- What a connected set writes before one of its children, behind other children. -/
def openingOf (c : Connector) (negated : Bool) (before : List (Formula α)) : List (Piece α) :=
  (if negated then [.not] else [])
    ++ .opening :: (pieces.go before).flatMap fun ps => if ps.isEmpty then [] else ps ++ [.connective c]

/-- What a connected set writes behind one of its children, with other children. -/
def closingOf (c : Connector) (after : List (Formula α)) : List (Piece α) :=
  (if (pieces.go after).isEmpty then []
    else [.connective c] ++ (Text.separated List.isEmpty [.connective c] (pieces.go after)).flatten)
  ++ [.closing]

/-- **A connected set around one of its children** that is written. -/
theorem pieces_set_around (c : Connector) (negated : Bool) (before : List (Formula α))
    {f : Formula α} (hf : f.pieces ≠ []) (after : List (Formula α)) :
    (Formula.set c (before ++ f :: after) negated).pieces
      = openingOf c negated before ++ f.pieces ++ closingOf c after := by
  have hgo : ∀ fs gs : List (Formula α), pieces.go (fs ++ gs) = pieces.go fs ++ pieces.go gs := by
    intro fs gs
    induction fs with
    | nil => rfl
    | cons f fs ih => exact congrArg (f.pieces :: ·) ih
  have hchildren := flatten_separated_around [.connective c] hf (pieces.go after) (pieces.go before)
  have hpieces : pieces.go (before ++ f :: after) = pieces.go before ++ f.pieces :: pieces.go after :=
    hgo before (f :: after)
  show connect c negated (pieces.go (before ++ f :: after)) = _
  unfold connect
  rw [hpieces, hchildren]
  split
  · rename_i hnil
    simp [hf] at hnil
  · simp [group, openingOf, closingOf]

/-- What stands behind a child is as it was, behind more parameters. -/
theorem closingOf_shifted {p : Product} {n : Nat} (c : Connector) (after : List (Formula Sql)) :
    (closingOf c (map.go (Sql.shifted p n) after)).flatMap Piece.write
      = Sql.shifted p n ((closingOf c after).flatMap Piece.write) := by
  have hseparated : (Text.separated List.isEmpty [.connective c] (pieces.go after)).map
        (List.map (Piece.map (Sql.shifted p n)))
      = Text.separated List.isEmpty [.connective c]
        ((pieces.go after).map (List.map (Piece.map (Sql.shifted p n)))) :=
    map_separated _ (fun _ => List.isEmpty_map) rfl _
  rw [← write_pieces_shifted]
  congr 1
  unfold closingOf
  rw [pieces_map_go, ← hseparated, List.map_append, List.isEmpty_map]
  split
  · rfl
  · rw [List.map_append, List.map_flatten]
    rfl

end Formula

/-- **A comparison with a select** is written with its statement. -/
theorem formula_query_ok {s : Setting} {field : Attribute} {op : Operator}
    (hop : op.isNullTest = false) {q : Select} {negated : Bool} {k : Nat} {f : Formula Sql}
    {ps : List Value} (h : (Condition.leaf field op (.query q) negated).formula s k = .ok (f, ps)) :
    ∃ st, f = .atom (s.dialect.operation op (s.column field) [st.sql]) negated
      ∧ ps = st.parameters ∧ q.render s.dialect k q.operandFields = .ok st := by
  obtain ⟨values, rfl, hcases⟩ := formula_leaf_ok h
  rcases hcases with ⟨hnull, -⟩ | ⟨-, hbind⟩
  · rw [hop] at hnull
    cases hnull
  · obtain ⟨st, hst, rfl, rfl⟩ := bind_query_ok hbind
    exact ⟨st, rfl, rfl, hst⟩

/-- **One condition among others**: those before it are rendered first, and those behind
it behind the parameters of both. -/
theorem formulas_append_ok {s : Setting} {c : Condition} {after : List Condition} :
    ∀ {before : List Condition} {k : Nat} {fs : List (Formula Sql)} {ps : List Value},
      Condition.formulas s k (before ++ c :: after) = .ok (fs, ps) →
      ∃ bs bps f cps gs aps, Condition.formulas s k before = .ok (bs, bps)
        ∧ c.formula s (k + bps.length) = .ok (f, cps)
        ∧ Condition.formulas s (k + bps.length + cps.length) after = .ok (gs, aps)
        ∧ fs = bs ++ f :: gs ∧ ps = bps ++ cps ++ aps
  | [], k, fs, ps, h => by
      obtain ⟨f, cps, gs, aps, hf, hgs, rfl, rfl⟩ := formulas_cons_ok h
      exact ⟨[], [], f, cps, gs, aps, by unfold Condition.formulas; rfl, hf, hgs, rfl, rfl⟩
  | b :: before, k, fs, ps, h => by
      obtain ⟨g, qs, rest, rps, hg, hrest, rfl, rfl⟩ := formulas_cons_ok h
      obtain ⟨bs, bps, f, cps, gs, aps, hbs, hf, hgs, rfl, rfl⟩ := formulas_append_ok hrest
      refine ⟨g :: bs, qs ++ bps, f, cps, gs, aps, ?_, ?_, ?_, rfl, by simp⟩
      · unfold Condition.formulas
        exact bind_ok.2 ⟨(g, qs), hg, bind_ok.2 ⟨(bs, bps), hbs, rfl⟩⟩
      · simpa [Nat.add_assoc] using hf
      · simpa [Nat.add_assoc] using hgs

end RecordMapper
