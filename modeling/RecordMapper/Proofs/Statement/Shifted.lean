/-
  RecordMapper.Proofs.Statement.Shifted
  ────────────────────────────────
  **RENDERING BEHIND MORE PARAMETERS.**

  A nested select is rendered behind the parameters that come before it in the whole
  statement.  All that rendering takes from them is their number.  Behind more
  parameters everything is written as before, but for the numbers of its own
  placeholders, and the parameters are the same; and what cannot be rendered there
  cannot be rendered here.

  Main results:
    • `formula_shifted`, `formulas_shifted`, `bind_shifted`, `render_shifted`
      — one for each form of condition, operand and select, by one induction.
-/
import RecordMapper.Proofs.Statement.Draft
import RecordMapper.Proofs.Statement.Marks

namespace RecordMapper

/-! ## §1. Numbering that gives no numbers. -/

/-- Where a number changes nothing, a list is numbered member by member. -/
theorem numberFrom_eq_map {α β : Type} (width : α → Nat) {number : Nat → α → β} {g : α → β}
    (h : ∀ k x, number k x = g x) : ∀ (k : Nat) (l : List α), numberFrom width number k l = l.map g
  | _, [] => rfl
  | k, x :: l => by
      show number k x :: numberFrom width number (k + width x) l = _
      rw [h, numberFrom_eq_map width h]
      rfl

/-- Separators go between the images of pieces as they go between the pieces. -/
theorem map_separated {α β : Type} (g : α → β) {blank : α → Bool} {blank' : β → Bool}
    (hblank : ∀ x, blank' (g x) = blank x) {sep : α} {sep' : β} (hsep : g sep = sep')
    (l : List α) :
    (Text.separated blank sep l).map g = Text.separated blank' sep' (l.map g) := by
  have hmap := numberFrom_eq_map (g := g) (fun _ => 0) (fun _ _ => rfl) 0
  rw [← hmap, ← hmap]
  exact (numberFrom_separated _ _ blank blank' sep sep' (fun _ => hblank) rfl (fun _ => hsep) l 0).symm

/-! ## §2. Text behind more parameters. -/

/-- **A token behind `n` more parameters**: a placeholder stands for a parameter whose
number is greater by `n`, and is marked by it. -/
def Token.shifted (p : Product) (n : Nat) : Token Nat → Token Nat
  | .text s => .text s
  | .slot i _ => .slot (i + n) (p.mark (i + n))

namespace Sql

variable {p : Product} {m n : Nat}

/-- **A piece of a statement behind `n` more parameters.** -/
def shifted (p : Product) (n : Nat) (a : Sql) : Sql :=
  a.map (Token.shifted p n)

@[simp] theorem shifted_nil : shifted p n [] = [] := rfl

@[simp] theorem shifted_lit (s : String) : shifted p n (lit s) = lit s := rfl

@[simp] theorem shifted_append (a b : Sql) : shifted p n (a ++ b) = shifted p n a ++ shifted p n b :=
  List.map_append

/-- Text without placeholders is the same behind any parameters. -/
theorem shifted_of_slots : ∀ {a : Sql}, a.slots = [] → shifted p n a = a
  | [], _ => rfl
  | .text s :: a, h => congrArg (Token.text s :: ·) (shifted_of_slots (a := a) h)
  | .slot _ _ :: a, h => by cases h

theorem shifted_shifted (a : Sql) : shifted p n (shifted p m a) = shifted p (m + n) a := by
  unfold shifted
  rw [List.map_map]
  refine List.map_congr_left fun t _ => ?_
  cases t with
  | text s => rfl
  | slot i mark => simp [Token.shifted, Nat.add_assoc]

/-- Where placeholders carry no number, the text is the same behind any parameters. -/
theorem text_shifted (hp : p ≠ .oracle) (m n : Nat) (a : Sql) :
    (shifted p m a).text = (shifted p n a).text := by
  unfold shifted text
  rw [List.map_map, List.map_map]
  congr 1
  refine List.map_congr_left fun t _ => ?_
  cases t with
  | text s => rfl
  | slot i mark => cases p <;> first | rfl | exact absurd rfl hp

theorem text_append {ι : Type} (a b : Sql ι) : (a ++ b).text = a.text ++ b.text := by
  unfold text
  rw [List.map_append, String.join_append]

/-- What writes nothing still writes nothing behind more parameters. -/
@[simp] theorem isBlank_shifted (a : Sql) : isBlank (shifted p n a) = isBlank a := by
  unfold isBlank shifted
  rw [List.all_map]
  congr 1
  funext t
  cases t <;> rfl

@[simp] theorem shifted_joined (sep : String) (pieces : List Sql) :
    shifted p n (joined sep pieces) = joined sep (pieces.map (shifted p n)) := by
  have hseparated := map_separated (shifted p n) isBlank_shifted (shifted_lit sep) pieces
  unfold joined
  rw [← hseparated]
  exact List.map_flatten

@[simp] theorem shifted_enclosed (a : Sql) : shifted p n a.enclosed = (shifted p n a).enclosed := by
  simp [enclosed]

@[simp] theorem shifted_clause (keyword : String) (a : Sql) :
    shifted p n (clause keyword a) = clause keyword (shifted p n a) := by
  unfold clause
  rw [isBlank_shifted]
  split <;> simp

end Sql

namespace Dialect

variable {d : Dialect} {p : Product} {n : Nat}

/-- **An operator behind more parameters** is written between the same column and the
values behind them. -/
theorem shifted_operation (op : Operator) (column : String) (values : List Sql) :
    (d.operation op (Sql.lit column) values).shifted p n
      = d.operation op (Sql.lit column) (values.map (Sql.shifted p n)) := by
  have hhead : ∀ a : Option Sql, (a.getD []).shifted p n = (a.map (Sql.shifted p n)).getD [] := by
    intro a
    cases a <;> rfl
  by_cases hcase : (op.ignoresCase && d.caseStyle == .matched) = true
  · simp only [operation, hcase, if_true]
    simp [hhead]
  · simp only [operation, hcase]
    cases op <;> simp [infixed, lowered, hhead]

end Dialect

@[simp] theorem Window.shifted_write {p : Product} {n : Nat} (query : Sql) (w : Window) :
    (w.write query).shifted p n = w.write (query.shifted p n) := by
  cases w with
  | limitOffset limit offset => cases limit <;> simp [Window.write]
  | _ => simp [Window.write]

@[simp] theorem Paging.shifted_apply {p : Product} {n : Nat} (paging : Paging) (query : Sql)
    (limit offset : Option Nat) :
    (paging.apply query limit offset).shifted p n
      = paging.apply (query.shifted p n) limit offset := by
  cases limit <;> cases offset <;> simp [Paging.apply]

/-- **A select behind more parameters** has the same clauses around its condition. -/
theorem Select.shifted_assemble {p : Product} {n : Nat} (q : Select) (s : Setting)
    (fields : List Field) (condition : Sql) :
    (q.assemble s fields condition).shifted p n
      = q.assemble s fields (condition.shifted p n) := by
  have hcolumns := Sql.shifted_of_slots (p := p) (n := n) (slots_columns Nat s fields)
  have hjoins := Sql.shifted_of_slots (p := p) (n := n) (slots_joins Nat q s)
  have hgroup := Sql.shifted_of_slots (p := p) (n := n)
    (slots_joined_map Nat ", " (s.inClause .selectGroupBy).column q.groupBy fun _ _ => rfl)
  have horder := Sql.shifted_of_slots (p := p) (n := n)
    (slots_joined_map Nat ", " (sortSql (s.inClause .selectOrderBy)) q.orderBy fun _ _ => rfl)
  unfold assemble parts Dialect.select tableSql
  cases q.distinct <;>
    simp [-Sql.shifted_joined, hcolumns, hjoins, hgroup, horder]

/-- The placeholders of parameters behind more others. -/
theorem Setting.shifted_slots {s : Setting} {p : Product} (hs : s.dialect = p.dialect)
    (k n count : Nat) :
    s.slots (k + n) count = (s.slots k count).map (Sql.shifted p n) := by
  unfold Setting.slots
  rw [Nat.add_comm k n, ← List.map_add_range', List.map_map, List.map_map]
  refine List.map_congr_left fun i _ => ?_
  show [Token.slot (n + i) (s.dialect.placeholder _ (n + i))] = [Token.slot (i + n) (p.mark (i + n))]
  rw [hs, p.placeholder_eq, Nat.add_comm]

/-! ## §3. Formulas behind more parameters. -/

namespace Formula

variable {α β : Type}

/-- A formula over the images of its atoms. -/
def map (g : α → β) : Formula α → Formula β
  | .atom a negated => .atom (g a) negated
  | .set connector children negated => .set connector (go children) negated
where
  go : List (Formula α) → List (Formula β)
    | [] => []
    | f :: rest => f.map g :: go rest

end Formula

/-- A piece whose atom is replaced by its image. -/
def Piece.map {α β : Type} (g : α → β) : Piece α → Piece β :=
  Piece.number (fun _ => g) 0

namespace Formula

variable {α β : Type} (g : α → β)

theorem number_eq_map (w : α → Nat) (k : Nat) (ps : List (Piece α)) :
    number w (fun _ => g) k ps = ps.map (Piece.map g) :=
  numberFrom_eq_map _ (fun _ p => by cases p <;> rfl) k ps

theorem map_connect (c : Connector) (negated : Bool) (children : List (List (Piece α))) :
    (connect c negated children).map (Piece.map g)
      = connect c negated (children.map (List.map (Piece.map g))) := by
  have hchildren := numberFrom_eq_map (width fun _ => 0) (number_eq_map g fun _ => 0) 0 children
  rw [← number_eq_map g (fun _ => 0) 0, number_connect, hchildren]

mutual

/-- **The pieces of an image** are the images of the pieces. -/
theorem pieces_map : ∀ f : Formula α, (f.map g).pieces = f.pieces.map (Piece.map g)
  | .atom a negated => by cases negated <;> rfl
  | .set connector children negated => by
      unfold map pieces
      rw [pieces_map_go, map_connect]

theorem pieces_map_go : ∀ fs : List (Formula α),
    pieces.go (map.go g fs) = (pieces.go fs).map (List.map (Piece.map g))
  | [] => rfl
  | f :: rest => by
      unfold map.go pieces.go
      rw [pieces_map f, pieces_map_go rest]
      rfl

end

/-- Pieces write behind more parameters what they write, behind them. -/
theorem write_pieces_shifted {p : Product} {n : Nat} (ps : List (Piece Sql)) :
    (ps.map (Piece.map (Sql.shifted p n))).flatMap Piece.write
      = Sql.shifted p n (ps.flatMap Piece.write) := by
  induction ps with
  | nil => rfl
  | cons piece ps ih =>
      rw [List.map_cons, List.flatMap_cons, List.flatMap_cons, Sql.shifted_append, ih]
      cases piece <;> rfl

/-- **A formula behind more parameters** is written as it is, behind them. -/
theorem write_shifted {p : Product} {n : Nat} (f : Formula Sql) :
    (f.map (Sql.shifted p n)).write = Sql.shifted p n f.write := by
  unfold write
  rw [pieces_map, write_pieces_shifted]

end Formula

/-! ## §4. Rendering behind more parameters. -/

section

variable {p : Product} {n : Nat}

/-- A statement behind `n` more parameters. -/
def Statement.shifted (p : Product) (n : Nat) (st : Statement) : Statement :=
  ⟨st.sql.shifted p n, st.parameters⟩

mutual

/-- **A condition behind more parameters** has the same formula, whose placeholders have
greater numbers, and the same parameters. -/
theorem formula_shifted {s : Setting} (hs : s.dialect = p.dialect) :
    ∀ (c : Condition) (k : Nat), c.formula s (k + n)
      = (c.formula s k).map fun (f, ps) => (f.map (Sql.shifted p n), ps)
  | .leaf field op operand negated, k => by
      have hoperation : ∀ values : List Sql,
          (s.dialect.operation op (s.column field) values).shifted p n
            = s.dialect.operation op (s.column field) (values.map (Sql.shifted p n)) :=
        Dialect.shifted_operation op _
      unfold Condition.formula Setting.comparison
      split
      · show _ = Except.ok (Formula.atom (Sql.shifted p n _) negated, _)
        rw [hoperation]
        rfl
      · rw [bind_shifted hs field op operand k]
        cases operand.bind s k field op with
        | error e => rfl
        | ok bound =>
            show _ = Except.ok (Formula.atom (Sql.shifted p n _) negated, _)
            rw [hoperation]
            rfl
  | .set connector children negated, k => by
      unfold Condition.formula
      rw [formulas_shifted hs children k]
      cases Condition.formulas s k children <;> rfl

theorem formulas_shifted {s : Setting} (hs : s.dialect = p.dialect) :
    ∀ (cs : List Condition) (k : Nat), Condition.formulas s (k + n) cs
      = (Condition.formulas s k cs).map fun (fs, ps) => (Formula.map.go (Sql.shifted p n) fs, ps)
  | [], k => by
      unfold Condition.formulas
      rfl
  | c :: rest, k => by
      unfold Condition.formulas
      rw [formula_shifted hs c k]
      cases c.formula s k with
      | error e => rfl
      | ok first =>
          obtain ⟨f, ps⟩ := first
          have hrest := formulas_shifted hs rest (k + ps.length)
          rw [Nat.add_right_comm] at hrest
          show (Condition.formulas s (k + n + ps.length) rest >>= _) = Except.map _ (Condition.formulas s _ rest >>= _)
          rw [hrest]
          cases Condition.formulas s (k + ps.length) rest <;> rfl

theorem bind_shifted {s : Setting} (hs : s.dialect = p.dialect) (field : Attribute)
    (op : Operator) : ∀ (operand : Operand) (k : Nat), operand.bind s (k + n) field op
      = (operand.bind s k field op).map fun (values, ps) => (values.map (Sql.shifted p n), ps)
  | .value v, k => by
      unfold Operand.bind Setting.bind
      split
      · rfl
      · cases [v].mapM field.toStorage with
        | error e => rfl
        | ok stored =>
          show Except.ok _ = Except.ok _
          rw [Setting.shifted_slots hs]
  | .list vs, k => by
      unfold Operand.bind Setting.bind
      cases vs.mapM field.toStorage with
      | error e => rfl
      | ok stored =>
          show Except.ok _ = Except.ok _
          rw [Setting.shifted_slots hs]
  | .query q, k => by
      unfold Operand.bind
      rw [hs, render_shifted q k q.operandFields]
      cases q.render p.dialect k q.operandFields <;> rfl

theorem render_shifted : ∀ (q : Select) (k : Nat) (fields : List Field),
    q.render p.dialect (k + n) fields
      = (q.render p.dialect k fields).map (Statement.shifted p n)
  | ⟨plan, filter⟩, k, fields => by
      let s := ((⟨plan, []⟩ : Select).setting p.dialect).inClause .selectWhere
      have hwhere : ∀ fs : List (Formula Sql),
          (Formula.set .and (Formula.map.go (Sql.shifted p n) fs) false).write
            = (Formula.set .and fs false).write.shifted p n :=
        fun fs => Formula.write_shifted (.set .and fs false)
      unfold Select.render
      show (Condition.formulas s (k + n) filter >>= _) = Except.map _ (Condition.formulas s k filter >>= _)
      rw [formulas_shifted rfl filter k]
      cases Condition.formulas s k filter with
      | error e => rfl
      | ok rendered =>
          obtain ⟨fs, ps⟩ := rendered
          show Except.ok (Statement.mk _ _) = Except.ok (Statement.mk (Sql.shifted p n _) _)
          rw [hwhere, Select.shifted_assemble]

end

end

end RecordMapper
