/-
  RecordMapper.Proofs.Statement.Legible
  ────────────────────────────────
  **THE PLACEHOLDERS OF A STATEMENT ARE THE MARKS IN ITS TEXT.**

  A statement is legible when the reader of its product finds in its text the
  placeholders that were written, and nothing else.  Literal words hold no first
  character of a mark, names are assumed to hold no mark, and a name or a
  placeholder is always followed by text that stands apart.  The main result,
  `render_legible`, goes through the renderer once, one case for each form of
  condition and operand.
-/
import RecordMapper.Proofs.Statement.Marks
import RecordMapper.Proofs.Statement.Rendering

namespace RecordMapper

/-! ## §1. Legible pieces. -/

/-- The mark that a token writes, if it is a placeholder. -/
def Token.mark? {ι : Type} : Token ι → Option String
  | .text _ => none
  | .slot _ mark => some mark

namespace Sql

/-- The marks that were written, left to right. -/
def marks (a : Sql) : List String :=
  a.filterMap Token.mark?

/-- **The placeholders can be read off the text.** -/
def Legible (p : Product) (a : Sql) : Prop :=
  p.marksIn a.text.toList = a.marks

/-- The text does not begin with a character that could go on a mark. -/
def apart (a : Sql) : Bool :=
  Product.apart a.text.toList

/-- A word that begins with a character that cannot go on a mark. -/
def leads (s : String) : Bool :=
  s != "" && Product.apart s.toList

variable {p : Product}

theorem marks_append (a b : Sql) : (a ++ b).marks = a.marks ++ b.marks :=
  List.filterMap_append

theorem toList_text_append (a b : Sql) : (a ++ b).text.toList = a.text.toList ++ b.text.toList := by
  unfold text
  rw [List.map_append, String.join_append, String.toList_append]

theorem text_lit (s : String) : (lit s : Sql).text = s := by
  simp [text, lit, Token.write]

theorem legible_nil : Legible p [] := rfl

/-- **Two legible pieces, the second apart from the first.** -/
theorem legible_append {a b : Sql} (ha : Legible p a) (hb : Legible p b) (hab : b.apart = true) :
    Legible p (a ++ b) := by
  unfold Legible at *
  rw [toList_text_append, Product.marksIn_append p hab, ha, hb, marks_append]

/-- A legible piece behind a plain word. -/
theorem legible_word_append {s : String} {b : Sql} (hs : Product.plain s = true)
    (hb : Legible p b) : Legible p (lit s ++ b) := by
  unfold Legible at *
  rw [toList_text_append, text_lit, Product.marksIn_plain_append p hs, hb, marks_append]
  rfl

/-- Two literal texts may be written as one. -/
theorem legible_merge {s t : String} {b : Sql} (h : Legible p (lit s ++ (lit t ++ b))) :
    Legible p (lit (s ++ t) ++ b) := by
  unfold Legible at *
  rw [toList_text_append, toList_text_append, text_lit, text_lit] at h
  rw [toList_text_append, text_lit, String.toList_append, List.append_assoc, h]
  rfl

theorem legible_name {s : String} (hs : p.Clean s) : Legible p (lit s) := by
  unfold Legible
  rw [text_lit, hs]
  rfl

theorem legible_word {s : String} (hs : Product.plain s = true) : Legible p (lit s) :=
  legible_name (Product.clean_of_plain p hs)

/-- Whatever follows it, text behind such a word stands apart. -/
theorem apart_of_leads {s : String} (hs : leads s = true) (r : List Char) :
    Product.apart (s.toList ++ r) = true := by
  unfold leads at hs
  obtain ⟨hne, hs⟩ := Bool.and_eq_true_iff.1 hs
  cases hl : s.toList with
  | nil =>
      have hempty : s = "" := String.toList_eq_nil_iff.1 hl
      simp [hempty] at hne
  | cons c rest =>
      rw [hl] at hs
      exact hs

theorem apart_word_append {s : String} {b : Sql} (hs : leads s = true) :
    (lit s ++ b).apart = true := by
  unfold apart
  rw [toList_text_append, text_lit]
  exact apart_of_leads hs _

theorem apart_word {s : String} (hs : leads s = true) : (lit s).apart = true := by
  have h := apart_word_append (b := []) hs
  rwa [List.append_nil] at h

/-- **A word behind something**: plain text that stands apart. -/
def word (s : String) : Bool :=
  Product.plain s && leads s

/-- Plain text behind a word makes a longer word. -/
theorem word_append {s t : String} (hs : word s = true) (ht : Product.plain t = true) :
    word (s ++ t) = true := by
  obtain ⟨hplain, hlead⟩ := Bool.and_eq_true_iff.1 hs
  have hne : s ≠ "" := by
    intro h
    subst h
    simp [leads] at hlead
  unfold word leads
  rw [Product.plain_append hplain ht, String.toList_append, apart_of_leads hlead]
  simp [hne]

/-- A word behind a legible piece. -/
theorem legible_append_word {a : Sql} {s : String} (ha : Legible p a) (hs : word s = true) :
    Legible p (a ++ lit s) := by
  obtain ⟨hplain, hlead⟩ := Bool.and_eq_true_iff.1 hs
  exact legible_append ha (legible_word hplain) (apart_word hlead)

/-- A legible piece between two words. -/
theorem legible_between {s t : String} {a : Sql} (hs : Product.plain s = true)
    (ha : Legible p a) (ht : word t = true) : Legible p (lit s ++ a ++ lit t) :=
  legible_append_word (legible_word_append hs ha) ht

/-- **A placeholder is legible.** -/
theorem legible_slot (clause : Clause) (n : Nat) : Legible p [p.dialect.slot clause n] := by
  have htext : text [p.dialect.slot clause n] = p.mark n := by
    rw [← p.placeholder_eq clause n]
    simp [text, Dialect.slot, Token.write]
  unfold Legible
  rw [htext, Product.marksIn_mark, ← p.placeholder_eq clause n]
  rfl

/-! ## §2. Legible lists. -/

/-- **Separated pieces are legible** when each of them is and the separator stands
apart. -/
theorem legible_separated {α : Type} (g : α → Sql) (blank : α → Bool) (sep : α) {s : String}
    (hsep : g sep = lit s) (hs : word s = true)
    (hblank : ∀ x, blank x = true → (g x).text = "" ∧ (g x).marks = []) :
    ∀ l : List α, (∀ x ∈ l, Legible p (g x)) → Legible p ((Text.separated blank sep l).flatMap g)
  | [], _ => legible_nil
  | [x], h => by
      simpa [Text.separated] using h x List.mem_cons_self
  | x :: y :: rest, h => by
      have hx := h x List.mem_cons_self
      have ih := legible_separated g blank sep hsep hs hblank (y :: rest)
        fun z hz => h z (List.mem_cons_of_mem _ hz)
      unfold Text.separated
      cases hb : blank x with
      | true =>
          -- A blank piece is not separated from the rest, and adds nothing to it.
          obtain ⟨htext, hmarks⟩ := hblank x hb
          rw [if_pos rfl, List.flatMap_cons]
          unfold Legible at ih ⊢
          rw [toList_text_append, htext, marks_append, hmarks]
          exact ih
      | false =>
          obtain ⟨hplain, hlead⟩ := Bool.and_eq_true_iff.1 hs
          -- The separator stands apart from what is before it, and is plain before the rest.
          rw [if_neg (by simp), List.flatMap_cons, List.flatMap_cons, hsep]
          exact legible_append hx (legible_word_append hplain ih) (apart_word_append hlead)

/-- A blank piece writes nothing. -/
theorem text_of_isBlank : ∀ {a : Sql}, a.isBlank = true → a.text = "" ∧ a.marks = []
  | [], _ => ⟨rfl, rfl⟩
  | .text s :: a, h => by
      unfold isBlank at h
      rw [List.all_cons, Bool.and_eq_true] at h
      obtain ⟨htext, hmarks⟩ := text_of_isBlank (a := a) h.2
      have hs : s = "" := by simpa [Token.isBlank] using h.1
      subst hs
      refine ⟨?_, hmarks⟩
      unfold text at htext ⊢
      rw [List.map_cons, String.join_cons, htext]
      rfl
  | .slot _ _ :: a, h => by
      simp [isBlank, Token.isBlank] at h

theorem legible_joined {sep : String} (hsep : word sep = true) {pieces : List Sql}
    (h : ∀ a ∈ pieces, Legible p a) : Legible p (joined sep pieces) := by
  have hall := legible_separated (p := p) id isBlank (lit sep) rfl hsep
    (fun _ => text_of_isBlank) pieces h
  rw [List.flatMap_id] at hall
  exact hall

theorem legible_enclosed {a : Sql} (h : Legible p a) : Legible p a.enclosed :=
  legible_between (by decide) h (by decide)

theorem legible_clause (keyword : String) (hplain : Product.plain (" " ++ keyword) = true)
    {a : Sql} (h : Legible p a) : Legible p (clause keyword a) := by
  unfold clause
  split
  · exact legible_nil
  · exact legible_word_append hplain h

theorem apart_clause {keyword : String} (hlead : leads (" " ++ keyword) = true) (a : Sql) :
    (clause keyword a).apart = true := by
  unfold clause
  split
  · rfl
  · exact apart_word_append hlead

end Sql


/-! ## §3. Legible words of a dialect. -/

namespace Dialect

open Sql

variable {p : Product}

/-- A word between two legible pieces. -/
theorem legible_infixed {column value : Sql} (symbol : String)
    (hsymbol : word symbol = true) (hcolumn : Legible p column) (hvalue : Legible p value) :
    Legible p (infixed column symbol value) := by
  obtain ⟨hplain, hlead⟩ := Bool.and_eq_true_iff.1 hsymbol
  unfold infixed
  rw [List.append_assoc]
  exact legible_append hcolumn (legible_word_append hplain hvalue) (apart_word_append hlead)

theorem legible_lowered {a : Sql} (h : Legible p a) : Legible p (lowered a) :=
  legible_between (by decide) h (by decide)

/-- **One condition is legible** when its column and its values are. -/
theorem legible_operation (op : Operator) {column : Sql} {values : List Sql}
    (hcolumn : Legible p column) (hvalues : ∀ a ∈ values, Legible p a) :
    Legible p (p.dialect.operation op column values) := by
  have hfirst : Legible p (values.headD []) := by
    cases values with
    | nil => exact legible_nil
    | cons a rest => exact hvalues a List.mem_cons_self
  have hsecond : Legible p (values.getD 1 []) := by
    match values, hvalues with
    | [], _ => exact legible_nil
    | [_], _ => exact legible_nil
    | _ :: b :: _, h => exact h b (List.mem_cons_of_mem _ List.mem_cons_self)
  have hlist : Legible p (joined ", " values).enclosed :=
    legible_enclosed (legible_joined (by decide) hvalues)
  have hmatched : Legible p (lit "REGEXP_LIKE(" ++ column) :=
    legible_word_append (by decide) hcolumn
  unfold operation
  split
  · exact legible_append_word (legible_infixed ", " (by decide) hmatched hfirst)
      (by decide)
  · cases op with
    | eq | ne | lt | lte | gt | gte | contains | startsWith =>
        exact legible_infixed _ (by decide) hcolumn hfirst
    | isNull | is | isNotNull => exact legible_append_word hcolumn (by decide)
    | isIn | notIn => exact legible_infixed _ (by decide) hcolumn hlist
    | between =>
        exact legible_infixed " AND " (by decide)
          (legible_infixed _ (by decide) hcolumn hfirst) hsecond
    | ieq | icontains | istartsWith =>
        exact legible_infixed _ (by decide) (legible_lowered hcolumn) (legible_lowered hfirst)

/-- A name behind plain text. -/
theorem clean_append {s name : String} (hs : Product.plain s = true) (hname : p.Clean name) :
    p.Clean (s ++ name) := by
  unfold Product.Clean at *
  rw [String.toList_append, Product.marksIn_plain_append p hs, hname]

/-- Two names around a word. -/
theorem clean_between {a b s : String} (ha : p.Clean a) (hs : word s = true) (hb : p.Clean b) :
    p.Clean (a ++ s ++ b) := by
  obtain ⟨hplain, hlead⟩ := Bool.and_eq_true_iff.1 hs
  have happart := apart_of_leads hlead b.toList
  unfold Product.Clean at *
  rw [String.append_assoc, String.toList_append, String.toList_append,
    Product.marksIn_append p happart, Product.marksIn_plain_append p hplain, ha, hb]
  rfl

/-- **A select is legible** when its clauses are.  Each clause but the first begins with a
blank, where no mark can go on. -/
theorem legible_select {parts : SelectParts} (hcolumns : parts.columns.Legible p)
    (htable : parts.table.Legible p) (hjoin : parts.join.Legible p)
    (hcondition : parts.condition.Legible p) (hgroupBy : parts.groupBy.Legible p)
    (hhaving : parts.having.Legible p) (horderBy : parts.orderBy.Legible p) :
    (select parts).Legible p := by
  have hkeyword : Product.plain (if parts.distinct then "SELECT DISTINCT " else "SELECT ")
      = true := by
    split <;> decide
  unfold select
  have hfrom := legible_infixed " FROM " (by decide) (legible_word_append hkeyword hcolumns) htable
  have hjoined := legible_append hfrom (legible_clause "" (by decide) hjoin)
    (apart_clause (by decide) _)
  have hwhere := legible_append hjoined (legible_clause "WHERE " (by decide) hcondition)
    (apart_clause (by decide) _)
  have hgrouped := legible_append hwhere (legible_clause "GROUP BY " (by decide) hgroupBy)
    (apart_clause (by decide) _)
  have hrestricted := legible_append hgrouped (legible_clause "HAVING " (by decide) hhaving)
    (apart_clause (by decide) _)
  exact legible_append hrestricted (legible_clause "ORDER BY " (by decide) horderBy)
    (apart_clause (by decide) _)

end Dialect

/-- **A statement through a window is legible.** -/
theorem Window.legible_write {p : Product} {query : Sql} (h : query.Legible p) (w : Window) :
    (w.write query).Legible p := by
  have hnumber := Product.plain_toString
  have hword : ∀ {s : String} (n : Nat), Sql.word s = true → Sql.word (s ++ toString n) = true :=
    fun n hs => Sql.word_append hs (hnumber n)
  cases w with
  | limit n => exact Sql.legible_append_word h (hword n (by decide))
  | offset m => exact Sql.legible_append_word h (hword m (by decide))
  | limitOffset n m =>
      cases n with
      | none => exact Sql.legible_append_word h (hword m (by decide))
      | some n =>
          have hlimit := Sql.word_append (hword n (s := " LIMIT ") (by decide))
            (t := " OFFSET ") (by decide)
          exact Sql.legible_append_word h (hword m hlimit)
  | offsetComma m n =>
      have hoffset := Sql.word_append (hword m (s := " LIMIT ") (by decide)) (t := ", ") (by decide)
      exact Sql.legible_append_word h (hword n hoffset)
  | numberedUpTo n => exact Sql.legible_between (by decide) h (hword n (by decide))
  | numberedFrom m => exact Sql.legible_between (by decide) h (hword m (by decide))
  | numberedBetween n m =>
      have hupper := Sql.word_append (hword n (s := ") A WHERE ROWNUM <= ") (by decide))
        (t := ") WHERE r_num >= ") (by decide)
      exact Sql.legible_between (by decide) h (hword m hupper)

theorem Paging.legible_apply {p : Product} {query : Sql} (h : query.Legible p) (paging : Paging)
    (limit offset : Option Nat) : (paging.apply query limit offset).Legible p := by
  cases limit <;> cases offset <;> first | exact h | exact Window.legible_write h _

/-! ## §4. The names that a statement writes. -/

/-- **The names that a plan writes**: tables, aliases, columns and display names. -/
def SelectPlan.names (plan : SelectPlan) (fields : List Field) : List String :=
  plan.model.table :: plan.aliases.map (·.2)
    ++ fields.flatMap (fun f => f.column :: f.displayName.toList)
    ++ plan.joined.flatMap (fun (model, joins) =>
      model.table :: joins.flatMap fun join => [join.lhs.column, join.rhs.column])
    ++ plan.groupBy.map (·.column) ++ plan.orderBy.map (·.field.column)

mutual

/-- The names that an operand writes. -/
def Operand.names : Operand → List String
  | .value _ | .list _ => []
  | .query q => q.names q.operandFields

/-- **The names that a condition writes.** -/
def Condition.names : Condition → List String
  | .leaf field _ operand _ => field.column :: operand.names
  | .set _ children _ => Condition.namesOfAll children

/-- The names that several conditions write. -/
def Condition.namesOfAll : List Condition → List String
  | [] => []
  | c :: rest => c.names ++ Condition.namesOfAll rest

/-- **The names that a select writes** when it yields the given fields. -/
def Select.names (fields : List Field) : Select → List String
  | ⟨plan, filter⟩ => plan.names fields ++ Condition.namesOfAll filter

end

/-- A setting of the product whose aliases hold no mark. -/
structure Setting.Named (p : Product) (s : Setting) : Prop where
  dialect : s.dialect = p.dialect
  aliases : ∀ pair ∈ s.aliases, p.Clean pair.2

namespace Setting

variable {p : Product} {s : Setting}

theorem Named.inClause (hs : s.Named p) (clause : Clause) : (s.inClause clause).Named p :=
  ⟨hs.dialect, hs.aliases⟩

/-- The alias of a table, or nothing. -/
theorem Named.qualifier (hs : s.Named p) (name : String) :
    p.Clean ((s.aliases.get? name).getD "") := by
  unfold Keyed.get?
  cases hfind : s.aliases.find? (·.1 == name) with
  | none => rfl
  | some pair => exact hs.aliases pair (List.mem_of_find?_eq_some hfind)

/-- A column behind its alias. -/
theorem Named.column (hs : s.Named p) {field : Attribute} (hfield : p.Clean field.column) :
    p.Clean (s.dialect.columnRef s.place ((s.aliases.get? field.model).getD "") field.column) := by
  rw [hs.dialect, p.columnRef_eq]
  unfold Dialect.plainColumnRef
  split
  · exact Dialect.clean_between (hs.qualifier field.model) (by decide) hfield
  · exact hfield

theorem Named.legible_column (hs : s.Named p) {field : Attribute} (hfield : p.Clean field.column) :
    (s.column field).Legible p :=
  Sql.legible_name (hs.column hfield)

end Setting

/-! ## §5. The clauses of a select. -/

namespace Select

open Sql

variable {p : Product} {s : Setting}

theorem legible_columnSql (hs : s.Named p) {f : Field} (hcolumn : p.Clean f.column)
    (hname : ∀ n ∈ f.displayName, p.Clean n) : (columnSql s f).Legible p := by
  unfold columnSql
  split
  · rename_i name h
    have hbehind : p.Clean (" AS " ++ name) := Dialect.clean_append (by decide) (hname name h)
    refine legible_append (hs.legible_column hcolumn) (legible_name hbehind) ?_
    unfold Sql.apart
    rw [text_lit, String.toList_append]
    exact apart_of_leads (by decide) _
  · exact hs.legible_column hcolumn

/-- A table, with its alias where one is declared. -/
theorem clean_tableRef (place : Place) {table qualifier : String} (htable : p.Clean table)
    (hqualifier : p.Clean qualifier) : p.Clean (Dialect.tableRef place table qualifier) := by
  unfold Dialect.tableRef
  split
  · exact Dialect.clean_between htable (by decide) hqualifier
  · exact htable

theorem legible_joinSql (hs : s.Named p) {m : Model} {j : Join} (htable : p.Clean m.table)
    (hlhs : p.Clean j.lhs.column) (hrhs : p.Clean j.rhs.column) : (joinSql s m j).Legible p := by
  unfold joinSql Dialect.joinClause
  have hon : (s.dialect.operation .eq (s.column j.lhs) [s.column j.rhs] : Sql).Legible p := by
    have hrhs' := hs.legible_column hrhs
    rw [hs.dialect]
    exact Dialect.legible_operation .eq (hs.legible_column hlhs) (by simpa using hrhs')
  have htables := clean_tableRef { s.place with clause := .join } htable
    (hs.qualifier m.name)
  have hkeyword : Product.plain (Dialect.joinKeyword j.type ++ " JOIN ") = true := by
    cases j.type <;> decide
  refine legible_merge (legible_append (legible_name (Dialect.clean_append hkeyword htables))
    (legible_word_append (by decide) hon) (apart_word_append (by decide)))

theorem legible_sortSql (hs : s.Named p) {key : SortKey} (hcolumn : p.Clean key.field.column) :
    (sortSql s key).Legible p := by
  unfold sortSql
  exact legible_append_word (hs.legible_column hcolumn) (by cases key.direction <;> decide)

/-- The joins of a select, each behind the others. -/
theorem legible_joins (hs : s.Named p) {q : Select}
    (htables : ∀ pair ∈ q.joined, p.Clean pair.1.table)
    (hsides : ∀ pair ∈ q.joined, ∀ j ∈ pair.2, p.Clean j.lhs.column ∧ p.Clean j.rhs.column) :
    (joined " " (q.joins.map fun (m, j) => joinSql s m j)).Legible p := by
  refine legible_joined (by decide) fun a ha => ?_
  obtain ⟨⟨m, j⟩, hmem, rfl⟩ := List.mem_map.1 ha
  obtain ⟨⟨model, joins⟩, hpair, hmem⟩ := List.mem_flatMap.1 hmem
  obtain ⟨join, hjoin, heq⟩ := List.mem_map.1 hmem
  obtain ⟨rfl, rfl⟩ := Prod.mk.inj heq
  obtain ⟨hlhs, hrhs⟩ := hsides _ hpair join hjoin
  exact legible_joinSql hs (htables _ hpair) hlhs hrhs

theorem named_setting {q : Select} {d : Dialect} {fields : List Field} (hd : d = p.dialect)
    (hnames : ∀ n ∈ q.toSelectPlan.names fields, p.Clean n) : (q.setting d).Named p := by
  refine ⟨hd, fun pair hpair => hnames pair.2 ?_⟩
  unfold SelectPlan.names
  simp only [List.mem_append, List.mem_cons]
  exact .inl (.inl (.inl (.inl (.inr (List.mem_map.2 ⟨pair, hpair, rfl⟩)))))

/-- **A select is legible** when its condition is and the names of its plan hold no
mark. -/
theorem legible_assemble {q : Select} {d : Dialect} {fields : List Field} {condition : Sql}
    (hd : d = p.dialect) (hnames : ∀ n ∈ q.toSelectPlan.names fields, p.Clean n)
    (hcondition : condition.Legible p) :
    (q.assemble (q.setting d) fields condition).Legible p := by
  have hs := named_setting hd hnames
  simp only [SelectPlan.names, List.forall_mem_append, List.forall_mem_cons, List.forall_mem_map,
    List.mem_flatMap, forall_exists_index, and_imp] at hnames
  obtain ⟨⟨⟨⟨⟨htable, -⟩, hfields⟩, hjoined⟩, hgroupBy⟩, horderBy⟩ := hnames
  have hcolumns : (joined ", " (fields.map (columnSql (q.setting d)))).Legible p := by
    refine legible_joined (by decide) fun a ha => ?_
    obtain ⟨f, hf, rfl⟩ := List.mem_map.1 ha
    refine legible_columnSql hs (hfields _ f hf List.mem_cons_self) fun n hn => ?_
    exact hfields n f hf (List.mem_cons_of_mem _ (Option.mem_toList.2 hn))
  have hjoins : (joined " " (q.joins.map fun (m, j) => joinSql (q.setting d) m j)).Legible p := by
    refine legible_joins hs (fun pair hpair => hjoined _ pair hpair List.mem_cons_self)
      fun pair hpair j hj => ?_
    have hside : ∀ c ∈ [j.lhs.column, j.rhs.column], p.Clean c := fun c hc =>
      hjoined c pair hpair (List.mem_cons_of_mem _ (List.mem_flatMap.2 ⟨j, hj, hc⟩))
    exact ⟨hside _ List.mem_cons_self, hside _ (List.mem_cons_of_mem _ List.mem_cons_self)⟩
  have hgroup : (joined ", " (q.groupBy.map
      ((q.setting d).inClause .selectGroupBy).column)).Legible p := by
    refine legible_joined (by decide) fun a ha => ?_
    obtain ⟨field, hfield, rfl⟩ := List.mem_map.1 ha
    exact (hs.inClause _).legible_column (hgroupBy field hfield)
  have horder : Legible p (if q.distinct then [] else joined ", " (q.orderBy.map
      (sortSql ((q.setting d).inClause .selectOrderBy)))) := by
    split
    · exact legible_nil
    · refine legible_joined (by decide) fun a ha => ?_
      obtain ⟨key, hkey, rfl⟩ := List.mem_map.1 ha
      exact legible_sortSql (hs.inClause _) (horderBy key hkey)
  have htables : (q.tableSql (q.setting d)).Legible p :=
    legible_name (clean_tableRef _ htable (hs.qualifier q.model.name))
  have hselect : (Dialect.select (q.parts (q.setting d) fields condition)).Legible p :=
    Dialect.legible_select hcolumns htables hjoins hcondition hgroup legible_nil horder
  unfold assemble
  exact Paging.legible_apply hselect _ _ _

end Select

/-! ## §6. Rendering is legible. -/

namespace Formula

open Sql

variable {p : Product}

/-- Pieces in parentheses, negated or not. -/
theorem legible_group (negated : Bool) {ps : List (Piece Sql)}
    (h : Legible p (ps.flatMap Piece.write)) :
    Legible p ((group negated ps).flatMap Piece.write) := by
  have henclosed := legible_enclosed h
  unfold group
  rw [List.flatMap_append, List.flatMap_append, List.flatMap_cons]
  cases negated with
  | false => simpa [Piece.write, enclosed] using henclosed
  | true =>
      have hnot := legible_word_append (s := "NOT ") (by decide) henclosed
      simpa [Piece.write, enclosed] using hnot

/-- **A connected set is legible** when its children are. -/
theorem legible_connect (c : Connector) (negated : Bool) {children : List (List (Piece Sql))}
    (h : ∀ ps ∈ children, Legible p (ps.flatMap Piece.write)) :
    Legible p ((connect c negated children).flatMap Piece.write) := by
  have hsep : ([.connective c] : List (Piece Sql)).flatMap Piece.write
      = lit (Dialect.connector c) := by
    simp [Piece.write]
  have hword : word (Dialect.connector c) = true := by
    cases c <;> decide
  have hblank : ∀ ps : List (Piece Sql), ps.isEmpty = true →
      text (ps.flatMap Piece.write) = "" ∧ marks (ps.flatMap Piece.write) = [] := by
    intro ps hps
    rw [List.isEmpty_iff.1 hps]
    exact ⟨rfl, rfl⟩
  have hchildren : Legible p ((Text.separated List.isEmpty [.connective c] children).flatten.flatMap
      Piece.write) := by
    rw [List.flatten_eq_flatMap, List.flatMap_assoc]
    exact legible_separated (List.flatMap Piece.write) List.isEmpty _ hsep hword hblank children h
  unfold connect
  split
  · exact legible_nil
  · exact legible_group negated hchildren

end Formula

variable {p : Product}

/-- The placeholders of values are legible. -/
theorem Setting.legible_slots {s : Setting} (hs : s.Named p) (k n : Nat) :
    ∀ a ∈ s.slots k n, a.Legible p := by
  intro a ha
  obtain ⟨i, _, rfl⟩ := List.mem_map.1 ha
  rw [hs.dialect]
  exact Sql.legible_slot s.place.clause i

mutual

/-- **A rendered condition is legible** when the names in it hold no mark. -/
theorem formula_legible {s : Setting} (hs : s.Named p) : ∀ {c : Condition} {k : Nat}
    {f : Formula Sql} {ps : List Value}, (∀ n ∈ c.names, p.Clean n) →
      c.formula s k = .ok (f, ps) → Sql.Legible p (f.pieces.flatMap Piece.write)
  | .leaf field op operand negated, k, f, ps, hnames, h => by
      obtain ⟨values, rfl, hcases⟩ := formula_leaf_ok h
      unfold Condition.names at hnames
      -- A null test has no values; those of the others are placeholders or a select.
      have hvalues : ∀ a ∈ values, Sql.Legible p a := by
        rcases hcases with ⟨_, rfl, _⟩ | ⟨_, hbind⟩
        · intro a ha
          cases ha
        · exact bind_legible hs (fun n hn => hnames n (List.mem_cons_of_mem _ hn)) hbind
      have hatom := Dialect.legible_operation op
        (hs.legible_column (hnames _ List.mem_cons_self)) hvalues
      rw [← hs.dialect] at hatom
      have hpiece : Sql.Legible p (([.atom (s.dialect.operation op (s.column field) values)] :
          List (Piece Sql)).flatMap Piece.write) := by
        simpa [Piece.write] using hatom
      unfold Formula.pieces
      split
      · exact Formula.legible_group true hpiece
      · exact hpiece
  | .set connector children negated, k, f, ps, hnames, h => by
      obtain ⟨fs, rfl, hfs⟩ := formula_set_ok h
      unfold Condition.names at hnames
      exact Formula.legible_connect connector negated (formulas_legible hs hnames hfs)

theorem formulas_legible {s : Setting} (hs : s.Named p) : ∀ {cs : List Condition} {k : Nat}
    {fs : List (Formula Sql)} {ps : List Value}, (∀ n ∈ Condition.namesOfAll cs, p.Clean n) →
      Condition.formulas s k cs = .ok (fs, ps) →
      ∀ pieces ∈ Formula.pieces.go fs, Sql.Legible p (pieces.flatMap Piece.write)
  | [], k, fs, ps, _, h => by
      obtain ⟨rfl, _⟩ := formulas_nil_ok h
      intro pieces hpieces
      cases hpieces
  | c :: rest, k, fs, ps, hnames, h => by
      obtain ⟨f, qs, gs, rs, hf, hgs, rfl, _⟩ := formulas_cons_ok h
      unfold Condition.namesOfAll at hnames
      obtain ⟨hfirst, hrest⟩ := List.forall_mem_append.1 hnames
      exact List.forall_mem_cons.2 ⟨formula_legible hs hfirst hf, formulas_legible hs hrest hgs⟩

theorem bind_legible {s : Setting} (hs : s.Named p) : ∀ {operand : Operand} {k : Nat}
    {field : Attribute} {op : Operator} {values : List Sql} {ps : List Value},
      (∀ n ∈ operand.names, p.Clean n) → operand.bind s k field op = .ok (values, ps) →
      ∀ a ∈ values, Sql.Legible p a
  | .value v, k, field, op, values, ps, _, h => by
      rcases bind_value_ok h with ⟨_, rfl, _⟩ | ⟨_, rfl, _⟩
      · intro a ha
        cases ha
      · exact Setting.legible_slots hs k 1
  | .list vs, k, field, op, values, ps, _, h => by
      obtain ⟨rfl, _⟩ := bind_list_ok h
      exact Setting.legible_slots hs k vs.length
  | .query q, k, field, op, values, ps, hnames, h => by
      obtain ⟨st, hst, rfl, _⟩ := bind_query_ok h
      unfold Operand.names at hnames
      rw [hs.dialect] at hst
      exact List.forall_mem_singleton.2 (render_legible hnames hst)

/-- **A rendered select is legible** when the names in it hold no mark. -/
theorem render_legible : ∀ {q : Select} {k : Nat} {fields : List Field} {st : Statement},
    (∀ n ∈ q.names fields, p.Clean n) → q.render p.dialect k fields = .ok st → st.sql.Legible p
  | ⟨plan, filter⟩, k, fields, st, hnames, h => by
      obtain ⟨w, hw, hsql, _⟩ := render_ok h
      obtain ⟨fs, hfs, hwhere⟩ := whereClause_ok hw
      unfold Select.names at hnames
      obtain ⟨hplan, hfilter⟩ := List.forall_mem_append.1 hnames
      -- A nested select has aliases of its own, so its setting is another one.
      have hs : ((Select.setting ⟨plan, filter⟩ p.dialect).inClause .selectWhere).Named p :=
        (Select.named_setting rfl hplan).inClause .selectWhere
      have hcondition : w.sql.Legible p := by
        rw [hwhere]
        exact Formula.legible_connect .and false (formulas_legible hs hfilter hfs)
      rw [hsql]
      exact Select.legible_assemble rfl hplan hcondition

end

end RecordMapper
