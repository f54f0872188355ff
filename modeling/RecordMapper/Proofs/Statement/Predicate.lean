/-
  RecordMapper.Proofs.Statement.Predicate
  ────────────────────────────────
  **WHICH COMPARISONS ARE WRITTEN AS A PREDICATE.**

  A predicate has the operands that its operator needs: none for a null test, two
  for `between`, a list or a select for membership, one otherwise; an operand is a
  placeholder, or a select in parentheses.  That is the grammar of §1, stated on
  text and apart from the renderer.

  The builders of conditions look at the operator and at NULL, and leave the number
  and the form of the operands to the renderer, which writes what it is given.  So
  not every condition that is built is written as a predicate.  The operands for
  which it is are told by `Operand.suits`: for these, and for no others, what is
  rendered is in the grammar and has as many placeholders as parameters.

  Main results:
    • `built_condition_predicate_iff` — for every product and every condition that
      the builders accept;
    • `lone_bound_malformed` — `between` with one bound is accepted and is not a
      predicate.
-/
import RecordMapper.Proofs.Query.Built
import RecordMapper.Proofs.Statement.Counted
import RecordMapper.Proofs.Statement.Legible
import RecordMapper.Proofs.Statement.Shifted

namespace RecordMapper

/-! ## §1. The grammar of a predicate. -/

namespace Operator

/-- What stands between the column and the value of an operator with one value. -/
def symbol? : Operator → Option String
  | .eq | .ieq => some " = "
  | .ne => some " != "
  | .lt => some " < "
  | .lte => some " <= "
  | .gt => some " > "
  | .gte => some " >= "
  | .contains | .startsWith | .icontains | .istartsWith => some " LIKE "
  | _ => none

/-- What stands behind the column of a null test. -/
def nullWord? : Operator → Option String
  | .isNull | .is => some " IS NULL"
  | .isNotNull => some " IS NOT NULL"
  | _ => none

/-- What stands between the column and the members of a membership. -/
def listWord? : Operator → Option String
  | .isIn => some " IN "
  | .notIn => some " NOT IN "
  | _ => none

/-- **The operator needs so many values.** -/
def needs (op : Operator) (count : Nat) : Bool :=
  match op with
  | .isIn | .notIn => 1 ≤ count
  | .between => count = 2
  | .isNull | .isNotNull | .is => count = 0
  | _ => count = 1

/-- An operator is of one of four forms. -/
theorem forms (op : Operator) :
    (∃ symbol, op.symbol? = some symbol) ∨ (∃ word, op.nullWord? = some word)
      ∨ op = .between ∨ ∃ word, op.listWord? = some word := by
  cases op <;> simp [symbol?, nullWord?, listWord?]

/-- An operator with one value is no null test. -/
theorem isNullTest_of_symbol {op : Operator} {symbol : String} (h : op.symbol? = some symbol) :
    op.isNullTest = false := by
  cases op <;> first | rfl | cases h

/-- Membership is no null test. -/
theorem isNullTest_of_listWord {op : Operator} {word : String} (h : op.listWord? = some word) :
    op.isNullTest = false := by
  cases op <;> first | rfl | cases h

/-- The values that an operator needs are values that it writes. -/
theorem takes_of_needs {op : Operator} {n : Nat} (h : op.needs n = true) : op.takes n = true := by
  cases op <;> simp_all [needs, takes]

end Operator

/-- **The operand suits the operator**: the values are as many as it needs, none of
them a bare NULL; a select stands for the list of a membership, and the lists inside
it fit their operators. -/
def Operand.suits (op : Operator) : Operand → Bool
  | .value v => !v.isNull && op.needs 1
  | .list vs => op.needs vs.length
  | .query q => op.listWord?.isSome && q.fits

namespace Dialect

variable {d : Dialect} {clause : Clause}

/-- **One or more placeholders**, with commas between them. -/
inductive Placeholders (d : Dialect) (clause : Clause) : String → Prop
  | one (n : Nat) : Placeholders d clause (d.placeholder clause n)
  | more (n : Nat) {rest : String} (h : Placeholders d clause rest) :
      Placeholders d clause (d.placeholder clause n ++ (", " ++ rest))

/-- **A select in parentheses.** -/
def EnclosedSelect (d : Dialect) (text : String) : Prop :=
  ∃ (q : Select) (counter : Nat) (fields : List Field) (st : Statement),
    q.render d counter fields = .ok st ∧ text = "(" ++ st.text ++ ")"

/-- **An operand**: one placeholder, or one select in parentheses. -/
def IsOperand (d : Dialect) (clause : Clause) (text : String) : Prop :=
  (∃ n, text = d.placeholder clause n) ∨ d.EnclosedSelect text

/-- **What stands before and after the operand** of an operator with one value: an
operator that ignores letter case lower-cases both sides, or matches the column. -/
def frame? (d : Dialect) (op : Operator) (column : String) : Option (String × String) :=
  op.symbol?.map fun symbol =>
    if op.ignoresCase then
      match d.caseStyle with
      | .lowered => ("LOWER(" ++ column ++ ")" ++ symbol ++ "LOWER(", ")")
      | .matched => ("REGEXP_LIKE(" ++ column ++ ", ", ", 'i')")
    else (column ++ symbol, "")

/-- **The text is a predicate** on the column with this operator. -/
inductive IsPredicate (d : Dialect) (clause : Clause) (op : Operator) (column : String) :
    String → Prop
  | comparison {before after operand : String} (hframe : d.frame? op column = some (before, after))
      (h : d.IsOperand clause operand) : IsPredicate d clause op column (before ++ operand ++ after)
  | nullTest {word : String} (hword : op.nullWord? = some word) :
      IsPredicate d clause op column (column ++ word)
  | between {low high : String} (hop : op = .between) (hlow : d.IsOperand clause low)
      (hhigh : d.IsOperand clause high) :
      IsPredicate d clause op column (column ++ " BETWEEN " ++ low ++ " AND " ++ high)
  | amongValues {word members : String} (hword : op.listWord? = some word)
      (h : d.Placeholders clause members) :
      IsPredicate d clause op column (column ++ word ++ ("(" ++ members ++ ")"))
  | amongRows {word rows : String} (hword : op.listWord? = some word) (h : d.EnclosedSelect rows) :
      IsPredicate d clause op column (column ++ word ++ rows)

/-! ## §2. What an operator writes, as text. -/

variable {op : Operator} {column : String} {values : List Sql}

theorem exists_frame (d : Dialect) (column : String) {symbol : String}
    (h : op.symbol? = some symbol) : ∃ before after, d.frame? op column = some (before, after) := by
  unfold frame?
  rw [h]
  exact ⟨_, _, rfl⟩

theorem text_operation_frame {before after : String}
    (h : d.frame? op column = some (before, after)) :
    (d.operation op (Sql.lit column) values).text
      = before ++ (values.headD []).text ++ after := by
  obtain ⟨symbol, hsymbol, hframe⟩ := Option.map_eq_some_iff.1 h
  cases hcase : op.ignoresCase with
  | false =>
      rw [hcase, if_neg (by simp)] at hframe
      obtain ⟨rfl, rfl⟩ := Prod.mk.inj hframe
      have hplain : d.operation op (Sql.lit column) values
          = infixed (Sql.lit column) symbol (values.headD []) := by
        cases op <;> cases hsymbol <;> cases hcase <;> simp [operation, Operator.ignoresCase]
      simp [hplain, infixed, Sql.text_append, Sql.text_lit, String.append_assoc]
  | true =>
      rw [hcase, if_pos rfl] at hframe
      cases hstyle : d.caseStyle with
      | matched =>
          rw [hstyle] at hframe
          obtain ⟨rfl, rfl⟩ := Prod.mk.inj hframe
          simp [operation, hcase, hstyle, Sql.text_append, Sql.text_lit, String.append_assoc]
      | lowered =>
          rw [hstyle] at hframe
          obtain ⟨rfl, rfl⟩ := Prod.mk.inj hframe
          have hlowered : d.operation op (Sql.lit column) values
              = infixed (lowered (Sql.lit column)) symbol (lowered (values.headD [])) := by
            cases op <;> cases hsymbol <;> cases hcase <;> simp [operation, hstyle]
          simp [hlowered, infixed, lowered, Sql.text_append, Sql.text_lit, String.append_assoc]

theorem text_operation_nullTest {word : String} (h : op.nullWord? = some word) :
    (d.operation op (Sql.lit column) values).text = column ++ word := by
  cases op <;> cases h <;> simp [operation, Operator.ignoresCase, Sql.text_append, Sql.text_lit]

theorem text_operation_between :
    (d.operation .between (Sql.lit column) values).text
      = column ++ " BETWEEN " ++ (values.headD []).text ++ " AND " ++ (values.getD 1 []).text := by
  simp [operation, Operator.ignoresCase, infixed, Sql.text_append, Sql.text_lit,
    String.append_assoc]

theorem text_operation_list {word : String} (h : op.listWord? = some word) :
    (d.operation op (Sql.lit column) values).text
      = column ++ word ++ ("(" ++ (Sql.joined ", " values).text ++ ")") := by
  cases op <;> cases h <;>
    simp [operation, Operator.ignoresCase, Sql.enclosed, Sql.text_append, Sql.text_lit,
      String.append_assoc]

end Dialect

/-! ## §3. How operands begin and end. -/

namespace Product

/-- A mark does not begin like a statement. -/
theorem head_mark (p : Product) (n : Nat) : ∃ c, (p.mark n).toList.head? = some c ∧ c ≠ 'S' := by
  cases p with
  | generic | sqlite => exact ⟨'?', by simp [mark], by decide⟩
  | mysql => exact ⟨'%', by simp [mark], by decide⟩
  | oracle =>
      refine ⟨':', ?_, by decide⟩
      show (":a" ++ toString n).toList.head? = some ':'
      rw [String.toList_append]
      rfl

/-- A mark does not end in a blank. -/
theorem last_mark (p : Product) (n : Nat) : ∃ c, (p.mark n).toList.getLast? = some c ∧ c ≠ ' ' := by
  cases p with
  | generic | sqlite => exact ⟨'?', by simp [mark], by decide⟩
  | mysql => exact ⟨'s', by simp [mark], by decide⟩
  | oracle =>
      have hne : (toString n).toList ≠ [] := by
        rw [Nat.toString_eq_repr, Nat.toList_repr]
        exact Nat.toDigits_ne_nil
      have hlast := List.getLast?_eq_some_getLast hne
      have hdigit := isDigit_of_mem_toString (List.getLast_mem hne)
      refine ⟨(toString n).toList.getLast hne, ?_, ?_⟩
      · show (":a" ++ toString n).toList.getLast? = _
        rw [String.toList_append, List.getLast?_append, hlast]
        rfl
      · intro hblank
        rw [hblank] at hdigit
        cases hdigit

end Product

namespace Sql

/-- The text begins like a statement. -/
def BeginsSelect (a : Sql) : Prop :=
  a.text.toList.head? = some 'S'

theorem BeginsSelect.append {a : Sql} (h : a.BeginsSelect) (b : Sql) : (a ++ b).BeginsSelect := by
  unfold BeginsSelect at *
  rw [toList_text_append, List.head?_append, h]
  rfl

theorem beginsSelect_lit {s : String} (h : s.toList.head? = some 'S') :
    (lit s : Sql).BeginsSelect := by
  unfold BeginsSelect
  rw [text_lit, h]

end Sql

theorem Dialect.beginsSelect_select (parts : Dialect.SelectParts) :
    (Dialect.select parts).BeginsSelect := by
  have hkeyword : (Sql.lit (if parts.distinct then "SELECT DISTINCT " else "SELECT ") :
      Sql).BeginsSelect := by
    cases parts.distinct <;> exact Sql.beginsSelect_lit rfl
  unfold select
  exact (((((((hkeyword.append _).append _).append _).append _).append _).append _).append _).append _

theorem Window.beginsSelect_write {query : Sql} (h : query.BeginsSelect) (w : Window) :
    (w.write query).BeginsSelect := by
  cases w with
  | limit | offset | offsetComma => exact h.append _
  | limitOffset n m => cases n <;> exact h.append _
  | numberedUpTo | numberedFrom | numberedBetween =>
      exact ((Sql.beginsSelect_lit rfl).append _).append _

theorem Paging.beginsSelect_apply {query : Sql} (h : query.BeginsSelect) (paging : Paging)
    (limit offset : Option Nat) : (paging.apply query limit offset).BeginsSelect := by
  cases limit <;> cases offset <;> first | exact h | exact Window.beginsSelect_write h _

/-- **A rendered select begins with its keyword**, not with a parenthesis. -/
theorem Select.beginsSelect_render {d : Dialect} {k : Nat} {fields : List Field} {q : Select}
    {st : Statement} (h : q.render d k fields = .ok st) : st.sql.BeginsSelect := by
  obtain ⟨w, -, hsql, -⟩ := render_ok h
  rw [hsql]
  unfold assemble
  exact Paging.beginsSelect_apply (Dialect.beginsSelect_select _) _ _ _

namespace Dialect

variable {p : Product} {clause : Clause} {text : String}

theorem EnclosedSelect.toList {d : Dialect} (h : d.EnclosedSelect text) :
    ∃ st : Statement, text.toList = '(' :: st.text.toList ++ [')'] := by
  obtain ⟨_, _, _, st, _, rfl⟩ := h
  refine ⟨st, ?_⟩
  rw [String.toList_append, String.toList_append]
  rfl

/-- **An operand does not begin like a statement.** -/
theorem IsOperand.head (h : p.dialect.IsOperand clause text) :
    ∃ c, text.toList.head? = some c ∧ c ≠ 'S' := by
  rcases h with ⟨n, rfl⟩ | h
  · rw [p.placeholder_eq]
    exact p.head_mark n
  · obtain ⟨st, htext⟩ := h.toList
    exact ⟨'(', by rw [htext]; rfl, by decide⟩

/-- **An operand does not end in a blank.** -/
theorem IsOperand.last (h : p.dialect.IsOperand clause text) :
    ∃ c, text.toList.getLast? = some c ∧ c ≠ ' ' := by
  rcases h with ⟨n, rfl⟩ | h
  · rw [p.placeholder_eq]
    exact p.last_mark n
  · obtain ⟨st, htext⟩ := h.toList
    exact ⟨')', by rw [htext, List.getLast?_append]; rfl, by decide⟩

/-- An operand is written with something. -/
theorem not_isOperand_empty : ¬ p.dialect.IsOperand clause "" := by
  intro h
  obtain ⟨c, hc, _⟩ := h.head
  cases hc

theorem Placeholders.ne_empty (h : p.dialect.Placeholders clause text) : text ≠ "" := by
  have hfirst : ∃ n rest, text = p.mark n ++ rest := by
    cases h with
    | one n => exact ⟨n, "", by rw [p.placeholder_eq, String.append_empty]⟩
    | more n h => exact ⟨n, _, by rw [p.placeholder_eq]⟩
  obtain ⟨n, rest, rfl⟩ := hfirst
  obtain ⟨c, hc, _⟩ := p.head_mark n
  intro hempty
  have hhead := congrArg (fun s => s.toList.head?) hempty
  rw [String.toList_append, List.head?_append, hc] at hhead
  cases hhead

/-! ## §4. Which values are written as a predicate. -/

variable {op : Operator} {column : String}

/-- A predicate of an operator with one value. -/
theorem IsPredicate.of_frame {d : Dialect} {before after : String}
    (hframe : d.frame? op column = some (before, after)) (h : d.IsPredicate clause op column text) :
    ∃ operand, d.IsOperand clause operand ∧ text = before ++ operand ++ after := by
  obtain ⟨symbol, hsymbol, -⟩ := Option.map_eq_some_iff.1 hframe
  cases h with
  | comparison hframe' h =>
      obtain ⟨rfl, rfl⟩ := Prod.mk.inj (Option.some.inj (hframe.symm.trans hframe'))
      exact ⟨_, h, rfl⟩
  | nullTest hword | amongValues hword | amongRows hword =>
      cases op <;> cases hsymbol <;> cases hword
  | between hop =>
      subst hop
      cases hsymbol

/-- A predicate of `between`. -/
theorem IsPredicate.of_between {d : Dialect} (h : d.IsPredicate clause .between column text) :
    ∃ low high, d.IsOperand clause low ∧ d.IsOperand clause high
      ∧ text = column ++ " BETWEEN " ++ low ++ " AND " ++ high := by
  cases h with
  | between _ hlow hhigh => exact ⟨_, _, hlow, hhigh, rfl⟩
  | comparison hframe => cases hframe
  | nullTest hword | amongValues hword | amongRows hword => cases hword

/-- A predicate of a membership has a member. -/
theorem IsPredicate.of_listWord {word : String} (hword : op.listWord? = some word)
    (h : p.dialect.IsPredicate clause op column text) :
    ∃ members, members ≠ "" ∧ text = column ++ word ++ ("(" ++ members ++ ")") := by
  cases h with
  | amongValues hword' h =>
      obtain rfl := Option.some.inj (hword.symm.trans hword')
      exact ⟨_, h.ne_empty, rfl⟩
  | amongRows hword' h =>
      obtain rfl := Option.some.inj (hword.symm.trans hword')
      obtain ⟨q, k, fields, st, hst, rfl⟩ := h
      refine ⟨st.text, ?_, rfl⟩
      intro hempty
      have hhead : st.text.toList.head? = some 'S' := Select.beginsSelect_render hst
      rw [hempty] at hhead
      cases hhead
  | comparison hframe =>
      obtain ⟨symbol, hsymbol, -⟩ := Option.map_eq_some_iff.1 hframe
      cases op <;> cases hsymbol <;> cases hword
  | nullTest hnull => cases op <;> cases hnull <;> cases hword
  | between hop =>
      subst hop
      cases hword

/-- Text that ends behind the second word of `between` is no predicate. -/
theorem not_isPredicate_between_open (before : String) :
    ¬ p.dialect.IsPredicate clause .between column (before ++ " AND " ++ "") := by
  intro h
  obtain ⟨low, high, _, hhigh, heq⟩ := h.of_between
  obtain ⟨c, hc, hblank⟩ := hhigh.last
  have hlast := congrArg (fun s => s.toList.getLast?) heq
  rw [String.append_empty, String.toList_append, List.getLast?_append, String.toList_append,
    List.getLast?_append, hc] at hlast
  exact hblank (Option.some.inj hlast).symm

end Dialect

namespace Setting

open Dialect

variable {p : Product} {s : Setting} {op : Operator} {column : String} {k : Nat}

/-- The text of one placeholder. -/
theorem text_slot (d : Dialect) (clause : Clause) (n : Nat) :
    Sql.text [d.slot clause n] = d.placeholder clause n := by
  simp [Sql.text, Dialect.slot, Token.write]

/-- **The placeholders of values stand with commas between them.** -/
theorem placeholders_slots (s : Setting) : ∀ n k, s.dialect.Placeholders s.place.clause
    (Sql.joined ", " (s.slots k (n + 1))).text
  | 0, k => by
      have hone : Sql.joined ", " (s.slots k 1) = [s.dialect.slot s.place.clause k] := rfl
      rw [hone, text_slot]
      exact .one k
  | n + 1, k => by
      have hmore : Sql.joined ", " (s.slots k (n + 2)) = [s.dialect.slot s.place.clause k]
          ++ (Sql.lit ", " ++ Sql.joined ", " (s.slots (k + 1) (n + 1))) := rfl
      rw [hmore, Sql.text_append, Sql.text_append, text_slot, Sql.text_lit]
      exact .more k (placeholders_slots s n (k + 1))

/-- **The values of an operator with one value** are written as a predicate when there is one. -/
theorem isPredicate_symbol_iff (hs : s.dialect = p.dialect) {n : Nat} {symbol : String}
    (hsymbol : op.symbol? = some symbol) (htakes : op.takes n = true) :
    s.dialect.IsPredicate s.place.clause op column
        (s.dialect.operation op (Sql.lit column) (s.slots k n)).text
      ↔ op.needs n = true := by
  obtain ⟨before, after, hframe⟩ := exists_frame s.dialect column hsymbol
  have hneeds : op.needs n = decide (n = 1) := by
    cases op <;> cases hsymbol <;> rfl
  have hn : n ≤ 1 := by
    cases op <;> cases hsymbol <;> simpa [Operator.takes] using htakes
  rw [text_operation_frame hframe, hneeds, decide_eq_true_iff]
  obtain rfl | rfl : n = 0 ∨ n = 1 := by omega
  · -- Nothing stands between the two ends, where an operand would have to.
    refine ⟨fun h => ?_, fun h => absurd h (by decide)⟩
    obtain ⟨operand, hoperand, heq⟩ := h.of_frame hframe
    have hempty : "" = operand :=
      (String.append_right_inj _).1 ((String.append_left_inj _).1 heq)
    rw [hs, ← hempty] at hoperand
    exact absurd hoperand not_isOperand_empty
  · refine ⟨fun _ => rfl, fun _ => .comparison hframe (.inl ⟨k, ?_⟩)⟩
    exact text_slot _ _ k

/-- **The values of `between`** are written as a predicate when there are two. -/
theorem isPredicate_bounds_iff (hs : s.dialect = p.dialect) {n : Nat}
    (htakes : Operator.takes .between n = true) :
    s.dialect.IsPredicate s.place.clause .between column
        (s.dialect.operation .between (Sql.lit column) (s.slots k n)).text
      ↔ Operator.needs .between n = true := by
  have hn : n ≤ 2 := by simpa [Operator.takes] using htakes
  have hneeds : Operator.needs .between n = decide (n = 2) := rfl
  rw [text_operation_between, hneeds, decide_eq_true_iff]
  obtain rfl | rfl | rfl : n = 0 ∨ n = 1 ∨ n = 2 := by omega
  -- With fewer than two values nothing stands behind the AND.
  · refine ⟨fun h => ?_, fun h => absurd h (by decide)⟩
    rw [hs] at h
    exact absurd h (not_isPredicate_between_open _)
  · refine ⟨fun h => ?_, fun h => absurd h (by decide)⟩
    rw [hs] at h
    exact absurd h (not_isPredicate_between_open _)
  · refine ⟨fun _ => rfl, fun _ => .between rfl (.inl ⟨k, ?_⟩) (.inl ⟨k + 1, ?_⟩)⟩
    · exact text_slot _ _ k
    · exact text_slot _ _ (k + 1)

/-- **The values of a membership** are written as a predicate when there is any. -/
theorem isPredicate_members_iff (hs : s.dialect = p.dialect) {n : Nat} {word : String}
    (hword : op.listWord? = some word) :
    s.dialect.IsPredicate s.place.clause op column
        (s.dialect.operation op (Sql.lit column) (s.slots k n)).text
      ↔ op.needs n = true := by
  have hneeds : op.needs n = decide (1 ≤ n) := by
    cases op <;> cases hword <;> rfl
  rw [text_operation_list hword, hneeds, decide_eq_true_iff]
  cases n with
  | zero =>
      refine ⟨fun h => ?_, nofun⟩
      rw [hs] at h
      obtain ⟨members, hne, heq⟩ := h.of_listWord hword
      have hempty : "" = members :=
        (String.append_right_inj _).1 ((String.append_left_inj _).1
          ((String.append_right_inj _).1 heq))
      exact absurd hempty.symm hne
  | succ n =>
      exact ⟨fun _ => by omega, fun _ => .amongValues hword (s.placeholders_slots n k)⟩

/-- **Values are written as a predicate** exactly when they are as many as the operator
needs; of values that it does not write whole, the count tells. -/
theorem isPredicate_slots_iff (hs : s.dialect = p.dialect) {n : Nat} (hop : op.isNullTest = false)
    (htakes : op.takes n = true) :
    s.dialect.IsPredicate s.place.clause op column
        (s.dialect.operation op (Sql.lit column) (s.slots k n)).text
      ↔ op.needs n = true := by
  rcases op.forms with ⟨symbol, hsymbol⟩ | ⟨word, hword⟩ | rfl | ⟨word, hword⟩
  · exact isPredicate_symbol_iff hs hsymbol htakes
  · cases op <;> cases hword <;> cases hop
  · exact isPredicate_bounds_iff hs htakes
  · exact isPredicate_members_iff hs hword

/-- **A select is written as a predicate** exactly where a list of rows is meant: nowhere
else does it stand in parentheses. -/
theorem isPredicate_query_iff (hs : s.dialect = p.dialect) (hop : op.isNullTest = false)
    {q : Select} {fields : List Field} {st : Statement}
    (hst : q.render s.dialect k fields = .ok st) :
    s.dialect.IsPredicate s.place.clause op column
        (s.dialect.operation op (Sql.lit column) [st.sql]).text
      ↔ op.listWord?.isSome = true := by
  rcases op.forms with ⟨symbol, hsymbol⟩ | ⟨word, hword⟩ | rfl | ⟨word, hword⟩
  · obtain ⟨before, after, hframe⟩ := exists_frame s.dialect column hsymbol
    have hnone : op.listWord?.isSome = false := by
      cases op <;> cases hsymbol <;> rfl
    rw [text_operation_frame hframe, hnone]
    refine ⟨fun h => ?_, fun h => absurd h (by decide)⟩
    obtain ⟨operand, hoperand, heq⟩ := h.of_frame hframe
    have hselect : st.sql.text = operand :=
      (String.append_right_inj _).1 ((String.append_left_inj _).1 heq)
    -- An operand begins with a mark or a parenthesis, the statement with its keyword.
    rw [hs, ← hselect] at hoperand
    obtain ⟨c, hc, hne⟩ := hoperand.head
    have hhead : st.sql.text.toList.head? = some 'S' := Select.beginsSelect_render hst
    rw [hhead] at hc
    exact absurd (Option.some.inj hc).symm hne
  · cases op <;> cases hword <;> cases hop
  · rw [text_operation_between]
    refine ⟨fun h => ?_, fun h => absurd h (by decide)⟩
    rw [hs] at h
    exact absurd h (not_isPredicate_between_open _)
  · rw [text_operation_list hword, hword]
    refine ⟨fun _ => rfl, fun _ => .amongRows hword ⟨q, k, fields, st, hst, ?_⟩⟩
    simp [Sql.joined, Text.separated, Statement.text]

/-! ## §5. What is rendered for an operand. -/

/-- **A predicate is written**: the text is one, on the column of the field, and it has as
many placeholders as parameters. -/
structure Writes (s : Setting) (field : Attribute) (op : Operator) (sql : Sql)
    (parameters : List Value) : Prop where
  predicate : s.dialect.IsPredicate s.place.clause op (s.column field : Sql).text sql.text
  counted : sql.slots.length = parameters.length

/-- A null test is written as a predicate, whatever its operand. -/
theorem writes_nullTest (s : Setting) (field : Attribute) (hop : op.isNullTest = true) :
    s.Writes field op (s.dialect.operation op (s.column field) []) [] := by
  obtain ⟨word, hword⟩ : ∃ word, op.nullWord? = some word := by
    cases op <;> first | exact ⟨_, rfl⟩ | cases hop
  constructor
  · rw [column, Dialect.column, text_operation_nullTest hword, Sql.text_lit]
    exact .nullTest hword
  · have hnone : op.takes 0 = true := by
      cases op <;> rfl
    rw [column, Dialect.column, slots_operation _ _ _ _ hnone]
    rfl

/-- **An operand is written as part of a predicate** exactly when it suits the operator. -/
theorem writes_bind_iff (hs : s.dialect = p.dialect) {field : Attribute}
    (hop : op.isNullTest = false) {operand : Operand} {values : List Sql} {ps : List Value}
    (h : operand.bind s k field op = .ok (values, ps)) :
    s.Writes field op (s.dialect.operation op (s.column field) values) ps
      ↔ operand.suits op = true := by
  have hcount := (bind_counted hop h).eq_iff
  have hboth : s.Writes field op (s.dialect.operation op (s.column field) values) ps
      ↔ s.dialect.IsPredicate s.place.clause op (s.column field : Sql).text
          (s.dialect.operation op (s.column field) values).text ∧ operand.fits op = true :=
    ⟨fun w => ⟨w.predicate, hcount.1 w.counted⟩, fun ⟨ht, hf⟩ => ⟨ht, hcount.2 hf⟩⟩
  rw [hboth, column, Dialect.column, Sql.text_lit]
  unfold Operand.suits Operand.fits
  cases operand with
  | value v =>
      rcases bind_value_ok h with ⟨hv, rfl, rfl⟩ | ⟨hv, rfl, -⟩
      · -- NULL writes no value, and every operator with a value needs one.
        have hneeds : op.needs 0 = false := by
          cases op <;> first | rfl | cases hop
        have hnothing : ([] : List Sql) = s.slots k 0 := rfl
        rw [hnothing, isPredicate_slots_iff hs hop (Operator.takes_of_le_one hop (Nat.zero_le 1)),
          hneeds]
        simp [hv]
      · rw [isPredicate_slots_iff hs hop (Operator.takes_of_le_one hop (Nat.le_refl 1))]
        simp [hv]
  | list vs =>
      obtain ⟨rfl, -⟩ := bind_list_ok h
      cases htakes : op.takes vs.length with
      | true =>
          rw [isPredicate_slots_iff hs hop htakes]
          exact ⟨And.left, fun hneeds => ⟨hneeds, htakes⟩⟩
      | false =>
          -- A list that is not written whole is not of the length that is needed.
          refine ⟨fun h => absurd h.2 (by simp [htakes]), fun hneeds => ?_⟩
          rw [Operator.takes_of_needs hneeds] at htakes
          cases htakes
  | query q =>
      obtain ⟨st, hst, rfl, -⟩ := bind_query_ok h
      rw [isPredicate_query_iff hs hop hst, Bool.and_eq_true]

end Setting

/-! ## §6. Conditions that the builders accept. -/

namespace Condition

/-- **A condition that a builder accepts**: a comparison with a field, an operator named by
its code, two bounds, or keyword filters of a model or of a select. -/
inductive Built : Condition → Prop
  | compared (field : Attribute) (op : Operator) (operand : Operand) :
      Built (compare field op operand)
  | named {field : Attribute} {code : String} {operand : Operand} {c : Condition}
      (h : ofCode field code operand = .ok c) : Built c
  | bounded {field : Attribute} {low high : Operand} {c : Condition}
      (h : between field low high = .ok c) : Built c
  | keyword {m : Model} {filters : List (String × Operand)} {cs : List Condition} {c : Condition}
      (h : ofFilters m filters = .ok cs) (hc : c ∈ cs) : Built c
  | filtered {q : Select} {filters : List (String × Operand)} {cs : List Condition}
      {c : Condition} (h : q.filterConditions filters = .ok cs) (hc : c ∈ cs) : Built c

/-- **Every builder makes one comparison**, not negated. -/
theorem Built.isPlain {c : Condition} (h : c.Built) : c.IsPlain := by
  cases h with
  | compared field op operand => exact isPlain_compare field op operand
  | named h =>
      unfold ofCode at h
      obtain ⟨op, -, h⟩ := bind_ok.1 h
      split at h
      · cases h
      · rw [← pure_ok.1 h]
        exact isPlain_compare _ _ _
  | bounded h =>
      unfold between at h
      split at h
      · cases h
        exact isPlain_compare _ _ _
      · cases h
  | keyword h hc => exact (ofFilters_iff.1 h).isPlain _ hc
  | filtered h hc => exact (Select.filterConditions_iff.1 h).isPlain _ hc

end Condition

/-- **When a condition is written as a predicate.**  A condition that the builders accept
and that renders is one comparison; in the dialect of a product it is written as a
predicate with all its operands, and with as many placeholders as parameters, exactly
when it is a null test or its operand suits its operator. -/
theorem built_condition_predicate_iff {p : Product} {s : Setting} (hs : s.dialect = p.dialect)
    {c : Condition} (hc : c.Built) {k : Nat} {f : Formula Sql} {ps : List Value}
    (h : c.formula s k = .ok (f, ps)) :
    ∃ field op operand sql, c = .leaf field op operand false ∧ f = .atom sql false
      ∧ (s.Writes field op sql ps ↔ op.isNullTest = true ∨ operand.suits op = true) := by
  obtain ⟨field, op, operand, rfl⟩ := hc.isPlain
  obtain ⟨values, rfl, hcases⟩ := formula_leaf_ok h
  refine ⟨field, op, operand, _, rfl, rfl, ?_⟩
  rcases hcases with ⟨hop, rfl, rfl⟩ | ⟨hop, hbind⟩
  · exact ⟨fun _ => .inl hop, fun _ => s.writes_nullTest field hop⟩
  · rw [Setting.writes_bind_iff hs hop hbind, hop]
    simp

namespace Sample

/-- The where clause of a select without joins. -/
def whereSetting (p : Product) : Setting := ⟨p.dialect, [], ⟨.selectWhere, false⟩⟩

end Sample

open Sample in
/-- Books by the authors of a select: the select stands in parentheses. -/
theorem among_authors_predicate : ∃ f ps sql,
    (Condition.compare bookAuthor.toAttribute .isIn (.query authors)).formula
        (whereSetting .oracle) 0 = .ok (f, ps)
      ∧ f = .atom sql false
      ∧ sql.text = "author_id IN (SELECT id FROM author WHERE "
        ++ "(REGEXP_LIKE(name, :a0, 'i') AND NOT (id IN (:a1, :a2))))"
      ∧ (whereSetting .oracle).Writes bookAuthor.toAttribute .isIn sql ps := by
  have hrender : (((Condition.compare bookAuthor.toAttribute .isIn (.query authors)).formula
      (whereSetting .oracle) 0).toOption.map fun r => r.1.write.text)
      = some ("author_id IN (SELECT id FROM author WHERE "
        ++ "(REGEXP_LIKE(name, :a0, 'i') AND NOT (id IN (:a1, :a2))))") := by
    decide +kernel
  obtain ⟨⟨f, ps⟩, hf, htext⟩ := ok_of_toOption_map hrender
  obtain ⟨field, op, operand, sql, hleaf, rfl, hiff⟩ :=
    built_condition_predicate_iff (p := .oracle) rfl (.compared _ _ _) hf
  injection hleaf with hfield hop hoperand
  subst hfield hop hoperand
  refine ⟨_, ps, sql, hf, rfl, ?_, hiff.2 (.inr (by decide))⟩
  simpa [Formula.write, Formula.pieces, Piece.write] using htext

open Sample in
/-- **Not every condition that the builders accept is written as a predicate.**  A filter
with `between` and one bound is accepted, and nothing stands behind its AND. -/
theorem lone_bound_malformed : ∃ c sql ps,
    (Select.new author).filterConditions [("id__between", .list [int 1])] = .ok [c]
      ∧ c.formula (whereSetting .sqlite) 0 = .ok (.atom sql false, ps)
      ∧ sql.text = "id BETWEEN ? AND "
      ∧ ¬ (whereSetting .sqlite).Writes authorId.toAttribute .between sql ps := by
  have hbind : (Operand.list [int 1]).bind (whereSetting .sqlite) 0 authorId.toAttribute .between
      = .ok ((whereSetting .sqlite).slots 0 1, [int 1]) := rfl
  have hiff := Setting.writes_bind_iff (p := .sqlite) rfl rfl hbind
  refine ⟨_, _, _, rfl, rfl, by decide, ?_⟩
  intro hwrites
  exact absurd (hiff.1 hwrites) (by decide)

end RecordMapper
