/-
  RecordMapper.Proofs.Statement.Worded
  ────────────────────────────────
  **STATEMENTS IN WORDS.**

  A statement is rendered as pieces, which know their placeholders.  A database is
  given the text alone.  Here the text is spelled out, clause by clause and keyword
  by keyword, apart from the renderer; what a dialect decides enters by the columns,
  the placeholders and the windows that it writes.

  The condition enters as words behind its keyword, or not at all where there is none.

  Main results:
    • `Select.text_assemble`, `Update.text_update`, `Delete.text_delete` — what is rendered
      is in these words;
    • `Select.words_inj`, `Update.words_inj`, `Delete.words_inj` — a text has only one
      condition in it.
-/
import RecordMapper.Proofs.Statement.Paged
import RecordMapper.Proofs.Statement.Scoped
import RecordMapper.Proofs.Statement.Updated
import RecordMapper.Proofs.Text.Separated

namespace RecordMapper

/-! ## §1. Lists and clauses. -/

namespace Text

/-- **A list in words**: the items that are not empty with the separator between each
two, and once more at the end where the last item is empty and another is not. -/
def listed (sep : String) (items : List String) : String :=
  sep.intercalate (items.filter (· != ""))
    ++ if leavesSeparator (· == "") items then sep else ""

/-- **Words behind a keyword**, or nothing where there are none. -/
def behind (keyword words : String) : String :=
  if words = "" then "" else keyword ++ words

/-- The words are known from what is written. -/
theorem behind_inj {keyword a b : String} : behind keyword a = behind keyword b ↔ a = b := by
  refine ⟨fun h => ?_, congrArg (behind keyword)⟩
  unfold behind at h
  split at h <;> split at h
  · rename_i ha hb
    rw [ha, hb]
  · rename_i ha hb
    exact absurd (String.append_eq_empty_iff.1 h.symm).2 hb
  · rename_i ha hb
    exact absurd (String.append_eq_empty_iff.1 h).2 ha
  · exact (String.append_right_inj keyword).1 h

end Text

namespace Sql

theorem text_flatten (pieces : List Sql) : text pieces.flatten = String.join (pieces.map text) := by
  induction pieces with
  | nil => rfl
  | cons a pieces ih => rw [List.flatten_cons, text_append, ih, List.map_cons, String.join_cons]

/-- **What is blank can be seen** from the text: the piece is blank exactly when its text is
empty.  A placeholder is never blank, whatever its mark. -/
def Apparent (a : Sql) : Prop :=
  a.isBlank = (a.text == "")

/-- Text without placeholders is blank when it is empty. -/
theorem apparent_of_slots : ∀ {a : Sql}, a.slots = [] → a.Apparent
  | [], _ => rfl
  | .text s :: rest, h => by
      have hrest : isBlank rest = (text rest == "") := apparent_of_slots h
      have htext : text (.text s :: rest) = s ++ text rest := String.join_cons
      have hblank : isBlank (.text s :: rest) = ((s == "") && isBlank rest) := List.all_cons
      unfold Apparent
      rw [hblank, hrest, htext, Bool.eq_iff_iff]
      simp [String.append_eq_empty_iff]
  | .slot _ _ :: _, h => by cases h

/-- Separators go between the texts of pieces as they go between the pieces. -/
theorem map_text_separated (sep : String) : ∀ {pieces : List Sql}, (∀ a ∈ pieces, Apparent a) →
    (Text.separated isBlank (lit sep) pieces).map text
      = Text.separated (· == "") sep (pieces.map text)
  | [], _ => rfl
  | [_], _ => rfl
  | a :: b :: rest, h => by
      have ih : (Text.separated isBlank (lit sep) (b :: rest)).map text
          = Text.separated (· == "") sep ((b :: rest).map text) :=
        map_text_separated sep fun c hc => h c (List.mem_cons_of_mem _ hc)
      have ha : a.isBlank = (a.text == "") := h a List.mem_cons_self
      simp only [Text.separated, List.map_cons, ha]
      split
      · rw [List.map_cons, ih, List.map_cons]
      · rw [List.map_cons, List.map_cons, ih, text_lit, List.map_cons]

/-- **Joined pieces are a list in words.** -/
theorem text_joined_listed {sep : String} (hsep : sep ≠ "") {pieces : List Sql}
    (h : ∀ a ∈ pieces, Apparent a) : (joined sep pieces).text = Text.listed sep (pieces.map text) := by
  have hwritten := Text.appendSeparated_eq hsep "" (pieces.map text)
  rw [String.empty_append] at hwritten
  unfold joined Text.listed
  rw [text_flatten, map_text_separated sep h, ← hwritten]
  exact String.empty_append.symm

/-- **A clause is its words behind the keyword.** -/
theorem text_clause (keyword : String) {a : Sql} (h : a.Apparent) :
    (clause keyword a).text = Text.behind (" " ++ keyword) a.text := by
  have hblank : a.isBlank = (a.text == "") := h
  unfold clause Text.behind
  rw [hblank]
  by_cases ha : a.text = ""
  · rw [if_pos (beq_iff_eq.2 ha), if_pos ha]
    rfl
  · rw [if_neg (mt beq_iff_eq.1 ha), if_neg ha, text_append, text_lit]

section

variable {α : Type} {sep : String} {g : α → Sql} {words : α → String}

/-- Pieces without placeholders, each known as words, are a list of these. -/
theorem text_joined_map (hsep : sep ≠ "") (hslots : ∀ x, (g x).slots = [])
    (hwords : ∀ x, (g x).text = words x) (items : List α) :
    (joined sep (items.map g)).text = Text.listed sep (items.map words) := by
  have happarent : ∀ a ∈ items.map g, Apparent a := by
    intro a ha
    obtain ⟨x, -, rfl⟩ := List.mem_map.1 ha
    exact apparent_of_slots (hslots x)
  rw [text_joined_listed hsep happarent, List.map_map]
  exact congrArg _ (List.map_congr_left fun x _ => hwords x)

/-- A clause of such pieces is that list behind the keyword. -/
theorem text_clause_map (keyword : String) (hsep : sep ≠ "") (hslots : ∀ x, (g x).slots = [])
    (hwords : ∀ x, (g x).text = words x) (items : List α) :
    (clause keyword (joined sep (items.map g))).text
      = Text.behind (" " ++ keyword) (Text.listed sep (items.map words)) := by
  have hnone := Select.slots_joined_map Nat sep g items fun x _ => hslots x
  rw [text_clause keyword (apparent_of_slots hnone), text_joined_map hsep hslots hwords]

end

end Sql

/-! ## §2. Selects. -/

/-- **Words through a window**, or as they are where there is none. -/
def Window.words (query : String) : Option Window → String
  | none => query
  | some w => w.opening ++ query ++ w.closing ++ toString w.last

theorem Window.text_through (query : Sql) (w : Option Window) :
    (through query w).text = words query.text w := by
  cases w with
  | none => rfl
  | some w => exact w.text_write query

/-- The keywords in front of a joined table. -/
def JoinType.words : JoinType → String
  | .inner => "INNER JOIN "
  | .left => "LEFT OUTER JOIN "
  | .right => "RIGHT OUTER JOIN "
  | .outer => "FULL OUTER JOIN "

/-- The keyword behind a sort key. -/
def Direction.words : Direction → String
  | .ascending => " ASC"
  | .descending => " DESC"

namespace Select

section

variable (d : Dialect) (q : Select)

/-- **A column in a clause**, behind the alias of its table. -/
def columnWords (clause : Clause) (field : Attribute) : String :=
  d.columnRef ⟨clause, !q.aliases.isEmpty⟩ (q.aliasOf field.model) field.column

/-- A selected column, under the display name of its field. -/
def selectedWords (f : Field) : String :=
  q.columnWords d .select f.toAttribute ++ match f.displayName with
    | some name => " AS " ++ name
    | none => ""

/-- **A joined table and its condition.** -/
def joinWords (m : Model) (join : Join) : String :=
  join.type.words ++ q.declaration m ++ " ON "
    ++ (q.columnWords d .select join.lhs ++ " = " ++ q.columnWords d .select join.rhs)

/-- A sort key. -/
def sortWords (key : SortKey) : String :=
  q.columnWords d .selectOrderBy key.field ++ key.direction.words

/-- The words of a select in front of its condition. -/
def wordsBefore (fields : List Field) : String :=
  (if q.distinct then "SELECT DISTINCT " else "SELECT ")
    ++ Text.listed ", " (fields.map (q.selectedWords d))
    ++ " FROM " ++ q.declaration q.model
    ++ Text.behind " " (Text.listed " " (q.joins.map fun (m, join) => q.joinWords d m join))

/-- The words of a select behind its condition.  Distinct rows are not sorted. -/
def wordsBehind : String :=
  Text.behind " GROUP BY " (Text.listed ", " (q.groupBy.map (q.columnWords d .selectGroupBy)))
    ++ if q.distinct then "" else
      Text.behind " ORDER BY " (Text.listed ", " (q.orderBy.map (q.sortWords d)))

/-- **A select in words**, its condition given. -/
def words (fields : List Field) (condition : String) : String :=
  Window.words
    (q.wordsBefore d fields ++ Text.behind " WHERE " condition ++ q.wordsBehind d)
    (d.paging.window? (positive q.limit) (positive q.offset))

end

variable {d : Dialect} {q : Select}

theorem text_column (clause : Clause) (field : Attribute) :
    (((q.setting d).inClause clause).column field : Sql).text = q.columnWords d clause field :=
  Sql.text_lit _

theorem text_columnSql (f : Field) :
    (columnSql (q.setting d) f : Sql).text = q.selectedWords d f := by
  have hcolumn := text_column (d := d) (q := q) .select f.toAttribute
  unfold columnSql selectedWords
  cases f.displayName with
  | none => exact hcolumn.trans String.append_empty.symm
  | some name =>
      unfold Dialect.columnAs
      rw [Sql.text_append, Sql.text_lit]
      exact congrArg (· ++ _) hcolumn

theorem text_joinSql (m : Model) (join : Join) :
    (joinSql (q.setting d) m join : Sql).text = q.joinWords d m join := by
  have htable : Dialect.tableRef ⟨.join, !q.aliases.isEmpty⟩ m.table (q.aliasOf m.name)
      = q.declaration m := tableRef_eq rfl m
  have hkeyword : Dialect.joinKeyword join.type ++ " JOIN " = join.type.words := by
    cases join.type <;> decide
  have hon : (d.operation .eq ((q.setting d).column join.lhs)
        [(q.setting d).column join.rhs] : Sql).text
      = q.columnWords d .select join.lhs ++ " = " ++ q.columnWords d .select join.rhs := by
    show Sql.text (Dialect.infixed _ _ _) = _
    unfold Dialect.infixed
    rw [Sql.text_append, Sql.text_append, Sql.text_lit]
    rfl
  unfold joinSql Dialect.joinClause joinWords
  rw [Sql.text_append, Sql.text_lit, hkeyword, ← htable]
  exact congrArg _ hon

theorem text_sortSql (key : SortKey) :
    (sortSql ((q.setting d).inClause .selectOrderBy) key : Sql).text = q.sortWords d key := by
  have hdirection : " " ++ Dialect.direction key.direction = key.direction.words := by
    cases key.direction <;> decide
  unfold sortSql sortWords
  rw [Sql.text_append, text_column, Sql.text_lit, hdirection]

/-! Clauses that write nothing are left out together with their keyword. -/

theorem text_columns (fields : List Field) :
    (Sql.joined ", " (fields.map (columnSql (q.setting d))) : Sql).text
      = Text.listed ", " (fields.map (q.selectedWords d)) :=
  Sql.text_joined_map (by decide) (slots_columnSql _) text_columnSql fields

theorem text_joins :
    (Sql.clause "" (Sql.joined " " (q.joins.map fun (m, join) => joinSql (q.setting d) m join))
        : Sql).text
      = Text.behind " " (Text.listed " " (q.joins.map fun (m, join) => q.joinWords d m join)) := by
  have hlisted := Sql.text_clause_map "" (show " " ≠ "" by decide)
    (fun j : Model × Join => slots_joinSql (q.setting d) j.1 j.2) (fun j => text_joinSql j.1 j.2)
    q.joins
  rw [String.append_empty] at hlisted
  exact hlisted

theorem text_groups :
    (Sql.clause "GROUP BY "
        (Sql.joined ", " (q.groupBy.map ((q.setting d).inClause .selectGroupBy).column)) : Sql).text
      = Text.behind " GROUP BY "
        (Text.listed ", " (q.groupBy.map (q.columnWords d .selectGroupBy))) :=
  Sql.text_clause_map "GROUP BY " (by decide) (fun _ => rfl) (text_column .selectGroupBy) q.groupBy

theorem text_sorts :
    (Sql.clause "ORDER BY " (if q.distinct then [] else
        Sql.joined ", " (q.orderBy.map (sortSql ((q.setting d).inClause .selectOrderBy)))) : Sql).text
      = if q.distinct then "" else
        Text.behind " ORDER BY " (Text.listed ", " (q.orderBy.map (q.sortWords d))) := by
  cases q.distinct with
  | true => rfl
  | false =>
      exact Sql.text_clause_map "ORDER BY " (by decide) (fun _ => rfl) text_sortSql q.orderBy

/-- **The clauses of a select in words.** -/
theorem text_parts (fields : List Field) {condition : Sql} (h : condition.Apparent) :
    (Dialect.select (q.parts (q.setting d) fields condition)).text
      = q.wordsBefore d fields ++ Text.behind " WHERE " condition.text ++ q.wordsBehind d := by
  have htable : (q.tableSql (q.setting d) : Sql).text = q.declaration q.model :=
    (Sql.text_lit _).trans (tableRef_eq rfl q.model)
  have hwhere : (Sql.clause "WHERE " condition).text = Text.behind " WHERE " condition.text :=
    Sql.text_clause "WHERE " h
  have hhaving : (Sql.clause "HAVING " [] : Sql).text = "" := rfl
  unfold Dialect.select parts wordsBefore wordsBehind
  simp only [Sql.text_append, Sql.text_lit, text_columns, text_joins, text_groups, text_sorts, htable,
    hwhere, hhaving, String.append_assoc, String.empty_append]

/-- **A select is rendered in words.** -/
theorem text_assemble (fields : List Field) {condition : Sql} (h : condition.Apparent) :
    (q.assemble (q.setting d) fields condition).text = q.words d fields condition.text := by
  unfold assemble words
  rw [Paging.apply_eq_through, Window.text_through, text_parts fields h]
  rfl

/-- **A select has one condition in it.** -/
theorem words_inj {fields : List Field} {a b : String} :
    q.words d fields a = q.words d fields b ↔ a = b := by
  refine ⟨fun h => ?_, congrArg (q.words d fields)⟩
  have hbehind : Text.behind " WHERE " a = Text.behind " WHERE " b := by
    unfold words Window.words at h
    split at h <;> simpa only [String.append_left_inj, String.append_right_inj] using h
  exact Text.behind_inj.1 hbehind

end Select

/-! ## §3. Updates and deletions. -/

/-- **An update in words**, its condition given: each value that is assigned has a
placeholder of its own. -/
def Update.words (d : Dialect) (q : Update) (condition : String) : String :=
  "UPDATE " ++ q.model.table ++ " SET "
    ++ ", ".intercalate (q.assigned.zipIdx.map fun (cell, i) =>
      d.columnRef ⟨.updateSet, false⟩ "" cell.1.column ++ " = " ++ d.placeholder .updateSet i)
    ++ Text.behind " WHERE " condition

/-- **A deletion in words**, its condition given. -/
def Delete.words (q : Delete) (condition : String) : String :=
  "DELETE FROM " ++ q.model.table ++ Text.behind " WHERE " condition

/-- **An update is rendered in words.** -/
theorem Update.text_update (d : Dialect) (q : Update) {condition : Sql} (h : condition.Apparent) :
    (Dialect.update q.model.table (assignmentsSql d (q.assigned.map (·.1))) condition).text
      = q.words d condition.text := by
  unfold Dialect.update words
  rw [Sql.text_append, Sql.text_append, Sql.text_lit, text_assignmentsSql, List.zipIdx_map,
    List.map_map, Sql.text_clause "WHERE " h]
  rfl

/-- **A deletion is rendered in words.** -/
theorem Delete.text_delete (q : Delete) {condition : Sql} (h : condition.Apparent) :
    (Dialect.delete q.model.table condition).text = q.words condition.text := by
  unfold Dialect.delete words
  rw [Sql.text_append, Sql.text_lit, Sql.text_clause "WHERE " h]
  rfl

/-- **An update has one condition in it.** -/
theorem Update.words_inj {d : Dialect} {q : Update} {a b : String} :
    q.words d a = q.words d b ↔ a = b :=
  (String.append_right_inj _).trans Text.behind_inj

/-- **A deletion has one condition in it.** -/
theorem Delete.words_inj {q : Delete} {a b : String} : q.words a = q.words b ↔ a = b :=
  (String.append_right_inj _).trans Text.behind_inj

end RecordMapper
