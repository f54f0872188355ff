/-
  RecordMapper.Sql.Dialect
  ────────────────────────────────
  **DIALECTS: THE WORDS OF EACH DATABASE.**

  A dialect is a record of the decisions in which databases differ: how a
  placeholder and a column are written, how letter case is disregarded, how a
  result is paged and counted, whether an insert asks for the generated key.
  Everything else of a statement is the same for all of them.  Values are never
  written into a statement; each stands behind a placeholder.
-/
import RecordMapper.Condition.Operator
import RecordMapper.Sql.JoinType
import RecordMapper.Sql.Window

namespace RecordMapper

/-! ## §1. Where in a statement something is written. -/

/-- The clause that is being written. -/
inductive Clause where
  | none
  | deleteWhere
  | insertInto
  | join
  | select
  | selectFrom
  | selectGroupBy
  | selectOrderBy
  | selectWhere
  | updateSet
  | updateWhere
  deriving DecidableEq, Repr

/-- **The place** at which something is written: the clause, and whether columns
carry the alias of their table. -/
structure Place where
  clause : Clause
  qualified : Bool
  deriving DecidableEq, Repr

/-- How the children of a condition are connected. -/
inductive Connector where
  | and
  | or
  | comma
  deriving DecidableEq, Repr

/-- The direction of an ordering. -/
inductive Direction where
  | ascending
  | descending
  deriving DecidableEq, Repr

/-! ## §2. The decisions of a dialect. -/

/-- How letter case is disregarded. -/
inductive CaseStyle where
  /-- Both sides are lower-cased. -/
  | lowered
  /-- The column is matched with a regular expression. -/
  | matched
  deriving DecidableEq, Repr

/-- **A dialect.** -/
structure Dialect where
  /-- The placeholder in a clause, behind `counter` others. -/
  placeholder : Clause → (counter : Nat) → String
  /-- A column at a place, behind the alias of its table, which may be empty. -/
  columnRef : Place → (qualifier column : String) → String
  caseStyle : CaseStyle
  paging : Paging
  /-- What stands before and after a select whose rows are counted. -/
  counting : String × String
  /-- An insert asks for the generated key. -/
  returnsKey : Bool
  /-- The statement that begins a transaction. -/
  begin : String

namespace Dialect

/-- The column behind the alias of its table and a point, where columns are
qualified and there is an alias. -/
def plainColumnRef (place : Place) (qualifier column : String) : String :=
  if place.qualified && qualifier != "" then qualifier ++ "." ++ column else column

/-- **The standard dialect.** -/
def generic : Dialect where
  placeholder _ _ := "?"
  columnRef := plainColumnRef
  caseStyle := .lowered
  paging := .keywords
  counting := ("SELECT COUNT(*) FROM (", ") AS t0")
  returnsKey := false
  begin := "BEGIN TRANSACTION"

/-- The dialect of MySQL: `%s` placeholders and a comma between offset and
limit. -/
def mysql : Dialect :=
  { generic with
    placeholder := fun _ _ => "%s"
    paging := .commas
    counting := ("SELECT COUNT(*) FROM (", ") as t0")
    begin := "START TRANSACTION" }

/-- The dialect of Oracle: numbered placeholders, numbered rows and regular
expressions. -/
def oracle : Dialect :=
  { generic with
    placeholder := fun _ counter => ":a" ++ toString counter
    caseStyle := .matched
    paging := .rowNumbers
    counting := ("SELECT COUNT(1) FROM (", ")")
    returnsKey := true
    begin := "SET TRANSACTION READ WRITE" }

/-- The dialect of SQLite, in which an offset needs a limit before it. -/
def sqlite : Dialect :=
  { generic with
    paging := .offsetBehindLimit
    begin := "BEGIN" }

/-! ## §3. Words. -/

variable {ι : Type}

/-- The placeholder of the next parameter, behind `counter` others. -/
def slot (d : Dialect) (clause : Clause) (counter : Nat) : Token Nat :=
  .slot counter (d.placeholder clause counter)

/-- A column at a place, as a piece of a statement. -/
def column (d : Dialect) (place : Place) (qualifier column : String) : Sql ι :=
  Sql.lit (d.columnRef place qualifier column)

/-- What stands between two connected conditions. -/
def connector : Connector → String
  | .and => " AND "
  | .or => " OR "
  | .comma => ", "

/-- The keyword of a kind of join. -/
def joinKeyword : JoinType → String
  | .inner => "INNER"
  | .left => "LEFT OUTER"
  | .right => "RIGHT OUTER"
  | .outer => "FULL OUTER"

/-- The keyword of a direction. -/
def direction : Direction → String
  | .ascending => "ASC"
  | .descending => "DESC"

/-- The statement that makes a transaction permanent. -/
def commit : String := "COMMIT"

/-- The statement that undoes a transaction. -/
def rollback : String := "ROLLBACK"

/-- A table may be given an alias at this place. -/
def declaresAlias (place : Place) : Bool :=
  place.clause == .selectFrom || place.clause == .join

/-- A table, with its alias where one is declared. -/
def tableRef (place : Place) (table qualifier : String) : String :=
  if qualifier != "" && declaresAlias place then table ++ " " ++ qualifier else table

/-- A column under a name of its own. -/
def columnAs (column : Sql ι) (name : String) : Sql ι :=
  column ++ Sql.lit (" AS " ++ name)

/-! ## §4. Conditions. -/

/-- The column and the value on either side of a comparison. -/
def infixed (column : Sql ι) (symbol : String) (value : Sql ι) : Sql ι :=
  column ++ Sql.lit symbol ++ value

/-- A piece inside `LOWER(…)`. -/
def lowered (sql : Sql ι) : Sql ι :=
  Sql.lit "LOWER(" ++ sql ++ Sql.lit ")"

/-- **One condition**: the operator between a column and the values, each a
placeholder or a statement.  A missing value writes nothing. -/
def operation (d : Dialect) (op : Operator) (column : Sql ι) (values : List (Sql ι)) : Sql ι :=
  let value := values.headD []
  if op.ignoresCase && d.caseStyle == .matched then
    Sql.lit "REGEXP_LIKE(" ++ column ++ Sql.lit ", " ++ value ++ Sql.lit ", 'i')"
  else
    match op with
    | .eq => infixed column " = " value
    | .ne => infixed column " != " value
    | .lt => infixed column " < " value
    | .lte => infixed column " <= " value
    | .gt => infixed column " > " value
    | .gte => infixed column " >= " value
    | .isNull | .is => column ++ Sql.lit " IS NULL"
    | .isNotNull => column ++ Sql.lit " IS NOT NULL"
    | .isIn => column ++ Sql.lit " IN " ++ (Sql.joined ", " values).enclosed
    | .notIn => column ++ Sql.lit " NOT IN " ++ (Sql.joined ", " values).enclosed
    | .between => infixed column " BETWEEN " value ++ Sql.lit " AND " ++ values.getD 1 []
    | .contains | .startsWith => infixed column " LIKE " value
    | .ieq => infixed (lowered column) " = " (lowered value)
    | .icontains | .istartsWith => infixed (lowered column) " LIKE " (lowered value)

/-- A negated piece. -/
def negated (sql : Sql ι) : Sql ι :=
  Sql.lit "NOT " ++ sql

/-- A negated piece in parentheses. -/
def negatedEnclosed (sql : Sql ι) : Sql ι :=
  negated sql.enclosed

/-! ## §5. The values of conditions. -/

/-- A text as a regular expression in which an asterisk stands for any text and a
point for itself. -/
def globPattern (text : String) : String :=
  String.ofList (text.toList.flatMap fun c =>
    if c = '.' then ['\\', '.'] else if c = '*' then ['.', '*'] else [c])

/-- The text that a condition binds for a text operand: a pattern for the
operators that search. -/
def searchPattern (d : Dialect) (op : Operator) (text : String) : String :=
  if op.ignoresCase && d.caseStyle == .matched then
    match op with
    | .ieq => "^" ++ globPattern text ++ "$"
    | .istartsWith => "^" ++ globPattern text
    | _ => globPattern text
  else
    match op with
    | .contains | .icontains => "%" ++ text ++ "%"
    | .startsWith | .istartsWith => text ++ "%"
    | _ => text

/-- **The values that a condition binds**: the first of them becomes a search
pattern when it is a text. -/
def castValues (d : Dialect) (op : Operator) : List Value → List Value
  | .varchar (some text) :: rest => .varchar (some (d.searchPattern op text)) :: rest
  | values => values

/-! ## §6. Statements. -/

/-- A joined table and the condition under which its rows match. -/
def joinClause (place : Place) (type : JoinType) (table qualifier : String) (on : Sql ι) : Sql ι :=
  Sql.lit (joinKeyword type ++ " JOIN " ++ tableRef { place with clause := .join } table qualifier
    ++ " ON ") ++ on

/-- An insert of values into columns. -/
def insert (table : String) (columns values : Sql ι) : Sql ι :=
  Sql.lit ("INSERT INTO " ++ table ++ " (") ++ columns ++ Sql.lit ") VALUES (" ++ values
    ++ Sql.lit ")"

/-- An insert that asks for the generated key, if the dialect can. -/
def insertWithKey (d : Dialect) (table : String) (columns values : Sql ι) (key : String) : Sql ι :=
  insert table columns values
    ++ (if d.returnsKey then Sql.lit (" RETURNING " ++ key ++ " INTO :insert_id") else [])

/-- An update of the rows that meet a condition; a blank one holds of all rows. -/
def update (table : String) (assignments condition : Sql ι) : Sql ι :=
  Sql.lit ("UPDATE " ++ table ++ " SET ") ++ assignments ++ Sql.clause "WHERE " condition

/-- A deletion of the rows that meet a condition; a blank one holds of all
rows. -/
def delete (table : String) (condition : Sql ι) : Sql ι :=
  Sql.lit ("DELETE FROM " ++ table) ++ Sql.clause "WHERE " condition

/-- The clauses of a select; a blank one is left out. -/
structure SelectParts (ι : Type := Nat) where
  distinct : Bool
  columns : Sql ι
  table : Sql ι
  join : Sql ι
  condition : Sql ι
  groupBy : Sql ι
  having : Sql ι
  orderBy : Sql ι

/-- **A select.** -/
def select (p : SelectParts ι) : Sql ι :=
  Sql.lit (if p.distinct then "SELECT DISTINCT " else "SELECT ") ++ p.columns
    ++ Sql.lit " FROM " ++ p.table ++ Sql.clause "" p.join ++ Sql.clause "WHERE " p.condition
    ++ Sql.clause "GROUP BY " p.groupBy ++ Sql.clause "HAVING " p.having
    ++ Sql.clause "ORDER BY " p.orderBy

/-- The select that counts the rows of another. -/
def count (d : Dialect) (query : Sql ι) : Sql ι :=
  Sql.lit d.counting.1 ++ query ++ Sql.lit d.counting.2

end Dialect

end RecordMapper
