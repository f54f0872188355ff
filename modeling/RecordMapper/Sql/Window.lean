/-
  RecordMapper.Sql.Window
  ────────────────────────────────
  **WHICH ROWS OF A RESULT ARE ASKED FOR.**

  A select may ask for a limited number of rows, skip some, or both.  Databases
  differ in how this is said: by keywords behind the statement, or by a statement
  around it that numbers the rows.  A window is one such saying, and a paging
  style is a database's choice of windows.
-/
import RecordMapper.Sql.Token

namespace RecordMapper

/-- **A window** on the rows of a statement, in the words of a database. -/
inductive Window where
  /-- `LIMIT n` -/
  | limit (n : Nat)
  /-- `OFFSET m` -/
  | offset (m : Nat)
  /-- `LIMIT n OFFSET m`, where no `n` stands for all rows. -/
  | limitOffset (n : Option Nat) (m : Nat)
  /-- `LIMIT m, n` -/
  | offsetComma (m n : Nat)
  /-- Rows whose number is at most `n`. -/
  | numberedUpTo (n : Nat)
  /-- Rows whose number is at least `m`, by a condition on the numbering itself. -/
  | numberedFrom (m : Nat)
  /-- Rows whose number is at most `n`, and of those the ones numbered `m` or
  more. -/
  | numberedBetween (n m : Nat)
  deriving DecidableEq, Repr

variable {ι : Type}

/-- **The statement through a window.** -/
def Window.write (query : Sql ι) : Window → Sql ι
  | .limit n => query ++ Sql.lit (" LIMIT " ++ toString n)
  | .offset m => query ++ Sql.lit (" OFFSET " ++ toString m)
  | .limitOffset (some n) m => query ++ Sql.lit (" LIMIT " ++ toString n ++ " OFFSET " ++ toString m)
  | .limitOffset none m => query ++ Sql.lit (" LIMIT -1 OFFSET " ++ toString m)
  | .offsetComma m n => query ++ Sql.lit (" LIMIT " ++ toString m ++ ", " ++ toString n)
  | .numberedUpTo n =>
    Sql.lit "SELECT A.*, ROWNUM FROM (" ++ query
      ++ Sql.lit (") A WHERE ROWNUM <= " ++ toString n)
  | .numberedFrom m =>
    Sql.lit "SELECT A.*, ROWNUM FROM (" ++ query
      ++ Sql.lit (") A WHERE ROWNUM >= " ++ toString m)
  | .numberedBetween n m =>
    Sql.lit "SELECT * FROM (SELECT A.*, ROWNUM r_num FROM (" ++ query
      ++ Sql.lit (") A WHERE ROWNUM <= " ++ toString n ++ ") WHERE r_num >= " ++ toString m)

/-- **A paging style**: the windows for a limit alone, an offset alone, and
both. -/
structure Paging where
  limited : (limit : Nat) → Window
  skipped : (offset : Nat) → Window
  page : (limit offset : Nat) → Window

namespace Paging

/-- `LIMIT n`, `OFFSET m`, `LIMIT n OFFSET m`. -/
def keywords : Paging where
  limited := .limit
  skipped := .offset
  page n m := .limitOffset (some n) m

/-- An offset stands behind a limit: `LIMIT -1 OFFSET m`. -/
def offsetBehindLimit : Paging :=
  { keywords with skipped := .limitOffset none }

/-- The greatest limit there is stands for all rows: `LIMIT m, 18446744073709551615`. -/
def commas : Paging where
  limited := .limit
  skipped m := .offsetComma m 18446744073709551615
  page n m := .offsetComma m n

/-- Statements that number the rows. -/
def rowNumbers : Paging where
  limited := .numberedUpTo
  skipped := .numberedFrom
  page := .numberedBetween

/-- **The statement with its limit and offset**, each of which may be absent. -/
def apply (paging : Paging) (query : Sql ι) : (limit offset : Option Nat) → Sql ι
  | none, none => query
  | some n, none => (paging.limited n).write query
  | none, some m => (paging.skipped m).write query
  | some n, some m => (paging.page n m).write query

end Paging

end RecordMapper
