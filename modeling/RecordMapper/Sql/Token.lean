/-
  RecordMapper.Sql.Token
  ────────────────────────────────
  **STATEMENT TEXT AS TOKENS.**

  A statement is a list of tokens: literal text, and the placeholders that the
  bound parameters fill.  Its text is what the tokens write one after another;
  its placeholders can be counted and numbered without reading that text.  In a
  finished statement a placeholder stands for the parameter of a number; a draft
  may let it stand for something else.
-/
import RecordMapper.Text.Joined

namespace RecordMapper

/-! ## §1. Tokens. -/

/-- **A token** of a statement. -/
inductive Token (ι : Type) where
  | text (s : String)
  /-- A placeholder and what it stands for, as the dialect writes it. -/
  | slot (holder : ι) (mark : String)
  deriving DecidableEq, Repr

variable {ι : Type}

/-- What the token writes. -/
def Token.write : Token ι → String
  | .text s => s
  | .slot _ mark => mark

/-- The token writes nothing; a placeholder always writes something. -/
def Token.isBlank : Token ι → Bool
  | .text s => s == ""
  | .slot _ _ => false

/-- What the token stands for, when it is a placeholder. -/
def Token.slot? : Token ι → Option ι
  | .text _ => none
  | .slot holder _ => some holder

/-- **A statement, or a part of one**, whose placeholders stand for the numbers of
parameters unless stated otherwise. -/
abbrev Sql (ι : Type := Nat) := List (Token ι)

namespace Sql

/-- Literal text. -/
def lit (s : String) : Sql ι := [.text s]

/-- **The text of a statement.** -/
def text (sql : Sql ι) : String :=
  String.join (sql.map Token.write)

/-- What the placeholders stand for, left to right. -/
def slots (sql : Sql ι) : List ι :=
  sql.filterMap Token.slot?

/-- Nothing is written. -/
def isBlank (sql : Sql ι) : Bool :=
  sql.all Token.isBlank

/-! ## §2. Lists of pieces. -/

/-- **The pieces with a separator** after each one that writes something and is
not the last. -/
def joined (sep : String) (pieces : List (Sql ι)) : Sql ι :=
  (Text.separated isBlank (lit sep) pieces).flatten

/-- A piece in parentheses. -/
def enclosed (sql : Sql ι) : Sql ι :=
  lit "(" ++ sql ++ lit ")"

/-- The piece behind a keyword and a space, or nothing when the piece is blank. -/
def clause (keyword : String) (sql : Sql ι) : Sql ι :=
  if sql.isBlank then [] else lit (" " ++ keyword) ++ sql

/-! ## §3. Laws of the placeholders. -/

@[simp] theorem slots_nil : slots ([] : Sql ι) = [] := rfl

@[simp] theorem slots_lit (s : String) : slots (lit s : Sql ι) = [] := rfl

@[simp] theorem slots_append (a b : Sql ι) : slots (a ++ b) = slots a ++ slots b := by
  simp [slots]

end Sql

end RecordMapper
