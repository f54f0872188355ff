/-
  RecordMapper.Sql.JoinType
  ────────────────────────────────
  **KINDS OF JOINS AND THEIR KEYWORDS.**

  A join keeps the rows that match, or also the rows of one side or of both.
  Callers may name the kind by the keywords of the statement language, in any
  letter case and with any white space between the words.
-/
import RecordMapper.Failure

namespace RecordMapper

/-- **The kind of a join.** -/
inductive JoinType where
  | inner
  | left
  | right
  | outer
  deriving DecidableEq, Repr

namespace JoinType

/-- The keywords that name each kind. -/
def keywords : List (JoinType × List String) :=
  [(.inner, ["INNER", "INNER JOIN", "JOIN"]),
   (.left, ["LEFT", "LEFT OUTER", "LEFT JOIN", "LEFT OUTER JOIN"]),
   (.right, ["RIGHT", "RIGHT OUTER", "RIGHT JOIN", "RIGHT OUTER JOIN"]),
   (.outer, ["FULL", "OUTER", "FULL OUTER", "FULL OUTER JOIN", "OUTER JOIN"])]

/-- The capital letter of a keyword that a character stands for.  Besides the
small letters, the dotless i and the long s have a capital among them; no other
character does, save ligatures that occur in no keyword. -/
def keywordLetter (c : Char) : Char :=
  if c = 'ı' then 'I' else if c = 'ſ' then 'S' else c.toUpper

/-- **The kind that a text names**: its words are compared in capital letters. -/
def parse (text : String) : Except Failure JoinType :=
  let normal := String.ofList ((Text.collapse text).toList.map keywordLetter)
  match keywords.find? (·.2.contains normal) with
  | some (kind, _) => .ok kind
  | none => .error (.unknownJoinType text)

end JoinType

end RecordMapper
