/-
  RecordMapper.Text.Joined
  ────────────────────────────────
  **SEPARATED LISTS.**

  Statements are put together from lists of pieces: columns, placeholders,
  conditions.  A separator goes between two neighbours when the first of them
  is not blank.  Which pieces count as blank is a parameter, so the same rule
  serves plain text and statement text.
-/
namespace RecordMapper.Text

/-- **Separated pieces**: `sep` stands after every piece that is not blank and
is not the last one. -/
def separated {α : Type} (blank : α → Bool) (sep : α) : List α → List α
  | [] => []
  | [x] => [x]
  | x :: y :: rest =>
    if blank x then x :: separated blank sep (y :: rest)
    else x :: sep :: separated blank sep (y :: rest)

/-- The pieces with their separators, written behind `out`. -/
def appendSeparated (out : String) (pieces : List String) (sep : String) : String :=
  out ++ String.join (separated (· == "") sep pieces)

end RecordMapper.Text
