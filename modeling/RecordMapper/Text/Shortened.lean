/-
  RecordMapper.Text.Shortened
  ────────────────────────────────
  **LONG TEXT IN MESSAGES.**

  A message quotes at most 497 characters of a text.  The quoted part never
  ends in white space, and three dots tell that something was left out.
-/
import RecordMapper.Text.Blank

namespace RecordMapper.Text

/-- How many characters of a text a message quotes. -/
def quotedLength : Nat := 497

/-- **The quoted form of a text**: its first 497 characters without the white
space at their end, and `...` when the text is longer. -/
def shortened (text : String) : String :=
  let cs := text.toList
  String.ofList (trimEnd (cs.take quotedLength))
    ++ (if quotedLength < cs.length then "..." else "")

end RecordMapper.Text
