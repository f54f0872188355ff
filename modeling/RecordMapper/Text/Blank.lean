/-
  RecordMapper.Text.Blank
  ────────────────────────────────
  **WHITE SPACE, TRIMMING AND WORDS.**

  Text that reaches a conversion is trimmed, and keywords are compared word by
  word.  Both use the Unicode property *White_Space*: twenty-five characters,
  the zero-width space not among them.
-/
namespace RecordMapper.Text

/-! ## §1. The property. -/

/-- The closed ranges of code points with the property White_Space, ascending
and apart. -/
def blankRanges : List (Nat × Nat) :=
  [(0x09, 0x0D), (0x20, 0x20), (0x85, 0x85), (0xA0, 0xA0), (0x1680, 0x1680),
   (0x2000, 0x200A), (0x2028, 0x2029), (0x202F, 0x202F), (0x205F, 0x205F),
   (0x3000, 0x3000)]

/-- Does the code point lie in one of the ranges? -/
def inRanges (ranges : List (Nat × Nat)) (point : Nat) : Bool :=
  ranges.any (fun r => r.1 ≤ point && point ≤ r.2)

/-- **White space**: the character has the property White_Space. -/
def isBlank (c : Char) : Bool :=
  inRanges blankRanges c.toNat

/-! ## §2. Trimming. -/

/-- Drop the white space in front. -/
def trimStart (cs : List Char) : List Char :=
  cs.dropWhile isBlank

/-- Drop the white space at the end. -/
def trimEnd (cs : List Char) : List Char :=
  (cs.reverse.dropWhile isBlank).reverse

/-- **Trimming** at both ends. -/
def trim (cs : List Char) : List Char :=
  trimEnd (trimStart cs)

/-! ## §3. Words. -/

/-- The maximal runs of characters that are not white space, in order. -/
def words (cs : List Char) : List (List Char) :=
  go [] cs
where
  /-- `pending` is the word read so far, last character first. -/
  go (pending : List Char) : List Char → List (List Char)
    | [] => flush pending []
    | c :: rest =>
      if isBlank c then flush pending (go [] rest) else go (c :: pending) rest
  /-- Put the pending word, if any, in front. -/
  flush (pending : List Char) (rest : List (List Char)) : List (List Char) :=
    if pending.isEmpty then rest else pending.reverse :: rest

/-- Every run of white space becomes one space, and none is left at the ends. -/
def collapse (text : String) : String :=
  " ".intercalate ((words text.toList).map String.ofList)

end RecordMapper.Text
