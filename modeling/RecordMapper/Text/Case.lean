/-
  RecordMapper.Text.Case
  ────────────────────────────────
  **LOWER-CASING NAMES.**

  Tables and columns are named in lower case, whatever the case of the model
  or field they belong to.  Lower-casing is the full mapping of the Unicode
  standard: a dotted capital I becomes two characters, and a capital sigma at
  the end of a word becomes the final sigma.
-/
import RecordMapper.Text.Blank
import RecordMapper.Text.CaseData

namespace RecordMapper.Text

/-! ## §1. One character. -/

/-- Does the run move this code point? -/
def CaseRun.covers (run : CaseRun) (point : Nat) : Bool :=
  run.first ≤ point && point ≤ run.last && (point - run.first) % run.stride == 0

/-- Lower-case one character, wherever it stands. -/
def lowerChar (c : Char) : Char :=
  match lowerRuns.find? (·.covers c.toNat) with
  | some run => Char.ofNat (c.toNat + run.shift).toNat
  | none => c

/-- The character has two forms of case, or is one of them. -/
def isCased (c : Char) : Bool :=
  inRanges casedRanges c.toNat

/-- The character is passed over when the case of its surroundings is asked. -/
def isCaseIgnorable (c : Char) : Bool :=
  inRanges caseIgnorableRanges c.toNat

/-! ## §2. Whole texts. -/

/-- The first character that is not passed over is a cased one. -/
def meetsCased (cs : List Char) : Bool :=
  match cs.dropWhile isCaseIgnorable with
  | [] => false
  | c :: _ => isCased c

/-- A capital sigma ends its word: a cased character comes before it and none
after it. -/
def isFinalSigma (before after : List Char) : Bool :=
  meetsCased before && !meetsCased after

/-- Lower-case the characters `cs`; `before` holds those already passed, the
nearest first. -/
def lowerChars (before : List Char) : List Char → List Char
  | [] => []
  | c :: rest =>
    (if c = 'Σ' then [if isFinalSigma before rest then 'ς' else 'σ']
      else if c = 'İ' then ['i', Char.ofNat 0x307]
      else [lowerChar c])
      ++ lowerChars (c :: before) rest

/-- **Lower case** of a text. -/
def lower (text : String) : String :=
  String.ofList (lowerChars [] text.toList)

end RecordMapper.Text
