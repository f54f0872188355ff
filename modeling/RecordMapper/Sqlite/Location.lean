/-
  RecordMapper.Sqlite.Location
  ────────────────────────────────
  **WHERE A SQLITE DATABASE LIES.**

  A connection is named by a URL with the scheme `sqlite`.  What follows is a
  path, or nothing or `:memory:` for a database that is not kept, and after a
  question mark a query in which `mode` says how the file is opened.
-/
import RecordMapper.Failure

namespace RecordMapper.Sqlite

/-! ## §1. Queries of URLs. -/

/-- The value of a hexadecimal digit. -/
def hexDigit? (c : Char) : Option Nat :=
  if '0' ≤ c && c ≤ '9' then some (c.toNat - 48)
  else if 'a' ≤ c && c ≤ 'f' then some (c.toNat - 87)
  else if 'A' ≤ c && c ≤ 'F' then some (c.toNat - 55)
  else none

/-- The bytes that a part of a query denotes: a plus is a space, a percent sign
with two hexadecimal digits is the byte they name, and every other character is
its own bytes. -/
def unescape : List Char → List UInt8
  | [] => []
  | '+' :: rest => 0x20 :: unescape rest
  | '%' :: a :: b :: rest =>
    match hexDigit? a, hexDigit? b with
    | some high, some low => UInt8.ofNat (16 * high + low) :: unescape rest
    | _, _ => 0x25 :: unescape (a :: b :: rest)
  | c :: rest => (String.singleton c).toUTF8.toList ++ unescape rest

/-- The character with this code point, or the replacement character. -/
def charOr (point : Nat) : Char :=
  if point.isValidChar then Char.ofNat point else Char.ofNat 0xFFFD

/-- The range of the second byte of a sequence, by its first byte; the other
continuation bytes lie between 0x80 and 0xBF. -/
def secondByteRange (lead : Nat) : Nat × Nat :=
  if lead = 0xE0 then (0xA0, 0xBF)
  else if lead = 0xED then (0x80, 0x9F)
  else if lead = 0xF0 then (0x90, 0xBF)
  else if lead = 0xF4 then (0x80, 0x8F)
  else (0x80, 0xBF)

/-- How many continuation bytes follow a first byte, and the bits of the code
point that it carries. -/
def leadByte? (b : Nat) : Option (Nat × Nat) :=
  if b < 0x80 then some (0, b)
  else if 0xC2 ≤ b && b ≤ 0xDF then some (1, b - 0xC0)
  else if 0xE0 ≤ b && b ≤ 0xEF then some (2, b - 0xE0)
  else if 0xF0 ≤ b && b ≤ 0xF4 then some (3, b - 0xF0)
  else none

/-- **Reading bytes as UTF-8**, in which each maximal part of a sequence that
cannot be completed becomes one replacement character.  `pending` holds how many
continuation bytes are due, the range of the next one, and the bits so far. -/
def decodeUtf8 (pending : Option (Nat × (Nat × Nat) × Nat)) : List UInt8 → List Char
  | [] => if pending.isSome then [Char.ofNat 0xFFFD] else []
  | byte :: rest =>
    let b := byte.toNat
    let start (before : List Char) : List Char :=
      match leadByte? b with
      | none => before ++ Char.ofNat 0xFFFD :: decodeUtf8 none rest
      | some (0, bits) => before ++ charOr bits :: decodeUtf8 none rest
      | some (count, bits) => before ++ decodeUtf8 (some (count, secondByteRange b, bits)) rest
    match pending with
    | none => start []
    | some (count, (low, high), bits) =>
      if low ≤ b && b ≤ high then
        let bits := 64 * bits + (b - 0x80)
        if count ≤ 1 then charOr bits :: decodeUtf8 none rest
        else decodeUtf8 (some (count - 1, (0x80, 0xBF), bits)) rest
      else start [Char.ofNat 0xFFFD]

/-- A part of a query as text. -/
def queryText (cs : List Char) : String :=
  String.ofList (decodeUtf8 none (unescape cs))

/-- What stands before and after the first occurrence of a character; nothing
stands after it when it does not occur. -/
def splitFirst (mark : Char) (cs : List Char) : List Char × List Char :=
  (cs.takeWhile (· != mark), (cs.dropWhile (· != mark)).drop 1)

/-- The parts of a text between occurrences of a character. -/
def splitAll (mark : Char) : List Char → List (List Char)
  | [] => [[]]
  | c :: rest =>
    match splitAll mark rest with
    | [] => [[c]]
    | part :: parts => if c = mark then [] :: part :: parts else (c :: part) :: parts

/-- **The pairs of a query**: its parts between ampersands that are not empty,
each split at its first equals sign. -/
def queryPairs (cs : List Char) : List (String × String) :=
  ((splitAll '&' cs).filter (!·.isEmpty)).map fun part =>
    let (key, value) := splitFirst '=' part
    (queryText key, queryText value)

/-! ## §2. Locations. -/

/-- How the file of a database is opened. -/
inductive OpenMode where
  | readOnly
  | readWrite
  | readWriteCreate
  | memory
  deriving DecidableEq, Repr

/-- The mode with this name. -/
def OpenMode.parse (name : String) : Except Failure OpenMode :=
  match name with
  | "ro" => .ok .readOnly
  | "rw" => .ok .readWrite
  | "rwc" => .ok .readWriteCreate
  | "memory" => .ok .memory
  | _ => .error (.unknownOpenMode name)

/-- **Where a database lies.** -/
inductive Location where
  | memory
  | file (path : String) (mode : OpenMode)
  deriving DecidableEq, Repr

/-- What stands behind `start` in a text that begins with it. -/
def rest? : (start text : List Char) → Option (List Char)
  | [], text => some text
  | _ :: _, [] => none
  | a :: start, b :: text => if a = b then rest? start text else none

/-- The mode that the pairs of a query ask for: the last one named `mode`, and
every one so named has to be known. -/
def openMode (pairs : List (String × String)) : Except Failure OpenMode :=
  pairs.foldlM (fun mode (key, value) => if key = "mode" then OpenMode.parse value else .ok mode)
    .readWriteCreate

/-- **Reading a URL.** -/
def Location.parse (url : String) : Except Failure Location :=
  match rest? "sqlite://".toList url.toList with
  | none => .error .notSqliteUrl
  | some rest => do
    let (path, query) := splitFirst '?' rest
    let mode ← openMode (queryPairs query)
    if path.isEmpty || String.ofList path == ":memory:" then return .memory
    else return .file (String.ofList path) mode

end RecordMapper.Sqlite
