/-
  RecordMapper.Calendar.Layout
  ────────────────────────────────
  **WRITING AND READING DATES AND TIMES.**

  A layout is a list of items: the parts of a moment, each written with a fixed
  number of digits, and the characters between them.  One layout serves both
  directions.  Reading consumes the whole text, and several layouts are tried in
  order.
-/
import RecordMapper.Calendar.Date
import RecordMapper.Number.Decimal

namespace RecordMapper.Calendar

open RecordMapper.Number

/-! ## §1. Layouts. -/

/-- One item of a layout. -/
inductive Item where
  /-- Four digits, behind a minus sign for a year before the year zero. -/
  | year
  | month
  | day
  | hour
  | minute
  | second
  /-- The fraction of a second: six digits when written, at least one when
  read. -/
  | fraction
  | character (c : Char)
  deriving DecidableEq

/-- `2024-02-29` -/
def dateLayout : List Item :=
  [.year, .character '-', .month, .character '-', .day]

/-- `13:45` -/
def minuteLayout : List Item :=
  [.hour, .character ':', .minute]

/-- `13:45:10` -/
def secondLayout : List Item :=
  minuteLayout ++ [.character ':', .second]

/-- `13:45:10.123456` -/
def fractionLayout : List Item :=
  secondLayout ++ [.character '.', .fraction]

/-- The layouts a time of day is read in. -/
def timeLayouts : List (List Item) :=
  [fractionLayout, secondLayout, minuteLayout]

/-- The date, a character and the time of day. -/
def momentLayout (between : Char) (time : List Item) : List Item :=
  dateLayout ++ .character between :: time

/-- The layouts a moment is read in. -/
def momentLayouts : List (List Item) :=
  [momentLayout ' ' fractionLayout, momentLayout ' ' secondLayout,
   momentLayout 'T' fractionLayout, momentLayout 'T' secondLayout,
   momentLayout ' ' minuteLayout]

/-! ## §2. The parts that are written and read. -/

/-- The numbers of a moment, with no claim that it exists. -/
structure Parts where
  year : Int
  month : Nat
  day : Nat
  hour : Nat
  minute : Nat
  second : Nat
  nanosecond : Nat

/-- No part is known yet. -/
def Parts.zero : Parts := ⟨0, 0, 0, 0, 0, 0, 0⟩

/-- The parts of a date. -/
def Date.parts (date : Date) : Parts :=
  ⟨date.year, date.month, date.day, 0, 0, 0, 0⟩

/-- The parts of a time of day. -/
def TimeOfDay.parts (time : TimeOfDay) : Parts :=
  ⟨0, 0, 0, time.hour, time.minute, time.second, time.nanosecond⟩

/-- The parts of a moment. -/
def Moment.parts (moment : Moment) : Parts :=
  ⟨moment.date.year, moment.date.month, moment.date.day,
   moment.time.hour, moment.time.minute, moment.time.second, moment.time.nanosecond⟩

/-- The date that the parts name. -/
def Parts.date? (p : Parts) : Option Date :=
  Date.of? p.year p.month p.day

/-- The time of day that the parts name. -/
def Parts.time? (p : Parts) : Option TimeOfDay :=
  TimeOfDay.of? p.hour p.minute p.second p.nanosecond

/-- The moment that the parts name. -/
def Parts.moment? (p : Parts) : Option Moment := do
  let date ← p.date?
  let time ← p.time?
  return ⟨date, time⟩

/-! ## §3. Writing. -/

/-- Write one item. -/
def Item.write (p : Parts) : Item → List Char
  | .year => (if p.year < 0 then ['-'] else []) ++ fixedDigits 4 p.year.natAbs
  | .month => fixedDigits 2 p.month
  | .day => fixedDigits 2 p.day
  | .hour => fixedDigits 2 p.hour
  | .minute => fixedDigits 2 p.minute
  | .second => fixedDigits 2 p.second
  | .fraction => fixedDigits 6 (p.nanosecond / 1000)
  | .character c => [c]

/-- **Writing** the parts in a layout. -/
def write (layout : List Item) (p : Parts) : List Char :=
  layout.flatMap (·.write p)

/-! ## §4. Reading. -/

/-- Exactly `count` digits in front of a text. -/
def readDigits? : (count : Nat) → List Char → Option (List Nat × List Char)
  | 0, cs => some ([], cs)
  | _ + 1, [] => none
  | count + 1, c :: rest => do
    let d ← digit? c
    let (ds, tail) ← readDigits? count rest
    return (d :: ds, tail)

/-- The number that exactly `count` digits in front of a text denote. -/
def readNumber? (count : Nat) (cs : List Char) : Option (Nat × List Char) :=
  (readDigits? count cs).map fun (ds, tail) => (ofDigits 0 ds, tail)

/-- The nanoseconds that the digits behind a decimal point denote.  Digits after
the ninth are passed over. -/
def nanoseconds (digits : List Nat) : Nat :=
  ofDigits 0 (digits.take 9) * tenTo (9 - digits.length)

/-- Read one item into the parts. -/
def Item.read? (p : Parts) : Item → List Char → Option (Parts × List Char)
  | .year, cs => do
    let (negative, rest) := splitSign cs
    let (n, tail) ← readNumber? 4 rest
    return ({ p with year := if negative then -(n : Int) else n }, tail)
  | .month, cs => do
    let (n, tail) ← readNumber? 2 cs
    return ({ p with month := n }, tail)
  | .day, cs => do
    let (n, tail) ← readNumber? 2 cs
    return ({ p with day := n }, tail)
  | .hour, cs => do
    let (n, tail) ← readNumber? 2 cs
    return ({ p with hour := n }, tail)
  | .minute, cs => do
    let (n, tail) ← readNumber? 2 cs
    return ({ p with minute := n }, tail)
  | .second, cs => do
    let (n, tail) ← readNumber? 2 cs
    return ({ p with second := n }, tail)
  | .fraction, cs =>
    match spanDigits cs with
    | ([], _) => none
    | (digits, tail) => some ({ p with nanosecond := nanoseconds digits }, tail)
  | .character _, [] => none
  | .character c, x :: rest => if x = c then some (p, rest) else none

/-- Read the items of a layout; the text has to end with them. -/
def readParts? (layout : List Item) (p : Parts) (cs : List Char) : Option Parts :=
  match layout with
  | [] => if cs.isEmpty then some p else none
  | item :: rest => do
    let (p, tail) ← item.read? p cs
    readParts? rest p tail

/-- Read a date. -/
def Date.read? (cs : List Char) : Option Date :=
  (readParts? dateLayout Parts.zero cs).bind Parts.date?

/-- Read a time of day in the first layout that fits. -/
def TimeOfDay.read? (cs : List Char) : Option TimeOfDay :=
  timeLayouts.findSome? fun layout => (readParts? layout Parts.zero cs).bind Parts.time?

/-- **Reading a moment**: in the first layout that fits, else as a date that
begins. -/
def Moment.read? (cs : List Char) : Option Moment :=
  (momentLayouts.findSome? fun layout => (readParts? layout Parts.zero cs).bind Parts.moment?)
    <|> (Date.read? cs).map Date.atMidnight

/-! ## §5. The text of a value. -/

/-- The text of a date. -/
def Date.text (date : Date) : String :=
  String.ofList (write dateLayout date.parts)

/-- The text of a time of day, down to the microsecond. -/
def TimeOfDay.text (time : TimeOfDay) : String :=
  String.ofList (write fractionLayout time.parts)

/-- The text of a moment, down to the microsecond. -/
def Moment.text (moment : Moment) : String :=
  String.ofList (write (momentLayout ' ' fractionLayout) moment.parts)

end RecordMapper.Calendar
