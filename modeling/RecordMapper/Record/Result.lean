/-
  RecordMapper.Record.Result
  ────────────────────────────────
  **RESULTS OF SELECTS.**

  A result reads its rows one at a time from a cursor and turns each into a
  record.  The cursor is closed when the rows are exhausted or a row cannot be
  fetched, and at the latest when the result is let go.  Within a scope the
  cursor stays open when the rows are exhausted and is closed at the scope's end.
  A result that keeps what it read can replay it afterwards.
-/
import RecordMapper.Backend.Servers
import RecordMapper.Record.Graph

namespace RecordMapper

/-- **A result.** -/
structure Result where
  model : Model
  /-- The database that the cursor reads from. -/
  source : Handle
  /-- The cursor, until it is closed. -/
  cursor : Option Cursor
  /-- Rows are read as records of the model alone. -/
  naive : Bool
  /-- The fields of the rows, in order. -/
  fields : List Field
  /-- Records are kept once they are read. -/
  keeping : Bool
  /-- The records that were kept. -/
  kept : List Record
  /-- The result is read within a scope. -/
  inScope : Bool

/-- What reading on yields: a record, or a failure to read one. -/
abbrev Reading := Except Failure Record

namespace Result

/-- A result that was not read yet. -/
def new (model : Model) (source : Handle) (cursor : Cursor) (naive : Bool) (fields : List Field) :
    Result where
  model := model
  source := source
  cursor := some cursor
  naive := naive
  fields := fields
  keeping := false
  kept := []
  inScope := false

/-- The cursor is open. -/
def isOpen (r : Result) : Bool :=
  r.cursor.isSome

/-- The word for a truth value. -/
def flag (b : Bool) : String :=
  if b then "true" else "false"

/-- The result as it is shown to a reader. -/
def label (r : Result) : String :=
  "QueryResult \x7b model: " ++ r.model.label ++ ", naive: " ++ flag r.naive ++ ", open: "
    ++ flag r.isOpen ++ ", cached: " ++ toString r.kept.length ++ " \x7d"

/-- Keep the records that are read from now on, or stop to. -/
def keep (r : Result) (keeping : Bool) : Result :=
  { r with keeping := keeping }

/-- The record of a row. -/
def materialize (r : Result) (labels : List String) (row : List Value) : Reading :=
  if r.naive then Record.load r.model (labels.zip row)
  else Record.assemble (Cells.ofRow r.fields row) r.model

/-- **Close the cursor**, if it is open.  A failure to close it is passed over. -/
def close (r : Result) : StateM Servers Result :=
  match r.cursor with
  | none => return r
  | some cursor => do
    let _ ← (Action.on r.source cursor.close).outcome
    return { r with cursor := none }

/-- Keep a record that was read, if records are kept. -/
def remember (r : Result) (reading : Reading) : Result :=
  match reading with
  | .ok record => if r.keeping then { r with kept := r.kept ++ [record] } else r
  | .error _ => r

/-- **Read on**: the next record or failure, or nothing when the rows are
exhausted or the cursor is closed. -/
def next (r : Result) : StateM Servers (Option Reading × Result) :=
  match r.cursor with
  | none => return (none, r)
  | some cursor => do
    match ← (Action.on r.source cursor.fetch).outcome with
    | .ok (some row, rest) =>
      let reading := r.materialize cursor.labels row
      return (some reading, { r with cursor := some rest }.remember reading)
    | .ok (none, rest) =>
      let r := { r with cursor := some rest }
      return (none, ← if r.inScope then pure r else r.close)
    | .error failure => return (some (.error failure), ← r.close)

/-- **The records that were kept**, once the cursor is closed. -/
def replay (r : Result) : Except Failure (List Record) :=
  if r.isOpen then .error .resultStillOpen
  else if r.kept.isEmpty then .error .resultNotCached
  else .ok r.kept

/-- Begin a scope. -/
def enter (r : Result) : Result :=
  { r with inScope := true }

/-- End a scope: the cursor is closed. -/
def leave (r : Result) : StateM Servers Result := do
  return { ← r.close with inScope := false }

/-- How many rows are still to come. -/
def remaining (r : Result) : Nat :=
  match r.cursor with
  | none => 0
  | some cursor => cursor.rows.length

/-- Read at most `fuel` times, up to the first failure; the result is let go. -/
def drain (r : Result) (read : List Record) : (fuel : Nat) → StateM Servers (Except Failure (List Record))
  | 0 => do
    let _ ← r.close
    return .ok read
  | fuel + 1 => do
    match ← r.next with
    | (none, r) =>
      let _ ← r.close
      return .ok read
    | (some (.error failure), r) =>
      let _ ← r.close
      return .error failure
    | (some (.ok record), r) => r.drain (read ++ [record]) fuel

/-- **Every record that is still to come**, or the first failure.  One reading
more than there are rows finds them exhausted. -/
def collect (r : Result) : Action (List Record) :=
  ExceptT.mk (r.drain [] (r.remaining + 1))

/-- The models that a result keeps. -/
def held (r : Result) : List Model :=
  r.model :: r.kept.flatMap Record.held

end Result

/-! ## Running selects. -/

namespace Select

/-- **Run a select.** -/
def execute (q : Select) : Action Result := do
  let handle ← Action.databaseOf q.model
  let statement ← Action.ofExcept (q.statement (← Action.dialect handle))
  let cursor ← Action.on handle (Database.executeRead statement.text statement.parameters)
  return .new q.model handle cursor q.isNaive q.outputFields

/-- The number that a counting row holds. -/
def countOf (row : Option (List Value)) : Except Failure Nat := do
  let v := (row.bind List.head?).getD (.int64 (some 0))
  let n ← if v.isNull then pure 0 else (·.toInt) <$> v.toInteger .int64
  if n < 0 then .error (.invalidCount n) else return n.toNat

/-- **How many rows a select has.**  Of two failures, to fetch the number and to
close the cursor, the second is told. -/
def count (q : Select) : Action Nat := do
  let handle ← Action.databaseOf q.model
  let statement ← Action.ofExcept (q.countStatement (← Action.dialect handle))
  let row ← Action.on handle do
    let cursor ← Database.executeRead statement.text statement.parameters
    let fetched ← ExceptT.mk (Except.ok <$> cursor.fetch.outcome)
    cursor.close
    ExceptT.mk (pure (fetched.map (·.1)))
  Action.ofExcept (countOf row)

/-- The select has a row. -/
def exists? (q : Select) : Action Bool := do
  return 0 < (← q.count)

/-- **The first record**, or a failure that there is none. -/
def one (q : Select) : Action Record := do
  let result ← q.execute
  ExceptT.mk do
    let (reading, result) ← result.next
    let _ ← result.close
    return reading.getD (.error .noData)

/-- The first record of a select limited to one row. -/
def first (q : Select) : Action Record :=
  (q.setLimit 1).one

end Select

/-- **Run a raw statement**; its rows are read as records of its model. -/
def Raw.execute (q : Raw) : Action Result := do
  let handle ← Action.databaseOf q.model
  let cursor ← Action.on handle (Database.executeWrite q.text q.parameters)
  return .new q.model handle cursor true []

end RecordMapper
