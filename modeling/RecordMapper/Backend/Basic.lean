/-
  RecordMapper.Backend.Basic
  ────────────────────────────────
  **A SCRIPTED BACKEND THAT RECORDS ITS CALLS.**

  A backend connects, runs transactions and opens cursors, and a cursor runs
  statements and hands out rows.  Here it answers from a script: the results of
  the next statements, and the failures of the next calls of each method.  Every
  call that is made goes on the record, with whether it failed.
-/
import RecordMapper.Query.Change

namespace RecordMapper

/-! ## §1. Calls and their record. -/

/-- What a cursor is opened for. -/
inductive Intent where
  | read
  | write
  deriving DecidableEq, Repr

/-- The methods whose calls the script may let fail. -/
inductive Method where
  | connect
  | close
  | begin
  | commit
  | rollback
  | cursor
  | fetch
  | closeCursor
  deriving DecidableEq, Repr

/-- **A call** of a backend or of one of its cursors, which are numbered. -/
inductive Call where
  /-- `fresh` tells that there was no connection yet. -/
  | connect (fresh : Bool)
  | close
  | begin
  | commit
  | rollback
  | cursor (serial : Nat) (intent : Intent)
  | execute (serial : Nat) (statement : String) (parameters : List Value)
  | fetch (serial : Nat)
  | closeCursor (serial : Nat)
  deriving DecidableEq

/-- **A call on the record**, with the message of its failure if it failed. -/
structure Attempt where
  call : Call
  failure : Option String
  deriving DecidableEq

/-- What a reader of the record is told about a call that succeeded. -/
def Attempt.event? (a : Attempt) : Option String :=
  match a.call, a.failure with
  | .connect true, none => some "connect"
  | .close, none => some "close"
  | .begin, none => some "begin"
  | .commit, none => some "commit"
  | .rollback, none => some "rollback"
  | .cursor _ .read, none => some "cursor read"
  | .cursor _ .write, none => some "cursor write"
  | .closeCursor _, none => some "cursor closed"
  | _, _ => none

/-- The statement that a call ran, with its parameters, whether or not it
failed. -/
def Attempt.executed? (a : Attempt) : Option (String × List Value) :=
  match a.call with
  | .execute _ statement parameters => some (statement, parameters)
  | _ => none

/-! ## §2. The backend. -/

/-- The labels and rows that a statement yields. -/
structure Rows where
  labels : List String
  rows : List (List Value)
  deriving DecidableEq

/-- **A scripted backend.** -/
structure Backend where
  dialect : Dialect
  connected : Bool
  /-- What the next statements yield: rows, or the message of a failure. -/
  results : List (Except String Rows)
  /-- For each method what its next calls meet: a failure, or none. -/
  faults : Method → List (Option String)
  /-- The generated key that statements report. -/
  lastId : Option Value
  /-- How many rows statements report to have changed. -/
  affected : Nat
  /-- The number of the next cursor. -/
  nextSerial : Nat
  /-- Every call so far. -/
  trace : List Attempt
  /-- How much of the record was cleared away. -/
  cleared : Nat
  /-- How much of the record was told to a reader. -/
  told : Nat

namespace Backend

/-- A backend that was not used yet. -/
def new (dialect : Dialect) : Backend where
  dialect := dialect
  connected := false
  results := []
  faults _ := []
  lastId := none
  affected := 0
  nextSerial := 0
  trace := []
  cleared := 0
  told := 0

/-- The name of this sort of backend. -/
def name : String := "recording"

/-- The database as it is shown to a reader. -/
def label : String :=
  "Database \x7b name: \"" ++ name ++ "\" \x7d"

/-! ## §3. Writing the script. -/

/-- Queue what a statement yields. -/
def pushResult (b : Backend) (result : Except String Rows) : Backend :=
  { b with results := b.results ++ [result] }

/-- Queue a failure of a method. -/
def pushFault (b : Backend) (method : Method) (message : String) : Backend :=
  { b with faults := fun m => if m = method then b.faults m ++ [some message] else b.faults m }

/-! ## §4. Reading the record. -/

/-- The calls that were not told yet. -/
def untold (b : Backend) : List Attempt :=
  b.trace.drop b.told

/-- The events that were not told yet. -/
def events (b : Backend) : List String :=
  b.untold.filterMap Attempt.event?

/-- The statements that were run and not told yet, with their parameters. -/
def executed (b : Backend) : List (String × List Value) :=
  b.untold.filterMap Attempt.executed?

/-- Tell everything there is to tell. -/
def tell (b : Backend) : Backend :=
  { b with told := b.trace.length }

/-- The statements that were run since the record was last cleared. -/
def statements (b : Backend) : List String :=
  (b.trace.drop b.cleared).filterMap fun a => a.executed?.map (·.1)

/-- Clear the record away, and the results that are queued. -/
def clear (b : Backend) : Backend :=
  { b with results := [], cleared := b.trace.length, told := b.trace.length }

end Backend

/-! ## §5. Steps. -/

/-- **A step on a backend**: it may fail, and what it did to the backend stays
done. -/
abbrev Step := ExceptT Failure (StateM Backend)

namespace Step

/-- What comes out of a step, its failure as a value. -/
def outcome {α : Type} (step : Step α) : StateM Backend (Except Failure α) :=
  step.run

end Step

/-- **A cursor**: the rows of the statement it ran that are still to come, and
what the statement reported. -/
structure Cursor where
  serial : Nat
  labels : List String
  rows : List (List Value)
  lastId : Option Value
  affected : Nat
  deriving DecidableEq

namespace Backend

/-- Put a call on the record. -/
def record (call : Call) (failure : Option String) : Step Unit :=
  modify fun b => { b with trace := b.trace ++ [⟨call, failure⟩] }

/-- **Make a call of a method**: it meets what the script holds next for it. -/
def attempt (method : Method) (call : Call) : Step Unit := do
  let queue := (← get).faults method
  modify fun b => { b with
    faults := fun m => if m = method then (b.faults m).drop 1 else b.faults m }
  let failure := queue.head?.join
  record call failure
  match failure with
  | some message => throw (.backend message)
  | none => return ()

/-- Connect unless there is a connection; tells whether there was none. -/
def connect : Step Bool := do
  let fresh := !(← get).connected
  attempt .connect (.connect fresh)
  modify fun b => { b with connected := true }
  return fresh

/-- Close the connection. -/
def close : Step Unit := do
  attempt .close .close
  modify fun b => { b with connected := false }

/-- Begin a transaction. -/
def begin : Step Unit := attempt .begin .begin

/-- Make a transaction permanent. -/
def commit : Step Unit := attempt .commit .commit

/-- Undo a transaction. -/
def rollback : Step Unit := attempt .rollback .rollback

/-- Open a cursor. -/
def openCursor (intent : Intent) : Step Cursor := do
  let serial := (← get).nextSerial
  attempt .cursor (.cursor serial intent)
  modify fun b => { b with nextSerial := serial + 1 }
  return ⟨serial, [], [], none, 0⟩

end Backend

namespace Cursor

/-- **Run a statement**; the cursor then holds the rows that the script has next,
or none when it has none. -/
def execute (cursor : Cursor) (statement : String) (parameters : List Value) : Step Cursor := do
  let b ← get
  let result := b.results.head?.getD (.ok ⟨[], []⟩)
  set { b with results := b.results.drop 1 }
  let call := Call.execute cursor.serial statement parameters
  match result with
  | .ok rows =>
    Backend.record call none
    return { cursor with
      labels := rows.labels
      rows := rows.rows
      lastId := b.lastId
      affected := b.affected }
  | .error message =>
    Backend.record call (some message)
    throw (.backend message)

/-- Run a statement once for each row of parameters. -/
def executeMany (cursor : Cursor) (statement : String) (rows : List (List Value)) : Step Cursor :=
  rows.foldlM (fun cursor parameters => cursor.execute statement parameters) cursor

/-- **The next row**, if there is one, and the cursor behind it. -/
def fetch (cursor : Cursor) : Step (Option (List Value) × Cursor) := do
  Backend.attempt .fetch (.fetch cursor.serial)
  return (cursor.rows.head?, { cursor with rows := cursor.rows.drop 1 })

/-- Close the cursor. -/
def close (cursor : Cursor) : Step Unit :=
  Backend.attempt .closeCursor (.closeCursor cursor.serial)

/-- The position of a column; the letter case of ASCII letters does not
matter. -/
def columnIndex? (cursor : Cursor) (name : String) : Option Nat :=
  let fold (s : String) := s.toList.map Char.toLower
  cursor.labels.findIdx? fun label => fold label == fold name

end Cursor

end RecordMapper
