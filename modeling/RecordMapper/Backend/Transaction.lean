/-
  RecordMapper.Backend.Transaction
  ────────────────────────────────
  **RUNNING STATEMENTS ON A DATABASE.**

  A read connects and runs its statement.  A write runs inside a transaction
  that is committed when the work succeeds and undone when it fails.  A
  statement that fails has its cursor closed, and the failure tells the
  statement and its parameters.
-/
import RecordMapper.Backend.Basic

namespace RecordMapper.Database

/-- Connect, and open a cursor. -/
def openCursor (intent : Intent) : Step Cursor := do
  let _ ← Backend.connect
  Backend.openCursor intent

/-- Run a statement on a cursor by `execute`.  When that fails the cursor is
closed, and the failure is told with the statement. -/
def runOn (cursor : Cursor) (statement : String) (parameters : List Value)
    (execute : Cursor → Step Cursor) : Step Cursor :=
  ExceptT.mk do
    match ← (execute cursor).outcome with
    | .ok cursor => return .ok cursor
    | .error native =>
      let _ ← cursor.close.outcome
      return .error (.statementFailed native statement parameters)

/-- **A transaction** around a step: committed when the step succeeds, undone
when it fails. -/
def inTransaction {α : Type} (step : Step α) : Step α := do
  let _ ← Backend.connect
  Backend.begin
  ExceptT.mk do
    match ← step.outcome with
    | .ok a => (do Backend.commit; return a : Step α).outcome
    | .error failure =>
      let _ ← Backend.rollback.outcome
      return .error failure

/-- **Run a statement that reads**; the cursor holds its rows. -/
def executeRead (statement : String) (parameters : List Value) : Step Cursor := do
  let cursor ← openCursor .read
  runOn cursor statement parameters (·.execute statement parameters)

/-- **Run a statement that writes**, in a transaction. -/
def executeWrite (statement : String) (parameters : List Value) : Step Cursor :=
  inTransaction do
    let cursor ← openCursor .write
    runOn cursor statement parameters (·.execute statement parameters)

/-- **Run a statement that writes once for each row**, in one transaction. -/
def executeWriteMany (statement : String) (rows : List (List Value)) : Step Cursor :=
  inTransaction do
    let cursor ← openCursor .write
    runOn cursor statement rows.flatten (·.executeMany statement rows)

/-- Run statements without parameters in one transaction, each on a cursor of its
own, and then fail if a message is given. -/
def runAll (statements : List String) (failure : Option String) : Step Unit :=
  inTransaction do
    for statement in statements do
      let cursor ← Backend.openCursor .write
      let cursor ← cursor.execute statement []
      cursor.close
    match failure with
    | some message => throw (.backend message)
    | none => return ()

end RecordMapper.Database
