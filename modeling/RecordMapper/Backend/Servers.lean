/-
  RecordMapper.Backend.Servers
  ────────────────────────────────
  **THE OPEN DATABASES.**

  Each handle stands for one backend.  An action works on the backends behind
  its handles; what it did to them stays done when it fails.
-/
import RecordMapper.Backend.Transaction

namespace RecordMapper

/-- **The backend behind each handle.** -/
structure Servers where
  backend : Handle → Backend

namespace Servers

/-- No database was used yet. -/
def initial : Servers := ⟨fun _ => .new .generic⟩

/-- Put a backend behind a handle. -/
def set (servers : Servers) (handle : Handle) (backend : Backend) : Servers :=
  ⟨fun h => if h = handle then backend else servers.backend h⟩

end Servers

/-- **An action** on the open databases. -/
abbrev Action := ExceptT Failure (StateM Servers)

namespace Action

/-- Take a step on the backend behind a handle. -/
def on {α : Type} (handle : Handle) (step : Step α) : Action α :=
  ExceptT.mk fun servers =>
    let (outcome, backend) := step.run (servers.backend handle)
    (outcome, servers.set handle backend)

/-- What comes out of an action, its failure as a value. -/
def outcome {α : Type} (action : Action α) : StateM Servers (Except Failure α) :=
  action.run

/-- A result that was reached without touching a database. -/
def ofExcept {α : Type} (result : Except Failure α) : Action α :=
  ExceptT.mk (pure result)

/-- The dialect of the database behind a handle. -/
def dialect (handle : Handle) : Action Dialect := do
  return ((← get).backend handle).dialect

/-- The database of a model, or a failure that it has none. -/
def databaseOf (model : Model) : Action Handle :=
  ofExcept model.boundDatabase

end Action

/-- Close the connection of the database that a model lives in. -/
def Model.closeSession (m : Model) : Action Unit := do
  let handle ← Action.databaseOf m
  Action.on handle Backend.close

/-! ## Running changes. -/

/-- **Run an insert**: the generated key, if the model has one and the database
reports one. -/
def Insert.execute (q : Insert) : Action (Option Value) := do
  let handle ← Action.databaseOf q.model
  let (sql, rows) ← Action.ofExcept (q.render (← Action.dialect handle))
  Action.on handle do
    let cursor ←
      if q.isBulk then Database.executeWriteMany sql.text rows
      else Database.executeWrite sql.text (rows.headD [])
    cursor.close
    return cursor.lastId.filter fun v => q.model.autoIncrement && !v.isNull

/-- Run a statement that changes rows: how many it changed. -/
def executeChange (model : Model) (render : Dialect → Except Failure Statement) : Action Nat := do
  let handle ← Action.databaseOf model
  let statement ← Action.ofExcept (render (← Action.dialect handle))
  Action.on handle do
    let cursor ← Database.executeWrite statement.text statement.parameters
    cursor.close
    return cursor.affected

/-- **Run an update**: how many rows it changed. -/
def Update.execute (q : Update) : Action Nat :=
  executeChange q.model q.statement

/-- **Run a deletion**: how many rows it removed. -/
def Delete.execute (q : Delete) : Action Nat :=
  executeChange q.model q.statement

end RecordMapper
