/-
  RecordMapper.Session
  ────────────────────────────────
  **SESSIONS.**

  A session groups models whose connections are closed together.  Closing tries
  every one of them, tells the first failure, and leaves the session empty.
-/
import RecordMapper.Backend.Servers

namespace RecordMapper

/-- **A session.** -/
structure Session where
  models : List Model

namespace Session

/-- Group more models. -/
def add (s : Session) (models : List Model) : Session :=
  ⟨s.models ++ models⟩

/-- Of two outcomes the first, unless it is a success. -/
def firstFailure (a b : Except Failure Unit) : Except Failure Unit :=
  match a with
  | .ok () => b
  | .error failure => .error failure

/-- Close the connections of models, one after the other. -/
def closeAll : List Model → StateM Servers (Except Failure Unit)
  | [] => return .ok ()
  | m :: rest => do
    let outcome ← m.closeSession.outcome
    return firstFailure outcome (← closeAll rest)

/-- **Close a session**: the outcome, and the empty session. -/
def close (s : Session) : StateM Servers (Except Failure Unit × Session) := do
  return (← closeAll s.models, ⟨[]⟩)

end Session

end RecordMapper
