/-
  RecordMapper.Proofs.Backend.Additions
  ────────────────────────────────
  **WHAT A STEP ADDS TO THE RECORD.**

  Every call of a backend goes on its record, behind the calls that are there.  So a
  step is known by the calls that it adds, together with its outcome; `Step.Adds`
  says which pairs of the two there are, whatever the backend was told to answer.
  What steps in a row add is put together from what each of them adds.

  Main results: one `_adds` for each step of a backend, a cursor and a database,
  which say all of it.  Nothing that is proved about records opens a step again.
-/
import RecordMapper.Backend.Transaction

namespace RecordMapper

variable {α β : Type}

/-! ## §1. Steps in a row. -/

/-- **What a step adds**: from every backend it leaves the record as it was and adds
calls behind it, and `P` holds of its outcome and these calls. -/
def Step.Adds (step : Step α) (P : Except Failure α → List Attempt → Prop) : Prop :=
  ∀ b : Backend, ∃ added, (step.run b).2.trace = b.trace ++ added ∧ P (step.run b).1 added

/-- The calls that a step adds from a backend. -/
def Step.added (step : Step α) (b : Backend) : List Attempt :=
  (step.run b).2.trace.drop b.trace.length

namespace Step.Adds

variable {P Q : Except Failure α → List Attempt → Prop} {step : Step α}

/-- The calls that a step adds are those behind the record. -/
theorem added (h : step.Adds P) (b : Backend) :
    (step.run b).2.trace = b.trace ++ step.added b ∧ P (step.run b).1 (step.added b) := by
  obtain ⟨added, htrace, hP⟩ := h b
  have hadded : step.added b = added := by
    unfold Step.added
    rw [htrace, List.drop_left]
  rw [hadded]
  exact ⟨htrace, hP⟩

theorem mono (h : step.Adds P) (himp : ∀ out added, P out added → Q out added) : step.Adds Q := by
  intro b
  obtain ⟨added, htrace, hP⟩ := h b
  exact ⟨added, htrace, himp _ _ hP⟩

/-- A step that yields what it is given adds nothing. -/
theorem done (out : Except Failure α) :
    Step.Adds (ExceptT.mk (pure out)) fun out' added => out' = out ∧ added = [] :=
  fun _ => ⟨[], (List.append_nil _).symm, rfl, rfl⟩

/-- **A step whose outcome decides what is done next**, whether it fails or not. -/
theorem handle {next : Except Failure α → StateM Backend (Except Failure β)}
    {R : Except Failure α → Except Failure β → List Attempt → Prop} (h : step.Adds P)
    (hnext : ∀ out, Step.Adds (ExceptT.mk (next out)) (R out)) :
    Step.Adds (ExceptT.mk (step.outcome >>= next)) fun out added =>
      ∃ out' first rest, P out' first ∧ R out' out rest ∧ added = first ++ rest := by
  intro b
  obtain ⟨first, hfirst, hP⟩ := h b
  obtain ⟨rest, hrest, hR⟩ := hnext (step.run b).1 (step.run b).2
  refine ⟨first ++ rest, ?_, _, first, rest, hP, hR, rfl⟩
  show ((ExceptT.mk (next (step.run b).1)).run (step.run b).2).2.trace = _
  rw [hrest, hfirst, List.append_assoc]

/-- **Two steps in a row**: the second is taken when the first succeeds. -/
theorem bind {f : α → Step β} {R : α → Except Failure β → List Attempt → Prop}
    (h : step.Adds P) (hf : ∀ a, (f a).Adds (R a)) :
    (step >>= f).Adds fun out added =>
      (∃ failure, out = .error failure ∧ P (.error failure) added)
        ∨ ∃ a first rest, P (.ok a) first ∧ R a out rest ∧ added = first ++ rest := by
  have hnext : ∀ out : Except Failure α, Step.Adds (ExceptT.mk (ExceptT.bindCont f out))
      fun out' added => match out with
        | .error failure => out' = .error failure ∧ added = []
        | .ok a => R a out' added := by
    intro out
    cases out with
    | error failure => exact done (.error failure)
    | ok a => exact hf a
  refine (handle h hnext).mono fun out added => ?_
  rintro ⟨out', first, rest, hP, hR, rfl⟩
  cases out' with
  | error failure =>
      obtain ⟨rfl, rfl⟩ := hR
      exact .inl ⟨failure, rfl, by rwa [List.append_nil]⟩
  | ok a => exact .inr ⟨a, first, rest, hP, hR, rfl⟩

/-- A step whose result is left out. -/
theorem discarded (h : step.Adds P) :
    (do let _ ← step; return () : Step Unit).Adds fun out added =>
      ∃ out', out = out'.map (fun _ => ()) ∧ P out' added := by
  refine (bind h fun _ => done (.ok ())).mono fun out added => ?_
  rintro (⟨failure, rfl, hP⟩ | ⟨a, first, rest, hP, ⟨rfl, rfl⟩, rfl⟩)
  · exact ⟨.error failure, rfl, hP⟩
  · exact ⟨.ok a, rfl, by rwa [List.append_nil]⟩

/-- Looking at the backend adds nothing. -/
theorem get {f : Backend → Step α} (h : ∀ b, (f b).Adds P) :
    (MonadState.get >>= f : Step α).Adds P :=
  fun b => h b b

/-- Changing anything but the record adds nothing. -/
theorem silent (change : Backend → Backend) (hchange : ∀ b, (change b).trace = b.trace)
    {next : Step α} (h : next.Adds P) : (modify change >>= fun _ => next : Step α).Adds P := by
  intro b
  obtain ⟨added, htrace, hP⟩ := h (change b)
  refine ⟨added, ?_, hP⟩
  rw [← hchange b]
  exact htrace

/-- So does changing anything but the record of the backend that was looked at. -/
theorem replaced (change : Backend → Backend) (hchange : ∀ b, (change b).trace = b.trace)
    {f : Backend → Step α} (h : ∀ b, (f b).Adds P) :
    (MonadState.get >>= fun b => MonadStateOf.set (change b) >>= fun _ => f b : Step α).Adds P := by
  intro b
  obtain ⟨added, htrace, hP⟩ := h b (change b)
  refine ⟨added, ?_, hP⟩
  rw [← hchange b]
  exact htrace

/-- What is put on the record is added before everything else. -/
theorem recorded {call : Call} {failure : Option String} {next : Step α} (h : next.Adds P) :
    (Backend.record call failure >>= fun _ => next : Step α).Adds fun out added =>
      ∃ rest, P out rest ∧ added = ⟨call, failure⟩ :: rest := by
  intro b
  obtain ⟨rest, htrace, hP⟩ := h { b with trace := b.trace ++ [⟨call, failure⟩] }
  refine ⟨⟨call, failure⟩ :: rest, htrace.trans ?_, rest, hP, rfl⟩
  exact List.append_assoc _ _ _

end Step.Adds

/-! ## §2. The steps of a backend. -/

/-- What comes of a call that met this failure, or none. -/
def met (failure : Option String) (a : α) : Except Failure α :=
  match failure with
  | none => .ok a
  | some message => .error (.backend message)

theorem met_ok {failure : Option String} {a a' : α} (h : met failure a = .ok a') :
    failure = none ∧ a = a' := by
  cases failure with
  | none => exact ⟨rfl, Except.ok.inj h⟩
  | some message => cases h

theorem met_error {failure : Option String} {a : α} {e : Failure} (h : met failure a = .error e) :
    ∃ message, failure = some message ∧ e = .backend message := by
  cases failure with
  | none => cases h
  | some message => exact ⟨message, rfl, (Except.error.inj h).symm⟩

namespace Backend

/-- What a call does in the end that met this failure, or none. -/
def thrown (failure : Option String) : Step Unit :=
  match failure with
  | some message => throw (.backend message)
  | none => return ()

/-- **One call of a method** is added, with the failure that it met. -/
theorem attempt_adds (method : Method) (call : Call) :
    (attempt method call).Adds fun out added =>
      ∃ failure, out = met failure () ∧ added = [⟨call, failure⟩] := by
  have hthrow : ∀ failure : Option String, (thrown failure).Adds fun out added =>
      out = met failure () ∧ added = [] := by
    intro failure
    cases failure with
    | none => exact .done (.ok ())
    | some message => exact .done (.error (.backend message))
  refine Step.Adds.get fun b => (Step.Adds.silent (fun b => { b with
    faults := fun m => if m = method then (b.faults m).drop 1 else b.faults m }) (fun _ => rfl)
    (hthrow (b.faults method).head?.join).recorded).mono ?_
  rintro out added ⟨rest, ⟨rfl, rfl⟩, rfl⟩
  exact ⟨_, rfl, rfl⟩

/-- A call of a method, and behind it a change that puts nothing on the record. -/
theorem attempt_then_adds (method : Method) (call : Call) (change : Backend → Backend)
    (hchange : ∀ b, (change b).trace = b.trace) (a : α) :
    (do attempt method call; modify change; return a : Step α).Adds fun out added =>
      ∃ failure, out = met failure a ∧ added = [⟨call, failure⟩] := by
  refine ((attempt_adds method call).bind fun _ =>
    Step.Adds.silent change hchange (.done (.ok a))).mono fun out added => ?_
  rintro (⟨e, rfl, failure, hout, rfl⟩ | ⟨_, _, _, ⟨failure, hout, rfl⟩, ⟨rfl, rfl⟩, rfl⟩)
  · obtain ⟨message, rfl, rfl⟩ := met_error hout.symm
    exact ⟨some message, rfl, rfl⟩
  · obtain ⟨rfl, _⟩ := met_ok hout.symm
    exact ⟨none, rfl, rfl⟩

/-- Connecting. -/
theorem connect_adds : connect.Adds fun out added =>
    ∃ fresh failure, out = met failure fresh ∧ added = [⟨.connect fresh, failure⟩] := by
  refine Step.Adds.get fun b => ?_
  have hcall := attempt_then_adds .connect (.connect !b.connected)
    (fun b => { b with connected := true }) (fun _ => rfl) (!b.connected)
  exact hcall.mono fun out added h => ⟨_, h⟩

/-- Opening a cursor. -/
theorem openCursor_adds (intent : Intent) : (openCursor intent).Adds fun out added =>
    ∃ serial failure, out = met failure ⟨serial, [], [], none, 0⟩
      ∧ added = [⟨.cursor serial intent, failure⟩] := by
  refine Step.Adds.get fun b => ?_
  have hcall := attempt_then_adds (α := Cursor) .cursor (.cursor b.nextSerial intent)
    (fun c => { c with nextSerial := b.nextSerial + 1 }) (fun _ => rfl)
    ⟨b.nextSerial, [], [], none, 0⟩
  exact hcall.mono fun out added h => ⟨_, h⟩

end Backend

/-! ## §3. Running statements. -/

namespace Cursor

/-- What a cursor comes to when the backend answers a statement with rows or a failure. -/
def answered (cursor : Cursor) (statement : String) (parameters : List Value) (b : Backend)
    (answer : Except String Rows) : Step Cursor :=
  match answer with
  | .ok rows => do
    Backend.record (.execute cursor.serial statement parameters) none
    return { cursor with
      labels := rows.labels
      rows := rows.rows
      lastId := b.lastId
      affected := b.affected }
  | .error message => do
    Backend.record (.execute cursor.serial statement parameters) (some message)
    throw (.backend message)

/-- **Running a statement** adds that run, with the failure that it met; the cursor stays
the one that it is. -/
theorem execute_adds (cursor : Cursor) (statement : String) (parameters : List Value) :
    (cursor.execute statement parameters).Adds fun out added =>
      ∃ failure ran, ran.serial = cursor.serial ∧ out = met failure ran
        ∧ added = [⟨.execute cursor.serial statement parameters, failure⟩] := by
  -- What the script has next decides both what goes on the record and what comes of it.
  refine Step.Adds.replaced (fun b => { b with results := b.results.drop 1 }) (fun _ => rfl)
    fun b => ?_
  show (cursor.answered statement parameters b (b.results.head?.getD (.ok ⟨[], []⟩))).Adds _
  cases b.results.head?.getD (.ok ⟨[], []⟩) with
  | ok rows =>
      refine (Step.Adds.recorded (.done (.ok _))).mono fun out added => ?_
      rintro ⟨_, ⟨rfl, rfl⟩, rfl⟩
      refine ⟨none, _, ?_, rfl, rfl⟩
      rfl
  | error message =>
      refine (Step.Adds.recorded (.done (.error (.backend message)))).mono fun out added => ?_
      rintro ⟨_, ⟨rfl, rfl⟩, rfl⟩
      exact ⟨some message, cursor, rfl, rfl, rfl⟩

/-- Closing a cursor. -/
theorem close_adds (cursor : Cursor) : cursor.close.Adds fun out added =>
    ∃ failure, out = met failure () ∧ added = [⟨.closeCursor cursor.serial, failure⟩] :=
  Backend.attempt_adds _ _

end Cursor

/-- **A statement run for each of some rows** of parameters on the cursor of a number: for
all of them, or up to the first that fails. -/
inductive Executed (serial : Nat) (statement : String) (rows : List (List Value)) :
    Except Failure Cursor → List Attempt → Prop
  | whole {cursor : Cursor} (same : cursor.serial = serial) :
      Executed serial statement rows (.ok cursor)
        (rows.map fun row => ⟨.execute serial statement row, none⟩)
  | stopped {before after : List (List Value)} {row : List Value} {message : String}
      (split : rows = before ++ row :: after) :
      Executed serial statement rows (.error (.backend message))
        (before.map (fun row => ⟨.execute serial statement row, none⟩)
          ++ [⟨.execute serial statement row, some message⟩])

namespace Executed

variable {serial : Nat} {statement : String} {row : List Value} {rows : List (List Value)}

/-- The first row fails. -/
theorem first (message : String) : Executed serial statement (row :: rows)
    (.error (.backend message)) [⟨.execute serial statement row, some message⟩] :=
  .stopped (List.nil_append _).symm

/-- The first row does not fail, and the others go their way. -/
theorem cons {out : Except Failure Cursor} {calls : List Attempt}
    (h : Executed serial statement rows out calls) :
    Executed serial statement (row :: rows) out
      (⟨.execute serial statement row, none⟩ :: calls) := by
  cases h with
  | whole same => exact .whole same
  | @stopped before after failed message split =>
      rw [split]
      exact .stopped (List.cons_append ..).symm

end Executed

namespace Cursor

theorem execute_executed (cursor : Cursor) (statement : String) (parameters : List Value) :
    (cursor.execute statement parameters).Adds
      (Executed cursor.serial statement [parameters]) := by
  refine (execute_adds cursor statement parameters).mono fun out added => ?_
  rintro ⟨failure, ran, hsame, rfl, rfl⟩
  cases failure with
  | none => exact .whole hsame
  | some message => exact .first message

/-- **Running a statement for each row.** -/
theorem executeMany_executed (statement : String) : ∀ (rows : List (List Value)) (cursor : Cursor),
    (cursor.executeMany statement rows).Adds (Executed cursor.serial statement rows)
  | [], cursor => by
      refine (Step.Adds.done (.ok cursor)).mono fun out added => ?_
      rintro ⟨rfl, rfl⟩
      exact .whole rfl
  | row :: rows, cursor => by
      have hrows := fun cursor => executeMany_executed statement rows cursor
      unfold executeMany at hrows ⊢
      rw [List.foldlM_cons]
      refine ((execute_adds cursor statement row).bind hrows).mono fun out added => ?_
      rintro (⟨e, rfl, failure, ran, hsame, hout, rfl⟩
        | ⟨_, _, rest, ⟨failure, ran, hsame, hout, rfl⟩, hrest, rfl⟩)
      · obtain ⟨message, rfl, rfl⟩ := met_error hout.symm
        exact .first message
      · obtain ⟨rfl, rfl⟩ := met_ok hout.symm
        rw [hsame] at hrest
        exact hrest.cons

end Cursor

/-! ## §4. The steps of a database. -/

/-- **A statement run on a cursor, which is closed when it fails.** -/
inductive Ran (serial : Nat) (statement : String) (parameters : List Value)
    (rows : List (List Value)) : Except Failure Cursor → List Attempt → Prop
  | whole {cursor : Cursor} {calls : List Attempt}
      (executed : Executed serial statement rows (.ok cursor) calls) :
      Ran serial statement parameters rows (.ok cursor) calls
  | closed {native : Failure} {calls : List Attempt} {failure : Option String}
      (executed : Executed serial statement rows (.error native) calls) :
      Ran serial statement parameters rows (.error (.statementFailed native statement parameters))
        (calls ++ [⟨.closeCursor serial, failure⟩])

/-- **A statement run on a cursor of its own.** -/
inductive RanOnNew (intent : Intent) (statement : String) (parameters : List Value)
    (rows : List (List Value)) : Except Failure Cursor → List Attempt → Prop
  | unconnected {fresh : Bool} {message : String} :
      RanOnNew intent statement parameters rows (.error (.backend message))
        [⟨.connect fresh, some message⟩]
  | unopened {fresh : Bool} {serial : Nat} {message : String} :
      RanOnNew intent statement parameters rows (.error (.backend message))
        [⟨.connect fresh, none⟩, ⟨.cursor serial intent, some message⟩]
  | opened {fresh : Bool} {serial : Nat} {out : Except Failure Cursor} {calls : List Attempt}
      (ran : Ran serial statement parameters rows out calls) :
      RanOnNew intent statement parameters rows out
        (⟨.connect fresh, none⟩ :: ⟨.cursor serial intent, none⟩ :: calls)

/-- **A transaction around some work**: which of its calls are made, and what comes of
it. -/
inductive Conducted (work : Except Failure α → List Attempt → Prop) :
    Except Failure α → List Attempt → Prop
  | unconnected {fresh : Bool} {message : String} :
      Conducted work (.error (.backend message)) [⟨.connect fresh, some message⟩]
  | unbegun {fresh : Bool} {message : String} :
      Conducted work (.error (.backend message))
        [⟨.connect fresh, none⟩, ⟨.begin, some message⟩]
  /-- The work succeeded; whether the transaction does depends on the commit. -/
  | finished {fresh : Bool} {a : α} {calls : List Attempt} {failure : Option String}
      (worked : work (.ok a) calls) :
      Conducted work (met failure a)
        (⟨.connect fresh, none⟩ :: ⟨.begin, none⟩ :: (calls ++ [⟨.commit, failure⟩]))
  /-- The work failed, and is undone. -/
  | undone {fresh : Bool} {e : Failure} {calls : List Attempt} {failure : Option String}
      (worked : work (.error e) calls) :
      Conducted work (.error e)
        (⟨.connect fresh, none⟩ :: ⟨.begin, none⟩ :: (calls ++ [⟨.rollback, failure⟩]))

namespace Database

theorem openCursor_adds (intent : Intent) : (openCursor intent).Adds fun out added =>
    (∃ fresh message, out = .error (.backend message) ∧ added = [⟨.connect fresh, some message⟩])
      ∨ ∃ fresh serial failure, out = met failure ⟨serial, [], [], none, 0⟩
        ∧ added = [⟨.connect fresh, none⟩, ⟨.cursor serial intent, failure⟩] := by
  refine (Backend.connect_adds.bind fun _ => Backend.openCursor_adds intent).mono
    fun out added => ?_
  rintro (⟨e, rfl, fresh, failure, hout, rfl⟩
    | ⟨_, _, _, ⟨fresh, failure, hout, rfl⟩, ⟨serial, failure', rfl, rfl⟩, rfl⟩)
  · obtain ⟨message, rfl, rfl⟩ := met_error hout.symm
    exact .inl ⟨fresh, message, rfl, rfl⟩
  · obtain ⟨rfl, _⟩ := met_ok hout.symm
    exact .inr ⟨fresh, serial, failure', rfl, rfl⟩

/-- What is done once a statement was run: the cursor of one that failed is closed. -/
def afterRun (cursor : Cursor) (statement : String) (parameters : List Value)
    (out : Except Failure Cursor) : Step Cursor :=
  ExceptT.mk (match out with
    | .ok cursor => return .ok cursor
    | .error native => do
      let _ ← cursor.close.outcome
      return .error (.statementFailed native statement parameters))

/-- What comes of it, and the calls that it adds. -/
def Cleared (cursor : Cursor) (statement : String) (parameters : List Value)
    (out out' : Except Failure Cursor) (added : List Attempt) : Prop :=
  match out with
  | .ok ran => out' = .ok ran ∧ added = []
  | .error native => out' = .error (.statementFailed native statement parameters)
    ∧ ∃ failure, added = [⟨.closeCursor cursor.serial, failure⟩]

/-- **A statement that fails has its cursor closed.** -/
theorem runOn_adds {cursor : Cursor} {statement : String} {parameters : List Value}
    {rows : List (List Value)} {execute : Cursor → Step Cursor}
    (h : (execute cursor).Adds (Executed cursor.serial statement rows)) :
    (runOn cursor statement parameters execute).Adds
      (Ran cursor.serial statement parameters rows) := by
  have hnext : ∀ out, (afterRun cursor statement parameters out).Adds
      (Cleared cursor statement parameters out) := by
    intro out
    cases out with
    | ok ran => exact .done (.ok ran)
    | error native =>
        refine (cursor.close_adds.handle fun _ => .done _).mono fun out' added => ?_
        rintro ⟨_, _, _, ⟨failure, _, rfl⟩, ⟨rfl, rfl⟩, rfl⟩
        exact ⟨rfl, failure, rfl⟩
  refine (h.handle hnext).mono fun out added => ?_
  rintro ⟨out', first, rest, hexecuted, hrest, rfl⟩
  cases out' with
  | ok ran =>
      obtain ⟨rfl, rfl⟩ := hrest
      rw [List.append_nil]
      exact .whole hexecuted
  | error native =>
      obtain ⟨rfl, failure, rfl⟩ := hrest
      exact .closed hexecuted

/-- A statement run on a cursor that is opened for it. -/
theorem onNew_adds {intent : Intent} {statement : String} {parameters : List Value}
    {rows : List (List Value)} {execute : Cursor → Step Cursor}
    (h : ∀ cursor, (execute cursor).Adds (Executed cursor.serial statement rows)) :
    (openCursor intent >>= fun cursor => runOn cursor statement parameters execute).Adds
      (RanOnNew intent statement parameters rows) := by
  refine ((openCursor_adds intent).bind fun cursor => runOn_adds (h cursor)).mono
    fun out added => ?_
  rintro (⟨e, rfl, ⟨fresh, message, hout, rfl⟩ | ⟨fresh, serial, failure, hout, rfl⟩⟩
    | ⟨_, _, rest, ⟨fresh, message, hout, rfl⟩ | ⟨fresh, serial, failure, hout, rfl⟩, hran, rfl⟩)
  · obtain rfl := Except.error.inj hout
    exact .unconnected
  · obtain ⟨message, rfl, rfl⟩ := met_error hout.symm
    exact .unopened
  · cases hout
  · obtain ⟨rfl, rfl⟩ := met_ok hout.symm
    exact .opened hran

/-- What is done once the work of a transaction was done: it is committed or rolled back. -/
def afterWork (out : Except Failure α) : Step α :=
  ExceptT.mk (match out with
    | .ok a => (do Backend.commit; return a : Step α).outcome
    | .error failure => do
      let _ ← Backend.rollback.outcome
      return .error failure)

/-- What comes of it, and the calls that it adds. -/
def Ended (out out' : Except Failure α) (added : List Attempt) : Prop :=
  match out with
  | .ok a => ∃ failure, out' = met failure a ∧ added = [⟨.commit, failure⟩]
  | .error e => out' = .error e ∧ ∃ failure, added = [⟨.rollback, failure⟩]

/-- **A transaction** connects, begins, does its work, and then commits or rolls back. -/
theorem inTransaction_adds {work : Step α} {P : Except Failure α → List Attempt → Prop}
    (h : work.Adds P) : (inTransaction work).Adds (Conducted P) := by
  have hend : ∀ out : Except Failure α, (afterWork out).Adds (Ended out) := by
    intro out
    cases out with
    | ok a =>
        refine ((Backend.attempt_adds .commit .commit).bind fun _ => .done (.ok a)).mono
          fun out' added => ?_
        rintro (⟨e, rfl, failure, hout, rfl⟩ | ⟨_, _, _, ⟨failure, hout, rfl⟩, ⟨rfl, rfl⟩, rfl⟩)
        · obtain ⟨message, rfl, rfl⟩ := met_error hout.symm
          exact ⟨some message, rfl, rfl⟩
        · obtain ⟨rfl, _⟩ := met_ok hout.symm
          exact ⟨none, rfl, rfl⟩
    | error e =>
        refine ((Backend.attempt_adds .rollback .rollback).handle fun _ => .done _).mono
          fun out' added => ?_
        rintro ⟨_, _, _, ⟨failure, _, rfl⟩, ⟨rfl, rfl⟩, rfl⟩
        exact ⟨rfl, failure, rfl⟩
  refine (Backend.connect_adds.bind fun _ => (Backend.attempt_adds .begin .begin).bind fun _ =>
    h.handle hend).mono fun out added => ?_
  rintro (⟨e, rfl, fresh, failure, hout, rfl⟩ | ⟨_, _, _, ⟨fresh, failure, hout, rfl⟩, hbegun, rfl⟩)
  · obtain ⟨message, rfl, rfl⟩ := met_error hout.symm
    exact .unconnected
  obtain ⟨rfl, _⟩ := met_ok hout.symm
  obtain (⟨e, rfl, failure, hout, rfl⟩
    | ⟨_, _, _, ⟨failure, hout, rfl⟩, ⟨done, calls, last, hwork, hlast, rfl⟩, rfl⟩) := hbegun
  · obtain ⟨message, rfl, rfl⟩ := met_error hout.symm
    exact .unbegun
  obtain ⟨rfl, _⟩ := met_ok hout.symm
  cases done with
  | ok a =>
      obtain ⟨failure, rfl, rfl⟩ := hlast
      exact .finished hwork
  | error e =>
      obtain ⟨rfl, failure, rfl⟩ := hlast
      exact .undone hwork

/-- **A statement that writes.** -/
theorem executeWrite_adds (statement : String) (parameters : List Value) :
    (executeWrite statement parameters).Adds
      (Conducted (RanOnNew .write statement parameters [parameters])) :=
  inTransaction_adds (onNew_adds fun cursor => cursor.execute_executed statement parameters)

/-- **A statement that writes many rows.** -/
theorem executeWriteMany_adds (statement : String) (rows : List (List Value)) :
    (executeWriteMany statement rows).Adds
      (Conducted (RanOnNew .write statement rows.flatten rows)) :=
  inTransaction_adds (onNew_adds fun cursor => cursor.executeMany_executed statement rows)

end Database

end RecordMapper
