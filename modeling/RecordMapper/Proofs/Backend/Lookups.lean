/-
  RecordMapper.Proofs.Backend.Lookups
  ────────────────────────────────
  **A LOOKUP READS, AND DOES NOTHING ELSE.**

  A lookup runs one select and takes its first record.  Whatever fails on the way, all that
  it leaves behind are calls on the record of one database, and each of them reads: no
  transaction is begun, and no statement but the select is run.  Only a select that was run
  can be told to have no data.

  The invariant is `Backend.LookedUp`.  One call keeps it (`attempt_lookedUp`), and running
  the select is the one step that adds to what it says.

  Main result: `Select.lookup`, every lookup goes in one of three ways.
-/
import RecordMapper.Proofs.Backend.Writes
import RecordMapper.Record.Store

namespace RecordMapper

variable {α : Type} {st : Statement} {ran : Bool}

/-! ## §1. Calls that read. -/

/-- **A call of a lookup** of this statement. -/
def Call.Reads (st : Statement) : Call → Prop
  | .connect _ | .cursor _ .read | .fetch _ | .closeCursor _ => True
  | .execute _ text parameters => text = st.text ∧ parameters = st.parameters
  | _ => False

/-- **A lookup is at work** on a database that was as `start`: it only reads, and has run its
statement when `ran` says so. -/
structure Backend.LookedUp (start : Backend) (st : Statement) (ran : Bool) (b : Backend) : Prop where
  dialect : b.dialect = start.dialect
  calls : ∃ calls, b.trace = start.trace ++ calls ∧ (∀ a ∈ calls, a.call.Reads st)
    ∧ (ran = true → ∃ serial, ⟨.execute serial st.text st.parameters, none⟩ ∈ calls)

namespace Backend

variable {start b : Backend}

namespace LookedUp

/-- Nothing was done yet. -/
theorem self (start : Backend) (st : Statement) : start.LookedUp st false start :=
  ⟨rfl, [], (List.append_nil _).symm, fun _ ha => absurd ha List.not_mem_nil,
    fun h => absurd h Bool.false_ne_true⟩

/-- **One more call** that reads. -/
theorem record {b' : Backend} {a : Attempt} (h : start.LookedUp st ran b) (ha : a.call.Reads st)
    (hdialect : b'.dialect = b.dialect) (htrace : b'.trace = b.trace ++ [a]) :
    start.LookedUp st ran b' := by
  obtain ⟨hsame, calls, hcalls, hreads, hran⟩ := h
  refine ⟨hdialect.trans hsame, calls ++ [a], ?_, ?_, fun h => ?_⟩
  · rw [htrace, hcalls, List.append_assoc]
  · intro x hx
    rcases List.mem_append.1 hx with hx | hx
    · exact hreads x hx
    · rwa [List.mem_singleton.1 hx]
  · obtain ⟨serial, hmem⟩ := hran h
    exact ⟨serial, List.mem_append_left _ hmem⟩

/-- The statement itself is run. -/
theorem run {b' : Backend} {serial : Nat} (h : start.LookedUp st ran b)
    (hdialect : b'.dialect = b.dialect)
    (htrace : b'.trace = b.trace ++ [⟨.execute serial st.text st.parameters, none⟩]) :
    start.LookedUp st true b' := by
  obtain ⟨hsame, calls, hcalls, hreads, -⟩ := h
  refine ⟨hdialect.trans hsame, calls ++ [⟨.execute serial st.text st.parameters, none⟩], ?_, ?_,
    fun _ => ⟨serial, List.mem_concat_self⟩⟩
  · rw [htrace, hcalls, List.append_assoc]
  · intro x hx
    rcases List.mem_append.1 hx with hx | hx
    · exact hreads x hx
    · rw [List.mem_singleton.1 hx]
      exact ⟨rfl, rfl⟩

end LookedUp

/-- **A call of a method** that reads keeps a lookup at work, whether or not it fails. -/
theorem attempt_lookedUp (method : Method) {call : Call} (h : call.Reads st) :
    Leads (start.LookedUp st ran) (attempt method call).run fun _ => start.LookedUp st ran := by
  intro b hb
  show start.LookedUp st ran ((thrown (b.faults method).head?.join).run _).2
  cases (b.faults method).head?.join <;> exact hb.record h rfl rfl

theorem connect_lookedUp :
    Leads (start.LookedUp st ran) connect.run fun _ => start.LookedUp st ran := by
  intro b hb
  refine Leads.kept (x := attempt .connect (.connect !b.connected))
    (f := fun _ => do modify fun b => { b with connected := true }; return !b.connected)
    ?_ (fun _ => ?_) b hb
  · exact attempt_lookedUp _ trivial
  · exact fun _ h => ⟨h.dialect, h.calls⟩

theorem openCursor_lookedUp :
    Leads (start.LookedUp st ran) (openCursor .read).run fun _ => start.LookedUp st ran := by
  intro b hb
  refine Leads.kept (x := attempt .cursor (.cursor b.nextSerial .read))
    (f := fun _ => do
      modify fun b' => { b' with nextSerial := b.nextSerial + 1 }
      return (⟨b.nextSerial, [], [], none, 0⟩ : Cursor)) ?_ (fun _ => ?_) b hb
  · exact attempt_lookedUp _ trivial
  · exact fun _ h => ⟨h.dialect, h.calls⟩

end Backend

/-! ## §2. Cursors. -/

section

variable {start : Backend}

namespace Cursor

theorem close_lookedUp (cursor : Cursor) :
    Leads (start.LookedUp st ran) cursor.close.run fun _ => start.LookedUp st ran :=
  Backend.attempt_lookedUp .closeCursor (show Call.Reads st (.closeCursor _) from trivial)

theorem fetch_lookedUp (cursor : Cursor) :
    Leads (start.LookedUp st ran) cursor.fetch.run fun _ => start.LookedUp st ran :=
  Leads.kept (Backend.attempt_lookedUp .fetch (show Call.Reads st (.fetch _) from trivial))
    fun _ _ h => h

/-- **Running the statement** is what a lookup is known to have done when that succeeds. -/
theorem execute_lookedUp (cursor : Cursor) :
    Leads (start.LookedUp st false) (cursor.execute st.text st.parameters).run
      fun out => start.LookedUp st out.isOk := by
  intro b hb
  show start.LookedUp st (Except.isOk ((cursor.answered st.text st.parameters b
      (b.results.head?.getD (.ok ⟨[], []⟩))).run _).1)
    ((cursor.answered st.text st.parameters b (b.results.head?.getD (.ok ⟨[], []⟩))).run _).2
  cases b.results.head?.getD (.ok ⟨[], []⟩) with
  | ok rows => exact hb.run rfl rfl
  | error message =>
      have hreads : Call.Reads st (.execute cursor.serial st.text st.parameters) := ⟨rfl, rfl⟩
      exact hb.record (a := ⟨_, some message⟩) hreads rfl rfl

end Cursor

/-- **A statement that reads.** -/
theorem Database.executeRead_lookedUp : Leads (start.LookedUp st false)
    (executeRead st.text st.parameters).run fun out => start.LookedUp st out.isOk := by
  have hopen : Leads (start.LookedUp st false) (openCursor .read).run
      fun _ => start.LookedUp st false :=
    Backend.connect_lookedUp.kept fun _ => Backend.openCursor_lookedUp
  refine hopen.andThen (fun _ _ h => h) fun cursor => ?_
  refine cursor.execute_lookedUp.bind fun out => ?_
  cases out with
  | ok ran => exact fun _ h => h
  | error native => exact cursor.close_lookedUp.bind fun _ _ h => h

end

/-- A statement that cannot be run is not told to have no data. -/
theorem Database.executeRead_error {text : String} {parameters : List Value} {b : Backend}
    {failure : Failure} (h : ((executeRead text parameters).run b).1 = .error failure) :
    failure ≠ .noData := by
  have hadds : (executeRead text parameters).Adds (RanOnNew .read text parameters [parameters]) :=
    onNew_adds fun cursor => cursor.execute_executed text parameters
  obtain ⟨calls, -, hran⟩ := hadds b
  rw [h] at hran
  cases hran with
  | unconnected => exact nofun
  | unopened => exact nofun
  | opened ran =>
      cases ran with
      | closed _ => exact nofun

/-! ## §3. Lookups on the open databases. -/

/-- **A lookup is at work** on one of the databases, and leaves the others alone. -/
structure Servers.LookedUp (start : Servers) (handle : Handle) (st : Statement) (ran : Bool)
    (s : Servers) : Prop where
  others : ∀ other, other ≠ handle → s.backend other = start.backend other
  here : (start.backend handle).LookedUp st ran (s.backend handle)

section

variable {start s : Servers} {handle : Handle}

namespace Servers.LookedUp

theorem self (start : Servers) (handle : Handle) (st : Statement) :
    start.LookedUp handle st false start :=
  ⟨fun _ _ => rfl, .self _ st⟩

/-- **Every call that was made reads**, on whichever database. -/
theorem reads (h : start.LookedUp handle st ran s) {other : Handle} {a : Attempt}
    (ha : a ∈ start.callsUntil s other) : a.call.Reads st := by
  by_cases hother : other = handle
  · subst hother
    obtain ⟨-, calls, htrace, hreads, -⟩ := h.here
    rw [Servers.callsUntil_of_trace htrace] at ha
    exact hreads a ha
  · rw [Servers.callsUntil_of_eq (h.others other hother)] at ha
    cases ha

end Servers.LookedUp

/-- A step on the database that is looked at. -/
theorem Action.on_lookedUp {step : Step α} {ran' : Except Failure α → Bool}
    (h : Leads ((start.backend handle).LookedUp st ran) step.run
      fun out => (start.backend handle).LookedUp st (ran' out)) :
    Leads (start.LookedUp handle st ran) (on handle step).run
      fun out => start.LookedUp handle st (ran' out) := by
  intro s hs
  refine ⟨fun other hother => (if_neg hother).trans (hs.others other hother), ?_⟩
  show (start.backend handle).LookedUp st _ (if handle = handle then _ else _)
  rw [if_pos rfl]
  exact h _ hs.here

namespace Result

/-- **Closing a result.** -/
theorem close_lookedUp {r : Result} (hsource : r.source = handle) :
    Leads (start.LookedUp handle st ran) r.close
      fun r' s => r'.source = handle ∧ start.LookedUp handle st ran s := by
  subst hsource
  unfold close
  cases hcursor : r.cursor with
  | none => exact fun _ h => ⟨rfl, h⟩
  | some cursor =>
      exact (Action.on_lookedUp cursor.close_lookedUp).bind fun _ _ h => ⟨rfl, h⟩

theorem remember_source (r : Result) (reading : Reading) :
    (r.remember reading).source = r.source := by
  unfold remember
  cases reading with
  | error failure => rfl
  | ok record =>
      show (if r.keeping then _ else r).source = _
      split <;> rfl

/-- **Reading on.** -/
theorem next_lookedUp {r : Result} (hsource : r.source = handle) :
    Leads (start.LookedUp handle st ran) r.next
      fun out s => out.2.source = handle ∧ start.LookedUp handle st ran s := by
  subst hsource
  unfold next
  cases hcursor : r.cursor with
  | none => exact fun _ h => ⟨rfl, h⟩
  | some cursor =>
      have hfetch : Leads (start.LookedUp r.source st ran) (Action.on r.source cursor.fetch).run
          fun _ => start.LookedUp r.source st ran :=
        Action.on_lookedUp cursor.fetch_lookedUp
      refine hfetch.bind fun out => ?_
      rcases out with failure | ⟨_ | row, rest⟩
      · exact (close_lookedUp rfl).bind fun _ _ h => h
      · show Leads _ (if r.inScope = true then _ else _) _
        by_cases hscope : r.inScope = true
        · rw [if_pos hscope]
          exact fun _ h => ⟨rfl, h⟩
        · rw [if_neg hscope]
          exact (close_lookedUp (r := { r with cursor := some rest }) rfl).bind fun _ _ h => h
      · intro s h
        exact ⟨remember_source _ _, h⟩

end Result

end

/-! ## §4. Selects. -/

/-- **How a lookup goes**: what comes of it, and what is left of the databases. -/
inductive Select.Lookup (q : Select) (servers : Servers) : Except Failure Record → Servers → Prop
  | unbound (database : q.model.database = none) :
      Lookup q servers (.error (.notBound q.model.name)) servers
  | unrendered {handle : Handle} {failure : Failure} (database : q.model.database = some handle)
      (refused : q.statement (servers.backend handle).dialect = .error failure) :
      Lookup q servers (.error failure) servers
  | read {handle : Handle} {st : Statement} {ran : Bool} {out : Except Failure Record}
      {servers' : Servers} (database : q.model.database = some handle)
      (rendered : q.statement (servers.backend handle).dialect = .ok st)
      (lookedUp : servers.LookedUp handle st ran servers')
      (missed : out = .error .noData → ran = true) : Lookup q servers out servers'

/-- The first record of a result, which is let go. -/
def Result.takeFirst (r : Result) : Action Record :=
  ExceptT.mk do
    let (reading, r) ← r.next
    let _ ← r.close
    return reading.getD (.error .noData)

namespace Select

variable {q : Select} {start : Servers} {handle : Handle}

/-- The result of a select that was run on a database. -/
def resultAt (q : Select) (handle : Handle) (cursor : Cursor) : Result :=
  .new q.model handle cursor q.isNaive q.outputFields

/-- **Running a statement and taking its first record** is a lookup; it is not told to have no
data before it ran the statement. -/
theorem takeFirst_lookedUp (q : Select) : Leads (start.LookedUp handle st false)
    (Action.on handle (Database.executeRead st.text st.parameters)
      >>= fun cursor => (q.resultAt handle cursor).takeFirst).run
    fun out s => ∃ ran, start.LookedUp handle st ran s ∧ (out = .error .noData → ran = true) := by
  have hread : Leads (start.LookedUp handle st false)
      (Action.on handle (Database.executeRead st.text st.parameters)).run fun out s =>
        start.LookedUp handle st out.isOk s ∧ out ≠ .error .noData :=
    fun s hs => ⟨Action.on_lookedUp Database.executeRead_lookedUp s hs,
      fun h => Database.executeRead_error h rfl⟩
  refine hread.andThen (fun failure s h => ?_) fun cursor => ?_
  · refine ⟨false, h.1, fun hnone => ?_⟩
    obtain rfl := Except.error.inj hnone
    exact absurd rfl h.2
  · have hnext : Leads (start.LookedUp handle st true) (q.resultAt handle cursor).next
        fun out s => out.2.source = handle ∧ start.LookedUp handle st true s :=
      Result.next_lookedUp rfl
    have hrest : Leads (start.LookedUp handle st true) (q.resultAt handle cursor).takeFirst.run
        fun out s => ∃ ran, start.LookedUp handle st ran s ∧ (out = .error .noData → ran = true) := by
      refine hnext.bind fun (_, r) => ?_
      exact Leads.assuming fun hr => (Result.close_lookedUp hr).bind
        fun _ _ h => ⟨true, h.2, fun _ => rfl⟩
    exact fun s h => hrest s h.1

/-- A select is rendered in the dialect of the database of its model, and is run there. -/
theorem execute_run (hdatabase : q.model.database = some handle) (servers : Servers) :
    q.execute.run servers
      = (Action.ofExcept (q.statement (servers.backend handle).dialect) >>= fun st =>
          Action.on handle (Database.executeRead st.text st.parameters) >>= fun cursor =>
            pure (q.resultAt handle cursor)).run servers := by
  unfold execute
  rw [run_bind]
  unfold Action.databaseOf Model.boundDatabase
  rw [hdatabase]
  rfl

/-- **Every lookup goes in one of these ways.** -/
theorem lookup (q : Select) (servers : Servers) :
    q.Lookup servers (q.one.run servers).1 (q.one.run servers).2 := by
  have hone : q.one.run servers = (q.execute >>= Result.takeFirst).run servers := rfl
  rw [run_bind] at hone
  cases hdatabase : q.model.database with
  | none =>
      have hrun : q.execute.run servers = (.error (.notBound q.model.name), servers) := by
        unfold execute
        rw [run_bind]
        unfold Action.databaseOf Model.boundDatabase
        rw [hdatabase]
        rfl
      rw [hone, hrun]
      exact .unbound hdatabase
  | some handle =>
      have hrun := execute_run hdatabase servers
      cases hst : q.statement (servers.backend handle).dialect with
      | error failure =>
          rw [hst] at hrun
          rw [hone, hrun]
          exact .unrendered hdatabase hst
      | ok st =>
          have htaken : q.one.run servers
              = (Action.on handle (Database.executeRead st.text st.parameters) >>= fun cursor =>
                  (q.resultAt handle cursor).takeFirst).run servers := by
            rw [hone, hrun, hst, run_bind, run_bind,
              show (Action.ofExcept (.ok st)).run servers = (.ok st, servers) from rfl]
            dsimp only
            rw [run_bind]
            rcases (Action.on handle (Database.executeRead st.text st.parameters)).run servers
              with ⟨failure | cursor, between⟩ <;> rfl
          rw [htaken]
          obtain ⟨ran, hlookedUp, hmissed⟩ :=
            takeFirst_lookedUp q servers (Servers.LookedUp.self servers handle st)
          exact .read hdatabase hst hlookedUp hmissed

end Select

end RecordMapper
