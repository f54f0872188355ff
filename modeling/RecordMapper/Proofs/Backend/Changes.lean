/-
  RecordMapper.Proofs.Backend.Changes
  ────────────────────────────────
  **WHAT A STATEMENT THAT CHANGES ROWS DOES.**

  An action works on the backends behind its handles.  A statement that changes rows runs
  in a transaction on the database of its model, once for each row of parameters, and its
  cursor is closed behind the transaction.  `Written` lists the ways that this can go: the
  calls that are made, up to the one that fails, and what comes of them.  No other database
  is called.

  Main results: `Insert.execute_carried` and `executeChange_carried`, one for each way to
  run such a statement; `executeChange_ok`, when it succeeds.
-/
import RecordMapper.Backend.Servers
import RecordMapper.Proofs.Backend.Additions
import RecordMapper.Proofs.Outcome
import RecordMapper.Proofs.Stateful

namespace RecordMapper

variable {α β : Type} {servers servers' : Servers}

/-! ## §1. Actions. -/

namespace Action

/-- **Two actions in a row** succeed when the first does and the second, given its result
and what it did to the databases, does too. -/
theorem bind_ok {x : Action α} {f : α → Action β} {b : β} :
    (x >>= f).run servers = (.ok b, servers')
      ↔ ∃ a between, x.run servers = (.ok a, between) ∧ (f a).run between = (.ok b, servers') := by
  rw [run_bind]
  rcases x.run servers with ⟨e | a, between⟩
  · exact iff_of_false nofun nofun
  · constructor
    · exact fun h => ⟨a, between, rfl, h⟩
    · rintro ⟨a', between', hx, h⟩
      cases hx
      exact h

/-- A result that was reached without a database leaves them all as they are. -/
theorem ofExcept_ok {x : Except Failure α} {a : α} :
    (ofExcept x).run servers = (.ok a, servers') ↔ x = .ok a ∧ servers = servers' :=
  Iff.of_eq (Prod.mk.injEq ..)

theorem pure_ok {a b : α} :
    (pure a : Action α).run servers = (.ok b, servers') ↔ a = b ∧ servers = servers' := by
  refine ofExcept_ok.trans (and_congr_left fun _ => ?_)
  exact ⟨Except.ok.inj, congrArg _⟩

/-- What an action yields may be left out. -/
theorem discard_run (action : Action α) (servers : Servers) :
    (discard action).run servers
      = ((action.run servers).1.map fun _ => (), (action.run servers).2) := by
  show ((fun _ => ()) <$> action).run servers = _
  rw [map_eq_pure_bind, run_bind]
  rcases action.run servers with ⟨e | a, between⟩ <;> rfl

/-- The database of a model is the one that it is bound to. -/
theorem databaseOf_ok {model : Model} {handle : Handle}
    (h : (databaseOf model).run servers = (.ok handle, servers')) :
    model.database = some handle ∧ servers = servers' := by
  obtain ⟨hbound, hsame⟩ := ofExcept_ok.1 h
  refine ⟨?_, hsame⟩
  unfold Model.boundDatabase at hbound
  cases hdatabase : model.database with
  | none =>
      rw [hdatabase] at hbound
      cases hbound
  | some bound =>
      rw [hdatabase] at hbound
      rw [Except.ok.inj hbound]

/-- **A step on the backend behind a handle** adds its calls there, and leaves the other
backends as they are. -/
theorem on_adds {step : Step α} {P : Except Failure α → List Attempt → Prop} (hadds : step.Adds P)
    (handle : Handle) (servers : Servers) :
    (∀ other, other ≠ handle →
        ((on handle step).run servers).2.backend other = servers.backend other)
      ∧ ∃ added, (((on handle step).run servers).2.backend handle).trace
          = (servers.backend handle).trace ++ added
        ∧ P ((on handle step).run servers).1 added := by
  obtain ⟨added, htrace, hP⟩ := hadds (servers.backend handle)
  refine ⟨fun other hother => if_neg hother, added, ?_, hP⟩
  refine Eq.trans (congrArg Backend.trace ?_) htrace
  exact if_pos rfl

end Action

/-! ## §2. The calls of a write. -/

/-- The calls that a write makes before its statement: it connects, begins a transaction and
opens a cursor. -/
def openingCalls (fresh again : Bool) (serial : Nat) : List Attempt :=
  [⟨.connect fresh, none⟩, ⟨.begin, none⟩, ⟨.connect again, none⟩, ⟨.cursor serial .write, none⟩]

/-- A statement is run once for each row of parameters, in their order. -/
def runCalls (serial : Nat) (statement : String) (rows : List (List Value)) : List Attempt :=
  rows.map fun row => ⟨.execute serial statement row, none⟩

theorem mem_runCalls {serial : Nat} {statement : String} {rows : List (List Value)} {a : Attempt} :
    a ∈ runCalls serial statement rows ↔ ∃ row ∈ rows, ⟨.execute serial statement row, none⟩ = a :=
  List.mem_map

/-- **What a write does, and what comes of it.**  It makes its calls in order up to the one
that fails.  Within the transaction a failure is followed by a rollback, and when it is the
statement that fails the cursor is closed before that; behind the commit the cursor is closed.
`yields` is what is taken from the cursor in the end. -/
inductive Written (statement : String) (rows : List (List Value)) (yields : Cursor → α) :
    Except Failure α → List Attempt → Prop
  | unconnected {fresh : Bool} {message : String} :
      Written statement rows yields (.error (.backend message)) [⟨.connect fresh, some message⟩]
  | unbegun {fresh : Bool} {message : String} :
      Written statement rows yields (.error (.backend message))
        [⟨.connect fresh, none⟩, ⟨.begin, some message⟩]
  | disconnected {fresh again : Bool} {message : String} {undoing : Option String} :
      Written statement rows yields (.error (.backend message))
        [⟨.connect fresh, none⟩, ⟨.begin, none⟩, ⟨.connect again, some message⟩,
          ⟨.rollback, undoing⟩]
  | unopened {fresh again : Bool} {serial : Nat} {message : String} {undoing : Option String} :
      Written statement rows yields (.error (.backend message))
        [⟨.connect fresh, none⟩, ⟨.begin, none⟩, ⟨.connect again, none⟩,
          ⟨.cursor serial .write, some message⟩, ⟨.rollback, undoing⟩]
  /-- The statement fails for one of the rows. -/
  | stopped {fresh again : Bool} {serial : Nat} {before after : List (List Value)}
      {row : List Value} {message : String} {closing undoing : Option String}
      (split : rows = before ++ row :: after) :
      Written statement rows yields
        (.error (.statementFailed (.backend message) statement rows.flatten))
        (openingCalls fresh again serial ++ runCalls serial statement before
          ++ [⟨.execute serial statement row, some message⟩, ⟨.closeCursor serial, closing⟩,
            ⟨.rollback, undoing⟩])
  | uncommitted {fresh again : Bool} {serial : Nat} {message : String} :
      Written statement rows yields (.error (.backend message))
        (openingCalls fresh again serial ++ runCalls serial statement rows
          ++ [⟨.commit, some message⟩])
  /-- The rows are committed, and the cursor cannot be closed. -/
  | unclosed {fresh again : Bool} {serial : Nat} {message : String} :
      Written statement rows yields (.error (.backend message))
        (openingCalls fresh again serial ++ runCalls serial statement rows
          ++ [⟨.commit, none⟩, ⟨.closeCursor serial, some message⟩])
  | closed {fresh again : Bool} {cursor : Cursor} :
      Written statement rows yields (.ok (yields cursor))
        (openingCalls fresh again cursor.serial ++ runCalls cursor.serial statement rows
          ++ [⟨.commit, none⟩, ⟨.closeCursor cursor.serial, none⟩])

namespace Written

variable {statement : String} {rows : List (List Value)} {yields : Cursor → α}

/-- **A transaction that fails** is all that there is of a write. -/
theorem of_conducted_error {e : Failure} {calls : List Attempt}
    (h : Conducted (RanOnNew .write statement rows.flatten rows) (.error e) calls) :
    Written statement rows yields (.error e) calls := by
  generalize hout : (.error e : Except Failure Cursor) = out at h
  cases h with
  | unconnected =>
      obtain rfl := Except.error.inj hout
      exact .unconnected
  | unbegun =>
      obtain rfl := Except.error.inj hout
      exact .unbegun
  | finished worked =>
      obtain ⟨message, rfl, rfl⟩ := met_error hout.symm
      cases worked with
      | opened ran =>
          cases ran with
          | whole executed =>
              cases executed with
              | whole same => exact .uncommitted
  | @undone fresh _ _ undoing worked =>
      obtain rfl := Except.error.inj hout
      cases worked with
      | unconnected => exact .disconnected
      | unopened => exact .unopened
      | @opened again serial _ _ ran =>
          cases ran with
          | @closed _ _ closing executed =>
              cases executed with
              | @stopped before after row message split =>
                  have hstopped : Written statement rows yields _ (openingCalls fresh again serial
                      ++ runCalls serial statement before
                      ++ [⟨.execute serial statement row, some message⟩,
                        ⟨.closeCursor serial, closing⟩, ⟨.rollback, undoing⟩]) :=
                    .stopped split
                  simpa [openingCalls, runCalls] using hstopped

/-- **A transaction that succeeds** is committed, and the cursor is closed behind it. -/
theorem of_conducted_ok {cursor : Cursor} {calls : List Attempt} (closing : Option String)
    (h : Conducted (RanOnNew .write statement rows.flatten rows) (.ok cursor) calls) :
    Written statement rows yields (met closing (yields cursor))
      (calls ++ [⟨.closeCursor cursor.serial, closing⟩]) := by
  generalize hout : (.ok cursor : Except Failure Cursor) = out at h
  cases h with
  | unconnected => cases hout
  | unbegun => cases hout
  | undone _ => cases hout
  | @finished fresh worked _ failure hworked =>
      obtain ⟨rfl, rfl⟩ := met_ok hout.symm
      cases hworked with
      | @opened again serial _ _ ran =>
          cases ran with
          | whole executed =>
              cases executed with
              | whole same =>
                  subst same
                  show Written _ _ _ _ (openingCalls fresh again worked.serial
                    ++ runCalls worked.serial statement rows ++ [⟨.commit, none⟩]
                    ++ [⟨.closeCursor worked.serial, closing⟩])
                  rw [List.append_assoc _ [_] [_]]
                  cases closing with
                  | none => exact .closed
                  | some message => exact .unclosed

end Written

/-- **A write whose cursor is closed behind it.** -/
theorem Step.closing_adds {write : Step Cursor} {statement : String} {rows : List (List Value)}
    (h : write.Adds (Conducted (RanOnNew .write statement rows.flatten rows)))
    (yields : Cursor → α) :
    (do
      let cursor ← write
      cursor.close
      return yields cursor : Step α).Adds (Written statement rows yields) := by
  refine (h.bind fun cursor => cursor.close_adds.bind fun _ => .done (.ok (yields cursor))).mono
    fun out added => ?_
  rintro (⟨e, rfl, hwritten⟩ | ⟨cursor, calls, rest, hwritten, hclosed, rfl⟩)
  · exact .of_conducted_error hwritten
  · obtain (⟨e, rfl, closing, hout, rfl⟩ | ⟨_, _, _, ⟨closing, hout, rfl⟩, ⟨rfl, rfl⟩, rfl⟩) :=
      hclosed
    · obtain ⟨message, rfl, rfl⟩ := met_error hout.symm
      exact .of_conducted_ok (some message) hwritten
    · obtain ⟨rfl, _⟩ := met_ok hout.symm
      exact .of_conducted_ok none hwritten

/-! ## §3. Changes of rows. -/

/-- **What a change of rows does to the databases**, by how it is rendered. -/
inductive Carried (model : Model)
    (rendered : Dialect → Except Failure (String × List (List Value))) (yields : Cursor → α)
    (servers : Servers) : Except Failure α → Servers → Prop
  | unbound (database : model.database = none) :
      Carried model rendered yields servers (.error (.notBound model.name)) servers
  | unrendered {handle : Handle} {failure : Failure} (database : model.database = some handle)
      (refused : rendered (servers.backend handle).dialect = .error failure) :
      Carried model rendered yields servers (.error failure) servers
  | written {handle : Handle} {statement : String} {rows : List (List Value)}
      {out : Except Failure α} {servers' : Servers} {calls : List Attempt}
      (database : model.database = some handle)
      (accepted : rendered (servers.backend handle).dialect = .ok (statement, rows))
      (others : ∀ other, other ≠ handle → servers'.backend other = servers.backend other)
      (trace : (servers'.backend handle).trace = (servers.backend handle).trace ++ calls)
      (did : Written statement rows yields out calls) :
      Carried model rendered yields servers out servers'

/-- **A change of rows** finds the database of its model, is rendered in its dialect, and is
written there. -/
theorem Carried.of_run {ρ : Type} {model : Model} (render : Dialect → Except Failure ρ)
    {rendered : Dialect → Except Failure (String × List (List Value))} {yields : Cursor → α}
    {write : ρ → Step α}
    (hfails : ∀ d failure, render d = .error failure → rendered d = .error failure)
    (hwrites : ∀ d prepared, render d = .ok prepared → ∃ statement rows,
      rendered d = .ok (statement, rows) ∧ (write prepared).Adds (Written statement rows yields))
    (servers : Servers) {action : Action α}
    (haction : action = do
      let handle ← Action.databaseOf model
      let prepared ← Action.ofExcept (render (← Action.dialect handle))
      Action.on handle (write prepared)) :
    Carried model rendered yields servers (action.run servers).1 (action.run servers).2 := by
  cases hdatabase : model.database with
  | none =>
      have hrun : action.run servers = (.error (.notBound model.name), servers) := by
        rw [haction, run_bind]
        unfold Action.databaseOf Model.boundDatabase
        rw [hdatabase]
        rfl
      rw [hrun]
      exact .unbound hdatabase
  | some handle =>
      have hrun : action.run servers
          = (Action.ofExcept (render (servers.backend handle).dialect) >>= fun prepared =>
              Action.on handle (write prepared)).run servers := by
        rw [haction, run_bind]
        unfold Action.databaseOf Model.boundDatabase
        rw [hdatabase]
        rfl
      rw [hrun, run_bind]
      cases hrender : render (servers.backend handle).dialect with
      | error failure => exact .unrendered hdatabase (hfails _ _ hrender)
      | ok prepared =>
          obtain ⟨statement, rows, hrendered, hadds⟩ := hwrites _ _ hrender
          obtain ⟨hothers, calls, htrace, hwritten⟩ := Action.on_adds hadds handle servers
          exact .written hdatabase hrendered hothers htrace hwritten

/-- The statement of an insert, and the parameters of each of its runs. -/
def Insert.rendered (q : Insert) (d : Dialect) : Except Failure (String × List (List Value)) :=
  (q.render d).map fun (sql, rows) => (sql.text, rows)

/-- The statement of an insert of one row is run once. -/
theorem Insert.render_row {q : Insert} (hq : q.isBulk = false) {d : Dialect} {sql : Sql}
    {rows : List (List Value)} (h : q.render d = .ok (sql, rows)) : rows = [rows.headD []] := by
  unfold Insert.isBulk at hq
  unfold Insert.render at h
  cases hdata : q.data with
  | bulk names many =>
      rw [hdata] at hq
      cases hq
  | row values =>
      rw [hdata] at h
      obtain ⟨parameters, _, h⟩ := RecordMapper.bind_ok.1 h
      obtain ⟨_, rfl⟩ := Prod.mk.inj (RecordMapper.pure_ok.1 h)
      rfl

/-- The key that an insert yields: the one that the database reports, when it generates the
keys of the model. -/
def Insert.keyOf (q : Insert) (cursor : Cursor) : Option Value :=
  cursor.lastId.filter fun v => q.model.autoIncrement && !v.isNull

/-- **What an insert does.** -/
theorem Insert.execute_carried (q : Insert) (servers : Servers) :
    Carried q.model q.rendered q.keyOf servers (q.execute.run servers).1
      (q.execute.run servers).2 := by
  refine Carried.of_run q.render ?_ ?_ servers rfl
  · intro d failure h
    unfold Insert.rendered
    rw [h]
    rfl
  · rintro d ⟨sql, rows⟩ h
    refine ⟨sql.text, rows, ?_, ?_⟩
    · unfold Insert.rendered
      rw [h]
      rfl
    · show Step.Adds (if q.isBulk = true then _ else _) _
      by_cases hbulk : q.isBulk = true
      · rw [if_pos hbulk]
        exact Step.closing_adds (Database.executeWriteMany_adds sql.text rows) q.keyOf
      · rw [if_neg hbulk]
        have hrow : rows = [rows.headD []] := Insert.render_row (by simpa using hbulk) h
        refine Step.closing_adds ?_ q.keyOf
        rw [hrow, List.flatten_cons, List.flatten_nil, List.append_nil]
        exact Database.executeWrite_adds sql.text (rows.headD [])

/-- **What an update or a deletion does.** -/
theorem executeChange_carried (model : Model) (render : Dialect → Except Failure Statement)
    (servers : Servers) :
    Carried model (fun d => (render d).map fun st => (st.text, [st.parameters])) Cursor.affected
      servers ((executeChange model render).run servers).1
      ((executeChange model render).run servers).2 := by
  refine Carried.of_run render ?_ ?_ servers rfl
  · intro d failure h
    rw [h]
    rfl
  · intro d st h
    refine ⟨st.text, [st.parameters], by rw [h]; rfl, Step.closing_adds ?_ Cursor.affected⟩
    rw [List.flatten_cons, List.flatten_nil, List.append_nil]
    exact Database.executeWrite_adds st.text st.parameters

/-! ## §4. Changes that succeed. -/

/-- **The calls of a write that succeeds**: it connects, and in a transaction opens a cursor
and runs its statement; the cursor is closed behind the commit. -/
def writeCalls (fresh again : Bool) (serial : Nat) (statement : String)
    (parameters : List Value) : List Attempt :=
  [⟨.connect fresh, none⟩, ⟨.begin, none⟩, ⟨.connect again, none⟩, ⟨.cursor serial .write, none⟩,
    ⟨.execute serial statement parameters, none⟩, ⟨.commit, none⟩, ⟨.closeCursor serial, none⟩]

/-- **A change that succeeds** was rendered in the dialect of the database of its model,
and was run there. -/
theorem executeChange_ok {model : Model} {render : Dialect → Except Failure Statement} {n : Nat}
    (h : (executeChange model render).run servers = (.ok n, servers')) :
    ∃ handle st, model.database = some handle
      ∧ render (servers.backend handle).dialect = .ok st
      ∧ (∀ other, other ≠ handle → servers'.backend other = servers.backend other)
      ∧ ∃ fresh again serial, (servers'.backend handle).trace
        = (servers.backend handle).trace ++ writeCalls fresh again serial st.text st.parameters := by
  have hcarried := executeChange_carried model render servers
  rw [h] at hcarried
  generalize hout : (.ok n : Except Failure Nat) = out at hcarried
  cases hcarried with
  | unbound _ => cases hout
  | unrendered _ _ => cases hout
  | @written handle _ _ _ _ _ hdatabase haccepted hothers htrace did =>
      obtain ⟨st, hst, hpair⟩ := map_ok.1 haccepted
      obtain ⟨rfl, rfl⟩ := Prod.mk.inj hpair
      refine ⟨handle, st, hdatabase, hst, hothers, ?_⟩
      cases did with
      | @closed fresh again cursor => exact ⟨fresh, again, cursor.serial, htrace⟩
      | _ => cases hout

end RecordMapper
