/-
  RecordMapper.Proofs.Record.Committed
  ────────────────────────────────
  **WHEN A WRITE THAT FAILED IS COMMITTED ALL THE SAME.**

  Behind the commit a write still closes its cursor, and a save of a new record still gives
  it the generated key.  Either may fail, and then the caller is told of a failure although
  the rows are in the table: who tries again writes them twice.

  Main result: `failed_write_committed_iff`.  Of all the ways in which a write can fail,
  these two are the ones that leave it committed.
-/
import RecordMapper.Proofs.Record.Saving

namespace RecordMapper

variable {servers servers' : Servers}

/-! ## §1. A change that fails. -/

/-- A write that fails is committed when it is its cursor that cannot be closed. -/
theorem Written.committed_iff {α : Type} {statement : String} {rows : List (List Value)}
    {yields : Cursor → α} {failure : Failure} {calls : List Attempt}
    (h : Written statement rows yields (.error failure) calls) :
    ⟨.commit, none⟩ ∈ calls ↔ ∃ fresh again serial message, failure = .backend message
      ∧ calls = openingCalls fresh again serial ++ runCalls serial statement rows
        ++ [⟨.commit, none⟩, ⟨.closeCursor serial, some message⟩] := by
  refine ⟨fun hcommit => ?_, ?_⟩
  · cases h with
    | unclosed => exact ⟨_, _, _, _, rfl, rfl⟩
    | _ => simp [openingCalls, mem_runCalls] at hcommit
  · rintro ⟨fresh, again, serial, message, -, rfl⟩
    simp

/-- **The cursor could not be closed**: everything else was done, the commit included. -/
inductive FailedToClose (failure : Failure) (servers servers' : Servers) : Prop
  | intro {handle : Handle} {fresh again : Bool} {serial : Nat} {statement message : String}
      {rows : List (List Value)} (told : failure = .backend message)
      (calls : servers.callsUntil servers' handle
        = openingCalls fresh again serial ++ runCalls serial statement rows
          ++ [⟨.commit, none⟩, ⟨.closeCursor serial, some message⟩])

theorem FailedToClose.committed {failure : Failure} (h : FailedToClose failure servers servers') :
    ∃ handle, ⟨.commit, none⟩ ∈ servers.callsUntil servers' handle := by
  obtain @⟨handle, _, _, _, _, _, _, _, calls⟩ := h
  refine ⟨handle, ?_⟩
  rw [calls]
  simp

/-- **A change that fails** is committed when its cursor cannot be closed. -/
theorem Change.committed_iff {c : Change} {failure : Failure}
    (h : c.perform.run servers = (.error failure, servers')) :
    (∃ handle, ⟨.commit, none⟩ ∈ servers.callsUntil servers' handle)
      ↔ FailedToClose failure servers servers' := by
  have hcarried := c.perform_carried servers
  rw [h] at hcarried
  refine ⟨?_, FailedToClose.committed⟩
  rintro ⟨handle, hcommit⟩
  obtain ⟨-, -, statement, rows, -, hwritten⟩ := hcarried.written_of_mem hcommit
  obtain ⟨fresh, again, serial, message, htold, hcalls⟩ := hwritten.committed_iff.1 hcommit
  exact .intro htold hcalls

/-! ## §2. Writes. -/

/-- **A write**: a change of rows, or one that a record asks for. -/
inductive Write where
  | change (c : Change)
  | save (r : Record)
  | delete (r : Record)
  /-- A record is made and stored. -/
  | create (model : Model) (values : List (String × Value))

namespace Write

/-- What the write does; what it yields is left out. -/
def perform : Write → Action Unit
  | .change c => c.perform
  | .save r => discard r.save
  | .delete r => discard r.delete
  | .create model values => discard (model.create values)

/-- The new record that the write stores, if it stores one. -/
def inserted? : Write → Option Record
  | .change _ => none
  | .save r => if r.isNew then some r else none
  | .delete _ => none
  | .create model values => (Record.new model values).toOption

end Write

/-- **The record refused its key**: its insert succeeded, and the key that the database
generated cannot be assigned to it. -/
inductive KeyRefused (w : Write) (failure : Failure) (servers servers' : Servers) : Prop
  | intro {r : Record} {q : Insert} {handle : Handle} {key : Value}
      (stores : w.inserted? = some r)
      (inserts : (Insert.new r.model).set r.insertedValues = .ok q)
      (inserted : (Change.insert q).perform.run servers = (.ok (), servers'))
      (database : r.model.database = some handle)
      (generates : r.model.autoIncrement = true)
      (reported : (servers.backend handle).lastId = some key)
      (given : key.isNull = false)
      (refused : r.setKey key = .error failure)

theorem KeyRefused.committed {w : Write} {failure : Failure}
    (h : KeyRefused w failure servers servers') :
    ∃ handle, ⟨.commit, none⟩ ∈ servers.callsUntil servers' handle := by
  obtain @⟨_, q, _, _, _, _, inserted, _, _, _, _, _⟩ := h
  have hcarried := (Change.insert q).perform_carried servers
  rw [inserted] at hcarried
  obtain @⟨handle, _, _, _, _, _, _, _, _, calls⟩ := hcarried.ok_iff.1 rfl
  refine ⟨handle, ?_⟩
  rw [calls]
  simp

/-! ## §3. What fails in a write. -/

/-- An action fails as it does when what it yields is left out. -/
theorem Action.discard_error {α : Type} {action : Action α} {failure : Failure} :
    (discard action).run servers = (.error failure, servers')
      ↔ action.run servers = (.error failure, servers') := by
  rw [discard_run]
  rcases action.run servers with ⟨e | a, between⟩
  · constructor
    · intro h
      cases h
      rfl
    · intro h
      cases h
      rfl
  · exact iff_of_false nofun nofun

/-- An insert that yields something succeeds. -/
theorem Insert.perform_ok {q : Insert} {key : Option Value}
    (h : q.execute.run servers = (.ok key, servers')) :
    (Change.insert q).perform.run servers = (.ok (), servers') := by
  show (discard q.execute).run servers = _
  rw [Action.discard_run, h]
  rfl

namespace Write

variable {w : Write} {r : Record} {failure : Failure}

/-- **A save that fails**: nothing was called, or its change of rows failed, or the record was
inserted and refused its key. -/
theorem save_fails (stores : r.isNew = true → w.inserted? = some r)
    (h : r.save.run servers = (.error failure, servers')) :
    servers' = servers ∨ (∃ c : Change, c.perform.run servers = (.error failure, servers'))
      ∨ KeyRefused w failure servers servers' := by
  cases Record.saving_of_run h with
  | refused => exact .inl rfl
  | keyless => exact .inl rfl
  | notInserted _ _ ran => exact .inr (.inl ⟨.insert _, Action.discard_error.2 ran⟩)
  | notUpdated _ _ ran => exact .inr (.inl ⟨.update _, Action.discard_error.2 ran⟩)
  | keyRefused new insert ran refuses =>
      obtain ⟨hgenerates, hgiven, handle, hdatabase, hreported⟩ := Insert.execute_key ran
      obtain ⟨row, -, hq⟩ := bind_ok.1 insert
      obtain rfl := pure_ok.1 hq
      exact .inr (.inr (.intro (stores new) insert (Insert.perform_ok ran) hdatabase hgenerates
        hreported hgiven refuses))

/-- **What can fail in a write**: nothing was called, or a change of rows failed, or a record
was inserted and refused its key. -/
theorem fails (h : w.perform.run servers = (.error failure, servers')) :
    servers' = servers ∨ (∃ c : Change, c.perform.run servers = (.error failure, servers'))
      ∨ KeyRefused w failure servers servers' := by
  cases w with
  | change c => exact .inr (.inl ⟨c, h⟩)
  | save r => exact save_fails (fun hnew => if_pos hnew) (Action.discard_error.1 h)
  | delete r =>
      replace h := Action.discard_error.1 h
      unfold Record.delete at h
      cases hkey : r.key? with
      | none =>
          rw [hkey] at h
          exact .inl (Prod.mk.inj h).2.symm
      | some key =>
          rw [hkey] at h
          exact .inr (.inl ⟨.delete _, Action.discard_error.2 h⟩)
  | create model values =>
      replace h := Action.discard_error.1 h
      unfold Model.create at h
      rw [run_bind] at h
      cases hmade : Record.new model values with
      | error e =>
          rw [hmade] at h
          exact .inl (Prod.mk.inj h).2.symm
      | ok r =>
          rw [hmade] at h
          exact save_fails (fun _ => congrArg Except.toOption hmade) h

end Write

/-- **When a write that failed is committed all the same**: its cursor could not be closed,
or it stored a new record, which refused the key that the database generated for it.  A
write that fails for any other reason was not committed. -/
theorem failed_write_committed_iff (w : Write) {failure : Failure}
    (h : w.perform.run servers = (.error failure, servers')) :
    (∀ handle, (servers'.backend handle).trace
        = (servers.backend handle).trace ++ servers.callsUntil servers' handle)
      ∧ ((∃ handle, ⟨.commit, none⟩ ∈ servers.callsUntil servers' handle)
        ↔ FailedToClose failure servers servers' ∨ KeyRefused w failure servers servers') := by
  have hkept : ∀ (c : Change) (out : Except Failure Unit), c.perform.run servers = (out, servers') →
      ∀ handle, (servers'.backend handle).trace
        = (servers.backend handle).trace ++ servers.callsUntil servers' handle := by
    intro c out hrun
    have hcarried := c.perform_carried servers
    rw [hrun] at hcarried
    exact hcarried.trace_eq
  have hcauses : FailedToClose failure servers servers' ∨ KeyRefused w failure servers servers' →
      ∃ handle, ⟨.commit, none⟩ ∈ servers.callsUntil servers' handle :=
    fun hcause => hcause.elim FailedToClose.committed KeyRefused.committed
  rcases w.fails h with rfl | ⟨c, hchange⟩ | hkey
  · refine ⟨fun handle => ?_, ⟨?_, hcauses⟩⟩
    · rw [Servers.callsUntil_of_eq rfl, List.append_nil]
    · rintro ⟨handle, hcommit⟩
      rw [Servers.callsUntil_of_eq rfl] at hcommit
      cases hcommit
  · refine ⟨hkept c _ hchange, ⟨fun hcommit => .inl ?_, hcauses⟩⟩
    exact (Change.committed_iff hchange).1 hcommit
  · refine ⟨?_, ⟨fun _ => .inr hkey, hcauses⟩⟩
    obtain @⟨_, q, _, _, _, _, inserted, _, _, _, _, _⟩ := hkey
    exact hkept (.insert q) _ inserted

/-! ## §4. Two authors who are written and not told of. -/

namespace Sample

/-- A database that cannot close its cursor. -/
def unclosing : Servers where
  backend _ := (Backend.new .generic).pushFault .closeCursor "gone"

end Sample

open Sample in
/-- An author is created, and refuses the text for a number. -/
theorem refused_key_committed : ∃ servers',
    (Write.create storedAuthor [("name", text "Ann")]).perform.run (reporting (text "none"))
        = (.error (.invalidValue "Author" "id" (.cannotParse "none" "i64")), servers')
      ∧ ∃ handle, ⟨.commit, none⟩ ∈ (reporting (text "none")).callsUntil servers' handle := by
  have hrun : (Write.create storedAuthor [("name", text "Ann")]).perform.run
      (reporting (text "none"))
        = (.error (.invalidValue "Author" "id" (.cannotParse "none" "i64")), _) :=
    rfl
  have hdatabase : storedAuthor.database = some ⟨0⟩ := rfl
  exact ⟨_, hrun, (failed_write_committed_iff _ hrun).2.2
    (.inr (.intro rfl rfl rfl hdatabase rfl rfl rfl rfl))⟩

open Sample in
/-- An author is inserted and committed, and the insert fails. -/
theorem not_every_failed_write_undone :
    ¬ ∀ (w : Write) (failure : Failure) (servers servers' : Servers),
      w.perform.run servers = (.error failure, servers') →
        ∀ handle, ⟨.commit, none⟩ ∉ servers.callsUntil servers' handle := by
  intro h
  have hrun : (Write.change (.insert ⟨storedAuthor, .row [("name", text "Ann")]⟩)).perform.run
      unclosing = (.error (.backend "gone"), _) :=
    rfl
  exact h _ _ _ _ hrun ⟨0⟩ (by decide +kernel)

end RecordMapper
