/-
  RecordMapper.Proofs.Record.Saving
  ────────────────────────────────
  **HOW A SAVE RUNS.**

  A save of a new record is an insert, behind which the record takes the generated key.  A
  save of a loaded one is an update of its dirty fields, or nothing.  `Record.Saving` lists
  the ways that this can go, so that nothing behind it opens a save again.

  Main results: `Record.saving`, every save goes in one of these ways; `Insert.execute_key`,
  the key that an insert yields is the one that the database reported from the start; and
  `Record.save_clean`, a record that was saved has nothing to save.
-/
import RecordMapper.Proofs.Backend.Writes
import RecordMapper.Record.Store

namespace RecordMapper

variable {α : Type} {servers servers' : Servers}

/-! ## §1. The key that a database reports. -/

/-- The backend reports this generated key, if it is one. -/
def Backend.Reports (key : Option Value) (b : Backend) : Prop :=
  b.lastId = key

/-- The cursor holds no other generated key than this. -/
def Cursor.Tells (key : Option Value) (cursor : Cursor) : Prop :=
  cursor.lastId = none ∨ cursor.lastId = key

/-- **What holds when a statement was to be run**: the backend reports the same key still, and
a cursor that came of it holds no other. -/
def Backend.Telling (key : Option Value) (out : Except Failure Cursor) (b : Backend) : Prop :=
  match out with
  | .ok cursor => b.Reports key ∧ cursor.Tells key
  | .error _ => b.Reports key

section

variable {key : Option Value}

namespace Backend

/-- No call of a method changes the key that is reported. -/
theorem attempt_reports (method : Method) (call : Call) :
    Leads (Reports key) (attempt method call).run fun _ => Reports key := by
  intro b h
  show ((thrown (b.faults method).head?.join).run _).2.lastId = key
  cases (b.faults method).head?.join <;> exact h

theorem connect_reports : Leads (Reports key) connect.run fun _ => Reports key := by
  intro b h
  refine Leads.kept (x := attempt .connect (.connect !b.connected))
    (f := fun _ => do modify fun b => { b with connected := true }; return !b.connected)
    ?_ (fun _ => ?_) b h
  · exact attempt_reports _ _
  · exact fun _ h => h

/-- A cursor that was just opened holds no key. -/
theorem openCursor_telling (intent : Intent) :
    Leads (Reports key) (openCursor intent).run (Telling key) := by
  intro b h
  refine Leads.andThen (x := attempt .cursor (.cursor b.nextSerial intent))
    (f := fun _ => do
      modify fun b' => { b' with nextSerial := b.nextSerial + 1 }
      return (⟨b.nextSerial, [], [], none, 0⟩ : Cursor))
    (Q := fun _ => Reports key) (R := Telling key) ?_ (fun _ _ h => h) (fun _ => ?_) b h
  · exact attempt_reports _ _
  · exact fun _ h => ⟨h, .inl rfl⟩

end Backend

namespace Cursor

/-- A cursor that ran a statement holds the key that is reported. -/
theorem execute_telling (cursor : Cursor) (statement : String) (parameters : List Value) :
    Leads (Backend.Reports key) (cursor.execute statement parameters).run
      (Backend.Telling key) := by
  intro b h
  show Backend.Telling key
    ((cursor.answered statement parameters b (b.results.head?.getD (.ok ⟨[], []⟩))).run _).1
    ((cursor.answered statement parameters b (b.results.head?.getD (.ok ⟨[], []⟩))).run _).2
  cases b.results.head?.getD (.ok ⟨[], []⟩) with
  | ok rows => exact ⟨h, .inr h⟩
  | error message => exact h

/-- **Running a statement for each row.** -/
theorem executeMany_telling (statement : String) : ∀ (rows : List (List Value)) (cursor : Cursor),
    cursor.Tells key → Leads (Backend.Reports key) (cursor.executeMany statement rows).run
      (Backend.Telling key)
  | [], cursor, htells => fun _ h => ⟨h, htells⟩
  | row :: rows, cursor, _ => by
      have hrows := fun cursor => executeMany_telling statement rows cursor
      unfold executeMany at hrows ⊢
      rw [List.foldlM_cons]
      exact (cursor.execute_telling statement row).andThen (fun _ _ h => h)
        fun ran b h => hrows ran h.2 b h.1

end Cursor

namespace Database

/-- A statement on a cursor of its own. -/
theorem onNew_telling {intent : Intent} {statement : String} {parameters : List Value}
    {execute : Cursor → Step Cursor}
    (h : ∀ cursor, cursor.Tells key →
      Leads (Backend.Reports key) (execute cursor).run (Backend.Telling key)) :
    Leads (Backend.Reports key)
      (openCursor intent >>= fun cursor => runOn cursor statement parameters execute).run
      (Backend.Telling key) := by
  have hopen : Leads (Backend.Reports key) (openCursor intent).run (Backend.Telling key) :=
    Backend.connect_reports.andThen (fun _ _ h => h) fun _ => Backend.openCursor_telling intent
  refine hopen.andThen (fun _ _ h => h) fun cursor b hcursor => ?_
  refine (h cursor hcursor.2).bind (fun out => ?_) b hcursor.1
  cases out with
  | ok ran => exact fun _ h => h
  | error native => exact (Backend.attempt_reports _ _).bind fun _ _ h => h

/-- A transaction around a statement. -/
theorem inTransaction_telling {work : Step Cursor}
    (h : Leads (Backend.Reports key) work.run (Backend.Telling key)) :
    Leads (Backend.Reports key) (inTransaction work).run (Backend.Telling key) := by
  refine Backend.connect_reports.andThen (fun _ _ h => h) fun _ =>
    (Backend.attempt_reports .begin .begin).andThen (fun _ _ h => h) fun _ => h.bind fun out => ?_
  cases out with
  | ok cursor =>
      intro b hb
      exact (Backend.attempt_reports .commit .commit).andThen (R := Backend.Telling key)
        (f := fun _ => pure cursor) (fun _ _ h => h) (fun _ _ h => ⟨h, hb.2⟩) b hb.1
  | error failure => exact (Backend.attempt_reports .rollback .rollback).bind fun _ _ h => h

theorem executeWrite_telling (statement : String) (parameters : List Value) :
    Leads (Backend.Reports key) (executeWrite statement parameters).run (Backend.Telling key) :=
  inTransaction_telling (onNew_telling fun cursor _ => cursor.execute_telling _ _)

theorem executeWriteMany_telling (statement : String) (rows : List (List Value)) :
    Leads (Backend.Reports key) (executeWriteMany statement rows).run (Backend.Telling key) :=
  inTransaction_telling (onNew_telling fun cursor => cursor.executeMany_telling _ _)

end Database

end

namespace Insert

variable {q : Insert}

/-- What an insert yields is the key that the backend reports, if it yields one. -/
def Yielding (q : Insert) (reported : Option Value) (out : Except Failure (Option Value))
    (_ : Backend) : Prop :=
  ∀ key, out = .ok (some key) →
    q.model.autoIncrement = true ∧ key.isNull = false ∧ reported = some key

/-- A statement was run, and its cursor is closed. -/
theorem closing_yielding {write : Step Cursor} {reported : Option Value}
    (h : Leads (Backend.Reports reported) write.run (Backend.Telling reported)) :
    Leads (Backend.Reports reported) (do
      let cursor ← write
      cursor.close
      return q.keyOf cursor : Step (Option Value)).run (q.Yielding reported) := by
  refine h.andThen (R := q.Yielding reported) (fun _ _ _ _ hout => nomatch hout)
    fun cursor s htelling => ?_
  refine (Backend.attempt_reports .closeCursor (.closeCursor cursor.serial)).andThen
    (R := q.Yielding reported) (f := fun _ => pure (q.keyOf cursor))
    (fun _ _ _ _ hout => nomatch hout) (fun _ _ _ key hout => ?_) s htelling.1
  obtain ⟨hlast, hgenerated⟩ := Option.filter_eq_some_iff.1 (Except.ok.inj hout)
  obtain ⟨hauto, hnull⟩ := Bool.and_eq_true_iff.1 hgenerated
  refine ⟨hauto, by simpa using hnull, ?_⟩
  rcases htelling.2 with hnone | hsame
  · rw [hnone] at hlast
    cases hlast
  · rw [← hsame, hlast]

/-- **The key that an insert yields** is the one that the database of its model reports, and
is not NULL; the database generates the keys of the model. -/
theorem execute_key {key : Value} (h : q.execute.run servers = (.ok (some key), servers')) :
    q.model.autoIncrement = true ∧ key.isNull = false
      ∧ ∃ handle, q.model.database = some handle
        ∧ (servers.backend handle).lastId = some key := by
  unfold execute at h
  obtain ⟨handle, s₁, hhandle, h⟩ := Action.bind_ok.1 h
  obtain ⟨hdatabase, rfl⟩ := Action.databaseOf_ok hhandle
  obtain ⟨d, s₂, hdialect, h⟩ := Action.bind_ok.1 h
  obtain ⟨-, rfl⟩ := Prod.mk.inj hdialect
  obtain ⟨⟨sql, rows⟩, s₃, hrender, h⟩ := Action.bind_ok.1 h
  obtain ⟨-, rfl⟩ := Action.ofExcept_ok.1 hrender
  have hyields : Leads (Backend.Reports (servers.backend handle).lastId)
      (if q.isBulk = true then do
          let cursor ← Database.executeWriteMany sql.text rows
          cursor.close
          return q.keyOf cursor
        else do
          let cursor ← Database.executeWrite sql.text (rows.headD [])
          cursor.close
          return q.keyOf cursor : Step (Option Value)).run
      (q.Yielding (servers.backend handle).lastId) := by
    split
    · exact closing_yielding (Database.executeWriteMany_telling _ _)
    · exact closing_yielding (Database.executeWrite_telling _ _)
  obtain ⟨hauto, hnull, hreported⟩ := hyields _ rfl key (congrArg Prod.fst h)
  exact ⟨hauto, hnull, handle, hdatabase, hreported⟩

end Insert

/-! ## §2. Saves. -/

namespace Record

/-- **A save of a new record** inserts it, and takes the generated key if there is one. -/
theorem save_new {r : Record} (hnew : r.isNew = true) (servers : Servers) :
    r.save.run servers = match (Insert.new r.model).set r.insertedValues with
      | .error failure => (.error failure, servers)
      | .ok q => match q.execute.run servers with
        | (.error failure, servers') => (.error failure, servers')
        | (.ok none, servers') => (.ok { r with isNew := false, dirty := [] }, servers')
        | (.ok (some key), servers') =>
          ((r.setKey key).map fun stored => { stored with isNew := false, dirty := [] },
            servers') := by
  unfold save insert
  rw [if_pos hnew, run_bind, run_bind]
  cases (Insert.new r.model).set r.insertedValues with
  | error failure => rfl
  | ok q =>
      rw [show (Action.ofExcept (.ok q)).run servers = (.ok q, servers) from rfl]
      dsimp only
      rw [run_bind]
      rcases q.execute.run servers with ⟨failure | _ | key, servers'⟩
      · rfl
      · rfl
      · dsimp only
        rw [run_bind]
        cases r.setKey key <;> rfl

/-- The update of the dirty fields, by key. -/
def dirtyUpdate (r : Record) (key : Value) : Update :=
  ((Update.new r.model).set r.changedValues).restrict (r.model.keyIs key)

/-- **A save of a loaded record** updates its dirty fields, if there are any. -/
theorem save_stored {r : Record} (hstored : r.isNew = false) (servers : Servers) :
    r.save.run servers = match r.key? with
      | none => (.error (.saveWithoutKey r.model.name), servers)
      | some key =>
        if r.dirty.isEmpty then (.ok r.settled, servers)
        else match (r.dirtyUpdate key).execute.run servers with
          | (.error failure, servers') => (.error failure, servers')
          | (.ok _, servers') => (.ok r.settled, servers') := by
  unfold save
  rw [hstored, if_neg (by simp)]
  cases r.key? with
  | none => rfl
  | some key =>
      show (if r.dirty.isEmpty = true then _ else _ : Action Record).run servers
        = if r.dirty.isEmpty = true then _ else _
      split
      · rfl
      · rw [run_bind]
        rw [show ((Update.new r.model).set r.changedValues).restrict (r.model.keyIs key)
          = r.dirtyUpdate key from rfl]
        rcases (r.dirtyUpdate key).execute.run servers with ⟨failure | n, servers'⟩ <;> rfl

/-- **How a save goes**: what comes of it, and what is left of the databases. -/
inductive Saving (r : Record) (servers : Servers) : Except Failure Record → Servers → Prop
  | refused {failure : Failure} (new : r.isNew = true)
      (insert : (Insert.new r.model).set r.insertedValues = .error failure) :
      Saving r servers (.error failure) servers
  | notInserted {q : Insert} {failure : Failure} {servers' : Servers} (new : r.isNew = true)
      (insert : (Insert.new r.model).set r.insertedValues = .ok q)
      (ran : q.execute.run servers = (.error failure, servers')) :
      Saving r servers (.error failure) servers'
  | inserted {q : Insert} {servers' : Servers} (new : r.isNew = true)
      (insert : (Insert.new r.model).set r.insertedValues = .ok q)
      (ran : q.execute.run servers = (.ok none, servers')) :
      Saving r servers (.ok { r with isNew := false, dirty := [] }) servers'
  | keyed {q : Insert} {key : Value} {stored : Record} {servers' : Servers} (new : r.isNew = true)
      (insert : (Insert.new r.model).set r.insertedValues = .ok q)
      (ran : q.execute.run servers = (.ok (some key), servers'))
      (takes : r.setKey key = .ok stored) :
      Saving r servers (.ok { stored with isNew := false, dirty := [] }) servers'
  /-- The row is inserted, and the record cannot take its key. -/
  | keyRefused {q : Insert} {key : Value} {failure : Failure} {servers' : Servers}
      (new : r.isNew = true) (insert : (Insert.new r.model).set r.insertedValues = .ok q)
      (ran : q.execute.run servers = (.ok (some key), servers'))
      (refuses : r.setKey key = .error failure) : Saving r servers (.error failure) servers'
  | keyless (stored : r.isNew = false) (keyless : r.key? = none) :
      Saving r servers (.error (.saveWithoutKey r.model.name)) servers
  | clean {key : Value} (stored : r.isNew = false) (keyed : r.key? = some key)
      (clean : r.dirty = []) : Saving r servers (.ok r.settled) servers
  | notUpdated {key : Value} {failure : Failure} {servers' : Servers} (stored : r.isNew = false)
      (keyed : r.key? = some key)
      (ran : (r.dirtyUpdate key).execute.run servers = (.error failure, servers')) :
      Saving r servers (.error failure) servers'
  | updated {key : Value} {n : Nat} {servers' : Servers} (stored : r.isNew = false)
      (keyed : r.key? = some key)
      (ran : (r.dirtyUpdate key).execute.run servers = (.ok n, servers')) :
      Saving r servers (.ok r.settled) servers'

/-- **Every save goes in one of these ways.** -/
theorem saving (r : Record) (servers : Servers) :
    r.Saving servers (r.save.run servers).1 (r.save.run servers).2 := by
  cases hnew : r.isNew with
  | true =>
      rw [save_new hnew]
      cases hset : (Insert.new r.model).set r.insertedValues with
      | error failure => exact .refused hnew hset
      | ok q =>
          dsimp only
          rcases hrun : q.execute.run servers with ⟨failure | _ | key, servers'⟩
          · exact .notInserted hnew hset hrun
          · exact .inserted hnew hset hrun
          · cases hkey : r.setKey key with
            | error failure =>
                dsimp only
                rw [hkey]
                exact .keyRefused hnew hset hrun hkey
            | ok stored =>
                dsimp only
                rw [hkey]
                exact .keyed hnew hset hrun hkey
  | false =>
      rw [save_stored hnew]
      cases hkey : r.key? with
      | none => exact .keyless hnew hkey
      | some key =>
          dsimp only
          split
          · next hclean => exact .clean hnew hkey (List.isEmpty_iff.1 hclean)
          · rcases hrun : (r.dirtyUpdate key).execute.run servers with ⟨failure | n, servers'⟩
            · exact .notUpdated hnew hkey hrun
            · exact .updated hnew hkey hrun

/-- How a save with a known end goes. -/
theorem saving_of_run {r : Record} {out : Except Failure Record}
    (h : r.save.run servers = (out, servers')) : r.Saving servers out servers' := by
  have hsaving := r.saving servers
  rw [h] at hsaving
  exact hsaving

/-- **A record that was saved** has no dirty fields, and is not new. -/
theorem save_settled {r saved : Record} (h : r.save.run servers = (.ok saved, servers')) :
    saved.dirty = [] ∧ saved.isNew = false := by
  cases saving_of_run h with
  | inserted => exact ⟨rfl, rfl⟩
  | keyed => exact ⟨rfl, rfl⟩
  | clean stored => exact ⟨rfl, stored⟩
  | updated stored => exact ⟨rfl, stored⟩

/-- **There is nothing to save** of a record without dirty fields that has a key and is not
new: no database is asked. -/
theorem save_clean {r : Record} (hclean : r.dirty = []) (hstored : r.isNew = false)
    (hkey : r.key?.isSome) (servers : Servers) : r.save.run servers = (.ok r, servers) := by
  obtain ⟨key, hkey⟩ := Option.isSome_iff_exists.1 hkey
  have hsettled : r.settled = r := by
    obtain ⟨model, values, related, isNew, dirty⟩ := r
    obtain rfl : dirty = [] := hclean
    rfl
  rw [save_stored hstored, hkey, hclean, hsettled]
  rfl

end Record

/-- A database that reports this key for every row that is inserted. -/
def Sample.reporting (key : Value) : Servers where
  backend _ := { Backend.new .generic with lastId := some key }

end RecordMapper
