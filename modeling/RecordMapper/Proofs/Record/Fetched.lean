/-
  RecordMapper.Proofs.Record.Fetched
  ────────────────────────────────
  **WHAT IS FETCHED BY A VALUE.**

  A record that is looked up by a value of one field is read from the first row that the
  database answers with.  If that row meets the condition, its cell for the field is the same
  as what is stored for the value; if the labels of the row tell the fields of the model
  apart, the record takes the field from that cell; and if the column keeps the value in full,
  what is stored reads as the same value again.  So the record has the value that it was
  looked up by, and each of the three conditions is a step of the proof.

  Main results: `Select.one_read`, the row behind a lookup, and `fetched_has_value`.
-/
import RecordMapper.Proofs.Record.Labels
import RecordMapper.Proofs.Record.Replayed
import RecordMapper.Proofs.Record.Sought

namespace RecordMapper

/-! ## §1. The rows of a lookup. -/

/-- **The rows that the next statement is answered with**; none when it is to fail. -/
def Rows.next (results : List (Except String Rows)) : Rows :=
  match results.head? with
  | some (.ok rows) => rows
  | _ => ⟨[], []⟩

/-- The rows that a backend answers the next statement with. -/
def Backend.nextRows (b : Backend) : Rows :=
  .next b.results

section

variable {results : List (Except String Rows)}

namespace Backend

/-- A call takes no answer that is queued for a statement. -/
theorem attempt_results (method : Method) (call : Call) :
    Leads (fun b => b.results = results) (attempt method call).run
      fun _ b => b.results = results := by
  intro b hb
  show ((thrown (b.faults method).head?.join).run _).2.results = results
  cases (b.faults method).head?.join <;> exact hb

theorem connect_results :
    Leads (fun b => b.results = results) connect.run fun _ b => b.results = results := by
  intro b hb
  refine Leads.kept (x := attempt .connect (.connect !b.connected))
    (f := fun _ => do modify fun b => { b with connected := true }; return !b.connected)
    (attempt_results _ _) (fun _ => ?_) b hb
  exact fun _ h => h

theorem openCursor_results :
    Leads (fun b => b.results = results) (openCursor .read).run fun _ b => b.results = results := by
  intro b hb
  refine Leads.kept (x := attempt .cursor (.cursor b.nextSerial .read))
    (f := fun _ => do
      modify fun b' => { b' with nextSerial := b.nextSerial + 1 }
      return (⟨b.nextSerial, [], [], none, 0⟩ : Cursor))
    (attempt_results _ _) (fun _ => ?_) b hb
  exact fun _ h => h

end Backend

/-- **A statement that was run** has its rows from the answer that was next. -/
theorem Cursor.execute_rows (cursor : Cursor) (text : String) (parameters : List Value) :
    Leads (fun b => b.results = results) (cursor.execute text parameters).run fun out _ =>
      ∀ ran, out = .ok ran → ran.labels = (Rows.next results).labels
        ∧ ran.rows = (Rows.next results).rows := by
  intro b hb ran hran
  replace hran : ((cursor.answered text parameters b
      (b.results.head?.getD (.ok ⟨[], []⟩))).run _).1 = .ok ran := hran
  rw [hb] at hran
  unfold Rows.next
  cases hnext : results.head? with
  | none =>
      rw [hnext] at hran
      obtain rfl := Except.ok.inj hran
      exact ⟨rfl, rfl⟩
  | some result =>
      rw [hnext] at hran
      cases result with
      | ok rows =>
          obtain rfl := Except.ok.inj hran
          exact ⟨rfl, rfl⟩
      | error message => cases hran

/-- **A statement that reads** has its rows from the answer that was next. -/
theorem Database.executeRead_rows (text : String) (parameters : List Value) :
    Leads (fun b => b.results = results) (executeRead text parameters).run fun out _ =>
      ∀ ran, out = .ok ran → ran.labels = (Rows.next results).labels
        ∧ ran.rows = (Rows.next results).rows := by
  have hopen : Leads (fun b => b.results = results) (openCursor .read).run
      fun _ b => b.results = results :=
    Backend.connect_results.kept fun _ => Backend.openCursor_results
  refine hopen.andThen (fun _ _ _ _ h => nomatch h) fun cursor => ?_
  refine (cursor.execute_rows text parameters).bind fun out => ?_
  cases out with
  | ok ran => exact fun _ h => h
  | error native => exact fun _ _ _ h => nomatch h

end

/-- A row that is fetched is the first that the cursor has. -/
theorem Cursor.fetch_row {cursor : Cursor} {b : Backend} {row : Option (List Value)} {rest : Cursor}
    (h : (cursor.fetch.run b).1 = .ok (row, rest)) : row = cursor.rows.head? := by
  have hfetch : cursor.fetch.run b = ((Backend.attempt .fetch (.fetch cursor.serial)) >>= fun _ =>
      pure (cursor.rows.head?, { cursor with rows := cursor.rows.drop 1 })).run b := rfl
  rw [hfetch, run_bind] at h
  generalize (Backend.attempt .fetch (.fetch cursor.serial)).run b = out at h
  obtain ⟨failure | done, b'⟩ := out
  · cases h
  · exact (congrArg Prod.fst (Except.ok.inj h)).symm

/-- A record that is read from an open result is that of the first row to come. -/
theorem Result.next_ok {r : Result} {cursor : Cursor} (hcursor : r.cursor = some cursor)
    {servers : Servers} {record : Record} (h : (r.next servers).1.1 = some (.ok record)) :
    ∃ row, cursor.rows.head? = some row ∧ r.materialize cursor.labels row = .ok record := by
  rw [next_eq hcursor] at h
  cases hfetch : ((Action.on r.source cursor.fetch).outcome servers).1 with
  | error failure =>
      rw [hfetch] at h
      cases h
  | ok fetched =>
      obtain ⟨row, rest⟩ := fetched
      rw [hfetch] at h
      obtain rfl := Cursor.fetch_row hfetch
      cases hrow : cursor.rows.head? with
      | none =>
          rw [hrow] at h
          cases h
      | some row =>
          rw [hrow] at h
          exact ⟨row, rfl, Option.some.inj h⟩

namespace Select

variable {q : Select} {servers between : Servers}

/-- A select that was run: its model has a database, and its statement was read there. -/
theorem execute_ok {r : Result} (h : q.execute.run servers = (.ok r, between)) :
    ∃ handle st cursor, q.model.database = some handle
      ∧ q.statement (servers.backend handle).dialect = .ok st
      ∧ ((Database.executeRead st.text st.parameters).run (servers.backend handle)).1 = .ok cursor
      ∧ r = q.resultAt handle cursor := by
  cases hdatabase : q.model.database with
  | none =>
      obtain ⟨handle, _, hbound, -⟩ := Action.bind_ok.1 h
      rw [(Action.databaseOf_ok hbound).1] at hdatabase
      cases hdatabase
  | some handle =>
      rw [execute_run hdatabase] at h
      obtain ⟨st, s₁, hrendered, h⟩ := Action.bind_ok.1 h
      obtain ⟨hst, rfl⟩ := Action.ofExcept_ok.1 hrendered
      obtain ⟨cursor, s₂, hread, h⟩ := Action.bind_ok.1 h
      exact ⟨handle, st, cursor, rfl, hst, congrArg Prod.fst hread, (Action.pure_ok.1 h).1.symm⟩

/-- The first record of a result is what reading on yields. -/
theorem takeFirst_ok {r : Result} {record : Record}
    (h : (r.takeFirst.run servers).1 = .ok record) :
    (r.next servers).1.1 = some (.ok record) := by
  -- The record is told behind the closing of the result.
  have htaken : (r.next servers).1.1.getD (.error .noData) = .ok record := h
  cases hnext : (r.next servers).1.1 with
  | none =>
      rw [hnext] at htaken
      cases htaken
  | some reading =>
      rw [hnext] at htaken
      exact congrArg some htaken

/-- **The row behind a lookup**: the record that it yields is that of the first row that the
database answers with. -/
theorem one_read {record : Record} (h : (q.one.run servers).1 = .ok record) :
    ∃ handle st cursor row, q.model.database = some handle
      ∧ q.statement (servers.backend handle).dialect = .ok st
      ∧ (servers.backend handle).nextRows.rows.head? = some row
      ∧ (q.resultAt handle cursor).materialize (servers.backend handle).nextRows.labels row
        = .ok record := by
  have hone : (q.execute >>= Result.takeFirst).run servers = (.ok record, (q.one.run servers).2) :=
    Prod.ext h rfl
  obtain ⟨r, between, hexecute, htaken⟩ := Action.bind_ok.1 hone
  obtain ⟨handle, st, cursor, hdatabase, hst, hread, rfl⟩ := execute_ok hexecute
  obtain ⟨hlabels, hrows⟩ :=
    Database.executeRead_rows st.text st.parameters (servers.backend handle) rfl cursor hread
  obtain ⟨row, hrow, hrecord⟩ := Result.next_ok rfl (takeFirst_ok (congrArg Prod.fst htaken))
  rw [hrows] at hrow
  rw [hlabels] at hrecord
  exact ⟨handle, st, cursor, row, hdatabase, hst, hrow, hrecord⟩

end Select

/-! ## §2. Values that are read again. -/

/-- **The column of the attribute keeps a value**: its application form, cut to the length of
the column, is the same as the value.  NULL is kept. -/
def Attribute.Keeps (a : Attribute) (v : Value) : Prop :=
  v.isNull = true ∨ ∀ held ∈ (a.kind.toApplication v).toOption, (a.kind.fit held).same v = true

instance (a : Attribute) (v : Value) : Decidable (a.Keeps v) :=
  inferInstanceAs (Decidable (v.isNull = true
    ∨ ∀ held ∈ (a.kind.toApplication v).toOption, (a.kind.fit held).same v = true))

/-- **What is the same as what is stored** for a value reads as that value again, if the column
keeps it. -/
theorem Attribute.Keeps.reads {a : Attribute} {v p x w : Value} (hkeeps : a.Keeps v)
    (hv : v.isNull = false) (hp : a.toStorage v = .ok p) (hx : x.same p = true)
    (hw : a.toApplication x = .ok w) : w.same v = true := by
  have hstored : a.kind.toStorage v = .ok p := Attribute.blame_ok.1 hp
  have hread : a.kind.toApplication x = .ok w := Attribute.blame_ok.1 hw
  rw [Kind.toStorage_eq_map hv] at hstored
  obtain ⟨held, hheld, rfl⟩ := map_ok.1 hstored
  have hown := Kind.own_of_convert ((Kind.toApplication_of_not_null hv).symm.trans hheld)
  have hfit : (a.kind.fit held).same v = true :=
    hkeeps.resolve_left (by rw [hv]; exact Bool.false_ne_true) held (by rw [hheld]; rfl)
  obtain ⟨-, hnull⟩ | ⟨y, z, rfl, hz, hyz⟩ | ⟨rfl, -, -⟩ := Value.same_iff.1 hx
  · exact absurd (hnull.symm.trans hown.stored_not_null) nofun
  -- Only floating-point numbers are stored as such, and those are read as they are.
  · refine Value.same_trans ?_ hfit
    generalize a.kind = kind at hown hz hx hread ⊢
    cases hown with
    | float y' =>
        obtain rfl := Except.ok.inj ((Kind.Own.float _).toApplication.symm.trans hread)
        exact hx
    | _ => cases hz
  · rw [hown.toApplication_stored] at hread
    obtain rfl := Except.ok.inj hread
    exact hfit

/-! ## §3. Records that are looked up by a value. -/

/-- **A lookup by a value is answered by rows that have it**: they have the labels of the
select and a cell for every selected field, and the cell of the field that is compared is the
same as what is stored for the value. -/
def Servers.AnswersWith (servers : Servers) (m : Model) (target : Attribute) (v : Value) : Prop :=
  ∀ handle, m.database = some handle → ∀ row ∈ (servers.backend handle).nextRows.rows,
    (servers.backend handle).nextRows.labels = (Select.ofModel m).labels
      ∧ row.length = (Select.ofModel m).outputFields.length
      ∧ ∀ cell ∈ (Select.ofModel m).outputFields.zip row, cell.1.toAttribute = target →
        ∀ p, target.toStorage v = .ok p → cell.2.same p = true

/-- The select of the records that have a value in a field. -/
def Select.byValue (m : Model) (target : Attribute) (v : Value) : Select :=
  (Select.ofModel m).restrict (.compare target .eq (.value v))

/-- A parameter is stored for the value that a select compares with. -/
theorem Select.byValue_stored {m : Model} {target : Attribute} {v : Value} (hv : v.isNull = false)
    {d : Dialect} {st : Statement} (h : (Select.byValue m target v).statement d = .ok st) :
    ∃ p, target.toStorage v = .ok p :=
  (comparesWith_ok h hv List.mem_cons_self).imp fun _ hp => hp.1

/-- **A record that is looked up by a value has it**, when the rows that come as an answer do,
the labels tell the fields of the model apart, and the column of the field keeps the value. -/
theorem fetched_has_value {m : Model} (hm : m.Registered)
    (htell : (Select.ofModel m).LabelsTell) {f : Field} (hf : f ∈ m.fields) {v : Value}
    (hv : v.isNull = false) (hkeeps : f.toAttribute.Keeps v) {servers : Servers}
    (hanswers : servers.AnswersWith m f.toAttribute v) {other : Record}
    (h : ((Select.byValue m f.toAttribute v).one.run servers).1 = .ok other) :
    ∃ w, other.get? f.name = some w ∧ w.same v = true := by
  obtain ⟨handle, st, cursor, row, hdatabase, hst, hrow, hother⟩ := Select.one_read h
  obtain ⟨p, hp⟩ := Select.byValue_stored hv hst
  obtain ⟨hlabels, hlength, hcells⟩ := hanswers handle hdatabase row (List.mem_of_mem_head? hrow)
  rw [hlabels] at hother
  have hload : Record.load m ((Select.ofModel m).labels.zip row) = .ok other := hother
  have hselected : f ∈ (Select.ofModel m).outputFields := List.mem_append_left _ hf
  have hlast := htell f hselected (hm.field_model hf)
  have hstands : (Select.ofModel m).standsFor f f = true :=
    (List.mem_filter.1 (List.mem_of_getLast? hlast)).2
  have hfields : ((Select.ofModel m).outputFields.zip row).map (·.1)
      = (Select.ofModel m).outputFields :=
    List.map_fst_zip (Nat.le_of_eq hlength.symm)
  -- The last cell whose label stands for the field is the cell of the field.
  obtain ⟨x, hlabelled, hown⟩ := Cells.last_picked ((Select.ofModel m).outputFields.zip row) hstands
    (hfields.symm ▸ hlast)
  have hcell := (List.mem_filter.1 (List.mem_of_getLast? hown)).1
  obtain ⟨w, hw⟩ : ∃ w, f.toApplication x = .ok w := by
    refine Record.load_converts hm.fieldNames_nodup hload (f.label, x) ?_ f (beq_iff_eq.1 hstands)
    rw [Select.labels_zip]
    exact List.mem_map.2 ⟨(f, x), hcell, rfl⟩
  obtain ⟨b, -, hvalue⟩ := Select.plain_get? (q := Select.ofModel m) hm.fieldNames_nodup hf hload
  rw [lastOr, Cells.picked_getLast? hlabelled hw] at hvalue
  exact ⟨w, hvalue, hkeeps.reads hv hp (hcells (f, x) hcell rfl p hp) hw⟩

end RecordMapper
