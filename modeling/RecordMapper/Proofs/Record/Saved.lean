/-
  RecordMapper.Proofs.Record.Saved
  ────────────────────────────────
  **WHICH CHANGES OF A LOADED RECORD REACH ITS ROW.**

  Saving a loaded record runs at most one statement, an update of the row of its key that
  stores the dirty fields.  A field that was never set keeps what the row stores.  A field
  that was set is meant to store the last of the values set, and it does not always: a
  field is dirty when a value set was not the same as what the record was loaded with,
  and a record may be loaded with something else than the row stores.  One that was read
  without a field holds the default of the field, or nothing, which counts as NULL; one
  that was read with a NULL text holds the empty text.  To set the field to just that
  does not reach the row.

  Main result: `saved_field_iff`.  Where the record was loaded with what the row stores,
  every change reaches the row (`saved_field_of_mirrors`).
-/
import Mathlib.Data.List.Nodup
import RecordMapper.Proofs.Record.Faithful
import RecordMapper.Proofs.Record.RowUpdate
import RecordMapper.Proofs.Record.Saving

namespace RecordMapper

variable {servers servers' : Servers}

/-! ## §1. What a save writes. -/

/-- **What went to the database of a model**: nothing, or one update of a row of its table
by the primary key, in a transaction that was committed. -/
inductive Wrote (m : Model) (servers servers' : Servers) : Option RowUpdate → Prop
  | nothing (same : servers' = servers) : Wrote m servers servers' none
  | update {u : RowUpdate} {handle : Handle} {st : Statement} {fresh again : Bool} {serial : Nat}
      (table : u.table = m.table) (key : u.key = m.primaryKey)
      (database : m.database = some handle)
      (statement : u.statement (servers.backend handle).dialect = st)
      (others : ∀ other, other ≠ handle → servers'.backend other = servers.backend other)
      (calls : (servers'.backend handle).trace
        = (servers.backend handle).trace ++ writeCalls fresh again serial st.text st.parameters) :
      Wrote m servers servers' (some u)

/-- **The statement that was run** is the one that was written. -/
theorem Wrote.ran {m : Model} {update : Option RowUpdate} (h : Wrote m servers servers' update)
    {handle : Handle} (hdatabase : m.database = some handle) {serial : Nat} {text : String}
    {ps : List Value}
    (hran : ⟨.execute serial text ps, none⟩ ∈ (servers'.backend handle).trace)
    (hbefore : ⟨.execute serial text ps, none⟩ ∉ (servers.backend handle).trace) :
    ∃ u, update = some u ∧ (u.statement (servers.backend handle).dialect).text = text
      ∧ (u.statement (servers.backend handle).dialect).parameters = ps := by
  cases h with
  | nothing same =>
      rw [same] at hran
      exact absurd hran hbefore
  | @update u own st fresh again serial' _ _ database statement _ calls =>
      obtain rfl := Option.some.inj (hdatabase.symm.trans database)
      subst statement
      rw [calls, List.mem_append, or_iff_right hbefore] at hran
      -- Of the calls of a write one executes a statement.
      obtain ⟨-, htext, hparameters⟩ : serial = serial'
          ∧ text = (u.statement (servers.backend handle).dialect).text
          ∧ ps = (u.statement (servers.backend handle).dialect).parameters := by
        simpa [writeCalls] using hran
      exact ⟨u, rfl, htext.symm, hparameters.symm⟩

/-- What a row stores after what was written. -/
def Row.after (row : Row) : Option RowUpdate → Row
  | none => row
  | some u => u.apply row

namespace Record

/-- The row is the one of the record: it has its key. -/
def Finds (r : Record) (row : Row) : Prop :=
  ∃ key stored, r.key? = some key ∧ r.model.primaryKey.toStorage key = .ok stored
    ∧ (row r.model.primaryKey.column).same stored = true

/-- **A row update that stores the dirty fields** of the record in the row of its key. -/
structure Stores (r : Record) (u : RowUpdate) : Prop where
  key_eq : u.key = r.model.primaryKey
  value : ∃ key, r.key? = some key ∧ r.model.primaryKey.toStorage key = .ok u.value
  cells : ∀ cell ∈ u.cells, cell.1 ∈ r.model.fields ∧ cell.1.name ∈ r.dirty
    ∧ cell.1.toStorage (r.valueOf cell.1.name) = .ok cell.2
  covers : ∀ f ∈ r.model.fields, f.name ∈ r.dirty → ∃ stored, (f, stored) ∈ u.cells

variable {r saved : Record}

/-- **A save of a loaded record** that succeeds: its key is not NULL, and the update of the
dirty fields, if there are any, was run. -/
theorem save_ok (hstored : r.isNew = false) (h : r.save.run servers = (.ok saved, servers')) :
    ∃ key, r.key? = some key
      ∧ (r.dirty = [] ∧ servers' = servers
        ∨ ∃ n, (r.dirtyUpdate key).execute.run servers = (.ok n, servers')) := by
  cases saving_of_run h with
  | inserted new => rw [hstored] at new; cases new
  | keyed new => rw [hstored] at new; cases new
  | clean _ hkey hclean => exact ⟨_, hkey, .inl ⟨hclean, rfl⟩⟩
  | updated _ hkey hrun => exact ⟨_, hkey, .inr ⟨_, hrun⟩⟩

/-- What the update of the dirty fields assigns: to each its value. -/
theorem mem_assigned_dirtyUpdate (hnodup : r.dirty.Nodup) {key : Value} {f : Field} {v : Value} :
    (f, v) ∈ (r.dirtyUpdate key).assigned
      ↔ ∃ name ∈ r.dirty, r.model.field? name = some f ∧ v = r.valueOf name := by
  have hkeys : Keyed.keys r.changedValues = r.dirty := by
    unfold Keyed.keys changedValues
    rw [List.map_map]
    exact List.map_id _
  have hdata : (r.dirtyUpdate key).data = r.changedValues :=
    Keyed.putAll_eq_append (l := []) (by rwa [hkeys])
  unfold Update.assigned
  rw [hdata, List.mem_filterMap]
  constructor
  · rintro ⟨⟨name, w⟩, hmem, hfield⟩
    obtain ⟨name, hname, hpair⟩ := List.mem_map.1 ((sorted_perm _ _).mem_iff.1 hmem)
    cases hpair
    obtain ⟨g, hg, hpair⟩ := Option.map_eq_some_iff.1 hfield
    cases hpair
    exact ⟨name, hname, hg, rfl⟩
  · rintro ⟨name, hname, hfield, rfl⟩
    refine ⟨(name, r.valueOf name), (sorted_perm _ _).mem_iff.2 ?_, ?_⟩
    · exact List.mem_map.2 ⟨name, hname, rfl⟩
    · show (r.model.field? name).map (·, r.valueOf name) = _
      rw [hfield]
      rfl

/-- **A save writes nothing when no field is dirty, and else a row update that stores the
dirty fields.** -/
theorem save_wrote (hm : r.model.Registered) (hstored : r.isNew = false) (hnodup : r.dirty.Nodup)
    (hfields : ∀ name ∈ r.dirty, ∃ f ∈ r.model.fields, f.name = name)
    (h : r.save.run servers = (.ok saved, servers')) :
    ∃ update, Wrote r.model servers servers' update
      ∧ (update = none ∧ r.dirty = [] ∨ ∃ u, update = some u ∧ r.Stores u) := by
  obtain ⟨key, hkey, ⟨hclean, hsame⟩ | ⟨n, hrun⟩⟩ := save_ok hstored h
  · exact ⟨none, .nothing hsame, .inl ⟨rfl, hclean⟩⟩
  have hnull : key.isNull = false := by
    have hfilter := (Option.filter_eq_some_iff.1 hkey).2
    simpa using hfilter
  obtain ⟨handle, st, hdatabase, hst, hothers, fresh, again, serial, htrace⟩ := executeChange_ok hrun
  obtain ⟨ps, stored, hps, hvalue, hrow⟩ :=
    Update.statement_row (q := r.dirtyUpdate key) rfl hnull hst
  refine ⟨_, .update rfl rfl hdatabase hrow.symm hothers htrace,
    .inr ⟨_, rfl, rfl, ⟨key, hkey, hvalue⟩, ?_, ?_⟩⟩
  · -- A cell holds the storage form of what is assigned to its field.
    intro cell hcell
    obtain ⟨hsteps, _⟩ := zip_mapM_ok hps
    rw [List.zip_map_left] at hcell
    obtain ⟨⟨⟨f, v⟩, p⟩, hmem, rfl⟩ := List.mem_map.1 hcell
    obtain ⟨name, hname, hfield, rfl⟩ :=
      (mem_assigned_dirtyUpdate hnodup).1 (List.of_mem_zip hmem).1
    have hf := Model.mem_of_field? hfield
    obtain ⟨g, hg, rfl⟩ := hfields name hname
    obtain rfl := Option.some.inj (hfield.symm.trans (Model.field?_name hm.fieldNames_nodup hg))
    exact ⟨hf, hname, Update.storedCell_ok (hsteps _ hmem)⟩
  · intro f hf hname
    have hassigned : (f, r.valueOf f.name) ∈ (r.dirtyUpdate key).assigned :=
      (mem_assigned_dirtyUpdate hnodup).2
        ⟨f.name, hname, Model.field?_name hm.fieldNames_nodup hf, rfl⟩
    obtain ⟨p, hp⟩ := (zip_mapM_ok hps).2 _ hassigned
    refine ⟨p, ?_⟩
    rw [List.zip_map_left]
    exact List.mem_map.2 ⟨_, hp, rfl⟩

/-! ## §2. What a row update stores. -/

namespace Stores

variable {u : RowUpdate} {row : Row} {f : Field}

/-- A field that is not dirty keeps what the row stores. -/
theorem apply_clean (h : r.Stores u) (hm : r.model.Registered) (hf : f ∈ r.model.fields)
    (hclean : f.name ∉ r.dirty) : u.apply row f.column = row f.column := by
  refine RowUpdate.apply_of_notMem fun cell hcell hcolumn => hclean ?_
  obtain ⟨hmem, hdirty, _⟩ := h.cells cell hcell
  rw [← List.inj_on_of_nodup_map hm.columns_nodup hmem hf hcolumn]
  exact hdirty

/-- **A dirty field stores what the record holds**, in the row of the record. -/
theorem apply_dirty (h : r.Stores u) (hm : r.model.Registered) (hf : f ∈ r.model.fields)
    (hdirty : f.name ∈ r.dirty) (hfinds : u.Finds row) :
    f.toStorage (r.valueOf f.name) = .ok (u.apply row f.column) := by
  obtain ⟨stored, hcell⟩ := h.covers f hf hdirty
  have hstored := (h.cells _ hcell).2.2
  -- Every cell for the column of the field is for the field, and stores the same.
  have happly : u.apply row f.column = stored := by
    refine RowUpdate.apply_of_mem hfinds ⟨_, hcell, rfl⟩ fun cell hmem hcolumn => ?_
    obtain ⟨hfield, _, hvalue⟩ := h.cells cell hmem
    rw [List.inj_on_of_nodup_map hm.columns_nodup hfield hf hcolumn] at hvalue
    exact Except.ok.inj (hvalue.symm.trans hstored)
  rw [happly]
  exact hstored

/-- The row that is updated is the one of the record. -/
theorem finds_iff (h : r.Stores u) : u.Finds row ↔ r.Finds row := by
  obtain ⟨key, hkey, hvalue⟩ := h.value
  unfold RowUpdate.Finds Record.Finds
  rw [h.key_eq]
  constructor
  · exact fun hsame => ⟨key, u.value, hkey, hvalue, hsame⟩
  · rintro ⟨key', stored, hkey', hstored, hsame⟩
    obtain rfl := Option.some.inj (hkey.symm.trans hkey')
    obtain rfl := Except.ok.inj (hvalue.symm.trans hstored)
    exact hsame

end Stores

/-! ## §3. Changes of a loaded record. -/

/-- What was assigned to a field is an application form of it, and has a storage form. -/
theorem toStorage_of_mem_assignedTo {m : Model} (hm : m.Registered) {f : Field}
    (hf : f ∈ m.fields) {changes : List (String × Value)} {w : Value}
    (hw : w ∈ assignedTo m changes f.name) : ∃ stored, f.toStorage w = .ok stored := by
  obtain ⟨_, _, g, hg, hname, hconverted⟩ := of_mem_assignedTo hw
  obtain rfl := Model.eq_of_name hm.fieldNames_nodup (Model.mem_of_field? hg) hf hname
  exact Attribute.toStorage_total hconverted

section

variable {m : Model} (hm : m.Registered) {loaded changed : Record} (hloaded : Loaded m loaded)
  {changes : List (String × Value)}
  (hkeys : ∀ change ∈ changes, m.field? change.1 ≠ some m.primaryKey)
  (hset : loaded.setAll changes = .ok changed)

include hm hkeys

/-- The primary key is not assigned. -/
theorem assignedTo_primaryKey : assignedTo m changes m.primaryKey.name = [] := by
  refine List.eq_nil_iff_forall_not_mem.2 fun w hw => ?_
  obtain ⟨change, hchange, f, hf, hname, _⟩ := of_mem_assignedTo hw
  have hkey := Model.eq_of_name hm.fieldNames_nodup (Model.mem_of_field? hf) hm.primaryKey_mem hname
  exact hkeys change hchange (hkey ▸ hf)

include hloaded hset

/-- **A field is dirty when a value set differs** from what the record was loaded with. -/
theorem mem_dirty_iff (name : String) :
    name ∈ changed.dirty ↔ (loaded.valueOf name).Differs (assignedTo m changes name) := by
  have htracks := setAll_tracks hm hloaded hset
  rw [htracks.mem_dirty, hloaded.model_eq]
  refine and_iff_right_of_imp ?_
  rintro ⟨w, hw, _⟩ rfl
  rw [assignedTo_primaryKey hm hkeys] at hw
  cases hw

/-- The changed record is in the row of the loaded one. -/
theorem finds_changed_iff {row : Row} : changed.Finds row ↔ loaded.Finds row := by
  have htracks := setAll_tracks hm hloaded hset
  have hkey : changed.key? = loaded.key? := by
    unfold key?
    rw [htracks.model_eq, htracks.get?_eq, hloaded.model_eq, assignedTo_primaryKey hm hkeys]
    rfl
  unfold Finds
  rw [hkey, htracks.model_eq]

/-- **What the row stores after a save**: the last value set, in the row of the record and
for a field of which a value set differs from what the record was loaded with; for all
others what it stored before. -/
theorem saved_row (hsave : changed.save.run servers = (.ok saved, servers')) :
    ∃ update, Wrote m servers servers' update ∧ ∀ (row : Row), ∀ f ∈ m.fields,
      ((loaded.valueOf f.name).Differs (assignedTo m changes f.name) ∧ loaded.Finds row →
          f.toStorage (changed.valueOf f.name) = .ok (row.after update f.column))
        ∧ (¬ ((loaded.valueOf f.name).Differs (assignedTo m changes f.name) ∧ loaded.Finds row) →
          row.after update f.column = row f.column) := by
  have htracks := setAll_tracks hm hloaded hset
  have hmodel : changed.model = m := htracks.model_eq.trans hloaded.model_eq
  have hfields : ∀ name ∈ changed.dirty, ∃ f ∈ changed.model.fields, f.name = name := by
    intro name hname
    obtain ⟨w, hw, _⟩ := (mem_dirty_iff hm hloaded hkeys hset name).1 hname
    obtain ⟨_, _, f, hf, hname, _⟩ := of_mem_assignedTo hw
    exact ⟨f, hmodel ▸ Model.mem_of_field? hf, hname⟩
  obtain ⟨update, hwrote, hupdate⟩ :=
    save_wrote (hmodel ▸ hm) htracks.stored htracks.nodup hfields hsave
  refine ⟨update, hmodel ▸ hwrote, fun row f hf => ?_⟩
  rw [← mem_dirty_iff hm hloaded hkeys hset, ← finds_changed_iff hm hloaded hkeys hset]
  rcases hupdate with ⟨rfl, hclean⟩ | ⟨u, rfl, hstores⟩
  · refine ⟨fun ⟨hdirty, _⟩ => ?_, fun _ => rfl⟩
    rw [hclean] at hdirty
    cases hdirty
  · rw [← hstores.finds_iff]
    refine ⟨fun ⟨hdirty, hfinds⟩ => ?_, fun hkept => ?_⟩
    · exact hstores.apply_dirty (hmodel ▸ hm) (hmodel ▸ hf) hdirty hfinds
    · show u.apply row f.column = row f.column
      by_cases hfinds : u.Finds row
      · exact hstores.apply_clean (hmodel ▸ hm) (hmodel ▸ hf) fun hdirty => hkept ⟨hdirty, hfinds⟩
      · rw [RowUpdate.apply_of_not_finds hfinds]

end

end Record

/-- **A field that was set stores the last value set exactly when one of the values set was
not the same as what the record was loaded with, or when the row stored that value
already.**  A field that was not set keeps what the row stored. -/
theorem Select.saved_field_iff {q : Select} (hmodel : q.model.Registered) {source : Handle}
    {cursor : Cursor} {labels : List String} {read : List Value} {loaded : Record}
    (hloaded : (Result.new q.model source cursor q.isNaive q.outputFields).materialize labels read
      = .ok loaded)
    {changes : List (String × Value)}
    (hkeys : ∀ change ∈ changes, q.model.field? change.1 ≠ some q.model.primaryKey)
    {changed : Record} (hset : loaded.setAll changes = .ok changed) {saved : Record}
    (hsave : changed.save.run servers = (.ok saved, servers')) :
    ∃ update, Wrote q.model servers servers' update ∧ ∀ (row : Row), ∀ f ∈ q.model.fields,
      (Record.assignedTo q.model changes f.name = [] → row.after update f.column = row f.column)
        ∧ ∀ w, (Record.assignedTo q.model changes f.name).getLast? = some w →
          ∃ stored, f.toStorage w = .ok stored
            ∧ ((row.after update f.column).Alike stored
              ↔ (loaded.valueOf f.name).Differs (Record.assignedTo q.model changes f.name)
                  ∧ loaded.Finds row
                ∨ (row f.column).Alike stored) := by
  have hstart : Record.Loaded q.model loaded := Record.materialize_loaded hloaded
  obtain ⟨update, hwrote, hrows⟩ := Record.saved_row hmodel hstart hkeys hset hsave
  refine ⟨update, hwrote, fun row f hf => ?_⟩
  obtain ⟨hwritten, hkept⟩ := hrows row f hf
  refine ⟨fun hunset => hkept ?_, fun w hlast => ?_⟩
  · rintro ⟨⟨w, hw, _⟩, _⟩
    rw [hunset] at hw
    cases hw
  have hheld := Record.setAll_valueOf hmodel hstart hset hlast
  rw [hheld] at hwritten
  obtain ⟨stored, hstored⟩ :=
    Record.toStorage_of_mem_assignedTo hmodel hf (List.mem_of_getLast? hlast)
  refine ⟨stored, hstored, ?_⟩
  by_cases hchanged : (loaded.valueOf f.name).Differs (Record.assignedTo q.model changes f.name)
      ∧ loaded.Finds row
  · rw [Except.ok.inj ((hwritten hchanged).symm.trans hstored)]
    exact iff_of_true (.inl rfl) (.inl hchanged)
  · rw [hkept hchanged]
    exact (or_iff_right hchanged).symm

/-! ## §4. Fields that were read. -/

/-- **The record holds what the row stores in a field**: the value reads as the one that
the record holds, it is stored as the field stores values, and it is neither a NULL that
reads as a text nor a zero of floating point. -/
structure Record.Mirrors (r : Record) (row : Row) (f : Field) : Prop where
  held : f.toApplication (row f.column) = .ok (r.valueOf f.name)
  stored : (row f.column).isNull = false → ∃ v, f.toStorage v = .ok (row f.column)
  absent : (row f.column).isNull = true → f.kind.absent.isNull = true
  nonzero : ∀ x, r.valueOf f.name = .float64 (some x) → x.isZero = false

/-- What the record holds is stored as the row stores it. -/
theorem Record.Mirrors.toStorage {r : Record} {row : Row} {f : Field} (h : r.Mirrors row f) :
    ∃ stored, f.toStorage (r.valueOf f.name) = .ok stored ∧ (row f.column).Alike stored := by
  have hheld := Attribute.blame_ok.1 h.held
  cases hnull : (row f.column).isNull with
  | true =>
      have habsent := h.absent hnull
      unfold Kind.toApplication at hheld
      rw [if_pos hnull] at hheld
      rw [← Except.ok.inj hheld]
      exact ⟨f.kind.empty, Attribute.blame_ok.2 (Kind.toStorage_of_isNull habsent),
        .inr ⟨hnull, Kind.isNull_empty f.kind⟩⟩
  | false =>
      obtain ⟨v, hv⟩ := h.stored hnull
      have hstored := Kind.toStorage_of_stored (Attribute.blame_ok.1 hv) hnull hheld
      exact ⟨row f.column, Attribute.blame_ok.2 hstored, .inl rfl⟩

/-- **Where the record holds what the row stores, the last value set reaches the row.** -/
theorem Record.saved_field_of_mirrors {m : Model} (hm : m.Registered) {loaded changed saved : Record}
    (hloaded : Record.Loaded m loaded) {changes : List (String × Value)}
    (hkeys : ∀ change ∈ changes, m.field? change.1 ≠ some m.primaryKey)
    (hset : loaded.setAll changes = .ok changed)
    (hsave : changed.save.run servers = (.ok saved, servers')) :
    ∃ update, Wrote m servers servers' update ∧ ∀ (row : Row), loaded.Finds row →
      ∀ f ∈ m.fields, loaded.Mirrors row f →
        ∀ w, (assignedTo m changes f.name).getLast? = some w →
          ∃ stored, f.toStorage w = .ok stored ∧ (row.after update f.column).Alike stored := by
  obtain ⟨update, hwrote, hrows⟩ := saved_row hm hloaded hkeys hset hsave
  refine ⟨update, hwrote, fun row hfinds f hf hmirrors w hlast => ?_⟩
  obtain ⟨hwritten, hkept⟩ := hrows row f hf
  have hw := List.mem_of_getLast? hlast
  obtain ⟨stored, hstored⟩ := toStorage_of_mem_assignedTo hm hf hw
  refine ⟨stored, hstored, ?_⟩
  by_cases hdiffers : (loaded.valueOf f.name).Differs (assignedTo m changes f.name)
  · have hreaches := hwritten ⟨hdiffers, hfinds⟩
    rw [setAll_valueOf hm hloaded hset hlast] at hreaches
    exact .inl (Except.ok.inj (hreaches.symm.trans hstored))
  -- Every value set is the same as what the record was loaded with, so it is what the row
  -- stores already.
  · have hsame : (loaded.valueOf f.name).same w = true := by
      cases hsame : (loaded.valueOf f.name).same w with
      | true => rfl
      | false => exact absurd ⟨w, hw, hsame⟩ hdiffers
    obtain ⟨before, hbefore, halike⟩ := hmirrors.toStorage
    have hequal : f.toStorage (loaded.valueOf f.name) = f.toStorage w :=
      congrArg f.toAttribute.blame (Kind.toStorage_eq_of_same hsame hmirrors.nonzero)
    rw [hkept fun hboth => hdiffers hboth.1,
      ← Except.ok.inj (hbefore.symm.trans (hequal.trans hstored))]
    exact halike

/-! ## §5. A task read by its key alone. -/

namespace Sample

/-- The primary key of a task. -/
def taskId : Field := { field "Task" "task" "id" .integer 6 with primary := true }

/-- The status of a task, which starts as new. -/
def taskStatus : Field :=
  { field "Task" "task" "status" (.varchar 20) 7 with default := some (text "new") }

/-- The number of the owner of a task, if it has one. -/
def taskOwner : Field := { field "Task" "task" "owner" .integer 8 with nullable := true }

/-- **Tasks.** -/
def task : Model where
  id := 2
  name := "Task"
  table := "task"
  database := some ⟨0⟩
  autoIncrement := false
  ordering := []
  orderingNames := []
  fields := [taskId, taskStatus, taskOwner]
  primaryKey := taskId
  relations := []

/-- The declarations of a task. -/
def taskPlan : Blueprint :=
  { Blueprint.named "Task" with
    database := some ⟨0⟩
    fields := [("id", { Definition.ofKind 6 .integer with primary := true }),
      ("status", { Definition.ofKind 7 (.varchar 20) with default := some (text "new") }),
      ("owner", { Definition.ofKind 8 .integer with nullable := true })] }

theorem task_built : taskPlan.build 2 = .ok task := rfl

theorem task_registered : task.Registered :=
  .mk task_built fun _ h => nomatch h

/-- The keys of all tasks. -/
def taskKeys : Select := { Select.new task with fields := [taskId] }

theorem taskKeys_built : taskKeys.Built [] :=
  .call .empty (.select [.name "id"]) (.bare task) rfl rfl

/-- The row of a task that is done and has an owner. -/
def doneRow : Row := fun column =>
  if column = "id" then int 1 else if column = "status" then text "done"
  else if column = "owner" then int 7 else .null

/-- The record of that row when only the key is read: it holds the default status. -/
def bareTask : Record := ⟨task, [("status", text "new"), ("id", int 1)], [], false, []⟩

theorem bareTask_loaded : (Result.new taskKeys.model ⟨0⟩ ⟨0, [], [], none, 0⟩ taskKeys.isNaive
    taskKeys.outputFields).materialize ["id"] [int 1] = .ok bareTask := rfl

/-- The record once it is reopened. -/
def reopened : Record :=
  ⟨task, [("status", text "open"), ("id", int 1), ("owner", .int64 none)], [], false, ["status"]⟩

theorem reopened_set :
  bareTask.setAll [("status", text "open"), ("owner", .null)] = .ok reopened := rfl

theorem reopened_saved : (reopened.save.run Servers.initial).1 = .ok reopened.settled := rfl

end Sample

open Sample in
/-- One update is run, of the status alone: the task is open afterwards, and it has its owner
still. -/
theorem reopened_row : ∃ u,
    Wrote task Servers.initial (reopened.save.run Servers.initial).2 (some u)
      ∧ (u.statement .generic).text = "UPDATE task SET status = ? WHERE (id = ?)"
      ∧ (u.statement .generic).parameters = [text "open", int 1]
      ∧ (doneRow.after (some u) "status").Alike (text "open")
      ∧ ¬ (doneRow.after (some u) "owner").Alike (.int64 none) := by
  have hkeys : ∀ change ∈ [("status", text "open"), ("owner", Value.null)],
      task.field? change.1 ≠ some task.primaryKey := by
    decide +kernel
  have hsave : reopened.save.run Servers.initial
      = (.ok reopened.settled, (reopened.save.run Servers.initial).2) :=
    Prod.ext reopened_saved rfl
  obtain ⟨update, hwrote, hrows⟩ := Select.saved_field_iff (q := taskKeys) task_registered
    bareTask_loaded hkeys reopened_set hsave
  have hran : ⟨.execute 0 "UPDATE task SET status = ? WHERE (id = ?)" [text "open", int 1], none⟩
      ∈ ((reopened.save.run Servers.initial).2.backend ⟨0⟩).trace := by
    decide +kernel
  obtain ⟨u, rfl, htext, hparameters⟩ := hwrote.ran rfl hran nofun
  refine ⟨u, hwrote, htext, hparameters, ?_, ?_⟩
  · obtain ⟨stored, hstored, hstatus⟩ := (hrows doneRow taskStatus (by decide)).2 (text "open") rfl
    obtain rfl : text "open" = stored := Except.ok.inj hstored
    have hfinds : bareTask.Finds doneRow := ⟨int 1, int 1, rfl, rfl, rfl⟩
    exact hstatus.2 (.inl ⟨⟨text "open", by decide +kernel, by decide +kernel⟩, hfinds⟩)
  · obtain ⟨stored, hstored, howner⟩ := (hrows doneRow taskOwner (by decide)).2 (.int64 none) rfl
    obtain rfl : .int64 none = stored := Except.ok.inj hstored
    intro halike
    -- No owner was read, which counts as NULL, so to set it to NULL changes nothing.
    rcases howner.1 halike with ⟨⟨w, hw, hdiffers⟩, _⟩ | hbefore
    · obtain rfl := List.mem_singleton.1 (show w ∈ [.int64 none] from hw)
      exact absurd hdiffers (by decide +kernel)
    · revert hbefore
      decide +kernel

open Sample in
/-- **Not every change is saved**: a task that was read by its key alone, and is set to the
status that new tasks have, stays in the status that it has. -/
theorem not_every_change_saved :
    ¬ ∀ (q : Select) (passed : List Condition), q.Built passed → q.model.Registered →
      q.model.primaryKey ∈ q.outputFields → ∀ (row : Row) (read : List Value),
        read.length = q.outputFields.length →
        (∀ cell ∈ q.outputFields.zip read, cell.1.model = q.model.name →
          cell.2 = row cell.1.column) →
        ∀ (source : Handle) (cursor : Cursor) (loaded : Record),
        (Result.new q.model source cursor q.isNaive q.outputFields).materialize
            (q.outputFields.map (·.column)) read = .ok loaded →
        ∀ changes : List (String × Value),
        (∀ change ∈ changes, q.model.field? change.1 ≠ some q.model.primaryKey) →
        ∀ changed : Record, loaded.setAll changes = .ok changed →
        ∀ (servers servers' : Servers) (saved : Record),
        changed.save.run servers = (.ok saved, servers') →
        ∀ update, Wrote q.model servers servers' update →
        ∀ f ∈ q.model.fields, ∀ w, (Record.assignedTo q.model changes f.name).getLast? = some w →
          ∃ stored, f.toStorage w = .ok stored ∧ (row.after update f.column).Alike stored := by
  intro hsaved
  have hkeys : ∀ change ∈ [("status", text "new")], task.field? change.1 ≠ some task.primaryKey := by
    decide +kernel
  obtain ⟨stored, hstored, halike⟩ := hsaved taskKeys [] taskKeys_built task_registered (by decide)
    doneRow [int 1] rfl (by decide +kernel) ⟨0⟩ ⟨0, [], [], none, 0⟩ bareTask bareTask_loaded
    [("status", text "new")] hkeys bareTask rfl Servers.initial Servers.initial bareTask.settled rfl
    none (.nothing rfl) taskStatus (by decide) (text "new") rfl
  obtain rfl : text "new" = stored := Except.ok.inj hstored
  revert halike
  decide +kernel

end RecordMapper
