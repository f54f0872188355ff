/-
  RecordMapper.Proofs.Statement.Updated
  ────────────────────────────────
  **WHAT AN UPDATE ASSIGNS.**

  An update keeps the values that it was given under the keys that its caller used, and
  asks which fields they stand for when it is rendered.  A field that was given values
  under one key is assigned once, the last of them.  Under two keys it is assigned twice:
  the values stay apart, and the column stands in the statement once for each key.

  Main result: `assigned_once_iff_one_key`.
-/
import RecordMapper.Proofs.Query.Built
import RecordMapper.Proofs.Statement.Inserted

namespace RecordMapper

/-! ## §1. Given values and their assignments. -/

/-- **A field was given values under one key**, however often. -/
def Model.OneKey (m : Model) (given : List (String × Value)) (f : Field) : Prop :=
  ∀ a ∈ given, ∀ b ∈ given, m.Addresses a.1 f → m.Addresses b.1 f → a.1 = b.1

/-- **A statement assigns cells** to rows of the table of a model: those that meet the
condition. -/
structure Statement.Assigns (st : Statement) (d : Dialect) (m : Model) (cells : List (Field × Value))
    (condition : Statement) : Prop where
  sql : st.sql = Dialect.update m.table (Update.assignmentsSql d (cells.map (·.1))) condition.sql
  /-- Read as text, its assignments are one for each cell, of a placeholder to the column. -/
  text : st.text = "UPDATE " ++ m.table ++ " SET "
    ++ ", ".intercalate (cells.zipIdx.map fun (cell, i) =>
      d.columnRef ⟨.updateSet, false⟩ "" cell.1.column ++ " = " ++ d.placeholder .updateSet i)
    ++ (if condition.sql.isBlank then "" else " WHERE " ++ condition.text)
  /-- What the cells bind comes before what the condition binds. -/
  parameters : st.parameters = cells.map (·.2) ++ condition.parameters

namespace Update

variable {m : Model} {q : Update} {given : List (String × Value)} {d : Dialect} {f : Field}
  {v p : Value} {ps : List Value}

/-- **What an update was given**: values by calls that set them, one call after the other.
Conditions give no values. -/
inductive Given (m : Model) : Update → List (String × Value) → Prop
  | new : Given m (Update.new m) []
  | set {q : Update} {given : List (String × Value)} (h : Given m q given)
      (cells : List (String × Value)) : Given m (q.set cells) (given ++ cells)
  | restrict {q : Update} {given : List (String × Value)} (h : Given m q given) (c : Condition) :
      Given m (q.restrict c) given
  | filterBy {q q' : Update} {given : List (String × Value)} {filters : List (String × Operand)}
      (h : Given m q given) (hfilter : q.filterBy filters = .ok q') : Given m q' given

/-- **The values are kept under the keys of the caller.** -/
theorem Given.data_eq (h : Given m q given) : q.model = m ∧ q.data = Keyed.putAll [] given := by
  induction h with
  | new => exact ⟨rfl, rfl⟩
  | set _ cells ih =>
      obtain ⟨rfl, hdata⟩ := ih
      refine ⟨rfl, ?_⟩
      show Keyed.putAll _ cells = Keyed.putAll [] (_ ++ cells)
      rw [hdata]
      exact List.foldl_append.symm
  | restrict _ _ ih => exact ih
  | filterBy _ hfilter ih =>
      obtain ⟨conditions, -, hq⟩ := bind_ok.1 hfilter
      obtain rfl := pure_ok.1 hq
      exact ih

/-- The keys of what is kept are those that were given. -/
theorem Given.mem_keys (h : Given m q given) {key : String} :
    key ∈ q.data.keys ↔ ∃ cell ∈ given, cell.1 = key := by
  rw [h.data_eq.2, Keyed.mem_keys_putAll]
  simp [Keyed.keys]

theorem Given.keys_nodup (h : Given m q given) : q.data.keys.Nodup := by
  rw [h.data_eq.2]
  have hput : ∀ (cells : List (String × Value)) {l : Keyed Value}, l.keys.Nodup →
      (l.putAll cells).keys.Nodup := by
    intro cells
    induction cells with
    | nil => exact id
    | cons cell cells ih => exact fun hl => ih (Keyed.nodup_keys_put hl)
  exact hput given List.nodup_nil

/-! ## §2. The assignments to one field. -/

/-- **What is assigned to one field** is what is kept under the keys that stand for it. -/
theorem assigned_filter (hm : q.model.Registered) (hf : f ∈ q.model.fields) :
    q.assigned.filter (·.1.column == f.column)
      = ((sortedByKey q.data).filter fun kept => q.model.Addresses kept.1 f).map
        fun kept => (f, kept.2) := by
  -- Another field has another column.
  have hcell : ∀ kept : String × Value,
      ((q.model.field? kept.1).map (·, kept.2)).filter (·.1.column == f.column)
        = if decide (q.model.Addresses kept.1 f) = true then some (f, kept.2) else none := by
    intro kept
    simp only [decide_eq_true_eq, ← hm.field?_eq_some_iff]
    cases hfound : q.model.field? kept.1 with
    | none => simp
    | some g =>
        by_cases hsame : g = f
        · subst hsame
          simp
        · have hcolumn : g.column ≠ f.column := fun hcolumn =>
            hsame (hm.eq_of_column (Model.mem_of_field? hfound) hf hcolumn)
          simp [hsame, hcolumn]
  unfold assigned
  rw [List.filter_filterMap, ← List.filterMap_eq_map', List.filterMap_filter]
  exact List.filterMap_congr fun kept _ => hcell kept

theorem mem_assigned_iff (hm : q.model.Registered) (hgiven : Given m q given) :
    (f, v) ∈ q.assigned ↔ ∃ key, q.model.Addresses key f ∧ q.data.get? key = some v := by
  unfold assigned
  rw [List.mem_filterMap]
  constructor
  · rintro ⟨⟨key, u⟩, hmem, hcell⟩
    obtain ⟨g, hg, hpair⟩ := Option.map_eq_some_iff.1 hcell
    obtain ⟨rfl, rfl⟩ := Prod.mk.inj hpair
    exact ⟨key, hm.field?_eq_some_iff.1 hg, (Keyed.mem_sortedByKey_iff hgiven.keys_nodup).1 hmem⟩
  · rintro ⟨key, hkey, hget⟩
    refine ⟨(key, v), (Keyed.mem_sortedByKey_iff hgiven.keys_nodup).2 hget, ?_⟩
    show (q.model.field? key).map (·, v) = some (f, v)
    rw [hm.field?_eq_some_iff.2 hkey]
    rfl

/-- **A field is assigned once** exactly when it was given values under one key. -/
theorem assigned_once_iff (hm : q.model.Registered) (hgiven : Given q.model q given)
    (hlast : q.model.lastGiven? given f = some v) :
    BindsOnce q.assigned f v ↔ q.model.OneKey given f := by
  obtain ⟨key, hkey, hget⟩ := Model.exists_key_of_lastGiven? hlast
  rw [← hgiven.data_eq.2] at hget
  have hgivenKey : ∃ cell ∈ given, cell.1 = key := hgiven.mem_keys.1
    (List.mem_map_of_mem ((Keyed.get?_eq_some_iff hgiven.keys_nodup).1 hget))
  unfold BindsOnce
  rw [assigned_filter hm hkey.1]
  constructor
  · -- Two keys that stand for the field leave two values, of which the list has one.
    intro honce a ha b hb haf hbf
    obtain ⟨only, hlist, -⟩ := List.map_eq_singleton_iff.1 honce
    have hmem : ∀ cell ∈ given, q.model.Addresses cell.1 f → cell.1 = only.1 := by
      intro cell hcell hcellf
      obtain ⟨kept, hkept, hsame⟩ := List.mem_map.1 (hgiven.mem_keys.2 ⟨cell, hcell, rfl⟩)
      have hfiltered : kept ∈ (sortedByKey q.data).filter fun kept => q.model.Addresses kept.1 f :=
        List.mem_filter.2 ⟨(sorted_perm _ q.data).mem_iff.2 hkept, by simpa [hsame] using hcellf⟩
      rw [hlist, List.mem_singleton] at hfiltered
      rw [← hsame, hfiltered]
    rw [hmem a ha haf, hmem b hb hbf]
  · intro hkeys
    obtain ⟨cell, hcell, rfl⟩ := hgivenKey
    -- Of the keys that are kept, this one alone stands for the field.
    have honly : ∀ kept ∈ sortedByKey q.data,
        decide (q.model.Addresses kept.1 f) = (kept.1 == cell.1) := by
      intro kept hkept
      obtain ⟨other, hother, hsame⟩ := hgiven.mem_keys.1
        (List.mem_map_of_mem ((sorted_perm _ q.data).mem_iff.1 hkept))
      rw [Bool.eq_iff_iff, decide_eq_true_iff, beq_iff_eq, ← hsame]
      exact ⟨fun h => hkeys other hother cell hcell h hkey, fun h => h ▸ hkey⟩
    rw [List.filter_congr honly, Keyed.filter_key (Keyed.nodup_keys_sortedByKey hgiven.keys_nodup)
      ((Keyed.get?_sortedByKey hgiven.keys_nodup _).trans hget)]
    rfl

/-- A field is assigned the last value that it was given. -/
theorem last_mem_assigned (hm : q.model.Registered) (hgiven : Given q.model q given)
    (hlast : q.model.lastGiven? given f = some v) : (f, v) ∈ q.assigned := by
  obtain ⟨key, hkey, hget⟩ := Model.exists_key_of_lastGiven? hlast
  rw [← hgiven.data_eq.2] at hget
  exact (mem_assigned_iff hm hgiven).2 ⟨key, hkey, hget⟩

/-- **The assigned fields** are those that keys of given values stand for. -/
theorem assigned_fields_iff (hm : q.model.Registered) (hgiven : Given q.model q given) :
    (∃ v, (f, v) ∈ q.assigned) ↔ ∃ cell ∈ given, q.model.Addresses cell.1 f := by
  constructor
  · rintro ⟨v, hmem⟩
    obtain ⟨key, hkey, hget⟩ := (mem_assigned_iff hm hgiven).1 hmem
    obtain ⟨cell, hcell, rfl⟩ := hgiven.mem_keys.1
      (List.mem_map_of_mem ((Keyed.get?_eq_some_iff hgiven.keys_nodup).1 hget))
    exact ⟨cell, hcell, hkey⟩
  · intro hfield
    obtain ⟨v, hlast⟩ := Model.lastGiven?_isSome_iff.2 hfield
    exact ⟨v, last_mem_assigned hm hgiven hlast⟩

/-! ## §3. The statement. -/

section

variable (hps : q.assigned.mapM (fun cell => storedCell q.model cell.1 cell.2) = .ok ps)

include hps

/-- Each value that is assigned has its parameter at the same place. -/
theorem stored_cells :
    ((q.assigned.map (·.1)).zip ps).map (·.1) = q.assigned.map (·.1)
      ∧ ((q.assigned.map (·.1)).zip ps).map (·.2) = ps := by
  have hlength : (q.assigned.map (·.1)).length = ps.length := by
    rw [List.length_map, length_mapM_ok hps]
  exact ⟨List.map_fst_zip (Nat.le_of_eq hlength), List.map_snd_zip (Nat.le_of_eq hlength.symm)⟩

/-- The cells that are stored are for the assigned fields. -/
theorem stored_fields_iff :
    (∃ p, (f, p) ∈ (q.assigned.map (·.1)).zip ps) ↔ ∃ v, (f, v) ∈ q.assigned := by
  have hmem : ∀ cells : List (Field × Value), (∃ p, (f, p) ∈ cells) ↔ f ∈ cells.map (·.1) := by
    simp
  rw [hmem, hmem, (stored_cells hps).1]

/-- **A value that is assigned** is stored in its cell, which is the only one for the field exactly
when the value is the only one that is assigned. -/
theorem stored_once_iff (hcell : (f, v) ∈ q.assigned) :
    ∃ p, f.toStorage v = .ok p ∧ (f, p) ∈ (q.assigned.map (·.1)).zip ps
      ∧ (BindsOnce ((q.assigned.map (·.1)).zip ps) f p ↔ BindsOnce q.assigned f v) := by
  obtain ⟨p, hp⟩ := (zip_mapM_ok hps).2 _ hcell
  have hstored : f.toStorage v = .ok p := storedCell_ok ((zip_mapM_ok hps).1 _ hp)
  refine ⟨p, hstored, ?_, fun honce => ?_, fun honce => ?_⟩
  · rw [List.zip_map_left]
    exact List.mem_map_of_mem hp
  · -- As many cells are for the column as values are.
    have hfields : (((q.assigned.map (·.1)).zip ps).filter (·.1.column == f.column)).map (·.1)
        = (q.assigned.filter (·.1.column == f.column)).map (·.1) := by
      have hfilter : ∀ cells : List (Field × Value), (cells.filter (·.1.column == f.column)).map (·.1)
          = (cells.map (·.1)).filter (·.column == f.column) := by
        intro cells
        rw [List.filter_map]
        rfl
      rw [hfilter, hfilter, (stored_cells hps).1]
    rw [honce] at hfields
    obtain ⟨only, honly, -⟩ := List.map_eq_singleton_iff.1 hfields.symm
    have hmem : (f, v) ∈ q.assigned.filter (·.1.column == f.column) :=
      List.mem_filter.2 ⟨hcell, by simp⟩
    unfold BindsOnce
    rw [honly] at hmem ⊢
    rw [List.mem_singleton.1 hmem]
  · exact bindsOnce_of_stored hstored (mapM_ok_imp (fun _ _ => storedCell_ok) hps) honce

end

/-- **A failed assignment** is a validation failure: a NULL that the field cannot hold, or a
value that it does not take. -/
theorem storedCell_error {e : Failure} (h : storedCell m f v = .error e) : e.kind = .validation := by
  unfold storedCell at h
  split at h
  · obtain rfl := Except.error.inj h
    rfl
  · unfold Attribute.toStorage Attribute.blame at h
    split at h
    · cases h
    · obtain rfl := Except.error.inj h
      rfl

/-- **Values that cannot be assigned** fail the statement, each as a validation failure. -/
theorem statement_error (hcell : (f, v) ∈ q.assigned) (hnull : v.isNull = true)
    (hrequired : f.nullable = false) : ∃ e, q.statement d = .error e ∧ e.kind = .validation := by
  cases hstored : q.assigned.mapM fun cell => storedCell q.model cell.1 cell.2 with
  | ok ps =>
      obtain ⟨p, hp⟩ := (zip_mapM_ok hstored).2 _ hcell
      have hok := (zip_mapM_ok hstored).1 _ hp
      simp [storedCell, hnull, hrequired] at hok
  | error e =>
      obtain ⟨cell, -, hfailed⟩ := mapM_error hstored
      exact ⟨e, bind_error.2 (.inl hstored), storedCell_error hfailed⟩

/-- Assignments are listed with the numbers of their placeholders. -/
theorem text_assignmentsSql (d : Dialect) (fields : List Field) :
    (assignmentsSql d fields).text = ", ".intercalate (fields.zipIdx.map fun (field, i) =>
      d.columnRef ⟨.updateSet, false⟩ "" field.column ++ " = " ++ d.placeholder .updateSet i) := by
  have hpieces : ((fields.zip ((setting d).slots 0 fields.length)).map fun cell =>
        d.operation .eq ((setting d).column cell.1.toAttribute) [cell.2])
      = fields.zipIdx.map fun (field, i) => (Dialect.infixed
        (Sql.lit (d.columnRef ⟨.updateSet, false⟩ "" field.column)) " = "
        [d.slot .updateSet i] : Sql) := by
    rw [List.zipIdx_eq_zip_range', Setting.slots, List.zip_map_right, List.map_map]
    rfl
  have hfilled : ∀ a ∈ fields.zipIdx.map fun (field, i) => (Dialect.infixed
      (Sql.lit (d.columnRef ⟨.updateSet, false⟩ "" field.column)) " = " [d.slot .updateSet i] : Sql),
      a.isBlank = false := by
    intro a ha
    obtain ⟨cell, -, rfl⟩ := List.mem_map.1 ha
    simp [Sql.isBlank, Dialect.infixed, Sql.lit, Token.isBlank]
  show Sql.text (Sql.joined ", " ((fields.zip ((setting d).slots 0 fields.length)).map
    fun cell => d.operation .eq ((setting d).column cell.1.toAttribute) [cell.2])) = _
  rw [hpieces, Sql.text_joined _ hfilled, List.map_map]
  refine congrArg _ (List.map_congr_left fun cell _ => ?_)
  show Sql.text (Dialect.infixed _ _ _) = _
  unfold Dialect.infixed
  rw [Sql.text_append, Sql.text_append, Sql.text_lit, Sql.text_lit, Setting.text_slot]

/-- Two assignments stand side by side. -/
theorem assignmentsSql_cons_cons (f g : Field) (rest : List Field) :
    ∃ more : Sql, assignmentsSql .generic (f :: g :: rest)
      = .text f.column :: .text " = " :: .slot 0 "?" :: .text ", " :: .text g.column :: more := by
  have hfirst : Sql.isBlank [.text f.column, .text " = ", .slot 0 "?"] = false := by
    simp [Sql.isBlank, Token.isBlank]
  have hsecond : Sql.isBlank [.text g.column, .text " = ", .slot 1 "?"] = false := by
    simp [Sql.isBlank, Token.isBlank]
  show ∃ more, Sql.joined ", " ([.text f.column, .text " = ", .slot 0 "?"]
    :: [.text g.column, .text " = ", .slot 1 "?"] :: _) = _
  rw [Sql.joined_cons_cons hfirst]
  generalize List.map _ _ = others
  cases others with
  | nil => exact ⟨_, rfl⟩
  | cons other others =>
      rw [Sql.joined_cons_cons hsecond]
      exact ⟨_, rfl⟩

/-- **A rendered update** assigns cells, one for each value that is assigned: the field and what
is stored for the value. -/
theorem statement_assigns {st : Statement} (h : q.statement d = .ok st) :
    ∃ ps condition, q.assigned.mapM (fun cell => storedCell q.model cell.1 cell.2) = .ok ps
      ∧ st.Assigns d q.model ((q.assigned.map (·.1)).zip ps) condition := by
  obtain ⟨ps, condition, hps, -, hsql, hparameters⟩ := update_ok h
  refine ⟨ps, condition, hps, ?_⟩
  obtain ⟨hfields, hvalues⟩ := stored_cells hps
  generalize (q.assigned.map (·.1)).zip ps = cells at hfields hvalues
  rw [← hfields] at hsql
  rw [← hvalues] at hparameters
  refine ⟨hsql, ?_, hparameters⟩
  unfold Statement.text
  rw [hsql]
  unfold Dialect.update Sql.clause
  rw [Sql.text_append, Sql.text_append, Sql.text_lit, text_assignmentsSql, List.zipIdx_map,
    List.map_map]
  congr 1
  split
  · rfl
  · rw [Sql.text_append, Sql.text_lit]
    rfl

end Update

/-- **A column is assigned once exactly when its field was given values under one key.**  In
every dialect, an update that renders assigns to the columns of the fields that keys of given
values stand for, and to no others; each of these fields is assigned the storage form of the
last value that it was given; and no other value is assigned to it exactly when it was given
values under one key.  A NULL as the last value of a field that cannot hold it is a validation
failure. -/
theorem assigned_once_iff_one_key {m : Model} (hm : m.Registered) {q : Update}
    {given : List (String × Value)} (hgiven : Update.Given m q given) (d : Dialect) :
    (∀ st, q.statement d = .ok st → ∃ cells condition, st.Assigns d m cells condition
        ∧ (∀ f, (∃ p, (f, p) ∈ cells) ↔ ∃ cell ∈ given, m.Addresses cell.1 f)
        ∧ ∀ f v, m.lastGiven? given f = some v → ∃ p, f.toStorage v = .ok p ∧ (f, p) ∈ cells
          ∧ (BindsOnce cells f p ↔ m.OneKey given f))
      ∧ ∀ f v, m.lastGiven? given f = some v → v.isNull = true → f.nullable = false →
        ∃ e, q.statement d = .error e ∧ e.kind = .validation := by
  obtain ⟨rfl, -⟩ := hgiven.data_eq
  refine ⟨fun st hst => ?_, fun f v hlast hnull hrequired => ?_⟩
  · obtain ⟨ps, condition, hps, hassigns⟩ := Update.statement_assigns hst
    refine ⟨_, condition, hassigns, fun f => ?_, fun f v hlast => ?_⟩
    · rw [Update.stored_fields_iff hps, Update.assigned_fields_iff hm hgiven]
    · obtain ⟨p, hp, hcell, honce⟩ :=
        Update.stored_once_iff hps (Update.last_mem_assigned hm hgiven hlast)
      exact ⟨p, hp, hcell, honce.trans (Update.assigned_once_iff hm hgiven hlast)⟩
  · exact Update.statement_error (Update.last_mem_assigned hm hgiven hlast) hnull hrequired

namespace Sample

/-- An update that was given two nicknames under one key. -/
def renamed : Update :=
  ((Update.new player).set [("NICK", text "Bo")]).set [("NICK", text "Ann"), ("age", int 3)]

/-- What it was given. -/
def givenNames : List (String × Value) :=
  [("NICK", text "Bo")] ++ [("NICK", text "Ann"), ("age", int 3)]

theorem renamed_given : Update.Given player renamed givenNames :=
  (Update.Given.new.set [("NICK", text "Bo")]).set [("NICK", text "Ann"), ("age", int 3)]

end Sample

open Sample in
/-- The second nickname is assigned, and no player is left without an identifier. -/
theorem renamed_once : (∃ st cells condition, renamed.statement .generic = .ok st
      ∧ st.Assigns .generic player cells condition
      ∧ BindsOnce cells playerNickname (text "Ann") ∧ st.text = "UPDATE player SET nick = ?")
    ∧ ∃ e, ((Update.new player).set [("Id", .null)]).statement .generic = .error e
      ∧ e.kind = .validation := by
  constructor
  · obtain ⟨cells, condition, hassigns, -, hlast⟩ :=
      (assigned_once_iff_one_key player_registered renamed_given .generic).1 _ rfl
    obtain ⟨p, hp, -, honce⟩ := hlast playerNickname (text "Ann") (by decide +kernel)
    obtain rfl := Except.ok.inj hp
    refine ⟨_, cells, condition, rfl, hassigns, honce.2 ?_, by decide +kernel⟩
    unfold Model.OneKey
    decide +kernel
  · have hgiven := (Update.Given.new (m := player)).set [("Id", .null)]
    exact (assigned_once_iff_one_key player_registered hgiven .generic).2 playerId .null
      (by decide +kernel) rfl rfl

open Sample in
/-- **Not every column is assigned once**: a nickname under its name and another under its column
are both assigned, the one that was given first behind the other. -/
theorem not_every_column_assigned_once :
    ¬ ∀ m : Model, m.Registered → ∀ (q : Update) (given : List (String × Value)),
      Update.Given m q given → ∀ (d : Dialect) (st : Statement), q.statement d = .ok st →
      ∃ cells condition, st.Assigns d m cells condition
        ∧ ∀ f v, m.lastGiven? given f = some v →
          ∃ p, f.toStorage v = .ok p ∧ BindsOnce cells f p := by
  intro hevery
  have hgiven := (Update.Given.new (m := player)).set [("nickname", text "Ann"), ("NICK", text "Bo")]
  obtain ⟨cells, condition, hassigns, honce⟩ :=
    hevery player player_registered _ _ hgiven .generic _ rfl
  obtain ⟨p, -, honce⟩ := honce playerNickname (text "Bo") (by decide +kernel)
  -- The statement as it is written, and as it would be for one cell of the column.
  have hsql : [.text "UPDATE player SET ", .text "nick", .text " = ", .slot 0 "?", .text ", ",
      .text "nick", .text " = ", .slot 1 "?"]
      = Dialect.update "player" (Update.assignmentsSql .generic (cells.map (·.1))) condition.sql :=
    hassigns.sql
  rcases cells with - | ⟨cell, - | ⟨cell', rest⟩⟩
  · cases honce
  · -- Behind one assignment stands a condition or nothing, not a comma.
    have hfifth := congrArg (·[4]?) hsql
    unfold Dialect.update Sql.clause at hfifth
    split at hfifth
    · cases hfifth
    · exact absurd (Token.text.inj (Option.some.inj hfifth)) (by decide)
  · -- Two assignments are both to the column, which one cell was to be for.
    obtain ⟨more, hassignments⟩ :=
      Update.assignmentsSql_cons_cons cell.1 cell'.1 (rest.map (·.1))
    rw [List.map_cons, List.map_cons, hassignments] at hsql
    have hcolumn := Token.text.inj (Option.some.inj (congrArg (·[1]?) hsql))
    have hcolumn' := Token.text.inj (Option.some.inj (congrArg (·[5]?) hsql))
    have hlength := congrArg List.length honce
    simp [← hcolumn, ← hcolumn', playerNickname] at hlength

end RecordMapper
