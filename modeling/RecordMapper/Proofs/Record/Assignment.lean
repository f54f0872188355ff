/-
  RecordMapper.Proofs.Record.Assignment
  ────────────────────────────────
  **THE LAST ASSIGNMENT WINS.**

  Fields are assigned one after the other, each in its application form.  After a
  list of assignments a field holds what the last one to it wrote, or what it held
  before when there was none.  A record that is read from a row is filled in that
  way: first come the defaults of its model, and then the cells of the row.

  Main results: `setAll_get?`, `load_get?`, and `setAll_total`, `load_total`, which
  say when the assignments succeed.
-/
import RecordMapper.Proofs.Schema.Registered
import RecordMapper.Record.Basic

namespace RecordMapper

/-! ## §1. The last of some writes. -/

/-- What is kept after writes: the last one, or what was there before. -/
def lastOr {α : Type} (writes : List α) (before : Option α) : Option α :=
  writes.getLast?.or before

namespace lastOr

variable {α : Type} (before : Option α)

/-- Where nothing was before, it is the last one. -/
theorem to_none (writes : List α) : lastOr writes none = writes.getLast? :=
  Option.or_none

/-- The first write is what is there before the others. -/
theorem cons (w : α) (writes : List α) : lastOr (w :: writes) before = lastOr writes (some w) := by
  unfold lastOr
  rw [List.getLast?_cons]
  cases writes.getLast? <;> rfl

theorem append (writes later : List α) :
    lastOr (writes ++ later) before = lastOr later (lastOr writes before) := by
  unfold lastOr
  rw [List.getLast?_append]
  cases later.getLast? <;> rfl

/-- A value that was there stays exactly when the last write, if there is one, wrote
the same. -/
theorem some_iff (writes : List α) (w : α) :
    lastOr writes (some w) = some w ↔ ∀ u, writes.getLast? = some u → u = w := by
  unfold lastOr
  cases writes.getLast? with
  | none => simp
  | some u => simp

end lastOr

namespace Record

/-! ## §2. Assigning fields. -/

/-- **What an assignment writes to the field `name`**: the application form of its
value, when it is that field that it assigns. -/
def assigned? (m : Model) (name : String) (cell : String × Value) : Option Value :=
  (m.field? cell.1).bind fun f => if f.name = name then (f.toApplication cell.2).toOption else none

/-- An assignment writes to the field of that name, and the application form. -/
theorem assigned?_eq_some {m : Model} {name : String} {cell : String × Value} {w : Value} :
    assigned? m name cell = some w
      ↔ ∃ f, m.field? cell.1 = some f ∧ f.name = name ∧ f.toApplication cell.2 = .ok w := by
  unfold assigned?
  rw [Option.bind_eq_some_iff]
  refine exists_congr fun f => and_congr_right fun _ => ?_
  by_cases hname : f.name = name
  · rw [if_pos hname, and_iff_right hname]
    cases f.toApplication cell.2 <;> simp [Except.toOption]
  · rw [if_neg hname]
    exact iff_of_false (Option.some_ne_none w).symm fun h => hname h.1

/-- An assignment of a value that converts, to a field that is known. -/
theorem assigned?_of_field {m : Model} {cell : String × Value} {f : Field} {w : Value}
    (hf : m.field? cell.1 = some f) (hw : f.toApplication cell.2 = .ok w) (name : String) :
    assigned? m name cell = if f.name = name then some w else none := by
  unfold assigned?
  rw [hf, Option.bind_some, hw]
  rfl

/-- **One assignment** finds its field and converts the value; the record takes it, and
keeps its model and the attached records. -/
theorem set_ok {r r' : Record} {name : String} {v : Value} (h : r.set name v = .ok r') :
    ∃ f w, r.model.field? name = some f ∧ f.toApplication v = .ok w
      ∧ r' = { r with values := r.values.put f.name w, dirty := r.dirtyAfter f w } := by
  unfold set at h
  obtain ⟨f, hf, h⟩ := bind_ok.1 h
  obtain ⟨w, hw, h⟩ := bind_ok.1 h
  refine ⟨f, w, ?_, hw, (pure_ok.1 h).symm⟩
  unfold Model.field at hf
  cases hfield : r.model.field? name with
  | none =>
      rw [hfield] at hf
      cases hf
  | some g =>
      rw [hfield] at hf
      rw [Except.ok.inj hf]

/-- An assignment succeeds when there is such a field and the value converts. -/
theorem set_total {r : Record} {name : String} {v w : Value} {f : Field}
    (hf : r.model.field? name = some f) (hw : f.toApplication v = .ok w) :
    ∃ r', r.set name v = .ok r' := by
  refine ⟨{ r with values := r.values.put f.name w, dirty := r.dirtyAfter f w }, ?_⟩
  unfold set
  refine bind_ok.2 ⟨f, ?_, bind_ok.2 ⟨w, hw, rfl⟩⟩
  unfold Model.field
  rw [hf]

/-- What one assignment does to the field `name`. -/
theorem set_get? {r r' : Record} {cell : String × Value} (h : r.set cell.1 cell.2 = .ok r')
    (name : String) :
    r'.model = r.model
      ∧ r'.values.get? name = lastOr (assigned? r.model name cell).toList (r.values.get? name) := by
  obtain ⟨f, w, hf, hw, rfl⟩ := set_ok h
  refine ⟨rfl, ?_⟩
  rw [assigned?_of_field hf hw]
  by_cases hname : f.name = name
  · rw [if_pos hname, ← hname]
    exact Keyed.get?_put_self _ _ _
  · rw [if_neg hname]
    exact Keyed.get?_put_of_ne _ _ (Ne.symm hname)

/-- The first assignment, and then the others. -/
theorem setAll_cons_ok {r r' : Record} {cell : String × Value} {cells : List (String × Value)} :
    r.setAll (cell :: cells) = .ok r'
      ↔ ∃ between, r.set cell.1 cell.2 = .ok between ∧ between.setAll cells = .ok r' := by
  unfold setAll
  rw [List.foldlM_cons]
  exact bind_ok

/-- **The last assignment wins.** -/
theorem setAll_get? : ∀ {cells : List (String × Value)} {r r' : Record},
    r.setAll cells = .ok r' → r'.model = r.model ∧ ∀ name,
      r'.values.get? name
        = lastOr (cells.filterMap (assigned? r.model name)) (r.values.get? name)
  | [], r, r', h => by
      obtain rfl := pure_ok.1 h
      exact ⟨rfl, fun _ => rfl⟩
  | cell :: cells, r, r', h => by
      obtain ⟨r₁, hfirst, hrest⟩ := setAll_cons_ok.1 h
      -- The induction is on the assignments, with the record general: the first write is
      -- what is there before the others.
      obtain ⟨hmodel, hvalues⟩ := setAll_get? (r := r₁) hrest
      refine ⟨hmodel.trans (set_get? hfirst cell.1).1, fun name => ?_⟩
      obtain ⟨hmodel₁, hvalue₁⟩ := set_get? hfirst name
      rw [hvalues name, hmodel₁, hvalue₁, List.filterMap_cons]
      cases assigned? r.model name cell with
      | none => rfl
      | some w => exact (lastOr.cons _ _ _).symm

/-- **Assignments succeed** when each finds its field and its value converts. -/
theorem setAll_total : ∀ {cells : List (String × Value)} {r : Record},
    (∀ cell ∈ cells, ∃ f w, r.model.field? cell.1 = some f ∧ f.toApplication cell.2 = .ok w) →
      ∃ r', r.setAll cells = .ok r'
  | [], r, _ => ⟨r, rfl⟩
  | cell :: cells, r, h => by
      obtain ⟨f, w, hf, hw⟩ := h cell List.mem_cons_self
      obtain ⟨r₁, hfirst⟩ := set_total hf hw
      have hmodel : r₁.model = r.model := (set_get? hfirst cell.1).1
      obtain ⟨r', hrest⟩ : ∃ r', r₁.setAll cells = .ok r' :=
        setAll_total fun c hc => hmodel ▸ h c (List.mem_cons_of_mem _ hc)
      exact ⟨r', setAll_cons_ok.2 ⟨r₁, hfirst, hrest⟩⟩

/-- Assignments that succeed found their fields, and the values converted. -/
theorem setAll_converts : ∀ {cells : List (String × Value)} {r r' : Record},
    r.setAll cells = .ok r' →
      ∀ cell ∈ cells, ∃ f w, r.model.field? cell.1 = some f ∧ f.toApplication cell.2 = .ok w
  | [], _, _, _, _, hcell => nomatch hcell
  | first :: rest, r, r', h, cell, hcell => by
      obtain ⟨r₁, hfirst, hrest⟩ := setAll_cons_ok.1 h
      rcases List.mem_cons.1 hcell with rfl | hcell
      · obtain ⟨f, w, hf, hw, _⟩ := set_ok hfirst
        exact ⟨f, w, hf, hw⟩
      · rw [← (set_get? hfirst first.1).1]
        exact setAll_converts hrest cell hcell

end Record

/-! ## §3. Records read from rows. -/

/-- The defaults of a model convert. -/
def Model.DefaultsConvert (m : Model) : Prop :=
  ∀ f ∈ m.fields, ∀ v, f.default = some v → ∃ w, f.toApplication v = .ok w

instance (m : Model) : Decidable m.DefaultsConvert :=
  inferInstanceAs (Decidable (∀ f ∈ m.fields, ∀ v ∈ f.default, ∃ w, f.toApplication v = .ok w))

namespace Record

/-- A blank record can be made when the defaults convert. -/
theorem blank_total {m : Model} (hnodup : m.fieldNames.Nodup) (h : m.DefaultsConvert) :
    ∃ r, blank m = .ok r := by
  refine setAll_total fun cell hcell => ?_
  obtain ⟨f, hf, hcell⟩ := List.mem_filterMap.1 hcell
  obtain ⟨v, hv, rfl⟩ := Option.map_eq_some_iff.1 hcell
  obtain ⟨w, hw⟩ := h f hf v hv
  exact ⟨f, w, Model.field?_name hnodup hf, hw⟩

/-- A label stands for a field of the model. -/
theorem mem_of_labelled? {m : Model} {label : String} {f : Field}
    (h : labelled? m label = some f) : f ∈ m.fields := by
  unfold labelled? at h
  cases hfield : m.field? label with
  | some g =>
      rw [hfield] at h
      obtain rfl := Option.some.inj h
      exact Model.mem_of_field? hfield
  | none =>
      rw [hfield] at h
      exact List.mem_of_find?_eq_some h

/-- The name of a field is a label that stands for it. -/
theorem labelled?_name {m : Model} (hnodup : m.fieldNames.Nodup) {f : Field}
    (hf : f ∈ m.fields) : labelled? m f.name = some f := by
  unfold labelled?
  rw [Model.field?_name hnodup hf]
  rfl

/-- **What a cell writes to the field `name`** of a record that is read from a row: the
application form of its value, when the label of the cell stands for that field. -/
def read? (m : Model) (name : String) (cell : String × Value) : Option Value :=
  (labelled? m cell.1).bind fun f => if f.name = name then (f.toApplication cell.2).toOption else none

/-- **A record read from a row** holds in each field what the last cell for it wrote,
or else the default. -/
theorem load_get? {m : Model} (hnodup : m.fieldNames.Nodup) {row : List (String × Value)}
    {r : Record} (h : load m row = .ok r) :
    ∃ b, blank m = .ok b ∧ r.model = m ∧ ∀ name,
      r.values.get? name = lastOr (row.filterMap (read? m name)) (b.values.get? name) := by
  unfold load at h
  obtain ⟨b, hb, h⟩ := bind_ok.1 h
  obtain ⟨filled, hfilled, h⟩ := bind_ok.1 h
  obtain rfl := pure_ok.1 h
  have hblank : b.model = m := (setAll_get? hb).1
  obtain ⟨hmodel, hvalues⟩ := setAll_get? hfilled
  refine ⟨b, hb, hmodel.trans hblank, fun name => ?_⟩
  rw [hvalues name, hblank, List.filterMap_filterMap]
  -- A cell is renamed to the field that its label stands for, and then assigned.
  congr 2
  funext ⟨label, v⟩
  show ((labelled? m label).map fun f => (f.name, v)).bind (assigned? m name) = _
  unfold read?
  cases hlabel : labelled? m label with
  | none => rfl
  | some f =>
      show assigned? m name (f.name, v) = _
      unfold assigned?
      rw [Model.field?_name hnodup (mem_of_labelled? hlabel)]

/-- **A record can be read from a row** when the defaults convert and so do the values
of the cells that the model knows. -/
theorem load_total {m : Model} (hnodup : m.fieldNames.Nodup) (hdefaults : m.DefaultsConvert)
    {row : List (String × Value)}
    (h : ∀ cell ∈ row, ∀ f, labelled? m cell.1 = some f → ∃ w, f.toApplication cell.2 = .ok w) :
    ∃ r, load m row = .ok r := by
  obtain ⟨b, hb⟩ := blank_total hnodup hdefaults
  have hblank : b.model = m := (setAll_get? hb).1
  obtain ⟨filled, hfilled⟩ : ∃ filled, b.setAll (row.filterMap fun cell =>
      (labelled? m cell.1).map fun f => (f.name, cell.2)) = .ok filled := by
    refine setAll_total fun cell hcell => ?_
    obtain ⟨⟨label, v⟩, hmem, hcell⟩ := List.mem_filterMap.1 hcell
    obtain ⟨f, hf, rfl⟩ := Option.map_eq_some_iff.1 hcell
    obtain ⟨w, hw⟩ := h (label, v) hmem f hf
    exact ⟨f, w, hblank ▸ Model.field?_name hnodup (mem_of_labelled? hf), hw⟩
  refine ⟨{ filled with isNew := false }, ?_⟩
  unfold load
  exact bind_ok.2 ⟨b, hb, bind_ok.2 ⟨filled, hfilled, rfl⟩⟩

/-- A row that a record was read from has values that convert, where the model knows the
labels. -/
theorem load_converts {m : Model} (hnodup : m.fieldNames.Nodup) {row : List (String × Value)}
    {r : Record} (h : load m row = .ok r) :
    ∀ cell ∈ row, ∀ f, labelled? m cell.1 = some f → ∃ w, f.toApplication cell.2 = .ok w := by
  rintro ⟨label, v⟩ hcell f hf
  unfold load at h
  obtain ⟨b, hb, h⟩ := bind_ok.1 h
  obtain ⟨filled, hfilled, _⟩ := bind_ok.1 h
  have hblank : b.model = m := (setAll_get? hb).1
  have hnamed : (f.name, v) ∈ row.filterMap fun cell =>
      (labelled? m cell.1).map fun f => (f.name, cell.2) :=
    List.mem_filterMap.2 ⟨(label, v), hcell, congrArg (Option.map _) hf⟩
  obtain ⟨g, w, hg, hw⟩ := setAll_converts hfilled _ hnamed
  rw [hblank, Model.field?_name hnodup (mem_of_labelled? hf)] at hg
  obtain rfl := Option.some.inj hg
  exact ⟨w, hw⟩

end Record

end RecordMapper
