/-
  RecordMapper.Proofs.Record.Assembly
  ────────────────────────────────
  **WHAT ASSEMBLING A ROW WRITES.**

  A row of a select over joined models is sorted into cells by model.  The root record
  takes its own cells first.  Then, relation after relation, a record of the model
  referred to is assembled from its cells and attached, and the foreign key takes the
  value of the field that it refers to.  So a field of the root has two sources: the
  cells of the row for it, and behind them the records attached through it.

  `Cells.writes` lists what a row writes to a field of a model, without any record.  Main
  results: `assemble_get?`, which says that a record holds the last of these writes, and
  `assemble_total`, which says that a row whose values convert yields a record.
-/
import RecordMapper.Proofs.Record.Assignment
import RecordMapper.Record.Result

namespace RecordMapper

/-! ## §1. Cells by model. -/

namespace Cells

/-- What is kept for a model once more cells of a row are sorted in. -/
theorem get?_sortedIn (name : String) : ∀ (row : List (Field × Value)) (cells : Cells),
    (Keyed.get? (row.foldl (fun cells (field, v) => Keyed.put field.model
        ((Keyed.get? cells field.model).getD [] ++ [(field.name, v)]) cells) cells) name).getD []
      = (Keyed.get? cells name).getD []
        ++ (row.filter (·.1.model = name)).map fun cell => (cell.1.name, cell.2)
  | [], cells => (List.append_nil _).symm
  | (field, v) :: row, cells => by
      rw [List.foldl_cons, get?_sortedIn name row]
      by_cases hname : field.model = name
      -- The cell joins those of its model, behind the ones already there.
      · subst hname
        show (Keyed.get? (Keyed.put _ _ cells) field.model).getD [] ++ _ = _
        rw [Keyed.get?_put_self, List.filter_cons_of_pos (by simp), Option.getD_some,
          List.append_assoc]
        rfl
      · show (Keyed.get? (Keyed.put _ _ cells) name).getD [] ++ _ = _
        rw [Keyed.get?_put_of_ne _ _ (Ne.symm hname), List.filter_cons_of_neg (by simpa using hname)]

/-- **The cells of a model** are those of the row for its fields, in their order. -/
theorem get?_ofRow (fields : List Field) (row : List Value) (name : String) :
    (Keyed.get? (ofRow fields row) name).getD []
      = ((fields.zip row).filter (·.1.model = name)).map fun cell => (cell.1.name, cell.2) :=
  get?_sortedIn name _ []

/-- The cells of a model convert to the fields that take them. -/
def Convert (cells : Cells) (m : Model) : Prop :=
  ∀ cell ∈ (Keyed.get? cells m.name).getD [], ∀ f, Record.labelled? m cell.1 = some f →
    ∃ w, f.toApplication cell.2 = .ok w

end Cells

namespace Record

/-! ## §2. Attaching records. -/

/-- **What attaching a record writes to the field `name`**: the value of the field
referred to, when it is that field that keeps the related name. -/
def attached? (m : Model) (relatedName : String) (other : String → Option Value)
    (name : String) : Option Value :=
  (keyField? m relatedName).bind fun (field, key) =>
    if field.name = name then (other key.target.name).filter (!·.isNull) else none

/-- A record that another is attached to takes the value of its foreign key from it. -/
theorem attach_get? (r other : Record) (relatedName name : String) :
    (r.attach relatedName other).values.get? name
      = lastOr (attached? r.model relatedName other.get? name).toList (r.values.get? name) := by
  unfold attach attached? keep
  cases keyField? r.model relatedName with
  | none => rfl
  | some fieldKey =>
      obtain ⟨field, key⟩ := fieldKey
      -- A NULL in the field referred to leaves the foreign key as it is.
      dsimp only
      rw [Option.bind_some]
      show _ = lastOr (if field.name = name then _ else none : Option Value).toList _
      cases (other.get? key.target.name).filter (!·.isNull) with
      | none =>
          rw [ite_self]
          rfl
      | some v =>
          by_cases hname : field.name = name
          · rw [if_pos hname, ← hname]
            exact Keyed.get?_put_self _ _ _
          · rw [if_neg hname]
            exact Keyed.get?_put_of_ne _ _ (Ne.symm hname)

/-- The field that keeps a related name is a foreign key of the model. -/
theorem keyField?_mem {m : Model} {relatedName : String} {field : Field} {key : ForeignKey}
    (h : keyField? m relatedName = some (field, key)) :
    field ∈ m.fields ∧ field.foreignKey = some key := by
  obtain ⟨f, hf, h⟩ := List.exists_of_findSome?_eq_some h
  obtain ⟨k, hk, hpair⟩ := Option.map_eq_some_iff.1 h
  obtain ⟨rfl, rfl⟩ := Prod.mk.inj hpair
  obtain ⟨hkey, _⟩ := Option.filter_eq_some_iff.1 hk
  exact ⟨hf, hkey⟩

/-- **Attaching a record writes no field but a foreign key.** -/
theorem attached?_plain {m : Model} (hnodup : m.fieldNames.Nodup) {f : Field} (hf : f ∈ m.fields)
    (hplain : f.foreignKey = none) (relatedName : String) (other : String → Option Value) :
    attached? m relatedName other f.name = none := by
  unfold attached?
  cases hkey : keyField? m relatedName with
  | none => rfl
  | some fieldKey =>
      obtain ⟨field, key⟩ := fieldKey
      obtain ⟨hfield, hforeign⟩ := keyField?_mem hkey
      refine if_neg fun hname => ?_
      -- Two fields of one name are one field, and this one is not a foreign key.
      rw [Model.eq_of_name hnodup hfield hf hname, hplain] at hforeign
      cases hforeign

end Record

/-! ## §3. What a row writes. -/

namespace Cells

open Record

/-- **What a row writes to the field `name` of a model**, in order: the default, the cells
for it, and for each relation whose model is matched the value that it brings along. -/
def writes (cells : Cells) : Model → String → List Value
  | ⟨id, model, table, database, autoIncrement, ordering, orderingNames, fields, key, relations⟩,
      name =>
    let m : Model :=
      ⟨id, model, table, database, autoIncrement, ordering, orderingNames, fields, key, relations⟩
    m.defaults.filterMap (assigned? m name)
      ++ ((Keyed.get? cells m.name).getD []).filterMap (read? m name)
      ++ related m name relations
where
  /-- What the relations write, one after the other: each the value that the row gives the
  field referred to. -/
  related (m : Model) (name : String) : List (String × Model) → List Value
    | [] => []
    | (field, other) :: rest =>
      match cells.matched? other, (m.field? field).bind (·.foreignKey) with
      | some _, some key =>
        (attached? m key.relatedName
            (fun target => (other.field? target).bind fun g => (writes cells other g.name).getLast?)
            name).toList
          ++ related m name rest
      | _, _ => related m name rest

/-- **The value that a row gives the field of a name.** -/
def value? (cells : Cells) (m : Model) (name : String) : Option Value :=
  (m.field? name).bind fun f => (cells.writes m f.name).getLast?

theorem writes_eq (cells : Cells) (m : Model) (name : String) :
    cells.writes m name
      = m.defaults.filterMap (assigned? m name)
        ++ ((Keyed.get? cells m.name).getD []).filterMap (read? m name)
        ++ writes.related cells m name m.relations := by
  obtain ⟨_, _, _, _, _, _, _, _, _, _⟩ := m
  rw [writes]

/-- **Relations write no field but foreign keys.** -/
theorem related_plain {cells : Cells} {m : Model} (hnodup : m.fieldNames.Nodup) {f : Field}
    (hf : f ∈ m.fields) (hplain : f.foreignKey = none) :
    ∀ relations : List (String × Model), writes.related cells m f.name relations = []
  | [] => by rw [writes.related]
  | (field, other) :: rest => by
      rw [writes.related]
      split
      · rw [attached?_plain hnodup hf hplain]
        exact related_plain hnodup hf hplain rest
      · exact related_plain hnodup hf hplain rest

end Cells

/-! ## §4. Assembling records. -/

namespace Record

/-- A record is assembled from its own cells, and then along its relations. -/
theorem assemble_eq (cells : Cells) (m : Model) :
    assemble cells m
      = load m ((Keyed.get? cells m.name).getD []) >>= fun r => assemble.go cells m r m.relations := by
  obtain ⟨_, _, _, _, _, _, _, _, _, _⟩ := m
  rw [assemble]

/-- The record holds the values that the row gives its fields. -/
def Holds (cells : Cells) (m : Model) (r : Record) : Prop :=
  r.model = m ∧ ∀ name, r.values.get? name = (cells.writes m name).getLast?

theorem Holds.get? {cells : Cells} {m : Model} {r : Record} (h : Holds cells m r) (name : String) :
    r.get? name = cells.value? m name := by
  unfold Record.get? Cells.value?
  rw [h.1]
  congr 1
  funext f
  exact h.2 f.name

/-- **Attaching along relations**: a field holds what the last of them wrote to it, or
what it held before, when the attached records hold what the row gives them. -/
theorem go_get? {cells : Cells} {m : Model} : ∀ {relations : List (String × Model)}
    {r r' : Record}, (∀ relation ∈ relations, ∀ child, assemble cells relation.2 = .ok child →
        Holds cells relation.2 child) →
      r.model = m → assemble.go cells m r relations = .ok r' →
      r'.model = m ∧ ∀ name, r'.values.get? name
        = lastOr (Cells.writes.related cells m name relations) (r.values.get? name)
  | [], r, r', _, hmodel, h => by
      rw [assemble.go] at h
      obtain rfl := Except.ok.inj h
      refine ⟨hmodel, fun name => ?_⟩
      rw [Cells.writes.related]
      rfl
  | (field, related) :: rest, r, r', hchildren, hmodel, h => by
      have hrest := fun relation hmem => hchildren relation (List.mem_cons_of_mem _ hmem)
      rw [assemble.go] at h
      split at h
      · rename_i row key hmatched hkey
        obtain ⟨child, hchild, h⟩ := bind_ok.1 h
        obtain ⟨hmodel', hvalues⟩ := go_get? hrest (r := r.attach key.relatedName child) hmodel h
        refine ⟨hmodel', fun name => ?_⟩
        -- The record that is attached has the values that the row gives the related model.
        have hother : child.get? = cells.value? related :=
          funext (hchildren (field, related) List.mem_cons_self child hchild).get?
        rw [hvalues name, attach_get?, hmodel, Cells.writes.related, hmatched, hkey, hother]
        exact (lastOr.append _ _ _).symm
      · rename_i hskip
        obtain ⟨hmodel', hvalues⟩ := go_get? hrest hmodel h
        refine ⟨hmodel', fun name => ?_⟩
        rw [hvalues name, Cells.writes.related]
        split
        · rename_i row key hmatched hkey
          exact absurd hkey (hskip _ _ hmatched)
        · rfl

/-- **An assembled record holds what the row gives it**: each field the last of the writes
to it.  The induction is on how the model was registered. -/
theorem assemble_get? {cells : Cells} {m : Model} (hm : m.Registered) :
    ∀ {r : Record}, assemble cells m = .ok r → Holds cells m r := by
  induction hm with
  | @mk m b id built _ ih =>
      intro r h
      rw [assemble_eq] at h
      obtain ⟨root, hroot, h⟩ := bind_ok.1 h
      obtain ⟨blank, hblank, hmodel, hread⟩ := load_get? (Blueprint.build_ok built).1 hroot
      obtain ⟨hmodel', hvalues⟩ := go_get? (fun relation hmem child => ih relation hmem) hmodel h
      obtain ⟨_, hdefaults⟩ := setAll_get? hblank
      refine ⟨hmodel', fun name => ?_⟩
      rw [hvalues name, hread name, hdefaults name, ← lastOr.append, ← lastOr.append,
        Cells.writes_eq, List.append_assoc]
      exact lastOr.to_none _

/-- Attaching succeeds when the record of every relation can be assembled. -/
theorem go_total {cells : Cells} {m : Model} : ∀ {relations : List (String × Model)},
    (∀ relation ∈ relations, ∃ child, assemble cells relation.2 = .ok child) → ∀ r,
      ∃ r', assemble.go cells m r relations = .ok r'
  | [], _, r => by
      rw [assemble.go]
      exact ⟨r, rfl⟩
  | (field, related) :: relations, h, r => by
      have hrest : ∀ r, ∃ r', assemble.go cells m r relations = .ok r' :=
        go_total fun relation hmem => h relation (List.mem_cons_of_mem _ hmem)
      -- The relation attaches a record, which can be assembled, or is passed over.
      obtain ⟨child, hchild⟩ := h (field, related) List.mem_cons_self
      rw [assemble.go]
      split
      · rename_i key _ _
        obtain ⟨r', hr'⟩ := hrest (r.attach key.relatedName child)
        exact ⟨r', bind_ok.2 ⟨child, hchild, hr'⟩⟩
      · exact hrest r

/-- **A record is assembled** from every row whose values convert, whatever the models
that it refers to.  The induction is on how the model was registered. -/
theorem assemble_total {cells : Cells} {m : Model} (hm : m.Registered)
    (hdefaults : ∀ m' ∈ m.reach, m'.DefaultsConvert)
    (hcells : ∀ m' ∈ m.reach, cells.Convert m') : ∃ r, assemble cells m = .ok r := by
  induction hm with
  | @mk m b id built related ih =>
      have hself := m.mem_reach_self
      have hnodup := (Blueprint.build_ok built).1
      obtain ⟨root, hroot⟩ := load_total hnodup (hdefaults m hself) (hcells m hself)
      -- The models that a relation reaches are among those that the model reaches, so what
      -- is asked of them is known.
      obtain ⟨r, hr⟩ := go_total (m := m) (fun relation hmem => ih relation hmem
        (fun m' hm' => hdefaults m' (Model.mem_reach_related hmem hm'))
        (fun m' hm' => hcells m' (Model.mem_reach_related hmem hm'))) root
      refine ⟨r, ?_⟩
      rw [assemble_eq]
      exact bind_ok.2 ⟨root, hroot, hr⟩

end Record

end RecordMapper
