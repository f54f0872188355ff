/-
  RecordMapper.Proofs.Record.Attached
  ────────────────────────────────
  **WHICH RECORDS A ROW ATTACHES.**

  From the root model the record of a row is assembled along foreign keys.  The recursion
  follows the relations of the models, whatever cells the row has; it ends because a model
  refers to models registered before it.  A model that the row does not match is left out,
  and with it everything behind it, while a model that is reached by two keys is attached
  under both.

  `Model.Path` are the paths along foreign keys, told by their related names.  What the
  relations of one model attach is found under the name of each (`assemble_related?_iff`),
  and what is reached from the root is an induction on the names that are followed.

  Main result: `graph_follows_matched_keys`.
-/
import RecordMapper.Proofs.Record.Tracking
import RecordMapper.Proofs.Schema.Linked

namespace RecordMapper

/-! ## §1. Paths along foreign keys. -/

namespace Model

/-- **No two foreign keys of the model share a related name.** -/
def NamesApart (m : Model) : Prop :=
  ∀ f ∈ m.fields, ∀ g ∈ m.fields, ∀ key ∈ f.foreignKey, ∀ key' ∈ g.foreignKey,
    key.relatedName = key'.relatedName → f = g

instance (m : Model) : Decidable m.NamesApart :=
  inferInstanceAs (Decidable (∀ f ∈ m.fields, ∀ g ∈ m.fields, ∀ key ∈ f.foreignKey,
    ∀ key' ∈ g.foreignKey, key.relatedName = key'.relatedName → f = g))

/-- **A foreign key of the model has this related name**, and leads to that other model. -/
def RefersAs (m : Model) (name : String) (related : Model) : Prop :=
  ∃ f ∈ m.fields, ∃ key, f.foreignKey = some key ∧ key.relatedName = name
    ∧ (f.name, related) ∈ m.relations

/-- **A path along foreign keys**: their related names, and the models that they lead to. -/
inductive Path : Model → List String → List Model → Prop
  | here {m : Model} : Path m [] []
  | step {m related : Model} {name : String} {names : List String} {passed : List Model}
      (refers : m.RefersAs name related) (rest : Path related names passed) :
      Path m (name :: names) (related :: passed)

/-- A relation is the foreign key of the field of its name. -/
theorem Declared.refersAs_of_relation {m : Model} (h : m.Declared) {name : String}
    {related : Model} (hrelation : (name, related) ∈ m.relations) :
    ∃ key, (m.field? name).bind (·.foreignKey) = some key
      ∧ m.RefersAs key.relatedName related := by
  have hnames := h.registered.fieldNames_nodup
  have hbuilt := h
  obtain ⟨hbuilt, -, -⟩ := hbuilt
  obtain ⟨f, key, rfl, hrefers⟩ := Blueprint.exists_reference hbuilt hnames h hrelation
  refine ⟨key, ?_, f, hrefers.mem, key, hrefers.key_eq, rfl, hrelation⟩
  rw [field?_name hnames hrefers.mem]
  exact hrefers.key_eq

/-- **A related name leads to one model.** -/
theorem RefersAs.unique {m a b : Model} {name : String} (h : m.Declared) (hapart : m.NamesApart)
    (ha : m.RefersAs name a) (hb : m.RefersAs name b) : a = b := by
  obtain ⟨f, hf, key, hkey, rfl, ha⟩ := ha
  obtain ⟨g, hg, key', hkey', hname, hb⟩ := hb
  obtain rfl := hapart f hf g hg key hkey key' hkey' hname.symm
  -- A field has one relation, since relations have the names of fields.
  have hnodup : (m.relations.map (·.1)).Nodup := by
    have hnames := h.registered.fieldNames_nodup
    obtain ⟨hbuilt, -, -⟩ := h
    rw [Blueprint.relations_names hbuilt]
    exact hnames.sublist (List.filter_sublist.map _)
  exact congrArg Prod.snd (List.inj_on_of_nodup_map hnodup ha hb rfl)

end Model

namespace Catalog

variable {c : Catalog} {m : Model} {names : List String} {passed : List Model}

/-- A foreign key of a live model leads to a live model that was registered before it. -/
theorem Consistent.refersAs_earlier (hc : c.Consistent) (hm : m ∈ c.live) {name : String}
    {related : Model} (h : m.RefersAs name related) : related ∈ c.live ∧ related.id < m.id := by
  obtain ⟨f, -, key, -, -, hrelation⟩ := h
  exact hc.earlier m hm _ hrelation

/-- **A path leads to ever earlier models**: so it ends. -/
theorem Consistent.path_earlier (hc : c.Consistent) (hm : m ∈ c.live)
    (h : m.Path names passed) :
    (∀ m' ∈ passed, m' ∈ c.live ∧ m'.id < m.id) ∧ passed.Pairwise fun a b => b.id < a.id := by
  induction h with
  | here => exact ⟨nofun, .nil⟩
  | step refers rest ih =>
      obtain ⟨hlive, hearlier⟩ := hc.refersAs_earlier hm refers
      obtain ⟨hpassed, hordered⟩ := ih hlive
      refine ⟨List.forall_mem_cons.2 ⟨⟨hlive, hearlier⟩, fun m' hm' => ?_⟩,
        List.pairwise_cons.2 ⟨fun m' hm' => (hpassed m' hm').2, hordered⟩⟩
      exact ⟨(hpassed m' hm').1, Nat.lt_trans (hpassed m' hm').2 hearlier⟩

/-- A field of a live model is named for that model, and for no other live one. -/
theorem Consistent.model_eq_iff (hc : c.Consistent) (hm : m ∈ c.live) {f : Field}
    (hf : ∃ owner ∈ c.live, f ∈ owner.fields) : f.model = m.name ↔ f ∈ m.fields := by
  obtain ⟨owner, howner, hmem⟩ := hf
  have hname := (hc.declared owner howner).registered.field_model hmem
  refine ⟨fun hmodel => ?_, (hc.declared m hm).registered.field_model⟩
  obtain rfl := hc.eq_of_name howner hm (hname.symm.trans hmodel)
  exact hmem

/-- **Related names tell one path.** -/
theorem Consistent.path_unique (hc : c.Consistent) (hapart : ∀ m ∈ c.live, m.NamesApart)
    (hm : m ∈ c.live) {passed' : List Model} (h : m.Path names passed)
    (h' : m.Path names passed') : passed = passed' := by
  induction h generalizing passed' with
  | here =>
      cases h'
      rfl
  | step refers _ ih =>
      cases h' with
      | step refers' rest' =>
          obtain rfl := refers.unique (hc.declared _ hm) (hapart _ hm) refers'
          rw [ih (hc.refersAs_earlier hm refers).1 rest']

end Catalog

/-! ## §2. Models that a row matches. -/

/-- **The row matches a model**: a selected field of the model has a value in it that is not
NULL. -/
def RowMatches (fields : List Field) (row : List Value) (m : Model) : Prop :=
  ∃ (i : Nat) (f : Field) (v : Value),
    fields[i]? = some f ∧ f ∈ m.fields ∧ row[i]? = some v ∧ v.isNull = false

namespace Cells

theorem matched?_isSome (cells : Cells) (m : Model) :
    (cells.matched? m).isSome = true
      ↔ ∃ cell ∈ (Keyed.get? cells m.name).getD [], cell.2.isNull = false := by
  unfold matched?
  cases Keyed.get? cells m.name with
  | none => simp
  | some row => simp [Option.filter_some]

/-- **A model has cells that are not all NULL** exactly when the row matches it, if the fields
that are selected under its name are its own. -/
theorem matched?_ofRow {fields : List Field} {m : Model}
    (hown : ∀ f ∈ fields, f.model = m.name ↔ f ∈ m.fields) (row : List Value) :
    ((ofRow fields row).matched? m).isSome = true ↔ RowMatches fields row m := by
  rw [matched?_isSome, get?_ofRow]
  constructor
  · rintro ⟨cell, hcell, hvalue⟩
    obtain ⟨⟨f, v⟩, hmem, rfl⟩ := List.mem_map.1 hcell
    obtain ⟨hmem, hmodel⟩ := List.mem_filter.1 hmem
    obtain ⟨i, hi⟩ := List.mem_iff_getElem?.1 hmem
    obtain ⟨hf, hv⟩ := List.getElem?_zip_eq_some.1 hi
    exact ⟨i, f, v, hf, (hown f (List.mem_of_getElem? hf)).1 (by simpa using hmodel), hv, hvalue⟩
  · rintro ⟨i, f, v, hf, hmem, hv, hvalue⟩
    have hcell : (f, v) ∈ fields.zip row :=
      List.mem_of_getElem? (List.getElem?_zip_eq_some.2 ⟨hf, hv⟩)
    refine ⟨(f.name, v), List.mem_map.2 ⟨(f, v), List.mem_filter.2 ⟨hcell, ?_⟩, rfl⟩, hvalue⟩
    simpa using (hown f (List.mem_of_getElem? hf)).2 hmem

end Cells

/-! ## §3. What one model attaches. -/

namespace Record

variable {cells : Cells} {m : Model} {r r' : Record}

/-- A record that is kept under a name is found there, and the others as they were. -/
theorem keep_related? (r other : Record) (name name' : String) :
    (r.keep name other).related? name' = if name' = name then some other else r.related? name' := by
  show Keyed.get? (Keyed.put name other r.related) name' = _
  by_cases hname : name' = name
  · rw [if_pos hname, hname]
    exact Keyed.get?_put_self _ _ _
  · rw [if_neg hname]
    exact Keyed.get?_put_of_ne _ _ hname

/-- Attaching keeps the record under the name, and the others as they are. -/
theorem attach_related? (r other : Record) (name name' : String) :
    (r.attach name other).related? name'
      = if name' = name then some other else r.related? name' := by
  unfold attach
  exact keep_related? _ other name name'

/-- **What a relation attaches under a name**: the record of the other model, when the row
matches that model and its foreign key has the name. -/
def attachedBy? (cells : Cells) (m : Model) (name : String) (relation : String × Model) :
    Option Record :=
  match cells.matched? relation.2, (m.field? relation.1).bind (·.foreignKey) with
  | some _, some key =>
    if key.relatedName = name then (assemble cells relation.2).toOption else none
  | _, _ => none

/-- **Attaching along relations**: under a name stands what the last of them attached under
it, and the names stay apart. -/
theorem go_related? : ∀ {relations : List (String × Model)} {r r' : Record},
    (Keyed.keys r.related).Nodup → assemble.go cells m r relations = .ok r' →
      (Keyed.keys r'.related).Nodup ∧ ∀ name, r'.related? name
        = lastOr (relations.filterMap (attachedBy? cells m name)) (r.related? name)
  | [], r, r', hnodup, h => by
      rw [assemble.go] at h
      obtain rfl := Except.ok.inj h
      exact ⟨hnodup, fun name => rfl⟩
  | (field, related) :: rest, r, r', hnodup, h => by
      rw [assemble.go] at h
      split at h
      · next row key hmatched hkey =>
          obtain ⟨child, hchild, h⟩ := bind_ok.1 h
          obtain ⟨hnodup', hrest⟩ := go_related? (r := r.attach key.relatedName child)
            (Keyed.nodup_keys_put hnodup) h
          refine ⟨hnodup', fun name => ?_⟩
          have hattached : attachedBy? cells m name (field, related)
              = if name = key.relatedName then some child else none := by
            simp only [attachedBy?, hmatched, hkey, hchild, eq_comm (a := key.relatedName)]
            rfl
          rw [hrest name, attach_related?, List.filterMap_cons, hattached]
          by_cases hname : name = key.relatedName
          · rw [if_pos hname, if_pos hname]
            exact (lastOr.cons _ _ _).symm
          · rw [if_neg hname, if_neg hname]
      · next hskip =>
          obtain ⟨hnodup', hrest⟩ := go_related? hnodup h
          refine ⟨hnodup', fun name => ?_⟩
          have hattached : attachedBy? cells m name (field, related) = none := by
            unfold attachedBy?
            split
            · next row key hmatched hkey => exact absurd hkey (hskip _ _ hmatched)
            · rfl
          rw [hrest name, List.filterMap_cons, hattached]

/-- A record that was assembled has the records of all matched relations. -/
theorem go_assembled : ∀ {relations : List (String × Model)} {r r' : Record},
    assemble.go cells m r relations = .ok r' → ∀ relation ∈ relations,
      (cells.matched? relation.2).isSome = true →
      ((m.field? relation.1).bind (·.foreignKey)).isSome = true →
      ∃ child, assemble cells relation.2 = .ok child
  | [], _, _, _, _, hmem, _, _ => nomatch hmem
  | (field, related) :: rest, r, r', h, relation, hmem, hmatched, hkey => by
      rw [assemble.go] at h
      split at h
      · obtain ⟨child, hchild, h⟩ := bind_ok.1 h
        rcases List.mem_cons.1 hmem with rfl | hmem
        · exact ⟨child, hchild⟩
        · exact go_assembled h relation hmem hmatched hkey
      · next hskip =>
          rcases List.mem_cons.1 hmem with rfl | hmem
          · obtain ⟨row, hrow⟩ := Option.isSome_iff_exists.1 hmatched
            obtain ⟨key, hkey⟩ := Option.isSome_iff_exists.1 hkey
            exact absurd hkey (hskip _ _ hrow)
          · exact go_assembled h relation hmem hmatched hkey

/-- An assignment leaves what is attached alone. -/
theorem set_related {name : String} {v : Value} (h : r.set name v = .ok r') :
    r'.model = r.model ∧ r'.related = r.related := by
  obtain ⟨f, w, -, -, rfl⟩ := set_ok h
  exact ⟨rfl, rfl⟩

/-- Records that are set have what was attached to them before. -/
theorem setAll_related : ∀ {changes : List (String × Value)} {r r' : Record},
    r.setAll changes = .ok r' → r'.related = r.related
  | [], r, r', h => by
      obtain rfl := pure_ok.1 h
      rfl
  | cell :: changes, r, r', h => by
      obtain ⟨between, hfirst, hrest⟩ := setAll_cons_ok.1 h
      exact (setAll_related hrest).trans (set_related hfirst).2

/-- Nothing is attached to a record that was just read. -/
theorem load_related {row : List (String × Value)} (h : load m row = .ok r) : r.related = [] := by
  unfold load at h
  obtain ⟨b, hb, h⟩ := bind_ok.1 h
  obtain ⟨filled, hfilled, h⟩ := bind_ok.1 h
  obtain rfl := pure_ok.1 h
  exact (setAll_related hfilled).trans (setAll_related hb)

/-- Every attached record is found under its name. -/
theorem assemble_keys_nodup (h : assemble cells m = .ok r) : (Keyed.keys r.related).Nodup := by
  rw [assemble_eq] at h
  obtain ⟨root, hroot, h⟩ := bind_ok.1 h
  refine (go_related? ?_ h).1
  rw [load_related hroot]
  exact List.nodup_nil

/-- **What the relations of a model attach under a name** are the records of the matched models
that its foreign keys of that name lead to. -/
theorem mem_attachedBy?_iff (hm : m.Declared) (cells : Cells) (name : String) (child : Record) :
    child ∈ m.relations.filterMap (attachedBy? cells m name)
      ↔ ∃ related, m.RefersAs name related ∧ (cells.matched? related).isSome = true
        ∧ assemble cells related = .ok child := by
  rw [List.mem_filterMap]
  constructor
  · rintro ⟨⟨field, related⟩, hrelation, hchild⟩
    obtain ⟨key, hkey, hrefers⟩ := hm.refersAs_of_relation hrelation
    unfold attachedBy? at hchild
    split at hchild
    · next row key' hmatched hkey' =>
        obtain rfl := Option.some.inj (hkey.symm.trans hkey')
        obtain ⟨rfl, hrecord⟩ := Option.ite_none_right_eq_some.1 hchild
        refine ⟨related, hrefers, Option.isSome_of_eq_some hmatched, ?_⟩
        cases hassemble : assemble cells related with
        | error failure =>
            rw [hassemble] at hrecord
            cases hrecord
        | ok other =>
            rw [hassemble] at hrecord
            exact congrArg Except.ok (Option.some.inj hrecord)
    · cases hchild
  · rintro ⟨related, ⟨f, hf, key, hkey, rfl, hrelation⟩, hmatched, hchild⟩
    obtain ⟨row, hrow⟩ := Option.isSome_iff_exists.1 hmatched
    refine ⟨(f.name, related), hrelation, ?_⟩
    have hfield : (m.field? f.name).bind (·.foreignKey) = some key := by
      rw [Model.field?_name hm.registered.fieldNames_nodup hf]
      exact hkey
    unfold attachedBy?
    dsimp only
    rw [hrow, hfield, hchild]
    exact if_pos rfl

/-- **What is attached to an assembled record**: under the related name of each foreign key
whose model is matched, the record of that model; and nothing else. -/
theorem assemble_related?_iff (hm : m.Declared) (hapart : m.NamesApart)
    (h : assemble cells m = .ok r) (name : String) (child : Record) :
    r.related? name = some child
      ↔ ∃ related, m.RefersAs name related ∧ (cells.matched? related).isSome = true
        ∧ assemble cells related = .ok child := by
  rw [assemble_eq] at h
  obtain ⟨root, hroot, h⟩ := bind_ok.1 h
  obtain ⟨-, hfound⟩ := go_related? (by rw [load_related hroot]; exact List.nodup_nil) h
  have hnone : root.related? name = none := by
    unfold related?
    rw [load_related hroot]
    rfl
  rw [hfound name, hnone, lastOr.to_none]
  constructor
  · exact fun hlast => (mem_attachedBy?_iff hm cells name child).1 (List.mem_of_getLast? hlast)
  · rintro ⟨related, hrefers, hmatched, hchild⟩
    have hmem := (mem_attachedBy?_iff hm cells name child).2 ⟨related, hrefers, hmatched, hchild⟩
    obtain ⟨last, hlast⟩ := Option.isSome_iff_exists.1
      (List.getLast?_isSome.2 (List.ne_nil_of_mem hmem))
    -- The last of them is the record of the same model, since the name leads to one model.
    obtain ⟨related', hrefers', -, hlast'⟩ :=
      (mem_attachedBy?_iff hm cells name last).1 (List.mem_of_getLast? hlast)
    obtain rfl := hrefers.unique hm hapart hrefers'
    rw [hlast, Except.ok.inj (hchild.symm.trans hlast')]

/-- **Every matched foreign key has a record attached**, once the whole record could be
assembled. -/
theorem assemble_related?_isSome (hm : m.Declared) (h : assemble cells m = .ok r) {name : String}
    {related : Model} (hrefers : m.RefersAs name related)
    (hmatched : (cells.matched? related).isSome = true) :
    ∃ child, assemble cells related = .ok child := by
  rw [assemble_eq] at h
  obtain ⟨root, -, h⟩ := bind_ok.1 h
  obtain ⟨f, hf, key, hkey, -, hrelation⟩ := hrefers
  refine go_assembled h _ hrelation hmatched ?_
  rw [Model.field?_name hm.registered.fieldNames_nodup hf]
  exact Option.isSome_of_eq_some hkey

end Record

/-! ## §4. Following related names. -/

namespace Record

variable {cells : Cells} {m : Model} {r : Record}

/-- **Follow related names** to the record that is attached under them, one after the other. -/
def follow (r : Record) : List String → Option Record
  | [] => some r
  | name :: names => (r.related? name).bind fun other => other.follow names

/-- One name more leads to what is attached there. -/
theorem follow_concat (name : String) : ∀ (names : List String) (r : Record),
    r.follow (names ++ [name]) = (r.follow names).bind fun other => other.related? name
  | [], r => by
      show (r.related? name).bind some = r.related? name
      exact Option.bind_fun_some _
  | first :: names, r => by
      show (r.related? first).bind (fun other => other.follow (names ++ [name]))
        = ((r.related? first).bind fun other => other.follow names).bind _
      rw [Option.bind_assoc]
      exact Option.bind_congr fun other _ => follow_concat name names other

variable {c : Catalog}

/-- **What is followed is a path of matched models**, and leads to the record of its last
model.  The induction is on the names. -/
theorem exists_path_of_follow (hc : c.Consistent) (hapart : ∀ m ∈ c.live, m.NamesApart) :
    ∀ {names : List String} {m : Model} {r reached : Record}, m ∈ c.live →
      assemble cells m = .ok r → r.follow names = some reached →
      ∃ passed, m.Path names passed ∧ (∀ m' ∈ passed, (cells.matched? m').isSome = true)
        ∧ assemble cells (passed.getLastD m) = .ok reached
  | [], m, r, reached, _, h, hfollow => by
      obtain rfl := Option.some.inj hfollow
      exact ⟨[], .here, nofun, h⟩
  | name :: names, m, r, reached, hm, h, hfollow => by
      obtain ⟨child, hchild, hfollow⟩ := Option.bind_eq_some_iff.1 hfollow
      obtain ⟨related, hrefers, hmatched, hassembled⟩ :=
        (assemble_related?_iff (hc.declared m hm) (hapart m hm) h name child).1 hchild
      obtain ⟨passed, hpath, hothers, hreached⟩ := exists_path_of_follow hc hapart
        (hc.refersAs_earlier hm hrefers).1 hassembled hfollow
      refine ⟨related :: passed, .step hrefers hpath,
        List.forall_mem_cons.2 ⟨hmatched, hothers⟩, ?_⟩
      rw [List.getLastD_cons]
      exact hreached

/-- **A path of matched models can be followed**, once the whole record could be assembled. -/
theorem follow_of_path (hc : c.Consistent) (hapart : ∀ m ∈ c.live, m.NamesApart)
    {names : List String} {passed : List Model} (hpath : m.Path names passed) (hm : m ∈ c.live)
    (h : assemble cells m = .ok r) (hmatched : ∀ m' ∈ passed, (cells.matched? m').isSome = true) :
    ∃ reached, r.follow names = some reached := by
  induction hpath generalizing r with
  | here => exact ⟨r, rfl⟩
  | step refers rest ih =>
      obtain ⟨hfirst, hothers⟩ := List.forall_mem_cons.1 hmatched
      obtain ⟨child, hchild⟩ := assemble_related?_isSome (hc.declared _ hm) h refers hfirst
      obtain ⟨reached, hreached⟩ := ih (hc.refersAs_earlier hm refers).1 hchild hothers
      have hfound := (assemble_related?_iff (hc.declared _ hm) (hapart _ hm) h _ child).2
        ⟨_, refers, hfirst, hchild⟩
      refine ⟨reached, ?_⟩
      unfold follow
      rw [hfound]
      exact hreached

/-! ## §5. Rows that do not convert. -/

/-- An assignment to a known field fails when the value does not convert to it. -/
theorem set_error {name : String} {v : Value} {f : Field} (hf : r.model.field? name = some f)
    {failure : Failure} (h : r.set name v = .error failure) :
    f.toApplication v = .error failure := by
  unfold set Model.field at h
  rw [hf] at h
  rcases bind_error.1 h with h | ⟨f', hf', h⟩
  · cases h
  · obtain rfl := Except.ok.inj hf'
    rcases bind_error.1 h with h | ⟨w, -, h⟩
    · exact h
    · cases h

/-- **Assignments to known fields fail** when one of the values does not convert. -/
theorem setAll_error {failure : Failure} : ∀ {changes : List (String × Value)} {r : Record},
    (∀ change ∈ changes, ∃ f, r.model.field? change.1 = some f) →
      r.setAll changes = .error failure →
      ∃ change ∈ changes, ∃ f, r.model.field? change.1 = some f
        ∧ f.toApplication change.2 = .error failure
  | [], r, _, h => nomatch h
  | (name, v) :: changes, r, hknown, h => by
      obtain ⟨⟨f, hf⟩, hothers⟩ := List.forall_mem_cons.1 hknown
      unfold setAll at h
      rw [List.foldlM_cons] at h
      rcases bind_error.1 h with hfirst | ⟨between, hset, h⟩
      · exact ⟨_, List.mem_cons_self, f, hf, set_error hf hfirst⟩
      · obtain ⟨f', w, -, -, rfl⟩ := set_ok hset
        obtain ⟨change, hmem, hfails⟩ := setAll_error (r := { r with
          values := r.values.put f'.name w, dirty := r.dirtyAfter f' w }) hothers h
        exact ⟨change, List.mem_cons_of_mem _ hmem, hfails⟩

/-- **A value of the row or a default does not convert** to a field of the model. -/
def Refuses (row : List Value) (m : Model) (failure : Failure) : Prop :=
  ∃ f ∈ m.fields, ∃ v, (f.default = some v ∨ v ∈ row) ∧ f.toApplication v = .error failure

/-- A record cannot be read when a value does not convert, and for no other reason. -/
theorem load_error (hm : m.Registered) {cells : List (String × Value)} {row : List Value}
    (hcells : ∀ cell ∈ cells, cell.2 ∈ row) {failure : Failure}
    (h : load m cells = .error failure) : Refuses row m failure := by
  have hnames := hm.fieldNames_nodup
  unfold load at h
  rcases bind_error.1 h with h | ⟨b, hb, h⟩
  · obtain ⟨change, hchange, f, hf, hfails⟩ := setAll_error (fun change hchange => by
      obtain ⟨f, hf, hpair⟩ := List.mem_filterMap.1 hchange
      obtain ⟨v, -, rfl⟩ := Option.map_eq_some_iff.1 hpair
      exact ⟨f, Model.field?_name hnames hf⟩) h
    obtain ⟨g, hg, hpair⟩ := List.mem_filterMap.1 hchange
    obtain ⟨v, hv, rfl⟩ := Option.map_eq_some_iff.1 hpair
    obtain rfl := Option.some.inj ((Model.field?_name hnames hg).symm.trans hf)
    exact ⟨g, hg, v, .inl hv, hfails⟩
  · have hblank : b.model = m := (setAll_get? hb).1
    rcases bind_error.1 h with h | ⟨filled, -, h⟩
    · obtain ⟨change, hchange, f, hf, hfails⟩ := setAll_error (fun change hchange => by
        obtain ⟨cell, -, hpair⟩ := List.mem_filterMap.1 hchange
        obtain ⟨f, hf, rfl⟩ := Option.map_eq_some_iff.1 hpair
        exact ⟨f, hblank ▸ Model.field?_name hnames (mem_of_labelled? hf)⟩) h
      obtain ⟨cell, hcell, hpair⟩ := List.mem_filterMap.1 hchange
      obtain ⟨g, -, rfl⟩ := Option.map_eq_some_iff.1 hpair
      exact ⟨f, hblank ▸ Model.mem_of_field? hf, cell.2, .inr (hcells cell hcell), hfails⟩
    · cases h

/-- Attaching fails when a record that is to be attached cannot be assembled. -/
theorem go_error {failure : Failure} : ∀ {relations : List (String × Model)} {r : Record},
    assemble.go cells m r relations = .error failure →
      ∃ relation ∈ relations, assemble cells relation.2 = .error failure
  | [], r, h => by
      rw [assemble.go] at h
      cases h
  | (field, related) :: rest, r, h => by
      rw [assemble.go] at h
      have hothers : ∀ {r}, assemble.go cells m r rest = .error failure →
          ∃ relation ∈ (field, related) :: rest, assemble cells relation.2 = .error failure := by
        intro r h
        obtain ⟨relation, hmem, hfails⟩ := go_error h
        exact ⟨relation, List.mem_cons_of_mem _ hmem, hfails⟩
      split at h
      · rcases bind_error.1 h with h | ⟨child, -, h⟩
        · exact ⟨_, List.mem_cons_self, h⟩
        · exact hothers h
      · exact hothers h

/-- **A row cannot be assembled when a value does not convert** to a field of a model that
the root reaches, and for no other reason.  The induction is on how the model was
registered. -/
theorem assemble_error (hm : m.Registered) {row : List Value}
    (hcells : ∀ name, ∀ cell ∈ (Keyed.get? cells name).getD [], cell.2 ∈ row) {failure : Failure}
    (h : assemble cells m = .error failure) : ∃ m' ∈ m.reach, Refuses row m' failure := by
  induction hm with
  | @mk m b id built related ih =>
      rw [assemble_eq] at h
      rcases bind_error.1 h with h | ⟨root, -, h⟩
      · exact ⟨m, m.mem_reach_self, load_error (.mk built related) (hcells m.name) h⟩
      · obtain ⟨relation, hrelation, hfails⟩ := go_error h
        obtain ⟨m', hreach, hrefuses⟩ := ih relation hrelation hfails
        exact ⟨m', Model.mem_reach_related hrelation hreach, hrefuses⟩

end Record

/-! ## §6. The records of a row. -/

/-- **The graph of a row follows the matched foreign keys.**  The models are registered one
after the other, no model has two foreign keys of one related name, and the selected fields
are theirs.  Every path along foreign keys leads to ever earlier models, so assembling a row
comes to an end: it yields a record, or the failure to convert a value.  From the record of
the root, related names lead to a record exactly when they are those of a path of foreign keys
whose models are all matched by the row.  That record is a loaded one of the last model, made
of the cells of the row, and whatever is attached to it is found under its name. -/
theorem graph_follows_matched_keys {c : Catalog} (hc : c.Filled)
    (hapart : ∀ m ∈ c.live, m.NamesApart) {result : Result} (hgraph : result.naive = false)
    (hroot : result.model ∈ c.live) (hfields : ∀ f ∈ result.fields, ∃ m ∈ c.live, f ∈ m.fields)
    (labels : List String) (row : List Value) :
    (∀ names passed, result.model.Path names passed →
        (result.model :: passed).Pairwise fun a b => b.id < a.id)
      ∧ ((∃ r, result.materialize labels row = .ok r)
        ∨ ∃ m ∈ result.model.reach, ∃ failure, Record.Refuses row m failure
          ∧ result.materialize labels row = .error failure)
      ∧ ∀ r, result.materialize labels row = .ok r →
        (∀ names, (∃ reached, r.follow names = some reached)
          ↔ ∃ passed, result.model.Path names passed ∧ ∀ m ∈ passed, RowMatches result.fields row m)
        ∧ ∀ names reached, r.follow names = some reached →
          (∀ passed, result.model.Path names passed →
            Record.Loaded (passed.getLastD result.model) reached
              ∧ Record.assemble (Cells.ofRow result.fields row) (passed.getLastD result.model)
                = .ok reached)
          ∧ ∀ entry ∈ reached.related, r.follow (names ++ [entry.1]) = some entry.2 := by
  have hconsistent := hc.consistent
  have hpaths := fun names passed (hpath : result.model.Path names passed) =>
    hconsistent.path_earlier hroot hpath
  have hmatched : ∀ {names passed}, result.model.Path names passed → ((∀ m ∈ passed,
      ((Cells.ofRow result.fields row).matched? m).isSome = true)
        ↔ ∀ m ∈ passed, RowMatches result.fields row m) := fun {names passed} hpath =>
    forall₂_congr fun m hm => Cells.matched?_ofRow (fun f hf => hconsistent.model_eq_iff
      ((hpaths names passed hpath).1 m hm).1 (hfields f hf)) row
  have hmaterialize : result.materialize labels row
      = Record.assemble (Cells.ofRow result.fields row) result.model := by
    unfold Result.materialize
    rw [hgraph]
    rfl
  rw [hmaterialize]
  refine ⟨fun names passed hpath => ?_, ?_, fun r hr => ⟨fun names => ⟨?_, ?_⟩, ?_⟩⟩
  · obtain ⟨hpassed, hordered⟩ := hpaths names passed hpath
    exact List.pairwise_cons.2 ⟨fun m hm => (hpassed m hm).2, hordered⟩
  · cases h : Record.assemble (Cells.ofRow result.fields row) result.model with
    | ok r => exact .inl ⟨r, rfl⟩
    | error failure =>
        have hcells : ∀ name, ∀ cell ∈ (Keyed.get? (Cells.ofRow result.fields row) name).getD [],
            cell.2 ∈ row := by
          intro name cell hcell
          rw [Cells.get?_ofRow] at hcell
          obtain ⟨⟨f, v⟩, hmem, rfl⟩ := List.mem_map.1 hcell
          exact (List.of_mem_zip (List.mem_of_mem_filter hmem)).2
        obtain ⟨m, hm, hrefuses⟩ := Record.assemble_error
          (hconsistent.declared _ hroot).registered hcells h
        exact .inr ⟨m, hm, failure, hrefuses, rfl⟩
  · rintro ⟨reached, hfollow⟩
    obtain ⟨passed, hpath, hall, -⟩ :=
      Record.exists_path_of_follow hconsistent hapart hroot hr hfollow
    exact ⟨passed, hpath, (hmatched hpath).1 hall⟩
  · rintro ⟨passed, hpath, hall⟩
    exact Record.follow_of_path hconsistent hapart hpath hroot hr ((hmatched hpath).2 hall)
  · intro names reached hfollow
    obtain ⟨passed, hpath, -, hreached⟩ :=
      Record.exists_path_of_follow hconsistent hapart hroot hr hfollow
    refine ⟨fun passed' hpath' => ?_, fun entry hentry => ?_⟩
    · obtain rfl := hconsistent.path_unique hapart hroot hpath hpath'
      exact ⟨Record.assemble_loaded hreached, hreached⟩
    · rw [Record.follow_concat, hfollow]
      exact (Keyed.get?_eq_some_iff (Record.assemble_keys_nodup hreached)).2 hentry

/-! ### A book and its author. -/

open Sample in
/-- Books are read with their authors. -/
def booksInGraph : Result :=
  .new book ⟨0⟩ ⟨0, [], [], none, 0⟩ false (book.fields ++ author.fields)

open Sample in
/-- A book that its author also edited. -/
def theWaves : List Value :=
  [int 1, text "The Waves", int 7, int 7, int 7, text "Ann"]

open Sample in
/-- The author of the book is attached under both of its keys, and nothing behind them. -/
theorem author_attached : ∃ r, booksInGraph.materialize [] theWaves = .ok r
    ∧ (∃ reached, r.follow ["editor"] = some reached ∧ Record.Loaded author reached)
    ∧ ¬ ∃ reached, r.follow ["editor", "author"] = some reached := by
  have hfields : ∀ f ∈ booksInGraph.fields, ∃ m ∈ authorsAndBooks.live, f ∈ m.fields := by
    decide +kernel
  obtain ⟨-, -, hgraph⟩ := graph_follows_matched_keys authorsAndBooks_filled (by decide +kernel)
    (show booksInGraph.naive = false from rfl) (List.mem_cons_of_mem _ List.mem_cons_self) hfields
    [] theWaves
  obtain ⟨r, hr⟩ : ∃ r, booksInGraph.materialize [] theWaves = .ok r := by decide +kernel
  obtain ⟨hpaths, hreached⟩ := hgraph r hr
  have heditor : book.Path ["editor"] [author] :=
    .step ⟨bookEditor, by decide, _, rfl, rfl, List.mem_cons_of_mem _ List.mem_cons_self⟩ .here
  refine ⟨r, hr, ?_, ?_⟩
  · obtain ⟨reached, hfollow⟩ := (hpaths ["editor"]).2 ⟨[author], heditor, fun m hm => by
      obtain rfl := List.mem_singleton.1 hm
      exact ⟨4, authorId, int 7, rfl, by decide, rfl, rfl⟩⟩
    exact ⟨reached, hfollow, ((hreached _ reached hfollow).1 _ heditor).1⟩
  · rw [hpaths]
    rintro ⟨passed, hpath, -⟩
    -- Behind the editor stands the author, which has no foreign keys.
    obtain _ | ⟨⟨f, -, key, -, -, hrelation⟩, hrest⟩ := hpath
    obtain _ | ⟨⟨g, -, key', -, -, hrelation'⟩, -⟩ := hrest
    have hauthor : ∀ relation ∈ book.relations, relation.2 = author :=
      List.forall_mem_cons.2 ⟨rfl, List.forall_mem_singleton.2 rfl⟩
    obtain rfl := hauthor _ hrelation
    cases hrelation'

end RecordMapper
