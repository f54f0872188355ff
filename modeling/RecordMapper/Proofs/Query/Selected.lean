/-
  RecordMapper.Proofs.Query.Selected
  ────────────────────────────────
  **WHICH PRIMARY KEYS A SELECTION HOLDS.**

  Records are put together from rows by their primary keys, so a selection should hold the
  key of the root model and of every model that it has a field of.  The keys are added
  while fields are selected, in different places: the one of the root by every call that
  selects, and those of other models by single fields and by whole models, though not by
  fields named with their model.  Stating whether rows are to be distinct takes the key of
  the root away.

  A selection is what its items add, whatever was called in between (`Chosen`).  Main
  result: `keys_selected_iff`.
-/
import RecordMapper.Proofs.Query.Built
import RecordMapper.Proofs.Schema.Declared

namespace RecordMapper

/-! ## §1. Selections without duplicates. -/

namespace Field

variable {own : Field → Prop} {selection fields : List Field}

/-- **What is added is selected**, when no other field stands for the same. -/
theorem mem_addTo (hsame : ∀ f g, own f → own g → f.toAttribute.same g.toAttribute = true → f = g)
    (hselection : ∀ f ∈ selection, own f) {field : Field} (hfield : own field) (f : Field) :
    f ∈ addTo selection field ↔ f ∈ selection ∨ f = field := by
  unfold addTo
  split
  · rename_i hany
    obtain ⟨g, hg, hgsame⟩ := List.any_eq_true.1 hany
    obtain rfl := hsame g field (hselection g hg) hfield hgsame
    refine ⟨.inl, fun h => ?_⟩
    rcases h with h | rfl
    · exact h
    · exact hg
  · rw [List.mem_append, List.mem_singleton]

theorem mem_addAllTo
    (hsame : ∀ f g, own f → own g → f.toAttribute.same g.toAttribute = true → f = g)
    (hselection : ∀ f ∈ selection, own f) (hfields : ∀ f ∈ fields, own f) (f : Field) :
    f ∈ addAllTo selection fields ↔ f ∈ selection ∨ f ∈ fields := by
  induction fields generalizing selection with
  | nil => simp [addAllTo]
  | cons field fields ih =>
      have hfield := hfields field List.mem_cons_self
      have hmem := mem_addTo hsame hselection hfield
      have hown : ∀ f ∈ addTo selection field, own f := by
        intro f hf
        rcases (hmem f).1 hf with hf | rfl
        · exact hselection f hf
        · exact hfield
      show f ∈ addAllTo (addTo selection field) fields ↔ _
      rw [ih hown fun f hf => hfields f (List.mem_cons_of_mem _ hf), hmem, List.mem_cons, or_assoc]

end Field

/-! ## §2. Calls that select. -/

namespace Selection

/-- **The item brings the key of a model** that is not the root model: it is a field of the
model, or all of them, or it names the key. -/
def Brings (m : Model) : Selection → Prop
  | .name _ => False
  | .field f => f ∈ m.fields
  | .model m' => m' = m
  | .modelNames m' names => m' = m ∧ ∃ name ∈ names, m.field? name = some m.primaryKey

/-- The item names fields with their model, which has one of the names. -/
def Names (m : Model) : Selection → Prop
  | .modelNames m' names => m' = m ∧ ∃ name ∈ names, (m.field? name).isSome
  | _ => False

end Selection

namespace Select

/-- The models of a select: the root model, and those that were joined. -/
def models (q : Select) : List Model :=
  q.model :: q.joined.map (·.1)

/-- A field of a model of the select. -/
def Owns (q : Select) (f : Field) : Prop :=
  ∃ m ∈ q.models, f ∈ m.fields

/-- **The item is about models of the select.** -/
def Picks (q : Select) : Selection → Prop
  | .name _ => True
  | .field f => q.Owns f
  | .model m | .modelNames m _ => m ∈ q.models

/-- The items that a call selects. -/
def Call.items : Call → List Selection
  | .select items => items
  | _ => []

/-- The selection has the key of the root model behind a call: a call that selects
anything brings it, and stating whether rows are to be distinct takes it away. -/
def Call.keyed (before : Bool) : Call → Bool
  | .select items => before || !items.isEmpty
  | .distinct _ => false
  | _ => before

/-- **The call fits the select.**  What is selected belongs to models that take part, a
model is known by its name, and rows are never asked to be distinct. -/
def Call.Fits (q : Select) : Call → Prop
  | .select items => ∀ item ∈ items, q.Picks item
  | .join model _ _ _ => model.Registered ∧ (model.name = q.model.name → model = q.model)
  | .distinct wanted => wanted = false
  | _ => True

/-- **A select of picked fields**, with the items that were picked, and whether there were
any since it was last stated whether rows are to be distinct. -/
inductive Picked : Select → (items : List Selection) → (keyed : Bool) → Prop
  | start {root : Model} (h : root.Registered) : Picked (ofModel root) [] false
  | bare {root : Model} (h : root.Registered) : Picked (new root) [] false
  | call {q q' : Select} {items : List Selection} {keyed : Bool} (catalog : Catalog) (c : Call)
      (before : Picked q items keyed) (fits : c.Fits q) (h : q.call catalog c = .ok q') :
      Picked q' (items ++ c.items) (c.keyed keyed)

/-! ## §3. What items add. -/

/-- **The models are told apart by their names**, and all of them are registered. -/
structure Named (q : Select) : Prop where
  registered : ∀ m ∈ q.models, m.Registered
  eq_of_name : ∀ m ∈ q.models, ∀ m' ∈ q.models, m.name = m'.name → m = m'

namespace Named

variable {q : Select} {m : Model} {f g : Field}

theorem field_model (h : q.Named) (hm : m ∈ q.models) (hf : f ∈ m.fields) : f.model = m.name :=
  (h.registered m hm).field_model hf

/-- A field belongs to one model of the select. -/
theorem owner_eq (h : q.Named) {m' : Model} (hm : m ∈ q.models) (hm' : m' ∈ q.models)
    (hf : f ∈ m.fields) (hf' : f ∈ m'.fields) : m = m' :=
  h.eq_of_name m hm m' hm' ((h.field_model hm hf).symm.trans (h.field_model hm' hf'))

theorem owns_key (h : q.Named) (hm : m ∈ q.models) : q.Owns m.primaryKey :=
  ⟨m, hm, (h.registered m hm).primaryKey_mem⟩

/-- Fields that stand for the same are one field. -/
theorem eq_of_same (h : q.Named) (hf : q.Owns f) (hg : q.Owns g)
    (hsame : f.toAttribute.same g.toAttribute = true) : f = g := by
  obtain ⟨m, hm, hf⟩ := hf
  obtain ⟨m', hm', hg⟩ := hg
  obtain ⟨hmodel, hname⟩ := Bool.and_eq_true_iff.1 hsame
  have hnames : m.name = m'.name := by
    rw [← h.field_model hm hf, ← h.field_model hm' hg]
    exact beq_iff_eq.1 hmodel
  obtain rfl := h.eq_of_name m hm m' hm' hnames
  exact Model.eq_of_name (h.registered m hm).fieldNames_nodup hf hg (beq_iff_eq.1 hname)

/-- **A model of the select is known** under its name. -/
theorem knownModel?_eq (h : q.Named) (hm : m ∈ q.models) : q.knownModel? m.name = some m := by
  unfold knownModel?
  by_cases hroot : q.model.name = m.name
  · rw [if_pos hroot, h.eq_of_name q.model List.mem_cons_self m hm hroot]
  · rw [if_neg hroot]
    have hjoined : m ∈ q.joined.map (·.1) := by
      rcases List.mem_cons.1 hm with rfl | hm
      · exact absurd rfl hroot
      · exact hm
    obtain ⟨entry, hentry, rfl⟩ := List.mem_map.1 hjoined
    cases hfind : q.joined.find? (·.1.name == entry.1.name) with
    | none => exact absurd (List.find?_eq_none.1 hfind entry hentry) (by simp)
    | some found =>
        have hname : found.1.name = entry.1.name := by simpa using List.find?_some hfind
        have hmem : found.1 ∈ q.models :=
          List.mem_cons_of_mem _ (List.mem_map_of_mem (List.mem_of_find?_eq_some hfind))
        exact congrArg some (h.eq_of_name found.1 hmem entry.1 hm hname)

/-- What a single field adds: itself, behind the key of its model. -/
theorem itemFields_field (h : q.Named) (hplain : q.distinct = false) (hm : m ∈ q.models)
    (hf : f ∈ m.fields) : q.itemFields (.field f) = [m.primaryKey, f] := by
  show (if q.distinct then [] else _) ++ [f] = _
  rw [hplain, h.field_model hm hf, h.knownModel?_eq hm]
  rfl

/-- **What an item adds** belongs to models of the select. -/
theorem owns_of_item (h : q.Named) (hplain : q.distinct = false) {item : Selection}
    (hitem : q.Picks item) (hf : f ∈ q.itemFields item) : q.Owns f := by
  cases item with
  | name name => exact ⟨q.model, List.mem_cons_self, Model.mem_of_field? (Option.mem_toList.1 hf)⟩
  | field g =>
      obtain ⟨m, hm, hg⟩ := hitem
      rw [h.itemFields_field hplain hm hg] at hf
      rcases List.mem_cons.1 hf with rfl | hf
      · exact h.owns_key hm
      · obtain rfl := List.mem_singleton.1 hf
        exact ⟨m, hm, hg⟩
  | model m => exact ⟨m, hitem, hf⟩
  | modelNames m names =>
      obtain ⟨name, _, hname⟩ := List.mem_filterMap.1 hf
      exact ⟨m, hitem, Model.mem_of_field? hname⟩

end Named

/-! ## §4. What is selected. -/

/-- **The invariant of selecting**: besides the key of the root, which comes and goes, the
selection is what its items add. -/
structure Chosen (q : Select) (items : List Selection) (keyed : Bool) : Prop where
  plain : q.distinct = false
  named : q.Named
  picks : ∀ item ∈ items, q.Picks item
  mem_iff : ∀ f, f ∈ q.fields ↔ (f = q.model.primaryKey ∧ keyed = true)
    ∨ (f ≠ q.model.primaryKey ∧ f ∈ items.flatMap q.itemFields)

namespace Chosen

variable {q q' : Select} {items : List Selection} {keyed : Bool}

/-- A new select has no fields and one model. -/
theorem new {root : Model} (h : root.Registered) (keys : List SortKey) :
    Chosen { Select.new root with orderBy := keys } [] false where
  plain := rfl
  named := {
    registered := fun m hm => by
      obtain rfl := List.mem_singleton.1 hm
      exact h
    eq_of_name := fun m hm m' hm' _ => by
      rw [List.mem_singleton.1 hm, List.mem_singleton.1 hm'] }
  picks := fun _ hitem => nomatch hitem
  mem_iff := fun f => by simp [Select.new]

/-- Everything selected belongs to models of the select. -/
theorem owns (h : q.Chosen items keyed) {f : Field} (hf : f ∈ q.fields) : q.Owns f := by
  rcases (h.mem_iff f).1 hf with ⟨rfl, _⟩ | ⟨_, hf⟩
  · exact h.named.owns_key List.mem_cons_self
  · obtain ⟨item, hitem, hf⟩ := List.mem_flatMap.1 hf
    exact h.named.owns_of_item h.plain (h.picks item hitem) hf

/-- **Items add the same** when models are joined. -/
theorem added_eq (h : q.Chosen items keyed) (hroot : q'.model = q.model)
    (hmodels : ∀ m ∈ q.models, m ∈ q'.models) (hnamed : q'.Named) (hplain : q'.distinct = false) :
    items.flatMap q'.itemFields = items.flatMap q.itemFields := by
  rw [List.flatMap_def, List.flatMap_def]
  refine congrArg List.flatten (List.map_congr_left fun item hitem => ?_)
  have hpicks := h.picks item hitem
  cases item with
  | name name =>
      show (q'.model.field? name).toList = _
      rw [hroot]
      rfl
  | field f =>
      obtain ⟨m, hm, hf⟩ := hpicks
      rw [h.named.itemFields_field h.plain hm hf, hnamed.itemFields_field hplain (hmodels m hm) hf]
  | model m => rfl
  | modelNames m names => rfl

/-- **A call that selects nothing** keeps what is selected, also when it joins a model. -/
theorem grow (h : q.Chosen items keyed) (hroot : q'.model = q.model)
    (hmodels : ∀ m ∈ q.models, m ∈ q'.models) (hnamed : q'.Named)
    (hfields : q'.fields = q.fields) (hdistinct : q'.distinct = q.distinct) :
    q'.Chosen items keyed := by
  have hplain : q'.distinct = false := hdistinct.trans h.plain
  refine ⟨hplain, hnamed, fun item hitem => ?_, fun f => ?_⟩
  · have hpicks := h.picks item hitem
    cases item with
    | name name => trivial
    | field f => exact hpicks.imp fun m => And.imp_left (hmodels m)
    | model m => exact hmodels m hpicks
    | modelNames m names => exact hmodels m hpicks
  · rw [hfields, hroot, h.added_eq hroot hmodels hnamed hplain]
    exact h.mem_iff f

/-- The models stay when nothing is joined. -/
theorem keep (h : q.Chosen items keyed) (hroot : q'.model = q.model)
    (hjoined : q'.joined = q.joined) (hfields : q'.fields = q.fields)
    (hdistinct : q'.distinct = q.distinct) : q'.Chosen items keyed := by
  have hmodels : q'.models = q.models := by
    unfold models
    rw [hroot, hjoined]
  refine h.grow hroot (fun m hm => hmodels ▸ hm) ⟨?_, ?_⟩ hfields hdistinct <;> rw [hmodels]
  · exact h.named.registered
  · exact h.named.eq_of_name

/-- **A call that selects** adds what its items add, and the key of the root when there
are any. -/
theorem select (h : q.Chosen items keyed) {more : List Selection}
    (hmore : ∀ item ∈ more, q.Picks item) :
    (q.select more).Chosen (items ++ more) (keyed || !more.isEmpty) := by
  have hitem : ∀ f ∈ more.flatMap q.itemFields, q.Owns f := by
    intro f hf
    obtain ⟨item, hitem, hf⟩ := List.mem_flatMap.1 hf
    exact h.named.owns_of_item h.plain (hmore item hitem) hf
  have hkey : ∀ f, f ∈ (if q.distinct || more.isEmpty then [] else [q.model.primaryKey])
      ↔ f = q.model.primaryKey ∧ more.isEmpty = false := by
    intro f
    rw [h.plain]
    cases more.isEmpty <;> simp
  have hadded : ∀ f ∈ (if q.distinct || more.isEmpty then [] else [q.model.primaryKey])
      ++ more.flatMap q.itemFields, q.Owns f := by
    intro f hf
    rcases List.mem_append.1 hf with hf | hf
    · obtain ⟨rfl, _⟩ := (hkey f).1 hf
      exact h.named.owns_key List.mem_cons_self
    · exact hitem f hf
  refine ⟨h.plain, ⟨h.named.registered, h.named.eq_of_name⟩, fun item hitem => ?_, fun f => ?_⟩
  · exact (List.mem_append.1 hitem).elim (h.picks item) (hmore item)
  · show f ∈ Field.addAllTo q.fields _ ↔ (f = q.model.primaryKey ∧ _)
      ∨ (f ≠ q.model.primaryKey ∧ f ∈ (items ++ more).flatMap q.itemFields)
    rw [Field.mem_addAllTo (fun _ _ => h.named.eq_of_same) (fun _ => h.owns) hadded,
      List.mem_append, hkey, h.mem_iff, List.flatMap_append, List.mem_append, Bool.or_eq_true,
      Bool.not_eq_true']
    by_cases hf : f = q.model.primaryKey
    -- Where an item adds the key of the root, there is an item.
    · have hsome : f ∈ more.flatMap q.itemFields → more.isEmpty = false := by
        intro hf
        obtain ⟨item, hitem, _⟩ := List.mem_flatMap.1 hf
        exact List.isEmpty_eq_false_iff.2 (List.ne_nil_of_mem hitem)
      constructor
      · rintro ((⟨_, hkeyed⟩ | ⟨hne, _⟩) | (⟨_, hmore⟩ | hadded))
        · exact .inl ⟨hf, .inl hkeyed⟩
        · exact absurd hf hne
        · exact .inl ⟨hf, .inr hmore⟩
        · exact .inl ⟨hf, .inr (hsome hadded)⟩
      · rintro (⟨_, hkeyed | hmore⟩ | ⟨hne, _⟩)
        · exact .inl (.inl ⟨hf, hkeyed⟩)
        · exact .inr (.inl ⟨hf, hmore⟩)
        · exact absurd hf hne
    · simp [hf]

/-- **Stating that rows need not be distinct** takes the key of the root away. -/
theorem setDistinct (h : q.Chosen items keyed) : (q.setDistinct false).Chosen items false := by
  have hnamed : (q.setDistinct false).Named := ⟨h.named.registered, h.named.eq_of_name⟩
  have hadded : items.flatMap (q.setDistinct false).itemFields = items.flatMap q.itemFields :=
    h.added_eq rfl (fun _ hm => hm) hnamed rfl
  refine ⟨rfl, hnamed, h.picks, fun f => ?_⟩
  rw [hadded]
  show f ∈ q.fields.filter (fun f => !f.toAttribute.same q.model.primaryKey.toAttribute) ↔ _
  rw [List.mem_filter, Bool.not_eq_true']
  constructor
  · rintro ⟨hf, hother⟩
    have hne : f ≠ q.model.primaryKey := by
      rintro rfl
      simp [Attribute.same] at hother
    rcases (h.mem_iff f).1 hf with ⟨hkey, _⟩ | hitem
    · exact absurd hkey hne
    · exact .inr hitem
  · rintro (⟨_, hfalse⟩ | ⟨hne, hitem⟩)
    · cases hfalse
    · have hf := (h.mem_iff f).2 (.inr ⟨hne, hitem⟩)
      refine ⟨hf, Bool.eq_false_iff.2 fun hsame => hne ?_⟩
      exact h.named.eq_of_same (h.owns hf) (h.named.owns_key List.mem_cons_self) hsame

/-- The models once one is joined: it is there only once. -/
theorem mem_addJoin {model m : Model} (join : Join) : ∀ {joined : List (Model × List Join)},
    m ∈ (addJoin model join joined).map (·.1)
      ↔ m ∈ joined.map (·.1) ∨ (m = model ∧ model.name ∉ joined.map (·.1.name))
  | [] => by simp [addJoin]
  | (m', joins) :: rest => by
      unfold addJoin
      by_cases hname : m'.name = model.name
      · simp [hname]
      · rw [if_neg hname, List.map_cons, List.mem_cons, mem_addJoin join, List.map_cons,
          List.mem_cons, List.map_cons, List.mem_cons, not_or, or_assoc]
        simp [Ne.symm hname]

/-- **A join** adds a model unless it is there. -/
theorem join (h : q.Chosen items keyed) {catalog : Catalog} {model : Model} {type : JoinType}
    {on wanted : Option String} (hmodel : model.Registered)
    (hroot : model.name = q.model.name → model = q.model)
    (hjoin : q.join catalog model type on wanted = .ok q') : q'.Chosen items keyed := by
  obtain ⟨lhs, rhs, _, rfl⟩ := join_ok hjoin
  have hmodels : ∀ m, m ∈ q.model :: (addJoin model ⟨type, lhs, rhs⟩ q.joined).map (·.1)
      ↔ m ∈ q.models ∨ (m = model ∧ model.name ∉ q.joined.map (·.1.name)) := by
    intro m
    unfold models
    rw [List.mem_cons, mem_addJoin, List.mem_cons, or_assoc]
  -- A model that is there under the name of the new one would be the root.
  have hnew : ∀ m ∈ q.models, model.name ∉ q.joined.map (·.1.name) → m.name = model.name →
      m = model := by
    intro m hm hfree hname
    rcases List.mem_cons.1 hm with rfl | hm
    · exact (hroot hname.symm).symm
    · obtain ⟨entry, hentry, rfl⟩ := List.mem_map.1 hm
      exact absurd (List.mem_map.2 ⟨entry, hentry, hname⟩) hfree
  refine h.grow rfl (fun m hm => (hmodels m).2 (.inl hm)) ⟨fun m hm => ?_, fun m hm m' hm' hname => ?_⟩
    rfl rfl
  · rcases (hmodels m).1 hm with hm | ⟨rfl, _⟩
    · exact h.named.registered m hm
    · exact hmodel
  · rcases (hmodels m).1 hm with hold | ⟨hjoined, hfree⟩
    · rcases (hmodels m').1 hm' with hold' | ⟨hjoined', hfree⟩
      · exact h.named.eq_of_name m hold m' hold' hname
      · rw [hjoined'] at hname ⊢
        exact hnew m hold hfree hname
    · rw [hjoined] at hname ⊢
      rcases (hmodels m').1 hm' with hold' | ⟨hjoined', _⟩
      · exact (hnew m' hold' hfree hname.symm).symm
      · exact hjoined'.symm

/-- **One call** keeps the invariant. -/
theorem call (h : q.Chosen items keyed) {catalog : Catalog} {c : Call} (hfits : c.Fits q)
    (hcall : q.call catalog c = .ok q') : q'.Chosen (items ++ c.items) (c.keyed keyed) := by
  cases c with
  | select more =>
      obtain rfl := Except.ok.inj hcall
      exact h.select hfits
  | join model type on wanted =>
      obtain ⟨hmodel, hroot⟩ := hfits
      rw [show items ++ (Call.join model type on wanted).items = items from List.append_nil _]
      exact h.join hmodel hroot hcall
  | distinct wanted =>
      obtain rfl := Except.ok.inj hcall
      obtain rfl : wanted = false := hfits
      rw [show items ++ (Call.distinct false).items = items from List.append_nil _]
      exact h.setDistinct
  | activate model =>
      obtain ⟨_, rfl⟩ := activate_ok hcall
      rw [show items ++ (Call.activate model).items = items from List.append_nil _]
      exact h.keep rfl rfl rfl rfl
  | filterBy filters =>
      obtain ⟨conditions, _, hcall⟩ := bind_ok.1 hcall
      obtain rfl := pure_ok.1 hcall
      rw [show items ++ (Call.filterBy filters).items = items from List.append_nil _]
      exact h.keep rfl rfl rfl rfl
  | _ =>
      obtain rfl := Except.ok.inj hcall
      show Chosen _ (items ++ []) keyed
      rw [List.append_nil]
      exact h.keep rfl rfl rfl rfl

end Chosen

/-- **A select of picked fields** selects what its items add. -/
theorem Picked.chosen {q : Select} {items : List Selection} {keyed : Bool}
    (h : q.Picked items keyed) : q.Chosen items keyed := by
  induction h with
  | start h => exact .new h _
  | bare h => exact .new h []
  | call catalog c _ fits h ih => exact ih.call fits h

/-! ## §5. Primary keys. -/

namespace Chosen

variable {q : Select} {items : List Selection} {keyed : Bool} {m : Model} {item : Selection}

/-- A field of another model is not one of the root. -/
theorem not_root (h : q.Chosen items keyed) (hm : m ∈ q.models) (hother : m ≠ q.model) {f : Field}
    (hf : f ∈ m.fields) : f ∉ q.model.fields := fun hroot =>
  hother (h.named.owner_eq hm List.mem_cons_self hf hroot)

/-- **An item adds the key** of a model that is not the root exactly when it brings it. -/
theorem key_added_iff (h : q.Chosen items keyed) (hm : m ∈ q.models) (hother : m ≠ q.model)
    (hitem : q.Picks item) : m.primaryKey ∈ q.itemFields item ↔ item.Brings m := by
  have hkey := (h.named.registered m hm).primaryKey_mem
  cases item with
  | name name =>
      refine iff_of_false (fun hadded => ?_) not_false
      exact h.not_root hm hother hkey (Model.mem_of_field? (Option.mem_toList.1 hadded))
  | field f =>
      obtain ⟨owner, howner, hf⟩ := hitem
      rw [h.named.itemFields_field h.plain howner hf]
      constructor
      · intro hadded
        have hsame : m.primaryKey ∈ owner.fields := by
          rcases List.mem_cons.1 hadded with heq | hadded
          · rw [heq]
            exact (h.named.registered owner howner).primaryKey_mem
          · rw [List.mem_singleton.1 hadded]
            exact hf
        rw [h.named.owner_eq hm howner hkey hsame]
        exact hf
      · intro hbrings
        rw [h.named.owner_eq hm howner hbrings hf]
        exact List.mem_cons_self
  | model m' =>
      refine ⟨fun hadded => h.named.owner_eq hitem hm hadded hkey, ?_⟩
      rintro rfl
      exact hkey
  | modelNames m' names =>
      constructor
      · intro hadded
        obtain ⟨name, hname, hfield⟩ := List.mem_filterMap.1 hadded
        obtain rfl := h.named.owner_eq hitem hm (Model.mem_of_field? hfield) hkey
        exact ⟨rfl, name, hname, hfield⟩
      · rintro ⟨rfl, name, hname, hfield⟩
        exact List.mem_filterMap.2 ⟨name, hname, hfield⟩

/-- **An item that adds a field** of another model than the root brings its key, or names
the field. -/
theorem brings_or_names (h : q.Chosen items keyed) (hm : m ∈ q.models) (hother : m ≠ q.model)
    (hitem : q.Picks item) {f : Field} (hf : f ∈ m.fields) (hadded : f ∈ q.itemFields item) :
    item.Brings m ∨ item.Names m := by
  cases item with
  | name name =>
      exact absurd (Model.mem_of_field? (Option.mem_toList.1 hadded)) (h.not_root hm hother hf)
  | field g =>
      obtain ⟨owner, howner, hg⟩ := hitem
      rw [h.named.itemFields_field h.plain howner hg] at hadded
      have howned : f ∈ owner.fields := by
        rcases List.mem_cons.1 hadded with rfl | hadded
        · exact (h.named.registered owner howner).primaryKey_mem
        · obtain rfl := List.mem_singleton.1 hadded
          exact hg
      obtain rfl := h.named.owner_eq hm howner hf howned
      exact .inl hg
  | model m' => exact .inl (h.named.owner_eq hitem hm hadded hf)
  | modelNames m' names =>
      obtain ⟨name, hname, hfield⟩ := List.mem_filterMap.1 hadded
      obtain rfl := h.named.owner_eq hitem hm (Model.mem_of_field? hfield) hf
      exact .inr ⟨rfl, name, hname, by rw [hfield]; rfl⟩

/-- The key of the root is selected exactly when something was picked since. -/
theorem root_key_iff (h : q.Chosen items keyed) :
    q.model.primaryKey ∈ q.fields ↔ keyed = true := by
  rw [h.mem_iff]
  simp

/-- A field of another model is selected exactly when an item adds it. -/
theorem other_iff (h : q.Chosen items keyed) (hm : m ∈ q.models) (hother : m ≠ q.model)
    {f : Field} (hf : f ∈ m.fields) : f ∈ q.fields ↔ ∃ item ∈ items, f ∈ q.itemFields item := by
  have hne : f ≠ q.model.primaryKey := by
    rintro rfl
    exact h.not_root hm hother hf (h.named.registered q.model List.mem_cons_self).primaryKey_mem
  rw [h.mem_iff]
  simp [hne]

/-- The key of another model is selected exactly when an item brings it. -/
theorem key_iff (h : q.Chosen items keyed) (hm : m ∈ q.models) (hother : m ≠ q.model) :
    m.primaryKey ∈ q.fields ↔ ∃ item ∈ items, item.Brings m := by
  rw [h.other_iff hm hother (h.named.registered m hm).primaryKey_mem]
  exact exists_congr fun item =>
    and_congr_right fun hitem => h.key_added_iff hm hother (h.picks item hitem)

end Chosen

end Select

/-- **A selection holds the primary keys that it needs**, the one of the root model and the
one of every model that it has a field of, exactly when something was picked since it was
last stated that rows need not be distinct, and the key of every other model of which
fields were named with it was brought by some item. -/
theorem keys_selected_iff {q : Select} {items : List Selection} {keyed : Bool}
    (h : q.Picked items keyed) :
    (q.fields ≠ [] → q.model.primaryKey ∈ q.fields
        ∧ ∀ f ∈ q.fields, ∀ m ∈ q.models, f ∈ m.fields → m.primaryKey ∈ q.fields)
      ↔ (q.fields ≠ [] → keyed = true)
        ∧ ∀ m ∈ q.models, m ≠ q.model → (∃ item ∈ items, item.Names m) →
            ∃ item ∈ items, item.Brings m := by
  have hq := h.chosen
  constructor
  · intro hkeys
    refine ⟨fun hne => hq.root_key_iff.1 (hkeys hne).1, ?_⟩
    -- The field that is named is selected, and the key of its model with it.
    rintro m hm hother ⟨item, hitem, hnames⟩
    obtain ⟨f, hf, hadded⟩ : ∃ f ∈ m.fields, f ∈ q.itemFields item := by
      cases item with
      | modelNames m' names =>
          obtain ⟨rfl, name, hname, hsome⟩ := hnames
          obtain ⟨f, hfield⟩ := Option.isSome_iff_exists.1 hsome
          exact ⟨f, Model.mem_of_field? hfield, List.mem_filterMap.2 ⟨name, hname, hfield⟩⟩
      | _ => cases hnames
    have hselected := (hq.other_iff hm hother hf).2 ⟨item, hitem, hadded⟩
    have hkey := (hkeys (List.ne_nil_of_mem hselected)).2 f hselected m hm hf
    exact (hq.key_iff hm hother).1 hkey
  · rintro ⟨hroot, hnamed⟩ hne
    refine ⟨hq.root_key_iff.2 (hroot hne), fun f hf m hm hfield => ?_⟩
    by_cases hother : m = q.model
    · rw [hother]
      exact hq.root_key_iff.2 (hroot hne)
    · obtain ⟨item, hitem, hadded⟩ := (hq.other_iff hm hother hfield).1 hf
      refine (hq.key_iff hm hother).2 ?_
      rcases hq.brings_or_names hm hother (hq.picks item hitem) hfield hadded with hbrings | hnames
      · exact ⟨item, hitem, hbrings⟩
      · exact hnamed m hm hother ⟨item, hitem, hnames⟩

namespace Sample

/-- The books with their authors, and of both what the items pick. -/
def shelf (items : List Selection) : Except Failure Select := do
  let q ← (Select.ofModel book).join .empty author .inner (some "author_id") none
  return (q.setDistinct false).select items

theorem shelf_models {items : List Selection} {q : Select} (h : shelf items = .ok q) :
    q.models = [book, author] := by
  obtain ⟨joined, hjoin, h⟩ := bind_ok.1 h
  obtain rfl := pure_ok.1 h
  obtain ⟨lhs, rhs, _, rfl⟩ := Select.join_ok hjoin
  rfl

/-- Whatever is picked of books and authors. -/
theorem shelf_picked {items : List Selection} {q : Select} (h : shelf items = .ok q)
    (hitems : ∀ item ∈ items, q.Picks item) : q.Picked items (!items.isEmpty) := by
  obtain ⟨joined, hjoin, h⟩ := bind_ok.1 h
  obtain rfl := pure_ok.1 h
  have hpicked : joined.Picked [] false :=
    .call .empty (.join author .inner (some "author_id") none) (.start book_declared.registered)
      ⟨author_declared.registered, fun hname => absurd hname (by decide)⟩ hjoin
  have hdistinct : (joined.setDistinct false).Picked [] false :=
    .call .empty (.distinct false) hpicked rfl rfl
  exact .call .empty (.select items) hdistinct hitems rfl

end Sample

open Sample in
/-- The name of the author comes with both keys when it is picked as a field. -/
theorem shelf_keys : ∃ q, shelf [.field authorName, .modelNames author ["name"]] = .ok q
    ∧ bookId ∈ q.fields ∧ authorId ∈ q.fields := by
  obtain ⟨q, hq⟩ : ∃ q, shelf [.field authorName, .modelNames author ["name"]] = .ok q := ⟨_, rfl⟩
  have hmodels := shelf_models hq
  have hauthor : author ∈ q.models := by simp [hmodels]
  have hname : authorName ∈ author.fields := by decide
  have hpicked := shelf_picked hq (by simpa [Select.Picks] using ⟨⟨author, hauthor, hname⟩, hauthor⟩)
  have hselected : authorName ∈ q.fields := by
    cases hq
    decide +kernel
  have hroot : q.model = book := (List.cons.inj hmodels).1
  -- The one model that has a field picked by name has one picked as a field.
  have hkeys := (keys_selected_iff hpicked).2 ⟨fun _ => rfl, fun m hm hother _ => by
    rw [hmodels] at hm
    rw [hroot] at hother
    obtain rfl : m = author := by simpa [hother] using hm
    exact ⟨_, List.mem_cons_self, hname⟩⟩ (List.ne_nil_of_mem hselected)
  refine ⟨q, hq, ?_, hkeys.2 authorName hselected author hauthor hname⟩
  rw [hroot] at hkeys
  exact hkeys.1

open Sample in
/-- **Not every key is selected**: the one of the root leaves when it is stated that rows
need not be distinct, and the one of the author does not come with a name. -/
theorem not_every_key_selected :
    (¬ ∀ (q : Select) (items : List Selection) (keyed : Bool), q.Picked items keyed →
        q.fields ≠ [] → q.model.primaryKey ∈ q.fields)
      ∧ ¬ ∀ (q : Select) (items : List Selection) (keyed : Bool), q.Picked items keyed →
        ∀ f ∈ q.fields, ∀ m ∈ q.models, f ∈ m.fields → m.primaryKey ∈ q.fields := by
  constructor
  · intro hkeys
    have hpicked := Select.Picked.start author_declared.registered
    have hnames := hpicked.call .empty (.select [.name "name"])
      (by simp [Select.Call.Fits, Select.Picks]) rfl
    have hdistinct := hnames.call .empty (.distinct false) rfl rfl
    exact absurd (hkeys _ _ _ hdistinct (by decide +kernel)) (by decide +kernel)
  · intro hkeys
    obtain ⟨q, hq⟩ : ∃ q, shelf [.modelNames author ["name"]] = .ok q := ⟨_, rfl⟩
    have hauthor : author ∈ q.models := by simp [shelf_models hq]
    have hpicked := shelf_picked hq (by simpa [Select.Picks] using hauthor)
    have hselected : authorName ∈ q.fields ∧ authorId ∉ q.fields := by
      cases hq
      decide +kernel
    exact hselected.2 (hkeys q _ _ hpicked authorName hselected.1 author hauthor (by decide))

end RecordMapper
