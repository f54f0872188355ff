/-
  RecordMapper.Proofs.Schema.Tended
  ────────────────────────────────
  **LINKS BACK WHEN MODELS COME AND GO.**

  Models are registered and forgotten again, and a name may be given to a new model.  A
  model keeps the models that it refers to, so that no live model refers to one that is
  gone.  Links outlive the models that made them: they are told apart by numbers, which are
  never given twice, and a link is followed only while its owner is alive.

  `Catalog.Tended` are the catalogs that this leads to, and `Catalog.Coherent` is what each
  step preserves.

  Main result: `Coherent.linksAs_of_reverse`, a model that stands in the reverse relations of
  another one has a foreign key for it.
-/
import RecordMapper.Proofs.Schema.Registering

namespace RecordMapper

/-! ## §1. What models reach. -/

namespace Model

/-- What is reached reaches on. -/
theorem mem_reach_step {m n : Model} {relation : String × Model} (h : m.Registered)
    (hn : n ∈ m.reach) (hrelation : relation ∈ n.relations) : relation.2 ∈ m.reach := by
  induction h with
  | mk built related ih =>
      rcases reach_cases hn with rfl | ⟨between, hbetween, hn⟩
      · exact mem_reach_related hrelation relation.2.mem_reach_self
      · exact mem_reach_related hbetween (ih between hbetween hn)

end Model

/-! ## §2. Catalogs that are tended. -/

namespace Catalog

/-- **A catalog that is tended**: models are registered one after the other from definitions
that were made and refer to live models, and those that no held model reaches are forgotten. -/
inductive Tended : Catalog → Prop
  | empty : Tended .empty
  | define {c c' : Catalog} {d : Definition} (h : Tended c) (source : Definition.Source)
      (hd : c.define source = .ok (d, c')) : Tended c'
  | register {c c' : Catalog} {b : Blueprint} {m : Model} (h : Tended c)
      (hm : c.register b = .ok (m, c')) (hmade : ∀ d ∈ b.fields, d.2.Made)
      (hmodels : ∀ d ∈ b.fields, ∀ r, d.2.reference = some r → r.model ∈ c.live) : Tended c'
  | retain {c : Catalog} (h : Tended c) {held : List Model} (hheld : ∀ m ∈ held, m ∈ c.live) :
      Tended (c.retain held)

/-- A filled catalog is one from which nothing was forgotten. -/
theorem Filled.tended {c : Catalog} (h : c.Filled) : c.Tended := by
  induction h with
  | empty => exact .empty
  | define _ source hd ih => exact .define ih source hd
  | register _ hm hmade hmodels _ ih => exact .register ih hm hmade hmodels

theorem Tended.reached {c : Catalog} (h : c.Tended) : c.Reached := by
  induction h with
  | empty => exact .empty
  | define _ source hd ih => exact .define ih source hd
  | register _ hm _ _ ih => exact .register ih hm
  | retain _ _ ih => exact .retain ih _

/-- Live models of one number are one model. -/
theorem Numbered.eq_of_id {c : Catalog} (h : c.Numbered) {m n : Model} (hm : m ∈ c.live)
    (hn : n ∈ c.live) (hid : m.id = n.id) : m = n :=
  List.inj_on_of_nodup_map h.ids hm hn hid

/-- **What tended catalogs have in common**, besides that models and links are told apart. -/
structure Coherent (c : Catalog) : Prop extends c.Numbered where
  declared : ∀ m ∈ c.live, m.Declared
  /-- A live model refers to live models. -/
  closed : ∀ m ∈ c.live, ∀ relation ∈ m.relations, relation.2 ∈ c.live
  /-- A link of a live model is one that it makes. -/
  made : ∀ l ∈ c.links, ∀ m ∈ c.live, l.owner = m.id → l ∈ m.links

namespace Coherent

variable {c c' : Catalog} {b : Blueprint} {m : Model}

/-- What a live model reaches is alive. -/
theorem reach_live (h : c.Coherent) (hm : m ∈ c.live) : ∀ n ∈ m.reach, n ∈ c.live := by
  have hdeclared := h.declared m hm
  induction hdeclared with
  | mk built made related ih =>
      intro n hn
      rcases Model.reach_cases hn with rfl | ⟨relation, hrelation, hn⟩
      · exact hm
      · exact ih relation hrelation (h.closed _ hm relation hrelation) n hn

/-- **A registration keeps the catalog coherent.** -/
theorem register (h : c.Coherent) (hm : c.register b = .ok (m, c'))
    (hmade : ∀ d ∈ b.fields, d.2.Made)
    (hmodels : ∀ d ∈ b.fields, ∀ r, d.2.reference = some r → r.model ∈ c.live) : c'.Coherent := by
  have hnumbered := h.toNumbered.register hm
  obtain ⟨hbuilt, rfl⟩ := register_ok hm
  have hid := Blueprint.build_id hbuilt
  have hlive : ∀ {n : Model}, n ∈ c.live ++ [m] → n ∈ c.live ∨ n = m := fun hn => by
    simpa using hn
  have hrelated : ∀ relation ∈ m.relations, relation.2 ∈ c.live := by
    intro relation hrelation
    obtain ⟨d, hd, r, hr, hmodel⟩ := Blueprint.build_refers hbuilt hrelation
    exact hmodel ▸ hmodels d hd r hr
  refine ⟨hnumbered, fun n hn => ?declared, fun n hn relation hrelation => ?closed,
    fun l hl n hn howner => ?made⟩
  case declared =>
    rcases hlive hn with hn | rfl
    · exact h.declared n hn
    · exact Blueprint.build_declared hbuilt hmade fun d hd r hr =>
        h.declared _ (hmodels d hd r hr)
  case closed =>
    refine List.mem_append_left _ ?_
    rcases hlive hn with hn | rfl
    · exact h.closed n hn relation hrelation
    · exact hrelated relation hrelation
  case made =>
    have hnew : ∀ l ∈ m.links, l.owner = c.nextModel := fun l hl =>
      (Model.owner_of_mem_links hl).trans hid
    -- Older models and older links have numbers below that of the new model.
    rcases (mem_setLinks hnew h.apart l).1 hl with hown | ⟨hold, -⟩
    · rcases hlive hn with hn | rfl
      · have hlt := h.fresh n hn
        have heq := hnew l hown
        omega
      · exact hown
    · rcases hlive hn with hn | rfl
      · exact h.made l hold n hn howner
      · have hlt := h.owned l hold
        omega

/-- **Forgetting models keeps the catalog coherent**: a model that stays keeps those that it
refers to. -/
theorem retain (h : c.Coherent) {held : List Model} (hheld : ∀ m ∈ held, m ∈ c.live) :
    (c.retain held).Coherent := by
  refine ⟨h.toNumbered.retain held, fun m hm => h.declared m (List.mem_filter.1 hm).1,
    fun m hm relation hrelation => ?_, fun l hl m hm => h.made l hl m (List.mem_filter.1 hm).1⟩
  obtain ⟨hm, hkept⟩ := List.mem_filter.1 hm
  have hid : m.id ∈ held.flatMap fun m => m.reach.map (·.id) := by simpa using hkept
  obtain ⟨holder, hholder, hid⟩ := List.mem_flatMap.1 hid
  obtain ⟨n, hn, hid⟩ := List.mem_map.1 hid
  -- The model that is reached under this number is the model itself.
  obtain rfl := h.eq_of_id (h.reach_live (hheld holder hholder) n hn) hm hid
  have hreach : relation.2 ∈ holder.reach :=
    Model.mem_reach_step (h.declared holder (hheld holder hholder)).registered hn hrelation
  have hid : relation.2.id ∈ held.flatMap fun m => m.reach.map (·.id) :=
    List.mem_flatMap.2 ⟨holder, hholder, List.mem_map.2 ⟨relation.2, hreach, rfl⟩⟩
  exact List.mem_filter.2 ⟨h.closed n hm relation hrelation, by simpa using hid⟩

end Coherent

/-- **Every tended catalog is coherent.** -/
theorem Tended.coherent {c : Catalog} (h : c.Tended) : c.Coherent := by
  induction h with
  | empty => exact ⟨Reached.empty.numbered, nofun, nofun, nofun⟩
  | define h source hd ih =>
      have hnumbered := (h.define source hd).reached.numbered
      obtain ⟨d, -, hd⟩ := bind_ok.1 hd
      obtain ⟨-, rfl⟩ := Prod.mk.inj (pure_ok.1 hd)
      exact ⟨hnumbered, ih.declared, ih.closed, ih.made⟩
  | register _ hm hmade hmodels ih => exact ih.register hm hmade hmodels
  | retain _ hheld ih => exact ih.retain hheld

/-! ## §3. Reverse relations. -/

/-- **A model in the reverse relations** of another one is alive, and has a foreign key for it
under that name. -/
theorem Coherent.linksAs_of_reverse {c : Catalog} (h : c.Coherent) {m owner : Model}
    (hm : m ∈ c.live) {accessor : String} (howner : (accessor, owner) ∈ c.reverseRelations m) :
    owner ∈ c.live ∧ owner.LinksAs m accessor := by
  obtain ⟨l, hl, htarget, rfl, hfound⟩ := mem_reverseRelations.1 howner
  have hlive : owner ∈ c.live := List.mem_of_find?_eq_some hfound
  have hid : owner.id = l.owner := by simpa using List.find?_some hfound
  obtain ⟨⟨name, related⟩, hrelation, hlink⟩ :=
    List.mem_filterMap.1 (h.made l hl owner hlive hid.symm)
  obtain ⟨key, hkey, rfl⟩ := Option.map_eq_some_iff.1 hlink
  obtain rfl := h.eq_of_id (h.closed owner hlive _ hrelation) hm htarget
  exact ⟨hlive, ((h.declared owner hlive).linksAs_iff _ _).2 ⟨name, _, key, hrelation, hkey, rfl, rfl⟩⟩

end Catalog

end RecordMapper
