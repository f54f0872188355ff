/-
  RecordMapper.Proofs.Schema.Linked
  ────────────────────────────────
  **LINKS BACK FROM THE MODELS REFERRED TO.**

  A foreign key makes a link from the model it refers to, under its reverse name.  The
  links of all models are in one place, and a link under a name that is taken replaces
  the one that has it: two models that refer to a third under one reverse name cannot
  both be found from there, although both go on referring to it.

  `Catalog.Filled` are the catalogs that registrations lead to.  What they keep is one
  invariant, `Catalog.Consistent`; one registration preserves it, and it says which link
  stands under which name after any number of them: the one made last.

  Main results:
    • `reverse_link_iff` — whether a model is found from one that it refers to;
    • `taken_name_loses_link` — two models that share a reverse name.
-/
import RecordMapper.Proofs.Query.Built
import RecordMapper.Proofs.Schema.Invariant

namespace RecordMapper

/-! ## §1. Setting links. -/

namespace Link

/-- The links stand in one place: they have the same target and the same reverse name. -/
def Meets (l l' : Link) : Prop :=
  l.target = l'.target ∧ l.accessor = l'.accessor

instance (l l' : Link) : Decidable (l.Meets l') :=
  inferInstanceAs (Decidable (_ ∧ _))

/-- No two links stand in one place. -/
def Apart (links : List Link) : Prop :=
  links.Pairwise fun l l' => ¬ l.Meets l'

end Link

namespace Catalog

theorem setLink_cons (link x : Link) (rest : List Link) :
    setLink link (x :: rest) = if x.Meets link then link :: rest else x :: setLink link rest := by
  rw [setLink]
  by_cases hmeets : x.Meets link
  · rw [if_pos hmeets, if_pos (by simpa [Link.Meets] using hmeets)]
  · rw [if_neg hmeets, if_neg (by simpa [Link.Meets] using hmeets)]

/-- **A link that is set** is there, and replaces the one in its place. -/
theorem mem_setLink {link : Link} : ∀ {links : List Link}, Link.Apart links → ∀ l,
    l ∈ setLink link links ↔ l = link ∨ (l ∈ links ∧ ¬ l.Meets link)
  | [], _, l => by
      simp [setLink]
  | x :: rest, h, l => by
      obtain ⟨hx, hrest⟩ := List.pairwise_cons.1 h
      rw [setLink_cons]
      by_cases hmeets : x.Meets link
      · rw [if_pos hmeets, List.mem_cons, List.mem_cons]
        constructor
        · rintro (rfl | hl)
          · exact .inl rfl
          -- A link of the rest stands apart from the one that is replaced.
          · refine .inr ⟨.inr hl, fun hl' => hx l hl ?_⟩
            exact ⟨hmeets.1.trans hl'.1.symm, hmeets.2.trans hl'.2.symm⟩
        · rintro (rfl | ⟨rfl | hl, hne⟩)
          · exact .inl rfl
          · exact absurd hmeets hne
          · exact .inr hl
      · rw [if_neg hmeets, List.mem_cons, List.mem_cons, mem_setLink hrest]
        constructor
        · rintro (rfl | rfl | ⟨hl, hne⟩)
          · exact .inr ⟨.inl rfl, hmeets⟩
          · exact .inl rfl
          · exact .inr ⟨.inr hl, hne⟩
        · rintro (rfl | ⟨rfl | hl, hne⟩)
          · exact .inr (.inl rfl)
          · exact .inl rfl
          · exact .inr (.inr ⟨hl, hne⟩)

/-- Links go on standing apart. -/
theorem apart_setLink (link : Link) : ∀ {links : List Link}, Link.Apart links →
    Link.Apart (setLink link links)
  | [], _ => List.pairwise_singleton _ _
  | x :: rest, h => by
      obtain ⟨hx, hrest⟩ := List.pairwise_cons.1 h
      rw [setLink_cons]
      by_cases hmeets : x.Meets link
      · rw [if_pos hmeets]
        refine List.pairwise_cons.2 ⟨fun l hl hl' => hx l hl ?_, hrest⟩
        exact ⟨hmeets.1.trans hl'.1, hmeets.2.trans hl'.2⟩
      · rw [if_neg hmeets]
        refine List.pairwise_cons.2 ⟨fun l hl => ?_, apart_setLink link hrest⟩
        rcases (mem_setLink hrest l).1 hl with rfl | ⟨hl, -⟩
        · exact hmeets
        · exact hx l hl

/-- Several links are set, one after the other. -/
def setLinks (links new : List Link) : List Link :=
  new.foldl (fun links link => setLink link links) links

theorem apart_setLinks : ∀ (new : List Link) {links : List Link}, Link.Apart links →
    Link.Apart (setLinks links new)
  | [], _, h => h
  | x :: new, _, h => apart_setLinks new (apart_setLink x h)

/-- **The links of one model** are there once they are set, and replace what was in their
places. -/
theorem mem_setLinks {owner : Nat} : ∀ {new : List Link}, (∀ l ∈ new, l.owner = owner) →
    ∀ {links : List Link}, Link.Apart links → ∀ l,
      l ∈ setLinks links new ↔ l ∈ new ∨ (l ∈ links ∧ ∀ l' ∈ new, ¬ l.Meets l')
  | [], _, links, _, l => by
      simp [setLinks]
  | x :: new, howner, links, h, l => by
      have hrest : ∀ l ∈ new, l.owner = owner := fun l hl => howner l (List.mem_cons_of_mem _ hl)
      show l ∈ setLinks (setLink x links) new ↔ _
      rw [mem_setLinks hrest (apart_setLink x h), mem_setLink h]
      constructor
      · rintro (hl | ⟨rfl | ⟨hl, hne⟩, hnew⟩)
        · exact .inl (List.mem_cons_of_mem _ hl)
        · exact .inl List.mem_cons_self
        · refine .inr ⟨hl, fun l' hl' => ?_⟩
          rcases List.mem_cons.1 hl' with rfl | hl'
          · exact hne
          · exact hnew l' hl'
      · rintro (hl | ⟨hl, hnew⟩)
        · rcases List.mem_cons.1 hl with rfl | hl
          -- A later link of the same model in the same place is the same link.
          · by_cases hmeets : ∃ l' ∈ new, l.Meets l'
            · obtain ⟨l', hl', htarget, haccessor⟩ := hmeets
              have hsame : l = l' := by
                have hl'owner := hrest l' hl'
                have hlowner := howner l List.mem_cons_self
                cases l
                cases l'
                simp_all
              exact .inl (hsame ▸ hl')
            · exact .inr ⟨.inl rfl, fun l' hl' hm => hmeets ⟨l', hl', hm⟩⟩
          · exact .inl hl
        · exact .inr ⟨.inr ⟨hl, hnew x List.mem_cons_self⟩,
            fun l' hl' => hnew l' (List.mem_cons_of_mem _ hl')⟩

end Catalog

/-! ## §2. What registrations lead to. -/

namespace Catalog

/-- **A catalog that was filled**: models were registered one after the other, under new
names, from definitions that were made and refer to models registered before; all of them
are kept alive. -/
inductive Filled : Catalog → Prop
  | empty : Filled .empty
  | define {c c' : Catalog} {d : Definition} (h : Filled c) (source : Definition.Source)
      (hd : c.define source = .ok (d, c')) : Filled c'
  | register {c c' : Catalog} {b : Blueprint} {m : Model} (h : Filled c)
      (hm : c.register b = .ok (m, c')) (hmade : ∀ d ∈ b.fields, d.2.Made)
      (hmodels : ∀ d ∈ b.fields, ∀ r, d.2.reference = some r → r.model ∈ c.live)
      (hname : ∀ other ∈ c.live, other.name ≠ b.name) : Filled c'

/-- **What filled catalogs have in common.** -/
structure Consistent (c : Catalog) : Prop where
  names : (c.live.map (·.name)).Nodup
  ids : (c.live.map (·.id)).Nodup
  fresh : ∀ m ∈ c.live, m.id < c.nextModel
  declared : ∀ m ∈ c.live, m.Declared
  /-- A model refers to models registered before it. -/
  earlier : ∀ m ∈ c.live, ∀ relation ∈ m.relations, relation.2 ∈ c.live ∧ relation.2.id < m.id
  apart : Link.Apart c.links
  owned : ∀ l ∈ c.links, l.owner < c.nextModel
  /-- The links of a model stand where no model after it makes one. -/
  links : ∀ before m after, c.live = before ++ m :: after → ∀ l, l.owner = m.id →
    (l ∈ c.links ↔ l ∈ m.links ∧ ∀ n ∈ after, ∀ l' ∈ n.links, ¬ l.Meets l')

end Catalog

/-- The links of a model are its own. -/
theorem Model.owner_of_mem_links {m : Model} {l : Link} (h : l ∈ m.links) : l.owner = m.id := by
  obtain ⟨⟨name, related⟩, -, hlink⟩ := List.mem_filterMap.1 h
  obtain ⟨key, -, rfl⟩ := Option.map_eq_some_iff.1 hlink
  rfl

theorem Blueprint.build_id {b : Blueprint} {id : Nat} {m : Model} (h : b.build id = .ok m) :
    m.id = id := by
  unfold build at h
  obtain ⟨fields, _, h⟩ := bind_ok.1 h
  obtain ⟨key, _, h⟩ := bind_ok.1 h
  obtain ⟨ordering, _, h⟩ := bind_ok.1 h
  obtain rfl := pure_ok.1 h
  rfl

/-- What a built model refers to is what its definitions refer to. -/
theorem Blueprint.build_refers {b : Blueprint} {id : Nat} {m : Model} (h : b.build id = .ok m)
    {relation : String × Model} (hrelation : relation ∈ m.relations) :
    ∃ d ∈ b.fields, ∃ r, d.2.reference = some r ∧ r.model = relation.2 := by
  rw [(Blueprint.build_eq h).2.1] at hrelation
  obtain ⟨⟨name, d⟩, hd, hpair⟩ := List.mem_filterMap.1 hrelation
  obtain ⟨r, hr, rfl⟩ := Option.map_eq_some_iff.1 hpair
  exact ⟨(name, d), Blueprint.mem_declared.1 hd, r, hr, rfl⟩

namespace Catalog

/-- What a registration does to a catalog. -/
theorem register_ok {c c' : Catalog} {b : Blueprint} {m : Model}
    (h : c.register b = .ok (m, c')) :
    b.build c.nextModel = .ok m
      ∧ c' = { c with
        nextModel := c.nextModel + 1, live := c.live ++ [m], links := setLinks c.links m.links } := by
  obtain ⟨built, hbuilt, h⟩ := bind_ok.1 h
  obtain ⟨rfl, rfl⟩ := Prod.mk.inj (pure_ok.1 h)
  exact ⟨hbuilt, rfl⟩

/-- **A model that comes last** replaces the links that stand where it makes its own. -/
theorem Consistent.links_concat {c : Catalog} (h : c.Consistent) {m : Model}
    (hid : m.id = c.nextModel) {before after : List Model} {n : Model}
    (hlive : c.live ++ [m] = before ++ n :: after) (l : Link) (hl : l.owner = n.id) :
    l ∈ setLinks c.links m.links
      ↔ l ∈ n.links ∧ ∀ n' ∈ after, ∀ l' ∈ n'.links, ¬ l.Meets l' := by
  have howner : ∀ l ∈ m.links, l.owner = c.nextModel := by
    intro l hl
    rw [Model.owner_of_mem_links hl, hid]
  rw [mem_setLinks howner h.apart]
  rcases List.eq_nil_or_concat' after with rfl | ⟨others, last, rfl⟩
  -- The model is the new one: no link of an older model has its number.
  · obtain ⟨-, hlast⟩ := List.append_inj' hlive rfl
    obtain rfl := List.head_eq_of_cons_eq hlast
    constructor
    · rintro (hmem | ⟨hmem, -⟩)
      · exact ⟨hmem, nofun⟩
      · have hlt := h.owned l hmem
        omega
    · rintro ⟨hmem, -⟩
      exact .inl hmem
  -- The model is an older one, and the new one comes behind those after it.
  · have hsplit : c.live ++ [m] = (before ++ n :: others) ++ [last] := by
      rw [hlive, List.append_assoc, List.cons_append]
    obtain ⟨hold, hlast⟩ := List.append_inj' hsplit rfl
    obtain rfl := List.head_eq_of_cons_eq hlast
    have hnotNew : l ∉ m.links := by
      intro hmem
      have hnew := howner l hmem
      have hlt := h.fresh n (by rw [hold]; simp)
      omega
    rw [h.links before n others hold l hl]
    constructor
    · rintro (hmem | ⟨⟨hmem, hothers⟩, hlast⟩)
      · exact absurd hmem hnotNew
      · refine ⟨hmem, fun n' hn' => ?_⟩
        rcases List.mem_append.1 hn' with hn' | hn'
        · exact hothers n' hn'
        · obtain rfl := List.mem_singleton.1 hn'
          exact hlast
    · rintro ⟨hmem, hafter⟩
      exact .inr ⟨⟨hmem, fun n' hn' => hafter n' (List.mem_append_left _ hn')⟩,
        hafter m (List.mem_append_right _ List.mem_cons_self)⟩

/-- A new model of which something is told apart from what it is of every other model. -/
theorem nodup_live_concat {β : Type} {f : Model → β} {c : Catalog} {m : Model}
    (h : (c.live.map f).Nodup) (hnew : ∀ other ∈ c.live, f other ≠ f m) :
    ((c.live ++ [m]).map f).Nodup := by
  rw [List.map_append]
  refine List.nodup_append.2 ⟨h, List.nodup_singleton _, ?_⟩
  intro x hx y hy hxy
  obtain ⟨other, hother, rfl⟩ := List.mem_map.1 hx
  exact hnew other hother (hxy.trans (List.mem_singleton.1 hy))

/-- **One registration keeps the catalog consistent.** -/
theorem Consistent.register {c c' : Catalog} {b : Blueprint} {m : Model} (h : c.Consistent)
    (hm : c.register b = .ok (m, c')) (hmade : ∀ d ∈ b.fields, d.2.Made)
    (hmodels : ∀ d ∈ b.fields, ∀ r, d.2.reference = some r → r.model ∈ c.live)
    (hname : ∀ other ∈ c.live, other.name ≠ b.name) : c'.Consistent := by
  obtain ⟨hbuilt, rfl⟩ := register_ok hm
  have hid := Blueprint.build_id hbuilt
  obtain ⟨hmname, -, -⟩ := Blueprint.build_eq hbuilt
  -- The new model comes last, under a new number.
  have hmem : ∀ {n : Model}, n ∈ c.live ++ [m] → n ∈ c.live ∨ n = m := by
    intro n hn
    simpa using hn
  have hrelated : ∀ relation ∈ m.relations, relation.2 ∈ c.live := by
    intro relation hrelation
    obtain ⟨d, hd, r, hr, hmodel⟩ := Blueprint.build_refers hbuilt hrelation
    exact hmodel ▸ hmodels d hd r hr
  have howner : ∀ l ∈ m.links, l.owner = c.nextModel := by
    intro l hl
    rw [Model.owner_of_mem_links hl, hid]
  exact {
    names := by
      refine nodup_live_concat h.names fun other hother => ?_
      rw [hmname]
      exact hname other hother
    ids := by
      refine nodup_live_concat h.ids fun other hother => ?_
      have hlt := h.fresh other hother
      omega
    fresh := by
      intro n hn
      rcases hmem hn with hn | rfl
      · have hlt := h.fresh n hn
        show n.id < c.nextModel + 1
        omega
      · show n.id < c.nextModel + 1
        omega
    declared := by
      intro n hn
      rcases hmem hn with hn | rfl
      · exact h.declared n hn
      · exact Blueprint.build_declared hbuilt hmade fun d hd r hr =>
          h.declared _ (hmodels d hd r hr)
    earlier := by
      intro n hn relation hrelation
      rcases hmem hn with hn | rfl
      · obtain ⟨hlive, hlt⟩ := h.earlier n hn relation hrelation
        exact ⟨List.mem_append_left _ hlive, hlt⟩
      · have hlive := hrelated relation hrelation
        have hlt := h.fresh _ hlive
        exact ⟨List.mem_append_left _ hlive, by omega⟩
    apart := apart_setLinks m.links h.apart
    owned := by
      intro l hl
      show l.owner < c.nextModel + 1
      rcases (mem_setLinks howner h.apart l).1 hl with hl | ⟨hl, -⟩
      · have heq := howner l hl
        omega
      · have hlt := h.owned l hl
        omega
    links := fun _ _ _ hlive l hl => h.links_concat hid hlive l hl }

theorem consistent_empty : Catalog.empty.Consistent where
  names := List.nodup_nil
  ids := List.nodup_nil
  fresh := nofun
  declared := nofun
  earlier := nofun
  apart := List.Pairwise.nil
  owned := nofun
  links := fun before m after h => by
    have hlength := congrArg List.length h
    simp [empty] at hlength

/-- **Every filled catalog is consistent.** -/
theorem Filled.consistent {c : Catalog} (h : c.Filled) : c.Consistent := by
  induction h with
  | empty => exact consistent_empty
  | define _ source hd ih =>
      obtain ⟨d, -, hd⟩ := bind_ok.1 hd
      obtain ⟨-, rfl⟩ := Prod.mk.inj (pure_ok.1 hd)
      exact ⟨ih.names, ih.ids, ih.fresh, ih.declared, ih.earlier, ih.apart, ih.owned, ih.links⟩
  | register _ hm hmade hmodels hname ih => exact ih.register hm hmade hmodels hname

end Catalog

/-! ## §3. Whether a model is found from one that it refers to. -/

/-- **The model makes a link to the other one under this name**: a foreign key of it to
that model has the reverse name. -/
def Model.LinksAs (m other : Model) (accessor : String) : Prop :=
  ∃ f ∈ m.fields, ∃ key, f.foreignKey = some key ∧ key.model = other.name
    ∧ key.reverseName = accessor

namespace Model

/-- A foreign key field has a relation under its name. -/
theorem Declared.relation_of_key {m : Model} (h : m.Declared) {f : Field} (hf : f ∈ m.fields)
    {key : ForeignKey} (hkey : f.foreignKey = some key) :
    ∃ related, (f.name, related) ∈ m.relations := by
  obtain ⟨hbuilt, _, _⟩ := h
  have hmem : f.name ∈ m.relations.map (·.1) := by
    rw [Blueprint.relations_names hbuilt]
    exact List.mem_map.2 ⟨f, List.mem_filter.2 ⟨hf, by rw [hkey]; rfl⟩, rfl⟩
  obtain ⟨⟨name, related⟩, hmem, rfl⟩ := List.mem_map.1 hmem
  exact ⟨related, hmem⟩

/-- **The links of a model are told by its relations**, each with the foreign key that is
found under its name. -/
theorem Declared.linksAs_iff {m : Model} (h : m.Declared) (other : Model) (accessor : String) :
    m.LinksAs other accessor ↔ ∃ name related key, (name, related) ∈ m.relations
      ∧ (m.field? name).bind (·.foreignKey) = some key ∧ related.name = other.name
      ∧ key.reverseName = accessor := by
  constructor
  · rintro ⟨f, hf, key, hkey, hmodel, haccessor⟩
    obtain ⟨related, hrelation⟩ := h.relation_of_key hf hkey
    obtain ⟨field, key', hfound, hrefers⟩ := h.refers hrelation
    rw [field?_name h.registered.fieldNames_nodup hf] at hfound
    obtain rfl := Option.some.inj hfound
    obtain rfl := Option.some.inj (hkey.symm.trans hrefers.key_eq)
    refine ⟨f.name, related, key, hrelation, ?_, hrefers.model_eq.symm.trans hmodel, haccessor⟩
    rw [field?_name h.registered.fieldNames_nodup hf]
    exact hkey
  · rintro ⟨name, related, key, hrelation, hfound, hname, haccessor⟩
    obtain ⟨field, key', hfield, hrefers⟩ := h.refers hrelation
    rw [hfield] at hfound
    obtain rfl := Option.some.inj (hrefers.key_eq.symm.trans hfound)
    exact ⟨field, hrefers.mem, key', hrefers.key_eq, hrefers.model_eq.trans hname, haccessor⟩

/-- A foreign key to the other model is found exactly when there is one. -/
theorem Declared.relatedField?_isSome {m : Model} (h : m.Declared) (other : Model) :
    (m.relatedField? other none).isSome = true ↔ ∃ accessor, m.LinksAs other accessor := by
  unfold relatedField?
  simp only [h.linksAs_iff]
  constructor
  · intro hsome
    obtain ⟨f, hf⟩ := Option.isSome_iff_exists.1 hsome
    obtain ⟨⟨name, related⟩, hfound, hfield⟩ := Option.bind_eq_some_iff.1 hf
    have hrelation := List.mem_of_find?_eq_some hfound
    obtain ⟨field, key, hfield, hrefers⟩ := h.refers hrelation
    refine ⟨key.reverseName, name, related, key, hrelation, ?_, ?_, rfl⟩
    · rw [hfield]
      exact hrefers.key_eq
    · simpa [same] using List.find?_some hfound
  · rintro ⟨accessor, name, related, key, hrelation, hfield, hname, -⟩
    have hsome : (m.relations.find? fun relation =>
        relation.2.same other && Option.all (· == relation.1) none).isSome = true :=
      List.find?_isSome.2 ⟨_, hrelation, by simp [same, hname]⟩
    obtain ⟨relation, hfound⟩ := Option.isSome_iff_exists.1 hsome
    obtain ⟨field, key', hfield', -⟩ := h.refers (List.mem_of_find?_eq_some hfound)
    exact Option.isSome_iff_exists.2 ⟨field, Option.bind_eq_some_iff.2 ⟨relation, hfound, hfield'⟩⟩

end Model

namespace Catalog

variable {c : Catalog}

/-- Live models of one name are one model. -/
theorem Consistent.eq_of_name (h : c.Consistent) {m n : Model} (hm : m ∈ c.live) (hn : n ∈ c.live)
    (hname : m.name = n.name) : m = n :=
  List.inj_on_of_nodup_map h.names hm hn hname

/-- Live models of one number are one model. -/
theorem Consistent.eq_of_id (h : c.Consistent) {m n : Model} (hm : m ∈ c.live) (hn : n ∈ c.live)
    (hid : m.id = n.id) : m = n :=
  List.inj_on_of_nodup_map h.ids hm hn hid

/-- A live model is found by its number. -/
theorem Consistent.model?_id (h : c.Consistent) {m : Model} (hm : m ∈ c.live) :
    c.model? m.id = some m := by
  have hsome : (c.model? m.id).isSome = true := List.find?_isSome.2 ⟨m, hm, by simp⟩
  obtain ⟨n, hn⟩ := Option.isSome_iff_exists.1 hsome
  have hid : n.id = m.id := by simpa using List.find?_some hn
  rw [hn, h.eq_of_id (List.mem_of_find?_eq_some hn) hm hid]

/-- **The links that a live model makes to another** are those of its foreign keys. -/
theorem Consistent.links_iff (h : c.Consistent) {m other : Model} (hm : m ∈ c.live)
    (hother : other ∈ c.live) (accessor : String) :
    (∃ l ∈ m.links, l.target = other.id ∧ l.accessor = accessor) ↔ m.LinksAs other accessor := by
  rw [(h.declared m hm).linksAs_iff]
  constructor
  · rintro ⟨l, hl, htarget, haccessor⟩
    obtain ⟨⟨name, related⟩, hrelation, hlink⟩ := List.mem_filterMap.1 hl
    obtain ⟨key, hkey, rfl⟩ := Option.map_eq_some_iff.1 hlink
    have hrelated := (h.earlier m hm _ hrelation).1
    have heq := h.eq_of_id hrelated hother htarget
    exact ⟨name, related, key, hrelation, hkey, congrArg Model.name heq, haccessor⟩
  · rintro ⟨name, related, key, hrelation, hkey, hname, haccessor⟩
    have hrelated := (h.earlier m hm _ hrelation).1
    have heq := h.eq_of_name hrelated hother hname
    refine ⟨⟨related.id, key.reverseName, m.id⟩, ?_, congrArg Model.id heq, haccessor⟩
    exact List.mem_filterMap.2 ⟨_, hrelation, Option.map_eq_some_iff.2 ⟨key, hkey, rfl⟩⟩

/-- A live model is among the reverse relations of another one when a link leads to it. -/
theorem Consistent.any_reverseRelations (h : c.Consistent) {m : Model} (hm : m ∈ c.live)
    (other : Model) : ((c.reverseRelations other).any (·.2.same m)) = true
      ↔ ∃ l ∈ c.links, l.target = other.id ∧ l.owner = m.id := by
  unfold reverseRelations
  rw [List.any_eq_true]
  constructor
  · rintro ⟨⟨accessor, owner⟩, hmem, hsame⟩
    obtain ⟨l, hl, hpair⟩ := List.mem_filterMap.1 hmem
    obtain ⟨hl, htarget⟩ := List.mem_filter.1 hl
    obtain ⟨n, hn, hpair⟩ := Option.map_eq_some_iff.1 hpair
    obtain ⟨-, rfl⟩ := Prod.mk.inj hpair
    have hname : n.name = m.name := by simpa [Model.same] using hsame
    obtain rfl := h.eq_of_name (List.mem_of_find?_eq_some hn) hm hname
    have hid : n.id = l.owner := by simpa using List.find?_some hn
    exact ⟨l, hl, by simpa using htarget, hid.symm⟩
  · rintro ⟨l, hl, htarget, howner⟩
    refine ⟨(l.accessor, m), List.mem_filterMap.2 ⟨l, ?_, ?_⟩, by simp [Model.same]⟩
    · exact List.mem_filter.2 ⟨hl, by simpa using htarget⟩
    · rw [howner, h.model?_id hm]
      rfl

/-- **A model is found from one that it refers to** exactly when one of its links to it
stands under a name that no later model uses for a link to it. -/
theorem Consistent.reverseRelatedField?_isSome (h : c.Consistent) {before after : List Model}
    {m other : Model} (hlive : c.live = before ++ m :: after) (hother : other ∈ c.live) :
    (c.reverseRelatedField? other m none).isSome = true
      ↔ ∃ accessor, m.LinksAs other accessor ∧ ∀ n ∈ after, ¬ n.LinksAs other accessor := by
  have hm : m ∈ c.live := by
    rw [hlive]
    simp
  have hafter : ∀ n ∈ after, n ∈ c.live := by
    intro n hn
    rw [hlive]
    simp [hn]
  have hlink : (∃ l ∈ c.links, l.target = other.id ∧ l.owner = m.id)
      ↔ ∃ accessor, m.LinksAs other accessor ∧ ∀ n ∈ after, ¬ n.LinksAs other accessor := by
    constructor
    · rintro ⟨l, hl, htarget, howner⟩
      obtain ⟨hmem, hlater⟩ := (h.links before m after hlive l howner).1 hl
      refine ⟨l.accessor, (h.links_iff hm hother _).1 ⟨l, hmem, htarget, rfl⟩, fun n hn hn' => ?_⟩
      obtain ⟨l', hl', htarget', haccessor'⟩ := (h.links_iff (hafter n hn) hother _).2 hn'
      exact hlater n hn l' hl' ⟨htarget.trans htarget'.symm, haccessor'.symm⟩
    · rintro ⟨accessor, hmakes, hlater⟩
      obtain ⟨l, hl, htarget, haccessor⟩ := (h.links_iff hm hother _).2 hmakes
      have howner := Model.owner_of_mem_links hl
      refine ⟨l, (h.links before m after hlive l howner).2 ⟨hl, fun n hn l' hl' hmeets => ?_⟩,
        htarget, howner⟩
      exact hlater n hn ((h.links_iff (hafter n hn) hother _).1
        ⟨l', hl', hmeets.1.symm.trans htarget, hmeets.2.symm.trans haccessor⟩)
  unfold reverseRelatedField?
  by_cases hany : ((c.reverseRelations other).any (·.2.same m)) = true
  · rw [if_pos hany]
    have hfound := hlink.1 ((h.any_reverseRelations hm other).1 hany)
    have hrefers := ((h.declared m hm).relatedField?_isSome other).2
      (hfound.imp fun _ hmakes => hmakes.1)
    exact ⟨fun _ => hfound, fun _ => hrefers⟩
  · rw [if_neg hany]
    refine ⟨nofun, fun hfound => ?_⟩
    exact absurd ((h.any_reverseRelations hm other).2 (hlink.2 hfound)) hany

/-- A model that another one refers to does not refer to it. -/
theorem Consistent.not_linksAs (h : c.Consistent) {m other : Model} (hm : m ∈ c.live)
    (hother : other ∈ c.live) {accessor : String} (hlinks : m.LinksAs other accessor) :
    other.relatedField? m none = none := by
  have hbefore : ∀ {n n' : Model} {accessor : String}, n ∈ c.live → n' ∈ c.live →
      n.LinksAs n' accessor → n'.id < n.id := by
    intro n n' accessor hn hn' hlinks
    obtain ⟨name, related, key, hrelation, -, hname, -⟩ :=
      ((h.declared n hn).linksAs_iff n' accessor).1 hlinks
    obtain ⟨hrelated, hlt⟩ := h.earlier n hn _ hrelation
    rwa [h.eq_of_name hrelated hn' hname] at hlt
  cases hback : other.relatedField? m none with
  | none => rfl
  | some f =>
      have hsome : (other.relatedField? m none).isSome = true := by
        rw [hback]
        rfl
      obtain ⟨accessor', hlinks'⟩ := ((h.declared other hother).relatedField?_isSome m).1 hsome
      have hlt := hbefore hm hother hlinks
      have hlt' := hbefore hother hm hlinks'
      omega

end Catalog

/-! ## §4. Joins in both directions. -/

/-- A model can be joined when a foreign key is found on one of the two sides. -/
theorem Select.join_iff {q : Select} {c : Catalog} {m : Model} {type : JoinType}
    {on wanted : Option String} : (∃ q', q.join c m type on wanted = .ok q')
      ↔ (q.active.relatedField? m on).isSome = true
        ∨ (c.reverseRelatedField? q.active m on).isSome = true := by
  unfold join joinSides?
  cases q.active.relatedField? m on with
  | some key => simp
  | none => cases c.reverseRelatedField? q.active m on <;> simp

/-- **Links back after any registrations.**  A model is found from one that it refers to, and
can be joined from there, exactly when it has a reverse name for it that no later model
uses for a link to the same model.  In the direction of the foreign key the join always
succeeds; what is found is a foreign key to that model; and one more registration leaves
the link standing unless the new model takes every such name. -/
theorem reverse_link_iff {c : Catalog} (hc : c.Filled) {before after : List Model} {M R : Model}
    (hlive : c.live = before ++ M :: after) (hR : R ∈ c.live) :
    ((c.reverseRelatedField? R M none).isSome = true
        ↔ ∃ accessor, M.LinksAs R accessor ∧ ∀ N ∈ after, ¬ N.LinksAs R accessor)
      ∧ (∀ f, c.reverseRelatedField? R M none = some f → ∃ key, M.Refers R f key)
      ∧ ((∃ accessor, M.LinksAs R accessor) → ∀ type wanted,
          (∃ q, (Select.ofModel M).join c R type none wanted = .ok q)
            ∧ ((∃ q, (Select.ofModel R).join c M type none wanted = .ok q)
              ↔ (c.reverseRelatedField? R M none).isSome = true))
      ∧ ∀ b N c', c.register b = .ok (N, c') → (∀ d ∈ b.fields, d.2.Made) →
          (∀ d ∈ b.fields, ∀ r, d.2.reference = some r → r.model ∈ c.live) →
          (∀ other ∈ c.live, other.name ≠ b.name) →
          ((c'.reverseRelatedField? R M none).isSome = true
            ↔ ∃ accessor, M.LinksAs R accessor ∧ (∀ N' ∈ after, ¬ N'.LinksAs R accessor)
              ∧ ¬ N.LinksAs R accessor) := by
  have h := hc.consistent
  have hM : M ∈ c.live := by
    rw [hlive]
    simp
  refine ⟨h.reverseRelatedField?_isSome hlive hR, ?_, ?_, ?_⟩
  · intro f hf
    unfold Catalog.reverseRelatedField? at hf
    split at hf
    · obtain ⟨relation, hrelation, hname, hrefers⟩ :=
        (h.declared M hM).relatedField?_relation hf
      rwa [h.eq_of_name (h.earlier M hM relation hrelation).1 hR hname] at hrefers
    · cases hf
  · rintro ⟨accessor, hlinks⟩ type wanted
    have hforward := ((h.declared M hM).relatedField?_isSome R).2 ⟨accessor, hlinks⟩
    refine ⟨Select.join_iff.2 (.inl hforward), ?_⟩
    have hback : ((Select.ofModel R).active.relatedField? M none).isSome = false := by
      show (R.relatedField? M none).isSome = false
      rw [h.not_linksAs hM hR hlinks]
      rfl
    rw [Select.join_iff, hback]
    simp
    rfl
  · intro b N c' hN hmade hmodels hname
    have hc' := h.register hN hmade hmodels hname
    obtain ⟨-, rfl⟩ := Catalog.register_ok hN
    have hlive' : c.live ++ [N] = before ++ M :: (after ++ [N]) := by
      rw [hlive, List.append_assoc, List.cons_append]
    rw [hc'.reverseRelatedField?_isSome hlive' (List.mem_append_left _ hR)]
    simp only [List.mem_append, List.mem_singleton, or_imp, forall_and, forall_eq]

namespace Sample

/-- A catalog with one more model. -/
def adding (c : Catalog) (b : Blueprint) : Catalog :=
  match c.register b with
  | .ok (_, c') => c'
  | .error _ => c

theorem adding_filled {c : Catalog} {b : Blueprint} (h : c.Filled) (hmade : ∀ d ∈ b.fields, d.2.Made)
    (hmodels : ∀ d ∈ b.fields, ∀ r, d.2.reference = some r → r.model ∈ c.live)
    (hname : ∀ other ∈ c.live, other.name ≠ b.name) : (adding c b).Filled := by
  unfold adding
  split
  · rename_i m c' hm
    exact .register h hm hmade hmodels hname
  · exact h

/-- Authors. -/
def authorsOnly : Catalog := adding .empty authorPlan

theorem authorsOnly_filled : authorsOnly.Filled := by
  refine adding_filled .empty authorPlan_made (fun d hd r hr => ?_) nofun
  simp only [authorPlan, List.mem_cons, List.not_mem_nil, or_false] at hd
  obtain rfl | rfl := hd <;> cases hr

/-- Authors and their books. -/
def authorsAndBooks : Catalog := adding authorsOnly bookPlan

theorem authorsAndBooks_filled : authorsAndBooks.Filled := by
  refine adding_filled authorsOnly_filled bookPlan_made (fun d hd r hr => ?_) (by decide)
  rw [bookPlan_refers d hd r hr]
  exact List.mem_cons_self

end Sample

open Sample in
/-- Books are found from authors, and joined in both directions. -/
theorem authorsAndBooks_joined :
    (authorsAndBooks.reverseRelatedField? author book none).isSome = true
      ∧ (∃ q, (Select.ofModel book).join authorsAndBooks author .inner none none = .ok q)
      ∧ ∃ q, (Select.ofModel author).join authorsAndBooks book .inner none none = .ok q := by
  have hlive : authorsAndBooks.live = [author] ++ book :: [] := rfl
  have hlinks : book.LinksAs author "written" :=
    ⟨bookAuthor, by decide, _, rfl, rfl, rfl⟩
  obtain ⟨hfound, -, hjoins, -⟩ :=
    reverse_link_iff authorsAndBooks_filled hlive List.mem_cons_self
  have hback := hfound.2 ⟨"written", hlinks, nofun⟩
  obtain ⟨hforward, hbackward⟩ := hjoins ⟨"written", hlinks⟩ .inner none
  exact ⟨hback, hforward, hbackward.2 hback⟩

namespace Sample

/-- Works of a kind, which belong to an author and are called `works` there. -/
def worksPlan (name : String) (ordinal : Nat) : Blueprint :=
  { Blueprint.named name with
    fields := [("id", { Definition.ofKind ordinal .integer with primary := true }),
      ("author_id", authorKey "author" "works" (ordinal + 1))] }

theorem worksPlan_made (name : String) (ordinal : Nat) :
    ∀ d ∈ (worksPlan name ordinal).fields, d.2.Made := by
  intro d hd
  simp only [worksPlan, List.mem_cons, List.not_mem_nil, or_false] at hd
  obtain rfl | rfl := hd
  · exact .primary (.source (.ofKind .integer) rfl) rfl
  · exact .reverseName (.relatedName (.nullable (.source (.foreignKey author) rfl) rfl) "author")
      "works"

theorem worksPlan_refers (name : String) (ordinal : Nat) :
    ∀ d ∈ (worksPlan name ordinal).fields, ∀ r, d.2.reference = some r → r.model = author := by
  intro d hd r hr
  simp only [worksPlan, List.mem_cons, List.not_mem_nil, or_false] at hd
  obtain rfl | rfl := hd <;> cases hr
  rfl

/-- The primary key of an essay. -/
def essayId : Field := { field "Essay" "essay" "id" .integer 2 with primary := true }

/-- The author of an essay. -/
def essayAuthor : Field :=
  { field "Essay" "essay" "author_id" .integer 3 with
    nullable := true
    foreignKey := some ⟨"Author", authorId.toAttribute, "author", "works"⟩ }

/-- **Essays.** -/
def essay : Model :=
  { book with
    name := "Essay"
    table := "essay"
    fields := [essayId, essayAuthor]
    primaryKey := essayId
    relations := [("author_id", author)] }

/-- Authors and their essays. -/
def authorsAndEssays : Catalog := adding authorsOnly (worksPlan "Essay" 2)

/-- Authors, their essays, and their poems. -/
def withPoems : Catalog := adding authorsAndEssays (worksPlan "Poem" 4)

theorem withPoems_filled : withPoems.Filled := by
  have hessays : authorsAndEssays.Filled := by
    refine adding_filled authorsOnly_filled (worksPlan_made _ _) (fun d hd r hr => ?_) (by decide)
    rw [worksPlan_refers _ _ d hd r hr]
    exact List.mem_cons_self
  refine adding_filled hessays (worksPlan_made _ _) (fun d hd r hr => ?_) (by decide)
  rw [worksPlan_refers _ _ d hd r hr]
  exact List.mem_cons_self

end Sample

open Sample in
/-- **A link is lost when its name is taken.**  Essays and poems refer to authors under one
reverse name: once poems are registered, essays are no longer found from authors nor joined
from there, although they still refer to them. -/
theorem taken_name_loses_link : withPoems.Filled ∧ author ∈ withPoems.live
    ∧ essay ∈ withPoems.live ∧ essay.LinksAs author "works"
    ∧ authorsAndEssays.reverseRelatedField? author essay none = some essayAuthor
    ∧ withPoems.reverseRelatedField? author essay none = none
    ∧ (∃ q, (Select.ofModel essay).join withPoems author .inner none none = .ok q)
    ∧ (Select.ofModel author).join withPoems essay .inner none none
      = .error (.noRelationBetween "Author" "Essay") :=
  ⟨withPoems_filled, List.mem_cons_self, List.mem_cons_of_mem _ List.mem_cons_self,
    ⟨essayAuthor, List.mem_cons_of_mem _ List.mem_cons_self, _, rfl, rfl, rfl⟩,
    rfl, rfl, ⟨_, rfl⟩, rfl⟩

end RecordMapper
