/-
  RecordMapper.Proofs.Schema.Registering
  ────────────────────────────────
  **REGISTRATION CHANGES NOTHING UNTIL EVERYTHING IS CHECKED.**

  A registration writes to models that are registered already: the links back of those that
  its foreign keys refer to.  Here it is done step by step on a catalog that is kept, where
  what was written stays written when a later step fails.  All checks come before the first
  write, so that a failure finds the catalog as it was, and the steps together do what
  `Catalog.register` does.

  What a registration that succeeds leaves on an existing model is read off the blueprint:
  the new model, under the reverse name of each foreign key that refers to it.

  Main result: `registration_adds_links_alone`.
-/
import RecordMapper.Proofs.Schema.Linked
import RecordMapper.Proofs.Stateful

namespace RecordMapper

/-! ## §1. Registration, step by step. -/

/-- **Work on a catalog that is kept**: what was written stays written when a later step
fails. -/
abbrev Registering := ExceptT Failure (StateM Catalog)

namespace Registering

/-- A check, which writes nothing. -/
def check {α : Type} (result : Except Failure α) : Registering α :=
  ExceptT.mk (pure result)

/-- **A write.** -/
def write (f : Catalog → Catalog) : Registering Unit :=
  modify f

/-- The fields of declarations, each checked against those before it. -/
def layOut (b : Blueprint) : List (String × Definition) → List Field → Registering (List Field)
  | [], done => pure done
  | (name, definition) :: rest, done => do
    let field := definition.toField b.name b.tableName name
    if done.any (·.name == name) then throw (.repeatedField b.name name)
    if done.any (·.column == field.column) then throw (.repeatedColumn b.name field.column)
    layOut b rest (done ++ [field])

/-- The items of the ordering, each looked up among the fields. -/
def ordering (b : Blueprint) (fields : List Field) : List String → Registering (List SortKey)
  | [] => pure []
  | item :: rest => do
    let key ← check (b.orderingItem fields item)
    return key :: (← ordering b fields rest)

/-- The foreign keys of a model, each linked back from the model that it refers to. -/
def link (m : Model) : List (String × Model) → Registering Unit
  | [] => pure ()
  | (name, related) :: rest =>
    match (m.field? name).bind (·.foreignKey) with
    | some key => do
      write fun c => { c with links := Catalog.setLink ⟨related.id, key.reverseName, m.id⟩ c.links }
      link m rest
    | none => link m rest

/-- The model of a blueprint, under the next number: every check is made here. -/
def build (b : Blueprint) : Registering Model := do
  let fields ← layOut b b.declared []
  let key ← check (b.primaryKey fields)
  let ordering ← ordering b fields b.orderingNames
  return {
    id := (← get).nextModel
    name := b.name
    table := b.tableName
    database := b.database <|> b.base.bind (·.database)
    autoIncrement := (b.autoIncrement <|> b.base.map (·.autoIncrement)).getD false
    ordering := ordering
    orderingNames := b.orderingNames
    fields := fields
    primaryKey := key
    relations := b.relations }

/-- **Registration**: the model is built, joins the others, and is linked from them. -/
def register (b : Blueprint) : Registering Model := do
  let m ← build b
  write fun c => { c with nextModel := c.nextModel + 1, live := c.live ++ [m] }
  link m m.relations
  return m

/-! ## §2. Both forms agree. -/

variable {b : Blueprint} {c : Catalog} {α : Type}

/-- What follows a check is left out when it fails. -/
theorem check_run (result : Except Failure α) {β : Type} (f : α → Registering β) :
    (check result >>= f).run c = match result with
      | .ok a => (f a).run c
      | .error failure => (.error failure, c) := by
  rw [run_bind]
  cases result <;> rfl

/-- **Laying out fields** writes nothing. -/
theorem layOut_run : ∀ (definitions : List (String × Definition)) (done : List Field),
    (layOut b definitions done).run c = (b.layOut done definitions, c)
  | [], done => rfl
  | (name, definition) :: rest, done => by
      unfold layOut Blueprint.layOut
      dsimp only
      split
      · rfl
      · split
        · rfl
        · exact layOut_run rest _

/-- **Looking up the ordering** writes nothing. -/
theorem ordering_run (fields : List Field) : ∀ items : List String,
    (ordering b fields items).run c = (items.mapM (b.orderingItem fields), c)
  | [] => rfl
  | item :: rest => by
      unfold ordering
      rw [check_run, List.mapM_cons]
      cases b.orderingItem fields item with
      | error failure => rfl
      | ok key =>
          dsimp only
          rw [run_bind, ordering_run fields rest]
          cases rest.mapM (b.orderingItem fields) <;> rfl

/-- The links that foreign keys of a model make. -/
def linksFrom (m : Model) (relations : List (String × Model)) : List Link :=
  relations.filterMap fun (name, related) =>
    ((m.field? name).bind (·.foreignKey)).map fun key => ⟨related.id, key.reverseName, m.id⟩

/-- **Linking** writes the links of the foreign keys, one after the other. -/
theorem link_run (m : Model) : ∀ (relations : List (String × Model)) (c : Catalog),
    (link m relations).run c
      = (.ok (), { c with links := Catalog.setLinks c.links (linksFrom m relations) })
  | [], c => rfl
  | (name, related) :: rest, c => by
      unfold link
      cases hkey : (m.field? name).bind (·.foreignKey) with
      | none =>
          have hlinks : linksFrom m ((name, related) :: rest) = linksFrom m rest :=
            List.filterMap_cons_none (by simp only [hkey, Option.map_none])
          rw [hlinks]
          exact link_run m rest c
      | some key =>
          have hlinks : linksFrom m ((name, related) :: rest)
              = ⟨related.id, key.reverseName, m.id⟩ :: linksFrom m rest :=
            List.filterMap_cons_some (by simp only [hkey, Option.map_some])
          rw [hlinks]
          exact link_run m rest _

/-- **Building a model** writes nothing. -/
theorem build_run (b : Blueprint) (c : Catalog) : (build b).run c = (b.build c.nextModel, c) := by
  unfold build Blueprint.build
  rw [run_bind, layOut_run]
  cases b.layOut [] b.declared with
  | error failure => rfl
  | ok fields =>
      dsimp only
      rw [check_run]
      show _ = ((b.primaryKey fields >>= _ : Except Failure Model), c)
      cases b.primaryKey fields with
      | error failure => rfl
      | ok key =>
          dsimp only
          rw [run_bind, ordering_run]
          show _ = ((b.orderingNames.mapM (b.orderingItem fields) >>= _ : Except Failure Model), c)
          cases b.orderingNames.mapM (b.orderingItem fields) <;> rfl

/-- **Registration step by step** comes to the same: to the catalog of the model when it
succeeds, and to the catalog as it was when it fails. -/
theorem register_run (b : Blueprint) (c : Catalog) : (register b).run c = match c.register b with
    | .ok (m, c') => (.ok m, c')
    | .error failure => (.error failure, c) := by
  unfold register Catalog.register
  rw [run_bind, build_run]
  cases b.build c.nextModel with
  | error failure => rfl
  | ok m =>
      dsimp only
      rw [run_bind]
      show ((link m m.relations >>= _ : Registering Model).run _) = _
      rw [run_bind, link_run]
      rfl

end Registering

/-! ## §3. Catalogs that are reached. -/

namespace Catalog

/-- **A catalog that is reached** from the empty one: definitions are made, any blueprints are
registered, and models that nothing keeps are forgotten. -/
inductive Reached : Catalog → Prop
  | empty : Reached .empty
  | define {c c' : Catalog} {d : Definition} (h : Reached c) (source : Definition.Source)
      (hd : c.define source = .ok (d, c')) : Reached c'
  | register {c c' : Catalog} {b : Blueprint} {m : Model} (h : Reached c)
      (hm : c.register b = .ok (m, c')) : Reached c'
  | retain {c : Catalog} (h : Reached c) (held : List Model) : Reached (c.retain held)

/-- **Models and links are told apart**: a model by its number, and a link by its place. -/
structure Numbered (c : Catalog) : Prop where
  fresh : ∀ m ∈ c.live, m.id < c.nextModel
  ids : (c.live.map (·.id)).Nodup
  apart : Link.Apart c.links
  owned : ∀ l ∈ c.links, l.owner < c.nextModel

variable {c c' : Catalog} {b : Blueprint} {m x : Model}

theorem Numbered.register (h : c.Numbered) (hm : c.register b = .ok (m, c')) : c'.Numbered := by
  obtain ⟨hbuilt, rfl⟩ := register_ok hm
  have hid := Blueprint.build_id hbuilt
  have howner : ∀ l ∈ m.links, l.owner = c.nextModel := fun l hl =>
    (Model.owner_of_mem_links hl).trans hid
  refine ⟨fun n hn => ?_, ?_, apart_setLinks m.links h.apart, fun l hl => ?_⟩
  · show n.id < c.nextModel + 1
    rcases List.mem_append.1 hn with hn | hn
    · exact Nat.lt_succ_of_lt (h.fresh n hn)
    · rw [List.mem_singleton.1 hn, hid]
      exact Nat.lt_succ_self _
  · refine nodup_live_concat h.ids fun other hother => ?_
    rw [hid]
    exact Nat.ne_of_lt (h.fresh other hother)
  · show l.owner < c.nextModel + 1
    rcases (mem_setLinks howner h.apart l).1 hl with hl | ⟨hl, -⟩
    · rw [howner l hl]
      exact Nat.lt_succ_self _
    · exact Nat.lt_succ_of_lt (h.owned l hl)

theorem Numbered.retain (h : c.Numbered) (held : List Model) : (c.retain held).Numbered :=
  ⟨fun m hm => h.fresh m (List.mem_filter.1 hm).1, h.ids.sublist (List.filter_sublist.map _),
    h.apart, h.owned⟩

theorem Reached.numbered (h : c.Reached) : c.Numbered := by
  induction h with
  | empty => exact ⟨nofun, List.nodup_nil, List.Pairwise.nil, nofun⟩
  | define _ source hd ih =>
      obtain ⟨d, -, hd⟩ := bind_ok.1 hd
      obtain ⟨-, rfl⟩ := Prod.mk.inj (pure_ok.1 hd)
      exact ⟨ih.fresh, ih.ids, ih.apart, ih.owned⟩
  | register _ hm ih => exact ih.register hm
  | retain _ held ih => exact ih.retain held

/-! ## §4. Reverse relations. -/

/-- **What stands in the reverse relations** of a model: the live models that links lead to. -/
theorem mem_reverseRelations {accessor : String} {n : Model} :
    (accessor, n) ∈ c.reverseRelations x
      ↔ ∃ l ∈ c.links, l.target = x.id ∧ l.accessor = accessor ∧ c.model? l.owner = some n := by
  unfold reverseRelations
  rw [List.mem_filterMap]
  constructor
  · rintro ⟨l, hl, hn⟩
    obtain ⟨hmem, htarget⟩ := List.mem_filter.1 hl
    obtain ⟨n', hn', hpair⟩ := Option.map_eq_some_iff.1 hn
    obtain ⟨rfl, rfl⟩ := Prod.mk.inj hpair
    exact ⟨l, hmem, by simpa using htarget, rfl, hn'⟩
  · rintro ⟨l, hmem, htarget, rfl, hn⟩
    exact ⟨l, List.mem_filter.2 ⟨hmem, by simpa using htarget⟩, by rw [hn]; rfl⟩

/-- They are kept under different names. -/
theorem Numbered.keys_nodup (h : c.Numbered) (x : Model) :
    (Keyed.keys (c.reverseRelations x)).Nodup := by
  have hlinks : (c.links.filter (·.target == x.id)).Pairwise fun l l' => l.accessor ≠ l'.accessor := by
    refine (List.Pairwise.and_mem.1 (h.apart.filter _)).imp ?_
    rintro l l' ⟨hl, hl', hmeets⟩ haccessor
    have htarget : ∀ l ∈ c.links.filter (·.target == x.id), l.target = x.id := by
      simp
    exact hmeets ⟨(htarget l hl).trans (htarget l' hl').symm, haccessor⟩
  refine List.pairwise_map.2 (hlinks.filterMap _ ?_)
  rintro l l' hne entry hentry entry' hentry'
  obtain ⟨n, -, rfl⟩ := Option.map_eq_some_iff.1 hentry
  obtain ⟨n', -, rfl⟩ := Option.map_eq_some_iff.1 hentry'
  exact hne

/-- The entries under some of the names. -/
theorem reverseRelations_filter (keep : String → Bool) :
    (c.reverseRelations x).filter (fun entry => keep entry.1)
      = (c.links.filter fun l => l.target == x.id && keep l.accessor).filterMap fun l =>
        (c.model? l.owner).map (l.accessor, ·) := by
  unfold reverseRelations
  rw [List.filter_filterMap, List.filterMap_filter, List.filterMap_filter]
  refine List.filterMap_congr fun l _ => ?_
  cases c.model? l.owner <;> cases l.target == x.id <;> cases hkeep : keep l.accessor <;> simp [hkeep]

/-! ## §5. What a registration adds. -/

/-- A link that is set changes nothing among links that stand elsewhere. -/
theorem filter_setLink {p : Link → Bool} {link : Link} (hp : ∀ l, l.Meets link → p l = false) :
    ∀ links : List Link, (setLink link links).filter p = links.filter p
  | [] => List.filter_cons_of_neg (by simp [hp link ⟨rfl, rfl⟩])
  | l :: rest => by
      rw [setLink_cons]
      by_cases hmeets : l.Meets link
      · rw [if_pos hmeets, List.filter_cons_of_neg (by simp [hp link ⟨rfl, rfl⟩]),
          List.filter_cons_of_neg (by simp [hp l hmeets])]
      · rw [if_neg hmeets, List.filter_cons, List.filter_cons, filter_setLink hp rest]

/-- Nor do several. -/
theorem filter_setLinks {p : Link → Bool} : ∀ {new : List Link} (links : List Link),
    (∀ l, ∀ link ∈ new, l.Meets link → p l = false) → (setLinks links new).filter p = links.filter p
  | [], _, _ => rfl
  | link :: new, links, hp => by
      show (setLinks (setLink link links) new).filter p = _
      rw [filter_setLinks _ fun l link' hlink' => hp l link' (List.mem_cons_of_mem _ hlink'),
        filter_setLink fun l => hp l link List.mem_cons_self]

end Catalog

/-- **The blueprint links back** from a model: it declares a foreign key to it, whose reverse name
is this one, or is the name of the blueprint's model in lower case followed by `_set` where none
is stated. -/
def Blueprint.LinksBack (b : Blueprint) (x : Model) (accessor : String) : Prop :=
  ∃ name d r, (name, d) ∈ b.fields ∧ d.reference = some r ∧ r.model.id = x.id
    ∧ r.reverseName.getD (Text.lower b.name ++ "_set") = accessor

/-- **The links of a built model** are those that its blueprint declares. -/
theorem Blueprint.linksBack_iff {b : Blueprint} {id : Nat} {m x : Model} (h : b.build id = .ok m)
    {accessor : String} :
    b.LinksBack x accessor ↔ ∃ l ∈ m.links, l.target = x.id ∧ l.accessor = accessor := by
  obtain ⟨-, hrelations, hfields⟩ := build_eq h
  obtain ⟨hnames, -, -⟩ := build_ok h
  -- The field of a declaration is found under its name, with the foreign key that it declares.
  have hfield : ∀ {name : String} {d : Definition}, (name, d) ∈ b.declared →
      m.field? name = some (d.toField b.name b.tableName name) := by
    intro name d hd
    have hmem : d.toField b.name b.tableName name ∈ m.fields := by
      rw [hfields]
      exact List.mem_map.2 ⟨(name, d), hd, rfl⟩
    exact Model.field?_name hnames hmem
  unfold Model.links
  rw [hrelations]
  constructor
  · rintro ⟨name, d, r, hd, hr, htarget, haccessor⟩
    have hdeclared := mem_declared.2 hd
    refine ⟨⟨r.model.id, r.reverseName.getD (Text.lower b.name ++ "_set"), m.id⟩, ?_, htarget, haccessor⟩
    refine List.mem_filterMap.2 ⟨(name, r.model), List.mem_filterMap.2 ⟨(name, d), hdeclared, ?_⟩, ?_⟩
    · show d.reference.map _ = _
      rw [hr]
      rfl
    · show ((m.field? name).bind _).map _ = _
      rw [hfield hdeclared]
      simp [Definition.toField, hr, Definition.toForeignKey]
  · rintro ⟨l, hl, htarget, haccessor⟩
    obtain ⟨⟨name, related⟩, hrelation, hlink⟩ := List.mem_filterMap.1 hl
    obtain ⟨⟨name', d⟩, hdeclared, hpair⟩ := List.mem_filterMap.1 hrelation
    obtain ⟨r, hr, hpair⟩ := Option.map_eq_some_iff.1 hpair
    obtain ⟨rfl, rfl⟩ := Prod.mk.inj hpair
    obtain ⟨key, hkey, rfl⟩ := Option.map_eq_some_iff.1 hlink
    rw [hfield hdeclared] at hkey
    simp only [Option.bind_some, Definition.toField, hr, Option.map_some, Option.some_inj] at hkey
    subst hkey
    exact ⟨name', d, r, mem_declared.1 hdeclared, hr, htarget, haccessor⟩

namespace Catalog

variable {c c' : Catalog} {b : Blueprint} {m x : Model}

/-- The new model is found under its number. -/
theorem Numbered.model?_new (h : c.Numbered) (hm : c.register b = .ok (m, c')) :
    c'.model? m.id = some m := by
  obtain ⟨hbuilt, rfl⟩ := register_ok hm
  have hnone : c.live.find? (·.id == m.id) = none := by
    refine List.find?_eq_none.2 fun n hn hid => ?_
    have hlt := h.fresh n hn
    rw [beq_iff_eq.1 hid, Blueprint.build_id hbuilt] at hlt
    exact absurd hlt (Nat.lt_irrefl _)
  unfold model?
  rw [List.find?_append, hnone]
  simp

/-- The models before it are found under theirs. -/
theorem model?_old {owner : Nat} (hm : c.register b = .ok (m, c'))
    (howner : owner < c.nextModel) : c'.model? owner = c.model? owner := by
  obtain ⟨hbuilt, rfl⟩ := register_ok hm
  have hother : (m.id == owner) = false := by
    rw [Blueprint.build_id hbuilt]
    simpa using Nat.ne_of_gt howner
  unfold model?
  rw [List.find?_append]
  simp [hother]

/-- **The entries of a model after a registration**: the new model under each reverse name of a
foreign key to it, and what was there under every other name. -/
theorem Numbered.get?_register (h : c.Numbered) (hm : c.register b = .ok (m, c')) (x : Model)
    (accessor : String) :
    (b.LinksBack x accessor → Keyed.get? (c'.reverseRelations x) accessor = some m)
      ∧ (¬ b.LinksBack x accessor →
        Keyed.get? (c'.reverseRelations x) accessor = Keyed.get? (c.reverseRelations x) accessor) := by
  obtain ⟨hbuilt, hc'⟩ := register_ok hm
  have hnodup := (h.register hm).keys_nodup x
  have howner : ∀ l ∈ m.links, l.owner = m.id := fun l => Model.owner_of_mem_links
  have hlinks : ∀ l, l ∈ c'.links ↔ l ∈ m.links ∨ (l ∈ c.links ∧ ∀ l' ∈ m.links, ¬ l.Meets l') := by
    rw [hc']
    exact mem_setLinks howner h.apart
  rw [Blueprint.linksBack_iff hbuilt]
  constructor
  · rintro ⟨l, hl, htarget, haccessor⟩
    refine (Keyed.get?_eq_some_iff hnodup).2 (mem_reverseRelations.2 ?_)
    refine ⟨l, (hlinks l).2 (.inl hl), htarget, haccessor, ?_⟩
    rw [howner l hl]
    exact h.model?_new hm
  · intro hnone
    refine Option.ext fun n => ?_
    rw [Keyed.get?_eq_some_iff hnodup, Keyed.get?_eq_some_iff (h.keys_nodup x), mem_reverseRelations,
      mem_reverseRelations]
    constructor
    · rintro ⟨l, hl, htarget, haccessor, hn⟩
      rcases (hlinks l).1 hl with hl | ⟨hl, -⟩
      · exact absurd ⟨l, hl, htarget, haccessor⟩ hnone
      · rw [model?_old hm (h.owned l hl)] at hn
        exact ⟨l, hl, htarget, haccessor, hn⟩
    · rintro ⟨l, hl, htarget, haccessor, hn⟩
      refine ⟨l, (hlinks l).2 (.inr ⟨hl, fun l' hl' hmeets => hnone ?_⟩), htarget, haccessor, ?_⟩
      · exact ⟨l', hl', hmeets.1 ▸ htarget, hmeets.2 ▸ haccessor⟩
      · rw [model?_old hm (h.owned l hl)]
        exact hn

/-- The entries under names that it does not link back by stay as they are, in their order. -/
theorem Numbered.filter_register (h : c.Numbered) (hm : c.register b = .ok (m, c')) (x : Model)
    {keep : String → Bool} (hkeep : ∀ accessor, b.LinksBack x accessor → keep accessor = false) :
    (c'.reverseRelations x).filter (fun entry => keep entry.1)
      = (c.reverseRelations x).filter (fun entry => keep entry.1) := by
  obtain ⟨hbuilt, hc'⟩ := register_ok hm
  rw [reverseRelations_filter, reverseRelations_filter]
  have hlinks : (c'.links.filter fun l => l.target == x.id && keep l.accessor)
      = c.links.filter fun l => l.target == x.id && keep l.accessor := by
    rw [hc']
    refine filter_setLinks _ fun l link hlink hmeets => ?_
    by_cases htarget : l.target = x.id
    · have hlinked := (Blueprint.linksBack_iff hbuilt).2
        ⟨link, hlink, hmeets.1 ▸ htarget, hmeets.2.symm⟩
      simp [hkeep l.accessor hlinked]
    · simp [htarget]
  rw [hlinks]
  refine List.filterMap_congr fun l hl => ?_
  rw [model?_old hm (h.owned l (List.mem_filter.1 hl).1)]

end Catalog

/-! ## §6. Failure and success. -/

/-- **Why a blueprint is refused**: a name or a column comes twice, there is not one primary key,
or the ordering names no field. -/
inductive Blueprint.Refused (b : Blueprint) : Failure → Prop
  | repeatedField (name : String) : Refused b (.repeatedField b.name name)
  | repeatedColumn (column : String) : Refused b (.repeatedColumn b.name column)
  | noPrimaryKey : Refused b (.noPrimaryKey b.name)
  | severalPrimaryKeys (first second : String) : Refused b (.severalPrimaryKeys b.name first second)
  | unknownOrdering (name : String) : Refused b (.unknownOrdering b.name name)

namespace Blueprint

variable {b : Blueprint} {e : Failure}

theorem layOut_error : ∀ {definitions : List (String × Definition)} {done : List Field},
    b.layOut done definitions = .error e → b.Refused e
  | [], _, h => nomatch h
  | (name, definition) :: rest, done, h => by
      unfold layOut at h
      dsimp only at h
      split at h
      · obtain rfl := Except.error.inj h
        exact .repeatedField name
      · split at h
        · obtain rfl := Except.error.inj h
          exact .repeatedColumn _
        · exact layOut_error h

/-- **A blueprint that cannot be built** is refused for one of these reasons. -/
theorem build_error {id : Nat} (h : b.build id = .error e) : b.Refused e := by
  unfold build at h
  rcases bind_error.1 h with h | ⟨fields, -, h⟩
  · exact layOut_error h
  · rcases bind_error.1 h with h | ⟨key, -, h⟩
    · unfold primaryKey at h
      split at h
      · obtain rfl := Except.error.inj h
        exact .noPrimaryKey
      · cases h
      · obtain rfl := Except.error.inj h
        exact .severalPrimaryKeys _ _
    · rcases bind_error.1 h with h | ⟨ordering, -, h⟩
      · obtain ⟨item, -, h⟩ := mapM_error h
        unfold orderingItem at h
        dsimp only at h
        split at h
        · cases h
        · obtain rfl := Except.error.inj h
          exact .unknownOrdering _
      · cases h

end Blueprint

/-- **A registration that fails leaves no trace, and one that succeeds adds links alone.**  On
whatever catalog of registered models it is done, step by step, a failure finds the catalog as
it was, every relation and reverse relation in it; it tells what is wrong with the blueprint.
A success adds the new model behind the others.  In the reverse relations of each of these it
puts the new model under the reverse names of the foreign keys to it, and leaves the other
entries as they are, in their order. -/
theorem registration_adds_links_alone {c : Catalog} (hc : c.Reached) (b : Blueprint) :
    (∀ e c', (Registering.register b).run c = (.error e, c') →
        c' = c ∧ c.register b = .error e ∧ b.Refused e)
      ∧ ∀ m c', (Registering.register b).run c = (.ok m, c') →
        c.register b = .ok (m, c') ∧ c'.live = c.live ++ [m] ∧ ∀ x ∈ c.live,
          (∀ accessor, b.LinksBack x accessor →
            Keyed.get? (c'.reverseRelations x) accessor = some m)
          ∧ (∀ accessor, ¬ b.LinksBack x accessor →
            Keyed.get? (c'.reverseRelations x) accessor = Keyed.get? (c.reverseRelations x) accessor)
          ∧ ∀ keep : String → Bool, (∀ accessor, b.LinksBack x accessor → keep accessor = false) →
            (c'.reverseRelations x).filter (fun entry => keep entry.1)
              = (c.reverseRelations x).filter (fun entry => keep entry.1) := by
  have hnumbered := hc.numbered
  rw [Registering.register_run]
  cases hm : c.register b with
  | error e =>
      refine ⟨fun e' c' h => ?_, nofun⟩
      obtain ⟨hfailure, rfl⟩ := Prod.mk.inj h
      obtain rfl := Except.error.inj hfailure
      rcases bind_error.1 hm with hbuild | ⟨m, -, hnone⟩
      · exact ⟨rfl, rfl, Blueprint.build_error hbuild⟩
      · cases hnone
  | ok registered =>
      obtain ⟨m, c'⟩ := registered
      refine ⟨nofun, fun m' c'' h => ?_⟩
      obtain ⟨hmodel, rfl⟩ := Prod.mk.inj h
      obtain rfl := Except.ok.inj hmodel
      obtain ⟨-, hc'⟩ := Catalog.register_ok hm
      refine ⟨rfl, by rw [hc'], fun x _ => ⟨fun a => ?_, fun a => ?_, fun keep => ?_⟩⟩
      · exact (hnumbered.get?_register hm x a).1
      · exact (hnumbered.get?_register hm x a).2
      · exact hnumbered.filter_register hm x

namespace Sample

/-- Books with a second title, declared behind their foreign keys. -/
def twiceTitledPlan : Blueprint :=
  { bookPlan with fields := bookPlan.fields ++ [("title", Definition.ofKind 6 (.varchar 80))] }

theorem authorsOnly_reached : authorsOnly.Reached :=
  .register (b := authorPlan) (m := author) .empty rfl

end Sample

open Sample in
/-- Books with two titles leave the authors alone; books as they are can be found from them. -/
theorem authors_linked_by_books :
    (∃ e c', (Registering.register twiceTitledPlan).run authorsOnly = (.error e, c') ∧ c' = authorsOnly
        ∧ twiceTitledPlan.Refused e)
      ∧ ∃ c', (Registering.register bookPlan).run authorsOnly = (.ok book, c')
        ∧ c'.live = [author, book]
        ∧ Keyed.get? (authorsOnly.reverseRelations author) "written" = none
        ∧ Keyed.get? (c'.reverseRelations author) "written" = some book := by
  have hfails : (Registering.register twiceTitledPlan).run authorsOnly
      = (.error (.repeatedField "Book" "title"), authorsOnly) := rfl
  have hsucceeds : (Registering.register bookPlan).run authorsOnly
      = (.ok book, authorsAndBooks) := rfl
  obtain ⟨hsame, -, hrefused⟩ :=
    (registration_adds_links_alone authorsOnly_reached twiceTitledPlan).1 _ _ hfails
  obtain ⟨-, hlive, hlinks⟩ :=
    (registration_adds_links_alone authorsOnly_reached bookPlan).2 _ _ hsucceeds
  have hback : bookPlan.LinksBack author "written" :=
    ⟨"author_id", authorKey "author" "written" 4, _, by simp [bookPlan], rfl, rfl, rfl⟩
  exact ⟨⟨_, _, hfails, hsame, hrefused⟩, _, hsucceeds, hlive, rfl,
    (hlinks author List.mem_cons_self).1 "written" hback⟩

end RecordMapper
