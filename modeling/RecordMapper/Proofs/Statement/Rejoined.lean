/-
  RecordMapper.Proofs.Statement.Rejoined
  ────────────────────────────────
  **TABLES THAT ARE JOINED AGAIN.**

  Every join adds a clause to a select, but aliases are kept under the names of models: a
  model that is joined again, or the root model joined back, gets a new alias in place of
  the one it had, for all of its clauses.  So two clauses have one alias exactly when they
  join one model, and the aliases of a from clause are all different exactly when every
  table takes part once.  A condition then has the aliases of its own clause and of clauses
  before it; a model that is joined again brings its later condition to the place of the
  first one, where the other table may not have been declared.

  Main result: `rejoined_aliases_iff`.
-/
import RecordMapper.Proofs.Statement.Scoped

namespace RecordMapper

/-! ## §1. Aliases under the names of tables. -/

/-- What is found under a key is kept. -/
theorem Keyed.mem_of_get? {l : Keyed String} {key value : String} (h : l.get? key = some value) :
    value ∈ l.map (·.2) := by
  obtain ⟨entry, hentry, rfl⟩ := Option.map_eq_some_iff.1 h
  exact List.mem_map_of_mem (List.mem_of_find?_eq_some hentry)

/-- **Tables with an alias each**, none of them empty, and never one for two names. -/
structure Apart (tables : List String) (aliases : Keyed String) : Prop where
  found : ∀ table ∈ tables, ∃ name, aliases.get? table = some name ∧ name ≠ ""
  apart : ∀ table table' name, aliases.get? table = some name → aliases.get? table' = some name →
    table = table'

namespace Apart

variable {tables : List String} {aliases : Keyed String}

theorem none : Apart [] [] where
  found := fun _ h => nomatch h
  apart := fun _ _ _ h => nomatch h

/-- **A table gets a free alias**, also in place of the one that it had. -/
theorem put (h : Apart tables aliases) (table : String) {wanted : Option String}
    (hwanted : wanted ≠ some "") :
    Apart (table :: tables) (aliases.put table (Select.chooseAlias aliases wanted)) := by
  obtain ⟨hfree, hne⟩ := Select.chooseAlias_free aliases hwanted
  refine ⟨fun t ht => ?_, fun t t' name ht ht' => ?_⟩
  · by_cases hsame : t = table
    · exact ⟨_, hsame ▸ Keyed.get?_put_self _ _ _, hne⟩
    · rw [Keyed.get?_put_of_ne _ _ hsame]
      exact h.found t ((List.mem_cons.1 ht).resolve_left hsame)
  -- The alias of another table is one that was taken.
  · have hother : ∀ t t', t = table → t' ≠ table →
        (aliases.put table (Select.chooseAlias aliases wanted)).get? t = some name →
        (aliases.put table (Select.chooseAlias aliases wanted)).get? t' = some name → t = t' := by
      rintro _ t' rfl hne' ht ht'
      rw [Keyed.get?_put_self] at ht
      rw [Keyed.get?_put_of_ne _ _ hne', ← ht] at ht'
      exact absurd (Keyed.mem_of_get? ht') hfree
    by_cases hsame : t = table
    · by_cases hsame' : t' = table
      · rw [hsame, hsame']
      · exact hother t t' hsame hsame' ht ht'
    · by_cases hsame' : t' = table
      · exact (hother t' t hsame' hsame ht' ht).symm
      · rw [Keyed.get?_put_of_ne _ _ hsame] at ht
        rw [Keyed.get?_put_of_ne _ _ hsame'] at ht'
        exact h.apart t t' name ht ht'

theorem mono (h : Apart tables aliases) {tables' : List String} (hsubset : tables' ⊆ tables) :
    Apart tables' aliases :=
  ⟨fun t ht => h.found t (hsubset ht), h.apart⟩

/-- **A join** gives the root an alias before the first one, and its model a new one. -/
theorem aliased (h : Apart tables aliases) {root model : Model}
    (hroot : tables = [] ∧ aliases = [] ∨ root.name ∈ tables) {wanted : Option String}
    (hwanted : wanted ≠ some "") :
    Apart (model.name :: root.name :: tables) (Select.aliased root aliases model wanted) := by
  unfold Select.aliased
  by_cases hhas : aliases.has root.name = true
  · rw [if_pos hhas]
    have hmem : root.name ∈ tables := by
      rcases hroot with ⟨_, rfl⟩ | hmem
      · cases hhas
      · exact hmem
    exact (h.mono (List.cons_subset.2 ⟨hmem, fun _ ht => ht⟩)).put model.name hwanted
  · rw [if_neg hhas]
    exact (h.put root.name (by simp)).put model.name hwanted

end Apart

namespace Select

/-! ## §2. Selects composed of any joins. -/

/-- **The call names declared models**, and wants no empty alias. -/
def Call.Sound : Call → Prop
  | .join model _ _ wanted => model.Declared ∧ wanted ≠ some ""
  | .activate model => model.Declared
  | _ => True

/-- **A select combined by joins**, of new tables or of tables that take part already, with
what was joined. -/
inductive Combined : Select → List Joining → Prop
  | start {root : Model} (h : root.Declared) : Combined (ofModel root) []
  | bare {root : Model} (h : root.Declared) : Combined (new root) []
  | call {q q' : Select} {done : List Joining} (catalog : Catalog) (c : Call)
      (before : Combined q done) (sound : c.Sound) (h : q.call catalog c = .ok q') :
      Combined q' (done ++ q.joinings c)

/-- The names of the tables in the from clause, once for each clause. -/
def mentioned (q : Select) : List String :=
  q.model.name :: q.joins.map (·.1.name)

/-- The names of the models that were joined, once for each call, behind the root. -/
def visited (q : Select) (done : List Joining) : List String :=
  q.model.name :: done.map (·.model.name)

/-- **The conditions are in scope**: every one has columns of its own table and of tables
that stand before it. -/
def InOrder (root : String) (clauses : List (Model × Join)) : Prop :=
  ∀ before clause after, clauses = before ++ clause :: after →
    ∀ side ∈ [clause.2.lhs, clause.2.rhs],
      side.model ∈ root :: (before ++ [clause]).map (·.1.name)

theorem InOrder.concat {root : String} {clauses : List (Model × Join)} {new : Model × Join}
    (h : InOrder root clauses) (hnew : ∀ side ∈ [new.2.lhs, new.2.rhs],
      side.model ∈ root :: (clauses ++ [new]).map (·.1.name)) : InOrder root (clauses ++ [new]) := by
  intro before clause after hsplit
  rcases List.eq_nil_or_concat after with rfl | ⟨after, last, rfl⟩
  · obtain ⟨rfl, hclause⟩ := List.append_inj' hsplit rfl
    obtain rfl := (List.cons.inj hclause).1
    exact hnew
  · rw [List.concat_eq_append, ← List.cons_append, ← List.append_assoc] at hsplit
    exact h before clause after (List.append_inj' hsplit rfl).1

/-- **The invariant of combining.** -/
structure Combination (q : Select) (done : List Joining) : Prop where
  active : q.active.Declared
  known : q.active.name ∈ q.tables
  clauses : q.mentioned.Perm (q.visited done)
  reached : ∀ name ∈ q.tables, name ∈ q.visited done
  sides : ∀ clause ∈ q.joins, clause.1.name ∈ q.tables
    ∧ clause.2.lhs.model ∈ q.tables ∧ clause.2.rhs.model ∈ q.tables
  inOrder : (q.visited done).Nodup → InOrder q.model.name q.joins
  start : done = [] → q.joined = [] ∧ q.aliases = []
  aliases : done ≠ [] → Apart q.tables q.aliases

/-! ## §3. One more join. -/

/-- The joins in the order of their clauses. -/
def clausesOf (joined : List (Model × List Join)) : List (Model × Join) :=
  joined.flatMap fun (model, joins) => joins.map (model, ·)

/-- **One more join** is one more clause of its model, behind the others. -/
theorem clausesOf_addJoin (model : Model) (join : Join) : ∀ joined : List (Model × List Join),
    ∃ before m after, clausesOf joined = before ++ after
      ∧ clausesOf (addJoin model join joined) = before ++ (m, join) :: after
      ∧ m.name = model.name
  | [] => ⟨[], model, [], rfl, rfl, rfl⟩
  | (m, joins) :: rest => by
      unfold addJoin
      by_cases hname : m.name = model.name
      · rw [if_pos hname]
        refine ⟨joins.map (m, ·), m, clausesOf rest, rfl, ?_, hname⟩
        show (joins ++ [join]).map (m, ·) ++ clausesOf rest = _
        rw [List.map_append, List.append_assoc]
        rfl
      · rw [if_neg hname]
        obtain ⟨before, m', after, hold, hnew, hname'⟩ := clausesOf_addJoin model join rest
        refine ⟨joins.map (m, ·) ++ before, m', after, ?_, ?_, hname'⟩
        · show joins.map (m, ·) ++ clausesOf rest = _
          rw [hold, List.append_assoc]
        · show joins.map (m, ·) ++ clausesOf (addJoin model join rest) = _
          rw [hnew, List.append_assoc]

/-- The select with one more join of a model. -/
def withJoin (q : Select) (model : Model) (join : Join) (wanted : Option String) : Select :=
  { q with
    joined := addJoin model join q.joined
    aliases := aliased q.model q.aliases model wanted }

section

variable {q : Select} {done : List Joining} {model : Model} {join : Join} {wanted : Option String}

theorem mem_tables_withJoin {name : String} :
    name ∈ (q.withJoin model join wanted).tables ↔ name = model.name ∨ name ∈ q.tables := by
  show name ∈ q.model.name :: (addJoin model join q.joined).map (·.1.name) ↔ _
  rw [List.mem_cons, mem_tables_addJoin, or_left_comm]
  exact or_congr_right List.mem_cons.symm

theorem visited_withJoin (active : Model) (type : JoinType) :
    (q.withJoin model join wanted).visited (done ++ [⟨active, model, type⟩])
      = q.visited done ++ [model.name] := by
  unfold visited
  rw [List.map_append]
  rfl

/-- The new clause stands somewhere among the old ones. -/
theorem mentioned_withJoin :
    (q.withJoin model join wanted).mentioned.Perm (model.name :: q.mentioned) := by
  obtain ⟨before, m, after, hold, hnew, hname⟩ := clausesOf_addJoin model join q.joined
  show (q.model.name :: (clausesOf (addJoin model join q.joined)).map _).Perm
    (model.name :: q.model.name :: (clausesOf q.joined).map _)
  rw [hold, hnew, ← hname]
  exact ((List.perm_middle.map _).cons _).trans (.swap _ _ _)

/-- A clause is an old one, or the new one. -/
theorem mem_joins_withJoin {clause : Model × Join}
    (h : clause ∈ (q.withJoin model join wanted).joins) :
    clause ∈ q.joins ∨ (clause.1.name = model.name ∧ clause.2 = join) := by
  obtain ⟨before, m, after, hold, hnew, hname⟩ := clausesOf_addJoin model join q.joined
  have hclause : clause ∈ before ++ (m, join) :: after := hnew ▸ h
  rw [List.mem_append, List.mem_cons, or_left_comm, ← List.mem_append, ← hold] at hclause
  rcases hclause with rfl | hclause
  · exact .inr ⟨hname, rfl⟩
  · exact .inl hclause

/-- A table that was not joined stands behind all others. -/
theorem joins_withJoin_of_new (h : model.name ∉ q.joined.map (·.1.name)) :
    (q.withJoin model join wanted).joins = q.joins ++ [(model, join)] := by
  show clausesOf (addJoin model join q.joined) = _
  rw [addJoin_eq_append _ h]
  exact List.flatMap_append

namespace Combination

/-- **The aliases** once a model is joined. -/
theorem apart_withJoin (h : q.Combination done) (hwanted : wanted ≠ some "") :
    Apart (q.withJoin model join wanted).tables (aliased q.model q.aliases model wanted) := by
  by_cases hdone : done = []
  · obtain ⟨hjoined, haliases⟩ := h.start hdone
    rw [haliases]
    refine (Apart.none.aliased (.inl ⟨rfl, rfl⟩) hwanted).mono fun name hname => ?_
    have htables : q.tables = [q.model.name] := by
      unfold tables
      rw [hjoined]
      rfl
    rw [mem_tables_withJoin, htables] at hname
    exact List.mem_cons.2 hname
  · refine ((h.aliases hdone).aliased (.inr List.mem_cons_self) hwanted).mono fun name hname => ?_
    rcases mem_tables_withJoin.1 hname with rfl | hname
    · exact List.mem_cons_self
    · exact List.mem_cons_of_mem _ (List.mem_cons_of_mem _ hname)

/-- **A join**, also of a table that takes part. -/
theorem withJoin (h : q.Combination done) {type : JoinType}
    (hequates : Equates q.active model join.lhs join.rhs) (hwanted : wanted ≠ some "") :
    (q.withJoin model join wanted).Combination (done ++ [⟨q.active, model, type⟩]) := by
  have hold : ∀ name ∈ q.tables, name ∈ (q.withJoin model join wanted).tables :=
    fun name hname => mem_tables_withJoin.2 (.inr hname)
  refine ⟨h.active, hold _ h.known, ?_, fun name hname => ?_, fun clause hclause => ?_,
    fun hdistinct => ?_, fun hnone => ?_, fun _ => h.apart_withJoin hwanted⟩
  · rw [visited_withJoin]
    exact mentioned_withJoin.trans ((h.clauses.cons _).trans (List.perm_append_singleton _ _).symm)
  · rw [visited_withJoin, List.mem_append, List.mem_singleton]
    exact (mem_tables_withJoin.1 hname).symm.imp_left (h.reached name)
  · rcases mem_joins_withJoin hclause with hclause | ⟨hname, hjoin⟩
    · obtain ⟨hmodel, hlhs, hrhs⟩ := h.sides clause hclause
      exact ⟨hold _ hmodel, hold _ hlhs, hold _ hrhs⟩
    · rw [hname, hjoin, hequates.lhs_model, hequates.rhs_model]
      exact ⟨mem_tables_withJoin.2 (.inl rfl), hold _ h.known, mem_tables_withJoin.2 (.inl rfl)⟩
  · rw [visited_withJoin] at hdistinct
    obtain ⟨hvisits, _, hnew⟩ := List.nodup_append.1 hdistinct
    have hfresh : model.name ∉ q.joined.map (·.1.name) := fun hmem =>
      hnew _ (h.reached _ (List.mem_cons_of_mem _ hmem)) _ List.mem_cons_self rfl
    rw [joins_withJoin_of_new hfresh]
    refine (h.inOrder hvisits).concat fun side hside => ?_
    rw [List.map_append, ← List.cons_append]
    rcases List.mem_cons.1 hside with rfl | hside
    · rw [hequates.lhs_model]
      exact List.mem_append_left _ (h.clauses.mem_iff.2 (h.reached _ h.known))
    · obtain rfl := List.mem_singleton.1 hside
      rw [hequates.rhs_model]
      exact List.mem_append_right _ (List.mem_singleton_self _)
  · exact absurd hnone (by simp)

end Combination

end

namespace Combination

variable {q q' : Select} {done : List Joining}

/-- **A call that joins nothing** and leaves the tables keeps the invariant. -/
theorem keep (h : q.Combination done) (hmodel : q'.model = q.model)
    (hactive : q'.active.Declared ∧ q'.active.name ∈ q.tables) (hjoined : q'.joined = q.joined)
    (haliases : q'.aliases = q.aliases) : q'.Combination done := by
  have htables : q'.tables = q.tables := by
    unfold tables
    rw [hmodel, hjoined]
  have hjoins : q'.joins = q.joins := by
    unfold joins
    rw [hjoined]
  have hmentioned : q'.mentioned = q.mentioned := by
    unfold mentioned
    rw [hmodel, hjoins]
  have hvisited : q'.visited done = q.visited done := by
    unfold visited
    rw [hmodel]
  refine ⟨hactive.1, htables ▸ hactive.2, ?_, ?_, ?_, ?_, ?_, ?_⟩
  · rw [hmentioned, hvisited]
    exact h.clauses
  · rw [htables, hvisited]
    exact h.reached
  · rw [hjoins, htables]
    exact h.sides
  · rw [hvisited, hmodel, hjoins]
    exact h.inOrder
  · rw [hjoined, haliases]
    exact h.start
  · rw [htables, haliases]
    exact h.aliases

/-- **One call** keeps the invariant. -/
theorem call {catalog : Catalog} {c : Call} (h : q.Combination done) (hsound : c.Sound)
    (hcall : q.call catalog c = .ok q') : q'.Combination (done ++ q.joinings c) := by
  cases c with
  | join model type on wanted =>
      obtain ⟨hmodel, hwanted⟩ := hsound
      obtain ⟨lhs, rhs, hsides, rfl⟩ := join_ok hcall
      have hequates := joinSides?_ok h.active hmodel hsides
      exact h.withJoin hequates hwanted
  | activate model =>
      obtain ⟨hknown, rfl⟩ := activate_ok hcall
      show Combination _ (done ++ [])
      rw [List.append_nil]
      exact h.keep rfl ⟨hsound, Tables.mem_of_known hknown⟩ rfl rfl
  | filterBy filters =>
      obtain ⟨conditions, _, hcall⟩ := bind_ok.1 hcall
      obtain rfl := pure_ok.1 hcall
      show Combination _ (done ++ [])
      rw [List.append_nil]
      exact h.keep rfl ⟨h.active, h.known⟩ rfl rfl
  | _ =>
      obtain rfl := Except.ok.inj hcall
      show Combination _ (done ++ [])
      rw [List.append_nil]
      exact h.keep rfl ⟨h.active, h.known⟩ rfl rfl

end Combination

/-- **A select combined by joins** has a clause for each, and an alias for each table. -/
theorem Combined.combination {q : Select} {done : List Joining} (h : q.Combined done) :
    q.Combination done := by
  have hnew : ∀ {root : Model} (keys : List SortKey), root.Declared →
      Combination { new root with orderBy := keys } [] := fun keys hroot =>
    ⟨hroot, List.mem_cons_self, .refl _, fun _ hname => hname, (fun _ hclause => nomatch hclause),
      fun _ _ _ _ hsplit => absurd hsplit (by simp [joins, new]), fun _ => ⟨rfl, rfl⟩,
      fun hne => absurd rfl hne⟩
  induction h with
  | start h => exact hnew _ h
  | bare h => exact hnew [] h
  | call catalog c _ sound h ih => exact ih.call sound h

/-! ## §4. The aliases of a from clause. -/

/-- **The aliases that are declared** by the root and by the clauses behind it. -/
def declares (q : Select) (clauses : List (Model × Join)) : List String :=
  q.aliasOf q.model.name :: clauses.map fun clause => q.aliasOf clause.1.name

/-- **The conditions have declared aliases**: each one only those that are declared by its
own clause or to the left of it. -/
def InScope (q : Select) : Prop :=
  ∀ before clause after, q.joins = before ++ clause :: after →
    ∀ side ∈ [clause.2.lhs, clause.2.rhs],
      q.aliasOf side.model ∈ q.declares (before ++ [clause])

theorem declares_eq (q : Select) (clauses : List (Model × Join)) :
    q.declares clauses = (q.model.name :: clauses.map (·.1.name)).map q.aliasOf := by
  unfold declares
  rw [List.map_cons, List.map_map]
  rfl

namespace Combination

variable {q : Select} {done : List Joining}

theorem mem_tables_of_mentioned (h : q.Combination done) {name : String}
    (hname : name ∈ q.mentioned) : name ∈ q.tables := by
  rcases List.mem_cons.1 hname with rfl | hname
  · exact List.mem_cons_self
  · obtain ⟨clause, hclause, rfl⟩ := List.mem_map.1 hname
    exact (h.sides clause hclause).1

/-- A table that takes part has an alias. -/
theorem aliasOf_found (h : q.Combination done) (hdone : done ≠ []) {table : String}
    (htable : table ∈ q.tables) :
    q.aliases.get? table = some (q.aliasOf table) ∧ q.aliasOf table ≠ "" := by
  obtain ⟨name, hname, hne⟩ := (h.aliases hdone).found table htable
  have hsame : q.aliasOf table = name := by
    unfold aliasOf
    rw [hname]
    rfl
  rw [hsame]
  exact ⟨hname, hne⟩

/-- **Tables of one alias** are one table. -/
theorem eq_of_aliasOf (h : q.Combination done) (hdone : done ≠ []) {a b : String}
    (ha : a ∈ q.tables) (hb : b ∈ q.tables) (hsame : q.aliasOf a = q.aliasOf b) : a = b :=
  (h.aliases hdone).apart a b _ (h.aliasOf_found hdone ha).1
    (hsame ▸ (h.aliasOf_found hdone hb).1)

/-- **The aliases are different** exactly when every table takes part once. -/
theorem declares_nodup_iff (h : q.Combination done) (hdone : done ≠ []) :
    (q.declares q.joins).Nodup ↔ (q.visited done).Nodup := by
  rw [← h.clauses.nodup_iff, declares_eq]
  refine ⟨List.Nodup.of_map _, List.Nodup.map_on fun a ha b hb => ?_⟩
  exact h.eq_of_aliasOf hdone (h.mem_tables_of_mentioned ha) (h.mem_tables_of_mentioned hb)

/-- The conditions are then in scope. -/
theorem inScope (h : q.Combination done) (hdistinct : (q.visited done).Nodup) : q.InScope := by
  intro before clause after hsplit side hside
  rw [declares_eq]
  exact List.mem_map_of_mem (h.inOrder hdistinct before clause after hsplit side hside)

end Combination

end Select

/-- **The aliases of a from clause are all different**, exactly when no model was joined
twice and the root not joined back.  The statement of a joined select has a clause for
every join, and writes the root and every joined table with an alias that is not empty, and
both columns of every condition behind the aliases of their tables.  When the aliases are
different, no condition has one that is declared to the right of its clause. -/
theorem rejoined_aliases_iff {p : Product} {q : Select} {done : List Select.Joining}
    (h : q.Combined done) (hdone : done ≠ []) {st : Statement}
    (hst : q.statement p.dialect = .ok st) :
    (∃ condition, st.sql = q.scopedText p.dialect condition)
      ∧ q.joins.length = done.length
      ∧ (∀ m : Model, m.name ∈ q.mentioned →
          q.declaration m = m.table ++ " " ++ q.aliasOf m.name ∧ q.aliasOf m.name ≠ "")
      ∧ (∀ clause ∈ q.joins, ∀ side ∈ [clause.2.lhs, clause.2.rhs],
          q.reference side = q.aliasOf side.model ++ "." ++ side.column)
      ∧ ((q.declares q.joins).Nodup ↔ (q.visited done).Nodup)
      ∧ ((q.visited done).Nodup → q.InScope) := by
  have hq := h.combination
  refine ⟨?_, ?_, fun m hm => ?_, fun clause hclause side hside => ?_,
    hq.declares_nodup_iff hdone, hq.inScope⟩
  · obtain ⟨w, _, hsql, _⟩ := render_ok hst
    exact ⟨w.sql, hsql.trans (Select.assemble_eq_scopedText w.sql)⟩
  · have hlength := hq.clauses.length_eq
    simpa [Select.mentioned, Select.visited] using hlength
  · have halias := (hq.aliasOf_found hdone (hq.mem_tables_of_mentioned hm)).2
    exact ⟨if_neg halias, halias⟩
  · obtain ⟨_, hlhs, hrhs⟩ := hq.sides clause hclause
    have htable : side.model ∈ q.tables := by
      rcases List.mem_cons.1 hside with rfl | hside
      · exact hlhs
      · rw [List.mem_singleton.1 hside]
        exact hrhs
    exact if_neg (hq.aliasOf_found hdone htable).2

namespace Sample

/-- The books with their authors. -/
def authored : Except Failure Select :=
  (Select.ofModel book).join .empty author .inner (some "author_id") (some "w")

/-- The books with their authors and their editors. -/
def credits : Except Failure Select := do
  let q ← authored
  let q ← q.activate book
  q.join .empty author .inner (some "editor_id") none

theorem authored_combined {q : Select} (h : authored = .ok q) :
    q.Combined [⟨book, author, .inner⟩] :=
  .call .empty (.join author .inner (some "author_id") (some "w")) (.start book_declared)
    ⟨author_declared, by decide⟩ h

theorem credits_combined {q : Select} (h : credits = .ok q) :
    q.Combined [⟨book, author, .inner⟩, ⟨book, author, .inner⟩] := by
  obtain ⟨joined, hjoin, h⟩ := bind_ok.1 h
  obtain ⟨activated, hactivate, h⟩ := bind_ok.1 h
  have hactivated : activated.Combined [⟨book, author, .inner⟩] :=
    .call .empty (.activate book) (authored_combined hjoin) book_declared hactivate
  have hactive : activated.active = book := by
    obtain ⟨_, rfl⟩ := Select.activate_ok hactivate
    rfl
  have hcall := Select.Combined.call .empty (.join author .inner (some "editor_id") none) hactivated
    ⟨author_declared, by decide⟩ h
  unfold Select.joinings at hcall
  rw [hactive] at hcall
  exact hcall

end Sample

open Sample in
/-- A book and its author have aliases of their own. -/
theorem authored_aliases : ∃ q st, authored = .ok q ∧ q.statement Product.mysql.dialect = .ok st
    ∧ st.text = "SELECT t1.id, t1.title, t1.author_id, t1.editor_id, w.id, w.name FROM book t1 "
      ++ "INNER JOIN author w ON t1.author_id = w.id"
    ∧ (q.declares q.joins).Nodup := by
  have htext : (authored >>= (Select.statement · Product.mysql.dialect)).toOption.map Statement.text
      = some ("SELECT t1.id, t1.title, t1.author_id, t1.editor_id, w.id, w.name FROM book t1 "
        ++ "INNER JOIN author w ON t1.author_id = w.id") := by
    decide +kernel
  obtain ⟨st, hst, htext⟩ := ok_of_toOption_map htext
  obtain ⟨q, hq, hst⟩ := bind_ok.1 hst
  obtain ⟨-, -, -, -, hdistinct, -⟩ := rejoined_aliases_iff (authored_combined hq) (by simp) hst
  refine ⟨q, st, hq, hst, htext, hdistinct.2 ?_⟩
  obtain ⟨_, _, _, rfl⟩ := Select.join_ok hq
  exact (by decide : ["Book", "Author"].Nodup)

open Sample in
/-- **Not every alias is given once**: the authors and the editors of books have one. -/
theorem not_every_alias_given_once :
    ¬ ∀ (q : Select) (done : List Select.Joining), q.Combined done → done ≠ [] →
      (q.declares q.joins).Nodup := by
  intro hdistinct
  obtain ⟨q, hq⟩ : ∃ q, credits = .ok q := ⟨_, rfl⟩
  have h := hdistinct q _ (credits_combined hq) (by simp)
  cases hq
  exact absurd h (by decide +kernel)

end RecordMapper
