/-
  RecordMapper.Proofs.Query.Joined
  ────────────────────────────────
  **THE TABLES OF A JOINED SELECT.**

  A join adds a table to a select, and with it an alias, the side of the other table and
  its own.  Three things are kept at different times: the model that names are looked up
  on, the joins under the names of their models, and the aliases, of which the root gets
  its own only when something is joined.  What they have in common is an invariant of the
  calls (`Tables`): every table has one alias of its own, and every join is a foreign key
  between the table that it adds and one that was there before.

  Main result: `Composed.tables`.
-/
import RecordMapper.Proofs.Query.Built
import RecordMapper.Proofs.Schema.Declared
import Mathlib.Data.List.Forall2
import Mathlib.Data.List.Nodup
import Mathlib.Data.List.Perm.Subperm

namespace RecordMapper

namespace Select

/-! ## §1. Free aliases. -/

theorem numberedAlias_injective {i j : Nat} (h : numberedAlias i = numberedAlias j) : i = j := by
  have hdigits : Nat.toDigits 10 i = Nat.toDigits 10 j := by
    have htext := congrArg String.toList h
    unfold numberedAlias at htext
    rw [String.toList_append, String.toList_append, Nat.toString_eq_repr, Nat.toString_eq_repr,
      Nat.toList_repr, Nat.toList_repr] at htext
    exact List.append_cancel_left htext
  calc
    i = Nat.ofDigitChars 10 (Nat.toDigits 10 i) 0 := Nat.ofDigitChars_ten_toDigits.symm
    _ = Nat.ofDigitChars 10 (Nat.toDigits 10 j) 0 := by rw [hdigits]
    _ = j := Nat.ofDigitChars_ten_toDigits

/-- An alias is only given up on when all before it were taken. -/
theorem taken_of_freeAlias {taken : List String} : ∀ {fuel n : Nat},
    freeAlias taken n fuel ∈ taken → ∀ i ≤ fuel, numberedAlias (n + i) ∈ taken
  | 0, n, h, i, hi => by
      obtain rfl : i = 0 := by omega
      exact h
  | fuel + 1, n, h, i, hi => by
      unfold freeAlias at h
      split at h
      · rename_i hn
        cases i with
        | zero => simpa using hn
        | succ i =>
            have hrest := taken_of_freeAlias h i (by omega)
            rwa [Nat.add_right_comm] at hrest
      · rename_i hn
        exact absurd h (by simpa using hn)

/-- **The alias that is found is free**: as many numbers are tried as are taken, and one
more. -/
theorem freeAlias_free {taken : List String} {fuel : Nat} (h : taken.length ≤ fuel) (n : Nat) :
    freeAlias taken n fuel ∉ taken := by
  intro htaken
  have hall := taken_of_freeAlias htaken
  let tried := (List.range (fuel + 1)).map fun i => numberedAlias (n + i)
  have hnodup : tried.Nodup := by
    refine List.Nodup.map_on (fun i _ j _ hij => ?_) List.nodup_range
    have := numberedAlias_injective hij
    omega
  have hsubset : tried ⊆ taken := by
    intro a ha
    obtain ⟨i, hi, rfl⟩ := List.mem_map.1 ha
    exact hall i (by simpa [Nat.lt_succ_iff] using hi)
  have hlength := (hnodup.subperm hsubset).length_le
  simp only [tried, List.length_map, List.length_range] at hlength
  omega

theorem numberedAlias_ne_empty (n : Nat) : numberedAlias n ≠ "" := by
  intro h
  have hlength := congrArg String.length h
  unfold numberedAlias at hlength
  rw [String.length_append] at hlength
  simp at hlength

theorem freeAlias_ne_empty (taken : List String) : ∀ (fuel n : Nat), freeAlias taken n fuel ≠ ""
  | 0, n => numberedAlias_ne_empty n
  | fuel + 1, n => by
      unfold freeAlias
      split
      · exact freeAlias_ne_empty taken fuel (n + 1)
      · exact numberedAlias_ne_empty n

/-- **Which alias is chosen**: the wanted one, when it is free, and otherwise a numbered
one. -/
theorem chooseAlias_cases (aliases : Keyed String) (wanted : Option String) :
    (∃ name, wanted = some name ∧ name ∉ aliases.map (·.2) ∧ chooseAlias aliases wanted = name)
      ∨ (∀ name, wanted = some name → name ∈ aliases.map (·.2))
        ∧ chooseAlias aliases wanted
          = freeAlias (aliases.map (·.2)) (aliases.length + 1) aliases.length := by
  unfold chooseAlias
  cases wanted with
  | none => exact .inr ⟨nofun, rfl⟩
  | some name =>
      by_cases htaken : name ∈ aliases.map (·.2)
      · have hcontains : (aliases.map (·.2)).contains name = true := by simpa using htaken
        exact .inr ⟨fun _ h => Option.some.inj h ▸ htaken, if_pos hcontains⟩
      · exact .inl ⟨name, rfl, htaken, if_neg (by simpa using htaken)⟩

/-- The numbered alias of a table is free. -/
theorem numbered_free (aliases : Keyed String) :
    freeAlias (aliases.map (·.2)) (aliases.length + 1) aliases.length ∉ aliases.map (·.2) :=
  freeAlias_free (by simp) _

/-- **The alias for a table is free**, whichever was wanted. -/
theorem chooseAlias_not_mem (aliases : Keyed String) (wanted : Option String) :
    chooseAlias aliases wanted ∉ aliases.map (·.2) := by
  rcases chooseAlias_cases aliases wanted with ⟨name, _, hfree, hchosen⟩ | ⟨_, hchosen⟩
  · rw [hchosen]
    exact hfree
  · rw [hchosen]
    exact numbered_free aliases

/-- **The alias for a table is free**, whichever was wanted, and not empty unless that was
wanted. -/
theorem chooseAlias_free (aliases : Keyed String) {wanted : Option String} (h : wanted ≠ some "") :
    chooseAlias aliases wanted ∉ aliases.map (·.2) ∧ chooseAlias aliases wanted ≠ "" := by
  refine ⟨chooseAlias_not_mem aliases wanted, ?_⟩
  rcases chooseAlias_cases aliases wanted with ⟨name, hwanted, _, hchosen⟩ | ⟨_, hchosen⟩
  · rw [hchosen]
    rintro rfl
    exact h hwanted
  · rw [hchosen]
    exact freeAlias_ne_empty _ _ _

end Select

/-! ## §2. Aliases of tables. -/

/-- **The tables have aliases**, in their order: one for each, all different, none of them
empty. -/
structure Aliases (tables : List String) (aliases : Keyed String) : Prop where
  keys : aliases.keys = tables
  distinct : (aliases.map (·.2)).Nodup
  nonempty : "" ∉ aliases.map (·.2)

namespace Aliases

variable {tables : List String} {aliases : Keyed String}

theorem none : Aliases [] [] :=
  ⟨rfl, .nil, by simp⟩

/-- **One more table** gets an alias of its own. -/
theorem add (h : Aliases tables aliases) {name : String} (hname : name ∉ tables)
    {wanted : Option String} (hwanted : wanted ≠ some "") :
    Aliases (tables ++ [name]) (aliases.put name (Select.chooseAlias aliases wanted)) := by
  obtain ⟨hfree, hne⟩ := Select.chooseAlias_free aliases hwanted
  obtain ⟨rfl, hdistinct, hnonempty⟩ := h
  rw [Keyed.put_eq_append _ hname]
  refine ⟨List.map_append, ?_, ?_⟩
  · rw [List.map_append]
    refine List.nodup_append.2 ⟨hdistinct, List.nodup_singleton _, fun a ha b hb hab => ?_⟩
    obtain rfl := List.mem_singleton.1 hb
    rw [hab] at ha
    exact hfree ha
  · rw [List.map_append, List.mem_append, not_or]
    exact ⟨hnonempty, fun hempty => hne (List.mem_singleton.1 hempty).symm⟩

/-- The aliases that are found under the names are those that are kept. -/
theorem map_get?_keys : ∀ {l : Keyed String}, l.keys.Nodup →
    l.keys.map (fun key => (l.get? key).getD "") = l.map (·.2)
  | [], _ => rfl
  | (k, v) :: rest, h => by
      obtain ⟨hk, hrest⟩ := List.nodup_cons.1 h
      have hfirst : Keyed.get? ((k, v) :: rest) k = some v := by simp [Keyed.get?]
      have hothers : ∀ key ∈ Keyed.keys rest, Keyed.get? ((k, v) :: rest) key = Keyed.get? rest key := by
        intro key hkey
        have hne : k ≠ key := fun h => hk (h ▸ hkey)
        simp [Keyed.get?, hne]
      show ((Keyed.get? ((k, v) :: rest) k).getD "") :: (Keyed.keys rest).map _ = v :: rest.map _
      rw [hfirst, ← map_get?_keys hrest]
      congr 1
      exact List.map_congr_left fun key hkey => by rw [hothers key hkey]

end Aliases

/-! ## §3. Joins. -/

namespace Select

/-- **A call that joined a model**: the model that was active then, and how it was
joined. -/
structure Joining where
  active : Model
  model : Model
  type : JoinType

/-- **The two sides of a join** of the active model with another: a foreign key of one of
them, and the field of the other that it refers to. -/
structure Equates (active model : Model) (lhs rhs : Attribute) : Prop where
  lhs_model : lhs.model = active.name
  rhs_model : rhs.model = model.name
  key : (∃ f ∈ active.fields, ∃ key, f.foreignKey = some key ∧ key.model = model.name
      ∧ lhs = f.toAttribute ∧ rhs = key.target)
    ∨ (∃ f ∈ model.fields, ∃ key, f.foreignKey = some key ∧ key.model = active.name
      ∧ lhs = key.target ∧ rhs = f.toAttribute)

/-- **What a join equates**, when the models are declared. -/
theorem joinSides?_ok {catalog : Catalog} {active model : Model} {on : Option String}
    {lhs rhs : Attribute} (hactive : active.Declared) (hmodel : model.Declared)
    (h : joinSides? catalog active model on = some (lhs, rhs)) : Equates active model lhs rhs := by
  unfold joinSides? at h
  split at h
  · rename_i f hf
    obtain ⟨related, key, hname, hrefers⟩ := hactive.relatedField?_ok hf
    rw [hrefers.key_eq] at h
    cases h
    exact ⟨hactive.registered.field_model hrefers.mem, hrefers.target_model.trans hname,
      .inl ⟨f, hrefers.mem, key, hrefers.key_eq, hrefers.model_eq.trans hname, rfl, rfl⟩⟩
  -- The key of the other model is looked for only where the catalog links the two.
  · obtain ⟨f, hf, hsides⟩ := Option.map_eq_some_iff.1 h
    unfold Catalog.reverseRelatedField? at hf
    split at hf
    · obtain ⟨related, key, hname, hrefers⟩ := hmodel.relatedField?_ok hf
      rw [hrefers.key_eq] at hsides
      cases hsides
      exact ⟨hrefers.target_model.trans hname, hmodel.registered.field_model hrefers.mem,
        .inr ⟨f, hrefers.mem, key, hrefers.key_eq, hrefers.model_eq.trans hname, rfl, rfl⟩⟩
    · cases hf

/-- **The joins are in scope**: every one has its sides in the table that it adds or in
one before it. -/
inductive OnScoped : (tables : List String) → List (Model × List Join) → Prop
  | nil {tables : List String} : OnScoped tables []
  | cons {tables : List String} {model : Model} {joins : List Join}
      {rest : List (Model × List Join)}
      (sides : ∀ join ∈ joins, join.lhs.model ∈ tables ++ [model.name]
        ∧ join.rhs.model ∈ tables ++ [model.name])
      (others : OnScoped (tables ++ [model.name]) rest) : OnScoped tables ((model, joins) :: rest)

/-- One more join is in scope at the end. -/
theorem OnScoped.concat {model : Model} {joins : List Join} : ∀ {joined : List (Model × List Join)}
    {tables : List String}, OnScoped tables joined →
      (∀ join ∈ joins, join.lhs.model ∈ tables ++ joined.map (·.1.name) ++ [model.name]
        ∧ join.rhs.model ∈ tables ++ joined.map (·.1.name) ++ [model.name]) →
      OnScoped tables (joined ++ [(model, joins)])
  | [], tables, _, hsides => .cons (by simpa using hsides) .nil
  | entry :: joined, tables, h, hsides => by
      cases h with
      | cons sides others =>
          refine .cons sides (others.concat ?_)
          simpa using hsides

/-- A model that was not joined before stands at the end. -/
theorem addJoin_eq_append {model : Model} (join : Join) : ∀ {joined : List (Model × List Join)},
    model.name ∉ joined.map (·.1.name) → addJoin model join joined = joined ++ [(model, [join])]
  | [], _ => rfl
  | (m, joins) :: rest, h => by
      obtain ⟨hne, hrest⟩ := List.ne_and_not_mem_of_not_mem_cons h
      unfold addJoin
      rw [if_neg (Ne.symm hne), addJoin_eq_append join hrest]
      rfl

/-- The tables once a model is joined. -/
theorem mem_tables_addJoin {model : Model} {join : Join} {name : String} :
    ∀ {joined : List (Model × List Join)}, name ∈ (addJoin model join joined).map (·.1.name)
      ↔ name = model.name ∨ name ∈ joined.map (·.1.name)
  | [] => by simp [addJoin]
  | (m, joins) :: rest => by
      unfold addJoin
      by_cases hname : m.name = model.name
      · simp [hname]
      · rw [if_neg hname, List.map_cons, List.mem_cons, mem_tables_addJoin, List.map_cons,
          List.mem_cons, or_left_comm]

/-! ## §4. Selects composed of joins. -/

/-- The names of the models whose tables take part, in the order of the from clause. -/
def tables (q : Select) : List String :=
  q.model.name :: q.joined.map (·.1.name)

/-- What a call joins. -/
def joinings (q : Select) : Call → List Joining
  | .join model type _ _ => [⟨q.active, model, type⟩]
  | _ => []

/-- **The call joins a table that does not take part yet**, under no empty alias; and the
models that it names are declared. -/
def Call.Proper (q : Select) : Call → Prop
  | .join model _ _ wanted => model.Declared ∧ model.name ∉ q.tables ∧ wanted ≠ some ""
  | .activate model => model.Declared
  | _ => True

/-- **A select composed of joins**: every call joined a new table, made a table the active
one, or did something else. -/
inductive Composed : Select → List Joining → Prop
  | start {root : Model} (h : root.Declared) : Composed (ofModel root) []
  | bare {root : Model} (h : root.Declared) : Composed (new root) []
  | call {q q' : Select} {done : List Joining} (catalog : Catalog) (c : Call)
      (before : Composed q done) (proper : c.Proper q) (h : q.call catalog c = .ok q') :
      Composed q' (done ++ q.joinings c)

/-- **What was joined is kept**: the model, and one join whose sides are equated. -/
def Joining.IsKept (j : Joining) (entry : Model × List Join) : Prop :=
  entry.1 = j.model ∧ ∃ lhs rhs, entry.2 = [⟨j.type, lhs, rhs⟩] ∧ Equates j.active j.model lhs rhs

/-- **The invariant of joining.** -/
structure Tables (q : Select) (done : List Joining) : Prop where
  active : q.active.Declared
  known : q.active.name ∈ q.tables
  joined : List.Forall₂ Joining.IsKept done q.joined
  inScope : OnScoped [q.model.name] q.joined
  distinct : q.tables.Nodup
  aliases : Aliases (if done = [] then [] else q.tables) q.aliases

namespace Tables

variable {q q' : Select} {done : List Joining}

/-- A model that can be made the active one is one of the tables. -/
theorem mem_of_known {model : Model}
    (h : (model.same q.model || q.joined.any (·.1.name == model.name)) = true) :
    model.name ∈ q.tables := by
  rcases Bool.or_eq_true_iff.1 h with h | h
  · exact List.mem_cons.2 (.inl (by simpa [Model.same] using h))
  · obtain ⟨entry, hentry, hname⟩ := List.any_eq_true.1 h
    exact List.mem_cons.2 (.inr (List.mem_map.2 ⟨entry, hentry, by simpa using hname⟩))

/-- **A call that joins nothing** and leaves the tables keeps the invariant. -/
theorem keep (hq : q.Tables done) (hmodel : q'.model = q.model) (hactive : q'.active = q.active)
    (hjoined : q'.joined = q.joined) (haliases : q'.aliases = q.aliases) : q'.Tables done := by
  have htables : q'.tables = q.tables := by
    unfold tables
    rw [hmodel, hjoined]
  obtain ⟨h1, h2, h3, h4, h5, h6⟩ := hq
  exact ⟨hactive ▸ h1, by rw [hactive, htables]; exact h2, hjoined ▸ h3,
    by rw [hmodel, hjoined]; exact h4, htables ▸ h5, by rw [htables, haliases]; exact h6⟩

/-- **The aliases once a table is joined**: the first join gives the root one too. -/
theorem aliased (hq : q.Tables done) {model : Model} (hnew : model.name ∉ q.tables)
    {wanted : Option String} (hwanted : wanted ≠ some "") :
    Aliases (q.tables ++ [model.name]) (Select.aliased q.model q.aliases model wanted) := by
  have haliases := hq.aliases
  by_cases hdone : done = []
  · rw [if_pos hdone] at haliases
    have hnone : q.aliases = [] := List.map_eq_nil_iff.1 haliases.keys
    have hjoined : q.joined = [] := by
      have hkept := hq.joined
      rw [hdone] at hkept
      exact List.forall₂_nil_left_iff.1 hkept
    have hroot : Aliases [q.model.name] (Keyed.put q.model.name (chooseAlias [] none) []) :=
      Aliases.none.add (by simp) (by simp)
    have htables : q.tables = [q.model.name] := by
      unfold tables
      rw [hjoined]
      rfl
    rw [htables] at hnew ⊢
    rw [hnone]
    exact hroot.add hnew hwanted
  · rw [if_neg hdone] at haliases
    have hroot : q.aliases.has q.model.name = true := by
      rw [Keyed.has_iff_mem_keys, haliases.keys]
      exact List.mem_cons_self
    unfold Select.aliased
    rw [if_pos hroot]
    exact haliases.add hnew hwanted

/-- **A join** of a new table. -/
theorem join {catalog : Catalog} {model : Model} {type : JoinType} {on wanted : Option String}
    (hq : q.Tables done) (hmodel : model.Declared) (hnew : model.name ∉ q.tables)
    (hwanted : wanted ≠ some "") (h : q.join catalog model type on wanted = .ok q') :
    q'.Tables (done ++ [⟨q.active, model, type⟩]) := by
  obtain ⟨lhs, rhs, hsides, rfl⟩ := join_ok h
  have hequates := joinSides?_ok hq.active hmodel hsides
  obtain ⟨hroot, hothers⟩ := List.ne_and_not_mem_of_not_mem_cons hnew
  have hjoined := addJoin_eq_append ⟨type, lhs, rhs⟩ hothers
  have htables : q.model.name :: (addJoin model ⟨type, lhs, rhs⟩ q.joined).map (·.1.name)
      = q.tables ++ [model.name] := by
    rw [hjoined]
    simp [tables]
  refine ⟨hq.active, ?_, ?_, ?_, ?_, ?_⟩
  · show q.active.name ∈ q.model.name :: _
    rw [htables]
    exact List.mem_append_left _ hq.known
  · show List.Forall₂ _ _ (addJoin model ⟨type, lhs, rhs⟩ q.joined)
    rw [hjoined]
    exact List.rel_append hq.joined (.cons ⟨rfl, lhs, rhs, rfl, hequates⟩ .nil)
  · show OnScoped [q.model.name] (addJoin model ⟨type, lhs, rhs⟩ q.joined)
    rw [hjoined]
    refine hq.inScope.concat fun join hjoin => ?_
    obtain rfl := List.mem_singleton.1 hjoin
    refine ⟨List.mem_append_left _ ?_, List.mem_append_right _ ?_⟩
    · rw [hequates.lhs_model]
      exact hq.known
    · rw [hequates.rhs_model]
      exact List.mem_singleton_self _
  · show (q.model.name :: _).Nodup
    rw [htables]
    exact List.nodup_append.2 ⟨hq.distinct, List.nodup_singleton _, fun a ha b hb hab => by
      obtain rfl := List.mem_singleton.1 hb
      exact hnew (hab ▸ ha)⟩
  · show Aliases (if _ then [] else q.model.name :: _) (Select.aliased q.model q.aliases model wanted)
    rw [htables, if_neg (by simp)]
    exact hq.aliased hnew hwanted

/-- **One call** keeps the invariant. -/
theorem call {catalog : Catalog} {c : Call} (hq : q.Tables done) (hproper : c.Proper q)
    (h : q.call catalog c = .ok q') : q'.Tables (done ++ q.joinings c) := by
  cases c with
  | join model type on wanted =>
      obtain ⟨hmodel, hnew, hwanted⟩ := hproper
      exact hq.join hmodel hnew hwanted h
  | activate model =>
      obtain ⟨hknown, rfl⟩ := activate_ok h
      show Tables _ (done ++ [])
      rw [List.append_nil]
      exact ⟨hproper, mem_of_known hknown, hq.joined, hq.inScope, hq.distinct, hq.aliases⟩
  | filterBy filters =>
      obtain ⟨conditions, _, h⟩ := bind_ok.1 h
      obtain rfl := pure_ok.1 h
      show Tables _ (done ++ [])
      rw [List.append_nil]
      exact hq.keep rfl rfl rfl rfl
  | _ =>
      obtain rfl := Except.ok.inj h
      show Tables _ (done ++ [])
      rw [List.append_nil]
      exact hq.keep rfl rfl rfl rfl

end Tables

/-- **A select composed of joins** keeps its tables apart, and its joins in their scope. -/
theorem Composed.tables {q : Select} {done : List Joining} (h : q.Composed done) :
    q.Tables done := by
  have hnew : ∀ {root : Model} (keys : List SortKey), root.Declared →
      Tables { new root with orderBy := keys } [] := fun keys hroot =>
    ⟨hroot, List.mem_cons_self, .nil, .nil, by simp [Select.tables, new], .none⟩
  induction h with
  | start h => exact hnew _ h
  | bare h => exact hnew [] h
  | call catalog c _ proper h ih => exact ih.call proper h

end Select

end RecordMapper
