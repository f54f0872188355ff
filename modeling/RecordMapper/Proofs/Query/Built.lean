/-
  RecordMapper.Proofs.Query.Built
  ────────────────────────────────
  **QUERIES AS THEY ARE BUILT.**

  A query is built by calls, one after the other, each of which may fail.  What a
  query has come to is an invariant of these calls.  Two kinds of call pass
  conditions to it; the others leave its filter alone.  A filter absorbs what is
  passed to it, so it need not hold the conditions themselves; it gathers them
  (`Gathers`): it has their leaves, in order, and holds when all of them hold.

  Main results: `Query.Built.filter_eq`, and from it `Gathers.absorbing`.
-/
import RecordMapper.Proofs.Condition.Keywords
import RecordMapper.Proofs.Condition.Truth
import RecordMapper.Query.Change

namespace RecordMapper

/-! ## §1. Conditions of keyword filters. -/

namespace Condition

/-- The condition is a comparison that is not negated. -/
def IsPlain (c : Condition) : Prop :=
  ∃ field op operand, c = .leaf field op operand false

theorem isPlain_compare (field : Attribute) (op : Operator) (operand : Operand) :
    (compare field op operand).IsPlain :=
  ⟨field, effective op operand, operand, rfl⟩

/-- **Whatever filters ask for** is a comparison that is not negated. -/
theorem AskedFor.isPlain {finds : String → Field → Prop} {filters : List (String × Operand)}
    {cs : List Condition} (h : AskedFor finds filters cs) : ∀ c ∈ cs, c.IsPlain := by
  induction h with
  | nil => exact fun c hc => nomatch hc
  | passed _ _ _ ih => exact ih
  | asked _ _ hasks _ ih =>
      refine List.forall_mem_cons.2 ⟨?_, ih⟩
      cases hasks <;> exact ⟨_, _, _, rfl⟩

/-- Comparisons are absorbed as they are. -/
theorem flatMap_absorbed_of_plain (connector : Connector) {cs : List Condition}
    (h : ∀ c ∈ cs, c.IsPlain) : cs.flatMap (absorbed connector) = cs := by
  induction cs with
  | nil => rfl
  | cons c cs ih =>
      obtain ⟨field, op, operand, rfl⟩ := h c List.mem_cons_self
      rw [List.flatMap_cons, ih fun c' hc' => h c' (List.mem_cons_of_mem _ hc')]
      rfl

end Condition

/-! ## §2. Gathering conditions. -/

/-- **A filter gathers the conditions that were passed**: it has their leaves in their
order and their value, and no set in it is ill-formed unless one of theirs is. -/
structure Gathers (passed filter : List Condition) : Prop where
  leaves : Condition.leavesOfAll filter = Condition.leavesOfAll passed
  value : ∀ σ k, Truth.all (Condition.values σ k filter) = Truth.all (Condition.values σ k passed)
  proper : Condition.properAll passed = true → Condition.properAll filter = true
  nil : passed = [] → filter = []
  ne_nil : Condition.properAll passed = true → passed ≠ [] → filter ≠ []

namespace Gathers

/-- What an absorbed condition becomes is as well-formed as it was, and not nothing. -/
theorem absorbed_proper {connector : Connector} {c : Condition} (h : c.proper = true) :
    Condition.properAll (c.absorbed connector) = true ∧ c.absorbed connector ≠ [] := by
  -- Only the children of a set are absorbed, and a proper set has some.
  have hone : ∀ c : Condition, c.proper = true → Condition.properAll [c] = true ∧ [c] ≠ [] := by
    intro c hc
    refine ⟨?_, List.cons_ne_nil _ _⟩
    rw [Condition.properAll, hc]
    rfl
  unfold Condition.absorbed
  split
  · split
    · unfold Condition.proper at h
      obtain ⟨hset, hchildren⟩ := Bool.and_eq_true_iff.1 h
      obtain ⟨_, hne⟩ := Bool.and_eq_true_iff.1 hset
      exact ⟨hchildren, by simpa using hne⟩
    · exact hone _ h
  · exact hone _ h

/-- **Absorbing gathers**: what is passed may be absorbed one by one. -/
theorem absorbing {passed filter : List Condition}
    (h : filter = passed.flatMap (Condition.absorbed .and)) : Gathers passed filter := by
  subst h
  refine ⟨?_, fun σ k => ?_, fun hproper => ?_, fun hnil => ?_, fun hproper hne hnil => ?_⟩
  · induction passed with
    | nil => rfl
    | cons c passed ih =>
        rw [List.flatMap_cons, Condition.leavesOfAll_append, Condition.leavesOfAll_absorbed, ih]
        rfl
  -- The filter takes the children of an And in place of the And itself, which leaves the
  -- value as it is.
  · exact Condition.connect_values_flatMap_absorbed (show Connector.and ≠ .comma by simp) σ passed k
  · rw [Condition.properAll_iff] at hproper ⊢
    intro c' hc'
    obtain ⟨c, hc, hc'⟩ := List.mem_flatMap.1 hc'
    exact (Condition.properAll_iff _).1 (absorbed_proper (hproper c hc)).1 c' hc'
  · rw [hnil]
    rfl
  · obtain ⟨c, hc⟩ := List.exists_mem_of_ne_nil passed hne
    have hproper := (Condition.properAll_iff _).1 hproper c hc
    exact (absorbed_proper hproper).2 (List.flatMap_eq_nil_iff.1 hnil c hc)

end Gathers

/-! ## §3. Building selects. -/

/-- **A call on a select.** -/
inductive Select.Call where
  | select (items : List Selection)
  | join (model : Model) (type : JoinType) (on wanted : Option String)
  | activate (model : Model)
  | distinct (distinct : Bool)
  | limit (rows : Nat)
  | offset (rows : Nat)
  | page (offset limit : Nat)
  | naive (naive : Bool)
  | sort (items : List SortItem)
  | resort (items : List SortItem)
  | group (items : List GroupItem)
  | restrict (condition : Condition)
  | filterBy (filters : List (String × Operand))

namespace Select

/-- **What a call makes of a select**, given the models that are registered. -/
def call (catalog : Catalog) (q : Select) : Call → Except Failure Select
  | .select items => .ok (q.select items)
  | .join model type on wanted => q.join catalog model type on wanted
  | .activate model => q.activate model
  | .distinct distinct => .ok (q.setDistinct distinct)
  | .limit rows => .ok (q.setLimit rows)
  | .offset rows => .ok (q.setOffset rows)
  | .page offset limit => .ok (q.page offset limit)
  | .naive naive => .ok (q.setNaive naive)
  | .sort items => .ok (q.sort items)
  | .resort items => .ok (q.resort items)
  | .group items => .ok (q.group items)
  | .restrict condition => .ok (q.restrict condition)
  | .filterBy filters => q.filterBy filters

/-- **The conditions that a call passes** to a select: the condition that it is given, or
what its filters ask for on the fields that the select finds. -/
def Passes (q : Select) : Call → List Condition → Prop
  | .restrict condition, cs => cs = [condition]
  | .filterBy filters, cs => Condition.AskedFor (fun name f => ∃ m, q.Finds name m f) filters cs
  | _, cs => cs = []

/-- **A select that was built**, with the conditions that were passed to it. -/
inductive Built : Select → List Condition → Prop
  | start (model : Model) : Built (ofModel model) []
  | bare (model : Model) : Built (new model) []
  | call {q q' : Select} {passed cs : List Condition} (catalog : Catalog) (c : Call)
      (before : Built q passed) (h : q.call catalog c = .ok q') (hpasses : q.Passes c cs) :
      Built q' (passed ++ cs)

/-- **A join** that succeeds found two sides; it adds the model and its aliases, and
nothing else. -/
theorem join_ok {q q' : Select} {catalog : Catalog} {model : Model} {type : JoinType}
    {on wanted : Option String} (h : q.join catalog model type on wanted = .ok q') :
    ∃ lhs rhs, joinSides? catalog q.active model on = some (lhs, rhs)
      ∧ q' = { q with
        joined := addJoin model ⟨type, lhs, rhs⟩ q.joined
        aliases := aliased q.model q.aliases model wanted } := by
  unfold join at h
  cases hsides : joinSides? catalog q.active model on with
  | none =>
      rw [hsides] at h
      cases h
  | some sides =>
      rw [hsides] at h
      exact ⟨sides.1, sides.2, rfl, (Except.ok.inj h).symm⟩

/-- A model that can be made the active one becomes it, and nothing else changes. -/
theorem activate_ok {q q' : Select} {model : Model} (h : q.activate model = .ok q') :
    (model.same q.model || q.joined.any (·.1.name == model.name)) = true
      ∧ q' = { q with active := model } := by
  unfold activate at h
  split at h
  · rename_i hknown
    exact ⟨hknown, (Except.ok.inj h).symm⟩
  · cases h

/-- **One call** absorbs what it passes, behind the filter that there is. -/
theorem filter_call {q q' : Select} {cs : List Condition} {catalog : Catalog} {c : Call}
    (h : q.call catalog c = .ok q') (hpasses : q.Passes c cs) :
    q'.filter = q.filter ++ cs.flatMap (Condition.absorbed .and) := by
  -- A call that passes nothing leaves the filter as it is.
  have hkeeps : cs = [] → q'.filter = q.filter →
      q'.filter = q.filter ++ cs.flatMap (Condition.absorbed .and) := by
    rintro rfl hfilter
    rw [hfilter, List.flatMap_nil, List.append_nil]
  cases c with
  | restrict condition =>
      obtain rfl := Except.ok.inj h
      obtain rfl : cs = [condition] := hpasses
      rw [List.flatMap_singleton]
      rfl
  | filterBy filters =>
      obtain ⟨conditions, hconditions, h⟩ := bind_ok.1 h
      obtain rfl := pure_ok.1 h
      obtain rfl := Except.ok.inj (hconditions.symm.trans (filterConditions_iff.2 hpasses))
      rw [Condition.flatMap_absorbed_of_plain _ (Condition.AskedFor.isPlain hpasses)]
  | join model type on wanted =>
      obtain ⟨lhs, rhs, _, rfl⟩ := join_ok h
      exact hkeeps hpasses rfl
  | activate model =>
      obtain ⟨_, rfl⟩ := activate_ok h
      exact hkeeps hpasses rfl
  | _ =>
      obtain rfl := Except.ok.inj h
      exact hkeeps hpasses rfl

/-- **The filter of a built select** is what was passed to it, absorbed one by one. -/
theorem Built.filter_eq {q : Select} {passed : List Condition} (h : Built q passed) :
    q.filter = passed.flatMap (Condition.absorbed .and) := by
  induction h with
  | start model => rfl
  | bare model => rfl
  | call _ _ _ h hpasses ih => rw [filter_call h hpasses, ih, List.flatMap_append]

theorem Built.gathers {q : Select} {passed : List Condition} (h : Built q passed) :
    Gathers passed q.filter :=
  .absorbing h.filter_eq

end Select

/-! ## §4. Building updates and deletions. -/

/-- **An update that was built**, with the conditions that were passed to it. -/
inductive Update.Built : Update → List Condition → Prop
  | start (model : Model) : Update.Built (.new model) []
  | set {q : Update} {passed : List Condition} (before : Update.Built q passed)
      (values : List (String × Value)) : Update.Built (q.set values) passed
  | restrict {q : Update} {passed : List Condition} (before : Update.Built q passed)
      (c : Condition) : Update.Built (q.restrict c) (passed ++ [c])
  | filterBy {q q' : Update} {passed cs : List Condition} {filters : List (String × Operand)}
      (before : Update.Built q passed) (h : q.filterBy filters = .ok q')
      (hpasses : Condition.AskedFor (q.model.field? · = some ·) filters cs) : Update.Built q' (passed ++ cs)

/-- **A deletion that was built**, with the conditions that were passed to it. -/
inductive Delete.Built : Delete → List Condition → Prop
  | start (model : Model) : Delete.Built (.new model) []
  | restrict {q : Delete} {passed : List Condition} (before : Delete.Built q passed)
      (c : Condition) : Delete.Built (q.restrict c) (passed ++ [c])
  | filterBy {q q' : Delete} {passed cs : List Condition} {filters : List (String × Operand)}
      (before : Delete.Built q passed) (h : q.filterBy filters = .ok q')
      (hpasses : Condition.AskedFor (q.model.field? · = some ·) filters cs) : Delete.Built q' (passed ++ cs)

theorem Update.Built.filter_eq {q : Update} {passed : List Condition} (h : q.Built passed) :
    q.filter = passed.flatMap (Condition.absorbed .and) := by
  induction h with
  | start model => rfl
  | set _ _ ih => exact ih
  | restrict _ c ih =>
      rw [List.flatMap_append, List.flatMap_singleton, ← ih]
      rfl
  | filterBy _ h hpasses ih =>
      obtain ⟨conditions, hconditions, h⟩ := bind_ok.1 h
      obtain rfl := pure_ok.1 h
      obtain rfl := Except.ok.inj (hconditions.symm.trans (Condition.ofFilters_iff.2 hpasses))
      have hplain := Condition.flatMap_absorbed_of_plain .and hpasses.isPlain
      rw [List.flatMap_append, ← ih, hplain]

theorem Delete.Built.filter_eq {q : Delete} {passed : List Condition} (h : q.Built passed) :
    q.filter = passed.flatMap (Condition.absorbed .and) := by
  induction h with
  | start model => rfl
  | restrict _ c ih =>
      rw [List.flatMap_append, List.flatMap_singleton, ← ih]
      rfl
  | filterBy _ h hpasses ih =>
      obtain ⟨conditions, hconditions, h⟩ := bind_ok.1 h
      obtain rfl := pure_ok.1 h
      obtain rfl := Except.ok.inj (hconditions.symm.trans (Condition.ofFilters_iff.2 hpasses))
      have hplain := Condition.flatMap_absorbed_of_plain .and hpasses.isPlain
      rw [List.flatMap_append, ← ih, hplain]

theorem Update.Built.gathers {q : Update} {passed : List Condition} (h : q.Built passed) :
    Gathers passed q.filter :=
  .absorbing h.filter_eq

theorem Delete.Built.gathers {q : Delete} {passed : List Condition} (h : q.Built passed) :
    Gathers passed q.filter :=
  .absorbing h.filter_eq

namespace Query

/-- The conditions that the rows of a query have to meet. -/
def filter : Query → List Condition
  | .select q => q.filter
  | .update q => q.filter
  | .delete q => q.filter
  | .insert _ | .raw _ => []

/-- **A query with conditions that was built**, with those that were passed to it. -/
inductive Built : Query → List Condition → Prop
  | select {q : Select} {passed : List Condition} (h : q.Built passed) : Built (.select q) passed
  | update {q : Update} {passed : List Condition} (h : q.Built passed) : Built (.update q) passed
  | delete {q : Delete} {passed : List Condition} (h : q.Built passed) : Built (.delete q) passed

/-- **The filter of a built query** is what was passed to it, absorbed one by one. -/
theorem Built.filter_eq {q : Query} {passed : List Condition} (h : q.Built passed) :
    q.filter = passed.flatMap (Condition.absorbed .and) := by
  cases h with
  | select h => exact h.filter_eq
  | update h => exact h.filter_eq
  | delete h => exact h.filter_eq

end Query

end RecordMapper
