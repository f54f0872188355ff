/-
  RecordMapper.Proofs.Condition.Canonical
  ────────────────────────────────
  **CONDITIONS IN CANONICAL FORM.**

  A set absorbs the conditions that it is made of one level deep, looking at their
  connectors and flags, and flags are turned round later on.  All the same no set is
  left with a child that it could have absorbed: this is an invariant of every way to
  combine conditions, and `absorbed` is where it is kept.

  A set that is made of sets is the set of what these were made of
  (`absorbed_ofList`).  So And and Or are associative on the trees themselves, and a
  filter that grew in many steps is the one And set of everything that it was given.

  Main result: `conditions_canonical`.
-/
import Mathlib.Data.List.Sort
import RecordMapper.Proofs.Condition.Truth
import RecordMapper.Proofs.Ordered
import RecordMapper.Proofs.Query.Built
import RecordMapper.Proofs.Sample

namespace RecordMapper

/-! ## §1. Canonical conditions. -/

namespace Condition

/-- A set of the connector could absorb the condition: it is such a set itself, and not
negated. -/
def joins (connector : Connector) : Condition → Bool
  | .set c _ false => c = connector
  | _ => false

mutual

/-- **No set in the condition has a child that it could absorb.** -/
def canonical : Condition → Bool
  | .leaf .. => true
  | .set connector children _ => children.all (!joins connector ·) && canonicalAll children

/-- The same for several conditions. -/
def canonicalAll : List Condition → Bool
  | [] => true
  | c :: rest => c.canonical && canonicalAll rest

end

theorem canonicalAll_iff (cs : List Condition) :
    canonicalAll cs = true ↔ ∀ c ∈ cs, c.canonical = true := by
  induction cs with
  | nil => simp [canonicalAll]
  | cons c cs ih => simp [canonicalAll, ih]

/-- A set is canonical when its children are, and it could absorb none of them. -/
theorem canonical_set_iff (connector : Connector) (children : List Condition) (negated : Bool) :
    (set connector children negated).canonical = true
      ↔ ∀ c ∈ children, c.joins connector = false ∧ c.canonical = true := by
  rw [canonical, Bool.and_eq_true, List.all_eq_true, canonicalAll_iff]
  simp only [Bool.not_eq_true']
  exact ⟨fun h c hc => ⟨h.1 c hc, h.2 c hc⟩,
    fun h => ⟨fun c hc => (h c hc).1, fun c hc => (h c hc).2⟩⟩

/-- The flag of a condition does not matter to the sets in it. -/
theorem canonical_negate (c : Condition) : c.negate.canonical = c.canonical := by
  cases c <;> rfl

/-- **What a canonical condition becomes inside a set** is canonical, and the set could
absorb no more of it: children that were absorbed had the same parent before. -/
theorem canonical_absorbed {c : Condition} (hc : c.canonical = true) (connector : Connector) :
    ∀ x ∈ absorbed connector c, x.joins connector = false ∧ x.canonical = true := by
  cases c with
  | leaf field op operand negated => simp [absorbed, joins, canonical]
  | set k children negated =>
      cases negated with
      | true =>
          intro x hx
          obtain rfl := List.mem_singleton.1 hx
          exact ⟨rfl, hc⟩
      | false =>
          intro x hx
          simp only [absorbed] at hx
          split at hx
          · rename_i hsame
            subst hsame
            exact (canonical_set_iff k children false).1 hc x hx
          · rename_i hother
            obtain rfl := List.mem_singleton.1 hx
            exact ⟨decide_eq_false hother, hc⟩

/-- **A set made of canonical conditions is canonical.** -/
theorem canonical_ofList {cs : List Condition} (h : ∀ c ∈ cs, c.canonical = true)
    (connector : Connector) : (ofList connector cs).canonical = true := by
  refine (canonical_set_iff _ _ _).2 fun x hx => ?_
  obtain ⟨c, hc, hx⟩ := List.mem_flatMap.1 hx
  exact canonical_absorbed (h c hc) connector x hx

/-! ## §2. Sets made of sets. -/

/-- A set that is absorbed leaves what it absorbed itself. -/
theorem absorbed_ofList (connector : Connector) (cs : List Condition) :
    absorbed connector (ofList connector cs) = cs.flatMap (absorbed connector) :=
  if_pos rfl

/-- **Sets of one connector are associative**: it does not matter which of three
conditions are connected first. -/
theorem ofList_assoc (connector : Connector) (a b c : Condition) :
    ofList connector [ofList connector [a, b], c]
      = ofList connector [a, ofList connector [b, c]] := by
  show set connector ([ofList connector [a, b], c].flatMap (absorbed connector)) false
    = set connector ([a, ofList connector [b, c]].flatMap (absorbed connector)) false
  simp only [List.flatMap_cons, List.flatMap_nil, absorbed_ofList, List.append_nil,
    List.append_assoc]

/-! ## §3. Leaves and their flags. -/

mutual

/-- **The leaves of a condition with their flags**, left to right. -/
def signedLeaves : Condition → List (Comparison × Bool)
  | .leaf field op operand negated => [(⟨field, op, operand⟩, negated)]
  | .set _ children _ => signedLeavesOfAll children

/-- The leaves of several conditions. -/
def signedLeavesOfAll : List Condition → List (Comparison × Bool)
  | [] => []
  | c :: rest => c.signedLeaves ++ signedLeavesOfAll rest

end

theorem signedLeavesOfAll_eq_flatMap (cs : List Condition) :
    signedLeavesOfAll cs = cs.flatMap signedLeaves := by
  induction cs with
  | nil => rfl
  | cons c cs ih => rw [signedLeavesOfAll, ih, List.flatMap_cons]

/-- An absorbed condition has the leaves that it had. -/
theorem signedLeaves_absorbed (connector : Connector) (c : Condition) :
    (absorbed connector c).flatMap signedLeaves = c.signedLeaves := by
  unfold absorbed
  split
  · split
    · exact (signedLeavesOfAll_eq_flatMap _).symm
    · exact List.append_nil _
  · exact List.append_nil _

/-- **A set has the leaves of what it was made of**, in their order. -/
theorem signedLeaves_ofList (connector : Connector) (cs : List Condition) :
    (ofList connector cs).signedLeaves = cs.flatMap signedLeaves := by
  show signedLeavesOfAll (cs.flatMap (absorbed connector)) = _
  rw [signedLeavesOfAll_eq_flatMap, List.flatMap_assoc]
  simp only [signedLeaves_absorbed]

/-- The condition is a comparison. -/
def isLeaf : Condition → Bool
  | .leaf .. => true
  | .set .. => false

/-- A leaf with its flag turned round. -/
def flip (leaf : Comparison × Bool) : Comparison × Bool :=
  (leaf.1, !leaf.2)

/-- Leaves whose flags are turned round compare the same fields. -/
theorem exists_mem_map_flip {leaves : List (Comparison × Bool)} {p : Comparison → Prop} :
    (∃ leaf ∈ leaves.map flip, p leaf.1) ↔ ∃ leaf ∈ leaves, p leaf.1 := by
  constructor
  · rintro ⟨_, hmem, h⟩
    obtain ⟨leaf, hleaf, rfl⟩ := List.mem_map.1 hmem
    exact ⟨leaf, hleaf, h⟩
  · rintro ⟨leaf, hleaf, h⟩
    exact ⟨flip leaf, List.mem_map_of_mem hleaf, h⟩

/-- A negation is kept at the leaf when it is one, and otherwise away from the leaves. -/
theorem signedLeaves_negate (c : Condition) :
    c.negate.signedLeaves = if c.isLeaf then c.signedLeaves.map flip else c.signedLeaves := by
  cases c <;> rfl

mutual

/-- The models of a condition are those of its leaves. -/
theorem leafModels_eq : ∀ c : Condition,
    c.leafModels = c.signedLeaves.map fun leaf => leaf.1.field.model
  | .leaf .. => rfl
  | .set _ children _ => leafModelsOfAll_eq children

theorem leafModelsOfAll_eq : ∀ cs : List Condition,
    leafModels.go cs = (signedLeavesOfAll cs).map fun leaf => leaf.1.field.model
  | [] => rfl
  | c :: rest => by
      show c.leafModels ++ leafModels.go rest = _
      rw [leafModels_eq c, leafModelsOfAll_eq rest, ← List.map_append]
      rfl

end

/-- **The models of a condition** are the models of its leaves. -/
theorem mem_models {c : Condition} {name : String} :
    name ∈ c.models ↔ ∃ leaf ∈ c.signedLeaves, leaf.1.field.model = name := by
  rw [models, mem_sortedSet, leafModels_eq, List.mem_map]

end Condition

/-! ## §4. Every way to combine conditions. -/

/-- **A combination of conditions.**  A comparison is whatever a field, an operator and an
operand make; a set is made at once, possibly of nothing. -/
inductive Combination where
  | comparison (field : Attribute) (op : Operator) (operand : Operand)
  | negation (r : Combination)
  | and (a b : Combination)
  | or (a b : Combination)
  | set (connector : Connector) (rs : List Combination)

namespace Combination

mutual

/-- **The condition that a combination comes to.** -/
def condition : Combination → Condition
  | .comparison field op operand => .leaf field op operand false
  | .negation r => r.condition.negate
  | .and a b => a.condition.and b.condition
  | .or a b => a.condition.or b.condition
  | .set connector rs => .ofList connector (conditions rs)

/-- The conditions that several combinations come to. -/
def conditions : List Combination → List Condition
  | [] => []
  | r :: rest => r.condition :: conditions rest

end

/-- The combination is a comparison, negated or not. -/
def isComparison : Combination → Bool
  | .comparison .. => true
  | .negation r => r.isComparison
  | _ => false

mutual

/-- **The comparisons that were combined**, in their order.  To negate a comparison turns
its flag round; to negate anything else leaves the comparisons in it alone. -/
def comparisons : Combination → List (Comparison × Bool)
  | .comparison field op operand => [(⟨field, op, operand⟩, false)]
  | .negation r => if r.isComparison then r.comparisons.map Condition.flip else r.comparisons
  | .and a b => a.comparisons ++ b.comparisons
  | .or a b => a.comparisons ++ b.comparisons
  | .set _ rs => comparisonsOfAll rs

/-- The comparisons in several combinations. -/
def comparisonsOfAll : List Combination → List (Comparison × Bool)
  | [] => []
  | r :: rest => r.comparisons ++ comparisonsOfAll rest

end

mutual

/-- **The models gathered on the way**: each set gathers the models of the conditions that
it is made of. -/
def gathered : Combination → List String
  | .comparison field _ _ => [field.model]
  | .negation r => r.gathered
  | .and a b => sortedSet (a.gathered ++ b.gathered)
  | .or a b => sortedSet (a.gathered ++ b.gathered)
  | .set _ rs => sortedSet (gatheredByAll rs)

/-- The models gathered by several combinations. -/
def gatheredByAll : List Combination → List String
  | [] => []
  | r :: rest => r.gathered ++ gatheredByAll rest

end

mutual

/-- **Every combination comes to a canonical condition.** -/
theorem condition_canonical : ∀ r : Combination, r.condition.canonical = true
  | .comparison .. => rfl
  | .negation r => (Condition.canonical_negate r.condition).trans (condition_canonical r)
  | .and a b => by
      have ha := condition_canonical a
      have hb := condition_canonical b
      exact Condition.canonical_ofList (by simp [ha, hb]) .and
  | .or a b => by
      have ha := condition_canonical a
      have hb := condition_canonical b
      exact Condition.canonical_ofList (by simp [ha, hb]) .or
  | .set connector rs => Condition.canonical_ofList (conditions_all_canonical rs) connector

theorem conditions_all_canonical : ∀ rs : List Combination,
    ∀ c ∈ conditions rs, c.canonical = true
  | [], _, h => nomatch h
  | r :: rest, c, h => by
      rcases List.mem_cons.1 h with rfl | h
      · exact condition_canonical r
      · exact conditions_all_canonical rest c h

end

/-- A combination comes to a leaf when it is a comparison. -/
theorem isLeaf_condition : ∀ r : Combination, r.condition.isLeaf = r.isComparison
  | .comparison .. => rfl
  | .negation r => by
      have hflag : r.condition.negate.isLeaf = r.condition.isLeaf := by
        cases r.condition <;> rfl
      exact hflag.trans (isLeaf_condition r)
  | .and .. => rfl
  | .or .. => rfl
  | .set .. => rfl

mutual

/-- **The leaves of a condition are the comparisons that were combined.** -/
theorem signedLeaves_condition : ∀ r : Combination, r.condition.signedLeaves = r.comparisons
  | .comparison .. => rfl
  | .negation r => by
      rw [condition, Condition.signedLeaves_negate, isLeaf_condition, signedLeaves_condition r,
        comparisons]
  | .and a b => by
      rw [condition, Condition.and, Condition.signedLeaves_ofList, comparisons,
        ← signedLeaves_condition a, ← signedLeaves_condition b]
      simp
  | .or a b => by
      rw [condition, Condition.or, Condition.signedLeaves_ofList, comparisons,
        ← signedLeaves_condition a, ← signedLeaves_condition b]
      simp
  | .set connector rs => by
      rw [condition, Condition.signedLeaves_ofList, signedLeaves_conditions rs, comparisons]

theorem signedLeaves_conditions : ∀ rs : List Combination,
    (conditions rs).flatMap Condition.signedLeaves = comparisonsOfAll rs
  | [] => rfl
  | r :: rest => by
      rw [conditions, List.flatMap_cons, signedLeaves_condition r, signedLeaves_conditions rest,
        comparisonsOfAll]

end

mutual

theorem mem_gathered {name : String} : ∀ r : Combination,
    name ∈ r.gathered ↔ ∃ leaf ∈ r.comparisons, leaf.1.field.model = name
  | .comparison field op operand => by
      simp only [gathered, comparisons, List.mem_singleton, exists_eq_left]
      exact eq_comm
  | .negation r => by
      rw [gathered, comparisons, mem_gathered r]
      split
      · exact (Condition.exists_mem_map_flip (p := fun leaf => leaf.field.model = name)).symm
      · exact Iff.rfl
  | .and a b => by
      simp only [gathered, comparisons, mem_sortedSet, List.mem_append, mem_gathered a,
        mem_gathered b, or_and_right, exists_or]
  | .or a b => by
      simp only [gathered, comparisons, mem_sortedSet, List.mem_append, mem_gathered a,
        mem_gathered b, or_and_right, exists_or]
  | .set connector rs => by
      rw [gathered, comparisons, mem_sortedSet, mem_gatheredByAll rs]

theorem mem_gatheredByAll {name : String} : ∀ rs : List Combination,
    name ∈ gatheredByAll rs ↔ ∃ leaf ∈ comparisonsOfAll rs, leaf.1.field.model = name
  | [] => by simp [gatheredByAll, comparisonsOfAll]
  | r :: rest => by
      simp only [gatheredByAll, comparisonsOfAll, List.mem_append, mem_gathered r,
        mem_gatheredByAll rest, or_and_right, exists_or]

end

theorem gathered_pairwise : ∀ r : Combination, r.gathered.Pairwise (· < ·)
  | .comparison .. => List.pairwise_singleton _ _
  | .negation r => gathered_pairwise r
  | .and .. => sortedSet_pairwise _
  | .or .. => sortedSet_pairwise _
  | .set .. => sortedSet_pairwise _

/-- **What the sets gather on the way** are the models of the leaves in the end. -/
theorem gathered_eq (r : Combination) : r.gathered = r.condition.models := by
  refine (gathered_pairwise r).eq_of_mem_iff (sortedSet_pairwise _) fun name => ?_
  rw [mem_gathered, Condition.mem_models, signedLeaves_condition]

end Combination

/-! ## §5. Filters that grow. -/

namespace Condition

/-- The conditions of keyword filters that are given in two parts. -/
theorem ofFilters_append (m : Model) (filters more : List (String × Operand)) :
    ofFilters m (filters ++ more) = (do
      let conditions ← ofFilters m filters
      return conditions ++ (← ofFilters m more)) := by
  induction filters with
  | nil => exact (bind_pure _).symm
  | cons filter filters ih =>
      obtain ⟨key, operand⟩ := filter
      rw [List.cons_append, ofFilters, ofFilters]
      dsimp only
      split
      · exact ih
      · simp only [ih, bind_assoc, pure_bind, List.cons_append]

end Condition

namespace Select

theorem filterConditions_append (q : Select) (filters more : List (String × Operand)) :
    q.filterConditions (filters ++ more) = (do
      let conditions ← q.filterConditions filters
      return conditions ++ (← q.filterConditions more)) := by
  induction filters with
  | nil => exact (bind_pure _).symm
  | cons filter filters ih =>
      obtain ⟨key, operand⟩ := filter
      rw [List.cons_append, filterConditions, filterConditions, ih]
      simp only [bind_assoc, pure_bind, List.append_assoc]

/-- Keyword filters are looked up without regard to the filter that there is. -/
theorem filterConditions_eq (q : Select) (filter : List Condition)
    (filters : List (String × Operand)) :
    { q with filter := filter }.filterConditions filters = q.filterConditions filters := by
  induction filters with
  | nil => rfl
  | cons f filters ih =>
      obtain ⟨key, operand⟩ := f
      rw [filterConditions, filterConditions, ih]
      rfl

end Select

namespace Query

/-- **The query with one condition**, given at once, in place of its filter. -/
def filteredBy (condition : Condition) : Query → Query
  | .select q => .select ({ q with filter := [] }.restrict condition)
  | .update q => .update ({ q with filter := [] }.restrict condition)
  | .delete q => .delete ({ q with filter := [] }.restrict condition)
  | q => q

/-- **Let keyword filters hold** in a query that has a filter. -/
def filterBy (filters : List (String × Operand)) : Query → Except Failure Query
  | .select q => return .select (← q.filterBy filters)
  | .update q => return .update (← q.filterBy filters)
  | .delete q => return .delete (← q.filterBy filters)
  | q => return q

/-- **A built query has the one And set of what was passed to it as its filter.** -/
theorem Built.ofFilter_eq {q : Query} {passed : List Condition} (h : q.Built passed) :
    Condition.ofFilter q.filter = .ofList .and passed := by
  rw [h.filter_eq]
  rfl

/-- **Filtering at once** makes the same query. -/
theorem Built.filteredBy_eq {q : Query} {passed : List Condition} (h : q.Built passed) :
    q.filteredBy (.ofList .and passed) = q := by
  have hfilter : conjoin [] (.ofList .and passed) = q.filter := by
    rw [h.filter_eq]
    exact Condition.absorbed_ofList .and passed
  cases h with
  | @select q _ h =>
      obtain ⟨plan, filter⟩ := q
      exact congrArg (fun filter => Query.select ⟨plan, filter⟩) hfilter
  | @update q _ h => exact congrArg (fun filter => Query.update { q with filter }) hfilter
  | @delete q _ h => exact congrArg (fun filter => Query.delete { q with filter }) hfilter

/-- **Keyword filters may be given in two parts.** -/
theorem filterBy_append (q : Query) (filters more : List (String × Operand)) :
    q.filterBy (filters ++ more) = q.filterBy filters >>= filterBy more := by
  cases q with
  | select q =>
      simp only [filterBy, Select.filterBy, Select.filterConditions_append,
        Select.filterConditions_eq, bind_assoc, pure_bind, List.append_assoc]
  | update q =>
      simp only [filterBy, Update.filterBy, Condition.ofFilters_append, bind_assoc, pure_bind,
        List.append_assoc]
  | delete q =>
      simp only [filterBy, Delete.filterBy, Condition.ofFilters_append, bind_assoc, pure_bind,
        List.append_assoc]
  | insert q => rfl
  | raw q => rfl

end Query

/-- **Conditions are kept in canonical form.**  Whatever combination a condition is built
by, no set in it has a child that it could absorb, its leaves are the comparisons that
were combined, in their order, and its models are theirs, each once and in order, as the
sets gather them on the way.  And and Or are associative on the conditions themselves.
The filter of every query that is built is the one And set of all the conditions that
were passed to it, in their order: given at once, or keyword filters in two parts, they
make the same statement with the same parameters. -/
theorem conditions_canonical :
    (∀ r : Combination, r.condition.canonical = true
      ∧ r.condition.signedLeaves = r.comparisons
      ∧ r.condition.models = r.gathered
      ∧ r.condition.models.Pairwise (· < ·)
      ∧ ∀ name, name ∈ r.condition.models ↔ ∃ leaf ∈ r.comparisons, leaf.1.field.model = name)
    ∧ (∀ a b c : Condition, (a.and b).and c = a.and (b.and c) ∧ (a.or b).or c = a.or (b.or c))
    ∧ (∀ (q : Query) (passed : List Condition), q.Built passed →
      Condition.ofFilter q.filter = .ofList .and passed
        ∧ ∀ d, (q.filteredBy (.ofList .and passed)).statement d = q.statement d)
    ∧ ∀ (q : Query) (filters more : List (String × Operand)),
      q.filterBy (filters ++ more) = q.filterBy filters >>= Query.filterBy more := by
  refine ⟨fun r => ⟨r.condition_canonical, r.signedLeaves_condition, r.gathered_eq.symm,
    sortedSet_pairwise _, fun name => ?_⟩, fun a b c => ?_, fun q passed hbuilt => ?_,
    Query.filterBy_append⟩
  · rw [Condition.mem_models, r.signedLeaves_condition]
  · exact ⟨Condition.ofList_assoc .and a b c, Condition.ofList_assoc .or a b c⟩
  · refine ⟨hbuilt.ofFilter_eq, fun d => ?_⟩
    rw [hbuilt.filteredBy_eq]

namespace Sample

/-- An author whose name is Ann. -/
def isAnn : Condition := .compare authorName.toAttribute .eq (.value (text "Ann"))

/-- An author with an identifier above one. -/
def isLater : Condition := .compare authorId.toAttribute .gt (.value (int 1))

/-- A deletion of authors, filtered in two steps. -/
def deletion : Delete :=
  ((Delete.new author).restrict (isAnn.and isLater.negate)).restrict isLater

end Sample

open Sample in
/-- A deletion that is filtered in two steps is filtered by one And of three comparisons. -/
theorem deletion_filtered_at_once :
    Condition.ofFilter deletion.filter = .set .and [isAnn, isLater.negate, isLater] false
      ∧ ∀ d, ((Query.delete deletion).filteredBy
          (.ofList .and [isAnn.and isLater.negate, isLater])).statement d
        = deletion.statement d := by
  have hbuilt : (Query.delete deletion).Built [isAnn.and isLater.negate, isLater] :=
    .delete (.restrict (.restrict (.start author) _) _)
  obtain ⟨hfilter, hstatement⟩ := conditions_canonical.2.2.1 _ _ hbuilt
  exact ⟨hfilter, hstatement⟩

end RecordMapper
