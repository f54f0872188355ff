/-
  RecordMapper.Proofs.Record.Sought
  ────────────────────────────────
  **WHAT FILTERS LOOK FOR.**

  A filter by value names a field and perhaps an operator.  One that asks for equality, or
  names no operator, looks for its value in the field.  It becomes a condition of the select,
  which the select requires with all the others: its column has to be equal to what the field
  stores for the value, or has to be NULL.

  Main results: `Select.comparesWith_ok` and `Select.testsNull_ok`, the two forms of such a
  condition in the statement; and `Model.get_missed`, a lookup that is told to have no data ran
  that statement.
-/
import RecordMapper.Proofs.Backend.Lookups
import RecordMapper.Proofs.Record.RowUpdate

namespace RecordMapper

/-! ## §1. What filters look for. -/

namespace Model

/-- **The field that a filter looks up by its value**: a filter by equality, or one that
names no operator. -/
def soughtField? (m : Model) (key : String) : Option Field :=
  match resolveKey key with
  | (name, .eq) => m.field? name
  | _ => none

/-- **Filters look for one value in a field**, and the defaults are for other fields. -/
structure SeeksOnce (m : Model) (filters defaults : List (String × Value)) : Prop where
  once : ∀ f ∈ m.fields, ∀ a ∈ filters, ∀ b ∈ filters, m.soughtField? a.1 = some f →
    m.soughtField? b.1 = some f → a.2 = b.2
  apart : ∀ f ∈ m.fields, ∀ a ∈ filters, m.soughtField? a.1 = some f →
    ∀ d ∈ defaults, m.field? d.1 ≠ some f

/-- The value that a filter gives a new record is the one that it looks for. -/
theorem plainFilter?_eq (key : String) (v : Value) :
    plainFilter? key v = match resolveKey key with
      | (name, .eq) => some (name, v)
      | _ => none := by
  unfold plainFilter? resolveKey
  cases splitKey? key with
  | none => rfl
  | some parts =>
      obtain ⟨name, suffix⟩ := parts
      dsimp only
      cases Operator.ofSuffix? suffix with
      | none => rfl
      | some op => cases op <;> rfl

/-- A field that is looked up is found under the name that the filter gives. -/
theorem soughtField?_eq_some {m : Model} {key : String} {f : Field} :
    m.soughtField? key = some f ↔ ∃ name, resolveKey key = (name, .eq) ∧ m.field? name = some f := by
  unfold soughtField?
  split
  · next name heq => simp [heq]
  · next hother =>
      refine iff_of_false nofun ?_
      rintro ⟨name, hname, -⟩
      exact hother name hname

/-- A filter that gives a field of the model a value looks for that value in it. -/
theorem plainFilter?_eq_some {m : Model} {key name : String} {v u : Value} {f : Field}
    (h : plainFilter? key v = some (name, u)) (hf : m.field? name = some f) :
    m.soughtField? key = some f ∧ u = v := by
  rw [plainFilter?_eq] at h
  split at h
  · next name' heq =>
      obtain ⟨rfl, rfl⟩ := Prod.mk.inj (Option.some.inj h)
      exact ⟨soughtField?_eq_some.2 ⟨_, heq, hf⟩, rfl⟩
  · cases h

end Model

/-! ## §2. The conditions of a lookup. -/

namespace Condition

/-- The condition compares a field with a value. -/
def IsByValue (c : Condition) : Prop :=
  ∃ field op v, c = .leaf field op (.value v) false

/-- **A filter with a value** compares with a value, by equality when it says so. -/
theorem ofKeyword_value_ok {key : String} {field : Attribute} {op : Operator} {v : Value}
    {c : Condition} (h : ofKeyword key field op (.value v) = .ok c) :
    c.IsByValue ∧ (op = .eq → c = compare field .eq (.value v)) := by
  unfold ofKeyword at h
  split at h
  · cases h
    exact ⟨⟨_, _, _, rfl⟩, nofun⟩
  · cases h
    exact ⟨⟨_, _, _, rfl⟩, nofun⟩
  · split at h
    · cases h
      exact ⟨⟨_, _, _, rfl⟩, nofun⟩
    · cases h
  · cases h
    refine ⟨⟨_, _, _, rfl⟩, ?_⟩
    rintro rfl
    rfl

theorem ofKeyword_error {key : String} {field : Attribute} {op : Operator} {operand : Operand}
    {failure : Failure} (h : ofKeyword key field op operand = .error failure) :
    failure = .filterNeedsNull key := by
  unfold ofKeyword at h
  split at h
  · cases h
  · cases h
  · split at h
    · cases h
    · exact (Except.error.inj h).symm
  · cases h

/-- The condition of one filter, if its field is known. -/
theorem ofFilters_one_ok {m : Model} {key : String} {v : Value} {cs : List Condition}
    (h : ofFilters m [(key, .value v)] = .ok cs) :
    (∀ c ∈ cs, c.IsByValue) ∧ ∀ f, m.soughtField? key = some f →
      compare f.toAttribute .eq (.value v) ∈ cs := by
  simp only [ofFilters] at h
  split at h
  · next hnone =>
      obtain rfl := Except.ok.inj h
      refine ⟨fun c hc => (nomatch hc), fun f hf => ?_⟩
      obtain ⟨name, hname, hfield⟩ := Model.soughtField?_eq_some.1 hf
      rw [hname, hfield] at hnone
      cases hnone
  · next field hfield =>
      obtain ⟨c, hc, h⟩ := bind_ok.1 h
      obtain rfl := pure_ok.1 h
      obtain ⟨hvalue, hequal⟩ := ofKeyword_value_ok hc
      refine ⟨fun c' hc' => List.mem_singleton.1 hc' ▸ hvalue, fun f hf => ?_⟩
      obtain ⟨name, hname, hsought⟩ := Model.soughtField?_eq_some.1 hf
      rw [hname] at hfield hequal
      obtain rfl := Option.some.inj (hsought.symm.trans hfield)
      exact List.mem_singleton.2 (hequal rfl).symm

theorem ofFilters_error {m : Model} {failure : Failure} :
    ∀ {filters : List (String × Operand)}, ofFilters m filters = .error failure →
      failure ≠ .noData
  | [], h => nomatch h
  | (key, operand) :: rest, h => by
      simp only [ofFilters] at h
      split at h
      · exact ofFilters_error h
      · rcases bind_error.1 h with hfirst | ⟨c, -, h⟩
        · rw [ofKeyword_error hfirst]
          exact nofun
        · rcases bind_error.1 h with hrest | ⟨cs, -, h⟩
          · exact ofFilters_error hrest
          · cases h

end Condition

/-- Filters by value. -/
def byValue (filters : List (String × Value)) : List (String × Operand) :=
  filters.map fun (key, v) => (key, .value v)

namespace Select

variable {q : Select} {m : Model} {failure : Failure}

/-- A select of one model looks every filter up there. -/
theorem scopeOf_ofModel (m : Model) (key : String) : (ofModel m).scopeOf key = m := by
  show (if _ then _ else _) = m
  split <;> rfl

/-- **The conditions of filters by value** compare with values, and there is one for every
value that is looked for. -/
theorem filterConditions_byValue (hscope : ∀ key, q.scopeOf key = m) :
    ∀ {filters : List (String × Value)} {cs : List Condition},
      q.filterConditions (byValue filters) = .ok cs →
      (∀ c ∈ cs, c.IsByValue) ∧ ∀ a ∈ filters, ∀ f, m.soughtField? a.1 = some f →
        Condition.compare f.toAttribute .eq (.value a.2) ∈ cs
  | [], cs, h => by
      obtain rfl := Except.ok.inj h
      exact ⟨fun c hc => (nomatch hc), fun a ha => (nomatch ha)⟩
  | (key, v) :: rest, cs, h => by
      obtain ⟨first, hfirst, h⟩ := bind_ok.1 h
      obtain ⟨others, hothers, h⟩ := bind_ok.1 h
      obtain rfl := pure_ok.1 h
      rw [hscope] at hfirst
      obtain ⟨hvalue, hsought⟩ := Condition.ofFilters_one_ok hfirst
      obtain ⟨hvalues, hall⟩ := filterConditions_byValue hscope hothers
      refine ⟨fun c hc => ?_, fun a ha f hf => ?_⟩
      · exact (List.mem_append.1 hc).elim (hvalue c) (hvalues c)
      · rcases List.mem_cons.1 ha with rfl | ha
        · exact List.mem_append_left _ (hsought f hf)
        · exact List.mem_append_right _ (hall a ha f hf)

theorem filterConditions_error : ∀ {filters : List (String × Operand)},
    q.filterConditions filters = .error failure → failure ≠ .noData
  | [], h => nomatch h
  | (key, operand) :: rest, h => by
      unfold filterConditions at h
      rcases bind_error.1 h with hfirst | ⟨cs, -, h⟩
      · exact Condition.ofFilters_error hfirst
      · rcases bind_error.1 h with hrest | ⟨others, -, h⟩
        · exact filterConditions_error hrest
        · cases h

end Select

/-! ### Rendering them. -/

section

variable {s : Setting} {k : Nat} {failure : Failure}

theorem Attribute.toStorage_error {a : Attribute} {v : Value} (h : a.toStorage v = .error failure) :
    failure ≠ .noData := by
  unfold toStorage blame at h
  split at h
  · cases h
  · rw [← Except.error.inj h]
    exact nofun

/-- A value that cannot be bound cannot be stored. -/
theorem bind_value_error {field : Attribute} {op : Operator} {v : Value}
    (h : (Operand.value v).bind s k field op = .error failure) :
    field.toStorage v = .error failure := by
  unfold Operand.bind at h
  split at h
  · cases h
  · rcases bind_error.1 h with h | ⟨bound, -, h⟩
    · rcases bind_error.1 h with h | ⟨stored, -, h⟩
      · rw [List.mapM_cons] at h
        rcases bind_error.1 h with h | ⟨stored, -, h⟩
        · exact h
        · cases h
      · cases h
    · cases h

/-- A comparison with a value that cannot be rendered has a value that cannot be stored. -/
theorem formula_byValue_error {c : Condition} (hc : c.IsByValue)
    (h : c.formula s k = .error failure) : failure ≠ .noData := by
  obtain ⟨field, op, v, rfl⟩ := hc
  unfold Condition.formula at h
  split at h
  · cases h
  · rcases bind_error.1 h with h | ⟨bound, -, h⟩
    · exact Attribute.toStorage_error (bind_value_error h)
    · cases h

theorem formulas_byValue_error : ∀ {cs : List Condition} {k : Nat}, (∀ c ∈ cs, c.IsByValue) →
    Condition.formulas s k cs = .error failure → failure ≠ .noData
  | [], k, _, h => by
      unfold Condition.formulas at h
      cases h
  | c :: rest, k, hvalues, h => by
      unfold Condition.formulas at h
      rcases bind_error.1 h with h | ⟨first, -, h⟩
      · exact formula_byValue_error (hvalues c List.mem_cons_self) h
      · rcases bind_error.1 h with h | ⟨others, -, h⟩
        · exact formulas_byValue_error (fun c hc => hvalues c (List.mem_cons_of_mem _ hc)) h
        · cases h

end

namespace Select

variable {q : Select} {d : Dialect} {st : Statement} {field : Attribute} {v : Value}

/-- **The select requires this**: its where clause connects formulas by And, of which it is
one. -/
def Requires (q : Select) (d : Dialect) (st : Statement) (formula : Formula Sql) : Prop :=
  ∃ formulas, formula ∈ formulas
    ∧ st.sql = q.assemble (q.setting d) q.outputFields (Formula.set .and formulas false).write

/-- The column of a field in the where clause. -/
def whereColumn (q : Select) (d : Dialect) (field : Attribute) : Sql :=
  ((q.setting d).inClause .selectWhere).column field

/-- **The select compares a column with a value**: the column has to be equal to the parameter
of some number, and that parameter is `p`. -/
def ComparesWith (q : Select) (d : Dialect) (st : Statement) (field : Attribute) (p : Value) : Prop :=
  ∃ n, q.Requires d st
      (.atom (d.operation .eq (q.whereColumn d field) [[d.slot .selectWhere n]]) false)
    ∧ st.parameters[n]? = some p

/-- **The select tests a column for NULL.** -/
def TestsNull (q : Select) (d : Dialect) (st : Statement) (field : Attribute) : Prop :=
  q.Requires d st (.atom (d.operation .isNull (q.whereColumn d field) []) false)

/-- **A condition of the select** is required by its statement, and its parameters are among
those of the statement, at the numbers of their placeholders. -/
theorem requires_ok (hst : q.statement d = .ok st) {c : Condition} (hc : c ∈ q.filter) :
    ∃ f qs before after,
      c.formula ((q.setting d).inClause .selectWhere) before.length = .ok (f, qs)
        ∧ q.Requires d st f ∧ st.parameters = before ++ qs ++ after := by
  obtain ⟨w, hw, hsql, hparameters⟩ := render_ok hst
  obtain ⟨fs, hfs, hwhere⟩ := whereClause_ok hw
  obtain ⟨f, qs, before, after, hf, hmem, hps⟩ := formulas_mem_ok hc hfs
  rw [Nat.zero_add] at hf
  refine ⟨f, qs, before, after, hf, ⟨fs, hmem, ?_⟩, hparameters.trans hps⟩
  rw [hsql, hwhere]

/-- **Equality with a value** that is not NULL compares with what is stored for it. -/
theorem comparesWith_ok (hst : q.statement d = .ok st) (hv : v.isNull = false)
    (hc : Condition.compare field .eq (.value v) ∈ q.filter) :
    ∃ p, field.toStorage v = .ok p ∧ q.ComparesWith d st field p := by
  obtain ⟨f, qs, before, after, hf, hrequires, hps⟩ := requires_ok hst hc
  obtain ⟨p, hp, rfl, rfl⟩ := formula_equal_ok hv hf
  refine ⟨p, hp, before.length, hrequires, ?_⟩
  rw [hps]
  simp

/-- **Equality with NULL** is a test for NULL. -/
theorem testsNull_ok (hst : q.statement d = .ok st) (hv : v.isNull = true)
    (hc : Condition.compare field .eq (.value v) ∈ q.filter) : q.TestsNull d st field := by
  obtain ⟨f, qs, before, after, hf, hrequires, -⟩ := requires_ok hst hc
  have hcompare : Condition.compare field .eq (.value v) = .leaf field .isNull (.value v) false := by
    show Condition.leaf _ (if v.isNull = true then _ else _) _ _ = _
    rw [hv]
    rfl
  rw [hcompare] at hf
  obtain ⟨values, rfl, ⟨-, rfl, -⟩ | ⟨hnull, -⟩⟩ := formula_leaf_ok hf
  · exact hrequires
  · cases hnull

end Select

/-! ## §3. Lookups by value. -/

namespace Model

variable {m : Model} {filters : List (String × Value)} {look : Select} {d : Dialect}
  {servers between : Servers}

/-- **The select of filters by value.** -/
theorem filterBy_byValue (h : (Select.ofModel m).filterBy (byValue filters) = .ok look) :
    look.model = m ∧ (∀ c ∈ look.filter, c.IsByValue)
      ∧ ∀ a ∈ filters, ∀ f, m.soughtField? a.1 = some f →
        Condition.compare f.toAttribute .eq (.value a.2) ∈ look.filter := by
  obtain ⟨cs, hcs, h⟩ := bind_ok.1 h
  obtain rfl := pure_ok.1 h
  exact ⟨rfl, Select.filterConditions_byValue (Select.scopeOf_ofModel m) hcs⟩

/-- It can be rendered unless a value cannot be stored. -/
theorem statement_byValue_error {failure : Failure} (hvalues : ∀ c ∈ look.filter, c.IsByValue)
    (h : look.statement d = .error failure) : failure ≠ .noData := by
  obtain ⟨plan, filter⟩ := look
  unfold Select.statement Select.render at h
  rcases bind_error.1 h with h | ⟨written, -, h⟩
  · exact formulas_byValue_error hvalues h
  · cases h

/-- A lookup by filters is one of their select. -/
theorem get_run (filters : List (String × Operand)) (servers : Servers) :
    (m.get filters).run servers = match (Select.ofModel m).filterBy filters with
      | .ok look => look.one.run servers
      | .error failure => (.error failure, servers) := by
  unfold get
  rw [run_bind]
  cases (Select.ofModel m).filterBy filters <;> rfl

/-- **Looking up begins no transaction**, whatever comes of it. -/
theorem get_not_begun (filters : List (String × Operand)) (servers : Servers) (handle : Handle) :
    ⟨.begin, none⟩ ∉ servers.callsUntil ((m.get filters).run servers).2 handle := by
  have hnothing : ⟨.begin, none⟩ ∉ servers.callsUntil servers handle := by
    rw [Servers.callsUntil_of_eq rfl]
    exact List.not_mem_nil
  rw [get_run]
  cases (Select.ofModel m).filterBy filters with
  | error failure => exact hnothing
  | ok look =>
      dsimp only
      have hlookup := look.lookup servers
      generalize (look.one.run servers).1 = out, (look.one.run servers).2 = servers' at hlookup ⊢
      cases hlookup with
      | unbound _ => exact hnothing
      | unrendered _ _ => exact hnothing
      | read _ _ lookedUp _ => exact fun hbegun => lookedUp.reads hbegun

/-- **A lookup that is told to have no data** ran its select. -/
theorem get_missed (h : (m.get (byValue filters)).run servers = (.error .noData, between)) :
    ∃ look handle st, (Select.ofModel m).filterBy (byValue filters) = .ok look
      ∧ m.database = some handle ∧ look.statement (servers.backend handle).dialect = .ok st
      ∧ servers.LookedUp handle st true between := by
  rw [get_run] at h
  cases hlook : (Select.ofModel m).filterBy (byValue filters) with
  | error failure =>
      rw [hlook] at h
      obtain rfl := Except.error.inj (Prod.mk.inj h).1
      rcases bind_error.1 hlook with hlook | ⟨cs, -, hlook⟩
      · exact absurd rfl (Select.filterConditions_error hlook)
      · cases hlook
  | ok look =>
      rw [hlook] at h
      obtain ⟨hmodel, hvalues, -⟩ := filterBy_byValue hlook
      have hlookup := look.lookup servers
      rw [show look.one.run servers = (.error .noData, between) from h] at hlookup
      generalize hout : (.error .noData : Except Failure Record) = out at hlookup
      cases hlookup with
      | unbound _ => cases hout
      | unrendered _ refused =>
          obtain rfl := Except.error.inj hout
          exact absurd rfl (statement_byValue_error hvalues refused)
      | read database rendered lookedUp missed =>
          rw [missed hout.symm] at lookedUp
          exact ⟨look, _, _, rfl, hmodel ▸ database, rendered, lookedUp⟩

end Model

end RecordMapper
