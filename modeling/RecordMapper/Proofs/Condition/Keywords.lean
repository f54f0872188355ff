/-
  RecordMapper.Proofs.Condition.Keywords
  ────────────────────────────────
  **WHAT KEYWORD FILTERS ASK FOR.**

  A keyword filter is a key and an operand.  The key names a field and, behind two
  underscores, an operator by its word; without a word the operator is equality.  The
  operator and the operand together ask for one condition on the field: equality with NULL
  is a null test, and a null test is turned round by a value that counts as false.

  This is said here by relations of their own: how a key is read (`KeyNames`), what an
  operator asks for (`Condition.Asks`), where a field is found (`Select.Finds`), and what a
  list of filters asks for in all (`Condition.AskedFor`).  The builders split the key,
  choose the model and make the conditions; they come to just that.

  Main results: `resolveKey_iff`, `Condition.ofKeyword_iff`, and from them
  `Condition.ofFilters_iff` and `Select.filterConditions_iff`.
-/
import RecordMapper.Proofs.Outcome
import RecordMapper.Query.Select

namespace RecordMapper

/-! ## §1. Keys. -/

/-- **The words of the operators** in keys. -/
def Operator.words : List (String × Operator) :=
  [("eq", .eq), ("ne", .ne), ("lt", .lt), ("lte", .lte), ("gt", .gt), ("gte", .gte),
   ("isnull", .isNull), ("isnotnull", .isNotNull), ("is", .is), ("in", .isIn), ("nin", .notIn),
   ("between", .between), ("contains", .contains), ("startswith", .startsWith), ("ieq", .ieq),
   ("icontains", .icontains), ("istartswith", .istartsWith)]

/-- **How a key is read**: it names a field and an operator, or a field alone when no
word of an operator stands behind two underscores. -/
inductive KeyNames (key : String) : (name : String) → Operator → Prop
  | worded {name word : String} {op : Operator} (hword : (word, op) ∈ Operator.words)
      (h : key = name ++ "__" ++ word) : KeyNames key name op
  | plain (h : ∀ entry ∈ Operator.words, ∀ name, key ≠ name ++ "__" ++ entry.1) :
      KeyNames key key .eq

namespace Operator

/-- The words are the suffixes of the operators. -/
theorem mem_words_iff {word : String} {op : Operator} :
    (word, op) ∈ words ↔ ofSuffix? word = some op := by
  constructor
  · intro h
    have hall : ∀ entry ∈ words, entry.2.suffix = entry.1 := by decide
    obtain rfl : op.suffix = word := hall _ h
    exact ofSuffix?_suffix op
  · intro h
    have hword : op.suffix = word := by simpa using List.find?_some h
    subst hword
    cases op <;> decide

/-- No word has an underscore in it. -/
theorem no_underscore {word : String} {op : Operator} (h : (word, op) ∈ words) :
    ∀ c ∈ word.toList, c ≠ '_' := by
  have hall : words.all (fun entry => entry.1.toList.all (· != '_')) = true := by decide
  have hword := List.all_eq_true.1 (List.all_eq_true.1 hall _ h)
  intro c hc
  simpa using hword c hc

end Operator

/-- What is split stands around two underscores. -/
theorem splitLast?_some : ∀ {key name suffix : List Char}, splitLast? key = some (name, suffix) →
    key = name ++ '_' :: '_' :: suffix
  | [], _, _, h => by cases h
  | c :: rest, name, suffix, h => by
      unfold splitLast? at h
      cases hrest : splitLast? rest with
      | some parts =>
          rw [hrest] at h
          obtain ⟨rfl, rfl⟩ := Prod.mk.inj (Option.some.inj h)
          exact congrArg (c :: ·) (splitLast?_some hrest)
      | none =>
          rw [hrest] at h
          dsimp only at h
          split at h
          · obtain ⟨rfl, rfl⟩ := Prod.mk.inj (Option.some.inj h)
            rfl
          · cases h

/-- Text with no underscore behind its first character is not split. -/
theorem splitLast?_none {c : Char} : ∀ {word : List Char}, (∀ c ∈ word, c ≠ '_') →
    splitLast? (c :: word) = none
  | [], _ => by
      unfold splitLast?
      rw [splitLast?]
      split <;> simp_all
  | d :: rest, h => by
      have hd : d ≠ '_' := h d List.mem_cons_self
      unfold splitLast?
      rw [splitLast?_none fun c hc => h c (List.mem_cons_of_mem _ hc)]
      split <;> simp_all

/-- **A key is split in front of the word at its end**, whatever underscores stand
before. -/
theorem splitLast?_append {word : List Char} (h : ∀ c ∈ word, c ≠ '_') :
    ∀ name : List Char, splitLast? (name ++ '_' :: '_' :: word) = some (name, word)
  | [] => by
      rw [List.nil_append, splitLast?, splitLast?_none h]
  | c :: name => by
      rw [List.cons_append]
      unfold splitLast?
      rw [splitLast?_append h name]

/-- A key that is split stands around two underscores. -/
theorem splitKey?_some {key name word : String} (h : splitKey? key = some (name, word)) :
    key = name ++ "__" ++ word := by
  obtain ⟨⟨front, back⟩, hsplit, hparts⟩ := Option.map_eq_some_iff.1 h
  obtain ⟨rfl, rfl⟩ := Prod.mk.inj hparts
  rw [← String.toList_inj, splitLast?_some hsplit]
  simp

theorem splitKey?_worded {name word : String} {op : Operator} (hword : (word, op) ∈ Operator.words) :
    splitKey? (name ++ "__" ++ word) = some (name, word) := by
  have hkey : (name ++ "__" ++ word).toList = name.toList ++ '_' :: '_' :: word.toList := by
    simp
  unfold splitKey?
  rw [hkey, splitLast?_append (Operator.no_underscore hword)]
  simp

/-- **A key is resolved to what it names**, and to nothing else. -/
theorem resolveKey_iff {key name : String} {op : Operator} :
    resolveKey key = (name, op) ↔ KeyNames key name op := by
  -- However a key is read, it is resolved so; and it is read in one of the two ways.
  have hresolved : ∀ {name op}, KeyNames key name op → resolveKey key = (name, op) := by
    intro name op h
    unfold resolveKey
    cases h with
    | worded hword h =>
        rw [h, splitKey?_worded hword]
        dsimp only
        rw [Operator.mem_words_iff.1 hword]
    | plain h =>
        cases hsplit : splitKey? key with
        | none => rfl
        | some parts =>
            dsimp only
            cases hop : Operator.ofSuffix? parts.2 with
            | none => rfl
            | some op =>
                exact absurd (splitKey?_some hsplit) (h _ (Operator.mem_words_iff.2 hop) parts.1)
  refine ⟨fun h => ?_, hresolved⟩
  by_cases hworded : ∃ entry ∈ Operator.words, ∃ name, key = name ++ "__" ++ entry.1
  · obtain ⟨entry, hentry, front, hkey⟩ := hworded
    have hnames : KeyNames key front entry.2 := .worded hentry hkey
    obtain ⟨rfl, rfl⟩ := Prod.mk.inj ((hresolved hnames).symm.trans h)
    exact hnames
  · have hnames : KeyNames key key .eq :=
      .plain fun entry hentry front hkey => hworded ⟨entry, hentry, front, hkey⟩
    obtain ⟨rfl, rfl⟩ := Prod.mk.inj ((hresolved hnames).symm.trans h)
    exact hnames

/-- **The two ways to split a key agree** on the name of the field. -/
theorem fieldNameOf_eq (key : String) : fieldNameOf key = (resolveKey key).1 := by
  unfold fieldNameOf resolveKey
  cases splitKey? key with
  | none => rfl
  | some parts =>
      obtain ⟨name, suffix⟩ := parts
      cases hop : Operator.ofSuffix? suffix <;> simp [hop, Option.filter_some]

/-! ## §2. One filter. -/

namespace Condition

/-- **What an operator asks for** on a field.  Equality with NULL, or its opposite, is a
null test; a null test is turned round by an operand that counts as false; `is` asks for
something of NULL alone.  Every other operator compares the field with the operand. -/
inductive Asks (field : Attribute) (operand : Operand) : Operator → Condition → Prop
  | equal (h : operand.isNull = false) : Asks field operand .eq (.leaf field .eq operand false)
  | equalNull (h : operand.isNull = true) :
      Asks field operand .eq (.leaf field .isNull operand false)
  | unequal (h : operand.isNull = false) : Asks field operand .ne (.leaf field .ne operand false)
  | unequalNull (h : operand.isNull = true) :
      Asks field operand .ne (.leaf field .isNotNull operand false)
  | is (h : operand.isNull = true) : Asks field operand .is (.leaf field .isNull operand false)
  | isNull (h : operand.isTruthy = true) :
      Asks field operand .isNull (.leaf field .isNull (.value .null) false)
  | notIsNull (h : operand.isTruthy = false) :
      Asks field operand .isNull (.leaf field .isNotNull (.value .null) false)
  | isNotNull (h : operand.isTruthy = true) :
      Asks field operand .isNotNull (.leaf field .isNotNull (.value .null) false)
  | notIsNotNull (h : operand.isTruthy = false) :
      Asks field operand .isNotNull (.leaf field .isNull (.value .null) false)
  | other {op : Operator} (h : op ∉ [Operator.eq, .ne, .is, .isNull, .isNotNull]) :
      Asks field operand op (.leaf field op operand false)

/-- **A filter makes the condition that its operator asks for.** -/
theorem ofKeyword_iff {key : String} {field : Attribute} {op : Operator} {operand : Operand}
    {c : Condition} : ofKeyword key field op operand = .ok c ↔ Asks field operand op c := by
  constructor
  · intro h
    cases op with
    | eq =>
        cases hnull : operand.isNull <;>
          simp only [ofKeyword, compare, effective, hnull] at h <;> cases h
        · exact .equal hnull
        · exact .equalNull hnull
    | ne =>
        cases hnull : operand.isNull <;>
          simp only [ofKeyword, compare, effective, hnull] at h <;> cases h
        · exact .unequal hnull
        · exact .unequalNull hnull
    | is =>
        cases hnull : operand.isNull <;> rw [ofKeyword, hnull] at h <;> cases h
        exact .is hnull
    | isNull =>
        cases htruthy : operand.isTruthy <;> simp only [ofKeyword, nullTest, htruthy] at h <;> cases h
        · exact .notIsNull htruthy
        · exact .isNull htruthy
    | isNotNull =>
        cases htruthy : operand.isTruthy <;> simp only [ofKeyword, nullTest, htruthy] at h <;> cases h
        · exact .notIsNotNull htruthy
        · exact .isNotNull htruthy
    | _ =>
        cases h
        exact .other (by decide)
  · intro h
    cases h with
    | equal h | equalNull h | unequal h | unequalNull h | is h =>
        simp [ofKeyword, compare, effective, h]
    | isNull h | notIsNull h | isNotNull h | notIsNotNull h =>
        simp [ofKeyword, compare, effective, nullTest, h]
    | other h => cases op <;> first | rfl | exact absurd h (by decide)

end Condition

/-! ## §3. Where a field is found. -/

namespace Select

/-- **Where a select finds a field**: in the active model, or in the first joined model that
has it when the active one does not. -/
inductive Finds (q : Select) (name : String) : Model → Field → Prop
  | active {f : Field} (h : q.active.field? name = some f) : Finds q name q.active f
  | joined {before after : List (Model × List Join)} {m : Model} {joins : List Join} {f : Field}
      (missing : q.active.field? name = none) (order : q.joined = before ++ (m, joins) :: after)
      (earlier : ∀ entry ∈ before, entry.1.field? name = none) (h : m.field? name = some f) :
      Finds q name m f

/-- The models that a field is looked up on, in their order. -/
def scopes (q : Select) : List Model :=
  q.active :: q.joined.map (·.1)

/-- **A field is found in one of the models, or none of them has it.** -/
theorem finds_or_none (q : Select) (name : String) :
    (∃ m f, q.Finds name m f) ∨ ∀ m ∈ q.scopes, m.field? name = none := by
  cases hactive : q.active.field? name with
  | some f => exact .inl ⟨q.active, f, .active hactive⟩
  | none =>
      cases hjoined : q.joined.find? fun entry => (entry.1.field? name).isSome with
      | none =>
          refine .inr (List.forall_mem_cons.2 ⟨hactive, ?_⟩)
          rw [List.forall_mem_map]
          exact fun entry hentry => by simpa using List.find?_eq_none.1 hjoined entry hentry
      | some entry =>
          obtain ⟨hsome, before, after, horder, hbefore⟩ :=
            List.find?_eq_some_iff_append.1 hjoined
          obtain ⟨f, hf⟩ := Option.isSome_iff_exists.1 hsome
          exact .inl ⟨entry.1, f, .joined hactive horder
            (fun entry' hentry' => by simpa using hbefore entry' hentry') hf⟩

/-- The scope of a filter is the active model, or the first joined one that has its field. -/
theorem scopeOf_def (q : Select) (key : String) :
    q.scopeOf key = if (q.active.field? (fieldNameOf key)).isSome then q.active
      else ((q.joined.find? fun entry => (entry.1.field? (fieldNameOf key)).isSome).map
        (·.1)).getD q.active :=
  rfl

namespace Finds

variable {q : Select} {name : String} {m : Model} {f : Field}

theorem field?_eq : q.Finds name m f → m.field? name = some f
  | .active h => h
  | .joined _ _ _ h => h

/-- **A filter is looked up where its field is found.** -/
theorem scopeOf_eq {key : String} (h : q.Finds (fieldNameOf key) m f) : q.scopeOf key = m := by
  rw [scopeOf_def]
  cases h with
  | active h => exact if_pos (Option.isSome_iff_exists.2 ⟨f, h⟩)
  | @joined before after _ joins _ missing order earlier h =>
      have hfind : (q.joined.find? fun entry => (entry.1.field? (fieldNameOf key)).isSome)
          = some (m, joins) := by
        refine List.find?_eq_some_iff_append.2 ⟨Option.isSome_of_eq_some h, before, after, order, ?_⟩
        exact fun entry hentry => by simp [earlier entry hentry]
      rw [missing, hfind]
      rfl

end Finds

/-- A filter whose field no model has is looked up on one of them all the same. -/
theorem scopeOf_mem (q : Select) (key : String) : q.scopeOf key ∈ q.scopes := by
  rw [scopeOf_def]
  split
  · exact List.mem_cons_self
  · cases hfind : q.joined.find? fun entry => (entry.1.field? (fieldNameOf key)).isSome with
    | none => exact List.mem_cons_self
    | some entry =>
        exact List.mem_cons_of_mem _ (List.mem_map_of_mem (List.mem_of_find?_eq_some hfind))

/-- The scope of a filter has its field exactly when the select finds it somewhere. -/
theorem scopeOf_field?_iff {q : Select} {key : String} {f : Field} :
    (q.scopeOf key).field? (fieldNameOf key) = some f ↔ ∃ m, q.Finds (fieldNameOf key) m f := by
  constructor
  · intro h
    rcases q.finds_or_none (fieldNameOf key) with ⟨m, g, hfinds⟩ | hnone
    · rw [hfinds.scopeOf_eq, hfinds.field?_eq] at h
      exact ⟨m, Option.some.inj h ▸ hfinds⟩
    · rw [hnone _ (q.scopeOf_mem key)] at h
      cases h
  · rintro ⟨m, h⟩
    rw [h.scopeOf_eq, h.field?_eq]

end Select

/-! ## §4. Lists of filters. -/

namespace Condition

/-- **What filters ask for**, where fields are found as given: in their order, what each
operator asks for on its field.  A filter whose field is not found is passed over. -/
inductive AskedFor (finds : String → Field → Prop) :
    List (String × Operand) → List Condition → Prop
  | nil : AskedFor finds [] []
  | passed {key name : String} {op : Operator} {operand : Operand}
      {filters : List (String × Operand)} {cs : List Condition} (hkey : KeyNames key name op)
      (hnone : ∀ f, ¬ finds name f) (rest : AskedFor finds filters cs) :
      AskedFor finds ((key, operand) :: filters) cs
  | asked {key name : String} {op : Operator} {operand : Operand} {f : Field} {c : Condition}
      {filters : List (String × Operand)} {cs : List Condition} (hkey : KeyNames key name op)
      (hfinds : finds name f) (hasks : Asks f.toAttribute operand op c)
      (rest : AskedFor finds filters cs) : AskedFor finds ((key, operand) :: filters) (c :: cs)

/-- The first of several filters asks for what it asks for alone. -/
theorem askedFor_cons_iff {finds : String → Field → Prop} {filter : String × Operand}
    {filters : List (String × Operand)} {cs : List Condition} :
    AskedFor finds (filter :: filters) cs
      ↔ ∃ first others, AskedFor finds [filter] first ∧ AskedFor finds filters others
        ∧ cs = first ++ others := by
  constructor
  · intro h
    cases h with
    | passed hkey hnone rest => exact ⟨[], cs, .passed hkey hnone .nil, rest, rfl⟩
    | asked hkey hfinds hasks rest => exact ⟨[_], _, .asked hkey hfinds hasks .nil, rest, rfl⟩
  · rintro ⟨first, others, hfirst, hothers, rfl⟩
    cases hfirst with
    | passed hkey hnone rest =>
        cases rest
        exact .passed hkey hnone hothers
    | asked hkey hfinds hasks rest =>
        cases rest
        exact .asked hkey hfinds hasks hothers

/-- **The filters of a model** make the conditions that they ask for. -/
theorem ofFilters_iff {m : Model} : ∀ {filters : List (String × Operand)} {cs : List Condition},
    ofFilters m filters = .ok cs ↔ AskedFor (m.field? · = some ·) filters cs
  | [], cs => by
      refine ⟨fun h => ?_, fun h => ?_⟩
      · cases h
        exact .nil
      · cases h
        rfl
  | (key, operand) :: rest, cs => by
      constructor
      · intro h
        have hkey : KeyNames key (resolveKey key).1 (resolveKey key).2 := resolveKey_iff.1 rfl
        rw [ofFilters] at h
        dsimp only at h
        cases hfield : m.field? (resolveKey key).1 with
        | none =>
            rw [hfield] at h
            exact .passed hkey (by simp [hfield]) (ofFilters_iff.1 h)
        | some f =>
            rw [hfield] at h
            obtain ⟨c, hc, h⟩ := bind_ok.1 h
            obtain ⟨others, hothers, h⟩ := bind_ok.1 h
            obtain rfl := pure_ok.1 h
            exact .asked hkey hfield (ofKeyword_iff.1 hc) (ofFilters_iff.1 hothers)
      · intro h
        rw [ofFilters]
        cases h with
        | passed hkey hnone hrest =>
            rw [resolveKey_iff.2 hkey]
            dsimp only
            rw [Option.eq_none_iff_forall_ne_some.2 hnone]
            exact ofFilters_iff.2 hrest
        | asked hkey hfield hasks hrest =>
            rw [resolveKey_iff.2 hkey]
            dsimp only
            rw [hfield]
            exact bind_ok.2 ⟨_, ofKeyword_iff.2 hasks, bind_ok.2 ⟨_, ofFilters_iff.2 hrest, rfl⟩⟩

/-- What one filter asks for depends on where the field of its key is found. -/
theorem AskedFor.one_congr {finds finds' : String → Field → Prop} {key : String} {operand : Operand}
    {cs : List Condition} (hfinds : ∀ f, finds (fieldNameOf key) f ↔ finds' (fieldNameOf key) f)
    (h : AskedFor finds [(key, operand)] cs) : AskedFor finds' [(key, operand)] cs := by
  rw [fieldNameOf_eq] at hfinds
  cases h with
  | passed hkey hnone hrest =>
      rw [resolveKey_iff.2 hkey] at hfinds
      cases hrest
      exact .passed hkey (fun f hf => hnone f ((hfinds f).2 hf)) .nil
  | asked hkey hf hasks hrest =>
      rw [resolveKey_iff.2 hkey] at hfinds
      cases hrest
      exact .asked hkey ((hfinds _).1 hf) hasks .nil

end Condition

/-- **The filters of a select** make the conditions that they ask for, each on the field
that the select finds. -/
theorem Select.filterConditions_iff {q : Select} : ∀ {filters : List (String × Operand)}
    {cs : List Condition}, q.filterConditions filters = .ok cs
      ↔ Condition.AskedFor (fun name f => ∃ m, q.Finds name m f) filters cs
  | [], cs => by
      refine ⟨fun h => ?_, fun h => ?_⟩
      · cases h
        exact .nil
      · cases h
        rfl
  | (key, operand) :: rest, cs => by
      -- A filter is looked up on one model, which has the field when any has it.
      have hone : ∀ first, Condition.ofFilters (q.scopeOf key) [(key, operand)] = .ok first
          ↔ Condition.AskedFor (fun name f => ∃ m, q.Finds name m f) [(key, operand)] first := by
        intro first
        rw [Condition.ofFilters_iff]
        exact ⟨.one_congr fun _ => scopeOf_field?_iff, .one_congr fun _ => scopeOf_field?_iff.symm⟩
      rw [Condition.askedFor_cons_iff, filterConditions, bind_ok]
      constructor
      · rintro ⟨first, hfirst, h⟩
        obtain ⟨others, hothers, h⟩ := bind_ok.1 h
        exact ⟨first, others, (hone first).1 hfirst, filterConditions_iff.1 hothers,
          (pure_ok.1 h).symm⟩
      · rintro ⟨first, others, hfirst, hothers, rfl⟩
        exact ⟨first, (hone first).2 hfirst,
          bind_ok.2 ⟨others, filterConditions_iff.2 hothers, rfl⟩⟩

end RecordMapper
