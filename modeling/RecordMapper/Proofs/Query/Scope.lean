/-
  RecordMapper.Proofs.Query.Scope
  ────────────────────────────────
  **THE MODEL THAT A KEYWORD FILTER IS LOOKED UP ON.**

  A keyword filter names a field and perhaps an operator, but no model.  Its field is looked
  up on the active model, and on the joined models in the order in which they were joined
  when the active one does not have it; a filter whose field none of them has is passed
  over.  The root model is looked at while it is the active one, or where it was joined back.

  Main result: `filter_dropped_iff`.
-/
import RecordMapper.Proofs.Condition.Keywords
import RecordMapper.Proofs.Query.Selected
import RecordMapper.Proofs.Record.Sought
import RecordMapper.Proofs.Statement.Rejoined

namespace RecordMapper

/-- **What a keyword filter asks for on a field**: a comparison of the field, unless `is` is
given a value. -/
theorem Condition.ofKeyword_cases (key : String) (field : Attribute) (op : Operator)
    (operand : Operand) :
    (∃ asked value, ofKeyword key field op operand = .ok (.leaf field asked value false))
      ∨ (op = .is ∧ operand.isNull = false
        ∧ ofKeyword key field op operand = .error (.filterNeedsNull key)) := by
  cases op with
  | is =>
      cases hnull : operand.isNull with
      | true => exact .inl ⟨_, _, by rw [ofKeyword, hnull]; rfl⟩
      | false => exact .inr ⟨rfl, rfl, by rw [ofKeyword, hnull]; rfl⟩
  | _ => exact .inl ⟨_, _, rfl⟩

namespace Select

/-- **One filter** adds the condition that it asks for on the field of its scope, if there
is one. -/
theorem filterBy_one (q : Select) (key : String) (operand : Operand) :
    q.filterBy [(key, operand)] = match (q.scopeOf key).field? (resolveKey key).1 with
      | none => .ok q
      | some f => (Condition.ofKeyword key f.toAttribute (resolveKey key).2 operand).map fun c =>
          { q with filter := q.filter ++ [c] } := by
  simp only [filterBy, filterConditions, Condition.ofFilters]
  cases (q.scopeOf key).field? (resolveKey key).1 with
  | none =>
      show Except.ok { q with filter := q.filter ++ ([] ++ []) } = Except.ok q
      rw [List.append_nil, List.append_nil]
      cases q
      rfl
  | some f =>
      dsimp only
      cases Condition.ofKeyword key f.toAttribute (resolveKey key).2 operand with
      | error failure => rfl
      | ok c => rfl

/-- **The active model takes part** in a select that was built. -/
theorem Built.active_mem {q : Select} {passed : List Condition} (h : q.Built passed) :
    q.active.name ∈ q.tables := by
  induction h with
  | start model => exact List.mem_cons_self
  | bare model => exact List.mem_cons_self
  | call catalog c _ h _ ih =>
      cases c with
      | join model type on wanted =>
          obtain ⟨lhs, rhs, -, rfl⟩ := join_ok h
          exact mem_tables_withJoin.2 (.inr ih)
      | activate model =>
          obtain ⟨hknown, rfl⟩ := activate_ok h
          exact Tables.mem_of_known hknown
      | filterBy filters =>
          obtain ⟨conditions, -, h⟩ := bind_ok.1 h
          obtain rfl := pure_ok.1 h
          exact ih
      | _ =>
          obtain rfl := Except.ok.inj h
          exact ih

/-- **A filter is answered on a field**: it adds one condition, which compares that field, or
fails because `is` was given a value.  The key is split the same way to find the field and to
build the condition. -/
def Answers (q : Select) (key : String) (operand : Operand) (f : Field) : Prop :=
  ∃ op, resolveKey key = (fieldNameOf key, op)
    ∧ ((∃ asked value, Condition.ofKeyword key f.toAttribute op operand
          = .ok (.leaf f.toAttribute asked value false)
        ∧ q.filterBy [(key, operand)]
          = .ok { q with filter := q.filter ++ [.leaf f.toAttribute asked value false] })
      ∨ (op = .is ∧ operand.isNull = false
        ∧ q.filterBy [(key, operand)] = .error (.filterNeedsNull key)))

section

variable {q : Select} {key : String} {operand : Operand} {m : Model} {f : Field}

/-- **A filter is answered where its field is found.** -/
theorem Finds.answers (h : q.Finds (fieldNameOf key) m f) : q.Answers key operand f := by
  refine ⟨(resolveKey key).2, Prod.ext (fieldNameOf_eq key).symm rfl, ?_⟩
  have hone := q.filterBy_one key operand
  rw [h.scopeOf_eq, ← fieldNameOf_eq, h.field?_eq] at hone
  dsimp only at hone
  obtain ⟨asked, value, hasked⟩ | ⟨his, hvalue, hasked⟩ :=
    Condition.ofKeyword_cases key f.toAttribute (resolveKey key).2 operand
  · exact .inl ⟨asked, value, hasked, hone.trans (by rw [hasked]; rfl)⟩
  · exact .inr ⟨his, hvalue, hone.trans (by rw [hasked]; rfl)⟩

/-- A filter that is answered is not passed over: a condition makes the filter longer. -/
theorem Answers.not_dropped (h : q.Answers key operand f) : q.filterBy [(key, operand)] ≠ .ok q := by
  intro hsame
  obtain ⟨op, -, ⟨asked, value, -, hadded⟩ | ⟨-, -, hfailed⟩⟩ := h
  · have hlength := congrArg (·.filter.length) (Except.ok.inj (hadded.symm.trans hsame))
    simp at hlength
  · rw [hfailed] at hsame
    cases hsame

end

/-- **A keyword filter is passed over exactly when neither the active model nor a joined one
has its field.**  The active model is the root model or was joined.  Where the field is found,
in the active model or else in the first joined model that has it, the filter is answered on
that field. -/
theorem filter_dropped_iff {q : Select} {passed : List Condition} (hq : q.Built passed)
    (key : String) (operand : Operand) :
    q.active.name ∈ q.tables
      ∧ (∀ m f, q.Finds (fieldNameOf key) m f → q.Answers key operand f)
      ∧ (q.filterBy [(key, operand)] = .ok q
        ↔ ∀ m ∈ q.scopes, m.field? (fieldNameOf key) = none) := by
  refine ⟨hq.active_mem, fun m f h => h.answers, fun hsame => ?_, fun hnone => ?_⟩
  · refine (q.finds_or_none (fieldNameOf key)).resolve_left ?_
    rintro ⟨m, f, hfinds⟩
    exact hfinds.answers.not_dropped hsame
  · rw [filterBy_one, ← fieldNameOf_eq, hnone _ (q.scopeOf_mem key)]

/-! ### Books that are joined to their authors. -/

open Sample in
/-- Books joined to their authors, filtered on the authors. -/
def throughAuthors : Select :=
  { new book with
    active := author
    joined := [(author, [⟨.inner, bookAuthor.toAttribute, authorId.toAttribute⟩])]
    aliases := [("Book", "t1"), ("Author", "t2")] }

open Sample in
theorem throughAuthors_built : throughAuthors.Built [] :=
  .call .empty (.activate author)
    (.call .empty (.join author .inner (some "author_id") none) (.bare book) rfl rfl) rfl rfl

open Sample in
/-- The name of the author is found behind the books, and its condition is added. -/
theorem author_name_filtered : throughAuthors.filterBy [("name__ne", .value (text "Ann"))]
    = .ok { throughAuthors with
        filter := [.leaf authorName.toAttribute .ne (.value (text "Ann")) false] } := by
  obtain ⟨-, hanswers, -⟩ :=
    filter_dropped_iff throughAuthors_built "name__ne" (.value (text "Ann"))
  have hsplit : resolveKey "name__ne" = ("name", .ne) := by decide +kernel
  obtain ⟨op, hkey, hadds⟩ := hanswers author authorName (.active (by decide +kernel))
  obtain rfl : Operator.ne = op := congrArg Prod.snd (hsplit.symm.trans hkey)
  obtain ⟨asked, value, hasked, hadded⟩ | ⟨his, -, -⟩ := hadds
  · rw [hadded, ← Except.ok.inj hasked]
    rfl
  · cases his

open Sample in
/-- **Not every filter that a model of the select could answer is kept**: the title of the
books, which are the root, is not looked for behind their authors. -/
theorem not_every_known_filter_kept :
    ¬ ∀ (q : Select) (passed : List Condition), q.Built passed → ∀ (key : String)
        (operand : Operand), q.filterBy [(key, operand)] = .ok q →
        ∀ m ∈ q.models, m.field? (resolveKey key).1 = none := by
  intro hkept
  have hnone := hkept throughAuthors [] throughAuthors_built "title" (.value (text "Seas"))
    (by rw [filterBy_one]; rfl) book List.mem_cons_self
  exact absurd hnone (by decide +kernel)

end Select

end RecordMapper
