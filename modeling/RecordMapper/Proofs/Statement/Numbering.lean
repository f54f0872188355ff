/-
  RecordMapper.Proofs.Statement.Numbering
  ────────────────────────────────
  **NUMBERING THE PLACEHOLDERS OF A STATEMENT.**

  In a draft of a statement a placeholder stands for the very value that is to be
  bound there, not yet for the number of a parameter.  Numbering goes through the
  draft from left to right and gives every placeholder the next number.  The laws
  here say that numbering passes through each construct of a statement, and that
  no construct loses, repeats or reorders a placeholder.
-/
import Mathlib.Algebra.Ring.Nat
import RecordMapper.Query.Change

namespace RecordMapper

/-! ## §1. Numbering a list. -/

section NumberFrom

variable {α β : Type} (width : α → Nat) (number : Nat → α → β)

/-- **A list numbered from `k` on**: each member is given as many numbers as it is
wide, behind those of the members before it. -/
def numberFrom : Nat → List α → List β
  | _, [] => []
  | k, x :: rest => number k x :: numberFrom (k + width x) rest

theorem numberFrom_append (a b : List α) :
    ∀ k, numberFrom width number k (a ++ b)
      = numberFrom width number k a ++ numberFrom width number (k + (a.map width).sum) b := by
  induction a with
  | nil => intro k; simp [numberFrom]
  | cons x a ih =>
      intro k
      show number k x :: numberFrom width number (k + width x) (a ++ b) = _
      rw [ih]
      simp [numberFrom, Nat.add_assoc]

/-- Numbering lists one after the other numbers them as one list. -/
theorem numberFrom_flatten (lists : List (List α)) :
    ∀ k, (numberFrom (fun l => (l.map width).sum) (numberFrom width number) k lists).flatten
      = numberFrom width number k lists.flatten := by
  induction lists with
  | nil => intro k; rfl
  | cons l rest ih =>
      intro k
      rw [List.flatten_cons, numberFrom_append, ← ih]
      rfl

/-- **Separators take no number**: a list is numbered the same before and after it
is separated. -/
theorem numberFrom_separated (blank : α → Bool) (blank' : β → Bool) (sep : α) (sep' : β)
    (hblank : ∀ k x, blank' (number k x) = blank x)
    (hwidth : width sep = 0) (hsep : ∀ k, number k sep = sep') (l : List α) :
    ∀ k, Text.separated blank' sep' (numberFrom width number k l)
      = numberFrom width number k (Text.separated blank sep l) := by
  induction l with
  | nil => intro k; rfl
  | cons x l ih =>
      intro k
      cases l with
      | nil => rfl
      | cons y rest =>
          -- The separator between the two is zero wide, so the rest keeps its numbers.
          have hrest := ih (k + width x)
          simp only [numberFrom] at hrest ⊢
          unfold Text.separated
          rw [hblank, hrest]
          cases hx : blank x with
          | true => simp [numberFrom]
          | false => simp [numberFrom, hwidth, hsep]

end NumberFrom

/-- What separated pieces hold is what the pieces hold, when the separator holds
nothing. -/
theorem flatMap_separated {α γ : Type} (g : α → List γ) (blank : α → Bool) (sep : α)
    (hsep : g sep = []) :
    ∀ l : List α, (Text.separated blank sep l).flatMap g = l.flatMap g
  | [] => rfl
  | [_] => rfl
  | x :: y :: rest => by
      have ih := flatMap_separated g blank sep hsep (y :: rest)
      unfold Text.separated
      split
      · rw [List.flatMap_cons, ih]
        rfl
      · rw [List.flatMap_cons, List.flatMap_cons, ih, hsep, List.nil_append]
        rfl

/-! ## §2. Placeholders of each construct. -/

namespace Sql

variable {ι : Type}

theorem slots_cons (t : Token ι) (a : Sql ι) : slots (t :: a) = t.slot?.toList ++ slots a := by
  cases t <;> rfl

theorem slots_flatten (pieces : List (Sql ι)) : slots pieces.flatten = pieces.flatMap slots := by
  induction pieces with
  | nil => rfl
  | cons a pieces ih => rw [List.flatten_cons, slots_append, ih, List.flatMap_cons]

@[simp] theorem slots_joined (sep : String) (pieces : List (Sql ι)) :
    (joined sep pieces).slots = pieces.flatMap slots := by
  unfold joined
  rw [slots_flatten, flatMap_separated _ _ _ (slots_lit sep)]

@[simp] theorem slots_enclosed (a : Sql ι) : a.enclosed.slots = a.slots := by
  simp [enclosed]

/-- A piece that writes nothing has no placeholder. -/
theorem slots_eq_nil_of_isBlank : ∀ {a : Sql ι}, a.isBlank = true → a.slots = []
  | [], _ => rfl
  | .text _ :: a, h => by
      have ha : isBlank a = true := by
        unfold isBlank at h ⊢
        rw [List.all_cons, Bool.and_eq_true] at h
        exact h.2
      rw [slots_cons, slots_eq_nil_of_isBlank ha]
      rfl
  | .slot _ _ :: a, h => by
      simp [isBlank, Token.isBlank] at h

@[simp] theorem slots_clause (keyword : String) (a : Sql ι) : (clause keyword a).slots = a.slots := by
  unfold clause
  split
  · rename_i h
    rw [slots_eq_nil_of_isBlank h]
    rfl
  · simp

end Sql

namespace Dialect

variable {ι : Type}

@[simp] theorem slots_infixed (column : Sql ι) (symbol : String) (value : Sql ι) :
    (infixed column symbol value).slots = column.slots ++ value.slots := by
  simp [infixed]

@[simp] theorem slots_lowered (a : Sql ι) : (lowered a).slots = a.slots := by
  simp [lowered]

end Dialect

/-- **An operator writes so many values**: any number in a list, two bounds, none
for a null test, and one otherwise. -/
def Operator.takes (op : Operator) (count : Nat) : Bool :=
  match op with
  | .isIn | .notIn => true
  | .between => count ≤ 2
  | .isNull | .isNotNull | .is => count = 0
  | _ => count ≤ 1

namespace Dialect

variable {ι : Type}

/-- At most one value is the first one. -/
theorem slots_headD (values : List (Sql ι)) (h : values.length ≤ 1) :
    (values.headD []).slots = values.flatMap Sql.slots := by
  match values, h with
  | [], _ => rfl
  | [a], _ => simp
  | _ :: _ :: _, h => simp at h

/-- At most two values are the first and the second. -/
theorem slots_two (values : List (Sql ι)) (h : values.length ≤ 2) :
    (values.headD []).slots ++ (values.getD 1 []).slots = values.flatMap Sql.slots := by
  match values, h with
  | [], _ => rfl
  | [a], _ => simp
  | [a, b], _ => simp
  | _ :: _ :: _ :: _, h => simp at h

/-- **A condition has the placeholders of its values**, each once and in order,
when its operator writes so many values. -/
theorem slots_operation (d : Dialect) (op : Operator) (column : String) (values : List (Sql ι))
    (h : op.takes values.length = true) :
    (d.operation op (Sql.lit column) values).slots = values.flatMap Sql.slots := by
  by_cases hcase : (op.ignoresCase && d.caseStyle == .matched) = true
  -- No operator that ignores case takes a second value.
  · have hone : values.length ≤ 1 := by
      cases op <;> simp_all [Operator.ignoresCase, Operator.takes]
    simp only [operation, hcase, if_true]
    simpa using slots_headD values hone
  · simp only [operation, hcase]
    cases op with
    | isIn | notIn => simp
    | between => simpa [Operator.takes] using slots_two values (by simpa [Operator.takes] using h)
    | isNull | isNotNull | is =>
        have hnone : values = [] :=
          List.eq_nil_of_length_eq_zero (by simpa [Operator.takes] using h)
        subst hnone
        simp
    | _ => simpa using slots_headD values (by simpa [Operator.takes] using h)

@[simp] theorem slots_joinClause (place : Place) (type : JoinType) (table qualifier : String)
    (on : Sql ι) : (joinClause place type table qualifier on).slots = on.slots := by
  simp [joinClause]

end Dialect

@[simp] theorem Window.slots_write {ι : Type} (query : Sql ι) (w : Window) :
    (w.write query).slots = query.slots := by
  cases w with
  | limitOffset n m => cases n <;> simp [Window.write]
  | _ => simp [Window.write]

@[simp] theorem Paging.slots_apply {ι : Type} (paging : Paging) (query : Sql ι)
    (limit offset : Option Nat) : (paging.apply query limit offset).slots = query.slots := by
  cases limit <;> cases offset <;> simp [Paging.apply]

/-! ## §3. Drafts and their numbering. -/

/-- **What a placeholder of a draft stands for**: a value for a field in a clause,
and the operator when the clause is a condition. -/
structure Bound where
  clause : Clause
  field : Attribute
  op : Option Operator
  value : Value

/-- The value that a condition binds for one value: a search pattern when it is a
text and the operator searches. -/
def Dialect.castValue (d : Dialect) (op : Operator) : Value → Value
  | .varchar (some text) => .varchar (some (d.searchPattern op text))
  | v => v

namespace Bound

/-- The placeholder in the draft. -/
def token (d : Dialect) (b : Bound) : Token Bound :=
  .slot b (d.placeholder b.clause 0)

/-- **The parameter that is bound**: the storage form of the value, cast once when
it belongs to a condition. -/
def parameter (d : Dialect) (b : Bound) : Except Failure Value := do
  let stored ← b.field.toStorage b.value
  return match b.op with
    | none => stored
    | some op => d.castValue op stored

end Bound

/-- A token takes a number when it is a placeholder. -/
def Token.width {ι : Type} : Token ι → Nat
  | .text _ => 0
  | .slot _ _ => 1

/-- A token of a draft under the number `k`. -/
def Token.numbered (d : Dialect) (k : Nat) : Token Bound → Token Nat
  | .text s => .text s
  | .slot b _ => d.slot b.clause k

namespace Sql

variable {d : Dialect} {k : Nat}

/-- **A draft numbered from `k` on.** -/
def numbered (d : Dialect) (k : Nat) (a : Sql Bound) : Sql :=
  numberFrom Token.width (Token.numbered d) k a

/-- Pieces of a draft, numbered one after the other. -/
def numberedAll (d : Dialect) (k : Nat) (pieces : List (Sql Bound)) : List Sql :=
  numberFrom (·.slots.length) (numbered d) k pieces

theorem length_slots {ι : Type} (a : Sql ι) : a.slots.length = (a.map Token.width).sum := by
  induction a with
  | nil => rfl
  | cons t a ih =>
      rw [slots_cons, List.length_append, ih, List.map_cons, List.sum_cons]
      cases t <;> rfl

@[simp] theorem numbered_nil : numbered d k [] = [] := rfl

@[simp] theorem numbered_lit (s : String) : numbered d k (lit s) = lit s := rfl

@[simp] theorem numberedAll_nil : numberedAll d k [] = [] := rfl

@[simp] theorem numberedAll_cons (a : Sql Bound) (rest : List (Sql Bound)) :
    numberedAll d k (a :: rest) = numbered d k a :: numberedAll d (k + a.slots.length) rest := rfl

@[simp] theorem numbered_append (a b : Sql Bound) :
    numbered d k (a ++ b) = numbered d k a ++ numbered d (k + a.slots.length) b := by
  unfold numbered
  rw [numberFrom_append, ← length_slots]

/-- Numbering writes nothing where the draft writes nothing. -/
theorem isBlank_numbered (a : Sql Bound) : ∀ k, isBlank (numbered d k a) = isBlank a := by
  induction a with
  | nil => intro k; rfl
  | cons t a ih =>
      intro k
      show isBlank (t.numbered d k :: numbered d (k + t.width) a) = _
      have hrest := ih (k + t.width)
      unfold isBlank at hrest ⊢
      rw [List.all_cons, List.all_cons, hrest]
      cases t <;> rfl

@[simp] theorem numbered_joined (sep : String) (pieces : List (Sql Bound)) :
    numbered d k (joined sep pieces) = joined sep (numberedAll d k pieces) := by
  have hwidth : (fun a : Sql Bound => a.slots.length) = fun a => (a.map Token.width).sum :=
    funext length_slots
  unfold joined numberedAll
  rw [numberFrom_separated (·.slots.length) (numbered d) isBlank isBlank (lit sep) (lit sep)
    (fun k a => isBlank_numbered a k) rfl (fun _ => rfl), hwidth]
  exact (numberFrom_flatten Token.width (Token.numbered d) _ k).symm

@[simp] theorem numbered_enclosed (a : Sql Bound) :
    numbered d k a.enclosed = (numbered d k a).enclosed := by
  simp [enclosed]

@[simp] theorem numbered_clause (keyword : String) (a : Sql Bound) :
    numbered d k (clause keyword a) = clause keyword (numbered d k a) := by
  unfold clause
  rw [isBlank_numbered]
  split <;> simp

/-- Pieces without placeholders are numbered each as it is. -/
theorem numberedAll_map {α : Type} (f : α → Sql Bound) (g : α → Sql) (l : List α)
    (h : ∀ x ∈ l, (f x).slots = [] ∧ ∀ k, numbered d k (f x) = g x) :
    numberedAll d k (l.map f) = l.map g := by
  induction l with
  | nil => rfl
  | cons x l ih =>
      obtain ⟨hslots, hx⟩ := h x List.mem_cons_self
      rw [List.map_cons, numberedAll_cons, hslots, hx, List.length_nil, Nat.add_zero,
        ih fun y hy => h y (List.mem_cons_of_mem _ hy)]
      rfl

/-- Placeholders of single values are numbered in order. -/
theorem numberedAll_tokens (e : Dialect) (bounds : List Bound) (clause : Clause)
    (h : ∀ b ∈ bounds, b.clause = clause) :
    ∀ k, numberedAll d k (bounds.map fun b => [b.token e])
      = (List.range' k bounds.length).map fun i => [d.slot clause i] := by
  induction bounds with
  | nil => intro k; rfl
  | cons b bounds ih =>
      intro k
      have hb := h b List.mem_cons_self
      rw [List.map_cons, numberedAll_cons, List.length_cons, List.range'_succ, List.map_cons]
      congr 1
      · rw [← hb]
        rfl
      · exact ih (fun c hc => h c (List.mem_cons_of_mem _ hc)) (k + 1)

end Sql

namespace Dialect

variable {d e : Dialect} {k : Nat}

@[simp] theorem numbered_infixed (column : String) (symbol : String) (value : Sql Bound) :
    (infixed (Sql.lit column) symbol value).numbered d k
      = infixed (Sql.lit column) symbol (value.numbered d k) := by
  simp [infixed]

@[simp] theorem numbered_lowered (a : Sql Bound) :
    (lowered a).numbered d k = lowered (a.numbered d k) := by
  simp [lowered]

@[simp] theorem numbered_infixed_lowered (column : String) (symbol : String) (value : Sql Bound) :
    (infixed (lowered (Sql.lit column)) symbol value).numbered d k
      = infixed (lowered (Sql.lit column)) symbol (value.numbered d k) := by
  simp [infixed]

@[simp] theorem numbered_head (values : List (Sql Bound)) :
    (values.head?.getD []).numbered d k = (Sql.numberedAll d k values).head?.getD [] := by
  cases values <;> rfl

/-- **Numbering passes through an operator.** -/
theorem numbered_operation (op : Operator) (column : String) (values : List (Sql Bound)) :
    (e.operation op (Sql.lit column) values).numbered d k
      = e.operation op (Sql.lit column) (Sql.numberedAll d k values) := by
  by_cases hcase : (op.ignoresCase && e.caseStyle == .matched) = true
  · simp only [operation, hcase, if_true]
    simp
  · simp only [operation, hcase]
    cases op with
    | between =>
        cases values with
        | nil => simp [infixed]
        | cons a rest => cases rest <;> simp [infixed, Nat.add_assoc]
    | _ => simp

@[simp] theorem numbered_joinClause (place : Place) (type : JoinType) (table qualifier : String)
    (on : Sql Bound) :
    (joinClause place type table qualifier on).numbered d k
      = joinClause place type table qualifier (on.numbered d k) := by
  simp [joinClause]

end Dialect

@[simp] theorem Window.numbered_write {d : Dialect} {k : Nat} (query : Sql Bound) (w : Window) :
    (w.write query).numbered d k = w.write (query.numbered d k) := by
  cases w with
  | limitOffset n m => cases n <;> simp [Window.write]
  | _ => simp [Window.write]

@[simp] theorem Paging.numbered_apply {d : Dialect} {k : Nat} (paging : Paging)
    (query : Sql Bound) (limit offset : Option Nat) :
    (paging.apply query limit offset).numbered d k
      = paging.apply (query.numbered d k) limit offset := by
  cases limit <;> cases offset <;> simp [Paging.apply]

end RecordMapper
