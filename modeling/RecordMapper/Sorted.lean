/-
  RecordMapper.Sorted
  ────────────────────────────────
  **SORTING.**

  Columns of an insert are sorted by field name, fields by the order of their
  declaration.  Elements that compare equal stay in their order.
-/
namespace RecordMapper

variable {α : Type}

/-- Put an element in front of the first one that it may precede. -/
def insertSorted (le : α → α → Bool) (x : α) : List α → List α
  | [] => [x]
  | y :: rest => if le x y then x :: y :: rest else y :: insertSorted le x rest

/-- **The sorted list**, stable. -/
def sorted (le : α → α → Bool) (l : List α) : List α :=
  l.foldr (insertSorted le) []

/-- Pairs sorted by their keys, in the order of code points. -/
def sortedByKey (l : List (String × α)) : List (String × α) :=
  sorted (fun a b => decide (a.1 ≤ b.1)) l

/-- Each of the texts once, in the order of code points. -/
def sortedSet (l : List String) : List String :=
  l.foldr (fun x set => if set.contains x then set else insertSorted (fun a b => decide (a ≤ b)) x set) []

/-- Inserting adds the element and changes nothing else. -/
theorem insertSorted_perm (le : α → α → Bool) (x : α) (l : List α) :
    (insertSorted le x l).Perm (x :: l) := by
  induction l with
  | nil => simp [insertSorted]
  | cons y rest ih =>
    unfold insertSorted
    split
    · exact List.Perm.refl _
    · exact (ih.cons y).trans (List.Perm.swap x y rest)

/-- Sorting rearranges. -/
theorem sorted_perm (le : α → α → Bool) (l : List α) : (sorted le l).Perm l := by
  induction l with
  | nil => simp [sorted]
  | cons x rest ih => exact (insertSorted_perm le x _).trans (ih.cons x)

end RecordMapper
