/-
  RecordMapper.Proofs.Ordered
  ────────────────────────────────
  **WHAT SORTING LOOKS AT.**

  A sorted list is in order, and members that compare equal stay in the order in
  which they came.  Where none compare equal, the order in which they came is lost:
  a statement writes its columns in the order of their names, which depends on which
  names there are, not on the order in which they came nor on what is kept under
  them.  A set of names has each of them once, in order.
-/
import RecordMapper.Sorted

namespace RecordMapper

/-! ## §1. Sorted lists are in order. -/

section

variable {α : Type} {le : α → α → Bool}
  (total : ∀ a b, le a b = true ∨ le b a = true)
  (trans : ∀ a b c, le a b = true → le b c = true → le a c = true)

include total trans

/-- Inserting keeps a list in order. -/
theorem insertSorted_pairwise (x : α) :
    ∀ {l : List α}, l.Pairwise (le · ·) → (insertSorted le x l).Pairwise (le · ·)
  | [], _ => List.pairwise_singleton _ x
  | y :: rest, h => by
      obtain ⟨hy, hrest⟩ := List.pairwise_cons.1 h
      unfold insertSorted
      by_cases hxy : le x y = true
      · rw [if_pos hxy]
        refine List.pairwise_cons.2 ⟨?_, h⟩
        intro z hz
        rcases List.mem_cons.1 hz with rfl | hz
        · exact hxy
        · exact trans x y z hxy (hy z hz)
      · rw [if_neg hxy]
        refine List.pairwise_cons.2 ⟨?_, insertSorted_pairwise x hrest⟩
        intro z hz
        rcases List.mem_cons.1 ((insertSorted_perm le x rest).mem_iff.1 hz) with rfl | hz
        · exact (total z y).resolve_left hxy
        · exact hy z hz

/-- **A sorted list is in order.** -/
theorem sorted_pairwise : ∀ l : List α, (sorted le l).Pairwise (le · ·)
  | [] => List.Pairwise.nil
  | x :: l => insertSorted_pairwise total trans x (sorted_pairwise l)

end

/-! ## §2. Members that compare equal. -/

section

variable {α : Type} {le : α → α → Bool}

/-- An element is put in front of the members that it may precede. -/
theorem filter_insertSorted {p : α → Bool}
    (hp : ∀ a b, p a = true → p b = true → le a b = true) (x : α) :
    ∀ l : List α, (insertSorted le x l).filter p = (x :: l).filter p
  | [] => rfl
  | y :: rest => by
      unfold insertSorted
      by_cases hxy : le x y = true
      · rw [if_pos hxy]
      -- The two are not both kept, since the first may not precede the second.
      · rw [if_neg hxy, List.filter_cons, filter_insertSorted hp x rest]
        cases hx : p x with
        | false => simp [hx, List.filter_cons]
        | true =>
            have hy : p y = false := by
              cases hy : p y with
              | false => rfl
              | true => exact absurd (hp x y hx hy) hxy
            simp [hx, hy]

/-- **Sorting is stable**: members that compare equal stay in their order. -/
theorem filter_sorted {p : α → Bool} (hp : ∀ a b, p a = true → p b = true → le a b = true) :
    ∀ l : List α, (sorted le l).filter p = l.filter p
  | [] => rfl
  | x :: l => by
      show (insertSorted le x (sorted le l)).filter p = _
      rw [filter_insertSorted hp, List.filter_cons, List.filter_cons, filter_sorted hp l]

/-- **A list whose members are told apart** is sorted alike in whatever order it comes. -/
theorem sorted_eq_of_perm (total : ∀ a b, le a b = true ∨ le b a = true)
    (trans : ∀ a b c, le a b = true → le b c = true → le a c = true) {l l' : List α}
    (h : l.Perm l') (antisymm : ∀ a ∈ l, ∀ b ∈ l, le a b = true → le b a = true → a = b) :
    sorted le l = sorted le l' := by
  have hperm : (sorted le l).Perm (sorted le l') :=
    (sorted_perm le l).trans (h.trans (sorted_perm le l').symm)
  refine hperm.eq_of_pairwise ?_ (sorted_pairwise total trans l) (sorted_pairwise total trans l')
  intro a b ha hb
  exact antisymm a ((sorted_perm le l).mem_iff.1 ha) b
    (h.mem_iff.2 ((sorted_perm le l').mem_iff.1 hb))

end

/-! ## §3. Names in order. -/

variable {α β : Type}

/-- The names of a list sorted by name are in order. -/
theorem keys_sortedByKey_pairwise (l : List (String × α)) :
    ((sortedByKey l).map (·.1)).Pairwise (· ≤ ·) := by
  have hsorted : (sortedByKey l).Pairwise fun a b => decide (a.1 ≤ b.1) = true := sorted_pairwise
    (fun a b => by simpa using String.le_total a.1 b.1)
    (fun a b c hab hbc => by
      have hab' : a.1 ≤ b.1 := by simpa using hab
      have hbc' : b.1 ≤ c.1 := by simpa using hbc
      simpa using String.le_trans hab' hbc') l
  refine List.pairwise_map.2 (hsorted.imp ?_)
  intro a b hab
  simpa using hab

/-- **Two lists with the same names** have the same names in order. -/
theorem eq_of_names_perm {names names' : List String} (h : names.Pairwise (· ≤ ·))
    (h' : names'.Pairwise (· ≤ ·)) (hperm : names.Perm names') : names = names' :=
  hperm.eq_of_pairwise (fun _ _ _ _ => String.le_antisymm) h h'

/-- The sorted names of a list are a matter of its names alone. -/
theorem keys_sortedByKey_eq {l : List (String × α)} {l' : List (String × β)}
    (h : (l.map (·.1)).Perm (l'.map (·.1))) :
    (sortedByKey l).map (·.1) = (sortedByKey l').map (·.1) := by
  refine eq_of_names_perm (keys_sortedByKey_pairwise l) (keys_sortedByKey_pairwise l') ?_
  have hl : ((sortedByKey l).map (·.1)).Perm (l.map (·.1)) := (sorted_perm _ l).map _
  have hl' : ((sortedByKey l').map (·.1)).Perm (l'.map (·.1)) := (sorted_perm _ l').map _
  exact hl.trans (h.trans hl'.symm)

/-! ## §4. Sets of names. -/

/-- One more name is put into a set, unless it is there. -/
theorem sortedSet_cons (x : String) (l : List String) :
    sortedSet (x :: l) = if (sortedSet l).contains x then sortedSet l
      else insertSorted (fun a b => decide (a ≤ b)) x (sortedSet l) := rfl

/-- **A set has the names that it was made of.** -/
theorem mem_sortedSet {x : String} {l : List String} : x ∈ sortedSet l ↔ x ∈ l := by
  induction l with
  | nil => exact Iff.rfl
  | cons y l ih =>
      rw [sortedSet_cons]
      split
      · rename_i hy
        have hmem : y ∈ sortedSet l := List.contains_iff_mem.1 hy
        rw [List.mem_cons, ← ih]
        exact ⟨.inr, fun h => h.elim (fun h => h ▸ hmem) id⟩
      · rw [(insertSorted_perm _ y _).mem_iff, List.mem_cons, List.mem_cons, ih]

/-- A set has no name twice. -/
theorem sortedSet_nodup (l : List String) : (sortedSet l).Nodup := by
  induction l with
  | nil => exact List.nodup_nil
  | cons x l ih =>
      rw [sortedSet_cons]
      split
      · exact ih
      · rename_i hx
        rw [(insertSorted_perm _ x _).nodup_iff]
        exact List.nodup_cons.2 ⟨fun h => hx (List.contains_iff_mem.2 h), ih⟩

/-- **A set has each of its names once, in order.** -/
theorem sortedSet_pairwise (l : List String) : (sortedSet l).Pairwise (· < ·) := by
  have hle : (sortedSet l).Pairwise fun a b => decide (a ≤ b) = true := by
    induction l with
    | nil => exact List.Pairwise.nil
    | cons x l ih =>
        rw [sortedSet_cons]
        split
        · exact ih
        · refine insertSorted_pairwise (fun a b => ?_) (fun a b c hab hbc => ?_) x ih
          · simpa using String.le_total a b
          · exact decide_eq_true (String.le_trans (of_decide_eq_true hab) (of_decide_eq_true hbc))
  exact (hle.and (sortedSet_nodup l)).imp fun h => Std.lt_of_le_of_ne (of_decide_eq_true h.1) h.2

end RecordMapper
