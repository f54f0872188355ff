/-
  RecordMapper.Keyed
  ────────────────────────────────
  **KEYED LISTS.**

  Field values, aliases and joins are kept under names, in the order in which
  the names first came.  A keyed list is a list of pairs; writing under a present
  key replaces the value where it stands.
-/
namespace RecordMapper

/-- **A keyed list**: values under names, in order of arrival. -/
abbrev Keyed (α : Type) := List (String × α)

namespace Keyed

variable {α : Type}

/-- The value under a key. -/
def get? (l : Keyed α) (key : String) : Option α :=
  (l.find? (·.1 == key)).map (·.2)

/-- Something is kept under the key. -/
def has (l : Keyed α) (key : String) : Bool :=
  l.any (·.1 == key)

/-- **Write under a key**: in place when the key is present, else at the end. -/
def put (key : String) (value : α) : Keyed α → Keyed α
  | [] => [(key, value)]
  | (k, v) :: rest =>
    if k = key then (k, value) :: rest else (k, v) :: put key value rest

/-- Remove a key. -/
def erase (l : Keyed α) (key : String) : Keyed α :=
  l.filter (·.1 != key)

/-- The keys, in order. -/
def keys (l : Keyed α) : List String :=
  l.map (·.1)

/-- Write several pairs, one after the other. -/
def putAll (l : Keyed α) (pairs : List (String × α)) : Keyed α :=
  pairs.foldl (fun l (k, v) => l.put k v) l

/-! ## What writing does to looking up. -/

/-- What was written is there. -/
theorem get?_put_self (l : Keyed α) (key : String) (value : α) :
    get? (put key value l) key = some value := by
  induction l with
  | nil => simp [put, get?]
  | cons p rest ih =>
    by_cases h : p.1 = key
    · simp [put, get?, h]
    · simpa [put, get?, h] using ih

/-- Other keys keep their values. -/
theorem get?_put_of_ne (l : Keyed α) {key other : String} (value : α) (h : other ≠ key) :
    get? (put key value l) other = get? l other := by
  induction l with
  | nil => simp [put, get?, h.symm]
  | cons p rest ih =>
    obtain ⟨k, v⟩ := p
    by_cases hk : k = key
    · subst hk; simp [put, get?, h.symm]
    · by_cases ho : k = other
      · subst ho; simp [put, get?, hk]
      · simpa [put, get?, hk, ho] using ih

/-- What is written under a new key stands at the end. -/
theorem put_eq_append {key : String} (value : α) : ∀ {l : Keyed α}, key ∉ l.keys →
    l.put key value = l ++ [(key, value)]
  | [], _ => rfl
  | (k, v) :: rest, h => by
      obtain ⟨hne, hrest⟩ := List.ne_and_not_mem_of_not_mem_cons h
      unfold Keyed.put
      rw [if_neg (Ne.symm hne), put_eq_append value hrest]
      rfl

/-- A pair of the list is the one that was written, or was there before. -/
theorem mem_put {key : String} {value : α} {cell : String × α} :
    ∀ {l : Keyed α}, cell ∈ l.put key value → cell = (key, value) ∨ cell ∈ l
  | [], h => .inl (List.mem_singleton.1 h)
  | (k, v) :: rest, h => by
      unfold put at h
      split at h
      · next hk =>
          rcases List.mem_cons.1 h with rfl | h
          · exact .inl (hk ▸ rfl)
          · exact .inr (List.mem_cons_of_mem _ h)
      · rcases List.mem_cons.1 h with rfl | h
        · exact .inr List.mem_cons_self
        · exact (mem_put h).imp_right (List.mem_cons_of_mem _)

/-- A key of the list is the one that was written, or was there before. -/
theorem mem_keys_put {key k : String} {value : α} :
    ∀ {l : Keyed α}, k ∈ (l.put key value).keys ↔ k = key ∨ k ∈ l.keys
  | [] => List.mem_singleton.trans (or_iff_left (List.not_mem_nil)).symm
  | (k', v') :: rest => by
      have hrest : k ∈ (put key value rest).keys ↔ k = key ∨ k ∈ keys rest := mem_keys_put
      unfold put
      by_cases hk : k' = key
      · rw [if_pos hk]
        show k ∈ k' :: keys rest ↔ k = key ∨ k ∈ k' :: keys rest
        rw [List.mem_cons, hk, ← or_assoc, or_self]
      · rw [if_neg hk]
        show k ∈ k' :: (put key value rest).keys ↔ k = key ∨ k ∈ k' :: keys rest
        rw [List.mem_cons, List.mem_cons, hrest, or_left_comm]

/-- Something is kept under the keys of the list. -/
theorem has_iff_mem_keys {l : Keyed α} {key : String} : l.has key = true ↔ key ∈ l.keys := by
  unfold has keys
  rw [List.any_eq_true, List.mem_map]
  exact exists_congr fun cell => and_congr_right fun _ => beq_iff_eq

/-- Writing leaves keys distinct. -/
theorem nodup_keys_put {key : String} {value : α} :
    ∀ {l : Keyed α}, l.keys.Nodup → (l.put key value).keys.Nodup
  | [], _ => List.pairwise_singleton _ _
  | (k, v) :: rest, h => by
      obtain ⟨hnew, hrest⟩ := List.nodup_cons.1 (show (k :: keys rest).Nodup from h)
      unfold put
      by_cases hk : k = key
      · rw [if_pos hk]
        exact h
      · rw [if_neg hk]
        refine List.nodup_cons.2 ⟨fun hmem => ?_, nodup_keys_put hrest⟩
        exact (mem_keys_put.1 hmem).elim hk hnew

/-- **Pairs with new and distinct keys** are written one behind the other. -/
theorem putAll_eq_append : ∀ {pairs : List (String × α)} {l : Keyed α},
    (l.keys ++ keys pairs).Nodup → l.putAll pairs = l ++ pairs
  | [], l, _ => (List.append_nil l).symm
  | (k, v) :: rest, l, h => by
      have hnew : k ∉ l.keys := fun hk =>
        (List.nodup_append.1 h).2.2 k hk k List.mem_cons_self rfl
      show (l.put k v).putAll rest = _
      have hkeys : keys (l ++ [(k, v)]) ++ keys rest = l.keys ++ keys ((k, v) :: rest) := by
        simp [keys]
      rw [put_eq_append v hnew, putAll_eq_append (hkeys ▸ h), List.append_assoc]
      rfl

end Keyed

end RecordMapper
