/-
  RecordMapper.Proofs.Schema.Addressed
  ────────────────────────────────
  **WHICH FIELD A KEY STANDS FOR.**

  Values are given under keys that callers choose.  A key stands for the field of that
  very name; a key that names no field stands for the field whose column it spells, in
  any letter case.  One field thus answers to many keys, and what a list of given values
  leaves for it is the last value under any of them.

  Main result: `Registered.field?_eq_some_iff`, that a model looks up what a key stands
  for.
-/
import Mathlib.Data.List.Induction
import RecordMapper.Proofs.Schema.Invariant

namespace RecordMapper.Model

variable {m : Model} {key : String} {f g : Field}

/-! ## §1. Keys. -/

/-- **A key stands for a field** of the model: it is the field's name, or it spells the
field's column in some letter case and no field has it as a name. -/
def Addresses (m : Model) (key : String) (f : Field) : Prop :=
  f ∈ m.fields ∧ (key = f.name ∨ Text.lower key = f.column ∧ key ∉ m.fieldNames)

instance (m : Model) (key : String) (f : Field) : Decidable (m.Addresses key f) :=
  inferInstanceAs (Decidable (_ ∧ _))

/-- The field of this very name is that field, when names are distinct. -/
theorem fieldNamed?_name (hnodup : m.fieldNames.Nodup) (hf : f ∈ m.fields) :
    m.fieldNamed? f.name = some f := by
  cases hfind : m.fieldNamed? f.name with
  | none =>
      have hnot := List.find?_eq_none.1 hfind f hf
      simp at hnot
  | some g =>
      have hname : g.name = f.name := by simpa using List.find?_some hfind
      rw [eq_of_name hnodup (List.mem_of_find?_eq_some hfind) hf hname]

/-- **A model looks up what a key stands for.** -/
theorem Registered.field?_eq_some_iff (hm : m.Registered) :
    m.field? key = some f ↔ m.Addresses key f := by
  by_cases hnamed : key ∈ m.fieldNames
  · obtain ⟨g, hg, rfl⟩ := List.mem_map.1 hnamed
    rw [field?_name hm.fieldNames_nodup hg, Option.some_inj]
    constructor
    · rintro rfl
      exact ⟨hg, .inl rfl⟩
    · rintro ⟨hf, hname | ⟨-, hunnamed⟩⟩
      · exact eq_of_name hm.fieldNames_nodup hg hf hname
      · exact absurd hnamed hunnamed
  · -- No field has this name, so that the column decides.
    have hnone : m.fieldNamed? key = none := by
      refine List.find?_eq_none.2 fun g hg hname => hnamed ?_
      exact List.mem_map.2 ⟨g, hg, by simpa using hname⟩
    have hlookup : m.field? key = (m.columns.get? (Text.lower key)).bind m.fieldNamed? := by
      unfold field?
      rw [hnone]
      rfl
    have hfound : ∀ g ∈ m.fields, m.fieldNamed? g.name = some g := fun _ =>
      fieldNamed?_name hm.fieldNames_nodup
    rw [hlookup, Option.bind_eq_some_iff]
    constructor
    · rintro ⟨name, hcolumn, hname⟩
      obtain ⟨g, hg, hspelled, rfl⟩ := (get?_columns_iff hm.columns_nodup).1 hcolumn
      rw [hfound g hg, Option.some_inj] at hname
      subst hname
      exact ⟨hg, .inr ⟨hspelled.symm, hnamed⟩⟩
    · rintro ⟨hf, rfl | ⟨hspelled, -⟩⟩
      · exact absurd (List.mem_map_of_mem hf) hnamed
      · exact ⟨f.name, (get?_columns_iff hm.columns_nodup).2 ⟨f, hf, hspelled.symm, rfl⟩,
          hfound f hf⟩

/-- A key stands for one field at most. -/
theorem Registered.eq_of_addresses (hm : m.Registered) (hf : m.Addresses key f)
    (hg : m.Addresses key g) : f = g := by
  rw [← hm.field?_eq_some_iff] at hf hg
  exact Option.some.inj (hf.symm.trans hg)

/-! ## §2. The last value under any key. -/

variable {given : List (String × Value)} {cell : String × Value} {v : Value}

/-- **The last value that was given to a field**, under whichever key. -/
def lastGiven? (m : Model) (given : List (String × Value)) (f : Field) : Option Value :=
  (given.filter fun cell => m.Addresses cell.1 f).getLast?.map (·.2)

theorem lastGiven?_concat_self (h : m.Addresses cell.1 f) :
    m.lastGiven? (given ++ [cell]) f = some cell.2 := by
  unfold lastGiven?
  rw [List.filter_append, List.filter_cons_of_pos (by simpa using h), List.filter_nil,
    List.getLast?_concat, Option.map_some]

theorem lastGiven?_concat_other (h : ¬ m.Addresses cell.1 f) :
    m.lastGiven? (given ++ [cell]) f = m.lastGiven? given f := by
  unfold lastGiven?
  rw [List.filter_append, List.filter_cons_of_neg (by simpa using h), List.filter_nil,
    List.append_nil]

/-- A field was given a value exactly when some key stands for it. -/
theorem lastGiven?_isSome_iff :
    (∃ v, m.lastGiven? given f = some v) ↔ ∃ cell ∈ given, m.Addresses cell.1 f := by
  have hempty : m.lastGiven? given f = none ↔ ∀ cell ∈ given, ¬ m.Addresses cell.1 f := by
    unfold lastGiven?
    rw [Option.map_eq_none_iff, List.getLast?_eq_none_iff, List.filter_eq_nil_iff]
    simp
  rw [← Option.isSome_iff_exists, ← Option.ne_none_iff_isSome, ne_eq, hempty]
  simp

/-- **Under one of its keys a field was given the last value**, which is what is kept under
that key when all values are kept under theirs. -/
theorem exists_key_of_lastGiven? (h : m.lastGiven? given f = some v) :
    ∃ key, m.Addresses key f ∧ (Keyed.putAll [] given).get? key = some v := by
  induction given using List.reverseRecOn with
  | nil => cases h
  | append_singleton given cell ih =>
      have hput : Keyed.putAll [] (given ++ [cell]) = (Keyed.putAll [] given).put cell.1 cell.2 :=
        List.foldl_append
      rw [hput]
      by_cases hcell : m.Addresses cell.1 f
      · rw [lastGiven?_concat_self hcell, Option.some_inj] at h
        exact ⟨cell.1, hcell, h ▸ Keyed.get?_put_self _ _ _⟩
      · rw [lastGiven?_concat_other hcell] at h
        obtain ⟨key, hkey, hkept⟩ := ih h
        have hother : key ≠ cell.1 := fun hsame => hcell (hsame ▸ hkey)
        exact ⟨key, hkey, (Keyed.get?_put_of_ne _ _ hother).trans hkept⟩

end RecordMapper.Model
