/-
  RecordMapper.Proofs.Record.Tracking
  ────────────────────────────────
  **WHICH FIELDS OF A LOADED RECORD ARE DIRTY.**

  An assignment makes a field dirty when its value is not the same as the one that the
  record holds at that moment.  Sameness is symmetric and transitive, so it makes no
  difference when a value came: after any run of assignments a field is dirty exactly
  when one of the values assigned to it was not the same as what the record was loaded
  with.  The primary key is never dirty.

  Main results: `setAll_tracks`, and `materialize_loaded`, which says that a record read
  from a row starts without dirty fields.
-/
import RecordMapper.Proofs.Record.Assembly

namespace RecordMapper

open RecordMapper.Number

/-! ## §1. Sameness of values. -/

namespace Number.Binary64

theorem numericEq_comm (x y : Binary64) : x.numericEq y = y.numericEq x := by
  unfold numericEq
  rw [Bool.and_comm (!x.isNaN), Bool.beq_comm (a := x.bits), Bool.and_comm x.isZero]

theorem numericEq_trans {x y z : Binary64} (hxy : x.numericEq y = true)
    (hyz : y.numericEq z = true) : x.numericEq z = true := by
  obtain ⟨x⟩ := x
  obtain ⟨y⟩ := y
  obtain ⟨z⟩ := z
  simp only [numericEq, Bool.and_eq_true, Bool.or_eq_true, beq_iff_eq] at *
  obtain ⟨⟨hx, _⟩, hxy⟩ := hxy
  obtain ⟨⟨_, hz⟩, hyz⟩ := hyz
  refine ⟨⟨hx, hz⟩, ?_⟩
  -- Equal words, or two zeros: in every combination the zeros meet at `y`.
  rcases hxy with rfl | ⟨hx0, _⟩
  · exact hyz
  · rcases hyz with rfl | ⟨_, hz0⟩
    · exact .inr ⟨hx0, by assumption⟩
    · exact .inr ⟨hx0, hz0⟩

end Number.Binary64

namespace Value

/-- **Values that are the same** are both NULL, or equal in number, or equal. -/
theorem same_iff {a b : Value} : a.same b = true ↔
    (a.isNull = true ∧ b.isNull = true)
      ∨ (∃ x y, a = .float64 (some x) ∧ b = .float64 (some y) ∧ x.numericEq y = true)
      ∨ (a = b ∧ a.isNull = false ∧ ∀ x, a ≠ .float64 (some x)) := by
  rcases a with _ | (_ | a) | (_ | a) | (_ | a) | (_ | a) | (_ | a) | (_ | a) | (_ | a) <;>
    rcases b with _ | (_ | b) | (_ | b) | (_ | b) | (_ | b) | (_ | b) | (_ | b) | (_ | b) <;>
      simp [same, isNull]

theorem same_symm {a b : Value} (h : a.same b = true) : b.same a = true := by
  refine same_iff.2 ?_
  rcases same_iff.1 h with ⟨ha, hb⟩ | ⟨x, y, rfl, rfl, hxy⟩ | ⟨rfl, hnull, hfloat⟩
  · exact .inl ⟨hb, ha⟩
  · exact .inr (.inl ⟨y, x, rfl, rfl, by rwa [Binary64.numericEq_comm]⟩)
  · exact .inr (.inr ⟨rfl, hnull, hfloat⟩)

theorem same_trans {a b c : Value} (hab : a.same b = true) (hbc : b.same c = true) :
    a.same c = true := by
  rcases same_iff.1 hab with ⟨ha, hb⟩ | ⟨x, y, rfl, rfl, hxy⟩ | ⟨rfl, _, _⟩
  · rcases same_iff.1 hbc with ⟨_, hc⟩ | ⟨y, z, rfl, rfl, _⟩ | ⟨rfl, hnull, _⟩
    · exact same_iff.2 (.inl ⟨ha, hc⟩)
    · cases hb
    · exact absurd (hb.symm.trans hnull) nofun
  · rcases same_iff.1 hbc with ⟨hb, _⟩ | ⟨y', z, hy, rfl, hyz⟩ | ⟨rfl, _, hfloat⟩
    · cases hb
    · cases hy
      exact same_iff.2 (.inr (.inl ⟨x, z, rfl, rfl, Binary64.numericEq_trans hxy hyz⟩))
    · exact absurd rfl (hfloat y)
  · exact hbc

/-- What is the same as a value is NULL when that is. -/
theorem isNull_eq_of_same {a b : Value} (h : a.same b = true) : a.isNull = b.isNull := by
  rcases same_iff.1 h with ⟨ha, hb⟩ | ⟨x, y, rfl, rfl, -⟩ | ⟨rfl, -, -⟩
  · rw [ha, hb]
  · rfl
  · rfl

/-- One of the values is not the same as `v`. -/
def Differs (v : Value) (values : List Value) : Prop :=
  ∃ w ∈ values, v.same w = false

/-- **One value more** differs when one of those before it did, or when it is not the same
as the last of them. -/
theorem differs_concat (v : Value) (values : List Value) (w : Value) :
    v.Differs (values ++ [w])
      ↔ v.Differs values ∨ (values.getLast?.getD v).same w = false := by
  by_cases hvalues : v.Differs values
  · obtain ⟨u, hu, hdiffers⟩ := hvalues
    exact iff_of_true ⟨u, List.mem_append_left _ hu, hdiffers⟩ (.inl ⟨u, hu, hdiffers⟩)
  -- All of the values are the same as `v`, so the last of them is as good as `v`.
  have hall : ∀ u ∈ values, v.same u = true := by
    intro u hu
    cases hsame : v.same u with
    | true => rfl
    | false => exact absurd ⟨u, hu, hsame⟩ hvalues
  have hlast : v.same w = (values.getLast?.getD v).same w := by
    cases hvalue : values.getLast? with
    | none => rfl
    | some u =>
        have hsame := hall u (List.mem_of_getLast? hvalue)
        exact Bool.eq_iff_iff.2 ⟨same_trans (same_symm hsame), same_trans hsame⟩
  constructor
  · rintro ⟨u, hu, hdiffers⟩
    rcases List.mem_append.1 hu with hu | hu
    · exact .inl ⟨u, hu, hdiffers⟩
    · obtain rfl := List.mem_singleton.1 hu
      exact .inr (hlast ▸ hdiffers)
  · rintro (hdiffers | hdiffers)
    · exact absurd hdiffers hvalues
    · exact ⟨w, List.mem_append_right _ List.mem_cons_self, hlast.trans hdiffers⟩

end Value

namespace Record

/-! ## §2. One assignment. -/

/-- What a record holds in a field: NULL when it was never assigned. -/
def valueOf (r : Record) (name : String) : Value :=
  (r.values.get? name).getD .null

variable {r r' : Record}

/-- **What becomes dirty**: the field that is assigned, when it is not the primary key and
its value changes. -/
theorem mem_dirtyAfter (hstored : r.isNew = false) {field : Field} {v : Value} {name : String} :
    name ∈ r.dirtyAfter field v
      ↔ name ∈ r.dirty ∨ name = field.name
        ∧ field.toAttribute.same r.model.primaryKey.toAttribute = false
        ∧ (r.valueOf field.name).same v = false := by
  unfold dirtyAfter changes
  rw [hstored]
  show name ∈ (if (true && _ && !(r.valueOf field.name).same v && _) = true then _ else _) ↔ _
  split
  · rename_i hchanges
    simp only [Bool.and_eq_true, Bool.not_eq_true', Bool.true_and] at hchanges
    obtain ⟨⟨hkey, hdiffers⟩, _⟩ := hchanges
    simp [hkey, hdiffers]
  · rename_i hkeeps
    constructor
    · exact .inl
    · rintro (hname | ⟨rfl, hkey, hdiffers⟩)
      · exact hname
      -- Nothing else stood in the way, so the field is dirty already.
      · rw [hkey, hdiffers] at hkeeps
        simpa using hkeeps

theorem nodup_dirtyAfter (h : r.dirty.Nodup) (field : Field) (v : Value) :
    (r.dirtyAfter field v).Nodup := by
  unfold dirtyAfter
  split
  · rename_i hchanges
    have hnew : field.name ∉ r.dirty := by
      simp only [Bool.and_eq_true, Bool.not_eq_true', List.contains_eq_mem,
        decide_eq_false_iff_not] at hchanges
      exact hchanges.2
    exact List.nodup_append.2 ⟨h, by simp, by
      rintro x hx y hy rfl
      obtain rfl := List.mem_singleton.1 hy
      exact hnew hx⟩
  · exact h

/-! ## §3. Runs of assignments. -/

/-- **The record keeps track of what was written** to its fields since it was `r₀`: it
holds the last write to each, and a field is dirty when one of them was not the same as
what `r₀` holds. -/
structure Tracks (r₀ : Record) (written : String → List Value) (r : Record) : Prop where
  model_eq : r.model = r₀.model
  stored : r.isNew = false
  get?_eq : ∀ name, r.values.get? name = lastOr (written name) (r₀.values.get? name)
  nodup : r.dirty.Nodup
  mem_dirty : ∀ name, name ∈ r.dirty
    ↔ name ≠ r₀.model.primaryKey.name ∧ (r₀.valueOf name).Differs (written name)

namespace Tracks

variable {r₀ : Record} {written : String → List Value}

theorem valueOf_eq (h : Tracks r₀ written r) (name : String) :
    r.valueOf name = ((written name).getLast?).getD (r₀.valueOf name) := by
  unfold valueOf
  rw [h.get?_eq name, lastOr]
  cases (written name).getLast? <;> rfl

/-- **One assignment more.** -/
theorem set (h : Tracks r₀ written r) (hm : r₀.model.Registered) {cell : String × Value}
    (hset : r.set cell.1 cell.2 = .ok r') :
    Tracks r₀ (fun name => written name ++ (assigned? r₀.model name cell).toList) r' := by
  have hvalues := set_get? hset
  obtain ⟨f, w, hf, hw, rfl⟩ := set_ok hset
  rw [h.model_eq] at hf
  have hmem := Model.mem_of_field? hf
  refine ⟨h.model_eq, h.stored, fun name => ?_, nodup_dirtyAfter h.nodup f w, fun name => ?_⟩
  · rw [(hvalues name).2, h.model_eq, h.get?_eq name, lastOr.append]
  · show name ∈ r.dirtyAfter f w ↔ _
    rw [mem_dirtyAfter h.stored, h.model_eq, hm.same_eq hmem hm.primaryKey_mem,
      h.mem_dirty name]
    rw [assigned?_of_field hf hw]
    by_cases hname : f.name = name
    · subst hname
      rw [if_pos rfl, Option.toList_some, Value.differs_concat, h.valueOf_eq]
      simp only [beq_eq_false_iff_ne, ne_eq, true_and]
      exact and_or_left.symm
    · rw [if_neg hname, Option.toList_none, List.append_nil]
      exact or_iff_left fun hthis => hname hthis.1.symm

/-- A record that was just loaded keeps track of no write. -/
theorem start (hstored : r.isNew = false) (hclean : r.dirty = []) : Tracks r (fun _ => []) r where
  model_eq := rfl
  stored := hstored
  get?_eq _ := rfl
  nodup := hclean ▸ List.nodup_nil
  mem_dirty name := by
    rw [hclean]
    exact iff_of_false nofun fun ⟨_, _, hmem, _⟩ => nomatch hmem

/-- **A run of assignments.** -/
theorem setAll (hm : r₀.model.Registered) : ∀ {cells : List (String × Value)} {r : Record}
    {written : String → List Value}, Tracks r₀ written r → r.setAll cells = .ok r' →
      Tracks r₀ (fun name => written name ++ cells.filterMap (assigned? r₀.model name)) r'
  | [], r, written, h, hset => by
      obtain rfl := pure_ok.1 hset
      simpa using h
  | cell :: cells, r, written, h, hset => by
      obtain ⟨r₁, hfirst, hrest⟩ := setAll_cons_ok.1 hset
      have hrun := setAll hm (h.set hm hfirst) hrest
      refine cast (congrArg (Tracks r₀ · r') (funext fun name => ?_)) hrun
      rw [List.append_assoc, List.filterMap_cons]
      cases assigned? r₀.model name cell <;> rfl

end Tracks

/-! ## §4. Records read from rows. -/

/-- **A record as it was loaded**: stored, and without dirty fields. -/
structure Loaded (m : Model) (r : Record) : Prop where
  model_eq : r.model = m
  stored : r.isNew = false
  clean : r.dirty = []

/-- A record that is not stored yet has no dirty fields, whatever is assigned. -/
theorem setAll_new : ∀ {cells : List (String × Value)} {r : Record},
    r.isNew = true → r.dirty = [] → r.setAll cells = .ok r' → r'.isNew = true ∧ r'.dirty = []
  | [], r, hnew, hclean, h => by
      obtain rfl := pure_ok.1 h
      exact ⟨hnew, hclean⟩
  | cell :: cells, r, hnew, hclean, h => by
      obtain ⟨r₁, hfirst, hrest⟩ := setAll_cons_ok.1 h
      obtain ⟨f, w, _, _, rfl⟩ := set_ok hfirst
      have hdirty : r.dirtyAfter f w = [] := by
        unfold dirtyAfter
        rw [hnew]
        exact hclean
      exact setAll_new (r := { r with values := r.values.put f.name w, dirty := r.dirtyAfter f w })
        hnew hdirty hrest

theorem load_loaded {m : Model} {row : List (String × Value)} (h : load m row = .ok r) :
    Loaded m r := by
  unfold load at h
  obtain ⟨b, hb, h⟩ := bind_ok.1 h
  obtain ⟨filled, hfilled, h⟩ := bind_ok.1 h
  obtain rfl := pure_ok.1 h
  have hblank := setAll_new rfl rfl hb
  refine ⟨?_, rfl, (setAll_new hblank.1 hblank.2 hfilled).2⟩
  exact (setAll_get? hfilled).1.trans (setAll_get? hb).1

/-- Attaching records makes no field dirty. -/
theorem go_loaded {cells : Cells} {m : Model} : ∀ {relations : List (String × Model)} {r : Record},
    Loaded m r → assemble.go cells m r relations = .ok r' → Loaded m r'
  | [], r, hr, h => by
      rw [assemble.go] at h
      obtain rfl := Except.ok.inj h
      exact hr
  | (field, related) :: rest, r, hr, h => by
      rw [assemble.go] at h
      split at h
      · rename_i key _ _
        obtain ⟨child, _, h⟩ := bind_ok.1 h
        exact go_loaded (r := r.attach key.relatedName child) ⟨hr.model_eq, hr.stored, hr.clean⟩ h
      · exact go_loaded hr h

theorem assemble_loaded {cells : Cells} {m : Model} (h : assemble cells m = .ok r) :
    Loaded m r := by
  rw [assemble_eq] at h
  obtain ⟨root, hroot, h⟩ := bind_ok.1 h
  exact go_loaded (load_loaded hroot) h

/-- **Every record that a result yields** is as it was loaded. -/
theorem materialize_loaded {result : Result} {labels : List String} {row : List Value}
    (h : result.materialize labels row = .ok r) : Loaded result.model r := by
  unfold Result.materialize at h
  split at h
  · exact load_loaded h
  · exact assemble_loaded h

/-- **What a run of assignments writes to the field `name`**: the application forms of the
values that are assigned to it, in order. -/
def assignedTo (m : Model) (changes : List (String × Value)) (name : String) : List Value :=
  changes.filterMap (assigned? m name)

/-- What is assigned to a field converts to its application form. -/
theorem of_mem_assignedTo {m : Model} {changes : List (String × Value)} {name : String}
    {w : Value} (h : w ∈ assignedTo m changes name) :
    ∃ change ∈ changes, ∃ f, m.field? change.1 = some f ∧ f.name = name
      ∧ f.toApplication change.2 = .ok w := by
  obtain ⟨change, hchange, hw⟩ := List.mem_filterMap.1 h
  exact ⟨change, hchange, assigned?_eq_some.1 hw⟩

/-- **The fields that are dirty after a run of assignments** to a loaded record. -/
theorem setAll_tracks {m : Model} (hm : m.Registered) {loaded : Record} (h : Loaded m loaded)
    {changes : List (String × Value)} (hset : loaded.setAll changes = .ok r) :
    Tracks loaded (assignedTo m changes) r := by
  obtain rfl := h.model_eq
  exact (Tracks.start h.stored h.clean).setAll hm hset

/-- A field that was set holds the last value set. -/
theorem setAll_valueOf {m : Model} (hm : m.Registered) {loaded : Record} (h : Loaded m loaded)
    {changes : List (String × Value)} (hset : loaded.setAll changes = .ok r) {name : String}
    {w : Value} (hlast : (assignedTo m changes name).getLast? = some w) : r.valueOf name = w := by
  rw [(setAll_tracks hm h hset).valueOf_eq, hlast]
  rfl

end Record

end RecordMapper
