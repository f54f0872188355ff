/-
  RecordMapper.Proofs.Schema.Forms
  ────────────────────────────────
  **THE TWO FORMS OF A VALUE.**

  A record holds a value in its application form, a statement binds it in its
  storage form.  Both are conversions of whatever value comes: from an
  application, from a row, or from the other form.

  Each kind converts to values of one type, its own (`Own`), and every law is a
  case analysis on these nine sorts of values: own values convert to themselves,
  what is stored is a function of the own value (`stored`), and it reads as that
  value again, save that text was cut to the length of its column (`fit`).

  Main results: `Kind.toStorage_eq_map` and `Kind.stored_form_reads_back`.
-/
import RecordMapper.Proofs.Outcome
import RecordMapper.Schema.Field

namespace RecordMapper

open RecordMapper.Calendar RecordMapper.Number

/-! ## §1. Integers of 64 bits. -/

namespace IntegerType

theorem holds_toInt (n : Int64) : int64.holds n.toInt = true := by
  have hleast := n.le_toInt
  have hgreatest := n.toInt_lt
  refine Bool.and_eq_true_iff.2 ⟨decide_eq_true ?_, decide_eq_true ?_⟩
  · show -9223372036854775808 ≤ n.toInt
    omega
  · show n.toInt ≤ 9223372036854775807
    omega

/-- Every integer of 64 bits converts to the integer type of 64 bits. -/
theorem check_toInt (n : Int64) : int64.check n.toInt = .ok n := by
  unfold check
  rw [if_pos (holds_toInt n), Int64.ofInt_toInt]

end IntegerType

namespace Kind

variable {kind : Kind} {v w : Value}

/-! ## §2. NULL. -/

/-- NULL is stored as the NULL of the kind. -/
theorem toStorage_of_isNull (h : v.isNull = true) : kind.toStorage v = .ok kind.empty :=
  if_pos h

/-- NULL is held as what the kind has for nothing. -/
theorem toApplication_of_isNull (h : v.isNull = true) : kind.toApplication v = .ok kind.absent :=
  if_pos h

/-- What is not NULL is converted. -/
theorem toApplication_of_not_null (h : v.isNull = false) :
    kind.toApplication v = kind.type.convert v := by
  unfold toApplication
  rw [h]
  rfl

theorem isNull_empty (kind : Kind) : kind.empty.isNull = true := by
  cases kind <;> rfl

/-! ## §3. Own values. -/

/-- **A value of the kind's own type**, and not NULL. -/
inductive Own : Kind → Value → Prop
  | integer (n : Int64) : Own .integer (.int64 (some n))
  | number (n : Int64) : Own .number (.int64 (some n))
  | float (x : Binary64) : Own .float (.float64 (some x))
  | boolean (b : Bool) : Own .boolean (.boolean (some b))
  | char (length : Nat) (text : String) : Own (.char length) (.varchar (some text))
  | varchar (length : Nat) (text : String) : Own (.varchar length) (.varchar (some text))
  | dateTime (moment : Moment) : Own .dateTime (.timestamp (some moment))
  | date (d : Date) : Own .date (.date (some d))
  | time (t : TimeOfDay) : Own .time (.time (some t))

/-- **What converts becomes an own value.** -/
theorem own_of_convert (h : kind.type.convert v = .ok w) : kind.Own w := by
  cases kind with
  | integer | number | float | boolean | char length | varchar length | dateTime | date | time =>
      obtain ⟨x, _, h⟩ := bind_ok.1 h
      obtain rfl := pure_ok.1 h
      constructor

namespace Own

theorem not_null (h : kind.Own v) : v.isNull = false := by
  cases h <;> rfl

theorem asNull (h : kind.Own v) : v.asNull = kind.empty := by
  cases h <;> rfl

/-- **An own value is its own application form.** -/
theorem toApplication (h : kind.Own v) : kind.toApplication v = .ok v := by
  rw [toApplication_of_not_null h.not_null]
  cases h with
  | integer n | number n => exact bind_ok.2 ⟨n, IntegerType.check_toInt n, rfl⟩
  | float | boolean | char | varchar | dateTime | date | time => rfl

end Own

/-! ## §4. What is stored. -/

/-- The value as the column keeps it: of a text as many characters, from the first on, as
the column is long. -/
def fit : Kind → Value → Value
  | .char length, .varchar (some text) =>
    .varchar (some (String.ofList (text.toList.take length)))
  | .varchar length, .varchar (some text) =>
    .varchar (some (String.ofList (text.toList.take length)))
  | _, v => v

/-- **What an own value is stored as**: a truth value as one or zero, any other as
the column keeps it. -/
def stored : Kind → Value → Value
  | .boolean, .boolean (some b) => .int64 (some (if b then 1 else 0))
  | kind, v => kind.fit v

/-- A text is cut to its first characters. -/
theorem cut_eq (length : Nat) (text : String) :
    cut length text = String.ofList (text.toList.take length) :=
  rfl

/-- **Storing is converting, and then storing what is own.**  Both forms fail
alike. -/
theorem toStorage_eq_map (h : v.isNull = false) :
    kind.toStorage v = (kind.toApplication v).map kind.stored := by
  rw [toApplication_of_not_null h]
  unfold toStorage
  rw [h]
  cases kind with
  | boolean =>
      show (v.toBoolean >>= _) = (v.toBoolean >>= _).map _
      cases v.toBoolean <;> rfl
  | char length | varchar length =>
      simp only [cut_eq]
      show (v.toText >>= _) = (v.toText >>= _).map _
      cases v.toText <;> rfl
  | integer | number | float | dateTime | date | time =>
      show toApplication _ v = _
      rw [toApplication_of_not_null h]
      cases hconvert : Kind.type _ |>.convert v with
      | error e => rfl
      | ok w =>
          cases own_of_convert hconvert
          rfl

/-- The first characters of a text are the first ones of themselves. -/
theorem take_take (length : Nat) (text : String) :
    (String.ofList (text.toList.take length)).toList.take length = text.toList.take length := by
  rw [String.toList_ofList, List.take_take, Nat.min_self]

namespace Own

theorem toStorage (h : kind.Own v) : kind.toStorage v = .ok (kind.stored v) := by
  rw [toStorage_eq_map h.not_null, h.toApplication]
  rfl

theorem fit (h : kind.Own v) : kind.Own (kind.fit v) := by
  cases h <;> constructor

theorem stored_not_null (h : kind.Own v) : (kind.stored v).isNull = false := by
  cases h <;> rfl

/-- A value that the column keeps is stored like the value that it was. -/
theorem stored_fit (h : kind.Own v) : kind.stored (kind.fit v) = kind.stored v := by
  cases h with
  | char length text | varchar length text =>
      show Value.varchar (some (String.ofList (List.take _ _))) = _
      rw [take_take]
      rfl
  | integer | number | float | boolean | dateTime | date | time => rfl

/-- **What is stored reads as the value that the column keeps.** -/
theorem toApplication_stored (h : kind.Own v) :
    kind.toApplication (kind.stored v) = .ok (kind.fit v) := by
  cases h with
  | boolean b => cases b <;> rfl
  | integer n => exact (Own.integer n).toApplication
  | number n => exact (Own.number n).toApplication
  | float | char | varchar | dateTime | date | time => rfl

/-- **What is stored is stored as it is.** -/
theorem toStorage_stored (h : kind.Own v) :
    kind.toStorage (kind.stored v) = .ok (kind.stored v) := by
  rw [toStorage_eq_map h.stored_not_null, h.toApplication_stored]
  show Except.ok (kind.stored (kind.fit v)) = _
  rw [h.stored_fit]

end Own

/-- What NULL is held as is stored as it is: the empty text as itself, the NULL of any
other kind as that NULL. -/
theorem toStorage_absent (kind : Kind) : kind.toStorage kind.absent = .ok kind.absent := by
  cases kind with
  | char length =>
      rw [show absent (.char length) = .varchar (some "") from rfl, (Own.char length "").toStorage]
      simp [stored, fit]
  | varchar length =>
      rw [show absent (.varchar length) = .varchar (some "") from rfl,
        (Own.varchar length "").toStorage]
      simp [stored, fit]
  | integer | number | float | boolean | dateTime | date | time => rfl

/-- Only text is held as something else than its NULL. -/
theorem absent_eq_empty_iff : kind.absent = kind.empty ↔ kind.type ≠ .text := by
  cases kind <;> simp [absent, empty, type]

/-- **A value has both forms or neither.** -/
theorem converts_iff : (∃ w, kind.toApplication v = .ok w) ↔ ∃ p, kind.toStorage v = .ok p := by
  cases hv : v.isNull with
  | true => exact iff_of_true ⟨_, toApplication_of_isNull hv⟩ ⟨_, toStorage_of_isNull hv⟩
  | false =>
      rw [toStorage_eq_map hv]
      cases kind.toApplication v <;> simp [Except.map]

/-- **The application form is stored as the value is**, unless it is a text that stands for
NULL. -/
theorem toStorage_of_held (h : kind.toApplication v = .ok w) :
    kind.toStorage w = kind.toStorage v ↔ (v.isNull = true → kind.type ≠ .text) := by
  cases hv : v.isNull with
  | true =>
      rw [toApplication_of_isNull hv] at h
      obtain rfl := Except.ok.inj h
      rw [toStorage_absent, toStorage_of_isNull hv, ← absent_eq_empty_iff]
      simp
  | false =>
      have hown := own_of_convert ((toApplication_of_not_null hv).symm.trans h)
      rw [hown.toStorage, toStorage_eq_map hv, h]
      simp [Except.map]

/-- **The application form is its own**, and it is NULL when the value is, unless it is a text
that stands for NULL. -/
theorem toApplication_of_held (h : kind.toApplication v = .ok w)
    (htext : v.isNull = true → kind.type ≠ .text) :
    kind.toApplication w = .ok w ∧ w.isNull = v.isNull := by
  cases hv : v.isNull with
  | true =>
      rw [toApplication_of_isNull hv, absent_eq_empty_iff.2 (htext hv)] at h
      obtain rfl := Except.ok.inj h
      have hnull := isNull_empty kind
      exact ⟨(toApplication_of_isNull hnull).trans (congrArg _ (absent_eq_empty_iff.2 (htext hv))),
        hnull⟩
  | false =>
      have hown := own_of_convert ((toApplication_of_not_null hv).symm.trans h)
      exact ⟨hown.toApplication, hown.not_null⟩

/-- **Every application form has a storage form.** -/
theorem toStorage_total (h : kind.toApplication v = .ok w) : ∃ p, kind.toStorage w = .ok p := by
  cases hv : v.isNull with
  | true =>
      rw [toApplication_of_isNull hv] at h
      obtain rfl := Except.ok.inj h
      exact ⟨kind.absent, kind.toStorage_absent⟩
  | false =>
      rw [toApplication_of_not_null hv] at h
      exact ⟨_, (own_of_convert h).toStorage⟩

/-- What is stored as something else than NULL is stored for an own value. -/
theorem stored_of_toStorage {u : Value} (h : kind.toStorage u = .ok v) (hv : v.isNull = false) :
    ∃ a, kind.Own a ∧ kind.toApplication u = .ok a ∧ v = kind.stored a := by
  have hu : u.isNull = false := by
    cases hu : u.isNull with
    | false => rfl
    | true =>
        rw [toStorage_of_isNull hu] at h
        rw [← Except.ok.inj h, isNull_empty] at hv
        cases hv
  rw [toStorage_eq_map hu] at h
  obtain ⟨a, ha, rfl⟩ := map_ok.1 h
  have hown := own_of_convert ((toApplication_of_not_null hu).symm.trans ha)
  exact ⟨a, hown, ha, rfl⟩

/-- **What is stored reads as a value that is stored alike.** -/
theorem toStorage_of_stored {u : Value} (hstored : kind.toStorage u = .ok v)
    (hv : v.isNull = false) (h : kind.toApplication v = .ok w) : kind.toStorage w = .ok v := by
  obtain ⟨a, hown, _, rfl⟩ := stored_of_toStorage hstored hv
  rw [hown.toApplication_stored] at h
  obtain rfl := Except.ok.inj h
  rw [hown.fit.toStorage, hown.stored_fit]

/-! ## §5. Both forms of one value. -/

/-- **What the two forms of a value are to each other**: how it is held and how it is
bound. -/
structure Forms (kind : Kind) (v held bound : Value) : Prop where
  /-- What is bound reads as what is held, as far as the column keeps it. -/
  reads : kind.toApplication bound = .ok (kind.fit held)
  held_again : kind.toApplication held = .ok held
  bound_again : kind.toStorage bound = .ok bound
  /-- What is held is of the kind's own type. -/
  own : held.asNull = kind.empty
  null : v.isNull = true → bound = kind.empty
  not_null : v.isNull = false → bound.isNull = false

theorem Own.forms (hv : v.isNull = false) (h : kind.Own w) : kind.Forms v w (kind.stored w) where
  reads := h.toApplication_stored
  held_again := h.toApplication
  bound_again := h.toStorage_stored
  own := h.asNull
  null hnull := absurd (hv.symm.trans hnull) nofun
  not_null _ := h.stored_not_null

theorem forms_of_isNull (hv : v.isNull = true) : kind.Forms v kind.absent kind.empty where
  reads := by
    rw [toApplication_of_isNull kind.isNull_empty]
    cases kind <;> simp [fit, absent, empty]
  held_again := by cases kind <;> rfl
  bound_again := toStorage_of_isNull kind.isNull_empty
  own := by cases kind <;> rfl
  null _ := rfl
  not_null hnot := absurd (hv.symm.trans hnot) nofun

/-- **A stored value reads as what is held**: either a value has both forms, which are one
another's as far as the column keeps them, or it has neither, for the same reason. -/
theorem stored_form_reads_back (kind : Kind) (v : Value) :
    (∃ held bound, kind.toApplication v = .ok held ∧ kind.toStorage v = .ok bound
        ∧ kind.Forms v held bound)
      ∨ ∃ failure, kind.toApplication v = .error failure ∧ kind.toStorage v = .error failure := by
  cases hv : v.isNull with
  | true =>
      exact .inl ⟨_, _, toApplication_of_isNull hv, toStorage_of_isNull hv, forms_of_isNull hv⟩
  | false =>
      have hmap : kind.toStorage v = _ := toStorage_eq_map hv
      cases happlication : kind.toApplication v with
      | error failure =>
          rw [happlication] at hmap
          exact .inr ⟨failure, rfl, hmap⟩
      | ok held =>
          rw [happlication] at hmap
          have hown := own_of_convert ((toApplication_of_not_null hv).symm.trans happlication)
          exact .inl ⟨held, kind.stored held, rfl, hmap, hown.forms hv⟩

/-- A text is cut at characters, however they are encoded. -/
example : (Kind.varchar 5).toStorage (.varchar (some "àèìòùx"))
    = .ok (.varchar (some "àèìòù")) := by rfl

end Kind

/-! ## §6. Forms of attributes. -/

namespace Attribute

variable {a : Attribute} {v w : Value}

theorem blame_ok {α : Type} {x : Except Failure α} {b : α} : a.blame x = .ok b ↔ x = .ok b := by
  cases x with
  | error cause => exact iff_of_false nofun nofun
  | ok b => rfl

/-- A value has both forms for a field or neither. -/
theorem converts_iff : (∃ w, a.toApplication v = .ok w) ↔ ∃ p, a.toStorage v = .ok p := by
  unfold toApplication toStorage
  simp only [blame_ok]
  exact Kind.converts_iff

theorem toStorage_total (h : a.toApplication v = .ok w) : ∃ p, a.toStorage w = .ok p := by
  obtain ⟨p, hp⟩ := Kind.toStorage_total (blame_ok.1 h)
  exact ⟨p, blame_ok.2 hp⟩

/-- **The application form stands for the value**, unless it is a text that stands for NULL: it
is its own application form, is stored as the value is, and is NULL when the value is. -/
theorem of_held (h : a.toApplication v = .ok w) (htext : v.isNull = true → a.kind.type ≠ .text) :
    a.toApplication w = .ok w ∧ a.toStorage w = a.toStorage v ∧ w.isNull = v.isNull := by
  have hheld := blame_ok.1 h
  obtain ⟨hagain, hnull⟩ := Kind.toApplication_of_held hheld htext
  exact ⟨blame_ok.2 hagain, congrArg a.blame ((Kind.toStorage_of_held hheld).2 htext), hnull⟩

end Attribute

end RecordMapper
