/-
  RecordMapper.Proofs.Value.DateOfMoment
  ────────────────────────────────
  **A DATE IS THE DATE OF A MOMENT.**

  A value that converts to a date converts to a moment of that date, and the other way
  round.  For text both conversions try the same layouts, one of them the layout of dates
  first and the other one last, and each takes what the other one tries as well.  That the
  order does not matter is a fact about the layouts: any two of them diverge
  (`Calendar.diverge`), since one ends where the other goes on or both have a different
  character in one place, and of two layouts that diverge at most one reads a text.

  Main results: `readParts?_of_diverge` and `date_is_date_of_moment`.
-/
import Mathlib.Data.List.Nodup
import RecordMapper.Conversion
import RecordMapper.Proofs.Calendar.Layouts
import RecordMapper.Proofs.Outcome

namespace RecordMapper

namespace Calendar

/-! ## §1. Layouts that diverge. -/

/-- Two items are apart: they are different characters. -/
def Item.apart : Item → Item → Bool
  | .character c, .character d => c ≠ d
  | _, _ => false

/-- **Two layouts diverge**: behind the items that they have in common one of them ends and
the other goes on, or they have different characters there. -/
def diverge : List Item → List Item → Bool
  | [], [] => false
  | [], _ :: _ => true
  | _ :: _, [] => true
  | x :: a, y :: b => x.apart y || (x == y && diverge a b)

/-- No item reads the empty text. -/
theorem Item.read?_nil (p : Parts) (item : Item) : item.read? p [] = none := by
  cases item <;> rfl

/-- Of two items that are apart at most one reads what stands in front. -/
theorem Item.read?_of_apart {x y : Item} (h : x.apart y = true) {p : Parts} {cs : List Char}
    (hx : (x.read? p cs).isSome = true) : y.read? p cs = none := by
  cases x with
  | character c =>
      cases y with
      | character d =>
          have hcd : c ≠ d := by simpa [apart] using h
          cases cs with
          | nil => rfl
          | cons c' rest =>
              by_cases hc : c' = c
              · exact if_neg (hc ▸ hcd)
              · rw [read?, if_neg hc] at hx
                cases hx
      | year | month | day | hour | minute | second | fraction => cases h
  | year | month | day | hour | minute | second | fraction => cases h

/-- A layout that has an item reads no empty text. -/
theorem readParts?_cons_nil (item : Item) (layout : List Item) (p : Parts) :
    readParts? (item :: layout) p [] = none := by
  rw [readParts?, Item.read?_nil]
  rfl

/-- **A layout with an item** reads what the others read behind it. -/
theorem readParts?_cons_eq_some {item : Item} {layout : List Item} {p q : Parts} {cs : List Char} :
    readParts? (item :: layout) p cs = some q
      ↔ ∃ p' tail, item.read? p cs = some (p', tail) ∧ readParts? layout p' tail = some q := by
  rw [readParts?]
  simp [Option.bind_eq_some_iff]

/-- The empty layout reads the empty text alone. -/
theorem readParts?_nil_eq_some {p q : Parts} {cs : List Char} :
    readParts? [] p cs = some q ↔ cs = [] ∧ p = q := by
  cases cs <;> simp [readParts?]

/-- **Of two layouts that diverge at most one reads a text.** -/
theorem readParts?_of_diverge {a b : List Item} (h : diverge a b = true) {p q : Parts}
    {cs : List Char} (ha : readParts? a p cs = some q) : readParts? b p cs = none := by
  induction a generalizing b p cs with
  | nil =>
      obtain ⟨rfl, -⟩ := readParts?_nil_eq_some.1 ha
      cases b with
      | nil => cases h
      | cons y b => exact readParts?_cons_nil y b p
  | cons x a ih =>
      obtain ⟨p', tail, hx, htail⟩ := readParts?_cons_eq_some.1 ha
      cases b with
      | nil =>
          -- The first item has read something, which the empty layout does not.
          cases cs with
          | nil => rw [Item.read?_nil] at hx; cases hx
          | cons c cs => rfl
      | cons y b =>
          rw [diverge, Bool.or_eq_true, Bool.and_eq_true, beq_iff_eq] at h
          rw [readParts?]
          rcases h with hapart | ⟨rfl, hdiverge⟩
          · rw [Item.read?_of_apart hapart (by rw [hx]; rfl)]
            rfl
          -- The common item reads the same in both layouts, and they diverge behind it.
          · rw [hx]
            exact ih hdiverge htail

/-- **The layouts of dates and of moments diverge**, any two of them. -/
theorem layouts_diverge : ∀ a ∈ dateLayout :: momentLayouts, ∀ b ∈ dateLayout :: momentLayouts,
    a = b ∨ diverge a b = true := by
  decide

/-- **One layout at most reads a text**, of all that are tried for dates and moments. -/
theorem eq_of_readParts? {a b : List Item} (ha : a ∈ dateLayout :: momentLayouts)
    (hb : b ∈ dateLayout :: momentLayouts) {p q r : Parts} {cs : List Char}
    (hq : readParts? a p cs = some q) (hr : readParts? b p cs = some r) : a = b := by
  rcases layouts_diverge a ha b hb with hab | hdiverge
  · exact hab
  · rw [readParts?_of_diverge hdiverge hq] at hr
    cases hr

/-- The layouts that read a text, of all that are tried for dates and moments. -/
def layoutsReading (cs : List Char) : List (List Item) :=
  (dateLayout :: momentLayouts).filter fun layout => (readParts? layout Parts.zero cs).isSome

theorem length_layoutsReading_le (cs : List Char) : (layoutsReading cs).length ≤ 1 := by
  have hnodup : (layoutsReading cs).Nodup := List.Nodup.filter _ (by decide)
  have hequal : ∀ a ∈ layoutsReading cs, ∀ b ∈ layoutsReading cs, a = b := by
    intro a ha b hb
    obtain ⟨ha, hread⟩ := List.mem_filter.1 ha
    obtain ⟨hb, hread'⟩ := List.mem_filter.1 hb
    obtain ⟨q, hq⟩ := Option.isSome_iff_exists.1 hread
    obtain ⟨r, hr⟩ := Option.isSome_iff_exists.1 hread'
    exact eq_of_readParts? ha hb hq hr
  match hlayouts : layoutsReading cs with
  | [] => exact Nat.zero_le 1
  | [_] => exact Nat.le_refl 1
  | a :: b :: rest =>
      rw [hlayouts] at hnodup hequal
      have hab : a ≠ b := fun hab => (List.nodup_cons.1 hnodup).1 (hab ▸ List.mem_cons_self)
      exact absurd (hequal a (by simp) b (by simp)) hab

/-! ## §2. Dates and moments that are read. -/

/-- A text that is read as a date is read as the moment at which it begins. -/
theorem Moment.read?_of_date {cs : List Char} {d : Date} (h : Date.read? cs = some d) :
    Moment.read? cs = some d.atMidnight := by
  obtain ⟨parts, hparts, -⟩ := Option.bind_eq_some_iff.1 h
  -- No layout of moments reads it, so that the layout of dates is tried at last.
  have hnone : ∀ layout ∈ momentLayouts,
      (readParts? layout Parts.zero cs).bind Parts.moment? = none := by
    intro layout hlayout
    cases hread : readParts? layout Parts.zero cs with
    | none => rfl
    | some read =>
        have hsame := eq_of_readParts? List.mem_cons_self (List.mem_cons_of_mem _ hlayout) hparts hread
        exact absurd (hsame ▸ hlayout) (by decide)
  rw [Moment.read?, List.findSome?_eq_none_iff.2 hnone, h]
  rfl

end Calendar

open Calendar

variable {d : Date}

/-! ## §3. Conversions. -/

/-- **Text is read as the date of the moment** that it is read as. -/
theorem parseDate_ok_iff {text : String} :
    parseDate text = .ok d ↔ ∃ m, parseMoment text = .ok m ∧ m.date = d := by
  unfold parseDate
  cases hdate : Date.read? (Text.trim text.toList) with
  | none => exact map_ok
  | some day =>
      have hmoment : parseMoment text = .ok day.atMidnight := by
        unfold parseMoment
        simp only [Moment.read?_of_date hdate]
      rw [hmoment]
      simp [Date.atMidnight]

/-- **A date is the date of a moment.**  Whatever value is converted, it converts to a date
exactly when it converts to a moment, and then to the date of that moment; and so it is with
every text that is read.  Of the layouts that are tried, that of dates and those of moments, at
most one reads a text. -/
theorem date_is_date_of_moment :
    (∀ (v : Value) (d : Date), v.toDate = .ok d ↔ ∃ m, v.toMoment = .ok m ∧ m.date = d)
      ∧ (∀ (text : String) (d : Date),
        parseDate text = .ok d ↔ ∃ m, parseMoment text = .ok m ∧ m.date = d)
      ∧ ∀ text : String, (layoutsReading (Text.trim text.toList)).length ≤ 1 := by
  refine ⟨fun v d => ?_, fun text d => parseDate_ok_iff, fun text => length_layoutsReading_le _⟩
  have hneither : ∀ {e e' : Failure}, (Except.error e : Except Failure Date) = .ok d
      ↔ ∃ m : Moment, (Except.error e' : Except Failure Moment) = .ok m ∧ m.date = d :=
    iff_of_false nofun (by rintro ⟨m, hm, -⟩; cases hm)
  cases v with
  | varchar text =>
      cases text with
      | none => exact hneither
      | some text => exact parseDate_ok_iff
  | int64 seconds =>
      cases seconds with
      | none => exact hneither
      | some seconds => exact map_ok
  | date day =>
      cases day with
      | none => exact hneither
      | some day => simp [Value.toDate, Value.toMoment, Date.atMidnight]
  | timestamp moment =>
      cases moment with
      | none => exact hneither
      | some moment => simp [Value.toDate, Value.toMoment]
  | null | boolean _ | float64 _ | time _ => exact hneither

/-- The text of a moment is read as its date. -/
example : parseDate " 2024-02-29 13:45" = .ok ⟨2024, 2, 29, by decide⟩ := by rfl

end RecordMapper
