/-
  RecordMapper.Proofs.Value.ReadBack
  ────────────────────────────────
  **VALUES READ BACK FROM THEIR TEXT.**

  An integer, a truth value, a date, a time of day or a moment is bound as text where a
  database keeps text, and what comes back is parsed, white space around it trimmed.
  The texts themselves neither begin nor end with white space (`Trimmed`), so trimming
  gives back what was written, and reading it gives back the value, down to the
  microsecond.

  Main result: `text_reads_back`.
-/
import RecordMapper.Conversion
import RecordMapper.Proofs.Calendar.Layouts
import RecordMapper.Proofs.Schema.Forms

namespace RecordMapper

open RecordMapper.Calendar RecordMapper.Number

/-! ## §1. Trimmed texts. -/

namespace Text

/-- **A text is trimmed**: it begins and ends with characters that are not white space. -/
structure Trimmed (t : List Char) : Prop where
  first : ∃ c rest, t = c :: rest ∧ isBlank c = false
  last : ∃ init c, t = init ++ [c] ∧ isBlank c = false

/-- A text without white space is trimmed. -/
theorem Trimmed.of_forall {t : List Char} (hne : t ≠ []) (h : ∀ c ∈ t, isBlank c = false) :
    Trimmed t where
  first := by
    obtain ⟨c, rest, rfl⟩ := List.exists_cons_of_ne_nil hne
    exact ⟨c, rest, rfl, h c List.mem_cons_self⟩
  last := by
    have hlast := List.dropLast_concat_getLast hne
    exact ⟨t.dropLast, t.getLast hne, hlast.symm, h _ (List.getLast_mem hne)⟩

/-- What stands between two trimmed texts does not matter. -/
theorem Trimmed.append {a b : List Char} (ha : Trimmed a) (between : List Char) (hb : Trimmed b) :
    Trimmed (a ++ between ++ b) where
  first := by
    obtain ⟨c, rest, rfl, hc⟩ := ha.first
    exact ⟨c, rest ++ between ++ b, rfl, hc⟩
  last := by
    obtain ⟨init, c, rfl, hc⟩ := hb.last
    exact ⟨a ++ between ++ init, c, (List.append_assoc _ _ _).symm, hc⟩

/-- **Trimming takes away the white space around a trimmed text**, and nothing else. -/
theorem Trimmed.trim_eq {t : List Char} (h : Trimmed t) {before after : List Char}
    (hbefore : ∀ c ∈ before, isBlank c = true) (hafter : ∀ c ∈ after, isBlank c = true) :
    trim (before ++ t ++ after) = t := by
  have hstart : trimStart (before ++ t ++ after) = t ++ after := by
    obtain ⟨c, rest, rfl, hc⟩ := h.first
    rw [trimStart, List.append_assoc, List.dropWhile_append_of_pos hbefore]
    exact List.dropWhile_cons_of_neg (by simp [hc])
  have hend : trimEnd (t ++ after) = t := by
    obtain ⟨init, c, rfl, hc⟩ := h.last
    have hafter' : ∀ c ∈ after.reverse, isBlank c = true := fun c hc =>
      hafter c (List.mem_reverse.1 hc)
    rw [trimEnd, List.reverse_append, List.dropWhile_append_of_pos hafter', List.reverse_concat,
      List.dropWhile_cons_of_neg (by simp [hc]), List.reverse_cons, List.reverse_reverse]
  rw [trim, hstart, hend]

/-- A digit is not white space. -/
theorem isBlank_of_isDigit {c : Char} (h : c.isDigit = true) : isBlank c = false := by
  have hbounds : 48 ≤ c.toNat ∧ c.toNat ≤ 57 := by
    simpa [Char.isDigit, UInt32.le_iff_toNat_le] using h
  simp only [isBlank, inRanges, blankRanges, List.any_cons, List.any_nil, Bool.or_false,
    Bool.or_eq_false_iff, Bool.and_eq_false_imp, decide_eq_true_eq, decide_eq_false_iff_not]
  omega

end Text

open Text

/-! ## §2. The texts of values are trimmed. -/

theorem trimmed_toString (n : Int) : Trimmed (toString n).toList := by
  have hdigits : ∀ m : Nat, ∀ c ∈ Nat.toDigits 10 m, isBlank c = false := fun m c hc =>
    isBlank_of_isDigit (Nat.isDigit_of_mem_toDigits (by decide) (by decide) hc)
  rw [Int.toString_eq_repr, Int.repr_eq_if]
  split
  · rw [Nat.toList_repr]
    exact .of_forall Nat.toDigits_ne_nil (hdigits _)
  · rw [String.toList_append, Nat.toList_repr]
    refine .of_forall (List.cons_ne_nil _ _) fun c hc => ?_
    rcases List.mem_cons.1 hc with rfl | hc
    · decide
    · exact hdigits _ c hc

/-- An item writes no white space, unless its character is white space. -/
theorem isBlank_of_mem_item {item : Item} {p : Parts} {c : Char}
    (hitem : ∀ x, item = .character x → isBlank x = false) (h : c ∈ item.write p) :
    isBlank c = false := by
  have hdigits : ∀ {count n : Nat}, c ∈ fixedDigits count n → isBlank c = false := fun hc =>
    isBlank_of_isDigit (isDigit_of_mem_fixedDigits hc)
  cases item with
  | year =>
      rcases List.mem_append.1 h with h | h
      · split at h
        · rw [List.mem_singleton.1 h]
          decide
        · cases h
      · exact hdigits h
  | month | day | hour | minute | second | fraction => exact hdigits h
  | character x =>
      rw [List.mem_singleton.1 h]
      exact hitem x rfl

/-- A text in a layout without white space is trimmed. -/
theorem trimmed_write {layout : List Item} {p : Parts} (hne : write layout p ≠ [])
    (h : ∀ x, .character x ∈ layout → isBlank x = false) : Trimmed (write layout p) := by
  refine .of_forall hne fun c hc => ?_
  obtain ⟨item, hitem, hc⟩ := List.mem_flatMap.1 hc
  exact isBlank_of_mem_item (fun x hx => h x (hx ▸ hitem)) hc

theorem trimmed_date (p : Parts) : Trimmed (write dateLayout p) := by
  refine trimmed_write ?_ (by simp [dateLayout]; decide)
  simp [dateLayout, write_cons, Item.write]

theorem trimmed_time (p : Parts) : Trimmed (write fractionLayout p) := by
  refine trimmed_write ?_ ?_
  · simp [fractionLayout, secondLayout, minuteLayout, write_cons, Item.write]
  · simp [fractionLayout, secondLayout, minuteLayout]
    decide

/-! ## §3. Reading. -/

namespace NativeType

/-- **The type reads a text as a value**, whatever white space surrounds the text. -/
def Reads (type : NativeType) (text : String) (v : Value) : Prop :=
  ∀ before after : String, (∀ c ∈ before.toList, isBlank c = true) →
    (∀ c ∈ after.toList, isBlank c = true) → type.parse (before ++ text ++ after) = .ok v

/-- **A type that looks at the trimmed text alone** reads what is trimmed. -/
theorem reads_of_trimmed {type : NativeType} {text : String} {v : Value}
    (htext : Trimmed text.toList)
    (hparse : ∀ s : String, trim s.toList = text.toList → type.parse s = .ok v) :
    type.Reads text v := by
  intro before after hbefore hafter
  refine hparse _ ?_
  rw [String.toList_append, String.toList_append]
  exact htext.trim_eq hbefore hafter

theorem reads_integer (n : Int64) :
    (integer .int64).Reads (toString n.toInt) (.int64 (some n)) := by
  refine reads_of_trimmed (trimmed_toString _) fun s hs => ?_
  have hread : parseInteger .int64 s = .ok n := by
    unfold parseInteger
    simp only [hs, readInt?_toString, IntegerType.holds_toInt, IntegerType.check_toInt, if_true]
  rw [parse, hread]
  rfl

theorem reads_boolean (b : Bool) :
    boolean.Reads (if b then "true" else "false") (.boolean (some b)) := by
  refine reads_of_trimmed ?_ fun s hs => ?_
  · cases b with
    | true => exact ⟨⟨'t', ['r', 'u', 'e'], rfl, rfl⟩, ⟨['t', 'r', 'u'], 'e', rfl, rfl⟩⟩
    | false => exact ⟨⟨'f', ['a', 'l', 's', 'e'], rfl, rfl⟩, ⟨['f', 'a', 'l', 's'], 'e', rfl, rfl⟩⟩
  · have hread : parseBoolean s = .ok b := by
      unfold parseBoolean
      simp only [hs, String.ofList_toList]
      cases b with
      | true => rfl
      | false => rfl
    rw [parse, hread]
    rfl

theorem reads_date (d : Date) : date.Reads d.text (.date (some d)) := by
  refine reads_of_trimmed ?_ fun s hs => ?_
  · rw [Date.text, String.toList_ofList]
    exact trimmed_date _
  · have hread : parseDate s = .ok d := by
      unfold parseDate
      rw [hs, d.read?_text]
    rw [parse, hread]
    rfl

theorem reads_time (t : TimeOfDay) : time.Reads t.text (.time (some t.toMicrosecond)) := by
  refine reads_of_trimmed ?_ fun s hs => ?_
  · rw [TimeOfDay.text, String.toList_ofList]
    exact trimmed_time _
  · have hread : parseTime s = .ok t.toMicrosecond := by
      unfold parseTime
      simp only [hs, t.read?_text]
    rw [parse, hread]
    rfl

theorem reads_timestamp (m : Moment) :
    timestamp.Reads m.text (.timestamp (some m.toMicrosecond)) := by
  refine reads_of_trimmed ?_ fun s hs => ?_
  · rw [m.toList_text, List.append_cons]
    exact (trimmed_date _).append [' '] (trimmed_time _)
  · have hread : parseMoment s = .ok m.toMicrosecond := by
      unfold parseMoment
      simp only [hs, m.read?_text]
    rw [parse, hread]
    rfl

end NativeType

/-- **Values read back from their text.**  Every integer of 64 bits, every truth value and
every date has a text that its type reads as that very value, and every time of day and
every moment one that is read as the value in whole microseconds, whatever white space
surrounds the text.  The text of a moment reads in the layout that it is written in and in
none of the others that are tried, nor as a date. -/
theorem text_reads_back :
    (∀ n : Int64, ∃ text, (Value.int64 (some n)).text? = some text
      ∧ (NativeType.integer .int64).Reads text (.int64 (some n)))
    ∧ (∀ b : Bool, ∃ text, (Value.boolean (some b)).text? = some text
      ∧ NativeType.boolean.Reads text (.boolean (some b)))
    ∧ (∀ d : Date, ∃ text, (Value.date (some d)).text? = some text
      ∧ NativeType.date.Reads text (.date (some d)))
    ∧ (∀ t : TimeOfDay, ∃ text, (Value.time (some t)).text? = some text
      ∧ NativeType.time.Reads text (.time (some t.toMicrosecond)))
    ∧ ∀ m : Moment, ∃ text, (Value.timestamp (some m)).text? = some text
      ∧ NativeType.timestamp.Reads text (.timestamp (some m.toMicrosecond))
      ∧ (∀ layout ∈ momentLayouts, (Moment.readIn? layout text.toList).isSome
          ↔ layout = momentLayout ' ' fractionLayout)
      ∧ Date.read? text.toList = none := by
  refine ⟨fun n => ⟨_, rfl, NativeType.reads_integer n⟩,
    fun b => ⟨_, rfl, NativeType.reads_boolean b⟩, fun d => ⟨_, rfl, NativeType.reads_date d⟩,
    fun t => ⟨_, rfl, NativeType.reads_time t⟩, fun m => ⟨_, rfl, ?_⟩⟩
  exact ⟨NativeType.reads_timestamp m, fun layout h => m.readIn?_text_iff h, m.not_date⟩

namespace Sample

/-- A moment on the ides of March, before the year zero. -/
def ides : Moment :=
  ⟨⟨-44, 3, 15, by decide⟩, ⟨12, 30, 0, 123456789, by decide⟩⟩

end Sample

open Sample in
/-- Its text is read back down to the microsecond. -/
theorem ides_read_back : NativeType.timestamp.parse "\t -0044-03-15 12:30:00.123456\n"
    = .ok (.timestamp (some ⟨ides.date, ⟨12, 30, 0, 123456000, by decide⟩⟩)) := by
  obtain ⟨text, htext, hreads, -⟩ := text_reads_back.2.2.2.2 ides
  obtain rfl : "-0044-03-15 12:30:00.123456" = text := Option.some.inj htext
  exact hreads "\t " "\n" (List.all_eq_true.1 rfl) (List.all_eq_true.1 rfl)

end RecordMapper
