/-
  RecordMapper.Proofs.Calendar.Layouts
  ────────────────────────────────
  **DATES AND TIMES READ BACK FROM THEIR TEXT.**

  What one item writes it reads again, whatever stands behind it (`Item.read?_write`);
  only a fraction takes all the digits that it finds, so it has to be the last item.
  From this a text that is written in a layout is read in it (`readParts?_write`), and in
  a layout that begins alike but ends earlier or goes on otherwise it is not.

  Main results: `Date.read?_text`, `TimeOfDay.read?_text`, `Moment.read?_text` and
  `Moment.readIn?_text_iff`.
-/
import RecordMapper.Calendar.Layout
import RecordMapper.Proofs.Number.Digits

namespace RecordMapper.Calendar

open RecordMapper.Number

/-! ## §1. Parts that fit their digits. -/

/-- **The parts fit** the digits that a layout gives them. -/
structure Parts.Fits (p : Parts) : Prop where
  year : p.year.natAbs < tenTo 4
  month : p.month < tenTo 2
  day : p.day < tenTo 2
  hour : p.hour < tenTo 2
  minute : p.minute < tenTo 2
  second : p.second < tenTo 2
  nanosecond : p.nanosecond < tenTo 9

theorem daysInMonth_le (year : Int) (month : Nat) : daysInMonth year month ≤ 31 := by
  unfold daysInMonth
  grind

/-- A month that has a day is one of twelve. -/
theorem month_le_of_day {year : Int} {month day : Nat} (h : 1 ≤ day)
    (hday : day ≤ daysInMonth year month) : month ≤ 12 := by
  unfold daysInMonth at hday
  grind

theorem Date.bounds (d : Date) :
    -9999 ≤ d.year ∧ d.year ≤ 9999 ∧ d.month ≤ 12 ∧ d.day ≤ 31 := by
  have hvalid := d.valid
  simp only [isDate, Bool.and_eq_true, decide_eq_true_eq] at hvalid
  obtain ⟨⟨⟨hleast, hgreatest⟩, hfirst⟩, hlast⟩ := hvalid
  have hmonth := daysInMonth_le d.year d.month
  exact ⟨hleast, hgreatest, month_le_of_day hfirst hlast, by omega⟩

theorem TimeOfDay.bounds (t : TimeOfDay) :
    t.hour < 24 ∧ t.minute < 60 ∧ t.second < 60 ∧ t.nanosecond < 1000000000 := by
  have hvalid := t.valid
  simp only [isTimeOfDay, Bool.and_eq_true, decide_eq_true_eq] at hvalid
  obtain ⟨⟨⟨hhour, hminute⟩, hsecond⟩, hnanosecond⟩ := hvalid
  exact ⟨hhour, hminute, hsecond, hnanosecond⟩

theorem Moment.parts_fits (m : Moment) : m.parts.Fits := by
  obtain ⟨hleast, hgreatest, hmonth, hday⟩ := m.date.bounds
  obtain ⟨hhour, hminute, hsecond, hnanosecond⟩ := m.time.bounds
  refine ⟨?_, ?_, ?_, ?_, ?_, ?_, hnanosecond⟩
  · show m.date.year.natAbs < 10000
    omega
  · exact Nat.lt_of_le_of_lt hmonth (by decide)
  · exact Nat.lt_of_le_of_lt hday (by decide)
  · exact Nat.lt_trans hhour (by decide)
  · exact Nat.lt_trans hminute (by decide)
  · exact Nat.lt_trans hsecond (by decide)

/-- The parts of a date are those of the moment at which it begins. -/
theorem Date.parts_fits (d : Date) : d.parts.Fits :=
  d.atMidnight.parts_fits

theorem TimeOfDay.parts_fits (t : TimeOfDay) : t.parts.Fits := by
  obtain ⟨hhour, hminute, hsecond, hnanosecond⟩ := t.bounds
  have hyear : (0 : Int).natAbs < tenTo 4 := by decide
  have hzero : 0 < tenTo 2 := by decide
  refine ⟨hyear, hzero, hzero, ?_, ?_, ?_, hnanosecond⟩
  · exact Nat.lt_trans hhour (by decide)
  · exact Nat.lt_trans hminute (by decide)
  · exact Nat.lt_trans hsecond (by decide)

/-! ## §2. Digits. -/

theorem readDigits?_append {cs : List Char} (h : ∀ c ∈ cs, c.isDigit = true) (tail : List Char) :
    readDigits? cs.length (cs ++ tail) = some (digitsOf cs, tail) := by
  induction cs with
  | nil => rfl
  | cons c cs ih =>
      rw [List.length_cons, List.cons_append, readDigits?, digit?_of_isDigit (h c List.mem_cons_self),
        ih fun c' hc' => h c' (List.mem_cons_of_mem _ hc')]
      rfl

/-- **A number with a fixed count of digits** reads back, whatever stands behind it. -/
theorem readNumber?_fixedDigits {count n : Nat} (h : n < tenTo count) (tail : List Char) :
    readNumber? count (fixedDigits count n ++ tail) = some (n, tail) := by
  have hdigits : ∀ c ∈ fixedDigits count n, c.isDigit = true := fun c hc =>
    isDigit_of_mem_fixedDigits hc
  have hread := readDigits?_append hdigits tail
  rw [length_fixedDigits] at hread
  simp only [readNumber?, hread, Option.map_some, ofDigits_fixedDigits, Nat.mod_eq_of_lt h]

/-- The six digits of a fraction count whole microseconds. -/
theorem nanoseconds_fixedDigits {n : Nat} (h : n < tenTo 6) :
    nanoseconds (digitsOf (fixedDigits 6 n)) = n * 1000 := by
  have hlength : (digitsOf (fixedDigits 6 n)).length = 6 := by
    rw [digitsOf, List.length_map, length_fixedDigits]
  unfold nanoseconds
  rw [List.take_of_length_le (by omega), hlength, ofDigits_fixedDigits, Nat.mod_eq_of_lt h]
  rfl

/-! ## §3. Items and layouts. -/

/-- **What reading takes over** from the parts that an item was written from.  A fraction
is written down to the microsecond. -/
def Item.copy (written : Parts) (into : Parts) : Item → Parts
  | .year => { into with year := written.year }
  | .month => { into with month := written.month }
  | .day => { into with day := written.day }
  | .hour => { into with hour := written.hour }
  | .minute => { into with minute := written.minute }
  | .second => { into with second := written.second }
  | .fraction => { into with nanosecond := written.nanosecond / 1000 * 1000 }
  | .character _ => into

variable {p : Parts}

/-- Digits have no sign in front. -/
theorem splitSign_fixedDigits (count n : Nat) (tail : List Char) :
    splitSign (fixedDigits (count + 1) n ++ tail) = (false, fixedDigits (count + 1) n ++ tail) := by
  obtain ⟨c, cs, hcons⟩ := exists_fixedDigits_cons count n
  have hc : c ∈ fixedDigits (count + 1) n := hcons ▸ List.mem_cons_self
  rw [hcons]
  exact splitSign_of_isDigit (isDigit_of_mem_fixedDigits hc)

/-- A year is read with its sign. -/
theorem read?_write_year (hp : p.Fits) (into : Parts) (tail : List Char) :
    Item.year.read? into (Item.year.write p ++ tail) = some (Item.year.copy p into, tail) := by
  have hread := readNumber?_fixedDigits hp.year tail
  by_cases hyear : p.year < 0
  · have hminus : splitSign (Item.year.write p ++ tail)
        = (true, fixedDigits 4 p.year.natAbs ++ tail) := by
      simp only [Item.write, if_pos hyear]
      rfl
    have hvalue : -(p.year.natAbs : Int) = p.year := by omega
    simp only [Item.read?, hminus, hread]
    show some ({ into with year := -(p.year.natAbs : Int) }, tail) = _
    rw [hvalue]
    rfl
  · have hplain : splitSign (Item.year.write p ++ tail)
        = (false, fixedDigits 4 p.year.natAbs ++ tail) := by
      simp only [Item.write, if_neg hyear]
      exact splitSign_fixedDigits 3 _ tail
    have hvalue : (p.year.natAbs : Int) = p.year := by omega
    simp only [Item.read?, hplain, hread]
    show some ({ into with year := (p.year.natAbs : Int) }, tail) = _
    rw [hvalue]
    rfl

/-- **An item reads what it wrote**, and leaves what stands behind it. -/
theorem Item.read?_write (hp : p.Fits) {item : Item} (hitem : item ≠ .fraction) (into : Parts)
    (tail : List Char) :
    item.read? into (item.write p ++ tail) = some (item.copy p into, tail) := by
  cases item with
  | year => exact read?_write_year hp into tail
  | month =>
      simp only [read?, write, readNumber?_fixedDigits hp.month]
      rfl
  | day =>
      simp only [read?, write, readNumber?_fixedDigits hp.day]
      rfl
  | hour =>
      simp only [read?, write, readNumber?_fixedDigits hp.hour]
      rfl
  | minute =>
      simp only [read?, write, readNumber?_fixedDigits hp.minute]
      rfl
  | second =>
      simp only [read?, write, readNumber?_fixedDigits hp.second]
      rfl
  | fraction => exact absurd rfl hitem
  | character c => exact if_pos rfl

/-- A fraction reads what it wrote, when nothing stands behind it. -/
theorem Item.read?_write_fraction (hp : p.Fits) (into : Parts) :
    Item.fraction.read? into (Item.fraction.write p) = some (Item.fraction.copy p into, []) := by
  have hmicrosecond : p.nanosecond / 1000 < tenTo 6 := by
    have hnanosecond : p.nanosecond < 1000000000 := hp.nanosecond
    show _ < 1000000
    omega
  have hdigits : ∀ c ∈ fixedDigits 6 (p.nanosecond / 1000), c.isDigit = true := fun c hc =>
    isDigit_of_mem_fixedDigits hc
  have hspan : spanDigits (fixedDigits 6 (p.nanosecond / 1000) ++ [])
      = (digitsOf (fixedDigits 6 (p.nanosecond / 1000)), []) :=
    spanDigits_append hdigits (by simp)
  rw [List.append_nil] at hspan
  have hvalue := nanoseconds_fixedDigits hmicrosecond
  -- There are six digits, so the run is not empty.
  obtain ⟨c, cs, hcons⟩ := exists_fixedDigits_cons 5 (p.nanosecond / 1000)
  rw [hcons] at hspan hvalue
  simp only [read?, write, hcons, hspan, digitsOf, List.map_cons] at hvalue ⊢
  rw [hvalue]
  rfl

/-- What reading a layout takes over from the parts that it was written from. -/
def copyAll (layout : List Item) (written into : Parts) : Parts :=
  layout.foldl (fun into item => item.copy written into) into

theorem copyAll_append (layout more : List Item) (written into : Parts) :
    copyAll (layout ++ more) written into = copyAll more written (copyAll layout written into) :=
  List.foldl_append

theorem write_append (layout more : List Item) (p : Parts) :
    write (layout ++ more) p = write layout p ++ write more p :=
  List.flatMap_append

theorem write_cons (item : Item) (layout : List Item) (p : Parts) :
    write (item :: layout) p = item.write p ++ write layout p :=
  List.flatMap_cons

/-- **A layout reads what it wrote** as far as it has no fraction, and what follows is
read from there. -/
theorem readParts?_append (hp : p.Fits) {layout : List Item} (hlayout : .fraction ∉ layout)
    (more : List Item) (into : Parts) (tail : List Char) :
    readParts? (layout ++ more) into (write layout p ++ tail)
      = readParts? more (copyAll layout p into) tail := by
  induction layout generalizing into with
  | nil => rfl
  | cons item layout ih =>
      rw [List.mem_cons, not_or] at hlayout
      obtain ⟨hitem, hlayout⟩ := hlayout
      rw [List.cons_append, readParts?, write_cons, List.append_assoc,
        item.read?_write hp (Ne.symm hitem)]
      exact ih hlayout _

/-- A layout without a fraction reads what it wrote. -/
theorem readParts?_write (hp : p.Fits) {layout : List Item} (hlayout : .fraction ∉ layout)
    (into : Parts) : readParts? layout into (write layout p) = some (copyAll layout p into) := by
  have hread := readParts?_append hp hlayout [] into []
  rw [List.append_nil, List.append_nil] at hread
  exact hread

/-- A layout that ends in a fraction reads what it wrote. -/
theorem readParts?_write_fraction (hp : p.Fits) {layout : List Item}
    (hlayout : .fraction ∉ layout) (into : Parts) :
    readParts? (layout ++ [.fraction]) into (write (layout ++ [.fraction]) p)
      = some (copyAll (layout ++ [.fraction]) p into) := by
  have hfraction : write [.fraction] p = Item.fraction.write p := List.append_nil _
  rw [write_append, readParts?_append hp hlayout, hfraction, readParts?,
    Item.read?_write_fraction hp, copyAll_append]
  rfl

/-- A text that goes on where the layout ends is not read. -/
theorem readParts?_of_longer (hp : p.Fits) {layout : List Item} (hlayout : .fraction ∉ layout)
    (into : Parts) (c : Char) (tail : List Char) :
    readParts? layout into (write layout p ++ c :: tail) = none := by
  have hread := readParts?_append hp hlayout [] into (c :: tail)
  rw [List.append_nil] at hread
  exact hread

/-- A text that goes on with another character than the layout is not read. -/
theorem readParts?_of_apart (hp : p.Fits) {layout : List Item} (hlayout : .fraction ∉ layout)
    {x c : Char} (hc : c ≠ x) (more : List Item) (into : Parts) (tail : List Char) :
    readParts? (layout ++ .character x :: more) into (write layout p ++ c :: tail) = none := by
  rw [readParts?_append hp hlayout, readParts?, Item.read?, if_neg hc]
  rfl

/-! ## §4. Dates, times of day and moments. -/

theorem Date.date?_parts (d : Date) : d.parts.date? = some d :=
  dif_pos d.valid

/-- **Every date reads back from its text.** -/
theorem Date.read?_text (d : Date) : Date.read? d.text.toList = some d := by
  have hlayout : Item.fraction ∉ dateLayout := by decide
  rw [Date.text, String.toList_ofList, Date.read?, readParts?_write d.parts_fits hlayout]
  exact d.date?_parts

/-- **A time of day in whole microseconds**, what is left of one cut off. -/
def TimeOfDay.toMicrosecond (t : TimeOfDay) : TimeOfDay where
  hour := t.hour
  minute := t.minute
  second := t.second
  nanosecond := t.nanosecond / 1000 * 1000
  valid := by
    obtain ⟨hhour, hminute, hsecond, hnanosecond⟩ := t.bounds
    have hcut : t.nanosecond / 1000 * 1000 < 1000000000 := by omega
    simp [isTimeOfDay, hhour, hminute, hsecond, hcut]

/-- A moment in whole microseconds. -/
def Moment.toMicrosecond (m : Moment) : Moment :=
  ⟨m.date, m.time.toMicrosecond⟩

theorem TimeOfDay.time?_parts (t : TimeOfDay) : t.parts.time? = some t :=
  dif_pos t.valid

/-- A fraction is written behind a point. -/
theorem fractionLayout_eq :
    fractionLayout = (secondLayout ++ [.character '.']) ++ [.fraction] := rfl

/-- **Every time of day reads back from its text**, in the first layout that is tried. -/
theorem TimeOfDay.read?_text (t : TimeOfDay) :
    TimeOfDay.read? t.text.toList = some t.toMicrosecond := by
  have hlayout : Item.fraction ∉ secondLayout ++ [.character '.'] := by decide
  have hread := readParts?_write_fraction t.parts_fits hlayout Parts.zero
  rw [← fractionLayout_eq] at hread
  have htime : (some (copyAll fractionLayout t.parts Parts.zero)).bind Parts.time?
      = some t.toMicrosecond := t.toMicrosecond.time?_parts
  rw [TimeOfDay.text, String.toList_ofList, TimeOfDay.read?, timeLayouts, List.findSome?_cons,
    hread, htime]

/-- A moment that is read in one layout. -/
def Moment.readIn? (layout : List Item) (cs : List Char) : Option Moment :=
  (readParts? layout Parts.zero cs).bind Parts.moment?

theorem Moment.moment?_parts (m : Moment) : m.parts.moment? = some m := by
  have hdate : m.parts.date? = some m.date := m.date.date?_parts
  have htime : m.parts.time? = some m.time := m.time.time?_parts
  unfold Parts.moment?
  rw [hdate, htime]
  rfl

/-- **The layout that a moment is written in reads it.** -/
theorem Moment.readIn?_text (m : Moment) :
    Moment.readIn? (momentLayout ' ' fractionLayout) m.text.toList = some m.toMicrosecond := by
  have hlayout : Item.fraction ∉ momentLayout ' ' (secondLayout ++ [.character '.']) := by decide
  have hread := readParts?_write_fraction m.parts_fits hlayout Parts.zero
  have hwhole : momentLayout ' ' fractionLayout
      = momentLayout ' ' (secondLayout ++ [.character '.']) ++ [.fraction] := rfl
  rw [← hwhole] at hread
  rw [Moment.text, String.toList_ofList, Moment.readIn?, hread]
  exact m.toMicrosecond.moment?_parts

/-- The text of a moment at a character of its layout. -/
theorem Moment.toList_text_eq (m : Moment) {layout more : List Item} {c : Char}
    (h : momentLayout ' ' fractionLayout = layout ++ .character c :: more) :
    m.text.toList = write layout m.parts ++ c :: write more m.parts := by
  rw [Moment.text, String.toList_ofList, h, write_append, write_cons]
  rfl

/-- It begins with a date, and a space behind it. -/
theorem Moment.toList_text (m : Moment) :
    m.text.toList = write dateLayout m.parts ++ ' ' :: write fractionLayout m.parts :=
  m.toList_text_eq rfl

/-- **No other layout reads the text of a moment**: each of them ends before the fraction,
or has another character behind the date. -/
theorem Moment.readIn?_text_iff (m : Moment) {layout : List Item} (h : layout ∈ momentLayouts) :
    (Moment.readIn? layout m.text.toList).isSome ↔ layout = momentLayout ' ' fractionLayout := by
  have hfits := m.parts_fits
  have hother : ∀ time, Moment.readIn? (momentLayout 'T' time) m.text.toList = none := by
    intro time
    rw [m.toList_text, Moment.readIn?, momentLayout,
      readParts?_of_apart hfits (by decide) (by decide)]
    rfl
  have hshort : ∀ {layout more : List Item} {c : Char}, Item.fraction ∉ layout →
      momentLayout ' ' fractionLayout = layout ++ .character c :: more →
      Moment.readIn? layout m.text.toList = none := by
    intro layout more c hlayout hwhole
    rw [m.toList_text_eq hwhole, Moment.readIn?, readParts?_of_longer hfits hlayout]
    rfl
  have hsecond : Moment.readIn? (momentLayout ' ' secondLayout) m.text.toList = none :=
    hshort (by decide) rfl
  have hminute : Moment.readIn? (momentLayout ' ' minuteLayout) m.text.toList = none :=
    hshort (by decide) rfl
  simp only [momentLayouts, List.mem_cons, List.not_mem_nil, or_false] at h
  rcases h with rfl | rfl | rfl | rfl | rfl
  · simp [m.readIn?_text]
  · rw [hsecond]
    decide
  · rw [hother]
    decide
  · rw [hother]
    decide
  · rw [hminute]
    decide

/-- It is not read as a date. -/
theorem Moment.not_date (m : Moment) : Date.read? m.text.toList = none := by
  have hlayout : Item.fraction ∉ dateLayout := by decide
  rw [m.toList_text, Date.read?, readParts?_of_longer m.parts_fits hlayout]
  rfl

/-- **Every moment reads back from its text**, in the first layout that is tried. -/
theorem Moment.read?_text (m : Moment) :
    Moment.read? m.text.toList = some m.toMicrosecond := by
  have hread : (readParts? (momentLayout ' ' fractionLayout) Parts.zero m.text.toList).bind
      Parts.moment? = some m.toMicrosecond := m.readIn?_text
  rw [Moment.read?, momentLayouts, List.findSome?_cons, hread]
  rfl

end RecordMapper.Calendar
