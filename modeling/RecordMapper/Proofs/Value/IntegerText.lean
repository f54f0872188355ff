/-
  RecordMapper.Proofs.Value.IntegerText
  ────────────────────────────────
  **WHICH TEXTS ARE READ AS INTEGERS.**

  An integer is written with an optional sign and at least one digit.  Reading takes an
  optional sign and all the digits behind it, and asks whether that was the whole text;
  nothing asks whether there was a digit.  So a sign alone is read as well, as zero.

  Every text begins in one way with a sign, digits and something else (`Begins`), and both
  readers follow it: the one of this library, and one that counts the bytes that a scanner
  has read.

  Main results:
    • `readInt?_eq_some_iff` — which texts are read, and as what;
    • `Scanner.parse_eq` — counting bytes comes to the same;
    • `integer_text_read_iff` — the conversions of text to the integer types.
-/
import Mathlib.Data.String.Basic
import RecordMapper.Conversion
import RecordMapper.Proofs.Number.Digits
import RecordMapper.Proofs.Outcome

namespace RecordMapper

namespace Number

/-! ## §1. Written integers. -/

/-- **An optional sign**, and whether it is a minus. -/
inductive IsSign : List Char → Bool → Prop
  | absent : IsSign [] false
  | plus : IsSign ['+'] false
  | minus : IsSign ['-'] true

/-- The number that a sign and digits denote. -/
def signedValue (negative : Bool) (digits : List Char) : Int :=
  if negative then -(Nat.ofDigitChars 10 digits 0 : Int) else Nat.ofDigitChars 10 digits 0

/-- **The text writes the integer**: an optional sign, and then digits to the end, at least
one of them. -/
def WritesInteger (cs : List Char) (n : Int) : Prop :=
  ∃ sign negative digits, IsSign sign negative ∧ cs = sign ++ digits ∧ digits ≠ []
    ∧ (∀ c ∈ digits, c.isDigit = true) ∧ n = signedValue negative digits

/-- **A sign alone**, without a digit. -/
def IsLoneSign (cs : List Char) : Prop :=
  cs = ['+'] ∨ cs = ['-']

instance (cs : List Char) : Decidable (IsLoneSign cs) :=
  inferInstanceAs (Decidable (_ ∨ _))

theorem not_writesInteger_of_isLoneSign {cs : List Char} (h : IsLoneSign cs) (n : Int) :
    ¬ WritesInteger cs n := by
  rintro ⟨sign, negative, digits, hsign, hcs, hne, hdigits, -⟩
  -- The sign would have to be a digit when it is not the sign.
  have hnot : ∀ c : Char, c = '+' ∨ c = '-' → c ∉ digits := by
    rintro c (rfl | rfl) hc
    all_goals exact absurd (hdigits _ hc) (by decide)
  rcases h with rfl | rfl
  all_goals
    cases hsign with
    | absent => exact hnot _ (by simp) (hcs ▸ List.mem_cons_self)
    | plus | minus => simp_all

/-! ## §2. How a text begins. -/

/-- **What stands in front of a text**: a sign and as many digits as there are. -/
structure Begins (cs sign digits tail : List Char) (negative : Bool) : Prop where
  isSign : IsSign sign negative
  eq : cs = sign ++ digits ++ tail
  areDigits : ∀ c ∈ digits, c.isDigit = true
  /-- The digits end where the next character is none. -/
  ends : ∀ c ∈ tail.head?, c.isDigit = false
  /-- There is no sign only where the text does not begin with one. -/
  unsigned : sign = [] → ∀ c ∈ (digits ++ tail).head?, c ≠ '+' ∧ c ≠ '-'

/-- **Every text begins with a sign and digits**, if only with none. -/
theorem exists_begins (cs : List Char) :
    ∃ sign digits tail negative, Begins cs sign digits tail negative := by
  -- Behind the sign the digits are taken greedily.
  have hsplit : ∀ sign negative (rest : List Char), IsSign sign negative → cs = sign ++ rest →
      (sign = [] → ∀ c ∈ rest.head?, c ≠ '+' ∧ c ≠ '-') →
      ∃ sign digits tail negative, Begins cs sign digits tail negative := by
    intro sign negative rest hsign hcs hunsigned
    have hrest : rest.takeWhile Char.isDigit ++ rest.dropWhile Char.isDigit = rest :=
      List.takeWhile_append_dropWhile
    refine ⟨sign, rest.takeWhile Char.isDigit, rest.dropWhile Char.isDigit, negative, hsign, ?_,
      List.all_eq_true.1 List.all_takeWhile, ?_, ?_⟩
    · rw [List.append_assoc, hrest, hcs]
    · intro c hc
      have hhead := List.head?_dropWhile_not Char.isDigit rest
      rw [Option.mem_def.1 hc] at hhead
      exact hhead
    · rw [hrest]
      exact hunsigned
  cases cs with
  | nil => exact hsplit [] false [] .absent rfl (by simp)
  | cons c rest =>
      by_cases hplus : c = '+'
      · subst hplus
        exact hsplit ['+'] false rest .plus rfl (by simp)
      by_cases hminus : c = '-'
      · subst hminus
        exact hsplit ['-'] true rest .minus rfl (by simp)
      · refine hsplit [] false (c :: rest) .absent rfl fun _ c' hc' => ?_
        obtain rfl := Option.some.inj hc'
        exact ⟨hplus, hminus⟩

namespace Begins

variable {cs sign digits tail : List Char} {negative : Bool}

theorem splitSign_eq (h : Begins cs sign digits tail negative) :
    splitSign cs = (negative, digits ++ tail) := by
  obtain ⟨hsign, rfl, -, -, hunsigned⟩ := h
  rw [List.append_assoc]
  cases hsign with
  | plus | minus => rfl
  | absent =>
      have hhead := hunsigned rfl
      rw [List.nil_append]
      unfold splitSign
      split
      · rename_i rest heq
        rw [heq] at hhead
        exact absurd rfl (hhead '+' rfl).1
      · rename_i rest heq
        rw [heq] at hhead
        exact absurd rfl (hhead '-' rfl).2
      · rfl

/-- **Reading** takes the number in front when nothing stands behind it, and there is a text
at all. -/
theorem readInt?_eq (h : Begins cs sign digits tail negative) :
    readInt? cs = if cs = [] ∨ tail ≠ [] then none else some (signedValue negative digits) := by
  unfold readInt? signedValue
  simp only [h.splitSign_eq, spanDigits_append h.areDigits h.ends, ofDigits_digitsOf]
  by_cases hcs : cs = [] <;> by_cases htail : tail = [] <;> simp [hcs, htail]

end Begins

/-- **Which texts are read**: written integers, as what they denote, and a sign alone, as
zero. -/
theorem readInt?_eq_some_iff {cs : List Char} {n : Int} :
    readInt? cs = some n ↔ WritesInteger cs n ∨ IsLoneSign cs ∧ n = 0 := by
  constructor
  · intro hread
    obtain ⟨sign, digits, tail, negative, hbegins⟩ := exists_begins cs
    rw [hbegins.readInt?_eq] at hread
    obtain ⟨hsome, hn⟩ := Option.ite_none_left_eq_some.1 hread
    obtain ⟨hne, htail⟩ : cs ≠ [] ∧ tail = [] := by simpa using hsome
    obtain rfl := Option.some.inj hn
    have hcs := hbegins.eq
    rw [htail, List.append_nil] at hcs
    by_cases hdigits : digits = []
    -- Without digits there is a sign, since there is a text.
    · subst hdigits
      rw [List.append_nil] at hcs
      refine .inr ⟨?_, by cases negative <;> rfl⟩
      cases hbegins.isSign with
      | absent => exact absurd hcs hne
      | plus => exact .inl hcs
      | minus => exact .inr hcs
    · exact .inl ⟨sign, negative, digits, hbegins.isSign, hcs, hdigits, hbegins.areDigits, rfl⟩
  · rintro (⟨sign, negative, digits, hsign, rfl, hne, hdigits, rfl⟩ | ⟨rfl | rfl, rfl⟩)
    · have hunsigned : ∀ c ∈ (digits ++ []).head?, c ≠ '+' ∧ c ≠ '-' := by
        intro c hc
        have hdigit := hdigits c (List.mem_of_mem_head? (by simpa using hc))
        constructor <;> rintro rfl <;> exact absurd hdigit (by decide)
      have hbegins : Begins (sign ++ digits) sign digits [] negative :=
        ⟨hsign, (List.append_nil _).symm, hdigits, by simp, fun _ => hunsigned⟩
      rw [hbegins.readInt?_eq, if_neg]
      simp [hne]
    · rfl
    · rfl

/-! ## §3. Reading by a count of bytes. -/

/-- **A scanner** reads a number in front of a text, and tells how many bytes it has read. -/
abbrev Scanner := List Char → Int × Nat

/-- **The digits fit 64 bits**: so does the number in front of the text. -/
def DigitsFit (cs : List Char) : Prop :=
  ∀ sign digits tail negative, Begins cs sign digits tail negative →
    IntegerType.int64.holds (signedValue negative digits) = true

/-- **What is documented of a scanner**: it reads an optional sign and then digits, as far as
the number fits 64 bits.  A sign and each digit is one byte. -/
def Scanner.Documented (scan : Scanner) : Prop :=
  ∀ cs sign digits tail negative, Begins cs sign digits tail negative →
    IntegerType.int64.holds (signedValue negative digits) = true →
    scan cs = (signedValue negative digits, sign.length + digits.length)

theorem utf8Size_of_isDigit {c : Char} (h : c.isDigit = true) : c.utf8Size = 1 := by
  have hbounds : 48 ≤ c.val ∧ c.val ≤ 57 := by simpa [Char.isDigit] using h
  exact Char.utf8Size_eq_one_iff.2 (UInt32.le_trans hbounds.2 (by decide))

/-- Characters of one byte each are counted by their bytes. -/
theorem utf8Len_eq_length {cs : List Char} (h : ∀ c ∈ cs, c.utf8Size = 1) :
    String.utf8Len cs = cs.length := by
  induction cs with
  | nil => rfl
  | cons c cs ih =>
      have hc := h c List.mem_cons_self
      rw [String.utf8Len_cons, ih fun c' hc' => h c' (List.mem_cons_of_mem _ hc'), hc, List.length_cons]

/-- The bytes of a text are those of its sign and digits, and those behind them. -/
theorem Begins.utf8Len_eq {cs sign digits tail : List Char} {negative : Bool}
    (h : Begins cs sign digits tail negative) :
    String.utf8Len cs = sign.length + digits.length + String.utf8Len tail := by
  have hbytes : ∀ c ∈ sign ++ digits, c.utf8Size = 1 := by
    intro c hc
    rcases List.mem_append.1 hc with hc | hc
    · cases h.isSign with
      | absent => cases hc
      | plus | minus => rw [List.mem_singleton.1 hc]; rfl
    · exact utf8Size_of_isDigit (h.areDigits c hc)
  rw [h.eq, String.utf8Len_append, utf8Len_eq_length hbytes, List.length_append]

end Number

open Number

/-- **Reading an integer by a count of bytes**: the scanner has to read something, and all of
the text. -/
def Number.Scanner.parse (scan : Scanner) (type : IntegerType) (text : String) :
    Except Failure Int64 :=
  let trimmed := Text.trim text.toList
  let (n, consumed) := scan trimmed
  if consumed = 0 ∨ consumed ≠ (String.ofList trimmed).utf8ByteSize then
    .error (.cannotParse (String.ofList trimmed) type.name)
  else type.check n

/-- **Counting bytes comes to the same** as reading the text to its end, where the digits fit
64 bits. -/
theorem Number.Scanner.parse_eq {scan : Scanner} (hscan : scan.Documented) (type : IntegerType)
    {text : String} (hfit : DigitsFit (Text.trim text.toList)) :
    scan.parse type text = parseInteger type text := by
  unfold Scanner.parse parseInteger
  generalize Text.trim text.toList = cs at hfit ⊢
  obtain ⟨sign, digits, tail, negative, hbegins⟩ := exists_begins cs
  have hholds := hfit _ _ _ _ hbegins
  have hbytes := hbegins.utf8Len_eq
  -- All of the text was read exactly when nothing is left, and nothing was read exactly when
  -- there is no text or it begins with something else.
  have hall : (sign.length + digits.length = 0
      ∨ sign.length + digits.length ≠ (String.ofList cs).utf8ByteSize)
      ↔ cs = [] ∨ tail ≠ [] := by
    have hnone : cs = [] ↔ String.utf8Len cs = 0 := String.utf8Len_eq_zero.symm
    have hrest : tail ≠ [] ↔ String.utf8Len tail ≠ 0 := not_congr String.utf8Len_eq_zero.symm
    rw [String.utf8ByteSize_ofList, hnone, hrest]
    omega
  simp only [hscan _ _ _ _ _ hbegins hholds, hbegins.readInt?_eq, hall]
  by_cases hread : cs = [] ∨ tail ≠ []
  · simp only [if_pos hread]
  · simp only [if_neg hread, hholds, if_true]

/-! ## §4. Conversion of text. -/

namespace IntegerType

variable {type : IntegerType} {n : Int}

theorem holds_int64 (h : type.holds n = true) : int64.holds n = true := by
  have hbounds : type.least ≤ n ∧ n ≤ type.greatest := by simpa [holds] using h
  have hwidest : int64.least ≤ type.least ∧ type.greatest ≤ int64.greatest := by
    cases type <;> decide
  simpa [holds] using ⟨Int.le_trans hwidest.1 hbounds.1, Int.le_trans hbounds.2 hwidest.2⟩

/-- A number passes when the type holds it. -/
theorem check_ok_iff {k : Int64} :
    type.check n = .ok k ↔ type.holds n = true ∧ k.toInt = n := by
  unfold check
  by_cases hholds : type.holds n = true
  · have hbounds : int64.least ≤ n ∧ n ≤ int64.greatest := by
      simpa [holds] using holds_int64 hholds
    have hleast : -2 ^ 63 ≤ n := hbounds.1
    have hgreatest : n < 2 ^ 63 := Int.lt_of_le_of_lt hbounds.2 (by decide)
    have hsame : (Int64.ofInt n).toInt = n := Int64.toInt_ofInt_of_le hleast hgreatest
    rw [if_pos hholds]
    constructor
    · intro hk
      exact ⟨hholds, Except.ok.inj hk ▸ hsame⟩
    · rintro ⟨-, rfl⟩
      rw [Int64.ofInt_toInt]
  · rw [if_neg hholds]
    exact ⟨nofun, fun h => absurd h.1 hholds⟩

end IntegerType

variable {type : IntegerType} {text : String}

/-- A text is read as a number of the type when it reads as that number. -/
theorem parseInteger_ok_iff {k : Int64} :
    parseInteger type text = .ok k
      ↔ readInt? (Text.trim text.toList) = some k.toInt ∧ type.holds k.toInt = true := by
  unfold parseInteger
  dsimp only
  cases readInt? (Text.trim text.toList) with
  | none => exact ⟨nofun, fun h => nomatch h.1⟩
  | some n =>
      dsimp only
      by_cases hword : IntegerType.int64.holds n = true
      · rw [if_pos hword, IntegerType.check_ok_iff]
        constructor
        · rintro ⟨hholds, rfl⟩
          exact ⟨rfl, hholds⟩
        · rintro ⟨hn, hholds⟩
          obtain rfl := Option.some.inj hn
          exact ⟨hholds, rfl⟩
      · rw [if_neg hword]
        refine ⟨nofun, ?_⟩
        rintro ⟨hn, hholds⟩
        obtain rfl := Option.some.inj hn
        exact absurd (IntegerType.holds_int64 hholds) hword

/-- A text value converts to what its text is read as. -/
theorem Value.toInteger_varchar {k : Int64} :
    (Value.varchar (some text)).toInteger type = .ok k ↔ parseInteger type text = .ok k := by
  have hconvert : (Value.varchar (some text)).toInteger type = .ok k
      ↔ ∃ m, parseInteger .int64 text = .ok m ∧ type.check m.toInt = .ok k := bind_ok
  rw [hconvert, parseInteger_ok_iff]
  constructor
  · rintro ⟨m, hm, hk⟩
    obtain ⟨hholds, hsame⟩ := IntegerType.check_ok_iff.1 hk
    obtain ⟨hread, -⟩ := parseInteger_ok_iff.1 hm
    rw [hsame]
    exact ⟨hread, hholds⟩
  · rintro ⟨hread, hholds⟩
    exact ⟨k, parseInteger_ok_iff.2 ⟨hread, IntegerType.holds_int64 hholds⟩,
      IntegerType.check_ok_iff.2 ⟨hholds, rfl⟩⟩

/-- **The type accepts a text just as these numbers**: it is read and converted as a number
that the type holds, when the number is one of these, and otherwise refused. -/
def IntegerType.AcceptsJust (type : IntegerType) (text : String) (numbers : Int → Prop) : Prop :=
  ∀ v, ((NativeType.integer type).parse text = .ok v
        ↔ ∃ k : Int64, v = .int64 (some k) ∧ numbers k.toInt ∧ type.holds k.toInt = true)
    ∧ ((NativeType.integer type).convert (.varchar (some text)) = .ok v
        ↔ ∃ k : Int64, v = .int64 (some k) ∧ numbers k.toInt ∧ type.holds k.toInt = true)

/-- **Which texts convert to an integer type.**  A text whose digits fit 64 bits is accepted,
the white space around it passed over, as the number of the type that it writes with an
optional sign and at least one digit, or as zero when it is a sign alone; every other text is
refused.  So exactly written integers are accepted if and only if the text is no lone sign.
Reading by a count of bytes, whatever scanner does it as documented, comes to the same. -/
theorem integer_text_read_iff (type : IntegerType) (text : String)
    (hfit : DigitsFit (Text.trim text.toList)) :
    (∀ scan : Scanner, scan.Documented → scan.parse type text = parseInteger type text)
      ∧ type.AcceptsJust text (fun n =>
        WritesInteger (Text.trim text.toList) n ∨ IsLoneSign (Text.trim text.toList) ∧ n = 0)
      ∧ (type.AcceptsJust text (WritesInteger (Text.trim text.toList))
        ↔ ¬ IsLoneSign (Text.trim text.toList)) := by
  have haccepts : type.AcceptsJust text fun n =>
      WritesInteger (Text.trim text.toList) n ∨ IsLoneSign (Text.trim text.toList) ∧ n = 0 := by
    intro v
    have hread : (∃ k, parseInteger type text = .ok k ∧ Value.int64 (some k) = v)
        ↔ ∃ k : Int64, v = .int64 (some k)
          ∧ (WritesInteger (Text.trim text.toList) k.toInt
            ∨ IsLoneSign (Text.trim text.toList) ∧ k.toInt = 0)
          ∧ type.holds k.toInt = true := by
      refine exists_congr fun k => ?_
      rw [parseInteger_ok_iff, readInt?_eq_some_iff, and_comm, eq_comm]
    refine ⟨Iff.trans ?_ hread, Iff.trans ?_ hread⟩
    · refine bind_ok.trans (exists_congr fun k => and_congr_right fun _ => pure_ok)
    · refine bind_ok.trans (exists_congr fun k => and_congr Value.toInteger_varchar pure_ok)
  refine ⟨fun scan hscan => Scanner.parse_eq hscan type hfit, haccepts, ?_, ?_⟩
  · intro hjust hlone
    have hzero : type.holds 0 = true := by
      cases type <;> decide
    -- The sign is accepted as zero, which it does not write.
    have hparsed := (haccepts (.int64 (some 0))).1.2 ⟨0, rfl, .inr ⟨hlone, rfl⟩, hzero⟩
    obtain ⟨k, -, hwrites, -⟩ := (hjust _).1.1 hparsed
    exact not_writesInteger_of_isLoneSign hlone _ hwrites
  · intro hlone v
    have hsame : ∀ n, (WritesInteger (Text.trim text.toList) n
        ∨ IsLoneSign (Text.trim text.toList) ∧ n = 0) ↔ WritesInteger (Text.trim text.toList) n :=
      fun n => or_iff_left fun h => hlone h.1
    simpa only [hsame] using haccepts v

namespace Sample

/-- A scanner that goes on reading where the digits no longer fit 64 bits. -/
def wideScanner : Scanner := fun cs =>
  let (negative, rest) := splitSign cs
  let (digits, tail) := spanDigits rest
  (if negative then -(ofDigits 0 digits : Int) else ofDigits 0 digits, cs.length - tail.length)

theorem wideScanner_reads {cs sign digits tail : List Char} {negative : Bool}
    (h : Begins cs sign digits tail negative) :
    wideScanner cs = (signedValue negative digits, sign.length + digits.length) := by
  have hlength : cs.length - tail.length = sign.length + digits.length := by
    rw [h.eq, List.length_append, List.length_append, Nat.add_sub_cancel]
  unfold wideScanner signedValue
  simp only [h.splitSign_eq, spanDigits_append h.areDigits h.ends, ofDigits_digitsOf, hlength]

theorem wideScanner_documented : wideScanner.Documented :=
  fun _ _ _ _ _ hbegins _ => wideScanner_reads hbegins

theorem digitsFit_of_wideScanner {cs : List Char}
    (h : IntegerType.int64.holds (wideScanner cs).1 = true) : DigitsFit cs := by
  intro sign digits tail negative hbegins
  rwa [wideScanner_reads hbegins] at h

end Sample

open Sample in
/-- A number of eight bits, with a zero too many and white space around it. -/
theorem padded_integer_read : DigitsFit (Text.trim " -042\n".toList)
    ∧ wideScanner.parse .int8 " -042\n" = parseInteger .int8 " -042\n"
    ∧ (NativeType.integer .int8).parse " -042\n" = .ok (.int64 (some (-42)))
    ∧ (NativeType.integer .int8).convert (.varchar (some " -042\n")) = .ok (.int64 (some (-42)))
    ∧ IntegerType.int8.AcceptsJust " -042\n" (WritesInteger (Text.trim " -042\n".toList)) := by
  have hfit : DigitsFit (Text.trim " -042\n".toList) := digitsFit_of_wideScanner (by decide)
  obtain ⟨hscan, haccepts, hjust⟩ := integer_text_read_iff .int8 " -042\n" hfit
  have hwrites : WritesInteger (Text.trim " -042\n".toList) (-42 : Int64).toInt :=
    ⟨['-'], true, ['0', '4', '2'], .minus, by decide, by decide,
      List.all_eq_true.1 rfl, by decide⟩
  have hread := haccepts (.int64 (some (-42)))
  exact ⟨hfit, hscan wideScanner wideScanner_documented,
    hread.1.2 ⟨-42, rfl, .inl hwrites, by decide⟩, hread.2.2 ⟨-42, rfl, .inl hwrites, by decide⟩,
    hjust.2 (by decide)⟩

/-- **A sign alone is read as zero**, although it writes no integer. -/
theorem lone_sign_read : DigitsFit (Text.trim "+".toList)
    ∧ (∀ n, ¬ WritesInteger (Text.trim "+".toList) n)
    ∧ (NativeType.integer .int32).parse "+" = .ok (.int64 (some 0))
    ∧ (NativeType.integer .int32).convert (.varchar (some "+")) = .ok (.int64 (some 0)) :=
  ⟨Sample.digitsFit_of_wideScanner (by decide), not_writesInteger_of_isLoneSign (.inl (by decide)),
    rfl, rfl⟩

end RecordMapper
