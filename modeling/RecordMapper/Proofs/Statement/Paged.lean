/-
  RecordMapper.Proofs.Statement.Paged
  ────────────────────────────────
  **THE ROWS THAT A PAGED STATEMENT SELECTS.**

  A limit and an offset ask for the same rows of every database: as many as the limit,
  behind as many as the offset.  Each database says it in its own words, and here is what
  those words mean.  Oracle numbers a row while it chooses it, by the rows that it has
  accepted so far: a row that no number suits leaves the next one with the same number.

  The words are read off the text (`through_injective`), so what a statement selects does
  not depend on how it was put together.  Main result: `paged_as_asked_iff`.
-/
import Mathlib.Data.List.Nodup
import Mathlib.Data.List.TakeDrop
import RecordMapper.Proofs.Number.Digits
import RecordMapper.Proofs.Sample
import RecordMapper.Proofs.Statement.Legible
import RecordMapper.Proofs.Statement.Shifted

namespace RecordMapper

variable {α : Type}

/-! ## §1. What windows mean. -/

/-- **Rows numbered while they are chosen.**  A row is tried under the number that follows
those of the rows accepted before it, and keeps the number when it is accepted. -/
def numbered (accepts : Nat → Bool) : (accepted : Nat) → List α → List (α × Nat)
  | _, [] => []
  | accepted, row :: rows =>
    if accepts (accepted + 1) then (row, accepted + 1) :: numbered accepts (accepted + 1) rows
    else numbered accepts accepted rows

namespace Window

/-- **The rows of a query that a window shows.**  The numbers that Oracle gives stand in a
column behind those of the row, and are not shown here. -/
def rows (query : List α) : Window → List α
  | .limit n => query.take n
  | .offset m => query.drop m
  | .limitOffset none m => query.drop m
  | .limitOffset (some n) m => (query.drop m).take n
  | .offsetComma m n => (query.drop m).take n
  | .numberedUpTo n => (numbered (· ≤ n) 0 query).map (·.1)
  | .numberedFrom m => (numbered (m ≤ ·) 0 query).map (·.1)
  | .numberedBetween n m => ((numbered (· ≤ n) 0 query).filter (m ≤ ·.2)).map (·.1)

/-- The statement through a window, or as it is where there is none. -/
def through {ι : Type} (query : Sql ι) : Option Window → Sql ι
  | none => query
  | some w => w.write query

/-- The rows of a query through a window, or all of them where there is none. -/
def shown (query : List α) : Option Window → List α
  | none => query
  | some w => w.rows query

end Window

/-- **The page that is asked for**: so many rows, behind so many. -/
def page (limit offset : Option Nat) (query : List α) : List α :=
  match limit with
  | some n => (query.drop (offset.getD 0)).take n
  | none => query.drop (offset.getD 0)

/-- The window of a paging style, where a limit or an offset is stated. -/
def Paging.window? (paging : Paging) : (limit offset : Option Nat) → Option Window
  | none, none => none
  | some n, none => some (paging.limited n)
  | none, some m => some (paging.skipped m)
  | some n, some m => some (paging.page n m)

theorem Paging.apply_eq_through {ι : Type} (paging : Paging) (query : Sql ι)
    (limit offset : Option Nat) :
    paging.apply query limit offset = Window.through query (paging.window? limit offset) := by
  cases limit <;> cases offset <;> rfl

/-! ## §2. Rows numbered while they are chosen. -/

/-- Where the next number is not accepted, no row is. -/
theorem numbered_of_refused {accepts : Nat → Bool} {k : Nat} (h : accepts (k + 1) = false)
    (query : List α) : numbered accepts k query = [] := by
  induction query with
  | nil => rfl
  | cons row query ih =>
      unfold numbered
      rw [h]
      exact ih

/-- **The rows up to a number** are the first ones. -/
theorem numbered_upTo {n : Nat} (query : List α) (k : Nat) :
    numbered (· ≤ n) k query = (query.take (n - k)).zipIdx (k + 1) := by
  induction query generalizing k with
  | nil => simp [numbered]
  | cons row query ih =>
      by_cases h : k + 1 ≤ n
      · have hrest : n - k = n - (k + 1) + 1 := by omega
        unfold numbered
        rw [if_pos (decide_eq_true h), ih, hrest]
        rfl
      · have hnone : n - k = 0 := by omega
        rw [numbered_of_refused (decide_eq_false h), hnone]
        rfl

/-- **The rows from a number on** are all of them, when the first number is accepted. -/
theorem numbered_from {m : Nat} (query : List α) {k : Nat} (h : m ≤ k + 1) :
    numbered (m ≤ ·) k query = query.zipIdx (k + 1) := by
  induction query generalizing k with
  | nil => rfl
  | cons row query ih =>
      unfold numbered
      rw [if_pos (decide_eq_true h), ih (by omega)]
      rfl

/-- Of numbered rows those from a number on are the last ones. -/
theorem filter_zipIdx (m : Nat) (query : List α) (k : Nat) :
    ((query.zipIdx k).filter (m ≤ ·.2)).map (·.1) = query.drop (m - k) := by
  induction query generalizing k with
  | nil => simp
  | cons row query ih =>
      rw [List.zipIdx_cons, List.filter_cons]
      by_cases h : m ≤ k
      · have hall : m - (k + 1) = 0 := by omega
        have hsame : m - k = 0 := by omega
        rw [if_pos (decide_eq_true h), List.map_cons, ih, hall, hsame]
        rfl
      · have hrest : m - k = m - (k + 1) + 1 := by omega
        rw [if_neg (by simpa using h), ih, hrest]
        rfl

namespace Window

variable {query : List α} {n m : Nat}

/-- **A bound from above** shows the first rows. -/
theorem rows_numberedUpTo : rows query (.numberedUpTo n) = query.take n := by
  show (numbered _ _ _).map _ = _
  rw [numbered_upTo]
  simp

/-- **A bound from below** shows everything or nothing: the first row is tried under the
number 1, and when that is refused so is every row behind it. -/
theorem rows_numberedFrom :
    rows query (.numberedFrom m) = if m ≤ 1 then query else [] := by
  show (numbered _ _ _).map _ = _
  by_cases h : m ≤ 1
  · rw [if_pos h, numbered_from query h]
    simp
  · rw [if_neg h, numbered_of_refused (decide_eq_false h)]
    rfl

/-- **Both bounds** show the first rows without those in front of the lower bound. -/
theorem rows_numberedBetween :
    rows query (.numberedBetween n m) = (query.take n).drop (m - 1) := by
  show ((numbered _ _ _).filter _).map _ = _
  rw [numbered_upTo, filter_zipIdx]
  rfl

end Window

/-! ## §3. The page of each product. -/

/-- **The rows are the ones asked for**, of a query with so many.  Only Oracle goes wrong,
with an offset, and only where the page is not empty for both: its condition takes the
offset for the first row, and its limit for the last.  Where all rows behind an offset are
asked for, MySQL has a limit all the same. -/
def Product.PagesRight (count : Nat) : Product → (limit offset : Option Nat) → Prop
  | .mysql, none, some m => count ≤ m + 18446744073709551615
  | .oracle, none, some m => count ≤ m ∧ (m = 1 → count = 0)
  | .oracle, some n, some m => count < m ∨ (count = m ∧ n < m)
  | _, _, _ => True

section

variable {query : List α} {n m : Nat}

/-- Oracle's page of a limit and an offset. -/
theorem oracle_page (hn : 0 < n) (hm : 0 < m) :
    ((query.length < m ∨ (query.length = m ∧ n < m)) →
        (query.take n).drop (m - 1) = (query.drop m).take n)
      ∧ (query.Nodup → (query.take n).drop (m - 1) = (query.drop m).take n →
        (query.length < m ∨ (query.length = m ∧ n < m))) := by
  constructor
  · intro h
    have hnone : query.drop m = [] := List.drop_eq_nil_of_le (by omega)
    rw [hnone, List.take_nil, List.drop_eq_nil_iff, List.length_take]
    omega
  -- What the two show first are neighbours in the query, and they differ.
  · intro hdistinct hsame
    have hfirst : (if m - 1 < n then query[m - 1]? else none) = query[m]? := by
      have h := congrArg (·[0]?) hsame
      simpa only [List.getElem?_drop, List.getElem?_take, Nat.add_zero, hn, if_true] using h
    by_cases hlast : m - 1 < n
    · rw [if_pos hlast] at hfirst
      by_contra hright
      have hbefore : m - 1 < query.length := by omega
      have hplace := (List.getElem?_inj hbefore hdistinct).1 hfirst
      omega
    · rw [if_neg hlast] at hfirst
      have hlength := List.getElem?_eq_none_iff.1 hfirst.symm
      omega

/-- Oracle's rows behind an offset. -/
theorem oracle_rest (hm : 0 < m) :
    (if m ≤ 1 then query else []) = query.drop m ↔ query.length ≤ m ∧ (m = 1 → query.length = 0) := by
  by_cases hone : m ≤ 1
  · obtain rfl : m = 1 := by omega
    rw [if_pos hone]
    constructor
    · intro h
      have hlength := congrArg List.length h
      rw [List.length_drop] at hlength
      omega
    · rintro ⟨-, hnone⟩
      rw [List.length_eq_zero_iff.1 (hnone rfl)]
      rfl
  · rw [if_neg hone, eq_comm, List.drop_eq_nil_iff]
    omega

/-- MySQL's rows behind an offset. -/
theorem mysql_rest (limit : Nat) :
    (query.drop m).take limit = query.drop m ↔ query.length ≤ m + limit := by
  rw [List.take_eq_self_iff, List.length_drop]
  omega

end

/-- **Every product shows the page that is asked for**, exactly when it pages right.  That
the rows of the query differ matters for the converse alone: of equal rows any will do. -/
theorem Product.shown_eq_page (p : Product) {limit offset : Option Nat}
    (hlimit : ∀ n ∈ limit, 0 < n) (hoffset : ∀ m ∈ offset, 0 < m) (query : List α) :
    (p.PagesRight query.length limit offset →
        Window.shown query (p.dialect.paging.window? limit offset) = page limit offset query)
      ∧ (query.Nodup →
        Window.shown query (p.dialect.paging.window? limit offset) = page limit offset query →
        p.PagesRight query.length limit offset) := by
  cases limit with
  | none =>
      cases offset with
      | none => cases p <;> exact ⟨fun _ => rfl, fun _ _ => trivial⟩
      | some m =>
          have hm := hoffset m rfl
          cases p with
          | generic | sqlite => exact ⟨fun _ => rfl, fun _ _ => trivial⟩
          | mysql => exact ⟨(mysql_rest _).2, fun _ => (mysql_rest _).1⟩
          | oracle =>
              show (_ → Window.rows query (.numberedFrom m) = _)
                ∧ (_ → Window.rows query (.numberedFrom m) = _ → _)
              rw [Window.rows_numberedFrom]
              exact ⟨(oracle_rest hm).2, fun _ => (oracle_rest hm).1⟩
  | some n =>
      have hn := hlimit n rfl
      cases offset with
      | none =>
          cases p with
          | generic | sqlite | mysql => exact ⟨fun _ => rfl, fun _ _ => trivial⟩
          | oracle => exact ⟨fun _ => Window.rows_numberedUpTo, fun _ _ => trivial⟩
      | some m =>
          have hm := hoffset m rfl
          cases p with
          | generic | sqlite | mysql => exact ⟨fun _ => rfl, fun _ _ => trivial⟩
          | oracle =>
              show (_ → Window.rows query (.numberedBetween n m) = _)
                ∧ (_ → Window.rows query (.numberedBetween n m) = _ → _)
              rw [Window.rows_numberedBetween]
              exact oracle_page hn hm

/-! ## §4. Windows in a text. -/

/-- **A number at the end of a text** is read off with the text in front of it, when that
does not end in a digit. -/
theorem number_at_end {a b : List Char} {n m : Nat} (ha : ∀ c ∈ a.getLast?, c.isDigit = false)
    (hb : ∀ c ∈ b.getLast?, c.isDigit = false)
    (h : a ++ (toString n).toList = b ++ (toString m).toList) : a = b ∧ n = m := by
  have hdigits : ∀ k : Nat, ∀ c ∈ (toString k).toList.reverse, c.isDigit = true := fun k c hc =>
    Product.isDigit_of_mem_toString (List.mem_reverse.1 hc)
  -- From behind, the number is the run of digits that the text begins with.
  have hfront : a = b := by
    have hreverse := congrArg List.reverse h
    rw [List.reverse_append, List.reverse_append] at hreverse
    have hspan := congrArg Number.spanDigits hreverse
    rw [Number.spanDigits_append (hdigits n) (by rwa [List.head?_reverse]),
      Number.spanDigits_append (hdigits m) (by rwa [List.head?_reverse])] at hspan
    exact List.reverse_injective (Prod.mk.inj hspan).2
  refine ⟨hfront, ?_⟩
  rw [hfront] at h
  have hnumber := List.append_cancel_left h
  rw [Nat.toString_eq_repr, Nat.toString_eq_repr, Nat.toList_repr, Nat.toList_repr] at hnumber
  have hvalue := congrArg (Nat.ofDigitChars 10 · 0) hnumber
  simpa only [Nat.ofDigitChars_ten_toDigits] using hvalue

/-- What a window says right in front of its last number. -/
inductive Cue where
  | limit
  | offset
  | comma
  | atMost
  | atLeast
  deriving DecidableEq

/-- The words of a cue. -/
def Cue.text : Cue → String
  | .limit => "LIMIT "
  | .offset => "OFFSET "
  | .comma => ", "
  | .atMost => "<= "
  | .atLeast => ">= "

/-- No cue ends in another one. -/
theorem Cue.eq_of_suffix {a b : Cue} (h : a.text.toList <:+ b.text.toList) : a = b := by
  revert h
  cases a <;> cases b <;> decide

/-- Two cues that a text ends in are one. -/
theorem Cue.eq_of_ends {a b : Cue} {text : List Char} (ha : a.text.toList <:+ text)
    (hb : b.text.toList <:+ text) : a = b := by
  rcases List.suffix_or_suffix_of_suffix ha hb with h | h
  · exact eq_of_suffix h
  · exact (eq_of_suffix h).symm

/-- A cue does not end in a digit, and so does no text that ends in it. -/
theorem Cue.not_digit {a : Cue} {text : List Char} (h : a.text.toList <:+ text) :
    ∀ c ∈ text.getLast?, c.isDigit = false := by
  obtain ⟨front, rfl⟩ := h
  rw [List.getLast?_append_of_ne_nil _ (by cases a <;> decide)]
  have hlast : a.text.toList.getLast?.any Char.isDigit = false := by
    cases a <;> decide
  intro c hc
  rw [Option.mem_def.1 hc] at hlast
  exact hlast

namespace Window

/-- The cue of a window. -/
def cue : Window → Cue
  | .limit _ => .limit
  | .offset _ | .limitOffset _ _ => .offset
  | .offsetComma _ _ => .comma
  | .numberedUpTo _ => .atMost
  | .numberedFrom _ | .numberedBetween _ _ => .atLeast

/-- The last number of a window. -/
def last : Window → Nat
  | .limit n | .numberedUpTo n | .offsetComma _ n => n
  | .offset m | .limitOffset _ m | .numberedFrom m | .numberedBetween _ m => m

/-- What a window says in front of the statement. -/
def opening : Window → String
  | .numberedUpTo _ | .numberedFrom _ => "SELECT A.*, ROWNUM FROM ("
  | .numberedBetween _ _ => "SELECT * FROM (SELECT A.*, ROWNUM r_num FROM ("
  | _ => ""

/-- What a window says between the statement and its last number. -/
def closing : Window → String
  | .limit _ => " LIMIT "
  | .offset _ => " OFFSET "
  | .limitOffset none _ => " LIMIT -1 OFFSET "
  | .limitOffset (some n) _ => " LIMIT " ++ toString n ++ " OFFSET "
  | .offsetComma m _ => " LIMIT " ++ toString m ++ ", "
  | .numberedUpTo _ => ") A WHERE ROWNUM <= "
  | .numberedFrom _ => ") A WHERE ROWNUM >= "
  | .numberedBetween n _ => ") A WHERE ROWNUM <= " ++ toString n ++ ") WHERE r_num >= "

/-- **The text of a statement through a window.** -/
theorem text_write (w : Window) (query : Sql) :
    (w.write query).text = w.opening ++ query.text ++ w.closing ++ toString w.last := by
  have hbehind : ∀ {s closing number : String}, s = closing ++ number →
      (query ++ Sql.lit s).text = "" ++ query.text ++ closing ++ number := by
    intro s closing number h
    rw [Sql.text_append, Sql.text_lit, h, String.empty_append, String.append_assoc]
  have haround : ∀ {opening s closing number : String}, s = closing ++ number →
      (Sql.lit opening ++ query ++ Sql.lit s).text
        = opening ++ query.text ++ closing ++ number := by
    intro opening s closing number h
    rw [Sql.text_append, Sql.text_append, Sql.text_lit, Sql.text_lit, h, ← String.append_assoc]
  cases w with
  | limit n => exact hbehind rfl
  | offset m => exact hbehind rfl
  | limitOffset n m => cases n <;> exact hbehind rfl
  | offsetComma m n => exact hbehind rfl
  | numberedUpTo n => exact haround rfl
  | numberedFrom m => exact haround rfl
  | numberedBetween n m => exact haround rfl

/-- The cue stands in front of the last number. -/
theorem cue_ends_closing (w : Window) : w.cue.text.toList <:+ w.closing.toList := by
  have hbehind : ∀ {cue : Cue} {front back : String}, cue.text.toList <:+ back.toList →
      cue.text.toList <:+ (front ++ back).toList := by
    intro cue front back h
    rw [String.toList_append]
    exact h.trans (List.suffix_append _ _)
  cases w with
  | limit n => exact (by decide : Cue.limit.text.toList <:+ " LIMIT ".toList)
  | offset m => exact (by decide : Cue.offset.text.toList <:+ " OFFSET ".toList)
  | limitOffset n m =>
      cases n with
      | none => exact (by decide : Cue.offset.text.toList <:+ " LIMIT -1 OFFSET ".toList)
      | some n => exact hbehind (by decide : Cue.offset.text.toList <:+ " OFFSET ".toList)
  | offsetComma m n => exact hbehind (by decide : Cue.comma.text.toList <:+ ", ".toList)
  | numberedUpTo n =>
      exact (by decide : Cue.atMost.text.toList <:+ ") A WHERE ROWNUM <= ".toList)
  | numberedFrom m =>
      exact (by decide : Cue.atLeast.text.toList <:+ ") A WHERE ROWNUM >= ".toList)
  | numberedBetween n m =>
      exact hbehind (by decide : Cue.atLeast.text.toList <:+ ") WHERE r_num >= ".toList)

/-- The limit behind which an offset stands. -/
def limitWord : Option Nat → String
  | none => "-1"
  | some n => toString n

theorem closing_limitOffset (n : Option Nat) (m : Nat) :
    (limitOffset n m).closing = " LIMIT " ++ limitWord n ++ " OFFSET " := by
  cases n with
  | none => exact (by decide : " LIMIT -1 OFFSET " = " LIMIT " ++ "-1" ++ " OFFSET ")
  | some n => rfl

/-- Numbers are told apart by their digits. -/
theorem toString_injective {n m : Nat} (h : toString n = toString m) : n = m :=
  (number_at_end (a := []) (b := []) nofun nofun (congrArg String.toList h)).2

theorem limitWord_injective {n m : Option Nat} (h : limitWord n = limitWord m) : n = m := by
  -- A number has no sign.
  have hsign : ∀ k : Nat, "-1" ≠ toString k := by
    intro k h
    have hmem : '-' ∈ (toString k).toList := h ▸ (by decide : '-' ∈ "-1".toList)
    exact absurd (Product.isDigit_of_mem_toString hmem) (by decide)
  cases n with
  | none =>
      cases m with
      | none => rfl
      | some m => exact absurd h (hsign m)
  | some n =>
      cases m with
      | none => exact absurd h.symm (hsign n)
      | some m => exact congrArg some (toString_injective h)

/-- An offset alone is not what stands behind a limit. -/
theorem closing_offset_ne (m m' : Nat) (n : Option Nat) :
    (offset m).closing ≠ (limitOffset n m').closing := by
  intro h
  have hlimit : " LIMIT ".toList <+: (offset m).closing.toList := by
    rw [h, closing_limitOffset, String.append_assoc, String.toList_append]
    exact List.prefix_append _ _
  exact absurd hlimit (by decide : ¬ " LIMIT ".toList <+: " OFFSET ".toList)

/-- A statement behind one opening of numbered rows is not one behind the other. -/
theorem opening_ne (n m m' : Nat) (a b : String) :
    (numberedFrom m).opening ++ a ≠ (numberedBetween n m').opening ++ b := by
  intro h
  have hprefix : ∀ {word opening rest : String}, word.toList <+: opening.toList →
      word.toList <+: (opening ++ rest).toList := by
    intro word opening rest hword
    rw [String.toList_append]
    exact hword.trans (List.prefix_append _ _)
  have hrow : "SELECT A".toList <+: ((numberedBetween n m').opening ++ b).toList :=
    h ▸ hprefix (by decide : "SELECT A".toList <+: "SELECT A.*, ROWNUM FROM (".toList)
  have hall : "SELECT *".toList <+: ((numberedBetween n m').opening ++ b).toList :=
    hprefix (by decide :
      "SELECT *".toList <+: "SELECT * FROM (SELECT A.*, ROWNUM r_num FROM (".toList)
  rcases List.prefix_or_prefix_of_prefix hrow hall with h | h
  · exact absurd h (by decide)
  · exact absurd h (by decide)

/-- **A window is read off the text**, when the statement is known. -/
theorem write_injective {query : Sql} {w w' : Window}
    (h : (w.write query).text = (w'.write query).text) : w = w' := by
  have hends : ∀ w : Window,
      w.cue.text.toList <:+ (w.opening ++ (query.text ++ w.closing)).toList := by
    intro w
    rw [← String.append_assoc, String.toList_append]
    exact w.cue_ends_closing.trans (List.suffix_append _ _)
  obtain ⟨hfront, hlast⟩ : w.opening ++ (query.text ++ w.closing)
      = w'.opening ++ (query.text ++ w'.closing) ∧ w.last = w'.last := by
    have hsplit : ∀ w : Window, (w.write query).text.toList
        = (w.opening ++ (query.text ++ w.closing)).toList ++ (toString w.last).toList := by
      intro w
      rw [text_write, String.toList_append, ← String.append_assoc]
    have htext := congrArg String.toList h
    rw [hsplit, hsplit] at htext
    exact (number_at_end (Cue.not_digit (hends w)) (Cue.not_digit (hends w')) htext).imp_left
      String.toList_injective
  have hcue : w.cue = w'.cue := Cue.eq_of_ends (hends w) (hfront ▸ hends w')
  have hclosing : w.opening = w'.opening → w.closing = w'.closing := by
    intro hopening
    rw [hopening, String.append_right_inj, String.append_right_inj] at hfront
    exact hfront
  have hbetween : ∀ {front back a b : String},
      front ++ a ++ back = front ++ b ++ back → a = b := by
    intro front back a b h
    rwa [String.append_left_inj, String.append_right_inj] at h
  cases w with
  | limit n =>
      cases w' with
      | limit n' => exact congrArg _ hlast
      | _ => cases hcue
  | offset m =>
      cases w' with
      | offset m' => exact congrArg _ hlast
      | limitOffset n' m' => exact absurd (hclosing rfl) (closing_offset_ne m m' n')
      | _ => cases hcue
  | limitOffset n m =>
      cases w' with
      | offset m' => exact absurd (hclosing rfl).symm (closing_offset_ne m' m n)
      | limitOffset n' m' =>
          have hwords := hclosing rfl
          rw [closing_limitOffset, closing_limitOffset] at hwords
          obtain rfl : n = n' := limitWord_injective (hbetween hwords)
          exact congrArg _ hlast
      | _ => cases hcue
  | offsetComma m n =>
      cases w' with
      | offsetComma m' n' =>
          obtain rfl : m = m' := toString_injective (hbetween (hclosing rfl))
          exact congrArg _ hlast
      | _ => cases hcue
  | numberedUpTo n =>
      cases w' with
      | numberedUpTo n' => exact congrArg _ hlast
      | _ => cases hcue
  | numberedFrom m =>
      cases w' with
      | numberedFrom m' => exact congrArg _ hlast
      | numberedBetween n' m' => exact absurd hfront (opening_ne n' m m' _ _)
      | _ => cases hcue
  | numberedBetween n m =>
      cases w' with
      | numberedFrom m' => exact absurd hfront.symm (opening_ne n m' m _ _)
      | numberedBetween n' m' =>
          obtain rfl : n = n' := toString_injective (hbetween (hclosing rfl))
          exact congrArg _ hlast
      | _ => cases hcue

/-- **Whether there is a window, and which one,** is read off the text. -/
theorem through_injective {query : Sql} {w w' : Option Window}
    (h : (through query w).text = (through query w').text) : w = w' := by
  -- The words of a window are not empty.
  have hlonger : ∀ w : Window, query.text ≠ (w.write query).text := by
    intro w hsame
    have hlength := congrArg String.length hsame
    have hclosing : 0 < w.closing.length := by
      have hcue := w.cue_ends_closing.length_le
      have hpositive : 0 < w.cue.text.length := by cases w.cue <;> decide
      rw [String.length_toList, String.length_toList] at hcue
      omega
    simp only [text_write, String.length_append] at hlength
    omega
  cases w with
  | none =>
      cases w' with
      | none => rfl
      | some w' => exact absurd h (hlonger w')
  | some w =>
      cases w' with
      | none => exact absurd h.symm (hlonger w)
      | some w' => exact congrArg some (write_injective h)

end Window

/-! ## §5. Paged selects. -/

namespace Select

variable {q : Select}

/-- The select of all rows. -/
def unpaged (q : Select) : Select :=
  { q with limit := none, offset := none }

/-- A select is rendered by its where clause. -/
theorem render_eq (d : Dialect) (k : Nat) (fields : List Field) (q : Select) :
    q.render d k fields = (((q.setting d).inClause .selectWhere).whereClause k q.filter).map
      fun w => ⟨q.assemble (q.setting d) fields w.sql, w.parameters⟩ := by
  obtain ⟨plan, filter⟩ := q
  unfold render Setting.whereClause
  show (Condition.formulas ((setting ⟨plan, filter⟩ d).inClause .selectWhere) k filter >>= _) = _
  cases Condition.formulas ((setting ⟨plan, filter⟩ d).inClause .selectWhere) k filter with
  | error e => rfl
  | ok written => rfl

/-- **A paged select** is the statement of all rows through a window. -/
theorem render_paged (d : Dialect) (k : Nat) (fields : List Field) (q : Select) :
    q.render d k fields = (q.unpaged.render d k fields).map fun all =>
      ⟨Window.through all.sql (d.paging.window? (positive q.limit) (positive q.offset)),
        all.parameters⟩ := by
  rw [render_eq, render_eq]
  show Except.map _ (((q.setting d).inClause .selectWhere).whereClause k q.filter)
    = Except.map _ (Except.map _ (((q.setting d).inClause .selectWhere).whereClause k q.filter))
  cases ((q.setting d).inClause .selectWhere).whereClause k q.filter with
  | error e => rfl
  | ok w =>
      show Except.ok (Statement.mk (Paging.apply _ _ _ _) _) = _
      rw [Paging.apply_eq_through]
      rfl

theorem pos_of_mem_positive {n : Option Nat} : ∀ k ∈ positive n, 0 < k := by
  intro k hk
  exact of_decide_eq_true (Option.mem_filter_iff.1 hk).2

end Select

/-- **A paged select shows the page that it asks for**, exactly when its product pages
right.  A limit and an offset change no parameter and put the statement of all rows in a
window; and whatever window its text is read as, the rows of the query through it are the
page that is asked for, when the product pages a query of so many rows right, and
otherwise they are not, at least when the rows differ. -/
theorem paged_as_asked_iff {p : Product} {q : Select} {k : Nat} {fields : List Field}
    {st : Statement} (hst : q.render p.dialect k fields = .ok st) :
    ∃ all, q.unpaged.render p.dialect k fields = .ok all ∧ st.parameters = all.parameters
      ∧ (∃ w, st.sql = Window.through all.sql w)
      ∧ ∀ w, st.text = (Window.through all.sql w).text → ∀ {α : Type} (query : List α),
          (p.PagesRight query.length (Select.positive q.limit) (Select.positive q.offset) →
            Window.shown query w
              = page (Select.positive q.limit) (Select.positive q.offset) query)
          ∧ (query.Nodup → Window.shown query w
              = page (Select.positive q.limit) (Select.positive q.offset) query →
            p.PagesRight query.length (Select.positive q.limit) (Select.positive q.offset)) := by
  rw [Select.render_paged] at hst
  obtain ⟨all, hall, rfl⟩ := map_ok.1 hst
  refine ⟨all, hall, rfl, ⟨_, rfl⟩, fun w hw α query => ?_⟩
  obtain rfl := Window.through_injective hw
  exact p.shown_eq_page Select.pos_of_mem_positive Select.pos_of_mem_positive query

namespace Sample

/-- A page of ten authors, behind the first twenty. -/
def laterPage : Select :=
  { Select.ofModel author with limit := some 10, offset := some 20 }

end Sample

open Sample in
/-- SQLite shows the authors from the twenty-first to the thirtieth. -/
theorem laterPage_shown : ∃ (st : Statement) (all : Sql), laterPage.statement Product.sqlite.dialect = .ok st
    ∧ st.text = "SELECT id, name FROM author LIMIT 10 OFFSET 20"
    ∧ ∀ w, st.text = (Window.through all w).text →
        Window.shown (List.range 40) w = [20, 21, 22, 23, 24, 25, 26, 27, 28, 29] := by
  have htext : (laterPage.statement Product.sqlite.dialect).toOption.map Statement.text
      = some "SELECT id, name FROM author LIMIT 10 OFFSET 20" := by
    decide +kernel
  obtain ⟨st, hst, htext⟩ := ok_of_toOption_map htext
  obtain ⟨all, -, -, -, hshown⟩ := paged_as_asked_iff hst
  refine ⟨st, all.sql, hst, htext, fun w hw => ?_⟩
  exact ((hshown w hw (List.range 40)).1 trivial).trans (by decide)

open Sample in
/-- **Not every page is the one that is asked for**: of four rows, Oracle shows two behind
the first one by showing the first two. -/
theorem not_every_page_asked_for :
    ¬ ∀ (p : Product) (q : Select) (st all : Statement), q.statement p.dialect = .ok st →
      q.unpaged.statement p.dialect = .ok all →
      ∀ w, st.text = (Window.through all.sql w).text → ∀ query : List Nat,
        Window.shown query w
          = page (Select.positive q.limit) (Select.positive q.offset) query := by
  intro hshown
  have hall := Select.render_paged Product.oracle.dialect 0 author.fields
    { Select.ofModel author with limit := some 2, offset := some 1 }
  have h := hshown .oracle { Select.ofModel author with limit := some 2, offset := some 1 } _ _ hall
    rfl (some (.numberedBetween 2 1)) rfl [1, 2, 3, 4]
  exact absurd h (by decide)

end RecordMapper
