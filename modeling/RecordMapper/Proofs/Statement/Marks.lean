/-
  RecordMapper.Proofs.Statement.Marks
  ────────────────────────────────
  **READING PLACEHOLDERS OFF THE TEXT OF A STATEMENT.**

  A database sees the text of a statement and nothing else: it finds the
  placeholders by reading that text from left to right.  Here is that reader for
  each product, and what has to be true of two pieces of text so that it finds in
  both together what it finds in each.  The key is that a placeholder never goes
  on into text that begins with anything but a letter of a mark or a digit
  (`marksIn_append`), and that text without a first character of a mark changes
  nothing about what stands behind it (`marksIn_plain_append`).
-/
import RecordMapper.Proofs.Statement.Numbering

namespace RecordMapper

/-! ## §1. Products. -/

/-- **A product** whose dialect is known. -/
inductive Product where
  | generic
  | mysql
  | oracle
  | sqlite
  deriving DecidableEq, Repr

namespace Product

/-- The dialect of the product. -/
def dialect : Product → Dialect
  | .generic => .generic
  | .mysql => .mysql
  | .oracle => .oracle
  | .sqlite => .sqlite

/-- **The mark of the `n`-th placeholder**, counted from 0: numbered in Oracle, the
same for all of them elsewhere. -/
def mark : Product → (n : Nat) → String
  | .generic, _ | .sqlite, _ => "?"
  | .mysql, _ => "%s"
  | .oracle, n => ":a" ++ toString n

theorem placeholder_eq (p : Product) (clause : Clause) (n : Nat) :
    p.dialect.placeholder clause n = p.mark n := by
  cases p <;> rfl

theorem columnRef_eq (p : Product) : p.dialect.columnRef = Dialect.plainColumnRef := by
  cases p <;> rfl

/-! ## §2. The reader. -/

/-- **The mark that the text begins with**, if it begins with one: `?`, `%s`, or `:a`
and as many digits as follow, which have to be some. -/
def markAt? : Product → List Char → Option (List Char)
  | .generic, '?' :: _ | .sqlite, '?' :: _ => some ['?']
  | .mysql, '%' :: 's' :: _ => some ['%', 's']
  | .oracle, ':' :: 'a' :: rest =>
    match rest.takeWhile Char.isDigit with
    | [] => none
    | digits => some (':' :: 'a' :: digits)
  | _, _ => none

/-- **The marks in a text**, left to right. -/
def marksIn (p : Product) : List Char → List String
  | [] => []
  | c :: rest => ((p.markAt? (c :: rest)).map String.ofList).toList ++ p.marksIn rest

/-- A name holds no mark. -/
def Clean (p : Product) (name : String) : Prop :=
  p.marksIn name.toList = []

instance (p : Product) (name : String) : Decidable (p.Clean name) :=
  inferInstanceAs (Decidable (p.marksIn name.toList = []))

/-- The text does not begin with a character that could go on a mark. -/
def apart : List Char → Bool
  | [] => true
  | c :: _ => c != 's' && c != 'a' && !c.isDigit

/-- The text holds no first character of a mark. -/
def plain (s : String) : Bool :=
  s.toList.all fun c => c != '?' && c != '%' && c != ':'

/-- Digits end where text that stands apart begins. -/
theorem takeWhile_apart {r : List Char} (hr : apart r = true) :
    ∀ x : List Char, (x ++ r).takeWhile Char.isDigit = x.takeWhile Char.isDigit
  | [] => by
      cases r with
      | nil => rfl
      | cons c r =>
          have hc : c.isDigit = false := by
            unfold apart at hr
            simp_all
          simp [hc]
  | c :: x => by
      rw [List.cons_append, List.takeWhile_cons, List.takeWhile_cons, takeWhile_apart hr x]

/-- **A mark does not go on** into text that stands apart. -/
theorem markAt?_append (p : Product) {r : List Char} (hr : apart r = true) (c : Char)
    (x : List Char) : p.markAt? (c :: (x ++ r)) = p.markAt? (c :: x) := by
  -- Only the last character of the first text can meet the second one: it is then a
  -- `%` or `:` without the letter that the mark needs, and the second text has no such letter.
  have hsecond : ∀ d rest, r = d :: rest → d ≠ 's' ∧ d ≠ 'a' := by
    intro d rest h
    subst h
    unfold apart at hr
    simp_all
  cases p with
  | generic | sqlite => by_cases hc : c = '?' <;> simp [markAt?, hc]
  | mysql =>
      by_cases hc : c = '%'
      · subst hc
        cases x with
        | nil =>
            cases r with
            | nil => rfl
            | cons d r =>
                have hd := (hsecond d r rfl).1
                simp [markAt?, hd]
        | cons d x => by_cases hd : d = 's' <;> simp [markAt?, hd]
      · simp [markAt?, hc]
  | oracle =>
      by_cases hc : c = ':'
      · subst hc
        cases x with
        | nil =>
            cases r with
            | nil => rfl
            | cons d r =>
                have hd := (hsecond d r rfl).2
                simp [markAt?, hd]
        -- The letter is there, so digits may follow; they end within the first text.
        | cons d x =>
            by_cases hd : d = 'a'
            · subst hd
              simp only [List.cons_append, markAt?, takeWhile_apart hr x]
            · simp [markAt?, hd]
      · simp [markAt?, hc]

/-- **Two texts are read one after the other** when the second stands apart. -/
theorem marksIn_append (p : Product) {r : List Char} (hr : apart r = true) :
    ∀ x : List Char, p.marksIn (x ++ r) = p.marksIn x ++ p.marksIn r
  | [] => rfl
  | c :: x => by
      rw [List.cons_append, marksIn, marksIn, markAt?_append p hr, marksIn_append p hr x,
        List.append_assoc]

/-- No mark begins with another character than the first of a mark. -/
theorem markAt?_eq_none (p : Product) {c : Char} (hc : c ≠ '?' ∧ c ≠ '%' ∧ c ≠ ':')
    (rest : List Char) : p.markAt? (c :: rest) = none := by
  obtain ⟨h1, h2, h3⟩ := hc
  cases p <;> simp [markAt?, h1, h2, h3]

/-- **Plain text changes nothing** about what stands behind it. -/
theorem marksIn_plain_append (p : Product) {s : String} (hs : plain s = true) (r : List Char) :
    p.marksIn (s.toList ++ r) = p.marksIn r := by
  unfold plain at hs
  generalize s.toList = x at hs
  induction x with
  | nil => rfl
  | cons c x ih =>
      rw [List.all_cons, Bool.and_eq_true] at hs
      obtain ⟨hc, hx⟩ := hs
      rw [List.cons_append, marksIn, markAt?_eq_none p (by simpa [and_assoc] using hc), ih hx]
      rfl

theorem clean_of_plain (p : Product) {s : String} (hs : plain s = true) : p.Clean s := by
  have h := p.marksIn_plain_append hs []
  rw [List.append_nil] at h
  exact h

theorem plain_append {a b : String} (ha : plain a = true) (hb : plain b = true) :
    plain (a ++ b) = true := by
  unfold plain at *
  rw [String.toList_append, List.all_append, ha, hb]
  rfl

/-- The digits of a number. -/
theorem isDigit_of_mem_toString {n : Nat} {c : Char} (h : c ∈ (toString n).toList) :
    c.isDigit = true := by
  rw [Nat.toString_eq_repr, Nat.toList_repr] at h
  exact Nat.isDigit_of_mem_toDigits (by omega) (by omega) h

/-- A number is plain text. -/
theorem plain_toString (n : Nat) : plain (toString n) = true := by
  unfold plain
  rw [List.all_eq_true]
  intro c hc
  have hdigit := isDigit_of_mem_toString hc
  have hne : ∀ d : Char, d.isDigit = false → c ≠ d := by
    intro d hd h
    rw [h, hd] at hdigit
    cases hdigit
  simp [hne '?' rfl, hne '%' rfl, hne ':' rfl]

/-- **Every mark is read as itself.** -/
theorem marksIn_mark (p : Product) (n : Nat) : p.marksIn (p.mark n).toList = [p.mark n] := by
  cases p with
  | generic =>
      show Product.generic.marksIn "?".toList = ["?"]
      decide
  | sqlite =>
      show Product.sqlite.marksIn "?".toList = ["?"]
      decide
  | mysql =>
      show Product.mysql.marksIn "%s".toList = ["%s"]
      decide
  | oracle =>
      -- The digits of the number are all taken, and there is at least one.
      have hdigits : (toString n).toList.takeWhile Char.isDigit = (toString n).toList := by
        rw [← List.append_nil (toString n).toList,
          List.takeWhile_append_of_pos fun c hc => isDigit_of_mem_toString hc]
        rfl
      obtain ⟨c, rest, hcons⟩ : ∃ c rest, (toString n).toList = c :: rest := by
        rw [Nat.toString_eq_repr, Nat.toList_repr]
        exact List.exists_cons_of_ne_nil Nat.toDigits_ne_nil
      -- No other mark begins inside this one.
      have hrest : Product.oracle.marksIn (toString n).toList = [] :=
        Product.oracle.clean_of_plain (plain_toString n)
      have htext : (":a" ++ toString n).toList = ':' :: 'a' :: (toString n).toList := by
        rw [String.toList_append]
        rfl
      have hmark : Product.oracle.markAt? (':' :: 'a' :: (toString n).toList)
          = some (':' :: 'a' :: (toString n).toList) := by
        simp only [markAt?, hdigits]
        rw [hcons]
      have ha : Product.oracle.markAt? ('a' :: (toString n).toList) = none :=
        Product.oracle.markAt?_eq_none (by decide) _
      show Product.oracle.marksIn (":a" ++ toString n).toList = [":a" ++ toString n]
      rw [htext, marksIn, marksIn, hmark, ha, hrest, Option.map_some, ← htext,
        String.ofList_toList]
      rfl

end Product

end RecordMapper
