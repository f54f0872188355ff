/-
  RecordMapper.Proofs.Condition.Grammar
  ────────────────────────────────
  **READING A WHERE CLAUSE.**

  A database reads a where clause by precedence: NOT binds tighter than AND, and
  AND tighter than OR; parentheses group.  Here is that grammar over the pieces of
  a clause, in four levels: a search condition is a chain of terms under OR, a term
  a chain of factors under AND, a factor a primary that may be negated, and a
  primary an atom or a search condition in parentheses.

  No clause has two readings (`reading_unique`).  This is shown by a reader that
  goes through the pieces once, with a stack of what is open, and finds every
  reading there is (`Reads.read`).
-/
import RecordMapper.Proofs.Condition.Truth
import RecordMapper.Sql.Formula

namespace RecordMapper

/-! ## §1. The grammar. -/

/-- **A sentence**: what a where clause is read as, whose atoms are known by number. -/
inductive Sentence where
  | atom (i : Nat)
  | not (e : Sentence)
  | and (a b : Sentence)
  | or (a b : Sentence)
  deriving DecidableEq, Repr

/-- The value of a sentence, given those of the atoms. -/
def Sentence.value (σ : Nat → Truth) : Sentence → Truth
  | .atom i => σ i
  | .not e => (e.value σ).not
  | .and a b => (a.value σ).and (b.value σ)
  | .or a b => (a.value σ).or (b.value σ)

/-- The levels of the grammar. -/
inductive Level where
  | primary
  | factor
  | term
  | search
  deriving DecidableEq, Repr

/-- **The grammar**: the pieces are read so at a level. -/
inductive Reads : Level → List (Piece Nat) → Sentence → Prop
  | atom (i : Nat) : Reads .primary [.atom i] (.atom i)
  | parentheses {ps : List (Piece Nat)} {e : Sentence} (h : Reads .search ps e) :
      Reads .primary (.opening :: ps ++ [.closing]) e
  | plain {ps : List (Piece Nat)} {e : Sentence} (h : Reads .primary ps e) : Reads .factor ps e
  | not {ps : List (Piece Nat)} {e : Sentence} (h : Reads .primary ps e) :
      Reads .factor (.not :: ps) (.not e)
  | factor {ps : List (Piece Nat)} {e : Sentence} (h : Reads .factor ps e) : Reads .term ps e
  | and {ps qs : List (Piece Nat)} {a b : Sentence} (ha : Reads .term ps a)
      (hb : Reads .factor qs b) : Reads .term (ps ++ .connective .and :: qs) (.and a b)
  | term {ps : List (Piece Nat)} {e : Sentence} (h : Reads .term ps e) : Reads .search ps e
  | or {ps qs : List (Piece Nat)} {a b : Sentence} (ha : Reads .search ps a)
      (hb : Reads .term qs b) : Reads .search (ps ++ .connective .or :: qs) (.or a b)

/-! ## §2. The reader. -/

/-- **What is open** inside a pair of parentheses: the terms read so far under OR, the
factors read so far under AND, and whether the next primary is negated. -/
structure Frame where
  terms : Option Sentence
  factors : Option Sentence
  negated : Bool
  deriving DecidableEq, Repr

namespace Frame

/-- Nothing is read yet. -/
def start : Frame := ⟨none, none, false⟩

/-- Sentences connected, the first of which may be absent. -/
def joined (f : Sentence → Sentence → Sentence) : Option Sentence → Sentence → Sentence
  | none, e => e
  | some a, e => f a e

/-- A primary is read. -/
def primary (f : Frame) (e : Sentence) : Frame :=
  ⟨f.terms, some (joined .and f.factors (if f.negated then .not e else e)), false⟩

/-- What has been read, when something has. -/
def result? (f : Frame) : Option Sentence :=
  f.factors.map (joined .or f.terms)

/-- The term is over. -/
def nextTerm (f : Frame) : Frame :=
  ⟨f.result?, none, false⟩

end Frame

/-- One piece is read; the innermost parentheses come first. -/
def readPiece : List Frame → Piece Nat → Option (List Frame)
  | f :: outer, .atom i => some (f.primary (.atom i) :: outer)
  | f :: outer, .not => some ({ f with negated := true } :: outer)
  | f :: outer, .connective .and => some (f :: outer)
  | f :: outer, .connective .or => some (f.nextTerm :: outer)
  | f :: outer, .opening => some (.start :: f :: outer)
  | f :: g :: outer, .closing => f.result?.map fun e => g.primary e :: outer
  | _, _ => none

/-- Pieces are read one after the other. -/
def readPieces : List Frame → List (Piece Nat) → Option (List Frame)
  | frames, [] => some frames
  | frames, p :: ps => (readPiece frames p).bind fun frames => readPieces frames ps

/-- **The reading of a clause**, if it has one. -/
def readClause (ps : List (Piece Nat)) : Option Sentence :=
  match readPieces [.start] ps with
  | some [f] => f.result?
  | _ => none

theorem readPieces_append (ps qs : List (Piece Nat)) :
    ∀ frames, readPieces frames (ps ++ qs)
      = (readPieces frames ps).bind fun frames => readPieces frames qs := by
  induction ps with
  | nil => intro frames; rfl
  | cons p ps ih =>
      intro frames
      show (readPiece frames p).bind (fun frames => readPieces frames (ps ++ qs)) = _
      rw [show (fun frames => readPieces frames (ps ++ qs))
        = fun frames => (readPieces frames ps).bind fun frames => readPieces frames qs from funext ih]
      exact (Option.bind_assoc _ _ _).symm

/-! ## §3. The reader finds every reading. -/

/-- **What reading pieces of a level does** to the innermost open parentheses. -/
def Level.Effect : Level → List (Piece Nat) → Sentence → Prop
  | .primary, ps, e => ∀ f outer, readPieces (f :: outer) ps = some (f.primary e :: outer)
  | .factor, ps, e => ∀ terms factors outer, readPieces (⟨terms, factors, false⟩ :: outer) ps
      = some (⟨terms, some (Frame.joined .and factors e), false⟩ :: outer)
  | .term, ps, e => ∀ terms outer, readPieces (⟨terms, none, false⟩ :: outer) ps
      = some (⟨terms, some e, false⟩ :: outer)
  | .search, ps, e => ∀ outer, ∃ terms factors, Frame.joined .or terms factors = e
      ∧ readPieces (.start :: outer) ps = some (⟨terms, some factors, false⟩ :: outer)

/-- **Every reading has its effect** on the reader. -/
theorem Reads.effect {level : Level} {ps : List (Piece Nat)} {e : Sentence}
    (h : Reads level ps e) : level.Effect ps e := by
  induction h with
  | atom i =>
      intro f outer
      rfl
  | @parentheses ps e _ ih =>
      intro f outer
      -- What is inside is read in a frame of its own, which the parenthesis then closes.
      obtain ⟨terms, factors, he, hread⟩ := ih (f :: outer)
      show readPieces (.start :: f :: outer) (ps ++ [.closing]) = _
      rw [readPieces_append, hread]
      show some ((f.primary (Frame.joined .or terms factors)) :: outer) = _
      rw [he]
  | plain _ ih =>
      intro terms factors outer
      exact ih ⟨terms, factors, false⟩ outer
  | not _ ih =>
      intro terms factors outer
      -- NOT is kept in the frame until the primary behind it is read.
      exact ih ⟨terms, factors, true⟩ outer
  | factor _ ih =>
      intro terms outer
      exact ih terms none outer
  | @and ps qs a b _ _ iha ihb =>
      intro terms outer
      rw [readPieces_append, iha terms outer]
      exact ihb terms (some a) outer
  | term _ ih =>
      intro outer
      exact ⟨none, _, rfl, ih none outer⟩
  | @or ps qs a b _ _ iha ihb =>
      intro outer
      -- OR closes the term read so far, and the next one begins without factors.
      obtain ⟨terms, factors, ha, hread⟩ := iha outer
      refine ⟨some a, b, rfl, ?_⟩
      rw [readPieces_append, hread]
      show readPieces (⟨some (Frame.joined .or terms factors), none, false⟩ :: outer) qs = _
      rw [ha]
      exact ihb (some a) outer

/-- **The reader finds the reading** of a clause. -/
theorem Reads.read {ps : List (Piece Nat)} {e : Sentence} (h : Reads .search ps e) :
    readClause ps = some e := by
  obtain ⟨terms, factors, he, hread⟩ := h.effect []
  unfold readClause
  rw [hread]
  show some (Frame.joined .or terms factors) = some e
  rw [he]

/-- **A clause has no two readings.** -/
theorem reading_unique {ps : List (Piece Nat)} {e e' : Sentence} (h : Reads .search ps e)
    (h' : Reads .search ps e') : e' = e :=
  Option.some.inj (h'.read.symm.trans h.read)

/-- NOT binds tighter than AND, AND tighter than OR. -/
example : readClause [.not, .atom 0, .connective .and, .atom 1, .connective .or, .atom 2]
    = some (.or (.and (.not (.atom 0)) (.atom 1)) (.atom 2)) := rfl

end RecordMapper
