/-
  RecordMapper.Proofs.Statement.Pieces
  ────────────────────────────────
  **NUMBERING THE ATOMS OF A FORMULA.**

  The pieces of a formula are its atoms between parentheses, negations and
  connectives.  Atoms may be given numbers, each as many as it is wide: where the
  numbers are those of parameters, an atom is as wide as it has placeholders; where
  they count the atoms themselves, every atom is one wide.  Numbers pass through a
  connected set to its children, whichever they are.
-/
import RecordMapper.Proofs.Statement.Numbering

namespace RecordMapper

variable {α β : Type}

namespace Piece

/-- The width of a piece: that of its atom, if it is one. -/
def width (w : α → Nat) : Piece α → Nat
  | .atom a => w a
  | _ => 0

/-- A piece whose atom is numbered. -/
def number (num : Nat → α → β) (k : Nat) : Piece α → Piece β
  | .opening => .opening
  | .closing => .closing
  | .not => .not
  | .connective c => .connective c
  | .atom a => .atom (num k a)

end Piece

namespace Formula

section

variable (w : α → Nat) (num : Nat → α → β)

/-- The width of pieces. -/
def width (ps : List (Piece α)) : Nat :=
  (ps.map (Piece.width w)).sum

/-- **Pieces whose atoms are numbered** from `k` on. -/
def number (k : Nat) (ps : List (Piece α)) : List (Piece β) :=
  numberFrom (Piece.width w) (Piece.number num) k ps

/-- Parentheses and a negation take no number. -/
theorem number_group (negated : Bool) (ps : List (Piece α)) (k : Nat) :
    number w num k (group negated ps) = group negated (number w num k ps) := by
  unfold number group
  cases negated <;> simp [numberFrom, numberFrom_append, Piece.width, Piece.number]

/-- **Numbering passes through a connected set.** -/
theorem number_connect (c : Connector) (negated : Bool) (children : List (List (Piece α)))
    (k : Nat) :
    number w num k (connect c negated children)
      = connect c negated (numberFrom (width w) (number w num) k children) := by
  -- Separators go between children that are not blank, and numbering blanks none.
  have hblank : ∀ k (ps : List (Piece α)), (number w num k ps).isEmpty = ps.isEmpty := by
    intro k ps
    cases ps <;> rfl
  have hflat : (Text.separated List.isEmpty [.connective c]
        (numberFrom (width w) (number w num) k children)).flatten
      = number w num k (Text.separated List.isEmpty [.connective c] children).flatten := by
    rw [numberFrom_separated _ _ List.isEmpty List.isEmpty [.connective c] [.connective c]
      hblank rfl fun _ => rfl]
    exact numberFrom_flatten _ _ _ k
  unfold connect
  rw [hflat]
  cases hps : (Text.separated List.isEmpty [.connective c] children).flatten with
  | nil => rfl
  | cons p ps => exact number_group w num negated (p :: ps) k

end

end Formula

end RecordMapper
