/-
  RecordMapper.Sql.Formula
  ────────────────────────────────
  **CONDITIONS AS WRITTEN FORMULAS.**

  A where clause connects conditions with AND and OR, negates them, and puts
  parentheses around every connected set.  A formula is the tree of such a
  clause; its pieces are the clause read left to right, in which each condition
  is one atom.
-/
import RecordMapper.Sql.Dialect

namespace RecordMapper

/-- **A formula** over atoms. -/
inductive Formula (α : Type) where
  | atom (a : α) (negated : Bool)
  | set (connector : Connector) (children : List (Formula α)) (negated : Bool)

/-- **A piece** of a written formula. -/
inductive Piece (α : Type) where
  | opening
  | closing
  | not
  | connective (c : Connector)
  | atom (a : α)
  deriving DecidableEq, Repr

namespace Formula

variable {α : Type}

/-- Pieces in parentheses, negated if asked. -/
def group (negated : Bool) (pieces : List (Piece α)) : List (Piece α) :=
  (if negated then [.not] else []) ++ .opening :: pieces ++ [.closing]

/-- The pieces of a connected set whose children are written as given; a set of
which nothing is written is not written. -/
def connect (connector : Connector) (negated : Bool) (children : List (List (Piece α))) :
    List (Piece α) :=
  match (Text.separated List.isEmpty [.connective connector] children).flatten with
  | [] => []
  | pieces => group negated pieces

/-- **The pieces of a formula.**  A negated atom stands in parentheses; an atom
that is not negated stands alone. -/
def pieces : Formula α → List (Piece α)
  | .atom a negated => if negated then group true [.atom a] else [.atom a]
  | .set connector children negated => connect connector negated (go children)
where
  go : List (Formula α) → List (List (Piece α))
    | [] => []
    | f :: rest => f.pieces :: go rest

end Formula

variable {ι : Type}

/-- What a piece writes. -/
def Piece.write : Piece (Sql ι) → Sql ι
  | .opening => Sql.lit "("
  | .closing => Sql.lit ")"
  | .not => Sql.lit "NOT "
  | .connective c => Sql.lit (Dialect.connector c)
  | .atom sql => sql

/-- **The text of a formula.** -/
def Formula.write (f : Formula (Sql ι)) : Sql ι :=
  f.pieces.flatMap Piece.write

end RecordMapper
