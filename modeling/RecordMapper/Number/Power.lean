/-
  RecordMapper.Number.Power
  ────────────────────────────────
  **POWERS OF TWO AND TEN.**

  Binary numbers are counted in units that are powers of two, decimal ones in
  powers of ten.  The laws here are those by which exponents add up.
-/
namespace RecordMapper.Number

/-- **A power of two.** -/
def twoTo (n : Nat) : Nat := Nat.pow 2 n

/-- **A power of ten.** -/
def tenTo (n : Nat) : Nat := Nat.pow 10 n

/-! ## Laws of exponents. -/

@[simp] theorem twoTo_zero : twoTo 0 = 1 := rfl

theorem twoTo_succ (n : Nat) : twoTo (n + 1) = twoTo n * 2 := rfl

theorem twoTo_pos (n : Nat) : 0 < twoTo n := by
  induction n with
  | zero => decide
  | succ n ih => rw [twoTo_succ]; omega

@[simp] theorem tenTo_zero : tenTo 0 = 1 := rfl

theorem tenTo_succ (n : Nat) : tenTo (n + 1) = tenTo n * 10 := rfl

end RecordMapper.Number
