/-
  RecordMapper.Proofs.Number.Digits
  ────────────────────────────────
  **NUMBERS READ BACK FROM THEIR DIGITS.**

  A number is written with the digits that it takes, or with the last few of them and
  zeros in front.  Both are runs of digits, and a reader that takes a run sees no more of
  it than the digits and where they end.

  Main results: `readInt?_toString`, and for a fixed width `ofDigits_fixedDigits`.
-/
import RecordMapper.Number.Decimal

namespace RecordMapper.Number

/-! ## §1. Runs of digits. -/

theorem digit?_of_isDigit {c : Char} (h : c.isDigit = true) : digit? c = some (c.toNat - 48) :=
  if_pos h

theorem digit?_of_not_isDigit {c : Char} (h : c.isDigit = false) : digit? c = none :=
  if_neg (Bool.eq_false_iff.1 h)

/-- The digits that characters stand for. -/
def digitsOf (cs : List Char) : List Nat :=
  cs.map fun c => c.toNat - 48

/-- **A run of digits is taken whole**, up to a character that is no digit. -/
theorem spanDigits_append {cs tail : List Char} (hcs : ∀ c ∈ cs, c.isDigit = true)
    (htail : ∀ c ∈ tail.head?, c.isDigit = false) :
    spanDigits (cs ++ tail) = (digitsOf cs, tail) := by
  induction cs with
  | nil =>
      cases tail with
      | nil => rfl
      | cons c tail =>
          rw [List.nil_append, spanDigits, digit?_of_not_isDigit (htail c rfl)]
          rfl
  | cons c cs ih =>
      rw [List.cons_append, spanDigits, digit?_of_isDigit (hcs c List.mem_cons_self)]
      simp only
      rw [ih fun c' hc' => hcs c' (List.mem_cons_of_mem _ hc')]
      rfl

/-- The number that a run of digits denotes is the library's. -/
theorem ofDigits_digitsOf (cs : List Char) :
    ofDigits 0 (digitsOf cs) = Nat.ofDigitChars 10 cs 0 := by
  unfold ofDigits digitsOf
  rw [List.foldl_map]
  rfl

/-! ## §2. A fixed number of digits. -/

theorem digitChar_eq {d : Nat} (hd : d < 10) : digitChar d = Nat.digitChar d := by
  revert d
  decide

theorem fixedDigits_succ (width n : Nat) :
    fixedDigits (width + 1) n = fixedDigits width (n / 10) ++ [Nat.digitChar (n % 10)] := by
  rw [fixedDigits, digitChar_eq (Nat.mod_lt n (by decide))]

theorem length_fixedDigits (width n : Nat) : (fixedDigits width n).length = width := by
  induction width generalizing n with
  | zero => rfl
  | succ width ih => rw [fixedDigits_succ, List.length_append, ih, List.length_singleton]

theorem exists_fixedDigits_cons (width n : Nat) :
    ∃ c cs, fixedDigits (width + 1) n = c :: cs := by
  refine List.exists_cons_of_length_pos ?_
  rw [length_fixedDigits]
  exact Nat.succ_pos width

theorem isDigit_of_mem_fixedDigits {width n : Nat} {c : Char} (h : c ∈ fixedDigits width n) :
    c.isDigit = true := by
  induction width generalizing n with
  | zero => cases h
  | succ width ih =>
      rw [fixedDigits_succ] at h
      rcases List.mem_append.1 h with h | h
      · exact ih h
      · rw [List.mem_singleton.1 h, Nat.isDigit_digitChar]
        exact decide_eq_true (Nat.mod_lt n (by decide))

/-- **A fixed number of digits** denotes the number, less what does not fit. -/
theorem ofDigits_fixedDigits (width n : Nat) :
    ofDigits 0 (digitsOf (fixedDigits width n)) = n % tenTo width := by
  rw [ofDigits_digitsOf]
  induction width generalizing n with
  | zero => exact (Nat.mod_one n).symm
  | succ width ih =>
      have hlast : n % 10 < 10 := Nat.mod_lt n (by decide)
      rw [fixedDigits_succ, Nat.ofDigitChars_append, ih, tenTo_succ,
        Nat.ofDigitChars_cons_digitChar_of_lt_ten hlast, Nat.ofDigitChars_nil,
        Nat.mul_comm (tenTo width), Nat.mod_mul]
      omega

/-! ## §3. Integers. -/

/-- What begins with a digit has no sign. -/
theorem splitSign_of_isDigit {c : Char} {cs : List Char} (h : c.isDigit = true) :
    splitSign (c :: cs) = (false, c :: cs) := by
  unfold splitSign
  split
  · rename_i hsign
    obtain ⟨rfl, -⟩ := List.cons.inj hsign
    cases h
  · rename_i hsign
    obtain ⟨rfl, -⟩ := List.cons.inj hsign
    cases h
  · rfl

/-- A sign, if any, and the digits of a number. -/
theorem readInt?_of_sign {cs : List Char} {negative : Bool} {n : Nat}
    (hsign : splitSign cs = (negative, Nat.toDigits 10 n)) :
    readInt? cs = some (if negative then -(n : Int) else n) := by
  have hne : cs ≠ [] := by
    rintro rfl
    exact Nat.toDigits_ne_nil (Prod.mk.inj hsign).2.symm
  have hdigits : ∀ c ∈ Nat.toDigits 10 n, c.isDigit = true := fun c hc =>
    Nat.isDigit_of_mem_toDigits (by decide) (by decide) hc
  have hspan : spanDigits (Nat.toDigits 10 n ++ []) = (digitsOf (Nat.toDigits 10 n), []) :=
    spanDigits_append hdigits (by simp)
  rw [List.append_nil] at hspan
  unfold readInt?
  simp only [hsign, hspan, ofDigits_digitsOf, Nat.ofDigitChars_ten_toDigits]
  rw [if_neg (by simp [hne])]

/-- **Every integer reads back from its text.** -/
theorem readInt?_toString (n : Int) : readInt? (toString n).toList = some n := by
  rw [Int.toString_eq_repr, Int.repr_eq_if]
  split
  · rename_i hn
    have hsign : splitSign (Nat.toDigits 10 n.toNat) = (false, Nat.toDigits 10 n.toNat) := by
      obtain ⟨c, cs, hcons⟩ : ∃ c cs, Nat.toDigits 10 n.toNat = c :: cs :=
        List.exists_cons_of_ne_nil Nat.toDigits_ne_nil
      have hc : c ∈ Nat.toDigits 10 n.toNat := hcons ▸ List.mem_cons_self
      rw [hcons]
      exact splitSign_of_isDigit (Nat.isDigit_of_mem_toDigits (by decide) (by decide) hc)
    rw [Nat.toList_repr, readInt?_of_sign hsign]
    exact congrArg some (Int.toNat_of_nonneg hn)
  · rename_i hn
    have hsign : splitSign ("-" ++ (-n).toNat.repr).toList
        = (true, Nat.toDigits 10 (-n).toNat) := by
      rw [String.toList_append, Nat.toList_repr]
      rfl
    rw [readInt?_of_sign hsign, if_pos rfl]
    exact congrArg some (by omega)

end RecordMapper.Number
