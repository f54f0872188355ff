/-
  RecordMapper.Proofs.Text.Separated
  ────────────────────────────────
  **WHERE SEPARATORS STAND.**

  A list is to be written with one separator between each two of the pieces that are not
  blank.  A separator is written behind a piece, as soon as another piece follows, and
  nothing asks whether one of those that follow writes anything.  So blank pieces in front
  and in the middle leave no trace, but blank pieces at the end leave one separator behind
  the last piece that was written.

  Main results:
    • `filter_separated` — the rule, for pieces of any type;
    • `writeOneByOne_eq` — deciding by the growth of the text comes to the same;
    • `separated_text_joined_iff` — when a list is written as it is to be.
-/
import Mathlib.Data.String.Basic
import RecordMapper.Text.Joined

namespace RecordMapper.Text

/-! ## §1. Pieces of any type. -/

section

variable {α : Type} {blank : α → Bool} {sep : α}

/-- **A separator is left over**: something is written, but the last piece is blank. -/
def leavesSeparator (blank : α → Bool) (pieces : List α) : Bool :=
  pieces.any (!blank ·) && pieces.getLast?.any blank

/-- A blank piece in front leaves no separator over. -/
theorem leavesSeparator_cons_of_blank {x : α} (hx : blank x = true) (y : α) (rest : List α) :
    leavesSeparator blank (x :: y :: rest) = leavesSeparator blank (y :: rest) := by
  unfold leavesSeparator
  rw [List.any_cons, hx, List.getLast?_cons_cons]
  rfl

/-- Behind a piece that is not blank, pieces that are all blank leave a separator over. -/
theorem leavesSeparator_cons_of_not_blank {x : α} (hx : blank x = false) (y : α) (rest : List α) :
    leavesSeparator blank (x :: y :: rest)
      = if (y :: rest).any (!blank ·) then leavesSeparator blank (y :: rest) else true := by
  unfold leavesSeparator
  rw [List.any_cons, hx, List.getLast?_cons_cons]
  cases hany : (y :: rest).any (!blank ·) with
  | true => rfl
  | false =>
      have hlast : (y :: rest).getLast?.any blank = true := by
        rw [List.getLast?_eq_some_getLast (List.cons_ne_nil y rest), Option.any_some]
        have hblank := List.any_eq_false.1 hany _ (List.getLast_mem (List.cons_ne_nil y rest))
        simpa using hblank
      rw [hlast]
      rfl

/-- **Where separators stand**: between the pieces that are not blank, and behind the last
of them where one is left over. -/
theorem filter_separated (hsep : blank sep = false) : ∀ pieces : List α,
    (separated blank sep pieces).filter (!blank ·)
      = (pieces.filter (!blank ·)).intersperse sep
        ++ if leavesSeparator blank pieces then [sep] else []
  | [] => rfl
  | [x] => by
      cases hx : blank x <;> simp [separated, leavesSeparator, hx]
  | x :: y :: rest => by
      have ih := filter_separated hsep (y :: rest)
      unfold separated
      cases hx : blank x with
      | true =>
          rw [if_pos rfl, leavesSeparator_cons_of_blank hx, List.filter_cons_of_neg (by simp [hx]),
            List.filter_cons_of_neg (by simp [hx]), ih]
      | false =>
          rw [if_neg (by simp), leavesSeparator_cons_of_not_blank hx,
            List.filter_cons_of_pos (by simp [hx]), List.filter_cons_of_pos (by simp [hsep]),
            List.filter_cons_of_pos (by simp [hx]), ih]
          -- The separator behind the piece belongs to the next one that is not blank, or is
          -- left over.
          cases hothers : (y :: rest).filter (!blank ·) with
          | nil =>
              have hany : (y :: rest).any (!blank ·) = false := by
                simpa using hothers
              simp [leavesSeparator, hany]
          | cons z others =>
              have hany : (y :: rest).any (!blank ·) = true := by
                obtain ⟨hz, hblank⟩ := List.mem_filter.1 (hothers ▸ List.mem_cons_self : z ∈ _)
                exact List.any_eq_true.2 ⟨z, hz, hblank⟩
              rw [hany, if_pos rfl, List.intersperse_cons_cons]
              rfl

end

/-! ## §2. Pieces of text. -/

/-- Empty texts add nothing. -/
theorem join_filter_not_empty (pieces : List String) :
    String.join (pieces.filter (· != "")) = String.join pieces := by
  induction pieces with
  | nil => rfl
  | cons piece rest ih =>
      by_cases hpiece : piece = ""
      · simp [hpiece, ih]
      · simp [hpiece, ih]

/-- Texts with a separator between each two. -/
theorem join_intersperse (sep : String) : ∀ pieces : List String,
    String.join (pieces.intersperse sep) = sep.intercalate pieces
  | [] => rfl
  | [piece] => by simp
  | a :: b :: rest => by
      rw [List.intersperse_cons_cons, String.join_cons, String.join_cons, join_intersperse,
        String.intercalate_cons_cons, String.append_assoc]

/-- **What is written behind a text**: the pieces that are not empty, with the separator
between each two, and once more where one is left over. -/
theorem appendSeparated_eq {sep : String} (hsep : sep ≠ "") (out : String) (pieces : List String) :
    appendSeparated out pieces sep
      = out ++ sep.intercalate (pieces.filter (· != ""))
        ++ if leavesSeparator (· == "") pieces then sep else "" := by
  have hseparated : (separated (· == "") sep pieces).filter (· != "")
      = (pieces.filter (· != "")).intersperse sep
        ++ if leavesSeparator (· == "") pieces then [sep] else [] :=
    filter_separated (by simpa using hsep) pieces
  unfold appendSeparated
  rw [← join_filter_not_empty, hseparated, String.join_append, join_intersperse, String.append_assoc]
  split <;> simp

/-! ## §3. Writing piece by piece. -/

/-- **Writing piece by piece**: a separator is written in front of a piece if the text grew
by the piece before it, that is, since it had `length` bytes. -/
def writeOneByOne (sep : String) : (out : String) → (length : Nat) → List String → String
  | out, _, [] => out
  | out, length, piece :: rest =>
    let out := if length < out.utf8ByteSize then out ++ sep else out
    writeOneByOne sep (out ++ piece) out.utf8ByteSize rest

/-- The text has grown by the piece before when that was not empty. -/
theorem writeOneByOne_behind (sep : String) : ∀ (rest : List String) (out piece : String),
    writeOneByOne sep (out ++ piece) out.utf8ByteSize rest
      = appendSeparated out (piece :: rest) sep
  | [], out, piece => by
      simp [writeOneByOne, appendSeparated, separated]
  | next :: rest, out, piece => by
      unfold writeOneByOne
      by_cases hpiece : piece = ""
      · have hgrown : ¬ out.utf8ByteSize < (out ++ piece).utf8ByteSize := by
          simp [hpiece]
        simp only [if_neg hgrown, writeOneByOne_behind sep rest]
        simp [appendSeparated, separated, hpiece]
      · have hgrown : out.utf8ByteSize < (out ++ piece).utf8ByteSize := by
          have hsize := mt String.utf8ByteSize_eq_zero_iff.1 hpiece
          rw [String.utf8ByteSize_append]
          omega
        simp only [if_pos hgrown, writeOneByOne_behind sep rest]
        simp [appendSeparated, separated, hpiece, String.append_assoc]

/-- **Deciding by the growth of the text** writes the same, whatever the text was. -/
theorem writeOneByOne_eq (sep out : String) (pieces : List String) :
    writeOneByOne sep out out.utf8ByteSize pieces = appendSeparated out pieces sep := by
  cases pieces with
  | nil => simp [writeOneByOne, appendSeparated, separated]
  | cons piece rest =>
      rw [writeOneByOne, if_neg (Nat.lt_irrefl _)]
      exact writeOneByOne_behind sep rest out piece

/-! ## §4. Lists as they are to be. -/

/-- **When a list is written as it is to be.**  A text is followed by the pieces that are not
empty, with the separator between each two; one more separator follows exactly when the last
piece is empty and another is not.  Deciding piece by piece whether the text has grown comes to
the same. -/
theorem separated_text_joined_iff (out : String) (pieces : List String) {sep : String}
    (hsep : sep ≠ "") :
    writeOneByOne sep out out.utf8ByteSize pieces = appendSeparated out pieces sep
      ∧ appendSeparated out pieces sep
        = out ++ sep.intercalate (pieces.filter (· != ""))
          ++ (if leavesSeparator (· == "") pieces then sep else "")
      ∧ (appendSeparated out pieces sep = out ++ sep.intercalate (pieces.filter (· != ""))
        ↔ ¬ (pieces.getLast? = some "" ∧ ∃ piece ∈ pieces, piece ≠ "")) := by
  have hleaves : leavesSeparator (· == "") pieces = true
      ↔ pieces.getLast? = some "" ∧ ∃ piece ∈ pieces, piece ≠ "" := by
    unfold leavesSeparator
    rw [Bool.and_eq_true, and_comm]
    refine and_congr ?_ ?_
    · cases pieces.getLast? <;> simp
    · simp
  refine ⟨writeOneByOne_eq sep out pieces, appendSeparated_eq hsep out pieces, ?_⟩
  rw [appendSeparated_eq hsep, ← hleaves]
  cases leavesSeparator (· == "") pieces with
  | true =>
      refine iff_of_false (fun h => hsep ?_) (by simp)
      rw [if_pos rfl, String.append_eq_left_iff] at h
      exact h
  | false => exact iff_of_true (by simp) (by simp)

/-- Empty pieces in front and between others leave no trace. -/
theorem sparse_list_joined : ", " ≠ ""
    ∧ appendSeparated "SELECT " ["", "id", "", "", "name"] ", " = "SELECT id, name" := by
  obtain ⟨-, -, hjoined⟩ :=
    separated_text_joined_iff "SELECT " ["", "id", "", "", "name"] (show ", " ≠ "" by decide)
  exact ⟨by decide, (hjoined.2 (by decide)).trans (by decide +kernel)⟩

/-- **Not every list is joined**: an empty piece at the end leaves a separator behind the one
before it. -/
theorem not_every_list_joined :
    ¬ ∀ (out : String) (pieces : List String) (sep : String), sep ≠ "" →
      appendSeparated out pieces sep = out ++ sep.intercalate (pieces.filter (· != "")) := by
  intro hjoined
  have h := hjoined "" ["a", ""] ", " (by decide)
  exact absurd h (by decide +kernel)

end RecordMapper.Text
