/-
  RecordMapper.Proofs.Text.Patterns
  ────────────────────────────────
  **GLOBS AS REGULAR EXPRESSIONS.**

  In a glob an asterisk stands for any text and every other character for itself.  A
  database that matches columns with regular expressions is given one instead: points are
  escaped first, since they would stand for any character, and then a point is put in
  front of every asterisk.  The order matters, for the points of the second step must not
  be escaped.  Character by character the outcome is one item of a regular expression for
  each character of the glob, and an item takes just what its character stands for.

  Main results:
    • `read_pattern` — how the pattern of a glob reads;
    • `matches_ofGlob_iff` — such items match what fits the glob;
    • `searches_mean_globs` — what the three operators that disregard letter case find.
-/
import Mathlib.Data.List.Infix
import RecordMapper.Sql.Dialect

namespace RecordMapper

/-! ## §1. Globs. -/

/-- **A text fits a glob**: an asterisk stands for any text, every other character for one
that `fold` makes the same. -/
inductive Glob.Fits (fold : Char → Char) : (glob text : List Char) → Prop
  | nil : Fits fold [] []
  | anything {glob rest : List Char} (skipped : List Char) (h : Fits fold glob rest) :
      Fits fold ('*' :: glob) (skipped ++ rest)
  | same {c d : Char} {glob rest : List Char} (hc : c ≠ '*') (hd : fold c = fold d)
      (h : Fits fold glob rest) : Fits fold (c :: glob) (d :: rest)

namespace Glob

variable {fold : Char → Char} {glob text : List Char}

theorem fits_nil_iff : Fits fold [] text ↔ text = [] := by
  constructor
  · rintro ⟨⟩
    rfl
  · rintro rfl
    exact .nil

theorem fits_asterisk_iff :
    Fits fold ('*' :: glob) text ↔ ∃ skipped rest, text = skipped ++ rest ∧ Fits fold glob rest := by
  constructor
  · intro h
    cases h with
    | anything skipped h => exact ⟨skipped, _, rfl, h⟩
    | same hc => exact absurd rfl hc
  · rintro ⟨skipped, rest, rfl, h⟩
    exact .anything skipped h

theorem fits_char_iff {c : Char} (hc : c ≠ '*') :
    Fits fold (c :: glob) text ↔ ∃ d rest, text = d :: rest ∧ fold c = fold d ∧ Fits fold glob rest := by
  constructor
  · intro h
    cases h with
    | anything => exact absurd rfl hc
    | same _ hd h => exact ⟨_, _, rfl, hd, h⟩
  · rintro ⟨d, rest, rfl, hd, h⟩
    exact .same hc hd h

end Glob

/-! ## §2. Regular expressions. -/

namespace Regex

/-- **An item of a regular expression.** -/
inductive Item where
  /-- The beginning of the text. -/
  | start
  /-- The end of the text. -/
  | finish
  | char (c : Char)
  /-- Any text of one line. -/
  | anyText
  deriving DecidableEq, Repr

/-- **Reading a regular expression**: `\.` is a point, `.*` any text, `^` and `$` are the ends
of the text, and any other character is itself. -/
def read : List Char → List Item
  | [] => []
  | '\\' :: '.' :: rest => .char '.' :: read rest
  | '.' :: '*' :: rest => .anyText :: read rest
  | '^' :: rest => .start :: read rest
  | '$' :: rest => .finish :: read rest
  | c :: rest => .char c :: read rest

/-- **An item takes a stretch** of a text, between what stands before and after it. -/
def Item.Takes (fold : Char → Char) : Item → (before stretch after : List Char) → Prop
  | .start, before, stretch, _ => before = [] ∧ stretch = []
  | .finish, _, stretch, after => stretch = [] ∧ after = []
  | .char c, _, stretch, _ => ∃ d, stretch = [d] ∧ fold c = fold d
  | .anyText, _, stretch, _ => '\n' ∉ stretch

/-- **Items match a stretch** of a text: each takes a part of it, one behind the other. -/
def Matches (fold : Char → Char) : List Item → (before stretch after : List Char) → Prop
  | [], _, stretch, _ => stretch = []
  | item :: items, before, stretch, after =>
    ∃ first rest, stretch = first ++ rest ∧ item.Takes fold before first (rest ++ after)
      ∧ Matches fold items (before ++ first) rest after

/-- **The pattern is found in the text**: it matches some stretch of it. -/
def Found (fold : Char → Char) (pattern text : String) : Prop :=
  ∃ before stretch after, text.toList = before ++ stretch ++ after
    ∧ Matches fold (read pattern.toList) before stretch after

variable {fold : Char → Char} {items : List Item} {before stretch after : List Char}

/-- What begins at the beginning matches a stretch with nothing before it. -/
theorem matches_start_iff :
    Matches fold (.start :: items) before stretch after
      ↔ before = [] ∧ Matches fold items [] stretch after := by
  constructor
  · rintro ⟨first, rest, rfl, ⟨rfl, rfl⟩, h⟩
    exact ⟨rfl, h⟩
  · rintro ⟨rfl, h⟩
    exact ⟨[], stretch, rfl, ⟨rfl, rfl⟩, h⟩

/-- What ends at the end matches a stretch with nothing after it. -/
theorem matches_concat_finish_iff :
    Matches fold (items ++ [.finish]) before stretch after
      ↔ after = [] ∧ Matches fold items before stretch [] := by
  induction items generalizing before stretch with
  | nil =>
      constructor
      · rintro ⟨first, rest, rfl, ⟨rfl, hafter⟩, hrest⟩
        obtain rfl : rest = [] := hrest
        exact ⟨hafter, rfl⟩
      · rintro ⟨rfl, hstretch⟩
        obtain rfl : stretch = [] := hstretch
        exact ⟨[], [], rfl, ⟨rfl, rfl⟩, rfl⟩
  | cons item items ih =>
      rw [List.cons_append]
      constructor
      · rintro ⟨first, rest, rfl, hitem, h⟩
        obtain ⟨rfl, hitems⟩ := ih.1 h
        exact ⟨rfl, first, rest, rfl, hitem, hitems⟩
      · rintro ⟨rfl, first, rest, rfl, hitem, h⟩
        exact ⟨first, rest, rfl, hitem, ih.2 ⟨rfl, h⟩⟩

/-- The item that takes what a character of a glob stands for. -/
def Item.ofGlob (c : Char) : Item :=
  if c = '*' then .anyText else .char c

/-- **Items of a glob match what fits it**, within a line. -/
theorem matches_ofGlob_iff {glob : List Char} (hline : '\n' ∉ stretch) :
    Matches fold (glob.map Item.ofGlob) before stretch after ↔ Glob.Fits fold glob stretch := by
  induction glob generalizing before stretch with
  | nil => exact Glob.fits_nil_iff.symm
  | cons c glob ih =>
      have hparts : ∀ first rest, stretch = first ++ rest → '\n' ∉ first ∧ '\n' ∉ rest := by
        rintro first rest rfl
        exact not_or.1 (mt List.mem_append.2 hline)
      rw [List.map_cons, Item.ofGlob]
      by_cases hc : c = '*'
      · rw [if_pos hc, hc, Glob.fits_asterisk_iff]
        constructor
        · rintro ⟨first, rest, hstretch, -, h⟩
          exact ⟨first, rest, hstretch, (ih (hparts _ _ hstretch).2).1 h⟩
        · rintro ⟨first, rest, hstretch, h⟩
          obtain ⟨hfirst, hrest⟩ := hparts _ _ hstretch
          exact ⟨first, rest, hstretch, hfirst, (ih hrest).2 h⟩
      · rw [if_neg hc, Glob.fits_char_iff hc]
        constructor
        · rintro ⟨first, rest, hstretch, ⟨d, rfl, hd⟩, h⟩
          exact ⟨d, rest, hstretch, hd, (ih (hparts _ _ hstretch).2).1 h⟩
        · rintro ⟨d, rest, hstretch, hd, h⟩
          exact ⟨[d], rest, hstretch, ⟨d, rfl, hd⟩, (ih (hparts [d] rest hstretch).2).2 h⟩

/-- A part of a text of one line is of one line. -/
theorem line_of_split {text : String} (hline : '\n' ∉ text.toList)
    (hsplit : text.toList = before ++ stretch ++ after) : '\n' ∉ stretch := by
  intro hmem
  rw [hsplit] at hline
  exact hline (List.mem_append_left _ (List.mem_append_right _ hmem))

section

variable {pattern text : String} {glob : List Char} (hline : '\n' ∉ text.toList)

include hline

/-- Items of a glob are found where some part of the text fits it. -/
theorem found_part_iff (hread : read pattern.toList = glob.map Item.ofGlob) :
    Found fold pattern text ↔ ∃ part, part <:+: text.toList ∧ Glob.Fits fold glob part := by
  unfold Found
  rw [hread]
  constructor
  · rintro ⟨before, part, after, hsplit, h⟩
    exact ⟨part, ⟨before, after, hsplit.symm⟩, (matches_ofGlob_iff (line_of_split hline hsplit)).1 h⟩
  · rintro ⟨part, ⟨before, after, hsplit⟩, h⟩
    exact ⟨before, part, after, hsplit.symm,
      (matches_ofGlob_iff (line_of_split hline hsplit.symm)).2 h⟩

/-- From the beginning, they are found where a prefix of the text fits the glob. -/
theorem found_prefix_iff (hread : read pattern.toList = .start :: glob.map Item.ofGlob) :
    Found fold pattern text ↔ ∃ part, part <+: text.toList ∧ Glob.Fits fold glob part := by
  unfold Found
  rw [hread]
  constructor
  · rintro ⟨before, part, after, hsplit, h⟩
    obtain ⟨rfl, hitems⟩ := matches_start_iff.1 h
    exact ⟨part, ⟨after, hsplit.symm⟩, (matches_ofGlob_iff (line_of_split hline hsplit)).1 hitems⟩
  · rintro ⟨part, ⟨after, hsplit⟩, h⟩
    have hsplit : text.toList = [] ++ part ++ after := hsplit.symm
    have hpart := line_of_split hline hsplit
    exact ⟨[], part, after, hsplit, matches_start_iff.2 ⟨rfl, (matches_ofGlob_iff hpart).2 h⟩⟩

/-- From the beginning to the end, they are found where the text fits the glob. -/
theorem found_whole_iff
    (hread : read pattern.toList = .start :: (glob.map Item.ofGlob ++ [.finish])) :
    Found fold pattern text ↔ Glob.Fits fold glob text.toList := by
  unfold Found
  rw [hread]
  constructor
  · rintro ⟨before, part, after, hsplit, h⟩
    obtain ⟨rfl, hrest⟩ := matches_start_iff.1 h
    obtain ⟨rfl, hitems⟩ := matches_concat_finish_iff.1 hrest
    have hwhole : text.toList = part := by simpa using hsplit
    rw [hwhole]
    exact (matches_ofGlob_iff (line_of_split hline hsplit)).1 hitems
  · intro h
    refine ⟨[], text.toList, [], by simp, matches_start_iff.2 ⟨rfl, ?_⟩⟩
    exact matches_concat_finish_iff.2 ⟨rfl, (matches_ofGlob_iff hline).2 h⟩

end

end Regex

/-! ## §3. The pattern of a glob. -/

/-- Every occurrence of a character becomes a text. -/
def Text.replaced (old : Char) (new : String) (cs : List Char) : List Char :=
  cs.flatMap fun c => if c = old then new.toList else [c]

namespace Glob

/-- **The pattern of a glob**: every point is escaped, and then a point is put in front of
every asterisk. -/
def pattern (glob : String) : String :=
  String.ofList (Text.replaced '*' ".*" (Text.replaced '.' "\\." glob.toList))

/-- What a character of a glob becomes. -/
def expanded (c : Char) : List Char :=
  if c = '.' then ['\\', '.'] else if c = '*' then ['.', '*'] else [c]

/-- **Two replacements, one after the other**, come to one character by character: the first
brings in no asterisk. -/
theorem replaced_replaced (glob : List Char) :
    Text.replaced '*' ".*" (Text.replaced '.' "\\." glob) = glob.flatMap expanded := by
  unfold Text.replaced
  rw [List.flatMap_assoc]
  refine List.flatMap_congr fun c _ => ?_
  unfold expanded
  by_cases hpoint : c = '.'
  · rw [if_pos hpoint, if_pos hpoint]
    rfl
  · rw [if_neg hpoint, if_neg hpoint, List.flatMap_singleton]
    rfl

/-- The pattern is the text that a condition binds. -/
theorem pattern_eq (glob : String) : pattern glob = Dialect.globPattern glob := by
  unfold pattern Dialect.globPattern
  rw [replaced_replaced]
  rfl

/-- **A plain character**: a letter or digit, a space, a point or an asterisk. -/
def IsPlain (c : Char) : Prop :=
  c.isAlphanum = true ∨ c = ' ' ∨ c = '.' ∨ c = '*'

instance (c : Char) : Decidable (IsPlain c) :=
  inferInstanceAs (Decidable (_ ∨ _))

/-- What a plain character becomes reads as one item. -/
theorem read_expanded {c : Char} (h : IsPlain c) (rest : List Char) :
    Regex.read (expanded c ++ rest) = Regex.Item.ofGlob c :: Regex.read rest := by
  unfold expanded Regex.Item.ofGlob
  by_cases hpoint : c = '.'
  · rw [if_pos hpoint, if_neg (by rw [hpoint]; decide), hpoint]
    rfl
  by_cases hasterisk : c = '*'
  · rw [if_neg hpoint, if_pos hasterisk, if_pos hasterisk]
    rfl
  rw [if_neg hpoint, if_neg hasterisk, if_neg hasterisk]
  -- A plain character has no meaning of its own in a regular expression.
  have hself : c ≠ '\\' ∧ c ≠ '^' ∧ c ≠ '$' := by
    refine ⟨?_, ?_, ?_⟩ <;> rintro rfl <;> revert h <;> decide
  obtain ⟨hescape, hstart, hfinish⟩ := hself
  show Regex.read (c :: rest) = _
  rw [Regex.read] <;> simp_all

/-- **How the pattern of a glob reads**, whatever stands behind it: as one item for each
character. -/
theorem read_pattern {glob : String} (h : ∀ c ∈ glob.toList, IsPlain c) (tail : List Char) :
    Regex.read ((pattern glob).toList ++ tail)
      = glob.toList.map Regex.Item.ofGlob ++ Regex.read tail := by
  rw [pattern, String.toList_ofList, replaced_replaced]
  generalize glob.toList = cs at h ⊢
  induction cs with
  | nil => rfl
  | cons c cs ih =>
      rw [List.flatMap_cons, List.append_assoc, read_expanded (h c List.mem_cons_self),
        ih fun c' hc' => h c' (List.mem_cons_of_mem _ hc')]
      rfl

end Glob

/-! ## §4. What is found. -/

open Glob Regex in
/-- **What the operators that disregard letter case find**, where columns are matched with
regular expressions: equality finds a text that fits the glob, the prefix operator one with a
prefix that fits it, and the search operator one with a part that does.  Which letters differ
in case alone is the database's to say (`fold`). -/
theorem searches_mean_globs (fold : Char → Char) {glob text : String}
    (hglob : ∀ c ∈ glob.toList, IsPlain c) (htext : '\n' ∉ text.toList) :
    (Dialect.oracle.castValues .ieq [.varchar (some glob)]
          = [.varchar (some ("^" ++ pattern glob ++ "$"))]
        ∧ (Found fold ("^" ++ pattern glob ++ "$") text ↔ Fits fold glob.toList text.toList))
      ∧ (Dialect.oracle.castValues .istartsWith [.varchar (some glob)]
          = [.varchar (some ("^" ++ pattern glob))]
        ∧ (Found fold ("^" ++ pattern glob) text
          ↔ ∃ part, part <+: text.toList ∧ Fits fold glob.toList part))
      ∧ (Dialect.oracle.castValues .icontains [.varchar (some glob)]
          = [.varchar (some (pattern glob))]
        ∧ (Found fold (pattern glob) text
          ↔ ∃ part, part <:+: text.toList ∧ Fits fold glob.toList part)) := by
  have hpattern : Regex.read (pattern glob).toList = glob.toList.map Item.ofGlob := by
    have hread := read_pattern hglob []
    rwa [List.append_nil, show Regex.read [] = [] by rfl, List.append_nil] at hread
  have hprefix : Regex.read ("^" ++ pattern glob).toList = .start :: glob.toList.map Item.ofGlob := by
    rw [String.toList_append, ← hpattern]
    rfl
  have hwhole : Regex.read ("^" ++ pattern glob ++ "$").toList
      = .start :: (glob.toList.map Item.ofGlob ++ [.finish]) := by
    have hread := read_pattern hglob ['$']
    rw [String.toList_append, String.toList_append]
    show Item.start :: Regex.read ((pattern glob).toList ++ ['$']) = _
    rw [hread]
    rfl
  refine ⟨⟨?_, found_whole_iff htext hwhole⟩, ⟨?_, found_prefix_iff htext hprefix⟩, ?_,
    found_part_iff htext hpattern⟩
  all_goals
    rw [pattern_eq]
    rfl

open Glob Regex in
/-- A glob with a point finds the initials, and not a name with a letter in the place of the
point. -/
theorem initials_found : (∀ c ∈ "j.r*n".toList, IsPlain c)
    ∧ '\n' ∉ "J.R.R. Tolkien".toList ∧ '\n' ∉ "Jar of corn".toList
    ∧ Dialect.oracle.castValues .ieq [.varchar (some "j.r*n")]
      = [.varchar (some "^j\\.r.*n$")]
    ∧ Found Char.toLower "^j\\.r.*n$" "J.R.R. Tolkien"
    ∧ ¬ Found Char.toLower "^j\\.r.*n$" "Jar of corn" := by
  have hplain : ∀ c ∈ "j.r*n".toList, IsPlain c := by
    have hall : "j.r*n".toList.all (fun c => decide (IsPlain c)) = true := by decide
    simpa only [List.all_eq_true, decide_eq_true_eq] using hall
  have hinitials : '\n' ∉ "J.R.R. Tolkien".toList := by decide
  have hjar : '\n' ∉ "Jar of corn".toList := by decide
  have hpattern : "^" ++ pattern "j.r*n" ++ "$" = "^j\\.r.*n$" := by decide +kernel
  obtain ⟨⟨hcast, hfound⟩, -⟩ := searches_mean_globs Char.toLower hplain hinitials
  obtain ⟨⟨-, hfound'⟩, -⟩ := searches_mean_globs Char.toLower hplain hjar
  rw [hpattern] at hcast hfound hfound'
  refine ⟨hplain, hinitials, hjar, hcast, hfound.2 ?_, mt hfound'.1 ?_⟩
  · have hrest : Fits Char.toLower "*n".toList (".R. Tolkie".toList ++ ['n']) :=
      .anything _ (.same (by decide) (by decide) .nil)
    exact .same (by decide) (by decide) (.same (by decide) (by decide)
      (.same (by decide) (by decide) hrest))
  · intro h
    cases h with
    | same _ _ h =>
      cases h with
      | same _ hpoint => exact absurd hpoint (by decide)

end RecordMapper
