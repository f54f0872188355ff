/-
  RecordMapper.Proofs.Condition.Written
  ────────────────────────────────
  **A WRITTEN CONDITION IS READ AS IT WAS MEANT.**

  Rendering a condition puts parentheses around every connected set and behind
  every NOT.  So each child of a set is written as one factor, and a set of factors
  under one connective is a chain that the grammar reads from the left; the value
  of the chain does not depend on that, since AND and OR are associative.

  Main result: `formula_written`, with `formulas_written`, by one induction over the
  condition.
-/
import Mathlib.Data.List.Forall2
import RecordMapper.Proofs.Condition.Grammar
import RecordMapper.Proofs.Statement.Pieces
import RecordMapper.Proofs.Statement.Rendering

namespace RecordMapper

/-! ## §1. Atoms and their numbers. -/

namespace Formula

variable {α : Type}

/-- The atom of a piece, if it is one. -/
def atom? : Piece α → Option α
  | .atom a => some a
  | _ => none

/-- **The atoms of written pieces**, left to right. -/
def atoms (ps : List (Piece α)) : List α :=
  ps.filterMap atom?

/-- **Pieces whose atoms are known by number**, from `k` on. -/
def enumerate (k : Nat) (ps : List (Piece α)) : List (Piece Nat) :=
  number (fun _ => 1) (fun k _ => k) k ps

theorem width_one (ps : List (Piece α)) : width (fun _ => 1) ps = (atoms ps).length := by
  induction ps with
  | nil => rfl
  | cons p ps ih =>
      show p.width (fun _ => 1) + width (fun _ => 1) ps = _
      rw [ih]
      cases p with
      | atom a => exact Nat.add_comm 1 _
      | _ => exact Nat.zero_add _

theorem atoms_append (a b : List (Piece α)) : atoms (a ++ b) = atoms a ++ atoms b :=
  List.filterMap_append

theorem atoms_group (negated : Bool) (ps : List (Piece α)) : atoms (group negated ps) = atoms ps := by
  unfold group
  rw [atoms_append, atoms_append]
  show (_ ++ atoms ps) ++ [] = atoms ps
  rw [List.append_nil]
  cases negated <;> rfl

/-- **A connected set has the atoms of its children**, in order. -/
theorem atoms_connect (c : Connector) (negated : Bool) (children : List (List (Piece α))) :
    atoms (connect c negated children) = children.flatMap atoms := by
  have hflat : atoms (Text.separated List.isEmpty [.connective c] children).flatten
      = children.flatMap atoms := by
    rw [← flatMap_separated atoms List.isEmpty [.connective c] rfl children]
    unfold atoms
    rw [List.flatten_eq_flatMap, List.filterMap_flatMap]
    rfl
  unfold connect
  rw [← hflat]
  split
  · rename_i h
    rw [h]
  · exact atoms_group negated _

/-- Pieces none of which is blank, separated. -/
theorem flatten_separated (sep : List (Piece α)) :
    ∀ (ps : List (Piece α)) (rest : List (List (Piece α))), (∀ qs ∈ ps :: rest, qs ≠ []) →
      (Text.separated List.isEmpty sep (ps :: rest)).flatten = ps ++ rest.flatMap (sep ++ ·)
  | ps, [], _ => by
      simp [Text.separated]
  | ps, qs :: rest, h => by
      have ih := flatten_separated sep qs rest fun rs hrs => h rs (List.mem_cons_of_mem _ hrs)
      have hps : ps.isEmpty = false := by
        rw [List.isEmpty_eq_false_iff]
        exact h ps List.mem_cons_self
      unfold Text.separated
      rw [hps, if_neg (by simp), List.flatten_cons, List.flatten_cons, ih, List.flatMap_cons,
        List.append_assoc]

end Formula

/-! ## §2. Chains. -/

theorem Reads.ne_nil {level : Level} {ps : List (Piece Nat)} {e : Sentence}
    (h : Reads level ps e) : ps ≠ [] := by
  induction h with
  | atom | parentheses | not | and | or => simp
  | plain _ ih | factor _ ih | term _ ih => exact ih

/-- Whatever is read is not blank. -/
theorem Reads.all_ne_nil {level : Level} {children : List (List (Piece Nat))} {es : List Sentence}
    (h : List.Forall₂ (Reads level) children es) : ∀ ps ∈ children, ps ≠ [] := by
  induction h with
  | nil =>
      intro ps hps
      cases hps
  | cons ha _ ih =>
      intro ps hps
      rcases List.mem_cons.1 hps with rfl | hps
      · exact ha.ne_nil
      · exact ih ps hps

/-- **Factors under AND** are a term, read from the left. -/
theorem Reads.and_chain {rest : List (List (Piece Nat))} {es : List Sentence}
    (h : List.Forall₂ (Reads .factor) rest es) :
    ∀ {ps : List (Piece Nat)} {a : Sentence}, Reads .term ps a →
      ∃ e, Reads .term (ps ++ rest.flatMap ([.connective .and] ++ ·)) e
        ∧ ∀ σ, e.value σ = (a.value σ).and (Truth.all (es.map (Sentence.value σ))) := by
  induction h with
  | nil =>
      intro ps a ha
      refine ⟨a, ?_, fun σ => (Truth.and_holds _).symm⟩
      rw [List.flatMap_nil, List.append_nil]
      exact ha
  | @cons qs b rest es hb _ ih =>
      intro ps a ha
      -- The chain is read from the left: what was read so far becomes the left side.
      obtain ⟨e, he, hvalue⟩ := ih (ha.and hb)
      refine ⟨e, ?_, fun σ => ?_⟩
      · rw [List.flatMap_cons, List.singleton_append, ← List.append_assoc]
        exact he
      · rw [hvalue]
        exact Truth.and_assoc _ _ _

/-- **Factors under OR** are a search condition, read from the left. -/
theorem Reads.or_chain {rest : List (List (Piece Nat))} {es : List Sentence}
    (h : List.Forall₂ (Reads .factor) rest es) :
    ∀ {ps : List (Piece Nat)} {a : Sentence}, Reads .search ps a →
      ∃ e, Reads .search (ps ++ rest.flatMap ([.connective .or] ++ ·)) e
        ∧ ∀ σ, e.value σ = (a.value σ).or (Truth.any (es.map (Sentence.value σ))) := by
  induction h with
  | nil =>
      intro ps a ha
      refine ⟨a, ?_, fun σ => (Truth.or_fails _).symm⟩
      rw [List.flatMap_nil, List.append_nil]
      exact ha
  | @cons qs b rest es hb _ ih =>
      intro ps a ha
      -- As under AND, except that each factor is a term first.
      obtain ⟨e, he, hvalue⟩ := ih (ha.or hb.factor)
      refine ⟨e, ?_, fun σ => ?_⟩
      · rw [List.flatMap_cons, List.singleton_append, ← List.append_assoc]
        exact he
      · rw [hvalue]
        exact Truth.or_assoc _ _ _

/-- What stands in parentheses is a factor, negated or not. -/
theorem Reads.group {ps : List (Piece Nat)} {e : Sentence} (h : Reads .search ps e)
    (negated : Bool) : ∃ e', Reads .factor (Formula.group negated ps) e'
      ∧ ∀ σ, e'.value σ = (e.value σ).signed negated := by
  cases negated with
  | false => exact ⟨e, .plain (.parentheses h), fun _ => rfl⟩
  | true => exact ⟨.not e, .not (.parentheses h), fun _ => rfl⟩

/-- **A connected set of factors** is a factor, and its value is that of the set. -/
theorem Reads.connect {c : Connector} (hc : c ≠ .comma) (negated : Bool)
    {children : List (List (Piece Nat))} {es : List Sentence} (hne : children ≠ [])
    (h : List.Forall₂ (Reads .factor) children es) :
    ∃ e, Reads .factor (Formula.connect c negated children) e
      ∧ ∀ σ, e.value σ = (Truth.connect c (es.map (Sentence.value σ))).signed negated := by
  have hnonblank := Reads.all_ne_nil h
  cases h with
  | nil => exact absurd rfl hne
  | @cons ps a rest es ha hrest =>
      have hflat := Formula.flatten_separated [.connective c] ps rest hnonblank
      obtain ⟨e, he, hvalue⟩ : ∃ e, Reads .search
          (Text.separated List.isEmpty [.connective c] (ps :: rest)).flatten e
          ∧ ∀ σ, e.value σ = Truth.connect c ((a :: es).map (Sentence.value σ)) := by
        rw [hflat]
        cases c with
        | and =>
            obtain ⟨e, he, hvalue⟩ := Reads.and_chain hrest ha.factor
            exact ⟨e, he.term, hvalue⟩
        | or =>
            obtain ⟨e, he, hvalue⟩ := Reads.or_chain hrest ha.factor.term
            exact ⟨e, he, hvalue⟩
        | comma => exact absurd rfl hc
      -- The chain stands in parentheses, which make a factor of it again.
      obtain ⟨e', he', hvalue'⟩ := he.group negated
      refine ⟨e', ?_, fun σ => by rw [hvalue', hvalue]⟩
      unfold Formula.connect
      split
      · rename_i hnil
        rw [hnil] at he
        exact absurd rfl he.ne_nil
      · exact he'

/-! ## §3. Conditions. -/

/-- **The atom that a comparison is written as**: its operator between its column and
what its operand writes behind some number of parameters. -/
def Comparison.IsWritten (s : Setting) (leaf : Comparison) (sql : Sql) : Prop :=
  ∃ values, sql = s.dialect.operation leaf.op (s.column leaf.field) values
    ∧ (leaf.op.isNullTest = true ∧ values = []
      ∨ ∃ k ps, leaf.operand.bind s k leaf.field leaf.op = .ok (values, ps))

/-- **Pieces say what a condition means**: its leaves are their atoms, and however the
atoms are numbered, the pieces are read as a factor that has the value of the
condition. -/
structure Condition.IsWritten (s : Setting) (c : Condition) (ps : List (Piece Sql)) : Prop where
  atoms : List.Forall₂ (Comparison.IsWritten s) c.leaves (Formula.atoms ps)
  reads : ∀ k, ∃ e, Reads .factor (Formula.enumerate k ps) e ∧ ∀ σ, e.value σ = c.value σ k

/-- The pieces of a condition have as many atoms as it has leaves. -/
theorem Condition.IsWritten.width {s : Setting} {c : Condition} {ps : List (Piece Sql)}
    (h : c.IsWritten s ps) : Formula.width (fun _ => 1) ps = c.leaves.length := by
  rw [Formula.width_one, h.atoms.length_eq]

/-- Conditions that are written one by one are read one by one. -/
theorem Condition.reads_all {s : Setting} {cs : List Condition} {children : List (List (Piece Sql))}
    (h : List.Forall₂ (Condition.IsWritten s) cs children) :
    ∀ k, ∃ es, List.Forall₂ (Reads .factor)
        (numberFrom (Formula.width fun _ => 1) Formula.enumerate k children) es
      ∧ ∀ σ, es.map (Sentence.value σ) = Condition.values σ k cs := by
  induction h with
  | nil => exact fun k => ⟨[], .nil, fun _ => rfl⟩
  | @cons c ps cs children hc _ ih =>
      intro k
      obtain ⟨e, he, hvalue⟩ := hc.reads k
      obtain ⟨es, hes, hvalues⟩ := ih (k + Formula.width (fun _ => 1) ps)
      refine ⟨e :: es, .cons he hes, fun σ => ?_⟩
      rw [List.map_cons, hvalue, hvalues, hc.width]
      rfl

/-- The atoms of conditions that are written one by one. -/
theorem Condition.atoms_all {s : Setting} {cs : List Condition} {children : List (List (Piece Sql))}
    (h : List.Forall₂ (Condition.IsWritten s) cs children) :
    List.Forall₂ (Comparison.IsWritten s) (Condition.leavesOfAll cs)
      (children.flatMap Formula.atoms) := by
  induction h with
  | nil => exact .nil
  | cons hc _ ih => exact List.rel_append hc.atoms ih

/-- **A connected set is written by its children.** -/
theorem Condition.isWritten_set {s : Setting} {connector : Connector} {children : List Condition}
    {negated : Bool} {pieces : List (List (Piece Sql))} (hc : connector ≠ .comma)
    (hne : children ≠ []) (h : List.Forall₂ (Condition.IsWritten s) children pieces) :
    (Condition.set connector children negated).IsWritten s
      (Formula.connect connector negated pieces) := by
  refine ⟨?_, fun k => ?_⟩
  · rw [Formula.atoms_connect]
    exact Condition.atoms_all h
  · obtain ⟨es, hes, hvalues⟩ := Condition.reads_all h k
    have hpieces : numberFrom (Formula.width fun _ => 1) Formula.enumerate k pieces ≠ [] := by
      cases h with
      | nil => exact absurd rfl hne
      | cons _ _ => exact List.cons_ne_nil _ _
    -- The children are numbered one after the other, which is how the set is numbered.
    obtain ⟨e, he, hvalue⟩ := Reads.connect hc negated hpieces hes
    unfold Formula.enumerate at he
    rw [← Formula.number_connect] at he
    refine ⟨e, he, fun σ => ?_⟩
    rw [hvalue, hvalues]
    rfl

/-- **A comparison is one atom**, in parentheses when it is negated. -/
theorem Condition.isWritten_leaf {s : Setting} {field : Attribute} {op : Operator}
    {operand : Operand} {negated : Bool} {sql : Sql}
    (h : Comparison.IsWritten s ⟨field, op, operand⟩ sql) :
    (Condition.leaf field op operand negated).IsWritten s (Formula.atom sql negated).pieces := by
  cases negated with
  | false => exact ⟨.cons h .nil, fun k => ⟨.atom k, .plain (.atom k), fun _ => rfl⟩⟩
  | true =>
      refine ⟨.cons h .nil, fun k => ?_⟩
      exact ⟨.not (.atom k), .not (.parentheses (.term (.factor (.plain (.atom k))))), fun _ => rfl⟩

/-- A comparison that renders is one atom, and is written there. -/
theorem formula_leaf_written {s : Setting} {field : Attribute} {op : Operator} {operand : Operand}
    {negated : Bool} {k : Nat} {f : Formula Sql} {ps : List Value}
    (h : (Condition.leaf field op operand negated).formula s k = .ok (f, ps)) :
    ∃ sql, f = .atom sql negated ∧ Comparison.IsWritten s ⟨field, op, operand⟩ sql := by
  obtain ⟨values, rfl, hcases⟩ := formula_leaf_ok h
  refine ⟨_, rfl, values, rfl, ?_⟩
  rcases hcases with ⟨hop, hvalues, _⟩ | ⟨_, hbind⟩
  · exact .inl ⟨hop, hvalues⟩
  · exact .inr ⟨k, ps, hbind⟩

mutual

/-- **A condition is read as it was meant.** -/
theorem formula_written {s : Setting} : ∀ {c : Condition} {k : Nat} {f : Formula Sql}
    {ps : List Value}, c.proper = true → c.formula s k = .ok (f, ps) → c.IsWritten s f.pieces
  | .leaf field op operand negated, k, f, ps, _, h => by
      obtain ⟨sql, rfl, hwritten⟩ := formula_leaf_written h
      exact Condition.isWritten_leaf hwritten
  | .set connector children negated, k, f, ps, hproper, h => by
      obtain ⟨fs, rfl, hfs⟩ := formula_set_ok h
      unfold Condition.proper at hproper
      obtain ⟨hset, hchildren⟩ := Bool.and_eq_true_iff.1 hproper
      obtain ⟨hc, hne⟩ := Bool.and_eq_true_iff.1 hset
      exact Condition.isWritten_set (by simpa using hc) (by simpa using hne)
        (formulas_written hchildren hfs)

/-- Several conditions are read one by one. -/
theorem formulas_written {s : Setting} : ∀ {cs : List Condition} {k : Nat}
    {fs : List (Formula Sql)} {ps : List Value}, Condition.properAll cs = true →
      Condition.formulas s k cs = .ok (fs, ps) →
      List.Forall₂ (Condition.IsWritten s) cs (Formula.pieces.go fs)
  | [], k, fs, ps, _, h => by
      obtain ⟨rfl, _⟩ := formulas_nil_ok h
      exact .nil
  | c :: rest, k, fs, ps, hproper, h => by
      obtain ⟨f, qs, gs, rs, hf, hgs, rfl, _⟩ := formulas_cons_ok h
      unfold Condition.properAll at hproper
      obtain ⟨hc, hrest⟩ := Bool.and_eq_true_iff.1 hproper
      exact .cons (formula_written hc hf) (formulas_written hrest hgs)

end

end RecordMapper
