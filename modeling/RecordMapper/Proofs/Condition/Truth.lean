/-
  RecordMapper.Proofs.Condition.Truth
  ────────────────────────────────
  **WHAT A CONDITION SAYS OF A ROW.**

  A comparison holds of a row, fails, or is unknown because of a NULL.  A condition
  connects such values: its value is worked out on its tree, whatever its text may
  look like.  The leaves of the tree are counted from left to right, and an
  assignment gives each of them a value.

  Main results: `value_ofList`, `value_negate` — building conditions by And, Or and
  Not means what it says, although children are absorbed into their parents.
-/
import RecordMapper.Query.Condition

namespace RecordMapper

/-! ## §1. Three values. -/

/-- **The value of a condition** for a row. -/
inductive Truth where
  | fails
  | unknown
  | holds
  deriving DecidableEq, Repr

namespace Truth

/-- Both hold; it fails as soon as one of them does. -/
def and : Truth → Truth → Truth
  | .fails, _ => .fails
  | _, .fails => .fails
  | .holds, .holds => .holds
  | _, _ => .unknown

/-- One of the two holds; it fails only when both do. -/
def or : Truth → Truth → Truth
  | .holds, _ => .holds
  | _, .holds => .holds
  | .fails, .fails => .fails
  | _, _ => .unknown

/-- The opposite; that of the unknown is unknown. -/
def not : Truth → Truth
  | .fails => .holds
  | .unknown => .unknown
  | .holds => .fails

theorem and_assoc (a b c : Truth) : (a.and b).and c = a.and (b.and c) := by
  cases a <;> cases b <;> cases c <;> rfl

theorem or_assoc (a b c : Truth) : (a.or b).or c = a.or (b.or c) := by
  cases a <;> cases b <;> cases c <;> rfl

theorem holds_and (a : Truth) : holds.and a = a := by
  cases a <;> rfl

theorem and_holds (a : Truth) : a.and holds = a := by
  cases a <;> rfl

theorem fails_or (a : Truth) : fails.or a = a := by
  cases a <;> rfl

theorem or_fails (a : Truth) : a.or fails = a := by
  cases a <;> rfl

/-- All of the values hold, in order. -/
def all (l : List Truth) : Truth :=
  l.foldr and .holds

/-- One of the values holds, in order. -/
def any (l : List Truth) : Truth :=
  l.foldr or .fails

theorem all_append (a b : List Truth) : all (a ++ b) = (all a).and (all b) := by
  induction a with
  | nil => exact (holds_and _).symm
  | cons x a ih =>
      show x.and (all (a ++ b)) = (x.and (all a)).and (all b)
      rw [ih, and_assoc]

theorem any_append (a b : List Truth) : any (a ++ b) = (any a).or (any b) := by
  induction a with
  | nil => exact (fails_or _).symm
  | cons x a ih =>
      show x.or (any (a ++ b)) = (x.or (any a)).or (any b)
      rw [ih, or_assoc]

theorem all_singleton (a : Truth) : all [a] = a := and_holds a

theorem any_singleton (a : Truth) : any [a] = a := or_fails a

/-- The value, or its opposite when it is negated. -/
def signed (negated : Bool) (a : Truth) : Truth :=
  if negated then a.not else a

theorem not_not (a : Truth) : a.not.not = a := by
  cases a <;> rfl

/-- **Values connected.**  A comma connects assignments, not conditions. -/
def connect : Connector → List Truth → Truth
  | .and, l => all l
  | .or, l => any l
  | .comma, _ => .unknown

theorem connect_append {c : Connector} (hc : c ≠ .comma) (a b : List Truth) :
    connect c (a ++ b) = connect c [connect c a, connect c b] := by
  cases c with
  | and =>
      show all (a ++ b) = (all a).and (all [all b])
      rw [all_append, all_singleton]
  | or =>
      show any (a ++ b) = (any a).or (any [any b])
      rw [any_append, any_singleton]
  | comma => exact absurd rfl hc

end Truth

/-! ## §2. Values of conditions. -/

/-- **A comparison** as it stands in a condition. -/
structure Comparison where
  field : Attribute
  op : Operator
  operand : Operand

mutual

/-- **The leaves of a condition**, left to right. -/
def Condition.leaves : Condition → List Comparison
  | .leaf field op operand _ => [⟨field, op, operand⟩]
  | .set _ children _ => Condition.leavesOfAll children

/-- The leaves of several conditions. -/
def Condition.leavesOfAll : List Condition → List Comparison
  | [] => []
  | c :: rest => c.leaves ++ Condition.leavesOfAll rest

end

mutual

/-- **The value of a condition** whose leaves have the values of `σ` from `k` on. -/
def Condition.value (σ : Nat → Truth) (k : Nat) : Condition → Truth
  | .leaf _ _ _ negated => (σ k).signed negated
  | .set connector children negated =>
    (Truth.connect connector (Condition.values σ k children)).signed negated

/-- The values of several conditions, the leaves of each behind those before it. -/
def Condition.values (σ : Nat → Truth) (k : Nat) : List Condition → List Truth
  | [] => []
  | c :: rest => c.value σ k :: Condition.values σ (k + c.leaves.length) rest

end

mutual

/-- **Every set is connected by And or Or and has a child.** -/
def Condition.proper : Condition → Bool
  | .leaf .. => true
  | .set connector children _ =>
    connector != .comma && !children.isEmpty && Condition.properAll children

/-- The same for several conditions. -/
def Condition.properAll : List Condition → Bool
  | [] => true
  | c :: rest => c.proper && Condition.properAll rest

end

namespace Condition

theorem leavesOfAll_append (a b : List Condition) :
    leavesOfAll (a ++ b) = leavesOfAll a ++ leavesOfAll b := by
  induction a with
  | nil => rfl
  | cons c a ih =>
      show c.leaves ++ leavesOfAll (a ++ b) = (c.leaves ++ leavesOfAll a) ++ leavesOfAll b
      rw [ih, List.append_assoc]

theorem values_append (σ : Nat → Truth) (a b : List Condition) (k : Nat) :
    values σ k (a ++ b) = values σ k a ++ values σ (k + (leavesOfAll a).length) b := by
  induction a generalizing k with
  | nil => rfl
  | cons c a ih =>
      show c.value σ k :: values σ (k + c.leaves.length) (a ++ b) = _
      rw [ih, Nat.add_assoc, ← List.length_append]
      rfl

theorem properAll_iff (cs : List Condition) : properAll cs = true ↔ ∀ c ∈ cs, c.proper = true := by
  induction cs with
  | nil => simp [properAll]
  | cons c cs ih => simp [properAll, ih]

/-! ## §3. Absorbed children. -/

/-- An absorbed condition has the leaves that it had. -/
theorem leavesOfAll_absorbed (connector : Connector) (c : Condition) :
    leavesOfAll (absorbed connector c) = c.leaves := by
  unfold absorbed
  split
  · split
    · rfl
    · exact List.append_nil _
  · exact List.append_nil _

/-- **Absorbing keeps the value**: a condition in a set says the same when its
children are taken into the set instead. -/
theorem connect_values_absorbed {connector : Connector} (hc : connector ≠ .comma)
    (σ : Nat → Truth) (k : Nat) (c : Condition) :
    Truth.connect connector (values σ k (absorbed connector c)) = c.value σ k := by
  -- A condition that is not absorbed stands alone, where connecting does nothing.
  have hone : ∀ a : Truth, Truth.connect connector [a] = a := by
    intro a
    cases connector with
    | and => exact Truth.all_singleton a
    | or => exact Truth.any_singleton a
    | comma => exact absurd rfl hc
  unfold absorbed
  split
  · split
    · rename_i hsame
      subst hsame
      rfl
    · exact hone _
  · exact hone _

/-- **A connected set means the connection of its conditions**, whatever it absorbs. -/
theorem connect_values_flatMap_absorbed {connector : Connector} (hc : connector ≠ .comma)
    (σ : Nat → Truth) (cs : List Condition) (k : Nat) :
    Truth.connect connector (values σ k (cs.flatMap (absorbed connector)))
      = Truth.connect connector (values σ k cs) := by
  induction cs generalizing k with
  | nil => rfl
  | cons c cs ih =>
      rw [List.flatMap_cons, values_append, Truth.connect_append hc, connect_values_absorbed hc,
        leavesOfAll_absorbed, ih]
      -- The first condition and the others are connected as two values, whose connection is
      -- associative.
      show _ = Truth.connect connector ([c.value σ k] ++ values σ (k + c.leaves.length) cs)
      rw [Truth.connect_append hc [c.value σ k]]
      cases connector with
      | and => simp [Truth.connect, Truth.all_singleton]
      | or => simp [Truth.connect, Truth.any_singleton]
      | comma => exact absurd rfl hc

theorem value_ofList {connector : Connector} (hc : connector ≠ .comma) (σ : Nat → Truth) (k : Nat)
    (cs : List Condition) :
    (ofList connector cs).value σ k = Truth.connect connector (values σ k cs) :=
  connect_values_flatMap_absorbed hc σ cs k

/-- **Negation means the opposite.** -/
theorem value_negate (σ : Nat → Truth) (k : Nat) (c : Condition) :
    c.negate.value σ k = (c.value σ k).not := by
  cases c with
  | leaf field op operand negated => cases negated <;> simp [negate, value, Truth.signed, Truth.not_not]
  | set connector children negated =>
      cases negated <;> simp [negate, value, Truth.signed, Truth.not_not]

end Condition

end RecordMapper
