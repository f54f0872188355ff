/-
  RecordMapper.Proofs.Stateful
  ────────────────────────────────
  **WHAT A COMPUTATION WITH A STATE LEADS TO.**

  Steps on a backend, actions on the open databases and the operations of a result all
  change a state, and some of them fail.  `Leads` says what holds of the result and of
  the state at the end, given what held of the state at the beginning; a failure is a
  result like any other.  What a chain of computations leads to is put together from
  what each of them leads to.
-/
import RecordMapper.Failure

namespace RecordMapper

variable {σ ε α β : Type}

/-- **What a computation leads to**: begun in a state that meets `P`, it ends with a
result and in a state that meet `Q`. -/
def Leads (P : σ → Prop) (x : StateM σ α) (Q : α → σ → Prop) : Prop :=
  ∀ s, P s → Q (x s).1 (x s).2

/-- **Two computations in a row, of which the first may fail**: the second is given the
result of the first, and is left out when that fails. -/
theorem run_bind (x : ExceptT ε (StateM σ) α) (f : α → ExceptT ε (StateM σ) β) (s : σ) :
    (x >>= f).run s = match x.run s with
      | (.ok a, between) => (f a).run between
      | (.error e, between) => (.error e, between) := by
  show (ExceptT.bindCont f (x.run s).1) (x.run s).2 = _
  rcases x.run s with ⟨_ | a, between⟩ <;> rfl

namespace Leads

variable {P : σ → Prop} {Q : α → σ → Prop} {R : β → σ → Prop}

/-- Yielding a result changes nothing. -/
theorem done (a : α) : Leads (Q a) (pure a) Q :=
  fun _ h => h

theorem mono {Q' : α → σ → Prop} {x : StateM σ α} (h : Leads P x Q)
    (himp : ∀ a s, Q a s → Q' a s) : Leads P x Q' :=
  fun s hP => himp _ _ (h s hP)

/-- What is known of the state may include what holds of no state in particular. -/
theorem assuming {p : Prop} {x : StateM σ α} (h : p → Leads P x Q) :
    Leads (fun s => p ∧ P s) x Q :=
  fun s hP => h hP.1 s hP.2

/-- **Two computations in a row**, of which the second is given the result of the first. -/
theorem bind {x : StateM σ α} {f : α → StateM σ β} (hx : Leads P x Q)
    (hf : ∀ a, Leads (Q a) (f a) R) : Leads P (x >>= f) R :=
  fun s hP => hf _ _ (hx s hP)

/-- **Two computations in a row, of which the first may fail**; the second is then left
out. -/
theorem andThen {Q : Except ε α → σ → Prop} {R : Except ε β → σ → Prop}
    {x : ExceptT ε (StateM σ) α} {f : α → ExceptT ε (StateM σ) β} (hx : Leads P x.run Q)
    (hfailed : ∀ e s, Q (.error e) s → R (.error e) s)
    (hf : ∀ a, Leads (Q (.ok a)) (f a).run R) : Leads P (x >>= f).run R := by
  have hnext : ∀ out, Leads (Q out) (ExceptT.bindCont f out) R := by
    intro out
    cases out with
    | error e => exact fun s hQ => hfailed e s hQ
    | ok a => exact hf a
  exact hx.bind hnext

/-- **Two computations in a row that keep what holds**, whether they fail or not. -/
theorem kept {x : ExceptT ε (StateM σ) α} {f : α → ExceptT ε (StateM σ) β}
    (hx : Leads P x.run fun _ => P) (hf : ∀ a, Leads P (f a).run fun _ => P) :
    Leads P (x >>= f).run fun _ => P :=
  hx.andThen (fun _ _ h => h) hf

end Leads

end RecordMapper
