/-
  RecordMapper.Proofs.Outcome
  ────────────────────────────────
  **WHAT A SUCCESSFUL COMPUTATION WENT THROUGH.**

  Operations that can fail are chains of steps.  A chain succeeds exactly when
  every step does; these laws take a successful chain apart, one step at a time.
-/
import RecordMapper.Failure

namespace RecordMapper

variable {ε α β : Type}

/-- **A chain of two steps** succeeds when the first does and the second, given
its result, does too. -/
theorem bind_ok {x : Except ε α} {f : α → Except ε β} {b : β} :
    x >>= f = .ok b ↔ ∃ a, x = .ok a ∧ f a = .ok b := by
  cases x with
  | error e => simp [bind, Except.bind]
  | ok a => simp [bind, Except.bind]

/-- It fails when one of the two steps does. -/
theorem bind_error {x : Except ε α} {f : α → Except ε β} {e : ε} :
    x >>= f = .error e ↔ x = .error e ∨ ∃ a, x = .ok a ∧ f a = .error e := by
  cases x with
  | error e' => simp [bind, Except.bind]
  | ok a => simp [bind, Except.bind]

/-- A computation whose result is worked on succeeds when the computation does. -/
theorem map_ok {x : Except ε α} {f : α → β} {b : β} :
    x.map f = .ok b ↔ ∃ a, x = .ok a ∧ f a = b := by
  cases x <;> simp [Except.map]

/-- A step without effect succeeds with what it is given. -/
theorem pure_ok {a b : α} : (pure a : Except ε α) = .ok b ↔ a = b := by
  simp [pure, Except.pure]

/-- A computation of which something is known about the result succeeded. -/
theorem ok_of_toOption_map {x : Except ε α} {f : α → β} {b : β}
    (h : x.toOption.map f = some b) : ∃ a, x = .ok a ∧ f a = b := by
  cases x with
  | error e => cases h
  | ok a => exact ⟨a, rfl, Option.some.inj h⟩

/-- Whether a computation succeeds can be told. -/
instance decidableExistsOk (x : Except ε α) : Decidable (∃ a, x = .ok a) :=
  match x with
  | .ok a => .isTrue ⟨a, rfl⟩
  | .error _ => .isFalse fun ⟨_, h⟩ => nomatch h

/-- A list of steps succeeds when its first step and the others do. -/
theorem mapM_cons_ok {f : α → Except ε β} {x : α} {xs : List α} {ys : List β} :
    (x :: xs).mapM f = .ok ys
      ↔ ∃ y rest, f x = .ok y ∧ xs.mapM f = .ok rest ∧ ys = y :: rest := by
  rw [List.mapM_cons, bind_ok]
  constructor
  · rintro ⟨y, hy, h⟩
    obtain ⟨rest, hrest, h⟩ := bind_ok.1 h
    exact ⟨y, rest, hy, hrest, (pure_ok.1 h).symm⟩
  · rintro ⟨y, rest, hy, hrest, rfl⟩
    exact ⟨y, hy, bind_ok.2 ⟨rest, hrest, rfl⟩⟩

/-- **Each step of a list** has its result at the same place. -/
theorem zip_mapM_ok {f : α → Except ε β} : ∀ {xs : List α} {ys : List β}, xs.mapM f = .ok ys →
    (∀ p ∈ xs.zip ys, f p.1 = .ok p.2) ∧ ∀ x ∈ xs, ∃ y, (x, y) ∈ xs.zip ys
  | [], ys, _ => ⟨fun p hp => (nomatch hp), fun x hx => (nomatch hx)⟩
  | x :: xs, ys, h => by
      obtain ⟨y, rest, hy, hrest, rfl⟩ := mapM_cons_ok.1 h
      obtain ⟨hsteps, hresults⟩ := zip_mapM_ok hrest
      refine ⟨fun p hp => ?_, fun x' hx => ?_⟩
      · rcases List.mem_cons.1 hp with rfl | hp
        · exact hy
        · exact hsteps p hp
      · rcases List.mem_cons.1 hx with rfl | hx
        · exact ⟨y, List.mem_cons_self⟩
        · obtain ⟨y', hy'⟩ := hresults x' hx
          exact ⟨y', List.mem_cons_of_mem _ hy'⟩

/-- Two lists of steps, one after the other. -/
theorem mapM_append_ok {f : α → Except ε β} {xs xs' : List α} {ys ys' : List β}
    (h : xs.mapM f = .ok ys) (h' : xs'.mapM f = .ok ys') :
    (xs ++ xs').mapM f = .ok (ys ++ ys') := by
  rw [List.mapM_append]
  exact bind_ok.2 ⟨ys, h, bind_ok.2 ⟨ys', h', rfl⟩⟩

/-- A list of steps yields one result for each. -/
theorem length_mapM_ok {f : α → Except ε β} :
    ∀ {xs : List α} {ys : List β}, xs.mapM f = .ok ys → ys.length = xs.length
  | [], ys, h => by
      rw [← pure_ok.1 h]
      rfl
  | x :: xs, ys, h => by
      obtain ⟨y, rest, _, hrest, rfl⟩ := mapM_cons_ok.1 h
      simp [length_mapM_ok hrest]

/-- A list of steps that fails does so in one of them. -/
theorem mapM_error {f : α → Except ε β} {e : ε} :
    ∀ {xs : List α}, xs.mapM f = .error e → ∃ x ∈ xs, f x = .error e
  | [], h => nomatch h
  | x :: xs, h => by
      rw [List.mapM_cons, bind_error] at h
      rcases h with hx | ⟨y, -, h⟩
      · exact ⟨x, List.mem_cons_self, hx⟩
      · rcases bind_error.1 h with hxs | ⟨ys, -, h⟩
        · obtain ⟨x', hx', hfailed⟩ := mapM_error hxs
          exact ⟨x', List.mem_cons_of_mem _ hx', hfailed⟩
        · cases h

/-- Steps that succeed whenever others do, and with their results, succeed as a list too. -/
theorem mapM_ok_imp {f g : α → Except ε β} (h : ∀ x y, f x = .ok y → g x = .ok y) :
    ∀ {xs : List α} {ys : List β}, xs.mapM f = .ok ys → xs.mapM g = .ok ys
  | [], _, hys => hys
  | x :: xs, _, hys => by
      obtain ⟨y, rest, hy, hrest, rfl⟩ := mapM_cons_ok.1 hys
      exact mapM_cons_ok.2 ⟨y, rest, h x y hy, mapM_ok_imp h hrest, rfl⟩

end RecordMapper
