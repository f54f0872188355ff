/-
  RecordMapper.Proofs.Backend.Cursors
  ────────────────────────────────
  **HOW CURSORS ARE OPENED, USED AND CLOSED.**

  `Stage` follows the record of a backend for one cursor: it is opened once, called while
  it is in use, and closed; any other call of it is a misuse.  Every call of a backend may
  fail.  A cursor that could not be closed counts as closed, for nobody closes it again.

  What the steps of a backend do is said with the set of the cursors that are in use
  (`Backend.Using`): opening adds one, closing takes one away, and nothing is misused.

  Main results: a cursor that is not misused is closed at most once and not called
  after that (`Stage.closings_eq`, `Stage.quietAfterClose`); `executeRead_using`, a
  statement that reads leaves its cursor in use if it succeeds and closed if it fails.
-/
import Mathlib.Data.List.Induction
import Mathlib.Data.Set.Insert
import RecordMapper.Backend.Transaction
import RecordMapper.Proofs.Backend.Additions
import RecordMapper.Proofs.Stateful

namespace RecordMapper

/-! ## §1. The stages of a cursor. -/

/-- The number of the cursor that a call opens or is made on. -/
def Call.serial? : Call → Option Nat
  | .cursor serial _ => some serial
  | .execute serial _ _ => some serial
  | .fetch serial => some serial
  | .closeCursor serial => some serial
  | _ => none

/-- **How far a cursor has got.** -/
inductive Stage where
  | unopened
  | inUse
  | closed
  /-- It was called when it was not in use, or opened a second time. -/
  | misused
  deriving DecidableEq, Repr

/-- How often a cursor was closed, or tried to be. -/
def closings (serial : Nat) (calls : List Attempt) : Nat :=
  calls.countP fun a => a.call = .closeCursor serial

/-- **A cursor is not called once it is closed**, not even to close it again. -/
def QuietAfterClose (serial : Nat) (calls : List Attempt) : Prop :=
  ∀ earlier failure later, calls = earlier ++ ⟨.closeCursor serial, failure⟩ :: later →
    ∀ a ∈ later, a.call.serial? ≠ some serial

namespace Stage

/-- The stage after a call of the cursor.  A cursor that could not be opened was not. -/
def next (s : Stage) (a : Attempt) : Stage :=
  match s, a.call, a.failure with
  | .unopened, .cursor _ _, none => .inUse
  | .unopened, .cursor _ _, some _ => .unopened
  | .inUse, .execute _ _ _, _ => .inUse
  | .inUse, .fetch _, _ => .inUse
  | .inUse, .closeCursor _, _ => .closed
  | _, _, _ => .misused

/-- The stage of the cursor with this number after any call. -/
def after (serial : Nat) (s : Stage) (a : Attempt) : Stage :=
  if a.call.serial? = some serial then s.next a else s

/-- The stage after more calls. -/
def afterAll (serial : Nat) (s : Stage) (calls : List Attempt) : Stage :=
  calls.foldl (after serial) s

/-- **The stage of a cursor** of which these are all the calls. -/
def of (serial : Nat) (calls : List Attempt) : Stage :=
  afterAll serial .unopened calls

variable {serial : Nat} {s : Stage} {a : Attempt} {calls : List Attempt}

@[simp] theorem of_nil : of serial [] = .unopened := rfl

theorem of_concat : of serial (calls ++ [a]) = (of serial calls).after serial a := by
  unfold of afterAll
  rw [List.foldl_append, List.foldl_cons, List.foldl_nil]

theorem after_other (h : a.call.serial? ≠ some serial) : s.after serial a = s :=
  if_neg h

theorem after_own (h : a.call.serial? = some serial) : s.after serial a = s.next a :=
  if_pos h

@[simp] theorem misused_after : Stage.misused.after serial a = .misused := by
  unfold after
  split <;> rfl

theorem misused_afterAll : Stage.misused.afterAll serial calls = .misused := by
  induction calls with
  | nil => rfl
  | cons a calls ih =>
      show (Stage.misused.after serial a).afterAll serial calls = _
      rw [misused_after, ih]

/-- A call of the cursor that is no misuse closes it after it was in use, or leaves it
anything but closed. -/
theorem next_cases (h : s.next a ≠ .misused) :
    (s = .inUse ∧ (∃ n, a.call = .closeCursor n) ∧ s.next a = .closed)
      ∨ s ≠ .closed ∧ (∀ n, a.call ≠ .closeCursor n) ∧ s.next a ≠ .closed := by
  obtain ⟨call, failure⟩ := a
  cases s <;> cases call <;> cases failure <;> simp [next] at h ⊢

/-- A cursor that is closed is misused by every further call of it. -/
theorem quiet_of_closed : ∀ {calls : List Attempt},
    Stage.closed.afterAll serial calls ≠ .misused → ∀ a ∈ calls, a.call.serial? ≠ some serial
  | [], _ => List.forall_mem_nil _
  | a :: calls, h => by
      replace h : (Stage.closed.after serial a).afterAll serial calls ≠ .misused := h
      have ha : a.call.serial? ≠ some serial := by
        intro hown
        rw [after_own hown] at h
        exact h misused_afterAll
      rw [after_other ha] at h
      exact List.forall_mem_cons.2 ⟨ha, quiet_of_closed h⟩

/-- **A cursor that is not misused is not called once it is closed.** -/
theorem quietAfterClose (h : of serial calls ≠ .misused) : QuietAfterClose serial calls := by
  rintro earlier failure later rfl
  have hsplit : of serial (earlier ++ ⟨.closeCursor serial, failure⟩ :: later)
      = ((of serial earlier).next ⟨.closeCursor serial, failure⟩).afterAll serial later := by
    unfold of afterAll
    rw [List.foldl_append, List.foldl_cons, after_own rfl]
  rw [hsplit] at h
  have hclose : (of serial earlier).next ⟨.closeCursor serial, failure⟩ ≠ .misused := by
    intro hmisused
    rw [hmisused] at h
    exact h misused_afterAll
  rcases next_cases hclose with ⟨-, -, hclosed⟩ | ⟨-, hnot, -⟩
  · rw [hclosed] at h
    exact quiet_of_closed h
  · exact absurd rfl (hnot serial)

/-- **A cursor that is not misused was closed once if it is closed**, and not at all
otherwise. -/
theorem closings_eq (h : of serial calls ≠ .misused) :
    closings serial calls = if of serial calls = .closed then 1 else 0 := by
  induction calls using List.reverseRecOn with
  | nil => rfl
  | append_singleton calls a ih =>
      rw [of_concat] at h ⊢
      have hbefore : of serial calls ≠ .misused := by
        intro hmisused
        rw [hmisused, misused_after] at h
        exact h rfl
      have hcount : closings serial (calls ++ [a])
          = closings serial calls + if a.call = .closeCursor serial then 1 else 0 := by
        unfold closings
        rw [List.countP_append, List.countP_singleton]
        simp only [decide_eq_true_eq]
      rw [hcount, ih hbefore]
      by_cases hown : a.call.serial? = some serial
      · rw [after_own hown] at h ⊢
        rcases next_cases h with ⟨hused, ⟨n, hclose⟩, hclosed⟩ | ⟨hopen, hnot, hstill⟩
        · have hsame : n = serial := by
            rw [hclose] at hown
            exact Option.some.inj hown
          rw [hclosed, hused, hclose, hsame, if_neg nofun, if_pos rfl, if_pos rfl]
        · rw [if_neg hopen, if_neg hstill, if_neg (hnot serial)]
      · have hother : a.call ≠ .closeCursor serial := by
          intro hclose
          rw [hclose] at hown
          exact hown rfl
        rw [after_other hown, if_neg hother, Nat.add_zero]

/-- A cursor that was opened does not become unopened again. -/
theorem of_ne_unopened {intent : Intent} (h : ⟨.cursor serial intent, none⟩ ∈ calls) :
    of serial calls ≠ .unopened := by
  induction calls using List.reverseRecOn with
  | nil => cases h
  | append_singleton calls a ih =>
      rw [of_concat]
      rcases List.mem_append.1 h with hbefore | hlast
      · replace ih := ih hbefore
        unfold after next
        split
        · split <;> simp_all
        · exact ih
      · obtain rfl := List.mem_singleton.1 hlast
        rw [after_own rfl]
        cases of serial calls <;> nofun

end Stage

/-! ## §2. The cursors that are in use. -/

/-- **These calls leave these cursors in use**: they are in use, every other one was
closed or never opened, and none from the number `next` on was opened. -/
structure Leaving (calls : List Attempt) (next : Nat) (live : Set Nat) : Prop where
  inUse : ∀ n ∈ live, Stage.of n calls = .inUse
  others : ∀ n ∉ live, Stage.of n calls = .unopened ∨ Stage.of n calls = .closed
  ahead : ∀ n, next ≤ n → Stage.of n calls = .unopened

namespace Leaving

variable {calls : List Attempt} {next serial : Nat} {live : Set Nat} {a : Attempt}

/-- No call was made. -/
theorem nil : Leaving [] next ∅ where
  inUse _ h := h.elim
  others _ _ := .inl rfl
  ahead _ _ := rfl

theorem ne_misused (h : Leaving calls next live) (n : Nat) : Stage.of n calls ≠ .misused := by
  by_cases hn : n ∈ live
  · rw [h.inUse n hn]
    nofun
  · rcases h.others n hn with hstage | hstage <;> rw [hstage] <;> nofun

/-- A cursor that was not opened yet is not in use. -/
theorem next_notMem (h : Leaving calls next live) : next ∉ live := by
  intro hmem
  have hstage := h.inUse _ hmem
  rw [h.ahead _ (Nat.le_refl _)] at hstage
  cases hstage

/-- **One more call** of a cursor: the others stay as they are, so it is enough to say what
becomes of this one. -/
theorem concat {next' : Nat} {live' : Set Nat} (h : Leaving calls next live)
    (hle : next ≤ next') (hown : a.call.serial? = some serial)
    (hothers : ∀ n, n ≠ serial → (n ∈ live' ↔ n ∈ live))
    (hin : serial ∈ live' → (Stage.of serial calls).next a = .inUse)
    (hout : serial ∉ live' →
      (Stage.of serial calls).next a = .unopened ∨ (Stage.of serial calls).next a = .closed)
    (hahead : next' ≤ serial → (Stage.of serial calls).next a = .unopened) :
    Leaving (calls ++ [a]) next' live' := by
  have hstage : ∀ n, Stage.of n (calls ++ [a])
      = if n = serial then (Stage.of serial calls).next a else Stage.of n calls := by
    intro n
    rw [Stage.of_concat]
    by_cases hn : n = serial
    · rw [if_pos hn, hn, Stage.after_own hown]
    · rw [if_neg hn, Stage.after_other]
      rw [hown]
      exact fun hsame => hn (Option.some.inj hsame).symm
  constructor
  · intro n hn
    rw [hstage]
    split
    · next hsame => exact hin (hsame ▸ hn)
    · next hother => exact h.inUse n ((hothers n hother).1 hn)
  · intro n hn
    rw [hstage]
    split
    · next hsame => exact hout (hsame ▸ hn)
    · next hother => exact h.others n fun hmem => hn ((hothers n hother).2 hmem)
  · intro n hn
    rw [hstage]
    split
    · next hsame => exact hahead (hsame ▸ hn)
    · exact h.ahead n (hle.trans hn)

/-- A call of no cursor. -/
theorem aside (h : Leaving calls next live) (ha : a.call.serial? = none) :
    Leaving (calls ++ [a]) next live := by
  have hstage : ∀ n, Stage.of n (calls ++ [a]) = Stage.of n calls := by
    intro n
    rw [Stage.of_concat, Stage.after_other]
    rw [ha]
    nofun
  constructor
  · exact fun n hn => (hstage n).trans (h.inUse n hn)
  · intro n hn
    rw [hstage]
    exact h.others n hn
  · exact fun n hn => (hstage n).trans (h.ahead n hn)

/-- **The next cursor is opened.** -/
theorem opened {intent : Intent} (h : Leaving calls next live) :
    Leaving (calls ++ [⟨.cursor next intent, none⟩]) (next + 1) (insert next live) := by
  refine h.concat (Nat.le_succ _) rfl ?_ ?_ ?_ ?_
  · exact fun n hn => Set.mem_insert_iff.trans (or_iff_right hn)
  · intro _
    rw [h.ahead _ (Nat.le_refl _)]
    rfl
  · exact fun hnot => absurd (Set.mem_insert _ _) hnot
  · exact fun hle => absurd hle (Nat.not_succ_le_self _)

/-- The next cursor cannot be opened. -/
theorem unopened {intent : Intent} {message : String} (h : Leaving calls next live) :
    Leaving (calls ++ [⟨.cursor next intent, some message⟩]) next live := by
  have hstage : (Stage.of next calls).next ⟨.cursor next intent, some message⟩ = .unopened := by
    rw [h.ahead _ (Nat.le_refl _)]
    rfl
  refine h.concat (Nat.le_refl _) rfl (fun _ _ => Iff.rfl) ?_ ?_ ?_
  · exact fun hmem => absurd hmem h.next_notMem
  · exact fun _ => .inl hstage
  · exact fun _ => hstage

/-- **A cursor in use is called** without being closed. -/
theorem used (h : Leaving calls next live) (hserial : serial ∈ live)
    (hown : a.call.serial? = some serial) (hnext : Stage.inUse.next a = .inUse) :
    Leaving (calls ++ [a]) next live := by
  have hstage := h.inUse serial hserial
  refine h.concat (Nat.le_refl _) hown (fun _ _ => Iff.rfl) ?_ ?_ ?_
  · intro _
    rw [hstage, hnext]
  · exact fun hnot => absurd hserial hnot
  · intro hle
    rw [h.ahead serial hle] at hstage
    cases hstage

/-- **A cursor in use is closed**, or it is tried to. -/
theorem closed {failure : Option String} (h : Leaving calls next (insert serial live))
    (hserial : serial ∉ live) :
    Leaving (calls ++ [⟨.closeCursor serial, failure⟩]) next live := by
  have hstage := h.inUse serial (Set.mem_insert _ _)
  refine h.concat (Nat.le_refl _) rfl ?_ ?_ ?_ ?_
  · exact fun n hn => (Set.mem_insert_iff.trans (or_iff_right hn)).symm
  · exact fun hmem => absurd hmem hserial
  · intro _
    rw [hstage]
    exact .inr rfl
  · intro hle
    rw [h.ahead serial hle] at hstage
    cases hstage

end Leaving

/-! ## §3. The steps of a backend. -/

/-- **These cursors are in use**, of those that were opened since the backend was as
`start`. -/
def Backend.Using (start : Backend) (live : Set Nat) (b : Backend) : Prop :=
  ∃ calls, b.trace = start.trace ++ calls ∧ Leaving calls b.nextSerial live

variable {start : Backend} {live : Set Nat}

namespace Backend

/-- Nothing was done yet. -/
theorem using_self (start : Backend) : start.Using ∅ start :=
  ⟨[], (List.append_nil _).symm, .nil⟩

/-- The next cursor is not in use yet. -/
theorem Using.nextSerial_notMem {b : Backend} (h : start.Using live b) : b.nextSerial ∉ live := by
  obtain ⟨calls, -, hcalls⟩ := h
  exact hcalls.next_notMem

/-- What one more call on the record makes of the cursors in use. -/
theorem Using.concat {b b' : Backend} {a : Attempt} {live' : Set Nat} (h : start.Using live b)
    (htrace : b'.trace = b.trace ++ [a])
    (hcalls : ∀ calls, Leaving calls b.nextSerial live →
      Leaving (calls ++ [a]) b'.nextSerial live') : start.Using live' b' := by
  obtain ⟨calls, hsince, hleaving⟩ := h
  refine ⟨calls ++ [a], ?_, hcalls calls hleaving⟩
  rw [htrace, hsince, List.append_assoc]

/-- **A call of a method** goes on the record with the failure that it met; the number of
the next cursor stays. -/
theorem attempt_leads (method : Method) (call : Call) {P : Backend → Prop}
    {Q : Except Failure Unit → Backend → Prop}
    (h : ∀ b b' failure, P b → b'.trace = b.trace ++ [⟨call, failure⟩] →
      b'.nextSerial = b.nextSerial → Q (met failure ()) b') :
    Leads P (attempt method call).run Q := by
  intro b hP
  obtain ⟨_, htrace, failure, hout, rfl⟩ := attempt_adds method call b
  have hserial : ((attempt method call).run b).2.nextSerial = b.nextSerial := by
    show ((thrown (b.faults method).head?.join).run _).2.nextSerial = _
    cases (b.faults method).head?.join <;> rfl
  show Q ((attempt method call).run b).1 ((attempt method call).run b).2
  rw [hout]
  exact h b _ failure hP htrace hserial

/-- A call that leaves the number of the next cursor as it is, by what it makes of the
cursors in use. -/
theorem attempt_using {live' : Set Nat} (method : Method) (call : Call)
    (hcalls : ∀ calls next failure, Leaving calls next live →
      Leaving (calls ++ [⟨call, failure⟩]) next live') :
    Leads (start.Using live) (attempt method call).run fun _ => start.Using live' := by
  refine attempt_leads method call fun b b' failure h htrace hserial => h.concat htrace ?_
  intro calls hbefore
  rw [hserial]
  exact hcalls calls _ failure hbefore

/-- Connecting is no call of a cursor. -/
theorem connect_using : Leads (start.Using live) connect.run fun _ => start.Using live := by
  intro b h
  refine Leads.kept (x := attempt .connect (.connect !b.connected))
    (f := fun _ => do modify fun b => { b with connected := true }; return !b.connected)
    ?_ (fun _ => ?_) b h
  · exact attempt_using _ _ fun _ _ _ hcalls => hcalls.aside rfl
  · exact fun b h => h

/-- **What holds when a cursor was asked for**: it is in use, which it was not before, or
there is none. -/
def Acquired (start : Backend) (live : Set Nat) (out : Except Failure Cursor) (b : Backend) :
    Prop :=
  match out with
  | .ok cursor => cursor.serial ∉ live ∧ start.Using (insert cursor.serial live) b
  | .error _ => start.Using live b

/-- **Opening a cursor** puts it to use, unless it fails. -/
theorem openCursor_using (intent : Intent) :
    Leads (start.Using live) (openCursor intent).run (start.Acquired live) := by
  intro b h
  -- The number of the cursor is looked up before the call that opens it.
  have hopen : Leads (fun b' => b' = b) (do
      attempt .cursor (.cursor b.nextSerial intent)
      modify fun b' => { b' with nextSerial := b.nextSerial + 1 }
      return (⟨b.nextSerial, [], [], none, 0⟩ : Cursor) : Step Cursor).run
      (start.Acquired live) := by
    refine Leads.andThen (Q := fun out b' => match out with
      | .ok () => b.nextSerial ∉ live ∧ start.Using (insert b.nextSerial live)
          { b' with nextSerial := b.nextSerial + 1 }
      | .error _ => start.Using live b') ?_ ?_ ?_
    · refine attempt_leads _ _ fun before b' failure hsame htrace hserial => ?_
      subst hsame
      cases failure with
      | none =>
          exact ⟨h.nextSerial_notMem, h.concat htrace fun calls hcalls => hcalls.opened⟩
      | some message =>
          refine h.concat htrace fun calls hcalls => ?_
          rw [hserial]
          exact hcalls.unopened
    · exact fun _ _ hunopened => hunopened
    · exact fun _ _ hopened => hopened
  exact hopen b rfl

end Backend

namespace Cursor

/-- **Running a statement** on a cursor in use. -/
theorem execute_using {cursor : Cursor} (hlive : cursor.serial ∈ live) (statement : String)
    (parameters : List Value) :
    Leads (start.Using live) (cursor.execute statement parameters).run fun out b =>
      start.Using live b ∧ ∀ ran, out = .ok ran → ran.serial = cursor.serial := by
  intro b h
  obtain ⟨_, htrace, failure, ran, hsame, hout, rfl⟩ :=
    cursor.execute_adds statement parameters b
  have hserial : ((cursor.execute statement parameters).run b).2.nextSerial = b.nextSerial := by
    show ((cursor.answered statement parameters b (b.results.head?.getD (.ok ⟨[], []⟩))).run
      _).2.nextSerial = _
    cases b.results.head?.getD (.ok ⟨[], []⟩) <;> rfl
  refine ⟨h.concat htrace fun calls hcalls => ?_, fun ran' hran => ?_⟩
  · rw [hserial]
    exact hcalls.used hlive rfl rfl
  · rw [← (met_ok (hout.symm.trans hran)).2, hsame]

/-- **Fetching a row** from a cursor in use. -/
theorem fetch_using {cursor : Cursor} (hlive : cursor.serial ∈ live) :
    Leads (start.Using live) cursor.fetch.run fun out b =>
      start.Using live b ∧ ∀ row rest, out = .ok (row, rest) → rest.serial = cursor.serial := by
  have hattempt : Leads (start.Using live)
      (Backend.attempt .fetch (.fetch cursor.serial)).run fun _ => start.Using live :=
    Backend.attempt_using _ _ fun _ _ _ hcalls => hcalls.used hlive rfl rfl
  refine hattempt.andThen (fun failure b h => ⟨h, fun row rest hout => ?_⟩)
    fun _ b h => ⟨h, fun row rest hout => ?_⟩
  · cases hout
  · cases hout
    rfl

/-- **Closing a cursor** ends its use, even when it fails. -/
theorem close_using {cursor : Cursor} (hnot : cursor.serial ∉ live) :
    Leads (start.Using (insert cursor.serial live)) cursor.close.run fun _ =>
      start.Using live :=
  Backend.attempt_using _ _ fun _ _ _ hcalls => hcalls.closed hnot

end Cursor

namespace Database

/-- **A statement that fails has its cursor closed**; otherwise the cursor stays in use. -/
theorem runOn_using {cursor : Cursor} (hnot : cursor.serial ∉ live)
    {execute : Cursor → Step Cursor} (statement : String) (parameters : List Value)
    (hexecute : Leads (start.Using (insert cursor.serial live)) (execute cursor).run fun out b =>
      start.Using (insert cursor.serial live) b
        ∧ ∀ ran, out = .ok ran → ran.serial = cursor.serial) :
    Leads (start.Using (insert cursor.serial live))
      (runOn cursor statement parameters execute).run (start.Acquired live) := by
  refine hexecute.bind fun out => ?_
  cases out with
  | ok ran =>
      rintro b ⟨h, hsame⟩
      have hserial := hsame ran rfl
      show ran.serial ∉ live ∧ start.Using (insert ran.serial live) b
      rw [hserial]
      exact ⟨hnot, h⟩
  | error native =>
      intro b h
      exact (Cursor.close_using hnot).bind (fun _ => Leads.done _) b h.1

/-- **A statement that reads** leaves its cursor in use if it succeeds, and in no other case
one that was not in use before. -/
theorem executeRead_using (statement : String) (parameters : List Value) :
    Leads (start.Using live) (executeRead statement parameters).run (start.Acquired live) := by
  have hopen : Leads (start.Using live) (openCursor .read).run (start.Acquired live) :=
    Backend.connect_using.andThen (fun _ _ h => h) fun _ => Backend.openCursor_using .read
  refine hopen.andThen (fun _ _ h => h) fun cursor => Leads.assuming fun hnot => ?_
  exact runOn_using hnot statement parameters
    (Cursor.execute_using (Set.mem_insert _ _) statement parameters)

end Database

end RecordMapper
