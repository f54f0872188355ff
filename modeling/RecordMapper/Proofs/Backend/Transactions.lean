/-
  RecordMapper.Proofs.Backend.Transactions
  ────────────────────────────────
  **WHICH TRANSACTIONS ARE LEFT OPEN.**

  Writes, and any work that is given to a database, run inside transactions.  Every
  call of the backend may fail, and the next transaction runs on the connection that
  the failed one leaves behind.  `Standing` follows the record and says whether a
  transaction is open after it.

  Main results: a transaction that was begun is committed or rolled back, unless the
  commit itself is what fails (`transaction_ends_unless_commit_fails`); a commit that
  fails is followed by nothing, so it leaves the transaction open and the cursor of a
  write too (`failed_commit_leaves_transaction_open`).
-/
import RecordMapper.Proofs.Backend.Additions

namespace RecordMapper

/-! ## §1. Where a transaction stands. -/

/-- **Where the last transaction on a record stands.** -/
inductive Standing where
  /-- None is open. -/
  | settled
  /-- It was begun, and neither committed nor rolled back. -/
  | begun
  /-- Its commit failed, and nothing ended it since. -/
  | uncommitted
  deriving DecidableEq, Repr

namespace Standing

/-- Where it stands after one more call.  A rollback ends a transaction even when it
fails. -/
def after (s : Standing) (a : Attempt) : Standing :=
  match a.call, a.failure with
  | .begin, none => .begun
  | .commit, none => .settled
  | .commit, some _ => if s = .settled then .settled else .uncommitted
  | .rollback, _ => .settled
  | _, _ => s

/-- Where it stands after more calls. -/
def afterAll (s : Standing) (calls : List Attempt) : Standing :=
  calls.foldl after s

theorem afterAll_append (s : Standing) (calls more : List Attempt) :
    s.afterAll (calls ++ more) = (s.afterAll calls).afterAll more :=
  List.foldl_append

/-- **No transaction is begun while another one has only been begun.** -/
def Orderly (s : Standing) : List Attempt → Prop
  | [] => True
  | a :: rest => (a.call = .begin → s ≠ .begun) ∧ (s.after a).Orderly rest

theorem orderly_append {s : Standing} : ∀ {calls more : List Attempt},
    s.Orderly (calls ++ more) ↔ s.Orderly calls ∧ (s.afterAll calls).Orderly more
  | [], _ => ⟨fun h => ⟨trivial, h⟩, fun h => h.2⟩
  | a :: calls, more => by
      show _ ∧ (s.after a).Orderly (calls ++ more) ↔ (_ ∧ (s.after a).Orderly calls) ∧ _
      rw [orderly_append, and_assoc]
      rfl

/-- Calls none of which begins a transaction are orderly. -/
theorem orderly_of_no_begin : ∀ {calls : List Attempt} (s : Standing),
    (∀ a ∈ calls, a.call ≠ .begin) → s.Orderly calls
  | [], _, _ => trivial
  | a :: calls, s, h => by
      obtain ⟨ha, hrest⟩ := List.forall_mem_cons.1 h
      exact ⟨fun hbegin => absurd hbegin ha, orderly_of_no_begin _ hrest⟩

/-- What the record was when a transaction was begun. -/
theorem Orderly.at_begin {s : Standing} {earlier later : List Attempt} {a : Attempt}
    (h : s.Orderly (earlier ++ a :: later)) (ha : a.call = .begin) :
    s.afterAll earlier ≠ .begun :=
  (orderly_append.1 h).2.1 ha

end Standing

/-! ## §2. Calls that run transactions. -/

/-- **A call on a database that runs a transaction.** -/
inductive Transactional : Type 1 where
  | around {α : Type} (work : Step α)
  | write (statement : String) (parameters : List Value)
  | writeMany (statement : String) (rows : List (List Value))

namespace Transactional

/-- What the call does; the result of its work is left out. -/
def step : Transactional → Step Unit
  | .around work => do
    let _ ← Database.inTransaction work
    return ()
  | .write statement parameters => do
    let _ ← Database.executeWrite statement parameters
    return ()
  | .writeMany statement rows => do
    let _ ← Database.executeWriteMany statement rows
    return ()

/-- A sequence of calls on one database, each whether or not those before it failed. -/
def runAll (calls : List Transactional) (b : Backend) : Backend :=
  calls.foldl (fun b c => (c.step.run b).2) b

/-- The call runs a statement of its own. -/
def isWrite : Transactional → Bool
  | .around _ => false
  | .write _ _ | .writeMany _ _ => true

/-- **The work of the call begins no transaction of its own.** -/
def BeginsNothing : Transactional → Prop
  | .around work => work.Adds fun _ added => ∀ a ∈ added, a.call ≠ .begin
  | .write _ _ | .writeMany _ _ => True

/-- **The work of the call leaves the transaction to it**: it neither begins one nor
ends it. -/
def LeavesTransaction : Transactional → Prop
  | .around work => work.Adds fun _ added =>
    ∀ a ∈ added, a.call ≠ .begin ∧ a.call ≠ .commit ∧ a.call ≠ .rollback
  | .write _ _ | .writeMany _ _ => True

end Transactional

/-- **The transaction was ended**: a commit succeeded or a rollback was tried. -/
def Ends (added : List Attempt) : Prop :=
  ⟨.commit, none⟩ ∈ added ∨ ∃ failure, ⟨.rollback, failure⟩ ∈ added

/-- **The commit failed**, and no call came after it. -/
def CommitFails (added : List Attempt) : Prop :=
  ∃ earlier message, added = earlier ++ [⟨.commit, some message⟩]

/-! ## §3. One call. -/

namespace Standing

/-- Only a commit that fails leaves a transaction without one. -/
theorem after_uncommitted {s : Standing} {a : Attempt} (h : s.after a = .uncommitted) :
    s = .uncommitted ∨ ∃ message, a = ⟨.commit, some message⟩ := by
  obtain ⟨call, failure⟩ := a
  cases call with
  | commit =>
      cases failure with
      | none => cases h
      | some message => exact .inr ⟨message, rfl⟩
  | begin =>
      cases failure with
      | none => cases h
      | some message => exact .inl h
  | rollback => cases h
  | _ => exact .inl h

/-- A transaction that is left without a commit has one on record that failed. -/
theorem commit_failed : ∀ {calls : List Attempt} {s : Standing}, s ≠ .uncommitted →
    s.afterAll calls = .uncommitted → ∃ message, ⟨.commit, some message⟩ ∈ calls
  | [], _, hs, h => absurd h hs
  | a :: calls, s, hs, h => by
      by_cases hnext : s.after a = .uncommitted
      · obtain ⟨message, rfl⟩ := (after_uncommitted hnext).resolve_left hs
        exact ⟨message, List.mem_cons_self⟩
      · obtain ⟨message, hmem⟩ := commit_failed hnext h
        exact ⟨message, List.mem_cons_of_mem _ hmem⟩

end Standing

namespace Conducted

variable {α : Type} {P : Except Failure α → List Attempt → Prop} {out : Except Failure α}
  {added : List Attempt}

/-- **A transaction begins only at its start**, and is not left as it was begun. -/
theorem orderly (h : Conducted P out added)
    (hwork : ∀ out calls, P out calls → ∀ a ∈ calls, a.call ≠ .begin) {s : Standing}
    (hs : s ≠ .begun) : s.Orderly added ∧ s.afterAll added ≠ .begun := by
  -- The call that ends the transaction decides where it stands.
  have hend : ∀ (fresh : Bool) (calls : List Attempt) (last : Attempt),
      (∀ a ∈ calls, a.call ≠ .begin) → last.call ≠ .begin →
      (∀ s : Standing, s.after last ≠ .begun) →
      s.Orderly (⟨.connect fresh, none⟩ :: ⟨.begin, none⟩ :: (calls ++ [last]))
        ∧ s.afterAll (⟨.connect fresh, none⟩ :: ⟨.begin, none⟩ :: (calls ++ [last])) ≠ .begun := by
    intro fresh calls last hcalls hlast hafter
    refine ⟨⟨(nomatch ·), fun _ => hs, ?_⟩, ?_⟩
    · refine Standing.orderly_append.2 ⟨Standing.orderly_of_no_begin _ hcalls, ?_⟩
      exact ⟨fun hbegin => absurd hbegin hlast, trivial⟩
    · show Standing.afterAll _ (calls ++ [last]) ≠ _
      rw [Standing.afterAll_append]
      exact hafter _
  cases h with
  | unconnected => exact ⟨⟨(nomatch ·), trivial⟩, hs⟩
  | unbegun => exact ⟨⟨(nomatch ·), fun _ => hs, trivial⟩, hs⟩
  | @finished fresh a calls failure worked =>
      refine hend fresh calls _ (hwork _ _ worked) (by simp) fun s => ?_
      cases failure with
      | none => simp [Standing.after]
      | some message => cases s <;> simp [Standing.after]
  | @undone fresh e calls failure worked =>
      exact hend fresh calls _ (hwork _ _ worked) (by simp) fun s => by simp [Standing.after]

/-- **A transaction that was begun is ended, unless its commit fails.** -/
theorem ends (h : Conducted P out added) (hbegun : ⟨.begin, none⟩ ∈ added) :
    Ends added ∨ CommitFails added := by
  cases h with
  | unconnected => simp at hbegun
  | unbegun => simp at hbegun
  | @finished fresh a calls failure worked =>
      cases failure with
      | none => exact .inl (.inl (by simp))
      | some message => exact .inr ⟨⟨.connect fresh, none⟩ :: ⟨.begin, none⟩ :: calls, message, rfl⟩
  | @undone fresh e calls failure worked => exact .inl (.inr ⟨failure, by simp⟩)

/-- **When the commit fails, the work had succeeded**, and the call fails as the commit
does. -/
theorem of_commitFails (h : Conducted P out added) (hfails : CommitFails added) :
    ∃ fresh a calls message, P (.ok a) calls ∧ out = .error (.backend message)
      ∧ added = ⟨.connect fresh, none⟩ :: ⟨.begin, none⟩ :: (calls ++ [⟨.commit, some message⟩]) := by
  obtain ⟨earlier, message, hadded⟩ := hfails
  have hlast : added.getLast? = some ⟨.commit, some message⟩ := by
    rw [hadded, List.getLast?_concat]
  cases h with
  | unconnected => simp at hlast
  | unbegun => simp at hlast
  | @finished fresh a calls failure worked =>
      obtain rfl : failure = some message := by simpa [List.getLast?_cons] using hlast
      exact ⟨fresh, a, calls, message, worked, rfl, rfl⟩
  | undone worked => simp [List.getLast?_cons] at hlast

/-- **A commit that fails leaves the transaction open**, when the work did not end it. -/
theorem not_ends (h : Conducted P out added) (hfails : CommitFails added)
    (hwork : ∀ out calls, P out calls →
      ∀ a ∈ calls, a.call ≠ .begin ∧ a.call ≠ .commit ∧ a.call ≠ .rollback) :
    ¬ Ends added := by
  obtain ⟨fresh, a, calls, message, worked, -, rfl⟩ := h.of_commitFails hfails
  rintro (hcommit | ⟨failure, hrollback⟩)
  · have hmem : ⟨.commit, none⟩ ∈ calls := by simpa using hcommit
    exact (hwork _ _ worked _ hmem).2.1 rfl
  · have hmem : ⟨.rollback, failure⟩ ∈ calls := by simpa using hrollback
    exact (hwork _ _ worked _ hmem).2.2 rfl

end Conducted

/-! ## §4. The cursor of a write. -/

section

variable {serial : Nat} {statement : String} {parameters : List Value}
  {rows : List (List Value)} {out : Except Failure Cursor} {calls : List Attempt}

/-- Runs of a statement are all there is. -/
theorem Executed.call_eq (h : Executed serial statement rows out calls) :
    ∀ a ∈ calls, ∃ row, a.call = .execute serial statement row := by
  intro a ha
  cases h with
  | whole same =>
      obtain ⟨row, -, rfl⟩ := List.mem_map.1 ha
      exact ⟨row, rfl⟩
  | stopped split =>
      rcases List.mem_append.1 ha with ha | ha
      · obtain ⟨row, -, rfl⟩ := List.mem_map.1 ha
        exact ⟨row, rfl⟩
      · obtain rfl := List.mem_singleton.1 ha
        exact ⟨_, rfl⟩

/-- Runs of a statement, and the cursor closed, are all there is. -/
theorem Ran.call_eq (h : Ran serial statement parameters rows out calls) :
    ∀ a ∈ calls, (∃ row, a.call = .execute serial statement row) ∨ a.call = .closeCursor serial := by
  intro a ha
  cases h with
  | whole executed => exact .inl (executed.call_eq a ha)
  | closed executed =>
      rcases List.mem_append.1 ha with ha | ha
      · exact .inl (executed.call_eq a ha)
      · obtain rfl := List.mem_singleton.1 ha
        exact .inr rfl

/-- **A write leaves the transaction to the call that runs it.** -/
theorem RanOnNew.leaves {intent : Intent} (h : RanOnNew intent statement parameters rows out calls) :
    ∀ a ∈ calls, a.call ≠ .begin ∧ a.call ≠ .commit ∧ a.call ≠ .rollback := by
  have hran : ∀ {serial : Nat} {calls : List Attempt},
      Ran serial statement parameters rows out calls →
      ∀ a ∈ calls, a.call ≠ .begin ∧ a.call ≠ .commit ∧ a.call ≠ .rollback := by
    intro serial calls h a ha
    obtain ⟨row, hcall⟩ | hcall := h.call_eq a ha <;> rw [hcall] <;> simp
  cases h with
  | unconnected => simp
  | unopened => simp
  | opened ran => simpa using hran ran

/-- **A write that fails with its cursor open closes it, unless it is the commit that
fails.** -/
theorem Conducted.closes_iff {e : Failure} {added : List Attempt}
    (h : Conducted (RanOnNew .write statement parameters rows) (.error e) added)
    (hopened : ⟨.cursor serial .write, none⟩ ∈ added) :
    (∃ failure, ⟨.closeCursor serial, failure⟩ ∈ added) ↔ ¬ CommitFails added := by
  constructor
  -- A commit is tried when the work succeeded, and then the cursor was not closed.
  · rintro ⟨failure, hclosed⟩ hfails
    obtain ⟨fresh, cursor, calls, message, worked, -, rfl⟩ := h.of_commitFails hfails
    cases worked with
    | opened ran =>
        cases ran with
        | whole executed =>
            obtain ⟨row, hcall⟩ := executed.call_eq ⟨.closeCursor serial, failure⟩
              (by simpa using hclosed)
            cases hcall
  · intro hcommit
    generalize hout : (Except.error e : Except Failure Cursor) = out at h
    cases h with
    | unconnected => simp at hopened
    | unbegun => simp at hopened
    | @finished fresh a calls failure worked =>
        obtain ⟨message, rfl, -⟩ := met_error hout.symm
        exact absurd ⟨⟨.connect fresh, none⟩ :: ⟨.begin, none⟩ :: calls, message, rfl⟩ hcommit
    | @undone fresh e calls failure worked =>
        cases worked with
        | unconnected => simp at hopened
        | unopened => simp at hopened
        | @opened fresh' serial' _ ran ran' =>
            cases ran' with
            | @closed native runs failure' executed =>
                -- The cursor that was opened is the one of the statement.
                have hserial : serial = serial' := by
                  have hmem : serial = serial' ∨ ⟨.cursor serial .write, none⟩ ∈ runs := by
                    simpa using hopened
                  rcases hmem with hserial | hmem
                  · exact hserial
                  · obtain ⟨row, hcall⟩ := executed.call_eq _ hmem
                    cases hcall
                rw [hserial]
                exact ⟨failure', by simp⟩

end

/-! ## §5. Sequences of calls. -/

namespace Transactional

/-- **What a call adds is a transaction** around work that begins none. -/
theorem step_adds (c : Transactional) (h : c.BeginsNothing) :
    c.step.Adds fun out added =>
      ∃ (α : Type) (work : Except Failure α → List Attempt → Prop) (out' : Except Failure α),
        (∀ out calls, work out calls → ∀ a ∈ calls, a.call ≠ .begin)
          ∧ out = out'.map (fun _ => ()) ∧ Conducted work out' added := by
  cases c with
  | around work =>
      unfold BeginsNothing at h
      refine (Database.inTransaction_adds h).discarded.mono fun out added => ?_
      rintro ⟨out', hout, hadded⟩
      exact ⟨_, _, out', fun _ _ hcalls => hcalls, hout, hadded⟩
  | write statement parameters =>
      refine (Database.executeWrite_adds statement parameters).discarded.mono fun out added => ?_
      rintro ⟨out', hout, hadded⟩
      exact ⟨_, _, out', fun _ _ hcalls a ha => (hcalls.leaves a ha).1, hout, hadded⟩
  | writeMany statement rows =>
      refine (Database.executeWriteMany_adds statement rows).discarded.mono fun out added => ?_
      rintro ⟨out', hout, hadded⟩
      exact ⟨_, _, out', fun _ _ hcalls a ha => (hcalls.leaves a ha).1, hout, hadded⟩

/-- **A commit that fails leaves the transaction open**, when the work left it to the
call. -/
theorem not_ends (c : Transactional) (h : c.LeavesTransaction) (b : Backend)
    (hfails : CommitFails (c.step.added b)) : ¬ Ends (c.step.added b) := by
  cases c with
  | around work =>
      unfold LeavesTransaction at h
      obtain ⟨_, out, -, hadded⟩ := (Database.inTransaction_adds h).discarded.added b
      exact hadded.not_ends hfails fun _ _ hcalls => hcalls
  | write statement parameters =>
      obtain ⟨_, out, -, hadded⟩ := (Database.executeWrite_adds statement parameters).discarded.added b
      exact hadded.not_ends hfails fun _ _ hcalls => hcalls.leaves
  | writeMany statement rows =>
      obtain ⟨_, out, -, hadded⟩ := (Database.executeWriteMany_adds statement rows).discarded.added b
      exact hadded.not_ends hfails fun _ _ hcalls => hcalls.leaves

/-- A step that fails without its result fails with it. -/
theorem map_error {α : Type} {out : Except Failure α} {e : Failure}
    (h : .error e = out.map fun _ => ()) : out = .error e := by
  cases out with
  | error e' => rw [Except.error.inj h]
  | ok a => cases h

/-- **A write that fails closes the cursor that it opened, unless its commit fails.** -/
theorem closes_iff (c : Transactional) (hwrite : c.isWrite = true) (b : Backend) {e : Failure}
    (hfailed : (c.step.run b).1 = .error e) {serial : Nat}
    (hopened : ⟨.cursor serial .write, none⟩ ∈ c.step.added b) :
    (∃ failure, ⟨.closeCursor serial, failure⟩ ∈ c.step.added b)
      ↔ ¬ CommitFails (c.step.added b) := by
  cases c with
  | around work => cases hwrite
  | write statement parameters =>
      obtain ⟨_, out, hout, hadded⟩ :=
        (Database.executeWrite_adds statement parameters).discarded.added b
      obtain rfl := map_error (hfailed.symm.trans hout)
      exact hadded.closes_iff hopened
  | writeMany statement rows =>
      obtain ⟨_, out, hout, hadded⟩ :=
        (Database.executeWriteMany_adds statement rows).discarded.added b
      obtain rfl := map_error (hfailed.symm.trans hout)
      exact hadded.closes_iff hopened

/-- **A sequence of calls** adds what its calls add.  No transaction is begun while
another has only been begun, and the last one is not left so.  The induction is on the
calls, from wherever the record stands. -/
theorem runAll_orderly : ∀ {calls : List Transactional} (b : Backend) {s : Standing},
    (∀ c ∈ calls, c.BeginsNothing) → s ≠ .begun →
      ∃ added, (runAll calls b).trace = b.trace ++ added ∧ s.Orderly added
        ∧ s.afterAll added ≠ .begun
  | [], b, s, _, hs => ⟨[], (List.append_nil _).symm, trivial, hs⟩
  | c :: calls, b, s, hcalls, hs => by
      obtain ⟨hc, hrest⟩ := List.forall_mem_cons.1 hcalls
      obtain ⟨htrace, α, work, out, hwork, -, hadded⟩ := (c.step_adds hc).added b
      obtain ⟨horderly, hstands⟩ := hadded.orderly hwork hs
      obtain ⟨more, htraces, hmore, hleft⟩ := runAll_orderly (c.step.run b).2 hrest hstands
      refine ⟨c.step.added b ++ more, ?_, Standing.orderly_append.2 ⟨horderly, hmore⟩, ?_⟩
      · show (runAll calls (c.step.run b).2).trace = _
        rw [htraces, htrace, List.append_assoc]
      · rw [Standing.afterAll_append]
        exact hleft

end Transactional

open Transactional in
/-- **A transaction that was begun is ended, unless its commit fails.**  Whatever fails, a
call whose transaction was begun commits it or tries to roll it back, or else its last
call is a commit that failed; then the call fails, and leaves the transaction open unless
the work ended it.  A write that fails with its cursor open has closed it in the same
cases.  Over a whole sequence of calls, a transaction is begun only where none is open or
where the commit of the open one failed. -/
theorem transaction_ends_unless_commit_fails {calls : List Transactional}
    (hcalls : ∀ c ∈ calls, c.BeginsNothing) (b : Backend) :
    (∀ before c after, calls = before ++ c :: after →
        let b' := runAll before b
        let added := c.step.added b'
        (c.step.run b').2.trace = b'.trace ++ added
          ∧ (⟨.begin, none⟩ ∈ added → Ends added ∨ CommitFails added)
          ∧ (CommitFails added → ⟨.begin, none⟩ ∈ added
            ∧ (∃ message, (c.step.run b').1 = .error (.backend message))
            ∧ (c.LeavesTransaction → ¬ Ends added))
          ∧ (c.isWrite = true → (∃ e, (c.step.run b').1 = .error e) →
            ∀ serial, ⟨.cursor serial .write, none⟩ ∈ added →
              ((∃ failure, ⟨.closeCursor serial, failure⟩ ∈ added) ↔ ¬ CommitFails added)))
      ∧ ∃ added, (runAll calls b).trace = b.trace ++ added
        ∧ ∀ earlier a later, added = earlier ++ a :: later → a.call = .begin →
          Standing.settled.afterAll earlier = .settled
            ∨ Standing.settled.afterAll earlier = .uncommitted
              ∧ ∃ message, ⟨.commit, some message⟩ ∈ earlier := by
  refine ⟨fun before c after hsplit => ?_, ?_⟩
  · have hc : c.BeginsNothing := hcalls c (by rw [hsplit]; simp)
    obtain ⟨htrace, α, work, out, hwork, hout, hadded⟩ :=
      (c.step_adds hc).added (runAll before b)
    refine ⟨htrace, hadded.ends, fun hfails => ?_, fun hwrite ⟨e, hfailed⟩ serial hopened =>
      c.closes_iff hwrite _ hfailed hopened⟩
    obtain ⟨fresh, a, work', message, -, rfl, hcalls'⟩ := hadded.of_commitFails hfails
    exact ⟨by rw [hcalls']; simp, ⟨message, hout⟩, fun hleaves => c.not_ends hleaves _ hfails⟩
  · obtain ⟨added, htrace, horderly, -⟩ := runAll_orderly b hcalls (s := .settled) (by simp)
    refine ⟨added, htrace, fun earlier a later hsplit hbegin => ?_⟩
    rw [hsplit] at horderly
    have hstands := horderly.at_begin hbegin
    cases hearlier : Standing.settled.afterAll earlier with
    | settled => exact .inl rfl
    | begun => exact absurd hearlier hstands
    | uncommitted => exact .inr ⟨rfl, Standing.commit_failed (by simp) hearlier⟩

namespace Sample

/-- A backend whose next commit fails. -/
def diskFull : Backend :=
  (Backend.new .generic).pushFault .commit "disk full"

/-- Some work of a caller in a transaction, and then a write. -/
def cleanUp : List Transactional :=
  [.around (Backend.openCursor .write), .write "DELETE FROM book" []]

end Sample

open Sample Transactional in
/-- The work of the caller is left open by its commit, and the write is committed. -/
theorem cleanUp_transactions :
    ¬ Ends ((Transactional.around (Backend.openCursor .write)).step.added diskFull)
      ∧ Ends ((Transactional.write "DELETE FROM book" []).step.added
        (runAll [.around (Backend.openCursor .write)] diskFull)) := by
  have hopens : (Backend.openCursor .write).Adds fun _ added =>
      ∀ a ∈ added, a.call ≠ .begin ∧ a.call ≠ .commit ∧ a.call ≠ .rollback := by
    refine (Backend.openCursor_adds .write).mono fun out added => ?_
    rintro ⟨serial, failure, -, rfl⟩
    simp
  have hcalls : ∀ c ∈ cleanUp, c.BeginsNothing := by
    refine List.forall_mem_cons.2 ⟨?_, List.forall_mem_singleton.2 trivial⟩
    unfold BeginsNothing
    exact hopens.mono fun out added h a ha => (h a ha).1
  have hleaves : (Transactional.around (Backend.openCursor .write)).LeavesTransaction := by
    unfold LeavesTransaction
    exact hopens
  obtain ⟨hends, -⟩ := transaction_ends_unless_commit_fails hcalls diskFull
  obtain ⟨-, -, hfails, -⟩ := hends [] _ _ rfl
  obtain ⟨-, hended, -⟩ := hends [_] _ [] rfl
  refine ⟨(hfails ⟨_, "disk full", rfl⟩).2.2 hleaves, ?_⟩
  refine (hended ?_).resolve_right ?_
  · decide +kernel
  · rintro ⟨earlier, message, hadded⟩
    have hlast : ((Transactional.write "DELETE FROM book" []).step.added
        (runAll [.around (Backend.openCursor .write)] diskFull)).getLast? = some ⟨.commit, none⟩ := by
      decide +kernel
    rw [hadded, List.getLast?_concat] at hlast
    cases hlast

open Sample Transactional in
/-- **A commit that fails leaves the transaction open**: it is not rolled back, the cursor
of the write is not closed, and the next transaction is begun all the same. -/
theorem failed_commit_leaves_transaction_open :
    (¬ ∀ (calls : List Transactional) (b : Backend), (∀ c ∈ calls, c.BeginsNothing) →
        ∀ before c after, calls = before ++ c :: after →
          ⟨.begin, none⟩ ∈ c.step.added (runAll before b) →
            Ends (c.step.added (runAll before b)))
      ∧ (¬ ∀ (calls : List Transactional) (b : Backend), (∀ c ∈ calls, c.BeginsNothing) →
        ∀ earlier a later, (runAll calls b).trace = b.trace ++ (earlier ++ a :: later) →
          a.call = .begin → Standing.settled.afterAll earlier = .settled)
      ∧ ¬ ∀ (c : Transactional) (b : Backend), c.isWrite = true →
        (∃ e, (c.step.run b).1 = .error e) → ∀ serial,
          ⟨.cursor serial .write, none⟩ ∈ c.step.added b →
            ∃ failure, ⟨.closeCursor serial, failure⟩ ∈ c.step.added b := by
  have hadded : (Transactional.write "DELETE FROM book" []).step.added diskFull
      = [⟨.connect true, none⟩, ⟨.begin, none⟩, ⟨.connect false, none⟩, ⟨.cursor 0 .write, none⟩,
        ⟨.execute 0 "DELETE FROM book" [], none⟩, ⟨.commit, some "disk full"⟩] := by
    decide +kernel
  have htwice :
      (runAll [.write "DELETE FROM book" [], .write "DELETE FROM book" []] diskFull).trace
        = diskFull.trace ++ ([⟨.connect true, none⟩, ⟨.begin, none⟩, ⟨.connect false, none⟩,
          ⟨.cursor 0 .write, none⟩, ⟨.execute 0 "DELETE FROM book" [], none⟩,
          ⟨.commit, some "disk full"⟩, ⟨.connect false, none⟩] ++ ⟨.begin, none⟩ ::
          [⟨.connect false, none⟩, ⟨.cursor 1 .write, none⟩,
            ⟨.execute 1 "DELETE FROM book" [], none⟩, ⟨.commit, none⟩]) := by
    decide +kernel
  refine ⟨fun h => ?_, fun h => ?_, fun h => ?_⟩
  · have hended := h [.write "DELETE FROM book" []] diskFull
      (List.forall_mem_singleton.2 trivial) [] _ [] rfl
    change _ ∈ Step.added _ diskFull → Ends (Step.added _ diskFull) at hended
    rw [hadded] at hended
    simp [Ends] at hended
  · have hstands := h [.write "DELETE FROM book" [], .write "DELETE FROM book" []] diskFull
      (by simp [BeginsNothing]) _ ⟨.begin, none⟩ _ htwice rfl
    exact absurd hstands (by decide)
  · have hclosed := h (.write "DELETE FROM book" []) diskFull rfl ⟨.backend "disk full", rfl⟩ 0
    rw [hadded] at hclosed
    simp at hclosed

end RecordMapper
