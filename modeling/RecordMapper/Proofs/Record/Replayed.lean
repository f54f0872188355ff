/-
  RecordMapper.Proofs.Record.Replayed
  ────────────────────────────────
  **WHAT A RESULT REPLAYS.**

  A result that is told to keep its records can replay them once its cursor is closed.
  It is used in any order: it is read on, told to keep or to stop to, replayed, closed, and
  read within scopes.  Rows may fail to be fetched or to convert, and what else is done to
  the databases between two uses is left open: each use is made on databases of its own.

  One use adds to the kept records what it reads, if records are kept then; from this the
  run of all uses is an induction.  When records are kept from before the first reading on,
  the kept records are those that reading yielded.  A result cannot tell that it kept no
  record from that it was never told to, and replays neither: a result that was told to
  keep its records and read none has nothing to replay either.

  Main results: `closedBy_iff`, `replay_iff_something_read`.
-/
import RecordMapper.Proofs.Record.Reading

namespace RecordMapper

/-! ## §1. One use. -/

/-- The records among what reading on yielded, in order. -/
def recordsOf (readings : List Reading) : List Record :=
  readings.filterMap Except.toOption

theorem recordsOf_append (readings later : List Reading) :
    recordsOf (readings ++ later) = recordsOf readings ++ recordsOf later :=
  List.filterMap_append

namespace Use

/-- **What a use yields**, and the result afterwards.  Only reading on yields something. -/
def reading (r : Result) : Use → StateM Servers (Option Reading × Result)
  | .next => r.next
  | u => do return (none, ← u.on r)

/-- Whether records are kept after a use. -/
def keepingAfter (keeping : Bool) : Use → Bool
  | .keep keeping' => keeping'
  | _ => keeping

/-- **A use that closes the cursor**: the result is closed, a scope ends, the rows are found
exhausted outside of a scope, or a row cannot be fetched. -/
def Closes (r : Result) (servers : Servers) : Use → Prop
  | .close | .leave => True
  | .next =>
    match r.cursor with
    | none => False
    | some cursor =>
      match ((Action.on r.source cursor.fetch).outcome servers).1 with
      | .ok (some _, _) => False
      | .ok (none, _) => r.inScope = false
      | .error _ => True
  | .keep _ | .replay | .enter => False

end Use

namespace Result

/-- **A result that is closed** differs from before in its cursor alone. -/
theorem close_eq (r : Result) (servers : Servers) :
    (r.close servers).1 = { r with cursor := none } := by
  obtain ⟨model, source, cursor, naive, fields, keeping, kept, inScope⟩ := r
  cases cursor <;> rfl

/-- A result that a reading was added to. -/
theorem remember_eq (r : Result) (reading : Reading) :
    r.remember reading
      = { r with kept := r.kept ++ if r.keeping then recordsOf [reading] else [] } := by
  obtain ⟨model, source, cursor, naive, fields, keeping, kept, inScope⟩ := r
  cases reading <;> cases keeping <;> simp [remember, recordsOf, Except.toOption]

/-- **What comes of reading on** from an open cursor: the record of a row is yielded and
remembered, the rows are exhausted, or a row cannot be fetched. -/
def readOn (r : Result) (cursor : Cursor) :
    Except Failure (Option (List Value) × Cursor) → Option Reading × Result
  | .ok (some row, rest) =>
    (some (r.materialize cursor.labels row),
      { r with cursor := some rest }.remember (r.materialize cursor.labels row))
  | .ok (none, rest) => (none, { r with cursor := if r.inScope then some rest else none })
  | .error failure => (some (.error failure), { r with cursor := none })

theorem next_eq {r : Result} {cursor : Cursor} (hcursor : r.cursor = some cursor)
    (servers : Servers) :
    (r.next servers).1 = r.readOn cursor ((Action.on r.source cursor.fetch).outcome servers).1 := by
  obtain ⟨model, source, _, naive, fields, keeping, kept, inScope⟩ := r
  obtain rfl : _ = some cursor := hcursor
  simp only [next, bind, StateT.bind]
  generalize (Action.on source cursor.fetch).outcome servers = reached
  obtain ⟨failure | ⟨_ | row, rest⟩, between⟩ := reached
  · rfl
  · cases inScope <;> rfl
  · rfl

theorem next_closed {r : Result} (hcursor : r.cursor = none) (servers : Servers) :
    (r.next servers).1 = (none, r) := by
  unfold next
  rw [hcursor]
  rfl

end Result

/-- **One use** adds the records that it yields to those that are kept, if records are kept
then. -/
theorem Use.reading_kept (r : Result) (servers : Servers) : ∀ u : Use,
    (u.reading r servers).1.2.keeping = u.keepingAfter r.keeping
      ∧ (u.reading r servers).1.2.kept
        = r.kept ++ if r.keeping then recordsOf (u.reading r servers).1.1.toList else [] := by
  -- A use that yields nothing keeps what was kept.
  have hnothing : ∀ kept : List Record, kept = kept ++ if r.keeping then recordsOf [] else [] := by
    intro kept
    cases r.keeping <;> exact (List.append_nil _).symm
  intro u
  cases u with
  | next =>
      show ((r.next servers).1.2.keeping = r.keeping) ∧ ((r.next servers).1.2.kept
        = r.kept ++ if r.keeping then recordsOf (r.next servers).1.1.toList else [])
      cases hcursor : r.cursor with
      | none =>
          rw [Result.next_closed hcursor]
          exact ⟨rfl, hnothing _⟩
      | some cursor =>
          rw [Result.next_eq hcursor]
          rcases ((Action.on r.source cursor.fetch).outcome servers).1 with
            failure | ⟨_ | row, rest⟩
          · exact ⟨rfl, hnothing _⟩
          · exact ⟨rfl, hnothing _⟩
          · dsimp only [Result.readOn]
            rw [Result.remember_eq]
            exact ⟨rfl, rfl⟩
  | keep keeping => exact ⟨rfl, hnothing _⟩
  | replay => exact ⟨rfl, hnothing _⟩
  | enter => exact ⟨rfl, hnothing _⟩
  | close =>
      show ((r.close servers).1.keeping = _) ∧ ((r.close servers).1.kept = _)
      rw [r.close_eq]
      exact ⟨rfl, hnothing _⟩
  | leave =>
      show ((r.close servers).1.keeping = _) ∧ ((r.close servers).1.kept = _)
      rw [r.close_eq]
      exact ⟨rfl, hnothing _⟩

/-- **One use** leaves an open result open unless it closes it, and a closed one closed. -/
theorem Use.reading_closed (r : Result) (servers : Servers) (u : Use) :
    (u.reading r servers).1.2.isOpen = false ↔ r.isOpen = false ∨ u.Closes r servers := by
  have hsame : r.isOpen = false ↔ r.isOpen = false ∨ False := (or_iff_left id).symm
  cases u with
  | next =>
      show (r.next servers).1.2.isOpen = false ↔ _
      unfold Closes
      cases hcursor : r.cursor with
      | none =>
          rw [Result.next_closed hcursor]
          exact hsame
      | some cursor =>
          rw [Result.next_eq hcursor]
          have hopen : r.isOpen = true := by
            rw [Result.isOpen, hcursor]
            rfl
          dsimp only
          rcases ((Action.on r.source cursor.fetch).outcome servers).1 with
            failure | ⟨_ | row, rest⟩
          · simp [Result.readOn, Result.isOpen]
          · cases hscope : r.inScope <;> simp [Result.readOn, Result.isOpen, hcursor, hscope]
          · simp [Result.readOn, Result.remember_eq, Result.isOpen, hcursor]
  | keep keeping => exact hsame
  | replay => exact hsame
  | enter => exact hsame
  | close =>
      show (r.close servers).1.isOpen = false ↔ _
      rw [r.close_eq]
      simp [Result.isOpen, Closes]
  | leave =>
      show Result.isOpen { (r.close servers).1 with inScope := false } = false ↔ _
      rw [r.close_eq]
      simp [Result.isOpen, Closes]

/-! ## §2. All uses. -/

/-- **A turn**: a use, and the databases as they stand when it is made. -/
abbrev Turn := Use × Servers

namespace Result

/-- **Use a result over and over**: what reading on yields, and the result at the end. -/
def useAll (r : Result) : List Turn → List Reading × Result
  | [] => ([], r)
  | (u, servers) :: turns =>
    let (reading, r) := (u.reading r servers).1
    let (later, r) := r.useAll turns
    (reading.toList ++ later, r)

/-- What one turn and those behind it yield. -/
theorem useAll_cons (r : Result) (u : Use) (servers : Servers) (turns : List Turn) :
    r.useAll ((u, servers) :: turns)
      = ((u.reading r servers).1.1.toList ++ ((u.reading r servers).1.2.useAll turns).1,
        ((u.reading r servers).1.2.useAll turns).2) :=
  rfl

/-- **The uses close the cursor**: one of them does, on the result as it is by then. -/
def ClosedBy (r : Result) (turns : List Turn) : Prop :=
  ∃ done turn rest, turns = done ++ turn :: rest ∧ turn.1.Closes (r.useAll done).2 turn.2

/-- The first turn closes the cursor, or one behind it does. -/
theorem closedBy_cons (r : Result) (u : Use) (servers : Servers) (turns : List Turn) :
    r.ClosedBy ((u, servers) :: turns)
      ↔ u.Closes r servers ∨ (u.reading r servers).1.2.ClosedBy turns := by
  refine ⟨fun ⟨done, turn, rest, hturns, hcloses⟩ => ?_, fun h => ?_⟩
  · cases done with
    | nil =>
        obtain ⟨rfl, rfl⟩ := List.cons.inj hturns
        exact .inl hcloses
    | cons first done =>
        obtain ⟨rfl, rfl⟩ := List.cons.inj hturns
        exact .inr ⟨done, turn, rest, rfl, hcloses⟩
  · obtain hcloses | ⟨done, turn, rest, rfl, hcloses⟩ := h
    · exact ⟨[], (u, servers), turns, rfl, hcloses⟩
    · exact ⟨(u, servers) :: done, turn, rest, rfl, hcloses⟩

/-- **A result is closed exactly when it was before or one of the uses closed it**, by
induction on the uses. -/
theorem closedBy_iff (turns : List Turn) (r : Result) :
    (r.useAll turns).2.isOpen = false ↔ r.isOpen = false ∨ r.ClosedBy turns := by
  induction turns generalizing r with
  | nil =>
      refine ⟨.inl, fun h => h.resolve_right ?_⟩
      rintro ⟨done, turn, rest, hturns, -⟩
      exact absurd hturns (List.append_ne_nil_of_right_ne_nil _ (List.cons_ne_nil _ _)).symm
  | cons turn turns ih =>
      obtain ⟨u, servers⟩ := turn
      rw [useAll_cons, ih, u.reading_closed, closedBy_cons, or_assoc]

/-- Nothing is read before the first reading, and nothing is kept. -/
theorem useAll_unread {turns : List Turn} (r : Result) (h : ∀ turn ∈ turns, turn.1 ≠ .next) :
    (r.useAll turns).1 = [] ∧ (r.useAll turns).2.kept = r.kept := by
  induction turns generalizing r with
  | nil => exact ⟨rfl, rfl⟩
  | cons turn turns ih =>
      obtain ⟨u, servers⟩ := turn
      obtain ⟨hfirst, hturns⟩ := List.forall_mem_cons.1 h
      have hnone : (u.reading r servers).1.1 = none := by
        cases u with
        | next => exact absurd rfl hfirst
        | _ => rfl
      obtain ⟨hreadings, hkept⟩ := ih (u.reading r servers).1.2 hturns
      rw [useAll_cons, hreadings, hkept, (u.reading_kept r servers).2, hnone]
      refine ⟨rfl, ?_⟩
      cases r.keeping <;> exact List.append_nil _

/-- **Every record that is read is kept, or none is**, as long as the result is not told to do
otherwise. -/
theorem useAll_kept {turns : List Turn} (r : Result)
    (h : ∀ turn ∈ turns, turn.1 ≠ .keep !r.keeping) :
    (r.useAll turns).2.kept
      = r.kept ++ if r.keeping then recordsOf (r.useAll turns).1 else [] := by
  induction turns generalizing r with
  | nil => cases r.keeping <;> exact (List.append_nil _).symm
  | cons turn turns ih =>
      obtain ⟨u, servers⟩ := turn
      obtain ⟨hfirst, hturns⟩ := List.forall_mem_cons.1 h
      obtain ⟨hafter, hkept⟩ := u.reading_kept r servers
      have hstill : u.keepingAfter r.keeping = r.keeping := by
        cases u with
        | keep keeping =>
            exact Bool.not_not_eq.1 fun hother => hfirst (by rw [← hother, Bool.not_not]; rfl)
        | _ => rfl
      rw [hstill] at hafter
      rw [useAll_cons, ih _ (hafter.symm ▸ hturns), hkept, hafter, List.append_assoc]
      cases r.keeping with
      | true => rw [if_pos rfl, if_pos rfl, if_pos rfl, recordsOf_append]
      | false => rfl

/-- Uses in a row, and then others. -/
theorem useAll_append (turns later : List Turn) (r : Result) :
    r.useAll (turns ++ later)
      = ((r.useAll turns).1 ++ ((r.useAll turns).2.useAll later).1,
        ((r.useAll turns).2.useAll later).2) := by
  induction turns generalizing r with
  | nil => rfl
  | cons turn turns ih =>
      obtain ⟨u, servers⟩ := turn
      rw [List.cons_append, useAll_cons, ih, useAll_cons, List.append_assoc]

/-! ## §3. Replaying. -/

theorem replay_of_open {r : Result} (h : r.isOpen = true) : r.replay = .error .resultStillOpen := by
  unfold replay
  rw [if_pos h]

theorem replay_of_none_kept {r : Result} (hclosed : r.isOpen = false) (h : r.kept = []) :
    r.replay = .error .resultNotCached := by
  unfold replay
  rw [if_neg (Bool.eq_false_iff.1 hclosed), h]
  rfl

/-- A closed result replays what it kept, if that is anything. -/
theorem replay_of_some_kept {r : Result} (hclosed : r.isOpen = false) (h : r.kept ≠ []) :
    r.replay = .ok r.kept := by
  unfold replay
  rw [if_neg (Bool.eq_false_iff.1 hclosed), if_neg (by simpa using h)]

/-- **Told to keep its records** before the first reading, and not to stop to after that. -/
def KeptFromTheStart (turns : List Turn) : Prop :=
  ∃ before servers after, turns = before ++ (.keep true, servers) :: after
    ∧ (∀ turn ∈ before, turn.1 ≠ .next) ∧ ∀ turn ∈ after, turn.1 ≠ .keep false

/-- **The kept records are the records that were read**, when they were kept from the start. -/
theorem KeptFromTheStart.kept {turns : List Turn} (h : KeptFromTheStart turns) (model : Model)
    (source : Handle) (cursor : Cursor) (naive : Bool) (fields : List Field) :
    ((new model source cursor naive fields).useAll turns).2.kept
      = recordsOf ((new model source cursor naive fields).useAll turns).1 := by
  obtain ⟨before, servers, after, rfl, hbefore, hafter⟩ := h
  obtain ⟨hunread, hkept⟩ := (new model source cursor naive fields).useAll_unread hbefore
  rw [useAll_append, hunread]
  generalize ((new model source cursor naive fields).useAll before).2 = r at hkept ⊢
  have hafterwards := useAll_kept (r.keep true) hafter
  rw [show (r.keep true).kept = [] from hkept] at hafterwards
  exact hafterwards

/-- **A result replays what was read, if anything was.**  A result is used in any order, on
databases that may change between two uses.  As long as no use closed the cursor, replaying
fails.  Once one did, and if the records were kept from the start, the result replays the
records that reading on yielded, in order, exactly when it yielded one; otherwise replaying
fails as if no records were to be kept.  A result that was never told to keep its records
cannot be replayed. -/
theorem replay_iff_something_read (model : Model) (source : Handle) (cursor : Cursor)
    (naive : Bool) (fields : List Field) (turns : List Turn) {readings : List Reading}
    {r : Result} (hrun : (new model source cursor naive fields).useAll turns = (readings, r)) :
    (¬ (new model source cursor naive fields).ClosedBy turns →
        r.replay = .error .resultStillOpen)
      ∧ ((new model source cursor naive fields).ClosedBy turns → KeptFromTheStart turns →
        (r.replay = .ok (recordsOf readings) ↔ recordsOf readings ≠ [])
          ∧ (recordsOf readings = [] → r.replay = .error .resultNotCached))
      ∧ ((∀ turn ∈ turns, turn.1 ≠ .keep true) →
        ∃ failure, r.replay = .error failure ∧ failure.kind = .resultUnavailable) := by
  have hclosed := closedBy_iff turns (new model source cursor naive fields)
  have hopened : (new model source cursor naive fields).isOpen ≠ false := Bool.noConfusion
  rw [hrun, or_iff_right hopened] at hclosed
  have hopen : ¬ (new model source cursor naive fields).ClosedBy turns → r.isOpen = true :=
    fun h => Bool.eq_true_of_not_eq_false (mt hclosed.1 h)
  refine ⟨fun h => replay_of_open (hopen h), fun hcloses hkeep => ?_, fun hnever => ?_⟩
  · have hkept := hkeep.kept model source cursor naive fields
    rw [hrun] at hkept
    have hempty : recordsOf readings = [] → r.replay = .error .resultNotCached :=
      fun h => replay_of_none_kept (hclosed.2 hcloses) (hkept.trans h)
    refine ⟨⟨fun hreplay hnone => ?_, fun hsome => ?_⟩, hempty⟩
    · rw [hempty hnone] at hreplay
      cases hreplay
    · rw [← hkept] at hsome ⊢
      exact replay_of_some_kept (hclosed.2 hcloses) hsome
  · have hkept := useAll_kept (new model source cursor naive fields) hnever
    rw [hrun] at hkept
    by_cases hcloses : (new model source cursor naive fields).ClosedBy turns
    · exact ⟨_, replay_of_none_kept (hclosed.2 hcloses) hkept, rfl⟩
    · exact ⟨_, replay_of_open (hopen hcloses), rfl⟩

end Result

/-! ### Authors that are read twice, and authors that there are none of. -/

/-- A result that reads these rows of authors. -/
def authorsIn (rows : List (List Value)) : Result :=
  .new Sample.author ⟨0⟩ ⟨0, ["id", "name"], rows, none, 0⟩ true []

/-- Read three times, with the records kept. -/
def readThrice : List Turn :=
  [(.keep true, oneAuthor), (.next, oneAuthor), (.next, oneAuthor), (.next, oneAuthor)]

theorem readThrice_keeps : Result.KeptFromTheStart readThrice :=
  ⟨[], oneAuthor, readThrice.tail, rfl, fun _ h => absurd h List.not_mem_nil, by decide⟩

open Sample in
/-- Of two rows, the first does not convert; the third reading finds no row.  The author of
the second row is replayed. -/
theorem readable_author_replayed :
    (((authorsIn [[text "?", text "Ann"], [int 1, text "Ursula"]]).useAll
      readThrice).2.replay.toOption.map fun read => read.map (·.get? "name"))
        = some [some (text "Ursula")] := by
  have hcloses : (authorsIn [[text "?", text "Ann"], [int 1, text "Ursula"]]).ClosedBy
      readThrice := ⟨readThrice.take 3, (.next, oneAuthor), [], rfl, rfl⟩
  obtain ⟨-, hreplay, -⟩ := Result.replay_iff_something_read author ⟨0⟩
    ⟨0, ["id", "name"], [[text "?", text "Ann"], [int 1, text "Ursula"]], none, 0⟩ true []
    readThrice rfl
  have hread : ((recordsOf ((authorsIn [[text "?", text "Ann"], [int 1, text "Ursula"]]).useAll
      readThrice).1).map (·.get? "name")) = [some (text "Ursula")] := by
    decide +kernel
  have hsome : recordsOf ((authorsIn [[text "?", text "Ann"], [int 1, text "Ursula"]]).useAll
      readThrice).1 ≠ [] := by
    intro hnone
    rw [hnone] at hread
    exact absurd hread (List.cons_ne_nil _ _).symm
  have hsame := (hreplay hcloses readThrice_keeps).1.2 hsome
  exact (congrArg (fun out => out.toOption.map fun read => read.map (·.get? "name")) hsame).trans
    (congrArg some hread)

/-- **Not every result that keeps its records can be replayed**: there may be no row. -/
theorem not_every_result_replayed :
    ¬ ∀ (model : Model) (source : Handle) (cursor : Cursor) (naive : Bool) (fields : List Field)
        (turns : List Turn) (readings : List Reading) (r : Result),
        (Result.new model source cursor naive fields).useAll turns = (readings, r) →
        (Result.new model source cursor naive fields).ClosedBy turns →
        Result.KeptFromTheStart turns → r.replay = .ok (recordsOf readings) := by
  intro hall
  have hcloses : (authorsIn []).ClosedBy readThrice :=
    ⟨readThrice.take 1, (.next, oneAuthor), readThrice.drop 2, rfl, rfl⟩
  have hreplay : ((authorsIn []).useAll readThrice).2.replay = .ok _ :=
    hall Sample.author ⟨0⟩ ⟨0, ["id", "name"], [], none, 0⟩ true [] readThrice _ _ rfl hcloses
      readThrice_keeps
  have hfails : ((authorsIn []).useAll readThrice).2.replay.toOption.isSome = false := by
    decide +kernel
  rw [hreplay] at hfails
  cases hfails

end RecordMapper
