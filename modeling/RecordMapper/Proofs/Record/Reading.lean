/-
  RecordMapper.Proofs.Record.Reading
  ────────────────────────────────
  **READING CLOSES WHAT IT OPENS.**

  A result reads from a cursor until the rows are exhausted, a row cannot be fetched, its
  scope ends, or it is closed or let go; a lookup opens a cursor of its own.  A program
  executes selects, uses their results in any order and lets them go, and looks things up
  between.  Every call of a backend may fail, and so may the conversion of every row.

  The invariant of such a program is one equation: the cursors that are in use on the
  databases are those that its results read from, each from one of its own.  What an
  operation does is said beside the cursors of the other results, which it leaves alone.

  Main result: `read_cursors_closed_once`.
-/
import Mathlib.Data.List.Perm.Basic
import RecordMapper.Proofs.Backend.Cursors
import RecordMapper.Proofs.Sample
import RecordMapper.Record.Store

namespace RecordMapper

variable {α β : Type}

/-! ## §1. The cursors in use on all databases. -/

/-- The numbers of cursors on one database. -/
def serialsAt (keys : List (Handle × Nat)) (handle : Handle) : Set Nat :=
  { n | (handle, n) ∈ keys }

theorem serialsAt_cons_self {keys : List (Handle × Nat)} {handle : Handle} {n : Nat} :
    serialsAt ((handle, n) :: keys) handle = insert n (serialsAt keys handle) := by
  ext m
  simp [serialsAt]

theorem serialsAt_cons_other {keys : List (Handle × Nat)} {handle other : Handle} {n : Nat}
    (h : other ≠ handle) : serialsAt ((handle, n) :: keys) other = serialsAt keys other := by
  ext m
  simp [serialsAt, h]

/-- **These cursors are in use**, of those that were opened since the databases were as
`start`.  A cursor is known by its database and its number. -/
def Servers.Using (start : Servers) (keys : List (Handle × Nat)) (s : Servers) : Prop :=
  keys.Nodup ∧ ∀ handle, (start.backend handle).Using (serialsAt keys handle) (s.backend handle)

variable {start : Servers} {keys others : List (Handle × Nat)}

namespace Servers

/-- Nothing was done yet. -/
theorem using_self (start : Servers) : start.Using [] start := by
  refine ⟨List.nodup_nil, fun handle => ?_⟩
  have hnone : serialsAt [] handle = ∅ := by
    ext n
    simp [serialsAt]
  rw [hnone]
  exact Backend.using_self _

/-- The order in which the cursors are listed does not matter. -/
theorem Using.perm {keys' : List (Handle × Nat)} {s : Servers} (h : start.Using keys s)
    (hperm : keys.Perm keys') : start.Using keys' s := by
  refine ⟨hperm.nodup_iff.1 h.1, fun handle => ?_⟩
  have hsame : serialsAt keys' handle = serialsAt keys handle := by
    ext n
    exact hperm.mem_iff.symm
  rw [hsame]
  exact h.2 handle

end Servers

namespace Action

/-- **A step on the backend behind a handle**: what it makes of the cursors there is what the
action makes of all of them, if those of other databases are listed as before. -/
theorem on_using {handle : Handle} {step : Step α}
    {keys' : Except Failure α → List (Handle × Nat)}
    (hstep : keys.Nodup →
      Leads ((start.backend handle).Using (serialsAt keys handle)) step.run fun out b =>
        (keys' out).Nodup ∧ (start.backend handle).Using (serialsAt (keys' out) handle) b)
    (hothers : ∀ out other, other ≠ handle →
      serialsAt (keys' out) other = serialsAt keys other) :
    Leads (start.Using keys) (on handle step).run fun out => start.Using (keys' out) := by
  rintro s ⟨hnodup, hs⟩
  obtain ⟨hnodup', hthere⟩ := hstep hnodup _ (hs handle)
  refine ⟨hnodup', fun other => ?_⟩
  show (start.backend other).Using _ (if other = handle then _ else _)
  by_cases hsame : other = handle
  · rw [if_pos hsame, hsame]
    exact hthere
  · rw [if_neg hsame, hothers _ _ hsame]
    exact hs other

/-- **An action settles its cursors**: whatever comes of it, the cursors that are in use
afterwards are those that were in use before. -/
def Settles (action : Action α) : Prop :=
  ∀ (start : Servers) (keys : List (Handle × Nat)),
    Leads (start.Using keys) action.run fun _ => start.Using keys

namespace Settles

theorem bind {x : Action α} {f : α → Action β} (hx : x.Settles) (hf : ∀ a, (f a).Settles) :
    (x >>= f).Settles :=
  fun start keys => (hx start keys).kept fun a => hf a start keys

theorem ofExcept (x : Except Failure α) : (ofExcept x).Settles :=
  fun _ _ _ h => h

theorem databaseOf (model : Model) : (databaseOf model).Settles :=
  .ofExcept _

theorem dialect (handle : Handle) : (dialect handle).Settles :=
  fun _ _ _ h => h

/-- An action whose result is left out. -/
theorem discarded {x : Action α} (hx : x.Settles) :
    (do let _ ← x; return () : Action Unit).Settles :=
  hx.bind fun _ => .ofExcept (.ok ())

end Settles

end Action

/-! ## §2. Results. -/

namespace Result

/-- **The cursor that a result reads from**, until it is closed. -/
def readsFrom (r : Result) : List (Handle × Nat) :=
  match r.cursor with
  | none => []
  | some cursor => [(r.source, cursor.serial)]

theorem readsFrom_remember (r : Result) (reading : Reading) :
    (r.remember reading).readsFrom = r.readsFrom := by
  unfold remember
  cases reading with
  | error failure => rfl
  | ok record =>
      show (if r.keeping then _ else r).readsFrom = _
      split <;> rfl

/-- **Closing a result** closes the cursor that it reads from, if there is one. -/
theorem close_using (r : Result) : Leads (start.Using (r.readsFrom ++ others)) r.close
    fun r' s => r'.readsFrom = [] ∧ start.Using others s := by
  unfold close readsFrom
  cases hcursor : r.cursor with
  | none =>
      intro s h
      refine ⟨?_, h⟩
      show (match r.cursor with | none => _ | some _ => _) = _
      rw [hcursor]
  | some cursor =>
      have hclose : Leads (start.Using ((r.source, cursor.serial) :: others))
          (Action.on r.source cursor.close).run fun _ => start.Using others := by
        refine Action.on_using (fun hnodup => ?_)
          fun _ _ hother => (serialsAt_cons_other hother).symm
        obtain ⟨hnot, hothers⟩ := List.nodup_cons.1 hnodup
        rw [serialsAt_cons_self]
        exact (Cursor.close_using hnot).mono fun _ _ h => ⟨hothers, h⟩
      exact hclose.bind fun _ s h => ⟨rfl, h⟩

/-- A result that is closed reads from no cursor. -/
theorem close_kept (r : Result) : Leads (start.Using (r.readsFrom ++ others)) r.close
    fun r' s => start.Using (r'.readsFrom ++ others) s := by
  refine r.close_using.mono fun r' s h => ?_
  rw [h.1]
  exact h.2

/-- The cursor of a result once a row was fetched from it, or could not be. -/
def fetchedFrom (r : Result) (out : Except Failure (Option (List Value) × Cursor)) : Result :=
  match out with
  | .ok (_, rest) => { r with cursor := some rest }
  | .error _ => r

/-- The cursor behind a row that was fetched is the one before it. -/
theorem fetch_using {r : Result} {cursor : Cursor} (hcursor : r.cursor = some cursor) :
    Leads (start.Using (r.readsFrom ++ others)) (Action.on r.source cursor.fetch).run
      fun out => start.Using ((r.fetchedFrom out).readsFrom ++ others) := by
  have hreads : r.readsFrom = [(r.source, cursor.serial)] := by
    unfold readsFrom
    rw [hcursor]
  have hlive : cursor.serial ∈ serialsAt (r.readsFrom ++ others) r.source := by
    rw [hreads]
    exact List.mem_cons_self
  refine Action.on_using (fun hnodup => ?_) fun out other hother => ?_
  · refine (Cursor.fetch_using hlive).mono fun out b h => ?_
    rcases out with failure | ⟨row, rest⟩
    · exact ⟨hnodup, h.1⟩
    · have hsame : (r.fetchedFrom (.ok (row, rest))).readsFrom = r.readsFrom := by
        rw [hreads]
        show [(r.source, rest.serial)] = _
        rw [h.2 row rest rfl]
      rw [hsame]
      exact ⟨hnodup, h.1⟩
  · rcases out with failure | ⟨row, rest⟩
    · rfl
    · rw [hreads]
      exact (serialsAt_cons_other hother).trans (serialsAt_cons_other hother).symm

/-- **Reading on** leaves the result with the cursor that it reads from, or closes it. -/
theorem next_using (r : Result) : Leads (start.Using (r.readsFrom ++ others)) r.next
    fun out s => start.Using (out.2.readsFrom ++ others) s := by
  unfold next
  cases hcursor : r.cursor with
  | none => exact fun _ h => h
  | some cursor =>
      refine (fetch_using hcursor).bind fun out => ?_
      rcases out with failure | ⟨_ | row, rest⟩
      · exact r.close_kept.bind fun r' _ h => h
      · show Leads _ (if r.inScope = true then _ else _) _
        by_cases hscope : r.inScope = true
        · rw [if_pos hscope]
          exact fun _ h => h
        · rw [if_neg hscope]
          exact (close_kept _).bind fun r' _ h => h
      · intro s h
        show start.Using (({ r with cursor := some rest }.remember _).readsFrom ++ others) s
        rw [readsFrom_remember]
        exact h

/-- **Reading to the end** and letting the result go, whatever stops it. -/
theorem drain_using : ∀ (fuel : Nat) (r : Result) (read : List Record),
    Leads (start.Using (r.readsFrom ++ others)) (r.drain read fuel) fun _ => start.Using others
  | 0, r, read => (r.close_using.mono fun _ _ h => h.2).bind fun _ => Leads.done _
  | fuel + 1, r, read => by
      unfold drain
      refine r.next_using.bind fun (reading, r') => ?_
      have hclose : ∀ out : Except Failure (List Record),
          Leads (start.Using (r'.readsFrom ++ others)) (do let _ ← r'.close; return out)
            fun _ => start.Using others :=
        fun out => (r'.close_using.mono fun _ _ h => h.2).bind fun _ => Leads.done _
      rcases reading with _ | failure | record
      · exact hclose _
      · exact hclose _
      · exact drain_using fuel r' _

end Result

/-! ## §3. Selects and lookups. -/

/-- The cursors in use when one more was asked for on a database. -/
def withCursor (handle : Handle) (keys : List (Handle × Nat)) :
    Except Failure Cursor → List (Handle × Nat)
  | .ok cursor => (handle, cursor.serial) :: keys
  | .error _ => keys

/-- The cursors in use when one more result was asked for. -/
def withResult (keys : List (Handle × Nat)) : Except Failure Result → List (Handle × Nat)
  | .ok r => r.readsFrom ++ keys
  | .error _ => keys

/-- **A statement that reads** puts one cursor to use, or none. -/
theorem Action.executeRead_using (handle : Handle) (statement : String)
    (parameters : List Value) :
    Leads (start.Using keys) (on handle (Database.executeRead statement parameters)).run
      fun out => start.Using (withCursor handle keys out) := by
  refine on_using (fun hnodup => ?_) fun out other hother => ?_
  · refine (Database.executeRead_using statement parameters).mono fun out b h => ?_
    cases out with
    | error failure => exact ⟨hnodup, h⟩
    | ok cursor =>
        refine ⟨List.nodup_cons.2 ⟨h.1, hnodup⟩, ?_⟩
        show (start.backend handle).Using (serialsAt ((handle, cursor.serial) :: keys) handle) b
        rw [serialsAt_cons_self]
        exact h.2
  · cases out with
    | error failure => rfl
    | ok cursor => exact serialsAt_cons_other hother

namespace Select

/-- **Running a select** makes a result that reads from a cursor of its own, or fails and
leaves none in use. -/
theorem execute_using (q : Select) : Leads (start.Using keys) q.execute.run
    fun out => start.Using (withResult keys out) := by
  unfold execute
  refine Leads.andThen (Action.Settles.databaseOf q.model start keys) (fun _ _ h => h)
    fun handle => ?_
  refine Leads.andThen (Action.Settles.dialect handle start keys) (fun _ _ h => h) fun d => ?_
  refine Leads.andThen (Action.Settles.ofExcept _ start keys) (fun _ _ h => h) fun statement => ?_
  exact (Action.executeRead_using handle _ _).andThen (fun _ _ h => h) fun cursor _ h => h

/-- **Counting** closes its cursor, whether or not the number could be fetched. -/
theorem count_settles (q : Select) : q.count.Settles := by
  unfold count
  refine .bind (.databaseOf _) fun handle => .bind (.dialect _) fun d =>
    .bind (.ofExcept _) fun statement => .bind (fun start keys => ?_) fun row => .ofExcept _
  refine Action.on_using (fun hnodup => ?_) fun _ _ _ => rfl
  refine Leads.mono (Q := fun _ => (start.backend handle).Using (serialsAt keys handle)) ?_
    fun _ _ h => ⟨hnodup, h⟩
  refine (Database.executeRead_using _ _).andThen (fun _ _ h => h) fun cursor =>
    Leads.assuming fun hnot => ?_
  -- Whether the number could be fetched is told behind the closing of the cursor.
  refine Leads.andThen (Q := fun out b => match out with
    | .ok _ => (start.backend handle).Using (insert cursor.serial (serialsAt keys handle)) b
    | .error _ => False) ?_ (fun _ _ hfalse => hfalse.elim) fun fetched => ?_
  · exact fun b h => (Cursor.fetch_using (Set.mem_insert _ _) b h).1
  · exact (Cursor.close_using hnot).andThen (fun _ _ h => h) fun _ _ h => h

/-- **Reading the first record** lets the result go, whether or not there is a record. -/
theorem one_settles (q : Select) : q.one.Settles := by
  intro start keys
  refine q.execute_using.andThen (fun _ _ h => h) fun r => ?_
  refine r.next_using.bind fun (_, r') => ?_
  exact r'.close_using.bind fun _ _ h => h.2

end Select

/-- A record that meets filters. -/
theorem Model.get_settles (m : Model) (filters : List (String × Operand)) :
    (m.get filters).Settles :=
  .bind (.ofExcept _) fun q => q.one_settles

namespace Record

/-- Reading fields again. -/
theorem refresh_settles (r : Record) (names : List String) : (r.refresh names).Settles := by
  unfold refresh
  cases r.key? with
  | none => exact .ofExcept (.error _)
  | some key =>
      refine .bind (.ofExcept _) fun names => .bind (Select.one_settles _) fun fresh => ?_
      exact .ofExcept (.ok _)

/-- **Fetching a related record.**  A failure is told or passed over behind the lookup. -/
theorem fetchRelated_settles (r : Record) (name : String) : (r.fetchRelated name).Settles := by
  unfold fetchRelated
  cases relation? r.model name with
  | none => exact .ofExcept (.error _)
  | some relation =>
      obtain ⟨field, key, related⟩ := relation
      dsimp only
      split
      · exact .ofExcept (.ok _)
      · split
        · exact .ofExcept (.ok _)
        · refine fun start keys => (Select.one_settles _ start keys).bind fun out => ?_
          cases out with
          | ok other => exact fun _ h => h
          | error failure =>
              show Leads _ (if field.nullable && failure.kind == .noData then _ else _) _
              split <;> exact fun _ h => h

end Record

/-! ## §4. Programs that read. -/

/-- **A lookup**: a call that reads with a cursor of its own. -/
inductive Lookup where
  | count (q : Select)
  | any (q : Select)
  | one (q : Select)
  | first (q : Select)
  | get (m : Model) (filters : List (String × Operand))
  | refresh (r : Record) (names : List String)
  | fetchRelated (r : Record) (name : String)

namespace Lookup

/-- What the call does; its result is left out. -/
def action : Lookup → Action Unit
  | .count q => do
    let _ ← q.count
    return ()
  | .any q => do
    let _ ← q.exists?
    return ()
  | .one q => do
    let _ ← q.one
    return ()
  | .first q => do
    let _ ← q.first
    return ()
  | .get m filters => do
    let _ ← m.get filters
    return ()
  | .refresh r names => do
    let _ ← r.refresh names
    return ()
  | .fetchRelated r name => do
    let _ ← r.fetchRelated name
    return ()

/-- **A lookup closes what it opens.** -/
theorem settles : ∀ l : Lookup, l.action.Settles
  | .count q => q.count_settles.discarded
  | .any q => .discarded (q.count_settles.bind fun _ => .ofExcept (.ok _))
  | .one q => q.one_settles.discarded
  | .first q => (q.setLimit 1).one_settles.discarded
  | .get m filters => (m.get_settles filters).discarded
  | .refresh r names => (r.refresh_settles names).discarded
  | .fetchRelated r name => (r.fetchRelated_settles name).discarded

end Lookup

/-- **What is done with a result** that is kept. -/
inductive Use where
  | next
  | keep (keeping : Bool)
  /-- The records that were kept are looked at. -/
  | replay
  | close
  | enter
  | leave
  deriving DecidableEq, Repr

namespace Use

/-- The result afterwards; what it yields is left out. -/
def on (r : Result) : Use → StateM Servers Result
  | .next => do return (← r.next).2
  | .keep keeping => return r.keep keeping
  | .replay => do
    let _ := r.replay
    return r
  | .close => r.close
  | .enter => return r.enter
  | .leave => r.leave

/-- **Whatever is done with a result**, it reads from the cursor that it read from, or from
none. -/
theorem on_using (r : Result) : ∀ u : Use, Leads (start.Using (r.readsFrom ++ others)) (u.on r)
    fun r' s => start.Using (r'.readsFrom ++ others) s
  | .next => r.next_using.bind fun _ _ h => h
  | .keep _ => fun _ h => h
  | .replay => fun _ h => h
  | .close => r.close_kept
  | .enter => fun _ h => h
  | .leave => r.close_kept.bind fun _ _ h => h

end Use

/-- **How a result is let go**: it is dropped, or its records are collected. -/
inductive Farewell where
  | drop
  | collect
  deriving DecidableEq, Repr

namespace Farewell

def of (r : Result) : Farewell → StateM Servers Unit
  | .drop => do
    let _ ← r.close
    return ()
  | .collect => do
    let _ ← r.collect.outcome
    return ()

/-- **A result that is let go** leaves no cursor in use. -/
theorem of_using (r : Result) : ∀ f : Farewell,
    Leads (start.Using (r.readsFrom ++ others)) (f.of r) fun _ s => start.Using others s
  | .drop => r.close_using.bind fun _ _ h => h.2
  | .collect => (Result.drain_using _ r []).bind fun _ _ h => h

end Farewell

/-- **An operation of a program that reads.**  Results are named by their position among
those that were not let go. -/
inductive Operation where
  | execute (q : Select)
  | use (i : Nat) (u : Use)
  | letGo (i : Nat) (f : Farewell)
  | lookUp (l : Lookup)

/-- **A program at work**: the databases, and the results that were not let go. -/
structure Work where
  servers : Servers
  results : List Result

namespace Work

/-- Nothing was executed yet. -/
def begun (servers : Servers) : Work := ⟨servers, []⟩

/-- The cursors that the results read from. -/
def readsFrom (w : Work) : List (Handle × Nat) :=
  w.results.flatMap Result.readsFrom

/-- Take one operation; what is said of a result that there is not has no effect. -/
def perform (w : Work) : Operation → Work
  | .execute q =>
    match q.execute.run w.servers with
    | (.ok r, servers) => ⟨servers, w.results ++ [r]⟩
    | (.error _, servers) => ⟨servers, w.results⟩
  | .use i u =>
    match w.results[i]? with
    | none => w
    | some r =>
      let (r, servers) := u.on r w.servers
      ⟨servers, w.results.set i r⟩
  | .letGo i f =>
    match w.results[i]? with
    | none => w
    | some r => ⟨(f.of r w.servers).2, w.results.eraseIdx i⟩
  | .lookUp l => ⟨(l.action.run w.servers).2, w.results⟩

/-- Take one operation after the other, each whether or not those before it failed. -/
def performAll (w : Work) (ops : List Operation) : Work :=
  ops.foldl perform w

/-- **The cursors in use are those that the results read from**, each from one of its own. -/
def Settled (start : Servers) (w : Work) : Prop :=
  start.Using w.readsFrom w.servers

/-- A result beside the others. -/
theorem readsFrom_perm {w : Work} {i : Nat} {r : Result} (h : w.results[i]? = some r) :
    w.readsFrom.Perm (r.readsFrom ++ (w.results.eraseIdx i).flatMap Result.readsFrom) := by
  obtain ⟨hi, rfl⟩ := List.getElem?_eq_some_iff.1 h
  exact ((List.getElem_cons_eraseIdx_perm hi).flatMap fun _ _ => .refl _).symm

/-- **One operation** keeps the invariant. -/
theorem Settled.perform {w : Work} (h : w.Settled start) (op : Operation) :
    (w.perform op).Settled start := by
  cases op with
  | execute q =>
      have hq := q.execute_using w.servers h
      show Settled start (match q.execute.run w.servers with | (.ok r, _) => _ | (.error _, _) => _)
      replace hq : start.Using (withResult w.readsFrom (q.execute.run w.servers).1)
        (q.execute.run w.servers).2 := hq
      generalize q.execute.run w.servers = reached at hq ⊢
      obtain ⟨failure | r, servers⟩ := reached
      · exact hq
      · have hadded : (Work.mk servers (w.results ++ [r])).readsFrom
            = w.readsFrom ++ r.readsFrom := by
          simp [readsFrom]
        unfold Settled
        rw [hadded]
        exact hq.perm List.perm_append_comm
  | use i u =>
      show Settled start (match w.results[i]? with | none => _ | some r => _)
      cases hr : w.results[i]? with
      | none => exact h
      | some r =>
          have hi : i < w.results.length := (List.getElem?_eq_some_iff.1 hr).1
          refine (u.on_using r _ (Servers.Using.perm h (readsFrom_perm hr))).perm ?_
          exact ((List.set_perm_cons_eraseIdx hi _).flatMap fun _ _ => .refl _).symm
  | letGo i f =>
      show Settled start (match w.results[i]? with | none => _ | some r => _)
      cases hr : w.results[i]? with
      | none => exact h
      | some r => exact f.of_using r _ (Servers.Using.perm h (readsFrom_perm hr))
  | lookUp l => exact l.settles _ _ _ h

/-- **Every operation in a row** keeps the invariant, by induction on the operations. -/
theorem Settled.performAll {w : Work} (h : w.Settled start) (ops : List Operation) :
    (w.performAll ops).Settled start := by
  induction ops generalizing w with
  | nil => exact h
  | cons op ops ih => exact ih (h.perform op)

end Work

/-- **Every read cursor is closed exactly once, and not called after that.**  A program
executes selects, uses the results and lets them go, and looks things up between, in any
order and whatever fails.  Every cursor that was opened on a database was closed exactly
once, unless a result that was not let go still reads from it; it was then not closed at
all, and no other result reads from it. -/
theorem read_cursors_closed_once (start : Servers) (ops : List Operation) :
    (((Work.begun start).performAll ops).readsFrom).Nodup
      ∧ ∀ handle, ∃ calls,
        (((Work.begun start).performAll ops).servers.backend handle).trace
            = (start.backend handle).trace ++ calls
          ∧ ∀ serial intent, ⟨.cursor serial intent, none⟩ ∈ calls →
            closings serial calls = (if (handle, serial)
                ∈ ((Work.begun start).performAll ops).readsFrom then 0 else 1)
              ∧ QuietAfterClose serial calls := by
  obtain ⟨hnodup, hcursors⟩ :=
    Work.Settled.performAll (w := Work.begun start) start.using_self ops
  refine ⟨hnodup, fun handle => ?_⟩
  obtain ⟨calls, htrace, hcalls⟩ := hcursors handle
  refine ⟨calls, htrace, fun serial intent hopened => ?_⟩
  have hstage := hcalls.ne_misused serial
  refine ⟨?_, Stage.quietAfterClose hstage⟩
  rw [Stage.closings_eq hstage]
  by_cases hread : (handle, serial) ∈ ((Work.begun start).performAll ops).readsFrom
  · rw [if_pos hread, hcalls.inUse serial hread]
    rfl
  · rw [if_neg hread]
    have hclosed := (hcalls.others serial hread).resolve_left (Stage.of_ne_unopened hopened)
    rw [if_pos hclosed]

/-! ### A result that outlives a count. -/

/-- A database with one author.  It cannot close the first cursor that it is told to. -/
def oneAuthor : Servers where
  backend _ := { Backend.new .generic with
    results := [.ok ⟨["id", "name"], [[.int64 (some 1), .varchar (some "Ursula")]]⟩]
    faults := fun m => if m = .closeCursor then [some "gone"] else [] }

/-- The authors are read while they are counted. -/
def countWhileReading : List Operation :=
  let authors := Select.ofModel { Sample.author with database := some ⟨0⟩ }
  [.execute authors, .use 0 .next, .lookUp (.count authors), .letGo 0 .collect]

-- Cursor 1 counts, and is the one that cannot be closed; cursor 0 is closed behind it.
example :
    ((((Work.begun oneAuthor).performAll countWhileReading).servers.backend ⟨0⟩).trace.filterMap
      fun a => a.call.serial?) = [0, 0, 0, 1, 1, 1, 1, 0, 0] := by
  decide

end RecordMapper
