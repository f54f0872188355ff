/-
  RecordMapper.Proofs.Record.Created
  ────────────────────────────────
  **A RECORD IS CREATED AS IT WAS LOOKED FOR.**

  A record that filters look for in vain is made from them and inserted.  The lookup stores
  the values of its filters; the record holds their application forms, which are stored when
  it is inserted.  What the select compared a column with is what the insert binds for it.

  Main result: `created_as_sought`.  The key of a model whose keys the database generates is
  the one field for which nothing is inserted, whatever was looked for.
-/
import RecordMapper.Proofs.Record.Given
import RecordMapper.Proofs.Record.Saved

namespace RecordMapper

/-! ## §1. How a record is created. -/

theorem Failure.kind_eq_noData {failure : Failure} : failure.kind = .noData ↔ failure = .noData := by
  cases failure with
  | noData => exact iff_of_true rfl rfl
  | _ => exact iff_of_false nofun nofun

namespace Model

variable {m : Model} {filters defaults : List (String × Value)} {servers servers' : Servers}

section

variable {between : Servers} {failure : Failure}

/-- The outcome of the lookup is looked at, also when it failed. -/
theorem lookup_outcome {looked : Except Failure Record}
    (h : (m.get (byValue filters)).run servers = (looked, between)) :
    (ExceptT.mk (Except.ok <$> (m.get (byValue filters)).outcome) :
      Action (Except Failure Record)).run servers = (.ok looked, between) := by
  show (Except.ok ((m.get (byValue filters)).run servers).1,
    ((m.get (byValue filters)).run servers).2) = _
  rw [h]

/-- **A record that is found** is not created. -/
theorem getOrCreate_found {r : Record}
    (h : (m.get (byValue filters)).run servers = (.ok r, between)) :
    (m.getOrCreate filters defaults).run servers = (.ok (r, false), between) := by
  show (ExceptT.mk (Except.ok <$> (m.get (byValue filters)).outcome) >>= _).run servers = _
  rw [run_bind, lookup_outcome h]
  rfl

/-- **A lookup that is told to have no data** is followed by a creation. -/
theorem getOrCreate_missed
    (h : (m.get (byValue filters)).run servers = (.error .noData, between)) :
    (m.getOrCreate filters defaults).run servers
      = (((m.create (m.valuesFor filters defaults)).run between).1.map (·, true),
        ((m.create (m.valuesFor filters defaults)).run between).2) := by
  show (ExceptT.mk (Except.ok <$> (m.get (byValue filters)).outcome) >>= _).run servers = _
  rw [run_bind, lookup_outcome h]
  show (m.create (m.valuesFor filters defaults) >>= fun r => pure (r, true)).run between = _
  rw [run_bind]
  rcases (m.create (m.valuesFor filters defaults)).run between with ⟨failure | r, after⟩ <;> rfl

/-- Any other failure is told. -/
theorem getOrCreate_refused (hfailure : failure ≠ .noData)
    (h : (m.get (byValue filters)).run servers = (.error failure, between)) :
    (m.getOrCreate filters defaults).run servers = (.error failure, between) := by
  have hkind : ¬ (failure.kind == .noData) = true :=
    fun hkind => hfailure (Failure.kind_eq_noData.1 (beq_iff_eq.1 hkind))
  show (ExceptT.mk (Except.ok <$> (m.get (byValue filters)).outcome) >>= _).run servers = _
  rw [run_bind, lookup_outcome h]
  dsimp only
  rw [if_neg hkind]
  rfl

end

/-- **Making and storing a record** goes no further than its insert: unless nothing was called
and a failure told, the values of the record were set, and the insert was run. -/
theorem create_inserts {values : List (String × Value)} {out : Except Failure Record}
    (h : (m.create values).run servers = (out, servers'))
    (hbeyond : servers' = servers → ∃ r, out = .ok r) :
    ∃ r q inserted, Record.new m values = .ok r
      ∧ (Insert.new m).set r.insertedValues = .ok q
      ∧ q.execute.run servers = (inserted, servers')
      ∧ ((∃ r, out = .ok r) → ∃ key, inserted = .ok key) := by
  unfold create at h
  rw [run_bind] at h
  cases hnew : Record.new m values with
  | error failure =>
      rw [hnew] at h
      obtain ⟨rfl, rfl⟩ := Prod.mk.inj h
      obtain ⟨r, hr⟩ := hbeyond rfl
      cases hr
  | ok r =>
      rw [hnew] at h
      obtain ⟨rfl, hisNew⟩ := Record.new_ok hnew
      have hsaving : r.Saving servers out servers' := Record.saving_of_run h
      cases hsaving with
      | refused =>
          obtain ⟨r, hr⟩ := hbeyond rfl
          cases hr
      | notInserted _ hset ran => exact ⟨r, _, _, rfl, hset, ran, fun ⟨_, hr⟩ => nomatch hr⟩
      | inserted _ hset ran => exact ⟨r, _, _, rfl, hset, ran, fun _ => ⟨_, rfl⟩⟩
      | keyed _ hset ran => exact ⟨r, _, _, rfl, hset, ran, fun _ => ⟨_, rfl⟩⟩
      | keyRefused _ hset ran => exact ⟨r, _, _, rfl, hset, ran, fun _ => ⟨_, rfl⟩⟩
      | keyless stored => exact absurd (hisNew.symm.trans stored) nofun
      | clean stored => exact absurd (hisNew.symm.trans stored) nofun
      | notUpdated stored => exact absurd (hisNew.symm.trans stored) nofun
      | updated stored => exact absurd (hisNew.symm.trans stored) nofun

/-- **Looking up or creating goes beyond the lookup** when it says that it created a record, or
when it began a transaction: the lookup was told to have no data, and a record was created. -/
theorem getOrCreate_creates {out : Except Failure (Record × Bool)}
    (h : (m.getOrCreate filters defaults).run servers = (out, servers'))
    (hcreated : (∃ r, out = .ok (r, true))
      ∨ ∃ handle, ⟨.begin, none⟩ ∈ servers.callsUntil servers' handle) :
    ∃ between made, (m.get (byValue filters)).run servers = (.error .noData, between)
      ∧ (m.create (m.valuesFor filters defaults)).run between = (made, servers')
      ∧ out = made.map (·, true) ∧ (servers' = between → ∃ r, made = .ok r) := by
  rcases hget : (m.get (byValue filters)).run servers with ⟨looked, between⟩
  -- The lookup began no transaction, so that something was done behind it.
  have hbeyond : servers' = between → ∃ r, out = .ok (r, true) := by
    rintro rfl
    refine hcreated.resolve_right ?_
    rintro ⟨handle, hbegun⟩
    have hlooked := get_not_begun (m := m) (byValue filters) servers handle
    rw [hget] at hlooked
    exact hlooked hbegun
  cases looked with
  | ok r =>
      obtain ⟨rfl, rfl⟩ := Prod.mk.inj ((getOrCreate_found hget).symm.trans h)
      obtain ⟨r', hr⟩ := hbeyond rfl
      cases hr
  | error failure =>
      by_cases hmissed : failure = .noData
      · subst hmissed
        obtain ⟨rfl, rfl⟩ := Prod.mk.inj ((getOrCreate_missed hget).symm.trans h)
        refine ⟨between, _, rfl, rfl, rfl, fun hsame => ?_⟩
        obtain ⟨r, hr⟩ := hbeyond hsame
        obtain ⟨r', hr', -⟩ := map_ok.1 hr
        exact ⟨r', hr'⟩
      · obtain ⟨rfl, rfl⟩ := Prod.mk.inj ((getOrCreate_refused hmissed hget).symm.trans h)
        obtain ⟨r, hr⟩ := hbeyond rfl
        cases hr

/-- **A record was looked for, and then created**: on the database of the model the select of
the filters was run, with nothing but calls of the lookup around it, and behind them an insert
of the model was written, with success when a record is told to be created. -/
inductive Creation (m : Model) (filters : List (String × Value)) (servers : Servers)
    (out : Except Failure (Record × Bool)) (servers' : Servers) (handle : Handle) (look : Select)
    (searching : Statement) (insert : Insert) : Prop
  | intro {storing : Statement} {searched stored : List Attempt} {serial : Nat}
      {inserted : Except Failure (Option Value)}
      (database : m.database = some handle)
      (looks : (Select.ofModel m).filterBy (byValue filters) = .ok look)
      (searches : look.statement (servers.backend handle).dialect = .ok searching)
      (inserts : insert.model = m)
      (stores : insert.statement (servers.backend handle).dialect = .ok storing)
      (others : ∀ other, other ≠ handle → servers'.backend other = servers.backend other)
      (calls : (servers'.backend handle).trace
        = (servers.backend handle).trace ++ (searched ++ stored))
      (reads : ∀ a ∈ searched, a.call.Reads searching)
      (ran : ⟨.execute serial searching.text searching.parameters, none⟩ ∈ searched)
      (wrote : Written storing.text [storing.parameters] insert.keyOf inserted stored)
      (told : (∃ r, out = .ok (r, true)) → ∃ key, inserted = .ok key)

/-- **How a record is created**: from the values that the filters and the defaults give it. -/
theorem creation (hm : m.Registered) {out : Except Failure (Record × Bool)}
    (h : (m.getOrCreate filters defaults).run servers = (out, servers'))
    (hcreated : (∃ r, out = .ok (r, true))
      ∨ ∃ handle, ⟨.begin, none⟩ ∈ servers.callsUntil servers' handle) :
    ∃ handle look searching insert r,
      m.Creation filters servers out servers' handle look searching insert
        ∧ Record.new m (m.valuesFor filters defaults) = .ok r
        ∧ (Insert.new m).set r.insertedValues = .ok insert := by
  obtain ⟨between, made, hget, hcreate, rfl, hbeyond⟩ := getOrCreate_creates h hcreated
  obtain ⟨look, handle, searching, hlook, hdatabase, hsearching, hothers, hhere⟩ := get_missed hget
  obtain ⟨r, insert, inserted, hnew, hset, hrun, htold⟩ := create_inserts hcreate hbeyond
  obtain ⟨row, rfl, -⟩ := Insert.set_ok hm hset
  have hcarried := Insert.execute_carried ⟨m, .row row⟩ between
  rw [hrun] at hcarried
  cases hcarried with
  | unbound hunbound => exact absurd (hdatabase.symm.trans hunbound) nofun
  | unrendered =>
      obtain ⟨key, hkey⟩ := htold (hbeyond rfl)
      cases hkey
  | written hused haccepted hkept htrace did =>
      obtain rfl := Option.some.inj (hdatabase.symm.trans hused)
      obtain ⟨searched, hsearched, hreads, hran⟩ := hhere.calls
      obtain ⟨serial, hexecuted⟩ := hran rfl
      obtain ⟨⟨sql, rows⟩, hrender, hpair⟩ := map_ok.1 haccepted
      obtain ⟨rfl, rfl⟩ := Prod.mk.inj hpair
      rw [hhere.dialect] at hrender
      have hrow := Insert.render_row rfl hrender
      have hstores : (⟨m, .row row⟩ : Insert).statement (servers.backend handle).dialect
          = .ok ⟨sql, rows.headD []⟩ := by
        refine bind_ok.2 ⟨_, hrender, ?_⟩
        rw [hrow]
        simp [pure, Except.pure]
      rw [hrow] at did
      refine ⟨handle, look, searching, _, r, ?_, hnew, hset⟩
      refine .intro hdatabase hlook hsearching rfl hstores ?_ ?_ hreads hexecuted did ?_
      · exact fun other hother => (hkept other hother).trans (hothers other hother)
      · rw [htrace, hsearched, List.append_assoc]
      · rintro ⟨r', hr⟩
        obtain ⟨stored, hmade, -⟩ := map_ok.1 hr
        exact htold ⟨stored, hmade⟩

end Model

/-! ## §2. What was looked for is stored. -/

/-- **A value is stored as it was sought** in a field: the insert binds for its column what the
select compared the column with.  Where the select tested the column for NULL, the insert binds
NULL, or leaves the column out if the field cannot be NULL. -/
inductive StoredAsSought (d : Dialect) (look : Select) (searching : Statement) (insert : Insert)
    (f : Field) (v : Value) : Prop
  | equal {p : Value} (given : v.isNull = false)
      (compared : look.ComparesWith d searching f.toAttribute p) (bound : insert.Binds d f p)
  | null {p : Value} (given : v.isNull = true) (tested : look.TestsNull d searching f.toAttribute)
      (nullable : f.nullable = true) (bound : insert.Binds d f p) (empty : p.isNull = true)
  | leftOut (given : v.isNull = true) (tested : look.TestsNull d searching f.toAttribute)
      (required : f.nullable = false) (omitted : insert.Omits d f)

section

variable {m : Model} {filters defaults : List (String × Value)} {r : Record} {insert : Insert}
  {d : Dialect} {storing : Statement}

/-- **A new record stores what was looked for**, in the form in which the select stored it. -/
theorem stored_as_sought (hm : m.Registered) (honce : m.SeeksOnce filters defaults)
    {look : Select} (hlook : (Select.ofModel m).filterBy (byValue filters) = .ok look)
    {searching : Statement} (hsearching : look.statement d = .ok searching)
    (hnew : Record.new m (m.valuesFor filters defaults) = .ok r)
    (hset : (Insert.new m).set r.insertedValues = .ok insert)
    (hstores : insert.statement d = .ok storing) {key : String} {v : Value} {f : Field}
    (hmem : (key, v) ∈ filters) (hsought : m.soughtField? key = some f)
    (hkept : ¬ (m.autoIncrement = true ∧ f = m.primaryKey))
    (htext : v.isNull = true → f.kind.type ≠ .text) :
    StoredAsSought d look searching insert f v := by
  obtain ⟨-, -, hconditions⟩ := Model.filterBy_byValue hlook
  have hcondition := hconditions (key, v) hmem f hsought
  obtain ⟨name, -, hfield⟩ := Model.soughtField?_eq_some.1 hsought
  have hf := Model.mem_of_field? hfield
  -- The record holds the application form of the value, which stands for it on the way on.
  obtain ⟨w, hw, hheld⟩ := Record.new_get? hm (honce.gives hmem hsought) hnew
  obtain ⟨hagain, hstored, hnull⟩ := Attribute.of_held hw htext
  have hgiven := Record.insertedValues_gives (Record.new_ok hnew).1 hm hf hheld hkept
  obtain ⟨hbinds, homits⟩ := Insert.set_gives hm hf hgiven hagain hset hstores
  rw [hnull, hstored] at hbinds
  rw [hnull] at homits
  cases hv : v.isNull with
  | false =>
      obtain ⟨p, hp, hcompared⟩ := Select.comparesWith_ok hsearching hv hcondition
      exact .equal hv hcompared (hbinds (.inl hv) p hp)
  | true =>
      have htested := Select.testsNull_ok hsearching hv hcondition
      cases hnullable : f.nullable with
      | true =>
          have hempty : f.toStorage v = .ok f.kind.empty :=
            Attribute.blame_ok.2 (Kind.toStorage_of_isNull hv)
          exact .null hv htested hnullable (hbinds (.inr hnullable) _ hempty) (Kind.isNull_empty _)
      | false => exact .leftOut hv htested hnullable (homits hv hnullable)

/-- **A key that the database generates** is left out, whatever was looked for. -/
theorem generated_key_omitted (hm : m.Registered) (hauto : m.autoIncrement = true)
    (hdefault : m.primaryKey.default = none) {values : List (String × Value)}
    (hnew : Record.new m values = .ok r) (hset : (Insert.new m).set r.insertedValues = .ok insert)
    (hstores : insert.statement d = .ok storing) : insert.Omits d m.primaryKey := by
  refine Insert.set_omits hm hm.primaryKey_mem hdefault (fun cell hcell hfield => ?_) hset hstores
  have hother := Record.of_mem_insertedValues (Record.new_ok hnew).1 hm hcell hfield
  exact hother.2 ⟨hauto, rfl⟩

end

/-- **A record is created as it was looked for.**  Where each field is looked up by one value,
and no default is for such a field: whenever looking up or creating goes beyond the lookup, the
select of the filters was run in vain and an insert was written behind it, and every value that
was looked for is stored as it was sought.  Excepted are the key of a model whose keys the
database generates, for which nothing is inserted unless it has a default, and NULL in a text. -/
theorem created_as_sought {m : Model} (hm : m.Registered) {filters defaults : List (String × Value)}
    (honce : m.SeeksOnce filters defaults) {servers servers' : Servers}
    {out : Except Failure (Record × Bool)}
    (h : (m.getOrCreate filters defaults).run servers = (out, servers'))
    (hcreated : (∃ r, out = .ok (r, true))
      ∨ ∃ handle, ⟨.begin, none⟩ ∈ servers.callsUntil servers' handle) :
    ∃ handle look searching insert,
      m.Creation filters servers out servers' handle look searching insert
        ∧ (∀ key v f, (key, v) ∈ filters → m.soughtField? key = some f →
          ¬ (m.autoIncrement = true ∧ f = m.primaryKey) → (v.isNull = true → f.kind.type ≠ .text) →
            StoredAsSought (servers.backend handle).dialect look searching insert f v)
        ∧ (m.autoIncrement = true → m.primaryKey.default = none →
          insert.Omits (servers.backend handle).dialect m.primaryKey) := by
  obtain ⟨handle, look, searching, insert, r, hcreation, hnew, hset⟩ := Model.creation hm h hcreated
  refine ⟨handle, look, searching, insert, hcreation, ?_, ?_⟩
  all_goals obtain ⟨-, hlook, hsearching, -, hstores, -, -, -, -, -, -⟩ := hcreation
  · intro key v f hmem hsought hkept htext
    exact stored_as_sought hm honce hlook hsearching hnew hset hstores hmem hsought hkept htext
  · exact fun hauto hdefault => generated_key_omitted hm hauto hdefault hnew hset hstores

namespace Sample

/-- An open task that nobody has taken yet. -/
def untaken : List (String × Value) := [("status__eq", text "open"), ("owner", .null)]

/-- That task, with a number. -/
def untakenTask : Record :=
  ⟨task, [("status", text "open"), ("owner", .int64 none), ("id", int 7)], [], false, []⟩

/-- The declarations of an author whose number the database generates. -/
def storedAuthorPlan : Blueprint :=
  { authorPlan with
    database := some ⟨0⟩
    autoIncrement := some true }

theorem storedAuthor_registered : storedAuthor.Registered :=
  .mk (show storedAuthorPlan.build 0 = .ok storedAuthor from rfl) fun _ h => nomatch h

end Sample

open Sample in
/-- No task is open and untaken, and one is created. -/
theorem untaken_created : ∃ servers' look searching insert,
    (task.getOrCreate untaken [("id", int 7)]).run Servers.initial = (.ok (untakenTask, true), servers')
      ∧ task.Creation untaken Servers.initial (.ok (untakenTask, true)) servers' ⟨0⟩ look searching
        insert
      ∧ StoredAsSought .generic look searching insert taskStatus (text "open")
      ∧ StoredAsSought .generic look searching insert taskOwner .null := by
  have honce : task.SeeksOnce untaken [("id", int 7)] := ⟨by decide +kernel, by decide +kernel⟩
  have hrun : (task.getOrCreate untaken [("id", int 7)]).run Servers.initial
      = (.ok (untakenTask, true), _) := rfl
  obtain ⟨handle, look, searching, insert, hcreation, hstored, -⟩ :=
    created_as_sought task_registered honce hrun (.inl ⟨_, rfl⟩)
  obtain rfl : (⟨0⟩ : Handle) = handle := by
    obtain ⟨database, -⟩ := hcreation
    exact Option.some.inj database
  refine ⟨_, look, searching, insert, hrun, hcreation, ?_, ?_⟩
  · exact hstored "status__eq" (text "open") taskStatus (by decide) (by decide +kernel) (by decide)
      nofun
  · exact hstored "owner" .null taskOwner (by decide) (by decide +kernel) (by decide) nofun

/-- The lookup of the author of number five. -/
def Sample.numberFive : Select :=
  { Select.new storedAuthor with
    filter := [.leaf authorId.toAttribute .eq (.value (int 5)) false] }

open Sample in
/-- **Not every value is stored as it was sought**: an author who is looked for by a number is
created without it. -/
theorem not_every_value_stored_as_sought :
    ¬ ∀ (m : Model), m.Registered → ∀ (filters defaults : List (String × Value)),
      m.SeeksOnce filters defaults → ∀ (servers servers' : Servers) (r : Record),
      (m.getOrCreate filters defaults).run servers = (.ok (r, true), servers') →
      ∃ handle look searching insert,
        m.Creation filters servers (.ok (r, true)) servers' handle look searching insert
          ∧ ∀ key v f, (key, v) ∈ filters → m.soughtField? key = some f → v.isNull = false →
            ∃ p, look.ComparesWith (servers.backend handle).dialect searching f.toAttribute p
              ∧ insert.Binds (servers.backend handle).dialect f p := by
  intro hall
  have honce : storedAuthor.SeeksOnce [("id", int 5)] [] := ⟨by decide +kernel, by decide +kernel⟩
  have hrun : (storedAuthor.getOrCreate [("id", int 5)] []).run (reporting (int 1))
      = (.ok (_, true), _) := rfl
  obtain ⟨handle, look, searching, insert, hcreation, hstored⟩ :=
    hall storedAuthor storedAuthor_registered _ _ honce _ _ _ hrun
  obtain ⟨p, ⟨n, -, hp⟩, cells, hbound, hinsert⟩ :=
    hstored "id" (int 5) authorId (by decide) (by decide +kernel) rfl
  obtain @⟨storing, searched, stored, _, _, database, looks, searches, -, stores, -, calls, reads,
    -, wrote, -⟩ := hcreation
  obtain rfl : (⟨0⟩ : Handle) = handle := Option.some.inj database
  have hlook : (Select.ofModel storedAuthor).filterBy (byValue [("id", int 5)]) = .ok numberFive :=
    rfl
  obtain rfl : numberFive = look := Except.ok.inj (hlook.symm.trans looks)
  have hsearching : numberFive.statement .generic = .ok ⟨_, [int 5]⟩ := rfl
  obtain rfl := Except.ok.inj (hsearching.symm.trans searches)
  obtain rfl := List.mem_singleton.1 (List.mem_of_getElem? hp)
  obtain rfl := Except.ok.inj (stores.symm.trans hinsert)
  -- What was run last is the insert, for the select has other parameters.
  have hran : ⟨.execute 1 "INSERT INTO author (name) VALUES (?)" [text ""], none⟩
      ∈ searched ++ stored := by
    show _ ∈ ((reporting (int 1)).backend ⟨0⟩).trace ++ (searched ++ stored)
    rw [← calls]
    decide +kernel
  have hempty : [text ""] = cells.map (·.2) := by
    rcases List.mem_append.1 hran with hsearched | hwritten
    · exact absurd (reads _ hsearched).2 nofun
    · exact List.mem_singleton.1 (wrote.executed_of_mem hwritten)
  have hfive : (authorId, int 5) ∈ cells := by
    have hone : (authorId, int 5) ∈ cells.filter (·.1.column == authorId.column) := by
      rw [hbound]
      exact List.mem_singleton_self _
    exact (List.mem_filter.1 hone).1
  have hsame : int 5 ∈ [text ""] := hempty ▸ List.mem_map_of_mem hfive
  exact absurd (List.mem_singleton.1 hsame) nofun

end RecordMapper
