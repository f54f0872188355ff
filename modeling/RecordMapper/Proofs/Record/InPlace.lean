/-
  RecordMapper.Proofs.Record.InPlace
  ────────────────────────────────
  **RECORDS THAT ARE CHANGED WHERE THEY ARE KEPT.**

  An operation on a record is written as one that yields a new record, which takes the
  place of the old one when the operation succeeds.  Here the operations are written out
  for a caller who keeps one record and lets it be changed step by step: a value is put, a
  field is marked as dirty, a related record is attached, the record counts as stored.  An
  operation that failed behind the first such step would leave the record half changed.

  Main result: `operations_keep_record_on_failure`.  The two forms agree, on every record
  and for whatever the databases do: all that can fail comes before the first step.  A save
  that succeeds leaves nothing to save.
-/
import RecordMapper.Proofs.Record.Saving

namespace RecordMapper

variable {α β : Type}

/-! ## §1. Steps on a record that is kept. -/

/-- **A record that is kept**, and the open databases. -/
structure Held where
  servers : Servers
  record : Record

/-- **Work on a record that is kept**: what it did stays done when it fails. -/
abbrev InPlace := ExceptT Failure (StateM Held)

namespace InPlace

/-- A result that was reached without any step. -/
def ofExcept (result : Except Failure α) : InPlace α :=
  ExceptT.mk (pure result)

/-- An action on the databases. -/
def act (action : Action α) : InPlace α :=
  ExceptT.mk fun held =>
    let (outcome, servers) := action.run held.servers
    (outcome, { held with servers := servers })

/-- **A step**: the record is changed. -/
def change (f : Record → Record) : InPlace Unit :=
  modify fun held => { held with record := f held.record }

/-- Put the value of a field. -/
def put (name : String) (v : Value) : InPlace Unit :=
  change fun r => { r with values := r.values.put name v }

/-- Mark a field as dirty. -/
def mark (name : String) : InPlace Unit :=
  change fun r => { r with dirty := if r.dirty.contains name then r.dirty else r.dirty ++ [name] }

/-- A field is not dirty any more. -/
def unmark (name : String) : InPlace Unit :=
  change fun r => { r with dirty := r.dirty.filter (· != name) }

/-! ## §2. The operations, step by step. -/

/-- **Assign a field.** -/
def set (name : String) (v : Value) : InPlace Unit := do
  let r := (← get).record
  let field ← ofExcept (r.model.field name)
  let v ← ofExcept (field.toApplication v)
  if !r.isNew && !field.toAttribute.same r.model.primaryKey.toAttribute && r.changes field v then
    mark field.name
  put field.name v

/-- Assign the primary key. -/
def setKey (v : Value) : InPlace Unit := do
  let r := (← get).record
  set r.model.primaryKey.name v

/-- A generated key is assigned, if there is one. -/
def takeKey : Option Value → InPlace Unit
  | some key => setKey key
  | none => return ()

/-- Insert a new record. -/
def insert : InPlace Unit := do
  let r := (← get).record
  let q ← ofExcept ((Insert.new r.model).set r.insertedValues)
  takeKey (← act q.execute)
  change fun r => { r with isNew := false }

/-- Bring the row of a record up to date: update the one of a loaded record that has dirty
fields, insert that of a new one. -/
def store : InPlace Unit := do
  let r := (← get).record
  match r.key? with
  | some key =>
    if !r.isNew && !r.dirty.isEmpty then
      let _ ← act (r.dirtyUpdate key).execute
    else if r.isNew then insert
  | none => if r.isNew then insert else throw (.saveWithoutKey r.model.name)

/-- **Save a record.** -/
def save : InPlace Unit := do
  store
  change Record.settled

/-- Take the value of a field from another record. -/
def take (other : Record) (name : String) : InPlace Unit := do
  unmark name
  put name ((other.get? name).getD .null)

/-- **Read fields again.** -/
def refresh (names : List String) : InPlace Unit := do
  let r := (← get).record
  match r.key? with
  | none => throw (.refreshWithoutKey r.model.name)
  | some key => do
    let names ← ofExcept (r.refreshedNames names)
    let fresh ← act (((Select.ofModel r.model).select (names.map .name)).restrict
      (r.model.keyIs key)).one
    names.forM (take fresh)

/-- **The record that a foreign key refers to**, which is attached when it was fetched. -/
def fetchRelated (name : String) : InPlace (Option Record) := do
  let r := (← get).record
  match Record.relation? r.model name with
  | none => throw (.noSuchRelation r.model.name name)
  | some (field, key, related) =>
    match r.related? key.relatedName with
    | some other => return some other
    | none =>
      match (r.get? field.name).filter (!·.isNull) with
      | none => return none
      | some v =>
        let q := (Select.ofModel related).restrict (.compare key.target .eq (.value v))
        match ← act (ExceptT.mk (Except.ok <$> q.one.outcome)) with
        | .ok other => do
          change fun r => r.keep key.relatedName other
          return some other
        | .error failure =>
          if field.nullable && failure.kind == .noData then return none else throw failure

end InPlace

/-! ## §3. Both forms agree. -/

/-- **What is left of a record**, and what comes of an operation that was to make another
one of it: the new record, or the old one when the operation failed. -/
def Held.after (r : Record) (outcome : Except Failure (α × Record)) (servers : Servers) :
    Except Failure α × Held :=
  match outcome with
  | .ok (a, changed) => (.ok a, ⟨servers, changed⟩)
  | .error failure => (.error failure, ⟨servers, r⟩)

namespace InPlace

section

variable {r : Record} {servers : Servers}

/-- What is read of a record is the record as it stands. -/
theorem get_run (f : Held → InPlace β) :
    (get >>= f).run ⟨servers, r⟩ = (f ⟨servers, r⟩).run ⟨servers, r⟩ :=
  rfl

/-- A result that was reached without any step leaves everything as it is. -/
theorem ofExcept_run (x : Except Failure α) (f : α → InPlace β) :
    (ofExcept x >>= f).run ⟨servers, r⟩ = match x with
      | .ok a => (f a).run ⟨servers, r⟩
      | .error failure => (.error failure, ⟨servers, r⟩) := by
  rw [run_bind]
  cases x <;> rfl

/-- An action on the databases leaves the record as it is. -/
theorem act_run (action : Action α) (f : α → InPlace β) :
    (act action >>= f).run ⟨servers, r⟩ = match action.run servers with
      | (.ok a, servers') => (f a).run ⟨servers', r⟩
      | (.error failure, servers') => (.error failure, ⟨servers', r⟩) := by
  have hact : (act action).run ⟨servers, r⟩
      = ((action.run servers).1, ⟨(action.run servers).2, r⟩) :=
    rfl
  rw [run_bind, hact]
  rcases action.run servers with ⟨failure | a, servers'⟩ <;> rfl

/-- An action whose failure is caught does not fail. -/
theorem caught_run (action : Action α) :
    (ExceptT.mk (Except.ok <$> action.outcome) : Action (Except Failure α)).run servers
      = (.ok (action.run servers).1, (action.run servers).2) :=
  rfl

/-- What follows an action is told how it ended. -/
theorem after_run (action : Action α)
    (f : Except Failure α → StateM Servers (Except Failure β)) :
    (ExceptT.mk (action.outcome >>= f)).run servers
      = f (action.run servers).1 (action.run servers).2 :=
  rfl

/-- **Assigning a field** fails before anything is marked or put. -/
theorem set_run (name : String) (v : Value) :
    (set name v).run ⟨servers, r⟩ = Held.after r ((r.set name v).map ((), ·)) servers := by
  unfold set Record.set
  rw [get_run, ofExcept_run]
  cases r.model.field name with
  | error failure => rfl
  | ok field =>
      dsimp only
      rw [ofExcept_run]
      show _ = Held.after r (Except.map _ (field.toApplication v >>= _)) servers
      cases field.toApplication v with
      | error failure => rfl
      | ok w =>
          have hdirty : r.dirtyAfter field w = if (!r.isNew
              && !field.toAttribute.same r.model.primaryKey.toAttribute && r.changes field w) = true
                then (if r.dirty.contains field.name then r.dirty else r.dirty ++ [field.name])
                else r.dirty := by
            unfold Record.dirtyAfter
            cases r.dirty.contains field.name <;> simp
          show _ = (Except.ok (), (⟨servers, { r with
            values := r.values.put field.name w, dirty := r.dirtyAfter field w }⟩ : Held))
          rw [hdirty]
          dsimp only
          split <;> rfl

/-- **Inserting** fails before the key is put, and before the record counts as stored. -/
theorem insert_run : insert.run ⟨servers, r⟩
    = Held.after r ((r.insert.run servers).1.map ((), ·)) (r.insert.run servers).2 := by
  unfold insert Record.insert
  rw [get_run, ofExcept_run, run_bind]
  cases (Insert.new r.model).set r.insertedValues with
  | error failure => rfl
  | ok q =>
      rw [show (Action.ofExcept (.ok q)).run servers = (.ok q, servers) from rfl]
      dsimp only
      rw [act_run, run_bind]
      rcases q.execute.run servers with ⟨failure | _ | key, servers'⟩
      · rfl
      · rfl
      · have hkey : (takeKey (some key)).run ⟨servers', r⟩
            = Held.after r ((r.setKey key).map ((), ·)) servers' :=
          set_run r.model.primaryKey.name key
        dsimp only
        rw [run_bind, run_bind, hkey]
        cases r.setKey key <;> rfl

/-- What is stored of a new record is the row that is inserted. -/
theorem store_new (hnew : r.isNew = true) : store.run ⟨servers, r⟩ = insert.run ⟨servers, r⟩ := by
  unfold store
  rw [get_run]
  dsimp only
  cases r.key? <;> simp [hnew]

/-- **Saving** fails before the record counts as stored, and before its key is put. -/
theorem save_run : save.run ⟨servers, r⟩
    = Held.after r ((r.save.run servers).1.map ((), ·)) (r.save.run servers).2 := by
  unfold save Record.save
  cases hnew : r.isNew with
  | true =>
      rw [if_pos rfl, run_bind, store_new hnew, insert_run, run_bind]
      rcases r.insert.run servers with ⟨failure | stored, servers'⟩ <;> rfl
  | false =>
      unfold store
      rw [run_bind, get_run, if_neg Bool.false_ne_true]
      dsimp only
      cases r.key? with
      | none =>
          rw [hnew]
          rfl
      | some key =>
          dsimp only
          rw [hnew]
          cases r.dirty.isEmpty with
          | true => rfl
          | false =>
              rw [if_pos (show (!false && !false) = true from rfl), act_run,
                if_neg Bool.false_ne_true, run_bind]
              unfold Record.dirtyUpdate
              rcases (((Update.new r.model).set r.changedValues).restrict
                (r.model.keyIs key)).execute.run servers with ⟨failure | n, servers'⟩ <;> rfl

/-- **Taking values over** puts one after the other. -/
theorem take_run (other : Record) : ∀ (names : List String) (r : Record),
    (names.forM (take other)).run ⟨servers, r⟩
      = (.ok (), ⟨servers, names.foldl (Record.takeFrom other) r⟩)
  | [], _ => rfl
  | name :: names, r => take_run other names (Record.takeFrom other r name)

/-- **Reading fields again** fails before any value is taken over. -/
theorem refresh_run (names : List String) : (refresh names).run ⟨servers, r⟩
    = Held.after r (((r.refresh names).run servers).1.map ((), ·))
      ((r.refresh names).run servers).2 := by
  unfold refresh Record.refresh
  rw [get_run]
  dsimp only
  cases r.key? with
  | none => rfl
  | some key =>
      dsimp only
      rw [ofExcept_run, run_bind]
      cases r.refreshedNames names with
      | error failure => rfl
      | ok names =>
          dsimp only
          rw [show (Action.ofExcept (.ok names)).run servers = (.ok names, servers) from rfl]
          dsimp only
          rw [act_run, run_bind]
          rcases (((Select.ofModel r.model).select (names.map .name)).restrict
            (r.model.keyIs key)).one.run servers with ⟨failure | fresh, servers'⟩
          · rfl
          · exact take_run fresh names r

/-- **Fetching a related record** fails before it is attached. -/
theorem fetchRelated_run (name : String) : (fetchRelated name).run ⟨servers, r⟩
    = Held.after r ((r.fetchRelated name).run servers).1 ((r.fetchRelated name).run servers).2 := by
  unfold fetchRelated Record.fetchRelated
  rw [get_run]
  dsimp only
  cases Record.relation? r.model name with
  | none => rfl
  | some link =>
      obtain ⟨field, key, related⟩ := link
      dsimp only
      cases r.related? key.relatedName with
      | some other => rfl
      | none =>
          dsimp only
          cases (r.get? field.name).filter (!·.isNull) with
          | none => rfl
          | some v =>
              dsimp only
              rw [act_run, caught_run, after_run]
              dsimp only
              rcases ((Select.ofModel related).restrict (.compare key.target .eq
                (.value v))).one.run servers with ⟨failure | other, servers'⟩
              · dsimp only
                split <;> rfl
              · rfl

end

end InPlace

/-! ## §4. Operations. -/

/-- **An operation on a record.** -/
inductive Record.Operation where
  | set (name : String) (v : Value)
  | setKey (v : Value)
  | save
  | refresh (names : List String)
  | fetchRelated (name : String)

namespace Record.Operation

/-- What the operation yields, and the record that it makes of a record. -/
def result (r : Record) : Operation → Action (Option Record × Record)
  | .set name v => (none, ·) <$> Action.ofExcept (r.set name v)
  | .setKey v => (none, ·) <$> Action.ofExcept (r.setKey v)
  | .save => (none, ·) <$> r.save
  | .refresh names => (none, ·) <$> r.refresh names
  | .fetchRelated name => r.fetchRelated name

/-- The operation, step by step on a record that is kept. -/
def inPlace : Operation → InPlace (Option Record)
  | .set name v => (fun _ => none) <$> InPlace.set name v
  | .setKey v => (fun _ => none) <$> InPlace.setKey v
  | .save => (fun _ => none) <$> InPlace.save
  | .refresh names => (fun _ => none) <$> InPlace.refresh names
  | .fetchRelated name => InPlace.fetchRelated name

variable {r : Record} {servers : Servers}

/-- An operation that yields nothing is what it makes of the record. -/
theorem yields_none {x : InPlace Unit} (action : Action Record)
    (h : x.run ⟨servers, r⟩
      = Held.after r ((action.run servers).1.map ((), ·)) (action.run servers).2) :
    ((fun _ => none) <$> x : InPlace (Option Record)).run ⟨servers, r⟩
      = Held.after r (((none, ·) <$> action : Action (Option Record × Record)).run servers).1
        (((none, ·) <$> action : Action (Option Record × Record)).run servers).2 := by
  rw [map_eq_pure_bind, map_eq_pure_bind, run_bind, run_bind, h]
  rcases action.run servers with ⟨failure | changed, servers'⟩ <;> rfl

/-- **Both forms of an operation agree.** -/
theorem inPlace_run (op : Operation) : op.inPlace.run ⟨servers, r⟩
    = Held.after r ((op.result r).run servers).1 ((op.result r).run servers).2 := by
  cases op with
  | set name v => exact yields_none (Action.ofExcept (r.set name v)) (InPlace.set_run name v)
  | setKey v =>
      exact yields_none (Action.ofExcept (r.setKey v))
        (InPlace.set_run r.model.primaryKey.name v)
  | save => exact yields_none r.save InPlace.save_run
  | refresh names => exact yields_none (r.refresh names) (InPlace.refresh_run names)
  | fetchRelated name => exact InPlace.fetchRelated_run name

/-- A save succeeds when its other form does. -/
theorem save_ok_iff {yielded : Option Record} {held : Held} :
    save.inPlace.run ⟨servers, r⟩ = (.ok yielded, held)
      ↔ yielded = none ∧ r.save.run servers = (.ok held.record, held.servers) := by
  rw [inPlace_run]
  unfold result
  rw [map_eq_pure_bind, run_bind]
  rcases r.save.run servers with ⟨failure | saved, servers'⟩
  · exact iff_of_false nofun nofun
  · constructor
    · intro h
      cases h
      exact ⟨rfl, rfl⟩
    · rintro ⟨rfl, h⟩
      cases h
      rfl

end Record.Operation

/-- **An operation that fails leaves the record as it was**, whatever became of the databases:
its values, the attached records, whether it is new and its dirty fields.  After a save that
succeeds no field is dirty and the record is not new, and if it has a key the next save
succeeds and does nothing, not even to the databases. -/
theorem operations_keep_record_on_failure (r : Record) (servers : Servers) :
    (∀ op : Record.Operation,
      op.inPlace.run ⟨servers, r⟩
          = Held.after r ((op.result r).run servers).1 ((op.result r).run servers).2
        ∧ ∀ failure held, op.inPlace.run ⟨servers, r⟩ = (.error failure, held) → held.record = r)
      ∧ ∀ yielded held, Record.Operation.save.inPlace.run ⟨servers, r⟩ = (.ok yielded, held) →
        held.record.dirty = [] ∧ held.record.isNew = false
          ∧ (held.record.key?.isSome →
            Record.Operation.save.inPlace.run held = (.ok none, held)) := by
  refine ⟨fun op => ⟨op.inPlace_run, fun failure held hfails => ?_⟩, fun yielded held hsaved => ?_⟩
  · rw [op.inPlace_run] at hfails
    cases hout : ((op.result r).run servers).1 with
    | ok changed =>
        rw [hout] at hfails
        cases hfails
    | error e =>
        rw [hout] at hfails
        obtain ⟨-, rfl⟩ := Prod.mk.inj hfails
        rfl
  · obtain ⟨hclean, hstored⟩ := Record.save_settled (Record.Operation.save_ok_iff.1 hsaved).2
    refine ⟨hclean, hstored, fun hkey => ?_⟩
    exact Record.Operation.save_ok_iff.2
      ⟨rfl, Record.save_clean hclean hstored hkey held.servers⟩

/-! ## §5. An author who is stored. -/

namespace Sample

/-- Ann, who is not stored yet. -/
def ann : Record :=
  ⟨storedAuthor, [("name", text "Ann")], [], true, []⟩

end Sample

open Sample in
/-- Ann is inserted by a database that reports no number, and is as new as before; one that
reports 7 stores her, and there is nothing left to save. -/
theorem ann_kept_until_stored :
    (∃ failure held, Record.Operation.save.inPlace.run ⟨reporting (text "none"), ann⟩
        = (.error failure, held) ∧ held.record = ann)
      ∧ ∃ held, Record.Operation.save.inPlace.run ⟨reporting (int 7), ann⟩ = (.ok none, held)
        ∧ held.record.key? = some (int 7)
        ∧ Record.Operation.save.inPlace.run held = (.ok none, held) := by
  have hfails : Record.Operation.save.inPlace.run ⟨reporting (text "none"), ann⟩
      = (.error (.invalidValue "Author" "id" (.cannotParse "none" "i64")), _) := rfl
  have hsaved : Record.Operation.save.inPlace.run ⟨reporting (int 7), ann⟩ = (.ok none, _) := rfl
  have hkept := ((operations_keep_record_on_failure ann _).1 .save).2 _ _ hfails
  have hagain := ((operations_keep_record_on_failure ann _).2 _ _ hsaved).2.2
  exact ⟨⟨_, _, hfails, hkept⟩, _, hsaved, rfl, hagain rfl⟩

end RecordMapper
