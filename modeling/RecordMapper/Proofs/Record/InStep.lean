/-
  RecordMapper.Proofs.Record.InStep
  ────────────────────────────────
  **ATTACHED RECORDS AND THE KEYS THAT REFER TO THEM.**

  The record that a foreign key refers to is fetched once, and is attached from then on.
  Assignments, reading fields again and the generated key of a save change values and
  leave what is attached alone; a record that is attached is handed out without a look at
  the key.  So nothing but a change of the key itself can bring the two out of step.

  The invariant is `Relation.InStep`.  `Record.Operation.attaches` says what one operation
  can attach, `Relation.inStep_after_iff` which of them keep the invariant, and a run of
  operations is an induction on how far it has come.

  Main result: `fetched_in_step_iff_key_kept`.
-/
import RecordMapper.Proofs.Record.Attached
import RecordMapper.Proofs.Record.Created
import RecordMapper.Proofs.Record.Fetched
import RecordMapper.Proofs.Record.InPlace

namespace RecordMapper

/-! ## §1. Relations of a record. -/

/-- **A relation**: the field of a foreign key, the key, and the model that it refers to. -/
structure Relation where
  field : Field
  key : ForeignKey
  related : Model

namespace Relation

section

variable {m : Model} {name : String} {relation relation' : Relation}

/-- The relation is found in a model by a name, which is the related name or that of the
field. -/
def FoundBy (relation : Relation) (m : Model) (name : String) : Prop :=
  Record.relation? m name = some (relation.field, relation.key, relation.related)

/-- What a record holds in the foreign key; NULL when it was never assigned. -/
def value (relation : Relation) (r : Record) : Value :=
  (r.get? relation.field.name).getD .null

/-- What a record has attached under the related name. -/
def attached? (relation : Relation) (r : Record) : Option Record :=
  r.related? relation.key.relatedName

/-- **A record refers to another one**: its foreign key is not NULL, and is the same as what
the other has in the field that is referred to. -/
def Joins (relation : Relation) (r other : Record) : Prop :=
  (relation.value r).isNull = false
    ∧ ∃ w, other.get? relation.key.target.name = some w ∧ w.same (relation.value r) = true

/-- **A record is in step** with the relation: it refers to the record that is attached, if
there is one. -/
def InStep (relation : Relation) (r : Record) : Prop :=
  ∀ other, relation.attached? r = some other → relation.Joins r other

theorem FoundBy.unique (h : relation.FoundBy m name) (h' : relation'.FoundBy m name) :
    relation' = relation := by
  obtain ⟨field, key, related⟩ := relation
  obtain ⟨field', key', related'⟩ := relation'
  cases h.symm.trans h'
  rfl

/-- **A relation that is found** is that of a foreign key of the model. -/
theorem FoundBy.refers (h : relation.FoundBy m name) (hm : m.Declared) :
    m.Refers relation.related relation.field relation.key
      ∧ m.RefersAs relation.key.relatedName relation.related := by
  obtain ⟨⟨fieldName, related⟩, hrelation, hfound⟩ := List.exists_of_findSome?_eq_some h
  obtain ⟨field, hfield, hkeyed⟩ := Option.bind_eq_some_iff.1 hfound
  obtain ⟨key, hkey, hnamed⟩ := Option.bind_eq_some_iff.1 hkeyed
  obtain ⟨rfl, rfl, rfl⟩ :
      field = relation.field ∧ key = relation.key ∧ related = relation.related := by
    split at hnamed
    · cases hnamed
      exact ⟨rfl, rfl, rfl⟩
    · cases hnamed
  obtain ⟨field', key', hfield', hrefers⟩ := hm.refers hrelation
  obtain rfl := Option.some.inj (hfield.symm.trans hfield')
  obtain rfl := Option.some.inj (hkey.symm.trans hrefers.key_eq)
  obtain ⟨key', hkey', hrefersAs⟩ := hm.refersAs_of_relation hrelation
  rw [hfield, Option.bind_some, hkey] at hkey'
  obtain rfl := Option.some.inj hkey'
  exact ⟨hrefers, hrefersAs⟩

/-- **Relations of one related name** are the same, when related names are apart. -/
theorem FoundBy.eq_of_relatedName {name' : String} (h : relation.FoundBy m name)
    (h' : relation'.FoundBy m name') (hm : m.Declared) (hapart : m.NamesApart)
    (hname : relation'.key.relatedName = relation.key.relatedName) : relation' = relation := by
  obtain ⟨hrefers, hrefersAs⟩ := h.refers hm
  obtain ⟨hrefers', hrefersAs'⟩ := h'.refers hm
  have hfield := hapart _ hrefers'.mem _ hrefers.mem _ hrefers'.key_eq _ hrefers.key_eq hname
  have hkey := hrefers'.key_eq
  rw [hfield, hrefers.key_eq] at hkey
  have hrelated := (hname ▸ hrefersAs').unique hm hapart hrefersAs
  obtain ⟨field, key, related⟩ := relation
  obtain ⟨field', key', related'⟩ := relation'
  obtain rfl := Option.some.inj hkey
  obtain rfl : field' = field := hfield
  obtain rfl : related' = related := hrelated
  rfl

end

end Relation

/-! ## §2. What an operation attaches. -/

namespace Record

/-- **A relation is read**: nothing is attached, the key is not NULL, and the lookup by its
value yields a record. -/
structure Reads (r : Record) (relation : Relation) (servers : Servers) (other : Record) : Prop where
  free : relation.attached? r = none
  refers : (relation.value r).isNull = false
  read : ((Select.byValue relation.related relation.key.target
    (relation.value r)).one.run servers).1 = .ok other

/-- **Fetching through a relation**: what is attached is handed out as it is; otherwise the key
is looked at, and a record with its value is looked up. -/
theorem fetchRelated_run {relation : Relation} {r : Record} {name : String}
    (h : relation.FoundBy r.model name) (servers : Servers) :
    (r.fetchRelated name).run servers = match relation.attached? r with
      | some other => (.ok (some other, r), servers)
      | none =>
        if (relation.value r).isNull then (.ok (none, r), servers)
        else match (Select.byValue relation.related relation.key.target
            (relation.value r)).one.run servers with
          | (.ok other, servers') =>
            (.ok (some other, r.keep relation.key.relatedName other), servers')
          | (.error failure, servers') =>
            (if relation.field.nullable && failure.kind == .noData then .ok (none, r)
              else .error failure, servers') := by
  obtain ⟨field, key, related⟩ := relation
  unfold fetchRelated Relation.attached? Relation.value
  rw [show relation? r.model name = some (field, key, related) from h]
  dsimp only
  cases r.related? key.relatedName with
  | some other => rfl
  | none =>
      dsimp only
      rcases hget : r.get? field.name with _ | v
      · rfl
      · cases hnull : v.isNull with
        | true =>
            rw [Option.filter_some_neg (by simp [hnull]), Option.getD_some, hnull]
            rfl
        | false =>
            rw [Option.filter_some_pos (by simp [hnull]), Option.getD_some, hnull]
            dsimp only
            rw [InPlace.after_run]
            unfold Select.byValue
            rcases ((Select.ofModel related).restrict (.compare key.target .eq
              (.value v))).one.run servers with ⟨failure | other, servers'⟩
            · dsimp only
              rw [if_neg Bool.false_ne_true]
              split <;> rfl
            · rfl

/-- **What a fetch yields** and what it leaves of the record, when it succeeds. -/
inductive Fetched (r : Record) (name : String) (servers : Servers) : Option Record → Record → Prop
  | nothing : Fetched r name servers none r
  | attached {relation : Relation} (found : relation.FoundBy r.model name) {other : Record}
      (held : relation.attached? r = some other) : Fetched r name servers (some other) r
  | read {relation : Relation} (found : relation.FoundBy r.model name) {other : Record}
      (reads : r.Reads relation servers other) :
      Fetched r name servers (some other) (r.keep relation.key.relatedName other)

variable {r r' : Record} {servers : Servers}

/-- **Every fetch that succeeds** goes in one of these ways. -/
theorem fetchRelated_ok {name : String} {yielded : Option Record}
    (h : ((r.fetchRelated name).run servers).1 = .ok (yielded, r')) :
    r.Fetched name servers yielded r' := by
  cases hrelation : relation? r.model name with
  | none =>
      unfold fetchRelated at h
      rw [hrelation] at h
      cases h
  | some found =>
      obtain ⟨field, key, related⟩ := found
      have hfound : (⟨field, key, related⟩ : Relation).FoundBy r.model name := hrelation
      generalize (⟨field, key, related⟩ : Relation) = relation at hfound
      rw [fetchRelated_run hfound] at h
      cases hattached : relation.attached? r with
      | some other =>
          rw [hattached] at h
          cases h
          exact .attached hfound hattached
      | none =>
          rw [hattached] at h
          dsimp only at h
          split at h
          · cases h
            exact .nothing
          · next hnull =>
              rcases hread : (Select.byValue relation.related relation.key.target
                (relation.value r)).one.run servers with ⟨failure | other, servers'⟩
              · rw [hread] at h
                dsimp only at h
                split at h
                · cases h
                  exact .nothing
                · cases h
              · rw [hread] at h
                cases h
                exact .read hfound ⟨hattached, Bool.eq_false_iff.2 hnull, congrArg Prod.fst hread⟩

/-- Saving leaves what is attached alone. -/
theorem save_related (h : (r.save.run servers).1 = .ok r') :
    r'.model = r.model ∧ r'.related = r.related := by
  have hsaving := r.saving servers
  rw [h] at hsaving
  generalize (r.save.run servers).2 = servers' at hsaving
  cases hsaving with
  | inserted => exact ⟨rfl, rfl⟩
  | keyed _ _ _ takes =>
      obtain ⟨hmodel, hrelated⟩ := set_related takes
      exact ⟨hmodel, hrelated⟩
  | clean => exact ⟨rfl, rfl⟩
  | updated => exact ⟨rfl, rfl⟩

/-- Taking values over leaves what is attached alone. -/
theorem takeFrom_related (other : Record) : ∀ (names : List String) (r : Record),
    (names.foldl (takeFrom other) r).model = r.model
      ∧ (names.foldl (takeFrom other) r).related = r.related
  | [], _ => ⟨rfl, rfl⟩
  | name :: names, r => takeFrom_related other names (takeFrom other r name)

theorem refresh_related {names : List String} (h : ((r.refresh names).run servers).1 = .ok r') :
    r'.model = r.model ∧ r'.related = r.related := by
  unfold refresh at h
  cases hkey : r.key? with
  | none =>
      rw [hkey] at h
      cases h
  | some key =>
      rw [hkey] at h
      obtain ⟨names, s₁, -, h⟩ := Action.bind_ok.1 (Prod.ext h rfl)
      obtain ⟨fresh, s₂, -, h⟩ := Action.bind_ok.1 h
      obtain rfl := Except.ok.inj (Prod.mk.inj h).1
      exact takeFrom_related fresh names r

namespace Operation

/-- The result of an operation that yields a record and nothing else. -/
theorem of_map_ok (action : Action Record) {yielded : Option Record}
    (h : (((none, ·) <$> action : Action (Option Record × Record)).run servers).1
      = .ok (yielded, r')) : (action.run servers).1 = .ok r' := by
  rw [map_eq_pure_bind, run_bind] at h
  rcases hrun : action.run servers with ⟨failure | changed, servers'⟩
  · rw [hrun] at h
    cases h
  · rw [hrun] at h
    cases h
    rfl

/-- **What an operation attaches**: nothing, unless a relation is read. -/
theorem attaches {op : Operation} {yielded : Option Record}
    (h : ((op.result r).run servers).1 = .ok (yielded, r')) :
    (r'.model = r.model ∧ r'.related = r.related)
      ∨ ∃ name relation other, op = .fetchRelated name ∧ relation.FoundBy r.model name
        ∧ r.Reads relation servers other ∧ r' = r.keep relation.key.relatedName other := by
  cases op with
  | set name v => exact .inl (set_related (of_map_ok (Action.ofExcept (r.set name v)) h))
  | setKey v => exact .inl (set_related (of_map_ok (Action.ofExcept (r.setKey v)) h))
  | save => exact .inl (save_related (of_map_ok _ h))
  | refresh names => exact .inl (refresh_related (of_map_ok _ h))
  | fetchRelated name =>
      cases fetchRelated_ok h with
      | nothing => exact .inl ⟨rfl, rfl⟩
      | attached => exact .inl ⟨rfl, rfl⟩
      | read found reads => exact .inr ⟨name, _, _, rfl, found, reads, rfl⟩

end Operation

/-- **A turn**: an operation, with the databases as they are then. -/
abbrev Turn := Operation × Servers

/-- **What a turn leaves of a record** that is kept; the same record when the operation
fails. -/
def after (r : Record) (turn : Turn) : Record :=
  (turn.1.inPlace.run ⟨turn.2, r⟩).2.record

/-- What turns leave of a record, one after the other. -/
def afterAll (r : Record) (turns : List Turn) : Record :=
  turns.foldl after r

theorem afterAll_concat (r : Record) (turns : List Turn) (turn : Turn) :
    r.afterAll (turns ++ [turn]) = (r.afterAll turns).after turn :=
  List.foldl_concat ..

/-- A turn leaves what is attached alone, unless it reads a relation. -/
theorem after_cases (r : Record) (turn : Turn) :
    ((r.after turn).model = r.model ∧ (r.after turn).related = r.related)
      ∨ ∃ name relation other, turn.1 = .fetchRelated name ∧ relation.FoundBy r.model name
        ∧ r.Reads relation turn.2 other ∧ r.after turn = r.keep relation.key.relatedName other := by
  obtain ⟨op, servers⟩ := turn
  unfold after
  rw [op.inPlace_run]
  cases hresult : ((op.result r).run servers).1 with
  | error failure => exact .inl ⟨rfl, rfl⟩
  | ok yielding => exact Operation.attaches hresult

theorem after_model (r : Record) (turn : Turn) : (r.after turn).model = r.model := by
  rcases r.after_cases turn with ⟨hmodel, -⟩ | ⟨name, relation, other, -, -, -, hafter⟩
  · exact hmodel
  · rw [hafter]
    rfl

theorem afterAll_model (r : Record) (turns : List Turn) : (r.afterAll turns).model = r.model := by
  induction turns using List.reverseRecOn with
  | nil => rfl
  | append_singleton turns turn ih => rw [afterAll_concat, after_model, ih]

end Record

/-! ## §3. One turn. -/

namespace Relation

section

variable {m : Model} {name : String} {relation : Relation} {r : Record} {servers : Servers}
  {turn : Record.Turn}

/-- **A lookup through the relation is answered fairly**: if one is made, the column that is
referred to keeps the value of the key, and the rows that come as an answer have it. -/
def Fair (relation : Relation) (r : Record) (servers : Servers) : Prop :=
  relation.attached? r = none → (relation.value r).isNull = false →
    relation.key.target.Keeps (relation.value r)
      ∧ servers.AnswersWith relation.related relation.key.target (relation.value r)

/-- **A turn is fair** for the relation: if it fetches through the relation, by whichever name,
the lookup is answered fairly. -/
def FairTurn (relation : Relation) (r : Record) (turn : Record.Turn) : Prop :=
  ∀ name, turn.1 = .fetchRelated name → relation.FoundBy r.model name → relation.Fair r turn.2

/-- **A turn keeps the key** while a record is attached: the foreign key has the same value
afterwards. -/
def KeepsKey (relation : Relation) (r : Record) (turn : Record.Turn) : Prop :=
  (relation.attached? r).isSome → (relation.value (r.after turn)).same (relation.value r) = true

/-- **What is read through a relation is what the record refers to**, when the lookup is
answered fairly. -/
theorem joins_of_reads (hm : r.model.Declared) (hfound : relation.FoundBy r.model name)
    (htell : (Select.ofModel relation.related).LabelsTell) (hfair : relation.Fair r servers)
    {other : Record} (hreads : r.Reads relation servers other) : relation.Joins r other := by
  obtain ⟨hfree, hrefers, hread⟩ := hreads
  obtain ⟨hkeeps, hanswers⟩ := hfair hfree hrefers
  obtain ⟨hkey, _, -, _, -, -, hrelation⟩ := hfound.refers hm
  obtain ⟨f, hf, htarget⟩ := hkey.target
  rw [← htarget] at hkeeps hanswers hread
  obtain ⟨w, hw, hsame⟩ := fetched_has_value (hm.registered.related hrelation) htell hf hrefers
    hkeeps hanswers hread
  refine ⟨hrefers, w, ?_, hsame⟩
  rw [← htarget]
  exact hw

/-- **A record refers to the same record as before** exactly when its key has the same value. -/
theorem joins_iff_same {r' other : Record} (hjoins : relation.Joins r other) :
    relation.Joins r' other ↔ (relation.value r').same (relation.value r) = true := by
  obtain ⟨hrefers, w, hw, hsame⟩ := hjoins
  constructor
  · rintro ⟨-, w', hw', hsame'⟩
    obtain rfl := Option.some.inj (hw.symm.trans hw')
    exact Value.same_trans (Value.same_symm hsame') hsame
  · intro hkept
    exact ⟨(Value.isNull_eq_of_same hkept).trans hrefers, w, hw,
      Value.same_trans hsame (Value.same_symm hkept)⟩

/-- What is attached stays attached: a relation is read only where nothing is. -/
theorem attached?_after {other : Record} (h : relation.attached? r = some other)
    (turn : Record.Turn) : relation.attached? (r.after turn) = some other := by
  unfold attached? at h ⊢
  rcases r.after_cases turn with ⟨-, hrelated⟩ | ⟨name, relation', other', -, -, hreads, hafter⟩
  · unfold Record.related? at h ⊢
    rw [hrelated]
    exact h
  · have hname : relation.key.relatedName ≠ relation'.key.relatedName := by
      intro hname
      rw [hname, show r.related? relation'.key.relatedName = none from hreads.free] at h
      cases h
    rw [hafter, Record.keep_related?, if_neg hname]
    exact h

/-- What a turn attaches was read through the relation, when related names are apart. -/
theorem read_of_attached?_after (hm : r.model.Declared) (hapart : r.model.NamesApart)
    (hfound : relation.FoundBy r.model name) (hfree : relation.attached? r = none) {other : Record}
    (h : relation.attached? (r.after turn) = some other) :
    ∃ name, turn.1 = .fetchRelated name ∧ relation.FoundBy r.model name
      ∧ r.Reads relation turn.2 other ∧ r.after turn = r.keep relation.key.relatedName other := by
  unfold attached? at hfree h
  rcases r.after_cases turn with
    ⟨-, hrelated⟩ | ⟨name', relation', other', hop, hfound', hreads, hafter⟩
  · unfold Record.related? at hfree h
    rw [hrelated, hfree] at h
    cases h
  · rw [hafter, Record.keep_related?] at h
    split at h
    · next hname =>
        obtain rfl := hfound.eq_of_relatedName hfound' hm hapart hname.symm
        obtain rfl := Option.some.inj h
        exact ⟨name', hop, hfound', hreads, hafter⟩
    · rw [hfree] at h
      cases h

/-- **A record that was in step stays in step** through the turns that keep the key, and
through no others. -/
theorem inStep_after_iff (hm : r.model.Declared) (hapart : r.model.NamesApart)
    (hfound : relation.FoundBy r.model name) (htell : (Select.ofModel relation.related).LabelsTell)
    (hstep : relation.InStep r) (hfair : relation.FairTurn r turn) :
    relation.InStep (r.after turn) ↔ relation.KeepsKey r turn := by
  unfold KeepsKey
  cases hattached : relation.attached? r with
  | some other =>
      have hstays := attached?_after hattached turn
      rw [← joins_iff_same (hstep other hattached)]
      constructor
      · exact fun hafter _ => hafter other hstays
      · intro hkept other' hother'
        obtain rfl := Option.some.inj (hstays.symm.trans hother')
        exact hkept rfl
  | none =>
      refine iff_of_true (fun other hother => ?_) nofun
      obtain ⟨name', hop, hfound', hreads, hafter⟩ :=
        read_of_attached?_after hm hapart hfound hattached hother
      rw [hafter]
      exact joins_of_reads hm hfound' htell (hfair name' hop hfound') hreads

/-! ## §4. Runs. -/

/-- **Fetching through the relation is in step**: whatever it yields, when its lookup is
answered fairly, is what the record refers to.  So it yields nothing when the key is NULL. -/
def FetchesInStep (relation : Relation) (name : String) (r : Record) : Prop :=
  ∀ servers, relation.Fair r servers → ∀ yielded r',
    ((r.fetchRelated name).run servers).1 = .ok (yielded, r') →
      ∀ other ∈ yielded, relation.Joins r' other

/-- Fetching is in step exactly when the record is. -/
theorem fetchesInStep_iff (hm : r.model.Declared) (hfound : relation.FoundBy r.model name)
    (htell : (Select.ofModel relation.related).LabelsTell) :
    relation.FetchesInStep name r ↔ relation.InStep r := by
  constructor
  · intro hfetches other hattached
    have hfair : relation.Fair r Servers.initial := by
      intro hfree
      rw [hattached] at hfree
      cases hfree
    have hrun : ((r.fetchRelated name).run Servers.initial).1 = .ok (some other, r) := by
      rw [Record.fetchRelated_run hfound, hattached]
    exact hfetches _ hfair _ _ hrun other rfl
  · intro hstep servers hfair yielded r' hrun other hother
    cases Record.fetchRelated_ok hrun with
    | nothing => cases hother
    | attached found held =>
        obtain rfl := hfound.unique found
        obtain rfl := Option.some.inj hother
        exact hstep _ held
    | read found reads =>
        obtain rfl := hfound.unique found
        obtain rfl := Option.some.inj hother
        exact joins_of_reads hm hfound htell hfair reads

/-- **A run is fair** for the relation when every turn is. -/
def FairRun (relation : Relation) (r : Record) (turns : List Record.Turn) : Prop :=
  ∀ done turn, done ++ [turn] <+: turns → relation.FairTurn (r.afterAll done) turn

end

end Relation

/-- **Fetching stays in step exactly as long as the key is kept.**  A record of a declared
model, whose related names are apart, is assigned to, saved, refreshed and fetched through, in
any order and whatever the databases do, as long as they answer lookups through the relation
fairly; the labels of the related model tell its fields apart.  Then at every point of the run
what fetching yields is what the record refers to by then, and nothing when its key is NULL,
if and only if the record was in step to begin with and no turn gives the key another value
while a record is attached. -/
theorem fetched_in_step_iff_key_kept {m : Model} (hm : m.Declared) (hapart : m.NamesApart)
    {relation : Relation} {name : String} (hfound : relation.FoundBy m name)
    (htell : (Select.ofModel relation.related).LabelsTell) {r : Record} (hmodel : r.model = m)
    {turns : List Record.Turn} (hfair : relation.FairRun r turns) :
    (∀ done, done <+: turns → relation.FetchesInStep name (r.afterAll done))
      ↔ relation.InStep r
        ∧ ∀ done turn, done ++ [turn] <+: turns → relation.KeepsKey (r.afterAll done) turn := by
  have hmodels : ∀ done, (r.afterAll done).model = m := fun done =>
    (r.afterAll_model done).trans hmodel
  have hfetches : ∀ done, relation.FetchesInStep name (r.afterAll done)
      ↔ relation.InStep (r.afterAll done) := fun done =>
    Relation.fetchesInStep_iff (hmodels done ▸ hm) (hmodels done ▸ hfound) htell
  have hturn : ∀ {done turn}, done ++ [turn] <+: turns → relation.InStep (r.afterAll done) →
      (relation.InStep (r.afterAll (done ++ [turn]))
        ↔ relation.KeepsKey (r.afterAll done) turn) := by
    intro done turn hdone hstep
    rw [Record.afterAll_concat]
    exact Relation.inStep_after_iff (hmodels done ▸ hm) (hmodels done ▸ hapart)
      (hmodels done ▸ hfound) htell hstep (hfair done turn hdone)
  constructor
  · intro hall
    refine ⟨(hfetches []).1 (hall [] List.nil_prefix), fun done turn hdone => ?_⟩
    have hbefore := (hfetches done).1 (hall done ((List.prefix_append _ _).trans hdone))
    exact (hturn hdone hbefore).1 ((hfetches _).1 (hall _ hdone))
  · rintro ⟨hstart, hkept⟩ done hdone
    refine (hfetches done).2 ?_
    -- The induction is on how far the run has come.
    induction done using List.reverseRecOn with
    | nil => exact hstart
    | append_singleton done turn ih =>
        exact (hturn hdone (ih ((List.prefix_append _ _).trans hdone))).2 (hkept done turn hdone)

/-! ### A book that changes its author. -/

namespace Sample

theorem storedAuthor_declared : storedAuthor.Declared :=
  .mk (show storedAuthorPlan.build 0 = .ok storedAuthor from rfl) authorPlan_made
    fun _ h => nomatch h

/-- Books, with authors that are stored. -/
def storedBook : Model :=
  { book with relations := [("author_id", storedAuthor), ("editor_id", storedAuthor)] }

/-- A foreign key to an author who is stored, declared. -/
def storedAuthorKey (relatedName reverseName : String) (ordinal : Nat) : Definition :=
  { Definition.referring ordinal storedAuthor authorId with
    nullable := true
    reference := some ⟨storedAuthor, authorId.toAttribute, some relatedName, some reverseName⟩ }

/-- The declarations of a book with authors that are stored. -/
def storedBookPlan : Blueprint :=
  { bookPlan with
    fields := [("id", { Definition.ofKind 2 .integer with primary := true }),
      ("title", Definition.ofKind 3 (.varchar 80)),
      ("author_id", storedAuthorKey "author" "written" 4),
      ("editor_id", storedAuthorKey "editor" "edited" 5)] }

theorem storedBook_declared : storedBook.Declared := by
  have hkey : ∀ relatedName reverseName ordinal,
      (storedAuthorKey relatedName reverseName ordinal).Made :=
    fun relatedName reverseName ordinal =>
      .reverseName (.relatedName (.nullable (.source (.foreignKey storedAuthor) rfl) rfl)
        relatedName) reverseName
  refine .mk (show storedBookPlan.build 1 = .ok storedBook from rfl) ?_ ?_
  · exact List.forall_mem_cons.2 ⟨.primary (.source (.ofKind .integer) rfl) rfl,
      List.forall_mem_cons.2 ⟨.source (.ofKind (.varchar 80)) rfl,
        List.forall_mem_cons.2 ⟨hkey _ _ _, List.forall_mem_singleton.2 (hkey _ _ _)⟩⟩⟩
  · exact List.forall_mem_cons.2 ⟨storedAuthor_declared,
      List.forall_mem_singleton.2 storedAuthor_declared⟩

/-- The author of a book. -/
def itsAuthor : Relation :=
  ⟨bookAuthor, ⟨"Author", authorId.toAttribute, "author", "written"⟩, storedAuthor⟩

/-- A book by the author of number 7, who is not attached yet. -/
def bookBySeven : Record :=
  ⟨storedBook, [("id", int 1), ("title", text "Seas"), ("author_id", int 7)], [], true, []⟩

/-- Ann is fetched, who has the number 7. -/
def fetchAnn : Record.Turn :=
  (.fetchRelated "author", ⟨fun _ =>
    { Backend.new .generic with results := [.ok ⟨["id", "name"], [[int 7, text "Ann"]]⟩] }⟩)

/-- Ann is fetched, and then the book is given to the author of this number. -/
def fetchedThenGivenTo (v : Value) : List Record.Turn :=
  [fetchAnn, (.set "author_id" v, Servers.initial)]

theorem fetchedThenGivenTo_turns {v : Value} {done : List Record.Turn} {turn : Record.Turn}
    (h : done ++ [turn] <+: fetchedThenGivenTo v) : (done = [] ∧ turn = fetchAnn)
      ∨ (done = [fetchAnn] ∧ turn = (.set "author_id" v, Servers.initial)) := by
  rcases done with _ | ⟨first, _ | ⟨second, done⟩⟩ <;> simp_all [fetchedThenGivenTo]

/-- The lookup of Ann is answered fairly. -/
theorem fetchedThenGivenTo_fair (v : Value) :
    itsAuthor.FairRun bookBySeven (fetchedThenGivenTo v) := by
  have hfetch : itsAuthor.Fair bookBySeven fetchAnn.2 := by
    refine fun _ _ => ⟨by decide +kernel, fun handle hdatabase row hrow => ?_⟩
    obtain rfl := List.mem_singleton.1 hrow
    have hcells : ∀ cell ∈ (Select.ofModel storedAuthor).outputFields.zip [int 7, text "Ann"],
        cell.1.toAttribute = authorId.toAttribute → cell.2.same (int 7) = true := by
      decide +kernel
    refine ⟨rfl, rfl, fun cell hcell htarget p hp => ?_⟩
    obtain rfl : int 7 = p := Except.ok.inj hp
    exact hcells cell hcell htarget
  intro done turn hdone name hop _
  obtain ⟨rfl, rfl⟩ | ⟨rfl, rfl⟩ := fetchedThenGivenTo_turns hdone
  · exact hfetch
  · cases hop

end Sample

open Sample in
/-- A book that is given to its author again goes on yielding Ann. -/
theorem same_author_fetched :
    itsAuthor.FetchesInStep "author" (bookBySeven.afterAll (fetchedThenGivenTo (text "7")))
      ∧ (itsAuthor.attached? (bookBySeven.afterAll (fetchedThenGivenTo (text "7")))).map
        (·.get? "name") = some (some (text "Ann")) := by
  have hiff := fetched_in_step_iff_key_kept storedBook_declared (by decide +kernel)
    (show itsAuthor.FoundBy storedBook "author" from rfl) (by decide +kernel) (r := bookBySeven) rfl
    (fetchedThenGivenTo_fair (text "7"))
  have hkept : ∀ done turn, done ++ [turn] <+: fetchedThenGivenTo (text "7") →
      itsAuthor.KeepsKey (bookBySeven.afterAll done) turn := by
    intro done turn hdone hattached
    obtain ⟨rfl, rfl⟩ | ⟨rfl, rfl⟩ := fetchedThenGivenTo_turns hdone
    · cases hattached
    · decide +kernel
  exact ⟨hiff.2 ⟨(fun _ h => nomatch h), hkept⟩ _ List.prefix_rfl, by decide +kernel⟩

open Sample in
/-- **Not everything that is fetched is what the record refers to**: a book that was given to
another author still yields Ann. -/
theorem not_every_fetch_in_step :
    ¬ ∀ m : Model, m.Declared → m.NamesApart → ∀ (relation : Relation) (name : String),
        relation.FoundBy m name → (Select.ofModel relation.related).LabelsTell →
        ∀ r : Record, r.model = m → relation.InStep r →
        ∀ turns, relation.FairRun r turns → relation.FetchesInStep name (r.afterAll turns) := by
  intro hall
  have hfetches := hall storedBook storedBook_declared (by decide +kernel) itsAuthor "author" rfl
    (by decide +kernel) bookBySeven rfl (fun _ h => nomatch h) _ (fetchedThenGivenTo_fair (int 8))
  have hann : (itsAuthor.attached? (bookBySeven.afterAll (fetchedThenGivenTo (int 8)))).map
      (·.get? "id") = some (some (int 7)) := by
    decide +kernel
  have hkey : itsAuthor.value (bookBySeven.afterAll (fetchedThenGivenTo (int 8))) = int 8 := by
    decide +kernel
  obtain ⟨ann, hattached, hnumber⟩ := Option.map_eq_some_iff.1 hann
  have hinstep := (Relation.fetchesInStep_iff storedBook_declared
    (show itsAuthor.FoundBy storedBook "author" from rfl) (by decide +kernel)).1 hfetches
  obtain ⟨-, w, hw, hsame⟩ := hinstep ann hattached
  rw [hkey] at hsame
  obtain rfl := Option.some.inj (hnumber.symm.trans hw)
  cases hsame

end RecordMapper
