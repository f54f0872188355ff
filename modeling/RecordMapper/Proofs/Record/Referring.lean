/-
  RecordMapper.Proofs.Record.Referring
  ────────────────────────────────
  **THE ROWS THAT REFER TO A RECORD.**

  The records that refer to one record are selected by its value of the field that their
  foreign key refers to.  A value that is not NULL is found where the column stores what is
  stored for it; but a record without that value asks for the rows whose foreign key is NULL,
  which refer to nothing.  So the select finds only rows that refer to the record as long as
  the record has the value, or the foreign key cannot be NULL; and as long as the column of
  the foreign key, which can be shorter than the one it refers to, keeps the value.

  Main results: `Select.byValue_refers_iff` and `reverse_refers_iff`.
-/
import RecordMapper.Proofs.Condition.Truth
import RecordMapper.Proofs.Record.Fetched
import RecordMapper.Proofs.Schema.Tended

namespace RecordMapper

/-! ## §1. What a row says to a select. -/

/-- **Values are equal**; what is NULL is not known to be equal to anything. -/
def Truth.equal (x y : Value) : Truth :=
  if x.isNull || y.isNull then .unknown else if x.same y then .holds else .fails

theorem Truth.equal_eq_holds {x y : Value} :
    Truth.equal x y = .holds ↔ x.isNull = false ∧ y.isNull = false ∧ x.same y = true := by
  unfold equal
  cases x.isNull <;> cases y.isNull <;> cases x.same y <;> simp

/-- **What a row says to a comparison.**  A test for NULL is always answered; equality with a
value asks whether the column is equal to what is stored for it.  `others` answers the other
comparisons. -/
def Comparison.truth (others : Comparison → Truth) (row : Row) (c : Comparison) : Truth :=
  match c.op, c.operand with
  | .isNull, _ => if (row c.field.column).isNull then .holds else .fails
  | .eq, .value v => (c.field.toStorage v).toOption.elim .unknown (Truth.equal (row c.field.column))
  | _, _ => others c

/-- **A row meets the condition of a select**: all its conditions hold together. -/
def Select.Meets (q : Select) (others : Comparison → Truth) (row : Row) : Prop :=
  Truth.all (Condition.values
    (fun k => ((Condition.leavesOfAll q.filter)[k]?.map (Comparison.truth others row)).getD .unknown)
    0 q.filter) = .holds

/-- **A row that the table of a model can have**: no NULL stands where none may stand. -/
def Model.Admits (m : Model) (row : Row) : Prop :=
  ∀ f ∈ m.fields, f.nullable = false → (row f.column).isNull = false

/-- **What is stored for a value** that is not NULL is what is stored for its application form. -/
theorem Attribute.stored_ok {a : Attribute} {v p : Value} (hv : v.isNull = false)
    (hp : a.toStorage v = .ok p) :
    ∃ held, a.kind.Own held ∧ a.kind.toApplication v = .ok held ∧ p = a.kind.stored held := by
  have hkind : a.kind.toStorage v = .ok p := Attribute.blame_ok.1 hp
  rw [Kind.toStorage_eq_map hv] at hkind
  obtain ⟨held, hheld, rfl⟩ := map_ok.1 hkind
  exact ⟨held, Kind.own_of_convert ((Kind.toApplication_of_not_null hv).symm.trans hheld), hheld, rfl⟩

namespace Select

variable {m : Model} {a : Attribute} {v : Value} {others : Comparison → Truth} {row : Row}

/-- One comparison is met when it holds. -/
theorem byValue_meets : (byValue m a v).Meets others row
    ↔ Comparison.truth others row ⟨a, Condition.effective .eq (.value v), .value v⟩ = .holds := by
  show Truth.all [_] = _ ↔ _
  rw [Truth.all_singleton]
  rfl

/-- **A lookup by NULL** is met where the column is NULL. -/
theorem byNull_meets (hv : v.isNull = true) :
    (byValue m a v).Meets others row ↔ (row a.column).isNull = true := by
  have heffective : Condition.effective .eq (.value v) = .isNull := if_pos hv
  rw [byValue_meets, heffective]
  show (if _ then _ else _) = _ ↔ _
  cases (row a.column).isNull <;> simp

/-- **A lookup by any other value** is met where the column is the same as what is stored. -/
theorem byKnown_meets (hv : v.isNull = false) : (byValue m a v).Meets others row
    ↔ ∃ p, a.toStorage v = .ok p ∧ (row a.column).isNull = false
      ∧ (row a.column).same p = true := by
  have heffective : Condition.effective .eq (.value v) = .eq := by
    show (if v.isNull = true then _ else _) = _
    rw [hv]
    rfl
  rw [byValue_meets, heffective]
  show (a.toStorage v).toOption.elim .unknown (Truth.equal (row a.column)) = .holds ↔ _
  cases hstored : a.toStorage v with
  | error failure => simp [Except.toOption]
  | ok p =>
      obtain ⟨b, hown, -, rfl⟩ := Attribute.stored_ok hv hstored
      show Truth.equal _ _ = .holds ↔ _
      rw [Truth.equal_eq_holds]
      simp [hown.stored_not_null]

end Select

/-! ## §2. Rows that have the value of a lookup. -/

/-- **A column tells a value**: what it stores for the value stands for that value alone, if it
is equal to anything at all, which only not-a-number is not. -/
def Attribute.Tells (a : Attribute) (v : Value) : Prop :=
  ∀ p ∈ (a.toStorage v).toOption, p.same p = true → a.Keeps v

instance (a : Attribute) (v : Value) : Decidable (a.Tells v) :=
  inferInstanceAs (Decidable (∀ p ∈ (a.toStorage v).toOption, p.same p = true → a.Keeps v))

/-- **A row has a value in a column**: it is not NULL there, and reads as the value. -/
def Row.Has (row : Row) (a : Attribute) (v : Value) : Prop :=
  (row a.column).isNull = false ∧ ∃ w, a.toApplication (row a.column) = .ok w ∧ w.same v = true

/-- What is the same as what is stored for a value can be read. -/
theorem Kind.Own.reads_of_same {kind : Kind} {b x : Value} (h : kind.Own b)
    (hx : x.same (kind.stored b) = true) : ∃ w, kind.toApplication x = .ok w := by
  obtain ⟨-, hnull⟩ | ⟨y, z, rfl, hz, -⟩ | ⟨rfl, -, -⟩ := Value.same_iff.1 hx
  · exact absurd (hnull.symm.trans h.stored_not_null) nofun
  · cases h with
    | float => exact ⟨_, (Kind.Own.float y).toApplication⟩
    | _ => cases hz
  · exact ⟨_, h.toApplication_stored⟩

/-- A row that stores one value in the column of a field, and no NULL elsewhere. -/
def Row.storing (f : Field) (x : Value) : Row := fun column =>
  if column = f.column then x else .boolean (some true)

theorem Row.storing_self (f : Field) (x : Value) : Row.storing f x f.column = x := if_pos rfl

/-- The table has such a row, unless the value is a NULL that may not stand there. -/
theorem Model.admits_storing {m : Model} (hm : m.Registered) {f : Field} (hf : f ∈ m.fields)
    {x : Value} (hx : f.nullable = false → x.isNull = false) : m.Admits (Row.storing f x) := by
  intro g hg hnullable
  by_cases hcolumn : g.column = f.column
  · obtain rfl : g = f := List.inj_on_of_nodup_map hm.columns_nodup hg hf hcolumn
    rw [Row.storing_self]
    exact hx hnullable
  · show (if g.column = f.column then x else _).isNull = false
    rw [if_neg hcolumn]
    rfl

namespace Select

variable {m : Model} {f : Field} {v : Value}

/-- **A lookup by NULL finds only rows that have the value**, which none has, exactly when the
field cannot be NULL. -/
theorem byNull_refers_iff (hm : m.Registered) (hf : f ∈ m.fields) (hv : v.isNull = true) :
    (∀ others row, m.Admits row → (byValue m f.toAttribute v).Meets others row →
        row.Has f.toAttribute v) ↔ f.nullable = false := by
  constructor
  · intro hall
    refine Bool.eq_false_iff.2 fun hnullable => ?_
    -- A row whose field is NULL is found, and has no value there.
    have hadmits : m.Admits (Row.storing f .null) := by
      refine Model.admits_storing hm hf fun hnot => ?_
      rw [hnullable] at hnot
      cases hnot
    have hcell : Row.storing f .null f.toAttribute.column = .null := Row.storing_self f _
    have hmeets : (byValue m f.toAttribute v).Meets (fun _ => .unknown) (Row.storing f .null) := by
      rw [byNull_meets hv, hcell]
      rfl
    have hhas := (hall _ _ hadmits hmeets).1
    rw [hcell] at hhas
    cases hhas
  · intro hnullable others row hadmits hmeets
    have hnull := (byNull_meets hv).1 hmeets
    rw [show (row f.toAttribute.column).isNull = false from hadmits f hf hnullable] at hnull
    cases hnull

/-- **A lookup by any other value finds only rows that have it** exactly when the column tells
it. -/
theorem byKnown_refers_iff (hm : m.Registered) (hf : f ∈ m.fields) (hv : v.isNull = false) :
    (∀ others row, m.Admits row → (byValue m f.toAttribute v).Meets others row →
        row.Has f.toAttribute v) ↔ f.toAttribute.Tells v := by
  constructor
  · intro hall p hp hself
    have hstored : f.toAttribute.toStorage v = .ok p := by
      cases hout : f.toAttribute.toStorage v <;> rw [hout] at hp <;> cases hp
      rfl
    obtain ⟨held, hown, hheld, rfl⟩ := Attribute.stored_ok hv hstored
    -- The row that stores what is stored for the value is found.
    have hcell : Row.storing f (f.kind.stored held) f.toAttribute.column = f.kind.stored held :=
      Row.storing_self f _
    have hmeets : (byValue m f.toAttribute v).Meets (fun _ => .unknown)
        (Row.storing f (f.kind.stored held)) := by
      rw [byKnown_meets hv, hcell]
      exact ⟨_, hstored, hown.stored_not_null, hself⟩
    obtain ⟨-, w, hw, hsame⟩ :=
      hall _ _ (Model.admits_storing hm hf fun _ => hown.stored_not_null) hmeets
    rw [hcell] at hw
    -- It reads as the value as far as the column keeps it.
    have hfit : w = f.kind.fit held :=
      Except.ok.inj ((Attribute.blame_ok.1 hw).symm.trans hown.toApplication_stored)
    refine .inr fun held' hheld' => ?_
    rw [show f.toAttribute.kind.toApplication v = .ok held from hheld] at hheld'
    obtain rfl := Option.some.inj hheld'
    rwa [hfit] at hsame
  · intro htells others row _ hmeets
    obtain ⟨p, hp, hnull, hsame⟩ := (byKnown_meets hv).1 hmeets
    have hself : p.same p = true := Value.same_trans (Value.same_symm hsame) hsame
    have hkeeps := htells p (by rw [hp]; rfl) hself
    obtain ⟨held, hown, -, rfl⟩ := Attribute.stored_ok hv hp
    obtain ⟨w, hw⟩ := hown.reads_of_same hsame
    exact ⟨hnull, w, Attribute.blame_ok.2 hw, hkeeps.reads hv hp hsame (Attribute.blame_ok.2 hw)⟩

/-- **The rows that a lookup by value finds have the value** exactly when the value is not NULL
or the field cannot be NULL, and the column tells the value. -/
theorem byValue_refers_iff (hm : m.Registered) (hf : f ∈ m.fields) (v : Value) :
    (∀ others row, m.Admits row → (byValue m f.toAttribute v).Meets others row →
        row.Has f.toAttribute v)
      ↔ (v.isNull = true → f.nullable = false) ∧ (v.isNull = false → f.toAttribute.Tells v) := by
  cases hv : v.isNull with
  | true =>
      rw [byNull_refers_iff hm hf hv]
      simp
  | false =>
      rw [byKnown_refers_iff hm hf hv]
      simp

end Select

/-! ## §3. The foreign key of an accessor. -/

/-- The foreign key has this reverse name on models of this name. -/
def ForeignKey.Answers (key : ForeignKey) (other accessor : String) : Prop :=
  key.reverseName = accessor ∧ key.model = other

/-- **The foreign key of an accessor**: the first of the model that has this reverse name on
models of that name. -/
structure Model.KeyUnder (m : Model) (other accessor : String) (f : Field) (key : ForeignKey) :
    Prop where
  key_eq : f.foreignKey = some key
  answers : key.Answers other accessor
  first : ∃ before after, m.fields = before ++ f :: after
    ∧ ∀ g ∈ before, ∀ k, g.foreignKey = some k → ¬ k.Answers other accessor

/-- The foreign key of an accessor, looked up. -/
def Model.keyUnder? (m : Model) (other accessor : String) : Option (Field × ForeignKey) :=
  m.fields.findSome? fun f =>
    (f.foreignKey.filter fun key => key.reverseName == accessor && key.model == other).map (f, ·)

namespace Model

variable {m : Model} {other accessor : String} {f : Field} {key : ForeignKey}

theorem KeyUnder.mem (h : m.KeyUnder other accessor f key) : f ∈ m.fields := by
  obtain ⟨before, after, hfields, -⟩ := h.first
  rw [hfields]
  simp

/-- **What is looked up** is the foreign key of the accessor. -/
theorem keyUnder?_eq_some : m.keyUnder? other accessor = some (f, key) ↔ m.KeyUnder other accessor f key := by
  have hkey : ∀ {g h : Field} {k : ForeignKey},
      (g.foreignKey.filter fun key => key.reverseName == accessor && key.model == other).map (g, ·)
        = some (h, k) ↔ g = h ∧ g.foreignKey = some k ∧ k.Answers other accessor := by
    intro g h k
    rw [Option.map_eq_some_iff]
    simp only [Option.filter_eq_some_iff, Bool.and_eq_true, beq_iff_eq, Prod.mk.injEq]
    constructor
    · rintro ⟨k', ⟨hk, hanswers⟩, rfl, rfl⟩
      exact ⟨rfl, hk, hanswers⟩
    · rintro ⟨rfl, hk, hanswers⟩
      exact ⟨k, ⟨hk, hanswers⟩, rfl, rfl⟩
  unfold keyUnder?
  rw [List.findSome?_eq_some_iff]
  constructor
  · rintro ⟨before, g, after, hfields, hg, hbefore⟩
    obtain ⟨rfl, hg, hanswers⟩ := hkey.1 hg
    refine ⟨hg, hanswers, before, after, hfields, fun g' hg' k hk hk' => ?_⟩
    exact absurd ((hkey.2 ⟨rfl, hk, hk'⟩).symm.trans (hbefore g' hg')) nofun
  · rintro ⟨hf, hanswers, before, after, hfields, hbefore⟩
    refine ⟨before, f, after, hfields, hkey.2 ⟨rfl, hf, hanswers⟩, fun g hg => ?_⟩
    refine Option.eq_none_iff_forall_ne_some.2 fun ⟨g', k⟩ hfound => ?_
    obtain ⟨-, hk, hk'⟩ := hkey.1 hfound
    exact hbefore g hg k hk hk'

/-- A model that links to another one under a name has a foreign key for it. -/
theorem LinksAs.keyUnder {related : Model} (h : m.LinksAs related accessor) :
    ∃ f key, m.KeyUnder related.name accessor f key := by
  obtain ⟨f, hf, key, hkey, hmodel, haccessor⟩ := h
  have hsome : (m.keyUnder? related.name accessor).isSome = true := by
    refine List.findSome?_isSome_iff.2 ⟨f, hf, ?_⟩
    simp [hkey, hmodel, haccessor]
  obtain ⟨⟨f, key⟩, hfound⟩ := Option.isSome_iff_exists.1 hsome
  exact ⟨f, key, keyUnder?_eq_some.1 hfound⟩

end Model

/-- **It refers to a field** of a live model of that name. -/
theorem Catalog.Coherent.keyUnder_refers {c : Catalog} (h : c.Coherent) {owner : Model}
    (howner : owner ∈ c.live) {other accessor : String} {f : Field} {key : ForeignKey}
    (hkey : owner.KeyUnder other accessor f key) :
    ∃ related ∈ c.live, related.name = other ∧ owner.Refers related f key := by
  have hdeclared := h.declared owner howner
  obtain ⟨related, hrelation⟩ := hdeclared.relation_of_key hkey.mem hkey.key_eq
  obtain ⟨field, key', hfield, hrefers⟩ := hdeclared.refers hrelation
  rw [Model.field?_name hdeclared.registered.fieldNames_nodup hkey.mem] at hfield
  obtain rfl := Option.some.inj hfield
  obtain rfl := Option.some.inj (hkey.key_eq.symm.trans hrefers.key_eq)
  exact ⟨related, h.closed owner howner _ hrelation, hrefers.model_eq.symm.trans hkey.answers.2,
    hrefers⟩

/-! ## §4. Reverse selects. -/

namespace Record

variable {r : Record} {key : ForeignKey} {f : Field} {row : Row}

/-- The value of the record that a foreign key refers to, NULL when it was never assigned. -/
def valueFor (r : Record) (key : ForeignKey) : Value :=
  (r.get? key.target.name).getD .null

/-- **A row refers to the record** by a foreign key, which is not NULL and reads as the value
that the record has in the field that is referred to. -/
def ReferredToBy (r : Record) (f : Field) (key : ForeignKey) (row : Row) : Prop :=
  ∃ v, r.get? key.target.name = some v ∧ row.Has f.toAttribute v

/-- No row has NULL for a value. -/
theorem referredToBy_iff : r.ReferredToBy f key row ↔ row.Has f.toAttribute (r.valueFor key) := by
  unfold ReferredToBy valueFor
  cases r.get? key.target.name with
  | some v => simp
  | none =>
      refine iff_of_false (by rintro ⟨v, hv, -⟩; cases hv) ?_
      rintro ⟨hnull, w, hw, hsame⟩
      have hconvert : f.kind.toApplication (row f.column) = .ok w := Attribute.blame_ok.1 hw
      rw [Kind.toApplication_of_not_null hnull] at hconvert
      have hw := (Kind.own_of_convert hconvert).not_null
      obtain ⟨hnull, -⟩ | ⟨_, _, -, hnone, -⟩ | ⟨rfl, -, -⟩ := Value.same_iff.1 hsame
      · exact absurd (hnull.symm.trans hw) nofun
      · cases hnone
      · cases hw

/-- **The reverse select** is a lookup by the value of the record. -/
theorem reverse_ok {c : Catalog} {accessor : String} {owner : Model}
    (howner : Keyed.get? (c.reverseRelations r.model) accessor = some owner)
    (hkey : owner.KeyUnder r.model.name accessor f key) :
    r.reverse c accessor = .ok (Select.byValue owner f.toAttribute (r.valueFor key)) := by
  have hfound : owner.keyUnder? r.model.name accessor = some (f, key) :=
    Model.keyUnder?_eq_some.2 hkey
  unfold Model.keyUnder? at hfound
  simp only [reverse, howner, hfound]
  rfl

end Record

/-- **What a reverse select finds.**  Under every accessor that a model has, in whatever catalog,
each of its records has a reverse select.  That is a lookup by the first foreign key of the
accessor: its statement compares the column with what is stored for the value of the record, or
tests it for NULL when the record has no value.  And all rows that it finds refer to the record
exactly when the record has the value or the foreign key cannot be NULL, and the column of the
foreign key tells the value. -/
theorem reverse_refers_iff {c : Catalog} (hc : c.Tended) {r : Record} (hr : r.model ∈ c.live)
    {accessor : String} {owner : Model} (howner : (accessor, owner) ∈ c.reverseRelations r.model) :
    ∃ f key, owner.KeyUnder r.model.name accessor f key
      ∧ (∃ related ∈ c.live, related.name = r.model.name ∧ owner.Refers related f key)
      ∧ ∃ q, r.reverse c accessor = .ok q ∧ q.model = owner
        ∧ (∀ d st, q.statement d = .ok st →
          ((r.valueFor key).isNull = true → q.TestsNull d st f.toAttribute)
            ∧ ((r.valueFor key).isNull = false → ∃ p,
              f.toAttribute.toStorage (r.valueFor key) = .ok p ∧ q.ComparesWith d st f.toAttribute p))
        ∧ ((∀ others row, owner.Admits row → q.Meets others row → r.ReferredToBy f key row)
          ↔ ((r.valueFor key).isNull = true → f.nullable = false)
            ∧ ((r.valueFor key).isNull = false → f.toAttribute.Tells (r.valueFor key))) := by
  have h := hc.coherent
  obtain ⟨hlive, hlinks⟩ := h.linksAs_of_reverse hr howner
  obtain ⟨f, key, hkey⟩ := hlinks.keyUnder
  have hget := (Keyed.get?_eq_some_iff (h.keys_nodup r.model)).2 howner
  have hfilter : Condition.compare f.toAttribute .eq (.value (r.valueFor key))
      ∈ (Select.byValue owner f.toAttribute (r.valueFor key)).filter := List.mem_cons_self
  refine ⟨f, key, hkey, h.keyUnder_refers hlive hkey, _, Record.reverse_ok hget hkey, rfl,
    fun d st hst => ⟨fun hnull => Select.testsNull_ok hst hnull hfilter,
      fun hnull => Select.comparesWith_ok hst hnull hfilter⟩, ?_⟩
  simp only [Record.referredToBy_iff]
  exact Select.byValue_refers_iff (h.declared owner hlive).registered hkey.mem _

namespace Sample

/-- What the foreign key of a book refers to. -/
def writtenKey : ForeignKey := ⟨"Author", authorId.toAttribute, "author", "written"⟩

theorem bookAuthor_keyUnder : book.KeyUnder "Author" "written" bookAuthor writtenKey :=
  Model.keyUnder?_eq_some.1 rfl

/-- An author that was stored, under the key seven. -/
def seventhAuthor : Record := ⟨author, [("id", int 7), ("name", text "Ann")], [], false, []⟩

/-- An author that was not stored yet and has no key. -/
def newAuthor : Record := ⟨author, [("name", text "Ann")], [], true, []⟩

theorem author_live : author ∈ authorsAndBooks.live :=
  List.mem_cons_self

theorem author_written : ("written", book) ∈ authorsAndBooks.reverseRelations author :=
  List.mem_cons_self

/-- The books that an author has written are looked up by the key of the author. -/
theorem reverse_written {r : Record} (hr : r.model = author) :
    r.reverse authorsAndBooks "written"
      = .ok (Select.byValue book bookAuthor.toAttribute (r.valueFor writtenKey)) := by
  have hnodup := authorsAndBooks_filled.tended.coherent.keys_nodup r.model
  refine Record.reverse_ok ((Keyed.get?_eq_some_iff hnodup).2 ?_) ?_
  · rw [hr]
    exact author_written
  · rw [hr]
    exact bookAuthor_keyUnder

end Sample

open Sample in
/-- The books of an author that was stored are found, and refer to the author. -/
theorem stored_author_reverse :
    ∃ q, seventhAuthor.reverse authorsAndBooks "written" = .ok q
      ∧ q.Meets (fun _ => .unknown) (Row.storing bookAuthor (int 7))
      ∧ ∀ others row, book.Admits row → q.Meets others row →
        seventhAuthor.ReferredToBy bookAuthor writtenKey row := by
  obtain ⟨f, key, hkey, -, q, hq, -, -, hiff⟩ :=
    reverse_refers_iff authorsAndBooks_filled.tended (r := seventhAuthor) author_live author_written
  have hfound := Model.keyUnder?_eq_some.2 hkey
  obtain ⟨rfl, rfl⟩ : f = bookAuthor ∧ key = writtenKey := Prod.mk.inj
    (Option.some.inj (hfound.symm.trans (Model.keyUnder?_eq_some.2 bookAuthor_keyUnder)))
  have hvalue : seventhAuthor.valueFor writtenKey = int 7 := rfl
  rw [hvalue] at hiff
  refine ⟨q, hq, ?_, hiff.2 ⟨nofun, fun _ => by decide +kernel⟩⟩
  rw [Except.ok.inj (hq.symm.trans (reverse_written rfl)), hvalue, Select.byKnown_meets rfl]
  exact ⟨int 7, rfl, rfl, rfl⟩

open Sample in
/-- **A new author asks for the books of nobody.**  An author that was given no key yet has a
reverse select, and a book without an author is found by it, which does not refer to the
author. -/
theorem orphan_found_by_new_author :
    authorsAndBooks.Tended ∧ author ∈ authorsAndBooks.live
      ∧ ("written", book) ∈ authorsAndBooks.reverseRelations author
      ∧ Record.new author [("name", text "Ann")] = .ok newAuthor
      ∧ ∃ q, newAuthor.reverse authorsAndBooks "written" = .ok q
        ∧ ∃ row, book.Admits row ∧ q.Meets (fun _ => .unknown) row
          ∧ ¬ newAuthor.ReferredToBy bookAuthor writtenKey row := by
  refine ⟨authorsAndBooks_filled.tended, author_live, author_written, rfl,
    _, reverse_written rfl, Row.storing bookAuthor .null, ?_, ?_, ?_⟩
  · exact Model.admits_storing book_declared.registered (by decide) nofun
  · exact (Select.byNull_meets rfl).2 rfl
  · rintro ⟨v, hv, -⟩
    cases hv

end RecordMapper
