/-
  RecordMapper.Proofs.Statement.Assigned
  ────────────────────────────────
  **ONE VALUE, INSERTED AND ASSIGNED.**

  A value reaches the column of its field in two ways.  An insert takes it in its
  application form, among the defaults of the model, and stores that form when it is
  rendered; an update stores the value as it came.

  Both statements write one cell for the column (`BindsOnce`).  What the cells bind
  comes down to one question about the kind of the field: is the application form
  stored as the value itself is?  Only a text that stands for NULL is not.

  Main result: `insert_and_update_bind_alike_iff`.
-/
import Mathlib.Data.List.Nodup
import RecordMapper.Proofs.Ordered
import RecordMapper.Proofs.Sample
import RecordMapper.Proofs.Schema.Forms
import RecordMapper.Proofs.Schema.Invariant
import RecordMapper.Proofs.Statement.Rendering

namespace RecordMapper

/-! ## §1. Cells of a statement. -/

/-- **One cell is for the column** of the field, and it binds `p`. -/
def BindsOnce (cells : List (Field × Value)) (f : Field) (p : Value) : Prop :=
  cells.filter (·.1.column == f.column) = [(f, p)]

/-- **An insert binds a value for a field**: its statement has the columns of some cells and
a placeholder for each, the parameters are theirs, and one cell is for the field. -/
def Insert.Binds (q : Insert) (d : Dialect) (f : Field) (p : Value) : Prop :=
  ∃ cells : List (Field × Value), BindsOnce cells f p
    ∧ q.statement d = .ok ⟨d.insertWithKey q.model.table (columnsSql (cells.map (·.1)))
        (valuesSql d cells.length) q.model.primaryKey.column, cells.map (·.2)⟩

/-- **An update binds a value for a field**: its statement assigns to the columns of some
cells, whose parameters come before those of the condition, and one cell is for the field. -/
def Update.Binds (q : Update) (d : Dialect) (f : Field) (p : Value) : Prop :=
  ∃ (cells : List (Field × Value)) (condition : Statement), BindsOnce cells f p
    ∧ q.statement d = .ok ⟨Dialect.update q.model.table (assignmentsSql d (cells.map (·.1)))
        condition.sql, cells.map (·.2) ++ condition.parameters⟩

/-- **Stored cells** stand for the cells that they were stored for: one is for a column exactly
when one was, and binds what is stored for its value. -/
theorem bindsOnce_of_stored {f : Field} {v p : Value} (hp : f.toStorage v = .ok p) :
    ∀ {cells : List (Field × Value)} {ps : List Value},
      cells.mapM (fun (field, v) => field.toStorage v) = .ok ps →
      BindsOnce cells f v → BindsOnce ((cells.map (·.1)).zip ps) f p := by
  unfold BindsOnce
  -- A cell for another column is passed over on both sides; the cell for this column is
  -- the only one, so that none is left behind it.
  have hnone : ∀ {cells : List (Field × Value)} {ps : List Value},
      cells.filter (·.1.column == f.column) = [] →
      ((cells.map (·.1)).zip ps).filter (·.1.column == f.column) = [] := by
    intro cells ps h
    rw [List.filter_eq_nil_iff] at h ⊢
    intro cell hcell
    obtain ⟨before, hbefore, hfield⟩ := List.mem_map.1 (List.of_mem_zip hcell).1
    rw [← hfield]
    exact h before hbefore
  intro cells
  induction cells with
  | nil =>
      intro ps _ h
      cases h
  | cons cell cells ih =>
      intro ps hps h
      obtain ⟨y, rest, hy, hrest, rfl⟩ := mapM_cons_ok.1 hps
      show ((cell.1, y) :: (cells.map (·.1)).zip rest).filter _ = _
      by_cases hcolumn : cell.1.column = f.column
      · rw [List.filter_cons_of_pos (by simpa using hcolumn)] at h ⊢
        obtain ⟨rfl, hothers⟩ := List.cons.inj h
        obtain rfl := Except.ok.inj (hp.symm.trans hy)
        rw [hnone hothers]
      · rw [List.filter_cons_of_neg (by simpa using hcolumn)] at h ⊢
        exact ih hrest h

/-! ## §2. The row of an insert. -/

/-- **A value that is kept under a key** is the only one there, when keys are distinct. -/
theorem Keyed.filter_key {α : Type} {key : String} {value : α} :
    ∀ {l : Keyed α}, l.keys.Nodup → l.get? key = some value →
      l.filter (·.1 == key) = [(key, value)]
  | [], _, hvalue => by simp [get?] at hvalue
  | (k, v) :: rest, hkeys, hvalue => by
      obtain ⟨hnew, hrest⟩ := List.nodup_cons.1 (show (k :: keys rest).Nodup from hkeys)
      by_cases hk : k = key
      · subst hk
        have hnone : rest.filter (·.1 == k) = [] := by
          rw [List.filter_eq_nil_iff]
          intro p hp
          have hne : p.1 ≠ k := fun hsame => hnew (hsame ▸ List.mem_map_of_mem hp)
          simpa using hne
        have hsame : v = value := by simpa [get?] using hvalue
        rw [List.filter_cons_of_pos (by simp), hnone, hsame]
      · rw [List.filter_cons_of_neg (by simpa using hk)]
        exact filter_key hrest (by simpa [get?, hk] using hvalue)

namespace Model

variable {m : Model}

/-- Fields of one column are one field. -/
theorem Registered.eq_of_column (h : m.Registered) {f g : Field} (hf : f ∈ m.fields)
    (hg : g ∈ m.fields) (hcolumn : f.column = g.column) : f = g :=
  List.inj_on_of_nodup_map h.columns_nodup hf hg hcolumn

/-- A default is kept under the name of a field. -/
theorem mem_keys_defaults {k : String} (h : k ∈ m.defaults.keys) : ∃ g ∈ m.fields, g.name = k := by
  obtain ⟨⟨name, v⟩, hmem, rfl⟩ := List.mem_map.1 h
  obtain ⟨g, hg, hdefault⟩ := List.mem_filterMap.1 hmem
  obtain ⟨w, _, hpair⟩ := Option.map_eq_some_iff.1 hdefault
  exact ⟨g, hg, congrArg Prod.fst hpair⟩

end Model

namespace Insert

variable {m : Model} {f : Field} {v : Value} {values : Keyed Value}

/-- **The cell of a field** that is kept once: it is written when it is not NULL or may be. -/
theorem bindsOnce_written (hm : m.Registered) (hf : f ∈ m.fields)
    (hkeys : ∀ k ∈ values.keys, ∃ g ∈ m.fields, g.name = k)
    (honce : values.filter (·.1 == f.name) = [(f.name, v)])
    (hv : v.isNull = false ∨ f.nullable = true) : BindsOnce (written m values) f v := by
  have hsorted : (sortedByKey values).filter (·.1 == f.name) = [(f.name, v)] := by
    unfold sortedByKey
    rw [filter_sorted, honce]
    -- Two pairs of this name may stand in either order.
    intro a b ha hb
    rw [beq_iff_eq.1 ha, beq_iff_eq.1 hb]
    simp
  have hname := Model.field?_name hm.fieldNames_nodup hf
  -- A field has the column of `f` exactly when it has its name.
  have hcells : ∀ cell ∈ sortedByKey values,
      ((m.field? cell.1).bind fun field =>
          if !cell.2.isNull || field.nullable then some (field, cell.2) else none).filter
        (·.1.column == f.column)
      = if (cell.1 == f.name) = true then
          (m.field? cell.1).bind fun field =>
            if !cell.2.isNull || field.nullable then some (field, cell.2) else none
        else none := by
    intro cell hcell
    have hmem : cell.1 ∈ values.keys :=
      List.mem_map_of_mem ((sorted_perm _ values).mem_iff.1 hcell)
    obtain ⟨g, hg, hgname⟩ := hkeys cell.1 hmem
    rw [← hgname, Model.field?_name hm.fieldNames_nodup hg, Option.bind_some]
    by_cases hsame : g.name = f.name
    · obtain rfl := Model.eq_of_name hm.fieldNames_nodup hg hf hsame
      split <;> simp
    · have hcolumn : g.column ≠ f.column := fun h => hsame (hm.eq_of_column hg hf h ▸ rfl)
      split <;> simp [hsame, hcolumn]
  unfold BindsOnce written
  rw [List.filter_filterMap, List.filterMap_congr hcells, ← List.filterMap_filter, hsorted]
  have hkept : (!v.isNull || f.nullable) = true := by
    rcases hv with hv | hv <;> simp [hv]
  refine List.filterMap_cons_some ?_
  rw [hname, Option.bind_some, if_pos hkept]

/-- **Setting one value** puts its application form among the defaults. -/
theorem set_one_iff {name : String} (hf : m.field? name = some f) {q : Insert} :
    (Insert.new m).set [(name, v)] = .ok q
      ↔ ∃ w, f.toApplication v = .ok w ∧ q = ⟨m, .row (m.defaults.put f.name w)⟩ := by
  have hmerge : merge m m.defaults [(name, v)]
      = (f.toApplication v).bind fun w => .ok (m.defaults.put f.name w) := by
    simp only [merge, hf]
    rfl
  show (merge m m.defaults [(name, v)] >>= _) = _ ↔ _
  rw [bind_ok, hmerge]
  constructor
  · rintro ⟨values, hvalues, hq⟩
    obtain ⟨w, hw, hvalues⟩ := bind_ok.1 hvalues
    obtain rfl := Except.ok.inj hvalues
    exact ⟨w, hw, (pure_ok.1 hq).symm⟩
  · rintro ⟨w, hw, rfl⟩
    exact ⟨_, bind_ok.2 ⟨w, hw, rfl⟩, rfl⟩

/-- **The statement of an insert** of one row has the columns of some cells and binds theirs;
what is bound for a cell is what is stored for its value. -/
theorem statement_row {d : Dialect} {st : Statement}
    (hst : (⟨m, .row values⟩ : Insert).statement d = .ok st) :
    ∃ ps, (written m values).mapM (fun (field, v) => field.toStorage v) = .ok ps
      ∧ st = ⟨d.insertWithKey m.table (columnsSql ((((written m values).map (·.1)).zip ps).map (·.1)))
          (valuesSql d (((written m values).map (·.1)).zip ps).length) m.primaryKey.column,
        (((written m values).map (·.1)).zip ps).map (·.2)⟩ := by
  obtain ⟨hps, hsql⟩ := insert_row_ok rfl hst
  have hlength := length_mapM_ok hps
  refine ⟨st.parameters, hps, ?_⟩
  obtain ⟨sql, parameters⟩ := st
  dsimp only at hsql hps hlength
  congr 1
  · rw [hsql, List.map_fst_zip (by simp [hlength]), List.length_zip, List.length_map, hlength,
      Nat.min_self]
  · rw [List.map_snd_zip (by simp [hlength])]

/-- **A cell that is written** is bound. -/
theorem binds_of_written {w p : Value} {d : Dialect} {st : Statement}
    (hwritten : BindsOnce (written m values) f w) (hp : f.toStorage w = .ok p)
    (hst : (⟨m, .row values⟩ : Insert).statement d = .ok st) :
    (⟨m, .row values⟩ : Insert).Binds d f p := by
  obtain ⟨ps, hps, rfl⟩ := statement_row hst
  exact ⟨_, bindsOnce_of_stored hp hps hwritten, hst⟩

/-- **An insert of one value** that renders binds what is stored for its application form. -/
theorem binds_of_set (hm : m.Registered) {name : String} (hf : m.field? name = some f)
    (hv : v.isNull = false ∨ f.nullable = true) {d : Dialect} {q : Insert} {st : Statement}
    (hset : (Insert.new m).set [(name, v)] = .ok q) (hst : q.statement d = .ok st) :
    ∃ w p, f.toApplication v = .ok w ∧ f.toStorage w = .ok p ∧ q.Binds d f p := by
  obtain ⟨w, hw, rfl⟩ := (set_one_iff hf).1 hset
  obtain ⟨p, hp⟩ := Attribute.toStorage_total hw
  have hmem := Model.mem_of_field? hf
  have hdefaults := Model.defaults_nodup hm.fieldNames_nodup
  have hwritten : BindsOnce (written m (m.defaults.put f.name w)) f w := by
    refine bindsOnce_written hm hmem ?_
      (Keyed.filter_key (Keyed.nodup_keys_put hdefaults) (Keyed.get?_put_self _ _ _)) ?_
    · intro k hk
      rcases Keyed.mem_keys_put.1 hk with rfl | hk
      · exact ⟨f, hmem, rfl⟩
      · exact Model.mem_keys_defaults hk
    -- A value that is not NULL is not held as NULL.
    · refine hv.imp_left fun hv => ?_
      have hconverted := (Kind.toApplication_of_not_null hv).symm.trans (Attribute.blame_ok.1 hw)
      exact (Kind.own_of_convert hconverted).not_null
  exact ⟨w, p, hw, hp, binds_of_written hwritten hp hst⟩

end Insert

/-! ## §3. The assignment of an update. -/

namespace Update

variable {m : Model} {f : Field} {v p : Value} {name : String} {d : Dialect}

theorem assigned_one (hf : m.field? name = some f) :
    ((Update.new m).set [(name, v)]).assigned = [(f, v)] := by
  show [(name, v)].filterMap (fun cell => (m.field? cell.1).map (·, cell.2)) = _
  exact List.filterMap_cons_some (by rw [hf]; rfl)

/-- A value that may be assigned is stored as the field stores it. -/
theorem storedCell_eq (hv : v.isNull = false ∨ f.nullable = true) :
    storedCell m f v = f.toStorage v := by
  unfold storedCell
  rw [if_neg]
  rcases hv with hv | hv <;> simp [hv]

/-- **An update of one value** that may be assigned renders exactly when the value is stored. -/
theorem statement_one (hf : m.field? name = some f) (hv : v.isNull = false ∨ f.nullable = true) :
    ((Update.new m).set [(name, v)]).statement d
      = (f.toStorage v).map fun p => ⟨Dialect.update m.table (assignmentsSql d [f])
          (Formula.set .and [] false).write, [p]⟩ := by
  have hcells : [(f, v)].mapM (fun cell => storedCell m cell.1 cell.2)
      = (f.toStorage v).map fun p => [p] := by
    rw [List.mapM_cons, storedCell_eq hv]
    cases f.toStorage v <;> rfl
  unfold statement
  rw [assigned_one hf]
  show ([(f, v)].mapM (fun cell => storedCell m cell.1 cell.2) >>= _) = _
  rw [hcells]
  cases f.toStorage v <;> rfl

/-- It then binds what is stored. -/
theorem binds_of_stored (hf : m.field? name = some f) (hv : v.isNull = false ∨ f.nullable = true)
    (hp : f.toStorage v = .ok p) : ((Update.new m).set [(name, v)]).Binds d f p := by
  have hst := statement_one (d := d) hf hv
  rw [hp] at hst
  refine ⟨[(f, p)], ⟨(Formula.set .and [] false).write, []⟩, ?_, hst⟩
  simp [BindsOnce]

/-- An update of one parameter binds that one. -/
theorem Binds.eq_of_one {q : Update} {st : Statement} (h : q.Binds d f p)
    (hst : q.statement d = .ok st) {v : Value} (hone : st.parameters = [v]) : p = v := by
  obtain ⟨cells, condition, honce, hstatement⟩ := h
  obtain rfl := Except.ok.inj (hstatement.symm.trans hst)
  have hcell : (f, p) ∈ cells := by
    refine (List.mem_filter.1 (show (f, p) ∈ cells.filter (·.1.column == f.column) from ?_)).1
    rw [honce]
    exact List.mem_singleton_self _
  have hbound : p ∈ cells.map (·.2) ++ condition.parameters :=
    List.mem_append_left _ (List.mem_map_of_mem hcell)
  rw [show cells.map (·.2) ++ condition.parameters = [v] from hone] at hbound
  exact List.mem_singleton.1 hbound

end Update

/-! ## §4. Both ways. -/

/-- **An insert and an update of one value** that may be written for the field take the same
values, and they bind the same for the column of the field, unless the value is NULL and the
field is a text: the insert then binds the empty text. -/
theorem insert_and_update_bind_alike_iff {m : Model} (hm : m.Registered) {name : String}
    {f : Field} (hf : m.field? name = some f) {v : Value}
    (hv : v.isNull = false ∨ f.nullable = true) (d : Dialect) :
    ((∃ q, (Insert.new m).set [(name, v)] = .ok q)
        ↔ ∃ st, ((Update.new m).set [(name, v)]).statement d = .ok st)
      ∧ ∀ q st, (Insert.new m).set [(name, v)] = .ok q → q.statement d = .ok st →
          ∃ a b, q.Binds d f a ∧ ((Update.new m).set [(name, v)]).Binds d f b
            ∧ (a = b ↔ (v.isNull = true → f.kind.type ≠ .text)) := by
  refine ⟨?_, fun q st hset hst => ?_⟩
  · rw [Update.statement_one hf hv]
    simp only [Insert.set_one_iff hf, map_ok]
    constructor
    · rintro ⟨q, w, hw, -⟩
      obtain ⟨p, hp⟩ := Attribute.converts_iff.1 ⟨w, hw⟩
      exact ⟨_, p, hp, rfl⟩
    · rintro ⟨st, p, hp, -⟩
      obtain ⟨w, hw⟩ := Attribute.converts_iff.2 ⟨p, hp⟩
      exact ⟨_, w, hw, rfl⟩
  · obtain ⟨w, a, hw, ha, hbinds⟩ := Insert.binds_of_set hm hf hv hset hst
    obtain ⟨b, hb⟩ := Attribute.converts_iff.1 ⟨w, hw⟩
    refine ⟨a, b, hbinds, Update.binds_of_stored hf hv hb, ?_⟩
    -- Both bind what the kind stores, the insert for the application form.
    rw [← Kind.toStorage_of_held (Attribute.blame_ok.1 hw), Attribute.blame_ok.1 ha,
      Attribute.blame_ok.1 hb]
    simp

namespace Sample

/-- The primary key of a player. -/
def playerId : Field := { field "Player" "player" "id" .integer 9 with primary := true }

/-- The nickname of a player, who may have none. -/
def playerNickname : Field :=
  { field "Player" "player" "nickname" (.varchar 8) 10 with column := "nick", nullable := true }

/-- The level of a player, who begins in the first one. -/
def playerLevel : Field := { field "Player" "player" "level" .integer 11 with default := some (int 1) }

/-- **Players.** -/
def player : Model where
  id := 3
  name := "Player"
  table := "player"
  database := none
  autoIncrement := false
  ordering := []
  orderingNames := []
  fields := [playerId, playerNickname, playerLevel]
  primaryKey := playerId
  relations := []

/-- The declarations of a player. -/
def playerPlan : Blueprint :=
  { Blueprint.named "Player" with
    fields := [("id", { Definition.ofKind 9 .integer with primary := true }),
      ("nickname", { Definition.ofKind 10 (.varchar 8) with column := some "nick", nullable := true }),
      ("level", { Definition.ofKind 11 .integer with default := some (int 1) })] }

theorem player_built : playerPlan.build 3 = .ok player := rfl

theorem player_registered : player.Registered :=
  .mk player_built fun _ h => nomatch h

/-- A player of that nickname, in the first level. -/
def named (nickname : Value) : Insert :=
  ⟨player, .row [("level", int 1), ("nickname", nickname)]⟩

end Sample

open Sample in
/-- A nickname that is too long for its column is cut on both ways. -/
theorem nickname_bound_alike : ∃ inserting assigning a b,
    (named (text "Bartholomew")).statement .oracle = .ok inserting
      ∧ inserting.text
        = "INSERT INTO player (level, nick) VALUES (:a0, :a1) RETURNING id INTO :insert_id"
      ∧ inserting.parameters = [int 1, a]
      ∧ ((Update.new player).set [("NICK", text "Bartholomew")]).statement .oracle = .ok assigning
      ∧ assigning.text = "UPDATE player SET nick = :a0"
      ∧ assigning.parameters = [b]
      ∧ (named (text "Bartholomew")).Binds .oracle playerNickname a
      ∧ ((Update.new player).set [("NICK", text "Bartholomew")]).Binds .oracle playerNickname b
      ∧ a = b := by
  have hf : player.field? "NICK" = some playerNickname := by decide +kernel
  have hset : (Insert.new player).set [("NICK", text "Bartholomew")]
      = .ok (named (text "Bartholomew")) := (Insert.set_one_iff hf).2 ⟨_, rfl, rfl⟩
  have hinsert : ((named (text "Bartholomew")).statement .oracle).toOption.map
        (fun st => (st.text, st.parameters))
      = some ("INSERT INTO player (level, nick) VALUES (:a0, :a1) RETURNING id INTO :insert_id",
        [int 1, text "Bartholo"]) := by
    decide +kernel
  have hupdate : (((Update.new player).set [("NICK", text "Bartholomew")]).statement
        .oracle).toOption.map (fun st => (st.text, st.parameters))
      = some ("UPDATE player SET nick = :a0", [text "Bartholo"]) := by
    decide +kernel
  obtain ⟨inserting, hinserting, hinsert⟩ := ok_of_toOption_map hinsert
  obtain ⟨assigning, hassigning, hupdate⟩ := ok_of_toOption_map hupdate
  obtain ⟨hinserted, hrow⟩ := Prod.mk.inj hinsert
  obtain ⟨hupdated, hcell⟩ := Prod.mk.inj hupdate
  obtain ⟨a, b, ha, hb, hsame⟩ := (insert_and_update_bind_alike_iff player_registered hf
    (.inl rfl) .oracle).2 _ _ hset hinserting
  obtain rfl := hb.eq_of_one hassigning hcell
  obtain rfl := hsame.2 nofun
  exact ⟨inserting, assigning, _, _, hinserting, hinserted, hrow, hassigning, hupdated, hcell, ha, hb,
    rfl⟩

open Sample in
/-- **Not every value is bound alike**: an update gives a player no nickname, an insert of none
gives the empty one. -/
theorem not_every_value_bound_alike :
    ¬ ∀ (m : Model), m.Registered → ∀ (name : String) (f : Field), m.field? name = some f →
      ∀ v : Value, v.isNull = false ∨ f.nullable = true → ∀ (d : Dialect) (q : Insert)
        (inserting assigning : Statement), (Insert.new m).set [(name, v)] = .ok q →
      q.statement d = .ok inserting →
      ((Update.new m).set [(name, v)]).statement d = .ok assigning →
      ∀ a b, q.Binds d f a → ((Update.new m).set [(name, v)]).Binds d f b → a = b := by
  intro halike
  have hf : player.field? "nickname" = some playerNickname := by decide +kernel
  have hset : (Insert.new player).set [("nickname", .null)] = .ok (named (text "")) :=
    (Insert.set_one_iff hf).2 ⟨_, rfl, rfl⟩
  have hupdate := Update.statement_one (v := .null) (d := .generic) hf (.inr rfl)
  have hinserted : (named (text "")).Binds .generic playerNickname (text "") :=
    ⟨[(playerLevel, int 1), (playerNickname, text "")], rfl, rfl⟩
  have hassigned := Update.binds_of_stored (v := .null) (p := .varchar none) (d := .generic) hf
    (.inr rfl) rfl
  have hsame := halike player player_registered "nickname" playerNickname hf .null (.inr rfl)
    .generic _ _ _ hset rfl hupdate (text "") (.varchar none) hinserted hassigned
  exact absurd hsame nofun

end RecordMapper
