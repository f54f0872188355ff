/-
  RecordMapper.Record.Graph
  ────────────────────────────────
  **READING A ROW AS RELATED RECORDS.**

  A row of a select over joined models holds the fields of several models.  Its
  cells are sorted by model, and from the root model along the foreign keys each
  model that has cells becomes a record attached to the one that refers to it.
  A model whose cells are all NULL had no match, and is left out.
-/
import RecordMapper.Record.Basic

namespace RecordMapper

/-- **The cells of a row by model**: field names and values. -/
abbrev Cells := Keyed (List (String × Value))

namespace Cells

/-- The cells of the fields that a select yields. -/
def ofRow (fields : List Field) (row : List Value) : Cells :=
  (fields.zip row).foldl (fun cells (field, v) =>
    Keyed.put field.model ((Keyed.get? cells field.model).getD [] ++ [(field.name, v)]) cells) []

/-- The cells of a model that was matched: it has cells, and not all of them are
NULL. -/
def matched? (cells : Cells) (model : Model) : Option (List (String × Value)) :=
  (Keyed.get? cells model.name).filter fun row => !row.all (·.2.isNull)

end Cells

namespace Record

/-- **The record of a model with its related records**, from the cells of a
row. -/
def assemble (cells : Cells) : Model → Except Failure Record
  | ⟨id, name, table, database, autoIncrement, ordering, orderingNames, fields, key, relations⟩ => do
    let model : Model :=
      ⟨id, name, table, database, autoIncrement, ordering, orderingNames, fields, key, relations⟩
    let root ← load model ((Keyed.get? cells model.name).getD [])
    go model root relations
where
  /-- Attach the related records, one relation after the other. -/
  go (model : Model) (r : Record) : List (String × Model) → Except Failure Record
    | [] => .ok r
    | (field, related) :: rest =>
      match cells.matched? related, (model.field? field).bind (·.foreignKey) with
      | some _, some key => do
        let child ← assemble cells related
        go model (r.attach key.relatedName child) rest
      | _, _ => go model r rest

end Record

end RecordMapper
