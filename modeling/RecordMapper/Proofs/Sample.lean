/-
  RecordMapper.Proofs.Sample
  ────────────────────────────────
  **A SMALL LIBRARY OF BOOKS.**

  Two models for the instances of theorems: authors, and books, each with an
  author and an editor.  Both foreign keys of a book refer to the same model, so
  a record of a book can hold two related records of one kind.
-/
import RecordMapper.Query.Select

namespace RecordMapper.Sample

/-- A field that cannot be NULL, whose column is named like it. -/
def field (model table name : String) (kind : Kind) (ordinal : Nat) : Field where
  model := model
  name := name
  column := name
  kind := kind
  nullable := false
  primary := false
  default := none
  displayName := none
  ordinal := ordinal
  table := table
  foreignKey := none

/-- The primary key of an author. -/
def authorId : Field := { field "Author" "author" "id" .integer 0 with primary := true }

def authorName : Field := field "Author" "author" "name" (.varchar 30) 1

/-- **Authors.** -/
def author : Model where
  id := 0
  name := "Author"
  table := "author"
  database := none
  autoIncrement := false
  ordering := []
  orderingNames := []
  fields := [authorId, authorName]
  primaryKey := authorId
  relations := []

/-- A foreign key of a book to an author. -/
def toAuthor (name relatedName reverseName : String) (ordinal : Nat) : Field :=
  { field "Book" "book" name .integer ordinal with
    nullable := true
    foreignKey := some ⟨"Author", authorId.toAttribute, relatedName, reverseName⟩ }

/-- The primary key of a book. -/
def bookId : Field := { field "Book" "book" "id" .integer 2 with primary := true }

def bookTitle : Field := field "Book" "book" "title" (.varchar 80) 3

def bookAuthor : Field := toAuthor "author_id" "author" "written" 4

def bookEditor : Field := toAuthor "editor_id" "editor" "edited" 5

/-- **Books.** -/
def book : Model where
  id := 1
  name := "Book"
  table := "book"
  database := none
  autoIncrement := false
  ordering := []
  orderingNames := []
  fields := [bookId, bookTitle, bookAuthor, bookEditor]
  primaryKey := bookId
  relations := [("author_id", author), ("editor_id", author)]

/-- The declarations of an author. -/
def authorPlan : Blueprint :=
  { Blueprint.named "Author" with
    fields := [("id", { Definition.ofKind 0 .integer with primary := true }),
      ("name", Definition.ofKind 1 (.varchar 30))] }

theorem author_built : authorPlan.build 0 = .ok author := rfl

/-- A foreign key to an author, declared. -/
def authorKey (relatedName reverseName : String) (ordinal : Nat) : Definition :=
  { Definition.referring ordinal author authorId with
    nullable := true
    reference := some ⟨author, authorId.toAttribute, some relatedName, some reverseName⟩ }

/-- The declarations of a book. -/
def bookPlan : Blueprint :=
  { Blueprint.named "Book" with
    fields := [("id", { Definition.ofKind 2 .integer with primary := true }),
      ("title", Definition.ofKind 3 (.varchar 80)),
      ("author_id", authorKey "author" "written" 4),
      ("editor_id", authorKey "editor" "edited" 5)] }

theorem book_built : bookPlan.build 1 = .ok book := rfl

/-- An integer. -/
def int (n : Int64) : Value := .int64 (some n)

/-- A text. -/
def text (s : String) : Value := .varchar (some s)

/-- The authors whose name begins with `A`, some of them left out. -/
def authors : Select :=
  { Select.new author with
    filter := [.leaf authorName.toAttribute .istartsWith (.value (text "A*")) false,
      .leaf authorId.toAttribute .isIn (.list [int 1, int 2]) true] }

end RecordMapper.Sample
