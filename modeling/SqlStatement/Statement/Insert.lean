import SqlStatement.Statement.Mapping
import SqlStatement.Statement.Select

/-! # Insert statements

Records are inserted one at a time, several in one statement, or in a batch; values are inserted
without a record, and the rows of a select as they come.
-/

namespace SqlStatement

structure RowPhrase where
  columns : List String
  contents : List Phrase

namespace RowPhrase

def ofMappings (mappings : List Mapping) (mode : RecordMode) (kind : StatementKind) : RowPhrase :=
  let written := mappings.filterMap fun m => (m.phrase? [] mode kind).map (m.target.name, ·)
  ⟨written.map Prod.fst, written.map Prod.snd⟩

def group (r : RowPhrase) : Phrase := .between "(" (.join ", " r.contents) ")"

end RowPhrase

namespace Phrase

def columnList (columns : List String) : String := "(" ++ ", ".intercalate columns ++ ")"

/-- Rows of one shape for a table. There has to be a column to insert. -/
def insertion (t : Table) (columns : List String) (groups : List Phrase) : Phrase :=
  if columns.isEmpty then fail (.emptyInsertColumns t.name)
  else after ("insert into " ++ t.name ++ " " ++ columnList columns ++ " values ")
    (join ", " groups)

end Phrase

/-- A table, and what its columns are set to. -/
structure Insertion where
  table : Option Table := none
  mappings : List Mapping := []

namespace Insertion

def withTable (i : Insertion) (t : Table) : Insertion := { i with table := some t }

def add (i : Insertion) (m : Mapping) : Insertion := { i with mappings := i.mappings ++ [m] }

def phrase (i : Insertion) (mode : RecordMode) (kind : StatementKind) : Phrase :=
  .ofTable .insert i.table fun t =>
    let row := RowPhrase.ofMappings i.mappings mode kind
    .insertion t row.columns [row.group]

end Insertion

/-- A statement with the record whose properties it names. -/
structure RowStatement (ρ : Type) where
  sql : String
  parameters : Parameters
  row : ρ

structure RecordsStatement (ρ : Type) where
  sql : String
  records : List ρ

namespace RecordsStatement

/-- The same statement for each record in turn. -/
def statements {ρ : Type} (b : RecordsStatement ρ) : List (RowStatement ρ) :=
  b.records.map fun row => ⟨b.sql, ∅, row⟩

end RecordsStatement

structure Insert (ρ : Type) where
  row : ρ
  insertion : Insertion

namespace Insert

def phrase {ρ : Type} (i : Insert ρ) : Phrase := i.insertion.phrase .row .insert

def render {ρ : Type} (i : Insert ρ) (strategy : Strategy) : Rendering (RowStatement ρ) := do
  let s ← i.phrase.statement .insert strategy
  return ⟨s.sql, s.parameters, i.row⟩

end Insert

/-- Several records in one statement. -/
structure MultiRowInsert (ρ : Type) where
  records : List ρ
  insertion : Insertion

namespace MultiRowInsert

def row {ρ : Type} (i : MultiRowInsert ρ) (position : Nat) : RowPhrase :=
  .ofMappings i.insertion.mappings (.indexed ("records[" ++ toString position ++ "]")) .insert

def phrase {ρ : Type} (i : MultiRowInsert ρ) : Phrase :=
  .ofTable .insert i.insertion.table fun t =>
    if i.records.isEmpty then .fail (.emptyRecords t.name)
    else .insertion t (i.row 0).columns
      ((List.range i.records.length).map fun position => (i.row position).group)

def render {ρ : Type} (i : MultiRowInsert ρ) (strategy : Strategy) :
    Rendering (RecordsStatement ρ) := do
  let sql ← i.phrase.recordStatement .multiRowInsert strategy
  return ⟨sql, i.records⟩

end MultiRowInsert

/-- One statement for any number of records. -/
structure BatchInsert (ρ : Type) where
  records : List ρ
  insertion : Insertion

namespace BatchInsert

def phrase {ρ : Type} (i : BatchInsert ρ) : Phrase := i.insertion.phrase .batch .batchInsert

def render {ρ : Type} (i : BatchInsert ρ) (strategy : Strategy) :
    Rendering (RecordsStatement ρ) := do
  let sql ← i.phrase.recordStatement .batchInsert strategy
  return ⟨sql, i.records⟩

end BatchInsert

/-- Values without a record. -/
structure GeneralInsert where
  insertion : Insertion

namespace GeneralInsert

def phrase (i : GeneralInsert) : Phrase := i.insertion.phrase .none .insert

def render (i : GeneralInsert) (strategy : Strategy) : Rendering Statement :=
  i.phrase.statement .insert strategy

end GeneralInsert

/-- The rows of a select. -/
structure InsertSelect where
  table : Option Table := none
  columns : Option (List Column) := none
  query : Select

namespace InsertSelect

def heading (i : InsertSelect) (t : Table) : String :=
  "insert into " ++ t.name ++ " " ++ match i.columns with
    | some cs => Phrase.columnList (cs.map Column.name) ++ " "
    | none => ""

def phrase (i : InsertSelect) : Phrase :=
  .ofTable .insert i.table fun t => .after (i.heading t) (i.query.phrase [])

def render (i : InsertSelect) (strategy : Strategy) : Rendering Statement :=
  i.phrase.statement .insertSelect strategy

end InsertSelect

end SqlStatement
