import SqlStatement.Rendering

/-! # Phrases

A statement before it meets a strategy: its texts, the values to bind and the record properties to
name, in the order of the text. A phrase is written from left to right, and the first failure in
it is the failure of the whole.
-/

namespace SqlStatement

inductive Datum where
  | value (v : Value)
  | supplied (s : Supplier)

namespace Datum

def get : Datum → Rendering Value
  | value v => pure v
  | supplied s => Rendering.call s.supply

end Datum

inductive Phrase where
  | text (s : String)
  | parameter (column : Option Column) (datum : Datum)
  /-- A property of the record that is inserted, or of the record at a path. -/
  | property (column : Column) (path : Option String) (name : String)
  /-- No text, but only strategies with this paging style can write it. -/
  | needs (style : PagingStyle)
  | fail (e : RenderError)
  /-- The parts in order, the separator between those whose text is not empty. -/
  | join (separator : String) (parts : List Phrase)

namespace Phrase

def concat (parts : List Phrase) : Phrase := join "" parts

def between (before : String) (p : Phrase) (after : String) : Phrase :=
  concat [text before, p, text after]

def after (before : String) (p : Phrase) : Phrase := concat [text before, p]

def words (parts : List Phrase) : Phrase := join " " parts

def value (column : Option Column) (v : Value) : Phrase := parameter column (.value v)

mutual

def render (strategy : Strategy) : Phrase → Rendering Fragment
  | text s => return .ofText s
  | parameter column datum => do Rendering.bind strategy column (← datum.get)
  | property column path name =>
    return .ofText <| match path with
      | none => strategy.record column name
      | some path => strategy.indexedRecord column path name
  | needs style => do
    Rendering.requirePaging strategy style
    return ∅
  | fail e => throw e
  | join separator parts => return Fragment.join separator (← renderAll strategy parts)

def renderAll (strategy : Strategy) : List Phrase → Rendering (List Fragment)
  | [] => return []
  | p :: ps => return (← render strategy p) :: (← renderAll strategy ps)

end

end Phrase

/-- A finished statement, as an executor takes it. -/
structure Statement where
  sql : String
  parameters : Parameters

namespace Statement

def ofFragment (f : Fragment) : Statement := ⟨f.text, f.parameters⟩

end Statement

namespace Phrase

/-- Writes the phrase as a statement of its own, numbered from one, and reports it. -/
def statement (kind : StatementKind) (strategy : Strategy) (p : Phrase) : Rendering Statement := do
  Rendering.restart
  let f ← p.render strategy
  Rendering.report (.rendered kind strategy.name f.parameters.size f.text)
  return .ofFragment f

/-- Writes the phrase as a statement that takes its values from records alone. -/
def recordStatement (kind : StatementKind) (strategy : Strategy) (p : Phrase) :
    Rendering String := do
  Rendering.restart
  let f ← p.render strategy
  Rendering.report (.rendered kind strategy.name 0 f.text)
  return f.text

end Phrase

end SqlStatement
