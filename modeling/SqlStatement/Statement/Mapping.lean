import SqlStatement.Query.Phrase

/-! # Mappings

What a column is set to. Which contents may be written hangs on the statement: a statement over
records takes properties of them, a statement without records takes expressions and selects.
-/

namespace SqlStatement

inductive Content where
  | absent
  | null
  | constant (text : String)
  | stringConstant (text : String)
  | value (v : Value)
  | supplied (s : Supplier)
  | property (name : String)
  | expr (e : Expr)
  | subselect (query : Select)

structure Mapping where
  target : Column
  content : Content

/-- What a statement takes its contents from. -/
inductive RecordMode where
  /-- One record, beside values of the statement. -/
  | row
  /-- A record that changes while the statement stays. -/
  | batch
  /-- The record at a path among several. -/
  | indexed (path : String)
  | none
deriving DecidableEq, Repr

namespace RecordMode

def acceptsValues : RecordMode → Bool
  | row | none => true
  | batch | indexed _ => false

def acceptsExpressions : RecordMode → Bool
  | none => true
  | row | batch | indexed _ => false

end RecordMode

namespace Mapping

def whenPresent (target : Column) (v : Option Value) : Mapping :=
  ⟨target, match v with
    | some v => .value v
    | none => .absent⟩

def propertyWhenPresent (target : Column) (name : String) (present : Bool) : Mapping :=
  ⟨target, if present then .property name else .absent⟩

def isAbsent (m : Mapping) : Bool :=
  match m.content with
  | .absent => true
  | _ => false

def unsupported (m : Mapping) (kind : StatementKind) : Phrase :=
  .fail (.unsupportedMapping m.target.name kind)

/-- What the column is set to, if it is not left out. -/
def phrase? (σ : Scopes) (mode : RecordMode) (kind : StatementKind) (m : Mapping) : Option Phrase :=
  match m.content with
  | .absent => none
  | .null => some (.text "null")
  | .constant text => some (.text text)
  | .stringConstant text => some (.text (Text.quote text))
  | .property name => some <| match mode with
    | .row | .batch => .property m.target none name
    | .indexed path => .property m.target (some path) name
    | .none => m.unsupported kind
  | .value v => some <|
    if mode.acceptsValues then .value (some m.target) v else m.unsupported kind
  | .supplied s => some <|
    if mode.acceptsValues then .parameter (some m.target) (.supplied s) else m.unsupported kind
  | .expr e => some <| if mode.acceptsExpressions then e.phrase σ else m.unsupported kind
  | .subselect query => some <|
    if mode.acceptsExpressions then .between "(" (query.phrase σ) ")" else m.unsupported kind

end Mapping

namespace Phrase

/-- What can be said of a table, which has to be there and have a name. -/
def ofTable (kind : StatementKind) (table : Option Table) (body : Table → Phrase) : Phrase :=
  match table with
  | some t => if Text.isBlank t.name then fail (.missingTable kind) else body t
  | none => fail (.missingTable kind)

end Phrase

end SqlStatement
