import SqlStatement.Error
import SqlStatement.Fragment
import SqlStatement.Strategy

/-! # Renderings

What a rendering threads from left to right: the number of the next parameter, the memory of the
callbacks and the events reported so far. An error keeps what came before it.
-/

namespace SqlStatement

inductive Event where
  | rendered (kind : StatementKind) (strategy : String) (parameters : Nat) (sql : String)
  | pagingRejected (strategy : String) (style : PagingStyle)
deriving DecidableEq, Repr

namespace Event

def level : Event → String
  | rendered .. => "DEBUG"
  | pagingRejected .. => "WARN"

def message : Event → String
  | rendered .. => "rendered statement"
  | pagingRejected .. => "paging style rejected by rendering strategy"

end Event

structure Session where
  next : UInt32 := 1
  memory : Memory := {}
  events : List Event := []

abbrev Rendering := ExceptT RenderError (StateM Session)

namespace Rendering

/-- Numbers parameters from one again, as every statement does. -/
def restart : Rendering Unit := modify fun s => { s with next := 1 }

def nextNumber : Rendering UInt32 :=
  modifyGet fun s => (s.next, { s with next := s.next + 1 })

def nextKey : Rendering String := do return "p" ++ toString (← nextNumber).toNat

def call {α : Type} (callback : StateM Memory α) : Rendering α :=
  modifyGet fun s =>
    let (a, memory) := callback.run s.memory
    (a, { s with memory })

def report (e : Event) : Rendering Unit := modify fun s => { s with events := s.events ++ [e] }

/-- A new parameter: the value as its column converts it, and the placeholder that names it. -/
def bind (strategy : Strategy) (column : Option Column) (v : Value) : Rendering Fragment := do
  let key ← nextKey
  let bound ← match column with
    | some c => call (c.convert v)
    | none => pure v
  return ⟨strategy.parameter column strategy.parameterPath key, .singleton key bound⟩

/-- Refuses a paging style that the strategy lacks, and reports it. -/
def requirePaging (strategy : Strategy) (style : PagingStyle) : Rendering Unit :=
  if strategy.supports style then pure ()
  else do
    report (.pagingRejected strategy.name style)
    throw (.unsupportedPaging strategy.name style)

end Rendering

end SqlStatement
