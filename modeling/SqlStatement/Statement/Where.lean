import SqlStatement.Query.Criterion
import SqlStatement.Query.Phrase

/-! # Where clauses

The criteria of a statement, which may also be written without the statement, behind text of a
program's own.
-/

namespace SqlStatement

structure Where where
  criteria : List Criterion := []

namespace Where

def isEmpty (w : Where) : Bool := w.criteria.isEmpty

def add (w : Where) (k : Connector) (c : Criterion) : Where :=
  ⟨w.criteria ++ [c.withConnector k]⟩

def and (w : Where) (e : Expr) (c : Condition) : Where := w.add .and (.compare e c)

def or (w : Where) (e : Expr) (c : Condition) : Where := w.add .or (.compare e c)

/-- The clause with its keyword, if there is anything to write. -/
def clause (σ : Scopes) (w : Where) : List Phrase :=
  Phrase.clause "where" (Criterion.chain σ w.criteria).phrase?

/-- The clause as a statement of its own; nothing is written or reported where it is absent. -/
def render (w : Where) (aliases : Aliases) (strategy : Strategy) : Rendering (Option Statement) :=
  match w.clause [.explicit aliases] with
  | [] => pure none
  | ps => some <$> (Phrase.words ps).statement .whereClause strategy

end Where

end SqlStatement
