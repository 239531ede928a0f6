import SqlStatement.Query

/-! # Criteria

A criterion starts from a predicate, or from nothing for a group, and takes further criteria that
are attached with `and` or `or`.
-/

namespace SqlStatement.Criterion

def ofPredicate (p : Predicate) : Criterion := ⟨none, some p, []⟩

def compare (e : Expr) (c : Condition) : Criterion := ofPredicate (.compare e c)

def ofExists (query : Select) : Criterion := ofPredicate (.existence query false)

def ofNotExists (query : Select) : Criterion := ofPredicate (.existence query true)

def not (c : Criterion) : Criterion := ofPredicate (.negation c)

/-- A criterion that consists of what is attached to it. -/
def group : Criterion := ⟨none, none, []⟩

def withConnector (c : Criterion) (k : Connector) : Criterion := { c with connector := some k }

def attach (c : Criterion) (k : Connector) (d : Criterion) : Criterion :=
  { c with attached := c.attached ++ [d.withConnector k] }

def and (c d : Criterion) : Criterion := c.attach .and d

def or (c d : Criterion) : Criterion := c.attach .or d

end SqlStatement.Criterion
