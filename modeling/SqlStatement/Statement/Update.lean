import SqlStatement.Statement.Mapping
import SqlStatement.Statement.Select

/-! # Update and delete statements

Both change a table, which may have an alias, where criteria hold, in an order and up to a limit.
-/

namespace SqlStatement

/-- The table that a statement changes. An alias outlives a change of the table. -/
structure Target where
  table : Option Table := none
  aliasName : Option String := none

namespace Target

def withTable (target : Target) (t : Table) : Target := { target with table := some t }

def withTableAs (target : Target) (t : Table) (aliasName : String) : Target :=
  { target with table := some t, aliasName := some aliasName }

def scope (target : Target) (t : Table) : Scope :=
  .explicit ((target.aliasName.map (Aliases.empty.insert t.id ·)).getD ∅)

end Target

/-- Which rows a statement changes: criteria, order and limit. -/
structure Reach where
  criteria : Where := {}
  orderBy : List SortItem := []
  limit : Option UInt64 := none

namespace Reach

def phrases (σ : Scopes) (r : Reach) : List Phrase :=
  r.criteria.clause σ ++ SortItem.clause σ r.orderBy ++
    (r.limit.map fun n => Paging.phrases ⟨.limitOffset, some n, none⟩).getD []

def restrict (r : Reach) (k : Connector) (c : Criterion) : Reach :=
  { r with criteria := r.criteria.add k c }

end Reach

structure Update where
  target : Target := {}
  mappings : List Mapping := []
  reach : Reach := {}

namespace Update

def assignment? (σ : Scopes) (m : Mapping) : Option Phrase :=
  (m.phrase? σ .none .update).map (.after (σ.columnName m.target ++ " = ") ·)

/-- The assignments behind their keyword, which stands even where there are none. -/
def assignments (σ : Scopes) (u : Update) : Phrase :=
  match u.mappings.filterMap (assignment? σ) with
  | [] => .text "set"
  | ps => .after "set " (.join ", " ps)

def phrase (u : Update) : Phrase :=
  .ofTable .update u.target.table fun t =>
    let σ : Scopes := [u.target.scope t]
    .words (.text ("update " ++ σ.tableName t) :: u.assignments σ :: u.reach.phrases σ)

def render (u : Update) (strategy : Strategy) : Rendering Statement :=
  u.phrase.statement .update strategy

end Update

structure Delete where
  target : Target := {}
  reach : Reach := {}

namespace Delete

def phrase (d : Delete) : Phrase :=
  .ofTable .delete d.target.table fun t =>
    let σ : Scopes := [d.target.scope t]
    .words (.text ("delete from " ++ σ.tableName t) :: d.reach.phrases σ)

def render (d : Delete) (strategy : Strategy) : Rendering Statement :=
  d.phrase.statement .delete strategy

end Delete

end SqlStatement
