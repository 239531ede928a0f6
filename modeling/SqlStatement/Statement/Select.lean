import SqlStatement.Statement.Where

/-! # Select statements

A select is drafted call by call. A set operator closes the block at hand and opens the next one;
order and paging belong to the whole.
-/

namespace SqlStatement

namespace Select

def render (s : Select) (strategy : Strategy) : Rendering Statement :=
  (s.phrase []).statement .select strategy

def ofBlocksOf (parts : List Select) (orderBy : Option (List SortItem)) (paging : Option Paging) :
    Select :=
  ⟨parts.flatMap Select.blocks, orderBy, paging⟩

end Select

namespace QueryBlock

def opened (connector : Option SetOperator) : QueryBlock :=
  ⟨connector, false, [], none, ∅, [], [], [], []⟩

end QueryBlock

/-- A call on a select that is being drafted. -/
inductive SelectStep where
  | select (columns : List Expr)
  | selectDistinct (columns : List Expr)
  | from (table : Table)
  | fromAs (table : Table) (aliasName : String)
  | fromSubquery (query : Select) (aliasName : String)
  | join (kind : JoinKind) (table : Table) (aliasName : Option String)
    (criteria : List Criterion)
  | joinSubquery (kind : JoinKind) (query : Select) (aliasName : String)
    (criteria : List Criterion)
  | where (connector : Connector) (criterion : Criterion)
  | groupBy (columns : List Expr)
  | having (connector : Connector) (criterion : Criterion)
  | combine (operator : SetOperator)
  | orderBy (items : List SortItem)
  | limit (rows : UInt64)
  | offset (rows : UInt64)
  | fetchFirst (rows : UInt64)

/-- The closed blocks, the block at hand, and what is known of order and paging. -/
structure SelectDraft where
  closed : List QueryBlock := []
  current : QueryBlock := .opened none
  orderBy : List SortItem := []
  paging : PagingDraft := {}

/-- An order by clause that is absent where it is empty. -/
def presentOrder (items : List SortItem) : Option (List SortItem) :=
  if items.isEmpty then none else some items

namespace SelectDraft

def select (d : SelectDraft) (columns : List Expr) : SelectDraft :=
  { d with current := { d.current with columns } }

def selectDistinct (d : SelectDraft) (columns : List Expr) : SelectDraft :=
  { d with current := { d.current with columns, distinct := true } }

def fromSource (d : SelectDraft) (s : Source) : SelectDraft :=
  { d with current := { d.current with source := some s } }

/-- Names a table of the block; the last alias of a table is the one that counts. -/
def aliased (d : SelectDraft) (t : Table) (aliasName : Option String) : SelectDraft :=
  match aliasName with
  | some a => { d with current := { d.current with aliases := d.current.aliases.insert t.id a } }
  | none => d

def addJoin (d : SelectDraft) (j : Join) : SelectDraft :=
  { d with current := { d.current with joins := d.current.joins ++ [j] } }

def restrict (d : SelectDraft) (k : Connector) (c : Criterion) : SelectDraft :=
  { d with current := { d.current with criteria := d.current.criteria ++ [c.withConnector k] } }

def groupBy (d : SelectDraft) (columns : List Expr) : SelectDraft :=
  { d with current := { d.current with groupBy := columns } }

def having (d : SelectDraft) (k : Connector) (c : Criterion) : SelectDraft :=
  { d with current := { d.current with having := d.current.having ++ [c.withConnector k] } }

def combine (d : SelectDraft) (operator : SetOperator) : SelectDraft :=
  { d with closed := d.closed ++ [d.current], current := .opened (some operator) }

def step (d : SelectDraft) : SelectStep → SelectDraft
  | .select columns => d.select columns
  | .selectDistinct columns => d.selectDistinct columns
  | .from t => d.fromSource (.table t)
  | .fromAs t a => (d.aliased t (some a)).fromSource (.table t)
  | .fromSubquery query a => d.fromSource (.subquery query a)
  | .join kind t a criteria => (d.aliased t a).addJoin ⟨kind, .table t, criteria⟩
  | .joinSubquery kind query a criteria => d.addJoin ⟨kind, .subquery query a, criteria⟩
  | .where k c => d.restrict k c
  | .groupBy columns => d.groupBy columns
  | .having k c => d.having k c
  | .combine operator => d.combine operator
  | .orderBy items => { d with orderBy := items }
  | .limit n => { d with paging := d.paging.withLimit n }
  | .offset n => { d with paging := d.paging.withOffset n }
  | .fetchFirst n => { d with paging := d.paging.withFetchFirst n }

def run (steps : List SelectStep) : SelectDraft := steps.foldl step {}

def build (d : SelectDraft) : Select :=
  ⟨d.closed ++ [d.current], presentOrder d.orderBy, d.paging.build⟩

end SelectDraft

end SqlStatement
