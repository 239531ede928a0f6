import SqlStatement.Error
import SqlStatement.Scope
import SqlStatement.Text.Blank

/-! # Queries

Expressions, conditions, criteria and selects contain each other: a condition may compare with a
select, a select holds criteria, and a case expression is written with both.
-/

namespace SqlStatement

inductive Aggregate where
  | countAll | count | countDistinct | max | min | avg | sum
deriving DecidableEq, Repr

inductive Connector where
  | and
  | or
deriving DecidableEq, Repr

inductive SetOperator where
  | union
  | unionAll
deriving DecidableEq, Repr

inductive JoinKind where
  | inner | left | right | full
deriving DecidableEq, Repr, Inhabited

namespace Aggregate

def opening : Aggregate → String
  | countAll => "count("
  | count => "count("
  | countDistinct => "count(distinct "
  | max => "max("
  | min => "min("
  | avg => "avg("
  | sum => "sum("

def countsRows : Aggregate → Bool
  | countAll | count | countDistinct => true
  | _ => false

end Aggregate

namespace Connector

def text : Connector → String
  | and => "and"
  | or => "or"

end Connector

namespace SetOperator

def text : SetOperator → String
  | union => "union"
  | unionAll => "union all"

end SetOperator

namespace JoinKind

def text : JoinKind → String
  | inner => "join"
  | left => "left join"
  | right => "right join"
  | full => "full join"

end JoinKind

/-- One item of an order by clause: a column, or a name such as an alias of the select list. -/
inductive SortKey where
  | column (c : Column)
  | name (s : String)

structure SortItem where
  key : SortKey
  descending : Bool := false

mutual

inductive Expr where
  | column (c : Column)
  | aggregate (function : Aggregate) (argument : Option Expr) (label : Option String)
  | function (name : String) (arguments : List Expr) (label : Option String)
  | constant (text : String) (label : Option String)
  | stringConstant (text : String) (label : Option String)
  | case (expression : Case) (label : Option String)

inductive Case where
  | searched (branches : List SearchedBranch) (otherwise : Option CaseResult)
  | simple (operand : Expr) (branches : List SimpleBranch) (otherwise : Option CaseResult)

structure SearchedBranch where
  criteria : List Criterion
  result : CaseResult

structure SimpleBranch where
  test : SimpleTest
  result : CaseResult

/-- What the operand of a simple case is held against. -/
inductive SimpleTest where
  | values (vs : List Value)
  | condition (c : Condition)

inductive CaseResult where
  | stringConstant (text : String)
  | constant (text : String)
  | value (v : Value)
  | expr (e : Expr)

/-- What an expression is held against. -/
inductive Condition where
  /-- A condition without a value to compare with; nothing is written for it. -/
  | empty
  | noValue (operator : String)
  | single (operator : String) (value : Value) (ignoresCase : Bool)
  | pair (operator conjunction : String) (first second : Value)
  | list (operator : String) (values : List Value) (ignoresCase : Bool)
  | comparison (operator : String) (other : Expr)
  | subselect (operator : String) (query : Select)

inductive Predicate where
  | compare (subject : Expr) (condition : Condition)
  | existence (query : Select) (negated : Bool)
  | negation (criterion : Criterion)

/-- A predicate and what is attached to it; without a predicate, a group. -/
structure Criterion where
  connector : Option Connector
  predicate : Option Predicate
  attached : List Criterion

inductive Source where
  | table (t : Table)
  | subquery (query : Select) (aliasName : String)

structure Join where
  kind : JoinKind
  source : Source
  criteria : List Criterion

/-- A select without order and paging. An empty list stands for an absent clause. -/
structure QueryBlock where
  connector : Option SetOperator
  distinct : Bool
  columns : List Expr
  source : Option Source
  aliases : Aliases
  joins : List Join
  criteria : List Criterion
  groupBy : List Expr
  having : List Criterion

/-- Query blocks chained by set operators, with the order and paging of the whole. -/
structure Select where
  blocks : List QueryBlock
  orderBy : Option (List SortItem)
  paging : Option Paging

end

namespace Source

def table? : Source → Option Table
  | table t => some t
  | subquery .. => none

def isBlank : Source → Bool
  | table t => Text.isBlank t.name
  | subquery .. => false

end Source

namespace QueryBlock

def tables (b : QueryBlock) : List Table :=
  (b.source.toList ++ b.joins.map Join.source).filterMap Source.table?

/-- The scope that the block opens. A block with joins qualifies all its columns. -/
def scope (b : QueryBlock) : Scope where
  aliases := b.aliases
  qualifiesAll := !b.joins.isEmpty
  tables := b.tables.map Table.id

/-- Why the block cannot be written at all. -/
def fault? (b : QueryBlock) : Option RenderError :=
  if b.source.all Source.isBlank then some (.missingTable .select)
  else if b.columns.isEmpty then some .emptySelectList
  else none

end QueryBlock

end SqlStatement
