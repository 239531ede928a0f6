import SqlStatement.Calendar
import SqlStatement.Decimal.Shortest
import SqlStatement.Inspect.Shape
import SqlStatement.Statement.Mapping

/-! # Inspection

The shape of a mapping and of all that it may contain, for a reader who looks at a statement
before it is rendered. The number of a table is not shown.
-/

namespace SqlStatement

/-- Numbers from one ten-thousandth to below ten to the sixteenth are written positionally. -/
def numberStyle : Decimal.Style := ⟨-3, 16, "NaN", "inf"⟩

def Value.shape : Value → Shape
  | .null => .word "Null"
  | .bool b => .tuple "Bool" [.ofBool b]
  | .int n => .tuple "I64" [.word (toString n.toInt)]
  | .unsigned n => .tuple "U64" [.word (toString n.toNat)]
  | .double x => .tuple "F64" [.word (Decimal.text numberStyle x)]
  | .text s => .tuple "String" [.ofText s]
  | .bytes data => .tuple "Bytes" [.list (data.map fun b => .word (toString b.toNat))]
  | .timestamp t => .tuple "DateTime" [.word (Calendar.timestampText t)]

def TableId.shape : TableId → Shape
  | _ => .tuple "TableId" [.word "_"]

def Table.shape (t : Table) : Shape :=
  .record "SqlTable" [("id", t.id.shape), ("name", .ofText t.name)] false

def Converter.shape (c : Converter) : Shape := .tuple "FnConverter" [.ofText c.name]

def Column.shape (c : Column) : Shape :=
  .record "SqlColumn" [("name", .ofText c.name), ("table", c.table.shape),
    ("sql_type", .ofOption (c.type.map (.word ·.name))),
    ("type_handler", .ofText? c.typeHandler),
    ("converter", .ofOption (c.converter.map Converter.shape)),
    ("alias", .ofText? c.label), ("qualifier", .ofText? c.qualifier)] false

def Aggregate.shape : Aggregate → Shape
  | countAll => .word "CountAll"
  | count => .word "Count"
  | countDistinct => .word "CountDistinct"
  | max => .word "Max"
  | min => .word "Min"
  | avg => .word "Avg"
  | sum => .word "Sum"

def Connector.shape : Connector → Shape
  | and => .word "And"
  | or => .word "Or"

def SetOperator.shape : SetOperator → Shape
  | union => .word "Union"
  | unionAll => .word "UnionAll"

def JoinKind.shape : JoinKind → Shape
  | inner => .word "Inner"
  | left => .word "Left"
  | right => .word "Right"
  | full => .word "Full"

def Aliases.shape (a : Aliases) : Shape :=
  .map (a.entries.map fun (t, a) => (t.shape, .ofText a))

def SortItem.shape (s : SortItem) : Shape :=
  let target := match s.key with
    | .column c => Shape.tuple "Column" [c.shape]
    | .name n => .tuple "Name" [.ofText n]
  .record "SortSpecification" [("target", target), ("descending", .ofBool s.descending)] false

def Paging.shape (p : Paging) : Shape :=
  let count (n : Option UInt64) : Shape := .ofOption (n.map fun n => .word (toString n.toNat))
  match p.style with
  | .limitOffset =>
    .record "LimitOffset" [("limit", count p.rows), ("offset", count p.offset)] false
  | .fetchFirst =>
    .record "FetchFirst" [("fetch_first_rows", count p.rows), ("offset", count p.offset)] false

def Shape.ofClause (criteria : List Shape) : Shape :=
  .ofPresent (fun cs => .record "WhereModel" [("criteria", .list cs)] false) criteria

mutual

def Expr.shape : Expr → Shape
  | .column c => .tuple "Column" [c.shape]
  | .aggregate f argument label =>
    .record "Aggregate" [("function", f.shape), ("column", .ofOption (Expr.shape? argument)),
      ("alias", .ofText? label)] false
  | .function name arguments label =>
    .record "Function" [("name", .ofText name), ("args", .list (Expr.shapes arguments)),
      ("alias", .ofText? label)] false
  | .constant text label =>
    .record "Constant" [("value", .ofText text), ("alias", .ofText? label)] false
  | .stringConstant text label =>
    .record "StringConstant" [("value", .ofText text), ("alias", .ofText? label)] false
  | .case expression label =>
    .record "Case" [("expression", expression.shape), ("alias", .ofText? label)] false

def Expr.shape? : Option Expr → Option Shape
  | none => none
  | some e => some e.shape

def Expr.shapes : List Expr → List Shape
  | [] => []
  | e :: es => e.shape :: Expr.shapes es

def Case.shape : Case → Shape
  | .searched branches otherwise =>
    .record "Searched" [("whens", .list (SearchedBranch.shapes branches)),
      ("else_value", .ofOption (CaseResult.shape? otherwise))] false
  | .simple operand branches otherwise =>
    .record "Simple" [("column", operand.shape), ("whens", .list (SimpleBranch.shapes branches)),
      ("else_value", .ofOption (CaseResult.shape? otherwise))] false

def SearchedBranch.shape : SearchedBranch → Shape
  | ⟨criteria, result⟩ => .tuple "" [.list (Criterion.shapes criteria), result.shape]

def SearchedBranch.shapes : List SearchedBranch → List Shape
  | [] => []
  | b :: bs => b.shape :: SearchedBranch.shapes bs

def SimpleBranch.shape : SimpleBranch → Shape
  | ⟨test, result⟩ => .tuple "" [test.shape, result.shape]

def SimpleBranch.shapes : List SimpleBranch → List Shape
  | [] => []
  | b :: bs => b.shape :: SimpleBranch.shapes bs

def SimpleTest.shape : SimpleTest → Shape
  | .values vs => .tuple "Values" [.list (vs.map Value.shape)]
  | .condition c => .tuple "Condition" [c.shape]

def CaseResult.shape : CaseResult → Shape
  | .stringConstant text => .tuple "StringConstant" [.ofText text]
  | .constant text => .tuple "Constant" [.ofText text]
  | .value v => .tuple "Value" [v.shape]
  | .expr e => .tuple "Column" [e.shape]

def CaseResult.shape? : Option CaseResult → Option Shape
  | none => none
  | some r => some r.shape

def Condition.shape : Condition → Shape
  | .empty => .word "Empty"
  | .noValue operator => .record "NoValue" [("operator", .ofText operator)] false
  | .single operator v ignoresCase =>
    .record "SingleValue" [("operator", .ofText operator), ("value", v.shape),
      ("case_insensitive", .ofBool ignoresCase)] false
  | .pair operator conjunction v w =>
    .record "TwoValue" [("operator1", .ofText operator), ("operator2", .ofText conjunction),
      ("value1", v.shape), ("value2", w.shape)] false
  | .list operator vs ignoresCase =>
    .record "ListValue" [("operator", .ofText operator), ("values", .list (vs.map Value.shape)),
      ("case_insensitive", .ofBool ignoresCase)] false
  | .comparison operator other =>
    .record "ColumnComparison" [("operator", .ofText operator), ("column", other.shape)] false
  | .subselect operator query =>
    .record "Subselect" [("operator", .ofText operator), ("select", query.shape)] false

def Predicate.shape : Predicate → Shape
  | .compare subject condition =>
    .record "Column" [("column", subject.shape), ("condition", condition.shape)] false
  | .existence query negated =>
    .record "Exists" [("select", query.shape), ("negated", .ofBool negated)] false
  | .negation criterion => .tuple "Not" [criterion.shape]

def Predicate.shape? : Option Predicate → Option Shape
  | none => none
  | some p => some p.shape

def Criterion.shape : Criterion → Shape
  | ⟨connector, predicate, attached⟩ =>
    .record "Criterion" [("connector", .ofOption (connector.map Connector.shape)),
      ("predicate", .ofOption (Predicate.shape? predicate)),
      ("sub_criteria", .list (Criterion.shapes attached))] false

def Criterion.shapes : List Criterion → List Shape
  | [] => []
  | c :: cs => c.shape :: Criterion.shapes cs

def Source.shape : Source → Shape
  | .table t => .tuple "Table" [t.shape]
  | .subquery query a =>
    .record "Subquery" [("select", query.shape), ("alias", .ofText? (some a))] false

def Source.shape? : Option Source → Option Shape
  | none => none
  | some s => some s.shape

def Join.shape : Join → Shape
  | ⟨kind, source, criteria⟩ =>
    .record "JoinSpecification" [("join_type", kind.shape), ("table", source.shape),
      ("criteria", .list (Criterion.shapes criteria))] false

def Join.shapes : List Join → List Shape
  | [] => []
  | j :: js => j.shape :: Join.shapes js

def QueryBlock.shape : QueryBlock → Shape
  | ⟨connector, distinct, columns, source, aliases, joins, criteria, groupBy, having⟩ =>
    .record "QueryExpressionModel" [("connector", .ofOption (connector.map SetOperator.shape)),
      ("distinct", .ofBool distinct), ("columns", .list (Expr.shapes columns)),
      ("table", .ofOption (Source.shape? source)), ("table_aliases", aliases.shape),
      ("join", .ofPresent (fun js => .record "JoinModel" [("specifications", .list js)] false)
        (Join.shapes joins)),
      ("where_", .ofClause (Criterion.shapes criteria)),
      ("group_by", .ofPresent (fun es => .record "GroupByModel" [("columns", .list es)] false)
        (Expr.shapes groupBy)),
      ("having", .ofClause (Criterion.shapes having))] false

def QueryBlock.shapes : List QueryBlock → List Shape
  | [] => []
  | b :: bs => b.shape :: QueryBlock.shapes bs

def Select.shape : Select → Shape
  | ⟨blocks, orderBy, paging⟩ =>
    .record "SelectModel" [("query_expressions", .list (QueryBlock.shapes blocks)),
      ("order_by", .ofOption (orderBy.map fun items =>
        .record "OrderByModel" [("columns", .list (items.map SortItem.shape))] false)),
      ("paging", .ofOption (paging.map Paging.shape))] false

end

/-- The shape of a mapping; what a supplier would supply is left unsaid. -/
def Mapping.shape (m : Mapping) : Shape :=
  let column := ("column", m.target.shape)
  match m.content with
  | .absent => .record "Empty" [column] false
  | .null => .record "Null" [column] false
  | .constant text => .record "Constant" [column, ("value", .ofText text)] false
  | .stringConstant text => .record "StringConstant" [column, ("value", .ofText text)] false
  | .value v => .record "Value" [column, ("value", v.shape)] false
  | .supplied _ => .record "ValueSupplier" [column] true
  | .property name => .record "Property" [column, ("property", .ofText name)] false
  | .expr e => .record "Column" [column, ("source", e.shape)] false
  | .subselect query => .record "Select" [column, ("select", query.shape)] false

def Mapping.inspect (m : Mapping) : String := m.shape.text

end SqlStatement
