import SqlStatement.Phrase
import SqlStatement.Query.Condition
import SqlStatement.Query.Expr
import SqlStatement.Text.Quoted

/-! # Queries as phrases

The phrase of every part of a query, under the scopes that are open around it. A part that has
nothing to say gives no phrase, and takes its keyword or connector with it.
-/

namespace SqlStatement

/-- The parts of a chain of criteria, each with the connector that joins it to those before. -/
abbrev Chain := List (Option Connector × Phrase)

namespace Chain

def link : Option Connector × Phrase → Phrase
  | (connector, p) => .after ((connector.getD .and).text ++ " ") p

/-- The parts one after the other. The first has no connector, whatever it brought. -/
def phrase? : Chain → Option Phrase
  | [] => none
  | (_, p) :: rest => some (.words (p :: rest.map link))

/-- A single operand: more than one part stands in parentheses. -/
def operand? (parts : Chain) : Option Phrase :=
  if parts.length > 1 then parts.phrase?.map (.between "(" · ")") else parts.phrase?

end Chain

namespace Phrase

def clause (keyword : String) (p : Option Phrase) : List Phrase :=
  (p.map (after (keyword ++ " "))).toList

def listClause (keyword : String) (ps : List Phrase) : List Phrase :=
  if ps.isEmpty then [] else [after (keyword ++ " ") (join ", " ps)]

/-- The words of a case expression. One in which no branch is written cannot stand. -/
def caseWords (opening : Phrase) (branches otherwise : List Phrase) : Phrase :=
  words (opening ::
    if branches.isEmpty then [fail .emptyCase] else branches ++ otherwise ++ [text "end"])

def caseBranch (test : Option Phrase) (result : Phrase) : List Phrase :=
  match test with
  | some t => [after "when " t, after "then " result]
  | none => []

def comparison? (subject : Phrase) (ignoresCase : Bool) (right : Option Phrase) : Option Phrase :=
  right.map fun r =>
    concat [if ignoresCase then between "upper(" subject ")" else subject, text " ", r]

end Phrase

namespace SortItem

def text (σ : Scopes) (s : SortItem) : String :=
  let key := match s.key with
    | .column c => c.label.getD (σ.columnName c)
    | .name n => n
  if s.descending then key ++ " DESC" else key

def clause (σ : Scopes) (items : List SortItem) : List Phrase :=
  if items.isEmpty then [] else [.text ("order by " ++ ", ".intercalate (items.map (text σ)))]

end SortItem

namespace Paging

/-- The paging clause; the style is asked for even where no count is given. -/
def phrases (p : Paging) : List Phrase :=
  let count (n : UInt64) : Phrase := .value none (.unsigned n)
  .needs p.style :: match p.style with
    | .limitOffset =>
      (p.rows.map fun n => Phrase.after "limit " (count n)).toList ++
        (p.offset.map fun n => Phrase.after "offset " (count n)).toList
    | .fetchFirst =>
      (p.offset.map fun n => Phrase.between "offset " (count n) " rows").toList ++
        (p.rows.map fun n => Phrase.between "fetch first " (count n) " rows only").toList

end Paging

namespace Select

/-- The scopes for the order by clause: those of the only block, or those around the select. -/
def orderScopes (σ : Scopes) : List QueryBlock → Scopes
  | [b] => b.scope :: σ
  | _ => σ

end Select

def Expr.selected (p : Phrase) (label : Option String) : Phrase :=
  match label with
  | some a => .concat [p, .text (" as " ++ a)]
  | none => p

/-- The clauses of a block, unless the block cannot be written at all. -/
def QueryBlock.guarded (fault : Option RenderError) (clauses : List Phrase) : Phrase :=
  match fault with
  | some e => .fail e
  | none => .words clauses

mutual

def Expr.phrase (σ : Scopes) : Expr → Phrase
  | .column c => .text (σ.columnName c)
  | .aggregate f argument _ =>
    .between f.opening (Expr.argumentPhrase σ argument) ")"
  | .function name arguments _ =>
    .between (name ++ "(") (.join ", " (Expr.phrases σ arguments)) ")"
  | .constant text _ => .text text
  | .stringConstant text _ => .text (Text.quote text)
  | .case expression _ => expression.phrase σ

def Expr.argumentPhrase (σ : Scopes) : Option Expr → Phrase
  | none => .text "*"
  | some e => e.phrase σ

def Expr.phrases (σ : Scopes) : List Expr → List Phrase
  | [] => []
  | e :: es => e.phrase σ :: Expr.phrases σ es

def Expr.selectPhrases (σ : Scopes) : List Expr → List Phrase
  | [] => []
  | e :: es => Expr.selected (e.phrase σ) e.label? :: Expr.selectPhrases σ es

def Case.phrase (σ : Scopes) : Case → Phrase
  | .searched branches otherwise =>
    if branches.isEmpty then .fail .emptyCase
    else .caseWords (.text "case") (SearchedBranch.phrases σ branches)
      (CaseResult.otherwisePhrases σ otherwise)
  | .simple operand branches otherwise =>
    if branches.isEmpty then .fail .emptyCase
    else .caseWords (.after "case " (operand.phrase σ))
      (SimpleBranch.phrases σ operand.bindingColumn branches)
      (CaseResult.otherwisePhrases σ otherwise)

def SearchedBranch.phrase (σ : Scopes) : SearchedBranch → List Phrase
  | ⟨criteria, result⟩ => Phrase.caseBranch (Criterion.chain σ criteria).phrase? (result.phrase σ)

def SearchedBranch.phrases (σ : Scopes) : List SearchedBranch → List Phrase
  | [] => []
  | b :: bs => b.phrase σ ++ SearchedBranch.phrases σ bs

def SimpleBranch.phrase (σ : Scopes) (column : Option Column) : SimpleBranch → List Phrase
  | ⟨test, result⟩ => Phrase.caseBranch (test.phrase? σ column) (result.phrase σ)

def SimpleBranch.phrases (σ : Scopes) (column : Option Column) : List SimpleBranch → List Phrase
  | [] => []
  | b :: bs => b.phrase σ column ++ SimpleBranch.phrases σ column bs

def SimpleTest.phrase? (σ : Scopes) (column : Option Column) : SimpleTest → Option Phrase
  | .values [] => none
  | .values (v :: vs) => some (.join ", " ((v :: vs).map (.value column)))
  | .condition c => c.right? σ column

def CaseResult.phrase (σ : Scopes) : CaseResult → Phrase
  | .stringConstant text => .text (Text.quote text)
  | .constant text => .text text
  | .value v => .value none v
  | .expr e => e.phrase σ

def CaseResult.otherwisePhrases (σ : Scopes) : Option CaseResult → List Phrase
  | none => []
  | some r => [.after "else " (r.phrase σ)]

/-- The operator of a condition and what follows it; values are bound for the given column. -/
def Condition.right? (σ : Scopes) (column : Option Column) : Condition → Option Phrase
  | .empty => none
  | .noValue operator => some (.text operator)
  | .single operator v _ => some (.after (operator ++ " ") (.value column v))
  | .pair operator conjunction v w =>
    some (.concat [.after (operator ++ " ") (.value column v),
      .after (" " ++ conjunction ++ " ") (.value column w)])
  | .list operator vs _ =>
    some (.between (operator ++ " (") (.join "," (vs.map (.value column))) ")")
  | .comparison operator other => some (.after (operator ++ " ") (other.phrase σ))
  | .subselect operator query => some (.between (operator ++ " (") (query.phrase σ) ")")

def Predicate.phrase? (σ : Scopes) : Predicate → Option Phrase
  | .compare subject condition =>
    Phrase.comparison? (subject.phrase σ) condition.ignoresCase
      (condition.right? σ subject.bindingColumn)
  | .existence query negated =>
    some (.between (if negated then "not exists (" else "exists (") (query.phrase σ) ")")
  | .negation criterion => (criterion.parts σ).phrase?.map (.between "not (" · ")")

def Criterion.parts (σ : Scopes) : Criterion → Chain
  | ⟨_, predicate, attached⟩ => Criterion.initialParts σ predicate ++ Criterion.chain σ attached

def Criterion.initialParts (σ : Scopes) : Option Predicate → Chain
  | none => []
  | some p => ((p.phrase? σ).map (none, ·)).toList

/-- Each criterion as one operand, with its connector. -/
def Criterion.chain (σ : Scopes) : List Criterion → Chain
  | [] => []
  | c :: cs => ((c.parts σ).operand?.map (c.connector, ·)).toList ++ Criterion.chain σ cs

def Source.phrase (σ : Scopes) : Source → Phrase
  | .table t => .text (σ.tableName t)
  | .subquery query a => .between "(" (query.phrase σ) (") " ++ a)

def Source.fromPhrases (σ : Scopes) : Option Source → List Phrase
  | none => []
  | some s => [.after "from " (s.phrase σ)]

def Join.phrase (σ : Scopes) : Join → Phrase
  | ⟨kind, source, criteria⟩ =>
    .words (.text kind.text :: source.phrase σ ::
      Phrase.clause "on" (Criterion.chain σ criteria).phrase?)

def Join.phrases (σ : Scopes) : List Join → List Phrase
  | [] => []
  | j :: js => j.phrase σ :: Join.phrases σ js

/-- The clauses of a block, under the scope that the block itself has opened. -/
def QueryBlock.clauses (σ : Scopes) : QueryBlock → List Phrase
  | ⟨_, distinct, columns, source, _, joins, criteria, groupBy, having⟩ =>
    .after (if distinct then "select distinct " else "select ")
        (.join ", " (Expr.selectPhrases σ columns)) ::
      (Source.fromPhrases σ source ++ Join.phrases σ joins ++
        Phrase.clause "where" (Criterion.chain σ criteria).phrase? ++
        Phrase.listClause "group by" (Expr.phrases σ groupBy) ++
        Phrase.clause "having" (Criterion.chain σ having).phrase?)

def QueryBlock.phrases (σ : Scopes) : List QueryBlock → List Phrase
  | [] => []
  | b :: bs =>
    (b.connector.map (Phrase.text ·.text)).toList ++
      (QueryBlock.guarded b.fault? (b.clauses (b.scope :: σ)) :: QueryBlock.phrases σ bs)

def Select.phrase (σ : Scopes) : Select → Phrase
  | ⟨blocks, orderBy, paging⟩ =>
    if blocks.isEmpty then .fail .emptySelect
    else .words (QueryBlock.phrases σ blocks ++
      (orderBy.map (SortItem.clause (Select.orderScopes σ blocks))).getD [] ++
      (paging.map Paging.phrases).getD [])

end

end SqlStatement
