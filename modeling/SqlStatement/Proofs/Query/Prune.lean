import SqlStatement.Proofs.Query.Agreement

/-! # Queries without their absent parts

Criteria, groups and negations in which nothing is left, and branches whose test is left out, can
be deleted from a query everywhere. The phrase stays the same, unless the query cannot be written
before or after.
-/

namespace SqlStatement

mutual

/-- The expression without the absent parts of what it holds. -/
def Expr.prune : Expr → Expr
  | .column c => .column c
  | .aggregate f argument label => .aggregate f (Expr.pruneArgument argument) label
  | .function name arguments label => .function name (Expr.pruneAll arguments) label
  | .constant text label => .constant text label
  | .stringConstant text label => .stringConstant text label
  | .case expression label => .case expression.prune label

def Expr.pruneArgument : Option Expr → Option Expr
  | none => none
  | some e => some e.prune

def Expr.pruneAll : List Expr → List Expr
  | [] => []
  | e :: es => e.prune :: Expr.pruneAll es

def Case.prune : Case → Case
  | .searched branches otherwise =>
    .searched (SearchedBranch.pruneAll branches) (CaseResult.pruneOtherwise otherwise)
  | .simple operand branches otherwise =>
    .simple operand.prune (SimpleBranch.pruneAll branches) (CaseResult.pruneOtherwise otherwise)

def SearchedBranch.prune : SearchedBranch → SearchedBranch
  | ⟨criteria, result⟩ => ⟨Criterion.pruneAll criteria, result.prune⟩

def SearchedBranch.pruneAll : List SearchedBranch → List SearchedBranch
  | [] => []
  | b :: bs =>
    if b.isAbsent then SearchedBranch.pruneAll bs else b.prune :: SearchedBranch.pruneAll bs

def SimpleBranch.prune : SimpleBranch → SimpleBranch
  | ⟨test, result⟩ => ⟨test.prune, result.prune⟩

def SimpleBranch.pruneAll : List SimpleBranch → List SimpleBranch
  | [] => []
  | b :: bs =>
    if b.isAbsent then SimpleBranch.pruneAll bs else b.prune :: SimpleBranch.pruneAll bs

def SimpleTest.prune : SimpleTest → SimpleTest
  | .values vs => .values vs
  | .condition c => .condition c.prune

def CaseResult.prune : CaseResult → CaseResult
  | .stringConstant text => .stringConstant text
  | .constant text => .constant text
  | .value v => .value v
  | .expr e => .expr e.prune

def CaseResult.pruneOtherwise : Option CaseResult → Option CaseResult
  | none => none
  | some r => some r.prune

def Condition.prune : Condition → Condition
  | .empty => .empty
  | .noValue operator => .noValue operator
  | .single operator v ignoresCase => .single operator v ignoresCase
  | .pair operator conjunction v w => .pair operator conjunction v w
  | .list operator vs ignoresCase => .list operator vs ignoresCase
  | .comparison operator other => .comparison operator other.prune
  | .subselect operator query => .subselect operator query.prune

def Predicate.prune : Predicate → Predicate
  | .compare subject condition => .compare subject.prune condition.prune
  | .existence query negated => .existence query.prune negated
  | .negation criterion => .negation criterion.prune

/-- The predicate that a criterion starts from, if anything is left of it. -/
def Predicate.pruneInitial : Option Predicate → Option Predicate
  | none => none
  | some p => if p.leaves.isEmpty then none else some p.prune

def Criterion.prune : Criterion → Criterion
  | ⟨connector, predicate, attached⟩ =>
    ⟨connector, Predicate.pruneInitial predicate, Criterion.pruneAll attached⟩

/-- The criteria of which anything is left. -/
def Criterion.pruneAll : List Criterion → List Criterion
  | [] => []
  | c :: cs => if c.leaves.isEmpty then Criterion.pruneAll cs else c.prune :: Criterion.pruneAll cs

def Source.prune : Source → Source
  | .table t => .table t
  | .subquery query a => .subquery query.prune a

def Source.pruneFrom : Option Source → Option Source
  | none => none
  | some s => some s.prune

def Join.prune : Join → Join
  | ⟨kind, source, criteria⟩ => ⟨kind, source.prune, Criterion.pruneAll criteria⟩

def Join.pruneAll : List Join → List Join
  | [] => []
  | j :: js => j.prune :: Join.pruneAll js

def QueryBlock.prune : QueryBlock → QueryBlock
  | ⟨connector, distinct, columns, source, aliases, joins, criteria, groupBy, having⟩ =>
    ⟨connector, distinct, Expr.pruneAll columns, Source.pruneFrom source, aliases,
      Join.pruneAll joins, Criterion.pruneAll criteria, Expr.pruneAll groupBy,
      Criterion.pruneAll having⟩

def QueryBlock.pruneAll : List QueryBlock → List QueryBlock
  | [] => []
  | b :: bs => b.prune :: QueryBlock.pruneAll bs

/-- The select without criteria that say nothing and branches without a test, at any depth. -/
def Select.prune : Select → Select
  | ⟨blocks, orderBy, paging⟩ => ⟨QueryBlock.pruneAll blocks, orderBy, paging⟩

end

mutual

@[simp] theorem Expr.bindingColumn_prune : ∀ e : Expr, e.prune.bindingColumn = e.bindingColumn
  | .column c => by rw [Expr.prune]
  | .aggregate f argument _ => by
    rw [Expr.prune, Expr.bindingColumn, Expr.bindingColumn, Expr.argumentColumn_prune argument]
  | .function name arguments _ => by
    rw [Expr.prune, Expr.bindingColumn, Expr.bindingColumn, Expr.firstColumn_prune arguments]
  | .constant s _ => by rw [Expr.prune]
  | .stringConstant s _ => by rw [Expr.prune]
  | .case expression _ => by rw [Expr.prune, Expr.bindingColumn, Expr.bindingColumn]

theorem Expr.argumentColumn_prune :
    ∀ a : Option Expr, Expr.argumentColumn (Expr.pruneArgument a) = Expr.argumentColumn a
  | none => by rw [Expr.pruneArgument]
  | some e => by
    rw [Expr.pruneArgument, Expr.argumentColumn, Expr.argumentColumn, Expr.bindingColumn_prune e]

theorem Expr.firstColumn_prune :
    ∀ es : List Expr, Expr.firstColumn (Expr.pruneAll es) = Expr.firstColumn es
  | [] => by rw [Expr.pruneAll]
  | e :: es => by
    rw [Expr.pruneAll, Expr.firstColumn, Expr.firstColumn, Expr.bindingColumn_prune e]

end

@[simp] theorem Expr.label?_prune (e : Expr) : e.prune.label? = e.label? := by
  cases e <;> simp only [Expr.prune, Expr.label?]

@[simp] theorem Expr.isEmpty_pruneAll (es : List Expr) :
    (Expr.pruneAll es).isEmpty = es.isEmpty := by
  cases es <;> simp [Expr.pruneAll]

@[simp] theorem Condition.ignoresCase_prune (c : Condition) :
    c.prune.ignoresCase = c.ignoresCase := by
  cases c <;> simp only [Condition.prune, Condition.ignoresCase]

@[simp] theorem Criterion.connector_prune (c : Criterion) : c.prune.connector = c.connector := by
  cases c
  rw [Criterion.prune]

namespace Source

@[simp] theorem table?_prune (s : Source) : s.prune.table? = s.table? := by
  cases s <;> simp only [Source.prune, table?]

@[simp] theorem isBlank_prune (s : Source) : s.prune.isBlank = s.isBlank := by
  cases s <;> simp only [Source.prune, isBlank]

theorem pruneFrom_eq (s : Option Source) : pruneFrom s = s.map prune := by
  cases s <;> simp [pruneFrom]

end Source

theorem Join.pruneAll_eq (js : List Join) : Join.pruneAll js = js.map Join.prune := by
  induction js with
  | nil => rw [Join.pruneAll, List.map_nil]
  | cons j js ih => rw [Join.pruneAll, ih, List.map_cons]

@[simp] theorem Join.source_prune (j : Join) : j.prune.source = j.source.prune := by
  cases j
  rw [Join.prune]

namespace QueryBlock

@[simp] theorem connector_prune (b : QueryBlock) : b.prune.connector = b.connector := by
  cases b
  rw [QueryBlock.prune]

@[simp] theorem tables_prune (b : QueryBlock) : b.prune.tables = b.tables := by
  obtain ⟨connector, distinct, columns, source, aliases, joins, criteria, groupBy, having⟩ := b
  have hj : (Join.pruneAll joins).map Join.source = (joins.map Join.source).map Source.prune := by
    rw [Join.pruneAll_eq, List.map_map, List.map_map]
    exact List.map_congr_left fun j _ => j.source_prune
  have hs : (Source.pruneFrom source).toList = source.toList.map Source.prune := by
    rw [Source.pruneFrom_eq]
    cases source <;> rfl
  have ht : Source.table? ∘ Source.prune = Source.table? := funext Source.table?_prune
  rw [QueryBlock.prune, tables, tables, hj, hs, ← List.map_append, List.filterMap_map, ht]

@[simp] theorem scope_prune (b : QueryBlock) : b.prune.scope = b.scope := by
  have hj : b.prune.joins.isEmpty = b.joins.isEmpty := by
    cases b
    rw [QueryBlock.prune, Join.pruneAll_eq, List.isEmpty_map]
  have ha : b.prune.aliases = b.aliases := by
    cases b
    rw [QueryBlock.prune]
  rw [scope, tables_prune, hj, ha, scope]

@[simp] theorem fault?_prune (b : QueryBlock) : b.prune.fault? = b.fault? := by
  obtain ⟨connector, distinct, columns, source, aliases, joins, criteria, groupBy, having⟩ := b
  have hs : (Source.pruneFrom source).all Source.isBlank = source.all Source.isBlank := by
    rw [Source.pruneFrom_eq]
    cases source <;> simp
  rw [QueryBlock.prune, fault?, fault?]
  simp only [hs, Expr.isEmpty_pruneAll]

end QueryBlock

namespace Select

@[simp] theorem isEmpty_pruneAll (blocks : List QueryBlock) :
    (QueryBlock.pruneAll blocks).isEmpty = blocks.isEmpty := by
  cases blocks <;> simp [QueryBlock.pruneAll]

@[simp] theorem orderScopes_pruneAll (σ : Scopes) (blocks : List QueryBlock) :
    orderScopes σ (QueryBlock.pruneAll blocks) = orderScopes σ blocks := by
  rcases blocks with _ | ⟨b, _ | ⟨c, blocks⟩⟩
  · rw [QueryBlock.pruneAll]
  · rw [QueryBlock.pruneAll, QueryBlock.pruneAll, orderScopes, orderScopes, QueryBlock.scope_prune]
  · rw [QueryBlock.pruneAll, QueryBlock.pruneAll]
    rfl

end Select

section Phrases

variable {S : Strategy}

open Phrase (faults faultsOfAll faultsOfOption)

mutual

theorem Expr.agree_prune (σ : Scopes) :
    ∀ e : Expr, Agree (faults S) (e.prune.phrase σ) (e.phrase σ)
  | .column c => by
    rw [Expr.prune]
    exact .refl _
  | .aggregate f argument _ => by
    rw [Expr.prune, Expr.phrase, Expr.phrase]
    exact (Expr.agree_pruneArgument σ argument).between f.opening ")"
  | .function name arguments _ => by
    rw [Expr.prune, Expr.phrase, Expr.phrase]
    exact ((Expr.agree_pruneAll σ arguments).join ", ").between (name ++ "(") ")"
  | .constant s _ => by
    rw [Expr.prune]
    exact .refl _
  | .stringConstant s _ => by
    rw [Expr.prune]
    exact .refl _
  | .case expression _ => by
    rw [Expr.prune, Expr.phrase, Expr.phrase]
    exact Case.agree_prune σ expression

theorem Expr.agree_pruneArgument (σ : Scopes) : ∀ a : Option Expr,
    Agree (faults S) (Expr.argumentPhrase σ (Expr.pruneArgument a)) (Expr.argumentPhrase σ a)
  | none => by
    rw [Expr.pruneArgument]
    exact .refl _
  | some e => by
    rw [Expr.pruneArgument, Expr.argumentPhrase, Expr.argumentPhrase]
    exact Expr.agree_prune σ e

theorem Expr.agree_pruneAll (σ : Scopes) : ∀ es : List Expr,
    Agree (faultsOfAll S) (Expr.phrases σ (Expr.pruneAll es)) (Expr.phrases σ es)
  | [] => by
    rw [Expr.pruneAll]
    exact .refl _
  | e :: es => by
    rw [Expr.pruneAll, Expr.phrases, Expr.phrases]
    exact (Expr.agree_prune σ e).cons (Expr.agree_pruneAll σ es)

theorem Expr.agree_select_pruneAll (σ : Scopes) : ∀ es : List Expr,
    Agree (faultsOfAll S) (Expr.selectPhrases σ (Expr.pruneAll es)) (Expr.selectPhrases σ es)
  | [] => by
    rw [Expr.pruneAll]
    exact .refl _
  | e :: es => by
    rw [Expr.pruneAll, Expr.selectPhrases, Expr.selectPhrases, Expr.label?_prune]
    exact ((Expr.agree_prune σ e).selected e.label?).cons (Expr.agree_select_pruneAll σ es)

theorem Case.agree_prune (σ : Scopes) :
    ∀ c : Case, Agree (faults S) (c.prune.phrase σ) (c.phrase σ)
  | .searched branches otherwise => by
    have hn {bs : List SearchedBranch} (h : bs.isEmpty = true) :
        SearchedBranch.phrases σ bs = [] := by
      rw [List.isEmpty_iff.1 h, SearchedBranch.phrases]
    have hw := (Agree.refl (.text "case")).caseWords (SearchedBranch.agree_pruneAll σ branches)
      (CaseResult.agree_pruneOtherwise σ otherwise)
    rw [Case.prune, Case.phrase, Case.phrase]
    -- A case that loses all its branches fails as one that never had any, only later.
    exact ((Agree.emptyCase _ hn _ _).trans hw).trans (Agree.emptyCase _ hn _ _).symm
  | .simple operand branches otherwise => by
    have hn {bs : List SimpleBranch} (h : bs.isEmpty = true) :
        SimpleBranch.phrases σ operand.bindingColumn bs = [] := by
      rw [List.isEmpty_iff.1 h, SimpleBranch.phrases]
    have hw := ((Expr.agree_prune σ operand).after "case ").caseWords
      (SimpleBranch.agree_pruneAll σ operand.bindingColumn branches)
      (CaseResult.agree_pruneOtherwise σ otherwise)
    rw [Case.prune, Case.phrase, Case.phrase, Expr.bindingColumn_prune]
    exact ((Agree.emptyCase _ hn _ _).trans hw).trans (Agree.emptyCase _ hn _ _).symm

theorem SearchedBranch.agree_prune (σ : Scopes) :
    ∀ b : SearchedBranch, Agree (faultsOfAll S) (b.prune.phrase σ) (b.phrase σ)
  | ⟨criteria, result⟩ => by
    rw [SearchedBranch.prune, SearchedBranch.phrase, SearchedBranch.phrase]
    exact (Criterion.agree_pruneAll σ criteria).phrase?.caseBranch (CaseResult.agree_prune σ result)

theorem SearchedBranch.agree_pruneAll (σ : Scopes) : ∀ branches : List SearchedBranch,
    Agree (faultsOfAll S) (SearchedBranch.phrases σ (SearchedBranch.pruneAll branches))
      (SearchedBranch.phrases σ branches)
  | [] => by
    rw [SearchedBranch.pruneAll]
    exact .refl _
  | b :: branches => by
    rw [SearchedBranch.pruneAll, SearchedBranch.phrases]
    split
    next ha =>
      rw [SearchedBranch.phrase_eq_nil_iff.2 ha, List.nil_append]
      exact SearchedBranch.agree_pruneAll σ branches
    next =>
      rw [SearchedBranch.phrases]
      exact (SearchedBranch.agree_prune σ b).append (SearchedBranch.agree_pruneAll σ branches)

theorem SimpleBranch.agree_prune (σ : Scopes) (column : Option Column) :
    ∀ b : SimpleBranch, Agree (faultsOfAll S) (b.prune.phrase σ column) (b.phrase σ column)
  | ⟨test, result⟩ => by
    rw [SimpleBranch.prune, SimpleBranch.phrase, SimpleBranch.phrase]
    exact (SimpleTest.agree_prune σ column test).caseBranch (CaseResult.agree_prune σ result)

theorem SimpleBranch.agree_pruneAll (σ : Scopes) (column : Option Column) :
    ∀ branches : List SimpleBranch,
      Agree (faultsOfAll S) (SimpleBranch.phrases σ column (SimpleBranch.pruneAll branches))
        (SimpleBranch.phrases σ column branches)
  | [] => by
    rw [SimpleBranch.pruneAll]
    exact .refl _
  | b :: branches => by
    rw [SimpleBranch.pruneAll, SimpleBranch.phrases]
    split
    next ha =>
      rw [SimpleBranch.phrase_eq_nil_iff.2 ha, List.nil_append]
      exact SimpleBranch.agree_pruneAll σ column branches
    next =>
      rw [SimpleBranch.phrases]
      exact (SimpleBranch.agree_prune σ column b).append
        (SimpleBranch.agree_pruneAll σ column branches)

theorem SimpleTest.agree_prune (σ : Scopes) (column : Option Column) : ∀ t : SimpleTest,
    Agree (faultsOfOption S) (t.prune.phrase? σ column) (t.phrase? σ column)
  | .values vs => by
    rw [SimpleTest.prune]
    exact .refl _
  | .condition c => by
    rw [SimpleTest.prune, SimpleTest.phrase?, SimpleTest.phrase?]
    exact Condition.agree_prune σ column c

theorem CaseResult.agree_prune (σ : Scopes) :
    ∀ r : CaseResult, Agree (faults S) (r.prune.phrase σ) (r.phrase σ)
  | .stringConstant s => by
    rw [CaseResult.prune]
    exact .refl _
  | .constant s => by
    rw [CaseResult.prune]
    exact .refl _
  | .value v => by
    rw [CaseResult.prune]
    exact .refl _
  | .expr e => by
    rw [CaseResult.prune, CaseResult.phrase, CaseResult.phrase]
    exact Expr.agree_prune σ e

theorem CaseResult.agree_pruneOtherwise (σ : Scopes) : ∀ r : Option CaseResult,
    Agree (faultsOfAll S) (CaseResult.otherwisePhrases σ (CaseResult.pruneOtherwise r))
      (CaseResult.otherwisePhrases σ r)
  | none => by
    rw [CaseResult.pruneOtherwise]
    exact .refl _
  | some r => by
    rw [CaseResult.pruneOtherwise, CaseResult.otherwisePhrases, CaseResult.otherwisePhrases]
    exact ((CaseResult.agree_prune σ r).after "else ").singleton

theorem Condition.agree_prune (σ : Scopes) (column : Option Column) : ∀ c : Condition,
    Agree (faultsOfOption S) (c.prune.right? σ column) (c.right? σ column)
  | .empty => by
    rw [Condition.prune]
    exact .refl _
  | .noValue operator => by
    rw [Condition.prune]
    exact .refl _
  | .single operator v _ => by
    rw [Condition.prune]
    exact .refl _
  | .pair operator conjunction v w => by
    rw [Condition.prune]
    exact .refl _
  | .list operator vs _ => by
    rw [Condition.prune]
    exact .refl _
  | .comparison operator other => by
    rw [Condition.prune, Condition.right?, Condition.right?]
    exact ((Expr.agree_prune σ other).after (operator ++ " ")).some
  | .subselect operator query => by
    rw [Condition.prune, Condition.right?, Condition.right?]
    exact ((Select.agree_prune σ query).between (operator ++ " (") ")").some

theorem Predicate.agree_prune (σ : Scopes) : ∀ p : Predicate,
    Agree (faultsOfOption S) (p.prune.phrase? σ) (p.phrase? σ)
  | .compare subject condition => by
    rw [Predicate.prune, Predicate.phrase?, Predicate.phrase?, Expr.bindingColumn_prune,
      Condition.ignoresCase_prune]
    exact (Expr.agree_prune σ subject).comparison? condition.ignoresCase
      (Condition.agree_prune σ subject.bindingColumn condition)
  | .existence query negated => by
    rw [Predicate.prune, Predicate.phrase?, Predicate.phrase?]
    exact ((Select.agree_prune σ query).between _ ")").some
  | .negation criterion => by
    rw [Predicate.prune, Predicate.phrase?, Predicate.phrase?]
    exact (Criterion.agree_prune σ criterion).phrase?.map_between "not (" ")"

theorem Criterion.agree_prune (σ : Scopes) : ∀ c : Criterion,
    Agree (Chain.faults S) (c.prune.parts σ) (c.parts σ)
  | ⟨connector, predicate, attached⟩ => by
    rw [Criterion.prune, Criterion.parts, Criterion.parts]
    exact (Predicate.agree_pruneInitial σ predicate).chain_append
      (Criterion.agree_pruneAll σ attached)

theorem Predicate.agree_pruneInitial (σ : Scopes) : ∀ p : Option Predicate,
    Agree (Chain.faults S) (Criterion.initialParts σ (Predicate.pruneInitial p))
      (Criterion.initialParts σ p)
  | none => by
    rw [Predicate.pruneInitial]
    exact .refl _
  | some p => by
    rw [Predicate.pruneInitial, Criterion.initialParts]
    split
    next h =>
      rw [(p.phrase?_eq_none_iff σ).2 (List.isEmpty_iff.1 h), Criterion.initialParts]
      exact .refl _
    next =>
      rw [Criterion.initialParts]
      exact (Predicate.agree_prune σ p).operand none

theorem Criterion.agree_pruneAll (σ : Scopes) : ∀ cs : List Criterion,
    Agree (Chain.faults S) (Criterion.chain σ (Criterion.pruneAll cs)) (Criterion.chain σ cs)
  | [] => by
    rw [Criterion.pruneAll]
    exact .refl _
  | c :: cs => by
    rw [Criterion.pruneAll, Criterion.chain]
    split
    next h =>
      rw [(c.parts_eq_nil_iff σ).2 (List.isEmpty_iff.1 h)]
      exact Criterion.agree_pruneAll σ cs
    next =>
      rw [Criterion.chain, Criterion.connector_prune]
      exact ((Criterion.agree_prune σ c).operand?.operand c.connector).chain_append
        (Criterion.agree_pruneAll σ cs)

theorem Source.agree_prune (σ : Scopes) :
    ∀ s : Source, Agree (faults S) (s.prune.phrase σ) (s.phrase σ)
  | .table t => by
    rw [Source.prune]
    exact .refl _
  | .subquery query a => by
    rw [Source.prune, Source.phrase, Source.phrase]
    exact (Select.agree_prune σ query).between "(" (") " ++ a)

theorem Source.agree_pruneFrom (σ : Scopes) : ∀ s : Option Source,
    Agree (faultsOfAll S) (Source.fromPhrases σ (Source.pruneFrom s)) (Source.fromPhrases σ s)
  | none => by
    rw [Source.pruneFrom]
    exact .refl _
  | some s => by
    rw [Source.pruneFrom, Source.fromPhrases, Source.fromPhrases]
    exact ((Source.agree_prune σ s).after "from ").singleton

theorem Join.agree_prune (σ : Scopes) :
    ∀ j : Join, Agree (faults S) (j.prune.phrase σ) (j.phrase σ)
  | ⟨kind, source, criteria⟩ => by
    rw [Join.prune, Join.phrase, Join.phrase]
    have hc := (Criterion.agree_pruneAll σ criteria).phrase?.clause "on"
    exact ((Agree.refl (.text kind.text)).cons ((Source.agree_prune σ source).cons hc)).join " "

theorem Join.agree_pruneAll (σ : Scopes) : ∀ js : List Join,
    Agree (faultsOfAll S) (Join.phrases σ (Join.pruneAll js)) (Join.phrases σ js)
  | [] => by
    rw [Join.pruneAll]
    exact .refl _
  | j :: js => by
    rw [Join.pruneAll, Join.phrases, Join.phrases]
    exact (Join.agree_prune σ j).cons (Join.agree_pruneAll σ js)

theorem QueryBlock.agree_prune (σ : Scopes) : ∀ b : QueryBlock,
    Agree (faultsOfAll S) (b.prune.clauses σ) (b.clauses σ)
  | ⟨_, distinct, columns, source, _, joins, criteria, groupBy, having⟩ => by
    have hc := ((Expr.agree_select_pruneAll σ columns).join ", ").after
      (if distinct then "select distinct " else "select ")
    have hs := (Source.agree_pruneFrom σ source).append (Join.agree_pruneAll σ joins)
    have hw := (Criterion.agree_pruneAll σ criteria).phrase?.clause "where"
    have hg := (Expr.agree_pruneAll σ groupBy).listClause "group by"
    have hh := (Criterion.agree_pruneAll σ having).phrase?.clause "having"
    rw [QueryBlock.prune, QueryBlock.clauses, QueryBlock.clauses]
    exact hc.cons (((hs.append hw).append hg).append hh)

theorem QueryBlock.agree_pruneAll (σ : Scopes) : ∀ blocks : List QueryBlock,
    Agree (faultsOfAll S) (QueryBlock.phrases σ (QueryBlock.pruneAll blocks))
      (QueryBlock.phrases σ blocks)
  | [] => by
    rw [QueryBlock.pruneAll]
    exact .refl _
  | b :: blocks => by
    have hb := (QueryBlock.agree_prune (b.scope :: σ) b).guarded b.fault?
    rw [QueryBlock.pruneAll, QueryBlock.phrases, QueryBlock.phrases, QueryBlock.connector_prune,
      QueryBlock.fault?_prune, QueryBlock.scope_prune]
    exact (Agree.refl _).append (hb.cons (QueryBlock.agree_pruneAll σ blocks))

/-- A select without its absent parts has the same phrase, unless both are at fault. -/
theorem Select.agree_prune (σ : Scopes) :
    ∀ q : Select, Agree (faults S) (q.prune.phrase σ) (q.phrase σ)
  | ⟨blocks, orderBy, paging⟩ => by
    rw [Select.prune, Select.phrase, Select.phrase, Select.isEmpty_pruneAll,
      Select.orderScopes_pruneAll]
    split
    next => exact .refl _
    next =>
      exact (((QueryBlock.agree_pruneAll σ blocks).append (.refl _)).append (.refl _)).join " "

end

end Phrases

end SqlStatement
