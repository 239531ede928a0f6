import SqlStatement.Proofs.Phrase.Identities
import SqlStatement.Query.Phrase

/-! # Queries about tables with other identities

Names are looked up by the identity of a table, which is compared for equality and nothing else.
So a query has the phrase that it had when its tables get other identities, as long as different
identities stay different: the same texts, about the same columns of the tables as they are now.
-/

namespace SqlStatement

section Names

variable {φ : TableId → TableId}

def Aliases.remap (φ : TableId → TableId) (a : Aliases) : Aliases :=
  ⟨a.entries.map (Prod.map φ id)⟩

def Scope.remap (φ : TableId → TableId) (s : Scope) : Scope :=
  { s with aliases := s.aliases.remap φ, tables := s.tables.map φ }

def Scopes.remap (φ : TableId → TableId) (σ : Scopes) : Scopes := σ.map (Scope.remap φ)

variable (hφ : Function.Injective φ)

include hφ

theorem Aliases.find?_remap (a : Aliases) (t : TableId) :
    (a.remap φ).find? (φ t) = a.find? t := by
  obtain ⟨entries⟩ := a
  rw [remap, find?, find?]
  dsimp only
  induction entries with
  | nil => rfl
  | cons e entries ih =>
    have he : (φ t == φ e.1) = (t == e.1) := by
      rw [Bool.eq_iff_iff, beq_iff_eq, beq_iff_eq, hφ.eq_iff]
    rw [List.map_cons, List.lookup_cons, List.lookup_cons, ih]
    exact congrArg (fun b => bif b then some e.2 else entries.lookup t) he

namespace Scope

theorem holds_remap (s : Scope) (t : Table) : (s.remap φ).holds (t.remap φ) = s.holds t := by
  have ha : (s.remap φ).aliases.find? (t.remap φ).id = s.aliases.find? t.id :=
    s.aliases.find?_remap hφ t.id
  have ht : (s.tables.map φ).contains (φ t.id) = s.tables.contains t.id := by
    simp [hφ.eq_iff]
  rw [holds, holds, ha]
  exact congrArg _ ht

theorem ownQualifier_remap (s : Scope) (t : Table) :
    (s.remap φ).ownQualifier (t.remap φ) = s.ownQualifier t :=
  congrArg (Option.or · _) (s.aliases.find?_remap hφ t.id)

end Scope

namespace Scopes

theorem qualifier_remap (σ : Scopes) (t : Table) :
    (σ.remap φ).qualifier (t.remap φ) = σ.qualifier t := by
  induction σ with
  | nil => rfl
  | cons s σ ih =>
    change qualifier (s.remap φ :: remap φ σ) (t.remap φ) = _
    rw [qualifier, qualifier, ih, s.holds_remap hφ, s.ownQualifier_remap hφ]

theorem columnName_remap (σ : Scopes) (c : Column) :
    (σ.remap φ).columnName (c.remap φ) = σ.columnName c := by
  have hq : (c.remap φ).qualifier.or ((σ.remap φ).qualifier (c.remap φ).table) =
      c.qualifier.or (σ.qualifier c.table) :=
    congrArg c.qualifier.or (σ.qualifier_remap hφ c.table)
  rw [columnName, columnName, hq]
  rfl

theorem tableName_remap (σ : Scopes) (t : Table) :
    (σ.remap φ).tableName (t.remap φ) = σ.tableName t := by
  have ha : (σ.remap φ).tableAlias (t.remap φ) = σ.tableAlias t := by
    cases σ with
    | nil => rfl
    | cons s σ => exact s.aliases.find?_remap hφ t.id
  rw [tableName, tableName, ha]
  rfl

end Scopes

end Names

def SortKey.remap (φ : TableId → TableId) : SortKey → SortKey
  | column c => column (c.remap φ)
  | name s => name s

def SortItem.remap (φ : TableId → TableId) (s : SortItem) : SortItem :=
  { s with key := s.key.remap φ }

section Definitions

variable (φ : TableId → TableId)

mutual

/-- The expression about the same columns of tables under other identities. -/
def Expr.remap : Expr → Expr
  | .column c => .column (c.remap φ)
  | .aggregate f argument label => .aggregate f (Expr.remapArgument argument) label
  | .function name arguments label => .function name (Expr.remapAll arguments) label
  | .constant text label => .constant text label
  | .stringConstant text label => .stringConstant text label
  | .case expression label => .case expression.remap label

def Expr.remapArgument : Option Expr → Option Expr
  | none => none
  | some e => some e.remap

def Expr.remapAll : List Expr → List Expr
  | [] => []
  | e :: es => e.remap :: Expr.remapAll es

def Case.remap : Case → Case
  | .searched branches otherwise =>
    .searched (SearchedBranch.remapAll branches) (CaseResult.remapOtherwise otherwise)
  | .simple operand branches otherwise =>
    .simple operand.remap (SimpleBranch.remapAll branches) (CaseResult.remapOtherwise otherwise)

def SearchedBranch.remap : SearchedBranch → SearchedBranch
  | ⟨criteria, result⟩ => ⟨Criterion.remapAll criteria, result.remap⟩

def SearchedBranch.remapAll : List SearchedBranch → List SearchedBranch
  | [] => []
  | b :: bs => b.remap :: SearchedBranch.remapAll bs

def SimpleBranch.remap : SimpleBranch → SimpleBranch
  | ⟨test, result⟩ => ⟨test.remap, result.remap⟩

def SimpleBranch.remapAll : List SimpleBranch → List SimpleBranch
  | [] => []
  | b :: bs => b.remap :: SimpleBranch.remapAll bs

def SimpleTest.remap : SimpleTest → SimpleTest
  | .values vs => .values vs
  | .condition c => .condition c.remap

def CaseResult.remap : CaseResult → CaseResult
  | .stringConstant text => .stringConstant text
  | .constant text => .constant text
  | .value v => .value v
  | .expr e => .expr e.remap

def CaseResult.remapOtherwise : Option CaseResult → Option CaseResult
  | none => none
  | some r => some r.remap

def Condition.remap : Condition → Condition
  | .empty => .empty
  | .noValue operator => .noValue operator
  | .single operator v ignoresCase => .single operator v ignoresCase
  | .pair operator conjunction v w => .pair operator conjunction v w
  | .list operator vs ignoresCase => .list operator vs ignoresCase
  | .comparison operator other => .comparison operator other.remap
  | .subselect operator query => .subselect operator query.remap

def Predicate.remap : Predicate → Predicate
  | .compare subject condition => .compare subject.remap condition.remap
  | .existence query negated => .existence query.remap negated
  | .negation criterion => .negation criterion.remap

def Predicate.remapInitial : Option Predicate → Option Predicate
  | none => none
  | some p => some p.remap

def Criterion.remap : Criterion → Criterion
  | ⟨connector, predicate, attached⟩ =>
    ⟨connector, Predicate.remapInitial predicate, Criterion.remapAll attached⟩

def Criterion.remapAll : List Criterion → List Criterion
  | [] => []
  | c :: cs => c.remap :: Criterion.remapAll cs

def Source.remap : Source → Source
  | .table t => .table (t.remap φ)
  | .subquery query a => .subquery query.remap a

def Source.remapFrom : Option Source → Option Source
  | none => none
  | some s => some s.remap

def Join.remap : Join → Join
  | ⟨kind, source, criteria⟩ => ⟨kind, source.remap, Criterion.remapAll criteria⟩

def Join.remapAll : List Join → List Join
  | [] => []
  | j :: js => j.remap :: Join.remapAll js

def QueryBlock.remap : QueryBlock → QueryBlock
  | ⟨connector, distinct, columns, source, aliases, joins, criteria, groupBy, having⟩ =>
    ⟨connector, distinct, Expr.remapAll columns, Source.remapFrom source, aliases.remap φ,
      Join.remapAll joins, Criterion.remapAll criteria, Expr.remapAll groupBy,
      Criterion.remapAll having⟩

def QueryBlock.remapAll : List QueryBlock → List QueryBlock
  | [] => []
  | b :: bs => b.remap :: QueryBlock.remapAll bs

/-- The select over tables under other identities: those that it reads, those of its columns and
those that its blocks have aliases for. -/
def Select.remap : Select → Select
  | ⟨blocks, orderBy, paging⟩ =>
    ⟨QueryBlock.remapAll blocks, orderBy.map (List.map (SortItem.remap φ)), paging⟩

end

end Definitions

section Kept

variable {φ : TableId → TableId}

mutual

theorem Expr.bindingColumn_remap :
    ∀ e : Expr, (e.remap φ).bindingColumn = e.bindingColumn.map (Column.remap φ)
  | .column c => by rw [Expr.remap, Expr.bindingColumn, Expr.bindingColumn, Option.map_some]
  | .aggregate f argument _ => by
    rw [Expr.remap, Expr.bindingColumn, Expr.bindingColumn, Expr.argumentColumn_remap argument]
    split <;> rfl
  | .function name arguments _ => by
    rw [Expr.remap, Expr.bindingColumn, Expr.bindingColumn, Expr.firstColumn_remap arguments]
  | .constant s _ => by rw [Expr.remap, Expr.bindingColumn, Option.map_none]
  | .stringConstant s _ => by rw [Expr.remap, Expr.bindingColumn, Option.map_none]
  | .case expression _ => by rw [Expr.remap, Expr.bindingColumn, Expr.bindingColumn, Option.map_none]

theorem Expr.argumentColumn_remap : ∀ a : Option Expr,
    Expr.argumentColumn (Expr.remapArgument φ a) = (Expr.argumentColumn a).map (Column.remap φ)
  | none => by rw [Expr.remapArgument, Expr.argumentColumn, Option.map_none]
  | some e => by
    rw [Expr.remapArgument, Expr.argumentColumn, Expr.argumentColumn, Expr.bindingColumn_remap e]

theorem Expr.firstColumn_remap : ∀ es : List Expr,
    Expr.firstColumn (Expr.remapAll φ es) = (Expr.firstColumn es).map (Column.remap φ)
  | [] => by rw [Expr.remapAll, Expr.firstColumn, Option.map_none]
  | e :: es => by
    rw [Expr.remapAll, Expr.firstColumn, Expr.firstColumn, Expr.bindingColumn_remap e]

end

@[simp] theorem Expr.label?_remap (e : Expr) : (e.remap φ).label? = e.label? := by
  cases e <;> simp only [Expr.remap, Expr.label?, Column.remap]

@[simp] theorem Expr.isEmpty_remapAll (es : List Expr) :
    (Expr.remapAll φ es).isEmpty = es.isEmpty := by
  cases es <;> simp [Expr.remapAll]

@[simp] theorem SearchedBranch.isEmpty_remapAll (bs : List SearchedBranch) :
    (SearchedBranch.remapAll φ bs).isEmpty = bs.isEmpty := by
  cases bs <;> simp [SearchedBranch.remapAll]

@[simp] theorem SimpleBranch.isEmpty_remapAll (bs : List SimpleBranch) :
    (SimpleBranch.remapAll φ bs).isEmpty = bs.isEmpty := by
  cases bs <;> simp [SimpleBranch.remapAll]

@[simp] theorem Condition.ignoresCase_remap (c : Condition) :
    (c.remap φ).ignoresCase = c.ignoresCase := by
  cases c <;> simp only [Condition.remap, Condition.ignoresCase]

@[simp] theorem Criterion.connector_remap (c : Criterion) :
    (c.remap φ).connector = c.connector := by
  obtain ⟨connector, predicate, attached⟩ := c
  simp only [Criterion.remap]

namespace Source

@[simp] theorem table?_remap (s : Source) :
    (s.remap φ).table? = s.table?.map (Table.remap φ) := by
  cases s <;> simp [Source.remap, table?]

@[simp] theorem isBlank_remap (s : Source) : (s.remap φ).isBlank = s.isBlank := by
  cases s <;> simp [Source.remap, isBlank, Table.remap]

theorem remapFrom_eq (s : Option Source) : remapFrom φ s = s.map (remap φ) := by
  cases s <;> simp [remapFrom]

end Source

theorem Join.remapAll_eq (js : List Join) : Join.remapAll φ js = js.map (Join.remap φ) := by
  induction js with
  | nil => simp [Join.remapAll]
  | cons j js ih => simp [Join.remapAll, ih]

@[simp] theorem Join.source_remap (j : Join) : (j.remap φ).source = j.source.remap φ := by
  obtain ⟨kind, source, criteria⟩ := j
  simp only [Join.remap]

namespace QueryBlock

@[simp] theorem connector_remap (b : QueryBlock) : (b.remap φ).connector = b.connector := by
  cases b
  simp only [QueryBlock.remap]

theorem tables_remap (b : QueryBlock) : (b.remap φ).tables = b.tables.map (Table.remap φ) := by
  obtain ⟨connector, distinct, columns, source, aliases, joins, criteria, groupBy, having⟩ := b
  have hj : (Join.remapAll φ joins).map Join.source =
      (joins.map Join.source).map (Source.remap φ) := by
    simp [Join.remapAll_eq, Function.comp_def]
  have hs : (Source.remapFrom φ source).toList = source.toList.map (Source.remap φ) := by
    cases source <;> simp [Source.remapFrom_eq]
  have ht : Source.table? ∘ Source.remap φ = Option.map (Table.remap φ) ∘ Source.table? :=
    funext Source.table?_remap
  simp only [QueryBlock.remap, tables, hj, hs, ← List.map_append, List.filterMap_map, ht]
  exact List.map_filterMap.symm

theorem scope_remap (b : QueryBlock) : (b.remap φ).scope = b.scope.remap φ := by
  have hj : (b.remap φ).joins.isEmpty = b.joins.isEmpty := by
    cases b
    simp [QueryBlock.remap, Join.remapAll_eq]
  have ha : (b.remap φ).aliases = b.aliases.remap φ := by
    cases b
    simp only [QueryBlock.remap]
  have ht : (b.remap φ).tables.map Table.id = (b.tables.map Table.id).map φ := by
    simp [tables_remap, Table.remap, Function.comp_def]
  simp only [scope, Scope.remap, hj, ha, ht]

@[simp] theorem fault?_remap (b : QueryBlock) : (b.remap φ).fault? = b.fault? := by
  obtain ⟨connector, distinct, columns, source, aliases, joins, criteria, groupBy, having⟩ := b
  have hs : (Source.remapFrom φ source).all Source.isBlank = source.all Source.isBlank := by
    cases source <;> simp [Source.remapFrom_eq]
  simp only [QueryBlock.remap, fault?, hs, Expr.isEmpty_remapAll]

end QueryBlock

namespace Select

@[simp] theorem isEmpty_remapAll (blocks : List QueryBlock) :
    (QueryBlock.remapAll φ blocks).isEmpty = blocks.isEmpty := by
  cases blocks <;> simp [QueryBlock.remapAll]

theorem orderScopes_remapAll (σ : Scopes) (blocks : List QueryBlock) :
    orderScopes (σ.remap φ) (QueryBlock.remapAll φ blocks) = (orderScopes σ blocks).remap φ := by
  rcases blocks with _ | ⟨b, _ | ⟨c, blocks⟩⟩
  · simp only [QueryBlock.remapAll, orderScopes]
  · simp only [QueryBlock.remapAll, orderScopes, QueryBlock.scope_remap]
    rfl
  · simp only [QueryBlock.remapAll, orderScopes]

end Select

end Kept

section Pieces

variable {φ : TableId → TableId}

def Chain.remap (φ : TableId → TableId) (parts : Chain) : Chain :=
  parts.map (Prod.map id (Phrase.remap φ))

namespace Chain

theorem remap_append (parts others : Chain) :
    remap φ (parts ++ others) = parts.remap φ ++ others.remap φ := List.map_append

theorem remap_phrase? (parts : Chain) :
    (parts.remap φ).phrase? = parts.phrase?.map (Phrase.remap φ) := by
  cases parts with
  | nil => rfl
  | cons part rest =>
    have hl : link ∘ Prod.map id (Phrase.remap φ) = Phrase.remap φ ∘ link := by
      funext x
      exact (Phrase.remap_after _ _).symm
    simp [remap, phrase?, hl]

theorem remap_operand? (parts : Chain) :
    (parts.remap φ).operand? = parts.operand?.map (Phrase.remap φ) := by
  have hn : (parts.remap φ).length = parts.length := List.length_map _
  simp only [operand?, remap_phrase?, hn]
  split <;> simp [Function.comp_def]

end Chain

namespace Phrase

theorem remap_clause (keyword : String) (p : Option Phrase) :
    (clause keyword p).map (remap φ) = clause keyword (p.map (remap φ)) := by
  cases p <;> simp [clause]

theorem remap_listClause (keyword : String) (ps : List Phrase) :
    (listClause keyword ps).map (remap φ) = listClause keyword (ps.map (remap φ)) := by
  cases ps <;> simp [listClause]

theorem remap_caseWords (opening : Phrase) (branches otherwise : List Phrase) :
    (caseWords opening branches otherwise).remap φ =
      caseWords (opening.remap φ) (branches.map (remap φ)) (otherwise.map (remap φ)) := by
  cases branches <;> simp [caseWords]

theorem remap_caseBranch (test : Option Phrase) (result : Phrase) :
    (caseBranch test result).map (remap φ) =
      caseBranch (test.map (remap φ)) (result.remap φ) := by
  cases test <;> simp [caseBranch]

theorem remap_comparison? (subject : Phrase) (ignoresCase : Bool) (right : Option Phrase) :
    (comparison? subject ignoresCase right).map (remap φ) =
      comparison? (subject.remap φ) ignoresCase (right.map (remap φ)) := by
  cases right <;> cases ignoresCase <;> simp [comparison?]

end Phrase

theorem Expr.remap_selected (p : Phrase) (label : Option String) :
    (Expr.selected p label).remap φ = Expr.selected (p.remap φ) label := by
  cases label <;> simp [Expr.selected]

theorem QueryBlock.remap_guarded (fault : Option RenderError) (clauses : List Phrase) :
    (QueryBlock.guarded fault clauses).remap φ =
      QueryBlock.guarded fault (clauses.map (Phrase.remap φ)) := by
  cases fault <;> simp [QueryBlock.guarded]

theorem Paging.remap_phrases (p : Paging) : p.phrases.map (Phrase.remap φ) = p.phrases := by
  obtain ⟨style, rows, offset⟩ := p
  cases style <;> cases rows <;> cases offset <;> simp [Paging.phrases]

namespace SortItem

variable (hφ : Function.Injective φ)

include hφ

theorem text_remap (σ : Scopes) (s : SortItem) :
    (s.remap φ).text (σ.remap φ) = s.text σ := by
  obtain ⟨key, descending⟩ := s
  cases key with
  | column c =>
    have hc : c.label.getD ((σ.remap φ).columnName (c.remap φ)) =
        c.label.getD (σ.columnName c) := by rw [σ.columnName_remap hφ]
    simp only [text, remap, SortKey.remap]
    exact congrArg (fun key => if descending then key ++ " DESC" else key) hc
  | name n => rfl

theorem clause_remap (σ : Scopes) (items : List SortItem) :
    clause (σ.remap φ) (items.map (remap φ)) = (clause σ items).map (Phrase.remap φ) := by
  have ht : text (σ.remap φ) ∘ remap φ = text σ := funext (text_remap hφ σ)
  cases items with
  | nil => rfl
  | cons s items => simp only [clause, List.isEmpty_map, List.map_map, ht]; simp

end SortItem

end Pieces

section Phrases

-- Most cases use the hypothesis only through the others of the mutual block.
set_option linter.unusedSectionVars false

variable {φ : TableId → TableId} (hφ : Function.Injective φ)

include hφ

mutual

theorem Expr.phrase_remap (σ : Scopes) :
    ∀ e : Expr, (e.remap φ).phrase (σ.remap φ) = (e.phrase σ).remap φ
  | .column c => by
    simp only [Expr.remap, Expr.phrase, σ.columnName_remap hφ, Phrase.remap_text]
  | .aggregate f argument _ => by
    have ih := Expr.argumentPhrase_remap σ argument
    simp only [Expr.remap, Expr.phrase, Phrase.remap_between, ih]
  | .function name arguments _ => by
    have ih := Expr.phrases_remap σ arguments
    simp only [Expr.remap, Expr.phrase, Phrase.remap_between, Phrase.remap_join, ih]
  | .constant s _ => by simp only [Expr.remap, Expr.phrase, Phrase.remap_text]
  | .stringConstant s _ => by simp only [Expr.remap, Expr.phrase, Phrase.remap_text]
  | .case expression _ => by
    have ih := Case.phrase_remap σ expression
    simp only [Expr.remap, Expr.phrase, ih]

theorem Expr.argumentPhrase_remap (σ : Scopes) : ∀ a : Option Expr,
    Expr.argumentPhrase (σ.remap φ) (Expr.remapArgument φ a) = (Expr.argumentPhrase σ a).remap φ
  | none => by simp only [Expr.remapArgument, Expr.argumentPhrase, Phrase.remap_text]
  | some e => by
    have ih := Expr.phrase_remap σ e
    simp only [Expr.remapArgument, Expr.argumentPhrase, ih]

theorem Expr.phrases_remap (σ : Scopes) : ∀ es : List Expr,
    Expr.phrases (σ.remap φ) (Expr.remapAll φ es) = (Expr.phrases σ es).map (Phrase.remap φ)
  | [] => by simp only [Expr.remapAll, Expr.phrases, List.map_nil]
  | e :: es => by
    have he := Expr.phrase_remap σ e
    have ih := Expr.phrases_remap σ es
    simp only [Expr.remapAll, Expr.phrases, List.map_cons, he, ih]

theorem Expr.selectPhrases_remap (σ : Scopes) : ∀ es : List Expr,
    Expr.selectPhrases (σ.remap φ) (Expr.remapAll φ es) =
      (Expr.selectPhrases σ es).map (Phrase.remap φ)
  | [] => by simp only [Expr.remapAll, Expr.selectPhrases, List.map_nil]
  | e :: es => by
    have he := Expr.phrase_remap σ e
    have ih := Expr.selectPhrases_remap σ es
    simp only [Expr.remapAll, Expr.selectPhrases, List.map_cons, Expr.label?_remap,
      Expr.remap_selected, he, ih]

theorem Case.phrase_remap (σ : Scopes) :
    ∀ c : Case, (c.remap φ).phrase (σ.remap φ) = (c.phrase σ).remap φ
  | .searched branches otherwise => by
    have hb := SearchedBranch.phrases_remap σ branches
    have ho := CaseResult.otherwisePhrases_remap σ otherwise
    simp only [Case.remap, Case.phrase, SearchedBranch.isEmpty_remapAll, hb, ho]
    split
    · rw [Phrase.remap_fail]
    · rw [Phrase.remap_caseWords, Phrase.remap_text]
  | .simple operand branches otherwise => by
    have he := Expr.phrase_remap σ operand
    have hb := SimpleBranch.phrases_remap σ operand.bindingColumn branches
    have ho := CaseResult.otherwisePhrases_remap σ otherwise
    simp only [Case.remap, Case.phrase, SimpleBranch.isEmpty_remapAll, Expr.bindingColumn_remap,
      he, hb, ho]
    split
    · rw [Phrase.remap_fail]
    · rw [Phrase.remap_caseWords, Phrase.remap_after]

theorem SearchedBranch.phrase_remap (σ : Scopes) : ∀ b : SearchedBranch,
    (b.remap φ).phrase (σ.remap φ) = (b.phrase σ).map (Phrase.remap φ)
  | ⟨criteria, result⟩ => by
    have hc := Criterion.chain_remap σ criteria
    have hr := CaseResult.phrase_remap σ result
    simp only [SearchedBranch.remap, SearchedBranch.phrase, Phrase.remap_caseBranch, hc, hr,
      Chain.remap_phrase?]

theorem SearchedBranch.phrases_remap (σ : Scopes) : ∀ bs : List SearchedBranch,
    SearchedBranch.phrases (σ.remap φ) (SearchedBranch.remapAll φ bs) =
      (SearchedBranch.phrases σ bs).map (Phrase.remap φ)
  | [] => by simp only [SearchedBranch.remapAll, SearchedBranch.phrases, List.map_nil]
  | b :: bs => by
    have hb := SearchedBranch.phrase_remap σ b
    have ih := SearchedBranch.phrases_remap σ bs
    simp only [SearchedBranch.remapAll, SearchedBranch.phrases, List.map_append, hb, ih]

theorem SimpleBranch.phrase_remap (σ : Scopes) (column : Option Column) : ∀ b : SimpleBranch,
    (b.remap φ).phrase (σ.remap φ) (column.map (Column.remap φ)) =
      (b.phrase σ column).map (Phrase.remap φ)
  | ⟨test, result⟩ => by
    have ht := SimpleTest.phrase?_remap σ column test
    have hr := CaseResult.phrase_remap σ result
    simp only [SimpleBranch.remap, SimpleBranch.phrase, Phrase.remap_caseBranch, ht, hr]

theorem SimpleBranch.phrases_remap (σ : Scopes) (column : Option Column) :
    ∀ bs : List SimpleBranch,
      SimpleBranch.phrases (σ.remap φ) (column.map (Column.remap φ)) (SimpleBranch.remapAll φ bs) =
        (SimpleBranch.phrases σ column bs).map (Phrase.remap φ)
  | [] => by simp only [SimpleBranch.remapAll, SimpleBranch.phrases, List.map_nil]
  | b :: bs => by
    have hb := SimpleBranch.phrase_remap σ column b
    have ih := SimpleBranch.phrases_remap σ column bs
    simp only [SimpleBranch.remapAll, SimpleBranch.phrases, List.map_append, hb, ih]

theorem SimpleTest.phrase?_remap (σ : Scopes) (column : Option Column) : ∀ t : SimpleTest,
    (t.remap φ).phrase? (σ.remap φ) (column.map (Column.remap φ)) =
      (t.phrase? σ column).map (Phrase.remap φ)
  | .values [] => by simp only [SimpleTest.remap, SimpleTest.phrase?, Option.map_none]
  | .values (v :: vs) => by simp [SimpleTest.remap, SimpleTest.phrase?]
  | .condition c => by
    have ih := Condition.right?_remap σ column c
    simp only [SimpleTest.remap, SimpleTest.phrase?, ih]

theorem CaseResult.phrase_remap (σ : Scopes) :
    ∀ r : CaseResult, (r.remap φ).phrase (σ.remap φ) = (r.phrase σ).remap φ
  | .stringConstant s => by simp only [CaseResult.remap, CaseResult.phrase, Phrase.remap_text]
  | .constant s => by simp only [CaseResult.remap, CaseResult.phrase, Phrase.remap_text]
  | .value v => by
    simp only [CaseResult.remap, CaseResult.phrase, Phrase.remap_value, Option.map_none]
  | .expr e => by
    have ih := Expr.phrase_remap σ e
    simp only [CaseResult.remap, CaseResult.phrase, ih]

theorem CaseResult.otherwisePhrases_remap (σ : Scopes) : ∀ r : Option CaseResult,
    CaseResult.otherwisePhrases (σ.remap φ) (CaseResult.remapOtherwise φ r) =
      (CaseResult.otherwisePhrases σ r).map (Phrase.remap φ)
  | none => by
    simp only [CaseResult.remapOtherwise, CaseResult.otherwisePhrases, List.map_nil]
  | some r => by
    have ih := CaseResult.phrase_remap σ r
    simp only [CaseResult.remapOtherwise, CaseResult.otherwisePhrases, List.map_cons,
      List.map_nil, Phrase.remap_after, ih]

theorem Condition.right?_remap (σ : Scopes) (column : Option Column) : ∀ c : Condition,
    (c.remap φ).right? (σ.remap φ) (column.map (Column.remap φ)) =
      (c.right? σ column).map (Phrase.remap φ)
  | .empty => by simp only [Condition.remap, Condition.right?, Option.map_none]
  | .noValue operator => by simp [Condition.remap, Condition.right?]
  | .single operator v _ => by simp [Condition.remap, Condition.right?]
  | .pair operator conjunction v w => by simp [Condition.remap, Condition.right?]
  | .list operator vs _ => by simp [Condition.remap, Condition.right?, Function.comp_def]
  | .comparison operator other => by
    have ih := Expr.phrase_remap σ other
    simp only [Condition.remap, Condition.right?, Option.map_some, Phrase.remap_after, ih]
  | .subselect operator query => by
    have ih := Select.phrase_remap σ query
    simp only [Condition.remap, Condition.right?, Option.map_some, Phrase.remap_between, ih]

theorem Predicate.phrase?_remap (σ : Scopes) : ∀ p : Predicate,
    (p.remap φ).phrase? (σ.remap φ) = (p.phrase? σ).map (Phrase.remap φ)
  | .compare subject condition => by
    have hs := Expr.phrase_remap σ subject
    have hc := Condition.right?_remap σ subject.bindingColumn condition
    simp only [Predicate.remap, Predicate.phrase?, Condition.ignoresCase_remap,
      Expr.bindingColumn_remap, Phrase.remap_comparison?, hs, hc]
  | .existence query negated => by
    have ih := Select.phrase_remap σ query
    simp only [Predicate.remap, Predicate.phrase?, Option.map_some, Phrase.remap_between, ih]
  | .negation criterion => by
    have ih := Criterion.parts_remap σ criterion
    simp only [Predicate.remap, Predicate.phrase?, ih, Chain.remap_phrase?, Option.map_map,
      Function.comp_def, Phrase.remap_between]

theorem Criterion.parts_remap (σ : Scopes) : ∀ c : Criterion,
    (c.remap φ).parts (σ.remap φ) = (c.parts σ).remap φ
  | ⟨connector, predicate, attached⟩ => by
    have hi := Criterion.initialParts_remap σ predicate
    have ha := Criterion.chain_remap σ attached
    simp only [Criterion.remap, Criterion.parts, hi, ha, Chain.remap_append]

theorem Criterion.initialParts_remap (σ : Scopes) : ∀ p : Option Predicate,
    Criterion.initialParts (σ.remap φ) (Predicate.remapInitial φ p) =
      (Criterion.initialParts σ p).remap φ
  | none => by
    simp only [Predicate.remapInitial, Criterion.initialParts]
    rfl
  | some p => by
    have ih := Predicate.phrase?_remap σ p
    simp only [Predicate.remapInitial, Criterion.initialParts, ih]
    cases p.phrase? σ <;> rfl

theorem Criterion.chain_remap (σ : Scopes) : ∀ cs : List Criterion,
    Criterion.chain (σ.remap φ) (Criterion.remapAll φ cs) = (Criterion.chain σ cs).remap φ
  | [] => by
    simp only [Criterion.remapAll, Criterion.chain]
    rfl
  | c :: cs => by
    have hc := Criterion.parts_remap σ c
    have ih := Criterion.chain_remap σ cs
    simp only [Criterion.remapAll, Criterion.chain, Criterion.connector_remap, hc, ih,
      Chain.remap_operand?, Chain.remap_append]
    cases (c.parts σ).operand? <;> rfl

theorem Source.phrase_remap (σ : Scopes) :
    ∀ s : Source, (s.remap φ).phrase (σ.remap φ) = (s.phrase σ).remap φ
  | .table t => by simp only [Source.remap, Source.phrase, σ.tableName_remap hφ, Phrase.remap_text]
  | .subquery query a => by
    have ih := Select.phrase_remap σ query
    simp only [Source.remap, Source.phrase, Phrase.remap_between, ih]

theorem Source.fromPhrases_remap (σ : Scopes) : ∀ s : Option Source,
    Source.fromPhrases (σ.remap φ) (Source.remapFrom φ s) =
      (Source.fromPhrases σ s).map (Phrase.remap φ)
  | none => by simp only [Source.remapFrom, Source.fromPhrases, List.map_nil]
  | some s => by
    have ih := Source.phrase_remap σ s
    simp only [Source.remapFrom, Source.fromPhrases, List.map_cons, List.map_nil,
      Phrase.remap_after, ih]

theorem Join.phrase_remap (σ : Scopes) :
    ∀ j : Join, (j.remap φ).phrase (σ.remap φ) = (j.phrase σ).remap φ
  | ⟨kind, source, criteria⟩ => by
    have hs := Source.phrase_remap σ source
    have hc := Criterion.chain_remap σ criteria
    simp only [Join.remap, Join.phrase, Phrase.remap_words, List.map_cons, Phrase.remap_text,
      Phrase.remap_clause, hs, hc, Chain.remap_phrase?]

theorem Join.phrases_remap (σ : Scopes) : ∀ js : List Join,
    Join.phrases (σ.remap φ) (Join.remapAll φ js) = (Join.phrases σ js).map (Phrase.remap φ)
  | [] => by simp only [Join.remapAll, Join.phrases, List.map_nil]
  | j :: js => by
    have hj := Join.phrase_remap σ j
    have ih := Join.phrases_remap σ js
    simp only [Join.remapAll, Join.phrases, List.map_cons, hj, ih]

theorem QueryBlock.clauses_remap (σ : Scopes) : ∀ b : QueryBlock,
    (b.remap φ).clauses (σ.remap φ) = (b.clauses σ).map (Phrase.remap φ)
  | ⟨_, distinct, columns, source, _, joins, criteria, groupBy, having⟩ => by
    have hcolumns := Expr.selectPhrases_remap σ columns
    have hsource := Source.fromPhrases_remap σ source
    have hjoins := Join.phrases_remap σ joins
    have hcriteria := Criterion.chain_remap σ criteria
    have hgroup := Expr.phrases_remap σ groupBy
    have hhaving := Criterion.chain_remap σ having
    simp only [QueryBlock.remap, QueryBlock.clauses, List.map_cons, List.map_append,
      Phrase.remap_after, Phrase.remap_join, Phrase.remap_clause, Phrase.remap_listClause,
      Chain.remap_phrase?, hcolumns, hsource, hjoins, hcriteria, hgroup, hhaving]

theorem QueryBlock.phrases_remap (σ : Scopes) : ∀ bs : List QueryBlock,
    QueryBlock.phrases (σ.remap φ) (QueryBlock.remapAll φ bs) =
      (QueryBlock.phrases σ bs).map (Phrase.remap φ)
  | [] => by simp only [QueryBlock.remapAll, QueryBlock.phrases, List.map_nil]
  | b :: bs => by
    -- A block opens a scope of its own, which is that of the renamed block.
    have hb : (b.remap φ).clauses ((b.remap φ).scope :: σ.remap φ) =
        (b.clauses (b.scope :: σ)).map (Phrase.remap φ) := by
      rw [b.scope_remap]
      exact QueryBlock.clauses_remap (b.scope :: σ) b
    have ih := QueryBlock.phrases_remap σ bs
    simp only [QueryBlock.remapAll, QueryBlock.phrases, QueryBlock.connector_remap,
      QueryBlock.fault?_remap, List.map_append, List.map_cons, QueryBlock.remap_guarded, hb, ih]
    cases b.connector <;> simp

/-- A select over tables with other identities has the phrase that it had, about its columns as
they are now. -/
theorem Select.phrase_remap (σ : Scopes) :
    ∀ q : Select, (q.remap φ).phrase (σ.remap φ) = (q.phrase σ).remap φ
  | ⟨blocks, orderBy, paging⟩ => by
    have hb := QueryBlock.phrases_remap σ blocks
    have ho : ((orderBy.map (List.map (SortItem.remap φ))).map
          (SortItem.clause ((Select.orderScopes σ blocks).remap φ))).getD [] =
        ((orderBy.map (SortItem.clause (Select.orderScopes σ blocks))).getD []).map
          (Phrase.remap φ) := by
      cases orderBy with
      | none => rfl
      | some items => exact SortItem.clause_remap hφ _ items
    have hp : ((paging.map Paging.phrases).getD []).map (Phrase.remap φ) =
        (paging.map Paging.phrases).getD [] := by
      cases paging with
      | none => rfl
      | some p => exact p.remap_phrases
    simp only [Select.remap, Select.phrase, Select.isEmpty_remapAll, Select.orderScopes_remapAll,
      hb, ho]
    split
    · rw [Phrase.remap_fail]
    · rw [Phrase.remap_words, List.map_append, List.map_append, hp]

end

end Phrases

end SqlStatement
