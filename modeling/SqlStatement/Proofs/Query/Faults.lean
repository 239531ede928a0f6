import SqlStatement.Proofs.Query.Sites

/-! # The faults of a query

A phrase of a query has the faults of the sites of the query, in their order, under whatever
scopes. What cannot be written is a select without blocks, a block without a named table or a
sub-select to start from or without columns, a case expression none of whose branches is written,
and paging in a style that the strategy lacks; nothing else.
-/

namespace SqlStatement

namespace Part

/-- Why the part itself cannot be written, whatever its own parts are. -/
def faults (strategy : Strategy) : Part → List RenderError
  | column _ => []
  | case c => if c.isBare then [.emptyCase] else []
  | block b => b.fault?.toList
  | select q => if q.blocks.isEmpty then [.emptySelect] else []
  | paging p =>
    if strategy.supports p.style then [] else [.unsupportedPaging strategy.name p.style]

end Part

namespace Site

def faults (strategy : Strategy) (x : Site) : List RenderError := x.part.faults strategy

end Site

section Combinations

variable {strategy : Strategy}

namespace Phrase

@[simp] theorem faults_clause (keyword : String) (p : Option Phrase) :
    (clause keyword p).flatMap (faults strategy) = p.toList.flatMap (faults strategy) := by
  cases p <;> simp [clause]

@[simp] theorem faults_listClause (keyword : String) (ps : List Phrase) :
    (listClause keyword ps).flatMap (faults strategy) = ps.flatMap (faults strategy) := by
  cases ps <;> simp [listClause]

@[simp] theorem faults_caseWords (opening : Phrase) (branches otherwise : List Phrase) :
    (caseWords opening branches otherwise).faults strategy = opening.faults strategy ++
      if branches.isEmpty then [.emptyCase]
      else branches.flatMap (faults strategy) ++ otherwise.flatMap (faults strategy) := by
  rw [caseWords]
  split <;> simp

theorem faults_case {isEmpty isBare : Bool} {opening : Phrase} {branches otherwise : List Phrase}
    (he : isEmpty = true → branches = []) (hb : branches = [] ↔ isBare = true) :
    (if isEmpty then fail .emptyCase else caseWords opening branches otherwise).faults strategy =
      (if isEmpty then [] else opening.faults strategy) ++
        (branches.flatMap (faults strategy) ++ ((if isBare then [.emptyCase] else []) ++
          if isBare then [] else otherwise.flatMap (faults strategy))) := by
  cases isBare with
  | true =>
    obtain rfl := hb.2 rfl
    cases isEmpty <;> simp
  | false =>
    have hne : branches ≠ [] := fun h => Bool.false_ne_true (hb.1 h)
    cases isEmpty with
    | true => exact absurd (he rfl) hne
    | false => simp [hne]

@[simp] theorem faults_caseBranch (test : Option Phrase) (result : Phrase) :
    (caseBranch test result).flatMap (faults strategy) =
      if test = none then []
      else test.toList.flatMap (faults strategy) ++ result.faults strategy := by
  cases test <;> simp [caseBranch]

@[simp] theorem faults_comparison? (subject : Phrase) (ignoresCase : Bool) (right : Option Phrase) :
    (comparison? subject ignoresCase right).toList.flatMap (faults strategy) =
      if right = none then []
      else subject.faults strategy ++ right.toList.flatMap (faults strategy) := by
  cases right <;> cases ignoresCase <;> simp [comparison?]

end Phrase

namespace Chain

def faults (strategy : Strategy) (parts : Chain) : List RenderError :=
  parts.flatMap (·.2.faults strategy)

@[simp] theorem faults_nil : faults strategy [] = [] := rfl

@[simp] theorem faults_append (parts rest : Chain) :
    faults strategy (parts ++ rest) = parts.faults strategy ++ rest.faults strategy := by
  simp [faults]

@[simp] theorem faults_operand (k : Option Connector) (p : Option Phrase) :
    faults strategy (p.map (k, ·)).toList = p.toList.flatMap (Phrase.faults strategy) := by
  cases p <;> simp [faults]

@[simp] theorem faults_phrase? (parts : Chain) :
    parts.phrase?.toList.flatMap (Phrase.faults strategy) = parts.faults strategy := by
  cases parts <;> simp [phrase?, faults, link, List.flatMap_map]

@[simp] theorem faults_phrase?_between (s t : String) (parts : Chain) :
    (parts.phrase?.map (Phrase.between s · t)).toList.flatMap (Phrase.faults strategy) =
      parts.faults strategy := by
  rw [← faults_phrase?]
  cases parts.phrase? <;> simp

@[simp] theorem faults_operand? (parts : Chain) :
    parts.operand?.toList.flatMap (Phrase.faults strategy) = parts.faults strategy := by
  rw [operand?]
  split <;> simp

end Chain

@[simp] theorem Expr.faults_selected (p : Phrase) (label : Option String) :
    (Expr.selected p label).faults strategy = p.faults strategy := by
  cases label <;> simp [Expr.selected]

@[simp] theorem SortItem.faults_clause (σ : Scopes) (items : List SortItem) :
    (SortItem.clause σ items).flatMap (Phrase.faults strategy) = [] := by
  cases items <;> simp [clause]

theorem SortItem.faults_sites (n : Nesting) (s : SortItem) :
    (s.sites n).flatMap (Site.faults strategy) = [] := by
  rw [sites]
  split
  · split <;> rfl
  · rfl

@[simp] theorem Paging.faults_phrases (p : Paging) :
    p.phrases.flatMap (Phrase.faults strategy) = (Part.paging p).faults strategy := by
  obtain ⟨style, rows, offset⟩ := p
  cases style <;> cases rows <;> cases offset <;> simp [phrases, Part.faults]

@[simp] theorem QueryBlock.faults_guarded (fault : Option RenderError) (clauses : List Phrase) :
    (guarded fault clauses).faults strategy =
      fault.toList ++ if fault.isSome then [] else clauses.flatMap (Phrase.faults strategy) := by
  cases fault <;> simp [guarded]

end Combinations

section Queries

variable {strategy : Strategy}

mutual

theorem Expr.faults_phrase (σ : Scopes) (n : Nesting) :
    ∀ e : Expr, (e.phrase σ).faults strategy = (e.sites n).flatMap (Site.faults strategy)
  | .column c => by simp [Expr.phrase, Expr.sites, Site.faults, Part.faults]
  | .aggregate f argument _ => by
    simp [Expr.phrase, Expr.sites, Expr.faults_argumentPhrase σ n argument]
  | .function name arguments _ => by
    simp [Expr.phrase, Expr.sites, Expr.faults_phrases σ n arguments]
  | .constant s _ => by simp [Expr.phrase, Expr.sites]
  | .stringConstant s _ => by simp [Expr.phrase, Expr.sites]
  | .case expression _ => by
    rw [Expr.phrase, Expr.sites]
    exact Case.faults_phrase σ n expression

theorem Expr.faults_argumentPhrase (σ : Scopes) (n : Nesting) :
    ∀ a : Option Expr, (Expr.argumentPhrase σ a).faults strategy =
      (Expr.argumentSites n a).flatMap (Site.faults strategy)
  | none => by simp [Expr.argumentPhrase, Expr.argumentSites]
  | some e => by
    rw [Expr.argumentPhrase, Expr.argumentSites]
    exact Expr.faults_phrase σ n e

theorem Expr.faults_phrases (σ : Scopes) (n : Nesting) :
    ∀ es : List Expr, (Expr.phrases σ es).flatMap (Phrase.faults strategy) =
      (Expr.allSites n es).flatMap (Site.faults strategy)
  | [] => by simp [Expr.phrases, Expr.allSites]
  | e :: es => by
    rw [Expr.phrases, Expr.allSites, List.flatMap_cons, List.flatMap_append,
      Expr.faults_phrase σ n e, Expr.faults_phrases σ n es]

theorem Expr.faults_selectPhrases (σ : Scopes) (n : Nesting) :
    ∀ es : List Expr, (Expr.selectPhrases σ es).flatMap (Phrase.faults strategy) =
      (Expr.allSites n es).flatMap (Site.faults strategy)
  | [] => by simp [Expr.selectPhrases, Expr.allSites]
  | e :: es => by
    rw [Expr.selectPhrases, Expr.allSites, List.flatMap_cons, List.flatMap_append,
      Expr.faults_selected, Expr.faults_phrase σ n e, Expr.faults_selectPhrases σ n es]

theorem Case.faults_phrase (σ : Scopes) (n : Nesting) :
    ∀ c : Case, (c.phrase σ).faults strategy = (c.sites n).flatMap (Site.faults strategy)
  | .searched branches otherwise => by
    have he : branches.isEmpty = true → SearchedBranch.phrases σ branches = [] := fun h => by
      rw [List.isEmpty_iff.1 h, SearchedBranch.phrases]
    rw [Case.phrase, Phrase.faults_case he SearchedBranch.phrases_eq_nil_iff, Case.sites,
      SearchedBranch.faults_phrases σ n branches, CaseResult.faults_otherwisePhrases σ n otherwise]
    simp [Site.faults, Part.faults, Case.isBare, apply_ite (List.flatMap _)]
  | .simple operand branches otherwise => by
    have he : branches.isEmpty = true →
        SimpleBranch.phrases σ operand.bindingColumn branches = [] := fun h => by
      rw [List.isEmpty_iff.1 h, SimpleBranch.phrases]
    rw [Case.phrase, Phrase.faults_case he SimpleBranch.phrases_eq_nil_iff, Case.sites,
      Phrase.faults_after, Expr.faults_phrase σ n operand,
      SimpleBranch.faults_phrases σ n operand.bindingColumn branches,
      CaseResult.faults_otherwisePhrases σ n otherwise]
    simp [Site.faults, Part.faults, Case.isBare, apply_ite (List.flatMap _)]

theorem SearchedBranch.faults_phrase (σ : Scopes) (n : Nesting) :
    ∀ b : SearchedBranch, (b.phrase σ).flatMap (Phrase.faults strategy) =
      (b.sites n).flatMap (Site.faults strategy)
  | ⟨criteria, result⟩ => by
    rw [SearchedBranch.phrase, SearchedBranch.sites, Phrase.faults_caseBranch, Chain.faults_phrase?,
      Criterion.faults_chain σ n criteria, CaseResult.faults_phrase σ n result]
    simp only [Criterion.phrase?_chain_eq_none_iff, List.isEmpty_iff]
    split <;> simp

theorem SearchedBranch.faults_phrases (σ : Scopes) (n : Nesting) :
    ∀ branches : List SearchedBranch,
      (SearchedBranch.phrases σ branches).flatMap (Phrase.faults strategy) =
        (SearchedBranch.allSites n branches).flatMap (Site.faults strategy)
  | [] => by simp [SearchedBranch.phrases, SearchedBranch.allSites]
  | b :: branches => by
    rw [SearchedBranch.phrases, SearchedBranch.allSites, List.flatMap_append, List.flatMap_append,
      SearchedBranch.faults_phrase σ n b, SearchedBranch.faults_phrases σ n branches]

theorem SimpleBranch.faults_phrase (σ : Scopes) (n : Nesting) (column : Option Column) :
    ∀ b : SimpleBranch, (b.phrase σ column).flatMap (Phrase.faults strategy) =
      (b.sites n).flatMap (Site.faults strategy)
  | ⟨test, result⟩ => by
    rw [SimpleBranch.phrase, SimpleBranch.sites, Phrase.faults_caseBranch,
      SimpleTest.faults_phrase? σ n column test, CaseResult.faults_phrase σ n result]
    simp only [SimpleTest.phrase?_eq_none_iff]
    split <;> simp

theorem SimpleBranch.faults_phrases (σ : Scopes) (n : Nesting) (column : Option Column) :
    ∀ branches : List SimpleBranch,
      (SimpleBranch.phrases σ column branches).flatMap (Phrase.faults strategy) =
        (SimpleBranch.allSites n branches).flatMap (Site.faults strategy)
  | [] => by simp [SimpleBranch.phrases, SimpleBranch.allSites]
  | b :: branches => by
    rw [SimpleBranch.phrases, SimpleBranch.allSites, List.flatMap_append, List.flatMap_append,
      SimpleBranch.faults_phrase σ n column b, SimpleBranch.faults_phrases σ n column branches]

theorem SimpleTest.faults_phrase? (σ : Scopes) (n : Nesting) (column : Option Column) :
    ∀ t : SimpleTest, (t.phrase? σ column).toList.flatMap (Phrase.faults strategy) =
      (t.sites n).flatMap (Site.faults strategy)
  | .values [] => by simp [SimpleTest.phrase?, SimpleTest.sites]
  | .values (v :: vs) => by simp [SimpleTest.phrase?, SimpleTest.sites, List.flatMap_map]
  | .condition c => by
    rw [SimpleTest.phrase?, SimpleTest.sites]
    exact Condition.faults_right? σ n column c

theorem CaseResult.faults_phrase (σ : Scopes) (n : Nesting) :
    ∀ r : CaseResult, (r.phrase σ).faults strategy = (r.sites n).flatMap (Site.faults strategy)
  | .stringConstant s => by simp [CaseResult.phrase, CaseResult.sites]
  | .constant s => by simp [CaseResult.phrase, CaseResult.sites]
  | .value v => by simp [CaseResult.phrase, CaseResult.sites]
  | .expr e => by
    rw [CaseResult.phrase, CaseResult.sites]
    exact Expr.faults_phrase σ n e

theorem CaseResult.faults_otherwisePhrases (σ : Scopes) (n : Nesting) :
    ∀ r : Option CaseResult,
      (CaseResult.otherwisePhrases σ r).flatMap (Phrase.faults strategy) =
        (CaseResult.otherwiseSites n r).flatMap (Site.faults strategy)
  | none => by simp [CaseResult.otherwisePhrases, CaseResult.otherwiseSites]
  | some r => by
    simp [CaseResult.otherwisePhrases, CaseResult.otherwiseSites, CaseResult.faults_phrase σ n r]

theorem Condition.faults_right? (σ : Scopes) (n : Nesting) (column : Option Column) :
    ∀ c : Condition, (c.right? σ column).toList.flatMap (Phrase.faults strategy) =
      (c.sites n).flatMap (Site.faults strategy)
  | .empty => by simp [Condition.right?, Condition.sites]
  | .noValue operator => by simp [Condition.right?, Condition.sites]
  | .single operator v _ => by simp [Condition.right?, Condition.sites]
  | .pair operator conjunction v w => by simp [Condition.right?, Condition.sites]
  | .list operator vs _ => by simp [Condition.right?, Condition.sites, List.flatMap_map]
  | .comparison operator other => by
    simp [Condition.right?, Condition.sites, Expr.faults_phrase σ n other]
  | .subselect operator query => by
    simp [Condition.right?, Condition.sites, Select.faults_phrase σ n query]

theorem Predicate.faults_phrase? (σ : Scopes) (n : Nesting) :
    ∀ p : Predicate, (p.phrase? σ).toList.flatMap (Phrase.faults strategy) =
      (p.sites n).flatMap (Site.faults strategy)
  | .compare subject condition => by
    rw [Predicate.phrase?, Predicate.sites, Phrase.faults_comparison?,
      Expr.faults_phrase σ n subject, Condition.faults_right? σ n _ condition]
    simp only [Condition.right?_eq_none_iff]
    split <;> simp
  | .existence query negated => by
    simp [Predicate.phrase?, Predicate.sites, Select.faults_phrase σ n query]
  | .negation criterion => by
    rw [Predicate.phrase?, Predicate.sites, Chain.faults_phrase?_between]
    exact Criterion.faults_parts σ n criterion

theorem Criterion.faults_parts (σ : Scopes) (n : Nesting) :
    ∀ c : Criterion, (c.parts σ).faults strategy = (c.sites n).flatMap (Site.faults strategy)
  | ⟨_, predicate, attached⟩ => by
    rw [Criterion.parts, Criterion.sites, Chain.faults_append, List.flatMap_append,
      Criterion.faults_initialParts σ n predicate, Criterion.faults_chain σ n attached]

theorem Criterion.faults_initialParts (σ : Scopes) (n : Nesting) :
    ∀ p : Option Predicate, (Criterion.initialParts σ p).faults strategy =
      (Predicate.initialSites n p).flatMap (Site.faults strategy)
  | none => by simp [Criterion.initialParts, Predicate.initialSites]
  | some p => by
    rw [Criterion.initialParts, Predicate.initialSites, Chain.faults_operand]
    exact Predicate.faults_phrase? σ n p

theorem Criterion.faults_chain (σ : Scopes) (n : Nesting) :
    ∀ cs : List Criterion, (Criterion.chain σ cs).faults strategy =
      (Criterion.allSites n cs).flatMap (Site.faults strategy)
  | [] => by simp [Criterion.chain, Criterion.allSites]
  | c :: cs => by
    rw [Criterion.chain, Criterion.allSites, Chain.faults_append, List.flatMap_append,
      Chain.faults_operand, Chain.faults_operand?, Criterion.faults_parts σ n c,
      Criterion.faults_chain σ n cs]

theorem Source.faults_phrase (σ : Scopes) (n : Nesting) :
    ∀ s : Source, (s.phrase σ).faults strategy = (s.sites n).flatMap (Site.faults strategy)
  | .table t => by simp [Source.phrase, Source.sites]
  | .subquery query a => by simp [Source.phrase, Source.sites, Select.faults_phrase σ n query]

theorem Source.faults_fromPhrases (σ : Scopes) (n : Nesting) :
    ∀ s : Option Source, (Source.fromPhrases σ s).flatMap (Phrase.faults strategy) =
      (Source.fromSites n s).flatMap (Site.faults strategy)
  | none => by simp [Source.fromPhrases, Source.fromSites]
  | some s => by simp [Source.fromPhrases, Source.fromSites, Source.faults_phrase σ n s]

theorem Join.faults_phrase (σ : Scopes) (n : Nesting) :
    ∀ j : Join, (j.phrase σ).faults strategy = (j.sites n).flatMap (Site.faults strategy)
  | ⟨kind, source, criteria⟩ => by
    simp [Join.phrase, Join.sites, Source.faults_phrase σ n source,
      Criterion.faults_chain σ n criteria]

theorem Join.faults_phrases (σ : Scopes) (n : Nesting) :
    ∀ js : List Join, (Join.phrases σ js).flatMap (Phrase.faults strategy) =
      (Join.allSites n js).flatMap (Site.faults strategy)
  | [] => by simp [Join.phrases, Join.allSites]
  | j :: js => by
    rw [Join.phrases, Join.allSites, List.flatMap_cons, List.flatMap_append,
      Join.faults_phrase σ n j, Join.faults_phrases σ n js]

theorem QueryBlock.faults_clauses (σ : Scopes) (n : Nesting) :
    ∀ b : QueryBlock, (b.clauses σ).flatMap (Phrase.faults strategy) =
      (b.sites n).flatMap (Site.faults strategy)
  | ⟨_, distinct, columns, source, _, joins, criteria, groupBy, having⟩ => by
    simp [QueryBlock.clauses, QueryBlock.sites, Expr.faults_selectPhrases σ n columns,
      Source.faults_fromPhrases σ n source, Join.faults_phrases σ n joins,
      Criterion.faults_chain σ n criteria, Expr.faults_phrases σ n groupBy,
      Criterion.faults_chain σ n having]

theorem QueryBlock.faults_phrases (σ : Scopes) (n : Nesting) :
    ∀ blocks : List QueryBlock, (QueryBlock.phrases σ blocks).flatMap (Phrase.faults strategy) =
      (QueryBlock.allSites n blocks).flatMap (Site.faults strategy)
  | [] => by simp [QueryBlock.phrases, QueryBlock.allSites]
  | b :: blocks => by
    have hk : (b.connector.map (Phrase.text ·.text)).toList.flatMap (Phrase.faults strategy) =
        [] := by
      cases b.connector <;> simp
    have hb : (b.clauses (b.scope :: σ)).flatMap (Phrase.faults strategy) =
        (b.sites (n.within b)).flatMap (Site.faults strategy) :=
      QueryBlock.faults_clauses (b.scope :: σ) (n.within b) b
    rw [QueryBlock.phrases, QueryBlock.allSites, List.flatMap_append, List.flatMap_cons, hk,
      QueryBlock.faults_guarded, hb, QueryBlock.faults_phrases σ n blocks]
    simp only [List.nil_append, List.flatMap_cons, List.flatMap_append, List.append_assoc]
    split <;> rfl

/-- A select has the faults of its sites, under whatever scopes. -/
theorem Select.faults_phrase (σ : Scopes) (n : Nesting) :
    ∀ q : Select, (q.phrase σ).faults strategy = (q.sites n).flatMap (Site.faults strategy)
  | ⟨blocks, orderBy, paging⟩ => by
    have hb := QueryBlock.faults_phrases σ n blocks
    have ho : ((orderBy.map (SortItem.clause (Select.orderScopes σ blocks))).getD []).flatMap
        (Phrase.faults strategy) = [] := by
      cases orderBy <;> simp
    have hs : ((orderBy.getD []).flatMap (SortItem.sites (Select.orderNesting n blocks))).flatMap
        (Site.faults strategy) = [] := by
      rw [List.flatMap_assoc]
      exact List.flatMap_eq_nil_iff.2 fun s _ => s.faults_sites _
    have hp : ((paging.map Paging.phrases).getD []).flatMap (Phrase.faults strategy) =
        (paging.toList.map fun p => (⟨n, .paging p⟩ : Site)).flatMap (Site.faults strategy) := by
      cases paging <;> simp [Site.faults]
    rw [Select.phrase, Select.sites, List.flatMap_cons]
    cases blocks with
    | nil => simp [Site.faults, Part.faults]
    | cons b rest =>
      have hq : Site.faults strategy ⟨n, .select ⟨b :: rest, orderBy, paging⟩⟩ = [] := rfl
      simp only [List.isEmpty_cons, Bool.false_eq_true, if_false, Phrase.faults_words,
        List.flatMap_append, hb, ho, hs, hp, hq, List.nil_append, List.append_nil]

end

end Queries

end SqlStatement
