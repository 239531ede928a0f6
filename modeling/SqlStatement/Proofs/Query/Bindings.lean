import SqlStatement.Proofs.Query.Leaves

/-! # The values of a query

The values that a query binds, in the order of the query itself: an expression before what it is
compared with, a clause before the next. Parts that are left out bind nothing. A phrase of the
query that can be written binds these values and no others.
-/

namespace SqlStatement

namespace Paging

def bindings (p : Paging) : List Binding :=
  let count (n : UInt64) : Binding := ⟨none, .value (.unsigned n)⟩
  match p.style with
  | .limitOffset => p.rows.toList.map count ++ p.offset.toList.map count
  | .fetchFirst => p.offset.toList.map count ++ p.rows.toList.map count

end Paging

namespace SimpleTest

def isEmpty : SimpleTest → Bool
  | values vs => vs.isEmpty
  | condition c => c.isEmpty

end SimpleTest

mutual

def Expr.bindings : Expr → List Binding
  | .column _ | .constant .. | .stringConstant .. => []
  | .aggregate _ argument _ => Expr.argumentBindings argument
  | .function _ arguments _ => Expr.allBindings arguments
  | .case expression _ => expression.bindings

def Expr.argumentBindings : Option Expr → List Binding
  | none => []
  | some e => e.bindings

def Expr.allBindings : List Expr → List Binding
  | [] => []
  | e :: es => e.bindings ++ Expr.allBindings es

def Case.bindings : Case → List Binding
  | .searched branches otherwise =>
    SearchedBranch.allBindings branches ++ CaseResult.otherwiseBindings otherwise
  | .simple operand branches otherwise =>
    operand.bindings ++ SimpleBranch.allBindings operand.bindingColumn branches ++
      CaseResult.otherwiseBindings otherwise

/-- A branch whose test is left out takes its result with it. -/
def SearchedBranch.bindings : SearchedBranch → List Binding
  | ⟨criteria, result⟩ =>
    if (Criterion.allLeaves criteria).isEmpty then []
    else Criterion.allBindings criteria ++ result.bindings

def SearchedBranch.allBindings : List SearchedBranch → List Binding
  | [] => []
  | b :: bs => b.bindings ++ SearchedBranch.allBindings bs

def SimpleBranch.bindings (column : Option Column) : SimpleBranch → List Binding
  | ⟨test, result⟩ => if test.isEmpty then [] else test.bindings column ++ result.bindings

def SimpleBranch.allBindings (column : Option Column) : List SimpleBranch → List Binding
  | [] => []
  | b :: bs => b.bindings column ++ SimpleBranch.allBindings column bs

def SimpleTest.bindings (column : Option Column) : SimpleTest → List Binding
  | .values vs => vs.map fun v => ⟨column, .value v⟩
  | .condition c => c.bindings column

def CaseResult.bindings : CaseResult → List Binding
  | .stringConstant _ | .constant _ => []
  | .value v => [⟨none, .value v⟩]
  | .expr e => e.bindings

def CaseResult.otherwiseBindings : Option CaseResult → List Binding
  | none => []
  | some r => r.bindings

def Condition.bindings (column : Option Column) : Condition → List Binding
  | .empty | .noValue _ => []
  | .single _ v _ => [⟨column, .value v⟩]
  | .pair _ _ v w => [⟨column, .value v⟩, ⟨column, .value w⟩]
  | .list _ vs _ => vs.map fun v => ⟨column, .value v⟩
  | .comparison _ other => other.bindings
  | .subselect _ query => query.bindings

/-- A comparison without a condition is left out, its subject included. -/
def Predicate.bindings : Predicate → List Binding
  | .compare subject condition =>
    if condition.isEmpty then []
    else subject.bindings ++ condition.bindings subject.bindingColumn
  | .existence query _ => query.bindings
  | .negation criterion => criterion.bindings

def Predicate.initialBindings : Option Predicate → List Binding
  | none => []
  | some p => p.bindings

def Criterion.bindings : Criterion → List Binding
  | ⟨_, predicate, attached⟩ =>
    Predicate.initialBindings predicate ++ Criterion.allBindings attached

def Criterion.allBindings : List Criterion → List Binding
  | [] => []
  | c :: cs => c.bindings ++ Criterion.allBindings cs

def Source.bindings : Source → List Binding
  | .table _ => []
  | .subquery query _ => query.bindings

def Source.fromBindings : Option Source → List Binding
  | none => []
  | some s => s.bindings

def Join.bindings : Join → List Binding
  | ⟨_, source, criteria⟩ => source.bindings ++ Criterion.allBindings criteria

def Join.allBindings : List Join → List Binding
  | [] => []
  | j :: js => j.bindings ++ Join.allBindings js

/-- Select list, from, joins, where, group by and having. -/
def QueryBlock.bindings : QueryBlock → List Binding
  | ⟨_, _, columns, source, _, joins, criteria, groupBy, having⟩ =>
    Expr.allBindings columns ++ Source.fromBindings source ++ Join.allBindings joins ++
      Criterion.allBindings criteria ++ Expr.allBindings groupBy ++ Criterion.allBindings having

def QueryBlock.allBindings : List QueryBlock → List Binding
  | [] => []
  | b :: bs => b.bindings ++ QueryBlock.allBindings bs

/-- The blocks in order, then the paging; an order binds nothing. -/
def Select.bindings : Select → List Binding
  | ⟨blocks, _, paging⟩ => QueryBlock.allBindings blocks ++ (paging.map Paging.bindings).getD []

end

namespace Phrase

variable {strategy : Strategy} {p : Phrase} {ps qs : List Phrase} {bs cs : List Binding}

/-- The phrases, if they have no faults, bind these values. -/
def Binds (strategy : Strategy) (ps : List Phrase) (bs : List Binding) : Prop :=
  ps.flatMap (faults strategy) = [] → ps.flatMap bindings = bs

namespace Binds

theorem nil : Binds strategy [] [] := fun _ => rfl

theorem append (hp : Binds strategy ps bs) (hq : Binds strategy qs cs) :
    Binds strategy (ps ++ qs) (bs ++ cs) := by
  intro h
  rw [List.flatMap_append, List.append_eq_nil_iff] at h
  rw [List.flatMap_append, hp h.1, hq h.2]

theorem cons (hp : Binds strategy [p] bs) (hq : Binds strategy qs cs) :
    Binds strategy (p :: qs) (bs ++ cs) := hp.append hq

theorem text (s : String) : Binds strategy [.text s] [] := fun _ => by simp

theorem fail (e : RenderError) : Binds strategy [.fail e] bs := fun h => by simp at h

theorem value (column : Option Column) (v : Value) :
    Binds strategy [.value column v] [⟨column, .value v⟩] := fun _ => by simp

theorem values (column : Option Column) (vs : List Value) :
    Binds strategy (vs.map (.value column)) (vs.map fun v => ⟨column, .value v⟩) := by
  induction vs with
  | nil => exact nil
  | cons v vs ih => exact (value column v).cons ih

theorem join (h : Binds strategy ps bs) (separator : String) :
    Binds strategy [.join separator ps] bs := by
  simpa [Binds] using h

theorem after (h : Binds strategy [p] bs) (s : String) : Binds strategy [.after s p] bs := by
  simpa [Binds] using h

theorem between (h : Binds strategy [p] bs) (s t : String) :
    Binds strategy [.between s p t] bs := by
  simpa [Binds] using h

theorem map {q : Option Phrase} {g : Phrase → Phrase} (h : Binds strategy q.toList bs)
    (hg : ∀ p, Binds strategy [p] bs → Binds strategy [g p] bs) :
    Binds strategy (q.map g).toList bs := by
  cases q with
  | none => exact h
  | some p => exact hg p h

theorem clause {q : Option Phrase} (h : Binds strategy q.toList bs) (keyword : String) :
    Binds strategy (Phrase.clause keyword q) bs :=
  h.map fun _ hp => hp.after _

theorem listClause (h : Binds strategy ps bs) (keyword : String) :
    Binds strategy (Phrase.listClause keyword ps) bs := by
  rw [Phrase.listClause]
  split
  next he => rwa [List.isEmpty_iff.1 he] at h
  next => exact (h.join _).after _

end Binds

end Phrase

namespace Chain

open Phrase (Binds)

variable {strategy : Strategy} {parts : Chain} {bs : List Binding}

theorem binds_phrase? (h : Binds strategy (parts.map Prod.snd) bs) :
    Binds strategy parts.phrase?.toList bs := by
  cases parts with
  | nil => exact h
  | cons part rest =>
    refine Binds.join ?_ " "
    simpa [Binds, link, List.flatMap_map] using h

theorem binds_operand? (h : Binds strategy (parts.map Prod.snd) bs) :
    Binds strategy parts.operand?.toList bs := by
  rw [operand?]
  split
  next => exact (binds_phrase? h).map fun _ hp => hp.between _ _
  next => exact binds_phrase? h

end Chain

open Phrase (Binds)

section Parts

variable {strategy : Strategy} {bs cs : List Binding}

theorem Expr.binds_selected {p : Phrase} (h : Binds strategy [p] bs) (label : Option String) :
    Binds strategy [Expr.selected p label] bs := by
  cases label with
  | none => exact h
  | some a => simpa [Expr.selected, Binds] using h

theorem Phrase.binds_caseWords {opening : Phrase} {branches otherwise : List Phrase}
    {ds : List Binding} (h : Binds strategy [opening] bs) (hb : Binds strategy branches cs)
    (ho : Binds strategy otherwise ds) :
    Binds strategy [caseWords opening branches otherwise] (bs ++ cs ++ ds) := by
  rw [caseWords]
  split
  next he => exact Binds.join (fun hf => by simp at hf) " "
  next =>
    have he := h.append (hb.append (ho.append (.text "end")))
    rw [List.append_nil, ← List.append_assoc] at he
    exact Binds.join (by simpa using he) " "

theorem Phrase.binds_caseBranch {test : Option Phrase} {result : Phrase}
    (ht : Binds strategy test.toList bs) (hr : Binds strategy [result] cs) :
    Binds strategy (caseBranch test result) (if test = none then [] else bs ++ cs) := by
  cases test with
  | none => exact .nil
  | some t => exact (ht.after "when ").cons (hr.after "then ")

theorem Phrase.binds_comparison? {subject : Phrase} {right : Option Phrase} (ignoresCase : Bool)
    (hs : Binds strategy [subject] bs) (hr : Binds strategy right.toList cs) :
    Binds strategy (comparison? subject ignoresCase right).toList
      (if right = none then [] else bs ++ cs) := by
  cases right with
  | none => exact .nil
  | some r =>
    have hc :
        Binds strategy [if ignoresCase then between "upper(" subject ")" else subject] bs := by
      split
      next => exact hs.between _ _
      next => exact hs
    exact (hc.cons ((Binds.text " ").cons hr)).join ""

theorem Paging.binds_phrases (p : Paging) : Binds strategy p.phrases p.bindings := by
  obtain ⟨style, rows, offset⟩ := p
  intro h
  cases style <;> cases rows <;> cases offset <;> simp [phrases, bindings]

theorem QueryBlock.binds_guarded {ps : List Phrase} (fault : Option RenderError)
    (h : Binds strategy ps bs) : Binds strategy [QueryBlock.guarded fault ps] bs := by
  cases fault with
  | some e => exact .fail e
  | none => exact h.join " "

theorem SortItem.binds_clause (σ : Scopes) (items : List SortItem) :
    Binds strategy (SortItem.clause σ items) [] := by
  rw [SortItem.clause]
  split
  · exact .nil
  · exact .text _

end Parts

theorem SimpleTest.phrase?_eq_none_iff {σ : Scopes} {column : Option Column} {t : SimpleTest} :
    t.phrase? σ column = none ↔ t.isEmpty = true := by
  cases t with
  | values vs => cases vs <;> simp [SimpleTest.phrase?, SimpleTest.isEmpty]
  | condition c => simp [SimpleTest.phrase?, SimpleTest.isEmpty]

section Queries

variable {strategy : Strategy}

mutual

theorem Expr.binds_phrase (σ : Scopes) : ∀ e : Expr, Binds strategy [e.phrase σ] e.bindings
  | .column c => by unfold Expr.phrase Expr.bindings; exact .text _
  | .aggregate f argument _ => by
    unfold Expr.phrase Expr.bindings
    exact (Expr.binds_argumentPhrase σ argument).between _ _
  | .function name arguments _ => by
    unfold Expr.phrase Expr.bindings
    exact ((Expr.binds_phrases σ arguments).join _).between _ _
  | .constant s _ => by unfold Expr.phrase Expr.bindings; exact .text _
  | .stringConstant s _ => by unfold Expr.phrase Expr.bindings; exact .text _
  | .case expression _ => by
    unfold Expr.phrase Expr.bindings
    exact Case.binds_phrase σ expression

theorem Expr.binds_argumentPhrase (σ : Scopes) :
    ∀ a : Option Expr, Binds strategy [Expr.argumentPhrase σ a] (Expr.argumentBindings a)
  | none => by unfold Expr.argumentPhrase Expr.argumentBindings; exact .text _
  | some e => by unfold Expr.argumentPhrase Expr.argumentBindings; exact Expr.binds_phrase σ e

theorem Expr.binds_phrases (σ : Scopes) :
    ∀ es : List Expr, Binds strategy (Expr.phrases σ es) (Expr.allBindings es)
  | [] => by unfold Expr.phrases Expr.allBindings; exact .nil
  | e :: es => by
    unfold Expr.phrases Expr.allBindings
    exact (Expr.binds_phrase σ e).cons (Expr.binds_phrases σ es)

theorem Expr.binds_selectPhrases (σ : Scopes) :
    ∀ es : List Expr, Binds strategy (Expr.selectPhrases σ es) (Expr.allBindings es)
  | [] => by unfold Expr.selectPhrases Expr.allBindings; exact .nil
  | e :: es => by
    unfold Expr.selectPhrases Expr.allBindings
    exact (Expr.binds_selected (Expr.binds_phrase σ e) _).cons (Expr.binds_selectPhrases σ es)

theorem Case.binds_phrase (σ : Scopes) :
    ∀ c : Case, Binds strategy [c.phrase σ] c.bindings
  | .searched branches otherwise => by
    unfold Case.phrase Case.bindings
    split
    next => exact .fail _
    next =>
      exact Phrase.binds_caseWords (.text "case") (SearchedBranch.binds_phrases σ branches)
        (CaseResult.binds_otherwisePhrases σ otherwise)
  | .simple operand branches otherwise => by
    unfold Case.phrase Case.bindings
    split
    next => exact .fail _
    next =>
      exact Phrase.binds_caseWords ((Expr.binds_phrase σ operand).after _)
        (SimpleBranch.binds_phrases σ _ branches) (CaseResult.binds_otherwisePhrases σ otherwise)

theorem SearchedBranch.binds_phrase (σ : Scopes) :
    ∀ b : SearchedBranch, Binds strategy (b.phrase σ) b.bindings
  | ⟨criteria, result⟩ => by
    have h := Phrase.binds_caseBranch (Chain.binds_phrase? (Criterion.binds_chain σ criteria))
      (CaseResult.binds_phrase σ result)
    simpa only [SearchedBranch.phrase, SearchedBranch.bindings, List.isEmpty_iff,
      Criterion.phrase?_chain_eq_none_iff] using h

theorem SearchedBranch.binds_phrases (σ : Scopes) :
    ∀ bs : List SearchedBranch,
      Binds strategy (SearchedBranch.phrases σ bs) (SearchedBranch.allBindings bs)
  | [] => by unfold SearchedBranch.phrases SearchedBranch.allBindings; exact .nil
  | b :: bs => by
    unfold SearchedBranch.phrases SearchedBranch.allBindings
    exact (SearchedBranch.binds_phrase σ b).append (SearchedBranch.binds_phrases σ bs)

theorem SimpleBranch.binds_phrase (σ : Scopes) (column : Option Column) :
    ∀ b : SimpleBranch, Binds strategy (b.phrase σ column) (b.bindings column)
  | ⟨test, result⟩ => by
    have h := Phrase.binds_caseBranch (SimpleTest.binds_phrase? σ column test)
      (CaseResult.binds_phrase σ result)
    simpa only [SimpleBranch.phrase, SimpleBranch.bindings, SimpleTest.phrase?_eq_none_iff] using h

theorem SimpleBranch.binds_phrases (σ : Scopes) (column : Option Column) :
    ∀ bs : List SimpleBranch,
      Binds strategy (SimpleBranch.phrases σ column bs) (SimpleBranch.allBindings column bs)
  | [] => by unfold SimpleBranch.phrases SimpleBranch.allBindings; exact .nil
  | b :: bs => by
    unfold SimpleBranch.phrases SimpleBranch.allBindings
    exact (SimpleBranch.binds_phrase σ column b).append (SimpleBranch.binds_phrases σ column bs)

theorem SimpleTest.binds_phrase? (σ : Scopes) (column : Option Column) :
    ∀ t : SimpleTest, Binds strategy (t.phrase? σ column).toList (t.bindings column)
  | .values [] => by unfold SimpleTest.phrase? SimpleTest.bindings; exact .nil
  | .values (v :: vs) => by
    unfold SimpleTest.phrase? SimpleTest.bindings
    exact (Binds.values column (v :: vs)).join _
  | .condition c => by
    unfold SimpleTest.phrase? SimpleTest.bindings
    exact Condition.binds_right? σ column c

theorem CaseResult.binds_phrase (σ : Scopes) :
    ∀ r : CaseResult, Binds strategy [r.phrase σ] r.bindings
  | .stringConstant s => by unfold CaseResult.phrase CaseResult.bindings; exact .text _
  | .constant s => by unfold CaseResult.phrase CaseResult.bindings; exact .text _
  | .value v => by unfold CaseResult.phrase CaseResult.bindings; exact .value none v
  | .expr e => by unfold CaseResult.phrase CaseResult.bindings; exact Expr.binds_phrase σ e

theorem CaseResult.binds_otherwisePhrases (σ : Scopes) :
    ∀ r : Option CaseResult,
      Binds strategy (CaseResult.otherwisePhrases σ r) (CaseResult.otherwiseBindings r)
  | none => by unfold CaseResult.otherwisePhrases CaseResult.otherwiseBindings; exact .nil
  | some r => by
    unfold CaseResult.otherwisePhrases CaseResult.otherwiseBindings
    exact (CaseResult.binds_phrase σ r).after _

theorem Condition.binds_right? (σ : Scopes) (column : Option Column) :
    ∀ c : Condition, Binds strategy (c.right? σ column).toList (c.bindings column)
  | .empty => by unfold Condition.right? Condition.bindings; exact .nil
  | .noValue operator => by unfold Condition.right? Condition.bindings; exact .text _
  | .single operator v _ => by
    unfold Condition.right? Condition.bindings
    exact (Binds.value column v).after _
  | .pair operator conjunction v w => by
    unfold Condition.right? Condition.bindings
    exact (((Binds.value column v).after _).cons ((Binds.value column w).after _)).join ""
  | .list operator vs _ => by
    unfold Condition.right? Condition.bindings
    exact ((Binds.values column vs).join _).between _ _
  | .comparison operator other => by
    unfold Condition.right? Condition.bindings
    exact (Expr.binds_phrase σ other).after _
  | .subselect operator query => by
    unfold Condition.right? Condition.bindings
    exact (Select.binds_phrase σ query).between _ _

theorem Predicate.binds_phrase? (σ : Scopes) :
    ∀ p : Predicate, Binds strategy (p.phrase? σ).toList p.bindings
  | .compare subject condition => by
    have h := Phrase.binds_comparison? condition.ignoresCase (Expr.binds_phrase σ subject)
      (Condition.binds_right? σ subject.bindingColumn condition)
    simpa only [Predicate.phrase?, Predicate.bindings, Condition.right?_eq_none_iff] using h
  | .existence query negated => by
    unfold Predicate.phrase? Predicate.bindings
    exact (Select.binds_phrase σ query).between _ _
  | .negation criterion => by
    unfold Predicate.phrase? Predicate.bindings
    exact (Chain.binds_phrase? (Criterion.binds_parts σ criterion)).map fun _ hp => hp.between _ _

theorem Criterion.binds_parts (σ : Scopes) :
    ∀ c : Criterion, Binds strategy ((c.parts σ).map Prod.snd) c.bindings
  | ⟨_, predicate, attached⟩ => by
    rw [Criterion.parts, Criterion.bindings, List.map_append]
    exact (Criterion.binds_initialParts σ predicate).append (Criterion.binds_chain σ attached)

theorem Criterion.binds_initialParts (σ : Scopes) :
    ∀ p : Option Predicate,
      Binds strategy ((Criterion.initialParts σ p).map Prod.snd) (Predicate.initialBindings p)
  | none => by unfold Criterion.initialParts Predicate.initialBindings; exact .nil
  | some p => by
    unfold Criterion.initialParts Predicate.initialBindings
    rw [Chain.map_snd_toList]
    exact Predicate.binds_phrase? σ p

theorem Criterion.binds_chain (σ : Scopes) :
    ∀ cs : List Criterion,
      Binds strategy ((Criterion.chain σ cs).map Prod.snd) (Criterion.allBindings cs)
  | [] => by unfold Criterion.chain Criterion.allBindings; exact .nil
  | c :: cs => by
    rw [Criterion.chain, Criterion.allBindings, List.map_append, Chain.map_snd_toList]
    exact (Chain.binds_operand? (Criterion.binds_parts σ c)).append (Criterion.binds_chain σ cs)

theorem Source.binds_phrase (σ : Scopes) :
    ∀ s : Source, Binds strategy [s.phrase σ] s.bindings
  | .table t => by unfold Source.phrase Source.bindings; exact .text _
  | .subquery query a => by
    unfold Source.phrase Source.bindings
    exact (Select.binds_phrase σ query).between _ _

theorem Source.binds_fromPhrases (σ : Scopes) :
    ∀ s : Option Source, Binds strategy (Source.fromPhrases σ s) (Source.fromBindings s)
  | none => by unfold Source.fromPhrases Source.fromBindings; exact .nil
  | some s => by
    unfold Source.fromPhrases Source.fromBindings
    exact (Source.binds_phrase σ s).after _

theorem Join.binds_phrase (σ : Scopes) : ∀ j : Join, Binds strategy [j.phrase σ] j.bindings
  | ⟨kind, source, criteria⟩ => by
    unfold Join.phrase Join.bindings
    have h := (Chain.binds_phrase? (Criterion.binds_chain σ criteria)).clause "on"
    exact ((Binds.text _).cons ((Source.binds_phrase σ source).cons h)).join " "

theorem Join.binds_phrases (σ : Scopes) :
    ∀ js : List Join, Binds strategy (Join.phrases σ js) (Join.allBindings js)
  | [] => by unfold Join.phrases Join.allBindings; exact .nil
  | j :: js => by
    unfold Join.phrases Join.allBindings
    exact (Join.binds_phrase σ j).cons (Join.binds_phrases σ js)

theorem QueryBlock.binds_clauses (σ : Scopes) :
    ∀ b : QueryBlock, Binds strategy (b.clauses σ) b.bindings
  | ⟨_, distinct, columns, source, _, joins, criteria, groupBy, having⟩ => by
    unfold QueryBlock.clauses QueryBlock.bindings
    have hc := ((Expr.binds_selectPhrases σ columns).join ", ").after
      (if distinct then "select distinct " else "select ")
    have hw := (Chain.binds_phrase? (Criterion.binds_chain σ criteria)).clause "where"
    have hg := (Expr.binds_phrases σ groupBy).listClause "group by"
    have hh := (Chain.binds_phrase? (Criterion.binds_chain σ having)).clause "having"
    have h := ((((hc.append (Source.binds_fromPhrases σ source)).append
      (Join.binds_phrases σ joins)).append hw).append hg).append hh
    simpa only [List.append_assoc, List.singleton_append, List.cons_append, List.nil_append] using h

theorem QueryBlock.binds_phrases (σ : Scopes) :
    ∀ bs : List QueryBlock, Binds strategy (QueryBlock.phrases σ bs) (QueryBlock.allBindings bs)
  | [] => by unfold QueryBlock.phrases QueryBlock.allBindings; exact .nil
  | b :: bs => by
    unfold QueryBlock.phrases QueryBlock.allBindings
    have hb := QueryBlock.binds_guarded b.fault? (QueryBlock.binds_clauses (b.scope :: σ) b)
    have hk : Binds strategy (b.connector.map (Phrase.text ·.text)).toList [] := by
      cases b.connector with
      | none => exact .nil
      | some k => exact .text _
    exact hk.append (hb.cons (QueryBlock.binds_phrases σ bs))

/-- A select that can be written binds the values of its blocks and of its paging. -/
theorem Select.binds_phrase (σ : Scopes) : ∀ s : Select, Binds strategy [s.phrase σ] s.bindings
  | ⟨blocks, orderBy, paging⟩ => by
    unfold Select.phrase Select.bindings
    split
    next => exact .fail _
    next =>
      have ho : Binds strategy
          ((orderBy.map (SortItem.clause (Select.orderScopes σ blocks))).getD []) [] := by
        cases orderBy with
        | none => exact .nil
        | some items => exact SortItem.binds_clause _ items
      have hp : Binds strategy ((paging.map Paging.phrases).getD [])
          ((paging.map Paging.bindings).getD []) := by
        cases paging with
        | none => exact .nil
        | some p => exact Paging.binds_phrases p
      have h := ((QueryBlock.binds_phrases σ blocks).append ho).append hp
      rw [List.append_nil] at h
      exact h.join " "

end

end Queries

end SqlStatement
