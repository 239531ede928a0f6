import SqlStatement.Proofs.Phrase.Fences
import SqlStatement.Proofs.Query.Bindings

/-! # The string constants of a query

The string constants that are written for a query, in the order of the query itself. In every place
that a query has for an expression, what comes straight after it is no quote.
-/

namespace SqlStatement

mutual

def Expr.literals : Expr → List String
  | .column _ | .constant .. => []
  | .stringConstant text _ => [text]
  | .aggregate _ argument _ => Expr.argumentLiterals argument
  | .function _ arguments _ => Expr.allLiterals arguments
  | .case expression _ => expression.literals

def Expr.argumentLiterals : Option Expr → List String
  | none => []
  | some e => e.literals

def Expr.allLiterals : List Expr → List String
  | [] => []
  | e :: es => e.literals ++ Expr.allLiterals es

def Case.literals : Case → List String
  | .searched branches otherwise =>
    SearchedBranch.allLiterals branches ++ CaseResult.otherwiseLiterals otherwise
  | .simple operand branches otherwise =>
    operand.literals ++ SimpleBranch.allLiterals branches ++ CaseResult.otherwiseLiterals otherwise

def SearchedBranch.literals : SearchedBranch → List String
  | ⟨criteria, result⟩ =>
    if (Criterion.allLeaves criteria).isEmpty then []
    else Criterion.allLiterals criteria ++ result.literals

def SearchedBranch.allLiterals : List SearchedBranch → List String
  | [] => []
  | b :: bs => b.literals ++ SearchedBranch.allLiterals bs

def SimpleBranch.literals : SimpleBranch → List String
  | ⟨test, result⟩ => if test.isEmpty then [] else test.literals ++ result.literals

def SimpleBranch.allLiterals : List SimpleBranch → List String
  | [] => []
  | b :: bs => b.literals ++ SimpleBranch.allLiterals bs

def SimpleTest.literals : SimpleTest → List String
  | .values _ => []
  | .condition c => c.literals

def CaseResult.literals : CaseResult → List String
  | .stringConstant text => [text]
  | .constant _ | .value _ => []
  | .expr e => e.literals

def CaseResult.otherwiseLiterals : Option CaseResult → List String
  | none => []
  | some r => r.literals

def Condition.literals : Condition → List String
  | .empty | .noValue _ | .single .. | .pair .. | .list .. => []
  | .comparison _ other => other.literals
  | .subselect _ query => query.literals

/-- A comparison without a condition is left out, its subject included. -/
def Predicate.literals : Predicate → List String
  | .compare subject condition =>
    if condition.isEmpty then [] else subject.literals ++ condition.literals
  | .existence query _ => query.literals
  | .negation criterion => criterion.literals

def Predicate.initialLiterals : Option Predicate → List String
  | none => []
  | some p => p.literals

def Criterion.literals : Criterion → List String
  | ⟨_, predicate, attached⟩ =>
    Predicate.initialLiterals predicate ++ Criterion.allLiterals attached

def Criterion.allLiterals : List Criterion → List String
  | [] => []
  | c :: cs => c.literals ++ Criterion.allLiterals cs

def Source.literals : Source → List String
  | .table _ => []
  | .subquery query _ => query.literals

def Source.fromLiterals : Option Source → List String
  | none => []
  | some s => s.literals

def Join.literals : Join → List String
  | ⟨_, source, criteria⟩ => source.literals ++ Criterion.allLiterals criteria

def Join.allLiterals : List Join → List String
  | [] => []
  | j :: js => j.literals ++ Join.allLiterals js

def QueryBlock.literals : QueryBlock → List String
  | ⟨_, _, columns, source, _, joins, criteria, groupBy, having⟩ =>
    Expr.allLiterals columns ++ Source.fromLiterals source ++ Join.allLiterals joins ++
      Criterion.allLiterals criteria ++ Expr.allLiterals groupBy ++ Criterion.allLiterals having

def QueryBlock.allLiterals : List QueryBlock → List String
  | [] => []
  | b :: bs => b.literals ++ QueryBlock.allLiterals bs

/-- Order and paging hold no expressions. -/
def Select.literals : Select → List String
  | ⟨blocks, _, _⟩ => QueryBlock.allLiterals blocks

end

open Phrase (Fenced Trails Quotes)
open Text (Follows Leads)

namespace Chain

variable {strategy : Strategy} {parts : Chain} {ss : List String}

theorem flatten_piecesOfAll_links (strategy : Strategy) (n : UInt32) (parts : Chain) :
    (Phrase.piecesOfAll strategy n (parts.map Prod.snd)).flatten.Sublist
      (Phrase.piecesOfAll strategy n (parts.map link)).flatten := by
  induction parts generalizing n with
  | nil => exact .slnil
  | cons part parts ih =>
    have hb : (link part).bindings = part.2.bindings := Phrase.bindings_after _ _
    rw [List.map_cons, List.map_cons, Phrase.piecesOfAll, Phrase.piecesOfAll, hb,
      List.flatten_cons, List.flatten_cons]
    refine .append ?_ (ih _)
    rw [link, Phrase.pieces_after]
    exact List.sublist_append_right _ _

theorem fenced_link {part : Option Connector × Phrase} (h : Fenced part.2) :
    Fenced (link part) :=
  Phrase.fenced_after (.append (by decide) _) h

theorem quotes_phrase? (h : Quotes strategy (parts.map Prod.snd) ss) :
    Quotes strategy parts.phrase?.toList ss := by
  cases parts with
  | nil => exact h
  | cons part rest =>
    have hf := List.forall_mem_cons.1 h.fenced
    refine Quotes.words ⟨List.forall_mem_cons.2 ⟨hf.1, ?_⟩, fun he n => ?_⟩
    · exact List.forall_mem_map.2 fun q hq => fenced_link (hf.2 _ (List.mem_map_of_mem hq))
    · refine (h.literals ?_ n).trans ?_
      · simpa [link, List.flatMap_map] using he
      · exact .append (.refl _) (flatten_piecesOfAll_links _ _ rest)

theorem quotes_operand? (h : Quotes strategy (parts.map Prod.snd) ss) :
    Quotes strategy parts.operand?.toList ss := by
  rw [operand?]
  split
  next => exact (quotes_phrase? h).map fun _ hp => hp.between (by decide) (by decide)
  next => exact quotes_phrase? h

end Chain

section Parts

variable {strategy : Strategy} {ss us : List String}

theorem Expr.quotes_selected {p : Phrase} (h : Quotes strategy [p] ss) (label : Option String) :
    Quotes strategy [Expr.selected p label] ss := by
  cases label with
  | none => exact h
  | some a =>
    have hf : Fenced (.concat [p, .text (" as " ++ a)]) :=
      Phrase.fenced_concat_cons h.fenced_singleton
        (Phrase.fenced_concat_singleton (Phrase.fenced_text _))
        (Phrase.trails_concat_cons_text (.append (by decide) a))
    have hs := (h.append (.text (" as " ++ a))).concat hf
    rwa [List.append_nil] at hs

theorem Phrase.quotes_caseWords {opening : Phrase} {branches otherwise : List Phrase}
    {vs : List String} (h : Quotes strategy [opening] ss) (hb : Quotes strategy branches us)
    (ho : Quotes strategy otherwise vs) :
    Quotes strategy [caseWords opening branches otherwise] (ss ++ us ++ vs) := by
  rw [caseWords]
  split
  next he =>
    rw [List.append_assoc]
    exact (h.append (.fail _)).words
  next =>
    have he := h.append (hb.append (ho.append (.text "end")))
    rw [List.append_nil, ← List.append_assoc] at he
    exact Quotes.words (by simpa using he)

theorem Phrase.quotes_caseBranch {test : Option Phrase} {result : Phrase}
    (ht : Quotes strategy test.toList ss) (hr : Quotes strategy [result] us) :
    Quotes strategy (caseBranch test result) (if test = none then [] else ss ++ us) := by
  cases test with
  | none => exact .nil
  | some t => exact (ht.after (by decide)).cons (hr.after (by decide))

theorem Phrase.quotes_comparison? {subject : Phrase} {right : Option Phrase} (ignoresCase : Bool)
    (hs : Quotes strategy [subject] ss) (hr : Quotes strategy right.toList us) :
    Quotes strategy (comparison? subject ignoresCase right).toList
      (if right = none then [] else ss ++ us) := by
  cases right with
  | none => exact .nil
  | some r =>
    have hc :
        Quotes strategy [if ignoresCase then between "upper(" subject ")" else subject] ss := by
      split
      next => exact hs.between (by decide) (by decide)
      next => exact hs
    have hr' : Quotes strategy [r] us := hr
    refine (hc.cons ((Quotes.text " ").cons hr')).concat ?_
    exact fenced_concat_cons hc.fenced_singleton
      (fenced_concat_cons_text (by decide) (fenced_concat_singleton hr'.fenced_singleton))
      (trails_concat_cons_text (by decide))

theorem Aggregate.leads_opening (f : Aggregate) : Leads f.opening := by
  cases f <;> decide

theorem Condition.quotes_pair (column : Option Column) (operator conjunction : String)
    (v w : Value) : Quotes strategy [.concat [.after (operator ++ " ") (.value column v),
      .after (" " ++ conjunction ++ " ") (.value column w)]] [] := by
  have hv : Quotes strategy [.after (operator ++ " ") (.value column v)] [] :=
    (Quotes.value column v).after (.append (by decide) operator)
  have hw : Quotes strategy [.after (" " ++ conjunction ++ " ") (.value column w)] [] :=
    (Quotes.value column w).after (.append (by decide) _)
  have ht : Trails (.after (" " ++ conjunction ++ " ") (.value column w)) :=
    Phrase.trails_concat_cons_text (.append (.append (by decide) conjunction) " ")
  exact (hv.cons hw).concat (Phrase.fenced_concat_cons hv.fenced_singleton
    (Phrase.fenced_concat_singleton hw.fenced_singleton) (Phrase.trails_concat_singleton ht))

theorem Paging.quotes_phrases (p : Paging) : Quotes strategy p.phrases [] := by
  have after {s : String} (hs : Leads s) (count : Option UInt64) : Quotes strategy
      (count.map fun n => Phrase.after s (.value none (.unsigned n))).toList [] := by
    cases count with
    | none => exact .nil
    | some n => exact (Quotes.value none _).after hs
  have between {s t : String} (hs : Leads s) (ht : Follows t) (count : Option UInt64) :
      Quotes strategy
        (count.map fun n => Phrase.between s (.value none (.unsigned n)) t).toList [] := by
    cases count with
    | none => exact .nil
    | some n => exact (Quotes.value none _).between hs ht
  obtain ⟨style, rows, offset⟩ := p
  refine (Quotes.needs style).cons ?_
  cases style with
  | limitOffset => exact (after (by decide) rows).append (after (by decide) offset)
  | fetchFirst =>
    exact (between (by decide) (by decide) offset).append (between (by decide) (by decide) rows)

theorem QueryBlock.quotes_guarded {ps : List Phrase} (fault : Option RenderError)
    (h : Quotes strategy ps ss) : Quotes strategy [QueryBlock.guarded fault ps] ss := by
  cases fault with
  | some e => exact .fail e
  | none => exact h.words

theorem SortItem.quotes_clause (σ : Scopes) (items : List SortItem) :
    Quotes strategy (SortItem.clause σ items) [] := by
  rw [SortItem.clause]
  split
  · exact .nil
  · exact .text _

end Parts

section Queries

variable {strategy : Strategy}

mutual

theorem Expr.quotes_phrase (σ : Scopes) : ∀ e : Expr, Quotes strategy [e.phrase σ] e.literals
  | .column c => by unfold Expr.phrase Expr.literals; exact .text _
  | .aggregate f argument _ => by
    unfold Expr.phrase Expr.literals
    exact (Expr.quotes_argumentPhrase σ argument).between f.leads_opening (by decide)
  | .function name arguments _ => by
    unfold Expr.phrase Expr.literals
    exact (Expr.quotes_phrases σ arguments).commas.between (.append (by decide) name) (by decide)
  | .constant s _ => by unfold Expr.phrase Expr.literals; exact .text _
  | .stringConstant s _ => by unfold Expr.phrase Expr.literals; exact .literal s
  | .case expression _ => by
    unfold Expr.phrase Expr.literals
    exact Case.quotes_phrase σ expression

theorem Expr.quotes_argumentPhrase (σ : Scopes) :
    ∀ a : Option Expr, Quotes strategy [Expr.argumentPhrase σ a] (Expr.argumentLiterals a)
  | none => by unfold Expr.argumentPhrase Expr.argumentLiterals; exact .text _
  | some e => by unfold Expr.argumentPhrase Expr.argumentLiterals; exact Expr.quotes_phrase σ e

theorem Expr.quotes_phrases (σ : Scopes) :
    ∀ es : List Expr, Quotes strategy (Expr.phrases σ es) (Expr.allLiterals es)
  | [] => by unfold Expr.phrases Expr.allLiterals; exact .nil
  | e :: es => by
    unfold Expr.phrases Expr.allLiterals
    exact (Expr.quotes_phrase σ e).cons (Expr.quotes_phrases σ es)

theorem Expr.quotes_selectPhrases (σ : Scopes) :
    ∀ es : List Expr, Quotes strategy (Expr.selectPhrases σ es) (Expr.allLiterals es)
  | [] => by unfold Expr.selectPhrases Expr.allLiterals; exact .nil
  | e :: es => by
    unfold Expr.selectPhrases Expr.allLiterals
    exact (Expr.quotes_selected (Expr.quotes_phrase σ e) _).cons (Expr.quotes_selectPhrases σ es)

theorem Case.quotes_phrase (σ : Scopes) :
    ∀ c : Case, Quotes strategy [c.phrase σ] c.literals
  | .searched branches otherwise => by
    unfold Case.phrase Case.literals
    split
    next => exact .fail _
    next =>
      exact Phrase.quotes_caseWords (.text "case") (SearchedBranch.quotes_phrases σ branches)
        (CaseResult.quotes_otherwisePhrases σ otherwise)
  | .simple operand branches otherwise => by
    unfold Case.phrase Case.literals
    split
    next => exact .fail _
    next =>
      exact Phrase.quotes_caseWords ((Expr.quotes_phrase σ operand).after (by decide))
        (SimpleBranch.quotes_phrases σ _ branches) (CaseResult.quotes_otherwisePhrases σ otherwise)

theorem SearchedBranch.quotes_phrase (σ : Scopes) :
    ∀ b : SearchedBranch, Quotes strategy (b.phrase σ) b.literals
  | ⟨criteria, result⟩ => by
    have h := Phrase.quotes_caseBranch (Chain.quotes_phrase? (Criterion.quotes_chain σ criteria))
      (CaseResult.quotes_phrase σ result)
    simpa only [SearchedBranch.phrase, SearchedBranch.literals, List.isEmpty_iff,
      Criterion.phrase?_chain_eq_none_iff] using h

theorem SearchedBranch.quotes_phrases (σ : Scopes) :
    ∀ bs : List SearchedBranch,
      Quotes strategy (SearchedBranch.phrases σ bs) (SearchedBranch.allLiterals bs)
  | [] => by unfold SearchedBranch.phrases SearchedBranch.allLiterals; exact .nil
  | b :: bs => by
    unfold SearchedBranch.phrases SearchedBranch.allLiterals
    exact (SearchedBranch.quotes_phrase σ b).append (SearchedBranch.quotes_phrases σ bs)

theorem SimpleBranch.quotes_phrase (σ : Scopes) (column : Option Column) :
    ∀ b : SimpleBranch, Quotes strategy (b.phrase σ column) b.literals
  | ⟨test, result⟩ => by
    have h := Phrase.quotes_caseBranch (SimpleTest.quotes_phrase? σ column test)
      (CaseResult.quotes_phrase σ result)
    simpa only [SimpleBranch.phrase, SimpleBranch.literals, SimpleTest.phrase?_eq_none_iff] using h

theorem SimpleBranch.quotes_phrases (σ : Scopes) (column : Option Column) :
    ∀ bs : List SimpleBranch,
      Quotes strategy (SimpleBranch.phrases σ column bs) (SimpleBranch.allLiterals bs)
  | [] => by unfold SimpleBranch.phrases SimpleBranch.allLiterals; exact .nil
  | b :: bs => by
    unfold SimpleBranch.phrases SimpleBranch.allLiterals
    exact (SimpleBranch.quotes_phrase σ column b).append (SimpleBranch.quotes_phrases σ column bs)

theorem SimpleTest.quotes_phrase? (σ : Scopes) (column : Option Column) :
    ∀ t : SimpleTest, Quotes strategy (t.phrase? σ column).toList t.literals
  | .values [] => by unfold SimpleTest.phrase? SimpleTest.literals; exact .nil
  | .values (v :: vs) => by
    unfold SimpleTest.phrase? SimpleTest.literals
    exact (Quotes.values column (v :: vs)).commas
  | .condition c => by
    unfold SimpleTest.phrase? SimpleTest.literals
    exact Condition.quotes_right? σ column c

theorem CaseResult.quotes_phrase (σ : Scopes) :
    ∀ r : CaseResult, Quotes strategy [r.phrase σ] r.literals
  | .stringConstant s => by unfold CaseResult.phrase CaseResult.literals; exact .literal s
  | .constant s => by unfold CaseResult.phrase CaseResult.literals; exact .text _
  | .value v => by unfold CaseResult.phrase CaseResult.literals; exact .value none v
  | .expr e => by unfold CaseResult.phrase CaseResult.literals; exact Expr.quotes_phrase σ e

theorem CaseResult.quotes_otherwisePhrases (σ : Scopes) :
    ∀ r : Option CaseResult,
      Quotes strategy (CaseResult.otherwisePhrases σ r) (CaseResult.otherwiseLiterals r)
  | none => by unfold CaseResult.otherwisePhrases CaseResult.otherwiseLiterals; exact .nil
  | some r => by
    unfold CaseResult.otherwisePhrases CaseResult.otherwiseLiterals
    exact (CaseResult.quotes_phrase σ r).after (by decide)

theorem Condition.quotes_right? (σ : Scopes) (column : Option Column) :
    ∀ c : Condition, Quotes strategy (c.right? σ column).toList c.literals
  | .empty => by unfold Condition.right? Condition.literals; exact .nil
  | .noValue operator => by unfold Condition.right? Condition.literals; exact .text _
  | .single operator v _ => by
    unfold Condition.right? Condition.literals
    exact (Quotes.value column v).after (.append (by decide) operator)
  | .pair operator conjunction v w => by
    unfold Condition.right? Condition.literals
    exact Condition.quotes_pair column operator conjunction v w
  | .list operator vs _ => by
    unfold Condition.right? Condition.literals
    exact ((Quotes.values column vs).join (by decide) (by decide)).between
      (.append (by decide) operator) (by decide)
  | .comparison operator other => by
    unfold Condition.right? Condition.literals
    exact (Expr.quotes_phrase σ other).after (.append (by decide) operator)
  | .subselect operator query => by
    unfold Condition.right? Condition.literals
    exact (Select.quotes_phrase σ query).between (.append (by decide) operator) (by decide)

theorem Predicate.quotes_phrase? (σ : Scopes) :
    ∀ p : Predicate, Quotes strategy (p.phrase? σ).toList p.literals
  | .compare subject condition => by
    have h := Phrase.quotes_comparison? condition.ignoresCase (Expr.quotes_phrase σ subject)
      (Condition.quotes_right? σ subject.bindingColumn condition)
    simpa only [Predicate.phrase?, Predicate.literals, Condition.right?_eq_none_iff] using h
  | .existence query negated => by
    unfold Predicate.phrase? Predicate.literals
    exact (Select.quotes_phrase σ query).between (by cases negated <;> decide) (by decide)
  | .negation criterion => by
    unfold Predicate.phrase? Predicate.literals
    exact (Chain.quotes_phrase? (Criterion.quotes_parts σ criterion)).map fun _ hp =>
      hp.between (by decide) (by decide)

theorem Criterion.quotes_parts (σ : Scopes) :
    ∀ c : Criterion, Quotes strategy ((c.parts σ).map Prod.snd) c.literals
  | ⟨_, predicate, attached⟩ => by
    rw [Criterion.parts, Criterion.literals, List.map_append]
    exact (Criterion.quotes_initialParts σ predicate).append (Criterion.quotes_chain σ attached)

theorem Criterion.quotes_initialParts (σ : Scopes) :
    ∀ p : Option Predicate,
      Quotes strategy ((Criterion.initialParts σ p).map Prod.snd) (Predicate.initialLiterals p)
  | none => by unfold Criterion.initialParts Predicate.initialLiterals; exact .nil
  | some p => by
    unfold Criterion.initialParts Predicate.initialLiterals
    rw [Chain.map_snd_toList]
    exact Predicate.quotes_phrase? σ p

theorem Criterion.quotes_chain (σ : Scopes) :
    ∀ cs : List Criterion,
      Quotes strategy ((Criterion.chain σ cs).map Prod.snd) (Criterion.allLiterals cs)
  | [] => by unfold Criterion.chain Criterion.allLiterals; exact .nil
  | c :: cs => by
    rw [Criterion.chain, Criterion.allLiterals, List.map_append, Chain.map_snd_toList]
    exact (Chain.quotes_operand? (Criterion.quotes_parts σ c)).append (Criterion.quotes_chain σ cs)

theorem Source.quotes_phrase (σ : Scopes) :
    ∀ s : Source, Quotes strategy [s.phrase σ] s.literals
  | .table t => by unfold Source.phrase Source.literals; exact .text _
  | .subquery query a => by
    unfold Source.phrase Source.literals
    exact (Select.quotes_phrase σ query).between (by decide) (.append (by decide) a)

theorem Source.quotes_fromPhrases (σ : Scopes) :
    ∀ s : Option Source, Quotes strategy (Source.fromPhrases σ s) (Source.fromLiterals s)
  | none => by unfold Source.fromPhrases Source.fromLiterals; exact .nil
  | some s => by
    unfold Source.fromPhrases Source.fromLiterals
    exact (Source.quotes_phrase σ s).after (by decide)

theorem Join.quotes_phrase (σ : Scopes) : ∀ j : Join, Quotes strategy [j.phrase σ] j.literals
  | ⟨kind, source, criteria⟩ => by
    unfold Join.phrase Join.literals
    have h := (Chain.quotes_phrase? (Criterion.quotes_chain σ criteria)).clause "on"
    exact ((Quotes.text _).cons ((Source.quotes_phrase σ source).cons h)).words

theorem Join.quotes_phrases (σ : Scopes) :
    ∀ js : List Join, Quotes strategy (Join.phrases σ js) (Join.allLiterals js)
  | [] => by unfold Join.phrases Join.allLiterals; exact .nil
  | j :: js => by
    unfold Join.phrases Join.allLiterals
    exact (Join.quotes_phrase σ j).cons (Join.quotes_phrases σ js)

theorem QueryBlock.quotes_clauses (σ : Scopes) :
    ∀ b : QueryBlock, Quotes strategy (b.clauses σ) b.literals
  | ⟨_, distinct, columns, source, _, joins, criteria, groupBy, having⟩ => by
    unfold QueryBlock.clauses QueryBlock.literals
    have hd : Leads (if distinct then "select distinct " else "select ") := by
      cases distinct <;> decide
    have hc := (Expr.quotes_selectPhrases σ columns).commas.after hd
    have hw := (Chain.quotes_phrase? (Criterion.quotes_chain σ criteria)).clause "where"
    have hg := (Expr.quotes_phrases σ groupBy).listClause "group by"
    have hh := (Chain.quotes_phrase? (Criterion.quotes_chain σ having)).clause "having"
    have h := ((((hc.append (Source.quotes_fromPhrases σ source)).append
      (Join.quotes_phrases σ joins)).append hw).append hg).append hh
    simpa only [List.append_assoc, List.singleton_append, List.cons_append, List.nil_append] using h

theorem QueryBlock.quotes_phrases (σ : Scopes) :
    ∀ bs : List QueryBlock, Quotes strategy (QueryBlock.phrases σ bs) (QueryBlock.allLiterals bs)
  | [] => by unfold QueryBlock.phrases QueryBlock.allLiterals; exact .nil
  | b :: bs => by
    unfold QueryBlock.phrases QueryBlock.allLiterals
    have hb := QueryBlock.quotes_guarded b.fault? (QueryBlock.quotes_clauses (b.scope :: σ) b)
    have hk : Quotes strategy (b.connector.map (Phrase.text ·.text)).toList [] := by
      cases b.connector with
      | none => exact .nil
      | some k => exact .text _
    exact hk.append (hb.cons (QueryBlock.quotes_phrases σ bs))

/-- What is written of a select holds the literals of its string constants, in order. -/
theorem Select.quotes_phrase (σ : Scopes) : ∀ s : Select, Quotes strategy [s.phrase σ] s.literals
  | ⟨blocks, orderBy, paging⟩ => by
    unfold Select.phrase Select.literals
    split
    next => exact .fail _
    next =>
      have ho : Quotes strategy
          ((orderBy.map (SortItem.clause (Select.orderScopes σ blocks))).getD []) [] :=
        .optional (SortItem.quotes_clause _) orderBy
      have h := ((QueryBlock.quotes_phrases σ blocks).append ho).append
        (.optional Paging.quotes_phrases paging)
      rw [List.append_nil, List.append_nil] at h
      exact h.words

end

end Queries

end SqlStatement
