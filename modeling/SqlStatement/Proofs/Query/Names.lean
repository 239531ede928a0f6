import SqlStatement.Proofs.Query.Resolution
import SqlStatement.Proofs.Query.Sites

/-! # Names in a query

The scopes around a query have their say in nothing but the names of its columns. Where these are
the same, the phrases are the same: by induction on the query, for every nesting at once, since a
block is one more block around what it holds. Where a query names its columns itself, the scopes
around it have no say at all.
-/

namespace SqlStatement

namespace Site

/-- A column that has one name under the scopes of its place, with these or those scopes around. -/
def NamedAlike (σ τ : Scopes) (x : Site) : Prop :=
  match x.part with
  | .column c => (x.nesting.scopes ++ σ).columnName c = (x.nesting.scopes ++ τ).columnName c
  | _ => True

def Closed (x : Site) : Prop :=
  match x.part with
  | .column c => c.qualifier.isSome = true ∨ ∃ b ∈ x.nesting.blocks, b.scope.holds c.table = true
  | _ => True

instance decidableClosed : (x : Site) → Decidable x.Closed
  | ⟨_, .column _⟩ => inferInstanceAs (Decidable (_ ∨ _))
  | ⟨_, .case _⟩ | ⟨_, .block _⟩ | ⟨_, .select _⟩ | ⟨_, .paging _⟩ =>
    inferInstanceAs (Decidable True)

theorem Closed.namedAlike {x : Site} (h : x.Closed) (σ τ : Scopes) : x.NamedAlike σ τ := by
  obtain ⟨n, part⟩ := x
  cases part with
  | column c =>
    have hc : c.qualifier.isSome = true ∨ ∃ s ∈ n.scopes, s.holds c.table = true :=
      h.imp_right fun ⟨b, hb, ht⟩ => ⟨b.scope, List.mem_map_of_mem hb, ht⟩
    exact (Scopes.columnName_append hc σ).trans (Scopes.columnName_append hc τ).symm
  | _ => trivial

end Site

section Places

variable {n : Nesting} {σ τ : Scopes}

theorem Nesting.tableName_append (hn : n.blocks ≠ []) (t : Table) :
    (n.scopes ++ σ).tableName t = (n.scopes ++ τ).tableName t := by
  obtain ⟨_ | ⟨b, blocks⟩⟩ := n
  · exact absurd rfl hn
  · rfl

theorem Select.orderScopes_append (n : Nesting) (σ : Scopes) (blocks : List QueryBlock) :
    orderScopes (n.scopes ++ σ) blocks = (orderNesting n blocks).scopes ++ σ := by
  rcases blocks with _ | ⟨b, _ | ⟨c, blocks⟩⟩ <;> rfl

theorem SortItem.text_congr {s : SortItem} (h : ∀ x ∈ s.sites n, x.NamedAlike σ τ) :
    s.text (n.scopes ++ σ) = s.text (n.scopes ++ τ) := by
  obtain ⟨key, descending⟩ := s
  cases key with
  | name => rfl
  | column c =>
    have hc : c.label.getD ((n.scopes ++ σ).columnName c) =
        c.label.getD ((n.scopes ++ τ).columnName c) := by
      cases hl : c.label with
      | some a => rfl
      | none => exact h ⟨n, .column c⟩ (by simp [sites, hl])
    rw [text, text]
    simp only [hc]

theorem SortItem.clause_congr {items : List SortItem}
    (h : ∀ x ∈ items.flatMap (SortItem.sites n), x.NamedAlike σ τ) :
    SortItem.clause (n.scopes ++ σ) items = SortItem.clause (n.scopes ++ τ) items := by
  rw [List.forall_mem_flatMap] at h
  rw [clause, clause, List.map_congr_left fun s hs => text_congr (h s hs)]

theorem Phrase.caseWords_congr {opening : Phrase} {branches otherwise otherwise' : List Phrase}
    (h : branches ≠ [] → otherwise = otherwise') :
    caseWords opening branches otherwise = caseWords opening branches otherwise' := by
  cases branches with
  | nil => rfl
  | cons b branches => rw [h (List.cons_ne_nil b branches)]

theorem QueryBlock.guarded_congr {fault : Option RenderError} {clauses clauses' : List Phrase}
    (h : fault = none → clauses = clauses') : guarded fault clauses = guarded fault clauses' := by
  cases fault with
  | none => rw [h rfl]
  | some e => rfl

end Places

section Queries

variable {σ τ : Scopes}

mutual

theorem Expr.phrase_congr (n : Nesting) : ∀ e : Expr, (∀ x ∈ e.sites n, x.NamedAlike σ τ) →
    e.phrase (n.scopes ++ σ) = e.phrase (n.scopes ++ τ)
  | .column c, h => by
    have hc : (⟨n, .column c⟩ : Site).NamedAlike σ τ := h _ (List.mem_singleton_self _)
    rw [Expr.phrase, Expr.phrase]
    exact congrArg Phrase.text hc
  | .aggregate f argument _, h => by
    rw [Expr.sites] at h
    rw [Expr.phrase, Expr.phrase, Expr.argumentPhrase_congr n argument h]
  | .function name arguments _, h => by
    rw [Expr.sites] at h
    rw [Expr.phrase, Expr.phrase, Expr.phrases_congr n arguments h]
  | .constant s _, _ => by rw [Expr.phrase, Expr.phrase]
  | .stringConstant s _, _ => by rw [Expr.phrase, Expr.phrase]
  | .case expression _, h => by
    rw [Expr.sites] at h
    rw [Expr.phrase, Expr.phrase, Case.phrase_congr n expression h]

theorem Expr.argumentPhrase_congr (n : Nesting) : ∀ a : Option Expr,
    (∀ x ∈ Expr.argumentSites n a, x.NamedAlike σ τ) →
    Expr.argumentPhrase (n.scopes ++ σ) a = Expr.argumentPhrase (n.scopes ++ τ) a
  | none, _ => by rw [Expr.argumentPhrase, Expr.argumentPhrase]
  | some e, h => by
    rw [Expr.argumentSites] at h
    rw [Expr.argumentPhrase, Expr.argumentPhrase, Expr.phrase_congr n e h]

theorem Expr.phrases_congr (n : Nesting) : ∀ es : List Expr,
    (∀ x ∈ Expr.allSites n es, x.NamedAlike σ τ) →
    Expr.phrases (n.scopes ++ σ) es = Expr.phrases (n.scopes ++ τ) es
  | [], _ => by rw [Expr.phrases, Expr.phrases]
  | e :: es, h => by
    rw [Expr.allSites, List.forall_mem_append] at h
    rw [Expr.phrases, Expr.phrases, Expr.phrase_congr n e h.1, Expr.phrases_congr n es h.2]

theorem Expr.selectPhrases_congr (n : Nesting) : ∀ es : List Expr,
    (∀ x ∈ Expr.allSites n es, x.NamedAlike σ τ) →
    Expr.selectPhrases (n.scopes ++ σ) es = Expr.selectPhrases (n.scopes ++ τ) es
  | [], _ => by rw [Expr.selectPhrases, Expr.selectPhrases]
  | e :: es, h => by
    rw [Expr.allSites, List.forall_mem_append] at h
    rw [Expr.selectPhrases, Expr.selectPhrases, Expr.phrase_congr n e h.1,
      Expr.selectPhrases_congr n es h.2]

theorem Case.phrase_congr (n : Nesting) : ∀ c : Case, (∀ x ∈ c.sites n, x.NamedAlike σ τ) →
    c.phrase (n.scopes ++ σ) = c.phrase (n.scopes ++ τ)
  | .searched branches otherwise, h => by
    rw [Case.sites, List.forall_mem_append, List.forall_mem_cons] at h
    -- Without a branch the `else` is not written, and its names are not asked for.
    have ho : SearchedBranch.phrases (n.scopes ++ τ) branches ≠ [] →
        CaseResult.otherwisePhrases (n.scopes ++ σ) otherwise =
          CaseResult.otherwisePhrases (n.scopes ++ τ) otherwise := by
      intro hne
      rw [ne_eq, SearchedBranch.phrases_eq_nil_iff] at hne
      rw [if_neg hne] at h
      exact CaseResult.otherwisePhrases_congr n otherwise h.2.2
    rw [Case.phrase, Case.phrase, SearchedBranch.phrases_congr n branches h.1,
      Phrase.caseWords_congr ho]
  | .simple operand branches otherwise, h => by
    rw [Case.sites, List.forall_mem_append, List.forall_mem_append, List.forall_mem_cons] at h
    obtain ⟨hp, hb, -, hr⟩ := h
    have ho : SimpleBranch.phrases (n.scopes ++ τ) operand.bindingColumn branches ≠ [] →
        CaseResult.otherwisePhrases (n.scopes ++ σ) otherwise =
          CaseResult.otherwisePhrases (n.scopes ++ τ) otherwise := by
      intro hne
      rw [ne_eq, SimpleBranch.phrases_eq_nil_iff] at hne
      rw [if_neg hne] at hr
      exact CaseResult.otherwisePhrases_congr n otherwise hr
    rw [Case.phrase, Case.phrase]
    split at hp
    next he => rw [if_pos he, if_pos he]
    next => rw [Expr.phrase_congr n operand hp, SimpleBranch.phrases_congr n _ branches hb,
        Phrase.caseWords_congr ho]

theorem SearchedBranch.phrase_congr (n : Nesting) : ∀ b : SearchedBranch,
    (∀ x ∈ b.sites n, x.NamedAlike σ τ) → b.phrase (n.scopes ++ σ) = b.phrase (n.scopes ++ τ)
  | ⟨criteria, result⟩, h => by
    rw [SearchedBranch.sites] at h
    split at h
    next ha =>
      have hb : (⟨criteria, result⟩ : SearchedBranch).isAbsent = true := ha
      rw [SearchedBranch.phrase_eq_nil_iff.2 hb, SearchedBranch.phrase_eq_nil_iff.2 hb]
    next =>
      rw [List.forall_mem_append] at h
      rw [SearchedBranch.phrase, SearchedBranch.phrase, Criterion.chain_congr n criteria h.1,
        CaseResult.phrase_congr n result h.2]

theorem SearchedBranch.phrases_congr (n : Nesting) : ∀ branches : List SearchedBranch,
    (∀ x ∈ SearchedBranch.allSites n branches, x.NamedAlike σ τ) →
    SearchedBranch.phrases (n.scopes ++ σ) branches =
      SearchedBranch.phrases (n.scopes ++ τ) branches
  | [], _ => by rw [SearchedBranch.phrases, SearchedBranch.phrases]
  | b :: branches, h => by
    rw [SearchedBranch.allSites, List.forall_mem_append] at h
    rw [SearchedBranch.phrases, SearchedBranch.phrases, SearchedBranch.phrase_congr n b h.1,
      SearchedBranch.phrases_congr n branches h.2]

theorem SimpleBranch.phrase_congr (n : Nesting) (column : Option Column) : ∀ b : SimpleBranch,
    (∀ x ∈ b.sites n, x.NamedAlike σ τ) →
    b.phrase (n.scopes ++ σ) column = b.phrase (n.scopes ++ τ) column
  | ⟨test, result⟩, h => by
    rw [SimpleBranch.sites] at h
    split at h
    next ha =>
      have hb : (⟨test, result⟩ : SimpleBranch).isAbsent = true := ha
      rw [SimpleBranch.phrase_eq_nil_iff.2 hb, SimpleBranch.phrase_eq_nil_iff.2 hb]
    next =>
      rw [List.forall_mem_append] at h
      rw [SimpleBranch.phrase, SimpleBranch.phrase, SimpleTest.phrase?_congr n column test h.1,
        CaseResult.phrase_congr n result h.2]

theorem SimpleBranch.phrases_congr (n : Nesting) (column : Option Column) :
    ∀ branches : List SimpleBranch,
    (∀ x ∈ SimpleBranch.allSites n branches, x.NamedAlike σ τ) →
    SimpleBranch.phrases (n.scopes ++ σ) column branches =
      SimpleBranch.phrases (n.scopes ++ τ) column branches
  | [], _ => by rw [SimpleBranch.phrases, SimpleBranch.phrases]
  | b :: branches, h => by
    rw [SimpleBranch.allSites, List.forall_mem_append] at h
    rw [SimpleBranch.phrases, SimpleBranch.phrases, SimpleBranch.phrase_congr n column b h.1,
      SimpleBranch.phrases_congr n column branches h.2]

theorem SimpleTest.phrase?_congr (n : Nesting) (column : Option Column) : ∀ t : SimpleTest,
    (∀ x ∈ t.sites n, x.NamedAlike σ τ) →
    t.phrase? (n.scopes ++ σ) column = t.phrase? (n.scopes ++ τ) column
  | .values [], _ => by rw [SimpleTest.phrase?, SimpleTest.phrase?]
  | .values (v :: vs), _ => by rw [SimpleTest.phrase?, SimpleTest.phrase?]
  | .condition c, h => by
    rw [SimpleTest.sites] at h
    rw [SimpleTest.phrase?, SimpleTest.phrase?, Condition.right?_congr n column c h]

theorem CaseResult.phrase_congr (n : Nesting) : ∀ r : CaseResult,
    (∀ x ∈ r.sites n, x.NamedAlike σ τ) → r.phrase (n.scopes ++ σ) = r.phrase (n.scopes ++ τ)
  | .stringConstant s, _ => by rw [CaseResult.phrase, CaseResult.phrase]
  | .constant s, _ => by rw [CaseResult.phrase, CaseResult.phrase]
  | .value v, _ => by rw [CaseResult.phrase, CaseResult.phrase]
  | .expr e, h => by
    rw [CaseResult.sites] at h
    rw [CaseResult.phrase, CaseResult.phrase, Expr.phrase_congr n e h]

theorem CaseResult.otherwisePhrases_congr (n : Nesting) : ∀ r : Option CaseResult,
    (∀ x ∈ CaseResult.otherwiseSites n r, x.NamedAlike σ τ) →
    CaseResult.otherwisePhrases (n.scopes ++ σ) r = CaseResult.otherwisePhrases (n.scopes ++ τ) r
  | none, _ => by rw [CaseResult.otherwisePhrases, CaseResult.otherwisePhrases]
  | some r, h => by
    rw [CaseResult.otherwiseSites] at h
    rw [CaseResult.otherwisePhrases, CaseResult.otherwisePhrases, CaseResult.phrase_congr n r h]

theorem Condition.right?_congr (n : Nesting) (column : Option Column) : ∀ c : Condition,
    (∀ x ∈ c.sites n, x.NamedAlike σ τ) →
    c.right? (n.scopes ++ σ) column = c.right? (n.scopes ++ τ) column
  | .empty, _ => by rw [Condition.right?, Condition.right?]
  | .noValue operator, _ => by rw [Condition.right?, Condition.right?]
  | .single operator v _, _ => by rw [Condition.right?, Condition.right?]
  | .pair operator conjunction v w, _ => by rw [Condition.right?, Condition.right?]
  | .list operator vs _, _ => by rw [Condition.right?, Condition.right?]
  | .comparison operator other, h => by
    rw [Condition.sites] at h
    rw [Condition.right?, Condition.right?, Expr.phrase_congr n other h]
  | .subselect operator query, h => by
    rw [Condition.sites] at h
    rw [Condition.right?, Condition.right?, Select.phrase_congr n query h]

theorem Predicate.phrase?_congr (n : Nesting) : ∀ p : Predicate,
    (∀ x ∈ p.sites n, x.NamedAlike σ τ) → p.phrase? (n.scopes ++ σ) = p.phrase? (n.scopes ++ τ)
  | .compare subject condition, h => by
    rw [Predicate.sites] at h
    rw [Predicate.phrase?, Predicate.phrase?]
    split at h
    next he =>
      rw [Condition.right?_eq_none_iff.2 he, Condition.right?_eq_none_iff.2 he]
      rfl
    next =>
      rw [List.forall_mem_append] at h
      rw [Expr.phrase_congr n subject h.1, Condition.right?_congr n _ condition h.2]
  | .existence query negated, h => by
    rw [Predicate.sites] at h
    rw [Predicate.phrase?, Predicate.phrase?, Select.phrase_congr n query h]
  | .negation criterion, h => by
    rw [Predicate.sites] at h
    rw [Predicate.phrase?, Predicate.phrase?, Criterion.parts_congr n criterion h]

theorem Criterion.parts_congr (n : Nesting) : ∀ c : Criterion,
    (∀ x ∈ c.sites n, x.NamedAlike σ τ) → c.parts (n.scopes ++ σ) = c.parts (n.scopes ++ τ)
  | ⟨_, predicate, attached⟩, h => by
    rw [Criterion.sites, List.forall_mem_append] at h
    rw [Criterion.parts, Criterion.parts, Criterion.initialParts_congr n predicate h.1,
      Criterion.chain_congr n attached h.2]

theorem Criterion.initialParts_congr (n : Nesting) : ∀ p : Option Predicate,
    (∀ x ∈ Predicate.initialSites n p, x.NamedAlike σ τ) →
    Criterion.initialParts (n.scopes ++ σ) p = Criterion.initialParts (n.scopes ++ τ) p
  | none, _ => by rw [Criterion.initialParts, Criterion.initialParts]
  | some p, h => by
    rw [Predicate.initialSites] at h
    rw [Criterion.initialParts, Criterion.initialParts, Predicate.phrase?_congr n p h]

theorem Criterion.chain_congr (n : Nesting) : ∀ cs : List Criterion,
    (∀ x ∈ Criterion.allSites n cs, x.NamedAlike σ τ) →
    Criterion.chain (n.scopes ++ σ) cs = Criterion.chain (n.scopes ++ τ) cs
  | [], _ => by rw [Criterion.chain, Criterion.chain]
  | c :: cs, h => by
    rw [Criterion.allSites, List.forall_mem_append] at h
    rw [Criterion.chain, Criterion.chain, Criterion.parts_congr n c h.1,
      Criterion.chain_congr n cs h.2]

theorem Source.phrase_congr (n : Nesting) (hn : n.blocks ≠ []) : ∀ s : Source,
    (∀ x ∈ s.sites n, x.NamedAlike σ τ) → s.phrase (n.scopes ++ σ) = s.phrase (n.scopes ++ τ)
  | .table t, _ => by rw [Source.phrase, Source.phrase, Nesting.tableName_append hn t]
  | .subquery query a, h => by
    rw [Source.sites] at h
    rw [Source.phrase, Source.phrase, Select.phrase_congr n query h]

theorem Source.fromPhrases_congr (n : Nesting) (hn : n.blocks ≠ []) : ∀ s : Option Source,
    (∀ x ∈ Source.fromSites n s, x.NamedAlike σ τ) →
    Source.fromPhrases (n.scopes ++ σ) s = Source.fromPhrases (n.scopes ++ τ) s
  | none, _ => by rw [Source.fromPhrases, Source.fromPhrases]
  | some s, h => by
    rw [Source.fromSites] at h
    rw [Source.fromPhrases, Source.fromPhrases, Source.phrase_congr n hn s h]

theorem Join.phrase_congr (n : Nesting) (hn : n.blocks ≠ []) : ∀ j : Join,
    (∀ x ∈ j.sites n, x.NamedAlike σ τ) → j.phrase (n.scopes ++ σ) = j.phrase (n.scopes ++ τ)
  | ⟨kind, source, criteria⟩, h => by
    rw [Join.sites, List.forall_mem_append] at h
    rw [Join.phrase, Join.phrase, Source.phrase_congr n hn source h.1,
      Criterion.chain_congr n criteria h.2]

theorem Join.phrases_congr (n : Nesting) (hn : n.blocks ≠ []) : ∀ js : List Join,
    (∀ x ∈ Join.allSites n js, x.NamedAlike σ τ) →
    Join.phrases (n.scopes ++ σ) js = Join.phrases (n.scopes ++ τ) js
  | [], _ => by rw [Join.phrases, Join.phrases]
  | j :: js, h => by
    rw [Join.allSites, List.forall_mem_append] at h
    rw [Join.phrases, Join.phrases, Join.phrase_congr n hn j h.1, Join.phrases_congr n hn js h.2]

theorem QueryBlock.clauses_congr (n : Nesting) (hn : n.blocks ≠ []) : ∀ b : QueryBlock,
    (∀ x ∈ b.sites n, x.NamedAlike σ τ) →
    b.clauses (n.scopes ++ σ) = b.clauses (n.scopes ++ τ)
  | ⟨_, distinct, columns, source, _, joins, criteria, groupBy, having⟩, h => by
    simp only [QueryBlock.sites, List.forall_mem_append] at h
    obtain ⟨hc, hs, hj, hw, hg, hh⟩ := h
    rw [QueryBlock.clauses, QueryBlock.clauses, Expr.selectPhrases_congr n columns hc,
      Source.fromPhrases_congr n hn source hs, Join.phrases_congr n hn joins hj,
      Criterion.chain_congr n criteria hw, Expr.phrases_congr n groupBy hg,
      Criterion.chain_congr n having hh]

theorem QueryBlock.phrases_congr (n : Nesting) : ∀ blocks : List QueryBlock,
    (∀ x ∈ QueryBlock.allSites n blocks, x.NamedAlike σ τ) →
    QueryBlock.phrases (n.scopes ++ σ) blocks = QueryBlock.phrases (n.scopes ++ τ) blocks
  | [], _ => by rw [QueryBlock.phrases, QueryBlock.phrases]
  | b :: blocks, h => by
    rw [QueryBlock.allSites, List.forall_mem_cons, List.forall_mem_append] at h
    obtain ⟨-, hb, hr⟩ := h
    -- Inside the block the nesting grows by its scope; what is outside stays outside.
    have hc : b.fault? = none →
        b.clauses (b.scope :: (n.scopes ++ σ)) = b.clauses (b.scope :: (n.scopes ++ τ)) := by
      intro hf
      rw [hf] at hb
      exact QueryBlock.clauses_congr (n.within b) (List.cons_ne_nil _ _) b hb
    rw [QueryBlock.phrases, QueryBlock.phrases, QueryBlock.phrases_congr n blocks hr,
      QueryBlock.guarded_congr hc]

/-- A select whose columns have the same names under these scopes and those has the same phrase. -/
theorem Select.phrase_congr (n : Nesting) : ∀ q : Select,
    (∀ x ∈ q.sites n, x.NamedAlike σ τ) → q.phrase (n.scopes ++ σ) = q.phrase (n.scopes ++ τ)
  | ⟨blocks, orderBy, paging⟩, h => by
    rw [Select.sites, List.forall_mem_cons] at h
    rw [Select.phrase, Select.phrase]
    split
    next => rfl
    next he =>
      rw [if_neg he, List.forall_mem_append, List.forall_mem_append] at h
      have ho :
          (orderBy.map (SortItem.clause (Select.orderScopes (n.scopes ++ σ) blocks))).getD [] =
            (orderBy.map (SortItem.clause (Select.orderScopes (n.scopes ++ τ) blocks))).getD [] := by
        cases orderBy with
        | none => rfl
        | some items =>
          rw [Select.orderScopes_append, Select.orderScopes_append]
          exact SortItem.clause_congr h.2.2.1
      rw [QueryBlock.phrases_congr n blocks h.2.1, ho]

end

end Queries

namespace Select

/-- The select names all its columns itself: each has a qualifier of its own, or a block of the
select around it holds its table. -/
def Closed (q : Select) : Prop := ∀ x ∈ q.sites {}, x.Closed

instance (q : Select) : Decidable q.Closed :=
  inferInstanceAs (Decidable (∀ x ∈ q.sites {}, x.Closed))

/-- A closed select has the same phrase everywhere. -/
theorem phrase_of_closed {q : Select} (h : q.Closed) (σ : Scopes) : q.phrase σ = q.phrase [] :=
  Select.phrase_congr {} q fun x hx => (h x hx).namedAlike σ []

end Select

end SqlStatement
