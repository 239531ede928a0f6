import SqlStatement.Proofs.Query.Prune

/-! # Nothing left to prune

A part is absent after pruning exactly if it was before. So a pruned query has no absent parts left
that pruning could delete.
-/

namespace SqlStatement

theorem Agree.eq_nil_iff {S : Strategy} {parts parts' : Chain}
    (h : Agree (Chain.faults S) parts parts') : parts = [] ↔ parts' = [] := by
  constructor
  · rintro rfl
    exact (h (.inl rfl)).symm
  · rintro rfl
    exact h (.inr rfl)

namespace Criterion

theorem leaves_prune_eq_nil_iff (c : Criterion) : c.prune.leaves = [] ↔ c.leaves = [] := by
  rw [← parts_eq_nil_iff [], ← parts_eq_nil_iff []]
  exact (Criterion.agree_prune (S := .positional) [] c).eq_nil_iff

theorem allLeaves_pruneAll_eq_nil_iff (cs : List Criterion) :
    allLeaves (pruneAll cs) = [] ↔ allLeaves cs = [] := by
  rw [← chain_eq_nil_iff [], ← chain_eq_nil_iff []]
  exact (Criterion.agree_pruneAll (S := .positional) [] cs).eq_nil_iff

end Criterion

theorem Predicate.leaves_prune_eq_nil_iff (p : Predicate) :
    p.prune.leaves = [] ↔ p.leaves = [] := by
  rw [← phrase?_eq_none_iff [], ← phrase?_eq_none_iff []]
  exact (Predicate.agree_prune (S := .positional) [] p).eq_none_iff

theorem SearchedBranch.isAbsent_prune (b : SearchedBranch) : b.prune.isAbsent = b.isAbsent := by
  obtain ⟨criteria, result⟩ := b
  rw [SearchedBranch.prune, Bool.eq_iff_iff, isAbsent, isAbsent, List.isEmpty_iff, List.isEmpty_iff]
  exact Criterion.allLeaves_pruneAll_eq_nil_iff criteria

theorem Condition.isEmpty_prune (c : Condition) : c.prune.isEmpty = c.isEmpty := by
  cases c <;> simp only [Condition.prune, Condition.isEmpty]

theorem SimpleBranch.isAbsent_prune (b : SimpleBranch) : b.prune.isAbsent = b.isAbsent := by
  obtain ⟨test, result⟩ := b
  cases test with
  | values vs => rw [SimpleBranch.prune, SimpleTest.prune, isAbsent, isAbsent]
  | condition c =>
    rw [SimpleBranch.prune, SimpleTest.prune]
    exact c.isEmpty_prune

section Members

variable {α : Type} {absent : α → Bool} {prune : α → α} {pruneAll : List α → List α}

theorem forall_mem_of_pruneAll (hn : pruneAll [] = [])
    (hc : ∀ a as, pruneAll (a :: as) = if absent a then pruneAll as else prune a :: pruneAll as)
    (hp : ∀ a, absent (prune a) = absent a) (as : List α) :
    ∀ a ∈ pruneAll as, absent a = false := by
  induction as with
  | nil => rw [hn]; exact nofun
  | cons a as ih =>
    rw [hc]
    split
    next => exact ih
    next ha =>
      rw [List.forall_mem_cons, hp]
      exact ⟨Bool.eq_false_iff.2 ha, ih⟩

end Members

theorem Criterion.forall_mem_pruneAll (cs : List Criterion) :
    ∀ c ∈ Criterion.pruneAll cs, c.leaves.isEmpty = false := by
  refine forall_mem_of_pruneAll (by rw [pruneAll]) (fun c cs => by rw [pruneAll]) (fun c => ?_) cs
  rw [Bool.eq_iff_iff, List.isEmpty_iff, List.isEmpty_iff, c.leaves_prune_eq_nil_iff]

theorem Predicate.forall_mem_pruneInitial (p : Option Predicate) :
    ∀ q ∈ Predicate.pruneInitial p, q.leaves ≠ [] := by
  cases p with
  | none => rw [Predicate.pruneInitial]; exact nofun
  | some p =>
    rw [Predicate.pruneInitial]
    split
    next => exact nofun
    next hp =>
      rintro _ ⟨⟩
      rw [ne_eq, p.leaves_prune_eq_nil_iff]
      exact fun h => hp (List.isEmpty_iff.2 h)

theorem SearchedBranch.forall_mem_pruneAll (branches : List SearchedBranch) :
    ∀ b ∈ SearchedBranch.pruneAll branches, b.isAbsent = false :=
  forall_mem_of_pruneAll (by rw [pruneAll]) (fun b bs => by rw [pruneAll]) isAbsent_prune branches

theorem SimpleBranch.forall_mem_pruneAll (branches : List SimpleBranch) :
    ∀ b ∈ SimpleBranch.pruneAll branches, b.isAbsent = false :=
  forall_mem_of_pruneAll (by rw [pruneAll]) (fun b bs => by rw [pruneAll]) isAbsent_prune branches

mutual

@[simp] theorem Expr.prune_prune : ∀ e : Expr, e.prune.prune = e.prune
  | .column c => by rw [Expr.prune, Expr.prune]
  | .aggregate f argument _ => by
    rw [Expr.prune, Expr.prune, Expr.pruneArgument_pruneArgument argument]
  | .function name arguments _ => by
    rw [Expr.prune, Expr.prune, Expr.pruneAll_pruneAll arguments]
  | .constant s _ => by rw [Expr.prune, Expr.prune]
  | .stringConstant s _ => by rw [Expr.prune, Expr.prune]
  | .case expression _ => by rw [Expr.prune, Expr.prune, Case.prune_prune expression]

theorem Expr.pruneArgument_pruneArgument :
    ∀ a : Option Expr, Expr.pruneArgument (Expr.pruneArgument a) = Expr.pruneArgument a
  | none => by rw [Expr.pruneArgument, Expr.pruneArgument]
  | some e => by rw [Expr.pruneArgument, Expr.pruneArgument, Expr.prune_prune e]

theorem Expr.pruneAll_pruneAll :
    ∀ es : List Expr, Expr.pruneAll (Expr.pruneAll es) = Expr.pruneAll es
  | [] => by rw [Expr.pruneAll, Expr.pruneAll]
  | e :: es => by
    rw [Expr.pruneAll, Expr.pruneAll, Expr.prune_prune e, Expr.pruneAll_pruneAll es]

theorem Case.prune_prune : ∀ c : Case, c.prune.prune = c.prune
  | .searched branches otherwise => by
    rw [Case.prune, Case.prune, SearchedBranch.pruneAll_pruneAll branches,
      CaseResult.pruneOtherwise_pruneOtherwise otherwise]
  | .simple operand branches otherwise => by
    rw [Case.prune, Case.prune, Expr.prune_prune operand, SimpleBranch.pruneAll_pruneAll branches,
      CaseResult.pruneOtherwise_pruneOtherwise otherwise]

theorem SearchedBranch.prune_prune : ∀ b : SearchedBranch, b.prune.prune = b.prune
  | ⟨criteria, result⟩ => by
    rw [SearchedBranch.prune, SearchedBranch.prune, Criterion.pruneAll_pruneAll criteria,
      CaseResult.prune_prune result]

theorem SearchedBranch.pruneAll_pruneAll : ∀ branches : List SearchedBranch,
    SearchedBranch.pruneAll (SearchedBranch.pruneAll branches) = SearchedBranch.pruneAll branches
  | [] => by rw [SearchedBranch.pruneAll, SearchedBranch.pruneAll]
  | b :: branches => by
    rw [SearchedBranch.pruneAll]
    split
    next => exact SearchedBranch.pruneAll_pruneAll branches
    next h =>
      rw [← b.isAbsent_prune] at h
      rw [SearchedBranch.pruneAll, if_neg h, SearchedBranch.prune_prune b,
        SearchedBranch.pruneAll_pruneAll branches]

theorem SimpleBranch.prune_prune : ∀ b : SimpleBranch, b.prune.prune = b.prune
  | ⟨test, result⟩ => by
    rw [SimpleBranch.prune, SimpleBranch.prune, SimpleTest.prune_prune test,
      CaseResult.prune_prune result]

theorem SimpleBranch.pruneAll_pruneAll : ∀ branches : List SimpleBranch,
    SimpleBranch.pruneAll (SimpleBranch.pruneAll branches) = SimpleBranch.pruneAll branches
  | [] => by rw [SimpleBranch.pruneAll, SimpleBranch.pruneAll]
  | b :: branches => by
    rw [SimpleBranch.pruneAll]
    split
    next => exact SimpleBranch.pruneAll_pruneAll branches
    next h =>
      rw [← b.isAbsent_prune] at h
      rw [SimpleBranch.pruneAll, if_neg h, SimpleBranch.prune_prune b,
        SimpleBranch.pruneAll_pruneAll branches]

theorem SimpleTest.prune_prune : ∀ t : SimpleTest, t.prune.prune = t.prune
  | .values vs => by rw [SimpleTest.prune, SimpleTest.prune]
  | .condition c => by rw [SimpleTest.prune, SimpleTest.prune, Condition.prune_prune c]

theorem CaseResult.prune_prune : ∀ r : CaseResult, r.prune.prune = r.prune
  | .stringConstant s => by rw [CaseResult.prune, CaseResult.prune]
  | .constant s => by rw [CaseResult.prune, CaseResult.prune]
  | .value v => by rw [CaseResult.prune, CaseResult.prune]
  | .expr e => by rw [CaseResult.prune, CaseResult.prune, Expr.prune_prune e]

theorem CaseResult.pruneOtherwise_pruneOtherwise : ∀ r : Option CaseResult,
    CaseResult.pruneOtherwise (CaseResult.pruneOtherwise r) = CaseResult.pruneOtherwise r
  | none => by rw [CaseResult.pruneOtherwise, CaseResult.pruneOtherwise]
  | some r => by
    rw [CaseResult.pruneOtherwise, CaseResult.pruneOtherwise, CaseResult.prune_prune r]

theorem Condition.prune_prune : ∀ c : Condition, c.prune.prune = c.prune
  | .empty => by rw [Condition.prune, Condition.prune]
  | .noValue operator => by rw [Condition.prune, Condition.prune]
  | .single operator v _ => by rw [Condition.prune, Condition.prune]
  | .pair operator conjunction v w => by rw [Condition.prune, Condition.prune]
  | .list operator vs _ => by rw [Condition.prune, Condition.prune]
  | .comparison operator other => by
    rw [Condition.prune, Condition.prune, Expr.prune_prune other]
  | .subselect operator query => by
    rw [Condition.prune, Condition.prune, Select.prune_prune query]

theorem Predicate.prune_prune : ∀ p : Predicate, p.prune.prune = p.prune
  | .compare subject condition => by
    rw [Predicate.prune, Predicate.prune, Expr.prune_prune subject, Condition.prune_prune condition]
  | .existence query negated => by
    rw [Predicate.prune, Predicate.prune, Select.prune_prune query]
  | .negation criterion => by
    rw [Predicate.prune, Predicate.prune, Criterion.prune_prune criterion]

theorem Predicate.pruneInitial_pruneInitial : ∀ p : Option Predicate,
    Predicate.pruneInitial (Predicate.pruneInitial p) = Predicate.pruneInitial p
  | none => by rw [Predicate.pruneInitial, Predicate.pruneInitial]
  | some p => by
    rw [Predicate.pruneInitial]
    split
    next => rw [Predicate.pruneInitial]
    next h =>
      rw [List.isEmpty_iff, ← p.leaves_prune_eq_nil_iff, ← List.isEmpty_iff] at h
      rw [Predicate.pruneInitial, if_neg h, Predicate.prune_prune p]

theorem Criterion.prune_prune : ∀ c : Criterion, c.prune.prune = c.prune
  | ⟨_, predicate, attached⟩ => by
    rw [Criterion.prune, Criterion.prune, Predicate.pruneInitial_pruneInitial predicate,
      Criterion.pruneAll_pruneAll attached]

theorem Criterion.pruneAll_pruneAll : ∀ cs : List Criterion,
    Criterion.pruneAll (Criterion.pruneAll cs) = Criterion.pruneAll cs
  | [] => by rw [Criterion.pruneAll, Criterion.pruneAll]
  | c :: cs => by
    rw [Criterion.pruneAll]
    split
    next => exact Criterion.pruneAll_pruneAll cs
    next h =>
      rw [List.isEmpty_iff, ← c.leaves_prune_eq_nil_iff, ← List.isEmpty_iff] at h
      rw [Criterion.pruneAll, if_neg h, Criterion.prune_prune c, Criterion.pruneAll_pruneAll cs]

theorem Source.prune_prune : ∀ s : Source, s.prune.prune = s.prune
  | .table t => by rw [Source.prune, Source.prune]
  | .subquery query a => by rw [Source.prune, Source.prune, Select.prune_prune query]

theorem Source.pruneFrom_pruneFrom :
    ∀ s : Option Source, Source.pruneFrom (Source.pruneFrom s) = Source.pruneFrom s
  | none => by rw [Source.pruneFrom, Source.pruneFrom]
  | some s => by rw [Source.pruneFrom, Source.pruneFrom, Source.prune_prune s]

theorem Join.prune_prune : ∀ j : Join, j.prune.prune = j.prune
  | ⟨kind, source, criteria⟩ => by
    rw [Join.prune, Join.prune, Source.prune_prune source, Criterion.pruneAll_pruneAll criteria]

theorem Join.pruneAll_pruneAll :
    ∀ js : List Join, Join.pruneAll (Join.pruneAll js) = Join.pruneAll js
  | [] => by rw [Join.pruneAll, Join.pruneAll]
  | j :: js => by
    rw [Join.pruneAll, Join.pruneAll, Join.prune_prune j, Join.pruneAll_pruneAll js]

theorem QueryBlock.prune_prune : ∀ b : QueryBlock, b.prune.prune = b.prune
  | ⟨_, _, columns, source, _, joins, criteria, groupBy, having⟩ => by
    rw [QueryBlock.prune, QueryBlock.prune, Expr.pruneAll_pruneAll columns,
      Source.pruneFrom_pruneFrom source, Join.pruneAll_pruneAll joins,
      Criterion.pruneAll_pruneAll criteria, Expr.pruneAll_pruneAll groupBy,
      Criterion.pruneAll_pruneAll having]

theorem QueryBlock.pruneAll_pruneAll : ∀ blocks : List QueryBlock,
    QueryBlock.pruneAll (QueryBlock.pruneAll blocks) = QueryBlock.pruneAll blocks
  | [] => by rw [QueryBlock.pruneAll, QueryBlock.pruneAll]
  | b :: blocks => by
    rw [QueryBlock.pruneAll, QueryBlock.pruneAll, QueryBlock.prune_prune b,
      QueryBlock.pruneAll_pruneAll blocks]

/-- Nothing is left to prune in a pruned select. -/
@[simp] theorem Select.prune_prune : ∀ q : Select, q.prune.prune = q.prune
  | ⟨blocks, orderBy, paging⟩ => by
    rw [Select.prune, Select.prune, QueryBlock.pruneAll_pruneAll blocks]

end

end SqlStatement
