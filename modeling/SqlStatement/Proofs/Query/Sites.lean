import SqlStatement.Proofs.Query.Bindings

/-! # The sites of a query

What is written of a query, in the order of writing, each part with the blocks that are open around
it. Nothing is listed of a comparison without a condition, of a branch whose test is left out, or
behind what cannot be written at all: a block without a table or columns, a case expression
without branches, a select without blocks.
-/

namespace SqlStatement

/-- A part of a query on which something hangs: a name that the blocks around it decide, or whether
the query can be written. -/
inductive Part where
  | column (c : Column)
  | case (c : Case)
  | block (b : QueryBlock)
  | select (q : Select)
  | paging (p : Paging)

/-- The blocks of a query that are open in a place, innermost first. -/
structure Nesting where
  blocks : List QueryBlock := []

namespace Nesting

def within (n : Nesting) (b : QueryBlock) : Nesting := ⟨b :: n.blocks⟩

/-- The scopes that the blocks open. -/
def scopes (n : Nesting) : Scopes := n.blocks.map QueryBlock.scope

end Nesting

/-- A part in its place. -/
structure Site where
  nesting : Nesting
  part : Part

namespace SearchedBranch

def isAbsent (b : SearchedBranch) : Bool := (Criterion.allLeaves b.criteria).isEmpty

end SearchedBranch

namespace SimpleBranch

def isAbsent (b : SimpleBranch) : Bool := b.test.isEmpty

end SimpleBranch

namespace Case

/-- No branch is written; an `else` alone does not count. -/
def isBare : Case → Bool
  | searched branches _ => branches.all SearchedBranch.isAbsent
  | simple _ branches _ => branches.all SimpleBranch.isAbsent

end Case

namespace Select

/-- The blocks that name the columns of the order by clause: the only block, or those around. -/
def orderNesting (n : Nesting) : List QueryBlock → Nesting
  | [b] => n.within b
  | _ => n

end Select

namespace SortItem

/-- A name or a label is written as it stands. -/
def sites (n : Nesting) (s : SortItem) : List Site :=
  match s.key with
  | .column c => if c.label.isSome then [] else [⟨n, .column c⟩]
  | .name _ => []

end SortItem

mutual

def Expr.sites (n : Nesting) : Expr → List Site
  | .column c => [⟨n, .column c⟩]
  | .aggregate _ argument _ => Expr.argumentSites n argument
  | .function _ arguments _ => Expr.allSites n arguments
  | .constant .. | .stringConstant .. => []
  | .case expression _ => expression.sites n

def Expr.argumentSites (n : Nesting) : Option Expr → List Site
  | none => []
  | some e => e.sites n

def Expr.allSites (n : Nesting) : List Expr → List Site
  | [] => []
  | e :: es => e.sites n ++ Expr.allSites n es

/-- A case expression itself comes behind its branches, where it is found to have one. -/
def Case.sites (n : Nesting) : Case → List Site
  | .searched branches otherwise =>
    SearchedBranch.allSites n branches ++ ⟨n, .case (.searched branches otherwise)⟩ ::
      if branches.all SearchedBranch.isAbsent then [] else CaseResult.otherwiseSites n otherwise
  | .simple operand branches otherwise =>
    (if branches.isEmpty then [] else operand.sites n) ++
      (SimpleBranch.allSites n branches ++ ⟨n, .case (.simple operand branches otherwise)⟩ ::
        if branches.all SimpleBranch.isAbsent then [] else CaseResult.otherwiseSites n otherwise)

def SearchedBranch.sites (n : Nesting) : SearchedBranch → List Site
  | ⟨criteria, result⟩ =>
    if (Criterion.allLeaves criteria).isEmpty then []
    else Criterion.allSites n criteria ++ result.sites n

def SearchedBranch.allSites (n : Nesting) : List SearchedBranch → List Site
  | [] => []
  | b :: rest => b.sites n ++ SearchedBranch.allSites n rest

def SimpleBranch.sites (n : Nesting) : SimpleBranch → List Site
  | ⟨test, result⟩ => if test.isEmpty then [] else test.sites n ++ result.sites n

def SimpleBranch.allSites (n : Nesting) : List SimpleBranch → List Site
  | [] => []
  | b :: rest => b.sites n ++ SimpleBranch.allSites n rest

def SimpleTest.sites (n : Nesting) : SimpleTest → List Site
  | .values _ => []
  | .condition c => c.sites n

def CaseResult.sites (n : Nesting) : CaseResult → List Site
  | .stringConstant _ | .constant _ | .value _ => []
  | .expr e => e.sites n

def CaseResult.otherwiseSites (n : Nesting) : Option CaseResult → List Site
  | none => []
  | some r => r.sites n

def Condition.sites (n : Nesting) : Condition → List Site
  | .empty | .noValue _ | .single .. | .pair .. | .list .. => []
  | .comparison _ other => other.sites n
  | .subselect _ query => query.sites n

def Predicate.sites (n : Nesting) : Predicate → List Site
  | .compare subject condition =>
    if condition.isEmpty then [] else subject.sites n ++ condition.sites n
  | .existence query _ => query.sites n
  | .negation criterion => criterion.sites n

def Predicate.initialSites (n : Nesting) : Option Predicate → List Site
  | none => []
  | some p => p.sites n

def Criterion.sites (n : Nesting) : Criterion → List Site
  | ⟨_, predicate, attached⟩ => Predicate.initialSites n predicate ++ Criterion.allSites n attached

def Criterion.allSites (n : Nesting) : List Criterion → List Site
  | [] => []
  | c :: cs => c.sites n ++ Criterion.allSites n cs

def Source.sites (n : Nesting) : Source → List Site
  | .table _ => []
  | .subquery query _ => query.sites n

def Source.fromSites (n : Nesting) : Option Source → List Site
  | none => []
  | some s => s.sites n

def Join.sites (n : Nesting) : Join → List Site
  | ⟨_, source, criteria⟩ => source.sites n ++ Criterion.allSites n criteria

def Join.allSites (n : Nesting) : List Join → List Site
  | [] => []
  | j :: js => j.sites n ++ Join.allSites n js

def QueryBlock.sites (n : Nesting) : QueryBlock → List Site
  | ⟨_, _, columns, source, _, joins, criteria, groupBy, having⟩ =>
    Expr.allSites n columns ++ (Source.fromSites n source ++ (Join.allSites n joins ++
      (Criterion.allSites n criteria ++ (Expr.allSites n groupBy ++
        Criterion.allSites n having))))

def QueryBlock.allSites (n : Nesting) : List QueryBlock → List Site
  | [] => []
  | b :: rest =>
    ⟨n, .block b⟩ :: ((if b.fault?.isSome then [] else b.sites (n.within b)) ++
      QueryBlock.allSites n rest)

def Select.sites (n : Nesting) : Select → List Site
  | ⟨blocks, orderBy, paging⟩ =>
    ⟨n, .select ⟨blocks, orderBy, paging⟩⟩ ::
      if blocks.isEmpty then []
      else QueryBlock.allSites n blocks ++
        ((orderBy.getD []).flatMap (SortItem.sites (Select.orderNesting n blocks)) ++
          paging.toList.map fun p => ⟨n, .paging p⟩)

end

section Branches

variable {σ : Scopes}

theorem Phrase.caseBranch_eq_nil_iff {test : Option Phrase} {result : Phrase} :
    caseBranch test result = [] ↔ test = none := by
  cases test <;> simp [caseBranch]

theorem SearchedBranch.phrase_eq_nil_iff {b : SearchedBranch} :
    b.phrase σ = [] ↔ b.isAbsent = true := by
  obtain ⟨criteria, result⟩ := b
  rw [SearchedBranch.phrase, Phrase.caseBranch_eq_nil_iff, Criterion.phrase?_chain_eq_none_iff,
    isAbsent, List.isEmpty_iff]

theorem SearchedBranch.phrases_eq_nil_iff {branches : List SearchedBranch} :
    SearchedBranch.phrases σ branches = [] ↔ branches.all isAbsent = true := by
  induction branches with
  | nil => simp [SearchedBranch.phrases]
  | cons b branches ih =>
    rw [SearchedBranch.phrases, List.append_eq_nil_iff, phrase_eq_nil_iff, ih, List.all_cons,
      Bool.and_eq_true]

theorem SimpleBranch.phrase_eq_nil_iff {column : Option Column} {b : SimpleBranch} :
    b.phrase σ column = [] ↔ b.isAbsent = true := by
  obtain ⟨test, result⟩ := b
  rw [SimpleBranch.phrase, Phrase.caseBranch_eq_nil_iff, SimpleTest.phrase?_eq_none_iff, isAbsent]

theorem SimpleBranch.phrases_eq_nil_iff {column : Option Column} {branches : List SimpleBranch} :
    SimpleBranch.phrases σ column branches = [] ↔ branches.all isAbsent = true := by
  induction branches with
  | nil => simp [SimpleBranch.phrases]
  | cons b branches ih =>
    rw [SimpleBranch.phrases, List.append_eq_nil_iff, phrase_eq_nil_iff, ih, List.all_cons,
      Bool.and_eq_true]

end Branches

end SqlStatement
