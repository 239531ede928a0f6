import SqlStatement.Proofs.Phrase.Contents
import SqlStatement.Query.Phrase

/-! # The leaves of criteria

The predicates that are left once empty conditions, and the groups and negations that hold nothing
else, have been dropped. Criteria are written exactly if a leaf is left.
-/

namespace SqlStatement

mutual

/-- The leaves of a predicate: itself, or those of the criterion that it negates. -/
def Predicate.leaves : Predicate → List Predicate
  | .compare subject condition => if condition.isEmpty then [] else [.compare subject condition]
  | .existence query negated => [.existence query negated]
  | .negation criterion => criterion.leaves

def Predicate.initialLeaves : Option Predicate → List Predicate
  | none => []
  | some p => p.leaves

def Criterion.leaves : Criterion → List Predicate
  | ⟨_, predicate, attached⟩ => Predicate.initialLeaves predicate ++ Criterion.allLeaves attached

def Criterion.allLeaves : List Criterion → List Predicate
  | [] => []
  | c :: cs => c.leaves ++ Criterion.allLeaves cs

end

namespace Chain

@[simp] theorem phrase?_eq_none_iff {parts : Chain} : parts.phrase? = none ↔ parts = [] := by
  cases parts <;> simp [phrase?]

theorem map_snd_toList (connector : Option Connector) (q : Option Phrase) :
    (q.map fun p => (connector, p)).toList.map Prod.snd = q.toList := by
  cases q <;> rfl

@[simp] theorem operand?_eq_none_iff {parts : Chain} : parts.operand? = none ↔ parts = [] := by
  rw [operand?]
  split <;> simp

end Chain

@[simp] theorem Condition.right?_eq_none_iff {σ : Scopes} {column : Option Column} {c : Condition} :
    c.right? σ column = none ↔ c.isEmpty = true := by
  cases c <;> simp [Condition.right?, Condition.isEmpty]

@[simp] theorem Phrase.comparison?_eq_none_iff {subject : Phrase} {ignoresCase : Bool}
    {right : Option Phrase} : comparison? subject ignoresCase right = none ↔ right = none := by
  simp [comparison?]

mutual

theorem Predicate.phrase?_eq_none_iff (σ : Scopes) :
    ∀ p : Predicate, p.phrase? σ = none ↔ p.leaves = []
  | .compare subject condition => by
    unfold Predicate.phrase? Predicate.leaves
    by_cases h : condition.isEmpty <;> simp [h]
  | .existence query negated => by simp [Predicate.phrase?, Predicate.leaves]
  | .negation criterion => by
    rw [Predicate.phrase?, Predicate.leaves, Option.map_eq_none_iff, Chain.phrase?_eq_none_iff]
    exact criterion.parts_eq_nil_iff σ

theorem Predicate.initialParts_eq_nil_iff (σ : Scopes) :
    ∀ p : Option Predicate, Criterion.initialParts σ p = [] ↔ Predicate.initialLeaves p = []
  | none => by simp [Criterion.initialParts, Predicate.initialLeaves]
  | some p => by
    rw [Criterion.initialParts, Predicate.initialLeaves, ← p.phrase?_eq_none_iff σ]
    simp

theorem Criterion.parts_eq_nil_iff (σ : Scopes) :
    ∀ c : Criterion, c.parts σ = [] ↔ c.leaves = []
  | ⟨_, predicate, attached⟩ => by
    rw [Criterion.parts, Criterion.leaves, List.append_eq_nil_iff, List.append_eq_nil_iff,
      Predicate.initialParts_eq_nil_iff σ predicate, Criterion.chain_eq_nil_iff σ attached]

theorem Criterion.chain_eq_nil_iff (σ : Scopes) :
    ∀ cs : List Criterion, Criterion.chain σ cs = [] ↔ Criterion.allLeaves cs = []
  | [] => by simp [Criterion.chain, Criterion.allLeaves]
  | c :: cs => by
    rw [Criterion.chain, Criterion.allLeaves, List.append_eq_nil_iff, List.append_eq_nil_iff,
      Criterion.chain_eq_nil_iff σ cs, ← c.parts_eq_nil_iff σ]
    simp

end

/-- Criteria are written exactly if a leaf is left. -/
theorem Criterion.phrase?_chain_eq_none_iff (σ : Scopes) (cs : List Criterion) :
    (Criterion.chain σ cs).phrase? = none ↔ Criterion.allLeaves cs = [] := by
  rw [Chain.phrase?_eq_none_iff, Criterion.chain_eq_nil_iff]

end SqlStatement
