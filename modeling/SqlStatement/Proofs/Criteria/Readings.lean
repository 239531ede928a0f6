import Mathlib.Data.List.Forall2
import SqlStatement.Proofs.Criteria.Grammar
import SqlStatement.Proofs.Query.Leaves

/-! # Readings of criteria

Criteria mean what is left of them: empty conditions are dropped, and groups and negations with
nothing in them. What is left at one level is one flat chain, and every criterion is a single
operand in the chain of those around it. The leaves that are left are numbered in their order. The
tokens of criteria derive a formula with the same truth value.
-/

namespace SqlStatement

/-- The operands of a chain, each with the connector that it brought along. -/
abbrev Operands (β : Type) := List (Option Connector × β)

/-- What a leaf with a number means, the negation of a chain, and a chain as one operand. -/
structure Reading (β : Type) where
  leaf : Nat → Predicate → β
  negation : Operands β → β
  group : Operands β → β

namespace Operands

def taken? {β γ : Type} (f : Operands β → γ) (parts : Operands β) : Option γ :=
  if parts.isEmpty then none else some (f parts)

theorem taken?_of_ne_nil {β γ : Type} {f : Operands β → γ} {parts : Operands β} (h : parts ≠ []) :
    parts.taken? f = some (f parts) := by
  rw [taken?, if_neg (by simpa using h)]

end Operands

section Left

variable {β : Type}

mutual

def Predicate.read? (r : Reading β) (n : Nat) : Predicate → Option β
  | .compare subject condition =>
    if condition.isEmpty then none else some (r.leaf n (.compare subject condition))
  | .existence query negated => some (r.leaf n (.existence query negated))
  | .negation criterion => (criterion.operands r n).taken? r.negation

def Predicate.operands (r : Reading β) (n : Nat) : Option Predicate → Operands β
  | none => []
  | some p => ((p.read? r n).map (none, ·)).toList

/-- The criterion itself and those attached to it, as the operands of one chain. -/
def Criterion.operands (r : Reading β) (n : Nat) : Criterion → Operands β
  | ⟨_, predicate, attached⟩ =>
    Predicate.operands r n predicate ++
      Criterion.chainOperands r (n + (Predicate.initialLeaves predicate).length) attached

/-- Each criterion as one operand, with its connector. -/
def Criterion.chainOperands (r : Reading β) (n : Nat) : List Criterion → Operands β
  | [] => []
  | c :: cs =>
    (((c.operands r n).taken? r.group).map (c.connector, ·)).toList ++
      Criterion.chainOperands r (n + c.leaves.length) cs

end

end Left

namespace Truth

/-- What a chain goes on to, from what comes before an `or` or the end: `and` binds tighter. -/
def goesOn : Bool → Operands Bool → Bool
  | x, [] => x
  | x, (k, y) :: rest =>
    match k.getD .and with
    | .and => goesOn (x && y) rest
    | .or => x || goesOn y rest

/-- A flat chain, with the connector of its first operand ignored. -/
def chain : Operands Bool → Bool
  | [] => true
  | (_, x) :: rest => goesOn x rest

def reading (v : Nat → Bool) : Reading Bool where
  leaf i _ := v i
  negation parts := !chain parts
  group := chain

end Truth

/-- The truth of criteria, unless nothing is left of them. -/
def Criterion.truth? (v : Nat → Bool) (cs : List Criterion) : Option Bool :=
  (Criterion.chainOperands (Truth.reading v) 0 cs).taken? Truth.chain

namespace Token

def later : Operands (List Token) → List Token
  | [] => []
  | (k, ts) :: rest => .connector (k.getD .and) :: (ts ++ later rest)

def chain : Operands (List Token) → List Token
  | [] => []
  | (_, ts) :: rest => ts ++ later rest

/-- The tokens of criteria: more than one operand stands in parentheses. -/
def reading : Reading (List Token) where
  leaf i p := [.leaf i p]
  negation parts := .not :: .left :: chain parts ++ [.right]
  group parts := if parts.length > 1 then .left :: chain parts ++ [.right] else chain parts

end Token

def Criterion.tokens (cs : List Criterion) : List Token :=
  Token.chain (Criterion.chainOperands Token.reading 0 cs)

section Related

variable {β γ : Type} {R : β → γ → Prop} {r : Reading β} {r' : Reading γ}

abbrev Operands.Related (R : β → γ → Prop) : Operands β → Operands γ → Prop :=
  List.Forall₂ fun part part' => part.1 = part'.1 ∧ R part.2 part'.2

structure Reading.Related (R : β → γ → Prop) (r : Reading β) (r' : Reading γ) : Prop where
  leaf : ∀ n p, R (r.leaf n p) (r'.leaf n p)
  negation : ∀ {parts parts'}, Operands.Related R parts parts' → parts ≠ [] →
    R (r.negation parts) (r'.negation parts')
  group : ∀ {parts parts'}, Operands.Related R parts parts' → parts ≠ [] →
    R (r.group parts) (r'.group parts')

theorem Operands.related_taken? {parts : Operands β} {parts' : Operands γ}
    (h : Operands.Related R parts parts') {f : Operands β → β} {f' : Operands γ → γ}
    (hf : parts ≠ [] → R (f parts) (f' parts')) :
    Option.Rel R (parts.taken? f) (parts'.taken? f') := by
  cases h with
  | nil => exact .none
  | cons h₁ h₂ => exact .some (hf (List.cons_ne_nil _ _))

theorem Operands.related_toList {x : Option β} {y : Option γ} (h : Option.Rel R x y)
    (k : Option Connector) :
    Operands.Related R (x.map (k, ·)).toList (y.map (k, ·)).toList := by
  cases h with
  | none => exact .nil
  | some h => exact .cons ⟨rfl, h⟩ .nil

mutual

theorem Predicate.related_read? (h : Reading.Related R r r') (n : Nat) :
    ∀ p : Predicate, Option.Rel R (p.read? r n) (p.read? r' n)
  | .compare subject condition => by
    unfold Predicate.read?
    split
    next => exact .none
    next => exact .some (h.leaf n _)
  | .existence query negated => by
    unfold Predicate.read?
    exact .some (h.leaf n _)
  | .negation criterion => by
    unfold Predicate.read?
    have hc := Criterion.related_operands h n criterion
    exact Operands.related_taken? hc (h.negation hc)

theorem Predicate.related_operands (h : Reading.Related R r r') (n : Nat) :
    ∀ p : Option Predicate,
      Operands.Related R (Predicate.operands r n p) (Predicate.operands r' n p)
  | none => by
    unfold Predicate.operands
    exact .nil
  | some p => by
    unfold Predicate.operands
    exact Operands.related_toList (Predicate.related_read? h n p) none

theorem Criterion.related_operands (h : Reading.Related R r r') (n : Nat) :
    ∀ c : Criterion, Operands.Related R (c.operands r n) (c.operands r' n)
  | ⟨_, predicate, attached⟩ => by
    unfold Criterion.operands
    exact List.rel_append (Predicate.related_operands h n predicate)
      (Criterion.related_chainOperands h _ attached)

theorem Criterion.related_chainOperands (h : Reading.Related R r r') (n : Nat) :
    ∀ cs : List Criterion,
      Operands.Related R (Criterion.chainOperands r n cs) (Criterion.chainOperands r' n cs)
  | [] => by
    unfold Criterion.chainOperands
    exact .nil
  | c :: cs => by
    unfold Criterion.chainOperands
    have hc := Criterion.related_operands h n c
    exact List.rel_append
      (Operands.related_toList (Operands.related_taken? hc (h.group hc)) c.connector)
      (Criterion.related_chainOperands h _ cs)

end

end Related

namespace Token

variable {v : Nat → Bool}

/-- The tokens derive a formula with the truth value. -/
def Means (v : Nat → Bool) (level : Precedence) (ts : List Token) (x : Bool) : Prop :=
  ∃ f, Derives level ts f ∧ f.eval v = x

theorem means_goesOn {parts : Operands (List Token)} {values : Operands Bool}
    (h : Operands.Related (Means v .operand) parts values) {ts : List Token} {x : Bool}
    (hx : Means v .conjunction ts x) :
    Means v .disjunction (ts ++ later parts) (Truth.goesOn x values) := by
  induction h generalizing ts x with
  | nil =>
    obtain ⟨f, hf, rfl⟩ := hx
    rw [later, List.append_nil]
    exact ⟨f, .conjunction hf, rfl⟩
  | @cons part value parts values hp _ ih =>
    obtain ⟨k, us⟩ := part
    obtain ⟨k', y⟩ := value
    obtain ⟨rfl, g, hg, rfl⟩ := hp
    obtain ⟨f, hf, rfl⟩ := hx
    rw [later, Truth.goesOn]
    cases k.getD .and with
    | and =>
      have hfg := ih ⟨f.and g, .and hf hg, rfl⟩
      rwa [List.append_assoc] at hfg
    | or =>
      obtain ⟨d, hd, he⟩ := ih ⟨g, .operand hg, rfl⟩
      exact ⟨f.or d, .or hf hd, by rw [Formula.eval, he]⟩

theorem means_chain {parts : Operands (List Token)} {values : Operands Bool}
    (h : Operands.Related (Means v .operand) parts values) (hne : parts ≠ []) :
    Means v .disjunction (chain parts) (Truth.chain values) := by
  cases h with
  | nil => exact absurd rfl hne
  | cons hp hps =>
    obtain ⟨-, f, hf, hx⟩ := hp
    exact means_goesOn hps ⟨f, .operand hf, hx⟩

theorem means_parens {ts : List Token} {x : Bool} (h : Means v .disjunction ts x) :
    Means v .operand (.left :: ts ++ [.right]) x := by
  obtain ⟨f, hf, rfl⟩ := h
  exact ⟨f, .parens hf, rfl⟩

/-- The tokens of a criterion mean what the criterion does, as an operand of any chain. -/
theorem related_reading (v : Nat → Bool) :
    Reading.Related (Means v .operand) reading (Truth.reading v) where
  leaf n p := ⟨.leaf n, .leaf n p, rfl⟩
  negation h hne := by
    obtain ⟨f, hf, he⟩ := means_parens (means_chain h hne)
    exact ⟨f.not, .not hf, congrArg (!·) he⟩
  group h hne := by
    cases h with
    | nil => exact absurd rfl hne
    | cons hp hps =>
      cases hps with
      | nil => simpa [reading, chain, later, Truth.reading, Truth.chain, Truth.goesOn] using hp.2
      | cons hq hqs => exact means_parens (means_chain (.cons hp (.cons hq hqs)) hne)

end Token

end SqlStatement
