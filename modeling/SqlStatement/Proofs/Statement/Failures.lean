import SqlStatement.Proofs.Query.Faults
import SqlStatement.Proofs.Statement.Model

/-! # When a select fails

A select is written exactly if every part of it that is reached is sound: a select has a block, a
block has something to start from and columns, a case expression has a branch that is written, and
paging is in a style that the strategy supports. What is left out may be as it likes. The strategy
has no other say in the matter than its paging styles.
-/

namespace SqlStatement

namespace Rendering

variable {α : Type}

/-- The rendering comes to a result, from this session. -/
def Succeeds (x : Rendering α) (s : Session) : Prop := ∃ a t, x.outcome s = (.ok a, t)

end Rendering

open Rendering

namespace Phrase

variable {strategy : Strategy} {p : Phrase} {s : Session}

theorem succeeds_statement_iff (kind : StatementKind) :
    (p.statement kind strategy).Succeeds s ↔ p.faults strategy = [] := by
  rw [Succeeds, outcome_statement]
  rcases p.outcome_render strategy { s with next := 1 } with ⟨hf, f, ho, -⟩ | ⟨e, t, hf, ho⟩
  · simp [ho, hf]
  · have hne : p.faults strategy ≠ [] := fun he => by simp [he] at hf
    simp [ho, hne]

end Phrase

namespace Part

/-- Nothing in the part itself keeps it from being written. -/
def Sound (supports : PagingStyle → Bool) : Part → Prop
  | column _ => True
  | case c => c.isBare = false
  | block b => (∃ source ∈ b.source, source.isBlank = false) ∧ b.columns ≠ []
  | select q => q.blocks ≠ []
  | paging p => supports p.style = true

instance (supports : PagingStyle → Bool) : (p : Part) → Decidable (p.Sound supports)
  | column _ => inferInstanceAs (Decidable True)
  | case c => inferInstanceAs (Decidable (c.isBare = false))
  | block b => inferInstanceAs (Decidable ((∃ source ∈ b.source, source.isBlank = false) ∧ _))
  | select q => inferInstanceAs (Decidable (q.blocks ≠ []))
  | paging p => inferInstanceAs (Decidable (supports p.style = true))

theorem sound_block_iff {supports : PagingStyle → Bool} {b : QueryBlock} :
    (block b).Sound supports ↔ b.fault? = none := by
  rw [Sound, QueryBlock.fault?]
  rcases b.source with _ | source
  · simp
  · by_cases hs : source.isBlank <;> by_cases hc : b.columns = [] <;> simp [hs, hc]

theorem sound_iff (strategy : Strategy) (p : Part) :
    p.Sound strategy.supports ↔ p.faults strategy = [] := by
  cases p with
  | column c => simp [Sound, faults]
  | case c => simp [Sound, faults]
  | block b => rw [sound_block_iff, faults, Option.toList_eq_nil_iff]
  | select q => simp [Sound, faults]
  | paging p => simp [Sound, faults]

end Part

namespace Select

variable {strategy : Strategy} {s : Session}

theorem succeeds_iff (q : Select) :
    (q.render strategy).Succeeds s ↔ ∀ x ∈ q.sites {}, x.part.Sound strategy.supports := by
  rw [render, Phrase.succeeds_statement_iff, Select.faults_phrase [] {} q, List.flatMap_eq_nil_iff]
  exact forall₂_congr fun x _ => (x.part.sound_iff strategy).symm

/-- A select is written exactly if all that is reached in it is sound. Strategies with the same
paging styles write the same selects. -/
theorem succeeds_iff_sound (q : Select) :
    (∀ (strategy : Strategy) (s : Session),
      (q.render strategy).Succeeds s ↔ ∀ x ∈ q.sites {}, x.part.Sound strategy.supports) ∧
    ∀ (S T : Strategy) (s t : Session), (∀ style, S.supports style = T.supports style) →
      ((q.render S).Succeeds s ↔ (q.render T).Succeeds t) := by
  refine ⟨fun strategy s => q.succeeds_iff, fun S T s t h => ?_⟩
  have hs : S.supports = T.supports := funext h
  rw [succeeds_iff, succeeds_iff, hs]

/-- A select that holds malformed parts only where nothing is written: on the left of an absent
condition and in a branch without a test. Its paging counts nothing. -/
def sparing (style : PagingStyle) : Select :=
  let t : Table := ⟨⟨0⟩, "users"⟩
  let bare : Expr := .case (.searched [] none) none
  let absent : SearchedBranch := ⟨[.compare bare .empty], .expr bare⟩
  let present : SearchedBranch :=
    ⟨[.compare (.column (t.column "id")) (.isNull .positive)], .constant "1"⟩
  ⟨[⟨none, false, [.case (.searched [absent, present] none) none], some (.table t), ∅, [], [], [],
    []⟩], none, some ⟨style, none, none⟩⟩

theorem succeeds_sparing :
    let q := sparing .fetchFirst
    (q.render (.springNamed .fetchFirstOnly)).Succeeds {} ∧
      (q.render (.positional .fetchFirstOnly)).Succeeds {} ∧
      ¬ (q.render (.springNamed .limitOffsetOnly)).Succeeds {} := by
  intro q
  obtain ⟨hs, ht⟩ := succeeds_iff_sound q
  have hq : (q.render (.springNamed .fetchFirstOnly)).Succeeds {} := by
    rw [hs]
    decide
  have hp : (q.render (.positional .fetchFirstOnly)).Succeeds {} :=
    (ht (.springNamed .fetchFirstOnly) (.positional .fetchFirstOnly) {} {} fun _ => rfl).1 hq
  refine ⟨hq, hp, ?_⟩
  rw [hs]
  decide

end Select

end SqlStatement
