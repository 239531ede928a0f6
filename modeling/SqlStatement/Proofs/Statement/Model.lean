import SqlStatement.Proofs.Phrase.Line
import SqlStatement.Query.Criterion
import SqlStatement.Statement.Insert
import SqlStatement.Statement.MultiSelect
import SqlStatement.Statement.Update

/-! # Statements of any kind

Every statement is written from one phrase. What can be said of phrases is said of all kinds of
statements at once.
-/

namespace SqlStatement

/-- A statement of any kind; those that insert records carry the records. -/
inductive Model (ρ : Type) where
  | select (s : Select)
  | multiSelect (m : MultiSelect)
  | whereClause (w : Where) (aliases : Aliases)
  | update (u : Update)
  | delete (d : Delete)
  | insert (i : Insert ρ)
  | multiRowInsert (i : MultiRowInsert ρ)
  | batchInsert (i : BatchInsert ρ)
  | generalInsert (i : GeneralInsert)
  | insertSelect (i : InsertSelect)

namespace Model

variable {ρ : Type}

/-- The finished statement without its records; nothing where a clause of its own is absent. -/
def render (m : Model ρ) (strategy : Strategy) : Rendering (Option Statement) :=
  match m with
  | select s => some <$> s.render strategy
  | multiSelect m => some <$> m.render strategy
  | whereClause w aliases => w.render aliases strategy
  | update u => some <$> u.render strategy
  | delete d => some <$> d.render strategy
  | insert i => (fun r => some ⟨r.sql, r.parameters⟩) <$> i.render strategy
  | multiRowInsert i => (fun r => some ⟨r.sql, ∅⟩) <$> i.render strategy
  | batchInsert i => (fun r => some ⟨r.sql, ∅⟩) <$> i.render strategy
  | generalInsert i => some <$> i.render strategy
  | insertSelect i => some <$> i.render strategy

/-- The phrase from which the statement is written; an absent clause has none. -/
def phrase? : Model ρ → Option Phrase
  | select s => some (s.phrase [])
  | multiSelect m => some m.phrase
  | whereClause w aliases =>
    match w.clause [.explicit aliases] with
    | [] => none
    | ps => some (.words ps)
  | update u => some u.phrase
  | delete d => some d.phrase
  | insert i => some i.phrase
  | multiRowInsert i => some i.phrase
  | batchInsert i => some i.phrase
  | generalInsert i => some i.phrase
  | insertSelect i => some i.phrase

/-- The statement takes its values from records alone. -/
def recordsOnly : Model ρ → Bool
  | multiRowInsert _ | batchInsert _ => true
  | _ => false

def kind : Model ρ → StatementKind
  | select _ => .select
  | multiSelect _ => .multiSelect
  | whereClause .. => .whereClause
  | update _ => .update
  | delete _ => .delete
  | insert _ | generalInsert _ => .insert
  | multiRowInsert _ => .multiRowInsert
  | batchInsert _ => .batchInsert
  | insertSelect _ => .insertSelect

def limitedDelete (converter : Option Converter) : Model Unit :=
  let t : Table := ⟨⟨0⟩, "users"⟩
  let c : Column := { t.column "id" with converter }
  .delete { target := { table := some t }, reach :=
    { criteria := ⟨[.compare (.column c) (.ofValue .equalTo (.int 7))]⟩, limit := some 3 } }

end Model

open Rendering

namespace Phrase

variable {strategy : Strategy} {p : Phrase} {s : Session}

theorem outcome_restart (s : Session) :
    (restart : Rendering Unit).outcome s = (.ok (), { s with next := 1 }) := rfl

theorem outcome_statement (kind : StatementKind) :
    (p.statement kind strategy).outcome s =
      match (p.render strategy).outcome { s with next := 1 } with
      | (.ok f, t) => (.ok (.ofFragment f), { t with events :=
          t.events ++ [.rendered kind strategy.name f.parameters.size f.text] })
      | (.error e, t) => (.error e, t) := by
  rw [statement, outcome_bind_of_ok _ (outcome_restart s), outcome_bind]
  rcases (p.render strategy).outcome { s with next := 1 } with ⟨_ | _, _⟩ <;> rfl

theorem outcome_some_statement (kind : StatementKind) :
    (some <$> p.statement kind strategy).outcome s =
      match (p.render strategy).outcome { s with next := 1 } with
      | (.ok f, t) => (.ok (some (.ofFragment f)), { t with events :=
          t.events ++ [.rendered kind strategy.name f.parameters.size f.text] })
      | (.error e, t) => (.error e, t) := by
  rw [outcome_map, outcome_statement]
  rcases (p.render strategy).outcome { s with next := 1 } with ⟨_ | _, _⟩ <;> rfl

theorem outcome_recordStatement (kind : StatementKind) :
    (p.recordStatement kind strategy).outcome s =
      match (p.render strategy).outcome { s with next := 1 } with
      | (.ok f, t) => (.ok f.text, { t with events :=
          t.events ++ [.rendered kind strategy.name 0 f.text] })
      | (.error e, t) => (.error e, t) := by
  rw [recordStatement, outcome_bind_of_ok _ (outcome_restart s), outcome_bind]
  rcases (p.render strategy).outcome { s with next := 1 } with ⟨_ | _, _⟩ <;> rfl

end Phrase

namespace Model

variable {ρ : Type} {m : Model ρ} {strategy : Strategy} {p : Phrase} {s t : Session}

def event (m : Model ρ) (strategy : Strategy) (f : Fragment) : Event :=
  .rendered m.kind strategy.name (if m.recordsOnly then 0 else f.parameters.size) f.text

def finished (m : Model ρ) (f : Fragment) : Statement :=
  ⟨f.text, if m.recordsOnly then ∅ else f.parameters⟩

section Clauses

variable {w : Where} {aliases : Aliases}

theorem clause_of_absent (hp : (whereClause w aliases : Model ρ).phrase? = none) :
    w.clause [.explicit aliases] = [] := by
  rw [phrase?] at hp
  cases hc : w.clause [.explicit aliases] with
  | nil => rfl
  | cons q qs => rw [hc] at hp; cases hp

theorem words_clause (hp : (whereClause w aliases : Model ρ).phrase? = some p) :
    w.clause [.explicit aliases] ≠ [] ∧ p = .words (w.clause [.explicit aliases]) := by
  rw [phrase?] at hp
  cases hc : w.clause [.explicit aliases] with
  | nil => rw [hc] at hp; cases hp
  | cons q qs =>
    rw [hc] at hp
    exact ⟨List.cons_ne_nil q qs, (Option.some.inj hp).symm⟩

theorem render_whereClause (hp : (whereClause w aliases : Model ρ).phrase? = some p) :
    w.render aliases strategy = some <$> p.statement .whereClause strategy := by
  obtain ⟨hne, rfl⟩ := words_clause hp
  rw [Where.render]
  cases hc : w.clause [.explicit aliases] with
  | nil => exact absurd hc hne
  | cons q qs => rfl

end Clauses

theorem outcome_render_of_absent (hp : m.phrase? = none) :
    (m.render strategy).outcome s = (.ok none, s) := by
  cases m with
  | whereClause w aliases =>
    rw [render, Where.render, clause_of_absent hp]
    rfl
  | _ => simp [phrase?] at hp

theorem outcome_render (hp : m.phrase? = some p) :
    (m.render strategy).outcome s =
      match (p.render strategy).outcome { s with next := 1 } with
      | (.ok f, t) =>
        (.ok (some (m.finished f)), { t with events := t.events ++ [m.event strategy f] })
      | (.error e, t) => (.error e, t) := by
  cases m with
  | whereClause w aliases =>
    rw [render, render_whereClause hp]
    exact Phrase.outcome_some_statement .whereClause
  | insert i =>
    obtain rfl := Option.some.inj hp
    rw [render, outcome_map, Insert.render, outcome_bind, Phrase.outcome_statement]
    rcases (i.phrase.render strategy).outcome { s with next := 1 } with ⟨_ | _, _⟩ <;> rfl
  | multiRowInsert i =>
    obtain rfl := Option.some.inj hp
    rw [render, outcome_map, MultiRowInsert.render, outcome_bind, Phrase.outcome_recordStatement]
    rcases (i.phrase.render strategy).outcome { s with next := 1 } with ⟨_ | _, _⟩ <;> rfl
  | batchInsert i =>
    obtain rfl := Option.some.inj hp
    rw [render, outcome_map, BatchInsert.render, outcome_bind, Phrase.outcome_recordStatement]
    rcases (i.phrase.render strategy).outcome { s with next := 1 } with ⟨_ | _, _⟩ <;> rfl
  | select _ | multiSelect _ | update _ | delete _ | generalInsert _ | insertSelect _ =>
    obtain rfl := Option.some.inj hp
    exact Phrase.outcome_some_statement _

theorem absent_of_outcome (h : (m.render strategy).outcome s = (.ok none, t)) :
    m.phrase? = none ∧ s = t := by
  cases hp : m.phrase? with
  | none =>
    rw [outcome_render_of_absent hp] at h
    exact ⟨rfl, (Prod.mk.inj h).2⟩
  | some p =>
    rw [outcome_render hp] at h
    rcases p.outcome_render strategy { s with next := 1 } with ⟨_, f, ho, _⟩ | ⟨e, u, _, ho⟩ <;>
      simp [ho] at h

theorem written_of_outcome {st : Statement}
    (h : (m.render strategy).outcome s = (.ok (some st), t)) :
    ∃ p f, m.phrase? = some p ∧ p.faults strategy = [] ∧ st = m.finished f ∧
      p.Written strategy { s with next := 1 } f ∧
      t.memory = Binding.remembered p.bindings s.memory := by
  cases hp : m.phrase? with
  | none => simp [outcome_render_of_absent hp] at h
  | some p =>
    rw [outcome_render hp] at h
    rcases p.outcome_render strategy { s with next := 1 } with ⟨hf, f, ho, hw⟩ | ⟨e, u, _, ho⟩
    · rw [ho] at h
      obtain ⟨h₁, rfl⟩ := Prod.mk.inj h
      exact ⟨p, f, rfl, hf, (Option.some.inj (Except.ok.inj h₁)).symm, hw, rfl⟩
    · simp [ho] at h

end Model

end SqlStatement
