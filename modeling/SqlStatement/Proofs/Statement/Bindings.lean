import SqlStatement.Proofs.Phrase.Numbering
import SqlStatement.Proofs.Query.Bindings
import SqlStatement.Proofs.Statement.Model

/-! # The values of a statement

The values that a statement binds, in the order of the statement. A statement that is written has
exactly these as its parameters: each is converted once, for its own column, one after the other.
-/

namespace SqlStatement

open Phrase (Binds)

namespace Mapping

def bindings (m : Mapping) : List Binding :=
  match m.content with
  | .absent | .null | .constant _ | .stringConstant _ | .property _ => []
  | .value v => [⟨some m.target, .value v⟩]
  | .supplied s => [⟨some m.target, .supplied s⟩]
  | .expr e => e.bindings
  | .subselect query => query.bindings

end Mapping

namespace Reach

def bindings (r : Reach) : List Binding :=
  Criterion.allBindings r.criteria.criteria ++
    r.limit.toList.map fun n => ⟨none, .value (.unsigned n)⟩

end Reach

namespace Model

variable {ρ : Type}

/-- The values that the statement binds, in order. One that takes its values from records alone
binds none. -/
def bindings : Model ρ → List Binding
  | select s => s.bindings
  | multiSelect m =>
    m.initial.bindings ++ m.others.flatMap (·.2.bindings) ++ (m.paging.map Paging.bindings).getD []
  | whereClause w _ => Criterion.allBindings w.criteria
  | update u => u.mappings.flatMap Mapping.bindings ++ u.reach.bindings
  | delete d => d.reach.bindings
  | insert i => i.insertion.mappings.flatMap Mapping.bindings
  | multiRowInsert _ | batchInsert _ => []
  | generalInsert i => i.insertion.mappings.flatMap Mapping.bindings
  | insertSelect i => i.query.bindings

end Model

section Statements

variable {strategy : Strategy} {bs : List Binding}

theorem Phrase.binds_ofTable (kind : StatementKind) (table : Option Table) {body : Table → Phrase}
    (h : ∀ t, Binds strategy [body t] bs) : Binds strategy [ofTable kind table body] bs := by
  cases table with
  | none => exact .fail _
  | some t =>
    rw [ofTable]
    split
    next => exact .fail _
    next => exact h t

theorem Mapping.binds_phrase? (σ : Scopes) (mode : RecordMode) (kind : StatementKind)
    (m : Mapping) : Binds strategy (m.phrase? σ mode kind).toList m.bindings := by
  obtain ⟨target, content⟩ := m
  cases content with
  | absent => exact .nil
  | null | constant | stringConstant => exact .text _
  | value v =>
    cases h : mode.acceptsValues <;> simp only [phrase?, bindings, h]
    · exact .fail _
    · exact .value _ v
  | supplied s =>
    cases h : mode.acceptsValues <;> simp only [phrase?, bindings, h]
    · exact .fail _
    · exact fun _ => by simp
  | property name =>
    cases mode with
    | none => exact .fail _
    | row | batch | indexed => exact fun _ => by simp [phrase?, bindings]
  | expr e =>
    cases h : mode.acceptsExpressions <;> simp only [phrase?, bindings, h]
    · exact .fail _
    · exact Expr.binds_phrase σ e
  | subselect query =>
    cases h : mode.acceptsExpressions <;> simp only [phrase?, bindings, h]
    · exact .fail _
    · exact (Select.binds_phrase σ query).between _ _

/-- Where values come from records alone, a mapping binds nothing or cannot be written. -/
theorem Mapping.binds_nothing {mode : RecordMode} (h : mode.acceptsValues = false) (σ : Scopes)
    (kind : StatementKind) (m : Mapping) : Binds strategy (m.phrase? σ mode kind).toList [] := by
  have he : mode.acceptsExpressions = false := by
    cases mode with
    | row | none => cases h
    | batch | indexed => rfl
  have hm : Binds strategy (m.phrase? σ mode kind).toList m.bindings := m.binds_phrase? σ mode kind
  obtain ⟨target, content⟩ := m
  cases content with
  | absent | null | constant | stringConstant | property => exact hm
  | value | supplied => simp only [phrase?, h]; exact .fail _
  | expr | subselect => simp only [phrase?, he]; exact .fail _

theorem Mapping.binds_phrases {g : Mapping → Option Phrase} {values : Mapping → List Binding}
    (h : ∀ m, Binds strategy (g m).toList (values m)) (mappings : List Mapping) :
    Binds strategy (mappings.filterMap g) (mappings.flatMap values) := by
  induction mappings with
  | nil => exact .nil
  | cons m ms ih =>
    have hm := (h m).append ih
    rw [List.filterMap_cons, List.flatMap_cons]
    cases hg : g m with
    | none => rwa [hg] at hm
    | some p => rwa [hg] at hm

theorem RowPhrase.contents_ofMappings (mappings : List Mapping) (mode : RecordMode)
    (kind : StatementKind) :
    (ofMappings mappings mode kind).contents = mappings.filterMap (·.phrase? [] mode kind) := by
  change (mappings.filterMap _).map Prod.snd = _
  simp [List.map_filterMap, Function.comp_def]

section Rows

variable {values : Mapping → List Binding} {mode : RecordMode} {kind : StatementKind}

theorem RowPhrase.binds_group
    (h : ∀ m : Mapping, Binds strategy (m.phrase? [] mode kind).toList (values m))
    (mappings : List Mapping) :
    Binds strategy [(ofMappings mappings mode kind).group] (mappings.flatMap values) := by
  rw [group, contents_ofMappings]
  exact ((Mapping.binds_phrases h mappings).join _).between _ _

theorem Phrase.binds_insertion (t : Table) (columns : List String) {groups : List Phrase}
    (h : Binds strategy groups bs) : Binds strategy [insertion t columns groups] bs := by
  rw [insertion]
  split
  next => exact .fail _
  next => exact (h.join _).after _

theorem Insertion.binds_phrase (i : Insertion)
    (h : ∀ m : Mapping, Binds strategy (m.phrase? [] mode kind).toList (values m)) :
    Binds strategy [i.phrase mode kind] (i.mappings.flatMap values) :=
  Phrase.binds_ofTable _ _ fun t =>
    Phrase.binds_insertion t _ (RowPhrase.binds_group h i.mappings)

end Rows

theorem MultiRowInsert.binds_nothing {ρ : Type} (i : MultiRowInsert ρ) :
    Binds strategy [i.phrase] [] := by
  have hm (path : String) : (RecordMode.indexed path).acceptsValues = false := rfl
  have hg (position : Nat) : Binds strategy [(i.row position).group] [] := by
    have h : Binds strategy [(i.row position).group] (i.insertion.mappings.flatMap fun _ => []) :=
      RowPhrase.binds_group (Mapping.binds_nothing (hm _) [] .insert) i.insertion.mappings
    rwa [List.flatMap_eq_nil_iff.2 fun _ _ => rfl] at h
  refine Phrase.binds_ofTable _ _ fun t => ?_
  split
  next => exact .fail _
  next =>
    refine Phrase.binds_insertion t _ ?_
    induction List.range i.records.length with
    | nil => exact .nil
    | cons position positions ih => exact (hg position).cons ih

theorem BatchInsert.binds_nothing {ρ : Type} (i : BatchInsert ρ) :
    Binds strategy [i.phrase] [] := by
  have hm : RecordMode.batch.acceptsValues = false := rfl
  have h : Binds strategy [i.phrase] (i.insertion.mappings.flatMap fun _ => []) :=
    i.insertion.binds_phrase (Mapping.binds_nothing hm [] .batchInsert)
  rwa [List.flatMap_eq_nil_iff.2 fun _ _ => rfl] at h

theorem Where.binds_clause (σ : Scopes) (w : Where) :
    Binds strategy (w.clause σ) (Criterion.allBindings w.criteria) :=
  (Chain.binds_phrase? (Criterion.binds_chain σ w.criteria)).clause "where"

theorem Reach.binds_phrases (σ : Scopes) (r : Reach) :
    Binds strategy (r.phrases σ) r.bindings := by
  rw [phrases, bindings]
  have hc : Binds strategy (r.criteria.clause σ) (Criterion.allBindings r.criteria.criteria) :=
    r.criteria.binds_clause σ
  have hl : Binds strategy
      ((r.limit.map fun n => Paging.phrases ⟨.limitOffset, some n, none⟩).getD [])
      (r.limit.toList.map fun n => ⟨none, .value (.unsigned n)⟩) := by
    cases r.limit with
    | none => exact .nil
    | some n => exact Paging.binds_phrases ⟨.limitOffset, some n, none⟩
  have h := (hc.append (SortItem.binds_clause σ r.orderBy)).append hl
  rwa [List.append_nil] at h

theorem Update.binds_assignment? (σ : Scopes) (m : Mapping) :
    Binds strategy (assignment? σ m).toList m.bindings :=
  (m.binds_phrase? σ .none .update).map fun _ hp => hp.after _

theorem Update.binds_assignments (σ : Scopes) (u : Update) :
    Binds strategy [u.assignments σ] (u.mappings.flatMap Mapping.bindings) := by
  have h : Binds strategy (u.mappings.filterMap (assignment? σ))
      (u.mappings.flatMap Mapping.bindings) :=
    Mapping.binds_phrases (binds_assignment? σ) u.mappings
  rw [assignments]
  split
  next he => rw [he] at h; exact fun _ => h rfl
  next => exact (h.join _).after _

theorem Update.binds_phrase (u : Update) :
    Binds strategy [u.phrase] (u.mappings.flatMap Mapping.bindings ++ u.reach.bindings) :=
  Phrase.binds_ofTable _ _ fun _ =>
    ((Binds.text _).cons ((u.binds_assignments _).cons (u.reach.binds_phrases _))).join " "

theorem Delete.binds_phrase (d : Delete) : Binds strategy [d.phrase] d.reach.bindings :=
  Phrase.binds_ofTable _ _ fun _ => ((Binds.text _).cons (d.reach.binds_phrases _)).join " "

theorem InsertSelect.binds_phrase (i : InsertSelect) :
    Binds strategy [i.phrase] i.query.bindings :=
  Phrase.binds_ofTable _ _ fun _ => (Select.binds_phrase [] i.query).after _

theorem MultiSelect.binds_others (others : List (SetOperator × Select)) :
    Binds strategy
      (others.flatMap fun (operator, s) => [.text operator.text, .between "(" (s.phrase []) ")"])
      (others.flatMap (·.2.bindings)) := by
  induction others with
  | nil => exact .nil
  | cons o others ih =>
    obtain ⟨operator, s⟩ := o
    exact (Binds.text _).cons (((Select.binds_phrase [] s).between _ _).cons ih)

theorem MultiSelect.binds_phrase (m : MultiSelect) :
    Binds strategy [m.phrase] (m.initial.bindings ++ m.others.flatMap (·.2.bindings) ++
      (m.paging.map Paging.bindings).getD []) := by
  have hi : Binds strategy [.between "(" (m.initial.phrase []) ")"] m.initial.bindings :=
    (Select.binds_phrase [] m.initial).between _ _
  have ho : Binds strategy ((m.orderBy.map (SortItem.clause [])).getD []) [] := by
    cases m.orderBy with
    | none => exact .nil
    | some items => exact SortItem.binds_clause [] items
  have hp : Binds strategy ((m.paging.map Paging.phrases).getD [])
      ((m.paging.map Paging.bindings).getD []) := by
    cases m.paging with
    | none => exact .nil
    | some p => exact Paging.binds_phrases p
  have h := ((hi.append (binds_others m.others)).append ho).append hp
  rw [List.append_nil] at h
  exact h.join " "

end Statements

namespace Model

variable {ρ : Type} {m : Model ρ} {strategy : Strategy} {p : Phrase}

theorem binds_phrase? (hp : m.phrase? = some p) : Binds strategy [p] m.bindings := by
  cases m with
  | select s => exact Option.some.inj hp ▸ Select.binds_phrase [] s
  | multiSelect m => exact Option.some.inj hp ▸ m.binds_phrase
  | whereClause w aliases =>
    obtain ⟨-, rfl⟩ := words_clause hp
    exact (w.binds_clause _).join " "
  | update u => exact Option.some.inj hp ▸ u.binds_phrase
  | delete d => exact Option.some.inj hp ▸ d.binds_phrase
  | insert i =>
    exact Option.some.inj hp ▸ i.insertion.binds_phrase (Mapping.binds_phrase? [] .row .insert)
  | multiRowInsert i => exact Option.some.inj hp ▸ i.binds_nothing
  | batchInsert i => exact Option.some.inj hp ▸ i.binds_nothing
  | generalInsert i =>
    exact Option.some.inj hp ▸ i.insertion.binds_phrase (Mapping.binds_phrase? [] .none .insert)
  | insertSelect i => exact Option.some.inj hp ▸ i.binds_phrase

theorem bindings_eq_nil_of_absent (hp : m.phrase? = none) : m.bindings = [] := by
  cases m with
  | whereClause w aliases =>
    have h : Binds .positional (w.clause [.explicit aliases]) (Criterion.allBindings w.criteria) :=
      w.binds_clause _
    rw [clause_of_absent hp] at h
    exact (h rfl).symm
  | _ => simp [phrase?] at hp

theorem bindings_eq_nil_of_recordsOnly (h : m.recordsOnly = true) : m.bindings = [] := by
  cases m with
  | multiRowInsert | batchInsert => rfl
  | _ => cases h

section Finished

variable {s t : Session} {st : Statement}

theorem binds_of_written (hp : m.phrase? = some p) (hf : p.faults strategy = []) :
    p.bindings = m.bindings := by
  have h : Binds strategy [p] m.bindings := binds_phrase? hp
  simpa using h (by simpa using hf)

theorem memory_of_outcome (h : (m.render strategy).outcome s = (.ok (some st), t)) :
    t.memory = ((m.bindings.mapM Binding.bound).run s.memory).2 := by
  obtain ⟨p, f, hp, hf, rfl, hw, hm⟩ := written_of_outcome h
  rw [hm, binds_of_written hp hf, Binding.remembered_eq_mapM]

theorem parameters_of_outcome (hn : m.bindings.length < 2 ^ 32 - 1)
    (h : (m.render strategy).outcome s = (.ok (some st), t)) : st.parameters.toList =
      Parameters.numbered 1 ((m.bindings.mapM Binding.bound).run s.memory).1 := by
  obtain ⟨p, f, hp, hf, rfl, hw, hm⟩ := written_of_outcome h
  cases hr : m.recordsOnly with
  | true =>
    rw [bindings_eq_nil_of_recordsOnly hr, finished, hr]
    rfl
  | false =>
    rw [← binds_of_written hp hf] at hn ⊢
    rw [finished, hr]
    exact hw.parameters_eq hn

end Finished

/-- The parameters of a statement that is written are its values and no others, each as its own
column converts it, numbered in the order of the statement. Callbacks run once for each value, in
this order, and for nothing else. -/
theorem parameters_eq_numbered (m : Model ρ) (strategy : Strategy) {s t : Session}
    {r : Option Statement} (hn : m.bindings.length < 2 ^ 32 - 1)
    (h : (m.render strategy).outcome s = (.ok r, t)) :
    ∃ values, (m.bindings.mapM Binding.bound).run s.memory = (values, t.memory) ∧
      r.elim [] (·.parameters.toList) = Parameters.numbered 1 values := by
  cases r with
  | none =>
    obtain ⟨hp, rfl⟩ := absent_of_outcome h
    exact ⟨[], by rw [bindings_eq_nil_of_absent hp]; rfl, rfl⟩
  | some st =>
    refine ⟨_, ?_, parameters_of_outcome hn h⟩
    rw [memory_of_outcome h]
    rfl

/-- The converter remembers the value that it is given, and the limit has none. -/
theorem parameters_of_limitedDelete :
    let m := limitedDelete (some ⟨"coding", fun v => do modify (·.write 0 v); return .text "x"⟩)
    let r : Statement := ⟨"delete from users where id = :p1 limit :p2",
      .ofList [("p1", .text "x"), ("p2", .unsigned 3)]⟩
    ∃ u, (m.render .springNamed).outcome {} = (.ok (some r), u) ∧
      ∃ values, (m.bindings.mapM Binding.bound).run {} = (values, u.memory) ∧
        (some r).elim [] (·.parameters.toList) = Parameters.numbered 1 values :=
  ⟨_, rfl, parameters_eq_numbered _ .springNamed (s := {}) (by decide) rfl⟩

end Model

end SqlStatement
