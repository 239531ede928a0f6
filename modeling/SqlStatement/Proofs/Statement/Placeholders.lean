import SqlStatement.Proofs.Query.Legible
import SqlStatement.Proofs.Statement.Bindings

/-! # The placeholders of a statement

In a statement without records, placeholders and parameters are one sequence. The keys count up
from one in the order of the map, and they can be read off the text in the same order.
-/

namespace SqlStatement

open Text (Plain)
open Phrase (Legible)

namespace Mapping

/-- Names of properties are left out, which no statement without records can write. -/
def texts (m : Mapping) : List String :=
  m.target.texts ++ match m.content with
    | .absent | .null | .value _ | .supplied _ | .property _ => []
    | .constant text => [text]
    | .stringConstant text => [text]
    | .expr e => e.texts
    | .subselect query => query.texts

end Mapping

namespace Insertion

def texts (i : Insertion) : List String :=
  i.table.toList.map Table.name ++ i.mappings.flatMap Mapping.texts

end Insertion

namespace Target

def texts (target : Target) : List String :=
  target.table.toList.map Table.name ++ target.aliasName.toList

end Target

namespace Reach

def texts (r : Reach) : List String :=
  Criterion.allTexts r.criteria.criteria ++ r.orderBy.flatMap SortItem.texts

end Reach

namespace Model

variable {ρ : Type}

/-- The texts that the statement is given from outside. -/
def texts : Model ρ → List String
  | select s => s.texts
  | multiSelect m =>
    m.initial.texts ++ (m.others.flatMap (·.2.texts) ++
      (m.orderBy.map (·.flatMap SortItem.texts)).getD [])
  | whereClause w aliases => aliases.texts ++ Criterion.allTexts w.criteria
  | update u => u.target.texts ++ (u.mappings.flatMap Mapping.texts ++ u.reach.texts)
  | delete d => d.target.texts ++ d.reach.texts
  | insert i => i.insertion.texts
  | multiRowInsert i => i.insertion.texts
  | batchInsert i => i.insertion.texts
  | generalInsert i => i.insertion.texts
  | insertSelect i =>
    i.table.toList.map Table.name ++ ((i.columns.getD []).map Column.name ++ i.query.texts)

/-- The statement names no properties of records. -/
def withoutRecords : Model ρ → Bool
  | insert _ | multiRowInsert _ | batchInsert _ => false
  | _ => true

end Model

theorem Phrase.legible_ofTable (kind : StatementKind) {table : Option Table} {body : Table → Phrase}
    (h : ∀ t ∈ table, Legible (body t)) : Legible (ofTable kind table body) := by
  cases table with
  | none => exact .fail _
  | some t =>
    rw [ofTable]
    split
    next => exact .fail _
    next => exact h t rfl

theorem Mapping.legible_phrase? {σ : Scopes} (hσ : ∀ s ∈ σ.texts, Plain s) (kind : StatementKind)
    {m : Mapping} (h : ∀ s ∈ m.texts, Plain s) : ∀ p ∈ m.phrase? σ .none kind, Legible p := by
  obtain ⟨target, content⟩ := m
  rw [texts, List.forall_mem_append] at h
  cases content with
  | absent => simp [phrase?]
  | null => rintro p ⟨⟩; exact .text (by decide)
  | constant text => rintro p ⟨⟩; exact .text (h.2 _ (by simp))
  | stringConstant text => rintro p ⟨⟩; exact .text (h.2 _ (by simp)).quote
  | value v => rintro p ⟨⟩; exact .parameter _ _
  | supplied s => rintro p ⟨⟩; exact .parameter _ _
  | property name => rintro p ⟨⟩; exact .fail _
  | expr e => rintro p ⟨⟩; exact e.legible_phrase hσ h.2
  | subselect query =>
    rintro p ⟨⟩
    exact (query.legible_phrase hσ h.2).between (by decide) (by decide)

theorem Phrase.plain_columnList {columns : List String} (h : ∀ s ∈ columns, Plain s) :
    Plain (columnList columns) :=
  (Text.Plain.append (by decide) (Text.Plain.intercalate (by decide) h)).append (by decide)

theorem Phrase.legible_insertion {t : Table} (ht : Plain t.name) {columns : List String}
    (hc : ∀ s ∈ columns, Plain s) {groups : List Phrase} (hg : ∀ p ∈ groups, Legible p) :
    Legible (insertion t columns groups) := by
  rw [insertion]
  split
  next => exact .fail _
  next =>
    have hh : Plain ("insert into " ++ t.name ++ " ") :=
      (Text.Plain.append (by decide) ht).append (by decide)
    exact (Legible.join (by decide) hg).after ((hh.append (plain_columnList hc)).append (by decide))

theorem RowPhrase.exists_of_mem_columns {mappings : List Mapping} {mode : RecordMode}
    {kind : StatementKind} {name : String}
    (h : name ∈ (ofMappings mappings mode kind).columns) :
    ∃ m ∈ mappings, m.target.name = name := by
  obtain ⟨_, hw, rfl⟩ := List.mem_map.1 h
  obtain ⟨m, hm, hp⟩ := List.mem_filterMap.1 hw
  obtain ⟨p, -, rfl⟩ := Option.map_eq_some_iff.1 hp
  exact ⟨m, hm, rfl⟩

theorem GeneralInsert.legible_phrase (i : GeneralInsert) (h : ∀ s ∈ i.insertion.texts, Plain s) :
    Legible i.phrase := by
  rw [Insertion.texts, List.forall_mem_append, List.forall_mem_flatMap] at h
  refine Phrase.legible_ofTable _ fun t ht => ?_
  have hn : Plain t.name := h.1 _ (List.mem_map_of_mem (Option.mem_toList.2 ht))
  refine Phrase.legible_insertion hn (fun s hs => ?_) (List.forall_mem_singleton.2 ?_)
  · obtain ⟨m, hm, rfl⟩ := RowPhrase.exists_of_mem_columns hs
    exact h.2 m hm _ (by simp [Mapping.texts, Column.texts])
  · rw [RowPhrase.group, RowPhrase.contents_ofMappings]
    refine (Legible.join (by decide) fun p hp => ?_).between (by decide) (by decide)
    obtain ⟨m, hm, hq⟩ := List.mem_filterMap.1 hp
    exact m.legible_phrase? Scopes.plain_nil .insert (h.2 m hm) p hq

theorem InsertSelect.legible_phrase (i : InsertSelect)
    (ht : ∀ s ∈ i.table.toList.map Table.name, Plain s)
    (hc : ∀ s ∈ (i.columns.getD []).map Column.name, Plain s) (hq : ∀ s ∈ i.query.texts, Plain s) :
    Legible i.phrase := by
  refine Phrase.legible_ofTable _ fun t hm => ?_
  have hn : Plain t.name := ht _ (List.mem_map_of_mem (Option.mem_toList.2 hm))
  refine (i.query.legible_phrase Scopes.plain_nil hq).after ?_
  refine Text.Plain.append ((Text.Plain.append (by decide) hn).append (by decide)) ?_
  cases hcs : i.columns with
  | none => decide
  | some cs => rw [hcs] at hc; exact (Phrase.plain_columnList hc).append (by decide)

theorem Where.legible_clause {σ : Scopes} (hσ : ∀ s ∈ σ.texts, Plain s) (w : Where)
    (h : ∀ s ∈ Criterion.allTexts w.criteria, Plain s) : ∀ p ∈ w.clause σ, Legible p :=
  .clause (by decide) (Chain.legible_phrase? (Criterion.legible_chain hσ w.criteria h))

theorem Reach.legible_phrases {σ : Scopes} (hσ : ∀ s ∈ σ.texts, Plain s) (r : Reach)
    (h : ∀ s ∈ r.texts, Plain s) : ∀ p ∈ r.phrases σ, Legible p := by
  rw [texts, List.forall_mem_append] at h
  simp only [phrases, List.forall_mem_append]
  refine ⟨⟨r.criteria.legible_clause hσ h.1, SortItem.legible_clause hσ h.2⟩, ?_⟩
  cases r.limit with
  | none => simp
  | some n => exact Paging.legible_phrases _

theorem Target.plain_scope {target : Target} (h : ∀ s ∈ target.texts, Plain s) (t : Table) :
    ∀ s ∈ Scopes.texts [target.scope t], Plain s := by
  rw [texts, List.forall_mem_append] at h
  intro s hs
  obtain ⟨table, _ | a⟩ := target
  · cases hs
  · obtain rfl : s = a := by
      simpa [Scopes.texts, scope, Scope.explicit, Aliases.texts, Aliases.insert, Aliases.empty]
        using hs
    exact h.2 s (by simp)

theorem Target.plain_tableName {target : Target} (h : ∀ s ∈ target.texts, Plain s) {t : Table}
    (ht : t ∈ target.table) : Plain (Scopes.tableName [target.scope t] t) := by
  refine Scopes.plain_tableName (plain_scope h t) (h _ ?_)
  exact List.mem_append_left _ (List.mem_map_of_mem (Option.mem_toList.2 ht))

theorem Update.legible_assignments {σ : Scopes} (hσ : ∀ s ∈ σ.texts, Plain s) (u : Update)
    (h : ∀ s ∈ u.mappings.flatMap Mapping.texts, Plain s) : Legible (u.assignments σ) := by
  rw [List.forall_mem_flatMap] at h
  have ha : ∀ p ∈ u.mappings.filterMap (assignment? σ), Legible p := by
    intro p hp
    obtain ⟨m, hm, hw⟩ := List.mem_filterMap.1 hp
    obtain ⟨q, hq, rfl⟩ := Option.map_eq_some_iff.1 hw
    have ht := h m hm
    have hl := m.legible_phrase? hσ .update ht q hq
    rw [Mapping.texts, List.forall_mem_append] at ht
    exact hl.after ((Scopes.plain_columnName hσ ht.1).append (by decide))
  rw [assignments]
  split
  next => exact .text (by decide)
  next => exact (Legible.join (by decide) ha).after (by decide)

theorem Update.legible_phrase (u : Update) (ht : ∀ s ∈ u.target.texts, Plain s)
    (hm : ∀ s ∈ u.mappings.flatMap Mapping.texts, Plain s) (hr : ∀ s ∈ u.reach.texts, Plain s) :
    Legible u.phrase := by
  refine Phrase.legible_ofTable _ fun t hmem => .join (by decide) ?_
  have hσ := Target.plain_scope ht t
  simp only [List.forall_mem_cons]
  exact ⟨.text (Text.Plain.append (by decide) (Target.plain_tableName ht hmem)),
    u.legible_assignments hσ hm, u.reach.legible_phrases hσ hr⟩

theorem Delete.legible_phrase (d : Delete) (ht : ∀ s ∈ d.target.texts, Plain s)
    (hr : ∀ s ∈ d.reach.texts, Plain s) : Legible d.phrase := by
  refine Phrase.legible_ofTable _ fun t hmem => .join (by decide) ?_
  rw [List.forall_mem_cons]
  exact ⟨.text (Text.Plain.append (by decide) (Target.plain_tableName ht hmem)),
    d.reach.legible_phrases (Target.plain_scope ht t) hr⟩

theorem MultiSelect.legible_phrase (m : MultiSelect) (hi : ∀ s ∈ m.initial.texts, Plain s)
    (ho : ∀ s ∈ m.others.flatMap (·.2.texts), Plain s)
    (hs : ∀ s ∈ (m.orderBy.map (·.flatMap SortItem.texts)).getD [], Plain s) :
    Legible m.phrase := by
  have hq {q : Select} (h : ∀ s ∈ q.texts, Plain s) : Legible (.between "(" (q.phrase []) ")") :=
    (q.legible_phrase Scopes.plain_nil h).between (by decide) (by decide)
  rw [List.forall_mem_flatMap] at ho
  refine .join (by decide) ?_
  simp only [List.forall_mem_append, List.forall_mem_cons, List.forall_mem_flatMap]
  refine ⟨⟨⟨hq hi, fun o hm => ?_⟩, ?_⟩, ?_⟩
  · have hk : Plain o.1.text := by cases o.1 <;> decide
    simpa using ⟨Legible.text hk, hq (ho o hm)⟩
  · cases horder : m.orderBy with
    | none => simp
    | some items => rw [horder] at hs; exact SortItem.legible_clause Scopes.plain_nil hs
  · cases m.paging with
    | none => simp
    | some p => exact Paging.legible_phrases p

namespace Model

variable {ρ : Type} {m : Model ρ} {p : Phrase}

theorem legible_phrase? (hr : m.withoutRecords = true) (h : ∀ s ∈ m.texts, Plain s)
    (hp : m.phrase? = some p) : Legible p := by
  cases m with
  | select s => exact Option.some.inj hp ▸ s.legible_phrase Scopes.plain_nil h
  | multiSelect m =>
    simp only [texts, List.forall_mem_append] at h
    exact Option.some.inj hp ▸ m.legible_phrase h.1 h.2.1 h.2.2
  | whereClause w aliases =>
    rw [texts, List.forall_mem_append] at h
    have ha : ∀ s ∈ Scopes.texts [.explicit aliases], Plain s := by
      simpa [Scopes.texts, Scope.explicit] using h.1
    obtain ⟨-, rfl⟩ := words_clause hp
    exact .join (by decide) (w.legible_clause ha h.2)
  | update u =>
    simp only [texts, List.forall_mem_append] at h
    exact Option.some.inj hp ▸ u.legible_phrase h.1 h.2.1 h.2.2
  | delete d =>
    rw [texts, List.forall_mem_append] at h
    exact Option.some.inj hp ▸ d.legible_phrase h.1 h.2
  | generalInsert i => exact Option.some.inj hp ▸ i.legible_phrase h
  | insertSelect i =>
    simp only [texts, List.forall_mem_append] at h
    exact Option.some.inj hp ▸ i.legible_phrase h.1 h.2.1 h.2.2
  | insert | multiRowInsert | batchInsert => cases hr

section Finished

variable {strategy : Strategy} {s t : Session} {st : Statement}

theorem wording_of_outcome (h : (m.render strategy).outcome s = (.ok (some st), t)) :
    ∃ p, m.phrase? = some p ∧ p.bindings = m.bindings ∧ st.sql = p.wording strategy 1 := by
  obtain ⟨p, f, hp, hf, rfl, hw, -⟩ := written_of_outcome h
  exact ⟨p, hp, binds_of_written hp hf, hw.text⟩

theorem size_of_outcome (hn : m.bindings.length < 2 ^ 32 - 1)
    (h : (m.render strategy).outcome s = (.ok (some st), t)) :
    st.parameters.size = m.bindings.length := by
  have hl : st.parameters.size = st.parameters.toList.length := Array.length_toList.symm
  rw [hl, parameters_of_outcome hn h, Parameters.numbered, List.length_map, List.length_zipIdx,
    Binding.length_mapM_bound]

theorem keys_of_outcome (hn : m.bindings.length < 2 ^ 32 - 1)
    (h : (m.render strategy).outcome s = (.ok (some st), t)) :
    st.parameters.keys = (List.range' 1 m.bindings.length).map Parameters.name := by
  rw [Parameters.keys, parameters_of_outcome hn h, Parameters.keys_numbered,
    Binding.length_mapM_bound]

end Finished

/-- The keys of a statement without records count up from one in the order of the map. If no text
from outside holds a mark, then the named placeholders in the text are these keys in this order,
and there are as many positional ones. -/
theorem placeholders_eq_keys (m : Model ρ) (hr : m.withoutRecords = true)
    (hn : m.bindings.length < 2 ^ 32 - 1) :
    (∀ strategy s t st, (m.render strategy).outcome s = (.ok (some st), t) →
      st.parameters.size = m.bindings.length ∧
      st.parameters.keys = (List.range' 1 st.parameters.size).map Parameters.name) ∧
    ((∀ s ∈ m.texts, Plain s) →
      (∀ paging s t st, (m.render (.springNamed paging)).outcome s = (.ok (some st), t) →
        Text.placeholders st.sql.toList = st.parameters.keys) ∧
      (∀ paging s t st, (m.render (.positional paging)).outcome s = (.ok (some st), t) →
        st.sql.toList.count '?' = st.parameters.size)) := by
  refine ⟨fun strategy s t st h => ?_, fun ht => ⟨fun paging s t st h => ?_,
    fun paging s t st h => ?_⟩⟩
  · rw [size_of_outcome hn h]
    exact ⟨rfl, keys_of_outcome hn h⟩
  · obtain ⟨p, hp, hb, hs⟩ := wording_of_outcome h
    have hl := (legible_phrase? hr ht hp).named paging (.ofNat 1) [] rfl
    have hk : Binding.keys (.ofNat 1) m.bindings.length = _ := Binding.keys_ofNat (by omega)
    rw [List.append_nil, hb, hk, Text.placeholders, List.append_nil] at hl
    rw [hs, keys_of_outcome hn h]
    exact hl
  · obtain ⟨p, hp, hb, hs⟩ := wording_of_outcome h
    rw [hs, size_of_outcome hn h, ← hb]
    exact (legible_phrase? hr ht hp).counted paging 1

theorem placeholders_of_limitedDelete :
    let r : Statement := ⟨"delete from users where id = :p1 limit :p2",
      .ofList [("p1", .int 7), ("p2", .unsigned 3)]⟩
    ∃ u, ((limitedDelete none).render .springNamed).outcome {} = (.ok (some r), u) ∧
      r.parameters.keys = ["p1", "p2"] ∧ Text.placeholders r.sql.toList = ["p1", "p2"] := by
  intro r
  have h : ((limitedDelete none).render .springNamed).outcome {} = (.ok (some r), _) := rfl
  obtain ⟨hk, hs⟩ := placeholders_eq_keys (limitedDelete none) rfl (by decide)
  refine ⟨_, h, (hk _ _ _ _ h).2, ?_⟩
  rw [(hs (by decide)).1 _ _ _ _ h]
  exact (hk _ _ _ _ h).2

end Model

end SqlStatement
