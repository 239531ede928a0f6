import Mathlib.Logic.Equiv.Basic
import SqlStatement.Proofs.Query.Identities
import SqlStatement.Proofs.Statement.Model

/-! # Statements about tables with other identities

Tables are numbered by the program that makes them. A statement shows which of its tables are one
and the same, and not what their numbers are: under any other numbering that tells the same tables
apart it comes to the same.
-/

namespace SqlStatement

variable {φ : TableId → TableId}

section Definitions

variable (φ)

def Content.remap : Content → Content
  | .absent => .absent
  | .null => .null
  | .constant text => .constant text
  | .stringConstant text => .stringConstant text
  | .value v => .value v
  | .supplied s => .supplied s
  | .property name => .property name
  | .expr e => .expr (e.remap φ)
  | .subselect query => .subselect (query.remap φ)

def Mapping.remap (m : Mapping) : Mapping := ⟨m.target.remap φ, m.content.remap φ⟩

def Insertion.remap (i : Insertion) : Insertion :=
  ⟨i.table.map (Table.remap φ), i.mappings.map (Mapping.remap φ)⟩

def MultiRowInsert.remap {ρ : Type} (i : MultiRowInsert ρ) : MultiRowInsert ρ :=
  { i with insertion := i.insertion.remap φ }

def InsertSelect.remap (i : InsertSelect) : InsertSelect :=
  ⟨i.table.map (Table.remap φ), i.columns.map (List.map (Column.remap φ)), i.query.remap φ⟩

def Where.remap (w : Where) : Where := ⟨Criterion.remapAll φ w.criteria⟩

def Target.remap (target : Target) : Target :=
  { target with table := target.table.map (Table.remap φ) }

def Reach.remap (r : Reach) : Reach :=
  ⟨r.criteria.remap φ, r.orderBy.map (SortItem.remap φ), r.limit⟩

def Update.remap (u : Update) : Update :=
  ⟨u.target.remap φ, u.mappings.map (Mapping.remap φ), u.reach.remap φ⟩

def Delete.remap (d : Delete) : Delete := ⟨d.target.remap φ, d.reach.remap φ⟩

def MultiSelect.remap (m : MultiSelect) : MultiSelect :=
  ⟨m.initial.remap φ, m.others.map (Prod.map id (Select.remap φ)),
    m.orderBy.map (List.map (SortItem.remap φ)), m.paging⟩

/-- The statement about tables of the same names under other identities. -/
def Model.remap {ρ : Type} : Model ρ → Model ρ
  | .select s => .select (s.remap φ)
  | .multiSelect m => .multiSelect (m.remap φ)
  | .whereClause w aliases => .whereClause (w.remap φ) (aliases.remap φ)
  | .update u => .update (u.remap φ)
  | .delete d => .delete (d.remap φ)
  | .insert i => .insert { i with insertion := i.insertion.remap φ }
  | .multiRowInsert i => .multiRowInsert (i.remap φ)
  | .batchInsert i => .batchInsert { i with insertion := i.insertion.remap φ }
  | .generalInsert i => .generalInsert { i with insertion := i.insertion.remap φ }
  | .insertSelect i => .insertSelect (i.remap φ)

end Definitions

namespace Phrase

theorem remap_ofTable (kind : StatementKind) (table : Option Table) {body body' : Table → Phrase}
    (h : ∀ t, body' (t.remap φ) = (body t).remap φ) :
    ofTable kind (table.map (Table.remap φ)) body' = (ofTable kind table body).remap φ := by
  cases table with
  | none => simp [ofTable]
  | some t =>
    simp only [Option.map_some, ofTable, h]
    -- The name is that of the table before.
    change (if Text.isBlank t.name then _ else _) = _
    split <;> simp

theorem remap_insertion (t : Table) (columns : List String) (groups : List Phrase) :
    insertion (t.remap φ) columns (groups.map (remap φ)) =
      (insertion t columns groups).remap φ := by
  simp only [insertion, Table.remap]
  split <;> simp

end Phrase

namespace Target

theorem remap_scope (target : Target) (t : Table) :
    (target.remap φ).scope (t.remap φ) = (target.scope t).remap φ := by
  obtain ⟨table, aliasName⟩ := target
  cases aliasName <;> rfl

end Target

theorem Column.name_remap (cs : List Column) :
    (cs.map (Column.remap φ)).map Column.name = cs.map Column.name := by
  simp [Column.remap, Function.comp_def]

section Phrases

variable (hφ : Function.Injective φ)

include hφ

namespace Mapping

theorem phrase?_remap (σ : Scopes) (mode : RecordMode) (kind : StatementKind) (m : Mapping) :
    (m.remap φ).phrase? (σ.remap φ) mode kind = (m.phrase? σ mode kind).map (Phrase.remap φ) := by
  obtain ⟨target, content⟩ := m
  have hu : unsupported ⟨target.remap φ, content.remap φ⟩ kind =
      (unsupported ⟨target, content⟩ kind).remap φ := (Phrase.remap_fail _).symm
  cases content with
  | absent => rfl
  | null | constant | stringConstant => exact congrArg some (Phrase.remap_text _).symm
  | property name =>
    cases mode with
    | none => exact congrArg some hu
    | row | batch | indexed path => rfl
  | value v =>
    simp only [remap, Content.remap, phrase?, Option.map_some, Option.some.injEq]
    split
    · simp
    · exact hu
  | supplied s =>
    simp only [remap, Content.remap, phrase?, Option.map_some, Option.some.injEq]
    split
    · rw [Phrase.remap, Option.map_some]
    · exact hu
  | expr e =>
    simp only [remap, Content.remap, phrase?, Option.map_some, Option.some.injEq]
    split
    · exact Expr.phrase_remap hφ σ e
    · exact hu
  | subselect query =>
    simp only [remap, Content.remap, phrase?, Option.map_some, Option.some.injEq]
    split
    · rw [Phrase.remap_between, Select.phrase_remap hφ σ query]
    · exact hu

end Mapping

theorem RowPhrase.ofMappings_remap (mappings : List Mapping) (mode : RecordMode)
    (kind : StatementKind) :
    RowPhrase.ofMappings (mappings.map (Mapping.remap φ)) mode kind =
      ⟨(RowPhrase.ofMappings mappings mode kind).columns,
        (RowPhrase.ofMappings mappings mode kind).contents.map (Phrase.remap φ)⟩ := by
  have hw (m : Mapping) :
      ((m.remap φ).phrase? [] mode kind).map ((m.remap φ).target.name, ·) =
        ((m.phrase? [] mode kind).map (m.target.name, ·)).map (Prod.map id (Phrase.remap φ)) := by
    have hm := m.phrase?_remap hφ [] mode kind
    change ((m.remap φ).phrase? (Scopes.remap φ []) mode kind).map (m.target.name, ·) = _
    rw [hm]
    cases m.phrase? [] mode kind <;> rfl
  have hl : (mappings.map (Mapping.remap φ)).filterMap
        (fun m => (m.phrase? [] mode kind).map (m.target.name, ·)) =
      (mappings.filterMap fun m => (m.phrase? [] mode kind).map (m.target.name, ·)).map
        (Prod.map id (Phrase.remap φ)) := by
    rw [List.filterMap_map, List.map_filterMap]
    exact congrArg (List.filterMap · mappings) (funext hw)
  simp only [ofMappings, hl, List.map_map, mk.injEq]
  exact ⟨rfl, rfl⟩

theorem RowPhrase.columns_remap (mappings : List Mapping) (mode : RecordMode)
    (kind : StatementKind) :
    (RowPhrase.ofMappings (mappings.map (Mapping.remap φ)) mode kind).columns =
      (RowPhrase.ofMappings mappings mode kind).columns := by rw [ofMappings_remap hφ]

theorem RowPhrase.group_remap (mappings : List Mapping) (mode : RecordMode)
    (kind : StatementKind) :
    (RowPhrase.ofMappings (mappings.map (Mapping.remap φ)) mode kind).group =
      (RowPhrase.ofMappings mappings mode kind).group.remap φ := by
  simp only [ofMappings_remap hφ, group, Phrase.remap_between, Phrase.remap_join]

theorem Insertion.phrase_remap (i : Insertion) (mode : RecordMode) (kind : StatementKind) :
    (i.remap φ).phrase mode kind = (i.phrase mode kind).remap φ := by
  refine Phrase.remap_ofTable .insert i.table fun t => ?_
  have hg := RowPhrase.group_remap hφ i.mappings mode kind
  have hc := RowPhrase.columns_remap hφ i.mappings mode kind
  have hi := Phrase.remap_insertion (φ := φ) t (RowPhrase.ofMappings i.mappings mode kind).columns
    [(RowPhrase.ofMappings i.mappings mode kind).group]
  simp only [Insertion.remap, hg, hc]
  exact hi

theorem MultiRowInsert.phrase_remap {ρ : Type} (i : MultiRowInsert ρ) :
    (i.remap φ).phrase = i.phrase.remap φ := by
  refine Phrase.remap_ofTable .insert i.insertion.table fun t => ?_
  have hg (position : Nat) : ((i.remap φ).row position).group =
      (i.row position).group.remap φ := RowPhrase.group_remap hφ i.insertion.mappings _ _
  have hc : ((i.remap φ).row 0).columns = (i.row 0).columns :=
    RowPhrase.columns_remap hφ i.insertion.mappings _ _
  have hr : (i.remap φ).records = i.records := rfl
  simp only [hg, hc, hr]
  split
  · exact (Phrase.remap_fail _).symm
  · rw [← Phrase.remap_insertion, List.map_map]
    rfl

theorem InsertSelect.phrase_remap (i : InsertSelect) :
    (i.remap φ).phrase = i.phrase.remap φ := by
  refine Phrase.remap_ofTable .insert i.table fun t => ?_
  have hh : (i.remap φ).heading (t.remap φ) = i.heading t := by
    obtain ⟨table, columns, query⟩ := i
    cases columns with
    | none => rfl
    | some cs => simp only [remap, heading, Option.map_some, Column.name_remap, Table.remap]
  rw [hh, Phrase.remap_after]
  exact congrArg (Phrase.after _) (Select.phrase_remap hφ [] i.query)

theorem Where.clause_remap (σ : Scopes) (w : Where) :
    (w.remap φ).clause (σ.remap φ) = (w.clause σ).map (Phrase.remap φ) := by
  simp only [clause, remap, Criterion.chain_remap hφ, Chain.remap_phrase?, Phrase.remap_clause]

theorem Reach.phrases_remap (σ : Scopes) (r : Reach) :
    (r.remap φ).phrases (σ.remap φ) = (r.phrases σ).map (Phrase.remap φ) := by
  obtain ⟨criteria, orderBy, limit⟩ := r
  simp only [phrases, remap, criteria.clause_remap hφ, SortItem.clause_remap hφ, List.map_append]
  cases limit with
  | none => simp
  | some n => simp [Paging.remap_phrases]

namespace Update

theorem assignment?_remap (σ : Scopes) (m : Mapping) :
    assignment? (σ.remap φ) (m.remap φ) = (assignment? σ m).map (Phrase.remap φ) := by
  have hc : (σ.remap φ).columnName (m.remap φ).target = σ.columnName m.target :=
    σ.columnName_remap hφ m.target
  simp only [assignment?, m.phrase?_remap hφ, hc, Option.map_map, Function.comp_def,
    Phrase.remap_after]

theorem assignments_remap (σ : Scopes) (u : Update) :
    (u.remap φ).assignments (σ.remap φ) = (u.assignments σ).remap φ := by
  have ha : (u.mappings.map (Mapping.remap φ)).filterMap (assignment? (σ.remap φ)) =
      (u.mappings.filterMap (assignment? σ)).map (Phrase.remap φ) := by
    rw [List.filterMap_map, List.map_filterMap]
    exact congrArg (List.filterMap · u.mappings) (funext (assignment?_remap hφ σ))
  simp only [assignments, remap, ha]
  cases u.mappings.filterMap (assignment? σ) <;> simp

theorem phrase_remap (u : Update) : (u.remap φ).phrase = u.phrase.remap φ := by
  refine Phrase.remap_ofTable .update u.target.table fun t => ?_
  have hσ : [(u.remap φ).target.scope (t.remap φ)] = Scopes.remap φ [u.target.scope t] :=
    congrArg (fun s => [s]) (u.target.remap_scope t)
  have hr : (u.remap φ).reach.phrases (Scopes.remap φ [u.target.scope t]) =
      (u.reach.phrases [u.target.scope t]).map (Phrase.remap φ) := u.reach.phrases_remap hφ _
  simp only [hσ, Scopes.tableName_remap hφ, assignments_remap hφ, hr, Phrase.remap_words,
    List.map_cons, Phrase.remap_text]

end Update

theorem Delete.phrase_remap (d : Delete) : (d.remap φ).phrase = d.phrase.remap φ := by
  refine Phrase.remap_ofTable .delete d.target.table fun t => ?_
  have hσ : [(d.remap φ).target.scope (t.remap φ)] = Scopes.remap φ [d.target.scope t] :=
    congrArg (fun s => [s]) (d.target.remap_scope t)
  have hr : (d.remap φ).reach.phrases (Scopes.remap φ [d.target.scope t]) =
      (d.reach.phrases [d.target.scope t]).map (Phrase.remap φ) := d.reach.phrases_remap hφ _
  simp only [hσ, Scopes.tableName_remap hφ, hr, Phrase.remap_words, List.map_cons,
    Phrase.remap_text]

theorem MultiSelect.phrase_remap (m : MultiSelect) : (m.remap φ).phrase = m.phrase.remap φ := by
  obtain ⟨initial, others, orderBy, paging⟩ := m
  have hs (s : Select) : (s.remap φ).phrase [] = (s.phrase []).remap φ := s.phrase_remap hφ []
  have hm {g : SetOperator × Select → List Phrase}
      (hg : ∀ o, g (Prod.map id (Select.remap φ) o) = (g o).map (Phrase.remap φ)) :
      (others.map (Prod.map id (Select.remap φ))).flatMap g =
        (others.flatMap g).map (Phrase.remap φ) := by
    rw [List.flatMap_map, List.map_flatMap]
    exact congrArg (List.flatMap · others) (funext hg)
  have ho : ((orderBy.map (List.map (SortItem.remap φ))).map (SortItem.clause [])).getD [] =
      ((orderBy.map (SortItem.clause [])).getD []).map (Phrase.remap φ) := by
    cases orderBy with
    | none => rfl
    | some items => exact SortItem.clause_remap hφ [] items
  have hp : ((paging.map Paging.phrases).getD []).map (Phrase.remap φ) =
      (paging.map Paging.phrases).getD [] := by
    cases paging with
    | none => rfl
    | some p => exact p.remap_phrases
  simp only [phrase, remap, hs, ho, Phrase.remap_words, List.map_cons, List.map_append,
    Phrase.remap_between, hp]
  rw [hm]
  rintro ⟨operator, s⟩
  simp [hs]

end Phrases

namespace Model

variable {ρ : Type}

@[simp] theorem kind_remap (m : Model ρ) : (m.remap φ).kind = m.kind := by cases m <;> rfl

@[simp] theorem recordsOnly_remap (m : Model ρ) : (m.remap φ).recordsOnly = m.recordsOnly := by
  cases m <;> rfl

theorem phrase?_remap (hφ : Function.Injective φ) (m : Model ρ) :
    (m.remap φ).phrase? = m.phrase?.map (Phrase.remap φ) := by
  cases m with
  | select s => exact congrArg some (s.phrase_remap hφ [])
  | multiSelect m => exact congrArg some (m.phrase_remap hφ)
  | whereClause w aliases =>
    have hc : (w.remap φ).clause [.explicit (aliases.remap φ)] =
        (w.clause [.explicit aliases]).map (Phrase.remap φ) :=
      w.clause_remap hφ [.explicit aliases]
    simp only [remap, phrase?, hc]
    cases w.clause [.explicit aliases] <;> simp
  | update u => exact congrArg some (u.phrase_remap hφ)
  | delete d => exact congrArg some (d.phrase_remap hφ)
  | insert i => exact congrArg some (i.insertion.phrase_remap hφ .row .insert)
  | multiRowInsert i => exact congrArg some (i.phrase_remap hφ)
  | batchInsert i => exact congrArg some (i.insertion.phrase_remap hφ .batch .batchInsert)
  | generalInsert i => exact congrArg some (i.insertion.phrase_remap hφ .none .insert)
  | insertSelect i => exact congrArg some (i.phrase_remap hφ)

/-- A statement about tables under other identities comes to what the statement came to, with a
strategy that is shown the columns as they are now. -/
theorem outcome_comap (hφ : Function.Injective φ) (m : Model ρ) (S : Strategy) (s : Session) :
    ((m.remap φ).render S).outcome s = (m.render (S.comap φ)).outcome s := by
  have hp := m.phrase?_remap hφ
  cases hm : m.phrase? with
  | none =>
    rw [hm, Option.map_none] at hp
    rw [outcome_render_of_absent hm, outcome_render_of_absent hp]
  | some p =>
    rw [hm, Option.map_some] at hp
    have hf (f : Fragment) : (m.remap φ).finished f = m.finished f := by
      simp only [finished, recordsOnly_remap]
    have he (f : Fragment) : (m.remap φ).event S f = m.event (S.comap φ) f := by
      simp only [event, kind_remap, recordsOnly_remap]
      rfl
    rw [outcome_render hm, outcome_render hp, p.render_remap]
    simp only [hf, he]

theorem outcome_of_ignoresIdentity (hφ : Function.Injective φ) (m : Model ρ) {S : Strategy}
    (h : S.IgnoresIdentity) (s : Session) :
    ((m.remap φ).render S).outcome s = (m.render S).outcome s := by
  rw [m.outcome_comap hφ, h.comap_eq]

/-- Whichever way tables are numbered, as long as different tables have different numbers, a
statement about them comes to the same: with the three strategies and with any other that does not
put the number of a table into its placeholders. What a strategy does put into them is that of the
tables as they are numbered now. -/
theorem outcome_remap (m : Model ρ) {φ ψ : TableId → TableId} (hφ : Function.Injective φ)
    (hψ : Function.Injective ψ) :
    (∀ (S : Strategy) (s : Session),
      ((m.remap φ).render S).outcome s = (m.render (S.comap φ)).outcome s) ∧
    (∀ (S : Strategy) (s : Session), S.IgnoresIdentity →
      ((m.remap φ).render S).outcome s = (m.render S).outcome s ∧
        ((m.remap φ).render S).outcome s = ((m.remap ψ).render S).outcome s) ∧
    ∀ (path : String) (paging : PagingSupport) (s : Session),
      ∀ S ∈ [Strategy.myBatis3 path paging, .springNamed paging, .positional paging],
        ((m.remap φ).render S).outcome s = (m.render S).outcome s ∧
          ((m.remap φ).render S).outcome s = ((m.remap ψ).render S).outcome s := by
  have h (S : Strategy) (s : Session) (hS : S.IgnoresIdentity) :
      ((m.remap φ).render S).outcome s = (m.render S).outcome s ∧
        ((m.remap φ).render S).outcome s = ((m.remap ψ).render S).outcome s :=
    ⟨m.outcome_of_ignoresIdentity hφ hS s,
      (m.outcome_of_ignoresIdentity hφ hS s).trans (m.outcome_of_ignoresIdentity hψ hS s).symm⟩
  refine ⟨m.outcome_comap hφ, h, fun path paging s => ?_⟩
  rw [List.forall_mem_cons, List.forall_mem_cons, List.forall_mem_singleton]
  exact ⟨h _ s (.myBatis3 path paging), h _ s (.springNamed paging), h _ s (.positional paging)⟩

def colleagues : Model Unit :=
  let one : Table := ⟨⟨1⟩, "users"⟩
  let other : Table := ⟨⟨2⟩, "users"⟩
  .select (SelectDraft.run [.select [.column (one.column "id")], .fromAs one "a",
    .join .inner other (some "b")
      [.compare (.column (one.column "boss")) (.ofExpr .equalTo (.column (other.column "boss")))],
    .where .and (.compare (.column (other.column "id")) (.ofValue .equalTo (.int 7)))]).build

set_option maxRecDepth 2048 in
/-- The two tables made in the other order, and made after five others. -/
theorem outcome_remap_of_colleagues :
    let swapped := colleagues.remap (Equiv.swap ⟨1⟩ ⟨2⟩)
    let later := colleagues.remap fun t => ⟨t.number + 5⟩
    (swapped.render .springNamed).outcome {} = (colleagues.render .springNamed).outcome {} ∧
      (swapped.render .springNamed).outcome {} = (later.render .springNamed).outcome {} ∧
      ∃ t, (swapped.render .springNamed).outcome {} =
        (.ok (some ⟨"select a.id from users a join users b on a.boss = b.boss where b.id = :p1",
          .ofList [("p1", .int 7)]⟩), t) := by
  have hs : Function.Injective (Equiv.swap (⟨1⟩ : TableId) ⟨2⟩) := Equiv.injective _
  have hl : Function.Injective fun t : TableId => (⟨t.number + 5⟩ : TableId) := by
    rintro ⟨t⟩ ⟨u⟩ h
    have h' : t + 5 = u + 5 := congrArg TableId.number h
    have ht : t = u := by omega
    rw [ht]
  obtain ⟨-, -, h⟩ := colleagues.outcome_remap hs hl
  obtain ⟨hc, ho⟩ := h "parameters" .all {} (.springNamed .all) (.tail _ (.head _))
  refine ⟨hc, ho, ?_⟩
  rw [hc]
  exact ⟨_, rfl⟩

end Model

end SqlStatement
