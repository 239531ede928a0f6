import SqlStatement.Proofs.Statement.Alignment

/-! # What inserts and updates refuse

A statement that is made of mappings is refused for one defect, whatever else is wrong with it: for
want of a table, then of records, then for the first of its mappings that cannot be written, and an
insert at last for want of a column.
-/

namespace SqlStatement

open Rendering

namespace Rendering

variable {α β : Type}

/-- The error of a rendering that fails, from this session. -/
def error? (x : Rendering α) (s : Session) : Option RenderError :=
  match (x.outcome s).1 with
  | .error e => some e
  | .ok _ => none

theorem error?_map (g : α → β) (x : Rendering α) (s : Session) :
    (g <$> x).error? s = x.error? s := by
  rw [error?, error?, outcome_map]
  rcases x.outcome s with ⟨_ | _, _⟩ <;> rfl

end Rendering

section Faults

variable {ρ : Type} {strategy : Strategy} {s : Session}

theorem Phrase.error?_render (p : Phrase) :
    (p.render strategy).error? s = (p.faults strategy).head? := by
  rcases p.outcome_render strategy s with ⟨hf, f, ho, -⟩ | ⟨e, t, hf, ho⟩
  · rw [error?, ho, hf]
    rfl
  · rw [error?, ho, hf]

theorem Model.error?_render (m : Model ρ) :
    (m.render strategy).error? s = (Phrase.faultsOfOption strategy m.phrase?).head? := by
  cases hp : m.phrase? with
  | none =>
    rw [error?, outcome_render_of_absent hp]
    rfl
  | some p =>
    rw [error?, outcome_render hp]
    rcases p.outcome_render strategy { s with next := 1 } with ⟨hf, f, ho, -⟩ | ⟨e, t, hf, ho⟩
    · simp [ho, hf, Phrase.faultsOfOption]
    · simp [ho, hf, Phrase.faultsOfOption]

theorem Select.error?_render (q : Select) :
    (q.render strategy).error? s = ((q.phrase []).faults strategy).head? := by
  rw [← error?_map some]
  refine (Model.error?_render (.select q : Model Unit)).trans ?_
  simp [Model.phrase?, Phrase.faultsOfOption]

theorem Where.error?_render (w : Where) (aliases : Aliases) :
    (w.render aliases strategy).error? s =
      (Phrase.faultsOfAll strategy (w.clause [.explicit aliases])).head? := by
  rw [← Model.faults_whereClause (ρ := Unit)]
  exact Model.error?_render (.whereClause w aliases : Model Unit)

end Faults

/-- What a statement with this source of contents does not take: a record that changes is no place
for values, no record is a place for expressions, and properties are taken from records alone. -/
def Content.misplaced (mode : RecordMode) : Content → Bool
  | absent | null | constant _ | stringConstant _ => false
  | property _ => match mode with
    | .row | .batch | .indexed _ => false
    | .none => true
  | value _ | supplied _ => match mode with
    | .row | .none => false
    | .batch | .indexed _ => true
  | expr _ | subselect _ => match mode with
    | .row | .batch | .indexed _ => true
    | .none => false

def Content.error? (strategy : Strategy) (σ : Scopes) : Content → Option RenderError
  | expr e => ((e.phrase σ).render strategy).error? {}
  | subselect query => (query.render strategy).error? {}
  | absent | null | constant _ | stringConstant _ | property _ | value _ | supplied _ => none

namespace Mapping

variable {strategy : Strategy} {σ : Scopes} {mode : RecordMode} {kind : StatementKind}

/-- Why the mapping cannot be written in a statement of this kind. -/
def refusal? (strategy : Strategy) (σ : Scopes) (mode : RecordMode) (kind : StatementKind)
    (m : Mapping) : Option RenderError :=
  if m.content.misplaced mode then some (.unsupportedMapping m.target.name kind)
  else m.content.error? strategy σ

theorem head?_faults_phrase? (m : Mapping) :
    (m.phrase? σ mode kind).bind (fun p => (p.faults strategy).head?) =
      m.refusal? strategy σ mode kind := by
  obtain ⟨target, content⟩ := m
  cases content with
  | absent | null | constant | stringConstant => rfl
  | property | value | supplied => cases mode <;> rfl
  | expr e =>
    cases mode with
    | none => exact (Phrase.error?_render _).symm
    | row | batch | indexed => rfl
  | subselect query =>
    cases mode with
    | none =>
      refine Eq.trans ?_ (Select.error?_render query).symm
      rw [Select.faults_phrase [] {} query, ← Select.faults_phrase σ {} query]
      simp [phrase?, RecordMode.acceptsExpressions]
    | row | batch | indexed => rfl

theorem head?_faults_filterMap (mappings : List Mapping) {g : Mapping → Option Phrase}
    (hg : ∀ m, (g m).bind (fun p => (p.faults strategy).head?) = m.refusal? strategy σ mode kind) :
    (Phrase.faultsOfAll strategy (mappings.filterMap g)).head? =
      mappings.findSome? (refusal? strategy σ mode kind) := by
  rw [Phrase.faultsOfAll_eq, List.head?_flatMap]
  induction mappings with
  | nil => rfl
  | cons m mappings ih =>
    rw [List.findSome?_cons, ← hg]
    cases hp : g m with
    | none =>
      rw [List.filterMap_cons_none hp, ih]
      rfl
    | some p =>
      rw [List.filterMap_cons_some hp, List.findSome?_cons, ih]
      rfl

theorem findSome?_of_absent {mappings : List Mapping} (h : ∀ m ∈ mappings, m.isAbsent = true) :
    mappings.findSome? (refusal? strategy σ mode kind) = none := by
  rw [List.findSome?_eq_none_iff]
  intro m hm
  rw [← head?_faults_phrase?, phrase?_eq_none_iff.2 (h m hm)]
  rfl

end Mapping

def RenderError.ofTable? (kind : StatementKind) (table : Option Table)
    (rest : Table → Option RenderError) : Option RenderError :=
  match table with
  | some t => if Text.isBlank t.name then some (.missingTable kind) else rest t
  | none => some (.missingTable kind)

def Insertion.refusal? (strategy : Strategy) (mode : RecordMode) (kind : StatementKind)
    (recordless : Bool) (i : Insertion) : Option RenderError :=
  RenderError.ofTable? .insert i.table fun t =>
    if recordless then some (.emptyRecords t.name)
    else (i.mappings.findSome? (Mapping.refusal? strategy [] mode kind)).or
      (if i.mappings.all (·.isAbsent) then some (.emptyInsertColumns t.name) else none)

/-- The error of an update: it does without columns, and comes to its criteria and its limit. -/
def Update.refusal? (strategy : Strategy) (u : Update) : Option RenderError :=
  RenderError.ofTable? .update u.target.table fun t =>
    (u.mappings.findSome? (Mapping.refusal? strategy [u.target.scope t] .none .update)).or
      (((u.reach.criteria.render (u.target.scope t).aliases strategy).error? {}).or
        (if u.reach.limit.isSome && !strategy.supports .limitOffset then
          some (.unsupportedPaging strategy.name .limitOffset) else none))

section Statements

variable {ρ : Type} {strategy : Strategy}

theorem Phrase.head?_faults_ofTable (kind : StatementKind) (table : Option Table)
    (body : Table → Phrase) : ((ofTable kind table body).faults strategy).head? =
      RenderError.ofTable? kind table fun t => ((body t).faults strategy).head? := by
  rcases table with _ | t
  · rfl
  · rw [ofTable, RenderError.ofTable?]
    split <;> rfl

theorem RowPlan.head?_faults_rows {plan : RowPlan} (hne : plan.modes ≠ []) {mode : RecordMode}
    (hm : ∀ x ∈ plan.modes, ∀ c : Content, c.misplaced x = c.misplaced mode) :
    ((plan.rows.map RowPhrase.group).flatMap (Phrase.faults strategy)).head? =
      plan.insertion.mappings.findSome? (Mapping.refusal? strategy [] mode plan.kind) := by
  have hg : ∀ x ∈ plan.modes, ((plan.row x).group.faults strategy).head? =
      plan.insertion.mappings.findSome? (Mapping.refusal? strategy [] mode plan.kind) := by
    intro x hx
    have hr : Mapping.refusal? strategy [] x plan.kind =
        Mapping.refusal? strategy [] mode plan.kind := by
      funext m
      rw [Mapping.refusal?, Mapping.refusal?, hm x hx]
    rw [← hr, ← Mapping.head?_faults_filterMap _ Mapping.head?_faults_phrase?, RowPhrase.group,
      RowPlan.row, RowPhrase.contents_ofMappings]
    simp
  obtain ⟨first, rest, hmodes⟩ := List.exists_cons_of_ne_nil hne
  rw [RowPlan.rows, List.map_map, List.head?_flatMap, List.findSome?_map]
  cases he : plan.insertion.mappings.findSome? (Mapping.refusal? strategy [] mode plan.kind) with
  | none =>
    rw [List.findSome?_eq_none_iff]
    exact fun x hx => (hg x hx).trans he
  | some e =>
    have hfirst := (hg first (hmodes ▸ List.mem_cons_self)).trans he
    rw [hmodes, List.findSome?_cons, Function.comp_apply, Function.comp_apply, hfirst]

theorem Model.head?_faults_of_rowPlan {m : Model ρ} {plan : RowPlan} (h : m.rowPlan? = some plan)
    {mode : RecordMode} (hm : ∀ x ∈ plan.modes, ∀ c : Content, c.misplaced x = c.misplaced mode) :
    (Phrase.faultsOfOption strategy m.phrase?).head? =
      plan.insertion.refusal? strategy mode plan.kind plan.modes.isEmpty := by
  have hc : plan.columns.isEmpty = plan.insertion.mappings.all (·.isAbsent) := by
    rw [Bool.eq_iff_iff, List.isEmpty_iff, List.all_eq_true]
    simp [RowPlan.columns, RowPlan.written]
  rw [phrase?_of_rowPlan h]
  refine (congrArg List.head? (List.append_nil _)).trans ?_
  rw [Phrase.head?_faults_ofTable, Insertion.refusal?]
  congr 1
  funext t
  cases hmodes : plan.modes.isEmpty with
  | true => rfl
  | false =>
    rw [if_neg Bool.false_ne_true, if_neg Bool.false_ne_true, Phrase.insertion, hc]
    cases ha : plan.insertion.mappings.all (·.isAbsent) with
    | true =>
      rw [Mapping.findSome?_of_absent (List.all_eq_true.1 ha)]
      rfl
    | false =>
      have hne : plan.modes ≠ [] := by simpa using hmodes
      simpa using RowPlan.head?_faults_rows hne hm

theorem Model.error?_of_rowPlan {m : Model ρ} {plan : RowPlan} (h : m.rowPlan? = some plan)
    {mode : RecordMode} (hm : ∀ x ∈ plan.modes, ∀ c : Content, c.misplaced x = c.misplaced mode)
    (s : Session) : (m.render strategy).error? s =
      plan.insertion.refusal? strategy mode plan.kind plan.modes.isEmpty :=
  m.error?_render.trans (head?_faults_of_rowPlan h hm)

theorem Insert.error?_render (i : Insert ρ) (s : Session) : (i.render strategy).error? s =
    i.insertion.refusal? strategy .row .insert false := by
  have hplan : (Model.insert i).rowPlan? = some ⟨i.insertion, [.row], .insert⟩ := rfl
  rw [← error?_map fun r => some (Statement.mk r.sql r.parameters)]
  exact Model.error?_of_rowPlan hplan (by simp) s

theorem BatchInsert.error?_render (i : BatchInsert ρ) (s : Session) : (i.render strategy).error? s =
    i.insertion.refusal? strategy .batch .batchInsert false := by
  have hplan : (Model.batchInsert i).rowPlan? = some ⟨i.insertion, [.batch], .batchInsert⟩ := rfl
  rw [← error?_map fun r => some (Statement.mk r.sql ∅)]
  exact Model.error?_of_rowPlan hplan (by simp) s

theorem GeneralInsert.error?_render (i : GeneralInsert) (s : Session) :
    (i.render strategy).error? s = i.insertion.refusal? strategy .none .insert false := by
  have hplan : (Model.generalInsert i : Model Unit).rowPlan? =
      some ⟨i.insertion, [.none], .insert⟩ := rfl
  rw [← error?_map some]
  exact Model.error?_of_rowPlan hplan (by simp) s

/-- All records take the same contents, so that the first of them tells what is refused. -/
theorem MultiRowInsert.error?_render (i : MultiRowInsert ρ) (s : Session) :
    (i.render strategy).error? s =
      i.insertion.refusal? strategy (.indexed "records[0]") .insert i.records.isEmpty := by
  have hplan : (Model.multiRowInsert i).rowPlan? = some ⟨i.insertion,
      (List.range i.records.length).map fun position =>
        .indexed ("records[" ++ toString position ++ "]"), .insert⟩ := rfl
  have he : ((List.range i.records.length).map fun position =>
      RecordMode.indexed ("records[" ++ toString position ++ "]")).isEmpty = i.records.isEmpty := by
    cases i.records <;> simp [List.range_succ]
  rw [← error?_map fun r => some (Statement.mk r.sql ∅), ← he]
  refine Model.error?_of_rowPlan hplan ?_ s
  intro mode hmode c
  obtain ⟨position, -, rfl⟩ := List.mem_map.1 hmode
  cases c <;> rfl

theorem Target.explicit_aliases (target : Target) (t : Table) :
    Scope.explicit (target.scope t).aliases = target.scope t := rfl

theorem Update.head?_faults_phrase (u : Update) :
    (u.phrase.faults strategy).head? = u.refusal? strategy := by
  rw [Update.phrase, Phrase.head?_faults_ofTable, Update.refusal?]
  congr 1
  funext t
  have hg (m : Mapping) : (assignment? [u.target.scope t] m).bind
      (fun p => (p.faults strategy).head?) =
        m.refusal? strategy [u.target.scope t] .none .update := by
    rw [← Mapping.head?_faults_phrase?, assignment?]
    cases m.phrase? [u.target.scope t] .none .update <;> simp
  have ha := Mapping.head?_faults_filterMap u.mappings hg
  have hl : ((u.reach.limit.map fun n => Paging.phrases ⟨.limitOffset, some n, none⟩).getD
      []).flatMap (Phrase.faults strategy) =
        (if u.reach.limit.isSome && !strategy.supports .limitOffset then
          some (RenderError.unsupportedPaging strategy.name .limitOffset) else none).toList := by
    cases u.reach.limit with
    | none => rfl
    | some n => cases hs : strategy.supports .limitOffset <;> simp [Part.faults, hs]
  rw [Where.error?_render, Target.explicit_aliases, ← ha, ← faults_assignments]
  simp only [Phrase.faults_words, List.flatMap_cons, Reach.phrases, List.flatMap_append, hl,
    SortItem.faults_clause, List.append_nil, Phrase.faults, List.nil_append, List.head?_append,
    Option.head?_toList, Phrase.faultsOfAll_eq]

theorem Update.error?_render (u : Update) (s : Session) :
    (u.render strategy).error? s = u.refusal? strategy := by
  rw [← error?_map some]
  refine (Model.error?_render (.update u : Model Unit)).trans ?_
  refine (congrArg List.head? (List.append_nil _)).trans ?_
  exact u.head?_faults_phrase

end Statements

namespace RenderError

/-- The error is one of a mapping, or of a query. -/
def ofMapping : RenderError → Bool
  | unsupportedMapping .. | missingTable .select | emptySelectList | emptySelect | emptyCase
  | unsupportedPaging .. => true
  | missingTable _ | emptyInsertColumns _ | emptyRecords _ => false

variable {kind : StatementKind} {table : Option Table} {rest : Table → Option RenderError}

theorem ofTable?_eq_missingTable_iff (h : ∀ t, rest t ≠ some (.missingTable kind)) :
    ofTable? kind table rest = some (.missingTable kind) ↔
      ∀ t ∈ table, Text.isBlank t.name = true := by
  rcases table with _ | t
  · simp [ofTable?]
  · cases hb : Text.isBlank t.name <;> simp [ofTable?, hb, h]

theorem ofTable?_eq_iff {o : Option RenderError} (h : o ≠ some (.missingTable kind)) :
    ofTable? kind table rest = o ↔ ∃ t ∈ table, Text.isBlank t.name = false ∧ rest t = o := by
  rcases table with _ | t
  · simp [ofTable?, h.symm]
  · cases hb : Text.isBlank t.name <;> simp [ofTable?, hb, h.symm]

end RenderError

section Defects

variable {strategy : Strategy} {e : RenderError}

theorem Part.ofMapping_of_mem_faults {x : Part} (h : e ∈ x.faults strategy) :
    e.ofMapping = true := by
  cases x with
  | column c => cases h
  | case c =>
    obtain ⟨-, rfl⟩ : _ ∧ e = .emptyCase := by simpa [faults] using h
    rfl
  | block b =>
    rw [faults, Option.mem_toList, QueryBlock.fault?] at h
    split at h
    · cases h
      rfl
    · split at h <;> cases h
      rfl
  | select q =>
    obtain ⟨-, rfl⟩ : _ ∧ e = .emptySelect := by simpa [faults] using h
    rfl
  | paging p =>
    obtain ⟨-, rfl⟩ : _ ∧ e = .unsupportedPaging strategy.name p.style := by
      simpa [faults] using h
    rfl

/-- What is at fault in a query is nothing that an insert or an update could lack. -/
theorem Site.ofMapping_of_head? (sites : List Site)
    (h : (sites.flatMap (Site.faults strategy)).head? = some e) : e.ofMapping = true := by
  obtain ⟨x, -, hx⟩ := List.mem_flatMap.1 (List.mem_of_head? h)
  exact Part.ofMapping_of_mem_faults hx

theorem Mapping.ofMapping_of_refusal? {σ : Scopes} {mode : RecordMode} {kind : StatementKind}
    {m : Mapping} (h : m.refusal? strategy σ mode kind = some e) : e.ofMapping = true := by
  obtain ⟨target, content⟩ := m
  rw [refusal?] at h
  split at h
  · cases h
    rfl
  · cases content with
    | expr x =>
      apply Site.ofMapping_of_head? (x.sites {})
      rwa [← Expr.faults_phrase σ, ← Phrase.error?_render]
    | subselect query =>
      apply Site.ofMapping_of_head? (query.sites {})
      rwa [← Select.faults_phrase [], ← Select.error?_render]
    | _ => cases h

variable {i : Insertion} {mode : RecordMode} {kind : StatementKind} {recordless : Bool}

theorem Insertion.of_or_eq_some {name : String}
    (h : (i.mappings.findSome? (Mapping.refusal? strategy [] mode kind)).or
      (if i.mappings.all (·.isAbsent) then some (.emptyInsertColumns name) else none) = some e) :
    e.ofMapping = true ∨ e = .emptyInsertColumns name ∧ ∀ m ∈ i.mappings, m.isAbsent = true := by
  rcases Option.or_eq_some_iff.1 h with hm | ⟨-, ha⟩
  · obtain ⟨m, -, hm⟩ := List.exists_of_findSome?_eq_some hm
    exact .inl (Mapping.ofMapping_of_refusal? hm)
  · right
    split at ha
    next habsent =>
      cases ha
      exact ⟨rfl, List.all_eq_true.1 habsent⟩
    next => cases ha

theorem Insertion.refusal?_eq_missingTable_iff :
    i.refusal? strategy mode kind recordless = some (.missingTable .insert) ↔
      ∀ t ∈ i.table, Text.isBlank t.name = true := by
  apply RenderError.ofTable?_eq_missingTable_iff
  intro t ht
  cases recordless with
  | true => cases ht
  | false => rcases of_or_eq_some ht with hm | ⟨hc, -⟩ <;> contradiction

theorem Insertion.refusal?_eq_emptyRecords_iff {name : String} :
    i.refusal? strategy mode kind recordless = some (.emptyRecords name) ↔
      recordless = true ∧ ∃ t ∈ i.table, Text.isBlank t.name = false ∧ t.name = name := by
  rw [refusal?, RenderError.ofTable?_eq_iff (by simp)]
  cases recordless with
  | true => simp
  | false =>
    refine iff_of_false ?_ (by simp)
    rintro ⟨t, -, -, ht⟩
    rcases of_or_eq_some ht with hm | ⟨hc, -⟩ <;> contradiction

theorem Insertion.refusal?_eq_emptyInsertColumns_iff {name : String} :
    i.refusal? strategy mode kind recordless = some (.emptyInsertColumns name) ↔
      recordless = false ∧ (∃ t ∈ i.table, Text.isBlank t.name = false ∧ t.name = name) ∧
        ∀ m ∈ i.mappings, m.isAbsent = true := by
  rw [refusal?, RenderError.ofTable?_eq_iff (by simp)]
  cases recordless with
  | true => simp
  | false =>
    constructor
    · rintro ⟨t, ht, hb, he⟩
      rcases of_or_eq_some he with hm | ⟨hc, ha⟩
      · contradiction
      · exact ⟨rfl, ⟨t, ht, hb, (RenderError.emptyInsertColumns.inj hc).symm⟩, ha⟩
    · rintro ⟨-, ⟨t, ht, hb, rfl⟩, ha⟩
      refine ⟨t, ht, hb, ?_⟩
      rw [if_neg Bool.false_ne_true, Mapping.findSome?_of_absent ha,
        if_pos (List.all_eq_true.2 ha), Option.none_or]

theorem Insertion.refusal?_eq_none_iff :
    i.refusal? strategy mode kind recordless = none ↔
      (∃ t ∈ i.table, Text.isBlank t.name = false) ∧ recordless = false ∧
        (∀ m ∈ i.mappings, m.refusal? strategy [] mode kind = none) ∧
        ∃ m ∈ i.mappings, m.isAbsent = false := by
  rw [refusal?, RenderError.ofTable?_eq_iff (by simp)]
  cases recordless with
  | true => simp
  | false => simp [← and_assoc, exists_and_right]

theorem Update.refusal?_eq_missingTable_iff {u : Update} :
    u.refusal? strategy = some (.missingTable .update) ↔
      ∀ t ∈ u.target.table, Text.isBlank t.name = true := by
  apply RenderError.ofTable?_eq_missingTable_iff
  intro t ht
  rcases Option.or_eq_some_iff.1 ht with hm | ⟨-, ht⟩
  · obtain ⟨m, -, hm⟩ := List.exists_of_findSome?_eq_some hm
    cases Mapping.ofMapping_of_refusal? hm
  · rcases Option.or_eq_some_iff.1 ht with hw | ⟨-, hl⟩
    · have hs : ((Criterion.allSites {} u.reach.criteria.criteria).flatMap
          (Site.faults strategy)).head? = some (.missingTable .update) := by
        rw [← Criterion.faults_chain [u.target.scope t]]
        rw [Where.error?_render, Target.explicit_aliases, Where.clause] at hw
        simpa using hw
      cases Site.ofMapping_of_head? _ hs
    · split at hl <;> cases hl

end Defects

/-- Inserts and updates fail exactly as they are refused, from every session: for want of a table
with a name; several records in one statement then for want of records, whatever their mappings;
then with the error of the first mapping that is refused; an insert then if it leaves out all of its
columns. A table, records and columns that are wanting are told by errors that no mapping has. -/
theorem Mapping.statement_errors {ρ : Type} (strategy : Strategy) (s : Session) :
    (∀ (i : Insertion) (row : ρ) (records : List ρ),
      ((⟨row, i⟩ : Insert ρ).render strategy).error? s = i.refusal? strategy .row .insert false ∧
      ((⟨records, i⟩ : MultiRowInsert ρ).render strategy).error? s =
        i.refusal? strategy (.indexed "records[0]") .insert records.isEmpty ∧
      ((⟨records, i⟩ : BatchInsert ρ).render strategy).error? s =
        i.refusal? strategy .batch .batchInsert false ∧
      ((⟨i⟩ : GeneralInsert).render strategy).error? s =
        i.refusal? strategy .none .insert false) ∧
    (∀ u : Update, (u.render strategy).error? s = u.refusal? strategy) ∧
    (∀ (i : Insertion) (mode : RecordMode) (kind : StatementKind) (recordless : Bool),
      let refusal := i.refusal? strategy mode kind recordless
      (refusal = some (.missingTable .insert) ↔ ∀ t ∈ i.table, Text.isBlank t.name = true) ∧
      (∀ name, refusal = some (.emptyRecords name) ↔
        recordless = true ∧ ∃ t ∈ i.table, Text.isBlank t.name = false ∧ t.name = name) ∧
      (∀ name, refusal = some (.emptyInsertColumns name) ↔
        recordless = false ∧ (∃ t ∈ i.table, Text.isBlank t.name = false ∧ t.name = name) ∧
          ∀ m ∈ i.mappings, m.isAbsent = true) ∧
      (refusal = none ↔
        (∃ t ∈ i.table, Text.isBlank t.name = false) ∧ recordless = false ∧
          (∀ m ∈ i.mappings, m.refusal? strategy [] mode kind = none) ∧
          ∃ m ∈ i.mappings, m.isAbsent = false)) ∧
    ∀ u : Update, u.refusal? strategy = some (.missingTable .update) ↔
      ∀ t ∈ u.target.table, Text.isBlank t.name = true := by
  refine ⟨?_, fun u => u.error?_render s, ?_, fun u => Update.refusal?_eq_missingTable_iff⟩
  · intro i row records
    exact ⟨Insert.error?_render _ s, MultiRowInsert.error?_render _ s,
      BatchInsert.error?_render _ s, GeneralInsert.error?_render _ s⟩
  · intro i mode kind recordless
    exact ⟨Insertion.refusal?_eq_missingTable_iff, fun _ => Insertion.refusal?_eq_emptyRecords_iff,
      fun _ => Insertion.refusal?_eq_emptyInsertColumns_iff, Insertion.refusal?_eq_none_iff⟩

end SqlStatement
