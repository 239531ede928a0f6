import SqlStatement.Proofs.Query.Faults
import SqlStatement.Proofs.Statement.Bindings

/-! # The events of a statement

What is reported while a statement is written mirrors how it ends. A finished statement is reported
once, as it is returned; a refused paging style is reported once, as the error names it; nothing
else is reported. The parts of a statement, selects among them, report nothing of their own but the
paging that the strategy refuses.
-/

namespace SqlStatement

namespace RenderError

def events : RenderError → List Event
  | unsupportedPaging name style => [.pagingRejected name style]
  | _ => []

end RenderError

namespace Rendering

variable {α β : Type}

/-- What a part of a statement reports that ends so. -/
def partEvents : Except RenderError α → List Event
  | .ok _ => []
  | .error e => e.events

/-- The rendering reports what its error says, and nothing if it comes to a result. -/
def Quiet (x : Rendering α) : Prop :=
  ∀ s, (x.outcome s).2.events = s.events ++ partEvents (x.outcome s).1

namespace Quiet

theorem pure (a : α) : (Pure.pure a : Rendering α).Quiet := fun s => (List.append_nil s.events).symm

theorem throw {e : RenderError} (h : e.events = []) :
    (MonadExcept.throw e : Rendering α).Quiet := by
  intro s
  change s.events = s.events ++ e.events
  rw [h, List.append_nil]

theorem modifyGet {f : Session → α × Session} (h : ∀ s, (f s).2.events = s.events) :
    (MonadStateOf.modifyGet f : Rendering α).Quiet :=
  fun s => (h s).trans (List.append_nil s.events).symm

theorem bind {x : Rendering α} {f : α → Rendering β} (hx : x.Quiet) (hf : ∀ a, (f a).Quiet) :
    (x >>= f).Quiet := by
  intro s
  have h := hx s
  rw [outcome_bind]
  rcases hs : x.outcome s with ⟨e | a, t⟩
  · rw [hs] at h
    exact h
  · rw [hs] at h
    have ht : t.events = s.events := h.trans (List.append_nil s.events)
    exact (hf a t).trans (congrArg (· ++ _) ht)

end Quiet

theorem quiet_fetch (d : Datum) : d.get.Quiet := by
  cases d with
  | value v => exact .pure v
  | supplied s => exact .modifyGet fun _ => rfl

theorem quiet_bind (strategy : Strategy) (column : Option Column) (v : Value) :
    (Rendering.bind strategy column v).Quiet := by
  have hk : nextKey.Quiet := .bind (.modifyGet fun _ => rfl) fun _ => .pure _
  refine hk.bind fun key => ?_
  cases column with
  | none => exact (Quiet.pure v).bind fun _ => .pure _
  | some c => exact (Quiet.modifyGet fun _ => rfl).bind fun _ => .pure _

theorem quiet_requirePaging (strategy : Strategy) (style : PagingStyle) :
    (requirePaging strategy style).Quiet := by
  rw [requirePaging]
  split
  · exact .pure ()
  · exact fun s => rfl

end Rendering

open Rendering (Quiet)

namespace Phrase

variable {strategy : Strategy} {p : Phrase} {ps qs : List Phrase}

/-- No part refuses paging by itself: a strategy that supports all styles finds no such fault. -/
def Impartial (ps : List Phrase) : Prop :=
  ∀ strategy : Strategy, (∀ style, strategy.supports style = true) →
    ∀ e ∈ ps.flatMap (faults strategy), e.events = []

namespace Impartial

theorem of_faults (h : ∀ strategy, ps.flatMap (faults strategy) = qs.flatMap (faults strategy))
    (hq : Impartial qs) : Impartial ps := by
  intro strategy hs
  rw [h strategy]
  exact hq strategy hs

theorem of_faultless (h : ∀ strategy, ps.flatMap (faults strategy) = []) : Impartial ps := by
  intro strategy _
  rw [h strategy]
  exact nofun

theorem fail {e : RenderError} (h : e.events = []) : Impartial [.fail e] := by
  intro strategy _ e' he
  obtain rfl : e' = e := by simpa using he
  exact h

theorem append (hp : Impartial ps) (hq : Impartial qs) : Impartial (ps ++ qs) := by
  intro strategy hs
  rw [List.flatMap_append, List.forall_mem_append]
  exact ⟨hp strategy hs, hq strategy hs⟩

theorem cons (hp : Impartial [p]) (hq : Impartial qs) : Impartial (p :: qs) := hp.append hq

theorem flatMap {α : Type} {f : α → List Phrase} (h : ∀ x, Impartial (f x)) (xs : List α) :
    Impartial (xs.flatMap f) := by
  induction xs with
  | nil => exact of_faultless fun _ => rfl
  | cons x xs ih => exact (h x).append ih

theorem singleton (h : Impartial ps) (hp : p ∈ ps) : Impartial [p] := by
  intro strategy hs e he
  refine h strategy hs e (List.mem_flatMap_of_mem hp ?_)
  simpa using he

end Impartial

theorem quiet_renderAll (ih : ∀ p ∈ ps, (p.render strategy).Quiet) :
    (renderAll strategy ps).Quiet := by
  induction ps with
  | nil => exact .pure []
  | cons p ps ihs =>
    rw [List.forall_mem_cons] at ih
    rw [renderAll]
    exact ih.1.bind fun _ => (ihs ih.2).bind fun _ => .pure _

theorem quiet_render (h : Impartial [p]) : (p.render strategy).Quiet := by
  induction p using parts_induction with
  | text s => rw [render]; exact .pure _
  | property column path name => cases path <;> (rw [render]; exact .pure _)
  | parameter column d =>
    rw [render]
    exact (Rendering.quiet_fetch d).bind fun v => Rendering.quiet_bind strategy column v
  | needs style =>
    rw [render]
    exact (Rendering.quiet_requirePaging strategy style).bind fun _ => .pure _
  | fail e =>
    rw [render]
    exact .throw (h .positional (fun _ => rfl) e (by simp))
  | join separator parts ih =>
    have hp : Impartial parts := .of_faults (by simp) h
    rw [render]
    exact (quiet_renderAll fun p hp' => ih p hp' (hp.singleton hp')).bind fun _ => .pure _

end Phrase

open Phrase (Impartial)

theorem Part.events_of_mem_faults {strategy : Strategy}
    (hs : ∀ style, strategy.supports style = true) (p : Part) :
    ∀ e ∈ p.faults strategy, e.events = [] := by
  cases p with
  | column c => simp [faults]
  | case c => simp [faults, RenderError.events]
  | block b =>
    rw [faults, QueryBlock.fault?]
    split
    · simp [RenderError.events]
    · split <;> simp [RenderError.events]
  | select q => simp [faults, RenderError.events]
  | paging p => simp [faults, hs]

theorem Phrase.Impartial.of_sites {ps : List Phrase} (sites : List Site)
    (h : ∀ strategy, ps.flatMap (Phrase.faults strategy) = sites.flatMap (Site.faults strategy)) :
    Impartial ps := by
  intro strategy hs
  rw [h strategy, List.forall_mem_flatMap]
  exact fun x _ => x.part.events_of_mem_faults hs

section Queries

variable (σ : Scopes)

theorem Expr.impartial_phrase (e : Expr) : Impartial [e.phrase σ] :=
  .of_sites (e.sites {}) fun strategy => by
    rw [List.flatMap_singleton]
    exact e.faults_phrase σ {}

theorem Select.impartial_phrase (q : Select) : Impartial [q.phrase σ] :=
  .of_sites (q.sites {}) fun strategy => by
    rw [List.flatMap_singleton]
    exact q.faults_phrase σ {}

theorem Paging.impartial_phrases (p : Paging) : Impartial p.phrases :=
  .of_sites [⟨{}, .paging p⟩] fun strategy => by simp [Site.faults]

theorem SortItem.impartial_clause (items : List SortItem) : Impartial (SortItem.clause σ items) :=
  .of_faultless fun _ => SortItem.faults_clause σ items

theorem Where.impartial_clause (w : Where) : Impartial (w.clause σ) :=
  .of_sites (Criterion.allSites {} w.criteria) fun strategy => by
    rw [clause, Phrase.faults_clause, Chain.faults_phrase?]
    exact Criterion.faults_chain σ {} w.criteria

end Queries

namespace Phrase.Impartial

variable {p : Phrase} {ps : List Phrase}

theorem text (s : String) : Impartial [.text s] := .of_faultless fun _ => by simp

theorem join (h : Impartial ps) (separator : String) : Impartial [.join separator ps] :=
  .of_faults (by simp) h

theorem after (h : Impartial [p]) (s : String) : Impartial [.after s p] := .of_faults (by simp) h

theorem between (h : Impartial [p]) (s t : String) : Impartial [.between s p t] :=
  .of_faults (by simp) h

theorem ofTable (kind : StatementKind) (table : Option Table) {body : Table → Phrase}
    (h : ∀ t, Impartial [body t]) : Impartial [.ofTable kind table body] := by
  cases table with
  | none => exact .fail rfl
  | some t =>
    rw [Phrase.ofTable]
    split
    · exact .fail rfl
    · exact h t

theorem filterMap {g : Mapping → Option Phrase} (h : ∀ m, Impartial (g m).toList)
    (mappings : List Mapping) : Impartial (mappings.filterMap g) := by
  rw [List.filterMap_eq_flatMap_toList]
  exact .flatMap h mappings

theorem insertion (t : Table) (columns : List String) (h : Impartial ps) :
    Impartial [.insertion t columns ps] := by
  rw [Phrase.insertion]
  split
  · exact .fail rfl
  · exact (h.join _).after _

end Phrase.Impartial

section Statements

theorem Mapping.impartial_phrase? (σ : Scopes) (mode : RecordMode) (kind : StatementKind)
    (m : Mapping) : Impartial (m.phrase? σ mode kind).toList := by
  have hu : Impartial [m.unsupported kind] := .fail rfl
  obtain ⟨target, content⟩ := m
  cases content with
  | absent => exact .of_faultless fun _ => rfl
  | null | constant | stringConstant => exact .text _
  | property name =>
    cases mode with
    | none => exact hu
    | row | batch | indexed => exact .of_faultless fun _ => by simp [phrase?]
  | value v =>
    cases h : mode.acceptsValues <;> simp only [phrase?, h]
    · exact hu
    · exact .of_faultless fun _ => by simp
  | supplied s =>
    cases h : mode.acceptsValues <;> simp only [phrase?, h]
    · exact hu
    · exact .of_faultless fun _ => by simp
  | expr e =>
    cases h : mode.acceptsExpressions <;> simp only [phrase?, h]
    · exact hu
    · exact e.impartial_phrase σ
  | subselect query =>
    cases h : mode.acceptsExpressions <;> simp only [phrase?, h]
    · exact hu
    · exact (query.impartial_phrase σ).between _ _

theorem RowPhrase.impartial_group (mappings : List Mapping) (mode : RecordMode)
    (kind : StatementKind) : Impartial [(ofMappings mappings mode kind).group] := by
  rw [group, contents_ofMappings]
  exact ((Impartial.filterMap (Mapping.impartial_phrase? [] mode kind) mappings).join _).between _ _

theorem Insertion.impartial_phrase (i : Insertion) (mode : RecordMode) (kind : StatementKind) :
    Impartial [i.phrase mode kind] :=
  .ofTable _ _ fun t => .insertion t _ (RowPhrase.impartial_group i.mappings mode kind)

theorem MultiRowInsert.impartial_phrase {ρ : Type} (i : MultiRowInsert ρ) :
    Impartial [i.phrase] := by
  refine .ofTable _ _ fun t => ?_
  split
  · exact .fail rfl
  · refine .insertion t _ ?_
    rw [List.map_eq_flatMap]
    exact .flatMap (fun position => RowPhrase.impartial_group i.insertion.mappings _ .insert) _

theorem Reach.impartial_phrases (σ : Scopes) (r : Reach) : Impartial (r.phrases σ) := by
  rw [phrases]
  have hl : Impartial
      ((r.limit.map fun n => Paging.phrases ⟨.limitOffset, some n, none⟩).getD []) := by
    cases r.limit with
    | none => exact .of_faultless fun _ => rfl
    | some n => exact Paging.impartial_phrases _
  exact ((r.criteria.impartial_clause σ).append (SortItem.impartial_clause σ r.orderBy)).append hl

theorem Update.impartial_assignments (σ : Scopes) (u : Update) :
    Impartial [u.assignments σ] := by
  have ha (m : Mapping) : Impartial (assignment? σ m).toList := by
    have h : Impartial (m.phrase? σ .none .update).toList := m.impartial_phrase? σ .none .update
    rw [assignment?]
    cases hp : m.phrase? σ .none .update with
    | none => exact .of_faultless fun _ => rfl
    | some p => rw [hp] at h; exact h.after _
  rw [assignments]
  split
  · exact .text _
  · exact ((Impartial.filterMap ha u.mappings).join _).after _

theorem MultiSelect.impartial_phrase (m : MultiSelect) : Impartial [m.phrase] := by
  have hm (s : Select) : Impartial [.between "(" (s.phrase []) ")"] :=
    (s.impartial_phrase []).between _ _
  have ho : Impartial ((m.orderBy.map (SortItem.clause [])).getD []) := by
    cases m.orderBy with
    | none => exact .of_faultless fun _ => rfl
    | some items => exact SortItem.impartial_clause [] items
  have hp : Impartial ((m.paging.map Paging.phrases).getD []) := by
    cases m.paging with
    | none => exact .of_faultless fun _ => rfl
    | some p => exact p.impartial_phrases
  have hs := Impartial.flatMap (fun o : SetOperator × Select =>
    (Impartial.text o.1.text).cons (hm o.2)) m.others
  exact ((((hm m.initial).append hs).append ho).append hp).join " "

end Statements

namespace Model

variable {ρ : Type}

theorem impartial_phrase? {m : Model ρ} {p : Phrase} (hp : m.phrase? = some p) :
    Impartial [p] := by
  cases m with
  | select s => exact Option.some.inj hp ▸ s.impartial_phrase []
  | multiSelect m => exact Option.some.inj hp ▸ m.impartial_phrase
  | whereClause w aliases =>
    obtain ⟨-, rfl⟩ := words_clause hp
    exact (w.impartial_clause _).join " "
  | update u =>
    exact Option.some.inj hp ▸ .ofTable _ _ fun _ =>
      ((Impartial.text _).cons <|
        (u.impartial_assignments _).cons (u.reach.impartial_phrases _)).join " "
  | delete d =>
    exact Option.some.inj hp ▸ .ofTable _ _ fun _ =>
      ((Impartial.text _).cons (d.reach.impartial_phrases _)).join " "
  | insert i => exact Option.some.inj hp ▸ i.insertion.impartial_phrase .row .insert
  | multiRowInsert i => exact Option.some.inj hp ▸ i.impartial_phrase
  | batchInsert i => exact Option.some.inj hp ▸ i.insertion.impartial_phrase .batch .batchInsert
  | generalInsert i => exact Option.some.inj hp ▸ i.insertion.impartial_phrase .none .insert
  | insertSelect i =>
    exact Option.some.inj hp ▸ .ofTable _ _ fun _ => (i.query.impartial_phrase []).after _

theorem phrase?_eq_none_iff {m : Model ρ} : m.phrase? = none ↔
    ∃ w aliases, m = .whereClause w aliases ∧ Criterion.allLeaves w.criteria = [] := by
  constructor
  · intro hp
    cases m with
    | whereClause w aliases =>
      have hc : (Criterion.chain [.explicit aliases] w.criteria).phrase? = none := by
        simpa [Where.clause, Phrase.clause] using clause_of_absent hp
      exact ⟨w, aliases, rfl, (Criterion.phrase?_chain_eq_none_iff _ _).1 hc⟩
    | _ => cases hp
  · rintro ⟨w, aliases, rfl, hl⟩
    rw [phrase?, Where.clause, (Criterion.phrase?_chain_eq_none_iff _ _).2 hl]
    rfl

/-- Only a clause of its own comes to nothing, where no leaf of its criteria is left. -/
theorem outcome_eq_none_iff (m : Model ρ) (strategy : Strategy) (s : Session) :
    ((m.render strategy).outcome s).1 = .ok none ↔
      ∃ w aliases, m = .whereClause w aliases ∧ Criterion.allLeaves w.criteria = [] := by
  rw [← phrase?_eq_none_iff]
  constructor
  · intro h
    exact (absent_of_outcome (t := ((m.render strategy).outcome s).2) (Prod.ext h rfl)).1
  · intro hp
    rw [outcome_render_of_absent hp]

/-- What is reported of a statement that ends so. -/
def statementEvents (m : Model ρ) (strategy : Strategy) :
    Except RenderError (Option Statement) → List Event
  | .ok none => []
  | .ok (some st) =>
    [.rendered m.kind strategy.name (if m.recordsOnly then 0 else st.parameters.size) st.sql]
  | .error e => e.events

/-- The events of a statement are exactly those of the way it ends, and it ends without a result in
one way only: a where clause of its own of which nothing is left. A select inside a statement
reports no more than the paging that the strategy refuses in it. -/
theorem events_mirror_result (m : Model ρ) (strategy : Strategy) :
    (∀ s, ((m.render strategy).outcome s).2.events =
      s.events ++ m.statementEvents strategy ((m.render strategy).outcome s).1) ∧
    (∀ s, ((m.render strategy).outcome s).1 = .ok none ↔
      ∃ w aliases, m = .whereClause w aliases ∧ Criterion.allLeaves w.criteria = []) ∧
    ∀ (q : Select) (σ : Scopes) (s : Session),
      (((q.phrase σ).render strategy).outcome s).2.events =
        s.events ++ Rendering.partEvents (((q.phrase σ).render strategy).outcome s).1 := by
  refine ⟨fun s => ?_, outcome_eq_none_iff m strategy,
    fun q σ => Phrase.quiet_render (q.impartial_phrase σ)⟩
  cases hp : m.phrase? with
  | none =>
    rw [outcome_render_of_absent hp]
    exact (List.append_nil _).symm
  | some p =>
    have hq : (p.render strategy).Quiet := Phrase.quiet_render (impartial_phrase? hp)
    have h := hq { s with next := 1 }
    rw [outcome_render hp]
    rcases ho : (p.render strategy).outcome { s with next := 1 } with ⟨e | f, t⟩
    · rw [ho] at h
      exact h
    · rw [ho] at h
      have ht : t.events = s.events := h.trans (List.append_nil s.events)
      have hm : m.event strategy f = .rendered m.kind strategy.name
          (if m.recordsOnly then 0 else (m.finished f).parameters.size) (m.finished f).sql := by
        cases hr : m.recordsOnly <;> simp [event, finished, hr]
      exact congrArg₂ (· ++ [·]) ht hm

/-- A delete that is finished, the same where its paging is refused, and a where clause without
criteria. -/
theorem events_mirror_result_of_limitedDelete :
    let run (m : Model Unit) (support : PagingSupport) :=
      (m.render (.springNamed support)).outcome {}
    let absent : Model Unit := .whereClause {} ∅
    (∃ st t, run (limitedDelete none) .all = (.ok (some st), t) ∧
      st.sql = "delete from users where id = :p1 limit :p2" ∧
      t.events = [.rendered .delete "SpringNamedParameter" 2 st.sql]) ∧
    (∃ e t, run (limitedDelete none) .fetchFirstOnly = (.error e, t) ∧
      t.events = [.pagingRejected "SpringNamedParameter" .limitOffset]) ∧
    (run absent .all).1 = .ok none ∧ (run absent .all).2.events = [] := by
  intro run absent
  have hd (support : PagingSupport) :=
    (events_mirror_result (limitedDelete none) (.springNamed support)).1 {}
  obtain ⟨ha, hn, -⟩ := events_mirror_result absent .springNamed
  exact ⟨⟨_, _, rfl, rfl, hd .all⟩, ⟨_, _, rfl, hd .fetchFirstOnly⟩, (hn {}).2 ⟨{}, ∅, rfl, rfl⟩,
    ha {}⟩

/-- A delete with a select inside whose paging is refused. -/
example :
    let users : Table := ⟨⟨0⟩, "users"⟩
    let first : Select := (SelectDraft.run
      [.select [.column (users.column "id")], .from users, .fetchFirst 3]).build
    let d : Delete := { target := ⟨some users, none⟩, reach := { criteria := ⟨[.ofExists first]⟩ } }
    ((d.render (.springNamed .limitOffsetOnly)).outcome {}).2.events =
      [.pagingRejected "SpringNamedParameter" .fetchFirst] := rfl

end Model

end SqlStatement
