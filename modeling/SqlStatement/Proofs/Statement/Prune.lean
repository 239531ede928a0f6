import SqlStatement.Proofs.Query.Pruned
import SqlStatement.Proofs.Statement.Bindings

/-! # Statements without their absent parts

Criteria that say nothing, branches without a test and columns that are left out can be deleted
from every statement. It is written with the same text and the same parameters as before, or
cannot be written as before. So no keyword, connector or number is spent on an absent part, and
what is wrong inside it never shows.
-/

namespace SqlStatement

open Phrase (faults faultsOfAll faultsOfOption)

variable {S : Strategy}

namespace Mapping

def prune (m : Mapping) : Mapping :=
  { m with content := match m.content with
    | .expr e => .expr e.prune
    | .subselect query => .subselect query.prune
    | content => content }

def pruneAll (mappings : List Mapping) : List Mapping :=
  (mappings.filter (!·.isAbsent)).map prune

theorem agree_prune (σ : Scopes) (mode : RecordMode) (kind : StatementKind) (m : Mapping) :
    Agree (faultsOfOption S) (m.prune.phrase? σ mode kind) (m.phrase? σ mode kind) := by
  obtain ⟨target, content⟩ := m
  cases content with
  | expr e =>
    cases h : mode.acceptsExpressions <;> simp only [prune, phrase?, h]
    · exact .refl _
    · exact (Expr.agree_prune σ e).some
  | subselect query =>
    cases h : mode.acceptsExpressions <;> simp only [prune, phrase?, h]
    · exact .refl _
    · exact ((Select.agree_prune σ query).between "(" ")").some
  | _ => exact .refl _

theorem phrase?_eq_none_iff {σ : Scopes} {mode : RecordMode} {kind : StatementKind} {m : Mapping} :
    m.phrase? σ mode kind = none ↔ m.isAbsent = true := by
  obtain ⟨target, content⟩ := m
  cases content with
  | absent => exact ⟨fun _ => rfl, fun _ => rfl⟩
  | _ => simp [phrase?, isAbsent]

@[simp] theorem isAbsent_prune (m : Mapping) : m.prune.isAbsent = m.isAbsent := by
  obtain ⟨target, content⟩ := m
  cases content <;> rfl

theorem agree_pruneAll {g : Mapping → Option Phrase}
    (hg : ∀ m : Mapping, Agree (faultsOfOption S) (g m.prune) (g m))
    (ha : ∀ m : Mapping, m.isAbsent = true → g m = none) (mappings : List Mapping) :
    Agree (faultsOfAll S) ((pruneAll mappings).filterMap g) (mappings.filterMap g) := by
  induction mappings with
  | nil => exact .refl _
  | cons m mappings ih =>
    cases hm : m.isAbsent with
    | true =>
      have hp : pruneAll (m :: mappings) = pruneAll mappings := by simp [pruneAll, hm]
      rwa [hp, List.filterMap_cons_none (ha m hm)]
    | false =>
      have hp : pruneAll (m :: mappings) = m.prune :: pruneAll mappings := by simp [pruneAll, hm]
      have hc := (hg m).toList.append ih
      rw [hp, List.filterMap_cons, List.filterMap_cons]
      cases h : g m <;> cases h' : g m.prune <;> simpa [h, h'] using hc

theorem prune_prune (m : Mapping) : m.prune.prune = m.prune := by
  obtain ⟨target, content⟩ := m
  cases content with
  | expr e => exact congrArg (fun e => Mapping.mk target (.expr e)) e.prune_prune
  | subselect query =>
    exact congrArg (fun q => Mapping.mk target (.subselect q)) query.prune_prune
  | _ => rfl

theorem forall_mem_pruneAll (mappings : List Mapping) :
    ∀ m ∈ pruneAll mappings, (!m.isAbsent) = true := by
  rw [pruneAll, List.forall_mem_map]
  intro m hm
  rw [isAbsent_prune]
  exact (List.mem_filter.1 hm).2

theorem pruneAll_pruneAll (mappings : List Mapping) :
    pruneAll (pruneAll mappings) = pruneAll mappings := by
  have hm : ((pruneAll mappings).map prune) = pruneAll mappings := by
    rw [pruneAll, List.map_map]
    exact List.map_congr_left fun m _ => m.prune_prune
  rwa [pruneAll, List.filter_eq_self.2 (forall_mem_pruneAll mappings)]

end Mapping

namespace RowPhrase

theorem columns_ofMappings (mappings : List Mapping) (mode : RecordMode) (kind : StatementKind) :
    (ofMappings mappings mode kind).columns =
      (mappings.filter (!·.isAbsent)).map (·.target.name) := by
  change (mappings.filterMap _).map Prod.fst = _
  induction mappings with
  | nil => rfl
  | cons m mappings ih =>
    cases hm : m.isAbsent with
    | true =>
      have hp : m.phrase? [] mode kind = none := Mapping.phrase?_eq_none_iff.2 hm
      rw [List.filterMap_cons, hp, Option.map_none, ih, List.filter_cons_of_neg (by simp [hm])]
    | false =>
      have hp : m.phrase? [] mode kind ≠ none := by
        rw [ne_eq, Mapping.phrase?_eq_none_iff, hm]
        exact Bool.false_ne_true
      obtain ⟨p, hp⟩ := Option.ne_none_iff_exists'.1 hp
      rw [List.filterMap_cons, hp, Option.map_some, List.map_cons, ih,
        List.filter_cons_of_pos (by simp [hm]), List.map_cons]

theorem columns_pruneAll (mappings : List Mapping) (mode : RecordMode) (kind : StatementKind) :
    (ofMappings (Mapping.pruneAll mappings) mode kind).columns =
      (ofMappings mappings mode kind).columns := by
  rw [columns_ofMappings, columns_ofMappings,
    List.filter_eq_self.2 (Mapping.forall_mem_pruneAll mappings), Mapping.pruneAll, List.map_map]
  rfl

theorem agree_group (mappings : List Mapping) (mode : RecordMode) (kind : StatementKind) :
    Agree (faults S) (ofMappings (Mapping.pruneAll mappings) mode kind).group
      (ofMappings mappings mode kind).group := by
  rw [group, group, contents_ofMappings, contents_ofMappings]
  have h := Mapping.agree_pruneAll (S := S) (Mapping.agree_prune [] mode kind)
    (fun m hm => Mapping.phrase?_eq_none_iff.2 hm) mappings
  exact (h.join ", ").between "(" ")"

end RowPhrase

namespace Agree

variable {ps qs : List Phrase}

theorem ofTable (kind : StatementKind) (table : Option Table) {body body' : Table → Phrase}
    (h : ∀ t, Agree (faults S) (body t) (body' t)) :
    Agree (faults S) (.ofTable kind table body) (.ofTable kind table body') := by
  cases table with
  | none => exact .refl _
  | some t =>
    rw [Phrase.ofTable, Phrase.ofTable]
    split
    next => exact .refl _
    next => exact h t

theorem insertion (t : Table) {columns columns' : List String} (hc : columns = columns')
    (h : Agree (faultsOfAll S) ps qs) :
    Agree (faults S) (.insertion t columns ps) (.insertion t columns' qs) := by
  rw [hc, Phrase.insertion, Phrase.insertion]
  split
  next => exact .refl _
  next => exact (h.join ", ").after _

end Agree

namespace Insertion

def prune (i : Insertion) : Insertion := { i with mappings := Mapping.pruneAll i.mappings }

theorem prune_prune (i : Insertion) : i.prune.prune = i.prune :=
  congrArg (Insertion.mk i.table) (Mapping.pruneAll_pruneAll i.mappings)

theorem agree_prune (i : Insertion) (mode : RecordMode) (kind : StatementKind) :
    Agree (faults S) (i.prune.phrase mode kind) (i.phrase mode kind) :=
  .ofTable .insert i.table fun t =>
    .insertion t (RowPhrase.columns_pruneAll i.mappings mode kind)
      (RowPhrase.agree_group i.mappings mode kind).singleton

end Insertion

namespace MultiRowInsert

variable {ρ : Type}

def prune (i : MultiRowInsert ρ) : MultiRowInsert ρ := { i with insertion := i.insertion.prune }

theorem agree_prune (i : MultiRowInsert ρ) : Agree (faults S) i.prune.phrase i.phrase := by
  refine .ofTable .insert i.insertion.table fun t => ?_
  have hr : i.prune.records = i.records := rfl
  rw [hr]
  split
  next => exact .refl _
  next =>
    refine .insertion t (RowPhrase.columns_pruneAll _ _ _) ?_
    induction List.range i.records.length with
    | nil => exact .refl _
    | cons position positions ih =>
      exact (RowPhrase.agree_group i.insertion.mappings _ .insert).cons ih

end MultiRowInsert

namespace InsertSelect

def prune (i : InsertSelect) : InsertSelect := { i with query := i.query.prune }

theorem agree_prune (i : InsertSelect) : Agree (faults S) i.prune.phrase i.phrase :=
  .ofTable .insert i.table fun t => (Select.agree_prune [] i.query).after (i.heading t)

end InsertSelect

namespace Where

def prune (w : Where) : Where := ⟨Criterion.pruneAll w.criteria⟩

theorem prune_prune (w : Where) : w.prune.prune = w.prune :=
  congrArg Where.mk (Criterion.pruneAll_pruneAll w.criteria)

theorem agree_prune (σ : Scopes) (w : Where) :
    Agree (faultsOfAll S) (w.prune.clause σ) (w.clause σ) :=
  (Criterion.agree_pruneAll σ w.criteria).phrase?.clause "where"

end Where

namespace Reach

def prune (r : Reach) : Reach := { r with criteria := r.criteria.prune }

theorem prune_prune (r : Reach) : r.prune.prune = r.prune :=
  congrArg (Reach.mk · r.orderBy r.limit) r.criteria.prune_prune

theorem agree_prune (σ : Scopes) (r : Reach) :
    Agree (faultsOfAll S) (r.prune.phrases σ) (r.phrases σ) :=
  ((r.criteria.agree_prune σ).append (.refl _)).append (.refl _)

end Reach

namespace Update

def prune (u : Update) : Update :=
  { u with mappings := Mapping.pruneAll u.mappings, reach := u.reach.prune }

theorem prune_prune (u : Update) : u.prune.prune = u.prune :=
  congrArg₂ (Update.mk u.target) (Mapping.pruneAll_pruneAll u.mappings) u.reach.prune_prune

theorem agree_assignment? (σ : Scopes) (m : Mapping) :
    Agree (faultsOfOption S) (assignment? σ m.prune) (assignment? σ m) :=
  (m.agree_prune σ .none .update).map_after (σ.columnName m.target ++ " = ")

theorem faults_assignments (σ : Scopes) (u : Update) :
    (u.assignments σ).faults S = faultsOfAll S (u.mappings.filterMap (assignment? σ)) := by
  rw [assignments]
  cases u.mappings.filterMap (assignment? σ) with
  | nil => rfl
  | cons p ps => simp

theorem agree_assignments (σ : Scopes) (u : Update) :
    Agree (faults S) (u.prune.assignments σ) (u.assignments σ) := by
  have ha (m : Mapping) (hm : m.isAbsent = true) : assignment? σ m = none := by
    rw [assignment?, Mapping.phrase?_eq_none_iff.2 hm, Option.map_none]
  have h : Agree (faultsOfAll S) ((Mapping.pruneAll u.mappings).filterMap (assignment? σ))
      (u.mappings.filterMap (assignment? σ)) :=
    Mapping.agree_pruneAll (agree_assignment? σ) ha u.mappings
  intro hf
  rw [faults_assignments, faults_assignments] at hf
  have he : u.prune.mappings.filterMap (assignment? σ) = u.mappings.filterMap (assignment? σ) :=
    h hf
  rw [assignments, assignments, he]

theorem agree_prune (u : Update) : Agree (faults S) u.prune.phrase u.phrase :=
  .ofTable .update u.target.table fun _ =>
    ((Agree.refl _).cons ((u.agree_assignments _).cons (u.reach.agree_prune _))).join " "

end Update

namespace Delete

def prune (d : Delete) : Delete := { d with reach := d.reach.prune }

theorem prune_prune (d : Delete) : d.prune.prune = d.prune :=
  congrArg (Delete.mk d.target) d.reach.prune_prune

theorem agree_prune (d : Delete) : Agree (faults S) d.prune.phrase d.phrase :=
  .ofTable .delete d.target.table fun _ => ((Agree.refl _).cons (d.reach.agree_prune _)).join " "

end Delete

namespace MultiSelect

def prune (m : MultiSelect) : MultiSelect :=
  { m with initial := m.initial.prune, others := m.others.map (Prod.map id Select.prune) }

theorem prune_prune (m : MultiSelect) : m.prune.prune = m.prune := by
  have ho : (m.others.map (Prod.map id Select.prune)).map (Prod.map id Select.prune) =
      m.others.map (Prod.map id Select.prune) := by
    rw [List.map_map]
    exact List.map_congr_left fun o _ => congrArg (Prod.mk o.1) o.2.prune_prune
  exact congrArg₂ (MultiSelect.mk · · m.orderBy m.paging) m.initial.prune_prune ho

theorem agree_others (others : List (SetOperator × Select)) :
    Agree (faultsOfAll S)
      ((others.map (Prod.map id Select.prune)).flatMap
        fun (operator, s) => [.text operator.text, .between "(" (s.phrase []) ")"])
      (others.flatMap
        fun (operator, s) => [.text operator.text, .between "(" (s.phrase []) ")"]) := by
  induction others with
  | nil => exact .refl _
  | cons o others ih =>
    obtain ⟨operator, s⟩ := o
    exact (Agree.refl _).cons (((Select.agree_prune [] s).between "(" ")").cons ih)

theorem agree_prune (m : MultiSelect) : Agree (faults S) m.prune.phrase m.phrase := by
  have hi := (Select.agree_prune (S := S) [] m.initial).between "(" ")"
  have ho := agree_others (S := S) m.others
  exact (((hi.cons ho).append (.refl _)).append (.refl _)).join " "

end MultiSelect

namespace Model

variable {ρ : Type} {s t : Session}

/-- The statement without its absent parts. -/
def prune : Model ρ → Model ρ
  | select s => .select s.prune
  | multiSelect m => .multiSelect m.prune
  | whereClause w aliases => .whereClause w.prune aliases
  | update u => .update u.prune
  | delete d => .delete d.prune
  | insert i => .insert { i with insertion := i.insertion.prune }
  | multiRowInsert i => .multiRowInsert i.prune
  | batchInsert i => .batchInsert { i with insertion := i.insertion.prune }
  | generalInsert i => .generalInsert { i with insertion := i.insertion.prune }
  | insertSelect i => .insertSelect i.prune

theorem faults_whereClause (w : Where) (aliases : Aliases) :
    faultsOfOption S (whereClause w aliases : Model ρ).phrase? =
      faultsOfAll S (w.clause [.explicit aliases]) := by
  rw [phrase?]
  cases w.clause [.explicit aliases] with
  | nil => rfl
  | cons p ps => simp [faultsOfOption]

theorem agree_prune (m : Model ρ) : Agree (faultsOfOption S) m.prune.phrase? m.phrase? := by
  cases m with
  | select s => exact (Select.agree_prune [] s).some
  | multiSelect m => exact m.agree_prune.some
  | whereClause w aliases =>
    have hc : Agree (faultsOfAll S) (w.prune.clause [.explicit aliases])
        (w.clause [.explicit aliases]) := w.agree_prune [.explicit aliases]
    intro hf
    rw [prune, faults_whereClause, faults_whereClause] at hf
    rw [prune, phrase?, phrase?, hc hf]
  | update u => exact u.agree_prune.some
  | delete d => exact d.agree_prune.some
  | insert i => exact (i.insertion.agree_prune .row .insert).some
  | multiRowInsert i => exact i.agree_prune.some
  | batchInsert i => exact (i.insertion.agree_prune .batch .batchInsert).some
  | generalInsert i => exact (i.insertion.agree_prune .none .insert).some
  | insertSelect i => exact i.agree_prune.some

@[simp] theorem kind_prune (m : Model ρ) : m.prune.kind = m.kind := by cases m <;> rfl

@[simp] theorem recordsOnly_prune (m : Model ρ) : m.prune.recordsOnly = m.recordsOnly := by
  cases m <;> rfl

theorem faultless_of_outcome {m : Model ρ} {r : Option Statement}
    (h : (m.render S).outcome s = (.ok r, t)) : faultsOfOption S m.phrase? = [] := by
  cases r with
  | none =>
    rw [(absent_of_outcome h).1]
    rfl
  | some st =>
    obtain ⟨p, f, hp, hf, -⟩ := written_of_outcome h
    simpa [faultsOfOption, hp] using hf

theorem outcome_congr {m m' : Model ρ} (hp : m.phrase? = m'.phrase?) (hk : m.kind = m'.kind)
    (hr : m.recordsOnly = m'.recordsOnly) (s : Session) :
    (m.render S).outcome s = (m'.render S).outcome s := by
  cases hm : m'.phrase? with
  | none => rw [outcome_render_of_absent hm, outcome_render_of_absent (hp.trans hm)]
  | some p =>
    have hf (f : Fragment) : m.finished f = m'.finished f := by rw [finished, finished, hr]
    have he (f : Fragment) : m.event S f = m'.event S f := by rw [event, event, hk, hr]
    rw [outcome_render hm, outcome_render (hp.trans hm)]
    simp only [hf, he]

theorem prune_prune (m : Model ρ) : m.prune.prune = m.prune := by
  cases m with
  | select s => exact congrArg Model.select s.prune_prune
  | multiSelect m => exact congrArg Model.multiSelect m.prune_prune
  | whereClause w aliases => exact congrArg (Model.whereClause · aliases) w.prune_prune
  | update u => exact congrArg Model.update u.prune_prune
  | delete d => exact congrArg Model.delete d.prune_prune
  | insert i => exact congrArg (fun j => Model.insert ⟨i.row, j⟩) i.insertion.prune_prune
  | multiRowInsert i =>
    exact congrArg (fun j => Model.multiRowInsert ⟨i.records, j⟩) i.insertion.prune_prune
  | batchInsert i =>
    exact congrArg (fun j => Model.batchInsert ⟨i.records, j⟩) i.insertion.prune_prune
  | generalInsert i => exact congrArg (fun j => Model.generalInsert ⟨j⟩) i.insertion.prune_prune
  | insertSelect i =>
    exact congrArg (fun q => Model.insertSelect ⟨i.table, i.columns, q⟩) i.query.prune_prune

/-- Absent parts can be deleted, and pruning once more deletes nothing: with every strategy and from
every session, a statement is written exactly if the pruned statement is written, and then with the
same text, parameters and session. -/
theorem outcome_prune (m : Model ρ) :
    m.prune.prune = m.prune ∧
      ∀ (strategy : Strategy) (s t : Session) (r : Option Statement),
        (m.prune.render strategy).outcome s = (.ok r, t) ↔
          (m.render strategy).outcome s = (.ok r, t) := by
  refine ⟨m.prune_prune, fun strategy s t r => ?_⟩
  -- Whichever of the two is written, it is not at fault, and so the phrases are the same.
  have hc (hp : m.prune.phrase? = m.phrase?) :
      (m.prune.render strategy).outcome s = (m.render strategy).outcome s :=
    outcome_congr hp m.kind_prune m.recordsOnly_prune s
  constructor
  · intro h
    rw [← hc (m.agree_prune (.inl (faultless_of_outcome h))), h]
  · intro h
    rw [hc (m.agree_prune (.inr (faultless_of_outcome h))), h]

/-- A comparison without a condition goes, malformed as its left side is, and a negation of nothing
else goes with it. -/
example :
    let t : Table := ⟨⟨0⟩, "users"⟩
    let absent : Criterion := .compare (.case (.searched [] none) none) .empty
    let kept : Criterion := .compare (.column (t.column "id")) (.isNull .positive)
    let among (cs : List Criterion) : Model Unit :=
      .delete { target := { table := some t }, reach := { criteria := ⟨cs⟩ } }
    (among [absent, .not (.and .group absent), kept]).prune = among [kept] := rfl

end Model

end SqlStatement
