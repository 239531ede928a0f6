import Mathlib.Data.List.Induction
import SqlStatement.Statement.Select

/-! # What a draft builds

The calls on a draft are cut where a set operator closes a block. Each segment makes one block, in
which the last call of a kind counts, joins and criteria are kept in order, and nothing is left of
the segments before. The order and the paging are those of the last calls of the whole run.
-/

namespace SqlStatement

namespace SelectStep

variable {α : Type}

def operator? : SelectStep → Option SetOperator
  | combine k => some k
  | _ => none

def columns? : SelectStep → Option (List Expr)
  | select columns | selectDistinct columns => some columns
  | _ => none

def isDistinct : SelectStep → Bool
  | selectDistinct _ => true
  | _ => false

def source? : SelectStep → Option Source
  | .from t | fromAs t _ => some (.table t)
  | fromSubquery query a => some (.subquery query a)
  | _ => none

def alias? (t : TableId) : SelectStep → Option String
  | fromAs u a => if t = u.id then some a else none
  | join _ u (some a) _ => if t = u.id then some a else none
  | _ => none

def join? : SelectStep → Option Join
  | join kind t _ criteria => some ⟨kind, .table t, criteria⟩
  | joinSubquery kind query a criteria => some ⟨kind, .subquery query a, criteria⟩
  | _ => none

/-- The connector of the call overrides that of the criterion. -/
def criterion? : SelectStep → Option Criterion
  | .where k c => some (c.withConnector k)
  | _ => none

def groupBy? : SelectStep → Option (List Expr)
  | groupBy columns => some columns
  | _ => none

def having? : SelectStep → Option Criterion
  | having k c => some (c.withConnector k)
  | _ => none

def orderBy? : SelectStep → Option (List SortItem)
  | orderBy items => some items
  | _ => none

def rows? : SelectStep → Option (PagingStyle × UInt64)
  | limit n => some (.limitOffset, n)
  | fetchFirst n => some (.fetchFirst, n)
  | _ => none

def offset? : SelectStep → Option UInt64
  | .offset n => some n
  | _ => none

/-- What the last of the calls says that says anything. -/
def last? (f : SelectStep → Option α) (calls : List SelectStep) : Option α :=
  (calls.filterMap f).getLast?

theorem filterMap_concat (f : SelectStep → Option α) (calls : List SelectStep) (c : SelectStep) :
    (calls ++ [c]).filterMap f = calls.filterMap f ++ (f c).toList := by
  cases hc : f c <;> simp [hc]

theorem last?_concat (f : SelectStep → Option α) (calls : List SelectStep) (c : SelectStep) :
    last? f (calls ++ [c]) = (f c).or (last? f calls) := by
  rw [last?, filterMap_concat, List.getLast?_append]
  cases f c <;> rfl

/-- The paging of a run. The last row count brings its style; an offset on its own is written in
the limit style. -/
def paging? (calls : List SelectStep) : Option Paging :=
  match last? rows? calls, last? offset? calls with
  | some (style, n), skipped => some ⟨style, some n, skipped⟩
  | none, some n => some ⟨.limitOffset, none, some n⟩
  | none, none => none

/-- What one call does to the block at hand. -/
structure Extends (c : SelectStep) (b b' : QueryBlock) : Prop where
  connector : b'.connector = b.connector
  distinct : b'.distinct = (c.isDistinct || b.distinct)
  columns : b'.columns = c.columns?.getD b.columns
  source : b'.source = c.source?.or b.source
  aliases : ∀ t, b'.aliases.find? t = (c.alias? t).or (b.aliases.find? t)
  joins : b'.joins = b.joins ++ c.join?.toList
  criteria : b'.criteria = b.criteria ++ c.criterion?.toList
  groupBy : b'.groupBy = c.groupBy?.getD b.groupBy
  having : b'.having = b.having ++ c.having?.toList

theorem extends_step {c : SelectStep} (hc : c.operator? = none) (d : SelectDraft) :
    Extends c d.current (d.step c).current := by
  have named (u : Table) (a : String) (t : TableId) :
      (d.current.aliases.insert u.id a).find? t =
        (if t = u.id then some a else none).or (d.current.aliases.find? t) := by
    rw [Aliases.find?_insert]
    split <;> rfl
  cases c with
  | combine k => cases hc
  | join kind u a criteria =>
    cases a <;> constructor <;> intros <;>
      first | rfl | exact (List.append_nil _).symm | exact named _ _ _
  | _ =>
    constructor <;> intros <;>
      first | rfl | exact (List.append_nil _).symm | exact named _ _ _

theorem closed_step {c : SelectStep} (hc : c.operator? = none) (d : SelectDraft) :
    (d.step c).closed = d.closed := by
  cases c with
  | combine k => cases hc
  | join kind u a criteria => cases a <;> rfl
  | _ => rfl

theorem closed_foldl {calls : List SelectStep} (h : ∀ c ∈ calls, c.operator? = none)
    (d : SelectDraft) : (calls.foldl SelectDraft.step d).closed = d.closed := by
  induction calls generalizing d with
  | nil => rfl
  | cons c calls ih =>
    rw [List.forall_mem_cons] at h
    rw [List.foldl_cons, ih h.2, closed_step h.1]

theorem current_step (c : SelectStep) {d e : SelectDraft} (h : d.current = e.current) :
    (d.step c).current = (e.step c).current := by
  obtain ⟨_, b, _, _⟩ := d
  obtain rfl : b = e.current := h
  cases c with
  | join kind u a criteria => cases a <;> rfl
  | _ => rfl

theorem current_foldl (calls : List SelectStep) {d e : SelectDraft} (h : d.current = e.current) :
    (calls.foldl SelectDraft.step d).current = (calls.foldl SelectDraft.step e).current := by
  induction calls generalizing d e with
  | nil => exact h
  | cons c calls ih => exact ih (current_step c h)

end SelectStep

open SelectStep (last?)

/-- The calls on one block, and the set operator that opened it. -/
structure BlockCalls where
  connector : Option SetOperator
  calls : List SelectStep

namespace BlockCalls

def block (s : BlockCalls) : QueryBlock :=
  (s.calls.foldl SelectDraft.step { current := .opened s.connector }).current

theorem current_foldl_eq_block (s : BlockCalls) {d : SelectDraft}
    (hd : d.current = .opened s.connector) :
    (s.calls.foldl SelectDraft.step d).current = s.block :=
  SelectStep.current_foldl s.calls hd

/-- The block is what the calls of the segment say. -/
structure Drafts (s : BlockCalls) (b : QueryBlock) : Prop where
  connector : b.connector = s.connector
  distinct : b.distinct = true ↔ ∃ c ∈ s.calls, c.isDistinct = true
  columns : b.columns = (last? SelectStep.columns? s.calls).getD []
  source : b.source = last? SelectStep.source? s.calls
  aliases : ∀ t, b.aliases.find? t = last? (SelectStep.alias? t) s.calls
  joins : b.joins = s.calls.filterMap SelectStep.join?
  criteria : b.criteria = s.calls.filterMap SelectStep.criterion?
  groupBy : b.groupBy = (last? SelectStep.groupBy? s.calls).getD []
  having : b.having = s.calls.filterMap SelectStep.having?

namespace Drafts

theorem opened (k : Option SetOperator) : Drafts ⟨k, []⟩ (.opened k) where
  connector := rfl
  distinct := by simp [QueryBlock.opened]
  columns := rfl
  source := rfl
  aliases _ := rfl
  joins := rfl
  criteria := rfl
  groupBy := rfl
  having := rfl

theorem concat {k : Option SetOperator} {calls : List SelectStep} {b b' : QueryBlock}
    (h : Drafts ⟨k, calls⟩ b) {c : SelectStep} (hc : c.Extends b b') :
    Drafts ⟨k, calls ++ [c]⟩ b' where
  connector := by rw [hc.connector, h.connector]
  distinct := by
    rw [hc.distinct, Bool.or_eq_true, h.distinct]
    simp [or_comm]
  columns := by rw [hc.columns, h.columns, SelectStep.last?_concat]; cases c.columns? <;> rfl
  source := by rw [hc.source, h.source, SelectStep.last?_concat]
  aliases t := by rw [hc.aliases, h.aliases, SelectStep.last?_concat]
  joins := by rw [hc.joins, h.joins, SelectStep.filterMap_concat]
  criteria := by rw [hc.criteria, h.criteria, SelectStep.filterMap_concat]
  groupBy := by rw [hc.groupBy, h.groupBy, SelectStep.last?_concat]; cases c.groupBy? <;> rfl
  having := by rw [hc.having, h.having, SelectStep.filterMap_concat]

end Drafts

theorem drafts_block (s : BlockCalls) (hs : ∀ c ∈ s.calls, c.operator? = none) :
    s.Drafts s.block := by
  obtain ⟨k, calls⟩ := s
  induction calls using List.reverseRecOn with
  | nil => exact .opened k
  | append_singleton calls c ih =>
    have hcalls := ih fun c' hc' => hs c' (List.mem_append_left _ hc')
    have hc := hs c (List.mem_append_right _ (List.mem_singleton_self c))
    rw [block, List.foldl_append]
    exact hcalls.concat (SelectStep.extends_step hc _)

/-- A run, opened by a connector, ends its first segment at a set operator or not at all. -/
inductive Cuts : Option SetOperator → List SelectStep → List BlockCalls → Prop where
  | last {k : Option SetOperator} {calls : List SelectStep} :
      (∀ c ∈ calls, c.operator? = none) → Cuts k calls [⟨k, calls⟩]
  | next {k : Option SetOperator} {calls steps : List SelectStep} {o : SetOperator}
      {ss : List BlockCalls} : (∀ c ∈ calls, c.operator? = none) → Cuts (some o) steps ss →
      Cuts k (calls ++ .combine o :: steps) (⟨k, calls⟩ :: ss)

def cut (connector : Option SetOperator) : List SelectStep → List BlockCalls
  | [] => [⟨connector, []⟩]
  | .combine o :: steps => ⟨connector, []⟩ :: cut (some o) steps
  | c :: steps => (cut connector steps).modifyHead fun s => { s with calls := c :: s.calls }

namespace Cuts

variable {k : Option SetOperator} {steps : List SelectStep} {ss : List BlockCalls}

theorem cons {c : SelectStep} (hc : c.operator? = none) (h : Cuts k steps ss) :
    Cuts k (c :: steps) (ss.modifyHead fun s => { s with calls := c :: s.calls }) := by
  cases h with
  | last hcalls => exact .last (List.forall_mem_cons.mpr ⟨hc, hcalls⟩)
  | next hcalls h => exact .next (List.forall_mem_cons.mpr ⟨hc, hcalls⟩) h

theorem ofCut (k : Option SetOperator) (steps : List SelectStep) : Cuts k steps (cut k steps) := by
  induction steps generalizing k with
  | nil => exact .last (List.forall_mem_nil _)
  | cons c steps ih =>
    cases c with
    | combine o => exact .next (List.forall_mem_nil _) (ih (some o))
    | _ => exact .cons rfl (ih k)

theorem drafts (h : Cuts k steps ss) : ∀ s ∈ ss, s.Drafts s.block := by
  induction h with
  | last hcalls => exact List.forall_mem_singleton.mpr (drafts_block _ hcalls)
  | next hcalls _ ih => exact List.forall_mem_cons.mpr ⟨drafts_block _ hcalls, ih⟩

theorem blocks (h : Cuts k steps ss) {d : SelectDraft} (hd : d.current = .opened k) :
    (steps.foldl SelectDraft.step d).build.blocks = d.closed ++ ss.map block := by
  induction h generalizing d with
  | @last k calls hcalls =>
    rw [SelectDraft.build, SelectStep.closed_foldl hcalls]
    rw [current_foldl_eq_block ⟨k, calls⟩ hd, List.map_singleton]
  | @next k calls steps o ss hcalls _ ih =>
    rw [List.foldl_append, List.foldl_cons, ih rfl]
    change ((calls.foldl SelectDraft.step d).closed ++ [_]) ++ _ = _
    rw [SelectStep.closed_foldl hcalls, current_foldl_eq_block ⟨k, calls⟩ hd]
    rw [List.map_cons, List.append_assoc, List.singleton_append]

end Cuts

end BlockCalls

namespace SelectDraft

theorem run_concat (steps : List SelectStep) (c : SelectStep) :
    run (steps ++ [c]) = (run steps).step c :=
  List.foldl_append ..

theorem orderBy_run (steps : List SelectStep) :
    (run steps).orderBy = (last? SelectStep.orderBy? steps).getD [] := by
  induction steps using List.reverseRecOn with
  | nil => rfl
  | append_singleton steps c ih =>
    rw [run_concat, SelectStep.last?_concat]
    cases c with
    | join kind u a criteria => cases a <;> exact ih
    | _ => first | rfl | exact ih

/-- Row count and style come from one call, so that they never drift apart. -/
theorem paging_run (steps : List SelectStep) :
    (run steps).paging = ⟨(last? SelectStep.rows? steps).map Prod.fst,
      (last? SelectStep.rows? steps).map Prod.snd, last? SelectStep.offset? steps⟩ := by
  induction steps using List.reverseRecOn with
  | nil => rfl
  | append_singleton steps c ih =>
    rw [run_concat, SelectStep.last?_concat, SelectStep.last?_concat]
    cases c with
    | join kind u a criteria => cases a <;> exact ih
    | limit n => exact congrArg (PagingDraft.withLimit · n) ih
    | fetchFirst n => exact congrArg (PagingDraft.withFetchFirst · n) ih
    | offset n => exact congrArg (PagingDraft.withOffset · n) ih
    | _ => exact ih

/-- A run builds one block for each of its segments, drafted by the calls of that segment alone, and
takes order and paging from the last calls of all. -/
theorem build_run (steps : List SelectStep) :
    BlockCalls.Cuts none steps (BlockCalls.cut none steps) ∧
      (run steps).build.blocks = (BlockCalls.cut none steps).map BlockCalls.block ∧
      (∀ s ∈ BlockCalls.cut none steps, s.Drafts s.block) ∧
      (run steps).build.orderBy = (last? SelectStep.orderBy? steps).filter (!·.isEmpty) ∧
      (run steps).build.paging = SelectStep.paging? steps := by
  have cuts := BlockCalls.Cuts.ofCut none steps
  refine ⟨cuts, cuts.blocks rfl, cuts.drafts, ?_, ?_⟩
  · rw [build, presentOrder, orderBy_run]
    cases last? SelectStep.orderBy? steps with
    | none => rfl
    | some items => cases items <;> rfl
  · rw [build, paging_run, SelectStep.paging?]
    cases last? SelectStep.rows? steps <;> cases last? SelectStep.offset? steps <;> rfl

end SelectDraft

end SqlStatement
