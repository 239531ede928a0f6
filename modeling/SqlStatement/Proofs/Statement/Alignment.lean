import SqlStatement.Proofs.Statement.Prune
import SqlStatement.Proofs.Statement.Strategies

/-! # Columns and values of an insert

An insert of records or values lists the columns of its mappings and, for each record, a group of
their contents. Columns are listed as they come. Contents are joined, and a content without text
leaves no gap: such a group has fewer phrases than there are columns.
-/

namespace SqlStatement

open Rendering

namespace Phrase

theorem length_intercalate (separator : String) (texts : List String) :
    (separator.intercalate texts).length =
      (texts.map String.length).sum + (texts.length - 1) * separator.length := by
  cases texts with
  | nil => simp
  | cons t texts =>
    induction texts generalizing t with
    | nil => simp
    | cons u texts ih =>
      have hu := ih u
      simp only [String.intercalate_cons_cons, String.length_append, List.map_cons, List.sum_cons,
        List.length_cons, Nat.add_sub_cancel, Nat.add_mul] at hu ⊢
      omega

theorem sum_length_filter (texts : List String) :
    ((texts.filter (· ≠ "")).map String.length).sum = (texts.map String.length).sum := by
  induction texts with
  | nil => rfl
  | cons t texts ih =>
    rcases eq_or_ne t "" with rfl | ht
    · simpa using ih
    · simpa [ht] using ih

/-- Leaving out empty texts makes no difference where there are none, or where there is only one
text. -/
theorem joined_eq_intercalate_iff {separator : String} (hs : separator ≠ "") (texts : List String) :
    joined separator texts = separator.intercalate texts ↔
      (∀ t ∈ texts, t ≠ "") ∨ texts.length ≤ 1 := by
  constructor
  · intro h
    by_contra hn
    rw [not_or, not_le] at hn
    obtain ⟨hne, hlen⟩ := hn
    push Not at hne
    obtain ⟨t, ht, rfl⟩ := hne
    -- The two differ in length, by the separators that empty texts would have brought.
    have hl := congrArg String.length h
    rw [joined, length_intercalate, length_intercalate, sum_length_filter, Nat.add_left_cancel_iff,
      Nat.mul_left_inj (by simpa using hs)] at hl
    have hf : (texts.filter (· ≠ "")).length < texts.length :=
      List.length_filter_lt_length_iff_exists.2 ⟨"", ht, by simp⟩
    omega
  · rintro (h | h)
    · have hf : texts.filter (· ≠ "") = texts := List.filter_eq_self.2 (by simpa using h)
      rw [joined, hf]
    · rcases texts with _ | ⟨t, _ | ⟨u, texts⟩⟩
      · rfl
      · rw [joined_singleton, String.intercalate_singleton]
      · simp at h

theorem length_wordings (strategy : Strategy) (n : UInt32) (ps : List Phrase) :
    (wordings strategy n ps).length = ps.length := by
  induction ps generalizing n with
  | nil => rfl
  | cons p ps ih => rw [wordings, List.length_cons, List.length_cons, ih]

theorem faults_fail_ne_nil {strategy : Strategy} (e : RenderError) :
    (fail e).faults strategy ≠ [] := List.cons_ne_nil e []

theorem wording_case_ne_empty {strategy : Strategy} {isEmpty : Bool} {opening : Phrase}
    {branches otherwise : List Phrase} {n : UInt32}
    (hf : (if isEmpty then fail .emptyCase
      else caseWords opening branches otherwise).faults strategy = [])
    (ho : opening.wording strategy n ≠ "") :
    (if isEmpty then fail .emptyCase
      else caseWords opening branches otherwise).wording strategy n ≠ "" := by
  cases isEmpty with
  | true => exact (faults_fail_ne_nil _ hf).elim
  | false => exact joined_cons_ne_empty ho _

end Phrase

theorem Case.wording_ne_empty {strategy : Strategy} {σ : Scopes} {c : Case}
    (hf : (c.phrase σ).faults strategy = []) (n : UInt32) :
    (c.phrase σ).wording strategy n ≠ "" := by
  cases c with
  | searched branches otherwise =>
    rw [Case.phrase] at hf ⊢
    exact Phrase.wording_case_ne_empty hf (by simp [Phrase.wording])
  | simple operand branches otherwise =>
    rw [Case.phrase] at hf ⊢
    exact Phrase.wording_case_ne_empty hf (by simp)

namespace Expr

/-- Nothing is written of the expression: it is an empty text, or a column without a name. -/
def isMute : Expr → Bool
  | column c => c.qualifier.isNone && c.name.isEmpty
  | constant text _ => text.isEmpty
  | _ => false

theorem wording_eq_empty_iff {strategy : Strategy} {e : Expr}
    (hf : (e.phrase []).faults strategy = []) (n : UInt32) :
    (e.phrase []).wording strategy n = "" ↔ e.isMute = true := by
  cases e with
  | column c =>
    cases hq : c.qualifier <;>
      simp [Expr.phrase, Phrase.wording, Scopes.columnName, isMute, hq]
  | aggregate f argument label => cases f <;> simp [Expr.phrase, isMute, Aggregate.opening]
  | function name arguments label => simp [Expr.phrase, isMute]
  | constant text label => simp [Expr.phrase, Phrase.wording, isMute]
  | stringConstant text label =>
    simp [Expr.phrase, Phrase.wording, isMute, Text.quote_ne_empty]
  | case expression label =>
    rw [Expr.phrase] at hf ⊢
    simp [isMute, Case.wording_ne_empty hf n]

end Expr

namespace Mapping

def isMute (m : Mapping) : Bool :=
  match m.content with
  | .constant text => text.isEmpty
  | .expr e => e.isMute
  | _ => false

/-- Where a mapping is written, a strategy with visible placeholders leaves a gap only for a mute
content. -/
theorem wording_eq_empty_iff {strategy : Strategy} (hv : strategy.Visible) {mode : RecordMode}
    {kind : StatementKind} {m : Mapping} {p : Phrase} (hp : m.phrase? [] mode kind = some p)
    (hf : p.faults strategy = []) (n : UInt32) :
    p.wording strategy n = "" ↔ m.isMute = true := by
  obtain ⟨target, content⟩ := m
  cases content with
  | absent => cases hp
  | null =>
    obtain rfl := Option.some.inj hp
    simp [Phrase.wording, isMute]
  | constant text =>
    obtain rfl := Option.some.inj hp
    simp [Phrase.wording, isMute]
  | stringConstant text =>
    obtain rfl := Option.some.inj hp
    simp [Phrase.wording, isMute, Text.quote_ne_empty]
  | property name =>
    obtain rfl := Option.some.inj hp
    cases mode with
    | row => simp [Phrase.wording, isMute, hv.record]
    | batch => simp [Phrase.wording, isMute, hv.record]
    | indexed path => simp [Phrase.wording, isMute, hv.indexedRecord]
    | none => exact (Phrase.faults_fail_ne_nil _ hf).elim
  | value v =>
    obtain rfl := Option.some.inj hp
    split at hf
    · rename_i ha
      simp [ha, Phrase.value, Phrase.wording, isMute, hv.parameter]
    · exact (Phrase.faults_fail_ne_nil _ hf).elim
  | supplied s =>
    obtain rfl := Option.some.inj hp
    split at hf
    · rename_i ha
      simp [ha, Phrase.wording, isMute, hv.parameter]
    · exact (Phrase.faults_fail_ne_nil _ hf).elim
  | expr e =>
    obtain rfl := Option.some.inj hp
    split at hf
    · rename_i ha
      rw [if_pos ha]
      exact Expr.wording_eq_empty_iff hf n
    · exact (Phrase.faults_fail_ne_nil _ hf).elim
  | subselect query =>
    obtain rfl := Option.some.inj hp
    split at hf
    · rename_i ha
      simp [ha, isMute]
    · exact (Phrase.faults_fail_ne_nil _ hf).elim

def Contributes (mode : RecordMode) (kind : StatementKind) (m : Mapping) (p : Phrase) : Prop :=
  m.phrase? [] mode kind = some p

theorem forall_wordings_ne_empty_iff {strategy : Strategy} (hv : strategy.Visible)
    {mode : RecordMode} {kind : StatementKind} {ms : List Mapping} {ps : List Phrase}
    (h : List.Forall₂ (Contributes mode kind) ms ps) (hf : ∀ p ∈ ps, p.faults strategy = [])
    (n : UInt32) :
    (∀ t ∈ Phrase.wordings strategy n ps, t ≠ "") ↔ ∀ m ∈ ms, m.isMute = false := by
  induction h generalizing n with
  | nil => simp [Phrase.wordings]
  | cons hm _ ih =>
    rw [List.forall_mem_cons] at hf
    obtain ⟨hp, hps⟩ := hf
    rw [Phrase.wordings, List.forall_mem_cons, List.forall_mem_cons, ih hps, Ne,
      wording_eq_empty_iff hv hm hp, Bool.not_eq_true]

end Mapping

namespace RowPhrase

variable {strategy : Strategy}

theorem forall₂_contents (mappings : List Mapping) (mode : RecordMode) (kind : StatementKind) :
    List.Forall₂ (Mapping.Contributes mode kind) (mappings.filter (!·.isAbsent))
      (ofMappings mappings mode kind).contents := by
  rw [contents_ofMappings]
  induction mappings with
  | nil => exact .nil
  | cons m mappings ih =>
    cases ha : m.isAbsent with
    | true =>
      have hm : m.phrase? [] mode kind = none := Mapping.phrase?_eq_none_iff.2 ha
      rwa [List.filterMap_cons_none hm, List.filter_cons_of_neg (by simp [ha])]
    | false =>
      have hne : m.phrase? [] mode kind ≠ none := by
        rw [Ne, Mapping.phrase?_eq_none_iff, ha]
        exact Bool.false_ne_true
      obtain ⟨p, hm⟩ := Option.ne_none_iff_exists'.1 hne
      rw [List.filterMap_cons_some hm, List.filter_cons_of_pos (by simp [ha])]
      exact .cons hm ih

def texts (strategy : Strategy) (n : UInt32) : List RowPhrase → List (List String)
  | [] => []
  | r :: rows => Phrase.wordings strategy n r.contents ::
      texts strategy (n + .ofNat (r.contents.flatMap Phrase.bindings).length) rows

theorem length_texts (n : UInt32) (rows : List RowPhrase) :
    (texts strategy n rows).length = rows.length := by
  induction rows generalizing n with
  | nil => rfl
  | cons r rows ih => rw [texts, List.length_cons, List.length_cons, ih]

theorem forall_mem_texts {P : List String → Prop} {rows : List RowPhrase}
    (h : ∀ r ∈ rows, ∀ n, P (Phrase.wordings strategy n r.contents)) (n : UInt32) :
    ∀ ts ∈ texts strategy n rows, P ts := by
  induction rows generalizing n with
  | nil => simp [texts]
  | cons r rows ih =>
    rw [List.forall_mem_cons] at h
    rw [texts, List.forall_mem_cons]
    exact ⟨h.1 n, ih h.2 _⟩

theorem joined_groups (n : UInt32) (rows : List RowPhrase) :
    Phrase.joined ", " (Phrase.wordings strategy n (rows.map group)) =
      ", ".intercalate ((texts strategy n rows).map fun ts =>
        "(" ++ Phrase.joined ", " ts ++ ")") := by
  have hw : Phrase.wordings strategy n (rows.map group) =
      (texts strategy n rows).map fun ts => "(" ++ Phrase.joined ", " ts ++ ")" := by
    induction rows generalizing n with
    | nil => rfl
    | cons r rows ih =>
      have hr : r.group.wording strategy n =
          "(" ++ Phrase.joined ", " (Phrase.wordings strategy n r.contents) ++ ")" := by
        rw [group, Phrase.wording_between, Phrase.wording]
      have hb : r.group.bindings = r.contents.flatMap Phrase.bindings := by simp [group]
      rw [List.map_cons, Phrase.wordings, texts, List.map_cons, hr, hb, ih]
  rw [hw, Phrase.joined_eq_intercalate_iff (by decide)]
  left
  intro t ht
  obtain ⟨ts, -, rfl⟩ := List.mem_map.1 ht
  simp

end RowPhrase

namespace Phrase

variable {strategy : Strategy}

theorem ofTable_of_faultless {kind : StatementKind} {table : Option Table} {body : Table → Phrase}
    (hf : (ofTable kind table body).faults strategy = []) :
    ∃ t, table = some t ∧ ∀ body', ofTable kind table body' = body' t := by
  rcases table with _ | t
  · exact (faults_fail_ne_nil _ hf).elim
  · rw [ofTable] at hf
    split at hf
    next => exact (faults_fail_ne_nil _ hf).elim
    next ht => exact ⟨t, rfl, fun body' => if_neg ht⟩

theorem insertion_of_faultless {t : Table} {columns : List String} {groups : List Phrase}
    (hf : (insertion t columns groups).faults strategy = []) :
    columns ≠ [] ∧ insertion t columns groups =
      after ("insert into " ++ t.name ++ " " ++ columnList columns ++ " values ")
        (join ", " groups) := by
  rw [insertion] at hf ⊢
  by_cases hc : columns.isEmpty
  · rw [if_pos hc] at hf
    exact (faults_fail_ne_nil _ hf).elim
  · exact ⟨by simpa using hc, if_neg hc⟩

end Phrase

/-- What an insert writes: its mappings, once for each of the modes. -/
structure RowPlan where
  insertion : Insertion
  modes : List RecordMode
  kind : StatementKind

namespace RowPlan

def written (plan : RowPlan) : List Mapping := plan.insertion.mappings.filter (!·.isAbsent)

def columns (plan : RowPlan) : List String := plan.written.map (·.target.name)

def row (plan : RowPlan) (mode : RecordMode) : RowPhrase :=
  .ofMappings plan.insertion.mappings mode plan.kind

def rows (plan : RowPlan) : List RowPhrase := plan.modes.map plan.row

end RowPlan

namespace Model

variable {ρ : Type} {m : Model ρ} {plan : RowPlan}

def rowPlan? : Model ρ → Option RowPlan
  | insert i => some ⟨i.insertion, [.row], .insert⟩
  | multiRowInsert i =>
    let path (position : Nat) : RecordMode := .indexed ("records[" ++ toString position ++ "]")
    some ⟨i.insertion, (List.range i.records.length).map path, .insert⟩
  | batchInsert i => some ⟨i.insertion, [.batch], .batchInsert⟩
  | generalInsert i => some ⟨i.insertion, [.none], .insert⟩
  | _ => none

theorem phrase?_of_rowPlan (h : m.rowPlan? = some plan) :
    m.phrase? = some (.ofTable .insert plan.insertion.table fun t =>
      if plan.modes.isEmpty then .fail (.emptyRecords t.name)
      else .insertion t plan.columns (plan.rows.map RowPhrase.group)) := by
  have hc (i : Insertion) (mode : RecordMode) (kind : StatementKind) :
      (RowPhrase.ofMappings i.mappings mode kind).columns =
        (i.mappings.filter (!·.isAbsent)).map (·.target.name) :=
    RowPhrase.columns_ofMappings i.mappings mode kind
  cases m with
  | insert i =>
    obtain rfl := Option.some.inj h
    simp only [phrase?, Insert.phrase, Insertion.phrase, hc]
    rfl
  | batchInsert i =>
    obtain rfl := Option.some.inj h
    simp only [phrase?, BatchInsert.phrase, Insertion.phrase, hc]
    rfl
  | generalInsert i =>
    obtain rfl := Option.some.inj h
    simp only [phrase?, GeneralInsert.phrase, Insertion.phrase, hc]
    rfl
  | multiRowInsert i =>
    obtain rfl := Option.some.inj h
    have he : (List.range i.records.length).isEmpty = i.records.isEmpty := by
      cases i.records <;> simp [List.range_succ]
    simp only [phrase?, MultiRowInsert.phrase, MultiRowInsert.row, hc, RowPlan.rows, List.isEmpty_map,
      List.map_map, he]
    rfl
  | select _ | multiSelect _ | whereClause _ _ | update _ | delete _ | insertSelect _ => cases h

/-- An insert that can be written has a table, and a row for each mode, none of whose contents is at
fault. -/
theorem insertion_of_faultless {strategy : Strategy} {p : Phrase}
    (h : m.rowPlan? = some plan) (hp : m.phrase? = some p) (hf : p.faults strategy = []) :
    ∃ table, plan.insertion.table = some table ∧ plan.columns ≠ [] ∧
      p = .after ("insert into " ++ table.name ++ " " ++ Phrase.columnList plan.columns ++
        " values ") (.join ", " (plan.rows.map RowPhrase.group)) ∧
      ∀ row ∈ plan.rows, ∀ q ∈ row.contents, q.faults strategy = [] := by
  obtain rfl := Option.some.inj (hp.symm.trans (phrase?_of_rowPlan h))
  obtain ⟨table, ht, he⟩ := Phrase.ofTable_of_faultless hf
  rw [he] at hf ⊢
  by_cases hm : plan.modes.isEmpty
  · rw [if_pos hm] at hf
    exact (Phrase.faults_fail_ne_nil _ hf).elim
  · rw [if_neg hm] at hf ⊢
    obtain ⟨hc, he⟩ := Phrase.insertion_of_faultless hf
    rw [he] at hf ⊢
    exact ⟨table, ht, hc, rfl, by simpa [RowPhrase.group] using hf⟩

/-- A finished insert names the columns of its mappings, in order, and has a group for each of its
modes, made of one text for each mapping that is not left out. The texts of a group are separated
one from the other exactly if no mapping is mute, or if there is a single one: the text of a mute
mapping goes without a separator, and the group has fewer phrases than there are columns. -/
theorem aligned_iff (h : m.rowPlan? = some plan) {strategy : Strategy} (hv : strategy.Visible)
    {s t : Session} {st : Statement} (ho : (m.render strategy).outcome s = (.ok (some st), t)) :
    let groups := RowPhrase.texts strategy 1 plan.rows
    (∃ table, plan.insertion.table = some table ∧
      st.sql = "insert into " ++ table.name ++ " " ++ Phrase.columnList plan.columns ++ " values " ++
        ", ".intercalate (groups.map fun texts => "(" ++ Phrase.joined ", " texts ++ ")")) ∧
    (∀ mode ∈ plan.modes, List.Forall₂ (Mapping.Contributes mode plan.kind) plan.written
      (plan.row mode).contents) ∧
    groups.length = plan.modes.length ∧
    ∀ texts ∈ groups, texts.length = plan.columns.length ∧
      (Phrase.joined ", " texts = ", ".intercalate texts ↔
        (∀ x ∈ plan.written, x.isMute = false) ∨ plan.columns.length = 1) := by
  intro groups
  obtain ⟨p, f, hp, hf, rfl, hw, -⟩ := written_of_outcome ho
  obtain ⟨table, ht, hne, rfl, hrows⟩ := insertion_of_faultless h hp hf
  refine ⟨⟨table, ht, ?_⟩, fun mode _ => RowPhrase.forall₂_contents _ mode plan.kind, ?_, ?_⟩
  · have hx : f.text = _ := hw.text
    rw [Phrase.wording_after, Phrase.wording, RowPhrase.joined_groups] at hx
    exact hx
  · rw [RowPhrase.length_texts, RowPlan.rows, List.length_map]
  · refine RowPhrase.forall_mem_texts (fun row hrow n => ?_) 1
    obtain ⟨mode, -, rfl⟩ := List.mem_map.1 hrow
    have hr : List.Forall₂ (Mapping.Contributes mode plan.kind) plan.written
        (plan.row mode).contents := RowPhrase.forall₂_contents _ mode plan.kind
    have hl : (Phrase.wordings strategy n (plan.row mode).contents).length =
        plan.columns.length := by
      rw [Phrase.length_wordings, ← hr.length_eq, RowPlan.columns, List.length_map]
    have hpos : 0 < plan.columns.length := List.length_pos_iff.2 hne
    refine ⟨hl, ?_⟩
    rw [Phrase.joined_eq_intercalate_iff (by decide), hl,
      Mapping.forall_wordings_ne_empty_iff hv hr (hrows _ hrow)]
    refine or_congr_right ?_
    omega

def twoRows (constant : String) : Model Unit :=
  let t : Table := ⟨⟨0⟩, "t"⟩
  .multiRowInsert ⟨[(), ()], some t, [⟨t.column "a", .constant constant⟩, ⟨t.column "b", .absent⟩,
    ⟨t.column "c", .property "c"⟩]⟩

/-- A text that is not empty, and one that is. -/
theorem aligned_iff_of_twoRows :
    (∃ st t, ((twoRows "0").render .springNamed).outcome {} = (.ok (some st), t) ∧
      st.sql = "insert into t (a, c) values (0, :records[0].c), (0, :records[1].c)" ∧
      ∀ plan ∈ (twoRows "0").rowPlan?, ∀ texts ∈ RowPhrase.texts .springNamed 1 plan.rows,
        Phrase.joined ", " texts = ", ".intercalate texts) ∧
    ∃ st t, ((twoRows "").render .springNamed).outcome {} = (.ok (some st), t) ∧
      ∀ plan ∈ (twoRows "").rowPlan?, ∀ texts ∈ RowPhrase.texts .springNamed 1 plan.rows,
        Phrase.joined ", " texts ≠ ", ".intercalate texts := by
  constructor
  · refine ⟨_, _, rfl, rfl, ?_⟩
    rintro plan hp texts ht
    obtain ⟨-, -, -, h⟩ := aligned_iff hp (.springNamed .all) (s := {}) rfl
    obtain rfl := Option.some.inj hp
    exact (h texts ht).2.2 (.inl (by decide))
  · refine ⟨_, _, rfl, ?_⟩
    rintro plan hp texts ht
    obtain ⟨-, -, -, h⟩ := aligned_iff hp (.springNamed .all) (s := {}) rfl
    obtain rfl := Option.some.inj hp
    rw [Ne, (h texts ht).2]
    decide

/-- Two columns, and one phrase in the group: a column that is set to an empty text leaves no gap
before the next. -/
theorem misaligned_of_empty_constant :
    let t : Table := ⟨⟨0⟩, "t"⟩
    let m : Model Unit := .generalInsert ⟨some t, [⟨t.column "a", .constant ""⟩,
      ⟨t.column "b", .null⟩]⟩
    (m.rowPlan?.map RowPlan.columns = some ["a", "b"]) ∧
      ∀ S ∈ [Strategy.myBatis3, .springNamed, .positional],
        ∃ u, (m.render S).outcome {} = (.ok (some ⟨"insert into t (a, b) values (null)", ∅⟩), u) := by
  refine ⟨rfl, ?_⟩
  rw [List.forall_mem_cons, List.forall_mem_cons, List.forall_mem_singleton]
  exact ⟨⟨_, rfl⟩, ⟨_, rfl⟩, ⟨_, rfl⟩⟩

end Model

end SqlStatement
