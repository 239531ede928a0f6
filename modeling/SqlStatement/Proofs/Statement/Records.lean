import SqlStatement.Proofs.Statement.Alignment

/-! # Inserts of records

One record, a batch and several records in one statement are written from one row of contents, and
what they take from records binds no parameter. They differ in nothing but the placeholders of
properties.
-/

namespace SqlStatement

open Rendering

namespace Phrase

variable {strategy : Strategy} {p : Phrase} {ps : List Phrase} {t : String} {ts : List String}

/-- The phrase is written as this text, whatever number the next parameter has. -/
structure Fixed (strategy : Strategy) (p : Phrase) (t : String) : Prop where
  faults : p.faults strategy = []
  bindings : p.bindings = []
  wording : ∀ n, p.wording strategy n = t

namespace Fixed

theorem text (s : String) : Fixed strategy (.text s) s := ⟨rfl, rfl, fun _ => rfl⟩

theorem join (h : List.Forall₂ (Fixed strategy) ps ts) (separator : String) :
    Fixed strategy (.join separator ps) (joined separator ts) := by
  constructor
  · induction h with
    | nil => rfl
    | cons hp _ ih => simpa [hp.faults] using ih
  · induction h with
    | nil => rfl
    | cons hp _ ih => simpa [hp.bindings] using ih
  · intro n
    rw [Phrase.wording]
    congr 1
    induction h generalizing n with
    | nil => rfl
    | cons hp _ ih => rw [wordings, hp.wording, ih]

theorem between (h : Fixed strategy p t) (before after : String) :
    Fixed strategy (.between before p after) (before ++ t ++ after) where
  faults := by simp [h.faults]
  bindings := by simp [h.bindings]
  wording n := by simp [h.wording]

theorem after (h : Fixed strategy p t) (before : String) :
    Fixed strategy (.after before p) (before ++ t) where
  faults := by simp [h.faults]
  bindings := by simp [h.bindings]
  wording n := by simp [h.wording]

theorem render (h : Fixed strategy p t) (s : Session) :
    ∃ f, (p.render strategy).outcome s = (.ok f, s) ∧ f.text = t ∧ f.parameters.toList = [] := by
  obtain ⟨f, ho, hw⟩ := render_of_faultless h.faults s
  rw [h.bindings, Session.after_nil] at ho
  refine ⟨f, ho, hw.text.trans (h.wording s.next), ?_⟩
  rw [hw.entries, h.bindings]
  rfl

theorem statement (h : Fixed strategy p t) (kind : StatementKind) (s : Session) :
    ∃ parameters u, (p.statement kind strategy).outcome s = (.ok ⟨t, parameters⟩, u) ∧
      parameters.toList = [] := by
  obtain ⟨f, ho, rfl, hp⟩ := h.render { s with next := 1 }
  rw [outcome_statement, ho]
  exact ⟨f.parameters, _, rfl, hp⟩

theorem recordStatement (h : Fixed strategy p t) (kind : StatementKind) (s : Session) :
    ∃ u, (p.recordStatement kind strategy).outcome s = (.ok t, u) := by
  obtain ⟨f, ho, rfl, -⟩ := h.render { s with next := 1 }
  rw [outcome_recordStatement, ho]
  exact ⟨_, rfl⟩

end Fixed

/-- A statement that takes its values from records alone discards no parameter. -/
theorem parameters_of_recordStatement {ρ : Type} (hb : Binds strategy [p] [])
    {kind : StatementKind} {records : List ρ} {s u : Session} {r : RecordsStatement ρ}
    (h : Rendering.outcome (do
      let sql ← p.recordStatement kind strategy
      return ⟨sql, records⟩) s = (.ok r, u)) :
    ∃ f v, (p.render strategy).outcome { s with next := 1 } = (.ok f, v) ∧ r.sql = f.text ∧
      f.parameters.toList = [] := by
  rw [outcome_bind, outcome_recordStatement] at h
  rcases p.outcome_render strategy { s with next := 1 } with ⟨hf, f, ho, hw⟩ | ⟨e, v, -, ho⟩
  · rw [ho] at h
    cases h
    have hp : p.bindings = [] := by simpa using hb (by simpa using hf)
    refine ⟨f, _, ho, rfl, ?_⟩
    rw [hw.entries, hp]
    rfl
  · rw [ho] at h
    cases h

end Phrase

/-- The placeholder of a property. Without a record there are no properties. -/
def RecordMode.placeholder (strategy : Strategy) : RecordMode → Column → String → String
  | indexed path => fun column name => strategy.indexedRecord column path name
  | row | batch | none => strategy.record

namespace Mapping

/-- A property, a null or a text that is not empty; or a column that is left out. -/
def isFixed (m : Mapping) : Bool :=
  match m.content with
  | .absent | .null | .stringConstant _ | .property _ => true
  | .constant text => text ≠ ""
  | .value _ | .supplied _ | .expr _ | .subselect _ => false

/-- The text of such a content, where properties have the given placeholders. -/
def fixedText? (property : Column → String → String) (m : Mapping) : Option String :=
  match m.content with
  | .null => some "null"
  | .constant text => some text
  | .stringConstant text => some (Text.quote text)
  | .property name => some (property m.target name)
  | .absent | .value _ | .supplied _ | .expr _ | .subselect _ => none

variable {strategy : Strategy} {mode : RecordMode} {kind : StatementKind}

theorem related_phrase? {m : Mapping} (hm : m.isFixed = true) (hmode : mode ≠ .none) :
    Option.Rel (Phrase.Fixed strategy) (m.phrase? [] mode kind)
      (m.fixedText? (mode.placeholder strategy)) := by
  obtain ⟨target, content⟩ := m
  cases content with
  | absent => exact .none
  | null => exact .some (.text "null")
  | constant text => exact .some (.text text)
  | stringConstant text => exact .some (.text _)
  | property name =>
    cases mode with
    | row | batch | indexed => exact .some ⟨rfl, rfl, fun _ => rfl⟩
    | none => exact absurd rfl hmode
  | value | supplied | expr | subselect => cases hm

theorem fixedText?_ne_empty (hv : strategy.Visible) {m : Mapping} (hm : m.isFixed = true)
    (mode : RecordMode) : ∀ t ∈ m.fixedText? (mode.placeholder strategy), t ≠ "" := by
  obtain ⟨target, content⟩ := m
  intro t ht
  cases content with
  | null =>
    cases ht
    decide
  | constant text =>
    cases ht
    simpa [isFixed] using hm
  | stringConstant text =>
    cases ht
    exact Text.quote_ne_empty text
  | property name =>
    cases ht
    cases mode with
    | indexed path => exact hv.indexedRecord target path name
    | row | batch | none => exact hv.record target name
  | absent | value | supplied | expr | subselect => cases ht

end Mapping

namespace Insertion

def heading (i : Insertion) (t : Table) : String :=
  "insert into " ++ t.name ++ " " ++
    Phrase.columnList ((i.mappings.filter (!·.isAbsent)).map (·.target.name)) ++ " values "

def row (i : Insertion) (property : Column → String → String) : String :=
  "(" ++ ", ".intercalate (i.mappings.filterMap (Mapping.fixedText? property)) ++ ")"

variable {strategy : Strategy} {i : Insertion} {mode : RecordMode} {kind : StatementKind}

theorem fixed_contents {mappings : List Mapping} (hm : ∀ m ∈ mappings, m.isFixed = true)
    (hmode : mode ≠ .none) :
    List.Forall₂ (Phrase.Fixed strategy) (mappings.filterMap (·.phrase? [] mode kind))
      (mappings.filterMap (Mapping.fixedText? (mode.placeholder strategy))) := by
  induction mappings with
  | nil => exact .nil
  | cons m mappings ih =>
    rw [List.forall_mem_cons] at hm
    have hr : Option.Rel (Phrase.Fixed strategy) (m.phrase? [] mode kind)
        (m.fixedText? (mode.placeholder strategy)) := Mapping.related_phrase? hm.1 hmode
    rw [List.filterMap_cons, List.filterMap_cons]
    generalize m.phrase? [] mode kind = p, m.fixedText? (mode.placeholder strategy) = t at hr ⊢
    cases hr with
    | none => exact ih hm.2
    | some hp => exact .cons hp (ih hm.2)

theorem fixed_group (hv : strategy.Visible) (hm : ∀ m ∈ i.mappings, m.isFixed = true)
    (hmode : mode ≠ .none) (kind : StatementKind) :
    Phrase.Fixed strategy (RowPhrase.ofMappings i.mappings mode kind).group
      (i.row (mode.placeholder strategy)) := by
  have hj : Phrase.joined ", " (i.mappings.filterMap
      (Mapping.fixedText? (mode.placeholder strategy))) = ", ".intercalate (i.mappings.filterMap
      (Mapping.fixedText? (mode.placeholder strategy))) := by
    apply (Phrase.joined_eq_intercalate_iff (by decide) _).2
    left
    intro t ht
    obtain ⟨m, hmem, htext⟩ := List.mem_filterMap.1 ht
    exact Mapping.fixedText?_ne_empty hv (hm m hmem) mode t htext
  rw [RowPhrase.group, RowPhrase.contents_ofMappings, row, ← hj]
  exact ((Phrase.Fixed.join (fixed_contents hm hmode) ", ").between "(" ")")

theorem fixed_insertion (hv : strategy.Visible) {t : Table}
    (hm : ∀ m ∈ i.mappings, m.isFixed = true) (hw : ∃ m ∈ i.mappings, m.isAbsent = false)
    {modes : List RecordMode} (hmodes : ∀ mode ∈ modes, mode ≠ .none) (kind : StatementKind) :
    Phrase.Fixed strategy
      (.insertion t ((i.mappings.filter (!·.isAbsent)).map (·.target.name))
        (modes.map fun mode => (RowPhrase.ofMappings i.mappings mode kind).group))
      (i.heading t ++
        ", ".intercalate (modes.map fun mode => i.row (mode.placeholder strategy))) := by
  have hc : ((i.mappings.filter (!·.isAbsent)).map (·.target.name)).isEmpty = false := by
    obtain ⟨m, hmem, ha⟩ := hw
    have hf : m ∈ i.mappings.filter (!·.isAbsent) := by simp [hmem, ha]
    rw [List.isEmpty_map, ← Bool.not_eq_true, List.isEmpty_iff]
    exact List.ne_nil_of_mem hf
  have hg : List.Forall₂ (Phrase.Fixed strategy)
      (modes.map fun mode => (RowPhrase.ofMappings i.mappings mode kind).group)
      (modes.map fun mode => i.row (mode.placeholder strategy)) := by
    rw [List.forall₂_map_left_iff, List.forall₂_map_right_iff, List.forall₂_same]
    exact fun mode hmem => fixed_group hv hm (hmodes mode hmem) kind
  have hj : Phrase.joined ", " (modes.map fun mode => i.row (mode.placeholder strategy)) =
      ", ".intercalate (modes.map fun mode => i.row (mode.placeholder strategy)) := by
    apply (Phrase.joined_eq_intercalate_iff (by decide) _).2
    left
    intro t ht
    obtain ⟨mode, -, rfl⟩ := List.mem_map.1 ht
    simp [row]
  rw [Phrase.insertion, hc, if_neg Bool.false_ne_true, ← hj]
  exact (Phrase.Fixed.join hg ", ").after _

end Insertion

/-- The insertion has a table with a name and a column that is not left out, and what it inserts is
fixed but for the properties of records. -/
structure Insertion.Regular (i : Insertion) (t : Table) : Prop where
  table : i.table = some t
  named : Text.isBlank t.name = false
  fixed : ∀ m ∈ i.mappings, m.isFixed = true
  written : ∃ m ∈ i.mappings, m.isAbsent = false

section Agreement

variable {ρ : Type} {strategy : Strategy} {i : Insertion} {t : Table}

theorem Insertion.Regular.ofTable (h : i.Regular t) (kind : StatementKind) (body : Table → Phrase) :
    Phrase.ofTable kind i.table body = body t := by
  rw [h.table, Phrase.ofTable, h.named, if_neg Bool.false_ne_true]

theorem Insertion.Regular.fixed_phrase (h : i.Regular t) (hv : strategy.Visible) {mode : RecordMode}
    (hmode : mode ≠ .none) (kind : StatementKind) :
    Phrase.Fixed strategy (i.phrase mode kind)
      (i.heading t ++ i.row (mode.placeholder strategy)) := by
  have hf := fixed_insertion (t := t) hv h.fixed h.written (List.forall_mem_singleton.2 hmode) kind
  rw [Insertion.phrase, h.ofTable]
  simpa only [RowPhrase.columns_ofMappings, List.map_cons, List.map_nil,
    String.intercalate_singleton] using hf

theorem MultiRowInsert.fixed_phrase {records : List ρ} (h : i.Regular t) (hv : strategy.Visible)
    (hr : records ≠ []) :
    Phrase.Fixed strategy (⟨records, i⟩ : MultiRowInsert ρ).phrase
      (i.heading t ++ ", ".intercalate ((List.range records.length).map fun position =>
        i.row fun column name =>
          strategy.indexedRecord column ("records[" ++ toString position ++ "]") name)) := by
  have he : records.isEmpty = false := by simpa using hr
  have hmodes : ∀ mode ∈ (List.range records.length).map fun position =>
      RecordMode.indexed ("records[" ++ toString position ++ "]"), mode ≠ .none := by simp
  have hf := Insertion.fixed_insertion (t := t) hv h.fixed h.written hmodes .insert
  rw [MultiRowInsert.phrase, h.ofTable, he, if_neg Bool.false_ne_true]
  rw [List.map_map, List.map_map] at hf
  simp only [MultiRowInsert.row, RowPhrase.columns_ofMappings]
  exact hf

/-- Over records, a regular insertion is written alike for one record and for a batch, and several
records repeat the row with placeholders of their own. Records come out as they went in. Whatever
is inserted, a statement over several records or a batch has no parameter to discard. -/
theorem Insertion.record_inserts_agree :
    (∀ (i : Insertion) (t : Table), i.Regular t → ∀ strategy : Strategy, strategy.Visible →
      ∀ (row : ρ) (records : List ρ), records ≠ [] → ∀ s : Session,
        let sql := i.heading t ++ i.row strategy.record
        (∃ parameters u, ((⟨row, i⟩ : Insert ρ).render strategy).outcome s =
          (.ok ⟨sql, parameters, row⟩, u) ∧ parameters.toList = []) ∧
        (∃ b u, ((⟨records, i⟩ : BatchInsert ρ).render strategy).outcome s = (.ok b, u) ∧
          b.sql = sql ∧ b.records = records ∧ b.statements.map (·.row) = records ∧
          ∀ x ∈ b.statements, x.sql = sql ∧ x.parameters = ∅) ∧
        ∃ u, ((⟨records, i⟩ : MultiRowInsert ρ).render strategy).outcome s =
          (.ok ⟨i.heading t ++ ", ".intercalate ((List.range records.length).map fun position =>
            i.row fun column name =>
              strategy.indexedRecord column ("records[" ++ toString position ++ "]") name),
            records⟩, u)) ∧
    (∀ (i : MultiRowInsert ρ) (strategy : Strategy) (s u : Session) (r : RecordsStatement ρ),
      (i.render strategy).outcome s = (.ok r, u) →
        ∃ f v, (i.phrase.render strategy).outcome { s with next := 1 } = (.ok f, v) ∧
          r.sql = f.text ∧ f.parameters.toList = []) ∧
    ∀ (i : BatchInsert ρ) (strategy : Strategy) (s u : Session) (r : RecordsStatement ρ),
      (i.render strategy).outcome s = (.ok r, u) →
        ∃ f v, (i.phrase.render strategy).outcome { s with next := 1 } = (.ok f, v) ∧
          r.sql = f.text ∧ f.parameters.toList = [] := by
  refine ⟨?_, fun i _ _ _ _ => Phrase.parameters_of_recordStatement i.binds_nothing,
    fun i _ _ _ _ => Phrase.parameters_of_recordStatement i.binds_nothing⟩
  intro i t h strategy hv row records hr s sql
  refine ⟨?_, ?_, ?_⟩
  · have hf : Phrase.Fixed strategy (⟨row, i⟩ : Insert ρ).phrase sql :=
      h.fixed_phrase hv (by decide) .insert
    obtain ⟨parameters, u, ho, hp⟩ := hf.statement .insert s
    refine ⟨parameters, u, ?_, hp⟩
    rw [Insert.render, outcome_bind_of_ok _ ho]
    rfl
  · have hf : Phrase.Fixed strategy (⟨records, i⟩ : BatchInsert ρ).phrase sql :=
      h.fixed_phrase hv (by decide) .batchInsert
    obtain ⟨u, ho⟩ := hf.recordStatement .batchInsert s
    refine ⟨⟨sql, records⟩, u, ?_, rfl, rfl, ?_, ?_⟩
    · rw [BatchInsert.render, outcome_bind_of_ok _ ho]
      rfl
    · rw [RecordsStatement.statements, List.map_map]
      exact List.map_id records
    · intro x hx
      obtain ⟨r, -, rfl⟩ := List.mem_map.1 hx
      exact ⟨rfl, rfl⟩
  · obtain ⟨u, ho⟩ := (MultiRowInsert.fixed_phrase h hv hr).recordStatement .multiRowInsert s
    refine ⟨u, ?_⟩
    rw [MultiRowInsert.render, outcome_bind_of_ok _ ho]
    rfl

def people : Insertion :=
  let t : Table := ⟨⟨0⟩, "person"⟩
  { table := some t, mappings := [⟨t.column "id", .property "id"⟩, ⟨t.column "nick", .absent⟩,
      ⟨t.column "name", .stringConstant "anon"⟩, ⟨t.column "born", .null⟩] }

theorem Insertion.record_inserts_agree_of_people :
    people.Regular ⟨⟨0⟩, "person"⟩ ∧
    (∃ parameters u, ((⟨7, people⟩ : Insert Nat).render .springNamed).outcome {} =
      (.ok ⟨"insert into person (id, name, born) values (:id, 'anon', null)", parameters, 7⟩, u)) ∧
    (∃ u, ((⟨[7, 8], people⟩ : MultiRowInsert Nat).render .springNamed).outcome {} =
      (.ok ⟨"insert into person (id, name, born) values " ++
        "(:records[0].id, 'anon', null), (:records[1].id, 'anon', null)", [7, 8]⟩, u)) ∧
    (∃ f v, ((⟨[7, 8], people⟩ : MultiRowInsert Nat).phrase.render .springNamed).outcome {} =
      (.ok f, v) ∧ f.parameters.toList = []) ∧
    ∃ f v, ((⟨[], people⟩ : BatchInsert Nat).phrase.render .springNamed).outcome {} = (.ok f, v) ∧
      f.parameters.toList = [] := by
  have hr : people.Regular ⟨⟨0⟩, "person"⟩ :=
    ⟨rfl, by decide, by decide, _, List.mem_cons_self, rfl⟩
  obtain ⟨ha, hs, hb⟩ := Insertion.record_inserts_agree (ρ := Nat)
  obtain ⟨⟨parameters, u, hi, -⟩, -, w, hm⟩ :=
    ha people _ hr .springNamed (.springNamed .all) 7 [7, 8] (by decide) {}
  obtain ⟨f, v, ho, -, hp⟩ := hs ⟨[7, 8], people⟩ .springNamed {} _ _ rfl
  obtain ⟨g, x, ho', -, hp'⟩ := hb ⟨[], people⟩ .springNamed {} _ _ rfl
  exact ⟨hr, ⟨parameters, u, hi⟩, ⟨w, hm⟩, ⟨f, v, ho, hp⟩, g, x, ho', hp'⟩

end Agreement

end SqlStatement
