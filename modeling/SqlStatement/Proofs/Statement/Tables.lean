import SqlStatement.Proofs.Statement.Failures

/-! # Tables without a name

A block is written only if it starts from a sub-select or from a table with a name, however deep the
block stands. The tables that it joins are not asked for their names: a join with a table whose name
is empty is written as if it had no table.
-/

namespace SqlStatement

open Rendering

namespace Phrase

theorem fails_statement_iff {strategy : Strategy} {p : Phrase} {s : Session} (kind : StatementKind)
    (e : RenderError) :
    (∃ t, (p.statement kind strategy).outcome s = (.error e, t)) ↔
      (p.faults strategy).head? = some e := by
  rw [outcome_statement]
  rcases p.outcome_render strategy { s with next := 1 } with ⟨hf, f, ho, -⟩ | ⟨d, t, hf, ho⟩
  · simp [ho, hf]
  · simp [ho, hf]

end Phrase

namespace QueryBlock

/-- The block starts from nothing, or from a table without a name. -/
def Sourceless (b : QueryBlock) : Prop := ∀ source ∈ b.source, source.isBlank = true

theorem sourceless_of_table {b : QueryBlock} {t : Table} (hs : b.source = some (.table t))
    (ht : Text.isBlank t.name = true) : b.Sourceless := by
  rintro source hsource
  obtain rfl : Source.table t = source := Option.some.inj (hs.symm.trans hsource)
  exact ht

theorem fault?_eq_missingTable_iff {b : QueryBlock} :
    b.fault? = some (.missingTable .select) ↔ b.Sourceless := by
  rw [fault?, Sourceless]
  rcases b.source with _ | source
  · simp
  · by_cases hs : source.isBlank <;> by_cases hc : b.columns = [] <;> simp [hs, hc]

end QueryBlock

namespace Part

variable {strategy : Strategy}

theorem head?_faults_eq_missingTable_iff {x : Part} :
    (x.faults strategy).head? = some (.missingTable .select) ↔ ∃ b, x = block b ∧ b.Sourceless := by
  constructor
  · intro h
    cases x with
    | column c => simp [faults] at h
    | case c => cases hc : c.isBare <;> simp [faults, hc] at h
    | select q => cases hq : q.blocks <;> simp [faults, hq] at h
    | paging p => cases hp : strategy.supports p.style <;> simp [faults, hp] at h
    | block b =>
      rw [faults, Option.head?_toList] at h
      exact ⟨b, rfl, QueryBlock.fault?_eq_missingTable_iff.1 h⟩
  · rintro ⟨b, rfl, hb⟩
    rw [faults, Option.head?_toList]
    exact QueryBlock.fault?_eq_missingTable_iff.2 hb

end Part

namespace Join

variable {strategy : Strategy}

/-- A join of a table is at fault only in its criteria, whatever the table is called. -/
theorem faults_phrase_table (σ : Scopes) (n : Nesting) (kind : JoinKind) (t : Table)
    (criteria : List Criterion) :
    ((⟨kind, .table t, criteria⟩ : Join).phrase σ).faults strategy =
      (Criterion.allSites n criteria).flatMap (Site.faults strategy) := by
  rw [Join.faults_phrase σ n, Join.sites, Source.sites, List.nil_append]

theorem wording_of_empty {σ : Scopes} {t : Table} (hn : t.name = "") (ha : σ.tableAlias t = none)
    (kind : JoinKind) (criteria : List Criterion) (m : UInt32) :
    ((⟨kind, .table t, criteria⟩ : Join).phrase σ).wording strategy m =
      (Phrase.words (.text kind.text ::
        Phrase.clause "on" (Criterion.chain σ criteria).phrase?)).wording strategy m := by
  have ht : σ.tableName t = "" := by rw [Scopes.tableName, ha, hn]
  have hk : kind.text ≠ "" := by cases kind <;> decide
  have hw (text : String) (ps : List Phrase) : Phrase.wordings strategy m (.text text :: ps) =
      text :: Phrase.wordings strategy m ps := by simp [Phrase.wordings, Phrase.wording]
  simp only [Join.phrase, Source.phrase, ht, Phrase.words, Phrase.wording, hw,
    Phrase.joined_cons hk, Phrase.joined_empty_cons]

end Join

namespace Select

theorem head?_faults_eq_missingTable_iff {strategy : Strategy} (q : Select) :
    ((q.phrase []).faults strategy).head? = some (.missingTable .select) ↔
      ∃ before n b after, q.sites {} = before ++ ⟨n, .block b⟩ :: after ∧ b.Sourceless ∧
        ∀ x ∈ before, x.part.Sound strategy.supports := by
  have hs {xs : List Site} : (∀ x ∈ xs, (x.faults strategy).head? = none) ↔
      ∀ x ∈ xs, x.part.Sound strategy.supports :=
    forall₂_congr fun x _ => List.head?_eq_none_iff.trans (x.part.sound_iff strategy).symm
  rw [Select.faults_phrase [] {} q, List.head?_flatMap, List.findSome?_eq_some_iff]
  constructor
  · rintro ⟨before, ⟨n, part⟩, after, hq, hx, hb⟩
    obtain ⟨b, rfl, hl⟩ := Part.head?_faults_eq_missingTable_iff.1 hx
    exact ⟨before, n, b, after, hq, hl, hs.1 hb⟩
  · rintro ⟨before, n, b, after, hq, hl, hb⟩
    exact ⟨before, ⟨n, .block b⟩, after, hq,
      Part.head?_faults_eq_missingTable_iff.2 ⟨b, rfl, hl⟩, hs.2 hb⟩

/-- A select fails for want of a table exactly if a block that starts from none, or from one without
a name, comes before all else that is not sound. Wherever it comes, the select fails. Nothing else
is asked of tables: a joined table is never at fault, and with an empty name it is missing from the
text of a select that is written. -/
theorem fails_missingTable_iff (q : Select) (strategy : Strategy) (s : Session) :
    ((∃ t, (q.render strategy).outcome s = (.error (.missingTable .select), t)) ↔
      ∃ before n b after, q.sites {} = before ++ ⟨n, .block b⟩ :: after ∧ b.Sourceless ∧
        ∀ x ∈ before, x.part.Sound strategy.supports) ∧
    (∀ n b t, ⟨n, .block b⟩ ∈ q.sites {} → b.source = some (.table t) → Text.isBlank t.name = true →
      ∃ e u, (q.render strategy).outcome s = (.error e, u)) ∧
    ((∀ x ∈ q.sites {}, x.part.Sound strategy.supports) → (q.render strategy).Succeeds s) ∧
    ∀ (σ : Scopes) (n : Nesting) (kind : JoinKind) (t : Table) (criteria : List Criterion)
      (m : UInt32),
      ((⟨kind, .table t, criteria⟩ : Join).phrase σ).faults strategy =
        (Criterion.allSites n criteria).flatMap (Site.faults strategy) ∧
      (t.name = "" → σ.tableAlias t = none →
        ((⟨kind, .table t, criteria⟩ : Join).phrase σ).wording strategy m =
          (Phrase.words (.text kind.text ::
            Phrase.clause "on" (Criterion.chain σ criteria).phrase?)).wording strategy m) := by
  refine ⟨?_, ?_, q.succeeds_iff.2, ?_⟩
  · exact (Phrase.fails_statement_iff .select _).trans q.head?_faults_eq_missingTable_iff
  · intro n b t hb hs ht
    have hn : ¬ (q.render strategy).Succeeds s := by
      intro hq
      have hsound := Part.sound_block_iff.1 (q.succeeds_iff.1 hq _ hb)
      have hfault := QueryBlock.fault?_eq_missingTable_iff.2 (QueryBlock.sourceless_of_table hs ht)
      cases hfault.symm.trans hsound
    rcases ho : (q.render strategy).outcome s with ⟨e | a, u⟩
    · exact ⟨e, u, rfl⟩
    · exact (hn ⟨a, u, ho⟩).elim
  · intro σ n kind t criteria m
    exact ⟨Join.faults_phrase_table σ n kind t criteria,
      fun hn ha => Join.wording_of_empty hn ha kind criteria m⟩

def withoutOrder (name : String) : Select :=
  let users : Table := ⟨⟨0⟩, "users"⟩
  let orders : Table := ⟨⟨1⟩, name⟩
  let found : Select := (SelectDraft.run [.select [.column (orders.column "id")],
    .from orders]).build
  (SelectDraft.run [.select [.column (users.column "id")], .from users,
    .where .and (.ofNotExists found)]).build

theorem fails_missingTable_of_blank :
    (∃ t, ((withoutOrder " ").render .springNamed).outcome {} =
      (.error (.missingTable .select), t)) ∧
    (∃ e t, ((withoutOrder " ").render .positional).outcome {} = (.error e, t)) ∧
    ((withoutOrder "orders").render .springNamed).Succeeds {} ∧
    ((⟨.left, .table ⟨⟨1⟩, ""⟩, []⟩ : Join).phrase []).wording .springNamed 1 = "left join" := by
  obtain ⟨n, b, hq, hb⟩ : ∃ n b, (withoutOrder " ").sites {} =
      ((withoutOrder " ").sites {}).take 4 ++ [⟨n, .block b⟩] ∧
        b.source = some (.table ⟨⟨1⟩, " "⟩) := ⟨_, _, rfl, rfl⟩
  have hm : ⟨n, .block b⟩ ∈ (withoutOrder " ").sites {} := by
    rw [hq]
    exact List.mem_append_right _ (.head _)
  have ht : Text.isBlank " " = true := by decide
  obtain ⟨hi, -, -, hj⟩ := fails_missingTable_iff (withoutOrder " ") .springNamed {}
  obtain ⟨-, hf, -, -⟩ := fails_missingTable_iff (withoutOrder " ") .positional {}
  obtain ⟨-, -, hs, -⟩ := fails_missingTable_iff (withoutOrder "orders") .springNamed {}
  refine ⟨hi.2 ⟨_, n, b, [], hq, QueryBlock.sourceless_of_table hb ht, by decide⟩,
    hf n b ⟨⟨1⟩, " "⟩ hm hb ht, hs (by decide), ?_⟩
  exact ((hj [] {} .left ⟨⟨1⟩, ""⟩ [] 1).2 rfl rfl).trans rfl

def joiningUnnamed : Select :=
  let users : Table := ⟨⟨0⟩, "users"⟩
  let orders : Table := ⟨⟨1⟩, ""⟩
  (SelectDraft.run [.select [.column (users.column "id")], .from users,
    .join .inner orders none [.compare (.column (orders.column "user_id"))
      (.ofExpr .equalTo (.column (users.column "id")))]]).build

/-- The select is written, and its join has no table. -/
theorem unnamed_join_written :
    (∃ b, ⟨{}, .block b⟩ ∈ joiningUnnamed.sites {} ∧
      ∃ j ∈ b.joins, ∃ t, j.source = .table t ∧ Text.isBlank t.name = true) ∧
    ∃ t, (joiningUnnamed.render .springNamed).outcome {} =
      (.ok ⟨"select users.id from users join on .user_id = users.id", ∅⟩, t) :=
  ⟨⟨_, .tail _ (.head _), _, .head _, _, rfl, by decide⟩, _, rfl⟩

end Select

end SqlStatement
