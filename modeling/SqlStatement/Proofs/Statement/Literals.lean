import SqlStatement.Proofs.Query.Literals
import SqlStatement.Proofs.Statement.Bindings

/-! # The string constants of a statement

Every string constant of a statement is written as a literal that a reader takes back as it was,
from the place where the literal starts to the place where it ends.
-/

namespace SqlStatement

open Phrase (Fenced Quotes)
open Text (Apart Unquoted literal? quote)

namespace Mapping

def literals (m : Mapping) : List String :=
  match m.content with
  | .absent | .null | .constant _ | .value _ | .supplied _ | .property _ => []
  | .stringConstant text => [text]
  | .expr e => e.literals
  | .subselect query => query.literals

end Mapping

namespace Model

variable {ρ : Type}

/-- The string constants that are written for the statement, in order. A statement over several
records writes those of its mappings once for each. -/
def literals : Model ρ → List String
  | select s => s.literals
  | multiSelect m => m.initial.literals ++ m.others.flatMap (·.2.literals)
  | whereClause w _ => Criterion.allLiterals w.criteria
  | update u =>
    u.mappings.flatMap Mapping.literals ++ Criterion.allLiterals u.reach.criteria.criteria
  | delete d => Criterion.allLiterals d.reach.criteria.criteria
  | insert i => i.insertion.mappings.flatMap Mapping.literals
  | multiRowInsert i =>
    (List.replicate i.records.length (i.insertion.mappings.flatMap Mapping.literals)).flatten
  | batchInsert i => i.insertion.mappings.flatMap Mapping.literals
  | generalInsert i => i.insertion.mappings.flatMap Mapping.literals
  | insertSelect i => i.query.literals

end Model

section Statements

variable {strategy : Strategy} {ss : List String}

theorem Phrase.quotes_ofTable (kind : StatementKind) (table : Option Table) {body : Table → Phrase}
    (h : ∀ t, Quotes strategy [body t] ss) : Quotes strategy [ofTable kind table body] ss := by
  cases table with
  | none => exact .fail _
  | some t =>
    rw [ofTable]
    split
    next => exact .fail _
    next => exact h t

theorem Mapping.quotes_phrase? (σ : Scopes) (mode : RecordMode) (kind : StatementKind)
    (m : Mapping) : Quotes strategy (m.phrase? σ mode kind).toList m.literals := by
  obtain ⟨target, content⟩ := m
  cases content with
  | absent => exact .nil
  | null | constant => exact .text _
  | stringConstant text => exact .literal text
  | value v =>
    cases h : mode.acceptsValues <;> simp only [phrase?, literals, h]
    · exact .fail _
    · exact .value _ v
  | supplied s =>
    cases h : mode.acceptsValues <;> simp only [phrase?, literals, h]
    · exact .fail _
    · exact .ofFenced (Phrase.fenced_parameter _ _)
  | property name =>
    cases mode with
    | none => exact .fail _
    | row | batch | indexed => exact .ofFenced (Phrase.fenced_property _ _ _)
  | expr e =>
    cases h : mode.acceptsExpressions <;> simp only [phrase?, literals, h]
    · exact .fail _
    · exact Expr.quotes_phrase σ e
  | subselect query =>
    cases h : mode.acceptsExpressions <;> simp only [phrase?, literals, h]
    · exact .fail _
    · exact (Select.quotes_phrase σ query).between (by decide) (by decide)

theorem Mapping.quotes_phrases {g : Mapping → Option Phrase}
    (h : ∀ m, Quotes strategy (g m).toList m.literals) (mappings : List Mapping) :
    Quotes strategy (mappings.filterMap g) (mappings.flatMap literals) := by
  induction mappings with
  | nil => exact .nil
  | cons m ms ih =>
    have hm := (h m).append ih
    rw [List.filterMap_cons, List.flatMap_cons]
    cases hg : g m with
    | none => rwa [hg] at hm
    | some p => rwa [hg] at hm

theorem RowPhrase.quotes_group (mappings : List Mapping) (mode : RecordMode)
    (kind : StatementKind) : Quotes strategy [(ofMappings mappings mode kind).group]
      (mappings.flatMap Mapping.literals) := by
  rw [group, contents_ofMappings]
  exact (Mapping.quotes_phrases (Mapping.quotes_phrase? [] mode kind) mappings).commas.between
    (by decide) (by decide)

theorem Phrase.quotes_insertion (t : Table) (columns : List String) {groups : List Phrase}
    (h : Quotes strategy groups ss) : Quotes strategy [insertion t columns groups] ss := by
  rw [insertion]
  split
  next => exact .fail _
  next => exact h.commas.after (.append (by decide) _)

theorem Insertion.quotes_phrase (i : Insertion) (mode : RecordMode) (kind : StatementKind) :
    Quotes strategy [i.phrase mode kind] (i.mappings.flatMap Mapping.literals) :=
  Phrase.quotes_ofTable _ _ fun t =>
    Phrase.quotes_insertion t _ (RowPhrase.quotes_group i.mappings mode kind)

theorem MultiRowInsert.quotes_groups {ρ : Type} (i : MultiRowInsert ρ) (positions : List Nat) :
    Quotes strategy (positions.map fun position => (i.row position).group)
      (List.replicate positions.length
        (i.insertion.mappings.flatMap Mapping.literals)).flatten := by
  induction positions with
  | nil => exact .nil
  | cons position positions ih => exact (RowPhrase.quotes_group _ _ _).cons ih

theorem MultiRowInsert.quotes_phrase {ρ : Type} (i : MultiRowInsert ρ) :
    Quotes strategy [i.phrase] (List.replicate i.records.length
      (i.insertion.mappings.flatMap Mapping.literals)).flatten := by
  refine Phrase.quotes_ofTable _ _ fun t => ?_
  split
  next => exact .fail _
  next =>
    have h : Quotes strategy _ (List.replicate (List.range i.records.length).length _).flatten :=
      i.quotes_groups (List.range i.records.length)
    rw [List.length_range] at h
    exact Phrase.quotes_insertion t _ h

theorem Where.quotes_clause (σ : Scopes) (w : Where) :
    Quotes strategy (w.clause σ) (Criterion.allLiterals w.criteria) :=
  (Chain.quotes_phrase? (Criterion.quotes_chain σ w.criteria)).clause "where"

theorem Reach.quotes_phrases (σ : Scopes) (r : Reach) :
    Quotes strategy (r.phrases σ) (Criterion.allLiterals r.criteria.criteria) := by
  have hc : Quotes strategy (r.criteria.clause σ) (Criterion.allLiterals r.criteria.criteria) :=
    r.criteria.quotes_clause σ
  have h := (hc.append (SortItem.quotes_clause σ r.orderBy)).append
    (.optional (fun n => Paging.quotes_phrases ⟨.limitOffset, some n, none⟩) r.limit)
  rwa [List.append_nil, List.append_nil] at h

theorem Update.quotes_assignment? (σ : Scopes) (m : Mapping) :
    Quotes strategy (assignment? σ m).toList m.literals :=
  (m.quotes_phrase? σ .none .update).map fun _ hp => hp.after (.append (by decide) _)

theorem Update.quotes_assignments (σ : Scopes) (u : Update) :
    Quotes strategy [u.assignments σ] (u.mappings.flatMap Mapping.literals) := by
  have h : Quotes strategy (u.mappings.filterMap (assignment? σ))
      (u.mappings.flatMap Mapping.literals) :=
    Mapping.quotes_phrases (quotes_assignment? σ) u.mappings
  rw [assignments]
  split
  next he => rw [he] at h; exact (Quotes.text "set").append h
  next => exact h.commas.after (by decide)

theorem Update.quotes_phrase (u : Update) : Quotes strategy [u.phrase]
    (u.mappings.flatMap Mapping.literals ++ Criterion.allLiterals u.reach.criteria.criteria) :=
  Phrase.quotes_ofTable _ _ fun _ =>
    ((Quotes.text _).cons ((u.quotes_assignments _).cons (u.reach.quotes_phrases _))).words

theorem Delete.quotes_phrase (d : Delete) :
    Quotes strategy [d.phrase] (Criterion.allLiterals d.reach.criteria.criteria) :=
  Phrase.quotes_ofTable _ _ fun _ => ((Quotes.text _).cons (d.reach.quotes_phrases _)).words

theorem InsertSelect.leads_heading (i : InsertSelect) (t : Table) : Text.Leads (i.heading t) := by
  rw [heading]
  cases i.columns with
  | none => rw [String.append_empty]; exact .append (by decide) _
  | some columns => exact .append (.append (by decide) _) _

theorem InsertSelect.quotes_phrase (i : InsertSelect) :
    Quotes strategy [i.phrase] i.query.literals :=
  Phrase.quotes_ofTable _ _ fun t => (Select.quotes_phrase [] i.query).after (i.leads_heading t)

theorem MultiSelect.quotes_others (others : List (SetOperator × Select)) :
    Quotes strategy
      (others.flatMap fun (operator, s) => [.text operator.text, .between "(" (s.phrase []) ")"])
      (others.flatMap (·.2.literals)) := by
  induction others with
  | nil => exact .nil
  | cons o others ih =>
    obtain ⟨operator, s⟩ := o
    exact (Quotes.text _).cons
      (((Select.quotes_phrase [] s).between (by decide) (by decide)).cons ih)

theorem MultiSelect.quotes_phrase (m : MultiSelect) :
    Quotes strategy [m.phrase] (m.initial.literals ++ m.others.flatMap (·.2.literals)) := by
  have hi : Quotes strategy [.between "(" (m.initial.phrase []) ")"] m.initial.literals :=
    (Select.quotes_phrase [] m.initial).between (by decide) (by decide)
  have h := ((hi.append (quotes_others m.others)).append
    (.optional (SortItem.quotes_clause []) m.orderBy)).append
    (.optional Paging.quotes_phrases m.paging)
  rw [List.append_nil, List.append_nil] at h
  exact h.words

end Statements

namespace Model

variable {ρ : Type} {m : Model ρ} {strategy : Strategy} {p : Phrase}

theorem quotes_phrase? (hp : m.phrase? = some p) : Quotes strategy [p] m.literals := by
  cases m with
  | select s => exact Option.some.inj hp ▸ Select.quotes_phrase [] s
  | multiSelect m => exact Option.some.inj hp ▸ m.quotes_phrase
  | whereClause w aliases =>
    obtain ⟨-, rfl⟩ := words_clause hp
    exact (w.quotes_clause _).words
  | update u => exact Option.some.inj hp ▸ u.quotes_phrase
  | delete d => exact Option.some.inj hp ▸ d.quotes_phrase
  | insert i => exact Option.some.inj hp ▸ i.insertion.quotes_phrase .row .insert
  | multiRowInsert i => exact Option.some.inj hp ▸ i.quotes_phrase
  | batchInsert i => exact Option.some.inj hp ▸ i.insertion.quotes_phrase .batch .batchInsert
  | generalInsert i => exact Option.some.inj hp ▸ i.insertion.quotes_phrase .none .insert
  | insertSelect i => exact Option.some.inj hp ▸ i.quotes_phrase

/-- Any string is read back from its literal, whatever follows that is no quote, and no two strings
have the same literal. In a finished statement, all string constants stand as literals, in order,
and a literal ends where it was written to end: no quote comes straight after it, and a reader that
starts where it starts takes back the string and leaves what was written behind it. -/
theorem literals_read_back :
    (∀ (s : String) (r : List Char), Unquoted r →
      literal? ((quote s).toList ++ r) = some (s.toList, r)) ∧
    Function.Injective quote ∧
    ∀ (m : Model ρ) (strategy : Strategy) (s t : Session) (st : Statement),
      (m.render strategy).outcome s = (.ok (some st), t) →
      ∃ p, m.phrase? = some p ∧ String.join (p.pieces strategy 1) = st.sql ∧
        (m.literals.map quote).Sublist (p.pieces strategy 1) ∧
        ∀ before u after, p.pieces strategy 1 = before ++ quote u :: after →
          Unquoted (String.join after).toList ∧
          literal? (st.sql.toList.drop (String.join before).length) =
            some (u.toList, (String.join after).toList) := by
  refine ⟨fun s r => Text.literal?_quote s, Text.quote_injective, fun m strategy s t st h => ?_⟩
  obtain ⟨p, f, hp, hf, rfl, hw, -⟩ := written_of_outcome h
  have hq : Quotes strategy [p] m.literals := quotes_phrase? hp
  have hs : String.join (p.pieces strategy 1) = (m.finished f).sql := by
    rw [p.join_pieces]
    exact hw.text.symm
  have hl := hq.literals (by simpa using hf) 1
  have hc := hq.fenced_singleton strategy 1
  have he := p.empty_notMem_pieces strategy 1
  refine ⟨p, hp, hs, by simpa [Phrase.piecesOfAll] using hl, fun before u after hb => ?_⟩
  rw [← hs]
  exact ⟨Text.unquoted_join_of_isChain hc he hb, Text.literal?_drop_of_isChain hc he hb⟩

/-- An update with quotes inside of a string, next to the end of its literal, and nothing else. -/
def quotedUpdate : Model Unit :=
  let u : Table := ⟨⟨0⟩, "u"⟩
  .update { target := { table := some u }, mappings :=
    [⟨u.column "a", .stringConstant "it's'"⟩, ⟨u.column "b", .stringConstant "''"⟩] }

theorem literals_read_back_of_update :
    let r : Statement := ⟨"update u set a = 'it''s''', b = ''''''", ∅⟩
    literal? ((quote "'").toList ++ [')']) = some (['\x27'], [')']) ∧
      ∃ t, (quotedUpdate.render .springNamed).outcome {} = (.ok (some r), t) ∧
        literal? (r.sql.toList.drop 17) = some ("it's'".toList, ", b = ''''''".toList) := by
  intro r
  have h : (quotedUpdate.render .springNamed).outcome {} = (.ok (some r), _) := rfl
  have hall := literals_read_back (ρ := Unit)
  refine ⟨hall.1 "'" [')'] (by decide), _, h, ?_⟩
  obtain ⟨p, hp, -, -, hread⟩ := hall.2.2 quotedUpdate .springNamed _ _ _ h
  obtain rfl := Option.some.inj hp
  exact (hread ["update u", " ", "set ", "a = "] "it's'" [", ", "b = ", "''''''"] rfl).2

end Model

end SqlStatement
