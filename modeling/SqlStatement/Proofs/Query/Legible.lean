import SqlStatement.Proofs.Phrase.Legible
import SqlStatement.Query.Phrase

/-! # Legible queries

The texts that a query is given from outside: names, labels, aliases, operators and constants. If
none of them holds a mark of a placeholder, and none of the aliases around the query does, then
the query is legible.
-/

namespace SqlStatement

open Text (Plain)

namespace Column

def texts (c : Column) : List String :=
  c.name :: c.table.name :: (c.qualifier.toList ++ c.label.toList)

end Column

namespace SortItem

def texts (s : SortItem) : List String :=
  match s.key with
  | .column c => c.texts
  | .name n => [n]

end SortItem

mutual

def Expr.texts : Expr → List String
  | .column c => c.texts
  | .aggregate _ argument label => Expr.argumentTexts argument ++ label.toList
  | .function name arguments label => name :: (Expr.allTexts arguments ++ label.toList)
  | .constant text label => text :: label.toList
  | .stringConstant text label => text :: label.toList
  | .case expression label => expression.texts ++ label.toList

def Expr.argumentTexts : Option Expr → List String
  | none => []
  | some e => e.texts

def Expr.allTexts : List Expr → List String
  | [] => []
  | e :: es => e.texts ++ Expr.allTexts es

def Case.texts : Case → List String
  | .searched branches otherwise =>
    SearchedBranch.allTexts branches ++ CaseResult.otherwiseTexts otherwise
  | .simple operand branches otherwise =>
    operand.texts ++ (SimpleBranch.allTexts branches ++ CaseResult.otherwiseTexts otherwise)

def SearchedBranch.texts : SearchedBranch → List String
  | ⟨criteria, result⟩ => Criterion.allTexts criteria ++ result.texts

def SearchedBranch.allTexts : List SearchedBranch → List String
  | [] => []
  | b :: bs => b.texts ++ SearchedBranch.allTexts bs

def SimpleBranch.texts : SimpleBranch → List String
  | ⟨test, result⟩ => test.texts ++ result.texts

def SimpleBranch.allTexts : List SimpleBranch → List String
  | [] => []
  | b :: bs => b.texts ++ SimpleBranch.allTexts bs

def SimpleTest.texts : SimpleTest → List String
  | .values _ => []
  | .condition c => c.texts

def CaseResult.texts : CaseResult → List String
  | .stringConstant text => [text]
  | .constant text => [text]
  | .value _ => []
  | .expr e => e.texts

def CaseResult.otherwiseTexts : Option CaseResult → List String
  | none => []
  | some r => r.texts

def Condition.texts : Condition → List String
  | .empty => []
  | .noValue operator => [operator]
  | .single operator _ _ => [operator]
  | .pair operator conjunction _ _ => [operator, conjunction]
  | .list operator _ _ => [operator]
  | .comparison operator other => operator :: other.texts
  | .subselect operator query => operator :: query.texts

def Predicate.texts : Predicate → List String
  | .compare subject condition => subject.texts ++ condition.texts
  | .existence query _ => query.texts
  | .negation criterion => criterion.texts

def Predicate.initialTexts : Option Predicate → List String
  | none => []
  | some p => p.texts

def Criterion.texts : Criterion → List String
  | ⟨_, predicate, attached⟩ => Predicate.initialTexts predicate ++ Criterion.allTexts attached

def Criterion.allTexts : List Criterion → List String
  | [] => []
  | c :: cs => c.texts ++ Criterion.allTexts cs

def Source.texts : Source → List String
  | .table t => [t.name]
  | .subquery query aliasName => aliasName :: query.texts

def Source.fromTexts : Option Source → List String
  | none => []
  | some s => s.texts

def Join.texts : Join → List String
  | ⟨_, source, criteria⟩ => source.texts ++ Criterion.allTexts criteria

def Join.allTexts : List Join → List String
  | [] => []
  | j :: js => j.texts ++ Join.allTexts js

def QueryBlock.texts : QueryBlock → List String
  | ⟨_, _, columns, source, aliases, joins, criteria, groupBy, having⟩ =>
    aliases.texts ++ (Expr.allTexts columns ++ (Source.fromTexts source ++ (Join.allTexts joins ++
      (Criterion.allTexts criteria ++ (Expr.allTexts groupBy ++ Criterion.allTexts having)))))

def QueryBlock.allTexts : List QueryBlock → List String
  | [] => []
  | b :: bs => b.texts ++ QueryBlock.allTexts bs

def Select.texts : Select → List String
  | ⟨blocks, orderBy, _⟩ =>
    QueryBlock.allTexts blocks ++ (orderBy.map (·.flatMap SortItem.texts)).getD []

end

namespace Scopes

/-- The aliases of all open scopes. -/
def texts (σ : Scopes) : List String := σ.flatMap (·.aliases.texts)

variable {σ : Scopes}

theorem plain_nil : ∀ s ∈ texts [], Plain s := fun _ hs => by cases hs

theorem mem_texts_of_find? {a : Aliases} {t : TableId} {name : String}
    (h : a.find? t = some name) : name ∈ a.texts := by
  obtain ⟨l₁, l₂, he, -⟩ := List.lookup_eq_some_iff.1 h
  rw [Aliases.texts, he]
  simp

theorem plain_qualifier (hσ : ∀ s ∈ σ.texts, Plain s) {t : Table} (ht : Plain t.name) :
    ∀ q ∈ σ.qualifier t, Plain q := by
  intro q hq
  induction σ with
  | nil => cases hq
  | cons s σ ih =>
    rw [texts, List.flatMap_cons, List.forall_mem_append] at hσ
    rw [qualifier] at hq
    split at hq
    next =>
      rw [Scope.ownQualifier] at hq
      cases ha : s.aliases.find? t.id with
      | none =>
        rw [ha, Option.none_or] at hq
        split at hq
        next => exact Option.mem_some.1 hq ▸ ht
        next => cases hq
      | some a =>
        rw [ha] at hq
        exact Option.mem_some.1 hq ▸ hσ.1 a (mem_texts_of_find? ha)
    next => exact ih hσ.2 hq

theorem plain_columnName (hσ : ∀ s ∈ σ.texts, Plain s) {c : Column} (hc : ∀ s ∈ c.texts, Plain s) :
    Plain (σ.columnName c) := by
  simp only [Column.texts, List.forall_mem_cons, List.forall_mem_append] at hc
  obtain ⟨hn, ht, hq, -⟩ := hc
  rw [columnName]
  split
  next q h =>
    have hp : Plain q := by
      cases hc : c.qualifier with
      | none =>
        rw [hc, Option.none_or] at h
        exact plain_qualifier hσ ht q h
      | some r =>
        rw [hc] at h hq
        obtain rfl := Option.some.inj h
        exact hq _ (by simp)
    exact (hp.append (by decide)).append hn
  next => exact hn

theorem plain_tableName (hσ : ∀ s ∈ σ.texts, Plain s) {t : Table} (ht : Plain t.name) :
    Plain (σ.tableName t) := by
  rw [tableName]
  split
  next a h =>
    refine (ht.append (by decide)).append ?_
    cases σ with
    | nil => cases h
    | cons s σ =>
      rw [texts, List.flatMap_cons, List.forall_mem_append] at hσ
      exact hσ.1 a (mem_texts_of_find? h)
  next => exact ht

end Scopes

open Phrase (Legible)

section Parts

theorem SortItem.plain_text {σ : Scopes} (hσ : ∀ s ∈ σ.texts, Plain s) {item : SortItem}
    (h : ∀ s ∈ item.texts, Plain s) : Plain (item.text σ) := by
  obtain ⟨key, descending⟩ := item
  have hd {k : String} (hk : Plain k) : Plain (if descending then k ++ " DESC" else k) := by
    split
    next => exact hk.append (by decide)
    next => exact hk
  refine hd ?_
  cases key with
  | name n => exact h n (by simp [texts])
  | column c =>
    cases hl : c.label with
    | none => simpa [hl] using Scopes.plain_columnName hσ h
    | some a => simpa [hl] using h a (by simp [texts, Column.texts, hl])

theorem SortItem.legible_clause {σ : Scopes} (hσ : ∀ s ∈ σ.texts, Plain s) {items : List SortItem}
    (h : ∀ s ∈ items.flatMap texts, Plain s) : ∀ p ∈ clause σ items, Legible p := by
  rw [List.forall_mem_flatMap] at h
  rw [clause]
  split
  next => simp
  next =>
    have hi : ∀ s ∈ items.map (text σ), Plain s :=
      List.forall_mem_map.2 fun item hm => plain_text hσ (h item hm)
    have hp : Plain ("order by " ++ ", ".intercalate (items.map (text σ))) :=
      Text.Plain.append (by decide) (Text.Plain.intercalate (by decide) hi)
    simpa using Legible.text hp

theorem Paging.legible_phrases (p : Paging) : ∀ q ∈ p.phrases, Legible q := by
  have hc (n : UInt64) : Legible (.value none (.unsigned n)) := .parameter _ _
  obtain ⟨style, rows, offset⟩ := p
  intro q hq
  rw [phrases, List.mem_cons] at hq
  rcases hq with rfl | hq
  · exact .needs style
  cases style with
  | limitOffset =>
    simp only [List.mem_append, Option.mem_toList, Option.map_eq_some_iff] at hq
    rcases hq with ⟨n, -, rfl⟩ | ⟨n, -, rfl⟩
    · exact (hc n).after (by decide)
    · exact (hc n).after (by decide)
  | fetchFirst =>
    simp only [List.mem_append, Option.mem_toList, Option.map_eq_some_iff] at hq
    rcases hq with ⟨n, -, rfl⟩ | ⟨n, -, rfl⟩
    · exact (hc n).between (by decide) (by decide)
    · exact (hc n).between (by decide) (by decide)

namespace Chain

variable {parts : Chain}

theorem legible_link {part : Option Connector × Phrase} (h : Legible part.2) :
    Legible (link part) := by
  obtain ⟨connector, p⟩ := part
  refine h.after (Text.Plain.append ?_ (by decide))
  rcases connector with _ | _ | _ <;> decide

theorem legible_phrase? (h : ∀ part ∈ parts, Legible part.2) : ∀ p ∈ parts.phrase?, Legible p := by
  cases parts with
  | nil => simp [phrase?]
  | cons part rest =>
    rw [List.forall_mem_cons] at h
    rintro p ⟨⟩
    exact .join (by decide)
      (List.forall_mem_cons.2 ⟨h.1, List.forall_mem_map.2 fun q hq => legible_link (h.2 q hq)⟩)

theorem legible_operand? (h : ∀ part ∈ parts, Legible part.2) :
    ∀ p ∈ parts.operand?, Legible p := by
  rw [operand?]
  split
  next =>
    intro p hp
    obtain ⟨q, hq, rfl⟩ := Option.map_eq_some_iff.1 hp
    exact (legible_phrase? h q hq).between (by decide) (by decide)
  next => exact legible_phrase? h

end Chain

theorem Expr.legible_selected {p : Phrase} (h : Legible p) {label : Option String}
    (hl : ∀ s ∈ label.toList, Plain s) : Legible (Expr.selected p label) := by
  cases label with
  | none => exact h
  | some a =>
    have ht : Text.Breaks (" as " ++ a) := Text.Breaks.append (by decide) (hl a (by simp))
    exact .concat_cons h (.concat_singleton (.text ht.plain)) (Phrase.undigit_concat_cons_text ht)

theorem Expr.plain_label : ∀ e : Expr, (∀ s ∈ e.texts, Plain s) → ∀ a ∈ e.label?.toList, Plain a
  | .column c, h => fun a ha => h a (by
    rw [Expr.texts, Column.texts]
    exact List.mem_cons_of_mem _ (List.mem_cons_of_mem _ (List.mem_append_right _ ha)))
  | .aggregate .., h => fun a ha => h a (by unfold Expr.texts; exact List.mem_append_right _ ha)
  | .function .., h => fun a ha => h a (by
    unfold Expr.texts
    exact List.mem_cons_of_mem _ (List.mem_append_right _ ha))
  | .constant .., h => fun a ha => h a (by unfold Expr.texts; exact List.mem_cons_of_mem _ ha)
  | .stringConstant .., h => fun a ha => h a (by unfold Expr.texts; exact List.mem_cons_of_mem _ ha)
  | .case .., h => fun a ha => h a (by unfold Expr.texts; exact List.mem_append_right _ ha)

theorem QueryBlock.plain_scope {σ : Scopes} (hσ : ∀ s ∈ σ.texts, Plain s) (b : QueryBlock)
    (h : ∀ s ∈ b.texts, Plain s) : ∀ s ∈ Scopes.texts (b.scope :: σ), Plain s := by
  obtain ⟨connector, distinct, columns, source, aliases, joins, criteria, groupBy, having⟩ := b
  rw [Scopes.texts, List.flatMap_cons, List.forall_mem_append]
  rw [texts, List.forall_mem_append] at h
  exact ⟨h.1, hσ⟩

theorem Select.plain_orderScopes {σ : Scopes} (hσ : ∀ s ∈ σ.texts, Plain s)
    (blocks : List QueryBlock) (h : ∀ s ∈ QueryBlock.allTexts blocks, Plain s) :
    ∀ s ∈ (orderScopes σ blocks).texts, Plain s := by
  rcases blocks with _ | ⟨b, _ | _⟩
  · exact hσ
  · rw [QueryBlock.allTexts, List.forall_mem_append] at h
    exact b.plain_scope hσ h.1
  · exact hσ

theorem Phrase.legible_caseWords {opening : Phrase} {branches otherwise : List Phrase}
    (h : Legible opening) (hb : ∀ p ∈ branches, Legible p) (ho : ∀ p ∈ otherwise, Legible p) :
    Legible (caseWords opening branches otherwise) := by
  refine .join (by decide) (List.forall_mem_cons.2 ⟨h, ?_⟩)
  split
  next => simpa using Legible.fail _
  next =>
    have he : ∀ p ∈ [text "end"], Legible p := by simpa using Legible.text (by decide)
    exact List.forall_mem_append.2 ⟨List.forall_mem_append.2 ⟨hb, ho⟩, he⟩

theorem Phrase.legible_caseBranch {test : Option Phrase} {result : Phrase}
    (ht : ∀ p ∈ test, Legible p) (hr : Legible result) :
    ∀ p ∈ caseBranch test result, Legible p := by
  cases test with
  | none => simp [caseBranch]
  | some t => simpa [caseBranch] using ⟨(ht t rfl).after (by decide), hr.after (by decide)⟩

theorem Phrase.legible_comparison? {subject : Phrase} {right : Option Phrase} (ignoresCase : Bool)
    (hs : Legible subject) (hr : ∀ p ∈ right, Legible p) :
    ∀ p ∈ comparison? subject ignoresCase right, Legible p := by
  intro p hp
  obtain ⟨r, hm, rfl⟩ := Option.map_eq_some_iff.1 hp
  refine .concat_cons ?_ (.concat_cons_text (by decide) (.concat_singleton (hr r hm)))
    (undigit_concat_cons_text (by decide))
  split
  next => exact hs.between (by decide) (by decide)
  next => exact hs

theorem QueryBlock.legible_guarded {ps : List Phrase} (fault : Option RenderError)
    (h : ∀ p ∈ ps, Legible p) : Legible (guarded fault ps) := by
  cases fault with
  | some e => exact .fail e
  | none => exact .join (by decide) h

end Parts

section Queries

open List (forall_mem_append forall_mem_cons)

mutual

theorem Expr.legible_phrase {σ : Scopes} (hσ : ∀ s ∈ σ.texts, Plain s) :
    ∀ e : Expr, (∀ s ∈ e.texts, Plain s) → Legible (e.phrase σ)
  | .column c, h => by
    rw [Expr.texts] at h
    unfold Expr.phrase
    exact .text (Scopes.plain_columnName hσ h)
  | .aggregate f argument _, h => by
    rw [Expr.texts, forall_mem_append] at h
    unfold Expr.phrase
    have ho : Plain f.opening := by cases f <;> decide
    exact (Expr.legible_argumentPhrase hσ argument h.1).between ho (by decide)
  | .function name arguments _, h => by
    rw [Expr.texts, forall_mem_cons, forall_mem_append] at h
    unfold Expr.phrase
    exact (Legible.join (by decide) (Expr.legible_phrases hσ arguments h.2.1)).between
      (h.1.append (by decide)) (by decide)
  | .constant text _, h => by
    rw [Expr.texts, forall_mem_cons] at h
    unfold Expr.phrase
    exact .text h.1
  | .stringConstant text _, h => by
    rw [Expr.texts, forall_mem_cons] at h
    unfold Expr.phrase
    exact .text h.1.quote
  | .case expression _, h => by
    rw [Expr.texts, forall_mem_append] at h
    unfold Expr.phrase
    exact Case.legible_phrase hσ expression h.1

theorem Expr.legible_argumentPhrase {σ : Scopes} (hσ : ∀ s ∈ σ.texts, Plain s) :
    ∀ a : Option Expr, (∀ s ∈ Expr.argumentTexts a, Plain s) → Legible (Expr.argumentPhrase σ a)
  | none, _ => by unfold Expr.argumentPhrase; exact .text (by decide)
  | some e, h => by
    rw [Expr.argumentTexts] at h
    unfold Expr.argumentPhrase
    exact Expr.legible_phrase hσ e h

theorem Expr.legible_phrases {σ : Scopes} (hσ : ∀ s ∈ σ.texts, Plain s) :
    ∀ es : List Expr, (∀ s ∈ Expr.allTexts es, Plain s) → ∀ p ∈ Expr.phrases σ es, Legible p
  | [], _ => by simp [Expr.phrases]
  | e :: es, h => by
    rw [Expr.allTexts, forall_mem_append] at h
    rw [Expr.phrases, forall_mem_cons]
    exact ⟨Expr.legible_phrase hσ e h.1, Expr.legible_phrases hσ es h.2⟩

theorem Expr.legible_selectPhrases {σ : Scopes} (hσ : ∀ s ∈ σ.texts, Plain s) :
    ∀ es : List Expr, (∀ s ∈ Expr.allTexts es, Plain s) → ∀ p ∈ Expr.selectPhrases σ es, Legible p
  | [], _ => by simp [Expr.selectPhrases]
  | e :: es, h => by
    rw [Expr.allTexts, forall_mem_append] at h
    rw [Expr.selectPhrases, forall_mem_cons]
    exact ⟨Expr.legible_selected (Expr.legible_phrase hσ e h.1) (e.plain_label h.1),
      Expr.legible_selectPhrases hσ es h.2⟩

theorem Case.legible_phrase {σ : Scopes} (hσ : ∀ s ∈ σ.texts, Plain s) :
    ∀ c : Case, (∀ s ∈ c.texts, Plain s) → Legible (c.phrase σ)
  | .searched branches otherwise, h => by
    rw [Case.texts, forall_mem_append] at h
    unfold Case.phrase
    split
    next => exact .fail _
    next =>
      exact Phrase.legible_caseWords (.text (by decide))
        (SearchedBranch.legible_phrases hσ branches h.1)
        (CaseResult.legible_otherwisePhrases hσ otherwise h.2)
  | .simple operand branches otherwise, h => by
    rw [Case.texts, forall_mem_append, forall_mem_append] at h
    unfold Case.phrase
    split
    next => exact .fail _
    next =>
      exact Phrase.legible_caseWords ((Expr.legible_phrase hσ operand h.1).after (by decide))
        (SimpleBranch.legible_phrases hσ _ branches h.2.1)
        (CaseResult.legible_otherwisePhrases hσ otherwise h.2.2)

theorem SearchedBranch.legible_phrase {σ : Scopes} (hσ : ∀ s ∈ σ.texts, Plain s) :
    ∀ b : SearchedBranch, (∀ s ∈ b.texts, Plain s) → ∀ p ∈ b.phrase σ, Legible p
  | ⟨criteria, result⟩, h => by
    rw [SearchedBranch.texts, forall_mem_append] at h
    unfold SearchedBranch.phrase
    have ht := Chain.legible_phrase? (Criterion.legible_chain hσ criteria h.1)
    exact Phrase.legible_caseBranch ht (CaseResult.legible_phrase hσ result h.2)

theorem SearchedBranch.legible_phrases {σ : Scopes} (hσ : ∀ s ∈ σ.texts, Plain s) :
    ∀ bs : List SearchedBranch, (∀ s ∈ SearchedBranch.allTexts bs, Plain s) →
      ∀ p ∈ SearchedBranch.phrases σ bs, Legible p
  | [], _ => by simp [SearchedBranch.phrases]
  | b :: bs, h => by
    rw [SearchedBranch.allTexts, forall_mem_append] at h
    rw [SearchedBranch.phrases, forall_mem_append]
    exact ⟨SearchedBranch.legible_phrase hσ b h.1, SearchedBranch.legible_phrases hσ bs h.2⟩

theorem SimpleBranch.legible_phrase {σ : Scopes} (hσ : ∀ s ∈ σ.texts, Plain s)
    (column : Option Column) :
    ∀ b : SimpleBranch, (∀ s ∈ b.texts, Plain s) → ∀ p ∈ b.phrase σ column, Legible p
  | ⟨test, result⟩, h => by
    rw [SimpleBranch.texts, forall_mem_append] at h
    unfold SimpleBranch.phrase
    exact Phrase.legible_caseBranch (SimpleTest.legible_phrase? hσ column test h.1)
      (CaseResult.legible_phrase hσ result h.2)

theorem SimpleBranch.legible_phrases {σ : Scopes} (hσ : ∀ s ∈ σ.texts, Plain s)
    (column : Option Column) :
    ∀ bs : List SimpleBranch, (∀ s ∈ SimpleBranch.allTexts bs, Plain s) →
      ∀ p ∈ SimpleBranch.phrases σ column bs, Legible p
  | [], _ => by simp [SimpleBranch.phrases]
  | b :: bs, h => by
    rw [SimpleBranch.allTexts, forall_mem_append] at h
    rw [SimpleBranch.phrases, forall_mem_append]
    exact ⟨SimpleBranch.legible_phrase hσ column b h.1,
      SimpleBranch.legible_phrases hσ column bs h.2⟩

theorem SimpleTest.legible_phrase? {σ : Scopes} (hσ : ∀ s ∈ σ.texts, Plain s)
    (column : Option Column) :
    ∀ t : SimpleTest, (∀ s ∈ t.texts, Plain s) → ∀ p ∈ t.phrase? σ column, Legible p
  | .values [], _ => by simp [SimpleTest.phrase?]
  | .values (v :: vs), _ => by
    unfold SimpleTest.phrase?
    rintro p ⟨⟩
    exact .join (by decide) (Legible.values column (v :: vs))
  | .condition c, h => by
    rw [SimpleTest.texts] at h
    unfold SimpleTest.phrase?
    exact Condition.legible_right? hσ column c h

theorem CaseResult.legible_phrase {σ : Scopes} (hσ : ∀ s ∈ σ.texts, Plain s) :
    ∀ r : CaseResult, (∀ s ∈ r.texts, Plain s) → Legible (r.phrase σ)
  | .stringConstant text, h => by
    rw [CaseResult.texts, forall_mem_cons] at h
    unfold CaseResult.phrase
    exact .text h.1.quote
  | .constant text, h => by
    rw [CaseResult.texts, forall_mem_cons] at h
    unfold CaseResult.phrase
    exact .text h.1
  | .value v, _ => by unfold CaseResult.phrase; exact .parameter none (.value v)
  | .expr e, h => by
    rw [CaseResult.texts] at h
    unfold CaseResult.phrase
    exact Expr.legible_phrase hσ e h

theorem CaseResult.legible_otherwisePhrases {σ : Scopes} (hσ : ∀ s ∈ σ.texts, Plain s) :
    ∀ r : Option CaseResult, (∀ s ∈ CaseResult.otherwiseTexts r, Plain s) →
      ∀ p ∈ CaseResult.otherwisePhrases σ r, Legible p
  | none, _ => by simp [CaseResult.otherwisePhrases]
  | some r, h => by
    rw [CaseResult.otherwiseTexts] at h
    rw [CaseResult.otherwisePhrases, List.forall_mem_singleton]
    exact (CaseResult.legible_phrase hσ r h).after (by decide)

theorem Condition.legible_right? {σ : Scopes} (hσ : ∀ s ∈ σ.texts, Plain s)
    (column : Option Column) :
    ∀ c : Condition, (∀ s ∈ c.texts, Plain s) → ∀ p ∈ c.right? σ column, Legible p
  | .empty, _ => by simp [Condition.right?]
  | .noValue operator, h => by
    rw [Condition.texts, List.forall_mem_singleton] at h
    unfold Condition.right?
    rintro p ⟨⟩
    exact .text h
  | .single operator v _, h => by
    rw [Condition.texts, List.forall_mem_singleton] at h
    unfold Condition.right?
    rintro p ⟨⟩
    exact (Legible.parameter column (.value v)).after (h.append (by decide))
  | .pair operator conjunction v w, h => by
    rw [Condition.texts, forall_mem_cons, List.forall_mem_singleton] at h
    unfold Condition.right?
    rintro p ⟨⟩
    have hs : Text.Breaks (" " ++ conjunction ++ " ") :=
      (Text.Breaks.append (by decide) h.2).append (by decide)
    exact .concat_cons ((Legible.parameter column (.value v)).after (h.1.append (by decide)))
      (.concat_singleton ((Legible.parameter column (.value w)).after hs.plain))
      (Phrase.undigit_concat_singleton (Phrase.undigit_concat_cons_text hs))
  | .list operator vs _, h => by
    rw [Condition.texts, List.forall_mem_singleton] at h
    unfold Condition.right?
    rintro p ⟨⟩
    exact (Legible.join (by decide) (Legible.values column vs)).between (h.append (by decide))
      (by decide)
  | .comparison operator other, h => by
    rw [Condition.texts, forall_mem_cons] at h
    unfold Condition.right?
    rintro p ⟨⟩
    exact (Expr.legible_phrase hσ other h.2).after (h.1.append (by decide))
  | .subselect operator query, h => by
    rw [Condition.texts, forall_mem_cons] at h
    unfold Condition.right?
    rintro p ⟨⟩
    exact (Select.legible_phrase hσ query h.2).between (h.1.append (by decide)) (by decide)

theorem Predicate.legible_phrase? {σ : Scopes} (hσ : ∀ s ∈ σ.texts, Plain s) :
    ∀ p : Predicate, (∀ s ∈ p.texts, Plain s) → ∀ q ∈ p.phrase? σ, Legible q
  | .compare subject condition, h => by
    rw [Predicate.texts, forall_mem_append] at h
    unfold Predicate.phrase?
    exact Phrase.legible_comparison? _ (Expr.legible_phrase hσ subject h.1)
      (Condition.legible_right? hσ _ condition h.2)
  | .existence query negated, h => by
    rw [Predicate.texts] at h
    unfold Predicate.phrase?
    rintro p ⟨⟩
    refine (Select.legible_phrase hσ query h).between ?_ (by decide)
    cases negated <;> decide
  | .negation criterion, h => by
    rw [Predicate.texts] at h
    unfold Predicate.phrase?
    intro q hq
    obtain ⟨r, hr, rfl⟩ := Option.map_eq_some_iff.1 hq
    exact (Chain.legible_phrase? (Criterion.legible_parts hσ criterion h) r hr).between (by decide)
      (by decide)

theorem Criterion.legible_parts {σ : Scopes} (hσ : ∀ s ∈ σ.texts, Plain s) :
    ∀ c : Criterion, (∀ s ∈ c.texts, Plain s) → ∀ part ∈ c.parts σ, Legible part.2
  | ⟨_, predicate, attached⟩, h => by
    rw [Criterion.texts, forall_mem_append] at h
    rw [Criterion.parts, forall_mem_append]
    exact ⟨Criterion.legible_initialParts hσ predicate h.1, Criterion.legible_chain hσ attached h.2⟩

theorem Criterion.legible_initialParts {σ : Scopes} (hσ : ∀ s ∈ σ.texts, Plain s) :
    ∀ p : Option Predicate, (∀ s ∈ Predicate.initialTexts p, Plain s) →
      ∀ part ∈ Criterion.initialParts σ p, Legible part.2
  | none, _ => by simp [Criterion.initialParts]
  | some p, h => by
    rw [Predicate.initialTexts] at h
    unfold Criterion.initialParts
    intro part hm
    obtain ⟨q, hq, rfl⟩ := Option.map_eq_some_iff.1 (Option.mem_toList.1 hm)
    exact Predicate.legible_phrase? hσ p h q hq

theorem Criterion.legible_chain {σ : Scopes} (hσ : ∀ s ∈ σ.texts, Plain s) :
    ∀ cs : List Criterion, (∀ s ∈ Criterion.allTexts cs, Plain s) →
      ∀ part ∈ Criterion.chain σ cs, Legible part.2
  | [], _ => by simp [Criterion.chain]
  | c :: cs, h => by
    rw [Criterion.allTexts, forall_mem_append] at h
    rw [Criterion.chain, forall_mem_append]
    refine ⟨fun part hm => ?_, Criterion.legible_chain hσ cs h.2⟩
    obtain ⟨q, hq, rfl⟩ := Option.map_eq_some_iff.1 (Option.mem_toList.1 hm)
    exact Chain.legible_operand? (Criterion.legible_parts hσ c h.1) q hq

theorem Source.legible_phrase {σ : Scopes} (hσ : ∀ s ∈ σ.texts, Plain s) :
    ∀ s : Source, (∀ t ∈ s.texts, Plain t) → Legible (s.phrase σ)
  | .table t, h => by
    rw [Source.texts, List.forall_mem_singleton] at h
    unfold Source.phrase
    exact .text (Scopes.plain_tableName hσ h)
  | .subquery query a, h => by
    rw [Source.texts, forall_mem_cons] at h
    unfold Source.phrase
    exact (Select.legible_phrase hσ query h.2).between (by decide)
      (Text.Breaks.append (by decide) h.1)

theorem Source.legible_fromPhrases {σ : Scopes} (hσ : ∀ s ∈ σ.texts, Plain s) :
    ∀ s : Option Source, (∀ t ∈ Source.fromTexts s, Plain t) →
      ∀ p ∈ Source.fromPhrases σ s, Legible p
  | none, _ => by simp [Source.fromPhrases]
  | some s, h => by
    rw [Source.fromTexts] at h
    rw [Source.fromPhrases, List.forall_mem_singleton]
    exact (Source.legible_phrase hσ s h).after (by decide)

theorem Join.legible_phrase {σ : Scopes} (hσ : ∀ s ∈ σ.texts, Plain s) :
    ∀ j : Join, (∀ s ∈ j.texts, Plain s) → Legible (j.phrase σ)
  | ⟨kind, source, criteria⟩, h => by
    rw [Join.texts, forall_mem_append] at h
    unfold Join.phrase
    have hk : Plain kind.text := by cases kind <;> decide
    have hc := Chain.legible_phrase? (Criterion.legible_chain hσ criteria h.2)
    exact .join (by decide) (forall_mem_cons.2 ⟨.text hk, forall_mem_cons.2
      ⟨Source.legible_phrase hσ source h.1, Legible.clause (by decide) hc⟩⟩)

theorem Join.legible_phrases {σ : Scopes} (hσ : ∀ s ∈ σ.texts, Plain s) :
    ∀ js : List Join, (∀ s ∈ Join.allTexts js, Plain s) → ∀ p ∈ Join.phrases σ js, Legible p
  | [], _ => by simp [Join.phrases]
  | j :: js, h => by
    rw [Join.allTexts, forall_mem_append] at h
    rw [Join.phrases, forall_mem_cons]
    exact ⟨Join.legible_phrase hσ j h.1, Join.legible_phrases hσ js h.2⟩

theorem QueryBlock.legible_clauses {σ : Scopes} (hσ : ∀ s ∈ σ.texts, Plain s) :
    ∀ b : QueryBlock, (∀ s ∈ b.texts, Plain s) → ∀ p ∈ b.clauses σ, Legible p
  | ⟨_, distinct, columns, source, _, joins, criteria, groupBy, having⟩, h => by
    simp only [QueryBlock.texts, forall_mem_append] at h
    obtain ⟨-, hc, hs, hj, hw, hg, hh⟩ := h
    simp only [QueryBlock.clauses, forall_mem_cons, forall_mem_append]
    have hk : Plain (if distinct then "select distinct " else "select ") := by
      cases distinct <;> decide
    refine ⟨(Legible.join (by decide) (Expr.legible_selectPhrases hσ columns hc)).after hk,
      ⟨⟨⟨⟨?_, ?_⟩, ?_⟩, ?_⟩, ?_⟩⟩
    · exact Source.legible_fromPhrases hσ source hs
    · exact Join.legible_phrases hσ joins hj
    · exact .clause (by decide) (Chain.legible_phrase? (Criterion.legible_chain hσ criteria hw))
    · exact .listClause (by decide) (Expr.legible_phrases hσ groupBy hg)
    · exact .clause (by decide) (Chain.legible_phrase? (Criterion.legible_chain hσ having hh))

theorem QueryBlock.legible_phrases {σ : Scopes} (hσ : ∀ s ∈ σ.texts, Plain s) :
    ∀ bs : List QueryBlock, (∀ s ∈ QueryBlock.allTexts bs, Plain s) →
      ∀ p ∈ QueryBlock.phrases σ bs, Legible p
  | [], _ => by simp [QueryBlock.phrases]
  | b :: bs, h => by
    rw [QueryBlock.allTexts, forall_mem_append] at h
    rw [QueryBlock.phrases, forall_mem_append, forall_mem_cons]
    have hb := QueryBlock.legible_clauses (b.plain_scope hσ h.1) b h.1
    refine ⟨?_, QueryBlock.legible_guarded _ hb, QueryBlock.legible_phrases hσ bs h.2⟩
    rcases b.connector with _ | _ | _
    · simp
    · simpa using Legible.text (by decide)
    · simpa using Legible.text (by decide)

/-- A select is legible if none of its texts, and no alias around it, holds a mark. -/
theorem Select.legible_phrase {σ : Scopes} (hσ : ∀ s ∈ σ.texts, Plain s) :
    ∀ q : Select, (∀ s ∈ q.texts, Plain s) → Legible (q.phrase σ)
  | ⟨blocks, orderBy, paging⟩, h => by
    rw [Select.texts, forall_mem_append] at h
    unfold Select.phrase
    split
    next => exact .fail _
    next =>
      refine .join (by decide) ?_
      simp only [forall_mem_append]
      refine ⟨⟨QueryBlock.legible_phrases hσ blocks h.1, ?_⟩, ?_⟩
      · cases orderBy with
        | none => simp
        | some items =>
          exact SortItem.legible_clause (Select.plain_orderScopes hσ blocks h.1) h.2
      · cases paging with
        | none => simp
        | some p => exact Paging.legible_phrases p

end

end Queries

end SqlStatement
