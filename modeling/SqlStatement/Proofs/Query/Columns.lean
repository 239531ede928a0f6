import SqlStatement.Proofs.Phrase.Writing
import SqlStatement.Proofs.Query.Names

/-! # The columns of a query in its text

The names of the columns of a query stand in its text one behind the other, in the order of the
sites, each as the scopes of its place name the column.
-/

namespace SqlStatement

/-- The names stand in the text in this order, none in another, whatever is between them. -/
inductive Text.Spread : List String → String → Prop
  | nil (text : String) : Spread [] text
  | cons (before name : String) {names : List String} {text : String} (h : Spread names text) :
      Spread (name :: names) (before ++ (name ++ text))

namespace Text.Spread

variable {names names' : List String} {text text' : String}

theorem behind (before : String) (h : Spread names text) : Spread names (before ++ text) := by
  cases h with
  | nil => exact .nil _
  | cons before' name h =>
    rw [← String.append_assoc]
    exact .cons (before ++ before') name h

theorem append (h : Spread names text) (h' : Spread names' text') :
    Spread (names ++ names') (text ++ text') := by
  induction h with
  | nil text => exact h'.behind text
  | cons before name h ih =>
    rw [String.append_assoc, String.append_assoc]
    exact .cons before name ih

theorem ahead (after : String) (h : Spread names text) : Spread names (text ++ after) := by
  simpa using h.append (.nil after)

theorem self (name : String) : Spread [name] name := by
  simpa using cons "" name (.nil "")

theorem joined_cons {separator t : String} {texts : List String} (h : Spread names t)
    (h' : Spread names' (Phrase.joined separator texts)) :
    Spread (names ++ names') (Phrase.joined separator (t :: texts)) := by
  rcases eq_or_ne t "" with rfl | ht
  · rw [Phrase.joined_empty_cons, ← String.empty_append (s := Phrase.joined separator texts)]
    exact h.append h'
  · rw [Phrase.joined_cons ht]
    split
    next he => simpa [he] using h.append h'
    next => exact (h.ahead separator).append h'

theorem intercalate {α : Type} {f : α → List String} {g : α → String}
    (h : ∀ x, Spread (f x) (g x)) (separator : String) (xs : List α) :
    Spread (xs.flatMap f) (separator.intercalate (xs.map g)) := by
  induction xs with
  | nil => exact .nil _
  | cons x xs ih =>
    cases xs with
    | nil => simpa using h x
    | cons y ys =>
      rw [List.map_cons, List.map_cons, String.intercalate_cons_cons]
      exact ((h x).ahead separator).append ih

end Text.Spread

namespace Phrase

/-- The names stand in the text of the phrase, for every strategy and from every number on. -/
def Bears (names : List String) (p : Phrase) : Prop :=
  ∀ strategy n, Text.Spread names (p.wording strategy n)

inductive BearAll : List String → List Phrase → Prop
  | nil : BearAll [] []
  | cons {names names' : List String} {p : Phrase} {ps : List Phrase} (h : p.Bears names)
      (hs : BearAll names' ps) : BearAll (names ++ names') (p :: ps)

variable {names names' names'' : List String} {p : Phrase} {ps qs : List Phrase}

namespace Bears

theorem silent (p : Phrase) : p.Bears [] := fun _ _ => .nil _

theorem text (s : String) : (Phrase.text s).Bears [s] := by
  intro strategy n
  rw [wording]
  exact .self s

theorem after (h : p.Bears names) (s : String) : (Phrase.after s p).Bears names := by
  intro strategy n
  rw [wording_after]
  exact (h strategy n).behind s

theorem between (h : p.Bears names) (s t : String) : (Phrase.between s p t).Bears names := by
  intro strategy n
  rw [wording_between]
  exact ((h strategy n).behind s).ahead t

end Bears

namespace BearAll

theorem silent (ps : List Phrase) : BearAll [] ps := by
  induction ps with
  | nil => exact .nil
  | cons p ps ih => exact .cons (.silent p) ih

theorem append (h : BearAll names ps) (h' : BearAll names' qs) :
    BearAll (names ++ names') (ps ++ qs) := by
  induction h with
  | nil => exact h'
  | cons hp _ ih =>
    rw [List.append_assoc]
    exact .cons hp ih

theorem flatMap {α : Type} {f : α → List String} {g : α → List Phrase}
    (h : ∀ x, BearAll (f x) (g x)) (xs : List α) : BearAll (xs.flatMap f) (xs.flatMap g) := by
  induction xs with
  | nil => exact .nil
  | cons x xs ih => exact (h x).append ih

theorem nil_iff : BearAll names [] ↔ names = [] := by
  constructor
  · rintro ⟨⟩
    rfl
  · rintro rfl
    exact .nil

theorem singleton_iff : BearAll names [p] ↔ p.Bears names := by
  constructor
  · intro h
    cases h with
    | cons hp hs =>
      cases hs
      rwa [List.append_nil]
  · intro h
    simpa using cons h .nil

theorem join (h : BearAll names ps) (separator : String) :
    (Phrase.join separator ps).Bears names := by
  intro strategy n
  rw [wording]
  induction h generalizing n with
  | nil => exact .nil _
  | cons hp _ ih =>
    rw [wordings]
    exact (hp strategy n).joined_cons (ih _)

theorem clause {p : Option Phrase} (h : BearAll names p.toList) (keyword : String) :
    BearAll names (Phrase.clause keyword p) := by
  cases p with
  | none => exact h
  | some p => exact singleton_iff.2 ((singleton_iff.1 h).after _)

theorem listClause (h : BearAll names ps) (keyword : String) :
    BearAll names (Phrase.listClause keyword ps) := by
  rw [Phrase.listClause]
  split
  next he => rwa [List.isEmpty_iff.1 he] at h
  next => exact singleton_iff.2 ((h.join ", ").after _)

/-- What may be left out takes what is written with it along. -/
theorem optional {o : Option Phrase} {absent : Prop} [Decidable absent]
    (g : Option Phrase → List Phrase) (ha : o = none ↔ absent) (h : BearAll names o.toList)
    (hn : g none = []) (hs : ∀ p, p.Bears names → BearAll names' (g (some p))) :
    BearAll (if absent then [] else names') (g o) := by
  cases o with
  | none =>
    rw [if_pos (ha.1 rfl), hn]
    exact .nil
  | some p =>
    rw [if_neg (mt ha.2 (Option.some_ne_none p))]
    exact hs p (singleton_iff.1 h)

theorem caseBranch {test : Phrase} {result : Phrase} (h : test.Bears names)
    (hr : result.Bears names') : BearAll (names ++ names') (Phrase.caseBranch (some test) result) :=
  .cons (h.after "when ") (singleton_iff.2 (hr.after "then "))

end BearAll

/-- Where no branch is written, no `else` is either. -/
theorem Bears.case {isEmpty isBare : Bool} {opening : Phrase} {branches otherwise : List Phrase}
    (he : isEmpty = true → branches = []) (hb : branches = [] ↔ isBare = true)
    (ho : opening.Bears names) (hs : BearAll names' branches) (hr : BearAll names'' otherwise) :
    (if isEmpty then Phrase.fail .emptyCase else caseWords opening branches otherwise).Bears
      ((if isEmpty then [] else names) ++ (names' ++ if isBare then [] else names'')) := by
  cases isEmpty with
  | true =>
    obtain rfl := he rfl
    cases hs
    rw [hb.1 rfl]
    exact .silent _
  | false =>
    cases isBare with
    | true =>
      obtain rfl := hb.2 rfl
      cases hs
      exact (BearAll.cons ho (.silent _)).join " "
    | false =>
      have hne : branches.isEmpty = false := by
        rw [Bool.eq_false_iff, ne_eq, List.isEmpty_iff, hb]
        exact Bool.false_ne_true
      have hw := hs.append (hr.append (.silent [Phrase.text "end"]))
      rw [List.append_nil, ← List.append_assoc branches] at hw
      rw [caseWords, hne]
      exact (BearAll.cons ho hw).join " "

theorem BearAll.comparison? {subject : Phrase} {right : Phrase} (h : subject.Bears names)
    (hr : right.Bears names') (ignoresCase : Bool) :
    BearAll (names ++ names') (Phrase.comparison? subject ignoresCase (some right)).toList := by
  have hs : (if ignoresCase then Phrase.between "upper(" subject ")" else subject).Bears names := by
    cases ignoresCase with
    | true => exact h.between _ _
    | false => exact h
  exact singleton_iff.2
    ((BearAll.cons hs (.cons (.silent (Phrase.text " ")) (singleton_iff.2 hr))).join "")

end Phrase

open Phrase (Bears BearAll)

namespace Chain

variable {names : List String} {parts : Chain}

theorem bearAll_link (h : BearAll names (parts.map Prod.snd)) :
    BearAll names (parts.map link) := by
  induction parts generalizing names with
  | nil => exact h
  | cons part parts ih =>
    rcases h with - | ⟨hp, hs⟩
    exact .cons (hp.after _) (ih hs)

theorem bearAll_phrase? (h : BearAll names (parts.map Prod.snd)) :
    BearAll names parts.phrase?.toList := by
  cases parts with
  | nil => exact h
  | cons part parts =>
    rcases h with - | ⟨hp, hs⟩
    exact BearAll.singleton_iff.2 ((BearAll.cons hp (bearAll_link hs)).join " ")

theorem bearAll_parens (h : BearAll names (parts.map Prod.snd)) (s t : String) :
    BearAll names (parts.phrase?.map (Phrase.between s · t)).toList := by
  have hp := bearAll_phrase? h
  cases hq : parts.phrase? with
  | none => rwa [hq] at hp
  | some p =>
    rw [hq] at hp
    exact BearAll.singleton_iff.2 ((BearAll.singleton_iff.1 hp).between s t)

theorem bearAll_operand? (h : BearAll names (parts.map Prod.snd)) :
    BearAll names parts.operand?.toList := by
  rw [operand?]
  split
  · exact bearAll_parens h "(" ")"
  · exact bearAll_phrase? h

end Chain

/-- The name of a column under the scopes of its place, with these scopes around. -/
def Site.name? (σ : Scopes) (x : Site) : Option String :=
  match x.part with
  | .column c => some ((x.nesting.scopes ++ σ).columnName c)
  | _ => none

section Places

variable (σ : Scopes) (n : Nesting)

theorem SortItem.spread_text (s : SortItem) :
    Text.Spread ((s.sites n).filterMap (Site.name? σ)) (s.text (n.scopes ++ σ)) := by
  obtain ⟨key, descending⟩ := s
  have hd {names : List String} {key : String} (h : Text.Spread names key) :
      Text.Spread names (if descending = true then key ++ " DESC" else key) := by
    split
    · exact h.ahead " DESC"
    · exact h
  cases key with
  | column c =>
    cases hl : c.label with
    | some a =>
      simp only [sites, text, hl]
      exact hd (.nil a)
    | none =>
      simp only [sites, text, hl]
      exact hd (.self _)
  | name a =>
    rw [sites, text]
    exact hd (.nil a)

theorem SortItem.bearAll_clause (items : List SortItem) :
    BearAll ((items.flatMap (SortItem.sites n)).filterMap (Site.name? σ))
      (SortItem.clause (n.scopes ++ σ) items) := by
  rw [clause]
  split
  next he => rw [List.isEmpty_iff.1 he]; exact .nil
  next =>
    refine BearAll.singleton_iff.2 fun strategy k => ?_
    rw [Phrase.wording, List.filterMap_flatMap]
    exact (Text.Spread.intercalate (SortItem.spread_text σ n) ", " items).behind _

theorem Expr.bears_selected {names : List String} {p : Phrase} (h : p.Bears names)
    (label : Option String) : (Expr.selected p label).Bears names := by
  cases label with
  | none => exact h
  | some a =>
    have hs := (BearAll.cons h (.silent [Phrase.text (" as " ++ a)])).join ""
    rwa [List.append_nil] at hs

end Places

section Queries

variable (σ : Scopes)

mutual

theorem Expr.bears_phrase (n : Nesting) : ∀ e : Expr,
    (e.phrase (n.scopes ++ σ)).Bears ((e.sites n).filterMap (Site.name? σ))
  | .column c => by
    rw [Expr.phrase, Expr.sites]
    exact .text _
  | .aggregate f argument _ => by
    rw [Expr.phrase, Expr.sites]
    exact (Expr.bears_argumentPhrase n argument).between _ _
  | .function name arguments _ => by
    rw [Expr.phrase, Expr.sites]
    exact ((Expr.bearAll_phrases n arguments).join ", ").between _ _
  | .constant s _ => by
    rw [Expr.phrase, Expr.sites]
    exact .silent _
  | .stringConstant s _ => by
    rw [Expr.phrase, Expr.sites]
    exact .silent _
  | .case expression _ => by
    rw [Expr.phrase, Expr.sites]
    exact Case.bears_phrase n expression

theorem Expr.bears_argumentPhrase (n : Nesting) : ∀ a : Option Expr,
    (Expr.argumentPhrase (n.scopes ++ σ) a).Bears
      ((Expr.argumentSites n a).filterMap (Site.name? σ))
  | none => by
    rw [Expr.argumentPhrase, Expr.argumentSites]
    exact .silent _
  | some e => by
    rw [Expr.argumentPhrase, Expr.argumentSites]
    exact Expr.bears_phrase n e

theorem Expr.bearAll_phrases (n : Nesting) : ∀ es : List Expr,
    BearAll ((Expr.allSites n es).filterMap (Site.name? σ)) (Expr.phrases (n.scopes ++ σ) es)
  | [] => by
    rw [Expr.phrases, Expr.allSites]
    exact .nil
  | e :: es => by
    rw [Expr.phrases, Expr.allSites, List.filterMap_append]
    exact .cons (Expr.bears_phrase n e) (Expr.bearAll_phrases n es)

theorem Expr.bearAll_selectPhrases (n : Nesting) : ∀ es : List Expr,
    BearAll ((Expr.allSites n es).filterMap (Site.name? σ))
      (Expr.selectPhrases (n.scopes ++ σ) es)
  | [] => by
    rw [Expr.selectPhrases, Expr.allSites]
    exact .nil
  | e :: es => by
    rw [Expr.selectPhrases, Expr.allSites, List.filterMap_append]
    exact .cons (Expr.bears_selected (Expr.bears_phrase n e) _) (Expr.bearAll_selectPhrases n es)

theorem Case.bears_phrase (n : Nesting) : ∀ c : Case,
    (c.phrase (n.scopes ++ σ)).Bears ((c.sites n).filterMap (Site.name? σ))
  | .searched branches otherwise => by
    have he : branches.isEmpty = true → SearchedBranch.phrases (n.scopes ++ σ) branches = [] :=
      fun h => by rw [List.isEmpty_iff.1 h, SearchedBranch.phrases]
    have h := Bears.case he SearchedBranch.phrases_eq_nil_iff (.silent (.text "case"))
      (SearchedBranch.bearAll_phrases n branches) (CaseResult.bearAll_otherwisePhrases n otherwise)
    rw [Case.phrase, Case.sites, List.filterMap_append, List.filterMap_cons_none rfl,
      apply_ite (List.filterMap (Site.name? σ))]
    simpa only [ite_self, List.filterMap_nil, List.nil_append] using h
  | .simple operand branches otherwise => by
    have he : branches.isEmpty = true →
        SimpleBranch.phrases (n.scopes ++ σ) operand.bindingColumn branches = [] :=
      fun h => by rw [List.isEmpty_iff.1 h, SimpleBranch.phrases]
    have h := Bears.case he SimpleBranch.phrases_eq_nil_iff
      ((Expr.bears_phrase n operand).after "case ")
      (SimpleBranch.bearAll_phrases n operand.bindingColumn branches)
      (CaseResult.bearAll_otherwisePhrases n otherwise)
    rw [Case.phrase, Case.sites, List.filterMap_append, List.filterMap_append,
      List.filterMap_cons_none rfl, apply_ite (List.filterMap (Site.name? σ)),
      apply_ite (List.filterMap (Site.name? σ))]
    exact h

theorem SearchedBranch.bearAll_phrase (n : Nesting) : ∀ b : SearchedBranch,
    BearAll ((b.sites n).filterMap (Site.name? σ)) (b.phrase (n.scopes ++ σ))
  | ⟨criteria, result⟩ => by
    rw [SearchedBranch.phrase, SearchedBranch.sites, apply_ite (List.filterMap (Site.name? σ)),
      List.filterMap_append]
    exact .optional (Phrase.caseBranch · _) ((Criterion.phrase?_chain_eq_none_iff _ _).trans List.isEmpty_iff.symm)
      (Chain.bearAll_phrase? (Criterion.bearAll_chain n criteria)) rfl
      fun p hp => .caseBranch hp (CaseResult.bears_phrase n result)

theorem SearchedBranch.bearAll_phrases (n : Nesting) : ∀ branches : List SearchedBranch,
    BearAll ((SearchedBranch.allSites n branches).filterMap (Site.name? σ))
      (SearchedBranch.phrases (n.scopes ++ σ) branches)
  | [] => by
    rw [SearchedBranch.phrases, SearchedBranch.allSites]
    exact .nil
  | b :: branches => by
    rw [SearchedBranch.phrases, SearchedBranch.allSites, List.filterMap_append]
    exact (SearchedBranch.bearAll_phrase n b).append (SearchedBranch.bearAll_phrases n branches)

theorem SimpleBranch.bearAll_phrase (n : Nesting) (column : Option Column) : ∀ b : SimpleBranch,
    BearAll ((b.sites n).filterMap (Site.name? σ)) (b.phrase (n.scopes ++ σ) column)
  | ⟨test, result⟩ => by
    rw [SimpleBranch.phrase, SimpleBranch.sites, apply_ite (List.filterMap (Site.name? σ)),
      List.filterMap_append]
    exact .optional (Phrase.caseBranch · _) SimpleTest.phrase?_eq_none_iff
      (SimpleTest.bearAll_phrase? n column test) rfl
      fun p hp => .caseBranch hp (CaseResult.bears_phrase n result)

theorem SimpleBranch.bearAll_phrases (n : Nesting) (column : Option Column) :
    ∀ branches : List SimpleBranch,
    BearAll ((SimpleBranch.allSites n branches).filterMap (Site.name? σ))
      (SimpleBranch.phrases (n.scopes ++ σ) column branches)
  | [] => by
    rw [SimpleBranch.phrases, SimpleBranch.allSites]
    exact .nil
  | b :: branches => by
    rw [SimpleBranch.phrases, SimpleBranch.allSites, List.filterMap_append]
    exact (SimpleBranch.bearAll_phrase n column b).append
      (SimpleBranch.bearAll_phrases n column branches)

theorem SimpleTest.bearAll_phrase? (n : Nesting) (column : Option Column) : ∀ t : SimpleTest,
    BearAll ((t.sites n).filterMap (Site.name? σ)) (t.phrase? (n.scopes ++ σ) column).toList
  | .values [] => by
    rw [SimpleTest.phrase?, SimpleTest.sites]
    exact .silent _
  | .values (v :: vs) => by
    rw [SimpleTest.phrase?, SimpleTest.sites]
    exact .silent _
  | .condition c => by
    rw [SimpleTest.phrase?, SimpleTest.sites]
    exact Condition.bearAll_right? n column c

theorem CaseResult.bears_phrase (n : Nesting) : ∀ r : CaseResult,
    (r.phrase (n.scopes ++ σ)).Bears ((r.sites n).filterMap (Site.name? σ))
  | .stringConstant s => by
    rw [CaseResult.phrase, CaseResult.sites]
    exact .silent _
  | .constant s => by
    rw [CaseResult.phrase, CaseResult.sites]
    exact .silent _
  | .value v => by
    rw [CaseResult.phrase, CaseResult.sites]
    exact .silent _
  | .expr e => by
    rw [CaseResult.phrase, CaseResult.sites]
    exact Expr.bears_phrase n e

theorem CaseResult.bearAll_otherwisePhrases (n : Nesting) : ∀ r : Option CaseResult,
    BearAll ((CaseResult.otherwiseSites n r).filterMap (Site.name? σ))
      (CaseResult.otherwisePhrases (n.scopes ++ σ) r)
  | none => by
    rw [CaseResult.otherwisePhrases, CaseResult.otherwiseSites]
    exact .nil
  | some r => by
    rw [CaseResult.otherwisePhrases, CaseResult.otherwiseSites]
    exact BearAll.singleton_iff.2 ((CaseResult.bears_phrase n r).after _)

theorem Condition.bearAll_right? (n : Nesting) (column : Option Column) : ∀ c : Condition,
    BearAll ((c.sites n).filterMap (Site.name? σ)) (c.right? (n.scopes ++ σ) column).toList
  | .empty | .noValue _ | .single .. | .pair .. | .list .. => by
    rw [Condition.right?, Condition.sites]
    exact .silent _
  | .comparison operator other => by
    rw [Condition.right?, Condition.sites]
    exact BearAll.singleton_iff.2 ((Expr.bears_phrase n other).after _)
  | .subselect operator query => by
    rw [Condition.right?, Condition.sites]
    exact BearAll.singleton_iff.2 ((Select.bears_phrase n query).between _ _)

theorem Predicate.bearAll_phrase? (n : Nesting) : ∀ p : Predicate,
    BearAll ((p.sites n).filterMap (Site.name? σ)) (p.phrase? (n.scopes ++ σ)).toList
  | .compare subject condition => by
    rw [Predicate.phrase?, Predicate.sites, apply_ite (List.filterMap (Site.name? σ)),
      List.filterMap_append]
    exact .optional (Phrase.comparison? _ _ · |>.toList) Condition.right?_eq_none_iff
      (Condition.bearAll_right? n subject.bindingColumn condition) rfl
      fun p hp => .comparison? (Expr.bears_phrase n subject) hp _
  | .existence query negated => by
    rw [Predicate.phrase?, Predicate.sites]
    exact BearAll.singleton_iff.2 ((Select.bears_phrase n query).between _ _)
  | .negation criterion => by
    rw [Predicate.phrase?, Predicate.sites]
    exact Chain.bearAll_parens (Criterion.bearAll_parts n criterion) _ _

theorem Criterion.bearAll_parts (n : Nesting) : ∀ c : Criterion,
    BearAll ((c.sites n).filterMap (Site.name? σ)) ((c.parts (n.scopes ++ σ)).map Prod.snd)
  | ⟨_, predicate, attached⟩ => by
    rw [Criterion.parts, Criterion.sites, List.filterMap_append, List.map_append]
    exact (Criterion.bearAll_initialParts n predicate).append (Criterion.bearAll_chain n attached)

theorem Criterion.bearAll_initialParts (n : Nesting) : ∀ p : Option Predicate,
    BearAll ((Predicate.initialSites n p).filterMap (Site.name? σ))
      ((Criterion.initialParts (n.scopes ++ σ) p).map Prod.snd)
  | none => by
    rw [Criterion.initialParts, Predicate.initialSites]
    exact .nil
  | some p => by
    rw [Criterion.initialParts, Predicate.initialSites, Chain.map_snd_toList]
    exact Predicate.bearAll_phrase? n p

theorem Criterion.bearAll_chain (n : Nesting) : ∀ cs : List Criterion,
    BearAll ((Criterion.allSites n cs).filterMap (Site.name? σ))
      ((Criterion.chain (n.scopes ++ σ) cs).map Prod.snd)
  | [] => by
    rw [Criterion.chain, Criterion.allSites]
    exact .nil
  | c :: cs => by
    rw [Criterion.chain, Criterion.allSites, List.filterMap_append, List.map_append,
      Chain.map_snd_toList]
    exact (Chain.bearAll_operand? (Criterion.bearAll_parts n c)).append
      (Criterion.bearAll_chain n cs)

theorem Source.bears_phrase (n : Nesting) : ∀ s : Source,
    (s.phrase (n.scopes ++ σ)).Bears ((s.sites n).filterMap (Site.name? σ))
  | .table t => by
    rw [Source.phrase, Source.sites]
    exact .silent _
  | .subquery query a => by
    rw [Source.phrase, Source.sites]
    exact (Select.bears_phrase n query).between _ _

theorem Source.bearAll_fromPhrases (n : Nesting) : ∀ s : Option Source,
    BearAll ((Source.fromSites n s).filterMap (Site.name? σ))
      (Source.fromPhrases (n.scopes ++ σ) s)
  | none => by
    rw [Source.fromPhrases, Source.fromSites]
    exact .nil
  | some s => by
    rw [Source.fromPhrases, Source.fromSites]
    exact BearAll.singleton_iff.2 ((Source.bears_phrase n s).after _)

theorem Join.bears_phrase (n : Nesting) : ∀ j : Join,
    (j.phrase (n.scopes ++ σ)).Bears ((j.sites n).filterMap (Site.name? σ))
  | ⟨kind, source, criteria⟩ => by
    have hc := (Chain.bearAll_phrase? (Criterion.bearAll_chain n criteria)).clause "on"
    rw [Join.phrase, Join.sites, List.filterMap_append]
    exact (BearAll.cons (.silent _) (.cons (Source.bears_phrase n source) hc)).join " "

theorem Join.bearAll_phrases (n : Nesting) : ∀ js : List Join,
    BearAll ((Join.allSites n js).filterMap (Site.name? σ)) (Join.phrases (n.scopes ++ σ) js)
  | [] => by
    rw [Join.phrases, Join.allSites]
    exact .nil
  | j :: js => by
    rw [Join.phrases, Join.allSites, List.filterMap_append]
    exact .cons (Join.bears_phrase n j) (Join.bearAll_phrases n js)

theorem QueryBlock.bearAll_clauses (n : Nesting) : ∀ b : QueryBlock,
    BearAll ((b.sites n).filterMap (Site.name? σ)) (b.clauses (n.scopes ++ σ))
  | ⟨_, distinct, columns, source, _, joins, criteria, groupBy, having⟩ => by
    have hc := ((Expr.bearAll_selectPhrases n columns).join ", ").after
      (if distinct then "select distinct " else "select ")
    have hw := (Chain.bearAll_phrase? (Criterion.bearAll_chain n criteria)).clause "where"
    have hg := (Expr.bearAll_phrases n groupBy).listClause "group by"
    have hh := (Chain.bearAll_phrase? (Criterion.bearAll_chain n having)).clause "having"
    have hr := (((Source.bearAll_fromPhrases n source).append
      (Join.bearAll_phrases n joins)).append hw |>.append hg).append hh
    rw [QueryBlock.clauses, QueryBlock.sites]
    simpa only [List.filterMap_append, List.append_assoc] using BearAll.cons hc hr

theorem QueryBlock.bearAll_phrases (n : Nesting) : ∀ blocks : List QueryBlock,
    BearAll ((QueryBlock.allSites n blocks).filterMap (Site.name? σ))
      (QueryBlock.phrases (n.scopes ++ σ) blocks)
  | [] => by
    rw [QueryBlock.phrases, QueryBlock.allSites]
    exact .nil
  | b :: blocks => by
    have hb : (QueryBlock.guarded b.fault? (b.clauses (b.scope :: (n.scopes ++ σ)))).Bears
        ((if b.fault?.isSome then [] else b.sites (n.within b)).filterMap (Site.name? σ)) := by
      cases b.fault? with
      | some e => exact .silent _
      | none => exact (QueryBlock.bearAll_clauses (n.within b) b).join " "
    rw [QueryBlock.phrases, QueryBlock.allSites, List.filterMap_cons_none rfl,
      List.filterMap_append]
    exact (BearAll.silent _).append (.cons hb (QueryBlock.bearAll_phrases n blocks))

theorem Select.bears_phrase (n : Nesting) : ∀ q : Select,
    (q.phrase (n.scopes ++ σ)).Bears ((q.sites n).filterMap (Site.name? σ))
  | ⟨blocks, orderBy, paging⟩ => by
    have ho : BearAll
        (((orderBy.getD []).flatMap (SortItem.sites (Select.orderNesting n blocks))).filterMap
          (Site.name? σ))
        ((orderBy.map (SortItem.clause (Select.orderScopes (n.scopes ++ σ) blocks))).getD []) := by
      cases orderBy with
      | none => exact .nil
      | some items =>
        rw [Select.orderScopes_append]
        exact SortItem.bearAll_clause σ (Select.orderNesting n blocks) items
    have hp : (paging.toList.map fun p => (⟨n, .paging p⟩ : Site)).filterMap (Site.name? σ) = [] := by
      cases paging <;> rfl
    rw [Select.phrase, Select.sites, List.filterMap_cons_none rfl]
    split
    next => exact .silent _
    next =>
      rw [List.filterMap_append, List.filterMap_append, hp, ← List.append_assoc]
      exact (((QueryBlock.bearAll_phrases n blocks).append ho).append (.silent _)).join " "

end

end Queries

end SqlStatement
