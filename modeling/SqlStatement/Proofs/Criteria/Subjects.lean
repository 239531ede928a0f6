import SqlStatement.Proofs.Criteria.Tokens
import SqlStatement.Query.Condition
import SqlStatement.Statement.Select

/-! # The subjects of conditions

A condition that ignores case holds values in upper case. Where it is written as a criterion, its
subject is written in upper case with it. The operand of a case expression is written once, before
the branches, and as it stands: a condition of a branch has no subject of its own.
-/

namespace SqlStatement

open Rendering

namespace Phrase

variable {strategy : Strategy}

/-- Something is written of the phrase, whatever the strategy. -/
def Shown (p : Phrase) : Prop := ∀ strategy n, p.wording strategy n ≠ ""

/-- The texts of phrases, each behind a blank. -/
def spaced (strategy : Strategy) (n : UInt32) (ps : List Phrase) : String :=
  .join ((wordings strategy n ps).map (" " ++ ·))

@[simp] theorem spaced_nil (n : UInt32) : spaced strategy n [] = "" := by
  simp [spaced, wordings]

theorem spaced_cons (n : UInt32) (p : Phrase) (ps : List Phrase) :
    spaced strategy n (p :: ps) =
      " " ++ p.wording strategy n ++ spaced strategy (n + .ofNat p.bindings.length) ps := by
  simp [spaced, wordings, String.append_assoc]

theorem spaced_append (n : UInt32) (ps qs : List Phrase) :
    spaced strategy n (ps ++ qs) =
      spaced strategy n ps ++ spaced strategy (n + .ofNat (ps.flatMap bindings).length) qs := by
  rw [spaced, wordings_append, List.map_append, String.join_append, spaced, spaced]

theorem shown_text {s : String} (h : s ≠ "") : (text s).Shown := fun _ _ => by rwa [wording]

theorem shown_after {s : String} (h : s ≠ "") (p : Phrase) : (after s p).Shown := fun _ _ => by
  simp [h]

theorem wording_words_of_shown {p : Phrase} {ps : List Phrase} (hp : p.Shown)
    (hps : ∀ q ∈ ps, q.Shown) (n : UInt32) :
    (words (p :: ps)).wording strategy n =
      p.wording strategy n ++ spaced strategy (n + .ofNat p.bindings.length) ps := by
  induction ps generalizing p n with
  | nil => simp [words, wording, wordings]
  | cons q qs ih =>
    rw [List.forall_mem_cons] at hps
    have hq := ih hps.1 hps.2 (n + .ofNat p.bindings.length)
    have hne : joined " " (wordings strategy (n + .ofNat p.bindings.length) (q :: qs)) ≠ "" :=
      joined_cons_ne_empty (hps.1 strategy _) _
    rw [words, wording] at hq ⊢
    rw [wordings, joined_cons (hp strategy n), if_neg hne, hq, spaced_cons]
    simp only [String.append_assoc]

theorem shown_caseBranch (test : Option Phrase) (result : Phrase) :
    ∀ q ∈ caseBranch test result, q.Shown := by
  cases test with
  | none => simp [caseBranch]
  | some t =>
    rw [caseBranch, List.forall_mem_cons, List.forall_mem_singleton]
    exact ⟨shown_after (by decide) t, shown_after (by decide) result⟩

/-- The text of a case expression around the test of one of its branches, where the numbers are
those at which the branches, the test and what follows the test begin. -/
theorem wording_caseWords {opening test result : Phrase} {before after otherwise : List Phrase}
    (ho : opening.Shown) (hb : ∀ q ∈ before, q.Shown) (ha : ∀ q ∈ after, q.Shown)
    (he : ∀ q ∈ otherwise, q.Shown) {n m k l : UInt32}
    (hm : n + .ofNat opening.bindings.length = m)
    (hk : m + .ofNat (before.flatMap bindings).length = k)
    (hl : k + .ofNat test.bindings.length = l) :
    (caseWords opening (before ++ (caseBranch (some test) result ++ after)) otherwise).wording
        strategy n =
      opening.wording strategy n ++ spaced strategy m before ++ " when " ++
        test.wording strategy k ++
        spaced strategy l (.after "then " result :: after ++ (otherwise ++ [text "end"])) := by
  have hs : ∀ q ∈ before ++ (caseBranch (some test) result ++ after) ++ otherwise ++ [text "end"],
      q.Shown := by
    have hend : (text "end").Shown := shown_text (by decide)
    simp only [List.forall_mem_append, List.forall_mem_singleton]
    exact ⟨⟨⟨hb, shown_caseBranch (some test) result, ha⟩, he⟩, hend⟩
  have hn : ¬ (before ++ (caseBranch (some test) result ++ after)).isEmpty = true := by
    simp [caseBranch]
  have hw : " when " = " " ++ "when " := rfl
  rw [caseWords, if_neg hn, wording_words_of_shown ho hs, hm, List.append_assoc, List.append_assoc,
    spaced_append, hk, caseBranch]
  simp only [List.cons_append, List.nil_append, spaced_cons, wording_after, bindings_after, hl, hw,
    String.append_assoc]

end Phrase

section Branches

variable {σ : Scopes} {column : Option Column}

theorem SearchedBranch.phrases_append (bs cs : List SearchedBranch) :
    SearchedBranch.phrases σ (bs ++ cs) =
      SearchedBranch.phrases σ bs ++ SearchedBranch.phrases σ cs := by
  induction bs with
  | nil => rw [List.nil_append, SearchedBranch.phrases, List.nil_append]
  | cons b bs ih =>
    rw [List.cons_append, SearchedBranch.phrases, SearchedBranch.phrases, ih, List.append_assoc]

theorem SimpleBranch.phrases_append (bs cs : List SimpleBranch) :
    SimpleBranch.phrases σ column (bs ++ cs) =
      SimpleBranch.phrases σ column bs ++ SimpleBranch.phrases σ column cs := by
  induction bs with
  | nil => rw [List.nil_append, SimpleBranch.phrases, List.nil_append]
  | cons b bs ih =>
    rw [List.cons_append, SimpleBranch.phrases, SimpleBranch.phrases, ih, List.append_assoc]

theorem SearchedBranch.shown_phrases (bs : List SearchedBranch) :
    ∀ q ∈ SearchedBranch.phrases σ bs, q.Shown := by
  induction bs with
  | nil => simp [SearchedBranch.phrases]
  | cons b bs ih =>
    obtain ⟨criteria, result⟩ := b
    rw [SearchedBranch.phrases, List.forall_mem_append, SearchedBranch.phrase]
    exact ⟨Phrase.shown_caseBranch _ _, ih⟩

theorem SimpleBranch.shown_phrases (bs : List SimpleBranch) :
    ∀ q ∈ SimpleBranch.phrases σ column bs, q.Shown := by
  induction bs with
  | nil => simp [SimpleBranch.phrases]
  | cons b bs ih =>
    obtain ⟨test, result⟩ := b
    rw [SimpleBranch.phrases, List.forall_mem_append, SimpleBranch.phrase]
    exact ⟨Phrase.shown_caseBranch _ _, ih⟩

theorem CaseResult.shown_otherwisePhrases (otherwise : Option CaseResult) :
    ∀ q ∈ CaseResult.otherwisePhrases σ otherwise, q.Shown := by
  cases otherwise with
  | none => simp [CaseResult.otherwisePhrases]
  | some r =>
    rw [CaseResult.otherwisePhrases, List.forall_mem_singleton]
    exact Phrase.shown_after (by decide) _

end Branches

namespace Condition

/-- The text of a subject where the condition stands in criteria. -/
def subjectText (c : Condition) (text : String) : String :=
  if c.ignoresCase then "upper(" ++ text ++ ")" else text

theorem subjectText_eq_iff {c : Condition} {text : String} :
    c.subjectText text = text ↔ c.ignoresCase = false := by
  rw [subjectText]
  cases hc : c.ignoresCase with
  | false => simp
  | true =>
    have hl : ("upper(" ++ text ++ ")").length = 7 + text.length := by
      rw [String.length_append, String.length_append]
      change 6 + text.length + 1 = 7 + text.length
      omega
    have hne : "upper(" ++ text ++ ")" ≠ text := by
      intro h
      rw [h] at hl
      omega
    simp [hne]

end Condition

namespace Predicate

variable {σ : Scopes} {e : Expr} {c : Condition} {r : Phrase}

theorem wording_compare (hr : c.right? σ e.bindingColumn = some r) :
    ∃ p, (Predicate.compare e c).phrase? σ = some p ∧
      p.bindings = (e.phrase σ).bindings ++ r.bindings ∧
      ∀ strategy n, p.wording strategy n =
        c.subjectText ((e.phrase σ).wording strategy n) ++ " " ++
          r.wording strategy (n + .ofNat (e.phrase σ).bindings.length) := by
  rw [Predicate.phrase?, Phrase.comparison?, hr, Option.map_some]
  refine ⟨_, rfl, ?_, fun strategy n => ?_⟩
  · cases c.ignoresCase <;> simp
  · have hz (m : UInt32) : m + .ofNat (Phrase.text " ").bindings.length = m := by simp
    rw [Condition.subjectText]
    cases c.ignoresCase with
    | false => simp [Phrase.wording_concat_cons, Phrase.wording, String.append_assoc]
    | true =>
      simp only [Phrase.wording_concat_cons, Phrase.wording, Phrase.wording_concat_nil,
        Phrase.wording_between, Phrase.bindings_between, if_true, hz, String.append_assoc,
        String.append_empty]

end Predicate

namespace Criterion

theorem exists_leaf_mem_tokens {cs : List Criterion} {p : Predicate} (h : p ∈ allLeaves cs) :
    ∃ i, .leaf i p ∈ tokens cs := by
  obtain ⟨i, hi⟩ : ∃ i, (p, i) ∈ (allLeaves cs).zipIdx := by
    obtain ⟨i, hi, hp⟩ := List.getElem_of_mem h
    exact ⟨i, List.mem_zipIdx_iff_getElem?.2 (hp ▸ List.getElem?_eq_getElem hi)⟩
  rw [← leaves_tokens, Token.leaves, List.mem_filterMap] at hi
  obtain ⟨t, ht, hl⟩ := hi
  cases t with
  | leaf j q =>
    obtain ⟨rfl, rfl⟩ : q = p ∧ j = i := by simpa [Token.leaf?] using hl
    exact ⟨j, ht⟩
  | connector k => cases hl
  | not => cases hl
  | left => cases hl
  | right => cases hl

theorem wording_chain_compare {σ : Scopes} {e : Expr} {c : Condition} {r : Phrase}
    (hr : c.right? σ e.bindingColumn = some r) :
    ∃ q, (chain σ [.compare e c]).phrase? = some q ∧
      q.bindings = (e.phrase σ).bindings ++ r.bindings ∧
      ∀ strategy n, q.wording strategy n =
        c.subjectText ((e.phrase σ).wording strategy n) ++ " " ++
          r.wording strategy (n + .ofNat (e.phrase σ).bindings.length) := by
  obtain ⟨p, hp, hb, hw⟩ := Predicate.wording_compare hr
  refine ⟨.words [.words [p]], ?_, by simpa using hb, fun strategy n => ?_⟩
  · simp [chain, compare, ofPredicate, parts, initialParts, hp, Chain.operand?, Chain.phrase?]
  · simpa [Phrase.words, Phrase.wording, Phrase.wordings] using hw strategy n

end Criterion

namespace Case

variable {strategy : Strategy} {σ : Scopes} {e : Expr} {c : Condition} {r : Phrase}

theorem wording_searched (hr : c.right? σ e.bindingColumn = some r)
    (before after : List SearchedBranch) (result : CaseResult) (otherwise : Option CaseResult)
    {n m k l : UInt32}
    (hm : n + .ofNat ((SearchedBranch.phrases σ before).flatMap Phrase.bindings).length = m)
    (hk : m + .ofNat (e.phrase σ).bindings.length = k) (hl : k + .ofNat r.bindings.length = l) :
    (Case.phrase σ (.searched (before ++ ⟨[.compare e c], result⟩ :: after) otherwise)).wording
        strategy n =
      "case" ++ Phrase.spaced strategy n (SearchedBranch.phrases σ before) ++ " when " ++
        (c.subjectText ((e.phrase σ).wording strategy m) ++ " " ++ r.wording strategy k) ++
        Phrase.spaced strategy l
          (.after "then " (result.phrase σ) :: SearchedBranch.phrases σ after ++
            (CaseResult.otherwisePhrases σ otherwise ++ [.text "end"])) := by
  obtain ⟨q, hq, hb, hw⟩ := Criterion.wording_chain_compare hr
  have hn : ¬ (before ++ (⟨[.compare e c], result⟩ : SearchedBranch) :: after).isEmpty = true := by
    simp
  have hz : n + .ofNat (Phrase.text "case").bindings.length = n := by simp
  have hl' : m + .ofNat q.bindings.length = l := by
    rw [hb, List.length_append, UInt32.ofNat_add, ← UInt32.add_assoc, hk, hl]
  rw [Case.phrase, if_neg hn, SearchedBranch.phrases_append, SearchedBranch.phrases,
    SearchedBranch.phrase, hq, ← hk, ← hw]
  exact Phrase.wording_caseWords (Phrase.shown_text (by decide))
    (SearchedBranch.shown_phrases before) (SearchedBranch.shown_phrases after)
    (CaseResult.shown_otherwisePhrases otherwise) hz hm hl'

/-- A branch of a simple case has nothing but the right side behind its `when`. -/
theorem wording_simple (hr : c.right? σ e.bindingColumn = some r)
    (before after : List SimpleBranch) (result : CaseResult) (otherwise : Option CaseResult)
    {n m k l : UInt32} (hm : n + .ofNat (e.phrase σ).bindings.length = m)
    (hk : m + .ofNat
      ((SimpleBranch.phrases σ e.bindingColumn before).flatMap Phrase.bindings).length = k)
    (hl : k + .ofNat r.bindings.length = l) :
    (Case.phrase σ (.simple e (before ++ ⟨.condition c, result⟩ :: after) otherwise)).wording
        strategy n =
      "case " ++ (e.phrase σ).wording strategy n ++
        Phrase.spaced strategy m (SimpleBranch.phrases σ e.bindingColumn before) ++ " when " ++
        r.wording strategy k ++
        Phrase.spaced strategy l
          (.after "then " (result.phrase σ) :: SimpleBranch.phrases σ e.bindingColumn after ++
            (CaseResult.otherwisePhrases σ otherwise ++ [.text "end"])) := by
  have hn : ¬ (before ++ (⟨.condition c, result⟩ : SimpleBranch) :: after).isEmpty = true := by simp
  have hm' : n + .ofNat (Phrase.after "case " (e.phrase σ)).bindings.length = m := by
    rwa [Phrase.bindings_after]
  rw [Case.phrase, if_neg hn, SimpleBranch.phrases_append, SimpleBranch.phrases,
    SimpleBranch.phrase, SimpleTest.phrase?, hr, ← Phrase.wording_after strategy n "case "]
  exact Phrase.wording_caseWords (Phrase.shown_after (by decide) _)
    (SimpleBranch.shown_phrases before) (SimpleBranch.shown_phrases after)
    (CaseResult.shown_otherwisePhrases otherwise) hm' hk hl

end Case

namespace Condition

/-- Criteria are spelled by tokens, and wherever a comparison is a leaf of them, its token is the
subject, in upper case where case is ignored, and the right side. A branch of a searched case holds
the same text behind its `when`. A branch of a simple case holds the right side alone, and its
operand stands before all branches as it is, also where the condition ignores case. -/
theorem subject_written (σ : Scopes) (strategy : Strategy) (e : Expr) {c : Condition}
    (hc : c.isEmpty = false) :
    ∃ r, c.right? σ e.bindingColumn = some r ∧
      (∀ cs, .compare e c ∈ Criterion.allLeaves cs →
        ∃ q i, (Criterion.chain σ cs).phrase? = some q ∧
          Token.Spelled σ q (Criterion.tokens cs) ∧ .leaf i (.compare e c) ∈ Criterion.tokens cs ∧
          ∀ n, (Token.phrase σ (.leaf i (.compare e c))).wording strategy n =
            c.subjectText ((e.phrase σ).wording strategy n) ++ " " ++
              r.wording strategy (n + .ofNat (e.phrase σ).bindings.length)) ∧
      (∀ before after result otherwise label s f t,
        let branches := before ++ ⟨[.compare e c], result⟩ :: after
        let former := SearchedBranch.phrases σ before
        let m := s.next + .ofNat (former.flatMap Phrase.bindings).length
        let k := m + .ofNat (e.phrase σ).bindings.length
        (((Expr.case (.searched branches otherwise) label).phrase σ).render strategy).outcome s =
            (.ok f, t) →
          f.text = "case" ++ Phrase.spaced strategy s.next former ++ " when " ++
            (c.subjectText ((e.phrase σ).wording strategy m) ++ " " ++ r.wording strategy k) ++
            Phrase.spaced strategy (k + .ofNat r.bindings.length)
              (.after "then " (result.phrase σ) :: SearchedBranch.phrases σ after ++
                (CaseResult.otherwisePhrases σ otherwise ++ [.text "end"]))) ∧
      (∀ before after result otherwise label s f t,
        let branches := before ++ ⟨.condition c, result⟩ :: after
        let former := SimpleBranch.phrases σ e.bindingColumn before
        let m := s.next + .ofNat (e.phrase σ).bindings.length
        let k := m + .ofNat (former.flatMap Phrase.bindings).length
        (((Expr.case (.simple e branches otherwise) label).phrase σ).render strategy).outcome s =
            (.ok f, t) →
          f.text = "case " ++ (e.phrase σ).wording strategy s.next ++
            Phrase.spaced strategy m former ++ " when " ++ r.wording strategy k ++
            Phrase.spaced strategy (k + .ofNat r.bindings.length)
              (.after "then " (result.phrase σ) :: SimpleBranch.phrases σ e.bindingColumn after ++
                (CaseResult.otherwisePhrases σ otherwise ++ [.text "end"]))) ∧
      ∀ text, c.subjectText text = text ↔ c.ignoresCase = false := by
  obtain ⟨r, hr⟩ : ∃ r, c.right? σ e.bindingColumn = some r := by
    rw [← Option.ne_none_iff_exists', Ne, right?_eq_none_iff, hc]
    exact Bool.false_ne_true
  refine ⟨r, hr, ?_, ?_, ?_, fun _ => subjectText_eq_iff⟩
  · intro cs hl
    have hne : Criterion.allLeaves cs ≠ [] := List.ne_nil_of_mem hl
    obtain ⟨q, hq⟩ : ∃ q, (Criterion.chain σ cs).phrase? = some q := by
      rwa [← Option.ne_none_iff_exists', Ne, Criterion.phrase?_chain_eq_none_iff]
    obtain ⟨i, hi⟩ := Criterion.exists_leaf_mem_tokens hl
    obtain ⟨p, hp, -, hw⟩ := Predicate.wording_compare hr
    refine ⟨q, i, hq, Criterion.spelled_tokens hq hne, hi, fun n => ?_⟩
    rw [Token.phrase, hp, Option.getD_some, hw]
  · intro before after result otherwise label s f t branches former m k h
    rw [Expr.phrase] at h
    obtain ⟨-, -, hw⟩ := Phrase.written_of_outcome h
    rw [hw.text]
    exact Case.wording_searched hr before after result otherwise rfl rfl rfl
  · intro before after result otherwise label s f t branches former m k h
    rw [Expr.phrase] at h
    obtain ⟨-, -, hw⟩ := Phrase.written_of_outcome h
    rw [hw.text]
    exact Case.wording_simple hr before after result otherwise rfl rfl rfl

def likeFr : Condition := .ignoringCase .like (.text "fr%")

/-- The condition as a criterion, in a searched case and in a simple one. -/
theorem subject_written_of_likeFr :
    let name : Expr := .column ((⟨⟨0⟩, "users"⟩ : Table).column "name")
    let searched : Expr := .case (.searched [⟨[.compare name likeFr], .constant "1"⟩] none) none
    let simple : Expr := .case (.simple name [⟨.condition likeFr, .constant "1"⟩] none) none
    (∃ i, (Token.phrase [] (.leaf i (.compare name likeFr))).wording .springNamed 1 =
      "upper(name) like :p1") ∧
    (∃ f t, ((searched.phrase []).render .springNamed).outcome {} = (.ok f, t) ∧
      f.text = "case when upper(name) like :p1 then 1 end") ∧
    ∃ f t, ((simple.phrase []).render .springNamed).outcome {} = (.ok f, t) ∧
      f.text = "case name when like :p1 then 1 end" := by
  intro name searched simple
  obtain ⟨r, hr, hc, hs, hp, -⟩ := subject_written [] .springNamed name (c := likeFr) rfl
  obtain rfl := Option.some.inj hr
  obtain ⟨-, i, -, -, -, hw⟩ := hc [.compare name likeFr] (.head _)
  exact ⟨⟨i, (hw 1).trans (by decide +kernel)⟩,
    ⟨_, _, rfl, (hs [] [] (.constant "1") none none {} _ _ rfl).trans (by decide +kernel)⟩,
    ⟨_, _, rfl, (hp [] [] (.constant "1") none none {} _ _ rfl).trans (by decide +kernel)⟩⟩

/-- A name in the case in which it is stored, held against a pattern in upper case. -/
theorem operand_not_upper :
    let t : Table := ⟨⟨0⟩, "users"⟩
    let name : Expr := .column (t.column "name")
    let simple : Expr := .case (.simple name [⟨.condition likeFr, .constant "1"⟩] none) none
    let q : Select := (SelectDraft.run [.select [simple], .from t]).build
    likeFr.ignoresCase = true ∧ ∃ u, (q.render .springNamed).outcome {} =
      (.ok ⟨"select case name when like :p1 then 1 end from users",
        .ofList [("p1", .text "FR%")]⟩, u) := ⟨rfl, _, rfl⟩

end Condition

end SqlStatement
