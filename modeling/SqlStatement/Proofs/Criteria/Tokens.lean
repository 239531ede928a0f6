import SqlStatement.Proofs.Criteria.Readings
import SqlStatement.Proofs.Phrase.Writing
import SqlStatement.Query.Criterion

/-! # The tokens of written criteria

What is written of criteria are their tokens side by side, a whole predicate for each leaf. These
tokens have one reading by the grammar, and it is true exactly where the criteria are.
-/

namespace SqlStatement

namespace Phrase

/-- The phrase holds what the parts hold and reads as they do side by side, never empty. -/
structure Reads (p : Phrase) (ps : List Phrase) : Prop where
  bindings : p.bindings = ps.flatMap bindings
  faults : ∀ strategy, p.faults strategy = ps.flatMap (faults strategy)
  wording : ∀ strategy n, p.wording strategy n = .join (wordings strategy n ps)
  ne_empty : ∀ strategy n, p.wording strategy n ≠ ""

section

variable {strategy : Strategy} {p q : Phrase} {ps qs us : List Phrase} {s t : String}

namespace Reads

theorem self (h : ∀ strategy n, p.wording strategy n ≠ "") : p.Reads [p] where
  bindings := by simp
  faults := by simp
  wording strategy n := by simp [wordings]
  ne_empty := h

theorem between (h : p.Reads ps) (s t : String) :
    (between s p t).Reads (.text s :: ps ++ [.text t]) where
  bindings := by simp [h.bindings]
  faults strategy := by simp [h.faults]
  wording strategy n := by
    simp [wordings, wordings_append, Phrase.wording, h.wording, String.append_assoc]
  ne_empty strategy n := by
    simp [h.ne_empty]

theorem split_text (h : p.Reads (.text (s ++ t) :: ps)) : p.Reads (.text s :: .text t :: ps) where
  bindings := by simpa using h.bindings
  faults strategy := by simpa using h.faults strategy
  wording strategy n := by
    rw [h.wording]
    simp [wordings, Phrase.wording, String.append_assoc]
  ne_empty := h.ne_empty

theorem words_singleton (h : p.Reads ps) : (words [p]).Reads ps where
  bindings := by simpa using h.bindings
  faults strategy := by simpa using h.faults strategy
  wording strategy n := by
    rw [words, Phrase.wording, wordings, wordings, joined_singleton, h.wording]
  ne_empty strategy n := by
    rw [words, Phrase.wording, wordings, wordings, joined_singleton]
    exact h.ne_empty strategy n

/-- The blank before a further operand and the one behind its connector make one token of it. -/
theorem words_link (hp : p.Reads ps) (hq : q.Reads us) (k : Option Connector) {vs : List Phrase}
    (h : (words (q :: qs)).Reads vs) :
    (words (p :: Chain.link (k, q) :: qs)).Reads
      (ps ++ .text (" " ++ (k.getD .and).text ++ " ") :: vs) := by
  have hw (strategy : Strategy) (n : UInt32) :
      (words (p :: Chain.link (k, q) :: qs)).wording strategy n = p.wording strategy n ++
        (" " ++ (k.getD .and).text ++ " ") ++
          (words (q :: qs)).wording strategy (n + .ofNat p.bindings.length) := by
    have hl : (Chain.link (k, q)).wording strategy (n + .ofNat p.bindings.length) =
        (k.getD .and).text ++ " " ++ q.wording strategy (n + .ofNat p.bindings.length) := by
      simp [Chain.link]
    have hq := hq.ne_empty strategy (n + .ofNat p.bindings.length)
    simp only [words, Phrase.wording, wordings, hl]
    rw [joined_cons (hp.ne_empty strategy n), joined_append_cons hq, if_neg (by simp)]
    simp [Chain.link, String.append_assoc]
  have hb := h.bindings
  have hf := h.faults
  simp only [bindings_words, faults_words] at hb hf
  constructor
  · simp only [bindings_words, List.flatMap_cons, List.flatMap_append, hp.bindings] at hb ⊢
    simpa [Chain.link] using hb
  · intro strategy
    have hf := hf strategy
    simp only [faults_words, List.flatMap_cons, List.flatMap_append, hp.faults] at hf ⊢
    simpa [Chain.link] using hf
  · intro strategy n
    rw [hw, wordings_append, String.join_append, wordings, String.join_cons, h.wording, hp.wording,
      hp.bindings]
    simp [Phrase.wording, String.append_assoc]
  · intro strategy n
    rw [hw]
    simp [hp.ne_empty]

theorem outcome (h : p.Reads ps) {s t : Session} {f : Fragment}
    (ho : (p.render strategy).outcome s = (.ok f, t)) :
    ∃ fs, (renderAll strategy ps).outcome s = (.ok fs, t) ∧
      f.text = .join (fs.map Fragment.text) := by
  obtain ⟨hf, rfl, hw⟩ := written_of_outcome ho
  rw [h.faults] at hf
  obtain ⟨fs, hfs, hws⟩ := render_parts (fun q _ hq s => render_of_faultless hq s) hf s
  refine ⟨fs, by rw [hfs, h.bindings], ?_⟩
  rw [hw.text, h.wording, hws.texts]

end Reads

end

end Phrase

namespace Token

/-- What is written for a token. -/
def phrase (σ : Scopes) : Token → Phrase
  | leaf _ p => (p.phrase? σ).getD (.text "")
  | connector k => .text (" " ++ k.text ++ " ")
  | not => .text "not "
  | left => .text "("
  | right => .text ")"

/-- The phrase is written as the tokens. -/
def Spelled (σ : Scopes) (p : Phrase) (ts : List Token) : Prop := p.Reads (ts.map (phrase σ))

variable {σ : Scopes}

theorem spelled_between {p : Phrase} {ts : List Token} (h : Spelled σ p ts) :
    Spelled σ (.between "(" p ")") (.left :: ts ++ [.right]) := by
  have hb := Phrase.Reads.between h "(" ")"
  simpa [Spelled, phrase] using hb

theorem spelled_not {p : Phrase} {ts : List Token} (h : Spelled σ p ts) :
    Spelled σ (.between "not (" p ")") (.not :: .left :: ts ++ [.right]) := by
  have hb := Phrase.Reads.between h ("not " ++ "(") ")"
  simpa [Spelled, phrase] using hb.split_text

theorem spelled_chain {part : Option Connector × Phrase} {parts : Chain}
    {tokens : Option Connector × List Token} {rest : Operands (List Token)}
    (h : Spelled σ part.2 tokens.2) (hs : Operands.Related (Spelled σ) parts rest) :
    Spelled σ (.words (part.2 :: parts.map Chain.link)) (chain (tokens :: rest)) := by
  induction hs generalizing part tokens with
  | nil => simpa [chain, later, Spelled] using h.words_singleton
  | @cons q us parts rest hq _ ih =>
    obtain ⟨k, q⟩ := q
    obtain ⟨k', us⟩ := us
    obtain ⟨rfl, hq⟩ := hq
    have hr := @ih (k, q) (k, us) hq
    have hw := Phrase.Reads.words_link h hq k hr
    simpa [Spelled, chain, later, phrase] using hw

variable {parts : Chain} {tokens : Operands (List Token)}

theorem related_phrase? (h : Operands.Related (Spelled σ) parts tokens) :
    Option.Rel (Spelled σ) parts.phrase? (tokens.taken? chain) := by
  cases h with
  | nil => exact .none
  | cons hp hps => exact .some (spelled_chain hp.2 hps)

theorem related_operand? (h : Operands.Related (Spelled σ) parts tokens) :
    Option.Rel (Spelled σ) parts.operand? (tokens.taken? reading.group) := by
  cases h with
  | nil => exact .none
  | cons hp hps =>
    have hc := spelled_chain hp.2 hps
    cases hps with
    | nil => exact .some (by simpa [reading] using hc)
    | cons hq hqs => exact .some (by simpa [reading] using spelled_between hc)

theorem related_negation (h : Operands.Related (Spelled σ) parts tokens) :
    Option.Rel (Spelled σ) (parts.phrase?.map (.between "not (" · ")"))
      (tokens.taken? reading.negation) := by
  cases h with
  | nil => exact .none
  | cons hp hps => exact .some (spelled_not (spelled_chain hp.2 hps))

theorem spelled_leaf {p : Predicate} {q : Phrase} (hq : p.phrase? σ = some q)
    (hne : ∀ strategy n, q.wording strategy n ≠ "") (i : Nat) : Spelled σ q [leaf i p] := by
  rw [Spelled, List.map_singleton, phrase, hq, Option.getD_some]
  exact .self hne

end Token

section Written

open Token (Spelled related_operand? related_negation)

mutual

theorem Predicate.spelled_phrase? (σ : Scopes) (n : Nat) :
    ∀ p : Predicate, Option.Rel (Spelled σ) (p.phrase? σ) (p.read? Token.reading n)
  | .compare subject condition => by
    unfold Predicate.read?
    cases hq : Predicate.phrase? σ (.compare subject condition) with
    | none =>
      rw [Predicate.phrase?, Phrase.comparison?_eq_none_iff, Condition.right?_eq_none_iff] at hq
      rw [if_pos hq]
      exact .none
    | some q =>
      have hc : ¬condition.isEmpty = true := fun h => by
        rw [Predicate.phrase?, Phrase.comparison?_eq_none_iff.2
          (Condition.right?_eq_none_iff.2 h)] at hq
        cases hq
      rw [if_neg hc]
      refine .some (Token.spelled_leaf hq (fun strategy n => ?_) n)
      rw [Predicate.phrase?] at hq
      obtain ⟨r, -, rfl⟩ := Option.map_eq_some_iff.1 hq
      simp [Phrase.wording_concat, Phrase.wordings, Phrase.wording]
  | .existence query negated => by
    have hq : Predicate.phrase? σ (.existence query negated) =
        some (.between (if negated then "not exists (" else "exists (") (query.phrase σ) ")") := by
      rw [Predicate.phrase?]
    rw [Predicate.read?, hq]
    refine .some (Token.spelled_leaf hq (fun strategy n => ?_) n)
    cases negated <;> simp
  | .negation criterion => by
    unfold Predicate.phrase? Predicate.read?
    exact related_negation (Criterion.spelled_parts σ n criterion)

theorem Predicate.spelled_initialParts (σ : Scopes) (n : Nat) :
    ∀ p : Option Predicate, Operands.Related (Spelled σ) (Criterion.initialParts σ p)
      (Predicate.operands Token.reading n p)
  | none => by
    unfold Criterion.initialParts Predicate.operands
    exact .nil
  | some p => by
    unfold Criterion.initialParts Predicate.operands
    exact Operands.related_toList (Predicate.spelled_phrase? σ n p) none

theorem Criterion.spelled_parts (σ : Scopes) (n : Nat) :
    ∀ c : Criterion, Operands.Related (Spelled σ) (c.parts σ) (c.operands Token.reading n)
  | ⟨_, predicate, attached⟩ => by
    unfold Criterion.parts Criterion.operands
    exact List.rel_append (Predicate.spelled_initialParts σ n predicate)
      (Criterion.spelled_chain σ _ attached)

theorem Criterion.spelled_chain (σ : Scopes) (n : Nat) :
    ∀ cs : List Criterion, Operands.Related (Spelled σ) (Criterion.chain σ cs)
      (Criterion.chainOperands Token.reading n cs)
  | [] => by
    unfold Criterion.chain Criterion.chainOperands
    exact .nil
  | c :: cs => by
    unfold Criterion.chain Criterion.chainOperands
    have hc := related_operand? (Criterion.spelled_parts σ n c)
    exact List.rel_append (Operands.related_toList hc c.connector) (Criterion.spelled_chain σ _ cs)

end

end Written

namespace Token

/-- The predicate of a leaf and its number. -/
def leaf? : Token → Option (Predicate × Nat)
  | leaf i p => some (p, i)
  | _ => none

def leaves (ts : List Token) : List (Predicate × Nat) := ts.filterMap leaf?

@[simp] theorem leaves_append (ts us : List Token) : leaves (ts ++ us) = leaves ts ++ leaves us :=
  List.filterMap_append

theorem leaves_later (tokens : Operands (List Token)) :
    leaves (later tokens) = tokens.flatMap (leaves ·.2) := by
  induction tokens with
  | nil => rfl
  | cons part tokens ih =>
    rw [later, List.flatMap_cons, ← ih, ← leaves_append]
    rfl

@[simp] theorem leaves_chain (tokens : Operands (List Token)) :
    leaves (chain tokens) = tokens.flatMap (leaves ·.2) := by
  cases tokens with
  | nil => rfl
  | cons part tokens => rw [chain, leaves_append, leaves_later, List.flatMap_cons]

theorem leaves_parens (ts : List Token) : leaves (.left :: ts ++ [.right]) = leaves ts := by
  rw [leaves_append]
  exact List.append_nil _

/-- Connectors, negations and parentheses have no leaves of their own. -/
theorem leaves_taken? {f : Operands (List Token) → List Token}
    (hf : ∀ tokens, leaves (f tokens) = leaves (chain tokens)) (tokens : Operands (List Token)) :
    (tokens.taken? f).toList.flatMap leaves = tokens.flatMap (leaves ·.2) := by
  cases tokens with
  | nil => rfl
  | cons part tokens => simp [Operands.taken?, hf]

end Token

mutual

theorem Predicate.leaves_read? (n : Nat) : ∀ p : Predicate,
    (p.read? Token.reading n).toList.flatMap Token.leaves = p.leaves.zipIdx n
  | .compare subject condition => by
    unfold Predicate.read? Predicate.leaves
    split
    next => rfl
    next => rfl
  | .existence query negated => by
    unfold Predicate.read? Predicate.leaves
    rfl
  | .negation criterion => by
    have hn (tokens : Operands (List Token)) :
        Token.leaves (Token.reading.negation tokens) = Token.leaves (Token.chain tokens) :=
      Token.leaves_parens _
    rw [Predicate.read?, Predicate.leaves, Token.leaves_taken? hn]
    exact Criterion.leaves_operands n criterion

theorem Predicate.leaves_operands (n : Nat) : ∀ p : Option Predicate,
    (Predicate.operands Token.reading n p).flatMap (Token.leaves ·.2) =
      (Predicate.initialLeaves p).zipIdx n
  | none => by
    unfold Predicate.operands Predicate.initialLeaves
    rfl
  | some p => by
    rw [Predicate.operands, Predicate.initialLeaves, ← Predicate.leaves_read? n p]
    cases p.read? Token.reading n <;> simp

theorem Criterion.leaves_operands (n : Nat) : ∀ c : Criterion,
    (c.operands Token.reading n).flatMap (Token.leaves ·.2) = c.leaves.zipIdx n
  | ⟨_, predicate, attached⟩ => by
    rw [Criterion.operands, Criterion.leaves, List.flatMap_append, List.zipIdx_append,
      Predicate.leaves_operands n predicate, Criterion.leaves_chainOperands _ attached]

theorem Criterion.leaves_chainOperands (n : Nat) : ∀ cs : List Criterion,
    (Criterion.chainOperands Token.reading n cs).flatMap (Token.leaves ·.2) =
      (Criterion.allLeaves cs).zipIdx n
  | [] => by
    unfold Criterion.chainOperands Criterion.allLeaves
    rfl
  | c :: cs => by
    have hg (tokens : Operands (List Token)) :
        Token.leaves (Token.reading.group tokens) = Token.leaves (Token.chain tokens) := by
      simp only [Token.reading]
      split
      next => exact Token.leaves_parens _
      next => rfl
    have hc := Token.leaves_taken? hg (c.operands Token.reading n)
    rw [Criterion.leaves_operands n c] at hc
    rw [Criterion.chainOperands, Criterion.allLeaves, List.flatMap_append, List.zipIdx_append,
      Criterion.leaves_chainOperands _ cs, ← hc]
    cases (c.operands Token.reading n).taken? Token.reading.group <;> simp

end

namespace Criterion

variable {cs : List Criterion}

theorem leaves_tokens (cs : List Criterion) :
    Token.leaves (tokens cs) = (allLeaves cs).zipIdx := by
  rw [tokens, Token.leaves_chain, leaves_chainOperands 0 cs]

theorem chainOperands_ne_nil (h : allLeaves cs ≠ []) : chainOperands Token.reading 0 cs ≠ [] := by
  intro he
  have hl := leaves_tokens cs
  rw [tokens, he] at hl
  exact h (List.zipIdx_eq_nil_iff.1 hl.symm)

theorem exists_derives_tokens (h : allLeaves cs ≠ []) (v : Nat → Bool) :
    ∃ f, Derives .disjunction (tokens cs) f ∧ truth? v cs = some (f.eval v) := by
  have hr := related_chainOperands (Token.related_reading v) 0 cs
  have hne := chainOperands_ne_nil h
  have hv : chainOperands (Truth.reading v) 0 cs ≠ [] := fun he => hne (by
    rw [he] at hr
    exact List.forall₂_nil_right_iff.1 hr)
  obtain ⟨f, hf, he⟩ := Token.means_chain hr hne
  exact ⟨f, hf, by rw [truth?, Operands.taken?_of_ne_nil hv, he]⟩

/-- The tokens of criteria have one reading, which is true where the criteria are. -/
theorem derives_tokens (h : allLeaves cs ≠ []) :
    ∃ f, Derives .disjunction (tokens cs) f ∧ (∀ g, Derives .disjunction (tokens cs) g → g = f) ∧
      ∀ v, truth? v cs = some (f.eval v) := by
  obtain ⟨f, hf, -⟩ := exists_derives_tokens h fun _ => true
  refine ⟨f, hf, fun g hg => hg.unique hf, fun v => ?_⟩
  obtain ⟨g, hg, hv⟩ := exists_derives_tokens h v
  rw [hv, hg.unique hf]

theorem spelled_tokens {σ : Scopes} {q : Phrase} (hq : (chain σ cs).phrase? = some q)
    (h : allLeaves cs ≠ []) : Token.Spelled σ q (tokens cs) := by
  have hr := Token.related_phrase? (spelled_chain σ 0 cs)
  rw [hq, Operands.taken?_of_ne_nil (chainOperands_ne_nil h)] at hr
  cases hr with
  | some hs => exact hs

/-- Criteria are written exactly if a leaf is left. What is written are their tokens side by side,
among which the leaves that are left stand in order; the tokens have one reading, and under all
truth values of the leaves it is as true as the criteria. -/
theorem written_chain (σ : Scopes) (cs : List Criterion) :
    ((chain σ cs).phrase? = none ↔ allLeaves cs = []) ∧
    ∀ q, (chain σ cs).phrase? = some q →
      (∀ strategy s f t, (q.render strategy).outcome s = (.ok f, t) → ∃ fs,
        (Phrase.renderAll strategy ((tokens cs).map (Token.phrase σ))).outcome s = (.ok fs, t) ∧
          f.text = .join (fs.map Fragment.text)) ∧
      Token.leaves (tokens cs) = (allLeaves cs).zipIdx ∧
      ∃ f, Derives .disjunction (tokens cs) f ∧
        (∀ g, Derives .disjunction (tokens cs) g → g = f) ∧ ∀ v, truth? v cs = some (f.eval v) := by
  refine ⟨phrase?_chain_eq_none_iff σ cs, fun q hq => ?_⟩
  have h : allLeaves cs ≠ [] := by
    rw [Ne, ← phrase?_chain_eq_none_iff σ cs, hq]
    exact Option.some_ne_none q
  exact ⟨fun strategy s f t ho => (spelled_tokens hq h).outcome ho, leaves_tokens cs,
    derives_tokens h⟩

theorem written_chain_of_group :
    let c (n : Int64) : Criterion :=
      compare (.column ((⟨⟨0⟩, "users"⟩ : Table).column "id")) (.ofValue .equalTo (.int n))
    let cs := [c 1, ((c 2).or (c 3)).withConnector .and]
    ∃ q f u, (chain [] cs).phrase? = some q ∧ (q.render .positional).outcome {} = (.ok f, u) ∧
      f.text = "id = ? and (id = ? or id = ?)" ∧
      ∃ fs, (Phrase.renderAll .positional ((tokens cs).map (Token.phrase []))).outcome {} =
        (.ok fs, u) ∧ f.text = .join (fs.map Fragment.text) :=
  ⟨_, _, _, rfl, rfl, rfl, ((written_chain [] _).2 _ rfl).1 .positional {} _ _ rfl⟩

end Criterion

end SqlStatement
