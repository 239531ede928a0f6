import SqlStatement.Proofs.Statement.Failures
import SqlStatement.Proofs.Statement.Nested

/-! # Selects one behind the other

Selects that are chained by set operators, or taken over by an insert, are written as each is
alone. Only their parameters are numbered on, from one select to the next, and an order and paging
of the whole stand behind the last.
-/

namespace SqlStatement

open Rendering (Succeeds)

namespace Select

/-- What is written of a select from a number on: the select as it is alone, with its parameters
renumbered in the map and in the placeholders. -/
structure WrittenFrom (strategy : Strategy) (n : Nat) (q : Select) (f : Fragment) : Prop where
  alone : ∀ s, ∃ st t, (q.render strategy).outcome s = (.ok st, t) ∧ Renumbered strategy n st f
  rekeyed : ∀ s, ∃ st t,
    (q.render (strategy.rekeyed (Parameters.renumber n))).outcome s = (.ok st, t) ∧ st.sql = f.text

/-- What is written of selects one behind the other, each numbered on from those before it. -/
inductive WrittenRow (strategy : Strategy) : Nat → List Select → List Fragment → Prop
  | nil {n : Nat} : WrittenRow strategy n [] []
  | cons {n : Nat} {q : Select} {qs : List Select} {f : Fragment} {fs : List Fragment}
      (head : q.WrittenFrom strategy n f)
      (tail : WrittenRow strategy (n + f.parameters.size) qs fs) :
      WrittenRow strategy n (q :: qs) (f :: fs)

end Select

namespace Paging

def counts (p : Paging) : List Value :=
  match p.style with
  | .limitOffset => p.rows.toList.map .unsigned ++ p.offset.toList.map .unsigned
  | .fetchFirst => p.offset.toList.map .unsigned ++ p.rows.toList.map .unsigned

def words (placeholder : Nat → String) (n : Nat) (p : Paging) : List String :=
  match p.style, p.rows, p.offset with
  | _, none, none => []
  | .limitOffset, some _, none => ["limit " ++ placeholder n]
  | .limitOffset, none, some _ => ["offset " ++ placeholder n]
  | .limitOffset, some _, some _ => ["limit " ++ placeholder n, "offset " ++ placeholder (n + 1)]
  | .fetchFirst, some _, none => ["fetch first " ++ placeholder n ++ " rows only"]
  | .fetchFirst, none, some _ => ["offset " ++ placeholder n ++ " rows"]
  | .fetchFirst, some _, some _ =>
    ["offset " ++ placeholder n ++ " rows",
      "fetch first " ++ placeholder (n + 1) ++ " rows only"]

theorem bindings_eq_counts (p : Paging) : p.bindings = p.counts.map (⟨none, .value ·⟩) := by
  obtain ⟨style, rows, offset⟩ := p
  cases style <;> cases rows <;> cases offset <;> rfl

theorem bindings_phrases (p : Paging) : p.phrases.flatMap Phrase.bindings = p.bindings := by
  obtain ⟨style, rows, offset⟩ := p
  cases style <;> cases rows <;> cases offset <;> simp [phrases, bindings]

theorem filter_wordings_phrases {strategy : Strategy} (p : Paging) {n : Nat} (h : n < 2 ^ 32)
    (hn : n + p.bindings.length ≤ 2 ^ 32) :
    (Phrase.wordings strategy (.ofNat n) p.phrases).filter (· ≠ "") =
      p.words (fun i => strategy.parameter none strategy.parameterPath (Parameters.name i)) n := by
  have hk : Binding.key (.ofNat n) = Parameters.name n := Binding.key_ofNat h
  obtain ⟨style, rows, offset⟩ := p
  cases rows with
  | none =>
    cases style <;> cases offset <;>
      simp [phrases, words, Phrase.wordings, Phrase.wording, Phrase.value, hk]
  | some r =>
    cases offset with
    | none =>
      cases style <;>
        simp [phrases, words, Phrase.wordings, Phrase.wording, Phrase.value, hk]
    | some o =>
      have hl : (Paging.mk style (some r) (some o)).bindings.length = 2 := by cases style <;> rfl
      have hk' : Binding.key (.ofNat n + 1) = Parameters.name (n + 1) :=
        (congrArg Binding.key (UInt32.ofNat_add n 1).symm).trans (Binding.key_ofNat (by omega))
      cases style <;>
        simp [phrases, words, Phrase.wordings, Phrase.wording, Phrase.value, hk, hk']

end Paging

/-- Selects chained by set operators, and the order and paging of the whole. -/
structure Combination where
  members : List (Option SetOperator × Select)
  orderBy : Option (List SortItem)
  paging : Option Paging

namespace Combination

def selects (c : Combination) : List Select := c.members.map Prod.snd

def memberWords (before after : String) :
    List (Option SetOperator × Select) → List Fragment → List String
  | (operator, _) :: ms, f :: fs =>
    (operator.map SetOperator.text).toList ++
      (before ++ f.text ++ after) :: memberWords before after ms fs
  | _, _ => []

/-- The order of the whole. Outside the members no table has an alias. -/
def orderWords (c : Combination) : List String :=
  match c.orderBy.getD [] with
  | [] => []
  | items => ["order by " ++ ", ".intercalate (items.map (SortItem.text []))]

def pagingWords (strategy : Strategy) (n : Nat) (c : Combination) : List String :=
  c.paging.toList.flatMap
    (Paging.words (fun i => strategy.parameter none strategy.parameterPath (Parameters.name i)) n)

def pagingBindings (c : Combination) : List Binding := (c.paging.map Paging.bindings).getD []

def bindings (c : Combination) : List Binding :=
  c.selects.flatMap Select.bindings ++ c.pagingBindings

/-- The statement holds the members one behind the other, between two texts each, and behind them
the order and paging of the whole. -/
def Writes (c : Combination) (before after : String) (strategy : Strategy) (st : Statement) :
    Prop :=
  ∃ fs n, Select.WrittenRow strategy 1 c.selects fs ∧
    n = 1 + (fs.map (·.parameters.size)).sum ∧
    st.sql = " ".intercalate
      (memberWords before after c.members fs ++ c.orderWords ++ c.pagingWords strategy n) ∧
    st.parameters.toList = fs.flatMap (·.parameters.toList) ++
      Parameters.numbered n (c.paging.toList.flatMap Paging.counts)

/-- The rendering writes the members as they are written alone. It comes to a result exactly if
every member does and the strategy supports the paging of the whole. -/
structure Verbatim (c : Combination) (before after : String)
    (render : Strategy → Rendering Statement) : Prop where
  succeeds_iff : ∀ strategy s t, (render strategy).Succeeds s ↔
    (∀ q ∈ c.selects, (q.render strategy).Succeeds t) ∧
      ∀ p ∈ c.paging, strategy.supports p.style = true
  writes : (∀ b ∈ c.bindings, b.Stateless) → c.bindings.length < 2 ^ 32 - 1 →
    ∀ strategy s st t, (render strategy).outcome s = (.ok st, t) → c.Writes before after strategy st

end Combination

theorem Session.toNat_next_after {s : Session} {bs : List Binding}
    (h : s.next.toNat + bs.length < 2 ^ 32) :
    (s.after bs).next.toNat = s.next.toNat + bs.length := by
  have hl : bs.length < UInt32.size := Nat.lt_of_le_of_lt (Nat.le_add_left _ _) h
  rw [after, UInt32.toNat_add, UInt32.toNat_ofNat_of_lt' hl, Nat.mod_eq_of_lt h]

namespace Phrase

variable {strategy : Strategy} {p : Phrase} {ps : List Phrase} {s : Session} {f : Fragment}
  {fs : List Fragment}

theorem WrittenAll.flatMap_toList (h : WrittenAll strategy ps s fs)
    (hn : s.next.toNat + (ps.flatMap bindings).length < 2 ^ 32) :
    fs.flatMap (·.parameters.toList) = Binding.log s.next (ps.flatMap bindings) s.memory := by
  induction h with
  | nil => rfl
  | @cons p ps s f fs hf _ ih =>
    rw [List.flatMap_cons, List.length_append] at hn
    have ht : (s.after p.bindings).next.toNat = s.next.toNat + p.bindings.length :=
      Session.toNat_next_after (by omega)
    rw [List.flatMap_cons, List.flatMap_cons, Binding.log_append, hf.toList_eq_log (by omega),
      ih (by omega)]
    rfl

theorem WrittenAll.sum_sizes (h : WrittenAll strategy ps s fs)
    (hn : s.next.toNat + (ps.flatMap bindings).length < 2 ^ 32) :
    (fs.map (·.parameters.size)).sum = (ps.flatMap bindings).length := by
  induction h with
  | nil => rfl
  | @cons p ps s f fs hf _ ih =>
    rw [List.flatMap_cons, List.length_append] at hn
    have ht : (s.after p.bindings).next.toNat = s.next.toNat + p.bindings.length :=
      Session.toNat_next_after (by omega)
    rw [List.map_cons, List.sum_cons, List.flatMap_cons, List.length_append,
      hf.size_parameters (by omega), ih (by omega)]

end Phrase

namespace Select

variable {strategy : Strategy} {q : Select} {qs : List Select} {s : Session} {f : Fragment}
  {fs : List Fragment}

theorem bindings_phrase (h : (q.phrase []).faults strategy = []) :
    (q.phrase []).bindings = q.bindings := by
  simpa using Select.binds_phrase [] q (by simpa using h)

theorem flatMap_bindings_phrase (h : ∀ q ∈ qs, (q.phrase []).faults strategy = []) :
    (qs.map (phrase [])).flatMap Phrase.bindings = qs.flatMap bindings := by
  rw [List.flatMap_map]
  exact List.flatMap_congr fun q hq => bindings_phrase (h q hq)

theorem writtenFrom (hq : (q.phrase []).faults strategy = [])
    (hf : (q.phrase []).Written strategy s f) (hb : ∀ b ∈ q.bindings, b.Stateless)
    (hn : s.next.toNat + q.bindings.length < 2 ^ 32) :
    q.WrittenFrom strategy s.next.toNat f := by
  rw [← bindings_phrase hq] at hb hn
  constructor
  · intro t
    obtain ⟨g, ho, hg⟩ := Phrase.render_of_faultless hq { t with next := 1 }
    have ht : ∃ u, (q.render strategy).outcome t = (.ok (.ofFragment g), u) := by
      rw [render, Phrase.outcome_statement, ho]
      exact ⟨_, rfl⟩
    obtain ⟨u, ht⟩ := ht
    exact ⟨.ofFragment g, u, ht, hg.renumbered hf hb hn⟩
  · intro t
    have hq' : (q.phrase []).faults (strategy.rekeyed (Parameters.renumber s.next.toNat)) = [] :=
      (Phrase.faults_rekeyed ..).trans hq
    obtain ⟨st, u, ho, hs⟩ := Phrase.statement_of_faultless hq' .select t
    exact ⟨st, u, ho, (hs.trans (Phrase.wording_rekeyed (.renumber hn))).trans hf.text.symm⟩

theorem writtenRow (hq : ∀ q ∈ qs, (q.phrase []).faults strategy = [])
    (hf : Phrase.WrittenAll strategy (qs.map (phrase [])) s fs)
    (hb : ∀ b ∈ qs.flatMap bindings, b.Stateless)
    (hn : s.next.toNat + (qs.flatMap bindings).length < 2 ^ 32) :
    WrittenRow strategy s.next.toNat qs fs := by
  induction qs generalizing s fs with
  | nil => cases hf; exact .nil
  | cons q qs ih =>
    rw [List.forall_mem_cons] at hq
    rw [List.flatMap_cons, List.forall_mem_append] at hb
    rw [List.flatMap_cons, List.length_append] at hn
    cases hf with
    | @cons _ _ _ f fs hf hfs =>
      have hl : (q.phrase []).bindings.length = q.bindings.length :=
        congrArg List.length (bindings_phrase hq.1)
      have ht : (s.after (q.phrase []).bindings).next.toNat = s.next.toNat + f.parameters.size := by
        rw [Session.toNat_next_after (by omega), hf.size_parameters (by omega)]
      have hs : f.parameters.size = q.bindings.length := by
        rw [hf.size_parameters (by omega), hl]
      have hr := ih hq.2 hfs hb.2 (by omega)
      rw [ht] at hr
      exact .cons (writtenFrom hq.1 hf hb.1 (by omega)) hr

end Select

namespace Combination

/-- The phrase of a member between two texts, never empty where it can be written. -/
structure Frames (before after : String) (p q : Phrase) : Prop where
  faults : ∀ strategy, p.faults strategy = q.faults strategy
  bindings : p.bindings = q.bindings
  wording : ∀ strategy n, p.wording strategy n = before ++ q.wording strategy n ++ after
  ne_empty : ∀ strategy n, p.faults strategy = [] → p.wording strategy n ≠ ""

/-- The phrases of the members, each behind its operator and between two texts. -/
inductive FramesAll (before after : String) :
    List (Option SetOperator × Select) → List Phrase → Prop
  | nil : FramesAll before after [] []
  | cons (operator : Option SetOperator) {q : Select} {ms : List (Option SetOperator × Select)}
      {p : Phrase} {ps : List Phrase} (head : Frames before after p (q.phrase []))
      (tail : FramesAll before after ms ps) :
      FramesAll before after ((operator, q) :: ms)
        ((operator.map (Phrase.text ·.text)).toList ++ p :: ps)

namespace FramesAll

variable {before after : String} {ms : List (Option SetOperator × Select)} {ps : List Phrase}
  {strategy : Strategy} {s : Session} {fs : List Fragment}

theorem faults (h : FramesAll before after ms ps) (strategy : Strategy) :
    ps.flatMap (Phrase.faults strategy) =
      ((ms.map Prod.snd).map (Select.phrase [])).flatMap (Phrase.faults strategy) := by
  induction h with
  | nil => rfl
  | @cons operator q ms p ps hp _ ih => cases operator <;> simp [hp.faults, ih]

theorem bindings (h : FramesAll before after ms ps) :
    ps.flatMap Phrase.bindings =
      ((ms.map Prod.snd).map (Select.phrase [])).flatMap Phrase.bindings := by
  induction h with
  | nil => rfl
  | @cons operator q ms p ps hp _ ih => cases operator <;> simp [hp.bindings, ih]

theorem wordings (h : FramesAll before after ms ps)
    (hf : Phrase.WrittenAll strategy ((ms.map Prod.snd).map (Select.phrase [])) s fs) :
    Phrase.wordings strategy s.next ps = memberWords before after ms fs := by
  induction h generalizing s fs with
  | nil => cases hf; rfl
  | @cons operator q ms p ps hp _ ih =>
    cases hf with
    | cons hf hfs =>
      have ht := ih hfs
      cases operator <;>
        simp [memberWords, Phrase.wordings, Phrase.wording, hp.wording, hp.bindings, hf.text, ← ht,
          Session.after]

theorem ne_empty (h : FramesAll before after ms ps)
    (hf : ps.flatMap (Phrase.faults strategy) = []) (n : UInt32) :
    ∀ t ∈ Phrase.wordings strategy n ps, t ≠ "" := by
  induction h generalizing n with
  | nil => exact nofun
  | @cons operator q ms p ps hp _ ih =>
    rw [List.flatMap_append, List.append_eq_nil_iff, List.flatMap_cons,
      List.append_eq_nil_iff] at hf
    have ht (n : UInt32) : ∀ t ∈ Phrase.wordings strategy n (p :: ps), t ≠ "" := by
      rw [Phrase.wordings, List.forall_mem_cons]
      exact ⟨hp.ne_empty strategy n hf.2.1, ih hf.2.2 _⟩
    cases operator with
    | none => exact ht n
    | some k =>
      refine List.forall_mem_cons.2 ⟨?_, ht _⟩
      cases k <;> simp [Phrase.wording, SetOperator.text]

end FramesAll

variable {c : Combination} {before after : String} {ps : List Phrase} {strategy : Strategy}

def phrase (c : Combination) (ps : List Phrase) : Phrase :=
  .words (ps ++ (c.orderBy.map (SortItem.clause [])).getD [] ++
    (c.paging.map Paging.phrases).getD [])

theorem faults_phrase (c : Combination) (ps : List Phrase) :
    (c.phrase ps).faults strategy = ps.flatMap (Phrase.faults strategy) ++
      c.paging.toList.flatMap fun p => (Part.paging p).faults strategy := by
  obtain ⟨ms, orderBy, paging⟩ := c
  cases orderBy <;> cases paging <;> simp [phrase]

theorem bindings_order (c : Combination) :
    ((c.orderBy.map (SortItem.clause [])).getD []).flatMap Phrase.bindings = [] := by
  obtain ⟨ms, _ | _ | ⟨i, items⟩, paging⟩ := c <;> simp [SortItem.clause]

theorem bindings_phrase (c : Combination) (ps : List Phrase) :
    (c.phrase ps).bindings = ps.flatMap Phrase.bindings ++ c.pagingBindings := by
  have hp : ((c.paging.map Paging.phrases).getD []).flatMap Phrase.bindings =
      c.pagingBindings := by
    rw [pagingBindings]
    cases c.paging with
    | none => rfl
    | some p => exact p.bindings_phrases
  rw [phrase, Phrase.bindings_words, List.flatMap_append, List.flatMap_append, bindings_order, hp,
    List.append_nil]

theorem wordings_order (c : Combination) (n : UInt32) :
    Phrase.wordings strategy n ((c.orderBy.map (SortItem.clause [])).getD []) = c.orderWords := by
  obtain ⟨ms, _ | _ | ⟨i, items⟩, paging⟩ := c <;> rfl

theorem filter_wordings_paging (c : Combination) {n : Nat} (h : n < 2 ^ 32)
    (hn : n + c.pagingBindings.length ≤ 2 ^ 32) :
    (Phrase.wordings strategy (.ofNat n) ((c.paging.map Paging.phrases).getD [])).filter (· ≠ "") =
      c.pagingWords strategy n := by
  rw [pagingWords]
  rw [pagingBindings] at hn
  cases hp : c.paging with
  | none => rfl
  | some p =>
    rw [hp] at hn
    rw [Option.toList_some, List.flatMap_singleton]
    exact p.filter_wordings_phrases h hn

theorem ne_empty_of_mem_orderWords (c : Combination) : ∀ t ∈ c.orderWords, t ≠ "" := by
  rw [orderWords]
  split
  · exact nofun
  · simp

theorem log_paging (c : Combination) {n : Nat} (m : Memory)
    (hn : n + c.pagingBindings.length ≤ 2 ^ 32) :
    Binding.log (.ofNat n) c.pagingBindings m =
      Parameters.numbered n (c.paging.toList.flatMap Paging.counts) := by
  rw [Binding.log_eq_numbered _ _ hn, pagingBindings]
  cases c.paging with
  | none => rfl
  | some p =>
    have hc (vs : List Value) :
        ((vs.map fun v => (⟨none, .value v⟩ : Binding)).mapM Binding.bound).run m = (vs, m) := by
      induction vs with
      | nil => rfl
      | cons v vs ih =>
        rw [List.map_cons, List.mapM_cons]
        exact congrArg (Prod.map (v :: ·) id) ih
    rw [Option.map_some, Option.getD_some, p.bindings_eq_counts, hc, Option.toList_some,
      List.flatMap_singleton]

/-- No text in the row is empty but that of a style, so that blanks stand between all of them. -/
theorem wording_phrase (hc : FramesAll before after c.members ps) {s : Session}
    {fs : List Fragment} {n : Nat} (hp : ps.flatMap (Phrase.faults strategy) = [])
    (hf : Phrase.WrittenAll strategy (c.selects.map (Select.phrase [])) s fs)
    (hs : s.next + .ofNat (ps.flatMap Phrase.bindings).length = .ofNat n) (h : n < 2 ^ 32)
    (hn : n + c.pagingBindings.length ≤ 2 ^ 32) :
    (c.phrase ps).wording strategy s.next = " ".intercalate
      (memberWords before after c.members fs ++ c.orderWords ++ c.pagingWords strategy n) := by
  have hm : (memberWords before after c.members fs).filter (· ≠ "") =
      memberWords before after c.members fs := by
    rw [← hc.wordings hf]
    simpa using hc.ne_empty hp s.next
  have ho : c.orderWords.filter (· ≠ "") = c.orderWords := by
    simpa using c.ne_empty_of_mem_orderWords
  rw [phrase, Phrase.words, Phrase.wording, Phrase.joined, Phrase.wordings_append,
    Phrase.wordings_append, List.filter_append, List.filter_append, hc.wordings hf, hm,
    wordings_order, ho, List.flatMap_append, bindings_order, List.append_nil, hs,
    filter_wordings_paging c h hn]

theorem writes_of_outcome (hc : FramesAll before after c.members ps) (kind : StatementKind)
    (hb : ∀ b ∈ c.bindings, b.Stateless) (hn : c.bindings.length < 2 ^ 32 - 1) {s t : Session}
    {st : Statement} (h : ((c.phrase ps).statement kind strategy).outcome s = (.ok st, t)) :
    c.Writes before after strategy st := by
  obtain ⟨hf, g, hg, rfl⟩ := Phrase.written_of_statement h
  rw [faults_phrase, List.append_eq_nil_iff] at hf
  have hms : (c.selects.map (Select.phrase [])).flatMap (Phrase.faults strategy) = [] :=
    (hc.faults strategy).symm.trans hf.1
  have hq : ∀ q ∈ c.selects, (q.phrase []).faults strategy = [] := by
    rwa [List.flatMap_eq_nil_iff, List.forall_mem_map] at hms
  have hbs : (c.selects.map (Select.phrase [])).flatMap Phrase.bindings =
      c.selects.flatMap Select.bindings := Select.flatMap_bindings_phrase hq
  have hps : ps.flatMap Phrase.bindings = c.selects.flatMap Select.bindings :=
    hc.bindings.trans hbs
  have hpb : (c.phrase ps).bindings = c.bindings := by rw [bindings_phrase, hps, bindings]
  rw [bindings, List.forall_mem_append] at hb
  rw [bindings, List.length_append] at hn
  -- The members are written first, and the paging behind them.
  obtain ⟨fs, -, hfs⟩ := Phrase.render_parts (fun p _ hp s => Phrase.render_of_faultless hp s) hms
    { s with next := 1 }
  have hsum : (fs.map (·.parameters.size)).sum = (c.selects.flatMap Select.bindings).length := by
    rw [hfs.sum_sizes (by rw [hbs, UInt32.toNat_one]; omega), hbs]
  have hnext : (1 : UInt32) + .ofNat (c.selects.flatMap Select.bindings).length =
      .ofNat (1 + (fs.map (·.parameters.size)).sum) := by rw [hsum, UInt32.ofNat_add]; rfl
  refine ⟨fs, 1 + (fs.map (·.parameters.size)).sum, ?_, rfl, ?_, ?_⟩
  · exact Select.writtenRow hq hfs hb.1 (by rw [UInt32.toNat_one]; omega)
  · refine hg.text.trans (wording_phrase hc hf.1 hfs ?_ (by omega) (by omega))
    rw [hps]
    exact hnext
  · have hl : (1 : UInt32).toNat + (c.phrase ps).bindings.length ≤ 2 ^ 32 := by
      rw [hpb, bindings, List.length_append, UInt32.toNat_one]
      omega
    refine (hg.toList_eq_log hl).trans ?_
    rw [hpb, bindings, Binding.log_append, hnext, log_paging c _ (by omega), ← hbs,
      hfs.flatMap_toList (by rw [hbs, UInt32.toNat_one]; omega)]

theorem verbatim_of_framesAll (hc : FramesAll before after c.members ps) (kind : StatementKind)
    {render : Strategy → Rendering Statement}
    (hr : ∀ strategy, render strategy = (c.phrase ps).statement kind strategy) :
    c.Verbatim before after render where
  succeeds_iff strategy s t := by
    rw [hr, Phrase.succeeds_statement_iff, faults_phrase, List.append_eq_nil_iff, hc.faults,
      List.flatMap_eq_nil_iff, List.flatMap_eq_nil_iff, List.forall_mem_map]
    refine and_congr ?_ ?_
    · exact forall₂_congr fun q _ => (Phrase.succeeds_statement_iff .select).symm
    · simp only [Option.mem_toList]
      exact forall₂_congr fun p _ => ((Part.paging p).sound_iff strategy).symm
  writes hb hn strategy s st t h := writes_of_outcome hc kind hb hn (hr strategy ▸ h)

end Combination

namespace MultiSelect

def combination (m : MultiSelect) : Combination where
  members := (none, m.initial) :: m.others.map fun (operator, s) => (some operator, s)
  orderBy := m.orderBy
  paging := m.paging

theorem frames_between (q : Select) :
    Combination.Frames "(" ")" (.between "(" (q.phrase []) ")") (q.phrase []) where
  faults strategy := by simp
  bindings := by simp
  wording strategy n := Phrase.wording_between strategy n "(" ")" (q.phrase [])
  ne_empty strategy n _ := by simp

theorem framesAll_others (others : List (SetOperator × Select)) :
    Combination.FramesAll "(" ")" (others.map fun (operator, s) => (some operator, s))
      (others.flatMap fun (operator, s) =>
        [.text operator.text, .between "(" (s.phrase []) ")"]) := by
  induction others with
  | nil => exact .nil
  | cons o others ih => exact .cons (some o.1) (frames_between o.2) ih

theorem verbatim (m : MultiSelect) : m.combination.Verbatim "(" ")" m.render :=
  Combination.verbatim_of_framesAll
    (.cons none (frames_between m.initial) (framesAll_others m.others)) .multiSelect fun _ => rfl

end MultiSelect

namespace QueryBlock

def alone (b : QueryBlock) : Select := ⟨[{ b with connector := none }], none, none⟩

theorem phrase_alone (b : QueryBlock) :
    b.alone.phrase [] = .words [guarded b.fault? (b.clauses [b.scope])] := by
  obtain ⟨connector, distinct, columns, source, aliases, joins, criteria, groupBy, having⟩ := b
  rw [alone, Select.phrase, phrases, phrases, clauses, clauses]
  rfl

theorem wording_ne_empty (strategy : Strategy) (n : UInt32) (σ : Scopes) (b : QueryBlock) :
    (Phrase.words (b.clauses σ)).wording strategy n ≠ "" := by
  obtain ⟨connector, distinct, columns, source, aliases, joins, criteria, groupBy, having⟩ := b
  have ho : (Phrase.after (if distinct then "select distinct " else "select ")
      (.join ", " (Expr.selectPhrases σ columns))).wording strategy n ≠ "" := by
    cases distinct <;> simp
  rw [clauses, Phrase.words, Phrase.wording, Phrase.wordings]
  exact Phrase.joined_cons_ne_empty ho _

theorem frames_alone (b : QueryBlock) :
    Combination.Frames "" "" (guarded b.fault? (b.clauses [b.scope])) (b.alone.phrase []) where
  faults strategy := by rw [phrase_alone]; simp
  bindings := by rw [phrase_alone]; simp
  wording strategy n := by
    rw [phrase_alone]
    simp [Phrase.words, Phrase.wording, Phrase.wordings]
  ne_empty strategy n h := by
    cases hb : b.fault? with
    | none => exact wording_ne_empty strategy n _ b
    | some e => simp [guarded, hb] at h

theorem framesAll_phrases (blocks : List QueryBlock) :
    Combination.FramesAll "" "" (blocks.map fun b => (b.connector, b.alone))
      (phrases [] blocks) := by
  induction blocks with
  | nil => rw [phrases]; exact .nil
  | cons b blocks ih => rw [phrases]; exact .cons b.connector (frames_alone b) ih

end QueryBlock

namespace Select

def combination (q : Select) : Combination where
  members := q.blocks.map fun b => (b.connector, b.alone)
  orderBy := q.orderBy
  paging := q.paging

/-- With one block only, the order would be resolved inside the block. -/
theorem verbatim (q : Select) (h : 2 ≤ q.blocks.length) :
    q.combination.Verbatim "" "" q.render := by
  obtain ⟨blocks, orderBy, paging⟩ := q
  refine Combination.verbatim_of_framesAll (QueryBlock.framesAll_phrases blocks) .select
    fun strategy => ?_
  rw [render, phrase, Combination.phrase]
  rcases blocks with _ | ⟨b, _ | ⟨b', rest⟩⟩
  · simp at h
  · simp at h
  · rfl

end Select

/-- The rows are those of the select: behind the heading of the insert stands the statement of the
select, and there are no parameters but its own. -/
structure InsertSelect.Verbatim (i : InsertSelect) : Prop where
  succeeds_iff : ∀ strategy s t, (i.render strategy).Succeeds s ↔
    (∃ table ∈ i.table, Text.isBlank table.name = false) ∧ (i.query.render strategy).Succeeds t
  writes : (∀ b ∈ i.query.bindings, b.Stateless) → i.query.bindings.length < 2 ^ 32 - 1 →
    ∀ strategy s t st u, (i.render strategy).outcome s = (.ok st, u) →
      ∃ st' v, (i.query.render strategy).outcome t = (.ok st', v) ∧
        (∃ table ∈ i.table, st.sql = i.heading table ++ st'.sql) ∧
        st.parameters.toList = st'.parameters.toList

namespace InsertSelect

theorem faults_phrase (i : InsertSelect) (strategy : Strategy) :
    i.phrase.faults strategy = [] ↔
      (∃ table ∈ i.table, Text.isBlank table.name = false) ∧
        (i.query.phrase []).faults strategy = [] := by
  obtain ⟨_ | t, columns, query⟩ := i
  · simp [phrase, Phrase.ofTable]
  · by_cases h : Text.isBlank t.name <;> simp [phrase, Phrase.ofTable, h]

theorem verbatim (i : InsertSelect) : i.Verbatim where
  succeeds_iff strategy s t := by
    rw [render, Select.render, Phrase.succeeds_statement_iff, Phrase.succeeds_statement_iff,
      faults_phrase]
  writes hb hn strategy s t st u h := by
    obtain ⟨hf, g, hg, rfl⟩ := Phrase.written_of_statement h
    obtain ⟨⟨table, ht, hb'⟩, hq⟩ := (i.faults_phrase strategy).1 hf
    have hp : i.phrase = .after (i.heading table) (i.query.phrase []) := by
      rw [phrase, Option.mem_def.1 ht, Phrase.ofTable, if_neg (by simp [hb'])]
    rw [hp] at hg
    rw [← Select.bindings_phrase hq] at hb hn
    obtain ⟨st', v, ho⟩ : (i.query.render strategy).Succeeds t :=
      (Phrase.succeeds_statement_iff .select).2 hq
    obtain ⟨-, g', hg', rfl⟩ := Phrase.written_of_statement ho
    have hl : (1 : UInt32).toNat + (i.query.phrase []).bindings.length ≤ 2 ^ 32 := by
      rw [UInt32.toNat_one]
      omega
    refine ⟨.ofFragment g', v, ho, ⟨table, ht, ?_⟩, ?_⟩
    · refine hg.text.trans ?_
      rw [Phrase.wording_after]
      exact congrArg (i.heading table ++ ·) hg'.text.symm
    · refine (hg.toList_eq_log (by rw [Phrase.bindings_after]; exact hl)).trans ?_
      rw [Phrase.bindings_after]
      exact (Binding.log_of_stateless hb _ _ _).trans (hg'.toList_eq_log hl).symm

end InsertSelect

namespace Select

/-- Multi-selects, selects of several blocks and inserts from a select hold the selects that they
are made of as these are written alone. -/
theorem embedded_verbatim :
    (∀ m : MultiSelect, m.combination.Verbatim "(" ")" m.render) ∧
    (∀ q : Select, 2 ≤ q.blocks.length → q.combination.Verbatim "" "" q.render) ∧
    ∀ i : InsertSelect, i.Verbatim :=
  ⟨MultiSelect.verbatim, verbatim, InsertSelect.verbatim⟩

def largeOrders : QueryBlock :=
  let orders : Table := ⟨⟨0⟩, "orders"⟩
  let large : Criterion :=
    .compare (.column (orders.column "total")) (.ofValue .greaterThan (.unsigned 7))
  ⟨none, false, [.column (orders.column "id")], some (.table orders), ∅, [], [large], [], []⟩

def doubled : MultiSelect :=
  ⟨largeOrders.alone, [(.union, largeOrders.alone)], none, some ⟨.limitOffset, some 2, none⟩⟩

def doubledBlocks : Select :=
  ⟨[largeOrders, { largeOrders with connector := some .unionAll }], none,
    some ⟨.limitOffset, some 2, none⟩⟩

def archived : InsertSelect := { table := some ⟨⟨1⟩, "archive"⟩, query := largeOrders.alone }

/-- The select gets numbers of its own each time. -/
theorem embedded_verbatim_of_doubled :
    doubled.combination.Writes "(" ")" .springNamed
      ⟨"(select id from orders where total > :p1) union " ++
        "(select id from orders where total > :p2) limit :p3",
        .ofList [("p1", .unsigned 7), ("p2", .unsigned 7), ("p3", .unsigned 2)]⟩ ∧
    doubledBlocks.combination.Writes "" "" .springNamed
      ⟨"select id from orders where total > :p1 union all " ++
        "select id from orders where total > :p2 limit :p3",
        .ofList [("p1", .unsigned 7), ("p2", .unsigned 7), ("p3", .unsigned 2)]⟩ ∧
    ∃ st t st' t', (archived.render .springNamed).outcome {} = (.ok st, t) ∧
      (largeOrders.alone.render .springNamed).outcome {} = (.ok st', t') ∧
      st.sql = "insert into archive " ++ st'.sql ∧
      st.parameters.toList = st'.parameters.toList := by
  obtain ⟨hm, hq, hi⟩ := embedded_verbatim
  have hc : (⟨some ((⟨⟨0⟩, "orders"⟩ : Table).column "total"), .value (.unsigned 7)⟩ :
      Binding).Stateless := by
    constructor
    · rintro c ⟨⟩ k ⟨⟩
    · rintro s ⟨⟩
  have hp : (⟨none, .value (.unsigned 2)⟩ : Binding).Stateless := by
    constructor
    · rintro c ⟨⟩
    · rintro s ⟨⟩
  have hb : ∀ b ∈ largeOrders.alone.bindings, b.Stateless := List.forall_mem_singleton.2 hc
  have hbs : ∀ b ∈ doubled.combination.bindings, b.Stateless :=
    List.forall_mem_cons.2 ⟨hc, List.forall_mem_cons.2 ⟨hc, List.forall_mem_singleton.2 hp⟩⟩
  refine ⟨?_, ?_, ?_⟩
  · exact (hm doubled).writes hbs (by decide) .springNamed {} _ _ rfl
  · exact (hq doubledBlocks (by decide)).writes hbs (by decide) .springNamed {} _ _ rfl
  · have hs : (archived.render .springNamed).Succeeds {} := by
      rw [(hi archived).succeeds_iff _ _ {}]
      exact ⟨⟨_, rfl, by decide⟩, (Phrase.succeeds_statement_iff .select).2 (by decide)⟩
    obtain ⟨st, t, ho⟩ := hs
    obtain ⟨st', t', ho', ⟨_, ⟨⟩, hsql⟩, hp⟩ :=
      (hi archived).writes hb (by decide) .springNamed {} {} st t ho
    exact ⟨st, t, st', t', ho, ho', hsql, hp⟩

end Select

end SqlStatement
