import SqlStatement.Proofs.Phrase.Renaming
import SqlStatement.Proofs.Query.Faults
import SqlStatement.Proofs.Query.Names
import SqlStatement.Proofs.Statement.Strategies

/-! # A select inside a statement

A select fails inside a statement as it fails alone. A select that names its columns itself, and
whose callbacks remember nothing, is also written inside a statement as it is alone, whatever
stands around it; only its parameters take the numbers that follow on those before.
-/

namespace SqlStatement

namespace Phrase

variable {strategy : Strategy} {kind : StatementKind} {p q : Phrase} {s t u : Session}

theorem outcome_error_of_faults {e : RenderError} (hf : p.faults strategy = q.faults strategy)
    (h : (p.render strategy).outcome s = (.error e, u)) (t : Session) :
    ∃ v, (q.render strategy).outcome t = (.error e, v) := by
  rcases p.outcome_render strategy s with ⟨-, f, ho, -⟩ | ⟨e', v, he, ho⟩
  · cases ho.symm.trans h
  · cases ho.symm.trans h
    rw [hf] at he
    cases hq : q.faults strategy with
    | nil => simp [hq] at he
    | cons e' es =>
      obtain rfl : e' = e := by simpa [hq] using he
      exact render_of_fault hq t

theorem render_error_of_statement {e : RenderError}
    (h : (p.statement kind strategy).outcome s = (.error e, u)) :
    (p.render strategy).outcome { s with next := 1 } = (.error e, u) := by
  rw [outcome_statement] at h
  split at h
  next => cases h
  next ho =>
    cases h
    exact ho

theorem written_of_statement {st : Statement}
    (h : (p.statement kind strategy).outcome s = (.ok st, u)) :
    p.faults strategy = [] ∧
      ∃ g, p.Written strategy { s with next := 1 } g ∧ st = .ofFragment g := by
  rw [outcome_statement] at h
  rcases p.outcome_render strategy { s with next := 1 } with ⟨hf, g, ho, hw⟩ | ⟨e, v, -, ho⟩
  · rw [ho] at h
    cases h
    exact ⟨hf, g, hw, rfl⟩
  · rw [ho] at h
    cases h

theorem statement_of_faultless (hf : p.faults strategy = []) (kind : StatementKind) (s : Session) :
    ∃ st u, (p.statement kind strategy).outcome s = (.ok st, u) ∧
      st.sql = p.wording strategy 1 := by
  obtain ⟨g, ho, hw⟩ := render_of_faultless hf { s with next := 1 }
  rw [outcome_statement, ho]
  exact ⟨.ofFragment g, _, rfl, hw.text⟩

end Phrase

/-- What is written inside a statement, against what is written alone: the parameters have the
names that they get where numbers start from `n`, in the map and in the placeholders. -/
structure Renumbered (strategy : Strategy) (n : Nat) (st : Statement) (f : Fragment) : Prop where
  parameters :
    f.parameters.toList = st.parameters.toList.map (Prod.map (Parameters.renumber n) id)
  text : strategy.Visible → ∃ segments : List Segment,
    st.sql = .join (segments.map (Segment.filled strategy)) ∧
      f.text = .join (segments.map (Segment.filled (strategy.rekeyed (Parameters.renumber n))))

namespace Phrase

variable {strategy : Strategy} {p : Phrase} {s t : Session} {f g : Fragment}

theorem Written.renumbered (hg : p.Written strategy { t with next := 1 } g)
    (hf : p.Written strategy s f) (hb : ∀ b ∈ p.bindings, b.Stateless)
    (hn : s.next.toNat + p.bindings.length < 2 ^ 32) :
    Renumbered strategy s.next.toNat (.ofFragment g) f := by
  have hr : Renames (Parameters.renumber s.next.toNat) 1 s.next p.bindings.length := .renumber hn
  constructor
  · have h1 : (1 : UInt32).toNat + p.bindings.length ≤ 2 ^ 32 := by
      rw [UInt32.toNat_one]
      omega
    have hl : (Statement.ofFragment g).parameters.toList = Binding.log 1 p.bindings t.memory :=
      hg.toList_eq_log h1
    rw [hf.toList_eq_log (Nat.le_of_lt hn), hl, Binding.log_renamed hr]
    exact Binding.log_of_stateless hb _ _ _
  · intro hv
    refine ⟨p.line.segments 1, hg.text.trans (p.wording_eq_filled hv 1), ?_⟩
    rw [hf.text, ← wording_rekeyed hr, p.wording_eq_filled (hv.rekeyed _)]
    rfl

end Phrase

namespace Select

/-- A select inside a statement, under whatever scopes and from whatever number on: it fails as it
fails alone, and if it is closed it is written as it is alone, with its parameters renumbered. -/
theorem render_nested (q : Select) (strategy : Strategy) (σ : Scopes) (s t : Session) :
    (∀ e u, (q.render strategy).outcome t = (.error e, u) →
      ∃ v, ((q.phrase σ).render strategy).outcome s = (.error e, v)) ∧
    (q.Closed → (∀ b ∈ q.bindings, b.Stateless) → s.next.toNat + q.bindings.length < 2 ^ 32 →
      ∀ st u, (q.render strategy).outcome t = (.ok st, u) →
        ∃ f v, ((q.phrase σ).render strategy).outcome s = (.ok f, v) ∧
          v.next.toNat = s.next.toNat + st.parameters.size ∧
          Renumbered strategy s.next.toNat st f ∧
          ∃ st' u', (q.render (strategy.rekeyed (Parameters.renumber s.next.toNat))).outcome t =
            (.ok st', u') ∧ st'.sql = f.text) := by
  constructor
  · intro e u h
    -- Both have the faults of the sites, in which scopes have no say.
    have hf : (q.phrase []).faults strategy = (q.phrase σ).faults strategy := by
      rw [Select.faults_phrase [] {} q, Select.faults_phrase σ {} q]
    exact Phrase.outcome_error_of_faults hf (Phrase.render_error_of_statement h) s
  · intro hc hb hn st u h
    -- One phrase in both places, so that only the numbers are left to compare.
    rw [q.phrase_of_closed hc σ]
    obtain ⟨hf, g, hg, rfl⟩ := Phrase.written_of_statement h
    obtain ⟨f, ho, hw⟩ := Phrase.render_of_faultless hf s
    have hq : (q.phrase []).bindings = q.bindings := by
      simpa using Select.binds_phrase [] q (by simpa using hf)
    rw [← hq] at hb hn
    have hr : Renames (Parameters.renumber s.next.toNat) 1 s.next (q.phrase []).bindings.length :=
      .renumber hn
    refine ⟨f, _, ho, ?_, hg.renumbered hw hb hn, ?_⟩
    · have hs : (Statement.ofFragment g).parameters.size = (q.phrase []).bindings.length :=
        hg.size_parameters (by rw [UInt32.toNat_one]; omega)
      have hl : (q.phrase []).bindings.length < UInt32.size :=
        Nat.lt_of_le_of_lt (Nat.le_add_left _ _) hn
      rw [hs, Session.after, UInt32.toNat_add, UInt32.toNat_ofNat_of_lt' hl,
        Nat.mod_eq_of_lt hn]
    · obtain ⟨st, v, hs, ht⟩ := Phrase.statement_of_faultless
        ((Phrase.faults_rekeyed strategy (Parameters.renumber s.next.toNat) _).trans hf) .select t
      exact ⟨st, v, hs, ht.trans ((Phrase.wording_rekeyed hr).trans hw.text.symm)⟩

def buyers : Select :=
  let users : Table := ⟨⟨0⟩, "users"⟩
  let orders : Table := ⟨⟨1⟩, "orders"⟩
  let theirs : Criterion :=
    .compare (.column (orders.column "buyer")) (.ofExpr .equalTo (.column (users.column "id")))
  let large : Criterion :=
    .compare (.column (orders.column "total")) (.ofValue .greaterThan (.unsigned 7))
  let found : Select :=
    ⟨[⟨none, false, [.column (orders.column "total")], some (.table orders), ∅, [],
      [theirs, large.withConnector .and], [], []⟩], none, none⟩
  ⟨[⟨none, false, [.column (users.column "id")], some (.table users), ∅, [], [.ofExists found], [],
    []⟩], none, some ⟨.limitOffset, some 2, none⟩⟩

def renamedUsers : Scope := { aliases := .ofList [(⟨0⟩, "u")], qualifiesAll := true }

set_option maxRecDepth 2048 in
/-- After two parameters, and where the table of users has another name outside. -/
theorem render_nested_buyers :
    ∃ f v, ((buyers.phrase [renamedUsers]).render .springNamed).outcome { next := 3 } = (.ok f, v) ∧
      v.next.toNat = 5 ∧
      f.parameters.toList = [("p3", .unsigned 7), ("p4", .unsigned 2)] ∧
      f.text = "select id from users where exists " ++
        "(select total from orders where buyer = id and total > :p3) limit :p4" := by
  obtain ⟨u, ha⟩ : ∃ u, (buyers.render .springNamed).outcome {} =
      (.ok ⟨"select id from users where exists " ++
        "(select total from orders where buyer = id and total > :p1) limit :p2",
        .ofList [("p1", .unsigned 7), ("p2", .unsigned 2)]⟩, u) := ⟨_, rfl⟩
  obtain ⟨w, hi⟩ : ∃ w, ((buyers.phrase [renamedUsers]).render .springNamed).outcome { next := 3 } =
      (.ok ⟨"select id from users where exists " ++
        "(select total from orders where buyer = id and total > :p3) limit :p4",
        .ofList [("p3", .unsigned 7), ("p4", .unsigned 2)]⟩, w) := ⟨_, rfl⟩
  have hc : buyers.Closed := by decide
  have hq : buyers.bindings = [⟨some ((⟨⟨1⟩, "orders"⟩ : Table).column "total"),
      .value (.unsigned 7)⟩, ⟨none, .value (.unsigned 2)⟩] := rfl
  have hb : ∀ b ∈ buyers.bindings, b.Stateless := by
    rw [hq]
    refine List.forall_mem_cons.2 ⟨⟨?_, ?_⟩, List.forall_mem_singleton.2 ⟨?_, ?_⟩⟩
    · rintro c ⟨⟩ k ⟨⟩
    · rintro s ⟨⟩
    · rintro c ⟨⟩
    · rintro s ⟨⟩
  have hn : ({ next := 3 } : Session).next.toNat + buyers.bindings.length < 2 ^ 32 := by
    change 3 + 2 < 2 ^ 32
    omega
  obtain ⟨-, h⟩ := buyers.render_nested .springNamed [renamedUsers] { next := 3 } {}
  obtain ⟨f, v, ho, hv, hr, -⟩ := h hc hb hn _ u ha
  have h1 : Parameters.renumber 3 "p1" = "p3" := Parameters.renumber_name 3 1
  have h2 : Parameters.renumber 3 "p2" = "p4" := Parameters.renumber_name 3 2
  have hz : (Parameters.ofList [("p1", .unsigned 7), ("p2", .unsigned 2)]).size = 2 := rfl
  refine ⟨f, v, ho, ?_, ?_, ?_⟩
  · exact hv.trans (congrArg (3 + ·) hz)
  · refine hr.parameters.trans ?_
    change [(Parameters.renumber 3 "p1", _), (Parameters.renumber 3 "p2", _)] = _
    rw [h1, h2]
    rfl
  · exact congrArg Fragment.text (Except.ok.inj (congrArg Prod.fst (ho.symm.trans hi)))

end Select

end SqlStatement
