import SqlStatement.Proofs.Statement.Alignment
import SqlStatement.Proofs.Statement.Combination
import SqlStatement.Proofs.Statement.Qualifiers

/-! # A where clause in its statement

The where clause of a delete, of an update, and of a select of one table is written as it is alone
with the aliases of the statement. Only its parameters are numbered on from those before it.
-/

namespace SqlStatement

open Rendering (Succeeds)

namespace Phrase

structure Equiv (p q : Phrase) : Prop where
  faults : ∀ strategy, p.faults strategy = q.faults strategy
  bindings : p.bindings = q.bindings
  wording : ∀ strategy n, p.wording strategy n = q.wording strategy n

namespace Equiv

variable {p q r : Phrase}

theorem symm (h : Equiv p q) : Equiv q p :=
  ⟨fun S => (h.faults S).symm, h.bindings.symm, fun S n => (h.wording S n).symm⟩

theorem trans (h : Equiv p q) (h' : Equiv q r) : Equiv p r :=
  ⟨fun S => (h.faults S).trans (h'.faults S), h.bindings.trans h'.bindings,
    fun S n => (h.wording S n).trans (h'.wording S n)⟩

theorem words (before ps behind : List Phrase) :
    Equiv (.words (before ++ .words ps :: behind)) (.words (before ++ (ps ++ behind))) where
  faults strategy := by simp
  bindings := by simp
  wording strategy n := by
    rw [Phrase.words, Phrase.words, Phrase.words, Phrase.wording, Phrase.wording, wordings_append,
      wordings_append, wordings_append, wordings, Phrase.wording, joined_append_joined_cons]
    simp

theorem words_cut (before ps clause qs behind : List Phrase) :
    Equiv (.words (before ++ .words (ps ++ (clause ++ qs)) :: behind))
      (.words (.words (before ++ [.words ps]) :: (clause ++ (qs ++ behind)))) := by
  have hcut := words before (ps ++ (clause ++ qs)) behind
  have hin := words before ps (clause ++ (qs ++ behind))
  have hout := words [] (before ++ [.words ps]) (clause ++ (qs ++ behind))
  simp only [List.append_assoc, List.nil_append, List.singleton_append] at hcut hin hout
  exact hcut.trans (hin.symm.trans hout.symm)

end Equiv

end Phrase

namespace Where

variable {strategy : Strategy} {aliases : Aliases} {w : Where}

/-- What is written of a where clause from a number on: the clause as it is alone, with its
parameters renumbered in the map and in the placeholders, and nothing where it is absent. -/
structure WrittenFrom (strategy : Strategy) (n : Nat) (aliases : Aliases) (w : Where)
    (f : Option Fragment) : Prop where
  alone : ∀ s, ∃ r t, (w.render aliases strategy).outcome s = (.ok r, t) ∧
    Option.Rel (Renumbered strategy n) r f
  rekeyed : ∀ s, ∃ r t,
    (w.render aliases (strategy.rekeyed (Parameters.renumber n))).outcome s = (.ok r, t) ∧
      r.map (·.sql) = f.map (·.text)
  text : ∀ g ∈ f, g.text ≠ ""

theorem clause_cases (σ : Scopes) (w : Where) :
    w.clause σ = [] ∨ ∃ q : Phrase, w.clause σ = [.after "where " q] := by
  rw [clause, Phrase.clause]
  cases (Criterion.chain σ w.criteria).phrase? with
  | none => exact .inl rfl
  | some q => exact .inr ⟨q, rfl⟩

theorem render_of_absent (hc : w.clause [.explicit aliases] = []) :
    w.render aliases strategy = pure none := by
  rw [render, hc]

theorem render_of_present {p : Phrase} (hc : w.clause [.explicit aliases] = [p]) :
    w.render aliases strategy =
      some <$> (Phrase.words [p]).statement .whereClause strategy := by
  rw [render, hc]

theorem outcome_render_of_present {p : Phrase} (hc : w.clause [.explicit aliases] = [p])
    (hf : (Phrase.words [p]).faults strategy = []) (s : Session) :
    ∃ g t, (w.render aliases strategy).outcome s = (.ok (some (.ofFragment g)), t) ∧
      (Phrase.words [p]).Written strategy { s with next := 1 } g := by
  obtain ⟨g, ho, hg⟩ := Phrase.render_of_faultless hf { s with next := 1 }
  rw [render_of_present hc, Phrase.outcome_some_statement, ho]
  exact ⟨g, _, rfl, hg⟩

theorem succeeds_of_faultless
    (hf : (w.clause [.explicit aliases]).flatMap (Phrase.faults strategy) = []) (s : Session) :
    (w.render aliases strategy).Succeeds s := by
  rcases w.clause_cases [.explicit aliases] with hc | ⟨q, hc⟩
  · rw [render_of_absent hc]
    exact ⟨none, s, rfl⟩
  · rw [hc] at hf
    obtain ⟨g, t, ho, -⟩ := outcome_render_of_present hc (by simpa using hf) s
    exact ⟨_, t, ho⟩

theorem exists_writtenFrom {s : Session}
    (hf : (w.clause [.explicit aliases]).flatMap (Phrase.faults strategy) = [])
    (hb : ∀ b ∈ Criterion.allBindings w.criteria, b.Stateless)
    (hn : s.next.toNat + (Criterion.allBindings w.criteria).length < 2 ^ 32) :
    ∃ f, w.WrittenFrom strategy s.next.toNat aliases f ∧
      f.toList.map (·.text) = Phrase.wordings strategy s.next (w.clause [.explicit aliases]) ∧
      f.elim [] (·.parameters.toList) =
        Binding.log s.next (Criterion.allBindings w.criteria) s.memory ∧
      f.elim 0 (·.parameters.size) = (Criterion.allBindings w.criteria).length := by
  have hbs : (w.clause [.explicit aliases]).flatMap Phrase.bindings =
      Criterion.allBindings w.criteria := w.binds_clause _ hf
  rw [← hbs] at hb hn ⊢
  rcases w.clause_cases [.explicit aliases] with hc | ⟨q, hc⟩
  · rw [hc]
    have ho (S : Strategy) (t : Session) : (w.render aliases S).outcome t = (.ok none, t) := by
      rw [render_of_absent hc]
      rfl
    exact ⟨none, ⟨fun t => ⟨none, t, ho strategy t, .none⟩, fun t => ⟨none, t, ho _ t, rfl⟩, nofun⟩,
      rfl, rfl, rfl⟩
  · have hw : (w.clause [.explicit aliases]).flatMap Phrase.bindings =
        (Phrase.words [.after "where " q]).bindings := by rw [hc]; simp
    rw [hw] at hb hn ⊢
    have hp : (Phrase.words [.after "where " q]).faults strategy = [] := by
      rw [hc] at hf
      simpa using hf
    obtain ⟨f, -, hwritten⟩ := Phrase.render_of_faultless hp s
    have hr : Renames (Parameters.renumber s.next.toNat) 1 s.next
        (Phrase.words [.after "where " q]).bindings.length := .renumber hn
    have ht : f.text = "where " ++ q.wording strategy s.next := by
      rw [hwritten.text]
      simp [Phrase.words, Phrase.wording, Phrase.wordings]
    refine ⟨some f, ⟨?_, ?_, ?_⟩, ?_, hwritten.toList_eq_log (Nat.le_of_lt hn),
      hwritten.size_parameters (Nat.le_of_lt hn)⟩
    · intro t
      obtain ⟨g, u, ho, hg⟩ := outcome_render_of_present hc hp t
      exact ⟨_, u, ho, .some (hg.renumbered hwritten hb hn)⟩
    · intro t
      have hp' := (Phrase.faults_rekeyed strategy (Parameters.renumber s.next.toNat) _).trans hp
      obtain ⟨g, u, ho, hg⟩ := outcome_render_of_present hc hp' t
      refine ⟨_, u, ho, congrArg some ?_⟩
      exact (hg.text.trans (Phrase.wording_rekeyed hr)).trans hwritten.text.symm
    · rintro g ⟨⟩
      simp [ht]
    · simp [hc, Phrase.wordings, ht]

end Where

/-- A statement around its where clause. -/
structure Filtered where
  criteria : Where
  aliases : Aliases
  before : List Binding
  behind : List Phrase
  /-- The statement up to its clause, as a statement of its own. -/
  start : Strategy → Rendering Statement
  render : Strategy → Rendering Statement

namespace Filtered

def bindings (x : Filtered) : List Binding :=
  x.before ++ (Criterion.allBindings x.criteria.criteria ++ x.behind.flatMap Phrase.bindings)

/-- The statement begins as it does without its clause. Behind that stands the clause as it is
alone, its parameters numbered on from those before it, and then the rest, numbered on from it. -/
def Writes (x : Filtered) (strategy : Strategy) (s : Session) (st : Statement) : Prop :=
  ∃ start t f rest, (x.start strategy).outcome s = (.ok start, t) ∧
    start.parameters.size = x.before.length ∧
    x.criteria.WrittenFrom strategy (1 + x.before.length) x.aliases f ∧
    st.sql = Phrase.joined " " (start.sql :: (f.toList.map (·.text) ++ Phrase.wordings strategy
      (.ofNat (1 + x.before.length + f.elim 0 (·.parameters.size))) x.behind)) ∧
    st.parameters.toList =
      start.parameters.toList ++ (f.elim [] (·.parameters.toList) ++ rest)

/-- Wherever the statement is written, its where clause can be written alone, and stands in the
statement as it is alone. -/
structure Verbatim (x : Filtered) : Prop where
  alone : ∀ strategy s st t, (x.render strategy).outcome s = (.ok st, t) →
    ∀ u, (x.criteria.render x.aliases strategy).Succeeds u
  writes : (∀ b ∈ Criterion.allBindings x.criteria.criteria, b.Stateless) →
    x.bindings.length < 2 ^ 32 - 1 →
    ∀ strategy s st t, (x.render strategy).outcome s = (.ok st, t) → x.Writes strategy s st

/-- The phrases of the statement and of its start: no strategy tells the statement from its start,
the clause and the rest. -/
structure Cut (x : Filtered) (kind : StatementKind) (p head : Phrase) : Prop where
  render : ∀ strategy, x.render strategy = p.statement kind strategy
  start : ∀ strategy, x.start strategy = head.statement kind strategy
  before : ∀ strategy, Phrase.Binds strategy [head] x.before
  equiv : ∀ strategy, p.faults strategy = [] → Phrase.Equiv p
    (.words (head :: (x.criteria.clause [.explicit x.aliases] ++ x.behind)))

namespace Cut

variable {x : Filtered} {kind : StatementKind} {p head : Phrase} {strategy : Strategy}

theorem faultless (h : x.Cut kind p head) (hf : p.faults strategy = []) :
    head.faults strategy = [] ∧
      (x.criteria.clause [.explicit x.aliases]).flatMap (Phrase.faults strategy) = [] := by
  have he := (h.equiv strategy hf).faults strategy
  rw [hf, Phrase.faults_words, List.flatMap_cons, List.flatMap_append, eq_comm,
    List.append_eq_nil_iff, List.append_eq_nil_iff] at he
  exact ⟨he.1, he.2.1⟩

theorem bindings_head (h : x.Cut kind p head) (hf : p.faults strategy = []) :
    head.bindings = x.before := by
  simpa using h.before strategy (by simpa using (h.faultless hf).1)

theorem bindings_clause (h : x.Cut kind p head) (hf : p.faults strategy = []) :
    (x.criteria.clause [.explicit x.aliases]).flatMap Phrase.bindings =
      Criterion.allBindings x.criteria.criteria :=
  x.criteria.binds_clause _ (h.faultless hf).2

theorem bindings (h : x.Cut kind p head) (hf : p.faults strategy = []) :
    p.bindings = x.bindings := by
  rw [(h.equiv strategy hf).bindings, Phrase.bindings_words, List.flatMap_cons,
    List.flatMap_append, h.bindings_head hf, h.bindings_clause hf, Filtered.bindings]

/-- The start is worded first, then the clause and then the rest, each from the number behind what
was worded before. -/
theorem wording (h : x.Cut kind p head) (hf : p.faults strategy = []) (n : UInt32) :
    p.wording strategy n = Phrase.joined " " (head.wording strategy n ::
      (Phrase.wordings strategy (n + .ofNat x.before.length)
        (x.criteria.clause [.explicit x.aliases]) ++
      Phrase.wordings strategy (n + .ofNat x.before.length +
        .ofNat (Criterion.allBindings x.criteria.criteria).length) x.behind)) := by
  rw [(h.equiv strategy hf).wording, Phrase.words, Phrase.wording, Phrase.wordings,
    Phrase.wordings_append, h.bindings_head hf, h.bindings_clause hf]

theorem writes (h : x.Cut kind p head)
    (hb : ∀ b ∈ Criterion.allBindings x.criteria.criteria, b.Stateless)
    (hn : x.bindings.length < 2 ^ 32 - 1) {s t : Session} {st : Statement}
    (ho : (x.render strategy).outcome s = (.ok st, t)) : x.Writes strategy s st := by
  rw [h.render] at ho
  obtain ⟨hf, g, hg, rfl⟩ := Phrase.written_of_statement ho
  have h1 : ({ s with next := 1 } : Session).next.toNat = 1 := UInt32.toNat_one
  have hlog := hg.toList_eq_log (by rw [h1, h.bindings hf]; omega)
  rw [h.bindings hf, Filtered.bindings, Binding.log_append, Binding.log_append] at hlog
  rw [Filtered.bindings, List.length_append, List.length_append] at hn
  -- The start is written from where the statement is, and the clause from where the start ends.
  obtain ⟨f₀, ho₀, hw₀⟩ := Phrase.render_of_faultless (h.faultless hf).1 { s with next := 1 }
  obtain ⟨t₀, hs₀⟩ : ∃ t₀, (x.start strategy).outcome s = (.ok (.ofFragment f₀), t₀) := by
    rw [h.start, Phrase.outcome_statement, ho₀]
    exact ⟨_, rfl⟩
  have hnext : (Session.after { s with next := 1 } x.before).next.toNat = 1 + x.before.length :=
    Session.toNat_next_after (by rw [h1]; omega)
  obtain ⟨f, hfrom, htext, hclause, hsize⟩ := Where.exists_writtenFrom
    (s := Session.after { s with next := 1 } x.before) (h.faultless hf).2 hb
    (by rw [hnext]; omega)
  obtain ⟨rest, hrest⟩ : ∃ rest, g.parameters.toList =
      f₀.parameters.toList ++ (f.elim [] (·.parameters.toList) ++ rest) := by
    rw [hclause, hw₀.toList_eq_log (by rw [h1, h.bindings_head hf]; omega), h.bindings_head hf]
    exact ⟨_, hlog⟩
  refine ⟨.ofFragment f₀, t₀, f, rest, hs₀, ?_, hnext ▸ hfrom, ?_, hrest⟩
  · refine (hw₀.size_parameters ?_).trans (congrArg List.length (h.bindings_head hf))
    rw [h1, h.bindings_head hf]
    omega
  · have hend : (1 : UInt32) + .ofNat x.before.length +
        .ofNat (Criterion.allBindings x.criteria.criteria).length =
          .ofNat (1 + x.before.length + f.elim 0 (·.parameters.size)) := by
      rw [hsize, UInt32.ofNat_add, UInt32.ofNat_add]
      rfl
    rw [htext, ← hend]
    exact hg.text.trans ((h.wording hf 1).trans
      (congrArg (Phrase.joined " " <| · :: _) hw₀.text.symm))

theorem verbatim (h : x.Cut kind p head) : x.Verbatim where
  alone strategy s st t ho := by
    rw [h.render] at ho
    exact Where.succeeds_of_faultless (h.faultless (Phrase.written_of_statement ho).1).2
  writes hb hn _ _ _ _ ho := h.writes hb hn ho

end Cut

end Filtered

/-- The aliases that the statement has: at most one, for its table. -/
def Target.aliases (target : Target) : Aliases :=
  match target.table with
  | some t => (target.scope t).aliases
  | none => ∅

theorem Target.explicit_of_table {target : Target} {t : Table} (h : target.table = some t) :
    Scope.explicit target.aliases = target.scope t := by
  rw [aliases, h]
  rfl

namespace Reach

theorem phrases_empty (σ : Scopes) : ({} : Reach).phrases σ = [] := by
  simp [phrases, Where.clause, Criterion.chain, Chain.phrase?, Phrase.clause, SortItem.clause]

theorem phrases_eq (σ : Scopes) (r : Reach) :
    r.phrases σ = r.criteria.clause σ ++ ({ r with criteria := {} } : Reach).phrases σ := by
  simp [phrases, Where.clause, Criterion.chain, Chain.phrase?, Phrase.clause]

theorem equiv_words (σ : Scopes) (ps : List Phrase) (r : Reach) :
    Phrase.Equiv (.words (ps ++ r.phrases σ)) (.words (.words (ps ++ ({} : Reach).phrases σ) ::
      (r.criteria.clause σ ++ ({ r with criteria := {} } : Reach).phrases σ))) := by
  rw [phrases_empty, List.append_nil, ← phrases_eq]
  exact (Phrase.Equiv.words [] ps (r.phrases σ)).symm

end Reach

def Delete.filtered (d : Delete) : Filtered where
  criteria := d.reach.criteria
  aliases := d.target.aliases
  before := []
  behind := ({ d.reach with criteria := {} } : Reach).phrases [.explicit d.target.aliases]
  start := ({ d with reach := {} } : Delete).render
  render := d.render

def Update.filtered (u : Update) : Filtered where
  criteria := u.reach.criteria
  aliases := u.target.aliases
  before := u.mappings.flatMap Mapping.bindings
  behind := ({ u.reach with criteria := {} } : Reach).phrases [.explicit u.target.aliases]
  start := ({ u with reach := {} } : Update).render
  render := u.render

theorem Delete.cut (d : Delete) :
    d.filtered.Cut .delete d.phrase ({ d with reach := {} } : Delete).phrase where
  render _ := rfl
  start _ := rfl
  before _ := Delete.binds_phrase _
  equiv _ hf := by
    obtain ⟨t, ht, hp⟩ := Phrase.ofTable_of_faultless hf
    have hd := Reach.equiv_words [d.target.scope t]
      [.text ("delete from " ++ Scopes.tableName [d.target.scope t] t)] d.reach
    rw [filtered, Target.explicit_of_table ht, phrase, phrase, hp, hp]
    exact hd

theorem Update.cut (u : Update) :
    u.filtered.Cut .update u.phrase ({ u with reach := {} } : Update).phrase where
  render _ := rfl
  start _ := rfl
  before _ hf := (Update.binds_phrase { u with reach := {} } hf).trans (List.append_nil _)
  equiv _ hf := by
    obtain ⟨t, ht, hp⟩ := Phrase.ofTable_of_faultless hf
    have hu := Reach.equiv_words [u.target.scope t]
      [.text ("update " ++ Scopes.tableName [u.target.scope t] t),
        u.assignments [u.target.scope t]] u.reach
    rw [filtered, Target.explicit_of_table ht, phrase, phrase, hp, hp]
    exact hu

theorem Scopes.qualifier_append_congr {σ τ : Scopes} {t : Table}
    (h : σ.qualifier t = τ.qualifier t) (ρ : Scopes) :
    (ρ ++ σ).qualifier t = (ρ ++ τ).qualifier t := by
  induction ρ with
  | nil => exact h
  | cons s ρ ih =>
    rw [List.cons_append, List.cons_append, qualifier, qualifier, ih]

theorem Site.namedAlike_of_qualifier {σ τ : Scopes} (h : ∀ t, σ.qualifier t = τ.qualifier t)
    (x : Site) : x.NamedAlike σ τ := by
  obtain ⟨n, part⟩ := x
  cases part with
  | column c =>
    change (n.scopes ++ σ).columnName c = (n.scopes ++ τ).columnName c
    rw [Scopes.columnName, Scopes.columnName, Scopes.qualifier_append_congr (h c.table)]
  | _ => trivial

namespace QueryBlock

variable {b : QueryBlock}

/-- Without joins a block names columns by nothing but its aliases, in its own clauses and in the
selects inside them. -/
theorem chain_of_joinless (hj : b.joins = []) (criteria : List Criterion) :
    Criterion.chain [b.scope] criteria = Criterion.chain [.explicit b.aliases] criteria := by
  apply Criterion.chain_congr {}
  intro x _
  apply Site.namedAlike_of_qualifier
  intro t
  have hq : b.scope.qualifiesAll = false := by simp [scope, hj]
  rw [Scopes.qualifier_singleton hq, Scopes.qualifier_singleton (s := .explicit b.aliases) rfl]
  rfl

def upToWhere (b : QueryBlock) : QueryBlock :=
  { b with criteria := [], groupBy := [], having := [] }

def behindWhere (b : QueryBlock) : List Phrase :=
  Phrase.listClause "group by" (Expr.phrases [b.scope] b.groupBy) ++
    Phrase.clause "having" (Criterion.chain [b.scope] b.having).phrase?

def filtered (b : QueryBlock) (orderBy : Option (List SortItem)) (paging : Option Paging) :
    Filtered where
  criteria := ⟨b.criteria⟩
  aliases := b.aliases
  before := Expr.allBindings b.columns ++ Source.fromBindings b.source
  behind := b.behindWhere ++
    ((orderBy.map (SortItem.clause [b.scope])).getD [] ++ (paging.map Paging.phrases).getD [])
  start := Select.render ⟨[b.upToWhere], none, none⟩
  render := Select.render ⟨[b], orderBy, paging⟩

theorem clauses_of_joinless (hj : b.joins = []) : b.clauses [b.scope] =
    b.upToWhere.clauses [b.scope] ++
      ((⟨b.criteria⟩ : Where).clause [.explicit b.aliases] ++ b.behindWhere) := by
  have hw : (⟨b.criteria⟩ : Where).clause [.explicit b.aliases] =
      (⟨b.criteria⟩ : Where).clause [b.scope] := by
    rw [Where.clause, Where.clause, chain_of_joinless hj]
  rw [hw]
  obtain ⟨connector, distinct, columns, source, aliases, joins, criteria, groupBy, having⟩ := b
  obtain rfl : joins = [] := hj
  simp [clauses, upToWhere, behindWhere, Where.clause, Join.phrases, Expr.phrases, Criterion.chain,
    Chain.phrase?, Phrase.clause, Phrase.listClause]

theorem phrase_of_block (hb : b.fault? = none) (orderBy : Option (List SortItem))
    (paging : Option Paging) : (⟨[b], orderBy, paging⟩ : Select).phrase [] =
      .words ((b.connector.map (Phrase.text ·.text)).toList ++ .words (b.clauses [b.scope]) ::
        ((orderBy.map (SortItem.clause [b.scope])).getD [] ++
          (paging.map Paging.phrases).getD [])) := by
  simp [Select.phrase, phrases, hb, guarded, Select.orderScopes]

theorem cut (hj : b.joins = []) (orderBy : Option (List SortItem)) (paging : Option Paging) :
    (b.filtered orderBy paging).Cut .select ((⟨[b], orderBy, paging⟩ : Select).phrase [])
      ((⟨[b.upToWhere], none, none⟩ : Select).phrase []) where
  render _ := rfl
  start _ := rfl
  before _ hf := by
    refine (Select.binds_phrase [] ⟨[b.upToWhere], none, none⟩ hf).trans ?_
    obtain ⟨connector, distinct, columns, source, aliases, joins, criteria, groupBy, having⟩ := b
    obtain rfl : joins = [] := hj
    simp [Select.bindings, QueryBlock.allBindings, QueryBlock.bindings, upToWhere, filtered,
      Join.allBindings, Criterion.allBindings, Expr.allBindings]
  equiv _ hf := by
    have hb : b.fault? = none := by
      cases hb : b.fault? with
      | none => rfl
      | some e => simp [Select.phrase, phrases, hb, guarded] at hf
    have hs : (⟨[b.upToWhere], none, none⟩ : Select).phrase [] =
        .words ((b.connector.map (Phrase.text ·.text)).toList ++
          [.words (b.upToWhere.clauses [b.scope])]) :=
      phrase_of_block (b := b.upToWhere) hb none none
    rw [phrase_of_block hb, clauses_of_joinless hj, hs]
    exact Phrase.Equiv.words_cut ..

end QueryBlock

/-- The where clause of a delete, of an update, and of a select of one block without joins is
written as it is alone with the aliases of the statement. It is absent where it is absent alone, and
else it stands behind what the statement is without it, its parameters numbered on. -/
theorem Where.verbatim_in_statements :
    (∀ d : Delete, d.filtered.Verbatim) ∧ (∀ u : Update, u.filtered.Verbatim) ∧
    ∀ (b : QueryBlock) (orderBy : Option (List SortItem)) (paging : Option Paging),
      b.joins = [] → (b.filtered orderBy paging).Verbatim :=
  ⟨fun d => d.cut.verbatim, fun u => u.cut.verbatim,
    fun _ orderBy paging hj => (QueryBlock.cut hj orderBy paging).verbatim⟩

def withLargeOrder : Criterion :=
  let users : Table := ⟨⟨0⟩, "users"⟩
  let orders : Table := ⟨⟨1⟩, "orders"⟩
  let theirs : Criterion :=
    .compare (.column (orders.column "buyer")) (.ofExpr .equalTo (.column (users.column "id")))
  let large : Criterion :=
    .compare (.column (orders.column "total")) (.ofValue .greaterThan (.unsigned 7))
  .ofExists ⟨[⟨none, false, [.column (orders.column "id")], some (.table orders), ∅, [],
    [theirs, large.withConnector .and], [], []⟩], none, none⟩

def rewarding : Update :=
  let users : Table := ⟨⟨0⟩, "users"⟩
  { target := { table := some users, aliasName := some "u" },
    mappings := [⟨users.column "level", .value (.unsigned 5)⟩],
    reach := { criteria := ⟨[withLargeOrder]⟩, limit := some 3 } }

def rewarded : QueryBlock :=
  let users : Table := ⟨⟨0⟩, "users"⟩
  ⟨none, false, [.column (users.column "id")], some (.table users), .ofList [(⟨0⟩, "u")], [],
    [withLargeOrder], [], []⟩

set_option maxRecDepth 2048 in
/-- The clause has the second parameter of the update, and the first of the select. -/
theorem Where.verbatim_in_statements_of_rewarding :
    rewarding.filtered.Writes .springNamed {}
      ⟨"update users u set u.level = :p1 where exists (select id from orders " ++
        "where buyer = u.id and total > :p2) limit :p3",
        .ofList [("p1", .unsigned 5), ("p2", .unsigned 7), ("p3", .unsigned 3)]⟩ ∧
    (rewarded.filtered none none).Writes .springNamed {}
      ⟨"select u.id from users u where exists (select id from orders " ++
        "where buyer = u.id and total > :p1)", .ofList [("p1", .unsigned 7)]⟩ := by
  obtain ⟨-, hu, hq⟩ := Where.verbatim_in_statements
  have hb : ∀ b ∈ Criterion.allBindings [withLargeOrder], b.Stateless := by
    refine List.forall_mem_singleton.2 ⟨?_, ?_⟩
    · rintro c ⟨⟩ k ⟨⟩
    · rintro s ⟨⟩
  constructor
  · exact (hu rewarding).writes hb (by decide) .springNamed {} _ _ rfl
  · exact (hq rewarded none none rfl).writes hb (by decide) .springNamed {} _ _ rfl

end SqlStatement
