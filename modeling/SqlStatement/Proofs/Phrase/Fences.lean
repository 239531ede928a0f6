import SqlStatement.Proofs.Phrase.Pieces
import SqlStatement.Query.Phrase

/-! # Fenced literals

A phrase is fenced if no quote comes straight after a literal in it. Phrases stay fenced when they
are separated, led up to and followed by texts that start and end with something else. Along with
this goes which literals are written, in order.
-/

namespace SqlStatement

open Text (Apart Follows Leads Unquoted)

namespace Phrase

/-- Whatever the strategy, no quote comes straight after a piece that is a literal. -/
def Fenced (p : Phrase) : Prop := ∀ strategy n, (p.pieces strategy n).IsChain Apart

/-- Whatever the strategy, the phrase does not start with a quote. -/
def Trails (p : Phrase) : Prop :=
  ∀ strategy n, ∀ t ∈ (p.pieces strategy n).head?, Unquoted t.toList

section

variable {p : Phrase} {ps : List Phrase} {s t separator : String}

theorem fenced_text (s : String) : Fenced (.text s) := fun _ _ => Text.isChain_pieces s

theorem fenced_parameter (column : Option Column) (d : Datum) : Fenced (.parameter column d) :=
  fun _ _ => Text.isChain_pieces _

theorem fenced_property (column : Column) (path : Option String) (name : String) :
    Fenced (.property column path name) := fun _ _ => Text.isChain_pieces _

theorem fenced_needs (style : PagingStyle) : Fenced (.needs style) := fun _ _ => Text.isChain_pieces _

theorem fenced_fail (e : RenderError) : Fenced (.fail e) := fun _ _ => Text.isChain_pieces _

theorem fenced_join (hf : Follows separator) (hl : Leads separator) (h : ∀ p ∈ ps, Fenced p) :
    Fenced (.join separator ps) := by
  intro strategy n
  refine Text.isChain_joinedPieces hf hl fun l hm => ?_
  obtain ⟨p, hp, m, rfl⟩ := exists_of_mem_piecesOfAll hm
  exact h p hp strategy m

theorem fenced_concat_nil : Fenced (concat []) := fun _ _ => .nil

theorem fenced_concat_cons_text (hs : Leads s) (h : Fenced (concat ps)) :
    Fenced (concat (.text s :: ps)) := by
  intro strategy n
  rw [pieces_concat_cons, pieces_text, Text.pieces, if_neg hs.ne_empty, List.singleton_append]
  exact (h strategy _).cons fun t _ => hs.apart t

theorem fenced_concat_cons (hp : Fenced p) (h : Fenced (concat ps)) (ht : Trails (concat ps)) :
    Fenced (concat (p :: ps)) := by
  intro strategy n
  rw [pieces_concat_cons]
  exact (hp strategy n).append (h strategy _) fun t _ u hu _ => ht strategy _ u hu

theorem trails_concat_cons_text (hs : Follows s) : Trails (concat (.text s :: ps)) := by
  intro strategy n t ht
  rw [pieces_concat_cons, pieces_text, Text.pieces, if_neg hs.ne_empty] at ht
  obtain rfl : s = t := Option.some.inj ht
  exact hs.unquoted

theorem fenced_concat_singleton (h : Fenced p) : Fenced (concat [p]) :=
  fenced_concat_cons h fenced_concat_nil fun _ _ _ ht => by cases ht

theorem trails_concat_singleton (h : Trails p) : Trails (concat [p]) := by
  intro strategy n t ht
  rw [pieces_concat_cons, pieces_concat_nil, List.append_nil] at ht
  exact h strategy n t ht

theorem fenced_after (hs : Leads s) (h : Fenced p) : Fenced (after s p) :=
  fenced_concat_cons_text hs (fenced_concat_singleton h)

theorem fenced_between (hs : Leads s) (h : Fenced p) (ht : Follows t) : Fenced (between s p t) :=
  fenced_concat_cons_text hs
    (fenced_concat_cons h (fenced_concat_singleton (fenced_text t)) (trails_concat_cons_text ht))

end

/-- The phrases are fenced and, if they have no faults, the literals of these strings are written
for them, in order. -/
structure Quotes (strategy : Strategy) (ps : List Phrase) (ss : List String) : Prop where
  fenced : ∀ p ∈ ps, Fenced p
  literals : ps.flatMap (faults strategy) = [] → ∀ n,
    (ss.map Text.quote).Sublist (piecesOfAll strategy n ps).flatten

namespace Quotes

variable {strategy : Strategy} {p : Phrase} {ps qs : List Phrase} {ss us : List String}
  {s t separator : String}

theorem nil : Quotes strategy [] [] where
  fenced := List.forall_mem_nil _
  literals _ _ := .slnil

theorem append (hp : Quotes strategy ps ss) (hq : Quotes strategy qs us) :
    Quotes strategy (ps ++ qs) (ss ++ us) where
  fenced := List.forall_mem_append.2 ⟨hp.fenced, hq.fenced⟩
  literals h n := by
    rw [List.flatMap_append, List.append_eq_nil_iff] at h
    rw [List.map_append, piecesOfAll_append, List.flatten_append]
    exact (hp.literals h.1 n).append (hq.literals h.2 _)

theorem cons (hp : Quotes strategy [p] ss) (hq : Quotes strategy qs us) :
    Quotes strategy (p :: qs) (ss ++ us) := hp.append hq

theorem ofFenced (h : Fenced p) : Quotes strategy [p] [] where
  fenced := List.forall_mem_singleton.2 h
  literals _ _ := List.nil_sublist _

theorem text (s : String) : Quotes strategy [.text s] [] := ofFenced (fenced_text s)

theorem needs (style : PagingStyle) : Quotes strategy [.needs style] [] :=
  ofFenced (fenced_needs style)

theorem literal (s : String) : Quotes strategy [.text (Text.quote s)] [s] where
  fenced := List.forall_mem_singleton.2 (fenced_text _)
  literals _ n := by
    rw [piecesOfAll, pieces_text, Text.pieces, if_neg (Text.quote_ne_empty s)]
    exact .refl _

theorem fail (e : RenderError) : Quotes strategy [.fail e] ss where
  fenced := List.forall_mem_singleton.2 (fenced_fail e)
  literals h := by simp at h

theorem value (column : Option Column) (v : Value) : Quotes strategy [.value column v] [] :=
  ofFenced (fenced_parameter column (.value v))

theorem values (column : Option Column) (vs : List Value) :
    Quotes strategy (vs.map (.value column)) [] where
  fenced := List.forall_mem_map.2 fun v _ => fenced_parameter column (.value v)
  literals _ _ := List.nil_sublist _

/-- Phrases that are put together into one that writes at least the pieces of its parts. -/
theorem collect (h : Quotes strategy ps ss) (hp : Fenced p)
    (hf : p.faults strategy = ps.flatMap (faults strategy))
    (hs : ∀ n, (piecesOfAll strategy n ps).flatten.Sublist (p.pieces strategy n)) :
    Quotes strategy [p] ss where
  fenced := List.forall_mem_singleton.2 hp
  literals hn n := by
    rw [List.flatMap_cons, List.flatMap_nil, List.append_nil, hf] at hn
    rw [piecesOfAll, piecesOfAll, List.flatten_singleton]
    exact (h.literals hn n).trans (hs n)

theorem join (h : Quotes strategy ps ss) (hf : Follows separator) (hl : Leads separator) :
    Quotes strategy [.join separator ps] ss :=
  h.collect (fenced_join hf hl h.fenced) (by simp) fun _ => by
    rw [pieces]; exact Text.flatten_sublist_joinedPieces _ _

theorem words (h : Quotes strategy ps ss) : Quotes strategy [.words ps] ss :=
  h.join (by decide) (by decide)

theorem commas (h : Quotes strategy ps ss) : Quotes strategy [.join ", " ps] ss :=
  h.join (by decide) (by decide)

theorem concat (h : Quotes strategy ps ss) (hp : Fenced (.concat ps)) :
    Quotes strategy [.concat ps] ss :=
  h.collect hp (by simp) fun _ => by
    rw [Phrase.concat, pieces]; exact Text.flatten_sublist_joinedPieces _ _

theorem fenced_singleton (h : Quotes strategy [p] ss) : Fenced p :=
  List.forall_mem_singleton.1 h.fenced

theorem after (h : Quotes strategy [p] ss) (hs : Leads s) : Quotes strategy [.after s p] ss :=
  ((text s).cons h).concat (fenced_after hs h.fenced_singleton)

theorem between (h : Quotes strategy [p] ss) (hs : Leads s) (ht : Follows t) :
    Quotes strategy [.between s p t] ss := by
  have hc := (((text s).cons h).append (text t)).concat (fenced_between hs h.fenced_singleton ht)
  rwa [List.append_nil] at hc

theorem map {q : Option Phrase} {g : Phrase → Phrase} (h : Quotes strategy q.toList ss)
    (hg : ∀ p, Quotes strategy [p] ss → Quotes strategy [g p] ss) :
    Quotes strategy (q.map g).toList ss := by
  cases q with
  | none => exact h
  | some p => exact hg p h

theorem optional {α : Type} {g : α → List Phrase} (h : ∀ a, Quotes strategy (g a) [])
    (part : Option α) : Quotes strategy ((part.map g).getD []) [] := by
  cases part with
  | none => exact nil
  | some a => exact h a

theorem clause {q : Option Phrase} (h : Quotes strategy q.toList ss) (keyword : String) :
    Quotes strategy (Phrase.clause keyword q) ss :=
  h.map fun _ hp => hp.after (.append (by decide) _)

theorem listClause (h : Quotes strategy ps ss) (keyword : String) :
    Quotes strategy (Phrase.listClause keyword ps) ss := by
  rw [Phrase.listClause]
  split
  next he => rwa [List.isEmpty_iff.1 he] at h
  next => exact h.commas.after (.append (by decide) _)

end Quotes

end Phrase

end SqlStatement
