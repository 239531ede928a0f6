import SqlStatement.Proofs.Statement.Bindings

/-! # One statement under two strategies

A strategy has no say beyond its placeholders and its paging styles. Two strategies that support
the same styles fail alike, and else bind the same parameters and fill the holes of one line.
-/

namespace SqlStatement

namespace RenderError

/-- The error without the name of the strategy. -/
def anonymous : RenderError → RenderError
  | unsupportedPaging _ style => unsupportedPaging "" style
  | e => e

end RenderError

namespace Binding

/-- Neither the converter of the column nor the supplier of the value remembers anything. -/
structure Stateless (b : Binding) : Prop where
  converter : ∀ c ∈ b.column, ∀ k ∈ c.converter, k.Stateless
  supplier : ∀ s, b.datum = .supplied s → s.Stateless

theorem Stateless.exists_fetch {b : Binding} (h : b.Stateless) : ∃ v, b.datum.fetch = pure v := by
  cases hd : b.datum with
  | value v => exact ⟨v, rfl⟩
  | supplied s =>
    obtain ⟨v, hv⟩ := h.supplier s hd
    exact ⟨v, hv⟩

theorem Stateless.exists_convert {b : Binding} (h : b.Stateless) {c : Column} (hc : c ∈ b.column)
    (v : Value) : ∃ w, c.convert v = pure w := by
  unfold Column.convert
  cases hk : c.converter with
  | none => exact ⟨v, rfl⟩
  | some k =>
    obtain ⟨f, hf⟩ := h.converter c hc k hk
    exact ⟨f v, hf v⟩

theorem Stateless.exists_bound {b : Binding} (h : b.Stateless) : ∃ v, b.bound = pure v := by
  obtain ⟨v, hv⟩ := h.exists_fetch
  rw [bound, hv, pure_bind]
  cases hc : b.column with
  | none => exact ⟨v, rfl⟩
  | some c => exact h.exists_convert hc v

theorem log_of_stateless {bs : List Binding} (h : ∀ b ∈ bs, b.Stateless) (n : UInt32)
    (m m' : Memory) : log n bs m = log n bs m' := by
  induction bs generalizing n m m' with
  | nil => rfl
  | cons b bs ih =>
    rw [List.forall_mem_cons] at h
    obtain ⟨v, hv⟩ := h.1.exists_bound
    rw [log, log, hv, ih h.2]
    rfl

end Binding

variable {S T : Strategy}

namespace Strategy.Visible

theorem springNamed (paging : PagingSupport) : (Strategy.springNamed paging).Visible where
  parameter _ _ _ := by simp [Strategy.springNamed]
  record _ _ := by simp [Strategy.springNamed]
  indexedRecord _ _ _ := by simp [Strategy.springNamed]

theorem positional (paging : PagingSupport) : (Strategy.positional paging).Visible where
  parameter _ _ _ := by simp [Strategy.positional]
  record _ _ := by simp [Strategy.positional]
  indexedRecord _ _ _ := by simp [Strategy.positional]

theorem myBatis3 (path : String) (paging : PagingSupport) :
    (Strategy.myBatis3 path paging).Visible where
  parameter _ _ _ := by simp [Strategy.myBatis3, Strategy.typedPlaceholder]
  record _ _ := by simp [Strategy.myBatis3, Strategy.typedPlaceholder]
  indexedRecord _ _ _ := by simp [Strategy.myBatis3, Strategy.typedPlaceholder]

end Strategy.Visible

namespace Phrase

theorem faults_anonymous (hp : ∀ style, S.supports style = T.supports style) (p : Phrase) :
    (p.faults S).map RenderError.anonymous = (p.faults T).map RenderError.anonymous := by
  induction p using parts_induction with
  | text | parameter | property | fail => rfl
  | needs style =>
    rw [faults, faults, hp]
    split <;> rfl
  | join separator parts ih =>
    simp only [faults, faultsOfAll_eq, List.map_flatMap]
    exact List.flatMap_congr ih

end Phrase

namespace Model

variable {ρ : Type} {m : Model ρ} {p : Phrase} {s t : Session} {f g : Fragment}

theorem finished_toList (hs : p.Written S { s with next := 1 } f)
    (ht : p.Written T { t with next := 1 } g) (hc : ∀ b ∈ p.bindings, b.Stateless) :
    (m.finished f).parameters.toList = (m.finished g).parameters.toList := by
  rw [finished, finished]
  split
  next => rfl
  next =>
    refine hs.entries.trans (Eq.trans ?_ ht.entries.symm)
    exact congrArg (Parameters.puts []) (Binding.log_of_stateless hc 1 _ _)

/-- What two strategies make of one statement: they fail for one reason, or there is nothing to
write, or the parameters are the same and the texts fill one list of segments. -/
inductive Alike (S T : Strategy) :
    Except RenderError (Option Statement) → Except RenderError (Option Statement) → Prop
  | failed {e e' : RenderError} (h : e.anonymous = e'.anonymous) : Alike S T (.error e) (.error e')
  | absent : Alike S T (.ok none) (.ok none)
  | written {st st' : Statement} (parameters : st.parameters.toList = st'.parameters.toList)
      (segments : List Segment) (left : st.sql = .join (segments.map (Segment.filled S)))
      (right : st'.sql = .join (segments.map (Segment.filled T))) :
      Alike S T (.ok (some st)) (.ok (some st'))

/-- Strategies without empty placeholders and with the same paging styles treat every statement
alike, from any two sessions, as long as the callbacks remember nothing. -/
theorem alike_of_visible (m : Model ρ) (hS : S.Visible) (hT : T.Visible)
    (hp : ∀ style, S.supports style = T.supports style) (hc : ∀ b ∈ m.bindings, b.Stateless)
    (s t : Session) : Alike S T ((m.render S).outcome s).1 ((m.render T).outcome t).1 := by
  cases hm : m.phrase? with
  | none =>
    rw [outcome_render_of_absent hm, outcome_render_of_absent hm]
    exact .absent
  | some p =>
    have hfaults := p.faults_anonymous hp
    rw [outcome_render hm, outcome_render hm]
    rcases p.outcome_render S { s with next := 1 } with ⟨hf, f, hs, hw⟩ | ⟨e, u, he, hs⟩
    · have hf' : p.faults T = [] := by
        rw [hf] at hfaults
        exact List.map_eq_nil_iff.1 hfaults.symm
      obtain ⟨g, ht, hw'⟩ := Phrase.render_of_faultless hf' { t with next := 1 }
      rw [hs, ht]
      refine .written (finished_toList hw hw' ?_) (p.line.segments 1) ?_ ?_
      · rwa [binds_of_written hm hf]
      · exact hw.text.trans (p.wording_eq_filled hS 1)
      · exact hw'.text.trans (p.wording_eq_filled hT 1)
    · have hh : some e.anonymous = (p.faults T).head?.map RenderError.anonymous := by
        rw [← List.head?_map, ← hfaults, List.head?_map, he, Option.map_some]
      rcases p.outcome_render T { t with next := 1 } with ⟨hf', -⟩ | ⟨e', u', he', ht⟩
      · simp [hf'] at hh
      · rw [hs, ht]
        rw [he'] at hh
        exact .failed (Option.some.inj hh)

theorem alike_limitedDelete :
    let parameters : Parameters := .ofList [("p1", .text "x"), ("p2", .unsigned 3)]
    Alike .springNamed .positional
      (.ok (some ⟨"delete from users where id = :p1 limit :p2", parameters⟩))
      (.ok (some ⟨"delete from users where id = ? limit ?", parameters⟩)) := by
  have hc : ∀ b ∈ (limitedDelete (some (.ofFunction "coding" fun _ => .text "x"))).bindings,
      b.Stateless := by
    refine List.forall_mem_cons.2 ⟨⟨?_, ?_⟩, List.forall_mem_singleton.2 ⟨?_, ?_⟩⟩
    · rintro c ⟨⟩ k ⟨⟩
      exact Converter.stateless_ofFunction _ _
    · rintro s ⟨⟩
    · rintro c ⟨⟩
    · rintro s ⟨⟩
  exact alike_of_visible _ (.springNamed .all) (.positional .all) (fun _ => rfl) hc {} {}

end Model

end SqlStatement
