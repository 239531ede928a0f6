import SqlStatement.Proofs.Parameters.Writes
import SqlStatement.Proofs.Phrase.Contents

/-! # Writing a phrase

A phrase without faults is written, whatever the session. Its text is its wording, its parameters
are the log of its bindings, and the session has moved on by these bindings. A phrase with faults
fails with the first of them.
-/

namespace SqlStatement

namespace Rendering

variable {α β : Type}

/-- What a rendering comes to, and the session that it leaves behind. -/
def outcome (x : Rendering α) (s : Session) : Except RenderError α × Session := (x.run).run s

@[simp] theorem outcome_pure (a : α) (s : Session) :
    (pure a : Rendering α).outcome s = (.ok a, s) := rfl

theorem outcome_bind (x : Rendering α) (f : α → Rendering β) (s : Session) :
    (x >>= f).outcome s = match x.outcome s with
      | (.ok a, t) => (f a).outcome t
      | (.error e, t) => (.error e, t) := by
  change StateT.run (ExceptT.bindCont f (x.outcome s).1) (x.outcome s).2 = _
  rcases x.outcome s with ⟨_ | _, _⟩ <;> rfl

theorem outcome_bind_of_ok {x : Rendering α} {s t : Session} {a : α} (f : α → Rendering β)
    (h : x.outcome s = (.ok a, t)) : (x >>= f).outcome s = (f a).outcome t := by
  rw [outcome_bind, h]

theorem outcome_bind_of_error {x : Rendering α} {s t : Session} {e : RenderError}
    (f : α → Rendering β) (h : x.outcome s = (.error e, t)) :
    (x >>= f).outcome s = (.error e, t) := by
  rw [outcome_bind, h]

theorem outcome_map (g : α → β) (x : Rendering α) (s : Session) :
    (g <$> x).outcome s = ((x.outcome s).1.map g, (x.outcome s).2) := by
  rw [← bind_pure_comp, outcome_bind]
  rcases x.outcome s with ⟨_ | _, _⟩ <;> rfl

end Rendering

open Rendering

namespace Phrase

@[simp] theorem joined_nil (separator : String) : joined separator [] = "" := by
  simp [joined]

@[simp] theorem joined_empty_cons (separator : String) (texts : List String) :
    joined separator ("" :: texts) = joined separator texts := by
  simp [joined]

@[simp] theorem joined_singleton (separator t : String) : joined separator [t] = t := by
  by_cases h : t = "" <;> simp [joined, h]

theorem joined_cons {separator t : String} {texts : List String} (h : t ≠ "") :
    joined separator (t :: texts) = if joined separator texts = "" then t
      else t ++ separator ++ joined separator texts := by
  have hf : (t :: texts).filter (· ≠ "") = t :: texts.filter (· ≠ "") := by simp [h]
  rw [joined, hf, joined]
  rcases hr : texts.filter (· ≠ "") with _ | ⟨u, us⟩
  · simp
  · have hu : u ≠ "" := by
      have hm : u ∈ texts.filter (· ≠ "") := by rw [hr]; exact List.mem_cons_self
      simpa using (List.mem_filter.1 hm).2
    have hne : separator.intercalate (u :: us) ≠ "" := by
      cases us <;> simp [hu, String.intercalate_cons_cons]
    rw [if_neg hne, String.intercalate_cons_cons]

theorem joined_cons_ne_empty {separator t : String} (h : t ≠ "") (texts : List String) :
    joined separator (t :: texts) ≠ "" := by
  rw [joined_cons h]
  split
  next => exact h
  next => simp [h]

theorem joined_empty (texts : List String) : joined "" texts = .join texts := by
  induction texts with
  | nil => rw [joined_nil, String.join_nil]
  | cons t texts ih =>
    rw [String.join_cons, ← ih]
    rcases eq_or_ne t "" with rfl | h
    · rw [joined_empty_cons, String.empty_append]
    · rw [joined_cons h]
      split
      next hr => rw [hr, String.append_empty]
      next => rw [String.append_empty]

theorem wordings_append (strategy : Strategy) (n : UInt32) (ps qs : List Phrase) :
    wordings strategy n (ps ++ qs) = wordings strategy n ps ++
      wordings strategy (n + .ofNat (ps.flatMap bindings).length) qs := by
  induction ps generalizing n with
  | nil => simp [wordings]
  | cons p ps ih =>
    rw [List.cons_append, wordings, wordings, ih, List.flatMap_cons, List.length_append,
      UInt32.ofNat_add, UInt32.add_assoc, List.cons_append]

theorem wording_concat (strategy : Strategy) (n : UInt32) (ps : List Phrase) :
    (concat ps).wording strategy n = .join (wordings strategy n ps) := by
  rw [concat, wording, joined_empty]

@[simp] theorem wording_concat_nil (strategy : Strategy) (n : UInt32) :
    (concat []).wording strategy n = "" := by
  rw [wording_concat, wordings, String.join_nil]

theorem wording_concat_cons (strategy : Strategy) (n : UInt32) (p : Phrase) (ps : List Phrase) :
    (concat (p :: ps)).wording strategy n =
      p.wording strategy n ++ (concat ps).wording strategy (n + .ofNat p.bindings.length) := by
  rw [wording_concat, wording_concat, wordings, String.join_cons]

@[simp] theorem wording_after (strategy : Strategy) (n : UInt32) (s : String) (p : Phrase) :
    (after s p).wording strategy n = s ++ p.wording strategy n := by
  simp [after, wording_concat, wordings, wording]

@[simp] theorem wording_between (strategy : Strategy) (n : UInt32) (s t : String) (p : Phrase) :
    (between s p t).wording strategy n = s ++ p.wording strategy n ++ t := by
  simp [between, wording_concat, wordings, wording, String.append_assoc]

theorem joined_append_cons {separator s t : String} {texts : List String} (h : t ≠ "") :
    joined separator ((s ++ t) :: texts) = s ++ joined separator (t :: texts) := by
  have hst : s ++ t ≠ "" := fun he => h (String.append_eq_empty_iff.1 he).2
  rw [joined_cons hst, joined_cons h]
  split
  next => rfl
  next => simp only [String.append_assoc]

theorem joined_joined (separator s t : String) (texts : List String) :
    joined separator (joined separator [s, t] :: texts) = joined separator (s :: t :: texts) := by
  by_cases hs : s = "" <;> by_cases ht : t = "" <;> simp [joined, hs, ht]

theorem joined_cons_congr {separator t : String} {texts texts' : List String}
    (h : joined separator texts = joined separator texts') :
    joined separator (t :: texts) = joined separator (t :: texts') := by
  rcases eq_or_ne t "" with rfl | ht
  · rwa [joined_empty_cons, joined_empty_cons]
  · rw [joined_cons ht, joined_cons ht, h]

theorem joined_append_joined_cons (separator : String) (before texts behind : List String) :
    joined separator (before ++ joined separator texts :: behind) =
      joined separator (before ++ (texts ++ behind)) := by
  induction before with
  | cons t before ih => exact joined_cons_congr ih
  | nil =>
    rw [List.nil_append, List.nil_append]
    induction texts with
    | nil => rw [joined_nil, joined_empty_cons, List.nil_append]
    | cons t texts ih =>
      have ht : joined separator (t :: texts) = joined separator [t, joined separator texts] :=
        joined_cons_congr (joined_singleton separator _).symm
      rw [ht, joined_joined, List.cons_append]
      exact joined_cons_congr ih

end Phrase

namespace Fragment

theorem text_joinStep (separator : String) (f g : Fragment) :
    (joinStep separator f g).text = Phrase.joined separator [f.text, g.text] := by
  by_cases hf : f.text = "" <;> by_cases hg : g.text = "" <;>
    simp [joinStep, Phrase.joined, hf, hg]

theorem text_foldl_joinStep (separator : String) (f : Fragment) (fs : List Fragment) :
    (fs.foldl (joinStep separator) f).text =
      Phrase.joined separator (f.text :: fs.map text) := by
  induction fs generalizing f with
  | nil => simp
  | cons g fs ih =>
    rw [List.foldl_cons, ih, text_joinStep, Phrase.joined_joined, List.map_cons]

/-- A join holds the texts that are not empty, separated. -/
theorem text_join (separator : String) (fs : List Fragment) :
    (join separator fs).text = Phrase.joined separator (fs.map text) :=
  (text_foldl_joinStep separator empty fs).trans (Phrase.joined_empty_cons separator _)

theorem parameters_foldl_joinStep (separator : String) (f : Fragment) (fs : List Fragment) :
    (fs.foldl (joinStep separator) f).parameters =
      (fs.map parameters).foldl Parameters.extend f.parameters := by
  induction fs generalizing f with
  | nil => rfl
  | cons g fs ih => rw [List.foldl_cons, ih]; rfl

theorem parameters_join (separator : String) (fs : List Fragment) :
    (join separator fs).parameters = (fs.map parameters).foldl Parameters.extend ∅ :=
  parameters_foldl_joinStep separator empty fs

end Fragment

namespace Phrase

variable {strategy : Strategy} {p : Phrase} {ps : List Phrase} {s : Session}

/-- The fragment that stands for the phrase, written from the session on. -/
structure Written (strategy : Strategy) (p : Phrase) (s : Session) (f : Fragment) : Prop where
  text : f.text = p.wording strategy s.next
  indexed : f.parameters.Indexed
  entries : f.parameters.toList = Parameters.puts [] (Binding.log s.next p.bindings s.memory)

inductive WrittenAll (strategy : Strategy) : List Phrase → Session → List Fragment → Prop
  | nil {s : Session} : WrittenAll strategy [] s []
  | cons {p : Phrase} {ps : List Phrase} {s : Session} {f : Fragment} {fs : List Fragment} :
      Written strategy p s f → WrittenAll strategy ps (s.after p.bindings) fs →
      WrittenAll strategy (p :: ps) s (f :: fs)

namespace WrittenAll

variable {fs : List Fragment}

theorem texts (h : WrittenAll strategy ps s fs) :
    fs.map Fragment.text = wordings strategy s.next ps := by
  induction h with
  | nil => rfl
  | cons hf _ ih => rw [List.map_cons, wordings, hf.text, ih]; rfl

theorem extend (h : WrittenAll strategy ps s fs) {q : Parameters} (hq : q.Indexed) :
    ((fs.map Fragment.parameters).foldl Parameters.extend q).Indexed ∧
      ((fs.map Fragment.parameters).foldl Parameters.extend q).toList =
        Parameters.puts q.toList (Binding.log s.next (ps.flatMap bindings) s.memory) := by
  induction h generalizing q with
  | nil => exact ⟨hq, rfl⟩
  | cons hf _ ih =>
    obtain ⟨hi, he⟩ := ih (hq.extend hf.indexed)
    refine ⟨hi, ?_⟩
    rw [hq.toList_extend_of_writes hf.indexed hf.entries, ← Parameters.puts_append] at he
    rw [List.flatMap_cons, Binding.log_append]
    exact he

theorem join (h : WrittenAll strategy ps s fs) (separator : String) :
    Written strategy (join separator ps) s (Fragment.join separator fs) := by
  obtain ⟨hi, he⟩ := h.extend Parameters.indexed_empty
  constructor
  · rw [Fragment.text_join, h.texts, wording]
  · rw [Fragment.parameters_join]; exact hi
  · rw [Fragment.parameters_join, bindings, bindingsOfAll_eq]; exact he

end WrittenAll

theorem outcome_fetch (d : Datum) (s : Session) :
    d.get.outcome s = (.ok (d.fetch s.memory).1, { s with memory := (d.fetch s.memory).2 }) := by
  cases d <;> rfl

/-- The value is fetched, the number taken and the value converted, in this order. -/
theorem render_parameter (column : Option Column) (d : Datum) (s : Session) :
    ∃ f, ((parameter column d).render strategy).outcome s = (.ok f, s.after [⟨column, d⟩]) ∧
      Written strategy (parameter column d) s f := by
  let b : Binding := ⟨column, d⟩
  refine ⟨⟨strategy.parameter column strategy.parameterPath (Binding.key s.next),
    .singleton (Binding.key s.next) (b.bound s.memory).1⟩, ?_, ?_⟩
  · rw [render, outcome_bind_of_ok _ (outcome_fetch d s)]
    cases column <;> rfl
  · exact ⟨by rw [wording], Parameters.indexed_singleton _ _, Parameters.toList_singleton _ _⟩

theorem render_of_text {t : String} (hr : p.render strategy = pure (.ofText t))
    (ht : p.wording strategy s.next = t) (hb : p.bindings = []) :
    ∃ f, (p.render strategy).outcome s = (.ok f, s.after p.bindings) ∧ Written strategy p s f := by
  refine ⟨.ofText t, by rw [hr, hb]; simp, ht.symm, Parameters.indexed_empty, ?_⟩
  rw [hb]
  rfl

theorem render_parts (ih : ∀ p ∈ ps, p.faults strategy = [] → ∀ s : Session,
      ∃ f, (p.render strategy).outcome s = (.ok f, s.after p.bindings) ∧ Written strategy p s f)
    (h : ps.flatMap (faults strategy) = []) (s : Session) :
    ∃ fs, (renderAll strategy ps).outcome s = (.ok fs, s.after (ps.flatMap bindings)) ∧
      WrittenAll strategy ps s fs := by
  induction ps generalizing s with
  | nil => exact ⟨[], by rw [renderAll]; simp, .nil⟩
  | cons p ps ihs =>
    rw [List.forall_mem_cons] at ih
    rw [List.flatMap_cons, List.append_eq_nil_iff] at h
    obtain ⟨f, hf, hw⟩ := ih.1 h.1 s
    obtain ⟨fs, hfs, hws⟩ := ihs ih.2 h.2 (s.after p.bindings)
    refine ⟨f :: fs, ?_, .cons hw hws⟩
    rw [renderAll, outcome_bind_of_ok _ hf, outcome_bind_of_ok _ hfs, List.flatMap_cons,
      Session.after_append]
    rfl

/-- A phrase without faults is written, from every session. -/
theorem render_of_faultless (h : p.faults strategy = []) (s : Session) :
    ∃ f, (p.render strategy).outcome s = (.ok f, s.after p.bindings) ∧ Written strategy p s f := by
  induction p using parts_induction generalizing s with
  | text t => exact render_of_text (by rw [render]) (by rw [wording]) (by simp)
  | parameter column d => exact render_parameter column d s
  | property column path name =>
    cases path with
    | none => exact render_of_text (by rw [render]) (by rw [wording]) (by simp)
    | some path => exact render_of_text (by rw [render]) (by rw [wording]) (by simp)
  | needs style =>
    have hs : strategy.supports style = true := by simpa using h
    refine render_of_text ?_ (by rw [wording]) (by simp)
    rw [render, requirePaging, if_pos hs]
    rfl
  | fail e => simp at h
  | join separator parts ih =>
    rw [faults, faultsOfAll_eq] at h
    obtain ⟨fs, hfs, hw⟩ := render_parts ih h s
    refine ⟨_, ?_, hw.join separator⟩
    rw [render, outcome_bind_of_ok _ hfs, bindings, bindingsOfAll_eq]
    rfl

theorem render_parts_of_fault {e : RenderError} {es : List RenderError}
    (ih : ∀ p ∈ ps, ∀ es, p.faults strategy = e :: es → ∀ s : Session,
      ∃ t, (p.render strategy).outcome s = (.error e, t))
    (h : ps.flatMap (faults strategy) = e :: es) (s : Session) :
    ∃ t, (renderAll strategy ps).outcome s = (.error e, t) := by
  induction ps generalizing s with
  | nil => simp at h
  | cons p ps ihs =>
    rw [List.forall_mem_cons] at ih
    rw [List.flatMap_cons, List.append_eq_cons_iff] at h
    rw [renderAll]
    rcases h with ⟨hp, hps⟩ | ⟨fs, hp, -⟩
    · obtain ⟨f, hf, -⟩ := render_of_faultless hp s
      obtain ⟨t, ht⟩ := ihs ih.2 hps (s.after p.bindings)
      exact ⟨t, by rw [outcome_bind_of_ok _ hf, outcome_bind_of_error _ ht]⟩
    · obtain ⟨t, ht⟩ := ih.1 fs hp s
      exact ⟨t, outcome_bind_of_error _ ht⟩

/-- A phrase with faults fails with the first of them, from every session. -/
theorem render_of_fault {e : RenderError} {es : List RenderError}
    (h : p.faults strategy = e :: es) (s : Session) :
    ∃ t, (p.render strategy).outcome s = (.error e, t) := by
  induction p using parts_induction generalizing es s with
  | text | parameter | property => simp at h
  | needs style =>
    rw [faults] at h
    split at h
    next => simp at h
    next hs =>
      obtain ⟨rfl, -⟩ := List.cons.inj h
      refine ⟨{ s with events := s.events ++ [.pagingRejected strategy.name style] }, ?_⟩
      rw [render, requirePaging, if_neg hs]
      rfl
  | fail f =>
    obtain ⟨rfl, -⟩ := List.cons.inj (by simpa using h)
    exact ⟨s, by rw [render]; rfl⟩
  | join separator parts ih =>
    rw [faults, faultsOfAll_eq] at h
    obtain ⟨t, ht⟩ := render_parts_of_fault (fun p hp es hes s => ih p hp hes s) h s
    exact ⟨t, by rw [render, outcome_bind_of_error _ ht]⟩

/-- What a phrase comes to: it is written if it has no faults, and else it fails. -/
theorem outcome_render (p : Phrase) (strategy : Strategy) (s : Session) :
    (p.faults strategy = [] ∧ ∃ f, (p.render strategy).outcome s = (.ok f, s.after p.bindings) ∧
      Written strategy p s f) ∨
    ∃ e t, (p.faults strategy).head? = some e ∧ (p.render strategy).outcome s = (.error e, t) := by
  cases h : p.faults strategy with
  | nil => exact .inl ⟨rfl, render_of_faultless h s⟩
  | cons e es =>
    obtain ⟨t, ht⟩ := render_of_fault h s
    exact .inr ⟨e, t, rfl, ht⟩

theorem written_of_outcome {t : Session} {f : Fragment}
    (h : (p.render strategy).outcome s = (.ok f, t)) :
    p.faults strategy = [] ∧ t = s.after p.bindings ∧ Written strategy p s f := by
  rcases p.outcome_render strategy s with ⟨hf, g, hg, hw⟩ | ⟨e, u, -, hu⟩
  · obtain ⟨rfl, rfl⟩ : g = f ∧ s.after p.bindings = t := by simpa [hg] using h
    exact ⟨hf, rfl, hw⟩
  · cases hu.symm.trans h

end Phrase

end SqlStatement
