import SqlStatement.Proofs.Query.Faults

/-! # Agreement

Two things agree if they are the same unless both are at fault. What is put together from things
that agree agrees again, as long as it takes the faults of its parts with it.
-/

namespace SqlStatement

section

variable {α β γ : Type}

/-- The same, unless both are at fault. -/
def Agree (F : α → List RenderError) (x y : α) : Prop := F x = [] ∨ F y = [] → x = y

namespace Agree

variable {F : α → List RenderError} {G : β → List RenderError} {H : γ → List RenderError}

theorem refl (x : α) : Agree F x x := fun _ => rfl

theorem symm {x y : α} (h : Agree F x y) : Agree F y x := fun hf => (h hf.symm).symm

theorem trans {x y z : α} (h : Agree F x y) (h' : Agree F y z) : Agree F x z := by
  rintro (hx | hz)
  · have hxy : x = y := h (.inl hx)
    exact hxy.trans (h' (.inl (hxy ▸ hx)))
  · have hyz : y = z := h' (.inr hz)
    exact (h (.inr (hyz ▸ hz))).trans hyz

theorem of_faults {x y : α} (hx : F x ≠ []) (hy : F y ≠ []) : Agree F x y :=
  fun h => (h.elim hx hy).elim

theorem map (g : α → β) (hg : ∀ x, G (g x) = [] → F x = []) {x y : α} (h : Agree F x y) :
    Agree G (g x) (g y) := fun hf => congrArg g (h (hf.imp (hg x) (hg y)))

theorem map₂ (g : α → β → γ) (hg : ∀ x z, H (g x z) = [] → F x = [] ∧ G z = []) {x y : α} {z w : β}
    (hx : Agree F x y) (hz : Agree G z w) : Agree H (g x z) (g y w) := by
  intro hf
  have hxy : x = y := hx (hf.imp (fun h => (hg x z h).1) (fun h => (hg y w h).1))
  have hzw : z = w := hz (hf.imp (fun h => (hg x z h).2) (fun h => (hg y w h).2))
  rw [hxy, hzw]

end Agree

end

namespace Phrase

def faultsOfOption (strategy : Strategy) (p : Option Phrase) : List RenderError :=
  p.toList.flatMap (faults strategy)

end Phrase

namespace Agree

variable {S : Strategy} {p q r : Phrase} {ps qs rs ts : List Phrase} {o o' : Option Phrase}
  {parts parts' : Chain}

open Phrase (faults faultsOfAll faultsOfOption)

theorem append (h : Agree (faultsOfAll S) ps qs) (h' : Agree (faultsOfAll S) rs ts) :
    Agree (faultsOfAll S) (ps ++ rs) (qs ++ ts) := by
  refine h.map₂ (· ++ ·) (fun ps rs hf => ?_) h'
  simpa using hf

theorem cons (h : Agree (faults S) p q) (h' : Agree (faultsOfAll S) ps qs) :
    Agree (faultsOfAll S) (p :: ps) (q :: qs) := by
  refine h.map₂ (· :: ·) (fun p ps hf => ?_) h'
  simpa using hf

theorem singleton (h : Agree (faults S) p q) : Agree (faultsOfAll S) [p] [q] := h.cons (.refl [])

theorem join (h : Agree (faultsOfAll S) ps qs) (separator : String) :
    Agree (faults S) (.join separator ps) (.join separator qs) := by
  refine h.map (Phrase.join separator) fun ps hf => ?_
  simpa using hf

theorem between (h : Agree (faults S) p q) (s t : String) :
    Agree (faults S) (.between s p t) (.between s q t) := by
  refine h.map (Phrase.between s · t) fun p hf => ?_
  simpa using hf

theorem after (h : Agree (faults S) p q) (s : String) :
    Agree (faults S) (.after s p) (.after s q) := by
  refine h.map (Phrase.after s) fun p hf => ?_
  simpa using hf

theorem selected (h : Agree (faults S) p q) (label : Option String) :
    Agree (faults S) (Expr.selected p label) (Expr.selected q label) := by
  refine h.map (Expr.selected · label) fun p hf => ?_
  simpa using hf

theorem guarded (fault : Option RenderError) (h : Agree (faultsOfAll S) ps qs) :
    Agree (faults S) (QueryBlock.guarded fault ps) (QueryBlock.guarded fault qs) := by
  refine h.map (QueryBlock.guarded fault) fun ps hf => ?_
  cases fault with
  | none => simpa using hf
  | some e => simp at hf

theorem some (h : Agree (faults S) p q) : Agree (faultsOfOption S) (some p) (some q) := by
  refine h.map Option.some fun p hf => ?_
  simpa [faultsOfOption] using hf

theorem of_some (h : Agree (faultsOfOption S) (.some p) (.some q)) : Agree (faults S) p q := by
  intro hf
  exact Option.some.inj (h (by simpa [faultsOfOption] using hf))

theorem toList (h : Agree (faultsOfOption S) o o') : Agree (faultsOfAll S) o.toList o'.toList := by
  refine h.map Option.toList fun o hf => ?_
  rwa [Phrase.faultsOfAll_eq] at hf

theorem eq_none_iff (h : Agree (faultsOfOption S) o o') : o = none ↔ o' = none := by
  constructor
  · rintro rfl
    exact (h (.inl rfl)).symm
  · rintro rfl
    exact h (.inr rfl)

theorem map_between (h : Agree (faultsOfOption S) o o') (s t : String) :
    Agree (faultsOfOption S) (o.map (.between s · t)) (o'.map (.between s · t)) := by
  refine h.map (Option.map (Phrase.between s · t)) fun o hf => ?_
  cases o with
  | none => rfl
  | some p => simpa [faultsOfOption] using hf

theorem map_after (h : Agree (faultsOfOption S) o o') (s : String) :
    Agree (faultsOfOption S) (o.map (.after s)) (o'.map (.after s)) := by
  refine h.map (Option.map (Phrase.after s)) fun o hf => ?_
  cases o with
  | none => rfl
  | some p => simpa [faultsOfOption] using hf

theorem clause (keyword : String) (h : Agree (faultsOfOption S) o o') :
    Agree (faultsOfAll S) (Phrase.clause keyword o) (Phrase.clause keyword o') := by
  refine h.map (Phrase.clause keyword) fun o hf => ?_
  simpa [faultsOfOption] using hf

theorem listClause (keyword : String) (h : Agree (faultsOfAll S) ps qs) :
    Agree (faultsOfAll S) (Phrase.listClause keyword ps) (Phrase.listClause keyword qs) := by
  refine h.map (Phrase.listClause keyword) fun ps hf => ?_
  rw [Phrase.faultsOfAll_eq, Phrase.faults_listClause] at hf
  rwa [Phrase.faultsOfAll_eq]

theorem caseBranch (ht : Agree (faultsOfOption S) o o') (hr : Agree (faults S) p q) :
    Agree (faultsOfAll S) (Phrase.caseBranch o p) (Phrase.caseBranch o' q) := by
  cases o with
  | none =>
    rw [ht.eq_none_iff.1 rfl]
    exact .refl _
  | some t =>
    cases o' with
    | none => exact absurd (ht.eq_none_iff.2 rfl) (Option.some_ne_none t)
    | some t' => exact (ht.of_some.after "when ").cons (hr.after "then ").singleton

theorem comparison? (hp : Agree (faults S) p q) (ignoresCase : Bool)
    (hr : Agree (faultsOfOption S) o o') :
    Agree (faultsOfOption S) (Phrase.comparison? p ignoresCase o)
      (Phrase.comparison? q ignoresCase o') := by
  cases o with
  | none =>
    rw [hr.eq_none_iff.1 rfl]
    exact .refl _
  | some r =>
    cases o' with
    | none => exact absurd (hr.eq_none_iff.2 rfl) (Option.some_ne_none r)
    | some r' =>
      refine hp.map₂ (fun p r => Phrase.comparison? p ignoresCase (.some r)) (fun p r hf => ?_)
        hr.of_some
      cases ignoresCase <;> simpa [faultsOfOption] using hf

/-- A case expression takes on the faults of what it holds, and has one of its own if it holds no
branch. -/
theorem caseWords (hp : Agree (faults S) p q) (hb : Agree (faultsOfAll S) ps qs)
    (ho : Agree (faultsOfAll S) rs ts) :
    Agree (faults S) (.caseWords p ps rs) (.caseWords q qs ts) := by
  intro hf
  have hw {p : Phrase} {ps rs : List Phrase} (h : (Phrase.caseWords p ps rs).faults S = []) :
      p.faults S = [] ∧ faultsOfAll S ps = [] ∧ faultsOfAll S rs = [] := by
    rw [Phrase.faults_caseWords] at h
    split at h
    next => simp at h
    next => simpa using h
  have hpq : p = q := hp (hf.imp (fun h => (hw h).1) (fun h => (hw h).1))
  have hps : ps = qs := hb (hf.imp (fun h => (hw h).2.1) (fun h => (hw h).2.1))
  have hrs : rs = ts := ho (hf.imp (fun h => (hw h).2.2) (fun h => (hw h).2.2))
  rw [hpq, hps, hrs]

/-- Without a branch a case expression cannot be written, whether it is begun or not. -/
theorem emptyCase (isEmpty : Bool) (h : isEmpty = true → ps = []) (p : Phrase)
    (rs : List Phrase) :
    Agree (faults S) (if isEmpty then .fail .emptyCase else .caseWords p ps rs)
      (.caseWords p ps rs) := by
  cases isEmpty with
  | false => exact .refl _
  | true =>
    rw [h rfl]
    exact .of_faults (by simp) (by simp)

theorem chain_append {rest rest' : Chain} (h : Agree (Chain.faults S) parts parts')
    (h' : Agree (Chain.faults S) rest rest') :
    Agree (Chain.faults S) (parts ++ rest) (parts' ++ rest') := by
  refine h.map₂ (· ++ ·) (fun parts rest hf => ?_) h'
  simpa using hf

theorem operand (k : Option Connector) (h : Agree (faultsOfOption S) o o') :
    Agree (Chain.faults S) (o.map (k, ·)).toList (o'.map (k, ·)).toList := by
  refine h.map (fun o : Option Phrase => (o.map (k, ·)).toList) fun o hf => ?_
  simpa [faultsOfOption] using hf

theorem operand? (h : Agree (Chain.faults S) parts parts') :
    Agree (faultsOfOption S) parts.operand? parts'.operand? := by
  refine h.map Chain.operand? fun parts hf => ?_
  simpa [faultsOfOption] using hf

theorem phrase? (h : Agree (Chain.faults S) parts parts') :
    Agree (faultsOfOption S) parts.phrase? parts'.phrase? := by
  refine h.map Chain.phrase? fun parts hf => ?_
  simpa [faultsOfOption] using hf

end Agree

end SqlStatement
