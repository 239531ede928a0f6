import SqlStatement.Proofs.Phrase.Writing
import SqlStatement.Query.Phrase

/-! # Changes to a condition

A condition may be changed any number of times before it is written. However maps, filters and
drops are mixed, they come to one step: each value is put through all maps at once, and stays if
every filter holds of it as the maps before that filter have left it. A list that has lost all its
values is dropped if a filter was asked, so that an empty list stays what it is under maps alone.
-/

namespace SqlStatement

namespace Condition

inductive Change where
  | map (f : Value → Value)
  | filter (keep : Value → Bool)
  | when (render : Bool)

namespace Change

def apply : Change → Condition → Condition
  | map f, c => c.map f
  | filter keep, c => c.filter keep
  | when render, c => c.when render

def value : Change → Value → Value
  | map f, v => f v
  | filter _, v => v
  | when _, v => v

def isFilter : Change → Bool
  | filter _ => true
  | _ => false

def isDrop : Change → Bool
  | when false => true
  | _ => false

def transform (changes : List Change) (v : Value) : Value := changes.foldl (fun v m => m.value v) v

/-- Every filter holds of the value as the maps before it have left it. -/
def Survives (changes : List Change) (v : Value) : Prop :=
  ∀ before keep after, changes = before ++ filter keep :: after → keep (transform before v) = true

theorem survives_nil (v : Value) : Survives [] v := by
  intro before keep after h
  simp at h

theorem survives_cons (m : Change) (changes : List Change) (v : Value) :
    Survives (m :: changes) v ↔
      (∀ keep, m = filter keep → keep v = true) ∧ Survives changes (m.value v) := by
  constructor
  · intro h
    refine ⟨fun keep hm => ?_, fun before keep after hc => ?_⟩
    · exact h [] keep changes (by rw [hm]; rfl)
    · exact h (m :: before) keep after (by rw [hc]; rfl)
  · rintro ⟨hm, hc⟩ (_ | ⟨n, before⟩) keep after h
    · exact hm keep (List.cons.inj h).1
    · obtain ⟨rfl, ht⟩ := List.cons.inj h
      exact hc before keep after ht

theorem survives_map_cons (f : Value → Value) (changes : List Change) (v : Value) :
    Survives (map f :: changes) v ↔ Survives changes (f v) := by
  simp [survives_cons, value]

theorem survives_filter_cons (keep : Value → Bool) (changes : List Change) (v : Value) :
    Survives (filter keep :: changes) v ↔ keep v = true ∧ Survives changes v := by
  simp [survives_cons, value]

theorem survives_when_cons (render : Bool) (changes : List Change) (v : Value) :
    Survives (when render :: changes) v ↔ Survives changes v := by
  simp [survives_cons, value]

instance decidableSurvives : (changes : List Change) → (v : Value) →
    Decidable (Survives changes v)
  | [], v => .isTrue (survives_nil v)
  | map f :: changes, v =>
    have := decidableSurvives changes (f v)
    decidable_of_iff _ (survives_map_cons f changes v).symm
  | filter keep :: changes, v =>
    have := decidableSurvives changes v
    decidable_of_iff _ (survives_filter_cons keep changes v).symm
  | when render :: changes, v =>
    have := decidableSurvives changes v
    decidable_of_iff _ (survives_when_cons render changes v).symm

def remaining (changes : List Change) (vs : List Value) : List Value :=
  (vs.filter (Survives changes ·)).map (transform changes)

section

variable {changes : List Change}

theorem remaining_nil (vs : List Value) : remaining [] vs = vs := by
  have hs : vs.filter (fun v => decide (Survives [] v)) = vs :=
    List.filter_eq_self.2 fun v _ => decide_eq_true (survives_nil v)
  rw [remaining, hs]
  exact List.map_id vs

theorem remaining_map_cons (f : Value → Value) (changes : List Change) (vs : List Value) :
    remaining (map f :: changes) vs = remaining changes (vs.map f) := by
  simp only [remaining, survives_map_cons, List.filter_map, List.map_map]
  rfl

theorem remaining_filter_cons (keep : Value → Bool) (changes : List Change) (vs : List Value) :
    remaining (filter keep :: changes) vs = remaining changes (vs.filter keep) := by
  simp only [remaining, survives_filter_cons, List.filter_filter, Bool.decide_and,
    Bool.decide_eq_true, Bool.and_comm]
  rfl

theorem remaining_when_cons (render : Bool) (changes : List Change) (vs : List Value) :
    remaining (when render :: changes) vs = remaining changes vs := by
  simp only [remaining, survives_when_cons]
  rfl

theorem remaining_of_unfiltered (h : changes.any isFilter = false) (vs : List Value) :
    remaining changes vs = vs.map (transform changes) := by
  have hs (v : Value) : Survives changes v := by
    rintro before keep after rfl
    simp [isFilter] at h
  rw [remaining, List.filter_eq_self.2 fun v _ => decide_eq_true (hs v)]

end

end Change

open Change (transform Survives remaining)

/-- The condition after all changes, in order. -/
def changed (c : Condition) (changes : List Change) : Condition :=
  changes.foldl (fun c m => m.apply c) c

/-- The condition after changes none of which drops it. A list without values is dropped only if a
filter was asked. -/
def settled (changes : List Change) : Condition → Condition
  | single operator v ignoresCase =>
    if Survives changes v then single operator (transform changes v) ignoresCase else empty
  | pair operator conjunction v w =>
    if Survives changes v ∧ Survives changes w then
      pair operator conjunction (transform changes v) (transform changes w)
    else empty
  | list operator vs ignoresCase =>
    if remaining changes vs = [] ∧ changes.any Change.isFilter then empty
    else list operator (remaining changes vs) ignoresCase
  | c => c

theorem changed_empty (changes : List Change) : empty.changed changes = empty := by
  induction changes with
  | nil => rfl
  | cons m changes ih =>
    have hm : m.apply empty = empty := by cases m <;> simp [Change.apply, map, filter, when]
    exact (congrArg (changed · changes) hm).trans ih

theorem changed_of_isDrop {changes : List Change} (h : changes.any Change.isDrop = true)
    (c : Condition) : c.changed changes = empty := by
  obtain ⟨m, hm, hd⟩ := List.any_eq_true.1 h
  obtain ⟨before, after, rfl⟩ := List.append_of_mem hm
  obtain rfl : m = .when false := by
    rcases m with _ | _ | _ | _ <;> simp_all [Change.isDrop]
  rw [changed, List.foldl_append]
  exact changed_empty after

theorem settled_nil (c : Condition) : c.settled [] = c := by
  cases c with
  | list operator vs ignoresCase => simp [settled, Change.remaining_nil]
  | _ => simp [settled, Change.survives_nil, transform]

theorem settled_map_cons (f : Value → Value) (changes : List Change) (c : Condition) :
    c.settled (.map f :: changes) = (c.map f).settled changes := by
  cases c with
  | list operator vs ignoresCase =>
    rw [settled, map, settled, Change.remaining_map_cons]
    rfl
  | _ => simp [settled, map, Change.survives_map_cons, transform, Change.value]

theorem settled_filter_cons (keep : Value → Bool) (changes : List Change) (c : Condition) :
    c.settled (.filter keep :: changes) = (c.filter keep).settled changes := by
  cases c with
  | list operator vs ignoresCase =>
    rw [settled, filter, Change.remaining_filter_cons]
    rcases vs.filter keep with _ | ⟨v, rest⟩
    · simp [settled, remaining, Change.isFilter]
    · cases hf : changes.any Change.isFilter with
      | true => simp [settled, Change.isFilter, hf]
      | false => simp [settled, Change.remaining_of_unfiltered hf, hf]
  | single operator v ignoresCase =>
    by_cases h : keep v <;>
      simp [settled, filter, Change.survives_filter_cons, h, transform, Change.value]
  | pair operator conjunction v w =>
    by_cases h : keep v <;> by_cases h' : keep w <;>
      simp [settled, filter, Change.survives_filter_cons, h, h', transform, Change.value]
  | _ => simp [settled, filter]

theorem settled_when_cons (changes : List Change) (c : Condition) :
    c.settled (.when true :: changes) = c.settled changes := by
  cases c with
  | list operator vs ignoresCase =>
    rw [settled, settled, Change.remaining_when_cons]
    rfl
  | _ => simp [settled, Change.survives_when_cons, transform, Change.value]

theorem changed_of_no_drop {changes : List Change} (h : changes.any Change.isDrop = false)
    (c : Condition) : c.changed changes = c.settled changes := by
  induction changes generalizing c with
  | nil => exact (settled_nil c).symm
  | cons m changes ih =>
    rw [List.any_cons, Bool.or_eq_false_iff] at h
    refine (ih h.2 (m.apply c)).trans ?_
    match m with
    | .map f => exact (settled_map_cons f changes c).symm
    | .filter keep => exact (settled_filter_cons keep changes c).symm
    | .when true => exact (settled_when_cons changes c).symm
    | .when false => simp [Change.isDrop] at h

theorem wording_changed_nil (changes : List Change) (operator : String) (ignoresCase : Bool)
    (σ : Scopes) (column : Option Column) (strategy : Strategy) (n : UInt32) :
    (((list operator [] ignoresCase).changed changes).right? σ column).map (·.wording strategy n) =
      if changes.any Change.isDrop || changes.any Change.isFilter then none
      else some (operator ++ " ()") := by
  have hw : (Phrase.between (operator ++ " (") (.join "," []) ")").wording strategy n =
      operator ++ " ()" := by
    simp [Phrase.wording, Phrase.wordings, String.append_assoc]
  cases hd : changes.any Change.isDrop with
  | true => simp [changed_of_isDrop hd, right?]
  | false =>
    rw [changed_of_no_drop hd, settled, Bool.false_or]
    cases changes.any Change.isFilter with
    | true => simp [remaining, right?]
    | false => simp [remaining, right?, hw]

/-- A drop empties every condition. Without one, values are put through all maps at once and stay if
they survive all filters; operators and the regard to case stay as they are. A list that was empty
from the start is written unless a filter was asked. -/
theorem changed_normal_form (changes : List Change) (c : Condition) :
    (c.changed changes = if changes.any Change.isDrop then empty else c.settled changes) ∧
    ∀ operator ignoresCase σ column strategy n,
      (((list operator [] ignoresCase).changed changes).right? σ column).map
          (·.wording strategy n) =
        if changes.any Change.isDrop || changes.any Change.isFilter then none
        else some (operator ++ " ()") := by
  refine ⟨?_, wording_changed_nil changes⟩
  cases h : changes.any Change.isDrop with
  | true => exact changed_of_isDrop h c
  | false => exact changed_of_no_drop h c

/-- A filter that every value passes is not the identity: it drops an empty list. -/
example : (list "in" [] false).changed [.filter fun _ => true] = empty := rfl

end Condition

end SqlStatement
