import Mathlib.Data.List.Basic
import SqlStatement.Proofs.Phrase.Writing

/-! # The line of a phrase

The texts and holes of a phrase, one behind the other, without a strategy. A strategy none of whose
placeholders is empty fills the holes and has no say in what stands between them.
-/

namespace SqlStatement

namespace Strategy

/-- No placeholder is empty. -/
structure Visible (strategy : Strategy) : Prop where
  parameter : ∀ column path key, strategy.parameter column path key ≠ ""
  record : ∀ column name, strategy.record column name ≠ ""
  indexedRecord : ∀ column path name, strategy.indexedRecord column path name ≠ ""

end Strategy

inductive Piece where
  | text (s : String)
  | parameter (b : Binding)
  | property (column : Column) (path : Option String) (name : String)

/-- A piece of a statement whose parameters have their keys. -/
inductive Segment where
  | literal (s : String)
  | parameter (column : Option Column) (key : String)
  | record (column : Column) (path : Option String) (property : String)

namespace Segment

def filled (strategy : Strategy) : Segment → String
  | literal s => s
  | parameter column key => strategy.parameter column strategy.parameterPath key
  | record column none property => strategy.record column property
  | record column (some path) property => strategy.indexedRecord column path property

end Segment

abbrev Line := List Piece

namespace Line

/-- The line of a text; an empty text leaves nothing. -/
def ofText (s : String) : Line := if s = "" then [] else [.text s]

def joined (separator : String) : List Line → Line
  | [] => []
  | l :: ls =>
    if l.isEmpty then joined separator ls
    else if (joined separator ls).isEmpty then l
    else l ++ ofText separator ++ joined separator ls

def bindings (l : Line) : List Binding :=
  l.filterMap fun
    | .parameter b => some b
    | _ => none

def segments (n : UInt32) : Line → List Segment
  | [] => []
  | .text s :: l => .literal s :: segments n l
  | .parameter b :: l => .parameter b.column (Binding.key n) :: segments (n + 1) l
  | .property column path name :: l => .record column path name :: segments n l

def filled (strategy : Strategy) (n : UInt32) (l : Line) : String :=
  .join ((segments n l).map (Segment.filled strategy))

def Full (l : Line) : Prop := ∀ s, Piece.text s ∈ l → s ≠ ""

section

variable {strategy : Strategy} {n : UInt32} {separator s : String} {l l' : Line} {ls : List Line}

@[simp] theorem joined_nil (separator : String) : joined separator [] = [] := rfl

@[simp] theorem joined_nil_cons (separator : String) (ls : List Line) :
    joined separator ([] :: ls) = joined separator ls := rfl

theorem joined_cons (h : l ≠ []) : joined separator (l :: ls) =
    if joined separator ls = [] then l else l ++ ofText separator ++ joined separator ls := by
  simp [joined, h]

@[simp] theorem bindings_append (l l' : Line) : bindings (l ++ l') = l.bindings ++ l'.bindings := by
  simp [bindings]

@[simp] theorem bindings_ofText (s : String) : (ofText s).bindings = [] := by
  rw [ofText]
  split <;> rfl

@[simp] theorem bindings_joined (separator : String) (ls : List Line) :
    (joined separator ls).bindings = ls.flatMap bindings := by
  induction ls with
  | nil => rw [joined_nil]; rfl
  | cons l ls ih =>
    rcases eq_or_ne l [] with rfl | hl
    · rw [joined_nil_cons, ih]; rfl
    · rw [joined_cons hl, List.flatMap_cons, ← ih]
      split
      next h => rw [h]; exact (List.append_nil _).symm
      next => simp

theorem full_ofText (s : String) : (ofText s).Full := by
  intro t h
  rw [ofText] at h
  split at h <;> simp_all

theorem Full.append (h : l.Full) (h' : l'.Full) : Full (l ++ l') := fun s hm =>
  (List.mem_append.1 hm).elim (h s) (h' s)

theorem full_joined (h : ∀ l ∈ ls, Full l) : (joined separator ls).Full := by
  induction ls with
  | nil => rw [joined_nil]; exact fun _ hm => (List.not_mem_nil hm).elim
  | cons l ls ih =>
    rw [List.forall_mem_cons] at h
    rcases eq_or_ne l [] with rfl | hl
    · rw [joined_nil_cons]; exact ih h.2
    · rw [joined_cons hl]
      split
      next => exact h.1
      next => exact (h.1.append (full_ofText _)).append (ih h.2)

@[simp] theorem filled_nil (strategy : Strategy) (n : UInt32) : filled strategy n [] = "" := by
  simp [filled, segments]

theorem segments_append (n : UInt32) (l l' : Line) :
    segments n (l ++ l') = segments n l ++ segments (n + .ofNat l.bindings.length) l' := by
  induction l generalizing n with
  | nil => simp [segments, bindings]
  | cons p l ih =>
    cases p with
    | text | property => rw [List.cons_append, segments, segments, ih]; rfl
    | parameter b =>
      rw [List.cons_append, segments, segments, ih, ← Binding.add_ofNat_succ]
      rfl

theorem filled_append (n : UInt32) (l l' : Line) :
    filled strategy n (l ++ l') =
      filled strategy n l ++ filled strategy (n + .ofNat l.bindings.length) l' := by
  rw [filled, segments_append, List.map_append, String.join_append]
  rfl

@[simp] theorem filled_ofText (s : String) : filled strategy n (ofText s) = s := by
  rw [ofText]
  split
  next h => rw [filled_nil, h]
  next => simp [filled, segments, Segment.filled]

theorem filled_parameter (b : Binding) : filled strategy n [.parameter b] =
    strategy.parameter b.column strategy.parameterPath (Binding.key n) := by
  simp [filled, segments, Segment.filled]

theorem filled_record (column : Column) (name : String) :
    filled strategy n [.property column none name] = strategy.record column name := by
  simp [filled, segments, Segment.filled]

theorem filled_indexedRecord (column : Column) (path name : String) :
    filled strategy n [.property column (some path) name] =
      strategy.indexedRecord column path name := by
  simp [filled, segments, Segment.filled]

/-- A line that holds anything has some text, whatever the strategy puts into its holes. -/
theorem filled_eq_empty_iff (hv : strategy.Visible) (hl : l.Full) :
    filled strategy n l = "" ↔ l = [] := by
  refine ⟨fun h => ?_, fun h => h ▸ filled_nil ..⟩
  cases l with
  | nil => rfl
  | cons p l =>
    rw [← List.singleton_append, filled_append, String.append_eq_empty_iff] at h
    cases p with
    | text s => exact (hl s (by simp) (by simpa [filled, segments, Segment.filled] using h.1)).elim
    | parameter b => exact (hv.parameter _ _ _ (filled_parameter b ▸ h.1)).elim
    | property column path name =>
      cases path with
      | none => exact (hv.record _ _ (filled_record column name ▸ h.1)).elim
      | some path =>
        exact (hv.indexedRecord _ _ _ (filled_indexedRecord column path name ▸ h.1)).elim

end

end Line

namespace Phrase

mutual

/-- The line of the phrase. -/
def line : Phrase → Line
  | text s => .ofText s
  | parameter column datum => [.parameter ⟨column, datum⟩]
  | property column path name => [.property column path name]
  | needs _ | fail _ => []
  | join separator parts => .joined separator (lines parts)

def lines : List Phrase → List Line
  | [] => []
  | p :: ps => p.line :: lines ps

end

@[simp] theorem lines_eq (ps : List Phrase) : lines ps = ps.map line := by
  induction ps with
  | nil => rfl
  | cons p ps ih => rw [lines, ih, List.map_cons]

@[simp] theorem bindings_line (p : Phrase) : p.line.bindings = p.bindings := by
  induction p using parts_induction with
  | text s => simp [line]
  | parameter | property | needs | fail => simp [line, Line.bindings]
  | join separator parts ih =>
    rw [line, lines_eq, Line.bindings_joined, bindings, bindingsOfAll_eq, List.flatMap_map]
    exact List.flatMap_congr fun p hp => ih p hp

theorem full_line (p : Phrase) : p.line.Full := by
  induction p using parts_induction with
  | text s => exact Line.full_ofText s
  | parameter | property | needs | fail => simp [line, Line.Full]
  | join separator parts ih =>
    rw [line, lines_eq]
    exact Line.full_joined (List.forall_mem_map.2 ih)

theorem joined_wordings {strategy : Strategy} (hv : strategy.Visible) (separator : String)
    {ps : List Phrase} (ih : ∀ p ∈ ps, ∀ n, p.wording strategy n = p.line.filled strategy n)
    (n : UInt32) :
    joined separator (wordings strategy n ps) =
      (Line.joined separator (ps.map line)).filled strategy n := by
  induction ps generalizing n with
  | nil => simp [wordings]
  | cons p ps ihs =>
    rw [List.forall_mem_cons] at ih
    rw [wordings, List.map_cons, ih.1 n]
    rcases eq_or_ne p.line [] with hl | hl
    · have hb : p.bindings = [] := by rw [← bindings_line, hl]; rfl
      rw [hl, hb, Line.filled_nil, joined_empty_cons, Line.joined_nil_cons, ihs ih.2]
      simp
    · have hp : p.line.filled strategy n ≠ "" := fun h =>
        hl ((Line.filled_eq_empty_iff hv (full_line p)).1 h)
      have hps : (Line.joined separator (ps.map line)).Full :=
        Line.full_joined (List.forall_mem_map.2 fun p _ => full_line p)
      rw [joined_cons hp, Line.joined_cons hl, ihs ih.2]
      simp only [Line.filled_eq_empty_iff hv hps]
      split
      next => rfl
      next => simp [Line.filled_append, String.append_assoc]

/-- The wording of a strategy none of whose placeholders is empty fills the line. -/
theorem wording_eq_filled {strategy : Strategy} (hv : strategy.Visible) (p : Phrase) (n : UInt32) :
    p.wording strategy n = p.line.filled strategy n := by
  induction p using parts_induction generalizing n with
  | text s => rw [wording, line, Line.filled_ofText]
  | parameter column datum => simp [wording, line, Line.filled, Line.segments, Segment.filled]
  | property column path name =>
    cases path <;> simp [wording, line, Line.filled, Line.segments, Segment.filled]
  | needs style => simp [wording, line]
  | fail e => simp [wording, line]
  | join separator parts ih =>
    rw [wording, line, lines_eq]
    exact joined_wordings hv separator ih n

end Phrase

end SqlStatement
