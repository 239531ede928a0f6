import SqlStatement.Phrase

/-! # What a phrase holds

The values that a phrase binds, the reasons why it cannot be written and the text that a strategy
makes of it. Each is read off the phrase, without numbering, memory or errors.
-/

namespace SqlStatement

/-- A value to bind, and the column that it is compared with. -/
structure Binding where
  column : Option Column
  datum : Datum

namespace Datum

def fetch : Datum → StateM Memory Value
  | value v => pure v
  | supplied s => s.supply

end Datum

namespace Binding

def bound (b : Binding) : StateM Memory Value := do
  let v ← b.datum.fetch
  match b.column with
  | some c => c.convert v
  | none => pure v

def key (n : UInt32) : String := "p" ++ toString n.toNat

/-- What is written into the parameters when values are bound one after the other. -/
def log : UInt32 → List Binding → Memory → List (String × Value)
  | _, [], _ => []
  | n, b :: bs, m => (key n, (b.bound m).1) :: log (n + 1) bs (b.bound m).2

def remembered : List Binding → Memory → Memory
  | [], m => m
  | b :: bs, m => remembered bs (b.bound m).2

theorem add_ofNat_succ (n : UInt32) (i : Nat) :
    n + .ofNat (i + 1) = n + 1 + .ofNat i := by
  rw [UInt32.ofNat_add, UInt32.add_comm (.ofNat i), ← UInt32.add_assoc]
  rfl

@[simp] theorem log_nil (n : UInt32) (m : Memory) : log n [] m = [] := rfl

@[simp] theorem remembered_nil (m : Memory) : remembered [] m = m := rfl

theorem remembered_append (bs cs : List Binding) (m : Memory) :
    remembered (bs ++ cs) m = remembered cs (remembered bs m) := by
  induction bs generalizing m with
  | nil => rfl
  | cons b bs ih => exact ih _

@[simp] theorem length_log (n : UInt32) (bs : List Binding) (m : Memory) :
    (log n bs m).length = bs.length := by
  induction bs generalizing n m with
  | nil => rfl
  | cons b bs ih => rw [log, List.length_cons, List.length_cons, ih]

theorem log_append (n : UInt32) (bs cs : List Binding) (m : Memory) :
    log n (bs ++ cs) m = log n bs m ++ log (n + .ofNat bs.length) cs (remembered bs m) := by
  induction bs generalizing n m with
  | nil => simp
  | cons b bs ih =>
    simp only [List.cons_append, log, remembered, List.length_cons, ih, add_ofNat_succ]

end Binding

namespace Session

def after (s : Session) (bs : List Binding) : Session :=
  { s with next := s.next + .ofNat bs.length, memory := Binding.remembered bs s.memory }

@[simp] theorem after_nil (s : Session) : s.after [] = s := by simp [after]

theorem after_append (s : Session) (bs cs : List Binding) :
    s.after (bs ++ cs) = (s.after bs).after cs := by
  simp [after, Binding.remembered_append, UInt32.ofNat_add, UInt32.add_assoc]

end Session

namespace Phrase

/-- An induction over phrases that offers all parts of a join at once. -/
@[elab_as_elim]
theorem parts_induction {motive : Phrase → Prop} (text : ∀ s, motive (text s))
    (parameter : ∀ column datum, motive (parameter column datum))
    (property : ∀ column path name, motive (property column path name))
    (needs : ∀ style, motive (needs style)) (fail : ∀ e, motive (fail e))
    (join : ∀ separator parts, (∀ p ∈ parts, motive p) → motive (join separator parts))
    (p : Phrase) : motive p :=
  @Phrase.rec motive (fun ps => ∀ p ∈ ps, motive p) text parameter property needs fail join
    (by simp) (fun _ _ hp hps => List.forall_mem_cons.2 ⟨hp, hps⟩) p

mutual

/-- The values that the phrase binds, in order. -/
@[simp]
def bindings : Phrase → List Binding
  | text _ | property .. | needs _ | fail _ => []
  | parameter column datum => [⟨column, datum⟩]
  | join _ parts => bindingsOfAll parts

def bindingsOfAll : List Phrase → List Binding
  | [] => []
  | p :: ps => p.bindings ++ bindingsOfAll ps

end

mutual

/-- Why the phrase cannot be written with the strategy, in order. -/
@[simp]
def faults (strategy : Strategy) : Phrase → List RenderError
  | text _ | parameter .. | property .. => []
  | needs style =>
    if strategy.supports style then [] else [.unsupportedPaging strategy.name style]
  | fail e => [e]
  | join _ parts => faultsOfAll strategy parts

def faultsOfAll (strategy : Strategy) : List Phrase → List RenderError
  | [] => []
  | p :: ps => p.faults strategy ++ faultsOfAll strategy ps

end

@[simp] theorem bindingsOfAll_eq (ps : List Phrase) : bindingsOfAll ps = ps.flatMap bindings := by
  induction ps with
  | nil => rfl
  | cons p ps ih => simp [bindingsOfAll, ih]

@[simp] theorem faultsOfAll_eq (strategy : Strategy) (ps : List Phrase) :
    faultsOfAll strategy ps = ps.flatMap (faults strategy) := by
  induction ps with
  | nil => rfl
  | cons p ps ih => simp [faultsOfAll, ih]

section Combinations

variable {strategy : Strategy}

@[simp] theorem bindings_concat (ps : List Phrase) :
    (concat ps).bindings = ps.flatMap bindings := by simp [concat]

@[simp] theorem bindings_words (ps : List Phrase) :
    (words ps).bindings = ps.flatMap bindings := by simp [words]

@[simp] theorem bindings_between (s t : String) (p : Phrase) :
    (between s p t).bindings = p.bindings := by simp [between]

@[simp] theorem bindings_after (s : String) (p : Phrase) : (after s p).bindings = p.bindings := by
  simp [after]

@[simp] theorem bindings_value (column : Option Column) (v : Value) :
    (value column v).bindings = [⟨column, .value v⟩] := by simp [value]

@[simp] theorem faults_concat (ps : List Phrase) :
    (concat ps).faults strategy = ps.flatMap (faults strategy) := by simp [concat]

@[simp] theorem faults_words (ps : List Phrase) :
    (words ps).faults strategy = ps.flatMap (faults strategy) := by simp [words]

@[simp] theorem faults_between (s t : String) (p : Phrase) :
    (between s p t).faults strategy = p.faults strategy := by simp [between]

@[simp] theorem faults_after (s : String) (p : Phrase) :
    (after s p).faults strategy = p.faults strategy := by simp [after]

@[simp] theorem faults_value (column : Option Column) (v : Value) :
    (value column v).faults strategy = [] := by simp [value]

end Combinations

def joined (separator : String) (texts : List String) : String :=
  separator.intercalate (texts.filter (· ≠ ""))

mutual

/-- The text of the phrase when its parameters are numbered from the given number. -/
def wording (strategy : Strategy) (n : UInt32) : Phrase → String
  | text s => s
  | parameter column _ => strategy.parameter column strategy.parameterPath (Binding.key n)
  | property column none name => strategy.record column name
  | property column (some path) name => strategy.indexedRecord column path name
  | needs _ => ""
  | fail _ => ""
  | join separator parts => joined separator (wordings strategy n parts)

def wordings (strategy : Strategy) (n : UInt32) : List Phrase → List String
  | [] => []
  | p :: ps => p.wording strategy n :: wordings strategy (n + .ofNat p.bindings.length) ps

end

end Phrase

end SqlStatement
