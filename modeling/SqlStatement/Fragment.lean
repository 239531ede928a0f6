import SqlStatement.Parameters

/-! # Fragments

A piece of a statement: text, and the parameters that its placeholders name.
-/

namespace SqlStatement

structure Fragment where
  text : String := ""
  parameters : Parameters := ∅

namespace Fragment

def empty : Fragment := {}

instance : EmptyCollection Fragment := ⟨empty⟩
instance : Inhabited Fragment := ⟨empty⟩

def ofText (s : String) : Fragment := ⟨s, ∅⟩

def withText (f : Fragment) (s : String) : Fragment := { f with text := s }

def withParameter (f : Fragment) (key : String) (value : Value) : Fragment :=
  { f with parameters := f.parameters.insert key value }

def withParameters (f : Fragment) (p : Parameters) : Fragment :=
  { f with parameters := f.parameters.extend p }

def mapText (f : Fragment) (g : String → String) : Fragment := { f with text := g f.text }

def prepend (s : String) (f : Fragment) : Fragment := f.mapText (s ++ ·)

def append (f g : Fragment) : Fragment := ⟨f.text ++ g.text, f.parameters.extend g.parameters⟩

instance : Append Fragment := ⟨append⟩

@[simp] theorem text_append (f g : Fragment) : (f ++ g).text = f.text ++ g.text := rfl

@[simp] theorem parameters_append (f g : Fragment) :
    (f ++ g).parameters = f.parameters.extend g.parameters := rfl

def same (f g : Fragment) : Bool := f.text == g.text && f.parameters.same g.parameters

/-- A further piece behind a joined text. The separator stands only between two texts that are not
empty; the parameters are always taken. -/
def joinStep (separator : String) (joined f : Fragment) : Fragment :=
  ⟨if f.text.isEmpty then joined.text
   else if joined.text.isEmpty then f.text
   else joined.text ++ separator ++ f.text,
   joined.parameters.extend f.parameters⟩

/-- The pieces in one text, separated; empty texts leave no separator behind. -/
def join (separator : String) (fs : List Fragment) : Fragment :=
  fs.foldl (joinStep separator) empty

@[simp] theorem join_nil (separator : String) : join separator [] = empty := rfl

@[simp] theorem join_singleton (separator : String) (f : Fragment) : join separator [f] = f := by
  have h : (if f.text.isEmpty then "" else f.text) = f.text := by
    split
    next e => exact (String.isEmpty_iff.1 e).symm
    · rfl
  exact congrArg (Fragment.mk · f.parameters) h

end Fragment

end SqlStatement
