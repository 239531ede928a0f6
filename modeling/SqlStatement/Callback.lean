import SqlStatement.Value

/-! # Callbacks

Converters and suppliers belong to the program that builds a statement. They may remember things
between calls, in numbered cells that outlive a single rendering.
-/

namespace SqlStatement

/-- What callbacks remember: a value in every cell, null at first. -/
structure Memory where
  read : Nat → Value := fun _ => .null

namespace Memory

def write (m : Memory) (cell : Nat) (v : Value) : Memory :=
  ⟨fun i => if i = cell then v else m.read i⟩

@[simp] theorem read_write_self (m : Memory) (cell : Nat) (v : Value) :
    (m.write cell v).read cell = v := by simp [write]

theorem read_write_of_ne (m : Memory) {i cell : Nat} (h : i ≠ cell) (v : Value) :
    (m.write cell v).read i = m.read i := by simp [write, h]

end Memory

/-- Turns a value into the form in which it is bound. -/
structure Converter where
  name : String
  convert : Value → StateM Memory Value

namespace Converter

def ofFunction (name : String) (f : Value → Value) : Converter := ⟨name, fun v => pure (f v)⟩

/-- The result hangs on the value alone, and no cell is written. -/
def Stateless (c : Converter) : Prop := ∃ f : Value → Value, ∀ v, c.convert v = pure (f v)

theorem stateless_ofFunction (name : String) (f : Value → Value) :
    (ofFunction name f).Stateless := ⟨f, fun _ => rfl⟩

end Converter

/-- Produces a value each time it is asked. -/
structure Supplier where
  supply : StateM Memory Value

namespace Supplier

def ofValue (v : Value) : Supplier := ⟨pure v⟩

def Stateless (s : Supplier) : Prop := ∃ v : Value, s.supply = pure v

end Supplier

end SqlStatement
