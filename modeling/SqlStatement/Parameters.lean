import Std.Data.TreeMap
import SqlStatement.Value

/-! # Parameters

Named values in the order of their first insertion. An index keeps the position of each name, so
that finding and merging scan nothing.
-/

namespace SqlStatement

structure Parameters where
  entries : Array (String × Value) := #[]
  index : Std.TreeMap String Nat := ∅

namespace Parameters

def empty : Parameters := {}

instance : EmptyCollection Parameters := ⟨empty⟩
instance : Inhabited Parameters := ⟨empty⟩

def size (p : Parameters) : Nat := p.entries.size

def isEmpty (p : Parameters) : Bool := p.entries.isEmpty

def toList (p : Parameters) : List (String × Value) := p.entries.toList

def keys (p : Parameters) : List String := p.toList.map Prod.fst

def values (p : Parameters) : List Value := p.toList.map Prod.snd

/-- A new name goes to the end; a known one keeps its place and takes the new value. -/
def insert (p : Parameters) (key : String) (value : Value) : Parameters :=
  match p.index[key]? with
  | some i => { p with entries := p.entries.setIfInBounds i (key, value) }
  | none => ⟨p.entries.push (key, value), p.index.insert key p.entries.size⟩

def singleton (key : String) (value : Value) : Parameters := empty.insert key value

def insertMany (p : Parameters) (kvs : List (String × Value)) : Parameters :=
  kvs.foldl (fun q kv => q.insert kv.1 kv.2) p

def ofList (kvs : List (String × Value)) : Parameters := empty.insertMany kvs

/-- The second map inserted into the first; an empty first map is replaced outright. -/
def extend (p q : Parameters) : Parameters :=
  if p.isEmpty then q else p.insertMany q.toList

def get? (p : Parameters) (key : String) : Option Value :=
  (p.index[key]?).bind fun i => (p.entries[i]?).map Prod.snd

def contains (p : Parameters) (key : String) : Bool := (p.get? key).isSome

def sorted (p : Parameters) : List (String × Value) :=
  (p.toList.foldl (fun m kv => m.insert kv.1 kv.2) (∅ : Std.TreeMap String Value)).toList

def same (p q : Parameters) : Bool :=
  p.size == q.size && (p.toList.zip q.toList).all fun (a, b) => a.1 == b.1 && a.2.same b.2

@[simp] theorem toList_empty : empty.toList = [] := rfl

@[simp] theorem insertMany_nil (p : Parameters) : p.insertMany [] = p := rfl

@[simp] theorem insertMany_cons (p : Parameters) (kv : String × Value)
    (kvs : List (String × Value)) :
    p.insertMany (kv :: kvs) = (p.insert kv.1 kv.2).insertMany kvs := rfl

theorem insertMany_append (p : Parameters) (kvs lvs : List (String × Value)) :
    p.insertMany (kvs ++ lvs) = (p.insertMany kvs).insertMany lvs := by
  simp [insertMany]

end Parameters

end SqlStatement
