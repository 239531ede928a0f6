import SqlStatement.Table

/-! # Scopes

Every query block opens a scope with the aliases of its tables. A column of a table that the block
does not hold is named by the scopes around it, from the inside out.
-/

namespace SqlStatement

/-- Aliases by table identity; a later alias of a table replaces the one before. -/
structure Aliases where
  entries : List (TableId × String) := []
deriving Repr

namespace Aliases

def empty : Aliases := {}

instance : EmptyCollection Aliases := ⟨empty⟩
instance : Inhabited Aliases := ⟨empty⟩

def find? (a : Aliases) (t : TableId) : Option String := a.entries.lookup t

def insert (a : Aliases) (t : TableId) (name : String) : Aliases :=
  ⟨(t, name) :: a.entries.filter (·.1 ≠ t)⟩

def ofList (entries : List (TableId × String)) : Aliases :=
  entries.foldl (fun a e => a.insert e.1 e.2) empty

def texts (a : Aliases) : List String := a.entries.map Prod.snd

@[simp] theorem find?_empty (t : TableId) : empty.find? t = none := rfl

theorem lookup_filter_ne (entries : List (TableId × String)) {t u : TableId} (h : u ≠ t) :
    (entries.filter (·.1 ≠ t)).lookup u = entries.lookup u := by
  induction entries with
  | nil => rfl
  | cons e es ih => by_cases he : e.1 = t <;> grind

theorem find?_insert (a : Aliases) (t u : TableId) (name : String) :
    (a.insert t name).find? u = if u = t then some name else a.find? u := by
  by_cases h : u = t
  · simp [find?, insert, h]
  · rw [find?, insert, List.lookup_cons, beq_false_of_ne h, if_neg h]
    exact lookup_filter_ne a.entries h

@[simp] theorem find?_insert_self (a : Aliases) (t : TableId) (name : String) :
    (a.insert t name).find? t = some name := by
  simp [find?_insert]

end Aliases

structure Scope where
  aliases : Aliases := ∅
  /-- The block qualifies every column, by the table's name where it has no alias. -/
  qualifiesAll : Bool := false
  tables : List TableId := []
deriving Repr

namespace Scope

def explicit (aliases : Aliases) : Scope := { aliases }

def guaranteed (aliases : Aliases) : Scope := { aliases, qualifiesAll := true }

def withTables (s : Scope) (tables : List TableId) : Scope :=
  { s with tables := s.tables ++ tables }

def holds (s : Scope) (t : Table) : Bool :=
  (s.aliases.find? t.id).isSome || s.tables.contains t.id

/-- The qualifier of a column whose table no other scope is asked about. -/
def ownQualifier (s : Scope) (t : Table) : Option String :=
  (s.aliases.find? t.id).or (if s.qualifiesAll then some t.name else none)

end Scope

/-- The open scopes, innermost first. -/
abbrev Scopes := List Scope

namespace Scopes

/-- The qualifier of a column of the table. -/
def qualifier (σ : Scopes) (t : Table) : Option String :=
  match σ with
  | [] => none
  | s :: outer => if s.holds t then s.ownQualifier t else qualifier outer t

/-- The alias that stands behind a table in the innermost block. -/
def tableAlias (σ : Scopes) (t : Table) : Option String :=
  σ.head?.bind (·.aliases.find? t.id)

/-- A column by name, with its own qualifier or the one that the scopes give it. -/
def columnName (σ : Scopes) (c : Column) : String :=
  match c.qualifier.or (σ.qualifier c.table) with
  | some q => q ++ "." ++ c.name
  | none => c.name

def tableName (σ : Scopes) (t : Table) : String :=
  match σ.tableAlias t with
  | some a => t.name ++ " " ++ a
  | none => t.name

@[simp] theorem qualifier_nil (t : Table) : qualifier [] t = none := rfl

theorem qualifier_cons_of_holds {s : Scope} {t : Table} (h : s.holds t = true) (outer : Scopes) :
    qualifier (s :: outer) t = s.ownQualifier t := by simp [qualifier, h]

theorem qualifier_cons_of_not_holds {s : Scope} {t : Table} (h : s.holds t = false)
    (outer : Scopes) : qualifier (s :: outer) t = qualifier outer t := by simp [qualifier, h]

end Scopes

end SqlStatement
