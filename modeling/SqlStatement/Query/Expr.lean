import SqlStatement.Query

/-! # Expressions

What may stand in a select list or on the left of a condition, and the column that values compared
with it are bound for.
-/

namespace SqlStatement.Expr

def countAll : Expr := aggregate .countAll none none

def aggregated (f : Aggregate) (e : Expr) : Expr := aggregate f (some e) none

def call (name : String) (arguments : List Expr) : Expr := function name arguments none

def upper (e : Expr) : Expr := call "upper" [e]

def lower (e : Expr) : Expr := call "lower" [e]

def as (label : String) : Expr → Expr
  | column c => column (c.as label)
  | aggregate f argument _ => aggregate f argument (some label)
  | function name arguments _ => function name arguments (some label)
  | constant text _ => constant text (some label)
  | stringConstant text _ => stringConstant text (some label)
  | case expression _ => case expression (some label)

def label? : Expr → Option String
  | column c => c.label
  | aggregate _ _ label => label
  | function _ _ label => label
  | constant _ label => label
  | stringConstant _ label => label
  | case _ label => label

mutual

/-- The column whose type and converter belong to values compared with the expression. -/
def bindingColumn : Expr → Option Column
  | column c => some c
  | aggregate f argument _ =>
    if f.countsRows then none else argumentColumn argument
  | function _ arguments _ => firstColumn arguments
  | constant .. => none
  | stringConstant .. => none
  | case .. => none

def argumentColumn : Option Expr → Option Column
  | none => none
  | some e => e.bindingColumn

def firstColumn : List Expr → Option Column
  | [] => none
  | e :: _ => e.bindingColumn

end

end SqlStatement.Expr
