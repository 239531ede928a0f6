import SqlStatement.Query

/-! # Conditions

How an expression may be held against values, expressions and selects, and what may be done to a
condition before it is written: its values mapped or filtered, or the whole of it dropped.
-/

namespace SqlStatement

inductive Relation where
  | equalTo | notEqualTo
  | greaterThan | greaterThanOrEqualTo | lessThan | lessThanOrEqualTo
  | like | notLike
deriving DecidableEq, Repr

namespace Relation

def operator : Relation → String
  | equalTo => "="
  | notEqualTo => "<>"
  | greaterThan => ">"
  | greaterThanOrEqualTo => ">="
  | lessThan => "<"
  | lessThanOrEqualTo => "<="
  | like => "like"
  | notLike => "not like"

end Relation

inductive Polarity where
  | positive
  | negative
deriving DecidableEq, Repr

namespace Polarity

def apply (p : Polarity) (operator : String) : String :=
  match p with
  | positive => operator
  | negative => "not " ++ operator

end Polarity

namespace Condition

def isNull : Polarity → Condition
  | .positive => noValue "is null"
  | .negative => noValue "is not null"

def ofValue (r : Relation) (v : Value) : Condition := single r.operator v false

def ofValue? (r : Relation) (v : Option Value) : Condition :=
  match v with
  | some v => ofValue r v
  | none => empty

/-- A relation without regard to case: the value is bound in upper case. -/
def ignoringCase (r : Relation) (v : Value) : Condition := single r.operator v.upper true

def between (p : Polarity) (first last : Value) : Condition :=
  pair (p.apply "between") "and" first last

/-- A range that is left out unless both of its ends are there. -/
def between? (p : Polarity) (first last : Option Value) : Condition :=
  match first, last with
  | some v, some w => between p v w
  | _, _ => empty

def among (p : Polarity) (vs : List Value) : Condition := list (p.apply "in") vs false

/-- Membership of a list of the values that are there, left out where there are none. -/
def among? (p : Polarity) (vs : List (Option Value)) : Condition :=
  match vs.filterMap id with
  | [] => empty
  | v :: rest => among p (v :: rest)

def amongIgnoringCase (p : Polarity) (vs : List Value) : Condition :=
  list (p.apply "in") (vs.map Value.upper) true

def ofExpr (r : Relation) (e : Expr) : Condition := comparison r.operator e

def ofSelect (r : Relation) (query : Select) : Condition := subselect r.operator query

def amongSelected (p : Polarity) (query : Select) : Condition := subselect (p.apply "in") query

def isEmpty : Condition → Bool
  | empty => true
  | _ => false

def ignoresCase : Condition → Bool
  | single _ _ ignoresCase => ignoresCase
  | list _ _ ignoresCase => ignoresCase
  | _ => false

/-- Every bound value put through a function. -/
def map (f : Value → Value) : Condition → Condition
  | single operator v ignoresCase => single operator (f v) ignoresCase
  | pair operator conjunction v w => pair operator conjunction (f v) (f w)
  | list operator vs ignoresCase => list operator (vs.map f) ignoresCase
  | c => c

/-- Empty where a value fails the test; a list keeps the values that pass, if there are any. -/
def filter (keep : Value → Bool) : Condition → Condition
  | single operator v ignoresCase => if keep v then single operator v ignoresCase else empty
  | pair operator conjunction v w =>
    if keep v && keep w then pair operator conjunction v w else empty
  | list operator vs ignoresCase =>
    match vs.filter keep with
    | [] => empty
    | v :: rest => list operator (v :: rest) ignoresCase
  | c => c

def when (render : Bool) (c : Condition) : Condition := if render then c else empty

end Condition

end SqlStatement
