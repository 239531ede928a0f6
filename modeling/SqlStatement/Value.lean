import SqlStatement.Double
import SqlStatement.Text.UpperCase

/-! # Values

The values that a statement carries beside its text. Values of different kinds are never equal;
numbers compare as numbers and timestamps as instants.
-/

namespace SqlStatement

/-- An instant, in nanoseconds since 1970, shown at an offset from Greenwich in seconds. -/
structure Timestamp where
  nanoseconds : Int
  offset : Int
deriving DecidableEq, Repr

inductive Value where
  | null
  | bool (b : Bool)
  | int (n : Int64)
  | unsigned (n : UInt64)
  | double (x : Double)
  | text (s : String)
  | bytes (data : List UInt8)
  | timestamp (t : Timestamp)
deriving DecidableEq, Repr, Inhabited

namespace Value

def ofOption (v : Option Value) : Value := v.getD null

def isNull : Value → Bool
  | null => true
  | _ => false

/-- The whole number that a signed 64-bit word can hold. -/
def toInt64? : Value → Option Int64
  | int n => some n
  | unsigned n => if n.toNat < 0x8000000000000000 then some n.toInt64 else none
  | _ => none

def toText? : Value → Option String
  | text s => some s
  | _ => none

def upper : Value → Value
  | text s => text (Text.upper s)
  | v => v

/-- Equality as a program sees it. -/
def same : Value → Value → Bool
  | double x, double y => x.sameNumber y
  | timestamp s, timestamp t => s.nanoseconds == t.nanoseconds
  | v, w => v == w

@[simp] theorem ofOption_none : ofOption none = null := rfl
@[simp] theorem ofOption_some (v : Value) : ofOption (some v) = v := rfl

@[simp] theorem isNull_iff {v : Value} : v.isNull = true ↔ v = null := by
  cases v <;> simp [isNull]

end Value

end SqlStatement
