import SqlStatement.Callback

/-! # Tables and columns

A table is told apart by its identity, never by its name, so that a table can be joined to itself.
A column carries what is needed to name it and to bind values that are compared with it.
-/

namespace SqlStatement

structure TableId where
  number : Nat
deriving DecidableEq, Repr

structure Table where
  id : TableId
  name : String
deriving DecidableEq, Repr

namespace Table

/-- One and the same table, whatever the names. -/
def same (s t : Table) : Bool := s.id == t.id

end Table

inductive ColumnType where
  | bit | tinyInt | smallInt | integer | bigInt
  | float | real | double | numeric | decimal
  | char | varchar | longVarchar
  | date | time | timestamp | timestampWithTimezone
  | binary | varBinary | blob | clob
  | boolean | other
deriving DecidableEq, Repr

namespace ColumnType

def all : List ColumnType :=
  [bit, tinyInt, smallInt, integer, bigInt, float, real, double, numeric, decimal, char, varchar,
   longVarchar, date, time, timestamp, timestampWithTimezone, binary, varBinary, blob, clob,
   boolean, other]

def name : ColumnType → String
  | bit => "Bit"
  | tinyInt => "TinyInt"
  | smallInt => "SmallInt"
  | integer => "Integer"
  | bigInt => "BigInt"
  | float => "Float"
  | real => "Real"
  | double => "Double"
  | numeric => "Numeric"
  | decimal => "Decimal"
  | char => "Char"
  | varchar => "Varchar"
  | longVarchar => "LongVarchar"
  | date => "Date"
  | time => "Time"
  | timestamp => "Timestamp"
  | timestampWithTimezone => "TimestampWithTimezone"
  | binary => "Binary"
  | varBinary => "VarBinary"
  | blob => "Blob"
  | clob => "Clob"
  | boolean => "Boolean"
  | other => "Other"

/-- The name of the type in a placeholder. -/
def jdbcName : ColumnType → String
  | bit => "BIT"
  | tinyInt => "TINYINT"
  | smallInt => "SMALLINT"
  | integer => "INTEGER"
  | bigInt => "BIGINT"
  | float => "FLOAT"
  | real => "REAL"
  | double => "DOUBLE"
  | numeric => "NUMERIC"
  | decimal => "DECIMAL"
  | char => "CHAR"
  | varchar => "VARCHAR"
  | longVarchar => "LONGVARCHAR"
  | date => "DATE"
  | time => "TIME"
  | timestamp => "TIMESTAMP"
  | timestampWithTimezone => "TIMESTAMP_WITH_TIMEZONE"
  | binary => "BINARY"
  | varBinary => "VARBINARY"
  | blob => "BLOB"
  | clob => "CLOB"
  | boolean => "BOOLEAN"
  | other => "OTHER"

def ofName? (s : String) : Option ColumnType := all.find? (·.name == s)

theorem mem_all (t : ColumnType) : t ∈ all := by cases t <;> decide

theorem ofName?_name (t : ColumnType) : ofName? t.name = some t := by cases t <;> rfl

end ColumnType

structure Column where
  name : String
  table : Table
  type : Option ColumnType := none
  typeHandler : Option String := none
  converter : Option Converter := none
  label : Option String := none
  qualifier : Option String := none

namespace Table

def column (t : Table) (name : String) : Column := { name, table := t }

def allColumns (t : Table) : Column := t.column "*"

end Table

namespace Column

def withType (c : Column) (t : ColumnType) : Column := { c with type := some t }

def withTypeHandler (c : Column) (handler : String) : Column :=
  { c with typeHandler := some handler }

def withConverter (c : Column) (converter : Converter) : Column :=
  { c with converter := some converter }

def as (c : Column) (label : String) : Column := { c with label := some label }

def qualifiedWith (c : Column) (qualifier : String) : Column :=
  { c with qualifier := some qualifier }

/-- The form in which a value compared with the column is bound. -/
def convert (c : Column) (v : Value) : StateM Memory Value :=
  match c.converter with
  | some converter => converter.convert v
  | none => pure v

end Column

end SqlStatement
