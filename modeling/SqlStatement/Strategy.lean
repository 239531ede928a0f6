import SqlStatement.Paging
import SqlStatement.Table

/-! # Rendering strategies

A strategy fixes the text of placeholders and the paging styles that may be used, and nothing else.
-/

namespace SqlStatement

structure Strategy where
  name : String
  /-- The placeholder of a parameter, from the column it is compared with, a path and a key. -/
  parameter : Option Column → String → String → String
  parameterPath : String := "parameters"
  /-- The placeholder of a property of the record that is inserted. -/
  record : Column → String → String := fun column property => parameter (some column) "row" property
  /-- The placeholder of a property of one record among several, from the path to that record. -/
  indexedRecord : Column → String → String → String :=
    fun column path property => parameter (some column) path property
  supports : PagingStyle → Bool := fun _ => true

namespace Strategy

/-- The placeholder of a mapper that reads the type and its handler beside the path. -/
def typedPlaceholder (column : Option Column) (path key : String) : String :=
  let access := if path.isEmpty then key else path ++ "." ++ key
  let typeText := match column.bind Column.type with
    | some t => ",jdbcType=" ++ t.jdbcName
    | none => ""
  let handlerText := match column.bind Column.typeHandler with
    | some h => ",typeHandler=" ++ h
    | none => ""
  "#\x7b" ++ access ++ typeText ++ handlerText ++ "\x7d"

def myBatis3 (path : String := "parameters") (paging : PagingSupport := .all) : Strategy where
  name := "MyBatis3"
  parameter := typedPlaceholder
  parameterPath := path
  supports := paging.allows

def springNamed (paging : PagingSupport := .all) : Strategy where
  name := "SpringNamedParameter"
  parameter := fun _ _ key => ":" ++ key
  record := fun _ property => ":" ++ property
  indexedRecord := fun _ path property => ":" ++ path ++ "." ++ property
  supports := paging.allows

def positional (paging : PagingSupport := .all) : Strategy where
  name := "Positional"
  parameter := fun _ _ _ => "?"
  supports := paging.allows

end Strategy

end SqlStatement
