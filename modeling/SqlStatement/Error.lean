import SqlStatement.Paging

/-! # Errors

A rendering fails when the statement is incomplete, or when it asks the strategy for more than it
supports.
-/

namespace SqlStatement

inductive StatementKind where
  | select | multiSelect | whereClause
  | insert | multiRowInsert | batchInsert | insertSelect
  | update | delete
deriving DecidableEq, Repr

namespace StatementKind

def name : StatementKind → String
  | select => "select"
  | multiSelect => "multi-select"
  | whereClause => "where"
  | insert => "insert"
  | multiRowInsert => "multi-row insert"
  | batchInsert => "batch insert"
  | insertSelect => "insert select"
  | update => "update"
  | delete => "delete"

end StatementKind

inductive RenderError where
  | missingTable (kind : StatementKind)
  | emptySelectList
  | emptySelect
  | emptyInsertColumns (table : String)
  | emptyRecords (table : String)
  | unsupportedMapping (column : String) (kind : StatementKind)
  | unsupportedPaging (strategy : String) (style : PagingStyle)
  | emptyCase
deriving DecidableEq, Repr

namespace RenderError

def message : RenderError → String
  | missingTable kind => kind.name ++ " statement requires a table name"
  | emptySelectList => "query expression must select at least one column"
  | emptySelect => "select statement must contain at least one query expression"
  | emptyInsertColumns table => "insert into " ++ table ++ " has no column mappings to render"
  | emptyRecords table =>
    "multi-row insert into " ++ table ++ " requires at least one record"
  | unsupportedMapping column kind =>
    "mapping for column " ++ column ++ " is not supported in " ++ kind.name ++ " statements"
  | unsupportedPaging strategy style =>
    "rendering strategy " ++ strategy ++ " does not support " ++ style.text ++ " paging"
  | emptyCase => "case expression requires at least one when clause"

end RenderError

end SqlStatement
