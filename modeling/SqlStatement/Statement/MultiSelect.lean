import SqlStatement.Statement.Select

/-! # Multi-selects

Complete selects, each in parentheses, chained by set operators. Every one may have an order and
paging of its own; those of the whole stand behind.
-/

namespace SqlStatement

structure MultiSelect where
  initial : Select
  others : List (SetOperator × Select) := []
  orderBy : Option (List SortItem) := none
  paging : Option Paging := none

namespace MultiSelect

def phrase (m : MultiSelect) : Phrase :=
  .words (.between "(" (m.initial.phrase []) ")" ::
    (m.others.flatMap fun (operator, s) => [.text operator.text, .between "(" (s.phrase []) ")"]) ++
    (m.orderBy.map (SortItem.clause [])).getD [] ++ (m.paging.map Paging.phrases).getD [])

def render (m : MultiSelect) (strategy : Strategy) : Rendering Statement :=
  m.phrase.statement .multiSelect strategy

end MultiSelect

structure MultiSelectDraft where
  initial : Select
  others : List (SetOperator × Select) := []
  orderBy : List SortItem := []
  paging : PagingDraft := {}

namespace MultiSelectDraft

def combine (d : MultiSelectDraft) (operator : SetOperator) (s : Select) : MultiSelectDraft :=
  { d with others := d.others ++ [(operator, s)] }

def withOrder (d : MultiSelectDraft) (items : List SortItem) : MultiSelectDraft :=
  { d with orderBy := items }

def withLimit (d : MultiSelectDraft) (n : UInt64) : MultiSelectDraft :=
  { d with paging := d.paging.withLimit n }

def withOffset (d : MultiSelectDraft) (n : UInt64) : MultiSelectDraft :=
  { d with paging := d.paging.withOffset n }

def withFetchFirst (d : MultiSelectDraft) (n : UInt64) : MultiSelectDraft :=
  { d with paging := d.paging.withFetchFirst n }

def build (d : MultiSelectDraft) : MultiSelect :=
  ⟨d.initial, d.others, presentOrder d.orderBy, d.paging.build⟩

end MultiSelectDraft

end SqlStatement
