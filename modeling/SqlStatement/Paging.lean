/-! # Paging

A result is cut in one of two styles, and a row count belongs to the style that set it last.
-/

namespace SqlStatement

inductive PagingStyle where
  | limitOffset
  | fetchFirst
deriving DecidableEq, Repr

namespace PagingStyle

def text : PagingStyle → String
  | limitOffset => "limit/offset"
  | fetchFirst => "fetch first"

end PagingStyle

inductive PagingSupport where
  | all
  | limitOffsetOnly
  | fetchFirstOnly
deriving DecidableEq, Repr

namespace PagingSupport

def allows : PagingSupport → PagingStyle → Bool
  | all, _ => true
  | limitOffsetOnly, style => style == .limitOffset
  | fetchFirstOnly, style => style == .fetchFirst

end PagingSupport

structure Paging where
  style : PagingStyle
  rows : Option UInt64 := none
  offset : Option UInt64 := none
deriving DecidableEq, Repr

/-- The paging calls made so far. -/
structure PagingDraft where
  style : Option PagingStyle := none
  rows : Option UInt64 := none
  offset : Option UInt64 := none
deriving DecidableEq, Repr

namespace PagingDraft

def withLimit (d : PagingDraft) (n : UInt64) : PagingDraft :=
  { d with rows := some n, style := some .limitOffset }

def withFetchFirst (d : PagingDraft) (n : UInt64) : PagingDraft :=
  { d with rows := some n, style := some .fetchFirst }

def withOffset (d : PagingDraft) (n : UInt64) : PagingDraft := { d with offset := some n }

/-- An offset on its own is written in the limit style. -/
def build (d : PagingDraft) : Option Paging :=
  match d.style with
  | some style => some ⟨style, d.rows, d.offset⟩
  | none => d.offset.map fun n => ⟨.limitOffset, none, some n⟩

end PagingDraft

end SqlStatement
