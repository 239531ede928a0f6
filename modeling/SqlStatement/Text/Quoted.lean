/-! # Quoted text

A string literal stands between two quotes, and a quote inside it is written twice.
-/

namespace SqlStatement.Text

def quoteMark : Char := '\x27'

/-- Every quote written twice. -/
def doubleQuotes : List Char → List Char
  | [] => []
  | c :: cs => if c = quoteMark then c :: c :: doubleQuotes cs else c :: doubleQuotes cs

def quoteChars (cs : List Char) : List Char := quoteMark :: (doubleQuotes cs ++ [quoteMark])

/-- The string literal that stands for a text. -/
def quote (s : String) : String := String.ofList (quoteChars s.toList)

@[simp] theorem toList_quote (s : String) : (quote s).toList = quoteChars s.toList := by
  simp [quote]

theorem quote_ne_empty (s : String) : quote s ≠ "" := by
  intro h
  have hl := congrArg String.toList h
  simp [quoteChars] at hl

@[simp] theorem doubleQuotes_append (cs ds : List Char) :
    doubleQuotes (cs ++ ds) = doubleQuotes cs ++ doubleQuotes ds := by
  induction cs with
  | nil => rfl
  | cons c cs ih => by_cases h : c = quoteMark <;> simp [doubleQuotes, h, ih]

end SqlStatement.Text
