import SqlStatement.Text.Escaped.Table

/-! # Escaped text

Text between double quotes, in which double quotes, backslashes, controls and characters without a
glyph of their own are escaped.
-/

namespace SqlStatement.Text

/-- A control of ASCII, or a character without a glyph of its own. -/
def isGlyphless (c : Char) : Bool :=
  c.toNat < 32 || glyphlessRanges.any fun (first, last) => first ≤ c.toNat && c.toNat ≤ last

def escapedChar (c : Char) : List Char :=
  if c = '\x00' then ['\\', '0']
  else if c = '\t' then ['\\', 't']
  else if c = '\r' then ['\\', 'r']
  else if c = '\n' then ['\\', 'n']
  else if c = '\\' || c = '"' then ['\\', c]
  else if isGlyphless c then
    ['\\', 'u', '\x7b'] ++ Nat.toDigits 16 c.toNat ++ ['\x7d']
  else [c]

def escaped (s : String) : String :=
  String.ofList ('"' :: (s.toList.flatMap escapedChar ++ ['"']))

end SqlStatement.Text
