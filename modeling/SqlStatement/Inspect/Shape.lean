import SqlStatement.Text.Escaped

/-! # Shapes

The nested outline of a value: names with their fields, lists and single words. A shape has one
text, on one line.
-/

namespace SqlStatement

inductive Shape where
  | word (s : String)
  /-- Parts in parentheses behind a name, which may be missing. -/
  | tuple (name : String) (parts : List Shape)
  /-- Named fields, of which some may be left unsaid. -/
  | record (name : String) (fields : List (String × Shape)) (partially : Bool)
  | list (items : List Shape)
  | map (entries : List (Shape × Shape))

namespace Shape

def commas (texts : List String) : String := ", ".intercalate texts

mutual

def text : Shape → String
  | word s => s
  | tuple name parts => name ++ "(" ++ commas (texts parts) ++ ")"
  | record name fields partially =>
    name ++ " \x7b " ++ commas (fieldTexts fields ++ if partially then [".."] else []) ++ " \x7d"
  | list items => "[" ++ commas (texts items) ++ "]"
  | map entries => "\x7b" ++ commas (entryTexts entries) ++ "\x7d"

def texts : List Shape → List String
  | [] => []
  | s :: rest => s.text :: texts rest

def fieldText : String × Shape → String
  | (name, s) => name ++ ": " ++ s.text

def fieldTexts : List (String × Shape) → List String
  | [] => []
  | f :: rest => fieldText f :: fieldTexts rest

def entryText : Shape × Shape → String
  | (key, s) => key.text ++ ": " ++ s.text

def entryTexts : List (Shape × Shape) → List String
  | [] => []
  | e :: rest => entryText e :: entryTexts rest

end

def ofOption : Option Shape → Shape
  | none => word "None"
  | some s => tuple "Some" [s]

def ofText (s : String) : Shape := word (Text.escaped s)

def ofText? (s : Option String) : Shape := ofOption (s.map ofText)

def ofBool (b : Bool) : Shape := word (if b then "true" else "false")

def ofPresent (f : List Shape → Shape) (items : List Shape) : Shape :=
  ofOption (if items.isEmpty then none else some (f items))

end Shape

end SqlStatement
