-- Record texts: the form in which diagnostics show a value with named fields, on one line or as
-- a block with a field on each line. Field values are given by their texts.
import GrammarRegistry.Text.Quoted

namespace GrammarRegistry.Text.Record

/-- A record on one line, its fields between braces. -/
def line (name : String) (fields : List (String × String)) : String :=
  name ++ " \x7b " ++ String.intercalate ", " (fields.map fun f => f.1 ++ ": " ++ f.2) ++ " \x7d"

/-- A record as a block: each field stands on a line of its own, four blanks in, with a comma. -/
def block (name : String) (fields : List (String × String)) : String :=
  name ++ " \x7b\n" ++
    String.join (fields.map fun f => "    " ++ f.1 ++ ": " ++ f.2 ++ ",\n") ++ "\x7d"

/-- A value wrapped in a named case. -/
def wrapped (name value : String) : String := name ++ "(" ++ value ++ ")"

/-- A list of values. -/
def list (items : List String) : String := "[" ++ String.intercalate ", " items ++ "]"

/-- A name that may be missing. -/
def optional : Option String → String
  | none => "None"
  | some s => wrapped "Some" (quote s)

end GrammarRegistry.Text.Record
