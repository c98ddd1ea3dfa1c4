-- Compact JSON text: no blank between the parts, members in the order given. A value's text is
-- built from the texts of its parts, so each shape has one function.
import GrammarRegistry.Text.JsonString

namespace GrammarRegistry.Text.Json

/-- The text of a string. -/
def string (s : String) : String := String.ofList (JsonString.encode s.toList)

/-- The text of an array of values that are given by their texts. -/
def array (items : List String) : String := "[" ++ String.intercalate "," items ++ "]"

/-- One member of an object: its name and the text of its value. -/
def member (name value : String) : String := string name ++ ":" ++ value

/-- The text of an object of members that are given by their names and the texts of their
values. -/
def object (members : List (String × String)) : String :=
  "\x7b" ++ String.intercalate "," (members.map fun m => member m.1 m.2) ++ "\x7d"

theorem toList_string (s : String) : (string s).toList = JsonString.encode s.toList := by
  simp [string]

end GrammarRegistry.Text.Json
