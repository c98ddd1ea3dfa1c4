-- Why a draft is refused.
import GrammarRegistry.Text.Record

namespace GrammarRegistry

/-- The fault of a draft that cannot become a descriptor. -/
inductive DraftError where
  /-- The name of the element type is blank. -/
  | emptyElement
  /-- The draft has no pattern. -/
  | noPatterns (element : String)
  /-- The pattern at this index, counted from 0 in the order of declaration, is blank. -/
  | blankPattern (element : String) (index : Nat)
  /-- The expression does not say what it returns. -/
  | emptyReturnType (element : String)
  deriving DecidableEq

namespace DraftError

open Text

/-- The message for the author of the draft, for a choice of the characters that quoted names
hide. -/
def messageBy (hidden : Char → Bool) : DraftError → String
  | emptyElement => "syntax element type name is empty"
  | noPatterns element => "syntax element " ++ quoteBy hidden element ++ " declares no patterns"
  | blankPattern element index =>
    "syntax element " ++ quoteBy hidden element ++ " has a blank pattern at index " ++
      toString index
  | emptyReturnType element =>
    "expression " ++ quoteBy hidden element ++ " declares no return type"

/-- The message for the author of the draft. -/
def message : DraftError → String := messageBy isHidden

/-- The error as a record text. -/
def record : DraftError → String
  | emptyElement => "EmptyElement"
  | noPatterns element => Record.line "NoPatterns" [("element", quote element)]
  | blankPattern element index =>
    Record.line "BlankPattern" [("element", quote element), ("index", toString index)]
  | emptyReturnType element => Record.line "EmptyReturnType" [("element", quote element)]

end DraftError

end GrammarRegistry
