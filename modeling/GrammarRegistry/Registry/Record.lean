-- Registries as record texts, which tell labels and counts but no contents.
import GrammarRegistry.Registry.Basic

namespace GrammarRegistry.Registry

open Text

variable {τ α : Type}

/-- The name of the record and its fields. Gates are not shown. -/
def recordFields? (h : Holdings τ α) : Registry → Option (String × List (String × String))
  | plain s =>
    some ("SyntaxRegistry",
      [("label", quote s.label), ("registrations", toString (h.catalog s).size),
        ("keys", toString (h.catalog s).keyCount)])
  | view backing => some ("UnmodifiableView", [("backing", quote backing.label)])
  | child p c => some ("ChildRegistry", [("label", quote c.label), ("parent", quote p.label)])
  | gate .. => none

/-- The record on one line. -/
def recordLine? (h : Holdings τ α) (r : Registry) : Option String :=
  (r.recordFields? h).map fun shown => Record.line shown.1 shown.2

/-- The record as a block. -/
def recordBlock? (h : Holdings τ α) (r : Registry) : Option String :=
  (r.recordFields? h).map fun shown => Record.block shown.1 shown.2

end GrammarRegistry.Registry
