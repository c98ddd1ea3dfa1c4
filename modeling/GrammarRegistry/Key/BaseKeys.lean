-- The base categories of a grammar, as keys that every module can count on: structures,
-- sections, statements with effects and conditions below them, and expressions.
import GrammarRegistry.Key.KeyHandle

namespace GrammarRegistry.BaseKeys

def structures : Key Payload := .root ⟨0⟩ "structure" .structural

def sections : Key Payload := .root ⟨1⟩ "section" .production

def statements : Key Payload := .root ⟨2⟩ "statement" .production

/-- Statements that act. -/
def effects : Key Payload := .child ⟨3⟩ "effect" .production statements

/-- Statements that test. -/
def conditions : Key Payload := .child ⟨4⟩ "condition" .production statements

def expressions : Key Payload := .root ⟨5⟩ "expression" .expression

/-- The forest of the base categories. -/
def forest : Forest Payload :=
  ⟨[structures, sections, statements, effects, conditions, expressions]⟩

/-- Handles on the base categories, by the names that modules use. -/
def handles : List (String × KeyHandle Payload) :=
  [("STRUCTURE", .plain structures), ("SECTION", .plain sections),
    ("STATEMENT", .plain statements), ("EFFECT", .child effects statements),
    ("CONDITION", .child conditions statements), ("EXPRESSION", .plain expressions)]

end GrammarRegistry.BaseKeys
