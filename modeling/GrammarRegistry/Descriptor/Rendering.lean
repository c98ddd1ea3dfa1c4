-- The texts of descriptors: compact JSON for documentation, and record texts for diagnostics.
-- In JSON the members of the common part come first and a type's own members follow.
import GrammarRegistry.Descriptor.Basic
import GrammarRegistry.Text.Json
import GrammarRegistry.Text.Record

namespace GrammarRegistry

open Text

/-! ## Origins -/

namespace Origin

/-- The origin in running text. -/
def display : Origin → String
  | builtin => "builtin"
  | addon name => "addon:" ++ name

/-- The JSON text: a word for the runtime, an object for an addon, so that no name of an addon
is taken for the runtime. -/
def json : Origin → String
  | builtin => Json.string "builtin"
  | addon name => Json.object [("addon", Json.string name)]

def record : Origin → String
  | builtin => "Builtin"
  | addon name => Record.wrapped "Addon" (quote name)

end Origin

/-! ## Words -/

namespace Priority

/-- The word for the priority in JSON. -/
def word : Priority → String
  | simple => "simple"
  | combined => "combined"
  | catchAll => "pattern_matches_everything"

def json (p : Priority) : String := Json.string p.word

def record : Priority → String
  | simple => "Simple"
  | combined => "Combined"
  | catchAll => "PatternMatchesEverything"

end Priority

namespace NodeType

/-- The word for the node type in JSON. -/
def word : NodeType → String
  | line => "simple"
  | block => "section"
  | either => "both"

def json (n : NodeType) : String := Json.string n.word

def record : NodeType → String
  | line => "Simple"
  | block => "Section"
  | either => "Both"

end NodeType

namespace ExpressionKind

/-- The word for the kind in JSON. -/
def word : ExpressionKind → String
  | simple => "simple"
  | event => "event"
  | combined => "combined"
  | property => "property"
  | catchAll => "pattern_matches_everything"

def json (k : ExpressionKind) : String := Json.string k.word

def record : ExpressionKind → String
  | simple => "Simple"
  | event => "Event"
  | combined => "Combined"
  | property => "Property"
  | catchAll => "PatternMatchesEverything"

end ExpressionKind

/-! ## Descriptors -/

namespace Production

/-- The members of the common part, in the order of their JSON text. -/
def members (p : Production) : List (String × String) :=
  [("element", Json.string p.element), ("origin", p.origin.json), ("priority", p.priority.json),
    ("patterns", Json.array (p.patterns.map Json.string))]

def json (p : Production) : String := Json.object p.members

def record (p : Production) : String :=
  Record.line "SyntaxInfo"
    [("element", quote p.element), ("origin", p.origin.record), ("priority", p.priority.record),
      ("patterns", Record.list (p.patterns.map quote))]

end Production

namespace Structure

/-- The members of the common part, then the node type. -/
def members (s : Structure) : List (String × String) :=
  s.base.members ++ [("node_type", s.nodeType.json)]

def json (s : Structure) : String := Json.object s.members

def record (s : Structure) : String :=
  Record.line "StructureInfo" [("base", s.base.record), ("node_type", s.nodeType.record)]

end Structure

namespace Expression

/-- The members of the common part, then the type that is returned and the kind. -/
def members (e : Expression) : List (String × String) :=
  e.base.members ++ [("return_type", Json.string e.returnType), ("kind", e.kind.json)]

def json (e : Expression) : String := Json.object e.members

def record (e : Expression) : String :=
  Record.line "ExpressionInfo"
    [("base", e.base.record), ("return_type", quote e.returnType), ("kind", e.kind.record)]

end Expression

end GrammarRegistry
