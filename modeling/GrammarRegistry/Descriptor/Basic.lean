-- Descriptors of grammar constructs. A descriptor names the type of element that a pattern
-- produces, says who contributed it, and lists the patterns that the parser tries.

namespace GrammarRegistry

/-! ## What descriptors are made of -/

/-- Who contributed a construct: the scripting runtime itself, or an addon by name. -/
inductive Origin where
  | builtin
  | addon (name : String)
  deriving DecidableEq

instance : Inhabited Origin := ⟨.builtin⟩

/-- When the parser tries a construct: patterns of plain text first, patterns that mix text and
expressions next, patterns that match any input last. -/
inductive Priority where
  | simple
  | combined
  | catchAll
  deriving DecidableEq

instance : Inhabited Priority := ⟨.combined⟩

/-- The place of a priority in the parser's order, from 0. -/
def Priority.rank : Priority → Nat
  | .simple => 0
  | .combined => 1
  | .catchAll => 2

instance : Ord Priority := ⟨fun a b => compare a.rank b.rank⟩

instance : LE Priority := ⟨fun a b => a.rank ≤ b.rank⟩

instance (a b : Priority) : Decidable (a ≤ b) := inferInstanceAs (Decidable (a.rank ≤ b.rank))

instance : Min Priority := minOfLe

instance : Max Priority := maxOfLe

/-- The form of script node that a structure is declared as: a line on its own, a header with an
indented body, or either. -/
inductive NodeType where
  | line
  | block
  | either
  deriving DecidableEq

instance : Inhabited NodeType := ⟨.block⟩

/-- A single line may declare the structure. -/
def NodeType.allowsLine : NodeType → Bool
  | .line => true
  | .block => false
  | .either => true

/-- A header with a body may declare the structure. -/
def NodeType.allowsBlock : NodeType → Bool
  | .line => false
  | .block => true
  | .either => true

/-- How an expression comes by its value. -/
inductive ExpressionKind where
  | simple
  | event
  | combined
  | property
  | catchAll
  deriving DecidableEq

instance : Inhabited ExpressionKind := ⟨.combined⟩

/-- The priority that the patterns of an expression of this kind have. -/
def ExpressionKind.priority : ExpressionKind → Priority
  | .simple => .simple
  | .event => .simple
  | .combined => .combined
  | .property => .combined
  | .catchAll => .catchAll

/-! ## Descriptors -/

/-- The part that every descriptor has: the element type that is produced, and the patterns in
the order of their declaration. -/
structure Production where
  element : String
  origin : Origin
  priority : Priority
  patterns : List String
  deriving DecidableEq

/-- A top-level structure, such as an event trigger or a command. -/
structure Structure where
  base : Production
  nodeType : NodeType
  deriving DecidableEq

/-- An expression, which gives a value of the type that it returns. -/
structure Expression where
  base : Production
  returnType : String
  kind : ExpressionKind
  deriving DecidableEq

/-- A descriptor of any type. An annotated production is a plugin's own type: a production with a
note on its use. -/
inductive Descriptor where
  | production (p : Production)
  | structural (s : Structure)
  | expression (e : Expression)
  | annotated (p : Production) (note : String)
  deriving DecidableEq

/-- The part that the descriptor has in common with all others. -/
def Descriptor.base : Descriptor → Production
  | .production p => p
  | .structural s => s.base
  | .expression e => e.base
  | .annotated p _ => p

end GrammarRegistry
