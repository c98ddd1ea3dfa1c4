-- Drafts of descriptors. A draft takes calls in any order and number, each of which adds
-- patterns or settles a choice, and is checked once, when it is built. Patterns add up in the
-- order of the calls; of two calls that settle the same choice the last one counts.
import GrammarRegistry.Descriptor.Basic
import GrammarRegistry.Descriptor.DraftError
import GrammarRegistry.Text.Blank

namespace GrammarRegistry

/-! ## Productions -/

/-- What can be said of a production while it is drafted. -/
inductive ProductionCall where
  | pattern (text : String)
  | patterns (texts : List String)
  | priority (p : Priority)
  | origin (o : Origin)

structure ProductionDraft where
  element : String
  origin : Origin
  priority : Priority
  patterns : List String

namespace ProductionDraft

/-- A draft that only names its element type. -/
def new (element : String) : ProductionDraft := ⟨element, default, default, []⟩

/-- The draft with more patterns, after those it has. -/
def addPatterns (d : ProductionDraft) (texts : List String) : ProductionDraft :=
  { d with patterns := d.patterns ++ texts }

def apply (d : ProductionDraft) : ProductionCall → ProductionDraft
  | .pattern text => d.addPatterns [text]
  | .patterns texts => d.addPatterns texts
  | .priority p => { d with priority := p }
  | .origin o => { d with origin := o }

/-- The draft that a run of calls leaves. -/
def ofCalls (element : String) (calls : List ProductionCall) : ProductionDraft :=
  calls.foldl apply (new element)

/-- Checks the draft: the name first, then that there are patterns, then each pattern. All texts
are kept as they were given. -/
def build (d : ProductionDraft) : Except DraftError Production :=
  if Text.isBlank d.element then .error .emptyElement
  else if d.patterns.isEmpty then .error (.noPatterns d.element)
  else match d.patterns.findIdx? Text.isBlank with
    | some index => .error (.blankPattern d.element index)
    | none => .ok ⟨d.element, d.origin, d.priority, d.patterns⟩

end ProductionDraft

/-! ## Structures -/

/-- What can be said of a structure while it is drafted. -/
inductive StructureCall where
  | pattern (text : String)
  | priority (p : Priority)
  | origin (o : Origin)
  | nodeType (n : NodeType)

structure StructureDraft where
  base : ProductionDraft
  nodeType : NodeType

namespace StructureDraft

def new (element : String) : StructureDraft := ⟨.new element, default⟩

def apply (d : StructureDraft) : StructureCall → StructureDraft
  | .pattern text => { d with base := d.base.apply (.pattern text) }
  | .priority p => { d with base := d.base.apply (.priority p) }
  | .origin o => { d with base := d.base.apply (.origin o) }
  | .nodeType n => { d with nodeType := n }

/-- The draft that a run of calls leaves. -/
def ofCalls (element : String) (calls : List StructureCall) : StructureDraft :=
  calls.foldl apply (new element)

def build (d : StructureDraft) : Except DraftError Structure :=
  match d.base.build with
  | .error e => .error e
  | .ok base => .ok ⟨base, d.nodeType⟩

end StructureDraft

/-! ## Expressions -/

/-- What can be said of an expression while it is drafted. Its priority is not among them: it
follows the kind. -/
inductive ExpressionCall where
  | pattern (text : String)
  | patterns (texts : List String)
  | origin (o : Origin)
  | kind (k : ExpressionKind)

structure ExpressionDraft where
  base : ProductionDraft
  returnType : String
  kind : ExpressionKind

namespace ExpressionDraft

def new (element returnType : String) : ExpressionDraft := ⟨.new element, returnType, default⟩

def apply (d : ExpressionDraft) : ExpressionCall → ExpressionDraft
  | .pattern text => { d with base := d.base.apply (.pattern text) }
  | .patterns texts => { d with base := d.base.apply (.patterns texts) }
  | .origin o => { d with base := d.base.apply (.origin o) }
  | .kind k => { d with kind := k }

/-- The draft that a run of calls leaves. -/
def ofCalls (element returnType : String) (calls : List ExpressionCall) : ExpressionDraft :=
  calls.foldl apply (new element returnType)

/-- Checks the common part under the priority of the kind that was settled last, then the type
that is returned. -/
def build (d : ExpressionDraft) : Except DraftError Expression :=
  match (d.base.apply (.priority d.kind.priority)).build with
  | .error e => .error e
  | .ok base =>
    if Text.isBlank d.returnType then .error (.emptyReturnType base.element)
    else .ok ⟨base, d.returnType, d.kind⟩

end ExpressionDraft

/-! ## Drafts of any type -/

/-- A draft of a descriptor of any type. -/
inductive Draft where
  | production (d : ProductionDraft)
  | structural (d : StructureDraft)
  | expression (d : ExpressionDraft)
  | annotated (d : ProductionDraft) (note : String)

/-- A note is free text, so an annotated production is checked as its production is. -/
def Draft.build : Draft → Except DraftError Descriptor
  | .production d => d.build.map .production
  | .structural d => d.build.map .structural
  | .expression d => d.build.map .expression
  | .annotated d note => d.build.map (.annotated · note)

end GrammarRegistry
