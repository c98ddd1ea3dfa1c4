-- What can be read off a descriptor that is seen as a payload type: its own JSON text where the
-- type is its own, the note where it is seen as something documented, and the common part alone
-- where it is seen as an element.
import GrammarRegistry.Descriptor.Rendering
import GrammarRegistry.Payload

namespace GrammarRegistry

inductive Excerpt where
  | json (text : String)
  | noted (note json : String)
  deriving DecidableEq

namespace Descriptor

/-- The payload type that the descriptor has by itself. -/
def payload : Descriptor → Payload
  | production _ => .production
  | structural _ => .structural
  | expression _ => .expression
  | annotated .. => .annotated

/-- The descriptor can be seen as the payload type. -/
def fits (d : Descriptor) (t : Payload) : Bool := d.payload.fits t

/-- What shows of the descriptor under a payload type. -/
def excerpt : Payload → Descriptor → Excerpt
  | .structural, structural s => .json s.json
  | .expression, expression e => .json e.json
  | .annotated, annotated p note => .noted note p.json
  | .documented, annotated p note => .noted note p.json
  | _, d => .json d.base.json

end Descriptor

end GrammarRegistry
