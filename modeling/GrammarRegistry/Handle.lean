-- Handles on shared values. A value that is shared has an identity of its own: two of them with
-- equal contents are still two. A handle sees a shared value as one payload type, and widening
-- changes what it is seen as, never which value it is.

namespace GrammarRegistry

/-- A value with an identity. -/
structure Shared (α : Type) where
  id : Nat
  value : α

/-- The two are one and the same value. Contents play no part. -/
def Shared.isSame {α : Type} (a b : Shared α) : Bool := a.id == b.id

/-- A shared value, seen as a payload type. -/
structure Handle (τ α : Type) where
  payload : τ
  info : Shared α

namespace Handle

variable {τ α : Type} [DecidableEq τ]

/-- The step from one payload type to another. It is made for handles that see their value as
the first type, and for no others. -/
def widen? (source target : τ) (h : Handle τ α) : Option (Handle τ α) :=
  if h.payload = source then some { h with payload := target } else none

/-- The handle, if it sees its value as the type that is asked for. -/
def at? (t : τ) (h : Handle τ α) : Option (Handle τ α) :=
  if h.payload = t then some h else none

end Handle

end GrammarRegistry
