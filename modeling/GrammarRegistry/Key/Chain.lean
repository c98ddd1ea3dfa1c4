-- The chain of a registration: every bucket that it lands in, with the descriptor seen as the
-- payload type of that bucket's key. The chain is settled before any bucket is touched.
import GrammarRegistry.Handle
import GrammarRegistry.Key.Basic
import GrammarRegistry.RegistryError

namespace GrammarRegistry.Key

variable {τ α : Type} [DecidableEq τ]

/-- The links above a key, nearest first. Each one widens the handle from the key's payload type
to its parent's; a handle that cannot make the step is reported under the name of the key where
the climb began and of the parent that it could not reach. -/
def climb (home : String) : Key τ → Handle τ α → Except RegistryError (List (KeyId × Handle τ α))
  | root .., _ => .ok []
  | child _ _ payload parent, h =>
    match h.widen? payload parent.payload with
    | none => .error (.payloadMismatch home parent.name)
    | some wide => (parent.climb home wide).map ((parent.id, wide) :: ·)

/-- The key's own link, then those above it. -/
def chain (k : Key τ) (h : Handle τ α) : Except RegistryError (List (KeyId × Handle τ α)) :=
  (k.climb k.name h).map ((k.id, h) :: ·)

/-- The descriptor, seen as the key's payload type. -/
def handle (k : Key τ) (d : Shared α) : Handle τ α := ⟨k.payload, d⟩

end GrammarRegistry.Key
