-- Payload types: what a key's descriptors are seen as. A type fits another when its descriptors
-- can be seen as descriptors of the other too. Every type fits itself; nothing more is promised,
-- not even that the relation carries over two steps.

namespace GrammarRegistry

/-- The types that descriptors are seen as, and the one that lists all elements of a registry. -/
class PayloadTypes (τ : Type) where
  fits : τ → τ → Bool
  fits_self (t : τ) : fits t t = true
  element : τ

/-- The payload types of grammar descriptors. An annotated production is also something
documented, and every descriptor is an element. -/
inductive Payload where
  | production
  | structural
  | expression
  | annotated
  | documented
  | element
  deriving DecidableEq

/-- A descriptor seen as the first type can be seen as the second. -/
def Payload.fits (source target : Payload) : Bool :=
  source = target || target = .element || (source = .annotated && target = .documented)

theorem Payload.fits_self (t : Payload) : t.fits t = true := by simp [Payload.fits]

instance : PayloadTypes Payload := ⟨Payload.fits, Payload.fits_self, .element⟩

end GrammarRegistry
