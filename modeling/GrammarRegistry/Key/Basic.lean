-- Keys name grammar categories. A key is told from others by its id and never by its name, and
-- a child key is bound to one parent when it is made, so that above each key there is one finite
-- line of ancestors.
import GrammarRegistry.Text.Record

namespace GrammarRegistry

open Text

/-- The identity of a key. Ids are given out in the order in which keys are made. -/
structure KeyId where
  value : Nat
  deriving DecidableEq

instance : Ord KeyId := ⟨fun a b => compare a.value b.value⟩

def KeyId.display (i : KeyId) : String := "KeyId(" ++ toString i.value ++ ")"

/-- A key for descriptors seen as `payload`. The name is for diagnostics only. -/
inductive Key (τ : Type) where
  | root (id : KeyId) (name : String) (payload : τ)
  | child (id : KeyId) (name : String) (payload : τ) (parent : Key τ)

namespace Key

variable {τ : Type}

def id : Key τ → KeyId
  | root i _ _ => i
  | child i _ _ _ => i

def name : Key τ → String
  | root _ n _ => n
  | child _ n _ _ => n

def payload : Key τ → τ
  | root _ _ p => p
  | child _ _ p _ => p

/-- The key that this one was bound to when it was made. -/
def parent? : Key τ → Option (Key τ)
  | root .. => none
  | child _ _ _ p => some p

def hasParent (k : Key τ) : Bool := k.parent?.isSome

/-- The keys above this one, its parent first. -/
def ancestors : Key τ → List (Key τ)
  | root .. => []
  | child _ _ _ p => p :: p.ancestors

/-- The key and its ancestors, from the key up. -/
def lineage (k : Key τ) : List (Key τ) := k :: k.ancestors

/-- The two are one and the same key. -/
def isSame (a b : Key τ) : Bool := a.id == b.id

/-- The key is `other` or lies below it. -/
def isWithin (k other : Key τ) : Bool := k.lineage.any (·.isSame other)

/-- Every key is within itself. -/
theorem isWithin_self (k : Key τ) : k.isWithin k = true := by simp [isWithin, lineage, isSame]

/-- The key as a record text. -/
def record (k : Key τ) : String :=
  Record.line "Key"
    [("name", quote k.name), ("id", toString k.id.value),
      ("parent", Record.optional (k.parent?.map name))]

end Key

end GrammarRegistry
