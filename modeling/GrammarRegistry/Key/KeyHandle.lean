-- What callers hold of a key: the plain key, or a child key, which also remembers the parent
-- that it was bound to. A child key can be turned into the plain key, never back.
import GrammarRegistry.Key.Forest

namespace GrammarRegistry

inductive KeyHandle (τ : Type) where
  | plain (key : Key τ)
  | child (key parent : Key τ)

namespace KeyHandle

variable {τ : Type}

/-- The key itself, which registries are asked about. -/
def key : KeyHandle τ → Key τ
  | plain k => k
  | child k _ => k

/-- The parent that a child key remembers. A plain key remembers none, even if it was made below
a parent. -/
def parent? : KeyHandle τ → Option (Key τ)
  | plain _ => none
  | child _ p => some p

/-- A second handle of the same kind. -/
def copy : KeyHandle τ → KeyHandle τ
  | plain k => plain k
  | child k p => child k p

/-- The plain key of a child key. A plain key is left as it is. -/
def toPlain (h : KeyHandle τ) : KeyHandle τ := plain h.key

/-- The handle holds a child key. -/
def isChild : KeyHandle τ → Bool
  | plain _ => false
  | child .. => true

/-- The handle as a record text. -/
def record : KeyHandle τ → String
  | plain k => k.record
  | child k _ => Text.Record.wrapped "ChildKey" k.record

end KeyHandle

namespace Forest

variable {τ : Type}

/-- Makes a root key and gives a handle on it. -/
def openRoot (f : Forest τ) (name : String) (payload : τ) : KeyHandle τ × Forest τ :=
  let made := f.root name payload
  (.plain made.1, made.2)

/-- Makes a child key and gives a handle on it that remembers the parent. -/
def openChild? [PayloadTypes τ] (f : Forest τ) (parent : Key τ) (name : String) (payload : τ) :
    Option (KeyHandle τ × Forest τ) :=
  (f.child? parent name payload).map fun made => (.child made.1 parent, made.2)

end Forest

end GrammarRegistry
