-- The keys that exist. Keys are only ever added: a root on its own, a child below a key whose
-- payload type its own type fits. Ids count up from 0, so a parent is always older than its
-- children and no two keys share an id.
import GrammarRegistry.Key.Basic
import GrammarRegistry.Payload

namespace GrammarRegistry

/-- The keys that were made so far, oldest first. -/
structure Forest (τ : Type) where
  keys : List (Key τ)

namespace Forest

variable {τ : Type}

def empty : Forest τ := ⟨[]⟩

/-- The id that the next key gets. -/
def nextId (f : Forest τ) : KeyId := ⟨f.keys.length⟩

def add (f : Forest τ) (k : Key τ) : Forest τ := ⟨f.keys ++ [k]⟩

/-- Makes a key with no parent. -/
def root (f : Forest τ) (name : String) (payload : τ) : Key τ × Forest τ :=
  let k := Key.root f.nextId name payload
  (k, f.add k)

/-- Makes a key below `parent`. Nothing is made, and no id is used, if the payload type does not
fit the parent's. -/
def child? [PayloadTypes τ] (f : Forest τ) (parent : Key τ) (name : String) (payload : τ) :
    Option (Key τ × Forest τ) :=
  if PayloadTypes.fits payload parent.payload then
    let k := Key.child f.nextId name payload parent
    some (k, f.add k)
  else none

end Forest

end GrammarRegistry
