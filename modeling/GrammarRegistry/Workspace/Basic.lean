-- A workspace: keys, descriptors, registries and pinned catalogs under names of their user's
-- choice, and the holdings that they share. A name is used once in each table.
import GrammarRegistry.Descriptor.Draft
import GrammarRegistry.Descriptor.Excerpt
import GrammarRegistry.Key.BaseKeys
import GrammarRegistry.Registry.Change

namespace GrammarRegistry

/-- A descriptor with the name that it was declared under. -/
structure Declared where
  name : String
  descriptor : Descriptor

/-- A registry that was opened here, and the storage that is its own: that of a plain registry, or
the one that a child registry opened for itself. -/
structure Mount where
  registry : Registry
  own? : Option Storage

/-- What the workspace's registries list. -/
abbrev Item := Handle Payload Declared

structure Workspace where
  forest : Forest Payload
  keys : List (String × KeyHandle Payload)
  descriptors : List (String × Shared Declared)
  mounts : List (String × Mount)
  pins : List (String × Catalog Payload Declared)
  kept : List (String × List Item)
  holdings : Holdings Payload Declared

/-- Why a command is not carried out, or not in full. -/
inductive Fault where
  /-- A name is unknown or taken, or the thing named is of another make than the command needs. -/
  | misuse
  /-- A payload type does not fit the one that is asked for. -/
  | typeMismatch
  | draft (error : DraftError)
  | registry (error : RegistryError)

namespace Workspace

/-- The workspace before the first command: it has the base categories. -/
def initial : Workspace := ⟨BaseKeys.forest, BaseKeys.handles, [], [], [], [], .empty⟩

/-! ## Names -/

/-- What a name stands for. -/
def find {β : Type} (table : List (String × β)) (name : String) : Except Fault β :=
  match table.lookup name with
  | some x => .ok x
  | none => .error .misuse

/-- The table with one more name, which it must not have yet. -/
def enter {β : Type} (table : List (String × β)) (name : String) (x : β) :
    Except Fault (List (String × β)) :=
  match table.lookup name with
  | some _ => .error .misuse
  | none => .ok (table ++ [(name, x)])

def findKey (w : Workspace) (name : String) : Except Fault (KeyHandle Payload) := find w.keys name

def findMount (w : Workspace) (name : String) : Except Fault Mount := find w.mounts name

/-- The storage of a registry's own. -/
def findStorage (w : Workspace) (name : String) : Except Fault Storage := do
  match (← w.findMount name).own? with
  | some s => return s
  | none => throw .misuse

/-- A key and a descriptor that fits it. -/
def findPair (w : Workspace) (key descriptor : String) :
    Except Fault (Key Payload × Shared Declared) := do
  let k ← w.findKey key
  let d ← find w.descriptors descriptor
  if d.value.descriptor.fits k.key.payload then return (k.key, d) else throw .typeMismatch

end Workspace

end GrammarRegistry
