-- Keys and descriptors of a workspace: how they are made and named.
import GrammarRegistry.Workspace.Basic

namespace GrammarRegistry.Workspace

/-! ## Keys -/

/-- Names a handle. -/
def nameKey (w : Workspace) (name : String) (k : KeyHandle Payload) : Except Fault Workspace := do
  return { w with keys := ← enter w.keys name k }

/-- Makes a key with no parent. -/
def addRootKey (w : Workspace) (id : String) (payload : Payload) (name : String) :
    Except Fault (Workspace × KeyHandle Payload) := do
  let (k, forest) := w.forest.openRoot name payload
  return (← { w with forest := forest }.nameKey id k, k)

/-- Makes a key below another one. -/
def addChildKey (w : Workspace) (id : String) (payload : Payload) (parent name : String) :
    Except Fault (Workspace × KeyHandle Payload) := do
  match w.forest.openChild? (← w.findKey parent).key name payload with
  | none => throw .typeMismatch
  | some (k, forest) => return (← { w with forest := forest }.nameKey id k, k)

/-- Makes a line of keys, each below the one before and the first below `parent`. They are
numbered from 0. Gives the name of the last one, or of the parent if there is none. -/
def addKeyLine (w : Workspace) (id : String) (payload : Payload) (parent name : String)
    (count : Nat) : Except Fault (Workspace × String) := do
  let _ ← w.findKey parent
  (List.range count).foldlM
    (fun made i => do
      let next := id ++ toString i
      let (w, _) ← made.1.addChildKey next payload made.2 (name ++ toString i)
      return (w, next))
    (w, parent)

/-- Names a second handle of the same kind. -/
def copyKey (w : Workspace) (id source : String) :
    Except Fault (Workspace × KeyHandle Payload) := do
  let k := (← w.findKey source).copy
  return (← w.nameKey id k, k)

/-- Names the plain key of a child key. -/
def plainKey (w : Workspace) (id source : String) :
    Except Fault (Workspace × KeyHandle Payload) := do
  let k ← w.findKey source
  if k.isChild then return (← w.nameKey id k.toPlain, k.toPlain) else throw .misuse

/-! ## Descriptors -/

/-- Builds a draft and gives the descriptor an identity of its own. -/
def declare (w : Workspace) (id : String) (draft : Draft) : Except Fault Workspace := do
  match draft.build with
  | .error e => throw (.draft e)
  | .ok d =>
    let made : Shared Declared := ⟨w.descriptors.length, ⟨id, d⟩⟩
    return { w with descriptors := ← enter w.descriptors id made }

end GrammarRegistry.Workspace
