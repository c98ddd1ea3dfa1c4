-- What can be asked of a workspace. Questions change nothing.
import GrammarRegistry.Registry.Record
import GrammarRegistry.Workspace.Basic

namespace GrammarRegistry.Workspace

/-! ## Keys -/

/-- Two handles compared: are they of one key, and how do their ids lie. Handles of different
payload types cannot be compared. -/
def compareKeys (w : Workspace) (a b : String) : Except Fault (Bool × Ordering) := do
  let x := (← w.findKey a).key
  let y := (← w.findKey b).key
  if x.payload = y.payload then return (x.isSame y, compare x.id y.id) else throw .typeMismatch

/-! ## Registries -/

def under (w : Workspace) (registry key : String) : Except Fault (List Item) := do
  return (← w.findMount registry).registry.under w.holdings (← w.findKey key).key

def elements (w : Workspace) (registry : String) : Except Fault (List Item) := do
  return (← w.findMount registry).registry.elements w.holdings

def label (w : Workspace) (registry : String) : Except Fault String := do
  return (← w.findMount registry).registry.label

/-- The catalog in a registry's own storage. -/
def ownCatalog (w : Workspace) (registry : String) : Except Fault (Catalog Payload Declared) := do
  return w.holdings.catalog (← w.findStorage registry)

def contains (w : Workspace) (registry key descriptor : String) : Except Fault Bool := do
  let c ← w.ownCatalog registry
  let (k, d) ← w.findPair key descriptor
  return c.contains k d

/-- A registry as a record text, on one line or as a block. -/
def record (w : Workspace) (registry : String) (block : Bool) : Except Fault String := do
  let r := (← w.findMount registry).registry
  match if block then r.recordBlock? w.holdings else r.recordLine? w.holdings with
  | some text => return text
  | none => throw .misuse

/-- The parent side and the child side of a child registry, each with its label. -/
def sides (w : Workspace) (registry : String) :
    Except Fault ((String × List Item) × (String × List Item)) := do
  match (← w.findMount registry).registry with
  | .child p c => return ((p.label, p.elements w.holdings), (c.label, c.elements w.holdings))
  | _ => throw .misuse

/-! ## Pinned catalogs and kept lists -/

def findPin (w : Workspace) (pin : String) : Except Fault (Catalog Payload Declared) :=
  find w.pins pin

def pinnedUnder (w : Workspace) (pin key : String) : Except Fault (List Item) := do
  return (← w.findPin pin).under (← w.findKey key).key

def pinnedContains (w : Workspace) (pin key descriptor : String) : Except Fault Bool := do
  let c ← w.findPin pin
  let (k, d) ← w.findPair key descriptor
  return c.contains k d

def findKept (w : Workspace) (name : String) : Except Fault (List Item) := find w.kept name

/-! ## Everything at once -/

/-- One registry's elements, and what it lists under each named key that it lists something
under. -/
structure Overview where
  elements : List Item
  keys : List (String × List Item)

/-- What every registry lists. -/
def overview (w : Workspace) : List (String × Overview) :=
  w.mounts.map fun m =>
    let listed := w.keys.map fun k => (k.1, m.2.registry.under w.holdings k.2.key)
    (m.1, ⟨m.2.registry.elements w.holdings, listed.filter fun k => !k.2.isEmpty⟩)

end GrammarRegistry.Workspace
