-- Changes that go through a workspace's registries, and what can be kept of a registry's state
-- while changes go on.
import GrammarRegistry.Workspace.Queries

namespace GrammarRegistry.Workspace

/-! ## Changes -/

/-- What a change leaves, gives and reports. -/
structure Report (β : Type) where
  workspace : Workspace
  result : Except Fault β
  events : List Event

/-- The report on a change that is not even begun. -/
def unbegun {β : Type} (w : Workspace) (fault : Fault) : Report β := ⟨w, .error fault, []⟩

/-- Asks a registry for a change a number of times, up to the first refusal. -/
def change (w : Workspace) (op : Mutation) (registry key descriptor : String) (times : Nat) :
    Report Unit :=
  match w.findMount registry, w.findPair key descriptor with
  | .error fault, _ => w.unbegun fault
  | _, .error fault => w.unbegun fault
  | .ok m, .ok (k, d) =>
    let o := m.registry.repeated op k d times w.holdings
    ⟨{ w with holdings := o.holdings }, o.result.mapError .registry, o.events⟩

/-- Lets some workers each ask a registry's own storage for the same change a number of times, and
gives the size that is left. The order of equal changes plays no part. -/
def changeTogether (w : Workspace) (op : Mutation) (registry key descriptor : String)
    (workers times : Nat) : Report Nat :=
  match w.findStorage registry, w.findPair key descriptor with
  | .error fault, _ => w.unbegun fault
  | _, .error fault => w.unbegun fault
  | .ok s, .ok (k, d) =>
    let o := (Registry.plain s).repeated op k d (workers * times) w.holdings
    ⟨{ w with holdings := o.holdings },
      (o.result.mapError .registry).map fun _ => (o.holdings.catalog s).size, o.events⟩

/-! ## Keeping -/

/-- Keeps what a registry lists now, under a key or in all. -/
def keep (w : Workspace) (id registry : String) (key : Option String) :
    Except Fault (Workspace × List Item) := do
  let items ← match key with
    | some k => w.under registry k
    | none => w.elements registry
  return ({ w with kept := ← enter w.kept id items }, items)

/-- Pins the catalog of a registry's own storage as it is now. -/
def pin (w : Workspace) (id registry : String) : Except Fault Workspace := do
  return { w with pins := ← enter w.pins id (← w.ownCatalog registry) }

/-- Names a second pin of the same catalog. -/
def copyPin (w : Workspace) (id source : String) : Except Fault Workspace := do
  return { w with pins := ← enter w.pins id (← w.findPin source) }

end GrammarRegistry.Workspace
