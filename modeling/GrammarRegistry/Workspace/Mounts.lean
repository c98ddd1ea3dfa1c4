-- Registries of a workspace: how they are put together and named, and how gates are set.
import GrammarRegistry.Workspace.Basic

namespace GrammarRegistry

/-- What a gate does with one kind of change: it lets it pass, or refuses it as a read-only
registry would, or for a payload type that does not fit. -/
inductive GateMode where
  | pass
  | unsupported
  | payload

/-- The error of a gate before a registry with this label. -/
def GateMode.refusal {τ : Type} (label : String) (op : Mutation) (k : Key τ) :
    GateMode → Option RegistryError
  | pass => none
  | unsupported => some (.unsupported label op k.name)
  | payload => some (.payloadMismatch k.name "gate")

/-- The policy of a gate with one mode for each kind of change. -/
def GateMode.policy {τ : Type} (label : String) (register unregister : GateMode) : Policy τ
  | .register, k => register.refusal label .register k
  | .unregister, k => unregister.refusal label .unregister k

namespace Workspace

/-- Names a registry and gives its label. -/
def mount (w : Workspace) (id : String) (m : Mount) : Except Fault (Workspace × String) := do
  return ({ w with mounts := ← enter w.mounts id m }, m.registry.label)

def mountPlain (w : Workspace) (id label : String) : Except Fault (Workspace × String) :=
  let (s, r, h) := Registry.openPlain w.holdings label
  { w with holdings := h }.mount id ⟨r, some s⟩

/-- Names a view of a registry of any make. -/
def mountView (w : Workspace) (id backing : String) : Except Fault (Workspace × String) := do
  w.mount id ⟨.view (← w.findMount backing).registry, none⟩

/-- Names a view of a plain registry. -/
def mountSharedView (w : Workspace) (id backing : String) : Except Fault (Workspace × String) := do
  match (← w.findMount backing).registry with
  | .plain s => w.mount id ⟨.view (.plain s), none⟩
  | _ => throw .misuse

/-- Names a second view of what a view reads. -/
def mountViewCopy (w : Workspace) (id source : String) : Except Fault (Workspace × String) := do
  match (← w.findMount source).registry with
  | .view backing => w.mount id ⟨.view backing, none⟩
  | _ => throw .misuse

/-- Names a child registry with a storage of its own. -/
def mountChild (w : Workspace) (id parent : String) : Except Fault (Workspace × String) := do
  let (s, r, h) := Registry.openChild w.holdings (← w.findMount parent).registry
  { w with holdings := h }.mount id ⟨r, some s⟩

/-- Names a child registry over two registries that are there already, maybe the same one. -/
def mountPair (w : Workspace) (id parent child : String) : Except Fault (Workspace × String) := do
  w.mount id ⟨.child (← w.findMount parent).registry (← w.findMount child).registry, none⟩

/-- Names a gate before a registry. -/
def mountGate (w : Workspace) (id inner : String) : Except Fault (Workspace × String) := do
  let (_, r, h) := Registry.openGate w.holdings (← w.findMount inner).registry
  { w with holdings := h }.mount id ⟨r, none⟩

/-- Tells a gate what to refuse. -/
def setGate (w : Workspace) (id : String) (register unregister : GateMode) :
    Except Fault Workspace := do
  match (← w.findMount id).registry with
  | .gate g inner =>
    let policy := GateMode.policy inner.label register unregister
    return { w with holdings := w.holdings.setPolicy g policy }
  | _ => throw .misuse

end Workspace

end GrammarRegistry
