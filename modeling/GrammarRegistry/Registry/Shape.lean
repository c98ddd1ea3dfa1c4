-- The make of a registry, read off without asking it for anything: which storages occur in it,
-- which of them a change can reach, and which of its views a change meets first.
import GrammarRegistry.Registry.Basic

namespace GrammarRegistry.Registry

/-- Every storage that occurs in the registry. -/
def storages : Registry → List Storage
  | plain s => [s]
  | view backing => backing.storages
  | child p c => p.storages ++ c.storages
  | gate _ inner => inner.storages

/-- The storages that are not beneath a view, so that a change can reach them. -/
def writable : Registry → List Storage
  | plain s => [s]
  | view _ => []
  | child p c => p.writable ++ c.writable
  | gate _ inner => inner.writable

/-- The gates that are not beneath a view. -/
def gates : Registry → List Gate
  | plain _ => []
  | view _ => []
  | child p c => p.gates ++ c.gates
  | gate g inner => g :: inner.gates

/-- A view occurs in the registry. -/
def hasView : Registry → Bool
  | plain _ => false
  | view _ => true
  | child p c => p.hasView || c.hasView
  | gate _ inner => inner.hasView

/-- The label under which the first view that a change meets refuses it. A registration meets the
parent side first and a removal the child side, and neither looks beneath a view. -/
def firstView? : Mutation → Registry → Option String
  | _, plain _ => none
  | _, view backing => some backing.label
  | .register, child p c => (firstView? .register p).or (firstView? .register c)
  | .unregister, child p c => (firstView? .unregister c).or (firstView? .unregister p)
  | op, gate _ inner => firstView? op inner

end GrammarRegistry.Registry
