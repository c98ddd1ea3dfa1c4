-- Changes to registries. A child registry keeps its two sides in step by undoing: a registration
-- goes to the parent first and is taken back there if the child refuses; a removal goes to the
-- child first and is made good there if the parent refuses. The error of the refusal is the one
-- that is given, never that of the undoing.
import GrammarRegistry.Event
import GrammarRegistry.Registry.Basic

namespace GrammarRegistry

/-- What a change leaves, gives and reports. -/
structure Outcome (τ α : Type) where
  holdings : Holdings τ α
  result : Except RegistryError Unit
  events : List Event

/-- A change, as a function of the holdings that it meets. -/
abbrev Change (τ α : Type) := Holdings τ α → Outcome τ α

namespace Change

variable {τ α : Type}

/-- The change that is refused. Nothing is touched. -/
def refuse (error : RegistryError) (events : List Event) : Change τ α := fun h =>
  ⟨h, .error error, events⟩

/-- What a failed attempt to undo reports. -/
def reportFailure (event : RegistryError → Event) : Except RegistryError Unit → List Event
  | .ok _ => []
  | .error e => [event e]

/-- The first change, then the second if the first went through. If the second is refused, its
refusal is reported and `undo` is run; a refusal of `undo` is reported in turn. The error is that
of the change that was refused. -/
def andThen (first second undo : Change τ α) (refused undoFailed : RegistryError → Event) :
    Change τ α := fun h =>
  let a := first h
  match a.result with
  | .error _ => a
  | .ok _ =>
    let b := second a.holdings
    match b.result with
    | .ok _ => ⟨b.holdings, .ok (), a.events ++ b.events⟩
    | .error e =>
      let c := undo b.holdings
      ⟨c.holdings, .error e,
        a.events ++ b.events ++ [refused e] ++ c.events ++ reportFailure undoFailed c.result⟩

/-- The change that changes nothing. -/
def nothing : Change τ α := fun h => ⟨h, .ok (), []⟩

end Change

/-! ## Plain storages -/

namespace Storage

variable {τ α : Type}

/-- Registers in the storage's catalog. -/
def register [DecidableEq τ] [PayloadTypes τ] (s : Storage) (k : Key τ) (d : Shared α) :
    Change τ α := fun h =>
  match (h.catalog s).register k d with
  | .error e => ⟨h, .error e, []⟩
  | .ok (c, receipt) =>
    ⟨h.setCatalog s c, .ok (), [.registered s.label k.name receipt.ticket receipt.buckets]⟩

/-- Removes from the storage's catalog. Nothing to remove is no error. -/
def unregister (s : Storage) (k : Key τ) (d : Shared α) : Change τ α := fun h =>
  match (h.catalog s).unregister? k d with
  | none => ⟨h, .ok (), [.absentIgnored s.label k.name]⟩
  | some (c, receipt) =>
    ⟨h.setCatalog s c, .ok (), [.unregistered s.label k.name receipt.ticket receipt.buckets]⟩

end Storage

/-! ## Registries of every make -/

namespace Registry

variable {τ α : Type} [DecidableEq τ] [PayloadTypes τ]

/-- Asks a registry for a change of one descriptor under one key. What the child side is to take
back after a refused removal is settled before anything is removed: the descriptor, under the key
that was asked for, if the child side listed it there. -/
def change (k : Key τ) (d : Shared α) : Mutation → Registry → Change τ α
  | .register, plain s => s.register k d
  | .unregister, plain s => s.unregister k d
  | op, view backing =>
    Change.refuse (.unsupported backing.label op k.name) [.changeRejected backing.label op k.name]
  | op, gate g inner => fun h =>
    match h.policy g op k with
    | some e => Change.refuse e [] h
    | none => change k d op inner h
  | .register, child p c =>
    Change.andThen (change k d .register p) (change k d .register c) (change k d .unregister p)
      (.childRejected c.label p.label k.name) (.rollbackFailed p.label k.name)
  | .unregister, child p c => fun h =>
    let restore := if c.lists h k d then change k d .register c else Change.nothing
    Change.andThen (change k d .unregister c) (change k d .unregister p) restore
      (.parentRejected c.label p.label k.name) (.restoreFailed c.label k.name) h

/-- Appends a descriptor under a key and all its ancestors. -/
def register (r : Registry) (k : Key τ) (d : Shared α) : Change τ α := change k d .register r

/-- Removes the newest registration of a descriptor that is visible under a key. -/
def unregister (r : Registry) (k : Key τ) (d : Shared α) : Change τ α := change k d .unregister r

/-- Makes the same change a number of times, up to the first refusal. -/
def repeated (op : Mutation) (r : Registry) (k : Key τ) (d : Shared α) : Nat → Change τ α
  | 0 => Change.nothing
  | n + 1 => fun h =>
    let first := change k d op r h
    match first.result with
    | .error _ => first
    | .ok _ =>
      let rest := repeated op r k d n first.holdings
      { rest with events := first.events ++ rest.events }

end Registry

end GrammarRegistry
