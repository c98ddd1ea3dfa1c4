-- What registries report while they work: one event for each thing that happens, in the order
-- in which it happens. Plain storages report on the trace level, refusals and undone changes on
-- the debug level, and a change that could not be undone is a warning.
import GrammarRegistry.RegistryError

namespace GrammarRegistry

inductive Level where
  | trace
  | debug
  | warn
  deriving DecidableEq

/-- An event. Registries go by their labels and keys by their names. -/
inductive Event where
  /-- A plain storage took a registration. -/
  | registered (registry key : String) (ticket buckets : Nat)
  /-- A plain storage gave up a registration. -/
  | unregistered (registry key : String) (ticket buckets : Nat)
  /-- A plain storage was asked to give up what it does not hold. -/
  | absentIgnored (registry key : String)
  /-- A view refused a change. -/
  | changeRejected (registry : String) (operation : Mutation) (key : String)
  /-- The child side refused what the parent side had taken. -/
  | childRejected (registry parent key : String) (error : RegistryError)
  /-- The parent side did not give up what it had taken. -/
  | rollbackFailed (parent key : String) (error : RegistryError)
  /-- The parent side refused to give up what the child side had given up. -/
  | parentRejected (registry parent key : String) (error : RegistryError)
  /-- The child side did not take back what it had given up. -/
  | restoreFailed (registry key : String) (error : RegistryError)
  deriving DecidableEq

/-- The value of an event's field. -/
inductive EventField where
  | text (s : String)
  | number (n : Nat)
  deriving DecidableEq

namespace Event

def level : Event → Level
  | registered .. | unregistered .. | absentIgnored .. => .trace
  | changeRejected .. | childRejected .. | parentRejected .. => .debug
  | rollbackFailed .. | restoreFailed .. => .warn

def message : Event → String
  | registered .. => "registered syntax"
  | unregistered .. => "unregistered syntax"
  | absentIgnored .. => "unregister of absent syntax ignored"
  | changeRejected .. => "rejected mutation on read-only registry"
  | childRejected .. => "child rejected registration, rolling back parent"
  | rollbackFailed .. => "parent rollback failed"
  | parentRejected .. => "parent rejected unregistration, restoring child"
  | restoreFailed .. => "child restore failed"

/-- The event's fields by name. Errors are given by their messages. -/
def fields : Event → List (String × EventField)
  | registered registry key ticket buckets | unregistered registry key ticket buckets =>
    [("registry", .text registry), ("key", .text key), ("ticket", .number ticket),
      ("buckets", .number buckets)]
  | absentIgnored registry key => [("registry", .text registry), ("key", .text key)]
  | changeRejected registry operation key =>
    [("registry", .text registry), ("operation", .text operation.word), ("key", .text key)]
  | childRejected registry parent key error | parentRejected registry parent key error =>
    [("registry", .text registry), ("parent", .text parent), ("key", .text key),
      ("error", .text error.message)]
  | rollbackFailed parent key error =>
    [("parent", .text parent), ("key", .text key), ("error", .text error.message)]
  | restoreFailed registry key error =>
    [("registry", .text registry), ("key", .text key), ("error", .text error.message)]

end Event

def Level.word : Level → String
  | trace => "TRACE"
  | debug => "DEBUG"
  | warn => "WARN"

end GrammarRegistry
