-- Why a registry refuses a change. Queries never fail, and to remove what is not there is no
-- error: only the registry's own make, or a descriptor of a wrong type, can be in the way.
import GrammarRegistry.Text.Record

namespace GrammarRegistry

open Text

/-- The two changes that a registry can be asked for. -/
inductive Mutation where
  | register
  | unregister
  deriving DecidableEq

/-- The word for the change in messages. -/
def Mutation.word : Mutation → String
  | register => "register"
  | unregister => "unregister"

def Mutation.record : Mutation → String
  | register => "Register"
  | unregister => "Unregister"

/-- The reason for a refusal. Registries go by their labels and keys by their names. -/
inductive RegistryError where
  /-- The registry is read-only. -/
  | unsupported (registry : String) (operation : Mutation) (key : String)
  /-- A descriptor that was registered under the key is not of the type that leads on to the
  ancestor. -/
  | payloadMismatch (key ancestor : String)
  deriving DecidableEq

namespace RegistryError

/-- The registry cannot be written at all, whatever the descriptor. -/
def isUnsupported : RegistryError → Bool
  | unsupported .. => true
  | payloadMismatch .. => false

/-- The message for the caller, for a choice of the characters that quoted names hide. -/
def messageBy (hidden : Char → Bool) : RegistryError → String
  | unsupported registry operation key =>
    "cannot " ++ operation.word ++ " under key " ++ quoteBy hidden key ++ ": registry " ++
      quoteBy hidden registry ++ " is read-only"
  | payloadMismatch key ancestor =>
    "descriptor registered under key " ++ quoteBy hidden key ++ " does not fit ancestor key " ++
      quoteBy hidden ancestor

/-- The message for the caller. -/
def message : RegistryError → String := messageBy isHidden

/-- The error as a record text. -/
def record : RegistryError → String
  | unsupported registry operation key =>
    Record.line "Unsupported"
      [("registry", quote registry), ("operation", operation.record), ("key", quote key)]
  | payloadMismatch key ancestor =>
    Record.line "PayloadMismatch" [("key", quote key), ("ancestor", quote ancestor)]

end RegistryError

end GrammarRegistry
