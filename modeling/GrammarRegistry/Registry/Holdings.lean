-- Holdings: what all the storages hold and what all the gates refuse, at one moment. Registries
-- are put together once and for all; holdings are what changes. A storage that occurs in two
-- registries is one storage.
import GrammarRegistry.Catalog.Basic

namespace GrammarRegistry

/-- A plain storage, known by its number. The label is for diagnostics. -/
structure Storage where
  id : Nat
  label : String
  deriving DecidableEq

/-- A gate, known by its number. -/
structure Gate where
  id : Nat
  deriving DecidableEq

/-- What a gate refuses, and with which error. All else it lets through. -/
abbrev Policy (τ : Type) := Mutation → Key τ → Option RegistryError

/-- Refuses nothing. -/
def Policy.permissive {τ : Type} : Policy τ := fun _ _ => none

/-- The state of every storage and gate, and the numbers that new ones get. -/
structure Holdings (τ α : Type) where
  catalogs : Nat → Catalog τ α
  policies : Nat → Policy τ
  storages : Nat
  gates : Nat

namespace Holdings

variable {τ α : Type}

/-- No storage and no gate yet. -/
def empty : Holdings τ α := ⟨fun _ => .empty, fun _ => .permissive, 0, 0⟩

def catalog (h : Holdings τ α) (s : Storage) : Catalog τ α := h.catalogs s.id

def policy (h : Holdings τ α) (g : Gate) : Policy τ := h.policies g.id

/-- The holdings with another catalog in one storage. -/
def setCatalog (h : Holdings τ α) (s : Storage) (c : Catalog τ α) : Holdings τ α :=
  { h with catalogs := fun i => if i = s.id then c else h.catalogs i }

/-- The holdings with another policy at one gate. -/
def setPolicy (h : Holdings τ α) (g : Gate) (p : Policy τ) : Holdings τ α :=
  { h with policies := fun i => if i = g.id then p else h.policies i }

/-- Opens a storage that no registry has yet. It is empty. -/
def openStorage (h : Holdings τ α) (label : String) : Storage × Holdings τ α :=
  let s : Storage := ⟨h.storages, label⟩
  (s, { h.setCatalog s .empty with storages := h.storages + 1 })

/-- Opens a gate that no registry has yet. It lets everything through. -/
def openGate (h : Holdings τ α) : Gate × Holdings τ α :=
  let g : Gate := ⟨h.gates⟩
  (g, { h.setPolicy g .permissive with gates := h.gates + 1 })

@[simp] theorem catalog_setCatalog_self (h : Holdings τ α) (s : Storage) (c : Catalog τ α) :
    (h.setCatalog s c).catalog s = c := by
  simp [catalog, setCatalog]

theorem setCatalog_ne {h : Holdings τ α} {s : Storage} {c : Catalog τ α} (hne : h.catalog s ≠ c) :
    h.setCatalog s c ≠ h := by
  intro hsame
  refine hne ?_
  rw [← catalog_setCatalog_self h s c, hsame]

@[simp] theorem policy_setCatalog (h : Holdings τ α) (s : Storage) (c : Catalog τ α) (g : Gate) :
    (h.setCatalog s c).policy g = h.policy g := rfl

@[simp] theorem catalog_setPolicy (h : Holdings τ α) (g : Gate) (p : Policy τ) (s : Storage) :
    (h.setPolicy g p).catalog s = h.catalog s := rfl

end Holdings

end GrammarRegistry
