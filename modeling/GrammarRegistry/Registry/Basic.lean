-- Registries, put together from plain storages. A view reads through to its backing and refuses
-- every change; a child registry answers from its child side and carries each change to its
-- parent side too; a gate passes everything on to its inner registry unless its policy refuses.
import GrammarRegistry.Registry.Holdings

namespace GrammarRegistry

/-- A registry, by the way it is put together. -/
inductive Registry where
  | plain (storage : Storage)
  | view (backing : Registry)
  | child (parent child : Registry)
  | gate (gate : Gate) (inner : Registry)
  deriving DecidableEq

namespace Registry

variable {τ α : Type}

/-- The label of storages that are given none. -/
def defaultLabel : String := "syntax"

/-- The name of a registry in diagnostics. A child registry goes by its child side. -/
def label : Registry → String
  | plain s => s.label
  | view backing => backing.label
  | child _ c => c.label
  | gate _ inner => inner.label

/-- The label of the storage that a child registry opens for itself. -/
def childLabel (parent : Registry) : String := parent.label ++ "/child"

/-- One element for each live registration, oldest first. -/
def elements (h : Holdings τ α) : Registry → List (Handle τ α)
  | plain s => (h.catalog s).elements
  | view backing => backing.elements h
  | child _ c => c.elements h
  | gate _ inner => inner.elements h

/-- The descriptors under a key or below it, oldest first. -/
def under [DecidableEq τ] (h : Holdings τ α) (k : Key τ) : Registry → List (Handle τ α)
  | plain s => (h.catalog s).under k
  | view backing => backing.under h k
  | child _ c => c.under h k
  | gate _ inner => inner.under h k

/-- The storage that a registry's queries end at. -/
def front : Registry → Storage
  | plain s => s
  | view backing => backing.front
  | child _ c => c.front
  | gate _ inner => inner.front

/-- All that a registry lists is what the storage at its front holds, and it goes by that storage's
label. -/
theorem elements_front (h : Holdings τ α) (r : Registry) :
    r.elements h = (plain r.front).elements h := by
  induction r with
  | plain s => rfl
  | view backing ih => exact ih
  | child p c _ ih => exact ih
  | gate g inner ih => exact ih

theorem under_front [DecidableEq τ] (h : Holdings τ α) (k : Key τ) (r : Registry) :
    r.under h k = (plain r.front).under h k := by
  induction r with
  | plain s => rfl
  | view backing ih => exact ih
  | child p c _ ih => exact ih
  | gate g inner ih => exact ih

theorem label_front (r : Registry) : r.label = r.front.label := by
  induction r with
  | plain s => rfl
  | view backing ih => exact ih
  | child p c _ ih => exact ih
  | gate g inner ih => exact ih

/-- The registry lists this very descriptor under the key. -/
def lists [DecidableEq τ] (r : Registry) (h : Holdings τ α) (k : Key τ) (d : Shared α) : Bool :=
  (r.under h k).any (·.info.isSame d)

/-! ## Putting registries together -/

/-- A plain registry over a storage of its own. -/
def openPlain (h : Holdings τ α) (label : String) : Storage × Registry × Holdings τ α :=
  let opened := h.openStorage label
  (opened.1, .plain opened.1, opened.2)

/-- A storage is empty when it is opened. -/
theorem catalog_openPlain (h : Holdings τ α) (label : String) :
    (openPlain h label).2.2.catalog (openPlain h label).1 = .empty :=
  Holdings.catalog_setCatalog_self h _ .empty

/-- A child registry over a storage of its own, which is labelled after the parent. -/
def openChild (h : Holdings τ α) (parent : Registry) : Storage × Registry × Holdings τ α :=
  let opened := h.openStorage parent.childLabel
  (opened.1, .child parent (.plain opened.1), opened.2)

/-- A gate before a registry. -/
def openGate (h : Holdings τ α) (inner : Registry) : Gate × Registry × Holdings τ α :=
  let opened := h.openGate
  (opened.1, .gate opened.1 inner, opened.2)

end Registry

end GrammarRegistry
