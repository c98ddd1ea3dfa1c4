-- Lines of registries. A child registry that opened a storage of its own stands on the line of its
-- parent, and a change at it reaches the storages along its line up to the root. Among kindred
-- registries no two have one storage at the front, so a change reaches no other member's storage.
import GrammarRegistry.Proofs.Registry.Effects

namespace GrammarRegistry

variable {τ α : Type}

namespace Registry

/-! ## Lines -/

/-- The registry, its parent, and so on up to one that is no child registry. -/
def line : Registry → List Registry
  | child p c => child p c :: p.line
  | r => [r]

theorem self_mem_line (r : Registry) : r ∈ r.line := by
  cases r <;> simp [line]

theorem line_suffix {x y : Registry} (h : y ∈ x.line) : y.line <:+ x.line := by
  induction x with
  | child p c ihp _ =>
    rcases List.mem_cons.mp h with rfl | h
    · exact List.suffix_refl _
    · exact (ihp h).trans (List.suffix_cons _ _)
  | plain s =>
    cases List.mem_singleton.mp h
    exact List.suffix_refl _
  | view backing _ =>
    cases List.mem_singleton.mp h
    exact List.suffix_refl _
  | gate g inner _ =>
    cases List.mem_singleton.mp h
    exact List.suffix_refl _

theorem parent_mem_line {p c x : Registry} (h : child p c ∈ x.line) : p ∈ x.line :=
  (line_suffix h).subset (List.mem_cons_of_mem _ p.self_mem_line)

theorem line_nodup (x : Registry) : x.line.Nodup := by
  induction x with
  | child p c ihp _ =>
    rw [line, List.nodup_cons]
    refine ⟨?_, ihp⟩
    intro h
    have hlength := (line_suffix h).length_le
    rw [line, List.length_cons] at hlength
    omega
  | plain s => exact List.nodup_singleton _
  | view backing _ => exact List.nodup_singleton _
  | gate g inner _ => exact List.nodup_singleton _

/-- A plain registry, or a child registry with a plain child side over such a one. -/
inductive Lined : Registry → Prop
  | root (s : Storage) : Lined (plain s)
  | child {p : Registry} (hp : Lined p) (s : Storage) : Lined (child p (plain s))

namespace Lined

variable {x : Registry}

/-- A change reaches the fronts of the line, the root's first. -/
theorem writable_eq (hx : x.Lined) : x.writable = (x.line.map front).reverse := by
  induction hx with
  | root s => rfl
  | child _ s ih =>
    rw [writable, line, List.map_cons, List.reverse_cons, ← ih]
    rfl

theorem gates_eq (hx : x.Lined) : x.gates = [] := by
  induction hx with
  | root s => rfl
  | child _ s ih =>
    rw [gates, ih]
    rfl

theorem firstView?_eq (hx : x.Lined) (op : Mutation) : x.firstView? op = none := by
  induction hx with
  | root s => cases op <;> rfl
  | child _ s ih => cases op <;> simp [firstView?, ih]

end Lined

end Registry

/-! ## Kindred registries -/

open Registry

/-- Registries on lines of their own kind, each over an opened storage that is at no other's
front. -/
structure Kindred (members : List Registry) (opened : Nat) : Prop where
  lined : ∀ x ∈ members, x.Lined
  closed : ∀ p c, child p c ∈ members → p ∈ members
  apart : ∀ x ∈ members, ∀ y ∈ members, x.front.id = y.front.id → x = y
  opened : ∀ x ∈ members, x.front.id < opened

namespace Kindred

variable {members : List Registry} {opened : Nat} {x y : Registry}

theorem root {s : Storage} (hs : s.id < opened) : Kindred [plain s] opened := by
  refine ⟨?_, ?_, ?_, ?_⟩
  · intro x hx
    rw [List.mem_singleton.mp hx]
    exact Lined.root s
  · intro p c hc
    cases List.mem_singleton.mp hc
  · intro x hx y hy _
    rw [List.mem_singleton.mp hx, List.mem_singleton.mp hy]
  · intro x hx
    rw [List.mem_singleton.mp hx]
    exact hs

theorem spawn (hm : Kindred members opened) (hx : x ∈ members) (label : String) :
    Kindred (members ++ [child x (plain ⟨opened, label⟩)]) (opened + 1) := by
  have hold : ∀ y ∈ members, y.front.id ≠ opened := fun y hy => Nat.ne_of_lt (hm.opened y hy)
  refine ⟨?_, ?_, ?_, ?_⟩
  · intro y hy
    rcases List.mem_append.mp hy with hy | hy
    · exact hm.lined y hy
    · rw [List.mem_singleton.mp hy]
      exact Lined.child (hm.lined x hx) _
  · intro p c hc
    apply List.mem_append_left
    rcases List.mem_append.mp hc with hc | hc
    · exact hm.closed p c hc
    · cases List.mem_singleton.mp hc
      exact hx
  · intro y hy z hz hyz
    rcases List.mem_append.mp hy with hy | hy <;> rcases List.mem_append.mp hz with hz | hz
    · exact hm.apart y hy z hz hyz
    · rw [List.mem_singleton.mp hz] at hyz
      exact absurd hyz (hold y hy)
    · rw [List.mem_singleton.mp hy] at hyz
      exact absurd hyz.symm (hold z hz)
    · rw [List.mem_singleton.mp hy, List.mem_singleton.mp hz]
  · intro y hy
    rcases List.mem_append.mp hy with hy | hy
    · exact Nat.lt_succ_of_lt (hm.opened y hy)
    · rw [List.mem_singleton.mp hy]
      exact Nat.lt_succ_self _

theorem line_subset (hm : Kindred members opened) (hx : x ∈ members) : x.line ⊆ members := by
  have hlined := hm.lined x hx
  induction hlined with
  | root s => simpa [line] using hx
  | child _ s ih => exact List.cons_subset.mpr ⟨hx, ih (hm.closed _ _ hx)⟩

theorem mem_writable_iff (hm : Kindred members opened) (hx : x ∈ members) (hy : y ∈ members) :
    y.front.id ∈ x.writable.map Storage.id ↔ y ∈ x.line := by
  rw [(hm.lined x hx).writable_eq, List.map_reverse, List.mem_reverse, List.map_map, List.mem_map]
  refine ⟨?_, ?_⟩
  · rintro ⟨z, hz, hid⟩
    rw [hm.apart y hy z (hm.line_subset hx hz) hid.symm]
    exact hz
  · intro hmem
    exact ⟨y, hmem, rfl⟩

theorem writable_nodup (hm : Kindred members opened) (hx : x ∈ members) :
    (x.writable.map Storage.id).Nodup := by
  rw [(hm.lined x hx).writable_eq, List.map_reverse, List.nodup_reverse, List.map_map]
  refine List.Nodup.map_on ?_ x.line_nodup
  intro y hy z hz hid
  exact hm.apart y (hm.line_subset hx hy) z (hm.line_subset hx hz) hid

/-- A change at one member changes the lists of those on its line, each of them once. -/
theorem editAll_front (hm : Kindred members opened) (hx : x ∈ members) (hy : y ∈ members)
    (L : Lives τ α) (g : Live τ α → Live τ α) :
    L.editAll x.writable g y.front.id =
      if y ∈ x.line then g (L y.front.id) else L y.front.id := by
  rw [Lives.editAll_of_nodup _ _ _ (hm.writable_nodup hx)]
  exact if_congr (hm.mem_writable_iff hx hy) rfl rfl

end Kindred

end GrammarRegistry
