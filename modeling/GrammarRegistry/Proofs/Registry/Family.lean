-- A family of registries: a plain root, and child registries that open storages of their own over
-- members of the family. Each child keeps listing what its parent lists, less some of it, as long
-- as no removal is of a descriptor that is held off the line of the member that it is asked at.
import GrammarRegistry.Proofs.Registry.Lines

namespace GrammarRegistry

open Registry

variable {τ α : Type} [PayloadTypes τ]

/-! ## Inclusion along the lines -/

/-- Kindred registries, each child's live list included in its parent's. -/
structure Nested (f : Forest τ) (members : List Registry) (h : Holdings τ α) (L : Lives τ α) :
    Prop where
  kindred : Kindred members h.storages
  stands : h.StandFor f L
  nested : ∀ p c, child p c ∈ members → (L c.front.id).Sublist (L p.front.id)

namespace Nested

variable {f : Forest τ} {members : List Registry} {h h' : Holdings τ α} {L : Lives τ α}
  {x y : Registry}

/-- A change along the line of one member keeps the lists nested, if it carries inclusions over
and leaves room above the lists off the line. -/
theorem editAll (hn : Nested f members h L) (hx : x ∈ members) {g : Live τ α → Live τ α}
    (hstorages : h'.storages = h.storages) (hstands : h'.StandFor f (L.editAll x.writable g))
    (hmono : ∀ l l' : Live τ α, l.Sublist l' → (g l).Sublist (g l'))
    (hoff : ∀ y ∈ members, y ∉ x.line → ∀ l, (L y.front.id).Sublist l →
      (L y.front.id).Sublist (g l)) :
    Nested f members h' (L.editAll x.writable g) := by
  refine ⟨hstorages ▸ hn.kindred, hstands, ?_⟩
  intro p c hc
  have hchild := hn.kindred.editAll_front hx hc L g
  have hparent := hn.kindred.editAll_front hx (hn.kindred.closed p c hc) L g
  have hbefore := hn.nested p c hc
  rw [front] at hchild
  rw [hchild, hparent]
  by_cases hon : child p c ∈ x.line
  · rw [if_pos hon, if_pos (parent_mem_line hon)]
    exact hmono _ _ hbefore
  · rw [if_neg hon]
    split
    · exact hoff _ hc hon _ hbefore
    · exact hbefore

theorem spawn (hn : Nested f members h L) (hx : x ∈ members) :
    ∃ L', Nested f (members ++ [(openChild h x).2.1]) (openChild h x).2.2 L' := by
  let s := (openChild h x).1
  have hold : ∀ y ∈ members, y.front.id ≠ s.id := fun y hy =>
    Nat.ne_of_lt (hn.kindred.opened y hy)
  refine ⟨L.edit s fun _ => [], hn.kindred.spawn hx _, hn.stands.openStorage _, ?_⟩
  intro p c hc
  rcases List.mem_append.mp hc with hc | hc
  · have hcold : c.front.id ≠ s.id := hold (child p c) hc
    rw [Lives.edit_of_ne hcold, Lives.edit_of_ne (hold p (hn.kindred.closed p c hc))]
    exact hn.nested p c hc
  · cases List.mem_singleton.mp hc
    have hnew : (L.edit s (fun _ => []) s.id).Sublist (L.edit s (fun _ => []) x.front.id) := by
      rw [Lives.edit_self]
      exact List.nil_sublist _
    exact hnew

variable {k : Key τ} {d : Shared α}

theorem not_isMatch (hn : Nested f members h L) (k : Key τ)
    (hy : ∀ e ∈ y.elements h, e.info.isSame d = false) :
    ∀ r ∈ L y.front.id, r.isMatch k d = false := by
  intro r hr
  have hmem : ⟨PayloadTypes.element, r.info⟩ ∈ y.elements h := by
    rw [elements_eq (hn.stands y.front.id)]
    exact List.mem_map_of_mem (List.mem_map_of_mem hr)
  rw [Registration.isMatch, hy _ hmem, Bool.false_and]

variable [DecidableEq τ]

theorem root (hf : f.Grown) {s : Storage} (hh : h.Reachable f) (hs : s.id < h.storages) :
    ∃ L, Nested f [plain s] h L := by
  obtain ⟨L, hL⟩ := hh.standFor hf
  refine ⟨L, Kindred.root hs, hL, ?_⟩
  intro p c hc
  cases List.mem_singleton.mp hc

theorem register (hf : f.Grown) (hn : Nested f members h L) (hx : x ∈ members) (hk : k ∈ f.keys)
    (d : Shared α) :
    Nested f members (x.register k d h).holdings (L.editAll x.writable (Live.register · k d)) := by
  have hlined := hn.kindred.lined x hx
  obtain ⟨_, hstands⟩ :=
    register_through hf hk d hlined.gates_eq (hlined.firstView?_eq _) hn.stands
  refine hn.editAll hx (confined_change k d .register x h).storages hstands ?_ ?_
  · intro l l' hl
    exact hl.append (List.Sublist.refl _)
  · intro y _ _ l hl
    exact hl.trans (List.sublist_append_left _ _)

theorem unregister (hf : f.Grown) (hn : Nested f members h L) (hx : x ∈ members)
    (hk : k ∈ f.keys)
    (hfree : ∀ y ∈ members, y ∉ x.line → ∀ e ∈ y.elements h, e.info.isSame d = false) :
    Nested f members (x.unregister k d h).holdings
      (L.editAll x.writable (Live.unregister · k d)) := by
  have hlined := hn.kindred.lined x hx
  obtain ⟨_, hstands⟩ :=
    unregister_through hf hk d hlined.gates_eq (hlined.firstView?_eq _) hn.stands
  refine hn.editAll hx (confined_change k d .unregister x h).storages hstands ?_ ?_
  · intro l l' hl
    exact eraseLast_sublist_eraseLast hl
  · intro y hy hoff l hl
    -- the list loses nothing to the same removal, which it therefore outlasts
    have hnone := hn.not_isMatch k (hfree y hy hoff)
    have hsame : Live.unregister (L y.front.id) k d = L y.front.id :=
      Live.unregister_of_forall_not hnone
    rw [← hsame]
    exact eraseLast_sublist_eraseLast hl

end Nested

/-! ## Families -/

variable [DecidableEq τ]

/-- The members of a family, and what is held at some moment of its life. The root may hold
anything at first. -/
inductive Family (f : Forest τ) : List Registry → Holdings τ α → Prop
  | root {h : Holdings τ α} (s : Storage) (hh : h.Reachable f) (hs : s.id < h.storages) :
      Family f [plain s] h
  | spawn {members : List Registry} {h : Holdings τ α} {p : Registry} (hfam : Family f members h)
      (hp : p ∈ members) : Family f (members ++ [(openChild h p).2.1]) (openChild h p).2.2
  | register {members : List Registry} {h : Holdings τ α} {x : Registry} {k : Key τ}
      (hfam : Family f members h) (hx : x ∈ members) (hk : k ∈ f.keys) (d : Shared α) :
      Family f members (x.register k d h).holdings
  | unregister {members : List Registry} {h : Holdings τ α} {x : Registry} {k : Key τ}
      {d : Shared α} (hfam : Family f members h) (hx : x ∈ members) (hk : k ∈ f.keys)
      (hfree : ∀ y ∈ members, y ∉ x.line → ∀ e ∈ y.elements h, e.info.isSame d = false) :
      Family f members (x.unregister k d h).holdings

namespace Family

variable {f : Forest τ} {members : List Registry} {h : Holdings τ α}

theorem nested (hf : f.Grown) (hfam : Family f members h) : ∃ L, Nested f members h L := by
  induction hfam with
  | root s hh hs => exact Nested.root hf hh hs
  | spawn _ hp ih =>
    obtain ⟨L, hn⟩ := ih
    exact hn.spawn hp
  | register _ hx hk d ih =>
    obtain ⟨L, hn⟩ := ih
    exact ⟨_, hn.register hf hx hk d⟩
  | unregister _ hx hk hfree ih =>
    obtain ⟨L, hn⟩ := ih
    exact ⟨_, hn.unregister hf hx hk hfree⟩

/-- At every moment of a family's life each child lists, in the same order, some of what its
parent lists: all in all and under every key. -/
theorem child_sublist_parent (hf : f.Grown) (hfam : Family f members h) {p c : Registry}
    (hc : child p c ∈ members) :
    ((child p c).elements h).Sublist (p.elements h) ∧
      ∀ k ∈ f.keys, ((child p c).under h k).Sublist (p.under h k) := by
  obtain ⟨L, hn⟩ := hfam.nested hf
  have hsub : (L (child p c).front.id).Sublist (L p.front.id) := hn.nested p c hc
  refine ⟨?_, ?_⟩
  · rw [elements_eq (hn.stands _), elements_eq (hn.stands _)]
    exact (hsub.map _).map _
  · intro k hk
    rw [under_eq (hn.stands _) hk, under_eq (hn.stands _) hk]
    exact ((hsub.filter _).map _).map _

/-- The root has a newer registration of what the child takes back through a key above, and a
sibling holds something else: the two lose different registrations, and the inclusion stays. -/
theorem child_sublist_parent_siblings :
    let root : Registry := plain ⟨0, "root"⟩
    let h₀ : Holdings Payload String := (Holdings.empty.openStorage "root").2
    let c := (openChild h₀ root).2.1
    let h₁ := (openChild h₀ root).2.2
    let sibling := (openChild h₁ root).2.1
    let h₂ := (openChild h₁ root).2.2
    let h₃ := (c.register BaseKeys.effects ⟨0, "a"⟩ h₂).holdings
    let h₄ := (sibling.register BaseKeys.effects ⟨1, "b"⟩ h₃).holdings
    let h₅ := (root.register BaseKeys.conditions ⟨0, "a"⟩ h₄).holdings
    let h₆ := (c.unregister BaseKeys.statements ⟨0, "a"⟩ h₅).holdings
    let members := [root] ++ [c] ++ [sibling]
    BaseKeys.forest.Grown ∧ Family BaseKeys.forest members h₆ ∧ c ∈ members ∧
      (c.elements h₆).Sublist (root.elements h₆) ∧
      (root.elements h₆).map (·.info.id) = [0, 1] := by
  intro root h₀ c h₁ sibling h₂ h₃ h₄ h₅ h₆ members
  have hopened : h₀.Reachable BaseKeys.forest :=
    Holdings.Reachable.empty.step (s := .openStorage "root") trivial
  have hroot : Family BaseKeys.forest [root] h₀ := Family.root ⟨0, "root"⟩ hopened Nat.zero_lt_one
  have hchild : Family BaseKeys.forest ([root] ++ [c]) h₁ := hroot.spawn (by simp)
  have hsibling : Family BaseKeys.forest members h₂ := hchild.spawn (by simp)
  have hregistered : Family BaseKeys.forest members h₅ :=
    ((hsibling.register (x := c) (by simp [members]) (by simp [BaseKeys.forest]) _).register
      (x := sibling) (by simp [members]) (by simp [BaseKeys.forest]) _).register
      (x := root) (by simp [members]) (by simp [BaseKeys.forest]) _
  have hfree : ∀ y ∈ members, y ∉ c.line → ∀ e ∈ y.elements h₅,
      e.info.isSame ⟨0, "a"⟩ = false := by decide
  have hfamily : Family BaseKeys.forest members h₆ :=
    hregistered.unregister (x := c) (by simp [members]) (by simp [BaseKeys.forest]) hfree
  have hmember : c ∈ members := by simp [members]
  exact ⟨BaseKeys.forest_grown, hfamily, hmember,
    (hfamily.child_sublist_parent BaseKeys.forest_grown hmember).1, rfl⟩

end Family

end GrammarRegistry
