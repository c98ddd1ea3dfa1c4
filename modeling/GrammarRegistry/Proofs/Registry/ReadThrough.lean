-- What lies behind views. A change at a registry leaves alone every storage that occurs in it
-- beneath views only, also when the change is refused and when something is undone on the way. No
-- registry has contents of its own: at each moment it lists what the storage at its front holds,
-- whoever changed that storage.
import GrammarRegistry.Proofs.Registry.Routing

namespace GrammarRegistry

variable {τ α : Type} [DecidableEq τ] [PayloadTypes τ] {h : Holdings τ α} {s : Storage}

/-- Wherever the storage occurs in the registry, it lies beneath a view. -/
def Registry.Shields (r : Registry) (s : Storage) : Prop := ∀ t ∈ r.writable, t.id ≠ s.id

instance (r : Registry) (s : Storage) : Decidable (r.Shields s) :=
  inferInstanceAs (Decidable (∀ t ∈ r.writable, t.id ≠ s.id))

/-- A call leaves the catalog of a shielded storage as it is, tickets included. -/
theorem Call.run_shielded {c : Call τ α} (hc : c.node.Shields s) :
    (c.step.run h).holdings.catalog s = h.catalog s :=
  (Registry.confined_change c.request.key c.request.info c.request.op c.node h).catalog_eq hc

/-- So does a run of calls that are all made at registries which shield the storage. -/
theorem Holdings.after_shielded {calls : List (Call τ α)} (hs : ∀ c ∈ calls, c.node.Shields s) :
    (h.after (calls.map Call.step)).catalog s = h.catalog s := by
  induction calls generalizing h with
  | nil => rfl
  | cons c rest ih =>
    calc (h.after ((c :: rest).map Call.step)).catalog s
        = ((c.step.run h).holdings.after (rest.map Call.step)).catalog s := rfl
      _ = (c.step.run h).holdings.catalog s := ih fun d hd => hs d (by simp [hd])
      _ = h.catalog s := Call.run_shielded (hs c (by simp))

namespace Registry

/-- In any run of calls, a call changes no storage that is shielded by the registry where it is
made. A storage that all those registries shield is in the end as it was, and the registries that
it is at the front of list what they listed. At every moment each registry lists what the plain
registry over the storage at its front does. -/
theorem run_shields_and_follows (h : Holdings τ α) (calls : List (Call τ α)) :
    (∀ before c after, calls = before ++ c :: after → ∀ s : Storage, c.node.Shields s →
      (h.after ((before ++ [c]).map Call.step)).catalog s =
        (h.after (before.map Call.step)).catalog s) ∧
    (∀ s : Storage, (∀ c ∈ calls, c.node.Shields s) →
      (h.after (calls.map Call.step)).catalog s = h.catalog s ∧
      ∀ r : Registry, r.front = s →
        r.elements (h.after (calls.map Call.step)) = r.elements h ∧
        ∀ k, r.under (h.after (calls.map Call.step)) k = r.under h k) ∧
    ∀ made, made <+: calls → ∀ r : Registry,
      let now := h.after (made.map Call.step)
      r.elements now = (plain r.front).elements now ∧
        ∀ k, r.under now k = (plain r.front).under now k := by
  refine ⟨?_, ?_, ?_⟩
  · intro before c after _ s hc
    rw [List.map_append, Holdings.after_append]
    exact Call.run_shielded hc
  · intro s hs
    have hkept : (h.after (calls.map Call.step)).catalog s = h.catalog s :=
      Holdings.after_shielded hs
    refine ⟨hkept, ?_⟩
    rintro r rfl
    refine ⟨?_, ?_⟩
    · rw [r.elements_front, r.elements_front, elements, elements, hkept]
    · intro k
      rw [r.under_front, r.under_front, under, under, hkept]
  · intro made _ r now
    exact ⟨r.elements_front now, fun k => r.under_front now k⟩

/-- The parent side is a view, so a removal fails and the child side makes good what it lost: its
own storage has a new ticket then, the one beneath the view has not. A registration that is made
there directly shows through the view. -/
theorem run_shields_and_follows_restored :
    let shared : Storage := ⟨0, "shared"⟩
    let own : Storage := ⟨1, "own"⟩
    let r := child (view (plain shared)) (child (plain own) (plain own))
    let h : Holdings Payload String :=
      Holdings.empty.after [.ask (plain shared) ⟨.register, BaseKeys.effects, ⟨0, "a"⟩⟩,
        .ask (plain own) ⟨.register, BaseKeys.effects, ⟨0, "a"⟩⟩]
    let refused : Call Payload String := ⟨r, .unregister, BaseKeys.effects, ⟨0, "a"⟩⟩
    let direct : Call Payload String := ⟨plain shared, .register, BaseKeys.conditions, ⟨1, "b"⟩⟩
    let now := h.after ([refused, direct].map Call.step)
    r.Shields shared ∧ ¬ r.Shields own ∧
      (refused.step.run h).result = .error (.unsupported "shared" .unregister "effect") ∧
      ((refused.step.run h).holdings.catalog own).nextTicket = 3 ∧
      (h.after ([refused].map Call.step)).catalog shared = h.catalog shared ∧
      (view (plain shared)).under now BaseKeys.statements =
        (plain shared).under now BaseKeys.statements ∧
      ((view (plain shared)).under now BaseKeys.statements).map (·.info.id) = [0, 1] := by
  intro shared own r h refused direct now
  have hshields : r.Shields shared := by decide
  obtain ⟨hcalls, _, hreads⟩ := run_shields_and_follows h [refused, direct]
  have hkept : (h.after ([refused].map Call.step)).catalog shared = h.catalog shared :=
    hcalls [] refused [direct] rfl shared hshields
  have hview := (hreads [refused, direct] (List.prefix_refl _) (view (plain shared))).2
  have hlisted : ((view (plain shared)).under now BaseKeys.statements).map (·.info.id) = [0, 1] :=
    by decide
  exact ⟨hshields, by decide, rfl, rfl, hkept, hview BaseKeys.statements, hlisted⟩

end Registry

end GrammarRegistry
