-- Payload types in storage. What is stored forgets its type, and each question asks for one type
-- and skips what is not of it. Nothing is ever skipped: the chain of a registration shows the
-- descriptor to each key as that key's own payload type, so the bucket of a key holds handles of
-- that type only, in every state that a registry can come to.
import GrammarRegistry.Proofs.Registry.Standing

namespace GrammarRegistry

variable {τ α : Type} [DecidableEq τ]

/-- The link is for the key's bucket, and shows the descriptor as the key's payload type. -/
structure Key.IsLink (d : Shared α) (a : Key τ) (link : KeyId × Handle τ α) : Prop where
  bucket : link.1 = a.id
  payload : link.2.payload = a.payload
  info : link.2.info = d

/-- The chain of a descriptor is always settled. It has one link for each key of the line, in the
order of the line. -/
theorem Key.chain_typed (k : Key τ) (d : Shared α) :
    ∃ chain, k.chain (k.handle d) = .ok chain ∧ List.Forall₂ (Key.IsLink d) k.lineage chain := by
  refine ⟨_, k.chain_handle d, ?_⟩
  rw [List.forall₂_map_right_iff, List.forall₂_same]
  intro a _
  exact ⟨rfl, rfl, rfl⟩

variable [PayloadTypes τ] {f : Forest τ} {h : Holdings τ α} {k : Key τ}

namespace Registry

/-- Whatever happened to a storage before, through registries of any make, it takes a registration
under every key of the forest, with a link for each key of the line. The bucket of a key holds
handles of the key's payload type only. So the key is answered with one handle for each posting,
and a descriptor is found under it exactly if it is listed. -/
theorem reachable_typed (hf : f.Grown) (hh : h.Reachable f) (s : Storage) (hk : k ∈ f.keys) :
    (∀ d : Shared α, ((plain s).register k d h).result = .ok () ∧
      ∃ chain, k.chain (k.handle d) = .ok chain ∧ List.Forall₂ (Key.IsLink d) k.lineage chain) ∧
    (∀ p ∈ (h.catalog s).bucket k.id, p.handle.payload = k.payload) ∧
    (plain s).under h k = ((h.catalog s).bucket k.id).map Posting.handle ∧
    ∀ d : Shared α, (h.catalog s).contains k d = true ↔
      ∃ x ∈ (plain s).under h k, x.info.isSame d = true := by
  obtain ⟨L, hL⟩ := hh.standFor hf
  have hs : (h.catalog s).StandsFor f (L s.id) := hL s.id
  have hhandles : (plain s).under h k = ((h.catalog s).bucket k.id).map Posting.handle :=
    hs.handles hk
  refine ⟨?_, fun p hp => hs.payload hk hp, hhandles, ?_⟩
  · intro d
    exact ⟨(Storage.register_ok hf hs hk d).1, k.chain_typed d⟩
  · intro d
    rw [hhandles, Catalog.contains, List.any_eq_true]
    simp [Posting.isOf]

/-- Three keys, each of another payload type. The middle one lists what was made under it and what
was made below, all as its own type, and has lost what was removed through the root. -/
theorem reachable_typed_mixed :
    let anything : Key Payload := .root ⟨0⟩ "anything" .element
    let documented : Key Payload := .child ⟨1⟩ "documented" .documented anything
    let annotated : Key Payload := .child ⟨2⟩ "annotated" .annotated documented
    let f : Forest Payload := ⟨[anything, documented, annotated]⟩
    let s : Storage := ⟨0, "mixed"⟩
    let h : Holdings Payload String :=
      Holdings.empty.after [.ask (plain s) ⟨.register, annotated, ⟨0, "a"⟩⟩,
        .ask (plain s) ⟨.register, documented, ⟨1, "b"⟩⟩,
        .ask (plain s) ⟨.register, annotated, ⟨1, "b"⟩⟩,
        .ask (plain s) ⟨.unregister, anything, ⟨1, "b"⟩⟩]
    f.Grown ∧ h.Reachable f ∧ documented ∈ f.keys ∧
      (∃ chain, annotated.chain (annotated.handle ⟨2, "c"⟩) = .ok chain ∧
        List.Forall₂ (Key.IsLink ⟨2, "c"⟩) annotated.lineage chain) ∧
      (plain s).under h documented = ((h.catalog s).bucket documented.id).map Posting.handle ∧
      ((plain s).under h documented).map (fun x => (x.payload, x.info.id)) =
        [(.documented, 0), (.documented, 1)] ∧
      (∃ x ∈ (plain s).under h documented, x.info.isSame ⟨1, "b"⟩ = true) := by
  intro anything documented annotated f s h
  have hroot : (⟨[anything]⟩ : Forest Payload).Grown :=
    Forest.Grown.empty.root "anything" Payload.element
  have hpair : (⟨[anything, documented]⟩ : Forest Payload).Grown :=
    @Forest.Grown.child _ _ _ anything "documented" .documented (documented, _) hroot (by simp) rfl
  have hgrown : f.Grown :=
    @Forest.Grown.child _ _ _ documented "annotated" .annotated (annotated, _) hpair (by simp) rfl
  have hreached : h.Reachable f := ⟨_, by simp [Step.Within, f], rfl⟩
  have hannotated : annotated ∈ f.keys := by simp [f]
  have hdocumented : documented ∈ f.keys := by simp [f]
  obtain ⟨htaken, _, _, _⟩ := reachable_typed hgrown hreached s hannotated
  obtain ⟨_, _, hhandles, hcontains⟩ := reachable_typed hgrown hreached s hdocumented
  have hvisible : (h.catalog s).contains documented ⟨1, "b"⟩ = true := by decide
  exact ⟨hgrown, hreached, hdocumented, (htaken ⟨2, "c"⟩).2, hhandles, by decide,
    (hcontains ⟨1, "b"⟩).mp hvisible⟩

end Registry

end GrammarRegistry
