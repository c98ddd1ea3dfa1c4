-- A plain registry through any run of requests of its own. It starts empty, takes every call, and
-- after each of them it answers as the live list does that the calls so far leave: a registration
-- goes to the end of the list, a removal takes the last match out.
import GrammarRegistry.Proofs.Registry.Standing

namespace GrammarRegistry

open Text

variable {τ α : Type} [DecidableEq τ] [PayloadTypes τ] {f : Forest τ} {h : Holdings τ α}
  {s : Storage} {live : Live τ α}

/-! ## What a plain registry answers -/

/-- The number of keys that some registration of the list is visible under. -/
def Live.keyCount (f : Forest τ) (live : Live τ α) : Nat :=
  f.keys.countP fun k => !(Live.under live k).isEmpty

/-- Every question to a plain registry is answered from the live list. -/
structure Storage.Shows (f : Forest τ) (s : Storage) (h : Holdings τ α) (live : Live τ α) :
    Prop where
  elements : (Registry.plain s).elements h =
    (Live.elements live).map fun d => ⟨PayloadTypes.element, d⟩
  under : ∀ k ∈ f.keys, (Registry.plain s).under h k = (Live.under live k).map k.handle
  contains : ∀ k ∈ f.keys, ∀ d : Shared α,
    (h.catalog s).contains k d = true ↔ ∃ x ∈ Live.under live k, x.isSame d = true
  size : (h.catalog s).size = live.length
  isEmpty : (h.catalog s).isEmpty = true ↔ live = []
  keyCount : (h.catalog s).keyCount = Live.keyCount f live
  record : (Registry.plain s).recordFields? h = some ("SyntaxRegistry",
    [("label", quote s.label), ("registrations", toString live.length),
      ("keys", toString (Live.keyCount f live))])

theorem Catalog.StandsFor.shows (hf : f.Grown) (hs : (h.catalog s).StandsFor f live) :
    s.Shows f h live := by
  refine ⟨hs.elements, fun k hk => hs.under hk, ?_, hs.size, ?_, hs.keyCount hf, ?_⟩
  · intro k hk d
    rw [hs.contains hk, List.any_eq_true]
  · rw [hs.isEmpty, List.isEmpty_iff]
  · rw [Registry.recordFields?, hs.size, hs.keyCount hf]
    rfl

/-! ## Runs -/

namespace Step

/-- A plain registry takes a request, and its live list goes along. -/
theorem ask_plain (hf : f.Grown) (hs : (h.catalog s).StandsFor f live) {q : Request τ α}
    (hq : q.key ∈ f.keys) :
    ((ask (.plain s) q).run h).result = .ok () ∧
      (((ask (.plain s) q).run h).holdings.catalog s).StandsFor f (live.apply q) := by
  obtain ⟨op, k, d⟩ := q
  cases op with
  | register => exact Storage.register_ok hf hs hq d
  | unregister => exact Storage.unregister_ok hf hs hq d

end Step

namespace Registry

/-- From holdings whose catalog stands for a live list, a run of requests to the one registry
folds them into the list. -/
theorem run_plain (hf : f.Grown) (qs : List (Request τ α)) (hqs : ∀ q ∈ qs, q.key ∈ f.keys)
    (hs : (h.catalog s).StandsFor f live) :
    (∀ o ∈ h.outcomes (qs.map (Step.ask (.plain s))), o.result = .ok ()) ∧
      ((h.after (qs.map (Step.ask (.plain s)))).catalog s).StandsFor f
        (qs.foldl Live.apply live) := by
  induction qs generalizing h live with
  | nil => exact ⟨by simp [Holdings.outcomes], hs⟩
  | cons q rest ih =>
    obtain ⟨hok, hnext⟩ := Step.ask_plain hf hs (hqs q (by simp))
    obtain ⟨hrest, hend⟩ := ih (fun t ht => hqs t (by simp [ht])) hnext
    refine ⟨?_, hend⟩
    intro o ho
    rcases List.mem_cons.mp ho with rfl | ho
    · exact hok
    · exact hrest o ho

omit [DecidableEq τ] in
theorem openPlain_standsFor (h : Holdings τ α) (label : String) :
    ((openPlain h label).2.2.catalog (openPlain h label).1).StandsFor f [] := by
  rw [catalog_openPlain]
  exact Catalog.StandsFor.empty

theorem openPlain_run_standsFor (hf : f.Grown) (h : Holdings τ α) (label : String)
    (qs : List (Request τ α)) (hqs : ∀ q ∈ qs, q.key ∈ f.keys) :
    let opened := openPlain h label
    ((opened.2.2.after (qs.map (Step.ask opened.2.1))).catalog opened.1).StandsFor f
      (Live.ofRequests qs) :=
  (run_plain hf qs hqs (openPlain_standsFor h label)).2

/-- A registry that is opened empty takes every request, and after every prefix of a run it
shows what the requests so far leave of an empty live list. -/
theorem openPlain_run_shows (hf : f.Grown) (h : Holdings τ α) (label : String)
    (qs : List (Request τ α)) (hqs : ∀ q ∈ qs, q.key ∈ f.keys) :
    let opened := openPlain h label
    (∀ o ∈ opened.2.2.outcomes (qs.map (Step.ask opened.2.1)), o.result = .ok ()) ∧
      ∀ made, made <+: qs →
        opened.1.Shows f (opened.2.2.after (made.map (Step.ask opened.2.1)))
          (Live.ofRequests made) := by
  intro opened
  refine ⟨(run_plain hf qs hqs (openPlain_standsFor h label)).1, ?_⟩
  intro made hmade
  have hkeys : ∀ q ∈ made, q.key ∈ f.keys := fun q hq => hqs q (hmade.subset hq)
  exact (openPlain_run_standsFor hf h label made hkeys).shows hf

/-- An effect and a condition of one descriptor: the statements' removal takes the newer one. -/
def sampleRequests : List (Request Payload String) :=
  [⟨.register, BaseKeys.effects, ⟨0, "a"⟩⟩, ⟨.register, BaseKeys.conditions, ⟨0, "a"⟩⟩,
    ⟨.unregister, BaseKeys.statements, ⟨0, "a"⟩⟩]

theorem openPlain_run_shows_base :
    BaseKeys.forest.Grown ∧ (∀ q ∈ sampleRequests, q.key ∈ BaseKeys.forest.keys) ∧
    (openPlain (τ := Payload) (α := String) .empty "base").1.Shows BaseKeys.forest
      ((openPlain .empty "base").2.2.after
        (sampleRequests.map (Step.ask (openPlain (τ := Payload) (α := String) .empty "base").2.1)))
      [⟨BaseKeys.effects, ⟨0, "a"⟩⟩] := by
  have hkeys : ∀ q ∈ sampleRequests, q.key ∈ BaseKeys.forest.keys := by
    simp [sampleRequests, BaseKeys.forest]
  exact ⟨BaseKeys.forest_grown, hkeys,
    (openPlain_run_shows BaseKeys.forest_grown .empty "base" sampleRequests hkeys).2
      sampleRequests (List.prefix_refl _)⟩

end Registry

end GrammarRegistry
