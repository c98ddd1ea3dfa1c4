-- Routing in a tree of registries. A call at a node goes to the node and to each of its ancestors
-- once, and to no other node. So each node holds what a registry that stands alone would hold
-- after the calls at the node and below it, whatever is asked elsewhere in the tree.
import GrammarRegistry.Proofs.Registry.Lines
import GrammarRegistry.Proofs.Registry.PlainRuns

namespace GrammarRegistry

open Registry

variable {τ α : Type}

/-! ## Calls -/

/-- A request at a node of a tree. -/
structure Call (τ α : Type) where
  node : Registry
  request : Request τ α

namespace Call

/-- The call as a step. -/
def step (c : Call τ α) : Step τ α := .ask c.node c.request

/-- The requests of the calls at the node or below it, in order. -/
def requestsWithin (y : Registry) (calls : List (Call τ α)) : List (Request τ α) :=
  (calls.filter fun c => y ∈ c.node.line).map Call.request

theorem requestsWithin_concat (y : Registry) (calls : List (Call τ α)) (c : Call τ α) :
    requestsWithin y (calls ++ [c]) =
      requestsWithin y calls ++ (if y ∈ c.node.line then [c.request] else []) := by
  rw [requestsWithin, List.filter_append, List.map_append, ← requestsWithin]
  by_cases h : y ∈ c.node.line <;> simp [h]

theorem requestsWithin_of_forall_not {y : Registry} {calls : List (Call τ α)}
    (h : ∀ c ∈ calls, y ∉ c.node.line) : requestsWithin y calls = [] := by
  rw [requestsWithin, List.map_eq_nil_iff, List.filter_eq_nil_iff]
  intro c hc
  simpa using h c hc

theorem mem_of_mem_requestsWithin {y : Registry} {calls : List (Call τ α)} {q : Request τ α}
    (h : q ∈ requestsWithin y calls) : ∃ c ∈ calls, c.request = q := by
  obtain ⟨c, hc, hq⟩ := List.mem_map.mp h
  exact ⟨c, List.mem_of_mem_filter hc, hq⟩

end Call

theorem Live.ofRequests_concat (qs : List (Request τ α)) (q : Request τ α) :
    Live.ofRequests (qs ++ [q]) = Live.apply (Live.ofRequests qs) q := by
  simp [Live.ofRequests]

variable [DecidableEq τ] [PayloadTypes τ] {f : Forest τ} {h : Holdings τ α} {L : Lives τ α}
  {members : List Registry} {calls : List (Call τ α)}

/-- A call at a registry that stands on a line of its own kind goes through, and the list of each
storage on the line takes the request. -/
theorem Call.run_lined (hf : f.Grown) (hh : h.StandFor f L) {c : Call τ α}
    (hnode : c.node.Lined) (hk : c.request.key ∈ f.keys) :
    (c.step.run h).result = .ok () ∧
      (c.step.run h).holdings.StandFor f
        (L.editAll c.node.writable (Live.apply · c.request)) := by
  obtain ⟨x, op, k, d⟩ := c
  cases op with
  | register => exact register_through hf hk d hnode.gates_eq (hnode.firstView?_eq _) hh
  | unregister => exact unregister_through hf hk d hnode.gates_eq (hnode.firstView?_eq _) hh

/-! ## Trees -/

/-- The nodes of a tree of registries, what is held at some moment of its life, and the calls that
were made by then. Nodes may join it at any time. -/
inductive RegistryTree (f : Forest τ) : List Registry → Holdings τ α → List (Call τ α) → Prop
  | root {h : Holdings τ α} (hh : h.Reachable f) (label : String) :
      RegistryTree f [(openPlain h label).2.1] (openPlain h label).2.2 []
  | spawn {members : List Registry} {h : Holdings τ α} {calls : List (Call τ α)} {p : Registry}
      (ht : RegistryTree f members h calls) (hp : p ∈ members) :
      RegistryTree f (members ++ [(openChild h p).2.1]) (openChild h p).2.2 calls
  | call {members : List Registry} {h : Holdings τ α} {calls : List (Call τ α)} {c : Call τ α}
      (ht : RegistryTree f members h calls) (hnode : c.node ∈ members)
      (hk : c.request.key ∈ f.keys) :
      RegistryTree f members (c.step.run h).holdings (calls ++ [c])

/-- The live list of each member is what the requests at it and below it leave of an empty one. -/
structure Routed (f : Forest τ) (members : List Registry) (h : Holdings τ α) (L : Lives τ α)
    (calls : List (Call τ α)) : Prop where
  kindred : Kindred members h.storages
  stands : h.StandFor f L
  called : ∀ c ∈ calls, c.node ∈ members ∧ c.request.key ∈ f.keys
  routed : ∀ y ∈ members, L y.front.id = Live.ofRequests (Call.requestsWithin y calls)

namespace Routed

theorem root (hf : f.Grown) (hh : h.Reachable f) (label : String) :
    ∃ L, Routed f [(openPlain h label).2.1] (openPlain h label).2.2 L [] := by
  obtain ⟨L, hL⟩ := hh.standFor hf
  refine ⟨_, Kindred.root (Nat.lt_succ_self _), hL.openStorage label, by simp, ?_⟩
  intro y hy
  rw [List.mem_singleton.mp hy]
  exact Lives.edit_self L _ _

omit [DecidableEq τ] in
theorem spawn (hr : Routed f members h L calls) {p : Registry} (hp : p ∈ members) :
    ∃ L', Routed f (members ++ [(openChild h p).2.1]) (openChild h p).2.2 L' calls := by
  let s := (openChild h p).1
  have hold : ∀ y ∈ members, y.front.id ≠ s.id := fun y hy =>
    Nat.ne_of_lt (hr.kindred.opened y hy)
  refine ⟨L.edit s fun _ => [], hr.kindred.spawn hp _, hr.stands.openStorage _, ?_, ?_⟩
  · intro c hc
    exact ⟨List.mem_append_left _ (hr.called c hc).1, (hr.called c hc).2⟩
  · intro y hy
    rcases List.mem_append.mp hy with hy | hy
    · rw [Lives.edit_of_ne (hold y hy), hr.routed y hy]
    · -- no call was made at the new node or below it, for its storage is new
      have hnone : ∀ c ∈ calls, y ∉ c.node.line := by
        intro c hc hmem
        have hmember := hr.kindred.line_subset (hr.called c hc).1 hmem
        rw [List.mem_singleton.mp hy] at hmember
        exact hold _ hmember rfl
      rw [Call.requestsWithin_of_forall_not hnone, List.mem_singleton.mp hy]
      exact Lives.edit_self L s _

theorem call (hf : f.Grown) (hr : Routed f members h L calls) {c : Call τ α}
    (hnode : c.node ∈ members) (hk : c.request.key ∈ f.keys) :
    Routed f members (c.step.run h).holdings
      (L.editAll c.node.writable (Live.apply · c.request)) (calls ++ [c]) := by
  have hstorages : (c.step.run h).holdings.storages = h.storages :=
    (confined_change _ _ _ c.node h).storages
  refine ⟨hstorages ▸ hr.kindred,
    (Call.run_lined hf hr.stands (hr.kindred.lined _ hnode) hk).2, ?_, ?_⟩
  · intro c' hc'
    rcases List.mem_append.mp hc' with hc' | hc'
    · exact hr.called c' hc'
    · rw [List.mem_singleton.mp hc']
      exact ⟨hnode, hk⟩
  · intro y hy
    rw [hr.kindred.editAll_front hnode hy, Call.requestsWithin_concat, hr.routed y hy]
    split
    · exact (Live.ofRequests_concat _ _).symm
    · rw [List.append_nil]

end Routed

namespace RegistryTree

theorem routed (hf : f.Grown) (ht : RegistryTree f members h calls) :
    ∃ L, Routed f members h L calls := by
  induction ht with
  | root hh label => exact Routed.root hf hh label
  | spawn _ hp ih =>
    obtain ⟨L, hr⟩ := ih
    exact hr.spawn hp
  | call _ hnode hk ih =>
    obtain ⟨L, hr⟩ := ih
    exact ⟨_, hr.call hf hnode hk⟩

end RegistryTree

/-- The same elements, and the same descriptors under each key, in the same order. -/
structure SameLists (f : Forest τ) (r : Registry) (h : Holdings τ α) (r' : Registry)
    (h' : Holdings τ α) : Prop where
  elements : r.elements h = r'.elements h'
  under : ∀ k ∈ f.keys, r.under h k = r'.under h' k

theorem SameLists.of_standsFor {h' : Holdings τ α} {r r' : Registry} {live : Live τ α}
    (hr : (h.catalog r.front).StandsFor f live) (hr' : (h'.catalog r'.front).StandsFor f live) :
    SameLists f r h r' h' := by
  refine ⟨?_, ?_⟩
  · rw [elements_eq hr, elements_eq hr']
  · intro k hk
    rw [under_eq hr hk, under_eq hr' hk]

namespace RegistryTree

/-- Every call at a node goes through, and each node lists what a registry that stands alone does
when it is opened empty and only asked what was asked at the node or below it, in that order. What
was asked at other nodes plays no part: two nodes, of the same tree or of two, list the same when
the same was asked at each or below it. -/
theorem sameLists_standAlone (hf : f.Grown) (ht : RegistryTree f members h calls) :
    (∀ c : Call τ α, c.node ∈ members → c.request.key ∈ f.keys →
      (c.step.run h).result = .ok ()) ∧
    ∀ y ∈ members,
      (∀ (h₀ : Holdings τ α) (label : String),
        let alone := openPlain h₀ label
        SameLists f y h alone.2.1
          (alone.2.2.after ((Call.requestsWithin y calls).map (Step.ask alone.2.1)))) ∧
      ∀ (members' : List Registry) (h' : Holdings τ α) (calls' : List (Call τ α)),
        RegistryTree f members' h' calls' → ∀ y' ∈ members',
        Call.requestsWithin y' calls' = Call.requestsWithin y calls →
        SameLists f y h y' h' := by
  obtain ⟨L, hr⟩ := ht.routed hf
  refine ⟨?_, ?_⟩
  · intro c hnode hk
    exact (Call.run_lined hf hr.stands (hr.kindred.lined _ hnode) hk).1
  · intro y hy
    have hstands : (h.catalog y.front).StandsFor f
        (Live.ofRequests (Call.requestsWithin y calls)) :=
      hr.routed y hy ▸ hr.stands y.front.id
    refine ⟨?_, ?_⟩
    · intro h₀ label alone
      have hkeys : ∀ q ∈ Call.requestsWithin y calls, q.key ∈ f.keys := by
        intro q hq
        obtain ⟨c, hc, rfl⟩ := Call.mem_of_mem_requestsWithin hq
        exact (hr.called c hc).2
      exact SameLists.of_standsFor hstands (openPlain_run_standsFor hf h₀ label _ hkeys)
    · intro members' h' calls' ht' y' hy' hsame
      obtain ⟨L', hr'⟩ := ht'.routed hf
      have hstands' := hr'.stands y'.front.id
      rw [hr'.routed y' hy', hsame] at hstands'
      exact SameLists.of_standsFor hstands hstands'

/-- A removal at one child takes the sibling's registration out of the root, which is newer there,
and leaves the sibling alone. The grandchild joined late. -/
theorem sameLists_standAlone_siblings :
    let root : Registry := plain ⟨0, "root"⟩
    let h₀ : Holdings Payload String := (openPlain .empty "root").2.2
    let one := (openChild h₀ root).2.1
    let h₁ := (openChild h₀ root).2.2
    let other := (openChild h₁ root).2.1
    let h₂ := (openChild h₁ root).2.2
    let c₁ : Call Payload String := ⟨one, .register, BaseKeys.effects, ⟨0, "a"⟩⟩
    let c₂ : Call Payload String := ⟨other, .register, BaseKeys.conditions, ⟨0, "a"⟩⟩
    let h₃ := (c₂.step.run (c₁.step.run h₂).holdings).holdings
    let below := (openChild h₃ one).2.1
    let h₄ := (openChild h₃ one).2.2
    let c₃ : Call Payload String := ⟨below, .register, BaseKeys.effects, ⟨1, "b"⟩⟩
    let c₄ : Call Payload String := ⟨one, .unregister, BaseKeys.statements, ⟨0, "a"⟩⟩
    let h₅ := (c₄.step.run (c₃.step.run h₄).holdings).holdings
    let members := [root] ++ [one] ++ [other] ++ [below]
    let calls := [] ++ [c₁] ++ [c₂] ++ [c₃] ++ [c₄]
    let alone := openPlain (τ := Payload) (α := String) .empty "alone"
    BaseKeys.forest.Grown ∧ RegistryTree BaseKeys.forest members h₅ calls ∧ one ∈ members ∧
      (c₂.step.run h₅).result = .ok () ∧
      Call.requestsWithin one calls = [c₁.request, c₃.request, c₄.request] ∧
      SameLists BaseKeys.forest one h₅ alone.2.1
        (alone.2.2.after ((Call.requestsWithin one calls).map (Step.ask alone.2.1))) ∧
      (one.elements h₅).map (·.info.id) = [1] ∧ (other.elements h₅).map (·.info.id) = [0] ∧
      (root.elements h₅).map (·.info.id) = [0, 1] := by
  intro root h₀ one h₁ other h₂ c₁ c₂ h₃ below h₄ c₃ c₄ h₅ members calls alone
  have hroot : RegistryTree BaseKeys.forest [root] h₀ [] :=
    RegistryTree.root Holdings.Reachable.empty "root"
  have hpair : RegistryTree BaseKeys.forest ([root] ++ [one] ++ [other]) h₂ [] :=
    (hroot.spawn (by simp)).spawn (by simp)
  have hasked : RegistryTree BaseKeys.forest ([root] ++ [one] ++ [other]) h₃
      ([] ++ [c₁] ++ [c₂]) :=
    (hpair.call (c := c₁) (by simp [c₁]) (by simp [c₁, BaseKeys.forest])).call (c := c₂)
      (by simp [c₂]) (by simp [c₂, BaseKeys.forest])
  have hjoined : RegistryTree BaseKeys.forest members h₄ ([] ++ [c₁] ++ [c₂]) :=
    hasked.spawn (by simp)
  have htree : RegistryTree BaseKeys.forest members h₅ calls :=
    (hjoined.call (c := c₃) (by simp [c₃, members]) (by simp [c₃, BaseKeys.forest])).call
      (c := c₄) (by simp [c₄, members]) (by simp [c₄, BaseKeys.forest])
  have hmember : one ∈ members := by simp [members]
  obtain ⟨hthrough, hlists⟩ := htree.sameLists_standAlone BaseKeys.forest_grown
  have hagain : (c₂.step.run h₅).result = .ok () :=
    hthrough c₂ (by simp [c₂, members]) (by simp [c₂, BaseKeys.forest])
  exact ⟨BaseKeys.forest_grown, htree, hmember, hagain, rfl, (hlists one hmember).1 .empty "alone",
    by decide, by decide, by decide⟩

end RegistryTree

end GrammarRegistry
