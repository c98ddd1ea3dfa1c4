-- Runs. What happens to holdings is a list of steps: storages and gates are opened, gates are told
-- what to refuse, and registries of any make are asked for changes, refused or not. Reachable
-- holdings are those that some run leads to.
import GrammarRegistry.Catalog.Live
import GrammarRegistry.Key.Forest
import GrammarRegistry.Registry.Change
import Mathlib.Data.List.Induction

namespace GrammarRegistry

variable {τ α : Type}

/-- What a registry is asked to do. -/
structure Request (τ α : Type) where
  op : Mutation
  key : Key τ
  info : Shared α

/-- What the request does to a live list. -/
def Live.apply (l : Live τ α) (q : Request τ α) : Live τ α :=
  match q.op with
  | .register => Live.register l q.key q.info
  | .unregister => Live.unregister l q.key q.info

/-- The live list that some requests leave of an empty one. -/
def Live.ofRequests (qs : List (Request τ α)) : Live τ α := qs.foldl Live.apply []

/-- One thing that can happen to holdings. -/
inductive Step (τ α : Type) where
  | openStorage (label : String)
  | openGate
  | setPolicy (gate : Gate) (policy : Policy τ)
  | ask (registry : Registry) (request : Request τ α)

namespace Step

/-- The step names keys of the forest only. A forest that grows while things happen is taken as
it is in the end. -/
def Within (f : Forest τ) : Step τ α → Prop
  | ask _ q => q.key ∈ f.keys
  | _ => True

theorem Within.mono {f g : Forest τ} (hfg : ∀ k ∈ f.keys, k ∈ g.keys) {s : Step τ α}
    (hs : s.Within f) : s.Within g := by
  cases s with
  | ask r q => exact hfg q.key hs
  | _ => trivial

/-- The step as a change. Only requests can be refused. -/
def run [DecidableEq τ] [PayloadTypes τ] : Step τ α → Change τ α
  | openStorage label => fun h => ⟨(h.openStorage label).2, .ok (), []⟩
  | openGate => fun h => ⟨h.openGate.2, .ok (), []⟩
  | setPolicy g p => fun h => ⟨h.setPolicy g p, .ok (), []⟩
  | ask r q => Registry.change q.key q.info q.op r

end Step

namespace Holdings

variable [DecidableEq τ] [PayloadTypes τ]

/-- The outcomes of steps that are made one after another, whatever they give. -/
def outcomes (h : Holdings τ α) : List (Step τ α) → List (Outcome τ α)
  | [] => []
  | s :: rest => s.run h :: (s.run h).holdings.outcomes rest

/-- The holdings that steps lead to. -/
def after (h : Holdings τ α) (steps : List (Step τ α)) : Holdings τ α :=
  steps.foldl (fun h s => (s.run h).holdings) h

@[simp] theorem after_append (h : Holdings τ α) (steps more : List (Step τ α)) :
    h.after (steps ++ more) = (h.after steps).after more := by
  simp [after, List.foldl_append]

theorem after_singleton (h : Holdings τ α) (s : Step τ α) :
    h.after [s] = (s.run h).holdings := rfl

/-- Some run over keys of the forest leads to the holdings. -/
def Reachable (f : Forest τ) (h : Holdings τ α) : Prop :=
  ∃ steps : List (Step τ α), (∀ s ∈ steps, s.Within f) ∧ empty.after steps = h

namespace Reachable

variable {f : Forest τ} {h : Holdings τ α}

theorem empty : (Holdings.empty : Holdings τ α).Reachable f := ⟨[], by simp, rfl⟩

theorem step (hh : h.Reachable f) {s : Step τ α} (hs : s.Within f) :
    (s.run h).holdings.Reachable f := by
  obtain ⟨steps, hsteps, rfl⟩ := hh
  refine ⟨steps ++ [s], ?_, by rw [after_append, after_singleton]⟩
  intro t ht
  rcases List.mem_append.mp ht with ht | ht
  · exact hsteps t ht
  · rw [List.mem_singleton.mp ht]
    exact hs

/-- What a forest reaches, it still reaches with more keys. -/
theorem mono (hh : h.Reachable f) {g : Forest τ} (hfg : ∀ k ∈ f.keys, k ∈ g.keys) :
    h.Reachable g := by
  obtain ⟨steps, hsteps, rfl⟩ := hh
  exact ⟨steps, fun s hs => (hsteps s hs).mono hfg, rfl⟩

/-- What holds at the start and outlasts each step holds of all reachable holdings. -/
theorem induct {P : Holdings τ α → Prop} (start : P Holdings.empty)
    (next : ∀ h (s : Step τ α), s.Within f → P h → P (s.run h).holdings)
    (hh : h.Reachable f) : P h := by
  obtain ⟨steps, hsteps, rfl⟩ := hh
  induction steps using List.reverseRecOn with
  | nil => exact start
  | append_singleton steps s ih =>
    rw [after_append, after_singleton]
    exact next _ s (hsteps s (by simp)) (ih fun t ht => hsteps t (by simp [ht]))

end Reachable

end Holdings

end GrammarRegistry
