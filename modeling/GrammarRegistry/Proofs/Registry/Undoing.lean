-- Undoing a registration. Where no view and no gate is in the way, a removal right after a
-- registration takes back just that registration: in each storage as often as the storage was
-- reached, and also through a key above the one that was registered under. Older registrations
-- of the same descriptor stay, however many there are.
import GrammarRegistry.Proofs.Registry.Effects

namespace GrammarRegistry

variable {τ α : Type} [DecidableEq τ] [PayloadTypes τ] {f : Forest τ} {h : Holdings τ α}
  {k a : Key τ}

namespace Registry

/-- A registration and its removal both go through, and each storage stands for what it stood for
before. -/
theorem register_unregister_standFor (hf : f.Grown) (hk : k ∈ f.keys) (ha : a ∈ k.lineage)
    (d : Shared α) {r : Registry} (hgates : r.gates = []) (hview : r.hasView = false)
    {L : Lives τ α} (hh : h.StandFor f L) :
    let made := r.register k d h
    let undone := r.unregister a d made.holdings
    made.result = .ok () ∧ undone.result = .ok () ∧ undone.holdings.StandFor f L := by
  intro made undone
  have hfirst := (firstView?_eq_none_iff_hasView .register r).mpr hview
  obtain ⟨hmade, hstands⟩ := register_through hf hk d hgates hfirst hh
  have hundone := unregister_undoes_register hf (hf.lineage_mem hk ha)
    (Key.isWithin_of_mem_lineage ha) d hgates hfirst hstands
  exact ⟨hmade, hundone⟩

/-- In a registry of plain storages and child registries only, a registration that is removed
again, through its own key or one above, leaves the live list of every storage as it was. Nothing
asked afterwards tells that the two calls were made, except the numbers of later tickets. -/
theorem register_unregister_unnoticed (hf : f.Grown) (hh : h.Reachable f) (hk : k ∈ f.keys)
    (ha : a ∈ k.lineage) (d : Shared α) {r : Registry} (hgates : r.gates = [])
    (hview : r.hasView = false) :
    let made := r.register k d h
    let undone := r.unregister a d made.holdings
    made.result = .ok () ∧ undone.result = .ok () ∧
      (∃ L, h.StandFor f L ∧ undone.holdings.StandFor f L) ∧ undone.holdings.SameAnswers f h ∧
      ∀ steps : List (Step τ α), (∀ s ∈ steps, s.Within f) →
        List.Forall₂ (fun o o' => Outcome.Alike f o o' ∧ o.holdings.SameAnswers f o'.holdings)
          (undone.holdings.outcomes steps) (h.outcomes steps) := by
  intro made undone
  obtain ⟨L, hL⟩ := hh.standFor hf
  obtain ⟨hmade, hundone, hleft⟩ := register_unregister_standFor hf hk ha d hgates hview hL
  have hkept : h.AgreeOutside r.writable undone.holdings :=
    (confined_change k d .register r h).trans (confined_change a d .unregister r made.holdings)
  have halike : undone.holdings.Alike f h :=
    ⟨⟨L, hleft, hL⟩, hkept.policies, hkept.storages, hkept.gates⟩
  exact ⟨hmade, hundone, ⟨L, hL, hleft⟩, halike.sameAnswers hf,
    fun _ hsteps => halike.outcomes_sameAnswers hf hsteps⟩

/-- One storage is reached three times, and holds an effect and a condition of the descriptor
already. -/
theorem register_unregister_unnoticed_shared :
    let shared := plain ⟨0, "shared"⟩
    let r := child (child shared shared) (child (plain ⟨1, "own"⟩) shared)
    let h : Holdings Payload String :=
      Holdings.empty.after [.ask shared ⟨.register, BaseKeys.effects, ⟨0, "a"⟩⟩,
        .ask shared ⟨.register, BaseKeys.conditions, ⟨0, "a"⟩⟩]
    let made := r.register BaseKeys.effects ⟨0, "a"⟩ h
    let undone := r.unregister BaseKeys.statements ⟨0, "a"⟩ made.holdings
    BaseKeys.forest.Grown ∧ h.Reachable BaseKeys.forest ∧
      BaseKeys.effects ∈ BaseKeys.forest.keys ∧
      BaseKeys.statements ∈ BaseKeys.effects.lineage ∧ r.gates = [] ∧ r.hasView = false ∧
      made.result = .ok () ∧ undone.result = .ok () ∧
      (made.holdings.catalogs 0).size = 5 ∧ undone.holdings.SameAnswers BaseKeys.forest h := by
  intro shared r h made undone
  have hkey : BaseKeys.effects ∈ BaseKeys.forest.keys := by simp [BaseKeys.forest]
  have habove : BaseKeys.statements ∈ BaseKeys.effects.lineage := by
    simp [BaseKeys.effects, Key.lineage, Key.ancestors]
  have hreached : h.Reachable BaseKeys.forest :=
    ⟨_, by simp [Step.Within, BaseKeys.forest], rfl⟩
  obtain ⟨hmade, hundone, _, hanswers, _⟩ := register_unregister_unnoticed BaseKeys.forest_grown
    hreached hkey habove ⟨0, "a"⟩ (r := r) rfl rfl
  exact ⟨BaseKeys.forest_grown, hreached, hkey, habove, rfl, rfl, hmade, hundone, rfl, hanswers⟩

end Registry

end GrammarRegistry
