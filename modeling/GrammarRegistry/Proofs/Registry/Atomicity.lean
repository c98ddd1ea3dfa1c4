-- A refused registration is as if it had never been asked for. Any registry without gates will
-- do: sides may be nested, and one storage may occur in many places.
import GrammarRegistry.Proofs.Registry.Effects

namespace GrammarRegistry

variable {τ α : Type} [DecidableEq τ] [PayloadTypes τ] {f : Forest τ} {h : Holdings τ α} {k : Key τ}

namespace Registry

/-- Whatever the storages stand for before a registration that is refused, they stand for it
afterwards. -/
theorem register_error_standFor (hf : f.Grown) (hk : k ∈ f.keys) (d : Shared α) {r : Registry}
    (hgates : r.gates = []) {e : RegistryError} (he : (r.register k d h).result = .error e)
    {L : Lives τ α} (hh : h.StandFor f L) : (r.register k d h).holdings.StandFor f L := by
  cases hview : r.firstView? .register with
  | none =>
    obtain ⟨hok, _⟩ := register_through hf hk d hgates hview hh
    rw [hok] at he
    cases he
  | some label => exact (register_refused hf hk d hgates hview hh).2

/-- A refused registration leaves the live list of every storage as it was. Nothing asked
afterwards tells that the call was made: not the registries as they are, and no later run,
except by the numbers of its tickets. -/
theorem register_error_unnoticed (hf : f.Grown) (hh : h.Reachable f) (hk : k ∈ f.keys)
    (d : Shared α) {r : Registry} (hgates : r.gates = []) {e : RegistryError}
    (he : (r.register k d h).result = .error e) :
    let left := (r.register k d h).holdings
    (∃ L, h.StandFor f L ∧ left.StandFor f L) ∧ left.SameAnswers f h ∧
      ∀ steps : List (Step τ α), (∀ s ∈ steps, s.Within f) →
        List.Forall₂ (fun o o' => Outcome.Alike f o o' ∧ o.holdings.SameAnswers f o'.holdings)
          (left.outcomes steps) (h.outcomes steps) := by
  intro left
  obtain ⟨L, hL⟩ := hh.standFor hf
  have hleft : left.StandFor f L := register_error_standFor hf hk d hgates he hL
  have hkept : h.AgreeOutside r.writable left := confined_change k d .register r h
  have halike : left.Alike f h := ⟨⟨L, hleft, hL⟩, hkept.policies, hkept.storages, hkept.gates⟩
  exact ⟨⟨L, hL, hleft⟩, halike.sameAnswers hf,
    fun _ hsteps => halike.outcomes_sameAnswers hf hsteps⟩

/-- The parent side is itself a child registry, and both of its sides are one storage. -/
theorem register_error_unnoticed_shared :
    let shared := plain ⟨0, "shared"⟩
    let r := child (child shared shared) (view (plain ⟨1, "closed"⟩))
    let h : Holdings Payload String :=
      Holdings.empty.after [.ask shared ⟨.register, BaseKeys.conditions, ⟨0, "a"⟩⟩]
    BaseKeys.forest.Grown ∧ h.Reachable BaseKeys.forest ∧
      BaseKeys.effects ∈ BaseKeys.forest.keys ∧ r.gates = [] ∧
      (r.register BaseKeys.effects ⟨0, "a"⟩ h).result =
        .error (.unsupported "closed" .register "effect") ∧
      (r.register BaseKeys.effects ⟨0, "a"⟩ h).holdings.SameAnswers BaseKeys.forest h := by
  intro shared r h
  have hkey : BaseKeys.effects ∈ BaseKeys.forest.keys := by simp [BaseKeys.forest]
  have hreached : h.Reachable BaseKeys.forest :=
    ⟨_, by simp [Step.Within, BaseKeys.forest], rfl⟩
  have hrefused : (r.register BaseKeys.effects ⟨0, "a"⟩ h).result =
      .error (.unsupported "closed" .register "effect") := rfl
  exact ⟨BaseKeys.forest_grown, hreached, hkey, rfl, hrefused,
    (register_error_unnoticed BaseKeys.forest_grown hreached hkey ⟨0, "a"⟩ rfl hrefused).2.1⟩

end Registry

end GrammarRegistry
