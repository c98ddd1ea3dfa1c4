-- When a registry refuses a change, and what it says then. A registry without gates refuses
-- exactly if a view occurs in it, whatever it holds and whatever the descriptor, and the error
-- names the first view that is met. What is undone on the way is never refused in turn, so there
-- is no warning, and no descriptor turns out to be of a wrong type.
import GrammarRegistry.Proofs.Registry.Effects

namespace GrammarRegistry

variable {τ α : Type}

/-! ## Reports without a warning -/

/-- The error that an event reports, if it reports one. -/
def Event.error? : Event → Option RegistryError
  | .childRejected _ _ _ e | .rollbackFailed _ _ e => some e
  | .parentRejected _ _ _ e | .restoreFailed _ _ e => some e
  | _ => none

/-- The event is no warning, and tells of no error but that of a read-only registry. -/
structure Event.Calm (e : Event) : Prop where
  level : e.level ≠ .warn
  message : e.message ≠ "parent rollback failed" ∧ e.message ≠ "child restore failed"
  error : ∀ x, e.error? = some x → x.isUnsupported = true

theorem Event.calm_of_level {e : Event} (hlevel : e.level ≠ .warn)
    (herror : ∀ x, e.error? = some x → x.isUnsupported = true) : e.Calm := by
  refine ⟨hlevel, ?_, herror⟩
  cases e <;> simp_all [Event.level, Event.message]

theorem Event.calm_of_trace {e : Event} (h : e.level = .trace) : e.Calm := by
  refine calm_of_level (by simp [h]) ?_
  cases e <;> simp_all [Event.level, Event.error?]

/-! ## The view that is met -/

/-- What a change is answered that meets the given view first, or none. -/
def verdict (op : Mutation) (key : String) : Option String → Except RegistryError Unit
  | none => .ok ()
  | some label => .error (.unsupported label op key)

/-- The outcome of a change that meets the given view first, or none. -/
structure Outcome.Meets (op : Mutation) (key : String) (view? : Option String)
    (o : Outcome τ α) : Prop where
  result : o.result = verdict op key view?
  calm : ∀ e ∈ o.events, e.Calm

namespace Change

variable {first second undo : Change τ α} {refused undoFailed : RegistryError → Event}
  {h : Holdings τ α}

theorem meets_nothing (op : Mutation) (key : String) (h : Holdings τ α) :
    (nothing h).Meets op key none :=
  ⟨rfl, by simp [nothing]⟩

theorem andThen_refused_second_events {e : RegistryError} (ha : (first h).result = .ok ())
    (hb : (second (first h).holdings).result = .error e)
    (hc : (undo (second (first h).holdings).holdings).result = .ok ()) :
    (andThen first second undo refused undoFailed h).events =
      (first h).events ++ (second (first h).holdings).events ++ [refused e] ++
        (undo (second (first h).holdings).holdings).events := by
  simp only [andThen, ha, hb, hc, reportFailure, List.append_nil]

/-- Of two changes, the view that the first one meets counts, else that of the second. The undoing
comes up only if the second alone meets one, and must not meet one itself. -/
theorem andThen_meets {op : Mutation} {key : String} {v w : Option String} (undoing : Mutation)
    (ha : (first h).Meets op key v)
    (hb : (second (first h).holdings).Meets op key w)
    (hc : v = none → (undo (second (first h).holdings).holdings).Meets undoing key none)
    (hrefused : ∀ e, e.isUnsupported = true → (refused e).Calm) :
    (andThen first second undo refused undoFailed h).Meets op key (v.or w) := by
  cases v with
  | some label =>
    rw [andThen_refused_first ha.result]
    exact ha
  | none =>
    cases w with
    | none =>
      rw [andThen_ok ha.result hb.result]
      refine ⟨rfl, ?_⟩
      intro e he
      rcases List.mem_append.mp he with he | he
      · exact ha.calm e he
      · exact hb.calm e he
    | some label =>
      have hundo := hc rfl
      refine ⟨(andThen_refused_second ha.result hb.result).1, ?_⟩
      rw [andThen_refused_second_events ha.result hb.result hundo.result]
      intro e he
      simp only [List.mem_append, List.mem_singleton] at he
      rcases he with ((he | he) | rfl) | he
      · exact ha.calm e he
      · exact hb.calm e he
      · exact hrefused _ rfl
      · exact hundo.calm e he

end Change

/-! ## Registries -/

namespace Registry

variable [DecidableEq τ] [PayloadTypes τ] {f : Forest τ} {h : Holdings τ α} {k : Key τ}

theorem change_standFor (hf : f.Grown) (hk : k ∈ f.keys) (d : Shared α) (op : Mutation)
    (r : Registry) (hh : ∃ L, h.StandFor f L) :
    ∃ L, (change k d op r h).holdings.StandFor f L := by
  obtain ⟨L, hL⟩ := hh
  obtain ⟨L', hL', _⟩ :=
    (respects_change hf hk d op r h h (Holdings.Alike.of_standFor hL)).holdings.lives
  exact ⟨L', hL'⟩

/-- A change is answered by the first view in its way, and goes through if there is none. -/
theorem change_meets (hf : f.Grown) (hk : k ∈ f.keys) (d : Shared α) (op : Mutation)
    {r : Registry} (hgates : r.gates = []) (hh : ∃ L, h.StandFor f L) :
    (change k d op r h).Meets op k.name (r.firstView? op) := by
  induction r generalizing op h with
  | plain s =>
    obtain ⟨L, hL⟩ := hh
    cases op with
    | register =>
      obtain ⟨c, ticket, hrun, _⟩ := Storage.register_eq hf (hL s.id) hk d
      rw [change, hrun]
      exact ⟨rfl, by simpa using Event.calm_of_trace rfl⟩
    | unregister =>
      rcases Storage.unregister_eq hf (hL s.id) hk d with
        ⟨_, hrun, _⟩ | ⟨x, c, ticket, _, hrun, _⟩
      · rw [change, hrun]
        exact ⟨rfl, by simpa using Event.calm_of_trace rfl⟩
      · rw [change, hrun]
        exact ⟨rfl, by simpa using Event.calm_of_trace rfl⟩
  | view backing _ =>
    have hcalm : (Event.changeRejected backing.label op k.name).Calm :=
      Event.calm_of_level (by simp [Event.level]) (by simp [Event.error?])
    cases op <;> exact ⟨rfl, by simpa [change, Change.refuse] using hcalm⟩
  | gate g inner _ => cases hgates
  | child p c ihp ihc =>
    rw [gates, List.append_eq_nil_iff] at hgates
    cases op with
    | register =>
      have hp := change_standFor hf hk d .register p hh
      have hc := change_standFor hf hk d .register c hp
      refine Change.andThen_meets .unregister (ihp .register hgates.1 hh)
        (ihc .register hgates.2 hp) ?_ fun e he =>
          Event.calm_of_level (by simp [Event.level]) (by simpa [Event.error?] using he)
      -- a parent side that took the registration has no view that could keep it
      intro hnone
      rw [← (firstView?_eq_none_iff .unregister .register p).mpr hnone]
      exact ihp .unregister hgates.1 hc
    | unregister =>
      have hc := change_standFor hf hk d .unregister c hh
      have hp := change_standFor hf hk d .unregister p hc
      refine Change.andThen_meets .register (ihc .unregister hgates.2 hh)
        (ihp .unregister hgates.1 hc) ?_ fun e he =>
          Event.calm_of_level (by simp [Event.level]) (by simpa [Event.error?] using he)
      intro hnone
      split
      · rw [← (firstView?_eq_none_iff .register .unregister c).mpr hnone]
        exact ihc .register hgates.2 hp
      · exact Change.meets_nothing _ _ _

/-- A registry without gates refuses a change exactly if a view occurs in it. The error is that
the first view in the way is read-only, under its backing's label and for the change that was
asked for, so it is not the error of anything undone; no undoing fails, and no error that is
reported on the way is of another kind. -/
theorem change_refused_by_firstView (hf : f.Grown) (hh : h.Reachable f) (hk : k ∈ f.keys)
    (d : Shared α) (op : Mutation) {r : Registry} (hgates : r.gates = []) :
    let asked := change k d op r h
    ((∃ e, asked.result = .error e) ↔ r.hasView = true) ∧
      (∀ e, asked.result = .error e →
        ∃ label, r.firstView? op = some label ∧ e = .unsupported label op k.name) ∧
      ∀ e ∈ asked.events, e.Calm := by
  intro asked
  have hmeets : asked.Meets op k.name (r.firstView? op) :=
    change_meets hf hk d op hgates (hh.standFor hf)
  have hview := firstView?_eq_none_iff_hasView op r
  refine ⟨?_, ?_, hmeets.calm⟩
  · rw [hmeets.result]
    cases hfirst : r.firstView? op with
    | none => simp [verdict, hview.mp hfirst]
    | some label =>
      have hoccurs : r.hasView = true := by
        rw [← Bool.not_eq_false, ← hview, hfirst]
        simp
      simp [verdict, hoccurs]
  · intro e he
    rw [hmeets.result] at he
    cases hfirst : r.firstView? op with
    | none =>
      rw [hfirst] at he
      cases he
    | some label =>
      rw [hfirst] at he
      cases he
      exact ⟨label, rfl, rfl⟩

/-- The child side has given up its registration when the view in the parent side is met, and
takes it back without a warning. -/
theorem change_refused_by_firstView_inside :
    let own := plain ⟨1, "local"⟩
    let r := child (child (plain ⟨0, "global"⟩) (view (plain ⟨2, "frozen"⟩))) own
    let h : Holdings Payload String :=
      Holdings.empty.after [.ask own ⟨.register, BaseKeys.effects, ⟨0, "a"⟩⟩]
    let asked := change BaseKeys.effects ⟨0, "a"⟩ .unregister r h
    BaseKeys.forest.Grown ∧ h.Reachable BaseKeys.forest ∧
      BaseKeys.effects ∈ BaseKeys.forest.keys ∧ r.gates = [] ∧
      asked.result = .error (.unsupported "frozen" .unregister "effect") ∧
      (∃ label, r.firstView? .unregister = some label ∧
        RegistryError.unsupported "frozen" .unregister "effect" =
          .unsupported label .unregister BaseKeys.effects.name) ∧
      ∀ e ∈ asked.events, e.Calm := by
  intro own r h asked
  have hkey : BaseKeys.effects ∈ BaseKeys.forest.keys := by simp [BaseKeys.forest]
  have hreached : h.Reachable BaseKeys.forest :=
    ⟨_, by simp [Step.Within, BaseKeys.forest], rfl⟩
  have hrefused : asked.result = .error (.unsupported "frozen" .unregister "effect") := rfl
  obtain ⟨_, hlabel, hcalm⟩ := change_refused_by_firstView BaseKeys.forest_grown hreached hkey
    ⟨0, "a"⟩ .unregister (r := r) rfl
  exact ⟨BaseKeys.forest_grown, hreached, hkey, rfl, hrefused, hlabel _ hrefused, hcalm⟩

end Registry

end GrammarRegistry
