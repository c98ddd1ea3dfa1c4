-- Plain registries behind gates. The first gate that refuses a change settles it, and nothing is
-- touched or reported; a change that no gate refuses is made in the storage. So a second change
-- that is refused at a gate leaves all that is held to the undoing of the first.
import GrammarRegistry.Proofs.Registry.Effects

namespace GrammarRegistry

variable {τ α : Type}

/-! ## Gates before a plain registry -/

/-- A plain registry behind gates, the outermost first. -/
def Registry.gated (gs : List Gate) (s : Storage) : Registry := gs.foldr .gate (.plain s)

/-- Refuses one kind of change, whatever the key. -/
def Policy.refusing (op : Mutation) (e : RegistryError) : Policy τ := fun asked _ =>
  if asked = op then some e else none

/-- The error of the first gate that refuses the change, if one does. -/
def Holdings.refusal? (h : Holdings τ α) (gs : List Gate) (op : Mutation) (k : Key τ) :
    Option RegistryError :=
  gs.findSome? fun g => h.policy g op k

theorem Holdings.AgreeOutside.refusal?_eq {ss : List Storage} {h h' : Holdings τ α}
    (hh : h.AgreeOutside ss h') (gs : List Gate) (op : Mutation) (k : Key τ) :
    h'.refusal? gs op k = h.refusal? gs op k := by
  simp only [Holdings.refusal?, Holdings.policy, hh.policies]

namespace Registry

variable {gs : List Gate} {s : Storage}

theorem front_gated (gs : List Gate) (s : Storage) : (gated gs s).front = s := by
  induction gs with
  | nil => rfl
  | cons g gs ih => exact ih

variable [DecidableEq τ] [PayloadTypes τ]

/-- A change is refused by the first gate that does so, or made in the storage. -/
theorem change_gated (k : Key τ) (d : Shared α) (op : Mutation) (gs : List Gate) (s : Storage)
    (h : Holdings τ α) :
    change k d op (gated gs s) h =
      match h.refusal? gs op k with
      | some e => ⟨h, .error e, []⟩
      | none => change k d op (plain s) h := by
  induction gs with
  | nil => rfl
  | cons g gs ih =>
    have hgate : change k d op (gated (g :: gs) s) h =
        match h.policy g op k with
        | some e => ⟨h, .error e, []⟩
        | none => change k d op (gated gs s) h := by
      cases op <;> rfl
    simp only [hgate, ih, Holdings.refusal?, List.findSome?_cons]
    cases h.policy g op k <;> rfl

end Registry

/-! ## Undoing -/

/-- The warnings among the events of a change. -/
def Outcome.warnings (o : Outcome τ α) : List Event := o.events.filter (·.level = .warn)

namespace Change

variable {first second undo : Change τ α} {refused undoFailed : RegistryError → Event}
  {h : Holdings τ α}

/-- A second change that is refused outright leaves it to the undoing what is held in the end. -/
theorem andThen_refused_outright {e : RegistryError} (ha : (first h).result = .ok ())
    (hb : second (first h).holdings = ⟨(first h).holdings, .error e, []⟩) :
    andThen first second undo refused undoFailed h =
      ⟨(undo (first h).holdings).holdings, .error e,
        (first h).events ++ [refused e] ++ (undo (first h).holdings).events ++
          reportFailure undoFailed (undo (first h).holdings).result⟩ := by
  simp only [andThen, ha, hb, List.append_nil]

/-- Then the one warning, if there is one, is that the undoing was refused too. -/
theorem andThen_refused_outright_warnings {e : RegistryError} (ha : (first h).result = .ok ())
    (hb : second (first h).holdings = ⟨(first h).holdings, .error e, []⟩)
    (hfirst : (first h).warnings = []) (hundo : (undo (first h).holdings).warnings = [])
    (hrefused : (refused e).level ≠ .warn) (hfailed : ∀ x, (undoFailed x).level = .warn) :
    (andThen first second undo refused undoFailed h).warnings =
      reportFailure undoFailed (undo (first h).holdings).result := by
  rw [andThen_refused_outright ha hb]
  unfold Outcome.warnings at hfirst hundo ⊢
  simp only [List.filter_append, hfirst, hundo, List.nil_append]
  cases (undo (first h).holdings).result with
  | ok _ => simp [reportFailure, hrefused]
  | error x => simp [reportFailure, hrefused, hfailed]

end Change

/-! ## Changing one list more than once -/

namespace Lives

variable {L : Lives τ α}

theorem edit_edit (L : Lives τ α) (s : Storage) (g g' : Live τ α → Live τ α) :
    (L.edit s g).edit s g' = L.edit s fun l => g' (g l) := by
  funext i
  by_cases hi : i = s.id
  · simp [edit, hi]
  · simp [edit, hi]

theorem edit_congr {s : Storage} {g g' : Live τ α → Live τ α} (h : g (L s.id) = g' (L s.id)) :
    L.edit s g = L.edit s g' := by
  funext i
  by_cases hi : i = s.id
  · simp [edit, hi, h]
  · simp [edit, hi]

theorem edit_register_ne (L : Lives τ α) (s : Storage) (k : Key τ) (d : Shared α) :
    L.edit s (Live.register · k d) ≠ L := by
  intro hsame
  have hlength := congrArg List.length (congrFun hsame s.id)
  rw [edit_self, Live.register, List.length_append, List.length_singleton] at hlength
  omega

end Lives

/-! ## One side -/

variable [PayloadTypes τ] {f : Forest τ} {h : Holdings τ α} {L : Lives τ α} {k : Key τ}

/-- The change went through, without a warning, and made the request in one storage. -/
structure Outcome.Granted (f : Forest τ) (h : Holdings τ α) (L : Lives τ α) (s : Storage)
    (q : Request τ α) (o : Outcome τ α) : Prop where
  result : o.result = .ok ()
  stands : o.holdings.StandFor f (L.edit s (·.apply q))
  kept : h.AgreeOutside [s] o.holdings
  quiet : o.warnings = []

namespace Registry

variable [DecidableEq τ] {gs : List Gate} {s : Storage} {op : Mutation} {d : Shared α}

theorem change_gated_refused {e : RegistryError} (hr : h.refusal? gs op k = some e) :
    change k d op (gated gs s) h = ⟨h, .error e, []⟩ := by
  rw [change_gated, hr]

theorem change_gated_granted (hf : f.Grown) (hh : h.StandFor f L) (hk : k ∈ f.keys)
    (d : Shared α) (s : Storage) (hr : h.refusal? gs op k = none) :
    (change k d op (gated gs s) h).Granted f h L s ⟨op, k, d⟩ := by
  have hkept : h.AgreeOutside [s] (change k d op (plain s) h).holdings :=
    confined_change k d op (plain s) h
  rw [change_gated, hr]
  cases op with
  | register =>
    obtain ⟨hok, hstands⟩ := s.register_spec hf hh hk d
    obtain ⟨c, ticket, hrun, _⟩ := Storage.register_eq hf (hh s.id) hk d
    refine ⟨hok, hstands, hkept, ?_⟩
    rw [Outcome.warnings, change, hrun]
    rfl
  | unregister =>
    obtain ⟨hok, hstands⟩ := s.unregister_spec hf hh hk d
    refine ⟨hok, hstands, hkept, ?_⟩
    rcases Storage.unregister_eq hf (hh s.id) hk d with ⟨_, hrun, _⟩ | ⟨_, _, _, _, hrun, _⟩
    · rw [Outcome.warnings, change, hrun]
      rfl
    · rw [Outcome.warnings, change, hrun]
      rfl

/-- No side warns of anything by itself. -/
theorem change_gated_quiet (hf : f.Grown) (hh : h.StandFor f L) (hk : k ∈ f.keys) (d : Shared α) :
    (change k d op (gated gs s) h).warnings = [] := by
  cases hr : h.refusal? gs op k with
  | none => exact (change_gated_granted hf hh hk d s hr).quiet
  | some e =>
    rw [change_gated_refused hr]
    rfl

end Registry

end GrammarRegistry
