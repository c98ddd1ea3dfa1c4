-- Child registries whose sides may refuse. Each side is a plain storage behind gates, and what the
-- gates refuse settles what a change comes to: whose error is given, what is undone, and what is
-- left behind where the undoing is refused too.
import GrammarRegistry.Proofs.Registry.Gates
import GrammarRegistry.Proofs.Registry.Restoring

namespace GrammarRegistry

variable {τ α : Type} {f : Forest τ} {h : Holdings τ α} {L : Lives τ α} {k : Key τ} {d : Shared α}

/-! ## What a refused removal leaves -/

/-- What tells registrations apart: the home, and which descriptor it is. -/
def Registration.mark (r : Registration τ α) : Key τ × Nat := (r.home, r.info.id)

namespace Live

/-- What a removal that the parent side refuses leaves on the child side: the newest match is gone,
and registered anew if the child side takes it back. -/
def afterRefusal (takesBack : Bool) (l : Live τ α) (k : Key τ) (d : Shared α) : Live τ α :=
  if takesBack then restored l k d else unregister l k d

theorem afterRefusal_of_forall_not {l : Live τ α} (h : ∀ r ∈ l, r.isMatch k d = false)
    (takesBack : Bool) : afterRefusal takesBack l k d = l := by
  rw [afterRefusal, restored_of_forall_not h, unregister_of_forall_not h, ite_self]

/-- The list is as before exactly if there is no match, or the newest registration of all was made
under the very key, and is taken back. -/
theorem afterRefusal_marks_iff (takesBack : Bool) (l : Live τ α) (k : Key τ) (d : Shared α) :
    (afterRefusal takesBack l k d).map Registration.mark = l.map Registration.mark ↔
      (∀ r ∈ l, r.isMatch k d = false) ∨
        (takesBack = true ∧ ∃ older i, l = older ++ [⟨k, i⟩] ∧ i.isSame d = true) := by
  rcases forall_not_or_exists_last (Registration.isMatch k d) l with
    hnone | ⟨l₁, r, l₂, hl, hr, hl₂⟩
  · rw [afterRefusal_of_forall_not hnone]
    exact ⟨fun _ => Or.inl hnone, fun _ => rfl⟩
  · have hmatch : ¬ ∀ x ∈ l, x.isMatch k d = false := fun h => by
      have hr' := h r (by simp [hl])
      rw [hr] at hr'
      cases hr'
    rw [or_iff_right hmatch]
    cases takesBack with
    | false =>
      refine iff_of_false ?_ (by simp)
      intro hsame
      have hlength := congrArg List.length hsame
      simp only [afterRefusal, Bool.false_eq_true, if_false, hl, unregister_split hr hl₂,
        List.length_map, List.length_append, List.length_cons] at hlength
      omega
    | true =>
      rw [and_iff_right rfl, afterRefusal, if_pos rfl]
      refine ⟨?_, ?_⟩
      · intro hsame
        -- the list ends as the restored one does
        rw [hl, restored_split hr hl₂, ← hl, List.map_append, eq_comm,
          List.map_eq_append_iff] at hsame
        obtain ⟨older, last, hsplit, _, hlast⟩ := hsame
        obtain ⟨x, rfl, hx⟩ := List.map_eq_singleton_iff.mp hlast
        obtain ⟨hhome, hid⟩ := Prod.mk.inj hx
        refine ⟨older, x.info, ?_, beq_iff_eq.mpr hid⟩
        rw [hsplit, ← show x.home = k from hhome]
      · rintro ⟨older, i, rfl, hi⟩
        have hlast : (⟨k, i⟩ : Registration τ α).isMatch k d = true := by
          simp [Registration.isMatch, Registration.isUnder, hi, k.isWithin_self]
        have hid : d.id = i.id := (beq_iff_eq.mp hi).symm
        have hnew : restored (older ++ [⟨k, i⟩]) k d = older ++ [] ++ [⟨k, d⟩] :=
          restored_split hlast (by simp)
        rw [hnew]
        simp [Registration.mark, hid]

end Live

variable [PayloadTypes τ]

/-! ## Registrations at a child registry -/

namespace Registry

variable [DecidableEq τ] {ps cs : List Gate} {t s : Storage} {e : RegistryError}

theorem register_parent_refused (d : Shared α) (hp : h.refusal? ps .register k = some e)
    (c : Registry) : (child (gated ps t) c).register k d h = ⟨h, .error e, []⟩ := by
  have hparent : (gated ps t).register k d h = ⟨h, .error e, []⟩ := change_gated_refused hp
  rw [register_child, Change.andThen_refused_first (by rw [hparent]), hparent]

theorem register_both_granted (hf : f.Grown) (hh : h.StandFor f L) (hk : k ∈ f.keys)
    (d : Shared α) (t s : Storage) (hp : h.refusal? ps .register k = none)
    (hc : h.refusal? cs .register k = none) :
    let asked := (child (gated ps t) (gated cs s)).register k d h
    asked.result = .ok () ∧ asked.warnings = [] ∧
      asked.holdings.StandFor f
        ((L.edit t (Live.register · k d)).edit s (Live.register · k d)) := by
  intro asked
  have hparent := change_gated_granted hf hh hk d t hp
  have hchild := change_gated_granted hf hparent.stands hk d s
    ((hparent.kept.refusal?_eq cs .register k).trans hc)
  have hasked : asked = _ := Change.andThen_ok hparent.result hchild.result
  rw [hasked]
  refine ⟨rfl, ?_, hchild.stands⟩
  rw [Outcome.warnings, List.filter_append]
  exact List.append_eq_nil_iff.mpr ⟨hparent.quiet, hchild.quiet⟩

/-- If the child side refuses, the parent side is asked to give up what it took, and a refusal of
that is the one warning. -/
theorem register_child_refused (hf : f.Grown) (hh : h.StandFor f L) (hk : k ∈ f.keys)
    (d : Shared α) (t s : Storage) (hp : h.refusal? ps .register k = none)
    (hc : h.refusal? cs .register k = some e) :
    let p := gated ps t
    let asked := (child p (gated cs s)).register k d h
    let made := p.register k d h
    let undone := p.unregister k d made.holdings
    made.Granted f h L t ⟨.register, k, d⟩ ∧
      asked.result = .error e ∧ asked.holdings = undone.holdings ∧
      asked.warnings = Change.reportFailure (.rollbackFailed p.label k.name) undone.result := by
  intro p asked made undone
  have hmade : made.Granted f h L t ⟨.register, k, d⟩ := change_gated_granted hf hh hk d t hp
  have hchild : (gated cs s).register k d made.holdings = ⟨made.holdings, .error e, []⟩ :=
    change_gated_refused ((hmade.kept.refusal?_eq cs .register k).trans hc)
  have hquiet : undone.warnings = [] := change_gated_quiet hf hmade.stands hk d
  have hasked : asked = _ := Change.andThen_refused_outright hmade.result hchild
  have hwarnings : asked.warnings = _ := Change.andThen_refused_outright_warnings hmade.result
    hchild hmade.quiet hquiet (by simp [Event.level]) (by simp [Event.level])
  refine ⟨hmade, ?_, ?_, hwarnings⟩
  · rw [hasked]
  · rw [hasked]
    rfl

theorem register_taken_back (hf : f.Grown) (hh : h.StandFor f L) (hk : k ∈ f.keys)
    (d : Shared α) (t s : Storage) (hp : h.refusal? ps .register k = none)
    (hc : h.refusal? cs .register k = some e) (hback : h.refusal? ps .unregister k = none) :
    let asked := (child (gated ps t) (gated cs s)).register k d h
    asked.result = .error e ∧ asked.warnings = [] ∧ asked.holdings.StandFor f L := by
  intro asked
  obtain ⟨hmade, hresult, hleft, hwarnings⟩ := register_child_refused hf hh hk d t s hp hc
  have hundone : ((gated ps t).unregister k d _).Granted f _ _ t ⟨.unregister, k, d⟩ :=
    change_gated_granted hf hmade.stands hk d t
      ((hmade.kept.refusal?_eq ps .unregister k).trans hback)
  refine ⟨hresult, ?_, ?_⟩
  · rw [hwarnings, hundone.result]
    rfl
  · have hsame :
        (L.edit t (·.apply ⟨.register, k, d⟩)).edit t (·.apply ⟨.unregister, k, d⟩) = L := by
      rw [Lives.edit_edit]
      exact Lives.edit_eq_self (Live.unregister_register k.isWithin_self)
    rw [hleft, ← hsame]
    exact hundone.stands

/-- What the parent side took stays there, and nothing else is changed. -/
theorem register_left_behind (hf : f.Grown) (hh : h.StandFor f L) (hk : k ∈ f.keys)
    (d : Shared α) (t s : Storage) (hp : h.refusal? ps .register k = none)
    (hc : h.refusal? cs .register k = some e) {e' : RegistryError}
    (hback : h.refusal? ps .unregister k = some e') :
    let p := gated ps t
    let asked := (child p (gated cs s)).register k d h
    asked.result = .error e ∧ asked.warnings = [.rollbackFailed p.label k.name e'] ∧
      asked.holdings.StandFor f (L.edit t (Live.register · k d)) ∧
      h.AgreeOutside [t] asked.holdings := by
  intro p asked
  obtain ⟨hmade, hresult, hleft, hwarnings⟩ := register_child_refused hf hh hk d t s hp hc
  have hundone : p.unregister k d (p.register k d h).holdings =
      ⟨(p.register k d h).holdings, .error e', []⟩ :=
    change_gated_refused ((hmade.kept.refusal?_eq ps .unregister k).trans hback)
  rw [hundone] at hleft hwarnings
  refine ⟨hresult, hwarnings, ?_, ?_⟩
  · rw [hleft]
    exact hmade.stands
  · rw [hleft]
    exact hmade.kept

/-- A registration goes through exactly if both sides take it. A refusal of the parent side is all
that happens; after one of the child side its error is given, and every live list is as before
exactly if the parent side gives up what it took. If it does not, that registration is left behind
there, and only then there is a warning. -/
theorem register_gated (hf : f.Grown) (hh : h.Reachable f) (hk : k ∈ f.keys) (d : Shared α)
    (ps cs : List Gate) (t s : Storage) :
    let p := gated ps t
    let asked := (child p (gated cs s)).register k d h
    let left := asked.holdings
    ∃ L, h.StandFor f L ∧
      (asked.result = .ok () ↔
        h.refusal? ps .register k = none ∧ h.refusal? cs .register k = none) ∧
      (asked.result = .ok () →
        left.StandFor f ((L.edit t (Live.register · k d)).edit s (Live.register · k d))) ∧
      (∀ e, h.refusal? ps .register k = some e →
        ∀ c : Registry, (child p c).register k d h = ⟨h, .error e, []⟩) ∧
      (∀ e, h.refusal? ps .register k = none → h.refusal? cs .register k = some e →
        asked.result = .error e ∧
        (left.StandFor f L ↔ h.refusal? ps .unregister k = none) ∧
        ∀ e', h.refusal? ps .unregister k = some e' →
          left.StandFor f (L.edit t (Live.register · k d)) ∧ h.AgreeOutside [t] left ∧
          asked.warnings = [.rollbackFailed p.label k.name e']) ∧
      (asked.warnings ≠ [] ↔
        h.refusal? ps .register k = none ∧ h.refusal? cs .register k ≠ none ∧
          h.refusal? ps .unregister k ≠ none) := by
  intro p asked left
  obtain ⟨L, hL⟩ := hh.standFor hf
  refine ⟨L, hL, ?_⟩
  cases hp : h.refusal? ps .register k with
  | some e =>
    have hasked : asked = ⟨h, .error e, []⟩ := register_parent_refused d hp (gated cs s)
    refine ⟨?_, ?_, ?_, ?_, ?_⟩
    · simp [hasked]
    · simp [hasked]
    · rintro x ⟨⟩ c
      exact register_parent_refused d hp c
    · simp
    · simp [hasked, Outcome.warnings]
  | none =>
    cases hc : h.refusal? cs .register k with
    | none =>
      obtain ⟨hok, hquiet, hstands⟩ : asked.result = .ok () ∧ asked.warnings = [] ∧
          left.StandFor f ((L.edit t (Live.register · k d)).edit s (Live.register · k d)) :=
        register_both_granted hf hL hk d t s hp hc
      refine ⟨?_, ?_, ?_, ?_, ?_⟩
      · simp [hok]
      · exact fun _ => hstands
      · simp
      · simp
      · simp [hquiet]
    | some e =>
      cases hback : h.refusal? ps .unregister k with
      | none =>
        obtain ⟨hresult, hquiet, hstands⟩ : asked.result = .error e ∧ asked.warnings = [] ∧
            left.StandFor f L := register_taken_back hf hL hk d t s hp hc hback
        refine ⟨?_, ?_, ?_, ?_, ?_⟩
        · simp [hresult]
        · simp [hresult]
        · simp
        · rintro x - ⟨⟩
          exact ⟨hresult, by simp [hstands], by simp⟩
        · simp [hquiet]
      | some e' =>
        obtain ⟨hresult, hwarned, hstands, hkept⟩ : asked.result = .error e ∧
            asked.warnings = [.rollbackFailed p.label k.name e'] ∧
            left.StandFor f (L.edit t (Live.register · k d)) ∧ h.AgreeOutside [t] left :=
          register_left_behind hf hL hk d t s hp hc hback
        have hother : ¬ left.StandFor f L := fun hstill =>
          L.edit_register_ne t k d (hstands.unique hf hstill)
        refine ⟨?_, ?_, ?_, ?_, ?_⟩
        · simp [hresult]
        · simp [hresult]
        · simp
        · rintro x - ⟨⟩
          refine ⟨hresult, by simp [hother], ?_⟩
          rintro y ⟨⟩
          exact ⟨hstands, hkept, hwarned⟩
        · simp [hwarned]

/-- Both sides share a storage. No registration gets past the gate on the child side, and no removal
past the one on the parent side. -/
theorem register_gated_shared :
    let s : Storage := ⟨0, "shared"⟩
    let above : Gate := ⟨0⟩
    let below : Gate := ⟨1⟩
    let full : RegistryError := .unsupported "full" .register "effect"
    let kept : RegistryError := .unsupported "kept" .unregister "effect"
    let a : Shared String := ⟨0, "a"⟩
    let h : Holdings Payload String :=
      Holdings.empty.after [.openStorage "shared", .openGate, .openGate,
        .setPolicy above (.refusing .unregister kept), .setPolicy below (.refusing .register full),
        .ask (plain s) ⟨.register, BaseKeys.effects, a⟩]
    let asked := (child (gated [above] s) (gated [below] s)).register BaseKeys.effects a h
    BaseKeys.forest.Grown ∧ h.Reachable BaseKeys.forest ∧
      BaseKeys.effects ∈ BaseKeys.forest.keys ∧ asked.result = .error full ∧
      asked.warnings = [.rollbackFailed "shared" "effect" kept] ∧
      ((plain s).under h BaseKeys.effects).map (·.info.id) = [0] ∧
      ((plain s).under asked.holdings BaseKeys.effects).map (·.info.id) = [0, 0] ∧
      ∃ L, h.StandFor BaseKeys.forest L ∧ ¬ asked.holdings.StandFor BaseKeys.forest L ∧
        asked.holdings.StandFor BaseKeys.forest
          (L.edit s (Live.register · BaseKeys.effects a)) := by
  intro s above below full kept a h asked
  have hreached : h.Reachable BaseKeys.forest :=
    ⟨_, by simp [Step.Within, BaseKeys.forest], rfl⟩
  have hkey : BaseKeys.effects ∈ BaseKeys.forest.keys := by simp [BaseKeys.forest]
  have hback : h.refusal? [above] .unregister BaseKeys.effects = some kept := rfl
  obtain ⟨L, hL, _, _, _, hchild, _⟩ :=
    register_gated BaseKeys.forest_grown hreached hkey a [above] [below] s s
  obtain ⟨hresult, htaken, hleft⟩ := hchild full rfl rfl
  obtain ⟨hstands, _, hwarned⟩ := hleft kept hback
  refine ⟨BaseKeys.forest_grown, hreached, hkey, hresult, hwarned, rfl, rfl, L, hL, ?_, hstands⟩
  rw [htaken, hback]
  simp

/-! ## Removals at a child registry -/

theorem unregister_child_refused (d : Shared α) (hc : h.refusal? cs .unregister k = some e)
    (p : Registry) : (child p (gated cs s)).unregister k d h = ⟨h, .error e, []⟩ := by
  have hchild : (gated cs s).unregister k d h = ⟨h, .error e, []⟩ := change_gated_refused hc
  rw [unregister_child, Change.andThen_refused_first (by rw [hchild]), hchild]

theorem unregister_both_granted (hf : f.Grown) (hh : h.StandFor f L) (hk : k ∈ f.keys)
    (d : Shared α) (t s : Storage) (hc : h.refusal? cs .unregister k = none)
    (hp : h.refusal? ps .unregister k = none) :
    let asked := (child (gated ps t) (gated cs s)).unregister k d h
    asked.result = .ok () ∧
      asked.holdings.StandFor f
        ((L.edit s (Live.unregister · k d)).edit t (Live.unregister · k d)) := by
  intro asked
  have hchild := change_gated_granted hf hh hk d s hc
  have hparent := change_gated_granted hf hchild.stands hk d t
    ((hchild.kept.refusal?_eq ps .unregister k).trans hp)
  have hasked : asked = _ := Change.andThen_ok hchild.result hparent.result
  rw [hasked]
  exact ⟨rfl, hparent.stands⟩

/-- What the child side makes good: what it listed is registered anew, if it takes it. -/
theorem restore_standFor (hf : f.Grown) (hh : h.StandFor f L) (hk : k ∈ f.keys) (d : Shared α)
    (cs : List Gate) (s : Storage) {gone : Holdings τ α}
    (hgone : gone.StandFor f (L.edit s (Live.unregister · k d))) (hkept : h.AgreeOutside [s] gone) :
    let c := gated cs s
    let restore : Change τ α := if c.lists h k d then c.register k d else Change.nothing
    let takesBack := (h.refusal? cs .register k).isNone
    (restore gone).holdings.StandFor f (L.edit s (Live.afterRefusal takesBack · k d)) ∧
      h.AgreeOutside [s] (restore gone).holdings := by
  intro c restore takesBack
  have hlists : c.lists h k d = (L s.id).any (·.isMatch k d) := by
    refine lists_eq ?_ hk d
    rw [front_gated]
    exact hh s.id
  have hrefusal : gone.refusal? cs .register k = h.refusal? cs .register k :=
    hkept.refusal?_eq cs .register k
  by_cases hany : (L s.id).any (·.isMatch k d) = true
  · have hrestore : restore = c.register k d := if_pos (hlists.trans hany)
    cases hback : h.refusal? cs .register k with
    | none =>
      have hmade : (c.register k d gone).Granted f gone _ s ⟨.register, k, d⟩ :=
        change_gated_granted hf hgone hk d s (hrefusal.trans hback)
      have hsame : (L.edit s (Live.unregister · k d)).edit s (·.apply ⟨.register, k, d⟩) =
          L.edit s (Live.afterRefusal takesBack · k d) := by
        rw [Lives.edit_edit]
        refine Lives.edit_congr ?_
        simp only [takesBack, hback, Option.isNone_none, Live.afterRefusal, if_true, Live.restored,
          hany]
        rfl
      rw [hrestore, ← hsame]
      exact ⟨hmade.stands, hkept.trans hmade.kept⟩
    | some e' =>
      have hrefused : c.register k d gone = ⟨gone, .error e', []⟩ :=
        change_gated_refused (hrefusal.trans hback)
      have htakes : takesBack = false := by simp [takesBack, hback]
      rw [hrestore, hrefused, htakes]
      exact ⟨hgone, hkept⟩
  · have hrestore : restore = Change.nothing := if_neg (by rwa [hlists])
    have hnone : ∀ r ∈ L s.id, r.isMatch k d = false := by simpa using hany
    have hsame : L.edit s (Live.unregister · k d) =
        L.edit s (Live.afterRefusal takesBack · k d) := by
      refine Lives.edit_congr ?_
      rw [Live.afterRefusal_of_forall_not hnone, Live.unregister_of_forall_not hnone]
    rw [hrestore, ← hsame]
    exact ⟨hgone, hkept⟩

/-- If the parent side refuses, its error is given, and the child side is left to make good what it
lost. -/
theorem unregister_parent_refused (hf : f.Grown) (hh : h.StandFor f L) (hk : k ∈ f.keys)
    (d : Shared α) (t s : Storage) (hc : h.refusal? cs .unregister k = none)
    (hp : h.refusal? ps .unregister k = some e) :
    let asked := (child (gated ps t) (gated cs s)).unregister k d h
    let takesBack := (h.refusal? cs .register k).isNone
    asked.result = .error e ∧
      asked.holdings.StandFor f (L.edit s (Live.afterRefusal takesBack · k d)) ∧
      h.AgreeOutside [s] asked.holdings := by
  intro asked takesBack
  have hgone := change_gated_granted hf hh hk d s hc
  have hparent : (gated ps t).unregister k d _ = ⟨_, .error e, []⟩ :=
    change_gated_refused ((hgone.kept.refusal?_eq ps .unregister k).trans hp)
  have hasked : asked = _ := Change.andThen_refused_outright hgone.result hparent
  rw [hasked]
  exact ⟨rfl, restore_standFor hf hh hk d cs s hgone.stands hgone.kept⟩

/-- A removal that the child side refuses is all that happens, and one that both sides take is made
on both. After a refusal of the parent side its error is given and its storage is as before; the
child side has lost the newest match, and has it at the end again if it takes it back. So it is as
before exactly if there was no match, or it takes back what was its newest registration, made under
the very key. -/
theorem unregister_gated (hf : f.Grown) (hh : h.Reachable f) (hk : k ∈ f.keys) (d : Shared α)
    (ps cs : List Gate) {t s : Storage} (hapart : t.id ≠ s.id) :
    let p := gated ps t
    let c := gated cs s
    let asked := (child p c).unregister k d h
    let left := asked.holdings
    let takesBack := (h.refusal? cs .register k).isNone
    ∃ L, h.StandFor f L ∧
      (∀ e, h.refusal? cs .unregister k = some e →
        ∀ p : Registry, (child p c).unregister k d h = ⟨h, .error e, []⟩) ∧
      (h.refusal? cs .unregister k = none → h.refusal? ps .unregister k = none →
        asked.result = .ok () ∧
        left.StandFor f ((L.edit s (Live.unregister · k d)).edit t (Live.unregister · k d))) ∧
      (∀ e, h.refusal? cs .unregister k = none → h.refusal? ps .unregister k = some e →
        asked.result = .error e ∧ left.catalog t = h.catalog t ∧ h.AgreeOutside [s] left ∧
        left.StandFor f (L.edit s (Live.afterRefusal takesBack · k d)) ∧
        ((Live.afterRefusal takesBack (L s.id) k d).map Registration.mark =
            (L s.id).map Registration.mark ↔
          (∀ r ∈ L s.id, r.isMatch k d = false) ∨
            (takesBack = true ∧
              ∃ older i, L s.id = older ++ [⟨k, i⟩] ∧ i.isSame d = true))) := by
  intro p c asked left takesBack
  obtain ⟨L, hL⟩ := hh.standFor hf
  refine ⟨L, hL, ?_, ?_, ?_⟩
  · intro e hc p
    exact unregister_child_refused d hc p
  · intro hc hp
    exact unregister_both_granted hf hL hk d t s hc hp
  · intro e hc hp
    obtain ⟨hresult, hstands, hkept⟩ : asked.result = .error e ∧
        left.StandFor f (L.edit s (Live.afterRefusal takesBack · k d)) ∧
        h.AgreeOutside [s] left := unregister_parent_refused hf hL hk d t s hc hp
    have hparent : left.catalog t = h.catalog t :=
      hkept.catalog_eq fun x hx => by
        rw [List.mem_singleton.mp hx]
        exact hapart.symm
    exact ⟨hresult, hparent, hkept, hstands, Live.afterRefusal_marks_iff takesBack (L s.id) k d⟩

/-- No removal gets past the gate on the parent side. What the child side held as an effect, and
nothing newer with it, comes back as a statement. -/
theorem unregister_gated_above :
    let t : Storage := ⟨0, "global"⟩
    let s : Storage := ⟨1, "local"⟩
    let g : Gate := ⟨0⟩
    let kept : RegistryError := .unsupported "kept" .unregister "statement"
    let a : Shared String := ⟨0, "a"⟩
    let h : Holdings Payload String :=
      Holdings.empty.after [.openStorage "global", .openStorage "local", .openGate,
        .setPolicy g (.refusing .unregister kept),
        .ask (plain s) ⟨.register, BaseKeys.effects, a⟩]
    let asked := (child (gated [g] t) (gated [] s)).unregister BaseKeys.statements a h
    BaseKeys.forest.Grown ∧ h.Reachable BaseKeys.forest ∧
      BaseKeys.statements ∈ BaseKeys.forest.keys ∧ t.id ≠ s.id ∧ asked.result = .error kept ∧
      asked.holdings.catalog t = h.catalog t ∧
      ((plain s).under h BaseKeys.effects).map (·.info.id) = [0] ∧
      ((plain s).under asked.holdings BaseKeys.effects).map (·.info.id) = [] ∧
      ∃ L, h.StandFor BaseKeys.forest L ∧
        asked.holdings.StandFor BaseKeys.forest
          (L.edit s (Live.afterRefusal true · BaseKeys.statements a)) := by
  intro t s g kept a h asked
  have hreached : h.Reachable BaseKeys.forest :=
    ⟨_, by simp [Step.Within, BaseKeys.forest], rfl⟩
  have hkey : BaseKeys.statements ∈ BaseKeys.forest.keys := by simp [BaseKeys.forest]
  have hapart : t.id ≠ s.id := by decide
  obtain ⟨L, hL, _, _, hparent⟩ :=
    unregister_gated BaseKeys.forest_grown hreached hkey a [g] [] hapart
  obtain ⟨hresult, htaken, _, hstands, _⟩ := hparent kept rfl rfl
  exact ⟨BaseKeys.forest_grown, hreached, hkey, hapart, hresult, htaken, rfl, rfl, L, hL, hstands⟩

end Registry

end GrammarRegistry
