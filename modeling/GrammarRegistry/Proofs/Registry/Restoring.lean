-- A removal that the parent side refuses. The child side has gone ahead by then, and makes good
-- what it lost by registering it anew: at the end of its list, under the key that was asked for.
-- It shows what it showed before only if the lost registration was made under that very key, and
-- nothing but the same descriptor had been registered after it.
import GrammarRegistry.Proofs.Registry.Effects

namespace GrammarRegistry

variable {τ α : Type} {f : Forest τ} {k : Key τ} {d : Shared α}

/-! ## A member moved to the end -/

section

variable {β γ : Type}

theorem append_singleton_eq_cons_iff {a : β} {l : List β} :
    l ++ [a] = a :: l ↔ ∀ x ∈ l, x = a := by
  induction l with
  | nil => simp
  | cons b rest ih =>
    rw [List.cons_append, List.cons.injEq, List.forall_mem_cons]
    refine ⟨?_, ?_⟩
    · rintro ⟨rfl, h⟩
      exact ⟨rfl, ih.mp h⟩
    · rintro ⟨rfl, h⟩
      exact ⟨rfl, ih.mpr h⟩

/-- Moving a member to the end shows, unless all that it moves past looks like it. -/
theorem map_moved_eq_iff (g : β → γ) (l₁ l₂ : List β) (x y : β) (h : g y = g x) :
    (l₁ ++ l₂ ++ [y]).map g = (l₁ ++ x :: l₂).map g ↔ ∀ z ∈ l₂, g z = g x := by
  simp only [List.map_append, List.map_cons, List.map_nil, List.append_assoc,
    List.append_cancel_left_eq, h]
  rw [append_singleton_eq_cons_iff, List.forall_mem_map]

end

/-! ## What is left of the live list -/

namespace Live

/-- What a refused removal leaves: the newest match is gone, and registered anew. -/
def restored (l : Live τ α) (k : Key τ) (d : Shared α) : Live τ α :=
  if l.any (·.isMatch k d) then register (unregister l k d) k d else l

theorem restored_of_forall_not {l : Live τ α} (h : ∀ r ∈ l, r.isMatch k d = false) :
    restored l k d = l := by
  have hany : l.any (·.isMatch k d) = false := by
    rw [List.any_eq_false]
    intro r hr
    simp [h r hr]
  rw [restored, hany]
  rfl

theorem restored_split {l₁ l₂ : Live τ α} {r : Registration τ α} (hr : r.isMatch k d = true)
    (h : ∀ x ∈ l₂, x.isMatch k d = false) :
    restored (l₁ ++ r :: l₂) k d = l₁ ++ l₂ ++ [⟨k, d⟩] := by
  have hany : (l₁ ++ r :: l₂).any (·.isMatch k d) = true := by simp [hr]
  unfold restored
  rw [hany, if_pos rfl, unregister_split hr h]
  rfl

theorem length_restored (l : Live τ α) (k : Key τ) (d : Shared α) :
    (restored l k d).length = l.length := by
  rcases forall_not_or_exists_last (Registration.isMatch k d) l with
    hnone | ⟨l₁, r, l₂, rfl, hr, hl₂⟩
  · rw [restored_of_forall_not hnone]
  · rw [restored_split hr hl₂]
    simp only [List.length_append, List.length_cons, List.length_nil]
    omega

/-- The newest match, if there is one, was made under the key itself, and all that is newer is of
the same descriptor. -/
def RestoredInPlace (l : Live τ α) (k : Key τ) (d : Shared α) : Prop :=
  ∀ l₁ r l₂, l = l₁ ++ r :: l₂ → r.isMatch k d = true → (∀ x ∈ l₂, x.isMatch k d = false) →
    r.home = k ∧ ∀ x ∈ l₂, x.info.isSame d = true

/-- The two show the same descriptors in the same order, all in all and under each key. -/
structure ShowsSame (f : Forest τ) (l l' : Live τ α) : Prop where
  elements : (elements l').map Shared.id = (elements l).map Shared.id
  under : ∀ k ∈ f.keys, (under l' k).map Shared.id = (under l k).map Shared.id

theorem restored_elements_iff {l₁ l₂ : Live τ α} {r : Registration τ α}
    (hr : r.isMatch k d = true) :
    (elements (l₁ ++ l₂ ++ [⟨k, d⟩])).map Shared.id = (elements (l₁ ++ r :: l₂)).map Shared.id ↔
      ∀ x ∈ l₂, x.info.isSame d = true := by
  have hid : r.info.id = d.id := by
    simp only [Registration.isMatch, Bool.and_eq_true] at hr
    exact beq_iff_eq.mp hr.1
  unfold elements
  rw [List.map_map, List.map_map]
  refine (map_moved_eq_iff (Shared.id ∘ Registration.info) l₁ l₂ r ⟨k, d⟩ hid.symm).trans ⟨?_, ?_⟩
  · intro h x hx
    exact beq_iff_eq.mpr ((h x hx).trans hid)
  · intro h x hx
    exact (beq_iff_eq.mp (h x hx)).trans hid.symm

theorem under_eq_of_home {l₁ l₂ : Live τ α} {r : Registration τ α} (hr : r.isMatch k d = true)
    (hhome : r.home = k) (h : ∀ x ∈ l₂, x.info.isSame d = true) (o : Key τ) :
    (under (l₁ ++ l₂ ++ [⟨k, d⟩]) o).map Shared.id = (under (l₁ ++ r :: l₂) o).map Shared.id := by
  have hsame : (⟨k, d⟩ : Registration τ α).isUnder o = r.isUnder o := by
    unfold Registration.isUnder
    rw [hhome]
  by_cases ho : r.isUnder o = true
  · have hrest : ∀ x ∈ l₂.filter (·.isUnder o), x.info.isSame d = true := fun x hx =>
      h x (List.mem_of_mem_filter hx)
    simp only [under, List.filter_append, List.filter_cons_of_pos ho,
      List.filter_cons_of_pos (hsame.trans ho), List.filter_nil]
    exact (restored_elements_iff hr).mpr hrest
  · simp [under, ho, hsame]

variable [PayloadTypes τ]

/-- What is listed under the key that the lost registration was made under has lost it, unless
that key is the one that was asked for. -/
theorem home_of_under_length (hf : f.Grown) (hk : k ∈ f.keys) {l₁ l₂ : Live τ α}
    {r : Registration τ α} (hr : r.isMatch k d = true) (hhome : r.home ∈ f.keys)
    (h : (under (l₁ ++ l₂ ++ [⟨k, d⟩]) r.home).length = (under (l₁ ++ r :: l₂) r.home).length) :
    r.home = k := by
  have hbelow : r.home.isWithin k = true := by
    simp only [Registration.isMatch, Bool.and_eq_true] at hr
    exact hr.2
  have hself : r.isUnder r.home = true := r.home.isWithin_self
  by_cases hnew : k.isWithin r.home = true
  · exact hf.eq_of_isWithin hhome hk hbelow hnew
  · have hnew' : (⟨k, d⟩ : Registration τ α).isUnder r.home = false := by
      simpa [Registration.isUnder] using hnew
    simp only [under, List.length_map, List.filter_append, List.length_append, List.filter_cons,
      hself, hnew', if_pos, Bool.false_eq_true, if_false, List.filter_nil, List.length_cons,
      List.length_nil] at h
    omega

/-- The list that is left shows the same exactly if the restored registration is in place. -/
theorem restored_showsSame_iff (hf : f.Grown) (hk : k ∈ f.keys) {l : Live τ α}
    (hl : ∀ r ∈ l, r.home ∈ f.keys) :
    ShowsSame f l (restored l k d) ↔ RestoredInPlace l k d := by
  refine ⟨?_, ?_⟩
  · rintro ⟨helements, hunder⟩ l₁ r l₂ rfl hr hl₂
    rw [restored_split hr hl₂] at helements hunder
    have hhome : r.home ∈ f.keys := hl r (by simp)
    have hlength := congrArg List.length (hunder r.home hhome)
    rw [List.length_map, List.length_map] at hlength
    exact ⟨home_of_under_length hf hk hr hhome hlength, (restored_elements_iff hr).mp helements⟩
  · intro h
    rcases forall_not_or_exists_last (Registration.isMatch k d) l with
      hnone | ⟨l₁, r, l₂, rfl, hr, hl₂⟩
    · rw [restored_of_forall_not hnone]
      exact ⟨rfl, fun _ _ => rfl⟩
    · obtain ⟨hhome, hnewer⟩ := h l₁ r l₂ rfl hr hl₂
      rw [restored_split hr hl₂]
      exact ⟨(restored_elements_iff hr).mpr hnewer, fun o _ => under_eq_of_home hr hhome hnewer o⟩

end Live

/-! ## What is left of the contents -/

variable [PayloadTypes τ] {h h' : Holdings τ α} {s : Storage} {live live' : Live τ α}

/-- The storage's registry answers as before: it tells descriptors apart by identity. -/
structure Storage.SameContents [DecidableEq τ] (f : Forest τ) (s : Storage) (h h' : Holdings τ α) :
    Prop where
  elements : ((Registry.plain s).elements h').map (·.info.id) =
    ((Registry.plain s).elements h).map (·.info.id)
  under : ∀ k ∈ f.keys, ((Registry.plain s).under h' k).map (·.info.id) =
    ((Registry.plain s).under h k).map (·.info.id)
  contains : ∀ k ∈ f.keys, ∀ d : Shared α,
    (h'.catalog s).contains k d = (h.catalog s).contains k d
  size : (h'.catalog s).size = (h.catalog s).size

namespace Catalog.StandsFor

theorem elements_ids (hs : (h.catalog s).StandsFor f live) :
    ((Registry.plain s).elements h).map (·.info.id) = (Live.elements live).map Shared.id := by
  rw [Registry.elements, hs.elements, List.map_map]
  rfl

theorem contains_ids (hs : (h.catalog s).StandsFor f live) (hk : k ∈ f.keys) (d : Shared α) :
    (h.catalog s).contains k d = ((Live.under live k).map Shared.id).any (· == d.id) := by
  rw [hs.contains hk, List.any_map]
  rfl

variable [DecidableEq τ]

theorem under_ids (hs : (h.catalog s).StandsFor f live) (hk : k ∈ f.keys) :
    ((Registry.plain s).under h k).map (·.info.id) = (Live.under live k).map Shared.id := by
  rw [Registry.under, hs.under hk, List.map_map]
  rfl

theorem sameContents_iff (hs : (h.catalog s).StandsFor f live)
    (hs' : (h'.catalog s).StandsFor f live') :
    s.SameContents f h h' ↔ Live.ShowsSame f live live' := by
  refine ⟨?_, ?_⟩
  · intro hsame
    refine ⟨?_, ?_⟩
    · rw [← hs.elements_ids, ← hs'.elements_ids, hsame.elements]
    · intro k hk
      rw [← hs.under_ids hk, ← hs'.under_ids hk, hsame.under k hk]
  · intro hsame
    refine ⟨?_, ?_, ?_, ?_⟩
    · rw [hs.elements_ids, hs'.elements_ids, hsame.elements]
    · intro k hk
      rw [hs.under_ids hk, hs'.under_ids hk, hsame.under k hk]
    · intro k hk d
      rw [hs.contains_ids hk, hs'.contains_ids hk, hsame.under k hk]
    · have hlength := congrArg List.length hsame.elements
      simp only [Live.elements, List.length_map] at hlength
      rw [hs.size, hs'.size, hlength]

end Catalog.StandsFor

namespace Registry

variable [DecidableEq τ]

/-- A refused removal at a child registry over a plain child side that the parent side does not
reach: the newest match is gone from the child side, and registered anew. -/
theorem unregister_error_standsFor (hf : f.Grown) (hs : (h.catalog s).StandsFor f live)
    (hk : k ∈ f.keys) {p : Registry} (hapart : ∀ t ∈ p.writable, t.id ≠ s.id) {e : RegistryError}
    (he : ((child p (plain s)).unregister k d h).result = .error e) :
    (((child p (plain s)).unregister k d h).holdings.catalog s).StandsFor f
      (Live.restored live k d) := by
  let gone := (plain s).unregister k d h
  obtain ⟨hok, hgone⟩ : gone.result = .ok () ∧
      (gone.holdings.catalog s).StandsFor f (Live.unregister live k d) :=
    Storage.unregister_ok hf hs hk d
  -- the parent side does not reach the storage, so the child side finds it as it left it
  have hkept : (p.unregister k d gone.holdings).holdings.catalog s = gone.holdings.catalog s :=
    (confined_change k d .unregister p gone.holdings).catalog_eq hapart
  rw [← hkept] at hgone
  have hlists : (plain s).lists h k d = live.any (·.isMatch k d) := lists_eq hs hk d
  rw [unregister_child, hlists] at he ⊢
  cases hparent : (p.unregister k d gone.holdings).result with
  | ok =>
    rw [Change.andThen_ok hok hparent] at he
    cases he
  | error e' =>
    obtain ⟨_, hholdings⟩ := Change.andThen_refused_second hok hparent
    rw [hholdings]
    by_cases hany : live.any (·.isMatch k d) = true
    · unfold Live.restored
      rw [if_pos hany, if_pos hany]
      exact (Storage.register_ok hf hgone hk d).2
    · have hnone : ∀ r ∈ live, r.isMatch k d = false := by simpa using hany
      rw [Live.unregister_of_forall_not hnone] at hgone
      unfold Live.restored
      rw [if_neg hany, if_neg hany]
      exact hgone

/-- A refused removal takes nothing away from the child side for good, yet leaves its contents as
they were only if the registration that it made anew is in place. -/
theorem unregister_error_sameContents_iff (hf : f.Grown) (hh : h.Reachable f) (hk : k ∈ f.keys)
    (d : Shared α) {p : Registry} (hapart : ∀ t ∈ p.storages, t.id ≠ s.id) {e : RegistryError}
    (he : ((child p (plain s)).unregister k d h).result = .error e) :
    let left := ((child p (plain s)).unregister k d h).holdings
    ∃ live, (h.catalog s).StandsFor f live ∧
      (left.catalog s).StandsFor f (Live.restored live k d) ∧
      (left.catalog s).size = (h.catalog s).size ∧
      (s.SameContents f h left ↔ Live.RestoredInPlace live k d) := by
  intro left
  obtain ⟨L, hL⟩ := hh.standFor hf
  have hs : (h.catalog s).StandsFor f (L s.id) := hL s.id
  have hleft : (left.catalog s).StandsFor f (Live.restored (L s.id) k d) :=
    unregister_error_standsFor hf hs hk (fun t ht => hapart t (writable_subset p ht)) he
  refine ⟨L s.id, hs, hleft, ?_, ?_⟩
  · rw [hleft.size, hs.size, Live.length_restored]
  · rw [hs.sameContents_iff hleft, Live.restored_showsSame_iff hf hk hs.homes]

/-- What is registered under a key and removed through the key above is registered there anew. -/
theorem unregister_error_sameContents_iff_above :
    let s : Storage := ⟨1, "local"⟩
    let p : Registry := view (plain ⟨0, "global"⟩)
    let h : Holdings Payload String :=
      Holdings.empty.after [.ask (plain s) ⟨.register, BaseKeys.effects, ⟨0, "a"⟩⟩]
    let left := ((child p (plain s)).unregister BaseKeys.statements ⟨0, "a"⟩ h).holdings
    BaseKeys.forest.Grown ∧ h.Reachable BaseKeys.forest ∧
      BaseKeys.statements ∈ BaseKeys.forest.keys ∧ (∀ t ∈ p.storages, t.id ≠ s.id) ∧
      ((child p (plain s)).unregister BaseKeys.statements ⟨0, "a"⟩ h).result =
        .error (.unsupported "global" .unregister "statement") ∧
      ∃ live, (h.catalog s).StandsFor BaseKeys.forest live ∧
        (left.catalog s).StandsFor BaseKeys.forest
          (Live.restored live BaseKeys.statements ⟨0, "a"⟩) ∧
        (left.catalog s).size = (h.catalog s).size ∧
        (s.SameContents BaseKeys.forest h left ↔
          Live.RestoredInPlace live BaseKeys.statements ⟨0, "a"⟩) := by
  intro s p h left
  have hreached : h.Reachable BaseKeys.forest :=
    ⟨_, by simp [Step.Within, BaseKeys.forest], rfl⟩
  have hkey : BaseKeys.statements ∈ BaseKeys.forest.keys := by simp [BaseKeys.forest]
  have hapart : ∀ t ∈ p.storages, t.id ≠ s.id := by decide
  have hrefused : ((child p (plain s)).unregister BaseKeys.statements ⟨0, "a"⟩ h).result =
      .error (.unsupported "global" .unregister "statement") := rfl
  exact ⟨BaseKeys.forest_grown, hreached, hkey, hapart, hrefused,
    unregister_error_sameContents_iff BaseKeys.forest_grown hreached hkey ⟨0, "a"⟩ hapart hrefused⟩

/-- The older of two descriptors under one key comes back as the newer one. -/
theorem unregister_error_reorders :
    let s : Storage := ⟨1, "local"⟩
    let p : Registry := view (plain ⟨0, "global"⟩)
    let h : Holdings Payload String :=
      Holdings.empty.after [.ask (plain s) ⟨.register, BaseKeys.effects, ⟨0, "a"⟩⟩,
        .ask (plain s) ⟨.register, BaseKeys.effects, ⟨1, "b"⟩⟩]
    let asked := (child p (plain s)).unregister BaseKeys.effects ⟨0, "a"⟩ h
    h.Reachable BaseKeys.forest ∧ BaseKeys.effects ∈ BaseKeys.forest.keys ∧
      (∀ t ∈ p.storages, t.id ≠ s.id) ∧
      asked.result = .error (.unsupported "global" .unregister "effect") ∧
      ((plain s).under h BaseKeys.effects).map (·.info.id) = [0, 1] ∧
      ((plain s).under asked.holdings BaseKeys.effects).map (·.info.id) = [1, 0] ∧
      ¬ s.SameContents BaseKeys.forest h asked.holdings := by
  intro s p h asked
  have hkey : BaseKeys.effects ∈ BaseKeys.forest.keys := by simp [BaseKeys.forest]
  have hbefore : ((plain s).under h BaseKeys.effects).map (·.info.id) = [0, 1] := rfl
  have hafter : ((plain s).under asked.holdings BaseKeys.effects).map (·.info.id) = [1, 0] := rfl
  refine ⟨⟨_, by simp [Step.Within, BaseKeys.forest], rfl⟩, hkey, by decide, rfl, hbefore,
    hafter, ?_⟩
  intro hsame
  have hunder := hsame.under BaseKeys.effects hkey
  rw [hbefore, hafter] at hunder
  cases hunder

end Registry

end GrammarRegistry
