-- The order of two requests at one storage. Two removals may change places unless they are of one
-- descriptor and one key lies strictly below the other: the upper one can take what the lower one
-- would have taken. A registration and a removal may change places unless the removal reaches that
-- very registration. Whatever may not change places shows it in some reachable holdings.
import GrammarRegistry.Proofs.Registry.PlainRuns

namespace GrammarRegistry

variable {τ α : Type}

/-! ## Two removals from a list -/

theorem eraseLast_comm {β : Type} {p q : β → Bool} {l : List β}
    (h : ∀ x ∈ l, p x = true → q x = false) :
    eraseLast q (eraseLast p l) = eraseLast p (eraseLast q l) := by
  have hapart : ∀ x ∈ l.reverse, ¬ p x = true ∨ ¬ q x = true := by
    intro x hx
    by_cases hp : p x = true
    · exact Or.inr (by simp [h x (List.mem_reverse.mp hx) hp])
    · exact Or.inl hp
  simp only [eraseLast, List.reverse_reverse, List.eraseP_comm hapart]

namespace Registration

variable {r : Registration τ α} {k : Key τ} {d d' : Shared α}

theorem isMatch_congr (h : d.isSame d' = true) (k : Key τ) (r : Registration τ α) :
    r.isMatch k d = r.isMatch k d' := by
  rw [isMatch, isMatch, Shared.isSame, Shared.isSame, beq_iff_eq.mp h]

theorem not_isMatch_of_isMatch (h : d.isSame d' = false) {k' : Key τ}
    (hr : r.isMatch k d = true) : r.isMatch k' d' = false := by
  rw [isMatch, Bool.and_eq_true] at hr
  have hid : r.info.id = d.id := beq_iff_eq.mp hr.1
  rw [isMatch, Shared.isSame, hid, ← Shared.isSame, h, Bool.false_and]

end Registration

namespace Live

variable {l : Live τ α} {k k' : Key τ} {d d' : Shared α}

theorem unregister_congr (h : d.isSame d' = true) (l : Live τ α) (k : Key τ) :
    unregister l k d = unregister l k d' := by
  rw [unregister, unregister, funext (Registration.isMatch_congr h k)]

theorem unregister_comm (h : ∀ r ∈ l, r.isMatch k d = true → r.isMatch k' d' = false) :
    unregister (unregister l k d) k' d' = unregister (unregister l k' d') k d :=
  eraseLast_comm h

/-- A removal passes by a newest registration that is no match. -/
theorem unregister_register_comm (h : (⟨k, d⟩ : Registration τ α).isMatch k' d' = false) :
    unregister (register l k d) k' d' = register (unregister l k' d') k d := by
  rw [unregister, register, eraseLast_append_singleton, h]
  rfl

end Live

/-! ## Requests that may change places -/

variable [PayloadTypes τ] {f : Forest τ} {k k' : Key τ} {d d' : Shared α} {live : Live τ α}

/-- A registration that is visible under two keys shows that they lie on one line. -/
theorem Forest.Grown.mem_lineage_of_isMatch (hf : f.Grown) {r : Registration τ α}
    (hr : r.home ∈ f.keys) (hk : k ∈ f.keys) (hk' : k' ∈ f.keys) (h : r.isMatch k d = true)
    (h' : r.isMatch k' d' = true) : k ∈ k'.lineage ∨ k' ∈ k.lineage := by
  rw [Registration.isMatch, Bool.and_eq_true] at h h'
  exact Key.mem_lineage_total ((hf.isWithin_iff_mem hr hk).mp h.2)
    ((hf.isWithin_iff_mem hr hk').mp h'.2)

namespace Live

/-- Two removals of different descriptors, under one key, or under keys of which neither lies
above the other. -/
theorem unregister_swap (hf : f.Grown) (hl : ∀ r ∈ live, r.home ∈ f.keys) (hk : k ∈ f.keys)
    (hk' : k' ∈ f.keys)
    (h : d.isSame d' = false ∨ k = k' ∨ (k ∉ k'.ancestors ∧ k' ∉ k.ancestors)) :
    unregister (unregister live k d) k' d' = unregister (unregister live k' d') k d := by
  by_cases hd : d.isSame d' = true
  · by_cases hkk : k = k'
    · rw [hkk, unregister_congr hd, unregister_congr hd]
    · rcases h with hdiff | hsame | ⟨hnot, hnot'⟩
      · rw [hd] at hdiff
        cases hdiff
      · exact absurd hsame hkk
      · refine unregister_comm fun r hr hmatch => ?_
        rw [← Bool.not_eq_true]
        intro hmatch'
        rcases hf.mem_lineage_of_isMatch (hl r hr) hk hk' hmatch hmatch' with hon | hon
        · rcases List.mem_cons.mp hon with he | hon
          · exact hkk he
          · exact hnot hon
        · rcases List.mem_cons.mp hon with he | hon
          · exact hkk he.symm
          · exact hnot' hon
  · have hdiff : d.isSame d' = false := by simpa using hd
    exact unregister_comm fun r _ hmatch => Registration.not_isMatch_of_isMatch hdiff hmatch

/-- A removal and a registration that it does not reach. -/
theorem unregister_register_swap (hf : f.Grown) (hk : k ∈ f.keys) (hk' : k' ∈ f.keys)
    (h : d.isSame d' = false ∨ (k ≠ k' ∧ k' ∉ k.ancestors)) :
    unregister (register live k d) k' d' = register (unregister live k' d') k d := by
  apply unregister_register_comm
  rcases h with hdiff | ⟨hne, hnot⟩
  · simp [Registration.isMatch, hdiff]
  · have hout : k.isWithin k' = false := by
      rw [← Bool.not_eq_true, hf.isWithin_iff_mem hk hk']
      intro hon
      rcases List.mem_cons.mp hon with he | hon
      · exact hne he.symm
      · exact hnot hon
    simp [Registration.isMatch, Registration.isUnder, hout]

/-- Of two registrations of one descriptor, an older one under a key and a newer one below it, a
removal below and then one above take both; the other way round, the older one stays. -/
theorem unregister_unregister_below (hf : f.Grown) (hk : k ∈ f.keys) (hbelow : k' ∈ k.ancestors)
    (hd : d.isSame d' = true) :
    unregister (unregister [⟨k', d'⟩, ⟨k, d⟩] k d) k' d' = ([] : Live τ α) ∧
      unregister (unregister [⟨k', d'⟩, ⟨k, d⟩] k' d') k d = ([⟨k', d'⟩] : Live τ α) := by
  have hwithin : k.isWithin k' = true :=
    Key.isWithin_of_mem_lineage (List.mem_cons_of_mem k hbelow)
  have hlast : ∀ a : Key τ, k.isWithin a = true →
      unregister [⟨k', d'⟩, ⟨k, d⟩] a d = ([⟨k', d'⟩] : Live τ α) := fun a ha =>
    unregister_register (l := [⟨k', d'⟩]) ha
  have hout : (⟨k', d'⟩ : Registration τ α).isMatch k d = false := by
    simp [Registration.isMatch, Registration.isUnder, hf.not_isWithin_of_mem_ancestors hk hbelow]
  refine ⟨?_, ?_⟩
  · rw [hlast k k.isWithin_self]
    exact unregister_register (l := []) k'.isWithin_self
  · rw [← unregister_congr hd, hlast k' hwithin]
    exact unregister_of_forall_not (by simpa using hout)

end Live

/-! ## Requests at a storage -/

namespace Storage

variable [DecidableEq τ] {s : Storage} {q q' : Request τ α}

/-- From all reachable holdings, the two requests to the storage's registry leave the storage with
the same live list, whichever comes first. -/
def Swaps (f : Forest τ) (s : Storage) (q q' : Request τ α) : Prop :=
  ∀ h : Holdings τ α, h.Reachable f → ∃ live : Live τ α,
    ((h.after [.ask (.plain s) q, .ask (.plain s) q']).catalog s).StandsFor f live ∧
    ((h.after [.ask (.plain s) q', .ask (.plain s) q]).catalog s).StandsFor f live

theorem Swaps.symm (h : s.Swaps f q q') : s.Swaps f q' q := fun h₀ hh =>
  (h h₀ hh).imp fun _ hlive => hlive.symm

theorem ask_twice (hf : f.Grown) (hq : q.key ∈ f.keys) (hq' : q'.key ∈ f.keys) {h : Holdings τ α}
    (hs : (h.catalog s).StandsFor f live) :
    ((h.after [.ask (.plain s) q, .ask (.plain s) q']).catalog s).StandsFor f
      ((live.apply q).apply q') :=
  (Registry.run_plain hf [q, q'] (by simp [hq, hq']) hs).2

/-- Requests that change places on all live lists do so at a storage. -/
theorem swaps_of_forall (hf : f.Grown) (hq : q.key ∈ f.keys) (hq' : q'.key ∈ f.keys)
    (h : ∀ live : Live τ α, (∀ r ∈ live, r.home ∈ f.keys) →
      (live.apply q).apply q' = (live.apply q').apply q) : s.Swaps f q q' := by
  intro h₀ hh
  obtain ⟨L, hL⟩ := hh.standFor hf
  have hs : (h₀.catalog s).StandsFor f (L s.id) := hL s.id
  have hother := ask_twice hf hq' hq hs
  rw [← h _ hs.homes] at hother
  exact ⟨_, ask_twice hf hq hq' hs, hother⟩

/-- Requests that do not change places on the live list of some run do not do so at a storage. -/
theorem not_swaps_of_run (hf : f.Grown) (hq : q.key ∈ f.keys) (hq' : q'.key ∈ f.keys)
    (made : List (Request τ α)) (hmade : ∀ x ∈ made, x.key ∈ f.keys)
    (hne : ((Live.ofRequests made).apply q).apply q' ≠
      ((Live.ofRequests made).apply q').apply q) : ¬ s.Swaps f q q' := by
  intro hswaps
  let reached : Holdings τ α := Holdings.empty.after (made.map (Step.ask (.plain s)))
  have hreached : reached.Reachable f := by
    refine ⟨_, ?_, rfl⟩
    intro x hx
    obtain ⟨y, hy, rfl⟩ := List.mem_map.mp hx
    exact hmade y hy
  have hs : (reached.catalog s).StandsFor f (Live.ofRequests made) :=
    (Registry.run_plain hf made hmade Catalog.StandsFor.empty).2
  obtain ⟨live, hone, hother⟩ := hswaps reached hreached
  exact hne (((ask_twice hf hq hq' hs).unique hf hone).trans
    (hother.unique hf (ask_twice hf hq' hq hs)))

theorem not_swaps_below (hf : f.Grown) (hk : k ∈ f.keys) (hbelow : k' ∈ k.ancestors)
    (hd : d.isSame d' = true) : ¬ s.Swaps f ⟨.unregister, k, d⟩ ⟨.unregister, k', d'⟩ := by
  have hk' : k' ∈ f.keys := hf.ancestors_mem k hk k' hbelow
  obtain ⟨hone, hother⟩ := Live.unregister_unregister_below hf hk hbelow hd
  refine not_swaps_of_run hf hk hk' [⟨.register, k', d'⟩, ⟨.register, k, d⟩] (by simp [hk, hk']) ?_
  intro hsame
  exact absurd (hone.symm.trans (hsame.trans hother)) (by simp)

theorem not_swaps_within (hf : f.Grown) (hk : k ∈ f.keys) (hon : k' ∈ k.lineage)
    (hd : d.isSame d' = true) : ¬ s.Swaps f ⟨.register, k, d⟩ ⟨.unregister, k', d'⟩ := by
  have hundone : Live.unregister (Live.register [] k d) k' d' = ([] : Live τ α) := by
    rw [← Live.unregister_congr hd]
    exact Live.unregister_register (Key.isWithin_of_mem_lineage hon)
  refine not_swaps_of_run hf hk (hf.lineage_mem hk hon) [] (by simp) ?_
  intro hsame
  exact absurd (hundone.symm.trans hsame) (by simp [Live.apply, Live.register])

/-- Two removals may change places exactly if they are of different descriptors, under one key, or
under keys of which neither lies above the other. A registration and a removal may change places
exactly if they are of different descriptors or the registration is not made at the removal's key
or below it. -/
theorem swaps_iff (hf : f.Grown) (hk : k ∈ f.keys) (hk' : k' ∈ f.keys) (s : Storage)
    (d d' : Shared α) :
    (s.Swaps f ⟨.unregister, k, d⟩ ⟨.unregister, k', d'⟩ ↔
      d.isSame d' = false ∨ k = k' ∨ (k ∉ k'.ancestors ∧ k' ∉ k.ancestors)) ∧
    (s.Swaps f ⟨.register, k, d⟩ ⟨.unregister, k', d'⟩ ↔
      d.isSame d' = false ∨ (k ≠ k' ∧ k' ∉ k.ancestors)) := by
  refine ⟨⟨?_, ?_⟩, ⟨?_, ?_⟩⟩
  · intro hswaps
    by_cases hd : d.isSame d' = true
    · have hd' : d'.isSame d = true := by
        rw [Shared.isSame, beq_iff_eq] at hd ⊢
        exact hd.symm
      exact Or.inr (Or.inr ⟨fun habove => not_swaps_below hf hk' habove hd' hswaps.symm,
        fun habove => not_swaps_below hf hk habove hd hswaps⟩)
    · exact Or.inl (by simpa using hd)
  · intro h
    exact swaps_of_forall hf hk hk' fun live hl => Live.unregister_swap hf hl hk hk' h
  · intro hswaps
    by_cases hd : d.isSame d' = true
    · have hnot : k' ∉ k.lineage := fun hon => not_swaps_within hf hk hon hd hswaps
      rw [Key.lineage, List.mem_cons, not_or] at hnot
      exact Or.inr ⟨fun he => hnot.1 he.symm, hnot.2⟩
    · exact Or.inl (by simpa using hd)
  · intro h
    exact swaps_of_forall hf hk hk' fun live _ => Live.unregister_register_swap hf hk hk' h

/-- Removals of one descriptor may change places under effects and conditions, which lie beside
each other, but not under effects and the statements above them. -/
theorem swaps_iff_base :
    let s : Storage := ⟨0, "base"⟩
    let a : Shared String := ⟨0, "a"⟩
    BaseKeys.forest.Grown ∧ BaseKeys.effects ∈ BaseKeys.forest.keys ∧
      BaseKeys.conditions ∈ BaseKeys.forest.keys ∧ BaseKeys.statements ∈ BaseKeys.forest.keys ∧
      s.Swaps BaseKeys.forest ⟨.unregister, BaseKeys.effects, a⟩
        ⟨.unregister, BaseKeys.conditions, a⟩ ∧
      ¬ s.Swaps BaseKeys.forest ⟨.unregister, BaseKeys.effects, a⟩
        ⟨.unregister, BaseKeys.statements, a⟩ ∧
      s.Swaps BaseKeys.forest ⟨.register, BaseKeys.statements, a⟩
        ⟨.unregister, BaseKeys.effects, a⟩ ∧
      ¬ s.Swaps BaseKeys.forest ⟨.register, BaseKeys.effects, a⟩
        ⟨.unregister, BaseKeys.statements, a⟩ := by
  intro s a
  have heffects : BaseKeys.effects ∈ BaseKeys.forest.keys := by simp [BaseKeys.forest]
  have hconditions : BaseKeys.conditions ∈ BaseKeys.forest.keys := by simp [BaseKeys.forest]
  have hstatements : BaseKeys.statements ∈ BaseKeys.forest.keys := by simp [BaseKeys.forest]
  have hbeside := swaps_iff BaseKeys.forest_grown heffects hconditions s a a
  have habove := swaps_iff BaseKeys.forest_grown heffects hstatements s a a
  have hbelow := swaps_iff BaseKeys.forest_grown hstatements heffects s a a
  have hsame : a.isSame a = true := rfl
  refine ⟨BaseKeys.forest_grown, heffects, hconditions, hstatements, ?_, ?_, ?_, ?_⟩
  · exact hbeside.1.mpr (Or.inr (Or.inr (by
      simp [BaseKeys.effects, BaseKeys.conditions, BaseKeys.statements, Key.ancestors])))
  · rw [habove.1]
    simp [hsame, BaseKeys.effects, BaseKeys.statements, Key.ancestors]
  · exact hbelow.2.mpr (Or.inr (by simp [BaseKeys.effects, BaseKeys.statements, Key.ancestors]))
  · rw [habove.2]
    simp [hsame, BaseKeys.effects, BaseKeys.statements, Key.ancestors]

end Storage

end GrammarRegistry
