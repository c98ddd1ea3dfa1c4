-- The laws of keys and forests. In a forest that was made one key at a time, ids tell keys apart
-- and fall on the way up, so the line above a key repeats no key and stays in the forest. The
-- chain of a descriptor follows that line, and settling it never fails.
import GrammarRegistry.Key.BaseKeys
import GrammarRegistry.Key.Chain
import Mathlib.Data.List.Nodup

namespace GrammarRegistry

variable {τ : Type}

/-! ## The line above a key -/

namespace Key

theorem self_mem_lineage (k : Key τ) : k ∈ k.lineage := by simp [lineage]

theorem lineage_child (i : KeyId) (n : String) (payload : τ) (p : Key τ) :
    (child i n payload p).lineage = child i n payload p :: p.lineage := rfl

theorem lineage_suffix {k a : Key τ} (h : a ∈ k.lineage) : a.lineage <:+ k.lineage := by
  induction k with
  | root i n payload =>
    simp only [lineage, ancestors, List.mem_singleton] at h
    subst h
    exact List.suffix_refl _
  | child i n payload p ih =>
    rw [lineage_child, List.mem_cons] at h
    rcases h with rfl | h
    · exact List.suffix_refl _
    · exact (ih h).trans (List.suffix_cons _ _)

theorem mem_lineage_trans {k a b : Key τ} (ha : a ∈ k.lineage) (hb : b ∈ a.lineage) :
    b ∈ k.lineage :=
  (lineage_suffix ha).subset hb

theorem mem_lineage_total {k a b : Key τ} (ha : a ∈ k.lineage) (hb : b ∈ k.lineage) :
    a ∈ b.lineage ∨ b ∈ a.lineage := by
  rcases List.suffix_or_suffix_of_suffix (lineage_suffix ha) (lineage_suffix hb) with h | h
  · exact Or.inl (h.subset a.self_mem_lineage)
  · exact Or.inr (h.subset b.self_mem_lineage)

/-! ## Walking up -/

theorem ancestors_eq (k : Key τ) : k.ancestors = (k.parent?.map lineage).getD [] := by
  cases k <;> rfl

theorem mem_ancestors_of_parent? {k o : Key τ} (h : o.parent? = some k) : k ∈ o.ancestors := by
  rw [ancestors_eq, h]
  exact self_mem_lineage k

/-- What a walk up hands out at one of its calls, counted from 0, where `next` is what it hands out
first. After each call it stands at the parent of the key that it has handed out. -/
def visit : Option (Key τ) → Nat → Option (Key τ)
  | next, 0 => next
  | next, n + 1 => visit (next.bind parent?) n

theorem visit_none (n : Nat) : visit (none : Option (Key τ)) n = none := by
  induction n with
  | zero => rfl
  | succ n ih => exact ih

/-- A walk that starts at the parent meets the ancestors one after another. -/
theorem visit_parent? (k : Key τ) (n : Nat) : visit k.parent? n = k.ancestors[n]? := by
  induction k generalizing n with
  | root i name payload => exact visit_none n
  | child i name payload p ih =>
    cases n with
    | zero => rfl
    | succ n => exact ih n

theorem head?_ancestors (k : Key τ) : k.ancestors.head? = k.parent? := by cases k <;> rfl

/-- Two keys above one key are above one another, unless they are one. -/
theorem mem_ancestors_total {k a b : Key τ} (ha : a ∈ k.ancestors) (hb : b ∈ k.ancestors) :
    a = b ∨ a ∈ b.ancestors ∨ b ∈ a.ancestors := by
  rcases mem_lineage_total (List.mem_cons_of_mem k ha) (List.mem_cons_of_mem k hb) with h | h
  · exact (List.mem_cons.mp h).imp_right Or.inl
  · exact (List.mem_cons.mp h).imp Eq.symm Or.inr

theorem mem_ancestors_ids {k : Key τ} {i : KeyId} :
    i ∈ k.ancestors.map id ↔
      ∃ p, k.parent? = some p ∧ (i = p.id ∨ i ∈ p.ancestors.map id) := by
  cases k <;> simp [ancestors, parent?]

theorem isWithin_iff {k o : Key τ} : k.isWithin o = true ↔ o.id ∈ k.lineage.map Key.id := by
  simp [isWithin, isSame, List.any_eq_true]

theorem isWithin_of_mem_lineage {k o : Key τ} (h : o ∈ k.lineage) : k.isWithin o = true :=
  isWithin_iff.mpr (List.mem_map_of_mem h)

/-! ## The chain of a descriptor -/

variable {α : Type} [DecidableEq τ]

/-- A descriptor that is seen as the key's payload type makes every step of the climb. -/
theorem climb_handle (home : String) (k : Key τ) (d : Shared α) :
    k.climb home (k.handle d) = .ok (k.ancestors.map fun a => (a.id, a.handle d)) := by
  induction k with
  | root i n payload => rfl
  | child i n payload p ih =>
    have step : ((child i n payload p).handle d).widen? payload p.payload = some (p.handle d) := by
      simp [Handle.widen?, handle, Key.payload]
    simp only [climb, step, ih, ancestors, List.map_cons]
    rfl

theorem chain_handle (k : Key τ) (d : Shared α) :
    k.chain (k.handle d) = .ok (k.lineage.map fun a => (a.id, a.handle d)) := by
  rw [chain, climb_handle]
  rfl

/-- The chain of any handle goes along the line of the key, unless the handle is not seen as the
key's payload type and there is a parent to widen it for. -/
theorem chain_cases (k : Key τ) (h : Handle τ α) :
    (∃ links, k.chain h = .ok links ∧ links.map Prod.fst = k.id :: k.ancestors.map id) ∨
      ∃ p, k.parent? = some p ∧ h.payload ≠ k.payload ∧
        k.chain h = .error (.payloadMismatch k.name p.name) := by
  obtain ⟨seen, d⟩ := h
  cases k with
  | root i n payload => exact Or.inl ⟨_, rfl, rfl⟩
  | child i n payload p =>
    by_cases hseen : seen = payload
    · subst hseen
      refine Or.inl ⟨_, chain_handle (child i n seen p) d, ?_⟩
      rw [List.map_map, lineage, List.map_cons]
      rfl
    · refine Or.inr ⟨p, rfl, hseen, ?_⟩
      rw [chain, climb, Handle.widen?, if_neg hseen]
      rfl

end Key

/-! ## Forests -/

namespace Forest

variable {f : Forest τ}

theorem mem_add {k a : Key τ} : a ∈ (f.add k).keys ↔ a ∈ f.keys ∨ a = k := by
  simp [add, List.mem_append]

theorem ids_add {k : Key τ} (h : f.keys.map Key.id = (List.range f.keys.length).map KeyId.mk)
    (hid : k.id = f.nextId) :
    (f.add k).keys.map Key.id = (List.range (f.add k).keys.length).map KeyId.mk := by
  simp only [add, List.map_append, h, List.map_singleton, hid, nextId, List.length_append,
    List.length_singleton, List.range_succ]

section

variable [PayloadTypes τ]

/-- A forest that was made one key at a time, each child below a key that was there. -/
inductive Grown : Forest τ → Prop
  | empty : Grown empty
  | root {f : Forest τ} (name : String) (payload : τ) : Grown f → Grown (f.root name payload).2
  | child {f : Forest τ} {parent : Key τ} {name : String} {payload : τ} {made : Key τ × Forest τ} :
      Grown f → parent ∈ f.keys → f.child? parent name payload = some made → Grown made.2

theorem child?_eq_some {parent : Key τ} {name : String} {payload : τ} {made : Key τ × Forest τ}
    (h : f.child? parent name payload = some made) :
    PayloadTypes.fits payload parent.payload = true ∧
      made = (.child f.nextId name payload parent,
        f.add (.child f.nextId name payload parent)) := by
  unfold child? at h
  split at h
  · rename_i hfits
    exact ⟨hfits, (Option.some.inj h).symm⟩
  · cases h

namespace Grown

theorem ancestors_mem (hf : f.Grown) : ∀ k ∈ f.keys, ∀ a ∈ k.ancestors, a ∈ f.keys := by
  induction hf with
  | empty => simp [Forest.empty]
  | root name payload _ ih =>
    intro k hk a ha
    rcases mem_add.mp hk with hk | rfl
    · exact mem_add.mpr (Or.inl (ih k hk a ha))
    · simp [Key.ancestors] at ha
  | @child f parent name payload made _ hp hmade ih =>
    obtain ⟨_, rfl⟩ := child?_eq_some hmade
    intro k hk a ha
    rcases mem_add.mp hk with hk | rfl
    · exact mem_add.mpr (Or.inl (ih k hk a ha))
    · rcases List.mem_cons.mp ha with rfl | ha
      · exact mem_add.mpr (Or.inl hp)
      · exact mem_add.mpr (Or.inl (ih parent hp a ha))

theorem lineage_mem (hf : f.Grown) {k a : Key τ} (hk : k ∈ f.keys) (ha : a ∈ k.lineage) :
    a ∈ f.keys := by
  rcases List.mem_cons.mp ha with rfl | ha
  · exact hk
  · exact hf.ancestors_mem k hk a ha

/-- The ids of a forest count up from 0. -/
theorem ids_eq (hf : f.Grown) : f.keys.map Key.id = (List.range f.keys.length).map KeyId.mk := by
  induction hf with
  | empty => rfl
  | root name payload _ ih => exact ids_add ih rfl
  | child _ _ hmade ih =>
    obtain ⟨_, rfl⟩ := child?_eq_some hmade
    exact ids_add ih rfl

theorem id_lt (hf : f.Grown) {k : Key τ} (hk : k ∈ f.keys) : k.id.value < f.keys.length := by
  have hmem : k.id ∈ f.keys.map Key.id := List.mem_map_of_mem hk
  rw [hf.ids_eq, List.mem_map] at hmem
  obtain ⟨n, hn, hid⟩ := hmem
  rw [← hid]
  exact List.mem_range.mp hn

theorem ids_nodup (hf : f.Grown) : (f.keys.map Key.id).Nodup := by
  rw [hf.ids_eq]
  exact List.nodup_range.map (fun a b h => KeyId.mk.inj h)

theorem eq_of_id_eq (hf : f.Grown) {a b : Key τ} (ha : a ∈ f.keys) (hb : b ∈ f.keys)
    (h : a.id = b.id) : a = b :=
  List.inj_on_of_nodup_map hf.ids_nodup ha hb h

/-- Ids fall on the way up. -/
theorem ancestors_older (hf : f.Grown) :
    ∀ k ∈ f.keys, ∀ a ∈ k.ancestors, a.id.value < k.id.value := by
  induction hf with
  | empty => simp [Forest.empty]
  | root name payload _ ih =>
    intro k hk a ha
    rcases mem_add.mp hk with hk | rfl
    · exact ih k hk a ha
    · simp [Key.ancestors] at ha
  | @child f parent name payload made hf hp hmade ih =>
    obtain ⟨_, rfl⟩ := child?_eq_some hmade
    intro k hk a ha
    rcases mem_add.mp hk with hk | rfl
    · exact ih k hk a ha
    · exact hf.id_lt (hf.lineage_mem hp ha)

/-- Ids fall along the whole line of a key. -/
theorem lineage_falls (hf : f.Grown) {k : Key τ} (hk : k ∈ f.keys) :
    k.lineage.Pairwise fun a b => b.id.value < a.id.value := by
  induction k with
  | root i n payload => exact List.pairwise_singleton _ _
  | child i n payload p ih =>
    rw [Key.lineage_child, List.pairwise_cons]
    exact ⟨hf.ancestors_older _ hk, ih (hf.ancestors_mem _ hk p (by simp [Key.ancestors]))⟩

theorem lineage_ids_nodup (hf : f.Grown) {k : Key τ} (hk : k ∈ f.keys) :
    (k.lineage.map Key.id).Nodup := by
  rw [List.Nodup, List.pairwise_map]
  exact (hf.lineage_falls hk).imp fun h hid => Nat.ne_of_gt h (congrArg KeyId.value hid)

/-- No more keys are above a key than were made before it. -/
theorem length_ancestors_le (hf : f.Grown) {k : Key τ} (hk : k ∈ f.keys) :
    k.ancestors.length ≤ k.id.value := by
  induction k with
  | root i n payload => exact Nat.zero_le _
  | child i n payload p ih =>
    have habove : p ∈ (Key.child i n payload p).ancestors := by simp [Key.ancestors]
    exact Nat.lt_of_le_of_lt (ih (hf.ancestors_mem _ hk p habove))
      (hf.ancestors_older _ hk p habove)

theorem isWithin_iff_mem (hf : f.Grown) {k o : Key τ} (hk : k ∈ f.keys) (ho : o ∈ f.keys) :
    k.isWithin o = true ↔ o ∈ k.lineage := by
  refine ⟨fun h => ?_, Key.isWithin_of_mem_lineage⟩
  obtain ⟨a, ha, hid⟩ := List.mem_map.mp (Key.isWithin_iff.mp h)
  rwa [hf.eq_of_id_eq ho (hf.lineage_mem hk ha) hid.symm]

/-- The line of a key meets the id of a key once if the one is within the other, else never. -/
theorem lineage_filter_id (hf : f.Grown) {k o : Key τ} (hk : k ∈ f.keys) (ho : o ∈ f.keys) :
    (k.lineage.filter fun a => a.id = o.id) = if k.isWithin o then [o] else [] := by
  split
  · rename_i hwithin
    have hmem := (hf.isWithin_iff_mem hk ho).mp hwithin
    have hnodup : (k.lineage.filter fun a => a.id = o.id).Nodup :=
      (hf.lineage_ids_nodup hk).of_map.filter _
    rw [← List.perm_singleton, List.perm_ext_iff_of_nodup hnodup (List.nodup_singleton o)]
    intro a
    rw [List.mem_filter, List.mem_singleton, decide_eq_true_eq]
    refine ⟨?_, ?_⟩
    · rintro ⟨ha, hid⟩
      exact hf.eq_of_id_eq (hf.lineage_mem hk ha) ho hid
    · rintro rfl
      exact ⟨hmem, rfl⟩
  · rename_i hnot
    rw [List.filter_eq_nil_iff]
    intro a ha hid
    exact hnot (Key.isWithin_iff.mpr (of_decide_eq_true hid ▸ List.mem_map_of_mem ha))

theorem isWithin_trans (hf : f.Grown) {k a b : Key τ} (hk : k ∈ f.keys) (ha : a ∈ f.keys)
    (hka : k.isWithin a = true) (hab : a.isWithin b = true) : k.isWithin b = true := by
  have hmem := (hf.isWithin_iff_mem hk ha).mp hka
  obtain ⟨c, hc, hid⟩ := List.mem_map.mp (Key.isWithin_iff.mp hab)
  exact Key.isWithin_iff.mpr (hid ▸ List.mem_map_of_mem (Key.mem_lineage_trans hmem hc))

theorem eq_of_isWithin (hf : f.Grown) {a b : Key τ} (ha : a ∈ f.keys) (hb : b ∈ f.keys)
    (hab : a.isWithin b = true) (hba : b.isWithin a = true) : a = b := by
  rcases List.mem_cons.mp ((hf.isWithin_iff_mem ha hb).mp hab) with h | hab
  · exact h.symm
  rcases List.mem_cons.mp ((hf.isWithin_iff_mem hb ha).mp hba) with h | hba
  · exact h
  have h₁ := hf.ancestors_older a ha b hab
  have h₂ := hf.ancestors_older b hb a hba
  omega

theorem not_isWithin_of_mem_ancestors (hf : f.Grown) {k a : Key τ} (hk : k ∈ f.keys)
    (ha : a ∈ k.ancestors) : a.isWithin k = false := by
  rw [← Bool.not_eq_true]
  intro hwithin
  have habove : a ∈ k.lineage := List.mem_cons_of_mem k ha
  have hsame : a = k := hf.eq_of_isWithin (hf.lineage_mem hk habove) hk hwithin
    (Key.isWithin_of_mem_lineage habove)
  have holder := hf.ancestors_older k hk a ha
  rw [hsame] at holder
  exact absurd holder (Nat.lt_irrefl _)

end Grown

end

end Forest

/-- The base categories are made like all other keys. -/
theorem BaseKeys.forest_grown : BaseKeys.forest.Grown := by
  have hroots : (⟨[structures, sections, statements]⟩ : Forest Payload).Grown :=
    ((Forest.Grown.empty.root "structure" Payload.structural).root "section"
      Payload.production).root "statement" Payload.production
  have heffects : (⟨[structures, sections, statements, effects]⟩ : Forest Payload).Grown :=
    @Forest.Grown.child _ _ _ statements "effect" .production (effects, _) hroots (by simp) rfl
  have hconditions :
      (⟨[structures, sections, statements, effects, conditions]⟩ : Forest Payload).Grown :=
    @Forest.Grown.child _ _ _ statements "condition" .production (conditions, _) heffects
      (by simp) rfl
  exact hconditions.root "expression" Payload.expression

end GrammarRegistry
