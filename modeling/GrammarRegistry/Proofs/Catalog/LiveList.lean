-- The laws of the live list: what it means to remove the newest match. A removal keeps the order
-- of all that stays, undoes the registration just made, and carries an inclusion of two lists
-- over to what is left of them.
import GrammarRegistry.Catalog.Live
import Mathlib.Data.List.Induction

namespace GrammarRegistry

/-! ## Removing the last member that passes a test -/

section

variable {β : Type} {test : β → Bool}

theorem eraseLast_append_of_forall_not {l l' : List β} (h : ∀ x ∈ l', test x = false) :
    eraseLast test (l ++ l') = eraseLast test l ++ l' := by
  have hnone : ∀ x ∈ l'.reverse, ¬ test x = true := fun x hx => by
    simp [h x (List.mem_reverse.mp hx)]
  rw [eraseLast, List.reverse_append, List.eraseP_append_right _ hnone, List.reverse_append,
    List.reverse_reverse, eraseLast]

theorem eraseLast_split {l₁ l₂ : List β} {x : β} (hx : test x = true)
    (h : ∀ y ∈ l₂, test y = false) : eraseLast test (l₁ ++ x :: l₂) = l₁ ++ l₂ := by
  rw [List.append_cons, eraseLast_append_of_forall_not h, eraseLast_append_singleton, if_pos hx]

theorem getLast?_filter_split {l₁ l₂ : List β} {x : β} (hx : test x = true)
    (h : ∀ y ∈ l₂, test y = false) : ((l₁ ++ x :: l₂).filter test).getLast? = some x := by
  have hl₂ : l₂.filter test = [] := by
    rw [List.filter_eq_nil_iff]
    intro y hy
    simp [h y hy]
  rw [List.filter_append, List.filter_cons_of_pos hx, hl₂]
  simp

theorem getLast?_filter_of_forall_not {l : List β} (h : ∀ x ∈ l, test x = false) :
    (l.filter test).getLast? = none := by
  rw [List.getLast?_eq_none_iff, List.filter_eq_nil_iff]
  intro x hx
  simp [h x hx]

theorem forall_not_or_exists_last (test : β → Bool) (l : List β) :
    (∀ x ∈ l, test x = false) ∨
      ∃ l₁ x l₂, l = l₁ ++ x :: l₂ ∧ test x = true ∧ ∀ y ∈ l₂, test y = false := by
  induction l using List.reverseRecOn with
  | nil => simp
  | append_singleton l x ih =>
    by_cases hx : test x = true
    · exact Or.inr ⟨l, x, [], rfl, hx, by simp⟩
    · have hx' : test x = false := by simpa using hx
      rcases ih with hnone | ⟨l₁, y, l₂, rfl, hy, hl₂⟩
      · left
        intro z hz
        rcases List.mem_append.mp hz with hz | hz
        · exact hnone z hz
        · rw [List.mem_singleton.mp hz, hx']
      · right
        refine ⟨l₁, y, l₂ ++ [x], by simp, hy, ?_⟩
        intro z hz
        rcases List.mem_append.mp hz with hz | hz
        · exact hl₂ z hz
        · rw [List.mem_singleton.mp hz, hx']

/-- A part of the list that holds all members that pass loses the same member. -/
theorem filter_eraseLast_of_imp {keep : β → Bool} {l : List β}
    (h : ∀ x ∈ l, test x = true → keep x = true) :
    (eraseLast test l).filter keep = eraseLast test (l.filter keep) := by
  rcases forall_not_or_exists_last test l with hnone | ⟨l₁, x, l₂, rfl, hx, hl₂⟩
  · rw [eraseLast_of_forall_not hnone,
      eraseLast_of_forall_not fun y hy => hnone y ((List.mem_filter.mp hy).1)]
  · have hkeep : keep x = true := h x (by simp) hx
    rw [eraseLast_split hx hl₂, List.filter_append, List.filter_append,
      List.filter_cons_of_pos hkeep,
      eraseLast_split hx fun y hy => hl₂ y ((List.mem_filter.mp hy).1)]

theorem filter_eraseLast_of_not {keep : β → Bool} {l : List β}
    (h : ∀ x ∈ l, test x = true → keep x = false) :
    (eraseLast test l).filter keep = l.filter keep := by
  rcases forall_not_or_exists_last test l with hnone | ⟨l₁, x, l₂, rfl, hx, hl₂⟩
  · rw [eraseLast_of_forall_not hnone]
  · have hdrop : ¬ keep x = true := by simp [h x (by simp) hx]
    rw [eraseLast_split hx hl₂, List.filter_append, List.filter_append,
      List.filter_cons_of_neg hdrop]

/-- If one list is included in another, so is what is left of them after each has lost its own
last member that passes. -/
theorem eraseLast_sublist_eraseLast {l l' : List β} (h : l.Sublist l') :
    (eraseLast test l).Sublist (eraseLast test l') :=
  h.reverse.eraseP.reverse

end

/-! ## The live list -/

namespace Live

variable {τ α : Type} (l : Live τ α) (k : Key τ) (d : Shared α)

/-- The registration that a removal takes. -/
def newest? : Option (Registration τ α) := (l.filter (·.isMatch k d)).getLast?

variable {l k d}

theorem newest?_split {l₁ l₂ : Live τ α} {r : Registration τ α} (hr : r.isMatch k d = true)
    (h : ∀ x ∈ l₂, x.isMatch k d = false) : newest? (l₁ ++ r :: l₂) k d = some r :=
  getLast?_filter_split hr h

theorem newest?_eq_none (h : ∀ r ∈ l, r.isMatch k d = false) : newest? l k d = none :=
  getLast?_filter_of_forall_not h

theorem unregister_split {l₁ l₂ : Live τ α} {r : Registration τ α} (hr : r.isMatch k d = true)
    (h : ∀ x ∈ l₂, x.isMatch k d = false) :
    unregister (l₁ ++ r :: l₂) k d = l₁ ++ l₂ :=
  eraseLast_split hr h

theorem unregister_of_forall_not (h : ∀ r ∈ l, r.isMatch k d = false) :
    unregister l k d = l :=
  eraseLast_of_forall_not h

/-- A removal through the key of the last registration, or one above it, undoes it. -/
theorem unregister_register {a : Key τ} (h : k.isWithin a = true) :
    unregister (register l k d) a d = l := by
  have hmatch : (⟨k, d⟩ : Registration τ α).isMatch a d = true := by
    simp [Registration.isMatch, Registration.isUnder, Shared.isSame, h]
  unfold register unregister
  rw [eraseLast_append_singleton, if_pos hmatch]

end Live

end GrammarRegistry
