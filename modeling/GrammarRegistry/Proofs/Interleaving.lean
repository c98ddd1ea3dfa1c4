-- Interleavings. Several lists are merged by taking, again and again, the head of one of them.
-- So calls of threads come in when each call takes effect at once, and so a list is put together
-- from its parts. Nothing is lost or doubled on the way, and each list keeps its own order.
import Mathlib.Algebra.GroupWithZero.Nat
import Mathlib.Data.List.Nodup

namespace GrammarRegistry

variable {β γ : Type}

/-- The one list is an interleaving of the others: its head is the head of one of them, and its
tail is an interleaving of what is left of them. -/
inductive Interleaving : List (List β) → List β → Prop
  | done {parts : List (List β)} (h : ∀ t ∈ parts, t = []) : Interleaving parts []
  | step {before after : List (List β)} {x : β} {rest whole : List β}
      (h : Interleaving (before ++ rest :: after) whole) :
      Interleaving (before ++ (x :: rest) :: after) (x :: whole)

namespace Interleaving

variable {parts : List (List β)} {whole : List β}

/-! ## What an interleaving has of its parts -/

theorem perm (h : Interleaving parts whole) : whole.Perm parts.flatten := by
  induction h with
  | done h => rw [List.flatten_eq_nil_iff.mpr h]
  | @step before after x rest whole _ ih =>
    rw [List.flatten_append, List.flatten_cons, List.cons_append]
    refine (ih.cons x).trans ?_
    rw [List.flatten_append, List.flatten_cons]
    exact List.perm_middle.symm

theorem sublist (h : Interleaving parts whole) {t : List β} (ht : t ∈ parts) :
    t.Sublist whole := by
  induction h generalizing t with
  | done h =>
    rw [h t ht]
  | @step before after x rest whole _ ih =>
    rcases List.mem_append.mp ht with ht | ht
    · exact (ih (List.mem_append_left _ ht)).cons x
    · rcases List.mem_cons.mp ht with rfl | ht
      · exact (ih (by simp)).cons_cons x
      · exact (ih (by simp [ht])).cons x

theorem countP_eq (h : Interleaving parts whole) (test : β → Bool) :
    whole.countP test = (parts.map (List.countP test)).sum := by
  rw [h.perm.countP_eq, List.countP_flatten]

theorem length_eq (h : Interleaving parts whole) :
    whole.length = (parts.map List.length).sum := by
  rw [h.perm.length_eq, List.length_flatten]

/-- Copies of one list of equal members have one interleaving. -/
theorem eq_replicate {n m : Nat} {x : β}
    (h : Interleaving (List.replicate n (List.replicate m x)) whole) :
    whole = List.replicate (n * m) x := by
  have hperm := h.perm
  rw [List.flatten_replicate_replicate] at hperm
  exact List.perm_replicate.mp hperm

/-! ## Interleavings that are made of others -/

theorem nil_cons (h : Interleaving parts whole) : Interleaving ([] :: parts) whole := by
  induction h with
  | done h => exact .done (by simpa using h)
  | @step before after x rest whole _ ih => exact @step _ ([] :: before) after x rest whole ih

/-- The parts may come one after another. -/
theorem flatten (parts : List (List β)) : Interleaving parts parts.flatten := by
  induction parts with
  | nil => exact .done (by simp)
  | cons t parts ih =>
    induction t with
    | nil => exact ih.nil_cons
    | cons x t iht => exact @step _ [] parts x t _ iht

theorem map (h : Interleaving parts whole) (g : β → γ) :
    Interleaving (parts.map (List.map g)) (whole.map g) := by
  induction h with
  | done h =>
    refine .done fun t ht => ?_
    obtain ⟨u, hu, rfl⟩ := List.mem_map.mp ht
    rw [h u hu, List.map_nil]
  | step _ ih =>
    rw [List.map_append, List.map_cons] at ih ⊢
    exact .step ih

/-- What passes a test of an interleaving is an interleaving of what passes of the parts. -/
theorem filter (h : Interleaving parts whole) (test : β → Bool) :
    Interleaving (parts.map (List.filter test)) (whole.filter test) := by
  induction h with
  | done h =>
    refine .done fun t ht => ?_
    obtain ⟨u, hu, rfl⟩ := List.mem_map.mp ht
    rw [h u hu, List.filter_nil]
  | @step before after x rest whole _ ih =>
    rw [List.map_append, List.map_cons] at ih ⊢
    by_cases hx : test x = true
    · rw [List.filter_cons_of_pos hx, List.filter_cons_of_pos hx]
      exact .step ih
    · rw [List.filter_cons_of_neg hx, List.filter_cons_of_neg hx]
      exact ih

/-- If each member of a list that is kept passes just one of some tests, and no other member passes
any of them, what is kept is an interleaving of what passes each test. -/
theorem of_tests (tests : List (β → Bool)) (keep : β → Bool) (l : List β)
    (h : ∀ x ∈ l, tests.countP (· x) = if keep x then 1 else 0) :
    Interleaving (tests.map fun test => l.filter test) (l.filter keep) := by
  induction l with
  | nil =>
    refine .done fun t ht => ?_
    obtain ⟨test, _, rfl⟩ := List.mem_map.mp ht
    exact List.filter_nil
  | cons x l ih =>
    have hrest := ih fun y hy => h y (List.mem_cons_of_mem x hy)
    have hcount := h x List.mem_cons_self
    have hskip : ∀ others : List (β → Bool), others.countP (· x) = 0 →
        (others.map fun test => (x :: l).filter test) = others.map fun test => l.filter test := by
      intro others hnone
      refine List.map_congr_left fun other hother => ?_
      exact List.filter_cons_of_neg (List.countP_eq_zero.mp hnone other hother)
    by_cases hkeep : keep x = true
    · -- the head is in the part of the one test, and in no other part
      rw [if_pos hkeep] at hcount
      obtain ⟨test, htest, hx⟩ := List.countP_pos_iff.mp (hcount ▸ Nat.one_pos)
      obtain ⟨before, after, rfl⟩ := List.append_of_mem htest
      rw [List.countP_append, List.countP_cons, if_pos hx] at hcount
      rw [List.map_append, List.map_cons] at hrest ⊢
      rw [hskip before (by omega), hskip after (by omega), List.filter_cons_of_pos hx,
        List.filter_cons_of_pos hkeep]
      exact .step hrest
    · rw [if_neg hkeep] at hcount
      rw [hskip tests hcount, List.filter_cons_of_neg hkeep]
      exact hrest

end Interleaving

end GrammarRegistry
