-- The live list: what a catalog stands for, told without tickets and buckets. It keeps each
-- live registration with its home, the key that it was made under, in the order in which they
-- were made.
import GrammarRegistry.Handle
import GrammarRegistry.Key.Basic

namespace GrammarRegistry

/-- The list less the last member that passes a test. -/
def eraseLast {β : Type} (test : β → Bool) (l : List β) : List β := (l.reverse.eraseP test).reverse

/-- Only the newest member counts if it passes, and it stays if it does not. -/
theorem eraseLast_append_singleton {β : Type} (test : β → Bool) (l : List β) (x : β) :
    eraseLast test (l ++ [x]) = if test x then l else eraseLast test l ++ [x] := by
  by_cases h : test x <;> simp [eraseLast, h]

/-- A list where no member passes is left as it is. -/
theorem eraseLast_of_forall_not {β : Type} {test : β → Bool} {l : List β}
    (h : ∀ x ∈ l, test x = false) : eraseLast test l = l := by
  have none : ∀ x ∈ l.reverse, ¬ test x = true := fun x hx => by simp [h x (List.mem_reverse.mp hx)]
  rw [eraseLast, List.eraseP_of_forall_not none, List.reverse_reverse]

/-- One live registration. -/
structure Registration (τ α : Type) where
  home : Key τ
  info : Shared α

/-- The registration is visible under the key: its home is the key or lies below it. -/
def Registration.isUnder {τ α : Type} (k : Key τ) (r : Registration τ α) : Bool := r.home.isWithin k

/-- The registration is of this very descriptor, and visible under the key. -/
def Registration.isMatch {τ α : Type} (k : Key τ) (d : Shared α) (r : Registration τ α) : Bool :=
  r.info.isSame d && r.isUnder k

/-- The live registrations, oldest first. -/
abbrev Live (τ α : Type) := List (Registration τ α)

namespace Live

variable {τ α : Type}

def register (l : Live τ α) (k : Key τ) (d : Shared α) : Live τ α := l ++ [⟨k, d⟩]

/-- Removes the newest match, if there is one. -/
def unregister (l : Live τ α) (k : Key τ) (d : Shared α) : Live τ α := eraseLast (·.isMatch k d) l

def elements (l : Live τ α) : List (Shared α) := l.map (·.info)

def under (l : Live τ α) (k : Key τ) : List (Shared α) := (l.filter (·.isUnder k)).map (·.info)

end Live

end GrammarRegistry
