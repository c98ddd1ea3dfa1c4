-- Hexadecimal digits, read one at a time.

namespace GrammarRegistry.Text

/-- The value of a hexadecimal digit of either case. -/
def hexValue (c : Char) : Option Nat :=
  let n := c.toNat
  if 0x30 ≤ n && n ≤ 0x39 then some (n - 0x30)
  else if 0x61 ≤ n && n ≤ 0x66 then some (n - 0x57)
  else if 0x41 ≤ n && n ≤ 0x46 then some (n - 0x37)
  else none

theorem hexValue_digitChar (d : Nat) (h : d < 16) : hexValue (Nat.digitChar d) = some d := by
  have all : ∀ i : Fin 16, hexValue (Nat.digitChar i) = some i.val := by decide
  exact all ⟨d, h⟩

/-- A digit of ours is never a closing brace. -/
theorem digitChar_ne_brace (d : Nat) (h : d < 16) : Nat.digitChar d ≠ '\x7d' := by
  have all : ∀ i : Fin 16, Nat.digitChar i ≠ '\x7d' := by decide
  exact all ⟨d, h⟩

end GrammarRegistry.Text
