-- Blank text. A name or a pattern that holds nothing but white space says nothing, so drafts
-- refuse it. White space is the Unicode property White_Space, at both ends and in the middle.

namespace GrammarRegistry.Text

/-! ## White space -/

/-- The characters of the Unicode property White_Space: 25 code points. U+001C to U+001F, U+180E,
U+200B to U+200D, U+2060 and U+FEFF are not among them. -/
def isSpace (c : Char) : Bool :=
  let n := c.toNat
  (0x09 ≤ n && n ≤ 0x0D) || n == 0x20 || n == 0x85 || n == 0xA0 || n == 0x1680 ||
    (0x2000 ≤ n && n ≤ 0x200A) || n == 0x2028 || n == 0x2029 || n == 0x202F || n == 0x205F ||
    n == 0x3000

/-- The text less the white space at its two ends. White space between other characters stays. -/
def strip (s : List Char) : List Char :=
  ((s.dropWhile isSpace).reverse.dropWhile isSpace).reverse

/-- Nothing is left of the text once its ends are stripped. -/
def isBlank (s : String) : Bool := (strip s.toList).isEmpty

/-! ## What blank means -/

theorem dropWhile_eq_nil_iff_all (p : Char → Bool) (s : List Char) :
    s.dropWhile p = [] ↔ ∀ c ∈ s, p c = true := by
  induction s with
  | nil => simp
  | cons c r ih => by_cases h : p c <;> simp [h, ih]

/-- Stripping leaves nothing exactly when the text is white space throughout: what stands first
after the left end is stripped is no white space, and would stay. -/
theorem strip_eq_nil_iff (s : List Char) : strip s = [] ↔ ∀ c ∈ s, isSpace c = true := by
  unfold strip
  rw [List.reverse_eq_nil_iff, dropWhile_eq_nil_iff_all]
  constructor
  · intro h
    rw [← dropWhile_eq_nil_iff_all]
    match hd : s.dropWhile isSpace with
    | [] => rfl
    | c :: r =>
      have hc : isSpace c = true := h c (by simp [hd])
      have := List.head_dropWhile_not isSpace (by simp [hd] : s.dropWhile isSpace ≠ [])
      simp [hd, hc] at this
  · intro h c hc
    exact h c (List.dropWhile_subset _ (List.mem_reverse.mp hc))

theorem isBlank_iff (s : String) : isBlank s = true ↔ ∀ c ∈ s.toList, isSpace c = true := by
  unfold isBlank
  rw [List.isEmpty_iff, strip_eq_nil_iff]

end GrammarRegistry.Text
