-- Quoted text. Diagnostics put every name between double quotes, with the quote, the backslash
-- and the hidden characters spelled so that the name can be read back. Which characters are
-- hidden is a parameter of the rule. Main statement: `read_encode`, a reader finds the name and
-- the end of its quoted form whatever text follows.
import GrammarRegistry.Text.Hex
import GrammarRegistry.Text.Hidden
import GrammarRegistry.Text.Reading

namespace GrammarRegistry.Text.Quoted

/-! ## Writing -/

/-- One character inside the quotes: the quote and the backslash take a backslash, line feed,
carriage return, tab and NUL have a letter, a hidden character is its hexadecimal number, with no
leading zero, in braces, and all else stands for itself. -/
def escape (hidden : Char → Bool) (c : Char) : List Char :=
  if c = '"' then ['\\', '"']
  else if c = '\\' then ['\\', '\\']
  else if c = '\n' then ['\\', 'n']
  else if c = '\r' then ['\\', 'r']
  else if c = '\t' then ['\\', 't']
  else if c = '\x00' then ['\\', '0']
  else if hidden c then ['\\', 'u', '\x7b'] ++ Nat.toDigits 16 c.toNat ++ ['\x7d']
  else [c]

/-- The text between double quotes. -/
def encode (hidden : Char → Bool) (s : List Char) : List Char :=
  '"' :: (s.flatMap (escape hidden) ++ ['"'])

/-! ## Reading -/

/-- Where a reader stands: among the characters of the text, behind a backslash, before the brace
of a number, or behind some digits of a number. -/
inductive Place where
  | text
  | escape
  | brace
  | number (n : Nat)

/-- The character that stands for itself or for another one behind a backslash. -/
def unescape (c : Char) : Option Char :=
  if c = '"' then some '"'
  else if c = '\\' then some '\\'
  else if c = 'n' then some '\n'
  else if c = 'r' then some '\r'
  else if c = 't' then some '\t'
  else if c = '0' then some '\x00'
  else none

/-- Reads up to the closing quote: the text, and what follows its quoted form. -/
def readFrom : Place → List Char → Reading
  | _, [] => none
  | .text, c :: r =>
    if c = '"' then some ([], r)
    else if c = '\\' then readFrom .escape r
    else (readFrom .text r).prepend c
  | .escape, c :: r =>
    if c = 'u' then readFrom .brace r
    else match unescape c with
      | some d => (readFrom .text r).prepend d
      | none => none
  | .brace, c :: r => if c = '\x7b' then readFrom (.number 0) r else none
  | .number n, c :: r =>
    if c = '\x7d' then (readFrom .text r).prepend (Char.ofNat n)
    else match hexValue c with
      | some v => readFrom (.number (16 * n + v)) r
      | none => none

/-- Reads a quoted text off the front of a longer one. -/
def read : List Char → Reading
  | [] => none
  | c :: r => if c = '"' then readFrom .text r else none

/-! ## Reading what was written -/

/-- One more digit of a number. -/
theorem readFrom_digit (n d : Nat) (h : d < 16) (t : List Char) :
    readFrom (.number n) (Nat.digitChar d :: t) = readFrom (.number (16 * n + d)) t := by
  simp [readFrom, digitChar_ne_brace d h, hexValue_digitChar d h]

theorem readFrom_digits (n : Nat) (t : List Char) :
    readFrom (.number 0) (Nat.toDigits 16 n ++ t) = readFrom (.number n) t := by
  induction n using Nat.strongRecOn generalizing t with
  | ind n ih =>
    rw [Nat.toDigits_eq_if (by decide)]
    split
    · rename_i h
      simp [readFrom_digit 0 n h]
    · rename_i h
      rw [List.append_assoc, ih (n / 16) (by omega), List.singleton_append,
        readFrom_digit _ _ (Nat.mod_lt _ (by decide)), Nat.div_add_mod]

/-- The written form of one character is read as that character. -/
theorem readFrom_escape (hidden : Char → Bool) (c : Char) (t : List Char) :
    readFrom .text (escape hidden c ++ t) = (readFrom .text t).prepend c := by
  unfold escape
  by_cases h₁ : c = '"'
  · subst h₁; simp [readFrom, unescape]
  by_cases h₂ : c = '\\'
  · subst h₂; simp [readFrom, unescape]
  by_cases h₃ : c = '\n'
  · subst h₃; simp [readFrom, unescape]
  by_cases h₄ : c = '\r'
  · subst h₄; simp [readFrom, unescape]
  by_cases h₅ : c = '\t'
  · subst h₅; simp [readFrom, unescape]
  by_cases h₆ : c = '\x00'
  · subst h₆; simp [readFrom, unescape]
  simp only [h₁, h₂, h₃, h₄, h₅, h₆, if_false]
  split
  · simp [readFrom, readFrom_digits, Char.ofNat_toNat]
  · simp [readFrom, h₁, h₂]

theorem readFrom_escapes (hidden : Char → Bool) (s rest : List Char) :
    readFrom .text (s.flatMap (escape hidden) ++ '"' :: rest) = some (s, rest) := by
  induction s with
  | nil => simp [readFrom]
  | cons c s ih =>
    rw [List.flatMap_cons, List.append_assoc, readFrom_escape, ih]
    rfl

/-- A quoted text is read back in full, and where it ends does not depend on what follows. So two
texts never share a quoted form, and none of these forms is the beginning of another. -/
theorem read_encode (hidden : Char → Bool) (s rest : List Char) :
    read (encode hidden s ++ rest) = some (s, rest) := by
  simp [encode, read, readFrom_escapes]

end GrammarRegistry.Text.Quoted

namespace GrammarRegistry.Text

/-- The quoted form of a name, for a choice of the characters that are hidden. -/
def quoteBy (hidden : Char → Bool) (s : String) : String :=
  String.ofList (Quoted.encode hidden s.toList)

/-- The quoted form of a name in messages and record texts. -/
def quote (s : String) : String := quoteBy isHidden s

theorem toList_quoteBy (hidden : Char → Bool) (s : String) :
    (quoteBy hidden s).toList = Quoted.encode hidden s.toList := by
  simp [quoteBy]

end GrammarRegistry.Text
