-- String literals of JSON. The writer escapes as little as it may; the reader takes every literal
-- of the format. Main statement: `read_encode`, a literal is read back in full whatever text
-- follows.
import GrammarRegistry.Text.Hex
import GrammarRegistry.Text.Reading

namespace GrammarRegistry.Text.JsonString

/-! ## Writing -/

/-- Two lower-case hexadecimal digits of a number below 256. -/
def twoDigits (n : Nat) : List Char := [Nat.digitChar (n / 16), Nat.digitChar (n % 16)]

/-- One character of a string literal: the quote, the backslash and five control characters have
a short escape, the other control characters below U+0020 are written with four hexadecimal
digits, and all else, U+007F included, stands for itself. -/
def escape (c : Char) : List Char :=
  if c = '"' then ['\\', '"']
  else if c = '\\' then ['\\', '\\']
  else if c = '\x08' then ['\\', 'b']
  else if c = '\x0c' then ['\\', 'f']
  else if c = '\n' then ['\\', 'n']
  else if c = '\r' then ['\\', 'r']
  else if c = '\t' then ['\\', 't']
  else if c.toNat < 0x20 then ['\\', 'u', '0', '0'] ++ twoDigits c.toNat
  else [c]

/-- A string literal, its quotes included. -/
def encode (s : List Char) : List Char := '"' :: (s.flatMap escape ++ ['"'])

/-! ## Reading -/

/-- Where a reader stands: among the characters, behind a backslash, behind some of the four digits
of a code unit, or before the backslash or the letter of the code unit that completes a pair. -/
inductive Place where
  | text
  | escape
  | unit (first : Option Nat) (left : Nat) (n : Nat)
  | pairBackslash (first : Nat)
  | pairLetter (first : Nat)

/-- The character that a letter behind a backslash stands for. -/
def unescape (c : Char) : Option Char :=
  if c = '"' then some '"'
  else if c = '\\' then some '\\'
  else if c = '/' then some '/'
  else if c = 'b' then some '\x08'
  else if c = 'f' then some '\x0c'
  else if c = 'n' then some '\n'
  else if c = 'r' then some '\r'
  else if c = 't' then some '\t'
  else none

/-- What a code unit of four digits comes to: a character, the first half of a pair, or nothing
that may stand there. -/
inductive Unit16 where
  | char (c : Char)
  | half (n : Nat)
  | invalid

/-- A code unit by itself, or as the second half of a pair. -/
def unit16 : Option Nat → Nat → Unit16
  | none, n =>
    if 0xD800 ≤ n && n ≤ 0xDBFF then .half n
    else if 0xDC00 ≤ n && n ≤ 0xDFFF then .invalid
    else .char (Char.ofNat n)
  | some first, n =>
    if 0xDC00 ≤ n && n ≤ 0xDFFF then
      .char (Char.ofNat (0x10000 + (first - 0xD800) * 0x400 + (n - 0xDC00)))
    else .invalid

/-- Reads up to the closing quote: the text, and what follows its literal. -/
def readFrom : Place → List Char → Reading
  | _, [] => none
  | .text, c :: r =>
    if c = '"' then some ([], r)
    else if c = '\\' then readFrom .escape r
    else if c.toNat < 0x20 then none
    else (readFrom .text r).prepend c
  | .escape, c :: r =>
    if c = 'u' then readFrom (.unit none 3 0) r
    else match unescape c with
      | some d => (readFrom .text r).prepend d
      | none => none
  | .unit first left n, c :: r =>
    match hexValue c with
    | none => none
    | some v =>
      match left with
      | left + 1 => readFrom (.unit first left (16 * n + v)) r
      | 0 => match unit16 first (16 * n + v) with
        | .char d => (readFrom .text r).prepend d
        | .half m => readFrom (.pairBackslash m) r
        | .invalid => none
  | .pairBackslash first, c :: r => if c = '\\' then readFrom (.pairLetter first) r else none
  | .pairLetter first, c :: r => if c = 'u' then readFrom (.unit (some first) 3 0) r else none

/-- Reads a string literal off the front of a longer text. -/
def read : List Char → Reading
  | [] => none
  | c :: r => if c = '"' then readFrom .text r else none

/-! ## Reading what was written -/

/-- The four digits of a control character. -/
theorem readFrom_control (n : Nat) (h : n < 0x20) (t : List Char) :
    readFrom .text (['\\', 'u', '0', '0'] ++ twoDigits n ++ t) =
      (readFrom .text t).prepend (Char.ofNat n) := by
  have zero : hexValue '0' = some 0 := by decide
  have high : hexValue (Nat.digitChar (n / 16)) = some (n / 16) := hexValue_digitChar _ (by omega)
  have low : hexValue (Nat.digitChar (n % 16)) = some (n % 16) := hexValue_digitChar _ (by omega)
  have sum : 16 * (n / 16) + n % 16 = n := by omega
  have unit : unit16 none n = .char (Char.ofNat n) := by
    have notFirst : ¬ 0xD800 ≤ n := by omega
    have notSecond : ¬ 0xDC00 ≤ n := by omega
    simp [unit16, notFirst, notSecond]
  simp [twoDigits, readFrom, zero, high, low, sum, unit]

/-- The written form of one character is read as that character. -/
theorem readFrom_escape (c : Char) (t : List Char) :
    readFrom .text (escape c ++ t) = (readFrom .text t).prepend c := by
  unfold escape
  by_cases h₁ : c = '"'
  · subst h₁; simp [readFrom, unescape]
  by_cases h₂ : c = '\\'
  · subst h₂; simp [readFrom, unescape]
  by_cases h₃ : c = '\x08'
  · subst h₃; simp [readFrom, unescape]
  by_cases h₄ : c = '\x0c'
  · subst h₄; simp [readFrom, unescape]
  by_cases h₅ : c = '\n'
  · subst h₅; simp [readFrom, unescape]
  by_cases h₆ : c = '\r'
  · subst h₆; simp [readFrom, unescape]
  by_cases h₇ : c = '\t'
  · subst h₇; simp [readFrom, unescape]
  simp only [h₁, h₂, h₃, h₄, h₅, h₆, h₇, if_false]
  split
  · rename_i h
    rw [readFrom_control _ h, Char.ofNat_toNat]
  · rename_i h
    simp [readFrom, h₁, h₂, h]

theorem readFrom_escapes (s rest : List Char) :
    readFrom .text (s.flatMap escape ++ '"' :: rest) = some (s, rest) := by
  induction s with
  | nil => simp [readFrom]
  | cons c s ih =>
    rw [List.flatMap_cons, List.append_assoc, readFrom_escape, ih]
    rfl

/-- A string literal is read back in full, and where it ends does not depend on what follows. -/
theorem read_encode (s rest : List Char) : read (encode s ++ rest) = some (s, rest) := by
  simp [encode, read, readFrom_escapes]

end GrammarRegistry.Text.JsonString
