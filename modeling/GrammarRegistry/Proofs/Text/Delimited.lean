-- Texts that tell where they end. A string literal of JSON does, since it is read back in full
-- whatever follows, and so do a quoted name and an array of texts that do. What is made of such
-- parts can be taken apart again in one way only.
import GrammarRegistry.Text.Json
import GrammarRegistry.Text.Quoted
import Mathlib.Logic.Function.Basic

namespace GrammarRegistry.Text

variable {α β : Type}

/-- Whatever follows, the text tells the value that was written, and where the text ends. -/
def Delimited (write : α → String) : Prop :=
  ∀ (a b : α) (r s : List Char), (write a).toList ++ r = (write b).toList ++ s → a = b ∧ r = s

theorem Delimited.eq_of_isPrefix {write : α → String} (h : Delimited write) {a b : α}
    (hab : (write a).toList <+: (write b).toList) : a = b := by
  obtain ⟨rest, hrest⟩ := hab
  exact (h a b rest [] (by rw [hrest, List.append_nil])).1

theorem Delimited.injective {write : α → String} (h : Delimited write) :
    Function.Injective write := by
  intro a b hab
  exact h.eq_of_isPrefix (hab ▸ List.prefix_refl _)

/-- Texts that are read back in full, whatever follows. -/
theorem Delimited.of_read {write : String → String} {read : List Char → Reading}
    (h : ∀ text rest, read ((write text).toList ++ rest) = some (text.toList, rest)) :
    Delimited write := by
  intro a b r s hab
  have hread := congrArg read hab
  rw [h a r, h b s] at hread
  obtain ⟨htext, hrest⟩ := Prod.mk.inj (Option.some.inj hread)
  exact ⟨String.toList_inj.mp htext, hrest⟩

theorem delimited_quoteBy (hidden : Char → Bool) : Delimited (quoteBy hidden) := by
  refine @Delimited.of_read _ Quoted.read fun text rest => ?_
  rw [toList_quoteBy]
  exact Quoted.read_encode hidden text.toList rest

/-- Values that are written by words of their own. -/
theorem Delimited.of_word {write : α → String} (h : Delimited write) {word : β → α}
    (hword : Function.Injective word) : Delimited fun b => write (word b) := by
  intro a b r s hab
  obtain ⟨hsame, hrest⟩ := h _ _ r s hab
  exact ⟨hword hsame, hrest⟩

namespace Json

/-- The literal is read as the text, up to its closing quote, whatever follows. -/
def Spells (literal text : String) : Prop :=
  ∀ rest, JsonString.read (literal.toList ++ rest) = some (text.toList, rest)

theorem string_spells (text : String) : Spells (string text) text := by
  intro rest
  rw [toList_string]
  exact JsonString.read_encode text.toList rest

theorem delimited_string : Delimited string := Delimited.of_read string_spells

/-! ## Arrays -/

/-- What follows the first item of an array: the other items, each behind a comma, and the closing
bracket. -/
def behind (items : List String) : List Char := (items.flatMap fun t => ',' :: t.toList) ++ [']']

theorem toList_array_cons (t : String) (items : List String) :
    (array (t :: items)).toList = '[' :: (t.toList ++ behind items) := by
  have hitems : (String.intercalate "," (t :: items)).toList ++ [']'] =
      t.toList ++ behind items := by
    induction items generalizing t with
    | nil => simp [behind]
    | cons u items ih =>
      rw [String.intercalate_cons_cons, String.toList_append, List.append_assoc, ih]
      simp [behind]
  rw [array, String.toList_append, String.toList_append, List.append_assoc]
  exact congrArg ('[' :: ·) hitems

variable {write : α → String}

theorem behind_inj (h : Delimited write) (as bs : List α) (r s : List Char)
    (hab : behind (as.map write) ++ r = behind (bs.map write) ++ s) : as = bs ∧ r = s := by
  have hcons : ∀ (x : α) (xs : List α) (q : List Char), behind ((x :: xs).map write) ++ q =
      ',' :: ((write x).toList ++ (behind (xs.map write) ++ q)) := fun x xs q => by
    simp [behind]
  induction as generalizing bs with
  | nil =>
    cases bs with
    | nil => exact ⟨rfl, by simpa [behind] using hab⟩
    | cons b bs => simp [behind] at hab
  | cons a as ih =>
    cases bs with
    | nil => simp [behind] at hab
    | cons b bs =>
      rw [hcons, hcons, List.cons.injEq] at hab
      obtain ⟨hfirst, hothers⟩ := h a b _ _ hab.2
      obtain ⟨hitems, hrest⟩ := ih bs hothers
      exact ⟨by rw [hfirst, hitems], hrest⟩

theorem delimited_array (h : Delimited write) (hfirst : ∀ a, ∃ t, (write a).toList = '"' :: t) :
    Delimited fun as : List α => array (as.map write) := by
  have hempty : ∀ (b : α) (bs : List α) (r s : List Char),
      (array []).toList ++ r ≠ (array ((b :: bs).map write)).toList ++ s := by
    intro b bs r s hab
    obtain ⟨t, ht⟩ := hfirst b
    rw [List.map_cons, toList_array_cons, ht] at hab
    simp [array] at hab
  intro as bs r s hab
  cases as with
  | nil =>
    cases bs with
    | nil => exact ⟨rfl, List.append_cancel_left hab⟩
    | cons b bs => exact absurd hab (hempty b bs r s)
  | cons a as =>
    cases bs with
    | nil => exact absurd hab.symm (hempty a as s r)
    | cons b bs =>
      simp only [List.map_cons, toList_array_cons, List.cons_append, List.append_assoc,
        List.cons.injEq, true_and] at hab
      obtain ⟨hone, hothers⟩ := h a b _ _ hab
      obtain ⟨hitems, hrest⟩ := behind_inj h as bs r s hothers
      exact ⟨by rw [hone, hitems], hrest⟩

/-! ## Objects -/

/-- The text of an object up to its closing brace. -/
def opened (members : List (String × String)) : String :=
  "\x7b" ++ String.intercalate "," (members.map fun m => member m.1 m.2)

theorem object_eq (members : List (String × String)) :
    object members = opened members ++ "\x7d" := rfl

theorem opened_append {members : List (String × String)} (h : members ≠ []) (name value : String) :
    opened (members ++ [(name, value)]) = opened members ++ ("," ++ member name value) := by
  have hnames : members.map (fun m => member m.1 m.2) ≠ [] := by simpa using h
  rw [opened, List.map_append, String.intercalate_append_of_ne_nil hnames (by simp),
    opened]
  simp only [String.append_assoc, List.map_cons, List.map_nil, String.intercalate_singleton]

/-- The mark before a member's value, as one text. -/
theorem comma_member {name mark : String} (h : "," ++ string name ++ ":" = mark)
    (value : String) : "," ++ member name value = mark ++ value := by
  rw [← h, member]
  simp only [String.append_assoc]

end Json

end GrammarRegistry.Text
