-- The messages of errors. Names stand in them between quotes, so that a name tells where it ends
-- whatever it holds, and no name is taken for the words around it. Each message is that of one
-- error only.
import GrammarRegistry.Descriptor.DraftError
import GrammarRegistry.RegistryError
import GrammarRegistry.Proofs.Text.Delimited

namespace GrammarRegistry

open Text

/-! ## Errors of registries -/

theorem Mutation.delimited_word : Delimited word := by
  intro a b r s h
  cases a <;> cases b
  case register.register => exact ⟨rfl, List.append_cancel_left h⟩
  case unregister.unregister => exact ⟨rfl, List.append_cancel_left h⟩
  all_goals simp [word] at h

/-- The first letter tells the kind of the error, and the names are read one after the other. -/
theorem RegistryError.messageBy_injective (hidden : Char → Bool) :
    Function.Injective (messageBy hidden) := by
  intro x y h
  have hlist := congrArg String.toList h
  unfold messageBy at hlist
  cases x <;> cases y <;> simp only [String.toList_append, List.append_assoc] at hlist
  case unsupported.unsupported registry op key registry' op' key' =>
    obtain ⟨hop, hlist⟩ := Mutation.delimited_word op op' _ _ (List.append_cancel_left hlist)
    obtain ⟨hkey, hlist⟩ := delimited_quoteBy hidden key key' _ _ (List.append_cancel_left hlist)
    obtain ⟨hregistry, _⟩ := delimited_quoteBy hidden registry registry' _ _
      (List.append_cancel_left hlist)
    rw [hop, hkey, hregistry]
  case payloadMismatch.payloadMismatch key ancestor key' ancestor' =>
    obtain ⟨hkey, hlist⟩ := delimited_quoteBy hidden key key' _ _ (List.append_cancel_left hlist)
    have hancestor := (delimited_quoteBy hidden).injective
      (String.toList_inj.mp (List.append_cancel_left hlist))
    rw [hkey, hancestor]
  -- one message begins with a c, the other with a d
  all_goals simp at hlist

/-! ## Errors of drafts -/

theorem toString_nat_injective : Function.Injective (toString : Nat → String) := by
  intro i j h
  have hdigits : Nat.toDigits 10 i = Nat.toDigits 10 j := by
    rw [← Nat.toList_repr, ← Nat.toList_repr]
    exact congrArg String.toList h
  calc i = Nat.ofDigitChars 10 (Nat.toDigits 10 i) 0 := Nat.ofDigitChars_ten_toDigits.symm
    _ = Nat.ofDigitChars 10 (Nat.toDigits 10 j) 0 := by rw [hdigits]
    _ = j := Nat.ofDigitChars_ten_toDigits

/-- Two messages on patterns that agree up to the end of the name go on differently. The one on the
name itself has a letter where these have a quote. -/
theorem DraftError.messageBy_injective (hidden : Char → Bool) :
    Function.Injective (messageBy hidden) := by
  intro x y h
  have hlist := congrArg String.toList h
  unfold messageBy at hlist
  cases x <;> cases y <;> simp only [String.toList_append, List.append_assoc] at hlist
  case emptyElement.emptyElement => rfl
  case noPatterns.noPatterns element element' =>
    obtain ⟨helement, _⟩ := delimited_quoteBy hidden element element' _ _
      (List.append_cancel_left hlist)
    rw [helement]
  case emptyReturnType.emptyReturnType element element' =>
    obtain ⟨helement, _⟩ := delimited_quoteBy hidden element element' _ _
      (List.append_cancel_left hlist)
    rw [helement]
  case blankPattern.blankPattern element index element' index' =>
    obtain ⟨helement, hlist⟩ := delimited_quoteBy hidden element element' _ _
      (List.append_cancel_left hlist)
    have hindex := toString_nat_injective
      (String.toList_inj.mp (List.append_cancel_left hlist))
    rw [helement, hindex]
  case noPatterns.blankPattern element element' index =>
    obtain ⟨_, hlist⟩ := delimited_quoteBy hidden element element' _ _
      (List.append_cancel_left hlist)
    simp at hlist
  case blankPattern.noPatterns element index element' =>
    obtain ⟨_, hlist⟩ := delimited_quoteBy hidden element element' _ _
      (List.append_cancel_left hlist)
    simp at hlist
  all_goals simp [toList_quoteBy, Quoted.encode] at hlist

/-! ## Messages and what they are of -/

/-- Whichever characters are hidden in names, the quoted form of a name is not the beginning of that
of another one, and an error is told from its message. The messages that are shown are so in
particular. -/
theorem messages_unambiguous :
    (∀ (hidden : Char → Bool) (a b : String),
      (quoteBy hidden a).toList <+: (quoteBy hidden b).toList → a = b) ∧
    (∀ (hidden : Char → Bool) (x y : RegistryError),
      x.messageBy hidden = y.messageBy hidden ↔ x = y) ∧
    (∀ (hidden : Char → Bool) (x y : DraftError),
      x.messageBy hidden = y.messageBy hidden ↔ x = y) ∧
    (∀ x y : RegistryError, x.message = y.message ↔ x = y) ∧
    (∀ x y : DraftError, x.message = y.message ↔ x = y) := by
  refine ⟨?_, ?_, ?_, ?_, ?_⟩
  · intro hidden a b
    exact (delimited_quoteBy hidden).eq_of_isPrefix
  · intro hidden x y
    exact (RegistryError.messageBy_injective hidden).eq_iff
  · intro hidden x y
    exact (DraftError.messageBy_injective hidden).eq_iff
  · intro x y
    exact (RegistryError.messageBy_injective isHidden).eq_iff
  · intro x y
    exact (DraftError.messageBy_injective isHidden).eq_iff

/-- The name of a key looks like the rest of a message. -/
example :
    (RegistryError.payloadMismatch "a\" does not fit ancestor key \"b" "c").message =
      "descriptor registered under key \"a\\\" does not fit ancestor key \\\"b\" " ++
        "does not fit ancestor key \"c\"" := by
  decide

end GrammarRegistry
