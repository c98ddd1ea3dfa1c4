-- The JSON texts of descriptors. All types write the common part in the same way, as a text that
-- tells where it ends; what a type adds stands between it and the closing brace, and begins
-- differently for each type. So a text belongs to one descriptor of one type.
import GrammarRegistry.Descriptor.Rendering
import GrammarRegistry.Proofs.Text.Delimited

namespace GrammarRegistry

open Text

/-! ## Words -/

theorem Priority.word_injective : Function.Injective word := by
  intro a b h
  cases a <;> cases b <;> simp [word] at h ⊢

theorem NodeType.word_injective : Function.Injective word := by
  intro a b h
  cases a <;> cases b <;> simp [word] at h ⊢

theorem ExpressionKind.word_injective : Function.Injective word := by
  intro a b h
  cases a <;> cases b <;> simp [word] at h ⊢

/-! ## Origins -/

namespace Origin

theorem json_builtin : json builtin = "\"builtin\"" := rfl

theorem json_addon (name : String) :
    (addon name).json = "\x7b\"addon\":" ++ Json.string name ++ "\x7d" := by
  have hname : Json.string "addon" = "\"addon\"" := rfl
  rw [← String.toList_inj]
  simp [json, Json.object, Json.member, hname]

theorem json_builtin_ne_addon (name : String) (r s : List Char) :
    (json builtin).toList ++ r ≠ (addon name).json.toList ++ s := by
  rw [json_builtin, json_addon]
  simp

theorem delimited_json : Delimited json := by
  intro a b r s h
  cases a with
  | builtin =>
    cases b with
    | builtin => exact ⟨rfl, List.append_cancel_left h⟩
    | addon name => exact absurd h (json_builtin_ne_addon name r s)
  | addon name =>
    cases b with
    | builtin => exact absurd h.symm (json_builtin_ne_addon name s r)
    | addon name' =>
      simp only [json_addon, String.toList_append, List.append_assoc,
        List.append_cancel_left_eq] at h
      obtain ⟨hname, hrest⟩ := Json.delimited_string name name' _ _ h
      exact ⟨by rw [hname], List.append_cancel_left hrest⟩

end Origin

/-! ## Texts and their parts -/

namespace Production

/-- The text of the common part, up to where the members of the type itself begin. -/
def body (p : Production) : String :=
  String.join ["\x7b\"element\":", Json.string p.element, ",\"origin\":", p.origin.json,
    ",\"priority\":", p.priority.json, ",\"patterns\":", Json.array (p.patterns.map Json.string)]

theorem opened_members (p : Production) : Json.opened p.members = p.body := by
  have helement : Json.string "element" = "\"element\"" := rfl
  have horigin : Json.string "origin" = "\"origin\"" := rfl
  have hpriority : Json.string "priority" = "\"priority\"" := rfl
  have hpatterns : Json.string "patterns" = "\"patterns\"" := rfl
  rw [← String.toList_inj]
  simp [Json.opened, Json.member, members, helement, horigin, hpriority, hpatterns, body]

theorem json_eq (p : Production) : p.json = p.body ++ "\x7d" := by
  rw [json, Json.object_eq, opened_members]

theorem members_ne_nil (p : Production) : p.members ≠ [] := by simp [members]

theorem delimited_body : Delimited body := by
  rintro ⟨element, origin, priority, patterns⟩ ⟨element', origin', priority', patterns'⟩ r s h
  simp only [body, String.toList_join, List.flatMap_cons, List.flatMap_nil, List.append_nil,
    List.append_assoc, List.append_cancel_left_eq] at h
  obtain ⟨helement, h⟩ := Json.delimited_string element element' _ _ h
  obtain ⟨horigin, h⟩ := Origin.delimited_json origin origin' _ _ (List.append_cancel_left h)
  obtain ⟨hpriority, h⟩ := Json.delimited_string.of_word Priority.word_injective priority priority'
    _ _ (List.append_cancel_left h)
  obtain ⟨hpatterns, h⟩ := Json.delimited_array Json.delimited_string
    (fun t => ⟨_, Json.toList_string t⟩) patterns patterns' _ _ (List.append_cancel_left h)
  exact ⟨by rw [helement, horigin, hpriority, hpatterns], h⟩

end Production

namespace Structure

/-- What the type writes behind the common part. -/
def added (s : Structure) : String := String.join [",\"node_type\":", s.nodeType.json]

theorem json_eq (s : Structure) : s.json = s.base.body ++ s.added ++ "\x7d" := by
  have hnode : "," ++ Json.member "node_type" s.nodeType.json =
      ",\"node_type\":" ++ s.nodeType.json := Json.comma_member rfl _
  rw [json, Json.object_eq, members, Json.opened_append s.base.members_ne_nil,
    Production.opened_members, hnode, added]
  simp only [String.join_cons, String.join_nil, String.append_empty]

theorem eq_of_added {s t : Structure} (hbase : s.base = t.base) (hadded : s.added = t.added) :
    s = t := by
  obtain ⟨base, nodeType⟩ := s
  obtain ⟨base', nodeType'⟩ := t
  have hdelimited := Json.delimited_string.of_word NodeType.word_injective
  have hlist := congrArg String.toList hadded
  simp only [added, String.toList_join, List.flatMap_cons, List.append_cancel_left_eq] at hlist
  obtain ⟨hnode, _⟩ := hdelimited nodeType nodeType' _ _ hlist
  rw [show base = base' from hbase, hnode]

end Structure

namespace Expression

/-- What the type writes behind the common part. -/
def added (e : Expression) : String :=
  String.join [",\"return_type\":", Json.string e.returnType, ",\"kind\":", e.kind.json]

theorem json_eq (e : Expression) : e.json = e.base.body ++ e.added ++ "\x7d" := by
  have hreturn : "," ++ Json.member "return_type" (Json.string e.returnType) =
      ",\"return_type\":" ++ Json.string e.returnType := Json.comma_member rfl _
  have hkind : "," ++ Json.member "kind" e.kind.json = ",\"kind\":" ++ e.kind.json :=
    Json.comma_member rfl _
  have hmembers : e.members = e.base.members ++ [("return_type", Json.string e.returnType)] ++
      [("kind", e.kind.json)] := by
    rw [members, List.append_assoc]
    rfl
  rw [json, Json.object_eq, hmembers, Json.opened_append (List.concat_ne_nil _ _),
    Json.opened_append e.base.members_ne_nil, Production.opened_members, hreturn, hkind, added]
  simp only [String.join_cons, String.join_nil, String.append_empty, String.append_assoc]

theorem eq_of_added {e x : Expression} (hbase : e.base = x.base) (hadded : e.added = x.added) :
    e = x := by
  obtain ⟨base, returnType, kind⟩ := e
  obtain ⟨base', returnType', kind'⟩ := x
  have hdelimited := Json.delimited_string.of_word ExpressionKind.word_injective
  have hlist := congrArg String.toList hadded
  simp only [added, String.toList_join, List.flatMap_cons, List.append_cancel_left_eq] at hlist
  obtain ⟨hreturn, hlist⟩ := Json.delimited_string returnType returnType' _ _ hlist
  obtain ⟨hkind, _⟩ := hdelimited kind kind' _ _ (List.append_cancel_left hlist)
  rw [show base = base' from hbase, hreturn, hkind]

end Expression

/-! ## Texts of all types -/

/-- The text of a descriptor of whichever type. -/
def serialized : Production ⊕ Structure ⊕ Expression → String
  | .inl p => p.json
  | .inr (.inl s) => s.json
  | .inr (.inr e) => e.json

/-- The part that the descriptor has in common with those of other types. -/
def commonPart : Production ⊕ Structure ⊕ Expression → Production
  | .inl p => p
  | .inr (.inl s) => s.base
  | .inr (.inr e) => e.base

/-- What the descriptor's type writes behind the common part. -/
def addedPart : Production ⊕ Structure ⊕ Expression → String
  | .inl _ => ""
  | .inr (.inl s) => s.added
  | .inr (.inr e) => e.added

theorem toList_serialized (x : Production ⊕ Structure ⊕ Expression) :
    (serialized x).toList = (commonPart x).body.toList ++ ((addedPart x).toList ++ ['\x7d']) := by
  have hparts : serialized x = (commonPart x).body ++ addedPart x ++ "\x7d" := by
    rcases x with p | s | e
    · rw [addedPart, String.append_empty]
      exact p.json_eq
    · exact s.json_eq
    · exact e.json_eq
  rw [hparts, String.toList_append, String.toList_append, List.append_assoc]
  rfl

/-- What is added to a common part begins differently for each type. -/
theorem eq_of_parts {x y : Production ⊕ Structure ⊕ Expression}
    (hbase : commonPart x = commonPart y) (hadded : addedPart x = addedPart y) : x = y := by
  rcases x with p | s | e <;> rcases y with q | t | e'
  case inl.inl => exact congrArg Sum.inl hbase
  case inr.inl.inr.inl => rw [Structure.eq_of_added hbase hadded]
  case inr.inr.inr.inr => rw [Expression.eq_of_added hbase hadded]
  all_goals
    simp [addedPart, Structure.added, Expression.added, ← String.toList_inj] at hadded

/-- The text tells the descriptor and its type. Every name and pattern is written as a literal that
is read as just that name or pattern, no addon is taken for the runtime, and what a type adds comes
right before the closing brace of the common part. -/
theorem serialized_unambiguous :
    (∀ x y, serialized x = serialized y ↔ x = y) ∧
    (∀ text, Json.Spells (Json.string text) text) ∧
    (∀ name, Origin.builtin.json ≠ (Origin.addon name).json) ∧
    (∀ name, (Origin.addon name).json = "\x7b\"addon\":" ++ Json.string name ++ "\x7d") ∧
    (∀ p : Production, p.json = p.body ++ "\x7d") ∧
    (∀ s : Structure, s.json = s.base.body ++ s.added ++ "\x7d") ∧
    (∀ e : Expression, e.json = e.base.body ++ e.added ++ "\x7d") := by
  refine ⟨?_, Json.string_spells, ?_, Origin.json_addon, Production.json_eq, Structure.json_eq,
    Expression.json_eq⟩
  · intro x y
    refine ⟨?_, congrArg serialized⟩
    intro h
    have hlist := congrArg String.toList h
    rw [toList_serialized, toList_serialized] at hlist
    obtain ⟨hbase, hadded⟩ := Production.delimited_body _ _ _ _ hlist
    exact eq_of_parts hbase (String.toList_inj.mp (List.append_cancel_right hadded))
  · intro name hsame
    exact Origin.json_builtin_ne_addon name [] [] (by rw [hsame])

/-- Names and patterns that look like JSON themselves. -/
example :
    serialized (.inr (.inl ⟨⟨"a\",\"", .addon "builtin", .simple, ["],["]⟩, .either⟩)) =
      "\x7b\"element\":\"a\\\",\\\"\",\"origin\":\x7b\"addon\":\"builtin\"\x7d," ++
        "\"priority\":\"simple\",\"patterns\":[\"],[\"],\"node_type\":\"both\"\x7d" := by
  decide

end GrammarRegistry
