-- What a draft comes to. Any run of calls leaves the patterns of all of them in order and, of each
-- choice, what the last call for it settled. The draft is then judged by its texts alone: the name
-- comes first, then the patterns, and what an expression returns comes last.
import GrammarRegistry.Descriptor.Draft
import Mathlib.Data.List.Induction

namespace GrammarRegistry

variable {β γ : Type}

/-! ## What a run of calls settles -/

/-- What the last call tells that tells anything, or what holds by default. -/
def settled (byDefault : β) (told : γ → Option β) (calls : List γ) : β :=
  (calls.filterMap told).getLast?.getD byDefault

/-- One more call counts before all others, if it tells anything. -/
theorem settled_append_singleton (byDefault : β) (told : γ → Option β) (calls : List γ)
    (call : γ) :
    settled byDefault told (calls ++ [call]) =
      (told call).getD (settled byDefault told calls) := by
  cases h : told call <;> simp [settled, h]

namespace ProductionCall

/-- The patterns that the call adds. -/
def texts : ProductionCall → List String
  | pattern text => [text]
  | patterns texts => texts
  | _ => []

def priority? : ProductionCall → Option Priority
  | priority p => some p
  | _ => none

def origin? : ProductionCall → Option Origin
  | origin o => some o
  | _ => none

end ProductionCall

namespace StructureCall

/-- What the call tells of the common part. -/
def common? : StructureCall → Option ProductionCall
  | pattern text => some (.pattern text)
  | priority p => some (.priority p)
  | origin o => some (.origin o)
  | nodeType _ => none

def nodeType? : StructureCall → Option NodeType
  | nodeType n => some n
  | _ => none

end StructureCall

namespace ExpressionCall

/-- What the call tells of the common part. -/
def common? : ExpressionCall → Option ProductionCall
  | pattern text => some (.pattern text)
  | patterns texts => some (.patterns texts)
  | origin o => some (.origin o)
  | kind _ => none

def kind? : ExpressionCall → Option ExpressionKind
  | kind k => some k
  | _ => none

end ExpressionCall

/-! ## The draft that is left -/

theorem ProductionDraft.ofCalls_append_singleton (element : String) (calls : List ProductionCall)
    (call : ProductionCall) :
    ofCalls element (calls ++ [call]) = (ofCalls element calls).apply call := by
  rw [ofCalls, List.foldl_append]
  rfl

theorem ProductionDraft.ofCalls_eq (element : String) (calls : List ProductionCall) :
    ofCalls element calls =
      ⟨element, settled .builtin ProductionCall.origin? calls,
        settled .combined ProductionCall.priority? calls, calls.flatMap ProductionCall.texts⟩ := by
  induction calls using List.reverseRecOn with
  | nil => rfl
  | append_singleton calls call ih =>
    rw [ofCalls_append_singleton, ih, settled_append_singleton, settled_append_singleton,
      List.flatMap_append]
    cases call <;>
      simp [apply, addPatterns, ProductionCall.origin?, ProductionCall.priority?,
        ProductionCall.texts]

theorem StructureDraft.ofCalls_eq (element : String) (calls : List StructureCall) :
    ofCalls element calls =
      ⟨.ofCalls element (calls.filterMap StructureCall.common?),
        settled .block StructureCall.nodeType? calls⟩ := by
  induction calls using List.reverseRecOn with
  | nil => rfl
  | append_singleton calls call ih =>
    rw [ofCalls, List.foldl_append, ← ofCalls, ih, settled_append_singleton,
      List.filterMap_append]
    cases call <;>
      simp [apply, StructureCall.common?, StructureCall.nodeType?, List.filterMap_cons,
        ProductionDraft.ofCalls_append_singleton]

theorem ExpressionDraft.ofCalls_eq (element returnType : String) (calls : List ExpressionCall) :
    ofCalls element returnType calls =
      ⟨.ofCalls element (calls.filterMap ExpressionCall.common?), returnType,
        settled .combined ExpressionCall.kind? calls⟩ := by
  induction calls using List.reverseRecOn with
  | nil => rfl
  | append_singleton calls call ih =>
    rw [ofCalls, List.foldl_append, ← ofCalls, ih, settled_append_singleton,
      List.filterMap_append]
    cases call <;>
      simp [apply, ExpressionCall.common?, ExpressionCall.kind?, List.filterMap_cons,
        ProductionDraft.ofCalls_append_singleton]

/-! ## How a draft is judged -/

/-- The text is white space throughout. The empty text is. -/
def Blank (text : String) : Prop := ∀ c ∈ text.toList, Text.isSpace c = true

/-- The text at the index is blank, and it is the first one that is. -/
def FirstBlank (texts : List String) (index : Nat) : Prop :=
  (∃ text, texts[index]? = some text ∧ Blank text) ∧
    ∀ i < index, ∀ text, texts[i]? = some text → ¬ Blank text

/-- There are patterns, and none of them is blank. -/
def Sound (patterns : List String) : Prop := patterns ≠ [] ∧ ∀ text ∈ patterns, ¬ Blank text

namespace FirstBlank

variable {texts : List String} {i j : Nat}

theorem ne_nil (h : FirstBlank texts i) : texts ≠ [] := by
  obtain ⟨⟨text, hget, _⟩, _⟩ := h
  exact List.ne_nil_of_mem (List.mem_of_getElem? hget)

theorem not_sound (h : FirstBlank texts i) : ¬ Sound texts := by
  obtain ⟨⟨text, hget, hblank⟩, _⟩ := h
  exact fun hsound => hsound.2 text (List.mem_of_getElem? hget) hblank

theorem unique (hi : FirstBlank texts i) (hj : FirstBlank texts j) : i = j := by
  obtain ⟨⟨s, hs, hsblank⟩, hbefore⟩ := hi
  obtain ⟨⟨t, ht, htblank⟩, hbefore'⟩ := hj
  rcases Nat.lt_trichotomy i j with hlt | heq | hlt
  · exact absurd hsblank (hbefore' i hlt s hs)
  · exact heq
  · exact absurd htblank (hbefore j hlt t ht)

end FirstBlank

/-- What must come of a draft with these texts, where `returned` is the type that an expression
returns, and `made` is the descriptor that it makes if all is well. -/
inductive Verdict (element : String) (patterns : List String) (returned : Option String)
    (made : β) : Except DraftError β → Prop
  | emptyElement (h : Blank element) : Verdict element patterns returned made (.error .emptyElement)
  | noPatterns (h : ¬ Blank element) (hnone : patterns = []) :
      Verdict element patterns returned made (.error (.noPatterns element))
  | blankPattern (h : ¬ Blank element) {index : Nat} (hfirst : FirstBlank patterns index) :
      Verdict element patterns returned made (.error (.blankPattern element index))
  | emptyReturnType (h : ¬ Blank element) (hsound : Sound patterns)
      (hreturned : ∃ r ∈ returned, Blank r) :
      Verdict element patterns returned made (.error (.emptyReturnType element))
  | ok (h : ¬ Blank element) (hsound : Sound patterns) (hreturned : ∀ r ∈ returned, ¬ Blank r) :
      Verdict element patterns returned made (.ok made)

namespace Verdict

variable {element : String} {patterns : List String} {returned : Option String} {made : β}
  {built built' : Except DraftError β}

theorem unique (h : Verdict element patterns returned made built)
    (h' : Verdict element patterns returned made built') : built = built' := by
  cases h with
  | emptyElement h => cases h' <;> first | rfl | contradiction
  | noPatterns h hnone =>
    cases h' with
    | emptyElement h' => exact absurd h' h
    | noPatterns => rfl
    | blankPattern _ hj => exact absurd hnone hj.ne_nil
    | emptyReturnType _ hsound => exact absurd hnone hsound.1
    | ok _ hsound => exact absurd hnone hsound.1
  | blankPattern h hi =>
    cases h' with
    | emptyElement h' => exact absurd h' h
    | noPatterns _ hnone => exact absurd hnone hi.ne_nil
    | blankPattern _ hj => rw [hi.unique hj]
    | emptyReturnType _ hsound => exact absurd hsound hi.not_sound
    | ok _ hsound => exact absurd hsound hi.not_sound
  | emptyReturnType h hsound hblank =>
    obtain ⟨r, hr, hblank⟩ := hblank
    cases h' with
    | emptyElement h' => exact absurd h' h
    | noPatterns _ hnone => exact absurd hnone hsound.1
    | blankPattern _ hj => exact absurd hsound hj.not_sound
    | emptyReturnType => rfl
    | ok _ _ hnot => exact absurd hblank (hnot r hr)
  | ok h hsound hnot =>
    cases h' with
    | emptyElement h' => exact absurd h' h
    | noPatterns _ hnone => exact absurd hnone hsound.1
    | blankPattern _ hj => exact absurd hsound hj.not_sound
    | emptyReturnType _ _ hblank =>
      obtain ⟨r, hr, hblank⟩ := hblank
      exact absurd hblank (hnot r hr)
    | ok => rfl

theorem eq_iff (h : Verdict element patterns returned made built) (x : Except DraftError β) :
    built = x ↔ Verdict element patterns returned made x :=
  ⟨fun hx => hx ▸ h, h.unique⟩

end Verdict

theorem ProductionDraft.build_verdict (d : ProductionDraft) :
    Verdict d.element d.patterns none ⟨d.element, d.origin, d.priority, d.patterns⟩ d.build := by
  unfold build
  split
  · rename_i hblank
    exact .emptyElement ((Text.isBlank_iff _).mp hblank)
  rename_i hblank
  rw [Text.isBlank_iff] at hblank
  split
  · rename_i hnone
    exact .noPatterns hblank (List.isEmpty_iff.mp hnone)
  rename_i hsome
  rw [List.isEmpty_iff] at hsome
  split
  · rename_i index hfound
    obtain ⟨hlt, hthere, hbefore⟩ := List.findIdx?_eq_some_iff_getElem.mp hfound
    have hget := List.getElem?_eq_getElem hlt
    refine .blankPattern hblank ⟨⟨_, hget, (Text.isBlank_iff _).mp hthere⟩, ?_⟩
    intro i hi text htext hempty
    obtain ⟨_, rfl⟩ := List.getElem?_eq_some_iff.mp htext
    exact hbefore i hi ((Text.isBlank_iff _).mpr hempty)
  · rename_i hnot
    refine .ok hblank ⟨hsome, ?_⟩ (by simp)
    intro text htext hempty
    have hpass := List.findIdx?_eq_none_iff.mp hnot text htext
    rw [(Text.isBlank_iff text).mpr hempty] at hpass
    cases hpass

theorem StructureDraft.build_verdict (d : StructureDraft) :
    Verdict d.base.element d.base.patterns none
      ⟨⟨d.base.element, d.base.origin, d.base.priority, d.base.patterns⟩, d.nodeType⟩ d.build := by
  have hbase := d.base.build_verdict
  unfold build
  generalize d.base.build = built at hbase ⊢
  cases hbase with
  | emptyElement h => exact .emptyElement h
  | noPatterns h hnone => exact .noPatterns h hnone
  | blankPattern h hfirst => exact .blankPattern h hfirst
  | emptyReturnType h hsound hreturned => exact .emptyReturnType h hsound hreturned
  | ok h hsound hreturned => exact .ok h hsound hreturned

/-- What is returned is looked at once the common part is found to be well. -/
theorem ExpressionDraft.build_verdict (d : ExpressionDraft) :
    Verdict d.base.element d.base.patterns (some d.returnType)
      ⟨⟨d.base.element, d.base.origin, d.kind.priority, d.base.patterns⟩, d.returnType, d.kind⟩
      d.build := by
  have hbase := (d.base.apply (.priority d.kind.priority)).build_verdict
  unfold build
  generalize (d.base.apply (.priority d.kind.priority)).build = built at hbase ⊢
  cases hbase with
  | emptyElement h => exact .emptyElement h
  | noPatterns h hnone => exact .noPatterns h hnone
  | blankPattern h hfirst => exact .blankPattern h hfirst
  | emptyReturnType _ _ hreturned => simp at hreturned
  | ok h hsound _ =>
    simp only
    split
    · rename_i hblank
      exact .emptyReturnType h hsound ⟨_, rfl, (Text.isBlank_iff _).mp hblank⟩
    · rename_i hblank
      rw [Text.isBlank_iff] at hblank
      refine .ok h hsound fun r hr => ?_
      rwa [← Option.some.inj hr]

/-! ## Any run of calls -/

/-- Whatever calls a draft takes, what is built follows from the name, the type that is returned,
the patterns of all calls in order, and the last call for each choice. -/
theorem ofCalls_build_iff :
    (∀ (element : String) (calls : List ProductionCall) (x : Except DraftError Production),
      (ProductionDraft.ofCalls element calls).build = x ↔
        Verdict element (calls.flatMap ProductionCall.texts) none
          ⟨element, settled .builtin ProductionCall.origin? calls,
            settled .combined ProductionCall.priority? calls,
            calls.flatMap ProductionCall.texts⟩ x) ∧
    (∀ (element : String) (calls : List StructureCall) (x : Except DraftError Structure),
      let common := calls.filterMap StructureCall.common?
      (StructureDraft.ofCalls element calls).build = x ↔
        Verdict element (common.flatMap ProductionCall.texts) none
          ⟨⟨element, settled .builtin ProductionCall.origin? common,
            settled .combined ProductionCall.priority? common,
            common.flatMap ProductionCall.texts⟩, settled .block StructureCall.nodeType? calls⟩ x) ∧
    (∀ (element returnType : String) (calls : List ExpressionCall)
      (x : Except DraftError Expression),
      let common := calls.filterMap ExpressionCall.common?
      let kind := settled .combined ExpressionCall.kind? calls
      (ExpressionDraft.ofCalls element returnType calls).build = x ↔
        Verdict element (common.flatMap ProductionCall.texts) (some returnType)
          ⟨⟨element, settled .builtin ProductionCall.origin? common, kind.priority,
            common.flatMap ProductionCall.texts⟩, returnType, kind⟩ x) := by
  refine ⟨?_, ?_, ?_⟩
  · intro element calls x
    rw [ProductionDraft.ofCalls_eq]
    exact (ProductionDraft.build_verdict _).eq_iff x
  · intro element calls x common
    rw [StructureDraft.ofCalls_eq, ProductionDraft.ofCalls_eq]
    exact (StructureDraft.build_verdict _).eq_iff x
  · intro element returnType calls x common kind
    rw [ExpressionDraft.ofCalls_eq, ProductionDraft.ofCalls_eq]
    exact (ExpressionDraft.build_verdict _).eq_iff x

/-- The kind that is settled last decides the priority, and the index counts the patterns of all
calls. -/
example :
    ((ExpressionDraft.ofCalls "e" "text"
      [.kind .catchAll, .pattern "a", .patterns [], .kind .event]).build).map (·.base.priority) =
        .ok .simple ∧
      (ExpressionDraft.ofCalls "e" " " [.patterns ["a", "b"], .pattern "\t"]).build =
        .error (.blankPattern "e" 2) :=
  ⟨rfl, rfl⟩

end GrammarRegistry
