-- Buckets along the forest. What is listed under a key was made under the key itself or is listed
-- under one of its children, and what is listed at all is listed under one root. Nothing is
-- missing, nothing is there twice, and all lists have the same order.
import GrammarRegistry.Proofs.Interleaving
import GrammarRegistry.Proofs.Registry.Ticketing

namespace GrammarRegistry

variable {τ α : Type}

/-! ## Keys right below a key -/

namespace Key

variable {k a o : Key τ}

theorem exists_below_of_mem_ancestors (h : a ∈ k.ancestors) :
    ∃ o ∈ k.lineage, o.parent? = some a := by
  induction k with
  | root i n payload => simp [ancestors] at h
  | child i n payload p ih =>
    rcases List.mem_cons.mp h with rfl | h
    · exact ⟨_, self_mem_lineage _, rfl⟩
    · obtain ⟨o, ho, hparent⟩ := ih h
      exact ⟨o, List.mem_cons_of_mem _ ho, hparent⟩

theorem exists_root (k : Key τ) : ∃ o ∈ k.lineage, o.parent? = none := by
  induction k with
  | root i n payload => exact ⟨_, self_mem_lineage _, rfl⟩
  | child i n payload p ih =>
    obtain ⟨o, ho, hparent⟩ := ih
    exact ⟨o, List.mem_cons_of_mem _ ho, hparent⟩

end Key

namespace Forest

/-- The keys right below a key, or those that stand below no key. -/
def below (f : Forest τ) (p : Option (Key τ)) : List (Key τ) :=
  f.keys.filter fun o => o.parent?.map Key.id = p.map Key.id

/-- The keys that were made as children of the key. -/
def children (f : Forest τ) (k : Key τ) : List (Key τ) := f.below (some k)

def roots (f : Forest τ) : List (Key τ) := f.below none

variable [PayloadTypes τ] {f : Forest τ} {k a o : Key τ}

namespace Grown

theorem mem_below (hf : f.Grown) {p : Option (Key τ)} (hp : ∀ k ∈ p, k ∈ f.keys) :
    o ∈ f.below p ↔ o ∈ f.keys ∧ o.parent? = p := by
  rw [Forest.below, List.mem_filter, decide_eq_true_eq]
  refine and_congr_right fun ho => ⟨?_, congrArg (Option.map Key.id)⟩
  intro hid
  cases hparent : o.parent? with
  | none =>
    rw [hparent] at hid
    exact (Option.map_eq_none_iff.mp hid.symm).symm
  | some q =>
    rw [hparent] at hid
    obtain ⟨k, rfl, hsame⟩ := Option.map_eq_some_iff.mp hid.symm
    have hq : q ∈ f.keys := hf.ancestors_mem o ho q (Key.mem_ancestors_of_parent? hparent)
    rw [hf.eq_of_id_eq hq (hp k rfl) hsame.symm]

theorem mem_children (hf : f.Grown) (hk : k ∈ f.keys) :
    o ∈ f.children k ↔ o ∈ f.keys ∧ o.parent? = some k :=
  hf.mem_below (by simpa using hk)

/-- Two keys with one parent, or two roots, are on no line together. -/
theorem eq_of_parent?_eq (hf : f.Grown) (ho : o ∈ f.keys) (hparent : o.parent? = a.parent?)
    (hon : o ∈ a.lineage) : o = a := by
  rcases List.mem_cons.mp hon with hsame | hon
  · exact hsame
  · rw [Key.ancestors_eq, ← hparent, ← Key.ancestors_eq] at hon
    exact absurd (hf.ancestors_older o ho o hon) (Nat.lt_irrefl _)

/-- A key is within one of the keys right below a key if one of these is on its line. -/
theorem countP_below (hf : f.Grown) {p : Option (Key τ)} (hp : ∀ k ∈ p, k ∈ f.keys)
    (ha : a ∈ f.keys) (ho : o ∈ a.lineage) (hparent : o.parent? = p) :
    (f.below p).countP (a.isWithin ·) = 1 := by
  have hfound : o ∈ f.keys := hf.lineage_mem ha ho
  have hnodup : (f.below p).Nodup := hf.ids_nodup.of_map.filter _
  have honly : (f.below p).filter (a.isWithin ·) = [o] := by
    rw [← List.perm_singleton,
      List.perm_ext_iff_of_nodup (hnodup.filter _) (List.nodup_singleton o)]
    intro b
    rw [List.mem_filter, List.mem_singleton, hf.mem_below hp]
    refine ⟨?_, ?_⟩
    · rintro ⟨⟨hb, hbelow⟩, hwithin⟩
      have hon : b ∈ a.lineage := (hf.isWithin_iff_mem ha hb).mp hwithin
      rcases Key.mem_lineage_total hon ho with habove | habove
      · exact hf.eq_of_parent?_eq hb (hbelow.trans hparent.symm) habove
      · exact (hf.eq_of_parent?_eq hfound (hparent.trans hbelow.symm) habove).symm
    · rintro rfl
      exact ⟨⟨hfound, hparent⟩, Key.isWithin_of_mem_lineage ho⟩
  rw [List.countP_eq_length_filter, honly, List.length_singleton]

theorem countP_roots (hf : f.Grown) (ha : a ∈ f.keys) : f.roots.countP (a.isWithin ·) = 1 := by
  obtain ⟨o, ho, hparent⟩ := a.exists_root
  exact hf.countP_below (by simp) ha ho hparent

/-- A key that is within another one is that key itself, or it is within one of its children. -/
theorem countP_children (hf : f.Grown) (ha : a ∈ f.keys) (hk : k ∈ f.keys) :
    (if a.isSame k then 1 else 0) + (f.children k).countP (a.isWithin ·) =
      if a.isWithin k then 1 else 0 := by
  have hnone (h : ∀ o ∈ f.keys, o.parent? = some k → a.isWithin o = false) :
      (f.children k).countP (a.isWithin ·) = 0 := by
    rw [List.countP_eq_zero]
    intro o ho
    obtain ⟨ho, hparent⟩ := (hf.mem_children hk).mp ho
    exact Bool.eq_false_iff.mp (h o ho hparent)
  by_cases hwithin : a.isWithin k = true
  · rw [if_pos hwithin]
    rcases List.mem_cons.mp ((hf.isWithin_iff_mem ha hk).mp hwithin) with rfl | habove
    · -- all children lie below the key, so it is within none of them
      have hself : k.isSame k = true := beq_self_eq_true k.id
      rw [if_pos hself, hnone fun o ho hparent =>
        hf.not_isWithin_of_mem_ancestors ho (Key.mem_ancestors_of_parent? hparent)]
    · -- one child is on the line up to the key, and no other child is
      have hother : ¬ a.isSame k = true := by
        intro hsame
        have holder := hf.ancestors_older a ha k habove
        rw [beq_iff_eq.mp hsame] at holder
        exact absurd holder (Nat.lt_irrefl _)
      obtain ⟨o, ho, hparent⟩ := Key.exists_below_of_mem_ancestors habove
      rw [if_neg hother, Nat.zero_add]
      exact hf.countP_below (by simpa using hk) ha ho hparent
  · have hother : ¬ a.isSame k = true := fun hsame =>
      hwithin (List.any_eq_true.mpr ⟨a, a.self_mem_lineage, hsame⟩)
    rw [if_neg hwithin, if_neg hother, Nat.zero_add]
    refine hnone fun o ho hparent => Bool.eq_false_iff.mpr fun hbelow => hwithin ?_
    have habove : k ∈ o.lineage := List.mem_cons_of_mem o (Key.mem_ancestors_of_parent? hparent)
    exact hf.isWithin_trans ha ho hbelow (Key.isWithin_of_mem_lineage habove)

end Grown

end Forest

/-! ## Lists along the forest -/

/-- The ticket and the descriptor of a posting. In all lists that a registration reached they are
the same. -/
def Posting.mark (p : Posting τ α) : Nat × Shared α := (p.ticket, p.handle.info)

/-- The mark of all postings of a registration. -/
def Entry.mark (e : Entry τ α) : Nat × Shared α := (e.ticket, e.made.info)

namespace Catalog

/-- What is posted under a key, oldest first. -/
def marks (c : Catalog τ α) (k : Key τ) : List (Nat × Shared α) :=
  (c.bucket k.id).map Posting.mark

/-- All that is posted, oldest first. -/
def allMarks (c : Catalog τ α) : List (Nat × Shared α) := c.postings.map Posting.mark

/-- What is posted of the registrations under the key itself, where `made` are all that were ever
made, by their tickets. -/
def ownMarks (c : Catalog τ α) (made : List (Registration τ α)) (k : Key τ) :
    List (Nat × Shared α) :=
  (c.postings.filter fun p => made[p.ticket]?.any (·.home.isSame k)).map Posting.mark

/-- The lists of a catalog split along the forest, where `made` are all registrations that were
ever made, and `live` are those of them that were not removed. Each position of a key's list is
that of a registration under the key itself or stems from the list of one child, and each position
of the list of all registrations stems from the list of one root. -/
structure Splits [DecidableEq τ] (f : Forest τ) (c : Catalog τ α)
    (made : List (Registration τ α)) (live : Live τ α) : Prop where
  apart : (c.allMarks.map Prod.fst).Nodup
  shown : ∀ k ∈ f.keys, (c.under k).map Handle.info = (c.marks k).map Prod.snd
  own : ∀ k, (c.ownMarks made k).map Prod.snd =
    (live.filter (·.home.isSame k)).map Registration.info
  under : ∀ k ∈ f.keys,
    Interleaving (c.ownMarks made k :: (f.children k).map c.marks) (c.marks k)
  child : ∀ k ∈ f.keys, ∀ o ∈ f.children k,
    ((c.under o).map Handle.info).Sublist ((c.under k).map Handle.info)
  multiplicity : ∀ k ∈ f.keys, ∀ d : Shared α,
    (c.under k).countP (·.info.isSame d) =
      live.countP (fun r => r.info.isSame d && r.home.isSame k) +
        ((f.children k).map fun o => (c.under o).countP (·.info.isSame d)).sum
  elementsShown : c.elements.map Handle.info = c.allMarks.map Prod.snd
  elements : Interleaving (f.roots.map c.marks) c.allMarks
  size : c.size = (f.roots.map fun o => (c.under o).length).sum

variable [PayloadTypes τ] {f : Forest τ} {c : Catalog τ α} {l : Ledger τ α} {k : Key τ}
  {made : List (Registration τ α)}

namespace Reflects

theorem marks_eq (h : c.Reflects f l) (hk : k ∈ f.keys) :
    c.marks k = (l.filter (·.made.isUnder k)).map Entry.mark := by
  rw [marks, h.listed k hk, List.map_map]
  rfl

theorem allMarks_eq (h : c.Reflects f l) : c.allMarks = l.map Entry.mark := by
  rw [allMarks, h.all, List.map_map]
  rfl

theorem shown [DecidableEq τ] (h : c.Reflects f l) (hk : k ∈ f.keys) :
    (c.under k).map Handle.info = (c.marks k).map Prod.snd := by
  have hstands : c.StandsFor f (l.map Entry.made) := ⟨l, h, rfl⟩
  rw [hstands.handles hk, marks, List.map_map, List.map_map]
  rfl

/-- The list of all registrations is put together from the lists of the roots. -/
theorem elements_interleaving (hf : f.Grown) (h : c.Reflects f l) :
    Interleaving (f.roots.map c.marks) c.allMarks := by
  have hparts := Interleaving.of_tests (f.roots.map fun o (e : Entry τ α) => e.made.isUnder o)
    (fun _ => true) l fun e he => by
      rw [List.countP_map]
      exact hf.countP_roots (h.homes e he)
  rw [List.filter_true, List.map_map] at hparts
  have hmarks := hparts.map Entry.mark
  rw [List.map_map, ← h.allMarks_eq] at hmarks
  refine List.map_congr_left (fun o ho => ?_) ▸ hmarks
  exact (h.marks_eq (List.mem_of_mem_filter ho)).symm

end Reflects

namespace Issued

theorem ownMarks_eq (h : c.Issued f made l) (k : Key τ) :
    c.ownMarks made k = (l.filter (·.made.home.isSame k)).map Entry.mark := by
  have hown : l.filter ((fun p : Posting τ α => made[p.ticket]?.any (·.home.isSame k)) ∘
      Entry.element) = l.filter (·.made.home.isSame k) := by
    refine List.filter_congr fun e he => ?_
    simp [Entry.element, h.given e he]
  rw [ownMarks, h.reflects.all, List.filter_map, List.map_map, hown]
  rfl

/-- The list of a key is put together from what was registered under the key itself and from the
lists of its children. -/
theorem under_interleaving (hf : f.Grown) (h : c.Issued f made l) (hk : k ∈ f.keys) :
    Interleaving (c.ownMarks made k :: (f.children k).map c.marks) (c.marks k) := by
  have hparts := Interleaving.of_tests
    ((fun e : Entry τ α => e.made.home.isSame k) ::
      (f.children k).map fun o e => e.made.isUnder o)
    (·.made.isUnder k) l fun e he => by
      rw [List.countP_cons, List.countP_map, Nat.add_comm]
      exact hf.countP_children (h.reflects.homes e he) hk
  have hmarks := hparts.map Entry.mark
  rw [List.map_cons, List.map_cons, List.map_map, List.map_map, ← h.ownMarks_eq,
    ← h.reflects.marks_eq hk] at hmarks
  refine List.map_congr_left (fun o ho => ?_) ▸ hmarks
  exact (h.reflects.marks_eq (List.mem_of_mem_filter ho)).symm

theorem own (h : c.Issued f made l) (k : Key τ) :
    (c.ownMarks made k).map Prod.snd =
      ((l.map Entry.made).filter (·.home.isSame k)).map Registration.info := by
  rw [h.ownMarks_eq, List.filter_map, List.map_map, List.map_map]
  rfl

theorem shown_interleaving [DecidableEq τ] (hf : f.Grown) (h : c.Issued f made l)
    (hk : k ∈ f.keys) :
    Interleaving
      (((l.map Entry.made).filter (·.home.isSame k)).map Registration.info ::
        (f.children k).map fun o => (c.under o).map Handle.info)
      ((c.under k).map Handle.info) := by
  have hchildren : (f.children k).map (List.map Prod.snd ∘ c.marks) =
      (f.children k).map fun o => (c.under o).map Handle.info :=
    List.map_congr_left fun o ho => (h.reflects.shown (List.mem_of_mem_filter ho)).symm
  have hseen := (h.under_interleaving hf hk).map Prod.snd
  rwa [List.map_cons, List.map_map, h.own, hchildren, ← h.reflects.shown hk] at hseen

theorem splits [DecidableEq τ] (hf : f.Grown) (h : c.Issued f made l) :
    c.Splits f made (l.map Entry.made) where
  apart := by
    rw [h.reflects.allMarks_eq, List.map_map]
    exact h.reflects.tickets_nodup
  shown := fun k hk => h.reflects.shown hk
  own := h.own
  under := fun k hk => h.under_interleaving hf hk
  child := fun k hk o ho =>
    (h.shown_interleaving hf hk).sublist (List.mem_cons_of_mem _ (List.mem_map_of_mem ho))
  multiplicity := by
    intro k hk d
    have hcount := (h.shown_interleaving hf hk).countP_eq (·.isSame d)
    rw [List.countP_map, List.map_cons, List.sum_cons, List.countP_map, List.countP_filter,
      List.map_map] at hcount
    simpa only [Function.comp_def, List.countP_map] using hcount
  elementsShown := by
    rw [Catalog.elements, allMarks, List.map_map, List.map_map]
    rfl
  elements := h.reflects.elements_interleaving hf
  size := by
    have hroots : f.roots.map (List.length ∘ c.marks) = f.roots.map fun o => (c.under o).length :=
      List.map_congr_left fun o ho => by
        simpa using congrArg List.length (h.reflects.shown (List.mem_of_mem_filter ho)).symm
    have hlength := (h.reflects.elements_interleaving hf).length_eq
    rwa [List.map_map, hroots, allMarks, List.length_map] at hlength

end Issued

end Catalog

/-! ## A registry that is opened empty -/

namespace Registry

variable [DecidableEq τ] [PayloadTypes τ] {f : Forest τ}

/-- After any run of requests to a registry that is opened empty, its lists split along the forest,
so those of a catalog that is pinned at that moment do for good. The storage comes into no other
state: what any run does to it, through registries that it is a part of, is what requests of its
own do. -/
theorem openPlain_run_splits (hf : f.Grown) (h : Holdings τ α) (label : String) :
    let opened := openPlain h label
    let left (qs : List (Request τ α)) := opened.2.2.after (qs.map (Step.ask opened.2.1))
    (∀ qs : List (Request τ α), (∀ q ∈ qs, q.key ∈ f.keys) →
      ((left qs).catalog opened.1).Splits f (Request.registrations qs) (Live.ofRequests qs)) ∧
    ∀ steps : List (Step τ α), (∀ t ∈ steps, t.Within f) →
      ∃ qs : List (Request τ α), (∀ q ∈ qs, q.key ∈ f.keys) ∧
        (opened.2.2.after steps).catalog opened.1 = (left qs).catalog opened.1 := by
  intro opened left
  refine ⟨?_, ?_⟩
  · intro qs hqs
    obtain ⟨_, l, hend, hlive⟩ := run_plain_issued hf qs hqs (openPlain_issued h label)
    have hsplits := hend.splits hf
    rwa [hlive, List.nil_append] at hsplits
  · intro steps hsteps
    have hopen : opened.1.id < opened.2.2.storages := Nat.lt_succ_self _
    obtain ⟨_, qs, hqs, hserved⟩ := Holdings.after_serves hsteps hopen
    exact ⟨qs, hqs, hserved.symm.trans (Holdings.after_ask_plain opened.2.2 opened.1 qs).symm⟩

/-- Registrations under the statements, under both keys below them and under another root. The
removal through the statements takes an effect. -/
theorem openPlain_run_splits_base :
    let opened := openPlain (τ := Payload) (α := String) .empty "base"
    let a : Shared String := ⟨0, "a"⟩
    let b : Shared String := ⟨1, "b"⟩
    let qs : List (Request Payload String) :=
      [⟨.register, BaseKeys.statements, a⟩, ⟨.register, BaseKeys.conditions, a⟩,
        ⟨.register, BaseKeys.sections, b⟩, ⟨.register, BaseKeys.statements, b⟩,
        ⟨.register, BaseKeys.effects, b⟩, ⟨.register, BaseKeys.effects, a⟩,
        ⟨.unregister, BaseKeys.statements, a⟩]
    let c := (opened.2.2.after (qs.map (Step.ask opened.2.1))).catalog opened.1
    let refusing := child opened.2.1 (view opened.2.1)
    let steps := [Step.ask refusing ⟨.register, BaseKeys.effects, a⟩]
    BaseKeys.forest.Grown ∧ (∀ q ∈ qs, q.key ∈ BaseKeys.forest.keys) ∧
      (∀ t ∈ steps, t.Within BaseKeys.forest) ∧
      c.Splits BaseKeys.forest (Request.registrations qs) (Live.ofRequests qs) ∧
      (c.ownMarks (Request.registrations qs) BaseKeys.statements).map Prod.fst = [0, 3] ∧
      (BaseKeys.forest.children BaseKeys.statements).map
        (fun o => (c.marks o).map Prod.fst) = [[4], [1]] ∧
      (c.marks BaseKeys.statements).map Prod.fst = [0, 1, 3, 4] ∧
      c.allMarks.map Prod.fst = [0, 1, 2, 3, 4] ∧
      ∃ rs : List (Request Payload String), (∀ q ∈ rs, q.key ∈ BaseKeys.forest.keys) ∧
        (opened.2.2.after steps).catalog opened.1 =
          (opened.2.2.after (rs.map (Step.ask opened.2.1))).catalog opened.1 := by
  intro opened a b qs c refusing steps
  have hkeys : ∀ q ∈ qs, q.key ∈ BaseKeys.forest.keys := by simp [qs, BaseKeys.forest]
  have hsteps : ∀ t ∈ steps, t.Within BaseKeys.forest := by
    simp [steps, Step.Within, BaseKeys.forest]
  obtain ⟨hsplits, hany⟩ :=
    openPlain_run_splits (α := String) BaseKeys.forest_grown .empty "base"
  exact ⟨BaseKeys.forest_grown, hkeys, hsteps, hsplits qs hkeys, by decide, by decide, by decide,
    by decide, hany steps hsteps⟩

end Registry

end GrammarRegistry
