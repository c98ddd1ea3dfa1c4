-- The journal of a plain registry: all that it reports, from the moment it is opened empty. The
-- journal tells the whole story. Registrations are reported in order under the tickets 0, 1, 2 and
-- so on, a removal is reported in the words of the registration that it undoes, and what was given
-- and not taken back since is what the registry lists.
import GrammarRegistry.Proofs.Registry.Ticketing

namespace GrammarRegistry

variable {τ α : Type}

/-! ## What a journal tells -/

namespace Event

/-- The ticket and the number of buckets of a registration that was made. -/
def given? : Event → Option Receipt
  | registered _ _ ticket buckets => some ⟨ticket, buckets⟩
  | _ => none

/-- The ticket and the number of buckets of a registration that was removed. -/
def taken? : Event → Option Receipt
  | unregistered _ _ ticket buckets => some ⟨ticket, buckets⟩
  | _ => none

/-- The event is a plain registry's report on the request. -/
def Answers (label : String) (q : Request τ α) (e : Event) : Prop :=
  match q.op with
  | .register => ∃ ticket buckets, e = registered label q.key.name ticket buckets
  | .unregister =>
    (∃ ticket buckets, e = unregistered label q.key.name ticket buckets) ∨
      e = absentIgnored label q.key.name

end Event

/-- Events, oldest first. -/
abbrev Journal := List Event

/-- All that some outcomes report. -/
def Outcome.journal (os : List (Outcome τ α)) : Journal := os.flatMap (·.events)

namespace Journal

def given (j : Journal) : List Receipt := j.filterMap Event.given?

def taken (j : Journal) : List Receipt := j.filterMap Event.taken?

/-- The tickets that were given and not taken back, in the order in which they were given. -/
def standing (j : Journal) : List Nat :=
  ((given j).map Receipt.ticket).filter fun t => !((taken j).map Receipt.ticket).contains t

/-- What is taken was given before, with the same number of buckets, and was not taken before. -/
def Orderly (j : Journal) : Prop :=
  ∀ before e after, j = before ++ e :: after → ∀ r, e.taken? = some r →
    r ∈ given before ∧ r.ticket ∉ (taken before).map Receipt.ticket

theorem given_concat (j : Journal) (e : Event) : given (j ++ [e]) = given j ++ e.given?.toList := by
  rw [given, List.filterMap_append, ← given]
  cases h : e.given? <;> simp [h]

theorem taken_concat (j : Journal) (e : Event) : taken (j ++ [e]) = taken j ++ e.taken?.toList := by
  rw [taken, List.filterMap_append, ← taken]
  cases h : e.taken? <;> simp [h]

section Standing

variable {j : Journal} {registry key : String} {ticket buckets : Nat}

theorem standing_concat_registered (hfree : ticket ∉ (taken j).map Receipt.ticket) :
    standing (j ++ [.registered registry key ticket buckets]) = standing j ++ [ticket] := by
  rw [standing, given_concat, taken_concat]
  simp only [Event.given?, Event.taken?, Option.toList, List.append_nil, List.map_append,
    List.map_cons, List.map_nil, List.filter_append]
  congr 1
  simpa using hfree

theorem standing_concat_unregistered :
    standing (j ++ [.unregistered registry key ticket buckets]) =
      (standing j).filter (· != ticket) := by
  rw [standing, standing, List.filter_filter, given_concat, taken_concat]
  simp only [Event.given?, Event.taken?, Option.toList, List.append_nil, List.map_append]
  apply List.filter_congr
  intro t _
  by_cases ht : t = ticket <;> simp [ht]

theorem standing_concat_absentIgnored :
    standing (j ++ [.absentIgnored registry key]) = standing j := by
  simp [standing, given_concat, taken_concat, Event.given?, Event.taken?]

end Standing

theorem orderly_nil : Orderly [] := by
  intro before e after h
  simp at h

theorem Orderly.concat {j : Journal} {e : Event} (hj : j.Orderly)
    (he : ∀ r, e.taken? = some r → r ∈ given j ∧ r.ticket ∉ (taken j).map Receipt.ticket) :
    Orderly (j ++ [e]) := by
  intro before x after h
  rcases List.eq_nil_or_concat after with rfl | ⟨rest, y, rfl⟩
  · obtain ⟨rfl, hlast⟩ := List.append_inj' h rfl
    obtain rfl : e = x := by simpa using hlast
    exact he
  · have hsplit : j ++ [e] = (before ++ x :: rest) ++ [y] := by simpa using h
    exact hj before x rest (List.append_inj' hsplit rfl).1

theorem Orderly.taken_subset {j : Journal} (hj : j.Orderly) : taken j ⊆ given j := by
  intro r hr
  obtain ⟨e, he, htaken⟩ := List.mem_filterMap.mp hr
  obtain ⟨before, after, rfl⟩ := List.append_of_mem he
  have hbefore := (hj before e after rfl r htaken).1
  rw [given, List.filterMap_append]
  exact List.mem_append_left _ hbefore

end Journal

/-! ## A journal kept beside a ledger -/

namespace Catalog

variable [PayloadTypes τ] {f : Forest τ} {c c' : Catalog τ α} {made : List (Registration τ α)}
  {l l' : Ledger τ α} {j : Journal}

/-- The journal tells what the ledger says: all registrations that were made, with the length of
their homes' lines, and the tickets of those that are left. -/
structure Chronicled (f : Forest τ) (c : Catalog τ α) (made : List (Registration τ α))
    (l : Ledger τ α) (j : Journal) : Prop where
  issued : c.Issued f made l
  given : j.given = made.mapIdx fun i r => ⟨i, r.home.lineage.length⟩
  standing : j.standing = l.map Entry.ticket
  orderly : j.Orderly

namespace Chronicled

theorem empty : (Catalog.empty : Catalog τ α).Chronicled f [] [] [] :=
  ⟨Issued.empty, rfl, rfl, Journal.orderly_nil⟩

theorem next_notMem_taken (h : c.Chronicled f made l j) :
    made.length ∉ j.taken.map Receipt.ticket := by
  intro hmem
  obtain ⟨r, hr, hticket⟩ := List.mem_map.mp hmem
  have hgiven := h.orderly.taken_subset hr
  rw [h.given] at hgiven
  obtain ⟨i, hi, rfl⟩ := List.mem_mapIdx.mp hgiven
  exact Nat.ne_of_lt hi hticket

/-- A live entry was given as the journal tells it, and was not taken. -/
theorem receipt_mem_given (h : c.Chronicled f made l j) {e : Entry τ α} (he : e ∈ l) :
    (⟨e.ticket, e.made.home.lineage.length⟩ : Receipt) ∈ j.given ∧
      e.ticket ∉ j.taken.map Receipt.ticket := by
  obtain ⟨hlt, hmade⟩ := List.getElem?_eq_some_iff.mp (h.issued.given e he)
  refine ⟨?_, ?_⟩
  · rw [h.given, List.mem_mapIdx]
    exact ⟨e.ticket, hlt, by rw [hmade]⟩
  · have hmem : e.ticket ∈ j.standing := by
      rw [h.standing]
      exact List.mem_map_of_mem he
    have hleft := (List.mem_filter.mp hmem).2
    simpa using hleft

/-- The report on a request carries the journal over to what the request makes of the ledger. -/
theorem moves (h : c.Chronicled f made l j) {label : String} {q : Request τ α} {e : Event}
    (hmoves : l.Moves label made.length q l' e)
    (hissued : c'.Issued f (made ++ q.registration?.toList) l') :
    c'.Chronicled f (made ++ q.registration?.toList) l' (j ++ [e]) := by
  have hgiven : (j ++ [e]).given = j.given ++ e.given?.toList := j.given_concat e
  rw [h.given] at hgiven
  cases hmoves with
  | registered k d =>
    refine ⟨hissued, ?_, ?_, h.orderly.concat (by simp [Event.taken?])⟩
    · rw [hgiven]
      simp [Event.given?, Request.registration?, List.mapIdx_concat]
    · rw [Journal.standing_concat_registered h.next_notMem_taken, h.standing]
      simp
  | @unregistered k d x hx =>
    refine ⟨hissued, ?_, ?_, h.orderly.concat ?_⟩
    · rw [hgiven]
      simp [Event.given?, Request.registration?]
    · rw [Journal.standing_concat_unregistered, h.standing, List.filter_map]
      rfl
    · intro r hr
      cases hr
      exact h.receipt_mem_given hx
  | absent k d =>
    refine ⟨hissued, ?_, ?_, h.orderly.concat (by simp [Event.taken?])⟩
    · rw [hgiven]
      simp [Event.given?, Request.registration?]
    · rw [Journal.standing_concat_absentIgnored, h.standing]

/-- The tickets that the journal leaves standing grow with time, and what was registered under
them is what the catalog lists. -/
theorem elements_standing (h : c.Chronicled f made l j) :
    j.standing.Pairwise (· < ·) ∧
      c.elements.map some = j.standing.map fun t =>
        made[t]?.map fun r => ⟨PayloadTypes.element, r.info⟩ := by
  rw [h.standing]
  refine ⟨List.pairwise_map.mpr h.issued.reflects.ascending, ?_⟩
  rw [Catalog.elements, h.issued.reflects.all, List.map_map, List.map_map, List.map_map]
  apply List.map_congr_left
  intro e he
  simp [h.issued.given e he, Entry.element]

end Chronicled

end Catalog

/-! ## Runs -/

theorem Ledger.Moves.answers {label : String} {next : Nat} {l l' : Ledger τ α} {q : Request τ α}
    {e : Event} (h : l.Moves label next q l' e) : e.Answers label q := by
  cases h with
  | registered k d => exact ⟨_, _, rfl⟩
  | unregistered k d he => exact Or.inl ⟨_, _, rfl⟩
  | absent k d => exact Or.inr rfl

variable [DecidableEq τ] [PayloadTypes τ] {f : Forest τ} {h : Holdings τ α} {s : Storage}

namespace Registry

/-- A run of requests to a plain registry goes on with the journal. -/
theorem run_plain_chronicled (hf : f.Grown) {made : List (Registration τ α)} {l : Ledger τ α}
    {j : Journal} (qs : List (Request τ α)) (hqs : ∀ q ∈ qs, q.key ∈ f.keys)
    (hs : (h.catalog s).Chronicled f made l j) :
    let steps := qs.map (Step.ask (.plain s))
    ∃ l', ((h.after steps).catalog s).Chronicled f (made ++ Request.registrations qs) l'
      (j ++ Outcome.journal (h.outcomes steps)) := by
  -- each request adds to the end of what is known so far, so all of that is free in the induction
  induction qs generalizing h made l j with
  | nil =>
    refine ⟨l, ?_⟩
    rw [Request.registrations, List.filterMap_nil, List.append_nil, List.map_nil,
      Holdings.outcomes, Outcome.journal, List.flatMap_nil, List.append_nil]
    exact hs
  | cons q rest ih =>
    obtain ⟨l₁, e, _, hevents, hmoves, hissued, _⟩ :=
      Step.ask_plain_moves hf hs.issued (hqs q (by simp))
    obtain ⟨l₂, hend⟩ := ih (fun t ht => hqs t (by simp [ht])) (hs.moves hmoves hissued)
    refine ⟨l₂, ?_⟩
    rw [Request.registrations_cons, ← List.append_assoc, List.map_cons, Holdings.outcomes,
      Outcome.journal, List.flatMap_cons, hevents, ← List.append_assoc]
    exact hend

/-- The journal of a registry that is opened empty. The registrations are reported under the
tickets 0, 1, 2 and so on, each with the number of keys on its line. A removal is reported with a
ticket that was given and not taken back before, and with the number of buckets that it was given
with, whatever key the removal went through. Every request is answered with one event of its own,
which says that there was nothing to remove exactly if nothing changed. After each prefix of the
run, the registry lists the descriptors of the tickets that the journal so far leaves standing. -/
theorem openPlain_run_journal (hf : f.Grown) (h : Holdings τ α) (label : String)
    (qs : List (Request τ α)) (hqs : ∀ q ∈ qs, q.key ∈ f.keys) :
    let opened := openPlain h label
    let asked (rs : List (Request τ α)) := rs.map (Step.ask opened.2.1)
    let left (rs : List (Request τ α)) := opened.2.2.after (asked rs)
    let journal (rs : List (Request τ α)) := Outcome.journal (opened.2.2.outcomes (asked rs))
    (journal qs).given = (Request.registrations qs).mapIdx (fun i r =>
        ⟨i, 1 + r.home.ancestors.length⟩) ∧
    (journal qs).Orderly ∧
    (∀ made q rest, qs = made ++ q :: rest →
      let o := (Step.ask opened.2.1 q).run (left made)
      ∃ e, o.result = .ok () ∧ o.events = [e] ∧ e.Answers label q ∧
        (e = .absentIgnored label q.key.name ↔ o.holdings = left made)) ∧
    ∀ made, made <+: qs →
      (journal made).standing.Pairwise (· < ·) ∧
        (opened.2.1.elements (left made)).map some = (journal made).standing.map fun t =>
          (Request.registrations made)[t]?.map fun r => ⟨PayloadTypes.element, r.info⟩ := by
  intro opened asked left journal
  have hkept : ∀ rs, (∀ q ∈ rs, q.key ∈ f.keys) → ∃ l,
      ((left rs).catalog opened.1).Chronicled f (Request.registrations rs) l (journal rs) := by
    intro rs hrs
    have hempty : (opened.2.2.catalog opened.1).Chronicled f [] [] [] := by
      rw [catalog_openPlain]
      exact Catalog.Chronicled.empty
    exact run_plain_chronicled hf rs hrs hempty
  obtain ⟨l, hl⟩ := hkept qs hqs
  refine ⟨?_, hl.orderly, ?_, ?_⟩
  · rw [hl.given]
    congr 1
    funext i r
    rw [Key.lineage, List.length_cons, Nat.add_comm]
  · rintro made q rest rfl
    obtain ⟨l₁, hl₁⟩ := hkept made fun t ht => hqs t (by simp [ht])
    obtain ⟨_, e, hok, hevents, hmoves, _, _, hsame⟩ :=
      Step.ask_plain_moves hf hl₁.issued (hqs q (by simp))
    exact ⟨e, hok, hevents, hmoves.answers, hsame⟩
  · intro made hmade
    obtain ⟨l₁, hl₁⟩ := hkept made fun q hq => hqs q (hmade.subset hq)
    exact hl₁.elements_standing

/-- Two tickets of one descriptor. The removal through the statements takes the newer one, which
was given for an effect, and is reported with the effect's two buckets. A second descriptor is not
there to be removed. -/
theorem openPlain_run_journal_base :
    let opened := openPlain (τ := Payload) (α := String) .empty "base"
    let a : Shared String := ⟨0, "a"⟩
    let qs : List (Request Payload String) :=
      [⟨.register, BaseKeys.statements, a⟩, ⟨.register, BaseKeys.effects, a⟩,
        ⟨.unregister, BaseKeys.statements, a⟩, ⟨.unregister, BaseKeys.effects, ⟨1, "b"⟩⟩]
    let steps := qs.map (Step.ask opened.2.1)
    let journal := Outcome.journal (opened.2.2.outcomes steps)
    BaseKeys.forest.Grown ∧ (∀ q ∈ qs, q.key ∈ BaseKeys.forest.keys) ∧
      journal = [.registered "base" "statement" 0 1, .registered "base" "effect" 1 2,
        .unregistered "base" "statement" 1 2, .absentIgnored "base" "effect"] ∧
      journal.given = [⟨0, 1⟩, ⟨1, 2⟩] ∧ journal.Orderly ∧ journal.standing = [0] ∧
      (opened.2.1.elements (opened.2.2.after steps)).map some =
        [some ⟨PayloadTypes.element, a⟩] := by
  intro opened a qs steps journal
  have hkeys : ∀ q ∈ qs, q.key ∈ BaseKeys.forest.keys := by simp [qs, BaseKeys.forest]
  have hstanding : journal.standing = [0] := by decide
  obtain ⟨hgiven, horderly, _, hlisted⟩ :=
    openPlain_run_journal BaseKeys.forest_grown .empty "base" qs hkeys
  have hleft := (hlisted qs (List.prefix_refl _)).2
  refine ⟨BaseKeys.forest_grown, hkeys, by decide, hgiven.trans (by decide), horderly,
    hstanding, hleft.trans ?_⟩
  change journal.standing.map _ = _
  rw [hstanding]
  rfl

end Registry

end GrammarRegistry
