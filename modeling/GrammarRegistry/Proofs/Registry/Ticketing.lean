-- The tickets of a plain registry through any run. Its registrations are numbered in the order in
-- which they are made, and at every moment its catalog is in good order. Where the registry is a
-- part of others, all that they do to it, their roll-backs included, comes to requests of its own.
import GrammarRegistry.Proofs.Catalog.Tickets
import GrammarRegistry.Proofs.Registry.Effects

namespace GrammarRegistry

variable {τ α : Type}

/-! ## Tickets that are given -/

/-- The registration that is asked for, unless the request is a removal. -/
def Request.registration? (q : Request τ α) : Option (Registration τ α) :=
  match q.op with
  | .register => some ⟨q.key, q.info⟩
  | .unregister => none

/-- The registrations that are asked for, in order. -/
def Request.registrations (qs : List (Request τ α)) : List (Registration τ α) :=
  qs.filterMap Request.registration?

/-- The ticket that an event reports as given. -/
def Event.ticketGiven? : Event → Option Nat
  | .registered _ _ ticket _ => some ticket
  | _ => none

/-- The tickets that outcomes report as given, in order. -/
def Outcome.ticketsGiven (os : List (Outcome τ α)) : List Nat :=
  os.flatMap fun o => o.events.filterMap Event.ticketGiven?

theorem Request.registrations_cons (q : Request τ α) (qs : List (Request τ α)) :
    registrations (q :: qs) = q.registration?.toList ++ registrations qs := by
  rw [registrations, List.filterMap_cons]
  cases q.registration? <;> rfl

theorem Outcome.ticketsGiven_cons (o : Outcome τ α) (os : List (Outcome τ α)) :
    ticketsGiven (o :: os) = o.events.filterMap Event.ticketGiven? ++ ticketsGiven os := rfl

/-! ## One request -/

/-- What becomes of the ledger of a plain registry when a request comes in, and what is reported,
where `next` is the next ticket. -/
inductive Ledger.Moves (label : String) (next : Nat) (l : Ledger τ α) :
    Request τ α → Ledger τ α → Event → Prop
  | registered (k : Key τ) (d : Shared α) :
      Moves label next l ⟨.register, k, d⟩ (l ++ [⟨next, ⟨k, d⟩⟩])
        (.registered label k.name next k.lineage.length)
  | unregistered (k : Key τ) (d : Shared α) {e : Entry τ α} (he : e ∈ l) :
      Moves label next l ⟨.unregister, k, d⟩ (l.filter (·.ticket != e.ticket))
        (.unregistered label k.name e.ticket e.made.home.lineage.length)
  | absent (k : Key τ) (d : Shared α) :
      Moves label next l ⟨.unregister, k, d⟩ l (.absentIgnored label k.name)

variable [DecidableEq τ] [PayloadTypes τ] {f : Forest τ} {h : Holdings τ α} {s : Storage}

/-- A plain registry takes a request with one report. It reports that there is nothing to remove
exactly if it is left as it was. -/
theorem Step.ask_plain_moves (hf : f.Grown) {made : List (Registration τ α)} {l : Ledger τ α}
    (hs : (h.catalog s).Issued f made l) {q : Request τ α} (hq : q.key ∈ f.keys) :
    let o := (ask (.plain s) q).run h
    ∃ l' e, o.result = .ok () ∧ o.events = [e] ∧ l.Moves s.label made.length q l' e ∧
      (o.holdings.catalog s).Issued f (made ++ q.registration?.toList) l' ∧
      l'.map Entry.made = Live.apply (l.map Entry.made) q ∧
      (e = .absentIgnored s.label q.key.name ↔ o.holdings = h) := by
  obtain ⟨op, k, d⟩ := q
  cases op with
  | register =>
    obtain ⟨c, hc, hissued⟩ := hs.register hf hq d
    have hrun : (ask (.plain s) ⟨.register, k, d⟩).run h = ⟨h.setCatalog s c, .ok (),
        [.registered s.label k.name made.length k.lineage.length]⟩ := by
      rw [run, Registry.change, Storage.register, hc]
    have hchanged : h.setCatalog s c ≠ h := by
      refine Holdings.setCatalog_ne fun hsame => ?_
      have hnext := hissued.counted
      rw [← hsame, hs.counted, List.length_append, List.length_singleton] at hnext
      omega
    rw [hrun]
    refine ⟨_, _, rfl, rfl, .registered k d, ?_, List.map_append, by simp [hchanged]⟩
    rw [Holdings.catalog_setCatalog_self]
    exact hissued
  | unregister =>
    rcases hs.unregister hf hq d with ⟨hc, hlive⟩ | ⟨c, e, he, hc, hissued, hlive⟩
    · have hrun : (ask (.plain s) ⟨.unregister, k, d⟩).run h =
          ⟨h, .ok (), [.absentIgnored s.label k.name]⟩ := by
        rw [run, Registry.change, Storage.unregister, hc]
      rw [hrun]
      refine ⟨l, _, rfl, rfl, .absent k d, ?_, hlive.symm, by simp⟩
      simpa [Request.registration?] using hs
    · have hrun : (ask (.plain s) ⟨.unregister, k, d⟩).run h = ⟨h.setCatalog s c, .ok (),
          [.unregistered s.label k.name e.ticket e.made.home.lineage.length]⟩ := by
        rw [run, Registry.change, Storage.unregister, hc]
      have hchanged : h.setCatalog s c ≠ h := by
        refine Holdings.setCatalog_ne fun hsame => ?_
        have hmem : e.element ∈ c.postings := by
          rw [← hsame, hs.reflects.all]
          exact List.mem_map_of_mem he
        rw [hissued.reflects.all] at hmem
        obtain ⟨x, hx, hticket⟩ := List.mem_map.mp hmem
        have hother : (x.ticket != e.ticket) = true := (List.mem_filter.mp hx).2
        exact bne_iff_ne.mp hother (congrArg Posting.ticket hticket)
      rw [hrun]
      refine ⟨_, _, rfl, rfl, .unregistered k d he, ?_, hlive, by simp [hchanged]⟩
      rw [Holdings.catalog_setCatalog_self]
      simpa [Request.registration?] using hissued

theorem Step.ask_plain_issued (hf : f.Grown) {made : List (Registration τ α)} {l : Ledger τ α}
    (hs : (h.catalog s).Issued f made l) {q : Request τ α} (hq : q.key ∈ f.keys) :
    let o := (ask (.plain s) q).run h
    o.events.filterMap Event.ticketGiven? = q.registration?.toList.map (fun _ => made.length) ∧
      ∃ l', (o.holdings.catalog s).Issued f (made ++ q.registration?.toList) l' ∧
        l'.map Entry.made = Live.apply (l.map Entry.made) q := by
  intro o
  obtain ⟨l', e, _, hevents, hmoves, hissued, hlive, _⟩ := ask_plain_moves hf hs hq
  refine ⟨?_, l', hissued, hlive⟩
  rw [hevents]
  cases hmoves <;> rfl

/-- A run of requests to a plain registry numbers its registrations on from those made before. -/
theorem Registry.run_plain_issued (hf : f.Grown) {made : List (Registration τ α)}
    {l : Ledger τ α} (qs : List (Request τ α)) (hqs : ∀ q ∈ qs, q.key ∈ f.keys)
    (hs : (h.catalog s).Issued f made l) :
    let steps := qs.map (Step.ask (.plain s))
    Outcome.ticketsGiven (h.outcomes steps) =
        List.range' made.length (Request.registrations qs).length ∧
      ∃ l', ((h.after steps).catalog s).Issued f (made ++ Request.registrations qs) l' ∧
        l'.map Entry.made = qs.foldl Live.apply (l.map Entry.made) := by
  induction qs generalizing h made l with
  | nil =>
    refine ⟨rfl, l, ?_, rfl⟩
    rw [Request.registrations, List.filterMap_nil, List.append_nil]
    exact hs
  | cons q rest ih =>
    obtain ⟨hgiven, l₁, hnext, hlive⟩ := Step.ask_plain_issued hf hs (hqs q (by simp))
    obtain ⟨hrest, l₂, hend, hlast⟩ := ih (fun t ht => hqs t (by simp [ht])) hnext
    refine ⟨?_, l₂, ?_, ?_⟩
    · rw [Request.registrations_cons, List.map_cons, Holdings.outcomes, Outcome.ticketsGiven_cons,
        hrest, hgiven]
      cases q.registration? with
      | none => simp
      | some r => simp [List.range'_succ]
    · rw [Request.registrations_cons, ← List.append_assoc]
      exact hend
    · rw [hlast, hlive]
      rfl

/-! ## All that is done to a storage -/

namespace Catalog

/-- What a request makes of a catalog. -/
def serve (c : Catalog τ α) (q : Request τ α) : Catalog τ α :=
  match q.op with
  | .register =>
    match c.register q.key q.info with
    | .ok (c', _) => c'
    | .error _ => c
  | .unregister =>
    match c.unregister? q.key q.info with
    | some (c', _) => c'
    | none => c

/-- Some requests for keys of the forest make the one catalog into the other. -/
def Serves (f : Forest τ) (c c' : Catalog τ α) : Prop :=
  ∃ qs : List (Request τ α), (∀ q ∈ qs, q.key ∈ f.keys) ∧ qs.foldl serve c = c'

namespace Serves

variable {c c' c'' : Catalog τ α}

theorem refl (f : Forest τ) (c : Catalog τ α) : c.Serves f c := ⟨[], by simp, rfl⟩

theorem single {q : Request τ α} (hq : q.key ∈ f.keys) : c.Serves f (c.serve q) :=
  ⟨[q], by simpa using hq, rfl⟩

theorem trans (h : c.Serves f c') (h' : c'.Serves f c'') : c.Serves f c'' := by
  obtain ⟨qs, hqs, rfl⟩ := h
  obtain ⟨rs, hrs, rfl⟩ := h'
  refine ⟨qs ++ rs, ?_, List.foldl_append⟩
  intro q hq
  rcases List.mem_append.mp hq with hq | hq
  · exact hqs q hq
  · exact hrs q hq

end Serves

end Catalog

/-- A request to a plain registry is served by the catalog of its storage, and by no other. -/
theorem Step.ask_plain_catalogs (t : Storage) (q : Request τ α) (h : Holdings τ α) (i : Nat) :
    ((ask (.plain t) q).run h).holdings.catalogs i =
      if i = t.id then (h.catalogs i).serve q else h.catalogs i := by
  obtain ⟨op, k, d⟩ := q
  by_cases hi : i = t.id
  · subst hi
    cases op with
    | register =>
      simp only [run, Registry.change, Storage.register, Catalog.serve, Holdings.catalog, if_pos]
      cases (h.catalogs t.id).register k d <;> simp [Holdings.setCatalog]
    | unregister =>
      simp only [run, Registry.change, Storage.unregister, Catalog.serve, Holdings.catalog, if_pos]
      cases (h.catalogs t.id).unregister? k d <;> simp [Holdings.setCatalog]
  · have hkept : h.AgreeOutside [t] ((ask (.plain t) ⟨op, k, d⟩).run h).holdings :=
      Registry.confined_change k d op (.plain t) h
    rw [if_neg hi]
    exact hkept.catalogs i (by simpa using Ne.symm hi)

theorem Holdings.after_ask_plain (h : Holdings τ α) (s : Storage) (qs : List (Request τ α)) :
    (h.after (qs.map (Step.ask (.plain s)))).catalog s = qs.foldl Catalog.serve (h.catalog s) := by
  induction qs generalizing h with
  | nil => rfl
  | cons q rest ih =>
    have hserved : ((Step.ask (.plain s) q).run h).holdings.catalog s = (h.catalog s).serve q := by
      rw [catalog, Step.ask_plain_catalogs, if_pos rfl]
      rfl
    rw [List.foldl_cons, ← hserved]
    exact ih _

/-- Whatever the registry is made of, a change of it comes to requests at each storage. -/
theorem Registry.serves_change {k : Key τ} (hk : k ∈ f.keys) (d : Shared α) (i : Nat)
    (op : Mutation) (r : Registry) :
    (change k d op r).Relates fun h h' => (h.catalogs i).Serves f (h'.catalogs i) := by
  refine relates_change (fun h => .refl f _) (fun _ _ _ => .trans) op ?_
  intro s _ op h
  have hserved := Step.ask_plain_catalogs s ⟨op, k, d⟩ h i
  rw [Step.run] at hserved
  rw [hserved]
  split
  · exact Catalog.Serves.single hk
  · exact Catalog.Serves.refl f _

/-- A storage that is open stays open, and all that a step does to its catalog comes to requests. -/
theorem Step.serves {t : Step τ α} (ht : t.Within f) {i : Nat} (hi : i < h.storages) :
    i < (t.run h).holdings.storages ∧
      (h.catalogs i).Serves f ((t.run h).holdings.catalogs i) := by
  cases t with
  | openStorage label =>
    have hother : (h.openStorage label).2.catalogs i = h.catalogs i := by
      simp only [Holdings.openStorage, Holdings.setCatalog, if_neg (Nat.ne_of_lt hi)]
    refine ⟨Nat.lt_succ_of_lt hi, ?_⟩
    rw [run, hother]
    exact Catalog.Serves.refl f _
  | openGate => exact ⟨hi, Catalog.Serves.refl f _⟩
  | setPolicy g p => exact ⟨hi, Catalog.Serves.refl f _⟩
  | ask r q =>
    have hstorages := (Registry.confined_change q.key q.info q.op r h).storages
    exact ⟨hstorages ▸ hi, Registry.serves_change ht q.info i q.op r h⟩

theorem Holdings.after_serves {steps : List (Step τ α)} (hsteps : ∀ t ∈ steps, t.Within f)
    {i : Nat} (hi : i < h.storages) :
    i < (h.after steps).storages ∧ (h.catalogs i).Serves f ((h.after steps).catalogs i) := by
  induction steps generalizing h with
  | nil => exact ⟨hi, Catalog.Serves.refl f _⟩
  | cons t rest ih =>
    obtain ⟨hopen, hserved⟩ := Step.serves (hsteps t (by simp)) hi
    obtain ⟨hstill, hrest⟩ := ih (fun u hu => hsteps u (by simp [hu])) hopen
    exact ⟨hstill, hserved.trans hrest⟩

/-! ## A registry that is opened empty -/

namespace Registry

omit [DecidableEq τ] in
theorem openPlain_issued (h : Holdings τ α) (label : String) :
    ((openPlain h label).2.2.catalog (openPlain h label).1).Issued f [] [] := by
  rw [catalog_openPlain]
  exact Catalog.Issued.empty

/-- Any run of requests to a registry that is opened empty numbers its registrations from 0, each
of them once, and leaves a catalog in good order. There is no other state for the catalog to be
in: what any run does with registries that the storage is a part of, at any two moments, is what
requests of the registry's own would have done by then. -/
theorem openPlain_run_wellKept (hf : f.Grown) (h : Holdings τ α) (label : String) :
    let opened := openPlain h label
    let asked (qs : List (Request τ α)) := qs.map (Step.ask opened.2.1)
    (∀ qs : List (Request τ α), (∀ q ∈ qs, q.key ∈ f.keys) →
      Outcome.ticketsGiven (opened.2.2.outcomes (asked qs)) =
          List.range (Request.registrations qs).length ∧
        ((opened.2.2.after (asked qs)).catalog opened.1).WellKept (Request.registrations qs)
          (Live.ofRequests qs)) ∧
      ∀ steps more : List (Step τ α), (∀ t ∈ steps, t.Within f) → (∀ t ∈ more, t.Within f) →
        ∃ qs rs : List (Request τ α), (∀ q ∈ qs ++ rs, q.key ∈ f.keys) ∧
          (opened.2.2.after steps).catalog opened.1 =
            (opened.2.2.after (asked qs)).catalog opened.1 ∧
          (opened.2.2.after (steps ++ more)).catalog opened.1 =
            (opened.2.2.after (asked (qs ++ rs))).catalog opened.1 := by
  intro opened asked
  have hopen : opened.1.id < opened.2.2.storages := Nat.lt_succ_self _
  refine ⟨?_, ?_⟩
  · intro qs hqs
    obtain ⟨hgiven, l, hend, hlive⟩ := run_plain_issued hf qs hqs (openPlain_issued h label)
    refine ⟨?_, ?_⟩
    · rw [List.range_eq_range']
      exact hgiven
    · have hkept := hend.wellKept hf
      rw [hlive, List.nil_append] at hkept
      exact hkept
  · intro steps more hsteps hmore
    have hasked : ∀ qs, (opened.2.2.after (asked qs)).catalog opened.1 =
        qs.foldl Catalog.serve (opened.2.2.catalog opened.1) := fun qs =>
      Holdings.after_ask_plain _ _ qs
    obtain ⟨hstill, qs, hqs, hfirst⟩ := Holdings.after_serves hsteps hopen
    obtain ⟨_, rs, hrs, hsecond⟩ := Holdings.after_serves hmore hstill
    refine ⟨qs, rs, ?_, ?_, ?_⟩
    · intro q hq
      rcases List.mem_append.mp hq with hq | hq
      · exact hqs q hq
      · exact hrs q hq
    · rw [hasked]
      exact hfirst.symm
    · rw [hasked, List.foldl_append, Holdings.after_append]
      exact (hsecond.symm.trans (congrArg (rs.foldl Catalog.serve) hfirst.symm))

/-- Ticket 1 is removed and not given again. A roll-back uses up ticket 0 too. -/
theorem openPlain_run_wellKept_base :
    let opened := openPlain (τ := Payload) (α := String) .empty "base"
    let qs : List (Request Payload String) :=
      [⟨.register, BaseKeys.effects, ⟨0, "a"⟩⟩, ⟨.register, BaseKeys.conditions, ⟨0, "a"⟩⟩,
        ⟨.unregister, BaseKeys.statements, ⟨0, "a"⟩⟩, ⟨.register, BaseKeys.effects, ⟨1, "b"⟩⟩]
    let left := opened.2.2.after (qs.map (Step.ask opened.2.1))
    let refusing := child opened.2.1 (view (plain ⟨1, "closed"⟩))
    let steps := [Step.ask refusing ⟨.register, BaseKeys.effects, ⟨0, "a"⟩⟩]
    BaseKeys.forest.Grown ∧ (∀ q ∈ qs, q.key ∈ BaseKeys.forest.keys) ∧
      (∀ t ∈ steps, t.Within BaseKeys.forest) ∧
      (left.catalog opened.1).WellKept
        [⟨BaseKeys.effects, ⟨0, "a"⟩⟩, ⟨BaseKeys.conditions, ⟨0, "a"⟩⟩,
          ⟨BaseKeys.effects, ⟨1, "b"⟩⟩]
        [⟨BaseKeys.effects, ⟨0, "a"⟩⟩, ⟨BaseKeys.effects, ⟨1, "b"⟩⟩] ∧
      (left.catalog opened.1).postings.map Posting.ticket = [0, 2] ∧
      ((opened.2.2.after steps).catalog opened.1).nextTicket = 1 ∧
      ∃ rs : List (Request Payload String), (∀ q ∈ rs, q.key ∈ BaseKeys.forest.keys) ∧
        (opened.2.2.after steps).catalog opened.1 =
          (opened.2.2.after (rs.map (Step.ask opened.2.1))).catalog opened.1 := by
  intro opened qs left refusing steps
  have hkeys : ∀ q ∈ qs, q.key ∈ BaseKeys.forest.keys := by simp [qs, BaseKeys.forest]
  have hsteps : ∀ t ∈ steps, t.Within BaseKeys.forest := by
    simp [steps, Step.Within, BaseKeys.forest]
  obtain ⟨hplain, hany⟩ := openPlain_run_wellKept (α := String) BaseKeys.forest_grown .empty "base"
  obtain ⟨rs, _, hrs, hserved, _⟩ := hany steps [] hsteps (by simp)
  exact ⟨BaseKeys.forest_grown, hkeys, hsteps, (hplain qs hkeys).2, rfl, rfl, rs,
    fun q hq => hrs q (List.mem_append_left _ hq), hserved⟩

end Registry

end GrammarRegistry
