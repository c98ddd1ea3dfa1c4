-- What holdings stand for: one live list for each storage. Two holdings that stand for the same
-- lists, and whose gates refuse the same, are alike: whatever is done to both, the same calls go
-- through, with the same errors and the same events up to ticket numbers, and they stay alike.
import GrammarRegistry.Proofs.Catalog.Refinement
import GrammarRegistry.Proofs.Registry.Runs
import GrammarRegistry.Registry.Record

namespace GrammarRegistry

variable {τ α : Type}

/-- A live list for each storage, by its number. -/
abbrev Lives (τ α : Type) := Nat → Live τ α

/-- The lists, with that of one storage changed. -/
def Lives.edit (L : Lives τ α) (s : Storage) (g : Live τ α → Live τ α) : Lives τ α :=
  fun i => if i = s.id then g (L i) else L i

theorem Lives.edit_eq_self {L : Lives τ α} {s : Storage} {g : Live τ α → Live τ α}
    (h : g (L s.id) = L s.id) : L.edit s g = L := by
  funext i
  unfold edit
  split
  · rename_i hi
    rw [hi, h]
  · rfl

theorem Lives.edit_self (L : Lives τ α) (s : Storage) (g : Live τ α → Live τ α) :
    L.edit s g s.id = g (L s.id) := if_pos rfl

theorem Lives.edit_of_ne {L : Lives τ α} {s : Storage} {g : Live τ α → Live τ α} {i : Nat}
    (h : i ≠ s.id) : L.edit s g i = L i := if_neg h

variable [PayloadTypes τ] {f : Forest τ} {k : Key τ}

namespace Holdings

/-- Each storage's catalog stands for the storage's live list. -/
def StandFor (f : Forest τ) (h : Holdings τ α) (L : Lives τ α) : Prop :=
  ∀ i, (h.catalogs i).StandsFor f (L i)

namespace StandFor

variable {h : Holdings τ α} {L : Lives τ α}

theorem empty : (Holdings.empty : Holdings τ α).StandFor f fun _ => [] :=
  fun _ => Catalog.StandsFor.empty

theorem setCatalog (hh : h.StandFor f L) {s : Storage} {c : Catalog τ α}
    {g : Live τ α → Live τ α} (hc : c.StandsFor f (g (L s.id))) :
    (h.setCatalog s c).StandFor f (L.edit s g) := by
  intro i
  simp only [Holdings.setCatalog, Lives.edit]
  split
  · rename_i hi
    rw [hi]
    exact hc
  · exact hh i

theorem unique (hf : f.Grown) {L' : Lives τ α} (hh : h.StandFor f L) (hh' : h.StandFor f L') :
    L = L' :=
  funext fun i => (hh i).unique hf (hh' i)

end StandFor

/-- The two stand for the same live lists, their gates refuse the same, and new storages and gates
get the same numbers. -/
structure Alike (f : Forest τ) (h h' : Holdings τ α) : Prop where
  lives : ∃ L, h.StandFor f L ∧ h'.StandFor f L
  policies : h.policies = h'.policies
  storages : h.storages = h'.storages
  gates : h.gates = h'.gates

/-- Every registry answers every question in the same way. -/
structure SameAnswers [DecidableEq τ] (f : Forest τ) (h h' : Holdings τ α) : Prop where
  elements : ∀ r : Registry, r.elements h = r.elements h'
  under : ∀ k ∈ f.keys, ∀ r : Registry, r.under h k = r.under h' k
  contains : ∀ k ∈ f.keys, ∀ (s : Storage) (d : Shared α),
    (h.catalog s).contains k d = (h'.catalog s).contains k d
  size : ∀ s : Storage, (h.catalog s).size = (h'.catalog s).size
  keyCount : ∀ s : Storage, (h.catalog s).keyCount = (h'.catalog s).keyCount
  record : ∀ r : Registry, r.recordFields? h = r.recordFields? h'

end Holdings

/-! ## One storage -/

namespace Storage

variable {h : Holdings τ α} {s : Storage} {live : Live τ α} {L : Lives τ α}

theorem register_eq [DecidableEq τ] (hf : f.Grown) (hs : (h.catalog s).StandsFor f live)
    (hk : k ∈ f.keys) (d : Shared α) :
    ∃ c ticket, s.register k d h =
        ⟨h.setCatalog s c, .ok (), [.registered s.label k.name ticket k.lineage.length]⟩ ∧
      c.StandsFor f (Live.register live k d) := by
  obtain ⟨c, ticket, hc, hstands⟩ := hs.register hf hk d
  refine ⟨c, ticket, ?_, hstands⟩
  unfold register
  rw [hc]

/-- A storage goes along with every removal. It reports the length of the removed registration's
line, or that there is none. -/
theorem unregister_eq (hf : f.Grown) (hs : (h.catalog s).StandsFor f live) (hk : k ∈ f.keys)
    (d : Shared α) :
    (Live.newest? live k d = none ∧
      s.unregister k d h = ⟨h, .ok (), [.absentIgnored s.label k.name]⟩ ∧
      Live.unregister live k d = live) ∨
    ∃ r c ticket, Live.newest? live k d = some r ∧
      s.unregister k d h = ⟨h.setCatalog s c, .ok (),
        [.unregistered s.label k.name ticket r.home.lineage.length]⟩ ∧
      c.StandsFor f (Live.unregister live k d) := by
  rcases hs.unregister hf hk d with ⟨hnone, hc, hlive⟩ | ⟨r, c, ticket, hsome, hc, hstands⟩
  · refine Or.inl ⟨hnone, ?_, hlive⟩
    unfold unregister
    rw [hc]
  · refine Or.inr ⟨r, c, ticket, hsome, ?_, hstands⟩
    unfold unregister
    rw [hc]

theorem register_ok [DecidableEq τ] (hf : f.Grown) (hs : (h.catalog s).StandsFor f live)
    (hk : k ∈ f.keys) (d : Shared α) :
    (s.register k d h).result = .ok () ∧
      ((s.register k d h).holdings.catalog s).StandsFor f (Live.register live k d) := by
  obtain ⟨c, ticket, hrun, hc⟩ := register_eq hf hs hk d
  rw [hrun, Holdings.catalog_setCatalog_self]
  exact ⟨rfl, hc⟩

theorem unregister_ok (hf : f.Grown) (hs : (h.catalog s).StandsFor f live) (hk : k ∈ f.keys)
    (d : Shared α) :
    (s.unregister k d h).result = .ok () ∧
      ((s.unregister k d h).holdings.catalog s).StandsFor f (Live.unregister live k d) := by
  rcases unregister_eq hf hs hk d with ⟨_, hrun, hlive⟩ | ⟨r, c, ticket, _, hrun, hc⟩
  · rw [hrun, hlive]
    exact ⟨rfl, hs⟩
  · rw [hrun, Holdings.catalog_setCatalog_self]
    exact ⟨rfl, hc⟩

theorem register_spec [DecidableEq τ] (hf : f.Grown) (hh : h.StandFor f L) (hk : k ∈ f.keys)
    (s : Storage) (d : Shared α) :
    (s.register k d h).result = .ok () ∧
      (s.register k d h).holdings.StandFor f (L.edit s (Live.register · k d)) := by
  obtain ⟨c, ticket, hrun, hc⟩ := register_eq hf (hh s.id) hk d
  rw [hrun]
  exact ⟨rfl, hh.setCatalog hc⟩

theorem unregister_spec (hf : f.Grown) (hh : h.StandFor f L) (hk : k ∈ f.keys) (s : Storage)
    (d : Shared α) :
    (s.unregister k d h).result = .ok () ∧
      (s.unregister k d h).holdings.StandFor f (L.edit s (Live.unregister · k d)) := by
  rcases unregister_eq hf (hh s.id) hk d with
    ⟨_, hrun, hlive⟩ | ⟨r, c, ticket, _, hrun, hc⟩
  · have hedit : L.edit s (Live.unregister · k d) = L := Lives.edit_eq_self hlive
    rw [hrun, hedit]
    exact ⟨rfl, hh⟩
  · rw [hrun]
    exact ⟨rfl, hh.setCatalog hc⟩

end Storage

/-! ## What a registry lists -/

namespace Registry

variable {h : Holdings τ α} {live : Live τ α} {r : Registry}

theorem elements_eq (hr : (h.catalog r.front).StandsFor f live) :
    r.elements h = (Live.elements live).map fun d => ⟨PayloadTypes.element, d⟩ :=
  (r.elements_front h).trans hr.elements

theorem under_eq [DecidableEq τ] (hr : (h.catalog r.front).StandsFor f live) (hk : k ∈ f.keys) :
    r.under h k = (Live.under live k).map k.handle :=
  (r.under_front h k).trans (hr.under hk)

theorem lists_eq [DecidableEq τ] (hr : (h.catalog r.front).StandsFor f live) (hk : k ∈ f.keys)
    (d : Shared α) : r.lists h k d = live.any (·.isMatch k d) := by
  rw [lists, under_eq hr hk, List.any_map, Live.under, List.any_map, List.any_filter]
  exact List.any_congr rfl fun x => Bool.and_comm _ _

end Registry

/-! ## Alike holdings -/

/-- The event without its ticket number. -/
def Event.unticketed : Event → Event
  | .registered registry key _ buckets => .registered registry key 0 buckets
  | .unregistered registry key _ buckets => .unregistered registry key 0 buckets
  | e => e

/-- The same result and, up to tickets, the same events and holdings. -/
structure Outcome.Alike (f : Forest τ) (o o' : Outcome τ α) : Prop where
  holdings : o.holdings.Alike f o'.holdings
  result : o.result = o'.result
  events : o.events.map Event.unticketed = o'.events.map Event.unticketed

namespace Holdings.Alike

variable {h h' : Holdings τ α}

theorem of_standFor {L : Lives τ α} (hh : h.StandFor f L) : h.Alike f h :=
  ⟨⟨L, hh, hh⟩, rfl, rfl, rfl⟩

theorem setCatalog {L : Lives τ α} (hh : h.Alike f h') {s s' : Storage} {c c' : Catalog τ α}
    (hc : (h.setCatalog s c).StandFor f L) (hc' : (h'.setCatalog s' c').StandFor f L) :
    (h.setCatalog s c).Alike f (h'.setCatalog s' c') :=
  ⟨⟨L, hc, hc'⟩, hh.policies, hh.storages, hh.gates⟩

theorem elements_eq (hh : h.Alike f h') (r : Registry) : r.elements h = r.elements h' := by
  obtain ⟨L, hL, hL'⟩ := hh.lives
  rw [Registry.elements_eq (hL r.front.id), Registry.elements_eq (hL' r.front.id)]

theorem under_eq [DecidableEq τ] (hh : h.Alike f h') (hk : k ∈ f.keys) (r : Registry) :
    r.under h k = r.under h' k := by
  obtain ⟨L, hL, hL'⟩ := hh.lives
  rw [Registry.under_eq (hL r.front.id) hk, Registry.under_eq (hL' r.front.id) hk]

theorem lists_eq [DecidableEq τ] (hh : h.Alike f h') (hk : k ∈ f.keys) (r : Registry)
    (d : Shared α) : r.lists h k d = r.lists h' k d := by
  unfold Registry.lists
  rw [hh.under_eq hk]

theorem contains_eq (hh : h.Alike f h') (hk : k ∈ f.keys) (s : Storage) (d : Shared α) :
    (h.catalog s).contains k d = (h'.catalog s).contains k d := by
  obtain ⟨L, hL, hL'⟩ := hh.lives
  unfold Holdings.catalog
  rw [(hL s.id).contains hk, (hL' s.id).contains hk]

theorem size_eq (hh : h.Alike f h') (s : Storage) :
    (h.catalog s).size = (h'.catalog s).size := by
  obtain ⟨L, hL, hL'⟩ := hh.lives
  unfold Holdings.catalog
  rw [(hL s.id).size, (hL' s.id).size]

theorem keyCount_eq (hf : f.Grown) (hh : h.Alike f h') (s : Storage) :
    (h.catalog s).keyCount = (h'.catalog s).keyCount := by
  obtain ⟨L, hL, hL'⟩ := hh.lives
  unfold Holdings.catalog
  rw [(hL s.id).keyCount hf, (hL' s.id).keyCount hf]

/-- What a registry prints of itself are its labels and counts. -/
theorem recordFields_eq (hf : f.Grown) (hh : h.Alike f h') (r : Registry) :
    r.recordFields? h = r.recordFields? h' := by
  cases r with
  | plain s =>
    simp only [Registry.recordFields?, hh.size_eq, hh.keyCount_eq hf]
  | view backing => rfl
  | child p c => rfl
  | gate g inner => rfl

theorem sameAnswers [DecidableEq τ] (hf : f.Grown) (hh : h.Alike f h') : h.SameAnswers f h' where
  elements := hh.elements_eq
  under _ hk := hh.under_eq hk
  contains _ hk := hh.contains_eq hk
  size := hh.size_eq
  keyCount := hh.keyCount_eq hf
  record := hh.recordFields_eq hf

end Holdings.Alike

namespace Change

/-- The change does the same to alike holdings. -/
def Respects (f : Forest τ) (c : Change τ α) : Prop :=
  ∀ h h' : Holdings τ α, h.Alike f h' → (c h).Alike f (c h')

theorem respects_refuse (e : RegistryError) (events : List Event) :
    Respects f (refuse e events : Change τ α) :=
  fun _ _ hh => ⟨hh, rfl, rfl⟩

theorem respects_nothing : Respects f (nothing : Change τ α) :=
  fun _ _ hh => ⟨hh, rfl, rfl⟩

theorem respects_andThen {first second undo : Change τ α} {refused undoFailed : RegistryError → Event}
    (hfirst : Respects f first) (hsecond : Respects f second) (hundo : Respects f undo) :
    Respects f (andThen first second undo refused undoFailed) := by
  intro h h' hh
  obtain ⟨ha, hra, hea⟩ := hfirst h h' hh
  obtain ⟨hb, hrb, heb⟩ := hsecond _ _ ha
  obtain ⟨hc, hrc, hec⟩ := hundo _ _ hb
  unfold andThen
  dsimp only
  rw [← hra, ← hrb, ← hrc]
  split
  · exact ⟨ha, hra, hea⟩
  · split
    · exact ⟨hb, rfl, by rw [List.map_append, List.map_append, hea, heb]⟩
    · exact ⟨hc, rfl, by simp only [List.map_append, hea, heb, hec]⟩

end Change

theorem Storage.respects_register [DecidableEq τ] (hf : f.Grown) (hk : k ∈ f.keys) (s : Storage)
    (d : Shared α) : Change.Respects f (s.register k d) := by
  intro h h' hh
  obtain ⟨L, hL, hL'⟩ := hh.lives
  obtain ⟨c, ticket, hrun, hc⟩ := register_eq hf (hL s.id) hk d
  obtain ⟨c', ticket', hrun', hc'⟩ := register_eq hf (hL' s.id) hk d
  have hnew : (h.setCatalog s c).StandFor f (L.edit s (Live.register · k d)) := hL.setCatalog hc
  have hnew' : (h'.setCatalog s c').StandFor f (L.edit s (Live.register · k d)) :=
    hL'.setCatalog hc'
  rw [hrun, hrun']
  exact ⟨hh.setCatalog hnew hnew', rfl, rfl⟩

theorem Storage.respects_unregister [DecidableEq τ] (hf : f.Grown) (hk : k ∈ f.keys) (s : Storage)
    (d : Shared α) : Change.Respects f (s.unregister k d) := by
  intro h h' hh
  obtain ⟨L, hL, hL'⟩ := hh.lives
  rcases unregister_eq hf (hL s.id) hk d with ⟨hnone, hrun, _⟩ | ⟨r, c, ticket, hsome, hrun, hc⟩
  · rcases unregister_eq hf (hL' s.id) hk d with ⟨_, hrun', _⟩ | ⟨r', _, _, hsome', _, _⟩
    · rw [hrun, hrun']
      exact ⟨hh, rfl, rfl⟩
    · rw [hnone] at hsome'
      cases hsome'
  · rcases unregister_eq hf (hL' s.id) hk d with
      ⟨hnone', _, _⟩ | ⟨r', c', ticket', hsome', hrun', hc'⟩
    · rw [hsome] at hnone'
      cases hnone'
    · rw [hsome] at hsome'
      cases hsome'
      have hnew : (h.setCatalog s c).StandFor f (L.edit s (Live.unregister · k d)) :=
        hL.setCatalog hc
      have hnew' : (h'.setCatalog s c').StandFor f (L.edit s (Live.unregister · k d)) :=
        hL'.setCatalog hc'
      rw [hrun, hrun']
      exact ⟨hh.setCatalog hnew hnew', rfl, rfl⟩

/-- A request does the same to alike holdings, whatever the registry is made of. -/
theorem Registry.respects_change [DecidableEq τ] (hf : f.Grown) (hk : k ∈ f.keys) (d : Shared α)
    (op : Mutation) (r : Registry) : Change.Respects f (Registry.change k d op r) := by
  induction r generalizing op with
  | plain s =>
    cases op with
    | register => exact s.respects_register hf hk d
    | unregister => exact s.respects_unregister hf hk d
  | view backing _ => cases op <;> exact Change.respects_refuse _ _
  | gate g inner ih =>
    intro h h' hh
    have hpolicy : h.policy g = h'.policy g := congrFun hh.policies g.id
    cases op <;>
    · simp only [change, hpolicy]
      split
      · exact Change.respects_refuse _ _ h h' hh
      · exact ih _ h h' hh
  | child p c ihp ihc =>
    cases op with
    | register => exact Change.respects_andThen (ihp _) (ihc _) (ihp _)
    | unregister =>
      intro h h' hh
      simp only [change, hh.lists_eq hk]
      split
      · exact Change.respects_andThen (ihc _) (ihp _) (ihc _) h h' hh
      · exact Change.respects_andThen (ihc _) (ihp _) Change.respects_nothing h h' hh

/-! ## Runs from alike holdings -/

theorem Holdings.StandFor.openStorage {h : Holdings τ α} {L : Lives τ α} (hh : h.StandFor f L)
    (label : String) :
    (h.openStorage label).2.StandFor f (L.edit (h.openStorage label).1 fun _ => []) :=
  hh.setCatalog (s := ⟨h.storages, label⟩) Catalog.StandsFor.empty

section

variable [DecidableEq τ]

theorem Step.respects (hf : f.Grown) {s : Step τ α} (hs : s.Within f) :
    Change.Respects f s.run := by
  intro h h' hh
  cases s with
  | openStorage label =>
    obtain ⟨L, hL, hL'⟩ := hh.lives
    have hopened := hL'.openStorage label
    have hsame : (h'.openStorage label).1 = (h.openStorage label).1 := by
      simp only [Holdings.openStorage, hh.storages]
    rw [hsame] at hopened
    exact ⟨⟨⟨_, hL.openStorage label, hopened⟩, hh.policies, congrArg (· + 1) hh.storages,
      hh.gates⟩, rfl, rfl⟩
  | openGate =>
    refine ⟨⟨hh.lives, ?_, hh.storages, congrArg (· + 1) hh.gates⟩, rfl, rfl⟩
    simp only [run, Holdings.openGate, Holdings.setPolicy, hh.policies, hh.gates]
  | setPolicy g p =>
    refine ⟨⟨hh.lives, ?_, hh.storages, hh.gates⟩, rfl, rfl⟩
    simp only [run, Holdings.setPolicy, hh.policies]
  | ask r q => exact r.respects_change hf hs q.info q.op h h' hh

/-- From alike holdings a run takes the same course. -/
theorem Holdings.Alike.outcomes (hf : f.Grown) {steps : List (Step τ α)}
    (hsteps : ∀ s ∈ steps, s.Within f) {h h' : Holdings τ α} (hh : h.Alike f h') :
    List.Forall₂ (Outcome.Alike f) (h.outcomes steps) (h'.outcomes steps) := by
  induction steps generalizing h h' with
  | nil => exact List.Forall₂.nil
  | cons s rest ih =>
    have hstep := Step.respects hf (hsteps s (by simp)) h h' hh
    exact List.Forall₂.cons hstep (ih (fun t ht => hsteps t (by simp [ht])) hstep.holdings)

/-- From alike holdings a run takes the same course, and all questions on the way are answered in
the same way. -/
theorem Holdings.Alike.outcomes_sameAnswers (hf : f.Grown) {h h' : Holdings τ α}
    (hh : h.Alike f h') {steps : List (Step τ α)} (hsteps : ∀ s ∈ steps, s.Within f) :
    List.Forall₂ (fun o o' => Outcome.Alike f o o' ∧ o.holdings.SameAnswers f o'.holdings)
      (h.outcomes steps) (h'.outcomes steps) :=
  (hh.outcomes hf hsteps).imp fun _ _ ho => ⟨ho, ho.holdings.sameAnswers hf⟩

/-- Reachable holdings stand for live lists. -/
theorem Holdings.Reachable.standFor (hf : f.Grown) {h : Holdings τ α} (hh : h.Reachable f) :
    ∃ L, h.StandFor f L := by
  have halike : h.Alike f h := by
    refine hh.induct (P := fun h => h.Alike f h) (Alike.of_standFor StandFor.empty) ?_
    intro h s hs hh
    exact (Step.respects hf hs h h hh).holdings
  obtain ⟨L, hL, _⟩ := halike.lives
  exact ⟨L, hL⟩

end

end GrammarRegistry
