-- What a request does to the storages of a registry without gates. If no view is met, it goes
-- through and changes each live list once for each place where its storage can be reached. A
-- registration that meets a view is refused, and every list is as it was. No request of any kind
-- touches a storage that it cannot reach.
import GrammarRegistry.Proofs.Registry.Standing
import GrammarRegistry.Registry.Shape
import Mathlib.Logic.Function.Iterate

namespace GrammarRegistry

variable {τ α : Type}

/-! ## Changing many lists at once -/

namespace Lives

/-- Each storage's list is changed once for every time that the storage occurs. -/
def editAll (L : Lives τ α) (ss : List Storage) (g : Live τ α → Live τ α) : Lives τ α :=
  fun i => g^[(ss.map Storage.id).count i] (L i)

variable (L : Lives τ α) (ss ts : List Storage) (g : Live τ α → Live τ α)

theorem editAll_singleton (s : Storage) : L.editAll [s] g = L.edit s g := by
  funext i
  by_cases hi : i = s.id
  · simp [editAll, edit, hi]
  · simp [editAll, edit, hi, Ne.symm hi]

theorem editAll_append : L.editAll (ss ++ ts) g = (L.editAll ss g).editAll ts g := by
  funext i
  unfold editAll
  rw [List.map_append, List.count_append, Nat.add_comm, Function.iterate_add_apply]

theorem editAll_append_comm : L.editAll (ss ++ ts) g = L.editAll (ts ++ ss) g := by
  funext i
  unfold editAll
  rw [List.map_append, List.map_append, List.count_append, List.count_append, Nat.add_comm]

/-- What is undone list by list is undone as a whole, also where a storage occurs many times. -/
theorem editAll_editAll_of_leftInverse {g undo : Live τ α → Live τ α}
    (h : Function.LeftInverse undo g) : (L.editAll ss g).editAll ss undo = L :=
  funext fun i => h.iterate _ (L i)

/-- Where no storage occurs twice, each one's list is changed once. -/
theorem editAll_of_nodup (h : (ss.map Storage.id).Nodup) (i : Nat) :
    L.editAll ss g i = if i ∈ ss.map Storage.id then g (L i) else L i := by
  unfold editAll
  split
  · rename_i hi
    rw [List.count_eq_one_of_mem h hi]
    rfl
  · rename_i hi
    rw [List.count_eq_zero_of_not_mem hi]
    rfl

end Lives

/-! ## Two changes with an undo -/

namespace Change

variable {first second undo : Change τ α} {refused undoFailed : RegistryError → Event}
  {h : Holdings τ α}

theorem andThen_ok (ha : (first h).result = .ok ())
    (hb : (second (first h).holdings).result = .ok ()) :
    andThen first second undo refused undoFailed h =
      ⟨(second (first h).holdings).holdings, .ok (),
        (first h).events ++ (second (first h).holdings).events⟩ := by
  simp only [andThen, ha, hb]

theorem andThen_refused_first {e : RegistryError} (ha : (first h).result = .error e) :
    andThen first second undo refused undoFailed h = first h := by
  simp only [andThen, ha]

theorem andThen_refused_second {e : RegistryError} (ha : (first h).result = .ok ())
    (hb : (second (first h).holdings).result = .error e) :
    (andThen first second undo refused undoFailed h).result = .error e ∧
      (andThen first second undo refused undoFailed h).holdings =
        (undo (second (first h).holdings).holdings).holdings := by
  simp only [andThen, ha, hb, and_self]

/-- The holdings that are left are those after one, two or all three of the changes. -/
theorem andThen_holdings (h : Holdings τ α) :
    (andThen first second undo refused undoFailed h).holdings = (first h).holdings ∨
    (andThen first second undo refused undoFailed h).holdings =
      (second (first h).holdings).holdings ∨
    (andThen first second undo refused undoFailed h).holdings =
      (undo (second (first h).holdings).holdings).holdings := by
  unfold andThen
  dsimp only
  split
  · exact Or.inl rfl
  · split
    · exact Or.inr (Or.inl rfl)
    · exact Or.inr (Or.inr rfl)

/-- The relation holds between what is held before the change and after it. -/
def Relates (R : Holdings τ α → Holdings τ α → Prop) (c : Change τ α) : Prop :=
  ∀ h, R h (c h).holdings

theorem relates_andThen {R : Holdings τ α → Holdings τ α → Prop}
    (htrans : ∀ h h' h'', R h h' → R h' h'' → R h h'')
    (hfirst : first.Relates R) (hsecond : second.Relates R) (hundo : undo.Relates R) :
    (andThen first second undo refused undoFailed).Relates R := by
  intro h
  have htwo := htrans _ _ _ (hfirst h) (hsecond (first h).holdings)
  have hthree := htrans _ _ _ htwo (hundo (second (first h).holdings).holdings)
  rcases andThen_holdings h with he | he | he <;> rw [he]
  · exact hfirst h
  · exact htwo
  · exact hthree

end Change

/-- A relation that carries over from change to change holds for a request if it does for the
same request at each plain storage that can be reached. -/
theorem Registry.relates_change [DecidableEq τ] [PayloadTypes τ]
    {R : Holdings τ α → Holdings τ α → Prop} (hrefl : ∀ h, R h h)
    (htrans : ∀ h h' h'', R h h' → R h' h'' → R h h'')
    {k : Key τ} {d : Shared α} (op : Mutation) {r : Registry}
    (hplain : ∀ s ∈ r.writable, ∀ op, (change k d op (plain s)).Relates R) :
    (change k d op r).Relates R := by
  induction r generalizing op with
  | plain s => exact hplain s (List.mem_singleton_self s) op
  | view backing _ => cases op <;> exact hrefl
  | gate g inner ih =>
    intro h
    cases op <;>
    · simp only [change]
      split
      · exact hrefl h
      · exact ih _ hplain h
  | child p c ihp ihc =>
    have hp : ∀ op, (change k d op p).Relates R := fun op =>
      ihp op fun s hs => hplain s (List.mem_append_left _ hs)
    have hc : ∀ op, (change k d op c).Relates R := fun op =>
      ihc op fun s hs => hplain s (List.mem_append_right _ hs)
    have hnothing : (Change.nothing : Change τ α).Relates R := hrefl
    cases op with
    | register => exact Change.relates_andThen htrans (hp _) (hc _) (hp _)
    | unregister =>
      intro h
      simp only [change]
      split
      · exact Change.relates_andThen htrans (hc _) (hp _) (hc _) h
      · exact Change.relates_andThen htrans (hc _) (hp _) hnothing h

/-! ## What is left alone -/

/-- The holdings differ in the catalogs of the given storages at most. -/
structure Holdings.AgreeOutside (ss : List Storage) (h h' : Holdings τ α) : Prop where
  catalogs : ∀ i, (∀ s ∈ ss, s.id ≠ i) → h'.catalogs i = h.catalogs i
  policies : h'.policies = h.policies
  storages : h'.storages = h.storages
  gates : h'.gates = h.gates

namespace Holdings.AgreeOutside

variable {ss ts : List Storage} {h h' h'' : Holdings τ α}

theorem refl (ss : List Storage) (h : Holdings τ α) : h.AgreeOutside ss h :=
  ⟨fun _ _ => rfl, rfl, rfl, rfl⟩

theorem trans (hh : h.AgreeOutside ss h') (hh' : h'.AgreeOutside ss h'') :
    h.AgreeOutside ss h'' :=
  ⟨fun i hi => (hh'.catalogs i hi).trans (hh.catalogs i hi), hh'.policies.trans hh.policies,
    hh'.storages.trans hh.storages, hh'.gates.trans hh.gates⟩

theorem mono (hh : h.AgreeOutside ss h') (hsub : ∀ s ∈ ss, s ∈ ts) : h.AgreeOutside ts h' :=
  { hh with catalogs := fun i hi => hh.catalogs i fun s hs => hi s (hsub s hs) }

theorem catalog_eq (hh : h.AgreeOutside ss h') {s : Storage} (hs : ∀ t ∈ ss, t.id ≠ s.id) :
    h'.catalog s = h.catalog s :=
  hh.catalogs s.id hs

theorem setCatalog {s : Storage} (hs : s ∈ ss) (c : Catalog τ α) :
    h.AgreeOutside ss (h.setCatalog s c) := by
  refine ⟨?_, rfl, rfl, rfl⟩
  intro i hi
  simp only [Holdings.setCatalog, if_neg (Ne.symm (hi s hs))]

end Holdings.AgreeOutside

/-- The change touches the catalogs of the given storages at most. -/
def Change.Confined (ss : List Storage) (c : Change τ α) : Prop :=
  ∀ h : Holdings τ α, h.AgreeOutside ss (c h).holdings

theorem Storage.confined_register [DecidableEq τ] [PayloadTypes τ] (s : Storage) (k : Key τ)
    (d : Shared α) : Change.Confined [s] (s.register k d) := by
  intro h
  unfold register
  split
  · exact .refl _ _
  · exact .setCatalog (List.mem_singleton_self s) _

theorem Storage.confined_unregister (s : Storage) (k : Key τ) (d : Shared α) :
    Change.Confined [s] (s.unregister k d) := by
  intro h
  unfold unregister
  split
  · exact .refl _ _
  · exact .setCatalog (List.mem_singleton_self s) _

namespace Registry

variable [DecidableEq τ] [PayloadTypes τ]

omit [DecidableEq τ] [PayloadTypes τ] in
theorem writable_subset (r : Registry) : r.writable ⊆ r.storages := by
  induction r with
  | plain s => exact List.Subset.refl _
  | view backing _ => exact List.nil_subset _
  | child p c ihp ihc =>
    intro t ht
    rcases List.mem_append.mp ht with ht | ht
    · exact List.mem_append_left _ (ihp ht)
    · exact List.mem_append_right _ (ihc ht)
  | gate g inner ih => exact ih

theorem confined_change (k : Key τ) (d : Shared α) (op : Mutation) (r : Registry) :
    Change.Confined r.writable (change k d op r) := by
  refine relates_change (.refl _) (fun _ _ _ => .trans) op ?_
  intro s hs op h
  cases op with
  | register => exact (s.confined_register k d h).mono (List.forall_mem_singleton.mpr hs)
  | unregister => exact (s.confined_unregister k d h).mono (List.forall_mem_singleton.mpr hs)

/-! ## The two sides of a child registry -/

theorem register_child (k : Key τ) (d : Shared α) (p c : Registry) :
    (child p c).register k d =
      Change.andThen (p.register k d) (c.register k d) (p.unregister k d)
        (.childRejected c.label p.label k.name) (.rollbackFailed p.label k.name) := rfl

theorem unregister_child (k : Key τ) (d : Shared α) (p c : Registry) (h : Holdings τ α) :
    (child p c).unregister k d h =
      Change.andThen (c.unregister k d) (p.unregister k d)
        (if c.lists h k d then c.register k d else Change.nothing)
        (.parentRejected c.label p.label k.name) (.restoreFailed c.label k.name) h := rfl

/-! ## Requests that meet no gate -/

theorem firstView?_eq_none_iff_hasView (op : Mutation) (r : Registry) :
    r.firstView? op = none ↔ r.hasView = false := by
  induction r with
  | plain s => cases op <;> simp [firstView?, hasView]
  | view backing _ => cases op <;> simp [firstView?, hasView]
  | child p c ihp ihc =>
    rw [hasView, Bool.or_eq_false_iff, ← ihp, ← ihc]
    cases op with
    | register => rw [firstView?, Option.or_eq_none_iff]
    | unregister => rw [firstView?, Option.or_eq_none_iff, and_comm]
  | gate g inner ih =>
    rw [hasView, ← ih]
    cases op <;> rfl

/-- One kind of change meets a view if the other kind does. -/
theorem firstView?_eq_none_iff (op op' : Mutation) (r : Registry) :
    r.firstView? op = none ↔ r.firstView? op' = none :=
  (firstView?_eq_none_iff_hasView op r).trans (firstView?_eq_none_iff_hasView op' r).symm

section

variable {f : Forest τ} {h : Holdings τ α} {L : Lives τ α} {k : Key τ}

/-- A removal that meets no view goes through, in every place that it can reach. -/
theorem unregister_through (hf : f.Grown) (hk : k ∈ f.keys) (d : Shared α) {r : Registry}
    (hgates : r.gates = []) (hview : r.firstView? .unregister = none) (hh : h.StandFor f L) :
    (r.unregister k d h).result = .ok () ∧
      (r.unregister k d h).holdings.StandFor f
        (L.editAll r.writable (Live.unregister · k d)) := by
  induction r generalizing h L with
  | plain s =>
    rw [writable, Lives.editAll_singleton]
    exact s.unregister_spec hf hh hk d
  | view backing _ => cases hview
  | gate g inner _ => cases hgates
  | child p c ihp ihc =>
    rw [gates, List.append_eq_nil_iff] at hgates
    rw [firstView?, Option.or_eq_none_iff] at hview
    obtain ⟨hcok, hcstands⟩ := ihc hgates.2 hview.1 hh
    obtain ⟨hpok, hpstands⟩ := ihp hgates.1 hview.2 hcstands
    rw [unregister_child, Change.andThen_ok hcok hpok, writable, Lives.editAll_append_comm,
      Lives.editAll_append]
    exact ⟨rfl, hpstands⟩

/-- A registration that meets no view goes through, in every place that it can reach. -/
theorem register_through (hf : f.Grown) (hk : k ∈ f.keys) (d : Shared α) {r : Registry}
    (hgates : r.gates = []) (hview : r.firstView? .register = none) (hh : h.StandFor f L) :
    (r.register k d h).result = .ok () ∧
      (r.register k d h).holdings.StandFor f (L.editAll r.writable (Live.register · k d)) := by
  induction r generalizing h L with
  | plain s =>
    rw [writable, Lives.editAll_singleton]
    exact s.register_spec hf hh hk d
  | view backing _ => cases hview
  | gate g inner _ => cases hgates
  | child p c ihp ihc =>
    rw [gates, List.append_eq_nil_iff] at hgates
    rw [firstView?, Option.or_eq_none_iff] at hview
    obtain ⟨hpok, hpstands⟩ := ihp hgates.1 hview.1 hh
    obtain ⟨hcok, hcstands⟩ := ihc hgates.2 hview.2 hpstands
    rw [register_child, Change.andThen_ok hpok hcok, writable, Lives.editAll_append]
    exact ⟨rfl, hcstands⟩

/-- A removal that meets no view takes back a registration that met none, also through a key above
the one that it was made under. -/
theorem unregister_undoes_register (hf : f.Grown) {a : Key τ} (ha : a ∈ f.keys)
    (hbelow : k.isWithin a = true) (d : Shared α) {r : Registry} (hgates : r.gates = [])
    (hview : r.firstView? .register = none)
    (hh : h.StandFor f (L.editAll r.writable (Live.register · k d))) :
    (r.unregister a d h).result = .ok () ∧ (r.unregister a d h).holdings.StandFor f L := by
  have hundo : Function.LeftInverse (Live.unregister · a d) (Live.register · k d : Live τ α → _) :=
    fun _ => Live.unregister_register hbelow
  have hthrough := unregister_through hf ha d hgates
    ((firstView?_eq_none_iff .unregister .register r).mpr hview) hh
  rwa [Lives.editAll_editAll_of_leftInverse L _ hundo] at hthrough

/-- A registration that meets a view is refused under the view's label, and leaves every live
list as it was. -/
theorem register_refused (hf : f.Grown) (hk : k ∈ f.keys) (d : Shared α) {r : Registry}
    {label : String} (hgates : r.gates = []) (hview : r.firstView? .register = some label)
    (hh : h.StandFor f L) :
    (r.register k d h).result = .error (.unsupported label .register k.name) ∧
      (r.register k d h).holdings.StandFor f L := by
  induction r generalizing h L with
  | plain s => cases hview
  | view backing _ =>
    cases hview
    exact ⟨rfl, hh⟩
  | gate g inner _ => cases hgates
  | child p c ihp ihc =>
    rw [gates, List.append_eq_nil_iff] at hgates
    rw [firstView?, Option.or_eq_some_iff] at hview
    rw [register_child]
    rcases hview with hp | ⟨hp, hc⟩
    · obtain ⟨hprefused, hpstands⟩ := ihp hgates.1 hp hh
      rw [Change.andThen_refused_first hprefused]
      exact ⟨hprefused, hpstands⟩
    · -- the parent side went through, so no view is in the way of the roll-back
      obtain ⟨hpok, hpstands⟩ := register_through hf hk d hgates.1 hp hh
      obtain ⟨hcrefused, hcstands⟩ := ihc hgates.2 hc hpstands
      obtain ⟨hresult, hholdings⟩ := Change.andThen_refused_second hpok hcrefused
      obtain ⟨_, hback⟩ := unregister_undoes_register hf hk k.isWithin_self d hgates.1 hp hcstands
      rw [hresult, hholdings]
      exact ⟨rfl, hback⟩

end

end Registry

end GrammarRegistry
