-- A catalog stands for a live list. The list settles what every change does, what every question
-- is answered and how many buckets there are; tickets are all that it leaves open.
import GrammarRegistry.Proofs.Catalog.Ledger

namespace GrammarRegistry.Catalog

variable {τ α : Type} [PayloadTypes τ]

/-- The catalog reflects the live list, under some tickets. -/
def StandsFor (f : Forest τ) (c : Catalog τ α) (live : Live τ α) : Prop :=
  ∃ l : Ledger τ α, c.Reflects f l ∧ l.map Entry.made = live

namespace StandsFor

variable {f : Forest τ} {c : Catalog τ α} {live : Live τ α} {k : Key τ}

theorem empty : (Catalog.empty : Catalog τ α).StandsFor f [] := ⟨[], Reflects.empty, rfl⟩

theorem homes (h : c.StandsFor f live) : ∀ r ∈ live, r.home ∈ f.keys := by
  obtain ⟨l, hl, rfl⟩ := h
  intro r hr
  obtain ⟨e, he, rfl⟩ := List.mem_map.mp hr
  exact hl.homes e he

/-! ## Changes -/

theorem register [DecidableEq τ] (hf : f.Grown) (h : c.StandsFor f live) (hk : k ∈ f.keys)
    (d : Shared α) :
    ∃ c' ticket, c.register k d = .ok (c', ⟨ticket, k.lineage.length⟩) ∧
      c'.StandsFor f (Live.register live k d) := by
  obtain ⟨l, hl, rfl⟩ := h
  obtain ⟨c', hc', _, hreflects⟩ := hl.register hf hk d
  refine ⟨c', c.nextTicket, hc', _, hreflects, ?_⟩
  simp [Live.register]

theorem unregister_none (h : c.StandsFor f live) (hk : k ∈ f.keys) {d : Shared α}
    (hnone : ∀ r ∈ live, r.isMatch k d = false) : c.unregister? k d = none := by
  obtain ⟨l, hl, rfl⟩ := h
  exact hl.unregister_absent hk fun e he => hnone e.made (List.mem_map_of_mem he)

theorem unregister_split (hf : f.Grown) {l₁ l₂ : Live τ α} {r : Registration τ α}
    (h : c.StandsFor f (l₁ ++ r :: l₂)) (hk : k ∈ f.keys) {d : Shared α}
    (hr : r.isMatch k d = true) (hl₂ : ∀ x ∈ l₂, x.isMatch k d = false) :
    ∃ c' ticket, c.unregister? k d = some (c', ⟨ticket, r.home.lineage.length⟩) ∧
      c'.StandsFor f (l₁ ++ l₂) := by
  obtain ⟨l, hl, hlive⟩ := h
  obtain ⟨m₁, m, rfl, rfl, hm⟩ := List.map_eq_append_iff.mp hlive
  obtain ⟨e, m₂, rfl, rfl, rfl⟩ := List.map_eq_cons_iff.mp hm
  obtain ⟨c', hc', _, hreflects⟩ :=
    hl.unregister_split hf hk hr fun x hx => hl₂ x.made (List.mem_map_of_mem hx)
  exact ⟨c', e.ticket, hc', _, hreflects, List.map_append⟩

/-- A removal takes the newest match, and tells the length of its home's line. It does nothing if
there is no match. -/
theorem unregister (hf : f.Grown) (h : c.StandsFor f live) (hk : k ∈ f.keys) (d : Shared α) :
    (Live.newest? live k d = none ∧ c.unregister? k d = none ∧ Live.unregister live k d = live) ∨
    ∃ r c' ticket, Live.newest? live k d = some r ∧
      c.unregister? k d = some (c', ⟨ticket, r.home.lineage.length⟩) ∧
      c'.StandsFor f (Live.unregister live k d) := by
  rcases forall_not_or_exists_last (Registration.isMatch k d) live with
    hnone | ⟨l₁, r, l₂, rfl, hr, hl₂⟩
  · exact Or.inl ⟨Live.newest?_eq_none hnone, h.unregister_none hk hnone,
      Live.unregister_of_forall_not hnone⟩
  · obtain ⟨c', ticket, hc', hstands⟩ := h.unregister_split hf hk hr hl₂
    rw [Live.newest?_split hr hl₂, Live.unregister_split hr hl₂]
    exact Or.inr ⟨r, c', ticket, rfl, hc', hstands⟩

/-! ## Questions -/

theorem elements (h : c.StandsFor f live) :
    c.elements = (Live.elements live).map fun d => ⟨PayloadTypes.element, d⟩ := by
  obtain ⟨l, hl, rfl⟩ := h
  rw [Catalog.elements, hl.all, Live.elements, List.map_map, List.map_map, List.map_map]
  rfl

theorem bucket (h : c.StandsFor f live) (hk : k ∈ f.keys) :
    (c.bucket k.id).map Posting.handle = (Live.under live k).map k.handle := by
  obtain ⟨l, hl, rfl⟩ := h
  rw [hl.listed k hk, Live.under, List.filter_map, List.map_map, List.map_map, List.map_map]
  rfl

theorem payload (h : c.StandsFor f live) (hk : k ∈ f.keys) {p : Posting τ α}
    (hp : p ∈ c.bucket k.id) : p.handle.payload = k.payload := by
  have hmem : p.handle ∈ (c.bucket k.id).map Posting.handle := List.mem_map_of_mem hp
  rw [h.bucket hk] at hmem
  obtain ⟨d, _, hd⟩ := List.mem_map.mp hmem
  rw [← hd]
  rfl

theorem handles [DecidableEq τ] (h : c.StandsFor f live) (hk : k ∈ f.keys) :
    c.under k = (c.bucket k.id).map Posting.handle := by
  rw [Catalog.under, ← List.filterMap_eq_map]
  apply List.filterMap_congr
  intro p hp
  simp [Handle.at?, h.payload hk hp]

theorem under [DecidableEq τ] (h : c.StandsFor f live) (hk : k ∈ f.keys) :
    c.under k = (Live.under live k).map k.handle :=
  (h.handles hk).trans (h.bucket hk)

theorem contains (h : c.StandsFor f live) (hk : k ∈ f.keys) (d : Shared α) :
    c.contains k d = (Live.under live k).any (·.isSame d) := by
  have hbucket : c.contains k d =
      ((c.bucket k.id).map Posting.handle).any (·.info.isSame d) := by
    rw [List.any_map]
    rfl
  rw [hbucket, h.bucket hk, List.any_map]
  rfl

theorem size (h : c.StandsFor f live) : c.size = live.length := by
  obtain ⟨l, hl, rfl⟩ := h
  rw [Catalog.size, hl.all, List.length_map, List.length_map]

theorem isEmpty (h : c.StandsFor f live) : c.isEmpty = live.isEmpty := by
  rw [Catalog.isEmpty, h.size]
  cases live <;> rfl

/-- There is a bucket for each key that something is registered under, and no other. -/
theorem keyCount (hf : f.Grown) (h : c.StandsFor f live) :
    c.keyCount = f.keys.countP fun k => !(Live.under live k).isEmpty := by
  have hbucket : ∀ k ∈ f.keys, c.bucket k.id ≠ [] ↔ (!(Live.under live k).isEmpty) = true := by
    intro k hk
    rw [← not_iff_not, not_not, ← List.map_eq_nil_iff (f := Posting.handle), h.bucket hk]
    simp
  obtain ⟨l, hl, rfl⟩ := h
  have hperm : (c.buckets.map Bucket.key).Perm
      ((f.keys.filter fun k => !(Live.under (l.map Entry.made) k).isEmpty).map Key.id) := by
    have hnodup := hf.ids_nodup.sublist ((List.filter_sublist
      (p := fun k => !(Live.under (l.map Entry.made) k).isEmpty)).map Key.id)
    rw [List.perm_ext_iff_of_nodup hl.tidy.apart hnodup]
    intro key
    rw [hl.tidy.mem_keys_iff, ← bucket_eq]
    refine ⟨?_, ?_⟩
    · intro hne
      obtain ⟨k, hk, rfl⟩ := List.mem_map.mp (hl.known key hne)
      exact List.mem_map_of_mem (List.mem_filter.mpr ⟨hk, (hbucket k hk).mp hne⟩)
    · intro hmem
      obtain ⟨k, hk, rfl⟩ := List.mem_map.mp hmem
      obtain ⟨hk, hne⟩ := List.mem_filter.mp hk
      exact (hbucket k hk).mpr hne
  have hlength := hperm.length_eq
  rw [List.length_map, List.length_map] at hlength
  rw [Catalog.keyCount, hlength, List.countP_eq_length_filter]

/-- A catalog stands for one live list only: the home of a ticket is the lowest key that lists
it. -/
theorem unique (hf : f.Grown) {live' : Live τ α} (h : c.StandsFor f live)
    (h' : c.StandsFor f live') : live = live' := by
  obtain ⟨l, hl, rfl⟩ := h
  obtain ⟨l', hl', rfl⟩ := h'
  have hall : l.map Entry.element = l'.map Entry.element := by rw [← hl.all, hl'.all]
  have hlength : l.length = l'.length := by simpa using congrArg List.length hall
  apply List.ext_getElem (by simp [hlength])
  intro i hi hi'
  rw [List.length_map] at hi hi'
  rw [List.getElem_map, List.getElem_map]
  have hsame : l[i].element = l'[i].element := by
    have hget := List.getElem_of_eq hall (i := i) (by simpa using hi)
    rwa [List.getElem_map, List.getElem_map] at hget
  have hticket : l[i].ticket = l'[i].ticket := congrArg Posting.ticket hsame
  have hinfo : l[i].made.info = l'[i].made.info :=
    congrArg (fun p : Posting τ α => p.handle.info) hsame
  have hline : ∀ key, key ∈ l[i].made.home.lineage.map Key.id ↔
      key ∈ l'[i].made.home.lineage.map Key.id := by
    intro key
    rw [← hl.exists_posting_iff hf (List.getElem_mem hi), hticket,
      hl'.exists_posting_iff hf (List.getElem_mem hi')]
  have hhome : l[i].made.home = l'[i].made.home := by
    apply hf.eq_of_isWithin (hl.homes _ (List.getElem_mem hi)) (hl'.homes _ (List.getElem_mem hi'))
    · exact Key.isWithin_iff.mpr ((hline _).mpr (List.mem_map_of_mem (Key.self_mem_lineage _)))
    · exact Key.isWithin_iff.mpr ((hline _).mp (List.mem_map_of_mem (Key.self_mem_lineage _)))
  calc l[i].made = ⟨l[i].made.home, l[i].made.info⟩ := rfl
    _ = ⟨l'[i].made.home, l'[i].made.info⟩ := by rw [hhome, hinfo]

end StandsFor

end GrammarRegistry.Catalog
