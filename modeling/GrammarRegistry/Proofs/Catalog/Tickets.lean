-- Tickets. Each registration gets the next ticket, so the counter of a catalog is the number of
-- registrations that were ever made in it, and a ticket stands for one of them for good. A live
-- ticket is posted once among all registrations and once in each bucket on the line of the key
-- that it was given under, with the same descriptor everywhere, and in no other bucket.
import GrammarRegistry.Proofs.Catalog.Ledger

namespace GrammarRegistry.Catalog

variable {τ α : Type}

/-- A catalog in good order, where `made` are all registrations that were ever made, oldest first,
and `live` are those of them that were not removed. Tickets number the former from 0. -/
structure WellKept (c : Catalog τ α) (made : List (Registration τ α)) (live : Live τ α) :
    Prop where
  counted : c.nextTicket = made.length
  ascending : c.postings.Pairwise fun p q => p.ticket < q.ticket
  issued : ∀ p ∈ c.postings, p.ticket < c.nextTicket
  kept : c.postings.map (fun p => made[p.ticket]?) = live.map some
  apart : (c.buckets.map Bucket.key).Nodup
  filled : ∀ b ∈ c.buckets, b.postings ≠ []
  bucketsAscending : ∀ b ∈ c.buckets, b.postings.Pairwise fun p q => p.ticket < q.ticket
  placed : ∀ p ∈ c.postings, ∃ r, made[p.ticket]? = some r ∧ p.handle.info = r.info ∧
    c.postings.countP (·.ticket == p.ticket) = 1 ∧
    ∀ key, (c.bucket key).countP (·.ticket == p.ticket) =
      if key ∈ r.home.lineage.map Key.id then 1 else 0
  traced : ∀ b ∈ c.buckets, ∀ q ∈ b.postings, ∃ p ∈ c.postings,
    p.ticket = q.ticket ∧ p.handle.info = q.handle.info

variable [PayloadTypes τ] {f : Forest τ} {c : Catalog τ α} {l : Ledger τ α}

/-! ## Tickets of a ledger -/

namespace Reflects

/-- Among some of the entries, the ticket of an entry is found once if the entry is one of them,
else never. -/
theorem countP_ticket (h : c.Reflects f l) {e : Entry τ α} (he : e ∈ l) (test : Entry τ α → Bool) :
    (l.filter test).countP (·.ticket == e.ticket) = if test e then 1 else 0 := by
  have hcount : (l.filter test).countP (·.ticket == e.ticket) =
      ((l.filter test).map Entry.ticket).count e.ticket := by
    rw [List.count, List.countP_map]
    rfl
  have hnodup : ((l.filter test).map Entry.ticket).Nodup :=
    h.tickets_nodup.sublist (List.filter_sublist.map _)
  rw [hcount]
  split
  · rename_i htest
    exact List.count_eq_one_of_mem hnodup
      (List.mem_map_of_mem (List.mem_filter.mpr ⟨he, htest⟩))
  · rename_i htest
    rw [List.count_eq_zero]
    intro hmem
    obtain ⟨x, hx, hticket⟩ := List.mem_map.mp hmem
    obtain ⟨hx, hpass⟩ := List.mem_filter.mp hx
    rw [h.eq_of_ticket hx he hticket] at hpass
    exact htest hpass

theorem exists_key_of_bucket (h : c.Reflects f l) {b : Bucket τ α} (hb : b ∈ c.buckets) :
    ∃ k ∈ f.keys, b.postings = (l.filter (·.made.isUnder k)).map (Entry.posting k) := by
  have hlisted : c.bucket b.key = b.postings := h.tidy.listed_key hb
  have hne : c.bucket b.key ≠ [] := by
    rw [hlisted]
    exact h.tidy.filled b hb
  obtain ⟨k, hk, hid⟩ := List.mem_map.mp (h.known b.key hne)
  refine ⟨k, hk, ?_⟩
  rw [← hlisted, ← hid, h.listed k hk]

/-- The ticket of an entry is in the bucket of a key once if the key is on the line of the entry's
home, else never. -/
theorem countP_bucket (hf : f.Grown) (h : c.Reflects f l) {e : Entry τ α} (he : e ∈ l)
    (key : KeyId) :
    (c.bucket key).countP (·.ticket == e.ticket) =
      if key ∈ e.made.home.lineage.map Key.id then 1 else 0 := by
  by_cases hkey : key ∈ f.keys.map Key.id
  · obtain ⟨k, hk, rfl⟩ := List.mem_map.mp hkey
    have hcount := h.countP_ticket he (·.made.isUnder k)
    rw [h.listed k hk, List.countP_map]
    refine hcount.trans (if_congr ?_ rfl rfl)
    exact Key.isWithin_iff
  · have hempty : c.bucket key = [] := by
      by_contra hne
      exact hkey (h.known key hne)
    have hoff : key ∉ e.made.home.lineage.map Key.id := by
      intro hmem
      obtain ⟨a, ha, rfl⟩ := List.mem_map.mp hmem
      exact hkey (List.mem_map_of_mem (hf.lineage_mem (h.homes e he) ha))
    rw [hempty, if_neg hoff]
    rfl

end Reflects

/-! ## Tickets and the registrations that they were given to -/

/-- The ledger has each of its tickets for the registration that the ticket was given to. -/
structure Issued (f : Forest τ) (c : Catalog τ α) (made : List (Registration τ α))
    (l : Ledger τ α) : Prop where
  reflects : c.Reflects f l
  counted : c.nextTicket = made.length
  given : ∀ e ∈ l, made[e.ticket]? = some e.made

namespace Issued

variable {made : List (Registration τ α)} {k : Key τ}

theorem empty : (Catalog.empty : Catalog τ α).Issued f [] [] := ⟨Reflects.empty, rfl, by simp⟩

/-- A registration gets the number of those that were made before it. -/
theorem register [DecidableEq τ] (hf : f.Grown) (h : c.Issued f made l) (hk : k ∈ f.keys)
    (d : Shared α) :
    ∃ c', c.register k d = .ok (c', ⟨made.length, k.lineage.length⟩) ∧
      c'.Issued f (made ++ [⟨k, d⟩]) (l ++ [⟨made.length, ⟨k, d⟩⟩]) := by
  obtain ⟨c', hc', hnext, hreflects⟩ := h.reflects.register hf hk d
  rw [h.counted] at hc' hnext hreflects
  refine ⟨c', hc', hreflects, ?_, ?_⟩
  · rw [hnext, List.length_append, List.length_singleton]
  · intro e he
    rcases List.mem_append.mp he with he | he
    · have hlt : e.ticket < made.length := h.counted ▸ h.reflects.issued e he
      rw [List.getElem?_append_left hlt]
      exact h.given e he
    · rw [List.mem_singleton.mp he]
      exact List.getElem?_concat_length

/-- A removal gives no ticket, and what stays keeps its own. It takes one entry out of the ledger,
or finds none. -/
theorem unregister (hf : f.Grown) (h : c.Issued f made l) (hk : k ∈ f.keys) (d : Shared α) :
    (c.unregister? k d = none ∧
      Live.unregister (l.map Entry.made) k d = l.map Entry.made) ∨
    ∃ c' e, e ∈ l ∧ c.unregister? k d = some (c', ⟨e.ticket, e.made.home.lineage.length⟩) ∧
      c'.Issued f made (l.filter (·.ticket != e.ticket)) ∧
      (l.filter (·.ticket != e.ticket)).map Entry.made =
        Live.unregister (l.map Entry.made) k d := by
  rcases forall_not_or_exists_last (fun e : Entry τ α => e.made.isMatch k d) l with
    hnone | ⟨l₁, e, l₂, rfl, he, hl₂⟩
  · refine Or.inl ⟨h.reflects.unregister_absent hk hnone, Live.unregister_of_forall_not ?_⟩
    intro r hr
    obtain ⟨e, he, rfl⟩ := List.mem_map.mp hr
    exact hnone e he
  · obtain ⟨c', hc', hnext, hreflects⟩ := h.reflects.unregister_split hf hk he hl₂
    rw [← h.reflects.filter_ticket rfl] at hreflects
    refine Or.inr ⟨c', e, by simp, hc', ⟨hreflects, hnext.trans h.counted, ?_⟩, ?_⟩
    · intro x hx
      exact h.given x (List.mem_of_mem_filter hx)
    · rw [h.reflects.filter_ticket rfl, List.map_append, List.map_append, List.map_cons]
      refine (Live.unregister_split he ?_).symm
      intro r hr
      obtain ⟨x, hx, rfl⟩ := List.mem_map.mp hr
      exact hl₂ x hx

theorem wellKept (hf : f.Grown) (h : c.Issued f made l) :
    c.WellKept made (l.map Entry.made) where
  counted := h.counted
  ascending := by
    rw [h.reflects.all, List.pairwise_map]
    exact h.reflects.ascending
  issued := by
    rw [h.reflects.all]
    intro p hp
    obtain ⟨e, he, rfl⟩ := List.mem_map.mp hp
    exact h.reflects.issued e he
  kept := by
    rw [h.reflects.all, List.map_map, List.map_map]
    exact List.map_congr_left h.given
  apart := h.reflects.tidy.apart
  filled := h.reflects.tidy.filled
  bucketsAscending := by
    intro b hb
    obtain ⟨k, _, hpostings⟩ := h.reflects.exists_key_of_bucket hb
    rw [hpostings, List.pairwise_map]
    exact h.reflects.ascending.sublist List.filter_sublist
  placed := by
    rw [h.reflects.all]
    intro p hp
    obtain ⟨e, he, rfl⟩ := List.mem_map.mp hp
    refine ⟨e.made, h.given e he, rfl, ?_, h.reflects.countP_bucket hf he⟩
    have hcount := h.reflects.countP_ticket he fun _ => true
    rw [List.filter_true] at hcount
    rw [List.countP_map]
    exact hcount
  traced := by
    intro b hb q hq
    obtain ⟨k, _, hpostings⟩ := h.reflects.exists_key_of_bucket hb
    rw [hpostings] at hq
    obtain ⟨e, he, rfl⟩ := List.mem_map.mp hq
    rw [h.reflects.all]
    exact ⟨e.element, List.mem_map_of_mem (List.mem_of_mem_filter he), rfl, rfl⟩

end Issued

end GrammarRegistry.Catalog
