-- The invariant of a catalog. A ledger is the live list with the ticket of each registration. A
-- catalog reflects a ledger if its element list and every one of its buckets can be read off it.
-- Each registration and each removal keeps this, for any forest, so a catalog always says the
-- same thing in all its buckets.
import GrammarRegistry.Proofs.Keys
import GrammarRegistry.Proofs.Catalog.Buckets
import GrammarRegistry.Proofs.Catalog.LiveList

namespace GrammarRegistry

variable {τ α : Type} [PayloadTypes τ]

/-- A live registration with its ticket. -/
structure Entry (τ α : Type) where
  ticket : Nat
  made : Registration τ α

/-- The live registrations with their tickets, oldest first. -/
abbrev Ledger (τ α : Type) := List (Entry τ α)

namespace Entry

/-- The posting of a registration in the bucket of a key. -/
def posting (k : Key τ) (e : Entry τ α) : Posting τ α := ⟨e.ticket, k.handle e.made.info⟩

/-- The posting of a registration in the list of all registrations. -/
def element (e : Entry τ α) : Posting τ α := ⟨e.ticket, ⟨PayloadTypes.element, e.made.info⟩⟩

end Entry

namespace Catalog

/-- The catalog is what the ledger says. Tickets grow with time and are all given out already, the
element list and each key's bucket are parts of the ledger, and there is no other bucket. -/
structure Reflects (f : Forest τ) (c : Catalog τ α) (l : Ledger τ α) : Prop where
  homes : ∀ e ∈ l, e.made.home ∈ f.keys
  ascending : l.Pairwise fun a b => a.ticket < b.ticket
  issued : ∀ e ∈ l, e.ticket < c.nextTicket
  all : c.postings = l.map Entry.element
  listed : ∀ k ∈ f.keys, c.bucket k.id = (l.filter (·.made.isUnder k)).map (Entry.posting k)
  known : ∀ key, c.bucket key ≠ [] → key ∈ f.keys.map Key.id
  tidy : Bucket.Tidy c.buckets

namespace Reflects

variable {f : Forest τ} {c : Catalog τ α} {l : Ledger τ α} {k : Key τ} {d : Shared α}

theorem empty : (Catalog.empty : Catalog τ α).Reflects f [] where
  homes := by simp
  ascending := List.Pairwise.nil
  issued := by simp
  all := rfl
  listed := fun _ _ => rfl
  known := fun _ h => absurd rfl h
  tidy := Bucket.tidy_nil

theorem tickets_nodup (h : c.Reflects f l) : (l.map Entry.ticket).Nodup := by
  rw [List.Nodup, List.pairwise_map]
  exact h.ascending.imp Nat.ne_of_lt

theorem eq_of_ticket (h : c.Reflects f l) {a b : Entry τ α} (ha : a ∈ l) (hb : b ∈ l)
    (hab : a.ticket = b.ticket) : a = b :=
  List.inj_on_of_nodup_map h.tickets_nodup ha hb hab

/-! ## A registration -/

theorem post (hf : f.Grown) (h : c.Reflects f l) (hk : k ∈ f.keys) (d : Shared α) :
    (c.post (k.lineage.map fun a => (a.id, a.handle d)) ⟨PayloadTypes.element, d⟩).Reflects f
      (l ++ [⟨c.nextTicket, ⟨k, d⟩⟩]) where
  homes := by
    intro e he
    rcases List.mem_append.mp he with he | he
    · exact h.homes e he
    · rw [List.mem_singleton.mp he]
      exact hk
  ascending := by
    rw [List.pairwise_append]
    refine ⟨h.ascending, List.pairwise_singleton _ _, ?_⟩
    intro a ha b hb
    rw [List.mem_singleton.mp hb]
    exact h.issued a ha
  issued := by
    intro e he
    rcases List.mem_append.mp he with he | he
    · exact Nat.lt_succ_of_lt (h.issued e he)
    · rw [List.mem_singleton.mp he]
      exact Nat.lt_succ_self _
  all := by
    rw [List.map_append, ← h.all]
    rfl
  listed := by
    intro o ho
    rw [bucket_eq, buckets_post, Bucket.listed_postAll, ← bucket_eq, h.listed o ho,
      List.filter_append, List.map_append, List.filter_map, List.map_map]
    congr 1
    have hline := hf.lineage_filter_id hk ho
    simp only [Function.comp_def, hline]
    by_cases hwithin : k.isWithin o = true
    · simp [hwithin, Registration.isUnder, Entry.posting]
    · simp [hwithin, Registration.isUnder]
  known := by
    intro key hne
    rw [bucket_eq, buckets_post, Bucket.listed_postAll, ← bucket_eq] at hne
    by_cases hold : c.bucket key = []
    · rw [hold, List.nil_append, ne_eq, List.map_eq_nil_iff, List.filter_eq_nil_iff] at hne
      push Not at hne
      obtain ⟨link, hlink, hkey⟩ := hne
      obtain ⟨a, ha, rfl⟩ := List.mem_map.mp hlink
      exact of_decide_eq_true hkey ▸ List.mem_map_of_mem (hf.lineage_mem hk ha)
    · exact h.known key hold
  tidy := h.tidy.postAll _ _

/-- A registration is always taken. It gets the next ticket, and goes at the end of the ledger. -/
theorem register [DecidableEq τ] (hf : f.Grown) (h : c.Reflects f l) (hk : k ∈ f.keys)
    (d : Shared α) :
    ∃ c', c.register k d = .ok (c', ⟨c.nextTicket, k.lineage.length⟩) ∧
      c'.nextTicket = c.nextTicket + 1 ∧
      c'.Reflects f (l ++ [⟨c.nextTicket, ⟨k, d⟩⟩]) := by
  refine ⟨_, ?_, ?_, h.post hf hk d⟩
  · rw [Catalog.register, Key.chain_handle]
    simp only [List.length_map]
  · rfl

/-! ## A removal -/

theorem withdraw (h : c.Reflects f l) (ticket : Nat) :
    (c.withdraw ticket).Reflects f (l.filter (·.ticket != ticket)) where
  homes := fun e he => h.homes e (List.mem_filter.mp he).1
  ascending := h.ascending.sublist List.filter_sublist
  issued := fun e he => h.issued e (List.mem_filter.mp he).1
  all := by
    rw [Catalog.withdraw, h.all, List.filter_map]
    rfl
  listed := by
    intro k hk
    rw [bucket_eq, Catalog.withdraw, h.tidy.listed_without, ← bucket_eq, h.listed k hk,
      List.filter_map, List.filter_filter, List.filter_filter]
    congr 1
    apply List.filter_congr
    intro e _
    exact Bool.and_comm _ _
  known := by
    intro key hne
    rw [bucket_eq, Catalog.withdraw, h.tidy.listed_without, ← bucket_eq] at hne
    exact h.known key (fun hnil => hne (by rw [hnil]; rfl))
  tidy := h.tidy.without ticket

/-- The newest ticket of a descriptor under a key is that of the ledger's newest match. -/
theorem newest?_eq (h : c.Reflects f l) (hk : k ∈ f.keys) (d : Shared α) :
    c.newest? k.id d = (l.filter (·.made.isMatch k d)).getLast?.map Entry.ticket := by
  rw [Catalog.newest?, h.listed k hk, List.filter_map, List.filter_filter, List.getLast?_map,
    Option.map_map]
  rfl

theorem filter_ticket (h : c.Reflects f l) {l₁ l₂ : Ledger τ α} {e : Entry τ α}
    (hl : l = l₁ ++ e :: l₂) : l.filter (·.ticket != e.ticket) = l₁ ++ l₂ := by
  have hasc := h.ascending
  rw [hl, List.pairwise_append, List.pairwise_cons] at hasc
  obtain ⟨_, ⟨hafter, _⟩, hbefore⟩ := hasc
  have h₁ : l₁.filter (·.ticket != e.ticket) = l₁ := by
    rw [List.filter_eq_self]
    intro a ha
    simpa using Nat.ne_of_lt (hbefore a ha e List.mem_cons_self)
  have h₂ : l₂.filter (·.ticket != e.ticket) = l₂ := by
    rw [List.filter_eq_self]
    intro a ha
    simpa using Nat.ne_of_gt (hafter a ha)
  rw [hl, List.filter_append, h₁, List.filter_cons_of_neg (by simp), h₂]

theorem exists_posting_iff (hf : f.Grown) (h : c.Reflects f l) {e : Entry τ α} (he : e ∈ l)
    (key : KeyId) :
    (∃ p ∈ c.bucket key, p.ticket = e.ticket) ↔ key ∈ e.made.home.lineage.map Key.id := by
  refine ⟨?_, ?_⟩
  · rintro ⟨p, hp, hticket⟩
    obtain ⟨k, hk, rfl⟩ := List.mem_map.mp (h.known key (List.ne_nil_of_mem hp))
    rw [h.listed k hk] at hp
    obtain ⟨a, ha, rfl⟩ := List.mem_map.mp hp
    obtain ⟨ha, hunder⟩ := List.mem_filter.mp ha
    rw [h.eq_of_ticket ha he hticket] at hunder
    exact Key.isWithin_iff.mp hunder
  · intro hkey
    obtain ⟨k, hk, rfl⟩ := List.mem_map.mp hkey
    rw [h.listed k (hf.lineage_mem (h.homes e he) hk)]
    refine ⟨e.posting k, List.mem_map_of_mem (List.mem_filter.mpr ⟨he, ?_⟩), rfl⟩
    exact Key.isWithin_of_mem_lineage hk

theorem spread_eq (hf : f.Grown) (h : c.Reflects f l) {e : Entry τ α} (he : e ∈ l) :
    c.spread e.ticket = e.made.home.lineage.length := by
  have hperm : ((c.buckets.filter (Bucket.holds e.ticket)).map Bucket.key).Perm
      (e.made.home.lineage.map Key.id) := by
    have hnodup := h.tidy.apart.sublist
      ((List.filter_sublist (p := Bucket.holds e.ticket)).map Bucket.key)
    rw [List.perm_ext_iff_of_nodup hnodup (hf.lineage_ids_nodup (h.homes e he))]
    intro key
    rw [h.tidy.mem_holding_iff, ← bucket_eq, h.exists_posting_iff hf he]
  have hlength := hperm.length_eq
  rw [List.length_map, List.length_map] at hlength
  rw [spread, List.countP_eq_length_filter, hlength]

theorem unregister_absent (h : c.Reflects f l) (hk : k ∈ f.keys)
    (hnone : ∀ e ∈ l, e.made.isMatch k d = false) : c.unregister? k d = none := by
  rw [Catalog.unregister?, h.newest?_eq hk, getLast?_filter_of_forall_not hnone]
  rfl

/-- A removal takes the newest match out of the ledger, and so out of all its buckets. -/
theorem unregister_split (hf : f.Grown) {l₁ l₂ : Ledger τ α} {e : Entry τ α}
    (h : c.Reflects f (l₁ ++ e :: l₂)) (hk : k ∈ f.keys) (he : e.made.isMatch k d = true)
    (hl₂ : ∀ x ∈ l₂, x.made.isMatch k d = false) :
    ∃ c', c.unregister? k d = some (c', ⟨e.ticket, e.made.home.lineage.length⟩) ∧
      c'.nextTicket = c.nextTicket ∧ c'.Reflects f (l₁ ++ l₂) := by
  have hlast : ((l₁ ++ e :: l₂).filter (·.made.isMatch k d)).getLast? = some e :=
    getLast?_filter_split he hl₂
  have hnewest : c.newest? k.id d = some e.ticket := by
    rw [h.newest?_eq hk, hlast]
    rfl
  refine ⟨c.withdraw e.ticket, ?_, rfl, ?_⟩
  · have hmem : e ∈ l₁ ++ e :: l₂ := by simp
    rw [Catalog.unregister?, hnewest, ← h.spread_eq hf hmem]
  · rw [← h.filter_ticket rfl]
    exact h.withdraw e.ticket

end Reflects

end Catalog

end GrammarRegistry
