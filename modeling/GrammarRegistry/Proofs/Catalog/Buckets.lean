-- The laws of bucket lists. A tidy list has one bucket for each key at most, and none that is
-- empty. Then a ticket that is posted or taken out changes what each key lists in one way only,
-- and the keys with a bucket are those that list something.
import GrammarRegistry.Catalog.Basic
import Mathlib.Data.List.Nodup

namespace GrammarRegistry

variable {τ α : Type}

namespace Bucket

/-- What a list of buckets lists for a key. -/
def listed (key : KeyId) (bs : List (Bucket τ α)) : List (Posting τ α) :=
  match bs.find? (·.key == key) with
  | some b => b.postings
  | none => []

@[simp] theorem listed_nil (key : KeyId) : listed key ([] : List (Bucket τ α)) = [] := rfl

theorem listed_cons (key : KeyId) (b : Bucket τ α) (bs : List (Bucket τ α)) :
    listed key (b :: bs) = if b.key = key then b.postings else listed key bs := by
  unfold listed
  by_cases h : b.key = key
  · simp [h]
  · simp [h]

theorem listed_of_notMem {key : KeyId} {bs : List (Bucket τ α)} (h : key ∉ bs.map Bucket.key) :
    listed key bs = [] := by
  induction bs with
  | nil => rfl
  | cons b bs ih =>
    rw [List.map_cons, List.mem_cons, not_or] at h
    rw [listed_cons, if_neg (fun hb => h.1 hb.symm), ih h.2]

/-- One bucket for each key at most, and something in each of them. -/
structure Tidy (bs : List (Bucket τ α)) : Prop where
  apart : (bs.map Bucket.key).Nodup
  filled : ∀ b ∈ bs, b.postings ≠ []

theorem tidy_nil : Tidy ([] : List (Bucket τ α)) := ⟨List.nodup_nil, by simp⟩

namespace Tidy

variable {bs : List (Bucket τ α)}

theorem tail {b : Bucket τ α} (h : Tidy (b :: bs)) : Tidy bs :=
  ⟨(List.nodup_cons.mp h.apart).2, fun x hx => h.filled x (List.mem_cons_of_mem b hx)⟩

theorem listed_key (h : Tidy bs) {b : Bucket τ α} (hb : b ∈ bs) :
    listed b.key bs = b.postings := by
  induction bs with
  | nil => simp at hb
  | cons c bs ih =>
    rw [listed_cons]
    rcases List.mem_cons.mp hb with rfl | hb
    · rw [if_pos rfl]
    · have hne : c.key ≠ b.key := fun he =>
        (List.nodup_cons.mp h.apart).1 (he ▸ List.mem_map_of_mem hb)
      rw [if_neg hne, ih h.tail hb]

/-- The keys with a bucket are those that list something. -/
theorem mem_keys_iff (h : Tidy bs) {key : KeyId} :
    key ∈ bs.map Bucket.key ↔ listed key bs ≠ [] := by
  refine ⟨?_, ?_⟩
  · intro hmem
    obtain ⟨b, hb, rfl⟩ := List.mem_map.mp hmem
    rw [h.listed_key hb]
    exact h.filled b hb
  · intro hne
    by_contra hnot
    exact hne (listed_of_notMem hnot)

/-- The keys whose bucket holds a ticket are those that list it. -/
theorem mem_holding_iff (h : Tidy bs) {ticket : Nat} {key : KeyId} :
    key ∈ (bs.filter (holds ticket)).map Bucket.key ↔
      ∃ p ∈ listed key bs, p.ticket = ticket := by
  refine ⟨?_, ?_⟩
  · intro hmem
    obtain ⟨b, hb, rfl⟩ := List.mem_map.mp hmem
    obtain ⟨hb, hholds⟩ := List.mem_filter.mp hb
    rw [h.listed_key hb]
    simpa [holds] using hholds
  · rintro ⟨p, hp, hticket⟩
    obtain ⟨b, hb, rfl⟩ := List.mem_map.mp (h.mem_keys_iff.mpr (List.ne_nil_of_mem hp))
    rw [h.listed_key hb] at hp
    refine List.mem_map_of_mem (List.mem_filter.mpr ⟨hb, ?_⟩)
    exact List.any_eq_true.mpr ⟨p, hp, by simp [hticket]⟩

end Tidy

/-! ## Posting -/

theorem listed_post (key other : KeyId) (p : Posting τ α) (bs : List (Bucket τ α)) :
    listed other (post key p bs) = listed other bs ++ (if key = other then [p] else []) := by
  induction bs with
  | nil =>
    by_cases h : key = other
    · simp [post, listed_cons, h]
    · simp [post, listed_cons, h]
  | cons b bs ih =>
    unfold post
    by_cases hb : b.key = key
    · subst hb
      rw [if_pos rfl, listed_cons, listed_cons]
      by_cases ho : b.key = other
      · simp [ho]
      · simp [ho]
    · rw [if_neg hb, listed_cons, listed_cons, ih]
      by_cases ho : b.key = other
      · subst ho
        simp [Ne.symm hb]
      · simp [ho]

theorem keys_post (key : KeyId) (p : Posting τ α) (bs : List (Bucket τ α)) :
    (post key p bs).map Bucket.key =
      if key ∈ bs.map Bucket.key then bs.map Bucket.key else bs.map Bucket.key ++ [key] := by
  induction bs with
  | nil => simp [post]
  | cons b bs ih =>
    unfold post
    by_cases hb : b.key = key
    · simp [hb]
    · rw [if_neg hb, List.map_cons, ih]
      by_cases hmem : key ∈ bs.map Bucket.key
      · simp [hmem]
      · simp [hmem, Ne.symm hb]

theorem mem_post {key : KeyId} {p : Posting τ α} {bs : List (Bucket τ α)} {b : Bucket τ α}
    (h : b ∈ post key p bs) : b ∈ bs ∨ b.postings ≠ [] := by
  induction bs with
  | nil =>
    simp only [post, List.mem_singleton] at h
    subst h
    simp
  | cons c bs ih =>
    unfold post at h
    split at h
    · rcases List.mem_cons.mp h with rfl | h
      · simp
      · exact Or.inl (List.mem_cons_of_mem c h)
    · rcases List.mem_cons.mp h with rfl | h
      · simp
      · exact (ih h).imp_left (List.mem_cons_of_mem c)

theorem Tidy.post {bs : List (Bucket τ α)} (h : Tidy bs) (key : KeyId) (p : Posting τ α) :
    Tidy (Bucket.post key p bs) := by
  refine ⟨?_, ?_⟩
  · rw [keys_post]
    split
    · exact h.apart
    · rename_i hnot
      simpa using h.apart.concat hnot
  · intro b hb
    rcases mem_post hb with hb | hb
    · exact h.filled b hb
    · exact hb

/-- Posts a ticket along a chain. -/
def postAll (ticket : Nat) (chain : List (KeyId × Handle τ α)) (bs : List (Bucket τ α)) :
    List (Bucket τ α) :=
  chain.foldl (fun bs link => post link.1 ⟨ticket, link.2⟩ bs) bs

theorem listed_postAll (ticket : Nat) (chain : List (KeyId × Handle τ α)) (key : KeyId)
    (bs : List (Bucket τ α)) :
    listed key (postAll ticket chain bs) = listed key bs ++
      (chain.filter (·.1 = key)).map fun link => ⟨ticket, link.2⟩ := by
  induction chain generalizing bs with
  | nil => simp [postAll]
  | cons link chain ih =>
    rw [postAll, List.foldl_cons, ← postAll, ih, listed_post, List.append_assoc]
    by_cases h : link.1 = key
    · simp [h]
    · simp [h]

theorem Tidy.postAll {bs : List (Bucket τ α)} (h : Tidy bs) (ticket : Nat)
    (chain : List (KeyId × Handle τ α)) : Tidy (Bucket.postAll ticket chain bs) := by
  induction chain generalizing bs with
  | nil => exact h
  | cons link chain ih => exact ih (h.post link.1 ⟨ticket, link.2⟩)

/-! ## Taking a ticket out -/

theorem without?_eq_some {ticket : Nat} {b b' : Bucket τ α} (h : without? ticket b = some b') :
    b'.key = b.key ∧ b'.postings = b.postings.filter (·.ticket != ticket) ∧ b'.postings ≠ [] := by
  unfold without? at h
  dsimp only at h
  split at h
  · cases h
  · rename_i hne
    cases h
    exact ⟨rfl, rfl, fun he => hne (List.isEmpty_iff.mpr he)⟩

theorem without?_eq_none {ticket : Nat} {b : Bucket τ α} (h : without? ticket b = none) :
    b.postings.filter (·.ticket != ticket) = [] := by
  unfold without? at h
  dsimp only at h
  split at h
  · rename_i hempty
    exact List.isEmpty_iff.mp hempty
  · cases h

theorem keys_without_sublist (ticket : Nat) (bs : List (Bucket τ α)) :
    ((bs.filterMap (without? ticket)).map Bucket.key).Sublist (bs.map Bucket.key) := by
  induction bs with
  | nil => exact List.Sublist.refl _
  | cons b bs ih =>
    rw [List.filterMap_cons]
    split
    · exact ih.cons b.key
    · rename_i b' hb
      rw [List.map_cons, List.map_cons, (without?_eq_some hb).1]
      exact ih.cons_cons b.key

theorem Tidy.without {bs : List (Bucket τ α)} (h : Tidy bs) (ticket : Nat) :
    Tidy (bs.filterMap (without? ticket)) := by
  refine ⟨?_, ?_⟩
  · exact h.apart.sublist (keys_without_sublist ticket bs)
  · intro b' hb'
    obtain ⟨b, _, hb⟩ := List.mem_filterMap.mp hb'
    exact (without?_eq_some hb).2.2

theorem Tidy.listed_without {bs : List (Bucket τ α)} (h : Tidy bs) (ticket : Nat) (key : KeyId) :
    listed key (bs.filterMap (without? ticket)) =
      (listed key bs).filter (·.ticket != ticket) := by
  induction bs with
  | nil => rfl
  | cons b bs ih =>
    rw [List.filterMap_cons, listed_cons]
    by_cases hkey : b.key = key
    · rw [if_pos hkey]
      split
      · rename_i hb
        -- the bucket is gone, and no other bucket has its key
        have hnot : key ∉ bs.map Bucket.key := hkey ▸ (List.nodup_cons.mp h.apart).1
        rw [ih h.tail, listed_of_notMem hnot, without?_eq_none hb]
        rfl
      · rename_i b' hb
        rw [listed_cons, (without?_eq_some hb).1, if_pos hkey, (without?_eq_some hb).2.1]
    · rw [if_neg hkey]
      split
      · exact ih h.tail
      · rename_i b' hb
        rw [listed_cons, (without?_eq_some hb).1, if_neg hkey, ih h.tail]

end Bucket

/-! ## The buckets of a catalog -/

namespace Catalog

theorem bucket_eq (c : Catalog τ α) (key : KeyId) : c.bucket key = Bucket.listed key c.buckets :=
  rfl

theorem buckets_post (c : Catalog τ α) (chain : List (KeyId × Handle τ α)) (e : Handle τ α) :
    (c.post chain e).buckets = Bucket.postAll c.nextTicket chain c.buckets := rfl

end Catalog

end GrammarRegistry
