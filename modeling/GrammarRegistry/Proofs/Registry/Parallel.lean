-- Threads at one storage. Each call takes effect at once, so what threads do comes to their calls
-- in some interleaving. Equal removals take the newest matches, as many as there are calls, and
-- equal registrations pile up, whichever thread comes when. Threads that only register all get
-- what they ask for, each in its own order, in every bucket.
import GrammarRegistry.Proofs.Interleaving
import GrammarRegistry.Proofs.Registry.PlainRuns

namespace GrammarRegistry

variable {τ α : Type}

/-! ## Removing the last few members that pass a test -/

section

variable {β : Type}

/-- The list less the last `n` members that pass a test: a member goes if it passes and fewer than
`n` that pass stand behind it. -/
def eraseLasts (test : β → Bool) (n : Nat) : List β → List β
  | [] => []
  | x :: l =>
    if test x = true ∧ l.countP test < n then eraseLasts test n l else x :: eraseLasts test n l

variable {test : β → Bool} {l : List β}

theorem eraseLast_cons (x : β) : eraseLast test (x :: l) =
    if test x = true ∧ l.countP test = 0 then l else x :: eraseLast test l := by
  rcases forall_not_or_exists_last test l with hnone | ⟨l₁, y, l₂, rfl, hy, hl₂⟩
  · have hcount : l.countP test = 0 := by simpa using hnone
    rw [eraseLast_of_forall_not hnone]
    by_cases hx : test x = true
    · have hfirst : eraseLast test ([] ++ x :: l) = [] ++ l := eraseLast_split hx hnone
      rw [if_pos ⟨hx, hcount⟩]
      exact hfirst
    · rw [if_neg fun h => hx h.1, eraseLast_of_forall_not]
      simpa [hx] using hnone
  · have hcount : ¬ (l₁ ++ y :: l₂).countP test = 0 := by simp [hy]
    have hlater : eraseLast test ((x :: l₁) ++ y :: l₂) = (x :: l₁) ++ l₂ := eraseLast_split hy hl₂
    rw [if_neg fun h => hcount h.2, eraseLast_split hy hl₂]
    exact hlater

theorem eraseLasts_zero : eraseLasts test 0 l = l := by
  induction l with
  | nil => rfl
  | cons x l ih => rw [eraseLasts, if_neg fun h => Nat.not_lt_zero _ h.2, ih]

theorem countP_eraseLasts (n : Nat) : (eraseLasts test n l).countP test = l.countP test - n := by
  induction l with
  | nil => simp [eraseLasts]
  | cons x l ih =>
    rw [eraseLasts, List.countP_cons]
    by_cases hx : test x = true
    · by_cases hfew : l.countP test < n
      · rw [if_pos ⟨hx, hfew⟩, if_pos hx, ih]
        omega
      · rw [if_neg fun h => hfew h.2, List.countP_cons, if_pos hx, ih]
        omega
    · rw [if_neg fun h => hx h.1, List.countP_cons, if_neg hx, ih]
      omega

theorem eraseLasts_succ (n : Nat) :
    eraseLasts test (n + 1) l = eraseLast test (eraseLasts test n l) := by
  induction l with
  | nil => rfl
  | cons x l ih =>
    have hleft : (eraseLasts test n l).countP test = l.countP test - n := countP_eraseLasts n
    by_cases hx : test x = true
    · rcases Nat.lt_trichotomy (l.countP test) n with hfew | hjust | hmany
      · rw [eraseLasts, eraseLasts, if_pos ⟨hx, by omega⟩, if_pos ⟨hx, hfew⟩, ih]
      · have hgone : (eraseLasts test n l).countP test = 0 := by omega
        have hnone : eraseLast test (eraseLasts test n l) = eraseLasts test n l :=
          eraseLast_of_forall_not (by simpa using hgone)
        rw [eraseLasts, eraseLasts, if_pos ⟨hx, by omega⟩, if_neg (by omega), eraseLast_cons,
          if_pos ⟨hx, by omega⟩, ih, hnone]
      · rw [eraseLasts, eraseLasts, if_neg (by omega), if_neg (by omega), eraseLast_cons,
          if_neg (by omega), ih]
    · rw [eraseLasts, eraseLasts, if_neg fun h => hx h.1, if_neg fun h => hx h.1, eraseLast_cons,
        if_neg fun h => hx h.1, ih]

theorem eraseLasts_min (n : Nat) :
    eraseLasts test (min n (l.countP test)) l = eraseLasts test n l := by
  rcases Nat.le_total n (l.countP test) with hle | hge
  · rw [Nat.min_eq_left hle]
  · rw [Nat.min_eq_right hge]
    have hgone : (eraseLasts test (l.countP test) l).countP test = 0 := by
      rw [countP_eraseLasts, Nat.sub_self]
    obtain ⟨more, rfl⟩ := Nat.exists_eq_add_of_le hge
    induction more with
    | zero => rfl
    | succ more ih =>
      rw [← Nat.add_assoc, eraseLasts_succ, ← ih (by omega), eraseLast_of_forall_not]
      simpa using hgone

theorem length_eraseLasts (n : Nat) :
    (eraseLasts test n l).length + min n (l.countP test) = l.length := by
  induction l with
  | nil => simp [eraseLasts]
  | cons x l ih =>
    rw [eraseLasts, List.countP_cons, List.length_cons]
    by_cases hx : test x = true
    · by_cases hfew : l.countP test < n
      · rw [if_pos ⟨hx, hfew⟩, if_pos hx]
        omega
      · rw [if_neg fun h => hfew h.2, if_pos hx, List.length_cons]
        omega
    · rw [if_neg fun h => hx h.1, if_neg hx, List.length_cons]
      omega

end

/-! ## Calls in a row -/

/-- The request for the registration. -/
def Registration.request (r : Registration τ α) : Request τ α := ⟨.register, r.home, r.info⟩

namespace Live

theorem foldl_unregister (live : Live τ α) (k : Key τ) (d : Shared α) (n : Nat) :
    (List.replicate n ⟨.unregister, k, d⟩).foldl apply live =
      eraseLasts (·.isMatch k d) n live := by
  induction n with
  | zero => exact eraseLasts_zero.symm
  | succ n ih =>
    rw [List.replicate_succ', List.foldl_append, ih, eraseLasts_succ]
    rfl

theorem foldl_register (live : Live τ α) (rs : List (Registration τ α)) :
    (rs.map Registration.request).foldl apply live = live ++ rs := by
  induction rs generalizing live with
  | nil => exact (List.append_nil live).symm
  | cons r rs ih =>
    rw [List.map_cons, List.foldl_cons, ih]
    exact List.append_assoc live [r] rs

end Live

variable [DecidableEq τ] [PayloadTypes τ] {f : Forest τ} {h : Holdings τ α} {s : Storage}
  {live : Live τ α}

/-- One caller that makes the same request a number of times makes a run of it. -/
theorem Registry.repeated_plain (hf : f.Grown) (hs : (h.catalog s).StandsFor f live) {k : Key τ}
    (hk : k ∈ f.keys) (op : Mutation) (d : Shared α) (n : Nat) :
    let o := (plain s).repeated op k d n h
    o.result = .ok () ∧
      o.holdings = h.after ((List.replicate n ⟨op, k, d⟩).map (Step.ask (.plain s))) := by
  induction n generalizing h live with
  | zero => exact ⟨rfl, rfl⟩
  | succ n ih =>
    have hq : (⟨op, k, d⟩ : Request τ α).key ∈ f.keys := hk
    obtain ⟨hok, hnext⟩ := Step.ask_plain hf hs hq
    rw [Step.run] at hok hnext
    obtain ⟨hrest, hend⟩ := ih hnext
    simp only [repeated, hok]
    exact ⟨hrest, hend⟩

/-! ## What threads leave -/

/-- The storage takes all the requests, one after another, and is left with the live list. -/
structure Storage.Leaves (f : Forest τ) (s : Storage) (h : Holdings τ α)
    (qs : List (Request τ α)) (live : Live τ α) : Prop where
  taken : ∀ o ∈ h.outcomes (qs.map (Step.ask (.plain s))), o.result = .ok ()
  standsFor : ((h.after (qs.map (Step.ask (.plain s)))).catalog s).StandsFor f live

/-- Threads that only register add to what the registry lists: all that they register, each in its
own order, and under each key what is visible there. -/
structure Registry.Gains (f : Forest τ) (r : Registry) (h h' : Holdings τ α)
    (threads : List (List (Registration τ α))) : Prop where
  elements : ∃ new, r.elements h' = r.elements h ++ new ∧
    Interleaving (threads.map fun t => t.map fun x => ⟨PayloadTypes.element, x.info⟩) new
  under : ∀ k ∈ f.keys, ∃ new, r.under h' k = r.under h k ++ new ∧
    Interleaving (threads.map fun t => (t.filter (·.isUnder k)).map fun x => k.handle x.info) new

namespace Storage

theorem leaves_of_requests (hf : f.Grown) (hs : (h.catalog s).StandsFor f live)
    {qs : List (Request τ α)} (hqs : ∀ q ∈ qs, q.key ∈ f.keys) :
    s.Leaves f h qs (qs.foldl Live.apply live) := by
  obtain ⟨htaken, hend⟩ := Registry.run_plain hf qs hqs hs
  exact ⟨htaken, hend⟩

variable {k : Key τ} {n : Nat}

theorem leaves_unregister (hf : f.Grown) (hs : (h.catalog s).StandsFor f live) (hk : k ∈ f.keys)
    (d : Shared α) (n : Nat) :
    s.Leaves f h (List.replicate n ⟨.unregister, k, d⟩)
      (eraseLasts (·.isMatch k d) (min n (live.countP (·.isMatch k d))) live) := by
  rw [eraseLasts_min, ← Live.foldl_unregister]
  exact leaves_of_requests hf hs fun q hq => List.eq_of_mem_replicate hq ▸ hk

theorem leaves_register (hf : f.Grown) (hs : (h.catalog s).StandsFor f live)
    {made : List (Registration τ α)} (hmade : ∀ r ∈ made, r.home ∈ f.keys) :
    s.Leaves f h (made.map Registration.request) (live ++ made) := by
  rw [← Live.foldl_register]
  refine leaves_of_requests hf hs fun q hq => ?_
  obtain ⟨r, hr, rfl⟩ := List.mem_map.mp hq
  exact hmade r hr

/-- What is registered in some order of the threads' calls goes behind what was listed before. -/
theorem gains (hf : f.Grown) {h' : Holdings τ α} {threads : List (List (Registration τ α))}
    {made : List (Registration τ α)} (hs : (h.catalog s).StandsFor f live)
    (hs' : (h'.catalog s).StandsFor f (live ++ made)) (hmade : Interleaving threads made) :
    (Registry.plain s).Gains f h h' threads where
  elements := by
    refine ⟨made.map fun x => ⟨PayloadTypes.element, x.info⟩, ?_, hmade.map _⟩
    rw [(hs.shows hf).elements, (hs'.shows hf).elements, Live.elements, Live.elements,
      List.map_map, List.map_map, List.map_append]
    rfl
  under := by
    intro k hk
    refine ⟨(made.filter (·.isUnder k)).map fun x => k.handle x.info, ?_, ?_⟩
    · rw [(hs.shows hf).under k hk, (hs'.shows hf).under k hk, Live.under, Live.under,
        List.map_map, List.map_map, List.filter_append, List.map_append]
      rfl
    · have hparts := (hmade.filter (·.isUnder k)).map fun x => k.handle x.info
      rw [List.map_map] at hparts
      exact hparts

/-- What is listed under a key does not depend on the order of the registrations, but for its own
order. -/
theorem under_perm (hf : f.Grown) {h₁ h₂ : Holdings τ α} {made₁ made₂ : List (Registration τ α)}
    (hs₁ : (h₁.catalog s).StandsFor f (live ++ made₁))
    (hs₂ : (h₂.catalog s).StandsFor f (live ++ made₂)) (hmade : made₁.Perm made₂)
    (hk : k ∈ f.keys) :
    ((Registry.plain s).under h₁ k).Perm ((Registry.plain s).under h₂ k) := by
  rw [(hs₁.shows hf).under k hk, (hs₂.shows hf).under k hk, Live.under, Live.under]
  exact (((hmade.append_left live).filter _).map _).map _

/-- Whatever was done to a storage before, `n` threads that each call `m` times, in whatever order
their calls come in, are served like one caller with `n * m` calls. If they all remove one
descriptor under one key, its newest matches go, `n * m` of them or all that there are. If they all
register it, it is appended `n * m` times. And if they register whatever they like, everything is
appended once, each thread's own in its own order, among all elements and under each key; under no
key does the order of the calls change what is listed, but for its order. -/
theorem reachable_interleaved (hf : f.Grown) (hh : h.Reachable f) (s : Storage) :
    let left (qs : List (Request τ α)) := h.after (qs.map (Step.ask (.plain s)))
    ∃ live : Live τ α, (h.catalog s).StandsFor f live ∧
      (∀ k ∈ f.keys, ∀ (d : Shared α) (n m : Nat) (qs : List (Request τ α)),
        Interleaving (List.replicate n (List.replicate m ⟨.unregister, k, d⟩)) qs →
          let gone := min (n * m) (live.countP (·.isMatch k d))
          s.Leaves f h qs (eraseLasts (·.isMatch k d) gone live) ∧
            ((left qs).catalog s).size + gone = (h.catalog s).size ∧
            left qs = ((Registry.plain s).repeated .unregister k d (n * m) h).holdings) ∧
      (∀ k ∈ f.keys, ∀ (d : Shared α) (n m : Nat) (qs : List (Request τ α)),
        Interleaving (List.replicate n (List.replicate m ⟨.register, k, d⟩)) qs →
          s.Leaves f h qs (live ++ List.replicate (n * m) ⟨k, d⟩) ∧
            left qs = ((Registry.plain s).repeated .register k d (n * m) h).holdings) ∧
      ∀ threads : List (List (Registration τ α)), (∀ t ∈ threads, ∀ r ∈ t, r.home ∈ f.keys) →
        ∀ made, Interleaving threads made →
          let qs := made.map Registration.request
          made.Perm threads.flatten ∧ s.Leaves f h qs (live ++ made) ∧
            (Registry.plain s).Gains f h (left qs) threads ∧
            ∀ other, Interleaving threads other → ∀ k ∈ f.keys,
              ((Registry.plain s).under (left qs) k).Perm
                ((Registry.plain s).under (left (other.map Registration.request)) k) := by
  intro left
  obtain ⟨L, hL⟩ := hh.standFor hf
  have hs : (h.catalog s).StandsFor f (L s.id) := hL s.id
  refine ⟨L s.id, hs, ?_, ?_, ?_⟩
  · intro k hk d n m qs hqs gone
    rw [hqs.eq_replicate]
    have hleaves := leaves_unregister hf hs hk d (n * m)
    refine ⟨hleaves, ?_, ?_⟩
    · have hlength : (eraseLasts (·.isMatch k d) gone (L s.id)).length +
          min gone ((L s.id).countP (·.isMatch k d)) = (L s.id).length := length_eraseLasts gone
      rw [Nat.min_eq_left (Nat.min_le_right _ _)] at hlength
      rw [hleaves.standsFor.size, hs.size]
      exact hlength
    · exact (Registry.repeated_plain hf hs hk .unregister d (n * m)).2.symm
  · intro k hk d n m qs hqs
    rw [hqs.eq_replicate]
    have hkeys : ∀ r ∈ List.replicate (n * m) (⟨k, d⟩ : Registration τ α), r.home ∈ f.keys :=
      fun r hr => List.eq_of_mem_replicate hr ▸ hk
    have hleaves := leaves_register hf hs hkeys
    rw [List.map_replicate] at hleaves
    exact ⟨hleaves, (Registry.repeated_plain hf hs hk .register d (n * m)).2.symm⟩
  · intro threads hthreads made hmade qs
    have hall : ∀ order, Interleaving threads order →
        s.Leaves f h (order.map Registration.request) (L s.id ++ order) := by
      intro order horder
      refine leaves_register hf hs fun r hr => ?_
      obtain ⟨t, ht, hr⟩ := List.mem_flatten.mp (horder.perm.subset hr)
      exact hthreads t ht r hr
    refine ⟨hmade.perm, hall made hmade, gains hf hs (hall made hmade).standsFor hmade, ?_⟩
    intro other hother k hk
    exact under_perm hf (hall made hmade).standsFor (hall other hother).standsFor
      (hmade.perm.trans hother.perm.symm) hk

/-- Two threads want four removals through the statements, and there are two matches, made under
two keys. Two other threads register three descriptors, the second thread in between. -/
theorem reachable_interleaved_base :
    let a : Shared String := ⟨0, "a"⟩
    let b : Shared String := ⟨1, "b"⟩
    let s : Storage := ⟨0, "base"⟩
    let made : List (Registration Payload String) :=
      [⟨BaseKeys.effects, a⟩, ⟨BaseKeys.statements, b⟩, ⟨BaseKeys.conditions, a⟩,
        ⟨BaseKeys.sections, a⟩]
    let h : Holdings Payload String :=
      Holdings.empty.after ((made.map Registration.request).map (Step.ask (.plain s)))
    let removal : Request Payload String := ⟨.unregister, BaseKeys.statements, a⟩
    let threads : List (List (Registration Payload String)) :=
      [[⟨BaseKeys.effects, b⟩, ⟨BaseKeys.sections, b⟩], [⟨BaseKeys.conditions, a⟩]]
    let order : List (Registration Payload String) :=
      [⟨BaseKeys.effects, b⟩, ⟨BaseKeys.conditions, a⟩, ⟨BaseKeys.sections, b⟩]
    BaseKeys.forest.Grown ∧ h.Reachable BaseKeys.forest ∧
      BaseKeys.statements ∈ BaseKeys.forest.keys ∧
      Interleaving (List.replicate 2 (List.replicate 2 removal)) (List.replicate 4 removal) ∧
      s.Leaves BaseKeys.forest h (List.replicate 4 removal)
        [⟨BaseKeys.statements, b⟩, ⟨BaseKeys.sections, a⟩] ∧
      (∀ t ∈ threads, ∀ r ∈ t, r.home ∈ BaseKeys.forest.keys) ∧ Interleaving threads order ∧
      s.Leaves BaseKeys.forest h (order.map Registration.request) (made ++ order) := by
  intro a b s made h removal threads order
  have hmade : ∀ r ∈ made, r.home ∈ BaseKeys.forest.keys := by simp [made, BaseKeys.forest]
  have hreached : h.Reachable BaseKeys.forest := by
    refine ⟨_, ?_, rfl⟩
    simp [made, Registration.request, Step.Within, BaseKeys.forest]
  have hstatements : BaseKeys.statements ∈ BaseKeys.forest.keys := by simp [BaseKeys.forest]
  have hthreads : ∀ t ∈ threads, ∀ r ∈ t, r.home ∈ BaseKeys.forest.keys := by
    simp [threads, BaseKeys.forest]
  have hremovals : Interleaving (List.replicate 2 (List.replicate 2 removal))
      (List.replicate 4 removal) := Interleaving.flatten _
  have horder : Interleaving threads order :=
    @Interleaving.step _ [] _ _ _ _ (@Interleaving.step _ [_] _ _ _ _
      (@Interleaving.step _ [] _ _ _ _ (.done (by simp))))
  obtain ⟨live, hlive, hremoved, _, hadded⟩ :=
    reachable_interleaved BaseKeys.forest_grown hreached s
  have hstart : (Holdings.empty.catalog s : Catalog Payload String).StandsFor BaseKeys.forest [] :=
    Catalog.StandsFor.empty
  have hsame : live = made := hlive.unique BaseKeys.forest_grown
    (leaves_register BaseKeys.forest_grown hstart hmade).standsFor
  subst hsame
  exact ⟨BaseKeys.forest_grown, hreached, hstatements, hremovals,
    (hremoved _ hstatements a 2 2 _ hremovals).1, hthreads, horder,
    (hadded threads hthreads order horder).2.1⟩

end Storage

end GrammarRegistry
