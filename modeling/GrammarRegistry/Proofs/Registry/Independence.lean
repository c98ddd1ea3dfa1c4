-- Independence. A removal finds its registration by descriptor, and within one tree of keys. So
-- what is registered of some descriptors in some trees goes its own way: requests for other
-- descriptors, or in other trees, never change which registration a removal takes. Once a part of
-- the registrations is gone, the registry is as if that part had never been asked for.
import GrammarRegistry.Proofs.Registry.PlainRuns

namespace GrammarRegistry

variable {τ α : Type}

/-! ## Trees of keys -/

namespace Key

/-- The root of the tree that the key stands in. -/
def top : Key τ → Key τ
  | root i n payload => root i n payload
  | child _ _ _ p => p.top

theorem top_eq_of_mem_lineage {k a : Key τ} (h : a ∈ k.lineage) : a.top = k.top := by
  induction k with
  | root i n payload =>
    rw [List.mem_singleton.mp h]
  | child i n payload p ih =>
    rw [lineage_child, List.mem_cons] at h
    rcases h with rfl | h
    · rfl
    · exact ih h

end Key

variable [PayloadTypes τ] {f : Forest τ} {k : Key τ} {d : Shared α}

theorem Forest.Grown.top_eq_of_isWithin (hf : f.Grown) {o : Key τ} (hk : k ∈ f.keys)
    (ho : o ∈ f.keys) (h : k.isWithin o = true) : o.top = k.top :=
  Key.top_eq_of_mem_lineage ((hf.isWithin_iff_mem hk ho).mp h)

/-! ## Scopes -/

/-- A part of all that can be registered: which descriptors count, by identity, in which trees of
keys, by their roots. -/
abbrev Scope (τ : Type) := Nat → Key τ → Bool

namespace Scope

/-- Some descriptors in some trees. -/
def of (infos : Nat → Bool) (roots : Key τ → Bool) : Scope τ := fun i a => infos i && roots a

/-- All that is out of the scope. -/
def rest (x : Scope τ) : Scope τ := fun i a => !x i a

end Scope

/-- The request is for a descriptor and in a tree of the scope. -/
def Request.isIn (x : Scope τ) (q : Request τ α) : Bool := x q.info.id q.key.top

/-- The registration is of a descriptor and in a tree of the scope. -/
def Registration.isIn (x : Scope τ) (r : Registration τ α) : Bool := x r.info.id r.home.top

theorem Registration.isIn_eq_of_isMatch (hf : f.Grown) {r : Registration τ α}
    (hr : r.home ∈ f.keys) (hk : k ∈ f.keys) (h : r.isMatch k d = true) (x : Scope τ) :
    r.isIn x = x d.id k.top := by
  rw [isMatch, Bool.and_eq_true] at h
  have hid : r.info.id = d.id := beq_iff_eq.mp h.1
  rw [isIn, hid, hf.top_eq_of_isWithin hr hk h.2]

namespace Live

variable {l : Live τ α} {q : Request τ α}

omit [PayloadTypes τ] in
theorem homes_apply (hl : ∀ r ∈ l, r.home ∈ f.keys) (hq : q.key ∈ f.keys) :
    ∀ r ∈ l.apply q, r.home ∈ f.keys := by
  obtain ⟨op, k, d⟩ := q
  cases op with
  | register =>
    intro r hr
    rcases List.mem_append.mp hr with hr | hr
    · exact hl r hr
    · rw [List.mem_singleton.mp hr]
      exact hq
  | unregister =>
    intro r hr
    have hmem : r ∈ l.reverse := List.mem_of_mem_eraseP (List.mem_reverse.mp hr)
    exact hl r (List.mem_reverse.mp hmem)

/-- A request in the scope does to the scope's part of the list what it does to the whole list.
Any other request leaves that part alone. -/
theorem filter_apply (hf : f.Grown) (x : Scope τ) (hl : ∀ r ∈ l, r.home ∈ f.keys)
    (hq : q.key ∈ f.keys) :
    (l.apply q).filter (·.isIn x) =
      if q.isIn x then apply (l.filter (·.isIn x)) q else l.filter (·.isIn x) := by
  obtain ⟨op, k, d⟩ := q
  cases op with
  | register =>
    have hnew : (⟨k, d⟩ : Registration τ α).isIn x = Request.isIn x ⟨.register, k, d⟩ := rfl
    rw [apply, apply, Live.register, Live.register, List.filter_append]
    by_cases hx : Request.isIn x ⟨.register, k, d⟩ = true
    · rw [if_pos hx, List.filter_cons_of_pos (hnew.trans hx), List.filter_nil]
    · rw [if_neg hx, List.filter_cons_of_neg (hnew ▸ hx), List.filter_nil, List.append_nil]
  | unregister =>
    have htaken : ∀ r ∈ l, r.isMatch k d = true →
        r.isIn x = Request.isIn x ⟨.unregister, k, d⟩ := fun r hr hmatch =>
      Registration.isIn_eq_of_isMatch hf (hl r hr) hq hmatch x
    by_cases hx : Request.isIn x ⟨.unregister, k, d⟩ = true
    · rw [if_pos hx]
      exact filter_eraseLast_of_imp fun r hr hmatch => (htaken r hr hmatch).trans hx
    · rw [if_neg hx]
      exact filter_eraseLast_of_not fun r hr hmatch => by simpa [htaken r hr hmatch] using hx

/-- The scope's part of what a run leaves is what the run's requests in the scope leave. -/
theorem filter_foldl (hf : f.Grown) (x : Scope τ) {qs : List (Request τ α)}
    (hqs : ∀ q ∈ qs, q.key ∈ f.keys) (hl : ∀ r ∈ l, r.home ∈ f.keys) :
    (qs.foldl apply l).filter (·.isIn x) =
      (qs.filter (·.isIn x)).foldl apply (l.filter (·.isIn x)) := by
  induction qs generalizing l with
  | nil => rfl
  | cons q rest ih =>
    have hq : q.key ∈ f.keys := hqs q (by simp)
    rw [List.foldl_cons, ih (fun t ht => hqs t (by simp [ht])) (homes_apply hl hq),
      filter_apply hf x hl hq]
    by_cases hx : q.isIn x = true
    · rw [if_pos hx, List.filter_cons_of_pos hx, List.foldl_cons]
    · rw [if_neg hx, List.filter_cons_of_neg hx]

theorem filter_ofRequests (hf : f.Grown) (x : Scope τ) {qs : List (Request τ α)}
    (hqs : ∀ q ∈ qs, q.key ∈ f.keys) :
    (ofRequests qs).filter (·.isIn x) = ofRequests (qs.filter (·.isIn x)) :=
  filter_foldl hf x hqs (by simp)

/-- What is listed of some descriptors under a key comes from the key's tree alone. -/
theorem under_filter (hf : f.Grown) {infos : Nat → Bool} {roots : Key τ → Bool}
    (hl : ∀ r ∈ l, r.home ∈ f.keys) (hk : k ∈ f.keys) (hroot : roots k.top = true) :
    (under l k).filter (fun d => infos d.id) =
      under (l.filter (·.isIn (.of infos roots))) k := by
  rw [under, under, List.filter_map, List.filter_filter, List.filter_filter]
  congr 1
  apply List.filter_congr
  intro r hr
  by_cases hunder : r.isUnder k = true
  · have htop : k.top = r.home.top := hf.top_eq_of_isWithin (hl r hr) hk hunder
    simp [Registration.isIn, Scope.of, ← htop, hroot, hunder]
  · simp [hunder]

end Live

/-! ## A registry that is opened empty -/

namespace Registry

variable [DecidableEq τ]

/-- After any run, the live registrations of some descriptors in some trees are what the requests
for these descriptors in these trees leave, made alone. What is listed of the descriptors under a
key of the trees depends on no other requests. Once none of these registrations is left, the
registry answers, now and after any further requests, as if none of these requests had been made. -/
theorem openPlain_run_scoped (hf : f.Grown) (h : Holdings τ α) (label : String)
    (infos : Nat → Bool) (roots : Key τ → Bool) (qs : List (Request τ α))
    (hqs : ∀ q ∈ qs, q.key ∈ f.keys) :
    let opened := openPlain h label
    let left (rs : List (Request τ α)) := opened.2.2.after (rs.map (Step.ask opened.2.1))
    let x : Scope τ := .of infos roots
    let live := Live.ofRequests qs
    ((left qs).catalog opened.1).StandsFor f live ∧
    ((left (qs.filter (·.isIn x))).catalog opened.1).StandsFor f (live.filter (·.isIn x)) ∧
    (∀ rs : List (Request τ α), (∀ q ∈ rs, q.key ∈ f.keys) →
      rs.filter (·.isIn x) = qs.filter (·.isIn x) → ∀ k ∈ f.keys, roots k.top = true →
        (opened.2.1.under (left rs) k).filter (fun y => infos y.info.id) =
          (opened.2.1.under (left qs) k).filter fun y => infos y.info.id) ∧
    ((∀ r ∈ live, r.isIn x = false) →
      ∀ more : List (Request τ α), (∀ q ∈ more, q.key ∈ f.keys) →
        ∃ shown, opened.1.Shows f (left (qs ++ more)) shown ∧
          opened.1.Shows f (left (qs.filter (·.isIn x.rest) ++ more)) shown) := by
  intro opened left x live
  have hstands : ∀ rs : List (Request τ α), (∀ q ∈ rs, q.key ∈ f.keys) →
      ((left rs).catalog opened.1).StandsFor f (Live.ofRequests rs) :=
    openPlain_run_standsFor hf h label
  have hpart : ∀ y : Scope τ, ∀ q ∈ qs.filter (·.isIn y), q.key ∈ f.keys := fun y q hq =>
    hqs q (List.mem_of_mem_filter hq)
  refine ⟨hstands qs hqs, ?_, ?_, ?_⟩
  · rw [Live.filter_ofRequests hf x hqs]
    exact hstands _ (hpart x)
  · intro rs hrs hsame k hk hroot
    -- both sides come down to the scope's part of the requests
    have hlisted : ∀ ts : List (Request τ α), (∀ q ∈ ts, q.key ∈ f.keys) →
        (opened.2.1.under (left ts) k).filter (fun y => infos y.info.id) =
          (Live.under (Live.ofRequests (ts.filter (·.isIn x))) k).map k.handle := by
      intro ts hts
      have hunder : opened.2.1.under (left ts) k =
          (Live.under (Live.ofRequests ts) k).map k.handle := (hstands ts hts).under hk
      rw [hunder, List.filter_map, ← Live.filter_ofRequests hf x hts,
        ← Live.under_filter hf (hstands ts hts).homes hk hroot]
      rfl
    rw [hlisted rs hrs, hlisted qs hqs, hsame]
  · intro hgone more hmore
    have hrest : live = Live.ofRequests (qs.filter (·.isIn x.rest)) := by
      rw [← Live.filter_ofRequests hf x.rest hqs, eq_comm, List.filter_eq_self]
      intro r hr
      have hout := hgone r hr
      simp only [Registration.isIn] at hout
      simp [Registration.isIn, Scope.rest, hout]
    have hmade : ∀ rs : List (Request τ α), (∀ q ∈ rs, q.key ∈ f.keys) →
        Live.ofRequests rs = live →
        opened.1.Shows f (left (rs ++ more)) (more.foldl Live.apply live) := by
      intro rs hrs hlive
      have hkeys : ∀ q ∈ rs ++ more, q.key ∈ f.keys := fun q hq =>
        (List.mem_append.mp hq).elim (hrs q) (hmore q)
      have hend := (hstands _ hkeys).shows hf
      rwa [Live.ofRequests, List.foldl_append, ← Live.ofRequests, hlive] at hend
    exact ⟨_, hmade qs hqs rfl, hmade _ (hpart x.rest) hrest.symm⟩

/-- Two modules register under the statements, and the first one under the sections too. The
removal through the statements takes the first module's condition, not the second one's newer
effect, and the second module leaves nothing behind. -/
theorem openPlain_run_scoped_modules :
    let opened := openPlain (τ := Payload) (α := String) .empty "base"
    let left (rs : List (Request Payload String)) :=
      opened.2.2.after (rs.map (Step.ask opened.2.1))
    let a : Shared String := ⟨0, "a"⟩
    let b : Shared String := ⟨1, "b"⟩
    let qs : List (Request Payload String) :=
      [⟨.register, BaseKeys.effects, a⟩, ⟨.register, BaseKeys.sections, a⟩,
        ⟨.register, BaseKeys.conditions, a⟩, ⟨.register, BaseKeys.effects, b⟩,
        ⟨.unregister, BaseKeys.statements, a⟩, ⟨.unregister, BaseKeys.statements, b⟩]
    let alone : List (Request Payload String) :=
      [⟨.register, BaseKeys.effects, a⟩, ⟨.register, BaseKeys.conditions, a⟩,
        ⟨.unregister, BaseKeys.statements, a⟩]
    let more : List (Request Payload String) := [⟨.register, BaseKeys.conditions, b⟩]
    let second : Scope Payload := .of (· == 1) fun _ => true
    BaseKeys.forest.Grown ∧ (∀ q ∈ qs ++ alone ++ more, q.key ∈ BaseKeys.forest.keys) ∧
      (∀ r ∈ Live.ofRequests qs, r.isIn second = false) ∧
      (opened.2.1.under (left alone) BaseKeys.statements).filter (fun y => y.info.id == 0) =
        (opened.2.1.under (left qs) BaseKeys.statements).filter (fun y => y.info.id == 0) ∧
      ((opened.2.1.under (left qs) BaseKeys.effects).map (·.info.id)) = [0] ∧
      ∃ shown, opened.1.Shows BaseKeys.forest (left (qs ++ more)) shown ∧
        opened.1.Shows BaseKeys.forest (left (qs.filter (·.isIn second.rest) ++ more)) shown := by
  intro opened left a b qs alone more second
  have hkeys : ∀ q ∈ qs ++ alone ++ more, q.key ∈ BaseKeys.forest.keys := by
    simp [qs, alone, more, BaseKeys.forest]
  have hqs : ∀ q ∈ qs, q.key ∈ BaseKeys.forest.keys := fun q hq => hkeys q (by simp [hq])
  have hgone : ∀ r ∈ Live.ofRequests qs, r.isIn second = false := by decide
  obtain ⟨_, _, hsame, _⟩ := openPlain_run_scoped BaseKeys.forest_grown .empty "base" (· == 0)
    (·.isSame BaseKeys.statements) qs hqs
  obtain ⟨_, _, _, hnever⟩ := openPlain_run_scoped BaseKeys.forest_grown .empty "base" (· == 1)
    (fun _ => true) qs hqs
  have hlisted := hsame alone (fun q hq => hkeys q (by simp [hq])) rfl BaseKeys.statements
    (by simp [BaseKeys.forest]) rfl
  exact ⟨BaseKeys.forest_grown, hkeys, hgone, hlisted, by decide,
    hnever hgone more fun q hq => hkeys q (by simp [hq])⟩

end Registry

end GrammarRegistry
