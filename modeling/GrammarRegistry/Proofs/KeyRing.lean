-- Handles on keys, through any sequence of calls that make keys and pass handles on. Handles are on
-- one key exactly if they stem from one making of a key, and a child key's handle remembers the
-- first key above its own. From each key there is one way up. It falls in ids, so it ends, and both
-- the walk over the ancestors and the chain of a registration keep to it.
import GrammarRegistry.Key.KeyHandle
import GrammarRegistry.Proofs.Keys
import Mathlib.Logic.Relation

namespace GrammarRegistry

variable {τ : Type}

/-! ## Parents by id -/

namespace Forest

/-- The forest has a key with the first id whose parent has the second. -/
def Binds (f : Forest τ) (i j : KeyId) : Prop :=
  ∃ k ∈ f.keys, k.id = i ∧ k.parent?.map Key.id = some j

variable [PayloadTypes τ] {f : Forest τ} {k : Key τ} {i j : KeyId}

namespace Grown

theorem binds_falls (hf : f.Grown) (h : f.Binds i j) : j.value < i.value := by
  obtain ⟨k, hk, rfl, hparent⟩ := h
  obtain ⟨p, hp, rfl⟩ := Option.map_eq_some_iff.mp hparent
  exact hf.ancestors_older k hk p (Key.mem_ancestors_of_parent? hp)

/-- There is no endless way up, whatever the ids one starts at. -/
theorem binds_wellFounded (hf : f.Grown) : WellFounded fun j i => f.Binds i j :=
  Subrelation.wf (fun h => hf.binds_falls h) (measure KeyId.value).wf

theorem binds_iff (hf : f.Grown) (hk : k ∈ f.keys) :
    f.Binds k.id j ↔ ∃ p, k.parent? = some p ∧ j = p.id := by
  refine ⟨?_, ?_⟩
  · rintro ⟨o, ho, hid, hparent⟩
    rw [hf.eq_of_id_eq ho hk hid] at hparent
    obtain ⟨p, hp, rfl⟩ := Option.map_eq_some_iff.mp hparent
    exact ⟨p, hp, rfl⟩
  · rintro ⟨p, hp, rfl⟩
    exact ⟨k, hk, rfl, by rw [hp, Option.map_some]⟩

theorem parent?_mem (hf : f.Grown) (hk : k ∈ f.keys) {p : Key τ} (hp : k.parent? = some p) :
    p ∈ f.keys :=
  hf.ancestors_mem k hk p (Key.mem_ancestors_of_parent? hp)

/-- Steps from parent to parent lead to the ancestors of a key and nowhere else. -/
theorem transGen_binds_iff (hf : f.Grown) (hk : k ∈ f.keys) :
    Relation.TransGen f.Binds k.id j ↔ j ∈ k.ancestors.map Key.id := by
  refine ⟨?_, ?_⟩
  -- On the steps, first one first: behind it the parent stands in for the key.
  · intro h
    generalize hid : k.id = i at h
    induction h using Relation.TransGen.head_induction_on generalizing k with
    | single hstep =>
      obtain ⟨p, hp, rfl⟩ := (hf.binds_iff hk).mp (hid ▸ hstep)
      exact Key.mem_ancestors_ids.mpr ⟨p, hp, Or.inl rfl⟩
    | head hstep _ ih =>
      obtain ⟨p, hp, rfl⟩ := (hf.binds_iff hk).mp (hid ▸ hstep)
      exact Key.mem_ancestors_ids.mpr ⟨p, hp, Or.inr (ih (hf.parent?_mem hk hp) rfl)⟩
  · intro h
    induction k with
    | root i n payload => cases h
    | child i n payload p ih =>
      have hstep : f.Binds i p.id := (hf.binds_iff hk).mpr ⟨p, rfl, rfl⟩
      rcases List.mem_cons.mp h with rfl | h
      · exact Relation.TransGen.single hstep
      · exact Relation.TransGen.head hstep (ih (hf.parent?_mem hk rfl) h)

end Grown

end Forest

/-! ## The way up from a key -/

/-- The two ways up from a key, one ancestor at a time and as the chain of a handle, keep to one
line. It stays in the forest and falls in ids, so that it is over after as many steps as the key's
id says, and it holds what the parent has above it, with the parent first. -/
structure Key.WalksUp [DecidableEq τ] (f : Forest τ) (k : Key τ) : Prop where
  inside : ∀ a ∈ k.ancestors, a ∈ f.keys
  older : ∀ a ∈ k.ancestors, a.id.value < k.id.value
  falls : k.ancestors.Pairwise fun a b => b.id.value < a.id.value
  apart : (k.id :: k.ancestors.map id).Nodup
  walk : ∀ n, visit k.parent? n = k.ancestors[n]?
  ends : ∀ n, k.id.value ≤ n → visit k.parent? n = none
  chain : ∀ {α : Type} (h : Handle τ α),
    (∃ links, k.chain h = .ok links ∧ links.map Prod.fst = k.id :: k.ancestors.map id) ∨
      ∃ p, k.parent? = some p ∧ h.payload ≠ k.payload ∧
        k.chain h = .error (.payloadMismatch k.name p.name)
  above : ∀ i, i ∈ k.ancestors.map id ↔
    ∃ p, k.parent? = some p ∧ (i = p.id ∨ i ∈ p.ancestors.map id)
  reached : ∀ i, i ∈ k.ancestors.map id ↔ Relation.TransGen f.Binds k.id i
  related : ∀ a ∈ k.ancestors, ∀ b ∈ k.ancestors, a = b ∨ a ∈ b.ancestors ∨ b ∈ a.ancestors

theorem Forest.Grown.walksUp [DecidableEq τ] [PayloadTypes τ] {f : Forest τ} {k : Key τ}
    (hf : f.Grown) (hk : k ∈ f.keys) : k.WalksUp f where
  inside := hf.ancestors_mem k hk
  older := hf.ancestors_older k hk
  falls := (List.pairwise_cons.mp (hf.lineage_falls hk)).2
  apart := hf.lineage_ids_nodup hk
  walk := k.visit_parent?
  ends := by
    intro n hn
    rw [k.visit_parent?]
    exact List.getElem?_eq_none (Nat.le_trans (hf.length_ancestors_le hk) hn)
  chain := k.chain_cases
  above := fun _ => Key.mem_ancestors_ids
  reached := fun _ => (hf.transGen_binds_iff hk).symm
  related := fun _ ha _ hb => Key.mem_ancestors_total ha hb

/-! ## Handles -/

namespace KeyHandle

variable {h : KeyHandle τ}

@[simp] theorem copy_eq (h : KeyHandle τ) : h.copy = h := by cases h <;> rfl

@[simp] theorem key_toPlain (h : KeyHandle τ) : h.toPlain.key = h.key := rfl

@[simp] theorem parent?_toPlain (h : KeyHandle τ) : h.toPlain.parent? = none := rfl

theorem exists_parent?_of_isChild (hc : h.isChild = true) : ∃ p, h.parent? = some p := by
  cases h with
  | plain k => cases hc
  | child k p => exact ⟨p, rfl⟩

end KeyHandle

/-- A handle that was given out. `origin` is the place of the handle that was given when the key
was made, and `under?` that of the handle which stood for the parent then. -/
structure HeldKey (τ : Type) where
  handle : KeyHandle τ
  origin : Nat
  under? : Option Nat

/-- The keys that were made, and all handles that were given out on them, oldest first. A handle
that its holder has used up stays listed: nothing more is asked of it. -/
structure KeyRing (τ : Type) where
  forest : Forest τ
  held : List (HeldKey τ)

/-- A call that makes a key or passes a handle on. It takes handles by their places. -/
inductive KeyCall (τ : Type) where
  | root (name : String) (payload : τ)
  | child (parent : Nat) (name : String) (payload : τ)
  | copy (source : Nat)
  | toPlain (source : Nat)

namespace KeyRing

def empty : KeyRing τ := ⟨.empty, []⟩

/-- A key was made, under the handle at a place or under none. -/
def gain (r : KeyRing τ) (made : KeyHandle τ × Forest τ) (under? : Option Nat) : KeyRing τ :=
  ⟨made.2, r.held ++ [⟨made.1, r.held.length, under?⟩]⟩

/-- One more handle on the key of the handle at a place. -/
def pass (r : KeyRing τ) (via : KeyHandle τ → KeyHandle τ) (source : Nat) : KeyRing τ :=
  { r with held :=
      r.held ++ (r.held[source]?.map fun x => { x with handle := via x.handle }).toList }

variable [PayloadTypes τ]

/-- A call that cannot be made, for want of a handle or because the payload types do not fit,
leaves things as they are. -/
def call (r : KeyRing τ) : KeyCall τ → KeyRing τ
  | .root name payload => r.gain (r.forest.openRoot name payload) none
  | .child parent name payload =>
    match r.held[parent]?.bind fun x => r.forest.openChild? x.handle.key name payload with
    | some made => r.gain made (some parent)
    | none => r
  | .copy source => r.pass KeyHandle.copy source
  | .toPlain source => r.pass KeyHandle.toPlain source

def run (r : KeyRing τ) (calls : List (KeyCall τ)) : KeyRing τ := calls.foldl call r

end KeyRing

/-! ## What a call gives -/

namespace Forest

variable [PayloadTypes τ] {parent : Key τ} {payload : τ}

theorem openChild?_of_fits (f : Forest τ) (name : String)
    (h : PayloadTypes.fits payload parent.payload = true) :
    f.openChild? parent name payload =
      some (.child (.child f.nextId name payload parent) parent,
        f.add (.child f.nextId name payload parent)) := by
  rw [openChild?, child?, if_pos h]
  rfl

theorem openChild?_of_not_fits (f : Forest τ) (name : String)
    (h : PayloadTypes.fits payload parent.payload = false) :
    f.openChild? parent name payload = none := by
  rw [openChild?, child?, h]
  rfl

end Forest

/-- The handle was given when a key was made, at a place and under the handle at another, if any. -/
structure HeldKey.ComesWith (x : HeldKey τ) (place : Nat) (under? : Option Nat) (name : String)
    (payload : τ) : Prop where
  origin : x.origin = place
  under : x.under? = under?
  name : x.handle.key.name = name
  payload : x.handle.key.payload = payload
  kind : x.handle.isChild = under?.isSome

namespace KeyCall

/-- The handle that the call takes was given out, and the payload type fits the parent's. -/
def Possible [PayloadTypes τ] (r : KeyRing τ) : KeyCall τ → Prop
  | root .. => True
  | child parent _ payload => ∃ x, r.held[parent]? = some x ∧
      PayloadTypes.fits payload x.handle.key.payload = true
  | copy source => source < r.held.length
  | toPlain source => source < r.held.length

/-- The handle is what the call gives: one that comes with a new key, or one more on an old key. -/
def Gives (r : KeyRing τ) (x : HeldKey τ) : KeyCall τ → Prop
  | root name payload => x.ComesWith r.held.length none name payload
  | child parent name payload => x.ComesWith r.held.length (some parent) name payload
  | copy source => r.held[source]? = some x
  | toPlain source => ∃ y, r.held[source]? = some y ∧ x = { y with handle := .plain y.handle.key }

end KeyCall

namespace KeyRing

variable (r : KeyRing τ)

theorem pass_eq_self {via : KeyHandle τ → KeyHandle τ} {source : Nat}
    (h : ¬ source < r.held.length) : r.pass via source = r := by
  rw [pass, List.getElem?_eq_none (Nat.le_of_not_lt h)]
  simp

theorem held_pass {via : KeyHandle τ → KeyHandle τ} {source : Nat} {x : HeldKey τ}
    (h : r.held[source]? = some x) :
    (r.pass via source).held = r.held ++ [{ x with handle := via x.handle }] := by
  rw [pass, h]
  rfl

variable [PayloadTypes τ]

/-- Every call that can be made gives one handle more, and no other call does anything. -/
theorem call_gives (c : KeyCall τ) :
    (c.Possible r ∧ ∃ x, c.Gives r x ∧ (r.call c).held = r.held ++ [x]) ∨
      (¬ c.Possible r ∧ r.call c = r) := by
  cases c with
  | root name payload => exact Or.inl ⟨trivial, _, ⟨rfl, rfl, rfl, rfl, rfl⟩, rfl⟩
  | child parent name payload =>
    cases hparent : r.held[parent]? with
    | none => exact Or.inr ⟨by simp [KeyCall.Possible, hparent], by rw [call, hparent]; rfl⟩
    | some x =>
      cases hfits : PayloadTypes.fits payload x.handle.key.payload with
      | true =>
        have hopened := r.forest.openChild?_of_fits name hfits
        refine Or.inl ⟨⟨x, hparent, hfits⟩,
          ⟨.child (.child r.forest.nextId name payload x.handle.key) x.handle.key, r.held.length,
            some parent⟩, ⟨rfl, rfl, rfl, rfl, rfl⟩, ?_⟩
        rw [call, hparent, Option.bind_some, hopened]
        rfl
      | false =>
        have hclosed := r.forest.openChild?_of_not_fits name hfits
        refine Or.inr ⟨by simp [KeyCall.Possible, hparent, hfits], ?_⟩
        rw [call, hparent, Option.bind_some, hclosed]
  | copy source =>
    by_cases h : source < r.held.length
    · have hheld : r.held[source]? = some r.held[source] := List.getElem?_eq_getElem h
      refine Or.inl ⟨h, _, hheld, ?_⟩
      rw [call, r.held_pass hheld, KeyHandle.copy_eq]
    · exact Or.inr ⟨h, r.pass_eq_self h⟩
  | toPlain source =>
    by_cases h : source < r.held.length
    · have hheld : r.held[source]? = some r.held[source] := List.getElem?_eq_getElem h
      exact Or.inl ⟨h, _, ⟨_, hheld, rfl⟩, r.held_pass hheld⟩
    · exact Or.inr ⟨h, r.pass_eq_self h⟩

end KeyRing

/-! ## What every call keeps -/

/-- What a listed handle is on, where `births` has each key with its origin. -/
structure HeldKey.Traced (held : List (HeldKey τ)) (births : List (Nat × Key τ))
    (x : HeldKey τ) : Prop where
  born : (x.origin, x.handle.key) ∈ births
  original : ∃ y, held[x.origin]? = some y ∧ y.origin = x.origin
  bound : ∀ i, x.under? = some i →
    ∃ y, held[i]? = some y ∧ x.handle.key.parent? = some y.handle.key
  free : x.under? = none → x.handle.key.parent? = none
  remembered : ∀ p, x.handle.parent? = some p → x.handle.key.parent? = some p

namespace HeldKey.Traced

variable {held : List (HeldKey τ)} {births : List (Nat × Key τ)} {x : HeldKey τ}

theorem append (hx : x.Traced held births) (more : List (HeldKey τ)) (later : List (Nat × Key τ)) :
    x.Traced (held ++ more) (births ++ later) := by
  have hstays : ∀ {i y}, held[i]? = some y → (held ++ more)[i]? = some y := fun h => by
    rwa [List.getElem?_append_left (List.getElem?_eq_some_iff.mp h).1]
  refine ⟨List.mem_append_left _ hx.born, ?_, ?_, hx.free, hx.remembered⟩
  · obtain ⟨y, hy, horigin⟩ := hx.original
    exact ⟨y, hstays hy, horigin⟩
  · intro i hi
    obtain ⟨y, hy, hparent⟩ := hx.bound i hi
    exact ⟨y, hstays hy, hparent⟩

theorem pass (hx : x.Traced held births) {h : KeyHandle τ} (hkey : h.key = x.handle.key)
    (hparent : ∀ p, h.parent? = some p → x.handle.parent? = some p) :
    HeldKey.Traced held births { x with handle := h } where
  born := by simpa only [hkey] using hx.born
  original := hx.original
  bound := by simpa only [hkey] using hx.bound
  free := by simpa only [hkey] using hx.free
  remembered := fun p hp => by simpa only [hkey] using hx.remembered p (hparent p hp)

end HeldKey.Traced

namespace KeyRing

variable [PayloadTypes τ] {r : KeyRing τ} {births : List (Nat × Key τ)}

/-- The keys are those of `births`, each with an origin of its own, and each handle is traced. -/
structure Traced (r : KeyRing τ) (births : List (Nat × Key τ)) : Prop where
  grown : r.forest.Grown
  keys : births.map Prod.snd = r.forest.keys
  apart : (births.map Prod.fst).Nodup
  past : ∀ b ∈ births, b.1 < r.held.length
  held : ∀ x ∈ r.held, x.Traced r.held births

namespace Traced

theorem empty : (KeyRing.empty : KeyRing τ).Traced [] :=
  ⟨.empty, rfl, List.nodup_nil, by simp, by simp [KeyRing.empty]⟩

theorem key_mem (hr : r.Traced births) {x : HeldKey τ} (hx : x ∈ r.held) :
    x.handle.key ∈ r.forest.keys := by
  rw [← hr.keys]
  exact List.mem_map_of_mem (hr.held x hx).born

theorem gain (hr : r.Traced births) {made : KeyHandle τ × Forest τ} {under? : Option Nat}
    (hgrown : made.2.Grown) (hadded : made.2 = r.forest.add made.1.key)
    (hbound : ∀ i, under? = some i →
      ∃ y, r.held[i]? = some y ∧ made.1.key.parent? = some y.handle.key)
    (hfree : under? = none → made.1.key.parent? = none)
    (hremembered : ∀ p, made.1.parent? = some p → made.1.key.parent? = some p) :
    (r.gain made under?).Traced (births ++ [(r.held.length, made.1.key)]) where
  grown := hgrown
  keys := by
    rw [List.map_append, hr.keys, KeyRing.gain, hadded]
    rfl
  apart := by
    rw [List.map_append, List.map_singleton, List.nodup_append]
    refine ⟨hr.apart, List.nodup_singleton _, ?_⟩
    intro i hi j hj
    obtain ⟨b, hb, rfl⟩ := List.mem_map.mp hi
    rw [List.mem_singleton.mp hj]
    exact Nat.ne_of_lt (hr.past b hb)
  past := by
    intro b hb
    rw [KeyRing.gain, List.length_append, List.length_singleton]
    rcases List.mem_append.mp hb with hb | hb
    · exact Nat.lt_succ_of_lt (hr.past b hb)
    · rw [List.mem_singleton.mp hb]
      exact Nat.lt_succ_self _
  held := by
    intro x hx
    rcases List.mem_append.mp hx with hx | hx
    · exact (hr.held x hx).append _ _
    · rw [List.mem_singleton.mp hx]
      refine ⟨by simp, ⟨_, List.getElem?_concat_length, rfl⟩, ?_, hfree, hremembered⟩
      intro i hi
      obtain ⟨y, hy, hparent⟩ := hbound i hi
      refine ⟨y, ?_, hparent⟩
      rw [KeyRing.gain, List.getElem?_append_left (List.getElem?_eq_some_iff.mp hy).1]
      exact hy

theorem pass (hr : r.Traced births) {via : KeyHandle τ → KeyHandle τ}
    (hkey : ∀ h, (via h).key = h.key)
    (hparent : ∀ h p, (via h).parent? = some p → h.parent? = some p) (source : Nat) :
    (r.pass via source).Traced births where
  grown := hr.grown
  keys := hr.keys
  apart := hr.apart
  past := by
    intro b hb
    rw [KeyRing.pass, List.length_append]
    exact Nat.lt_add_right _ (hr.past b hb)
  held := by
    intro x hx
    -- No key was made, so nothing comes after `births`.
    rw [← List.append_nil births]
    rcases List.mem_append.mp hx with hx | hx
    · exact (hr.held x hx).append _ _
    · obtain ⟨y, hy, rfl⟩ := Option.map_eq_some_iff.mp (Option.mem_toList.mp hx)
      exact ((hr.held y (List.mem_of_getElem? hy)).pass (hkey _) (hparent _)).append _ _

/-- Every call keeps the handles traced, and adds to `births` at most the key that it makes. -/
theorem call (hr : r.Traced births) (c : KeyCall τ) :
    ∃ later, (r.call c).Traced (births ++ later) := by
  cases c with
  | root name payload =>
    have hplain : (r.forest.openRoot name payload).1.parent? = none := rfl
    exact ⟨_, hr.gain (hr.grown.root name payload) rfl (by simp) (fun _ => rfl) (by simp [hplain])⟩
  | child parent name payload =>
    rw [KeyRing.call]
    cases hmade : r.held[parent]?.bind fun x => r.forest.openChild? x.handle.key name payload with
    | none => exact ⟨[], by rwa [List.append_nil]⟩
    | some made =>
      obtain ⟨x, hx, hopened⟩ := Option.bind_eq_some_iff.mp hmade
      obtain ⟨child, hchild, rfl⟩ := Option.map_eq_some_iff.mp hopened
      have hmem : x.handle.key ∈ r.forest.keys := hr.key_mem (List.mem_of_getElem? hx)
      have hgrown : child.2.Grown := hr.grown.child hmem hchild
      obtain ⟨_, rfl⟩ := Forest.child?_eq_some hchild
      refine ⟨_, hr.gain hgrown rfl ?_ (by simp) (fun p hp => hp)⟩
      intro i hi
      cases hi
      exact ⟨x, hx, rfl⟩
  | copy source =>
    refine ⟨[], ?_⟩
    rw [List.append_nil]
    exact hr.pass (by simp) (by simp) source
  | toPlain source =>
    refine ⟨[], ?_⟩
    rw [List.append_nil]
    exact hr.pass (by simp) (by simp) source

theorem run (hr : r.Traced births) (calls : List (KeyCall τ)) :
    ∃ later, (r.run calls).Traced (births ++ later) := by
  induction calls generalizing r births with
  | nil => exact ⟨[], by rwa [List.append_nil]⟩
  | cons c rest ih =>
    obtain ⟨made, hnext⟩ := hr.call c
    obtain ⟨later, hend⟩ := ih hnext
    exact ⟨made ++ later, by rwa [← List.append_assoc]⟩

theorem origin_eq_iff (hr : r.Traced births) {x y : HeldKey τ} (hx : x ∈ r.held)
    (hy : y ∈ r.held) : x.origin = y.origin ↔ x.handle.key = y.handle.key := by
  have hxborn := (hr.held x hx).born
  have hyborn := (hr.held y hy).born
  refine ⟨?_, ?_⟩
  · intro h
    exact congrArg Prod.snd (List.inj_on_of_nodup_map hr.apart hxborn hyborn h)
  · intro h
    have hkeys : (births.map Prod.snd).Nodup := hr.keys ▸ hr.grown.ids_nodup.of_map
    exact congrArg Prod.fst (List.inj_on_of_nodup_map hkeys hxborn hyborn h)

end Traced

/-! ## Any sequence of calls -/

/-- The keys are numbered from 0, also as words of 64 bits as long as these last. There is no
endless way up, and each key walks up as it should. Handles that stem from one making of a key
share the id and the whole key, and no others share an id. The key of each handle has above it the
key that it was made under, then what that one has above it. A child key's handle remembers the
key that comes first on the way up. -/
structure Sound [DecidableEq τ] (r : KeyRing τ) : Prop where
  numbered : r.forest.keys.map (fun k => k.id.value) = List.range r.forest.keys.length
  words : r.forest.keys.length ≤ UInt64.size →
    ∀ k ∈ r.forest.keys, (UInt64.ofNat k.id.value).toNat = k.id.value
  wellFounded : WellFounded fun j i => r.forest.Binds i j
  walks : ∀ k ∈ r.forest.keys, k.WalksUp r.forest
  inside : ∀ x ∈ r.held, x.handle.key ∈ r.forest.keys
  original : ∀ x ∈ r.held,
    ∃ y, r.held[x.origin]? = some y ∧ y.origin = x.origin ∧ y.handle.key = x.handle.key
  shared : ∀ x ∈ r.held, ∀ y ∈ r.held, x.origin = y.origin → x.handle.key = y.handle.key
  apart : ∀ x ∈ r.held, ∀ y ∈ r.held, x.handle.key.id = y.handle.key.id → x.origin = y.origin
  bound : ∀ x ∈ r.held, ∀ i, x.under? = some i →
    ∃ y, r.held[i]? = some y ∧
      x.handle.key.ancestors = y.handle.key :: y.handle.key.ancestors
  free : ∀ x ∈ r.held, x.under? = none → x.handle.key.ancestors = []
  remembered : ∀ x ∈ r.held, x.handle.isChild = true →
    ∃ p, x.handle.parent? = some p ∧ x.handle.key.ancestors.head? = some p

theorem Traced.sound [DecidableEq τ] (hr : r.Traced births) : r.Sound := by
  have hf : r.forest.Grown := hr.grown
  refine ⟨?_, ?_, hf.binds_wellFounded, fun k hk => hf.walksUp hk, fun x hx => hr.key_mem hx, ?_,
    fun x hx y hy => (hr.origin_eq_iff hx hy).mp, ?_, ?_, ?_, ?_⟩
  · simpa [Function.comp_def] using congrArg (List.map KeyId.value) hf.ids_eq
  · intro hfew k hk
    exact UInt64.toNat_ofNat_of_lt' (Nat.lt_of_lt_of_le (hf.id_lt hk) hfew)
  · intro x hx
    obtain ⟨y, hy, horigin⟩ := (hr.held x hx).original
    exact ⟨y, hy, horigin, (hr.origin_eq_iff (List.mem_of_getElem? hy) hx).mp horigin⟩
  · intro x hx y hy hid
    exact (hr.origin_eq_iff hx hy).mpr (hf.eq_of_id_eq (hr.key_mem hx) (hr.key_mem hy) hid)
  · intro x hx i hi
    obtain ⟨y, hy, hparent⟩ := (hr.held x hx).bound i hi
    refine ⟨y, hy, ?_⟩
    rw [Key.ancestors_eq, hparent]
    rfl
  · intro x hx hunder
    rw [Key.ancestors_eq, (hr.held x hx).free hunder]
    rfl
  · intro x hx hchild
    obtain ⟨p, hp⟩ := KeyHandle.exists_parent?_of_isChild hchild
    exact ⟨p, hp, by rw [Key.head?_ancestors, (hr.held x hx).remembered p hp]⟩

/-- Whatever calls are made, in whatever order, keys and handles are sound, and the next call that
can be made is answered. -/
theorem run_sound [DecidableEq τ] (calls : List (KeyCall τ)) :
    let r := (KeyRing.empty : KeyRing τ).run calls
    r.Sound ∧ ∀ c : KeyCall τ,
      (c.Possible r ∧ ∃ x, c.Gives r x ∧ (r.call c).held = r.held ++ [x]) ∨
        (¬ c.Possible r ∧ r.call c = r) := by
  intro r
  obtain ⟨births, hr⟩ := Traced.empty.run calls
  exact ⟨hr.sound, r.call_gives⟩

/-- A key is made under a plain handle of a child key. The call before it makes none, for its
payload type does not fit, and uses up no id. -/
example :
    let r := (KeyRing.empty : KeyRing Payload).run
      [.root "statement" .production, .child 0 "effect" .production, .toPlain 1,
        .child 2 "block" .structural, .child 2 "damage" .production, .copy 3]
    r.held.map (fun x => (x.origin, x.under?, x.handle.key.lineage.map (·.id.value))) =
      [(0, none, [0]), (1, some 0, [1, 0]), (1, some 0, [1, 0]), (3, some 2, [2, 1, 0]),
        (3, some 2, [2, 1, 0])] := by decide

end KeyRing

end GrammarRegistry
