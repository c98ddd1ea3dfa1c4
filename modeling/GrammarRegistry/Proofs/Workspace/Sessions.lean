-- Sessions: any commands to a workspace that starts with the base categories. The names of keys
-- stand for handles as calls on keys give them out, over a forest that was made one key at a time,
-- and the holdings are reachable over it. So what is proved of such rings, forests and holdings is
-- true of each key and each registry that a session has a name for.
import GrammarRegistry.Proofs.KeyRing
import GrammarRegistry.Proofs.Registry.Standing
import GrammarRegistry.Proofs.Workspace.Moves

namespace GrammarRegistry

namespace Workspace

/-! ## What every move keeps -/

/-- Calls that make keys and pass handles on gave the workspace its forest and, in this order, the
handles that it has names for. -/
structure KeysFrom (w : Workspace) (r : KeyRing Payload) : Prop where
  forest : r.forest = w.forest
  handles : r.held.map HeldKey.handle = w.keys.map Prod.snd

/-- Keys, holdings, mounts and descriptors are as commands make them: a registry's own storage is
the one at its front, and every descriptor has an identity of its own. -/
structure Sound (w : Workspace) : Prop where
  keys : ∃ calls, w.KeysFrom (KeyRing.empty.run calls)
  holdings : w.holdings.Reachable w.forest
  own : ∀ x ∈ w.mounts, ∀ s, x.2.own? = some s → x.2.registry.front = s
  identities : w.descriptors.map (fun x => x.2.id) = List.range w.descriptors.length

section

variable {w next : Workspace} {r : KeyRing Payload} {name : String} {k : KeyHandle Payload}

namespace KeysFrom

theorem place (hr : w.KeysFrom r) (hk : w.findKey name = .ok k) :
    ∃ (i : Nat) (x : HeldKey Payload), r.held[i]? = some x ∧ x.handle = k := by
  have hmem : k ∈ r.held.map HeldKey.handle := by
    rw [hr.handles]
    exact List.mem_map_of_mem (f := Prod.snd) (find_mem hk)
  obtain ⟨x, hx, hhandle⟩ := List.mem_map.mp hmem
  obtain ⟨i, hi⟩ := List.mem_iff_getElem?.mp hx
  exact ⟨i, x, hi, hhandle⟩

theorem gain (hr : w.KeysFrom r) (made : KeyHandle Payload × Forest Payload) (under? : Option Nat)
    (id : String) :
    KeysFrom { w with forest := made.2, keys := w.keys ++ [(id, made.1)] } (r.gain made under?) := by
  refine ⟨rfl, ?_⟩
  rw [KeyRing.gain, List.map_append, List.map_append, hr.handles]
  rfl

theorem pass (hr : w.KeysFrom r) (hk : w.findKey name = .ok k)
    (via : KeyHandle Payload → KeyHandle Payload) (id : String) :
    ∃ source, KeysFrom { w with keys := w.keys ++ [(id, via k)] } (r.pass via source) := by
  obtain ⟨source, x, hx, rfl⟩ := hr.place hk
  refine ⟨source, hr.forest, ?_⟩
  rw [KeyRing.held_pass r hx, List.map_append, List.map_append, hr.handles]
  rfl

/-- Every move that names a key is one call, and no other move is any. -/
theorem move (hr : w.KeysFrom r) (h : Move w next) : ∃ calls, next.KeysFrom (r.run calls) := by
  cases h with
  | root id name payload =>
    rw [← hr.forest]
    exact ⟨[.root name payload], hr.gain _ none id⟩
  | @child parent k id name payload made hk hmade =>
    obtain ⟨i, x, hx, rfl⟩ := hr.place hk
    rw [← hr.forest] at hmade
    have hcall : r.run [.child i name payload] = r.gain made (some i) := by
      simp only [KeyRing.run, List.foldl_cons, List.foldl_nil, KeyRing.call, hx, Option.bind_some,
        hmade]
    refine ⟨[.child i name payload], ?_⟩
    rw [hcall]
    exact hr.gain made (some i) id
  | copy id hk =>
    obtain ⟨source, hnext⟩ := hr.pass hk KeyHandle.copy id
    exact ⟨[.copy source], hnext⟩
  | toPlain id hk =>
    obtain ⟨source, hnext⟩ := hr.pass hk KeyHandle.toPlain id
    exact ⟨[.toPlain source], hnext⟩
  | _ => exact ⟨[], hr.forest, hr.handles⟩

end KeysFrom

namespace Sound

theorem traced (hw : w.Sound) :
    ∃ (r : KeyRing Payload) (births : List (Nat × Key Payload)),
      w.KeysFrom r ∧ r.Traced births := by
  obtain ⟨calls, hr⟩ := hw.keys
  obtain ⟨births, htraced⟩ := KeyRing.Traced.empty.run calls
  exact ⟨_, _, hr, htraced⟩

theorem grown (hw : w.Sound) : w.forest.Grown := by
  obtain ⟨r, births, hr, htraced⟩ := hw.traced
  rw [← hr.forest]
  exact htraced.grown

theorem key_mem (hw : w.Sound) (hk : w.findKey name = .ok k) : k.key ∈ w.forest.keys := by
  obtain ⟨r, births, hr, htraced⟩ := hw.traced
  obtain ⟨i, x, hx, rfl⟩ := hr.place hk
  rw [← hr.forest]
  exact htraced.key_mem (List.mem_of_getElem? hx)

theorem within (hw : w.Sound) {s : Step Payload Declared} (hs : w.Names s) : s.Within w.forest := by
  cases s with
  | ask r q =>
    obtain ⟨name, k, hk, hkey⟩ := hs
    rw [Step.Within, ← hkey]
    exact hw.key_mem hk
  | _ => trivial

/-- The forest only gets more keys. -/
theorem keys_mono (hw : w.Sound) (h : Move w next) : ∀ k ∈ w.forest.keys, k ∈ next.forest.keys := by
  obtain ⟨r, births, hr, htraced⟩ := hw.traced
  obtain ⟨more, hnext⟩ := hr.move h
  obtain ⟨later, hlater⟩ := htraced.run more
  rw [← hr.forest, ← hnext.forest, ← htraced.keys, ← hlater.keys, List.map_append]
  exact fun k => List.mem_append_left _

theorem move (hw : w.Sound) (h : Move w next) : next.Sound where
  keys := by
    obtain ⟨calls, hr⟩ := hw.keys
    obtain ⟨more, hnext⟩ := hr.move h
    refine ⟨calls ++ more, ?_⟩
    rw [KeyRing.run, List.foldl_append]
    exact hnext
  holdings := by
    have hheld : w.holdings.Reachable next.forest := hw.holdings.mono (hw.keys_mono h)
    cases h with
    | happen hs => exact hheld.step (hw.within hs)
    | _ => exact hheld
  own := by
    cases h with
    | mount id hown =>
      intro x hx
      rcases List.mem_append.mp hx with hx | hx
      · exact hw.own x hx
      · rw [List.mem_singleton.mp hx]
        exact hown
    | _ => exact hw.own
  identities := by
    cases h with
    | declare id d =>
      rw [List.map_append, hw.identities, List.length_append, List.length_singleton,
        List.range_succ]
      rfl
    | _ => exact hw.identities

theorem moves (hw : w.Sound) (h : Moves w next) : next.Sound := by
  induction h with
  | refl => exact hw
  | tail _ hmove ih => exact ih.move hmove

/-- Commands keep a workspace sound, carried out or not. -/
theorem perform (hw : w.Sound) (c : Command) : (w.perform c).Sound := by
  unfold Workspace.perform
  split
  · rename_i hmade
    exact hw.moves (Command.carryOut_moves hmade)
  · exact hw

theorem run (hw : w.Sound) (commands : List Command) : (w.run commands).Sound := by
  induction commands generalizing w with
  | nil => exact hw
  | cons c rest ih => exact ih (hw.perform c)

end Sound

end

/-! ## What a registry answers -/

section

variable {w : Workspace} {registry : String} {m : Mount}

theorem label_eq_ok (hm : w.findMount registry = .ok m) :
    w.label registry = .ok m.registry.front.label := by
  rw [← m.registry.label_front]
  simp only [label, hm]
  rfl

theorem elements_eq_ok (hm : w.findMount registry = .ok m) :
    w.elements registry = .ok (w.holdings.catalog m.registry.front).elements := by
  have hfront := m.registry.elements_front w.holdings
  simp only [elements, hm]
  exact congrArg Except.ok hfront

theorem under_eq_ok (hm : w.findMount registry = .ok m) {key : String} {k : KeyHandle Payload}
    (hk : w.findKey key = .ok k) :
    w.under registry key = .ok ((w.holdings.catalog m.registry.front).under k.key) := by
  have hfront := m.registry.under_front w.holdings k.key
  simp only [under, hm, hk]
  exact congrArg Except.ok hfront

end

/-! ## Any session -/

/-- The base categories come of calls like all other keys. -/
theorem initial_sound : initial.Sound where
  keys := ⟨[.root "structure" .structural, .root "section" .production,
    .root "statement" .production, .child 2 "effect" .production, .child 2 "condition" .production,
    .root "expression" .expression], rfl, rfl⟩
  holdings := .empty
  own := by simp [initial]
  identities := rfl

theorem session_sound (commands : List Command) : (initial.run commands).Sound :=
  initial_sound.run commands

/-- The names of keys are, in order, the handles that a sound key ring gave out. -/
theorem session_keys (commands : List Command) :
    let w := initial.run commands
    w.forest.Grown ∧ (∃ r : KeyRing Payload, w.KeysFrom r ∧ r.Sound) ∧
      ∀ name k, w.findKey name = .ok k → k.key ∈ w.forest.keys := by
  intro w
  have hw : w.Sound := session_sound commands
  obtain ⟨r, births, hr, htraced⟩ := hw.traced
  exact ⟨hw.grown, ⟨r, hr, htraced.sound⟩, fun name k => hw.key_mem⟩

theorem session_descriptors (commands : List Command) :
    let w := initial.run commands
    ∀ a b d d', find w.descriptors a = .ok d → find w.descriptors b = .ok d' →
      (d.isSame d' = true ↔ a = b) := by
  intro w a b d d' hd hd'
  have hapart : (w.descriptors.map fun x => x.2.id).Nodup := by
    rw [(session_sound commands).identities]
    exact List.nodup_range
  refine ⟨?_, ?_⟩
  · intro hsame
    have hids : d.id = d'.id := by simpa [Shared.isSame] using hsame
    exact congrArg Prod.fst (List.inj_on_of_nodup_map hapart (find_mem hd) (find_mem hd') hids)
  · rintro rfl
    rw [hd] at hd'
    cases hd'
    simp [Shared.isSame]

/-- After any commands there is one live list for each storage, and all that a registry lists is
what it shows of the list of the storage at its front. -/
theorem session_lists (commands : List Command) :
    let w := initial.run commands
    ∃ L : Lives Payload Declared, w.holdings.StandFor w.forest L ∧
      ∀ registry m, w.findMount registry = .ok m →
        let live := L m.registry.front.id
        w.label registry = .ok m.registry.front.label ∧
        w.elements registry =
          .ok ((Live.elements live).map fun d => ⟨PayloadTypes.element, d⟩) ∧
        ∀ key k, w.findKey key = .ok k →
          w.under registry key = .ok ((Live.under live k.key).map k.key.handle) := by
  intro w
  have hw : w.Sound := session_sound commands
  obtain ⟨L, hL⟩ := hw.holdings.standFor hw.grown
  refine ⟨L, hL, ?_⟩
  intro registry m hm live
  have hfront : (w.holdings.catalog m.registry.front).StandsFor w.forest live := hL _
  refine ⟨label_eq_ok hm, ?_, ?_⟩
  · rw [elements_eq_ok hm, hfront.elements]
  · intro key k hk
    rw [under_eq_ok hm hk, hfront.under (hw.key_mem hk)]

/-- A registry that has a storage of its own goes by its label and lists what it holds. -/
theorem session_own (commands : List Command) :
    let w := initial.run commands
    ∀ registry s, w.findStorage registry = .ok s →
      w.label registry = .ok s.label ∧
      w.elements registry = .ok (w.holdings.catalog s).elements ∧
      ∀ key k, w.findKey key = .ok k →
        w.under registry key = .ok ((w.holdings.catalog s).under k.key) := by
  intro w registry s hs
  obtain ⟨m, hm, hs⟩ := bind_eq_ok hs
  split at hs
  · rename_i hown
    cases hs
    have hfront : m.registry.front = s := (session_sound commands).own _ (find_mem hm) s hown
    rw [← hfront]
    exact ⟨label_eq_ok hm, elements_eq_ok hm, fun key k => under_eq_ok hm⟩
  · cases hs

end Workspace

end GrammarRegistry
