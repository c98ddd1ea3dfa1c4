-- Commands to a workspace, and the moves that they come down to: a handle is given out and named,
-- something else is named, or something happens to the holdings. What every move keeps, every
-- command keeps.
import GrammarRegistry.Proofs.Registry.Runs
import GrammarRegistry.Workspace.Changes
import GrammarRegistry.Workspace.Keys
import GrammarRegistry.Workspace.Mounts
import Mathlib.Logic.Relation

namespace GrammarRegistry

namespace Workspace

/-! ## Commands -/

/-- What a workspace can be told to do. Questions are left out: they change nothing. -/
inductive Command where
  | addRootKey (id : String) (payload : Payload) (name : String)
  | addChildKey (id : String) (payload : Payload) (parent name : String)
  | addKeyLine (id : String) (payload : Payload) (parent name : String) (count : Nat)
  | copyKey (id source : String)
  | plainKey (id source : String)
  | declare (id : String) (draft : Draft)
  | mountPlain (id label : String)
  | mountView (id backing : String)
  | mountSharedView (id backing : String)
  | mountViewCopy (id source : String)
  | mountChild (id parent : String)
  | mountPair (id parent child : String)
  | mountGate (id inner : String)
  | setGate (id : String) (register unregister : GateMode)
  | change (op : Mutation) (registry key descriptor : String) (times : Nat)
  | changeTogether (op : Mutation) (registry key descriptor : String) (workers times : Nat)
  | keep (id registry : String) (key : Option String)
  | pin (id registry : String)
  | copyPin (id source : String)

/-- What a command leaves, unless it is not carried out at all. A change that a registry refuses is
carried out: what the refusal leaves is what counts. -/
def Command.carryOut (w : Workspace) : Command → Except Fault Workspace
  | addRootKey id payload name => return (← w.addRootKey id payload name).1
  | addChildKey id payload parent name => return (← w.addChildKey id payload parent name).1
  | addKeyLine id payload parent name count =>
    return (← w.addKeyLine id payload parent name count).1
  | copyKey id source => return (← w.copyKey id source).1
  | plainKey id source => return (← w.plainKey id source).1
  | declare id draft => w.declare id draft
  | mountPlain id label => return (← w.mountPlain id label).1
  | mountView id backing => return (← w.mountView id backing).1
  | mountSharedView id backing => return (← w.mountSharedView id backing).1
  | mountViewCopy id source => return (← w.mountViewCopy id source).1
  | mountChild id parent => return (← w.mountChild id parent).1
  | mountPair id parent child => return (← w.mountPair id parent child).1
  | mountGate id inner => return (← w.mountGate id inner).1
  | setGate id register unregister => w.setGate id register unregister
  | change op registry key descriptor times =>
    return (w.change op registry key descriptor times).workspace
  | changeTogether op registry key descriptor workers times =>
    return (w.changeTogether op registry key descriptor workers times).workspace
  | keep id registry key => return (← w.keep id registry key).1
  | pin id registry => w.pin id registry
  | copyPin id source => w.copyPin id source

/-- The workspace after a command. One that is not carried out leaves it as it is. -/
def perform (w : Workspace) (c : Command) : Workspace :=
  match c.carryOut w with
  | .ok made => made
  | .error _ => w

/-- The workspace after some commands. -/
def run (w : Workspace) (commands : List Command) : Workspace := commands.foldl perform w

/-! ## Moves -/

/-- If the step asks for a change, it does so under a key that the workspace has a name for. -/
def Names (w : Workspace) : Step Payload Declared → Prop
  | .ask _ q => ∃ name k, w.findKey name = .ok k ∧ k.key = q.key
  | _ => True

/-- One thing that happens to a workspace: a handle is given out and named, something else is
named, or something happens to the holdings. -/
inductive Move : Workspace → Workspace → Prop
  | root {w : Workspace} (id name : String) (payload : Payload) :
      Move w { w with
        forest := (w.forest.openRoot name payload).2
        keys := w.keys ++ [(id, (w.forest.openRoot name payload).1)] }
  | child {w : Workspace} {parent : String} {k : KeyHandle Payload} (id name : String)
      (payload : Payload) {made : KeyHandle Payload × Forest Payload} :
      w.findKey parent = .ok k → w.forest.openChild? k.key name payload = some made →
      Move w { w with forest := made.2, keys := w.keys ++ [(id, made.1)] }
  | copy {w : Workspace} {source : String} {k : KeyHandle Payload} (id : String) :
      w.findKey source = .ok k → Move w { w with keys := w.keys ++ [(id, k.copy)] }
  | toPlain {w : Workspace} {source : String} {k : KeyHandle Payload} (id : String) :
      w.findKey source = .ok k → Move w { w with keys := w.keys ++ [(id, k.toPlain)] }
  | declare {w : Workspace} (id : String) (d : Descriptor) :
      Move w { w with
        descriptors := w.descriptors ++ [(id, ⟨w.descriptors.length, ⟨id, d⟩⟩)] }
  | mount {w : Workspace} (id : String) {m : Mount} :
      (∀ s, m.own? = some s → m.registry.front = s) →
      Move w { w with mounts := w.mounts ++ [(id, m)] }
  | happen {w : Workspace} {s : Step Payload Declared} :
      w.Names s → Move w { w with holdings := (s.run w.holdings).holdings }
  | keep {w : Workspace} (id : String) (items : List Item) :
      Move w { w with kept := w.kept ++ [(id, items)] }
  | pin {w : Workspace} (id : String) (c : Catalog Payload Declared) :
      Move w { w with pins := w.pins ++ [(id, c)] }

/-- Moves, one after another. -/
abbrev Moves : Workspace → Workspace → Prop := Relation.ReflTransGen Move

/-! ## Looking up and naming -/

section

variable {β γ : Type} {w made : Workspace} {id name source : String}

theorem bind_eq_ok {x : Except Fault β} {g : β → Except Fault γ} {c : γ}
    (h : x >>= g = .ok c) : ∃ b, x = .ok b ∧ g b = .ok c := by
  cases x with
  | error fault => cases h
  | ok b => exact ⟨b, rfl, h⟩

theorem find_mem {table : List (String × β)} {x : β} (h : find table name = .ok x) :
    (name, x) ∈ table := by
  unfold find at h
  split at h
  · rename_i y hy
    cases h
    obtain ⟨front, back, rfl, _⟩ := List.lookup_eq_some_iff.mp hy
    simp
  · cases h

theorem enter_eq_ok {table after : List (String × β)} {x : β}
    (h : enter table name x = .ok after) : after = table ++ [(name, x)] := by
  unfold enter at h
  split at h
  · cases h
  · exact (Except.ok.inj h).symm

theorem nameKey_eq_ok {k : KeyHandle Payload} (h : w.nameKey id k = .ok made) :
    made = { w with keys := w.keys ++ [(id, k)] } := by
  obtain ⟨keys, hkeys, h⟩ := bind_eq_ok h
  cases h
  rw [enter_eq_ok hkeys]

theorem findPair_eq_ok {key descriptor : String} {k : Key Payload} {d : Shared Declared}
    (h : w.findPair key descriptor = .ok (k, d)) :
    ∃ held, w.findKey key = .ok held ∧ held.key = k := by
  obtain ⟨held, hheld, h⟩ := bind_eq_ok h
  obtain ⟨_, _, h⟩ := bind_eq_ok h
  split at h
  · cases h
    exact ⟨held, hheld, rfl⟩
  · cases h

/-! ## Keys and descriptors -/

section

variable {payload : Payload} {added : Workspace × KeyHandle Payload}

theorem addRootKey_move (h : w.addRootKey id payload name = .ok added) : Move w added.1 := by
  obtain ⟨w', hw', h⟩ := bind_eq_ok h
  cases h
  rw [nameKey_eq_ok hw']
  exact .root id name payload

theorem addChildKey_move {parent : String}
    (h : w.addChildKey id payload parent name = .ok added) : Move w added.1 := by
  obtain ⟨k, hk, h⟩ := bind_eq_ok h
  split at h
  · cases h
  · rename_i hmade
    obtain ⟨w', hw', h⟩ := bind_eq_ok h
    cases h
    rw [nameKey_eq_ok hw']
    exact .child id name payload hk hmade

theorem copyKey_move (h : w.copyKey id source = .ok added) : Move w added.1 := by
  obtain ⟨k, hk, h⟩ := bind_eq_ok h
  obtain ⟨w', hw', h⟩ := bind_eq_ok h
  cases h
  rw [nameKey_eq_ok hw']
  exact .copy id hk

theorem plainKey_move (h : w.plainKey id source = .ok added) : Move w added.1 := by
  obtain ⟨k, hk, h⟩ := bind_eq_ok h
  split at h
  · obtain ⟨w', hw', h⟩ := bind_eq_ok h
    cases h
    rw [nameKey_eq_ok hw']
    exact .toPlain id hk
  · cases h

end

theorem foldlM_moves {g : Workspace × β → γ → Except Fault (Workspace × β)}
    (hg : ∀ s x s', g s x = .ok s' → Move s.1 s'.1) {xs : List γ} {s s' : Workspace × β}
    (h : xs.foldlM g s = .ok s') : Moves s.1 s'.1 := by
  induction xs generalizing s with
  | nil =>
    cases h
    exact .refl
  | cons x rest ih =>
    rw [List.foldlM_cons] at h
    obtain ⟨next, hnext, hrest⟩ := bind_eq_ok h
    exact .head (hg s x next hnext) (ih hrest)

theorem addKeyLine_moves {payload : Payload} {parent : String} {count : Nat}
    {added : Workspace × String} (h : w.addKeyLine id payload parent name count = .ok added) :
    Moves w added.1 := by
  obtain ⟨_, _, h⟩ := bind_eq_ok h
  refine foldlM_moves ?_ h
  intro s i s' hs
  obtain ⟨added, hadded, hs⟩ := bind_eq_ok hs
  cases hs
  exact addChildKey_move hadded

theorem declare_move {draft : Draft} (h : w.declare id draft = .ok made) : Move w made := by
  unfold declare at h
  split at h
  · cases h
  · rename_i d _
    obtain ⟨descriptors, hdescriptors, h⟩ := bind_eq_ok h
    cases h
    rw [enter_eq_ok hdescriptors]
    exact .declare id d

/-! ## Registries -/

section

variable {mounted : Workspace × String}

theorem mount_move {m : Mount} (hown : ∀ s, m.own? = some s → m.registry.front = s)
    (h : w.mount id m = .ok mounted) : Move w mounted.1 := by
  obtain ⟨mounts, hmounts, h⟩ := bind_eq_ok h
  cases h
  rw [enter_eq_ok hmounts]
  exact .mount id hown

theorem mount_bare_move {r : Registry} (h : w.mount id ⟨r, none⟩ = .ok mounted) :
    Move w mounted.1 := by
  refine mount_move ?_ h
  intro s hs
  cases hs

theorem mountPlain_moves {label : String} (h : w.mountPlain id label = .ok mounted) :
    Moves w mounted.1 := by
  refine .tail (.single (.happen (s := .openStorage label) trivial)) (mount_move ?_ h)
  intro s hs
  exact Option.some.inj hs

theorem mountView_move (h : w.mountView id source = .ok mounted) : Move w mounted.1 := by
  obtain ⟨m, _, h⟩ := bind_eq_ok h
  exact mount_bare_move h

theorem mountSharedView_move (h : w.mountSharedView id source = .ok mounted) :
    Move w mounted.1 := by
  obtain ⟨m, _, h⟩ := bind_eq_ok h
  split at h
  · exact mount_bare_move h
  · cases h

theorem mountViewCopy_move (h : w.mountViewCopy id source = .ok mounted) : Move w mounted.1 := by
  obtain ⟨m, _, h⟩ := bind_eq_ok h
  split at h
  · exact mount_bare_move h
  · cases h

theorem mountChild_moves {parent : String} (h : w.mountChild id parent = .ok mounted) :
    Moves w mounted.1 := by
  obtain ⟨m, _, h⟩ := bind_eq_ok h
  refine .tail (.single (.happen (s := .openStorage m.registry.childLabel) trivial))
    (mount_move ?_ h)
  intro s hs
  exact Option.some.inj hs

theorem mountPair_move {parent child : String} (h : w.mountPair id parent child = .ok mounted) :
    Move w mounted.1 := by
  obtain ⟨p, _, h⟩ := bind_eq_ok h
  obtain ⟨c, _, h⟩ := bind_eq_ok h
  exact mount_bare_move h

theorem mountGate_moves {inner : String} (h : w.mountGate id inner = .ok mounted) :
    Moves w mounted.1 := by
  obtain ⟨m, _, h⟩ := bind_eq_ok h
  exact .tail (.single (.happen (s := .openGate) trivial)) (mount_bare_move h)

theorem setGate_move {register unregister : GateMode}
    (h : w.setGate id register unregister = .ok made) : Move w made := by
  obtain ⟨m, _, h⟩ := bind_eq_ok h
  split at h
  · rename_i g inner _
    cases h
    exact .happen (s := .setPolicy g (GateMode.policy inner.label register unregister)) trivial
  · cases h

end

/-! ## Changes -/

theorem repeated_moves {op : Mutation} {r : Registry} {k : Key Payload} {d : Shared Declared}
    {key descriptor : String} (h : w.findPair key descriptor = .ok (k, d)) (times : Nat) :
    Moves w { w with holdings := (r.repeated op k d times w.holdings).holdings } := by
  induction times generalizing w with
  | zero => exact .refl
  | succ times ih =>
    have hfirst : Move w { w with holdings := (Registry.change k d op r w.holdings).holdings } :=
      .happen (s := .ask r ⟨op, k, d⟩) ⟨key, findPair_eq_ok h⟩
    simp only [Registry.repeated]
    split
    · exact .single hfirst
    · exact .head hfirst (ih h)

theorem change_moves (op : Mutation) (registry key descriptor : String) (times : Nat) :
    Moves w (w.change op registry key descriptor times).workspace := by
  unfold change
  split
  · exact .refl
  · exact .refl
  · rename_i hpair
    exact repeated_moves hpair times

theorem changeTogether_moves (op : Mutation) (registry key descriptor : String)
    (workers times : Nat) :
    Moves w (w.changeTogether op registry key descriptor workers times).workspace := by
  unfold changeTogether
  split
  · exact .refl
  · exact .refl
  · rename_i hpair
    exact repeated_moves hpair (workers * times)

theorem keep_move {registry : String} {key : Option String} {kept : Workspace × List Item}
    (h : w.keep id registry key = .ok kept) : Move w kept.1 := by
  -- The two ways to come by the items meet in one ending.
  obtain ⟨items, h⟩ : ∃ items,
      (do return ({ w with kept := ← enter w.kept id items }, items)) = Except.ok kept := by
    cases key with
    | none =>
      obtain ⟨items, _, h⟩ := bind_eq_ok h
      exact ⟨items, h⟩
    | some k =>
      obtain ⟨items, _, h⟩ := bind_eq_ok h
      exact ⟨items, h⟩
  obtain ⟨table, htable, h⟩ := bind_eq_ok h
  cases h
  rw [enter_eq_ok htable]
  exact .keep id items

theorem namePin_move {c : Catalog Payload Declared}
    (h : (do return { w with pins := ← enter w.pins id c }) = Except.ok made) : Move w made := by
  obtain ⟨pins, hpins, h⟩ := bind_eq_ok h
  cases h
  rw [enter_eq_ok hpins]
  exact .pin id c

theorem pin_move {registry : String} (h : w.pin id registry = .ok made) : Move w made := by
  obtain ⟨c, _, h⟩ := bind_eq_ok h
  exact namePin_move h

theorem copyPin_move (h : w.copyPin id source = .ok made) : Move w made := by
  obtain ⟨c, _, h⟩ := bind_eq_ok h
  exact namePin_move h

/-! ## Any command -/

theorem fst_eq_ok {x : Except Fault (Workspace × β)}
    (h : (do return (← x).1) = Except.ok made) : ∃ answer, x = .ok (made, answer) := by
  obtain ⟨⟨_, answer⟩, hx, h⟩ := bind_eq_ok h
  cases h
  exact ⟨answer, hx⟩

/-- A command that is carried out comes down to moves. -/
theorem Command.carryOut_moves {c : Command} (h : c.carryOut w = .ok made) : Moves w made := by
  cases c with
  | addRootKey =>
    obtain ⟨_, h⟩ := fst_eq_ok h
    exact .single (addRootKey_move h)
  | addChildKey =>
    obtain ⟨_, h⟩ := fst_eq_ok h
    exact .single (addChildKey_move h)
  | addKeyLine =>
    obtain ⟨_, h⟩ := fst_eq_ok h
    exact addKeyLine_moves h
  | copyKey =>
    obtain ⟨_, h⟩ := fst_eq_ok h
    exact .single (copyKey_move h)
  | plainKey =>
    obtain ⟨_, h⟩ := fst_eq_ok h
    exact .single (plainKey_move h)
  | declare => exact .single (declare_move h)
  | mountPlain =>
    obtain ⟨_, h⟩ := fst_eq_ok h
    exact mountPlain_moves h
  | mountView =>
    obtain ⟨_, h⟩ := fst_eq_ok h
    exact .single (mountView_move h)
  | mountSharedView =>
    obtain ⟨_, h⟩ := fst_eq_ok h
    exact .single (mountSharedView_move h)
  | mountViewCopy =>
    obtain ⟨_, h⟩ := fst_eq_ok h
    exact .single (mountViewCopy_move h)
  | mountChild =>
    obtain ⟨_, h⟩ := fst_eq_ok h
    exact mountChild_moves h
  | mountPair =>
    obtain ⟨_, h⟩ := fst_eq_ok h
    exact .single (mountPair_move h)
  | mountGate =>
    obtain ⟨_, h⟩ := fst_eq_ok h
    exact mountGate_moves h
  | setGate => exact .single (setGate_move h)
  | change op registry key descriptor times =>
    cases h
    exact change_moves op registry key descriptor times
  | changeTogether op registry key descriptor workers times =>
    cases h
    exact changeTogether_moves op registry key descriptor workers times
  | keep =>
    obtain ⟨_, h⟩ := fst_eq_ok h
    exact .single (keep_move h)
  | pin => exact .single (pin_move h)
  | copyPin => exact .single (copyPin_move h)

end

end Workspace

end GrammarRegistry
