-- The catalog behind a registry. A registration posts its descriptor in every bucket of the
-- key's chain and once in the list of all registrations, under one ticket. A removal takes a
-- ticket out of all of them, so no reader sees half of a registration.
import GrammarRegistry.Key.Chain
import GrammarRegistry.Payload

namespace GrammarRegistry

variable {τ α : Type}

/-- A descriptor where one registration put it. All postings of a registration share its ticket. -/
structure Posting (τ α : Type) where
  ticket : Nat
  handle : Handle τ α

/-- The posting shows this very descriptor. -/
def Posting.isOf (d : Shared α) (p : Posting τ α) : Bool := p.handle.info.isSame d

/-! ## Buckets -/

/-- What is posted under one key, oldest first. -/
structure Bucket (τ α : Type) where
  key : KeyId
  postings : List (Posting τ α)

namespace Bucket

/-- Appends a posting to the bucket of a key, which is opened if the key has none. -/
def post (key : KeyId) (p : Posting τ α) : List (Bucket τ α) → List (Bucket τ α)
  | [] => [⟨key, [p]⟩]
  | b :: rest =>
    if b.key = key then { b with postings := b.postings ++ [p] } :: rest else b :: post key p rest

/-- The bucket less a ticket, or nothing if no posting is left. -/
def without? (ticket : Nat) (b : Bucket τ α) : Option (Bucket τ α) :=
  let rest := b.postings.filter (·.ticket != ticket)
  if rest.isEmpty then none else some { b with postings := rest }

/-- The bucket holds a posting of the ticket. -/
def holds (ticket : Nat) (b : Bucket τ α) : Bool := b.postings.any (·.ticket == ticket)

end Bucket

/-! ## Catalogs -/

/-- The buckets that hold something, the live registrations seen as elements and oldest first,
and the next ticket. Tickets are never given out twice. -/
structure Catalog (τ α : Type) where
  buckets : List (Bucket τ α)
  postings : List (Posting τ α)
  nextTicket : Nat

/-- What a change did: the ticket that came or went, and the number of buckets that it touched. -/
structure Receipt where
  ticket : Nat
  buckets : Nat
  deriving DecidableEq

namespace Catalog

def empty : Catalog τ α := ⟨[], [], 0⟩

/-- What is posted under a key; nothing for a key that was never used. -/
def bucket (c : Catalog τ α) (key : KeyId) : List (Posting τ α) :=
  match c.buckets.find? (·.key == key) with
  | some b => b.postings
  | none => []

/-! ## Changes -/

/-- Posts one registration along a chain, under the next ticket. -/
def post (c : Catalog τ α) (chain : List (KeyId × Handle τ α)) (element : Handle τ α) :
    Catalog τ α :=
  { buckets := chain.foldl (fun bs link => Bucket.post link.1 ⟨c.nextTicket, link.2⟩ bs) c.buckets
    postings := c.postings ++ [⟨c.nextTicket, element⟩]
    nextTicket := c.nextTicket + 1 }

/-- Registers a descriptor under a key and all its ancestors. A descriptor that is registered
twice is listed twice. -/
def register [DecidableEq τ] [PayloadTypes τ] (c : Catalog τ α) (k : Key τ) (d : Shared α) :
    Except RegistryError (Catalog τ α × Receipt) :=
  match k.chain (k.handle d) with
  | .error e => .error e
  | .ok chain => .ok (c.post chain ⟨PayloadTypes.element, d⟩, ⟨c.nextTicket, chain.length⟩)

/-- The newest ticket of a descriptor among those posted under a key. -/
def newest? (c : Catalog τ α) (key : KeyId) (d : Shared α) : Option Nat :=
  ((c.bucket key).filter (·.isOf d)).getLast?.map (·.ticket)

/-- Takes a ticket out of every bucket and out of the list of registrations. Buckets that are
left empty go. -/
def withdraw (c : Catalog τ α) (ticket : Nat) : Catalog τ α :=
  { c with
    buckets := c.buckets.filterMap (Bucket.without? ticket)
    postings := c.postings.filter (·.ticket != ticket) }

/-- The number of buckets that a ticket is posted in. -/
def spread (c : Catalog τ α) (ticket : Nat) : Nat := c.buckets.countP (Bucket.holds ticket)

/-- Removes the newest registration of a descriptor that is visible under a key, from every
bucket that it reached. There may be none. -/
def unregister? (c : Catalog τ α) (k : Key τ) (d : Shared α) : Option (Catalog τ α × Receipt) :=
  match c.newest? k.id d with
  | none => none
  | some ticket => some (c.withdraw ticket, ⟨ticket, c.spread ticket⟩)

/-! ## Queries -/

/-- The descriptors under a key or below it, oldest first, seen as the key's payload type. -/
def under [DecidableEq τ] (c : Catalog τ α) (k : Key τ) : List (Handle τ α) :=
  (c.bucket k.id).filterMap fun p => p.handle.at? k.payload

/-- One element for each live registration, oldest first. -/
def elements (c : Catalog τ α) : List (Handle τ α) := c.postings.map (·.handle)

/-- The descriptor is visible under the key. -/
def contains (c : Catalog τ α) (k : Key τ) (d : Shared α) : Bool := (c.bucket k.id).any (·.isOf d)

/-- The number of live registrations. -/
def size (c : Catalog τ α) : Nat := c.postings.length

def isEmpty (c : Catalog τ α) : Bool := c.size == 0

/-- The number of keys with something under them. -/
def keyCount (c : Catalog τ α) : Nat := c.buckets.length

end Catalog

end GrammarRegistry
