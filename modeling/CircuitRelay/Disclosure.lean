import CircuitRelay.Address.Reach
import CircuitRelay.Distinct

/-!
# Which addresses the node discloses

The node listens on whatever addresses its transports bind, the candidates, and announces only
some of them.  A policy decides which: a fixed list, or exactly the public candidates.  A
`Disclosure` is a policy with the current candidates and the announced list.  That list is never
edited: every change of the candidates computes it anew and returns the difference to the old one,
which is what others replay.
-/

namespace CircuitRelay

namespace Disclosure

/-- How announced addresses follow from candidates. -/
inductive Policy where
  | fixed (addresses : List Address)
  /-- The candidates that the open network can reach. -/
  | automatic
  deriving DecidableEq

/-- The policy of a configured list: the list without repetitions, automatic when it is empty. -/
def Policy.ofAddresses (addresses : List Address) : Policy :=
  if addresses.isEmpty then .automatic else .fixed (distinct addresses)

/-- The announced list for a list of candidates. -/
def Policy.announced : Policy → List Address → List Address
  | .fixed addresses, _ => addresses
  | .automatic, candidates => distinct (candidates.filter Address.isPublic)

/-- Whether the candidates do not matter. -/
def Policy.isFixed : Policy → Bool
  | .fixed _ => true
  | .automatic => false

/-- The difference between two announced lists. -/
structure Change where
  /-- Addresses announced from now on. -/
  added : List Address
  /-- Addresses no longer announced. -/
  removed : List Address
  deriving DecidableEq

/-- The change that changes nothing. -/
def Change.none : Change := ⟨[], []⟩

/-- Whether a change changes nothing. -/
def Change.isEmpty (c : Change) : Bool := c.added.isEmpty && c.removed.isEmpty

/-- The difference between an old and a new list. -/
def Change.between (old new : List Address) : Change :=
  ⟨new.filter fun a => !old.contains a, old.filter fun a => !new.contains a⟩

end Disclosure

/-- A policy with the current candidates and what is announced of them. -/
structure Disclosure where
  /-- How announced addresses follow from candidates. -/
  policy : Disclosure.Policy
  /-- The addresses that transports listen on, oldest first. -/
  candidates : List Address
  /-- The addresses that are announced now. -/
  announced : List Address

namespace Disclosure

/-- The start without candidates; a fixed list is announced at once. -/
def ofPolicy (policy : Policy) : Disclosure := ⟨policy, [], policy.announced []⟩

/-- Takes over new candidates: what is announced is computed from scratch, and the answer is the
difference to what was announced before. -/
def recompute (d : Disclosure) (candidates : List Address) : Change × Disclosure :=
  let next := d.policy.announced candidates
  (.between d.announced next, { d with candidates := candidates, announced := next })

/-- A transport started to listen on an address. -/
def add (d : Disclosure) (a : Address) : Change × Disclosure :=
  if d.candidates.contains a then (.none, d) else d.recompute (d.candidates ++ [a])

/-- A transport stopped listening on an address. -/
def remove (d : Disclosure) (a : Address) : Change × Disclosure :=
  if d.candidates.contains a then d.recompute (d.candidates.filter (· ≠ a)) else (.none, d)

end Disclosure

end CircuitRelay
