import CircuitRelay.Connection.Basic

/-!
# Choosing a security protocol

Two upgrades secure connections, one preferred over the other.  Both offer their protocols, the
preferred one first; whichever offer the remote peer picks decides which upgrade runs.
-/

namespace CircuitRelay

namespace Security

/-- The two upgrades. -/
inductive Side where
  | preferred
  | fallback
  deriving DecidableEq, Repr

/-- The name of an upgrade. -/
def Side.name : Side → String
  | .preferred => "preferred"
  | .fallback => "fallback"

/-- A protocol that an upgrade offers. -/
structure Offer where
  side : Side
  protocol : String
  deriving DecidableEq, Repr

/-- The protocols in the order in which they are offered. -/
def offers (preferred fallback : List String) : List Offer :=
  preferred.map (Offer.mk .preferred) ++ fallback.map (Offer.mk .fallback)

/-- Runs the upgrade of an offer; the outcome says which one ran. -/
def upgrade {ε α : Type} (run : Side → Direction → String → Except ε α) (direction : Direction)
    (o : Offer) : Except (Side × ε) (Side × α) :=
  match run o.side direction o.protocol with
  | .ok a => .ok (o.side, a)
  | .error e => .error (o.side, e)

end Security

end CircuitRelay
