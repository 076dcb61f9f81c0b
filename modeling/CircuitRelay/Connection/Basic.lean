import CircuitRelay.Duration.Basic
import CircuitRelay.Peer.Id
import CircuitRelay.Table

/-!
# Connections and what is known about peers

A record describes one connection; a standing describes one peer: how many connections it has,
under which tags it is protected, and which value tags it carries.  A standing without any of
these is idle and says nothing.
-/

namespace CircuitRelay

/-- The name of a connection; the swarm never gives one name twice. -/
abbrev ConnectionId := Nat

/-- Who opened a connection or a stream. -/
inductive Direction where
  | inbound
  | outbound
  deriving DecidableEq, Repr

namespace Connection

/-- One connection. -/
structure Record where
  /-- The peer at the other end. -/
  peer : PeerId
  direction : Direction
  /-- When it was established. -/
  established : Instant
  /-- Whether it was selected for closing. -/
  closing : Bool
  deriving DecidableEq, Repr

/-- The stages of a connection's life, in order. -/
inductive Phase where
  | grace
  | prunable
  | closing
  deriving DecidableEq, Repr

/-- The age of a connection; zero before it was established. -/
def Record.age (r : Record) (now : Instant) : Nat := now - r.established

/-- The phase of a connection under a grace period. -/
def Record.phase (r : Record) (grace : Duration) (now : Instant) : Phase :=
  if r.closing then .closing
  else if r.age now < grace.nanos then .grace
  else .prunable

/-- What is known about one peer. -/
structure Standing where
  connections : Nat
  /-- The tags that protect it. -/
  protections : List String
  values : Table String Int64

namespace Standing

/-- The standing of an unknown peer. -/
def none : Standing := ⟨0, [], .empty⟩

/-- Whether nothing is known. -/
def isIdle (s : Standing) : Bool :=
  s.connections = 0 && s.protections.isEmpty && s.values.entries.isEmpty

/-- Whether any tag protects the peer. -/
def isProtected (s : Standing) : Bool := !s.protections.isEmpty

/-- Adds two numbers, stopping at the ends of the 64-bit range. -/
def addClamped (a b : Int) : Int := max (-2 ^ 63) (min (2 ^ 63 - 1) (a + b))

/-- The sum of tag values, stopping at the ends of the 64-bit range after every addition. -/
def sumClamped (values : List Int64) : Int :=
  values.foldl (fun sum v => addClamped sum v.toInt) 0

/-- The worth of the peer: its value tags added in the order in which they were set. -/
def value (s : Standing) : Int := sumClamped s.values.values

/-- One more connection. -/
def connect (s : Standing) : Standing := { s with connections := s.connections + 1 }

/-- One connection less. -/
def disconnect (s : Standing) : Standing := { s with connections := s.connections - 1 }

/-- Protected under one more tag. -/
def protect (s : Standing) (tag : String) : Standing :=
  { s with protections := if tag ∈ s.protections then s.protections else s.protections ++ [tag] }

/-- Protected under one tag less. -/
def unprotect (s : Standing) (tag : String) : Standing :=
  { s with protections := s.protections.filter (· ≠ tag) }

/-- A value tag is set. -/
def setValue (s : Standing) (tag : String) (value : Int64) : Standing :=
  { s with values := s.values.insert tag value }

/-- A value tag is removed. -/
def clearValue (s : Standing) (tag : String) : Standing :=
  { s with values := s.values.erase tag }

/-- The standing itself, or nothing when it is idle. -/
def unlessIdle (s : Standing) : Option Standing := if s.isIdle then Option.none else some s

end Standing

end Connection

end CircuitRelay
