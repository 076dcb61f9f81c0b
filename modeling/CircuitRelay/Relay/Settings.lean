import CircuitRelay.Duration.Basic
import CircuitRelay.Resource.Amounts

/-!
# Settings of the relay

Bounds on what the relay gives away.  No bound may be zero; the first one that is, in the order of
the settings, is reported by its configuration key.
-/

namespace CircuitRelay

/-- Bounds on relay usage. -/
structure RelaySettings where
  /-- How long a circuit may live. -/
  circuitDuration : Duration
  /-- How many octets a circuit may carry in each direction. -/
  circuitData : Nat
  /-- How long a reservation lasts. -/
  reservationTtl : Duration
  /-- How many reservations may be held. -/
  maxReservations : Nat
  /-- How many circuits a peer may have. -/
  maxCircuits : Nat
  /-- The buffer of a circuit in each direction, in octets. -/
  bufferSize : Nat
  /-- How many reservations a peer may hold. -/
  maxReservationsPerPeer : Nat
  /-- How many reservations may be held from one IP address. -/
  maxReservationsPerIp : Nat
  deriving DecidableEq, Repr

namespace RelaySettings

/-- The bounds of a node without settings. -/
def standard : RelaySettings where
  circuitDuration := .ofSeconds 120
  circuitData := 2 ^ 17
  reservationTtl := .ofSeconds 3600
  maxReservations := 128
  maxCircuits := 16
  bufferSize := 2048
  maxReservationsPerPeer := 4
  maxReservationsPerIp := 8

/-- The bounds with their configuration keys, in the order in which they are checked. -/
def bounds (s : RelaySettings) : List (String × Nat) := [
  ("limit.duration", s.circuitDuration.nanos),
  ("limit.data", s.circuitData),
  ("reservationTTL", s.reservationTtl.nanos),
  ("maxReservations", s.maxReservations),
  ("maxCircuits", s.maxCircuits),
  ("bufferSize", s.bufferSize),
  ("maxReservationsPerPeer", s.maxReservationsPerPeer),
  ("maxReservationsPerIP", s.maxReservationsPerIp)]

/-- The key of the first bound that is zero. -/
def firstZero? (s : RelaySettings) : Option String :=
  (s.bounds.find? fun b => b.2 = 0).map Prod.fst

/-- The memory that a circuit takes: a buffer in each direction. -/
def circuitMemory (s : RelaySettings) : Nat := min Resource.maxAmount (2 * s.bufferSize)

end RelaySettings

/-- Whether a relay runs, and within which bounds. -/
structure RelaySwitch where
  /-- Whether the relay runs at all. -/
  enabled : Bool
  settings : RelaySettings
  deriving DecidableEq, Repr

namespace RelaySwitch

/-- The switch of a node without settings. -/
def standard : RelaySwitch := ⟨true, .standard⟩

/-- Why a relay cannot start. -/
inductive Fault where
  | zeroBound (key : String)
  | disabled
  | alreadyEnabled
  deriving DecidableEq, Repr

/-- The words for a fault. -/
def Fault.message : Fault → String
  | .zeroBound key => "invalid relay resource setting " ++ key ++ ": must be greater than zero"
  | .disabled => "relay service is disabled in configuration"
  | .alreadyEnabled => "relay service already enabled"

/-- The bounds of a relay that may start. -/
def check (s : RelaySwitch) : Except Fault RelaySettings :=
  if s.enabled then
    match s.settings.firstZero? with
    | some key => .error (.zeroBound key)
    | none => .ok s.settings
  else .error .disabled

end RelaySwitch

end CircuitRelay
