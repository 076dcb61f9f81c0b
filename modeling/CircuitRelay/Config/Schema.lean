import CircuitRelay.Config.Basic
import CircuitRelay.Document.Section
import CircuitRelay.Duration.Document

/-!
# Reading the configuration

The keys of every section, and how the settings behind them are read.  Most settings have a second
key with a capital letter.  The overrides of a scope are a section of their own kind: they may also
be given as a list in charging order, and keys that name nothing are passed over unread.
-/

namespace CircuitRelay

namespace Config

open Document

/-- A list of texts. -/
def texts : Reader (List String) := .list .text

/-! ## Overrides -/

/-- The key of a resource. -/
def resourceKey : Resource → String
  | .memory => "memory"
  | .fds => "fds"
  | .connsInbound => "connsInbound"
  | .connsOutbound => "connsOutbound"
  | .conns => "conns"
  | .streamsInbound => "streamsInbound"
  | .streamsOutbound => "streamsOutbound"
  | .streams => "streams"

/-- Sets the ceiling of a resource. -/
def setOverride (r : Resource) (v : Option Nat) (o : Overrides) : Overrides :=
  .ofFn fun r' => if r' = r then v else o.get r'

/-- The ceilings of a scope. -/
def overridesSchema : Schema Overrides :=
  Resource.all.map fun r => .value (resourceKey r) none (.optional .word) (setOverride r)

/-- Reads ceilings given in order; those that are missing are not set. -/
def readCeilings (levels : Nat) :
    List Resource → List Document → Overrides → Except Flaw Overrides
  | r :: rs, d :: ds, o => do
    let v ← Reader.optional .word levels d
    readCeilings levels rs ds (setOverride r v o)
  | _, _, o => .ok o

/-- The ceilings of a scope, as a record or as a list; only JSON minds a list that is too long. -/
def overrides (format : Format) : Reader Overrides
  | levels, .record fields ending =>
    overridesSchema.readFields skipFault? .none (levels + 1) fields ending
  | levels, .list items ending => do
    let o ← readCeilings (levels + 1) Resource.all items .none
    if format = .json ∧ Resource.all.length < items.length then .error .malformed
    else
      match ending with
      | none => .ok o
      | some f => .error f
  | _, d => .error d.mismatch

/-- The setting of the ceilings of a kind of scope. -/
def overridesEntry (format : Format) (key : String)
    (set : Overrides → PerScope Overrides → PerScope Overrides) : Entry Resources :=
  .value key none (overrides format) fun o s => { s with overrides := set o s.overrides }

/-! ## Sections -/

/-- Where the node listens and what it announces. -/
def networkSchema : Schema Network := [
  .value "listenAddrs" (some "ListenAddrs") texts fun v s => { s with listen := v },
  .value "announceAddrs" (some "AnnounceAddrs") texts fun v s => { s with announce := v }]

/-- How many connections the node keeps. -/
def connectionsSchema : Schema Connections := [
  .value "low" (some "ConnMgrLo") .word fun v s => { s with low := v },
  .value "high" (some "ConnMgrHi") .word fun v s => { s with high := v },
  .value "grace" (some "ConnMgrGrace") Duration.reader fun v s => { s with grace := v }]

/-- The verdicts by name. -/
def verdicts : List (String × Verdict) := [("allow", .allow), ("deny", .deny)]

/-- Who may use the relay. -/
def accessSchema (format : Format) : Schema Access := [
  .value "allowPeers" (some "AllowPeers") texts fun v s => { s with allowPeers := v },
  .value "denyPeers" (some "DenyPeers") texts fun v s => { s with denyPeers := v },
  .value "allowSubnets" (some "AllowSubnets") texts fun v s => { s with allowSubnets := v },
  .value "default" none (.optional (.choice format verdicts)) fun v s => { s with default := v },
  .value "maxConnsPerPeer" none (.optional .word) fun v s => { s with maxConnections := v },
  .value "audit" none .flag fun v s => { s with audit := v }]

/-- The bounds of a circuit. -/
def circuitSchema : Schema RelaySettings := [
  .value "duration" (some "Duration") Duration.reader fun v s => { s with circuitDuration := v },
  .value "data" (some "Data") .word fun v s => { s with circuitData := v }]

/-- Puts the bounds of a circuit into those of the relay. -/
def setCircuit (c s : RelaySettings) : RelaySettings :=
  { s with circuitDuration := c.circuitDuration, circuitData := c.circuitData }

/-- The bounds of the relay. -/
def boundsSchema : Schema RelaySettings := [
  .section "limit" (some "Limit") circuitSchema .standard setCircuit,
  .value "reservationTTL" (some "ReservationTTL") Duration.reader
    fun v s => { s with reservationTtl := v },
  .value "maxReservations" (some "MaxReservations") .word
    fun v s => { s with maxReservations := v },
  .value "maxCircuits" (some "MaxCircuits") .word fun v s => { s with maxCircuits := v },
  .value "bufferSize" (some "BufferSize") .word fun v s => { s with bufferSize := v },
  .value "maxReservationsPerPeer" (some "MaxReservationsPerPeer") .word
    fun v s => { s with maxReservationsPerPeer := v },
  .value "maxReservationsPerIP" (some "MaxReservationsPerIP") .word
    fun v s => { s with maxReservationsPerIp := v }]

/-- Whether the relay runs, and within which bounds. -/
def relaySchema : Schema RelaySwitch := [
  .value "enabled" (some "Enabled") .flag fun v s => { s with enabled := v },
  .section "resources" (some "Resources") boundsSchema .standard
    fun v s => { s with settings := v }]

/-- What the node may use. -/
def resourcesSchema (format : Format) : Schema Resources := [
  .value "maxMemory" none (.optional .word) fun v s => { s with maxMemory := v },
  .value "maxFileDescriptors" none (.optional .word) fun v s => { s with maxFds := v },
  overridesEntry format "system" fun o p => { p with system := o },
  overridesEntry format "transient" fun o p => { p with transient := o },
  overridesEntry format "peer" fun o p => { p with peer := o },
  overridesEntry format "protocol" fun o p => { p with protocol := o },
  overridesEntry format "conn" fun o p => { p with connection := o }]

/-- How the node joins the overlay. -/
def routingSchema : Schema Routing := [
  .value "bootstrapPeers" none texts fun v s => { s with peers := v },
  .value "bootstrapTimeout" none Duration.reader fun v s => { s with timeout := v },
  .value "minSeedResponses" none .word fun v s => { s with minResponses := v },
  .value "retryInterval" none Duration.reader fun v s => { s with retryInterval := v }]

/-- What to do without the network secret. -/
def securitySchema (format : Format) : Schema SecretPolicy := [
  .value "onSecretError" none (.choice format SecretPolicy.choices) fun v _ => v]

/-- Where metrics are served. -/
def daemonSchema : Schema Int := [
  .value "promPort" (some "PromPort") (.integer (-2 ^ 31) (2 ^ 31 - 1)) fun v _ => v]

/-- The sections of the configuration. -/
def schema (format : Format) : Schema Config := [
  .section "network" (some "Network") networkSchema .standard fun v c => { c with network := v },
  .section "connMgr" (some "ConnMgr") connectionsSchema .standard
    fun v c => { c with connections := v },
  .section "acl" (some "ACL") (accessSchema format) .standard fun v c => { c with access := v },
  .section "relayV2" (some "RelayV2") relaySchema .standard fun v c => { c with relay := v },
  .section "resources" none (resourcesSchema format) .standard
    fun v c => { c with resources := v },
  .section "routing" none routingSchema .standard fun v c => { c with routing := v },
  .section "security" none (securitySchema format) .standard
    fun v c => { c with onSecretError := v },
  .section "daemon" (some "Daemon") daemonSchema standardPort fun v c => { c with port := v }]

/-- Reads a document as a configuration. -/
def ofDocument (format : Format) (d : Document) : Except Flaw Config :=
  (schema format).read standard 0 d

/-- The paths of the keys in a document that no setting takes. -/
def unknownKeys (format : Format) (d : Document) : List String := (schema format).unknown "" d

end Config

end CircuitRelay
