import CircuitRelay.Config.Schema
import CircuitRelay.Document.Printer

/-!
# Writing the configuration

A configuration is written with the first key of every setting.  Budgets and verdicts that are not
set are left out; ceilings that are not set are written as missing values.
-/

namespace CircuitRelay

namespace Config

open Document

/-- A written duration. -/
def durationDocument (d : Duration) : Document := .text d.toText

/-- A setting that is left out when it is not set. -/
def optionalField {α : Type} (key : String) (f : α → Document) (v : Option α) :
    List (String × Document) :=
  (v.map fun a => (key, f a)).toList

/-- Written ceilings of a scope. -/
def overridesDocument (o : Overrides) : Document :=
  ofFields (Resource.all.map fun r => (resourceKey r, ofOption ofNat (o.get r)))

/-- The written section of the relay's bounds. -/
def boundsDocument (s : RelaySettings) : Document := ofFields [
  ("limit",
    ofFields [("duration", durationDocument s.circuitDuration), ("data", ofNat s.circuitData)]),
  ("reservationTTL", durationDocument s.reservationTtl),
  ("maxReservations", ofNat s.maxReservations),
  ("maxCircuits", ofNat s.maxCircuits),
  ("bufferSize", ofNat s.bufferSize),
  ("maxReservationsPerPeer", ofNat s.maxReservationsPerPeer),
  ("maxReservationsPerIP", ofNat s.maxReservationsPerIp)]

/-- The written configuration. -/
def toDocument (c : Config) : Document := ofFields [
  ("network", ofFields [
    ("listenAddrs", ofTexts c.network.listen),
    ("announceAddrs", ofTexts c.network.announce)]),
  ("connMgr", ofFields [
    ("low", ofNat c.connections.low),
    ("high", ofNat c.connections.high),
    ("grace", durationDocument c.connections.grace)]),
  ("acl", ofFields ([
    ("allowPeers", ofTexts c.access.allowPeers),
    ("denyPeers", ofTexts c.access.denyPeers),
    ("allowSubnets", ofTexts c.access.allowSubnets)] ++
    optionalField "default" (fun v => .text v.name) c.access.default ++
    optionalField "maxConnsPerPeer" ofNat c.access.maxConnections ++
    [("audit", .flag c.access.audit)])),
  ("relayV2", ofFields [
    ("enabled", .flag c.relay.enabled),
    ("resources", boundsDocument c.relay.settings)]),
  ("resources", ofFields (
    optionalField "maxMemory" ofNat c.resources.maxMemory ++
    optionalField "maxFileDescriptors" ofNat c.resources.maxFds ++ [
    ("system", overridesDocument c.resources.overrides.system),
    ("transient", overridesDocument c.resources.overrides.transient),
    ("peer", overridesDocument c.resources.overrides.peer),
    ("protocol", overridesDocument c.resources.overrides.protocol),
    ("conn", overridesDocument c.resources.overrides.connection)])),
  ("routing", ofFields [
    ("bootstrapPeers", ofTexts c.routing.peers),
    ("bootstrapTimeout", durationDocument c.routing.timeout),
    ("minSeedResponses", ofNat c.routing.minResponses),
    ("retryInterval", durationDocument c.routing.retryInterval)]),
  ("security", ofFields [("onSecretError", .text c.onSecretError.name)]),
  ("daemon", ofFields [("promPort", .integer c.port)])]

end Config

end CircuitRelay
