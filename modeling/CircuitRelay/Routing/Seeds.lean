import CircuitRelay.Address.Text
import CircuitRelay.Duration.Basic

/-!
# Seeds

A node joins the overlay through seeds: peers that are known beforehand.  A seed is configured as
an address that ends in its peer id; `Seed.ofAddress` takes the two apart.
-/

namespace CircuitRelay

/-- A peer that is known beforehand. -/
structure Seed where
  peer : PeerId
  /-- Where it is reached. -/
  address : Address
  deriving DecidableEq, Repr

namespace Seed

/-- Why an address is no seed: it does not end in a peer id. -/
structure Fault where
  address : Address
  deriving DecidableEq, Repr

/-- The words for a fault. -/
def Fault.message (f : Fault) : String :=
  "bootstrap address " ++ f.address.toText ++ " has no /p2p/ peer id"

/-- Takes a seed's peer off the end of its address. -/
def ofAddress (a : Address) : Except Fault Seed :=
  match a.splitPeer? with
  | some (peer, address) => .ok ⟨peer, address⟩
  | none => .error ⟨a⟩

end Seed

/-- How the node joins the overlay. -/
structure RoutingSettings where
  /-- The configured seeds, each ending in its peer id. -/
  bootstrapPeers : List Address
  /-- A round that takes this long is given up. -/
  timeout : Duration
  /-- How many seeds have to be connected for a round to succeed. -/
  minResponses : Nat
  /-- The time between a failed round and the next one. -/
  retryInterval : Duration
  deriving DecidableEq, Repr

namespace RoutingSettings

/-- The seeds of the public overlay, as text. -/
def publicPeers : List String := [
  "/dnsaddr/bootstrap.libp2p.io/p2p/QmNnooDu7bfjPFoTZYxMNLWUQJyrVwtbZg5gBMjTezGAJN",
  "/dnsaddr/bootstrap.libp2p.io/p2p/QmQCU2EcMqAqQPR2i9bChDtGNJchTbq5TbXJJ16u19uLTa",
  "/dnsaddr/bootstrap.libp2p.io/p2p/QmbLHAnMoJPWSCR5Zhtx6BHJX9KiKNN6tpvbUcqanj75Nb",
  "/dnsaddr/bootstrap.libp2p.io/p2p/QmcZf59bWwK5XFi76CZX8cbJ4BhTzzA3gU1ZjYZcYW3dwt",
  "/ip4/104.131.131.82/tcp/4001/p2p/QmaCpDMGvV2BGHeYERUEnRQAwe3N8SzbUtfsmvsqQLuvuJ"]

/-- The settings of a node without settings. -/
def standard : RoutingSettings where
  bootstrapPeers := publicPeers.filterMap fun s => (Address.ofText s).toOption
  timeout := .ofSeconds 60
  minResponses := 1
  retryInterval := .ofSeconds 300

/-- The seeds, in order; the first address without a peer id is the fault. -/
def seeds (s : RoutingSettings) : Except Seed.Fault (List Seed) :=
  s.bootstrapPeers.mapM Seed.ofAddress

end RoutingSettings

end CircuitRelay
