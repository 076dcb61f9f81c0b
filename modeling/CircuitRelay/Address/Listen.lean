import CircuitRelay.Address.Basic

/-!
# Addresses to listen on

The node listens on TCP ports of IP addresses.  The end of an address decides: a port behind an IP
address, with nothing behind it but peers.
-/

namespace CircuitRelay

namespace Address

/-- Whether components, the last one first, lead from a port to an IP address. -/
def endsInPort : Bool → List Component → Bool
  | seen, .ip4 _ :: _ => seen
  | seen, .ip6 _ :: _ => seen
  | seen, .tcp _ :: rest => !seen && endsInPort true rest
  | seen, .p2p _ :: rest => endsInPort seen rest
  | _, _ => false

/-- Whether the node can listen on an address. -/
def isListenable (a : Address) : Bool := endsInPort false a.components.reverse

end Address

end CircuitRelay
