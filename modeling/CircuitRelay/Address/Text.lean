import CircuitRelay.Address.Basic
import CircuitRelay.Ip.Text
import CircuitRelay.Text.Percent

/-!
# Addresses in text

The text of an address is a path: every protocol name stands after a slash, followed by its
argument when it takes one.  Reading accepts `ipfs` for `p2p`, signs and leading zeros in numbers
and any spelling of an IPv6 address; writing is canonical, so two texts of one address are
written alike.
-/

namespace CircuitRelay

namespace Address

/-- Why an argument of a protocol was refused. -/
inductive ArgumentFault where
  | ipv4
  | ipv6
  | integer (fault : Text.IntegerFault)
  | base
  /-- A peer whose octets are no multihash for peers. -/
  | peer (fault : PeerId.Fault)
  | utf8 (fault : Text.Utf8Fault)
  deriving DecidableEq, Repr

/-- The words for a refused argument. -/
def ArgumentFault.message : ArgumentFault → String
  | .ipv4 => "invalid IPv4 address syntax"
  | .ipv6 => "invalid IPv6 address syntax"
  | .integer f => f.message
  | .base => "Invalid base string"
  | .peer f => f.message
  | .utf8 f => f.message

/-- Why a text is no address. -/
inductive Fault where
  /-- The text does not start with a slash. -/
  | notAPath
  | missingArgument
  | unknownProtocol (name : String)
  | argument (fault : ArgumentFault)
  deriving DecidableEq, Repr

/-- The words for a fault. -/
def Fault.message : Fault → String
  | .notAPath => "invalid multiaddr"
  | .missingArgument => "invalid protocol string"
  | .unknownProtocol name => "unknown protocol string: " ++ name
  | .argument f => "failed to parse: " ++ f.message

/-- The largest port. -/
def maxPort : Nat := 2 ^ 16 - 1

/-- Reads a number as the argument of a component. -/
def readNumber (max : Nat) (make : Nat → Component) (arg : String) :
    Except ArgumentFault Component :=
  match Text.readNat max arg.toList with
  | .ok n => .ok (make n)
  | .error f => .error (.integer f)

/-- Reads a percent-encoded path as the argument of a component. -/
def readPath (make : String → Component) (arg : String) : Except ArgumentFault Component :=
  match Text.Percent.decode arg with
  | .ok s => .ok (make s)
  | .error f => .error (.utf8 f)

/-- Reads a peer as the argument of a component. -/
def readPeer (arg : String) : Except ArgumentFault Component :=
  match Codec.Base58.decode arg with
  | .error _ => .error .base
  | .ok bs =>
    match PeerId.ofOctets bs with
    | .ok p => .ok (.p2p p)
    | .error f => .error (.peer f)

/-- What a protocol name announces. -/
inductive Protocol where
  | plain (component : Component)
  | withArgument (read : String → Except ArgumentFault Component)

/-- The protocol of a name. -/
def protocol? : String → Option Protocol
  | "ip4" => some (.withArgument fun s =>
      match IPv4.ofText? s with
      | some a => .ok (.ip4 a)
      | none => .error .ipv4)
  | "ip6" => some (.withArgument fun s =>
      match IPv6.ofText? s with
      | some a => .ok (.ip6 a)
      | none => .error .ipv6)
  | "ip6zone" => some (.withArgument fun s => .ok (.ip6zone s))
  | "ipcidr" => some (.withArgument (readNumber 255 .ipcidr))
  | "dns" => some (.withArgument fun s => .ok (.dns s))
  | "dns4" => some (.withArgument fun s => .ok (.dns4 s))
  | "dns6" => some (.withArgument fun s => .ok (.dns6 s))
  | "dnsaddr" => some (.withArgument fun s => .ok (.dnsaddr s))
  | "tcp" => some (.withArgument (readNumber maxPort .tcp))
  | "udp" => some (.withArgument (readNumber maxPort .udp))
  | "dccp" => some (.withArgument (readNumber maxPort .dccp))
  | "sctp" => some (.withArgument (readNumber maxPort .sctp))
  | "memory" => some (.withArgument (readNumber (2 ^ 64 - 1) .memory))
  | "unix" => some (.withArgument fun s => .ok (.unix s))
  | "sni" => some (.withArgument fun s => .ok (.sni s))
  | "p2p" => some (.withArgument readPeer)
  | "ipfs" => some (.withArgument readPeer)
  | "x-parity-ws" => some (.withArgument (readPath .ws))
  | "x-parity-wss" => some (.withArgument (readPath .wss))
  | "ws" => some (.plain (.ws "/"))
  | "wss" => some (.plain (.wss "/"))
  | "tls" => some (.plain .tls)
  | "noise" => some (.plain .noise)
  | "quic" => some (.plain .quic)
  | "quic-v1" => some (.plain .quicV1)
  | "http" => some (.plain .http)
  | "https" => some (.plain .https)
  | "utp" => some (.plain .utp)
  | "udt" => some (.plain .udt)
  | "webtransport" => some (.plain .webtransport)
  | "webrtc" => some (.plain .webrtc)
  | "webrtc-direct" => some (.plain .webrtcDirect)
  | "p2p-circuit" => some (.plain .p2pCircuit)
  | "p2p-stardust" => some (.plain .p2pStardust)
  | "p2p-websocket-star" => some (.plain .p2pWebsocketStar)
  | "p2p-webrtc-star" => some (.plain .p2pWebrtcStar)
  | "p2p-webrtc-direct" => some (.plain .p2pWebrtcDirect)
  | _ => none

/-- Reads the pieces between the slashes. -/
def readPieces : List String → Except Fault (List Component)
  | [] => .ok []
  | name :: rest =>
    match protocol? name with
    | none => .error (.unknownProtocol name)
    | some (.plain c) => (readPieces rest).map (c :: ·)
    | some (.withArgument read) =>
      match rest with
      | [] => .error .missingArgument
      | arg :: rest =>
        match read arg with
        | .error f => .error (.argument f)
        | .ok c => (readPieces rest).map (c :: ·)

/-- The pieces of a text between slashes. -/
def pieces (s : String) : List String := (s.toList.splitOn '/').map String.ofList

/-- Reads an address. -/
def ofText (s : String) : Except Fault Address :=
  match pieces s with
  | "" :: rest => (readPieces rest).map Address.mk
  | _ => .error .notAPath

/-- The text of a number. -/
def numberText (n : Nat) : String := String.ofList (Text.digits n)

/-- The pieces of a component, its name first. -/
def componentPieces : Component → List String
  | .ip4 a => ["ip4", a.toText]
  | .ip6 a => ["ip6", a.toText]
  | .ip6zone s => ["ip6zone", s]
  | .ipcidr n => ["ipcidr", numberText n]
  | .dns s => ["dns", s]
  | .dns4 s => ["dns4", s]
  | .dns6 s => ["dns6", s]
  | .dnsaddr s => ["dnsaddr", s]
  | .tcp n => ["tcp", numberText n]
  | .udp n => ["udp", numberText n]
  | .dccp n => ["dccp", numberText n]
  | .sctp n => ["sctp", numberText n]
  | .memory n => ["memory", numberText n]
  | .unix s => ["unix", s]
  | .sni s => ["sni", s]
  | .p2p p => ["p2p", p.toText]
  | .ws s => if s = "/" then ["ws"] else ["x-parity-ws", Text.Percent.encode s]
  | .wss s => if s = "/" then ["wss"] else ["x-parity-wss", Text.Percent.encode s]
  | .tls => ["tls"]
  | .noise => ["noise"]
  | .quic => ["quic"]
  | .quicV1 => ["quic-v1"]
  | .http => ["http"]
  | .https => ["https"]
  | .utp => ["utp"]
  | .udt => ["udt"]
  | .webtransport => ["webtransport"]
  | .webrtc => ["webrtc"]
  | .webrtcDirect => ["webrtc-direct"]
  | .p2pCircuit => ["p2p-circuit"]
  | .p2pStardust => ["p2p-stardust"]
  | .p2pWebsocketStar => ["p2p-websocket-star"]
  | .p2pWebrtcStar => ["p2p-webrtc-star"]
  | .p2pWebrtcDirect => ["p2p-webrtc-direct"]

/-- The canonical text of an address. -/
def toText (a : Address) : String :=
  String.join ((a.components.flatMap componentPieces).map ("/" ++ ·))

end Address

end CircuitRelay
