import CircuitRelay.Address.Basic
import CircuitRelay.Crypto.Sha2
import CircuitRelay.Distinct
import CircuitRelay.Table

/-!
# What the node knows of the overlay

The overlay keeps, for every other peer, the addresses it was told, each ending in that peer's id.
Peers stand at places, which are hashes of their ids, and their distance is the exclusive or of
their places.  Of the peers whose distance from the node has its highest bit at one place only so
many are kept, those learned first.  The overlay can be searched as soon as one peer is known;
searches are numbered in the order in which they began.
-/

namespace CircuitRelay

/-- The number of a search. -/
abbrev QueryId := Nat

/-- The node's view of the overlay. -/
structure Overlay where
  /-- The node itself, which is never a known peer. -/
  localPeer : PeerId
  /-- The addresses of the known peers, each ending in its peer. -/
  known : Table PeerId (List Address)
  /-- How many searches have begun. -/
  queries : Nat

namespace Overlay

/-- The view of a node that knows nobody. -/
def ofPeer (peer : PeerId) : Overlay := ⟨peer, .empty, 0⟩

/-- The known addresses of a peer. -/
def addresses (o : Overlay) (peer : PeerId) : List Address := (o.known.get? peer).getD []

/-- The place of a peer. -/
def place (peer : PeerId) : Nat :=
  Codec.ofDigits 256 ((Crypto.Sha2.sha256.hash peer.toOctets).map UInt8.toNat)

/-- The bucket of a peer: the place of the highest bit of its distance from the node. -/
def bucket (o : Overlay) (peer : PeerId) : Nat := (place o.localPeer ^^^ place peer).log2

/-- The number of peers that a bucket holds. -/
def bucketSize : Nat := 20

/-- Whether a peer is known or its bucket has room for it. -/
def hasRoom (o : Overlay) (peer : PeerId) : Bool :=
  o.known.contains peer ||
    let b := o.bucket peer
    (o.known.keys.filter fun p => o.bucket p = b).length < bucketSize

/-- Learns an address of a peer; the answer says whether it could be kept.  An address of the node
itself cannot, nor one that ends in another peer, nor one of a new peer whose bucket is full. -/
def learn (o : Overlay) (peer : PeerId) (a : Address) : Bool × Overlay :=
  if peer = o.localPeer then (false, o)
  else
    match a.withPeer? peer with
    | none => (false, o)
    | some full =>
      if o.hasRoom peer then
        (true, { o with known := o.known.insert peer (pushNew (o.addresses peer) full) })
      else (false, o)

/-- Begins a search if any peer is known. -/
def beginQuery (o : Overlay) : Option QueryId × Overlay :=
  if o.known.entries.isEmpty then (none, o)
  else (some o.queries, { o with queries := o.queries + 1 })

end Overlay

end CircuitRelay
