import CircuitRelay.CommandLine
import CircuitRelay.Config.Load
import CircuitRelay.Config.Resolve
import CircuitRelay.Host.Basic
import CircuitRelay.Identity.Load
import CircuitRelay.Secret.Key

/-!
# Starting a node

A node is started from what its command line names: the configuration, the identity and the network
secret.  `Startup.prepare` reads the three in this order, builds the host, starts joining the
overlay and enables the relay; the first step that fails is the fault.  What it needs of the machine
stands in `Surroundings`, so the whole start is a function.
-/

namespace CircuitRelay

/-- What the machine gives to a node that starts. -/
structure Surroundings where
  /-- The file of the configuration. -/
  config : File
  /-- The file of the identity. -/
  identity : File
  /-- The file of the network secret, if the command line names one. -/
  secret : Option File
  /-- The identity to use when there is none yet. -/
  fresh : IdentityKey
  /-- The octets of memory of the machine. -/
  memory : Nat

/-- A node that is ready to run. -/
structure Startup where
  host : Host
  /-- What to write as the identity, if it is new. -/
  newIdentity : Option (List UInt8)
  /-- What the operator is told before the host runs. -/
  lines : List String

namespace Startup

/-- Why a node does not start. -/
inductive Fault where
  | config (fault : Config.LoadFault)
  | identity (fault : Identity.Fault)
  | secret (fault : NetworkSecret.LoadFault)
  | setting (fault : Config.Fault)
  /-- The host cannot be built, or one of its components does not start. -/
  | host (fault : Host.Fault)

/-- What is wrong with a configuration. -/
def configReason : Config.LoadFault → String
  | .file f => f.name
  | .json f => "invalid JSON: " ++ f.name
  | .toml => "invalid TOML"

/-- What is wrong with an identity. -/
def identityReason : Identity.Fault → String
  | .read f => f.name
  | .write f => "cannot be written: " ++ f.name
  | .decode f => f.text

/-- What is wrong with a network secret. -/
def secretReason : NetworkSecret.LoadFault → String
  | .file f => f.name
  | .text f => f.message

/-- The words for a fault. -/
def Fault.message : Fault → String
  | .config f => "failed to load configuration: " ++ configReason f
  | .identity f => "failed to load identity: " ++ identityReason f
  | .secret f => "failed to load network secret: " ++ secretReason f
  | .setting f => f.message
  | .host f => f.message

/-- What a host is built from. -/
def hostSettings (c : Config) (memory : Nat) : Except Fault HostSettings := do
  let listen ← c.listenAddresses.mapError .setting
  let disclosure ← c.disclosure.mapError .setting
  let watermarks ← c.watermarks.mapError .setting
  let routing ← c.routingSettings.mapError .setting
  .ok ⟨listen, disclosure, .ok watermarks, c.resourcePlan.resolve memory, routing⟩

/-- The host of a configuration, joining the overlay from a time on, with its relay enabled. -/
def buildHost (peer : PeerId) (c : Config) (memory : Nat) (now : Instant) : Except Fault Host := do
  let settings ← hostSettings c memory
  let built ← (Host.build peer settings).mapError .host
  let joining ← (built.startRouting now).mapError .host
  let list ← c.accessList.mapError .setting
  let (_, enabled) ← (joining.enableRelay c.relay list).mapError .host
  .ok enabled

/-- What the operator is told about the network. -/
def secretLines : Option NetworkSecret → List String
  | none => []
  | some s => ["PSK detected, private identity: " ++ Codec.Hex.encode s.fingerprint]

/-- Starts a node at a time. -/
def prepare (line : CommandLine) (around : Surroundings) (now : Instant) :
    Except Fault Startup := do
  let loaded ← (Config.load (line.config.getD "") around.config).mapError .config
  let identity ← (Identity.load around.identity around.fresh).mapError .identity
  let secret ←
    (loaded.config.onSecretError.apply (NetworkSecret.load around.secret)).mapError .secret
  let host ← buildHost identity.key.peerId loaded.config around.memory now
  .ok ⟨host, identity.written, secretLines secret⟩

/-- Runs a node that is told to stop before anything happens. -/
def runToEnd (s : Startup) : List String × Host :=
  let (lines, host) := s.host.runToEnd
  (s.lines ++ lines, host)

end Startup

end CircuitRelay
