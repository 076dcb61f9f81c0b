import CircuitRelay.Startup

/-!
# The command

Reads the files that the command line names, starts a node, prints what it tells its operator, and
stops it.  The node's transports are not part of the library, so nothing is served in between.
-/

namespace CircuitRelay

namespace Command

/-- The usage of the command. -/
def usage : List String := [
  "libp2p circuit relay daemon",
  "",
  "Usage: relayd [OPTIONS]",
  "",
  "Options:",
  "      --id <PATH>            Identity key file path. Created if missing",
  "      --config <PATH>        JSON (or .toml) configuration file",
  "      --swarmkey <PATH>      Multicodec-encoded v1 private swarm key",
  "  -q, --quiet                Log errors only",
  "  -v, --verbosity...         Log more",
  "      --log.filter <FILTER>  Further log filter directives",
  "      --log.json             Log as JSON",
  "  -h, --help                 Print help",
  "  -V, --version              Print version"]

/-- Finds what stands at a path. -/
def findFile (path : String) : IO File := do
  try
    let content ← IO.FS.readBinFile path
    return .octets content.toList
  catch
    | .noFileOrDirectory .. => return .missing
    | .inappropriateType .. => return .directory
    | e => throw e

/-- The octets of memory of the machine, zero when it does not say. -/
def machineMemory : IO Nat := do
  try
    let text ← IO.FS.readFile "/proc/meminfo"
    let words := ((text.splitOn "\n").head?.getD "").splitOn " "
    return ((words.filterMap String.toNat?).head?.getD 0) * 1024
  catch _ => return 0

/-- Writes a new identity so that only its owner may read it. -/
def writeIdentity (path : String) (content : List UInt8) : IO Unit := do
  IO.FS.writeBinFile path (ByteArray.mk content.toArray)
  IO.setAccessRights path ⟨⟨true, false, false⟩, {}, {}⟩

/-- Starts a node and stops it. -/
def runNode (line : CommandLine) : IO UInt32 := do
  let seed ← IO.getRandomBytes IdentityKey.seedLength.toUSize
  let around : Surroundings := {
    config := ← findFile (line.config.getD "")
    identity := ← findFile line.id
    secret := ← line.secret.mapM findFile
    fresh := ⟨seed.toList⟩
    memory := ← machineMemory }
  match Startup.prepare line around 0 with
  | .error f =>
    IO.eprintln ("Error: " ++ f.message)
    return 1
  | .ok node =>
    if let some content := node.newIdentity then
      writeIdentity line.id content
    for l in node.runToEnd.1 do
      IO.println l
    return 0

/-- Carries out a command line; the answer is the exit code. -/
def run (args : List String) : IO UInt32 := do
  match CommandLine.ofArguments args with
  | .error .help =>
    for l in usage do
      IO.println l
    return 0
  | .error .version =>
    IO.println "relayd 0.1.0"
    return 0
  | .error reason =>
    IO.eprintln ("error: " ++ reason.name)
    return 2
  | .ok line => runNode line

end Command

end CircuitRelay

def main (args : List String) : IO UInt32 := CircuitRelay.Command.run args
