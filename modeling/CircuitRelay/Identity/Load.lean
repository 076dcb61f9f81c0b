import CircuitRelay.File
import CircuitRelay.Identity.Key

/-!
# Loading the identity

The identity of a node is kept in a file.  When there is none, a new key is drawn and written so
that only the owner may read it; a file that cannot be read or decoded is never replaced.
-/

namespace CircuitRelay

namespace Identity

/-- Why there is no identity. -/
inductive Fault where
  | read (fault : File.Fault)
  | write (fault : File.Fault)
  | decode (fault : IdentityKey.Fault)
  deriving DecidableEq, Repr

/-- A loaded identity. -/
structure Loaded where
  key : IdentityKey
  /-- What was written to the file, if the key is new. -/
  written : Option (List UInt8)
  deriving DecidableEq, Repr

/-- The permissions of a written file: the owner may read it. -/
def fileMode : Nat := 0o400

/-- Loads the identity from a file; `fresh` is the key that is drawn when there is none. -/
def load (file : File) (fresh : IdentityKey) : Except Fault Loaded :=
  match file with
  | .missing => .ok ⟨fresh, some fresh.encode⟩
  | .missingDirectory => .error (.write .notFound)
  | .directory => .error (.read .isDirectory)
  | .octets content =>
    match IdentityKey.decode content with
    | .ok key => .ok ⟨key, none⟩
    | .error f => .error (.decode f)

/-- The file after loading. -/
def fileAfter (file : File) (fresh : IdentityKey) : File :=
  match load file fresh with
  | .ok ⟨_, some content⟩ => .octets content
  | _ => file

end Identity

end CircuitRelay
