import CircuitRelay.Text.Utf8

/-!
# Files

What a component finds where a file should be.  Reading and writing fail for a cause that does not
depend on what the file is for.
-/

namespace CircuitRelay

/-- What is found at a path. -/
inductive File where
  | missing
  | missingDirectory
  | directory
  | octets (content : List UInt8)
  deriving DecidableEq, Repr

namespace File

/-- Why a file cannot be used. -/
inductive Fault where
  | notFound
  | isDirectory
  | invalidData
  deriving DecidableEq, Repr

/-- The name of a fault. -/
def Fault.name : Fault → String
  | .notFound => "NotFound"
  | .isDirectory => "IsADirectory"
  | .invalidData => "InvalidData"

/-- The octets of a file. -/
def read : File → Except Fault (List UInt8)
  | .missing | .missingDirectory => .error .notFound
  | .directory => .error .isDirectory
  | .octets content => .ok content

/-- The characters of a text file. -/
def readText (f : File) : Except Fault (List Char) := do
  match Text.Utf8.decode (← f.read) with
  | .ok cs => .ok cs
  | .error _ => .error .invalidData

/-- The extension of the last name of a path; a name that starts with its only point has none. -/
def extension? (path : String) : Option String :=
  let name := ((path.toList.splitOn '/').getLast?).getD []
  let ext := name.reverse.takeWhile (· ≠ '.')
  let stem := name.length - (ext.length + 1)
  if name.contains '.' && stem ≠ 0 && name ≠ ['.', '.'] then some (String.ofList ext.reverse)
  else none

end File

end CircuitRelay
