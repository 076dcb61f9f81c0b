import CircuitRelay.Address.Basic
import CircuitRelay.Ip.Scope

/-!
# Which addresses may be announced

An address is public when the open network can reach it.  The first IP address in it decides;
without one the first host name does, which must not be the local host's or of the local domain.
An address with neither is never public.
-/

namespace CircuitRelay

namespace Address

/-- The scope of the first IP address in an address. -/
def scope? (a : Address) : Option Scope := a.ip?.bind Ip.scope?

/-- The host name of a component. -/
def componentHost? : Component → Option String
  | .dns s => some s
  | .dns4 s => some s
  | .dns6 s => some s
  | .dnsaddr s => some s
  | _ => none

/-- The first host name in an address. -/
def host? (a : Address) : Option String := a.components.findSome? componentHost?

/-- A host name without its final points, in lower case. -/
def normalHost (s : String) : List Char :=
  ((s.toList.reverse.dropWhile (· = '.')).reverse).map Char.toLower

/-- Whether a host name lies in a domain or is that domain. -/
def isInDomain (domain name : List Char) : Bool :=
  name = domain || ('.' :: domain).isSuffixOf name

/-- Whether a host name may belong to a host of the open network. -/
def isPublicHost (s : String) : Bool :=
  !(isInDomain "localhost".toList (normalHost s)) && !(isInDomain "local".toList (normalHost s))

/-- Whether the open network can reach an address. -/
def isPublic (a : Address) : Bool :=
  match a.ip? with
  | some ip => ip.scope? = some .public
  | none =>
    match a.host? with
    | some name => isPublicHost name
    | none => false

end Address

end CircuitRelay
