/-!
# What to do without a network secret

A private network needs its secret.  When the secret cannot be loaded, the policy decides whether
the node refuses to start or joins the public network instead.
-/

namespace CircuitRelay

/-- What to do when the network secret cannot be loaded. -/
inductive SecretPolicy where
  | fatal
  | «public»
  deriving DecidableEq, Repr

namespace SecretPolicy

/-- The policy of a node without settings. -/
def standard : SecretPolicy := .fatal

/-- The name of a policy. -/
def name : SecretPolicy → String
  | .fatal => "fatal"
  | .public => "public"

/-- The policies by name. -/
def choices : List (String × SecretPolicy) := [("fatal", .fatal), ("public", .public)]

/-- The policy of a name. -/
def ofName? (s : String) : Option SecretPolicy := choices.lookup s

/-- The words for a name that is none. -/
def faultMessage : String := "Matching variant not found"

/-- What is left of the outcome of loading a secret. -/
def apply {ε α : Type} (p : SecretPolicy) (loaded : Except ε (Option α)) : Except ε (Option α) :=
  match p, loaded with
  | .public, .error _ => .ok none
  | _, loaded => loaded

end SecretPolicy

end CircuitRelay
