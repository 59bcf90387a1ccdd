import Passage.Net.IoFault

namespace Passage.Rehearsal

/-- Addresses can be taken in either case, but only a network that is up lets anybody dial them. -/
inductive Network where
  | up
  | down
  deriving DecidableEq

def Network.dial {α : Type} (network : Network) (answer : Except IoFault α) : Except IoFault α :=
  match network with
  | .up => answer
  | .down => .error .unreachable

def entryPort : UInt16 := 49152

end Passage.Rehearsal
