import Passage.Fault

namespace Passage.Login

/-- A connection only ever walks forward through its phases, and may be closed from any of them. -/
inductive Phase where
  | initial
  | negotiatingTls
  | awaitingAuth
  | authenticating
  | ready
  | closed
  deriving DecidableEq

namespace Phase

def all : List Phase :=
  [.initial, .negotiatingTls, .awaitingAuth, .authenticating, .ready, .closed]

def name : Phase → String
  | .initial => "initial"
  | .negotiatingTls => "negotiating_tls"
  | .awaitingAuth => "awaiting_auth"
  | .authenticating => "authenticating"
  | .ready => "ready"
  | .closed => "closed"

def debug : Phase → String
  | .initial => "Initial"
  | .negotiatingTls => "NegotiatingTls"
  | .awaitingAuth => "AwaitingAuth"
  | .authenticating => "Authenticating"
  | .ready => "Ready"
  | .closed => "Closed"

def ofName? (text : String) : Option Phase :=
  all.find? fun phase => phase.name = text

/-- The phases that may come next, apart from the end. -/
def successors : Phase → List Phase
  | .initial => [.negotiatingTls, .awaitingAuth]
  | .negotiatingTls => [.awaitingAuth]
  | .awaitingAuth => [.authenticating]
  | .authenticating => [.ready]
  | .ready | .closed => []

def canBecome (phase next : Phase) : Bool :=
  next = .closed || next ∈ phase.successors

def advance (phase next : Phase) : Except Fault Phase :=
  if phase.canBecome next then .ok next
  else .error (.invalidState ("a successor of " ++ phase.name) next.name)

end Phase
end Passage.Login
