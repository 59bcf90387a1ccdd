import Passage.SslMode
import Passage.Text.Split

namespace Passage.Report

inductive HopKind where
  | socks
  | ssh
  deriving DecidableEq

inductive Outcome where
  | ok
  | error
  deriving DecidableEq

inductive Mechanism where
  | cleartext
  | scram
  deriving DecidableEq

def HopKind.name : HopKind → String
  | .socks => "socks5"
  | .ssh => "ssh"

def Outcome.name : Outcome → String
  | .ok => "ok"
  | .error => "error"

def Outcome.of {ε α : Type} : Except ε α → Outcome
  | .ok _ => .ok
  | .error _ => .error

def Mechanism.name : Mechanism → String
  | .cleartext => "cleartext"
  | .scram => "scram-sha-256"

/-- One thing that is counted, or one duration that is recorded. -/
inductive Metric where
  | hopConnected (hop : HopKind) (outcome : Outcome)
  | listenerAccepted
  | probed (mode : SslMode) (outcome : Outcome)
  | authAttempted (mechanism : Mechanism)
  | authSucceeded (mechanism : Mechanism)
  | chainTimed (hops : Nat)
  | authTimed (mechanism : Mechanism)
  deriving DecidableEq

def labelled (name : String) (labels : List (String × String)) : String :=
  name ++ "\x7b" ++
    Text.joinWith "," (labels.map fun (label, value) => label ++ "=" ++ value) ++ "\x7d"

/-- The name under which a metric is counted, its labels in alphabetical order. -/
def Metric.name : Metric → String
  | .hopConnected hop outcome =>
    labelled "hop_connects_total" [("hop", hop.name), ("outcome", outcome.name)]
  | .listenerAccepted => "listener_accepted_total"
  | .probed mode outcome =>
    labelled "ssl_probes_total" [("mode", mode.name), ("outcome", outcome.name)]
  | .authAttempted mechanism => labelled "auth_attempted_total" [("mechanism", mechanism.name)]
  | .authSucceeded mechanism => labelled "auth_successful_total" [("mechanism", mechanism.name)]
  | .chainTimed hops => labelled "chain_connect_ms" [("hops", toString hops)]
  | .authTimed mechanism => labelled "auth_duration_ms" [("mechanism", mechanism.name)]

/-- How often each metric was emitted, in the order in which they first were. -/
def tally (metrics : List Metric) : List (Metric × Nat) :=
  metrics.eraseDups.map fun m => (m, metrics.count m)

end Passage.Report
