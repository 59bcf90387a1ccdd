import Passage.Hop.Plan
import Passage.Hop.State
import Passage.Report.Metric

namespace Passage.Ssh

inductive Failure where
  | invalidKey
  | unreachable (fault : IoFault)
  | broken (reason : String)
  | rejected
  | channelRefused (reason : String)
  deriving DecidableEq

def prohibited : Failure := .channelRefused "Failed to open channel (AdministrativelyProhibited)"

def Failure.blame (host : JumpHost) (next : Endpoint) : Failure → Fault
  | .invalidKey => .sshConnect host.label "invalid private key" ""
  | .unreachable fault => .sshConnect host.label fault.text ""
  | .broken reason => .sshConnect host.label reason ""
  | .rejected => .sshConnect host.label "public key authentication rejected" ""
  | .channelRefused reason =>
    .sshForward host.label (reason ++ " (next hop " ++ next.text ++ ")") ""

/-- What a call is waiting for: the login, or the channel. -/
inductive Errand where
  | login
  | channel
  deriving DecidableEq

inductive Point where
  /-- The flag of the hop is looked at before anything else is done. -/
  | arriving (errand : Errand)
  | working (errand : Errand)
  | registering
  /-- The session is registered; a stop may have come in between. -/
  | checking
  /-- A stop was found: the sessions are given up. -/
  | withdrawing
  | done (result : Except Fault Unit)

/-- One hop with its calls. -/
structure Hop where
  host : JumpHost
  state : HopState := {}
  calls : List (Point × Endpoint) := []
  /-- The sessions that are registered and not given up. -/
  sessions : List Nat := []
  /-- The sessions handed over for disconnection. -/
  disconnected : List Nat := []
  /-- The sessions let go of without a word to their servers. -/
  dropped : List Nat := []
  /-- How many stops have raised the flag and not yet taken the sessions. -/
  stopping : Nat := 0

/-- One access to what the calls share, so that a history of steps is an interleaving of calls and stops. Whoever
takes the sessions may do so inside a runtime, which can run their disconnection, or outside one. -/
inductive Step where
  | call (next : Endpoint)
  | look (call : Nat)
  /-- The errand takes time: the flag is looked at again before it goes on. -/
  | wait (call : Nat)
  | succeed (call : Nat)
  | fail (call : Nat) (failure : Failure)
  | register (call : Nat)
  | check (call : Nat)
  | withdraw (call : Nat) (runtime : Bool)
  | raise
  | sweep (runtime : Bool)

/-- Whether a step takes the sessions outside a runtime. -/
def Step.isOutside : Step → Bool
  | .withdraw _ runtime | .sweep runtime => !runtime
  | _ => false

namespace Hop

def stoppedFault (h : Hop) : Fault :=
  (HopSettings.ssh h.host).stoppedFault

def place (h : Hop) (call : Nat) (point : Point) : Hop :=
  { h with calls := h.calls.modify call fun (_, next) => (point, next) }

/-- Ends a call by what its own work came to. -/
def finish (h : Hop) (call : Nat) (result : Except Fault Unit) : Hop :=
  { h with state := h.state.settle result }.place call (.done result)

/-- Takes all registered sessions. A runtime is handed them for disconnection; without one they are dropped. -/
def giveUp (h : Hop) (runtime : Bool) : Hop :=
  { h with
    sessions := []
    disconnected := h.disconnected ++ if runtime then h.sessions else []
    dropped := h.dropped ++ if runtime then [] else h.sessions }

/-- What a step makes of the hop. A step that does not fit changes nothing. -/
def step (h : Hop) : Step → Hop
  | .call next => { h with calls := h.calls ++ [(.arriving .login, next)] }
  | .look call =>
    match h.calls[call]? with
    | some (.arriving errand, _) =>
      if h.state.stopped then h.place call (.done (.error h.stoppedFault))
      else h.place call (.working errand)
    | _ => h
  | .wait call =>
    match h.calls[call]? with
    | some (.working errand, _) => h.place call (.arriving errand)
    | _ => h
  | .succeed call =>
    match h.calls[call]? with
    | some (.working .login, _) => h.place call .registering
    | some (.working .channel, _) => h.finish call (.ok ())
    | _ => h
  | .fail call failure =>
    match h.calls[call]? with
    | some (.working _, next) => h.finish call (.error (failure.blame h.host next))
    | _ => h
  | .register call =>
    match h.calls[call]? with
    | some (.registering, _) => { h with sessions := h.sessions ++ [call] }.place call .checking
    | _ => h
  | .check call =>
    match h.calls[call]? with
    | some (.checking, _) =>
      h.place call (if h.state.stopped then .withdrawing else .working .channel)
    | _ => h
  | .withdraw call runtime =>
    match h.calls[call]? with
    | some (.withdrawing, _) => (h.giveUp runtime).finish call (.error h.stoppedFault)
    | _ => h
  | .raise => { h with state := h.state.stop, stopping := h.stopping + 1 }
  | .sweep runtime => if h.stopping = 0 then h else { h.giveUp runtime with stopping := h.stopping - 1 }

def run (h : Hop) (history : List Step) : Hop :=
  history.foldl step h

/-- A whole stop inside a runtime, without anything in between. -/
def stop (h : Hop) : Hop :=
  h.run [.raise, .sweep true]

def result? (h : Hop) (call : Nat) : Option (Except Fault Unit) :=
  match h.calls[call]? with
  | some (.done result, _) => some result
  | _ => none

def wantsChannel (h : Hop) (call : Nat) : Bool :=
  match h.calls[call]? with
  | some (.working .channel, _) => true
  | _ => false

def metrics (h : Hop) : List Report.Metric :=
  h.calls.filterMap fun (point, _) =>
    match point with
    | .done result => some (.hopConnected .ssh (Report.Outcome.of result))
    | _ => none

def debug (h : Hop) : String :=
  Quoted.record "SshHop"
    [("server", Quoted.text h.host.label), ("sessions", toString h.sessions.length)]

end Hop
end Passage.Ssh
