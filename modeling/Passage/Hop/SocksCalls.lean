import Passage.Hop.Socks

namespace Passage.Socks

inductive Setback where
  | unreachable (fault : IoFault)
  | handshake (failure : Failure)
  | late
  deriving DecidableEq

def Setback.blame (proxy : Proxy) (next : Endpoint) : Setback → Fault
  | .unreachable fault => .proxyConnect proxy.address fault.text ""
  | .handshake failure => failure.blame proxy next
  | .late => .proxyConnect proxy.address "SOCKS5 handshake timed out" ""

inductive Point where
  /-- The flag of the hop is looked at before anything else is done. -/
  | arriving
  | working
  | done (result : Except Fault Unit)

structure Hop where
  proxy : Proxy
  state : HopState := {}
  calls : List (Point × Endpoint) := []

/-- One access to what the calls share, so that a history of steps is an interleaving of calls and stops. -/
inductive Step where
  | call (next : Endpoint)
  | look (call : Nat)
  /-- The work takes time: the flag is looked at again before it goes on. -/
  | wait (call : Nat)
  | succeed (call : Nat)
  | fail (call : Nat) (setback : Setback)
  /-- A stop raises the flag, and that is all. -/
  | stop

namespace Hop

def stoppedFault (h : Hop) : Fault :=
  (HopSettings.socks h.proxy).stoppedFault

def place (h : Hop) (call : Nat) (point : Point) : Hop :=
  { h with calls := h.calls.modify call fun (_, next) => (point, next) }

/-- Ends a call by what its own work came to. -/
def finish (h : Hop) (call : Nat) (result : Except Fault Unit) : Hop :=
  { h with state := h.state.settle result }.place call (.done result)

/-- What a step makes of the hop. A step that does not fit changes nothing. -/
def step (h : Hop) : Step → Hop
  | .call next => { h with calls := h.calls ++ [(.arriving, next)] }
  | .look call =>
    match h.calls[call]? with
    | some (.arriving, _) =>
      h.place call (if h.state.stopped then .done (.error h.stoppedFault) else .working)
    | _ => h
  | .wait call =>
    match h.calls[call]? with
    | some (.working, _) => h.place call .arriving
    | _ => h
  | .succeed call =>
    match h.calls[call]? with
    | some (.working, _) => h.finish call (.ok ())
    | _ => h
  | .fail call setback =>
    match h.calls[call]? with
    | some (.working, next) => h.finish call (.error (setback.blame h.proxy next))
    | _ => h
  | .stop => { h with state := h.state.stop }

def run (h : Hop) (history : List Step) : Hop :=
  history.foldl step h

def result? (h : Hop) (call : Nat) : Option (Except Fault Unit) :=
  match h.calls[call]? with
  | some (.done result, _) => some result
  | _ => none

def metrics (h : Hop) : List Report.Metric :=
  h.calls.filterMap fun (point, _) =>
    match point with
    | .done result => some (.hopConnected .socks (Report.Outcome.of result))
    | _ => none

end Hop
end Passage.Socks
