import Passage.Hop.Plan
import Passage.Hop.State
import Passage.Report.Metric

namespace Passage

structure ChainHop where
  endpoint : Endpoint
  /-- What a connect ends in when it finds the hop stopped. -/
  onStop : Fault
  state : HopState := {}

structure Call (ρ : Type) where
  hop : Nat
  inbound : Option ρ
  next : Endpoint

/-- How far a connect has come. -/
inductive Progress (ρ : Type) where
  | idle
  | dialling
  /-- A hop is at work on an open stream: its own if none is inbound. -/
  | talking (hop : Nat) (inbound : Option ρ)

/-- A chain of hops for one connection, driven by what the hops' own work comes to, by stops, and by the closing of
streams that were handed out, in whatever order these come. `ρ` is what a stream is to whoever runs the hops. -/
structure Chain (ρ : Type) where
  hops : List ChainHop
  target : Endpoint
  progress : Progress ρ := .idle
  /-- How the last connect ended. -/
  outcome : Option (Except Fault ρ) := none
  /-- The streams handed out and not closed yet, the newest first. -/
  kept : List ρ := []
  sockets : Nat := 0
  /-- The hops set to work, in order. -/
  calls : List (Call ρ) := []

inductive ChainEvent (ρ : Type) where
  | connect
  | dialled (result : Except Fault Unit)
  | answered (result : Except Fault ρ)
  | halt (hop : Nat)
  | stop
  /-- The newest stream handed out is closed. -/
  | drop

namespace Chain

variable {ρ : Type}

def next (c : Chain ρ) (hop : Nat) : Endpoint :=
  match c.hops[hop + 1]? with
  | some following => following.endpoint
  | none => c.target

def firstFault (c : Chain ρ) : Option Fault :=
  c.hops.findSome? fun hop => hop.state.firstFault

def hasFailed (c : Chain ρ) : Bool :=
  c.hops.any fun hop => hop.state.firstFault.isSome

def fail (c : Chain ρ) (fault : Fault) : Chain ρ :=
  { c with progress := .idle, outcome := some (.error fault) }

def succeed (c : Chain ρ) (stream : ρ) : Chain ρ :=
  { c with progress := .idle, outcome := some (.ok stream), kept := stream :: c.kept }

def closeSocket (c : Chain ρ) : Chain ρ :=
  { c with sockets := c.sockets - 1 }

/-- Sets the given hop to work, or ends the connect if all hops have worked or this one was stopped. -/
def enter (c : Chain ρ) (hop : Nat) (inbound : Option ρ) : Chain ρ :=
  match c.hops[hop]?, inbound with
  | none, some stream => c.succeed stream
  | none, none => c.fail (.configuration .noHops)
  | some h, _ =>
    if h.state.stopped then
      if inbound.isSome then c.closeSocket.fail h.onStop else c.fail h.onStop
    else
      { c with
        progress := if inbound.isSome then .talking hop inbound else .dialling
        calls := c.calls ++ [⟨hop, inbound, c.next hop⟩] }

/-- Looks at the work of a hop, and goes on to the next hop or ends the connect if it is done. `held` tells
whether the connect holds a socket. -/
def look (c : Chain ρ) (hop : Nat) (held : Bool) (progress : Option (Except Fault ρ)) : Chain ρ :=
  match c.hops[hop]? with
  | none => c
  | some h =>
    let (state, outcome) := h.state.poll h.onStop progress
    let c := { c with hops := c.hops.set hop { h with state } }
    match outcome with
    | none => c
    | some (.ok stream) => c.enter (hop + 1) (some stream)
    | some (.error fault) => if held then c.closeSocket.fail fault else c.fail fault

/-- Tells one hop to stop, which ends its work if it is at work. -/
def halt (c : Chain ρ) (hop : Nat) : Chain ρ :=
  let c := { c with hops := c.hops.modify hop fun h => { h with state := h.state.stop } }
  match c.progress with
  | .idle => c
  | .dialling => if hop = 0 then c.look 0 false none else c
  | .talking working _ => if working = hop then c.look working true none else c

/-- What an event makes of the chain. An event that does not fit changes nothing. -/
def step (c : Chain ρ) : ChainEvent ρ → Chain ρ
  | .connect =>
    match c.progress with
    | .idle => { c with outcome := none }.enter 0 none
    | _ => c
  | .dialled result =>
    match c.progress, result with
    | .dialling, .ok () => { c with sockets := c.sockets + 1, progress := .talking 0 none }
    | .dialling, .error fault => c.look 0 false (some (.error fault))
    | _, _ => c
  | .answered result =>
    match c.progress with
    | .talking hop _ => c.look hop true (some result)
    | _ => c
  | .halt hop => c.halt hop
  | .stop => (List.range c.hops.length).foldl halt c
  | .drop =>
    match c.kept with
    | _ :: rest => { c with kept := rest, sockets := c.sockets - 1 }
    | [] => c

def run (c : Chain ρ) (history : List (ChainEvent ρ)) : Chain ρ :=
  history.foldl step c

def metrics (c : Chain ρ) : List Report.Metric :=
  match c.outcome with
  | some (.ok _) => [.chainTimed c.hops.length]
  | _ => []

end Chain

def Plan.chain (ρ : Type) (plan : Plan) : Chain ρ where
  hops := plan.hops.map fun hop => ⟨hop.endpoint, hop.stoppedFault, {}⟩
  target := plan.target

end Passage
