import Passage.Hop.Chain

namespace Passage.Rehearsal

structure HopPlay where
  endpoint : Endpoint
  delay : Nat
  fault : Option Fault

inductive RouteStep where
  /-- Connects the chain, and stops it after the given time if it is still at work. -/
  | connect (stopAfter : Option Nat)
  | stop
  | drop

inductive RouteEvent where
  | called (hop : String) (inbound : Bool) (next : Endpoint)
  | stopped (hop : String)

structure RouteView where
  result : Option (Except Fault Unit)
  events : List RouteEvent
  chain : Chain Unit

namespace HopPlay

def course (h : HopPlay) : Course (Except Fault Unit) :=
  .ends h.delay
    (match h.fault with
      | some fault => .error fault
      | none => .ok ())

def chainHop (h : HopPlay) : ChainHop where
  endpoint := h.endpoint
  onStop := .sshConnect h.endpoint.host "tunnel stopped" ""

end HopPlay

def routeOf (hops : List HopPlay) (target : Endpoint) : Chain Unit where
  hops := hops.map HopPlay.chainHop
  target

def stopEvents (hops : List HopPlay) : List RouteEvent :=
  hops.map fun h => .stopped h.endpoint.host

/-- Plays the hops from the given one on, `elapsed` after the connect began. Tells whether the chain was
stopped on the way: a stop is due only if a hop is still at work beyond its moment. -/
def playHops (hops : List HopPlay) (stopAfter : Option Nat) :
    Nat → Nat → Chain Unit → Bool × Chain Unit
  | 0, _, c => (false, c)
  | left + 1, elapsed, c =>
    match c.progress with
    | .idle => (false, c)
    | .dialling => playHops hops stopAfter left elapsed (c.step (.dialled (.ok ())))
    | .talking hop _ =>
      match hops[hop]? with
      | none => (false, c)
      | some h =>
        if stopAfter.any fun moment => h.course.outlasts (moment - elapsed) then (true, c.step .stop)
        else
          match h.course with
          | .ends after result =>
            playHops hops stopAfter left (elapsed + after) (c.step (.answered result))
          | .never => (false, c)

def callEvents (hops : List HopPlay) (calls : List (Call Unit)) : List RouteEvent :=
  calls.filterMap fun call =>
    (hops[call.hop]?).map fun h => .called h.endpoint.host call.inbound.isSome call.next

def playStep (hops : List HopPlay) (c : Chain Unit) : RouteStep → RouteView
  | .connect stopAfter =>
    let (stopped, after) := playHops hops stopAfter (2 * hops.length + 1) 0 (c.step .connect)
    { result := after.outcome
      events := callEvents hops (after.calls.drop c.calls.length) ++
        if stopped then stopEvents hops else []
      chain := after }
  | .stop => { result := none, events := stopEvents hops, chain := c.step .stop }
  | .drop => { result := none, events := [], chain := c.step .drop }

def playRoute (hops : List HopPlay) (c : Chain Unit) : List RouteStep → List RouteView
  | [] => []
  | s :: steps =>
    let view := playStep hops c s
    view :: playRoute hops view.chain steps

def routeMetrics (hops : List HopPlay) (views : List RouteView) : List Report.Metric :=
  views.filterMap fun view =>
    match view.result with
    | some (.ok ()) => some (.chainTimed hops.length)
    | _ => none

end Passage.Rehearsal
