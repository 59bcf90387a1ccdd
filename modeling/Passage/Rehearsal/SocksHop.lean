import Passage.Hop.Socks
import Passage.Rehearsal.Dialogue

namespace Passage.Rehearsal

open Passage.Flow (Line)

inductive SocksStep where
  | stop
  | connect (next : Endpoint) (line : Line) (stopAfter : Option Nat) (deeds : List Deed)

structure SocksConnect where
  outcome : Except Fault Unit
  handshake : List UInt8
  deeds : List DeedResult
  sent : List UInt8
  elapsed : Nat

structure SocksView where
  connect : Option SocksConnect
  state : HopState

/-- One connect, which is stopped if it is still at work beyond the given moment. Its course always ends, since
the handshake has a limit. -/
def playConnect (proxy : Proxy) (state : HopState) (next : Endpoint) (line : Line)
    (stopAfter : Option Nat) (deeds : List Deed) : SocksView :=
  let due := stopAfter.filter fun moment => (Socks.extend proxy next line).1.outlasts moment
  let (state, course, line) := Socks.connect state proxy next due line
  match course with
  | .ends elapsed outcome =>
    let (results, after) :=
      match outcome with
      | .ok () => perform onLine line deeds
      | .error _ => ([], line)
    { connect := some ⟨outcome, line.sent, results, after.sent, elapsed⟩, state }
  | .never => { connect := none, state }

def playSocks (proxy : Proxy) (state : HopState) : List SocksStep → List SocksView
  | [] => []
  | .stop :: steps =>
    { connect := none, state := state.stop } :: playSocks proxy state.stop steps
  | .connect next line stopAfter deeds :: steps =>
    let view := playConnect proxy state next line stopAfter deeds
    view :: playSocks proxy view.state steps

def socksMetrics (views : List SocksView) : List Report.Metric :=
  views.filterMap fun view =>
    view.connect.map fun c => .hopConnected .socks (Report.Outcome.of c.outcome)

end Passage.Rehearsal
