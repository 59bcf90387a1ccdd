import Passage.Listener
import Passage.Negotiation.Connect

namespace Passage

/-- Whether an event is the doing of a session or of its client. The other events are the request's. -/
def Listener.Event.isFree : Listener.Event → Bool
  | .begin | .take | .dropSessions | .stop => false
  | _ => true

namespace Negotiation

structure Ending where
  /-- The driver's own failure; none if the attempt was given up. -/
  driver : Option Fault
  /-- The entry as the attempt found it at its end. -/
  entry : Listener

/-- The failure to report for the attempt. Without a tunnel there is no entry to explain it. -/
def Ending.fault (e : Ending) (uri : String) (tunnelled : Bool) : Fault :=
  (e.driver.getD (.timedOut uri)).rootCause uri (if tunnelled then e.entry.fault? else none)

/-- The attempts of one request at the entry of a tunnel, whose sessions and clients do not wait for them. -/
structure Transit where
  entry : Listener := {}
  /-- Whether an attempt is under way. -/
  busy : Bool := false
  endings : List Ending := []

namespace Transit

inductive Move where
  | begin
  | giveUp
  | succeed
  /-- The attempt ends with a failure; it has none of the driver's if it was given up. -/
  | fail (driver : Option Fault)
  | stop
  | meanwhile (event : Listener.Event)

/-- What a move makes of the request. A move that does not fit changes nothing. -/
def step (t : Transit) : Move → Transit
  | .begin => { t with entry := t.entry.step .begin, busy := true }
  | .giveUp => if t.busy then { t with entry := t.entry.step .dropSessions } else t
  | .succeed => { t with busy := false }
  | .fail driver =>
    if t.busy then
      { entry := t.entry.step .take, busy := false, endings := t.endings ++ [⟨driver, t.entry⟩] }
    else t
  | .stop => { t with entry := t.entry.step .stop }
  | .meanwhile event => if event.isFree then { t with entry := t.entry.step event } else t

def run (t : Transit) (history : List Move) : Transit :=
  history.foldl step t

@[simp]
theorem run_append (t : Transit) (history more : List Move) :
    t.run (history ++ more) = (t.run history).run more :=
  List.foldl_append

@[simp]
theorem run_nil (t : Transit) : t.run [] = t := rfl

@[simp]
theorem run_cons (t : Transit) (move : Move) (history : List Move) :
    t.run (move :: history) = (t.step move).run history := rfl

end Transit

/-- What an attempt meets: the driver's own work, and what happens at the entry by itself. -/
structure Visit (κ : Type) where
  course : Course (Except Fault κ)
  before : List Listener.Event := []
  during : List Listener.Event := []
  /-- What happens when the driver is done, or was given up, until the failure on record is looked at. -/
  after : List Listener.Event := []

namespace Visit

variable {κ : Type}

/-- Whether the driver is given up. -/
def late (v : Visit κ) (limit : Option Nat) : Bool :=
  limit.any fun limit => !v.course.endsBy limit

def inside (v : Visit κ) (limit : Option Nat) : List Transit.Move :=
  v.during.map .meanwhile ++ ((if v.late limit then [.giveUp] else []) ++ v.after.map .meanwhile)

def moves (v : Visit κ) (limit : Option Nat) : List Transit.Move :=
  v.before.map .meanwhile ++ .begin :: v.inside limit

/-- The move that ends the attempt; none if it goes on for ever. -/
def last (v : Visit κ) (limit : Option Nat) : List Transit.Move :=
  if v.late limit then [.fail none]
  else
    match v.course with
    | .ends _ (.ok _) => [.succeed]
    | .ends _ (.error fault) => [.fail (some fault)]
    | .never => []

end Visit

/-- A driver with all that surrounds it: what happens at the entry of the tunnel may depend on anything
that the driver does, and the driver's work on anything that happens there. -/
structure Surroundings (σ κ : Type) where
  attempt : σ → DriverRequest → Visit κ × σ
  close : σ → κ → Except Fault Unit × σ

def Surroundings.driver {σ κ : Type} (d : Surroundings σ κ) : Driver (σ × Transit) κ where
  attempt world request :=
    let (visit, state) := d.attempt world.1 request
    let t := world.2.run (visit.moves request.timeout)
    (⟨visit.course, t.entry.fault?⟩, state, t.run (visit.last request.timeout))
  close world connection :=
    let (result, state) := d.close world.1 connection
    (result, state, world.2)

end Negotiation
end Passage
