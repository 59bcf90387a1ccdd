import Passage.Hop.Chain
import Passage.Hop.SocksCalls
import Passage.Hop.Ssh

namespace Passage

namespace Ssh

/-- An SSH library, as far as the task goes that it runs for each session: what becomes of the task, unless it
ends. `σ` is what a task keeps, and `ι` is what may come to it: from its server, from those who use the session,
or from a clock. -/
structure Library (σ ι : Type) where
  start : σ
  /-- Whether the task turns to its transport. If not, it waits for the holder of its channel to read. -/
  listens : σ → Bool
  meet : σ → ι → Option σ
  /-- The transport fails. -/
  fail : σ → Option σ
  /-- Nobody holds the channel any more. -/
  leave : σ → Option σ

/-- What a library is relied on for. -/
structure Library.Reliable {σ ι : Type} (library : Library σ ι) : Prop where
  fail_ends (s : σ) : library.listens s = true → library.fail s = none
  /-- A task does not wait for a reader that is gone. -/
  leave_listens (s s' : σ) : library.listens s = false → library.leave s = some s' → library.listens s' = true

end Ssh

inductive Stream where
  /-- The socket of the first hop. What a proxy makes of a stream is the same stream. -/
  | socket
  /-- The channel that an SSH hop opens. -/
  | channel (hop : Nat)
  deriving DecidableEq

def Stream.sockets : Stream → Nat
  | socket => 1
  | channel _ => 0

def socketsOf : List Stream → Nat
  | [] => 0
  | stream :: more => stream.sockets + socketsOf more

inductive Stride where
  | look
  | wait
  | succeed
  | setback (s : Socks.Setback)
  | failure (f : Ssh.Failure)
  | register
  | check
  | withdraw (runtime : Bool)

namespace Stride

def needsStream : Stride → Bool
  | succeed => true
  | _ => false

def onSocks : Stride → Option Socks.Step
  | look => some (.look 0)
  | wait => some (.wait 0)
  | succeed => some (.succeed 0)
  | setback s => some (.fail 0 s)
  | _ => none

def onSsh : Stride → Option Ssh.Step
  | look => some (.look 0)
  | wait => some (.wait 0)
  | succeed => some (.succeed 0)
  | failure f => some (.fail 0 f)
  | register => some (.register 0)
  | check => some (.check 0)
  | withdraw runtime => some (.withdraw 0 runtime)
  | setback _ => none

end Stride

inductive Station where
  | socks (hop : Socks.Hop)
  | ssh (hop : Ssh.Hop)

namespace Station

def ofSettings : HopSettings → Station
  | .socks proxy => .socks { proxy }
  | .ssh host => .ssh { host }

def isStopped : Station → Bool
  | .socks hop => hop.state.stopped
  | .ssh hop => hop.state.stopped

def call (next : Endpoint) : Station → Station
  | .socks hop => .socks (hop.step (.call next))
  | .ssh hop => .ssh (hop.step (.call next))

def stride (s : Stride) : Station → Station
  | .socks hop => .socks (hop.run s.onSocks.toList)
  | .ssh hop => .ssh (hop.run s.onSsh.toList)

def raise : Station → Station
  | .socks hop => .socks (hop.step .stop)
  | .ssh hop => .ssh (hop.step .raise)

def sweep (runtime : Bool) : Station → Station
  | .socks hop => .socks hop
  | .ssh hop => .ssh (hop.step (.sweep runtime))

def result? : Station → Option (Except Fault Unit)
  | .socks hop => hop.result? 0
  | .ssh hop => hop.result? 0

def isAtWork : Station → Bool
  | .socks hop =>
    match hop.calls[(0 : Nat)]? with
    | some (.working, _) => true
    | _ => false
  | .ssh hop =>
    match hop.calls[(0 : Nat)]? with
    | some (.working _, _) => true
    | _ => false

end Station

namespace Custody

/-- What the connect holds at the hop where it works. -/
inductive Grip where
  | empty
  | stream (s : Stream)
  /-- The stream is with the task of a session, which the connect speaks to. -/
  | session

/-- How far the connect has come. -/
inductive Progress where
  | idle
  | working (hop : Nat) (grip : Grip)
  /-- It is over, and so it ended, unless it was given up. -/
  | finished (outcome : Option (Except Fault Unit))

structure Task (σ : Type) where
  hop : Nat
  transport : Stream
  state : σ

inductive Order where
  | raise (hop : Nat)
  /-- The sessions of an SSH hop are taken. -/
  | sweep (hop : Nat)
  deriving DecidableEq

inductive Event (ι : Type) where
  | connect
  | dialled
  | spawned
  | stride (s : Stride)
  | meet (task : Nat) (news : ι)
  /-- A task turns to its transport, which fails if the hop was stopped. -/
  | poll (task : Nat)
  /-- A task that waits for a reader of its channel finds that nobody holds it. -/
  | leave (task : Nat)
  | abandon
  | drop
  | stop
  /-- A stop takes its next step, inside a runtime or outside one. -/
  | proceed (stop : Nat) (runtime : Bool)

/-- Whether an event is one that comes by itself, with nothing from outside to wait for. -/
def Event.isOwn {ι : Type} : Event ι → Bool
  | .stride .look | .stride .register | .stride .check | .stride (.withdraw _) => true
  | .poll _ | .leave _ | .proceed _ _ => true
  | _ => false

/-- What is left in the connect's hands when it goes on from a hop: a proxy gives the stream back, a session
its channel. -/
def Grip.yield? (grip : Grip) (hop : Nat) (station : Station) : Option Stream :=
  match station, grip with
  | .socks _, .stream s => some s
  | .ssh _, .session => some (.channel hop)
  | _, _ => none

def Grip.stream? : Grip → Option Stream
  | .stream s => some s
  | _ => none

def Progress.stream? : Progress → Option Stream
  | .working _ grip => grip.stream?
  | _ => none

def Progress.isFinished : Progress → Bool
  | .finished _ => true
  | _ => false

def orders (stations : List Station) : List Order :=
  stations.zipIdx.flatMap fun (station, hop) =>
    match station with
    | .socks _ => [.raise hop]
    | .ssh _ => [.raise hop, .sweep hop]

end Custody

/-- A chain with everything that its streams are held by: the connect that is under way, the tasks of SSH sessions,
and whoever was handed the stream. The tasks run on their own, and a stop reaches each through its transport. -/
structure Custody (σ : Type) where
  plan : Plan
  stations : List Station
  progress : Custody.Progress := .idle
  /-- The tasks of its sessions that run. -/
  tasks : List (Custody.Task σ) := []
  kept : Option Stream := none
  /-- What each stop has yet to do. -/
  stops : List (List Custody.Order) := []
  sockets : Nat

namespace Custody

variable {σ ι : Type}

def letGo (c : Custody σ) (streams : List Stream) : Custody σ :=
  { c with sockets := c.sockets - socketsOf streams }

def held (c : Custody σ) : List Stream :=
  c.progress.stream?.toList ++ c.kept.toList ++ c.tasks.map (·.transport)

def finish (c : Custody σ) (outcome : Option (Except Fault Unit)) : Custody σ :=
  { c.letGo c.progress.stream?.toList with progress := .finished outcome }

def enter (c : Custody σ) (hop : Nat) (grip : Grip) : Custody σ :=
  if hop < c.stations.length then
    { c with
      progress := .working hop grip
      stations := c.stations.modify hop (·.call ((c.plan.chain Unit).next hop)) }
  else
    match grip.stream? with
    | some stream => { c with progress := .finished (some (.ok ())), kept := some stream }
    | none => c.finish (some (.error (.configuration .noHops)))

/-- What the connect does when it has a result at the given hop: it is over, or goes on with a stream. -/
def goOn (c : Custody σ) (hop : Nat) (result : Option (Except Fault Unit)) (stream : Option Stream) :
    Custody σ :=
  match result, stream with
  | some (.error fault), _ => c.finish (some (.error fault))
  | some (.ok _), some stream => c.enter (hop + 1) (.stream stream)
  | _, _ => c

def stride (c : Custody σ) (s : Stride) : Custody σ :=
  match c.progress with
  | .working hop grip =>
    match c.stations[hop]? with
    | some station =>
      if s.needsStream && (grip.yield? hop station).isNone then c
      else
        { c with stations := c.stations.modify hop (·.stride s) }.goOn hop (station.stride s).result?
          (grip.yield? hop station)
    | none => c
  | _ => c

def move (c : Custody σ) (i : Nat) (become : Task σ → Option σ) : Custody σ :=
  match c.tasks[i]? with
  | some task =>
    match become task with
    | some state => { c with tasks := c.tasks.modify i fun task => { task with state } }
    | none => { c with tasks := c.tasks.eraseIdx i }.letGo [task.transport]
  | none => c

def isCutOff (c : Custody σ) (task : Task σ) : Bool :=
  c.stations[task.hop]?.any (·.isStopped)

def obey (c : Custody σ) (runtime : Bool) : Order → Custody σ
  | .raise hop => { c with stations := c.stations.modify hop (·.raise) }
  | .sweep hop => { c with stations := c.stations.modify hop (·.sweep runtime) }

/-- What an event makes of the chain. An event that does not fit changes nothing. -/
def step (library : Ssh.Library σ ι) (c : Custody σ) : Event ι → Custody σ
  | .connect =>
    match c.progress with
    | .idle => c.enter 0 .empty
    | _ => c
  | .dialled =>
    match c.progress with
    | .working hop .empty =>
      if c.stations[hop]?.any (·.isAtWork) then
        { c with progress := .working hop (.stream .socket), sockets := c.sockets + 1 }
      else c
    | _ => c
  | .spawned =>
    match c.progress with
    | .working hop (.stream transport) =>
      match c.stations[hop]? with
      | some (.ssh post) =>
        if (Station.ssh post).isAtWork then
          { c with
            progress := .working hop .session
            tasks := c.tasks ++ [{ hop, transport, state := library.start }] }
        else c
      | _ => c
    | _ => c
  | .stride s => c.stride s
  | .meet i news => c.move i fun task => library.meet task.state news
  | .poll i =>
    c.move i fun task =>
      if library.listens task.state && c.isCutOff task then library.fail task.state else some task.state
  | .leave i =>
    c.move i fun task =>
      if !library.listens task.state && !c.held.contains (.channel task.hop) then library.leave task.state
      else some task.state
  | .abandon =>
    match c.progress with
    | .working _ _ => c.finish none
    | _ => c
  | .drop => { c.letGo c.kept.toList with kept := none }
  | .stop => { c with stops := c.stops ++ [orders c.stations] }
  | .proceed i runtime =>
    match c.stops[i]? with
    | some (order :: rest) => { c.obey runtime order with stops := c.stops.set i rest }
    | _ => c

def run (library : Ssh.Library σ ι) (c : Custody σ) (history : List (Event ι)) : Custody σ :=
  history.foldl (step library) c

def Quiescent (library : Ssh.Library σ ι) (c : Custody σ) : Prop :=
  ∀ event : Event ι, event.isOwn = true → c.step library event = c

end Custody

def Plan.custody (σ : Type) (plan : Plan) (sockets : Nat) : Custody σ where
  plan
  stations := plan.hops.map .ofSettings
  sockets

end Passage
