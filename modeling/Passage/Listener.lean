import Passage.Hop.Chain

namespace Passage

namespace Listener

/-- How many bytes a client may send before its chain is up, until nothing more is read. -/
def earlyLimit : Nat := 65536

def readSize : Nat := 4096

inductive Stage where
  /-- The chain is being connected; what the client sent meanwhile is held. -/
  | opening (held : List UInt8)
  | relaying
  /-- The session is over, and its failure is still to be recorded. -/
  | failing (fault : Fault)
  | closing
  | closed

structure Session where
  /-- The session ends when a later generation begins. -/
  generation : Nat
  /-- The attempt during which the client was accepted. -/
  attempt : Nat
  stage : Stage := .opening []
  unread : List UInt8 := []
  hungUp : Bool := false
  /-- What was written to the chain. -/
  relayed : List UInt8 := []
  /-- What the chain failed with, if it did. -/
  chainFault : Option Fault := none
  chainStopped : Bool := false

structure Recorded where
  session : Nat
  fault : Fault

inductive Event where
  /-- An attempt begins: failures from before do not explain it. -/
  | begin
  /-- The attempt ends and takes the failure on record. -/
  | take
  | accept
  | dropSessions
  | stop
  | send (session : Nat) (data : List UInt8)
  | hangUp (session : Nat)
  | read (session : Nat)
  | chainUp (session : Nat)
  | chainDown (session : Nat) (fault : Fault)
  /-- One side of the relay is done. -/
  | relayEnds (session : Nat)
  | notice (session : Nat)
  | record (session : Nat)
  | close (session : Nat)

end Listener

/-- The entry of a tunnel on this machine. It holds the first failure of a hop that a session met since an attempt
began. -/
structure Listener where
  generation : Nat := 0
  attempt : Nat := 0
  stopped : Bool := false
  slot : Option Listener.Recorded := none
  sessions : List Listener.Session := []

namespace Listener

def isCancelled (l : Listener) (s : Session) : Bool :=
  l.stopped || s.generation < l.generation

namespace Session

/-- The session is over; its chain is stopped before anything else. -/
def finish (s : Session) (stage : Stage) : Session :=
  { s with stage, chainStopped := true }

/-- One read. Before the chain is up, a client that hung up ends the session, but neither bytes nor the
end of the stream are read while too much is held. -/
def read (s : Session) : Session :=
  match s.stage with
  | .opening held =>
    if earlyLimit ≤ held.length then s
    else if s.unread.isEmpty then (if s.hungUp then s.finish .closing else s)
    else
      { s with
        stage := .opening (held ++ s.unread.take readSize)
        unread := s.unread.drop readSize }
  | .relaying => { s with unread := [], relayed := s.relayed ++ s.unread }
  | _ => s

def chainUp (s : Session) : Session :=
  match s.stage with
  | .opening held => { s with stage := .relaying, relayed := held }
  | _ => s

/-- The chain failed. Only the failure of a hop explains anything. -/
def chainDown (s : Session) (fault : Fault) : Session :=
  match s.stage with
  | .opening _ =>
    { s with chainFault := some fault }.finish
      (if fault.isTunnel then .failing fault else .closing)
  | _ => s

def relayEnds (s : Session) : Session :=
  match s.stage with
  | .relaying => s.finish .closing
  | _ => s

def cancel (s : Session) : Session :=
  match s.stage with
  | .opening _ | .relaying => s.finish .closing
  | _ => s

def send (s : Session) (data : List UInt8) : Session :=
  if s.hungUp then s else { s with unread := s.unread ++ data }

def close (s : Session) : Session :=
  match s.stage with
  | .closing => { s with stage := .closed }
  | _ => s

end Session

def change (l : Listener) (session : Nat) (f : Session → Session) : Listener :=
  { l with sessions := l.sessions.modify session f }

/-- The failure of a session is recorded before its client sees the socket close. -/
def record (l : Listener) (session : Nat) : Listener :=
  match l.sessions[session]? with
  | some s =>
    match s.stage with
    | .failing fault =>
      { l with slot := l.slot.or (some ⟨session, fault⟩) }.change session
        fun s => { s with stage := .closing }
    | _ => l
  | none => l

/-- What an event makes of the entry. An event that does not fit changes nothing. -/
def step (l : Listener) : Event → Listener
  | .begin => { l with attempt := l.attempt + 1, slot := none }
  | .take => { l with slot := none }
  | .accept =>
    { l with sessions := l.sessions ++ [{ generation := l.generation, attempt := l.attempt }] }
  | .dropSessions => { l with generation := l.generation + 1 }
  | .stop => { l with stopped := true }
  | .send session data => l.change session (·.send data)
  | .hangUp session => l.change session fun s => { s with hungUp := true }
  | .read session => l.change session (·.read)
  | .chainUp session => l.change session (·.chainUp)
  | .chainDown session fault => l.change session (·.chainDown fault)
  | .relayEnds session => l.change session (·.relayEnds)
  | .notice session => l.change session fun s => if l.isCancelled s then s.cancel else s
  | .record session => l.record session
  | .close session => l.change session (·.close)

def run (l : Listener) (history : List Event) : Listener :=
  history.foldl step l

def fault? (l : Listener) : Option Fault :=
  l.slot.map (·.fault)

def metrics (l : Listener) : List Report.Metric :=
  l.sessions.map fun _ => .listenerAccepted

/-- Diagnostic text of the entry of a plan, whose port is given in words. -/
def debug (l : Listener) (port : String) (plan : Plan) : String :=
  Quoted.record "LocalListener"
    [("local_addr", "127.0.0.1:" ++ port), ("hops", toString plan.hops.length),
      ("stopped", toString l.stopped)]

end Listener
end Passage
