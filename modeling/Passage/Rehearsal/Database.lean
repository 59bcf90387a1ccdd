import Passage.Login.Driver
import Passage.Rehearsal.Authority
import Passage.Rehearsal.Network

namespace Passage.Rehearsal

open Login (Attempted Event Opened Peer Surroundings)
open Report (Metric)

inductive Database where
  | absent
  /-- Everything is said at once, and then the server is done. -/
  | plain (words : List UInt8)
  | secured (words : List UInt8)

def Database.events (handshake : Bool) : Database → List (Nat × Event)
  | .absent => []
  | .plain words => [(0, .bytes words), (0, .ended)]
  | .secured words =>
    [(0, .bytes [83]), (0, .handshake handshake), (0, .bytes words), (0, .ended)]

def handshakeOf (s : Login.Settings) (around : Surroundings) (r : DriverRequest) : Bool :=
  match Login.prepare s around r, Tls.serverName r.serverName with
  | .ok (some settings), .ok name => vouches settings name
  | _, _ => false

def Database.peer (network : Network) (s : Login.Settings) (around : Surroundings)
    (r : DriverRequest) (db : Database) : Peer :=
  .ends 0 <| network.dial <|
    match db with
    | .absent => .error .refused
    | _ => .ok (db.events (handshakeOf s around r))

/-- The servers that are still to be dialled, the last of which stays, and what was sent to those that
were. -/
structure Traffic where
  servers : List Database
  sent : List (List UInt8) := []
  metrics : List Metric := []

namespace Traffic

def server (t : Traffic) : Database := t.servers.head?.getD .absent

def add (t : Traffic) (a : Attempted) : Traffic :=
  { servers := if t.servers.length ≤ 1 then t.servers else t.servers.drop 1
    sent := t.sent ++ (a.connection.map (·.sentBytes)).toList
    metrics := t.metrics ++ (a.connection.map (·.metrics)).getD [] }

def leave (t : Traffic) (connection : Nat) : Traffic :=
  { t with sent := t.sent.modify connection (· ++ Opened.farewell) }

end Traffic

structure Numbered where
  number : Nat
  opened : Opened

def databaseDriver (network : Network) (s : Login.Settings) (around : Surroundings) :
    Negotiation.Driver Traffic Numbered :=
  Login.driver s around (fun t r => t.server.peer network s around r) Traffic.add
    (fun t opened => ⟨t.sent.length, opened⟩) fun t connection => t.leave connection.number

structure Visit where
  outcome : Course (Except Fault Numbered)
  closed : Option (Except Fault Unit)
  traffic : Traffic

def visit (network : Network) (s : Login.Settings) (around : Surroundings) (r : DriverRequest)
    (db : Database) (stay : Bool) : Visit :=
  let driver := databaseDriver network s around
  let (a, t) := driver.attempt { servers := [db] } r
  match a.course with
  | .ends _ (.ok connection) =>
    if stay then ⟨a.course, none, t⟩
    else
      let (closed, t) := driver.close t connection
      ⟨a.course, some closed, t⟩
  | _ => ⟨a.course, none, t⟩

end Passage.Rehearsal
