import Passage.Clock
import Passage.Login.Phase
import Passage.Login.Session
import Passage.Tls.ServerName
import Passage.Tls.Settings

namespace Passage.Login

open Report (Metric)
open Wire (Packet)

inductive Event where
  | bytes (data : List UInt8)
  | ended
  | broken (fault : IoFault)
  | handshake (succeeded : Bool)

inductive Step where
  | fresh
  | asking (settings : Tls.Settings)
  /-- The handshake is running, for a server of this name. -/
  | handshaking (settings : Tls.Settings) (name : String)
  | talking (session : Session)
  | refused (fault : Fault)

/-- One packet that was written, and whether the stream was encrypted then. -/
structure Written where
  secured : Bool
  packet : Packet

structure Connection where
  credentials : Credentials
  serverName : String
  secured : Bool := false
  step : Step := .fresh
  /-- What was written, apart from the handshake itself. Nothing is ever taken back. -/
  written : List Written := []

def Session.hear (p : Scram.Primitives) (c : Credentials) (s : Session) : Event → Session
  | .bytes data => s.feed p c data
  | .ended => s.fail .connectionClosed
  | .broken fault => s.fail (.io fault)
  | .handshake _ => s

namespace Connection

def write (c : Connection) (packets : List Packet) : Connection :=
  { c with written := c.written ++ packets.map fun packet => ⟨c.secured, packet⟩ }

/-- The request for TLS, which comes before everything else. -/
def ask (c : Connection) (settings : Tls.Settings) : Connection :=
  { c with step := .asking settings }.write [.sslRequest]

def login (c : Connection) : Connection :=
  let session := Session.start c.credentials
  { c with step := .talking session }.write session.sent

/-- The login has come from one point to a later one, and what it has to say is written. -/
def proceed (c : Connection) (before after : Session) : Connection :=
  { c with step := .talking after }.write (after.sent.drop before.sent.length)

def start (c : Credentials) (serverName : String) (tls : Option Tls.Settings) : Connection :=
  let socket : Connection := { credentials := c, serverName }
  match tls with
  | some settings => socket.ask settings
  | none => socket.login

def refuse (c : Connection) (fault : Fault) : Connection :=
  { c with step := .refused fault }

/-- The first byte of the answer to the request for TLS, and what came with it. A byte in clear must not be
taken for one that is encrypted, so nothing may follow a yes. -/
def answer (c : Connection) (settings : Tls.Settings) (byte : UInt8) (rest : List UInt8) :
    Connection :=
  if byte = 83 then
    if rest.isEmpty then
      match Tls.serverName c.serverName with
      | .ok name => { c with step := .handshaking settings name }
      | .error defect => c.refuse (.configuration defect)
    else c.refuse (.protocol "unencrypted data received after SSL response")
  else if byte = 78 then c.refuse (.tls "server does not support TLS")
  else
    let hex := [Nat.digitChar (byte.toNat / 16), Nat.digitChar (byte.toNat % 16)]
    c.refuse (.protocol ("unexpected SSLRequest response byte: 0x" ++ (String.ofList hex).toUpper))

/-- The login begins on the encrypted stream. -/
def secure (c : Connection) : Connection :=
  { c with secured := true }.login

def handshakeFailed : Fault := .tls "TLS handshake failed"

/-- What an event makes of the connection. An event that does not fit changes nothing. -/
def receive (p : Scram.Primitives) (c : Connection) (event : Event) : Connection :=
  match c.step, event with
  | .asking settings, .bytes (byte :: rest) => c.answer settings byte rest
  | .asking _, .ended => c.refuse .connectionClosed
  | .asking _, .broken fault => c.refuse (.io fault)
  | .handshaking .., .handshake true => c.secure
  | .handshaking .., .handshake false => c.refuse handshakeFailed
  | .handshaking .., .ended => c.refuse handshakeFailed
  | .handshaking .., .broken _ => c.refuse handshakeFailed
  | .talking session, event => c.proceed session (session.hear p c.credentials event)
  | _, _ => c

def run (p : Scram.Primitives) (c : Connection) (events : List Event) : Connection :=
  events.foldl (receive p) c

def session? (c : Connection) : Option Session :=
  match c.step with
  | .talking session => some session
  | _ => none

/-- How the login ended, if it has. -/
def outcome? (c : Connection) : Option (Except Fault Unit) :=
  match c.step with
  | .refused fault => some (.error fault)
  | .talking session =>
    match session.exchange.stage with
    | .ready => some (.ok ())
    | .failed fault => some (.error fault)
    | _ => none
  | _ => none

def phase (c : Connection) : Phase :=
  match c.step with
  | .fresh => .initial
  | .asking _ | .handshaking .. | .refused _ => .negotiatingTls
  | .talking session =>
    match session.exchange.stage with
    | .ready => .ready
    | _ => .authenticating

def sentBytes (c : Connection) : List UInt8 :=
  c.written.flatMap (·.packet.encode)

/-- What was sent in clear, apart from the handshake itself. -/
def clearBytes (c : Connection) : List UInt8 :=
  (c.written.filter (!·.secured)).flatMap (·.packet.encode)

def securedBytes (c : Connection) : List UInt8 :=
  (c.written.filter (·.secured)).flatMap (·.packet.encode)

def metrics (c : Connection) : List Metric :=
  (c.session?.map (·.metrics)).getD []

/-- Runs the connection until the login is over. Each event comes so long after the one before; a server
that sends no more events is waited for without end. -/
def course (p : Scram.Primitives) (c : Connection) :
    List (Nat × Event) → Course (Except Fault Connection) × Connection
  | [] =>
    match c.outcome? with
    | some result => (.ends 0 (result.map fun _ => c), c)
    | none => (.never, c)
  | (delay, event) :: events =>
    match c.outcome? with
    | some result => (.ends 0 (result.map fun _ => c), c)
    | none =>
      let (course, last) := (c.receive p event).course p events
      (course.later delay, last)

end Connection
end Passage.Login
