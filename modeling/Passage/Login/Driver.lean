import Passage.Login.Connection
import Passage.Negotiation.Connect

namespace Passage.Login

open Report (Metric)
open Wire (Packet)

structure Settings where
  /-- A file with the authorities to trust instead of the system's. -/
  caPath : Option String := none
  applicationName : Option String := none

/-- What a driver finds around it. -/
structure Surroundings where
  primitives : Scram.Primitives
  files : Tls.Files
  /-- Which certificates can be parsed. -/
  parsable : List UInt8 → Bool
  systemUser : String
  nonce : String

/-- What becomes of dialling, and then what the server sends, each event so long after the one before. -/
abbrev Peer := Course (Except IoFault (List (Nat × Event)))

structure Opened where
  secured : Bool
  sslMode : SslMode
  processId : Option Int32
  secretKey : Option Int32
  parameters : List (String × String)

namespace Opened

def parameter? (o : Opened) (name : String) : Option String :=
  (o.parameters.find? fun (key, _) => key = name).map Prod.snd

def phase (_ : Opened) : Phase := .ready

def debug (o : Opened) : String :=
  Quoted.record "PgConnection"
    [("transport", if o.secured then "Transport::Tls(TlsStream)" else "Transport::Plain(TcpStream)"),
      ("state", o.phase.debug), ("ssl_mode", o.sslMode.debug),
      ("process_id", Quoted.option (fun n => toString n.toInt) o.processId)]

def farewell : List UInt8 := Packet.terminate.encode

end Opened

/-- How an attempt went. -/
structure Attempted where
  course : Course (Except Fault Opened)
  /-- The connection as it was last, if dialling succeeded. -/
  connection : Option Connection := none

/-- What an attempt sent in clear, apart from the handshake itself. -/
def Attempted.clearBytes (a : Attempted) : List UInt8 :=
  (a.connection.map (·.clearBytes)).getD []

def credentialsFor (s : Settings) (around : Surroundings) (r : DriverRequest) : Credentials :=
  let user := r.user.getD around.systemUser
  { user
    database := r.database.getD user
    password := r.password
    applicationName := s.applicationName
    nonce := around.nonce }

/-- What must be in order before anything is dialled: the dialect and the TLS settings. -/
def prepare (s : Settings) (around : Surroundings) (r : DriverRequest) :
    Except Misconfiguration (Option Tls.Settings) :=
  if r.dialect ≠ .postgres then .error (.foreignDialect r.dialect)
  else Tls.settingsFor around.parsable around.files s.caPath r.tls

/-- Dialling, which has a limit of its own if the request has one. -/
def dialled (r : DriverRequest) (peer : Peer) : Peer :=
  match r.timeout with
  | some limit => peer.within limit (.error ⟨.timedOut, none⟩)
  | none => peer

def Opened.of (mode : SslMode) (c : Connection) : Opened :=
  let e := (c.session?.map (·.exchange)).getD {}
  ⟨c.secured, mode, e.processId, e.secretKey, e.parameters⟩

def connect (s : Settings) (around : Surroundings) (r : DriverRequest) (peer : Peer) : Attempted :=
  match prepare s around r with
  | .error defect => { course := .ends 0 (.error (.configuration defect)) }
  | .ok tls =>
    match dialled r peer with
    | .never => { course := .never }
    | .ends after (.error fault) => { course := .ends after (.error (.io fault)) }
    | .ends after (.ok events) =>
      let c := Connection.start (credentialsFor s around r) r.serverName tls
      let (course, last) := c.course around.primitives events
      { course := (course.map fun result => result.map (Opened.of r.sslMode)).later after
        connection := some last }

/-- The driver that a negotiation gets. `peer` is who answers a request, `next` what an attempt leaves
behind, `name` what a connection is known by, and `leave` what closing it comes to. -/
def driver {σ κ : Type} (s : Settings) (around : Surroundings) (peer : σ → DriverRequest → Peer)
    (next : σ → Attempted → σ) (name : σ → Opened → κ) (leave : σ → κ → σ) :
    Negotiation.Driver σ κ where
  attempt state r :=
    let a := connect s around r (peer state r)
    (⟨a.course.map fun result => result.map (name state), none⟩, next state a)
  close state connection := (.ok (), leave state connection)

end Passage.Login
