import Passage.Clock
import Passage.Negotiation.Journal
import Passage.Negotiation.Settings

namespace Passage.Negotiation

/-- What an attempt comes to: the driver's own work, and the failure that the entry of the tunnel has on
record when the attempt is over. -/
structure Attempt (κ : Type) where
  course : Course (Except Fault κ)
  tunnel : Option Fault := none

/-- A driver with a state `σ` of its own, which every call may change. -/
structure Driver (σ κ : Type) where
  attempt : σ → DriverRequest → Attempt κ × σ
  close : σ → κ → Except Fault Unit × σ

structure World (σ κ : Type) where
  driver : σ
  journal : Journal κ := []

/-- Where attempts go. -/
structure Route where
  /-- The checked request, with the place to dial. -/
  target : Resolved
  tunnelled : Bool
  /-- The name of the target in failures. -/
  uri : String

structure Established (κ : Type) where
  connection : κ
  sslMode : SslMode
  /-- The entry of the tunnel that the connection runs through. -/
  port : Option UInt16

def Established.debug {κ : Type} (e : Established κ) (port : UInt16 → String) : String :=
  Quoted.record "Established"
    [("ssl_mode", e.sslMode.debug), ("tunnel_port", Quoted.option port e.port)]

variable {σ κ : Type}

namespace World

def note (w : World σ κ) (acts : List (Act κ)) : World σ κ :=
  { w with journal := w.journal ++ acts }

def log (w : World σ κ) (level : Report.Level) (text : String) : World σ κ :=
  w.note [.logged ⟨level, text⟩]

end World

/-- A dialect that knows no TLS cannot follow a mode. -/
def ignoredText (mode : SslMode) (dialect : Dialect) : String :=
  "ignoring sslMode=" ++ mode.name ++ ", not supported for dialect " ++ dialect.name

/-- The mode whose options are used: without checks, a verified connection is merely encrypted. -/
def Settings.effective (s : Settings) (mode : SslMode) : SslMode :=
  if s.skipVerification && mode.verifies then .required else mode

/-- The options that the caller gave, for want of any that the dialect has. -/
def callerOptions (target : Resolved) : TlsOptions :=
  match target.dialectOptions with
  | some options => .manual options
  | none => .disabled

def tlsOptions (s : Settings) (target : Resolved) (mode : SslMode) : TlsOptions :=
  if mode = .manual then .manual (target.dialectOptions.getD .null)
  else (target.dialect.tlsOptions? (s.effective mode)).getD (callerOptions target)

def tlsWarnings (s : Settings) (target : Resolved) (mode : SslMode) : List Report.Entry :=
  if mode.usesTls ∧ (target.dialect.tlsOptions? (s.effective mode)).isNone then
    [⟨.warn, ignoredText mode target.dialect⟩]
  else []

/-- The mode to report for a dialect that has no TLS options of its own. -/
def fallbackMode (target : Resolved) : SslMode :=
  if target.dialectOptions.isSome then .manual else .disabled

/-- One attempt. Its failure is explained by that of a hop, if there was one, and names the target as the
caller knows it. An attempt that takes too long is given up with all sessions of the entry. -/
def attempt (d : Driver σ κ) (s : Settings) (r : Route) (mode : SslMode) (w : World σ κ) :
    Course (Except Fault κ) × World σ κ :=
  let request := r.target.request mode (tlsOptions s r.target mode)
  let w := w.note ((tlsWarnings s r.target mode).map .logged)
  let w := w.note (if r.tunnelled then [.cleared] else [])
  let (a, driver) := d.attempt w.driver request
  let w := { w with driver }.note [.attempted request]
  let late := request.timeout.any fun limit => !a.course.endsBy limit
  let w := w.note (if late && r.tunnelled then [.dropped] else [])
  let course : Course (Except Fault κ) :=
    match request.timeout with
    | some limit => a.course.within limit (.error (.timedOut r.uri))
    | none => a.course
  match course with
  | .never => (.never, w)
  | .ends after (.ok connection) =>
    (.ends after (.ok connection), w.note [.answered request (.ok connection)])
  | .ends after (.error fault) =>
    let tunnel := if r.tunnelled then a.tunnel else none
    let fault := fault.rootCause r.uri tunnel
    let w := w.note (if r.tunnelled then [.took tunnel] else [])
    (.ends after (.error fault), w.note [.answered request (.error fault)])

/-- Closes a connection. -/
def close (d : Driver σ κ) (connection : κ) (w : World σ κ) : Except Fault Unit × World σ κ :=
  let (result, driver) := d.close w.driver connection
  (result, { w with driver }.note [.closed connection])

/-- Tries modes in order until one of them works. `last` is the failure of the mode before. -/
def probe (d : Driver σ κ) (s : Settings) (r : Route) :
    List SslMode → Option Fault → World σ κ → Course (Except Fault SslMode) × World σ κ
  | [], last, w => (.ends 0 (.error (last.getD (.configuration .noModesLeft))), w)
  | mode :: modes, _, w =>
    match attempt d s r mode w with
    | (.never, w) => (.never, w)
    | (.ends after (.ok connection), w) =>
      let (_, w) := close d connection w
      (.ends after (.ok mode),
        (w.note [.counted (.probed mode .ok)]).log .debug
          ("sslMode=" ++ mode.name ++ " accepted by server"))
    | (.ends after (.error fault), w) =>
      let w := (w.note [.counted (.probed mode .error)]).log .debug
        ("sslMode=" ++ mode.name ++ " probe failed: " ++ fault.text)
      let (course, w) := probe d s r modes (some fault) w
      (course.later after, w)

def chooseMode (d : Driver σ κ) (s : Settings) (r : Route) (w : World σ κ) :
    Course (Except Fault SslMode) × World σ κ :=
  if r.target.sslMode ≠ .preferred then (.ends 0 (.ok r.target.sslMode), w)
  else if r.target.dialect.supportsTls then probe d s r s.candidates none w
  else
    (.ends 0 (.ok (fallbackMode r.target)),
      w.log .warn (ignoredText .preferred r.target.dialect))

def negotiate (d : Driver σ κ) (s : Settings) (r : Route) (w : World σ κ) :
    Course (Except Fault (κ × SslMode)) × World σ κ :=
  match chooseMode d s r w with
  | (.never, w) => (.never, w)
  | (.ends after (.error fault), w) => (.ends after (.error fault), w)
  | (.ends after (.ok mode), w) =>
    let (course, w) := attempt d s r mode w
    ((course.map fun result => result.map fun connection => (connection, mode)).later after, w)

def loopback : String := "127.0.0.1"

/-- Opens the entry of the tunnel if the request has hops. `listen` is the port that the entry gets, or why
it gets none. -/
def prepare (listen : Except IoFault UInt16) (resolved : Resolved) (w : World σ κ) :
    Except Fault (Route × Option UInt16) × World σ κ :=
  let uri := resolved.sanitizedUri
  if resolved.needsTunnel then
    match listen with
    | .error fault => (.error (.io fault), w)
    | .ok port =>
      (.ok (⟨resolved.moveTo loopback port, true, uri⟩, some port), w.note [.listened port])
  else (.ok (⟨resolved, false, uri⟩, none), w)

/-- Carries out a connection request. What is left of a request that failed is closed. -/
def connect (d : Driver σ κ) (s : Settings) (listen : Except IoFault UInt16) (options : Options)
    (state : σ) : Course (Except Fault (Established κ)) × World σ κ :=
  match options.resolve with
  | .error fault => (.ends 0 (.error fault), ⟨state, []⟩)
  | .ok resolved =>
    match prepare listen resolved ⟨state, []⟩ with
    | (.error fault, w) => (.ends 0 (.error fault), w)
    | (.ok (route, port), w) =>
      match negotiate d s route w with
      | (.never, w) => (.never, w)
      | (.ends after (.ok (connection, sslMode)), w) =>
        (.ends after (.ok ⟨connection, sslMode, port⟩), w)
      | (.ends after (.error fault), w) =>
        (.ends after (.error fault), w.note (if route.tunnelled then [.stopped] else []))

def Established.close (d : Driver σ κ) (e : Established κ) (w : World σ κ) :
    Except Fault Unit × World σ κ :=
  let (result, w) := Negotiation.close d e.connection w
  (result, w.note (if e.port.isSome then [.stopped] else []))

end Passage.Negotiation
