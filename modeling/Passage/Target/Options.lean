import Passage.Hop.Plan
import Passage.Json
import Passage.Target.Uri

namespace Passage

structure TargetFields where
  dialect : Option Dialect := none
  host : Option String := none
  port : Option UInt16 := none
  database : Option String := none
  user : Option String := none
  password : Option String := none
  deriving DecidableEq

inductive Target where
  | uri (text : String)
  | fields (f : TargetFields)
  deriving DecidableEq

structure Options where
  target : Target
  sslMode : Option SslMode := none
  proxy : Option Proxy := none
  ssh : Option JumpHost := none
  /-- How long one attempt may take, in milliseconds. -/
  timeout : Option Nat := none
  dialectOptions : Option Json := none

structure Resolved where
  dialect : Dialect
  /-- Where the driver dials. -/
  host : String
  port : UInt16
  /-- The database's own host, whatever the driver dials. -/
  serverName : String
  database : Option String
  user : Option String
  password : Option String
  sslMode : SslMode
  proxy : Option Proxy
  ssh : Option JumpHost
  timeout : Option Nat
  dialectOptions : Option Json
  uri : Option TargetUri

def TargetFields.debug (f : TargetFields) : String :=
  Quoted.record "TargetFields"
    [("dialect", Quoted.option Dialect.debug f.dialect),
      ("host", Quoted.option Quoted.text f.host),
      ("port", Quoted.option (fun p => toString p.toNat) f.port),
      ("database", Quoted.option Quoted.text f.database),
      ("user", Quoted.option Quoted.text f.user),
      ("password", Quoted.option (fun _ => Quoted.text hiddenPassword) f.password)]

def Target.debug : Target → String
  | .uri text => Quoted.wrapped "Uri" (Quoted.text (sanitize text))
  | .fields f => Quoted.wrapped "Fields" f.debug

def TargetUri.fields (uri : TargetUri) : TargetFields where
  dialect := some uri.dialect
  host := some uri.host
  port := uri.port
  database := uri.database
  user := uri.user
  password := uri.password

namespace Options

def debug (o : Options) : String :=
  Quoted.record "ConnectionOptions"
    [("target", o.target.debug), ("ssl_mode", Quoted.option SslMode.debug o.sslMode),
      ("proxy", Quoted.option Proxy.debug o.proxy), ("ssh", Quoted.option JumpHost.debug o.ssh),
      ("connect_timeout", Quoted.option Quoted.duration o.timeout),
      ("dialect_options", Quoted.option Json.debug o.dialectOptions)]

def moveTo (o : Options) (host : String) (port : UInt16) : Except Fault Options :=
  match o.target with
  | .uri text =>
    match TargetUri.parse text with
    | .error fault => .error fault
    | .ok uri => .ok { o with target := .uri (uri.moveTo host port).raw }
  | .fields f => .ok { o with target := .fields { f with host := some host, port := some port } }

def readTarget (o : Options) : Except Fault (TargetFields × Option TargetUri) :=
  match o.target with
  | .uri text => (TargetUri.parse text).map fun uri => (uri.fields, some uri)
  | .fields f => .ok (f, none)

/-- A mode given with the options wins over one in the URI. -/
def chooseMode (o : Options) (uri : Option TargetUri) : Except Fault SslMode :=
  match o.sslMode, uri with
  | some mode, _ => .ok mode
  | none, some uri => uri.sslMode.map fun mode => mode.getD SslMode.default
  | none, none => .ok SslMode.default

def defect? (o : Options) : Option Misconfiguration :=
  (o.proxy.bind Proxy.defect?).or <|
    (o.ssh.bind JumpHost.defect?).or <|
      if o.timeout = some 0 then some .zeroTimeout else none

def resolve (o : Options) : Except Fault Resolved := do
  let (fields, uri) ← o.readTarget
  let some dialect := fields.dialect | .error (.configuration .dialectMissing)
  let some host := fields.host.filter (fun h => !Text.blank h)
    | .error (.configuration .hostMissing)
  let port ← dialect.resolvePort fields.port
  let sslMode ← o.chooseMode uri
  match o.defect? with
  | some defect => .error (.configuration defect)
  | none =>
    .ok {
      dialect
      host
      port
      serverName := host
      database := fields.database
      user := fields.user
      password := fields.password
      sslMode
      proxy := o.proxy
      ssh := o.ssh
      timeout := o.timeout
      dialectOptions := o.dialectOptions
      uri }

end Options

namespace Resolved

/-- The target as it is named in failures: its URI with the password hidden, or the same text put
together from the fields. -/
def sanitizedUri (r : Resolved) : String :=
  match r.uri with
  | some uri => uri.sanitized
  | none =>
    let login :=
      match r.user, r.password with
      | some user, some _ => user ++ ":" ++ hiddenPassword ++ "@"
      | some user, none => user ++ "@"
      | none, _ => ""
    r.dialect.name ++ "://" ++ login ++ authorityText r.host (some r.port) ++ "/" ++
      r.database.getD ""

def needsTunnel (r : Resolved) : Bool :=
  r.proxy.isSome || r.ssh.isSome

def plan? (r : Resolved) : Option Plan :=
  if r.needsTunnel then some (Plan.ofParts ⟨r.host, r.port⟩ r.proxy r.ssh) else none

/-- The request with another place to dial. The server keeps its own name. -/
def moveTo (r : Resolved) (host : String) (port : UInt16) : Resolved :=
  { r with host, port, uri := r.uri.map (·.moveTo host port) }

def debug (r : Resolved) : String :=
  Quoted.record "ResolvedOptions"
    [("dialect", r.dialect.debug), ("host", Quoted.text r.host),
      ("port", toString r.port.toNat), ("server_name", Quoted.text r.serverName),
      ("database", Quoted.option Quoted.text r.database),
      ("user", Quoted.option Quoted.text r.user),
      ("password", Quoted.option Quoted.text r.password),
      ("ssl_mode", r.sslMode.debug), ("proxy", Quoted.option Proxy.debug r.proxy),
      ("ssh", Quoted.option JumpHost.debug r.ssh),
      ("connect_timeout", Quoted.option Quoted.duration r.timeout),
      ("dialect_options", Quoted.option Json.debug r.dialectOptions),
      ("uri", Quoted.option TargetUri.debug r.uri)]

end Resolved
end Passage
